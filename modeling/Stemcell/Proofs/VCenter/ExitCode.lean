import Stemcell.Proofs.VCenter.Field
import Stemcell.Proofs.Value

/-! The exit code of a process in an answer. The processes are gone through up to the first one with
the number in question: its code is the result, whatever stands behind it, and without a code the search
ends. What an entry has to be for this is not checked, and then a fault comes out in place of a problem. -/
namespace Stemcell.VCenter

open Json (Document)

section
variable {pid process : Value} {entries top : List (Value × Value)} {before : List Value}

/-- The number of a process, written as a text, is `pid`. -/
def Named (pid : Value) (process : List (Value × Value)) : Prop :=
  (under "Pid" process).displayCodes = pid.displayCodes

instance (pid : Value) (process : List (Value × Value)) : Decidable (Named pid process) :=
  inferInstanceAs (Decidable (_ = _))

/-- A process with another number. -/
def Other (pid process : Value) : Prop := ∃ entries, process = .mapping entries ∧ ¬Named pid entries

/-- There is no code to be had for the process. -/
def noCode (pid : Value) : Failure := .vcenter (.noExitCode pid.display)

theorem noCode_message (pid : Value) :
    (noCode pid).message = "vcenter_client - failed to get exit code for process " ++ pid.display := rfl

/-! Going through the processes. -/

theorem exitCodeAmong_other (h : Other pid process) (rest : List Value) :
    exitCodeAmong pid (process :: rest) = exitCodeAmong pid rest := by
  obtain ⟨entries, rfl, hother⟩ := h
  rw [exitCodeAmong, field_mapping]
  exact if_neg hother

theorem exitCodeAmong_others (h : ∀ process ∈ before, Other pid process) (rest : List Value) :
    exitCodeAmong pid (before ++ rest) = exitCodeAmong pid rest := by
  induction before with
  | nil => rfl
  | cons process before ih =>
    obtain ⟨hprocess, hbefore⟩ := List.forall_mem_cons.mp h
    rw [List.cons_append, exitCodeAmong_other hprocess, ih hbefore]

theorem exitCodeAmong_none {processes : List Value} (h : ∀ process ∈ processes, Other pid process) :
    exitCodeAmong pid processes = .error (noCode pid) := by
  have hall := exitCodeAmong_others h []
  rw [List.append_nil] at hall
  exact hall

theorem exitCodeAmong_named (h : Named pid entries) (rest : List Value) :
    exitCodeAmong pid (.mapping entries :: rest) =
      match under "ExitCode" entries with
      | .null => .error (noCode pid)
      | code => code.wholeNumber.mapError .fault := by
  rw [exitCodeAmong, field_mapping, field_mapping]
  exact if_pos h

theorem exitCodeAmong_codeless (h : Named pid entries) (hnone : under "ExitCode" entries = .null)
    (rest : List Value) : exitCodeAmong pid (.mapping entries :: rest) = .error (noCode pid) := by
  rw [exitCodeAmong_named h, hnone]

theorem exitCodeAmong_given (h : Named pid entries) (hgiven : under "ExitCode" entries ≠ .null)
    (rest : List Value) : exitCodeAmong pid (.mapping entries :: rest) =
      (under "ExitCode" entries).wholeNumber.mapError .fault := by
  rw [exitCodeAmong_named h]
  split
  · exact absurd ‹_› hgiven
  · rfl

theorem exitCodeAmong_refused (h : ∀ entries, process ≠ .mapping entries) (rest : List Value) :
    ∃ f, exitCodeAmong pid (process :: rest) = .error (.fault f) ∧
      (f.family = .attribute ∨ f.family = .type) := by
  obtain ⟨f, hf, hfamily⟩ := field_refused "Pid" h
  exact ⟨f, by rw [exitCodeAmong, hf]; rfl, hfamily⟩

/-- The first entry that the search does not pass. -/
theorem first_stop (pid : Value) (processes : List Value) :
    (∀ process ∈ processes, Other pid process) ∨
      ∃ before process after, processes = before ++ process :: after ∧
        (∀ other ∈ before, Other pid other) ∧ ¬Other pid process := by
  induction processes with
  | nil => exact .inl (by simp)
  | cons process processes ih =>
    by_cases hprocess : Other pid process
    · rcases ih with hall | ⟨before, stop, after, rfl, hbefore, hstop⟩
      · exact .inl (List.forall_mem_cons.mpr ⟨hprocess, hall⟩)
      · exact .inr ⟨process :: before, stop, after, rfl, List.forall_mem_cons.mpr ⟨hprocess, hbefore⟩, hstop⟩
    · exact .inr ⟨[], process, processes, rfl, by simp, hprocess⟩

/-! The list of processes. -/

theorem exitCodeIn_mapping (pid : Value) (top : List (Value × Value)) :
    exitCodeIn pid (.mapping top) =
      ((itemsOf (orNoItems (under "ProcessInfo" top))).mapError .fault >>= exitCodeAmong pid) := by
  rw [exitCodeIn, field_mapping]
  rfl

theorem exitCodeIn_refused {doc : Value} {f : Fault} (h : field "ProcessInfo" doc = .error f) :
    exitCodeIn pid doc =
      .error (unreadable [.attribute] (.unreadableProcesses pid.display) f) := by
  rw [exitCodeIn, h]
  rfl

theorem exitCodeIn_listed {processes : List Value} (h : under "ProcessInfo" top = .list processes) :
    exitCodeIn pid (.mapping top) = exitCodeAmong pid processes := by
  rw [exitCodeIn_mapping, h]
  cases processes <;> rfl

theorem exitCodeIn_absent (h : (under "ProcessInfo" top).isTruthy = false) :
    exitCodeIn pid (.mapping top) = .error (noCode pid) := by
  rw [exitCodeIn_mapping, orNoItems, h]
  rfl

theorem exitCodeOf_read {stdout : String} {doc : Value} (h : Json.read stdout = .ok doc) (pid : Value) :
    exitCodeOf stdout pid = exitCodeIn pid doc := by
  unfold exitCodeOf document
  rw [h]
  rfl

/-- In an answer with a list of processes, those in front of the first one with the number and those behind
it do not count. -/
theorem exitCodeOf_first (stdout : String) (pid : Value) (top : List (Value × Value))
    (hread : Json.read stdout = .ok (.mapping top)) :
    (∀ before entries after, under "ProcessInfo" top = .list (before ++ .mapping entries :: after) →
      (∀ process ∈ before, Other pid process) → Named pid entries →
      (∀ code, under "ExitCode" entries = .int code → exitCodeOf stdout pid = .ok code) ∧
        (under "ExitCode" entries = .null → exitCodeOf stdout pid = .error (noCode pid))) ∧
    (∀ processes, under "ProcessInfo" top = .list processes → (∀ process ∈ processes, Other pid process) →
      exitCodeOf stdout pid = .error (noCode pid)) ∧
    (under "ProcessInfo" top = .null → exitCodeOf stdout pid = .error (noCode pid)) ∧
    (noCode pid).message = "vcenter_client - failed to get exit code for process " ++ pid.display := by
  rw [exitCodeOf_read hread]
  refine ⟨fun before entries after hlist hbefore hnamed => ?_, fun processes hlist hall => ?_, fun hnull => ?_,
    noCode_message pid⟩
  · rw [exitCodeIn_listed hlist, exitCodeAmong_others hbefore]
    refine ⟨fun code hcode => ?_, fun hnone => exitCodeAmong_codeless hnamed hnone after⟩
    rw [exitCodeAmong_given hnamed (by simp [hcode]), hcode]
    rfl
  · rw [exitCodeIn_listed hlist, exitCodeAmong_none hall]
  · exact exitCodeIn_absent (by rw [hnull]; rfl)

/-- The first process has another number, written as a text; what stands behind the second one does not
count. -/
theorem exitCodeOf_first_small :
    let stdout := "\x7b\"processInfo\": [\x7b\"pid\": \"8\"\x7d, \x7b\"pid\": 7, \"exitCode\": 2\x7d, " ++
      "\x7b\"Pid\": 7, \"ExitCode\": 0\x7d, null]\x7d"
    let other := [(Value.text "pid", Value.text "8")]
    let found := [(Value.text "pid", Value.int 7), (.text "exitCode", .int 2)]
    let again := [(Value.text "Pid", Value.int 7), (.text "ExitCode", .int 0)]
    let top := [(Value.text "processInfo", Value.list [.mapping other, .mapping found, .mapping again, .null])]
    Json.read stdout = .ok (.mapping top) ∧
      under "ProcessInfo" top = .list ([.mapping other] ++ .mapping found :: [.mapping again, .null]) ∧
      Other (.text "7") (.mapping other) ∧ Named (.text "7") found ∧ under "ExitCode" found = .int 2 ∧
      exitCodeOf stdout (.text "7") = .ok 2 := by
  intro stdout other found again top
  have hread : Json.read stdout = .ok (.mapping top) := eq_ok_of_toOption (by decide +kernel)
  have hlist : under "ProcessInfo" top = .list ([.mapping other] ++ .mapping found :: [.mapping again, .null]) := rfl
  have hother : Other (.text "7") (.mapping other) := ⟨other, rfl, by decide +kernel⟩
  have hnamed : Named (.text "7") found := by decide +kernel
  have hcode : under "ExitCode" found = .int 2 := rfl
  have hfirst := exitCodeOf_first stdout (.text "7") top hread
  have hresult := hfirst.1 [.mapping other] found [.mapping again, .null] hlist (by simpa using hother) hnamed
  exact ⟨hread, hlist, hother, hnamed, hcode, hresult.1 2 hcode⟩

end

/-! What an answer has to be. -/

/-- The document is no mapping, and looking for the name in it is impossible, as in a number, or successful, as
it may be in a text or a list. Where it is neither, the next step fails in the one way that is caught. -/
inductive Mistaken : Value → Prop where
  | null : Mistaken .null
  | bool (b : Bool) : Mistaken (.bool b)
  | int (n : Int) : Mistaken (.int n)
  | float (x : Number.Binary64) : Mistaken (.float x)
  | text {doc : Value} (h : doc.kind = .text) (hname : Text.contains doc.display "ProcessInfo" = true) :
    Mistaken doc
  | list {items : List Value} (h : .text "ProcessInfo" ∈ items) : Mistaken (.list items)

/-- The shapes in which something else than an answer comes out: the document is mistaken, the processes come
in something else than a list, the search meets what is no description of a process, or the code of the process
is no whole number. -/
inductive Unforeseen (pid : Value) : Value → Prop where
  | document {doc : Value} (h : Mistaken doc) : Unforeseen pid doc
  | processes {top : List (Value × Value)} (hgiven : (under "ProcessInfo" top).isTruthy = true)
    (h : ∀ processes, under "ProcessInfo" top ≠ .list processes) : Unforeseen pid (.mapping top)
  | process {top : List (Value × Value)} {before : List Value} {process : Value} (after : List Value)
    (hlist : under "ProcessInfo" top = .list (before ++ process :: after))
    (hbefore : ∀ process ∈ before, Other pid process) (h : ∀ entries, process ≠ .mapping entries) :
    Unforeseen pid (.mapping top)
  | code {top entries : List (Value × Value)} {before : List Value} (after : List Value) {f : Fault}
    (hlist : under "ProcessInfo" top = .list (before ++ .mapping entries :: after))
    (hbefore : ∀ process ∈ before, Other pid process) (hnamed : Named pid entries)
    (hgiven : under "ExitCode" entries ≠ .null) (h : (under "ExitCode" entries).wholeNumber = .error f) :
    Unforeseen pid (.mapping top)

/-- A whole number, or one of the two complaints. -/
def Answered (pid : Value) (result : Except Failure Int) : Prop :=
  (∃ code, result = .ok code) ∨ result = .error (.vcenter (.unreadableProcesses pid.display)) ∨
    result = .error (noCode pid)

/-- A fault in place of an answer: a value was of another kind, lacked an operation or was no whole number. -/
def Uncaught (result : Except Failure Int) : Prop :=
  ∃ f, result = .error (.fault f) ∧ f.family ∈ [.type, .attribute, .value, .overflow]

/-! A document that is no mapping. -/

theorem field_mistaken {doc : Value} (h : Mistaken doc) :
    ∃ f, field "ProcessInfo" doc = .error f ∧ f.family = .type := by
  cases h with
  | text hkind hname =>
    cases doc with
    | text s => exact ⟨_, if_pos hname, rfl⟩
    | ragged codes => exact ⟨_, if_pos hname, rfl⟩
    | enclosing isMapping => cases isMapping <;> cases hkind
    | _ => cases hkind
  | @list items hitem =>
    have hnamed : items.any (·.sameAtom (.text "ProcessInfo")) = true :=
      List.any_eq_true.mpr ⟨_, hitem, sameAtom_text_iff.mpr rfl⟩
    exact ⟨_, if_pos hnamed, rfl⟩
  | _ => exact ⟨_, rfl, rfl⟩

theorem field_unmistaken {doc : Value} (hdoc : Document doc) (hmapping : ∀ entries, doc ≠ .mapping entries)
    (h : ¬Mistaken doc) : ∃ f, field "ProcessInfo" doc = .error f ∧ f.family = .attribute := by
  cases hdoc with
  | null => exact absurd .null h
  | bool b => exact absurd (.bool b) h
  | int n => exact absurd (.int n) h
  | float x => exact absurd (.float x) h
  | text s => exact ⟨_, if_neg fun hname => h (.text rfl hname), rfl⟩
  | ragged codes => exact ⟨_, if_neg fun hname => h (.text rfl hname), rfl⟩
  | list hall =>
    refine ⟨_, if_neg fun hnamed => ?_, rfl⟩
    obtain ⟨item, hitem, hsame⟩ := List.any_eq_true.mp hnamed
    rw [sameAtom_text_iff.mp hsame] at hitem
    exact h (.list hitem)
  | mapping hkeys hall => exact absurd rfl (hmapping _)

/-! Faults on the way, and an answer where there is none. -/

theorem wholeNumberIn_fault {base : Nat} {s : String} {f : Fault} (h : Text.wholeNumberIn base s = .error f) :
    f.family = .value := by
  unfold Text.wholeNumberIn at h
  dsimp only at h
  split at h
  · cases h
    rfl
  · split at h
    · cases h
      rfl
    · split at h <;> cases h
      rfl

theorem wholeNumber_fault {v : Value} {f : Fault} (h : v.wholeNumber = .error f) :
    f.family ∈ [.type, .attribute, .value, .overflow] := by
  cases v with
  | text s => simp [wholeNumberIn_fault h]
  | float x =>
    simp only [Value.wholeNumber] at h
    split at h <;> cases h <;> simp [Fault.family]
  | _ => cases h <;> simp [Fault.family]

theorem exitCodeAmong_uncaught {pid process : Value} (h : ∀ entries, process ≠ .mapping entries)
    (rest : List Value) : Uncaught (exitCodeAmong pid (process :: rest)) := by
  obtain ⟨f, hresult, hfamily⟩ := exitCodeAmong_refused h rest
  refine ⟨f, hresult, ?_⟩
  cases hfamily with
  | inl hattribute => simp [hattribute]
  | inr htype => simp [htype]

/-- What is no list is gone through by texts, or not at all. -/
theorem itemsOf_uncaught {listed : Value} (hdoc : Document listed) (hgiven : listed.isTruthy = true)
    (h : ∀ processes, listed ≠ .list processes) (pid : Value) :
    Uncaught ((itemsOf listed).mapError .fault >>= exitCodeAmong pid) := by
  cases hdoc with
  | text s =>
    cases hs : s.toList with
    | nil =>
      rw [String.toList_eq_nil_iff] at hs
      subst hs
      cases hgiven
    | cons c rest =>
      rw [itemsOf, hs]
      exact exitCodeAmong_uncaught (not_mapping_of_text rfl) _
  | ragged codes =>
    cases codes with
    | nil => cases hgiven
    | cons u rest => exact exitCodeAmong_uncaught (not_mapping_of_text (Json.kind_ofCodes [u])) _
  | @mapping entries hkeys hall =>
    cases entries with
    | nil => cases hgiven
    | cons e rest => exact exitCodeAmong_uncaught (not_mapping_of_text (hkeys e List.mem_cons_self)) _
  | list hall => exact absurd rfl (h _)
  | null => cases hgiven
  | _ => exact ⟨_, rfl, by simp [Fault.family]⟩

theorem exitCodeIn_unforeseen {doc : Value} (hdoc : Document doc) {pid : Value} (h : Unforeseen pid doc) :
    Uncaught (exitCodeIn pid doc) := by
  cases h with
  | document hmistaken =>
    obtain ⟨f, hf, hfamily⟩ := field_mistaken hmistaken
    refine ⟨f, ?_, by simp [hfamily]⟩
    rw [exitCodeIn_refused hf, unreadable, hfamily]
    rfl
  | processes hgiven hlist =>
    rw [exitCodeIn_mapping, orNoItems, if_pos hgiven]
    exact itemsOf_uncaught (document_under hdoc "ProcessInfo") hgiven hlist pid
  | process after hlist hbefore hprocess =>
    rw [exitCodeIn_listed hlist, exitCodeAmong_others hbefore]
    exact exitCodeAmong_uncaught hprocess after
  | @code top entries before after f hlist hbefore hnamed hgiven hf =>
    rw [exitCodeIn_listed hlist, exitCodeAmong_others hbefore, exitCodeAmong_given hnamed hgiven, hf]
    exact ⟨f, rfl, wholeNumber_fault hf⟩

theorem exitCodeAmong_answered {pid : Value} {top : List (Value × Value)} {processes : List Value}
    (hlist : under "ProcessInfo" top = .list processes) (h : ¬Unforeseen pid (.mapping top)) :
    Answered pid (exitCodeAmong pid processes) := by
  cases first_stop pid processes with
  | inl hall => exact .inr (.inr (exitCodeAmong_none hall))
  | inr hstop =>
    obtain ⟨before, process, after, rfl, hbefore, hprocess⟩ := hstop
    rw [exitCodeAmong_others hbefore]
    -- The first entry that is not passed is a process with this number: the other shapes are excluded.
    have hmapping : ∃ entries, process = .mapping entries :=
      Classical.byContradiction fun hnone =>
        h (.process after hlist hbefore fun entries hentries => hnone ⟨entries, hentries⟩)
    obtain ⟨entries, rfl⟩ := hmapping
    have hnamed : Named pid entries :=
      Decidable.byContradiction fun hother => hprocess ⟨entries, rfl, hother⟩
    by_cases hgiven : under "ExitCode" entries = .null
    · exact .inr (.inr (exitCodeAmong_codeless hnamed hgiven after))
    · rw [exitCodeAmong_given hnamed hgiven]
      cases hcode : (under "ExitCode" entries).wholeNumber with
      | ok code => exact .inl ⟨code, rfl⟩
      | error f => exact absurd (.code after hlist hbefore hnamed hgiven hcode) h

theorem exitCodeIn_answered {doc : Value} (hdoc : Document doc) {pid : Value} (h : ¬Unforeseen pid doc) :
    Answered pid (exitCodeIn pid doc) := by
  by_cases hmapping : ∃ top, doc = .mapping top
  · obtain ⟨top, rfl⟩ := hmapping
    by_cases hgiven : (under "ProcessInfo" top).isTruthy = true
    · by_cases hlist : ∃ processes, under "ProcessInfo" top = .list processes
      · obtain ⟨processes, hprocesses⟩ := hlist
        rw [exitCodeIn_listed hprocesses]
        exact exitCodeAmong_answered hprocesses h
      · exact absurd (.processes hgiven fun processes hprocesses => hlist ⟨processes, hprocesses⟩) h
    · exact .inr (.inr (exitCodeIn_absent (Bool.eq_false_iff.mpr hgiven)))
  · obtain ⟨f, hf, hfamily⟩ := field_unmistaken hdoc (fun top htop => hmapping ⟨top, htop⟩)
      fun hmistaken => h (.document hmistaken)
    refine .inr (.inl ?_)
    rw [exitCodeIn_refused hf, unreadable, hfamily]
    rfl

theorem not_answered_of_uncaught {pid : Value} {result : Except Failure Int} (h : Uncaught result) :
    ¬Answered pid result := by
  obtain ⟨f, rfl, -⟩ := h
  simp [Answered, noCode]

/-- Where no limit of the reader is met, the answer is a whole number or one of the two complaints, but for the
shapes that were not foreseen. In those a fault comes out. -/
theorem exitCodeOf_answered (stdout : String) (pid : Value) :
    (Answered pid (exitCodeOf stdout pid) ↔ (∀ f, Json.read stdout ≠ .error (.fault f)) ∧
      ∀ doc, Json.read stdout = .ok doc → ¬Unforeseen pid doc) ∧
    (∀ f, Json.read stdout = .error (.fault f) → Json.Beyond stdout.toList f) ∧
    ∀ doc, Json.read stdout = .ok doc → Unforeseen pid doc → Uncaught (exitCodeOf stdout pid) := by
  have huncaught : ∀ doc, Json.read stdout = .ok doc → Unforeseen pid doc →
      Uncaught (exitCodeOf stdout pid) := by
    intro doc h hunforeseen
    rw [exitCodeOf_read h]
    exact exitCodeIn_unforeseen (Json.document_of_read h) hunforeseen
  refine ⟨⟨fun hanswered => ⟨fun f h => ?_, fun doc h hunforeseen => ?_⟩, fun ⟨hlimits, hforeseen⟩ => ?_⟩,
    fun f => Json.beyond_of_read, huncaught⟩
  · simp [exitCodeOf, document, h, Answered, noCode, bind, Except.bind] at hanswered
  · exact not_answered_of_uncaught (huncaught doc h hunforeseen) hanswered
  · cases h : Json.read stdout with
    | ok doc =>
      rw [exitCodeOf_read h]
      exact exitCodeIn_answered (Json.document_of_read h) (hforeseen doc h)
    | error e =>
      cases e with
      | malformed =>
        refine .inr (.inl ?_)
        unfold exitCodeOf document
        rw [h]
        rfl
      | fault f => exact absurd h (hlimits f)

/-- Processes that are a number, and a code in words. -/
example :
    let counted := "\x7b\"ProcessInfo\": 7\x7d"
    let worded := "\x7b\"ProcessInfo\": [\x7b\"Pid\": 7, \"ExitCode\": \"failed\"\x7d]\x7d"
    (exitCodeOf counted (.text "7") matches .error (.fault (.notIterable .int))) = true ∧
      (exitCodeOf worded (.text "7") matches .error (.fault (.notWhole 10 _))) = true := by
  decide +kernel

end Stemcell.VCenter
