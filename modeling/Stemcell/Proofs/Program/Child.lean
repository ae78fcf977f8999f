import Mathlib.Data.Set.List
import Stemcell.Proofs.Assembly
import Stemcell.Proofs.Construct.Answers
import Stemcell.Proofs.Ending

/-! Programs by what they do once they are started. What a run reports does not depend on anything else,
and a run comes to a report unless the program writes what is no text. -/
namespace Stemcell

namespace Environment

theorem mem_set {env : Environment} {name : String} {value : Value} {e : String × Value}
    (h : e ∈ set name value env) : e ∈ env ∨ e = (name, value) := by
  induction env with
  | nil => exact .inr (List.mem_singleton.mp h)
  | cons d env ih =>
    rw [set] at h
    split at h
    case isTrue hname =>
      rcases List.mem_cons.mp h with rfl | h
      · exact .inr (congrArg (·, value) hname)
      · exact .inl (List.mem_cons_of_mem d h)
    case isFalse =>
      rcases List.mem_cons.mp h with rfl | h
      · exact .inl (List.mem_cons_self ..)
      · exact (ih h).imp_left (List.mem_cons_of_mem d)

theorem mem_overlay {env more : Environment} {e : String × Value} (h : e ∈ env.overlay more) :
    e ∈ env ∨ e ∈ more := by
  induction more generalizing env with
  | nil => exact .inl h
  | cons d more ih =>
    have hoverlay : e ∈ (set d.1 d.2 env).overlay more := h
    rcases ih hoverlay with hset | hmore
    · exact (mem_set hset).imp_right fun hd => List.mem_cons.mpr (.inl hd)
    · exact .inr (List.mem_cons_of_mem d hmore)

end Environment

namespace Program

open Stemcell.Action (comes_pure comes_ofFault comes_ofFault_stop)

/-- What becomes of a program that was to be started: it is not there, it takes too long, or it ends with a
status behind some bytes. -/
inductive Child where
  | missing
  | timedOut
  | ended (status : Int) (stdout stderr : List UInt8)
  deriving DecidableEq, Repr

/-- What its starter sees of it. -/
def Child.ending : Child → Except Fault Ending
  | .missing => .ok .missing
  | .timedOut => .ok .timedOut
  | .ended status stdout stderr => Ending.ofBytes (.int status) stdout stderr

/-- Starts the program, if it can be started like this. -/
def Child.start {σ : Type} (child : Child) (request : Request) : Action σ Ending := do
  Action.ofFault (check request)
  Action.ofFault child.ending

/-- All that the program writes is text. -/
def Child.Readable : Child → Prop
  | .missing | .timedOut => True
  | .ended _ stdout stderr => Text.Utf8.decode? stdout ≠ none ∧ Text.Utf8.decode? stderr ≠ none

/-- What is reported of the program with a name, if nothing was said about how long to wait. -/
def Ending.report (name : String) : Ending → Report
  | .ended status stdout stderr => ⟨status, stdout, stderr⟩
  | .missing => ⟨.int 1, "", s!"'{name}' not found"⟩
  | .timedOut => ⟨.int 1, "", s!"timed out after {Value.null.display}s"⟩

theorem written_eq_error_iff {data : List UInt8} {f : Fault} :
    written data = .error f ↔ Text.Utf8.decode? data = none ∧ f = .undecodable := by
  unfold written
  cases Text.Utf8.decode? data with
  | none => simp [eq_comm]
  | some text => simp

theorem exists_written {data : List UInt8} (h : Text.Utf8.decode? data ≠ none) :
    ∃ text, written data = .ok text := by
  cases hdata : written data with
  | error f => exact absurd (written_eq_error_iff.mp hdata).1 h
  | ok text => exact ⟨text, rfl⟩

theorem Child.ending_of_readable {child : Child} (h : child.Readable) : ∃ ending, child.ending = .ok ending := by
  cases child with
  | missing | timedOut => exact ⟨_, rfl⟩
  | ended status stdout stderr =>
    obtain ⟨out, hout⟩ := exists_written h.1
    obtain ⟨err, herr⟩ := exists_written h.2
    refine ⟨.ended (.int status) out err, ?_⟩
    rw [Child.ending, Ending.ofBytes, hout, herr]
    rfl

theorem Child.ending_of_unreadable {child : Child} (h : ¬child.Readable) : child.ending = .error .undecodable := by
  cases child with
  | missing | timedOut => exact absurd trivial h
  | ended status stdout stderr =>
    rw [Child.ending, Ending.ofBytes]
    by_cases hout : Text.Utf8.decode? stdout = none
    · rw [written_eq_error_iff.mpr ⟨hout, rfl⟩]
      rfl
    · have herr : Text.Utf8.decode? stderr = none := Decidable.byContradiction fun herr => h ⟨hout, herr⟩
      obtain ⟨out, hwritten⟩ := exists_written hout
      rw [hwritten, written_eq_error_iff.mpr ⟨herr, rfl⟩]
      rfl

/-- What was reported to be written was written. -/
theorem Child.report_stdout {status : Int} {stdout stderr : List UInt8} {ending : Ending}
    (h : (Child.ended status stdout stderr).ending = .ok ending) (name : String) :
    (ending.report name).status = .int status ∧ written stdout = .ok (ending.report name).stdout := by
  obtain ⟨out, hout, h⟩ := ok_of_bind h
  obtain ⟨err, -, h⟩ := ok_of_bind h
  cases h
  exact ⟨rfl, hout⟩

/-- Success is reported of nothing but a program that ended with zero. -/
theorem Child.report_zero_iff {child : Child} {ending : Ending} (h : child.ending = .ok ending) (name : String) :
    (ending.report name).status.isZero = true ↔ ∃ stdout stderr, child = .ended 0 stdout stderr := by
  have hone : (Value.int 1).isZero = false := by decide
  cases child with
  | missing | timedOut =>
    cases h
    simp [Ending.report, hone]
  | ended status stdout stderr =>
    rw [(Child.report_stdout h name).1]
    simp [Value.isZero, Value.number?, Value.sameNumber]

/-! What can be handed over to a program. -/

/-- A text without null characters. -/
def Plain (v : Value) : Prop := ∃ s : String, v = .text s ∧ '\x00' ∉ s.toList

/-- A variable with a name that the system takes and a plain value. -/
structure PlainVariable (e : String × Value) : Prop where
  noEquals : '=' ∉ e.1.toList
  noNull : '\x00' ∉ e.1.toList
  value : Plain e.2

theorem checkNull_ok {s : String} (h : '\x00' ∉ s.toList) : checkNull s = .ok () := by
  simp [checkNull, h]

theorem variable_plain {name : String} {v : Value} (hname : '=' ∉ name.toList ∧ '\x00' ∉ name.toList)
    (hv : Plain v) : PlainVariable (name, v) := ⟨hname.1, hname.2, hv⟩

theorem forM_ok {α : Type} {check : α → Except Fault Unit} {items : List α} (h : ∀ x ∈ items, check x = .ok ()) :
    items.forM check = .ok () := by
  induction items with
  | nil => rfl
  | cons x items ih =>
    refine bind_of_ok (h x (List.mem_cons_self ..)) ?_
    exact ih fun y hy => h y (List.mem_cons_of_mem x hy)

theorem words_plain {command : List Value} (h : ∀ v ∈ command, Plain v) (place : Nat) :
    ∃ texts, words place command = .ok texts := by
  obtain ⟨texts, rfl⟩ : command ∈ Set.range (List.map Value.text) := by
    rw [Set.range_list_map]
    intro v hv
    obtain ⟨s, rfl, -⟩ := h v hv
    exact ⟨s, rfl⟩
  exact ⟨texts, Construct.words_text texts place⟩

theorem variableTexts_plain {env : Environment} (h : ∀ e ∈ env, PlainVariable e) :
    ∃ texts, variableTexts env = .ok texts ∧ ∀ t ∈ texts, '\x00' ∉ t.toList := by
  induction env with
  | nil => exact ⟨[], rfl, by simp⟩
  | cons e env ih =>
    obtain ⟨name, value⟩ := e
    obtain ⟨hequals, hnull, s, rfl, hs⟩ := h _ (List.mem_cons_self ..)
    obtain ⟨texts, htexts, hplain⟩ := ih fun e he => h e (List.mem_cons_of_mem _ he)
    refine ⟨name :: s :: texts, ?_, ?_⟩
    · rw [variableTexts, if_neg (by simpa using hequals), htexts]
      rfl
    · simp only [List.mem_cons, forall_eq_or_imp]
      exact ⟨hnull, hs, hplain⟩

/-- Whether a program can be started like this, by its words and by what is handed over. -/
def startable (request : Request) : Except Fault Unit := do
  let _ ← words 0 request.command
  check request

/-- Plain words in a plain environment make a program that can be started. -/
theorem startable_plain {request : Request} (hcommand : ∀ v ∈ request.command, Plain v)
    (henvironment : ∀ e ∈ request.environment.getD [], PlainVariable e) : startable request = .ok () := by
  obtain ⟨texts, htexts, hnull⟩ := variableTexts_plain henvironment
  obtain ⟨words, hwords⟩ := words_plain hcommand 0
  have hcommandNull : (request.command.forM fun v => do checkNull (← handedOver v)) = .ok () := by
    refine forM_ok fun v hv => ?_
    obtain ⟨s, rfl, hs⟩ := hcommand v hv
    exact checkNull_ok hs
  have htextsNull : texts.forM checkNull = .ok () := forM_ok fun t ht => checkNull_ok (hnull t ht)
  refine bind_of_ok hwords ?_
  exact bind_of_ok htexts (bind_of_ok hwords (bind_of_ok hcommandNull htextsNull))

variable {σ : Type} [Log.Sink σ] {ready : σ → Prop}

/-- A run of a program that can be started comes to what is reported of its end. -/
theorem comes_run (hlog : Log.Takes ready) (environ : Environment) (child : Child) {name : String}
    {arguments : List Value} {more : Environment}
    (h : startable (request environ (.text name :: arguments) more) = .ok ()) :
    (∀ f, child.ending = .error f →
      (run environ child.start (.text name :: arguments) more .null : Action σ Report).Comes ready
        (.error (.failure (.fault f)))) ∧
    ∀ ending, child.ending = .ok ending →
      (run environ child.start (.text name :: arguments) more .null : Action σ Report).Comes ready
        (.ok (ending.report name)) := by
  obtain ⟨texts, hwords, hcheck⟩ := ok_of_bind h
  unfold run Child.start
  refine ⟨fun f hf => ?_, fun ending hending => ?_⟩
  · refine comes_ofFault hwords ((hlog _ _ _).bind ?_)
    rw [bind_assoc]
    exact comes_ofFault hcheck (comes_ofFault_stop hf _)
  · refine comes_ofFault hwords ((hlog _ _ _).bind ?_)
    rw [bind_assoc]
    refine comes_ofFault hcheck (comes_ofFault hending ?_)
    cases ending with
    | ended status stdout stderr => exact comes_pure _
    | missing | timedOut => exact (hlog _ _ _).bind (comes_pure _)

/-- A program that cannot be started like this is not started. -/
theorem comes_run_refused (hlog : Log.Takes ready) (environ : Environment) (child : Child) {command : List Value}
    {more : Environment} {f : Fault}
    (h : startable (request environ command more) = .error f) :
    (run environ child.start command more .null : Action σ Report).Comes ready (.error (.failure (.fault f))) := by
  unfold run
  rcases error_of_bind h with hwords | ⟨texts, hwords, hcheck⟩
  · exact comes_ofFault_stop hwords _
  · refine comes_ofFault hwords ((hlog _ _ _).bind ?_)
    unfold Child.start
    rw [bind_assoc]
    exact comes_ofFault_stop hcheck _

end Program

end Stemcell
