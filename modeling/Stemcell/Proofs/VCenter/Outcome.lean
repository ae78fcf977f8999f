import Mathlib.Data.List.TakeWhile
import Stemcell.Proofs.Program.Child
import Stemcell.Proofs.VCenter.Environment

/-! What those calls come to that read no document, by what the vCenter's tool does. Where all that the
tool writes is text, a call succeeds or tells in words of its own that it did not; otherwise a fault comes
out of it that says nothing about the call. -/
namespace Stemcell

namespace Text

theorem stripChars_eq_nil_iff {s : List Char} : stripChars s = [] ↔ ∀ c ∈ s, isBlank c = true := by
  have hleft : ∀ {t : List Char}, stripLeft t = [] ↔ ∀ c ∈ t, isBlank c = true := List.dropWhile_eq_nil_iff
  unfold stripChars
  rw [List.reverse_eq_nil_iff, hleft]
  simp only [List.mem_reverse]
  constructor
  · intro h
    refine hleft.mp (List.eq_nil_iff_forall_not_mem.mpr fun c hc => ?_)
    -- What is left after the blanks in front begins with a character that is not blank.
    have hne : stripLeft s ≠ [] := List.ne_nil_of_mem hc
    have hhead : isBlank ((stripLeft s).head hne) = false := List.head_dropWhile_not isBlank hne
    rw [h _ (List.head_mem hne)] at hhead
    cases hhead
  · intro h c hc
    exact h c ((List.dropWhile_sublist _).mem hc)

theorem isEmpty_strip_iff {s : String} : (strip s).isEmpty = true ↔ ∀ c ∈ s.toList, isBlank c = true := by
  rw [strip, String.isEmpty_iff, ← String.toList_inj, String.toList_ofList]
  exact stripChars_eq_nil_iff

end Text

namespace VCenter

open Program (Child Ending Report Plain PlainVariable variable_plain)
open Stemcell.Action (mapError_eq_ok_iff comes_ofFault comes_ofFault_stop comes_pure comes_fail)

/-- The calls whose answer is read from a document. -/
def readsDocument : Hypervisor.Call → Bool
  | .waitForExit .. | .isPoweredOff _ => true
  | _ => false

/-- The calls whose answer is what the tool writes, or that it writes something. -/
def readsText : Hypervisor.Call → Bool
  | .start .. | .find _ => true
  | _ => false

/-- How a call without a document begins to tell that it has not succeeded. -/
def Client.complaints (client : Client) : Hypervisor.Call → List String
  | .makeDirectory _ path => [s!"vcenter_client - directory `{path.display}` could not be created"]
  | .upload _ artifact _ => [s!"vcenter_client - {artifact.display} could not be uploaded"]
  | .start _ command _ =>
    [s!"vcenter_client - failed to run '{command.display}'",
      s!"vcenter_client - no pid returned when starting '{command.display}'"]
  | .checkUrl => [s!"vcenter_client - invalid url: {client.url.display}"]
  | .checkCredentials => ["vcenter_client - invalid credentials"]
  | .find path => [s!"vcenter_client - unable to find VM: {path.display}"]
  | .waitForExit .. | .isPoweredOff _ => []

/-- What a call without a document should come to whose tool does this. -/
structure Settles (client : Client) (call : Hypervisor.Call) (child : Child) (outcome : Outcome Value) : Prop where
  succeeds : (∃ v, outcome = .ok v) ↔ ∃ stdout stderr text, child = .ended 0 stdout stderr ∧
    Program.written stdout = .ok text ∧ (readsText call = true → ∃ c ∈ text.toList, Text.isBlank c = false)
  fails : ∀ stop, outcome = .error stop → ∃ f, stop = .failure f ∧ f.kind = .vcenter ∧
    ∃ complaint ∈ client.complaints call, complaint.toList <+: f.message.toList

variable {client : Client} {call : Hypervisor.Call} {environ : Environment} {child : Child}

/-! Answers and complaints. -/

theorem answer_ok_iff (hcall : readsDocument call = false) {stdout : String} : (∃ v, answer call stdout = .ok v) ↔
    (readsText call = true → ∃ c ∈ stdout.toList, Text.isBlank c = false) := by
  have hblank : (∃ c ∈ stdout.toList, Text.isBlank c = false) ↔ ¬(Text.strip stdout).isEmpty = true := by
    rw [Text.isEmpty_strip_iff]
    simp
  rw [hblank]
  cases call with
  | waitForExit | isPoweredOff => cases hcall
  | makeDirectory | upload | checkUrl | checkCredentials => simp [answer, readsText]
  | start | find =>
    by_cases h : (Text.strip stdout).isEmpty = true <;> simp [answer, readsText, h]

theorem answer_error (hcall : readsDocument call = false) (client : Client) {stdout : String} {f : Failure}
    (h : answer call stdout = .error f) : f.kind = .vcenter ∧ f.message ∈ client.complaints call := by
  cases call with
  | waitForExit | isPoweredOff => cases hcall
  | makeDirectory | upload | checkUrl | checkCredentials => cases h
  | start guest command arguments =>
    rw [answer] at h
    split at h
    · cases h
      exact ⟨rfl, List.mem_cons_of_mem _ (List.mem_singleton.mpr rfl)⟩
    · cases h
  | find path =>
    rw [answer] at h
    split at h
    · cases h
      exact ⟨rfl, List.mem_singleton.mpr rfl⟩
    · cases h

theorem complaint_mem (hcall : readsDocument call = false) {operation : Operation}
    (h : client.operation call = .ok operation) : operation.complaint ∈ client.complaints call := by
  have hwritten : ∀ {v : Value} {of : String → Operation}, v.written.map of = .ok operation →
      operation = of v.display := by
    intro v of hv
    cases hs : v.written with
    | error f =>
      rw [hs] at hv
      cases hv
    | ok s =>
      rw [hs] at hv
      cases hv
      rw [written_ok hs]
  cases call with
  | waitForExit | isPoweredOff => cases hcall
  | checkCredentials =>
    cases h
    exact List.mem_singleton.mpr rfl
  | makeDirectory guest path =>
    rw [hwritten h]
    exact List.mem_singleton.mpr rfl
  | upload guest artifact destination =>
    rw [hwritten h]
    exact List.mem_singleton.mpr rfl
  | start guest command arguments =>
    rw [hwritten h]
    exact List.mem_cons_self ..
  | checkUrl =>
    rw [hwritten h]
    exact List.mem_singleton.mpr rfl
  | find path =>
    rw [hwritten h]
    exact List.mem_singleton.mpr rfl

theorem complaint_prefix (operation : Operation) (detail : String) :
    operation.complaint.toList <+: (Failure.vcenter (.failed operation detail)).message.toList := by
  have hmessage : (Failure.vcenter (.failed operation detail)).message =
    if detail.isEmpty then operation.complaint else operation.complaint ++ ": " ++ detail := rfl
  rw [hmessage]
  split
  · exact List.prefix_rfl
  · rw [String.toList_append, String.toList_append, List.append_assoc]
    exact List.prefix_append _ _

/-- What a call comes to by the report on the tool. -/
def conclude (call : Hypervisor.Call) (operation : Operation) (report : Report) : Except Failure Value :=
  if report.status.isZero then answer call report.stdout
  else .error (.vcenter (.failed operation (Text.strip report.stderr)))

theorem settles_conclude (hcall : readsDocument call = false) {operation : Operation} {ending : Ending}
    (hoperation : client.operation call = .ok operation) (hending : child.ending = .ok ending) :
    Settles client call child ((conclude call operation (ending.report tool)).mapError .failure) := by
  have hzero := Child.report_zero_iff hending tool
  unfold conclude
  by_cases h : (ending.report tool).status.isZero = true
  · rw [if_pos h]
    obtain ⟨stdout, stderr, rfl⟩ := hzero.mp h
    have hstdout := (Child.report_stdout hending tool).2
    constructor
    case succeeds =>
      simp only [mapError_eq_ok_iff]
      rw [answer_ok_iff hcall]
      constructor
      · exact fun hsaid => ⟨stdout, stderr, _, rfl, hstdout, hsaid⟩
      · rintro ⟨_, _, text, ⟨⟩, htext, hsaid⟩
        rw [hstdout] at htext
        cases htext
        exact hsaid
    case fails =>
      intro stop hstop
      cases hanswer : answer call (ending.report tool).stdout with
      | ok v =>
        rw [hanswer] at hstop
        cases hstop
      | error f =>
        rw [hanswer] at hstop
        cases hstop
        obtain ⟨hkind, hmessage⟩ := answer_error hcall client hanswer
        exact ⟨f, rfl, hkind, f.message, hmessage, List.prefix_rfl⟩
  · rw [if_neg h]
    constructor
    case succeeds =>
      refine iff_of_false (by simp only [mapError_eq_ok_iff, reduceCtorEq, exists_false, not_false_iff]) ?_
      rintro ⟨stdout, stderr, text, hchild, -⟩
      exact h (hzero.mpr ⟨stdout, stderr, hchild⟩)
    case fails =>
      intro stop hstop
      cases hstop
      exact ⟨_, rfl, rfl, operation.complaint, complaint_mem hcall hoperation, complaint_prefix operation _⟩

/-! What is asked of the tool. -/

/-- What is started for a call, if its arguments can be handed over. -/
def Client.request (environ : Environment) (client : Client) (call : Hypervisor.Call) :
    Except Fault Program.Request := do
  let argv ← command call
  let _ ← client.operation call
  let more ← client.environment call
  Program.startable (Program.request environ argv more)
  return Program.request environ argv more

theorem command_tool {argv : List Value} (h : command call = .ok argv) :
    ∃ arguments, argv = .text tool :: arguments := by
  cases call with
  | checkUrl | checkCredentials | find =>
    cases h
    exact ⟨_, rfl⟩
  | makeDirectory | upload | start | isPoweredOff =>
    obtain ⟨path, -, h⟩ := ok_of_bind h
    cases h
    exact ⟨_, rfl⟩
  | waitForExit =>
    obtain ⟨path, -, h⟩ := ok_of_bind h
    obtain ⟨pid, -, h⟩ := ok_of_bind h
    cases h
    exact ⟨_, rfl⟩

/-- The parts of a request that has been made. -/
theorem request_ok {request : Program.Request} (h : client.request environ call = .ok request) :
    ∃ arguments operation more, command call = .ok (.text tool :: arguments) ∧
      client.operation call = .ok operation ∧ client.environment call = .ok more ∧
      Program.startable (Program.request environ (.text tool :: arguments) more) = .ok () := by
  unfold Client.request at h
  obtain ⟨argv, hargv, h⟩ := ok_of_bind h
  obtain ⟨operation, hoperation, h⟩ := ok_of_bind h
  obtain ⟨more, hmore, h⟩ := ok_of_bind h
  obtain ⟨_, hstart, -⟩ := ok_of_bind h
  obtain ⟨arguments, rfl⟩ := command_tool hargv
  exact ⟨arguments, operation, more, hargv, hoperation, hmore, hstart⟩

/-! Plain arguments. -/

/-- The arguments of a call besides the guest that it acts in. -/
def arguments : Hypervisor.Call → List Value
  | .makeDirectory _ path => [path]
  | .upload _ artifact destination => [artifact, destination]
  | .start _ command arguments => command :: arguments
  | .waitForExit _ pid => [pid]
  | .isPoweredOff path | .find path => [path]
  | .checkUrl | .checkCredentials => []

/-- All that goes into the request for a call is plain. Certificates need not be given. -/
structure PlainCall (environ : Environment) (client : Client) (call : Hypervisor.Call) : Prop where
  environ : ∀ e ∈ environ, PlainVariable e
  url : Plain client.url
  username : Plain client.username
  password : Plain client.password
  certificates : client.certificates.isTruthy = true → Plain client.certificates
  guest : ∀ guest, guest? call = some guest →
    Plain guest.inventoryPath ∧ Plain guest.username ∧ Plain guest.password
  arguments : ∀ v ∈ arguments call, Plain v

theorem plain_text {s : String} (h : '\x00' ∉ s.toList) : Plain (.text s) := ⟨s, rfl, h⟩

theorem noNull_append {s t : String} (hs : '\x00' ∉ s.toList) (ht : '\x00' ∉ t.toList) :
    '\x00' ∉ (s ++ t).toList := by
  rw [String.toList_append, List.mem_append]
  exact not_or.mpr ⟨hs, ht⟩

theorem pathArgument_plain {path : Value} (h : Plain path) : ∃ v, pathArgument path = .ok v ∧ Plain v := by
  obtain ⟨s, rfl, hs⟩ := h
  exact ⟨_, rfl, plain_text (noNull_append (by decide) hs)⟩

theorem command_plain (h : PlainCall environ client call) :
    ∃ argv, command call = .ok argv ∧ ∀ v ∈ argv, Plain v := by
  have htool : ∀ name : String, '\x00' ∉ name.toList → ∀ rest : List Value, (∀ v ∈ rest, Plain v) →
      ∀ v ∈ toolCommand name rest, Plain v := by
    intro name hname rest hrest
    simp only [toolCommand, List.mem_cons, forall_eq_or_imp]
    exact ⟨plain_text (by decide), plain_text hname, hrest⟩
  have hword : ∀ {s : String} {rest : List Value}, '\x00' ∉ s.toList → (∀ v ∈ rest, Plain v) →
      ∀ v ∈ Value.text s :: rest, Plain v := by
    intro s rest hs hrest
    exact List.forall_mem_cons.mpr ⟨plain_text hs, hrest⟩
  have hpath : ∀ guest, guest? call = some guest → ∃ v, pathArgument guest.inventoryPath = .ok v ∧ Plain v :=
    fun guest hguest => pathArgument_plain (h.guest guest hguest).1
  have harguments := h.arguments
  cases call with
  | makeDirectory guest path =>
    obtain ⟨v, hv, hplain⟩ := hpath guest rfl
    refine ⟨_, by rw [command, hv]; rfl, htool _ (by decide) _ ?_⟩
    exact List.forall_mem_cons.mpr ⟨hplain, hword (by decide) harguments⟩
  | upload guest artifact destination =>
    obtain ⟨v, hv, hplain⟩ := hpath guest rfl
    refine ⟨_, by rw [command, hv]; rfl, htool _ (by decide) _ (hword (by decide) ?_)⟩
    exact List.forall_mem_cons.mpr ⟨hplain, harguments⟩
  | start guest program more =>
    obtain ⟨v, hv, hplain⟩ := hpath guest rfl
    refine ⟨_, by rw [command, hv]; rfl, htool _ (by decide) _ ?_⟩
    exact List.forall_mem_cons.mpr ⟨hplain, harguments⟩
  | waitForExit guest pid =>
    obtain ⟨v, hv, hplain⟩ := hpath guest rfl
    obtain ⟨s, rfl, hs⟩ := harguments pid (List.mem_singleton.mpr rfl)
    refine ⟨_, by rw [command, hv]; rfl, htool _ (by decide) _ ?_⟩
    exact List.forall_mem_cons.mpr ⟨hplain, hword (noNull_append (by decide) hs)
      (hword (by decide) (hword (by decide) (by simp)))⟩
  | isPoweredOff path =>
    obtain ⟨v, hv, hplain⟩ := pathArgument_plain (harguments path (List.mem_singleton.mpr rfl))
    refine ⟨_, by rw [command, hv]; rfl, htool _ (by decide) _ ?_⟩
    exact List.forall_mem_cons.mpr ⟨hplain, hword (by decide) (by simp)⟩
  | checkUrl | checkCredentials => exact ⟨_, rfl, htool _ (by decide) _ (by simp)⟩
  | find path => exact ⟨_, rfl, htool _ (by decide) _ (hword (by decide) harguments)⟩

theorem operation_plain (h : PlainCall environ client call) :
    ∃ operation, client.operation call = .ok operation := by
  have hwritten : ∀ {v : Value} (of : String → Operation), Plain v →
      ∃ operation, v.written.map of = .ok operation := by
    rintro _ of ⟨s, rfl, -⟩
    exact ⟨of s, rfl⟩
  have harguments := h.arguments
  cases call with
  | makeDirectory | waitForExit | find => exact hwritten _ (harguments _ (List.mem_singleton.mpr rfl))
  | upload | start => exact hwritten _ (harguments _ (List.mem_cons_self ..))
  | checkUrl => exact hwritten _ h.url
  | isPoweredOff | checkCredentials => exact ⟨_, rfl⟩

theorem environment_plain (h : PlainCall environ client call) :
    ∃ more, client.environment call = .ok more ∧ ∀ e ∈ more, PlainVariable e := by
  obtain ⟨more, hmore⟩ : ∃ more, client.environment call = .ok more := by
    unfold Client.environment
    cases hguest : guest? call with
    | none => exact ⟨_, rfl⟩
    | some guest =>
      obtain ⟨-, ⟨username, husername, -⟩, ⟨password, hpassword, -⟩⟩ := h.guest guest hguest
      dsimp only
      rw [loginText, husername, hpassword]
      exact ⟨_, rfl⟩
  refine ⟨more, hmore, ?_⟩
  rw [environment_eq hmore]
  have hcredentials : ∀ e ∈ credentialVariables client call, PlainVariable e := by
    unfold credentialVariables
    split
    · simp only [List.mem_cons, List.not_mem_nil, or_false, forall_eq_or_imp, forall_eq]
      exact ⟨variable_plain (by decide) h.username, variable_plain (by decide) h.password⟩
    · simp
  have htrust : ∀ e ∈ trustVariables client, PlainVariable e := by
    unfold trustVariables
    split
    case isTrue hgiven => exact List.forall_mem_singleton.mpr (variable_plain (by decide) (h.certificates hgiven))
    case isFalse => exact List.forall_mem_singleton.mpr (variable_plain (by decide) (plain_text (by decide)))
  have hlogin : ∀ e ∈ loginVariables call, PlainVariable e := by
    unfold loginVariables
    cases hguest : guest? call with
    | none => simp
    | some guest =>
      obtain ⟨-, ⟨username, husername, huser⟩, ⟨password, hpassword, hpass⟩⟩ := h.guest guest hguest
      dsimp only
      rw [husername, hpassword]
      refine List.forall_mem_singleton.mpr (variable_plain (by decide) (plain_text ?_))
      exact noNull_append (noNull_append huser (by decide)) hpass
  simp only [List.forall_mem_cons, List.forall_mem_append]
  exact ⟨variable_plain (by decide) h.url, ⟨hcredentials, htrust⟩, hlogin⟩

/-- For plain arguments there is always a request. -/
theorem request_plain (h : PlainCall environ client call) :
    ∃ request, client.request environ call = .ok request := by
  obtain ⟨argv, hargv, hplain⟩ := command_plain h
  obtain ⟨operation, hoperation⟩ := operation_plain h
  obtain ⟨more, hmore, hvariables⟩ := environment_plain h
  have hstart : Program.startable (Program.request environ argv more) = .ok () := by
    refine Program.startable_plain hplain ?_
    rw [request_environment environ hmore argv]
    intro e he
    rcases Environment.mem_overlay he with henviron | hmore
    · exact h.environ e henviron
    · exact hvariables e hmore
  exact ⟨_, bind_of_ok hargv (bind_of_ok hoperation (bind_of_ok hmore (bind_of_ok hstart rfl)))⟩

/-! Calls. -/

variable {σ : Type} [Log.Sink σ] {ready : σ → Prop}

/-- A call whose arguments cannot be handed over starts nothing. -/
theorem comes_refused (hlog : Log.Takes ready) (f : Facilities σ) {fault : Fault}
    (h : client.request environ call = .error fault) :
    (Assembly.hypervisor { f with start := child.start } environ client call).Comes ready
      (.error (.failure (.fault fault))) := by
  unfold Assembly.hypervisor Client.perform
  rcases error_of_bind h with hargv | ⟨argv, hargv, h⟩
  · exact comes_ofFault_stop hargv _
  refine comes_ofFault hargv ?_
  rcases error_of_bind h with hoperation | ⟨operation, hoperation, h⟩
  · exact comes_ofFault_stop hoperation _
  refine comes_ofFault hoperation ?_
  rcases error_of_bind h with hmore | ⟨more, hmore, h⟩
  · exact comes_ofFault_stop hmore _
  refine comes_ofFault hmore ?_
  rcases error_of_bind h with hstart | ⟨_, -, ⟨⟩⟩
  exact (Program.comes_run_refused hlog environ child hstart).stop _

theorem comes_started (hlog : Log.Takes ready) (f : Facilities σ) (child : Child) {request : Program.Request}
    (h : client.request environ call = .ok request) :
    ∃ operation, client.operation call = .ok operation ∧
      (∀ fault, child.ending = .error fault →
        (Assembly.hypervisor { f with start := child.start } environ client call).Comes ready
          (.error (.failure (.fault fault)))) ∧
      ∀ ending, child.ending = .ok ending →
        (Assembly.hypervisor { f with start := child.start } environ client call).Comes ready
          ((conclude call operation (ending.report tool)).mapError .failure) := by
  obtain ⟨arguments, operation, more, hargv, hoperation, hmore, hstart⟩ := request_ok h
  obtain ⟨hstop, hended⟩ := Program.comes_run hlog environ child hstart
  refine ⟨operation, hoperation, fun fault hfault => ?_, fun ending hending => ?_⟩
  · unfold Assembly.hypervisor Client.perform
    exact comes_ofFault hargv (comes_ofFault hoperation (comes_ofFault hmore ((hstop fault hfault).stop _)))
  · unfold Assembly.hypervisor Client.perform conclude
    refine comes_ofFault hargv (comes_ofFault hoperation (comes_ofFault hmore ((hended ending hending).bind ?_)))
    by_cases hzero : (ending.report tool).status.isZero = true
    · rw [if_pos hzero, if_pos hzero]
      cases answer call (ending.report tool).stdout with
      | ok v => exact comes_pure v
      | error g => exact comes_fail g
    · rw [if_neg hzero, if_neg hzero]
      exact comes_fail _

/-- Whatever the tool does: a call without a document whose arguments can be handed over settles exactly
where all that the tool writes is text. Otherwise a fault about some bytes comes out, and not a failure of
the vCenter. Plain arguments can be handed over; where some argument cannot, nothing is started. -/
theorem call_settles_iff (hlog : Log.Takes ready) (f : Facilities σ) (environ : Environment) (client : Client)
    (call : Hypervisor.Call) (hcall : readsDocument call = false) (child : Child) {s : σ} (hs : ready s) :
    let outcome := ((Assembly.hypervisor { f with start := child.start } environ client call).eval s).1
    (∀ request, client.request environ call = .ok request →
      (Settles client call child outcome ↔ child.Readable) ∧
        (¬child.Readable → outcome = .error (.failure (.fault .undecodable)))) ∧
    (PlainCall environ client call → ∃ request, client.request environ call = .ok request) ∧
    ∀ fault, client.request environ call = .error fault → outcome = .error (.failure (.fault fault)) := by
  intro outcome
  refine ⟨fun request hrequest => ?_, request_plain, fun fault hfault => (comes_refused hlog f hfault s hs).2⟩
  obtain ⟨operation, hoperation, hstopped, hended⟩ := comes_started hlog f child hrequest
  have hunreadable : ¬child.Readable → outcome = .error (.failure (.fault .undecodable)) :=
    fun h => (hstopped _ (Child.ending_of_unreadable h) s hs).2
  refine ⟨⟨fun hsettles => ?_, fun h => ?_⟩, hunreadable⟩
  · by_contra h
    obtain ⟨g, hg, hkind, -⟩ := hsettles.fails _ (hunreadable h)
    cases hg
    cases hkind
  · obtain ⟨ending, hending⟩ := Child.ending_of_readable h
    have houtcome : outcome = _ := (hended ending hending s hs).2
    rw [houtcome]
    exact settles_conclude hcall hoperation hending

/-- The tool finds a machine, and then writes a byte that is no text. -/
theorem find_settles_on_text :
    let client : Client := ⟨.text "vcenter", .text "admin", .text "password", .null⟩
    let run (child : Child) := ((Assembly.hypervisor { Construct.Answers.facilities with start := child.start } []
      client (.find (.text "vm"))).eval Construct.quietAnswers).1
    (∃ v, run (.ended 0 [0x76, 0x6d, 0x0a] []) = .ok v) ∧
      run (.ended 0 [0xff] []) = .error (.failure (.fault .undecodable)) := by
  intro client run
  have hlog : Log.Takes fun _ : Construct.Answers => True := fun _ _ _ _ _ => ⟨trivial, rfl⟩
  have hsettles := fun child => call_settles_iff hlog Construct.Answers.facilities []
    client (.find (.text "vm")) rfl child (s := Construct.quietAnswers) trivial
  have hplain : PlainCall [] client (.find (.text "vm")) :=
    { environ := by simp
      url := plain_text (by decide)
      username := plain_text (by decide)
      password := plain_text (by decide)
      certificates := fun h => (by cases h)
      guest := fun _ h => (by cases h)
      arguments := List.forall_mem_singleton.mpr (plain_text (by decide)) }
  obtain ⟨request, hrequest⟩ := (hsettles .missing).2.1 hplain
  have hline : Text.Utf8.decode? [0x76, 0x6d, 0x0a] = some ['v', 'm', '\n'] := by decide +kernel
  constructor
  · have hread := ((hsettles (.ended 0 [0x76, 0x6d, 0x0a] [])).1 request hrequest).1.mpr
      ⟨by rw [hline]; simp, by decide +kernel⟩
    refine hread.succeeds.mpr ⟨_, _, String.ofList ['v', 'm', '\n'], rfl, ?_, fun _ => ⟨'v', by simp, by decide⟩⟩
    rw [Program.written, hline]
    rfl
  · exact ((hsettles (.ended 0 [0xff] [])).1 request hrequest).2 fun h => h.1 (by decide +kernel)

end VCenter

end Stemcell
