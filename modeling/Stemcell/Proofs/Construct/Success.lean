import Stemcell.Proofs.Construct.Answers

/-! No success without all of it: a preparation ends well only if every answer that it took was a
good one, down to the exit codes of the scripts in the guest and the last power state. -/
namespace Stemcell.Construct

open Stemcell.Action (succeeds_bind)
open Config (Settings)

/-- The script is started by the `n`th answer of the tool from now, which has to name its number, and
the next one says that it ended with zero. -/
def RanToZero (s : Answers) (n : Nat) (guest : Guest) (script : String) : Prop :=
  let start := s.report n (.start guest (.text Powershell.path) (Guest.scriptArguments script))
  let pid := Text.strip start.stdout
  let wait := s.report (n + 1) (.waitForExit guest (.text pid))
  start.status.isZero ∧ pid ≠ "" ∧ wait.status.isZero ∧
    VCenter.exitCodeOf wait.stdout (.text pid) = .ok 0

/-- The power state can be read from the `n`th answer of the tool from now, and it is or is not that
of a machine that is off. A look that fails reports neither. -/
def Reports (s : Answers) (n : Nat) (guest : Guest) (off : Bool) : Prop :=
  let info := s.report n (.isPoweredOff guest.inventoryPath)
  info.status.isZero ∧ ∃ state, VCenter.powerStateOf info.stdout = .ok state ∧
    state.sameAtom (.text VCenter.poweredOff) = off

/-- The answers with which a preparation ends well, in the order in which they are taken. -/
structure Favourable (settings : Settings) (version : Value) (s : Answers) : Prop where
  directory :
    (s.report 0 (.makeDirectory settings.guest (.text provisionDirectory))).status.isZero
  uploads : ∀ i a, artifacts[i]? = some a →
    (s.report (i + 1) (.upload settings.guest (.text a.source) (.text a.destination))).status.isZero
  enabled : RanToZero s 3 settings.guest Enabling.script
  reached : s.connection 0 settings.account.host Remote.port = .ok ()
  loggedIn : AnswersZero s 0 settings.account Remote.loginCommand
  unpacked : AnswersZero s 1 settings.account
    (Remote.extractCommand (.text (provisionDirectory ++ automationName)) (.text provisionDirectory))
  loggedOut : RanToZero s 5 settings.guest logoffScript
  setUp : AnswersZero s 2 settings.account (setupCommand version)
  off : ∃ n, Reports s (n + 7) settings.guest true ∧ ∀ m < n, Reports s (m + 7) settings.guest false

variable {environ : Environment} {settings : Settings} {version : Value} {attempts : Nat}
  {goal : Unit → Answers → Prop} {s : Answers}

/-! Scripts in the guest. -/

theorem succeeds_start (hs : Writable settings) (command : String) (arguments : List String)
    {goal : Value → Answers → Prop} :
    let call := .start settings.guest (.text command) (arguments.map .text)
    (Answers.hypervisor environ settings call).Succeeds goal s ↔
      (s.report 0 call).status.isZero ∧ Text.strip (s.report 0 call).stdout ≠ "" ∧
        goal (.text (Text.strip (s.report 0 call).stdout)) s.afterTool := by
  intro call
  rw [succeeds_hypervisor hs (.start command arguments)]
  refine and_congr_right fun _ => ?_
  by_cases h : Text.strip (s.report 0 call).stdout = ""
  · simp [VCenter.answer, call, h]
  · simp [VCenter.answer, call, h]

theorem succeeds_waitForExit (hs : Writable settings) (pid : String)
    {goal : Value → Answers → Prop} :
    let call := .waitForExit settings.guest (.text pid)
    (Answers.hypervisor environ settings call).Succeeds goal s ↔
      (s.report 0 call).status.isZero ∧
        ∃ code, VCenter.exitCodeOf (s.report 0 call).stdout (.text pid) = .ok code ∧
          goal (.int code) s.afterTool := by
  intro call
  rw [succeeds_hypervisor hs (.waitForExit pid)]
  refine and_congr_right fun _ => ?_
  rw [VCenter.answer]
  cases VCenter.exitCodeOf (s.report 0 call).stdout (.text pid) with
  | error f => simp [Except.map]
  | ok code => simp [Except.map]

theorem isZero_int (n : Int) : (Value.int n).isZero = true ↔ n = 0 := by
  simp [Value.isZero, Value.number?, Value.sameNumber]

theorem succeeds_runScript (hs : Writable settings) (script : String) :
    (settings.guest.runScript (Answers.hypervisor environ settings) script).Succeeds goal s ↔
      RanToZero s 0 settings.guest script ∧ goal () s.afterTool.afterTool := by
  unfold Guest.runScript
  rw [succeeds_bind, succeeds_debug, succeeds_bind]
  refine (succeeds_start hs Powershell.path ["-EncodedCommand", Powershell.encode script]).trans ?_
  rw [RanToZero, and_assoc, and_assoc]
  refine and_congr_right fun _ => and_congr_right fun _ => ?_
  rw [succeeds_bind, and_assoc]
  refine (succeeds_waitForExit hs _).trans (and_congr_right fun _ => ?_)
  simp only [succeeds_bind, Value.written_text, Action.succeeds_ofFault, Except.ok.injEq,
    exists_eq_left', succeeds_debug, Action.succeeds_ite, Action.succeeds_pure,
    Action.not_succeeds_fail, isZero_int, if_false_right]
  constructor
  · rintro ⟨code, hcode, _, -, rfl, h⟩
    exact ⟨hcode, h⟩
  · rintro ⟨hcode, h⟩
    exact ⟨0, hcode, _, rfl, rfl, h⟩

/-! The phases. -/

theorem succeeds_createDirectory (hs : Writable settings) :
    (createDirectory (Answers.crew environ settings version attempts) settings.guest).Succeeds goal s ↔
      (s.report 0 (.makeDirectory settings.guest (.text provisionDirectory))).status.isZero ∧
        goal () s.afterTool := by
  unfold createDirectory
  rw [succeeds_bind, succeeds_announce, succeeds_bind]
  refine (succeeds_hypervisor hs (.makeDirectory provisionDirectory)).trans ?_
  simp [VCenter.answer, succeeds_announce]

theorem succeeds_uploadOne (hs : Writable settings) (a : Artifact) :
    (uploadOne (Answers.crew environ settings version attempts) settings.guest a).Succeeds goal s ↔
      (s.report 0 (.upload settings.guest (.text a.source) (.text a.destination))).status.isZero ∧
        goal () s.afterTool := by
  unfold uploadOne
  rw [succeeds_bind, succeeds_announce, succeeds_bind, succeeds_debug, succeeds_bind]
  refine (succeeds_hypervisor hs (.upload a.source a.destination)).trans ?_
  simp [VCenter.answer, succeeds_announce]

theorem succeeds_enable (hs : Writable settings) :
    (Answers.crew environ settings version attempts).enable.Succeeds goal s ↔
      RanToZero s 0 settings.guest Enabling.script ∧ goal () s.afterTool.afterTool := by
  change (Enabling.enable (Answers.hypervisor environ settings) settings.guest).Succeeds goal s ↔ _
  unfold Enabling.enable
  rw [succeeds_bind, Action.succeeds_written hs.path, succeeds_bind, succeeds_debug,
    Action.succeeds_wrap, succeeds_runScript hs]

theorem succeeds_validate (hs : Writable settings) :
    (Answers.crew environ settings version attempts).validate.Succeeds goal s ↔
      s.connection 0 settings.account.host Remote.port = .ok () ∧
        AnswersZero s 0 settings.account Remote.loginCommand ∧
        goal () s.afterConnection.afterSession := by
  change (Connection.validate (Remote.perform Answers.facilities.link settings.account)).Succeeds
    goal s ↔ _
  unfold Connection.validate
  simp only [succeeds_bind, Action.succeeds_wrap, Remote.perform, succeeds_reach, Action.succeeds_pure,
    succeeds_debug]
  refine and_congr_right fun _ => ?_
  exact succeeds_execute hs Remote.loginCommand

theorem succeeds_extract (hs : Writable settings) (source destination : String)
    {goal : Answers → Prop} :
    ((Answers.crew environ settings version attempts).remote
        (.extract (.text source) (.text destination))).Succeeds (fun _ => goal) s ↔
      AnswersZero s 0 settings.account (Remote.extractCommand (.text source) (.text destination)) ∧
        goal s.afterSession := by
  change (Remote.perform Answers.facilities.link settings.account
    (.extract (.text source) (.text destination))).Succeeds (fun _ => goal) s ↔ _
  rw [Remote.perform, succeeds_bind]
  simp only [Action.succeeds_pure]
  exact succeeds_execute hs _

/-! Waiting for the guest to be off. -/

theorem succeeds_isOff (hs : Writable settings) {goal : Value → Answers → Prop} :
    (isOff (Answers.crew environ settings version attempts) settings.guest).Succeeds goal s ↔
      ∃ off, Reports s 0 settings.guest off ∧ goal (.bool off) s.afterTool := by
  have htold : ∀ off : Value, (if off.isTruthy then pure off else do
      (Answers.crew environ settings version attempts).announce .stillPreparing
      pure off : Action Answers Value).Succeeds goal s.afterTool ↔ goal off s.afterTool := by
    intro off
    split
    · exact Action.succeeds_pure off
    · rw [succeeds_bind, succeeds_announce, Action.succeeds_pure]
  unfold isOff
  rw [succeeds_bind]
  refine (succeeds_hypervisor hs .isPoweredOff).trans ?_
  simp only [htold, VCenter.answer]
  constructor
  · rintro ⟨hzero, v, hv, h⟩
    cases hstate : VCenter.powerStateOf
        (s.report 0 (.isPoweredOff settings.guest.inventoryPath)).stdout with
    | error f =>
      rw [hstate] at hv
      cases hv
    | ok state =>
      rw [hstate] at hv
      cases hv
      exact ⟨_, ⟨hzero, state, hstate, rfl⟩, h⟩
  · rintro ⟨off, ⟨hzero, state, hstate, rfl⟩, h⟩
    rw [hstate]
    exact ⟨hzero, _, rfl, h⟩

/-- All looks before the one at which the guest is off report that it is not. -/
theorem succeeds_pollFrom (hs : Writable settings) (interval : Value) (made k : Nat) :
    (Polling.pollFrom Answers.facilities.sleep interval
        (isOff (Answers.crew environ settings version attempts) settings.guest) made k).Succeeds
        (fun _ _ => True) s ↔
      ∃ n < k, Reports s n settings.guest true ∧ ∀ m < n, Reports s m settings.guest false := by
  induction k generalizing made s with
  | zero => simp [Polling.pollFrom]
  | succ k ih =>
    have hsleep : ∀ goal : Unit → Answers → Prop,
        (Answers.facilities.sleep interval).Succeeds goal s.afterTool ↔ goal () s.afterTool :=
      fun _ => Action.succeeds_pure ()
    rw [Polling.pollFrom, succeeds_bind, succeeds_debug, succeeds_bind, succeeds_isOff hs]
    constructor
    · rintro ⟨off, hoff, h⟩
      cases off with
      | true => exact ⟨0, by omega, hoff, by simp⟩
      | false =>
        have hrest : (Polling.pollFrom Answers.facilities.sleep interval
            (isOff (Answers.crew environ settings version attempts) settings.guest) (made + 1)
            k).Succeeds (fun _ _ => True) s.afterTool := by
          simpa [Value.isTruthy, hsleep] using h
        obtain ⟨n, hn, htrue, hfalse⟩ := (ih (made + 1)).mp hrest
        refine ⟨n + 1, by omega, htrue, fun m hm => ?_⟩
        cases m with
        | zero => exact hoff
        | succ m => exact hfalse m (by omega)
    · rintro ⟨n, hn, htrue, hfalse⟩
      cases n with
      | zero => exact ⟨true, htrue, by simp [Value.isTruthy]⟩
      | succ n =>
        refine ⟨false, hfalse 0 (by omega), ?_⟩
        have hlater : ∀ m < n, Reports s.afterTool m settings.guest false :=
          fun m hm => hfalse (m + 1) (by omega)
        have hrest := (ih (made + 1)).mpr ⟨n, by omega, htrue, hlater⟩
        simpa [Value.isTruthy, hsleep] using hrest

theorem succeeds_awaitShutdown (hs : Writable settings) :
    (awaitShutdown (Answers.crew environ settings version attempts) settings.guest).Succeeds
        (fun _ _ => True) s ↔
      ∃ n < attempts, Reports s n settings.guest true ∧
        ∀ m < n, Reports s m settings.guest false := by
  unfold awaitShutdown
  rw [succeeds_bind]
  simp only [succeeds_announce]
  exact succeeds_pollFrom hs shutdownInterval 0 attempts

/-! The whole preparation. -/

/-- With a bound on the looks at the guest a preparation ends well if and only if the answers are
good and the guest is off in time. -/
theorem succeeds_prepare (hs : Writable settings) (hv : version.isWritable) :
    (prepare (Answers.crew environ settings version attempts) settings.guest).Succeeds
        (fun _ _ => True) s ↔
      Favourable settings version s ∧ ∃ n < attempts, Reports s (n + 7) settings.guest true ∧
        ∀ m < n, Reports s (m + 7) settings.guest false := by
  have hversion : ∀ goal : Value → Answers → Prop,
      (Answers.crew environ settings version attempts).version.Succeeds goal s ↔ goal version s :=
    fun _ => Action.succeeds_pure version
  have hscript : ∀ {goal : Unit → Answers → Prop} {s : Answers},
      (settings.guest.runScript (Answers.crew environ settings version attempts).hypervisor
        logoffScript).Succeeds goal s ↔ _ := succeeds_runScript hs logoffScript
  have hsetup : ∀ {goal : Answers → Prop} {s : Answers},
      ((Answers.crew environ settings version attempts).remote
        (.execute (.text (setupCommand version)))).Succeeds (fun _ => goal) s ↔ _ :=
    succeeds_execute hs (setupCommand version)
  unfold prepare
  simp only [succeeds_bind, hversion, Action.succeeds_written hs.path, Action.succeeds_written hv,
    succeeds_debug, succeeds_announce, succeeds_createDirectory hs, uploadAll, artifacts,
    succeeds_uploadOne hs, Action.succeeds_pure, succeeds_enable hs, succeeds_validate hs,
    succeeds_extract hs, Action.succeeds_wrap, hscript, hsetup, succeeds_awaitShutdown hs]
  constructor
  · rintro ⟨hdirectory, hfirst, hsecond, henabled, hreached, hlogin, hunpacked, hlogout, hsetUp,
      n, hn, htrue, hfalse⟩
    have huploads : ∀ i a, artifacts[i]? = some a → (s.report (i + 1)
        (.upload settings.guest (.text a.source) (.text a.destination))).status.isZero := by
      rintro (_ | _ | i) a ha
      · cases ha
        exact hfirst
      · cases ha
        exact hsecond
      · cases ha
    exact ⟨⟨hdirectory, huploads, henabled, hreached, hlogin, hunpacked, hlogout, hsetUp,
      n, htrue, hfalse⟩, n, hn, htrue, hfalse⟩
  · rintro ⟨h, hoff⟩
    exact ⟨h.directory, h.uploads 0 _ rfl, h.uploads 1 _ rfl, h.enabled, h.reached, h.loggedIn,
      h.unpacked, h.loggedOut, h.setUp, hoff⟩

/-- No false success. Where some look at the power state fails or finds the guest off, a preparation
ends well if and only if every answer that it takes is a good one. -/
theorem prepare_ok_iff (hs : Writable settings) (hv : version.isWritable) {n : Nat}
    (hn : n < attempts) (hlook : ¬Reports s (n + 7) settings.guest false) :
    ((prepare (Answers.crew environ settings version attempts) settings.guest).eval s).1 = .ok () ↔
      Favourable settings version s := by
  have hrun := Action.succeeds_true (s := s)
    (prepare (Answers.crew environ settings version attempts) settings.guest)
  rw [succeeds_prepare hs hv] at hrun
  constructor
  · intro h
    exact (hrun.mpr ⟨(), h⟩).1
  · intro h
    obtain ⟨m, htrue, hfalse⟩ := h.off
    have hmn : m ≤ n := Nat.le_of_not_lt fun hlt => hlook (hfalse n hlt)
    obtain ⟨_, hok⟩ := hrun.mp ⟨h, m, by omega, htrue, hfalse⟩
    exact hok

/-- Both scripts get the number 7 and end with zero, and the guest is off at the second look. -/
def quietAnswers : Answers where
  tool n _ :=
    let stdout := match n with
      | 3 | 5 => "7\n"
      | 4 | 6 => "\x7b\"ProcessInfo\": [\x7b\"Pid\": 7, \"ExitCode\": 0\x7d]\x7d"
      | 7 => "\x7b\"VirtualMachines\": [\x7b\"Runtime\": \x7b\"PowerState\": \"poweredOn\"\x7d\x7d]\x7d"
      | _ => "\x7b\"VirtualMachines\": [\x7b\"Runtime\": \x7b\"PowerState\": \"poweredOff\"\x7d\x7d]\x7d"
    ⟨.int 0, stdout, ""⟩
  connection _ _ _ := .ok ()
  session _ _ := .ok fun _ => .ok ⟨.int 0, [], []⟩

theorem prepare_ok_quietAnswers :
    let settings : Settings := ⟨fun _ => .text "stemcell"⟩
    ((prepare (Answers.crew [] settings (.text "dev") 2) settings.guest).eval quietAnswers).1 =
      .ok () := by
  intro settings
  have hlook : ∀ n off, ((VCenter.powerStateOf (quietAnswers.tool n []).stdout).toOption.map
      (·.sameAtom (.text VCenter.poweredOff))) = some off → Reports quietAnswers n settings.guest off := by
    intro n off h
    refine ⟨rfl, ?_⟩
    change ∃ state, VCenter.powerStateOf (quietAnswers.tool n []).stdout = .ok state ∧ _
    cases hstate : VCenter.powerStateOf (quietAnswers.tool n []).stdout with
    | error f => simp [hstate, Except.toOption] at h
    | ok state => exact ⟨state, rfl, by simpa [hstate, Except.toOption] using h⟩
  have hpid : Text.strip "7\n" = "7" := by decide +kernel
  have hcode : VCenter.exitCodeOf (quietAnswers.tool 4 []).stdout (.text "7") = .ok 0 := by
    have h : (VCenter.exitCodeOf (quietAnswers.tool 4 []).stdout (.text "7")).toOption = some 0 := by
      decide +kernel
    cases hresult : VCenter.exitCodeOf (quietAnswers.tool 4 []).stdout (.text "7") with
    | error f => simp [hresult, Except.toOption] at h
    | ok code => simpa [hresult, Except.toOption] using h
  have hran : ∀ n script, (quietAnswers.tool n []).stdout = "7\n" →
      (quietAnswers.tool (n + 1) []).stdout = (quietAnswers.tool 4 []).stdout →
      RanToZero quietAnswers n settings.guest script := by
    intro n script hstart hwait
    have hzero : VCenter.exitCodeOf (quietAnswers.tool (n + 1) []).stdout
        (.text (Text.strip (quietAnswers.tool n []).stdout)) = .ok 0 := by
      rw [hstart, hwait, hpid, hcode]
    have hnamed : Text.strip (quietAnswers.tool n []).stdout ≠ "" := by
      rw [hstart, hpid]
      decide
    exact ⟨rfl, hnamed, rfl, hzero⟩
  have hon : Reports quietAnswers 7 settings.guest false := hlook 7 false (by decide +kernel)
  have hoff : Reports quietAnswers 8 settings.guest true := hlook 8 true (by decide +kernel)
  have hdecisive : ¬Reports quietAnswers 8 settings.guest false := by
    rintro ⟨-, state, hstate, hfalse⟩
    obtain ⟨-, state', hstate', htrue⟩ := hoff
    rw [hstate] at hstate'
    cases hstate'
    rw [htrue] at hfalse
    cases hfalse
  have hanswers : ∀ n command, AnswersZero quietAnswers n settings.account command :=
    fun _ _ => ⟨_, _, rfl, rfl, rfl⟩
  have hs : Writable settings := writable_of_texts fun _ => ⟨_, rfl⟩
  refine (prepare_ok_iff hs rfl (by decide) hdecisive).mpr ?_
  refine ⟨rfl, fun _ _ _ => rfl, hran 3 _ rfl rfl, rfl, hanswers 0 _, hanswers 1 _, hran 5 _ rfl rfl,
    hanswers 2 _, 1, hoff, fun m hm => ?_⟩
  obtain rfl : m = 0 := by omega
  exact hon

end Stemcell.Construct
