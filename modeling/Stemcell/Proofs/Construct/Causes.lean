import Stemcell.Proofs.Construct.Processes
import Stemcell.Proofs.Construct.Success
import Stemcell.Proofs.Rehearsal

/-! How the phases that open a guest tell that a call has failed. Enabling runs a script in the guest and
waits for its end, validation tries to reach the guest and then to log in. A failure on the way, of
whatever kind, is named as the cause of the one failure that the phase has; everything else that stops a
call stops the phase as it is. -/
namespace Stemcell

namespace Action

variable {σ α β : Type}

/-- From a state that is ready, whatever the step fails with is as `p` says. -/
def FailsAs (ready : σ → Prop) (p : Failure → Prop) (a : Action σ α) : Prop :=
  ∀ s, ready s → ∀ f, (a.eval s).1 = .error (.failure f) → p f

/-- The last step need not leave a state behind that is ready. -/
theorem FailsAs.bind {ready : σ → Prop} {p : Failure → Prop} {a : Action σ α} {k : α → Action σ β}
    (ha : a.FailsAs ready p) (hkeeps : a.Keeps ready) (hk : ∀ x, (k x).FailsAs ready p) :
    (a >>= k).FailsAs ready p := by
  intro s hs f hf
  rw [eval_bind] at hf
  have hfirst := ha s hs
  have hready := hkeeps s hs
  generalize a.eval s = result at hf hfirst hready
  obtain ⟨stop | x, t⟩ := result
  · cases hf
    exact hfirst f rfl
  · exact hk x t hready f hf

theorem Comes.failsAs {ready : σ → Prop} {p : Failure → Prop} {a : Action σ α} {x : α}
    (h : a.Comes ready (.ok x)) : a.FailsAs ready p := by
  intro s hs f hf
  rw [(h s hs).2] at hf
  cases hf

theorem failsAs_wrap {ready : σ → Prop} {p : Failure → Prop} (words : Failure → Failure) (a : Action σ α)
    (h : ∀ cause, p (words cause)) : (a.wrap words).FailsAs ready p := by
  intro s _ f hf
  rw [eval_wrap] at hf
  generalize (a.eval s).1 = outcome at hf
  rcases outcome with (cause | i | _) | x <;> cases hf
  exact h cause

end Action

namespace Construct

open Ledger (entering)
open Stemcell.Action (Appends AppendsFrom appends_outcome mapError_eq_ok_iff)
open Config (Settings)

/-- A failure of some kind says in these words that another one was in the way, and names it as its cause. -/
structure Wraps (kind : Failure.Kind) (words : String) (cause f : Failure) : Prop where
  kind : f.kind = kind
  message : f.message = words ++ ": " ++ cause.message
  cause : f.cause? = some cause

theorem wraps_enabling (cause : Failure) :
    Wraps .enabling "failed to enable WinRM" cause (.enabling cause) := ⟨rfl, rfl, rfl⟩

theorem wraps_reach (cause : Failure) :
    Wraps .connection "cannot complete connection to VM" cause (.connection .reach cause) := ⟨rfl, rfl, rfl⟩

theorem wraps_login (cause : Failure) :
    Wraps .connection "cannot log in to VM" cause (.connection .login cause) := ⟨rfl, rfl, rfl⟩

/-- The phase stops with a failure that wraps this one. -/
def StopsWith (kind : Failure.Kind) (words : String) (cause : Failure) (outcome : Outcome Unit) : Prop :=
  ∃ f, outcome = .error (.failure f) ∧ Wraps kind words cause f

/-- What enabling a guest comes to, by the calls that were made for it. -/
structure Enables (job : Guest × String) (made : List Entry) (outcome : Outcome Unit) : Prop where
  /-- The end of the script is waited for only if it was started. -/
  calls : (∃ stop, made = [⟨scriptStart job, .error stop⟩]) ∨
    ∃ pid waited, made = [⟨scriptStart job, .ok pid⟩, ⟨scriptWait job pid, waited⟩]
  /-- A number of a process that has too many digits cannot be put into the record of its end. -/
  returns : outcome = .ok () ↔ ∃ pid code, made = [⟨scriptStart job, .ok pid⟩, ⟨scriptWait job pid, .ok code⟩] ∧
    code.isZero = true ∧ pid.isWritable = true
  fails : ∀ e ∈ made, ∀ f, e.outcome = .error (.failure f) → StopsWith .enabling "failed to enable WinRM" f outcome
  exits : ∀ pid code, made = [⟨scriptStart job, .ok pid⟩, ⟨scriptWait job pid, .ok code⟩] →
    code.isZero = false → pid.isWritable = true → code.isWritable = true →
      StopsWith .enabling "failed to enable WinRM" (.guestExit code) outcome
  unwritten : ∀ pid code, made = [⟨scriptStart job, .ok pid⟩, ⟨scriptWait job pid, .ok code⟩] →
    pid.isWritable = false ∨ code.isWritable = false →
      StopsWith .enabling "failed to enable WinRM" (.fault .tooLargeToWrite) outcome
  /-- What is no failure is passed on as it is. -/
  passes : ∀ e ∈ made, ∀ stop, e.outcome = .error stop → (∀ f, stop ≠ .failure f) → outcome = .error stop

/-- What validating a connection comes to, by the calls that were made for it. -/
structure Validates (made : List Entry) (outcome : Outcome Unit) : Prop where
  /-- The user logs in only if the guest was reached. -/
  calls : (∃ stop, made = [⟨.remote .reach, .error stop⟩]) ∨
    ∃ v answer, made = [⟨.remote .reach, .ok v⟩, ⟨.remote .login, answer⟩]
  returns : outcome = .ok () ↔ ∃ v w, made = [⟨.remote .reach, .ok v⟩, ⟨.remote .login, .ok w⟩]
  unreached : ∀ f, ⟨.remote .reach, .error (.failure f)⟩ ∈ made →
    StopsWith .connection "cannot complete connection to VM" f outcome
  locked : ∀ f, ⟨.remote .login, .error (.failure f)⟩ ∈ made →
    StopsWith .connection "cannot log in to VM" f outcome
  passes : ∀ e ∈ made, ∀ stop, e.outcome = .error stop → (∀ f, stop ≠ .failure f) → outcome = .error stop

/-! Scripts. -/

/-- What a script comes to that has ended with a code. -/
def exitVerdict (pid code : Value) : Outcome Unit :=
  if pid.isWritable && code.isWritable then
    if code.isZero then .ok () else .error (.failure (.guestExit code))
  else .error (.failure (.fault .tooLargeToWrite))

/-- The calls for a script, and what they make of it. -/
inductive Finishes (job : Guest × String) : Outcome Unit → List Entry → Prop where
  | refused (stop : Stop) : Finishes job (.error stop) [⟨scriptStart job, .error stop⟩]
  | lost (pid : Value) (stop : Stop) :
    Finishes job (.error stop) [⟨scriptStart job, .ok pid⟩, ⟨scriptWait job pid, .error stop⟩]
  | ended (pid code : Value) :
    Finishes job (exitVerdict pid code) [⟨scriptStart job, .ok pid⟩, ⟨scriptWait job pid, .ok code⟩]

theorem isWritable_of_isZero {v : Value} (h : v.isZero = true) : v.isWritable = true := by
  cases v with
  | int n =>
    have hzero : n = 0 := by simpa [Value.isZero, Value.number?, Value.sameNumber] using h
    rw [hzero]
    decide
  | bool | float => rfl
  | _ => cases h

variable {σ : Type} [Log.Sink σ] {ready : σ → Prop}

theorem appends_logged (hlog : Log.Takes ready) (channel : Log.Channel) (text : String) :
    AppendsFrom (Ledger.Ready ready) Ledger.calls (Log.debug channel text : Action (Ledger σ) Unit)
      fun outcome made => outcome = .ok () ∧ made = [] := by
  intro l hl
  obtain ⟨hready, hline⟩ := hlog .debug channel text l.inner hl
  exact ⟨hready, [], (List.append_nil _).symm, hline, rfl⟩

theorem appends_ended (hlog : Log.Takes ready) (pid code : Value) :
    AppendsFrom (Ledger.Ready ready) Ledger.calls (do
        let pidText ← Action.ofFault pid.written
        let codeText ← Action.ofFault code.written
        Log.debug .guest s!"Guest process {pidText} exited with code {codeText}"
        if code.isZero then pure () else Action.fail (.guestExit code) : Action (Ledger σ) Unit)
      fun outcome made => outcome = exitVerdict pid code ∧ made = [] := by
  unfold Value.written exitVerdict
  cases hpid : pid.isWritable with
  | false => exact appends_outcome (fun _ => rfl) ⟨rfl, rfl⟩
  | true =>
    cases hcode : code.isWritable with
    | false => exact appends_outcome (fun _ => rfl) ⟨rfl, rfl⟩
    | true =>
      refine (appends_logged hlog _ _).surely ?_
      cases code.isZero with
      | true => exact appends_outcome (fun _ => rfl) ⟨rfl, rfl⟩
      | false => exact appends_outcome (fun _ => rfl) ⟨rfl, rfl⟩

variable {hypervisor : Hypervisor.Call → Action σ Value} {remote : Remote.Call → Action σ Value}

theorem finishes_runScript (hlog : Log.Takes ready) (hhypervisor : ∀ call, (hypervisor call).Keeps ready)
    (job : Guest × String) :
    AppendsFrom (Ledger.Ready ready) Ledger.calls
      (job.1.runScript (fun call => entering (.hypervisor call) (hypervisor call)) job.2)
      (Finishes job) := by
  unfold Guest.runScript
  refine (appends_logged hlog _ _).surely ?_
  refine (appendsFrom_entering _ (hhypervisor _)).bind (q := fun pid outcome made => ∃ waited,
    made = [⟨scriptWait job pid, waited⟩] ∧ (∀ stop, waited = .error stop → outcome = .error stop) ∧
      ∀ code, waited = .ok code → outcome = exitVerdict pid code) (fun pid => ?_) ?_ ?_
  · refine (appendsFrom_entering _ (hhypervisor _)).bind (fun code => appends_ended hlog pid code) ?_ ?_
    · rintro stop made rfl
      exact ⟨.error stop, rfl, fun _ h => by cases h; rfl, fun _ h => by cases h⟩
    · rintro code outcome first second rfl ⟨hverdict, rfl⟩
      refine ⟨.ok code, rfl, fun _ h => (by cases h), fun other h => ?_⟩
      cases h
      exact hverdict
  · rintro stop made rfl
    exact .refused stop
  · rintro pid outcome first second rfl ⟨waited, rfl, herror, hok⟩
    cases waited with
    | error stop =>
      rw [herror stop rfl]
      exact .lost pid stop
    | ok code =>
      rw [hok code rfl]
      exact .ended pid code

/-! The phases. -/

section Enabling

variable {job : Guest × String} {inner outcome : Outcome Unit} {made : List Entry} {pid code : Value}

theorem Finishes.calls (h : Finishes job inner made) : (∃ stop, made = [⟨scriptStart job, .error stop⟩]) ∨
    ∃ pid waited, made = [⟨scriptStart job, .ok pid⟩, ⟨scriptWait job pid, waited⟩] := by
  cases h with
  | refused stop => exact .inl ⟨stop, rfl⟩
  | lost pid stop => exact .inr ⟨pid, .error stop, rfl⟩
  | ended pid code => exact .inr ⟨pid, .ok code, rfl⟩

/-- What stops one of the calls stops the script. -/
theorem Finishes.stopped (h : Finishes job inner made) {e : Entry} (he : e ∈ made) {stop : Stop}
    (hstop : e.outcome = .error stop) : inner = .error stop := by
  cases h with
  | refused raised =>
    obtain rfl := List.mem_singleton.mp he
    cases hstop
    rfl
  | lost pid raised =>
    rcases List.mem_cons.mp he with rfl | he
    · cases hstop
    · obtain rfl := List.mem_singleton.mp he
      cases hstop
      rfl
  | ended pid code =>
    rcases List.mem_cons.mp he with rfl | he
    · cases hstop
    · obtain rfl := List.mem_singleton.mp he
      cases hstop

theorem Finishes.exited
    (h : Finishes job inner [⟨scriptStart job, .ok pid⟩, ⟨scriptWait job pid, .ok code⟩]) :
    inner = exitVerdict pid code := by
  cases h
  rfl

theorem exitVerdict_eq_ok_iff :
    exitVerdict pid code = .ok () ↔ code.isZero = true ∧ pid.isWritable = true := by
  unfold exitVerdict
  constructor
  · intro h
    split at h
    case isTrue hwritable =>
      split at h
      case isTrue hzero => exact ⟨hzero, (Bool.and_eq_true_iff.mp hwritable).1⟩
      case isFalse => cases h
    case isFalse => cases h
  · rintro ⟨hzero, hpid⟩
    simp [hzero, hpid, isWritable_of_isZero hzero]

theorem exitVerdict_exit (hzero : code.isZero = false) (hpid : pid.isWritable = true)
    (hcode : code.isWritable = true) : exitVerdict pid code = .error (.failure (.guestExit code)) := by
  simp [exitVerdict, hzero, hpid, hcode]

theorem exitVerdict_unwritten (h : pid.isWritable = false ∨ code.isWritable = false) :
    exitVerdict pid code = .error (.failure (.fault .tooLargeToWrite)) := by
  rcases h with h | h <;> simp [exitVerdict, h]

theorem Finishes.returned (h : Finishes job inner made) : inner = .ok () ↔
    ∃ pid code, made = [⟨scriptStart job, .ok pid⟩, ⟨scriptWait job pid, .ok code⟩] ∧
      code.isZero = true ∧ pid.isWritable = true := by
  constructor
  · intro hok
    cases h with
    | refused stop => cases hok
    | lost pid stop => cases hok
    | ended pid code => exact ⟨pid, code, rfl, exitVerdict_eq_ok_iff.mp hok⟩
  · rintro ⟨pid, code, rfl, hgood⟩
    rw [h.exited]
    exact exitVerdict_eq_ok_iff.mpr hgood

/-- A step that is stopped by a failure wraps it. -/
theorem stopsWith_of_error {words : Failure → Failure} {kind : Failure.Kind} {text : String} {f : Failure}
    (hinner : inner = .error (.failure f)) (hwraps : Wraps kind text f (words f)) :
    StopsWith kind text f (inner.mapError (Stop.retold words)) :=
  ⟨words f, by rw [hinner]; rfl, hwraps⟩

theorem passed_of_error {words : Failure → Failure} {stop : Stop} (hinner : inner = .error stop)
    (hkind : ∀ f, stop ≠ .failure f) : inner.mapError (Stop.retold words) = .error stop := by
  rw [hinner]
  exact congrArg Except.error (Stop.retold_eq words hkind)

theorem enables_of_finishes (h : Finishes job inner made) :
    Enables job made (inner.mapError (Stop.retold .enabling)) where
  calls := h.calls
  returns := mapError_eq_ok_iff.trans h.returned
  fails e he f hf := stopsWith_of_error (h.stopped he hf) (wraps_enabling f)
  exits := by
    rintro pid code rfl hzero hpid hcode
    refine stopsWith_of_error ?_ (wraps_enabling _)
    rw [h.exited, exitVerdict_exit hzero hpid hcode]
  unwritten := by
    rintro pid code rfl hlong
    refine stopsWith_of_error ?_ (wraps_enabling _)
    rw [h.exited, exitVerdict_unwritten hlong]
  passes e he stop hstop hkind := passed_of_error (h.stopped he hstop) hkind

end Enabling

theorem enables_enable (hlog : Log.Takes ready) (hhypervisor : ∀ call, (hypervisor call).Keeps ready)
    {guest : Guest} (hpath : guest.inventoryPath.isWritable = true) :
    AppendsFrom (Ledger.Ready ready) Ledger.calls
      (Enabling.enable (fun call => entering (.hypervisor call) (hypervisor call)) guest)
      fun outcome made => Enables (guest, Enabling.script) made outcome := by
  unfold Enabling.enable
  rw [Value.written, if_pos hpath]
  refine (appends_logged hlog _ _).surely ?_
  refine AppendsFrom.mono ((finishes_runScript hlog hhypervisor (guest, Enabling.script)).retold .enabling) ?_
  rintro outcome made ⟨inner, hinner, rfl⟩
  exact enables_of_finishes hinner

omit [Log.Sink σ] in
/-- A call that is told in other words is entered as it is. -/
theorem appends_retold (words : Failure → Failure) (step : Step) {a : Action σ Value} (ha : a.Keeps ready) :
    AppendsFrom (Ledger.Ready ready) Ledger.calls ((entering step a).wrap words) fun outcome made =>
      ∃ inner, made = [⟨step, inner⟩] ∧ outcome = inner.mapError (Stop.retold words) :=
  (appendsFrom_entering step ha).retold words

/-- What stops the check that the guest can be reached is all that the phase comes to. -/
theorem validates_unreached (stop : Stop) : Validates [⟨.remote .reach, .error stop⟩]
    (.error (stop.retold (.connection .reach))) where
  calls := .inl ⟨stop, rfl⟩
  returns := by simp
  unreached := by
    intro f hf
    cases List.mem_singleton.mp hf
    exact ⟨_, rfl, wraps_reach f⟩
  locked := by simp
  passes := by
    intro e he raised hraised hkind
    obtain rfl := List.mem_singleton.mp he
    cases hraised
    rw [Stop.retold_eq _ hkind]

/-- A guest that was reached leaves the rest to the login. -/
theorem validates_login (v : Value) (answer : Outcome Value) :
    Validates [⟨.remote .reach, .ok v⟩, ⟨.remote .login, answer⟩]
      ((answer.map fun _ => ()).mapError (Stop.retold (.connection .login))) where
  calls := .inr ⟨v, answer, rfl⟩
  returns := by
    cases answer with
    | error stop =>
      refine iff_of_false (fun h => (nomatch h)) ?_
      rintro ⟨v, w, h⟩
      cases h
    | ok w => exact iff_of_true rfl ⟨v, w, rfl⟩
  unreached := by simp
  locked := by
    intro f hf
    have hanswer : answer = .error (.failure f) := by simpa [eq_comm] using hf
    rw [hanswer]
    exact ⟨_, rfl, wraps_login f⟩
  passes := by
    intro e he stop hstop hkind
    rcases List.mem_cons.mp he with rfl | he
    · cases hstop
    · obtain rfl := List.mem_singleton.mp he
      rw [show answer = .error stop from hstop]
      exact congrArg Except.error (Stop.retold_eq _ hkind)

theorem validates_validate (hlog : Log.Takes ready) (hremote : ∀ call, (remote call).Keeps ready) :
    AppendsFrom (Ledger.Ready ready) Ledger.calls
      (Connection.validate fun call => entering (.remote call) (remote call))
      fun outcome made => Validates made outcome := by
  unfold Connection.validate
  refine (appends_retold _ _ (hremote _)).bind (q := fun _ outcome made => ∃ answer : Outcome Value,
    made = [⟨.remote .login, answer⟩] ∧
      outcome = (answer.map fun _ => ()).mapError (Stop.retold (.connection .login))) (fun v => ?_) ?_ ?_
  · refine (appends_logged hlog _ _).surely ?_
    refine (appends_retold _ _ (hremote _)).bind (fun w => appends_logged hlog _ _) ?_ ?_
    · rintro stop made ⟨inner, rfl, hinner⟩
      cases inner with
      | error raised =>
        cases hinner
        exact ⟨.error raised, rfl, rfl⟩
      | ok w => cases hinner
    · rintro w outcome first second ⟨inner, rfl, hinner⟩ ⟨rfl, rfl⟩
      cases inner with
      | error raised => cases hinner
      | ok x => exact ⟨.ok x, rfl, rfl⟩
  · rintro stop made ⟨inner, rfl, hinner⟩
    cases inner with
    | error raised =>
      cases hinner
      exact validates_unreached raised
    | ok v => cases hinner
  · rintro v outcome first second ⟨inner, rfl, hinner⟩ ⟨answer, rfl, rfl⟩
    cases inner with
    | error raised => cases hinner
    | ok x => exact validates_login x answer

/-! Failures of the phases over any surroundings. -/

/-- All that enabling fails with wraps another failure. -/
theorem enable_failsAs (hlog : Log.Takes ready) (hypervisor : Hypervisor.Call → Action σ Value) {guest : Guest}
    (hpath : guest.inventoryPath.isWritable = true) :
    (Enabling.enable hypervisor guest).FailsAs ready fun f =>
      ∃ cause, Wraps .enabling "failed to enable WinRM" cause f := by
  unfold Enabling.enable
  rw [Value.written, if_pos hpath]
  have hlogged := hlog .debug
  exact (hlogged _ _).failsAs.bind (hlogged _ _).keeps fun _ =>
    Action.failsAs_wrap _ _ fun cause => ⟨cause, wraps_enabling cause⟩

/-- All that validating fails with wraps another failure. -/
theorem validate_failsAs (hlog : Log.Takes ready) (hremote : ∀ call, (remote call).Keeps ready) :
    (Connection.validate remote).FailsAs ready fun f =>
      ∃ cause, Wraps .connection "cannot complete connection to VM" cause f ∨
        Wraps .connection "cannot log in to VM" cause f := by
  unfold Connection.validate
  have hlogged := hlog .debug
  refine (Action.failsAs_wrap _ _ fun cause => ⟨cause, .inl (wraps_reach cause)⟩).bind
    ((hremote _).wrap _) fun _ => ?_
  refine (hlogged _ _).failsAs.bind (hlogged _ _).keeps fun _ => ?_
  refine (Action.failsAs_wrap _ _ fun cause => ⟨cause, .inr (wraps_login cause)⟩).bind
    ((hremote _).wrap _) fun _ => ?_
  exact (hlogged _ _).failsAs

/-- The two phases that open a guest tell every failure on the way as the one that is theirs, and nothing
but failures, over all that a hypervisor and a remote management may do; so no failure of any other kind
comes out of them where a preparation is put together. Nobody who is called may make the log unready. -/
theorem phases_wrap_failures (hlog : Log.Takes ready) (hypervisor : Hypervisor.Call → Action σ Value)
    (hhypervisor : ∀ call, (hypervisor call).Keeps ready) (remote : Remote.Call → Action σ Value)
    (hremote : ∀ call, (remote call).Keeps ready) (guest : Guest) (hpath : guest.inventoryPath.isWritable = true)
    (facilities : Facilities σ) (environ : Environment) (version : Value) (attempts : Nat) (settings : Settings)
    (hlink : facilities.link.Keeps ready settings.account)
    (hsettings : settings.guest.inventoryPath.isWritable = true) {s : σ} (hs : ready s) :
    let enabled := (Enabling.enable (fun call => entering (.hypervisor call) (hypervisor call)) guest).eval ⟨[], s⟩
    let validated := (Connection.validate fun call => entering (.remote call) (remote call)).eval ⟨[], s⟩
    let crew := Assembly.crew facilities (Assembly.hypervisor facilities environ settings.client) version attempts
      settings
    Enables (guest, Enabling.script) enabled.2.calls enabled.1 ∧ Validates validated.2.calls validated.1 ∧
    (∀ f, (crew.enable.eval s).1 = .error (.failure f) →
      ∃ cause, Wraps .enabling "failed to enable WinRM" cause f) ∧
    ∀ f, (crew.validate.eval s).1 = .error (.failure f) →
      ∃ cause, Wraps .connection "cannot complete connection to VM" cause f ∨
        Wraps .connection "cannot log in to VM" cause f :=
  ⟨(enables_enable hlog hhypervisor hpath).whole hs rfl, (validates_validate hlog hremote).whole hs rfl,
    enable_failsAs hlog _ hsettings s hs, validate_failsAs hlog (Remote.keeps_perform hlog hlink) s hs⟩

open Rehearsal (World)

/-- The script ends with the code three, and the user is not let in; the console shows few records. -/
theorem phases_wrap_exit_and_login :
    let hypervisor : Hypervisor.Call → Action World Value
      | .start .. => pure (.text "7")
      | _ => pure (.int 3)
    let broken : Failure := .reported .requestReadTimeout "read timed out" .null
    let remote : Remote.Call → Action World Value
      | .reach => pure .null
      | _ => Action.fail broken
    let guest : Guest := ⟨.text "vm", .text "user", .text "word"⟩
    let start : Ledger World := ⟨[], { console := Console.setUp false {} }⟩
    (∃ f, ((Enabling.enable (fun call => entering (.hypervisor call) (hypervisor call)) guest).eval start).1 =
      .error (.failure f) ∧ f.cause? = some (.guestExit (.int 3)) ∧
        f.message = "failed to enable WinRM: WinRM process on guest VM exited with code 3") ∧
    ∃ f, ((Connection.validate fun call => entering (.remote call) (remote call)).eval start).1 =
      .error (.failure f) ∧ f.cause? = some broken ∧ f.message = "cannot log in to VM: read timed out" := by
  intro hypervisor broken remote guest start
  have hhypervisor : ∀ call, (hypervisor call).Keeps World.Ready := by
    intro call
    cases call <;> exact (Action.comes_pure _).keeps
  have hremote : ∀ call, (remote call).Keeps World.Ready := by
    intro call
    cases call <;> first | exact (Action.comes_pure _).keeps | exact (Action.comes_fail _).keeps
  have hready : World.Ready start.inner := ⟨.info, rfl, Redaction.Registry.coherent_nothing _ _⟩
  obtain ⟨henable, hvalidate, -⟩ := phases_wrap_failures World.takes_ready hypervisor hhypervisor remote hremote
    guest rfl World.facilities [] (.text "dev") 2 ⟨fun _ => .text "stemcell"⟩ (World.keeps_link _) rfl hready
  obtain ⟨f, hf, hwraps⟩ := henable.exits (.text "7") (.int 3) rfl rfl rfl (by decide)
  obtain ⟨g, hg, hwraps'⟩ := hvalidate.locked broken (List.mem_cons_of_mem _ (List.mem_singleton.mpr rfl))
  exact ⟨⟨f, hf, hwraps.cause, hwraps.message.trans (by decide)⟩, g, hg, hwraps'.cause, hwraps'.message⟩

end Construct

end Stemcell
