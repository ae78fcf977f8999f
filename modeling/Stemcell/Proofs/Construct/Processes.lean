import Stemcell.Proofs.Construct.History
import Stemcell.Proofs.Ending
import Stemcell.Proofs.Recording

/-! The processes that preparations start in a guest, and what may follow each of them.

The guest is opened over the same hypervisor that prepares it, and every call may come to anything.
The calls are kept in a ledger beside the state of those that answer them. -/
namespace Stemcell.Construct

open Stemcell.Action (Appends AppendsFrom appends_nothing appends_outcome)

/-- A state with the calls that were made on the way to it. -/
structure Ledger (σ : Type) where
  calls : List Entry
  inner : σ

namespace Ledger

variable {σ α : Type}

/-- Makes a call inside and enters it with what it came to. -/
def entering (step : Step) (a : Action σ Value) : Action (Ledger σ) Value := .ofEval fun l =>
  let (outcome, inner) := a.eval l.inner
  (outcome, ⟨l.calls ++ [⟨step, outcome⟩], inner⟩)

/-- Does a step inside that is no call. -/
def silently (a : Action σ α) : Action (Ledger σ) α :=
  a.within Ledger.inner fun inner l => { l with inner }

instance [Log.Sink σ] : Log.Sink (Ledger σ) where
  write record := silently (Log.Sink.write record)

end Ledger

open Ledger (entering silently)

/-- Those that answer the calls of a preparation, and those that it tells and waits with. -/
structure CrewHandlers (σ : Type) where
  version : Action σ Value
  hypervisor : Hypervisor.Call → Action σ Value
  remote : Remote.Call → Action σ Value
  announce : Progress → Action σ Unit
  sleep : Value → Action σ Unit

variable {σ : Type} [Log.Sink σ]

/-- The crew of these handlers. It opens the guest `opened` over the hypervisor of all other calls. -/
def CrewHandlers.crew (p : CrewHandlers σ) (opened : Guest) (attempts : Nat) : Crew (Ledger σ) where
  version := silently p.version
  hypervisor call := entering (.hypervisor call) (p.hypervisor call)
  remote call := entering (.remote call) (p.remote call)
  enable := Enabling.enable (fun call => entering (.hypervisor call) (p.hypervisor call)) opened
  validate := Connection.validate fun call => entering (.remote call) (p.remote call)
  announce event := silently (p.announce event)
  poll := Polling.poll attempts fun interval => silently (p.sleep interval)

/-- The calls of one preparation after the other, each with its bound on the looks at the guest. -/
def CrewHandlers.runs (p : CrewHandlers σ) (opened guest : Guest) : List Nat → σ → List (List Entry)
  | [], _ => []
  | attempts :: more, s =>
    let behind := ((prepare (p.crew opened attempts) guest).eval ⟨[], s⟩).2
    behind.calls :: p.runs opened guest more behind.inner

/-- A start of a process, with the command and its arguments. -/
def Step.start? : Step → Option (Guest × Value × List Value)
  | .hypervisor (.start guest command arguments) => some (guest, command, arguments)
  | _ => none

/-- A wait for the end of a process, by the number of the process. -/
def Step.wait? : Step → Option (Guest × Value)
  | .hypervisor (.waitForExit guest pid) => some (guest, pid)
  | _ => none

/-- The scripts that a preparation runs, in order. -/
def scripts (opened guest : Guest) : List (Guest × String) :=
  [(opened, Enabling.script), (guest, logoffScript)]

def scriptStart (job : Guest × String) : Step :=
  .hypervisor (.start job.1 (.text Powershell.path) (Guest.scriptArguments job.2))

def scriptWait (job : Guest × String) (pid : Value) : Step :=
  .hypervisor (.waitForExit job.1 pid)

/-- The calls of a part of a run in which these scripts are to come. -/
inductive Orderly : List (Guest × String) → List Entry → Prop where
  | stopped (todo : List (Guest × String)) : Orderly todo []
  | other {todo : List (Guest × String)} {e : Entry} {made : List Entry}
    (hstart : e.step.start? = none) (hwait : e.step.wait? = none) (hmade : Orderly todo made) :
    Orderly todo (e :: made)
  | refused (job : Guest × String) (todo : List (Guest × String)) (stop : Stop) :
    Orderly (job :: todo) [⟨scriptStart job, .error stop⟩]
  | waited (job : Guest × String) (todo : List (Guest × String)) (pid : Value)
    (outcome : Outcome Value) :
    Orderly (job :: todo) [⟨scriptStart job, .ok pid⟩, ⟨scriptWait job pid, outcome⟩]
  | passed (job : Guest × String) {todo : List (Guest × String)} (pid : Value) {code : Value}
    {made : List Entry} (hzero : code.isZero = true) (hmade : Orderly todo made) :
    Orderly (job :: todo)
      (⟨scriptStart job, .ok pid⟩ :: ⟨scriptWait job pid, .ok code⟩ :: made)

/-- Calls that have nothing to do with processes. -/
def Apart (made : List Entry) : Prop := ∀ e ∈ made, e.step.start? = none ∧ e.step.wait? = none

/-- The calls of a script, told by whether it came to its end. -/
inductive Ran (job : Guest × String) : Outcome Unit → List Entry → Prop where
  | unstarted (stop : Stop) : Ran job (.error stop) []
  | refused (stop stop' : Stop) : Ran job (.error stop) [⟨scriptStart job, .error stop'⟩]
  | failed (stop : Stop) (pid : Value) (outcome : Outcome Value) :
    Ran job (.error stop) [⟨scriptStart job, .ok pid⟩, ⟨scriptWait job pid, outcome⟩]
  | ended (pid code : Value) (hzero : code.isZero = true) :
    Ran job (.ok ()) [⟨scriptStart job, .ok pid⟩, ⟨scriptWait job pid, .ok code⟩]

theorem Ran.restop {job : Guest × String} {stop : Stop} {made : List Entry}
    (h : Ran job (.error stop) made) (stop' : Stop) : Ran job (.error stop') made := by
  cases h with
  | unstarted => exact .unstarted stop'
  | refused _ raised => exact .refused stop' raised
  | failed _ pid outcome => exact .failed stop' pid outcome

theorem Orderly.apart {todo : List (Guest × String)} {first second : List Entry} (hfirst : Apart first)
    (h : Orderly todo second) : Orderly todo (first ++ second) := by
  induction first with
  | nil => exact h
  | cons e first ih =>
    obtain ⟨hstart, hwait⟩ := hfirst e (List.mem_cons_self ..)
    exact .other hstart hwait (ih fun d hd => hfirst d (List.mem_cons_of_mem e hd))

/-! What the parts of a run enter. -/

variable {α β : Type}

/-- The state beside the ledger is ready. -/
def Ledger.Ready {σ : Type} (ready : σ → Prop) (l : Ledger σ) : Prop := ready l.inner

omit [Log.Sink σ] in
/-- A call that leaves the state ready is entered with what it came to. -/
theorem appendsFrom_entering {ready : σ → Prop} (step : Step) {a : Action σ Value} (ha : a.Keeps ready) :
    AppendsFrom (Ledger.Ready ready) Ledger.calls (entering step a) fun outcome made => made = [⟨step, outcome⟩] :=
  fun l hl => ⟨ha l.inner hl, _, rfl, rfl⟩

omit [Log.Sink σ] in
theorem appends_entering (step : Step) (a : Action σ Value) :
    Appends Ledger.calls (entering step a) fun outcome made => made = [⟨step, outcome⟩] :=
  appendsFrom_entering step (Action.keeps_always a)

omit [Log.Sink σ] in
theorem appends_silently (a : Action σ α) {p : Outcome α → List Entry → Prop} (h : ∀ outcome, p outcome []) :
    Appends Ledger.calls (silently a) p :=
  appends_nothing (fun _ => rfl) h

theorem appends_debug (channel : Log.Channel) (s : String) :
    Appends Ledger.calls (Log.debug channel s : Action (Ledger σ) Unit) fun _ made => made = [] :=
  appends_nothing (fun _ => rfl) fun _ => rfl

/-- What comes of a wait: the script has ended, or the run stops. -/
theorem appends_awaited (p : CrewHandlers σ) (job : Guest × String) (pid : Value) :
    Appends Ledger.calls (do
        let code ← entering (scriptWait job pid) (p.hypervisor (.waitForExit job.1 pid))
        let pidText ← Action.ofFault pid.written
        let codeText ← Action.ofFault code.written
        Log.debug .guest s!"Guest process {pidText} exited with code {codeText}"
        if code.isZero then pure () else Action.fail (.guestExit code))
      fun outcome made => ∃ waited, made = [⟨scriptWait job pid, waited⟩] ∧
        (outcome = .ok () → ∃ code, waited = .ok code ∧ code.isZero = true) := by
  refine (appends_entering _ _).bind (q := fun code outcome made => made = [] ∧
    (outcome = .ok () → code.isZero = true)) (fun code => ?_) ?_ ?_
  · refine AppendsFrom.ofFault _ (by simp) fun pidText _ => ?_
    refine AppendsFrom.ofFault _ (by simp) fun codeText _ => ?_
    refine (appends_debug _ _).after (by simp) fun _ => ?_
    by_cases hzero : code.isZero = true
    · rw [if_pos hzero]
      exact appends_outcome (fun _ => rfl) ⟨rfl, fun _ => hzero⟩
    · rw [if_neg hzero]
      exact appends_outcome (fun _ => rfl) ⟨rfl, by simp⟩
  · intro stop made hmade
    exact ⟨.error stop, hmade, by simp⟩
  · intro code outcome first second hfirst hsecond
    obtain ⟨hnone, hzero⟩ := hsecond
    rw [hfirst, hnone]
    exact ⟨.ok code, rfl, fun h => ⟨code, rfl, hzero h⟩⟩

theorem appends_runScript (p : CrewHandlers σ) (job : Guest × String) :
    Appends Ledger.calls (job.1.runScript
      (fun call => entering (.hypervisor call) (p.hypervisor call)) job.2) (Ran job) := by
  unfold Guest.runScript
  refine (appends_debug _ _).after Ran.unstarted fun _ => ?_
  refine (appends_entering _ _).bind (fun pid => appends_awaited p job pid) ?_ ?_
  · intro stop made hmade
    rw [hmade]
    exact .refused stop stop
  · intro pid outcome first second hfirst hsecond
    obtain ⟨waited, hwaited, hended⟩ := hsecond
    rw [hfirst, hwaited]
    cases outcome with
    | error stop => exact .failed stop pid waited
    | ok x =>
      obtain ⟨code, rfl, hzero⟩ := hended rfl
      exact .ended pid code hzero

/-! Phases in which no process is started. -/

theorem apart_nil : Apart [] := by simp [Apart]

theorem Apart.append {first second : List Entry} (h : Apart first) (h' : Apart second) :
    Apart (first ++ second) := by
  intro e he
  cases List.mem_append.mp he with
  | inl hfirst => exact h e hfirst
  | inr hsecond => exact h' e hsecond

omit [Log.Sink σ] in
/-- Where no process is started, the calls are apart. -/
theorem appends_apart_bind {a : Action (Ledger σ) α} {k : α → Action (Ledger σ) β}
    (ha : Appends Ledger.calls a fun _ made => Apart made)
    (hk : ∀ x, Appends Ledger.calls (k x) fun _ made => Apart made) :
    Appends Ledger.calls (a >>= k) fun _ made => Apart made :=
  AppendsFrom.closed (fun _ _ => Apart.append) ha hk

omit [Log.Sink σ] in
theorem apart_call {step : Step} (hstart : step.start? = none) (hwait : step.wait? = none)
    (a : Action σ Value) : Appends Ledger.calls (entering step a) fun _ made => Apart made := by
  refine (appends_entering step a).mono ?_
  intro outcome made hmade e he
  rw [hmade, List.mem_singleton] at he
  rw [he]
  exact ⟨hstart, hwait⟩

theorem apart_debug (channel : Log.Channel) (s : String) :
    Appends Ledger.calls (Log.debug channel s : Action (Ledger σ) Unit) fun _ made => Apart made := by
  refine (appends_debug channel s).mono fun _ made hmade => ?_
  rw [hmade]
  exact apart_nil

variable (p : CrewHandlers σ) (opened guest : Guest) (attempts : Nat)

theorem apart_announce (event : Progress) :
    Appends Ledger.calls ((p.crew opened attempts).announce event) fun _ made => Apart made :=
  appends_silently (p.announce event) fun _ => apart_nil

omit [Log.Sink σ] in
theorem apart_pure (x : α) :
    Appends Ledger.calls (pure x : Action (Ledger σ) α) fun _ made => Apart made :=
  appends_outcome (fun _ => rfl) apart_nil

theorem apart_createDirectory :
    Appends Ledger.calls (createDirectory (p.crew opened attempts) guest) fun _ made => Apart made := by
  unfold createDirectory
  refine appends_apart_bind (apart_announce p opened attempts _) fun _ => ?_
  refine appends_apart_bind (apart_call rfl rfl _) fun _ => ?_
  exact apart_announce p opened attempts _

theorem apart_uploadAll (artifacts : List Artifact) :
    Appends Ledger.calls (uploadAll (p.crew opened attempts) guest artifacts) fun _ made => Apart made := by
  induction artifacts with
  | nil => exact apart_pure ()
  | cons a rest ih =>
    refine appends_apart_bind ?_ fun _ => ih
    unfold uploadOne
    refine appends_apart_bind (apart_announce p opened attempts _) fun _ => ?_
    refine appends_apart_bind (apart_debug _ _) fun _ => ?_
    refine appends_apart_bind (apart_call rfl rfl _) fun _ => ?_
    exact apart_announce p opened attempts _

theorem apart_validate :
    Appends Ledger.calls (p.crew opened attempts).validate fun _ made => Apart made := by
  have hcheck : ∀ call : Remote.Call, ∀ f : Failure → Failure, Appends Ledger.calls
      ((entering (.remote call) (p.remote call)).wrap f) fun _ made => Apart made :=
    fun call f => (apart_call rfl rfl (p.remote call)).wrap f fun _ _ _ h => h
  change Appends Ledger.calls (Connection.validate fun call => entering (.remote call) (p.remote call)) _
  unfold Connection.validate
  refine appends_apart_bind (hcheck .reach _) fun _ => ?_
  refine appends_apart_bind (apart_debug _ _) fun _ => ?_
  refine appends_apart_bind (hcheck .login _) fun _ => ?_
  exact apart_debug _ _

theorem apart_isOff :
    Appends Ledger.calls (isOff (p.crew opened attempts) guest) fun _ made => Apart made := by
  unfold isOff
  refine appends_apart_bind (apart_call rfl rfl _) fun off => ?_
  by_cases hoff : off.isTruthy = true
  · rw [if_pos hoff]
    exact apart_pure off
  · rw [if_neg hoff]
    exact appends_apart_bind (apart_announce p opened attempts _) fun _ => apart_pure off

theorem apart_pollFrom (interval : Value) (made looks : Nat) :
    Appends Ledger.calls (Polling.pollFrom (fun interval => silently (p.sleep interval)) interval
      (isOff (p.crew opened attempts) guest) made looks) fun _ made => Apart made :=
  AppendsFrom.polling apart_nil (fun _ _ => Apart.append) (fun _ => apart_debug _ _)
    (fun _ => appends_silently _ fun _ => apart_nil) (apart_isOff p opened guest attempts) interval made looks

theorem apart_awaitShutdown :
    Appends Ledger.calls (awaitShutdown (p.crew opened attempts) guest) fun _ made => Apart made := by
  unfold awaitShutdown
  refine appends_apart_bind ?_ fun _ => apart_announce p opened attempts _
  exact apart_pollFrom p opened guest attempts shutdownInterval 0 attempts

/-! The whole of a run. -/

omit [Log.Sink σ] in
theorem appends_before {todo : List (Guest × String)} {a : Action (Ledger σ) α}
    {k : α → Action (Ledger σ) β} (ha : Appends Ledger.calls a fun _ made => Apart made)
    (hk : ∀ x, Appends Ledger.calls (k x) fun _ made => Orderly todo made) :
    Appends Ledger.calls (a >>= k) fun _ made => Orderly todo made := by
  refine ha.bind hk ?_ fun _ _ _ _ hfirst hsecond => hsecond.apart hfirst
  intro stop made hmade
  have h := (Orderly.stopped todo).apart hmade
  rwa [List.append_nil] at h

omit [Log.Sink σ] in
/-- A script goes before all that comes only if it has come to its end. -/
theorem appends_script {todo : List (Guest × String)} {job : Guest × String}
    {a : Action (Ledger σ) Unit} {k : Unit → Action (Ledger σ) β} (ha : Appends Ledger.calls a (Ran job))
    (hk : ∀ x, Appends Ledger.calls (k x) fun _ made => Orderly todo made) :
    Appends Ledger.calls (a >>= k) fun _ made => Orderly (job :: todo) made := by
  refine ha.bind hk ?_ ?_
  · intro stop made hmade
    cases hmade with
    | unstarted => exact .stopped _
    | refused _ raised => exact .refused job todo raised
    | failed _ pid outcome => exact .waited job todo pid outcome
  · intro x outcome first second hfirst hsecond
    cases hfirst with
    | ended pid code hzero => exact .passed job pid hzero hsecond

theorem appends_enable :
    Appends Ledger.calls (p.crew opened attempts).enable (Ran (opened, Enabling.script)) := by
  change Appends Ledger.calls (Enabling.enable _ opened) _
  unfold Enabling.enable
  refine AppendsFrom.ofFault _ Ran.unstarted fun path _ => ?_
  refine (appends_debug _ _).after Ran.unstarted fun _ => ?_
  exact (appends_runScript p (opened, Enabling.script)).wrap .enabling fun _ stop' _ h => h.restop stop'

theorem appends_prepare :
    Appends Ledger.calls (prepare (p.crew opened attempts) guest)
      fun _ made => Orderly (scripts opened guest) made := by
  have htell := fun event => apart_announce p opened attempts event
  have hlogout : Appends Ledger.calls
      ((guest.runScript (p.crew opened attempts).hypervisor logoffScript).wrap .logout)
      (Ran (guest, logoffScript)) :=
    (appends_runScript p (guest, logoffScript)).wrap .logout fun _ stop' _ h => h.restop stop'
  have hend : Appends Ledger.calls (awaitShutdown (p.crew opened attempts) guest)
      fun _ made => Orderly [] made := by
    refine (apart_awaitShutdown p opened guest attempts).mono fun _ made hmade => ?_
    have h := (Orderly.stopped []).apart hmade
    rwa [List.append_nil] at h
  unfold prepare
  refine appends_before (appends_silently p.version fun _ => apart_nil) fun version => ?_
  refine AppendsFrom.ofFault _ (fun _ => .stopped _) fun path _ => ?_
  refine AppendsFrom.ofFault _ (fun _ => .stopped _) fun versionText _ => ?_
  refine appends_before (apart_debug _ _) fun _ => ?_
  refine appends_before (apart_createDirectory p opened guest attempts) fun _ => ?_
  refine appends_before (htell _) fun _ => ?_
  refine appends_before (apart_uploadAll p opened guest attempts artifacts) fun _ => ?_
  refine appends_before (htell _) fun _ => appends_before (htell _) fun _ => ?_
  refine appends_script (appends_enable p opened attempts) fun _ => ?_
  refine appends_before (htell _) fun _ => appends_before (htell _) fun _ => ?_
  refine appends_before (apart_validate p opened attempts) fun _ => ?_
  refine appends_before (htell _) fun _ => appends_before (htell _) fun _ => ?_
  refine appends_before (apart_call rfl rfl _) fun _ => ?_
  refine appends_before (htell _) fun _ => appends_before (htell _) fun _ => ?_
  refine appends_script hlogout fun _ => ?_
  refine appends_before (htell _) fun _ => appends_before (htell _) fun _ => ?_
  refine appends_before (apart_call rfl rfl _) fun _ => ?_
  refine appends_before (htell _) fun _ => appends_before (htell _) fun _ => ?_
  exact hend

theorem runs_orderly (bounds : List Nat) (s : σ) :
    ∀ run ∈ p.runs opened guest bounds s, Orderly (scripts opened guest) run := by
  induction bounds generalizing s with
  | nil => simp [CrewHandlers.runs]
  | cons attempts bounds ih =>
    obtain ⟨-, made, hmade, horderly⟩ := appends_prepare p opened guest attempts ⟨[], s⟩ trivial
    have hcalls : ((prepare (p.crew opened attempts) guest).eval ⟨[], s⟩).2.calls = made := hmade
    rw [CrewHandlers.runs]
    intro run hrun
    cases List.mem_cons.mp hrun with
    | inl h =>
      rw [h, hcalls]
      exact horderly
    | inr h => exact ih _ run h

end Stemcell.Construct
