import Stemcell.Assembly
import Stemcell.Preflight
import Stemcell.Proofs.Construct.Agreement

/-! The assembled parts side by side, in surroundings that agree. What goes into an environment or a
session is related as the surroundings need it: equal, or alike but for what they must not tell. -/
namespace Stemcell

open Stemcell.Action (agree_pure agree_fail agree_written agree_ofFault agree_ofResult)
open Construct (AgreeOnLog Asks)

variable {σ τ : Type} {R : σ → τ → Prop}

structure Facilities.Agree (R : σ → τ → Prop) (account account' : Remote.Account)
    (requests : Program.Request → Program.Request → Prop) (f : Facilities σ) (g : Facilities τ) :
    Prop where
  start : ∀ q q', requests q q' → Action.Agree R Eq (f.start q) (g.start q')
  connect : ∀ host port timeout,
    Action.Agree R Eq (f.link.connect host port timeout) (g.link.connect host port timeout)
  session : Action.Agree R (fun run run' => ∀ command, Action.Agree R Eq (run command) (run' command))
    (f.link.session account) (g.link.session account')
  sleep : ∀ interval, Action.Agree R Eq (f.sleep interval) (g.sleep interval)
  write : ∀ s, Action.Agree R Eq (f.out.write s) (g.out.write s)
  flush : Action.Agree R Eq f.out.flush g.out.flush

/-- Surroundings beside themselves. -/
theorem Facilities.agree_refl (f : Facilities σ) (account : Remote.Account)
    {requests : Program.Request → Program.Request → Prop} (h : ∀ q q', requests q q' → q = q') :
    f.Agree Eq account account requests f where
  start q q' hq := by
    obtain rfl := h q q' hq
    exact Action.agree_refl _
  connect _ _ _ := Action.agree_refl _
  session := by
    rintro s _ rfl
    refine ⟨?_, rfl⟩
    generalize (f.link.session account).eval s = result
    obtain ⟨outcome, t⟩ := result
    cases outcome with
    | ok run => exact .ok fun command => Action.agree_refl (run command)
    | error stop => exact .error stop
  sleep _ := Action.agree_refl _
  write _ := Action.agree_refl _
  flush := Action.agree_refl _

/-- What is started for a command with further variables and no limit of time. -/
def Program.request (environ : Environment) (command : List Value) (more : Environment) :
    Program.Request :=
  ⟨command, if more.isEmpty then none else some (environ.overlay more), .null⟩

/-- Calls that are told apart by nothing but the variables that go with them. -/
structure VCenter.Client.SameCall (alike : Environment → Environment → Prop)
    (client client' : VCenter.Client) (call call' : Hypervisor.Call) : Prop where
  command : VCenter.command call = VCenter.command call'
  operation : client.operation call = client'.operation call'
  answer : ∀ stdout, VCenter.answer call stdout = VCenter.answer call' stdout
  environment : SameResult alike (client.environment call) (client'.environment call')

theorem VCenter.Client.sameCall_refl (client : VCenter.Client) (call : Hypervisor.Call) :
    VCenter.Client.SameCall Eq client client call call :=
  ⟨rfl, rfl, fun _ => rfl, .refl _⟩

theorem agree_checkVCenter {settings settings' : Config.Settings}
    {hypervisor : Hypervisor.Call → Action σ Value} {hypervisor' : Hypervisor.Call → Action τ Value}
    (hurl : settings.value .vcenterUrl = settings'.value .vcenterUrl)
    (hpath : settings.value .vmInventoryPath = settings'.value .vmInventoryPath)
    (h : ∀ call, VCenter.guest? call = none → Action.Agree R Eq (hypervisor call) (hypervisor' call)) :
    Action.Agree R Eq (Preflight.checkVCenter hypervisor settings)
      (Preflight.checkVCenter hypervisor' settings') := by
  have hask : ∀ check call, VCenter.guest? call = none →
      Action.Agree R Eq (Preflight.ask hypervisor check call) (Preflight.ask hypervisor' check call) := by
    intro check call hcall
    exact ((h call hcall).andThen fun _ => agree_pure rfl).orElse fun f => agree_fail _
  unfold Preflight.checkVCenter
  rw [hurl, hpath]
  exact (hask _ _ rfl).andThen fun _ => (hask _ _ rfl).andThen fun _ => hask _ _ rfl

variable [Log.Sink σ] [Log.Sink τ] {f : Facilities σ} {g : Facilities τ}

theorem agree_run (hlog : AgreeOnLog R) {environ more more' : Environment} {command : List Value}
    (h : Action.Agree R Eq (f.start (Program.request environ command more))
      (g.start (Program.request environ command more'))) :
    Action.Agree R Eq (Program.run environ f.start command more .null)
      (Program.run environ g.start command more' .null) := by
  unfold Program.run
  refine (agree_ofFault (.refl _)).andThen fun words => (hlog _ _ _).andThen fun _ => ?_
  refine Action.Agree.andThen h fun ending => ?_
  cases ending with
  | ended status stdout stderr => exact agree_pure rfl
  | timedOut => exact (hlog _ _ _).andThen fun _ => agree_pure rfl
  | missing =>
    cases command with
    | nil => exact agree_fail _
    | cons name rest => exact (hlog _ _ _).andThen fun _ => agree_pure rfl

theorem agree_hypervisor (hlog : AgreeOnLog R) {environ : Environment} {client client' : VCenter.Client}
    {call call' : Hypervisor.Call} {alike : Environment → Environment → Prop}
    (h : VCenter.Client.SameCall alike client client' call call')
    (hstart : ∀ command more more', VCenter.command call = .ok command → alike more more' →
      Action.Agree R Eq (f.start (Program.request environ command more))
        (g.start (Program.request environ command more'))) :
    Action.Agree R Eq (Assembly.hypervisor f environ client call)
      (Assembly.hypervisor g environ client' call') := by
  unfold Assembly.hypervisor VCenter.Client.perform
  rw [← h.command, ← h.operation]
  cases hcommand : VCenter.command call with
  | error fault => exact agree_fail (.fault fault)
  | ok command =>
    simp only [Action.ofFault, pure_bind]
    refine (agree_ofFault (.refl _)).andThen fun operation => ?_
    refine (agree_ofFault h.environment).bind fun more more' hmore => ?_
    refine (agree_run hlog (hstart _ more more' hcommand hmore)).andThen fun report => ?_
    rw [h.answer]
    split
    · split
      · exact agree_pure rfl
      · exact agree_fail _
    · exact agree_fail _

theorem agree_execute (hlog : AgreeOnLog R) {account account' : Remote.Account}
    {requests : Program.Request → Program.Request → Prop} (h : f.Agree R account account' requests g)
    (hhost : account.host = account'.host) (command : Value) :
    Action.Agree R Eq (Remote.execute f.link account command) (Remote.execute g.link account' command) := by
  unfold Remote.execute
  rw [hhost]
  refine (agree_written _).andThen fun host => (agree_written _).andThen fun shown => ?_
  refine (hlog _ _ _).andThen fun _ => ?_
  refine ((h.session.bind fun run run' hrun => hrun command).wrap _).andThen fun response => ?_
  unfold Remote.settle
  split
  · dsimp only
    split
    · exact (hlog _ _ _).andThen fun _ => agree_pure rfl
    · exact agree_pure rfl
  · dsimp only
    split
    · exact (hlog _ _ _).andThen fun _ => (agree_written _).andThen fun _ => agree_fail _
    · exact (agree_written _).andThen fun _ => agree_fail _

theorem agree_remote (hlog : AgreeOnLog R) {account account' : Remote.Account}
    {requests : Program.Request → Program.Request → Prop} (h : f.Agree R account account' requests g)
    (hhost : account.host = account'.host) (call : Remote.Call) :
    Action.Agree R Eq (Remote.perform f.link account call) (Remote.perform g.link account' call) := by
  have hexecute := agree_execute hlog h hhost
  cases call with
  | reach =>
    have hreach : Action.Agree R Eq (Remote.reach f.link account Remote.connectTimeout)
        (Remote.reach g.link account' Remote.connectTimeout) := by
      unfold Remote.reach
      rw [hhost]
      refine (h.connect _ _ _).orElse fun failure => ?_
      split
      · exact Action.Agree.andThen (agree_fail failure) fun _ =>
          (agree_written _).andThen fun _ => agree_fail _
      · exact (agree_written _).andThen fun _ => agree_fail _
    exact hreach.andThen fun _ => agree_pure rfl
  | login => exact (hexecute _).andThen fun _ => agree_pure rfl
  | execute command => exact hexecute command
  | extract source destination => exact (hexecute _).andThen fun _ => agree_pure rfl

theorem agree_crew (hlog : AgreeOnLog R) {settings settings' : Config.Settings}
    {requests : Program.Request → Program.Request → Prop}
    (hf : f.Agree R settings.account settings'.account requests g)
    (hhost : settings.account.host = settings'.account.host)
    (hpath : settings.guest.inventoryPath = settings'.guest.inventoryPath)
    {hypervisor : Hypervisor.Call → Action σ Value} {hypervisor' : Hypervisor.Call → Action τ Value}
    (h : ∀ call call', Asks settings.guest settings'.guest call call' →
      Action.Agree R Eq (hypervisor call) (hypervisor' call')) (version : Value) (attempts : Nat) :
    (Assembly.crew f hypervisor version attempts settings).Agree R settings.guest settings'.guest
      (Assembly.crew g hypervisor' version attempts settings') where
  version := agree_pure rfl
  hypervisor := h
  remote := agree_remote hlog hf hhost
  enable := Construct.agree_enable hlog hpath h
  validate := Construct.agree_validate hlog (agree_remote hlog hf hhost)
  announce _ := (hf.write _).andThen fun _ => hf.flush
  poll := Construct.agree_pollFrom hlog hf.sleep
    (Construct.agree_isOff (h _ _ .isPoweredOff) ((hf.write _).andThen fun _ => hf.flush)) _ 0 attempts

theorem agree_checkArtifacts (hlog : AgreeOnLog R) (files : Files) (directory : Value) :
    Action.Agree R Eq (Preflight.checkArtifacts files directory : Action σ Unit)
      (Preflight.checkArtifacts files directory) := by
  unfold Preflight.checkArtifacts
  split
  · exact (agree_ofResult _).andThen fun _ => hlog _ _ _
  · exact agree_fail _

end Stemcell
