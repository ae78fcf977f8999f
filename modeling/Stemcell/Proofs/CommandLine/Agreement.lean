import Stemcell.CommandLine.Run
import Stemcell.Proofs.Assembly

/-! Runs of a command side by side, behind the settling of its parameters. -/
namespace Stemcell.CommandLine

open Stemcell.Action (agree_pure agree_throw agree_fail agree_ofResult)
open Construct (AgreeOnLog)
open Config (Settings)

variable {σ τ : Type} {R : σ → τ → Prop} [Log.Sink σ] [Log.Sink τ]

/-- What a construction does once its parameters are settled and its passwords are registered. -/
def proceed (s : Surroundings σ) (settings : Settings) : Action σ Unit := do
  Action.ofResult (Preflight.checkSettings s.files settings)
  Preflight.checkArtifacts s.files (.text ".")
  let hypervisor := Assembly.hypervisor s.facilities s.environ settings.client
  Preflight.checkVCenter hypervisor settings
  Construct.prepare (Assembly.crew s.facilities hypervisor s.version s.patience settings) settings.guest

/-- The parameters that flags and the path of a file come to. -/
def Surroundings.resolve (s : Surroundings σ) (flags : Config.Field → Option String)
    (config : Option String) : Except Failure Settings :=
  Config.resolve s.files s.environ (flagValue config) fun f => flagValue (flags f)

theorem construct_eq (s : Surroundings σ) (flags : Config.Field → Option String) (config : Option String) :
    construct s flags config = (do
      let settings ← Action.ofResult (s.resolve flags config)
      s.register (settings.value .vmPassword)
      s.register (settings.value .vcenterPassword)
      proceed s settings) := rfl

theorem agree_report (hlog : AgreeOnLog R) (f : Failure) :
    Action.Agree R Eq (report f : Action σ Unit) (report f : Action τ Unit) := by
  unfold report
  split
  · exact (hlog _ _ _).andThen fun _ => agree_throw _
  · exact agree_fail f

theorem agree_proceed (hlog : AgreeOnLog R) {s : Surroundings σ} {s' : Surroundings τ} {settings : Settings}
    (henviron : s.environ = s'.environ) (hfiles : s.files = s'.files)
    (hinstalled : s.installed = s'.installed) (hpatience : s.patience = s'.patience)
    (hf : s.facilities.Agree R settings.account settings.account Eq s'.facilities) :
    Action.Agree R Eq (proceed s settings) (proceed s' settings) := by
  have hcall : ∀ call, Action.Agree R Eq
      (Assembly.hypervisor s.facilities s'.environ settings.client call)
      (Assembly.hypervisor s'.facilities s'.environ settings.client call) := by
    intro call
    refine agree_hypervisor hlog (settings.client.sameCall_refl call) fun command more more' _ hmore => ?_
    rw [hmore]
    exact hf.start _ _ rfl
  have hasked : ∀ call call', Construct.Asks settings.guest settings.guest call call' → Action.Agree R Eq
      (Assembly.hypervisor s.facilities s'.environ settings.client call)
      (Assembly.hypervisor s'.facilities s'.environ settings.client call') := by
    intro call call' hasks
    obtain rfl := hasks.same
    exact hcall call
  unfold proceed Surroundings.version
  rw [henviron, hfiles, hinstalled, hpatience]
  refine (agree_ofResult _).andThen fun _ => (agree_checkArtifacts hlog _ _).andThen fun _ => ?_
  refine (agree_checkVCenter rfl rfl fun call _ => hcall call).andThen fun _ => ?_
  exact Construct.agree_prepare hlog rfl (agree_crew hlog hf rfl rfl hasked _ _)

end Stemcell.CommandLine
