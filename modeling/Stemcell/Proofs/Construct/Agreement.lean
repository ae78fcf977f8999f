import Stemcell.Construct
import Stemcell.Proofs.Agreement

/-! Two preparations side by side. They agree if those that they work with agree on the calls that a
preparation makes; the two guests may differ in whatever no call gives away. -/
namespace Stemcell.Construct

open Stemcell.Action (agree_pure agree_throw agree_fail agree_written)

/-- The calls on the hypervisor that a preparation makes for one guest, beside the same calls for
another one. -/
inductive Asks (guest guest' : Guest) : Hypervisor.Call → Hypervisor.Call → Prop where
  | makeDirectory : Asks guest guest' (.makeDirectory guest (.text provisionDirectory))
      (.makeDirectory guest' (.text provisionDirectory))
  | upload (a : Artifact) (h : a ∈ artifacts) :
    Asks guest guest' (.upload guest (.text a.source) (.text a.destination))
      (.upload guest' (.text a.source) (.text a.destination))
  | start (script : String) :
    Asks guest guest' (.start guest (.text Powershell.path) (Guest.scriptArguments script))
      (.start guest' (.text Powershell.path) (Guest.scriptArguments script))
  | waitForExit (pid : Value) : Asks guest guest' (.waitForExit guest pid) (.waitForExit guest' pid)
  | isPoweredOff :
    Asks guest guest' (.isPoweredOff guest.inventoryPath) (.isPoweredOff guest'.inventoryPath)

theorem Asks.same {guest : Guest} {call call' : Hypervisor.Call} (h : Asks guest guest call call') :
    call = call' := by
  cases h <;> rfl

variable {σ τ : Type} {R : σ → τ → Prop}

structure Crew.Agree (R : σ → τ → Prop) (guest guest' : Guest) (crew : Crew σ) (crew' : Crew τ) :
    Prop where
  version : Action.Agree R Eq crew.version crew'.version
  hypervisor : ∀ call call', Asks guest guest' call call' →
    Action.Agree R Eq (crew.hypervisor call) (crew'.hypervisor call')
  remote : ∀ call, Action.Agree R Eq (crew.remote call) (crew'.remote call)
  enable : Action.Agree R Eq crew.enable crew'.enable
  validate : Action.Agree R Eq crew.validate crew'.validate
  announce : ∀ event, Action.Agree R Eq (crew.announce event) (crew'.announce event)
  poll : Action.Agree R Eq (crew.poll shutdownInterval (isOff crew guest))
    (crew'.poll shutdownInterval (isOff crew' guest'))

section Phases

variable {guest guest' : Guest} {crew : Crew σ} {crew' : Crew τ}

theorem agree_createDirectory (h : crew.Agree R guest guest' crew') :
    Action.Agree R Eq (createDirectory crew guest) (createDirectory crew' guest') := by
  unfold createDirectory
  refine (h.announce _).andThen fun _ => (h.hypervisor _ _ .makeDirectory).andThen fun _ => ?_
  exact h.announce _

theorem agree_isOff
    (hlook : Action.Agree R Eq (crew.hypervisor (.isPoweredOff guest.inventoryPath))
      (crew'.hypervisor (.isPoweredOff guest'.inventoryPath)))
    (htell : Action.Agree R Eq (crew.announce .stillPreparing) (crew'.announce .stillPreparing)) :
    Action.Agree R Eq (isOff crew guest) (isOff crew' guest') := by
  unfold isOff
  refine hlook.andThen fun off => ?_
  split
  · exact agree_pure rfl
  · exact htell.andThen fun _ => agree_pure rfl

end Phases

variable [Log.Sink σ] [Log.Sink τ]

/-- Both states take the same texts into their logs. -/
def AgreeOnLog (R : σ → τ → Prop) : Prop :=
  ∀ level channel s, Action.Agree R Eq (Log.text level channel s : Action σ Unit) (Log.text level channel s)

theorem agree_runScript {guest guest' : Guest} {hypervisor : Hypervisor.Call → Action σ Value}
    {hypervisor' : Hypervisor.Call → Action τ Value} (hlog : AgreeOnLog R)
    (h : ∀ call call', Asks guest guest' call call' →
      Action.Agree R Eq (hypervisor call) (hypervisor' call')) (script : String) :
    Action.Agree R Eq (guest.runScript hypervisor script) (guest'.runScript hypervisor' script) := by
  unfold Guest.runScript
  refine (hlog _ _ _).andThen fun _ => (h _ _ (.start script)).andThen fun pid => ?_
  refine (h _ _ (.waitForExit pid)).andThen fun code => ?_
  refine (agree_written pid).andThen fun _ => (agree_written code).andThen fun _ => ?_
  refine (hlog _ _ _).andThen fun _ => ?_
  split
  · exact agree_pure rfl
  · exact agree_fail _

theorem agree_enable {guest guest' : Guest} {hypervisor : Hypervisor.Call → Action σ Value}
    {hypervisor' : Hypervisor.Call → Action τ Value} (hlog : AgreeOnLog R)
    (hpath : guest.inventoryPath = guest'.inventoryPath)
    (h : ∀ call call', Asks guest guest' call call' →
      Action.Agree R Eq (hypervisor call) (hypervisor' call')) :
    Action.Agree R Eq (Enabling.enable hypervisor guest) (Enabling.enable hypervisor' guest') := by
  unfold Enabling.enable
  rw [hpath]
  refine (agree_written _).andThen fun _ => (hlog _ _ _).andThen fun _ => ?_
  exact (agree_runScript hlog h Enabling.script).wrap _

theorem agree_validate {remote : Remote.Call → Action σ Value} {remote' : Remote.Call → Action τ Value}
    (hlog : AgreeOnLog R) (h : ∀ call, Action.Agree R Eq (remote call) (remote' call)) :
    Action.Agree R Eq (Connection.validate remote) (Connection.validate remote') := by
  unfold Connection.validate
  refine ((h .reach).wrap _).andThen fun _ => (hlog _ _ _).andThen fun _ => ?_
  exact ((h .login).wrap _).andThen fun _ => hlog _ _ _

/-- However often the question is asked. -/
theorem agree_pollFrom {sleep : Value → Action σ Unit} {sleep' : Value → Action τ Unit}
    {question : Action σ Value} {question' : Action τ Value} (hlog : AgreeOnLog R)
    (hsleep : ∀ interval, Action.Agree R Eq (sleep interval) (sleep' interval))
    (h : Action.Agree R Eq question question') (interval : Value) (made attempts : Nat) :
    Action.Agree R Eq (Polling.pollFrom sleep interval question made attempts)
      (Polling.pollFrom sleep' interval question' made attempts) := by
  induction attempts generalizing made with
  | zero => exact agree_throw .unsettled
  | succ attempts ih =>
    rw [Polling.pollFrom, Polling.pollFrom]
    refine (hlog _ _ _).andThen fun _ => h.andThen fun answer => ?_
    split
    · exact agree_pure rfl
    · exact (hsleep interval).andThen fun _ => ih (made + 1)

theorem agree_uploadAll {guest guest' : Guest} {crew : Crew σ} {crew' : Crew τ}
    (hlog : AgreeOnLog R) (h : crew.Agree R guest guest' crew')
    (list : List Artifact) (hlist : ∀ a ∈ list, a ∈ artifacts) :
    Action.Agree R Eq (uploadAll crew guest list) (uploadAll crew' guest' list) := by
  induction list with
  | nil => exact agree_pure rfl
  | cons a list ih =>
    obtain ⟨ha, hrest⟩ := List.forall_mem_cons.mp hlist
    have hone : Action.Agree R Eq (uploadOne crew guest a) (uploadOne crew' guest' a) := by
      unfold uploadOne
      refine (h.announce _).andThen fun _ => (hlog _ _ _).andThen fun _ => ?_
      exact (h.hypervisor _ _ (.upload a ha)).andThen fun _ => h.announce _
    exact hone.andThen fun _ => ih hrest

/-- Preparations agree where their crews do. -/
theorem agree_prepare {guest guest' : Guest} {crew : Crew σ} {crew' : Crew τ} (hlog : AgreeOnLog R)
    (hpath : guest.inventoryPath = guest'.inventoryPath) (h : crew.Agree R guest guest' crew') :
    Action.Agree R Eq (prepare crew guest) (prepare crew' guest') := by
  unfold prepare awaitShutdown
  rw [hpath]
  refine h.version.andThen fun version => (agree_written _).andThen fun _ => ?_
  refine (agree_written version).andThen fun _ => (hlog _ _ _).andThen fun _ => ?_
  refine (agree_createDirectory h).andThen fun _ => (h.announce _).andThen fun _ => ?_
  refine (agree_uploadAll hlog h artifacts fun _ ha => ha).andThen fun _ => ?_
  refine (h.announce _).andThen fun _ => (h.announce _).andThen fun _ => h.enable.andThen fun _ => ?_
  refine (h.announce _).andThen fun _ => (h.announce _).andThen fun _ => h.validate.andThen fun _ => ?_
  refine (h.announce _).andThen fun _ => (h.announce _).andThen fun _ => (h.remote _).andThen fun _ => ?_
  refine (h.announce _).andThen fun _ => (h.announce _).andThen fun _ => ?_
  refine ((agree_runScript hlog h.hypervisor logoffScript).wrap _).andThen fun _ => ?_
  refine (h.announce _).andThen fun _ => (h.announce _).andThen fun _ => (h.remote _).andThen fun _ => ?_
  refine (h.announce _).andThen fun _ => (h.announce _).andThen fun _ => ?_
  exact h.poll.andThen fun _ => h.announce _

end Stemcell.Construct
