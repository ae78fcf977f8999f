import Stemcell.Failure
/-!
Steps that change a state and may stop early. What a step did to the state before it stopped stays done.
A handler sees failures only: an interrupt, and a bound on waiting that is used up, pass every handler.
-/
namespace Stemcell

/-- A request to end the whole run. -/
inductive Interrupt where
  | keyboard (text : String)
  | exit (status : Value)
  deriving Repr

def Interrupt.message : Interrupt → String
  | .keyboard text => text
  | .exit status => status.display

/-- Why a step stopped early. -/
inductive Stop where
  | failure (failure : Failure)
  | interrupt (interrupt : Interrupt)
  /-- As many attempts were made as were allowed, and nothing was settled. -/
  | unsettled
  deriving Repr

abbrev Outcome (α : Type) := Except Stop α

/-- A step on the state `σ` with a result in `α`. -/
abbrev Action (σ α : Type) := ExceptT Stop (StateM σ) α

namespace Action

variable {σ α β : Type}

/-- What a step comes to from a state, and the state behind it. -/
def eval (a : Action σ α) (s : σ) : Outcome α × σ := (ExceptT.run a).run s

/-- The step that is known by what it comes to. -/
def ofEval (f : σ → Outcome α × σ) : Action σ α := ExceptT.mk (f : StateM σ (Outcome α))

/-- The step that ends at once with this outcome. -/
def ofOutcome (outcome : Outcome α) : Action σ α := ofEval fun s => (outcome, s)

def fail (f : Failure) : Action σ α := throw (.failure f)

def ofFault (result : Except Fault α) : Action σ α :=
  match result with
  | .ok a => pure a
  | .error f => fail (.fault f)

def ofResult (result : Except Failure α) : Action σ α :=
  match result with
  | .ok a => pure a
  | .error f => fail f

def orElse (a : Action σ α) (handler : Failure → Action σ α) : Action σ α := ofEval fun s =>
  match a.eval s with
  | (.error (.failure f), s) => (handler f).eval s
  | done => done

/-- Fails with `wrap f` where `a` fails with `f`. -/
def wrap (wrap : Failure → Failure) (a : Action σ α) : Action σ α := a.orElse fun f => fail (wrap f)

def within {τ : Type} (part : σ → τ) (put : τ → σ → σ) (a : Action τ α) : Action σ α := ofEval fun s =>
  let (outcome, t) := a.eval (part s)
  (outcome, put t s)

@[simp] theorem eval_ofEval (f : σ → Outcome α × σ) (s : σ) : (ofEval f).eval s = f s := rfl

@[simp] theorem eval_pure (a : α) (s : σ) : (pure a : Action σ α).eval s = (.ok a, s) := rfl

@[simp] theorem eval_fail (f : Failure) (s : σ) :
    (fail f : Action σ α).eval s = (.error (.failure f), s) := rfl

/-- The second step runs on the state that the first one leaves, if that has a result. -/
theorem eval_bind (a : Action σ α) (k : α → Action σ β) (s : σ) :
    (a >>= k).eval s =
      match a.eval s with
      | (.ok x, s) => (k x).eval s
      | (.error stop, s) => (.error stop, s) := by
  simp only [eval, bind, ExceptT.bind, ExceptT.run, ExceptT.mk, StateT.bind, StateT.run]
  rcases a s with ⟨_ | _, _⟩ <;> rfl

/-- A handler is done exactly where the step fails, on the state that the step leaves. -/
theorem eval_orElse (a : Action σ α) (handler : Failure → Action σ α) (s : σ) :
    (a.orElse handler).eval s =
      match a.eval s with
      | (.error (.failure f), s) => (handler f).eval s
      | done => done := rfl

end Action

end Stemcell
