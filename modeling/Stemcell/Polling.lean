import Stemcell.Log.Record
/-!
Polling: asking again and again, with a pause of fixed length in between, until the answer is yes. Whoever
wants a deadline puts it into the question.
-/
namespace Stemcell.Polling

variable {σ : Type} [Log.Sink σ]

/-- Asks until the answer is yes, at most `attempts` times after the `made` times it has been asked; what
stops the question or the pause stops the polling. -/
def pollFrom (sleep : Value → Action σ Unit) (interval : Value) (condition : Action σ Value) (made : Nat) :
    Nat → Action σ Unit
  | 0 => throw .unsettled
  | attempts + 1 => do
    Log.debug .polling s!"Poll attempt {made + 1}"
    let answer ← condition
    if answer.isTruthy then pure ()
    else do
      sleep interval
      pollFrom sleep interval condition (made + 1) attempts

/-- Asks until the answer is yes, at most `attempts` times. -/
def poll (attempts : Nat) (sleep : Value → Action σ Unit) (interval : Value) (condition : Action σ Value) :
    Action σ Unit :=
  pollFrom sleep interval condition 0 attempts

/-- Asks until the answer is yes, at most `attempts` times, without a pause and without a word. -/
def askUntil (condition : Action σ Value) : Nat → Action σ Unit
  | 0 => throw .unsettled
  | attempts + 1 => do
    let answer ← condition
    if answer.isTruthy then pure () else askUntil condition attempts

end Stemcell.Polling
