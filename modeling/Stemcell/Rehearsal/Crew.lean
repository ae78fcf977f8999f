import Stemcell.Construct
import Stemcell.Rehearsal.Outside
/-!
Rehearsing a preparation: those that it works with follow scripts, one for each kind of call, and everything
that is said and done is recorded.
-/
namespace Stemcell.Rehearsal

open Construct (Step Crew)

/-- The state of a rehearsal; records have their last entry first. -/
structure State where
  /-- What the calls of each kind will come to. -/
  scripts : List (String × List (Outcome Value)) := []
  steps : List Step := []
  records : List Log.Record := []
  slept : List Value := []
  written : List String := []
  flushes : Nat := 0
  outside : Outside := {}
  deriving Inhabited

instance : Log.Sink State where
  write record := .ofEval fun s => (.ok (), { s with records := record :: s.records })

namespace State

/-- What is left of the script for a kind of call. -/
def script (s : State) (label : String) : List (Outcome Value) :=
  ((s.scripts.find? (·.1 = label)).map Prod.snd).getD []

def dropFirst (label : String) : List (String × List (Outcome Value)) → List (String × List (Outcome Value))
  | [] => []
  | (name, outcomes) :: rest =>
    if name = label then (name, outcomes.drop 1) :: rest else (name, outcomes) :: dropFirst label rest

/-- Takes the next outcome of a script, or `fallback` where there is none. -/
def next (label : String) (fallback : Outcome Value) : Action State Value := .ofEval fun s =>
  ((s.script label).head?.getD fallback, { s with scripts := dropFirst label s.scripts })

end State

/-- What a call comes to for which nothing is laid down. -/
def fallback : Step → Value
  | .version => .text "dev"
  | .hypervisor (.start ..) => .text "5555"
  | .hypervisor (.waitForExit ..) => .int 0
  | .hypervisor (.isPoweredOff _) => .bool true
  | .remote (.execute _) => .int 0
  | _ => .null

/-- Records a call and takes the next outcome of its script. -/
def follow (label : Step → String) (step : Step) : Action State Value := do
  Action.ofEval fun s => (.ok (), { s with steps := step :: s.steps })
  State.next (label step) (.ok (fallback step))

/-- Follows a script where only the end of a call matters. -/
def followDone (label : Step → String) (step : Step) : Action State Unit := do
  let _ ← follow label step
  pure ()

/-- A pause that is recorded and follows its own script. -/
def sleep (interval : Value) : Action State Unit := do
  Action.ofEval fun s => (.ok (), { s with slept := interval :: s.slept })
  let _ ← State.next "sleep" (.ok .null)
  pure ()

def stream : Stream State where
  write s := .ofEval fun state => (.ok (), { state with written := s :: state.written })
  flush := .ofEval fun state => (.ok (), { state with flushes := state.flushes + 1 })

/-- How often a script can be asked before its fallback settles the matter. -/
def patience (label : String) : Action State Nat := .ofEval fun s => (.ok ((s.script label).length + 1), s)

/-- A crew that follows scripts. Its poller asks at once and without end. -/
def crew (label : Step → String) (pollOutcome : Outcome Unit) (offLabel : String) : Crew State where
  version := follow label .version
  hypervisor call := follow label (.hypervisor call)
  remote call := follow label (.remote call)
  enable := followDone label .enable
  validate := followDone label .validate
  announce event := followDone label (.announce event)
  poll interval condition := do
    Action.ofEval fun s => (pollOutcome, { s with steps := .poll interval :: s.steps })
    Polling.askUntil condition (← patience offLabel)

/-- The parts of a crew that are not rehearsed but real. -/
structure RealParts where
  enabling : Bool := false
  validation : Bool := false
  messages : Bool := false
  polling : Bool := false

/-- A crew with some real parts over the scripts of the others. -/
def Crew.withReal (crew : Crew State) (real : RealParts) (guest : Guest) (offLabel : String) : Crew State where
  version := crew.version
  hypervisor := crew.hypervisor
  remote := crew.remote
  enable := if real.enabling then Enabling.enable crew.hypervisor guest else crew.enable
  validate := if real.validation then Connection.validate crew.remote else crew.validate
  announce := if real.messages then stream.announce else crew.announce
  poll interval condition :=
    if real.polling then do Polling.poll (← patience offLabel) sleep interval condition
    else crew.poll interval condition

end Stemcell.Rehearsal
