import Stemcell.Redaction
/-!
The console: where log records become lines that somebody reads. Once it is set up it shows the records from
its level on, with all secrets masked. Before that it shows warnings and worse as they are.
-/
namespace Stemcell

/-- A line that was shown, and the level of its record. -/
structure ConsoleLine where
  level : Log.Level
  text : String
  deriving DecidableEq, Repr

/-- A console: the secrets to be masked, the least level that is shown once it is set up, and the lines shown so
far, the last one first. -/
structure Console where
  registry : Redaction.Registry := {}
  level : Option Log.Level := none
  lines : List ConsoleLine := []
  deriving Inhabited

namespace Console

def levelFor (verbose : Bool) : Log.Level := if verbose then .debug else .info

def setUp (verbose : Bool) (c : Console) : Console := { c with level := some (levelFor verbose) }

def shows (c : Console) (level : Log.Level) : Bool := (c.level.getD .warning).rank ≤ level.rank

def display (level : Log.Level) (text : String) (c : Console) : Console :=
  { c with lines := ⟨level, text⟩ :: c.lines }

/-- The record with secrets masked, by a console that is set up. -/
def filtered (env : Environment) (c : Console) (record : Log.Record) : Except Fault Log.Record :=
  match c.level with
  | none => .ok record
  | some _ => (c.registry.secrets env).bind fun secrets => Redaction.Registry.redactRecord secrets record

/-- The console with its secrets collected, if it is set up. -/
def settled (env : Environment) (c : Console) : Console :=
  match c.level with
  | none => c
  | some _ => { c with registry := c.registry.settled env }

/-- Takes a record. A record that does not fit its own values is not shown. -/
def take (env : Environment) (record : Log.Record) : Action Console Unit := .ofEval fun c =>
  if !c.shows record.level then (.ok (), c)
  else
    let settled := c.settled env
    match c.filtered env record with
    | .error f => (.error (.failure (.fault f)), settled)
    | .ok record =>
      match record.text with
      | .error _ => (.ok (), settled)
      | .ok text => (.ok (), settled.display record.level text)

def register (value : Value) : Action Console Unit := .ofEval fun c =>
  match c.registry.register value with
  | .error f => (.error (.failure (.fault f)), c)
  | .ok registry => (.ok (), { c with registry })

end Console

end Stemcell
