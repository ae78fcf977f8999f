import Stemcell.Action
import Stemcell.Log.Template
/-!
Log records and where they go. A step that logs does not know what becomes of its records: the state it runs
on says so.
-/
namespace Stemcell.Log

/-- How much a record matters. -/
inductive Level where
  | debug | info | warning | error | critical
  deriving DecidableEq, Repr

def Level.rank : Level → Nat
  | .debug => 10
  | .info => 20
  | .warning => 30
  | .error => 40
  | .critical => 50

/-- The parts of the program that log, and names that come from elsewhere. -/
inductive Channel where
  | guest
  | enabling
  | connection
  | construction
  | config
  | polling
  | program
  | remote
  | command
  | version
  | named (name : String)
  deriving DecidableEq, Repr

/-- A message with its values. -/
structure Record where
  level : Level
  channel : Channel
  message : Value
  arguments : Arguments
  deriving Repr

/-- The arguments of a list of values: a single mapping with entries gives values by name. -/
def Arguments.ofValues : List Value → Arguments
  | [] => .none
  | [.mapping (e :: entries)] => .names (e :: entries)
  | values => .places values

def Record.text (r : Record) : Except Fault String :=
  r.message.written.bind fun template => Template.fill template r.arguments

/-- A state that takes log records. -/
class Sink (σ : Type) where
  /-- Takes a record; this can fail, for instance where the record has to be looked through first. -/
  write : Record → Action σ Unit

variable {σ : Type} [Sink σ]

def text (level : Level) (channel : Channel) (s : String) : Action σ Unit :=
  Sink.write ⟨level, channel, .text s, .none⟩

/-- Logs a text for whoever looks for a mistake. -/
def debug (channel : Channel) (s : String) : Action σ Unit := text .debug channel s

/-- Logs a text for everybody. -/
def info (channel : Channel) (s : String) : Action σ Unit := text .info channel s

/-- Logs a text about something that went wrong. -/
def error (channel : Channel) (s : String) : Action σ Unit := text .error channel s

end Stemcell.Log
