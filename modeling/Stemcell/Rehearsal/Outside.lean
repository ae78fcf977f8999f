import Stemcell.Program
import Stemcell.Remote.Manager
/-!
The world outside this program, laid down beforehand: what programs, connections and sessions will come to, in
the order in which they are asked for, and a record of what was asked.
-/
namespace Stemcell.Rehearsal

/-- What a session will come to. -/
inductive SessionScript where
  | refused (stop : Stop)
  /-- It opens, and its command does not get through. -/
  | broken (stop : Stop)
  | answers (response : Remote.Response)
  deriving Repr

/-- A session that was asked for, and its command if it took one. -/
structure SessionRecord where
  address : Value
  username : Value
  password : Value
  command : Option Value
  deriving Repr

/-- A program that was started. -/
structure ProgramRecord where
  command : List Value
  environment : Option Environment
  timeout : Value
  deriving Repr

/-- The outside world and the record of what it was asked, the last entry first. -/
structure Outside where
  programs : List (Outcome Program.Ending) := []
  sessions : List SessionScript := []
  connections : List (Outcome Value) := []
  ran : List ProgramRecord := []
  opened : List SessionRecord := []
  connected : List (Value × Nat × Value) := []
  slept : List Value := []
  deriving Inhabited

namespace Outside

/-- Notes that a program was started and takes what it comes to; when nothing is laid down any more, programs
succeed and write nothing. -/
def begin (request : Program.Request) : Action Outside Program.Ending := .ofEval fun s =>
  let s := { s with ran := ⟨request.command, request.environment, request.timeout⟩ :: s.ran }
  match s.programs with
  | [] => (.ok (.ended (.int 0) "" ""), s)
  | outcome :: rest => (outcome, { s with programs := rest })

/-- Starts a program; one that cannot be started like this at all is not noted. -/
def start (request : Program.Request) : Action Outside Program.Ending := do
  Action.ofFault (Program.check request)
  begin request

/-- Opens a connection; when nothing is laid down any more, connections succeed. -/
def connect (host : Value) (port : Nat) (timeout : Value) : Action Outside Unit := .ofEval fun s =>
  let s := { s with connected := (host, port, timeout) :: s.connected }
  match s.connections with
  | [] => (.ok (), s)
  | outcome :: rest => (outcome.map fun _ => (), { s with connections := rest })

/-- The response of a session for which nothing is laid down. -/
def silent : Remote.Response := ⟨.int 0, [], []⟩

/-- Notes the command of the session that was opened last. -/
def noteCommand (command : Value) : List SessionRecord → List SessionRecord
  | [] => []
  | r :: rest => { r with command := some command } :: rest

/-- Opens a session at an address; the session takes one command. -/
def session (address username password : Value) :
    Action Outside (Value → Action Outside Remote.Response) := .ofEval fun s =>
  let script := s.sessions.head?.getD (.answers silent)
  let s := { s with sessions := s.sessions.drop 1, opened := ⟨address, username, password, none⟩ :: s.opened }
  let run (outcome : Outcome Remote.Response) (command : Value) : Action Outside Remote.Response :=
    .ofEval fun s => (outcome, { s with opened := noteCommand command s.opened })
  match script with
  | .refused stop => (.error stop, s)
  | .broken stop => (.ok (run (.error stop)), s)
  | .answers response => (.ok (run (.ok response)), s)

/-- Lets time pass. -/
def sleep (interval : Value) : Action Outside Unit :=
  .ofEval fun s => (.ok (), { s with slept := interval :: s.slept })

end Outside

end Stemcell.Rehearsal
