import Stemcell.Environment
import Stemcell.Log.Record
import Stemcell.Text.Lines
import Stemcell.Text.Search
import Stemcell.Text.Utf8
/-!
Running programs and waiting for them. A program that is not there, or that takes too long, ends like one that
reports so itself.
-/
namespace Stemcell.Program

/-- A program to be started. -/
structure Request where
  command : List Value
  /-- The whole environment of the program; none where it gets the one of its starter unchanged. -/
  environment : Option Environment
  /-- The seconds to wait for it; no number where it is waited for without end. -/
  timeout : Value
  deriving Repr

inductive Ending where
  /-- It ended with a status after it wrote these texts. -/
  | ended (status : Value) (stdout stderr : String)
  | missing
  /-- It was stopped because it took too long. -/
  | timedOut
  deriving Repr

def written (data : List UInt8) : Except Fault String :=
  match Text.Utf8.decode? data with
  | some text => .ok (String.ofList (Text.unifyLines text))
  | none => .error .undecodable

def Ending.ofBytes (status : Value) (stdout stderr : List UInt8) : Except Fault Ending := do
  return .ended status (← written stdout) (← written stderr)

/-- What a caller learns about a program. -/
structure Report where
  status : Value
  stdout : String
  stderr : String
  deriving Repr

def words (place : Nat) : List Value → Except Fault (List String)
  | [] => .ok []
  | v :: rest =>
    if v.kind = .text then (words (place + 1) rest).map (v.display :: ·) else .error (.notJoined place v.kind)

def handedOver : Value → Except Fault String
  | .text s => .ok s
  | .ragged codes => if Value.isEncodable codes then .ok (Value.ragged codes).display else .error .unencodable
  | .bytes data => .ok (String.ofList (Text.Utf8.decodeReplacing data))
  | v => .error (.notArgument v.kind)

/-- A text with a null character is not handed over. -/
def checkNull (s : String) : Except Fault Unit :=
  if s.toList.contains '\x00' then .error .embeddedNull else .ok ()

/-- The texts of the variables of an environment. No name may have an equals sign. -/
def variableTexts : Environment → Except Fault (List String)
  | [] => .ok []
  | (name, value) :: rest =>
    if name.toList.contains '=' then .error .illegalVariable
    else do return name :: (← handedOver value) :: (← variableTexts rest)

/-- Whether a program can be started like this at all: the variables are looked at first, but for null characters
after the command. -/
def check (request : Request) : Except Fault Unit := do
  let texts ← variableTexts (request.environment.getD [])
  let _ ← words 0 request.command
  request.command.forM fun v => do checkNull (← handedOver v)
  texts.forM checkNull

variable {σ : Type} [Log.Sink σ]

/-- Runs a program with further variables in its environment and reports what became of it. -/
def run (environ : Environment) (start : Request → Action σ Ending) (command : List Value)
    (more : Environment) (timeout : Value) : Action σ Report := do
  let environment := if more.isEmpty then none else some (environ.overlay more)
  let line := Text.join " " (← Action.ofFault (words 0 command))
  Log.debug .program s!"Running: {line}"
  match ← start ⟨command, environment, timeout⟩ with
  | .ended status stdout stderr => pure ⟨status, stdout, stderr⟩
  | .timedOut =>
    Log.error .program s!"Command timed out after {timeout.display}s: {line}"
    pure ⟨.int 1, "", s!"timed out after {timeout.display}s"⟩
  | .missing =>
    match command with
    | [] => Action.fail (.fault .outOfRange)
    | name :: _ =>
      Log.error .program s!"Error: '{name.display}' not found. Is it installed and on PATH?"
      pure ⟨.int 1, "", s!"'{name.display}' not found"⟩

end Stemcell.Program
