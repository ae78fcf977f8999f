import Stemcell.Program
import Stemcell.Rehearsal.Machine.Execution
/-!
A machine on which a program is found by its path or in the directories of the search path, run, and stopped when
it takes too long.
-/
namespace Stemcell.Rehearsal.Machine

open Failure (SystemCode)

/-- Whether a program that takes so many millionths of a second takes longer than it is waited for; one without an
end does whenever the wait has an end. -/
def isLate (time : Option Nat) (timeout : Value) : Except Fault Bool :=
  match timeout, time with
  | .null, _ => .ok false
  | .bool b, some time => .ok (!b || 1000000 ≤ time)
  | .int n, some time => .ok (n ≤ 0 || n * 1000000 ≤ time)
  | .float x, some time =>
    match x.fraction? with
    | some (num, den) => .ok (num ≤ 0 || num * 1000000 ≤ time * den)
    | none => .ok (x.same (.infinite true))
  | .bool _, none | .int _, none => .ok true
  | .float x, none => .ok !(x.same (.infinite false))
  | v, _ => .error (.notReal v.kind)

/-- What a program came to. -/
structure Conclusion where
  /-- The status, below zero the number of a signal; nothing if the program does not end. -/
  status : Option Int
  out : String
  err : String
  /-- When nothing of it runs any more. -/
  time : Nat

/-- How far commands may stand inside one another. -/
def nesting : Nat := 200000

def conclude (environ : List (String × String)) (program : String) (words : List String) : Conclusion :=
  let scene : Scene :=
    { machine :=
        { files := { scratch with hereName := "/tmp/" ++ scratchName }
          streams := .ofList [(0, Stream.void), (1, Stream.sink []), (2, Stream.sink [])] }
      shell := { name := "", streams := [(0, 0), (1, 1), (2, 2)] } }
  let (outcome, scene) := (Execution.run nesting program words environ).run.run scene
  let collect (place : Nat) : String :=
    match ((Run.collected place).run.run scene).1 with
    | .ok text => text
    | .error _ => ""
  { status := match outcome with | .ok n => some n | .error _ => none
    out := collect 1
    err := collect 2
    time := scene.machine.jobs.foldl (fun time job => max time job.finish) scene.machine.now }

def environmentOf (environ : Environment) : List (String × String) :=
  environ.filterMap fun e =>
    match e.2 with
    | .text s => some (octets e.1, octets s)
    | .bytes data => some (octets e.1, ofBytes data)
    | _ => none

/-- Starts a program in an environment and waits for its end. -/
def start (environ : Environment) (request : Program.Request) : Except Failure Program.Ending := do
  let words ← (Program.words 0 request.command).mapError Failure.fault
  match words with
  | [] => throw (.fault .outOfRange)
  | name :: _ =>
    (Program.check request).mapError Failure.fault
    let environ := environmentOf (request.environment.getD environ)
    let searchPath := (environ.lookup "PATH").getD SearchPath.usual
    match SearchPath.locate scratch searchPath (octets name) with
    | .error code => if SearchPath.isAbsent code then return .missing else throw (.system code (some (.text name)))
    | .ok (_, program) =>
      let conclusion := conclude environ program (words.map octets)
      let time := conclusion.status.map fun _ => conclusion.time
      if ← (isLate time request.timeout).mapError Failure.fault then return .timedOut
      else
        (Program.Ending.ofBytes (.int (conclusion.status.getD 0)) (bytesOf conclusion.out) (bytesOf conclusion.err)).mapError
          Failure.fault

end Stemcell.Rehearsal.Machine
