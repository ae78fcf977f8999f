import Std.Data.TreeMap
import Stemcell.Rehearsal.Machine.Disk
import Stemcell.Rehearsal.Machine.Script.Parser
/-!
A shell at work: its variables, functions and streams, and the machine that it shares with other shells. A run of
commands can be left before its end, for instance by a signal.
-/
namespace Stemcell.Rehearsal.Machine

/-- Where bytes come from or go. -/
inductive Stream where
  /-- What is still to be read, and whether more of the same follows without an end. -/
  | source (rest : List Char) (isEndless : Bool)
  /-- What was written, and when; the last of it comes first. -/
  | sink (written : List (Nat × String))
  /-- A place in a file; it is at its end if what is written is appended. -/
  | file (way : List String) (offset : Nat) (isAppending : Bool)
  /-- Nothing comes from here, and what goes here is lost. -/
  | void
  deriving Inhabited, Repr

/-- A command that is not waited for: its number, its status and when it ends. -/
structure Job where
  number : Nat
  status : Int
  finish : Nat
  deriving Repr

/-- A signal on its way to a process. -/
structure Notice where
  signal : Nat
  target : Nat
  time : Nat
  deriving DecidableEq, Repr

/-- What the shells on a machine share. -/
structure MachineState where
  files : Files
  streams : Std.TreeMap Nat Stream := {}
  /-- The time in millionths of a second. -/
  now : Nat := 0
  /-- The commands that were not waited for, the last one first. -/
  jobs : List Job := []
  /-- How many commands were run. -/
  steps : Nat := 0
  /-- How much was done, by commands of which nothing is left as well. -/
  work : Nat := 0
  lastNumber : Nat := 100
  notices : List Notice := []
  deriving Inhabited

/-- A variable. One without a value may have been declared. -/
structure Variable where
  value : Option String := none
  isExported : Bool := false
  isReadonly : Bool := false
  deriving Inhabited, Repr

/-- A shell. -/
structure Shell where
  name : String
  bindings : List (String × Variable) := []
  functions : List (String × Command) := []
  parameters : List String := []
  streams : List (Nat × Nat) := []
  status : Int := 0
  /-- The status of the last command whose output was put into words. -/
  inner : Option Int := none
  line : Nat := 1
  /-- The part of the shell that is at work, as complaints name it. -/
  part : Option String := none
  /-- What to do at signals; number zero is the end. -/
  traps : List (Nat × String) := []
  options : List Char := []
  number : Nat := 100
  /-- Whether it is that process, and not one that was made for some of the commands. -/
  isMain : Bool := true
  /-- The number of the last command that is not waited for. -/
  lastJob : Option Nat := none
  /-- What variables were before a function made them its own. -/
  saved : Option (List (String × Option Variable)) := none
  /-- How many loops the commands stand in. -/
  loops : Nat := 0
  /-- How many functions and scripts are being run inside one another. -/
  depth : Nat := 0
  calls : Nat := 0
  documents : List (Nat × Word) := []
  /-- How far options were read in a word. -/
  optionPlace : Nat := 0
  /-- The rights that new files do not have. -/
  mask : Nat := 18
  deriving Inhabited

/-- Why a run of commands is left before its end. -/
inductive Leave where
  /-- A loop ends, some loops further out, or goes on with its next turn. -/
  | loop (outer : Nat) (isAgain : Bool)
  | function
  | shell
  /-- The same as the end of the shell, except where a command is only tried. -/
  | failure
  | signal (number : Nat)
  /-- No end is in sight. -/
  | endless
  deriving DecidableEq, Repr

/-- The machine and the shell that is at work on it. -/
structure Scene where
  machine : MachineState
  shell : Shell
  deriving Inhabited

abbrev Run (α : Type) := ExceptT Leave (StateM Scene) α

/-! ### Signals -/

/-- The signals with their numbers, and what is said when one ends a command. -/
def signals : List (Nat × String × String) :=
  [(1, "HUP", "Hangup"), (2, "INT", ""), (3, "QUIT", "Quit"), (4, "ILL", "Illegal instruction"),
    (5, "TRAP", "Trace/breakpoint trap"), (6, "ABRT", "Aborted"), (7, "BUS", "Bus error"),
    (8, "FPE", "Floating point exception"), (9, "KILL", "Killed"), (10, "USR1", "User defined signal 1"),
    (11, "SEGV", "Segmentation fault"), (12, "USR2", "User defined signal 2"), (13, "PIPE", ""),
    (14, "ALRM", "Alarm clock"), (15, "TERM", "Terminated"), (16, "16", "Stack fault"), (17, "CHLD", ""),
    (18, "CONT", ""), (19, "STOP", ""), (20, "TSTP", ""), (21, "TTIN", ""), (22, "TTOU", ""), (23, "URG", ""),
    (24, "XCPU", "CPU time limit exceeded"), (25, "XFSZ", "File size limit exceeded"),
    (26, "VTALRM", "Virtual timer expired"), (27, "PROF", "Profiling timer expired"), (28, "WINCH", ""),
    (29, "IO", "I/O possible"), (30, "PWR", "Power failure"), (31, "SYS", "Bad system call")]

def signalName (number : Nat) : Option String :=
  (signals.find? (·.1 = number)).map fun s => s.2.1

def signalNumber (name : String) : Option Nat :=
  (signals.find? fun s => s.2.1 = name).map Prod.fst

/-- What is said when a signal ends a command. -/
def signalWords (number : Nat) : String := ((signals.find? (·.1 = number)).map (·.2.2)).getD ""

/-- Whether a signal has no effect unless something was laid down for it. -/
def isHarmless (number : Nat) : Bool := [0, 17, 18, 23, 28].contains number

/-- Whether a signal stops a program without ending it. -/
def isHalting (number : Nat) : Bool := [19, 20, 21, 22].contains number

namespace Run

def shell : Run Shell := return (← get).shell

def machine : Run MachineState := return (← get).machine

def setShell (f : Shell → Shell) : Run Unit := modify fun s => { s with shell := f s.shell }

def setMachine (f : MachineState → MachineState) : Run Unit := modify fun s => { s with machine := f s.machine }

def status : Run Int := return (← shell).status

def setStatus (n : Int) : Run Unit := setShell fun sh => { sh with status := n }

def wait (time : Nat) : Run Unit := setMachine fun m => { m with now := m.now + time }

/-! ### Streams -/

def newStream (stream : Stream) : Run Nat := do
  let place := (← machine).streams.size
  setMachine fun m => { m with streams := m.streams.insert place stream }
  return place

def streamOf (number : Nat) : Run (Option (Nat × Stream)) := do
  match (← shell).streams.lookup number with
  | none => return none
  | some place => return some (place, (← machine).streams[place]?.getD .void)

def setStream (place : Nat) (stream : Stream) : Run Unit :=
  setMachine fun m => { m with streams := m.streams.insert place stream }

/-- How many bytes count as much work as a command. -/
def blockSize : Nat := 256

/-- Writes to a numbered stream; false if nothing can be written there. -/
def write (number : Nat) (text : String) : Run Bool := do
  if text.isEmpty then return true
  setMachine fun m => { m with work := m.work + text.utf8ByteSize / blockSize }
  match ← streamOf number with
  | none | some (_, .source _ _) => return false
  | some (_, .void) => return true
  | some (place, .sink written) =>
    let now := (← machine).now
    setStream place (.sink ((now, text) :: written))
    return true
  | some (place, .file way offset isAppending) =>
    let files := (← machine).files
    let old := Disk.contents files way
    let data := bytesOf text
    let start := if isAppending then old.length else offset
    let files := Disk.put files way (.file (Disk.overwrite old start data))
    setMachine fun m => { m with files }
    setStream place (.file way (start + data.length) isAppending)
    return true

def say (text : String) : Run Unit := do
  let _ ← write 1 text

/-- What is still to be read from a numbered stream, and whether more of the same follows without an end. -/
def pending (number : Nat) : Run (List Char × Bool) := do
  match ← streamOf number with
  | some (_, .source rest isEndless) => return (rest, isEndless)
  | some (_, .file way offset _) =>
    return ((ofBytes ((Disk.contents (← machine).files way).drop offset)).toList, false)
  | _ => return ([], false)

/-- Goes behind what was read from a numbered stream, of which `rest` is left. -/
def setPending (number : Nat) (rest : List Char) : Run Unit := do
  match ← streamOf number with
  | some (place, .source _ isEndless) => setStream place (.source rest isEndless)
  | some (place, .file way _ isAppending) =>
    let size := (Disk.contents (← machine).files way).length
    setStream place (.file way (size - rest.length) isAppending)
  | _ => pure ()

/-- What was written to a stream, in the order of time. -/
def collected (place : Nat) : Run String := do
  match (← machine).streams[place]? with
  | some (.sink written) =>
    return String.join ((written.reverse.mergeSort fun a b => a.1 ≤ b.1).map Prod.snd)
  | _ => return ""

/-! ### Complaints -/

def complain (message : String) : Run Unit := do
  let sh ← shell
  let part := match sh.part with | some part => part ++ ": " | none => ""
  let _ ← write 2 s!"{sh.name}: {sh.line}: {part}{message}\n"

/-- Complains and gives up. -/
def fail {α : Type} (message : String) (status : Int := 2) : Run α := do
  complain message
  setStatus status
  throw .failure

/-! ### Variables -/

def find? (name : String) : Run (Option Variable) := return (← shell).bindings.lookup name

def value? (name : String) : Run (Option String) := return (← find? name).bind Variable.value

/-- Puts a variable among others. -/
def putVariable (name : String) (v : Variable) : List (String × Variable) → List (String × Variable)
  | [] => [(name, v)]
  | e :: rest => if e.1 = name then (name, v) :: rest else e :: putVariable name v rest

def changeVariable (name : String) (f : Variable → Variable) : Run Unit := do
  let old := (← find? name).getD {}
  setShell fun sh => { sh with bindings := putVariable name (f old) sh.bindings }

/-- The most bytes of a value. -/
def sizeLimit : Nat := Nat.pow 2 21

def assign (name value : String) : Run Unit := do
  if sizeLimit < value.utf8ByteSize then throw .endless
  match ← find? name with
  | some { isReadonly := true, .. } => fail s!"{name}: is read only"
  | old =>
    let isExported := (old.map Variable.isExported).getD false || (← shell).options.contains 'a'
    changeVariable name fun v => { v with value := some value, isExported }
    if name = "OPTIND" then setShell fun sh => { sh with optionPlace := 0 }

def unsetVariable (name : String) : Run Unit := do
  match ← find? name with
  | some { isReadonly := true, .. } => fail s!"{name}: is read only"
  | _ => setShell fun sh => { sh with bindings := sh.bindings.filter (·.1 ≠ name) }

/-- The variables that programs are given. -/
def exported : Run (List (String × String)) := do
  let given := (← shell).bindings.filter (·.2.isExported)
  return given.filterMap fun e => e.2.value.map (e.1, ·)

/-- The characters between which texts are taken apart into words. -/
def separators : Run String := return (← value? "IFS").getD " \t\n"

/-! ### Files -/

def files : Run Files := return (← machine).files

/-- Runs commands as another process with what the shell has; the shell keeps nothing of it but the status. -/
def apart (commands : Run Unit) : Run (Option Leave) := do
  let before ← shell
  let here := ((← files).here, (← files).hereName)
  setShell fun sh => { sh with isMain := false, traps := sh.traps.filter (·.2 = ""), loops := 0 }
  let leave ← tryCatch (do commands; pure none) fun leave => pure (some leave)
  let after ← shell
  setMachine fun m => { m with files := { m.files with here := here.1, hereName := here.2 } }
  setShell fun _ => { before with status := after.status % 256 }
  return leave

end Run

end Stemcell.Rehearsal.Machine
