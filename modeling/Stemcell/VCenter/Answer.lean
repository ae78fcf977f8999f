import Stemcell.Failure
import Stemcell.Json
import Stemcell.Text.Search
/-!
Reading what the vCenter's tool answers. Its keys start with a capital or, in newer releases, with a small
letter; both are understood.
-/
namespace Stemcell.VCenter

def smallInitial (name : String) : String :=
  match name.toList with
  | [] => name
  | c :: rest => String.ofList (c.toLower :: rest)

/-- The value under a name or under its spelling with a small first letter; nothing where there is neither. -/
def field (name : String) : Value → Except Fault Value
  | .mapping entries =>
    match Value.field? name entries with
    | some v => .ok v
    | none => .ok ((Value.field? (smallInitial name) entries).getD .null)
  | .text s =>
    if Text.contains s name then .error (.nameAsPlace .text) else .error (.noOperation .text "get")
  | .ragged codes =>
    if Text.contains (Value.ragged codes).display name then .error (.nameAsPlace .text)
    else .error (.noOperation .text "get")
  | .list items =>
    if items.any (·.sameAtom (.text name)) then .error (.nameAsPlace .list)
    else .error (.noOperation .list "get")
  | v => .error (.notContainer v.kind)

/-- The items that a value is gone through by: those of a list, the keys of a mapping, the characters of a
text. -/
def itemsOf : Value → Except Fault (List Value)
  | .list items => .ok items
  | .mapping entries => .ok (entries.map Prod.fst)
  | .text s => .ok (s.toList.map fun c => .text (String.singleton c))
  | .ragged codes => .ok (codes.map fun u => .ofCodes [u])
  | v => .error (.notIterable v.kind)

def firstOf : Value → Except Fault Value
  | .list [] => .error .outOfRange
  | .list (item :: _) => .ok item
  | .mapping entries =>
    match Value.entry? (.int 0) entries with
    | some v => .ok v
    | none => .error (.missingKey (.int 0))
  | .text s =>
    match s.toList with
    | [] => .error .outOfRange
    | c :: _ => .ok (.text (String.singleton c))
  | .ragged [] => .error .outOfRange
  | .ragged (u :: _) => .ok (.ofCodes [u])
  | v => .error (.notIndexed v.kind)

/-- A value, or an empty list where it does not count as given. -/
def orNoItems (v : Value) : Value := if v.isTruthy then v else .list []

def document (stdout : String) : Except Failure (Option Value) :=
  match Json.read stdout with
  | .ok v => .ok (some v)
  | .error .malformed => .ok none
  | .error (.fault f) => .error (.fault f)

/-- A fault as a failure, but as `problem` if it is one of the families that mean an unreadable answer. -/
def unreadable (families : List Fault.Family) (problem : Problem) (f : Fault) : Failure :=
  if families.contains f.family then .vcenter problem else .fault f

/-- The exit code of the first process with the given number. A process without a code ends the search. -/
def exitCodeAmong (pid : Value) : List Value → Except Failure Int
  | [] => .error (.vcenter (.noExitCode pid.display))
  | process :: rest => do
    let found ← (field "Pid" process).mapError .fault
    if found.displayCodes = pid.displayCodes then
      match ← (field "ExitCode" process).mapError .fault with
      | .null => .error (.vcenter (.noExitCode pid.display))
      | code => code.wholeNumber.mapError .fault
    else exitCodeAmong pid rest

def exitCodeIn (pid : Value) (doc : Value) : Except Failure Int := do
  let listed ← (field "ProcessInfo" doc).mapError (unreadable [.attribute] (.unreadableProcesses pid.display))
  let processes ← (itemsOf (orNoItems listed)).mapError .fault
  exitCodeAmong pid processes

def exitCodeOf (stdout : String) (pid : Value) : Except Failure Int := do
  match ← document stdout with
  | none => .error (.vcenter (.unreadableProcesses pid.display))
  | some doc => exitCodeIn pid doc

/-- The power state of the first machine in a document. -/
def stateIn (doc : Value) : Except Fault Value := do
  let machines ← field "VirtualMachines" doc
  let machine ← firstOf (orNoItems machines)
  let runtime ← field "Runtime" machine
  field "PowerState" runtime

/-- The power state of the first machine in an answer. -/
def powerStateOf (stdout : String) : Except Failure Value := do
  match ← document stdout with
  | none => .error (.vcenter .unreadableState)
  | some doc => (stateIn doc).mapError (unreadable [.attribute, .index, .type] .unreadableState)

end Stemcell.VCenter
