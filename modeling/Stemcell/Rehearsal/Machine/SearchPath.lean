import Stemcell.Rehearsal.Machine.Disk
/-!
Where programs are found: at a path, or by name in the directories of the search path, the first one of them.
-/
namespace Stemcell.Rehearsal.Machine.SearchPath

open Failure (SystemCode)

/-- The directories that are searched where the environment names none. -/
def usual : String := "/bin:/usr/bin"

/-- The name of the program that a place holds. -/
def programAt? (files : Files) (way : List String) : Option String :=
  match files.root.at? way with
  | some (.file (0x7f :: _)) => way.getLast?
  | _ => none

def programOf (files : Files) (path : String) : Except SystemCode String := do
  let way ← Disk.way files (readable path)
  match files.root.at? way with
  | none => throw .noEntry
  | some _ =>
    match programAt? files way with
    | some name => return name
    | none => throw .denied

def isAbsent : SystemCode → Bool
  | .noEntry | .notDirectory => true
  | _ => false

/-- The first program at one of these paths, with its path. That one is not there counts less than any other
refusal. -/
def first (files : Files) (refusal : SystemCode) : List String → Except SystemCode (String × String)
  | [] => .error refusal
  | path :: rest =>
    match programOf files path with
    | .ok name => .ok (path, name)
    | .error code =>
      first files (if isAbsent code && (!rest.isEmpty || refusal ≠ .noEntry) then refusal else code) rest

/-- The program with a name, found as a path or in the search path, and its path. -/
def locate (files : Files) (searchPath : String) (name : String) : Except SystemCode (String × String) :=
  if name.toList.contains '/' then (programOf files name).map fun program => (name, program)
  else first files .noEntry ((Text.split ':' searchPath).map fun directory => Path.join directory name)

end Stemcell.Rehearsal.Machine.SearchPath
