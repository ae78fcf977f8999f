import Stemcell.Rehearsal.World
/-!
The program on a real command line. It reads the files that the command names and the variables that it knows; it
starts no other programs, so a construction ends where the vCenter is asked for.
-/
namespace Stemcell

def knownVariables : List String :=
  Config.Field.all.map Config.Field.environmentVariable ++ ["GOVC_PASSWORD", "PATH", "HOME"]

def readEnvironment : List String → IO Environment
  | [] => pure []
  | name :: rest => do
    let more ← readEnvironment rest
    match ← IO.getEnv name with
    | some value => pure ((name, .text value) :: more)
    | none => pure more

def readFile (files : Files) (path : String) : IO Files := do
  try
    let data ← IO.FS.readBinFile path
    return files.add path (.file data.toList)
  catch _ => return files

def readFiles (files : Files) (environ : Environment) (i : CommandLine.Invocation) : IO Files := do
  match i.command with
  | .version => return files
  | .construct flags config => do
    let files ← (Preflight.artifactNames ++ config.toList).foldlM readFile files
    let flagOf (f : Config.Field) : Value := CommandLine.flagValue (flags f)
    match Config.resolve files environ (CommandLine.flagValue config) flagOf with
    | .ok settings =>
      match settings.value .vcenterCaCerts with
      | .text path => readFile files path
      | _ => return files
    | .error _ => return files

/-- Runs the program and gives its status. -/
def runProgram (words : List String) : IO UInt32 := do
  let environ ← readEnvironment knownVariables
  let here ← IO.currentDir
  let start : Files := { hereName := toString here }
  let files ←
    match CommandLine.Invocation.ofWords words with
    | .ok i => readFiles start environ i
    | .error _ => pure start
  let world : Rehearsal.World := { environ, outside := { programs := [.ok .missing] } }
  let (ended, world) := CommandLine.run (world.surroundings files []) words world
  let (out, err) :=
    match ended with
    | .refused r => (r.stdout, r.stderr)
    | _ => (world.stdout, world.stderr)
  IO.print out
  IO.eprint err
  return UInt32.ofNat ended.status.toNat

end Stemcell

def main (words : List String) : IO UInt32 := Stemcell.runProgram words
