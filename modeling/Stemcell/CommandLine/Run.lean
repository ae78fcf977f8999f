import Stemcell.Assembly
import Stemcell.CommandLine.Invocation
import Stemcell.Config.File
import Stemcell.Preflight
import Stemcell.Version
/-!
Running the program. A construction first settles its parameters and makes all checks, then it prepares the guest.
A failure of this program is told in one line and ends it with status 1; anything else that stops it goes on to
whoever started it.
-/
namespace Stemcell.CommandLine

/-- What the program finds around it. -/
structure Surroundings (σ : Type) where
  facilities : Facilities σ
  environ : Environment
  files : Files
  installed : List (String × Value)
  /-- How often at most a guest is asked whether it is off. -/
  patience : Nat
  /-- Sets the console up, for many records or for few. -/
  setUp : Bool → Action σ Unit
  /-- Keeps a secret out of the console from now on. -/
  register : Value → Action σ Unit

/-- The value of a flag; one that is not given is nothing. -/
def flagValue (text : Option String) : Value := (text.map Value.text).getD .null

variable {σ : Type} [Log.Sink σ]

def Surroundings.version (s : Surroundings σ) : Value := Version.find s.installed Version.distribution

/-- Ends the program where a failure is its own, with the words for the failure. -/
def report (f : Failure) : Action σ Unit :=
  if f.isOwn then do
    Log.error .command f.message
    throw (.interrupt (.exit (.int 1)))
  else Action.fail f

/-- Settles the parameters, makes all checks and prepares the guest. -/
def construct (s : Surroundings σ) (flags : Config.Field → Option String) (config : Option String) :
    Action σ Unit := do
  let settings ← Action.ofResult
    (Config.resolve s.files s.environ (flagValue config) fun f => flagValue (flags f))
  s.register (settings.value .vmPassword)
  s.register (settings.value .vcenterPassword)
  Action.ofResult (Preflight.checkSettings s.files settings)
  Preflight.checkArtifacts s.files (.text ".")
  let hypervisor := Assembly.hypervisor s.facilities s.environ settings.client
  Preflight.checkVCenter hypervisor settings
  Construct.prepare (Assembly.crew s.facilities hypervisor s.version s.patience settings) settings.guest

def Command.perform (s : Surroundings σ) : Command → Action σ Unit
  | .construct flags config => (CommandLine.construct s flags config).orElse report
  | .version => Log.info .version s!"stembuild version {s.version.display}"

def Invocation.perform (s : Surroundings σ) (i : Invocation) : Action σ Unit := do
  s.setUp i.verbose
  i.command.perform s

inductive Ended where
  | refused (refusal : Refusal)
  | exited (status : Int)
  /-- Something stopped it that it does not handle. -/
  | escaped (stop : Stop)

/-- The status that a request to end the program asks for. -/
def exitStatus : Value → Int
  | .null => 0
  | .bool b => if b then 1 else 0
  | .int n => n
  | _ => 1

/-- How a run ended whose command came to this. -/
def Ended.of : Outcome Unit → Ended
  | .ok () => .exited 0
  | .error (.interrupt (.exit status)) => .exited (exitStatus status)
  | .error stop => .escaped stop

def Ended.status : Ended → Int
  | .refused refusal => refusal.status
  | .exited status => status
  | .escaped _ => 1

/-- Runs the program with the words of a command line. -/
def run (s : Surroundings σ) (words : List String) (state : σ) : Ended × σ :=
  match Invocation.ofWords words with
  | .error refusal => (.refused refusal, state)
  | .ok invocation =>
    let (outcome, state) := (invocation.perform s).eval state
    (.of outcome, state)

end Stemcell.CommandLine
