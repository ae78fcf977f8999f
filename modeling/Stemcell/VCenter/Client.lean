import Stemcell.Guest
import Stemcell.Program
import Stemcell.VCenter.Answer
/-!
A vCenter as the hypervisor of guests, by way of its command-line tool. Credentials go to the tool in its
environment, so they are never in a command or in a logged one.
-/
namespace Stemcell.VCenter

def tool : String := "govc"

def poweredOff : String := "poweredOff"

structure Client where
  url : Value
  username : Value
  password : Value
  /-- The file of the certificates to trust; all are trusted where none is given. -/
  certificates : Value
  deriving Repr

/-- Runs the tool: a command and the variables that are added to its environment. -/
abbrev Runner (σ : Type) := List Value → Environment → Action σ Program.Report

def pathArgument (inventoryPath : Value) : Except Fault Value :=
  inventoryPath.written.map fun path => .text s!"-vm.ipath={path}"

def toolCommand (name : String) (arguments : List Value) : List Value :=
  .text tool :: .text name :: arguments

/-- The command for a call. Waiting for a process is left to the tool. -/
def command : Hypervisor.Call → Except Fault (List Value)
  | .makeDirectory guest path => do
    return toolCommand "guest.mkdir" [← pathArgument guest.inventoryPath, .text "-p", path]
  | .upload guest artifact destination => do
    return toolCommand "guest.upload" [.text "-f", ← pathArgument guest.inventoryPath, artifact, destination]
  | .start guest command arguments => do
    return toolCommand "guest.start" ((← pathArgument guest.inventoryPath) :: command :: arguments)
  | .waitForExit guest pid => do
    let path ← pathArgument guest.inventoryPath
    let process ← pid.written
    return toolCommand "guest.ps" [path, .text s!"-p={process}", .text "-X", .text "-json"]
  | .isPoweredOff path => do return toolCommand "vm.info" [← pathArgument path, .text "-json"]
  | .checkUrl | .checkCredentials => .ok (toolCommand "about" [])
  | .find path => .ok (toolCommand "find" [.text "-maxdepth=0", path])

def Client.operation (client : Client) : Hypervisor.Call → Except Fault Operation
  | .makeDirectory _ path => path.written.map .makeDirectory
  | .upload _ artifact _ => artifact.written.map .upload
  | .start _ command _ => command.written.map .start
  | .waitForExit _ pid => pid.written.map .waitForExit
  | .isPoweredOff _ => .ok .powerState
  | .checkUrl => client.url.written.map .checkUrl
  | .checkCredentials => .ok .checkCredentials
  | .find path => path.written.map .find

def guest? : Hypervisor.Call → Option Guest
  | .makeDirectory guest _ | .upload guest _ _ | .start guest _ _ | .waitForExit guest _ => some guest
  | _ => none

/-- Whether the credentials of the vCenter go with a call. Only the check of the address does without. -/
def withCredentials : Hypervisor.Call → Bool
  | .checkUrl => false
  | _ => true

def loginText (guest : Guest) : Except Fault String := do
  let username ← guest.username.written
  let password ← guest.password.written
  return s!"{username}:{password}"

def Client.environment (client : Client) (call : Hypervisor.Call) : Except Fault Environment := do
  let credentials :=
    if withCredentials call then [("GOVC_USERNAME", client.username), ("GOVC_PASSWORD", client.password)]
    else []
  let trust :=
    if client.certificates.isTruthy then [("GOVC_TLS_CA_CERTS", client.certificates)]
    else [("GOVC_INSECURE", .text "1")]
  let login ←
    match guest? call with
    | some guest => pure [("GOVC_GUEST_LOGIN", .text (← loginText guest))]
    | none => pure []
  return ("GOVC_URL", client.url) :: (credentials ++ trust ++ login)

/-- What a call comes to if the tool succeeds and writes `stdout`. -/
def answer (call : Hypervisor.Call) (stdout : String) : Except Failure Value :=
  match call with
  | .start _ command _ =>
    let pid := Text.strip stdout
    if pid.isEmpty then .error (.vcenter (.noPid command.display)) else .ok (.text pid)
  | .waitForExit _ pid => (exitCodeOf stdout pid).map .int
  | .isPoweredOff _ =>
    (powerStateOf stdout).map fun state => .bool (state.sameAtom (.text poweredOff))
  | .find path => if (Text.strip stdout).isEmpty then .error (.vcenter (.notFound path.display)) else .ok .null
  | .makeDirectory .. | .upload .. | .checkUrl | .checkCredentials => .ok .null

/-- Does a call by running the tool once. The words for the case that it does not succeed are made before. -/
def Client.perform {σ : Type} (client : Client) (runner : Runner σ) (call : Hypervisor.Call) :
    Action σ Value := do
  let command ← Action.ofFault (command call)
  let operation ← Action.ofFault (client.operation call)
  let environment ← Action.ofFault (client.environment call)
  let report ← runner command environment
  if report.status.isZero then
    match answer call report.stdout with
    | .ok v => pure v
    | .error f => Action.fail f
  else Action.fail (.vcenter (.failed operation (Text.strip report.stderr)))

end Stemcell.VCenter
