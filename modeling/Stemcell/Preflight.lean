import Stemcell.Config.Settings
import Stemcell.Construct
import Stemcell.Files.Tree
/-!
What is checked before anything is done to a guest: that all required parameters are given, that the files to be
uploaded are there, and that the vCenter can be reached, lets the user in and has the guest.
-/
namespace Stemcell.Preflight

open Config (Settings)

/-- Checks that no required parameter is missing and that a file of certificates that is given is there. -/
def checkSettings (files : Files) (settings : Settings) : Except Failure Unit := do
  if !settings.missing.isEmpty then throw (.config (.missing settings.missing))
  let certificates := settings.value .vcenterCaCerts
  if certificates.isTruthy then
    match files.isFile certificates with
    | .error f => throw (.fault f)
    | .ok true => pure ()
    | .ok false => throw (.config (.noCertificates certificates))

/-- The files to be uploaded, in the order in which they are looked for. -/
def artifactNames : List String := [Construct.policyToolName, Construct.automationName]

/-- Checks that a directory has files with these names. -/
def checkNames (files : Files) (directory : String) : List String → Except Failure Unit
  | [] => .ok ()
  | name :: rest =>
    if Files.isPlainFile (files.find (Path.join directory name)) then checkNames files directory rest
    else .error (.config (.noArtifact name))

variable {σ : Type} [Log.Sink σ]

def checkArtifacts (files : Files) (directory : Value) : Action σ Unit :=
  match directory with
  | .text path => do
    Action.ofResult (checkNames files path artifactNames)
    let names := Text.join " and " artifactNames
    Log.debug .config s!"Found {names} in {files.absolute path}"
  | v => Action.fail (.fault (.notPathPart v.kind))

/-- Does a call for a check: where the vCenter does not do its part, the check has failed. -/
def ask (hypervisor : Hypervisor.Call → Action σ Value) (check : Config.Check) (call : Hypervisor.Call) :
    Action σ Unit :=
  (do let _ ← hypervisor call).orElse fun f =>
    Action.fail (if f.kind.isA .vcenter then .check check f else f)

/-- Checks the address of the vCenter, its credentials and the path of the guest, in this order. -/
def checkVCenter (hypervisor : Hypervisor.Call → Action σ Value) (settings : Settings) : Action σ Unit := do
  ask hypervisor .url .checkUrl
  ask hypervisor (.credentials (settings.value .vcenterUrl)) .checkCredentials
  ask hypervisor .inventoryPath (.find (settings.value .vmInventoryPath))

end Stemcell.Preflight
