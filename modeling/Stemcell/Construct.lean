import Stemcell.Connection
import Stemcell.Enabling
import Stemcell.Polling
import Stemcell.Progress
/-!
Preparing a guest for export as a stemcell: upload what it needs, open it for remote management, unpack, log
everybody out, run the setup script and wait until the guest has shut down. The phases come strictly one after
the other; the first one that stops ends the preparation, and of a phase that stops no success is told.
-/
namespace Stemcell.Construct

/-- The directory in the guest that everything goes to. -/
def provisionDirectory : String := "C:\\provision\\"

def automationName : String := "StemcellAutomation.zip"

def policyToolName : String := "LGPO.zip"

/-- An archive to be uploaded: what the user reads, where it is and where it goes. -/
structure Artifact where
  label : String
  source : String
  destination : String
  deriving DecidableEq, Repr

/-- The archives to be uploaded, in order. -/
def artifacts : List Artifact :=
  [⟨"LGPO", s!"./{policyToolName}", provisionDirectory ++ policyToolName⟩,
    ⟨"stemcell preparation artifacts", s!"./{automationName}", provisionDirectory ++ automationName⟩]

/-- The script in the guest that sets it up. -/
def setupScript : String := provisionDirectory ++ "Setup.ps1"

/-- The script that logs everybody out of the guest. -/
def logoffScript : String := "$(Get-WmiObject win32_operatingsystem).Win32Shutdown(0)"

/-- The seconds between two looks at a guest that is shutting down. -/
def shutdownInterval : Value := .int 60

/-- The calls that a preparation makes on those it works with. -/
inductive Step where
  | version
  | hypervisor (call : Hypervisor.Call)
  | remote (call : Remote.Call)
  | enable
  | validate
  | announce (event : Progress)
  | poll (interval : Value)
  deriving Repr

/-- Those that a preparation works with. -/
structure Crew (σ : Type) where
  version : Action σ Value
  hypervisor : Hypervisor.Call → Action σ Value
  remote : Remote.Call → Action σ Value
  /-- Opens the guest for remote management. -/
  enable : Action σ Unit
  /-- Checks the connection to the guest. -/
  validate : Action σ Unit
  /-- Tells the user about an event. -/
  announce : Progress → Action σ Unit
  /-- Asks in intervals until the answer is yes. -/
  poll : Value → Action σ Value → Action σ Unit

variable {σ : Type} [Log.Sink σ]

def createDirectory (crew : Crew σ) (guest : Guest) : Action σ Unit := do
  crew.announce (.started .directory)
  let _ ← crew.hypervisor (.makeDirectory guest (.text provisionDirectory))
  crew.announce (.succeeded .directory)

def uploadOne (crew : Crew σ) (guest : Guest) (a : Artifact) : Action σ Unit := do
  crew.announce (.uploading (.text a.label))
  Log.debug .construction s!"Uploading {a.source} -> {a.destination}"
  let _ ← crew.hypervisor (.upload guest (.text a.source) (.text a.destination))
  crew.announce .uploaded

/-- Uploads archives one after the other. -/
def uploadAll (crew : Crew σ) (guest : Guest) : List Artifact → Action σ Unit
  | [] => pure ()
  | a :: rest => do
    uploadOne crew guest a
    uploadAll crew guest rest

def setupCommand (version : Value) : String := s!"powershell.exe {setupScript} -Version {version.display}"

/-- Whether the guest is off; the user is told if it is not. -/
def isOff (crew : Crew σ) (guest : Guest) : Action σ Value := do
  let off ← crew.hypervisor (.isPoweredOff guest.inventoryPath)
  if off.isTruthy then pure off
  else do
    crew.announce .stillPreparing
    pure off

/-- Waits until the guest is off. -/
def awaitShutdown (crew : Crew σ) (guest : Guest) : Action σ Unit := do
  crew.poll shutdownInterval (isOff crew guest)
  crew.announce .shutDown

def prepare (crew : Crew σ) (guest : Guest) : Action σ Unit := do
  let version ← crew.version
  let path ← Action.ofFault guest.inventoryPath.written
  let versionText ← Action.ofFault version.written
  Log.debug .construction s!"Preparing {path} with stembuild {versionText}"
  createDirectory crew guest
  crew.announce (.started .upload)
  uploadAll crew guest artifacts
  crew.announce (.succeeded .upload)
  crew.announce (.started .enabling)
  crew.enable
  crew.announce (.succeeded .enabling)
  crew.announce (.started .connection)
  crew.validate
  crew.announce (.succeeded .connection)
  crew.announce (.started .unpacking)
  let _ ← crew.remote
    (.extract (.text (provisionDirectory ++ automationName)) (.text provisionDirectory))
  crew.announce (.succeeded .unpacking)
  crew.announce (.started .logout)
  (guest.runScript crew.hypervisor logoffScript).wrap .logout
  crew.announce (.succeeded .logout)
  crew.announce (.started .setup)
  let _ ← crew.remote (.execute (.text (setupCommand version)))
  crew.announce (.succeeded .setup)
  crew.announce .rebooting
  awaitShutdown crew guest

end Stemcell.Construct
