import Stemcell.Action
/-!
Progress: what the user is told while a guest is prepared. The texts of a phase's start and end stand on one
line, such as `Extracting artifacts...succeeded.`
-/
namespace Stemcell

inductive Phase where
  /-- Making the directory that everything goes to. -/
  | directory
  | upload
  /-- Opening the guest for remote management. -/
  | enabling
  | connection
  | unpacking
  | logout
  | setup
  deriving DecidableEq, Repr

/-- The events that the user is told about. -/
inductive Progress where
  | started (phase : Phase)
  | succeeded (phase : Phase)
  | uploading (artifact : Value)
  | uploaded
  /-- The guest restarts and is out of reach. -/
  | rebooting
  /-- The guest has not shut down yet. -/
  | stillPreparing
  | shutDown
  deriving Repr

namespace Progress

/-- What the user is told about an event. -/
def text : Progress → String
  | .started .directory => "\nCreating provision dir on target VM..."
  | .started .upload =>
    "\nTransferring ~20 MB to the Windows VM. "
      ++ "Depending on your connection, the transfer may take 15-45 minutes\n"
  | .started .enabling => "\nAttempting to enable WinRM on the guest vm..."
  | .started .connection => "\nValidating connection to vm..."
  | .started .unpacking => "\nExtracting artifacts..."
  | .started .logout => "\nAttempting to logout any remote users..."
  | .started .setup => "\nExecuting setup script...\n"
  | .succeeded .upload => "\nAll files have been uploaded.\n"
  | .succeeded .enabling => "WinRm enabled on the guest VM\n"
  | .succeeded .logout => "Logged out remote users\n"
  | .succeeded .setup => "\nFinished executing setup script.\n"
  | .succeeded .directory | .succeeded .connection | .succeeded .unpacking | .uploaded => "succeeded.\n"
  | .uploading artifact => s!"\tUploading {artifact.display} to target VM..."
  | .rebooting =>
    "\nWinRM has been disconnected so the VM can reboot. Waiting for the VM to shut down...\n"
  | .stillPreparing => "\tStill preparing VM...\n"
  | .shutDown =>
    "\nVM has now been shutdown. Run 'stembuild package' to finish building the stemcell.\n"

end Progress

/-- A place for text that the user reads. -/
structure Stream (σ : Type) where
  write : String → Action σ Unit
  flush : Action σ Unit

/-- Tells the user about an event at once. -/
def Stream.announce {σ : Type} (out : Stream σ) (event : Progress) : Action σ Unit := do
  out.write event.text
  out.flush

end Stemcell
