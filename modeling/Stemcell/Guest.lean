import Stemcell.Log.Record
import Stemcell.Powershell
/-!
A guest and what its hypervisor can do with it: files, processes and power. Scripts run in the guest as
encoded commands of a process that is waited for.
-/
namespace Stemcell

/-- A guest: where it is in the inventory and who acts in it. -/
structure Guest where
  inventoryPath : Value
  username : Value
  password : Value
  deriving Repr

namespace Hypervisor

/-- What a hypervisor is asked to do. -/
inductive Call where
  | makeDirectory (guest : Guest) (path : Value)
  | upload (guest : Guest) (artifact destination : Value)
  | start (guest : Guest) (command : Value) (arguments : List Value)
  | waitForExit (guest : Guest) (pid : Value)
  | isPoweredOff (inventoryPath : Value)
  | checkUrl
  | checkCredentials
  | find (inventoryPath : Value)
  deriving Repr

end Hypervisor

namespace Guest

variable {σ : Type} [Log.Sink σ]

def scriptArguments (script : String) : List Value :=
  [.text "-EncodedCommand", .text (Powershell.encode script)]

/-- Starts a script in the guest and waits for its end, which must come with the exit code zero. The number of
the process is used for that one wait only. -/
def runScript (hypervisor : Hypervisor.Call → Action σ Value) (guest : Guest) (script : String) :
    Action σ Unit := do
  Log.debug .guest s!"Starting guest powershell: {script}"
  let pid ← hypervisor (.start guest (.text Powershell.path) (scriptArguments script))
  let code ← hypervisor (.waitForExit guest pid)
  let pidText ← Action.ofFault pid.written
  let codeText ← Action.ofFault code.written
  Log.debug .guest s!"Guest process {pidText} exited with code {codeText}"
  if code.isZero then pure () else Action.fail (.guestExit code)

end Guest

end Stemcell
