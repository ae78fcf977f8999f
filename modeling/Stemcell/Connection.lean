import Stemcell.Log.Record
import Stemcell.Remote.Call
/-!
Checking the connection to a guest: first that it can be reached, then that it lets the user in.
-/
namespace Stemcell.Connection

variable {σ : Type} [Log.Sink σ]

/-- Checks the connection; the failure of a check is the cause of the failure that is reported. -/
def validate (remote : Remote.Call → Action σ Value) : Action σ Unit := do
  let _ ← (remote .reach).wrap (.connection .reach)
  Log.debug .connection "WinRM port is reachable"
  let _ ← (remote .login).wrap (.connection .login)
  Log.debug .connection "WinRM login succeeded"

end Stemcell.Connection
