/-!
What can go wrong between this program and a vCenter.
-/
namespace Stemcell.VCenter

/-- The operations on a vCenter, with the texts of the arguments that their complaints name. -/
inductive Operation where
  | makeDirectory (path : String)
  | upload (artifact : String)
  | start (command : String)
  | waitForExit (pid : String)
  | powerState
  | checkUrl (url : String)
  | checkCredentials
  | find (path : String)
  deriving DecidableEq, Repr

def Operation.complaint : Operation → String
  | .makeDirectory path => s!"vcenter_client - directory `{path}` could not be created"
  | .upload artifact => s!"vcenter_client - {artifact} could not be uploaded"
  | .start command => s!"vcenter_client - failed to run '{command}'"
  | .waitForExit pid => s!"vcenter_client - failed to get exit code for process {pid}"
  | .powerState => "vcenter_client - failed to get vm info"
  | .checkUrl url => s!"vcenter_client - invalid url: {url}"
  | .checkCredentials => "vcenter_client - invalid credentials"
  | .find path => s!"vcenter_client - unable to find VM: {path}"

inductive Problem where
  /-- The program ended with a status other than zero; what it said about it, without blanks around. -/
  | failed (operation : Operation) (detail : String)
  | noPid (command : String)
  | unreadableProcesses (pid : String)
  | noExitCode (pid : String)
  | unreadableState
  | notFound (path : String)
  deriving DecidableEq, Repr

def Problem.message : Problem → String
  | .failed operation detail =>
    if detail.isEmpty then operation.complaint else s!"{operation.complaint}: {detail}"
  | .noPid command => s!"vcenter_client - no pid returned when starting '{command}'"
  | .unreadableProcesses pid => s!"vcenter_client - failed to parse process info for pid {pid}"
  | .noExitCode pid => (Operation.waitForExit pid).complaint
  | .unreadableState => "vcenter_client - failed to parse vm info"
  | .notFound path => (Operation.find path).complaint

end Stemcell.VCenter
