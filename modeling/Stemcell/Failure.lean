import Stemcell.Config.Problem
import Stemcell.VCenter.Problem
import Stemcell.Value.Fault
/-!
Failures: why a step did not come to its end. A failure of this program carries its cause; one that a
collaborator hands in carries its words. Handlers tell failures apart by kind.
-/
namespace Stemcell

namespace Failure

inductive Kind where
  | any
  -- of this program
  | own
  | config
  | vcenter
  | powershell
  | guestProcess
  | enabling
  | connection
  | logout
  -- of remote management
  | management
  | managementTransport
  | managementTimeout
  | authentication
  | basicAuthentication
  | credentials
  -- of web requests
  | request
  | requestConnection
  | requestProxy
  | requestSsl
  | requestTimeout
  | requestConnectTimeout
  | requestReadTimeout
  | requestHttp
  | requestUrlMissing
  | requestRedirects
  | requestSchemaMissing
  | requestSchema
  | requestUrl
  | requestHeader
  | requestProxyUrl
  | requestChunk
  | requestContent
  | requestConsumed
  | requestRetry
  | requestBody
  | requestJson
  | requestJsonText
  -- of the system
  | system
  | timeout
  | systemConnection
  | brokenPipe
  | connectionAborted
  | connectionRefused
  | connectionReset
  | fileExists
  | fileNotFound
  | interrupted
  | isDirectory
  | notDirectory
  | permission
  | processLookup
  | childProcess
  | blocking
  | addressLookup
  -- of the use of values
  | type
  | attribute
  | value
  | unicode
  | decoding
  | encoding
  | lookup
  | key
  | index
  | arithmetic
  | overflow
  | zeroDivision
  | floating
  -- of other kinds
  | runtime
  | notImplemented
  | recursion
  | assertion
  | memory
  | buffer
  | endOfFile
  | importing
  | moduleMissing
  | name
  | reference
  | stopIteration
  | internal
  deriving DecidableEq, Repr

/-- The next wider kind; where a kind has two wider ones, the first of them. -/
def Kind.wider? : Kind → Option Kind
  | .any => none
  | .own => some .runtime
  | .config | .vcenter | .powershell | .guestProcess | .enabling | .connection | .logout => some .own
  | .management | .managementTransport | .managementTimeout => some .any
  | .authentication => some .management
  | .basicAuthentication | .credentials => some .authentication
  | .request => some .system
  | .requestProxy | .requestSsl | .requestConnectTimeout => some .requestConnection
  | .requestReadTimeout => some .requestTimeout
  | .requestProxyUrl => some .requestUrl
  | .requestJsonText => some .requestJson
  | .requestConnection | .requestTimeout | .requestHttp | .requestUrlMissing | .requestRedirects
  | .requestSchemaMissing | .requestSchema | .requestUrl | .requestHeader | .requestChunk | .requestContent
  | .requestConsumed | .requestRetry | .requestBody | .requestJson => some .request
  | .timeout | .systemConnection | .fileExists | .fileNotFound | .interrupted | .isDirectory | .notDirectory
  | .permission | .processLookup | .childProcess | .blocking | .addressLookup => some .system
  | .brokenPipe | .connectionAborted | .connectionRefused | .connectionReset => some .systemConnection
  | .unicode => some .value
  | .decoding | .encoding => some .unicode
  | .key | .index => some .lookup
  | .overflow | .zeroDivision | .floating => some .arithmetic
  | .notImplemented | .recursion => some .runtime
  | .moduleMissing => some .importing
  | _ => some .any

/-- The second wider kind of the few kinds that have one. -/
def Kind.alsoWider? : Kind → Option Kind
  | .requestConnectTimeout => some .requestTimeout
  | .requestSchemaMissing | .requestSchema | .requestUrl | .requestHeader | .requestProxyUrl => some .value
  | .requestConsumed => some .type
  | _ => none

/-- The kind and all wider ones along the first of them, at most `depth` steps. -/
def Kind.chain : Nat → Kind → List Kind
  | 0, k => [k]
  | depth + 1, k =>
    match k.wider? with
    | some wider => k :: chain depth wider
    | none => [k]

/-- The kind and all wider ones, the widest last. -/
def Kind.ancestors (k : Kind) : List Kind :=
  let chain := k.chain 6
  match k.alsoWider? with
  | none => chain
  | some .requestTimeout => [k, .requestConnection, .requestTimeout, .request, .system, .any]
  | some extra => chain.filter (· ≠ .any) ++ [extra, .any]

def Kind.isA (k wide : Kind) : Bool := k.ancestors.contains wide

def Kind.ofFault (f : Fault) : Kind :=
  match f.family with
  | .type => .type
  | .value => .value
  | .attribute => .attribute
  | .key => .key
  | .index => .index
  | .overflow => .overflow
  | .decoding => .decoding
  | .encoding => .encoding
  | .recursion => .recursion
  | .memory => .memory

inductive SystemCode where
  | noEntry
  | badDescriptor
  | denied
  | notDirectory
  | isDirectory
  | nameTooLong
  | tooManyLinks
  deriving DecidableEq, Repr

def SystemCode.number : SystemCode → Nat
  | .noEntry => 2
  | .badDescriptor => 9
  | .denied => 13
  | .notDirectory => 20
  | .isDirectory => 21
  | .nameTooLong => 36
  | .tooManyLinks => 40

def SystemCode.words : SystemCode → String
  | .noEntry => "No such file or directory"
  | .badDescriptor => "Bad file descriptor"
  | .denied => "Permission denied"
  | .notDirectory => "Not a directory"
  | .isDirectory => "Is a directory"
  | .nameTooLong => "File name too long"
  | .tooManyLinks => "Too many levels of symbolic links"

def SystemCode.kind : SystemCode → Kind
  | .noEntry => .fileNotFound
  | .denied => .permission
  | .notDirectory => .notDirectory
  | .isDirectory => .isDirectory
  | .badDescriptor | .nameTooLong | .tooManyLinks => .system

inductive Contact where
  | reach
  | login
  deriving DecidableEq, Repr

def Contact.complaint : Contact → String
  | .reach => "cannot complete connection to VM"
  | .login => "cannot log in to VM"

end Failure

inductive Failure where
  /-- A failure handed in from outside, with its words and, for a remote command, its exit code. -/
  | reported (kind : Failure.Kind) (text : String) (exitCode : Value)
  /-- A value was used as something it is not. -/
  | fault (fault : Fault)
  /-- The file system refused, and the path where that is known. -/
  | system (code : Failure.SystemCode) (path : Option Value)
  | config (problem : Config.Problem)
  | check (which : Config.Check) (cause : Failure)
  | vcenter (problem : VCenter.Problem)
  | unreachable (host : String) (port : Nat) (cause : Failure)
  | transport (cause : Failure)
  /-- A remote command ended with a status other than zero, and what it wrote about it. -/
  | remoteExit (status : Value) (stderr : String)
  | guestExit (code : Value)
  | enabling (cause : Failure)
  | connection (contact : Failure.Contact) (cause : Failure)
  | logout (cause : Failure)
  deriving Repr

namespace Failure

def kind : Failure → Kind
  | .reported kind _ _ => kind
  | .fault f => Kind.ofFault f
  | .system code _ => code.kind
  | .config _ | .check .. => .config
  | .vcenter _ => .vcenter
  | .unreachable .. | .transport _ | .remoteExit .. => .powershell
  | .guestExit _ => .guestProcess
  | .enabling _ => .enabling
  | .connection .. => .connection
  | .logout _ => .logout

def powershellComplaint : String := "powershell encountered an issue"

def message : Failure → String
  | .reported _ text _ => text
  | .fault f => f.message
  | .system code none => s!"[Errno {code.number}] {code.words}"
  | .system code (some path) => s!"[Errno {code.number}] {code.words}: {path.shown}"
  | .config problem => problem.message
  | .check which _ => which.message
  | .vcenter problem => problem.message
  | .unreachable host port cause =>
    s!"host {host} is unreachable on port {port}: {cause.message}"
  | .transport cause => s!"{powershellComplaint}: {cause.message}"
  | .remoteExit status stderr =>
    let ended := s!"{powershellComplaint}: exit code {status.display}"
    if stderr.isEmpty then ended else s!"{ended}: {stderr}"
  | .guestExit code => s!"WinRM process on guest VM exited with code {code.display}"
  | .enabling cause => s!"failed to enable WinRM: {cause.message}"
  | .connection contact cause => s!"{contact.complaint}: {cause.message}"
  | .logout cause => s!"failed to log out remote user: {cause.message}"

/-- The failure that a failure names as its cause. That a guest is unreachable is said in its words only. -/
def cause? : Failure → Option Failure
  | .check _ cause | .transport cause | .enabling cause | .connection _ cause | .logout cause => some cause
  | _ => none

def exitCode? : Failure → Option Value
  | .reported .powershell _ code => some code
  | .unreachable .. | .transport _ => some .null
  | .remoteExit status _ => some status
  | .guestExit code => some code
  | _ => none

def isOwn (f : Failure) : Bool := f.kind.isA .own

def isSystem (f : Failure) : Bool := f.kind.isA .system

/-- Whether a failure is one of the transport of remote commands, for which the caller gets an own failure. -/
def isTransport (f : Failure) : Bool :=
  f.kind.isA .credentials || f.kind.isA .managementTransport || f.kind.isA .management || f.kind.isA .request

end Failure

end Stemcell
