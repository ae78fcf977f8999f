import Stemcell.Log.Record
import Stemcell.Remote.Call
import Stemcell.Text.Utf8
/-!
The remote management of a guest: commands run in sessions, each command in one of its own, and archives are
unpacked by such a command. A command that does not get through, or ends with a status other than zero, fails.
-/
namespace Stemcell.Remote

def port : Nat := 5985

/-- The seconds that a guest has to take a connection. -/
def connectTimeout : Value := .int 10

/-- The command that shows whether a user is let in. -/
def loginCommand : String := "echo index"

/-- A guest as remote management sees it. -/
structure Account where
  host : Value
  username : Value
  password : Value
  deriving Repr

/-- What a session is opened with. -/
structure SessionOptions where
  endpoint : String
  username : Value
  password : Value
  transport : Value
  certificateCheck : String
  operationTimeout : Nat
  readTimeout : Nat
  deriving Repr

/-- The options of a session with a guest that listens without encryption. -/
def sessionOptions (account : Account) (port transport : Value) : SessionOptions where
  endpoint := s!"http://{account.host.display}:{port.display}/wsman"
  username := account.username
  password := account.password
  transport := transport
  certificateCheck := "ignore"
  operationTimeout := 60
  readTimeout := 70

/-- The options that a session gets if nothing else is said. -/
def SessionOptions.standard (account : Account) : SessionOptions :=
  sessionOptions account (.int port) (.text "ntlm")

/-- What a command came to in a session. -/
structure Response where
  status : Value
  stdout : List UInt8
  stderr : List UInt8
  deriving Repr

/-- The ways to a guest: opening a connection and closing it, and opening a session, which then takes a
command. -/
structure Link (σ : Type) where
  connect : Value → Nat → Value → Action σ Unit
  session : Account → Action σ (Value → Action σ Response)

/-- What was written, as text without blanks around it. -/
def written (bytes : List UInt8) : String :=
  String.ofList (Text.stripChars (Text.Utf8.decodeReplacing bytes))

variable {σ : Type}

/-- Checks that the guest takes a connection within the given time. -/
def reach (link : Link σ) (account : Account) (timeout : Value) : Action σ Unit :=
  (link.connect account.host port timeout).orElse fun f => do
    if !f.isSystem then Action.fail f
    let host ← Action.ofFault account.host.written
    Action.fail (.unreachable host port f)

def sessionFailure (f : Failure) : Failure := if f.isTransport then .transport f else f

/-- Opens a session and does a command in it. -/
def exchange (link : Link σ) (account : Account) (command : Value) : Action σ Response :=
  link.session account >>= fun run => run command

variable [Log.Sink σ]

/-- Logs what a command wrote; its status decides what it comes to. -/
def settle (response : Response) : Action σ Value := do
  let stdout := written response.stdout
  if !stdout.isEmpty then Log.debug .remote stdout
  if response.status.isZero then pure response.status
  else do
    let _ ← Action.ofFault response.status.written
    Action.fail (.remoteExit response.status (written response.stderr))

/-- Runs a command in a session of its own. -/
def execute (link : Link σ) (account : Account) (command : Value) : Action σ Value := do
  let host ← Action.ofFault account.host.written
  let shown ← Action.ofFault command.written
  Log.debug .remote s!"Executing on {host}: {shown}"
  let response ← (exchange link account command).wrap sessionFailure
  settle response

def extractCommand (source destination : Value) : String :=
  s!"powershell.exe \"Expand-Archive -LiteralPath '{source.display}' "
    ++ s!"-DestinationPath '{destination.display}' -Force\""

def perform (link : Link σ) (account : Account) : Call → Action σ Value
  | .reach => do
    reach link account connectTimeout
    pure .null
  | .login => do
    let _ ← execute link account (.text loginCommand)
    pure .null
  | .execute command => execute link account command
  | .extract source destination => do
    let _ ← execute link account (.text (extractCommand source destination))
    pure .null

end Stemcell.Remote
