import Stemcell.Text.Base64
import Stemcell.Text.Quoted
import Stemcell.Text.Utf16
/-!
Encoded commands: a script travels to PowerShell as base64 of its UTF-16 bytes, so that its quotation marks,
pipes and substitutions are out of reach of every shell and argument splitter on the way.
-/
namespace Stemcell.Powershell

def encode (script : String) : String := String.ofList (Text.Base64.encode (Text.Utf16.encode script.toList))

/-- Why a text is no encoded command. -/
inductive DecodeError where
  /-- It has characters beyond the basic ones. -/
  | notBasic
  | base64 (error : Text.Base64.Error)
  | utf16 (error : Text.Utf16.Error)
  deriving DecidableEq, Repr

def decode (command : String) : Except DecodeError String :=
  let chars := command.toList
  if chars.any fun c => 0x80 ≤ c.toNat then .error .notBasic
  else
    match Text.Base64.decode chars with
    | .error e => .error (.base64 e)
    | .ok bytes =>
      match Text.Utf16.decode bytes with
      | .error e => .error (.utf16 e)
      | .ok script => .ok (String.ofList script)

/-- The words for a flaw of a sequence of bytes. -/
def flawText : Text.Utf16.Flaw → String
  | .truncated => "truncated data"
  | .strayLow => "illegal encoding"
  | .strayHigh => "illegal UTF-16 surrogate"
  | .unfinishedPair => "unexpected end of data"

def placeText (e : Text.Utf16.Error) : String :=
  match e.bytes with
  | [byte] =>
    let code := String.ofList (Text.hexDigits 2 byte.toNat)
    s!"byte 0x{code} in position {e.position}"
  | bytes => s!"bytes in position {e.position}-{e.position + bytes.length - 1}"

def DecodeError.message : DecodeError → String
  | .notBasic => "string argument should contain only ASCII characters"
  | .base64 e => e.message
  | .utf16 e => s!"'utf-16-le' codec can't decode {placeText e}: {flawText e.flaw}"

/-- Where PowerShell is on a Windows guest. -/
def path : String := "C:\\Windows\\System32\\WindowsPowerShell\\V1.0\\powershell.exe"

end Stemcell.Powershell
