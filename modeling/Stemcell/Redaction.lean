import Stemcell.Environment
import Stemcell.Log.Record
/-!
Keeping secrets out of the log: every occurrence of a secret becomes a mask. Secrets are passwords that were
registered while the program runs and those in certain environment variables; the list of them is made when it
is first needed and again after each registration.
-/
namespace Stemcell.Redaction

def secretVariables : List String := ["STEMBUILD_VM_PASSWORD", "STEMBUILD_VCENTER_PASSWORD", "GOVC_PASSWORD"]

/-- Shorter values are not masked: they would hide too much else. -/
def minimumLength : Nat := 4

/-- What a text is made of: characters, or their numbers where half of a pair of surrogates can be among them. -/
class Letter (α : Type) where
  star : α

instance : Letter Char := ⟨'*'⟩

instance : Letter Nat := ⟨'*'.toNat⟩

variable {α : Type} [Letter α] [DecidableEq α]

/-- What stands in the place of a secret. -/
def mask {α : Type} [Letter α] : List α := [Letter.star, Letter.star, Letter.star]

theorem mask_of_characters : (mask : List Char) = ['*', '*', '*'] := rfl

/-- A text with a mask for each occurrence of `secret`, from the left, none overlapping the one before;
`skip` letters still belong to the last occurrence. -/
def maskFrom (secret : List α) (skip : Nat) : List α → List α
  | [] => []
  | c :: rest =>
    match skip with
    | skip + 1 => maskFrom secret skip rest
    | 0 =>
      if secret.isPrefixOf (c :: rest) then mask ++ maskFrom secret (secret.length - 1) rest
      else c :: maskFrom secret 0 rest

/-- A text with a mask for each occurrence of `secret`. -/
def maskSecret (secret text : List α) : List α := maskFrom secret 0 text

/-- A text with all secrets masked, one after the other. -/
def maskAll (secrets : List (List α)) (text : List α) : List α :=
  secrets.foldl (fun text secret => maskSecret secret text) text

/-- The secrets in the order in which they are masked, the longest first: a secret inside a longer one does
not break that one up. -/
def longestFirst {α : Type} (secrets : List (List α)) : List (List α) :=
  secrets.mergeSort fun a b => b.length ≤ a.length

def lengthOf : Value → Except Fault Nat
  | .text s => .ok s.length
  | .ragged codes => .ok codes.length
  | .bytes data => .ok data.length
  | .pair .. => .ok 2
  | v => .error (.noLength v.kind)

def longEnough : List Value → Except Fault (List Value)
  | [] => .ok []
  | v :: rest => do
    let n ← lengthOf v
    let kept ← longEnough rest
    return if minimumLength ≤ n then v :: kept else kept

/-- The numbers of the characters of values that are texts; bytes cannot be looked for in a text. -/
def numbers : List Value → Except Fault (List (List Nat))
  | [] => .ok []
  | v :: rest =>
    match v.codes? with
    | some codes => (numbers rest).map (codes :: ·)
    | none => .error .bytesAsText

/-- The characters of those values that are texts of characters. The others have half of a pair of surrogates in
them, so they are in no text of characters. -/
def texts : List Value → Except Fault (List (List Char))
  | [] => .ok []
  | .text s :: rest => (texts rest).map (s.toList :: ·)
  | .ragged _ :: rest => texts rest
  | _ :: _ => .error .bytesAsText

def fromEnvironment (env : Environment) : List Value :=
  (secretVariables.filterMap env.get?).filter fun v => (v.codes?.any (minimumLength ≤ ·.length))

/-- Values without repetitions, the first one of each. -/
def distinct (values : List Value) : List Value :=
  values.foldl (fun kept v => if kept.any (·.sameKey v) then kept else kept ++ [v]) []

/-- The order in which a set is gone through into which these values were put one after the other. It is the same
whenever the same values come in the same order, but not from one run of the program to the next. -/
structure SetOrder where
  arrange : List Value → List Value
  perm : ∀ values, (arrange values).Perm values

/-- The order in which the values came. -/
def SetOrder.insertion : SetOrder := ⟨id, fun _ => .refl _⟩

instance : Inhabited SetOrder := ⟨.insertion⟩

/-- What has been registered, and the secrets if they have been collected since. -/
structure Registry where
  registered : List Value := []
  collected : Option (List Value) := none
  order : SetOrder := .insertion
  deriving Inhabited

namespace Registry

/-- Registers a secret. Nothing and the empty text are no secrets. -/
def register (value : Value) (r : Registry) : Except Fault Registry :=
  if !value.isTruthy then .ok r
  else if !value.isKey then .error (.notKey value.kind)
  else .ok { r with registered := distinct (r.registered ++ [value]), collected := none }

def collect (env : Environment) (r : Registry) : Except Fault (List Value) :=
  (longEnough (r.order.arrange r.registered)).map fun values =>
    r.order.arrange (distinct (values ++ fromEnvironment env))

/-- The secrets in force, collected if need be. -/
def secrets (env : Environment) (r : Registry) : Except Fault (List Value) :=
  match r.collected with
  | some secrets => .ok secrets
  | none => r.collect env

/-- The registry once its secrets have been asked for. -/
def settled (env : Environment) (r : Registry) : Registry :=
  match r.secrets env with
  | .ok secrets => { r with collected := some secrets }
  | .error _ => r

def redact (secrets : List Value) (s : String) : Except Fault String :=
  (texts secrets).map fun secrets => String.ofList (maskAll (longestFirst secrets) s.toList)

/-- A value with all secrets masked if it is a text; one that is known by the numbers of its characters stays so. -/
def redactValue (secrets : List Value) : Value → Except Fault Value
  | .text s => (redact secrets s).map .text
  | .ragged codes => (numbers secrets).map fun secrets => .ragged (maskAll (longestFirst secrets) codes)
  | v => .ok v

/-- What is asked to be redacted must be a text, unless there is nothing to look for in it. -/
def redactAsked (secrets : List Value) (v : Value) : Except Fault Value :=
  if v.kind = .text || secrets.isEmpty then redactValue secrets v else .error (.notSearched v.kind)

/-- The arguments of a record with all secrets masked in those that are texts. -/
def redactArguments (secrets : List Value) : Log.Arguments → Except Fault Log.Arguments
  | .none => .ok .none
  | .places values => (values.mapM (redactValue secrets)).map .places
  | .names entries =>
    (entries.mapM fun e => (redactValue secrets e.2).map fun v => (e.1, v)).map .names

/-- A record with all secrets masked in its message and its arguments. Without secrets it stays as it is. -/
def redactRecord (secrets : List Value) (record : Log.Record) : Except Fault Log.Record :=
  if secrets.isEmpty then .ok record
  else do
    let message ← redact secrets (← record.message.written)
    let arguments ← redactArguments secrets record.arguments
    return { record with message := .text message, arguments }

end Registry

end Stemcell.Redaction
