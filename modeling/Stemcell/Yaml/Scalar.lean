import Stemcell.Text.Base64
import Stemcell.Text.Search
import Stemcell.Yaml.Node
import Stemcell.Yaml.Problem
/-!
The values of texts with a tag. A text that does not fit its tag is a fault; only binary data that cannot be read
is a problem of the document.
-/
namespace Stemcell.Yaml.Scalar

open Number

/-- A text without its underscores. -/
def dense (s : String) : String := String.ofList (s.toList.filter (· ≠ '_'))

/-- The number that groups of digits in base sixty stand for, the last group first. -/
def ofSixtieths (groups : List Int) : Int := groups.foldr (fun group n => n * 60 + group) 0

/-- The whole number that a text stands for. -/
def int (text : String) : Except Fault Int :=
  match (dense text).toList with
  | [] => .error .outOfRange
  | s => do
    let (negative, body) := Text.signed s
    let sign (n : Int) : Int := if negative then -n else n
    match body with
    | [] => throw .outOfRange
    | ['0'] => return 0
    | '0' :: 'b' :: rest => return sign (← Text.wholeNumberIn 2 (String.ofList rest))
    | '0' :: 'x' :: rest => return sign (← Text.wholeNumberIn 16 (String.ofList rest))
    | '0' :: _ => return sign (← Text.wholeNumberIn 8 (String.ofList body))
    | _ =>
      let groups ← (Text.split ':' (String.ofList body)).mapM Text.wholeNumber
      return sign (ofSixtieths groups.reverse)

/-- The float that groups in base sixty stand for, the last group first: the groups are weighed and summed up one
after the other. -/
def floatOfSixtieths (groups : List Binary64) : Except Fault Binary64 :=
  go groups 1 (.zero false)
where
  /-- Adds groups to a sum, the first of them with a weight. -/
  go : List Binary64 → Nat → Binary64 → Except Fault Binary64
  | [], _, sum => .ok sum
  | group :: rest, weight, sum =>
    match Binary64.ofInt weight with
    | .finite n m e => go rest (weight * 60) (sum.add (group.mul (.finite n m e)))
    | _ => .error .tooLargeForFloat

def float (text : String) : Except Fault Binary64 :=
  match (dense text).toList.map Char.toLower with
  | [] => .error .outOfRange
  | s => do
    let (negative, body) := Text.signed s
    let sign (x : Binary64) : Binary64 := if negative then x.negate else x
    if body = ".inf".toList then return .infinite negative
    if body = ".nan".toList then return .nan
    match Text.split ':' (String.ofList body) with
    | [one] => return sign (← Text.decimalNumber one)
    | groups => return sign (← floatOfSixtieths (← groups.mapM Text.decimalNumber).reverse)

/-- The truth value that a text stands for. -/
def bool (text : String) : Except Fault Bool :=
  let word := text.toLower
  if Tag.truths.contains word then .ok true
  else if Tag.untruths.contains word then .ok false
  else .error (.missingKey (.text word))

def binary (text : String) : Except Obstacle (List UInt8) :=
  if text.toList.any (0x80 ≤ ·.toNat) then .error (.problem .notBase64)
  else
    match Text.Base64.decodeLoosely text.toList with
    | some data => .ok data
    | none => .error (.problem .notBase64)

/-- The day or time that a text stands for. One line end behind it does not count. -/
def moment (text : String) : Except Fault Value :=
  let s := text.toList
  match Timestamp.read? (if s.getLast? = some '\n' then s.dropLast else s) with
  | none => .error (.noOperation .null "groupdict")
  | some written =>
    match written.value? with
    | some v => .ok v
    | none => .error .noSuchMoment

/-- Whether a text stands for the one value that is no number. -/
def isNotANumber (text : String) : Bool :=
  (Text.signed ((dense text).toList.map Char.toLower)).2 = ".nan".toList

/-- The value of a text with a tag, given the numbers of its characters. Only a value that is itself a text can hold
halves of pairs of surrogates. -/
def value (tag : Tag) (codes : List Nat) : Except Obstacle Value :=
  let text := Node.textOf codes
  match tag with
  | .null => .ok .null
  | .bool => ((bool text).map .bool).mapError .fault
  | .int => ((int text).map .int).mapError .fault
  | .float => ((float text).map .float).mapError .fault
  | .text => .ok (.ofCodes codes)
  | .binary => (binary text).map .bytes
  | .moment => (moment text).mapError .fault
  | .sequence | .mapping | .set | .orderedMapping | .pairs => .error (.problem (.wrongShape tag.name))
  | .merge | .value | .other _ => .error (.problem (.unknownTag tag.name))

end Stemcell.Yaml.Scalar
