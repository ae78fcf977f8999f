import Stemcell.Value.Basic
import Stemcell.Value.Fault
/-!
Reading JSON texts as values. Besides the standard, the words `NaN`, `Infinity` and `-Infinity` are numbers,
a number with a point or an exponent is a float and any other one an integer, and of two equal keys the last
one counts.
-/
namespace Stemcell.Json

open Number Text.Surrogate

/-- Why a text is not read. -/
inductive Error where
  /-- It does not follow the grammar. -/
  | malformed
  /-- Something in it cannot be used. -/
  | fault (fault : Fault)
  deriving Repr

/-- Whether a character may stand between two tokens. -/
def isGap (c : Char) : Bool := c = ' ' || c = '\t' || c = '\n' || c = '\r'

/-- A text without the gap in front. -/
def skipGap (s : List Char) : List Char := s.dropWhile isGap

def hexValue? (c : Char) : Option Nat :=
  if '0' ≤ c ∧ c ≤ '9' then some (c.toNat - '0'.toNat)
  else if 'a' ≤ c ∧ c ≤ 'f' then some (c.toNat - 'a'.toNat + 10)
  else if 'A' ≤ c ∧ c ≤ 'F' then some (c.toNat - 'A'.toNat + 10)
  else none

/-- The number of four hexadecimal digits. -/
def hexQuad? (a b c d : Char) : Option Nat := do
  return (((← hexValue? a) * 16 + (← hexValue? b)) * 16 + (← hexValue? c)) * 16 + (← hexValue? d)

/-- The character behind a backslash that stands for one other character. -/
def escaped? : Char → Option Char
  | '"' => some '"'
  | '\\' => some '\\'
  | '/' => some '/'
  | 'b' => some '\x08'
  | 'f' => some '\x0c'
  | 'n' => some '\n'
  | 'r' => some '\r'
  | 't' => some '\t'
  | _ => none

/-- The low half of a pair, if the next escape is one; it takes six characters. -/
def lowHalf? : List Char → Option Nat
  | '\\' :: 'u' :: a :: b :: c :: d :: _ => (hexQuad? a b c d).filter isLow
  | _ => none

/-- Reads a text behind its opening quotation mark; the numbers of the characters read so far come with the last
one first. Two escapes that make a pair of surrogates stand for one character. -/
def readText (done : List Nat) : List Char → Except Error (List Nat × List Char)
  | '"' :: rest => .ok (done.reverse, rest)
  | '\\' :: 'u' :: a :: b :: c :: d :: rest =>
    match hexQuad? a b c d with
    | none => .error .malformed
    | some first =>
      match if isHigh first then lowHalf? rest else none with
      | some second => readText ((pair first second).toNat :: done) (rest.drop 6)
      | none => readText (first :: done) rest
  | '\\' :: c :: rest =>
    match escaped? c with
    | some e => readText (e.toNat :: done) rest
    | none => .error .malformed
  | c :: rest => if c.toNat < 0x20 then .error .malformed else readText (c.toNat :: done) rest
  | [] => .error .malformed
  termination_by s => s.length
  decreasing_by all_goals simp only [List.length_drop, List.length_cons]; omega

def natOf (digits : List Char) : Nat := digits.foldl (fun n c => n * 10 + (c.toNat - '0'.toNat)) 0

/-- The digits behind a point, if a point and at least one digit come next, and what is left. -/
def readFraction (s : List Char) : Option (List Char × List Char) :=
  match s with
  | '.' :: rest =>
    let digits := rest.takeWhile Char.isDigit
    if digits.isEmpty then none else some (digits, rest.dropWhile Char.isDigit)
  | _ => none

/-- The exponent that comes next, if one does, and what is left. -/
def readExponent (s : List Char) : Option (Int × List Char) :=
  match s with
  | mark :: rest =>
    if mark = 'e' || mark = 'E' then
      let (negative, rest) :=
        match rest with
        | '-' :: rest => (true, rest)
        | '+' :: rest => (false, rest)
        | rest => (false, rest)
      let digits := rest.takeWhile Char.isDigit
      if digits.isEmpty then none
      else
        let n : Int := natOf digits
        some (if negative then -n else n, rest.dropWhile Char.isDigit)
    else none
  | [] => none

/-- Reads a number whose sign has been read. -/
def readNumber (negative : Bool) (s : List Char) : Except Error (Value × List Char) :=
  let run := s.takeWhile Char.isDigit
  let whole := if run.head? = some '0' then run.take 1 else run
  if whole.isEmpty then .error .malformed
  else
    let rest := s.drop whole.length
    let fraction := readFraction rest
    let rest := (fraction.map Prod.snd).getD rest
    let exponent := readExponent rest
    let rest := (exponent.map Prod.snd).getD rest
    if fraction.isNone && exponent.isNone then
      if digitLimit < whole.length then .error (.fault (.tooManyDigits whole.length))
      else
        let n : Int := natOf whole
        .ok (.int (if negative then -n else n), rest)
    else
      let places := (fraction.map Prod.fst).getD []
      let scale := (exponent.map Prod.fst).getD 0 - places.length
      .ok (.float (Binary64.ofDecimal negative (natOf (whole ++ places)) scale), rest)

/-- What is left of a text behind a word. -/
def readWord (word : String) (s : List Char) : Except Error (List Char) :=
  if word.toList.isPrefixOf s then .ok (s.drop word.length) else .error .malformed

/-- How many lists and mappings may be open at once. -/
def depthLimit : Nat := 987

/-- The fault of a text in which too many lists and mappings are open. -/
def tooDeep (what : String) : Error :=
  .fault (.tooDeep s!" while decoding a JSON {what} from a unicode string")

mutual

/-- Reads a value at the start of a text, with `depth` lists and mappings open around it. The fuel bounds the
number of steps; one step reads a character. -/
def readValue : Nat → Nat → List Char → Except Error (Value × List Char)
  | 0, _, _ => .error .malformed
  | fuel + 1, depth, s =>
    match s with
    | '"' :: rest => (readText [] rest).map fun (codes, rest) => (.ofCodes codes, rest)
    | '{' :: rest =>
      if depthLimit ≤ depth then .error (tooDeep "object")
      else
        match skipGap rest with
        | '}' :: rest => .ok (.mapping [], rest)
        | rest => readEntries fuel (depth + 1) [] rest
    | '[' :: rest =>
      if depthLimit ≤ depth then .error (tooDeep "array")
      else
        match skipGap rest with
        | ']' :: rest => .ok (.list [], rest)
        | rest => readItems fuel (depth + 1) [] rest
    | 'n' :: _ => (readWord "null" s).map fun rest => (.null, rest)
    | 't' :: _ => (readWord "true" s).map fun rest => (.bool true, rest)
    | 'f' :: _ => (readWord "false" s).map fun rest => (.bool false, rest)
    | 'N' :: _ => (readWord "NaN" s).map fun rest => (.float .nan, rest)
    | 'I' :: _ => (readWord "Infinity" s).map fun rest => (.float (.infinite false), rest)
    | '-' :: 'I' :: _ => (readWord "-Infinity" s).map fun rest => (.float (.infinite true), rest)
    | '-' :: rest => readNumber true rest
    | s => readNumber false s

/-- Reads the items of a list behind those read so far, the last of them first. -/
def readItems : Nat → Nat → List Value → List Char → Except Error (Value × List Char)
  | 0, _, _, _ => .error .malformed
  | fuel + 1, depth, done, s =>
    match readValue fuel depth s with
    | .error e => .error e
    | .ok (item, rest) =>
      match skipGap rest with
      | ',' :: rest => readItems fuel depth (item :: done) (skipGap rest)
      | ']' :: rest => .ok (.list (item :: done).reverse, rest)
      | _ => .error .malformed

/-- Reads the entries of a mapping behind those read so far. -/
def readEntries : Nat → Nat → List (Value × Value) → List Char → Except Error (Value × List Char)
  | 0, _, _, _ => .error .malformed
  | fuel + 1, depth, done, s =>
    match s with
    | '"' :: rest =>
      match readText [] rest with
      | .error e => .error e
      | .ok (key, rest) =>
        match skipGap rest with
        | ':' :: rest =>
          match readValue fuel depth (skipGap rest) with
          | .error e => .error e
          | .ok (value, rest) =>
            let entries := Value.insertEntry (.ofCodes key) value done
            match skipGap rest with
            | ',' :: rest => readEntries fuel depth entries (skipGap rest)
            | '}' :: rest => .ok (.mapping entries, rest)
            | _ => .error .malformed
        | _ => .error .malformed
    | _ => .error .malformed

end

def read (s : String) : Except Error Value :=
  let chars := s.toList
  match readValue (2 * chars.length + 2) 0 (skipGap chars) with
  | .error e => .error e
  | .ok (value, rest) => if (skipGap rest).isEmpty then .ok value else .error .malformed

end Stemcell.Json
