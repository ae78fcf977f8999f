import Stemcell.Yaml.Timestamp
/-!
Tags: the types of the values in a document. A text without quotes and without a tag gets its tag from its form.
-/
namespace Stemcell.Yaml

/-- The types of values. -/
inductive Tag where
  | null
  | bool
  | int
  | float
  | text
  | binary
  | moment
  | sequence
  | mapping
  | set
  /-- Pairs in order, each with a key of its own. -/
  | orderedMapping
  | pairs
  /-- The key under which other mappings are merged into one. -/
  | merge
  /-- The key under which the plain value of a mapping stands. -/
  | value
  | other (name : String)
  deriving DecidableEq, Repr, Inhabited

namespace Tag

/-- What the names of the known tags start with. -/
def root : String := "tag:yaml.org,2002:"

/-- The known tags by the ends of their names. -/
def known : List (String × Tag) :=
  [("null", null), ("bool", bool), ("int", int), ("float", float), ("str", text), ("binary", binary),
    ("timestamp", moment), ("seq", sequence), ("map", mapping), ("set", set), ("omap", orderedMapping),
    ("pairs", pairs), ("merge", merge), ("value", value)]

def ofName (name : String) : Tag :=
  match known.find? fun e => root ++ e.1 = name with
  | some e => e.2
  | none => other name

def name : Tag → String
  | other name => name
  | tag => root ++ ((known.find? (·.2 = tag)).map Prod.fst).getD ""

def truths : List String := ["yes", "true", "on"]

/-- The texts that are truth values of the other kind. -/
def untruths : List String := ["no", "false", "off"]

/-- A word in the three spellings in which it counts: small, with a capital, and in capitals. -/
def spellings (word : String) : List String := [word, word.capitalize, word.toUpper]

/-- Whether a text is a truth value. -/
def isBool (s : List Char) : Bool :=
  (truths ++ untruths).any fun word => (spellings word).contains (String.ofList s)

/-- Whether a text stands for nothing. -/
def isNull (s : List Char) : Bool := s.isEmpty || s = ['~'] || (spellings "null").contains (String.ofList s)

/-- A text without the sign in front. -/
def unsigned : List Char → List Char
  | '-' :: rest => rest
  | '+' :: rest => rest
  | s => s

/-- Whether a text has at least one character and all of them satisfy `p`. -/
def isRun (p : Char → Bool) (s : List Char) : Bool := !s.isEmpty && s.all p

def isDigitOrGap (base : Nat) (c : Char) : Bool :=
  c = '_' || (c.isAlphanum && (Text.digitIn? base c).isSome)

/-- What follows one or more groups of a colon and a number below sixty. -/
def sixtieths : Nat → List Char → Option (List Char)
  | 0, _ => none
  | fuel + 1, s =>
    match s with
    | ':' :: rest =>
      let run := rest.takeWhile Char.isDigit
      let fits :=
        match run with
        | [_] => true
        | [c, _] => '0' ≤ c ∧ c ≤ '5'
        | _ => false
      if !fits then none
      else
        let behind := rest.drop run.length
        if behind.head? = some ':' then sixtieths fuel behind else some behind
    | _ => none

/-- Whether a text is a whole number: decimal, or with `0b`, `0` or `0x` in front of the digits of the bases 2, 8
and 16, or in base sixty with colons. Underscores may stand between digits. -/
def isInt (s : List Char) : Bool :=
  let body := unsigned s
  match body with
  | ['0'] => true
  | '0' :: 'b' :: rest => isRun (isDigitOrGap 2) rest
  | '0' :: 'x' :: rest => isRun (isDigitOrGap 16) rest
  | '0' :: rest => isRun (isDigitOrGap 8) rest
  | c :: rest =>
    c.isDigit
      && (let behind := rest.dropWhile (isDigitOrGap 10)
          behind.isEmpty || sixtieths s.length behind = some [])
  | [] => false

def isExponent : List Char → Bool
  | e :: sign :: digits => (e = 'e' || e = 'E') && (sign = '+' || sign = '-') && isRun Char.isDigit digits
  | _ => false

/-- Whether a text is what may follow the point of a number. -/
def isFraction (s : List Char) : Bool :=
  let behind := s.dropWhile (isDigitOrGap 10)
  behind.isEmpty || isExponent behind

/-- Whether a text is a number with a point, in base sixty with colons before the point, or one of the words for
what is no finite number. -/
def isFloat (s : List Char) : Bool :=
  let body := unsigned s
  match body with
  | '.' :: rest =>
    let word := String.ofList rest
    ["inf", "Inf", "INF"].contains word
      || (body.length = s.length
        && (["nan", "NaN", "NAN"].contains word || ((rest.head?.map Char.isDigit).getD false && isFraction rest)))
  | c :: rest =>
    c.isDigit
      && (let behind := rest.dropWhile (isDigitOrGap 10)
          match behind with
          | '.' :: fraction => isFraction fraction
          | _ =>
            match sixtieths s.length behind with
            | some ('.' :: fraction) => fraction.all (isDigitOrGap 10)
            | _ => false)
  | [] => false

/-- The tag of a text without quotes and without a tag. One line end behind the text does not count. -/
def ofPlain (text : String) : Tag :=
  let s := text.toList
  let s := if 1 < s.length && s.getLast? = some '\n' then s.dropLast else s
  if isBool s then bool
  else if isFloat s then float
  else if isInt s then int
  else if s = ['<', '<'] then merge
  else if isNull s then null
  else if Timestamp.isPlain s then moment
  else if s = ['='] then value
  else if s = ['!'] || s = ['&'] || s = ['*'] then other (root ++ "yaml")
  else Tag.text

example : ["1:30", "010", "0x_1F", "-1_0", "0o17", "1:60", "08"].map ofPlain
    = [int, int, int, int, Tag.text, Tag.text, Tag.text] := by decide +kernel

example : ["1.", ".5", "1e5", "1.5e+3", "190:20:30.15", "-.inf", ".NaN", "-.5"].map ofPlain
    = [float, float, Tag.text, float, float, float, float, Tag.text] := by decide +kernel

end Tag

end Stemcell.Yaml
