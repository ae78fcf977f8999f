import Stemcell.Number.Decimal
import Stemcell.Value.Fault
/-!
Message templates: a percent sign starts a placeholder, which takes the next value or a value by name and says
how it is written. A template and its values must use each other up, unless the values have names.
-/
namespace Stemcell.Log

open Number

inductive Arguments where
  /-- No values: the template is a plain text. -/
  | none
  | places (values : List Value)
  | names (entries : List (Value × Value))
  deriving Repr, Inhabited

namespace Template

/-- How a placeholder is written. -/
structure Placeholder where
  leftAligned : Bool := false
  plusSign : Bool := false
  blankSign : Bool := false
  alternate : Bool := false
  zeroFilled : Bool := false
  width : Nat := 0
  precision : Option Nat := Option.none
  deriving Repr

/-- The values that are left: those by place, or the one that a name has picked; and whether values have
names. -/
structure Supply where
  rest : List Value
  names : Option (List (Value × Value))

def Supply.next (supply : Supply) : Except Fault (Value × Supply) :=
  match supply.rest with
  | [] => .error .tooFewValues
  | v :: rest => .ok (v, { supply with rest })

/-- A text at its place in a field: padded to the width, with the sign and the base mark in front of the
zeros that fill the field and behind the blanks that do. -/
def placed (p : Placeholder) (sign mark body : List Char) (mayZeroFill : Bool) : List Char :=
  let gap := p.width - (sign.length + mark.length + body.length)
  if p.leftAligned then sign ++ mark ++ body ++ List.replicate gap ' '
  else if p.zeroFilled && mayZeroFill then sign ++ mark ++ List.replicate gap '0' ++ body
  else List.replicate gap ' ' ++ sign ++ mark ++ body

def signOf (p : Placeholder) (negative : Bool) : List Char :=
  if negative then ['-'] else if p.plusSign then ['+'] else if p.blankSign then [' '] else []

/-- A whole number in a base, with at least as many digits as the precision says. -/
def whole (p : Placeholder) (c : Char) (n : Int) : List Char :=
  let base := if c = 'o' then 8 else if c = 'x' || c = 'X' then 16 else 10
  let digits := Nat.toDigits base n.natAbs
  let digits := if c = 'X' then digits.map Char.toUpper else digits
  let digits := List.replicate (p.precision.getD 0 - digits.length) '0' ++ digits
  let mark := if p.alternate && base ≠ 10 then ['0', c] else []
  placed p (signOf p (n < 0)) mark digits true

/-- Digits with the zeros at the end of the fraction taken away, and the point if nothing is behind it. -/
def withoutTrailingZeros (s : List Char) : List Char :=
  if s.contains '.' then
    let kept := (s.reverse.dropWhile (· = '0'))
    match kept with
    | '.' :: rest => rest.reverse
    | rest => rest.reverse
  else s

/-- A positive fraction with a fixed number of places. -/
def fixed (num den places : Nat) (keepPoint : Bool) : List Char :=
  let digits := positional ⟨roundHalfEven (num * Nat.pow 10 places) den, -places⟩ places
  if places = 0 && keepPoint then digits ++ ['.'] else digits

/-- The digits of a fraction with one digit before the point and `places` behind it, and its exponent. -/
def scaled (num den places : Nat) : List Char × Int :=
  if num = 0 then (List.replicate (places + 1) '0', 0)
  else
    let d := Decimal.rounded num den (places + 1)
    (digitsOf d.digits, d.exponent + places)

/-- A fraction with one digit before the point and an exponent. -/
def exponential (mark : Char) (num den places : Nat) (keepPoint : Bool) : List Char :=
  let (digits, exponent) := scaled num den places
  let fraction := digits.drop 1
  let point := if fraction.isEmpty && !keepPoint then [] else ['.']
  digits.take 1 ++ point ++ fraction ++ exponentText mark exponent

/-- A fraction with a number of significant digits, with an exponent only where it is small or large. -/
def general (mark : Char) (num den significant : Nat) (keepPoint : Bool) : List Char :=
  let significant := max significant 1
  let (digits, exponent) := scaled num den (significant - 1)
  if -4 ≤ exponent && exponent < significant then
    let text := fixed num den (significant - 1 - exponent).toNat keepPoint
    if keepPoint then text else withoutTrailingZeros text
  else
    let fraction := digits.drop 1
    let fraction := if keepPoint then fraction else (fraction.reverse.dropWhile (· = '0')).reverse
    let point := if fraction.isEmpty && !keepPoint then [] else ['.']
    digits.take 1 ++ point ++ fraction ++ exponentText mark exponent

def float (p : Placeholder) (c : Char) (x : Binary64) : List Char :=
  let upper := c.isUpper
  let mark := if upper then 'E' else 'e'
  let places := p.precision.getD 6
  let body :=
    match x with
    | .nan => if upper then "NAN".toList else "nan".toList
    | .infinite _ => if upper then "INF".toList else "inf".toList
    | .finite _ significand exponent =>
      let (num, den) := Binary64.ratio significand exponent
      if c.toLower = 'f' then fixed num den places p.alternate
      else if c.toLower = 'e' then exponential mark num den places p.alternate
      else general mark num den places p.alternate
  placed p (signOf p x.isNegative) [] body true

def toFloat (v : Value) : Except Fault Binary64 :=
  match v.number? with
  | some (.inr x) => .ok x
  | some (.inl n) =>
    match Binary64.ofInt n with
    | .infinite _ => .error .tooLargeForFloat
    | x => .ok x
  | none => .error (.notReal v.kind)

/-- The whole number for a decimal placeholder: a float is cut at the point. -/
def toDecimal (c : Char) (v : Value) : Except Fault Int :=
  match v.number? with
  | some _ => v.wholeNumber
  | none => .error (.placeholderNeeds c "a real number" v.kind)

/-- The whole number for a placeholder with another base. -/
def toWhole (c : Char) (v : Value) : Except Fault Int :=
  match v.number? with
  | some (.inl n) => .ok n
  | _ => .error (.placeholderNeeds c "an integer" v.kind)

/-- The character with a number; half of a pair of surrogates is shown as U+FFFD. -/
def characterOf (n : Nat) : Char := if Text.Surrogate.isHalf n then '\ufffd' else Char.ofNat n

def toCharacter (v : Value) : Except Fault Char :=
  match v.codes?, v.number? with
  | some [u], _ => .ok (characterOf u)
  | _, some (.inl n) =>
    if !(0 ≤ n && n < 0x110000) then .error .characterOutOfRange else .ok (characterOf n.toNat)
  | _, _ => .error .notCharacter

/-- A text in its field, cut to the precision. -/
def textIn (p : Placeholder) (s : List Char) : List Char :=
  placed p [] [] (match p.precision with | some n => s.take n | Option.none => s) false

/-- A text of a value in its field, if the value can be written. -/
def textOf (p : Placeholder) (v : Value) (s : String) : Except Fault (List Char) :=
  if v.isWritable then .ok (textIn p s.toList) else .error .tooLargeToWrite

def written (p : Placeholder) (c : Char) (place : Nat) (v : Value) : Except Fault (List Char) :=
  if c = 's' then textOf p v v.display
  else if c = 'r' then textOf p v v.shown
  else if c = 'a' then textOf p v (Text.asciiOnly v.shown)
  else if c = 'd' || c = 'i' || c = 'u' then
    (toDecimal c v).bind fun n => if isWritable n then .ok (whole p c n) else .error .tooLargeToWrite
  else if c = 'o' || c = 'x' || c = 'X' then (toWhole c v).map (whole p c)
  else if "eEfFgG".toList.contains c then (toFloat v).map (float p c)
  else if c = 'c' then (toCharacter v).map fun ch => placed p [] [] [ch] false
  else .error (.unknownPlaceholder c place)

/-- The name of a placeholder, up to the parenthesis that closes it, and what is left. -/
def readName (depth : Nat) (done : List Char) : List Char → Except Fault (List Char × List Char)
  | [] => .error .unclosedName
  | ')' :: rest => if depth = 0 then .ok (done.reverse, rest) else readName (depth - 1) (')' :: done) rest
  | '(' :: rest => readName (depth + 1) ('(' :: done) rest
  | c :: rest => readName depth (c :: done) rest

/-- Picks a value by name if a name comes next. -/
def pickNamed (supply : Supply) (s : List Char) : Except Fault (Supply × List Char) :=
  match s with
  | '(' :: rest =>
    match supply.names with
    | Option.none => .error .namesNeedMapping
    | some entries => do
      let (name, rest) ← readName 0 [] rest
      match Value.field? (String.ofList name) entries with
      | some v => return ({ supply with rest := [v] }, rest)
      | Option.none => throw (.missingKey (.text (String.ofList name)))
  | s => .ok (supply, s)

def readFlags (p : Placeholder) : List Char → Placeholder × List Char
  | '-' :: rest => readFlags { p with leftAligned := true } rest
  | '+' :: rest => readFlags { p with plusSign := true } rest
  | ' ' :: rest => readFlags { p with blankSign := true } rest
  | '#' :: rest => readFlags { p with alternate := true } rest
  | '0' :: rest => readFlags { p with zeroFilled := true } rest
  | rest => (p, rest)

/-- A number at the start of a text, if there is one, and what is left of the text. -/
def readDigits (limit : Nat) (s : List Char) : Except Fault (Option Int × List Char) :=
  let digits := s.takeWhile Char.isDigit
  let rest := s.dropWhile Char.isDigit
  if digits.isEmpty then .ok (Option.none, rest)
  else
    let n := digits.foldl (fun n c => n * 10 + (c.toNat - '0'.toNat)) 0
    if limit < n then .error .widthTooLarge else .ok (some n, rest)

/-- A number at the start of a text, or from the values where a star stands, and what is left of both. -/
def readCount (limit : Nat) (supply : Supply) (s : List Char) :
    Except Fault (Option Int × Supply × List Char) :=
  match s with
  | '*' :: rest => do
    let (v, supply) ← supply.next
    match v.number? with
    | some (.inl n) => if limit < n.natAbs then throw .tooLargeForFloat else return (some n, supply, rest)
    | _ => throw .widthNotWhole
  | s => do
    let (n, rest) ← readDigits limit s
    return (n, supply, rest)

def widthLimit : Nat := Nat.pow 2 63 - 1

/-- The greatest width for which there is room. -/
def memoryLimit : Nat := Nat.pow 2 36

def precisionLimit : Nat := Nat.pow 2 31 - 1

/-- Reads the width of a field; below zero it also says where the text stands in it. -/
def readWidth (p : Placeholder) (supply : Supply) (s : List Char) :
    Except Fault (Placeholder × Supply × List Char) := do
  let (width, supply, s) ← readCount widthLimit supply s
  match width with
  | some n => return ({ p with width := n.natAbs, leftAligned := p.leftAligned || n < 0 }, supply, s)
  | Option.none => return (p, supply, s)

/-- Reads the precision if there is one; a point alone says zero, and so does a number below zero. -/
def readPrecision (p : Placeholder) (supply : Supply) (s : List Char) :
    Except Fault (Placeholder × Supply × List Char) :=
  match s with
  | '.' :: rest => do
    let (precision, supply, rest) ← readCount precisionLimit supply rest
    return ({ p with precision := some (precision.getD 0).toNat }, supply, rest)
  | s => .ok (p, supply, s)

/-- What is left without the letter that says how large a number is. -/
def dropSize : List Char → List Char
  | [] => []
  | c :: rest => if c = 'h' || c = 'l' || c = 'L' then rest else c :: rest

/-- Reads the width, the precision and the size of a placeholder. -/
def readSizes (p : Placeholder) (supply : Supply) (s : List Char) :
    Except Fault (Placeholder × Supply × List Char) := do
  let (p, supply, s) ← readWidth p supply s
  let (p, supply, s) ← readPrecision p supply s
  return (p, supply, dropSize s)

def readPlaceholder (supply : Supply) (s : List Char) :
    Except Fault (Placeholder × Supply × List Char) := do
  let (supply, s) ← pickNamed supply s
  let (p, s) := readFlags {} s
  readSizes p supply s

/-- Reads and writes one placeholder behind its percent sign; `total` is the length of the template. -/
def fillOne (total : Nat) (supply : Supply) (s : List Char) :
    Except Fault (List Char × Supply × List Char) := do
  let (p, supply, s) ← readPlaceholder supply s
  match s with
  | [] => throw .unfinishedPlaceholder
  | c :: rest =>
    let (v, supply) ← supply.next
    if memoryLimit < p.width then throw .outOfMemory
    let text ← written p c (total - (rest.length + 1)) v
    return (text, supply, rest)

/-- Fills in a template; the fuel is at least the length of what is left. -/
def fillFrom (total : Nat) (supply : Supply) (done : List Char) :
    Nat → List Char → Except Fault (Supply × List Char)
  | _, [] => .ok (supply, done.reverse)
  | 0, _ => .ok (supply, done.reverse)
  | fuel + 1, '%' :: rest =>
    match rest with
    | '%' :: rest => fillFrom total supply ('%' :: done) fuel rest
    | rest =>
      match fillOne total supply rest with
      | .error f => .error f
      | .ok (text, supply, rest) => fillFrom total supply (text.reverse ++ done) fuel rest
  | fuel + 1, c :: rest => fillFrom total supply (c :: done) fuel rest

/-- The values that a template starts with: a mapping as a whole is one value. -/
def Supply.ofArguments : Arguments → Supply
  | .none => ⟨[], Option.none⟩
  | .places values => ⟨values, Option.none⟩
  | .names entries => ⟨[.mapping entries], some entries⟩

/-- The text of a template with its values filled in. Without values the template is the text. -/
def fill (template : String) (arguments : Arguments) : Except Fault String :=
  match arguments with
  | .none | .places [] | .names [] => .ok template
  | arguments =>
    let chars := template.toList
    match fillFrom chars.length (Supply.ofArguments arguments) [] chars.length chars with
    | .error f => .error f
    | .ok (supply, text) =>
      if supply.names.isNone && !supply.rest.isEmpty then .error .tooManyValues
      else .ok (String.ofList text)

end Template

end Stemcell.Log
