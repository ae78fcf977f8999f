import Stemcell.Log.Template
import Stemcell.Rehearsal.Machine.Expression
import Stemcell.Rehearsal.Machine.Octets
/-!
Formats: a text with escapes and with directives that take one value each. The shell has a dialect of its own; a
format is filled again as long as values are left.
-/
namespace Stemcell.Rehearsal.Machine.Format

open Stemcell.Log

inductive Dialect where
  | shell
  | program
  /-- The program that writes a line of words. -/
  | lines
  deriving DecidableEq, Repr

/-- What is wrong with a format or a value. -/
inductive Complaint where
  | missingFormat
  | unfinishedDirective
  | unknownDirective (text : String)
  | notNumber (value : String)
  | notAllNumber (value : String)
  | outOfRange (value : String)
  | missingDigits
  /-- An escape for a character that must not be written so. -/
  | unfitCharacter (text : String)
  | superfluous (value : String)
  deriving DecidableEq, Repr

def Complaint.message (dialect : Dialect) (complaint : Complaint) : String :=
  match dialect, complaint with
  | .shell, .missingFormat => "usage: printf format [arg ...]"
  | .shell, .unfinishedDirective => "missing format character"
  | .shell, .unknownDirective text => s!"{text}: invalid directive"
  | .shell, .notNumber value => s!"{value}: expected numeric value"
  | .shell, .notAllNumber value => s!"{value}: not completely converted"
  | .shell, .outOfRange value => s!"{value}: Numerical result out of range"
  | _, .missingFormat => "missing operand\nTry 'printf --help' for more information."
  | _, .unfinishedDirective => "%: invalid conversion specification"
  | _, .unknownDirective text => s!"{text}: invalid conversion specification"
  | _, .notNumber value => s!"{quotation value}: expected a numeric value"
  | _, .notAllNumber value => s!"{quotation value}: value not completely converted"
  | _, .outOfRange value => s!"{quotation value}: Numerical result out of range"
  | _, .missingDigits => "missing hexadecimal number in escape"
  | _, .unfitCharacter text => s!"invalid universal character name {text}"
  | _, .superfluous value => s!"warning: ignoring excess arguments, starting with {quotation value}"

def Complaint.isFatal : Complaint → Bool
  | .missingFormat | .unfinishedDirective | .unknownDirective _ | .missingDigits | .unfitCharacter _ => true
  | _ => false

/-! ### Escapes -/

/-- What a letter behind a backslash stands for. -/
def control? : Char → Option Char
  | 'a' => some '\x07'
  | 'b' => some '\x08'
  | 'f' => some '\x0c'
  | 'n' => some '\n'
  | 'r' => some '\r'
  | 't' => some '\t'
  | 'v' => some '\x0b'
  | '\\' => some '\\'
  | _ => none

def isOctal (c : Char) : Bool := '0' ≤ c && c ≤ '7'

def isHex (c : Char) : Bool := c.isDigit || ('a' ≤ c.toLower && c.toLower ≤ 'f')

def byte (n : Nat) : Char := Char.ofNat (n % 256)

/-- At most `most` digits of a base at the front of a text as a byte, and what is left. -/
def code (base most : Nat) (s : List Char) : Char × List Char :=
  let digits := (s.take most).takeWhile (if base = 8 then isOctal else isHex)
  (byte (Expression.ofDigits base digits), s.drop digits.length)

inductive Escape where
  | chars (s : List Char)
  /-- Nothing more is to be written. -/
  | finish
  | flawed (complaint : Complaint)
  deriving DecidableEq, Repr

/-- The escape for a character by its number in base 16, of which `size` digits are needed: the character itself if it
is a basic one, else the escape. -/
def numbered (letter : Char) (size : Nat) (s : List Char) : Escape × List Char :=
  let digits := s.take size
  let n := Expression.ofDigits 16 digits
  let shown (size : Nat) : List Char :=
    let digits := (Nat.toDigits 16 n).map Char.toUpper
    List.replicate (size - digits.length) '0' ++ digits
  if digits.length < size || !digits.all isHex then (.flawed .missingDigits, s)
  else if (n ≤ 0x9f && n ≠ 0x24 && n ≠ 0x40 && n ≠ 0x60) || (0xd800 ≤ n && n ≤ 0xdfff) then
    (.flawed (.unfitCharacter (String.ofList ('\\' :: letter :: digits.map Char.toLower))), s)
  else if n < 0x80 then (.chars [Char.ofNat n], s.drop size)
  else if n < 0x10000 then (.chars ('\\' :: 'u' :: shown 4), s.drop size)
  else (.chars ('\\' :: 'U' :: shown 8), s.drop size)

/-- The escape behind a backslash, and what is left. In a value, the digits of base 8 may stand behind a zero. -/
def escape (dialect : Dialect) (inValue : Bool) (s : List Char) : Escape × List Char :=
  match s with
  | [] => (.chars ['\\'], [])
  | c :: rest =>
    match control? c with
    | some e => (.chars [e], rest)
    | none =>
      if isOctal c then
        let digits :=
          match dialect, rest with
          | .shell, d :: _ => if inValue && c = '0' && isOctal d then rest else s
          | .shell, [] => s
          | _, _ => if inValue && c = '0' then rest else s
        let (e, rest) := code 8 3 digits
        (.chars [e], rest)
      else if c = 'c' && (inValue || dialect ≠ .shell) then (.finish, rest)
      else if c = 'e' then (.chars ['\x1b'], rest)
      else if dialect = .program && c = '"' then (.chars ['"'], rest)
      else if dialect ≠ .shell && c = 'x' then
        if (rest.head?.map isHex).getD false then
          let (e, rest) := code 16 2 rest
          (.chars [e], rest)
        else if dialect = .lines then (.chars ['\\', 'x'], rest)
        else (.flawed .missingDigits, rest)
      else if dialect = .program && c = 'u' then numbered c 4 rest
      else if dialect = .program && c = 'U' then numbered c 8 rest
      else if dialect = .shell then (.chars ['\\'], s)
      else (.chars ['\\', c], rest)

/-- How the writing of a text with escapes ended. -/
inductive Close where
  | complete
  /-- An escape ended it. -/
  | finished
  | flawed (complaint : Complaint)
  deriving DecidableEq, Repr

/-- A text with its escapes carried out, and how that ended. -/
def unescape (dialect : Dialect) (done : List Char) : Nat → List Char → List Char × Close
  | 0, _ => (done.reverse, .complete)
  | fuel + 1, s =>
    match s with
    | [] => (done.reverse, .complete)
    | '\\' :: rest =>
      match escape dialect true rest with
      | (.chars e, rest) => unescape dialect (e.reverse ++ done) fuel rest
      | (.finish, _) => (done.reverse, .finished)
      | (.flawed complaint, _) => (done.reverse, .flawed complaint)
    | c :: rest => unescape dialect (c :: done) fuel rest

/-! ### Numbers -/

/-- A number with a fraction, exactly. -/
inductive Real where
  | finite (isNegative : Bool) (num den : Nat)
  | infinite (isNegative : Bool)
  | nan
  deriving Repr

def isBlank (c : Char) : Bool := c = ' ' || ('\t' ≤ c && c ≤ '\r')

/-- A sign in front of a number, and what is left. -/
def signAt : List Char → Bool × List Char
  | '-' :: rest => (true, rest)
  | '+' :: rest => (false, rest)
  | rest => (false, rest)

/-- The exponent at the front of a text, and what is left; zero where there is none. -/
def exponentAt (s : List Char) : Int × List Char :=
  match s with
  | e :: rest =>
    if e.toLower = 'e' then
      let (isNegative, behind) := signAt rest
      let digits := behind.takeWhile Char.isDigit
      if digits.isEmpty then (0, s)
      else
        let n : Int := Expression.ofDigits 10 digits
        (if isNegative then -n else n, behind.drop digits.length)
    else (0, s)
  | [] => (0, s)

/-- The greatest exponent that matters. -/
def exponentLimit : Nat := 5000

/-- The number at the front of a text, and what is left. -/
def realAt (s : List Char) : Option (Real × List Char) :=
  let (isNegative, s) := signAt (s.dropWhile isBlank)
  let starts (word : String) : Bool := word.toList.isPrefixOf (s.map Char.toLower)
  if starts "infinity" then some (.infinite isNegative, s.drop 8)
  else if starts "inf" then some (.infinite isNegative, s.drop 3)
  else if starts "nan" then some (.nan, s.drop 3)
  else if starts "0x" && ((s.drop 2).head?.map isHex).getD false then
    let (n, rest) := Expression.numberAt s
    some (.finite isNegative n 1, rest)
  else
    let whole := s.takeWhile Char.isDigit
    let behind := s.drop whole.length
    let (fraction, behind) :=
      match behind with
      | '.' :: rest =>
        let digits := rest.takeWhile Char.isDigit
        if whole.isEmpty && digits.isEmpty then ([], behind) else (digits, rest.drop digits.length)
      | _ => ([], behind)
    if whole.isEmpty && fraction.isEmpty then none
    else
      let (exponent, rest) := exponentAt behind
      let n := Expression.ofDigits 10 (whole ++ fraction)
      let shift := max (-(exponentLimit : Int)) (min exponentLimit exponent) - fraction.length
      some (.finite isNegative (n * Nat.pow 10 shift.toNat) (Nat.pow 10 (-shift).toNat), rest)

/-- A number with a fraction as each of the dialects keeps it: the shell in 64 bits, the program with 64 bits of
significance. -/
def Real.rounded (dialect : Dialect) : Real → Real
  | .finite isNegative num den =>
    if dialect = .shell then
      match Number.Binary64.ofRatio isNegative num den with
      | .finite isNegative significand exponent =>
        let (num, den) := Number.Binary64.ratio significand exponent
        .finite isNegative num den
      | .infinite isNegative => .infinite isNegative
      | .nan => .nan
    else
      let shift : Int := (num.log2 : Int) - den.log2 - 63
      let (n, d) := Number.scaleQuotient num den 2 (-shift)
      let shift := if n / d < Nat.pow 2 63 then shift - 1 else shift
      let (n, d) := Number.scaleQuotient num den 2 (-shift)
      let (n, d) := Number.scaleQuotient (Number.roundHalfEven n d) 1 2 shift
      .finite isNegative n d
  | x => x

/-- The whole number at the front of a text, and what is left. -/
def wholeAt (s : List Char) : Option (Int × List Char) :=
  let (isNegative, s) := signAt (s.dropWhile isBlank)
  if (s.head?.map Char.isDigit).getD false then
    let (n, rest) := Expression.numberAt s
    some (if isNegative then -(n : Int) else n, rest)
  else none

/-- The number of a character behind a quote, by which values stand for characters. -/
def quotedCode? (value : String) : Option Int :=
  match value.toList with
  | '\'' :: c :: _ | '"' :: c :: _ => some c.toNat
  | ['\''] | ['"'] => some 0
  | _ => none

/-- The complaint about a value of which a number was read and `rest` is left. -/
def leftOver (value : String) (rest : Option (List Char)) : List Complaint :=
  match rest with
  | none => if value.isEmpty then [] else [.notNumber value]
  | some [] => []
  | some _ => [.notAllNumber value]

/-- The whole number that a value stands for, with a sign or within 64 bits without one. -/
def wholeOf (isSigned : Bool) (value : String) : Int × List Complaint :=
  match quotedCode? value with
  | some n => (n, [])
  | none =>
    match wholeAt value.toList with
    | none => (0, leftOver value none)
    | some (n, rest) =>
      let complaints := leftOver value (some rest)
      let size : Int := Nat.pow 2 64
      let (least, greatest) := if isSigned then (Expression.least, Expression.greatest) else (1 - size, size - 1)
      if n < least || greatest < n then
        (if n < 0 && isSigned then least else greatest,
          if complaints.isEmpty then [.outOfRange value] else complaints)
      else (if isSigned then n else n % size, complaints)

/-- The number with a fraction that a value stands for. -/
def realOf (dialect : Dialect) (value : String) : Real × List Complaint :=
  match quotedCode? value with
  | some n => (.finite false n.toNat 1, [])
  | none =>
    match realAt value.toList with
    | none => (.finite false 0 1, leftOver value none)
    | some (x, rest) => (x.rounded dialect, leftOver value (some rest))

/-! ### Directives -/

/-- A whole number as a directive writes it. -/
def whole (p : Template.Placeholder) (c : Char) (n : Int) : List Char :=
  let base := if c = 'o' then 8 else if c = 'x' || c = 'X' then 16 else 10
  let digits := if n = 0 && p.precision = some 0 then [] else Nat.toDigits base n.natAbs
  let digits := if c = 'X' then digits.map Char.toUpper else digits
  let digits := List.replicate (p.precision.getD 0 - digits.length) '0' ++ digits
  let digits := if c = 'o' && p.alternate && digits.head? ≠ some '0' then '0' :: digits else digits
  let mark := if p.alternate && base = 16 && n ≠ 0 then ['0', c] else []
  let sign := if c = 'd' || c = 'i' then Template.signOf p (n < 0) else []
  Template.placed p sign mark digits p.precision.isNone

/-- A number with a fraction as a directive writes it. -/
def real (p : Template.Placeholder) (c : Char) (x : Real) : List Char :=
  let word (s : String) : List Char := if c.isUpper then s.toUpper.toList else s.toList
  let mark := if c.isUpper then 'E' else 'e'
  let places := p.precision.getD 6
  match x with
  | .nan => Template.placed p (Template.signOf p false) [] (word "nan") false
  | .infinite isNegative => Template.placed p (Template.signOf p isNegative) [] (word "inf") false
  | .finite isNegative num den =>
    let body :=
      if c.toLower = 'f' then Template.fixed num den places p.alternate
      else if c.toLower = 'e' then Template.exponential mark num den places p.alternate
      else Template.general mark num den places p.alternate
    Template.placed p (Template.signOf p isNegative) [] body true

/-- How far a format is filled. The text is reversed. -/
structure Filling where
  text : List Char := []
  values : List String
  taken : Nat := 0
  complaints : List Complaint := []
  isFinished : Bool := false
  isEnded : Bool := false

/-- Takes the next value; the empty text when there is none. -/
def Filling.next (f : Filling) : String × Filling :=
  match f.values with
  | [] => ("", f)
  | value :: rest => (value, { f with values := rest, taken := f.taken + 1 })

def Filling.complain (f : Filling) (more : List Complaint) : Filling := { f with complaints := f.complaints ++ more }

def Filling.write (f : Filling) (s : List Char) : Filling := { f with text := s.reverse ++ f.text }

def Filling.fail (f : Filling) (complaint : Complaint) : Filling :=
  { f.complain [complaint] with isFinished := true }

/-- The whole number for a directive; one that no value is left for is zero. -/
def Filling.nextWhole (isSigned : Bool) (f : Filling) : Int × Filling :=
  if f.values.isEmpty then (0, f.next.2)
  else
    let (n, complaints) := wholeOf isSigned f.next.1
    (n, f.next.2.complain complaints)

/-- A count at the front of a text, or from the values where a star stands, and what is left. -/
def countAt (f : Filling) (s : List Char) : Option Int × Filling × List Char :=
  match s with
  | '*' :: rest =>
    let (n, f) := f.nextWhole true
    (some n, f, rest)
  | _ =>
    let digits := s.takeWhile Char.isDigit
    (if digits.isEmpty then none else some (Expression.ofDigits 10 digits : Nat), f, s.drop digits.length)

/-- The widest field that is written. -/
def widthLimit : Nat := Nat.pow 2 20

/-- Whether the program lets a directive be written so: `isBare` says that nothing stands before its letter. -/
def admits (p : Template.Placeholder) (isBare : Bool) (c : Char) : Bool :=
  if c = 'b' || c = 'q' then isBare
  else if c = 'c' then !p.alternate && !p.zeroFilled && p.precision.isNone
  else if c = 's' then !p.alternate && !p.zeroFilled
  else if c = 'd' || c = 'i' || c = 'u' then !p.alternate
  else true

/-- Writes one directive; `start` is the text behind its percent sign. -/
def directive (dialect : Dialect) (f : Filling) (start : List Char) : Filling × List Char :=
  let (p, s) := Template.readFlags {} start
  let (width, f, s) := countAt f s
  let p :=
    match width with
    | some n => { p with width := min n.natAbs widthLimit, leftAligned := p.leftAligned || n < 0 }
    | none => p
  let (p, f, s) :=
    match s with
    | '.' :: rest =>
      let (n, f, rest) := countAt f rest
      let n := n.getD 0
      (if n < 0 then p else { p with precision := some (min n.toNat widthLimit) }, f, rest)
    | _ => (p, f, s)
  let text (c : Char) (rest : List Char) : String :=
    String.ofList ('%' :: start.take (start.length - rest.length - 1) ++ [c])
  let cut (s : List Char) : List Char := match p.precision with | some n => s.take n | none => s
  let s := if dialect = .program then s.dropWhile "lLhjtz".toList.contains else s
  match s with
  | [] =>
    (f.fail (if dialect = .shell then .unfinishedDirective else .unknownDirective (String.ofList ('%' :: start))), [])
  | c :: rest =>
    if dialect = .program && !admits p (start.length = rest.length + 1) c then
      (f.fail (.unknownDirective (text c rest)), rest)
    else if c = 's' then
      let (value, f) := f.next
      (f.write (Template.placed p [] [] (cut value.toList) false), rest)
    else if c = 'b' then
      let (value, f) := f.next
      let (body, close) := unescape dialect [] (value.length + 1) value.toList
      let f := f.write (Template.placed p [] [] (cut body) false)
      match close with
      | .complete => (f, rest)
      | .finished => ({ f with isFinished := true, isEnded := true }, rest)
      | .flawed complaint => (f.fail complaint, rest)
    else if c = 'q' && dialect = .program then
      let (value, f) := f.next
      (f.write (wordFor false value).toList, rest)
    else if c = 'c' then
      let (value, f) := f.next
      (f.write (Template.placed p [] [] [value.toList.headD '\x00'] false), rest)
    else if c = 'd' || c = 'i' then
      let (n, f) := f.nextWhole true
      (f.write (whole p c n), rest)
    else if "ouxX".toList.contains c then
      let (n, f) := f.nextWhole false
      (f.write (whole p c n), rest)
    else if "eEfFgG".toList.contains c then
      if f.values.isEmpty then (f.next.2.write (real p c (.finite false 0 1)), rest)
      else
        let (x, complaints) := realOf dialect f.next.1
        ((f.next.2.complain complaints).write (real p c x), rest)
    else (f.fail (.unknownDirective (text c rest)), rest)

def fillOnce (dialect : Dialect) (f : Filling) : Nat → List Char → Filling
  | 0, _ => f
  | fuel + 1, s =>
    if f.isFinished then f
    else
      match s with
      | [] => f
      | '\\' :: rest =>
        match escape dialect false rest with
        | (.chars e, rest) => fillOnce dialect (f.write e) fuel rest
        | (.finish, _) => { f with isFinished := true, isEnded := true }
        | (.flawed complaint, _) => f.fail complaint
      | '%' :: '%' :: rest => fillOnce dialect (f.write ['%']) fuel rest
      | '%' :: rest =>
        let (f, rest) := directive dialect f rest
        fillOnce dialect f fuel rest
      | c :: rest => fillOnce dialect (f.write [c]) fuel rest

def fill (dialect : Dialect) (format : List Char) (f : Filling) : Nat → Filling
  | 0 => f
  | fuel + 1 =>
    let count := f.taken
    let f := fillOnce dialect f (format.length + 1) format
    if f.isFinished || f.values.isEmpty then f
    else if f.taken = count then
      if dialect = .program then f.complain [.superfluous (f.values.headD "")] else f
    else fill dialect format f fuel

/-- What a format with values comes to: a text, the complaints, and the status. For the program an escape that ends
the writing is a success. -/
def printed (dialect : Dialect) (arguments : List String) : String × List Complaint × Int :=
  let arguments := if arguments.head? = some "--" then arguments.drop 1 else arguments
  match arguments with
  | [] => ("", [.missingFormat], if dialect = .shell then 2 else 1)
  | format :: values =>
    let f := fill dialect format.toList { values } (values.length + 1)
    let isHarmless (c : Complaint) : Bool := match c with | .superfluous _ => true | _ => false
    let status :=
      if f.complaints.all isHarmless || (dialect = .program && f.isEnded) then 0
      else if dialect = .shell && f.complaints.any Complaint.isFatal then 2
      else 1
    (String.ofList f.text.reverse, f.complaints, status)

/-! ### Lines of words -/

/-- The line that the shell makes of words: escapes in them are carried out, and one that ends the writing also
ends the line. -/
def line (words : List String) : String :=
  let (words, lineEnd) := match words with | "-n" :: rest => (rest, "") | _ => (words, "\n")
  let text := Text.join " " words
  let (body, close) := unescape .shell [] (text.length + 1) text.toList
  String.ofList body ++ if close = .finished then "" else lineEnd

/-- The choices that the line program reads in front of its words: whether a line end follows, and whether escapes
are carried out. -/
def lineChoices (lineEnd escapes : Bool) (words : List String) : Bool × Bool × List String :=
  match words with
  | [] => (lineEnd, escapes, [])
  | word :: rest =>
    match word.toList with
    | '-' :: c :: more =>
      if (c :: more).all "neE".toList.contains then
        let escapes := (c :: more).foldl (fun e c => if c = 'e' then true else if c = 'E' then false else e) escapes
        lineChoices (lineEnd && !(c :: more).contains 'n') escapes rest
      else (lineEnd, escapes, words)
    | _ => (lineEnd, escapes, words)

def programLine (words : List String) : String :=
  let (lineEnd, escapes, words) := lineChoices true false words
  let text := Text.join " " words
  let (text, isFinished) :=
    if escapes then
      let (body, close) := unescape .lines [] (text.length + 1) text.toList
      (String.ofList body, close = .finished)
    else (text, false)
  if lineEnd && !isFinished then text ++ "\n" else text

example : (printed .shell ["%05d|%x|%s\\n", "42", "255", "a b"]).1 = "00042|ff|a b\n" := by decide +kernel
example : (printed .program ["%s-", "a", "b"]).1 = "a-b-" := by decide +kernel

end Stemcell.Rehearsal.Machine.Format
