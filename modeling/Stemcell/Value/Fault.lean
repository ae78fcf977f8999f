import Stemcell.Text.Blank
import Stemcell.Text.Digit
import Stemcell.Text.Search
import Stemcell.Value.Display
/-!
Faults: what goes wrong when a value is used as something it is not. A fault carries its cause; the words
are made in one place.
-/
namespace Stemcell

namespace Value

def Kind.name : Kind → String
  | .null => "NoneType"
  | .bool => "bool"
  | .int => "int"
  | .float => "float"
  | .text => "str"
  | .bytes => "bytes"
  | .date => "datetime.date"
  | .moment => "datetime.datetime"
  | .list => "list"
  | .pair => "tuple"
  | .set => "set"
  | .mapping => "dict"

end Value

/-- Why a value cannot be used as asked. -/
inductive Fault where
  /-- Looked for a member in a value that has none. -/
  | notContainer (kind : Value.Kind)
  /-- Asked for the items of a value that has none. -/
  | notIterable (kind : Value.Kind)
  /-- Asked for a place in a value that has no places. -/
  | notIndexed (kind : Value.Kind)
  /-- Asked a text or a list for the value at a name. -/
  | nameAsPlace (kind : Value.Kind)
  /-- Asked a value for an operation that its kind does not have. -/
  | noOperation (kind : Value.Kind) (name : String)
  /-- A mapping has no such key. -/
  | missingKey (key : Value)
  /-- A list has no such place. -/
  | outOfRange
  /-- A text that is no whole number in a base; the text as it is shown. -/
  | notWhole (base : Nat) (shown : String)
  /-- A text with more digits than are read. -/
  | tooManyDigits (count : Nat)
  /-- A whole number with more digits than are written. -/
  | tooLargeToWrite
  /-- A value that is no number at all where a whole number is needed. -/
  | notNumeric (kind : Value.Kind)
  /-- A float that is no number where a whole number is needed. -/
  | nanToWhole
  /-- An infinite float where a whole number is needed. -/
  | infinityToWhole
  /-- A text that is no decimal number. -/
  | notDecimal (s : String)
  /-- Asked for the length of a value that has none. -/
  | noLength (kind : Value.Kind)
  /-- A value that can change where a key is needed. -/
  | notKey (kind : Value.Kind)
  /-- An item that is no text where texts are joined. -/
  | notJoined (place : Nat) (kind : Value.Kind)
  /-- Two values without an order. -/
  | notOrdered (left right : Value.Kind)
  /-- A value that is no path where the file system is asked. -/
  | notPath (kind : Value.Kind)
  /-- A value that is no path where two paths are joined. -/
  | notPathPart (kind : Value.Kind)
  /-- A value that is no text where a program is started. -/
  | notArgument (kind : Value.Kind)
  /-- A text with a null character where the system takes none. -/
  | embeddedNull
  /-- A name of an environment variable that cannot be one. -/
  | illegalVariable
  /-- A file number beyond the range of file numbers. -/
  | descriptorTooLarge
  /-- A file number below zero. -/
  | negativeDescriptor
  /-- Bytes that are not well-formed text. Its words do not say where; only the family is kept. -/
  | undecodable
  /-- A text that cannot be handed over, because a half of a pair of surrogates stands in it alone. Its words do
  not say where; only the family is kept. -/
  | unencodable
  /-- Something that is nested too deeply; what was being done. -/
  | tooDeep (doing : String)
  | bytesAsText
  /-- A value that is no text where text is searched. -/
  | notSearched (kind : Value.Kind)
  /-- A text that is no document of the expected notation. -/
  | notDocument (kind : Value.Kind)
  /-- A day or a time that the calendar does not have. -/
  | noSuchMoment
  /-- A template that ends inside a placeholder. -/
  | unfinishedPlaceholder
  /-- A placeholder of a kind that does not exist. -/
  | unknownPlaceholder (c : Char) (place : Nat)
  /-- A template with more placeholders than values. -/
  | tooFewValues
  /-- A template with fewer placeholders than values. -/
  | tooManyValues
  /-- A template that names values where there are only places. -/
  | namesNeedMapping
  /-- A width or precision that is no whole number. -/
  | widthNotWhole
  | widthTooLarge
  /-- A text for which there is no room. -/
  | outOfMemory
  /-- A value that a numeric placeholder does not take. -/
  | placeholderNeeds (c : Char) (what : String) (kind : Value.Kind)
  /-- A value that is no real number where one is needed. -/
  | notReal (kind : Value.Kind)
  /-- A whole number beyond the range of the floats. -/
  | tooLargeForFloat
  /-- A value that is no single character. -/
  | notCharacter
  /-- A number that is no character. -/
  | characterOutOfRange
  /-- A code that is no character of a document. -/
  | noSuchCharacter
  | codeTooLarge
  /-- A name in a template that is not closed. -/
  | unclosedName
  deriving Repr

namespace Fault

/-- How much of a text that is no number is quoted. -/
def shownLimit : Nat := 200

/-- How the limit on digits is raised. -/
def digitAdvice : String := "use sys.set_int_max_str_digits() to increase the limit"

def message : Fault → String
  | .notContainer kind => s!"argument of type '{kind.name}' is not iterable"
  | .notIterable kind => s!"'{kind.name}' object is not iterable"
  | .notIndexed kind => s!"'{kind.name}' object is not subscriptable"
  | .nameAsPlace .text => "string indices must be integers, not 'str'"
  | .nameAsPlace kind => s!"{kind.name} indices must be integers or slices, not str"
  | .noOperation kind name => s!"'{kind.name}' object has no attribute '{name}'"
  | .missingKey key => key.shown
  | .outOfRange => "list index out of range"
  | .notWhole base shown => s!"invalid literal for int() with base {base}: " ++ Text.cut shownLimit shown
  | .tooManyDigits count =>
    s!"Exceeds the limit ({Number.digitLimit} digits) for integer string conversion: value has {count} digits; "
      ++ digitAdvice
  | .tooLargeToWrite =>
    s!"Exceeds the limit ({Number.digitLimit} digits) for integer string conversion; " ++ digitAdvice
  | .notNumeric kind =>
    s!"int() argument must be a string, a bytes-like object or a real number, not '{kind.name}'"
  | .nanToWhole => "cannot convert float NaN to integer"
  | .infinityToWhole => "cannot convert float infinity to integer"
  | .notDecimal s => "could not convert string to float: " ++ Text.quoted s
  | .noLength kind => s!"object of type '{kind.name}' has no len()"
  | .notKey kind => s!"unhashable type: '{kind.name}'"
  | .notJoined place kind => s!"sequence item {place}: expected str instance, {kind.name} found"
  | .notOrdered left right =>
    s!"'<' not supported between instances of '{left.name}' and '{right.name}'"
  | .notPath kind => s!"stat: path should be string, bytes, os.PathLike or integer, not {kind.name}"
  | .notPathPart kind => s!"join() argument must be str, bytes, or os.PathLike object, not '{kind.name}'"
  | .notArgument kind => s!"expected str, bytes or os.PathLike object, not {kind.name}"
  | .embeddedNull => "embedded null byte"
  | .illegalVariable => "illegal environment variable name"
  | .descriptorTooLarge => "fd is greater than maximum"
  | .negativeDescriptor => "negative file descriptor"
  | .undecodable => "the bytes are not well-formed text"
  | .unencodable => "surrogates not allowed"
  | .tooDeep doing => "maximum recursion depth exceeded" ++ doing
  | .bytesAsText => "cannot use a bytes pattern on a string-like object"
  | .notSearched kind => s!"expected string or bytes-like object, got '{kind.name}'"
  | .notDocument kind => s!"the JSON object must be str, bytes or bytearray, not {kind.name}"
  | .noSuchMoment => "day is out of range for month"
  | .unfinishedPlaceholder => "incomplete format"
  | .unknownPlaceholder c place =>
    let code := String.ofList (Nat.toDigits 16 c.toNat)
    "unsupported format character '" ++ String.singleton c ++ s!"' (0x{code}) at index {place}"
  | .tooFewValues => "not enough arguments for format string"
  | .tooManyValues => "not all arguments converted during string formatting"
  | .namesNeedMapping => "format requires a mapping"
  | .widthNotWhole => "* wants int"
  | .widthTooLarge => "width too big"
  | .outOfMemory => "out of memory"
  | .placeholderNeeds c what kind =>
    "%" ++ String.singleton c ++ s!" format: {what} is required, not {kind.name}"
  | .notReal kind => s!"must be real number, not {kind.name}"
  | .tooLargeForFloat => "int too large to convert to float"
  | .notCharacter => "%c requires int or char"
  | .noSuchCharacter => "chr() arg not in range(0x110000)"
  | .codeTooLarge => "value too large to convert to a character"
  | .characterOutOfRange => "%c arg not in range(0x110000)"
  | .unclosedName => "incomplete format key"

/-- The families of fault that callers tell apart. -/
inductive Family where
  | type | value | attribute | key | index | overflow | decoding | encoding | recursion | memory
  deriving DecidableEq, Repr

def family : Fault → Family
  | .notContainer _ | .notIterable _ | .notIndexed _ | .nameAsPlace _ | .notNumeric _ | .noLength _
  | .notKey _ | .notJoined .. | .notOrdered .. | .notPath _ | .notPathPart _ | .notArgument _ | .bytesAsText
  | .notSearched _ | .notDocument _ | .tooFewValues | .tooManyValues | .namesNeedMapping | .widthNotWhole
  | .placeholderNeeds .. | .notReal _ | .notCharacter => .type
  | .noOperation .. => .attribute
  | .missingKey _ => .key
  | .outOfRange => .index
  | .infinityToWhole | .tooLargeForFloat | .descriptorTooLarge | .characterOutOfRange
  | .codeTooLarge => .overflow
  | .undecodable => .decoding
  | .unencodable => .encoding
  | .tooDeep _ => .recursion
  | .outOfMemory => .memory
  | .notWhole .. | .tooManyDigits _ | .tooLargeToWrite | .nanToWhole | .notDecimal _ | .embeddedNull | .illegalVariable
  | .negativeDescriptor | .noSuchCharacter
  | .noSuchMoment | .unfinishedPlaceholder | .unknownPlaceholder .. | .widthTooLarge | .unclosedName => .value

end Fault

namespace Text

/-- Whether a character may stand around a whole number: a blank, but of the separators only the space. -/
def isMargin (c : Char) : Bool := isBlank c && !(0x1c ≤ c.toNat && c.toNat ≤ 0x1f)

/-- The value of a digit in a base: a decimal digit of any script, or a letter from `a` for ten on. -/
def digitIn? (base : Nat) (c : Char) : Option Nat :=
  let letter := if c.isAlpha then some (c.toLower.toNat - 'a'.toNat + 10) else none
  ((digitValue? c).or letter).filter (· < base)

/-- The digits at the front of a text, the last one first, and the rest. Single underscores may stand between two
digits; two of them, or one behind the last digit, make no number. -/
def digitRun (base : Nat) (done : List Nat) : List Char → Option (List Nat × List Char)
  | '_' :: c :: rest =>
    if done.isEmpty then none
    else
      match digitIn? base c with
      | some d => digitRun base (d :: done) rest
      | none => none
  | c :: rest =>
    match digitIn? base c with
    | some d => digitRun base (d :: done) rest
    | none => if done.isEmpty || c = '_' then none else some (done, c :: rest)
  | [] => if done.isEmpty then none else some (done, [])

/-- The number with these digits, the last one first. -/
def ofDigitsReversed (base : Nat) (digits : List Nat) : Nat := digits.foldr (fun d n => n * base + d) 0

/-- The letter that may stand behind a zero in front of the digits in a base. -/
def baseLetter? : Nat → Option Char
  | 2 => some 'b'
  | 8 => some 'o'
  | 16 => some 'x'
  | _ => none

/-- Digits without the zero, the letter and the underscore that may stand in front of them. -/
def dropBase (base : Nat) (s : List Char) : List Char :=
  match s with
  | '0' :: c :: rest =>
    if some c.toLower ≠ baseLetter? base then s
    else
      match rest with
      | '_' :: more => more
      | _ => rest
  | _ => s

/-- A text without the margins. -/
def trimmed (s : String) : List Char :=
  ((s.toList.dropWhile isMargin).reverse.dropWhile isMargin).reverse

/-- A text without its sign, and whether that is a minus. -/
def signed : List Char → Bool × List Char
  | '-' :: rest => (true, rest)
  | '+' :: rest => (false, rest)
  | rest => (false, rest)

/-- Reads a whole number in a base: a sign, then digits, with blanks around. Too many decimal digits are noticed
before what stands behind them. -/
def wholeNumberIn (base : Nat) (s : String) : Except Fault Int :=
  let (negative, digits) := signed (trimmed s)
  match digitRun base [] (dropBase base digits) with
  | none => .error (.notWhole base (quoted s))
  | some (run, rest) =>
    if base = 10 && Number.digitLimit < run.length then .error (.tooManyDigits run.length)
    else if !rest.isEmpty then .error (.notWhole base (quoted s))
    else
      let n : Int := ofDigitsReversed base run
      .ok (if negative then -n else n)

/-- Reads a whole number in base ten. -/
def wholeNumber (s : String) : Except Fault Int := wholeNumberIn 10 s

/-- The number with these digits in front of and behind the point, and a power of ten. -/
def ofDecimalParts (negative : Bool) (whole fraction : List Nat) (exponent : Int) : Number.Binary64 :=
  let digits := (whole ++ fraction).foldl (fun n d => n * 10 + d) 0
  .ofDecimal negative digits (exponent - fraction.length)

/-- The decimal digits at the front of a text, and the rest. -/
def leadingDigits : List Char → List Nat × List Char
  | [] => ([], [])
  | c :: rest =>
    match digitValue? c with
    | some d =>
      let (more, rest) := leadingDigits rest
      (d :: more, rest)
    | none => ([], c :: rest)

/-- Reads the exponent of a number, to the end of the text. -/
def exponentPart : List Char → Option Int
  | [] => some 0
  | e :: rest =>
    if e.toLower ≠ 'e' then none
    else
      let (negative, digits) := signed rest
      match leadingDigits digits with
      | ([], _) | (_, _ :: _) => none
      | (ds, []) =>
        let n : Nat := ds.foldl (fun n d => n * 10 + d) 0
        some (if negative then -(n : Int) else n)

/-- Reads a decimal number without underscores: digits with or without a point and an exponent, or a word for what
is no finite number, with blanks around. -/
def decimalNumber (s : String) : Except Fault Number.Binary64 :=
  let (negative, body) := signed (trimmed s)
  let word := String.ofList (body.map Char.toLower)
  if word = "inf" || word = "infinity" then .ok (.infinite negative)
  else if word = "nan" then .ok .nan
  else
    let (whole, behind) := leadingDigits body
    let (fraction, behind) :=
      match behind with
      | '.' :: rest => leadingDigits rest
      | rest => ([], rest)
    match whole ++ fraction, exponentPart behind with
    | _ :: _, some exponent => .ok (ofDecimalParts negative whole fraction exponent)
    | _, _ => .error (.notDecimal s)

end Text

/-- The whole number that a value stands for: a float is cut at the point, a text is read. -/
def Value.wholeNumber : Value → Except Fault Int
  | .bool b => .ok (if b then 1 else 0)
  | .int n => .ok n
  | .float x =>
    match x.truncate?, x with
    | some n, _ => .ok n
    | none, .nan => .error .nanToWhole
    | none, _ => .error .infinityToWhole
  | .text s => Text.wholeNumber s
  | .ragged codes => .error (.notWhole 10 (Text.quotedCodes codes))
  | v => .error (.notNumeric v.kind)

namespace Value

mutual

/-- Whether all whole numbers in a value have few enough digits to be written. -/
def isWritable : Value → Bool
  | .int n => Number.isWritable n
  | .list items | .set items => areWritable items
  | .pair first second => first.isWritable && second.isWritable
  | .mapping entries => areWritableEntries entries
  | _ => true

def areWritable : List Value → Bool
  | [] => true
  | v :: rest => v.isWritable && areWritable rest

def areWritableEntries : List (Value × Value) → Bool
  | [] => true
  | (key, v) :: rest => key.isWritable && v.isWritable && areWritableEntries rest

end

/-- The text of a value on its own, if it can be written. -/
def written (v : Value) : Except Fault String := if v.isWritable then .ok v.display else .error .tooLargeToWrite

theorem written_text (s : String) : (Value.text s).written = .ok s := rfl

/-- Whether the numbers of characters can be handed over to the system: of the halves of pairs of surrogates, those
can that stand for a byte. -/
def isEncodable (codes : List Nat) : Bool :=
  codes.all fun u => !Text.Surrogate.isHalf u || (0xdc80 ≤ u && u < 0xdd00)

end Value

/-- What two steps come to is what the second one comes to behind the first. -/
theorem ok_of_bind {α β : Type} {first : Except Fault α} {next : α → Except Fault β} {y : β}
    (h : first >>= next = .ok y) : ∃ x, first = .ok x ∧ next x = .ok y := by
  cases first with
  | error f => cases h
  | ok x => exact ⟨x, rfl, h⟩

/-- Two steps stop where the first one does, or where the second one does behind it. -/
theorem error_of_bind {α β : Type} {first : Except Fault α} {next : α → Except Fault β} {f : Fault}
    (h : first >>= next = .error f) : first = .error f ∨ ∃ x, first = .ok x ∧ next x = .error f := by
  cases first with
  | error g =>
    cases h
    exact .inl rfl
  | ok x => exact .inr ⟨x, rfl, h⟩

theorem bind_of_ok {α β : Type} {first : Except Fault α} {next : α → Except Fault β} {x : α} {y : β}
    (hfirst : first = .ok x) (hnext : next x = .ok y) : first >>= next = .ok y := by
  rw [hfirst]
  exact hnext

theorem eq_ok_of_toOption {ε α : Type} {r : Except ε α} {x : α} (h : r.toOption = some x) : r = .ok x := by
  cases r with
  | error e => cases h
  | ok y => exact congrArg _ (Option.some.inj h)

end Stemcell
