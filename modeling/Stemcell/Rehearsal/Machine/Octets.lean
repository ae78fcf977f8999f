import Stemcell.Text.Search
import Stemcell.Text.Utf8
/-!
Texts as a machine keeps them: every byte is a character, so no text is ill formed.
-/
namespace Stemcell.Rehearsal.Machine

/-- A text with one character for each of its bytes. -/
def octets (s : String) : String := String.ofList (s.toUTF8.toList.map fun b => Char.ofNat b.toNat)

def bytesOf (s : String) : List UInt8 := s.toList.map fun c => UInt8.ofNat c.toNat

def ofBytes (data : List UInt8) : String := String.ofList (data.map fun b => Char.ofNat b.toNat)

/-- Such a text as people read it, for instance where it is the name of a file. -/
def readable (s : String) : String :=
  if s.toList.all (·.toNat < 0x80) then s else String.ofList (Text.Utf8.decodeReplacing (bytesOf s))

/-- The lines of a text without the line ends. What follows the last line end is a line if it is not empty. -/
def linesOf (s : String) : List String :=
  let pieces := Text.split '\n' s
  if pieces.getLast? = some "" then pieces.dropLast else pieces

/-- Lines with a line end behind each. -/
def ofLines (lines : List String) : String := String.join (lines.map (· ++ "\n"))

/-- The number that basic digits stand for. -/
def decimal? (s : String) : Option Nat :=
  let digits := s.toList
  if digits.isEmpty || !digits.all Char.isDigit then none
  else some (digits.foldl (fun n c => n * 10 + (c.toNat - '0'.toNat)) 0)

/-- The whole number that basic digits with or without a sign stand for. -/
def integer? (s : String) : Option Int :=
  match s.toList with
  | '-' :: rest => (decimal? (String.ofList rest)).map fun n => -(n : Int)
  | '+' :: rest => (decimal? (String.ofList rest)).map fun n => (n : Int)
  | _ => (decimal? s).map fun n => (n : Int)

def octalDigit (n : Nat) : Char := Char.ofNat ('0'.toNat + n % 8)

/-- A text between quotes as complaints show it: quotes, backslashes and what is not printable are escaped. -/
def quotation (s : String) : String :=
  let inner := s.toList.flatMap fun c =>
    if c = '\'' || c = '\\' then ['\\', c]
    else if c = '\n' then ['\\', 'n']
    else if c = '\t' then ['\\', 't']
    else if c = '\r' then ['\\', 'r']
    else if ' ' ≤ c && c ≤ '~' then [c]
    else ['\\', octalDigit (c.toNat / 64), octalDigit (c.toNat / 8), octalDigit c.toNat]
  "'" ++ String.ofList inner ++ "'"

/-- A text as a word of a shell: without quotes if they make no difference and are not asked for, between double
quotes if that is enough for a single quote in it, else between single quotes, and what is not printable as an
escape behind a dollar sign. -/
def wordFor (always : Bool) (s : String) : String :=
  let chars := s.toList
  let isPlain (c : Char) : Bool := c.isAlphanum || "/._-+,:@%]".toList.contains c
  let isHarmless (c : Char) : Bool := isPlain c || "\x7b\x7d#~".toList.contains c
  let isSafe := !chars.isEmpty && chars.all isHarmless && !"#~".toList.contains (chars.headD ' ') &&
    s ≠ "\x7b" && s ≠ "\x7d"
  let isPrintable (c : Char) : Bool := ' ' ≤ c && c ≤ '~'
  let escape (c : Char) : List Char :=
    match [('\x07', 'a'), ('\x08', 'b'), ('\x0c', 'f'), ('\n', 'n'), ('\r', 'r'), ('\t', 't'), ('\x0b', 'v')].lookup c with
    | some letter => ['\\', letter]
    | none => ['\\', octalDigit (c.toNat / 64), octalDigit (c.toNat / 8), octalDigit c.toNat]
  let rec go (isEscaping : Bool) : List Char → List Char
    | [] => ['\'']
    | c :: rest =>
      if isPrintable c then
        let front := if isEscaping then ['\'', '\''] else []
        front ++ (if c = '\'' then ['\'', '\\', '\'', '\''] else [c]) ++ go false rest
      else (if isEscaping then [] else ['\'', '$', '\'']) ++ escape c ++ go true rest
  if isSafe && !always then s
  else if chars.contains '\'' && chars.all fun c => isHarmless c || c = ' ' || c = '\'' then "\"" ++ s ++ "\""
  else String.ofList ('\'' :: go false chars)

example : wordFor false "a-b" = "a-b" ∧ wordFor false "a b" = "'a b'" ∧ wordFor true "it's" = "\"it's\"" := by
  decide +kernel
example : bytesOf (octets "aé") = [0x61, 0xc3, 0xa9] := by decide +kernel
example : linesOf "a\n\nb" = ["a", "", "b"] ∧ linesOf "" = [] := by decide +kernel

end Stemcell.Rehearsal.Machine
