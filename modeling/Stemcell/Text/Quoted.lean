import Stemcell.Text.Printable
import Stemcell.Text.Surrogate
/-!
Quoted texts: a text between quotation marks with everything that cannot be shown escaped.
-/
namespace Stemcell.Text

/-- The lower-case hexadecimal digits of a number, padded with zeros to `width`. -/
def hexDigits (width n : Nat) : List Char :=
  let digits := Nat.toDigits 16 n
  List.replicate (width - digits.length) '0' ++ digits

/-- The mark around a quoted text: the single one, unless the text holds that one and not the double one. -/
def quoteMark (s : List Char) : Char :=
  if s.contains '\'' && !s.contains '"' then '"' else '\''

def quotedChar (mark c : Char) : List Char :=
  if c = mark || c = '\\' then ['\\', c]
  else if c = '\n' then ['\\', 'n']
  else if c = '\r' then ['\\', 'r']
  else if c = '\t' then ['\\', 't']
  else if isPrintable c then [c]
  else if c.toNat < 0x100 then '\\' :: 'x' :: hexDigits 2 c.toNat
  else if c.toNat < 0x10000 then '\\' :: 'u' :: hexDigits 4 c.toNat
  else '\\' :: 'U' :: hexDigits 8 c.toNat

def quoted (s : String) : String :=
  let chars := s.toList
  let mark := quoteMark chars
  String.ofList (mark :: chars.flatMap (quotedChar mark) ++ [mark])

/-- A text given by numbers of characters in quotation marks. Halves of pairs of surrogates are escaped. -/
def quotedCodes (codes : List Nat) : String :=
  let mark := quoteMark (codes.map Char.ofNat)
  let shown (u : Nat) : List Char :=
    if Surrogate.isHalf u then '\\' :: 'u' :: hexDigits 4 u else quotedChar mark (Char.ofNat u)
  String.ofList (mark :: codes.flatMap shown ++ [mark])

/-- A quoted text in which every character beyond the basic ones is escaped too. -/
def asciiOnly (s : String) : String :=
  String.ofList <| s.toList.flatMap fun c =>
    let n := c.toNat
    if n < 0x80 then [c]
    else if n < 0x100 then '\\' :: 'x' :: hexDigits 2 n
    else if n < 0x10000 then '\\' :: 'u' :: hexDigits 4 n
    else '\\' :: 'U' :: hexDigits 8 n

/-- A byte inside quotation marks: only the visible basic characters stand for themselves. -/
def quotedByte (mark : Char) (b : UInt8) : List Char :=
  let c := Char.ofNat b.toNat
  if 0x7f ≤ b.toNat then '\\' :: 'x' :: hexDigits 2 b.toNat else quotedChar mark c

/-- A sequence of bytes in quotation marks, with a `b` in front. -/
def quotedBytes (bytes : List UInt8) : String :=
  let mark := quoteMark (bytes.map fun b => Char.ofNat b.toNat)
  String.ofList ('b' :: mark :: bytes.flatMap (quotedByte mark) ++ [mark])

example : quoted "it's" = "\"it's\"" := by decide +kernel
example : quoted "a\\b\n\x01" = "'a\\\\b\\n\\x01'" := by decide +kernel

end Stemcell.Text
