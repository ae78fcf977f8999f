/-!
Base64 with the standard alphabet. Writing pads the last group with `=`; strict reading takes no character
outside the alphabet and no data behind a pad, but it takes any number of pads behind complete groups.
-/
namespace Stemcell.Text.Base64

def symbol (bits : Nat) : Char :=
  if bits < 26 then Char.ofNat ('A'.toNat + bits)
  else if bits < 52 then Char.ofNat ('a'.toNat + (bits - 26))
  else if bits < 62 then Char.ofNat ('0'.toNat + (bits - 52))
  else if bits = 62 then '+'
  else '/'

def bits? (c : Char) : Option Nat :=
  if 'A' ≤ c ∧ c ≤ 'Z' then some (c.toNat - 'A'.toNat)
  else if 'a' ≤ c ∧ c ≤ 'z' then some (c.toNat - 'a'.toNat + 26)
  else if '0' ≤ c ∧ c ≤ '9' then some (c.toNat - '0'.toNat + 52)
  else if c = '+' then some 62
  else if c = '/' then some 63
  else none

def encode : List UInt8 → List Char
  | [] => []
  | [a] => [symbol (a.toNat / 4), symbol (a.toNat % 4 * 16), '=', '=']
  | [a, b] =>
    [symbol (a.toNat / 4), symbol (a.toNat % 4 * 16 + b.toNat / 16), symbol (b.toNat % 16 * 4), '=']
  | a :: b :: c :: rest =>
    symbol (a.toNat / 4) :: symbol (a.toNat % 4 * 16 + b.toNat / 16)
      :: symbol (b.toNat % 16 * 4 + c.toNat / 64) :: symbol (c.toNat % 64) :: encode rest

/-- The whole bytes in a sequence of six-bit groups; bits left over at the end are dropped. -/
def bytesOf : List Nat → List UInt8
  | a :: b :: c :: d :: rest =>
    UInt8.ofNat (a * 4 + b / 16) :: UInt8.ofNat (b % 16 * 16 + c / 4) :: UInt8.ofNat (c % 4 * 64 + d)
      :: bytesOf rest
  | [a, b, c] => [UInt8.ofNat (a * 4 + b / 16), UInt8.ofNat (b % 16 * 16 + c / 4)]
  | [a, b] => [UInt8.ofNat (a * 4 + b / 16)]
  | _ => []

/-- Why a text is not read. -/
inductive Error where
  | leadingPadding
  | foreignCharacter
  | excessData
  | discontinuousPadding
  | incorrectPadding
  /-- The last group has a single data character; the number of all data characters. -/
  | lonelyCharacter (count : Nat)
  deriving DecidableEq, Repr

def Error.message : Error → String
  | .leadingPadding => "Leading padding not allowed"
  | .foreignCharacter => "Only base64 data is allowed"
  | .excessData => "Excess data after padding"
  | .discontinuousPadding => "Discontinuous padding not allowed"
  | .incorrectPadding => "Incorrect padding"
  | .lonelyCharacter count =>
    s!"Invalid base64-encoded string: number of data characters ({count}) cannot be 1 more than a multiple of 4"

/-- Reads the groups of six bits behind `count` data characters, given with the last one first. A pad counts
towards completing a group only once the group has two data characters. -/
def scan (count : Nat) (seen : List Nat) (pads : Nat) (padSeen : Bool) : List Char → Except Error (List Nat)
  | [] =>
    if count % 4 = 0 then .ok seen.reverse
    else if count % 4 = 1 then .error (.lonelyCharacter count)
    else .error .incorrectPadding
  | c :: rest =>
    if c = '=' then
      if count % 4 < 2 then scan count seen pads true rest
      else if count % 4 + (pads + 1) < 4 then scan count seen (pads + 1) true rest
      else if rest.isEmpty then .ok seen.reverse
      else .error .excessData
    else
      match bits? c with
      | none => .error .foreignCharacter
      | some bits =>
        if padSeen then .error .discontinuousPadding else scan (count + 1) (bits :: seen) pads false rest

/-- Reads the groups of six bits behind `count` data characters, given with the last one first; characters outside
the alphabet do not count, and nothing counts behind the pads that complete the last group. -/
def scanLoosely (count : Nat) (seen : List Nat) (pads : Nat) : List Char → Option (List Nat)
  | [] => if count % 4 = 0 then some seen.reverse else none
  | c :: rest =>
    if c = '=' then
      if count % 4 < 2 then scanLoosely count seen pads rest
      else if count % 4 + (pads + 1) < 4 then scanLoosely count seen (pads + 1) rest
      else some seen.reverse
    else
      match bits? c with
      | none => scanLoosely count seen pads rest
      | some bits => scanLoosely (count + 1) (bits :: seen) 0 rest

/-- Reads a text and skips what cannot be data. -/
def decodeLoosely (s : List Char) : Option (List UInt8) := (scanLoosely 0 [] 0 s).map bytesOf

def decode (s : List Char) : Except Error (List UInt8) :=
  if s.head? = some '=' then .error .leadingPadding
  else (scan 0 [] 0 false s).map bytesOf

end Stemcell.Text.Base64
