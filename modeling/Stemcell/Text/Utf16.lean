import Stemcell.Text.Surrogate
/-!
UTF-16, the low byte of each unit first: writing text as bytes, and reading bytes strictly. A character
above U+FFFF is a high surrogate followed by a low one; surrogates have no other use.
-/
namespace Stemcell.Text.Utf16

open Surrogate (isHigh isLow pair)

def units (c : Char) : List Nat :=
  let n := c.toNat
  if n < 0x10000 then [n]
  else [0xd800 + (n - 0x10000) / 0x400, 0xdc00 + (n - 0x10000) % 0x400]

/-- The two bytes of a unit, the low one first. -/
def unitBytes (unit : Nat) : List UInt8 := [UInt8.ofNat (unit % 256), UInt8.ofNat (unit / 256)]

def encode (s : List Char) : List UInt8 := (s.flatMap units).flatMap unitBytes

/-- The unit of two bytes, the low one first. -/
def unit (low high : UInt8) : Nat := high.toNat * 256 + low.toNat

/-- What can be wrong with a sequence of bytes. -/
inductive Flaw where
  /-- A last byte without a second one. -/
  | truncated
  /-- A low surrogate that follows no high one. -/
  | strayLow
  /-- A high surrogate before another unit than a low one. -/
  | strayHigh
  /-- A high surrogate with fewer than two bytes behind it. -/
  | unfinishedPair
  deriving DecidableEq, Repr

/-- The first flaw of a sequence of bytes, with the place of the bytes at fault and these bytes. -/
structure Error where
  flaw : Flaw
  position : Nat
  bytes : List UInt8
  deriving DecidableEq, Repr

/-- Reads the bytes from `position` on, behind the characters read so far, the last of them first. -/
def decodeFrom (position : Nat) (done : List Char) : List UInt8 → Except Error (List Char)
  | [] => .ok done.reverse
  | [byte] => .error ⟨.truncated, position, [byte]⟩
  | a :: b :: rest =>
    let first := unit a b
    if isLow first then .error ⟨.strayLow, position, [a, b]⟩
    else if isHigh first then
      match rest with
      | c :: d :: rest =>
        if isLow (unit c d) then decodeFrom (position + 4) (pair first (unit c d) :: done) rest
        else .error ⟨.strayHigh, position, [a, b]⟩
      | _ => .error ⟨.unfinishedPair, position, a :: b :: rest⟩
    else decodeFrom (position + 2) (Char.ofNat first :: done) rest

def decode (bytes : List UInt8) : Except Error (List Char) := decodeFrom 0 [] bytes

end Stemcell.Text.Utf16
