/-!
UTF-8: reading bytes as text, either strictly or with a replacement character for each piece that is not
well formed. Such a piece is as long as possible a beginning of a character, or else one byte.
-/
namespace Stemcell.Text.Utf8

/-- Whether a byte continues a character. -/
def isTail (b : UInt8) : Bool := 0x80 ≤ b.toNat && b.toNat ≤ 0xbf

/-- The range of the second byte behind a first byte of a long character, and how many bytes follow the
first one. -/
def follow? (first : UInt8) : Option (Nat × Nat × Nat) :=
  let n := first.toNat
  if 0xc2 ≤ n && n ≤ 0xdf then some (0x80, 0xbf, 1)
  else if n = 0xe0 then some (0xa0, 0xbf, 2)
  else if n = 0xed then some (0x80, 0x9f, 2)
  else if 0xe1 ≤ n && n ≤ 0xef then some (0x80, 0xbf, 2)
  else if n = 0xf0 then some (0x90, 0xbf, 3)
  else if 0xf1 ≤ n && n ≤ 0xf3 then some (0x80, 0xbf, 3)
  else if n = 0xf4 then some (0x80, 0x8f, 3)
  else none

/-- The six low bits of a continuation byte. -/
def tailBits (b : UInt8) : Nat := b.toNat % 64

/-- The character that starts with `first`, or none where the bytes are not well formed, and how many of
the following bytes belong to it or to its beginning. -/
def character (first : UInt8) (rest : List UInt8) : Option Char × Nat :=
  if first.toNat < 0x80 then (some (Char.ofNat first.toNat), 0)
  else
    match follow? first with
    | none => (none, 0)
    | some (low, high, count) =>
      match rest with
      | second :: more =>
        if second.toNat < low || high < second.toNat then (none, 0)
        else
          let tails := (more.take (count - 1)).takeWhile isTail
          if tails.length = count - 1 then
            let lead := first.toNat % Nat.pow 2 (6 - count)
            (some (Char.ofNat ((second :: tails).foldl (fun n b => n * 64 + tailBits b) lead)), count)
          else (none, 1 + tails.length)
      | [] => (none, 0)

/-- Reads bytes as text, with U+FFFD for each piece that is not well formed. -/
def decodeReplacing : List UInt8 → List Char
  | [] => []
  | first :: rest =>
    let (found, extra) := character first rest
    found.getD '\ufffd' :: decodeReplacing (rest.drop extra)
  termination_by bytes => bytes.length
  decreasing_by simp only [List.length_drop, List.length_cons]; omega

/-- The characters at the front of bytes, and the place where it shows that what follows is none; that place is
behind all bytes if they end inside of a character. -/
def wellFormed (bytes : List UInt8) : List Char × Option Nat := go 0 bytes []
where
  /-- Reads the bytes from a place on, behind the characters read so far, the last of them first. -/
  go (place : Nat) : List UInt8 → List Char → List Char × Option Nat
  | [], done => (done.reverse, none)
  | first :: rest, done =>
    match character first rest with
    | (some c, extra) => go (place + 1 + extra) (rest.drop extra) (c :: done)
    | (none, extra) => (done.reverse, some (if (follow? first).isSome then place + 1 + extra else place))
  termination_by bytes => bytes.length
  decreasing_by simp only [List.length_drop, List.length_cons]; omega

/-- Reads bytes as text if all of them are well formed. -/
def decode? (bytes : List UInt8) : Option (List Char) :=
  match wellFormed bytes with
  | (text, none) => some text
  | (_, some _) => none

example : decodeReplacing [0x41, 0xf0, 0x9f, 0x41, 0xe2, 0x82, 0xac] = ['A', '\ufffd', 'A', '€'] := by
  decide +kernel

end Stemcell.Text.Utf8
