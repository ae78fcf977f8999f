import Stemcell.Number.Binary64
/-!
Decimal texts of binary floating-point numbers: the fewest digits that read back, and a fixed number of
digits or places rounded from the exact value. All comparisons are between natural numbers.
-/
namespace Stemcell.Number

def digitsOf (n : Nat) : List Char := Nat.toDigits 10 n

/-- The greatest number of decimal digits of a whole number that is read from a text or written to one. -/
def digitLimit : Nat := 4300

/-- Whether a whole number has few enough digits to be written. -/
def isWritable (n : Int) : Bool :=
  n.natAbs.log2 < 3 * digitLimit || n.natAbs < Nat.pow 10 digitLimit

/-- A positive decimal number `digits * 10 ^ exponent`. -/
structure Decimal where
  digits : Nat
  exponent : Int
  deriving DecidableEq, Repr, Inhabited

namespace Decimal

def lessBinary (a : Nat) (p : Int) (b : Nat) (q : Int) : Bool :=
  a * Nat.pow 10 p.toNat * Nat.pow 2 (-q).toNat < b * Nat.pow 2 q.toNat * Nat.pow 10 (-p).toNat

def eqBinary (a : Nat) (p : Int) (b : Nat) (q : Int) : Bool :=
  a * Nat.pow 10 p.toNat * Nat.pow 2 (-q).toNat = b * Nat.pow 2 q.toNat * Nat.pow 10 (-p).toNat

/-- Whether `d` lies among the reals that round to `significand * 2 ^ exponent`. The bounds are halfway to
the two neighbours and belong to it iff the significand is even; below a power of two the neighbour is
only half as far. -/
def readsBack (significand : Nat) (exponent : Int) (d : Decimal) : Bool :=
  let low :=
    if significand = Nat.pow 2 52 && Binary64.leastExponent < exponent then 4 * significand - 1
    else 4 * significand - 2
  let high := 4 * significand + 2
  let q := exponent - 2
  let inside :=
    !lessBinary d.digits d.exponent low q && !eqBinary d.digits d.exponent low q
      && lessBinary d.digits d.exponent high q
  inside ||
    (significand % 2 = 0 &&
      (eqBinary d.digits d.exponent low q || eqBinary d.digits d.exponent high q))

/-- The number of decimal digits before the point of `num / den`, or minus the number of zeros behind it:
the `k` with `10 ^ (k - 1) ≤ num / den < 10 ^ k`. -/
def pointOf (num den : Nat) : Int :=
  let guess : Int := (digitsOf num).length - (digitsOf den).length
  let (a, b) := scaleQuotient num den 10 (-guess)
  if b ≤ a then guess + 1 else guess

/-- The point of the first grid of `count` digits below and above `num / den` that `accept` takes; of two
such points the nearer one, and of two equally near ones the even one. -/
def onGrid? (num den : Nat) (accept : Decimal → Bool) (point : Int) (count : Nat) : Option Decimal :=
  let exponent := point - count
  let (a, b) := scaleQuotient num den 10 (-exponent)
  let below : Decimal := ⟨a / b, exponent⟩
  let above : Decimal := ⟨a / b + 1, exponent⟩
  match 0 < below.digits && accept below, accept above with
  | true, true => some ⟨roundHalfEven a b, exponent⟩
  | true, false => some below
  | false, true => some above
  | false, false => none

/-- A decimal number without zeros at the end of its digits. -/
def trim (d : Decimal) : Decimal :=
  let zeros := ((digitsOf d.digits).reverse.takeWhile (· = '0')).length
  if d.digits = 0 then d else ⟨d.digits / Nat.pow 10 zeros, d.exponent + zeros⟩

/-- The decimal number with the fewest digits that reads back as `significand * 2 ^ exponent`, for a positive
significand, and the one nearest to it among those. Seventeen digits always suffice. -/
def shortest (significand : Nat) (exponent : Int) : Decimal :=
  let (num, den) := Binary64.ratio significand exponent
  let point := pointOf num den
  let found := (List.range 17).findSome? fun i =>
    onGrid? num den (readsBack significand exponent) point (i + 1)
  (found.getD ⟨num, 0⟩).trim

/-- `num / den`, for a positive quotient, rounded to `count` significant digits. -/
def rounded (num den : Nat) (count : Nat) : Decimal :=
  let exponent := pointOf num den - count
  let (a, b) := scaleQuotient num den 10 (-exponent)
  let digits := roundHalfEven a b
  if digits = Nat.pow 10 count then ⟨Nat.pow 10 (count - 1), exponent + 1⟩ else ⟨digits, exponent⟩

end Decimal

/-- `digits * 10 ^ exponent` with a point in its place and at least one digit on either side of it, the
right side padded with zeros to `places`. -/
def positional (d : Decimal) (places : Nat) : List Char :=
  let digits := digitsOf d.digits
  let (left, right) :=
    match d.exponent with
    | .ofNat k => (digits ++ List.replicate k '0', [])
    | .negSucc k =>
      let behind := k + 1
      let padded := List.replicate (behind + 1 - digits.length) '0' ++ digits
      padded.splitAt (padded.length - behind)
  let right := right ++ List.replicate (places - right.length) '0'
  if right.isEmpty then left else left ++ '.' :: right

/-- An exponent of ten with its sign and at least two digits. -/
def exponentText (mark : Char) (exponent : Int) : List Char :=
  let digits := digitsOf exponent.natAbs
  mark :: (if exponent < 0 then '-' else '+') :: (List.replicate (2 - digits.length) '0' ++ digits)

/-- `digits * 10 ^ exponent` with one digit before the point and an exponent behind the mark. -/
def scientific (mark : Char) (d : Decimal) : List Char :=
  match digitsOf d.digits with
  | [] => []
  | first :: rest =>
    let fraction := if rest.isEmpty then [] else '.' :: rest
    first :: (fraction ++ exponentText mark (d.exponent + rest.length))

namespace Binary64

/-- A minus sign in front of a text, where one is due. -/
def signed (negative : Bool) (digits : List Char) : List Char :=
  if negative then '-' :: digits else digits

/-- The text of a number in messages: the fewest digits that read back, with at least one place behind the
point, and an exponent from `10 ^ 16` on and below `10 ^ -4`. -/
def display : Binary64 → String
  | .nan => "nan"
  | .infinite negative => String.ofList (signed negative "inf".toList)
  | .finite negative 0 _ => String.ofList (signed negative "0.0".toList)
  | .finite negative significand exponent =>
    let d := Decimal.shortest significand exponent
    let point := d.exponent + (digitsOf d.digits).length
    String.ofList <| signed negative <|
      if -4 < point && point ≤ 16 then positional d 1 else scientific 'e' d

example : (ofDecimal false 1 (-1)).display = "0.1" := by decide +kernel
example : (ofDecimal false 123015 (-2)).display = "1230.15" := by decide +kernel
example : (ofDecimal true 1 16).display = "-1e+16" := by decide +kernel
example : (ofDecimal false 1 15).display = "1000000000000000.0" := by decide +kernel
example : (ofDecimal false 5 (-324)).display = "5e-324" := by decide +kernel
example : (ofDecimal false 25 (-6)).display = "2.5e-05" := by decide +kernel

end Binary64

end Stemcell.Number
