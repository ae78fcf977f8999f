import Stemcell.Number.Rounding
/-!
Binary floating-point numbers of 64 bits as exact data: a sign, a significand below `2 ^ 53` and an
exponent of two. Every result of an operation is the exact result rounded once, so no operation here
leaves the integers.
-/
namespace Stemcell.Number

/-- A number of the binary format with 53 bits of precision. A finite one is
`± significand * 2 ^ exponent`; the exponent is at least `-1074`, and it is exactly that where the
significand is below `2 ^ 52`. -/
inductive Binary64 where
  | finite (negative : Bool) (significand : Nat) (exponent : Int)
  | infinite (negative : Bool)
  | nan
  deriving DecidableEq, Repr, Inhabited

namespace Binary64

def leastExponent : Int := -1074

def greatestExponent : Int := 971

/-- Zero with the given sign. -/
def zero (negative : Bool) : Binary64 := .finite negative 0 leastExponent

/-- The number nearest to `± num / den`, ties to the even significand, infinite from half a unit above
the greatest finite number on. -/
def ofRatio (negative : Bool) (num den : Nat) : Binary64 :=
  if num = 0 then zero negative
  else
    let top : Int := (Nat.log2 num : Int) - (Nat.log2 den : Int)
    let coarse := scaleQuotient num den 2 (53 - top)
    let exponent := if coarse.1 / coarse.2 < Nat.pow 2 53 then top - 53 else top - 52
    let exponent := max exponent leastExponent
    let scaled := scaleQuotient num den 2 (-exponent)
    let significand := roundHalfEven scaled.1 scaled.2
    let (significand, exponent) :=
      if significand = Nat.pow 2 53 then (Nat.pow 2 52, exponent + 1) else (significand, exponent)
    if greatestExponent < exponent then .infinite negative else .finite negative significand exponent

def ofInt (n : Int) : Binary64 := ofRatio (n < 0) n.natAbs 1

/-- The number nearest to `± digits * 10 ^ exponent`. An exponent so far out that the answer is
certainly infinite or zero is not expanded. -/
def ofDecimal (negative : Bool) (digits : Nat) (exponent : Int) : Binary64 :=
  if digits = 0 then zero negative
  else
    let magnitude := (Nat.toDigits 10 digits).length + exponent
    if 400 < magnitude then .infinite negative
    else if magnitude < -400 then zero negative
    else
      let (num, den) := scaleQuotient digits 1 10 exponent
      ofRatio negative num den

/-- Whether the sign is set; a value that is no number has none. -/
def isNegative : Binary64 → Bool
  | .finite negative _ _ => negative
  | .infinite negative => negative
  | .nan => false

def isZero : Binary64 → Bool
  | .finite _ significand _ => significand = 0
  | _ => false

/-- The magnitude of a finite number as a numerator and a denominator. -/
def ratio (significand : Nat) (exponent : Int) : Nat × Nat := scaleQuotient significand 1 2 exponent

def negate : Binary64 → Binary64
  | .finite negative significand exponent => .finite (!negative) significand exponent
  | .infinite negative => .infinite (!negative)
  | .nan => .nan

/-- The integer on the zero side of a finite number. -/
def truncate? : Binary64 → Option Int
  | .finite negative significand exponent =>
    let (num, den) := ratio significand exponent
    let size : Int := (num / den : Nat)
    some (if negative then -size else size)
  | _ => none

/-- A finite number as an exact fraction with a positive denominator. -/
def fraction? : Binary64 → Option (Int × Nat)
  | .finite negative significand exponent =>
    let (num, den) := ratio significand exponent
    some (if negative then -(num : Int) else num, den)
  | _ => none

/-- The nearest number to an exact fraction; an exact zero is positive. -/
def ofFraction (num : Int) (den : Nat) : Binary64 := ofRatio (num < 0) num.natAbs den

/-- The sum, rounded once. A sum of two zeros is negative only if both are. -/
def add (x y : Binary64) : Binary64 :=
  match x, y with
  | .nan, _ => .nan
  | _, .nan => .nan
  | .infinite a, .infinite b => if a = b then .infinite a else .nan
  | .infinite a, _ => .infinite a
  | _, .infinite b => .infinite b
  | .finite a m p, .finite b n q =>
    if m = 0 && n = 0 then zero (a && b)
    else
      match (Binary64.finite a m p).fraction?, (Binary64.finite b n q).fraction? with
      | some (num, den), some (num', den') => ofFraction (num * den' + num' * den) (den * den')
      | _, _ => .nan

/-- The product, rounded once. -/
def mul (x y : Binary64) : Binary64 :=
  match x, y with
  | .nan, _ => .nan
  | _, .nan => .nan
  | .infinite a, .infinite b => .infinite (a != b)
  | .infinite a, .finite b n _ => if n = 0 then .nan else .infinite (a != b)
  | .finite a m _, .infinite b => if m = 0 then .nan else .infinite (a != b)
  | .finite a m p, .finite b n q =>
    let (num, den) := ratio m p
    let (num', den') := ratio n q
    ofRatio (a != b) (num * num') (den * den')

/-- Whether the two numbers are equal as numbers: both zeros are, and what is no number equals nothing. -/
def same (x y : Binary64) : Bool :=
  match x, y with
  | .nan, _ => false
  | _, .nan => false
  | x, y => (x.isZero && y.isZero) || x = y

def sameInt (x : Binary64) (n : Int) : Bool :=
  match x.fraction? with
  | some (num, den) => num = n * den
  | none => false

example : ofDecimal false 1 (-1) = .finite false 7205759403792794 (-56) := by decide +kernel
example : ofDecimal true 5 (-324) = .finite true 1 (-1074) := by decide +kernel
example : ofDecimal false 18 307 = .infinite false := by decide +kernel
example : ofDecimal false 17976931348623157 292 = .finite false 9007199254740991 971 := by decide +kernel

end Binary64

end Stemcell.Number
