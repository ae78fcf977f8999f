/-!
Rounding a quotient of natural numbers to a natural number, to the nearest one and to the even one
of two that are equally near.
-/
namespace Stemcell.Number

/-- The natural number nearest to `num / den`; of two equally near ones the even one. -/
def roundHalfEven (num den : Nat) : Nat :=
  let whole := num / den
  let twice := 2 * (num % den)
  if twice < den then whole
  else if den < twice then whole + 1
  else if whole % 2 = 0 then whole
  else whole + 1

/-- `num / den` scaled by `base ^ shift`, for a shift of either sign, as a numerator and a denominator. -/
def scaleQuotient (num den base : Nat) (shift : Int) : Nat × Nat :=
  match shift with
  | .ofNat k => (num * Nat.pow base k, den)
  | .negSucc k => (num, den * Nat.pow base (k + 1))

end Stemcell.Number
