import Mathlib.Algebra.Group.Nat.Defs
import Stemcell.Proofs.Text.Base64

/-! The bits of a written form are those of the bytes, in the same order: the groups only cut them
elsewhere. What the last group has beyond the bytes is zero. -/
namespace Stemcell.Text.Base64

/-- The lowest bits of a number, the highest of them first. -/
def bits : Nat → Nat → List Bool
  | 0, _ => []
  | width + 1, n => bits width (n / 2) ++ [decide (n % 2 = 1)]

theorem bits_zero (width : Nat) : bits width 0 = List.replicate width false := by
  induction width with
  | zero => rfl
  | succ width ih =>
    rw [bits, Nat.zero_div, ih, List.replicate_succ']
    rfl

/-- The bits of a number that is put together from two. -/
theorem bits_append (high low x y : Nat) (hy : y < 2 ^ low) :
    bits (high + low) (x * 2 ^ low + y) = bits high x ++ bits low y := by
  induction low generalizing y with
  | zero =>
    obtain rfl : y = 0 := Nat.lt_one_iff.mp hy
    simp [bits]
  | succ low ih =>
    have hpow : x * 2 ^ (low + 1) = 2 * (x * 2 ^ low) := by
      rw [Nat.pow_succ, ← Nat.mul_assoc, Nat.mul_comm]
    have hhalf : (x * 2 ^ (low + 1) + y) / 2 = x * 2 ^ low + y / 2 := by omega
    have hlast : (x * 2 ^ (low + 1) + y) % 2 = y % 2 := by omega
    have hy' : y / 2 < 2 ^ low := by
      rw [Nat.pow_succ] at hy
      omega
    rw [← Nat.add_assoc, bits, bits, hhalf, hlast, ih _ hy', List.append_assoc]

theorem bits_filled (high low x : Nat) :
    bits (high + low) (x * 2 ^ low) = bits high x ++ List.replicate low false := by
  rw [← bits_zero, ← bits_append high low x 0 (Nat.two_pow_pos low), Nat.add_zero]

theorem bits_cut (high low n : Nat) :
    bits (high + low) n = bits high (n / 2 ^ low) ++ bits low (n % 2 ^ low) := by
  rw [← bits_append high low _ _ (Nat.mod_lt n (Nat.two_pow_pos low)), Nat.div_add_mod']

theorem bits_groups (bytes : List UInt8) :
    (groups bytes).flatMap (bits 6) =
      bytes.flatMap (fun b => bits 8 b.toNat) ++ List.replicate (2 * pads bytes.length) false := by
  induction bytes using groups.induct with
  | case1 => rfl
  | case2 a =>
    have hfirst := bits_cut 6 2 a.toNat
    have hlast := bits_filled 2 4 (a.toNat % 4)
    simp only [Nat.reduceAdd, Nat.reducePow] at hfirst hlast
    simp [groups, pads, hfirst, hlast]
  | case3 a b =>
    have ha := bits_cut 6 2 a.toNat
    have hb := bits_cut 4 4 b.toNat
    have hsecond := bits_append 2 4 (a.toNat % 4) (b.toNat / 16) (by have := b.toNat_lt; omega)
    have hlast := bits_filled 4 2 (b.toNat % 16)
    simp only [Nat.reduceAdd, Nat.reducePow] at ha hb hsecond hlast
    simp [groups, pads, ha, hb, hsecond, hlast]
  | case4 a b c rest ih =>
    have ha := bits_cut 6 2 a.toNat
    have hb := bits_cut 4 4 b.toNat
    have hc := bits_cut 2 6 c.toNat
    have hsecond := bits_append 2 4 (a.toNat % 4) (b.toNat / 16) (by have := b.toNat_lt; omega)
    have hthird := bits_append 4 2 (b.toNat % 16) (c.toNat / 64) (by have := c.toNat_lt; omega)
    have hpads : pads (a :: b :: c :: rest).length = pads rest.length := by
      simp only [pads, List.length_cons]
      omega
    simp only [Nat.reduceAdd, Nat.reducePow] at ha hb hc hsecond hthird
    rw [hpads, groups]
    simp only [List.flatMap_cons, ih, ha, hb, hc, hsecond, hthird, List.append_assoc]

end Stemcell.Text.Base64
