import Stemcell.Text.Utf16

/-! What is written in UTF-16 is read back, character by character. -/
namespace Stemcell.Text.Utf16
open Surrogate (isHigh isLow pair)

/-- No character is a surrogate or lies above the last plane. -/
theorem char_range (c : Char) : c.toNat < 0xd800 ∨ (0xdfff < c.toNat ∧ c.toNat < 0x110000) := by
  exact c.valid

theorem unit_unitBytes (u : Nat) (h : u < 0x10000) :
    unit (UInt8.ofNat (u % 256)) (UInt8.ofNat (u / 256)) = u := by
  have hl : (UInt8.ofNat (u % 256)).toNat = u % 256 :=
    UInt8.toNat_ofNat_of_lt' (Nat.mod_lt u (by decide))
  have hh : (UInt8.ofNat (u / 256)).toNat = u / 256 :=
    UInt8.toNat_ofNat_of_lt' (Nat.div_lt_of_lt_mul h)
  rw [unit, hl, hh]
  omega

theorem encode_cons (c : Char) (s : List Char) :
    encode (c :: s) = (units c).flatMap unitBytes ++ encode s := by
  simp only [encode, List.flatMap_cons, List.flatMap_append]

theorem decodeFrom_plain (position : Nat) (done : List Char) (a b : UInt8) (bytes : List UInt8)
    (hlow : isLow (unit a b) = false) (hhigh : isHigh (unit a b) = false) :
    decodeFrom position done (a :: b :: bytes) =
      decodeFrom (position + 2) (Char.ofNat (unit a b) :: done) bytes := by
  rw [decodeFrom.eq_def]
  simp only [hlow, hhigh, Bool.false_eq_true, if_false]

theorem decodeFrom_surrogates (position : Nat) (done : List Char) (a b c d : UInt8)
    (bytes : List UInt8) (hnot : isLow (unit a b) = false) (hhigh : isHigh (unit a b) = true)
    (hlow : isLow (unit c d) = true) :
    decodeFrom position done (a :: b :: c :: d :: bytes) =
      decodeFrom (position + 4) (pair (unit a b) (unit c d) :: done) bytes := by
  rw [decodeFrom.eq_def]
  simp only [hnot, hhigh, hlow, Bool.false_eq_true, if_false, if_true]

/-- A character of the basic plane takes one unit, which is no surrogate. -/
theorem decodeFrom_unit (position : Nat) (done : List Char) (c : Char) (bytes : List UInt8)
    (h : c.toNat < 0x10000) :
    decodeFrom position done ((units c).flatMap unitBytes ++ bytes) =
      decodeFrom (position + 2) (c :: done) bytes := by
  have hc := char_range c
  have hlow : isLow c.toNat = false := by
    simp only [isLow, Bool.and_eq_false_iff, decide_eq_false_iff_not]
    omega
  have hhigh : isHigh c.toNat = false := by
    simp only [isHigh, Bool.and_eq_false_iff, decide_eq_false_iff_not]
    omega
  have hu : units c = [c.toNat] := by simp only [units, if_pos h]
  have hb := unit_unitBytes c.toNat h
  rw [hu, List.flatMap_singleton, unitBytes, List.cons_append, List.cons_append, List.nil_append,
    decodeFrom_plain _ _ _ _ _ (by rw [hb, hlow]) (by rw [hb, hhigh]), hb, Char.ofNat_toNat]

/-- A character above the basic plane takes two units, and these make it up again. -/
theorem decodeFrom_pair (position : Nat) (done : List Char) (c : Char) (bytes : List UInt8)
    (h : 0x10000 ≤ c.toNat) :
    decodeFrom position done ((units c).flatMap unitBytes ++ bytes) =
      decodeFrom (position + 4) (c :: done) bytes := by
  have hc := char_range c
  obtain ⟨hi, hhi⟩ : ∃ hi, hi = 0xd800 + (c.toNat - 0x10000) / 0x400 := ⟨_, rfl⟩
  obtain ⟨lo, hlo⟩ : ∃ lo, lo = 0xdc00 + (c.toNat - 0x10000) % 0x400 := ⟨_, rfl⟩
  have hnot : isLow hi = false := by
    simp only [isLow, Bool.and_eq_false_iff, decide_eq_false_iff_not]
    omega
  have hhigh : isHigh hi = true := by
    simp only [isHigh, Bool.and_eq_true, decide_eq_true_eq]
    omega
  have hlow : isLow lo = true := by
    simp only [isLow, Bool.and_eq_true, decide_eq_true_eq]
    omega
  have hpair : pair hi lo = c := by
    have hn : 0x10000 + (hi - 0xd800) * 0x400 + (lo - 0xdc00) = c.toNat := by omega
    rw [pair, hn, Char.ofNat_toNat]
  have hu : units c = [hi, lo] := by
    simp only [units, if_neg (Nat.not_lt.mpr h), hhi, hlo]
  have hbh := unit_unitBytes hi (by omega)
  have hbl := unit_unitBytes lo (by omega)
  rw [hu, List.flatMap_cons, List.flatMap_singleton, unitBytes, unitBytes]
  simp only [List.cons_append, List.nil_append]
  rw [decodeFrom_surrogates _ _ _ _ _ _ _ (by rw [hbh, hnot]) (by rw [hbh, hhigh])
    (by rw [hbl, hlow]), hbh, hbl, hpair]

theorem decodeFrom_encode (position : Nat) (done s : List Char) :
    decodeFrom position done (encode s) = .ok (done.reverse ++ s) := by
  induction s generalizing position done with
  | nil => simp [encode, decodeFrom]
  | cons c s ih =>
    rw [encode_cons]
    by_cases h : c.toNat < 0x10000
    · rw [decodeFrom_unit position done c _ h, ih]
      simp
    · rw [decodeFrom_pair position done c _ (Nat.not_lt.mp h), ih]
      simp

theorem decode_encode (s : List Char) : decode (encode s) = .ok s := by
  simpa [decode] using decodeFrom_encode 0 [] s

end Stemcell.Text.Utf16
