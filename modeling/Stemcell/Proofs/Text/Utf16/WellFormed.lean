import Stemcell.Proofs.Text.Utf16

/-! The sequences of bytes that are read as text: those of units in which every high surrogate is
directly followed by a low one and no other low surrogate occurs. Each stands for one text, whose
bytes they are. -/
namespace Stemcell.Text.Utf16
open Surrogate (isHigh isLow isHalf pair isHigh_iff isLow_iff isHalf_eq_false isHalf_toNat)

inductive WellPaired : List Nat → Prop
  | nil : WellPaired []
  | plain {u : Nat} {us : List Nat} (h : isHalf u = false) (hus : WellPaired us) : WellPaired (u :: us)
  | pair {high low : Nat} {us : List Nat} (hhigh : isHigh high = true) (hlow : isLow low = true)
    (hus : WellPaired us) : WellPaired (high :: low :: us)

/-- Bytes of well-paired units, the low byte of each unit first. -/
def WellFormed (bytes : List UInt8) : Prop :=
  ∃ us : List Nat, (∀ u ∈ us, u < 0x10000) ∧ bytes = us.flatMap unitBytes ∧ WellPaired us

theorem toNat_ofNat_of_valid {n : Nat} (h : n.isValidChar) : (Char.ofNat n).toNat = n := by
  rw [Char.ofNat, dif_pos h]
  rfl

theorem unitBytes_unit (a b : UInt8) : unitBytes (unit a b) = [a, b] := by
  have ha := a.toNat_lt
  have hlow : (b.toNat * 256 + a.toNat) % 256 = a.toNat := by omega
  have hhigh : (b.toNat * 256 + a.toNat) / 256 = b.toNat := by omega
  rw [unitBytes, unit, hlow, hhigh, UInt8.ofNat_toNat, UInt8.ofNat_toNat]

theorem unit_lt (a b : UInt8) : unit a b < 0x10000 := by
  have ha := a.toNat_lt
  have hb := b.toNat_lt
  rw [unit]
  omega

theorem units_plain {u : Nat} (hu : u < 0x10000) (h : isHalf u = false) : units (Char.ofNat u) = [u] := by
  have hvalid : u.isValidChar := by
    have hrange := isHalf_eq_false.mp h
    unfold Nat.isValidChar
    omega
  rw [units, toNat_ofNat_of_valid hvalid]
  exact if_pos hu

theorem units_pair {high low : Nat} (hhigh : isHigh high = true) (hlow : isLow low = true) :
    units (pair high low) = [high, low] := by
  have hh := isHigh_iff.mp hhigh
  have hl := isLow_iff.mp hlow
  have hvalid : (0x10000 + (high - 0xd800) * 0x400 + (low - 0xdc00)).isValidChar := by
    unfold Nat.isValidChar
    omega
  have hfirst : 0xd800 + (0x10000 + (high - 0xd800) * 0x400 + (low - 0xdc00) - 0x10000) / 0x400 = high := by
    omega
  have hsecond : 0xdc00 + (0x10000 + (high - 0xd800) * 0x400 + (low - 0xdc00) - 0x10000) % 0x400 = low := by
    omega
  have habove : ¬0x10000 + (high - 0xd800) * 0x400 + (low - 0xdc00) < 0x10000 := by omega
  simp only [units, pair, toNat_ofNat_of_valid hvalid, habove, if_false, hfirst, hsecond]

/-- The units of a text, one character after the other. -/
theorem units_wellPaired (s : List Char) :
    (∀ u ∈ s.flatMap units, u < 0x10000) ∧ WellPaired (s.flatMap units) := by
  induction s with
  | nil => exact ⟨by simp, .nil⟩
  | cons c s ih =>
    have hc := char_range c
    rw [List.flatMap_cons]
    by_cases hbasic : c.toNat < 0x10000
    · have hu : units c = [c.toNat] := by simp only [units, if_pos hbasic]
      rw [hu, List.singleton_append]
      exact ⟨List.forall_mem_cons.mpr ⟨hbasic, ih.1⟩, .plain (isHalf_toNat c) ih.2⟩
    · obtain ⟨high, hhigh⟩ : ∃ high, high = 0xd800 + (c.toNat - 0x10000) / 0x400 := ⟨_, rfl⟩
      obtain ⟨low, hlow⟩ : ∃ low, low = 0xdc00 + (c.toNat - 0x10000) % 0x400 := ⟨_, rfl⟩
      have hu : units c = [high, low] := by simp only [units, if_neg hbasic, hhigh, hlow]
      have hfirst : isHigh high = true := isHigh_iff.mpr (by omega)
      have hsecond : isLow low = true := isLow_iff.mpr (by omega)
      rw [hu, List.cons_append, List.singleton_append]
      refine ⟨List.forall_mem_cons.mpr ⟨by omega, List.forall_mem_cons.mpr ⟨by omega, ih.1⟩⟩, ?_⟩
      exact .pair hfirst hsecond ih.2

theorem exists_text {us : List Nat} (hus : ∀ u ∈ us, u < 0x10000) (h : WellPaired us) :
    ∃ s : List Char, s.flatMap units = us := by
  induction h with
  | nil => exact ⟨[], rfl⟩
  | @plain u us hplain _ ih =>
    obtain ⟨hu, hrest⟩ := List.forall_mem_cons.mp hus
    obtain ⟨s, rfl⟩ := ih hrest
    refine ⟨Char.ofNat u :: s, ?_⟩
    rw [List.flatMap_cons, units_plain hu hplain, List.singleton_append]
  | @pair high low us hhigh hlow _ ih =>
    obtain ⟨-, hrest⟩ := List.forall_mem_cons.mp hus
    obtain ⟨s, rfl⟩ := ih (List.forall_mem_cons.mp hrest).2
    refine ⟨pair high low :: s, ?_⟩
    rw [List.flatMap_cons, units_pair hhigh hlow]
    rfl

/-- What has been read is written as the bytes that it was read from. -/
theorem encode_of_decodeFrom {position : Nat} {done s : List Char} {bytes : List UInt8}
    (h : decodeFrom position done bytes = .ok s) :
    ∃ text, s = done.reverse ++ text ∧ encode text = bytes := by
  fun_induction decodeFrom position done bytes with
  | case1 position done =>
    cases h
    exact ⟨[], by simp, rfl⟩
  | case2 => cases h
  | case3 => cases h
  | case4 position done a b first hnot hhigh c d rest hlow ih =>
    obtain ⟨text, rfl, rfl⟩ := ih h
    refine ⟨pair first (unit c d) :: text, by simp, ?_⟩
    rw [encode_cons, units_pair hhigh hlow, List.flatMap_cons, List.flatMap_singleton,
      unitBytes_unit, unitBytes_unit]
    rfl
  | case5 => cases h
  | case6 => cases h
  | case7 position done a b rest first hnot hnothigh ih =>
    obtain ⟨text, rfl, rfl⟩ := ih h
    have hplain : isHalf first = false := by
      simp only [isHalf, Bool.or_eq_false_iff]
      exact ⟨eq_false_of_ne_true hnothigh, eq_false_of_ne_true hnot⟩
    refine ⟨Char.ofNat first :: text, by simp, ?_⟩
    rw [encode_cons, units_plain (unit_lt a b) hplain, List.flatMap_singleton, unitBytes_unit]
    rfl

theorem decode_eq_ok {bytes : List UInt8} {s : List Char} : decode bytes = .ok s ↔ encode s = bytes := by
  constructor
  · intro h
    obtain ⟨text, rfl, hbytes⟩ := encode_of_decodeFrom h
    simpa using hbytes
  · rintro rfl
    exact decode_encode s

/-- Bytes are read exactly if they are well-formed. -/
theorem exists_decode_iff (bytes : List UInt8) : (∃ s, decode bytes = .ok s) ↔ WellFormed bytes := by
  constructor
  · rintro ⟨s, h⟩
    obtain ⟨hlt, hpaired⟩ := units_wellPaired s
    exact ⟨s.flatMap units, hlt, (decode_eq_ok.mp h).symm, hpaired⟩
  · rintro ⟨us, hlt, rfl, hpaired⟩
    obtain ⟨s, rfl⟩ := exists_text hlt hpaired
    exact ⟨s, decode_eq_ok.mpr rfl⟩

end Stemcell.Text.Utf16
