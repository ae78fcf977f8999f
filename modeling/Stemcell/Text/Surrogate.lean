/-!
Surrogates: the numbers from 0xD800 to 0xDFFF. A high and a low one together stand for a character above U+FFFF;
alone none stands for a character, but a text that is written with escapes can hold one all the same.
-/
namespace Stemcell.Text.Surrogate

/-- Whether a number is the first of a pair. -/
def isHigh (u : Nat) : Bool := 0xd800 ≤ u && u < 0xdc00

/-- Whether a number is the second of a pair. -/
def isLow (u : Nat) : Bool := 0xdc00 ≤ u && u < 0xe000

def isHalf (u : Nat) : Bool := isHigh u || isLow u

theorem isHigh_iff {u : Nat} : isHigh u = true ↔ 0xd800 ≤ u ∧ u < 0xdc00 := by
  simp only [isHigh, Bool.and_eq_true, decide_eq_true_eq]

theorem isLow_iff {u : Nat} : isLow u = true ↔ 0xdc00 ≤ u ∧ u < 0xe000 := by
  simp only [isLow, Bool.and_eq_true, decide_eq_true_eq]

theorem isHalf_eq_false {u : Nat} : isHalf u = false ↔ u < 0xd800 ∨ 0xe000 ≤ u := by
  have hhalf : isHalf u = true ↔ isHigh u = true ∨ isLow u = true := by
    simp only [isHalf, Bool.or_eq_true]
  rw [← Bool.not_eq_true, hhalf, isHigh_iff, isLow_iff]
  omega

/-- A character is no half of a pair. -/
theorem isHalf_toNat (c : Char) : isHalf c.toNat = false := by
  have hrange : c.toNat < 0xd800 ∨ (0xdfff < c.toNat ∧ c.toNat < 0x110000) := c.valid
  exact isHalf_eq_false.mpr (by omega)

def pair (high low : Nat) : Char := Char.ofNat (0x10000 + (high - 0xd800) * 0x400 + (low - 0xdc00))

/-- Numbers as characters: two halves of a pair are joined, and a half without its partner becomes U+FFFD. -/
def joined : List Nat → List Char
  | [] => []
  | [u] => [if isHalf u then '\ufffd' else Char.ofNat u]
  | u :: v :: rest =>
    if isHigh u && isLow v then pair u v :: joined rest
    else (if isHalf u then '\ufffd' else Char.ofNat u) :: joined (v :: rest)

/-- Where no half is, every number is a character of its own. -/
theorem joined_eq_map {codes : List Nat} (h : ∀ u ∈ codes, isHalf u = false) :
    joined codes = codes.map Char.ofNat := by
  fun_induction joined codes with
  | case1 => rfl
  | case2 u => simp [h u (by simp)]
  | case3 u v rest pairs => simp_all [isHalf]
  | case4 u v rest _ ih =>
    rw [ih fun w hw => h w (by simp_all)]
    simp [h u (by simp)]

/-- The numbers of characters stand for these characters. -/
theorem joined_toNat (text : List Char) : joined (text.map Char.toNat) = text := by
  have hplain : ∀ u ∈ text.map Char.toNat, isHalf u = false := by
    intro u hu
    obtain ⟨c, -, rfl⟩ := List.mem_map.mp hu
    exact isHalf_toNat c
  rw [joined_eq_map hplain, List.map_map]
  exact (List.map_congr_left fun c _ => Char.ofNat_toNat c).trans (List.map_id text)

example : joined [0x61, 0xd83d, 0xde00, 0xd800] = ['a', '😀', '\ufffd'] := by decide +kernel

end Stemcell.Text.Surrogate
