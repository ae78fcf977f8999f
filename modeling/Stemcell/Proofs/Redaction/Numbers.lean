import Stemcell.Proofs.Redaction.Hiding

/-! Characters or their numbers. A text is masked alike by both: a secret with half of a pair of surrogates in it
is in no text of characters, and leaving it out changes nothing in the order of the others. -/
namespace Stemcell.Redaction

section
variable {α β : Type} [Letter α] [DecidableEq α] [Letter β] [DecidableEq β] {f : α → β}
  (hf : Function.Injective f) (hstar : f Letter.star = Letter.star)
include hf hstar

theorem maskFrom_map (secret : List α) (skip : Nat) (text : List α) :
    maskFrom (secret.map f) skip (text.map f) = (maskFrom secret skip text).map f := by
  induction text generalizing skip with
  | nil => rfl
  | cons c rest ih =>
    cases skip with
    | succ skip => exact ih skip
    | zero =>
      have hhere : (secret.map f).isPrefixOf (f c :: rest.map f) = secret.isPrefixOf (c :: rest) := by
        rw [Bool.eq_iff_iff, List.isPrefixOf_iff_prefix, List.isPrefixOf_iff_prefix, ← List.map_cons]
        exact List.prefix_map_iff_of_injective hf
      rw [List.map_cons, maskFrom, maskFrom, hhere, List.length_map]
      split
      · simp [ih, mask, hstar]
      · simp [ih]

theorem maskSecret_map (secret text : List α) :
    maskSecret (secret.map f) (text.map f) = (maskSecret secret text).map f :=
  maskFrom_map hf hstar secret 0 text

end

/-! The order of some of the secrets. -/

theorem length_le_trans {α : Type} (a b c : List α) (hab : decide (b.length ≤ a.length) = true)
    (hbc : decide (c.length ≤ b.length) = true) : decide (c.length ≤ a.length) = true := by
  simp only [decide_eq_true_eq] at hab hbc ⊢
  omega

theorem length_le_total {α : Type} (a b : List α) :
    (decide (b.length ≤ a.length) || decide (a.length ≤ b.length)) = true := by
  simp only [Bool.or_eq_true, decide_eq_true_eq]
  omega

/-- The first secret stands behind those of the others that are longer. -/
theorem longestFirst_cons {α : Type} (s : List α) (secrets : List (List α)) :
    ∃ front back, longestFirst (s :: secrets) = front ++ s :: back ∧ longestFirst secrets = front ++ back ∧
      (∀ t ∈ front, s.length < t.length) ∧ ∀ t ∈ back, t.length ≤ s.length := by
  obtain ⟨front, back, hall, hrest, hfront⟩ := List.mergeSort_cons length_le_trans length_le_total s secrets
  have hsorted := List.pairwise_mergeSort length_le_trans length_le_total (s :: secrets)
  rw [hall] at hsorted
  have hback := (List.pairwise_cons.mp (List.pairwise_append.mp hsorted).2.1).1
  refine ⟨front, back, hall, hrest, fun t ht => ?_, fun t ht => of_decide_eq_true (hback t ht)⟩
  simpa using hfront t ht

/-- A list has only one place for a secret between longer ones and others. -/
theorem place_unique {α : Type} {s : List α} {front back front' back' : List (List α)}
    (hall : front ++ back = front' ++ back') (hfront : ∀ t ∈ front, s.length < t.length)
    (hback : ∀ t ∈ back, t.length ≤ s.length) (hfront' : ∀ t ∈ front', s.length < t.length)
    (hback' : ∀ t ∈ back', t.length ≤ s.length) : front = front' ∧ back = back' := by
  have hlonger : ∀ {front back : List (List α)}, (∀ t ∈ front, s.length < t.length) →
      (∀ t ∈ back, t.length ≤ s.length) → (front ++ back).filter (s.length < ·.length) = front := by
    intro front back hfront hback
    rw [List.filter_append, List.filter_eq_self.mpr fun t ht => decide_eq_true (hfront t ht),
      List.filter_eq_nil_iff.mpr fun t ht => by simpa using hback t ht, List.append_nil]
  have hsame : front = front' := by
    rw [← hlonger hfront hback, hall, hlonger hfront' hback']
  subst hsame
  exact ⟨rfl, List.append_cancel_left hall⟩

/-- Leaving secrets out does not change the order of the others. -/
theorem filter_longestFirst {α : Type} (p : List α → Bool) (secrets : List (List α)) :
    (longestFirst secrets).filter p = longestFirst (secrets.filter p) := by
  induction secrets with
  | nil => simp [longestFirst]
  | cons s secrets ih =>
    obtain ⟨front, back, hall, hrest, hfront, hback⟩ := longestFirst_cons s secrets
    rw [hrest, List.filter_append] at ih
    rw [hall, List.filter_append]
    by_cases hp : p s = true
    · obtain ⟨front', back', hall', hrest', hfront', hback'⟩ := longestFirst_cons s (secrets.filter p)
      rw [hrest'] at ih
      obtain ⟨rfl, rfl⟩ := place_unique ih (fun t ht => hfront t (List.mem_filter.mp ht).1)
        (fun t ht => hback t (List.mem_filter.mp ht).1) hfront' hback'
      rw [List.filter_cons_of_pos hp, List.filter_cons_of_pos hp, hall']
    · rw [List.filter_cons_of_neg hp, List.filter_cons_of_neg hp, ih]

/-! Masking by numbers. -/

/-- Numbers that stand for characters, each on its own. -/
def arePlain (codes : List Nat) : Bool := codes.all fun u => !Text.Surrogate.isHalf u

theorem arePlain_toNat (text : List Char) : arePlain (text.map Char.toNat) = true := by
  simp [arePlain, Text.Surrogate.isHalf_toNat]

/-- A secret that is no text of characters is in none. -/
theorem not_infix_of_half {codes : List Nat} (h : arePlain codes = false) (text : List Char) :
    ¬ codes <:+: text.map Char.toNat := by
  intro hwithin
  have hplain : arePlain codes = true := List.all_eq_true.mpr fun u hu =>
    List.all_eq_true.mp (arePlain_toNat text) u (hwithin.subset hu)
  rw [h] at hplain
  cases hplain

theorem maskAll_numbers {secrets : List (List Nat)} {found : List (List Char)}
    (h : secrets.filter arePlain = found.map (List.map Char.toNat)) (text : List Char) :
    maskAll secrets (text.map Char.toNat) = (maskAll found text).map Char.toNat := by
  induction secrets generalizing found text with
  | nil =>
    obtain rfl := List.map_eq_nil_iff.mp h.symm
    rfl
  | cons codes secrets ih =>
    cases hplain : arePlain codes with
    | true =>
      rw [List.filter_cons_of_pos hplain] at h
      obtain ⟨secret, found, rfl, rfl, hrest⟩ := List.map_eq_cons_iff.mp h.symm
      have hfirst := maskSecret_map (fun _ _ h => Char.toNat_inj.mp h) rfl secret text
      exact (congrArg (maskAll secrets) hfirst).trans (ih hrest.symm _)
    | false =>
      rw [List.filter_cons_of_neg (by simp [hplain])] at h
      have hfirst := maskSecret_absent codes _ (not_infix_of_half hplain text)
      exact (congrArg (maskAll secrets) hfirst).trans (ih h text)

/-- The texts of characters among values, by their numbers. -/
theorem numbers_of_texts {values : List Value} {found : List (List Char)}
    (hragged : ∀ codes, .ragged codes ∈ values → arePlain codes = false) (h : texts values = .ok found) :
    ∃ all, numbers values = .ok all ∧ all.filter arePlain = found.map (List.map Char.toNat) := by
  induction values generalizing found with
  | nil =>
    cases h
    exact ⟨[], rfl, rfl⟩
  | cons value values ih =>
    have hbehind := fun codes hmem => hragged codes (List.mem_cons_of_mem value hmem)
    cases value with
    | text s =>
      cases hrest : texts values with
      | error f =>
        rw [texts, hrest] at h
        cases h
      | ok others =>
        rw [texts, hrest] at h
        cases h
        obtain ⟨all, hall, hplain⟩ := ih hbehind hrest
        refine ⟨s.toList.map Char.toNat :: all, by simp only [numbers, Value.codes?, hall]; rfl, ?_⟩
        rw [List.filter_cons_of_pos (arePlain_toNat _), hplain, List.map_cons]
    | ragged codes =>
      obtain ⟨all, hall, hplain⟩ := ih hbehind h
      refine ⟨codes :: all, by simp only [numbers, Value.codes?, hall]; rfl, ?_⟩
      rw [List.filter_cons_of_neg (by simp [hragged codes List.mem_cons_self]), hplain]
    | _ => cases h

/-- A text of characters is redacted alike by its characters and by their numbers. -/
theorem redact_by_numbers {secrets : List Value} (htexts : AreTexts secrets)
    (hragged : ∀ codes, .ragged codes ∈ secrets → arePlain codes = false) (s : String) :
    (Registry.redact secrets s).map (fun t => t.toList.map Char.toNat) =
      (numbers secrets).map fun all => maskAll (longestFirst all) (s.toList.map Char.toNat) := by
  obtain ⟨found, hfound, -⟩ := texts_ok htexts
  obtain ⟨all, hall, hplain⟩ := numbers_of_texts hragged hfound
  have horder : (longestFirst all).filter arePlain = (longestFirst found).map (List.map Char.toNat) := by
    rw [filter_longestFirst, hplain, longestFirst, longestFirst, List.map_mergeSort]
    simp
  rw [Registry.redact, hfound, hall]
  simp only [Except.map, String.toList_ofList, maskAll_numbers horder]

end Stemcell.Redaction
