import Stemcell.Proofs.Log.Placeholder

/-! What placeholders write. A value that is no number can be replaced by another one without a placeholder
taking offence, unless it is a single character. -/
namespace Stemcell.Log.Template

/-- Neither value is a number, and what a placeholder takes of the first one it takes of the second one. -/
structure Replaces (v v' : Value) : Prop where
  number : v.number? = none
  number' : v'.number? = none
  writable : v.isWritable = true → v'.isWritable = true
  character : ∀ c, toCharacter v = .ok c → v' = v

/-- The same value, or one that can take its place. -/
def Alike (v v' : Value) : Prop := v' = v ∨ Replaces v v'

theorem counts_alike : Counts Alike := by
  rintro v v' (rfl | h)
  · rfl
  · rw [h.number, h.number']

theorem Alike.writable {v v' : Value} (h : Alike v v') (hv : v.isWritable = true) : v'.isWritable = true := by
  rcases h with rfl | h
  · exact hv
  · exact h.writable hv

theorem Replaces.no_number {v v' : Value} (h : Replaces v v') (c : Char) :
    (∃ f, toDecimal c v = .error f) ∧ (∃ f, toWhole c v = .error f) ∧ ∃ f, toFloat v = .error f := by
  simp only [toDecimal, toWhole, toFloat, h.number]
  exact ⟨⟨_, rfl⟩, ⟨_, rfl⟩, ⟨_, rfl⟩⟩

/-- The place of a placeholder only matters where it is of a kind that does not exist. -/
theorem written_place {v : Value} {p : Placeholder} {c : Char} {place : Nat} {s : List Char}
    (h : written p c place v = .ok s) (place' : Nat) : written p c place' v = .ok s := by
  unfold written at h ⊢
  grind

theorem written_alike {v v' : Value} {p : Placeholder} {c : Char} {place : Nat} {s : List Char}
    (h : Alike v v') (hv : written p c place v = .ok s) (place' : Nat) :
    ∃ t, written p c place' v' = .ok t := by
  rcases h with rfl | h
  · exact ⟨s, written_place hv place'⟩
  have htext : ∀ {shown shown' : String}, textOf p v shown = .ok s → ∃ t, textOf p v' shown' = .ok t := by
    intro shown shown' hshown
    unfold textOf at hshown ⊢
    by_cases hwritable : v.isWritable = true
    · exact ⟨_, if_pos (h.writable hwritable)⟩
    · rw [if_neg hwritable] at hshown
      cases hshown
  obtain ⟨⟨_, hdecimal⟩, ⟨_, hwhole⟩, ⟨_, hfloat⟩⟩ := h.no_number c
  unfold written at hv ⊢
  by_cases hs : c = 's'
  · rw [if_pos hs] at hv ⊢
    exact htext hv
  rw [if_neg hs] at hv ⊢
  by_cases hr : c = 'r'
  · rw [if_pos hr] at hv ⊢
    exact htext hv
  rw [if_neg hr] at hv ⊢
  by_cases ha : c = 'a'
  · rw [if_pos ha] at hv ⊢
    exact htext hv
  rw [if_neg ha] at hv ⊢
  -- Numbers are not among these values, so of the kinds that are left only the one for characters fits.
  rw [hdecimal, hwhole, hfloat] at hv
  split at hv
  · cases hv
  split at hv
  · cases hv
  split at hv
  · cases hv
  split at hv
  · next hd hw hf hc =>
    rw [if_neg hd, if_neg hw, if_neg hf, if_pos hc]
    cases hcharacter : toCharacter v with
    | error f =>
      rw [hcharacter] at hv
      cases hv
    | ok ch =>
      rw [h.character ch hcharacter, hcharacter]
      exact ⟨_, rfl⟩
  · cases hv

theorem alike_mapping {entries entries' : List (Value × Value)}
    (h : List.Forall₂ (RelatedEntry Alike) entries entries') : Alike (.mapping entries) (.mapping entries') := by
  refine .inr ⟨rfl, rfl, ?_, ?_⟩
  · simp only [Value.isWritable]
    induction h with
    | nil => exact id
    | @cons e e' entries entries' he _ ih =>
      obtain ⟨hkey, hvalue⟩ := he
      simp only [Value.areWritableEntries, Bool.and_eq_true, hkey]
      rintro ⟨⟨hfirst, hsecond⟩, hrest⟩
      exact ⟨⟨hfirst, hvalue.writable hsecond⟩, ih hrest⟩
  · intro c hc
    cases hc

theorem single_of_character {v : Value} {c : Char} (hnumber : v.number? = none) (h : toCharacter v = .ok c) :
    ∃ u, v.codes? = some [u] := by
  unfold toCharacter at h
  rw [hnumber] at h
  split at h
  · next u hcodes => exact ⟨u, hcodes⟩
  · next hsome _ => cases hsome
  · cases h

theorem alike_text {s t : String} (h : s.toList.length = 1 → t = s) : Alike (.text s) (.text t) := by
  refine .inr ⟨rfl, rfl, fun _ => rfl, fun c hc => ?_⟩
  obtain ⟨u, hu⟩ := single_of_character rfl hc
  rw [h (by simpa using congrArg List.length (Option.some.inj hu))]

theorem alike_ragged {codes codes' : List Nat} (h : codes.length = 1 → codes' = codes) :
    Alike (.ragged codes) (.ragged codes') := by
  refine .inr ⟨rfl, rfl, fun _ => rfl, fun c hc => ?_⟩
  obtain ⟨u, hu⟩ := single_of_character rfl hc
  rw [h (congrArg List.length (Option.some.inj hu))]

/-- A text in its field is cut, and blanks stand around it. -/
theorem textIn_eq (p : Placeholder) (s : List Char) :
    ∃ front n back, textIn p s = List.replicate front ' ' ++ s.take n ++ List.replicate back ' ' := by
  obtain ⟨n, hcut⟩ : ∃ n, textIn p s = placed p [] [] (s.take n) false := by
    unfold textIn
    cases p.precision with
    | some n => exact ⟨n, rfl⟩
    | none => exact ⟨s.length, by rw [List.take_length]⟩
  rw [hcut, placed]
  by_cases hleft : p.leftAligned = true
  · exact ⟨0, n, _, by simp [hleft]; rfl⟩
  · exact ⟨_, n, 0, by simp [hleft]; rfl⟩

end Stemcell.Log.Template
