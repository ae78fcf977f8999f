import Stemcell.Redaction

/-! What masking one secret after the other leaves of a text. A later secret may contain stars, so
it can match across a mask that an earlier one left, or across the border between a mask and the
text beside it; the marks remember which characters are still those of the text. -/
namespace Stemcell.Redaction

/-- A text in which `none` stands for a star of a mask and every other letter is copied. -/
abbrev Marks (α : Type) := List (Option α)

variable {α : Type}

section Marking

variable [Letter α]

def shown (marks : Marks α) : List α := marks.map fun m => m.getD Letter.star

theorem shown_copied (text : List α) : shown (text.map some) = text := by
  induction text with
  | nil => rfl
  | cons c text ih => exact congrArg (List.cons c) ih

variable [DecidableEq α]

/-- Masking on marks: what `maskFrom` does, and which characters of the result are its own. -/
def markFrom (secret : List α) (skip : Nat) : Marks α → Marks α
  | [] => []
  | m :: rest =>
    match skip with
    | skip + 1 => markFrom secret skip rest
    | 0 =>
      if secret.isPrefixOf (shown (m :: rest)) then
        List.replicate 3 none ++ markFrom secret (secret.length - 1) rest
      else m :: markFrom secret 0 rest

def markAll (secrets : List (List α)) (marks : Marks α) : Marks α :=
  secrets.foldl (fun marks secret => markFrom secret 0 marks) marks

theorem shown_markFrom (secret : List α) (skip : Nat) (marks : Marks α) :
    shown (markFrom secret skip marks) = maskFrom secret skip (shown marks) := by
  induction marks generalizing skip with
  | nil => rfl
  | cons m rest ih =>
    cases skip with
    | succ skip => exact ih skip
    | zero =>
      have hr : shown (m :: rest) = m.getD Letter.star :: shown rest := rfl
      rw [markFrom, hr, maskFrom]
      by_cases hp : secret.isPrefixOf (m.getD Letter.star :: shown rest) = true
      · have h := ih (secret.length - 1)
        simp only [if_pos hp, ← h]
        rfl
      · have h := ih 0
        simp only [if_neg hp, ← h]
        rfl

theorem shown_markAll (secrets : List (List α)) (marks : Marks α) :
    shown (markAll secrets marks) = maskAll secrets (shown marks) := by
  induction secrets generalizing marks with
  | nil => rfl
  | cons secret secrets ih =>
    have h := ih (markFrom secret 0 marks)
    rw [shown_markFrom] at h
    exact h

end Marking

/-! The marks of a text, where masks stand for stretches of it. -/

/-- The marks stand for the text: they copy it but for stretches with at least one character, and
for such a stretch they have at least three stars. -/
inductive Hides : List α → Marks α → Prop where
  | nil : Hides [] []
  | copied {text : List α} {marks : Marks α} (c : α) (h : Hides text marks) :
    Hides (c :: text) (some c :: marks)
  | hidden {text : List α} {marks : Marks α} (stretch : List α) (stars : Nat)
    (hs : stretch ≠ []) (hk : 3 ≤ stars) (h : Hides text marks) :
    Hides (stretch ++ text) (List.replicate stars none ++ marks)

/-- The marks stand for the text behind a mask that may go on for a while: it takes more of the
text and gets more stars. -/
def Continues (text : List α) (marks : Marks α) : Prop :=
  ∃ stretch rest stars marks', text = stretch ++ rest ∧
    marks = List.replicate stars none ++ marks' ∧ Hides rest marks'

theorem hides_copied (text : List α) : Hides text (text.map some) := by
  induction text with
  | nil => exact .nil
  | cons c text ih => exact .copied c ih

theorem Hides.continues {text : List α} {marks : Marks α} (h : Hides text marks) :
    Continues text marks := ⟨[], text, 0, marks, rfl, rfl, h⟩

theorem Continues.take {text : List α} {marks : Marks α} (stretch : List α)
    (h : Continues text marks) : Continues (stretch ++ text) marks := by
  obtain ⟨more, rest, stars, marks', rfl, rfl, hr⟩ := h
  exact ⟨stretch ++ more, rest, stars, marks', by rw [List.append_assoc], rfl, hr⟩

theorem Continues.stars {text : List α} {marks : Marks α} (stars : Nat)
    (h : Continues text marks) : Continues text (List.replicate stars none ++ marks) := by
  obtain ⟨stretch, rest, more, marks', rfl, rfl, hr⟩ := h
  refine ⟨stretch, rest, stars + more, marks', rfl, ?_, hr⟩
  rw [← List.append_assoc, List.replicate_append_replicate]

theorem Continues.closed {text : List α} {marks : Marks α} (stretch : List α) (stars : Nat)
    (hs : stretch ≠ []) (hk : 3 ≤ stars) (h : Continues text marks) :
    Hides (stretch ++ text) (List.replicate stars none ++ marks) := by
  obtain ⟨more, rest, others, marks', rfl, rfl, hr⟩ := h
  rw [← List.append_assoc, ← List.append_assoc, List.replicate_append_replicate]
  exact .hidden (stretch ++ more) (stars + others) (by simp [hs]) (by omega) hr

section Passes

variable [Letter α] [DecidableEq α]

/-- Masking within the stars of a mask that has been entered. -/
theorem continues_markFrom_stars (secret : List α) {text : List α} {marks : Marks α}
    (h : ∀ skip, Continues text (markFrom secret skip marks)) (stars skip : Nat) :
    Continues text (markFrom secret skip (List.replicate stars none ++ marks)) := by
  induction stars generalizing skip with
  | zero => exact h skip
  | succ stars ih =>
    rw [List.replicate_succ, List.cons_append]
    cases skip with
    | succ skip => exact ih skip
    | zero =>
      rw [markFrom]
      split
      · exact (ih _).stars 3
      · exact (ih 0).stars 1

/-- Masking from the first star of a mask on: until something matches the stars stay, and from the
first match on the mask goes on. -/
theorem hides_markFrom_stars (secret : List α) {text : List α} {marks : Marks α}
    (hc : ∀ skip, Continues text (markFrom secret skip marks))
    (hh : Hides text (markFrom secret 0 marks))
    (stretch : List α) (hs : stretch ≠ []) (passed left : Nat) (hk : 3 ≤ passed + left) :
    Hides (stretch ++ text) (List.replicate passed none
      ++ markFrom secret 0 (List.replicate left none ++ marks)) := by
  induction left generalizing passed with
  | zero => exact .hidden stretch passed hs (by omega) hh
  | succ left ih =>
    rw [List.replicate_succ, List.cons_append, markFrom]
    split
    · have hgo := continues_markFrom_stars secret hc left (secret.length - 1)
      rw [← List.append_assoc, List.replicate_append_replicate]
      exact hgo.closed stretch (passed + 3) hs (by omega)
    · have h := ih (passed + 1) (by omega)
      rwa [List.replicate_succ', List.append_assoc, List.singleton_append] at h

/-- One pass keeps the marks standing for the text, from outside of a mask and from inside. -/
theorem Hides.markFrom {text : List α} {marks : Marks α} (secret : List α)
    (h : Hides text marks) :
    Hides text (markFrom secret 0 marks) ∧
      ∀ skip, Continues text (Redaction.markFrom secret skip marks) := by
  induction h with
  | nil => exact ⟨.nil, fun _ => Hides.nil.continues⟩
  | @copied text marks c h ih =>
    have hclosed : Hides (c :: text) (Redaction.markFrom secret 0 (some c :: marks)) := by
      rw [Redaction.markFrom]
      split
      · exact (ih.2 _).closed [c] 3 (by simp) (by omega)
      · exact .copied c ih.1
    refine ⟨hclosed, fun skip => ?_⟩
    cases skip with
    | zero => exact hclosed.continues
    | succ skip => exact (ih.2 skip).take [c]
  | hidden stretch stars hs hk h ih =>
    refine ⟨hides_markFrom_stars secret ih.2 ih.1 stretch hs 0 stars (by omega), fun skip => ?_⟩
    exact (continues_markFrom_stars secret ih.2 stars skip).take stretch

theorem Hides.markAll {text : List α} {marks : Marks α} (secrets : List (List α))
    (h : Hides text marks) : Hides text (markAll secrets marks) := by
  induction secrets generalizing marks with
  | nil => exact h
  | cons secret secrets ih => exact ih (h.markFrom secret).1

/-! What is still copied after a pass was copied before it, and holds no occurrence of the secret. -/

theorem copied_of_beginning (secret : List α) (piece : List α) (marks : Marks α)
    (h : piece.map some <+: markFrom secret 0 marks) : piece.map some <+: marks := by
  induction marks generalizing piece with
  | nil => exact h
  | cons m rest ih =>
    cases piece with
    | nil => exact List.nil_prefix
    | cons c piece =>
      rw [markFrom] at h
      split at h
      · simp [List.replicate_succ] at h
      · rw [List.map_cons, List.cons_prefix_cons] at h ⊢
        exact ⟨h.1, ih piece h.2⟩

/-- A copied stretch starts where the pass looks for the secret. -/
theorem copied_start (secret : List α) (skip : Nat) (piece : List α) (marks : Marks α)
    (hp : piece ≠ []) (h : piece.map some <:+: markFrom secret skip marks) :
    ∃ rest, rest <:+ marks ∧ piece.map some <+: markFrom secret 0 rest := by
  induction marks generalizing skip with
  | nil => exact ⟨[], List.suffix_rfl, by simpa [markFrom] using h⟩
  | cons m rest ih =>
    have hstep : ∀ skip, piece.map some <:+: markFrom secret skip rest →
        ∃ t, t <:+ m :: rest ∧ piece.map some <+: markFrom secret 0 t := by
      intro skip hi
      obtain ⟨t, ht, hpt⟩ := ih skip hi
      exact ⟨t, ht.trans (List.suffix_cons m rest), hpt⟩
    cases skip with
    | succ skip => exact hstep skip h
    | zero =>
      by_cases hm : secret.isPrefixOf (shown (m :: rest)) = true
      · -- A copied character is no star, so the stretch lies behind the new mask.
        simp only [markFrom, if_pos hm, List.replicate_succ, List.replicate_zero, List.cons_append,
          List.nil_append] at h
        have hnone : ∀ marks : Marks α, piece.map some <:+: none :: marks →
            piece.map some <:+: marks := by
          intro marks hi
          rcases List.infix_cons_iff.mp hi with hpre | hin
          · cases piece with
            | nil => exact absurd rfl hp
            | cons c piece => simp at hpre
          · exact hin
        exact hstep _ (hnone _ (hnone _ (hnone _ h)))
      · have hm' : markFrom secret 0 (m :: rest) = m :: markFrom secret 0 rest := by
          simp only [markFrom, if_neg hm]
        rw [hm'] at h
        rcases List.infix_cons_iff.mp h with hpre | hin
        · exact ⟨m :: rest, List.suffix_rfl, by rw [hm']; exact hpre⟩
        · exact hstep 0 hin

theorem copied_before_pass (secret piece : List α) (marks : Marks α)
    (h : piece.map some <:+: markFrom secret 0 marks) : piece.map some <:+: marks := by
  by_cases hp : piece = []
  · subst hp
    exact List.nil_infix
  · obtain ⟨rest, hs, hpre⟩ := copied_start secret 0 piece marks hp h
    exact (copied_of_beginning secret piece rest hpre).isInfix.trans hs.isInfix

/-- Where the secret is copied it also stands in the text shown, so the pass masks it. -/
theorem secret_not_copied (secret : List α) (marks : Marks α) (hs : secret ≠ []) :
    ¬ secret.map some <:+: markFrom secret 0 marks := by
  intro h
  obtain ⟨rest, -, hpre⟩ := copied_start secret 0 secret marks hs h
  have hbefore := copied_of_beginning secret secret rest hpre
  cases rest with
  | nil => simp [hs] at hbefore
  | cons m rest =>
    have hshown : secret <+: shown (m :: rest) := by
      have hmap := hbefore.map (fun m => m.getD Letter.star)
      rwa [← shown, shown_copied] at hmap
    rw [markFrom, if_pos (List.isPrefixOf_iff_prefix.mpr hshown)] at hpre
    obtain ⟨c, secret, rfl⟩ := List.exists_cons_of_ne_nil hs
    simp [List.replicate_succ] at hpre

theorem copied_before_all (secrets : List (List α)) (piece : List α) (marks : Marks α)
    (h : piece.map some <:+: markAll secrets marks) : piece.map some <:+: marks := by
  induction secrets generalizing marks with
  | nil => exact h
  | cons secret secrets ih => exact copied_before_pass secret piece marks (ih _ h)

theorem secrets_not_copied (secrets : List (List α)) (marks : Marks α) (secret : List α)
    (hm : secret ∈ secrets) (hs : secret ≠ []) : ¬ secret.map some <:+: markAll secrets marks := by
  induction secrets generalizing marks with
  | nil => simp at hm
  | cons first secrets ih =>
    rcases List.mem_cons.mp hm with rfl | hm
    · intro h
      exact secret_not_copied secret marks hs (copied_before_all secrets secret _ h)
    · exact ih _ hm

end Passes

/-! The same in stretches: what is copied, what is masked behind it, and by how many stars. -/

structure Cut (α : Type) where
  copied : List α
  masked : List α
  stars : Nat

/-- The text that was cut, with what is copied behind the last cut. -/
def Cut.before (cuts : List (Cut α)) (last : List α) : List α :=
  (cuts.flatMap fun c => c.copied ++ c.masked) ++ last

def cutMarks (cuts : List (Cut α)) (last : List α) : Marks α :=
  (cuts.flatMap fun c => c.copied.map some ++ List.replicate c.stars none) ++ last.map some

theorem Hides.cuts {text : List α} {marks : Marks α} (h : Hides text marks) :
    ∃ cuts last, text = Cut.before cuts last ∧ marks = cutMarks cuts last ∧
      ∀ c ∈ cuts, c.masked ≠ [] ∧ 3 ≤ c.stars := by
  induction h with
  | nil => exact ⟨[], [], rfl, rfl, by simp⟩
  | copied a h ih =>
    obtain ⟨cuts, last, rfl, rfl, hc⟩ := ih
    cases cuts with
    | nil => exact ⟨[], a :: last, rfl, rfl, by simp⟩
    | cons c cuts =>
      obtain ⟨hc, hcuts⟩ := List.forall_mem_cons.mp hc
      refine ⟨⟨a :: c.copied, c.masked, c.stars⟩ :: cuts, last, ?_, ?_, ?_⟩
      · simp [Cut.before]
      · simp [cutMarks]
      · exact List.forall_mem_cons.mpr ⟨hc, hcuts⟩
  | hidden stretch stars hs hk h ih =>
    obtain ⟨cuts, last, rfl, rfl, hc⟩ := ih
    refine ⟨⟨[], stretch, stars⟩ :: cuts, last, ?_, ?_, ?_⟩
    · simp [Cut.before]
    · simp [cutMarks]
    · exact List.forall_mem_cons.mpr ⟨⟨hs, hk⟩, hc⟩

theorem cut_infix (cuts : List (Cut α)) (last : List α) :
    (∀ c ∈ cuts, c.copied.map some <:+: cutMarks cuts last) ∧ last.map some <:+: cutMarks cuts last := by
  refine ⟨fun c hc => ?_, ?_⟩
  · obtain ⟨front, back, rfl⟩ := List.append_of_mem hc
    simp only [cutMarks, List.flatMap_append, List.flatMap_cons, List.append_assoc]
    exact ⟨_, _, List.append_assoc _ _ _⟩
  · exact (List.suffix_append _ _).isInfix

variable [Letter α]

/-- What has become of the text. -/
def Cut.after (cuts : List (Cut α)) (last : List α) : List α :=
  (cuts.flatMap fun c => c.copied ++ List.replicate c.stars Letter.star) ++ last

/-- `out` is `text` with at least three stars for each of some stretches that are not empty, and no
secret is in what is copied. -/
def Covers (secret : List α → Prop) (text out : List α) : Prop :=
  ∃ cuts last, text = Cut.before cuts last ∧ out = Cut.after cuts last ∧
    (∀ c ∈ cuts, c.masked ≠ [] ∧ 3 ≤ c.stars) ∧
    ∀ s, secret s → (∀ c ∈ cuts, ¬ s <:+: c.copied) ∧ ¬ s <:+: last

theorem shown_cutMarks (cuts : List (Cut α)) (last : List α) :
    shown (cutMarks cuts last) = Cut.after cuts last := by
  induction cuts with
  | nil => exact shown_copied last
  | cons c cuts ih =>
    have hc := shown_copied c.copied
    simp only [shown, cutMarks, Cut.after] at ih hc ⊢
    simp only [List.flatMap_cons, List.append_assoc, List.map_append, List.map_replicate,
      Option.getD_none, hc] at ih ⊢
    rw [ih]

variable [DecidableEq α]

/-- Masking covers all secrets, in whatever order they come and whatever they have in common. -/
theorem maskAll_covers (secrets : List (List α)) (text : List α) :
    Covers (fun s => s ∈ secrets ∧ s ≠ []) text (maskAll secrets text) := by
  obtain ⟨cuts, last, htext, hmarks, hc⟩ := ((hides_copied text).markAll secrets).cuts
  refine ⟨cuts, last, htext, ?_, hc, ?_⟩
  · rw [← shown_cutMarks, ← hmarks, shown_markAll, shown_copied]
  · intro s ⟨hmem, hs⟩
    have hnot := secrets_not_copied secrets (text.map some) s hmem hs
    rw [hmarks] at hnot
    obtain ⟨hcuts, hlast⟩ := cut_infix cuts last
    exact ⟨fun c hc h => hnot ((h.map some).trans (hcuts c hc)),
      fun h => hnot ((h.map some).trans hlast)⟩

example : maskAll ["abcdef".toList, "y***".toList] "xyabcdef!".toList = "x***!".toList := by
  decide +kernel

theorem maskSecret_absent (secret text : List α) (h : ¬ secret <:+: text) :
    maskSecret secret text = text := by
  induction text with
  | nil => rfl
  | cons c rest ih =>
    have hp : ¬ secret.isPrefixOf (c :: rest) = true :=
      fun hp => h (List.isPrefixOf_iff_prefix.mp hp).isInfix
    have hr : ¬ secret <:+: rest := fun hr => h (hr.trans (List.suffix_cons c rest).isInfix)
    have hrest := ih hr
    rw [maskSecret] at hrest ⊢
    simp only [maskFrom, if_neg hp, hrest]

theorem maskAll_absent (secrets : List (List α)) (text : List α)
    (h : ∀ s ∈ secrets, ¬ s <:+: text) : maskAll secrets text = text := by
  induction secrets with
  | nil => rfl
  | cons secret secrets ih =>
    obtain ⟨hs, hrest⟩ := List.forall_mem_cons.mp h
    have hall := ih hrest
    rw [maskAll] at hall ⊢
    rw [List.foldl_cons, maskSecret_absent secret text hs, hall]

end Stemcell.Redaction
