import Stemcell.Proofs.Redaction.Session

/-! A secret without a star does not survive masking: it could only stand across a mask, and every mask has a
star. -/
namespace Stemcell.Redaction

/-! Masked texts. -/

section
variable {α : Type} {a : α} {s u v : List α}

theorem infix_beside (hne : s ≠ []) (ha : a ∉ s) (h : s <:+: u ++ a :: v) : s <:+: u ∨ s <:+: v := by
  -- No part of `s` can begin with `a`, so none but the empty one reaches into what begins there.
  have hstart : ∀ t : List α, t ⊆ s → t <+: a :: v → t = [] := by
    intro t hts ht
    rcases List.prefix_cons_iff.mp ht with rfl | ⟨rest, rfl, -⟩
    · rfl
    · exact absurd (hts List.mem_cons_self) ha
  rcases List.infix_append_iff.mp h with h | h | ⟨front, back, rfl, hfront, hback⟩
  · exact .inl h
  · rcases List.infix_cons_iff.mp h with h | h
    · exact absurd (hstart s (List.Subset.refl s) h) hne
    · exact .inr h
  · rw [hstart back (List.subset_append_right front back) hback, List.append_nil]
    exact .inl hfront.isInfix

theorem infix_beside_run (hne : s ≠ []) (ha : a ∉ s) (count : Nat) (u : List α)
    (h : s <:+: u ++ a :: (List.replicate count a ++ v)) : s <:+: u ∨ s <:+: v := by
  -- Behind the first `a` the next one has nothing in front of it: `u` changes.
  induction count generalizing u with
  | zero => exact infix_beside hne ha h
  | succ count ih =>
    rcases infix_beside hne ha h with h | h
    · exact .inl h
    · rw [List.replicate_succ, List.cons_append, ← List.nil_append (a :: _)] at h
      rcases ih [] h with h | h
      · exact absurd (List.infix_nil.mp h) hne
      · exact .inr h

theorem infix_padded {front back : Nat} (hne : s ≠ []) (ha : a ∉ s)
    (h : s <:+: List.replicate front a ++ u ++ List.replicate back a) : s <:+: u := by
  have hfront : s <:+: List.replicate front a ++ u → s <:+: u := by
    cases front with
    | zero => exact id
    | succ front =>
      intro h
      rw [List.replicate_succ, List.cons_append, ← List.nil_append (a :: _)] at h
      rcases infix_beside_run hne ha front [] h with h | h
      · exact absurd (List.infix_nil.mp h) hne
      · exact h
  cases back with
  | zero => exact hfront (by simpa using h)
  | succ back =>
    rw [List.replicate_succ, ← List.append_nil (List.replicate back a)] at h
    rcases infix_beside_run hne ha back _ h with h | h
    · exact hfront h
    · exact absurd (List.infix_nil.mp h) hne

end

section

variable {α : Type} [Letter α]

theorem not_infix_after {s : List α} (hne : s ≠ []) (hstar : Letter.star ∉ s) (cuts : List (Cut α))
    (last : List α) (hstars : ∀ c ∈ cuts, c.masked ≠ [] ∧ 3 ≤ c.stars)
    (hcuts : ∀ c ∈ cuts, ¬ s <:+: c.copied) (hlast : ¬ s <:+: last) : ¬ s <:+: Cut.after cuts last := by
  induction cuts with
  | nil => exact hlast
  | cons c cuts ih =>
    obtain ⟨⟨-, hthree⟩, hstars⟩ := List.forall_mem_cons.mp hstars
    obtain ⟨hcopied, hcuts⟩ := List.forall_mem_cons.mp hcuts
    intro h
    obtain ⟨stars, hcount⟩ : ∃ stars, c.stars = stars + 1 := ⟨c.stars - 1, by omega⟩
    have hafter : Cut.after (c :: cuts) last =
        c.copied ++ Letter.star :: (List.replicate stars Letter.star ++ Cut.after cuts last) := by
      simp only [Cut.after, List.flatMap_cons, hcount, List.replicate_succ, List.append_assoc,
        List.cons_append]
    rw [hafter] at h
    rcases infix_beside_run hne hstar stars c.copied h with h | h
    · exact hcopied h
    · exact ih hstars hcuts h

theorem Covers.hides {secret : List α → Prop} {text out s : List α} (h : Covers secret text out)
    (hs : secret s) (hne : s ≠ []) (hstar : Letter.star ∉ s) : ¬ s <:+: out := by
  obtain ⟨cuts, last, -, hout, hstars, hnone⟩ := h
  obtain ⟨hcuts, hlast⟩ := hnone s hs
  rw [hout]
  exact not_infix_after hne hstar cuts last hstars hcuts hlast

variable [DecidableEq α]

theorem maskAll_hides {secrets : List (List α)} {s : List α} (hmem : s ∈ secrets) (hne : s ≠ [])
    (hstar : Letter.star ∉ s) (text : List α) : ¬ s <:+: maskAll secrets text :=
  (maskAll_covers secrets text).hides ⟨hmem, hne⟩ hne hstar

end

/-! What a registry of texts makes of a text. -/

/-- A text as it is shown by a registry, with all secrets collected afresh. -/
def shownText (env : Environment) (r : Registry) (s : String) : String :=
  match r.collect env with
  | .ok secrets => (Registry.redact secrets s).toOption.getD s
  | .error _ => s

namespace Registry

variable {env : Environment} {r : Registry}

theorem SameValues.shownText {r' : Registry} (h : r.SameValues r') (env : Environment) (s : String) :
    shownText env r s = shownText env r' s := by
  rw [Redaction.shownText, Redaction.shownText, h.collect env]

theorem redact_nothing (s : String) : redact [] s = .ok s := by
  simp [redact, texts, Except.map, maskAll, longestFirst, String.ofList_toList]

/-- A text is shown, with all secrets masked. -/
theorem Coherent.redactRecord (h : r.Coherent env) (level : Log.Level) (channel : Log.Channel) (s : String) :
    (r.secrets env).bind (fun secrets => redactRecord secrets ⟨level, channel, .text s, .none⟩) =
      .ok ⟨level, channel, .text (shownText env r s), .none⟩ := by
  obtain ⟨secrets, hsecrets, -, hmem⟩ := collect_ok env h.texts
  obtain ⟨found, hfound, -⟩ := texts_ok fun v hv => ((hmem v).mp hv).1.kind
  rw [h.secrets, shownText, hsecrets]
  cases secrets with
  | nil =>
    simp only [redact_nothing]
    rfl
  | cons secret secrets =>
    simp only [Except.bind, Registry.redactRecord, List.isEmpty_cons, Value.written_text, redact, hfound]
    rfl

/-- A secret without a star is in no text that is shown. -/
theorem not_infix_shownText (h : AreTexts r.registered) {secret : String} (hlength : minimumLength ≤ secret.length)
    (hsource : .text secret ∈ r.registered ∨ ∃ name ∈ secretVariables, env.get? name = some (.text secret))
    (hstar : '*' ∉ secret.toList) (s : String) :
    ¬ secret.toList <:+: (shownText env r s).toList := by
  obtain ⟨secrets, hsecrets, -, hmem⟩ := collect_ok env h
  obtain ⟨found, hfound, hlist, -⟩ := texts_ok fun v hv => ((hmem v).mp hv).1.kind
  have hne : secret.toList ≠ [] := by
    simpa using not_empty_of_long hlength
  rw [shownText, hsecrets]
  simp only [redact, hfound, Except.map, Except.toOption, Option.getD_some, String.toList_ofList]
  refine maskAll_hides (List.mem_mergeSort.mpr ?_) hne hstar s.toList
  rw [hlist, String.ofList_toList, hmem]
  exact ⟨isLong_text.mpr hlength, hsource⟩

end Registry

end Stemcell.Redaction
