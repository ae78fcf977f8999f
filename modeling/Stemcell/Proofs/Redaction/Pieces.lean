import Stemcell.Proofs.Redaction.Hiding

/-! Masking seen from the pieces that a secret cuts a text into. Where no secret has a star, what
masks stand for was in the text before any of them was put there: the other secrets are looked for
in each piece on its own, and masking a second time finds nothing. -/
namespace Stemcell.Redaction

/-! One pass, at the places where it looks for the secret. -/

theorem maskFrom_drop (secret : List Char) (skip : Nat) (text : List Char) :
    maskFrom secret skip text = maskSecret secret (text.drop skip) := by
  induction text generalizing skip with
  | nil => cases skip <;> rfl
  | cons c rest ih =>
    cases skip with
    | zero => rfl
    | succ skip => exact ih skip

theorem maskSecret_other {secret rest : List Char} {c : Char} (h : ¬ secret <+: c :: rest) :
    maskSecret secret (c :: rest) = c :: maskSecret secret rest := by
  rw [maskSecret, maskFrom, if_neg fun hp => h (List.isPrefixOf_iff_prefix.mp hp)]
  rfl

theorem maskSecret_found {secret : List Char} (hne : secret ≠ []) (rest : List Char) :
    maskSecret secret (secret ++ rest) = mask ++ maskSecret secret rest := by
  obtain ⟨c, more, rfl⟩ := List.exists_cons_of_ne_nil hne
  have hhere : (c :: more).isPrefixOf (c :: (more ++ rest)) = true :=
    List.isPrefixOf_iff_prefix.mpr (List.prefix_append (c :: more) rest)
  rw [List.cons_append, maskSecret, maskFrom, if_pos hhere, maskFrom_drop]
  simp

/-- Going through a text as a pass does: past an occurrence, or past a character where none is. -/
theorem pass_induction {secret : List Char} (hne : secret ≠ []) {motive : List Char → Prop}
    (nil : motive []) (found : ∀ rest, motive rest → motive (secret ++ rest))
    (other : ∀ c rest, ¬ secret <+: c :: rest → motive rest → motive (c :: rest))
    (text : List Char) : motive text := by
  have hpos : 0 < secret.length := List.length_pos_iff.mpr hne
  induction hsize : text.length using Nat.strongRecOn generalizing text with
  | _ size ih =>
    cases text with
    | nil => exact nil
    | cons c rest =>
      by_cases hhere : secret <+: c :: rest
      · obtain ⟨behind, hbehind⟩ := hhere
        rw [← hbehind, List.length_append] at hsize
        rw [← hbehind]
        exact found behind (ih behind.length (by omega) behind rfl)
      · rw [List.length_cons] at hsize
        exact other c rest hhere (ih rest.length (by omega) rest rfl)

/-! The pieces of a text. -/

/-- The pieces that the occurrences of a word leave of a text, found from the left: no occurrence
starts before the one behind a piece, and the next one is looked for behind it. -/
inductive Split (word : List Char) : List Char → List (List Char) → Prop where
  | last {text : List Char} (h : ¬ word <:+: text) : Split word text [text]
  | cut (piece : List Char) {rest : List Char} {pieces : List (List Char)}
    (hfirst : ∀ front back, piece ++ (word ++ rest) = front ++ (word ++ back) → piece.length ≤ front.length)
    (h : Split word rest pieces) : Split word (piece ++ (word ++ rest)) (piece :: pieces)

theorem Split.pieces_ne_nil {word text : List Char} {pieces : List (List Char)}
    (h : Split word text pieces) : pieces ≠ [] := by
  cases h <;> simp

theorem split_behind_character {word text : List Char} {c : Char} {pieces : List (List Char)}
    (hother : ¬ word <+: c :: text) (h : Split word text pieces) :
    ∃ pieces, Split word (c :: text) pieces := by
  cases h with
  | last h =>
    refine ⟨[c :: text], .last fun hin => ?_⟩
    rcases List.infix_cons_iff.mp hin with hpre | hin
    · exact hother hpre
    · exact h hin
  | @cut piece rest pieces hfirst h =>
    refine ⟨(c :: piece) :: pieces, Split.cut (c :: piece) (fun front back heq => ?_) h⟩
    cases front with
    | nil => exact absurd ⟨back, heq.symm⟩ hother
    | cons d front =>
      rw [List.cons_append, List.cons_append, List.cons.injEq] at heq
      have hlength := hfirst front back heq.2
      simp only [List.length_cons]
      omega

theorem exists_split {word : List Char} (hne : word ≠ []) (text : List Char) :
    ∃ pieces, Split word text pieces := by
  induction text using pass_induction hne with
  | nil => exact ⟨[[]], .last fun h => hne (List.infix_nil.mp h)⟩
  | found rest ih =>
    obtain ⟨pieces, hpieces⟩ := ih
    exact ⟨[] :: pieces, Split.cut [] (fun _ _ _ => Nat.zero_le _) hpieces⟩
  | other c rest hother ih =>
    obtain ⟨pieces, hpieces⟩ := ih
    exact split_behind_character hother hpieces

theorem maskSecret_first {secret piece rest : List Char} (hne : secret ≠ [])
    (hfirst : ∀ front back,
      piece ++ (secret ++ rest) = front ++ (secret ++ back) → piece.length ≤ front.length) :
    maskSecret secret (piece ++ (secret ++ rest)) = piece ++ mask ++ maskSecret secret rest := by
  induction piece with
  | nil => exact maskSecret_found hne rest
  | cons c piece ih =>
    have hother : ¬ secret <+: c :: (piece ++ (secret ++ rest)) := by
      rintro ⟨back, heq⟩
      have hlength := hfirst [] back heq.symm
      simp at hlength
    have hbehind : ∀ front back, piece ++ (secret ++ rest) = front ++ (secret ++ back) →
        piece.length ≤ front.length := by
      intro front back heq
      have hlength := hfirst (c :: front) back (congrArg (List.cons c) heq)
      simpa using hlength
    rw [List.cons_append, maskSecret_other hother, ih hbehind]
    simp

/-- A pass puts a mask between the pieces. -/
theorem maskSecret_split {secret text : List Char} {pieces : List (List Char)} (hne : secret ≠ [])
    (h : Split secret text pieces) : maskSecret secret text = mask.intercalate pieces := by
  induction h with
  | last h => rw [maskSecret_absent secret _ h, List.intercalate_singleton]
  | cut piece hfirst h ih =>
    rw [maskSecret_first hne hfirst, ih, List.intercalate_cons_of_ne_nil h.pieces_ne_nil]

/-! Secrets that cannot meet a mask. -/

/-- Neither a part of a mask nor a whole one can belong to an occurrence: no star is at an end, and no
mask is inside. -/
structure MeetsNoMask (secret : List Char) : Prop where
  first : secret.head? ≠ some '*'
  last : secret.getLast? ≠ some '*'
  inside : ¬ mask <:+: secret

theorem meetsNoMask_of_starless {secret : List Char} (h : '*' ∉ secret) : MeetsNoMask secret where
  first hfirst := h (List.mem_of_head? hfirst)
  last hlast := h (List.mem_of_getLast? hlast)
  inside hinside := h (hinside.subset (by simp [mask_of_characters]))

/-- No end of such a secret is the beginning of a text that starts with a mask. -/
theorem MeetsNoMask.end_in_mask {secret part rest : List Char} (h : MeetsNoMask secret)
    (hend : part <:+ secret) (hpart : part <+: mask ++ rest) : part = [] := by
  have hlast : ∀ front, part ≠ front ++ ['*'] := by
    rintro front rfl
    obtain ⟨before, rfl⟩ := hend
    exact h.last (by simp)
  match part, hpart with
  | [], _ => rfl
  | [c], hpart =>
    obtain ⟨rfl, -⟩ := List.cons_prefix_cons.mp hpart
    exact absurd rfl (hlast [])
  | [c, d], hpart =>
    obtain ⟨rfl, hsecond⟩ := List.cons_prefix_cons.mp hpart
    obtain ⟨rfl, -⟩ := List.cons_prefix_cons.mp hsecond
    exact absurd rfl (hlast ['*'])
  | c :: d :: e :: more, hpart =>
    obtain ⟨rfl, hsecond⟩ := List.cons_prefix_cons.mp hpart
    obtain ⟨rfl, hthird⟩ := List.cons_prefix_cons.mp hsecond
    obtain ⟨rfl, -⟩ := List.cons_prefix_cons.mp hthird
    exact absurd ((List.prefix_append mask more).isInfix.trans hend.isInfix) h.inside

/-- What is left of such a secret stands in front of a mask or not at all. -/
theorem MeetsNoMask.end_before_mask {secret part rest : List Char} (h : MeetsNoMask secret)
    (text : List Char) (hend : part <:+ secret) (hpart : part <+: text ++ (mask ++ rest)) : part <+: text := by
  induction text generalizing part with
  | nil =>
    obtain rfl := h.end_in_mask hend hpart
    exact List.nil_prefix
  | cons c text ih =>
    cases part with
    | nil => exact List.nil_prefix
    | cons d part =>
      rw [List.cons_append, List.cons_prefix_cons] at hpart
      rw [List.cons_prefix_cons]
      exact ⟨hpart.1, ih ((List.suffix_cons d part).trans hend) hpart.2⟩

theorem MeetsNoMask.maskSecret_mask {secret : List Char} (h : MeetsNoMask secret) (hne : secret ≠ [])
    (rest : List Char) : maskSecret secret (mask ++ rest) = mask ++ maskSecret secret rest := by
  have hother : ∀ rest, ¬ secret <+: '*' :: rest := by
    intro rest hpre
    obtain ⟨c, more, rfl⟩ := List.exists_cons_of_ne_nil hne
    exact h.first (congrArg some (List.cons_prefix_cons.mp hpre).1)
  simp only [mask_of_characters, List.cons_append, List.nil_append, maskSecret_other (hother _)]

/-- A pass goes through the text in front of a mask and through that behind it, each on its own. -/
theorem MeetsNoMask.maskSecret_around {secret : List Char} (h : MeetsNoMask secret) (hne : secret ≠ [])
    (text rest : List Char) :
    maskSecret secret (text ++ (mask ++ rest)) = maskSecret secret text ++ (mask ++ maskSecret secret rest) := by
  induction text using pass_induction hne with
  | nil => exact h.maskSecret_mask hne rest
  | found text ih =>
    rw [List.append_assoc, maskSecret_found hne, maskSecret_found hne, ih, List.append_assoc]
  | other c text hother ih =>
    have hbefore : ¬ secret <+: c :: (text ++ (mask ++ rest)) :=
      fun hpre => hother (h.end_before_mask (c :: text) List.suffix_rfl hpre)
    rw [List.cons_append, maskSecret_other hbefore, maskSecret_other hother, ih, List.cons_append]

theorem MeetsNoMask.maskSecret_pieces {secret : List Char} (h : MeetsNoMask secret) (hne : secret ≠ [])
    (pieces : List (List Char)) :
    maskSecret secret (mask.intercalate pieces) = mask.intercalate (pieces.map (maskSecret secret)) := by
  induction pieces with
  | nil => rfl
  | cons piece pieces ih =>
    cases pieces with
    | nil => simp
    | cons next pieces =>
      rw [List.intercalate_cons_cons, List.append_assoc, h.maskSecret_around hne, ih]
      simp only [List.map_cons, List.intercalate_cons_cons, List.append_assoc]

theorem maskAll_cons (secret : List Char) (secrets : List (List Char)) (text : List Char) :
    maskAll (secret :: secrets) text = maskAll secrets (maskSecret secret text) := rfl

theorem maskAll_pieces {secrets : List (List Char)} (h : ∀ s ∈ secrets, s ≠ [] ∧ MeetsNoMask s)
    (pieces : List (List Char)) :
    maskAll secrets (mask.intercalate pieces) = mask.intercalate (pieces.map (maskAll secrets)) := by
  induction secrets generalizing pieces with
  | nil => exact congrArg mask.intercalate (List.map_id pieces).symm
  | cons secret secrets ih =>
    obtain ⟨⟨hne, hsecret⟩, hsecrets⟩ := List.forall_mem_cons.mp h
    rw [maskAll_cons, hsecret.maskSecret_pieces hne, ih hsecrets, List.map_map]
    rfl

/-- The first pass cuts the text, and the later ones go through the pieces. -/
theorem maskAll_split {secret : List Char} {secrets : List (List Char)} {text : List Char}
    {pieces : List (List Char)} (hne : secret ≠ []) (h : ∀ s ∈ secrets, s ≠ [] ∧ MeetsNoMask s)
    (hsplit : Split secret text pieces) :
    maskAll (secret :: secrets) text = mask.intercalate (pieces.map (maskAll secrets)) := by
  rw [maskAll_cons, maskSecret_split hne hsplit, maskAll_pieces h]

/-! What masks stand for. -/

/-- `out` is `text` with one mask for each of some stretches, and every one of them is a secret. -/
def MasksExactly (secrets : List (List Char)) (text out : List Char) : Prop :=
  ∃ cuts last, text = Cut.before cuts last ∧ out = Cut.after cuts last ∧
    ∀ c ∈ cuts, c.masked ∈ secrets ∧ c.stars = 3

theorem masksExactly_nothing (secrets : List (List Char)) (text : List Char) :
    MasksExactly secrets text text := ⟨[], text, rfl, rfl, by simp⟩

theorem MasksExactly.mono {secrets more : List (List Char)} {text out : List Char}
    (h : MasksExactly secrets text out) (hsub : secrets ⊆ more) : MasksExactly more text out := by
  obtain ⟨cuts, last, htext, hout, hcuts⟩ := h
  exact ⟨cuts, last, htext, hout, fun c hc => ⟨hsub (hcuts c hc).1, (hcuts c hc).2⟩⟩

theorem MasksExactly.join {secrets : List (List Char)} {secret piece rest pieceOut restOut : List Char}
    (hsecret : secret ∈ secrets) (hpiece : MasksExactly secrets piece pieceOut)
    (hrest : MasksExactly secrets rest restOut) :
    MasksExactly secrets (piece ++ (secret ++ rest)) (pieceOut ++ (mask ++ restOut)) := by
  obtain ⟨cuts, last, rfl, rfl, hcuts⟩ := hpiece
  obtain ⟨others, lastOther, rfl, rfl, hothers⟩ := hrest
  refine ⟨cuts ++ ⟨last, secret, 3⟩ :: others, lastOther, ?_, ?_, ?_⟩
  · simp [Cut.before]
  · simp [Cut.after, mask, List.replicate_succ]
  · exact List.forall_mem_append.mpr ⟨hcuts, List.forall_mem_cons.mpr ⟨⟨hsecret, rfl⟩, hothers⟩⟩

theorem masksExactly_pieces {secrets : List (List Char)} {secret text : List Char}
    {pieces : List (List Char)} {f : List Char → List Char} (hsecret : secret ∈ secrets)
    (hpieces : ∀ piece, MasksExactly secrets piece (f piece)) (h : Split secret text pieces) :
    MasksExactly secrets text (mask.intercalate (pieces.map f)) := by
  induction h with
  | @last text h =>
    simpa using hpieces text
  | @cut piece rest pieces hfirst h ih =>
    have hne : pieces.map f ≠ [] := by simpa using h.pieces_ne_nil
    rw [List.map_cons, List.intercalate_cons_of_ne_nil hne, List.append_assoc]
    exact (hpieces piece).join hsecret ih

theorem maskAll_exactly {secrets : List (List Char)} (h : ∀ s ∈ secrets, s ≠ [] ∧ MeetsNoMask s)
    (text : List Char) : MasksExactly secrets text (maskAll secrets text) := by
  induction secrets generalizing text with
  | nil => exact masksExactly_nothing [] text
  | cons secret secrets ih =>
    obtain ⟨⟨hne, hsecret⟩, hsecrets⟩ := List.forall_mem_cons.mp h
    obtain ⟨pieces, hpieces⟩ := exists_split hne text
    rw [maskAll_split hne hsecrets hpieces]
    exact masksExactly_pieces List.mem_cons_self
      (fun piece => (ih hsecrets piece).mono (List.subset_cons_self _ _)) hpieces

/-! The longest secret first. -/

theorem mem_longestFirst {secrets : List (List Char)} {s : List Char} :
    s ∈ longestFirst secrets ↔ s ∈ secrets := List.mem_mergeSort

theorem longestFirst_sorted (secrets : List (List Char)) :
    (longestFirst secrets).Pairwise fun a b => b.length ≤ a.length := by
  have hsorted := @List.pairwise_mergeSort _ (fun a b : List Char => decide (b.length ≤ a.length))
    (fun a b c hab hbc => by simp only [decide_eq_true_eq] at hab hbc ⊢; omega)
    (fun a b => by simp only [Bool.or_eq_true, decide_eq_true_eq]; omega) secrets
  exact hsorted.imp fun h => of_decide_eq_true h

theorem longestFirst_of_sorted {secrets : List (List Char)}
    (h : secrets.Pairwise fun a b => b.length ≤ a.length) : longestFirst secrets = secrets :=
  List.mergeSort_of_pairwise (h.imp fun hle => decide_eq_true hle)

/-- What masking with the longest secret first makes of a text: the longest one cuts it into pieces
in which the others are masked, the masks stand for whole secrets of the text, no secret is left, and
nothing is left to be masked. -/
structure MaskedInPieces (secrets : List (List Char)) (text : List Char) : Prop where
  pieces : ∀ longest others, longestFirst secrets = longest :: others →
    (∀ s ∈ others, s.length ≤ longest.length) ∧ (∃ pieces, Split longest text pieces) ∧
      ∀ pieces, Split longest text pieces →
        maskAll (longestFirst secrets) text = mask.intercalate (pieces.map (maskAll others))
  exactly : MasksExactly secrets text (maskAll (longestFirst secrets) text)
  hidden : ∀ s ∈ secrets, ¬ s <:+: maskAll (longestFirst secrets) text
  settled : maskAll (longestFirst secrets) (maskAll (longestFirst secrets) text) =
    maskAll (longestFirst secrets) text

/-- Secrets without stars that are long enough are masked exactly, the longest first. -/
theorem starless_masked_in_pieces (secrets : List (List Char)) (text : List Char)
    (h : ∀ s ∈ secrets, minimumLength ≤ s.length ∧ '*' ∉ s) : MaskedInPieces secrets text := by
  have hall : ∀ s ∈ longestFirst secrets, s ≠ [] ∧ MeetsNoMask s := by
    intro s hs
    obtain ⟨hlong, hstar⟩ := h s (mem_longestFirst.mp hs)
    refine ⟨?_, meetsNoMask_of_starless hstar⟩
    rintro rfl
    simp [minimumLength] at hlong
  have hhidden : ∀ s ∈ longestFirst secrets, ¬ s <:+: maskAll (longestFirst secrets) text :=
    fun s hs => maskAll_hides hs (hall s hs).1 (h s (mem_longestFirst.mp hs)).2 text
  refine ⟨fun longest others hfirst => ?_, ?_, ?_, maskAll_absent _ _ hhidden⟩
  · have hsorted := longestFirst_sorted secrets
    rw [hfirst] at hall hsorted ⊢
    obtain ⟨⟨hne, -⟩, hothers⟩ := List.forall_mem_cons.mp hall
    exact ⟨(List.pairwise_cons.mp hsorted).1, exists_split hne text,
      fun pieces => maskAll_split hne hothers⟩
  · exact (maskAll_exactly hall text).mono fun s => mem_longestFirst.mp
  · exact fun s hs => hhidden s (mem_longestFirst.mpr hs)

/-- A secret inside of a longer one, both in one text. -/
theorem nested_masked_in_pieces :
    let secrets := ["secret-extended".toList, "secret".toList]
    let text := "secret-extended and secret".toList
    (∀ s ∈ secrets, minimumLength ≤ s.length ∧ '*' ∉ s) ∧ MaskedInPieces secrets text ∧
      maskAll (longestFirst secrets) text = "*** and ***".toList := by
  intro secrets text
  have h : ∀ s ∈ secrets, minimumLength ≤ s.length ∧ '*' ∉ s := by decide
  have horder : longestFirst secrets = secrets := longestFirst_of_sorted (by decide)
  have hmasked : maskAll secrets text = "*** and ***".toList := by decide +kernel
  exact ⟨h, starless_masked_in_pieces secrets text h, by rw [horder, hmasked]⟩

end Stemcell.Redaction
