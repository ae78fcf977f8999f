import Stemcell.Proofs.Redaction.Pieces

/-! The order of equally long secrets. It is open in which of two such orders they are masked, and
where their occurrences overlap it shows. Where the occurrences are apart, all secrets of one length
are masked as if at once, so that the text depends on the set of secrets alone. -/
namespace Stemcell.Redaction

/-! The places where a pass finds its secret. -/

/-- The places behind the `skip` characters that still belong to the last occurrence; the first
character of the text is at `place`. -/
def placesFrom (secret : List Char) (skip place : Nat) : List Char → List Nat
  | [] => []
  | c :: rest =>
    match skip with
    | skip + 1 => placesFrom secret skip (place + 1) rest
    | 0 =>
      if secret.isPrefixOf (c :: rest) then place :: placesFrom secret (secret.length - 1) (place + 1) rest
      else placesFrom secret 0 (place + 1) rest

def places (secret text : List Char) : List Nat := placesFrom secret 0 0 text

theorem placesFrom_eq (secret : List Char) (skip place : Nat) (text : List Char) :
    placesFrom secret skip place text =
      (places secret (text.drop skip)).map fun i => i + (place + skip) := by
  induction text generalizing skip place with
  | nil => cases skip <;> rfl
  | cons c rest ih =>
    cases skip with
    | succ skip =>
      have hplace : place + 1 + skip = place + (skip + 1) := by omega
      rw [placesFrom, ih, hplace]
      rfl
    | zero =>
      simp only [List.drop_zero, places, placesFrom]
      split
      · rw [ih, ih, List.map_cons, List.map_map]
        simp only [Nat.zero_add, Nat.add_zero]
        congr 2
        funext i
        simp only [Function.comp]
        omega
      · rw [ih, ih, List.map_map]
        congr 1
        funext i
        simp only [Function.comp]
        omega

theorem places_found {secret : List Char} (hne : secret ≠ []) (rest : List Char) :
    places secret (secret ++ rest) = 0 :: (places secret rest).map (· + secret.length) := by
  obtain ⟨c, more, rfl⟩ := List.exists_cons_of_ne_nil hne
  have hhere : (c :: more).isPrefixOf (c :: (more ++ rest)) = true :=
    List.isPrefixOf_iff_prefix.mpr (List.prefix_append (c :: more) rest)
  rw [List.cons_append, places, placesFrom, if_pos hhere, placesFrom_eq]
  simp [Nat.add_comm]

theorem places_other {secret rest : List Char} {c : Char} (h : ¬ secret <+: c :: rest) :
    places secret (c :: rest) = (places secret rest).map (· + 1) := by
  rw [places, placesFrom, if_neg fun hp => h (List.isPrefixOf_iff_prefix.mp hp), placesFrom_eq]
  rfl

theorem zero_mem_places {secret text : List Char} (hne : secret ≠ []) (h : secret <+: text) :
    0 ∈ places secret text := by
  obtain ⟨rest, rfl⟩ := h
  rw [places_found hne]
  exact List.mem_cons_self

theorem places_behind {secret front rest : List Char} (hne : secret ≠ [])
    (h : ∀ i ∈ places secret (front ++ rest), front.length ≤ i) :
    places secret (front ++ rest) = (places secret rest).map (· + front.length) := by
  induction front with
  | nil => simp
  | cons c front ih =>
    have hother : ¬ secret <+: c :: (front ++ rest) := by
      intro hpre
      have hlength := h 0 (zero_mem_places hne hpre)
      simp at hlength
    have hplaces := places_other hother
    rw [List.cons_append, hplaces] at h
    have hbehind : ∀ i ∈ places secret (front ++ rest), front.length ≤ i := by
      intro i hi
      have hlength := h (i + 1) (List.mem_map_of_mem hi)
      simpa using hlength
    rw [List.cons_append, hplaces, ih hbehind, List.map_map]
    congr 1

/-! Secrets whose occurrences are apart. -/

/-- No occurrence of the one that is found in the text overlaps one of the other. -/
def ApartIn (text s t : List Char) : Prop :=
  ∀ i ∈ places s text, ∀ j ∈ places t text, i + s.length ≤ j ∨ j + t.length ≤ i

instance (text s t : List Char) : Decidable (ApartIn text s t) :=
  inferInstanceAs (Decidable (∀ i ∈ places s text, ∀ j ∈ places t text, _))

def AllApart (secrets : List (List Char)) (text : List Char) : Prop :=
  ∀ s ∈ secrets, ∀ t ∈ secrets, s ≠ t → ApartIn text s t

section
variable {secrets : List (List Char)} {s text rest : List Char} {c : Char}

theorem AllApart.sublist {others : List (List Char)} (h : AllApart secrets text)
    (hsub : others ⊆ secrets) : AllApart others text :=
  fun s hs t ht hst => h s (hsub hs) t (hsub ht) hst

/-- What is apart stays apart in the rest of a text. -/
theorem AllApart.behind (h : AllApart secrets text) (size : Nat)
    (hplaces : ∀ s ∈ secrets, ∀ i ∈ places s rest, i + size ∈ places s text) : AllApart secrets rest := by
  intro s hs t ht hst i hi j hj
  have happart := h s hs t ht hst _ (hplaces s hs i hi) _ (hplaces t ht j hj)
  omega

/-- Where a secret is found, the others are found behind it. -/
theorem AllApart.found_behind (h : AllApart secrets (s ++ rest)) (hne : ∀ t ∈ secrets, t ≠ [])
    (hs : s ∈ secrets) {t : List Char} (ht : t ∈ secrets) (hst : s ≠ t) :
    ∀ i ∈ places t (s ++ rest), s.length ≤ i := by
  intro i hi
  have hzero := zero_mem_places (hne s hs) (List.prefix_append s rest)
  have hpos := List.length_pos_iff.mpr (hne t ht)
  have happart := h s hs t ht hst 0 hzero i hi
  omega

theorem AllApart.found (h : AllApart secrets (s ++ rest)) (hne : ∀ t ∈ secrets, t ≠ [])
    (hs : s ∈ secrets) : AllApart secrets rest := by
  refine h.behind s.length fun t ht i hi => ?_
  by_cases hst : s = t
  · rw [← hst] at hi ⊢
    rw [places_found (hne s hs)]
    exact List.mem_cons_of_mem _ (List.mem_map_of_mem hi)
  · rw [places_behind (hne t ht) (h.found_behind hne hs ht hst)]
    exact List.mem_map_of_mem hi

theorem AllApart.other (h : AllApart secrets (c :: rest)) (hother : ∀ s ∈ secrets, ¬ s <+: c :: rest) :
    AllApart secrets rest := by
  refine h.behind 1 fun s hs i hi => ?_
  rw [places_other (hother s hs)]
  exact List.mem_map_of_mem hi

end

/-! Masking all secrets of a list at once. -/

/-- A text and what becomes of it when every occurrence of any of the secrets is masked as it is met. -/
inductive MaskedTogether (secrets : List (List Char)) : List Char → List Char → Prop where
  | nil : MaskedTogether secrets [] []
  | copied {c : Char} {rest out : List Char} (hother : ∀ s ∈ secrets, ¬ s <+: c :: rest)
    (h : MaskedTogether secrets rest out) : MaskedTogether secrets (c :: rest) (c :: out)
  | masked {secret text rest out : List Char} (hs : secret ∈ secrets) (htext : text = secret ++ rest)
    (h : MaskedTogether secrets rest out) : MaskedTogether secrets text (mask ++ out)

theorem maskedTogether_nothing (text : List Char) : MaskedTogether [] text text := by
  induction text with
  | nil => exact .nil
  | cons c rest ih => exact .copied (by simp) ih

theorem MaskedTogether.congr {secrets others : List (List Char)} {text out : List Char}
    (hmem : ∀ s, s ∈ secrets ↔ s ∈ others) (h : MaskedTogether secrets text out) :
    MaskedTogether others text out := by
  induction h with
  | nil => exact .nil
  | copied hother h ih => exact .copied (fun s hs => hother s ((hmem s).mpr hs)) ih
  | masked hs htext h ih => exact .masked ((hmem _).mp hs) htext ih

/-- What masking at once makes of a text is settled. -/
theorem MaskedTogether.unique {secrets : List (List Char)} {text out other : List Char}
    (hne : ∀ s ∈ secrets, s ≠ []) (happart : AllApart secrets text)
    (h : MaskedTogether secrets text out) (hother : MaskedTogether secrets text other) : out = other := by
  induction h generalizing other with
  | nil =>
    cases hother with
    | nil => rfl
    | masked hs htext h => exact absurd (List.append_eq_nil_iff.mp htext.symm).1 (hne _ hs)
  | @copied c rest out hnone h ih =>
    cases hother with
    | copied _ h => rw [ih (happart.other hnone) h]
    | masked hs htext h => exact absurd ⟨_, htext.symm⟩ (hnone _ hs)
  | @masked s text rest out hs htext h ih =>
    cases hother with
    | nil => exact absurd (List.append_eq_nil_iff.mp htext.symm).1 (hne s hs)
    | copied hnone _ => exact absurd ⟨rest, htext.symm⟩ (hnone s hs)
    | @masked t _ behind otherOut ht hother h' =>
      by_cases hst : s = t
      · subst hst
        rw [htext] at happart hother
        rw [← List.append_cancel_left hother] at h'
        rw [ih (happart.found hne hs) h']
      · rw [htext] at happart hother
        have hzero := zero_mem_places (hne t ht) (hother ▸ List.prefix_append t behind)
        have hlength := happart.found_behind hne hs ht hst 0 hzero
        have hpos := List.length_pos_iff.mpr (hne s hs)
        omega

/-- What is left of a secret that meets no mask is shown in front of the masks only. -/
theorem MaskedTogether.shown_before {secrets : List (List Char)} {secret part text out : List Char}
    (hsecret : MeetsNoMask secret) (hend : part <:+ secret) (h : MaskedTogether secrets text out)
    (hpart : part <+: out) : part <+: text := by
  induction h generalizing part with
  | nil => exact hpart
  | @copied c rest out _ _ ih =>
    cases part with
    | nil => exact List.nil_prefix
    | cons d part =>
      rw [List.cons_prefix_cons] at hpart ⊢
      exact ⟨hpart.1, ih ((List.suffix_cons d part).trans hend) hpart.2⟩
  | masked _ _ _ _ =>
    rw [hsecret.end_in_mask hend hpart]
    exact List.nil_prefix

/-- The front of a text is copied up to where the first of the secrets is found. -/
theorem MaskedTogether.front {secrets : List (List Char)} {front rest out : List Char}
    (hne : ∀ s ∈ secrets, s ≠ [])
    (hbehind : ∀ s ∈ secrets, ∀ i ∈ places s (front ++ rest), front.length ≤ i)
    (h : MaskedTogether secrets (front ++ rest) out) :
    ∃ behind, out = front ++ behind ∧ MaskedTogether secrets rest behind := by
  induction front generalizing out with
  | nil => exact ⟨out, rfl, h⟩
  | cons c front ih =>
    have hother : ∀ s ∈ secrets, ¬ s <+: c :: (front ++ rest) := by
      intro s hs hpre
      have hlength := hbehind s hs 0 (zero_mem_places (hne s hs) hpre)
      simp at hlength
    have hrest : ∀ s ∈ secrets, ∀ i ∈ places s (front ++ rest), front.length ≤ i := by
      intro s hs i hi
      have hmem : i + 1 ∈ places s (c :: (front ++ rest)) := by
        rw [places_other (hother s hs)]
        exact List.mem_map_of_mem hi
      have hlength := hbehind s hs (i + 1) hmem
      simpa using hlength
    rw [List.cons_append] at h
    cases h with
    | copied _ h =>
      obtain ⟨behind, rfl, hbehind⟩ := ih hrest h
      exact ⟨behind, rfl, hbehind⟩
    | masked hs htext _ => exact absurd ⟨_, htext.symm⟩ (hother _ hs)

/-- One more pass is as if its secret had been masked together with the others. -/
theorem MaskedTogether.add {secrets : List (List Char)} {secret text out : List Char}
    (hne : ∀ s ∈ secret :: secrets, s ≠ []) (hsecret : MeetsNoMask secret) (hnew : secret ∉ secrets)
    (happart : AllApart (secret :: secrets) text) (h : MaskedTogether secrets text out) :
    MaskedTogether (secret :: secrets) text (maskSecret secret out) := by
  obtain ⟨hsecretNe, hsecretsNe⟩ := List.forall_mem_cons.mp hne
  induction hsize : text.length using Nat.strongRecOn generalizing text out with
  | _ size ih =>
    cases h with
    | nil => exact .nil
    | @copied c rest out hnone h =>
      by_cases hhere : secret <+: c :: rest
      · -- The others are found behind this occurrence, so it has been copied.
        obtain ⟨behind, hbehind⟩ := hhere
        rw [← hbehind] at happart hsize ⊢
        have hfound := fun s hs => happart.found_behind hne List.mem_cons_self
          (List.mem_cons_of_mem secret hs) (t := s) fun heq => hnew (heq ▸ hs)
        have hall : MaskedTogether secrets (secret ++ behind) (c :: out) := hbehind ▸ .copied hnone h
        obtain ⟨outBehind, hout, hrest⟩ := hall.front hsecretsNe hfound
        rw [hout, maskSecret_found hsecretNe]
        have hpos := List.length_pos_iff.mpr hsecretNe
        rw [List.length_append] at hsize
        exact .masked List.mem_cons_self rfl
          (ih behind.length (by omega) (happart.found hne List.mem_cons_self) hrest rfl)
      · have hother : ∀ s ∈ secret :: secrets, ¬ s <+: c :: rest := List.forall_mem_cons.mpr ⟨hhere, hnone⟩
        have hshown : ¬ secret <+: c :: out := fun hpre => hhere
          (MaskedTogether.shown_before hsecret List.suffix_rfl (.copied hnone h) hpre)
        rw [maskSecret_other hshown]
        rw [List.length_cons] at hsize
        exact .copied hother (ih rest.length (by omega) (happart.other hother) h rfl)
    | @masked s _ rest out hs htext h =>
      subst htext
      have hmem : s ∈ secret :: secrets := List.mem_cons_of_mem secret hs
      have hpos := List.length_pos_iff.mpr (hne s hmem)
      rw [hsecret.maskSecret_mask hsecretNe]
      rw [List.length_append] at hsize
      exact .masked hmem rfl (ih rest.length (by omega) (happart.found hne hmem) h rfl)

/-- Pass after pass, the secrets masked so far are as if they had been masked together. -/
theorem MaskedTogether.maskAll (secrets : List (List Char)) {done : List (List Char)} {text out : List Char}
    (hnodup : (secrets.reverse ++ done).Nodup) (h : ∀ s ∈ secrets.reverse ++ done, s ≠ [] ∧ MeetsNoMask s)
    (happart : AllApart (secrets.reverse ++ done) text) (hdone : MaskedTogether done text out) :
    MaskedTogether (secrets.reverse ++ done) text (maskAll secrets out) := by
  induction secrets generalizing done out with
  | nil => exact hdone
  | cons secret secrets ih =>
    rw [List.reverse_cons, List.append_assoc, List.singleton_append] at hnodup h happart ⊢
    have hsub : secret :: done ⊆ secrets.reverse ++ secret :: done := List.subset_append_right _ _
    have hnew : secret ∉ done := (List.nodup_cons.mp (List.nodup_append.mp hnodup).2.1).1
    have hadded := hdone.add (fun s hs => (h s (hsub hs)).1) (h secret (hsub List.mem_cons_self)).2 hnew
      (happart.sublist hsub)
    exact ih hnodup h happart hadded

theorem maskedTogether_maskAll {secrets : List (List Char)} {text : List Char} (hnodup : secrets.Nodup)
    (h : ∀ s ∈ secrets, s ≠ [] ∧ MeetsNoMask s) (happart : AllApart secrets text) :
    MaskedTogether secrets text (maskAll secrets text) := by
  have hmem : ∀ s, s ∈ secrets.reverse ++ [] ↔ s ∈ secrets := by simp
  have hnodup' : (secrets.reverse ++ []).Nodup := by
    rw [List.append_nil]
    exact secrets.reverse_perm.nodup_iff.mpr hnodup
  have hall := MaskedTogether.maskAll secrets hnodup' (fun s hs => h s ((hmem s).mp hs))
    (happart.sublist fun s => (hmem s).mp) (maskedTogether_nothing text)
  exact hall.congr hmem

/-- Equally long secrets that are apart are masked in any order. -/
theorem maskAll_perm {secrets others : List (List Char)} {text : List Char} (hperm : secrets.Perm others)
    (hnodup : secrets.Nodup) (hne : ∀ s ∈ secrets, s ≠ [])
    (h : ∀ s ∈ secrets, ∀ t ∈ secrets, s ≠ t → MeetsNoMask s ∧ ApartIn text s t) :
    maskAll secrets text = maskAll others text := by
  by_cases hall : ∀ s ∈ secrets, MeetsNoMask s
  · have happart : AllApart secrets text := fun s hs t ht hst => (h s hs t ht hst).2
    have hone := maskedTogether_maskAll hnodup (fun s hs => ⟨hne s hs, hall s hs⟩) happart
    have hother := maskedTogether_maskAll (hperm.nodup_iff.mp hnodup)
      (fun s hs => ⟨hne s (hperm.mem_iff.mpr hs), hall s (hperm.mem_iff.mpr hs)⟩)
      (happart.sublist hperm.symm.subset)
    exact hone.unique hne happart (hother.congr fun s => hperm.symm.mem_iff)
  · -- A secret that can meet a mask has no other one beside it.
    obtain ⟨s, hs, hmeets⟩ : ∃ s ∈ secrets, ¬ MeetsNoMask s := by simpa using hall
    have honly : ∀ t ∈ secrets, t = s := by
      intro t ht
      by_cases hst : s = t
      · exact hst.symm
      · exact absurd (h s hs t ht hst).1 hmeets
    have hsecrets := List.eq_replicate_of_mem honly
    have hothers := List.eq_replicate_of_mem fun t ht => honly t (hperm.mem_iff.mpr ht)
    rw [hsecrets, hothers, hperm.length_eq]

/-! Secrets of all lengths, the longer ones first. -/

theorem filter_longer {secrets : List (List Char)} (hsorted : secrets.Pairwise fun a b => b.length ≤ a.length)
    (n : Nat) : secrets.filter (n ≤ ·.length) =
      secrets.filter (n < ·.length) ++ secrets.filter (·.length = n) := by
  induction secrets with
  | nil => rfl
  | cons s secrets ih =>
    obtain ⟨hfirst, hsecrets⟩ := List.pairwise_cons.mp hsorted
    have hrest := ih hsecrets
    by_cases hlong : n < s.length
    · have hle : n ≤ s.length := by omega
      have hne : s.length ≠ n := by omega
      simpa [hlong, hle, hne] using hrest
    · -- None of the others is longer than the first one.
      have hnone : secrets.filter (n < ·.length) = [] := by
        rw [List.filter_eq_nil_iff]
        intro t ht hlonger
        have hle := hfirst t ht
        have hlt := of_decide_eq_true hlonger
        omega
      rw [hnone, List.nil_append] at hrest
      by_cases heq : s.length = n
      · have hle : n ≤ s.length := by omega
        simpa [hlong, hle, heq, hnone] using hrest
      · have hle : ¬ n ≤ s.length := by omega
        simpa [hlong, hle, heq, hnone] using hrest

theorem maskAll_append (secrets more : List (List Char)) (text : List Char) :
    maskAll (secrets ++ more) text = maskAll more (maskAll secrets text) := List.foldl_append

/-- Different secrets of one length neither meet masks nor overlap in the text that the longer ones
leave. -/
def Unmixed (secrets : List (List Char)) (text : List Char) : Prop :=
  ∀ s ∈ secrets, ∀ t ∈ secrets, s.length = t.length → s ≠ t →
    MeetsNoMask s ∧ ApartIn (maskAll ((longestFirst secrets).filter (s.length < ·.length)) text) s t

theorem maskAll_longer {secrets others : List (List Char)} {text : List Char} (hperm : secrets.Perm others)
    (hnodup : secrets.Nodup) (hne : ∀ s ∈ secrets, s ≠ [])
    (hsecrets : secrets.Pairwise fun a b => b.length ≤ a.length)
    (hothers : others.Pairwise fun a b => b.length ≤ a.length)
    (h : ∀ s ∈ secrets, ∀ t ∈ secrets, s.length = t.length → s ≠ t →
      MeetsNoMask s ∧ ApartIn (maskAll (secrets.filter (s.length < ·.length)) text) s t)
    (limit : Nat) (hlimit : ∀ s ∈ secrets, s.length < limit) (left n : Nat) (hleft : limit ≤ n + left) :
    maskAll (secrets.filter (n ≤ ·.length)) text = maskAll (others.filter (n ≤ ·.length)) text := by
  -- From the limit on down, the secrets of one length after those of the next greater one.
  induction left generalizing n with
  | zero =>
    have hnone : ∀ list : List (List Char), (∀ s ∈ list, s.length < limit) →
        list.filter (n ≤ ·.length) = [] := by
      intro list hlist
      rw [List.filter_eq_nil_iff]
      intro s hs hlong
      have hlt := hlist s hs
      have hle := of_decide_eq_true hlong
      omega
    rw [hnone secrets hlimit, hnone others fun s hs => hlimit s (hperm.mem_iff.mpr hs)]
  | succ left ih =>
    have hlonger : maskAll (secrets.filter (n < ·.length)) text = maskAll (others.filter (n < ·.length)) text :=
      ih (n + 1) (by omega)
    rw [filter_longer hsecrets, filter_longer hothers, maskAll_append, maskAll_append, ← hlonger]
    refine maskAll_perm (hperm.filter _) (hnodup.filter _) (fun s hs => hne s (List.mem_filter.mp hs).1) ?_
    intro s hs t ht hst
    obtain ⟨hs, hlength⟩ := List.mem_filter.mp hs
    obtain ⟨ht, hlength'⟩ := List.mem_filter.mp ht
    have hn := of_decide_eq_true hlength
    have hn' := of_decide_eq_true hlength'
    have happart := h s hs t ht (hn.trans hn'.symm) hst
    rwa [hn] at happart

theorem exists_limit (secrets : List (List Char)) : ∃ limit, ∀ s ∈ secrets, s.length < limit := by
  induction secrets with
  | nil => exact ⟨0, by simp⟩
  | cons s secrets ih =>
    obtain ⟨limit, hlimit⟩ := ih
    refine ⟨limit + s.length + 1, List.forall_mem_cons.mpr ⟨by omega, fun t ht => ?_⟩⟩
    have hlt := hlimit t ht
    omega

/-- Any order in which the longer secrets come first masks a text that they are unmixed in alike. -/
theorem maskAll_any_order {secrets order : List (List Char)} {text : List Char} (hnodup : secrets.Nodup)
    (hne : ∀ s ∈ secrets, s ≠ []) (h : Unmixed secrets text) (hperm : order.Perm secrets)
    (hsorted : order.Pairwise fun a b => b.length ≤ a.length) :
    maskAll order text = maskAll (longestFirst secrets) text := by
  have hfirst : (longestFirst secrets).Perm secrets := List.mergeSort_perm _ _
  obtain ⟨limit, hlimit⟩ := exists_limit (longestFirst secrets)
  have hall := maskAll_longer (hfirst.trans hperm.symm) (hfirst.nodup_iff.mpr hnodup)
    (fun s hs => hne s (mem_longestFirst.mp hs)) (longestFirst_sorted secrets) hsorted
    (fun s hs t ht => h s (mem_longestFirst.mp hs) t (mem_longestFirst.mp ht)) limit hlimit limit 0 (by omega)
  have hwhole : ∀ list : List (List Char), list.filter (0 ≤ ·.length) = list :=
    fun list => List.filter_eq_self.mpr (by simp)
  rw [hwhole, hwhole] at hall
  exact hall.symm

/-! Whole runs. -/

/-- Redacting masks the secrets in force in the order in which the set of them is gone through. -/
theorem redact_in_order {env : Environment} {requests : List Request} {r : Registry}
    (h : Knows env requests r) (text : String) :
    ∃ found : List (List Char), found.Nodup ∧ (∀ s, s ∈ found ↔ InForce env requests (String.ofList s)) ∧
      (r.serve env (.redact text)).1 =
        .text (.ok (String.ofList (maskAll (longestFirst found) text.toList))) := by
  obtain ⟨secrets, hsecrets, hall, hnodup, hmem⟩ := h.secrets
  obtain ⟨found, hfound, hfrom, hdistinct⟩ := texts_ok (areTexts_of_long hall)
  refine ⟨found, hdistinct hnodup, fun s => (hfrom s).trans (hmem _), ?_⟩
  simp only [Registry.serve, hsecrets, Except.bind, Registry.redact, hfound, Except.map]

/-- A text in which the secrets are unmixed is redacted as the set of them asks for: in whatever order
they are gone through, the longer ones first, in whatever order they were registered, and in whatever order
the program goes through its sets. -/
theorem redacted_by_set (secrets : List (List Char)) (text : String) (hnodup : secrets.Nodup)
    (hlong : ∀ s ∈ secrets, minimumLength ≤ s.length) (hunmixed : Unmixed secrets text.toList) :
    ∃ out : String,
      (∀ order, order.Perm secrets → (order.Pairwise fun a b => b.length ≤ a.length) →
        maskAll order text.toList = out.toList) ∧
      ∀ env (order : SetOrder) before after, (∀ s, InForce env before s ↔ s.toList ∈ secrets) →
        (Registry.serveAll env { order } (before ++ .redact text :: after)).1[before.length]? =
          some (.text (.ok out)) := by
  have hne : ∀ s ∈ secrets, s ≠ [] := by
    rintro s hs rfl
    have hlength := hlong [] hs
    simp [minimumLength] at hlength
  refine ⟨String.ofList (maskAll (longestFirst secrets) text.toList), fun order hperm hsorted => ?_,
    fun env order before after hforce => ?_⟩
  · rw [maskAll_any_order hnodup hne hunmixed hperm hsorted, String.toList_ofList]
  · obtain ⟨found, hdistinct, hmem, hreply⟩ := redact_in_order ((knows_nothing env order).serveAll before) text
    have hperm : found.Perm secrets := by
      refine (List.perm_ext_iff_of_nodup hdistinct hnodup).mpr fun s => ?_
      rw [hmem, List.nil_append, hforce, String.toList_ofList]
    have hsame : maskAll (longestFirst found) text.toList = maskAll (longestFirst secrets) text.toList :=
      maskAll_any_order hnodup hne hunmixed ((List.mergeSort_perm _ _).trans hperm) (longestFirst_sorted _)
    rw [reply_at, hreply, hsame]

/-- Two secrets that overlap, and a longer one that masks where they do. -/
theorem overlap_redacted_by_set :
    let secrets := ["abcdefg".toList, "bcde".toList, "abcd".toList]
    let text := "abcdefg, bcde and abcd"
    (secrets.Nodup ∧ (∀ s ∈ secrets, minimumLength ≤ s.length) ∧ Unmixed secrets text.toList) ∧
      ∃ out : String,
        (∀ order, order.Perm secrets → (order.Pairwise fun a b => b.length ≤ a.length) →
          maskAll order text.toList = out.toList) ∧
        ∀ env (order : SetOrder) before after, (∀ s, InForce env before s ↔ s.toList ∈ secrets) →
          (Registry.serveAll env { order } (before ++ .redact text :: after)).1[before.length]? =
            some (.text (.ok out)) := by
  intro secrets text
  have hnodup : secrets.Nodup := by decide
  have hlong : ∀ s ∈ secrets, minimumLength ≤ s.length := by decide
  have hunmixed : Unmixed secrets text.toList := by
    have hstars : ∀ s ∈ secrets, '*' ∉ s := by decide
    have horder : longestFirst secrets = secrets := longestFirst_of_sorted (by decide)
    have happart : ∀ s ∈ secrets, ∀ t ∈ secrets, s.length = t.length → s ≠ t →
        ApartIn (maskAll (secrets.filter (s.length < ·.length)) text.toList) s t := by
      decide +kernel
    intro s hs t ht hlength hst
    rw [horder]
    exact ⟨meetsNoMask_of_starless (hstars s hs), happart s hs t ht hlength hst⟩
  exact ⟨⟨hnodup, hlong, hunmixed⟩, redacted_by_set secrets text hnodup hlong hunmixed⟩

theorem texts_texts (strings : List String) :
    texts (strings.map Value.text) = .ok (strings.map String.toList) := by
  induction strings with
  | nil => rfl
  | cons s strings ih =>
    rw [List.map_cons, texts, ih]
    rfl

/-- Secrets that come the longest first are masked as they come. -/
theorem redact_sorted (strings : List String) (text : String)
    (h : strings.Pairwise fun s t => t.toList.length ≤ s.toList.length) :
    Registry.redact (strings.map Value.text) text =
      .ok (String.ofList (maskAll (strings.map String.toList) text.toList)) := by
  have hsorted : (strings.map String.toList).Pairwise fun a b => b.length ≤ a.length :=
    List.pairwise_map.mpr h
  rw [Registry.redact, texts_texts, Except.map, longestFirst_of_sorted hsorted]

/-- The order shows where two secrets of one length overlap, and where one of them meets the mask of the
other, with a star at its beginning or its end or with a mask inside. -/
theorem order_of_registration_shows :
    (∀ s, InForce [] [.register "abcd", .register "bcde"] s ↔
        InForce [] [.register "bcde", .register "abcd"] s) ∧
      (Registry.serveAll [] {} [.register "abcd", .register "bcde", .redact "abcde"]).1[2]? =
        some (.text (.ok "***e")) ∧
      (Registry.serveAll [] {} [.register "bcde", .register "abcd", .redact "abcde"]).1[2]? =
        some (.text (.ok "a***")) ∧
      Registry.redact [.text "abcd", .text "*efg"] "abcdefg" = .ok "*****" ∧
      Registry.redact [.text "*efg", .text "abcd"] "abcdefg" = .ok "***efg" ∧
      Registry.redact [.text "abcd", .text "xyz*"] "xyzabcd" = .ok "*****" ∧
      Registry.redact [.text "xyz*", .text "abcd"] "xyzabcd" = .ok "xyz***" ∧
      Registry.redact [.text "abcde", .text "x***y"] "xabcdey" = .ok "***" ∧
      Registry.redact [.text "x***y", .text "abcde"] "xabcdey" = .ok "x***y" := by
  have hpair : ∀ (s t text out : String), t.toList.length ≤ s.toList.length →
      String.ofList (maskAll [s.toList, t.toList] text.toList) = out →
      Registry.redact [.text s, .text t] text = .ok out := by
    intro s t text out hsorted hout
    have hredact := redact_sorted [s, t] text (by simpa using hsorted)
    exact hredact.trans (congrArg Except.ok hout)
  have hfront := hpair "abcd" "bcde" "abcde" "***e" (by decide) (by decide +kernel)
  have hback := hpair "bcde" "abcd" "abcde" "a***" (by decide) (by decide +kernel)
  refine ⟨fun s => ?_, ?_, ?_, ?_, ?_, ?_, ?_, ?_, ?_⟩
  · simp [InForce, or_comm]
  · exact congrArg (fun reply => some (Reply.text reply)) hfront
  · exact congrArg (fun reply => some (Reply.text reply)) hback
  · exact hpair _ _ _ _ (by decide) (by decide +kernel)
  · exact hpair _ _ _ _ (by decide) (by decide +kernel)
  · exact hpair _ _ _ _ (by decide) (by decide +kernel)
  · exact hpair _ _ _ _ (by decide) (by decide +kernel)
  · exact hpair _ _ _ _ (by decide) (by decide +kernel)
  · exact hpair _ _ _ _ (by decide) (by decide +kernel)

end Stemcell.Redaction
