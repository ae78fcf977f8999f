import Stemcell.Construct

/-! What the user reads tells how far a preparation got. Some events have the same text, so a text on its
own does not tell its event; but the events come in one order, and where they may come in two ways, the
two texts differ in their first character. -/
namespace Stemcell.Progress

/-- The events up to the wait for the shutdown. -/
def opening : List Progress :=
  [.started .directory, .succeeded .directory, .started .upload]
    ++ (Construct.artifacts.flatMap fun a => [.uploading (.text a.label), .uploaded])
    ++ [.succeeded .upload, .started .enabling, .succeeded .enabling, .started .connection,
      .succeeded .connection, .started .unpacking, .succeeded .unpacking, .started .logout,
      .succeeded .logout, .started .setup, .succeeded .setup, .rebooting]

/-- The events of a whole preparation in which the guest was not yet off at so many looks. -/
def course (looks : Nat) : List Progress := opening ++ List.replicate looks .stillPreparing ++ [.shutDown]

/-- A preparation can have come so far. -/
def Reached (events : List Progress) : Prop := ∃ looks, events <+: course looks

/-- What the user has read behind these events. -/
def transcript (events : List Progress) : String := String.join (events.map text)

variable {a b : Progress} {u v w : List Progress} {m n : Nat}

theorem Reached.beginning (h : Reached (u ++ v)) : Reached u := by
  obtain ⟨looks, hlooks⟩ := h
  exact ⟨looks, (List.prefix_append u v).trans hlooks⟩

/-- What comes behind these events in a preparation. -/
theorem getElem?_of_reached (h : w ++ [a] <+: course n) : (course n)[w.length]? = some a := by
  obtain ⟨rest, hrest⟩ := h
  rw [← hrest, List.append_assoc, List.getElem?_append_right (Nat.le_refl _), Nat.sub_self]
  rfl

/-- The opening is the same in all preparations. -/
theorem getElem?_course_opening {i : Nat} (h : i < opening.length) : (course n)[i]? = opening[i]? := by
  rw [course, List.append_assoc, List.getElem?_append_left h]

theorem getElem?_course_wait {i : Nat} (h : opening.length ≤ i) (ha : (course n)[i]? = some a) :
    a = .stillPreparing ∨ a = .shutDown := by
  rw [course, List.append_assoc, List.getElem?_append_right h] at ha
  have hmem := List.mem_of_getElem? ha
  rcases List.mem_append.mp hmem with h | h
  · exact .inl (List.eq_of_mem_replicate h)
  · exact .inr (List.mem_singleton.mp h)

/-- Two ways on are told apart by the first character of what the user reads next. -/
theorem eq_or_head_ne (ha : Reached (w ++ [a])) (hb : Reached (w ++ [b])) :
    a = b ∨ a.text.toList.head? ≠ b.text.toList.head? := by
  obtain ⟨m, hm⟩ := ha
  obtain ⟨n, hn⟩ := hb
  have hplace := getElem?_of_reached hm
  have hplace' := getElem?_of_reached hn
  rcases Nat.lt_or_ge w.length opening.length with hlt | hge
  · rw [getElem?_course_opening hlt] at hplace hplace'
    rw [hplace] at hplace'
    exact .inl (Option.some.inj hplace')
  · rcases getElem?_course_wait hge hplace with rfl | rfl <;>
      rcases getElem?_course_wait hge hplace' with rfl | rfl
    · exact .inl rfl
    · exact .inr (by decide)
    · exact .inr (by decide)
    · exact .inl rfl

/-- The user reads something about every event. -/
theorem text_ne_empty (e : Progress) : e.text ≠ "" := by
  cases e with
  | started phase => cases phase <;> decide
  | succeeded phase => cases phase <;> decide
  | uploading artifact =>
    change "\tUploading " ++ artifact.display ++ " to target VM..." ≠ ""
    simp
  | uploaded | rebooting | stillPreparing | shutDown => decide

theorem text_toList_ne_nil (e : Progress) : e.text.toList ≠ [] :=
  mt String.toList_eq_nil_iff.mp (text_ne_empty e)

theorem toList_transcript (events : List Progress) :
    (transcript events).toList = events.flatMap fun e => e.text.toList := by
  rw [transcript, String.toList_join, List.flatMap_map]

theorem transcript_append (u v : List Progress) :
    (transcript (u ++ v)).toList = (transcript u).toList ++ (transcript v).toList := by
  simp only [toList_transcript, List.flatMap_append]

theorem transcript_cons (e : Progress) (events : List Progress) :
    (transcript (e :: events)).toList = e.text.toList ++ (transcript events).toList := by
  simp only [toList_transcript, List.flatMap_cons]

theorem head?_eq_of_append {s t p q : List Char} (hs : s ≠ []) (ht : t ≠ []) (h : s ++ p <+: t ++ q) :
    s.head? = t.head? := by
  cases s with
  | nil => exact absurd rfl hs
  | cons c s =>
    cases t with
    | nil => exact absurd rfl ht
    | cons d t =>
      obtain ⟨hcd, -⟩ := List.cons_prefix_cons.mp h
      rw [List.head?_cons, List.head?_cons, hcd]

/-- Behind the same events, what is read of one run is the beginning of what is read of another only if
the events are. The induction is on the events of the first run; those that both runs have gone through
are moved to the front. -/
theorem prefix_of_transcript (hu : Reached (w ++ u)) (hv : Reached (w ++ v))
    (h : (transcript u).toList <+: (transcript v).toList) : u <+: v := by
  induction u generalizing w v with
  | nil => exact List.nil_prefix
  | cons a u ih =>
    rw [transcript_cons] at h
    cases v with
    | nil =>
      have hnil : a.text.toList ++ (transcript u).toList = [] := List.prefix_nil.mp h
      exact absurd (List.append_eq_nil_iff.mp hnil).1 (text_toList_ne_nil a)
    | cons b v =>
      rw [transcript_cons] at h
      rw [← List.singleton_append, ← List.append_assoc] at hu hv
      rcases eq_or_head_ne hu.beginning hv.beginning with rfl | hne
      · rw [List.prefix_append_right_inj] at h
        exact List.cons_prefix_cons.mpr ⟨rfl, ih hu hv h⟩
      · exact absurd (head?_eq_of_append (text_toList_ne_nil a) (text_toList_ne_nil b) h) hne

theorem transcript_prefix_iff (hu : Reached u) (hv : Reached v) :
    (transcript u).toList <+: (transcript v).toList ↔ u <+: v := by
  constructor
  · exact prefix_of_transcript (w := []) hu hv
  · rintro ⟨rest, rfl⟩
    rw [transcript_append]
    exact List.prefix_append _ _

/-- What the user reads tells the events. -/
theorem transcript_inj (hu : Reached u) (hv : Reached v) : transcript u = transcript v ↔ u = v := by
  constructor
  · intro h
    have huv := (transcript_prefix_iff hu hv).mp (h ▸ List.prefix_refl _)
    have hvu := (transcript_prefix_iff hv hu).mp (h ▸ List.prefix_refl _)
    exact huv.eq_of_length (Nat.le_antisymm huv.length_le hvu.length_le)
  · rintro rfl
    rfl

end Stemcell.Progress
