import Stemcell.CommandLine.Invocation

/-! The switch for many records in front of a command line changes nothing else in what is asked for. -/
namespace Stemcell.CommandLine

/-- What has been read, behind what was read before. -/
def Taken.behind (more : List (Switch × String)) (t : Taken) : Taken :=
  { t with switches := t.switches ++ more }

theorem readWords_behind (place : Place) (more : List (Switch × String)) (taken : Taken) (words : List Word) :
    readWords place (taken.behind more) words =
      (readWords place taken words).map fun read => (read.1.behind more, read.2) := by
  fun_induction readWords place taken words with
  | case1 taken => rfl
  | case2 taken s v rest htakes ih =>
    rw [readWords, if_pos htakes]
    exact ih
  | case3 taken s v rest htakes =>
    rw [readWords, if_neg htakes]
    rfl
  | case4 taken rest =>
    -- The equation of this branch asks what follows the switch, which does not matter for help.
    rw [readWords.eq_def]
    rfl
  | case5 taken s hhelp htakes v rest ih =>
    rw [readWords, if_neg hhelp, if_pos htakes]
    exact ih
  | case6 taken s rest hhelp htakes hplain =>
    rw [readWords, if_neg hhelp, if_pos htakes]
    · rfl
    · exact hplain
  | case7 taken s rest hhelp htakes ih =>
    rw [readWords.eq_def]
    simp only [hhelp, htakes, if_false, Bool.false_eq_true]
    exact ih
  | case8 taken tail rest => rfl
  | case9 taken rest text hplace =>
    rw [hplace]
    rfl
  | case10 taken rest hplace =>
    rw [hplace]
    rfl
  | case11 taken word rest hvalue hswitch hcluster hplain hseparator ih =>
    rw [readWords]
    · exact ih
    all_goals assumption

theorem readWords_suffix {place : Place} {taken taken' : Taken} {words rest : List Word}
    (h : readWords place taken words = .ok (taken', rest)) : rest <:+ words := by
  fun_induction readWords place taken words with
  | case1 taken => cases h; exact List.suffix_refl _
  | case2 taken s v words htakes ih => exact (ih h).trans (List.suffix_cons _ _)
  | case5 taken s hhelp htakes v words ih =>
    exact (ih h).trans ((List.suffix_cons _ _).trans (List.suffix_cons _ _))
  | case7 taken s words hhelp htakes ih => exact (ih h).trans (List.suffix_cons _ _)
  | case9 taken words text hplace => cases h; exact List.suffix_refl _
  | case10 taken words hplace => cases h; exact List.suffix_refl _
  | case11 taken word words hvalue hswitch hcluster hplain hseparator ih =>
    exact (ih h).trans (List.suffix_cons _ _)
  | _ => cases h

theorem length_classifyAll {switches : List Switch} {texts : List String} {words : List Word}
    (h : Word.classifyAll switches texts = .ok words) : words.length = texts.length := by
  induction texts generalizing words with
  | nil =>
    cases h
    rfl
  | cons text texts ih =>
    rw [Word.classifyAll] at h
    split at h
    · cases h
      simp
    · cases hword : Word.classify switches text with
      | error c => simp [hword, bind, Except.bind] at h
      | ok word =>
        cases hrest : Word.classifyAll switches texts with
        | error c => simp [hword, hrest, bind, Except.bind] at h
        | ok rest =>
          simp only [hword, hrest, bind, Except.bind, pure, Except.pure, Except.ok.injEq] at h
          rw [← h, List.length_cons, List.length_cons, ih hrest]

/-- What is read behind the switch in front. -/
theorem readPlace_verbose {words : List String} {taken : Taken} {rest : List Word}
    (h : readPlace .program words = .ok (taken, rest)) :
    readPlace .program ("--verbose" :: words) = .ok (taken.behind [(.verbose, "")], rest) ∧
      rest.length ≤ words.length := by
  cases hwords : Word.classifyAll Place.program.switches words with
  | error c =>
    rw [readPlace, hwords] at h
    cases h
  | ok classified =>
    have hread : readWords .program {} classified = .ok (taken, rest) := by
      rw [readPlace, hwords] at h
      exact h
    have hswitch : Word.classify Place.program.switches "--verbose" = .ok (.switch .verbose none) := rfl
    have hclassified : Word.classifyAll Place.program.switches ("--verbose" :: words) =
        .ok (.switch .verbose none :: classified) := by
      rw [Word.classifyAll, if_neg (by decide), hswitch, hwords]
      rfl
    constructor
    · have hbehind := readWords_behind .program [(.verbose, "")] {} classified
      rw [hread] at hbehind
      have hfirst : readWords .program {} (.switch .verbose none :: classified) =
          readWords .program (Taken.behind [(.verbose, "")] {}) classified := by
        rw [readWords.eq_def]
        rfl
      rw [readPlace, hclassified]
      exact hfirst.trans hbehind
    · rw [← length_classifyAll hwords]
      exact (readWords_suffix hread).length_le

theorem has_verbose_behind (taken : Taken) : (taken.behind [(.verbose, "")]).has .verbose = true := by
  simp [Taken.has, Taken.value?, Taken.behind, List.find?_append]

theorem ofWords_verbose {words : List String} {verbose : Bool} {command : Command}
    (h : Invocation.ofWords words = .ok ⟨verbose, command⟩) :
    Invocation.ofWords ("--verbose" :: words) = .ok ⟨true, command⟩ := by
  unfold Invocation.ofWords at h ⊢
  cases hread : readPlace .program words with
  | error refusal => simp [hread, bind, Except.bind] at h
  | ok read =>
    obtain ⟨taken, rest⟩ := read
    obtain ⟨hverbose, hlength⟩ := readPlace_verbose hread
    rw [hread] at h
    rw [hverbose]
    dsimp only [bind, Except.bind] at h ⊢
    split at h
    · cases h
    · cases h
    · next word behind =>
      have hdrop : ("--verbose" :: words).drop (("--verbose" :: words).length - behind.length) =
          words.drop (words.length - behind.length) := by
        rw [List.length_cons] at hlength ⊢
        rw [show words.length + 1 - behind.length = (words.length - behind.length) + 1 by omega]
        rfl
      rw [hdrop]
      split at h
      · cases h
      · next name _ =>
        cases hcommand : readPlace (.command name) (words.drop (words.length - behind.length)) with
        | error refusal => simp [hcommand] at h
        | ok ofCommand =>
          rw [hcommand] at h
          dsimp only at h ⊢
          have hextras : (taken.behind [(.verbose, "")]).extras = taken.extras := rfl
          rw [hextras, has_verbose_behind]
          split at h
          · cases h
            rfl
          · cases h
    · cases h

end Stemcell.CommandLine
