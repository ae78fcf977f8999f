import Stemcell.Log.Record
import Stemcell.Proofs.Log.Written

/-! Filled-in templates: what is shown are stretches of the template and values as placeholders write them.
A template can also be filled in with values that are alike, and with other characters between its
placeholders. -/
namespace Stemcell.Log

variable {R : Value → Value → Prop}

namespace Arguments

/-- What a placeholder can write: any of the values, and values by name also all together. -/
def values : Arguments → List Value
  | .none => []
  | .places values => values
  | .names entries => .mapping entries :: entries.map Prod.snd

def isBare : Arguments → Bool
  | .none | .places [] | .names [] => true
  | _ => false

/-- Values in the same order and under the same names, each related to the one in its place. -/
inductive Related (R : Value → Value → Prop) : Arguments → Arguments → Prop where
  | none : Related R .none .none
  | places {values values' : List Value} (h : List.Forall₂ R values values') :
    Related R (.places values) (.places values')
  | names {entries entries' : List (Value × Value)} (h : List.Forall₂ (RelatedEntry R) entries entries') :
    Related R (.names entries) (.names entries')

theorem Related.isBare_eq {arguments arguments' : Arguments} (h : arguments.Related R arguments') :
    arguments'.isBare = arguments.isBare := by
  cases h with
  | none => rfl
  | places h => cases h <;> rfl
  | names h => cases h <;> rfl

theorem Related.refl (h : ∀ v, R v v) (arguments : Arguments) : arguments.Related R arguments := by
  cases arguments with
  | none => exact .none
  | places values => exact .places (List.forall₂_same.mpr fun v _ => h v)
  | names entries => exact .names (List.forall₂_same.mpr fun e _ => ⟨rfl, h e.2⟩)

theorem Related.imp {S : Value → Value → Prop} {arguments arguments' : Arguments}
    (himp : ∀ v v', R v v' → S v v') (h : arguments.Related R arguments') :
    arguments.Related S arguments' := by
  cases h with
  | none => exact .none
  | places h => exact .places (h.imp himp)
  | names h => exact .names (h.imp fun _ _ he => ⟨he.1, himp _ _ he.2⟩)

theorem mem_of_forall₂ {α β : Type} {S : α → β → Prop} {l : List α} {l' : List β} {b : β}
    (h : List.Forall₂ S l l') (hb : b ∈ l') : ∃ a ∈ l, S a b := by
  induction h with
  | nil => cases hb
  | @cons a b' l l' hab _ ih =>
    rcases List.mem_cons.mp hb with rfl | hb
    · exact ⟨a, List.mem_cons_self, hab⟩
    · obtain ⟨a', ha', hab'⟩ := ih hb
      exact ⟨a', List.mem_cons_of_mem _ ha', hab'⟩

/-- Each value that can be written is related to one, but for a mapping as a whole. -/
theorem Related.origin {arguments arguments' : Arguments} {v' : Value}
    (h : arguments.Related R arguments') (hv : v' ∈ arguments'.values) :
    (∃ v, R v v') ∨ v'.kind = .mapping := by
  cases h with
  | none => cases hv
  | places h =>
    obtain ⟨v, -, hrel⟩ := mem_of_forall₂ h hv
    exact .inl ⟨v, hrel⟩
  | names h =>
    rcases List.mem_cons.mp hv with rfl | hv
    · exact .inr rfl
    · obtain ⟨e', he', rfl⟩ := List.mem_map.mp hv
      obtain ⟨e, -, hrel⟩ := mem_of_forall₂ h he'
      exact .inl ⟨e.2, hrel.2⟩

end Arguments

namespace Template

/-- The pieces of a filled-in template, from the left: stretches of it up to the next percent sign, which goes
with the stretch before it where two of them stand for one, and values as placeholders write them. -/
inductive Filled (values : List Value) : List Char → List (List Char) → Prop where
  | plain {stretch : List Char} (h : '%' ∉ stretch) : Filled values stretch [stretch]
  | percent {stretch template : List Char} {pieces : List (List Char)} (h : '%' ∉ stretch)
    (rest : Filled values template pieces) :
    Filled values (stretch ++ '%' :: '%' :: template) ((stretch ++ ['%']) :: pieces)
  | value {stretch read template piece : List Char} {pieces : List (List Char)} {p : Placeholder} {c : Char}
    {place : Nat} {v : Value} (h : '%' ∉ stretch) (hv : v ∈ values)
    (hwritten : written p c place v = .ok piece) (rest : Filled values template pieces) :
    Filled values (stretch ++ '%' :: (read ++ c :: template)) (stretch :: piece :: pieces)

variable {values : List Value} {template : List Char} {pieces : List (List Char)}

theorem Filled.cons {c : Char} (hc : c ≠ '%') (h : Filled values template pieces) :
    ∃ first rest, pieces = first :: rest ∧ Filled values (c :: template) ((c :: first) :: rest) := by
  have hstretch : ∀ {stretch : List Char}, '%' ∉ stretch → '%' ∉ c :: stretch := by
    intro stretch h hmem
    rcases List.mem_cons.mp hmem with heq | hmem
    · exact hc heq.symm
    · exact h hmem
  cases h with
  | plain h => exact ⟨_, _, rfl, .plain (hstretch h)⟩
  | percent h rest => exact ⟨_, _, rfl, .percent (hstretch h) rest⟩
  | value h hv hwritten rest => exact ⟨_, _, rfl, .value (hstretch h) hv hwritten rest⟩

/-- Each piece is a stretch of the template or a value as a placeholder writes it. -/
theorem Filled.piece {piece : List Char} (h : Filled values template pieces) (hpiece : piece ∈ pieces) :
    piece <:+: template ∨ ∃ v ∈ values, ∃ p c place, written p c place v = .ok piece := by
  induction h with
  | plain h =>
    rw [List.mem_singleton.mp hpiece]
    exact .inl List.infix_rfl
  | @percent stretch template pieces h rest ih =>
    rcases List.mem_cons.mp hpiece with rfl | hpiece
    · exact .inl ⟨[], '%' :: template, by simp⟩
    · refine (ih hpiece).imp_left fun hwithin => hwithin.trans ?_
      exact ⟨stretch ++ ['%', '%'], [], by simp⟩
  | @value stretch read template piece' pieces p c place v h hv hwritten rest ih =>
    rcases List.mem_cons.mp hpiece with rfl | hpiece
    · exact .inl ⟨[], '%' :: (read ++ c :: template), by simp⟩
    · rcases List.mem_cons.mp hpiece with rfl | hpiece
      · exact .inr ⟨v, hv, p, c, place, hwritten⟩
      · refine (ih hpiece).imp_left fun hwithin => hwithin.trans ?_
        exact ⟨stretch ++ '%' :: (read ++ [c]), [], by simp⟩

/-- The same value, from these. -/
def Within (values : List Value) (v v' : Value) : Prop := v' = v ∧ v ∈ values

theorem counts_within : Counts (Within values) := by
  rintro v _ ⟨rfl, -⟩
  rfl

/-! Filling in, character by character. -/

variable {total fuel : Nat} {supply supply' left : Supply} {done s text : List Char}

theorem fillFrom_nil (total fuel : Nat) (supply : Supply) (done : List Char) :
    fillFrom total supply done fuel [] = .ok (supply, done.reverse) := by
  rw [fillFrom]

theorem fillFrom_char {c : Char} (hc : c ≠ '%') (total fuel : Nat) (supply : Supply) (done s : List Char) :
    fillFrom total supply done (fuel + 1) (c :: s) = fillFrom total supply (c :: done) fuel s := by
  rw [fillFrom]
  exact hc

theorem fillFrom_mark (hs : s.head? ≠ some '%') (total fuel : Nat) (supply : Supply) (done : List Char) :
    fillFrom total supply done (fuel + 1) ('%' :: s) = (do
      let (text, supply, rest) ← fillOne total supply s
      fillFrom total supply (text.reverse ++ done) fuel rest) := by
  rw [fillFrom]
  · cases fillOne total supply s with
    | error f => rfl
    | ok found => rfl
  · intro rest hrest
    rw [hrest] at hs
    exact hs rfl

theorem fillFrom_filled (hsupply : supply.Related (Within values) supply) (hfuel : s.length ≤ fuel)
    (h : fillFrom total supply done fuel s = .ok (left, text)) :
    ∃ pieces, text = done.reverse ++ pieces.flatten ∧ Filled values s pieces := by
  fun_induction fillFrom total supply done fuel s with
  | case1 _ _ done =>
    cases h
    exact ⟨[[]], by simp, .plain List.not_mem_nil⟩
  | case2 _ _ s hne => exact absurd (List.length_eq_zero_iff.mp (Nat.le_zero.mp hfuel)) hne
  | case3 supply done fuel rest ih =>
    obtain ⟨pieces, htext, hfilled⟩ := ih hsupply (by simp at hfuel; omega) h
    have hsign : Filled values ([] ++ '%' :: '%' :: rest) (([] ++ ['%']) :: pieces) :=
      .percent List.not_mem_nil hfilled
    exact ⟨_, by simpa using htext, hsign⟩
  | case4 => cases h
  | case5 supply done fuel rest _ piece after behind hone ih =>
    obtain ⟨p, c, place, v, _, read, after', -, rfl, ⟨rfl, hv⟩, hwritten, hafter, hagain⟩ :=
      fillOne_related counts_within hsupply hone
    obtain ⟨place', hagain⟩ := hagain total behind
    rw [hagain piece (written_place hwritten place')] at hone
    cases hone
    obtain ⟨pieces, htext, hfilled⟩ := ih hafter (by simp at hfuel; omega) h
    have hvalue : Filled values ([] ++ '%' :: (read ++ c :: behind)) ([] :: piece :: pieces) :=
      .value List.not_mem_nil hv hwritten hfilled
    exact ⟨_, by simpa using htext, hvalue⟩
  | case6 supply done fuel c rest hc ih =>
    obtain ⟨pieces, htext, hfilled⟩ := ih hsupply (by simp at hfuel; omega) h
    obtain ⟨first, more, rfl, hcons⟩ := hfilled.cons hc
    exact ⟨_, by simpa using htext, hcons⟩

/-! Templates with the same placeholders. -/

/-- Two templates with the same placeholders, two percent signs included: they differ only in characters
between those. -/
inductive SameMarks : List Char → List Char → Prop where
  | nil : SameMarks [] []
  | left {c : Char} {s s' : List Char} (hc : c ≠ '%') (h : SameMarks s s') : SameMarks (c :: s) s'
  | right {c : Char} {s s' : List Char} (hc : c ≠ '%') (h : SameMarks s s') : SameMarks s (c :: s')
  | mark {read : List Char} {c : Char} {s s' : List Char} (hread : behindPlaceholder (read ++ c :: s) = c :: s)
    (h : SameMarks s s') : SameMarks ('%' :: (read ++ c :: s)) ('%' :: (read ++ c :: s'))

theorem behindPlaceholder_percent (s : List Char) : behindPlaceholder ('%' :: s) = '%' :: s := rfl

/-- A template that can be filled in has the placeholders that it has. -/
theorem sameMarks_self (hsupply : supply.Related (Within values) supply) (hfuel : s.length ≤ fuel)
    (h : fillFrom total supply done fuel s = .ok (left, text)) : SameMarks s s := by
  fun_induction fillFrom total supply done fuel s with
  | case1 => exact .nil
  | case2 _ _ s hne => exact absurd (List.length_eq_zero_iff.mp (Nat.le_zero.mp hfuel)) hne
  | case3 supply done fuel rest ih =>
    have hrest := ih hsupply (by simp at hfuel; omega) h
    exact @SameMarks.mark [] '%' rest rest (behindPlaceholder_percent rest) hrest
  | case4 => cases h
  | case5 supply done fuel rest _ piece after behind hone ih =>
    obtain ⟨p, c, place, v, _, read, after', hbehind, rfl, ⟨rfl, -⟩, hwritten, hafter, hagain⟩ :=
      fillOne_related counts_within hsupply hone
    obtain ⟨place', hagain⟩ := hagain total behind
    rw [hagain piece (written_place hwritten place')] at hone
    cases hone
    exact .mark hbehind (ih hafter (by simp at hfuel; omega) h)
  | case6 supply done fuel c rest hc ih =>
    exact .left hc (.right hc (ih hsupply (by simp at hfuel; omega) h))

theorem fillFrom_sameMarks {s' : List Char} (hmarks : SameMarks s s') (hsupply : supply.Related Alike supply')
    (hfuel : s.length ≤ fuel) (h : fillFrom total supply done fuel s = .ok (left, text))
    (total' : Nat) (done' : List Char) {fuel' : Nat} (hfuel' : s'.length ≤ fuel') :
    ∃ left' text', fillFrom total' supply' done' fuel' s' = .ok (left', text') ∧ left.Related Alike left' := by
  induction hmarks generalizing supply supply' done fuel done' fuel' with
  | nil =>
    rw [fillFrom_nil] at h
    cases h
    exact ⟨supply', _, fillFrom_nil .., hsupply⟩
  | @left c s s' hc _ ih =>
    obtain ⟨fuel, rfl⟩ : ∃ n, fuel = n + 1 := ⟨fuel - 1, by simp at hfuel; omega⟩
    rw [fillFrom_char hc] at h
    exact ih hsupply (by simpa using hfuel) h done' hfuel'
  | @right c s s' hc _ ih =>
    obtain ⟨fuel', rfl⟩ : ∃ n, fuel' = n + 1 := ⟨fuel' - 1, by simp at hfuel'; omega⟩
    rw [fillFrom_char hc]
    exact ih hsupply hfuel h (c :: done') (by simpa using hfuel')
  | @mark read c s s' hread _ ih =>
    obtain ⟨fuel, rfl⟩ : ∃ n, fuel = n + 1 := ⟨fuel - 1, by simp at hfuel; omega⟩
    obtain ⟨fuel', rfl⟩ : ∃ n, fuel' = n + 1 := ⟨fuel' - 1, by simp at hfuel'; omega⟩
    have hlength : s.length ≤ fuel := by simp at hfuel; omega
    have hlength' : s'.length ≤ fuel' := by simp at hfuel'; omega
    by_cases hsign : (read ++ c :: s).head? = some '%'
    · -- The second percent sign is the kind of this placeholder, and no value is taken for it.
      obtain ⟨behind, hbehind⟩ := List.head?_eq_some_iff.mp hsign
      rw [hbehind, behindPlaceholder_percent] at hread
      obtain rfl : read = [] := List.append_left_eq_self.mp (hbehind.trans hread)
      cases hread
      exact ih hsupply hlength h ('%' :: done') hlength'
    · have hsign' : (read ++ c :: s').head? ≠ some '%' := by
        have hsame : (read ++ c :: s').head? = (read ++ c :: s).head? := head_append rfl
        rwa [hsame]
      rw [fillFrom_mark hsign] at h
      rw [fillFrom_mark hsign']
      obtain ⟨⟨piece, after, rest⟩, hone, h⟩ := ok_of_bind h
      obtain ⟨p, d, place, v, v', read', after', hbehind, hs, hv, hwritten, hafter, hagain⟩ :=
        fillOne_related counts_alike hsupply hone
      obtain ⟨rfl, rfl⟩ : c = d ∧ s = rest := List.cons.inj (hread.symm.trans hbehind)
      obtain rfl : read = read' := List.append_cancel_right hs
      obtain ⟨place', hagain⟩ := hagain total' s'
      obtain ⟨piece', hwritten'⟩ := written_alike hv hwritten place'
      rw [hagain piece' hwritten']
      exact ih hafter hlength h (piece'.reverse ++ done') hlength'

theorem ofArguments_related {arguments arguments' : Arguments} (h : arguments.Related R arguments')
    (hmapping : ∀ entries entries', List.Forall₂ (RelatedEntry R) entries entries' →
      R (.mapping entries) (.mapping entries')) :
    (Supply.ofArguments arguments).Related R (Supply.ofArguments arguments') := by
  cases h with
  | none => exact ⟨.nil, .none⟩
  | places h => exact ⟨h, .none⟩
  | names h => exact ⟨.cons (hmapping _ _ h) .nil, .some h⟩

theorem Supply.Related.unused_eq {supply supply' : Supply} (h : supply.Related R supply') :
    (supply'.names.isNone && !supply'.rest.isEmpty) = (supply.names.isNone && !supply.rest.isEmpty) := by
  obtain ⟨rest, names⟩ := supply
  obtain ⟨rest', names'⟩ := supply'
  obtain ⟨hrest, hnames⟩ := h
  cases hrest <;> cases hnames <;> rfl

theorem fill_bare {arguments : Arguments} (h : arguments.isBare = true) (template : String) :
    fill template arguments = .ok template := by
  cases arguments with
  | none => rfl
  | places values =>
    cases values with
    | nil => rfl
    | cons v values => cases h
  | names entries =>
    cases entries with
    | nil => rfl
    | cons e entries => cases h

theorem fill_of_not_bare {arguments : Arguments} (h : arguments.isBare = false) (template : String) :
    fill template arguments =
      (fillFrom template.toList.length (Supply.ofArguments arguments) [] template.toList.length
        template.toList).bind fun filled =>
          if filled.1.names.isNone && !filled.1.rest.isEmpty then .error .tooManyValues
          else .ok (String.ofList filled.2) := by
  unfold fill
  split
  · cases h
  · cases h
  · cases h
  · dsimp only
    split <;> simp [Except.bind, *]

theorem ofArguments_within (arguments : Arguments) :
    (Supply.ofArguments arguments).Related (Within arguments.values) (Supply.ofArguments arguments) := by
  cases arguments with
  | none => exact ⟨.nil, .none⟩
  | places values => exact ⟨List.forall₂_same.mpr fun v hv => ⟨rfl, hv⟩, .none⟩
  | names entries =>
    refine ⟨.cons ⟨rfl, List.mem_cons_self⟩ .nil,
      .some (List.forall₂_same.mpr fun e he => ⟨rfl, rfl, ?_⟩)⟩
    exact List.mem_cons_of_mem _ (List.mem_map_of_mem he)

/-- A filled-in template is made of stretches of it and of values. -/
theorem fill_filled {arguments : Arguments} {template text : String} (hbare : arguments.isBare = false)
    (h : fill template arguments = .ok text) :
    ∃ pieces, text.toList = pieces.flatten ∧ Filled arguments.values template.toList pieces := by
  rw [fill_of_not_bare hbare] at h
  obtain ⟨⟨left, shown⟩, hfill, h⟩ := ok_of_bind h
  obtain ⟨pieces, hshown, hfilled⟩ := fillFrom_filled (ofArguments_within arguments) (Nat.le_refl _) hfill
  refine ⟨pieces, ?_, hfilled⟩
  split at h
  · cases h
  · cases h
    rw [String.toList_ofList]
    exact hshown

/-- A template that can be filled in can also be filled in with values that are alike, and with other characters
between its placeholders. -/
theorem fill_sameMarks {arguments arguments' : Arguments} {template template' text : String}
    (h : arguments.Related Alike arguments') (hmarks : SameMarks template.toList template'.toList)
    (hfill : fill template arguments = .ok text) : ∃ text', fill template' arguments' = .ok text' := by
  cases hbare : arguments.isBare with
  | true => exact ⟨template', fill_bare (h.isBare_eq.trans hbare) template'⟩
  | false =>
    rw [fill_of_not_bare hbare] at hfill
    rw [fill_of_not_bare (h.isBare_eq.trans hbare)]
    obtain ⟨⟨left, shown⟩, hfilled, hleft⟩ := ok_of_bind hfill
    obtain ⟨left', shown', hfilled', hrelated⟩ :=
      fillFrom_sameMarks hmarks (ofArguments_related h fun _ _ => alike_mapping) (Nat.le_refl _) hfilled
        template'.toList.length [] (Nat.le_refl _)
    refine ⟨String.ofList shown', ?_⟩
    simp only [hfilled', Except.bind, hrelated.unused_eq]
    dsimp only at hleft
    split at hleft
    · cases hleft
    · next h => rw [if_neg h]

theorem fill_alike {arguments arguments' : Arguments} {template text : String}
    (h : arguments.Related Alike arguments') (hfill : fill template arguments = .ok text) :
    ∃ text', fill template arguments' = .ok text' := by
  cases hbare : arguments.isBare with
  | true => exact ⟨template, fill_bare (h.isBare_eq.trans hbare) template⟩
  | false =>
    have hfilled := hfill
    rw [fill_of_not_bare hbare] at hfilled
    obtain ⟨⟨left, shown⟩, hfilled, -⟩ := ok_of_bind hfilled
    exact fill_sameMarks h (sameMarks_self (ofArguments_within arguments) (Nat.le_refl _) hfilled) hfill

end Template

end Stemcell.Log
