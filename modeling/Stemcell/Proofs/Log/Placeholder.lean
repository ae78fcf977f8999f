import Mathlib.Data.List.Forall2
import Stemcell.Log.Template

/-! Placeholders. How far one reaches is said by the template alone; the values say whether it can be read,
and by what it is filled. Two readings with values that are alike go in lockstep. -/
namespace Stemcell.Log

variable {R : Value → Value → Prop}

/-- The same name, with a value that is related. -/
def RelatedEntry (R : Value → Value → Prop) (e e' : Value × Value) : Prop := e'.1 = e.1 ∧ R e.2 e'.2

theorem field_related {entries entries' : List (Value × Value)} {name : String} {v : Value}
    (h : List.Forall₂ (RelatedEntry R) entries entries') (hv : Value.field? name entries = some v) :
    ∃ v', Value.field? name entries' = some v' ∧ R v v' := by
  unfold Value.field? Value.entry? at hv ⊢
  induction h with
  | nil => cases hv
  | @cons e e' entries entries' he _ ih =>
    obtain ⟨hkey, hvalue⟩ := he
    rw [List.find?_cons] at hv ⊢
    rw [hkey]
    cases hsame : e.1.sameKey (.text name) with
    | true =>
      rw [hsame] at hv
      cases hv
      exact ⟨e'.2, rfl, hvalue⟩
    | false =>
      rw [hsame] at hv
      exact ih hv

namespace Template

/-! How far a placeholder reaches. -/

def behindName (s : List Char) : List Char :=
  match s with
  | '(' :: rest =>
    match readName 0 [] rest with
    | .ok (_, rest) => rest
    | .error _ => []
  | s => s

def behindFlags (s : List Char) : List Char := (readFlags {} s).2

def behindCount (s : List Char) : List Char :=
  match s with
  | '*' :: rest => rest
  | s => s.dropWhile Char.isDigit

def behindPrecision (s : List Char) : List Char :=
  match s with
  | '.' :: rest => behindCount rest
  | s => s

/-- What is left of a text behind a placeholder without its kind. -/
def behindPlaceholder (s : List Char) : List Char :=
  dropSize (behindPrecision (behindCount (behindFlags (behindName s))))

/-! Reading in lockstep. -/

structure Supply.Related (R : Value → Value → Prop) (supply supply' : Supply) : Prop where
  rest : List.Forall₂ R supply.rest supply'.rest
  names : Option.Rel (List.Forall₂ (RelatedEntry R)) supply.names supply'.names

/-- Whenever the first reader gets through, so does the second one: it reads the same, and what begins in the
same way behind that makes no difference to it. -/
def Lockstep {α : Type} (R : Value → Value → Prop) (behind : List Char → List Char)
    (first second : List Char → Except Fault (α × Supply × List Char)) : Prop :=
  ∀ s x left rest, first s = .ok (x, left, rest) → rest = behind s ∧
    ∃ read left', s = read ++ rest ∧ left.Related R left' ∧
      ∀ rest', rest'.head? = rest.head? → second (read ++ rest') = .ok (x, left', rest')

theorem head_append {read s s' : List Char} (h : s.head? = s'.head?) :
    (read ++ s).head? = (read ++ s').head? := by
  rw [List.head?_append, List.head?_append, h]

theorem lockstep_nothing {α : Type} {x : α} {left left' : Supply} (h : left.Related R left') :
    Lockstep R id (fun s => .ok (x, left, s)) (fun s => .ok (x, left', s)) := by
  intro s y after rest hfirst
  cases hfirst
  exact ⟨rfl, [], left', rfl, h, fun _ _ => rfl⟩

theorem Lockstep.bind {α β : Type} {f g : List Char → List Char}
    {first second : List Char → Except Fault (α × Supply × List Char)}
    {next : α × Supply × List Char → Except Fault (β × Supply × List Char)}
    (h : Lockstep R f first second)
    (hnext : ∀ x left left', left.Related R left' →
      Lockstep R g (fun s => next (x, left, s)) (fun s => next (x, left', s))) :
    Lockstep R (g ∘ f) (fun s => first s >>= next) (fun s => second s >>= next) := by
  intro s y after last hfirst
  obtain ⟨⟨x, left, rest⟩, hread, hnextread⟩ := ok_of_bind hfirst
  obtain ⟨hf, read, left', rfl, hleft, hsecond⟩ := h s x left rest hread
  obtain ⟨hg, read', after', rfl, hafter, hthen⟩ := hnext x left left' hleft rest y after last hnextread
  refine ⟨hg.trans (congrArg g hf), read ++ read', after', by rw [List.append_assoc], hafter, ?_⟩
  intro last' hhead
  have hfound := hsecond (read' ++ last') (head_append hhead)
  dsimp only
  rw [List.append_assoc, hfound]
  exact hthen last' hhead

theorem next_related {supply supply' left : Supply} {v : Value} (h : supply.Related R supply')
    (hnext : supply.next = .ok (v, left)) :
    ∃ v' left', supply'.next = .ok (v', left') ∧ R v v' ∧ left.Related R left' := by
  obtain ⟨hrest, hnames⟩ := h
  unfold Supply.next at hnext ⊢
  cases hrest' : supply.rest with
  | nil =>
    rw [hrest'] at hnext
    cases hnext
  | cons w rest =>
    rw [hrest'] at hnext hrest
    cases hnext
    cases hother : supply'.rest with
    | nil =>
      rw [hother] at hrest
      cases hrest
    | cons w' rest' =>
      rw [hother] at hrest
      obtain ⟨hw, hmore⟩ := List.forall₂_cons.mp hrest
      exact ⟨w', _, rfl, hw, hmore, hnames⟩

theorem readName_local {depth : Nat} {done s name rest : List Char}
    (h : readName depth done s = .ok (name, rest)) :
    ∃ read, s = read ++ rest ∧ ∀ rest', readName depth done (read ++ rest') = .ok (name, rest') := by
  fun_induction readName depth done s with
  | case1 => cases h
  | case2 done rest =>
    cases h
    exact ⟨[')'], rfl, fun _ => rfl⟩
  | case3 depth done rest hdepth ih =>
    obtain ⟨read, rfl, hread⟩ := ih h
    refine ⟨')' :: read, rfl, fun rest' => ?_⟩
    rw [List.cons_append, readName, if_neg hdepth]
    exact hread rest'
  | case4 depth done rest ih =>
    obtain ⟨read, rfl, hread⟩ := ih h
    exact ⟨'(' :: read, rfl, hread⟩
  | case5 depth done c rest hclose hopen ih =>
    obtain ⟨read, rfl, hread⟩ := ih h
    refine ⟨c :: read, rfl, fun rest' => ?_⟩
    rw [List.cons_append, readName]
    · exact hread rest'
    · exact hclose
    · exact hopen

theorem pickNamed_plain {s : List Char} (h : s.head? ≠ some '(') (supply : Supply) :
    pickNamed supply s = .ok (supply, s) := by
  unfold pickNamed
  split
  · exact absurd rfl h
  · rfl

theorem pickNamed_related {supply supply' left : Supply} {s rest : List Char} (h : supply.Related R supply')
    (hpick : pickNamed supply s = .ok (left, rest)) : rest = behindName s ∧
      ∃ read left', s = read ++ rest ∧ left.Related R left' ∧
        ∀ rest', rest'.head? = rest.head? → pickNamed supply' (read ++ rest') = .ok (left', rest') := by
  unfold pickNamed at hpick
  split at hpick
  · next behind =>
    cases hnames : supply.names with
    | none =>
      rw [hnames] at hpick
      cases hpick
    | some entries =>
      obtain ⟨entries', hnames', hentries⟩ : ∃ entries', supply'.names = some entries' ∧
          List.Forall₂ (RelatedEntry R) entries entries' := by
        have hrel := h.names
        rw [hnames] at hrel
        cases hother : supply'.names with
        | none =>
          rw [hother] at hrel
          cases hrel
        | some entries' =>
          rw [hother] at hrel
          cases hrel with
          | some hentries => exact ⟨entries', rfl, hentries⟩
      rw [hnames] at hpick
      obtain ⟨⟨name, after⟩, hname, hpick⟩ := ok_of_bind hpick
      cases hfield : Value.field? (String.ofList name) entries with
      | none =>
        simp only [hfield] at hpick
        cases hpick
      | some v =>
        simp only [hfield] at hpick
        cases hpick
        obtain ⟨v', hfield', hv⟩ := field_related hentries hfield
        obtain ⟨read, rfl, hread⟩ := readName_local hname
        refine ⟨by rw [behindName, hname], '(' :: read, { supply' with rest := [v'] }, rfl,
          ⟨.cons hv .nil, ?_⟩, ?_⟩
        · rw [hnames']
          exact .some hentries
        · intro rest' _
          simp only [List.cons_append, pickNamed, hnames', hread rest', bind, Except.bind, hfield']
          rfl
  · next hplain =>
    cases hpick
    refine ⟨?_, [], supply', rfl, h, fun rest' hhead => pickNamed_plain ?_ supply'⟩
    · unfold behindName
      split
      · exact absurd rfl (hplain _)
      · rfl
    · rw [List.nil_append, hhead]
      intro hopen
      obtain ⟨behind, rfl⟩ := List.head?_eq_some_iff.mp hopen
      exact hplain behind rfl

theorem readFlags_local (p : Placeholder) (s : List Char) :
    ∃ read, s = read ++ (readFlags p s).2 ∧ ∀ rest', rest'.head? = (readFlags p s).2.head? →
      readFlags p (read ++ rest') = ((readFlags p s).1, rest') := by
  fun_induction readFlags p s with
  | case1 p rest ih | case2 p rest ih | case3 p rest ih | case4 p rest ih | case5 p rest ih =>
    obtain ⟨read, hs, hread⟩ := ih
    exact ⟨_ :: read, congrArg (List.cons _) hs, hread⟩
  | case6 p s hminus hplus hblank hmark hzero =>
    refine ⟨[], rfl, fun rest' hhead => ?_⟩
    cases s with
    | nil =>
      rw [List.head?_eq_none_iff.mp hhead]
      rfl
    | cons c rest =>
      obtain ⟨behind, rfl⟩ := List.head?_eq_some_iff.mp hhead
      have hother : ∀ d more, c :: behind = d :: more → c :: rest = d :: rest := by
        rintro d more heq
        rw [(List.cons.inj heq).1]
      rw [List.nil_append, readFlags]
      · exact fun more heq => hminus _ (hother _ more heq)
      · exact fun more heq => hplus _ (hother _ more heq)
      · exact fun more heq => hblank _ (hother _ more heq)
      · exact fun more heq => hmark _ (hother _ more heq)
      · exact fun more heq => hzero _ (hother _ more heq)

/-- Related values stand for the same number if for any. -/
abbrev Counts (R : Value → Value → Prop) : Prop := ∀ v v', R v v' → v'.number? = v.number?

theorem readDigits_local {limit : Nat} {s rest : List Char} {x : Option Int}
    (h : readDigits limit s = .ok (x, rest)) : rest = s.dropWhile Char.isDigit ∧
      ∃ read, s = read ++ rest ∧
        ∀ rest', rest'.head? = rest.head? → readDigits limit (read ++ rest') = .ok (x, rest') := by
  have hrest : rest = s.dropWhile Char.isDigit := by
    unfold readDigits at h
    dsimp only at h
    split at h
    · cases h
      rfl
    · split at h
      · cases h
      · cases h
        rfl
  subst hrest
  refine ⟨rfl, s.takeWhile Char.isDigit, List.takeWhile_append_dropWhile.symm, fun rest' hhead => ?_⟩
  have hdigits : ∀ c ∈ s.takeWhile Char.isDigit, c.isDigit = true :=
    List.all_eq_true.mp List.all_takeWhile
  have hnone : rest'.takeWhile Char.isDigit = [] ∧ rest'.dropWhile Char.isDigit = rest' := by
    have hend := List.head?_dropWhile_not Char.isDigit s
    rw [← hhead] at hend
    cases rest' with
    | nil => exact ⟨rfl, rfl⟩
    | cons c rest' =>
      have hc : c.isDigit = false := hend
      simp [hc]
  unfold readDigits at h ⊢
  rw [List.takeWhile_append_of_pos hdigits, List.dropWhile_append_of_pos hdigits, hnone.1, hnone.2,
    List.append_nil]
  dsimp only at h ⊢
  split at h
  · next hempty =>
    cases h
    rw [if_pos hempty]
  · next hempty =>
    split at h
    · cases h
    · next hlimit =>
      cases h
      rw [if_neg hempty, if_neg hlimit]

/-- What does not begin with a star has the number itself. -/
theorem readCount_plain {s : List Char} (h : s.head? ≠ some '*') (limit : Nat) (supply : Supply) :
    readCount limit supply s = (do
      let (n, rest) ← readDigits limit s
      return (n, supply, rest)) := by
  unfold readCount
  split
  · exact absurd rfl h
  · rfl

theorem lockstep_readCount (hR : Counts R) {supply supply' : Supply} (h : supply.Related R supply')
    (limit : Nat) : Lockstep R behindCount (readCount limit supply) (readCount limit supply') := by
  intro s x left rest hfirst
  by_cases hstar : s.head? = some '*'
  · obtain ⟨behind, rfl⟩ := List.head?_eq_some_iff.mp hstar
    obtain ⟨⟨v, after⟩, hnext, hfirst⟩ := ok_of_bind hfirst
    obtain ⟨v', after', hnext', hv, hafter⟩ := next_related h hnext
    simp only at hfirst
    split at hfirst
    · next n hn =>
      by_cases hlimit : limit < n.natAbs
      · rw [if_pos hlimit] at hfirst
        cases hfirst
      · rw [if_neg hlimit] at hfirst
        cases hfirst
        refine ⟨rfl, ['*'], after', rfl, hafter, fun rest' _ => ?_⟩
        simp only [List.cons_append, List.nil_append, readCount, hnext', bind, Except.bind, hR v v' hv, hn,
          if_neg hlimit]
        rfl
    · cases hfirst
  · rw [readCount_plain hstar] at hfirst
    obtain ⟨⟨n, behind⟩, hdigits, hfirst⟩ := ok_of_bind hfirst
    cases hfirst
    obtain ⟨hrest, read, hs, hread⟩ := readDigits_local hdigits
    refine ⟨?_, read, supply', hs, h, fun rest' hhead => ?_⟩
    · unfold behindCount
      split
      · exact absurd rfl hstar
      · exact hrest
    · rw [hs, ← head_append hhead] at hstar
      rw [readCount_plain hstar, hread rest' hhead]
      rfl

theorem lockstep_readWidth (hR : Counts R) {supply supply' : Supply} (h : supply.Related R supply')
    (p : Placeholder) : Lockstep R behindCount (readWidth p supply) (readWidth p supply') := by
  refine (lockstep_readCount hR h widthLimit).bind (g := id) fun width left left' hleft => ?_
  cases width with
  | none => exact lockstep_nothing hleft
  | some n => exact lockstep_nothing hleft

theorem readPrecision_plain {s : List Char} (h : s.head? ≠ some '.') (p : Placeholder) (supply : Supply) :
    readPrecision p supply s = .ok (p, supply, s) := by
  unfold readPrecision
  split
  · exact absurd rfl h
  · rfl

theorem lockstep_readPrecision (hR : Counts R) {supply supply' : Supply} (h : supply.Related R supply')
    (p : Placeholder) :
    Lockstep R behindPrecision (readPrecision p supply) (readPrecision p supply') := by
  intro s x left rest hfirst
  by_cases hpoint : s.head? = some '.'
  · obtain ⟨behind, rfl⟩ := List.head?_eq_some_iff.mp hpoint
    have hcount : Lockstep R behindCount (fun s => readPrecision p supply ('.' :: s))
        (fun s => readPrecision p supply' ('.' :: s)) :=
      (lockstep_readCount hR h precisionLimit).bind (g := id) fun _ _ _ hleft => lockstep_nothing hleft
    obtain ⟨hbehind, read, left', rfl, hleft, hread⟩ := hcount behind x left rest hfirst
    exact ⟨hbehind, '.' :: read, left', rfl, hleft, hread⟩
  · rw [readPrecision_plain hpoint] at hfirst
    cases hfirst
    refine ⟨?_, [], supply', rfl, h, fun rest' hhead => readPrecision_plain ?_ p supply'⟩
    · unfold behindPrecision
      split
      · exact absurd rfl hpoint
      · rfl
    · rwa [List.nil_append, hhead]

theorem lockstep_dropSize {left left' : Supply} (h : left.Related R left') (p : Placeholder) :
    Lockstep R dropSize (fun s => .ok (p, left, dropSize s)) (fun s => .ok (p, left', dropSize s)) := by
  intro s x after rest hfirst
  cases hfirst
  cases s with
  | nil =>
    refine ⟨rfl, [], left', rfl, h, fun rest' hhead => ?_⟩
    rw [List.head?_eq_none_iff.mp hhead]
    rfl
  | cons c behind =>
    by_cases hsize : (c = 'h' || c = 'l' || c = 'L') = true
    · refine ⟨rfl, [c], left', ?_, h, fun rest' _ => ?_⟩
      · rw [dropSize, if_pos hsize]
        rfl
      · simp only [List.cons_append, List.nil_append, dropSize, if_pos hsize]
    · have hkept : ∀ behind, dropSize (c :: behind) = c :: behind := fun behind => by
        rw [dropSize, if_neg hsize]
      refine ⟨rfl, [], left', by rw [hkept]; rfl, h, fun rest' hhead => ?_⟩
      rw [hkept] at hhead
      obtain ⟨behind', rfl⟩ := List.head?_eq_some_iff.mp hhead
      exact congrArg (fun rest => Except.ok (p, left', rest)) (hkept behind')

theorem lockstep_readSizes (hR : Counts R) {supply supply' : Supply} (h : supply.Related R supply')
    (p : Placeholder) :
    Lockstep R (dropSize ∘ behindPrecision ∘ behindCount) (readSizes p supply) (readSizes p supply') :=
  (lockstep_readWidth hR h p).bind (g := dropSize ∘ behindPrecision) fun p _ _ hleft =>
    (lockstep_readPrecision hR hleft p).bind (g := dropSize) fun p _ _ hleft => lockstep_dropSize hleft p

theorem lockstep_readPlaceholder (hR : Counts R) {supply supply' : Supply} (h : supply.Related R supply') :
    Lockstep R behindPlaceholder (readPlaceholder supply) (readPlaceholder supply') := by
  intro s p left rest hfirst
  unfold readPlaceholder at hfirst
  obtain ⟨⟨after, named⟩, hpick, hflagsread⟩ := ok_of_bind hfirst
  obtain ⟨hnamed, name, after', hs, hafter, hpick'⟩ := pickNamed_related h hpick
  obtain ⟨flags, hflags, hflagged⟩ := readFlags_local {} named
  obtain ⟨hbehind, sizes, left', hrest, hleft, hread⟩ :=
    lockstep_readSizes hR hafter (readFlags {} named).1 _ p left rest hflagsread
  have hflagged' : named = flags ++ (sizes ++ rest) := hrest ▸ hflags
  refine ⟨?_, name ++ (flags ++ sizes), left', ?_, hleft, fun rest' hhead => ?_⟩
  · rw [hbehind, hnamed]
    rfl
  · rw [hs, hflagged', List.append_assoc, List.append_assoc]
  · have hhead' : (sizes ++ rest').head? = (readFlags {} named).2.head? := by
      rw [hrest]
      exact head_append hhead
    have hnext : pickNamed supply' (name ++ (flags ++ (sizes ++ rest'))) =
        .ok (after', flags ++ (sizes ++ rest')) := by
      apply hpick'
      rw [hflagged']
      exact head_append (head_append hhead)
    unfold readPlaceholder
    rw [List.append_assoc, List.append_assoc, hnext]
    simp only [bind, Except.bind, hflagged _ hhead']
    exact hread rest' hhead

/-- One placeholder in lockstep: it writes a value, and where it can write the related one, it does so whatever
stands behind it. -/
theorem fillOne_related (hR : Counts R) {supply supply' left : Supply} (h : supply.Related R supply')
    {total : Nat} {s piece rest : List Char} (hfill : fillOne total supply s = .ok (piece, left, rest)) :
    ∃ p c place v v' read left', behindPlaceholder s = c :: rest ∧ s = read ++ c :: rest ∧ R v v' ∧
      written p c place v = .ok piece ∧ left.Related R left' ∧
      ∀ total' rest', ∃ place', ∀ piece', written p c place' v' = .ok piece' →
        fillOne total' supply' (read ++ c :: rest') = .ok (piece', left', rest') := by
  unfold fillOne at hfill
  obtain ⟨⟨p, after, behind⟩, hread, htake⟩ := ok_of_bind hfill
  obtain ⟨hbehind, read, after', rfl, hafter, hread'⟩ := lockstep_readPlaceholder hR h s p after behind hread
  cases behind with
  | nil => cases htake
  | cons c behind =>
    obtain ⟨⟨v, last⟩, hnext, hwrite⟩ := ok_of_bind htake
    obtain ⟨v', last', hnext', hv, hlast⟩ := next_related hafter hnext
    by_cases hroom : memoryLimit < p.width
    · simp only [if_pos hroom] at hwrite
      cases hwrite
    · simp only [if_neg hroom] at hwrite
      obtain ⟨text, hwritten, hdone⟩ := ok_of_bind hwrite
      cases hdone
      refine ⟨p, c, _, v, v', read, last', hbehind.symm, rfl, hv, hwritten, hlast, fun total' rest' => ?_⟩
      refine ⟨total' - (rest'.length + 1), fun piece' hpiece => ?_⟩
      unfold fillOne
      rw [hread' (c :: rest') rfl]
      simp only [bind, Except.bind, hnext', if_neg hroom, hpiece]
      rfl

end Template

end Stemcell.Log
