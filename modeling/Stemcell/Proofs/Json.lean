import Stemcell.Json

/-! What reading a text can come to: a document, in which the keys of all mappings are texts, or no
document at all, or the fault of a limit that the text goes beyond. -/
namespace Stemcell.Json

open Number (digitLimit)

/-- The values that texts are read as. -/
inductive Document : Value → Prop where
  | null : Document .null
  | bool (b : Bool) : Document (.bool b)
  | int (n : Int) : Document (.int n)
  | float (x : Number.Binary64) : Document (.float x)
  | text (s : String) : Document (.text s)
  | ragged (codes : List Nat) : Document (.ragged codes)
  | list {items : List Value} (h : ∀ v ∈ items, Document v) : Document (.list items)
  | mapping {entries : List (Value × Value)} (hkeys : ∀ e ∈ entries, e.1.kind = .text)
    (h : ∀ e ∈ entries, Document e.2) : Document (.mapping entries)

/-- Where a scan of a text is: outside of quoted texts, in one, or behind a backslash in one. -/
inductive Place where
  | outside
  | inside
  | escaped

/-- A scan of a text, with the number of lists and mappings that are open. -/
structure Scan where
  opened : Nat := 0
  place : Place := .outside

def Scan.step (scan : Scan) (c : Char) : Scan :=
  match scan.place with
  | .outside =>
    if c = '"' then { scan with place := .inside }
    else if c = '[' ∨ c = '{' then { scan with opened := scan.opened + 1 }
    else if c = ']' ∨ c = '}' then { scan with opened := scan.opened - 1 }
    else scan
  | .inside =>
    if c = '"' then { scan with place := .outside }
    else if c = '\\' then { scan with place := .escaped }
    else scan
  | .escaped => { scan with place := .inside }

def Scan.over (scan : Scan) (s : List Char) : Scan := s.foldl Scan.step scan

/-- The text goes beyond a limit, and the fault is the one for it: a run of digits is too long, or
somewhere more lists and mappings are open than may be. -/
inductive Beyond (s : List Char) : Fault → Prop where
  | digits {run : List Char} (hrun : run <:+: s) (hdigits : ∀ c ∈ run, c.isDigit = true)
    (hlong : digitLimit < run.length) : Beyond s (.tooManyDigits run.length)
  | depth (doing : String) {front : List Char} (hfront : front <+: s)
    (h : depthLimit < (Scan.over {} front).opened) : Beyond s (.tooDeep doing)

theorem document_ofCodes (codes : List Nat) : Document (.ofCodes codes) := by
  unfold Value.ofCodes
  split
  · exact .ragged codes
  · exact .text _

theorem kind_ofCodes (codes : List Nat) : (Value.ofCodes codes).kind = .text := by
  unfold Value.ofCodes
  split <;> rfl

theorem forall_insertEntry {p q : Value → Prop} {key value : Value} {entries : List (Value × Value)}
    (hkey : p key) (hvalue : q value) (h : ∀ e ∈ entries, p e.1 ∧ q e.2) :
    ∀ e ∈ Value.insertEntry key value entries, p e.1 ∧ q e.2 := by
  induction entries with
  | nil =>
    rw [Value.insertEntry, List.forall_mem_singleton]
    exact ⟨hkey, hvalue⟩
  | cons entry rest ih =>
    obtain ⟨hfirst, hrest⟩ := List.forall_mem_cons.mp h
    rw [Value.insertEntry]
    split
    · exact List.forall_mem_cons.mpr ⟨⟨hfirst.1, hvalue⟩, hrest⟩
    · exact List.forall_mem_cons.mpr ⟨hfirst, ih hrest⟩

theorem Document.insertEntry {key value : Value} {entries : List (Value × Value)}
    (hkey : key.kind = .text) (hvalue : Document value) (h : Document (.mapping entries)) :
    Document (.mapping (Value.insertEntry key value entries)) := by
  cases h with
  | mapping hkeys hall =>
    have hentries := forall_insertEntry (p := fun k => k.kind = .text) hkey hvalue
      fun e he => ⟨hkeys e he, hall e he⟩
    exact .mapping (fun e he => (hentries e he).1) fun e he => (hentries e he).2

/-! What a scan does between two places of a text. -/

/-- Between the place where `s` is left and that where `rest` is left, a scan goes from one state to another. -/
def Leads (a b : Scan) (s rest : List Char) : Prop := ∃ used, used ++ rest = s ∧ a.over used = b

theorem Leads.trans {a b c : Scan} {s rest more : List Char} (h : Leads a b s rest) (h' : Leads b c rest more) :
    Leads a c s more := by
  obtain ⟨used, rfl, rfl⟩ := h
  obtain ⟨used', rfl, rfl⟩ := h'
  exact ⟨used ++ used', List.append_assoc .., List.foldl_append⟩

theorem Leads.suffix {a b : Scan} {s rest : List Char} (h : Leads a b s rest) : rest <:+ s := by
  obtain ⟨used, hused, -⟩ := h
  exact ⟨used, hused⟩

theorem leads_cons (a : Scan) (c : Char) (rest : List Char) : Leads a (a.step c) (c :: rest) rest := ⟨[c], rfl, rfl⟩

/-- A place outside of quoted texts with so many lists and mappings open around it. -/
abbrev plain (depth : Nat) : Scan := ⟨depth, .outside⟩

abbrev quoted (depth : Nat) : Scan := ⟨depth, .inside⟩

/-- A character that a scan passes over outside of quoted texts. -/
def isNeutral (c : Char) : Bool := c ∉ ['"', '[', '{', ']', '}']

theorem step_neutral {c : Char} (h : isNeutral c = true) (depth : Nat) : (plain depth).step c = plain depth := by
  simp [isNeutral] at h
  simp [Scan.step, h]

theorem step_inside {c : Char} (hquote : c ≠ '"') (hslash : c ≠ '\\') (depth : Nat) :
    (quoted depth).step c = quoted depth := by
  simp [Scan.step, hquote, hslash]

/-- Only such characters stand between two places. -/
def Skips (s rest : List Char) : Prop := ∃ used, used ++ rest = s ∧ ∀ c ∈ used, isNeutral c = true

theorem Skips.refl (s : List Char) : Skips s s := ⟨[], rfl, by simp⟩

theorem Skips.trans {s rest more : List Char} (h : Skips s rest) (h' : Skips rest more) : Skips s more := by
  obtain ⟨used, rfl, hused⟩ := h
  obtain ⟨used', rfl, hused'⟩ := h'
  exact ⟨used ++ used', List.append_assoc .., List.forall_mem_append.mpr ⟨hused, hused'⟩⟩

theorem skips_cons {c : Char} (h : isNeutral c = true) (rest : List Char) : Skips (c :: rest) rest :=
  ⟨[c], rfl, by simpa using h⟩

theorem skips_dropWhile {p : Char → Bool} (h : ∀ c, p c = true → isNeutral c = true) (s : List Char) :
    Skips s (s.dropWhile p) :=
  ⟨s.takeWhile p, List.takeWhile_append_dropWhile, fun c hc => h c (List.all_eq_true.mp List.all_takeWhile c hc)⟩

theorem Skips.leads {s rest : List Char} (h : Skips s rest) (depth : Nat) :
    Leads (plain depth) (plain depth) s rest := by
  obtain ⟨used, rfl, hused⟩ := h
  refine ⟨used, rfl, ?_⟩
  induction used with
  | nil => rfl
  | cons c used ih =>
    obtain ⟨hc, hbehind⟩ := List.forall_mem_cons.mp hused
    rw [Scan.over, List.foldl_cons, step_neutral hc]
    exact ih hbehind

theorem isNeutral_of_isGap (c : Char) (h : isGap c = true) : isNeutral c = true := by
  simp only [isGap, Bool.or_eq_true, decide_eq_true_eq] at h
  obtain ((rfl | rfl) | rfl) | rfl := h <;> rfl

theorem isNeutral_of_isDigit (c : Char) (h : c.isDigit = true) : isNeutral c = true := by
  refine decide_eq_true fun hc => ?_
  simp only [List.mem_cons, List.not_mem_nil, or_false] at hc
  obtain rfl | rfl | rfl | rfl | rfl := hc <;> cases h

theorem leads_gap (s : List Char) (depth : Nat) : Leads (plain depth) (plain depth) s (skipGap s) :=
  (skips_dropWhile isNeutral_of_isGap s).leads depth

theorem Leads.gap {a : Scan} {depth : Nat} {s rest : List Char} (h : Leads a (plain depth) s rest) :
    Leads a (plain depth) s (skipGap rest) :=
  h.trans (leads_gap rest depth)

theorem Leads.token {a : Scan} {depth : Nat} {s rest more : List Char} {c : Char} (h : Leads a (plain depth) s rest)
    (htoken : skipGap rest = c :: more) : Leads a ((plain depth).step c) s more := by
  have hgap := h.gap
  rw [htoken] at hgap
  exact hgap.trans (leads_cons _ c more)

/-! Quoted texts. -/

theorem hexValue?_plain {c : Char} {n : Nat} (h : hexValue? c = some n) : c ≠ '"' ∧ c ≠ '\\' := by
  constructor <;>
  · rintro rfl
    cases h

theorem leads_quad {a b c d : Char} {n : Nat} (h : hexQuad? a b c d = some n) (rest : List Char) (depth : Nat) :
    Leads (quoted depth) (quoted depth) ('\\' :: 'u' :: a :: b :: c :: d :: rest) rest := by
  simp only [hexQuad?, Option.bind_eq_bind, Option.bind_eq_some_iff] at h
  obtain ⟨_, ha, _, hb, _, hc, _, hd, -⟩ := h
  obtain ⟨ha, ha'⟩ := hexValue?_plain ha
  obtain ⟨hb, hb'⟩ := hexValue?_plain hb
  obtain ⟨hc, hc'⟩ := hexValue?_plain hc
  obtain ⟨hd, hd'⟩ := hexValue?_plain hd
  refine ⟨['\\', 'u', a, b, c, d], rfl, ?_⟩
  simp [Scan.over, Scan.step, ha, ha', hb, hb', hc, hc', hd, hd']

theorem leads_lowHalf {s : List Char} {n : Nat} (h : lowHalf? s = some n) (depth : Nat) :
    Leads (quoted depth) (quoted depth) s (s.drop 6) := by
  unfold lowHalf? at h
  split at h
  · next a b c d rest => exact leads_quad (Option.filter_eq_some_iff.mp h).1 rest depth
  · cases h

theorem readText_leads {done codes : List Nat} {s rest : List Char} (h : readText done s = .ok (codes, rest))
    (depth : Nat) : Leads (quoted depth) (plain depth) s rest := by
  -- Cases 3, 4, 5 and 8 read on behind what they take off the front.
  fun_induction readText done s with
  | case1 =>
    cases h
    exact leads_cons (quoted depth) '"' _
  | case3 done a b c d tail first hquad second hlow ih =>
    split at hlow
    · exact ((leads_quad hquad tail depth).trans (leads_lowHalf hlow depth)).trans (ih h)
    · cases hlow
  | case4 done a b c d tail first hquad _ ih => exact (leads_quad hquad tail depth).trans (ih h)
  | case5 done c tail _ e _ ih =>
    exact Leads.trans ⟨['\\', c], rfl, rfl⟩ (ih h)
  | case8 done c tail hquote hquad hslash _ ih =>
    by_cases hlast : c = '\\'
    · subst hlast
      obtain _ | ⟨d, tail⟩ := tail
      · rw [readText] at h
        cases h
      · exact absurd rfl (hslash d tail rfl)
    · have hstep := leads_cons (quoted depth) c tail
      rw [step_inside hquote hlast] at hstep
      exact hstep.trans (ih h)
  | _ => cases h

theorem readText_error {done : List Nat} {s : List Char} {e : Error} (h : readText done s = .error e) :
    e = .malformed := by
  fun_induction readText done s with
  | case1 => cases h
  | case3 _ _ _ _ _ _ _ _ _ _ ih => exact ih h
  | case4 _ _ _ _ _ _ _ _ _ ih => exact ih h
  | case5 _ _ _ _ _ _ ih => exact ih h
  | case8 _ _ _ _ _ _ _ ih => exact ih h
  | _ =>
    cases h
    rfl

/-! Numbers. -/

theorem skips_fraction (s : List Char) : Skips s (((readFraction s).map Prod.snd).getD s) := by
  unfold readFraction
  split
  · next rest =>
    dsimp only
    split
    · exact .refl _
    · exact (skips_cons rfl rest).trans (skips_dropWhile isNeutral_of_isDigit rest)
  · exact .refl s

theorem skips_exponent (s : List Char) : Skips s (((readExponent s).map Prod.snd).getD s) := by
  unfold readExponent
  split
  · next mark rest =>
    have hdigits : ∀ (negative : Bool) (s : List Char), Skips (mark :: rest) s →
        Skips (mark :: rest) (((if (s.takeWhile Char.isDigit).isEmpty then none
          else
            let n : Int := natOf (s.takeWhile Char.isDigit)
            some (if negative then -n else n, s.dropWhile Char.isDigit)).map Prod.snd).getD
          (mark :: rest)) := by
      intro negative s hs
      split
      · exact .refl _
      · exact hs.trans (skips_dropWhile isNeutral_of_isDigit s)
    split
    · next hmark =>
      have hfirst : Skips (mark :: rest) rest := by
        refine skips_cons ?_ rest
        simp only [Bool.or_eq_true, decide_eq_true_eq] at hmark
        obtain rfl | rfl := hmark <;> rfl
      split
      next negative more hsigned =>
      refine hdigits negative more ?_
      split at hsigned
      · cases hsigned
        exact hfirst.trans (skips_cons rfl _)
      · cases hsigned
        exact hfirst.trans (skips_cons rfl _)
      · cases hsigned
        exact hfirst
    · exact .refl _
  · exact .refl _

/-! Reading. -/

/-- What reading comes to where `s` is left of a text: it takes a scan from one state to another. -/
def Sound (whole : List Char) (a b : Scan) (s : List Char) : Except Error (Value × List Char) → Prop
  | .ok (v, rest) => Document v ∧ Leads a b s rest
  | .error .malformed => True
  | .error (.fault f) => Beyond whole f

theorem Sound.behind {whole s rest : List Char} {a b c : Scan} {r : Except Error (Value × List Char)}
    (h : Sound whole b c rest r) (hrest : Leads a b s rest) : Sound whole a c s r := by
  match r with
  | .ok (v, left) => exact ⟨h.1, hrest.trans h.2⟩
  | .error .malformed => trivial
  | .error (.fault f) => exact h

/-- A place of a text with so many lists and mappings open around it. -/
abbrev Inside (whole s : List Char) (depth : Nat) : Prop := Leads {} (plain depth) whole s

/-- Behind one more opening bracket there is a place that is beyond the limit. -/
theorem Inside.beyond {whole rest : List Char} {c : Char} {depth : Nat} (h : Inside whole (c :: rest) depth)
    (hc : c = '[' ∨ c = '{') (hdepth : depthLimit ≤ depth) (doing : String) : Beyond whole (.tooDeep doing) := by
  obtain ⟨front, hfront, hopened⟩ := h.trans (leads_cons _ c rest)
  refine .depth doing ⟨rest, hfront⟩ ?_
  rw [hopened]
  obtain rfl | rfl := hc <;> exact Nat.lt_succ_of_le hdepth

theorem sound_word (whole s : List Char) (word : String) (depth : Nat) {v : Value} (hv : Document v)
    (hword : word.toList.all isNeutral = true) :
    Sound whole (plain depth) (plain depth) s ((readWord word s).map fun rest => (v, rest)) := by
  unfold readWord
  split
  · next hprefix =>
    obtain ⟨rest, rfl⟩ := List.isPrefixOf_iff_prefix.mp hprefix
    have hskips : Skips (word.toList ++ rest) rest := ⟨word.toList, rfl, List.all_eq_true.mp hword⟩
    rw [← String.length_toList, List.drop_left]
    exact ⟨hv, hskips.leads depth⟩
  · trivial

theorem sound_text (whole s : List Char) (depth : Nat) :
    Sound whole (quoted depth) (plain depth) s
      ((readText [] s).map fun (codes, rest) => (.ofCodes codes, rest)) := by
  cases h : readText [] s with
  | ok result => exact ⟨document_ofCodes result.1, readText_leads h depth⟩
  | error e =>
    rw [readText_error h]
    trivial

theorem sound_number {whole s : List Char} (h : s <:+ whole) (negative : Bool) (depth : Nat) :
    Sound whole (plain depth) (plain depth) s (readNumber negative s) := by
  unfold readNumber
  dsimp only
  generalize hdigits : (if (s.takeWhile Char.isDigit).head? = some '0' then
    (s.takeWhile Char.isDigit).take 1 else s.takeWhile Char.isDigit) = digits
  have hrun : digits <+: s.takeWhile Char.isDigit := by
    rw [← hdigits]
    split
    · exact List.take_prefix _ _
    · exact List.prefix_rfl
  have hall : ∀ c ∈ digits, c.isDigit = true := by
    intro c hc
    exact List.all_eq_true.mp List.all_takeWhile c (hrun.subset hc)
  have hfront : digits <+: s := hrun.trans (List.takeWhile_prefix _)
  have hwhole : Skips s (s.drop digits.length) := by
    obtain ⟨rest, rfl⟩ := hfront
    rw [List.drop_left]
    exact ⟨digits, rfl, fun c hc => isNeutral_of_isDigit c (hall c hc)⟩
  have hrest := ((hwhole.trans (skips_fraction _)).trans (skips_exponent _)).leads depth
  split
  · trivial
  · split
    · split
      · next hlong => exact .digits (hfront.isInfix.trans h.isInfix) hall hlong
      · exact ⟨.int _, hrest⟩
    · exact ⟨.float _, hrest⟩

/-- What holds of reading with so much fuel, at all places of a text. -/
structure Reads (whole : List Char) (fuel : Nat) : Prop where
  value : ∀ depth s, Inside whole s depth → Sound whole (plain depth) (plain depth) s (readValue fuel depth s)
  items : ∀ depth done s, Inside whole s (depth + 1) → (∀ v ∈ done, Document v) →
    Sound whole (plain (depth + 1)) (plain depth) s (readItems fuel (depth + 1) done s)
  entries : ∀ depth done s, Inside whole s (depth + 1) → Document (.mapping done) →
    Sound whole (plain (depth + 1)) (plain depth) s (readEntries fuel (depth + 1) done s)

theorem Reads.sound_value {whole s : List Char} {fuel depth : Nat} (h : Reads whole fuel)
    (hs : Inside whole s depth) : Sound whole (plain depth) (plain depth) s (readValue (fuel + 1) depth s) := by
  rw [readValue.eq_def]
  dsimp only
  split
  · next rest => exact (sound_text whole rest depth).behind (leads_cons (plain depth) '"' rest)
  · next rest =>
    split
    · next hdepth => exact hs.beyond (.inr rfl) hdepth _
    · have hopen : Leads (plain depth) (plain (depth + 1)) ('{' :: rest) rest := leads_cons (plain depth) '{' rest
      split
      · next more hmore => exact ⟨.mapping (by simp) (by simp), hopen.token hmore⟩
      · exact (h.entries _ _ _ (hs.trans hopen.gap) (.mapping (by simp) (by simp))).behind hopen.gap
  · next rest =>
    split
    · next hdepth => exact hs.beyond (.inl rfl) hdepth _
    · have hopen : Leads (plain depth) (plain (depth + 1)) ('[' :: rest) rest := leads_cons (plain depth) '[' rest
      split
      · next more hmore => exact ⟨.list (by simp), hopen.token hmore⟩
      · exact (h.items _ _ _ (hs.trans hopen.gap) (by simp)).behind hopen.gap
  · exact sound_word whole _ _ depth .null (by decide)
  · exact sound_word whole _ _ depth (.bool true) (by decide)
  · exact sound_word whole _ _ depth (.bool false) (by decide)
  · exact sound_word whole _ _ depth (.float _) (by decide)
  · exact sound_word whole _ _ depth (.float _) (by decide)
  · exact sound_word whole _ _ depth (.float _) (by decide)
  · next rest _ =>
    have hsign := (skips_cons (c := '-') rfl rest).leads depth
    exact (sound_number (hs.trans hsign).suffix true depth).behind hsign
  · exact sound_number hs.suffix false depth

theorem Reads.sound_items {whole s : List Char} {fuel depth : Nat} {done : List Value}
    (h : Reads whole fuel) (hs : Inside whole s (depth + 1)) (hdone : ∀ v ∈ done, Document v) :
    Sound whole (plain (depth + 1)) (plain depth) s (readItems (fuel + 1) (depth + 1) done s) := by
  rw [readItems]
  have hitem := h.value (depth + 1) s hs
  split
  · next e he =>
    rw [he] at hitem
    cases e with
    | malformed => trivial
    | fault f => exact hitem
  · next item rest hok =>
    rw [hok] at hitem
    have hall : ∀ v ∈ item :: done, Document v := List.forall_mem_cons.mpr ⟨hitem.1, hdone⟩
    split
    · next more hmore =>
      have hnext : Leads (plain (depth + 1)) (plain (depth + 1)) s (skipGap more) := (hitem.2.token hmore).gap
      exact (h.items depth _ _ (hs.trans hnext) hall).behind hnext
    · next more hmore =>
      exact ⟨.list fun v hv => hall v (List.mem_reverse.mp hv), hitem.2.token hmore⟩
    · trivial

theorem Reads.sound_entries {whole s : List Char} {fuel depth : Nat} {done : List (Value × Value)}
    (h : Reads whole fuel) (hs : Inside whole s (depth + 1)) (hdone : Document (.mapping done)) :
    Sound whole (plain (depth + 1)) (plain depth) s (readEntries (fuel + 1) (depth + 1) done s) := by
  rw [readEntries.eq_def]
  dsimp only
  split
  · next rest =>
    split
    · next e he =>
      rw [readText_error he]
      trivial
    · next key left hkey =>
      have hleft : Leads (plain (depth + 1)) (plain (depth + 1)) ('"' :: rest) left :=
        (leads_cons (plain (depth + 1)) '"' rest).trans (readText_leads hkey (depth + 1))
      split
      · next behind hbehind =>
        have hplace : Leads (plain (depth + 1)) (plain (depth + 1)) ('"' :: rest) (skipGap behind) :=
          (hleft.token hbehind).gap
        have hvalue := (h.value (depth + 1) _ (hs.trans hplace)).behind hplace
        split
        · next e he =>
          rw [he] at hvalue
          cases e with
          | malformed => trivial
          | fault f => exact hvalue
        · next value last hok =>
          rw [hok] at hvalue
          have hentries : Document (.mapping (Value.insertEntry (.ofCodes key) value done)) :=
            Document.insertEntry (kind_ofCodes key) hvalue.1 hdone
          split
          · next more hmore =>
            have hnext : Leads (plain (depth + 1)) (plain (depth + 1)) ('"' :: rest) (skipGap more) :=
              (hvalue.2.token hmore).gap
            exact (h.entries depth _ _ (hs.trans hnext) hentries).behind hnext
          · next more hmore => exact ⟨hentries, hvalue.2.token hmore⟩
          · trivial
      · trivial
  · trivial

theorem reads (whole : List Char) (fuel : Nat) : Reads whole fuel := by
  induction fuel with
  | zero => exact ⟨fun _ _ _ => trivial, fun _ _ _ _ _ => trivial, fun _ _ _ _ _ => trivial⟩
  | succ fuel ih =>
    exact ⟨fun _ _ => ih.sound_value, fun _ _ _ => ih.sound_items, fun _ _ _ => ih.sound_entries⟩

theorem sound_start (s : String) :
    Sound s.toList {} {} (skipGap s.toList) (readValue (2 * s.toList.length + 2) 0 (skipGap s.toList)) :=
  (reads s.toList _).value 0 _ (leads_gap s.toList 0)

theorem document_of_read {s : String} {v : Value} (h : read s = .ok v) : Document v := by
  have hsound := sound_start s
  unfold read at h
  dsimp only at h
  split at h
  · cases h
  · next value rest hok =>
    rw [hok] at hsound
    split at h
    · cases h
      exact hsound.1
    · cases h

theorem beyond_of_read {s : String} {f : Fault} (h : read s = .error (.fault f)) : Beyond s.toList f := by
  have hsound := sound_start s
  unfold read at h
  dsimp only at h
  split at h
  · next e he =>
    cases h
    rw [he] at hsound
    exact hsound
  · split at h <;> cases h

end Stemcell.Json
