import Stemcell.Proofs.Log.Template
import Stemcell.Proofs.Redaction.Hiding

/-! Records that are filtered before they are shown. Template and values are masked each on its own, and
only then put together: no secret is left in the template or in a text among the values, but one can come
out of a value that is no text, or arise where two pieces meet. -/
namespace Stemcell.Redaction

open Log Log.Template

variable {secret : String → Prop}

/-- `t` is `s` with all secrets masked, and none without a star is left in it. -/
structure MaskedText (secret : String → Prop) (s t : String) : Prop where
  covers : Covers (fun u => secret (String.ofList u)) s.toList t.toList
  hides : ∀ u, secret u → '*' ∉ u.toList → ¬ u.toList <:+: t.toList
  unchanged : (∀ u, secret u → ¬ u.toList <:+: s.toList) → t = s

/-- Texts are masked; of a text with half of a pair of surrogates in it the numbers of its characters are. -/
inductive MaskedValue (secret : String → Prop) : Value → Value → Prop where
  | text {s t : String} (h : MaskedText secret s t) : MaskedValue secret (.text s) (.text t)
  | ragged {codes codes' : List Nat}
    (hides : ∀ u, secret u → '*' ∉ u.toList → ¬ u.toList.map Char.toNat <:+: codes')
    (short : codes.length < minimumLength → codes' = codes) :
    MaskedValue secret (.ragged codes) (.ragged codes')
  | other {v : Value} (h : v.kind ≠ .text) : MaskedValue secret v v

/-- A record with message and values masked, each on its own. -/
structure MaskedRecord (secret : String → Prop) (record record' : Record) : Prop where
  level : record'.level = record.level
  channel : record'.channel = record.channel
  message : MaskedText secret record.message.display record'.message.display
  writable : record'.message.written = .ok record'.message.display
  worded : (∃ u, secret u) → ∃ s, record'.message = .text s
  arguments : record.arguments.Related (MaskedValue secret) record'.arguments

/-- What the filter makes of a record that has a text. -/
structure Filtered (secret : String → Prop) (record record' : Record) : Prop
    extends MaskedRecord secret record record' where
  /-- Without values the text is the message, and so it hides the secrets. -/
  bare : record.arguments.isBare = true → record'.text = .ok record'.message.display
  /-- The record still has a text if masking has left the placeholders of its template as they were. -/
  kept : SameMarks record.message.display.toList record'.message.display.toList → ∃ t, record'.text = .ok t
  /-- It has not touched them where no secret is in the template. -/
  unaltered : (∀ u, secret u → ¬ u.toList <:+: record.message.display.toList) → ∃ t, record'.text = .ok t
  /-- Where a piece shows a secret, it comes from a value that is no text, or from a text that is not written
  as it is, or blanks around the text are part of the secret. -/
  pieces : record.arguments.isBare = false → ∀ t, record'.text = .ok t →
    ∃ pieces, t.toList = pieces.flatten ∧
      Filled record'.arguments.values record'.message.display.toList pieces ∧
      ∀ piece ∈ pieces, ∀ u, secret u → '*' ∉ u.toList → u.toList <:+: piece →
        ∃ v ∈ record'.arguments.values, ∃ p c place, written p c place v = .ok piece ∧
          (c = 's' → ' ' ∉ u.toList → ∀ s, v ≠ .text s)

/-! Masking values. -/

theorem written_eq_display {v : Value} {s : String} (h : v.written = .ok s) : s = v.display := by
  unfold Value.written at h
  split at h
  · cases h
    rfl
  · cases h

/-- The numbers of a text hide the numbers of every secret that has no star. -/
theorem numbers_hide {secrets : List (List Nat)} {u : List Char} (hmem : u.map Char.toNat ∈ secrets) (hne : u ≠ [])
    (hstar : '*' ∉ u) (codes : List Nat) : ¬ u.map Char.toNat <:+: maskAll secrets codes := by
  refine maskAll_hides hmem (by simpa using hne) (fun hin => hstar ?_) codes
  obtain ⟨c, hc, hstar⟩ := List.mem_map.mp hin
  rwa [← Char.toNat_inj.mp (show c.toNat = '*'.toNat from hstar)]

theorem mapM_forall₂ {α β : Type} {f : α → Except Fault β} {S : α → β → Prop}
    (h : ∀ a, ∃ b, f a = .ok b ∧ S a b) (l : List α) : ∃ l', l.mapM f = .ok l' ∧ List.Forall₂ S l l' := by
  induction l with
  | nil => exact ⟨[], rfl, .nil⟩
  | cons a l ih =>
    obtain ⟨b, hb, hab⟩ := h a
    obtain ⟨l', hl, hall⟩ := ih
    refine ⟨b :: l', ?_, .cons hab hall⟩
    rw [List.mapM_cons, hb, hl]
    rfl

theorem maskedText_refl (hnone : ∀ u, ¬ secret u) (s : String) : MaskedText secret s s where
  covers := ⟨[], s.toList, rfl, rfl, by simp, fun u hu => absurd hu (hnone _)⟩
  hides u hu := absurd hu (hnone u)
  unchanged _ := rfl

theorem maskedValue_refl (hnone : ∀ u, ¬ secret u) (v : Value) : MaskedValue secret v v := by
  by_cases htext : v.kind = .text
  · rcases Value.text_or_ragged htext with ⟨s, rfl⟩ | ⟨codes, rfl⟩
    · exact .text (maskedText_refl hnone s)
    · exact .ragged (fun u hu => absurd hu (hnone u)) fun _ => rfl
  · exact .other htext

/-- A masked value can be written wherever the value can: a text that is a single character has no secret
in it. -/
theorem MaskedValue.alike (hlong : ∀ s, secret s → minimumLength ≤ s.length) {v v' : Value}
    (h : MaskedValue secret v v') : Alike v v' := by
  cases h with
  | @text s t h =>
    refine alike_text fun hsingle => h.unchanged fun u hu hwithin => ?_
    have hle := hwithin.length_le
    have hfour := hlong u hu
    rw [String.length_toList] at hle
    rw [minimumLength] at hfour
    omega
  | ragged _ hshort => exact alike_ragged fun hsingle => hshort (by simp [hsingle, minimumLength])
  | other _ => exact .inl rfl

section
variable {secrets : List Value} (hall : ∀ v ∈ secrets, IsLong v) (hmem : ∀ s, .text s ∈ secrets ↔ secret s)
include hall hmem

theorem redact_masks (s : String) :
    ∃ t, Registry.redact secrets s = .ok t ∧ MaskedText secret s t := by
  obtain ⟨t, hredact, hcovers, habsent⟩ := redact_covers hall hmem s
  refine ⟨t, hredact, hcovers, fun u hu hstar => ?_, habsent⟩
  have hne : u.toList ≠ [] := by
    simpa using not_empty_of_long (isLong_text.mp (hall _ ((hmem u).mpr hu)))
  exact hcovers.hides (by rwa [String.ofList_toList]) hne hstar

theorem redactValue_masks (v : Value) :
    ∃ v', Registry.redactValue secrets v = .ok v' ∧ MaskedValue secret v v' := by
  cases v with
  | text s =>
    obtain ⟨t, hredact, hmasked⟩ := redact_masks hall hmem s
    exact ⟨.text t, by rw [Registry.redactValue, hredact]; rfl, .text hmasked⟩
  | ragged codes =>
    obtain ⟨found, hfound, hfrom⟩ := numbers_ok (areTexts_of_long hall)
    refine ⟨_, by rw [Registry.redactValue, hfound]; rfl, .ragged (fun u hu hstar => ?_) fun hshort => ?_⟩
    · have hsource : u.toList.map Char.toNat ∈ longestFirst found :=
        List.mem_mergeSort.mpr ((hfrom _).mpr ⟨.text u, (hmem u).mpr hu, rfl⟩)
      have hlong := isLong_text.mp (hall _ ((hmem u).mpr hu))
      exact numbers_hide hsource (by simpa using not_empty_of_long hlong) hstar codes
    · -- No secret is as short as this text.
      refine maskAll_absent _ _ fun s hs hwithin => ?_
      obtain ⟨v, hv, hcodes⟩ := (hfrom s).mp (List.mem_mergeSort.mp hs)
      obtain ⟨numbers, hnumbers, hlong⟩ := hall v hv
      rw [hcodes] at hnumbers
      cases hnumbers
      exact absurd hwithin.length_le (by omega)
  | enclosing isMapping =>
    refine ⟨_, rfl, .other ?_⟩
    cases isMapping <;> exact Value.Kind.noConfusion
  | _ => exact ⟨_, rfl, .other (by simp [Value.kind])⟩

theorem redactArguments_masks (arguments : Arguments) :
    ∃ arguments', Registry.redactArguments secrets arguments = .ok arguments' ∧
      arguments.Related (MaskedValue secret) arguments' := by
  cases arguments with
  | none => exact ⟨.none, rfl, .none⟩
  | places values =>
    obtain ⟨values', hvalues, hmasked⟩ := mapM_forall₂ (redactValue_masks hall hmem) values
    exact ⟨.places values', by rw [Registry.redactArguments, hvalues]; rfl, .places hmasked⟩
  | names entries =>
    have hentry : ∀ e : Value × Value, ∃ e', ((Registry.redactValue secrets e.2).map
        fun v => (e.1, v)) = .ok e' ∧ RelatedEntry (MaskedValue secret) e e' := by
      intro e
      obtain ⟨v', hv, hmasked⟩ := redactValue_masks hall hmem e.2
      exact ⟨(e.1, v'), by rw [hv]; rfl, rfl, hmasked⟩
    obtain ⟨entries', hentries, hmasked⟩ := mapM_forall₂ hentry entries
    exact ⟨.names entries', by rw [Registry.redactArguments, hentries]; rfl, .names hmasked⟩

theorem redactRecord_masks {record : Record} {template : String}
    (hwritten : record.message.written = .ok template) :
    ∃ record', Registry.redactRecord secrets record = .ok record' ∧
      MaskedRecord secret record record' := by
  have htemplate := written_eq_display hwritten
  cases secrets with
  | nil =>
    have hnone : ∀ u, ¬ secret u := fun u hu => List.not_mem_nil ((hmem u).mpr hu)
    refine ⟨record, rfl, rfl, rfl, maskedText_refl hnone _, ?_, ?_, .refl (maskedValue_refl hnone) _⟩
    · rw [hwritten, htemplate]
    · rintro ⟨u, hu⟩
      exact absurd hu (hnone u)
  | cons first secrets =>
    obtain ⟨t, hredact, hmessage⟩ := redact_masks hall hmem record.message.display
    obtain ⟨arguments', harguments, hmasked⟩ := redactArguments_masks hall hmem record.arguments
    refine ⟨{ record with message := .text t, arguments := arguments' }, ?_, rfl, rfl, hmessage, rfl,
      fun _ => ⟨t, rfl⟩, hmasked⟩
    unfold Registry.redactRecord
    rw [hwritten, htemplate, harguments]
    simp only [bind, Except.bind, hredact]
    rfl

end

/-! The text of a masked record. -/

theorem fill_of_text {record : Record} {shown : String} (hshown : record.text = .ok shown) :
    fill record.message.display record.arguments = .ok shown := by
  obtain ⟨template, hwritten, hfill⟩ := ok_of_bind hshown
  rwa [written_eq_display hwritten] at hfill

section
variable {record record' : Record} (h : MaskedRecord secret record record')
include h

theorem MaskedRecord.text_eq : record'.text = fill record'.message.display record'.arguments := by
  rw [Record.text, h.writable]
  rfl

theorem MaskedRecord.bare (hbare : record.arguments.isBare = true) :
    record'.text = .ok record'.message.display := by
  rw [h.text_eq]
  exact fill_bare (h.arguments.isBare_eq.trans hbare) _

theorem MaskedRecord.kept (hlong : ∀ s, secret s → minimumLength ≤ s.length) {shown : String}
    (hshown : record.text = .ok shown)
    (hmarks : SameMarks record.message.display.toList record'.message.display.toList) :
    ∃ t, record'.text = .ok t := by
  rw [h.text_eq]
  exact fill_sameMarks (h.arguments.imp fun _ _ hmasked => hmasked.alike hlong) hmarks (fill_of_text hshown)

theorem MaskedRecord.unaltered (hlong : ∀ s, secret s → minimumLength ≤ s.length) {shown : String}
    (hshown : record.text = .ok shown)
    (habsent : ∀ u, secret u → ¬ u.toList <:+: record.message.display.toList) :
    ∃ t, record'.text = .ok t := by
  rw [h.text_eq, h.message.unchanged habsent]
  exact fill_alike (h.arguments.imp fun _ _ hmasked => hmasked.alike hlong) (fill_of_text hshown)

theorem MaskedRecord.text_hides {s u : String} (hs : Value.text s ∈ record'.arguments.values)
    (hu : secret u) (hstar : '*' ∉ u.toList) : ¬ u.toList <:+: s.toList := by
  rcases h.arguments.origin hs with ⟨v, hmasked⟩ | hkind
  · cases hmasked with
    | text h => exact h.hides u hu hstar
    | other hkind => exact absurd rfl hkind
  · cases hkind

theorem MaskedRecord.pieces (hlong : ∀ s, secret s → minimumLength ≤ s.length)
    (hbare : record.arguments.isBare = false) {t : String} (ht : record'.text = .ok t) :
    ∃ pieces, t.toList = pieces.flatten ∧
      Filled record'.arguments.values record'.message.display.toList pieces ∧
      ∀ piece ∈ pieces, ∀ u, secret u → '*' ∉ u.toList → u.toList <:+: piece →
        ∃ v ∈ record'.arguments.values, ∃ p c place, written p c place v = .ok piece ∧
          (c = 's' → ' ' ∉ u.toList → ∀ s, v ≠ .text s) := by
  rw [h.text_eq] at ht
  obtain ⟨pieces, hpieces, hfilled⟩ := fill_filled (h.arguments.isBare_eq.trans hbare) ht
  refine ⟨pieces, hpieces, hfilled, fun piece hpiece u hu hstar hwithin => ?_⟩
  have hne : u.toList ≠ [] := by
    simpa using not_empty_of_long (hlong u hu)
  rcases hfilled.piece hpiece with hstretch | ⟨v, hv, p, c, place, hwritten⟩
  · exact absurd (hwithin.trans hstretch) (h.message.hides u hu hstar)
  · refine ⟨v, hv, p, c, place, hwritten, ?_⟩
    rintro rfl hblank s rfl
    obtain ⟨front, n, back, hpadded⟩ := textIn_eq p s.toList
    cases hwritten
    rw [Value.display_text, hpadded] at hwithin
    exact h.text_hides hv hu hstar ((infix_padded hne hblank hwithin).trans (List.take_prefix n s.toList).isInfix)

end

/-- In every run of the registry a record that has a text comes back from the filter with its message and
its texts masked and all other values as they were. -/
theorem filter_masks (env : Environment) (order : SetOrder) (before after : List Request) (record : Record)
    (shown : String) (hshown : record.text = .ok shown) :
    ∃ record', (Registry.serveAll env { order } (before ++ .filter record :: after)).1[before.length]? =
        some (.record (.ok record')) ∧
      Filtered (InForce env before) record record' := by
  obtain ⟨secrets, hsecrets, hall, -, hmem⟩ := ((knows_nothing env order).serveAll before).secrets
  have hlong : ∀ s, InForce env before s → minimumLength ≤ s.length := fun _ hforce => hforce.1
  obtain ⟨template, hwritten, -⟩ := ok_of_bind hshown
  obtain ⟨record', hrecord, hmasked⟩ := redactRecord_masks hall hmem hwritten
  refine ⟨record', ?_, hmasked, hmasked.bare, hmasked.kept hlong hshown, hmasked.unaltered hlong hshown,
    fun hbare t ht => hmasked.pieces hlong hbare ht⟩
  rw [reply_at]
  simp [Registry.serve, hsecrets, Except.bind, hrecord]

/-- A password that is a value by itself. -/
theorem filter_masks_password :
    let record : Record := ⟨.info, .named "stembuild", .text "pw=%s user=%s",
      .places [.text "hunter2-pass", .text "admin"]⟩
    record.text = .ok "pw=hunter2-pass user=admin" ∧
      ∃ record', (Registry.serveAll [] {} ([.register "hunter2-pass"] ++ .filter record :: [])).1[1]? =
          some (.record (.ok record')) ∧
        Filtered (InForce [] [.register "hunter2-pass"]) record record' := by
  intro record
  have hshown : record.text.toOption = some "pw=hunter2-pass user=admin" := by decide +kernel
  have htext := eq_ok_of_toOption hshown
  exact ⟨htext, filter_masks [] .insertion [.register "hunter2-pass"] [] record _ htext⟩

/-- The text of a record behind the filter, if it still has one. -/
def textBehind (env : Environment) (before : List Request) (record : Record) : Option String :=
  ((Registry.serveAll env {} (before ++ [.filter record])).1[before.length]?.bind Reply.record?).bind
    fun filtered => filtered.text.toOption

/-- A secret in a list is shown, one in two parts is put together, and one that is the name of a value takes
the text of its record away. -/
theorem secret_shown_by_parts :
    (InForce [] [.register "hunter2-pass"] "hunter2-pass" ∧ '*' ∉ "hunter2-pass".toList) ∧
    textBehind [] [.register "hunter2-pass"]
        ⟨.info, .command, .text "login as %s failed", .places [.list [.text "hunter2-pass"]]⟩ =
      some "login as ['hunter2-pass'] failed" ∧
    "hunter2-pass".toList <:+: "login as ['hunter2-pass'] failed".toList ∧
    textBehind [] [.register "hunter2-pass"]
        ⟨.info, .command, .text "password is hunter2%s", .places [.text "-pass"]⟩ =
      some "password is hunter2-pass" ∧
    "hunter2-pass".toList <:+: "password is hunter2-pass".toList ∧
    (Record.text ⟨.info, .command, .text "%(username)s", .names [(.text "username", .text "bob")]⟩).toOption =
      some "bob" ∧
    textBehind [] [.register "username"]
        ⟨.info, .command, .text "%(username)s", .names [(.text "username", .text "bob")]⟩ = none := by
  refine ⟨⟨⟨by decide, .inl List.mem_cons_self⟩, by decide⟩, ?_, ?_, ?_, ?_, ?_, ?_⟩
  · decide +kernel
  · decide +kernel
  · decide +kernel
  · decide +kernel
  · decide +kernel
  · decide +kernel

end Stemcell.Redaction
