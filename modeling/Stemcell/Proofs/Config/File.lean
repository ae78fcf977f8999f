import Stemcell.Config.File
import Stemcell.Proofs.Value

/-! What comes of a file of parameters: what its mapping holds, or a problem that is told. One case is
neither: a key that is no text cannot be named among the unknown ones. -/
namespace Stemcell

namespace Yaml.Document

/-- The keys of a document; one that is no mapping has none. -/
def keys (d : Document) : List Value := (d.entries?.getD []).map Prod.fst

theorem length_mapM {σ α β : Type} (f : α → StateM σ β) (items : List α) (s : σ) :
    ((items.mapM f).run s).1.length = items.length := by
  induction items generalizing s with
  | nil => rfl
  | cons item items ih =>
    have hrest := ih ((f item).run s).2
    simp only [List.mapM_cons, StateT.run_bind, StateT.run_pure] at hrest ⊢
    exact congrArg (· + 1) hrest

theorem length_values (d : Document) (parts : List Nat) : (d.values parts).length = parts.length := by
  rw [values, List.length_map, length_mapM]

/-- Every key has its value. -/
theorem map_fields (d : Document) (entries : List (Value × Nat)) :
    (d.fields entries).map Prod.fst = entries.map Prod.fst ∧
      (d.fields entries).map Prod.snd = d.values (entries.map Prod.snd) := by
  have hlength : (entries.map Prod.fst).length = (d.values (entries.map Prod.snd)).length := by
    rw [length_values, List.length_map, List.length_map]
  exact ⟨List.map_fst_zip (Nat.le_of_eq hlength), List.map_snd_zip (Nat.le_of_eq hlength.symm)⟩

theorem sameAtom_text {v : Value} (h : v.kind = .text) : v.sameAtom v = true := by
  rcases Value.text_or_ragged h with ⟨s, rfl⟩ | ⟨codes, rfl⟩
  · simp [Value.sameAtom, Value.number?]
  · simp [Value.sameAtom, Value.number?]

/-- A text is a key of a mapping only once. -/
theorem distinct_keys (d : Document) : d.keys.Pairwise fun k l => k.kind = .text → k ≠ l := by
  have hdistinct : ∀ entries : Entries,
      ((entries.parts.map fun e => (e.1.value, e.2)).map Prod.fst).Pairwise
        fun k l => k.kind = .text → k ≠ l := by
    intro entries
    have hvalues : (entries.parts.map fun e => (e.1.value, e.2)).map Prod.fst =
        (entries.parts.map Prod.fst).map Atom.value := by
      rw [List.map_map, List.map_map]
      rfl
    rw [hvalues, List.pairwise_map]
    refine entries.distinct.imp fun {k l} hother htext hsame => ?_
    rw [Atom.same, ← hsame, sameAtom_text htext, Bool.or_true] at hother
    cases hother
  unfold keys entries?
  split
  · exact hdistinct _
  · exact .nil

end Yaml.Document

namespace Config

variable {files : Files} {path : Value} {document : Yaml.Document}

/-! The keys of a mapping. -/

theorem isKnown_iff {key : Value} : isKnown key = true ↔ ∃ field : Field, key = .text field.key := by
  rw [isKnown, List.any_eq_true]
  constructor
  · rintro ⟨field, -, hsame⟩
    exact ⟨field, Value.eq_of_sameKey rfl hsame⟩
  · rintro ⟨field, rfl⟩
    exact ⟨field, field.mem_all, by simp [Value.sameKey, Value.sameAtom, Value.number?]⟩

/-- The keys of a document that are no parameters, in the order of the document. -/
def unknown (document : Yaml.Document) : List Value := document.keys.filter (!isKnown ·)

theorem mem_unknown {key : Value} :
    key ∈ unknown document ↔ key ∈ document.keys ∧ ¬∃ field : Field, key = .text field.key := by
  rw [unknown, List.mem_filter, ← isKnown_iff]
  simp

theorem codes_of_text {v : Value} (h : v.kind = .text) : v.codes? = some v.displayCodes := by
  rcases Value.text_or_ragged h with ⟨s, rfl⟩ | ⟨codes, rfl⟩ <;> rfl

theorem codes_of_other {v : Value} (h : v.kind ≠ .text) : v.codes? = none := by
  cases v with
  | text s => exact absurd rfl h
  | ragged codes => exact absurd rfl h
  | _ => rfl

theorem textOf_displayCodes {v : Value} (h : v.kind = .text) : Yaml.Node.textOf v.displayCodes = v.display := by
  rcases Value.text_or_ragged h with ⟨s, rfl⟩ | ⟨codes, rfl⟩
  · change String.ofList (Text.Surrogate.joined (s.toList.map Char.toNat)) = s
    rw [Text.Surrogate.joined_toNat, String.ofList_toList]
  · rfl

theorem keyTexts_of_texts {keys : List Value} (h : ∀ key ∈ keys, key.kind = .text) (place : Nat) :
    keyTexts place keys = .ok (keys.map Value.displayCodes) := by
  induction keys generalizing place with
  | nil => rfl
  | cons key keys ih =>
    obtain ⟨hkey, hkeys⟩ := List.forall_mem_cons.mp h
    rw [keyTexts, codes_of_text hkey]
    simp only [ih hkeys]
    rfl

theorem keyTexts_of_other {keys : List Value} (h : ∃ key ∈ keys, key.kind ≠ .text) (place : Nat) :
    ∃ f, keyTexts place keys = .error f ∧ f.family = .type := by
  induction keys generalizing place with
  | nil => simp at h
  | cons key keys ih =>
    rw [keyTexts]
    by_cases hkey : key.kind = .text
    · have hkeys : ∃ key ∈ keys, key.kind ≠ .text := by
        obtain ⟨other, hother, hkind⟩ := h
        rcases List.mem_cons.mp hother with rfl | hother
        · exact absurd hkey hkind
        · exact ⟨other, hother, hkind⟩
      obtain ⟨f, hf, htype⟩ := ih hkeys (place + 1)
      simp only [codes_of_text hkey, hf]
      exact ⟨f, rfl, htype⟩
    · simp only [codes_of_other hkey]
      exact ⟨_, rfl, rfl⟩

/-! Keys in order. -/

/-- One key does not come behind another one in the order of texts. -/
def inOrder (k l : Value) : Bool := !(l.displayCodes < k.displayCodes)

theorem sorted_keys (keys : List Value) :
    sorted (keys.map Value.displayCodes) = (keys.mergeSort inOrder).map Value.displayCodes :=
  (List.map_mergeSort (r := inOrder) (s := fun a b : List Nat => !decide (b < a)) (f := Value.displayCodes)
    fun _ _ _ _ => rfl).symm

theorem inOrder_iff {k l : Value} : inOrder k l = true ↔ ¬l.displayCodes < k.displayCodes := by
  simp [inOrder]

theorem pairwise_inOrder (keys : List Value) :
    (keys.mergeSort inOrder).Pairwise fun k l => ¬l.displayCodes < k.displayCodes := by
  have htrans : ∀ k l m, inOrder k l = true → inOrder l m = true → inOrder k m = true := by
    intro k l m hkl hlm
    rw [inOrder_iff] at hkl hlm ⊢
    exact List.not_lt.mpr (List.le_trans (List.not_lt.mp hkl) (List.not_lt.mp hlm))
  have htotal : ∀ k l, (inOrder k l || inOrder l k) = true := by
    intro k l
    rw [Bool.or_eq_true, inOrder_iff, inOrder_iff, List.not_lt, List.not_lt]
    exact List.le_total _ _
  exact (List.pairwise_mergeSort htrans htotal keys).imp inOrder_iff.mp

/-! Loading. -/

/-- Parameters under their keys, or a problem that is told. -/
def Settled (result : Except Failure (List (Value × Value))) : Prop :=
  (∃ entries, result = .ok entries ∧ ∀ e ∈ entries, ∃ field : Field, e.1 = .text field.key) ∨
    ∃ problem, result = .error (.config problem)

/-- What is loaded from a document: what its mapping holds, nothing from one that stands for nothing, and
else what is wrong with it; of unknown keys each one is named once, in the order of texts. -/
structure Loaded (path : Value) (document : Yaml.Document)
    (result : Except Failure (List (Value × Value))) : Prop where
  settled : Settled result ↔ ∀ key ∈ document.keys, key.kind = .text
  nothing : document.isNull = true → result = .ok []
  mapping : ∀ entries, document.entries? = some entries →
    (∀ key ∈ document.keys, ∃ field : Field, key = .text field.key) →
      ∃ found, result = .ok found ∧ found.map Prod.fst = document.keys ∧
        found.map Prod.snd = document.values (entries.map Prod.snd)
  other : document.isNull = false → document.entries? = none → result = .error (.config (.notMapping path))
  strange : (∀ key ∈ document.keys, key.kind = .text) →
    (∃ key ∈ document.keys, ¬∃ field : Field, key = .text field.key) →
      ∃ (names : List Value) (problem : Problem), result = .error (.config problem) ∧
        problem.message = s!"Unknown config keys in '{path.display}': " ++
          Text.join ", " (names.map Value.display) ∧
        names.Nodup ∧ names.Pairwise (fun k l => ¬l.displayCodes < k.displayCodes) ∧
        ∀ key, key ∈ names ↔ key ∈ document.keys ∧ ¬∃ field : Field, key = .text field.key
  escaped : (∃ key ∈ document.keys, key.kind ≠ .text) → ∃ f, result = .error (.fault f) ∧ f.family = .type

theorem message_unknownKeys (path : Value) (keys : List String) :
    (Problem.unknownKeys path keys).message =
      s!"Unknown config keys in '{path.display}': " ++ Text.join ", " keys := rfl

theorem not_settled_of_fault {result : Except Failure (List (Value × Value))} {f : Fault}
    (h : result = .error (.fault f)) : ¬Settled result := by
  rw [h]
  rintro (⟨_, h, -⟩ | ⟨_, h⟩) <;> cases h

/-- The unknown keys, when all of them are texts. -/
theorem unknown_named (h : ∀ key ∈ unknown document, key.kind = .text)
    (hdistinct : (unknown document).Nodup) :
    ∃ names : List Value, (sorted ((unknown document).map Value.displayCodes)).map Yaml.Node.textOf =
        names.map Value.display ∧
      names.Nodup ∧ names.Pairwise (fun k l => ¬l.displayCodes < k.displayCodes) ∧
      ∀ key, key ∈ names ↔ key ∈ document.keys ∧ ¬∃ field : Field, key = .text field.key := by
  have hperm := List.mergeSort_perm (unknown document) inOrder
  refine ⟨(unknown document).mergeSort inOrder, ?_, hperm.nodup_iff.mpr hdistinct,
    pairwise_inOrder _, fun key => by rw [hperm.mem_iff, mem_unknown]⟩
  rw [sorted_keys, List.map_map]
  exact List.map_congr_left fun key hkey => textOf_displayCodes (h key (hperm.mem_iff.mp hkey))

theorem nodup_unknown (h : ∀ key ∈ document.keys, key.kind = .text) : (unknown document).Nodup := by
  have hdistinct : document.keys.Nodup :=
    document.distinct_keys.imp_of_mem fun hk _ hne => hne (h _ hk)
  exact hdistinct.filter _

/-! Documents by shape. -/

theorem entries_of_null (h : document.isNull = true) : document.entries? = none := by
  unfold Yaml.Document.isNull at h
  unfold Yaml.Document.entries?
  split at h
  · next hpart => rw [hpart]
  · cases h

theorem keys_of_none (h : document.entries? = none) : document.keys = [] := by
  rw [Yaml.Document.keys, h]
  rfl

theorem entriesOf_null (path : Value) (h : document.isNull = true) : entriesOf path document = .ok [] := by
  rw [entriesOf, if_pos h]

theorem entriesOf_other (path : Value) (h : document.isNull = false) (hentries : document.entries? = none) :
    entriesOf path document = .error (.config (.notMapping path)) := by
  rw [entriesOf, h, hentries]
  rfl

section Mapping

variable (path : Value) {entries : List (Value × Nat)} (h : document.isNull = false)
  (hentries : document.entries? = some entries)

include h hentries

theorem entriesOf_mapping : entriesOf path document =
    match unknown document with
    | [] => .ok (document.fields entries)
    | unknown =>
      match keyTexts 0 unknown with
      | .ok texts => .error (.config (.unknownKeys path ((sorted texts).map Yaml.Node.textOf)))
      | .error f => .error (.fault f) := by
  rw [entriesOf, h, unknown, Yaml.Document.keys, hentries]
  rfl

theorem entriesOf_known (hknown : ∀ key ∈ document.keys, ∃ field : Field, key = .text field.key) :
    entriesOf path document = .ok (document.fields entries) := by
  have hnone : unknown document = [] := by
    refine List.eq_nil_iff_forall_not_mem.mpr fun key hkey => ?_
    obtain ⟨hmem, hstrange⟩ := mem_unknown.mp hkey
    exact hstrange (hknown key hmem)
  rw [entriesOf_mapping path h hentries, hnone]

theorem entriesOf_strange (htexts : ∀ key ∈ document.keys, key.kind = .text)
    (hstrange : ∃ key ∈ document.keys, ¬∃ field : Field, key = .text field.key) :
    entriesOf path document = .error (.config (.unknownKeys path
      ((sorted ((unknown document).map Value.displayCodes)).map Yaml.Node.textOf))) := by
  obtain ⟨key, hkey, hfield⟩ := hstrange
  have hmem : key ∈ unknown document := mem_unknown.mpr ⟨hkey, hfield⟩
  have hall : ∀ key ∈ unknown document, key.kind = .text := fun key hkey => htexts key (mem_unknown.mp hkey).1
  have hkeyTexts := keyTexts_of_texts hall 0
  rw [entriesOf_mapping path h hentries]
  split
  · next hnone =>
    rw [hnone] at hmem
    cases hmem
  · rw [hkeyTexts]

theorem entriesOf_escaped (hother : ∃ key ∈ document.keys, key.kind ≠ .text) :
    ∃ f, entriesOf path document = .error (.fault f) ∧ f.family = .type := by
  obtain ⟨key, hkey, hkind⟩ := hother
  have hmem : key ∈ unknown document := by
    refine mem_unknown.mpr ⟨hkey, ?_⟩
    rintro ⟨field, rfl⟩
    exact hkind rfl
  obtain ⟨f, hf, htype⟩ := keyTexts_of_other ⟨key, hmem, hkind⟩ 0
  refine ⟨f, ?_, htype⟩
  rw [entriesOf_mapping path h hentries]
  split
  · next hnone =>
    rw [hnone] at hmem
    cases hmem
  · rw [hf]

end Mapping

theorem loaded_null (path : Value) (h : document.isNull = true) : Loaded path document (.ok []) where
  settled := by
    rw [keys_of_none (entries_of_null h)]
    exact ⟨fun _ => by simp, fun _ => .inl ⟨[], rfl, by simp⟩⟩
  nothing _ := rfl
  mapping := by simp [entries_of_null h]
  other := by simp [h]
  strange := by simp [keys_of_none (entries_of_null h)]
  escaped := by simp [keys_of_none (entries_of_null h)]

theorem loaded_other (path : Value) (h : document.isNull = false) (hentries : document.entries? = none) :
    Loaded path document (.error (.config (.notMapping path))) where
  settled := by
    rw [keys_of_none hentries]
    exact ⟨fun _ => by simp, fun _ => .inr ⟨_, rfl⟩⟩
  nothing := by simp [h]
  mapping := by simp [hentries]
  other _ _ := rfl
  strange := by simp [keys_of_none hentries]
  escaped := by simp [keys_of_none hentries]

theorem loaded_mapping (path : Value) {entries : List (Value × Nat)} (h : document.isNull = false)
    (hentries : document.entries? = some entries) : Loaded path document (entriesOf path document) where
  settled := by
    constructor
    · intro hsettled key hkey
      refine Classical.byContradiction fun hkind => ?_
      obtain ⟨f, hf, -⟩ := entriesOf_escaped path h hentries ⟨key, hkey, hkind⟩
      exact not_settled_of_fault hf hsettled
    · intro htexts
      by_cases hknown : ∀ key ∈ document.keys, ∃ field : Field, key = .text field.key
      · refine .inl ⟨_, entriesOf_known path h hentries hknown, fun e he => hknown e.1 ?_⟩
        have hkeys : (document.fields entries).map Prod.fst = document.keys := by
          rw [(document.map_fields entries).1, Yaml.Document.keys, hentries]
          rfl
        rw [← hkeys]
        exact List.mem_map_of_mem he
      · have hstrange : ∃ key ∈ document.keys, ¬∃ field : Field, key = .text field.key := by
          simpa using hknown
        exact .inr ⟨_, entriesOf_strange path h hentries htexts hstrange⟩
  nothing := by simp [h]
  mapping := by
    intro found hfound hknown
    rw [hentries] at hfound
    cases hfound
    refine ⟨_, entriesOf_known path h hentries hknown, ?_, (document.map_fields entries).2⟩
    rw [(document.map_fields entries).1, Yaml.Document.keys, hentries]
    rfl
  other := by simp [hentries]
  strange := by
    intro htexts hstrange
    obtain ⟨names, hnames, hnodup, hordered, hmem⟩ :=
      unknown_named (fun key hkey => htexts key (mem_unknown.mp hkey).1) (nodup_unknown htexts)
    have hresult := entriesOf_strange path h hentries htexts hstrange
    rw [hnames] at hresult
    exact ⟨names, _, hresult, message_unknownKeys path _, hnodup, hordered, hmem⟩
  escaped := entriesOf_escaped path h hentries

/-- What is loaded from any document. -/
theorem loaded_document (path : Value) (document : Yaml.Document) :
    Loaded path document (entriesOf path document) := by
  cases hnull : document.isNull with
  | true =>
    rw [entriesOf_null path hnull]
    exact loaded_null path hnull
  | false =>
    cases hentries : document.entries? with
    | none =>
      rw [entriesOf_other path hnull hentries]
      exact loaded_other path hnull hentries
    | some entries => exact loaded_mapping path hnull hentries

/-- Where the file is missing, or where something is read from it, in whatever notation and of whatever
shape, the parameters are loaded or a problem is told, unless a key is no text. -/
theorem load_settled (files : Files) (path : Value) :
    (∀ place, files.read path = .error (.system .noEntry place) →
      load files path = .error (.config (.fileNotFound path))) ∧
    ∀ data, files.read path = .ok data →
      (∀ problem, Yaml.Document.ofBytes data = .error (.problem problem) →
        load files path = .error (.config (.notYaml problem.message))) ∧
      (Yaml.Document.ofBytes data = .ok none → load files path = .ok []) ∧
      ∀ document, Yaml.Document.ofBytes data = .ok (some document) →
        Loaded path document (load files path) := by
  constructor
  · intro place hread
    rw [load, hread]
    rfl
  · intro data hread
    have hfound : (files.read path).mapError (fileFailure path) = .ok data := by
      rw [hread]
      rfl
    rw [load, hfound]
    refine ⟨fun problem hdata => ?_, fun hdata => ?_, fun document hdata => ?_⟩
    · simp only [bind, Except.bind, hdata]
      rfl
    · simp only [bind, Except.bind, hdata]
      rfl
    · simp only [bind, Except.bind, hdata]
      exact loaded_document path document

end Config

end Stemcell
