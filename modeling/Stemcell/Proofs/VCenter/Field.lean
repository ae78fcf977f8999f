import Stemcell.Proofs.Json
import Stemcell.VCenter.Answer

/-! What stands under a name in an answer. A mapping always has something to say, if only nothing; any
other value refuses to be asked. -/
namespace Stemcell.VCenter

open Json (Document)

/-- The value under a name in a mapping: under the name as it is, else under its spelling with a small
first letter, else nothing. -/
def under (name : String) (entries : List (Value × Value)) : Value :=
  ((Value.field? name entries).or (Value.field? (smallInitial name) entries)).getD .null

theorem field_mapping (name : String) (entries : List (Value × Value)) :
    field name (.mapping entries) = .ok (under name entries) := by
  rw [field, under]
  cases Value.field? name entries <;> rfl

/-- What is no mapping has no names, or has no such operation. -/
theorem field_refused (name : String) {v : Value} (h : ∀ entries, v ≠ .mapping entries) :
    ∃ f, field name v = .error f ∧ (f.family = .attribute ∨ f.family = .type) := by
  cases v with
  | mapping entries => exact absurd rfl (h entries)
  | text s =>
    rw [field]
    split
    · exact ⟨_, rfl, .inr rfl⟩
    · exact ⟨_, rfl, .inl rfl⟩
  | ragged codes =>
    rw [field]
    split
    · exact ⟨_, rfl, .inr rfl⟩
    · exact ⟨_, rfl, .inl rfl⟩
  | list items =>
    rw [field]
    split
    · exact ⟨_, rfl, .inr rfl⟩
    · exact ⟨_, rfl, .inl rfl⟩
  | _ => exact ⟨_, rfl, .inr rfl⟩

theorem sameAtom_text_iff {v : Value} {s : String} : v.sameAtom (.text s) = true ↔ v = .text s := by
  constructor
  · intro h
    cases v with
    | text t => rw [of_decide_eq_true h]
    | moment day time offset => cases offset <;> cases h
    | _ => cases h
  · rintro rfl
    exact decide_eq_true rfl

theorem not_mapping_of_text {v : Value} (h : v.kind = .text) (entries : List (Value × Value)) :
    v ≠ .mapping entries := by
  rintro rfl
  cases h

theorem document_entry {key v : Value} {entries : List (Value × Value)} (h : Document (.mapping entries))
    (hentry : Value.entry? key entries = some v) : Document v := by
  cases h with
  | mapping hkeys hall =>
    rw [Value.entry?, Option.map_eq_some_iff] at hentry
    obtain ⟨e, hfound, rfl⟩ := hentry
    exact hall e (List.mem_of_find?_eq_some hfound)

theorem document_under {entries : List (Value × Value)} (h : Document (.mapping entries)) (name : String) :
    Document (under name entries) := by
  have hfield : ∀ {spelling : String} {v : Value}, Value.field? spelling entries = some v → Document v :=
    fun hv => document_entry h hv
  unfold under
  cases hname : Value.field? name entries with
  | some v => exact hfield hname
  | none =>
    cases hsmall : Value.field? (smallInitial name) entries with
    | some v => exact hfield hsmall
    | none => exact .null

end Stemcell.VCenter
