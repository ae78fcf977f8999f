import Stemcell.Value.Basic

/-! Equality of values can be decided. Texts among the values: with half of a pair of surrogates in them or
without. A key that is the same as a text is that text. -/
namespace Stemcell.Value

mutual

/-- Whether two values are built alike. -/
def alike : Value → Value → Bool
  | .null, .null => true
  | .bool a, .bool b => a = b
  | .int n, .int m => n = m
  | .float x, .float y => x = y
  | .text s, .text t => s = t
  | .ragged s, .ragged t => s = t
  | .bytes a, .bytes b => a = b
  | .date d, .date e => d = e
  | .moment d t z, .moment d' t' z' => d = d' && t = t' && z = z'
  | .list vs, .list ws => alikeItems vs ws
  | .pair a b, .pair c d => alike a c && alike b d
  | .set vs, .set ws => alikeItems vs ws
  | .mapping es, .mapping fs => alikeEntries es fs
  | .enclosing a, .enclosing b => a = b
  | _, _ => false

def alikeItems : List Value → List Value → Bool
  | [], [] => true
  | v :: vs, w :: ws => alike v w && alikeItems vs ws
  | _, _ => false

def alikeEntries : List (Value × Value) → List (Value × Value) → Bool
  | [], [] => true
  | (k, v) :: es, (l, w) :: fs => alike k l && alike v w && alikeEntries es fs
  | _, _ => false

end

mutual

theorem alike_iff (v w : Value) : alike v w = true ↔ v = w := by
  cases v with
  | list vs => cases w <;> simp [alike, alikeItems_iff vs]
  | set vs => cases w <;> simp [alike, alikeItems_iff vs]
  | pair a b => cases w <;> simp [alike, alike_iff a, alike_iff b]
  | mapping es => cases w <;> simp [alike, alikeEntries_iff es]
  | _ => cases w <;> simp [alike, and_assoc]

theorem alikeItems_iff (vs ws : List Value) : alikeItems vs ws = true ↔ vs = ws := by
  cases vs with
  | nil => cases ws <;> simp [alikeItems]
  | cons v vs => cases ws <;> simp [alikeItems, alike_iff v, alikeItems_iff vs]

theorem alikeEntries_iff (es fs : List (Value × Value)) : alikeEntries es fs = true ↔ es = fs := by
  cases es with
  | nil => cases fs <;> simp [alikeEntries]
  | cons e es =>
    obtain ⟨k, v⟩ := e
    cases fs <;> simp [alikeEntries, alike_iff k, alike_iff v, alikeEntries_iff es, Prod.ext_iff]

end

instance : DecidableEq Value := fun v w => decidable_of_iff (alike v w = true) (alike_iff v w)

variable {v w : Value}

theorem text_or_ragged (h : v.kind = .text) : (∃ s, v = .text s) ∨ ∃ codes, v = .ragged codes := by
  cases v with
  | text s => exact .inl ⟨s, rfl⟩
  | ragged codes => exact .inr ⟨codes, rfl⟩
  | enclosing isMapping => cases isMapping <;> cases h
  | _ => cases h

theorem eq_of_sameKey (hw : w.kind = .text) (h : v.sameKey w = true) : v = w := by
  rcases text_or_ragged hw with ⟨s, rfl⟩ | ⟨codes, rfl⟩
  · cases v <;> simp_all [sameKey, sameAtom, number?]
  · cases v <;> simp_all [sameKey, sameAtom, number?]

theorem sameKey_self (h : v.kind = .text) : v.sameKey v = true := by
  rcases text_or_ragged h with ⟨s, rfl⟩ | ⟨codes, rfl⟩
  · simp [sameKey, sameAtom, number?]
  · simp [sameKey, sameAtom, number?]

theorem isKey_of_text (h : v.kind = .text) : v.isKey = true := by
  rcases text_or_ragged h with ⟨s, rfl⟩ | ⟨codes, rfl⟩ <;> rfl

end Stemcell.Value
