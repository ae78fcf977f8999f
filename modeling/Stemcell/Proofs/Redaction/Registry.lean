import Mathlib.Data.List.Nodup
import Stemcell.Proofs.Value
import Stemcell.Redaction

/-! Registries of texts. Such a registry always has its secrets: those that are registered and those in the
environment, each once, in whatever order the set of them is gone through. -/
namespace Stemcell.Redaction

/-! Lists of values that are texts, also of texts with half of a pair of surrogates in them. -/

def AreTexts (values : List Value) : Prop := ∀ v ∈ values, v.kind = .text

/-- A text that is long enough to be masked. -/
def IsLong (v : Value) : Prop := ∃ codes, v.codes? = some codes ∧ minimumLength ≤ codes.length

theorem isLong_text {s : String} : IsLong (.text s) ↔ minimumLength ≤ s.length := by
  simp [IsLong, Value.codes?, String.length_toList]

theorem IsLong.kind {v : Value} (h : IsLong v) : v.kind = .text := by
  obtain ⟨codes, hcodes, -⟩ := h
  cases v <;> first | rfl | cases hcodes

theorem areTexts_of_long {values : List Value} (h : ∀ v ∈ values, IsLong v) : AreTexts values :=
  fun v hv => (h v hv).kind

theorem not_empty_of_long {s : String} (h : minimumLength ≤ s.length) : s ≠ "" := by
  rintro rfl
  simp [minimumLength] at h

theorem longEnough_ok {values : List Value} (h : AreTexts values) :
    ∃ kept, longEnough values = .ok kept ∧ ∀ v, v ∈ kept ↔ v ∈ values ∧ IsLong v := by
  induction values with
  | nil => exact ⟨[], rfl, by simp⟩
  | cons value values ih =>
    obtain ⟨hvalue, hvalues⟩ := List.forall_mem_cons.mp h
    obtain ⟨kept, hkept, hmem⟩ := ih hvalues
    obtain ⟨n, hn, hlong⟩ : ∃ n, lengthOf value = .ok n ∧ (IsLong value ↔ minimumLength ≤ n) := by
      rcases Value.text_or_ragged hvalue with ⟨t, rfl⟩ | ⟨codes, rfl⟩
      · exact ⟨t.length, rfl, isLong_text⟩
      · exact ⟨codes.length, rfl, by simp [IsLong, Value.codes?]⟩
    refine ⟨if minimumLength ≤ n then value :: kept else kept, ?_, fun v => ?_⟩
    · rw [longEnough, hn, hkept]
      rfl
    · by_cases hn : minimumLength ≤ n
      · rw [if_pos hn, List.mem_cons, List.mem_cons, hmem]
        grind
      · rw [if_neg hn, hmem, List.mem_cons]
        grind

/-- Whatever has been kept before stays, and of the values behind it each one is kept once. -/
theorem distinct_behind {values : List Value} (h : AreTexts values) {kept : List Value} (hkept : kept.Nodup) :
    let all := values.foldl (fun kept v => if kept.any (·.sameKey v) then kept else kept ++ [v]) kept
    all.Nodup ∧ ∀ v, v ∈ all ↔ v ∈ kept ∨ v ∈ values := by
  induction values generalizing kept with
  | nil => simpa using hkept
  | cons value values ih =>
    obtain ⟨hvalue, hvalues⟩ := List.forall_mem_cons.mp h
    have hany : kept.any (·.sameKey value) = true ↔ value ∈ kept := by
      rw [List.any_eq_true]
      constructor
      · rintro ⟨v, hv, hsame⟩
        rwa [← Value.eq_of_sameKey hvalue hsame]
      · exact fun hmem => ⟨value, hmem, Value.sameKey_self hvalue⟩
    rw [List.foldl_cons]
    by_cases hmem : value ∈ kept
    · obtain ⟨hnodup, hall⟩ := ih hvalues hkept
      rw [if_pos (hany.mpr hmem)]
      refine ⟨hnodup, fun v => ?_⟩
      rw [hall, List.mem_cons]
      grind
    · have hadded : (kept ++ [value]).Nodup := by
        simpa [List.nodup_append, hkept] using fun v hv => ne_of_mem_of_not_mem hv hmem
      obtain ⟨hnodup, hall⟩ := ih hvalues hadded
      rw [if_neg (mt hany.mp hmem)]
      refine ⟨hnodup, fun v => ?_⟩
      rw [hall, List.mem_append, List.mem_singleton, List.mem_cons, or_assoc]

theorem nodup_distinct {values : List Value} (h : AreTexts values) : (distinct values).Nodup :=
  (distinct_behind h List.nodup_nil).1

theorem mem_distinct {values : List Value} (h : AreTexts values) {v : Value} : v ∈ distinct values ↔ v ∈ values :=
  ((distinct_behind h List.nodup_nil).2 v).trans (by simp)

theorem mem_fromEnvironment {env : Environment} {v : Value} :
    v ∈ fromEnvironment env ↔ (∃ name ∈ secretVariables, env.get? name = some v) ∧ IsLong v := by
  rw [fromEnvironment, List.mem_filter, List.mem_filterMap]
  refine and_congr_right fun _ => ?_
  simp [IsLong, Option.any_eq_true]

/-! What is looked for in a text. -/

theorem texts_ok {values : List Value} (h : AreTexts values) :
    ∃ found, texts values = .ok found ∧ (∀ s, s ∈ found ↔ Value.text (String.ofList s) ∈ values) ∧
      (values.Nodup → found.Nodup) := by
  induction values with
  | nil => exact ⟨[], rfl, by simp, by simp⟩
  | cons value values ih =>
    obtain ⟨hvalue, hvalues⟩ := List.forall_mem_cons.mp h
    obtain ⟨found, hfound, hmem, hnodup⟩ := ih hvalues
    rcases Value.text_or_ragged hvalue with ⟨t, rfl⟩ | ⟨codes, rfl⟩
    · refine ⟨t.toList :: found, by rw [texts, hfound]; rfl, fun s => ?_, fun hall => ?_⟩
      · rw [List.mem_cons, List.mem_cons, hmem, Value.text.injEq, ← String.toList_inj, String.toList_ofList]
      · obtain ⟨hnew, hrest⟩ := List.nodup_cons.mp hall
        refine List.nodup_cons.mpr ⟨?_, hnodup hrest⟩
        rwa [hmem, String.ofList_toList]
    · refine ⟨found, by rw [texts, hfound], fun s => ?_, fun hall => hnodup (List.nodup_cons.mp hall).2⟩
      rw [hmem, List.mem_cons]
      simp

theorem numbers_ok {values : List Value} (h : AreTexts values) :
    ∃ found, numbers values = .ok found ∧ ∀ codes, codes ∈ found ↔ ∃ v ∈ values, v.codes? = some codes := by
  induction values with
  | nil => exact ⟨[], rfl, by simp⟩
  | cons value values ih =>
    obtain ⟨hvalue, hvalues⟩ := List.forall_mem_cons.mp h
    obtain ⟨found, hfound, hmem⟩ := ih hvalues
    obtain ⟨codes, hcodes⟩ : ∃ codes, value.codes? = some codes := by
      rcases Value.text_or_ragged hvalue with ⟨t, rfl⟩ | ⟨codes, rfl⟩ <;> exact ⟨_, rfl⟩
    refine ⟨codes :: found, by simp only [numbers, hcodes, hfound]; rfl, fun other => ?_⟩
    simp [hmem, hcodes, eq_comm]

/-! The state of a registry. -/

namespace Registry

variable {env : Environment} {r : Registry}

/-- All values that a registry of texts has or that the environment has, as long as they are long enough. -/
theorem collect_ok (env : Environment) (h : AreTexts r.registered) :
    ∃ secrets, r.collect env = .ok secrets ∧ secrets.Nodup ∧
      ∀ v, v ∈ secrets ↔ IsLong v ∧ (v ∈ r.registered ∨ ∃ name ∈ secretVariables, env.get? name = some v) := by
  have hperm := r.order.perm r.registered
  obtain ⟨kept, hkept, hmem⟩ := longEnough_ok fun v hv => h v (hperm.mem_iff.mp hv)
  have hall : AreTexts (kept ++ fromEnvironment env) := by
    intro v hv
    rcases List.mem_append.mp hv with hv | hv
    · exact ((hmem v).mp hv).2.kind
    · exact (mem_fromEnvironment.mp hv).2.kind
  have harranged := r.order.perm (distinct (kept ++ fromEnvironment env))
  refine ⟨_, by rw [collect, hkept]; rfl, harranged.nodup_iff.mpr (nodup_distinct hall), fun v => ?_⟩
  rw [harranged.mem_iff, mem_distinct hall, List.mem_append, hmem, hperm.mem_iff, mem_fromEnvironment]
  grind

/-- What is registered are texts, and what has been collected would be collected again. -/
structure Coherent (env : Environment) (r : Registry) : Prop where
  texts : AreTexts r.registered
  collected : ∀ secrets, r.collected = some secrets → r.collect env = .ok secrets

theorem coherent_nothing (env : Environment) (order : SetOrder) : ({ order } : Registry).Coherent env :=
  ⟨by simp [AreTexts], by simp⟩

theorem Coherent.secrets (h : r.Coherent env) : r.secrets env = r.collect env := by
  rw [Registry.secrets]
  cases hcollected : r.collected with
  | none => rfl
  | some secrets => exact (h.collected secrets hcollected).symm

/-- Asking for the secrets changes nothing but that they have been collected. -/
theorem Coherent.settled_eq (h : r.Coherent env) :
    ∃ secrets, r.collect env = .ok secrets ∧ r.settled env = { r with collected := some secrets } := by
  obtain ⟨secrets, hsecrets, -⟩ := collect_ok env h.texts
  exact ⟨secrets, hsecrets, by rw [Registry.settled, h.secrets, hsecrets]⟩

theorem Coherent.settled (h : r.Coherent env) : (r.settled env).Coherent env := by
  obtain ⟨secrets, hsecrets, hsettled⟩ := h.settled_eq
  rw [hsettled]
  refine ⟨h.texts, fun collected hcollected => ?_⟩
  cases hcollected
  exact hsecrets

/-- The same values came, and a set of them is gone through in the same order. What has been collected does not
matter. -/
structure SameValues (r r' : Registry) : Prop where
  registered : r.registered = r'.registered
  order : r.order = r'.order

theorem SameValues.symm {r' : Registry} (h : r.SameValues r') : r'.SameValues r :=
  ⟨h.registered.symm, h.order.symm⟩

theorem SameValues.trans {r' r'' : Registry} (h : r.SameValues r') (h' : r'.SameValues r'') : r.SameValues r'' :=
  ⟨h.registered.trans h'.registered, h.order.trans h'.order⟩

theorem SameValues.collect {r' : Registry} (h : r.SameValues r') (env : Environment) :
    r.collect env = r'.collect env := by
  rw [Registry.collect, Registry.collect, h.registered, h.order]

theorem sameValues_settled (env : Environment) (r : Registry) : (r.settled env).SameValues r := by
  rw [Registry.settled]
  split <;> exact ⟨rfl, rfl⟩

/-- Whatever does not count as given is left out; a text is registered, and nothing is forgotten. -/
theorem Coherent.register (h : r.Coherent env) {v : Value} (hv : v.isTruthy = true → v.kind = .text) :
    ∃ r', r.register v = .ok r' ∧ r'.Coherent env ∧ r'.order = r.order ∧
      ∀ w, w ∈ r'.registered ↔ w ∈ r.registered ∨ (w = v ∧ v.isTruthy = true) := by
  unfold Registry.register
  cases htruthy : v.isTruthy with
  | false => exact ⟨r, rfl, h, rfl, by simp⟩
  | true =>
    have hall : AreTexts (r.registered ++ [v]) := by
      intro w hw
      rcases List.mem_append.mp hw with hw | hw
      · exact h.texts w hw
      · rw [List.mem_singleton.mp hw, hv htruthy]
    rw [Value.isKey_of_text (hv htruthy)]
    refine ⟨_, rfl, ⟨fun w hw => hall w ((mem_distinct hall).mp hw), by simp⟩, rfl, fun w => ?_⟩
    simp [mem_distinct hall]

end Registry

end Stemcell.Redaction
