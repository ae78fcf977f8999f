import Stemcell.Proofs.VCenter.Field
import Stemcell.VCenter.Client

/-! What reading the power state of a machine comes to, for every answer that a tool can write. It is a
text, or the answer is refused as unreadable, but for two shapes of document: the machines come as a
mapping, or the state of the first one is no text. -/
namespace Stemcell.VCenter

open Json (Document)

/-- A fault that says that the answer cannot be read. -/
def Unreadable (f : Fault) : Prop := f.family = .attribute ∨ f.family = .index ∨ f.family = .type

theorem field_unreadable (name : String) {v : Value} (h : ∀ entries, v ≠ .mapping entries) :
    ∃ f, field name v = .error f ∧ Unreadable f := by
  obtain ⟨f, hf, hfamily⟩ := field_refused name h
  exact ⟨f, hf, hfamily.imp id .inr⟩

/-- No key of a document is a number. -/
theorem no_number_key {entries : List (Value × Value)} (h : Document (.mapping entries)) (n : Int) :
    Value.entry? (.int n) entries = none := by
  cases h with
  | mapping hkeys hall =>
    rw [Value.entry?, Option.map_eq_none_iff, List.find?_eq_none]
    intro e he
    have hkind := hkeys e he
    cases hkey : e.1 with
    | text s => simp [Value.sameKey, Value.sameAtom, Value.number?]
    | ragged codes => simp [Value.sameKey, Value.sameAtom, Value.number?]
    | enclosing isMapping =>
      rw [hkey] at hkind
      cases isMapping <;> cases hkind
    | _ =>
      rw [hkey] at hkind
      cases hkind

/-- Of machines that come neither in a list nor in a mapping none can be read; the first character of a
text stands for one. -/
theorem first_unreadable {machines : Value} (hlist : ∀ machine rest, machines ≠ .list (machine :: rest))
    (hmapping : ∀ e rest, machines ≠ .mapping (e :: rest)) :
    (∃ v, firstOf (orNoItems machines) = .ok v ∧ v.kind = .text) ∨
      ∃ f, firstOf (orNoItems machines) = .error f ∧ Unreadable f := by
  have hrange : Unreadable .outOfRange := .inr (.inl rfl)
  unfold orNoItems
  by_cases htruthy : machines.isTruthy = true
  · rw [if_pos htruthy]
    cases machines with
    | list items =>
      cases items with
      | nil => exact .inr ⟨_, rfl, hrange⟩
      | cons machine rest => exact absurd rfl (hlist machine rest)
    | mapping entries =>
      cases entries with
      | nil => cases htruthy
      | cons e rest => exact absurd rfl (hmapping e rest)
    | text s =>
      rw [firstOf]
      cases s.toList with
      | nil => exact .inr ⟨_, rfl, hrange⟩
      | cons c rest => exact .inl ⟨_, rfl, rfl⟩
    | ragged codes =>
      cases codes with
      | nil => exact .inr ⟨_, rfl, hrange⟩
      | cons u rest => exact .inl ⟨_, rfl, Json.kind_ofCodes [u]⟩
    | _ => exact .inr ⟨_, rfl, .inr (.inr rfl)⟩
  · rw [if_neg htruthy]
    exact .inr ⟨_, rfl, hrange⟩

/-! The shapes of a document. -/

/-- The machines come as a mapping. -/
inductive Keyed : Value → Prop where
  | machines {top : List (Value × Value)} (e : Value × Value) (rest : List (Value × Value))
    (h : under "VirtualMachines" top = .mapping (e :: rest)) : Keyed (.mapping top)

/-- The first machine of a list has a description of its run, with this state. -/
inductive Stated : Value → Value → Prop where
  | state {top machine runtime : List (Value × Value)} (rest : List Value)
    (hmachines : under "VirtualMachines" top = .list (.mapping machine :: rest))
    (hruntime : under "Runtime" machine = .mapping runtime) :
    Stated (.mapping top) (under "PowerState" runtime)

theorem stateIn_keyed {doc : Value} (hdoc : Document doc) (h : Keyed doc) :
    stateIn doc = .error (.missingKey (.int 0)) := by
  cases h with
  | @machines top e rest h =>
    have hmachines : Document (.mapping (e :: rest)) := by
      rw [← h]
      exact document_under hdoc "VirtualMachines"
    have hnone := no_number_key hmachines 0
    unfold stateIn
    rw [field_mapping, h]
    change (firstOf (.mapping (e :: rest)) >>= _) = _
    rw [firstOf, hnone]
    rfl

theorem stateIn_stated {doc v : Value} (h : Stated doc v) : stateIn doc = .ok v := by
  cases h with
  | @state top machine runtime rest hmachines hruntime =>
    unfold stateIn
    rw [field_mapping, hmachines]
    change (field "Runtime" (.mapping machine) >>= _) = _
    rw [field_mapping, hruntime]
    exact field_mapping "PowerState" runtime

theorem stateIn_unreadable {doc : Value} (hkeyed : ¬Keyed doc) (hstated : ∀ v, ¬Stated doc v) :
    ∃ f, stateIn doc = .error f ∧ Unreadable f := by
  -- One of the four steps fails; those before it go through.
  have hfails : ∀ (name : String) {v : Value} (k : Value → Except Fault Value),
      (∀ entries, v ≠ .mapping entries) → ∃ f, (field name v >>= k) = .error f ∧ Unreadable f := by
    intro name v k hv
    obtain ⟨f, hf, hunreadable⟩ := field_unreadable name hv
    exact ⟨f, by rw [hf]; rfl, hunreadable⟩
  by_cases hdoc : ∃ top, doc = .mapping top
  · obtain ⟨top, rfl⟩ := hdoc
    unfold stateIn
    rw [field_mapping]
    change ∃ f, (firstOf (orNoItems (under "VirtualMachines" top)) >>= fun machine =>
      field "Runtime" machine >>= field "PowerState") = .error f ∧ Unreadable f
    by_cases hlist : ∃ machine rest, under "VirtualMachines" top = .list (machine :: rest)
    · obtain ⟨machine, rest, hmachines⟩ := hlist
      rw [hmachines]
      change ∃ f, (field "Runtime" machine >>= field "PowerState") = .error f ∧ Unreadable f
      by_cases hmachine : ∃ entries, machine = .mapping entries
      · obtain ⟨entries, rfl⟩ := hmachine
        rw [field_mapping]
        change ∃ f, field "PowerState" (under "Runtime" entries) = .error f ∧ Unreadable f
        refine field_unreadable "PowerState" fun runtime hruntime => ?_
        exact hstated _ (.state rest hmachines hruntime)
      · exact hfails "Runtime" _ fun entries h => hmachine ⟨entries, h⟩
    · have hmapping : ∀ e rest, under "VirtualMachines" top ≠ .mapping (e :: rest) :=
        fun e rest h => hkeyed (.machines e rest h)
      cases first_unreadable (fun machine rest h => hlist ⟨machine, rest, h⟩) hmapping with
      | inl hfirst =>
        obtain ⟨v, hv, hkind⟩ := hfirst
        rw [hv]
        exact hfails "Runtime" _ (not_mapping_of_text hkind)
      | inr hfirst =>
        obtain ⟨f, hf, hunreadable⟩ := hfirst
        exact ⟨f, by rw [hf]; rfl, hunreadable⟩
  · exact hfails "VirtualMachines" _ fun entries h => hdoc ⟨entries, h⟩

/-! Answers. -/

/-- The shapes in which an answer gets past the checks. -/
def Overlooked (doc : Value) : Prop := Keyed doc ∨ ∃ v, Stated doc v ∧ v.kind ≠ .text

/-- The state is a text, or the answer is refused. -/
def Settled (result : Except Failure Value) : Prop :=
  (∃ state, result = .ok state ∧ state.kind = .text) ∨ result = .error (.vcenter .unreadableState)

theorem powerStateOf_read {stdout : String} {doc : Value} (h : Json.read stdout = .ok doc) :
    powerStateOf stdout =
      (stateIn doc).mapError (unreadable [.attribute, .index, .type] .unreadableState) := by
  unfold powerStateOf document
  rw [h]
  rfl

theorem unreadable_refused {f : Fault} (h : Unreadable f) (problem : Problem) :
    unreadable [.attribute, .index, .type] problem f = .vcenter problem := by
  unfold unreadable
  rw [if_pos]
  obtain h | h | h := h
  all_goals
    rw [h]
    decide

theorem settled_document {stdout : String} {doc : Value} (h : Json.read stdout = .ok doc) :
    Settled (powerStateOf stdout) ↔ ¬Overlooked doc := by
  have hresult := powerStateOf_read h
  constructor
  · intro hsettled hoverlooked
    cases hoverlooked with
    | inl hkeyed =>
      rw [stateIn_keyed (Json.document_of_read h) hkeyed] at hresult
      rw [hresult] at hsettled
      obtain ⟨state, hstate, -⟩ | hrefused := hsettled
      · cases hstate
      · cases hrefused
    | inr hstated =>
      obtain ⟨v, hv, hkind⟩ := hstated
      rw [stateIn_stated hv] at hresult
      rw [hresult] at hsettled
      obtain ⟨state, hstate, htext⟩ | hrefused := hsettled
      · cases hstate
        exact hkind htext
      · cases hrefused
  · intro hchecked
    by_cases hstated : ∃ v, Stated doc v
    · obtain ⟨v, hv⟩ := hstated
      rw [stateIn_stated hv] at hresult
      have hkind : v.kind = .text :=
        Decidable.byContradiction fun hother => hchecked (.inr ⟨v, hv, hother⟩)
      exact .inl ⟨v, hresult, hkind⟩
    · have hkeyed : ¬Keyed doc := fun hkeyed => hchecked (.inl hkeyed)
      obtain ⟨f, hf, hunreadable⟩ := stateIn_unreadable hkeyed fun v hv => hstated ⟨v, hv⟩
      rw [hf] at hresult
      rw [hresult]
      exact .inr (congrArg Except.error (unreadable_refused hunreadable _))

theorem other_than_off {v : Value} (h : v.kind ≠ .text) : v.sameAtom (.text poweredOff) = false := by
  rw [Bool.eq_false_iff, Ne, sameAtom_text_iff]
  rintro rfl
  exact h rfl

/-- Where no limit of the reader is met, the power state that is read from an answer is a text or the
answer is refused as unreadable, but for the overlooked shapes. There a missing key stops the reading, or
what stands for the state is no text, and then the machine is taken to be running. -/
theorem powerStateOf_settled (stdout : String) :
    (Settled (powerStateOf stdout) ↔ (∀ f, Json.read stdout ≠ .error (.fault f)) ∧
      ∀ doc, Json.read stdout = .ok doc → ¬Overlooked doc) ∧
    (∀ f, Json.read stdout = .error (.fault f) → Json.Beyond stdout.toList f) ∧
    (∀ doc, Json.read stdout = .ok doc → Keyed doc →
      powerStateOf stdout = .error (.fault (.missingKey (.int 0)))) ∧
    ∀ doc v path, Json.read stdout = .ok doc → Stated doc v → v.kind ≠ .text →
      powerStateOf stdout = .ok v ∧ answer (.isPoweredOff path) stdout = .ok (.bool false) := by
  refine ⟨?_, fun f => Json.beyond_of_read, ?_, ?_⟩
  · cases h : Json.read stdout with
    | ok doc => simp [settled_document h]
    | error e =>
      cases e with
      | malformed =>
        have hresult : powerStateOf stdout = .error (.vcenter .unreadableState) := by
          unfold powerStateOf document
          rw [h]
          rfl
        simp [Settled, hresult]
      | fault f =>
        have hresult : powerStateOf stdout = .error (.fault f) := by
          unfold powerStateOf document
          rw [h]
          rfl
        simp [Settled, hresult]
  · intro doc h hkeyed
    rw [powerStateOf_read h, stateIn_keyed (Json.document_of_read h) hkeyed]
    rfl
  · intro doc v path h hstated hkind
    have hresult : powerStateOf stdout = .ok v := by
      rw [powerStateOf_read h, stateIn_stated hstated]
      rfl
    refine ⟨hresult, ?_⟩
    rw [answer, hresult, ← other_than_off hkind]
    rfl

/-- A machine whose state is not told, and machines by name. -/
example :
    let silent := "\x7b\"VirtualMachines\": [\x7b\"Runtime\": \x7b\x7d\x7d]\x7d"
    let named := "\x7b\"VirtualMachines\": \x7b\"win\": 1\x7d\x7d"
    (powerStateOf silent).toOption.map Value.kind = some .null ∧
      (powerStateOf named matches .error (.fault (.missingKey _))) = true := by
  decide +kernel

end Stemcell.VCenter
