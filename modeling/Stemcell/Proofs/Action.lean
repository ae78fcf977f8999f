import Stemcell.Action
import Stemcell.Value.Fault

/-! When a step has a result, put as what must hold of its parts. What a step does where it fails is
not asked for, so a failure told in other words makes no difference. -/
namespace Stemcell.Action

variable {σ α β : Type} {goal : α → σ → Prop} {s : σ}

theorem mapError_eq_ok_iff {ε δ : Type} {r : Except ε α} {f : ε → δ} {x : α} :
    r.mapError f = .ok x ↔ r = .ok x := by
  cases r with
  | ok y =>
    constructor <;>
    · rintro ⟨⟩
      rfl
  | error e => exact ⟨fun h => (nomatch h), fun h => (nomatch h)⟩

theorem wrap_bind (f : Failure → Failure) (a : Action σ α) (k : α → Action σ β) :
    (a >>= k).wrap f = a.wrap f >>= fun x => (k x).wrap f := by
  funext s
  change ((a >>= k).wrap f).eval s = (a.wrap f >>= fun x => (k x).wrap f).eval s
  rw [wrap, eval_orElse, eval_bind, eval_bind, wrap, eval_orElse]
  rcases a.eval s with ⟨(f | i) | x, t⟩ <;> rfl

/-- A first part that has a result leaves the handler to the rest. -/
theorem eval_orElse_bind {a : Action σ α} {k : α → Action σ β} {handler : Failure → Action σ β} {x : α}
    {t : σ} (h : a.eval s = (.ok x, t)) :
    ((a >>= k).orElse handler).eval s = ((k x).orElse handler).eval t := by
  rw [eval_orElse, eval_orElse, eval_bind, h]

/-- A first part that fails leaves the state to the handler. -/
theorem eval_orElse_bind_fail {a : Action σ α} {k : α → Action σ β} {handler : Failure → Action σ β}
    {f : Failure} {t : σ} (h : a.eval s = (.error (.failure f), t)) :
    ((a >>= k).orElse handler).eval s = (handler f).eval t := by
  rw [eval_orElse, eval_bind, h]

/-- From this state on the step has a result, and `goal` holds of it and of the state behind. -/
def Succeeds (a : Action σ α) (goal : α → σ → Prop) (s : σ) : Prop :=
  ∃ x t, a.eval s = (.ok x, t) ∧ goal x t

theorem succeeds_true (a : Action σ α) : a.Succeeds (fun _ _ => True) s ↔ ∃ x, (a.eval s).1 = .ok x := by
  constructor
  · rintro ⟨x, t, h, -⟩
    exact ⟨x, by rw [h]⟩
  · rintro ⟨x, h⟩
    exact ⟨x, (a.eval s).2, by rw [← h], trivial⟩

theorem succeeds_of_ok {a : Action σ α} {x : α} {t : σ} (h : a.eval s = (.ok x, t)) :
    a.Succeeds goal s ↔ goal x t := by
  unfold Succeeds
  rw [h]
  constructor
  · rintro ⟨_, _, h, hgoal⟩
    cases h
    exact hgoal
  · intro hgoal
    exact ⟨x, t, rfl, hgoal⟩

theorem not_succeeds_of_error {a : Action σ α} {stop : Stop} {t : σ}
    (h : a.eval s = (.error stop, t)) : ¬a.Succeeds goal s := by
  rintro ⟨_, _, h', -⟩
  rw [h] at h'
  cases h'

@[simp] theorem succeeds_pure (x : α) : (pure x : Action σ α).Succeeds goal s ↔ goal x s :=
  succeeds_of_ok rfl

@[simp] theorem not_succeeds_fail (f : Failure) : ¬(fail f : Action σ α).Succeeds goal s :=
  not_succeeds_of_error rfl

@[simp] theorem not_succeeds_throw (stop : Stop) : ¬(throw stop : Action σ α).Succeeds goal s :=
  not_succeeds_of_error rfl

@[simp] theorem succeeds_bind (a : Action σ α) (k : α → Action σ β) {goal : β → σ → Prop} :
    (a >>= k).Succeeds goal s ↔ a.Succeeds (fun x t => (k x).Succeeds goal t) s := by
  have hbind := eval_bind a k s
  rcases h : a.eval s with ⟨stop | x, t⟩
  · rw [h] at hbind
    exact iff_of_false (not_succeeds_of_error hbind) (not_succeeds_of_error h)
  · rw [h] at hbind
    rw [succeeds_of_ok h, Succeeds, hbind]
    rfl

@[simp] theorem succeeds_ite (c : Prop) [Decidable c] (a b : Action σ α) :
    (if c then a else b).Succeeds goal s ↔
      if c then a.Succeeds goal s else b.Succeeds goal s := by
  split <;> rfl

/-- A handler that only fails adds no results. -/
theorem succeeds_orElse (a : Action σ α) {handler : Failure → Action σ α}
    (h : ∀ f t, ¬(handler f).Succeeds goal t) :
    (a.orElse handler).Succeeds goal s ↔ a.Succeeds goal s := by
  have horElse := eval_orElse a handler s
  rcases ha : a.eval s with ⟨(f | i) | x, t⟩ <;> rw [ha] at horElse
  · refine iff_of_false ?_ (not_succeeds_of_error ha)
    rw [Succeeds, horElse]
    exact h f t
  · exact iff_of_false (not_succeeds_of_error horElse) (not_succeeds_of_error ha)
  · exact iff_of_false (not_succeeds_of_error horElse) (not_succeeds_of_error ha)
  · rw [succeeds_of_ok ha, succeeds_of_ok horElse]

@[simp] theorem succeeds_wrap (wrap : Failure → Failure) (a : Action σ α) :
    (a.wrap wrap).Succeeds goal s ↔ a.Succeeds goal s :=
  succeeds_orElse a fun f _ => not_succeeds_fail (wrap f)

@[simp] theorem succeeds_ofFault (result : Except Fault α) :
    (ofFault result).Succeeds goal s ↔ ∃ x, result = .ok x ∧ goal x s := by
  cases result with
  | ok x => simp [ofFault]
  | error f => simp [ofFault]

theorem succeeds_written {v : Value} {goal : String → σ → Prop} (h : v.isWritable) :
    (ofFault v.written).Succeeds goal s ↔ goal v.display s := by
  simp [Value.written, h]

end Stemcell.Action
