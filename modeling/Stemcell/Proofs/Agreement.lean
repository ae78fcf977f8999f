import Stemcell.Proofs.Action

/-! Two runs side by side. Steps agree if from related states they come to related outcomes and leave
related states behind, also where they stop; what is put together of steps that agree agrees again.
A run beside itself is the case of an invariant. -/
namespace Stemcell

/-- Both fail with the same error, or both have results, and these are related. -/
inductive SameResult {ε α β : Type} (Q : α → β → Prop) : Except ε α → Except ε β → Prop where
  | ok {x : α} {y : β} (h : Q x y) : SameResult Q (.ok x) (.ok y)
  | error (e : ε) : SameResult Q (.error e) (.error e)

theorem SameResult.refl {ε α : Type} (r : Except ε α) : SameResult Eq r r := by
  cases r with
  | ok x => exact .ok rfl
  | error e => exact .error e

theorem SameResult.eq {ε α : Type} {r r' : Except ε α} (h : SameResult Eq r r') : r = r' := by
  cases h with
  | ok h => rw [h]
  | error e => rfl

namespace Action

variable {σ τ α β γ δ : Type} {R : σ → τ → Prop} {Q : α → β → Prop} {P : γ → δ → Prop}

def Agree (R : σ → τ → Prop) (Q : α → β → Prop) (a : Action σ α) (b : Action τ β) : Prop :=
  ∀ s t, R s t → SameResult Q (a.eval s).1 (b.eval t).1 ∧ R (a.eval s).2 (b.eval t).2

theorem agree_pure {x : α} {y : β} (h : Q x y) : Agree R Q (pure x) (pure y) :=
  fun _ _ hst => ⟨.ok h, hst⟩

theorem agree_throw (stop : Stop) : Agree R Q (throw stop) (throw stop) :=
  fun _ _ hst => ⟨.error stop, hst⟩

theorem agree_fail (f : Failure) : Agree R Q (fail f) (fail f) := agree_throw (.failure f)

/-- A step beside itself, from one state. -/
theorem agree_refl (a : Action σ α) : Agree Eq Eq a a := by
  rintro s _ rfl
  exact ⟨.refl _, rfl⟩

theorem Agree.bind {a : Action σ α} {b : Action τ β} {k : α → Action σ γ} {l : β → Action τ δ}
    (h : Agree R Q a b) (hk : ∀ x y, Q x y → Agree R P (k x) (l y)) :
    Agree R P (a >>= k) (b >>= l) := by
  intro s t hst
  obtain ⟨hresult, hstates⟩ := h s t hst
  rw [eval_bind, eval_bind]
  generalize a.eval s = first at hresult hstates
  generalize b.eval t = second at hresult hstates
  obtain ⟨outcome, s⟩ := first
  obtain ⟨outcome', t⟩ := second
  cases hresult with
  | ok hxy => exact hk _ _ hxy s t hstates
  | error stop => exact ⟨.error stop, hstates⟩

/-- The same result goes on into both runs. -/
theorem Agree.andThen {a : Action σ α} {b : Action τ α} {k : α → Action σ γ} {l : α → Action τ δ}
    (h : Agree R Eq a b) (hk : ∀ x, Agree R P (k x) (l x)) : Agree R P (a >>= k) (b >>= l) := by
  refine h.bind fun x y hxy => ?_
  subst hxy
  exact hk x

theorem Agree.orElse {a : Action σ α} {b : Action τ β} {handler : Failure → Action σ α}
    {handler' : Failure → Action τ β} (h : Agree R Q a b)
    (hf : ∀ f, Agree R Q (handler f) (handler' f)) :
    Agree R Q (a.orElse handler) (b.orElse handler') := by
  intro s t hst
  obtain ⟨hresult, hstates⟩ := h s t hst
  rw [eval_orElse, eval_orElse]
  generalize a.eval s = first at hresult hstates
  generalize b.eval t = second at hresult hstates
  obtain ⟨outcome, s⟩ := first
  obtain ⟨outcome', t⟩ := second
  cases hresult with
  | ok hxy => exact ⟨.ok hxy, hstates⟩
  | error stop =>
    cases stop with
    | failure f => exact hf f s t hstates
    | interrupt i => exact ⟨.error _, hstates⟩
    | unsettled => exact ⟨.error _, hstates⟩

theorem Agree.wrap {a : Action σ α} {b : Action τ β} (words : Failure → Failure)
    (h : Agree R Q a b) : Agree R Q (a.wrap words) (b.wrap words) :=
  h.orElse fun f => agree_fail (words f)

theorem agree_ofFault {r : Except Fault α} {r' : Except Fault β} (h : SameResult Q r r') :
    Agree R Q (ofFault r) (ofFault r') := by
  cases h with
  | ok hxy => exact agree_pure hxy
  | error f => exact agree_fail (.fault f)

theorem agree_ofResult (r : Except Failure α) :
    Agree R Eq (ofResult r : Action σ α) (ofResult r : Action τ α) := by
  cases r with
  | ok x => exact agree_pure rfl
  | error f => exact agree_fail f

theorem agree_written (v : Value) :
    Agree R Eq (ofFault v.written : Action σ String) (ofFault v.written : Action τ String) :=
  agree_ofFault (.refl v.written)

end Action

end Stemcell
