import Stemcell.Polling
import Stemcell.Proofs.Action

/-! What a step adds to a record that is kept in the state, told by what the step comes to. -/
namespace Stemcell

/-- What stops a step whose failures are told in other words. -/
def Stop.retold (words : Failure → Failure) : Stop → Stop
  | .failure f => .failure (words f)
  | stop => stop

theorem Stop.retold_eq {stop : Stop} (words : Failure → Failure) (h : ∀ f, stop ≠ .failure f) :
    stop.retold words = stop := by
  cases stop with
  | failure f => exact absurd rfl (h f)
  | interrupt | unsettled => rfl

namespace Action

variable {σ ε α β : Type} {ready : σ → Prop} {record : σ → List ε}

/-- From every state that is ready on, what is added to the record is as `p` says for the outcome, and the state
behind is ready again. -/
def AppendsFrom (ready : σ → Prop) (record : σ → List ε) (a : Action σ α) (p : Outcome α → List ε → Prop) : Prop :=
  ∀ s, ready s → ready (a.eval s).2 ∧ ∃ more, record (a.eval s).2 = record s ++ more ∧ p (a.eval s).1 more

/-- From every state on, what is added to the record is as `p` says for the outcome. -/
def Appends (record : σ → List ε) (a : Action σ α) (p : Outcome α → List ε → Prop) : Prop :=
  AppendsFrom (fun _ => True) record a p

theorem appends_nothing {a : Action σ α} {p : Outcome α → List ε → Prop}
    (hrecord : ∀ s, record (a.eval s).2 = record s) (h : ∀ outcome, p outcome []) :
    Appends record a p := by
  intro s _
  refine ⟨trivial, [], ?_, h _⟩
  rw [hrecord, List.append_nil]

theorem appends_outcome {a : Action σ α} {p : Outcome α → List ε → Prop} {outcome : Outcome α}
    (ha : ∀ s, a.eval s = (outcome, s)) (h : p outcome []) : AppendsFrom ready record a p := by
  intro s hs
  rw [ha]
  exact ⟨hs, [], (List.append_nil _).symm, h⟩

/-- A record that was empty holds just what the step adds. -/
theorem AppendsFrom.whole {a : Action σ α} {p : Outcome α → List ε → Prop} (ha : AppendsFrom ready record a p)
    {s : σ} (hs : ready s) (hrecord : record s = []) : p (a.eval s).1 (record (a.eval s).2) := by
  obtain ⟨-, made, hmade, hp⟩ := ha s hs
  rw [hmade, hrecord, List.nil_append]
  exact hp

theorem AppendsFrom.mono {a : Action σ α} {p q : Outcome α → List ε → Prop} (h : AppendsFrom ready record a p)
    (hpq : ∀ outcome made, p outcome made → q outcome made) : AppendsFrom ready record a q := by
  intro s hs
  obtain ⟨hready, more, hmore, hp⟩ := h s hs
  exact ⟨hready, more, hmore, hpq _ _ hp⟩

theorem AppendsFrom.bind {a : Action σ α} {k : α → Action σ β} {p : Outcome α → List ε → Prop}
    {q : α → Outcome β → List ε → Prop} {r : Outcome β → List ε → Prop} (ha : AppendsFrom ready record a p)
    (hk : ∀ x, AppendsFrom ready record (k x) (q x))
    (hstop : ∀ stop made, p (.error stop) made → r (.error stop) made)
    (hgo : ∀ x outcome first second, p (.ok x) first → q x outcome second →
      r outcome (first ++ second)) :
    AppendsFrom ready record (a >>= k) r := by
  intro s hs
  obtain ⟨hready, first, hfirst, hp⟩ := ha s hs
  rw [eval_bind]
  generalize a.eval s = result at hready hfirst hp
  obtain ⟨outcome, now⟩ := result
  cases outcome with
  | error stop => exact ⟨hready, first, hfirst, hstop _ _ hp⟩
  | ok x =>
    obtain ⟨hready, second, hsecond, hq⟩ := hk x now hready
    refine ⟨hready, first ++ second, ?_, hgo _ _ _ _ hp hq⟩
    change record ((k x).eval now).2 = _
    rw [hsecond, hfirst, List.append_assoc]

/-- A kind of record that two of its kind make up again. -/
theorem AppendsFrom.closed {a : Action σ α} {k : α → Action σ β} {p : List ε → Prop}
    (hp : ∀ first second, p first → p second → p (first ++ second))
    (ha : AppendsFrom ready record a fun _ made => p made)
    (hk : ∀ x, AppendsFrom ready record (k x) fun _ made => p made) :
    AppendsFrom ready record (a >>= k) fun _ made => p made :=
  ha.bind hk (fun _ _ hfirst => hfirst) fun _ _ first second hfirst hsecond => hp first second hfirst hsecond

/-- Polling adds what its questions and its pauses add, one after the other. -/
theorem AppendsFrom.polling [Log.Sink σ] {p : List ε → Prop} (hnil : p [])
    (happend : ∀ first second, p first → p second → p (first ++ second))
    (hlog : ∀ text, AppendsFrom ready record (Log.debug .polling text : Action σ Unit) fun _ made => p made)
    {sleep : Value → Action σ Unit}
    (hsleep : ∀ interval, AppendsFrom ready record (sleep interval) fun _ made => p made)
    {question : Action σ Value} (hquestion : AppendsFrom ready record question fun _ made => p made)
    (interval : Value) (asked looks : Nat) :
    AppendsFrom ready record (Polling.pollFrom sleep interval question asked looks) fun _ made => p made := by
  induction looks generalizing asked with
  | zero => exact appends_outcome (fun _ => rfl) hnil
  | succ looks ih =>
    rw [Polling.pollFrom]
    refine AppendsFrom.closed happend (hlog _) fun _ => AppendsFrom.closed happend hquestion fun answer => ?_
    by_cases hyes : answer.isTruthy = true
    · rw [if_pos hyes]
      exact appends_outcome (fun _ => rfl) hnil
    · rw [if_neg hyes]
      exact AppendsFrom.closed happend (hsleep interval) fun _ => ih (asked + 1)

theorem AppendsFrom.ofFault (r : Except Fault β) {k : β → Action σ α} {p : Outcome α → List ε → Prop}
    (hstop : ∀ stop, p (.error stop) []) (hk : ∀ x, r = .ok x → AppendsFrom ready record (k x) p) :
    AppendsFrom ready record (ofFault r >>= k) p := by
  cases r with
  | error f => exact appends_outcome (fun _ => rfl) (hstop _)
  | ok x => exact hk x rfl

/-- A step that adds nothing goes before others. -/
theorem AppendsFrom.after {a : Action σ α} {k : α → Action σ β} {p : Outcome β → List ε → Prop}
    (ha : AppendsFrom ready record a fun _ made => made = []) (hstop : ∀ stop, p (.error stop) [])
    (hk : ∀ x, AppendsFrom ready record (k x) p) : AppendsFrom ready record (a >>= k) p := by
  refine ha.bind (q := fun _ => p) hk ?_ ?_
  · intro stop made hmade
    rw [hmade]
    exact hstop stop
  · intro x outcome first second hfirst hsecond
    rw [hfirst]
    exact hsecond

/-- A step that never stops and adds nothing goes before others. -/
theorem AppendsFrom.surely {a : Action σ Unit} {k : Unit → Action σ β} {p : Outcome β → List ε → Prop}
    (ha : AppendsFrom ready record a fun outcome made => outcome = .ok () ∧ made = [])
    (hk : AppendsFrom ready record (k ()) p) : AppendsFrom ready record (a >>= k) p := by
  refine ha.bind (q := fun _ => p) (fun _ => hk) ?_ ?_
  · rintro stop made ⟨hnever, -⟩
    cases hnever
  · rintro _ outcome first second ⟨-, rfl⟩ hsecond
    exact hsecond

/-- A handler goes on behind what was done. -/
theorem AppendsFrom.orElse {a : Action σ α} {handler : Failure → Action σ α} {p q : Outcome α → List ε → Prop}
    (ha : AppendsFrom ready record a p) (hhandler : ∀ f, AppendsFrom ready record (handler f) q)
    (hstop : ∀ stop outcome first second, p (.error stop) first → q outcome second →
      p outcome (first ++ second)) :
    AppendsFrom ready record (a.orElse handler) p := by
  intro s hs
  obtain ⟨hready, first, hfirst, hp⟩ := ha s hs
  rw [eval_orElse]
  generalize a.eval s = result at hready hfirst hp
  obtain ⟨outcome, now⟩ := result
  cases outcome with
  | ok x => exact ⟨hready, first, hfirst, hp⟩
  | error stop =>
    cases stop with
    | interrupt i => exact ⟨hready, first, hfirst, hp⟩
    | unsettled => exact ⟨hready, first, hfirst, hp⟩
    | failure f =>
      obtain ⟨hready, second, hsecond, hq⟩ := hhandler f now hready
      refine ⟨hready, first ++ second, ?_, hstop _ _ _ _ hp hq⟩
      change record ((handler f).eval now).2 = _
      rw [hsecond, hfirst, List.append_assoc]

theorem eval_wrap (words : Failure → Failure) (a : Action σ α) (s : σ) :
    (a.wrap words).eval s = ((a.eval s).1.mapError (Stop.retold words), (a.eval s).2) := by
  rw [wrap, eval_orElse]
  rcases a.eval s with ⟨(f | i | _) | x, t⟩ <;> rfl

/-- Telling a failure in other words leaves what was done as it is. -/
theorem AppendsFrom.retold {a : Action σ α} {p : Outcome α → List ε → Prop} (ha : AppendsFrom ready record a p)
    (words : Failure → Failure) : AppendsFrom ready record (a.wrap words) fun outcome made =>
      ∃ inner, p inner made ∧ outcome = inner.mapError (Stop.retold words) := by
  intro s hs
  obtain ⟨hready, made, hmade, hp⟩ := ha s hs
  rw [eval_wrap]
  exact ⟨hready, made, hmade, _, hp, rfl⟩

theorem AppendsFrom.wrap {a : Action σ α} {p : Outcome α → List ε → Prop} (ha : AppendsFrom ready record a p)
    (words : Failure → Failure) (hstop : ∀ stop stop' made, p (.error stop) made → p (.error stop') made) :
    AppendsFrom ready record (a.wrap words) p := by
  refine (ha.retold words).mono ?_
  rintro _ made ⟨stop | x, hp, rfl⟩
  · exact hstop _ _ made hp
  · exact hp

end Action

end Stemcell
