import Stemcell.Log.Record
import Stemcell.Proofs.Action

/-! What steps come to from states that are ready for them, and that they leave such states behind. A log that
takes every text needs no more than that: a console is ready once it is set up and knows texts only. -/
namespace Stemcell

namespace Action

variable {σ α β : Type} {ready : σ → Prop}

/-- Behind a state that is ready there is one that is, whatever the step comes to. -/
def Keeps (ready : σ → Prop) (a : Action σ α) : Prop := ∀ s, ready s → ready (a.eval s).2

/-- From a state that is ready, the step comes to what `p` says and leaves one that is. -/
def Ends (ready : σ → Prop) (a : Action σ α) (p : Outcome α → Prop) : Prop :=
  ∀ s, ready s → ready (a.eval s).2 ∧ p (a.eval s).1

/-- From a state that is ready, the step comes to this. -/
abbrev Comes (ready : σ → Prop) (a : Action σ α) (outcome : Outcome α) : Prop := a.Ends ready (· = outcome)

theorem Ends.keeps {a : Action σ α} {p : Outcome α → Prop} (h : a.Ends ready p) : a.Keeps ready :=
  fun s hs => (h s hs).1

theorem Keeps.ends {a : Action σ α} (h : a.Keeps ready) : a.Ends ready fun _ => True :=
  fun s hs => ⟨h s hs, trivial⟩

theorem Comes.ends {a : Action σ α} {outcome : Outcome α} {p : Outcome α → Prop} (h : a.Comes ready outcome)
    (hp : p outcome) : a.Ends ready p := by
  intro s hs
  obtain ⟨hready, houtcome⟩ := h s hs
  exact ⟨hready, houtcome ▸ hp⟩

theorem keeps_always (a : Action σ α) : a.Keeps fun _ => True := fun _ _ => trivial

theorem comes_outcome {a : Action σ α} {outcome : Outcome α} (ha : ∀ s, a.eval s = (outcome, s)) :
    a.Comes ready outcome := by
  intro s hs
  rw [ha]
  exact ⟨hs, rfl⟩

theorem comes_pure (x : α) : (pure x : Action σ α).Comes ready (.ok x) := comes_outcome fun _ => rfl

theorem comes_fail (f : Failure) : (fail f : Action σ α).Comes ready (.error (.failure f)) :=
  comes_outcome fun _ => rfl

/-- What stops the first step stops both; else the second one decides. -/
theorem Ends.bind {a : Action σ α} {k : α → Action σ β} {p : Outcome α → Prop} {q : Outcome β → Prop}
    (ha : a.Ends ready p) (hstop : ∀ stop, p (.error stop) → q (.error stop))
    (hk : ∀ x, p (.ok x) → (k x).Ends ready q) : (a >>= k).Ends ready q := by
  intro s hs
  obtain ⟨hready, hp⟩ := ha s hs
  rw [eval_bind]
  generalize a.eval s = result at hready hp
  obtain ⟨stop | x, t⟩ := result
  · exact ⟨hready, hstop stop hp⟩
  · exact hk x hp t hready

theorem Comes.bind {a : Action σ α} {k : α → Action σ β} {x : α} {p : Outcome β → Prop}
    (ha : a.Comes ready (.ok x)) (hk : (k x).Ends ready p) : (a >>= k).Ends ready p := by
  refine Ends.bind ha (fun stop h => (nomatch h)) fun y hy => ?_
  cases hy
  exact hk

theorem Comes.stop {a : Action σ α} {stop : Stop} (ha : a.Comes ready (.error stop)) (k : α → Action σ β) :
    (a >>= k).Comes ready (.error stop) := by
  refine Ends.bind ha (fun raised h => ?_) fun x h => (nomatch h)
  cases h
  rfl

theorem comes_ofFault {r : Except Fault α} {k : α → Action σ β} {x : α} {p : Outcome β → Prop} (hr : r = .ok x)
    (hk : (k x).Ends ready p) : (ofFault r >>= k).Ends ready p := by
  rw [hr]
  exact (comes_pure x).bind hk

theorem comes_ofFault_stop {r : Except Fault α} {f : Fault} (hr : r = .error f) (k : α → Action σ β) :
    (ofFault r >>= k).Comes ready (.error (.failure (.fault f))) := by
  rw [hr]
  exact (comes_fail (.fault f)).stop k

theorem Keeps.bind {a : Action σ α} {k : α → Action σ β} (ha : a.Keeps ready) (hk : ∀ x, (k x).Keeps ready) :
    (a >>= k).Keeps ready :=
  (ha.ends.bind (fun _ _ => trivial) fun x _ => (hk x).ends).keeps

theorem keeps_ofFault (r : Except Fault α) : (ofFault r : Action σ α).Keeps ready := by
  cases r with
  | ok x => exact (comes_pure x).keeps
  | error f => exact (comes_fail (.fault f)).keeps

theorem Keeps.orElse {a : Action σ α} {handler : Failure → Action σ α} (ha : a.Keeps ready)
    (hhandler : ∀ f, (handler f).Keeps ready) : (a.orElse handler).Keeps ready := by
  intro s hs
  have hready := ha s hs
  rw [eval_orElse]
  generalize a.eval s = result at hready
  obtain ⟨(f | i | _) | x, t⟩ := result
  · exact hhandler f t hready
  · exact hready
  · exact hready
  · exact hready

theorem Keeps.wrap {a : Action σ α} (ha : a.Keeps ready) (words : Failure → Failure) :
    (a.wrap words).Keeps ready :=
  ha.orElse fun f => (comes_fail (words f)).keeps

end Action

/-- From a state that is ready, the log takes every text. -/
def Log.Takes {σ : Type} [Log.Sink σ] (ready : σ → Prop) : Prop :=
  ∀ (level : Log.Level) (channel : Log.Channel) (text : String),
    (Log.text level channel text : Action σ Unit).Comes ready (.ok ())

end Stemcell
