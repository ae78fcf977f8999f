import Stemcell.Console
import Stemcell.Proofs.Agreement
import Stemcell.Proofs.Redaction.Hiding

/-! A console that is set up and knows texts only takes every text: what it shows depends on nothing
but what is registered and the order of sets, not on when the secrets were collected. -/
namespace Stemcell.Console

open Redaction (shownText)

structure Ready (env : Environment) (least : Log.Level) (c : Console) : Prop where
  level : c.level = some least
  registry : c.registry.Coherent env

variable {env : Environment} {least : Log.Level} {c : Console}

theorem Ready.settled_eq (h : c.Ready env least) :
    c.settled env = { c with registry := c.registry.settled env } := by
  unfold Console.settled
  split
  · next hnone => simp [h.level] at hnone
  · rfl

/-- A line that is shown comes in front of those before it; the console knows what it knew. -/
theorem Ready.display (h : c.Ready env least) (level : Log.Level) (text : String) :
    ((c.settled env).display level text).Ready env least ∧
      ((c.settled env).display level text).registry.SameValues c.registry ∧
      ((c.settled env).display level text).lines = ⟨level, text⟩ :: c.lines := by
  rw [h.settled_eq]
  exact ⟨⟨h.level, h.registry.settled⟩, Redaction.Registry.sameValues_settled env c.registry, rfl⟩

theorem eval_take (h : c.Ready env least) (level : Log.Level) (channel : Log.Channel) (s : String) :
    (take env ⟨level, channel, .text s, .none⟩).eval c =
      (.ok (), if least.rank ≤ level.rank then
        (c.settled env).display level (shownText env c.registry s) else c) := by
  have hshows : c.shows level = decide (least.rank ≤ level.rank) := by
    rw [shows, h.level]
    rfl
  have hfiltered : c.filtered env ⟨level, channel, .text s, .none⟩ =
      .ok ⟨level, channel, .text (shownText env c.registry s), .none⟩ := by
    rw [filtered, h.level]
    exact h.registry.redactRecord level channel s
  rw [take, Action.eval_ofEval, hshows]
  by_cases hrank : least.rank ≤ level.rank
  · simp only [hrank, decide_true, Bool.not_true, if_true, Bool.false_eq_true, if_false, hfiltered]
    rfl
  · simp only [hrank, decide_false, Bool.not_false, if_true, if_false]

/-- A console keeps its level and its lines when a value is registered. -/
theorem eval_register {v : Value} {registry : Redaction.Registry} (h : c.registry.register v = .ok registry) :
    (register v).eval c = (.ok (), { c with registry }) := by
  rw [register, Action.eval_ofEval, h]

end Stemcell.Console
