import Stemcell.Proofs.Journal

/-! Programs: the environment that one is started in, and what a run of one writes down. -/
namespace Stemcell

namespace Environment

theorem get?_cons (name other : String) (value : Value) (rest : Environment) :
    get? ((name, value) :: rest) other = if name = other then some value else rest.get? other := by
  by_cases h : name = other
  · simp [get?, h]
  · simp [get?, h]

theorem get?_append (first second : Environment) (name : String) :
    get? (first ++ second) name = (first.get? name).or (second.get? name) := by
  induction first with
  | nil => rfl
  | cons e first ih =>
    rw [List.cons_append, get?_cons, get?_cons, ih]
    by_cases h : e.1 = name
    · rw [if_pos h, if_pos h]
      rfl
    · rw [if_neg h, if_neg h]

theorem get?_eq_none {env : Environment} {name : String} (h : ∀ e ∈ env, e.1 ≠ name) :
    env.get? name = none := by
  rw [get?, Option.map_eq_none_iff, List.find?_eq_none]
  intro e he
  simpa using h e he

/-- Further variables win, and leave all others alone. -/
theorem get?_overlay (env : Environment) {more : Environment} (h : (more.map Prod.fst).Nodup) (name : String) :
    (env.overlay more).get? name = (more.get? name).or (env.get? name) := by
  induction more generalizing env with
  | nil => rfl
  | cons e more ih =>
    obtain ⟨hfirst, hrest⟩ := List.nodup_cons.mp h
    have hoverlay : env.overlay (e :: more) = (set e.1 e.2 env).overlay more := rfl
    rw [hoverlay, ih (set e.1 e.2 env) hrest, get?_cons]
    by_cases hname : e.1 = name
    · have hnone : Environment.get? more name = none := by
        refine get?_eq_none fun d hd hsame => hfirst ?_
        rw [hname, ← hsame]
        exact List.mem_map_of_mem hd
      rw [hnone, if_pos hname, ← hname, get?_set_self]
      rfl
    · rw [if_neg hname, get?_set_of_ne env e.2 (Ne.symm hname)]

end Environment

variable {σ : Type} [Log.Sink σ]

/-- A run starts the program once, or fails before; a report that tells of success tells what the program
wrote. -/
theorem writes_program (f : Facilities σ) (environ : Environment) (command : List Value) (more : Environment) :
    Writes (Program.run environ f.recorded.start command more .null) fun result made =>
      (made = [] ∧ ∃ stop, result = .error stop) ∨
      ∃ e, made = [e] ∧ ∃ outcome, e = .ran (Program.request environ command more) outcome ∧
        ∀ report, result = .ok report → report.status.isZero = true →
          outcome = .ok (.ended report.status report.stdout report.stderr) := by
  have hone : (Value.int 1).isZero ≠ true := by decide
  unfold Program.run
  refine writes_ofFault _ (by simp) fun words _ => ?_
  refine (writes_log _ _ _).after (by simp) fun _ => ?_
  refine (writes_noting _ _).bind (q := fun ending result made => made = [] ∧
    ∀ report, result = .ok report → report.status.isZero = true →
      ending = .ended report.status report.stdout report.stderr) (fun ending => ?_) ?_ ?_
  · cases ending with
    | ended status stdout stderr =>
      refine writes_outcome (fun _ => rfl) ⟨rfl, fun report hreport _ => ?_⟩
      cases hreport
      rfl
    | timedOut =>
      refine (writes_log _ _ _).after (by simp) fun _ => writes_outcome (fun _ => rfl) ⟨rfl, ?_⟩
      intro report hreport hzero
      cases hreport
      exact absurd hzero hone
    | missing =>
      cases command with
      | nil => exact writes_outcome (fun _ => rfl) ⟨rfl, by simp⟩
      | cons name rest =>
        refine (writes_log _ _ _).after (by simp) fun _ => writes_outcome (fun _ => rfl) ⟨rfl, ?_⟩
        intro report hreport hzero
        cases hreport
        exact absurd hzero hone
  · intro stop made hmade
    exact .inr ⟨_, hmade, _, rfl, by simp⟩
  · intro ending result first second hfirst hsecond
    obtain ⟨hnone, hreport⟩ := hsecond
    refine .inr ⟨_, ?_, .ok ending, rfl, fun report hok hzero => by rw [hreport report hok hzero]⟩
    rw [hfirst, hnone]
    rfl

end Stemcell
