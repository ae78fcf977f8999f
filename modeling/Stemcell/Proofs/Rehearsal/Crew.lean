import Stemcell.Proofs.Construct.Agreement
import Stemcell.Proofs.Construct.History
import Stemcell.Rehearsal.Crew

/-! A rehearsed preparation is a run against an oracle, since what a script says of a call depends on
the calls before it alone. What holds of the runs of all oracles therefore holds of all rehearsals. -/
namespace Stemcell.Rehearsal

open Construct (Step Oracle History steps isOff)
open Stemcell.Action (Agree agree_pure)

abbrev Scripts := List (String × List (Outcome Value))

/-- What a call leaves of the scripts; a poll has no script. -/
def spend (label : Step → String) (scripts : Scripts) : Step → Scripts
  | .poll _ => scripts
  | step => State.dropFirst (label step) scripts

/-- The oracle that tells what scripts say. -/
def scripted (label : Step → String) (pollOutcome : Outcome Unit) (scripts : Scripts) : Oracle :=
  fun made step =>
    match step with
    | .poll _ => pollOutcome.map fun _ => .null
    | step =>
      let left : State := { scripts := (steps made).foldl (spend label) scripts }
      (left.script (label step)).head?.getD (.ok (fallback step))

/-! Scripts. -/

theorem script_dropFirst (label other : String) (s : State) :
    State.script { s with scripts := State.dropFirst label s.scripts } other =
      if label = other then (s.script other).drop 1 else s.script other := by
  unfold State.script
  induction s.scripts with
  | nil => simp [State.dropFirst]
  | cons entry rest ih =>
    obtain ⟨name, outcomes⟩ := entry
    by_cases hname : name = label
    · by_cases hother : label = other <;> simp [State.dropFirst, hname, hother]
    · by_cases hother : name = other
      · have hlabel : other ≠ label := fun h => hname (hother.trans h)
        simp [State.dropFirst, hother, hlabel, hlabel.symm]
      · simpa [State.dropFirst, hname, hother] using ih

theorem length_script_dropFirst_le (label other : String) (s : State) :
    (State.script { s with scripts := State.dropFirst label s.scripts } other).length ≤
      (s.script other).length := by
  rw [script_dropFirst]
  split <;> simp

theorem length_script_spent_le (label : Step → String) (other : String) (made : List Step)
    (scripts : Scripts) :
    (State.script { scripts := made.foldl (spend label) scripts } other).length ≤
      (State.script { scripts } other).length := by
  induction made generalizing scripts with
  | nil => exact Nat.le_refl _
  | cons step made ih =>
    refine Nat.le_trans (ih _) ?_
    cases step with
    | poll interval => exact Nat.le_refl _
    | _ => exact length_script_dropFirst_le _ other { scripts }

section Preparation

variable (label : Step → String) (pollOutcome : Outcome Unit) (scripts : Scripts)

/-- The same calls have been made, and they have taken from the scripts what they take. -/
structure Follows (s : State) (h : History) : Prop where
  steps : s.steps.reverse = steps h.entries
  scripts : s.scripts = (Construct.steps h.entries).foldl (spend label) scripts

variable {label scripts}

theorem Follows.step {s t : State} {h : History} {step : Step} {outcome : Outcome Value}
    (hsh : Follows label scripts s h) (hsteps : t.steps = step :: s.steps)
    (hscripts : t.scripts = spend label s.scripts step) :
    Follows label scripts t ⟨h.entries ++ [⟨step, outcome⟩]⟩ where
  steps := by
    rw [hsteps, List.reverse_cons, hsh.steps, Construct.steps_append]
    rfl
  scripts := by
    rw [hscripts, hsh.scripts, Construct.steps_append, List.foldl_append]
    rfl

/-! One call of a rehearsal beside one call of its oracle. -/

theorem agree_follow {step : Step} (hstep : ∀ interval, step ≠ .poll interval) :
    Agree (Follows label scripts) Eq (follow label step)
      ((scripted label pollOutcome scripts).consult step) := by
  intro s h hsh
  have hscript : s.script (label step) =
      State.script { scripts := (steps h.entries).foldl (spend label) scripts } (label step) := by
    rw [State.script, State.script, hsh.scripts]
  have houtcome : ((follow label step).eval s).1 = scripted label pollOutcome scripts h.entries step := by
    change (s.script (label step)).head?.getD (.ok (fallback step)) = _
    rw [hscript]
    cases step with
    | poll interval => exact absurd rfl (hstep interval)
    | _ => rfl
  refine ⟨houtcome ▸ .refl _, hsh.step rfl ?_⟩
  cases step with
  | poll interval => exact absurd rfl (hstep interval)
  | _ => rfl

theorem length_script_followDone_le (label : Step → String) (step : Step) (other : String) (s : State) :
    (((followDone label step).eval s).2.script other).length ≤ (s.script other).length := by
  have hspent : (((follow label step).eval s).2.script other).length ≤ (s.script other).length :=
    length_script_dropFirst_le (label step) other s
  rw [followDone, Action.eval_bind]
  generalize (follow label step).eval s = followed at hspent
  obtain ⟨_ | _, t⟩ := followed <;> exact hspent

theorem agree_followDone {step : Step} (hstep : ∀ interval, step ≠ .poll interval) :
    Agree (Follows label scripts) Eq (followDone label step)
      (do let _ ← (scripted label pollOutcome scripts).consult step) :=
  (agree_follow pollOutcome hstep).andThen fun _ => agree_pure rfl

/-! Polling. A script is asked until its fallback says that the guest is off. -/

variable {guest : Guest} {offLabel : String}
  (hoff : label (.hypervisor (.isPoweredOff guest.inventoryPath)) = offLabel)

include hoff

/-- Every look after which the polling goes on has taken something from the script. -/
theorem length_script_isOff_lt {s t : State} {off : Value}
    (h : (isOff (crew label pollOutcome offLabel) guest).eval s = (.ok off, t))
    (hon : off.isTruthy = false) : (t.script offLabel).length < (s.script offLabel).length := by
  let look := (crew label pollOutcome offLabel).hypervisor (.isPoweredOff guest.inventoryPath)
  have hanswer : (look.eval s).1 = (s.script offLabel).head?.getD (.ok (.bool true)) := by
    rw [← hoff]
    rfl
  have hspent : (look.eval s).2.script offLabel = (s.script offLabel).drop 1 :=
    (script_dropFirst _ offLabel s).trans (if_pos hoff)
  rw [isOff, Action.eval_bind] at h
  generalize look.eval s = looked at h hanswer hspent
  obtain ⟨_ | v, u⟩ := looked
  · cases h
  dsimp only at h hanswer hspent
  by_cases hv : v.isTruthy = true
  · rw [if_pos hv] at h
    cases h
    rw [hv] at hon
    cases hon
  let tell := (crew label pollOutcome offLabel).announce .stillPreparing
  have htold : ((tell.eval u).2.script offLabel).length ≤ (u.script offLabel).length :=
    length_script_followDone_le label (.announce .stillPreparing) offLabel u
  rw [if_neg hv, Action.eval_bind] at h
  generalize tell.eval u = told at h htold
  obtain ⟨_ | _, w⟩ := told
  · cases h
  have hnonempty : s.script offLabel ≠ [] := by
    -- The fallback says that the guest is off.
    intro hnil
    rw [hnil] at hanswer
    cases hanswer
    exact hv rfl
  have hpositive := List.length_pos_iff.mpr hnonempty
  dsimp only at htold
  rw [hspent, List.length_drop] at htold
  cases h
  omega

theorem agree_askUntil (n m : Nat) {s : State} {h : History} (hsh : Follows label scripts s h)
    (hn : (s.script offLabel).length < n) (hm : (s.script offLabel).length < m) {attempts : Nat} :
    SameResult Eq
        ((Polling.askUntil (isOff (crew label pollOutcome offLabel) guest) n).eval s).1
        ((Polling.askUntil (isOff ((scripted label pollOutcome scripts).crew attempts) guest) m).eval h).1 ∧
      Follows label scripts
        ((Polling.askUntil (isOff (crew label pollOutcome offLabel) guest) n).eval s).2
        ((Polling.askUntil (isOff ((scripted label pollOutcome scripts).crew attempts) guest) m).eval h).2 := by
  induction n generalizing m s h with
  | zero => exact absurd hn (Nat.not_lt_zero _)
  | succ n ih =>
    obtain _ | m := m
    · exact absurd hm (Nat.not_lt_zero _)
    have hagree : Agree (Follows label scripts) Eq (isOff (crew label pollOutcome offLabel) guest)
        (isOff ((scripted label pollOutcome scripts).crew attempts) guest) :=
      Construct.agree_isOff (agree_follow pollOutcome (by simp)) (agree_followDone pollOutcome (by simp))
    have hask := hagree s h hsh
    rw [Polling.askUntil, Polling.askUntil, Action.eval_bind, Action.eval_bind]
    have hless := @length_script_isOff_lt label pollOutcome guest offLabel hoff s
    generalize (isOff (crew label pollOutcome offLabel) guest).eval s = first at hask hless
    generalize (isOff ((scripted label pollOutcome scripts).crew attempts) guest).eval h = second at hask
    obtain ⟨outcome, t⟩ := first
    obtain ⟨outcome', h'⟩ := second
    obtain ⟨hresult, hstates⟩ := hask
    cases hresult with
    | error stop => exact ⟨.error stop, hstates⟩
    | ok hsame =>
      subst hsame
      dsimp only
      split
      · exact ⟨.ok rfl, hstates⟩
      · next hon =>
        have hshort := hless rfl (by simpa using hon)
        exact ih m hstates (by omega) (by omega)

theorem agree_poll {attempts : Nat} (hattempts : (State.script { scripts } offLabel).length < attempts)
    (interval : Value) :
    Agree (Follows label scripts) Eq
      ((crew label pollOutcome offLabel).poll interval (isOff (crew label pollOutcome offLabel) guest))
      (((scripted label pollOutcome scripts).crew attempts).poll interval
        (isOff ((scripted label pollOutcome scripts).crew attempts) guest)) := by
  have hstart : Agree (Follows label scripts) (fun _ _ => True)
      (.ofEval fun s => (pollOutcome, { s with steps := .poll interval :: s.steps }))
      ((scripted label pollOutcome scripts).consult (.poll interval)) := by
    intro s h hsh
    refine ⟨?_, hsh.step rfl rfl⟩
    cases pollOutcome with
    | ok _ => exact .ok trivial
    | error stop => exact .error stop
  refine hstart.bind fun _ _ _ s h hsh => ?_
  have hshort : (s.script offLabel).length < attempts := by
    refine Nat.lt_of_le_of_lt ?_ hattempts
    rw [State.script, hsh.scripts]
    exact length_script_spent_le label offLabel (steps h.entries) scripts
  exact agree_askUntil pollOutcome hoff _ attempts hsh (Nat.lt_succ_self _) hshort

/-- What a preparation comes to over scripts, and the calls it makes, is what it comes to against an
oracle. -/
theorem rehearsal_is_run {attempts : Nat}
    (hattempts : (State.script { scripts } offLabel).length < attempts) :
    let rehearsal := (Construct.prepare (crew label pollOutcome offLabel) guest).eval { scripts }
    let run := (Construct.prepare ((scripted label pollOutcome scripts).crew attempts) guest).eval {}
    rehearsal.1 = run.1 ∧ rehearsal.2.steps.reverse = steps run.2.entries := by
  have hcrew : (crew label pollOutcome offLabel).Agree (Follows label scripts) guest guest
      ((scripted label pollOutcome scripts).crew attempts) := {
    version := agree_follow pollOutcome (by simp)
    hypervisor := fun call call' hcall => hcall.same ▸ agree_follow pollOutcome (by simp)
    remote := fun call => agree_follow pollOutcome (by simp)
    enable := agree_followDone pollOutcome (by simp)
    validate := agree_followDone pollOutcome (by simp)
    announce := fun event => agree_followDone pollOutcome (by simp)
    poll := agree_poll pollOutcome hoff hattempts _ }
  have hlog : Construct.AgreeOnLog (Follows label scripts) :=
    fun level channel text s h hsh => ⟨.ok rfl, hsh.steps, hsh.scripts⟩
  obtain ⟨hresult, hfollows⟩ := Construct.agree_prepare hlog rfl hcrew { scripts } {} ⟨rfl, rfl⟩
  exact ⟨hresult.eq, hfollows.steps⟩

end Preparation

end Stemcell.Rehearsal
