import Stemcell.Proofs.Construct.Processes
import Stemcell.Proofs.Powershell.Language

/-! Every process that was started in a guest is waited for at once, and nothing else is waited for.
This is read off the order of the calls, over all runs together and in each one. -/
namespace Stemcell.Construct

variable {σ : Type} [Log.Sink σ]

/-- A process that was started is waited for by the next call and by no later one, a wait follows the
start of its process, and where no process came of a start there is no wait. -/
structure Paired (made : List Entry) : Prop where
  awaited : ∀ i guest command arguments pid,
    made[i]? = some ⟨.hypervisor (.start guest command arguments), .ok pid⟩ →
      (∃ outcome, made[i + 1]? = some ⟨.hypervisor (.waitForExit guest pid), outcome⟩) ∧
      ∀ e, made[i + 2]? = some e → e.step.wait? = none
  started : ∀ i guest pid outcome, made[i]? = some ⟨.hypervisor (.waitForExit guest pid), outcome⟩ →
    ∃ j command arguments, i = j + 1 ∧
      made[j]? = some ⟨.hypervisor (.start guest command arguments), .ok pid⟩
  refused : ∀ i guest command arguments stop,
    made[i]? = some ⟨.hypervisor (.start guest command arguments), .error stop⟩ →
      ∀ e, made[i + 1]? = some e → e.step.wait? = none

/-- The starts among calls, in order. -/
def starts (made : List Entry) : List (Guest × Value × List Value) := made.filterMap (·.step.start?)

/-- The start is one of PowerShell with a command that is read as the script. -/
inductive Launches : Guest × String → Guest × Value × List Value → Prop where
  | encoded (guest : Guest) {script command : String} (h : Powershell.decode command = .ok script) :
    Launches (guest, script)
      (guest, .text Powershell.path, [.text "-EncodedCommand", .text command])

/-- In a run nothing follows a start that failed, nothing follows a wait but with the code zero, and
the starts are those of the first scripts, in order. -/
structure InTurn (todo : List (Guest × String)) (run : List Entry) : Prop where
  refused : ∀ i guest command arguments stop,
    run[i]? = some ⟨.hypervisor (.start guest command arguments), .error stop⟩ → run[i + 1]? = none
  zero : ∀ i guest pid outcome e, run[i]? = some ⟨.hypervisor (.waitForExit guest pid), outcome⟩ →
    run[i + 1]? = some e → ∃ code, outcome = .ok code ∧ code.isZero = true
  carried : ∃ done, done <+: todo ∧ List.Forall₂ Launches done (starts run)

theorem eq_of_wait {step : Step} {guest : Guest} {pid : Value} (h : step.wait? = some (guest, pid)) :
    step = .hypervisor (.waitForExit guest pid) := by
  cases step with
  | hypervisor call => cases call <;> cases h; rfl
  | _ => cases h

/-- The first call is no wait. -/
theorem Paired.head {made : List Entry} {e : Entry} (h : Paired made) (he : made[0]? = some e) :
    e.step.wait? = none := by
  cases hwait : e.step.wait? with
  | none => rfl
  | some waited =>
    obtain ⟨guest, pid⟩ := waited
    have hmade : made[0]? = some ⟨.hypervisor (.waitForExit guest pid), e.outcome⟩ := by
      rw [he, ← eq_of_wait hwait]
    obtain ⟨j, _, _, hj, -⟩ := h.started 0 guest pid e.outcome hmade
    omega

theorem entry_append {u v : List Entry} {i : Nat} {e : Entry} (h : (u ++ v)[i]? = some e) :
    u[i]? = some e ∨ ∃ j, i = u.length + j ∧ v[j]? = some e := by
  by_cases hlt : i < u.length
  · rw [List.getElem?_append_left hlt] at h
    exact .inl h
  · have hle : u.length ≤ i := by omega
    rw [List.getElem?_append_right hle] at h
    exact .inr ⟨i - u.length, by omega, h⟩

theorem Paired.append {u v : List Entry} (hu : Paired u) (hv : Paired v) : Paired (u ++ v) := by
  have hshift : ∀ k, (u ++ v)[u.length + k]? = v[k]? := by
    intro k
    rw [List.getElem?_append_right (by omega), Nat.add_sub_cancel_left]
  have hkept : ∀ {k : Nat} {e : Entry}, u[k]? = some e → (u ++ v)[k]? = some e := by
    intro k e h
    rw [List.getElem?_append_left (List.getElem?_eq_some_iff.mp h).1, h]
  constructor
  case awaited =>
    intro i guest command arguments pid h
    cases entry_append h with
    | inl hleft =>
      obtain ⟨⟨outcome, hnext⟩, hlater⟩ := hu.awaited i guest command arguments pid hleft
      have hlt : i + 1 < u.length := (List.getElem?_eq_some_iff.mp hnext).1
      refine ⟨⟨outcome, hkept hnext⟩, fun e he => ?_⟩
      cases entry_append he with
      | inl hin => exact hlater e hin
      | inr hbehind =>
        obtain ⟨j, hj, hin⟩ := hbehind
        obtain rfl : j = 0 := by omega
        exact hv.head hin
    | inr hright =>
      obtain ⟨j, rfl, hright⟩ := hright
      obtain ⟨⟨outcome, hnext⟩, hlater⟩ := hv.awaited j guest command arguments pid hright
      exact ⟨⟨outcome, (hshift (j + 1)).trans hnext⟩,
        fun e he => hlater e ((hshift (j + 2)).symm.trans he)⟩
  case started =>
    intro i guest pid outcome h
    cases entry_append h with
    | inl hleft =>
      obtain ⟨j, command, arguments, hj, hstart⟩ := hu.started i guest pid outcome hleft
      exact ⟨j, command, arguments, hj, hkept hstart⟩
    | inr hright =>
      obtain ⟨k, rfl, hright⟩ := hright
      obtain ⟨j, command, arguments, rfl, hstart⟩ := hv.started k guest pid outcome hright
      exact ⟨u.length + j, command, arguments, rfl, (hshift j).trans hstart⟩
  case refused =>
    intro i guest command arguments stop h e he
    cases entry_append h with
    | inl hleft =>
      have hlt : i < u.length := (List.getElem?_eq_some_iff.mp hleft).1
      cases entry_append he with
      | inl hin => exact hu.refused i guest command arguments stop hleft e hin
      | inr hbehind =>
        obtain ⟨j, hj, hin⟩ := hbehind
        obtain rfl : j = 0 := by omega
        exact hv.head hin
    | inr hright =>
      obtain ⟨j, rfl, hright⟩ := hright
      exact hv.refused j guest command arguments stop hright e ((hshift (j + 1)).symm.trans he)

theorem paired_nil : Paired [] := by constructor <;> simp

theorem paired_single {e : Entry} (hwait : e.step.wait? = none)
    (hstart : ∀ guest command arguments pid,
      e ≠ ⟨.hypervisor (.start guest command arguments), .ok pid⟩) : Paired [e] := by
  constructor
  case awaited =>
    intro i guest command arguments pid h
    cases i with
    | zero => exact absurd (Option.some.inj h) (hstart guest command arguments pid)
    | succ i => cases h
  case started =>
    intro i guest pid outcome h
    cases i with
    | zero =>
      rw [Option.some.inj h] at hwait
      cases hwait
    | succ i => cases h
  case refused =>
    intro i guest command arguments stop _ e' he'
    cases he'

theorem paired_script (job : Guest × String) (pid : Value) (outcome : Outcome Value) :
    Paired [⟨scriptStart job, .ok pid⟩, ⟨scriptWait job pid, outcome⟩] := by
  constructor
  case awaited =>
    intro i guest command arguments started h
    match i, h with
    | 0, h =>
      cases h
      exact ⟨⟨outcome, rfl⟩, fun e he => by cases he⟩
    | 1, h => cases h
  case started =>
    intro i guest waited result h
    match i, h with
    | 0, h => cases h
    | 1, h =>
      cases h
      exact ⟨0, _, _, rfl, rfl⟩
  case refused =>
    intro i guest command arguments stop h
    match i, h with
    | 0, h => cases h
    | 1, h => cases h

theorem launches_script (job : Guest × String) :
    Launches job (job.1, .text Powershell.path, Guest.scriptArguments job.2) :=
  .encoded job.1 (Powershell.decode_encode job.2)

theorem Orderly.paired {todo : List (Guest × String)} {made : List Entry} (h : Orderly todo made) :
    Paired made := by
  induction h with
  | stopped todo => exact paired_nil
  | @other todo e made hstart hwait hmade ih =>
    refine Paired.append (u := [e]) (paired_single hwait ?_) ih
    rintro guest command arguments pid rfl
    cases hstart
  | refused job todo stop => exact paired_single rfl fun _ _ _ _ h => by cases h
  | waited job todo pid outcome => exact paired_script job pid outcome
  | passed job pid hzero hmade ih => exact (paired_script job pid (.ok _)).append ih

theorem Orderly.inTurn {todo : List (Guest × String)} {run : List Entry} (h : Orderly todo run) :
    InTurn todo run := by
  induction h with
  | stopped todo => constructor <;> simp [starts]
  | @other todo e made hstart hwait hmade ih =>
    have hstarts : starts (e :: made) = starts made := List.filterMap_cons_none hstart
    constructor
    case refused =>
      intro i guest command arguments stop h
      cases i with
      | zero =>
        rw [Option.some.inj h] at hstart
        cases hstart
      | succ i => exact ih.refused i guest command arguments stop h
    case zero =>
      intro i guest pid outcome d h hd
      cases i with
      | zero =>
        rw [Option.some.inj h] at hwait
        cases hwait
      | succ i => exact ih.zero i guest pid outcome d h hd
    case carried =>
      rw [hstarts]
      exact ih.carried
  | refused job todo stop =>
    constructor
    case refused =>
      intro i guest command arguments raised h
      cases i with
      | zero => rfl
      | succ i => cases h
    case zero =>
      intro i guest pid outcome e h he
      cases he
    case carried => exact ⟨[job], List.prefix_append [job] todo, .cons (launches_script job) .nil⟩
  | waited job todo pid outcome =>
    constructor
    case refused =>
      intro i guest command arguments raised h
      match i, h with
      | 0, h => cases h
      | 1, h => rfl
    case zero =>
      intro i guest waited result e h he
      match i, h with
      | 0, h => cases h
      | 1, h => cases he
    case carried => exact ⟨[job], List.prefix_append [job] todo, .cons (launches_script job) .nil⟩
  | @passed job todo pid code made hzero hmade ih =>
    constructor
    case refused =>
      intro i guest command arguments raised h
      match i, h with
      | 0, h => cases h
      | 1, h => cases h
      | i + 2, h => exact ih.refused i guest command arguments raised h
    case zero =>
      intro i guest waited result e h he
      match i, h with
      | 0, h => cases h
      | 1, h =>
        cases h
        exact ⟨code, rfl, hzero⟩
      | i + 2, h => exact ih.zero i guest waited result e h he
    case carried =>
      obtain ⟨done, hdone, hall⟩ := ih.carried
      exact ⟨job :: done, (List.prefix_cons_inj job).mpr hdone, .cons (launches_script job) hall⟩

theorem paired_flatten {runs : List (List Entry)} (h : ∀ run ∈ runs, Paired run) : Paired runs.flatten := by
  induction runs with
  | nil => exact paired_nil
  | cons run runs ih =>
    obtain ⟨hrun, hruns⟩ := List.forall_mem_cons.mp h
    exact hrun.append (ih hruns)

/-- Whatever the calls of any number of preparations come to, starts and waits are paired over all of
them, and in each run the scripts take their turn. -/
theorem runs_wait_in_turn (p : CrewHandlers σ) (opened guest : Guest) (bounds : List Nat) (s : σ) :
    Paired (p.runs opened guest bounds s).flatten ∧
      ∀ run ∈ p.runs opened guest bounds s, InTurn (scripts opened guest) run := by
  have horderly := runs_orderly p opened guest bounds s
  constructor
  · exact paired_flatten fun run hrun => (horderly run hrun).paired
  · exact fun run hrun => (horderly run hrun).inTurn

/-- Both scripts of both preparations are started where all answers are good. -/
example :
    let guest : Guest := ⟨.text "vm", .text "user", .text "password"⟩
    let answer : Hypervisor.Call → Value
      | .start .. => .text "7"
      | .waitForExit .. => .int 0
      | _ => .bool true
    let p : CrewHandlers History :=
      ⟨pure (.text "dev"), fun call => pure (answer call), fun _ => pure .null, fun _ => pure (),
        fun _ => pure ()⟩
    (starts (p.runs guest guest [1, 1] {}).flatten).length = 4 := by decide +kernel

end Stemcell.Construct
