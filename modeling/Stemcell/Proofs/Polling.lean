import Mathlib.Data.Nat.Find
import Stemcell.Polling

/-! Polling, when every question and every pause may come to anything. The calls are those of a number of
rounds that go by, a question and a pause each, and of the round that ends the polling; nothing else ends
it but the bound that it is given. -/
namespace Stemcell.Polling

/-- A question, or a pause of some length. -/
inductive Call where
  | ask
  | sleep (interval : Value)

def Call.isAsk : Call → Bool
  | .ask => true
  | .sleep _ => false

/-- The calls made so far, in order. Log records leave no trace here. -/
structure Diary where
  calls : List Call := []

instance : Log.Sink Diary where
  write _ := pure ()

/-- What the questions and the pauses come to, each by its number. -/
structure Script where
  answer : Nat → Outcome Value
  pause : Nat → Outcome Unit

namespace Script

def ask (script : Script) : Action Diary Value := .ofEval fun diary =>
  (script.answer (diary.calls.countP Call.isAsk), ⟨diary.calls ++ [.ask]⟩)

def sleep (script : Script) (interval : Value) : Action Diary Unit := .ofEval fun diary =>
  (script.pause (diary.calls.countP (!·.isAsk)), ⟨diary.calls ++ [.sleep interval]⟩)

/-- A round goes by: the answer is no, and the pause is over. -/
structure Passes (script : Script) (n : Nat) : Prop where
  no : ∃ v, script.answer n = .ok v ∧ v.isTruthy = false
  rested : script.pause n = .ok ()

/-- A round ends the polling, with these calls. -/
inductive Ends (script : Script) (interval : Value) (n : Nat) : Outcome Unit → List Call → Prop where
  | yes (v : Value) (h : script.answer n = .ok v) (hyes : v.isTruthy = true) :
    Ends script interval n (.ok ()) [.ask]
  | unanswered (stop : Stop) (h : script.answer n = .error stop) :
    Ends script interval n (.error stop) [.ask]
  | disturbed (v : Value) (stop : Stop) (h : script.answer n = .ok v) (hno : v.isTruthy = false)
    (hpause : script.pause n = .error stop) : Ends script interval n (.error stop) [.ask, .sleep interval]

end Script

/-- The calls of rounds that have gone by. -/
def rounds (interval : Value) (n : Nat) : List Call := (List.replicate n [.ask, .sleep interval]).flatten

variable (script : Script) (interval : Value) {n attempts : Nat}

theorem rounds_succ : rounds interval (n + 1) = rounds interval n ++ [.ask] ++ [.sleep interval] := by
  rw [rounds, List.replicate_succ', List.flatten_concat, List.append_assoc]
  rfl

theorem asked_rounds : (rounds interval n).countP Call.isAsk = n := by
  induction n with
  | zero => rfl
  | succ n ih =>
    rw [rounds_succ, List.countP_append, List.countP_append, ih]
    rfl

theorem slept_rounds : (rounds interval n).countP (!·.isAsk) = n := by
  induction n with
  | zero => rfl
  | succ n ih =>
    rw [rounds_succ, List.countP_append, List.countP_append, ih]
    rfl

theorem eval_ask : script.ask.eval ⟨rounds interval n⟩ = (script.answer n, ⟨rounds interval n ++ [.ask]⟩) := by
  rw [Script.ask, Action.eval_ofEval, asked_rounds]

theorem eval_sleep : (script.sleep interval).eval ⟨rounds interval n ++ [.ask]⟩ =
    (script.pause n, ⟨rounds interval (n + 1)⟩) := by
  rw [Script.sleep, Action.eval_ofEval, rounds_succ, List.countP_append, slept_rounds]
  rfl

/-- The polling from a round on, when those before it have gone by. -/
def fromRound (n attempts : Nat) : Outcome Unit × Diary :=
  (pollFrom script.sleep interval script.ask n attempts).eval ⟨rounds interval n⟩

/-- A round asks, and goes on where the answer is no. -/
theorem fromRound_succ : fromRound script interval n (attempts + 1) =
    match script.answer n with
    | .error stop => (.error stop, ⟨rounds interval n ++ [.ask]⟩)
    | .ok v =>
      if v.isTruthy then (.ok (), ⟨rounds interval n ++ [.ask]⟩)
      else
        match script.pause n with
        | .error stop => (.error stop, ⟨rounds interval (n + 1)⟩)
        | .ok () => fromRound script interval (n + 1) attempts := by
  have hlog : ∀ text diary, (Log.debug .polling text : Action Diary Unit).eval diary = (.ok (), diary) :=
    fun _ _ => rfl
  rw [fromRound, pollFrom, Action.eval_bind, hlog]
  dsimp only
  rw [Action.eval_bind, eval_ask]
  cases script.answer n with
  | error stop => rfl
  | ok v =>
    dsimp only
    by_cases hyes : v.isTruthy = true
    · rw [if_pos hyes, if_pos hyes]
      rfl
    · rw [if_neg hyes, if_neg hyes, Action.eval_bind, eval_sleep]
      cases script.pause n <;> rfl

variable {script interval}

theorem fromRound_passes (h : script.Passes n) :
    fromRound script interval n (attempts + 1) = fromRound script interval (n + 1) attempts := by
  obtain ⟨⟨v, hv, hno⟩, hrested⟩ := h
  rw [fromRound_succ, hv, hrested]
  exact if_neg (by simp [hno])

theorem fromRound_ends {outcome : Outcome Unit} {last : List Call} (h : script.Ends interval n outcome last) :
    fromRound script interval n (attempts + 1) = (outcome, ⟨rounds interval n ++ last⟩) := by
  rw [fromRound_succ]
  cases h with
  | yes v h hyes =>
    rw [h]
    exact if_pos hyes
  | unanswered stop h => rw [h]
  | disturbed v stop h hno hpause =>
    rw [h, hpause, rounds_succ, List.append_assoc]
    exact if_neg (by simp [hno])

/-- Rounds that go by use up as many attempts and change nothing else. -/
theorem poll_rounds (h : ∀ m < n, script.Passes m) (attempts : Nat) :
    (poll (n + attempts) script.sleep interval script.ask).eval {} = fromRound script interval n attempts := by
  induction n generalizing attempts with
  | zero =>
    rw [Nat.zero_add]
    rfl
  | succ n ih =>
    have hbefore : ∀ m < n, script.Passes m := fun m hm => h m (by omega)
    rw [Nat.add_assoc, Nat.add_comm 1, ih hbefore, fromRound_passes (h n (by omega))]

theorem ends_of_not_passes (interval : Value) (h : ¬script.Passes n) :
    ∃ outcome last, script.Ends interval n outcome last := by
  cases hanswer : script.answer n with
  | error stop => exact ⟨_, _, .unanswered stop hanswer⟩
  | ok v =>
    cases hyes : v.isTruthy with
    | true => exact ⟨_, _, .yes v hanswer hyes⟩
    | false =>
      cases hpause : script.pause n with
      | error stop => exact ⟨_, _, .disturbed v stop hanswer hyes hpause⟩
      | ok _ => exact absurd ⟨⟨v, hanswer, hyes⟩, hpause⟩ h

/-- The rounds go by without end, or one of them ends the polling. -/
theorem passes_or_ends (script : Script) (interval : Value) :
    (∀ n, script.Passes n) ∨
      ∃ n outcome last, (∀ m < n, script.Passes m) ∧ script.Ends interval n outcome last := by
  classical
  by_cases h : ∃ n, ¬script.Passes n
  · obtain ⟨outcome, last, hends⟩ := ends_of_not_passes interval (Nat.find_spec h)
    exact .inr ⟨Nat.find h, outcome, last, fun m hm => not_not.mp (Nat.find_min h hm), hends⟩
  · exact .inl fun n => not_not.mp fun hn => h ⟨n, hn⟩

/-- The calls and the outcome of a polling: those of the first round that does not go by, whatever bound
above its number is given, and where all rounds go by, those of as many rounds as the bound allows. -/
theorem poll_alternates (script : Script) (interval : Value) :
    (∀ n outcome last, (∀ m < n, script.Passes m) → script.Ends interval n outcome last → ∀ attempts > n,
      (poll attempts script.sleep interval script.ask).eval {} = (outcome, ⟨rounds interval n ++ last⟩)) ∧
    (∀ attempts, (∀ m < attempts, script.Passes m) →
      (poll attempts script.sleep interval script.ask).eval {} = (.error .unsettled, ⟨rounds interval attempts⟩)) ∧
    ((∀ n, script.Passes n) ∨
      ∃ n outcome last, (∀ m < n, script.Passes m) ∧ script.Ends interval n outcome last) := by
  refine ⟨fun n outcome last hpasses hends attempts hn => ?_, fun attempts hpasses => ?_,
    passes_or_ends script interval⟩
  · obtain ⟨more, rfl⟩ := Nat.exists_eq_add_of_lt hn
    rw [Nat.add_assoc, poll_rounds hpasses, fromRound_ends hends]
  · exact poll_rounds hpasses 0

/-- The answer is no twice, then the keyboard interrupts. -/
def interrupted : Script where
  answer n := if n < 2 then .ok (.int 0) else .error (.interrupt (.keyboard ""))
  pause _ := .ok ()

theorem poll_alternates_interrupted : (poll 10 interrupted.sleep (.int 60) interrupted.ask).eval {} =
    (.error (.interrupt (.keyboard "")), ⟨[.ask, .sleep (.int 60), .ask, .sleep (.int 60), .ask]⟩) := by
  have hpasses : ∀ m < 2, interrupted.Passes m := fun m hm => ⟨⟨.int 0, if_pos hm, rfl⟩, rfl⟩
  exact (poll_alternates interrupted (.int 60)).1 2 _ _ hpasses (.unanswered _ rfl) 10 (by decide)

end Stemcell.Polling
