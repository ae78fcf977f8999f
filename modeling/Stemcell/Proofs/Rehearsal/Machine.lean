import Stemcell.Proofs.Program.Child
import Stemcell.Rehearsal.Machine.Host

/-! A machine starts programs as they are described by what they do: whatever it runs, the end is that
of some child. Only two things come before that, a program that the system does not let start and a time
to wait that is no number. -/
namespace Stemcell.Rehearsal.Machine

open Program (Child Report Request startable)

/-- What stops a program that can be started like this before it has run to an end. -/
inductive Unstarted (request : Request) : Failure → Prop where
  | system (code : Failure.SystemCode) (file : Value) : Unstarted request (.system code (some file))
  | notReal {time : Option Nat} (h : isLate time request.timeout = .error (.notReal request.timeout.kind)) :
    Unstarted request (.fault (.notReal request.timeout.kind))

theorem words_cons {place : Nat} {name : Value} {arguments : List Value} {texts : List String}
    (h : Program.words place (name :: arguments) = .ok texts) : ∃ rest, texts = name.display :: rest := by
  rw [Program.words] at h
  split at h
  · cases hrest : Program.words (place + 1) arguments with
    | error f =>
      rw [hrest] at h
      cases h
    | ok rest =>
      rw [hrest] at h
      cases h
      exact ⟨rest, rfl⟩
  · cases h

theorem isLate_stop {time : Option Nat} {timeout : Value} {f : Fault} (h : isLate time timeout = .error f) :
    f = .notReal timeout.kind := by
  unfold isLate at h
  split at h <;> try cases h
  · split at h <;> cases h
  · rfl

variable (environ : Environment) {request : Request} {name : Value} {arguments : List Value}

/-- A program that cannot be started like this is not looked for. -/
theorem start_refused (hcommand : request.command = name :: arguments) {f : Fault}
    (h : startable request = .error f) : start environ request = .error (.fault f) := by
  unfold start
  rcases error_of_bind h with hwords | ⟨texts, hwords, hcheck⟩
  · rw [hwords]
    rfl
  · rw [hwords]
    rw [hcommand] at hwords
    obtain ⟨rest, rfl⟩ := words_cons hwords
    change ((Program.check request).mapError Failure.fault >>= _) = _
    rw [hcheck]
    rfl

theorem start_startable (hcommand : request.command = name :: arguments) (h : startable request = .ok ()) :
    (∃ child : Child, start environ request = child.ending.mapError .fault) ∨
      ∃ failure, start environ request = .error failure ∧ Unstarted request failure := by
  unfold start
  obtain ⟨texts, hwords, hcheck⟩ := ok_of_bind h
  rw [hwords]
  rw [hcommand] at hwords
  obtain ⟨rest, rfl⟩ := words_cons hwords
  change (∃ child : Child, ((Program.check request).mapError Failure.fault >>= _) = _) ∨
    ∃ failure, ((Program.check request).mapError Failure.fault >>= _) = _ ∧ _
  rw [hcheck]
  change (∃ child : Child, ((pure () : Except Failure Unit) >>= _) = _) ∨
    ∃ failure, ((pure () : Except Failure Unit) >>= _) = _ ∧ _
  simp only [pure_bind]
  split
  · next code hlocate =>
    split
    · exact .inl ⟨.missing, rfl⟩
    · exact .inr ⟨_, rfl, .system code _⟩
  · next path program hlocate =>
    generalize conclude _ program _ = conclusion
    cases hlate : isLate (conclusion.status.map fun _ => conclusion.time) request.timeout with
    | error f =>
      obtain rfl := isLate_stop hlate
      exact .inr ⟨_, rfl, .notReal hlate⟩
    | ok late =>
      cases late with
      | true => exact .inl ⟨.timedOut, rfl⟩
      | false => exact .inl ⟨.ended _ _ _, rfl⟩

/-! Runs on the machine. -/

/-- What a run without a limit of time may come to. -/
inductive Settled (request : Request) (word : String) : Outcome Report → Prop where
  | reported {child : Child} {ending : Program.Ending} (h : child.ending = .ok ending) :
    Settled request word (.ok (ending.report word))
  | unreadable {child : Child} (h : ¬child.Readable) : Settled request word (.error (.failure (.fault .undecodable)))
  | refused {f : Fault} (h : startable request = .error f) : Settled request word (.error (.failure (.fault f)))
  | unstarted (code : Failure.SystemCode) (file : Value) :
    Settled request word (.error (.failure (.system code (some file))))

section Runs

variable {σ : Type} {ready : σ → Prop}

/-- The machine as what begins programs. -/
def begins : Request → Action σ Program.Ending := fun request => .ofResult (start environ request)

theorem begins_of_child {child : Child} (hcheck : Program.check request = .ok ())
    (h : start environ request = child.ending.mapError .fault) :
    (begins environ request : Action σ Program.Ending) = child.start request := by
  rw [begins, h, Child.start, hcheck]
  cases child.ending <;> rfl

theorem comes_begins {failure : Failure} (h : start environ request = .error failure) :
    (begins environ request : Action σ Program.Ending).Comes ready (.error (.failure failure)) := by
  rw [begins, h]
  exact Action.comes_fail failure

variable [Log.Sink σ] {begin begin' : Request → Action σ Program.Ending} {command : List Value} {more : Environment}

theorem run_congr (h : begin (Program.request environ command more) = begin' (Program.request environ command more)) :
    Program.run environ begin command more .null = Program.run environ begin' command more .null := by
  unfold Program.request at h
  simp only [Program.run, h]

theorem comes_run_stop (hlog : Log.Takes ready) {texts : List String} (hwords : Program.words 0 command = .ok texts)
    {stop : Stop} (h : (begin (Program.request environ command more)).Comes ready (.error stop)) :
    (Program.run environ begin command more .null).Comes ready (.error stop) := by
  unfold Program.run
  exact Action.comes_ofFault hwords ((hlog _ _ _).bind (Action.Comes.stop h _))

/-- Every run over the machine is settled. -/
theorem ends_run (hlog : Log.Takes ready) (word : String) (arguments : List Value) (more : Environment) :
    (Program.run environ (begins environ) (.text word :: arguments) more .null : Action σ Report).Ends ready
      (Settled (Program.request environ (.text word :: arguments) more) word) := by
  let request := Program.request environ (.text word :: arguments) more
  have hrequest : request.command = .text word :: arguments := rfl
  cases hstartable : startable request with
  | error f =>
    refine Action.Comes.ends ?_ (.refused hstartable)
    rcases error_of_bind hstartable with hwords | ⟨texts, hwords, -⟩
    · unfold Program.run
      exact Action.comes_ofFault_stop hwords _
    · exact comes_run_stop environ hlog hwords (comes_begins environ (start_refused environ hrequest hstartable))
  | ok _ =>
    obtain ⟨texts, hwords, hcheck⟩ := ok_of_bind hstartable
    rcases start_startable environ hrequest hstartable with ⟨child, hchild⟩ | ⟨failure, hfailure, hunstarted⟩
    · obtain ⟨hstops, hreports⟩ := Program.comes_run hlog environ child hstartable
      rw [run_congr environ (begins_of_child environ hcheck hchild)]
      by_cases hreadable : child.Readable
      · obtain ⟨ending, hending⟩ := Child.ending_of_readable hreadable
        exact (hreports ending hending).ends (.reported hending)
      · exact (hstops _ (Child.ending_of_unreadable hreadable)).ends (.unreadable hreadable)
    · refine (comes_run_stop environ hlog hwords (comes_begins environ hfailure)).ends ?_
      cases hunstarted with
      | system code file => exact .unstarted code file
      | notReal hlate => cases hlate

end Runs

end Stemcell.Rehearsal.Machine
