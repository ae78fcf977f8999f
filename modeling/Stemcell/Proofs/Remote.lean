import Stemcell.Proofs.Construct.Answers
import Stemcell.Proofs.Ending

/-! What becomes of a session that carries one command. A response settles the request, and what the
libraries that carry the command fail with is put into a failure of this program, but for an operation
that took too long. -/
namespace Stemcell.Remote

open Stemcell.Action (comes_pure comes_fail comes_ofFault comes_ofFault_stop)

/-- The failures of the libraries that carry commands: those of remote management and of its transport,
of an operation that took too long, and of web requests. -/
def OfLibraries (f : Failure) : Prop :=
  f.kind.isA .management = true ∨ f.kind.isA .managementTransport = true ∨
    f.kind.isA .managementTimeout = true ∨ f.kind.isA .request = true

theorem timeout_of_isA {k : Failure.Kind} (h : k.isA .managementTimeout = true) :
    k = .managementTimeout := by
  cases k <;> first | rfl | exact absurd h (by decide)

theorem transport_of_ofLibraries {f : Failure} (h : OfLibraries f) (hkind : f.kind ≠ .managementTimeout) :
    f.isTransport = true := by
  unfold Failure.isTransport
  rcases h with h | h | h | h
  · simp [h]
  · simp [h]
  · exact absurd (timeout_of_isA h) hkind
  · simp [h]

theorem timeout_escapes {f : Failure} (h : f.kind = .managementTimeout) :
    OfLibraries f ∧ sessionFailure f = f := by
  have htransport : f.isTransport = false := by
    rw [Failure.isTransport, h]
    decide
  refine ⟨.inr (.inr (.inl ?_)), ?_⟩
  · rw [h]
    decide
  · rw [sessionFailure, htransport]
    rfl

/-! A command and its session. -/

/-- What a command comes to whose session came to this. -/
def verdict : Outcome Response → Outcome Value
  | .ok response =>
    if response.status.isZero then .ok response.status
    else if response.status.isWritable then
      .error (.failure (.remoteExit response.status (written response.stderr)))
    else .error (.failure (.fault .tooLargeToWrite))
  | .error (.failure f) => .error (.failure (sessionFailure f))
  | .error stop => .error stop

/-- What the log is told before a session is opened. -/
def executing (account : Account) (command : Value) : String :=
  s!"Executing on {account.host.display}: {command.display}"

variable {σ : Type}

/-- The link leaves states behind that are ready for the log, whatever comes of a connection or a command. -/
structure Link.Keeps (ready : σ → Prop) (account : Account) (link : Link σ) : Prop where
  connect : ∀ host port timeout, (link.connect host port timeout).Keeps ready
  exchange : ∀ command, (exchange link account command).Keeps ready

theorem eval_written {v : Value} (h : v.isWritable = true) (s : σ) :
    (Action.ofFault v.written : Action σ String).eval s = (.ok v.display, s) := by
  rw [Value.written, if_pos h]
  rfl

variable [Log.Sink σ] {ready : σ → Prop}

theorem comes_settle (hlog : Log.Takes ready) (response : Response) :
    (settle response : Action σ Value).Comes ready (verdict (.ok response)) := by
  have hstatus : (if response.status.isZero then pure response.status
      else do
        let _ ← Action.ofFault response.status.written
        Action.fail (.remoteExit response.status (written response.stderr)) : Action σ Value).Comes ready
      (verdict (.ok response)) := by
    unfold verdict
    by_cases hzero : response.status.isZero = true
    · simp only [if_pos hzero]
      exact comes_pure _
    · by_cases hwritable : response.status.isWritable = true
      · simp only [if_neg hzero, if_pos hwritable]
        exact comes_ofFault (if_pos hwritable) (comes_fail _)
      · simp only [if_neg hzero, if_neg hwritable]
        exact comes_ofFault_stop (if_neg hwritable) _
  unfold settle
  by_cases hsilent : (written response.stdout).isEmpty = true
  · simp only [hsilent, Bool.not_true, Bool.false_eq_true, if_false]
    exact hstatus
  · simp only [hsilent, Bool.not_false, if_true]
    exact (hlog _ _ _).bind hstatus

/-- A command comes to what its session decides, which is opened behind one line of the log. -/
theorem eval_execute (hlog : Log.Takes ready) (link : Link σ) {account : Account} {command : Value}
    (hlink : (exchange link account command).Keeps ready) (hhost : account.host.isWritable = true)
    (hcommand : command.isWritable = true) {s : σ} (hs : ready s) :
    ∃ t, (Log.debug .remote (executing account command) : Action σ Unit).eval s = (.ok (), t) ∧
      ((execute link account command).eval s).1 = verdict ((exchange link account command).eval t).1 := by
  obtain ⟨hready, hline⟩ := hlog .debug .remote (executing account command) s hs
  generalize hlogged : (Log.text .debug .remote (executing account command) : Action σ Unit).eval s = logged at *
  obtain ⟨outcome, t⟩ := logged
  cases hline
  have hdebug : (Log.debug .remote s!"Executing on {account.host.display}: {command.display}" :
      Action σ Unit).eval s = (.ok (), t) := hlogged
  refine ⟨t, hlogged, ?_⟩
  have hkept := hlink t hready
  simp only [execute, Action.eval_bind, eval_written hhost, eval_written hcommand, hdebug, Action.wrap,
    Action.eval_orElse]
  generalize (exchange link account command).eval t = session at hkept
  obtain ⟨(f | i | _) | response, u⟩ := session
  · rfl
  · rfl
  · rfl
  · exact (comes_settle hlog response u hkept).2

/-- All requests leave states behind that are ready for the log. -/
theorem keeps_execute (hlog : Log.Takes ready) {link : Link σ} {account : Account} (hlink : link.Keeps ready account)
    (command : Value) : (execute link account command).Keeps ready := by
  refine (Action.keeps_ofFault _).bind fun host => (Action.keeps_ofFault _).bind fun shown => ?_
  refine (hlog _ _ _).keeps.bind fun _ => ((hlink.exchange command).wrap _).bind fun response => ?_
  exact (comes_settle hlog response).keeps

theorem keeps_perform (hlog : Log.Takes ready) {link : Link σ} {account : Account} (hlink : link.Keeps ready account)
    (call : Call) : (perform link account call).Keeps ready := by
  have hdone : ∀ v : Value, (pure v : Action σ Value).Keeps ready := fun v => (comes_pure v).keeps
  cases call with
  | reach =>
    refine Action.Keeps.bind ((hlink.connect _ _ _).orElse fun f => ?_) fun _ => hdone _
    cases f.isSystem with
    | false => exact (comes_fail f).keeps
    | true => exact (Action.keeps_ofFault _).bind fun host => (comes_fail _).keeps
  | execute command => exact keeps_execute hlog hlink command
  | login => exact (keeps_execute hlog hlink _).bind fun _ => hdone _
  | extract source destination => exact (keeps_execute hlog hlink _).bind fun _ => hdone _

/-! Requests that are carried out by a command. -/

/-- The command that carries out a request. -/
def Call.command? : Call → Option Value
  | .reach => none
  | .login => some (.text loginCommand)
  | .execute command => some command
  | .extract source destination => some (.text (extractCommand source destination))

/-- The answer to a request whose command ended with a status. -/
def Call.answer (status : Value) : Call → Value
  | .execute _ => status
  | _ => .null

theorem eval_perform (link : Link σ) (account : Account) {call : Call} {command : Value}
    (h : call.command? = some command) (s : σ) :
    ((perform link account call).eval s).1 =
      (((execute link account command).eval s).1).map fun status => call.answer status := by
  cases call with
  | reach => cases h
  | execute =>
    cases h
    rw [perform]
    cases ((execute link account command).eval s).1 <;> rfl
  | login =>
    cases h
    rw [perform, Action.eval_bind]
    rcases (execute link account (.text loginCommand)).eval s with ⟨_ | _, _⟩ <;> rfl
  | extract source destination =>
    cases h
    rw [perform, Action.eval_bind]
    rcases (execute link account (.text (extractCommand source destination))).eval s with ⟨_ | _, _⟩ <;> rfl

/-- What a request should come to by what its session came to: the status zero is a success, any other
status is named by a failure of this program, and such a failure also holds what the libraries fail with. -/
structure Contained (call : Call) (session : Outcome Response) (outcome : Outcome Value) : Prop where
  done : ∀ response, session = .ok response → response.status.isZero = true →
    outcome = .ok (call.answer response.status)
  refused : ∀ response, session = .ok response → ¬response.status.isZero = true →
    ∃ f, outcome = .error (.failure f) ∧ f.kind = .powershell ∧ f.exitCode? = some response.status
  wrapped : ∀ f, session = .error (.failure f) → OfLibraries f →
    ∃ g, outcome = .error (.failure g) ∧ g.kind = .powershell ∧ g.cause? = some f ∧
      f.message.toList <:+: g.message.toList

/-- What is not contained: an operation that took too long, and a status with more digits than are written. -/
inductive Missed : Outcome Response → Prop where
  | late {f : Failure} (h : f.kind = .managementTimeout) : Missed (.error (.failure f))
  | long {response : Response} (hzero : ¬response.status.isZero = true)
    (h : ¬response.status.isWritable = true) : Missed (.ok response)

theorem message_transport (f : Failure) : f.message.toList <:+: (Failure.transport f).message.toList := by
  have hmessage : (Failure.transport f).message = Failure.powershellComplaint ++ ": " ++ f.message := rfl
  rw [hmessage, String.toList_append]
  exact (List.suffix_append _ _).isInfix

variable (call : Call) {session : Outcome Response}

/-- What a request comes to whose session came to this. -/
def Call.outcome (session : Outcome Response) : Outcome Value :=
  (verdict session).map fun status => call.answer status

theorem outcome_late {f : Failure} (h : f.kind = .managementTimeout) :
    call.outcome (.error (.failure f)) = .error (.failure f) := by
  rw [Call.outcome, verdict, (timeout_escapes h).2]
  rfl

theorem outcome_long {response : Response} (hzero : ¬response.status.isZero = true)
    (h : ¬response.status.isWritable = true) :
    call.outcome (.ok response) = .error (.failure (.fault .tooLargeToWrite)) := by
  rw [Call.outcome, verdict, if_neg hzero, if_neg h]
  rfl

theorem contained_outcome (h : ¬Missed session) : Contained call session (call.outcome session) where
  done := by
    rintro response rfl hzero
    rw [Call.outcome, verdict, if_pos hzero]
    rfl
  refused := by
    rintro response rfl hzero
    have hwritable : response.status.isWritable = true :=
      Decidable.byContradiction fun hlong => h (.long hzero hlong)
    refine ⟨.remoteExit response.status (written response.stderr), ?_, rfl, rfl⟩
    rw [Call.outcome, verdict, if_neg hzero, if_pos hwritable]
    rfl
  wrapped := by
    rintro f rfl hlibrary
    have htransport := transport_of_ofLibraries hlibrary fun hkind => h (.late hkind)
    refine ⟨.transport f, ?_, rfl, rfl, message_transport f⟩
    rw [Call.outcome, verdict, sessionFailure, if_pos htransport]
    rfl

theorem not_contained (h : Missed session) : ¬Contained call session (call.outcome session) := by
  intro hcontained
  cases h with
  | late hkind =>
    obtain ⟨g, hg, hpowershell, -⟩ := hcontained.wrapped _ rfl (timeout_escapes hkind).1
    rw [outcome_late call hkind] at hg
    cases hg
    rw [hkind] at hpowershell
    cases hpowershell
  | long hzero hlong =>
    obtain ⟨g, hg, hpowershell, -⟩ := hcontained.refused _ rfl hzero
    rw [outcome_long call hzero hlong] at hg
    cases hg
    cases hpowershell

/-- A request that a command carries out is contained, whatever its session comes to, unless the
operation took too long or its status cannot be written. The first of these comes out as it is. -/
theorem perform_contained (hlog : Log.Takes ready) (link : Link σ) (account : Account) {command : Value}
    (hlink : (exchange link account command).Keeps ready) (hcall : call.command? = some command)
    (hhost : account.host.isWritable = true) (hcommand : command.isWritable = true) {s : σ} (hs : ready s) :
    ∃ t session outcome, (Log.debug .remote (executing account command) : Action σ Unit).eval s = (.ok (), t) ∧
      ((exchange link account command).eval t).1 = session ∧ ((perform link account call).eval s).1 = outcome ∧
      (Contained call session outcome ↔ ¬Missed session) ∧
      (∀ f, session = .error (.failure f) → f.kind = .managementTimeout → outcome = .error (.failure f)) ∧
      ∀ response, session = .ok response → ¬response.status.isZero = true →
        ¬response.status.isWritable = true → outcome = .error (.failure (.fault .tooLargeToWrite)) := by
  obtain ⟨t, ht, hexecute⟩ := eval_execute hlog link hlink hhost hcommand hs
  have houtcome := eval_perform link account hcall s
  rw [hexecute] at houtcome
  refine ⟨t, _, _, ht, rfl, houtcome, ?_, ?_, ?_⟩
  · exact ⟨fun hcontained hmissed => not_contained call hmissed hcontained, contained_outcome call⟩
  · intro f hf hkind
    rw [hf]
    exact outcome_late call hkind
  · intro response hresponse hzero hlong
    rw [hresponse]
    exact outcome_long call hzero hlong

/-- A session that breaks off while a user logs in. -/
theorem login_contained_broken :
    let broken : Failure := .reported .requestReadTimeout "read timed out" .null
    let answers : Construct.Answers :=
      ⟨fun _ _ => ⟨.int 0, "", ""⟩, fun _ _ _ => .ok (), fun _ _ => .ok fun _ => .error (.failure broken)⟩
    let account : Account := ⟨.text "10.0.0.5", .text "user", .text "word"⟩
    ∃ g, ((perform Construct.Answers.facilities.link account .login).eval answers).1 = .error (.failure g) ∧
      g.kind = .powershell ∧ g.cause? = some broken ∧ broken.message.toList <:+: g.message.toList := by
  intro broken answers account
  have hlog : Log.Takes fun _ : Construct.Answers => True := fun _ _ _ _ _ => ⟨trivial, rfl⟩
  obtain ⟨t, session, outcome, ht, hsession, houtcome, hcontained, -⟩ :=
    perform_contained .login hlog Construct.Answers.facilities.link account (Action.keeps_always _) rfl rfl rfl
      (s := answers) trivial
  have hbroken : session = .error (.failure broken) := by
    rw [← hsession]
    cases ht
    rfl
  have hmissed : ¬Missed session := by
    rw [hbroken]
    rintro ⟨⟨⟩⟩
  rw [houtcome]
  exact (hcontained.mpr hmissed).wrapped broken hbroken (.inr (.inr (.inr rfl)))

end Stemcell.Remote
