import Stemcell.Proofs.Config.Settings
import Stemcell.Proofs.Rehearsal
import Stemcell.Proofs.VCenter.Environment

/-! Nothing is done to a guest, and the user is told nothing, before every check has passed. The checks of
the vCenter are made one after the other and once each; what they came to stands in the journal before
all that follows. -/
namespace Stemcell.CommandLine

open Config (Settings)

/-- What holds once the parameters and the files have been looked at. -/
structure Settled (files : Files) (settings : Settings) : Prop where
  required : ∀ field ∈ Config.Field.required, (settings.value field).isTruthy = true
  certificates : (settings.value .vcenterCaCerts).isTruthy = true →
    files.isFile (settings.value .vcenterCaCerts) = .ok true
  artifacts : ∀ a ∈ Construct.artifacts, Files.isPlainFile (files.find a.source) = true

/-- The checks of the vCenter, in order. -/
def checks (settings : Settings) : List Hypervisor.Call :=
  [.checkUrl, .checkCredentials, .find (settings.value .vmInventoryPath)]

/-- The tool is started for a check, with the credentials of the client or, for the check that does
without, with none but those that the program itself has inherited. -/
structure StartsCheck (environ : Environment) (client : VCenter.Client) (check : Hypervisor.Call)
    (request : Program.Request) : Prop where
  command : VCenter.command check = .ok request.command
  credentials : ∃ env : Environment, request.environment = some env ∧
    env.get? "GOVC_USERNAME" =
      (if VCenter.withCredentials check then some client.username else environ.get? "GOVC_USERNAME") ∧
    env.get? "GOVC_PASSWORD" =
      (if VCenter.withCredentials check then some client.password else environ.get? "GOVC_PASSWORD")

inductive Runs (environ : Environment) (client : VCenter.Client) (check : Hypervisor.Call) : Event → Prop where
  | ran {request : Program.Request} (outcome : Outcome Program.Ending)
    (h : StartsCheck environ client check request) : Runs environ client check (.ran request outcome)

/-- The tool ended with the status zero, and what was looked for was found. -/
inductive Passes (environ : Environment) (client : VCenter.Client) (check : Hypervisor.Call) : Event → Prop where
  | ran {request : Program.Request} {status : Value} {stdout : String} (stderr : String)
    (h : StartsCheck environ client check request) (hzero : status.isZero = true)
    (hfound : ∀ path, check = .find path → Text.strip stdout ≠ "") :
    Passes environ client check (.ran request (.ok (.ended status stdout stderr)))

/-- What may be done once all checks have passed: programs are started for the calls of a preparation. -/
def Later (settings : Settings) (e : Event) : Prop :=
  ∀ request, e.request? = some request →
    ∃ call, Construct.Asks settings.guest settings.guest call call ∧ VCenter.command call = .ok request.command

/-- The acts of a run with these checks still to come. A run may stop anywhere; it goes on behind a
check only if that has passed. -/
inductive Course (environ : Environment) (settings : Settings) : List Hypervisor.Call → List Event → Prop where
  | stopped (todo : List Hypervisor.Call) : Course environ settings todo []
  | checked {check : Hypervisor.Call} (todo : List Hypervisor.Call) {e : Event}
    (h : Runs environ settings.client check e) : Course environ settings (check :: todo) [e]
  | passed {check : Hypervisor.Call} {todo : List Hypervisor.Call} {e : Event} {made : List Event}
    (h : Runs environ settings.client check e) (hpassed : Passes environ settings.client check e)
    (hmade : Course environ settings todo made) : Course environ settings (check :: todo) (e :: made)
  | cleared {made : List Event} (h : ∀ e ∈ made, Later settings e) : Course environ settings [] made

/-! What a check does. -/

variable {environ : Environment} {settings : Settings} {σ α : Type}

/-- At most one act, told by what it comes to; where there is none, there is no result. -/
def OneAct (p : Outcome α → Event → Prop) (outcome : Outcome α) (made : List Event) : Prop :=
  (made = [] ∧ ∃ stop, outcome = .error stop) ∨ ∃ e, made = [e] ∧ p outcome e

theorem oneAct_stopped {p : Outcome α → Event → Prop} (stop : Stop) : OneAct p (.error stop) [] :=
  .inl ⟨rfl, stop, rfl⟩

/-- A check goes before all that comes only if it has passed. -/
theorem writes_course {a k : Action (Journal σ) Unit} {check : Hypervisor.Call} {todo : List Hypervisor.Call}
    (ha : Writes a (OneAct fun result e => Runs environ settings.client check e ∧
      (result = .ok () → Passes environ settings.client check e)))
    (hk : Writes k fun _ made => Course environ settings todo made) :
    Writes (a >>= fun _ => k) fun _ made => Course environ settings (check :: todo) made := by
  refine ha.bind (fun _ => hk) ?_ ?_
  · rintro stop made (⟨rfl, -⟩ | ⟨e, rfl, hruns, -⟩)
    · exact .stopped _
    · exact .checked todo hruns
  · rintro ⟨⟩ outcome first second (⟨-, stop, hstop⟩ | ⟨e, rfl, hruns, hpasses⟩) hsecond
    · cases hstop
    · exact .passed hruns (hpasses rfl) hsecond

variable [Log.Sink σ]

theorem environment_credentials (environ : Environment) {client : VCenter.Client} {check : Hypervisor.Call}
    {more : Environment} (h : client.environment check = .ok more) :
    (environ.overlay more).get? "GOVC_USERNAME" =
        (if VCenter.withCredentials check then some client.username else environ.get? "GOVC_USERNAME") ∧
      (environ.overlay more).get? "GOVC_PASSWORD" =
        (if VCenter.withCredentials check then some client.password else environ.get? "GOVC_PASSWORD") := by
  have hreceives := VCenter.receives environ h
  by_cases hcheck : VCenter.withCredentials check = true
  · rw [if_pos hcheck, if_pos hcheck]
    exact hreceives.credentials (VCenter.withCredentials_iff.mp hcheck)
  · rw [if_neg hcheck, if_neg hcheck]
    refine hreceives.anonymous ?_
    cases check with
    | checkUrl => rfl
    | _ => exact absurd rfl hcheck

theorem startsCheck_request (environ : Environment) {client : VCenter.Client} {check : Hypervisor.Call}
    {command : List Value} {more : Environment} (hcommand : VCenter.command check = .ok command)
    (hmore : client.environment check = .ok more) :
    StartsCheck environ client check (Program.request environ command more) :=
  ⟨hcommand, environ.overlay more, VCenter.request_environment environ hmore command,
    environment_credentials environ hmore⟩

theorem found_of_answer {check : Hypervisor.Call} {stdout : String} {v : Value}
    (h : VCenter.answer check stdout = .ok v) (path : Value) (hcheck : check = .find path) :
    Text.strip stdout ≠ "" := by
  intro hempty
  rw [hcheck, VCenter.answer, hempty] at h
  cases h

theorem writes_hypervisor (f : Facilities σ) (client : VCenter.Client) (check : Hypervisor.Call) :
    Writes (Assembly.hypervisor f.recorded environ client check)
      (OneAct fun result e => Runs environ client check e ∧
        ∀ v, result = .ok v → Passes environ client check e) := by
  refine (VCenter.writes_call f environ client check).mono ?_
  intro result made hmade
  cases hmade with
  | inl hnone => exact .inl hnone
  | inr hone =>
    obtain ⟨e, he, command, more, outcome, hcommand, hmore, hran, hresult⟩ := hone
    have hstarts := startsCheck_request environ hcommand hmore
    refine .inr ⟨e, he, ?_, ?_⟩
    · rw [hran]
      exact .ran outcome hstarts
    · intro v hv
      obtain ⟨status, stdout, stderr, hended, hzero, hanswer⟩ := hresult v hv
      rw [hran, hended]
      exact .ran stderr hstarts hzero (found_of_answer hanswer)

theorem writes_ask (f : Facilities σ) (client : VCenter.Client) (reason : Config.Check)
    (check : Hypervisor.Call) :
    Writes (Preflight.ask (Assembly.hypervisor f.recorded environ client) reason check)
      (OneAct fun result e => Runs environ client check e ∧
        (result = .ok () → Passes environ client check e)) := by
  have hcall : Writes (do let _ ← Assembly.hypervisor f.recorded environ client check)
      (OneAct fun result e => Runs environ client check e ∧
        (result = .ok () → Passes environ client check e)) := by
    refine (writes_hypervisor f client check).bind (fun v => writes_outcome (fun _ => rfl)
      (p := fun _ made => made = []) rfl) ?_ ?_
    · rintro stop made (⟨rfl, -⟩ | ⟨e, rfl, hruns, -⟩)
      · exact oneAct_stopped stop
      · exact .inr ⟨e, rfl, hruns, by simp⟩
    · rintro v result first second (⟨-, stop, hstop⟩ | ⟨e, rfl, hruns, hpasses⟩) rfl
      · cases hstop
      · exact .inr ⟨e, rfl, hruns, fun _ => hpasses v rfl⟩
  refine hcall.handled (fun failure => writes_outcome (fun _ => rfl) ⟨rfl, _, rfl⟩) ?_
  rintro stop stop' made (⟨rfl, -⟩ | ⟨e, rfl, hruns, -⟩)
  · exact oneAct_stopped stop'
  · exact .inr ⟨e, rfl, hruns, by simp⟩

/-! What comes behind the checks. -/

/-- An event that may come behind the checks, beside itself. -/
def LaterEvent (settings : Settings) (e e' : Event) : Prop := Later settings e ∧ e = e'

/-- A program that is started for a call of a preparation, beside itself. -/
def LaterRequest (settings : Settings) (q q' : Program.Request) : Prop :=
  q = q' ∧ ∃ call, Construct.Asks settings.guest settings.guest call call ∧ VCenter.command call = .ok q.command

theorem later_of_none {e : Event} (h : e.request? = none) : LaterEvent settings e e :=
  ⟨fun q hq => by simp [h] at hq, rfl⟩

theorem later_ran {q q' : Program.Request} (outcome : Outcome Program.Ending)
    (h : LaterRequest settings q q') : LaterEvent settings (.ran q outcome) (.ran q' outcome) := by
  obtain ⟨rfl, hcall⟩ := h
  refine ⟨fun request hrequest => ?_, rfl⟩
  cases hrequest
  exact hcall

/-- A preparation keeps to its calls, whatever the surroundings answer. -/
theorem writes_prepare (f : Facilities σ) (version : Value) (attempts : Nat) :
    Writes (Construct.prepare (Assembly.crew f.recorded
        (Assembly.hypervisor f.recorded environ settings.client) version attempts settings) settings.guest)
      fun _ made => ∀ e ∈ made, Later settings e := by
  -- An invariant of one run is the agreement of the run with itself, event by event.
  intro j
  have hlog : Construct.AgreeOnLog
      (Journal.Related (LaterEvent settings) Eq j.events j.events : Journal σ → Journal σ → Prop) :=
    AgreeOnLog.recorded (fun _ _ _ => Action.agree_refl _) fun _ => later_of_none
  have hf : f.recorded.Agree (Journal.Related (LaterEvent settings) Eq j.events j.events)
      settings.account settings.account (LaterRequest settings) f.recorded :=
    (f.agree_refl _ fun _ _ hq => hq.1).recorded (fun _ _ => later_ran) (later_of_none rfl)
      fun _ => later_of_none
  have hasked : ∀ call call', Construct.Asks settings.guest settings.guest call call' →
      Action.Agree (Journal.Related (LaterEvent settings) Eq j.events j.events) Eq
        (Assembly.hypervisor f.recorded environ settings.client call)
        (Assembly.hypervisor f.recorded environ settings.client call') := by
    intro call call' hasks
    obtain rfl := hasks.same
    refine agree_hypervisor hlog (settings.client.sameCall_refl call) ?_
    rintro command more _ hcommand rfl
    exact hf.start _ _ ⟨rfl, call, hasks, hcommand⟩
  have hagree := Construct.agree_prepare hlog rfl (agree_crew hlog hf rfl rfl hasked version attempts)
  obtain ⟨-, ⟨more, more', hmore, -, hall⟩, -⟩ := hagree j j (Journal.related_start rfl)
  refine ⟨more, hmore, fun e he => ?_⟩
  exact ((List.forall₂_and_left _ _).mp hall).1 e (List.mem_filter.mp he).1

theorem writes_checked (f : Facilities σ) (version : Value) (attempts : Nat) :
    Writes (do
        Preflight.checkVCenter (Assembly.hypervisor f.recorded environ settings.client) settings
        Construct.prepare (Assembly.crew f.recorded
          (Assembly.hypervisor f.recorded environ settings.client) version attempts settings) settings.guest)
      fun _ made => Course environ settings (checks settings) made := by
  unfold Preflight.checkVCenter
  simp only [bind_assoc]
  refine writes_course (writes_ask f settings.client .url _) ?_
  refine writes_course (writes_ask f settings.client (.credentials _) _) ?_
  refine writes_course (writes_ask f settings.client .inventoryPath _) ?_
  exact (writes_prepare f version attempts).mono fun _ _ h => .cleared h

/-! Whole runs. -/

theorem settled_of_ok {files : Files} (hsettings : Preflight.checkSettings files settings = .ok ())
    (hnames : Preflight.checkNames files "." Preflight.artifactNames = .ok ()) : Settled files settings where
  required _ hfield := Preflight.truthy_of_checked hsettings hfield
  certificates := (Preflight.checkSettings_ok hsettings).2
  artifacts := by
    -- The names that are looked for are those that the uploads read.
    have hsources : Construct.artifacts.map Construct.Artifact.source =
        Preflight.artifactNames.map (Path.join ".") := by decide +kernel
    intro a ha
    have hsource := List.mem_map_of_mem (f := Construct.Artifact.source) ha
    rw [hsources] at hsource
    obtain ⟨name, hname, hjoin⟩ := List.mem_map.mp hsource
    rw [← hjoin]
    exact Preflight.checkNames_ok hnames name hname

/-- The acts of a construction, whatever it is given and whatever its surroundings answer. -/
theorem writes_construct (s : Surroundings σ) (flags : Config.Field → Option String) (config : Option String) :
    Writes (Command.perform s.recorded (.construct flags config)) fun _ made =>
      made = [] ∨ ∃ settings, s.resolve flags config = .ok settings ∧ Settled s.files settings ∧
        Course s.environ settings (checks settings) made := by
  have hreport : ∀ f, Writes (report f : Action (Journal σ) Unit) fun outcome made =>
      made = [] ∧ ∃ stop, outcome = .error stop := by
    intro f
    unfold report
    split
    · exact (writes_log _ _ _).after (fun stop => ⟨rfl, stop, rfl⟩) fun _ =>
        writes_outcome (fun _ => rfl) ⟨rfl, _, rfl⟩
    · exact writes_outcome (fun _ => rfl) ⟨rfl, _, rfl⟩
  refine Writes.handled ?_ hreport fun _ _ _ h => h
  rw [construct_eq]
  refine writes_ofResult _ (fun _ => .inl rfl) fun settings hresolve => ?_
  refine (writes_silently _).after (fun _ => .inl rfl) fun _ => ?_
  refine (writes_silently _).after (fun _ => .inl rfl) fun _ => ?_
  unfold proceed Preflight.checkArtifacts
  refine writes_ofResult _ (fun _ => .inl rfl) fun _ hsettings => ?_
  simp only [bind_assoc]
  refine writes_ofResult _ (fun _ => .inl rfl) fun _ hnames => ?_
  refine (writes_log _ _ _).after (fun _ => .inl rfl) fun _ => ?_
  exact (writes_checked s.facilities _ _).mono fun _ made hmade =>
    .inr ⟨settings, hresolve, settled_of_ok hsettings hnames, hmade⟩

omit [Log.Sink σ] in
/-- An act of a course is a check behind those before it, or comes behind all of them. -/
theorem Course.place {todo : List Hypervisor.Call} {before after : List Event} {e : Event}
    (h : Course environ settings todo (before ++ e :: after)) :
    (∃ done check rest, todo = done ++ check :: rest ∧
      List.Forall₂ (Passes environ settings.client) done before ∧ Runs environ settings.client check e) ∨
    ∃ passed rest, before = passed ++ rest ∧ List.Forall₂ (Passes environ settings.client) todo passed ∧
      ∀ d ∈ rest ++ e :: after, Later settings d := by
  generalize hmade : before ++ e :: after = made at h
  -- Each passed check is taken off the front of `before`; where `before` is used up, the act is the check itself.
  induction h generalizing before with
  | stopped todo => simp at hmade
  | @checked check todo d hruns =>
    cases before with
    | nil =>
      obtain ⟨rfl, -⟩ := List.cons.inj hmade
      exact .inl ⟨[], check, todo, rfl, .nil, hruns⟩
    | cons first before => simp at hmade
  | @passed check todo d made hruns hpasses hcourse ih =>
    cases before with
    | nil =>
      obtain ⟨rfl, -⟩ := List.cons.inj hmade
      exact .inl ⟨[], check, todo, rfl, .nil, hruns⟩
    | cons first before =>
      obtain ⟨rfl, hrest⟩ := List.cons.inj hmade
      rcases ih hrest with ⟨done, next, rest, htodo, hdone, hnext⟩ | ⟨passed, rest, hbefore, hpassed, hlater⟩
      · exact .inl ⟨check :: done, next, rest, by rw [htodo]; rfl, .cons hpasses hdone, hnext⟩
      · exact .inr ⟨first :: passed, rest, by rw [hbefore]; rfl, .cons hpasses hpassed, hlater⟩
  | @cleared made hlater =>
    refine .inr ⟨[], before, rfl, .nil, ?_⟩
    rw [hmade]
    exact hlater

omit [Log.Sink σ] in
theorem asks_command {guest : Guest} {call : Hypervisor.Call} {command : List Value}
    (h : Construct.Asks guest guest call call) (hcommand : VCenter.command call = .ok command) :
    ∃ name ∈ ["guest.mkdir", "guest.upload", "guest.start", "guest.ps", "vm.info"], ∃ arguments,
      command = VCenter.toolCommand name arguments := by
  cases hpath : VCenter.pathArgument guest.inventoryPath with
  | error f => cases h <;> rw [VCenter.command, hpath] at hcommand <;> cases hcommand
  | ok path =>
    cases h with
    | waitForExit pid =>
      rw [VCenter.command, hpath] at hcommand
      cases hpid : pid.written with
      | error f =>
        rw [hpid] at hcommand
        cases hcommand
      | ok process =>
        rw [hpid] at hcommand
        cases hcommand
        exact ⟨_, by decide, _, rfl⟩
    | _ =>
      rw [VCenter.command, hpath] at hcommand
      cases hcommand
      exact ⟨_, by decide, _, rfl⟩

omit [Log.Sink σ] in
/-- No call of a preparation is one of the checks. -/
theorem not_check_of_later {e : Event} (h : Later settings e) {check : Hypervisor.Call}
    (hcheck : check ∈ checks settings) (client : VCenter.Client) : ¬Runs environ client check e := by
  intro hruns
  cases hruns with
  | @ran request outcome hstarts =>
    obtain ⟨call, hasks, hcall⟩ := h request rfl
    obtain ⟨name, hname, arguments, hcommand⟩ := asks_command hasks hcall
    have hchecked := hstarts.command
    rw [hcommand] at hchecked
    simp only [checks, List.mem_cons, List.not_mem_nil, or_false] at hcheck
    rcases hcheck with rfl | rfl | rfl <;> cases hchecked <;> revert hname <;> decide

/-- An act is either a check, and those before it have passed and are all that was done, or all checks
have passed before it, and what is done besides them is no check. -/
def Gated (environ : Environment) (settings : Settings) (before : List Event) (e : Event)
    (after : List Event) : Prop :=
  (∃ done check todo, checks settings = done ++ check :: todo ∧
    List.Forall₂ (Passes environ settings.client) done before ∧ Runs environ settings.client check e) ∨
  ∃ passed rest, before = passed ++ rest ∧
    List.Forall₂ (Passes environ settings.client) (checks settings) passed ∧
    ∀ d ∈ rest ++ e :: after, Later settings d ∧
      ∀ check ∈ checks settings, ¬Runs environ settings.client check d

/-- Whatever a construction is given and whatever its surroundings answer: nothing is done unless the
parameters are complete and the files are there, and what is done is gated. -/
theorem construct_gated (s : Surroundings σ) (flags : Config.Field → Option String) (config : Option String)
    (start : σ) {before after : List Event} {e : Event}
    (h : acts ((Command.perform s.recorded (.construct flags config)).eval ⟨[], start⟩).2.events =
      before ++ e :: after) :
    ∃ settings, s.resolve flags config = .ok settings ∧ Settled s.files settings ∧
      Gated s.environ settings before e after := by
  obtain ⟨made, hmade, hcourse⟩ := writes_construct s flags config ⟨[], start⟩
  rw [hmade, List.nil_append] at h
  rw [h] at hcourse
  rcases hcourse with hnone | ⟨settings, hresolve, hsettled, hcourse⟩
  · simp at hnone
  · refine ⟨settings, hresolve, hsettled, hcourse.place.imp_right ?_⟩
    rintro ⟨passed, rest, hbefore, hpassed, hlater⟩
    refine ⟨passed, rest, hbefore, hpassed, fun d hd => ⟨hlater d hd, fun check hcheck => ?_⟩⟩
    exact not_check_of_later (hlater d hd) hcheck settings.client

/-- The vCenter passes the checks, and the user interrupts the first program behind them. -/
def passingWorld : Rehearsal.World where
  environ := Rehearsal.World.completeEnvironment
  outside :=
    { programs := List.replicate 3 (.ok (.ended (.int 0) "stemcell" "")) ++
        [.error (.interrupt (.keyboard ""))] }

/-- The directory in the guest is made behind the checks. -/
theorem construct_gated_passingWorld :
    let s := Rehearsal.World.completeStage
    let made := acts ((Command.perform s.recorded (.construct (fun _ => none) none)).eval ⟨[], passingWorld⟩).2.events
    ∃ before e after, made = before ++ e :: after ∧ before.length = 5 ∧ e.request?.isSome = true ∧
      ∃ settings, s.resolve (fun _ => none) none = .ok settings ∧ Settled s.files settings ∧
        Gated s.environ settings before e after := by
  intro s made
  have hacts : 5 < made.length ∧ (made[5]?.bind Event.request?).isSome = true := by
    have hnames : Preflight.checkNames s.recorded.files "." Preflight.artifactNames = .ok () :=
      Rehearsal.World.checkNames_complete
    -- The search for the files does not evaluate: what it finds is put in, and the rest of the run is computed.
    dsimp only [made, Command.perform, CommandLine.construct, Preflight.checkArtifacts]
    rw [hnames]
    decide +kernel
  obtain ⟨hlength, hrequest⟩ := hacts
  rw [List.getElem?_eq_getElem hlength] at hrequest
  have hsplit : made = made.take 5 ++ made[5] :: made.drop 6 := by
    rw [← List.drop_eq_getElem_cons hlength, List.take_append_drop]
  refine ⟨_, _, _, hsplit, ?_, hrequest, construct_gated s _ _ passingWorld hsplit⟩
  rw [List.length_take]
  omega

end Stemcell.CommandLine
