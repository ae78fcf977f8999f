import Stemcell.Proofs.Construct.Success
import Stemcell.Proofs.Journal

/-! Two runs with different passwords, in surroundings that answer both alike. Nothing of a password
reaches a command, a record, the user or the words of a failure: what the runs do is the same but for
two variables of the programs that they start, and for the password that sessions are opened with. -/
namespace Stemcell.Construct

open Config (Settings)
open Stemcell.Action (agree_pure)

/-- Parameters that are the same but for the passwords. That of the guest is a text. -/
structure SameButPasswords (settings settings' : Settings) : Prop where
  others : ∀ field, field ≠ .vmPassword → field ≠ .vcenterPassword →
    settings.value field = settings'.value field
  text : (settings.value .vmPassword).kind = .text
  text' : (settings'.value .vmPassword).kind = .text

/-- A name and a password as they go to the tool. -/
def login (user : String) (password : Value) : String := s!"{user}:{password.display}"

/-- How the runs with two settings may differ in a variable. -/
inductive AlikeVariable (settings settings' : Settings) : String × Value → String × Value → Prop where
  | same (e : String × Value) : AlikeVariable settings settings' e e
  | vcenter : AlikeVariable settings settings' ("GOVC_PASSWORD", settings.value .vcenterPassword)
      ("GOVC_PASSWORD", settings'.value .vcenterPassword)
  | guest {user : String} (h : (settings.value .vmUsername).written = .ok user) : AlikeVariable settings settings'
      ("GOVC_GUEST_LOGIN", .text (login user (settings.value .vmPassword)))
      ("GOVC_GUEST_LOGIN", .text (login user (settings'.value .vmPassword)))

abbrev AlikeVariables (settings settings' : Settings) : Environment → Environment → Prop :=
  List.Forall₂ (AlikeVariable settings settings')

structure AlikeRequest (settings settings' : Settings) (request request' : Program.Request) : Prop where
  command : request.command = request'.command
  environment : Option.Rel (AlikeVariables settings settings') request.environment request'.environment
  timeout : request.timeout = request'.timeout

/-- How the runs may differ in what they ask of their surroundings. -/
inductive AlikeEvent (settings settings' : Settings) : Event → Event → Prop where
  | same (e : Event) : AlikeEvent settings settings' e e
  | ran {request request' : Program.Request} (outcome : Outcome Program.Ending)
    (h : AlikeRequest settings settings' request request') :
    AlikeEvent settings settings' (.ran request outcome) (.ran request' outcome)
  | opened : AlikeEvent settings settings' (.opened settings.account) (.opened settings'.account)

variable {settings settings' : Settings}

theorem AlikeVariable.name {e e' : String × Value} (h : AlikeVariable settings settings' e e') :
    e.1 = e'.1 := by
  cases h <;> rfl

theorem alikeVariables_refl (env : Environment) : AlikeVariables settings settings' env env :=
  List.forall₂_same.mpr fun e _ => .same e

theorem AlikeVariables.set {env env' : Environment} {e e' : String × Value}
    (he : AlikeVariable settings settings' e e') (h : AlikeVariables settings settings' env env') :
    AlikeVariables settings settings' (Environment.set e.1 e.2 env) (Environment.set e'.1 e'.2 env') := by
  induction h with
  | nil => exact .cons he .nil
  | @cons d d' rest rest' hd hrest ih =>
    have hname : d.1 = e.1 ↔ d'.1 = e'.1 := by rw [hd.name, he.name]
    unfold Environment.set
    by_cases hfound : d.1 = e.1
    · rw [if_pos hfound, if_pos (hname.mp hfound), hfound, hname.mp hfound]
      exact .cons he hrest
    · rw [if_neg hfound, if_neg (mt hname.mpr hfound)]
      exact .cons hd ih

theorem AlikeVariables.overlay {more more' : Environment} (env env' : Environment)
    (h : AlikeVariables settings settings' env env')
    (hmore : AlikeVariables settings settings' more more') :
    AlikeVariables settings settings' (env.overlay more) (env'.overlay more') := by
  unfold Environment.overlay
  induction hmore generalizing env env' with
  | nil => exact h
  | cons he _ ih => exact ih _ _ (.set he h)

theorem alikeRequest_request (environ : Environment) (command : List Value) {more more' : Environment}
    (h : AlikeVariables settings settings' more more') :
    AlikeRequest settings settings' (Program.request environ command more)
      (Program.request environ command more') where
  command := rfl
  environment := by
    unfold Program.request
    cases h with
    | nil => exact .none
    | cons he hrest => exact .some (.overlay _ _ (alikeVariables_refl environ) (.cons he hrest))
  timeout := rfl

/-! The variables and the rest of a call. -/

theorem written_of_text {v : Value} (h : v.kind = .text) : v.written = .ok v.display := by
  cases v <;> first | rfl | simp [Value.kind] at h

theorem alike_login (h : SameButPasswords settings settings') :
    SameResult (fun s s' => AlikeVariable settings settings' ("GOVC_GUEST_LOGIN", .text s)
        ("GOVC_GUEST_LOGIN", .text s'))
      (VCenter.loginText settings.guest) (VCenter.loginText settings'.guest) := by
  have huser : settings'.guest.username = settings.value .vmUsername :=
    (h.others .vmUsername (by decide) (by decide)).symm
  unfold VCenter.loginText
  rw [huser]
  change SameResult _ ((settings.value .vmUsername).written >>= _) ((settings.value .vmUsername).written >>= _)
  cases hwritten : (settings.value .vmUsername).written with
  | error f => exact .error f
  | ok user =>
    simp only [Config.Settings.guest, written_of_text h.text, written_of_text h.text']
    exact .ok (.guest hwritten)

/-- The variables of a call on one guest beside those of the same call on the other, and those of a call
that acts in no guest. -/
theorem alike_environment (h : SameButPasswords settings settings') {call call' : Hypervisor.Call}
    (hcredentials : VCenter.withCredentials call = VCenter.withCredentials call')
    (hguest : VCenter.guest? call = some settings.guest ∧ VCenter.guest? call' = some settings'.guest ∨
      VCenter.guest? call = none ∧ VCenter.guest? call' = none) :
    SameResult (AlikeVariables settings settings') (settings.client.environment call)
      (settings'.client.environment call') := by
  have hurl : settings.client.url = settings'.client.url := h.others .vcenterUrl (by decide) (by decide)
  have huser : settings.client.username = settings'.client.username :=
    h.others .vcenterUsername (by decide) (by decide)
  have hcerts : settings.client.certificates = settings'.client.certificates :=
    h.others .vcenterCaCerts (by decide) (by decide)
  unfold VCenter.Client.environment
  rw [hurl, huser, hcerts, hcredentials]
  have hfirst : ∀ trust : Environment, AlikeVariables settings settings'
      ((if VCenter.withCredentials call' then [("GOVC_USERNAME", settings'.client.username),
        ("GOVC_PASSWORD", settings.client.password)] else []) ++ trust)
      ((if VCenter.withCredentials call' then [("GOVC_USERNAME", settings'.client.username),
        ("GOVC_PASSWORD", settings'.client.password)] else []) ++ trust) := by
    intro trust
    refine List.rel_append ?_ (alikeVariables_refl trust)
    split
    · exact .cons (.same _) (.cons .vcenter .nil)
    · exact .nil
  rcases hguest with ⟨hg, hg'⟩ | ⟨hg, hg'⟩
  · rw [hg, hg']
    dsimp only
    have hlogin := alike_login h
    generalize VCenter.loginText settings.guest = result at hlogin
    generalize VCenter.loginText settings'.guest = result' at hlogin
    cases hlogin with
    | error f => exact .error f
    | ok hlogin => exact .ok (.cons (.same _) (List.rel_append (hfirst _) (.cons hlogin .nil)))
  · rw [hg, hg']
    exact .ok (.cons (.same _) (List.rel_append (hfirst _) .nil))

theorem alike_asked (h : SameButPasswords settings settings') {call call' : Hypervisor.Call}
    (hasks : Asks settings.guest settings'.guest call call') :
    VCenter.Client.SameCall (AlikeVariables settings settings') settings.client settings'.client
      call call' := by
  have hpath : settings.guest.inventoryPath = settings'.guest.inventoryPath :=
    h.others .vmInventoryPath (by decide) (by decide)
  cases hasks with
  | makeDirectory =>
    refine ⟨?_, rfl, fun _ => rfl, alike_environment h rfl (.inl ⟨rfl, rfl⟩)⟩
    simp only [VCenter.command, hpath]
  | upload a ha =>
    refine ⟨?_, rfl, fun _ => rfl, alike_environment h rfl (.inl ⟨rfl, rfl⟩)⟩
    simp only [VCenter.command, hpath]
  | start script =>
    refine ⟨?_, rfl, fun _ => rfl, alike_environment h rfl (.inl ⟨rfl, rfl⟩)⟩
    simp only [VCenter.command, hpath]
  | waitForExit pid =>
    refine ⟨?_, rfl, fun _ => rfl, alike_environment h rfl (.inl ⟨rfl, rfl⟩)⟩
    simp only [VCenter.command, hpath]
  | isPoweredOff =>
    rw [hpath]
    exact ⟨rfl, rfl, fun _ => rfl, alike_environment h rfl (.inr ⟨rfl, rfl⟩)⟩

theorem alike_outside (h : SameButPasswords settings settings') {call : Hypervisor.Call}
    (hcall : VCenter.guest? call = none) :
    VCenter.Client.SameCall (AlikeVariables settings settings') settings.client settings'.client
      call call := by
  refine ⟨rfl, ?_, fun _ => rfl, alike_environment h rfl (.inr ⟨hcall, hcall⟩)⟩
  have hurl : settings.client.url = settings'.client.url := h.others .vcenterUrl (by decide) (by decide)
  cases call with
  | checkUrl => simp only [VCenter.Client.operation, hurl]
  | _ => rfl

variable {σ : Type} [Log.Sink σ]

/-- The checks of the vCenter and the preparation of its guest, with a journal. -/
def checkedPreparation (f : Facilities σ) (environ : Environment) (version : Value) (attempts : Nat)
    (settings : Settings) : Action (Journal σ) Unit := do
  let hypervisor := Assembly.hypervisor f.recorded environ settings.client
  Preflight.checkVCenter hypervisor settings
  prepare (Assembly.crew f.recorded hypervisor version attempts settings) settings.guest

/-- Where the surroundings answer alike whatever the passwords, runs end alike, and what they ask of
the surroundings differs in nothing but the passwords that go to the tool and to sessions. -/
theorem checkedPreparation_same_but_passwords {R : σ → σ → Prop} {f : Facilities σ}
    (h : SameButPasswords settings settings') (hlog : AgreeOnLog R)
    (hf : f.Agree R settings.account settings'.account (AlikeRequest settings settings') f)
    (environ : Environment) (version : Value) (attempts : Nat) {s s' : σ} (hs : R s s') :
    let run := (checkedPreparation f environ version attempts settings).eval ⟨[], s⟩
    let run' := (checkedPreparation f environ version attempts settings').eval ⟨[], s'⟩
    run.1 = run'.1 ∧ List.Forall₂ (AlikeEvent settings settings') run.2.events run'.2.events ∧
      R run.2.inner run'.2.inner := by
  have hrecorded : f.recorded.Agree (Journal.Related (AlikeEvent settings settings') R [] [])
      settings.account settings'.account (AlikeRequest settings settings') f.recorded :=
    hf.recorded (fun _ _ outcome => .ran outcome) .opened fun e _ => .same e
  have hlogged : AgreeOnLog (Journal.Related (AlikeEvent settings settings') R [] []) :=
    AgreeOnLog.recorded hlog fun e _ => .same e
  have hcall : ∀ call call', VCenter.Client.SameCall (AlikeVariables settings settings') settings.client
      settings'.client call call' →
      Action.Agree (Journal.Related (AlikeEvent settings settings') R [] []) Eq
        (Assembly.hypervisor f.recorded environ settings.client call)
        (Assembly.hypervisor f.recorded environ settings'.client call') := by
    intro call call' hsame
    exact agree_hypervisor hlogged hsame fun command _ _ _ hmore =>
      hrecorded.start _ _ (alikeRequest_request environ command hmore)
  have hpath : settings.guest.inventoryPath = settings'.guest.inventoryPath :=
    h.others .vmInventoryPath (by decide) (by decide)
  have hcrew := agree_crew hlogged hrecorded (h.others .vmIp (by decide) (by decide)) hpath
    (fun call call' hasks => hcall call call' (alike_asked h hasks)) version attempts
  have hagree : Action.Agree (Journal.Related (AlikeEvent settings settings') R [] []) Eq
      (checkedPreparation f environ version attempts settings)
      (checkedPreparation f environ version attempts settings') := by
    refine Action.Agree.andThen ?_ fun _ => agree_prepare hlogged hpath hcrew
    exact agree_checkVCenter (h.others .vcenterUrl (by decide) (by decide)) hpath
      fun call hguest => hcall call call (alike_outside h hguest)
  obtain ⟨hresult, ⟨more, more', hmore, hmore', hall⟩, hinner⟩ := hagree _ _ (Journal.related_start hs)
  refine ⟨hresult.eq, ?_, hinner⟩
  rw [hmore, hmore']
  exact hall

/-- The same answers on both sides, and sessions answer the same whatever the password. -/
structure Answers.Impartial (s s' : Answers) : Prop where
  same : s = s'
  password : ∀ n (account : Remote.Account) password,
    s.session n { account with password } = s.session n account

theorem Answers.agree_facilities (h : SameButPasswords settings settings') :
    Answers.facilities.Agree Answers.Impartial settings.account settings'.account
      (AlikeRequest settings settings') Answers.facilities where
  start q q' hq := by
    rintro s _ ⟨rfl, hs⟩
    simp only [facilities, Action.eval_ofEval, hq.command]
    exact ⟨.refl _, ⟨rfl, hs⟩⟩
  connect host port timeout := by
    rintro s _ ⟨rfl, hs⟩
    exact ⟨.refl _, ⟨rfl, hs⟩⟩
  session := by
    rintro s _ ⟨rfl, hs⟩
    have haccount : settings.account = { settings'.account with password := settings.account.password } := by
      simp only [Config.Settings.account, h.others .vmIp (by decide) (by decide),
        h.others .vmUsername (by decide) (by decide)]
    have hanswer : s.session 0 settings.account = s.session 0 settings'.account := by
      rw [haccount, hs]
    refine ⟨?_, ⟨rfl, fun n => hs (n + 1)⟩⟩
    simp only [facilities, Action.eval_ofEval, hanswer]
    cases s.session 0 settings'.account with
    | error stop => exact .error stop
    | ok run =>
      refine .ok fun command t t' ht => ?_
      obtain ⟨rfl, ht⟩ := ht
      exact ⟨.refl _, ⟨rfl, ht⟩⟩
  sleep _ := agree_pure rfl
  write _ := agree_pure rfl
  flush := agree_pure rfl

/-- The answers to a whole preparation, behind those to three checks. -/
def checkedAnswers : Answers := { quietAnswers with tool := fun n => quietAnswers.tool (n - 3) }

def withPassword (password : String) : Settings where
  value
    | .vmPassword | .vcenterPassword => .text password
    | _ => .text "stemcell"

theorem checkedAnswers_same_but_passwords :
    SameButPasswords (withPassword "first") (withPassword "second") ∧
    ((checkedPreparation Answers.facilities [] (.text "dev") 2 (withPassword "first")).eval
      ⟨[], checkedAnswers⟩).1.toBool = true ∧
    let run := (checkedPreparation Answers.facilities [] (.text "dev") 2 (withPassword "first")).eval
      ⟨[], checkedAnswers⟩
    let run' := (checkedPreparation Answers.facilities [] (.text "dev") 2 (withPassword "second")).eval
      ⟨[], checkedAnswers⟩
    run.1 = run'.1 ∧ List.Forall₂ (AlikeEvent (withPassword "first") (withPassword "second"))
      run.2.events run'.2.events ∧ Answers.Impartial run.2.inner run'.2.inner := by
  have hsame : SameButPasswords (withPassword "first") (withPassword "second") := by
    refine ⟨fun field hvm hvcenter => ?_, rfl, rfl⟩
    cases field <;> first | rfl | contradiction
  have hstart : Answers.Impartial checkedAnswers checkedAnswers := ⟨rfl, fun _ _ _ => rfl⟩
  exact ⟨hsame, by decide +kernel, checkedPreparation_same_but_passwords hsame
    (fun _ _ _ => agree_pure rfl) (Answers.agree_facilities hsame) [] (.text "dev") 2 hstart⟩

end Stemcell.Construct
