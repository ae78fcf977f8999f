import Stemcell.Proofs.Construct.Success
import Stemcell.Proofs.Program

/-! The environment that the vCenter's tool is run in. What a client sets wins over what the program
itself has inherited, and nothing that it has inherited is taken away. -/
namespace Stemcell.VCenter

/-- A call acts in a guest, as the user of the guest. -/
inductive ActsIn (guest : Guest) : Hypervisor.Call → Prop where
  | makeDirectory (path : Value) : ActsIn guest (.makeDirectory guest path)
  | upload (artifact destination : Value) : ActsIn guest (.upload guest artifact destination)
  | start (command : Value) (arguments : List Value) : ActsIn guest (.start guest command arguments)
  | waitForExit (pid : Value) : ActsIn guest (.waitForExit guest pid)

/-- The variables that a client sets for some of its calls. -/
def toolVariables : List String :=
  ["GOVC_URL", "GOVC_USERNAME", "GOVC_PASSWORD", "GOVC_TLS_CA_CERTS", "GOVC_INSECURE", "GOVC_GUEST_LOGIN"]

/-- The environment of the tool for a call, next to the one of the program: what the client sets has
its value, and each other variable is as it was. -/
structure Receives (environ : Environment) (client : Client) (call : Hypervisor.Call)
    (env : Environment) : Prop where
  url : env.get? "GOVC_URL" = some client.url
  verifying : client.certificates.isTruthy = true →
    env.get? "GOVC_TLS_CA_CERTS" = some client.certificates ∧
      env.get? "GOVC_INSECURE" = environ.get? "GOVC_INSECURE"
  trusting : client.certificates.isTruthy = false →
    env.get? "GOVC_INSECURE" = some (.text "1") ∧
      env.get? "GOVC_TLS_CA_CERTS" = environ.get? "GOVC_TLS_CA_CERTS"
  credentials : call ≠ .checkUrl →
    env.get? "GOVC_USERNAME" = some client.username ∧ env.get? "GOVC_PASSWORD" = some client.password
  anonymous : call = .checkUrl →
    env.get? "GOVC_USERNAME" = environ.get? "GOVC_USERNAME" ∧
      env.get? "GOVC_PASSWORD" = environ.get? "GOVC_PASSWORD"
  login : ∀ guest, ActsIn guest call →
    env.get? "GOVC_GUEST_LOGIN" = some (.text s!"{guest.username.display}:{guest.password.display}")
  outside : (∀ guest, ¬ActsIn guest call) →
    env.get? "GOVC_GUEST_LOGIN" = environ.get? "GOVC_GUEST_LOGIN"
  others : ∀ name, name ∉ toolVariables → env.get? name = environ.get? name

theorem actsIn_iff {guest : Guest} {call : Hypervisor.Call} :
    ActsIn guest call ↔ guest? call = some guest := by
  constructor
  · intro h
    cases h <;> rfl
  · intro h
    cases call <;> cases h <;> constructor

theorem withCredentials_iff {call : Hypervisor.Call} : withCredentials call = true ↔ call ≠ .checkUrl := by
  cases call <;> simp [withCredentials]

/-! The variables that a client sets. -/

def credentialVariables (client : Client) (call : Hypervisor.Call) : Environment :=
  if withCredentials call then [("GOVC_USERNAME", client.username), ("GOVC_PASSWORD", client.password)]
  else []

def trustVariables (client : Client) : Environment :=
  if client.certificates.isTruthy then [("GOVC_TLS_CA_CERTS", client.certificates)]
  else [("GOVC_INSECURE", .text "1")]

def loginVariables (call : Hypervisor.Call) : Environment :=
  match guest? call with
  | some guest => [("GOVC_GUEST_LOGIN", .text s!"{guest.username.display}:{guest.password.display}")]
  | none => []

theorem written_ok {v : Value} {s : String} (h : v.written = .ok s) : s = v.display := by
  unfold Value.written at h
  split at h
  · cases h
    rfl
  · cases h

theorem loginText_ok {guest : Guest} {s : String} (h : loginText guest = .ok s) :
    s = s!"{guest.username.display}:{guest.password.display}" := by
  unfold loginText at h
  cases husername : guest.username.written with
  | error f =>
    rw [husername] at h
    cases h
  | ok username =>
    cases hpassword : guest.password.written with
    | error f =>
      rw [husername, hpassword] at h
      cases h
    | ok password =>
      rw [husername, hpassword] at h
      cases h
      rw [written_ok husername, written_ok hpassword]

theorem environment_eq {client : Client} {call : Hypervisor.Call} {more : Environment}
    (h : client.environment call = .ok more) :
    more = ("GOVC_URL", client.url) ::
      (credentialVariables client call ++ trustVariables client ++ loginVariables call) := by
  unfold Client.environment at h
  unfold loginVariables
  cases hguest : guest? call with
  | none =>
    rw [hguest] at h
    cases h
    rfl
  | some guest =>
    rw [hguest] at h
    dsimp only at h
    cases hlogin : loginText guest with
    | error f =>
      rw [hlogin] at h
      cases h
    | ok s =>
      rw [hlogin] at h
      cases h
      rw [loginText_ok hlogin]
      rfl

/-- The value of each variable among those that a client sets. -/
theorem get?_variables (client : Client) (call : Hypervisor.Call) (name : String) :
    Environment.get? (("GOVC_URL", client.url) ::
        (credentialVariables client call ++ trustVariables client ++ loginVariables call)) name =
      if "GOVC_URL" = name then some client.url
      else (((credentialVariables client call).get? name).or ((trustVariables client).get? name)).or
        ((loginVariables call).get? name) := by
  rw [Environment.get?_cons, Environment.get?_append, Environment.get?_append]

theorem get?_credentials (client : Client) (call : Hypervisor.Call) (name : String) :
    (credentialVariables client call).get? name =
      if withCredentials call then
        if "GOVC_USERNAME" = name then some client.username
        else if "GOVC_PASSWORD" = name then some client.password else none
      else none := by
  unfold credentialVariables
  split
  · rw [Environment.get?_cons, Environment.get?_cons]
    rfl
  · rfl

theorem get?_trust (client : Client) (name : String) :
    (trustVariables client).get? name =
      if client.certificates.isTruthy then
        if "GOVC_TLS_CA_CERTS" = name then some client.certificates else none
      else if "GOVC_INSECURE" = name then some (.text "1") else none := by
  unfold trustVariables
  split
  · rw [Environment.get?_cons]
    rfl
  · rw [Environment.get?_cons]
    rfl

theorem get?_login (call : Hypervisor.Call) (name : String) :
    (loginVariables call).get? name =
      if "GOVC_GUEST_LOGIN" = name then
        (guest? call).map fun guest => .text s!"{guest.username.display}:{guest.password.display}"
      else none := by
  unfold loginVariables
  cases guest? call with
  | none => simp [Environment.get?]
  | some guest => exact Environment.get?_cons _ _ _ []

theorem nodup_variables (client : Client) (call : Hypervisor.Call) :
    ((("GOVC_URL", client.url) ::
      (credentialVariables client call ++ trustVariables client ++ loginVariables call)).map
        Prod.fst).Nodup := by
  unfold credentialVariables trustVariables loginVariables
  cases withCredentials call <;> cases client.certificates.isTruthy <;> cases guest? call <;>
    simp

theorem receives (environ : Environment) {client : Client} {call : Hypervisor.Call} {more : Environment}
    (h : client.environment call = .ok more) : Receives environ client call (environ.overlay more) := by
  have hget : ∀ name, (environ.overlay more).get? name =
      (if "GOVC_URL" = name then some client.url
        else (((credentialVariables client call).get? name).or ((trustVariables client).get? name)).or
          ((loginVariables call).get? name)).or (environ.get? name) := by
    intro name
    rw [environment_eq h, Environment.get?_overlay environ (nodup_variables client call), get?_variables]
  simp only [get?_credentials, get?_trust, get?_login] at hget
  constructor
  case url => simp [hget]
  case verifying =>
    intro hcertificates
    simp [hget, hcertificates]
  case trusting =>
    intro hcertificates
    simp [hget, hcertificates]
  case credentials =>
    intro hcall
    simp [hget, withCredentials_iff.mpr hcall]
  case anonymous =>
    intro hcall
    have hwithout : withCredentials call = false := by
      rw [hcall]
      rfl
    simp [hget, hwithout]
  case login =>
    intro guest hguest
    simp [hget, actsIn_iff.mp hguest]
  case outside =>
    intro hnone
    have hguest : guest? call = none := by
      cases h : guest? call with
      | none => rfl
      | some guest => exact absurd (actsIn_iff.mpr h) (hnone guest)
    simp [hget, hguest]
  case others =>
    intro name hname
    simp only [toolVariables, List.mem_cons, List.not_mem_nil, or_false, not_or] at hname
    obtain ⟨hurl, husername, hpassword, htrust, hinsecure, hlogin⟩ := hname
    simp [hget, Ne.symm hurl, Ne.symm husername, Ne.symm hpassword, Ne.symm htrust, Ne.symm hinsecure,
      Ne.symm hlogin]

/-! Calls. -/

variable {σ : Type} [Log.Sink σ]

/-- A call runs the tool once, or fails before. A result comes from the answer of a tool that has
succeeded. -/
theorem writes_call (f : Facilities σ) (environ : Environment) (client : Client) (call : Hypervisor.Call) :
    Writes (Assembly.hypervisor f.recorded environ client call) fun result made =>
      (made = [] ∧ ∃ stop, result = .error stop) ∨
      ∃ e, made = [e] ∧ ∃ argv more outcome, command call = .ok argv ∧ client.environment call = .ok more ∧
        e = .ran (Program.request environ argv more) outcome ∧
        ∀ v, result = .ok v → ∃ status stdout stderr, outcome = .ok (.ended status stdout stderr) ∧
          status.isZero = true ∧ answer call stdout = .ok v := by
  unfold Assembly.hypervisor Client.perform
  refine writes_ofFault _ (by simp) fun argv hargv => ?_
  refine writes_ofFault _ (by simp) fun operation _ => ?_
  refine writes_ofFault _ (by simp) fun more hmore => ?_
  refine (writes_program f environ argv more).bind (q := fun report result made => made = [] ∧
    ∀ v, result = .ok v → report.status.isZero = true ∧ answer call report.stdout = .ok v)
    (fun report => ?_) ?_ ?_
  · by_cases hzero : report.status.isZero = true
    · rw [if_pos hzero]
      cases hanswer : answer call report.stdout with
      | ok v => exact writes_outcome (fun _ => rfl) ⟨rfl, fun w hw => ⟨hzero, by cases hw; rfl⟩⟩
      | error failure => exact writes_outcome (fun _ => rfl) ⟨rfl, by simp⟩
    · rw [if_neg hzero]
      exact writes_outcome (fun _ => rfl) ⟨rfl, by simp⟩
  · intro stop made hmade
    cases hmade with
    | inl hnone => exact .inl ⟨hnone.1, stop, rfl⟩
    | inr hone =>
      obtain ⟨e, he, outcome, hran, -⟩ := hone
      exact .inr ⟨e, he, argv, more, outcome, hargv, hmore, hran, by simp⟩
  · intro report result first second hfirst hsecond
    obtain ⟨hnone, hresult⟩ := hsecond
    rw [hnone, List.append_nil]
    cases hfirst with
    | inl hstopped =>
      obtain ⟨-, stop, hstop⟩ := hstopped
      cases hstop
    | inr hone =>
      obtain ⟨e, he, outcome, hran, hended⟩ := hone
      refine .inr ⟨e, he, argv, more, outcome, hargv, hmore, hran, fun v hv => ?_⟩
      obtain ⟨hzero, hanswer⟩ := hresult v hv
      exact ⟨_, _, _, hended report rfl hzero, hzero, hanswer⟩

theorem request_environment (environ : Environment) {client : Client} {call : Hypervisor.Call}
    {more : Environment} (h : client.environment call = .ok more) (argv : List Value) :
    (Program.request environ argv more).environment = some (environ.overlay more) := by
  rw [Program.request, environment_eq h]
  rfl

/-- Whatever the surroundings answer: a call starts nothing and fails, or starts the tool once, in an
environment in which what the client sets wins and every other variable is as the program itself has
inherited it. -/
theorem call_environment (f : Facilities σ) (environ : Environment) (client : Client)
    (call : Hypervisor.Call) (s : σ) :
    let run := (Assembly.hypervisor f.recorded environ client call).eval ⟨[], s⟩
    (acts run.2.events = [] ∧ ∃ stop, run.1 = .error stop) ∨
      ∃ request outcome env, acts run.2.events = [.ran request outcome] ∧
        request.environment = some env ∧ Receives environ client call env := by
  intro run
  obtain ⟨made, hmade, hcall⟩ := writes_call f environ client call ⟨[], s⟩
  have hevents : run.2.events = made := hmade
  rw [hevents]
  cases hcall with
  | inl hnone => exact .inl hnone
  | inr hone =>
    obtain ⟨e, he, argv, more, outcome, -, hmore, hran, -⟩ := hone
    rw [hran] at he
    exact .inr ⟨_, outcome, _, he, request_environment environ hmore argv, receives environ hmore⟩

/-- Certificates are given, and still the tool is told to trust all, as the program itself has been. -/
theorem insecure_inherited :
    let environ : Environment := [("GOVC_INSECURE", .text "1")]
    let client : Client := ⟨.text "vcenter", .text "admin", .text "password", .text "ca.pem"⟩
    let run := (Assembly.hypervisor Construct.Answers.facilities.recorded environ client .checkCredentials).eval
      ⟨[], Construct.quietAnswers⟩
    client.certificates.isTruthy = true ∧ ∃ request outcome env,
      acts run.2.events = [.ran request outcome] ∧ request.environment = some env ∧
        env.get? "GOVC_INSECURE" = some (.text "1") :=
  ⟨rfl, _, _, _, rfl, rfl, rfl⟩

end Stemcell.VCenter
