import Mathlib.Data.List.Chain
import Stemcell.Proofs.Construct.History

/-! The canonical trace of a preparation. Every run follows it as far as the run goes, whatever its
calls come to. -/
namespace Stemcell.Construct

def uploadSteps (guest : Guest) (a : Artifact) : List Step :=
  [.announce (.uploading (.text a.label)),
    .hypervisor (.upload guest (.text a.source) (.text a.destination)), .announce .uploaded]

def logoutStart (guest : Guest) : Step :=
  .hypervisor (.start guest (.text Powershell.path) (Guest.scriptArguments logoffScript))

/-- The steps behind the question for the version, until everybody is logged out. -/
def openingSteps (guest : Guest) : List Step :=
  [.announce (.started .directory),
    .hypervisor (.makeDirectory guest (.text provisionDirectory)),
    .announce (.succeeded .directory),
    .announce (.started .upload)]
  ++ artifacts.flatMap (uploadSteps guest) ++
  [.announce (.succeeded .upload),
    .announce (.started .enabling), .enable, .announce (.succeeded .enabling),
    .announce (.started .connection), .validate, .announce (.succeeded .connection),
    .announce (.started .unpacking),
    .remote (.extract (.text (provisionDirectory ++ automationName)) (.text provisionDirectory)),
    .announce (.succeeded .unpacking),
    .announce (.started .logout)]

/-- The steps behind that, up to the first look. -/
def setupSteps (version : Value) : List Step :=
  [.announce (.succeeded .logout),
    .announce (.started .setup), .remote (.execute (.text (setupCommand version))),
    .announce (.succeeded .setup),
    .announce .rebooting,
    .poll shutdownInterval]

/-- The steps from the first look on. -/
def shutdownSteps (guest : Guest) (looks : Nat) : List Step :=
  (List.replicate looks (lookSteps guest)).flatten
    ++ [.hypervisor (.isPoweredOff guest.inventoryPath), .announce .shutDown]

/-- All steps of a preparation with this version, in which the script that logs everybody out has
the number `pid` and the guest is not off at the first `looks` looks. -/
def canonical (guest : Guest) (version pid : Value) (looks : Nat) : List Step :=
  .version :: openingSteps guest
    ++ [logoutStart guest, .hypervisor (.waitForExit guest pid)]
    ++ setupSteps version ++ shutdownSteps guest looks

variable (oracle : Oracle) (attempts n : Nat) (guest : Guest)

theorem traces_call (step : Step) (h : ∀ stop, passedOn step stop = stop) :
    Traces guest (Asked guest n) (oracle.consult step) (Calls [step]) := by
  refine (Traces.call (makes_consult oracle step h)).mono ?_
  rintro v made rfl
  rfl

theorem traces_done (step : Step) (h : ∀ stop, passedOn step stop = stop) :
    Traces guest (Asked guest n) (do let _ ← oracle.consult step) (Calls [step]) :=
  (traces_call oracle n guest step h).thenCalls (traces_nothing ())

theorem traces_announce (event : Progress) :
    Traces guest (Asked guest n) ((oracle.crew attempts).announce event)
      (Calls [.announce event]) :=
  traces_done oracle n guest (.announce event) fun _ => rfl

theorem traces_debug (channel : Log.Channel) (s : String) :
    Traces guest (Asked guest n) (Log.debug channel s) (Calls []) :=
  traces_nothing ()

theorem traces_createDirectory :
    Traces guest (Asked guest n) (createDirectory (oracle.crew attempts) guest)
      (Calls [.announce (.started .directory),
        .hypervisor (.makeDirectory guest (.text provisionDirectory)),
        .announce (.succeeded .directory)]) :=
  (traces_announce oracle attempts n guest _).thenCalls <|
    (traces_call oracle n guest (.hypervisor _) fun _ => rfl).thenCalls <|
    traces_announce oracle attempts n guest _

theorem traces_uploadOne (a : Artifact) :
    Traces guest (Asked guest n) (uploadOne (oracle.crew attempts) guest a)
      (Calls (uploadSteps guest a)) :=
  (traces_announce oracle attempts n guest _).thenCalls <|
    (traces_debug n guest _ _).thenCalls <|
    (traces_call oracle n guest (.hypervisor _) fun _ => rfl).thenCalls <|
    traces_announce oracle attempts n guest _

theorem traces_uploadAll (list : List Artifact) :
    Traces guest (Asked guest n) (uploadAll (oracle.crew attempts) guest list)
      (Calls (list.flatMap (uploadSteps guest))) := by
  induction list with
  | nil => exact traces_nothing ()
  | cons a list ih => exact (traces_uploadOne oracle attempts n guest a).thenCalls ih

/-! Logging everybody out. -/

/-- The calls that start the script and wait for its end. -/
def LogoutPlan (guest : Guest) (_ : Unit) (made : List Entry) : Prop :=
  ∃ pid code, made = [⟨logoutStart guest, .ok pid⟩,
    ⟨.hypervisor (.waitForExit guest pid), .ok code⟩]

/-- What is looked at once the script has ended. -/
theorem logout_end (pid code : Value) (h : History) :
    let tail : Action History Unit := do
      let pidText ← Action.ofFault pid.written
      let codeText ← Action.ofFault code.written
      Log.debug .guest s!"Guest process {pidText} exited with code {codeText}"
      if code.isZero then pure () else Action.fail (.guestExit code)
    (tail.wrap .logout).eval h = (pure () : Action History Unit).eval h ∨
      ∃ stop, (tail.wrap .logout).eval h = (.error stop, h) ∧
        Blames guest ⟨.hypervisor (.waitForExit guest pid), .ok code⟩ stop := by
  intro tail
  cases hp : pid.isWritable with
  | false =>
    refine .inr ⟨_, ?_, .unwrittenExit pid code (.inl hp)⟩
    simp only [tail, Value.written, hp]
    rfl
  | true =>
    cases hc : code.isWritable with
    | false =>
      refine .inr ⟨_, ?_, .unwrittenExit pid code (.inr hc)⟩
      simp only [tail, Value.written, hp, hc]
      rfl
    | true =>
      cases hz : code.isZero with
      | false =>
        refine .inr ⟨_, ?_, .exited pid code hz⟩
        simp only [tail, Value.written, hp, hc, hz]
        rfl
      | true =>
        refine .inl ?_
        simp only [tail, Value.written, hp, hc, hz]
        rfl

theorem traces_logout :
    Traces guest (Asked guest n)
      ((guest.runScript (oracle.crew attempts).hypervisor logoffScript).wrap .logout)
      (LogoutPlan guest) := by
  have hstart : Makes oracle (logoutStart guest) ((oracle.consult (logoutStart guest)).wrap .logout) :=
    makes_logout oracle _ (fun _ => rfl) (fun _ => rfl) rfl
  have hwait : ∀ pid, Makes oracle (.hypervisor (.waitForExit guest pid))
      ((oracle.consult (.hypervisor (.waitForExit guest pid))).wrap .logout) :=
    fun pid => makes_logout oracle _ (fun _ => rfl) (fun _ => rfl) rfl
  have hrest : ∀ pid, Traces guest (Asked guest n) _ _ := fun pid =>
    Traces.checked (hwait pid) (fun _ => Traces.pure ()) (fun code h => logout_end guest pid code h)
      fun e second => asked_append [e]
  have h : Traces guest (Asked guest n) _ _ :=
    (Traces.call hstart).bind hrest fun _ u v _ => asked_append u
  simp only [← Action.wrap_bind] at h
  refine Traces.mono ?_ h
  rintro _ made ⟨pid, first, second, rfl, ⟨code, u, v, rfl, ⟨-, rfl⟩, rfl⟩, rfl⟩
  exact ⟨pid, code, rfl⟩

/-! Waiting for the guest to be off. -/

/-- What follows a look is told by its answer. -/
def Tells (guest : Guest) (look next : Entry) : Prop :=
  ∀ off, look = ⟨.hypervisor (.isPoweredOff guest.inventoryPath), .ok off⟩ →
    next.step = .announce (if off.isTruthy then .shutDown else .stillPreparing)

theorem tells_of_other {guest : Guest} {e : Entry}
    (he : e.step ≠ .hypervisor (.isPoweredOff guest.inventoryPath)) (next : Entry) :
    Tells guest e next := by
  rintro off rfl
  exact absurd rfl he

/-- Calls other than looks, before calls that tell what was seen. -/
theorem chain_of_other {guest : Guest} {first second : List Entry}
    (hfirst : .hypervisor (.isPoweredOff guest.inventoryPath) ∉ steps first)
    (hsecond : second.IsChain (Tells guest)) : (first ++ second).IsChain (Tells guest) := by
  induction first with
  | nil => exact hsecond
  | cons e first ih =>
    rw [steps_cons, List.mem_cons, not_or] at hfirst
    exact .cons (ih hfirst.2) fun next _ => tells_of_other (Ne.symm hfirst.1) next

/-- One look, and the word about it if the guest is not off. -/
def LookPlan (guest : Guest) (off : Value) (made : List Entry) : Prop :=
  ∃ told, made = ⟨.hypervisor (.isPoweredOff guest.inventoryPath), .ok off⟩ :: told ∧
    steps told = if off.isTruthy then [] else [.announce .stillPreparing]

/-- Looks up to the one at which the guest is off. -/
def LooksPlan (guest : Guest) (_ : Unit) (made : List Entry) : Prop :=
  ∃ looks vain off, made = vain ++ [⟨.hypervisor (.isPoweredOff guest.inventoryPath), .ok off⟩] ∧
    steps vain = (List.replicate looks (lookSteps guest)).flatten ∧ made.IsChain (Tells guest) ∧
    off.isTruthy

theorem traces_isOff (limit : List Entry → Prop) :
    Traces guest limit (isOff (oracle.crew attempts) guest) (LookPlan guest) := by
  have hcall : Traces guest limit _ _ := Traces.call (makes_consult oracle
    (.hypervisor (.isPoweredOff guest.inventoryPath)) fun _ => rfl)
  have htold : Traces guest (fun _ => False) _ _ := Traces.call
    (makes_consult oracle (.announce .stillPreparing) fun _ => rfl)
  have hrest : ∀ off : Value, Traces guest (fun _ => False)
      (if off.isTruthy then pure off else do
        (oracle.crew attempts).announce .stillPreparing
        pure off : Action History Value)
      (fun v made =>
        v = off ∧ steps made = if off.isTruthy then [] else [.announce .stillPreparing]) := by
    intro off
    cases hoff : off.isTruthy with
    | true =>
      refine (Traces.pure off).mono ?_
      rintro v made ⟨rfl, rfl⟩
      exact ⟨rfl, rfl⟩
    | false =>
      have hdone : Traces guest (fun _ => False) _ _ :=
        (htold.bind (fun _ => Traces.pure ()) fun _ _ _ _ h => h).bind
          (fun _ => Traces.pure off) fun _ _ _ _ h => h
      refine Traces.mono ?_ hdone
      rintro v made ⟨_, u, _, ⟨_, w, _, rfl, ⟨-, rfl⟩, rfl⟩, ⟨rfl, rfl⟩, rfl⟩
      exact ⟨rfl, rfl⟩
  refine Traces.mono ?_ (hcall.bind hrest fun _ _ _ _ h => h.elim)
  rintro v made ⟨off, first, second, rfl, ⟨rfl, hsecond⟩, rfl⟩
  exact ⟨second, rfl, hsecond⟩

/-- A look in vain, with more looks behind it. -/
theorem looksPlan_cons {guest : Guest} {off : Value} {first second : List Entry}
    (hoff : off.isTruthy = false) (hfirst : LookPlan guest off first)
    (hsecond : LooksPlan guest () second) : LooksPlan guest () (first ++ second) := by
  obtain ⟨told, rfl, htold⟩ := hfirst
  obtain ⟨looks, vain, last, rfl, hvain, hchain, hlast⟩ := hsecond
  rw [hoff] at htold
  obtain ⟨e, rfl, he⟩ : ∃ e, told = [e] ∧ e.step = .announce .stillPreparing := by
    cases told with
    | nil => simp [steps] at htold
    | cons e rest => exact ⟨e, by simpa [steps, and_comm] using htold⟩
  refine ⟨looks + 1, _ :: e :: vain, last, rfl, ?_, ?_, hlast⟩
  · rw [List.replicate_succ, List.flatten_cons, ← hvain, lookSteps, ← he]
    rfl
  · have hother : ∀ next, Tells guest e next := tells_of_other (by rw [he]; simp)
    have htells : Tells guest ⟨.hypervisor (.isPoweredOff guest.inventoryPath), .ok off⟩ e := by
      intro v hv
      obtain rfl : off = v := by simpa using hv
      simpa [hoff] using he
    exact .cons_cons htells (.cons hchain fun next _ => hother next)

/-- At most `k` looks; all of them were in vain where nothing is settled. -/
theorem traces_looks (k : Nat) :
    Traces guest (fun made => steps made = (List.replicate k (lookSteps guest)).flatten)
      (Polling.askUntil (isOff (oracle.crew attempts) guest) k) (LooksPlan guest) := by
  induction k with
  | zero =>
    obtain ⟨whole, hp, hs⟩ : ∃ whole, LooksPlan guest () whole ∧ ∀ e ∈ whole, e.Succeeded :=
      ⟨_, ⟨0, [], .bool true, rfl, rfl, .singleton _, rfl⟩, by simp [Entry.Succeeded]⟩
    exact ⟨⟨(), whole, hp, hs⟩, fun h => ⟨[], by rw [List.append_nil]; rfl,
      .unsettled [] () whole hp hs List.nil_prefix rfl⟩⟩
  | succ k ih =>
    have hrest : ∀ off : Value, Traces guest
        (fun made => off.isTruthy = false ∧ steps made = (List.replicate k (lookSteps guest)).flatten)
        (if off.isTruthy then pure () else
          Polling.askUntil (isOff (oracle.crew attempts) guest) k : Action History Unit)
        (fun _ made => if off.isTruthy then made = [] else LooksPlan guest () made) := by
      intro off
      cases hoff : off.isTruthy with
      | true =>
        refine (Traces.pure ()).mono ?_
        rintro _ made ⟨-, rfl⟩
        rfl
      | false => simpa using ih
    refine Traces.mono ?_ ((traces_isOff oracle attempts guest _).bind hrest ?_)
    · rintro _ made ⟨off, first, second, hfirst, hsecond, rfl⟩
      cases hoff : off.isTruthy with
      | true =>
        obtain ⟨told, rfl, htold⟩ := hfirst
        rw [hoff] at htold hsecond
        obtain rfl : told = [] := List.map_eq_nil_iff.mp htold
        obtain rfl : second = [] := hsecond
        exact ⟨0, [], off, rfl, rfl, .singleton _, hoff⟩
      | false =>
        rw [hoff] at hsecond
        exact looksPlan_cons hoff hfirst hsecond
    · rintro off first second ⟨told, rfl, htold⟩ ⟨hoff, hsecond⟩
      rw [hoff] at htold
      rw [steps_append, hsecond, List.replicate_succ, List.flatten_cons, lookSteps, steps,
        List.map_cons, ← steps, htold]
      rfl

/-- All calls from the first look on. -/
def ShutdownPlan (guest : Guest) (_ : Unit) (made : List Entry) : Prop :=
  ∃ looks, steps made = shutdownSteps guest looks ∧ made.IsChain (Tells guest)

theorem looksPlan_shutDown {guest : Guest} {made last : List Entry} (h : LooksPlan guest () made)
    (hlast : steps last = [.announce .shutDown]) : ShutdownPlan guest () (made ++ last) := by
  obtain ⟨looks, vain, off, rfl, hvain, hchain, hoff⟩ := h
  refine ⟨looks, ?_, hchain.append ?_ ?_⟩
  · rw [steps_append, steps_append, hvain, hlast, List.append_assoc]
    rfl
  · cases last with
    | nil => exact .nil
    | cons e rest =>
      obtain rfl : rest = [] := by simpa [steps] using (List.cons.inj hlast).2
      exact .singleton e
  · intro x hx e he v hv
    obtain rfl : off = v := by simpa [hv] using hx
    have hmem : e ∈ last := List.mem_of_mem_head? he
    have hstep : e.step ∈ steps last := List.mem_map_of_mem hmem
    rw [hlast] at hstep
    simpa [hoff] using hstep

theorem traces_awaitShutdown :
    Traces guest (Asked guest attempts) (awaitShutdown (oracle.crew attempts) guest)
      (After [.poll shutdownInterval] (ShutdownPlan guest)) := by
  have hpoll : Traces guest (Asked guest attempts)
      ((oracle.crew attempts).poll shutdownInterval (isOff (oracle.crew attempts) guest))
      (After [.poll shutdownInterval] (LooksPlan guest)) := by
    refine Traces.mono ?_ ((traces_call oracle attempts guest (.poll shutdownInterval)
      fun _ => rfl).bind (fun _ => traces_looks oracle attempts guest attempts) ?_)
    · rintro _ made ⟨_, first, second, hfirst, hsecond, rfl⟩
      exact ⟨first, second, hfirst, hsecond, rfl⟩
    · intro _ first second _ hsecond
      exact asked_append first ⟨[], hsecond.symm⟩
  refine Traces.mono ?_ (hpoll.bind (fun _ => traces_announce oracle attempts attempts guest .shutDown)
    fun _ u v _ => asked_append u)
  rintro _ made ⟨_, _, last, ⟨first, second, hfirst, hsecond, rfl⟩, hlast, rfl⟩
  exact ⟨first, second ++ last, hfirst, looksPlan_shutDown hsecond hlast, by rw [List.append_assoc]⟩

/-! The whole preparation. -/

/-- What is asked and looked at before the guest is touched. -/
theorem traces_version {k : Value → Action History Unit} {q : Value → Unit → List Entry → Prop}
    (hk : ∀ version, Traces guest (Asked guest n) (k version) (q version)) :
    Traces guest (Asked guest n)
      (do
        let version ← oracle.consult .version
        let path ← Action.ofFault guest.inventoryPath.written
        let versionText ← Action.ofFault version.written
        Log.debug .construction s!"Preparing {path} with stembuild {versionText}"
        k version)
      (andThen (fun version made => made = [⟨.version, .ok version⟩]) q) := by
  refine Traces.checked (makes_consult oracle .version fun _ => rfl) hk ?_
    fun e second => asked_append [e]
  intro version h
  cases hp : guest.inventoryPath.isWritable with
  | false =>
    refine .inr ⟨_, ?_, .unwritten version (.inl hp)⟩
    simp only [Value.written, hp]
    rfl
  | true =>
    cases hv : version.isWritable with
    | false =>
      refine .inr ⟨_, ?_, .unwritten version (.inr hv)⟩
      simp only [Value.written, hp, hv]
      rfl
    | true =>
      refine .inl ?_
      simp only [Value.written, hp, hv]
      rfl

/-- All calls of a preparation. -/
def PreparePlan (guest : Guest) : Unit → List Entry → Prop :=
  andThen (fun version made => made = [⟨.version, .ok version⟩]) fun version =>
    After (openingSteps guest) <| andThen (LogoutPlan guest) fun _ =>
      After (setupSteps version) (ShutdownPlan guest)

theorem traces_prepare :
    Traces guest (Asked guest attempts) (prepare (oracle.crew attempts) guest)
      (PreparePlan guest) := by
  have announce := traces_announce oracle attempts attempts guest
  have remote : ∀ call, Traces guest (Asked guest attempts) ((oracle.crew attempts).remote call)
      (Calls [.remote call]) :=
    fun call => traces_call oracle attempts guest (.remote call) fun _ => rfl
  refine traces_version oracle attempts guest fun version => ?_
  refine (traces_createDirectory oracle attempts attempts guest).then <|
    (announce _).then <| (traces_uploadAll oracle attempts attempts guest artifacts).then <|
    (announce _).then <| (announce _).then <|
    (traces_done oracle attempts guest .enable fun _ => rfl).then <|
    (announce _).then <| (announce _).then <|
    (traces_done oracle attempts guest .validate fun _ => rfl).then <|
    (announce _).then <| (announce _).then <| (remote _).then <|
    (announce _).then <| (announce _).then <|
    ((traces_logout oracle attempts attempts guest).bind (fun _ => ?_)
      fun _ u v _ => asked_append u).after
  exact (announce _).then <| (announce _).then <| (remote _).then <| (announce _).then <|
    (announce _).then <| traces_awaitShutdown oracle attempts guest

/-- What a step came to, if it occurs once. -/
theorem ok_unique (first rest : List Entry) {step : Step} {v x : Value}
    (hfirst : step ∉ steps first) (hrest : step ∉ steps rest)
    (hv : ⟨step, .ok v⟩ ∈ first ++ ⟨step, .ok x⟩ :: rest) : v = x := by
  rcases List.mem_append.mp hv with h | h
  · exact absurd (List.mem_map_of_mem h) hfirst
  · rcases List.mem_cons.mp h with h | h
    · simpa using h
    · exact absurd (List.mem_map_of_mem h) hrest

/-- What the canonical trace does not tell: in these calls the version is asked for once, one script
is started in the guest, and the user is told what was seen. -/
structure Consistent (guest : Guest) (version pid : Value) (made : List Entry) : Prop where
  version : ∀ v, ⟨.version, .ok v⟩ ∈ made → v = version
  pid : ∀ v, ⟨logoutStart guest, .ok v⟩ ∈ made → v = pid
  tells : made.IsChain (Tells guest)

theorem plan_canonical {guest : Guest} {whole : List Entry} (h : PreparePlan guest () whole) :
    ∃ version pid looks, steps whole = canonical guest version pid looks ∧
      Consistent guest version pid whole := by
  obtain ⟨version, _, _, rfl, ⟨opening, _, hopening, ⟨_, _, _, ⟨pid, code, rfl⟩,
    ⟨setup, shutdown, hsetup, ⟨looks, hshutdown, hchain⟩, rfl⟩, rfl⟩, rfl⟩, rfl⟩ := h
  refine ⟨version, pid, looks, ?_, fun v hv => ?_, fun v hv => ?_, ?_⟩
  · simp only [steps_append, hopening, hsetup, hshutdown, canonical, List.append_assoc]
    rfl
  · rw [List.singleton_append] at hv
    refine ok_unique [] _ List.not_mem_nil ?_ hv
    simp [hopening, hsetup, hshutdown, logoutStart, openingSteps, uploadSteps, artifacts, setupSteps,
      shutdownSteps, lookSteps]
  · refine ok_unique (⟨.version, .ok version⟩ :: opening) _ ?_ ?_ hv
    · simp [hopening, logoutStart, openingSteps, uploadSteps, artifacts]
    · simp [hsetup, hshutdown, logoutStart, setupSteps, shutdownSteps, lookSteps]
  · rw [← List.append_assoc, ← List.append_assoc, ← List.append_assoc]
    refine chain_of_other ?_ hchain
    simp [hopening, hsetup, logoutStart, openingSteps, uploadSteps, artifacts, setupSteps]

/-- A call that fails in its place leaves the calls consistent. -/
theorem Consistent.cut {guest : Guest} {version pid : Value} {whole before : List Entry} {last : Entry}
    (h : Consistent guest version pid whole) (hb : before <+: whole)
    (hl : steps (before ++ [last]) <+: steps whole)
    (hw : last.Succeeded → before ++ [last] <+: whole) :
    Consistent guest version pid (before ++ [last]) := by
  have hmem : ∀ e ∈ before ++ [last], e.Succeeded → e ∈ whole := by
    intro e he hs
    rcases List.mem_append.mp he with he | he
    · exact hb.subset he
    · obtain rfl : e = last := by simpa using he
      exact (hw hs).subset (by simp)
  refine ⟨fun v hv => h.version v (hmem _ hv ⟨v, rfl⟩), fun v hv => h.pid v (hmem _ hv ⟨v, rfl⟩), ?_⟩
  obtain ⟨t, rfl⟩ := hb
  rw [steps_append, steps_append, List.prefix_append_right_inj] at hl
  obtain ⟨e, rest, rfl, he⟩ : ∃ e rest, t = e :: rest ∧ e.step = last.step := by
    cases t with
    | nil => simp at hl
    | cons e rest => exact ⟨e, rest, rfl, by simpa [eq_comm] using hl⟩
  obtain ⟨hbefore, -, htells⟩ := List.isChain_append.mp h.tells
  refine hbefore.append (.singleton last) fun x hx y hy off hoff => ?_
  obtain rfl : last = y := by simpa using hy
  rw [← he]
  exact htells x hx e rfl off hoff

theorem Consistent.beginning {guest : Guest} {version pid : Value} {whole made : List Entry}
    (h : Consistent guest version pid whole) (hm : made <+: whole) :
    Consistent guest version pid made :=
  ⟨fun v hv => h.version v (hm.subset hv), fun v hv => h.pid v (hm.subset hv), h.tells.prefix hm⟩

/-- Whatever the calls of a preparation come to, they are the beginning of a canonical trace; the
whole trace if the preparation succeeds. If it stops, all calls before the last one have succeeded,
and the last one accounts for what stopped it, unless the guest was not off at any of as many looks
as are allowed. -/
theorem prepare_follows_canonical :
    let run := (prepare (oracle.crew attempts) guest).eval {}
    ∃ version pid looks,
      steps run.2.entries <+: canonical guest version pid looks ∧
      Consistent guest version pid run.2.entries ∧
      (run.1 = .ok () → steps run.2.entries = canonical guest version pid looks ∧
        ∀ e ∈ run.2.entries, e.Succeeded) ∧
      ∀ stop, run.1 = .error stop →
        (∃ before last, run.2.entries = before ++ [last] ∧ (∀ e ∈ before, e.Succeeded) ∧
          Blames guest last stop) ∨
        (stop = .unsettled ∧ (∀ e ∈ run.2.entries, e.Succeeded) ∧
          Asked guest attempts run.2.entries) := by
  intro run
  obtain ⟨made, hstate, hends⟩ := (traces_prepare oracle attempts guest).ends {}
  have hentries : run.2.entries = made := by rw [show run.2 = _ from hstate]; rfl
  change Ends _ _ _ run.1 made at hends
  rw [hentries]
  generalize run.1 = outcome at hends ⊢
  cases hends with
  | done x made hp hs =>
    obtain ⟨version, pid, looks, hsteps, hc⟩ := plan_canonical hp
    exact ⟨version, pid, looks, hsteps ▸ List.prefix_refl _, hc, fun _ => ⟨hsteps, hs⟩, by simp⟩
  | stopped stop before last x whole hp hs hb hl hw blame =>
    obtain ⟨version, pid, looks, hsteps, hc⟩ := plan_canonical hp
    refine ⟨version, pid, looks, by rwa [← hsteps], hc.cut hb hl hw, by simp, ?_⟩
    rintro _ ⟨⟩
    exact .inl ⟨before, last, rfl, fun e he => hs e (hb.subset he), blame⟩
  | unsettled made x whole hp hs hm hlimit =>
    obtain ⟨version, pid, looks, hsteps, hc⟩ := plan_canonical hp
    refine ⟨version, pid, looks, ?_, hc.beginning hm, by simp, ?_⟩
    · rw [← hsteps]
      exact hm.map Entry.step
    · rintro _ ⟨⟩
      exact .inr ⟨rfl, fun e he => hs e (hm.subset he), hlimit⟩

end Stemcell.Construct
