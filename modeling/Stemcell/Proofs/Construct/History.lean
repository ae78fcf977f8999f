import Stemcell.Construct
import Stemcell.Proofs.Action

/-! The calls that a preparation makes, when every call may come to anything. What a call comes to
is laid down for the calls made before it, so all runs of all crews are met. -/
namespace Stemcell.Construct

/-- A call and what it came to. -/
structure Entry where
  step : Step
  outcome : Outcome Value

def Entry.Succeeded (e : Entry) : Prop := ∃ v, e.outcome = .ok v

def steps (entries : List Entry) : List Step := entries.map Entry.step

/-- The calls made so far, in order. Log records leave no trace here. -/
structure History where
  entries : List Entry := []

instance : Log.Sink History where
  write _ := pure ()

/-- What each call comes to behind the calls made before. -/
abbrev Oracle := List Entry → Step → Outcome Value

def Oracle.consult (oracle : Oracle) (step : Step) : Action History Value := .ofEval fun h =>
  (oracle h.entries step, ⟨h.entries ++ [⟨step, oracle h.entries step⟩]⟩)

/-- The crew that an oracle speaks for. Its poller asks until the answer is yes, at most `attempts`
times. -/
def Oracle.crew (oracle : Oracle) (attempts : Nat) : Crew History where
  version := oracle.consult .version
  hypervisor call := oracle.consult (.hypervisor call)
  remote call := oracle.consult (.remote call)
  enable := do let _ ← oracle.consult .enable
  validate := do let _ ← oracle.consult .validate
  announce event := do let _ ← oracle.consult (.announce event)
  poll interval condition := do
    let _ ← oracle.consult (.poll interval)
    Polling.askUntil condition attempts

@[simp] theorem steps_nil : steps [] = [] := rfl

@[simp] theorem steps_cons (e : Entry) (l : List Entry) : steps (e :: l) = e.step :: steps l := rfl

@[simp] theorem steps_append (u v : List Entry) : steps (u ++ v) = steps u ++ steps v :=
  List.map_append

/-! Why a run stops. -/

/-- What stops a call, as it leaves the preparation: only a failure on the way of logging everybody
out is told in other words. -/
def passedOn : Step → Stop → Stop
  | .hypervisor (.start ..), .failure f => .failure (.logout f)
  | .hypervisor (.waitForExit ..), .failure f => .failure (.logout f)
  | _, stop => stop

/-- The last call of a run accounts for what stopped the run. -/
inductive Blames (guest : Guest) : Entry → Stop → Prop where
  | raised (step : Step) (stop : Stop) : Blames guest ⟨step, .error stop⟩ (passedOn step stop)
  /-- The path or the version cannot be put into a record. -/
  | unwritten (version : Value)
    (h : guest.inventoryPath.isWritable = false ∨ version.isWritable = false) :
    Blames guest ⟨.version, .ok version⟩ (.failure (.fault .tooLargeToWrite))
  /-- The script that logs everybody out ended with another code than zero. -/
  | exited (pid code : Value) (h : code.isZero = false) :
    Blames guest ⟨.hypervisor (.waitForExit guest pid), .ok code⟩
      (.failure (.logout (.guestExit code)))
  /-- Its number or its code cannot be put into a record. -/
  | unwrittenExit (pid code : Value) (h : pid.isWritable = false ∨ code.isWritable = false) :
    Blames guest ⟨.hypervisor (.waitForExit guest pid), .ok code⟩
      (.failure (.logout (.fault .tooLargeToWrite)))

/-! What a part of a run comes to, with the calls it makes. -/

variable {α β : Type}

/-- A part of a run has made all calls of its plan, or was stopped at the one that accounts for it,
or has asked as often as it may, which `limit` tells from the calls made. In each case all calls
before have succeeded, and what is not done could have been. -/
inductive Ends (guest : Guest) (limit : List Entry → Prop) (plan : α → List Entry → Prop) :
    Outcome α → List Entry → Prop where
  | done (x : α) (made : List Entry) (hp : plan x made) (hs : ∀ e ∈ made, e.Succeeded) :
    Ends guest limit plan (.ok x) made
  | stopped (stop : Stop) (before : List Entry) (last : Entry) (x : α) (whole : List Entry)
    (hp : plan x whole) (hs : ∀ e ∈ whole, e.Succeeded) (hb : before <+: whole)
    (hl : steps (before ++ [last]) <+: steps whole)
    (hw : last.Succeeded → before ++ [last] <+: whole) (blame : Blames guest last stop) :
    Ends guest limit plan (.error stop) (before ++ [last])
  | unsettled (made : List Entry) (x : α) (whole : List Entry) (hp : plan x whole)
    (hs : ∀ e ∈ whole, e.Succeeded) (hm : made <+: whole) (hl : limit made) :
    Ends guest limit plan (.error .unsettled) made

/-- From every history on, the calls of this part follow the plan, which can be gone through. -/
structure Traces (guest : Guest) (limit : List Entry → Prop) (a : Action History α)
    (plan : α → List Entry → Prop) : Prop where
  possible : ∃ x whole, plan x whole ∧ ∀ e ∈ whole, e.Succeeded
  ends : ∀ h, ∃ made, (a.eval h).2 = ⟨h.entries ++ made⟩ ∧ Ends guest limit plan (a.eval h).1 made

variable {guest : Guest} {limit : List Entry → Prop}

theorem succeeded_append {u v : List Entry} (hu : ∀ e ∈ u, e.Succeeded)
    (hv : ∀ e ∈ v, e.Succeeded) : ∀ e ∈ u ++ v, e.Succeeded := by
  intro e he
  rcases List.mem_append.mp he with h | h
  · exact hu e h
  · exact hv e h

theorem Ends.mono {p q : α → List Entry → Prop} {outcome : Outcome α} {made : List Entry}
    (hpq : ∀ x l, p x l → q x l) (h : Ends guest limit p outcome made) :
    Ends guest limit q outcome made := by
  cases h with
  | done x made hp hs => exact .done x made (hpq x made hp) hs
  | stopped stop before last x whole hp hs hb hl hw blame =>
    exact .stopped stop before last x whole (hpq x whole hp) hs hb hl hw blame
  | unsettled made x whole hp hs hm hl => exact .unsettled made x whole (hpq x whole hp) hs hm hl

theorem Traces.mono {a : Action History α} {p q : α → List Entry → Prop}
    (hpq : ∀ x l, p x l → q x l) (h : Traces guest limit a p) : Traces guest limit a q := by
  obtain ⟨x, whole, hp, hs⟩ := h.possible
  refine ⟨⟨x, whole, hpq x whole hp, hs⟩, fun past => ?_⟩
  obtain ⟨made, hstate, hends⟩ := h.ends past
  exact ⟨made, hstate, hends.mono hpq⟩

/-- One plan after the other. -/
def andThen (p : α → List Entry → Prop) (q : α → β → List Entry → Prop) (y : β)
    (made : List Entry) : Prop :=
  ∃ x first second, p x first ∧ q x y second ∧ made = first ++ second

/-- A first part that does not come to its end leaves the second one undone. -/
theorem Ends.cut {p : α → List Entry → Prop} {q : α → β → List Entry → Prop} {stop : Stop}
    {made : List Entry} (h : Ends guest limit p (.error stop) made)
    (hq : ∀ x, ∃ y whole, q x y whole ∧ ∀ e ∈ whole, e.Succeeded) :
    Ends guest limit (andThen p q) (.error stop) made := by
  cases h with
  | stopped stop before last x whole hp hs hb hl hw blame =>
    obtain ⟨y, more, hy, hmore⟩ := hq x
    have hmade := List.prefix_append whole more
    refine .stopped stop before last y (whole ++ more) ⟨x, whole, more, hp, hy, rfl⟩
      (succeeded_append hs hmore) (hb.trans hmade) ?_ (fun h => (hw h).trans hmade) blame
    rw [steps_append whole more]
    exact hl.trans (List.prefix_append _ _)
  | unsettled made x whole hp hs hm hl =>
    obtain ⟨y, more, hy, hmore⟩ := hq x
    exact .unsettled made y (whole ++ more) ⟨x, whole, more, hp, hy, rfl⟩
      (succeeded_append hs hmore) (hm.trans (List.prefix_append whole more)) hl

theorem Ends.after {p : α → List Entry → Prop} {q : α → β → List Entry → Prop} {x : α}
    {first second : List Entry} {outcome : Outcome β} {limit' : List Entry → Prop}
    (hp : p x first) (hfirst : ∀ e ∈ first, e.Succeeded) (hlimit : limit' second → limit (first ++ second))
    (h : Ends guest limit' (q x) outcome second) :
    Ends guest limit (andThen p q) outcome (first ++ second) := by
  cases h with
  | done y second hq hs =>
    exact .done y _ ⟨x, first, second, hp, hq, rfl⟩ (succeeded_append hfirst hs)
  | stopped stop before last y whole hq hs hb hl hw blame =>
    rw [← List.append_assoc]
    refine .stopped stop (first ++ before) last y (first ++ whole) ⟨x, first, whole, hp, hq, rfl⟩
      (succeeded_append hfirst hs) ((List.prefix_append_right_inj first).mpr hb) ?_ ?_ blame
    · rw [List.append_assoc, steps_append first, steps_append first]
      exact (List.prefix_append_right_inj _).mpr hl
    · intro h
      rw [List.append_assoc]
      exact (List.prefix_append_right_inj first).mpr (hw h)
  | unsettled second y whole hq hs hm hl =>
    exact .unsettled _ y (first ++ whole) ⟨x, first, whole, hp, hq, rfl⟩
      (succeeded_append hfirst hs) ((List.prefix_append_right_inj first).mpr hm) (hlimit hl)

theorem Traces.bind {a : Action History α} {k : α → Action History β} {p : α → List Entry → Prop}
    {q : α → β → List Entry → Prop} {limit' : α → List Entry → Prop} (ha : Traces guest limit a p)
    (hk : ∀ x, Traces guest (limit' x) (k x) (q x))
    (hlimit : ∀ x first second, p x first → limit' x second → limit (first ++ second)) :
    Traces guest limit (a >>= k) (andThen p q) := by
  constructor
  · obtain ⟨x, first, hp, hfirst⟩ := ha.possible
    obtain ⟨y, second, hq, hsecond⟩ := (hk x).possible
    exact ⟨y, first ++ second, ⟨x, first, second, hp, hq, rfl⟩, succeeded_append hfirst hsecond⟩
  · intro h
    obtain ⟨first, hstate, hends⟩ := ha.ends h
    rw [Action.eval_bind]
    generalize a.eval h = result at hstate hends ⊢
    obtain ⟨outcome, now⟩ := result
    obtain rfl : now = ⟨h.entries ++ first⟩ := hstate
    cases outcome with
    | error stop => exact ⟨first, rfl, hends.cut fun x => (hk x).possible⟩
    | ok x =>
      obtain ⟨second, hstate', hends'⟩ := (hk x).ends ⟨h.entries ++ first⟩
      cases hends with
      | done _ _ hp hs =>
        refine ⟨first ++ second, ?_, hends'.after hp hs (hlimit x first second hp)⟩
        rw [← List.append_assoc]
        exact hstate'

theorem Traces.pure (x : α) :
    Traces guest limit (pure x : Action History α) (fun y made => y = x ∧ made = []) :=
  ⟨⟨x, [], ⟨rfl, rfl⟩, by simp⟩, fun h => ⟨[], by simp, .done x [] ⟨rfl, rfl⟩ (by simp)⟩⟩

/-! Single calls. -/

/-- The action makes the call and passes on what stops it. -/
def Makes (oracle : Oracle) (step : Step) (a : Action History Value) : Prop :=
  ∀ h, a.eval h = ((oracle h.entries step).mapError (passedOn step),
    ⟨h.entries ++ [⟨step, oracle h.entries step⟩]⟩)

theorem makes_consult (oracle : Oracle) (step : Step) (h : ∀ stop, passedOn step stop = stop) :
    Makes oracle step (oracle.consult step) := by
  intro past
  have hid : passedOn step = id := funext h
  rw [Oracle.consult, Action.eval_ofEval, hid]
  cases oracle past.entries step <;> rfl

theorem makes_logout (oracle : Oracle) (step : Step)
    (h : ∀ f, passedOn step (.failure f) = .failure (.logout f))
    (h' : ∀ i, passedOn step (.interrupt i) = .interrupt i)
    (h'' : passedOn step .unsettled = .unsettled) :
    Makes oracle step ((oracle.consult step).wrap .logout) := by
  intro past
  rw [Action.wrap, Action.eval_orElse, Oracle.consult, Action.eval_ofEval]
  cases oracle past.entries step with
  | ok v => rfl
  | error stop =>
    cases stop with
    | failure f =>
      change (Except.error _, _) = (Except.error (passedOn step (.failure f)), _)
      rw [h]
    | interrupt i =>
      change (Except.error _, _) = (Except.error (passedOn step (.interrupt i)), _)
      rw [h']
    | unsettled =>
      change (Except.error _, _) = (Except.error (passedOn step .unsettled), _)
      rw [h'']

/-- A call whose result is looked at before it is used: either the run goes on, or it stops at once
and the call accounts for it. -/
theorem Traces.checked {oracle : Oracle} {step : Step} {a : Action History Value}
    {c k : Value → Action History β} {q : Value → β → List Entry → Prop}
    (ha : Makes oracle step a) (hk : ∀ v, Traces guest limit (k v) (q v))
    (hc : ∀ v h, (c v).eval h = (k v).eval h ∨
      ∃ stop, (c v).eval h = (.error stop, h) ∧ Blames guest ⟨step, .ok v⟩ stop)
    (hlimit : ∀ e second, limit second → limit (e :: second)) :
    Traces guest limit (a >>= c) (andThen (fun v made => made = [⟨step, .ok v⟩]) q) := by
  have hone : ∀ v, ∀ e ∈ [(⟨step, .ok v⟩ : Entry)], e.Succeeded := by simp [Entry.Succeeded]
  constructor
  · obtain ⟨y, second, hq, hsecond⟩ := (hk .null).possible
    exact ⟨y, _, ⟨.null, _, second, rfl, hq, rfl⟩, succeeded_append (hone .null) hsecond⟩
  · intro h
    have heval := Action.eval_bind a c h
    rw [ha h] at heval
    cases ho : oracle h.entries step with
    | error raised =>
      obtain ⟨y, more, hy, hmore⟩ := (hk .null).possible
      rw [heval, ho]
      refine ⟨[⟨step, .error raised⟩], rfl, .stopped _ [] _ y ([⟨step, .ok .null⟩] ++ more)
        ⟨.null, _, more, rfl, hy, rfl⟩ (succeeded_append (hone .null) hmore) List.nil_prefix ?_ ?_
        (.raised step raised)⟩
      · simp [steps]
      · rintro ⟨v, hv⟩
        simp at hv
    | ok v =>
      replace heval : (a >>= c).eval h = (c v).eval ⟨h.entries ++ [⟨step, .ok v⟩]⟩ := by
        rw [heval, ho]
        rfl
      rw [heval]
      rcases hc v ⟨h.entries ++ [⟨step, .ok v⟩]⟩ with hgo | ⟨stop, hstop, blame⟩
      · obtain ⟨second, hstate, hends⟩ := (hk v).ends ⟨h.entries ++ [⟨step, .ok v⟩]⟩
        rw [hgo]
        refine ⟨[⟨step, .ok v⟩] ++ second, ?_, hends.after rfl (hone v) (hlimit _ second)⟩
        rw [← List.append_assoc]
        exact hstate
      · obtain ⟨y, more, hy, hmore⟩ := (hk v).possible
        rw [hstop]
        exact ⟨[⟨step, .ok v⟩], rfl, .stopped stop [] _ y ([⟨step, .ok v⟩] ++ more)
          ⟨v, _, more, rfl, hy, rfl⟩ (succeeded_append (hone v) hmore) List.nil_prefix
          (by simp [steps]) (fun _ => List.prefix_append _ _) blame⟩

theorem Traces.call {oracle : Oracle} {step : Step} {a : Action History Value}
    (ha : Makes oracle step a) :
    Traces guest limit a (fun v made => made = [⟨step, .ok v⟩]) := by
  have hone : ∀ v, ∀ e ∈ [(⟨step, .ok v⟩ : Entry)], e.Succeeded := by simp [Entry.Succeeded]
  refine ⟨⟨.null, _, rfl, hone .null⟩, fun h => ?_⟩
  rw [ha h]
  cases oracle h.entries step with
  | ok v => exact ⟨_, rfl, .done v _ rfl (hone v)⟩
  | error raised =>
    refine ⟨_, rfl, .stopped _ [] ⟨step, .error raised⟩ .null [⟨step, .ok .null⟩] rfl (hone .null)
      List.nil_prefix (by simp [steps]) ?_ (.raised step raised)⟩
    rintro ⟨v, hv⟩
    simp at hv

/-! Plans that only name their steps. -/

/-- A look at a guest that is not off yet. -/
def lookSteps (guest : Guest) : List Step :=
  [.hypervisor (.isPoweredOff guest.inventoryPath), .announce .stillPreparing]

/-- The last calls are `n` such looks. -/
def Asked (guest : Guest) (n : Nat) (made : List Entry) : Prop :=
  (List.replicate n (lookSteps guest)).flatten <:+ steps made

theorem asked_append {n : Nat} (u : List Entry) {v : List Entry} (h : Asked guest n v) :
    Asked guest n (u ++ v) := by
  rw [Asked, steps_append]
  exact h.trans (List.suffix_append _ _)

/-- These steps, whatever they come to. -/
def Calls (planned : List Step) (_ : α) (made : List Entry) : Prop := steps made = planned

theorem traces_nothing (x : α) : Traces guest limit (pure x : Action History α) (Calls []) := by
  refine (Traces.pure x).mono ?_
  rintro _ made ⟨-, rfl⟩
  rfl

/-- These steps, and then another plan. -/
def After (planned : List Step) (q : β → List Entry → Prop) (y : β) (made : List Entry) : Prop :=
  ∃ first second, steps first = planned ∧ q y second ∧ made = first ++ second

theorem Traces.after {a : Action History α} {q : α → List Entry → Prop}
    (h : Traces guest limit a q) : Traces guest limit a (After [] q) :=
  h.mono fun _ made hq => ⟨[], made, rfl, hq, rfl⟩

theorem Traces.then {n : Nat} {a : Action History α} {k : Action History β}
    {first rest : List Step} {q : β → List Entry → Prop}
    (ha : Traces guest (Asked guest n) a (Calls first))
    (hk : Traces guest (Asked guest n) k (After rest q)) :
    Traces guest (Asked guest n) (a >>= fun _ => k) (After (first ++ rest) q) := by
  refine (ha.bind (fun _ => hk) fun _ u v _ => asked_append u).mono ?_
  rintro y made ⟨_, u, _, hu, ⟨v, w, hv, hw, rfl⟩, rfl⟩
  have huv : steps (u ++ v) = first ++ rest := by rw [steps_append, hv, ← hu]
  exact ⟨u ++ v, w, huv, hw, by rw [List.append_assoc]⟩

theorem Traces.thenCalls {n : Nat} {a : Action History α} {k : Action History β}
    {first rest : List Step} (ha : Traces guest (Asked guest n) a (Calls first))
    (hk : Traces guest (Asked guest n) k (Calls rest)) :
    Traces guest (Asked guest n) (a >>= fun _ => k) (Calls (first ++ rest)) := by
  refine (ha.bind (fun _ => hk) fun _ u v _ => asked_append u).mono ?_
  rintro y made ⟨_, u, v, hu, hv, rfl⟩
  rw [Calls, steps_append, hu, hv]

end Stemcell.Construct
