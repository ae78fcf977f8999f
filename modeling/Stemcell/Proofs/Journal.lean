import Mathlib.Data.List.Forall2
import Stemcell.CommandLine.Run
import Stemcell.Proofs.Assembly
import Stemcell.Proofs.Recording

/-! A journal of all that the program asks of its surroundings, in order, and of what programs came to.
It is kept beside the surroundings and changes nothing in them. -/
namespace Stemcell

inductive Event where
  | ran (request : Program.Request) (outcome : Outcome Program.Ending)
  | connected (host : Value) (port : Nat) (timeout : Value)
  /-- A session was asked for, whether or not it was opened. -/
  | opened (account : Remote.Account)
  | commanded (command : Value)
  | slept (interval : Value)
  | wrote (text : String)
  | flushed
  | logged (record : Log.Record)

/-- The program that was asked for. -/
def Event.request? : Event → Option Program.Request
  | .ran request _ => some request
  | _ => none

/-- Whether an event is more than a log record. -/
def Event.isAct : Event → Bool
  | .logged _ => false
  | _ => true

def acts (events : List Event) : List Event := events.filter Event.isAct

structure Journal (σ : Type) where
  events : List Event
  inner : σ

namespace Journal

variable {σ τ α β : Type}

/-- Does a step inside and writes down what it was. -/
def noting (event : Outcome α → Event) (a : Action σ α) : Action (Journal σ) α := .ofEval fun j =>
  let (outcome, inner) := a.eval j.inner
  (outcome, ⟨j.events ++ [event outcome], inner⟩)

/-- Does a step inside that is not worth a word. -/
def silently (a : Action σ α) : Action (Journal σ) α :=
  a.within Journal.inner fun inner j => { j with inner }

theorem eval_noting (event : Outcome α → Event) (a : Action σ α) (j : Journal σ) :
    (noting event a).eval j =
      ((a.eval j.inner).1, ⟨j.events ++ [event (a.eval j.inner).1], (a.eval j.inner).2⟩) := rfl

instance [Log.Sink σ] : Log.Sink (Journal σ) where
  write record := noting (fun _ => .logged record) (Log.Sink.write record)

end Journal

open Journal (noting silently)

def Facilities.recorded {σ : Type} (f : Facilities σ) : Facilities (Journal σ) where
  start request := noting (.ran request) (f.start request)
  link :=
    { connect := fun host port timeout =>
        noting (fun _ => .connected host port timeout) (f.link.connect host port timeout)
      session := fun account => do
        let run ← noting (fun _ => .opened account) (f.link.session account)
        pure fun command => noting (fun _ => .commanded command) (run command) }
  sleep interval := noting (fun _ => .slept interval) (f.sleep interval)
  out :=
    { write := fun s => noting (fun _ => .wrote s) (f.out.write s)
      flush := noting (fun _ => .flushed) f.out.flush }

def CommandLine.Surroundings.recorded {σ : Type} (s : Surroundings σ) : Surroundings (Journal σ) where
  facilities := s.facilities.recorded
  environ := s.environ
  files := s.files
  installed := s.installed
  patience := s.patience
  setUp verbose := silently (s.setUp verbose)
  register value := silently (s.register value)

variable {σ τ α β : Type} {R : σ → τ → Prop} {Q : α → β → Prop} {E : Event → Event → Prop}
  {base base' : List Event}

/-- What two journals say behind what they said before goes together event by event. -/
structure Journal.Related (E : Event → Event → Prop) (R : σ → τ → Prop) (base base' : List Event)
    (j : Journal σ) (j' : Journal τ) : Prop where
  events : ∃ more more', j.events = base ++ more ∧ j'.events = base' ++ more' ∧
    List.Forall₂ E more more'
  inner : R j.inner j'.inner

open Journal (Related)

theorem Journal.related_start {s : σ} {t : τ} (h : R s t) : Related E R base base' ⟨base, s⟩ ⟨base', t⟩ :=
  ⟨⟨[], [], (List.append_nil _).symm, (List.append_nil _).symm, .nil⟩, h⟩

theorem agree_noting {a : Action σ α} {b : Action τ β} {event : Outcome α → Event}
    {event' : Outcome β → Event} (h : Action.Agree R Q a b)
    (hE : ∀ o o', SameResult Q o o' → E (event o) (event' o')) :
    Action.Agree (Related E R base base') Q (noting event a) (noting event' b) := by
  rintro j j' ⟨⟨more, more', hmore, hmore', hall⟩, hinner⟩
  obtain ⟨hresult, hstates⟩ := h j.inner j'.inner hinner
  rw [Journal.eval_noting, Journal.eval_noting]
  refine ⟨hresult, ⟨_, _, ?_, ?_, List.rel_append hall (.cons (hE _ _ hresult) .nil)⟩, hstates⟩
  · rw [hmore, List.append_assoc]
  · rw [hmore', List.append_assoc]

theorem AgreeOnLog.recorded [Log.Sink σ] [Log.Sink τ] (h : Construct.AgreeOnLog R)
    (hE : ∀ e : Event, e.request? = none → E e e) :
    Construct.AgreeOnLog (Related E R base base') :=
  fun level channel s => agree_noting (h level channel s) fun _ _ _ => hE _ rfl

/-- Surroundings that agree still do where a journal is kept, and the journals go together. -/
theorem Facilities.Agree.recorded {account account' : Remote.Account}
    {requests : Program.Request → Program.Request → Prop} {f : Facilities σ} {g : Facilities τ}
    (h : f.Agree R account account' requests g)
    (hran : ∀ q q' outcome, requests q q' → E (.ran q outcome) (.ran q' outcome))
    (hopened : E (.opened account) (.opened account'))
    (hE : ∀ e : Event, e.request? = none → E e e) :
    f.recorded.Agree (Related E R base base') account account' requests g.recorded where
  start q q' hq := by
    refine agree_noting (h.start q q' hq) fun o o' ho => ?_
    rw [ho.eq]
    exact hran q q' o' hq
  connect host port timeout := agree_noting (h.connect host port timeout) fun _ _ _ => hE _ rfl
  session := by
    refine Action.Agree.bind (agree_noting h.session fun _ _ _ => hopened) fun run run' hrun => ?_
    exact Action.agree_pure fun command => agree_noting (hrun command) fun _ _ _ => hE _ rfl
  sleep interval := agree_noting (h.sleep interval) fun _ _ _ => hE _ rfl
  write s := agree_noting (h.write s) fun _ _ _ => hE _ rfl
  flush := agree_noting h.flush fun _ _ _ => hE _ rfl

/-! What a step writes down, told by what it comes to. -/

/-- From every journal on, the acts behind it are as `p` says for the outcome. -/
def Writes (a : Action (Journal σ) α) (p : Outcome α → List Event → Prop) : Prop :=
  ∀ j, ∃ more, (a.eval j).2.events = j.events ++ more ∧ p (a.eval j).1 (acts more)

/-- The acts are a record. -/
theorem writes_iff {a : Action (Journal σ) α} {p : Outcome α → List Event → Prop} :
    Writes a p ↔ Action.Appends Journal.events a fun outcome more => p outcome (acts more) :=
  ⟨fun h j _ => ⟨trivial, h j⟩, fun h j => (h j trivial).2⟩

theorem acts_append (first second : List Event) : acts (first ++ second) = acts first ++ acts second :=
  List.filter_append ..

theorem writes_outcome {a : Action (Journal σ) α} {p : Outcome α → List Event → Prop}
    {outcome : Outcome α} (ha : ∀ j, a.eval j = (outcome, j)) (h : p outcome []) : Writes a p :=
  writes_iff.mpr (Action.appends_outcome ha h)

theorem writes_ofFault (r : Except Fault β) {k : β → Action (Journal σ) α}
    {p : Outcome α → List Event → Prop} (hstop : ∀ stop, p (.error stop) [])
    (hk : ∀ x, r = .ok x → Writes (k x) p) : Writes (Action.ofFault r >>= k) p :=
  writes_iff.mpr (Action.AppendsFrom.ofFault r hstop fun x hx => writes_iff.mp (hk x hx))

theorem writes_ofResult (r : Except Failure β) {k : β → Action (Journal σ) α}
    {p : Outcome α → List Event → Prop} (hstop : ∀ stop, p (.error stop) [])
    (hk : ∀ x, r = .ok x → Writes (k x) p) : Writes (Action.ofResult r >>= k) p := by
  cases r with
  | error f => exact writes_outcome (fun _ => rfl) (hstop _)
  | ok x => exact hk x rfl

theorem writes_noting (event : Outcome α → Event) (a : Action σ α) :
    Writes (noting event a) fun outcome made => made = acts [event outcome] :=
  fun _ => ⟨_, rfl, rfl⟩

theorem writes_silently (a : Action σ α) : Writes (silently a) fun _ made => made = [] :=
  fun _ => ⟨[], (List.append_nil _).symm, rfl⟩

theorem writes_log [Log.Sink σ] (level : Log.Level) (channel : Log.Channel) (s : String) :
    Writes (Log.text level channel s : Action (Journal σ) Unit) fun _ made => made = [] :=
  fun _ => ⟨_, rfl, rfl⟩

theorem Writes.mono {a : Action (Journal σ) α} {p q : Outcome α → List Event → Prop}
    (h : Writes a p) (hpq : ∀ outcome made, p outcome made → q outcome made) : Writes a q :=
  writes_iff.mpr ((writes_iff.mp h).mono fun outcome more => hpq outcome (acts more))

theorem Writes.bind {a : Action (Journal σ) α} {k : α → Action (Journal σ) β}
    {p : Outcome α → List Event → Prop} {q : α → Outcome β → List Event → Prop}
    {r : Outcome β → List Event → Prop} (ha : Writes a p) (hk : ∀ x, Writes (k x) (q x))
    (hstop : ∀ stop made, p (.error stop) made → r (.error stop) made)
    (hgo : ∀ x outcome first second, p (.ok x) first → q x outcome second → r outcome (first ++ second)) :
    Writes (a >>= k) r := by
  refine writes_iff.mpr ((writes_iff.mp ha).bind (fun x => writes_iff.mp (hk x)) ?_ ?_)
  · intro stop first hp
    exact hstop stop (acts first) hp
  · intro x outcome first second hp hq
    rw [acts_append]
    exact hgo x outcome (acts first) (acts second) hp hq

/-- A step without acts goes before others. -/
theorem Writes.after {a : Action (Journal σ) α} {k : α → Action (Journal σ) β}
    {r : Outcome β → List Event → Prop} (ha : Writes a fun _ made => made = [])
    (hstop : ∀ stop, r (.error stop) []) (hk : ∀ x, Writes (k x) r) : Writes (a >>= k) r := by
  refine ha.bind hk (fun stop made hmade => ?_) fun x outcome first second hfirst hr => ?_
  · rw [hmade]
    exact hstop stop
  · rw [hfirst]
    exact hr

/-- A handler that does nothing but stop leaves what was done as it is. -/
theorem Writes.handled {a : Action (Journal σ) α} {handler : Failure → Action (Journal σ) α}
    {p : Outcome α → List Event → Prop} (ha : Writes a p)
    (hhandler : ∀ f, Writes (handler f) fun outcome made => made = [] ∧ ∃ stop, outcome = .error stop)
    (hstop : ∀ stop stop' made, p (.error stop) made → p (.error stop') made) :
    Writes (a.orElse handler) p := by
  refine writes_iff.mpr ((writes_iff.mp ha).orElse (fun f => writes_iff.mp (hhandler f)) ?_)
  intro stop outcome first second hp hsecond
  obtain ⟨hnone, stop', houtcome⟩ := hsecond
  rw [acts_append, hnone, houtcome, List.append_nil]
  exact hstop stop stop' (acts first) hp

end Stemcell
