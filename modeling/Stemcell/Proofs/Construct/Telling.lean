import Stemcell.Proofs.Construct.History
import Stemcell.Proofs.Progress
import Stemcell.Proofs.Recording

/-! What the user reads of a preparation whose stream takes every text, whatever its calls come to. All
that is done is kept in a trace: events that are told, what the stream is asked for them, and the calls on
everybody else. -/
namespace Stemcell.Construct

open Stemcell.Action (Appends AppendsFrom appends_nothing appends_outcome)

inductive TraceEntry where
  /-- The user is to be told about an event. -/
  | told (event : Progress)
  | wrote (text : String)
  | flushed
  /-- Somebody else is called. -/
  | called (step : Step)

def TraceEntry.event? : TraceEntry → Option Progress
  | .told event => some event
  | _ => none

def TraceEntry.text? : TraceEntry → Option String
  | .wrote text => some text
  | _ => none

/-- The events that the user was to be told about, in order. -/
def announced (trace : List TraceEntry) : List Progress := trace.filterMap TraceEntry.event?

/-- All that was written, in order. -/
def written (trace : List TraceEntry) : String := String.join (trace.filterMap TraceEntry.text?)

/-- A state with what was done on the way to it. -/
structure Traced (σ : Type) where
  trace : List TraceEntry
  inner : σ

namespace Traced

variable {σ α : Type}

/-- Puts an entry down and does a step inside. -/
def noting (entry : TraceEntry) (a : Action σ α) : Action (Traced σ) α := .ofEval fun m =>
  let (outcome, inner) := a.eval m.inner
  (outcome, ⟨m.trace ++ [entry], inner⟩)

/-- Does a step inside that is not worth a word. -/
def silently (a : Action σ α) : Action (Traced σ) α :=
  a.within Traced.inner fun inner m => { m with inner }

instance [Log.Sink σ] : Log.Sink (Traced σ) where
  write record := silently (Log.Sink.write record)

end Traced

/-- Whatever kind of entries a question adds, polling adds entries of that kind: the poller asks as often as
it likes and does nothing else that is put down. -/
def OnlyAsks {σ : Type} (poll : Value → Action (Traced σ) Value → Action (Traced σ) Unit) : Prop :=
  ∀ (interval : Value) (question : Action (Traced σ) Value) (p : List TraceEntry → Prop), p [] →
    (∀ first second, p first → p second → p (first ++ second)) →
    Appends Traced.trace question (fun _ made => p made) →
    Appends Traced.trace (poll interval question) fun _ made => p made

/-- Polling in intervals only asks, whatever the pauses come to. -/
theorem onlyAsks_poll {σ : Type} [Log.Sink σ] (attempts : Nat) (sleep : Value → Action σ Unit) :
    OnlyAsks (Polling.poll attempts fun interval => Traced.silently (sleep interval)) := by
  intro interval question p hnil happend hquestion
  have hquiet : ∀ a : Action (Traced σ) Unit, (∀ m, (a.eval m).2.trace = m.trace) →
      Appends Traced.trace a fun _ made => p made :=
    fun a ha => appends_nothing ha fun _ => hnil
  exact AppendsFrom.polling hnil happend (fun _ => hquiet _ fun _ => rfl) (fun _ => hquiet _ fun _ => rfl) hquestion
    interval 0 attempts

/-- What a crew is made of whose stream takes every text. -/
structure StreamCrew (σ : Type) where
  version : Action σ Value
  hypervisor : Hypervisor.Call → Action σ Value
  remote : Remote.Call → Action σ Value
  enable : Action σ Unit
  validate : Action σ Unit
  poll : Value → Action (Traced σ) Value → Action (Traced σ) Unit
  onlyAsks : OnlyAsks poll
  write : String → σ → σ
  flush : σ → σ

namespace StreamCrew

open Traced (noting)

variable {σ : Type} (c : StreamCrew σ)

def stream : Stream (Traced σ) where
  write text := noting (.wrote text) (.ofEval fun s => (.ok (), c.write text s))
  flush := noting .flushed (.ofEval fun s => (.ok (), c.flush s))

def crew : Crew (Traced σ) where
  version := noting (.called .version) c.version
  hypervisor call := noting (.called (.hypervisor call)) (c.hypervisor call)
  remote call := noting (.called (.remote call)) (c.remote call)
  enable := noting (.called .enable) c.enable
  validate := noting (.called .validate) c.validate
  announce event := do
    noting (.told event) (pure ())
    c.stream.announce event
  poll interval question := do
    noting (.called (.poll interval)) (pure ())
    c.poll interval question

/-- What is done in a preparation. -/
def trace [Log.Sink σ] (guest : Guest) (s : σ) : List TraceEntry := ((prepare c.crew guest).eval ⟨[], s⟩).2.trace

end StreamCrew

/-- Each event that is told is written and flushed before anything else is done. -/
inductive Prompt : List TraceEntry → Prop where
  | nil : Prompt []
  | told (event : Progress) {rest : List TraceEntry} (h : Prompt rest) :
    Prompt (.told event :: .wrote event.text :: .flushed :: rest)
  | called (step : Step) {rest : List TraceEntry} (h : Prompt rest) : Prompt (.called step :: rest)

theorem Prompt.append {first second : List TraceEntry} (h : Prompt first) (h' : Prompt second) :
    Prompt (first ++ second) := by
  induction h with
  | nil => exact h'
  | told event _ ih => exact .told event ih
  | called step _ ih => exact .called step ih

theorem announced_append (first second : List TraceEntry) :
    announced (first ++ second) = announced first ++ announced second :=
  List.filterMap_append

theorem Prompt.written_eq {trace : List TraceEntry} (h : Prompt trace) :
    written trace = Progress.transcript (announced trace) := by
  have htexts : trace.filterMap TraceEntry.text? = (announced trace).map Progress.text := by
    induction h with
    | nil => rfl
    | told event _ ih => exact congrArg (event.text :: ·) ih
    | called step _ ih => exact ih
  rw [written, htexts, Progress.transcript]

/-- The same as a rule about places: writing and flushing follow each event that is told, and come nowhere
else. -/
structure FlushedAtOnce (entries : List TraceEntry) : Prop where
  told : ∀ (i : Nat) (event : Progress), entries[i]? = some (.told event) →
    entries[i + 1]? = some (.wrote event.text) ∧ entries[i + 2]? = some .flushed
  wrote : ∀ (i : Nat) (text : String), entries[i]? = some (.wrote text) →
    entries[i + 1]? = some .flushed ∧ ∃ j event, i = j + 1 ∧ entries[j]? = some (.told event)
  flushed : ∀ i : Nat, entries[i]? = some .flushed → ∃ j text, i = j + 1 ∧ entries[j]? = some (.wrote text)

theorem Prompt.flushedAtOnce {trace : List TraceEntry} (h : Prompt trace) : FlushedAtOnce trace := by
  induction h with
  | nil => constructor <;> simp
  | @told event rest _ ih =>
    constructor
    case told =>
      intro i other hi
      match i, hi with
      | 0, hi =>
        cases hi
        exact ⟨rfl, rfl⟩
      | 1, hi => cases hi
      | 2, hi => cases hi
      | i + 3, hi => exact ih.told i other hi
    case wrote =>
      intro i text hi
      match i, hi with
      | 0, hi => cases hi
      | 1, hi => exact ⟨rfl, 0, event, rfl, rfl⟩
      | 2, hi => cases hi
      | i + 3, hi =>
        obtain ⟨hflushed, j, other, rfl, hj⟩ := ih.wrote i text hi
        exact ⟨hflushed, j + 3, other, rfl, hj⟩
    case flushed =>
      intro i hi
      match i, hi with
      | 0, hi => cases hi
      | 1, hi => cases hi
      | 2, hi => exact ⟨1, event.text, rfl, rfl⟩
      | i + 3, hi =>
        obtain ⟨j, text, rfl, hj⟩ := ih.flushed i hi
        exact ⟨j + 3, text, rfl, hj⟩
  | @called step rest _ ih =>
    constructor
    case told =>
      intro i event hi
      cases i with
      | zero => cases hi
      | succ i => exact ih.told i event hi
    case wrote =>
      intro i text hi
      cases i with
      | zero => cases hi
      | succ i =>
        obtain ⟨hflushed, j, event, rfl, hj⟩ := ih.wrote i text hi
        exact ⟨hflushed, j + 1, event, rfl, hj⟩
    case flushed =>
      intro i hi
      cases i with
      | zero => cases hi
      | succ i =>
        obtain ⟨j, text, rfl, hj⟩ := ih.flushed i hi
        exact ⟨j + 1, text, rfl, hj⟩

/-! The parts of a preparation. -/

variable {σ α β : Type}

/-- What a step tells is the beginning of something whole, and where the step has a result, it is whole. -/
abbrev Narrates (a : Action (Traced σ) α) (whole : List Progress → Prop) : Prop :=
  Appends Traced.trace a fun outcome made =>
    Prompt made ∧ (∃ rest, whole (announced made ++ rest)) ∧ ∀ x, outcome = .ok x → whole (announced made)

theorem Narrates.mono {a : Action (Traced σ) α} {p q : List Progress → Prop} (h : Narrates a p)
    (hpq : ∀ events, p events → q events) : Narrates a q := by
  refine AppendsFrom.mono h ?_
  rintro outcome made ⟨hprompt, ⟨rest, hrest⟩, hdone⟩
  exact ⟨hprompt, ⟨rest, hpq _ hrest⟩, fun x hx => hpq _ (hdone x hx)⟩

/-- Also where the first step stops, something whole can be gone on to: what the second one would tell. -/
theorem Narrates.bind [Inhabited α] {a : Action (Traced σ) α} {k : α → Action (Traced σ) β}
    {p whole : List Progress → Prop} (ha : Narrates a p)
    (hk : ∀ x events, p events → Narrates (k x) fun rest => whole (events ++ rest)) :
    Narrates (a >>= k) whole := by
  intro m _
  obtain ⟨-, first, hfirst, hprompt, ⟨rest, hrest⟩, hdone⟩ := ha m trivial
  rw [Action.eval_bind]
  generalize a.eval m = result at hfirst hdone
  obtain ⟨outcome, now⟩ := result
  cases outcome with
  | error stop =>
    obtain ⟨-, second, -, -, ⟨more, hmore⟩, -⟩ := hk default _ hrest m trivial
    refine ⟨trivial, first, hfirst, hprompt, ⟨rest ++ (announced second ++ more), ?_⟩, by simp⟩
    rwa [← List.append_assoc]
  | ok x =>
    obtain ⟨-, second, hsecond, hprompt', ⟨more, hmore⟩, hdone'⟩ := hk x _ (hdone x rfl) now trivial
    refine ⟨trivial, first ++ second, ?_, hprompt.append hprompt', ⟨more, ?_⟩, fun y hy => ?_⟩
    · change ((k x).eval now).2.trace = _
      rw [hsecond, hfirst, List.append_assoc]
    · rwa [announced_append, List.append_assoc]
    · rw [announced_append]
      exact hdone' y hy

/-- A step that tells just these events goes before others. -/
theorem Narrates.then [Inhabited α] {a : Action (Traced σ) α} {k : α → Action (Traced σ) β}
    {events : List Progress} {whole : List Progress → Prop} (ha : Narrates a (· = events))
    (hk : ∀ x, Narrates (k x) fun rest => whole (events ++ rest)) : Narrates (a >>= k) whole := by
  refine ha.bind fun x told htold => ?_
  rw [htold]
  exact hk x

theorem narrates_outcome {a : Action (Traced σ) α} {outcome : Outcome α} (ha : ∀ m, a.eval m = (outcome, m)) :
    Narrates a (· = []) :=
  appends_outcome ha ⟨.nil, ⟨[], rfl⟩, fun _ _ => rfl⟩

theorem narrates_ofFault (r : Except Fault α) : Narrates (Action.ofFault r : Action (Traced σ) α) (· = []) := by
  cases r with
  | ok x => exact narrates_outcome fun _ => rfl
  | error f => exact narrates_outcome fun _ => rfl

theorem narrates_called (step : Step) (a : Action σ α) : Narrates (Traced.noting (.called step) a) (· = []) :=
  fun _ _ => ⟨trivial, _, rfl, .called step .nil, ⟨[], rfl⟩, fun _ _ => rfl⟩

theorem Narrates.wrap {a : Action (Traced σ) α} {whole : List Progress → Prop} (h : Narrates a whole)
    (words : Failure → Failure) : Narrates (a.wrap words) whole := by
  refine AppendsFrom.wrap h words ?_
  rintro stop stop' made ⟨hprompt, hbegins, -⟩
  exact ⟨hprompt, hbegins, by simp⟩

variable (c : StreamCrew σ) (guest : Guest)

theorem narrates_announce (event : Progress) : Narrates (c.crew.announce event) (· = [event]) := by
  intro m _
  refine ⟨trivial, [.told event, .wrote event.text, .flushed], ?_, .told event .nil, ⟨[], rfl⟩, fun _ _ => rfl⟩
  change m.trace ++ [.told event] ++ [.wrote event.text] ++ [.flushed] = _
  rw [List.append_assoc, List.append_assoc]
  rfl

theorem narrates_createDirectory :
    Narrates (createDirectory c.crew guest) (· = [.started .directory, .succeeded .directory]) := by
  unfold createDirectory
  refine (narrates_announce c _).then fun _ => (narrates_called _ _).then fun _ => ?_
  refine (narrates_announce c _).mono ?_
  rintro _ rfl
  rfl

/-- One look at the guest: the user is told at most that it is still running. -/
def Looks (made : List TraceEntry) : Prop := Prompt made ∧ ∀ event ∈ announced made, event = .stillPreparing

theorem Looks.append {first second : List TraceEntry} (h : Looks first) (h' : Looks second) :
    Looks (first ++ second) := by
  refine ⟨h.1.append h'.1, fun event hevent => ?_⟩
  rw [announced_append] at hevent
  rcases List.mem_append.mp hevent with hevent | hevent
  · exact h.2 event hevent
  · exact h'.2 event hevent

/-- What a step tells of one look is of this kind. -/
theorem Narrates.looks {a : Action (Traced σ) α} {events : List Progress} (h : Narrates a (· = events))
    (hevents : ∀ event ∈ events, event = .stillPreparing) :
    Appends Traced.trace a fun _ made => Looks made := by
  refine AppendsFrom.mono h ?_
  rintro outcome made ⟨hprompt, ⟨rest, hrest⟩, -⟩
  refine ⟨hprompt, fun event hevent => hevents event ?_⟩
  rw [← hrest]
  exact List.mem_append_left rest hevent

theorem looks_isOff : Appends Traced.trace (isOff c.crew guest) fun _ made => Looks made := by
  have hnothing : ∀ off : Value, Appends Traced.trace (pure off : Action (Traced σ) Value)
      fun _ made => Looks made :=
    fun off => (narrates_outcome fun _ => rfl).looks (by simp)
  unfold isOff
  refine AppendsFrom.closed (fun _ _ => Looks.append) ((narrates_called _ _).looks (by simp)) fun off => ?_
  by_cases hoff : off.isTruthy = true
  · rw [if_pos hoff]
    exact hnothing off
  · rw [if_neg hoff]
    exact AppendsFrom.closed (fun _ _ => Looks.append) ((narrates_announce c _).looks (by simp)) fun _ => hnothing off

theorem narrates_awaitShutdown : Narrates (awaitShutdown c.crew guest) fun events =>
    ∃ looks, events = List.replicate looks .stillPreparing ++ [.shutDown] := by
  have hpoll : Narrates (c.crew.poll shutdownInterval (isOff c.crew guest)) fun events =>
      ∃ looks, events = List.replicate looks .stillPreparing := by
    refine (narrates_called _ _).then fun _ => ?_
    refine AppendsFrom.mono (c.onlyAsks _ _ Looks ⟨.nil, by simp [announced]⟩ (fun _ _ => Looks.append)
      (looks_isOff c guest)) ?_
    rintro outcome made ⟨hprompt, hall⟩
    have hmade := List.eq_replicate_of_mem hall
    exact ⟨hprompt, ⟨[], _, by rwa [List.append_nil]⟩, fun _ _ => ⟨_, hmade⟩⟩
  unfold awaitShutdown
  refine hpoll.bind fun _ events hevents => ?_
  obtain ⟨looks, rfl⟩ := hevents
  refine (narrates_announce c _).mono ?_
  rintro _ rfl
  exact ⟨looks, rfl⟩

variable [Log.Sink σ]

theorem narrates_debug (channel : Log.Channel) (text : String) :
    Narrates (Log.debug channel text : Action (Traced σ) Unit) (· = []) :=
  appends_nothing (fun _ => rfl) fun _ => ⟨.nil, ⟨[], rfl⟩, fun _ _ => rfl⟩

theorem narrates_uploadAll (artifacts : List Artifact) :
    Narrates (uploadAll c.crew guest artifacts)
      (· = artifacts.flatMap fun a => [.uploading (.text a.label), .uploaded]) := by
  induction artifacts with
  | nil => exact narrates_outcome fun _ => rfl
  | cons a rest ih =>
    have hone : Narrates (uploadOne c.crew guest a) (· = [.uploading (.text a.label), .uploaded]) := by
      unfold uploadOne
      refine (narrates_announce c _).then fun _ => (narrates_debug _ _).then fun _ => ?_
      refine (narrates_called _ _).then fun _ => (narrates_announce c _).mono ?_
      rintro _ rfl
      rfl
    refine hone.then fun _ => ih.mono ?_
    rintro _ rfl
    rfl

theorem narrates_runScript (script : String) : Narrates (guest.runScript c.crew.hypervisor script) (· = []) := by
  unfold Guest.runScript
  refine (narrates_debug _ _).then fun _ => (narrates_called _ _).then fun pid => ?_
  refine (narrates_called _ _).then fun code => ?_
  refine (narrates_ofFault _).then fun _ => (narrates_ofFault _).then fun _ => ?_
  refine (narrates_debug _ _).then fun _ => ?_
  by_cases hzero : code.isZero = true
  · rw [if_pos hzero]
    exact narrates_outcome fun _ => rfl
  · rw [if_neg hzero]
    exact narrates_outcome fun _ => rfl

/-- The events of a preparation begin one of the courses, and are all of it if the preparation succeeds. -/
theorem narrates_prepare :
    Narrates (prepare c.crew guest) fun events => ∃ looks, events = Progress.course looks := by
  have announce := narrates_announce c
  unfold prepare
  refine (narrates_called _ _).then fun version => ?_
  refine (narrates_ofFault _).then fun _ => (narrates_ofFault _).then fun _ => ?_
  refine (narrates_debug _ _).then fun _ => (narrates_createDirectory c guest).then fun _ => ?_
  refine (announce _).then fun _ => (narrates_uploadAll c guest _).then fun _ => (announce _).then fun _ => ?_
  refine (announce _).then fun _ => (narrates_called _ _).then fun _ => (announce _).then fun _ => ?_
  refine (announce _).then fun _ => (narrates_called _ _).then fun _ => (announce _).then fun _ => ?_
  refine (announce _).then fun _ => (narrates_called _ _).then fun _ => (announce _).then fun _ => ?_
  refine (announce _).then fun _ => ((narrates_runScript c guest _).wrap _).then fun _ => ?_
  refine (announce _).then fun _ => ?_
  refine (announce _).then fun _ => (narrates_called _ _).then fun _ => (announce _).then fun _ => ?_
  refine (announce _).then fun _ => (narrates_awaitShutdown c guest).mono ?_
  rintro _ ⟨looks, rfl⟩
  exact ⟨looks, rfl⟩

theorem prompt_trace (s : σ) : Prompt (c.trace guest s) ∧ Progress.Reached (announced (c.trace guest s)) := by
  obtain ⟨-, made, hmade, hprompt, ⟨rest, looks, hrest⟩, -⟩ := narrates_prepare c guest ⟨[], s⟩ trivial
  have htrace : c.trace guest s = made := hmade
  rw [htrace]
  exact ⟨hprompt, looks, rest, hrest⟩

/-- What the user has read of a preparation is the texts of the events in order, each flushed at once. Of
two preparations, with whatever others and whatever they come to, the one has given the user the beginning
of what the other has given if and only if its events are the beginning of those of the other, and the
user has read the same of both only if the events are the same. -/
theorem written_tells_progress {τ : Type} [Log.Sink τ] (c : StreamCrew σ) (d : StreamCrew τ)
    (guest guest' : Guest) (s : σ) (t : τ) :
    let run := c.trace guest s
    let other := d.trace guest' t
    written run = Progress.transcript (announced run) ∧ FlushedAtOnce run ∧
      (written run = written other ↔ announced run = announced other) ∧
      ((written run).toList <+: (written other).toList ↔ announced run <+: announced other) ∧
      (announced run <+: announced other → announced run ≠ announced other →
        (written run).toList <+: (written other).toList ∧ written run ≠ written other) := by
  intro run other
  obtain ⟨hprompt, hreached⟩ := prompt_trace c guest s
  obtain ⟨hprompt', hreached'⟩ := prompt_trace d guest' t
  have hsame : written run = written other ↔ announced run = announced other := by
    rw [hprompt.written_eq, hprompt'.written_eq]
    exact Progress.transcript_inj hreached hreached'
  have hbegins : (written run).toList <+: (written other).toList ↔ announced run <+: announced other := by
    rw [hprompt.written_eq, hprompt'.written_eq]
    exact Progress.transcript_prefix_iff hreached hreached'
  exact ⟨hprompt.written_eq, hprompt.flushedAtOnce, hsame, hbegins,
    fun h hne => ⟨hbegins.mpr h, mt hsame.mp hne⟩⟩

/-- All answers are good, and the guest is off at the first look. -/
example :
    let answer : Hypervisor.Call → Value
      | .start .. => .text "7"
      | .waitForExit .. => .int 0
      | _ => .bool true
    let c : StreamCrew History :=
      { version := pure (.text "dev"), hypervisor := fun call => pure (answer call), remote := fun _ => pure .null
        enable := pure (), validate := pure (), poll := _, onlyAsks := onlyAsks_poll 1 fun _ => pure ()
        write := fun _ s => s, flush := id }
    written (c.trace ⟨.text "vm", .text "user", .text "password"⟩ {}) =
      Progress.transcript (Progress.course 0) := by decide +kernel

end Stemcell.Construct
