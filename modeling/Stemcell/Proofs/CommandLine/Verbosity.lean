import Stemcell.Proofs.CommandLine.Words
import Stemcell.Proofs.Rehearsal

/-! Many records or few: a run does the same and ends alike, as long as passwords that can be
registered are texts, and the few records are those of the many that are for everybody. A password
that is a number cannot be looked for in a record, and then the first record ends the run. -/
namespace Stemcell.CommandLine

open Rehearsal (World Outside)
open Rehearsal.World (staged TextPasswords TextsIfRegistered)

/-- Whether a line is shown where only few records are. -/
def isForEverybody (line : ConsoleLine) : Bool := Log.Level.info.rank ≤ line.level.rank

/-- A console for few records beside one for many. -/
structure InfoAndDebug (env : Environment) (few many : Console) : Prop where
  ready : few.Ready env .info
  ready' : many.Ready env .debug
  registry : few.registry.SameValues many.registry
  lines : few.lines = many.lines.filter isForEverybody

theorem debug_least (level : Log.Level) : Log.Level.debug.rank ≤ level.rank := by
  cases level <;> decide

theorem InfoAndDebug.take {env : Environment} (level : Log.Level) (channel : Log.Channel) (s : String) :
    Action.Agree (InfoAndDebug env) Eq (Console.take env ⟨level, channel, .text s, .none⟩)
      (Console.take env ⟨level, channel, .text s, .none⟩) := by
  intro few many h
  rw [Console.eval_take h.ready, Console.eval_take h.ready', if_pos (debug_least level), h.registry.shownText]
  refine ⟨.ok rfl, ?_⟩
  obtain ⟨hready', hregistry', hlines'⟩ := h.ready'.display level (Redaction.shownText env many.registry s)
  -- The one console shows every record, the other one only those for everybody.
  by_cases hlevel : Log.Level.info.rank ≤ level.rank
  · obtain ⟨hready, hregistry, hlines⟩ := h.ready.display level (Redaction.shownText env many.registry s)
    rw [if_pos hlevel]
    refine ⟨hready, hready', hregistry.trans (h.registry.trans hregistry'.symm), ?_⟩
    · rw [hlines, hlines', h.lines, List.filter_cons_of_pos (by simpa [isForEverybody] using hlevel)]
  · rw [if_neg hlevel]
    refine ⟨h.ready, hready', h.registry.trans hregistry'.symm, ?_⟩
    · rw [hlines', h.lines, List.filter_cons_of_neg (by simpa [isForEverybody] using hlevel)]

variable {environ : Environment} {files : Files} {installed : List (String × Value)} {attempts : Nat}
  {flags : Config.Field → Option String} {config : Option String}

/-- A console that is set up for few records or for many. -/
theorem infoAndDebug_setUp {registry : Redaction.Registry} (h : registry.Coherent environ) :
    InfoAndDebug environ { (({} : Console).setUp false) with registry }
      { (({} : Console).setUp true) with registry } :=
  ⟨⟨rfl, h⟩, ⟨rfl, h⟩, ⟨rfl, rfl⟩, rfl⟩

theorem infoAndDebug_onLog : Construct.AgreeOnLog (World.SameButConsole InfoAndDebug) :=
  World.agreeOnLog fun _ => InfoAndDebug.take

theorem agree_reported (f : Failure) (outside : Outside) {registry : Redaction.Registry}
    (h : registry.Coherent environ) :
    let few := (report f).eval
      ({ environ, outside, console := { (({} : Console).setUp false) with registry } } : World)
    let many := (report f).eval
      ({ environ, outside, console := { (({} : Console).setUp true) with registry } } : World)
    few.1 = many.1 ∧ World.SameButConsole InfoAndDebug few.2 many.2 := by
  intro few many
  obtain ⟨hresult, hworlds⟩ := agree_report infoAndDebug_onLog f
    { environ, outside, console := { (({} : Console).setUp false) with registry } }
    { environ, outside, console := { (({} : Console).setUp true) with registry } }
    ⟨rfl, rfl, rfl, infoAndDebug_setUp h⟩
  exact ⟨hresult.eq, hworlds⟩

theorem agree_verbosity (order : Redaction.SetOrder) (outside : Outside) (htexts : ∀ settings,
      (staged environ files installed attempts).resolve flags config = .ok settings → TextsIfRegistered settings) :
    let console : Console := { registry := { order } }
    let perform := Command.perform (staged environ files installed attempts) (.construct flags config)
    let few := perform.eval { environ, outside, console := console.setUp false }
    let many := perform.eval { environ, outside, console := console.setUp true }
    few.1 = many.1 ∧ World.SameButConsole InfoAndDebug few.2 many.2 := by
  intro console perform few many
  cases hresolve : (staged environ files installed attempts).resolve flags config with
  | ok settings =>
    by_cases hall : TextPasswords settings
    · exact World.agree_construct infoAndDebug_onLog hresolve hall outside _ _ rfl rfl
        fun _ hcoherent _ => infoAndDebug_setUp hcoherent
    · obtain ⟨registry, f, hcoherent, heval⟩ :=
        World.eval_construct_unregistered hresolve (htexts settings hresolve) hall order
      have hfew := heval { environ, outside, console := console.setUp false } rfl
      have hmany := heval { environ, outside, console := console.setUp true } rfl
      simp only [few, many, perform, hfew, hmany]
      exact agree_reported (.fault f) outside hcoherent
  | error f =>
    simp only [few, many, perform, World.eval_construct_unsettled hresolve]
    exact agree_reported f outside (Redaction.Registry.coherent_nothing environ order)

/-- In front of a command line, the switch for many records adds lines on the console and changes
nothing else, unless a password can be registered and is no text. Both runs go through sets in the
same order, whichever it is: secrets of one length that overlap are masked alike. -/
theorem verbose_adds_lines {words : List String}
    (hwords : Invocation.ofWords words = .ok ⟨false, .construct flags config⟩) (order : Redaction.SetOrder)
    (outside : Outside)
    (htexts : ∀ settings, (staged environ files installed attempts).resolve flags config = .ok settings →
      TextsIfRegistered settings) :
    let start : World := { environ, outside, console := { registry := { order } } }
    let few := run (staged environ files installed attempts) words start
    let many := run (staged environ files installed attempts) ("--verbose" :: words) start
    few.1 = many.1 ∧ few.2.outside = many.2.outside ∧ few.2.written = many.2.written ∧
      few.2.console.lines = many.2.console.lines.filter isForEverybody := by
  intro start few many
  obtain ⟨hresult, hworlds⟩ := agree_verbosity order outside htexts
  simp only [few, many, World.run_staged hwords, World.run_staged (ofWords_verbose hwords)]
  exact ⟨congrArg Ended.of hresult, hworlds.outside, hworlds.written, hworlds.console.lines⟩

/-- The vCenter passes its checks, and the programs behind them write nothing; sets are gone through
from the last value that came to the first. -/
theorem verbose_adds_lines_complete :
    let outside : Outside := { programs := List.replicate 3 (.ok (.ended (.int 0) "stemcell" "")) }
    let start : World :=
      { environ := World.completeEnvironment, outside,
        console := { registry := { order := ⟨List.reverse, List.reverse_perm⟩ } } }
    let few := run World.completeStage ["construct"] start
    let many := run World.completeStage ["--verbose", "construct"] start
    few.1 = many.1 ∧ few.2.outside = many.2.outside ∧ few.2.written = many.2.written ∧
      few.2.console.lines = many.2.console.lines.filter isForEverybody := by
  intro outside
  have hwords : Invocation.ofWords ["construct"] = .ok ⟨false, .construct (fun _ => none) none⟩ := rfl
  refine verbose_adds_lines hwords _ outside fun settings hsettings => ?_
  rw [World.resolve_complete] at hsettings
  cases hsettings
  exact fun field hfield htruthy _ => World.textPasswords_complete field hfield htruthy

/-! A password that is a number. -/

variable {order : Redaction.SetOrder} {n : Int} {values : List Value}

def NumberAmongTexts (n : Int) (values : List Value) : Prop :=
  .int n ∈ values ∧ ∀ v ∈ values, v = .int n ∨ v.kind = .text

theorem register_number (hn : n ≠ 0) :
    ({ order } : Redaction.Registry).register (.int n) = .ok { registered := [.int n], order } := by
  simp [Redaction.Registry.register, Value.isTruthy, hn, Value.isKey, Redaction.distinct]

theorem register_behind_number (order : Redaction.SetOrder) (n : Int) {v : Value} (hv : v.kind = .text) :
    ∃ values, ({ registered := [.int n], order } : Redaction.Registry).register v =
      .ok { registered := values, order } ∧ NumberAmongTexts n values := by
  cases htruthy : v.isTruthy with
  | false => exact ⟨[.int n], by simp [Redaction.Registry.register, htruthy], by simp [NumberAmongTexts]⟩
  | true =>
    have hsame : (Value.int n).sameKey v = false := by
      rcases Value.text_or_ragged hv with ⟨s, rfl⟩ | ⟨codes, rfl⟩ <;> rfl
    refine ⟨[.int n, v], ?_, by simp [NumberAmongTexts, hv]⟩
    simp [Redaction.Registry.register, htruthy, Value.isKey_of_text hv, Redaction.distinct, hsame]

/-- Wherever a number stands among texts, it is the one that has no length. -/
theorem longEnough_number (h : NumberAmongTexts n values) :
    Redaction.longEnough values = .error (.noLength .int) := by
  obtain ⟨hmem, hall⟩ := h
  induction values with
  | nil => cases hmem
  | cons v values ih =>
    obtain ⟨hv, hvalues⟩ := List.forall_mem_cons.mp hall
    rcases hv with rfl | hv
    · rfl
    · have hmem : .int n ∈ values := by
        rcases List.mem_cons.mp hmem with rfl | hmem
        · cases hv
        · exact hmem
      rw [Redaction.longEnough, ih hmem hvalues]
      rcases Value.text_or_ragged hv with ⟨s, rfl⟩ | ⟨codes, rfl⟩ <;> rfl

theorem collect_number {registry : Redaction.Registry} (h : NumberAmongTexts n registry.registered)
    (env : Environment) : registry.collect env = .error (.noLength .int) := by
  have hperm := registry.order.perm registry.registered
  rw [Redaction.Registry.collect, longEnough_number ⟨hperm.mem_iff.mpr h.1, fun v hv => h.2 v (hperm.mem_iff.mp hv)⟩]
  rfl

/-- A console that shows many records and keeps these values out of them. -/
def keepingOut (order : Redaction.SetOrder) (values : List Value) : Console :=
  { registry := { registered := values, order }, level := some .debug }

/-- A number cannot be looked for, so no record is taken. -/
theorem take_number {env : Environment} (h : NumberAmongTexts n values) (record : Log.Record) :
    (Console.take env record).eval (keepingOut order values) =
      (.error (.failure (.fault (.noLength .int))), keepingOut order values) := by
  have hsecrets : (keepingOut order values).registry.secrets env = .error (.noLength .int) :=
    collect_number h env
  have hfiltered : (keepingOut order values).filtered env record = .error (.noLength .int) :=
    congrArg (Except.bind · fun secrets => Redaction.Registry.redactRecord secrets record) hsecrets
  have hsettled : (keepingOut order values).settled env = keepingOut order values := by
    change { keepingOut order values with registry := (keepingOut order values).registry.settled env } = _
    rw [Redaction.Registry.settled, hsecrets]
  have hshows : (keepingOut order values).shows record.level = true :=
    decide_eq_true (debug_least record.level)
  rw [Console.take, Action.eval_ofEval, hshows, hfiltered, hsettled]
  rfl

theorem checkArtifacts_number {outside : Outside} (h : NumberAmongTexts n values)
    (hnames : Preflight.checkNames files "." Preflight.artifactNames = .ok ()) :
    let w : World := { environ, outside, console := keepingOut order values }
    (Preflight.checkArtifacts files (.text ".")).eval w = (.error (.failure (.fault (.noLength .int))), w) := by
  intro w
  have hfound : (Action.ofResult (Preflight.checkNames files "." Preflight.artifactNames) :
      Action World Unit).eval w = (.ok (), w) := by
    rw [hnames]
    rfl
  rw [Preflight.checkArtifacts, Action.eval_bind, hfound]
  simp only [Log.debug, Log.text, Log.Sink.write, Action.eval_ofEval, World.onConsole, Action.within, w,
    take_number h]

theorem proceed_number {outside : Outside} (h : NumberAmongTexts n values) {settings : Config.Settings}
    (hsettings : Preflight.checkSettings files settings = .ok ())
    (hnames : Preflight.checkNames files "." Preflight.artifactNames = .ok ()) :
    let w : World := { environ, outside, console := keepingOut order values }
    ((proceed (staged environ files installed attempts) settings).orElse report).eval w =
      (.error (.failure (.fault (.noLength .int))), w) := by
  intro w
  have hchecked : (Action.ofResult (Preflight.checkSettings (staged environ files installed attempts).files
      settings) : Action World Unit).eval w = (.ok (), w) := by
    change (Action.ofResult (Preflight.checkSettings files settings) : Action World Unit).eval w = _
    rw [hsettings]
    rfl
  have hartifacts : (Preflight.checkArtifacts (staged environ files installed attempts).files (.text ".")).eval w =
      (.error (.failure (.fault (.noLength .int))), w) := checkArtifacts_number h hnames
  rw [proceed, Action.eval_orElse_bind hchecked, Action.eval_orElse_bind_fail hartifacts]
  rfl

/-- Where the guest's password is a number, many records end the run before anything is done: the
first one cannot be looked through. -/
theorem many_stop_at_number {words : List String} {verbose : Bool}
    (hwords : Invocation.ofWords words = .ok ⟨verbose, .construct flags config⟩) {settings : Config.Settings}
    (hresolve : (staged environ files installed attempts).resolve flags config = .ok settings)
    (hn : n ≠ 0) (hnumber : settings.value .vmPassword = .int n)
    (htext : (settings.value .vcenterPassword).kind = .text)
    (hsettings : Preflight.checkSettings files settings = .ok ())
    (hnames : Preflight.checkNames files "." Preflight.artifactNames = .ok ()) (order : Redaction.SetOrder)
    (outside : Outside) :
    let start : World := { environ, outside, console := { registry := { order } } }
    let many := run (staged environ files installed attempts) ("--verbose" :: words) start
    many.1 = .escaped (.failure (.fault (.noLength .int))) ∧ many.2.outside = outside := by
  intro start many
  obtain ⟨values, hvalues, hamong⟩ := register_behind_number order n htext
  let w : World := { start with console := start.console.setUp true }
  have hvm : ((staged environ files installed attempts).register (settings.value .vmPassword)).eval w =
      (.ok (), { w with console := keepingOut order [.int n] }) := by
    rw [hnumber]
    exact World.eval_register (register_number hn)
  have hvcenter : ((staged environ files installed attempts).register (settings.value .vcenterPassword)).eval
      { w with console := keepingOut order [.int n] } = (.ok (), { w with console := keepingOut order values }) :=
    World.eval_register hvalues
  have hperform : (Command.perform (staged environ files installed attempts) (.construct flags config)).eval w =
      (.error (.failure (.fault (.noLength .int))), { w with console := keepingOut order values }) := by
    rw [World.eval_construct_settled hresolve, Action.eval_orElse_bind hvm, Action.eval_orElse_bind hvcenter]
    exact proceed_number hamong hsettings hnames
  have hmany : many = (.escaped (.failure (.fault (.noLength .int))),
      { w with console := keepingOut order values }) := by
    simp only [many, World.run_staged (ofWords_verbose hwords)]
    exact congrArg (fun ended => (Ended.of ended.1, ended.2)) hperform
  rw [hmany]
  exact ⟨rfl, rfl⟩

end Stemcell.CommandLine
