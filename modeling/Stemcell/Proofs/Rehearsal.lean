import Stemcell.Proofs.CommandLine.Agreement
import Stemcell.Proofs.Console
import Stemcell.Proofs.Remote
import Stemcell.Rehearsal.World

/-! Rehearsed runs side by side, in worlds that differ in nothing but their consoles. -/
namespace Stemcell.Rehearsal.World

open CommandLine (Command Surroundings proceed report)
open Config (Settings)

/-- Nobody but a console can tell the worlds apart. -/
structure SameButConsole (C : Environment → Console → Console → Prop) (w w' : World) : Prop where
  environ : w.environ = w'.environ
  outside : w.outside = w'.outside
  written : w.written = w'.written
  console : C w.environ w.console w'.console

variable {C : Environment → Console → Console → Prop}

theorem agree_onOutside {α : Type} (a : Action Outside α) :
    Action.Agree (SameButConsole C) Eq (onOutside a) (onOutside a) := by
  rintro ⟨environ, outside, console, written⟩ ⟨_, _, console', _⟩ ⟨rfl, rfl, rfl, hconsole⟩
  exact ⟨.refl _, rfl, rfl, rfl, hconsole⟩

theorem agree_facilities (account : Remote.Account) :
    facilities.Agree (SameButConsole C) account account Eq facilities where
  start q q' hq := by
    rw [hq]
    exact agree_onOutside _
  connect _ _ _ := agree_onOutside _
  session := (agree_onOutside _).andThen fun run => Action.agree_pure fun command => agree_onOutside (run command)
  sleep _ := agree_onOutside _
  write text := by
    rintro ⟨environ, outside, console, written⟩ ⟨_, _, console', _⟩ ⟨rfl, rfl, rfl, hconsole⟩
    exact ⟨.refl _, rfl, rfl, rfl, hconsole⟩
  flush := Action.agree_pure rfl

theorem agreeOnLog (h : ∀ env level channel s, Action.Agree (C env) Eq
      (Console.take env ⟨level, channel, .text s, .none⟩) (Console.take env ⟨level, channel, .text s, .none⟩)) :
    Construct.AgreeOnLog (SameButConsole C) := by
  rintro level channel s ⟨environ, outside, console, written⟩ ⟨_, _, console', _⟩ ⟨rfl, rfl, rfl, hconsole⟩
  obtain ⟨hresult, hafter⟩ := h environ level channel s console console' hconsole
  exact ⟨hresult, rfl, rfl, rfl, hafter⟩

/-! Worlds whose consoles are ready to show texts. -/

/-- The console is set up and knows texts only. -/
def Ready (w : World) : Prop := ∃ least, w.console.Ready w.environ least

theorem takes_ready : Log.Takes Ready := by
  rintro level channel text ⟨environ, outside, console, written⟩ ⟨least, hready⟩
  have htaken := Console.eval_take hready level channel text
  refine ⟨⟨least, ?_⟩, congrArg Prod.fst htaken⟩
  change ((Console.take environ ⟨level, channel, .text text, .none⟩).eval console).2.Ready environ least
  rw [htaken]
  by_cases hrank : least.rank ≤ level.rank
  · rw [if_pos hrank]
    exact (hready.display level _).1
  · rw [if_neg hrank]
    exact hready

/-- The world outside has nothing to do with the console. -/
theorem keeps_onOutside {α : Type} (a : Action Outside α) : (onOutside a).Keeps Ready := fun _ h => h

theorem keeps_link (account : Remote.Account) : facilities.link.Keeps Ready account where
  connect _ _ _ := keeps_onOutside _
  exchange command := by
    unfold Remote.exchange facilities
    rw [bind_assoc]
    exact (keeps_onOutside _).bind fun run => keeps_onOutside (run command)

/-- What the program finds in a rehearsal that asks at most `attempts` times whether the guest is off. -/
def staged (environ : Environment) (files : Files) (installed : List (String × Value)) (attempts : Nat) :
    Surroundings World :=
  { surroundings { environ } files installed with patience := attempts }

/-- The passwords are texts, if they are given. -/
def TextPasswords (settings : Settings) : Prop :=
  ∀ field ∈ [Config.Field.vmPassword, .vcenterPassword],
    (settings.value field).isTruthy = true → (settings.value field).kind = .text

/-- Passwords that can be registered at all are texts. -/
def TextsIfRegistered (settings : Settings) : Prop :=
  ∀ field ∈ [Config.Field.vmPassword, .vcenterPassword],
    (settings.value field).isTruthy = true → (settings.value field).isKey = true →
      (settings.value field).kind = .text

/-- Every password that is a text with characters in it is registered. -/
def KeepsPasswords (settings : Settings) (registry : Redaction.Registry) : Prop :=
  ∀ field ∈ [Config.Field.vmPassword, .vcenterPassword], ∀ s, s ≠ "" →
    settings.value field = .text s → Value.text s ∈ registry.registered

variable {environ : Environment} {files : Files} {installed : List (String × Value)} {attempts : Nat}
  {flags : Config.Field → Option String} {config : Option String} {settings : Settings}
  {order : Redaction.SetOrder}

theorem eval_register {w : World} {v : Value} {registry : Redaction.Registry}
    (h : w.console.registry.register v = .ok registry) :
    ((staged environ files installed attempts).register v).eval w =
      (.ok (), { w with console := { w.console with registry } }) := by
  change (((Console.register v).eval w.console).1,
    { w with console := ((Console.register v).eval w.console).2 }) = _
  rw [Console.eval_register h]

theorem eval_register_unkeyed {v : Value} (htruthy : v.isTruthy = true) (hkey : v.isKey = false) (w : World) :
    ((staged environ files installed attempts).register v).eval w =
      (.error (.failure (.fault (.notKey v.kind))), w) := by
  have hregister : w.console.registry.register v = .error (.notKey v.kind) := by
    simp [Redaction.Registry.register, htruthy, hkey]
  change (((Console.register v).eval w.console).1,
    { w with console := ((Console.register v).eval w.console).2 }) = _
  rw [Console.register, Action.eval_ofEval, hregister]

/-- A construction whose parameters are settled registers its passwords. -/
theorem eval_construct_settled
    (hresolve : (staged environ files installed attempts).resolve flags config = .ok settings) (w : World) :
    (Command.perform (staged environ files installed attempts) (.construct flags config)).eval w =
      ((do
        (staged environ files installed attempts).register (settings.value .vmPassword)
        (staged environ files installed attempts).register (settings.value .vcenterPassword)
        proceed (staged environ files installed attempts) settings).orElse report).eval w := by
  have hok : (Action.ofResult ((staged environ files installed attempts).resolve flags config) :
      Action World Settings).eval w = (.ok settings, w) := by
    rw [hresolve]
    rfl
  rw [Command.perform, CommandLine.construct_eq, Action.eval_orElse_bind hok]

/-- It goes on once they are registered. -/
theorem eval_construct (hresolve : (staged environ files installed attempts).resolve flags config = .ok settings)
    (htexts : TextPasswords settings) (order : Redaction.SetOrder) :
    ∃ registry : Redaction.Registry, registry.Coherent environ ∧ KeepsPasswords settings registry ∧
      ∀ w : World, w.console.registry = { order } →
        (Command.perform (staged environ files installed attempts) (.construct flags config)).eval w =
          ((proceed (staged environ files installed attempts) settings).orElse report).eval
            { w with console := { w.console with registry } } := by
  obtain ⟨first, hfirst, hcoherent, -, hvm⟩ :=
    (Redaction.Registry.coherent_nothing environ order).register (htexts .vmPassword (by simp))
  obtain ⟨second, hsecond, hcoherent', -, hvcenter⟩ := hcoherent.register (htexts .vcenterPassword (by simp))
  refine ⟨second, hcoherent', ?_, fun w hw => ?_⟩
  · intro field hfield s hs hvalue
    have htruthy : (Value.text s).isTruthy = true := by simpa [Value.isTruthy] using hs
    simp only [List.mem_cons, List.not_mem_nil, or_false] at hfield
    rcases hfield with rfl | rfl
    · exact (hvcenter _).mpr (.inl ((hvm _).mpr (.inr ⟨hvalue.symm, hvalue ▸ htruthy⟩)))
    · exact (hvcenter _).mpr (.inr ⟨hvalue.symm, hvalue ▸ htruthy⟩)
  · rw [← hw] at hfirst
    rw [eval_construct_settled hresolve, Action.eval_orElse_bind (eval_register hfirst),
      Action.eval_orElse_bind (eval_register hsecond)]

/-- From where the passwords are registered, constructions agree. -/
theorem agree_construct (hlog : Construct.AgreeOnLog (SameButConsole C))
    (hresolve : (staged environ files installed attempts).resolve flags config = .ok settings)
    (htexts : TextPasswords settings) (outside : Outside) (c c' : Console) (hc : c.registry = { order })
    (hc' : c'.registry = { order })
    (hstart : ∀ registry : Redaction.Registry, registry.Coherent environ → KeepsPasswords settings registry →
      C environ { c with registry } { c' with registry }) :
    let perform := Command.perform (staged environ files installed attempts) (.construct flags config)
    let ended := perform.eval { environ, outside, console := c }
    let ended' := perform.eval { environ, outside, console := c' }
    ended.1 = ended'.1 ∧ SameButConsole C ended.2 ended'.2 := by
  intro perform ended ended'
  obtain ⟨registry, hcoherent, hkeeps, heval⟩ := eval_construct hresolve htexts order
  have hproceed : Action.Agree (SameButConsole C) Eq
      ((proceed (staged environ files installed attempts) settings).orElse report)
      ((proceed (staged environ files installed attempts) settings).orElse report) :=
    (CommandLine.agree_proceed hlog rfl rfl rfl rfl (agree_facilities _)).orElse fun f =>
      CommandLine.agree_report hlog f
  obtain ⟨hresult, hworlds⟩ := hproceed { environ, outside, console := { c with registry } }
    { environ, outside, console := { c' with registry } } ⟨rfl, rfl, rfl, hstart registry hcoherent hkeeps⟩
  have heval' := heval { environ, outside, console := c } hc
  have heval'' := heval { environ, outside, console := c' } hc'
  simp only [ended, ended', perform, heval', heval'']
  exact ⟨hresult.eq, hworlds⟩

theorem unkeyed_of_not_text {v : Value} (h : v.isTruthy = true → v.isKey = true → v.kind = .text)
    (hother : ¬(v.isTruthy = true → v.kind = .text)) : v.isTruthy = true ∧ v.isKey = false := by
  obtain ⟨htruthy, hkind⟩ := Classical.not_imp.mp hother
  refine ⟨htruthy, ?_⟩
  cases hkey : v.isKey with
  | true => exact absurd (h htruthy hkey) hkind
  | false => rfl

/-- One with a password that cannot be registered ends there. -/
theorem eval_construct_unregistered
    (hresolve : (staged environ files installed attempts).resolve flags config = .ok settings)
    (htexts : TextsIfRegistered settings) (hother : ¬TextPasswords settings) (order : Redaction.SetOrder) :
    ∃ (registry : Redaction.Registry) (f : Fault), registry.Coherent environ ∧
      ∀ w : World, w.console.registry = { order } →
        (Command.perform (staged environ files installed attempts) (.construct flags config)).eval w =
          (report (.fault f)).eval { w with console := { w.console with registry } } := by
  by_cases hvm : (settings.value .vmPassword).isTruthy = true → (settings.value .vmPassword).kind = .text
  · have hvcenter : ¬((settings.value .vcenterPassword).isTruthy = true →
        (settings.value .vcenterPassword).kind = .text) := by
      intro hvcenter
      refine hother fun field hfield => ?_
      simp only [List.mem_cons, List.not_mem_nil, or_false] at hfield
      rcases hfield with rfl | rfl
      · exact hvm
      · exact hvcenter
    obtain ⟨htruthy, hkey⟩ := unkeyed_of_not_text (htexts .vcenterPassword (by simp)) hvcenter
    obtain ⟨first, hfirst, hcoherent, -⟩ := 
      (Redaction.Registry.coherent_nothing environ order).register hvm
    refine ⟨first, .notKey (settings.value .vcenterPassword).kind, hcoherent, fun w hw => ?_⟩
    rw [← hw] at hfirst
    rw [eval_construct_settled hresolve, Action.eval_orElse_bind (eval_register hfirst),
      Action.eval_orElse_bind_fail (eval_register_unkeyed htruthy hkey _)]
  · obtain ⟨htruthy, hkey⟩ := unkeyed_of_not_text (htexts .vmPassword (by simp)) hvm
    refine ⟨{ order }, .notKey (settings.value .vmPassword).kind,
      Redaction.Registry.coherent_nothing environ order, fun w hw => ?_⟩
    rw [eval_construct_settled hresolve, Action.eval_orElse_bind_fail (eval_register_unkeyed htruthy hkey _), ← hw]

/-- One whose parameters cannot be settled tells why. -/
theorem eval_construct_unsettled {f : Failure}
    (hresolve : (staged environ files installed attempts).resolve flags config = .error f) (w : World) :
    (Command.perform (staged environ files installed attempts) (.construct flags config)).eval w =
      (report f).eval w := by
  rw [Command.perform, CommandLine.construct_eq, hresolve]
  rfl

/-- A run first sets its console up. -/
theorem run_staged {words : List String} {verbose : Bool} {command : Command}
    (h : CommandLine.Invocation.ofWords words = .ok ⟨verbose, command⟩) (w : World) :
    CommandLine.run (staged environ files installed attempts) words w =
      let ended := (command.perform (staged environ files installed attempts)).eval
        { w with console := w.console.setUp verbose }
      (.of ended.1, ended.2) := by
  rw [CommandLine.run, h]
  rfl

/-! A stage on which nothing is missing. -/

/-- All required parameters are in the environment. -/
def completeEnvironment : Environment :=
  Config.Field.required.map fun field => (field.environmentVariable, .text "stemcell")

/-- The archives are where the program works. -/
def completeFiles : Files where
  root := .directory (Preflight.artifactNames.map fun name => (name, .file []))

def completeSettings : Settings := .resolve (fun _ => .null) completeEnvironment []

abbrev completeStage : Surroundings World := staged completeEnvironment completeFiles [] 1

theorem resolve_complete : completeStage.resolve (fun _ => none) none = .ok completeSettings := rfl

theorem textPasswords_complete : TextPasswords completeSettings := by
  intro field hfield _
  simp only [List.mem_cons, List.not_mem_nil, or_false] at hfield
  rcases hfield with rfl | rfl <;> rfl

theorem checkNames_complete : Preflight.checkNames completeFiles "." Preflight.artifactNames = .ok () := by
  have hfound : ∀ name ∈ Preflight.artifactNames,
      Files.isPlainFile (completeFiles.find (Path.join "." name)) = true := by
    intro name hname
    -- The walk through the tree is no structural recursion: the names are computed, the steps rewritten.
    have hnames : Path.names (Path.join "." name) = [".", name] := by
      revert name
      decide +kernel
    rw [Files.find, hnames]
    simp only [FileNode.walk]
    clear hnames
    revert name
    decide +kernel
  rw [Preflight.artifactNames, Preflight.checkNames, if_pos (hfound _ (by decide)), Preflight.checkNames,
    if_pos (hfound _ (by decide)), Preflight.checkNames]

end Stemcell.Rehearsal.World
