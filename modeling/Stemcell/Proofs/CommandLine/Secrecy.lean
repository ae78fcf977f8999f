import Stemcell.Proofs.Rehearsal

/-! No line on the console gives away a password, whatever the world outside writes and however much
is shown: every line has passed through a console that knows the passwords. -/
namespace Stemcell.CommandLine

open Rehearsal (World Outside)
open Rehearsal.World (staged TextPasswords KeepsPasswords)
open Redaction (minimumLength secretVariables)
open Config (Settings)

/-- The passwords that a run is given, and those in the environment. -/
def Secret (environ : Environment) (settings : Settings) (s : String) : Prop :=
  (∃ field ∈ [Config.Field.vmPassword, .vcenterPassword], settings.value field = .text s) ∨
    ∃ name ∈ secretVariables, environ.get? name = some (.text s)

/-- Secrets that are long enough to be masked and that no mask has a part of. -/
def Maskable (s : String) : Prop := minimumLength ≤ s.length ∧ '*' ∉ s.toList

/-- A console beside itself that knows the secrets and has shown none. -/
structure HidesSecrets (secret : String → Prop) (env : Environment) (c c' : Console) : Prop where
  same : c = c'
  ready : ∃ least, c.Ready env least
  known : ∀ s, secret s → Maskable s ∧
    (.text s ∈ c.registry.registered ∨ ∃ name ∈ secretVariables, env.get? name = some (.text s))
  hidden : ∀ s, secret s → ∀ line ∈ c.lines, ¬ s.toList <:+: line.text.toList

theorem HidesSecrets.take {secret : String → Prop} {env : Environment} (level : Log.Level)
    (channel : Log.Channel) (s : String) :
    Action.Agree (HidesSecrets secret env) Eq (Console.take env ⟨level, channel, .text s, .none⟩)
      (Console.take env ⟨level, channel, .text s, .none⟩) := by
  rintro c _ ⟨rfl, ⟨least, hready⟩, hknown, hhidden⟩
  rw [Console.eval_take hready]
  refine ⟨.ok rfl, ?_⟩
  by_cases hlevel : least.rank ≤ level.rank
  · obtain ⟨hready', hregistry, hlines⟩ := hready.display level (Redaction.shownText env c.registry s)
    rw [if_pos hlevel]
    refine ⟨rfl, ⟨least, hready'⟩, fun t ht => ?_, fun t ht line hline => ?_⟩
    · rw [hregistry.registered]
      exact hknown t ht
    · rw [hlines] at hline
      rcases List.mem_cons.mp hline with rfl | hline
      · obtain ⟨⟨hlength, hstar⟩, hsource⟩ := hknown t ht
        exact Redaction.Registry.not_infix_shownText hready.registry.texts hlength hsource hstar s
      · exact hhidden t ht line hline
  · rw [if_neg hlevel]
    exact ⟨rfl, ⟨least, hready⟩, hknown, hhidden⟩

variable {environ : Environment} {files : Files} {installed : List (String × Value)} {attempts : Nat}
  {flags : Config.Field → Option String} {config : Option String} {settings : Settings}

/-- A maskable secret is known to a registry that has the passwords. -/
theorem known_of_secret {registry : Redaction.Registry} (h : KeepsPasswords settings registry) {s : String}
    (hsecret : Secret environ settings s) (hlength : minimumLength ≤ s.length) :
    .text s ∈ registry.registered ∨ ∃ name ∈ secretVariables, environ.get? name = some (.text s) := by
  rcases hsecret with ⟨field, hfield, hvalue⟩ | hvariable
  · exact .inl (h field hfield s (Redaction.not_empty_of_long hlength) hvalue)
  · exact .inr hvariable

/-- Once the parameters are settled and the passwords are texts, no line of the whole run has a
secret in it that is maskable, at either verbosity and in whatever order sets are gone through. -/
theorem lines_hide_secrets {words : List String} {verbose : Bool}
    (hwords : Invocation.ofWords words = .ok ⟨verbose, .construct flags config⟩)
    (hresolve : (staged environ files installed attempts).resolve flags config = .ok settings)
    (htexts : TextPasswords settings) (order : Redaction.SetOrder) (outside : Outside) {s : String}
    (hsecret : Secret environ settings s) (hmaskable : Maskable s) :
    ∀ line ∈ (run (staged environ files installed attempts) words
        { environ, outside, console := { registry := { order } } }).2.console.lines,
      ¬ s.toList <:+: line.text.toList := by
  have hlog : Construct.AgreeOnLog
      (World.SameButConsole (HidesSecrets fun s => Secret environ settings s ∧ Maskable s)) :=
    World.agreeOnLog fun _ => HidesSecrets.take
  -- A run beside itself: what agrees is the invariant that its console keeps.
  let console : Console := { registry := { order } }
  obtain ⟨-, hworlds⟩ := World.agree_construct hlog hresolve htexts outside (console.setUp verbose)
    (console.setUp verbose) rfl rfl fun registry hcoherent hkeeps =>
      ⟨rfl, ⟨_, rfl, hcoherent⟩, fun t ht => ⟨ht.2, known_of_secret hkeeps ht.1 ht.2.1⟩,
        by simp [console, Console.setUp]⟩
  rw [World.run_staged hwords]
  exact hworlds.console.hidden s ⟨hsecret, hmaskable⟩

/-- The first program fails and writes a password. -/
theorem lines_hide_stemcell :
    let outside : Outside := { programs := [.ok (.ended (.int 1) "" "not the stemcell")] }
    ∀ line ∈ (run World.completeStage ["--verbose", "construct"]
        { environ := World.completeEnvironment, outside }).2.console.lines,
      ¬ "stemcell".toList <:+: line.text.toList := by
  intro outside
  have hwords : Invocation.ofWords ["--verbose", "construct"] =
      .ok ⟨true, .construct (fun _ => none) none⟩ := rfl
  exact lines_hide_secrets hwords World.resolve_complete World.textPasswords_complete .insertion outside
    (.inl ⟨.vmPassword, by decide, rfl⟩) ⟨by decide, by decide⟩

end Stemcell.CommandLine
