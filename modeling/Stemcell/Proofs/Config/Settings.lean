import Stemcell.Config.File
import Stemcell.Preflight

/-! Which kinds of value the parameters have once they are settled and checked. Flags and variables give
texts; a value from the file is taken over as it is, and the checks only ask whether it counts as given. -/
namespace Stemcell

namespace Preflight

theorem checkNames_ok {files : Files} {directory : String} {names : List String}
    (h : checkNames files directory names = .ok ()) :
    ∀ name ∈ names, Files.isPlainFile (files.find (Path.join directory name)) = true := by
  induction names with
  | nil => simp
  | cons name names ih =>
    rw [checkNames] at h
    split at h
    · next hname => exact List.forall_mem_cons.mpr ⟨hname, ih h⟩
    · cases h

theorem checkSettings_ok {files : Files} {settings : Config.Settings}
    (h : checkSettings files settings = .ok ()) :
    settings.missing = [] ∧ ((settings.value .vcenterCaCerts).isTruthy = true →
      files.isFile (settings.value .vcenterCaCerts) = .ok true) := by
  unfold checkSettings at h
  cases hmissing : settings.missing with
  | cons field rest =>
    rw [hmissing] at h
    cases h
  | nil =>
    rw [hmissing] at h
    refine ⟨rfl, fun hcerts => ?_⟩
    simp only [hcerts] at h
    cases hfile : files.isFile (settings.value .vcenterCaCerts) with
    | error f =>
      rw [hfile] at h
      cases h
    | ok found =>
      rw [hfile] at h
      cases found with
      | true => rfl
      | false => cases h

/-- Every required parameter that has passed the checks counts as given. -/
theorem truthy_of_checked {files : Files} {settings : Config.Settings}
    (h : checkSettings files settings = .ok ()) {field : Config.Field} (hfield : field ∈ Config.Field.required) :
    (settings.value field).isTruthy = true := by
  have hall := List.filter_eq_nil_iff.mp (checkSettings_ok h).1 field hfield
  simpa using hall

end Preflight

namespace Config

variable {files : Files} {environ : Environment} {path : Value} {flags : Field → Value} {settings : Settings}
  {entries : List (Value × Value)} {field : Field} {v : Value}

theorem resolve_ok (h : resolve files environ path flags = .ok settings) :
    ∃ entries, (if path.isTruthy then load files path else .ok []) = .ok entries ∧
      settings = .resolve flags environ entries := by
  unfold resolve at h
  split at h
  · next hpath =>
    rw [if_pos hpath]
    cases hload : load files path with
    | error f =>
      rw [hload] at h
      cases h
    | ok entries =>
      rw [hload] at h
      cases h
      exact ⟨entries, rfl, rfl⟩
  · next hpath =>
    cases h
    exact ⟨[], if_neg hpath, rfl⟩

/-- The value that comes of the four places in which one is looked for: the flag unless it is empty, or else
the variable unless it is empty, or else what the file has, empty or not, or else the default. -/
inductive Chosen (flag : Value) (exported entry : Option Value) (default : Value) : Value → Prop where
  | flag (h : flag.isTruthy = true) : Chosen flag exported entry default flag
  | exported {v : Value} (hflag : flag.isTruthy = false) (h : exported = some v) (hv : v.isTruthy = true) :
    Chosen flag exported entry default v
  | entry {v : Value} (hflag : flag.isTruthy = false) (hexported : ∀ w, exported = some w → w.isTruthy = false)
    (h : entry = some v) : Chosen flag exported entry default v
  | default (hflag : flag.isTruthy = false) (hexported : ∀ w, exported = some w → w.isTruthy = false)
    (h : entry = none) : Chosen flag exported entry default default

theorem given_some (v : Value) : given (some v) = if v.isTruthy then some v else none := rfl

theorem given_eq_none {exported : Option Value} (h : given exported = none) :
    ∀ v, exported = some v → v.isTruthy = false := by
  rintro v rfl
  simpa [given_some] using h

theorem chosen (flag : Value) (exported entry : Option Value) (default : Value) :
    Chosen flag exported entry default
      (((given (some flag)).or ((given exported).or entry)).getD default) := by
  rw [given_some]
  cases hflag : flag.isTruthy with
  | true => exact .flag hflag
  | false =>
    cases hexported : given exported with
    | some v =>
      obtain ⟨h, hv⟩ := Option.filter_eq_some_iff.mp hexported
      exact .exported hflag h hv
    | none =>
      cases hentry : entry with
      | some v => exact .entry hflag (given_eq_none hexported) rfl
      | none => exact .default hflag (given_eq_none hexported) rfl

/-- A value is chosen parameter by parameter. -/
theorem chosen_resolve (environ : Environment) (flags : Field → Value) (entries : List (Value × Value))
    (field : Field) : Chosen (flags field) (environ.get? field.environmentVariable)
      (Value.field? field.key entries) field.default ((Settings.resolve flags environ entries).value field) :=
  chosen _ _ _ _

/-- No flag gives the parameter and no variable does, empty ones aside. -/
def LeftToFile (environ : Environment) (flags : Field → Value) (field : Field) : Prop :=
  (flags field).isTruthy = false ∧ ∀ v, environ.get? field.environmentVariable = some v → v.isTruthy = false

/-- A value comes from one of three places. -/
theorem value_cases (environ : Environment) (flags : Field → Value) (entries : List (Value × Value))
    (field : Field) :
    ((flags field).isTruthy = true ∧ (Settings.resolve flags environ entries).value field = flags field) ∨
      (∃ v, environ.get? field.environmentVariable = some v ∧ v.isTruthy = true ∧
        (Settings.resolve flags environ entries).value field = v) ∨
      (LeftToFile environ flags field ∧ (Settings.resolve flags environ entries).value field =
        (Value.field? field.key entries).getD field.default) := by
  have h := chosen_resolve environ flags entries field
  generalize (Settings.resolve flags environ entries).value field = v at h
  cases h with
  | flag hflag => exact .inl ⟨hflag, rfl⟩
  | exported hflag hvariable hv => exact .inr (.inl ⟨v, hvariable, hv, rfl⟩)
  | entry hflag hexported hentry => exact .inr (.inr ⟨⟨hflag, hexported⟩, by rw [hentry]; rfl⟩)
  | default hflag hexported hentry => exact .inr (.inr ⟨⟨hflag, hexported⟩, by rw [hentry]; rfl⟩)

/-- What is left to the file has the value that the file has. -/
theorem value_left (h : LeftToFile environ flags field) :
    (Settings.resolve flags environ entries).value field =
      (Value.field? field.key entries).getD field.default := by
  rcases value_cases environ flags entries field with ⟨hflag, -⟩ | ⟨v, hvariable, hv, -⟩ | ⟨-, hvalue⟩
  · rw [h.1] at hflag
    cases hflag
  · rw [h.2 v hvariable] at hv
    cases hv
  · exact hvalue

/-! Kinds of value. -/

/-- What a parameter is declared to be: a text, or nothing where it is the file of certificates. -/
def Field.Declared (field : Field) (v : Value) : Prop :=
  v.kind = .text ∨ (field = .vcenterCaCerts ∧ v = .null)

theorem declared_default (field : Field) : field.Declared field.default := by
  cases field with
  | vcenterCaCerts => exact .inr ⟨rfl, rfl⟩
  | _ => exact .inl rfl

theorem text_of_truthy (h : v = .null ∨ v.kind = .text) (htruthy : v.isTruthy = true) : v.kind = .text := by
  rcases h with rfl | h
  · cases htruthy
  · exact h

/-- The file gives the parameter, nothing before it does, and it is not what it is declared to be. -/
def Misdeclared (environ : Environment) (flags : Field → Value) (entries : List (Value × Value)) (field : Field)
    (v : Value) : Prop :=
  LeftToFile environ flags field ∧ Value.field? field.key entries = some v ∧ ¬field.Declared v

theorem declared_resolve (hflags : ∀ field, flags field = .null ∨ (flags field).kind = .text)
    (henviron : ∀ name v, environ.get? name = some v → v.kind = .text) (field : Field) :
    field.Declared ((Settings.resolve flags environ entries).value field) ↔
      ∀ v, ¬Misdeclared environ flags entries field v := by
  constructor
  · rintro hdeclared v ⟨hleft, hentry, hother⟩
    rw [value_left hleft, hentry] at hdeclared
    exact hother hdeclared
  · intro h
    rcases value_cases environ flags entries field with
      ⟨hflag, hvalue⟩ | ⟨v, hvariable, -, hvalue⟩ | ⟨hleft, hvalue⟩
    · rw [hvalue]
      exact .inl (text_of_truthy (hflags field) hflag)
    · rw [hvalue]
      exact .inl (henviron _ v hvariable)
    · rw [hvalue]
      cases hentry : Value.field? field.key entries with
      | none => exact declared_default field
      | some v => exact Classical.byContradiction fun hother => h v ⟨hleft, hentry, hother⟩

/-- Parameters that have passed the checks: the required ones are not empty, and each of them is what it
is declared to be exactly if the file does not make it something else. Then it is what the file has. -/
theorem checked_declared (hflags : ∀ field, flags field = .null ∨ (flags field).kind = .text)
    (henviron : ∀ name v, environ.get? name = some v → v.kind = .text)
    (hresolve : resolve files environ path flags = .ok settings)
    (hcheck : Preflight.checkSettings files settings = .ok ()) :
    (∀ field ∈ Field.required, (settings.value field).isTruthy = true) ∧
      ∃ entries, (if path.isTruthy then load files path else .ok []) = .ok entries ∧
        ∀ field, (field.Declared (settings.value field) ↔ ∀ v, ¬Misdeclared environ flags entries field v) ∧
          ∀ v, Misdeclared environ flags entries field v → settings.value field = v := by
  obtain ⟨entries, hentries, rfl⟩ := resolve_ok hresolve
  refine ⟨fun field hfield => Preflight.truthy_of_checked hcheck hfield, entries, hentries, fun field => ?_⟩
  refine ⟨declared_resolve hflags henviron field, ?_⟩
  rintro v ⟨hleft, hentry, -⟩
  rw [value_left hleft, hentry]
  rfl

/-! A file that gives a number for a password. -/

def numberFile : Files := { root := .directory [("c.yml", .file "vm_password: 12345\n".toUTF8.toList)] }

/-- Everything but what is in the file. -/
def flagsBeside (field : Field) : Value :=
  if field = .vmPassword ∨ field = .vcenterCaCerts then .null else .text "stemcell"

theorem read_only (data : List UInt8) :
    Files.read { root := .directory [("c.yml", .file data)] } (.text "c.yml") = .ok data := by
  have hnames : Path.names "c.yml" = ["c.yml"] := by decide +kernel
  rw [Files.read, Files.find, hnames]
  simp only [FileNode.walk]
  rfl

theorem loaded {β : Type} {f : List (Value × Value) → β} {seen : β}
    (h : (load files path).toOption.map f = some seen) :
    ∃ entries, load files path = .ok entries ∧ f entries = seen := by
  cases hload : load files path with
  | error stop =>
    rw [hload] at h
    cases h
  | ok entries =>
    rw [hload] at h
    exact ⟨entries, rfl, Option.some.inj h⟩

theorem load_number : ∃ entries v, load numberFile (.text "c.yml") = .ok entries ∧
    Value.field? Field.vmPassword.key entries = some v ∧ v.kind = .int ∧ v.isTruthy = true ∧
    Value.field? Field.vcenterCaCerts.key entries = none := by
  have hread : numberFile.read (.text "c.yml") = .ok "vm_password: 12345\n".toUTF8.toList := read_only _
  have hfields : (load numberFile (.text "c.yml")).toOption.map (fun entries =>
      ((Value.field? Field.vmPassword.key entries).map fun v => (v.kind, v.isTruthy),
        (Value.field? Field.vcenterCaCerts.key entries).isNone)) = some (some (.int, true), true) := by
    rw [load, hread]
    decide +kernel
  obtain ⟨entries, hload, hfields⟩ := loaded hfields
  simp only [Prod.mk.injEq, Option.map_eq_some_iff, Option.isNone_iff_eq_none] at hfields
  obtain ⟨⟨v, hv, hkind, htruthy⟩, hcerts⟩ := hfields
  exact ⟨entries, v, hload, hv, hkind, htruthy, hcerts⟩

theorem checked_declared_number :
    ∃ settings : Settings, resolve numberFile [] (.text "c.yml") flagsBeside = .ok settings ∧
      Preflight.checkSettings numberFile settings = .ok () ∧
      (∀ field ∈ Field.required, (settings.value field).isTruthy = true) ∧
      ¬Field.vmPassword.Declared (settings.value .vmPassword) := by
  obtain ⟨entries, v, hload, hv, hkind, htruthy, hcerts⟩ := load_number
  have hpath : (Value.text "c.yml").isTruthy = true := by decide
  have hresolve : resolve numberFile [] (.text "c.yml") flagsBeside =
      .ok (.resolve flagsBeside [] entries) := by
    rw [resolve, if_pos hpath, hload]
    rfl
  have hleft : LeftToFile [] flagsBeside .vmPassword := ⟨rfl, by simp [Environment.get?]⟩
  have hpassword : (Settings.resolve flagsBeside [] entries).value .vmPassword = v := by
    rw [value_left hleft, hv]
    rfl
  have hcertificates : (Settings.resolve flagsBeside [] entries).value .vcenterCaCerts = .null := by
    rw [value_left ⟨rfl, by simp [Environment.get?]⟩, hcerts]
    rfl
  have hmissing : (Settings.resolve flagsBeside [] entries).missing = [] := by
    rw [Settings.missing, List.filter_eq_nil_iff]
    intro field hfield
    cases field with
    | vmPassword => simp [hpassword, htruthy]
    | vcenterCaCerts => exact absurd hfield (by decide)
    | _ => exact Bool.false_ne_true
  have hcheck : Preflight.checkSettings numberFile (.resolve flagsBeside [] entries) = .ok () := by
    rw [Preflight.checkSettings, hmissing, hcertificates]
    rfl
  have hflags : ∀ field, flagsBeside field = .null ∨ (flagsBeside field).kind = .text := by
    intro field
    unfold flagsBeside
    split
    · exact .inl rfl
    · exact .inr rfl
  obtain ⟨hgiven, found, hfound, hdeclared⟩ :=
    checked_declared hflags (by simp [Environment.get?]) hresolve hcheck
  rw [if_pos hpath, hload] at hfound
  cases hfound
  refine ⟨_, hresolve, hcheck, hgiven, fun h => (hdeclared .vmPassword).1.mp h v ⟨hleft, hv, ?_⟩⟩
  rintro (htext | ⟨hfield, -⟩)
  · rw [hkind] at htext
    cases htext
  · cases hfield

end Config

end Stemcell
