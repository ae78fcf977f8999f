import Stemcell.Proofs.Config.Settings

/-! Where the value of each parameter comes from, and what the checks make of all of them. -/
namespace Stemcell

namespace Files

variable {files : Files} {v : Value}

/-- What the system takes for the path or the number of a file: a text, bytes, or a whole number of 32 bits. -/
inductive PathLike : Value → Prop where
  | text (path : String) : PathLike (.text path)
  | ragged (codes : List Nat) : PathLike (.ragged codes)
  | bytes (data : List UInt8) : PathLike (.bytes data)
  | bool (b : Bool) : PathLike (.bool b)
  | int (n : Int) (hlow : -2147483648 ≤ n) (hhigh : n < 2147483648) : PathLike (.int n)

/-- There is a file with contents at a path, or it is open under a number. -/
inductive FileAt (files : Files) : Value → Prop where
  | text {path : String} {data : List UInt8} (h : files.find path = .ok (.file data)) : FileAt files (.text path)
  | bytes {path data : List UInt8} (h : files.findBytes path = .ok (.file data)) : FileAt files (.bytes path)
  | ragged {codes : List Nat} {path data : List UInt8} (hpath : encoded? codes = some path)
    (h : files.findBytes path = .ok (.file data)) : FileAt files (.ragged codes)
  | bool {b : Bool} {file : OpenFile} (h : files.openAs? (numberOf b) = some file) (hplain : file.isPlain = true) :
    FileAt files (.bool b)
  | int {n : Int} {file : OpenFile} (hlow : -2147483648 ≤ n) (hhigh : n < 2147483648)
    (h : files.openAs? n = some file) (hplain : file.isPlain = true) : FileAt files (.int n)

theorem isPlainFile_iff {found : Except Refusal FileNode} :
    isPlainFile found = true ↔ ∃ data, found = .ok (.file data) := by
  constructor
  · intro h
    cases found with
    | error refusal => cases h
    | ok node =>
      cases node with
      | file data => exact ⟨data, rfl⟩
      | _ => cases h
  · rintro ⟨data, rfl⟩
    rfl

theorem isOpenFile_iff {n : Int} : (files.openAs? n).any OpenFile.isPlain = true ↔
    ∃ file, files.openAs? n = some file ∧ file.isPlain = true := by
  rw [Option.any_eq_true]

theorem isFile_ragged {codes : List Nat} :
    files.isFile (.ragged codes) = .ok true ↔ FileAt files (.ragged codes) := by
  rw [isFile, Except.ok.injEq, Option.any_eq_true]
  constructor
  · rintro ⟨path, hpath, hfile⟩
    obtain ⟨data, hfound⟩ := isPlainFile_iff.mp hfile
    exact .ragged hpath hfound
  · intro h
    cases h with
    | ragged hpath hfound => exact ⟨_, hpath, isPlainFile_iff.mpr ⟨_, hfound⟩⟩

theorem isDescriptor_iff {n : Int} : isDescriptor n = true ↔ -2147483648 ≤ n ∧ n < 2147483648 := by
  simp [isDescriptor]

theorem isFile_int {n : Int} : files.isFile (.int n) = .ok true ↔ FileAt files (.int n) := by
  constructor
  · intro h
    rw [isFile] at h
    split at h
    · next hn =>
      obtain ⟨file, hfile, hplain⟩ := isOpenFile_iff.mp (Except.ok.inj h)
      exact .int (isDescriptor_iff.mp hn).1 (isDescriptor_iff.mp hn).2 hfile hplain
    · cases h
  · intro h
    cases h with
    | int hlow hhigh hfile hplain =>
      rw [isFile, if_pos (isDescriptor_iff.mpr ⟨hlow, hhigh⟩), isOpenFile_iff.mpr ⟨_, hfile, hplain⟩]

/-- What a path leads to, by its text, by its bytes or by a number, is what the question is about. -/
theorem isFile_eq_true : files.isFile v = .ok true ↔ FileAt files v := by
  cases v with
  | text path =>
    rw [isFile, Except.ok.injEq, isPlainFile_iff]
    exact ⟨fun ⟨_, h⟩ => .text h, fun | .text h => ⟨_, h⟩⟩
  | bytes path =>
    rw [isFile, Except.ok.injEq, isPlainFile_iff]
    exact ⟨fun ⟨_, h⟩ => .bytes h, fun | .bytes h => ⟨_, h⟩⟩
  | ragged codes => exact isFile_ragged
  | bool b =>
    rw [isFile, Except.ok.injEq, isOpenFile_iff]
    exact ⟨fun ⟨_, h, hplain⟩ => .bool h hplain, fun | .bool h hplain => ⟨_, h, hplain⟩⟩
  | int n => exact isFile_int
  | _ => exact ⟨fun h => (nomatch h), fun h => (nomatch h)⟩

/-- The question for a file has an answer, whatever files there are, exactly if it asks for a path. -/
theorem isFile_ok (files : Files) : (∃ found, files.isFile v = .ok found) ↔ PathLike v := by
  cases v with
  | text path => exact ⟨fun _ => .text path, fun _ => ⟨_, rfl⟩⟩
  | ragged codes => exact ⟨fun _ => .ragged codes, fun _ => ⟨_, rfl⟩⟩
  | bytes path => exact ⟨fun _ => .bytes path, fun _ => ⟨_, rfl⟩⟩
  | bool b => exact ⟨fun _ => .bool b, fun _ => ⟨_, rfl⟩⟩
  | int n =>
    rw [isFile]
    by_cases hn : isDescriptor n = true
    · rw [if_pos hn]
      exact ⟨fun _ => .int n (isDescriptor_iff.mp hn).1 (isDescriptor_iff.mp hn).2, fun _ => ⟨_, rfl⟩⟩
    · rw [if_neg hn]
      exact ⟨fun ⟨_, h⟩ => (nomatch h), fun | .int _ hlow hhigh => absurd (isDescriptor_iff.mpr ⟨hlow, hhigh⟩) hn⟩
  | _ => exact ⟨fun ⟨_, h⟩ => (nomatch h), fun h => (nomatch h)⟩

end Files

namespace Config

open Files (PathLike FileAt)

variable {files : Files} {environ : Environment} {path : Value} {flags : Field → Value}
  {entries : List (Value × Value)} {field : Field} {v : Value} {settings : Settings}

theorem Chosen.unique {flag default w : Value} {exported entry : Option Value}
    (hv : Chosen flag exported entry default v) (hw : Chosen flag exported entry default w) : v = w := by
  cases hv <;> cases hw <;> simp_all

theorem chosen_iff : Chosen (flags field) (environ.get? field.environmentVariable)
      (Value.field? field.key entries) field.default v ↔
    (Settings.resolve flags environ entries).value field = v := by
  have hvalue := chosen_resolve environ flags entries field
  constructor
  · exact hvalue.unique
  · rintro rfl
    exact hvalue

/-- A parameter is given nowhere; the file may have it, but empty. -/
def Absent (environ : Environment) (flags : Field → Value) (entries : List (Value × Value)) (field : Field) :
    Prop :=
  LeftToFile environ flags field ∧ ∀ v, Value.field? field.key entries = some v → v.isTruthy = false

theorem default_empty (field : Field) : field.default.isTruthy = false := by
  cases field <;> rfl

theorem absent_iff : Absent environ flags entries field ↔
    ((Settings.resolve flags environ entries).value field).isTruthy = false := by
  constructor
  · rintro ⟨hleft, hentry⟩
    rw [value_left hleft]
    cases h : Value.field? field.key entries with
    | none => exact default_empty field
    | some v => exact hentry v h
  · intro hempty
    rcases value_cases environ flags entries field with
      ⟨hflag, hvalue⟩ | ⟨v, -, hv, hvalue⟩ | ⟨hleft, hvalue⟩
    · rw [hvalue, hflag] at hempty
      cases hempty
    · rw [hvalue, hv] at hempty
      cases hempty
    · refine ⟨hleft, fun v hentry => ?_⟩
      rwa [hvalue, hentry] at hempty

theorem mem_missing : field ∈ (Settings.resolve flags environ entries).missing ↔
    field ∈ Field.required ∧ Absent environ flags entries field := by
  rw [Settings.missing, List.mem_filter, absent_iff, Bool.not_eq_true']

/-- What the checks come to, when these parameters are missing and this is the file of certificates. -/
structure Judged (files : Files) (missing : List Field) (certificates : Value) (result : Except Failure Unit) :
    Prop where
  named : missing ≠ [] → result = .error (.config (.missing missing)) ∧
    (Failure.config (.missing missing)).message =
      "missing required parameters: " ++ ", ".intercalate (missing.map Field.flag)
  passed : missing = [] → (result = .ok () ↔ (certificates.isTruthy = true → FileAt files certificates))
  /-- What can be a path is looked for, and a file that is not there is a problem that is told. -/
  refused : missing = [] → (certificates.isTruthy = true → PathLike certificates) →
    ∀ problem, result = .error (.config problem) ↔
      problem = .noCertificates certificates ∧ certificates.isTruthy = true ∧ ¬FileAt files certificates
  /-- What can be none is not looked for: the question itself fails. -/
  faulted : missing = [] → certificates.isTruthy = true → ¬PathLike certificates →
    ∃ fault, result = .error (.fault fault)

theorem checkSettings_missing (h : settings.missing ≠ []) :
    Preflight.checkSettings files settings = .error (.config (.missing settings.missing)) := by
  have hsome : (!settings.missing.isEmpty) = true := by simpa using h
  rw [Preflight.checkSettings, if_pos hsome]
  rfl

theorem checkSettings_complete (h : settings.missing = []) : Preflight.checkSettings files settings =
    if (settings.value .vcenterCaCerts).isTruthy then
      match files.isFile (settings.value .vcenterCaCerts) with
      | .error f => .error (.fault f)
      | .ok true => .ok ()
      | .ok false => .error (.config (.noCertificates (settings.value .vcenterCaCerts)))
    else .ok () := by
  rw [Preflight.checkSettings, h]
  rfl

theorem checkSettings_passed (hmissing : settings.missing = []) :
    Preflight.checkSettings files settings = .ok () ↔
      ((settings.value .vcenterCaCerts).isTruthy = true → FileAt files (settings.value .vcenterCaCerts)) := by
  rw [checkSettings_complete hmissing, ← Files.isFile_eq_true]
  cases (settings.value .vcenterCaCerts).isTruthy with
  | false => exact ⟨fun _ h => (nomatch h), fun _ => rfl⟩
  | true =>
    simp only [if_true, true_implies]
    cases files.isFile (settings.value .vcenterCaCerts) with
    | error f => exact ⟨fun h => (nomatch h), fun h => (nomatch h)⟩
    | ok found =>
      cases found with
      | true => exact ⟨fun _ => rfl, fun _ => rfl⟩
      | false => exact ⟨fun h => (nomatch h), fun h => (nomatch h)⟩

theorem checkSettings_refused (hmissing : settings.missing = [])
    (hpath : (settings.value .vcenterCaCerts).isTruthy = true → PathLike (settings.value .vcenterCaCerts))
    (problem : Problem) : Preflight.checkSettings files settings = .error (.config problem) ↔
      problem = .noCertificates (settings.value .vcenterCaCerts) ∧
        (settings.value .vcenterCaCerts).isTruthy = true ∧ ¬FileAt files (settings.value .vcenterCaCerts) := by
  rw [checkSettings_complete hmissing, ← Files.isFile_eq_true]
  cases htruthy : (settings.value .vcenterCaCerts).isTruthy with
  | false => exact ⟨fun h => (nomatch h), fun h => (nomatch h.2.1)⟩
  | true =>
    obtain ⟨found, hfound⟩ := (Files.isFile_ok files).mpr (hpath htruthy)
    rw [if_pos rfl, hfound]
    cases found with
    | true => exact ⟨fun h => (nomatch h), fun h => absurd rfl h.2.2⟩
    | false =>
      constructor
      · intro h
        cases h
        exact ⟨rfl, rfl, fun h => (nomatch h)⟩
      · rintro ⟨rfl, -⟩
        rfl

theorem checkSettings_faulted (hmissing : settings.missing = [])
    (htruthy : (settings.value .vcenterCaCerts).isTruthy = true)
    (hpath : ¬PathLike (settings.value .vcenterCaCerts)) :
    ∃ fault, Preflight.checkSettings files settings = .error (.fault fault) := by
  rw [checkSettings_complete hmissing, if_pos htruthy]
  cases hfound : files.isFile (settings.value .vcenterCaCerts) with
  | error fault => exact ⟨fault, rfl⟩
  | ok found => exact absurd ((Files.isFile_ok files).mp ⟨found, hfound⟩) hpath

theorem judged (files : Files) (settings : Settings) : Judged files settings.missing
    (settings.value .vcenterCaCerts) (Preflight.checkSettings files settings) where
  named hmissing := ⟨checkSettings_missing hmissing, rfl⟩
  passed := checkSettings_passed
  refused := checkSettings_refused
  faulted := checkSettings_faulted

theorem resolve_of_load (hentries : (if path.isTruthy then load files path else .ok []) = .ok entries) :
    resolve files environ path flags = .ok (.resolve flags environ entries) := by
  unfold resolve
  split at hentries
  · next hpath =>
    rw [if_pos hpath, hentries]
    rfl
  · next hpath =>
    cases hentries
    rw [if_neg hpath]
    rfl

theorem pathLike_of_text (h : v.kind = .text) : PathLike v := by
  cases v with
  | text path => exact .text path
  | ragged codes => exact .ragged codes
  | enclosing isMapping => cases isMapping <;> cases h
  | _ => cases h

/-- Where flags and variables are texts, only the file can give a value that is no path. -/
theorem misdeclared_of_not_pathLike (hflags : ∀ field, flags field = .null ∨ (flags field).kind = .text)
    (henviron : ∀ name v, environ.get? name = some v → v.kind = .text)
    (htruthy : ((Settings.resolve flags environ entries).value field).isTruthy = true)
    (hpath : ¬PathLike ((Settings.resolve flags environ entries).value field)) :
    Misdeclared environ flags entries field ((Settings.resolve flags environ entries).value field) := by
  have hother : ¬field.Declared ((Settings.resolve flags environ entries).value field) := by
    rintro (htext | ⟨-, hnull⟩)
    · exact hpath (pathLike_of_text htext)
    · rw [hnull] at htruthy
      cases htruthy
  rw [declared_resolve hflags henviron] at hother
  obtain ⟨v, hmisdeclared⟩ := Classical.not_forall_not.mp hother
  rw [value_left hmisdeclared.1, hmisdeclared.2.1]
  exact hmisdeclared

/-- Every parameter is chosen from its own flag, its own variable and its own entry of the file, and the checks
name those that are given nowhere, in order, or else judge the file of certificates. A value that is no path is
not judged: it is a fault, and comes from the file. -/
theorem resolve_and_check (environ : Environment) (flags : Field → Value)
    (hentries : (if path.isTruthy then load files path else .ok []) = .ok entries) :
    ∃ settings, resolve files environ path flags = .ok settings ∧
      (∀ field v, settings.value field = v ↔ Chosen (flags field) (environ.get? field.environmentVariable)
        (Value.field? field.key entries) field.default v) ∧
      (∃ missing, missing.Sublist Field.required ∧
        (∀ field, field ∈ missing ↔ field ∈ Field.required ∧ Absent environ flags entries field) ∧
        Judged files missing (settings.value .vcenterCaCerts) (Preflight.checkSettings files settings)) ∧
      ((∀ field, flags field = .null ∨ (flags field).kind = .text) →
        (∀ name v, environ.get? name = some v → v.kind = .text) →
        (settings.value .vcenterCaCerts).isTruthy = true → ¬PathLike (settings.value .vcenterCaCerts) →
        Misdeclared environ flags entries .vcenterCaCerts (settings.value .vcenterCaCerts)) := by
  refine ⟨_, resolve_of_load hentries, fun field v => chosen_iff.symm, ?_, misdeclared_of_not_pathLike⟩
  exact ⟨_, List.filter_sublist, fun field => mem_missing, judged _ _⟩

/-! A file that gives a list for the file of certificates, and no address for the guest. -/

def listFile : Files :=
  { root := .directory [("c.yml", .file "vm_ip: ''\nvcenter_ca_certs: [a.pem]\n".toUTF8.toList)] }

/-- An empty flag for the address, none for the file of certificates, and all others. -/
def flagsBesideList : Field → Value
  | .vmIp => .text ""
  | .vcenterCaCerts => .null
  | _ => .text "stemcell"

def addressVariable : Environment := [("STEMBUILD_VM_IP", .text "10.0.0.5")]

theorem get?_addressVariable : addressVariable.get? Field.vmIp.environmentVariable = some (.text "10.0.0.5") ∧
    addressVariable.get? Field.vcenterCaCerts.environmentVariable = none := by
  have haddress : Field.vmIp.environmentVariable = "STEMBUILD_VM_IP" := by decide +kernel
  have hcertificates : Field.vcenterCaCerts.environmentVariable = "STEMBUILD_VCENTER_CA_CERTS" := by
    decide +kernel
  rw [haddress, hcertificates]
  exact ⟨rfl, rfl⟩

theorem load_list : ∃ entries v, load listFile (.text "c.yml") = .ok entries ∧
    Value.field? Field.vcenterCaCerts.key entries = some v ∧ v.kind = .list ∧ v.isTruthy = true := by
  have hread : listFile.read (.text "c.yml") =
      .ok "vm_ip: ''\nvcenter_ca_certs: [a.pem]\n".toUTF8.toList := read_only _
  have hfields : (load listFile (.text "c.yml")).toOption.map (fun entries =>
      (Value.field? Field.vcenterCaCerts.key entries).map fun v => (v.kind, v.isTruthy)) =
        some (some (.list, true)) := by
    rw [load, hread]
    decide +kernel
  obtain ⟨entries, hload, hfields⟩ := loaded hfields
  simp only [Option.map_eq_some_iff, Prod.mk.injEq] at hfields
  obtain ⟨v, hv, hkind, htruthy⟩ := hfields
  exact ⟨entries, v, hload, hv, hkind, htruthy⟩

theorem resolve_and_check_list :
    ∃ settings : Settings, resolve listFile addressVariable (.text "c.yml") flagsBesideList = .ok settings ∧
      settings.value .vmIp = .text "10.0.0.5" ∧ (settings.value .vcenterCaCerts).kind = .list ∧
      ∃ fault, Preflight.checkSettings listFile settings = .error (.fault fault) := by
  obtain ⟨entries, v, hload, hv, hkind, htruthy⟩ := load_list
  obtain ⟨haddress, hcertificates⟩ := get?_addressVariable
  have hpath : (Value.text "c.yml").isTruthy = true := by decide
  have hentries : (if (Value.text "c.yml").isTruthy then load listFile (.text "c.yml") else .ok []) =
      .ok entries := by
    rw [if_pos hpath, hload]
  obtain ⟨settings, hresolve, hchosen, ⟨missing, -, hmissing, hjudged⟩, -⟩ :=
    resolve_and_check addressVariable flagsBesideList hentries
  have hvalue : settings.value .vcenterCaCerts = v :=
    (hchosen .vcenterCaCerts v).mpr (.entry rfl (by simp [hcertificates]) hv)
  have hnone : missing = [] := by
    rw [List.eq_nil_iff_forall_not_mem]
    intro field hfield
    obtain ⟨hrequired, ⟨hflag, hexported⟩, -⟩ := (hmissing field).mp hfield
    cases field with
    | vmIp => exact absurd (hexported _ haddress) (by decide)
    | vcenterCaCerts => exact absurd hrequired (by decide)
    | _ => exact absurd hflag (by decide)
  rw [hvalue] at hjudged
  refine ⟨settings, hresolve, (hchosen .vmIp _).mpr (.exported rfl haddress (by decide)), ?_, ?_⟩
  · rw [hvalue, hkind]
  · refine hjudged.faulted hnone htruthy fun hlike => ?_
    cases hlike <;> cases hkind

end Config

end Stemcell
