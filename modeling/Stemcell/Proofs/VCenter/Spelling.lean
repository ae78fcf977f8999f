import Stemcell.Proofs.Value
import Stemcell.Proofs.VCenter.ExitCode
import Stemcell.Proofs.VCenter.PowerState

/-! Answers whose names are spelled in different ways. Where no object that is looked into has a name in
both spellings, the spelling of each name in each object can be chosen freely: what is read stays the
same, and so does what is said when nothing can be read. -/
namespace Stemcell.VCenter

/-- The other spelling of a name, if it is to be changed; all other texts stay as they are. -/
def turned (name : String) (change : Bool) (s : String) : String :=
  if change then
    if s = name then smallInitial name else if s = smallInitial name then name else s
  else s

/-- An entry with the name, in whatever spelling, has its value changed by `inner` as well. -/
def respellEntry (name : String) (change : Bool) (inner : Value → Value) : Value × Value → Value × Value
  | (.text s, v) => (.text (turned name change s), if s = name ∨ s = smallInitial name then inner v else v)
  | e => e

/-- What is no object has no names. -/
def respell (name : String) (change : Bool) (inner : Value → Value) : Value → Value
  | .mapping entries => .mapping (entries.map (respellEntry name change inner))
  | v => v

def onItems (inner : Nat → Value → Value) : Value → Value
  | .list items => .list (items.mapIdx inner)
  | v => v

def onFirst (inner : Value → Value) : Value → Value
  | .list (item :: rest) => .list (inner item :: rest)
  | v => v

def respellProcess (pid exitCode : Bool) (process : Value) : Value :=
  respell "Pid" pid id (respell "ExitCode" exitCode id process)

/-- Which names of a list of processes are to be given the other spelling, in each process for itself. -/
structure ProcessSpelling where
  list : Bool
  pid : Nat → Bool
  exitCode : Nat → Bool

def ProcessSpelling.respell (spelling : ProcessSpelling) : Value → Value :=
  VCenter.respell "ProcessInfo" spelling.list <| onItems fun i =>
    respellProcess (spelling.pid i) (spelling.exitCode i)

def respellMachine (runtime state : Bool) : Value → Value :=
  respell "Runtime" runtime (respell "PowerState" state id)

/-- Which names of a description of machines are to be given the other spelling. -/
structure MachineSpelling where
  list : Bool
  runtime : Bool
  state : Bool

def MachineSpelling.respell (spelling : MachineSpelling) : Value → Value :=
  VCenter.respell "VirtualMachines" spelling.list <| onFirst <| respellMachine spelling.runtime spelling.state

/-- An object does not have the name in both spellings. -/
def OneSpelling (name : String) (entries : List (Value × Value)) : Prop :=
  Value.field? name entries = none ∨ Value.field? (smallInitial name) entries = none

/-- The processes that are looked into, up to the first one with the number, and the names that are looked for. -/
inductive LookedAmong (pid : Value) : List Value → String → List (Value × Value) → Prop where
  | pid (entries : List (Value × Value)) (rest : List Value) :
    LookedAmong pid (.mapping entries :: rest) "Pid" entries
  | exitCode {entries : List (Value × Value)} (rest : List Value) (hnamed : Named pid entries) :
    LookedAmong pid (.mapping entries :: rest) "ExitCode" entries
  | behind {process : Value} {rest : List Value} {name : String} {entries : List (Value × Value)}
    (hother : Other pid process) (h : LookedAmong pid rest name entries) :
    LookedAmong pid (process :: rest) name entries

/-- The objects that are looked into for the exit code of a process, and the names that are looked for. -/
inductive LookedForCode (pid : Value) : Value → String → List (Value × Value) → Prop where
  | list (top : List (Value × Value)) : LookedForCode pid (.mapping top) "ProcessInfo" top
  | process {top : List (Value × Value)} {processes : List Value} {name : String}
    {entries : List (Value × Value)} (hlist : under "ProcessInfo" top = .list processes)
    (h : LookedAmong pid processes name entries) : LookedForCode pid (.mapping top) name entries

/-- The objects that are looked into for the power state, and the names that are looked for. -/
inductive LookedForState : Value → String → List (Value × Value) → Prop where
  | list (top : List (Value × Value)) : LookedForState (.mapping top) "VirtualMachines" top
  | runtime {top machine : List (Value × Value)} (rest : List Value)
    (hlist : under "VirtualMachines" top = .list (.mapping machine :: rest)) :
    LookedForState (.mapping top) "Runtime" machine
  | state {top machine runtime : List (Value × Value)} (rest : List Value)
    (hlist : under "VirtualMachines" top = .list (.mapping machine :: rest))
    (hruntime : under "Runtime" machine = .mapping runtime) : LookedForState (.mapping top) "PowerState" runtime

/-! One object. -/

section
variable {name other : String} {change : Bool} {inner : Value → Value} {entries : List (Value × Value)}

theorem sameKey_text (s t : String) : (Value.text s).sameKey (.text t) = decide (s = t) := rfl

/-- Looking for a name among entries that are changed one by one. -/
theorem field?_map {s t : String} {f : Value × Value → Value × Value} (inner : Value → Value)
    (hkey : ∀ e, (f e).1.sameKey (.text s) = e.1.sameKey (.text t))
    (hvalue : ∀ e, e.1.sameKey (.text t) = true → (f e).2 = inner e.2) (entries : List (Value × Value)) :
    Value.field? s (entries.map f) = (Value.field? t entries).map inner := by
  unfold Value.field? Value.entry?
  induction entries with
  | nil => rfl
  | cons e entries ih =>
    rw [List.map_cons, List.find?_cons, List.find?_cons, hkey]
    cases he : e.1.sameKey (.text t) with
    | true => exact congrArg some (hvalue e he)
    | false => exact ih

theorem turned_eq_iff {s t : String} : turned name change s = t ↔ s = turned name change t := by
  unfold turned
  grind

theorem turned_mem {s : String} (h : s = name ∨ s = smallInitial name) :
    turned name change s = name ∨ turned name change s = smallInitial name := by
  unfold turned
  grind

theorem sameKey_respellEntry (e : Value × Value) (t : String) :
    (respellEntry name change inner e).1.sameKey (.text t) = e.1.sameKey (.text (turned name change t)) := by
  obtain ⟨key, v⟩ := e
  have hother : ∀ {u : String}, (∀ s, key ≠ .text s) → key.sameKey (.text u) = false := fun h =>
    Bool.eq_false_iff.mpr fun hsame => h _ (Value.eq_of_sameKey rfl hsame)
  cases key with
  | text s =>
    rw [respellEntry, sameKey_text, sameKey_text]
    exact decide_eq_decide.mpr turned_eq_iff
  | _ => exact (hother (by simp)).trans (hother (by simp)).symm

theorem field?_respelled {t : String} (h : t = name ∨ t = smallInitial name) :
    Value.field? t (entries.map (respellEntry name change inner)) =
      (Value.field? (turned name change t) entries).map inner := by
  refine field?_map inner (fun e => sameKey_respellEntry e t) (fun e he => ?_) entries
  obtain ⟨key, v⟩ := e
  obtain rfl := Value.eq_of_sameKey rfl he
  exact if_pos (turned_mem h)

theorem field?_other {t : String} (h : t ≠ name) (hsmall : t ≠ smallInitial name) :
    Value.field? t (entries.map (respellEntry name change inner)) = Value.field? t entries := by
  have hturned : turned name change t = t := by
    unfold turned
    grind
  have hfield := field?_map (s := t) (t := t) (f := respellEntry name change inner) id
    (fun e => by rw [sameKey_respellEntry, hturned]) (fun e he => ?_) entries
  · rw [hfield, Option.map_id]
    rfl
  · obtain ⟨key, v⟩ := e
    obtain rfl := Value.eq_of_sameKey rfl he
    exact if_neg (by simp [h, hsmall])

theorem under_respelled (h : OneSpelling name entries) (hnull : inner .null = .null) :
    under name (entries.map (respellEntry name change inner)) = inner (under name entries) := by
  have hswap : change = true → turned name change name = smallInitial name ∧
      turned name change (smallInitial name) = name := by
    unfold turned
    grind
  have hor : (Value.field? (turned name change name) entries).or
      (Value.field? (turned name change (smallInitial name)) entries) =
      (Value.field? name entries).or (Value.field? (smallInitial name) entries) := by
    cases change with
    | false => rfl
    | true =>
      rw [(hswap rfl).1, (hswap rfl).2]
      rcases h with h | h <;> simp [h]
  rw [under, field?_respelled (.inl rfl), field?_respelled (.inr rfl), ← Option.map_or, hor, under]
  have hmap := Option.getD_map inner .null ((Value.field? name entries).or (Value.field? (smallInitial name) entries))
  rw [hnull] at hmap
  exact hmap

/-- Two names have no spelling in common. -/
def Apart (name other : String) : Prop :=
  (other ≠ name ∧ other ≠ smallInitial name) ∧ smallInitial other ≠ name ∧ smallInitial other ≠ smallInitial name

instance (name other : String) : Decidable (Apart name other) := inferInstanceAs (Decidable (_ ∧ _))

theorem under_apart (h : Apart name other) :
    under other (entries.map (respellEntry name change inner)) = under other entries := by
  rw [under, field?_other h.1.1 h.1.2, field?_other h.2.1 h.2.2, under]

theorem OneSpelling.respelled (hone : OneSpelling other entries) (h : Apart name other) :
    OneSpelling other (entries.map (respellEntry name change inner)) := by
  rwa [OneSpelling, field?_other h.1.1 h.1.2, field?_other h.2.1 h.2.2]

variable {v : Value}

theorem respell_refused (h : ∀ entries, v ≠ .mapping entries) : respell name change inner v = v := by
  cases v with
  | mapping entries => exact absurd rfl (h entries)
  | _ => rfl

/-- What is asked for the name answers, or refuses, as it did. -/
theorem field_respelled (h : ∀ entries, v = .mapping entries → OneSpelling name entries)
    (hnull : inner .null = .null) : field name (respell name change inner v) = (field name v).map inner := by
  by_cases hmapping : ∃ entries, v = .mapping entries
  · obtain ⟨entries, rfl⟩ := hmapping
    rw [respell, field_mapping, field_mapping, under_respelled (h entries rfl) hnull]
    rfl
  · have hother : ∀ entries, v ≠ .mapping entries := fun entries hv => hmapping ⟨entries, hv⟩
    obtain ⟨f, hf, -⟩ := field_refused name hother
    rw [respell_refused hother, hf]
    rfl

theorem field_apart (h : Apart name other) : field other (respell name change inner v) = field other v := by
  cases v with
  | mapping entries => rw [respell, field_mapping, field_mapping, under_apart h]
  | _ => rfl

end

/-! Processes. -/

section
variable {pid process : Value} {turnPid turnCode : Bool}

theorem pid_respelled (h : ∀ entries, process = .mapping entries → OneSpelling "Pid" entries) :
    field "Pid" (respellProcess turnPid turnCode process) = field "Pid" process := by
  have hapart : Apart "ExitCode" "Pid" := by decide +kernel
  have hinner : ∀ entries, respell "ExitCode" turnCode id process = .mapping entries →
      OneSpelling "Pid" entries := by
    intro entries hentries
    cases process with
    | mapping entries' =>
      cases hentries
      exact (h entries' rfl).respelled hapart
    | _ => cases hentries
  rw [respellProcess, field_respelled hinner rfl, Except.map_id, id, field_apart hapart]

theorem exitCode_respelled (h : ∀ entries, process = .mapping entries → OneSpelling "ExitCode" entries) :
    field "ExitCode" (respellProcess turnPid turnCode process) = field "ExitCode" process := by
  have hapart : Apart "Pid" "ExitCode" := by decide +kernel
  rw [respellProcess, field_apart hapart, field_respelled h rfl, Except.map_id, id]

/-- Going through the processes meets the same numbers and the same code. -/
theorem exitCodeAmong_respelled {processes : List Value}
    (h : ∀ name entries, LookedAmong pid processes name entries → OneSpelling name entries)
    (turnPid turnCode : Nat → Bool) :
    exitCodeAmong pid (processes.mapIdx fun i => respellProcess (turnPid i) (turnCode i)) =
      exitCodeAmong pid processes := by
  induction processes generalizing turnPid turnCode with
  | nil => rfl
  | cons process processes ih =>
    have hpid : field "Pid" (respellProcess (turnPid 0) (turnCode 0) process) = field "Pid" process := by
      refine pid_respelled ?_
      rintro entries rfl
      exact h _ _ (.pid entries processes)
    rw [List.mapIdx_cons, exitCodeAmong, exitCodeAmong, hpid]
    by_cases hmapping : ∃ entries, process = .mapping entries
    · obtain ⟨entries, rfl⟩ := hmapping
      rw [field_mapping]
      change (if Named pid entries then _ else _) = if Named pid entries then _ else _
      by_cases hnamed : Named pid entries
      · have hcode : field "ExitCode" (respellProcess (turnPid 0) (turnCode 0) (.mapping entries)) =
            field "ExitCode" (.mapping entries) := by
          refine exitCode_respelled ?_
          rintro _ ⟨⟩
          exact h _ _ (.exitCode processes hnamed)
        rw [if_pos hnamed, if_pos hnamed, hcode]
      · rw [if_neg hnamed, if_neg hnamed]
        exact ih (fun name found hlooked => h name found (.behind ⟨entries, rfl, hnamed⟩ hlooked)) _ _
    · obtain ⟨f, hf, -⟩ := field_refused "Pid" fun entries hentries => hmapping ⟨entries, hentries⟩
      rw [hf]
      rfl

theorem onItems_other {v : Value} (h : ∀ items, v ≠ .list items) (inner : Nat → Value → Value) :
    onItems inner v = v := by
  cases v with
  | list items => exact absurd rfl (h items)
  | _ => rfl

theorem exitCodeIn_respelled {doc : Value}
    (h : ∀ name entries, LookedForCode pid doc name entries → OneSpelling name entries)
    (spelling : ProcessSpelling) : exitCodeIn pid (spelling.respell doc) = exitCodeIn pid doc := by
  rw [ProcessSpelling.respell]
  by_cases hmapping : ∃ top, doc = .mapping top
  · obtain ⟨top, rfl⟩ := hmapping
    let inner := fun i => respellProcess (spelling.pid i) (spelling.exitCode i)
    have htop : under "ProcessInfo" (top.map (respellEntry "ProcessInfo" spelling.list (onItems inner))) =
        onItems inner (under "ProcessInfo" top) := under_respelled (h _ _ (.list top)) rfl
    rw [respell]
    by_cases hlist : ∃ processes, under "ProcessInfo" top = .list processes
    · obtain ⟨processes, hprocesses⟩ := hlist
      rw [hprocesses] at htop
      rw [exitCodeIn_listed htop, exitCodeIn_listed hprocesses]
      exact exitCodeAmong_respelled (fun name entries hlooked => h name entries (.process hprocesses hlooked)) _ _
    · rw [onItems_other fun processes hprocesses => hlist ⟨processes, hprocesses⟩] at htop
      rw [exitCodeIn_mapping, exitCodeIn_mapping, htop]
  · rw [respell_refused fun entries hentries => hmapping ⟨entries, hentries⟩]

end

/-! Machines. -/

section
variable {machine machines doc : Value} {turnRuntime turnState : Bool}

theorem runtime_respelled
    (hruntime : ∀ entries, machine = .mapping entries → OneSpelling "Runtime" entries)
    (hstate : ∀ entries runtime, machine = .mapping entries → under "Runtime" entries = .mapping runtime →
      OneSpelling "PowerState" runtime) :
    (field "Runtime" (respellMachine turnRuntime turnState machine) >>= field "PowerState") =
      field "Runtime" machine >>= field "PowerState" := by
  rw [respellMachine, field_respelled hruntime rfl]
  by_cases hmapping : ∃ entries, machine = .mapping entries
  · obtain ⟨entries, rfl⟩ := hmapping
    rw [field_mapping]
    change field "PowerState" (respell "PowerState" turnState id (under "Runtime" entries)) =
      field "PowerState" (under "Runtime" entries)
    rw [field_respelled (fun runtime => hstate entries runtime rfl) rfl, Except.map_id, id]
  · obtain ⟨f, hf, -⟩ := field_refused "Runtime" fun entries hentries => hmapping ⟨entries, hentries⟩
    rw [hf]
    rfl

theorem onFirst_other (h : ∀ first rest, machines ≠ .list (first :: rest)) (inner : Value → Value) :
    onFirst inner machines = machines := by
  cases machines with
  | list items =>
    cases items with
    | nil => rfl
    | cons first rest => exact absurd rfl (h first rest)
  | _ => rfl

theorem stateIn_mapping (top : List (Value × Value)) :
    stateIn (.mapping top) = (firstOf (orNoItems (under "VirtualMachines" top)) >>= fun machine =>
      field "Runtime" machine >>= field "PowerState") := by
  rw [stateIn, field_mapping]
  rfl

theorem stateIn_first {top : List (Value × Value)} {first : Value} {rest : List Value}
    (h : under "VirtualMachines" top = .list (first :: rest)) :
    stateIn (.mapping top) = (field "Runtime" first >>= field "PowerState") := by
  rw [stateIn_mapping, h]
  rfl

theorem stateIn_respelled (h : ∀ name entries, LookedForState doc name entries → OneSpelling name entries)
    (spelling : MachineSpelling) : stateIn (spelling.respell doc) = stateIn doc := by
  rw [MachineSpelling.respell]
  by_cases hmapping : ∃ top, doc = .mapping top
  · obtain ⟨top, rfl⟩ := hmapping
    let inner := respellMachine spelling.runtime spelling.state
    have htop : under "VirtualMachines" (top.map (respellEntry "VirtualMachines" spelling.list (onFirst inner))) =
        onFirst inner (under "VirtualMachines" top) := under_respelled (h _ _ (.list top)) rfl
    rw [respell]
    by_cases hlist : ∃ first rest, under "VirtualMachines" top = .list (first :: rest)
    · obtain ⟨first, rest, hfirst⟩ := hlist
      rw [hfirst] at htop
      rw [stateIn_first htop, stateIn_first hfirst]
      refine runtime_respelled ?_ ?_
      · rintro entries rfl
        exact h _ _ (.runtime rest hfirst)
      · rintro entries runtime rfl hruntime
        exact h _ _ (.state rest hfirst hruntime)
    · rw [onFirst_other fun first rest hfirst => hlist ⟨first, rest, hfirst⟩] at htop
      rw [stateIn_mapping, stateIn_mapping, htop]
  · rw [respell_refused fun entries hentries => hmapping ⟨entries, hentries⟩]

end

/-- Answers that differ in nothing but the spelling of names are read alike, and refused alike. -/
theorem answers_respelled (stdout stdout' : String) (doc : Value) (hread : Json.read stdout = .ok doc) :
    (∀ (pid : Value) (spelling : ProcessSpelling),
      (∀ name entries, LookedForCode pid doc name entries → OneSpelling name entries) →
        Json.read stdout' = .ok (spelling.respell doc) → exitCodeOf stdout' pid = exitCodeOf stdout pid) ∧
    ∀ spelling : MachineSpelling,
      (∀ name entries, LookedForState doc name entries → OneSpelling name entries) →
        Json.read stdout' = .ok (spelling.respell doc) → powerStateOf stdout' = powerStateOf stdout := by
  constructor
  · intro pid spelling h hread'
    rw [exitCodeOf_read hread', exitCodeOf_read hread, exitCodeIn_respelled h]
  · intro spelling h hread'
    rw [powerStateOf_read hread', powerStateOf_read hread, stateIn_respelled h]

/-! One process with another number, and one that is found. -/

def capitals : List (Value × Value) :=
  [(.text "ProcessInfo", .list [.mapping [(.text "Pid", .int 8)],
    .mapping [(.text "Pid", .int 7), (.text "ExitCode", .int 2)]])]

theorem read_capitals : Json.read
    "\x7b\"ProcessInfo\":[\x7b\"Pid\":8\x7d,\x7b\"Pid\":7,\"ExitCode\":2\x7d]\x7d" = .ok (.mapping capitals) :=
  eq_ok_of_toOption (by decide +kernel)

def mixed : List (Value × Value) :=
  [(.text "processInfo", .list [.mapping [(.text "pid", .int 8)],
    .mapping [(.text "Pid", .int 7), (.text "exitCode", .int 2)]])]

theorem read_mixed : Json.read
    "\x7b\"processInfo\":[\x7b\"pid\":8\x7d,\x7b\"Pid\":7,\"exitCode\":2\x7d]\x7d" = .ok (.mapping mixed) :=
  eq_ok_of_toOption (by decide +kernel)

theorem capitals_clear : ∀ name entries, LookedForCode (.text "7") (.mapping capitals) name entries →
    OneSpelling name entries := by
  intro name entries hlooked
  cases hlooked with
  | list => exact .inr rfl
  | process hlist h =>
    have hprocesses : under "ProcessInfo" capitals = .list [.mapping [(.text "Pid", .int 8)],
        .mapping [(.text "Pid", .int 7), (.text "ExitCode", .int 2)]] := rfl
    rw [hprocesses] at hlist
    cases hlist
    cases h with
    | pid => exact .inr rfl
    | exitCode => exact .inr rfl
    | behind _ h =>
      cases h with
      | pid => exact .inr rfl
      | exitCode => exact .inr rfl
      | behind _ h => cases h

theorem respell_capitals :
    ProcessSpelling.respell ⟨true, (· = 0), (· = 1)⟩ (.mapping capitals) = .mapping mixed := by
  decide +kernel

/-! One machine that is off. -/

def machine : List (Value × Value) :=
  [(.text "VirtualMachines", .list [.mapping [(.text "Runtime", .mapping [(.text "PowerState", .text "poweredOff")])]])]

theorem read_machine : Json.read
    "\x7b\"VirtualMachines\":[\x7b\"Runtime\":\x7b\"PowerState\":\"poweredOff\"\x7d\x7d]\x7d" =
      .ok (.mapping machine) :=
  eq_ok_of_toOption (by decide +kernel)

def mixedMachine : List (Value × Value) :=
  [(.text "virtualMachines", .list [.mapping [(.text "Runtime", .mapping [(.text "powerState", .text "poweredOff")])]])]

theorem read_mixedMachine : Json.read
    "\x7b\"virtualMachines\":[\x7b\"Runtime\":\x7b\"powerState\":\"poweredOff\"\x7d\x7d]\x7d" =
      .ok (.mapping mixedMachine) :=
  eq_ok_of_toOption (by decide +kernel)

theorem machine_clear : ∀ name entries, LookedForState (.mapping machine) name entries →
    OneSpelling name entries := by
  have hmachines : under "VirtualMachines" machine =
      .list [.mapping [(.text "Runtime", .mapping [(.text "PowerState", .text "poweredOff")])]] := rfl
  intro name entries hlooked
  cases hlooked with
  | list => exact .inr rfl
  | runtime rest hlist =>
    rw [hmachines] at hlist
    cases hlist
    exact .inr rfl
  | state rest hlist hruntime =>
    rw [hmachines] at hlist
    cases hlist
    have hstate : under "Runtime" [(.text "Runtime", .mapping [(.text "PowerState", .text "poweredOff")])] =
        .mapping [(.text "PowerState", .text "poweredOff")] := rfl
    rw [hstate] at hruntime
    cases hruntime
    exact .inr rfl

theorem respell_machine :
    MachineSpelling.respell ⟨true, false, true⟩ (.mapping machine) = .mapping mixedMachine := by
  decide +kernel

theorem answers_respelled_mixed :
    let processes := "\x7b\"ProcessInfo\":[\x7b\"Pid\":8\x7d,\x7b\"Pid\":7,\"ExitCode\":2\x7d]\x7d"
    let processes' := "\x7b\"processInfo\":[\x7b\"pid\":8\x7d,\x7b\"Pid\":7,\"exitCode\":2\x7d]\x7d"
    let machines := "\x7b\"VirtualMachines\":[\x7b\"Runtime\":\x7b\"PowerState\":\"poweredOff\"\x7d\x7d]\x7d"
    let machines' := "\x7b\"virtualMachines\":[\x7b\"Runtime\":\x7b\"powerState\":\"poweredOff\"\x7d\x7d]\x7d"
    Json.read processes = .ok (.mapping capitals) ∧ Json.read processes' = .ok (.mapping mixed) ∧
      exitCodeOf processes' (.text "7") = exitCodeOf processes (.text "7") ∧
      Json.read machines = .ok (.mapping machine) ∧ Json.read machines' = .ok (.mapping mixedMachine) ∧
      powerStateOf machines' = powerStateOf machines := by
  intro processes processes' machines machines'
  have hprocesses := read_mixed
  rw [← respell_capitals] at hprocesses
  have hcode := (answers_respelled processes processes' _ read_capitals).1 (.text "7") _ capitals_clear hprocesses
  have hmachines := read_mixedMachine
  rw [← respell_machine] at hmachines
  have hstate := (answers_respelled machines machines' _ read_machine).2 _ machine_clear hmachines
  exact ⟨read_capitals, read_mixed, hcode, read_machine, read_mixedMachine, hstate⟩

end Stemcell.VCenter
