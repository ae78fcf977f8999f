import Stemcell.Proofs.Redaction.Mask
import Stemcell.Proofs.Redaction.Registry

/-! Whole runs of registering, redacting and filtering. The list of secrets is collected when it is
first needed; it is never out of date, whatever came in between. -/
namespace Stemcell.Redaction

/-- What a registry is asked for. -/
inductive Request where
  | register (value : String)
  | redact (text : String)
  | filter (record : Log.Record)

/-- What it answers. -/
inductive Reply where
  | registered (result : Except Fault Unit)
  | text (result : Except Fault String)
  | record (result : Except Fault Log.Record)

/-- The record that is brought back. -/
def Reply.record? : Reply → Option Log.Record
  | .record (.ok filtered) => some filtered
  | _ => none

namespace Registry

/-- A registration that fails leaves the registry as it is; what is looked through has the secrets
collected before. -/
def serve (env : Environment) (r : Registry) : Request → Reply × Registry
  | .register value =>
    match r.register (.text value) with
    | .ok r => (.registered (.ok ()), r)
    | .error f => (.registered (.error f), r)
  | .redact text => (.text ((r.secrets env).bind fun secrets => redact secrets text), r.settled env)
  | .filter record =>
    (.record ((r.secrets env).bind fun secrets => redactRecord secrets record), r.settled env)

def serveAll (env : Environment) : Registry → List Request → List Reply × Registry
  | r, [] => ([], r)
  | r, request :: rest =>
    let served := r.serve env request
    let later := served.2.serveAll env rest
    (served.1 :: later.1, later.2)

end Registry

/-- The texts that are secret after these requests: those that were registered and those in the
variables, if they are long enough. -/
def InForce (env : Environment) (requests : List Request) (s : String) : Prop :=
  minimumLength ≤ s.length ∧
    (.register s ∈ requests ∨ ∃ name ∈ secretVariables, env.get? name = some (.text s))

/-! The invariant of a run. -/

/-- The registry has what the requests so far have registered, and if it has collected the secrets,
these are the ones in force. -/
structure Knows (env : Environment) (requests : List Request) (r : Registry) : Prop where
  coherent : r.Coherent env
  registered : ∀ s, .text s ∈ r.registered ↔ s ≠ "" ∧ .register s ∈ requests

variable {env : Environment} {requests : List Request} {r : Registry}

/-- The secrets that a registry masks: those of them that are texts of characters are the ones in force. -/
theorem Knows.secrets (h : Knows env requests r) :
    ∃ secrets, r.secrets env = .ok secrets ∧ (∀ v ∈ secrets, IsLong v) ∧ secrets.Nodup ∧
      ∀ s, .text s ∈ secrets ↔ InForce env requests s := by
  obtain ⟨secrets, hsecrets, hnodup, hmem⟩ := Registry.collect_ok env h.coherent.texts
  refine ⟨secrets, h.coherent.secrets.trans hsecrets, fun v hv => ((hmem v).mp hv).1, hnodup, fun s => ?_⟩
  rw [hmem, isLong_text, h.registered, InForce]
  constructor
  · rintro ⟨hlong, ⟨-, hregistered⟩ | hvariable⟩
    · exact ⟨hlong, .inl hregistered⟩
    · exact ⟨hlong, .inr hvariable⟩
  · rintro ⟨hlong, hregistered | hvariable⟩
    · exact ⟨hlong, .inl ⟨not_empty_of_long hlong, hregistered⟩⟩
    · exact ⟨hlong, .inr hvariable⟩

theorem Knows.settled (h : Knows env requests r) : Knows env requests (r.settled env) where
  coherent := h.coherent.settled
  registered := by
    obtain ⟨secrets, -, hsettled⟩ := h.coherent.settled_eq
    rw [hsettled]
    exact h.registered

/-- A request that registers nothing leaves what is known as it is. -/
theorem Knows.append (request : Request) (hne : ∀ s, request ≠ .register s) (h : Knows env requests r) :
    Knows env (requests ++ [request]) r where
  coherent := h.coherent
  registered s := by simp [h.registered, (hne s).symm]

theorem Knows.register (value : String) (h : Knows env requests r) :
    Knows env (requests ++ [.register value]) (r.serve env (.register value)).2 := by
  obtain ⟨r', hr', hcoherent, -, hmem⟩ := h.coherent.register (v := .text value) fun _ => rfl
  rw [Registry.serve, hr']
  refine ⟨hcoherent, fun s => ?_⟩
  rw [hmem, h.registered, List.mem_append, List.mem_singleton, Value.text.injEq, Request.register.injEq]
  constructor
  · rintro (⟨hs, hmem⟩ | ⟨rfl, htruthy⟩)
    · exact ⟨hs, .inl hmem⟩
    · exact ⟨by simpa [Value.isTruthy] using htruthy, .inr rfl⟩
  · rintro ⟨hs, hmem | rfl⟩
    · exact .inl ⟨hs, hmem⟩
    · exact .inr ⟨rfl, by simpa [Value.isTruthy] using hs⟩

/-- What one request leaves is known again. -/
theorem Knows.serve (request : Request) (h : Knows env requests r) :
    Knows env (requests ++ [request]) (r.serve env request).2 := by
  cases request with
  | register value => exact h.register value
  | redact text => exact h.settled.append _ (by simp)
  | filter record => exact h.settled.append _ (by simp)

theorem Knows.serveAll (later : List Request) (h : Knows env requests r) :
    Knows env (requests ++ later) (r.serveAll env later).2 := by
  induction later generalizing requests r with
  | nil => simpa [Registry.serveAll] using h
  | cons request rest ih => simpa [Registry.serveAll] using ih (h.serve request)

theorem knows_nothing (env : Environment) (order : SetOrder) : Knows env [] { order } :=
  ⟨Registry.coherent_nothing env order, by simp⟩

theorem replies_append (env : Environment) (r : Registry) (before after : List Request) :
    (r.serveAll env (before ++ after)).1 =
      (r.serveAll env before).1 ++ ((r.serveAll env before).2.serveAll env after).1 := by
  induction before generalizing r with
  | nil => rfl
  | cons request before ih => simp [Registry.serveAll, ih]

theorem replies_length (env : Environment) (r : Registry) (requests : List Request) :
    (r.serveAll env requests).1.length = requests.length := by
  induction requests generalizing r with
  | nil => rfl
  | cons request rest ih => simp [Registry.serveAll, ih]

/-- The reply to a request among others. -/
theorem reply_at (env : Environment) (r : Registry) (before : List Request) (request : Request)
    (after : List Request) :
    (r.serveAll env (before ++ request :: after)).1[before.length]? =
      some ((r.serveAll env before).2.serve env request).1 := by
  rw [replies_append, List.getElem?_append_right (by simp [replies_length]), replies_length]
  simp [Registry.serveAll]

/-- What redacting makes of a text when these texts of characters are secret. -/
theorem redact_covers {secrets : List Value} {secret : String → Prop} (hall : ∀ v ∈ secrets, IsLong v)
    (hmem : ∀ s, .text s ∈ secrets ↔ secret s) (text : String) :
    ∃ out, Registry.redact secrets text = .ok out ∧
      Covers (fun s => secret (String.ofList s)) text.toList out.toList ∧
      ((∀ s, secret s → ¬ s.toList <:+: text.toList) → out = text) := by
  obtain ⟨found, hfound, hfrom, -⟩ := texts_ok (areTexts_of_long hall)
  have hin : ∀ s, s ∈ longestFirst found ↔ secret (String.ofList s) := by
    intro s
    rw [longestFirst, List.mem_mergeSort, hfrom, hmem]
  refine ⟨String.ofList (maskAll (longestFirst found) text.toList), ?_, ?_, ?_⟩
  · rw [Registry.redact, hfound]
    rfl
  · obtain ⟨cuts, last, htext, hout, hcuts, hsecret⟩ := maskAll_covers (longestFirst found) text.toList
    rw [String.toList_ofList]
    refine ⟨cuts, last, htext, hout, hcuts, fun s hs => hsecret s ⟨(hin s).mpr hs, ?_⟩⟩
    rintro rfl
    exact not_empty_of_long (isLong_text.mp (hall _ ((hmem _).mpr hs))) rfl
  · intro habsent
    rw [maskAll_absent, String.ofList_toList]
    intro s hs
    simpa using habsent (String.ofList s) ((hin s).mp hs)

/-- In every run, a text that is to be redacted is copied but for stretches masked by three stars or
more, no secret in force at that moment is in what is copied, and a text without secrets comes back
as it is. In which order sets are gone through makes no difference to this. -/
theorem run_redact_covers (env : Environment) (order : SetOrder) (before : List Request) (text : String)
    (after : List Request) :
    ∃ out, (Registry.serveAll env { order } (before ++ .redact text :: after)).1[before.length]? =
        some (.text (.ok out)) ∧
      Covers (fun s => InForce env before (String.ofList s)) text.toList out.toList ∧
      ((∀ s, InForce env before s → ¬ s.toList <:+: text.toList) → out = text) := by
  obtain ⟨secrets, hsecrets, hall, -, hmem⟩ := ((knows_nothing env order).serveAll before).secrets
  obtain ⟨out, hout, hcovers, habsent⟩ := redact_covers hall hmem text
  refine ⟨out, ?_, hcovers, habsent⟩
  rw [reply_at]
  simp only [Registry.serve, hsecrets, Except.bind, hout]

end Stemcell.Redaction
