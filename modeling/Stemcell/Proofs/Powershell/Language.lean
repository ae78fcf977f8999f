import Stemcell.Failure
import Stemcell.Powershell
import Stemcell.Proofs.Text.Base64.Reading
import Stemcell.Proofs.Text.Utf16.WellFormed

/-! The encoded commands that are understood, and the canonical one among those for the same script. -/
namespace Stemcell.Powershell
open Text.Base64 (alphabet sextet symbol unused missing Closed bytesOf)

/-- The kind of failure that a refusal is. -/
def DecodeError.kind : DecodeError → Failure.Kind
  | .notBasic | .base64 _ => .value
  | .utf16 _ => .decoding

/-- The command is data characters with pads behind them, as many as are taken, and the bytes are
those of the number that the data characters write. -/
structure Carries (command : String) (data : List Char) (pads : Nat) (bytes : List UInt8) : Prop where
  spelled : command = String.ofList (data ++ List.replicate pads '=')
  given : data ≠ []
  standard : ∀ c ∈ data, c ∈ alphabet
  closed : Closed data.length pads
  length : bytes.length = 6 * data.length / 8
  number : Nat.ofDigits 256 (bytes.map UInt8.toNat).reverse =
    Nat.ofDigits 64 (data.map sextet).reverse / 2 ^ unused data.length

/-- What is read from a command is in its bytes alone. -/
theorem Carries.bytes_eq {command : String} {data : List Char} {pads : Nat} {bytes : List UInt8}
    (h : Carries command data pads bytes) : bytes = bytesOf (data.map sextet) := by
  have hlt : ∀ g ∈ data.map sextet, g < 64 := by
    intro g hg
    obtain ⟨c, hc, rfl⟩ := List.mem_map.mp hg
    exact (Text.Base64.symbol_sextet (h.standard c hc)).1
  refine Text.Base64.eq_bytesOf hlt ?_ ?_
  · rw [List.length_map, h.length]
  · rw [List.length_map, h.number]

theorem base64_eq_ok {command : String} {bytes : List UInt8} :
    Text.Base64.decode command.toList = .ok bytes ↔
      command = "" ∧ bytes = [] ∨ ∃ data pads, Carries command data pads bytes := by
  rw [Text.Base64.decode_eq_ok]
  constructor
  · rintro (⟨hempty, hbytes⟩ | ⟨gs, pads, hgiven, hlt, hchars, hclosed, rfl⟩)
    · exact .inl ⟨String.toList_eq_nil_iff.mp hempty, hbytes⟩
    · have hlength : (gs.map symbol).length = gs.length := List.length_map symbol
      have hback := Text.Base64.map_sextet_symbol hlt
      refine .inr ⟨gs.map symbol, pads, ?_, ?_, ?_, ?_, ?_, ?_⟩
      · rw [← hchars, String.ofList_toList]
      · exact fun h => hgiven (List.map_eq_nil_iff.mp h)
      · intro c hc
        obtain ⟨g, hg, rfl⟩ := List.mem_map.mp hc
        exact Text.Base64.mem_alphabet.mpr ⟨g, hlt g hg, rfl⟩
      · rwa [hlength]
      · rw [hlength, Text.Base64.bytesOf_length]
      · rw [hlength, hback, Text.Base64.number_bytesOf gs hlt]
  · rintro (⟨rfl, rfl⟩ | ⟨data, pads, h⟩)
    · exact .inl ⟨rfl, rfl⟩
    · refine .inr ⟨data.map sextet, pads, ?_, ?_, ?_, ?_, h.bytes_eq⟩
      · exact fun hnil => h.given (List.map_eq_nil_iff.mp hnil)
      · intro g hg
        obtain ⟨c, hc, rfl⟩ := List.mem_map.mp hg
        exact (Text.Base64.symbol_sextet (h.standard c hc)).1
      · rw [h.spelled, String.toList_ofList, Text.Base64.map_symbol_sextet h.standard]
      · rw [List.length_map]
        exact h.closed

theorem basic_of_base64 {chars : List Char} {bytes : List UInt8} (h : Text.Base64.decode chars = .ok bytes) :
    ∀ c ∈ chars, c.toNat < 0x80 := by
  intro c hc
  rcases Text.Base64.decode_eq_ok.mp h with ⟨rfl, -⟩ | ⟨gs, pads, -, hlt, rfl, -, -⟩
  · simp at hc
  · rcases List.mem_append.mp hc with hdata | hpad
    · obtain ⟨g, hg, rfl⟩ := List.mem_map.mp hdata
      exact Text.Base64.symbol_basic g (hlt g hg)
    · rw [List.eq_of_mem_replicate hpad]
      decide

/-- A script is read exactly from the texts whose bytes are its own. -/
theorem decode_eq_ok {command script : String} :
    decode command = .ok script ↔
      Text.Base64.decode command.toList = .ok (Text.Utf16.encode script.toList) := by
  unfold decode
  dsimp only
  cases hbytes : Text.Base64.decode command.toList with
  | error e => split <;> simp
  | ok bytes =>
    have hbasic : ¬(command.toList.any fun c => 0x80 ≤ c.toNat) = true := by
      rw [Bool.not_eq_true, List.any_eq_false]
      intro c hc
      simpa using basic_of_base64 hbytes c hc
    have hread : bytes = Text.Utf16.encode script.toList ↔ Text.Utf16.decode bytes = .ok script.toList := by
      rw [Text.Utf16.decode_eq_ok, eq_comm]
    rw [if_neg hbasic, Except.ok.injEq, hread]
    dsimp only
    cases Text.Utf16.decode bytes with
    | error e => simp
    | ok chars =>
      dsimp only
      rw [Except.ok.injEq, Except.ok.injEq, ← String.toList_inj, String.toList_ofList]

theorem decode_encode (script : String) : decode (encode script) = .ok script := by
  rw [decode_eq_ok, encode, String.toList_ofList, Text.Base64.decode_encode]

/-- The bits that are cleared are zero exactly if nothing changes. -/
theorem clear_eq_iff (n bits : Nat) : n / 2 ^ bits * 2 ^ bits = n ↔ n % 2 ^ bits = 0 := by
  have hsum := Nat.div_add_mod' n (2 ^ bits)
  constructor
  · intro h
    rw [h] at hsum
    omega
  · intro h
    rwa [h, Nat.add_zero] at hsum

/-- The command that is written for what has been read: it differs in the pads and in the bits of the
last data character that belong to no whole byte. -/
theorem Carries.encode_eq {command script : String} {init : List Char} {last : Char} {pads : Nat}
    (h : Carries command (init ++ [last]) pads (Text.Utf16.encode script.toList)) :
    let n := (init ++ [last]).length
    let cleared := sextet last / 2 ^ unused n * 2 ^ unused n
    cleared < 64 ∧
      encode script = String.ofList (init ++ symbol cleared :: List.replicate (missing n) '=') ∧
      (encode script = command ↔ pads = missing n ∧ sextet last % 2 ^ unused n = 0) := by
  intro n cleared
  have hn : n = (init.map sextet).length + 1 := by simp [n]
  have hinit : ∀ c ∈ init, c ∈ alphabet := fun c hc => h.standard c (by simp [hc])
  have hlast := Text.Base64.symbol_sextet (h.standard last (by simp))
  have hlt : ∀ g ∈ init.map sextet ++ [sextet last], g < 64 := by
    intro g hg
    have hmap : g ∈ (init ++ [last]).map sextet := by simpa using hg
    obtain ⟨c, hc, rfl⟩ := List.mem_map.mp hmap
    exact (Text.Base64.symbol_sextet (h.standard c hc)).1
  have hcleared : cleared < 64 := (Nat.div_mul_le_self _ _).trans_lt hlast.1
  have hcomplete : ((init.map sextet).length + 1) % 4 ≠ 1 := by
    have hclosed := h.closed
    rw [← hn]
    unfold Closed at hclosed
    omega
  have hencode : encode script =
      String.ofList (init ++ symbol cleared :: List.replicate (missing n) '=') := by
    have hbytes : Text.Utf16.encode script.toList = bytesOf (init.map sextet ++ [sextet last]) := by
      rw [h.bytes_eq, List.map_append]
      rfl
    have hcanonical := Text.Base64.encode_bytesOf hlt hcomplete
    rw [encode, hbytes, hcanonical, Text.Base64.map_symbol_sextet hinit, ← hn]
  have hsame : symbol cleared = last ↔ sextet last % 2 ^ unused n = 0 := by
    rw [← clear_eq_iff]
    constructor
    · intro hsymbol
      have hback := Text.Base64.sextet_symbol cleared hcleared
      rw [hsymbol] at hback
      exact hback.symm
    · intro hzero
      have hback : symbol (sextet last) = last := hlast.2
      rwa [← hzero] at hback
  have hpads : List.replicate (missing n) '=' = List.replicate pads '=' ↔ pads = missing n := by
    constructor
    · intro heq
      simpa using (congrArg List.length heq).symm
    · rintro rfl
      rfl
  refine ⟨hcleared, hencode, ?_⟩
  rw [hencode, h.spelled, String.ofList_inj, List.append_assoc, List.append_right_inj,
    List.singleton_append, List.cons.injEq, hsame, hpads, and_comm]

theorem decode_empty : decode "" = .ok "" := decode_encode ""

theorem kind_value (error : DecodeError) : error.kind.isA .value = true := by
  cases error <;> rfl

/-- Which texts are understood as encoded commands: the empty one, and data characters with the right
pads whose bytes are well-formed. All others are refused as wrong values. The command for what has been
read is the canonical one: it has the same data characters, but for the unused bits of the last one,
which are zero, and as many pads as the last group needs. -/
theorem decode_language (command : String) :
    ((∃ script, decode command = .ok script) ↔
      command = "" ∨ ∃ data pads bytes, Carries command data pads bytes ∧ Text.Utf16.WellFormed bytes) ∧
    (∀ error, decode command = .error error → error.kind.isA .value = true) ∧
    ∀ script, decode command = .ok script →
      command = "" ∧ encode script = "" ∨
      ∃ init last pads, Carries command (init ++ [last]) pads (Text.Utf16.encode script.toList) ∧
        let n := (init ++ [last]).length
        ∃ cleared ∈ alphabet, sextet cleared = sextet last / 2 ^ unused n * 2 ^ unused n ∧
          encode script = String.ofList (init ++ cleared :: List.replicate (missing n) '=') ∧
          (encode script = command ↔ pads = missing n ∧ sextet last % 2 ^ unused n = 0) := by
  refine ⟨⟨?_, ?_⟩, fun error _ => kind_value error, ?_⟩
  · rintro ⟨script, h⟩
    rcases base64_eq_ok.mp (decode_eq_ok.mp h) with ⟨hempty, -⟩ | ⟨data, pads, hcarries⟩
    · exact .inl hempty
    · have hread := Text.Utf16.decode_encode script.toList
      exact .inr ⟨data, pads, _, hcarries, (Text.Utf16.exists_decode_iff _).mp ⟨_, hread⟩⟩
  · rintro (rfl | ⟨data, pads, bytes, hcarries, hformed⟩)
    · exact ⟨"", decode_empty⟩
    · obtain ⟨chars, hchars⟩ := (Text.Utf16.exists_decode_iff bytes).mpr hformed
      have hbytes := Text.Utf16.decode_eq_ok.mp hchars
      refine ⟨String.ofList chars, decode_eq_ok.mpr ?_⟩
      rw [String.toList_ofList, hbytes]
      exact base64_eq_ok.mpr (.inr ⟨data, pads, hcarries⟩)
  · intro script h
    rcases base64_eq_ok.mp (decode_eq_ok.mp h) with ⟨rfl, -⟩ | ⟨data, pads, hcarries⟩
    · rw [decode_empty] at h
      cases h
      exact .inl ⟨rfl, rfl⟩
    · obtain ⟨init, last, rfl⟩ : ∃ init last, data = init ++ [last] :=
        ⟨_, _, (List.dropLast_append_getLast hcarries.given).symm⟩
      obtain ⟨hcleared, hencode⟩ := hcarries.encode_eq
      exact .inr ⟨init, last, pads, hcarries, _, Text.Base64.mem_alphabet.mpr ⟨_, hcleared, rfl⟩,
        Text.Base64.sextet_symbol _ hcleared, hencode⟩

end Stemcell.Powershell
