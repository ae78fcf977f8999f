import Mathlib.Algebra.Order.Floor.Div
import Stemcell.Powershell
import Stemcell.Proofs.Text.Base64.Bits
import Stemcell.Proofs.Text.Base64.Reading
import Stemcell.Proofs.Text.Utf16.WellFormed

/-! What an encoded command looks like and which bytes are in it, said without a way to read it: a
decoder that shares its mistakes with the encoder would still read back what was written. -/
namespace Stemcell

namespace Text.Utf16
open Surrogate (isHigh isLow isHigh_iff isLow_iff)

/-- A character in units: its number, or the two surrogates that together stand for it. -/
inductive Spelled (c : Char) : List Nat → Prop
  | plain (h : c.toNat ≤ 0xffff) : Spelled c [c.toNat]
  | pair {high low : Nat} (hhigh : isHigh high = true) (hlow : isLow low = true)
    (h : c.toNat = 0x10000 + (high - 0xd800) * 0x400 + (low - 0xdc00)) : Spelled c [high, low]

theorem spelled_units (c : Char) : Spelled c (units c) := by
  have hc := char_range c
  by_cases h : c.toNat < 0x10000
  · have hu : units c = [c.toNat] := by simp only [units, if_pos h]
    rw [hu]
    exact .plain (by omega)
  · have hu : units c = [0xd800 + (c.toNat - 0x10000) / 0x400, 0xdc00 + (c.toNat - 0x10000) % 0x400] := by
      simp only [units, if_neg h]
    rw [hu]
    exact .pair (isHigh_iff.mpr (by omega)) (isLow_iff.mpr (by omega)) (by omega)

theorem unitBytes_toNat {u : Nat} (h : u < 0x10000) :
    (unitBytes u).map UInt8.toNat = [u % 256, u / 256] := by
  have hlow : (UInt8.ofNat (u % 256)).toNat = u % 256 :=
    UInt8.toNat_ofNat_of_lt' (Nat.mod_lt u (by decide))
  have hhigh : (UInt8.ofNat (u / 256)).toNat = u / 256 :=
    UInt8.toNat_ofNat_of_lt' (Nat.div_lt_of_lt_mul h)
  rw [unitBytes, List.map_cons, List.map_cons, hlow, hhigh, List.map_nil]

theorem encode_toNat (s : List Char) :
    (encode s).map UInt8.toNat = (s.flatMap units).flatMap fun u => [u % 256, u / 256] := by
  rw [encode, List.map_flatMap]
  exact List.flatMap_congr fun u hu => unitBytes_toNat ((units_wellPaired s).1 u hu)

theorem length_encode (s : List Char) : (encode s).length = 2 * (s.flatMap units).length := by
  have hlength := congrArg List.length (encode_toNat s)
  rw [List.length_map, List.length_flatMap] at hlength
  simpa [Nat.mul_comm] using hlength

end Text.Utf16

namespace Powershell
open Text.Base64 (alphabet sextet symbol unused groups pads bits)
open Text.Utf16 (Spelled)

/-- A command with these data characters carries these units, which is to say their bytes. -/
structure LaidOut (units : List Nat) (bytes : List UInt8) (data : List Char) (command : String) : Prop where
  /-- The bytes of each unit, the low one first. -/
  littleEndian : bytes.map UInt8.toNat = units.flatMap fun u => [u % 256, u / 256]
  length : command.length = 4 * (2 * units.length ⌈/⌉ 3)
  spelled : command = String.ofList (data ++ List.replicate (-(2 * units.length : Int) % 3).toNat '=')
  standard : ∀ c ∈ data, c ∈ alphabet
  unpadded : '=' ∉ data
  /-- The bits of the bytes, six to a character, and behind them zeros up to the end of the last one. -/
  carried : data.flatMap (fun c => bits 6 (sextet c)) =
    bytes.flatMap (fun b => bits 8 b.toNat) ++ List.replicate (unused data.length) false

/-- The data characters of an encoded command. -/
def dataOf (bytes : List UInt8) : List Char := (groups bytes).map symbol

theorem dataOf_standard (bytes : List UInt8) : ∀ c ∈ dataOf bytes, c ∈ alphabet := by
  intro c hc
  obtain ⟨g, hg, rfl⟩ := List.mem_map.mp hc
  exact Text.Base64.mem_alphabet.mpr ⟨g, Text.Base64.groups_lt bytes g hg, rfl⟩

theorem dataOf_bits (bytes : List UInt8) : (dataOf bytes).flatMap (fun c => bits 6 (sextet c)) =
    bytes.flatMap (fun b => bits 8 b.toNat) ++ List.replicate (unused (dataOf bytes).length) false := by
  have hsextets : (dataOf bytes).map sextet = groups bytes :=
    Text.Base64.map_sextet_symbol (Text.Base64.groups_lt bytes)
  have hunused : unused (dataOf bytes).length = 2 * pads bytes.length := by
    have hlength := Text.Base64.groups_length bytes
    rw [dataOf, List.length_map]
    simp only [unused, pads] at hlength ⊢
    omega
  calc
    (dataOf bytes).flatMap (fun c => bits 6 (sextet c))
        = ((dataOf bytes).map sextet).flatMap (bits 6) := (List.flatMap_map sextet (bits 6) _).symm
    _ = (groups bytes).flatMap (bits 6) := by rw [hsextets]
    _ = _ := by rw [Text.Base64.bits_groups, hunused]

/-- The characters of a script in units, and the command that carries them: every six bits of their bytes are a
data character, and pads fill the last four up. -/
theorem encode_laidOut (script : String) :
    ∃ units bytes data, List.Forall₂ Spelled script.toList units ∧
      bytes.length = 2 * units.flatten.length ∧ LaidOut units.flatten bytes data (encode script) := by
  obtain ⟨chars, hchars⟩ : ∃ chars, chars = script.toList := ⟨_, rfl⟩
  obtain ⟨bytes, hbytes⟩ : ∃ bytes, bytes = Text.Utf16.encode chars := ⟨_, rfl⟩
  have hunits : (chars.map Text.Utf16.units).flatten = chars.flatMap Text.Utf16.units := rfl
  have hcount : bytes.length = 2 * (chars.flatMap Text.Utf16.units).length := by
    rw [hbytes, Text.Utf16.length_encode]
  have hencode : encode script =
      String.ofList (dataOf bytes ++ List.replicate (pads bytes.length) '=') := by
    rw [encode, ← hchars, ← hbytes, Text.Base64.encode_groups, dataOf]
  have hpads : pads bytes.length = (-(2 * (chars.flatMap Text.Utf16.units).length : Int) % 3).toNat := by
    rw [hcount, pads]
    omega
  refine ⟨chars.map Text.Utf16.units, bytes, dataOf bytes, ?_, ?_, ?_⟩
  · rw [← hchars, List.forall₂_map_right_iff]
    exact List.forall₂_same.mpr fun c _ => Text.Utf16.spelled_units c
  · rw [hunits, hcount]
  · rw [hunits]
    refine ⟨?_, ?_, ?_, dataOf_standard bytes, ?_, dataOf_bits bytes⟩
    · rw [hbytes, Text.Utf16.encode_toNat]
    · rw [hencode, String.length_ofList, List.length_append, List.length_replicate, dataOf, List.length_map,
        Text.Base64.groups_length, hcount, Nat.ceilDiv_eq_add_pred_div]
      rfl
    · rw [hencode, hpads]
    · intro hpad
      exact absurd (dataOf_standard bytes _ hpad) (by decide)

example : encode "a😀" = "YQA92ADe" := by decide +kernel

end Powershell

end Stemcell
