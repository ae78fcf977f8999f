import Mathlib.Data.Nat.Digits.Lemmas
import Stemcell.Proofs.Text.Base64

/-! What strict reading takes: data characters, and behind them pads alone, as many as the last group
needs, or any number behind complete groups. The bytes are those of the number that the data
characters write in base 64, without the bits that make no whole byte. -/
namespace Stemcell.Text.Base64

/-- The data characters in the order of the six bits that they stand for. -/
def alphabet : List Char :=
  "ABCDEFGHIJKLMNOPQRSTUVWXYZabcdefghijklmnopqrstuvwxyz0123456789+/".toList

def sextet (c : Char) : Nat := alphabet.idxOf c

/-- The bits of the last of `n` data characters that belong to no whole byte. -/
def unused (n : Nat) : Nat := 6 * n % 8

/-- The pads that complete the last group of `n` data characters. -/
def missing (n : Nat) : Nat := (4 - n % 4) % 4

/-- So many pads are taken behind `n` data characters. -/
def Closed (n pads : Nat) : Prop := n % 4 = 0 ∨ n % 4 = 2 ∧ pads = 2 ∨ n % 4 = 3 ∧ pads = 1

theorem alphabet_symbol : ∀ n < 64, alphabet[n]? = some (symbol n) := by decide

theorem sextet_symbol : ∀ n < 64, sextet (symbol n) = n := by decide

theorem bits_basic {c : Char} {n : Nat} (h : bits? c = some n) : c.toNat < 128 := by
  have hle : ∀ d : Char, c ≤ d → c.toNat ≤ d.toNat := fun d hd => hd
  unfold bits? at h
  split_ifs at h with hupper hlower hdigit hplus hslash
  · exact (hle _ hupper.2).trans_lt (by decide)
  · exact (hle _ hlower.2).trans_lt (by decide)
  · exact (hle _ hdigit.2).trans_lt (by decide)
  · rw [hplus]
    decide
  · rw [hslash]
    decide

theorem bits_of_basic : ∀ k < 128, ∀ n ∈ bits? (Char.ofNat k), n < 64 ∧ symbol n = Char.ofNat k := by
  decide

theorem bits_eq_some {c : Char} {n : Nat} : bits? c = some n ↔ n < 64 ∧ symbol n = c := by
  constructor
  · intro h
    have hc := bits_of_basic c.toNat (bits_basic h) n
    rw [Char.ofNat_toNat] at hc
    exact hc h
  · rintro ⟨hn, rfl⟩
    exact bits_symbol n hn

theorem mem_alphabet {c : Char} : c ∈ alphabet ↔ ∃ n < 64, symbol n = c := by
  constructor
  · intro h
    obtain ⟨n, hn, hc⟩ := List.mem_iff_getElem.mp h
    have hn' : n < 64 := hn
    have hs := alphabet_symbol n hn'
    rw [List.getElem?_eq_getElem hn, hc] at hs
    exact ⟨n, hn', (Option.some.inj hs).symm⟩
  · rintro ⟨n, hn, rfl⟩
    exact List.mem_of_getElem? (alphabet_symbol n hn)

theorem symbol_sextet {c : Char} (h : c ∈ alphabet) : sextet c < 64 ∧ symbol (sextet c) = c := by
  obtain ⟨n, hn, rfl⟩ := mem_alphabet.mp h
  rw [sextet_symbol n hn]
  exact ⟨hn, rfl⟩

theorem map_symbol_sextet {data : List Char} (h : ∀ c ∈ data, c ∈ alphabet) :
    (data.map sextet).map symbol = data := by
  rw [List.map_map]
  calc
    data.map (symbol ∘ sextet) = data.map id :=
      List.map_congr_left fun c hc => (symbol_sextet (h c hc)).2
    _ = data := List.map_id data

theorem map_sextet_symbol {gs : List Nat} (h : ∀ g ∈ gs, g < 64) : (gs.map symbol).map sextet = gs := by
  rw [List.map_map]
  calc
    gs.map (sextet ∘ symbol) = gs.map id := List.map_congr_left fun g hg => sextet_symbol g (h g hg)
    _ = gs := List.map_id gs

/-! The scan. -/

/-- At a pad, and at the end of the text, it makes no difference whether a pad has been seen. -/
theorem scan_pads_seen (count : Nat) (seen : List Nat) (pads m : Nat) (padSeen : Bool) :
    scan count seen pads padSeen (List.replicate m '=') = scan count seen pads true (List.replicate m '=') := by
  cases m with
  | zero => rfl
  | succ m => rfl

/-- Behind a pad only pads come, and they end the text where they complete the group. -/
theorem scan_behind_pad {rest : List Char} {count pads : Nat} {seen out : List Nat}
    (hopen : 2 ≤ count % 4 → count % 4 + pads < 4) :
    scan count seen pads true rest = .ok out ↔
      out = seen.reverse ∧ ∃ m, rest = List.replicate m '=' ∧
        (count % 4 = 0 ∨ 2 ≤ count % 4 ∧ count % 4 + (pads + m) = 4) := by
  induction rest generalizing pads with
  | nil =>
    have hnil : ∀ m, ([] : List Char) = List.replicate m '=' ↔ m = 0 := by
      intro m
      rw [eq_comm, List.replicate_eq_nil_iff]
    simp only [scan, hnil, exists_eq_left, Nat.add_zero]
    by_cases hzero : count % 4 = 0
    · simp [hzero, eq_comm]
    · have hshort : ¬(2 ≤ count % 4 ∧ count % 4 + pads = 4) := by omega
      rw [if_neg hzero]
      split <;> simp [hzero, hshort]
  | cons c rest ih =>
    by_cases hc : c = '='
    · subst hc
      have hmore : ∀ p : Nat → Prop, (∃ m, '=' :: rest = List.replicate m '=' ∧ p m) ↔
          ∃ m, rest = List.replicate m '=' ∧ p (m + 1) := by
        intro p
        constructor
        · rintro ⟨m, hm, hp⟩
          cases m with
          | zero => cases hm
          | succ m => exact ⟨m, (List.cons.inj hm).2, hp⟩
        · rintro ⟨m, rfl, hp⟩
          exact ⟨m + 1, rfl, hp⟩
      rw [scan, if_pos rfl, hmore]
      by_cases hfew : count % 4 < 2
      · rw [if_pos hfew, ih fun h => absurd h (by omega)]
        have hno : ¬2 ≤ count % 4 := by omega
        simp [hno]
      · rw [if_neg hfew]
        by_cases hlast : count % 4 + (pads + 1) < 4
        · rw [if_pos hlast, ih fun _ => hlast]
          simp only [Nat.add_assoc, Nat.add_comm 1]
        · have hfull := hopen (by omega)
          have hend : ∀ m, (count % 4 = 0 ∨ 2 ≤ count % 4 ∧ count % 4 + (pads + (m + 1)) = 4) ↔ m = 0 := by
            intro m
            omega
          rw [if_neg hlast]
          simp only [hend, exists_eq_right, List.replicate_zero]
          cases rest with
          | nil => simp [eq_comm]
          | cons d rest => simp
    · have hno : ¬∃ m, c :: rest = List.replicate m '=' ∧
          (count % 4 = 0 ∨ 2 ≤ count % 4 ∧ count % 4 + (pads + m) = 4) := by
        rintro ⟨m, hm, -⟩
        exact hc (List.eq_of_mem_replicate (hm ▸ List.mem_cons_self))
      rw [scan, if_neg hc]
      cases bits? c with
      | none => simp [hno]
      | some n => simp [hno]

theorem scan_data {chars : List Char} {count : Nat} {seen out : List Nat} :
    scan count seen 0 false chars = .ok out ↔
      ∃ gs pads, (∀ g ∈ gs, g < 64) ∧ chars = gs.map symbol ++ List.replicate pads '=' ∧
        out = seen.reverse ++ gs ∧ Closed (count + gs.length) pads := by
  constructor
  · intro h
    induction chars generalizing count seen with
    | nil =>
      have hpad : scan count seen 0 false [] = scan count seen 0 true [] := rfl
      rw [hpad, scan_behind_pad (by omega)] at h
      obtain ⟨rfl, m, hm, hclosed⟩ := h
      obtain rfl : m = 0 := (List.replicate_eq_nil_iff _).mp hm.symm
      refine ⟨[], 0, by simp, rfl, by simp, ?_⟩
      simp only [List.length_nil, Closed]
      omega
    | cons c rest ih =>
      by_cases hc : c = '='
      · subst hc
        have hpad : scan count seen 0 false ('=' :: rest) = scan count seen 0 true ('=' :: rest) := rfl
        rw [hpad, scan_behind_pad (by omega)] at h
        obtain ⟨rfl, m, hm, hclosed⟩ := h
        refine ⟨[], m, by simp, by simpa using hm, by simp, ?_⟩
        simp only [List.length_nil, Closed]
        omega
      · rw [scan, if_neg hc] at h
        cases hbits : bits? c with
        | none => simp [hbits] at h
        | some n =>
          obtain ⟨hn, rfl⟩ := bits_eq_some.mp hbits
          simp only [hbits, Bool.false_eq_true, if_false] at h
          obtain ⟨gs, pads, hgs, rfl, rfl, hclosed⟩ := ih h
          refine ⟨n :: gs, pads, List.forall_mem_cons.mpr ⟨hn, hgs⟩, rfl, by simp, ?_⟩
          rw [List.length_cons, Nat.add_comm gs.length, ← Nat.add_assoc]
          exact hclosed
  · rintro ⟨gs, pads, hgs, rfl, rfl, hclosed⟩
    have hopen : 2 ≤ (count + gs.length) % 4 → (count + gs.length) % 4 + 0 < 4 := by omega
    rw [scan_symbols gs count seen _ hgs, scan_pads_seen, scan_behind_pad hopen]
    refine ⟨by simp, pads, rfl, ?_⟩
    unfold Closed at hclosed
    omega

/-- A text is read if it is empty, or if it starts with data and the pads behind it are right. -/
theorem decode_eq_ok {chars : List Char} {bytes : List UInt8} :
    decode chars = .ok bytes ↔ chars = [] ∧ bytes = [] ∨
      ∃ gs pads, gs ≠ [] ∧ (∀ g ∈ gs, g < 64) ∧ chars = gs.map symbol ++ List.replicate pads '=' ∧
        Closed gs.length pads ∧ bytes = bytesOf gs := by
  have hscan : (scan 0 [] 0 false chars).map bytesOf = .ok bytes ↔
      ∃ gs pads, (∀ g ∈ gs, g < 64) ∧ chars = gs.map symbol ++ List.replicate pads '=' ∧
        Closed gs.length pads ∧ bytes = bytesOf gs := by
    constructor
    · intro h
      cases hs : scan 0 [] 0 false chars with
      | error e => simp [hs, Except.map] at h
      | ok out =>
        obtain ⟨gs, pads, hgs, hchars, hout, hclosed⟩ := scan_data.mp hs
        rw [Nat.zero_add] at hclosed
        refine ⟨gs, pads, hgs, hchars, hclosed, ?_⟩
        simpa [hs, hout, Except.map, eq_comm] using h
    · rintro ⟨gs, pads, hgs, hchars, hclosed, hbytes⟩
      have hs : scan 0 [] 0 false chars = .ok gs :=
        scan_data.mpr ⟨gs, pads, hgs, hchars, rfl, by rwa [Nat.zero_add]⟩
      rw [hs, hbytes]
      rfl
  unfold decode
  constructor
  · intro h
    by_cases hhead : chars.head? = some '='
    · simp [hhead] at h
    · rw [if_neg hhead, hscan] at h
      obtain ⟨gs, pads, hgs, rfl, hclosed, rfl⟩ := h
      cases gs with
      | nil =>
        cases pads with
        | zero => exact .inl ⟨rfl, rfl⟩
        | succ pads => exact absurd rfl hhead
      | cons g gs => exact .inr ⟨g :: gs, pads, List.cons_ne_nil g gs, hgs, rfl, hclosed, rfl⟩
  · rintro (⟨rfl, rfl⟩ | ⟨gs, pads, hne, hgs, hchars, hclosed, hbytes⟩)
    · rfl
    · have hhead : chars.head? ≠ some '=' := by
        obtain ⟨g, gs, rfl⟩ := List.exists_cons_of_ne_nil hne
        rw [hchars]
        simpa using symbol_ne_pad g (hgs g List.mem_cons_self)
      rw [if_neg hhead, hscan]
      exact ⟨gs, pads, hgs, hchars, hclosed, hbytes⟩

/-! The bytes. -/

theorem toNat_ofNat {n : Nat} (h : n < 256) : (UInt8.ofNat n).toNat = n :=
  UInt8.toNat_ofNat_of_lt' h

/-- Digits in front of others count as many times as the base to the number of the others says. -/
theorem ofDigits_behind (b : Nat) (front rest : List Nat) :
    Nat.ofDigits b (front ++ rest).reverse =
      Nat.ofDigits b rest.reverse + b ^ rest.length * Nat.ofDigits b front.reverse := by
  rw [List.reverse_append, Nat.ofDigits_append, List.length_reverse]

theorem quads_induction {p : List Nat → Prop} (nil : p []) (one : ∀ a, p [a]) (two : ∀ a b, p [a, b])
    (three : ∀ a b c, p [a, b, c]) (more : ∀ a b c d rest, p rest → p (a :: b :: c :: d :: rest)) :
    ∀ gs, p gs
  | [] => nil
  | [a] => one a
  | [a, b] => two a b
  | [a, b, c] => three a b c
  | a :: b :: c :: d :: rest => more a b c d rest (quads_induction nil one two three more rest)

theorem bytesOf_length (gs : List Nat) : (bytesOf gs).length = 6 * gs.length / 8 := by
  induction gs using quads_induction with
  | nil => simp [bytesOf]
  | one a => simp [bytesOf]
  | two a b => simp [bytesOf]
  | three a b c => simp [bytesOf]
  | more a b c d rest ih =>
    simp only [bytesOf, List.length_cons, ih]
    omega

/-- The bits of complete groups are whole bytes. -/
theorem pow_length (n : Nat) : 64 ^ n = 2 ^ unused n * 256 ^ (6 * n / 8) := by
  have hn : 6 * n = 6 * n % 8 + 8 * (6 * n / 8) := (Nat.mod_add_div (6 * n) 8).symm
  calc
    64 ^ n = 2 ^ (6 * n) := (Nat.pow_mul 2 6 n).symm
    _ = 2 ^ (6 * n % 8) * 2 ^ (8 * (6 * n / 8)) := by rw [← Nat.pow_add, ← hn]
    _ = 2 ^ unused n * 256 ^ (6 * n / 8) := by rw [Nat.pow_mul 2 8, unused]

/-- The bytes write the same number as the groups do, but for the bits that make no whole byte. -/
theorem number_bytesOf (gs : List Nat) (h : ∀ g ∈ gs, g < 64) :
    Nat.ofDigits 256 ((bytesOf gs).map UInt8.toNat).reverse =
      Nat.ofDigits 64 gs.reverse / 2 ^ unused gs.length := by
  induction gs using quads_induction with
  | nil => rfl
  | one a =>
    have ha : a < 64 := h a (by simp)
    simp [bytesOf, unused, Nat.div_eq_of_lt ha]
  | two a b =>
    have ha : a < 64 := h a (by simp)
    have hb : b < 64 := h b (by simp)
    have hfirst := toNat_ofNat (n := a * 4 + b / 16) (by omega)
    have hunused : unused [a, b].length = 4 := by simp [unused]
    rw [hunused]
    simp only [bytesOf, List.map_cons, List.map_nil, hfirst, List.reverse_cons, List.reverse_nil,
      List.nil_append, List.cons_append, Nat.ofDigits_cons, Nat.ofDigits_nil, Nat.reducePow]
    omega
  | three a b c =>
    have ha : a < 64 := h a (by simp)
    have hb : b < 64 := h b (by simp)
    have hc : c < 64 := h c (by simp)
    have hfirst := toNat_ofNat (n := a * 4 + b / 16) (by omega)
    have hsecond := toNat_ofNat (n := b % 16 * 16 + c / 4) (by omega)
    have hunused : unused [a, b, c].length = 2 := by simp [unused]
    rw [hunused]
    simp only [bytesOf, List.map_cons, List.map_nil, hfirst, hsecond, List.reverse_cons, List.reverse_nil,
      List.nil_append, List.cons_append, Nat.ofDigits_cons, Nat.ofDigits_nil, Nat.reducePow]
    omega
  | more a b c d rest ih =>
    have ha : a < 64 := h a (by simp)
    have hb : b < 64 := h b (by simp)
    have hc : c < 64 := h c (by simp)
    have hd : d < 64 := h d (by simp)
    have hrest : ∀ g ∈ rest, g < 64 := fun g hg => h g (by simp [hg])
    have hfirst := toNat_ofNat (n := a * 4 + b / 16) (by omega)
    have hsecond := toNat_ofNat (n := b % 16 * 16 + c / 4) (by omega)
    have hthird := toNat_ofNat (n := c % 4 * 64 + d) (by omega)
    have hthree : Nat.ofDigits 256 [c % 4 * 64 + d, b % 16 * 16 + c / 4, a * 4 + b / 16] =
        Nat.ofDigits 64 [d, c, b, a] := by
      simp only [Nat.ofDigits_cons, Nat.ofDigits_nil]
      omega
    have hunused : unused (a :: b :: c :: d :: rest).length = unused rest.length := by
      simp only [unused, List.length_cons]
      omega
    have hbytes := ofDigits_behind 256 [a * 4 + b / 16, b % 16 * 16 + c / 4, c % 4 * 64 + d]
      ((bytesOf rest).map UInt8.toNat)
    have hgroups := ofDigits_behind 64 [a, b, c, d] rest
    have hpos : 0 < 2 ^ unused rest.length := Nat.two_pow_pos _
    calc
      Nat.ofDigits 256 ((bytesOf (a :: b :: c :: d :: rest)).map UInt8.toNat).reverse
          = Nat.ofDigits 256 ((bytesOf rest).map UInt8.toNat).reverse
              + 256 ^ (6 * rest.length / 8) * Nat.ofDigits 64 [d, c, b, a] := by
            rw [← hthree, ← bytesOf_length rest, ← List.length_map (f := UInt8.toNat), bytesOf,
              List.map_cons, List.map_cons, List.map_cons, hfirst, hsecond, hthird]
            exact hbytes
      _ = Nat.ofDigits 64 rest.reverse / 2 ^ unused rest.length
              + 256 ^ (6 * rest.length / 8) * Nat.ofDigits 64 [d, c, b, a] := by rw [ih hrest]
      _ = (Nat.ofDigits 64 rest.reverse + 64 ^ rest.length * Nat.ofDigits 64 [d, c, b, a])
              / 2 ^ unused rest.length := by
            rw [pow_length, Nat.mul_assoc, Nat.add_mul_div_left _ _ hpos]
      _ = Nat.ofDigits 64 (a :: b :: c :: d :: rest).reverse
              / 2 ^ unused (a :: b :: c :: d :: rest).length := by
            rw [hunused]
            exact congrArg (· / 2 ^ unused rest.length) hgroups.symm

/-- No other bytes of the same length write that number. -/
theorem eq_bytesOf {gs : List Nat} {bytes : List UInt8} (h : ∀ g ∈ gs, g < 64)
    (hlength : bytes.length = 6 * gs.length / 8)
    (hnumber : Nat.ofDigits 256 (bytes.map UInt8.toNat).reverse =
      Nat.ofDigits 64 gs.reverse / 2 ^ unused gs.length) : bytes = bytesOf gs := by
  have hlt : ∀ (l : List UInt8), ∀ d ∈ (l.map UInt8.toNat).reverse, d < 256 := by
    intro l d hd
    obtain ⟨x, -, rfl⟩ := List.mem_map.mp (List.mem_reverse.mp hd)
    exact x.toNat_lt
  have hsame : (bytes.map UInt8.toNat).reverse = ((bytesOf gs).map UInt8.toNat).reverse := by
    refine Nat.ofDigits_inj_of_len_eq (by decide) ?_ (hlt bytes) (hlt (bytesOf gs)) ?_
    · simp only [List.length_reverse, List.length_map, hlength, bytesOf_length]
    · rw [hnumber, number_bytesOf gs h]
  exact List.map_injective_iff.mpr (fun x y hxy => UInt8.toNat_inj.mp hxy) (List.reverse_injective hsame)

/-! Writing again what has been read. -/

/-- The groups come back, the last one without the bits that make no whole byte. -/
theorem groups_bytesOf_append {init : List Nat} {g : Nat} (h : ∀ x ∈ init ++ [g], x < 64)
    (hlength : (init.length + 1) % 4 ≠ 1) :
    let bits := unused (init.length + 1)
    groups (bytesOf (init ++ [g])) = init ++ [g / 2 ^ bits * 2 ^ bits] := by
  induction init using quads_induction with
  | nil => exact absurd rfl hlength
  | one a =>
    have ha : a < 64 := h a (by simp)
    have hg : g < 64 := h g (by simp)
    have hfirst := toNat_ofNat (n := a * 4 + g / 16) (by omega)
    have hunused : unused ([a].length + 1) = 4 := by simp [unused]
    simp only [List.cons_append, List.nil_append, bytesOf, groups, hfirst, hunused, Nat.reducePow,
      List.cons.injEq, and_true]
    omega
  | two a b =>
    have ha : a < 64 := h a (by simp)
    have hb : b < 64 := h b (by simp)
    have hg : g < 64 := h g (by simp)
    have hfirst := toNat_ofNat (n := a * 4 + b / 16) (by omega)
    have hsecond := toNat_ofNat (n := b % 16 * 16 + g / 4) (by omega)
    have hunused : unused ([a, b].length + 1) = 2 := by simp [unused]
    simp only [List.cons_append, List.nil_append, bytesOf, groups, hfirst, hsecond, hunused, Nat.reducePow,
      List.cons.injEq, and_true]
    omega
  | three a b c =>
    have ha : a < 64 := h a (by simp)
    have hb : b < 64 := h b (by simp)
    have hc : c < 64 := h c (by simp)
    have hg : g < 64 := h g (by simp)
    have hfirst := toNat_ofNat (n := a * 4 + b / 16) (by omega)
    have hsecond := toNat_ofNat (n := b % 16 * 16 + c / 4) (by omega)
    have hthird := toNat_ofNat (n := c % 4 * 64 + g) (by omega)
    have hunused : unused ([a, b, c].length + 1) = 0 := by simp [unused]
    simp only [List.cons_append, List.nil_append, bytesOf, groups, hfirst, hsecond, hthird, hunused,
      Nat.reducePow, List.cons.injEq, and_true]
    omega
  | more a b c d rest ih =>
    have ha : a < 64 := h a (by simp)
    have hb : b < 64 := h b (by simp)
    have hc : c < 64 := h c (by simp)
    have hd : d < 64 := h d (by simp)
    have hrest : ∀ x ∈ rest ++ [g], x < 64 := fun x hx => h x (by simp_all)
    have hfirst := toNat_ofNat (n := a * 4 + b / 16) (by omega)
    have hsecond := toNat_ofNat (n := b % 16 * 16 + c / 4) (by omega)
    have hthird := toNat_ofNat (n := c % 4 * 64 + d) (by omega)
    have hunused : unused ((a :: b :: c :: d :: rest).length + 1) = unused (rest.length + 1) := by
      simp only [unused, List.length_cons]
      omega
    have hlater := ih hrest (by simp only [List.length_cons] at hlength; omega)
    simp only [List.cons_append, bytesOf, groups, hfirst, hsecond, hthird, hunused, hlater,
      List.cons.injEq, and_true]
    omega

theorem pads_bytesOf {gs : List Nat} (hlength : gs.length % 4 ≠ 1) :
    pads (bytesOf gs).length = missing gs.length := by
  rw [bytesOf_length, pads, missing]
  have hwhole : 6 * gs.length / 8 = 3 * (gs.length / 4) + gs.length % 4 * 6 / 8 := by omega
  have hcases : gs.length % 4 = 0 ∨ gs.length % 4 = 2 ∨ gs.length % 4 = 3 := by omega
  rcases hcases with h | h | h
  all_goals
    rw [h] at hwhole ⊢
    omega

/-- The canonical form of a text that is read: the same data characters, the last one without the bits
that make no whole byte, and as many pads as the last group needs. -/
theorem encode_bytesOf {init : List Nat} {g : Nat} (h : ∀ x ∈ init ++ [g], x < 64)
    (hlength : (init.length + 1) % 4 ≠ 1) :
    let bits := unused (init.length + 1)
    encode (bytesOf (init ++ [g])) = init.map symbol ++
      symbol (g / 2 ^ bits * 2 ^ bits) :: List.replicate (missing (init.length + 1)) '=' := by
  intro bits
  have hall : (init ++ [g]).length = init.length + 1 := List.length_append
  have hpads : pads (bytesOf (init ++ [g])).length = missing (init ++ [g]).length :=
    pads_bytesOf (by rwa [hall])
  rw [encode_groups, groups_bytesOf_append h hlength, hpads, hall, List.map_append, List.append_assoc]
  rfl

end Stemcell.Text.Base64
