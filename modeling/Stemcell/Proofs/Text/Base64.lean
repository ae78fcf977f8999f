import Stemcell.Text.Base64

/-! What is written in base64 is read back. Writing is split into the groups of six bits and the
pads behind them, so that the three lengths of the last group meet only in `groups_bytesOf` and
`scan_pads`. -/
namespace Stemcell.Text.Base64

/-- The groups of six bits of a sequence of bytes; the last group is filled up with zeros. -/
def groups : List UInt8 → List Nat
  | [] => []
  | [a] => [a.toNat / 4, a.toNat % 4 * 16]
  | [a, b] => [a.toNat / 4, a.toNat % 4 * 16 + b.toNat / 16, b.toNat % 16 * 4]
  | a :: b :: c :: rest =>
    a.toNat / 4 :: (a.toNat % 4 * 16 + b.toNat / 16) :: (b.toNat % 16 * 4 + c.toNat / 64)
      :: c.toNat % 64 :: groups rest

/-- The number of pads behind the groups of `n` bytes. -/
def pads (n : Nat) : Nat := (3 - n % 3) % 3

theorem bits_symbol : ∀ n < 64, bits? (symbol n) = some n := by decide

theorem symbol_ne_pad : ∀ n < 64, symbol n ≠ '=' := by decide

theorem symbol_basic : ∀ n < 64, (symbol n).toNat < 0x80 := by decide

theorem groups_lt (bytes : List UInt8) : ∀ g ∈ groups bytes, g < 64 := by
  induction bytes using groups.induct with
  | case1 => simp [groups]
  | case2 a =>
    have ha := a.toNat_lt
    simp only [groups, List.forall_mem_cons]
    exact ⟨by omega, by omega, by simp⟩
  | case3 a b =>
    have ha := a.toNat_lt
    have hb := b.toNat_lt
    simp only [groups, List.forall_mem_cons]
    exact ⟨by omega, by omega, by omega, by simp⟩
  | case4 a b c rest ih =>
    have ha := a.toNat_lt
    have hb := b.toNat_lt
    have hc := c.toNat_lt
    simp only [groups, List.forall_mem_cons]
    exact ⟨by omega, by omega, by omega, by omega, ih⟩

theorem groups_length (bytes : List UInt8) :
    (groups bytes).length + pads bytes.length = 4 * ((bytes.length + 2) / 3) := by
  induction bytes using groups.induct with
  | case1 => rfl
  | case2 a => simp [groups, pads]
  | case3 a b => simp [groups, pads]
  | case4 a b c rest ih =>
    simp only [groups, List.length_cons, pads] at ih ⊢
    omega

/-- The written form: a data character for each group, and then the pads. -/
theorem encode_groups (bytes : List UInt8) :
    encode bytes = (groups bytes).map symbol ++ List.replicate (pads bytes.length) '=' := by
  induction bytes using groups.induct with
  | case1 => rfl
  | case2 a => rfl
  | case3 a b => rfl
  | case4 a b c rest ih =>
    have hp : pads (a :: b :: c :: rest).length = pads rest.length := by
      simp only [pads, List.length_cons]
      omega
    rw [hp, encode, ih, groups]
    simp only [List.map_cons, List.cons_append]

/-- The bits of three bytes are in four groups, those of two in three, those of one in two. -/
theorem groups_bytesOf (bytes : List UInt8) : bytesOf (groups bytes) = bytes := by
  induction bytes using groups.induct with
  | case1 => rfl
  | case2 a =>
    have ha := a.toNat_lt
    have h : a.toNat / 4 * 4 + a.toNat % 4 * 16 / 16 = a.toNat := by omega
    simp only [groups, bytesOf, h, UInt8.ofNat_toNat]
  | case3 a b =>
    have ha := a.toNat_lt
    have hb := b.toNat_lt
    have h : a.toNat / 4 * 4 + (a.toNat % 4 * 16 + b.toNat / 16) / 16 = a.toNat := by omega
    have h' : (a.toNat % 4 * 16 + b.toNat / 16) % 16 * 16 + b.toNat % 16 * 4 / 4 = b.toNat := by
      omega
    simp only [groups, bytesOf, h, h', UInt8.ofNat_toNat]
  | case4 a b c rest ih =>
    have ha := a.toNat_lt
    have hb := b.toNat_lt
    have hc := c.toNat_lt
    have h : a.toNat / 4 * 4 + (a.toNat % 4 * 16 + b.toNat / 16) / 16 = a.toNat := by omega
    have h' : (a.toNat % 4 * 16 + b.toNat / 16) % 16 * 16
        + (b.toNat % 16 * 4 + c.toNat / 64) / 4 = b.toNat := by omega
    have h'' : (b.toNat % 16 * 4 + c.toNat / 64) % 4 * 64 + c.toNat % 64 = c.toNat := by omega
    simp only [groups, bytesOf, h, h', h'', ih, UInt8.ofNat_toNat]

theorem scan_symbol (n count : Nat) (seen : List Nat) (rest : List Char) (h : n < 64) :
    scan count seen 0 false (symbol n :: rest) = scan (count + 1) (n :: seen) 0 false rest := by
  rw [scan, if_neg (symbol_ne_pad n h), bits_symbol n h]
  rfl

theorem scan_symbols (gs : List Nat) (count : Nat) (seen : List Nat) (rest : List Char)
    (h : ∀ g ∈ gs, g < 64) :
    scan count seen 0 false (gs.map symbol ++ rest) =
      scan (count + gs.length) (gs.reverse ++ seen) 0 false rest := by
  induction gs generalizing count seen with
  | nil => rfl
  | cons g gs ih =>
    obtain ⟨hg, hgs⟩ := List.forall_mem_cons.mp h
    rw [List.map_cons, List.cons_append, scan_symbol g count seen _ hg, ih _ _ hgs]
    simp only [List.length_cons, List.reverse_cons, List.append_assoc, List.singleton_append,
      Nat.add_assoc, Nat.add_comm 1]

/-- The pads that fill the last group up end the text. -/
theorem scan_pads (count : Nat) (seen : List Nat) (n : Nat)
    (h : (count + pads n) % 4 = 0) :
    scan count seen 0 false (List.replicate (pads n) '=') = .ok seen.reverse := by
  have hp : pads n = 0 ∨ pads n = 1 ∨ pads n = 2 := by simp only [pads]; omega
  rcases hp with hp | hp | hp
  · have hc : count % 4 = 0 := by omega
    simp [hp, scan, hc]
  · have hc : count % 4 = 3 := by omega
    simp [hp, scan, hc]
  · have hc : count % 4 = 2 := by omega
    simp [hp, scan, hc, List.replicate]

theorem scan_encode (bytes : List UInt8) :
    scan 0 [] 0 false (encode bytes) = .ok (groups bytes) := by
  have hl := groups_length bytes
  rw [encode_groups, scan_symbols _ _ _ _ (groups_lt bytes), scan_pads _ _ _ (by omega)]
  simp

theorem encode_head (bytes : List UInt8) : (encode bytes).head? ≠ some '=' := by
  have hlt := groups_lt bytes
  rw [encode_groups]
  cases hg : groups bytes with
  | nil =>
    have hl := groups_length bytes
    have hp : pads bytes.length = 0 := by
      simp only [hg, List.length_nil, pads] at hl ⊢
      omega
    simp [hp]
  | cons g gs =>
    rw [hg] at hlt
    simpa using symbol_ne_pad g (hlt g (by simp))

theorem decode_encode (bytes : List UInt8) : decode (encode bytes) = .ok bytes := by
  rw [decode, if_neg (encode_head bytes), scan_encode, Except.map, groups_bytesOf]

theorem encode_basic (bytes : List UInt8) : ∀ c ∈ encode bytes, c.toNat < 0x80 := by
  intro c hc
  rw [encode_groups, List.mem_append, List.mem_map] at hc
  rcases hc with ⟨g, hg, rfl⟩ | hc
  · exact symbol_basic g (groups_lt bytes g hg)
  · rw [List.eq_of_mem_replicate hc]
    decide

end Stemcell.Text.Base64
