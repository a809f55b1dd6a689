import Mathlib.Data.Nat.Init
import Mathlib.Tactic.Ring
import Yijian.Lib.Codes

/-!
# Base-128 Length Prefixes

A number is written as bytes of seven bits, lowest first, and every byte but the last has
its high bit set. `encode` is that writing. The byte facts are what a reader needs to tell
the last byte of a prefix from the others; that it can is `selfDelimiting_encode`.

## Convention

The writing is that of the natural numbers, without a bound: a program that writes a number of a
fixed width writes the same bytes as long as the number has that width, and how many it writes
follows from the size alone. There is one writing of every number, in which only the number 0 has a
byte 0 at the end. A reader may well accept longer ones, with high bytes that add nothing; nothing
is said about those here. The number of bytes is at least one, and below `128 ^ k` at most `k`.
-/

namespace Leb128

/-- The bytes of `n` in base 128, on at most `fuel` bytes. -/
def encodeFuel : ℕ → ℕ → List UInt8
  | 0, _ => []
  | fuel + 1, n =>
      if n / 128 = 0 then [UInt8.ofNat (n % 128)]
      else (UInt8.ofNat (n % 128) ||| 128) :: encodeFuel fuel (n / 128)

/-- The bytes of `n` in base 128. -/
def encode (n : ℕ) : List UInt8 := encodeFuel (n + 1) n

/-- Any fuel above the number is enough. -/
theorem encodeFuel_eq {fuel k n : ℕ} (h : n < fuel) (h' : n < k) :
    encodeFuel fuel n = encodeFuel k n := by
  induction fuel generalizing k n with
  | zero => omega
  | succ fuel ih =>
      obtain ⟨k, rfl⟩ : ∃ j, k = j + 1 := ⟨k - 1, by omega⟩
      simp only [encodeFuel]
      by_cases h0 : n / 128 = 0
      · rw [if_pos h0, if_pos h0]
      · rw [if_neg h0, if_neg h0, ih (k := k) (by omega) (by omega)]

/-- The equation of the encoder: one byte below 128, otherwise a marked byte and the rest. -/
theorem encode_eq (n : ℕ) :
    encode n = if n < 128 then [UInt8.ofNat n]
      else (UInt8.ofNat (n % 128) ||| 128) :: encode (n / 128) := by
  by_cases h : n < 128
  · rw [encode, encodeFuel, if_pos (by omega), if_pos h, Nat.mod_eq_of_lt h]
  · rw [encode, encodeFuel, if_neg (by omega), if_neg h, encode,
      encodeFuel_eq (k := n / 128 + 1) (by omega) (by omega)]

/-- A small number is its only digit. -/
theorem encode_of_lt {n : ℕ} (h : n < 128) : encode n = [UInt8.ofNat n] := by
  rw [encode_eq, if_pos h]

/-- Between 128 and 16383 the encoding has two bytes. -/
theorem encode_of_le_of_lt {n : ℕ} (h : 128 ≤ n) (h' : n < 16384) :
    encode n = [UInt8.ofNat (n % 128) ||| 128, UInt8.ofNat (n / 128)] := by
  rw [encode_eq, if_neg (by omega), encode_of_lt (by omega)]

/-- Every number takes a byte. -/
theorem length_encode_pos (n : ℕ) : 0 < (encode n).length := by
  rw [encode_eq]
  split <;> exact Nat.zero_lt_succ _

/-- A number of at most `k` digits takes at most `k` bytes. -/
theorem length_encode_le_of_lt_pow {n k : ℕ} (hk : 0 < k) (h : n < 128 ^ k) :
    (encode n).length ≤ k := by
  induction k generalizing n with
  | zero => omega
  | succ k ih =>
      rw [encode_eq]
      split
      · exact Nat.succ_le_succ (Nat.zero_le k)
      · rename_i hlarge
        rw [pow_succ] at h
        have hk' : 0 < k := by
          rcases Nat.eq_zero_or_pos k with rfl | hpos
          · omega
          · exact hpos
        rw [List.length_cons]
        exact Nat.succ_le_succ (ih hk' (Nat.div_lt_of_lt_mul (by rwa [Nat.mul_comm])))

/-! ### Byte facts -/

/-- The masks and shifts of the two loops, on every byte. -/
private theorem byte_facts : ∀ i : Fin 256,
    i.val &&& 127 = i.val % 128 ∧ i.val &&& 128 = i.val / 128 * 128 ∧
      i.val >>> 7 = i.val / 128 ∧ (i.val < 128 → i.val ||| 128 = i.val + 128) := by
  decide +kernel

/-- The low seven bits. -/
theorem toNat_and_127 (b : UInt8) : (b &&& 127).toNat = b.toNat % 128 := by
  rw [UInt8.toNat_and]
  exact (byte_facts ⟨b.toNat, b.toNat_lt⟩).1

/-- The high bit says that another byte follows. -/
theorem and_128_ne_zero_iff (b : UInt8) : b &&& 128 ≠ 0 ↔ 128 ≤ b.toNat := by
  have hb := (byte_facts ⟨b.toNat, b.toNat_lt⟩).2.1
  have hlt := b.toNat_lt
  rw [ne_eq, ← UInt8.toNat_inj, UInt8.toNat_and]
  simp only [UInt8.reduceToNat] at hb ⊢
  omega

/-- A byte has no flag if and only if it is small. -/
theorem shiftRight_7_eq_zero_iff (b : UInt8) : b >>> 7 = 0 ↔ b.toNat < 128 := by
  have hb := (byte_facts ⟨b.toNat, b.toNat_lt⟩).2.2.1
  rw [← UInt8.toNat_inj, UInt8.toNat_shiftRight]
  simp only [UInt8.reduceToNat, Nat.reduceMod] at hb ⊢
  omega

/-- Marking a seven-bit number. -/
theorem toNat_ofNat_or_128 {n : ℕ} (h : n < 128) :
    (UInt8.ofNat n ||| 128).toNat = n + 128 := by
  have hb := (byte_facts ⟨n, by omega⟩).2.2.2 h
  rw [UInt8.toNat_or, UInt8.toNat_ofNat', Nat.mod_eq_of_lt (by omega)]
  exact hb

/-- A number that fits into a byte. -/
theorem toNat_ofNat_of_lt {n : ℕ} (h : n < 256) : (UInt8.ofNat n).toNat = n := by
  rw [UInt8.toNat_ofNat', Nat.mod_eq_of_lt h]

/-! ### Reading a prefix -/

/-- **A prefix is self-delimiting.** Its bytes tell where it ends, and its digits are
determined one by one. -/
theorem selfDelimiting_encode : Codes.SelfDelimiting encode := by
  intro a
  induction a using Nat.strongRecOn with
  | ind a ih =>
      intro b x y h
      rw [encode_eq a, encode_eq b] at h
      by_cases ha : a < 128 <;> by_cases hb : b < 128
      · rw [if_pos ha, if_pos hb] at h
        have hbyte := congrArg UInt8.toNat (List.cons_eq_cons.mp h).1
        rwa [toNat_ofNat_of_lt (by omega), toNat_ofNat_of_lt (by omega)] at hbyte
      · rw [if_pos ha, if_neg hb] at h
        have hbyte := congrArg UInt8.toNat (List.cons_eq_cons.mp h).1
        rw [toNat_ofNat_of_lt (by omega), toNat_ofNat_or_128 (Nat.mod_lt _ (by omega))] at hbyte
        omega
      · rw [if_neg ha, if_pos hb] at h
        have hbyte := congrArg UInt8.toNat (List.cons_eq_cons.mp h).1
        rw [toNat_ofNat_of_lt (by omega), toNat_ofNat_or_128 (Nat.mod_lt _ (by omega))] at hbyte
        omega
      · rw [if_neg ha, if_neg hb] at h
        obtain ⟨hhead, htail⟩ := List.cons_eq_cons.mp h
        have hbyte := congrArg UInt8.toNat hhead
        rw [toNat_ofNat_or_128 (Nat.mod_lt _ (by omega)),
          toNat_ofNat_or_128 (Nat.mod_lt _ (by omega))] at hbyte
        have hquot : a / 128 = b / 128 := ih (a / 128) (by omega) htail
        omega

end Leb128
