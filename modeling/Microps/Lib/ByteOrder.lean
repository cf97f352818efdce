import Mathlib.Data.List.Basic

/-!
# Byte order

A multi-byte integer lives in memory as a run of bytes whose order is the host's. This file
fixes the two orders a host can have, how a 16-bit or a 32-bit value is laid out in each and
read back, and the byte swap that turns one layout into the other. Values are described
through `toNat`, so that every fact below ends in arithmetic on `Nat`.

Nothing here names a particular program: a network stack reads its headers in network order
(big-endian) and keeps its host-order integers in the host's order, and it is this pair of
facts, `store16_swap16` and `load16_swap`, that its round trips rest on.
-/

set_option autoImplicit false

namespace ByteOrder

/-- The two byte orders a host can have. -/
inductive Endian where
  | little
  | big
  deriving DecidableEq, Repr

namespace Endian

/-- The other byte order. -/
def swap : Endian → Endian
  | little => big
  | big => little

/-- The two bytes of a 16-bit value, lowest address first. -/
def store16 : Endian → UInt16 → List UInt8
  | little, v => [UInt8.ofNat (v.toNat % 256), UInt8.ofNat (v.toNat / 256)]
  | big, v => [UInt8.ofNat (v.toNat / 256), UInt8.ofNat (v.toNat % 256)]

/-- The 16-bit value two bytes hold, the first at the lower address. -/
def load16 : Endian → UInt8 → UInt8 → UInt16
  | little, b0, b1 => UInt16.ofNat (b0.toNat + 256 * b1.toNat)
  | big, b0, b1 => UInt16.ofNat (256 * b0.toNat + b1.toNat)

/-- The four bytes of a 32-bit value, lowest address first. -/
def store32 : Endian → UInt32 → List UInt8
  | little, v => [UInt8.ofNat (v.toNat % 256), UInt8.ofNat (v.toNat / 256 % 256),
      UInt8.ofNat (v.toNat / 65536 % 256), UInt8.ofNat (v.toNat / 16777216)]
  | big, v => [UInt8.ofNat (v.toNat / 16777216), UInt8.ofNat (v.toNat / 65536 % 256),
      UInt8.ofNat (v.toNat / 256 % 256), UInt8.ofNat (v.toNat % 256)]

/-- The 32-bit value four bytes hold, the first at the lowest address. -/
def load32 : Endian → UInt8 → UInt8 → UInt8 → UInt8 → UInt32
  | little, b0, b1, b2, b3 =>
      UInt32.ofNat (b0.toNat + 256 * b1.toNat + 65536 * b2.toNat + 16777216 * b3.toNat)
  | big, b0, b1, b2, b3 =>
      UInt32.ofNat (16777216 * b0.toNat + 65536 * b1.toNat + 256 * b2.toNat + b3.toNat)

@[simp] theorem swap_swap (e : Endian) : e.swap.swap = e := by
  cases e <;> rfl

@[simp] theorem length_store16 (e : Endian) (v : UInt16) : (e.store16 v).length = 2 := by
  cases e <;> rfl

@[simp] theorem length_store32 (e : Endian) (v : UInt32) : (e.store32 v).length = 4 := by
  cases e <;> rfl

end Endian

/-- INTERNAL: masking the byte at bit offset `k` leaves that byte in place. -/
theorem and_byte (v k : Nat) : v &&& 255 <<< k = (v >>> k % 256) <<< k := by
  apply Nat.eq_of_testBit_eq
  intro i
  rw [show (256 : Nat) = 2 ^ 8 by rfl, show (255 : Nat) = 2 ^ 8 - 1 by rfl]
  simp only [Nat.testBit_and, Nat.testBit_shiftLeft, Nat.testBit_shiftRight,
    Nat.testBit_mod_two_pow, Nat.testBit_two_pow_sub_one]
  by_cases h : k ≤ i
  · simp [h, Nat.add_sub_cancel' h, Bool.and_comm]
  · simp [h]

/-- INTERNAL: a byte or-ed below a value shifted by eight bits is added to it. -/
theorem or_byte {a b : Nat} (hb : b < 256) : a <<< 8 ||| b = a * 256 + b := by
  rw [← Nat.shiftLeft_add_eq_or_of_lt (by simpa using hb), Nat.shiftLeft_eq]

/-- INTERNAL: four bytes or-ed into their places are added there. -/
theorem or_bytes4 {x0 x1 x2 x3 : Nat} (h1 : x1 < 256) (h2 : x2 < 256) (h3 : x3 < 256) :
    x0 <<< 24 ||| x1 <<< 16 ||| x2 <<< 8 ||| x3 = ((x0 * 256 + x1) * 256 + x2) * 256 + x3 := by
  have s1 : x0 <<< 24 ||| x1 <<< 16 = (x0 * 256 + x1) <<< 16 := by
    rw [← or_byte h1, Nat.shiftLeft_or_distrib, ← Nat.shiftLeft_add]
  have s2 : (x0 * 256 + x1) <<< 16 ||| x2 <<< 8 = ((x0 * 256 + x1) * 256 + x2) <<< 8 := by
    rw [← or_byte h2, Nat.shiftLeft_or_distrib, ← Nat.shiftLeft_add]
  rw [s1, s2, or_byte h3]

/-- Exchanging the two bytes of a 16-bit value. -/
def swap16 (v : UInt16) : UInt16 :=
  UInt16.ofNat (v.toNat % 256 * 256 + v.toNat / 256)

/-- Reversing the four bytes of a 32-bit value. -/
def swap32 (v : UInt32) : UInt32 :=
  UInt32.ofNat (v.toNat % 256 * 16777216 + v.toNat / 256 % 256 * 65536 +
    v.toNat / 65536 % 256 * 256 + v.toNat / 16777216)

/-- INTERNAL: every 16-bit value is `lo + 256 * hi` for two bytes `lo` and `hi`; the proofs
below rewrite through this split, on which `omega` decides every byte identity. -/
theorem exists_bytes16 (v : UInt16) :
    ∃ lo hi, lo < 256 ∧ hi < 256 ∧ v.toNat % 256 = lo ∧ v.toNat / 256 = hi := by
  have hv := v.toNat_lt
  exact ⟨v.toNat % 256, v.toNat / 256, by omega, by omega, rfl, rfl⟩

/-- INTERNAL: the four-byte version of `exists_bytes16`. -/
theorem exists_bytes32 (v : UInt32) :
    ∃ b0 b1 b2 b3, b0 < 256 ∧ b1 < 256 ∧ b2 < 256 ∧ b3 < 256 ∧
      v.toNat = b0 + 256 * b1 + 65536 * b2 + 16777216 * b3 := by
  have hv := v.toNat_lt
  exact ⟨v.toNat % 256, v.toNat / 256 % 256, v.toNat / 65536 % 256, v.toNat / 16777216,
    by omega, by omega, by omega, by omega, by omega⟩

/-- INTERNAL: the bytes of a number written out from its bytes. -/
theorem bytes32 {b0 b1 b2 : Nat} (b3 : Nat) (h0 : b0 < 256) (h1 : b1 < 256) (h2 : b2 < 256) :
    (b0 + 256 * b1 + 65536 * b2 + 16777216 * b3) % 256 = b0 ∧
      (b0 + 256 * b1 + 65536 * b2 + 16777216 * b3) / 256 % 256 = b1 ∧
      (b0 + 256 * b1 + 65536 * b2 + 16777216 * b3) / 65536 % 256 = b2 ∧
      (b0 + 256 * b1 + 65536 * b2 + 16777216 * b3) / 16777216 = b3 := by
  omega

theorem toNat_swap16 (v : UInt16) : (swap16 v).toNat = v.toNat % 256 * 256 + v.toNat / 256 := by
  obtain ⟨lo, hi, hlo, hhi, e0, e1⟩ := exists_bytes16 v
  simp only [swap16, UInt16.toNat_ofNat', e0, e1]
  omega

namespace Endian

/-- A word read from two bytes, little end first, as a number. -/
theorem toNat_load16_little (b0 b1 : UInt8) :
    (little.load16 b0 b1).toNat = b0.toNat + 256 * b1.toNat := by
  have h0 := b0.toNat_lt
  have h1 := b1.toNat_lt
  simp only [load16, UInt16.toNat_ofNat']
  omega

/-- A word read from two bytes, big end first, as a number. -/
theorem toNat_load16_big (b0 b1 : UInt8) :
    (big.load16 b0 b1).toNat = 256 * b0.toNat + b1.toNat := by
  have h0 := b0.toNat_lt
  have h1 := b1.toNat_lt
  simp only [load16, UInt16.toNat_ofNat']
  omega

/-- Two bytes of which one is not zero hold a word that is not zero, in either order. -/
theorem toNat_load16_pos (e : Endian) {b0 b1 : UInt8} (h : 0 < b0.toNat ∨ 0 < b1.toNat) :
    0 < (e.load16 b0 b1).toNat := by
  cases e with
  | little =>
    rw [toNat_load16_little]
    omega
  | big =>
    rw [toNat_load16_big]
    omega

/-- INTERNAL: reading back the two bytes a value was stored as gives the value. -/
@[simp] theorem load16_store16 (e : Endian) (v : UInt16) :
    e.load16 ((e.store16 v).getD 0 0) ((e.store16 v).getD 1 0) = v := by
  apply UInt16.toNat_inj.mp
  have hv := v.toNat_lt
  obtain ⟨lo, hi, hlo, hhi, e0, e1⟩ := exists_bytes16 v
  have f0 : lo % 2 ^ 8 = lo := by omega
  have f1 : hi % 2 ^ 8 = hi := by omega
  cases e <;> simp only [store16, load16, List.getD_cons_zero, List.getD_cons_succ,
    UInt8.toNat_ofNat', UInt16.toNat_ofNat', e0, e1, f0, f1] <;> omega

/-- INTERNAL: the four-byte version of `load16_store16`. -/
@[simp] theorem load32_store32 (e : Endian) (v : UInt32) :
    e.load32 ((e.store32 v).getD 0 0) ((e.store32 v).getD 1 0) ((e.store32 v).getD 2 0)
      ((e.store32 v).getD 3 0) = v := by
  apply UInt32.toNat_inj.mp
  obtain ⟨b0, b1, b2, b3, h0, h1, h2, h3, hv⟩ := exists_bytes32 v
  have e0 : v.toNat % 256 % 2 ^ 8 = b0 := by omega
  have e1 : v.toNat / 256 % 256 % 2 ^ 8 = b1 := by omega
  have e2 : v.toNat / 65536 % 256 % 2 ^ 8 = b2 := by omega
  have e3 : v.toNat / 16777216 % 2 ^ 8 = b3 := by omega
  cases e <;> simp only [store32, load32, List.getD_cons_zero, List.getD_cons_succ,
    UInt8.toNat_ofNat', UInt32.toNat_ofNat', e0, e1, e2, e3] <;> omega

/-- A swapped value is laid out as the value itself in the other order. -/
theorem store16_swap16 (e : Endian) (v : UInt16) : e.store16 (swap16 v) = e.swap.store16 v := by
  obtain ⟨lo, hi, hlo, hhi, e0, e1⟩ := exists_bytes16 v
  have s0 : (swap16 v).toNat % 256 = hi := by rw [toNat_swap16]; omega
  have s1 : (swap16 v).toNat / 256 = lo := by rw [toNat_swap16]; omega
  cases e <;> simp only [store16, swap, s0, s1, e0, e1]

/-- Reading two bytes in one order and swapping is reading them in the other. -/
theorem load16_swap (e : Endian) (b0 b1 : UInt8) : swap16 (e.load16 b0 b1) = e.swap.load16 b0 b1 := by
  apply UInt16.toNat_inj.mp
  have h0 := b0.toNat_lt
  have h1 := b1.toNat_lt
  have l0 : (256 * b0.toNat + b1.toNat) % 2 ^ 16 % 256 = b1.toNat := by omega
  have l1 : (256 * b0.toNat + b1.toNat) % 2 ^ 16 / 256 = b0.toNat := by omega
  have m0 : (b0.toNat + 256 * b1.toNat) % 2 ^ 16 % 256 = b0.toNat := by omega
  have m1 : (b0.toNat + 256 * b1.toNat) % 2 ^ 16 / 256 = b1.toNat := by omega
  cases e <;> simp only [load16, swap, toNat_swap16, UInt16.toNat_ofNat', l0, l1, m0, m1] <;> omega

/-- The four-byte version of `store16_swap16`. -/
theorem store32_swap32 (e : Endian) (v : UInt32) : e.store32 (swap32 v) = e.swap.store32 v := by
  obtain ⟨b0, b1, b2, b3, h0, h1, h2, h3, hv⟩ := exists_bytes32 v
  obtain ⟨e0, e1, e2, e3⟩ := bytes32 b3 h0 h1 h2
  rw [← hv] at e0 e1 e2 e3
  have hs : (swap32 v).toNat = b3 + 256 * b2 + 65536 * b1 + 16777216 * b0 := by
    simp only [swap32, UInt32.toNat_ofNat', e0, e1, e2, e3]
    omega
  obtain ⟨s0, s1, s2, s3⟩ := bytes32 b0 h3 h2 h1
  rw [← hs] at s0 s1 s2 s3
  cases e <;> simp only [store32, swap, s0, s1, s2, s3, e0, e1, e2, e3]

/-- The four-byte version of `load16_swap`. -/
theorem load32_swap (e : Endian) (b0 b1 b2 b3 : UInt8) :
    swap32 (e.load32 b0 b1 b2 b3) = e.swap.load32 b0 b1 b2 b3 := by
  apply UInt32.toNat_inj.mp
  have h0 := b0.toNat_lt
  have h1 := b1.toNat_lt
  have h2 := b2.toNat_lt
  have h3 := b3.toNat_lt
  obtain ⟨l0, l1, l2, l3⟩ := bytes32 b3.toNat h0 h1 h2
  obtain ⟨m0, m1, m2, m3⟩ := bytes32 b0.toNat h3 h2 h1
  have hl : (b0.toNat + 256 * b1.toNat + 65536 * b2.toNat + 16777216 * b3.toNat) % 2 ^ 32 =
      b0.toNat + 256 * b1.toNat + 65536 * b2.toNat + 16777216 * b3.toNat := by omega
  have hb : (16777216 * b0.toNat + 65536 * b1.toNat + 256 * b2.toNat + b3.toNat) % 2 ^ 32 =
      b3.toNat + 256 * b2.toNat + 65536 * b1.toNat + 16777216 * b0.toNat := by omega
  cases e
  · simp only [load32, swap, swap32, UInt32.toNat_ofNat', hl, l0, l1, l2, l3]
    omega
  · simp only [load32, swap, swap32, UInt32.toNat_ofNat', hb, m0, m1, m2, m3]
    omega

end Endian

/-- INTERNAL: a value is determined by the bytes it is stored as. -/
theorem store32_injective (e : Endian) {v w : UInt32} (h : e.store32 v = e.store32 w) : v = w := by
  rw [← e.load32_store32 v, ← e.load32_store32 w, h]

/-- INTERNAL: the two-byte version of `store32_injective`. -/
theorem store16_injective (e : Endian) {v w : UInt16} (h : e.store16 v = e.store16 w) : v = w := by
  rw [← e.load16_store16 v, ← e.load16_store16 w, h]

@[simp] theorem swap16_swap16 (v : UInt16) : swap16 (swap16 v) = v := by
  apply store16_injective .little
  rw [Endian.store16_swap16, Endian.store16_swap16]
  rfl

@[simp] theorem swap32_swap32 (v : UInt32) : swap32 (swap32 v) = v := by
  apply store32_injective .little
  rw [Endian.store32_swap32, Endian.store32_swap32]
  rfl

end ByteOrder
