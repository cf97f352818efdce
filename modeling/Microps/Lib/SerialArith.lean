import Mathlib.Data.List.Basic

/-!
# Sequence-space comparison

Counters that wrap at `2^32` are compared in sequence space: `a` precedes `b` when the
difference `a - b`, read as a signed 32-bit number, is negative. This is the order a
protocol's sequence numbers live in; the plain order of `UInt32` agrees with it only away
from the wrap point.

`lt_iff_seqLt` and `le_iff_seqLe` say exactly where: when the two values, as plain numbers,
are less than `2^31` apart, the plain order and the sequence-space order coincide. Near the
wrap point (a value close to `2^32` and one just past `0`) they disagree, which is the one
thing `seqLt_of_wrap` records.
-/

set_option autoImplicit false

namespace SerialArith

/-- `a` precedes `b` in sequence space: `(int32_t)(a - b) < 0`. -/
def seqLt (a b : UInt32) : Prop := (a - b).toInt32 < 0

/-- `a` precedes or equals `b` in sequence space. -/
def seqLe (a b : UInt32) : Prop := a = b ∨ seqLt a b

instance (a b : UInt32) : Decidable (seqLt a b) := inferInstanceAs (Decidable (_ < _))

instance (a b : UInt32) : Decidable (seqLe a b) := inferInstanceAs (Decidable (_ ∨ _))

/-- INTERNAL: the sign of a 32-bit difference is its top bit. -/
theorem seqLt_iff (a b : UInt32) : seqLt a b ↔ 2147483648 ≤ (a - b).toNat := by
  have hlt := (a - b).toNat_lt
  rw [seqLt, Int32.lt_iff_toInt_lt, Int32.toInt, UInt32.toBitVec_toInt32,
    BitVec.toInt_eq_toNat_cond]
  simp only [UInt32.toNat_toBitVec, Int32.toInt_zero]
  split <;> omega

/-- INTERNAL: the difference of two 32-bit values as a number. -/
theorem toNat_sub (a b : UInt32) : (a - b).toNat = (a.toNat + (4294967296 - b.toNat)) % 4294967296 := by
  have ha := a.toNat_lt
  have hb := b.toNat_lt
  rw [UInt32.toNat_sub]
  omega

/-- Away from the wrap point the plain order is the sequence-space order. -/
theorem lt_iff_seqLt {a b : UInt32} (hab : a.toNat < b.toNat + 2147483648)
    (hba : b.toNat < a.toNat + 2147483648) : a < b ↔ seqLt a b := by
  have ha := a.toNat_lt
  have hb := b.toNat_lt
  rw [seqLt_iff, toNat_sub, UInt32.lt_iff_toNat_lt]
  omega

/-- The non-strict version of `lt_iff_seqLt`. -/
theorem le_iff_seqLe {a b : UInt32} (hab : a.toNat < b.toNat + 2147483648)
    (hba : b.toNat < a.toNat + 2147483648) : a ≤ b ↔ seqLe a b := by
  rw [seqLe, ← lt_iff_seqLt hab hba, UInt32.le_iff_lt_or_eq]
  constructor
  · rintro (h | h)
    · exact Or.inr h
    · exact Or.inl h
  · rintro (h | h)
    · exact Or.inr h
    · exact Or.inl h

/-- Across the wrap point the orders disagree: a value just below `2^32` precedes, in
sequence space, a value at least `2^31` below it as a plain number. -/
theorem seqLt_of_wrap {a b : UInt32} (hwrap : b.toNat + 2147483648 ≤ a.toNat) : seqLt a b := by
  have ha := a.toNat_lt
  rw [seqLt_iff, toNat_sub]
  omega

/-- Numbers below `2^32` that lie pairwise less than `2^31` apart: values of counters that
have not wrapped between one another, so that the plain order and the sequence-space order
agree on them. -/
def Close (xs : List Nat) : Prop := ∀ x ∈ xs, x < 4294967296 ∧ ∀ y ∈ xs, x < y + 2147483648

theorem Close.lt_iff {xs : List Nat} (h : Close xs) {a b : UInt32} (ha : a.toNat ∈ xs)
    (hb : b.toNat ∈ xs) : a < b ↔ seqLt a b :=
  lt_iff_seqLt ((h _ ha).2 _ hb) ((h _ hb).2 _ ha)

theorem Close.le_iff {xs : List Nat} (h : Close xs) {a b : UInt32} (ha : a.toNat ∈ xs)
    (hb : b.toNat ∈ xs) : a ≤ b ↔ seqLe a b :=
  le_iff_seqLe ((h _ ha).2 _ hb) ((h _ hb).2 _ ha)

/-- A sum that is one of the close numbers does not wrap. -/
theorem Close.toNat_add {xs : List Nat} (h : Close xs) {a b : UInt32}
    (hab : a.toNat + b.toNat ∈ xs) : (a + b).toNat = a.toNat + b.toNat := by
  rw [UInt32.toNat_add]
  exact Nat.mod_eq_of_lt (h _ hab).1

/-- `a + b - 1` with `b` positive, when its plain value is one of the close numbers. -/
theorem Close.toNat_add_sub_one {xs : List Nat} (h : Close xs) {a b : UInt32} (hb : 0 < b.toNat)
    (hab : a.toNat + b.toNat - 1 ∈ xs) : (a + b - 1).toNat = a.toNat + b.toNat - 1 := by
  have hlt := (h _ hab).1
  rw [toNat_sub, UInt32.toNat_add, UInt32.toNat_one]
  omega

end SerialArith
