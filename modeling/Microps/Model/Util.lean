import Microps.Lib.ByteOrder
import Microps.Lib.OnesComplement
import Mathlib.Algebra.Group.Int.Defs

/-!
# `util.c`: byte order, the checksum, queues and time

The helpers every layer of the stack calls. Byte order is a parameter `e : Endian` of the host
(`byteorder()` reads it off the first byte of the integer `1`); `hton16` and its siblings swap
bytes on a little-endian host and do nothing on a big-endian one. `cksum16` sums 16-bit words
read in host order into a 32-bit accumulator, adds a trailing odd byte as a plain `uint8_t`,
folds the carries and complements.

A `struct queue_head` is modelled by the list of its entries' data, oldest first: the linked
representation is not observed by any caller outside `util.c`. Allocation failure is an
argument of `queuePush`.

Time is `struct timeval` with `timersub`, `timercmp` (the `<sys/time.h>` macros) and
`timeval_add_usec` (`util.h`).
-/

set_option autoImplicit false

namespace Microps

open ByteOrder

/-- The PCB tables of `tcp.c` and `udp.c` have sixteen slots, and slot `0` is a slot number:
one instance for both tables, so that a slot written as `0` is the same term in every module. -/
instance instNeZeroSixteen : NeZero (16 : Nat) := ⟨by decide⟩

/-- `__LITTLE_ENDIAN` -/
def LITTLE_ENDIAN : Nat := 1234

/-- `__BIG_ENDIAN` -/
def BIG_ENDIAN : Nat := 4321

/-- `byteorder()`: the first byte in memory of the 32-bit integer `1`. -/
def byteorder (e : Endian) : Nat :=
  if (e.store32 1).headD 0 ≠ 0 then LITTLE_ENDIAN else BIG_ENDIAN

/-- `byteswap16` -/
def byteswap16 (v : UInt16) : UInt16 :=
  (v &&& 0x00ff) <<< 8 ||| (v &&& 0xff00) >>> 8

/-- `byteswap32` -/
def byteswap32 (v : UInt32) : UInt32 :=
  (v &&& 0x000000ff) <<< 24 ||| (v &&& 0x0000ff00) <<< 8 ||| (v &&& 0x00ff0000) >>> 8 |||
    (v &&& 0xff000000) >>> 24

/-- `hton16` -/
def hton16 (e : Endian) (h : UInt16) : UInt16 :=
  if byteorder e = LITTLE_ENDIAN then byteswap16 h else h

/-- `ntoh16` -/
def ntoh16 (e : Endian) (n : UInt16) : UInt16 :=
  if byteorder e = LITTLE_ENDIAN then byteswap16 n else n

/-- `hton32` -/
def hton32 (e : Endian) (h : UInt32) : UInt32 :=
  if byteorder e = LITTLE_ENDIAN then byteswap32 h else h

/-- `ntoh32` -/
def ntoh32 (e : Endian) (n : UInt32) : UInt32 :=
  if byteorder e = LITTLE_ENDIAN then byteswap32 n else n

@[simp] theorem byteorder_little : byteorder .little = LITTLE_ENDIAN := by
  decide

@[simp] theorem byteorder_big : byteorder .big = BIG_ENDIAN := by
  decide

theorem byteswap16_eq_swap16 (v : UInt16) : byteswap16 v = swap16 v := by
  apply UInt16.toNat_inj.mp
  have hv := v.toNat_lt
  rw [toNat_swap16]
  simp only [byteswap16, UInt16.toNat_or, UInt16.toNat_and, UInt16.toNat_shiftLeft,
    UInt16.toNat_shiftRight, UInt16.toNat_ofNat, Nat.reducePow, Nat.reduceMod]
  rw [show (65280 : Nat) = 255 <<< 8 by rfl, and_byte, show (255 : Nat) = 255 <<< 0 by rfl,
    and_byte]
  simp only [Nat.shiftLeft_shiftRight, Nat.shiftLeft_zero, Nat.shiftRight_zero]
  have hlo : (v.toNat % 256) <<< 8 < 65536 := by rw [Nat.shiftLeft_eq]; omega
  rw [Nat.mod_eq_of_lt hlo, or_byte (by omega), Nat.shiftRight_eq_div_pow]
  omega

theorem byteswap32_eq_swap32 (v : UInt32) : byteswap32 v = swap32 v := by
  apply UInt32.toNat_inj.mp
  have hv := v.toNat_lt
  simp only [byteswap32, swap32, UInt32.toNat_or, UInt32.toNat_and, UInt32.toNat_shiftLeft,
    UInt32.toNat_shiftRight, UInt32.toNat_ofNat, UInt32.toNat_ofNat', Nat.reducePow,
    Nat.reduceMod]
  rw [show (65280 : Nat) = 255 <<< 8 by rfl, show (16711680 : Nat) = 255 <<< 16 by rfl,
    show (4278190080 : Nat) = 255 <<< 24 by rfl, and_byte, and_byte, and_byte,
    show (255 : Nat) = 255 <<< 0 by rfl, and_byte]
  -- each masked byte, moved to its new place, as a shift of the byte itself
  have t0 : (v.toNat >>> 0 % 256) <<< 0 <<< 24 % 4294967296 = (v.toNat % 256) <<< 24 := by
    simp only [Nat.shiftLeft_eq, Nat.shiftRight_eq_div_pow]; omega
  have t1 : (v.toNat >>> 8 % 256) <<< 8 <<< 8 % 4294967296 = (v.toNat / 256 % 256) <<< 16 := by
    simp only [Nat.shiftLeft_eq, Nat.shiftRight_eq_div_pow]; omega
  have t2 : (v.toNat >>> 16 % 256) <<< 16 >>> 8 = (v.toNat / 65536 % 256) <<< 8 := by
    simp only [Nat.shiftLeft_eq, Nat.shiftRight_eq_div_pow]; omega
  have t3 : (v.toNat >>> 24 % 256) <<< 24 >>> 24 = v.toNat / 16777216 := by
    simp only [Nat.shiftLeft_eq, Nat.shiftRight_eq_div_pow]; omega
  rw [t0, t1, t2, t3, or_bytes4 (by omega) (by omega) (by omega)]
  omega

@[simp] theorem hton16_little (h : UInt16) : hton16 .little h = swap16 h := by
  simp [hton16, byteswap16_eq_swap16]

@[simp] theorem hton16_big (h : UInt16) : hton16 .big h = h := by
  simp [hton16, LITTLE_ENDIAN, BIG_ENDIAN]

@[simp] theorem ntoh16_little (n : UInt16) : ntoh16 .little n = swap16 n := by
  simp [ntoh16, byteswap16_eq_swap16]

@[simp] theorem ntoh16_big (n : UInt16) : ntoh16 .big n = n := by
  simp [ntoh16, LITTLE_ENDIAN, BIG_ENDIAN]

@[simp] theorem hton32_little (h : UInt32) : hton32 .little h = swap32 h := by
  simp [hton32, byteswap32_eq_swap32]

@[simp] theorem hton32_big (h : UInt32) : hton32 .big h = h := by
  simp [hton32, LITTLE_ENDIAN, BIG_ENDIAN]

@[simp] theorem ntoh32_little (n : UInt32) : ntoh32 .little n = swap32 n := by
  simp [ntoh32, byteswap32_eq_swap32]

@[simp] theorem ntoh32_big (n : UInt32) : ntoh32 .big n = n := by
  simp [ntoh32, LITTLE_ENDIAN, BIG_ENDIAN]

@[simp] theorem ntoh16_hton16 (e : Endian) (v : UInt16) : ntoh16 e (hton16 e v) = v := by
  cases e <;> simp

@[simp] theorem hton16_ntoh16 (e : Endian) (v : UInt16) : hton16 e (ntoh16 e v) = v := by
  cases e <;> simp

@[simp] theorem ntoh32_hton32 (e : Endian) (v : UInt32) : ntoh32 e (hton32 e v) = v := by
  cases e <;> simp

/-- On either host, a value converted by `hton16` sits in memory in network order. -/
theorem store16_hton16 (e : Endian) (v : UInt16) : e.store16 (hton16 e v) = Endian.big.store16 v := by
  cases e
  · rw [hton16_little, Endian.store16_swap16]; rfl
  · rw [hton16_big]

/-- The four-byte version of `store16_hton16`. -/
theorem store32_hton32 (e : Endian) (v : UInt32) : e.store32 (hton32 e v) = Endian.big.store32 v := by
  cases e
  · rw [hton32_little, Endian.store32_swap32]; rfl
  · rw [hton32_big]

/-- On either host, `ntoh16` of a word read from memory is the word read in network order. -/
theorem ntoh16_load16 (e : Endian) (b0 b1 : UInt8) : ntoh16 e (e.load16 b0 b1) = Endian.big.load16 b0 b1 := by
  cases e
  · rw [ntoh16_little, Endian.load16_swap]; rfl
  · rw [ntoh16_big]

/-- The summing loop of `cksum16`: `sum += *(addr++)` reads a 16-bit word in host order while
two bytes remain; a last odd byte is added as a plain `uint8_t`. The accumulator is a
`uint32_t`. -/
def cksum16Sum (e : Endian) : List UInt8 → UInt32 → UInt32
  | b0 :: b1 :: rest, sum => cksum16Sum e rest (sum + (e.load16 b0 b1).toUInt32)
  | [b], sum => sum + b.toUInt32
  | [], sum => sum

/-- INTERNAL: the low half of a 32-bit value. -/
theorem toNat_and_ffff (s : UInt32) : (s &&& 0xffff).toNat = s.toNat % 65536 := by
  rw [UInt32.toNat_and, show (0xffff : UInt32).toNat = 2 ^ 16 - 1 by rfl,
    Nat.and_two_pow_sub_one_eq_mod]

/-- INTERNAL: the high half of a 32-bit value. -/
theorem toNat_shiftRight16 (s : UInt32) : (s >>> 16).toNat = s.toNat / 65536 := by
  rw [UInt32.toNat_shiftRight, Nat.shiftRight_eq_div_pow]
  rfl

/-- The fold loop of `cksum16`: `while (sum >> 16) sum = (sum & 0xffff) + (sum >> 16);` -/
def cksum16Fold (sum : UInt32) : UInt32 :=
  if sum >>> 16 ≠ 0 then cksum16Fold ((sum &&& (0xffff : UInt32)) + (sum >>> 16)) else sum
termination_by sum.toNat
decreasing_by
  have hs := sum.toNat_lt
  have hne : sum.toNat / 65536 ≠ 0 := by
    rw [← toNat_shiftRight16]
    exact fun h => ‹sum >>> 16 ≠ 0› (UInt32.toNat_inj.mp h)
  have hfit : sum.toNat % 65536 + sum.toNat / 65536 < 2 ^ 32 := by omega
  rw [UInt32.toNat_add, toNat_and_ffff, toNat_shiftRight16, Nat.mod_eq_of_lt hfit]
  omega

/-- `cksum16(addr, count, init)`: the complement of the folded sum of the first `count` bytes. -/
def cksum16 (e : Endian) (addr : List UInt8) (count : UInt16) (init : UInt32) : UInt16 :=
  ~~~(cksum16Fold (cksum16Sum e (addr.take count.toNat) init)).toUInt16

/-- The fold loop computes the end-around-carry fold of its start. -/
theorem toNat_cksum16Fold (sum : UInt32) :
    (cksum16Fold sum).toNat = OnesComplement.fold sum.toNat := by
  induction sum using cksum16Fold.induct with
  | case1 sum h ih =>
      have hs := sum.toNat_lt
      have hge : 65536 ≤ sum.toNat := by
        by_contra hlt
        apply h
        apply UInt32.toNat_inj.mp
        rw [toNat_shiftRight16]
        simp only [UInt32.toNat_zero]
        omega
      rw [cksum16Fold, if_pos h, ih, OnesComplement.fold_of_ge hge, UInt32.toNat_add,
        toNat_and_ffff, toNat_shiftRight16]
      congr 1
      omega
  | case2 sum h =>
      have hlt : sum.toNat < 65536 := by
        have h0 : (sum >>> 16).toNat = 0 := by simp [not_not.mp h]
        rw [toNat_shiftRight16] at h0
        omega
      rw [cksum16Fold, if_neg h, OnesComplement.fold_of_lt hlt]

/-- The fold loop in closed form: two rounds, the second adding nothing once the first fits. -/
theorem cksum16Fold_eq (sum : UInt32) :
    cksum16Fold sum = (((sum &&& (0xffff : UInt32)) + (sum >>> 16)) &&& (0xffff : UInt32)) +
      (((sum &&& (0xffff : UInt32)) + (sum >>> 16)) >>> 16) := by
  have hs := sum.toNat_lt
  have h₁ : ((sum &&& (0xffff : UInt32)) + (sum >>> 16)).toNat =
      sum.toNat % 65536 + sum.toNat / 65536 := by
    rw [UInt32.toNat_add, toNat_and_ffff, toNat_shiftRight16, Nat.mod_eq_of_lt (by omega)]
  apply UInt32.toNat_inj.mp
  rw [toNat_cksum16Fold, OnesComplement.fold_eq_twice hs, UInt32.toNat_add, toNat_and_ffff,
    toNat_shiftRight16, h₁]
  omega

/-- What `cksum16` returns, as a number: all ones minus the folded sum. -/
theorem toNat_cksum16 (e : Endian) (addr : List UInt8) (count : UInt16) (init : UInt32) :
    (cksum16 e addr count init).toNat =
      65535 - OnesComplement.fold (cksum16Sum e (addr.take count.toNat) init).toNat := by
  have hlt := OnesComplement.fold_lt (cksum16Sum e (addr.take count.toNat) init).toNat
  rw [cksum16, UInt16.toNat_not, UInt32.toNat_toUInt16, toNat_cksum16Fold,
    Nat.mod_eq_of_lt hlt]
  rfl

/-- INTERNAL: the accumulator's start is added to the sum of the words. -/
theorem cksum16Sum_eq_add (e : Endian) :
    ∀ (l : List UInt8) (init : UInt32), cksum16Sum e l init = init + cksum16Sum e l 0
  | b0 :: b1 :: rest, init => by
      rw [cksum16Sum, cksum16Sum, cksum16Sum_eq_add e rest, cksum16Sum_eq_add e rest (0 + _)]
      ac_rfl
  | [b], init => by simp [cksum16Sum]
  | [], init => by simp [cksum16Sum]

/-- INTERNAL: summing an even-length block and then the rest is summing both. -/
theorem cksum16Sum_append (e : Endian) :
    ∀ (A B : List UInt8) (init : UInt32), A.length % 2 = 0 →
      cksum16Sum e (A ++ B) init = cksum16Sum e B (cksum16Sum e A init)
  | [], B, init, _ => rfl
  | [_], _, _, h => by simp at h
  | b0 :: b1 :: rest, B, init, h => by
      simp only [List.cons_append, cksum16Sum]
      exact cksum16Sum_append e rest B _ (by simp only [List.length_cons] at h; omega)

/-- INTERNAL: a stored 16-bit value is read back as one word of the sum. -/
theorem cksum16Sum_store16 (e : Endian) (v : UInt16) (rest : List UInt8) (init : UInt32) :
    cksum16Sum e (e.store16 v ++ rest) init = cksum16Sum e rest (init + v.toUInt32) := by
  have h := e.load16_store16 v
  cases e <;> simp only [Endian.store16, List.cons_append, List.nil_append, cksum16Sum] <;>
    simp only [Endian.store16, List.getD_cons_zero, List.getD_cons_succ] at h <;> rw [h]

/-- INTERNAL: while it cannot overflow, the accumulator grows by at most one word's worth per
two bytes. -/
theorem toNat_cksum16Sum_le (e : Endian) :
    ∀ (l : List UInt8) (init : UInt32), init.toNat + 65535 * ((l.length + 1) / 2) < 2 ^ 32 →
      (cksum16Sum e l init).toNat ≤ init.toNat + 65535 * ((l.length + 1) / 2)
  | b0 :: b1 :: rest, init, h => by
      have hw := (e.load16 b0 b1).toNat_lt
      simp only [List.length_cons] at h
      have hfit : init.toNat + (e.load16 b0 b1).toNat < 2 ^ 32 := by omega
      have hstep : (init + (e.load16 b0 b1).toUInt32).toNat = init.toNat + (e.load16 b0 b1).toNat := by
        rw [UInt32.toNat_add, UInt16.toNat_toUInt32, Nat.mod_eq_of_lt hfit]
      have ih := toNat_cksum16Sum_le e rest (init + (e.load16 b0 b1).toUInt32) (by omega)
      simp only [cksum16Sum, List.length_cons]
      omega
  | [b], init, h => by
      have hb := b.toNat_lt
      simp only [List.length_singleton] at h
      simp only [cksum16Sum, List.length_singleton, UInt32.toNat_add, UInt8.toNat_toUInt32]
      omega
  | [], init, _ => by simp [cksum16Sum]

/-- INTERNAL: the checksum of a block whose 16-bit field at an even offset holds `v`: all ones
minus the fold of the block's sum with the field zeroed, plus `v`, while nothing overflows the
accumulator. -/
theorem toNat_cksum16_field (e : Endian) (A B : List UInt8) (hA : A.length % 2 = 0) (count : UInt16)
    (hcount : count.toNat = A.length + 2 + B.length) (init : UInt32)
    (hfit : init.toNat + 65535 * ((A.length + 2 + B.length + 1) / 2) < 2 ^ 32) (v : UInt16) :
    (cksum16 e (A ++ e.store16 v ++ B) count init).toNat =
      65535 - OnesComplement.fold ((cksum16Sum e (A ++ e.store16 0 ++ B) init).toNat + v.toNat) := by
  -- the sum with the field holding `v`: the part before it, `v`, and the part after it
  have hsum : ∀ v : UInt16, cksum16Sum e (A ++ e.store16 v ++ B) init =
      cksum16Sum e A init + v.toUInt32 + cksum16Sum e B 0 := by
    intro v
    rw [List.append_assoc, cksum16Sum_append e A _ _ hA, cksum16Sum_store16, cksum16Sum_eq_add e B]
  have htake : (A ++ e.store16 v ++ B).take count.toNat = A ++ e.store16 v ++ B := by
    apply List.take_of_length_le
    simp only [List.length_append, Endian.length_store16, hcount]
    omega
  have hA2 : (A.length + 1) / 2 = A.length / 2 := by omega
  have hSA := toNat_cksum16Sum_le e A init (by omega)
  have hSB := toNat_cksum16Sum_le e B 0 (by simp only [UInt32.toNat_zero]; omega)
  simp only [UInt32.toNat_zero, Nat.zero_add] at hSB
  rw [hA2] at hSA
  -- no addition below overflows the accumulator
  have hval : ∀ v : UInt16, (cksum16Sum e (A ++ e.store16 v ++ B) init).toNat =
      (cksum16Sum e A init).toNat + v.toNat + (cksum16Sum e B 0).toNat := by
    intro v
    have hv := v.toNat_lt
    rw [hsum, UInt32.toNat_add, UInt32.toNat_add, UInt16.toNat_toUInt32]
    rw [Nat.mod_eq_of_lt (by omega), Nat.mod_eq_of_lt (by omega)]
  rw [toNat_cksum16, htake, hval, hval 0, UInt16.toNat_zero, Nat.add_zero, Nat.add_right_comm]

/-- `cksum16_verifies` for a block whose sum is not zero. -/
theorem cksum16_self (e : Endian) (A B : List UInt8) (hA : A.length % 2 = 0) (count : UInt16)
    (hcount : count.toNat = A.length + 2 + B.length) (init : UInt32)
    (hfit : init.toNat + 65535 * ((A.length + 2 + B.length + 1) / 2) < 2 ^ 32)
    (hpos : 0 < (cksum16Sum e (A ++ e.store16 0 ++ B) init).toNat) :
    cksum16 e (A ++ e.store16 (cksum16 e (A ++ e.store16 0 ++ B) count init) ++ B) count init = 0 := by
  have hfield := toNat_cksum16_field e A B hA count hcount init hfit
  apply UInt16.toNat_inj.mp
  rw [hfield, hfield 0, UInt16.toNat_zero, Nat.add_zero, OnesComplement.fold_add_complement hpos]

/-- `queue_push` on the list of data: `none` (the queue left as it was) when `memory_alloc`
for the new entry fails. -/
def queuePush {α : Type} (alloc : Bool) (queue : List α) (data : α) : Option (List α) :=
  if alloc then some (queue ++ [data]) else none

/-- `queue_pop`: the oldest datum and the rest, or `none` on an empty queue. -/
def queuePop {α : Type} : List α → Option (α × List α)
  | [] => none
  | data :: rest => some (data, rest)

/-- `queue_peek`: the oldest datum without removing it. -/
def queuePeek {α : Type} (queue : List α) : Option α :=
  queue.head?

/-- `struct timeval` -/
structure Timeval where
  tvSec : Int
  tvUsec : Int
  deriving DecidableEq, Repr

/-- `timersub(a, b, result)` -/
def timersub (a b : Timeval) : Timeval :=
  if a.tvUsec - b.tvUsec < 0 then ⟨a.tvSec - b.tvSec - 1, a.tvUsec - b.tvUsec + 1000000⟩
  else ⟨a.tvSec - b.tvSec, a.tvUsec - b.tvUsec⟩

/-- `timercmp(a, b, >)` -/
def timercmpGt (a b : Timeval) : Bool :=
  if a.tvSec = b.tvSec then a.tvUsec > b.tvUsec else a.tvSec > b.tvSec

/-- `timercmp(a, b, <)` -/
def timercmpLt (a b : Timeval) : Bool :=
  if a.tvSec = b.tvSec then a.tvUsec < b.tvUsec else a.tvSec < b.tvSec

/-- `timeval_add_usec(x, y)` -/
def timevalAddUsec (x : Timeval) (y : Nat) : Timeval :=
  if x.tvUsec + (y % 1000000 : Nat) ≥ 1000000 then
    ⟨x.tvSec + (y / 1000000 : Nat) + 1, x.tvUsec + (y % 1000000 : Nat) - 1000000⟩
  else ⟨x.tvSec + (y / 1000000 : Nat), x.tvUsec + (y % 1000000 : Nat)⟩

end Microps
