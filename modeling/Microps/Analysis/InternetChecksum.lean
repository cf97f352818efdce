import Microps.Model.Util

/-!
# `cksum16` against the Internet checksum

The Internet checksum of a buffer reads it as 16-bit words in network order, a trailing odd
byte padded by a zero byte after it, and complements the ones' complement sum of those words
(here with a start value `init` added). `cksum16` reads the words in host order instead and
relies on byte-order independence: on a little-endian host every word it adds is the network
word with its bytes exchanged, so its result is the checksum with its bytes exchanged, which
`hton16`'s host stores in network order (`ntoh16_cksum16`). The accumulator never overflows for
any count a `uint16_t` can hold and any `init` below `65536` (`toNat_cksum16Sum_eq`).

The trailing odd byte is added as a plain `uint8_t`: that is its padded word read in host
order only on a little-endian host. On a big-endian host the byte should count `256` times as
much, so `ntoh16_cksum16` needs an even count there, and `cksum16_big_odd_byte` shows a one-byte
buffer whose checksum comes out wrong.
-/

set_option autoImplicit false

namespace Microps

open ByteOrder OnesComplement

/-! ## The checksum as the standard defines it -/

/-- The 16-bit words of a buffer in network order; a trailing odd byte is padded by a zero byte
after it. -/
def netWords : List UInt8 → List Nat
  | b0 :: b1 :: rest => (256 * b0.toNat + b1.toNat) :: netWords rest
  | [b] => [256 * b.toNat]
  | [] => []

/-- The Internet checksum of `data` with `init` added to the sum: the complement of the ones'
complement sum of the network-order words. -/
def internetChecksum (data : List UInt8) (init : Nat) : Nat :=
  65535 - fold ((netWords data).sum + init)

theorem netWords_lt : ∀ (l : List UInt8), ∀ w ∈ netWords l, w < 65536
  | b0 :: b1 :: rest => by
      have h0 := b0.toNat_lt
      have h1 := b1.toNat_lt
      intro w hw
      rcases List.mem_cons.mp hw with rfl | hw
      · omega
      · exact netWords_lt rest w hw
  | [b] => by
      have h := b.toNat_lt
      intro w hw
      rw [netWords, List.mem_singleton] at hw
      omega
  | [] => by simp [netWords]

/-! ## What the loop adds -/

/-- The words the summing loop of `cksum16` adds, as numbers: each pair read in host order, and
a last odd byte as it is. -/
def hostWords (e : Endian) : List UInt8 → List Nat
  | b0 :: b1 :: rest => (e.load16 b0 b1).toNat :: hostWords e rest
  | [b] => [b.toNat]
  | [] => []

/-- While nothing overflows, the 32-bit accumulator holds `init` plus the words it added. -/
theorem toNat_cksum16Sum_eq (e : Endian) :
    ∀ (l : List UInt8) (init : UInt32), init.toNat + 65535 * ((l.length + 1) / 2) < 2 ^ 32 →
      (cksum16Sum e l init).toNat = init.toNat + (hostWords e l).sum
  | b0 :: b1 :: rest, init, h => by
      have hw := (e.load16 b0 b1).toNat_lt
      simp only [List.length_cons] at h
      have hstep : (init + (e.load16 b0 b1).toUInt32).toNat = init.toNat + (e.load16 b0 b1).toNat := by
        rw [UInt32.toNat_add, UInt16.toNat_toUInt32, Nat.mod_eq_of_lt (by omega)]
      have ih := toNat_cksum16Sum_eq e rest (init + (e.load16 b0 b1).toUInt32) (by omega)
      rw [cksum16Sum, ih, hstep, hostWords, List.sum_cons]
      omega
  | [b], init, h => by
      have hb := b.toNat_lt
      simp only [List.length_singleton] at h
      simp only [cksum16Sum, hostWords, List.sum_singleton, UInt32.toNat_add,
        UInt8.toNat_toUInt32]
      omega
  | [], init, _ => by simp [cksum16Sum, hostWords]

/-- On a little-endian host every word the loop adds, the odd byte's included, is the network
word with its bytes exchanged. -/
theorem hostWords_little : ∀ l : List UInt8, hostWords .little l = (netWords l).map swap
  | b0 :: b1 :: rest => by
      have h0 := b0.toNat_lt
      have h1 := b1.toNat_lt
      rw [hostWords, netWords, List.map_cons, hostWords_little rest, Endian.toNat_load16_little,
        swap_eq (by omega)]
      congr 1
      omega
  | [b] => by
      have h := b.toNat_lt
      rw [hostWords, netWords, List.map_singleton, swap_eq (by omega)]
      congr 1
      omega
  | [] => rfl

/-- On a big-endian host the loop adds the network words, as long as no byte is left over. -/
theorem hostWords_big_of_even : ∀ l : List UInt8, l.length % 2 = 0 → hostWords .big l = netWords l
  | b0 :: b1 :: rest, h => by
      rw [hostWords, netWords, Endian.toNat_load16_big,
        hostWords_big_of_even rest (by simp only [List.length_cons] at h; omega)]
  | [_], h => by simp at h
  | [], _ => rfl

/-! ## The checksum `cksum16` returns -/

/-- INTERNAL: the first `count` bytes of a buffer leave room in the accumulator for any `init`
below `65536`. -/
theorem cksum16Sum_fits (data : List UInt8) (count : UInt16) {init : UInt32}
    (hinit : init.toNat < 65536) :
    init.toNat + 65535 * (((data.take count.toNat).length + 1) / 2) < 2 ^ 32 := by
  have hc := count.toNat_lt
  have hlen : (data.take count.toNat).length ≤ count.toNat := List.length_take_le _ _
  omega

/-- The value `cksum16` returns, as the loop computes it: the complement of the folded sum of
`init` and the host-order words. -/
theorem toNat_cksum16_eq (e : Endian) (data : List UInt8) (count : UInt16) {init : UInt32}
    (hinit : init.toNat < 65536) :
    (cksum16 e data count init).toNat =
      65535 - fold (init.toNat + (hostWords e (data.take count.toNat)).sum) := by
  rw [toNat_cksum16, toNat_cksum16Sum_eq e _ init (cksum16Sum_fits data count hinit)]

/-- **`cksum16` computes the Internet checksum.** For every buffer, every count and every
`init` below `65536`: the value `cksum16` returns, read in network order from where the host
stores it, is the Internet checksum of the first `count` bytes with `init` added, `init` too
read in network order. On a big-endian host this needs an even number of bytes. -/
theorem ntoh16_cksum16 (e : Endian) (data : List UInt8) (count : UInt16) (init : UInt32)
    (hinit : init.toNat < 65536)
    (hodd : e = .little ∨ (data.take count.toNat).length % 2 = 0) :
    (ntoh16 e (cksum16 e data count init)).toNat =
      internetChecksum (data.take count.toNat) (ntoh16 e init.toUInt16).toNat := by
  have hinit16 : init.toUInt16.toNat = init.toNat := by
    rw [UInt32.toNat_toUInt16]
    exact Nat.mod_eq_of_lt hinit
  have hws := netWords_lt (data.take count.toNat)
  cases e with
  | little =>
    -- `init` is a host-order word as well: the sum is of swapped words throughout
    have hsum : init.toNat + ((netWords (data.take count.toNat)).map swap).sum =
        ((swap init.toNat :: netWords (data.take count.toNat)).map swap).sum := by
      rw [List.map_cons, List.sum_cons, swap_swap hinit]
    have hall : ∀ w ∈ swap init.toNat :: netWords (data.take count.toNat), w < 65536 := by
      intro w hw
      rcases List.mem_cons.mp hw with rfl | hw
      · exact swap_lt _
      · exact hws w hw
    have hF := fold_lt ((swap init.toNat :: netWords (data.take count.toNat)).sum)
    rw [ntoh16_little, ntoh16_little, toNat_swap16, toNat_swap16, toNat_cksum16_eq .little data count hinit,
      hinit16, hostWords_little, hsum, fold_sum_swap _ hall, ← swap_eq (by omega),
      swap_complement (swap_lt _), swap_swap hF, ← swap_eq hinit, internetChecksum,
      List.sum_cons, Nat.add_comm (swap init.toNat)]
  | big =>
    have heven : (data.take count.toNat).length % 2 = 0 := by
      rcases hodd with h | h
      · cases h
      · exact h
    rw [ntoh16_big, ntoh16_big, toNat_cksum16_eq .big data count hinit, hinit16,
      hostWords_big_of_even _ heven, internetChecksum, Nat.add_comm]

/-- A one-byte buffer: on a big-endian host `cksum16` adds the byte `1` as the word `1`, where
the padded word is `0x0100`, and its checksum `0xfffe` is not the Internet checksum `0xfeff`,
which a little-endian host computes. -/
theorem cksum16_big_odd_byte :
    (ntoh16 .big (cksum16 .big [1] 1 0)).toNat = 0xfffe ∧
      (ntoh16 .little (cksum16 .little [1] 1 0)).toNat = 0xfeff ∧
      internetChecksum [1] 0 = 0xfeff := by
  refine ⟨?_, ?_, ?_⟩
  · rw [ntoh16_big, toNat_cksum16_eq .big [1] 1 (by decide)]
    simp [hostWords, fold_of_lt]
  · rw [ntoh16_little, toNat_swap16, toNat_cksum16_eq .little [1] 1 (by decide)]
    simp [hostWords, fold_of_lt]
  · simp [internetChecksum, netWords, fold_of_lt]

end Microps
