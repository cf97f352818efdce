import Microps.Model.Ip

/-!
# Segments checksummed with a pseudo-header

TCP and UDP checksum a segment together with a pseudo-header of the addresses, the protocol
and the length: the sender starts the segment's sum at `psum`, the folded sum of the
pseudo-header, and the receiver builds the same `psum` from the addresses and the length it
was given. `cksum16_pseudo_self` is what both round trips rest on: a segment whose checksum
field holds the checksum computed with the field zeroed, from the same positive `psum`, checks
to zero. The protocol byte keeps `psum` positive (`pseudoSum_pos`).
-/

set_option autoImplicit false

namespace Microps

open ByteOrder

/-- A header of `hlen` bytes and a payload that fits: their total as a `uint16_t` does not
wrap. -/
theorem toNat_add_length_toUInt16 {hlen : UInt16} {n : Nat} (h : hlen.toNat + n < 2 ^ 16) :
    (hlen + n.toUInt16).toNat = hlen.toNat + n := by
  rw [UInt16.toNat_add, Nat.toUInt16_eq, UInt16.toNat_ofNat']
  omega

/-- INTERNAL: while nothing overflows, the accumulator only grows. -/
theorem le_toNat_cksum16Sum (e : Endian) (l : List UInt8) (init : UInt32)
    (hfit : init.toNat + 65535 * ((l.length + 1) / 2) < 2 ^ 32) :
    init.toNat ≤ (cksum16Sum e l init).toNat := by
  have hS := toNat_cksum16Sum_le e l 0 (by simp only [UInt32.toNat_zero]; omega)
  simp only [UInt32.toNat_zero, Nat.zero_add] at hS
  rw [cksum16Sum_eq_add, UInt32.toNat_add, Nat.mod_eq_of_lt (by omega)]
  omega

/-- The pseudo-header's sum counts the word holding the protocol, so a protocol other than
`0` gives a positive `psum`. -/
theorem pseudoSum_pos (e : Endian) (src dst : UInt32) {protocol : UInt8} (hp : protocol ≠ 0)
    (len : UInt16) : 0 < (pseudoSum e src dst protocol len).toNat := by
  have hw : 0 < (e.load16 0 protocol).toNat :=
    Endian.toNat_load16_pos e (Or.inr (Nat.pos_of_ne_zero fun h => hp (UInt8.toNat_inj.mp h)))
  -- the first eight bytes, then the protocol's word, then the length
  have h₈ := toNat_cksum16Sum_le e (e.store32 src ++ e.store32 dst) 0 (by simp)
  simp only [List.length_append, Endian.length_store32, UInt32.toNat_zero] at h₈
  have h₁₀ : (e.load16 0 protocol).toNat ≤
      (cksum16Sum e (e.store32 src ++ e.store32 dst ++ [0, protocol]) 0).toNat := by
    rw [cksum16Sum_append e _ _ _ (by simp), cksum16Sum, cksum16Sum, UInt32.toNat_add,
      UInt16.toNat_toUInt32, Nat.mod_eq_of_lt (by have := (e.load16 0 protocol).toNat_lt; omega)]
    omega
  have h₁₂ := le_toNat_cksum16Sum e (e.store16 len)
    (cksum16Sum e (e.store32 src ++ e.store32 dst ++ [0, protocol]) 0)
    (by have := toNat_cksum16Sum_le e (e.store32 src ++ e.store32 dst ++ [0, protocol]) 0 (by simp)
        simp only [List.length_append, Endian.length_store32, List.length_cons, List.length_nil,
          UInt32.toNat_zero, Endian.length_store16] at this ⊢
        omega)
  rw [← cksum16Sum_append e _ _ _ (by simp)] at h₁₂
  have hlt := OnesComplement.fold_lt (cksum16Sum e (pseudoHdrBytes e src dst protocol len) 0).toNat
  have hpos := OnesComplement.fold_pos (s := (cksum16Sum e (pseudoHdrBytes e src dst protocol len) 0).toNat)
    (by rw [pseudoHdrBytes]; omega)
  have htake : (pseudoHdrBytes e src dst protocol len).take (12 : UInt16).toNat =
      pseudoHdrBytes e src dst protocol len := by
    apply List.take_of_length_le
    simp [pseudoHdrBytes]
  rw [pseudoSum, UInt16.toNat_not, toNat_cksum16, htake, show UInt16.size = 65536 from rfl]
  omega

/-- A segment that carries its own checksum, computed with the field zeroed and from the same
positive `psum`, checks to zero: the field sits at an even offset and the segment fits in the
`uint16_t` count. -/
theorem cksum16_pseudo_self (e : Endian) (A B : List UInt8) (hA : A.length % 2 = 0)
    {psum : UInt16} (hpsum : 0 < psum.toNat) (count : UInt16)
    (hcount : count.toNat = A.length + 2 + B.length) :
    cksum16 e (A ++ e.store16 (cksum16 e (A ++ e.store16 0 ++ B) count psum.toUInt32) ++ B)
      count psum.toUInt32 = 0 := by
  have hc := count.toNat_lt
  have hp := psum.toNat_lt
  have hfit : psum.toUInt32.toNat + 65535 * ((A.length + 2 + B.length + 1) / 2) < 2 ^ 32 := by
    rw [UInt16.toNat_toUInt32]
    omega
  refine cksum16_self e A B hA count hcount _ hfit ?_
  calc 0 < psum.toUInt32.toNat := by rw [UInt16.toNat_toUInt32]; exact hpsum
    _ ≤ _ := le_toNat_cksum16Sum e _ _ (by
        simp only [List.length_append, Endian.length_store16]
        omega)

end Microps
