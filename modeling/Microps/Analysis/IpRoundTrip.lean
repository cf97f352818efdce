import Microps.Analysis.Checksum

/-!
# What `ip_output_core` builds, `ip_input` accepts

`ipInput_ipOutputCore` is the top: a datagram built by `ip_output_core` (with the zero
fragment offset `ip_output` passes), followed by any padding, passes every check of
`ip_input` on a device whose interface the destination addresses, and reaches the handler
registered for its protocol with exactly the payload, the source and the destination.

It is assembled from three facts: the header reads back field by field on either byte order
(`ipHdrBytes_fields`), its checksum verifies (`cksum16_ipHdrBytes`, the header case of
`cksum16_self`), and a registered protocol number has one entry, so `find?` returns it
(`find_of_nodup`).

The checks of `ip_input` do not go the other way: it compares the header length with the
length received but not with `IP_HDR_SIZE_MIN`, and the total length with neither, so a short
header with a total below it still reaches a handler, with `total - hlen` wrapped in `size_t`
(`ipInput_short_hlen`).
-/

set_option autoImplicit false

namespace Microps

open ByteOrder

variable {H : Type}

/-- INTERNAL: the split of a header around its checksum field: ten bytes before it, eight after. -/
theorem ipHdrBytes_eq (e : Endian) (vhl tos : UInt8) (total id offset : UInt16) (ttl protocol : UInt8)
    (sum : UInt16) (src dst : UInt32) :
    ipHdrBytes e vhl tos total id offset ttl protocol sum src dst =
      ([vhl, tos] ++ e.store16 total ++ e.store16 id ++ e.store16 offset ++ [ttl, protocol]) ++
        e.store16 sum ++ (e.store32 src ++ e.store32 dst) := by
  simp [ipHdrBytes]

@[simp] theorem length_ipHdrBytes (e : Endian) (vhl tos : UInt8) (total id offset : UInt16)
    (ttl protocol : UInt8) (sum : UInt16) (src dst : UInt32) :
    (ipHdrBytes e vhl tos total id offset ttl protocol sum src dst).length = 20 := by
  simp [ipHdrBytes]

/-- Every field of a header, followed by anything, reads back as the value stored in it. -/
theorem ipHdrBytes_fields (e : Endian) (vhl tos : UInt8) (total id offset : UInt16)
    (ttl protocol : UInt8) (sum : UInt16) (src dst : UInt32) (rest : List UInt8) :
    let h := ipHdrBytes e vhl tos total id offset ttl protocol sum src dst ++ rest
    h.getD 0 0 = vhl ∧ h.getD 9 0 = protocol ∧
      e.load16 (h.getD 2 0) (h.getD 3 0) = total ∧ e.load16 (h.getD 6 0) (h.getD 7 0) = offset ∧
      e.load32 (h.getD 12 0) (h.getD 13 0) (h.getD 14 0) (h.getD 15 0) = src ∧
      e.load32 (h.getD 16 0) (h.getD 17 0) (h.getD 18 0) (h.getD 19 0) = dst := by
  intro h
  have h0 := e.load16_store16 total
  have h1 := e.load16_store16 offset
  have h2 := e.load32_store32 src
  have h3 := e.load32_store32 dst
  cases e <;> exact ⟨rfl, rfl, h0, h1, h2, h3⟩

/-- INTERNAL: a table built by `ip_protocol_register` never holds a protocol number twice. -/
theorem nodup_type_of_registered {protocols : List (IpProtocol H)}
    (hreg : IpProtocolsRegistered protocols) : (protocols.map IpProtocol.type).Nodup := by
  refine Transition.Reachable.inv (P := fun ps => (ps.map IpProtocol.type).Nodup)
    (fun s hs => by simp [hs]) ?_ hreg
  rintro ps ps' hnodup ⟨alloc, type, handler, hps'⟩
  unfold ipProtocolRegister at hps'
  split at hps'
  · cases hps'
  · split at hps'
    · cases hps'
      have hfresh : type ∉ ps.map IpProtocol.type := by
        simpa using ‹¬ps.any (fun entry => entry.type == type) = true›
      exact List.nodup_cons.mpr ⟨hfresh, hnodup⟩
    · cases hps'

/-- INTERNAL: in a table without repeated numbers, looking a number up finds its one entry. -/
theorem find_of_nodup {protocols : List (IpProtocol H)} (hnodup : (protocols.map IpProtocol.type).Nodup)
    {entry : IpProtocol H} (hentry : entry ∈ protocols) :
    protocols.find? (fun proto => proto.type == entry.type) = some entry := by
  induction protocols with
  | nil => cases hentry
  | cons p ps ih =>
      rw [List.map_cons, List.nodup_cons] at hnodup
      rcases List.mem_cons.mp hentry with rfl | hmem
      · simp
      · have hne : p.type ≠ entry.type := fun heq =>
          hnodup.1 (heq ▸ List.mem_map_of_mem hmem)
        rw [List.find?_cons_of_neg (by simpa using hne)]
        exact ih hnodup.2 hmem

/-- INTERNAL: a block whose first byte is not zero has a positive sum, while nothing
overflows. -/
theorem cksum16Sum_pos (e : Endian) (b0 b1 : UInt8) (rest : List UInt8) (hb0 : b0 ≠ 0)
    (hfit : 65535 * ((rest.length + 1) / 2) + 65535 < 2 ^ 32) :
    0 < (cksum16Sum e (b0 :: b1 :: rest) 0).toNat := by
  have hw : 0 < (e.load16 b0 b1).toNat :=
    Endian.toNat_load16_pos e (Or.inl (Nat.pos_of_ne_zero fun h => hb0 (UInt8.toNat_inj.mp h)))
  have hwlt := (e.load16 b0 b1).toNat_lt
  have hrest := toNat_cksum16Sum_le e rest 0 (by simp only [UInt32.toNat_zero]; omega)
  simp only [UInt32.toNat_zero, Nat.zero_add] at hrest
  rw [cksum16Sum, cksum16Sum_eq_add, UInt32.toNat_add, UInt32.zero_add, UInt16.toNat_toUInt32,
    Nat.mod_eq_of_lt (by omega)]
  omega

/-- The checksum `ip_output_core` stores verifies: summing the header with it gives zero. -/
theorem cksum16_ipHdrBytes (e : Endian) (vhl tos : UInt8) (total id offset : UInt16)
    (ttl protocol : UInt8) (src dst : UInt32) (hvhl : vhl ≠ 0) :
    cksum16 e (ipHdrBytes e vhl tos total id offset ttl protocol
      (cksum16 e (ipHdrBytes e vhl tos total id offset ttl protocol 0 src dst) 20 0) src dst) 20 0 = 0 := by
  have hpos := cksum16Sum_pos e vhl tos
    (e.store16 total ++ e.store16 id ++ e.store16 offset ++ [ttl, protocol] ++ e.store16 0 ++
      (e.store32 src ++ e.store32 dst)) hvhl (by simp)
  rw [ipHdrBytes_eq, ipHdrBytes_eq]
  exact cksum16_self e _ _ (by simp) 20 (by simp) 0 (by simp)
    (by simpa only [List.cons_append, List.nil_append, List.append_assoc] using hpos)

/-- INTERNAL: a payload that fits leaves room for the header in the `uint16_t` total. -/
theorem toNat_ip_total {d : List UInt8} (hd : d.length ≤ IP_PAYLOAD_SIZE_MAX) :
    ((20 : UInt16) + d.length.toUInt16).toNat = 20 + d.length := by
  simp only [IP_PAYLOAD_SIZE_MAX, IP_TOTAL_SIZE_MAX, IP_HDR_SIZE_MIN] at hd
  exact toNat_add_length_toUInt16 (by simp only [UInt16.reduceToNat]; omega)

/-- INTERNAL: `ip_output_core` with a payload that fits: the header (its checksum computed with
the field zeroed) followed by the whole payload. -/
theorem ipOutputCore_eq (e : Endian) (protocol : UInt8) (d : List UInt8) (src dst : UInt32)
    (id offset : UInt16) (hd : d.length ≤ IP_PAYLOAD_SIZE_MAX) :
    ipOutputCore e protocol d src dst id offset =
      ipHdrBytes e 0x45 0 (hton16 e (20 + d.length.toUInt16)) (hton16 e id) (hton16 e offset) 0xff
        protocol (cksum16 e (ipHdrBytes e 0x45 0 (hton16 e (20 + d.length.toUInt16)) (hton16 e id)
          (hton16 e offset) 0xff protocol 0 src dst) 20 0) src dst ++ d := by
  have hvhl : (IP_VERSION_IPV4 <<< 4) ||| ((20 : UInt16) >>> 2).toUInt8 = 0x45 := by decide
  have htotal := toNat_ip_total hd
  simp only [ipOutputCore, hvhl]
  apply List.take_of_length_le
  simp [htotal]

/-- `ip_output` on a route's interface, from `IP_ADDR_ANY` or the interface's own address, to a
destination other than the limited broadcast and with a payload that fits the MTU: the datagram
`ip_output_core` builds from the interface's unicast address, whatever `src` was. -/
theorem ipOutput_eq_ipOutputCore (e : Endian) (iface : IpIface) (protocol : UInt8)
    (data : List UInt8) {src dst : UInt32} (hsrc : src = IP_ADDR_ANY ∨ src = iface.unicast)
    (hdst : dst ≠ IP_ADDR_BROADCAST) (hmtu : IP_HDR_SIZE_MIN + data.length ≤ iface.mtu.toNat)
    (id : UInt16) :
    ipOutput e (some iface) protocol data src dst id =
      some (ipOutputCore e protocol data iface.unicast dst id 0) := by
  have hsrc' : ¬(src ≠ IP_ADDR_ANY ∧ src ≠ iface.unicast) := by
    rcases hsrc with h | h <;> simp [h]
  rw [ipOutput, if_neg (fun h => hdst h.2), if_neg hsrc', if_neg (by omega)]

/-- **IP round trip.** The datagram `ip_output_core` builds for a registered protocol, with the
fragment offset `0` that `ip_output` passes and any padding after it, passes `ip_input`'s
length, version, checksum and fragment checks on a device whose interface `dst` addresses, and
`ip_input` calls that protocol's handler once, with exactly the payload, `src` and `dst`. -/
theorem ipInput_ipOutputCore (e : Endian) {protocols : List (IpProtocol H)}
    (hreg : IpProtocolsRegistered protocols) {entry : IpProtocol H} (hentry : entry ∈ protocols)
    (mtu : UInt16) (d : List UInt8) (hd : IP_HDR_SIZE_MIN + d.length ≤ mtu.toNat) (id : UInt16)
    (src dst : UInt32) (t : List UInt8) (dev : NetDevice) (iface : IpIface)
    (hdev : netDeviceGetIface dev = some iface)
    (hdst : dst = iface.unicast ∨ dst = iface.broadcast ∨ dst = IP_ADDR_BROADCAST) :
    ipInput e protocols (ipOutputCore e entry.type d src dst id 0 ++ t) dev =
      some ⟨entry.handler, d, d.length, src, dst, iface⟩ := by
  have hmtu := mtu.toNat_lt
  have hlen : d.length ≤ IP_PAYLOAD_SIZE_MAX := by
    simp only [IP_PAYLOAD_SIZE_MAX, IP_TOTAL_SIZE_MAX, IP_HDR_SIZE_MIN] at hd ⊢
    omega
  rw [ipOutputCore_eq e entry.type d src dst id 0 hlen]
  set T : UInt16 := 20 + d.length.toUInt16 with hT
  set hdr0 := ipHdrBytes e 0x45 0 (hton16 e T) (hton16 e id) (hton16 e 0) 0xff entry.type 0 src dst
  set hdr := ipHdrBytes e 0x45 0 (hton16 e T) (hton16 e id) (hton16 e 0) 0xff entry.type
    (cksum16 e hdr0 20 0) src dst with hhdr
  have hTval : T.toNat = 20 + d.length := toNat_ip_total hlen
  obtain ⟨f0, f9, fT, fO, fS, fD⟩ := ipHdrBytes_fields e 0x45 0 (hton16 e T) (hton16 e id)
    (hton16 e 0) 0xff entry.type (cksum16 e hdr0 20 0) src dst (d ++ t)
  rw [← hhdr] at f0 f9 fT fO fS fD
  have hlength : (hdr ++ d ++ t).length = 20 + d.length + t.length := by
    simp only [hhdr, List.length_append, length_ipHdrBytes]
  -- the checksum only reads the header
  have hsum : cksum16 e (hdr ++ d ++ t) 20 0 = 0 := by
    have htake : (hdr ++ d ++ t).take (20 : UInt16).toNat = hdr.take (20 : UInt16).toNat := by
      rw [List.append_assoc, List.take_append_of_le_length (by simp [hhdr])]
    rw [cksum16, htake, ← cksum16, hhdr]
    exact cksum16_ipHdrBytes e 0x45 0 _ _ _ 0xff entry.type src dst (by decide)
  have hpayload : ((hdr ++ d ++ t).drop 20).take d.length = d := by
    rw [List.append_assoc, List.drop_left' (by simp [hhdr]), List.take_left' rfl]
  have hdst' : ¬(dst ≠ iface.unicast ∧ dst ≠ iface.broadcast ∧ dst ≠ IP_ADDR_BROADCAST) := by
    rcases hdst with h | h | h <;> simp [h]
  have hv : (69 : UInt8) >>> 4 = IP_VERSION_IPV4 := by decide
  have hh : ((69 : UInt8) &&& 15).toUInt16 <<< 2 = 20 := by decide
  have hoff : ¬((0 : UInt16) &&& 8192 ≠ 0 ∨ (0 : UInt16) &&& 8191 ≠ 0) := by decide
  have hshort : ¬(hdr ++ d ++ t).length < IP_HDR_SIZE_MIN := by
    rw [hlength, IP_HDR_SIZE_MIN]; omega
  have htotal : ¬(hdr ++ d ++ t).length < 20 + d.length := by
    rw [hlength]; omega
  have hlenarg : ((((20 + d.length : Nat) : Int) - (20 : Nat)) % 2 ^ 64).toNat = d.length := by
    omega
  simp only [List.append_assoc] at f0 f9 fT fO fS fD hlength hsum hpayload hshort htotal
  rw [List.append_assoc]
  simp only [ipInput, f0, fT, fO, fD, f9, fS, ntoh16_hton16, hv, hh, hdev, hshort,
    hsum, hoff, hdst', if_false, ne_eq, not_true_eq_false, hTval,
    find_of_nodup (nodup_type_of_registered hreg) hentry, UInt16.reduceToNat]
  rw [if_neg (by rw [hlength]; omega), if_neg htotal, hlenarg, hpayload]

/-- The round trip of a three-byte TCP payload from `10.0.0.1` to an interface `10.0.0.2/24`
on a little-endian host, padded to Ethernet's 46-byte minimum. -/
theorem ipInput_ipOutputCore_tcp :
    ipInput (H := Nat) .little [⟨IP_PROTOCOL_TCP, 0⟩]
        (ipOutputCore .little IP_PROTOCOL_TCP [1, 2, 3] 0x0100000a 0x0200000a 128 0 ++
          List.replicate 23 0) ⟨1500, [⟨0x0200000a, 0x00ffffff, 0xff00000a, 1500⟩]⟩ =
      some ⟨0, [1, 2, 3], 3, 0x0100000a, 0x0200000a, ⟨0x0200000a, 0x00ffffff, 0xff00000a, 1500⟩⟩ :=
  ipInput_ipOutputCore .little ⟨[], rfl, Relation.ReflTransGen.single ⟨true, IP_PROTOCOL_TCP, 0, rfl⟩⟩
    (show (⟨IP_PROTOCOL_TCP, 0⟩ : IpProtocol Nat) ∈ [⟨IP_PROTOCOL_TCP, 0⟩] from List.mem_cons_self) 1500 [1, 2, 3] (by decide) 128 0x0100000a
    0x0200000a (List.replicate 23 0) ⟨1500, [⟨0x0200000a, 0x00ffffff, 0xff00000a, 1500⟩]⟩
    ⟨0x0200000a, 0x00ffffff, 0xff00000a, 1500⟩ rfl (Or.inl rfl)

/-! ### What `ip_input` does not check -/

/-- Twenty bytes from `10.0.0.2` to `10.0.0.1` whose header claims four words (`hlen = 16`)
and a total length of `10`, with a checksum that is valid over those sixteen bytes: the UDP
handler is called with `total - hlen = -6` as its `size_t` length and a payload that is the
destination address. -/
theorem ipInput_short_hlen :
    (ipInput (H := Nat) .little [⟨IP_PROTOCOL_UDP, 0⟩]
        [0x44, 0, 0, 10, 0, 0, 0, 0, 0xff, IP_PROTOCOL_UDP, 178, 225, 10, 0, 0, 2, 10, 0, 0, 1]
        ⟨1500, [⟨0x0100000a, 0x00ffffff, 0xff00000a, 1500⟩]⟩).map
        (fun c => (c.handler, c.payload, c.len, c.src, c.dst)) =
      some (0, [10, 0, 0, 1], 2 ^ 64 - 6, 0x0200000a, 0x0100000a) := by
  simp only [ipInput, cksum16, cksum16Fold_eq]
  decide

end Microps
