import Microps.Model.Tcp.Wire
import Microps.Analysis.Checksum
import Microps.Analysis.Lifecycle
import Microps.Analysis.IpRoundTrip

/-!
# What `tcp_output_segment` sends, `tcp_input` hands to `tcp_segment_arrives`

`tcpInput_tcpOutputSegmentBytes` is the top: the bytes `tcp_output_segment` builds for any
segment whose payload fits, given to `tcp_input` with the addresses of its own pseudo-header,
pass the length and checksum checks and arrive with every field the sender put in, the
endpoints swapped. It rests on the header reading back field by field
(`tcpHdrBytes_fields`) and on the pseudo-header checksum verifying (`cksum16_pseudo_self`).

Two inputs show what the round trip does not cover. `tcp_input` takes the header length from
the data offset and never compares it with `20` or with the length of the segment, so twenty
bytes that claim a sixty-byte header reach `tcp_segment_arrives` with a wrapped `seg.len` and
a wrapped payload length (`tcpInput_hlen_beyond_len`). And the pseudo-header uses the PCB's
local address while `ip_output` puts the interface's address in the IP header: after an active
`tcp_open_rfc793` from `0.0.0.0` the two differ, and the receiver drops the SYN
(`tcp_syn_from_any_fails_checksum`).
-/

set_option autoImplicit false

namespace Microps

open ByteOrder

/-- INTERNAL: the split of a header around its checksum field: sixteen bytes before it, two
after. -/
theorem tcpHdrBytes_eq (e : Endian) (src dst : UInt16) (seq ack : UInt32) (off flg : UInt8)
    (wnd sum up : UInt16) :
    tcpHdrBytes e src dst seq ack off flg wnd sum up =
      (e.store16 src ++ e.store16 dst ++ e.store32 seq ++ e.store32 ack ++ [off, flg] ++
        e.store16 wnd) ++ e.store16 sum ++ e.store16 up := rfl

@[simp] theorem length_tcpHdrBytes (e : Endian) (src dst : UInt16) (seq ack : UInt32)
    (off flg : UInt8) (wnd sum up : UInt16) :
    (tcpHdrBytes e src dst seq ack off flg wnd sum up).length = 20 := by
  simp [tcpHdrBytes]

/-- Every field of a header that `tcp_input` reads, followed by anything, reads back as the
value stored in it. -/
theorem tcpHdrBytes_fields (e : Endian) (src dst : UInt16) (seq ack : UInt32) (off flg : UInt8)
    (wnd sum up : UInt16) (rest : List UInt8) :
    let h := tcpHdrBytes e src dst seq ack off flg wnd sum up ++ rest
    e.load16 (h.getD 0 0) (h.getD 1 0) = src ∧ e.load16 (h.getD 2 0) (h.getD 3 0) = dst ∧
      e.load32 (h.getD 4 0) (h.getD 5 0) (h.getD 6 0) (h.getD 7 0) = seq ∧
      e.load32 (h.getD 8 0) (h.getD 9 0) (h.getD 10 0) (h.getD 11 0) = ack ∧
      h.getD 12 0 = off ∧ h.getD 13 0 = flg ∧ e.load16 (h.getD 14 0) (h.getD 15 0) = wnd := by
  intro h
  have h0 := e.load16_store16 src
  have h1 := e.load16_store16 dst
  have h2 := e.load32_store32 seq
  have h3 := e.load32_store32 ack
  have h4 := e.load16_store16 wnd
  cases e <;> exact ⟨h0, h1, h2, h3, rfl, rfl, h4⟩

/-- INTERNAL: with a payload that fits, `tcp_output_segment` sends the header (data offset
`5`, urgent pointer `0`) and the whole payload. -/
theorem tcpOutputSegmentBytes_eq (e : Endian) (seg : TcpSegmentOut)
    (hd : seg.data.length ≤ IP_PAYLOAD_SIZE_MAX - 20) :
    ∃ sum, tcpOutputSegmentBytes e seg = tcpHdrBytes e seg.local_.port seg.foreign.port
      (hton32 e seg.seq) (hton32 e seg.ack) 0x50 seg.flg (hton16 e seg.wnd) sum 0 ++ seg.data := by
  have hoff : ((20 : UInt8) >>> 2) <<< 4 = 0x50 := by decide
  -- a segment that fits in an IP payload has the total that `ip_output` checks
  simp only [tcpOutputSegmentBytes, toNat_ip_total (Nat.le_trans hd (Nat.sub_le _ _)), hoff]
  exact ⟨_, List.take_of_length_le (by simp)⟩

/-- The segment `tcp_output_segment` sends checks to zero against the pseudo-header of its own
addresses and length. -/
theorem cksum16_tcpOutputSegmentBytes (e : Endian) (seg : TcpSegmentOut)
    (hd : seg.data.length ≤ IP_PAYLOAD_SIZE_MAX - 20) :
    cksum16 e (tcpOutputSegmentBytes e seg) (20 + seg.data.length).toUInt16
      (pseudoSum e seg.local_.addr seg.foreign.addr IP_PROTOCOL_TCP
        (hton16 e (20 + seg.data.length).toUInt16)).toUInt32 = 0 := by
  have htotal := toNat_ip_total (Nat.le_trans hd (Nat.sub_le _ _))
  have hcast : (20 + seg.data.length).toUInt16 = 20 + seg.data.length.toUInt16 := by simp
  rw [hcast]
  simp only [tcpOutputSegmentBytes, htotal]
  -- the checksum field after sixteen bytes; the urgent pointer joins the payload
  rw [List.take_of_length_le (by simp), tcpHdrBytes_eq, tcpHdrBytes_eq,
    List.append_assoc _ (e.store16 0) seg.data, List.append_assoc _ (e.store16 0) seg.data]
  exact cksum16_pseudo_self e _ _ (by simp) (pseudoSum_pos e _ _ (by decide) _) _
    (by simp [htotal]; omega)

/-- **TCP round trip.** The segment `tcp_output_segment` builds from any sequence numbers,
flags, window and payload that fits, given to `tcp_input` with its own source and destination
addresses (neither of them a broadcast address), passes the length and checksum checks and
reaches `tcp_segment_arrives` with those fields, `seg.len` counting SYN and FIN, exactly the
payload after the twenty-byte header, and the endpoints seen from the receiver. -/
theorem tcpInput_tcpOutputSegmentBytes (e : Endian) (seg : TcpSegmentOut) (iface : IpIface)
    (hd : seg.data.length ≤ IP_PAYLOAD_SIZE_MAX - 20)
    (hsrc : seg.local_.addr ≠ IP_ADDR_BROADCAST ∧ seg.local_.addr ≠ iface.broadcast)
    (hdst : seg.foreign.addr ≠ IP_ADDR_BROADCAST ∧ seg.foreign.addr ≠ iface.broadcast) :
    tcpInput e (tcpOutputSegmentBytes e seg) seg.local_.addr seg.foreign.addr iface =
      some ⟨⟨⟨seg.seq, seg.ack, (seg.data.length +
          (if TCP_FLG_ISSET seg.flg TCP_FLG_SYN then 1 else 0) +
          (if TCP_FLG_ISSET seg.flg TCP_FLG_FIN then 1 else 0)).toUInt16, seg.wnd⟩,
        seg.flg, seg.data, seg.foreign, seg.local_⟩, 20, seg.data.length⟩ := by
  have hck := cksum16_tcpOutputSegmentBytes e seg hd
  obtain ⟨sum, hbytes⟩ := tcpOutputSegmentBytes_eq e seg hd
  obtain ⟨fS, fD, fseq, fack, foff, fflg, fwnd⟩ := tcpHdrBytes_fields e seg.local_.port
    seg.foreign.port (hton32 e seg.seq) (hton32 e seg.ack) 0x50 seg.flg (hton16 e seg.wnd) sum 0
    seg.data
  rw [hbytes] at hck ⊢
  set bytes := tcpHdrBytes e seg.local_.port seg.foreign.port (hton32 e seg.seq) (hton32 e seg.ack)
    0x50 seg.flg (hton16 e seg.wnd) sum 0 ++ seg.data with hbytes'
  have hn : seg.data.length < 65516 := by
    simp only [IP_PAYLOAD_SIZE_MAX, IP_TOTAL_SIZE_MAX, IP_HDR_SIZE_MIN] at hd
    omega
  have hlength : bytes.length = 20 + seg.data.length := by simp [hbytes']
  have hh : ((80 : UInt8) >>> 4).toUInt16 <<< 2 = 20 := by decide
  have hseglen : (20 + seg.data.length).toUInt16 - 20 = seg.data.length.toUInt16 := by
    rw [Nat.toUInt16_eq, UInt16.ofNat_add]
    grind
  have hplen : ((((20 + seg.data.length : Nat) : Int) - ((20 : Nat) : Int)) % 2 ^ 64).toNat =
      seg.data.length := by omega
  have hpayload : (bytes.drop 20).take seg.data.length = seg.data := by
    rw [hbytes', List.drop_left' (by simp), List.take_length]
  have hbc : ¬(seg.local_.addr = IP_ADDR_BROADCAST ∨ seg.local_.addr = iface.broadcast ∨
      seg.foreign.addr = IP_ADDR_BROADCAST ∨ seg.foreign.addr = iface.broadcast) := by
    simp [hsrc, hdst]
  simp only [tcpInput, hlength, fS, fD, fseq, fack, foff, fflg, fwnd, hck, hh, hseglen, hbc,
    ntoh32_hton32, ntoh16_hton16, UInt16.reduceToNat, hplen, hpayload, ne_eq, not_true_eq_false,
    if_false]
  rw [if_neg (by omega)]
  -- SYN and FIN add one each, on both sides
  cases TCP_FLG_ISSET seg.flg TCP_FLG_SYN <;> cases TCP_FLG_ISSET seg.flg TCP_FLG_FIN <;> simp

/-- A SYN-ACK from `10.0.0.1:7` to `10.0.0.2:5000` with three bytes of payload, on a
little-endian host: the odd length is summed with its last byte alone. -/
theorem tcpInput_tcpOutputSegmentBytes_synack :
    tcpInput .little (tcpOutputSegmentBytes .little
        ⟨1000, 501, TCP_FLG_SYN ||| TCP_FLG_ACK, 65535, [1, 2, 3], ⟨0x0100000a, 7⟩,
          ⟨0x0200000a, 5000⟩⟩) 0x0100000a 0x0200000a ⟨0x0200000a, 0x00ffffff, 0xff00000a, 1500⟩ =
      some ⟨⟨⟨1000, 501, 4, 65535⟩, TCP_FLG_SYN ||| TCP_FLG_ACK, [1, 2, 3], ⟨0x0200000a, 5000⟩,
        ⟨0x0100000a, 7⟩⟩, 20, 3⟩ :=
  (tcpInput_tcpOutputSegmentBytes .little
    ⟨1000, 501, TCP_FLG_SYN ||| TCP_FLG_ACK, 65535, [1, 2, 3], ⟨0x0100000a, 7⟩, ⟨0x0200000a, 5000⟩⟩
    ⟨0x0200000a, 0x00ffffff, 0xff00000a, 1500⟩ (by decide) ⟨by decide, by decide⟩
    ⟨by decide, by decide⟩).trans (by decide)

/-! ### What `tcp_input` does not check -/

/-- Twenty bytes from `10.0.0.2:7` to `10.0.0.1:8` with a valid checksum and a data offset of
`15` words: `tcp_input` calls `tcp_segment_arrives` with a sixty-byte header, a `seg.len` of
`20 - 60` wrapped in `uint16_t`, and `20 - 60` wrapped in `size_t` as the payload length. -/
theorem tcpInput_hlen_beyond_len :
    tcpInput .little [7, 0, 8, 0, 0, 0, 0, 0, 0, 0, 0, 0, 0xf0, TCP_FLG_ACK, 0, 0, 236, 209, 0, 0]
        0x0200000a 0x0100000a ⟨0x0100000a, 0x00ffffff, 0xff00000a, 1500⟩ =
      some ⟨⟨⟨0, 0, 65496, 0⟩, TCP_FLG_ACK, [], ⟨0x0100000a, 8⟩, ⟨0x0200000a, 7⟩⟩, 60,
        2 ^ 64 - 40⟩ := by
  simp only [tcpInput, pseudoSum, cksum16, cksum16Fold_eq]
  decide

/-- An active `tcp_open_rfc793` from `0.0.0.0:7` to `10.0.0.2:80`. -/
def tcpActiveFromAnyRun : List (TcpEnv × TcpEvent) :=
  [(lifecycleEnv 0, .command (.openRfc793 ⟨IP_ADDR_ANY, 7⟩ (.active ⟨0x0200000a, 80⟩)))]

/-- The run sends one SYN, its pseudo-header from the PCB's local address `0.0.0.0`;
`ip_output` on the interface `10.0.0.1/24` sends it from `10.0.0.1`; and `tcp_input` on
`10.0.0.2`, given that source, drops it on its checksum. -/
theorem tcp_syn_from_any_fails_checksum :
    let syn : TcpSegmentOut :=
      ⟨1000, 0, TCP_FLG_SYN, 65535, [], ⟨IP_ADDR_ANY, 7⟩, ⟨0x0200000a, 80⟩⟩
    (tcpRun TcpSystem.init tcpActiveFromAnyRun).map (fun p => p.1.tcp.out) = some [syn] ∧
      ipOutput .little (some ⟨0x0100000a, 0x00ffffff, 0xff00000a, 1500⟩) IP_PROTOCOL_TCP
          (tcpOutputSegmentBytes .little syn) syn.local_.addr syn.foreign.addr 0 =
        some (ipOutputCore .little IP_PROTOCOL_TCP (tcpOutputSegmentBytes .little syn)
          0x0100000a 0x0200000a 0 0) ∧
      tcpInput .little (tcpOutputSegmentBytes .little syn) 0x0100000a 0x0200000a
        ⟨0x0200000a, 0x00ffffff, 0xff00000a, 1500⟩ = none := by
  intro syn
  refine ⟨by decide, ipOutput_eq_ipOutputCore _ _ _ _ (Or.inl rfl) (by decide) (by decide) 0, ?_⟩
  simp only [syn, tcpInput, tcpOutputSegmentBytes, pseudoSum, cksum16, cksum16Fold_eq]
  decide

end Microps
