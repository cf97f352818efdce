import Microps.Model.Tcp.Segment

/-!
# `tcp.c`: segments on the wire

`tcp_output_segment` lays out `struct tcp_hdr` field by field in a zeroed buffer (the
sequence numbers and the window after `hton32` and `hton16`, the ports as the endpoints hold
them, in network order), copies the payload after it, checksums the whole segment seeded with
the complemented sum of the pseudo-header, and hands the first `total` bytes to `ip_output`.
`tcpOutputSegmentBytes` is those bytes for a call the model records as a `TcpSegmentOut`.

`tcp_input` checks the length and the checksum, refuses broadcast addresses, and calls
`tcp_segment_arrives` with the fields it reads back. The header length comes from the data
offset and is checked against nothing; `TcpInputCall` keeps it and the `size_t` length the
call is given beside the arrival, whose payload is what of those bytes the datagram holds.
-/

set_option autoImplicit false

namespace Microps

open ByteOrder

/-- `struct tcp_hdr` as the bytes it occupies, each field in the host's order. -/
def tcpHdrBytes (e : Endian) (src dst : UInt16) (seq ack : UInt32) (off flg : UInt8)
    (wnd sum up : UInt16) : List UInt8 :=
  e.store16 src ++ e.store16 dst ++ e.store32 seq ++ e.store32 ack ++ [off, flg] ++
    e.store16 wnd ++ e.store16 sum ++ e.store16 up

/-- `tcp_output_segment`: the bytes it hands to `ip_output`. A payload longer than
`IP_PAYLOAD_SIZE_MAX - 20` would overrun `buf`; the model does not follow that. -/
def tcpOutputSegmentBytes (e : Endian) (seg : TcpSegmentOut) : List UInt8 :=
  let total : UInt16 := 20 + seg.data.length.toUInt16
  let psum := pseudoSum e seg.local_.addr seg.foreign.addr IP_PROTOCOL_TCP (hton16 e total)
  let hdr := fun sum => tcpHdrBytes e seg.local_.port seg.foreign.port (hton32 e seg.seq)
    (hton32 e seg.ack) (((20 : UInt8) >>> 2) <<< 4) seg.flg (hton16 e seg.wnd) sum 0
  (hdr (cksum16 e (hdr 0 ++ seg.data) total psum.toUInt32) ++ seg.data).take total.toNat

/-- The call `tcp_input` makes: the arguments of `tcp_segment_arrives`, where the payload
pointer starts (`hlen`), and the length it is given (`len - hlen` as a `size_t`). -/
structure TcpInputCall where
  arrival : TcpArrival
  hlen : Nat
  len : Nat
  deriving DecidableEq, Repr

/-- `tcp_input`: the checks in the code's order, then the call of `tcp_segment_arrives`.
`seg.len` is `len - hlen` stored in a `uint16_t`, plus one for a SYN and one for a FIN. -/
def tcpInput (e : Endian) (data : List UInt8) (src dst : UInt32) (iface : IpIface) :
    Option TcpInputCall :=
  let byte := fun i => data.getD i 0
  let len := data.length
  if len < 20 then none else
  let psum := pseudoSum e src dst IP_PROTOCOL_TCP (hton16 e len.toUInt16)
  if cksum16 e data len.toUInt16 psum.toUInt32 ≠ 0 then none else
  if src = IP_ADDR_BROADCAST ∨ src = iface.broadcast ∨ dst = IP_ADDR_BROADCAST ∨
    dst = iface.broadcast then none else
  let hlen : UInt16 := (byte 12 >>> 4).toUInt16 <<< 2
  let flg := byte 13
  let segLen := len.toUInt16 - hlen
  let segLen := if TCP_FLG_ISSET flg TCP_FLG_SYN then segLen + 1 else segLen
  let segLen := if TCP_FLG_ISSET flg TCP_FLG_FIN then segLen + 1 else segLen
  let plen := (((len : Int) - hlen.toNat) % 2 ^ 64).toNat
  some ⟨⟨⟨ntoh32 e (e.load32 (byte 4) (byte 5) (byte 6) (byte 7)),
      ntoh32 e (e.load32 (byte 8) (byte 9) (byte 10) (byte 11)), segLen,
      ntoh16 e (e.load16 (byte 14) (byte 15))⟩, flg, (data.drop hlen.toNat).take plen,
      ⟨dst, e.load16 (byte 2) (byte 3)⟩, ⟨src, e.load16 (byte 0) (byte 1)⟩⟩, hlen.toNat, plen⟩

end Microps
