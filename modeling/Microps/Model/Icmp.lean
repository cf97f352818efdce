import Microps.Model.Ip

/-!
# `icmp.c`: echo

`icmp_output` lays out `struct icmp_hdr` (type, code, the sum field, and the four bytes
`values` copied as they came), puts the data after it and checksums the whole message with the
sum field zeroed. `icmp_input` drops a message shorter than the header or whose checksum does
not verify, and answers an echo request with an echo reply that carries the request's code,
values and data, from the address the request was sent to (the interface's own address when it
was sent to a broadcast address) back to its sender. What `icmp_output` hands over is the
`ip_output` call it makes.
-/

set_option autoImplicit false

namespace Microps

open ByteOrder

/-- `ICMP_TYPE_ECHOREPLY` -/
def ICMP_TYPE_ECHOREPLY : UInt8 := 0

/-- `ICMP_TYPE_ECHO` -/
def ICMP_TYPE_ECHO : UInt8 := 8

/-- `IP_PROTOCOL_ICMP` -/
def IP_PROTOCOL_ICMP : UInt8 := 0x01

/-- `ICMP_BUFSIZ` -/
def ICMP_BUFSIZ : Nat := IP_PAYLOAD_SIZE_MAX

/-- `struct icmp_hdr` as it lies in memory: type, code, the sum field in host order and the
four bytes of `values`. -/
def icmpHdrBytes (e : Endian) (type code : UInt8) (sum : UInt16) (values : UInt32) : List UInt8 :=
  [type, code] ++ e.store16 sum ++ e.store32 values

/-- The message `icmp_output` builds in `buf`: the header, its checksum computed over the whole
message with the field zeroed (`msg_len` passed as the `uint16_t` count), then the data. -/
def icmpMessage (e : Endian) (type code : UInt8) (values : UInt32) (data : List UInt8) :
    List UInt8 :=
  let msgLen := 8 + data.length
  let sum := cksum16 e (icmpHdrBytes e type code 0 values ++ data) msgLen.toUInt16 0
  icmpHdrBytes e type code sum values ++ data

/-- The call `ip_output(IP_PROTOCOL_ICMP, msg, msg_len, src, dst)` that `icmp_output` makes. -/
structure IcmpOutputCall where
  msg : List UInt8
  src : UInt32
  dst : UInt32
  deriving DecidableEq, Repr

/-- `icmp_output`: `none` when the data does not fit `buf` after the header (the `memcpy`
writes past it). -/
def icmpOutput (e : Endian) (type code : UInt8) (values : UInt32) (data : List UInt8)
    (src dst : UInt32) : Option IcmpOutputCall :=
  if ICMP_BUFSIZ < 8 + data.length then none
  else some ⟨icmpMessage e type code values data, src, dst⟩

/-- `icmp_input` on the payload `ip_input` hands over (its `len` is the payload's length): the
reply it sends, if any, or `none` when that reply's `icmp_output` writes past its buffer. -/
def icmpInput (e : Endian) (data : List UInt8) (src dst : UInt32) (iface : IpIface) :
    Option (Option IcmpOutputCall) :=
  let byte := fun i => data.getD i 0
  if data.length < 8 then some none else
  if cksum16 e data data.length.toUInt16 0 ≠ 0 then some none else
  if byte 0 = ICMP_TYPE_ECHO then
    -- a request sent to a broadcast address is answered from the interface's own address
    let dst := if dst ≠ iface.unicast then iface.unicast else dst
    (icmpOutput e ICMP_TYPE_ECHOREPLY (byte 1) (e.load32 (byte 4) (byte 5) (byte 6) (byte 7))
      (data.drop 8) dst src).map some
  else some none

end Microps
