import Microps.Model.Util
import Microps.Lib.Transition

/-!
# `ip.c`: the IPv4 layer

An address is the 32-bit value `ip_addr_t` holds, that is the four address bytes read as a
host-order integer; the code only compares addresses for equality and masks them. A datagram
is the list of its bytes. `ipOutputCore` lays out the 20-byte header field by field (the
multi-byte fields in host order, after `hton16`), checksums it with the sum field zeroed,
stores the sum without converting its byte order, and appends the payload; `ipInput` runs
the checks of `ip_input` in their order and returns the handler call it makes, if any.
`ipOutput` is `ip_output` after the route lookup: whatever source it is given, the header
carries the route's interface's address. The pseudo-header that TCP and UDP checksum along
with their segments is the same structure in both files (`pseudoHdrBytes`).

The protocol table is the list `ip_protocol_register` builds (newest first); a handler is an
opaque value of a type `H`, since the model only needs to know which one is called. A device
is its MTU and its interfaces; an interface carries the MTU of its device, the one field of
`NET_IFACE(iface)->dev` that this file reads.
-/

set_option autoImplicit false

namespace Microps

open ByteOrder

/-- `IP_VERSION_IPV4` -/
def IP_VERSION_IPV4 : UInt8 := 4

/-- `IP_HDR_SIZE_MIN` -/
def IP_HDR_SIZE_MIN : Nat := 20

/-- `IP_TOTAL_SIZE_MAX` -/
def IP_TOTAL_SIZE_MAX : Nat := 65535

/-- `IP_PAYLOAD_SIZE_MAX` -/
def IP_PAYLOAD_SIZE_MAX : Nat := IP_TOTAL_SIZE_MAX - IP_HDR_SIZE_MIN

/-- `IP_PROTOCOL_TCP` -/
def IP_PROTOCOL_TCP : UInt8 := 0x06

/-- `IP_PROTOCOL_UDP` -/
def IP_PROTOCOL_UDP : UInt8 := 0x11

/-- `IP_ADDR_ANY` -/
def IP_ADDR_ANY : UInt32 := 0x00000000

/-- `IP_ADDR_BROADCAST` -/
def IP_ADDR_BROADCAST : UInt32 := 0xffffffff

/-- `struct ip_endpoint` -/
structure IpEndpoint where
  addr : UInt32
  port : UInt16
  deriving DecidableEq, Repr

/-- `struct ip_iface`, with the MTU of the device it is registered to. -/
structure IpIface where
  unicast : UInt32
  netmask : UInt32
  broadcast : UInt32
  mtu : UInt16
  deriving DecidableEq, Repr

/-- `struct net_device`: its MTU and the interfaces `net_device_add_iface` gave it. -/
structure NetDevice where
  mtu : UInt16
  ifaces : List IpIface
  deriving DecidableEq, Repr

/-- `net_device_get_iface(dev, NET_IFACE_FAMILY_IP)`: the first interface of the device (IP is
the only family an interface is ever registered with). -/
def netDeviceGetIface (dev : NetDevice) : Option IpIface :=
  dev.ifaces.head?

/-- `struct ip_protocol`: the protocol number and its handler. -/
structure IpProtocol (H : Type) where
  type : UInt8
  handler : H

/-- `ip_protocol_register`: refused (`none`, i.e. `-1`) when the number is taken or the entry
cannot be allocated; otherwise the entry goes in front. -/
def ipProtocolRegister {H : Type} (alloc : Bool) (protocols : List (IpProtocol H)) (type : UInt8)
    (handler : H) : Option (List (IpProtocol H)) :=
  if protocols.any (fun entry => entry.type == type) then none
  else if alloc then some (⟨type, handler⟩ :: protocols)
  else none

/-- The tables `ip_protocol_register` can build from an empty one. -/
def IpProtocolsRegistered {H : Type} (protocols : List (IpProtocol H)) : Prop :=
  Transition.Reachable (· = []) (fun ps ps' => ∃ alloc type handler,
    ipProtocolRegister alloc ps type handler = some ps') protocols

/-- The 20 bytes of a header whose fields hold the given values, each multi-byte field in the
host's order. -/
def ipHdrBytes (e : Endian) (vhl tos : UInt8) (total id offset : UInt16) (ttl protocol : UInt8)
    (sum : UInt16) (src dst : UInt32) : List UInt8 :=
  [vhl, tos] ++ e.store16 total ++ e.store16 id ++ e.store16 offset ++ [ttl, protocol] ++
    e.store16 sum ++ e.store32 src ++ e.store32 dst

/-- `ip_output_core`: the header with its checksum, then the payload; the device is handed the
first `total` bytes of the buffer. -/
def ipOutputCore (e : Endian) (protocol : UInt8) (data : List UInt8) (src dst : UInt32)
    (id offset : UInt16) : List UInt8 :=
  let hlen : UInt16 := 20
  let vhl : UInt8 := (IP_VERSION_IPV4 <<< 4) ||| (hlen >>> 2).toUInt8
  let total : UInt16 := hlen + data.length.toUInt16
  let sum := cksum16 e (ipHdrBytes e vhl 0 (hton16 e total) (hton16 e id) (hton16 e offset)
    0xff protocol 0 src dst) hlen 0
  (ipHdrBytes e vhl 0 (hton16 e total) (hton16 e id) (hton16 e offset) 0xff protocol sum
    src dst ++ data).take total.toNat

/-- `ip_output` once `ip_route_lookup` has given the route's interface (`none`: no route): a
source address other than `IP_ADDR_ANY` must be the interface's, and the header always carries
the interface's unicast address. `id` is what `ip_generate_id` returns. -/
def ipOutput (e : Endian) (iface : Option IpIface) (protocol : UInt8) (data : List UInt8)
    (src dst : UInt32) (id : UInt16) : Option (List UInt8) :=
  if src = IP_ADDR_ANY ∧ dst = IP_ADDR_BROADCAST then none else
  match iface with
  | none => none
  | some iface =>
    if src ≠ IP_ADDR_ANY ∧ src ≠ iface.unicast then none
    else if iface.mtu.toNat < IP_HDR_SIZE_MIN + data.length then none
    else some (ipOutputCore e protocol data iface.unicast dst id 0)

/-- `struct pseudo_hdr` of `tcp.c` and `udp.c`, as the twelve bytes `cksum16` reads. -/
def pseudoHdrBytes (e : Endian) (src dst : UInt32) (protocol : UInt8) (len : UInt16) :
    List UInt8 :=
  e.store32 src ++ e.store32 dst ++ [0, protocol] ++ e.store16 len

/-- `psum = ~cksum16((uint16_t *)&pseudo, sizeof(pseudo), 0)`, kept in a `uint16_t`; `len` is
the field's value, that is `hton16` of the length. -/
def pseudoSum (e : Endian) (src dst : UInt32) (protocol : UInt8) (len : UInt16) : UInt16 :=
  ~~~(cksum16 e (pseudoHdrBytes e src dst protocol len) 12 0)

/-- The call `ip_input` makes: the handler, the payload pointer's bytes, the length argument
(`total - hlen`, computed in `int` and passed as a `size_t`), the addresses and the interface. -/
structure IpHandlerCall (H : Type) where
  handler : H
  payload : List UInt8
  len : Nat
  src : UInt32
  dst : UInt32
  iface : IpIface

/-- `ip_input`: the checks in the code's order; `none` when a check drops the datagram or no
handler matches. -/
def ipInput {H : Type} (e : Endian) (protocols : List (IpProtocol H)) (data : List UInt8)
    (dev : NetDevice) : Option (IpHandlerCall H) :=
  let byte := fun i => data.getD i 0
  if data.length < IP_HDR_SIZE_MIN then none else
  let vhl := byte 0
  if vhl >>> 4 ≠ IP_VERSION_IPV4 then none else
  let hlen : UInt16 := (vhl &&& 0x0f).toUInt16 <<< 2
  if data.length < hlen.toNat then none else
  let total := ntoh16 e (e.load16 (byte 2) (byte 3))
  if data.length < total.toNat then none else
  if cksum16 e data hlen 0 ≠ 0 then none else
  let offset := ntoh16 e (e.load16 (byte 6) (byte 7))
  if offset &&& 0x2000 ≠ 0 ∨ offset &&& 0x1fff ≠ 0 then none else
  match netDeviceGetIface dev with
  | none => none
  | some iface =>
    let dst := e.load32 (byte 16) (byte 17) (byte 18) (byte 19)
    if dst ≠ iface.unicast ∧ dst ≠ iface.broadcast ∧ dst ≠ IP_ADDR_BROADCAST then none else
    match protocols.find? (fun proto => proto.type == byte 9) with
    | none => none
    | some proto =>
      let len := (((total.toNat : Int) - hlen.toNat) % 2 ^ 64).toNat
      some ⟨proto.handler, (data.drop hlen.toNat).take len, len,
        e.load32 (byte 12) (byte 13) (byte 14) (byte 15), dst, iface⟩

end Microps
