import Microps.Model.Udp

/-!
# `udp.c`: datagrams on the wire

`udp_output` lays out `struct udp_hdr` (the ports as the endpoints hold them, the length after
`hton16`), copies the payload after it, checksums the datagram seeded with the complemented
sum of the pseudo-header, and hands the `total` bytes to `ip_output`. Its length check bounds
`total` by `IP_PAYLOAD_SIZE_MAX`, so the `uint16_t` never wraps and the bytes handed over are
the whole header and payload.

`udp_input` checks the length against the header's length field and the checksum before it
takes the lock (`udpInputCheck`), then queues the sender and the payload on the PCB that
`udp_pcb_select` finds for the destination (`udpInput`). `sched_wakeup` changes nothing the
model holds: a waiting caller may return at any step.
-/

set_option autoImplicit false

namespace Microps

open ByteOrder

/-- `struct udp_hdr` as the bytes it occupies, each field in the host's order. -/
def udpHdrBytes (e : Endian) (src dst len sum : UInt16) : List UInt8 :=
  e.store16 src ++ e.store16 dst ++ e.store16 len ++ e.store16 sum

/-- `udp_output` up to `ip_output`: the datagram it hands over, or `none` (`-1`) when the
payload is longer than `IP_PAYLOAD_SIZE_MAX - 8`. -/
def udpOutput (e : Endian) (src dst : IpEndpoint) (data : List UInt8) : Option (List UInt8) :=
  if data.length > IP_PAYLOAD_SIZE_MAX - 8 then none else
  let total : UInt16 := 8 + data.length.toUInt16
  let psum := pseudoSum e src.addr dst.addr IP_PROTOCOL_UDP (hton16 e total)
  let hdr := fun sum => udpHdrBytes e src.port dst.port (hton16 e total) sum
  some (hdr (cksum16 e (hdr 0 ++ data) total psum.toUInt32) ++ data)

/-- `udp_input` before it takes the lock: `none` when the datagram is shorter than its header,
the header's length field disagrees with the length received, or the checksum fails;
otherwise the destination port and the entry to queue, the sender and the payload. -/
def udpInputCheck (e : Endian) (data : List UInt8) (src dst : UInt32) :
    Option (UInt16 × UdpQueueEntry) :=
  let byte := fun i => data.getD i 0
  let len := data.length
  if len < 8 then none else
  if len ≠ (ntoh16 e (e.load16 (byte 4) (byte 5))).toNat then none else
  let psum := pseudoSum e src dst IP_PROTOCOL_UDP (hton16 e len.toUInt16)
  if cksum16 e data len.toUInt16 psum.toUInt32 ≠ 0 then none else
  some (e.load16 (byte 2) (byte 3), ⟨⟨src, e.load16 (byte 0) (byte 1)⟩, data.drop 8⟩)

/-- `udp_input`: after the checks, the entry goes on the queue of the PCB `udp_pcb_select`
finds for the destination. `alloc` is whether `memory_alloc` succeeds, for the entry and for
the node `queue_push` adds; either failing drops the datagram. -/
def udpInput (e : Endian) (alloc : Bool) (data : List UInt8) (src dst : UInt32) (u : Udp) :
    Udp :=
  match udpInputCheck e data src dst with
  | none => u
  | some (port, entry) =>
    match udpPcbSelect u dst port with
    | none => u
    | some i =>
      match queuePush alloc (u.pcbs i).queue entry with
      | none => u
      | some queue => u.set i { u.pcbs i with queue := queue }

end Microps
