import Microps.Model.Net
import Microps.Model.Arp

/-!
# `ether.c`: frames

`ether_transmit_helper` builds a frame in a zeroed buffer: the destination and the device's
own address (the first six bytes of each buffer), the type in network order, the data, and as
many zeros as bring the payload up to the 46-byte minimum; the driver's callback writes it out.
`ether_poll_helper` takes the frame the driver read, drops it when it is shorter than the
header or addressed to neither the device nor the broadcast address, and otherwise hands the
type and everything after the header to `net_input_handler`. `ether_setup_helper` is what makes
a device an Ethernet device.
-/

set_option autoImplicit false

namespace Microps

open ByteOrder

/-- `ETHER_HDR_SIZE` -/
def ETHER_HDR_SIZE : Nat := 14

/-- `ETHER_FRAME_SIZE_MIN` -/
def ETHER_FRAME_SIZE_MIN : Nat := 60

/-- `ETHER_FRAME_SIZE_MAX` -/
def ETHER_FRAME_SIZE_MAX : Nat := 1514

/-- `ETHER_PAYLOAD_SIZE_MIN` -/
def ETHER_PAYLOAD_SIZE_MIN : Nat := ETHER_FRAME_SIZE_MIN - ETHER_HDR_SIZE

/-- `ETHER_PAYLOAD_SIZE_MAX` -/
def ETHER_PAYLOAD_SIZE_MAX : Nat := ETHER_FRAME_SIZE_MAX - ETHER_HDR_SIZE

/-- `ETHER_TYPE_IP` -/
def ETHER_TYPE_IP : UInt16 := 0x0800

/-- `ETHER_TYPE_ARP` -/
def ETHER_TYPE_ARP : UInt16 := 0x0806

/-- `ETHER_ADDR_ANY` -/
def ETHER_ADDR_ANY : List UInt8 := List.replicate 6 0

/-- `ETHER_ADDR_BROADCAST` -/
def ETHER_ADDR_BROADCAST : List UInt8 := List.replicate 6 0xff

/-- The zeros `ether_transmit_helper` adds after the data. -/
def etherPad (len : Nat) : Nat :=
  if len < ETHER_PAYLOAD_SIZE_MIN then ETHER_PAYLOAD_SIZE_MIN - len else 0

/-- `ether_transmit_helper`: the `flen` bytes handed to the callback; `none` when the data does
not fit the frame buffer (the `memcpy` writes past it). -/
def etherTransmitHelper (e : Endian) (dev : NetDev) (type : UInt16) (data : List UInt8)
    (dst : List UInt8) : Option (List UInt8) :=
  if ETHER_FRAME_SIZE_MAX < ETHER_HDR_SIZE + data.length then none
  else some (dst.take 6 ++ dev.addr.take 6 ++ e.store16 (hton16 e type) ++ data ++
    List.replicate (etherPad data.length) 0)

/-- `ether_poll_helper` on the frame the driver's callback read: the type and the payload
`net_input_handler` is called with, or `none` when the frame is dropped. -/
def etherPollHelper (e : Endian) (dev : NetDev) (frame : List UInt8) :
    Option (UInt16 × List UInt8) :=
  if frame.length < ETHER_HDR_SIZE then none
  else if dev.addr.take 6 ≠ frame.take 6 ∧ ETHER_ADDR_BROADCAST ≠ frame.take 6 then none
  else some (ntoh16 e (e.load16 (frame.getD 12 0) (frame.getD 13 0)), frame.drop ETHER_HDR_SIZE)

/-- `ether_setup_helper` -/
def etherSetupHelper (dev : NetDev) : NetDev :=
  { dev with
    type := .ethernet
    mtu := ETHER_PAYLOAD_SIZE_MAX.toUInt16
    flags := NET_DEVICE_FLAG_BROADCAST ||| NET_DEVICE_FLAG_NEED_ARP
    broadcast := ETHER_ADDR_BROADCAST }

end Microps
