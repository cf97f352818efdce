import Microps.Model.Ether

/-!
# The drivers: `ether_tap.c`, `ether_pcap.c`, `loopback.c` and `null.c`

The TAP driver reads and writes frames through the file of a TAP device, the pcap driver
through a `PF_PACKET` socket bound to an interface. Their `open` sets the file up with a run of
system calls, the first failure closing the file and returning -1, and then, when the device's
address is all zero, copies the interface's hardware address into `dev->addr`; their `close`
closes the file. Their transmit is `ether_transmit_helper` with a `write(2)` of the frame as its
callback, and their interrupt handler a loop of `poll(2)` and `ether_poll_helper` with a
`read(2)` as its callback. The two drivers differ only in the calls that set the file up and in
their IRQ, so each operation is one definition here.

What the system calls return is a parameter, as what `memory_alloc` returns is elsewhere:
whether the set-up calls of an `open` succeed and what `ioctl(SIOCGIFHWADDR)` gives
(`EtherOpenIo`); what the `k`-th `write(2)` on the file returns when asked to write `len` bytes
(`write k len`); and in each round of
the receive loop what `poll(2)` and `read(2)` return (`EtherIsrRound`). The file is the frames
written to it and the number of writes made (`EtherFile`).
-/

set_option autoImplicit false

namespace Microps

open ByteOrder

/-! ## Opening and closing -/

/-- What the system calls of `ether_tap_open` or `ether_pcap_open` return: whether the calls
that set the file up all succeed (for TAP, `open` of the clone device, `ioctl(TUNSETIFF)` and
the three `fcntl`s; for pcap, `socket(PF_PACKET)`, `ioctl(SIOCGIFINDEX)`, `bind`, the two
`ioctl`s that make the interface promiscuous and the three `fcntl`s), and the bytes of
`ifr_hwaddr.sa_data` that `ioctl(SIOCGIFHWADDR)` returns on a new socket (`none`: that `socket`
or `ioctl` fails). Every failure closes the file and returns -1, so which call fails makes no
difference to the device. -/
structure EtherOpenIo where
  setup : Bool
  hwaddr : Option (List UInt8)
  deriving DecidableEq, Repr

/-- `ether_tap_addr` and `ether_pcap_addr`: the first six bytes the `ioctl` returns are copied to
`dev->addr`. -/
def etherAddr (hwaddr : Option (List UInt8)) (dev : NetDev) : NetDev × Int :=
  match hwaddr with
  | none => (dev, -1)
  | some sa => ({ dev with addr := sa.take 6 ++ dev.addr.drop 6 }, 0)

/-- The `open` of both Ethernet drivers: after the set-up calls, the hardware address is
fetched only when the device's address is all zero, and a failed fetch fails the open. -/
def etherOpen (io : EtherOpenIo) (dev : NetDev) : NetDev × Int :=
  if !io.setup then (dev, -1)
  else if dev.addr.take 6 = ETHER_ADDR_ANY then etherAddr io.hwaddr dev
  else (dev, 0)

/-- `ether_tap_open` -/
def etherTapOpen (io : EtherOpenIo) (dev : NetDev) : NetDev × Int :=
  etherOpen io dev

/-- `ether_pcap_open` -/
def etherPcapOpen (io : EtherOpenIo) (dev : NetDev) : NetDev × Int :=
  etherOpen io dev

/-- The `close` of both Ethernet drivers: the file is closed, the device left as it is. -/
def etherClose (dev : NetDev) : NetDev × Int :=
  (dev, 0)

/-- `ether_tap_close` -/
def etherTapClose (dev : NetDev) : NetDev × Int :=
  etherClose dev

/-- `ether_pcap_close` -/
def etherPcapClose (dev : NetDev) : NetDev × Int :=
  etherClose dev

/-! ## Transmitting -/

/-- The device's file as the driver writes it: the frames written so far, and how many times
`write(2)` has been called on it. -/
structure EtherFile where
  frames : List (List UInt8)
  writes : Nat
  deriving DecidableEq, Repr

/-- `ether_tap_write` (and `ether_pcap_write`): `write(2)` of the frame, which returns
`write k len` on the file's `k`-th call for `len` bytes; the bytes it reports written go out,
nothing on -1. -/
def etherWrite (write : Nat → Nat → Int) (file : EtherFile) (frame : List UInt8) :
    EtherFile × Int :=
  let ret := write file.writes frame.length
  (⟨if 0 < ret then file.frames ++ [frame.take ret.toNat] else file.frames, file.writes + 1⟩, ret)

/-- `ether_tap_transmit` on a host of byte order `e`: `ether_transmit_helper` with
`ether_tap_write` as its callback, 0 when the write reports the whole frame written and -1
otherwise. A payload too long for the frame buffer, which the MTU check of
`net_device_output` keeps out on a device `ether_setup_helper` set up, counts as a failure. -/
def etherTapTransmit (e : Endian) (write : Nat → Nat → Int) (file : EtherFile) (dev : NetDev)
    (type : UInt16) (data dst : List UInt8) : EtherFile × Int :=
  match etherTransmitHelper e dev type data dst with
  | none => (file, -1)
  | some frame =>
    let (file, ret) := etherWrite write file frame
    (file, if ret = frame.length then 0 else -1)

/-- `ether_pcap_transmit`: the same as `ether_tap_transmit`, with `write(2)` on the `PF_PACKET`
socket. -/
def etherPcapTransmit (e : Endian) (write : Nat → Nat → Int) (file : EtherFile) (dev : NetDev)
    (type : UInt16) (data dst : List UInt8) : EtherFile × Int :=
  etherTapTransmit e write file dev type data dst

/-! ## Receiving -/

/-- How `poll(2)` fails: with `EINTR`, after which the loop polls again, or otherwise, after
which the handler returns -1. -/
inductive EtherPollError
  | eintr | other
  deriving DecidableEq, Repr

/-- One round of the receive loop: whether `poll(2)` fails, whether `read(2)` of the frame that
waits succeeds (when it does not, `ether_tap_read` returns -1 and the frame still waits), and
what the two allocations of `net_input_handler` return for the frame. A `poll` that does not
fail reports whether a frame waits. -/
structure EtherIsrRound where
  pollError : Option EtherPollError
  readOk : Bool
  allocEntry : Bool
  allocPush : Bool
  deriving DecidableEq, Repr

/-- `ether_tap_isr` on a host of byte order `e`, over the frames waiting on the file, one round
of its loop per element of `rounds`: the protocol table after it, the frames still waiting and
what the handler returns, or `none` when the rounds run out before the loop ends. A frame read
into the buffer of `ETHER_FRAME_SIZE_MAX` bytes (`read` keeps what fits) goes through
`ether_poll_helper`, and a frame it keeps to `net_input_handler`, whose result is not looked
at. A failed read is a frame too short for `ether_poll_helper`. -/
def etherTapIsr {H : Type} (e : Endian) (dev : NetDev) :
    List (NetProtocol H NetDev) → List (List UInt8) → List EtherIsrRound →
      Option (List (NetProtocol H NetDev) × List (List UInt8) × Int)
  | _, _, [] => none
  | protocols, waiting, round :: rounds =>
    match round.pollError, waiting with
    | some .eintr, _ => etherTapIsr e dev protocols waiting rounds
    | some .other, _ => some (protocols, waiting, -1)
    -- `poll` returns 0: the loop ends
    | none, [] => some (protocols, [], 0)
    | none, frame :: rest =>
      if round.readOk then
        let protocols := match etherPollHelper e dev (frame.take ETHER_FRAME_SIZE_MAX) with
          | none => protocols
          | some (type, payload) =>
            (netInputHandler round.allocEntry round.allocPush type payload dev protocols).1
        etherTapIsr e dev protocols rest rounds
      else etherTapIsr e dev protocols waiting rounds

/-- `ether_pcap_isr`: the same loop as `ether_tap_isr`, polling and reading the `PF_PACKET`
socket. -/
def etherPcapIsr {H : Type} (e : Endian) (dev : NetDev) (protocols : List (NetProtocol H NetDev))
    (waiting : List (List UInt8)) (rounds : List EtherIsrRound) :
    Option (List (NetProtocol H NetDev) × List (List UInt8) × Int) :=
  etherTapIsr e dev protocols waiting rounds

/-! ## The loopback and null drivers -/

/-- `LOOPBACK_MTU`: `UINT16_MAX`, the largest IP datagram. -/
def LOOPBACK_MTU : UInt16 := 65535

/-- `loopback_setup` on a device `net_device_alloc` has just zeroed (the header and address
lengths, which nothing modelled reads, are left out). -/
def loopbackSetup (dev : NetDev) : NetDev :=
  { dev with type := .loopback, mtu := LOOPBACK_MTU, flags := NET_DEVICE_FLAG_LOOPBACK }

/-- `loopback_transmit`, with the protocol table as the driver's state and what the allocations
of `net_input_handler` return: the data goes straight back in, of the same type, from the
device itself; what `net_input_handler` returns is not looked at, and the transmit returns 0. -/
def loopbackTransmit {H : Type} (allocEntry allocPush : Bool)
    (protocols : List (NetProtocol H NetDev)) (dev : NetDev) (type : UInt16)
    (data _dst : List UInt8) : List (NetProtocol H NetDev) × Int :=
  ((netInputHandler allocEntry allocPush type data dev protocols).1, 0)

/-- `null_transmit`: the data is dropped and 0 returned. -/
def nullTransmit {S : Type} (s : S) (_dev : NetDev) (_type : UInt16) (_data _dst : List UInt8) :
    S × Int :=
  (s, 0)

end Microps
