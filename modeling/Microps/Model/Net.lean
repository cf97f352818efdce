import Microps.Model.Ip

/-!
# `net.c`: devices, the protocol input queues and the timers

A device driver hands each frame it receives to `net_input_handler`, which copies it into an
entry at the end of the input queue of the protocol of its type. The interrupt thread runs
`net_protocol_handler` on `SIGUSR1`: for each protocol in turn it pops entries until the queue
is empty and calls the protocol's handler on each. A handler may itself call
`net_input_handler` (an `ip_input` that answers over the loopback device does), so entries can
join a queue while the loop runs. The loop is therefore a state machine (`NetSoftirq`): the
table of protocols and where the running loop is, driven by inputs, the start of a round and
the loop's own pops (`netSoftirqStep`).

A device is the fields of `struct net_device` that `net.c`, `ether.c`, `ip.c` and the drivers
read; a driver's `transmit` is a parameter of `net_device_output`, as the function pointer is.
`net_timer_handler` reads the clock once per timer, and a timer runs when its interval is
shorter than the time since it last ran.
-/

set_option autoImplicit false

namespace Microps

/-- `NET_PROTOCOL_TYPE_IP` -/
def NET_PROTOCOL_TYPE_IP : UInt16 := 0x0800

/-- `NET_PROTOCOL_TYPE_ARP` -/
def NET_PROTOCOL_TYPE_ARP : UInt16 := 0x0806

/-! ## The protocol input queues -/

/-- `struct net_protocol_queue_entry` and the `len` bytes `memcpy` puts right after it. -/
structure NetProtocolQueueEntry (D : Type) where
  dev : D
  len : Nat
  data : List UInt8
  deriving DecidableEq, Repr

/-- `struct net_protocol`: the type, the handler and the input queue (the name is only
printed). -/
structure NetProtocol (H D : Type) where
  type : UInt16
  handler : H
  queue : List (NetProtocolQueueEntry D)

variable {H D : Type}

/-- `net_protocol_register`: refused when the type is taken or `memory_alloc` fails; the new
entry goes in front, its queue empty (`memory_alloc` zeroes it). -/
def netProtocolRegister (alloc : Bool) (protocols : List (NetProtocol H D)) (type : UInt16)
    (handler : H) : Option (List (NetProtocol H D)) :=
  if protocols.any (fun proto => proto.type == type) then none
  else if alloc then some (⟨type, handler, []⟩ :: protocols)
  else none

/-- `net_input_handler`, with what `memory_alloc` returns for the entry (`allocEntry`) and for
the `queue_push` that follows (`allocPush`): the first protocol of the type gets the entry at
the end of its queue. A type no protocol has is dropped and still returns 0; a failed
allocation returns -1 and leaves the queues as they were. -/
def netInputHandler (allocEntry allocPush : Bool) (type : UInt16) (data : List UInt8) (dev : D) :
    List (NetProtocol H D) → List (NetProtocol H D) × Int
  | [] => ([], 0)
  | proto :: rest =>
    if proto.type = type then
      if !allocEntry then (proto :: rest, -1) else
      match queuePush allocPush proto.queue ⟨dev, data.length, data⟩ with
      | none => (proto :: rest, -1)
      | some queue => ({ proto with queue := queue } :: rest, 0)
    else
      let (rest, ret) := netInputHandler allocEntry allocPush type data dev rest
      (proto :: rest, ret)

/-- A call `proto->handler(data, len, dev)` of `net_protocol_handler`, with the type of the
protocol whose handler it is. -/
structure NetHandlerCall (H D : Type) where
  type : UInt16
  handler : H
  data : List UInt8
  len : Nat
  dev : D

/-- The protocol table and where a running `net_protocol_handler` is: `some k` while its outer
loop is at the `k`-th protocol, `none` when it is not running. -/
structure NetSoftirq (H D : Type) where
  protocols : List (NetProtocol H D)
  cursor : Option Nat

/-- One round of the loops of `net_protocol_handler` at the `k`-th protocol: `queue_pop`; an
entry goes to the handler and the inner loop goes on, an empty queue moves the outer loop to
the next protocol, and past the last protocol the function returns. -/
def netProtocolHandlerStep (protocols : List (NetProtocol H D)) (k : Nat) :
    NetSoftirq H D × Option (NetHandlerCall H D) :=
  match protocols[k]? with
  | none => (⟨protocols, none⟩, none)
  | some proto =>
    match queuePop proto.queue with
    | none => (⟨protocols, some (k + 1)⟩, none)
    | some (entry, queue) =>
      (⟨protocols.set k { proto with queue := queue }, some k⟩,
        some ⟨proto.type, proto.handler, entry.data, entry.len, entry.dev⟩)

/-- What drives the input queues. -/
inductive NetEvent (D : Type)
  /-- `net_input_handler` from a driver or from a handler, with what its allocations
  return. -/
  | input (allocEntry allocPush : Bool) (type : UInt16) (data : List UInt8) (dev : D)
  /-- The interrupt thread takes `SIGUSR1` and calls `net_protocol_handler`. -/
  | softirq
  /-- The running `net_protocol_handler` goes one round further. -/
  | pop

/-- One event; `none` for a `softirq` while the loop runs (the interrupt thread is inside it)
or a `pop` while it does not. An input reports what `net_input_handler` returned. -/
def netSoftirqStep (s : NetSoftirq H D) :
    NetEvent D → Option (NetSoftirq H D × Option (NetHandlerCall H D))
  | .input allocEntry allocPush type data dev =>
    some (⟨(netInputHandler allocEntry allocPush type data dev s.protocols).1, s.cursor⟩, none)
  | .softirq =>
    match s.cursor with
    | none => some (⟨s.protocols, some 0⟩, none)
    | some _ => none
  | .pop =>
    match s.cursor with
    | none => none
    | some k => some (netProtocolHandlerStep s.protocols k)

/-- Events one after another: the state they lead to and the handler calls in the order they
were made. -/
def netSoftirqRun (s : NetSoftirq H D) : List (NetEvent D) →
    Option (NetSoftirq H D × List (NetHandlerCall H D))
  | [] => some (s, [])
  | ev :: evs =>
    match netSoftirqStep s ev with
    | none => none
    | some (s', call) => (netSoftirqRun s' evs).map fun (s'', calls) => (s'', call.toList ++ calls)

/-! ## Devices -/

/-- `NET_DEVICE_FLAG_UP` -/
def NET_DEVICE_FLAG_UP : UInt16 := 0x0001

/-- `NET_DEVICE_FLAG_LOOPBACK` -/
def NET_DEVICE_FLAG_LOOPBACK : UInt16 := 0x0010

/-- `NET_DEVICE_FLAG_BROADCAST` -/
def NET_DEVICE_FLAG_BROADCAST : UInt16 := 0x0020

/-- `NET_DEVICE_FLAG_NEED_ARP` -/
def NET_DEVICE_FLAG_NEED_ARP : UInt16 := 0x0100

/-- `NET_DEVICE_TYPE_*` -/
inductive NetDeviceType
  | null | loopback | ethernet
  deriving DecidableEq, Repr

/-- `struct net_device`: the fields that `net.c`, `ether.c`, `ip.c` and the drivers read. -/
structure NetDev where
  index : Nat
  type : NetDeviceType
  mtu : UInt16
  flags : UInt16
  addr : List UInt8
  broadcast : List UInt8
  ifaces : List IpIface
  deriving DecidableEq, Repr

/-- The device as `ip_input` reads it. -/
def NetDev.toNetDevice (dev : NetDev) : NetDevice :=
  ⟨dev.mtu, dev.ifaces⟩

/-- `NET_DEVICE_IS_UP(dev)` -/
def NetDev.isUp (dev : NetDev) : Bool :=
  dev.flags &&& NET_DEVICE_FLAG_UP != 0

/-- `net_device_register`: the device takes the next index (`index` is the function's static
counter) and goes in front of the list. -/
def netDeviceRegister (index : Nat) (devices : List NetDev) (dev : NetDev) :
    Nat × List NetDev :=
  (index + 1, { dev with index := index } :: devices)

/-- `net_device_open`, with the driver's `open` when it has one: the driver may change the
device, and only -1 counts as its failure. -/
def netDeviceOpen (driverOpen : Option (NetDev → NetDev × Int)) (dev : NetDev) : NetDev × Int :=
  if dev.isUp then (dev, -1) else
  match driverOpen with
  | none => ({ dev with flags := dev.flags ||| NET_DEVICE_FLAG_UP }, 0)
  | some f =>
    let (dev, ret) := f dev
    if ret = -1 then (dev, -1) else ({ dev with flags := dev.flags ||| NET_DEVICE_FLAG_UP }, 0)

/-- `net_device_close`, with the driver's `close` when it has one. -/
def netDeviceClose (driverClose : Option (NetDev → NetDev × Int)) (dev : NetDev) : NetDev × Int :=
  if !dev.isUp then (dev, -1) else
  match driverClose with
  | none => ({ dev with flags := dev.flags &&& ~~~NET_DEVICE_FLAG_UP }, 0)
  | some f =>
    let (dev, ret) := f dev
    if ret = -1 then (dev, -1) else ({ dev with flags := dev.flags &&& ~~~NET_DEVICE_FLAG_UP }, 0)

/-- `net_device_add_iface` for an IP interface. Every interface is of the IP family, so an
entry of the family exists as soon as the device has any. -/
def netDeviceAddIface (dev : NetDev) (iface : IpIface) : NetDev × Int :=
  match dev.ifaces with
  | [] => ({ dev with ifaces := [iface] }, 0)
  | _ :: _ => (dev, -1)

/-- `net_device_output`, with the driver's `transmit` over its own state `S`: the device must be
up and the data no longer than its MTU. -/
def netDeviceOutput {S : Type} (transmit : S → NetDev → UInt16 → List UInt8 → List UInt8 → S × Int)
    (s : S) (dev : NetDev) (type : UInt16) (data : List UInt8) (dst : List UInt8) : S × Int :=
  if !dev.isUp then (s, -1)
  else if data.length > dev.mtu.toNat then (s, -1)
  else
    let (s, ret) := transmit s dev type data dst
    if ret = -1 then (s, -1) else (s, 0)

/-! ## Timers -/

/-- `struct net_timer`: the interval, when the handler last ran (at first, when the timer was
registered) and the handler. -/
structure NetTimer (H : Type) where
  interval : Timeval
  last : Timeval
  handler : H

/-- `net_timer_register` at time `now`: the new timer goes in front. -/
def netTimerRegister (alloc : Bool) (now : Timeval) (timers : List (NetTimer H))
    (interval : Timeval) (handler : H) : Option (List (NetTimer H)) :=
  if alloc then some (⟨interval, now, handler⟩ :: timers) else none

/-- The loop of `net_timer_handler` from its `k`-th round on; `clock k` is what `gettimeofday`
returns in that round. A timer whose interval is less than the time since it last ran runs its
handler and restarts from the reading. The handlers that ran are returned in the order they
ran. -/
def netTimerHandlerFrom (clock : Nat → Timeval) (k : Nat) :
    List (NetTimer H) → List (NetTimer H) × List H
  | [] => ([], [])
  | timer :: timers =>
    let now := clock k
    let (timers, fired) := netTimerHandlerFrom clock (k + 1) timers
    if timercmpLt timer.interval (timersub now timer.last) then
      ({ timer with last := now } :: timers, timer.handler :: fired)
    else (timer :: timers, fired)

/-- `net_timer_handler` -/
def netTimerHandler (clock : Nat → Timeval) (timers : List (NetTimer H)) :
    List (NetTimer H) × List H :=
  netTimerHandlerFrom clock 0 timers

/-- `net_timer_handler` on every `SIGALRM` the interrupt thread takes, each call with its own
clock: the table after them and the handlers that ran, in order. -/
def netTimerRun (timers : List (NetTimer H)) : List (Nat → Timeval) → List (NetTimer H) × List H
  | [] => (timers, [])
  | clock :: clocks =>
    let (timers, fired) := netTimerHandler clock timers
    let (timers, fired') := netTimerRun timers clocks
    (timers, fired ++ fired')

end Microps
