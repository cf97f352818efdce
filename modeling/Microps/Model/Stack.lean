import Microps.Model.Icmp
import Microps.Model.Net
import Microps.Model.Intr

/-!
# `net.c`: bringing the stack up and down

`net_init` sets the interrupt layer's signal mask and then runs each protocol's init in turn,
stopping at the first that fails: `arp_init` registers ARP's input and its one-second timer,
`ip_init` registers IP's input, `icmp_init`, `udp_init` and `tcp_init` register their inputs with
IP, and TCP registers its 100 ms timer. UDP and TCP also subscribe their `event_handler` to the
events `net_event_handler` runs on `SIGUSR2`; neither looks at what `net_event_subscribe`
returns. `net_run` opens every device and `net_shutdown` closes every device, each ignoring what
the device's call returns; a driver's `open` may change the device (the Ethernet drivers fetch
its hardware address).

The tables are those of `net.c`, `ip.c` and `intr.c`, with each handler by name
(`NetStack`). What every `memory_alloc` and `gettimeofday` of `net_init` returns is a parameter
(`NetInitEnv`); each device's driver `open` and `close` are functions on the device.
-/

set_option autoImplicit false

namespace Microps

/-! ## Events -/

/-- `struct net_event` -/
structure NetEventEntry (E A : Type) where
  handler : E
  arg : A
  deriving DecidableEq, Repr

variable {E A : Type}

/-- `net_event_subscribe`, with what `memory_alloc` returns: the new entry goes in front. -/
def netEventSubscribe (alloc : Bool) (events : List (NetEventEntry E A)) (handler : E) (arg : A) :
    List (NetEventEntry E A) × Int :=
  if alloc then (⟨handler, arg⟩ :: events, 0) else (events, -1)

/-- `net_event_handler`: the calls `event->handler(event->arg)` it makes, in order. -/
def netEventHandler (events : List (NetEventEntry E A)) : List (E × A) :=
  events.map fun event => (event.handler, event.arg)

/-! ## The handlers the inits register -/

/-- The input handlers `arp_init` and `ip_init` give `net_protocol_register`. -/
inductive NetProtocolHandler
  | arpInput | ipInput
  deriving DecidableEq, Repr

/-- The timer handlers `arp_init` and `tcp_init` give `net_timer_register`. -/
inductive NetTimerHandler
  | arpTimer | tcpTimer
  deriving DecidableEq, Repr

/-- The input handlers `icmp_init`, `udp_init` and `tcp_init` give `ip_protocol_register`. -/
inductive IpProtocolHandler
  | icmpInput | udpInput | tcpInput
  deriving DecidableEq, Repr

/-- The `event_handler`s of `udp.c` and `tcp.c` (both `static`, of one name). -/
inductive NetEventHandler
  | udpEventHandler | tcpEventHandler
  deriving DecidableEq, Repr

/-- The tables `net_init` fills: `intr.c`'s (over the drivers' interrupt handlers `F`),
`net.c`'s protocols, timers and events, and `ip.c`'s protocols. -/
structure NetStack (F : Type) where
  intr : Intr F NetDev
  protocols : List (NetProtocol NetProtocolHandler NetDev)
  timers : List (NetTimer NetTimerHandler)
  ipProtocols : List (IpProtocol IpProtocolHandler)
  events : List (NetEventEntry NetEventHandler Unit)

variable {F : Type}

/-- The tables at program start: every list empty, `sigmask` empty. -/
def NetStack.init : NetStack F :=
  ⟨⟨[], []⟩, [], [], [], []⟩

/-- What `memory_alloc` and `gettimeofday` return during `net_init`, call by call. -/
structure NetInitEnv where
  arpProto : Bool
  arpTimer : Bool
  arpNow : Timeval
  ipProto : Bool
  icmpProto : Bool
  udpProto : Bool
  udpEvent : Bool
  tcpProto : Bool
  tcpTimer : Bool
  tcpNow : Timeval
  tcpEvent : Bool
  deriving DecidableEq, Repr

/-! ## The inits -/

/-- `intr_init`: `sigmask` emptied and the three signals of the interrupt thread added;
`irq_vec` is left as it is. -/
def intrInitStack (s : NetStack F) : NetStack F :=
  { s with intr := { s.intr with sigmask := [SIGUSR1, SIGUSR2, SIGALRM] } }

/-- `arp_init`: ARP's input, then the ARP timer every second. -/
def arpInit (env : NetInitEnv) (s : NetStack F) : NetStack F × Int :=
  match netProtocolRegister env.arpProto s.protocols NET_PROTOCOL_TYPE_ARP .arpInput with
  | none => (s, -1)
  | some protocols =>
    match netTimerRegister env.arpTimer env.arpNow s.timers ⟨1, 0⟩ .arpTimer with
    | none => ({ s with protocols }, -1)
    | some timers => ({ s with protocols, timers }, 0)

/-- `ip_init`: IP's input. -/
def ipInit (env : NetInitEnv) (s : NetStack F) : NetStack F × Int :=
  match netProtocolRegister env.ipProto s.protocols NET_PROTOCOL_TYPE_IP .ipInput with
  | none => (s, -1)
  | some protocols => ({ s with protocols }, 0)

/-- `icmp_init`: ICMP's input under IP. -/
def icmpInit (env : NetInitEnv) (s : NetStack F) : NetStack F × Int :=
  match ipProtocolRegister env.icmpProto s.ipProtocols IP_PROTOCOL_ICMP .icmpInput with
  | none => (s, -1)
  | some ipProtocols => ({ s with ipProtocols }, 0)

/-- `udp_init`: UDP's input under IP, then its event handler, whose subscription may fail
unnoticed. -/
def udpInit (env : NetInitEnv) (s : NetStack F) : NetStack F × Int :=
  match ipProtocolRegister env.udpProto s.ipProtocols IP_PROTOCOL_UDP .udpInput with
  | none => (s, -1)
  | some ipProtocols =>
    let (events, _) := netEventSubscribe env.udpEvent s.events .udpEventHandler ()
    ({ s with ipProtocols, events }, 0)

/-- `tcp_init`: TCP's input under IP, the TCP timer every 100 ms, then its event handler,
whose subscription may fail unnoticed. -/
def tcpInit (env : NetInitEnv) (s : NetStack F) : NetStack F × Int :=
  match ipProtocolRegister env.tcpProto s.ipProtocols IP_PROTOCOL_TCP .tcpInput with
  | none => (s, -1)
  | some ipProtocols =>
    match netTimerRegister env.tcpTimer env.tcpNow s.timers ⟨0, 100000⟩ .tcpTimer with
    | none => ({ s with ipProtocols }, -1)
    | some timers =>
      let (events, _) := netEventSubscribe env.tcpEvent s.events .tcpEventHandler ()
      ({ s with ipProtocols, timers, events }, 0)

/-- `net_init`: the inits in order, up to the first that returns -1; what the ones before it
registered stays. -/
def netInit (env : NetInitEnv) (s : NetStack F) : NetStack F × Int :=
  let s := intrInitStack s
  let (s, r) := arpInit env s
  if r = -1 then (s, -1) else
  let (s, r) := ipInit env s
  if r = -1 then (s, -1) else
  let (s, r) := icmpInit env s
  if r = -1 then (s, -1) else
  let (s, r) := udpInit env s
  if r = -1 then (s, -1) else
  let (s, r) := tcpInit env s
  if r = -1 then (s, -1) else (s, 0)

/-! ## Running and shutting down -/

/-- `net_run`, with whether `intr_run` succeeds and each device's driver `open` (`none`: it has
none): every device is opened, and what `net_device_open` returns is not looked at. -/
def netRun (intrOk : Bool) (opens : NetDev → Option (NetDev → NetDev × Int)) (devices : List NetDev) :
    List NetDev × Int :=
  if intrOk then (devices.map fun dev => (netDeviceOpen (opens dev) dev).1, 0) else (devices, -1)

/-- `net_shutdown`, with each device's driver `close`: every device is closed, and what
`net_device_close` returns is not looked at. -/
def netShutdown (closes : NetDev → Option (NetDev → NetDev × Int)) (devices : List NetDev) :
    List NetDev :=
  devices.map fun dev => (netDeviceClose (closes dev) dev).1

end Microps
