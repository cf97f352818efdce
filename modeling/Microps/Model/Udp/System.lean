import Microps.Model.Udp.Wire
import Microps.Lib.Transition

/-!
# The UDP layer as a transition system

As for TCP, every critical section is one step: a datagram that `ip_input` hands to
`udp_input`, the event that interrupts every wait, the first section of a user command, or the
return of a waiting `udp_recvfrom`. `udp_sendto` calls `udp_output` after it drops the lock;
`udp_output` reads nothing shared, so it runs in the same step, and the datagrams it hands to
`ip_output` are logged in `out`. Each step gets its own `UdpEnv`.
-/

set_option autoImplicit false

namespace Microps

open ByteOrder

-- The ephemeral ports `udp_sendto` draws from.
def UDP_SOURCE_PORT_MIN : Nat := 49152
def UDP_SOURCE_PORT_MAX : Nat := 65535

/-- The call `udp_sendto` makes to `udp_output`: from, to, and the payload. -/
structure UdpDatagramOut where
  local_ : IpEndpoint
  foreign : IpEndpoint
  data : List UInt8
  deriving DecidableEq, Repr

/-- What one critical section of the UDP layer gets from outside `udp.c`. -/
structure UdpEnv where
  memoryAlloc : Bool
  ipOutput : UdpDatagramOut → Bool
  ipRouteGetIface : UInt32 → Option IpIface
  pthreadCondDestroy : SchedCtx → Int
  pthreadCondDestroy_ne : ∀ ctx, pthreadCondDestroy ctx ≠ -1

/-- A caller waiting in `sched_sleep`: `udp_recvfrom` on PCB `i` with an empty queue. -/
inductive UdpWait
  | recvfrom (i : Fin UDP_PCB_SIZE) (size : Nat)
  deriving DecidableEq, Repr

/-- What a critical section of a command ends with. -/
inductive UdpResult
  /-- The command returned this value. -/
  | ret (v : Int)
  /-- `udp_recvfrom` returned the number of bytes it copied, which are these, and stored
  `foreign`. -/
  | received (foreign : IpEndpoint) (bytes : List UInt8)
  /-- The caller waits. -/
  | wait (w : UdpWait)
  deriving DecidableEq, Repr

/-- The callers a result leaves waiting. -/
def UdpResult.waits : UdpResult → List UdpWait
  | .wait w => [w]
  | _ => []

/-- The source-port loop of `udp_sendto`: the first port from `UDP_SOURCE_PORT_MIN` to
`UDP_SOURCE_PORT_MAX`, in network order, that `udp_pcb_select` finds unused at `addr`. -/
def udpSendtoPort (e : Endian) (u : Udp) (addr : UInt32) : Option UInt16 :=
  (List.range' UDP_SOURCE_PORT_MIN (UDP_SOURCE_PORT_MAX + 1 - UDP_SOURCE_PORT_MIN)).findSome?
    fun p => if (udpPcbSelect u addr (hton16 e p.toUInt16)).isSome then none
      else some (hton16 e p.toUInt16)

/-- `udp_sendto`: the local address is the PCB's, or the unicast address of the interface
that reaches `foreign` when the PCB's is `IP_ADDR_ANY`; the local port is the PCB's, or the
one the loop finds, which the PCB keeps (its address stays as it was). Then `udp_output`, and
the datagram it hands to `ip_output`. -/
def udpSendto (e : Endian) (env : UdpEnv) (u : Udp) (id : Int) (data : List UInt8)
    (foreign : IpEndpoint) : Udp × Int × Option UdpDatagramOut :=
  match udpPcbGet u id with
  | none => (u, -1, none)
  | some i =>
    let pcb := u.pcbs i
    let addr :=
      if pcb.local_.addr = IP_ADDR_ANY then (env.ipRouteGetIface foreign.addr).map (·.unicast)
      else some pcb.local_.addr
    match addr with
    | none => (u, -1, none)
    | some addr =>
      let bound : Option (Udp × UInt16) :=
        if pcb.local_.port = 0 then
          (udpSendtoPort e u addr).map fun port => (u.set i { pcb with local_.port := port }, port)
        else some (u, pcb.local_.port)
      match bound with
      | none => (u, -1, none)
      | some (u, port) =>
        let dg : UdpDatagramOut := ⟨⟨addr, port⟩, foreign, data⟩
        match udpOutput e dg.local_ dg.foreign dg.data with
        | none => (u, -1, none)
        | some _ => (u, if env.ipOutput dg then data.length else -1, some dg)

/-- The loop of `udp_recvfrom`: pop the oldest datagram and give the caller its sender and
its first `size` bytes, or wait (an interrupt before the wait makes the call return `-1`). -/
def udpRecvfromLoop (u : Udp) (i : Fin UDP_PCB_SIZE) (size : Nat) : Udp × UdpResult :=
  match queuePop (u.pcbs i).queue with
  | some (entry, queue) =>
    (u.set i { u.pcbs i with queue := queue }, .received entry.foreign (entry.data.take size))
  | none =>
    match schedSleep (u.pcbs i).ctx with
    | none => (u, .ret (-1))
    | some ctx => (u.set i { u.pcbs i with ctx := ctx }, .wait (.recvfrom i size))

/-- `udp_recvfrom` -/
def udpRecvfrom (u : Udp) (id : Int) (size : Nat) : Udp × UdpResult :=
  match udpPcbGet u id with
  | none => (u, .ret (-1))
  | some i => udpRecvfromLoop u i size

/-- The critical section that runs when a waiting `udp_recvfrom` returns: the second half of
`sched_sleep`; then a PCB closed meanwhile (CLOSING) is released, and otherwise the loop goes
on. -/
def udpResume (destroy : SchedCtx → Int) (u : Udp) : UdpWait → Udp × UdpResult
  | .recvfrom i size =>
    let (ctx, r) := schedSleepResume (u.pcbs i).ctx
    let u := u.set i { u.pcbs i with ctx := ctx }
    if r = -1 then (u, .ret (-1))
    else if (u.pcbs i).state = .closing then (udpPcbRelease destroy u i, .ret (-1))
    else udpRecvfromLoop u i size

/-- A user command with its arguments. -/
inductive UdpCommand
  /-- `udp_open` -/
  | open_
  | close (id : Int)
  | bind (id : Int) (local_ : IpEndpoint)
  | sendto (id : Int) (data : List UInt8) (foreign : IpEndpoint)
  | recvfrom (id : Int) (size : Nat)
  deriving DecidableEq, Repr

/-- The first critical section of a command, with the datagram it hands to `ip_output`. -/
def udpCommand (e : Endian) (env : UdpEnv) (u : Udp) :
    UdpCommand → Udp × UdpResult × Option UdpDatagramOut
  | .open_ => let (u, r) := udpOpen u; (u, .ret r, none)
  | .close id => let (u, r) := udpClose env.pthreadCondDestroy u id; (u, .ret r, none)
  | .bind id local_ => let (u, r) := udpBind u id local_; (u, .ret r, none)
  | .sendto id data foreign => let (u, r, dg) := udpSendto e env u id data foreign; (u, .ret r, dg)
  | .recvfrom id size => let (u, r) := udpRecvfrom u id size; (u, r, none)

/-- What drives the layer. -/
inductive UdpEvent
  /-- `ip_input` calls `udp_input` with these bytes and addresses. -/
  | datagram (data : List UInt8) (src dst : UInt32)
  | interrupt
  | command (c : UdpCommand)
  /-- The wait at position `k` returns. -/
  | resume (k : Nat)
  deriving DecidableEq, Repr

/-- The layer, the callers waiting on it, and what it handed to `ip_output`. -/
structure UdpSystem where
  udp : Udp
  waits : List UdpWait
  out : List UdpDatagramOut

/-- Every slot zero, nobody waiting, nothing sent. -/
def UdpSystem.init : UdpSystem := ⟨Udp.init, [], []⟩

/-- One critical section on a host of byte order `e`, with the result a caller sees when the
step is a command's or a wait's; `none` when there is no `k`-th wait to return. -/
def udpStep (e : Endian) (env : UdpEnv) (s : UdpSystem) :
    UdpEvent → Option (UdpSystem × Option UdpResult)
  | .datagram data src dst =>
    some (⟨udpInput e env.memoryAlloc data src dst s.udp, s.waits, s.out⟩, none)
  | .interrupt => some (⟨udpEventHandler s.udp, s.waits, s.out⟩, none)
  | .command c =>
    let (u, r, dg) := udpCommand e env s.udp c
    some (⟨u, s.waits ++ r.waits, s.out ++ dg.toList⟩, some r)
  | .resume k =>
    match s.waits[k]? with
    | none => none
    | some w =>
      let (u, r) := udpResume env.pthreadCondDestroy s.udp w
      some (⟨u, s.waits.eraseIdx k ++ r.waits, s.out⟩, some r)

/-- One step of the layer, in any environment. -/
def UdpStep (e : Endian) (s s' : UdpSystem) : Prop :=
  ∃ env ev r, udpStep e env s ev = some (s', r)

/-- The states the layer can reach from its start. -/
def UdpReachable (e : Endian) (s : UdpSystem) : Prop :=
  Transition.Reachable (· = UdpSystem.init) (UdpStep e) s

/-- Steps one after another, each in its own environment: the state they lead to and the
results callers saw, in order; `none` if some step names a wait that is not there. -/
def udpRun (e : Endian) : UdpSystem → List (UdpEnv × UdpEvent) → Option (UdpSystem × List UdpResult)
  | s, [] => some (s, [])
  | s, (env, ev) :: rest =>
    match udpStep e env s ev with
    | none => none
    | some (s', r) => (udpRun e s' rest).map fun (s'', rs) => (s'', r.toList ++ rs)

end Microps
