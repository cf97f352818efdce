import Microps.Model.Tcp.Segment

/-!
# `tcp.c`: the user commands

Each command runs under the mutex until it returns or waits in `sched_sleep`. A command that
waits is split there: its first critical section returns `TcpResult.wait w`, where `w` records
the call and the locals it needs to go on, and `tcpResume` is the critical section that runs
when that wait returns. The wait loops of `tcp_open_rfc793` and `tcp_connect` are the same
code (the `AGAIN:` label and what follows it), and so is their resumption.

`tcp_send`'s loop sends at least one byte per round unless `mss` is `0` (an interface MTU of
exactly 40), in which case the code loops for ever with the mutex held; the model reports that
as `TcpResult.hang`.
-/

set_option autoImplicit false

namespace Microps

/-- A caller waiting in `sched_sleep` on a PCB's context, with what it goes on with. -/
inductive TcpWait
  /-- `tcp_open_rfc793` or `tcp_connect`, waiting for the state to leave `state`. -/
  | establish (i : Fin TCP_PCB_SIZE) (state : TcpPcbState)
  /-- `tcp_accept` on a listener with an empty backlog. -/
  | accept (i : Fin TCP_PCB_SIZE)
  /-- `tcp_send` with no send window left, `sent` bytes of `data` sent so far. -/
  | send (i : Fin TCP_PCB_SIZE) (data : List UInt8) (sent : Nat)
  /-- `tcp_receive` with nothing to read. -/
  | receive (i : Fin TCP_PCB_SIZE) (size : Nat)
  deriving DecidableEq, Repr

/-- What a critical section of a command ends with. -/
inductive TcpResult
  /-- The command returned this value. -/
  | ret (v : Int)
  /-- `tcp_receive` returned the number of bytes it copied out, which are these. -/
  | received (bytes : List UInt8)
  /-- The caller waits. -/
  | wait (w : TcpWait)
  /-- `tcp_send`'s loop never ends. -/
  | hang
  deriving DecidableEq, Repr

/-- The PCB a wait is on. -/
def TcpWait.pcb : TcpWait → Fin TCP_PCB_SIZE
  | .establish i _ | .accept i | .send i _ _ | .receive i _ => i

/-- Close and release a PCB, as every failure path of the commands does. -/
def tcpCloseRelease (env : TcpEnv) (t : Tcp) (i : Fin TCP_PCB_SIZE) : Tcp :=
  tcpPcbRelease env (t.set i { t.pcbs i with state := .closed }) i

/-- `sched_sleep` on PCB `i` before the wait: the caller waits as `w`, or, when the context is
interrupted, the command goes on as `intr` says. -/
def tcpSleep (t : Tcp) (i : Fin TCP_PCB_SIZE) (w : TcpWait) (intr : Tcp × TcpResult) :
    Tcp × TcpResult :=
  match schedSleep (t.pcbs i).ctx with
  | none => intr
  | some ctx => (t.set i { t.pcbs i with ctx := ctx }, .wait w)

/-! ## Opening a connection -/

/-- The wait loop of `tcp_open_rfc793` and `tcp_connect`: while the state is `state` the caller
waits (an interrupt closes and releases the PCB); then ESTABLISHED returns the id, SYN_RECEIVED
waits again (`goto AGAIN`), and any other state closes and releases the PCB. -/
def tcpOpenLoop (env : TcpEnv) (t : Tcp) (i : Fin TCP_PCB_SIZE) (state : TcpPcbState) :
    Tcp × TcpResult :=
  let intr := (tcpCloseRelease env t i, .ret (-1))
  if (t.pcbs i).state = state then tcpSleep t i (.establish i state) intr
  else match (t.pcbs i).state with
    | .established => (t, .ret (tcpPcbId i))
    | .synReceived => tcpSleep t i (.establish i .synReceived) intr
    | _ => (tcpCloseRelease env t i, .ret (-1))

/-- The `active` argument of `tcp_open_rfc793` with the foreign endpoint it reads: optional
for a passive open, required for an active one (the code dereferences it). -/
inductive TcpOpen
  | passive (foreign : Option IpEndpoint)
  | active (foreign : IpEndpoint)
  deriving DecidableEq, Repr

/-- Send the SYN of an active open on a PCB whose endpoints are set: on success the PCB is
SYN_SENT and the caller waits for it to change; on failure it is closed and released. -/
def tcpActiveOpen (env : TcpEnv) (t : Tcp) (i : Fin TCP_PCB_SIZE) : Tcp × TcpResult :=
  let t := t.set i { t.pcbs i with rcv.wnd := 65535, iss := env.random }
  let (t, r) := tcpOutput env t i TCP_FLG_SYN []
  if r = -1 then (tcpCloseRelease env t i, .ret (-1))
  else
    let pcb := t.pcbs i
    let pcb := { pcb with snd.una := pcb.iss, snd.nxt := pcb.iss + 1, state := .synSent }
    tcpOpenLoop env (t.set i pcb) i .synSent

/-- `tcp_open_rfc793` -/
def tcpOpenRfc793 (env : TcpEnv) (t : Tcp) (local_ : IpEndpoint) (o : TcpOpen) :
    Tcp × TcpResult :=
  match tcpPcbAlloc t with
  | none => (t, .ret (-1))
  | some (i, t) =>
    let t := t.set i { t.pcbs i with mode := .rfc793 }
    match o with
    | .passive foreign =>
      let pcb := { t.pcbs i with local_ := local_ }
      let pcb := match foreign with
        | some foreign => { pcb with foreign := foreign }
        | none => pcb
      tcpOpenLoop env (t.set i { pcb with state := .listen }) i .listen
    | .active foreign =>
      tcpActiveOpen env (t.set i { t.pcbs i with local_ := local_, foreign := foreign }) i

/-- `tcp_state` -/
def tcpState (t : Tcp) (id : Int) : Option TcpPcbState :=
  match tcpPcbGet t id with
  | some i => if (t.pcbs i).mode = .rfc793 then some (t.pcbs i).state else none
  | none => none

/-- `tcp_open` -/
def tcpOpen (t : Tcp) : Tcp × TcpResult :=
  match tcpPcbAlloc t with
  | none => (t, .ret (-1))
  | some (i, t) => (t.set i { t.pcbs i with mode := .socket }, .ret (tcpPcbId i))

/-- The source-port loop of `tcp_connect`: the first port from the given ones that
`tcp_pcb_select` finds unused, or else the last port tried (the code's `local.port` after the
loop). The port number goes into the field as it is, without `hton16`. -/
def tcpConnectPort (t : Tcp) (local_ foreign : IpEndpoint) : List Nat → UInt16 → UInt16
  | [], port => port
  | p :: rest, _ =>
    if tcpPcbSelect t { local_ with port := p.toUInt16 } (some foreign) = none then p.toUInt16
    else tcpConnectPort t local_ foreign rest p.toUInt16

/-- The source address `tcp_connect` uses: the PCB's, or, when that is `IP_ADDR_ANY`, the
unicast address of the interface routing to the foreign address. -/
def tcpConnectAddr (env : TcpEnv) (local_ foreign : IpEndpoint) : Option UInt32 :=
  if local_.addr = IP_ADDR_ANY then
    (env.ipRouteGetIface foreign.addr).map (·.unicast)
  else some local_.addr

/-- `tcp_connect`. Nothing checks the PCB's state. -/
def tcpConnect (env : TcpEnv) (t : Tcp) (id : Int) (foreign : IpEndpoint) : Tcp × TcpResult :=
  match tcpPcbGet t id with
  | none => (t, .ret (-1))
  | some i =>
    if (t.pcbs i).mode ≠ .socket then (t, .ret (-1)) else
    match tcpConnectAddr env (t.pcbs i).local_ foreign with
    | none => (t, .ret (-1))
    | some addr =>
      let local_ : IpEndpoint := { (t.pcbs i).local_ with addr := addr }
      let port := if local_.port = 0 then
          tcpConnectPort t local_ foreign
            (List.range' TCP_SOURCE_PORT_MIN (TCP_SOURCE_PORT_MAX + 1 - TCP_SOURCE_PORT_MIN))
            local_.port
        else local_.port
      if port = 0 then (t, .ret (-1))
      else tcpActiveOpen env (t.set i { t.pcbs i with
        local_ := { local_ with port := port }, foreign := foreign }) i

/-- `tcp_bind`. Nothing checks the PCB's state. -/
def tcpBind (t : Tcp) (id : Int) (local_ : IpEndpoint) : Tcp × TcpResult :=
  match tcpPcbGet t id with
  | none => (t, .ret (-1))
  | some i =>
    if (t.pcbs i).mode ≠ .socket then (t, .ret (-1))
    else if (tcpPcbSelect t local_ none).isSome then (t, .ret (-1))
    else (t.set i { t.pcbs i with local_ := local_ }, .ret 0)

/-- `tcp_listen`. Nothing checks the PCB's state, and the backlog size is ignored. -/
def tcpListen (t : Tcp) (id : Int) : Tcp × TcpResult :=
  match tcpPcbGet t id with
  | none => (t, .ret (-1))
  | some i =>
    if (t.pcbs i).mode ≠ .socket then (t, .ret (-1))
    else (t.set i { t.pcbs i with state := .listen }, .ret 0)

/-! ## Accepting, sending, receiving and closing -/

/-- The loop of `tcp_accept`: pop the backlog, or wait (an interrupt before the wait makes
the call return `-1`). -/
def tcpAcceptLoop (t : Tcp) (i : Fin TCP_PCB_SIZE) : Tcp × TcpResult :=
  match queuePop (t.pcbs i).backlog with
  | some (est, backlog) => (t.set i { t.pcbs i with backlog := backlog }, .ret (tcpPcbId est))
  | none => tcpSleep t i (.accept i) (t, .ret (-1))

/-- `tcp_accept` (the foreign endpoint it copies out is the accepted PCB's `foreign`). -/
def tcpAccept (t : Tcp) (id : Int) : Tcp × TcpResult :=
  match tcpPcbGet t id with
  | none => (t, .ret (-1))
  | some i =>
    if (t.pcbs i).mode ≠ .socket then (t, .ret (-1))
    else if (t.pcbs i).state ≠ .listen then (t, .ret (-1))
    else tcpAcceptLoop t i

/-- The `size_t` value `mss` of `tcp_send`: the interface MTU less 40, computed in `int`. -/
def tcpSendMss (iface : IpIface) : Nat :=
  (((iface.mtu.toNat : Int) - (IP_HDR_SIZE_MIN + 20)) % 2 ^ 64).toNat

/-- The `while (sent < len)` loop of `tcp_send`, given fuel for `len - sent` rounds: each round
sends `min (min mss (len - sent)) cap` bytes, where `cap` is what is left of the send window
(in `unsigned int`), and advances `snd.nxt`; with no window left the caller waits. -/
def tcpSendLoop (env : TcpEnv) (i : Fin TCP_PCB_SIZE) (data : List UInt8) (mss : Nat) :
    Nat → Tcp → Nat → Tcp × TcpResult
  | 0, t, sent => (t, .ret sent)
  | fuel + 1, t, sent =>
    if sent < data.length then
      let pcb := t.pcbs i
      let cap := (pcb.snd.wnd.toUInt32 - (pcb.snd.nxt - pcb.snd.una)).toNat
      if cap = 0 then
        tcpSleep t i (.send i data sent) (t, .ret (if sent = 0 then -1 else sent))
      else
        let slen := min (min mss (data.length - sent)) cap
        if slen = 0 then (t, .hang) else
        let (t, r) := tcpOutput env t i (TCP_FLG_ACK ||| TCP_FLG_PSH) ((data.drop sent).take slen)
        if r = -1 then (tcpCloseRelease env t i, .ret (-1))
        else
          let t := t.set i { t.pcbs i with snd.nxt := (t.pcbs i).snd.nxt + slen.toUInt32 }
          tcpSendLoop env i data mss fuel t (sent + slen)
    else (t, .ret sent)

/-- `tcp_send` from its `RETRY:` label, `sent` bytes of `data` sent so far. -/
def tcpSendRetry (env : TcpEnv) (t : Tcp) (i : Fin TCP_PCB_SIZE) (data : List UInt8)
    (sent : Nat) : Tcp × TcpResult :=
  match (t.pcbs i).state with
  | .established | .closeWait =>
    match env.ipRouteGetIface (t.pcbs i).local_.addr with
    | none => (t, .ret (-1))
    | some iface => tcpSendLoop env i data (tcpSendMss iface) (data.length - sent + 1) t sent
  | _ => (t, .ret (-1))

/-- `tcp_send` -/
def tcpSend (env : TcpEnv) (t : Tcp) (id : Int) (data : List UInt8) : Tcp × TcpResult :=
  match tcpPcbGet t id with
  | none => (t, .ret (-1))
  | some i => tcpSendRetry env t i data 0

/-- The copy at the end of `tcp_receive`: `min size remain` bytes from the front of `buf` go
out, the rest are moved to the front, and the window grows by what went out. -/
def tcpReceiveCopy (t : Tcp) (i : Fin TCP_PCB_SIZE) (size remain : Nat) : Tcp × TcpResult :=
  let pcb := t.pcbs i
  let len := min size remain
  (t.set i { pcb with
      buf := Buffer.writeAt pcb.buf 0 ((pcb.buf.drop len).take (remain - len)),
      rcv.wnd := pcb.rcv.wnd + len.toUInt16 },
    .received (pcb.buf.take len))

/-- `tcp_receive` from its `RETRY:` label. The unread bytes are the first
`65535 - rcv.wnd` of `buf`. CLOSE_WAIT reads what is left and then reports the end of the
stream (`0`), as CLOSING, LAST_ACK and TIME_WAIT do at once. -/
def tcpReceiveRetry (t : Tcp) (i : Fin TCP_PCB_SIZE) (size : Nat) : Tcp × TcpResult :=
  let pcb := t.pcbs i
  let remain := 65535 - pcb.rcv.wnd.toNat
  match pcb.state with
  | .established | .finWait1 | .finWait2 =>
    if remain = 0 then tcpSleep t i (.receive i size) (t, .ret (-1))
    else tcpReceiveCopy t i size remain
  | .closeWait => if remain ≠ 0 then tcpReceiveCopy t i size remain else (t, .ret 0)
  | .closing | .lastAck | .timeWait => (t, .ret 0)
  | _ => (t, .ret (-1))

/-- `tcp_receive` -/
def tcpReceive (t : Tcp) (id : Int) (size : Nat) : Tcp × TcpResult :=
  match tcpPcbGet t id with
  | none => (t, .ret (-1))
  | some i => tcpReceiveRetry t i size

/-- Send the FIN of a close: it takes `snd.nxt`, which then moves past it. -/
def tcpCloseFin (env : TcpEnv) (t : Tcp) (i : Fin TCP_PCB_SIZE) (state : TcpPcbState) : Tcp :=
  let t := (tcpOutput env t i (TCP_FLG_ACK ||| TCP_FLG_FIN) []).1
  t.set i { t.pcbs i with snd.nxt := (t.pcbs i).snd.nxt + 1, state := state }

/-- `tcp_close`: LISTEN and SYN_SENT are closed and released at once; SYN_RECEIVED,
ESTABLISHED and CLOSE_WAIT send a FIN; every other state refuses. -/
def tcpClose (env : TcpEnv) (t : Tcp) (id : Int) : Tcp × TcpResult :=
  match tcpPcbGet t id with
  | none => (t, .ret (-1))
  | some i =>
    match (t.pcbs i).state with
    | .listen | .synSent => (tcpCloseRelease env t i, .ret 0)
    | .synReceived | .established => (tcpCloseFin env t i .finWait1, .ret 0)
    | .closeWait => (tcpCloseFin env t i .lastAck, .ret 0)
    | _ => (t, .ret (-1))

/-! ## Resuming a wait -/

/-- The critical section that runs when the wait `w` returns: the second half of
`sched_sleep`, then the rest of the command. -/
def tcpResume (env : TcpEnv) (t : Tcp) (w : TcpWait) : Tcp × TcpResult :=
  let i := w.pcb
  let (ctx, r) := schedSleepResume (t.pcbs i).ctx
  let t := t.set i { t.pcbs i with ctx := ctx }
  match w with
  | .establish _ state =>
    if r = -1 then (tcpCloseRelease env t i, .ret (-1)) else tcpOpenLoop env t i state
  | .accept _ =>
    if r = -1 then (t, .ret (-1))
    else if (t.pcbs i).state = .closed then (tcpPcbRelease env t i, .ret (-1))
    else tcpAcceptLoop t i
  | .send _ data sent =>
    if r = -1 then (t, .ret (if sent = 0 then -1 else sent)) else tcpSendRetry env t i data sent
  | .receive _ size => if r = -1 then (t, .ret (-1)) else tcpReceiveRetry t i size

end Microps
