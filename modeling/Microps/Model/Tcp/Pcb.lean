import Microps.Model.Ip
import Microps.Model.Sched
import Microps.Lib.Buffer

/-!
# `tcp.c`: protocol control blocks

The PCB table `pcbs[TCP_PCB_SIZE]` is a function from slot numbers to PCBs, and a pointer into
it (`parent`, the entries of `backlog`) is a slot number. The TCP layer's state `Tcp` is that
table together with the log of the segments it has handed to `ip_output`, oldest first.

The receive buffer `buf` is the whole 65535-byte array as a list (see `Buffer.writeAt`). The
fields the code never reads (`mtu`, `mss`, `snd.up`, `rcv.up`, `seg.up`) are left out.

What the layer gets from outside `tcp.c` in one critical section is a `TcpEnv`: the value of
`random()`, the time `gettimeofday` reads, whether `memory_alloc` succeeds, whether
`ip_output` accepts a segment, the route lookup `ip_route_get_iface`, and what
`pthread_cond_destroy` returns, which POSIX makes `0` or an error number, never `-1`.
-/

set_option autoImplicit false

namespace Microps

/-- `TCP_FLG_FIN` -/
def TCP_FLG_FIN : UInt8 := 0x01

/-- `TCP_FLG_SYN` -/
def TCP_FLG_SYN : UInt8 := 0x02

/-- `TCP_FLG_RST` -/
def TCP_FLG_RST : UInt8 := 0x04

/-- `TCP_FLG_PSH` -/
def TCP_FLG_PSH : UInt8 := 0x08

/-- `TCP_FLG_ACK` -/
def TCP_FLG_ACK : UInt8 := 0x10

/-- `TCP_FLG_ISSET(x, y)` -/
def TCP_FLG_ISSET (x y : UInt8) : Bool :=
  (x &&& 0x3f) &&& y != 0

/-- `TCP_PCB_SIZE` -/
abbrev TCP_PCB_SIZE : Nat := 16

/-- `TCP_DEFAULT_RTO` (microseconds) -/
def TCP_DEFAULT_RTO : UInt32 := 200000

/-- `TCP_RETRANSMIT_DEADLINE` (seconds) -/
def TCP_RETRANSMIT_DEADLINE : Int := 12

/-- `TCP_TIMEWAIT_SEC` -/
def TCP_TIMEWAIT_SEC : Int := 30

/-- `TCP_SOURCE_PORT_MIN` -/
def TCP_SOURCE_PORT_MIN : Nat := 49152

/-- `TCP_SOURCE_PORT_MAX` -/
def TCP_SOURCE_PORT_MAX : Nat := 65535

/-- `TCP_PCB_STATE_*`, `free` being the zero of a released slot. -/
inductive TcpPcbState
  | free | closed | listen | synSent | synReceived | established
  | finWait1 | finWait2 | closing | timeWait | closeWait | lastAck
  deriving DecidableEq, Repr

/-- `TCP_PCB_MODE_*`, `unset` being the zero a slot has until an open sets it. -/
inductive TcpPcbMode
  | unset | rfc793 | socket
  deriving DecidableEq, Repr

/-- `struct tcp_segment_info` (without the unread `up`). -/
structure TcpSegmentInfo where
  seq : UInt32
  ack : UInt32
  len : UInt16
  wnd : UInt16
  deriving DecidableEq, Repr

/-- The `snd` variables of a PCB. -/
structure TcpSnd where
  nxt : UInt32
  una : UInt32
  wnd : UInt16
  wl1 : UInt32
  wl2 : UInt32
  deriving DecidableEq, Repr

/-- The `rcv` variables of a PCB. -/
structure TcpRcv where
  nxt : UInt32
  wnd : UInt16
  deriving DecidableEq, Repr

/-- `struct tcp_queue_entry`, with the `len` bytes stored after it. -/
structure TcpQueueEntry where
  first : Timeval
  last : Timeval
  rto : UInt32
  seq : UInt32
  flg : UInt8
  data : List UInt8
  deriving DecidableEq, Repr

/-- `struct tcp_pcb` -/
structure TcpPcb where
  state : TcpPcbState
  mode : TcpPcbMode
  local_ : IpEndpoint
  foreign : IpEndpoint
  snd : TcpSnd
  iss : UInt32
  rcv : TcpRcv
  irs : UInt32
  buf : List UInt8
  ctx : SchedCtx
  queue : List TcpQueueEntry
  twTimer : Timeval
  parent : Option (Fin TCP_PCB_SIZE)
  backlog : List (Fin TCP_PCB_SIZE)
  deriving DecidableEq, Repr

/-- A PCB after `memset(pcb, 0, sizeof(*pcb))`, as every slot of the static table starts. -/
def TcpPcb.zero : TcpPcb where
  state := .free
  mode := .unset
  local_ := ⟨0, 0⟩
  foreign := ⟨0, 0⟩
  snd := ⟨0, 0, 0, 0, 0⟩
  iss := 0
  rcv := ⟨0, 0⟩
  irs := 0
  buf := List.replicate 65535 0
  ctx := ⟨false, 0⟩
  queue := []
  twTimer := ⟨0, 0⟩
  parent := none
  backlog := []

/-- A call of `tcp_output_segment`: the header fields it is given, the payload, and the
endpoints. -/
structure TcpSegmentOut where
  seq : UInt32
  ack : UInt32
  flg : UInt8
  wnd : UInt16
  data : List UInt8
  local_ : IpEndpoint
  foreign : IpEndpoint
  deriving DecidableEq, Repr

/-- The TCP layer: the PCB table and the segments handed to `ip_output` so far. -/
structure Tcp where
  pcbs : Fin TCP_PCB_SIZE → TcpPcb
  out : List TcpSegmentOut

/-- The layer as the program starts: every slot zero, nothing sent. -/
def Tcp.init : Tcp := ⟨fun _ => TcpPcb.zero, []⟩

/-- What one critical section of the TCP layer gets from outside `tcp.c`. -/
structure TcpEnv where
  random : UInt32
  now : Timeval
  memoryAlloc : Bool
  ipOutput : TcpSegmentOut → Bool
  ipRouteGetIface : UInt32 → Option IpIface
  pthreadCondDestroy : SchedCtx → Int
  pthreadCondDestroy_ne : ∀ ctx, pthreadCondDestroy ctx ≠ -1

/-- Replace PCB `i`. -/
def Tcp.set (t : Tcp) (i : Fin TCP_PCB_SIZE) (pcb : TcpPcb) : Tcp :=
  { t with pcbs := Function.update t.pcbs i pcb }

@[simp] theorem Tcp.set_pcbs_self (t : Tcp) (i : Fin TCP_PCB_SIZE) (pcb : TcpPcb) :
    (t.set i pcb).pcbs i = pcb := by
  simp [Tcp.set]

@[simp] theorem Tcp.set_pcbs_of_ne (t : Tcp) {i j : Fin TCP_PCB_SIZE} (pcb : TcpPcb) (h : j ≠ i) :
    (t.set i pcb).pcbs j = t.pcbs j := by
  simp [Tcp.set, h]

@[simp] theorem Tcp.set_out (t : Tcp) (i : Fin TCP_PCB_SIZE) (pcb : TcpPcb) :
    (t.set i pcb).out = t.out := rfl

theorem Tcp.set_pcbs (t : Tcp) (i j : Fin TCP_PCB_SIZE) (pcb : TcpPcb) :
    (t.set i pcb).pcbs j = if j = i then pcb else t.pcbs j := by
  by_cases h : j = i
  · subst h; simp
  · simp [h]

/-- The frame rule of `set`: a relation between a PCB before and after that every PCB has with
itself holds of every slot once it holds of the one replaced. -/
theorem Tcp.set_pcbs_rel {R : TcpPcb → TcpPcb → Prop} (hrefl : ∀ q, R q q) {t : Tcp}
    {i : Fin TCP_PCB_SIZE} {pcb : TcpPcb} (h : R (t.pcbs i) pcb) (j : Fin TCP_PCB_SIZE) :
    R (t.pcbs j) ((t.set i pcb).pcbs j) := by
  by_cases hj : j = i
  · subst hj
    rwa [Tcp.set_pcbs_self]
  · rw [Tcp.set_pcbs_of_ne _ _ hj]
    exact hrefl _

/-- Append a call of `tcp_output_segment` to the log. -/
def Tcp.send (t : Tcp) (seg : TcpSegmentOut) : Tcp :=
  { t with out := t.out ++ [seg] }

@[simp] theorem Tcp.send_pcbs (t : Tcp) (seg : TcpSegmentOut) : (t.send seg).pcbs = t.pcbs := rfl

/-! ## The table -/

/-- `tcp_pcb_alloc`: the first FREE slot, made CLOSED with a fresh wait context. Nothing else
of the slot is reset: it holds what the last release (or a later write) left there. -/
def tcpPcbAlloc (t : Tcp) : Option (Fin TCP_PCB_SIZE × Tcp) :=
  match (List.finRange TCP_PCB_SIZE).find? (fun i => decide ((t.pcbs i).state = .free)) with
  | none => none
  | some i => some (i, t.set i { t.pcbs i with state := .closed, ctx := schedCtxInit })

/-- `tcp_pcb_get`: the slot of a valid id whose PCB is not FREE. -/
def tcpPcbGet (t : Tcp) (id : Int) : Option (Fin TCP_PCB_SIZE) :=
  if h : id < 0 ∨ id ≥ TCP_PCB_SIZE then none
  else if (t.pcbs ⟨id.toNat, by omega⟩).state = .free then none
  else some ⟨id.toNat, by omega⟩

/-- `tcp_pcb_id` -/
def tcpPcbId (i : Fin TCP_PCB_SIZE) : Int := i.val

/-- The loop of `tcp_pcb_select` from the given slots on, with the wildcard listener found so
far: an exact match (or, without a foreign endpoint, any local match) ends the scan, and the
last listener with a wildcard foreign endpoint is the fallback. FREE slots are not skipped. -/
def tcpPcbSelectFrom (t : Tcp) (local_ : IpEndpoint) (foreign : Option IpEndpoint) :
    List (Fin TCP_PCB_SIZE) → Option (Fin TCP_PCB_SIZE) → Option (Fin TCP_PCB_SIZE)
  | [], listenPcb => listenPcb
  | i :: rest, listenPcb =>
    let pcb := t.pcbs i
    if (pcb.local_.addr = IP_ADDR_ANY ∨ pcb.local_.addr = local_.addr) ∧
        pcb.local_.port = local_.port then
      match foreign with
      | none => some i
      | some foreign =>
        if pcb.foreign.addr = foreign.addr ∧ pcb.foreign.port = foreign.port then some i
        else if pcb.state = .listen ∧ pcb.foreign.addr = IP_ADDR_ANY ∧ pcb.foreign.port = 0 then
          tcpPcbSelectFrom t local_ (some foreign) rest (some i)
        else tcpPcbSelectFrom t local_ (some foreign) rest listenPcb
    else tcpPcbSelectFrom t local_ foreign rest listenPcb

/-- `tcp_pcb_select`; `foreign = none` is the NULL foreign endpoint of `tcp_bind`. -/
def tcpPcbSelect (t : Tcp) (local_ : IpEndpoint) (foreign : Option IpEndpoint) :
    Option (Fin TCP_PCB_SIZE) :=
  tcpPcbSelectFrom t local_ foreign (List.finRange TCP_PCB_SIZE) none

/-- The number of entries in all backlogs. -/
def backlogTotal (t : Tcp) : Nat :=
  ((List.finRange TCP_PCB_SIZE).map fun i => (t.pcbs i).backlog.length).sum

mutual

/-- `tcp_pcb_release` with a bound on the depth of its recursion. When destroying the wait
context fails (`-1`) the PCB is only woken up and stays as it is; otherwise its retransmission
entries are freed, every PCB popped from its backlog is released in turn, and the slot is
zeroed. -/
def tcpPcbReleaseFuel (env : TcpEnv) : Nat → Tcp → Fin TCP_PCB_SIZE → Tcp
  | 0, t, _ => t
  | fuel + 1, t, i =>
    if env.pthreadCondDestroy (t.pcbs i).ctx = -1 then t
    else
      let t := t.set i { t.pcbs i with queue := [] }
      (tcpPcbReleaseBacklog env fuel t i).set i TcpPcb.zero

/-- The loop `while ((est = queue_pop(&pcb->backlog)) != NULL) tcp_pcb_release(est);` -/
def tcpPcbReleaseBacklog (env : TcpEnv) : Nat → Tcp → Fin TCP_PCB_SIZE → Tcp
  | 0, t, _ => t
  | fuel + 1, t, i =>
    match (t.pcbs i).backlog with
    | [] => t
    | est :: rest =>
      let t := tcpPcbReleaseFuel env fuel (t.set i { t.pcbs i with backlog := rest }) est
      tcpPcbReleaseBacklog env fuel t i

end

/-- `tcp_pcb_release`. Every call of the recursion with fuel `f + 1` either returns or pops one
backlog entry before it recurses, and nothing pushes one, so `2 * backlogTotal t + 1` is
enough fuel for the whole recursion. -/
def tcpPcbRelease (env : TcpEnv) (t : Tcp) (i : Fin TCP_PCB_SIZE) : Tcp :=
  tcpPcbReleaseFuel env (2 * backlogTotal t + 1) t i

end Microps
