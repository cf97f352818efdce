import Microps.Analysis.Retransmit
import Microps.Analysis.Frame

/-!
# How PCBs are created and released

A socket-mode listener's connections are new PCBs whose `parent` is the listener; a connection
pushes itself onto its parent's backlog when it becomes ESTABLISHED, and `tcp_accept` pops it
from there without looking at it (`tcpAccept_backlog`). Releasing a connection zeroes its slot
but leaves its id wherever it was queued: `tcp_accept_released_run` accepts an id whose PCB a
reset has already released.

A PCB is released by the code paths that close it from a segment, by `tcp_close` in LISTEN and
SYN_SENT, by the TIME_WAIT timer, and by a waiting open or accept that finds it closed. The
retransmission deadline only makes it CLOSED and wakes its waiters up: a CLOSED PCB keeps its
slot through the timer (`tcpTimerPcb_closed`), and `tcp_close` refuses it (`tcpClose_closed`).
With no waiter, nothing releases it: `tcp_orphan_run` leaves a slot so.

`tcp_pcb_release` means to leave a PCB alone while callers sleep on it, keyed on
`sched_ctx_destroy` returning `-1`; but that returns what `pthread_cond_destroy` returns, `0` or
an error number such as `EBUSY`. So `tcp_close` of a LISTEN or SYN_SENT PCB zeroes its slot at
once while every caller waiting on it goes on waiting (`tcpStep_close_release`), and
`tcp_release_while_waiting_run` zeroes a listener whose opener still sleeps on it.
-/

set_option autoImplicit false

namespace Microps

/-- The environment of a step at `sec` seconds: `random()` gives 1000, allocations and output
succeed, and the route to the local address has an MTU of 1500. -/
def lifecycleEnv (sec : Int) : TcpEnv :=
  ⟨1000, ⟨sec, 0⟩, true, fun _ => true, fun _ => some ⟨0x0100000a, 0x00ffffff, 0xff00000a, 1500⟩,
    fun _ => 0, pthreadCondDestroy_success_ne⟩

/-! ## Accepting a connection -/

/-- `tcp_accept` on a socket-mode listener whose backlog holds entries pops the oldest and
returns its id, whatever has become of that PCB since it was pushed. -/
theorem tcpAccept_backlog {t : Tcp} {i est : Fin TCP_PCB_SIZE} {rest : List (Fin TCP_PCB_SIZE)}
    (hlisten : (t.pcbs i).state = .listen) (hmode : (t.pcbs i).mode = .socket)
    (hbacklog : (t.pcbs i).backlog = est :: rest) :
    tcpAccept t (tcpPcbId i) = (t.set i { t.pcbs i with backlog := rest }, .ret (tcpPcbId est)) := by
  have hget : tcpPcbGet t (tcpPcbId i) = some i := tcpPcbGet_tcpPcbId (by rw [hlisten]; decide)
  simp [tcpAccept, hget, hmode, hlisten, tcpAcceptLoop, hbacklog, queuePop]

/-- A socket-mode listener on `10.0.0.1:7`, a connection from `10.0.0.2:5000` that completes
its handshake, a reset for that connection, and then `tcp_accept` on the listener. -/
def tcpAcceptReleasedRun : List (TcpEnv × TcpEvent) :=
  let l : IpEndpoint := ⟨0x0100000a, 7⟩
  let f : IpEndpoint := ⟨0x0200000a, 5000⟩
  [(lifecycleEnv 0, .command .openSocket),
   (lifecycleEnv 0, .command (.bind 0 l)),
   (lifecycleEnv 0, .command (.listen 0)),
   (lifecycleEnv 0, .segment ⟨⟨500, 0, 1, 100⟩, TCP_FLG_SYN, [], l, f⟩),
   (lifecycleEnv 0, .segment ⟨⟨501, 1001, 0, 100⟩, TCP_FLG_ACK, [], l, f⟩),
   (lifecycleEnv 0, .segment ⟨⟨501, 0, 0, 0⟩, TCP_FLG_RST, [], l, f⟩),
   (lifecycleEnv 0, .command (.accept 0))]

/-- `tcp_accept` returns id 1, whose slot the reset has released (it is FREE). -/
theorem tcp_accept_released_run :
    (tcpRun TcpSystem.init tcpAcceptReleasedRun).map (fun p =>
      (p.2.getLast?, (p.1.tcp.pcbs 1).state)) = some (some (.ret 1), .free) := by
  decide

/-! ## A PCB left CLOSED -/

/-- A CLOSED PCB stays CLOSED through its slot of `tcp_timer`: only an expired TIME_WAIT is
released there, and the retransmission deadline only closes a PCB. -/
theorem tcpTimerPcb_closed (env : TcpEnv) {t : Tcp} {i : Fin TCP_PCB_SIZE}
    (h : (t.pcbs i).state = .closed) : ((tcpTimerPcb env t i).pcbs i).state = .closed := by
  have hp := tcpRetransmitQueueForeach_pcb env (t.pcbs i) (t.pcbs i).queue
  rcases hq : tcpRetransmitQueueForeach env (t.pcbs i) (t.pcbs i).queue with ⟨p, q, segs⟩
  rw [hq] at hp
  dsimp only at hp
  have hstate : p.state = .closed := by
    rcases hp with hp | hp <;> rw [hp]
    exact h
  -- neither FREE nor TIME_WAIT: the retransmission loop runs and the segments go out
  simp [tcpTimerPcb, h, hq, hstate]

/-- `tcp_close` refuses a CLOSED PCB and changes nothing. -/
theorem tcpClose_closed (env : TcpEnv) {t : Tcp} {i : Fin TCP_PCB_SIZE}
    (h : (t.pcbs i).state = .closed) : tcpClose env t (tcpPcbId i) = (t, .ret (-1)) := by
  have hget : tcpPcbGet t (tcpPcbId i) = some i := tcpPcbGet_tcpPcbId (by rw [h]; decide)
  simp [tcpClose, hget, h]

/-- An RFC 793 passive open on `10.0.0.1:7` that a connection completes; one second later the
user closes it, the peer never acknowledges the FIN, the timer runs at 13 seconds, and the
user closes the id again. -/
def tcpOrphanRun : List (TcpEnv × TcpEvent) :=
  let l : IpEndpoint := ⟨0x0100000a, 7⟩
  let f : IpEndpoint := ⟨0x0200000a, 5000⟩
  [(lifecycleEnv 0, .command (.openRfc793 l (.passive none))),
   (lifecycleEnv 0, .segment ⟨⟨500, 0, 1, 100⟩, TCP_FLG_SYN, [], l, f⟩),
   (lifecycleEnv 0, .segment ⟨⟨501, 1001, 0, 100⟩, TCP_FLG_ACK, [], l, f⟩),
   (lifecycleEnv 0, .resume 0),
   (lifecycleEnv 1, .command (.close 0)),
   (lifecycleEnv 13, .timer),
   (lifecycleEnv 13, .command (.close 0))]

/-- The open returns id 0 and the first close succeeds; the timer makes the PCB CLOSED, the
second close is refused, and the slot stays CLOSED with nobody waiting on it. -/
theorem tcp_orphan_run :
    (tcpRun TcpSystem.init tcpOrphanRun).map (fun p => (p.2, (p.1.tcp.pcbs 0).state, p.1.waits)) =
      some ([.wait (.establish 0 .listen), .ret 0, .ret 0, .ret (-1)], .closed, []) := by
  decide

/-! ## Releasing a PCB someone waits on -/

/-- `tcp_close` of a LISTEN or SYN_SENT PCB returns 0 and zeroes its slot at once, and every
caller that waited, on that PCB too, goes on waiting: `pthread_cond_destroy` never returns
`-1`, so the release is never deferred. -/
theorem tcpStep_close_release (env : TcpEnv) {s : TcpSystem} {i : Fin TCP_PCB_SIZE}
    (h : (s.tcp.pcbs i).state = .listen ∨ (s.tcp.pcbs i).state = .synSent) :
    tcpStep env s (.command (.close (tcpPcbId i))) =
        some (⟨tcpCloseRelease env s.tcp i, s.waits⟩, some (.ret 0)) ∧
      (tcpCloseRelease env s.tcp i).pcbs i = TcpPcb.zero := by
  have hget : tcpPcbGet s.tcp (tcpPcbId i) = some i :=
    tcpPcbGet_tcpPcbId (by rcases h with h | h <;> rw [h] <;> decide)
  have hclose : tcpClose env s.tcp (tcpPcbId i) = (tcpCloseRelease env s.tcp i, .ret 0) := by
    rcases h with h | h <;> simp [tcpClose, hget, h]
  refine ⟨?_, tcpPcbRelease_self env _ i⟩
  simp [tcpStep, tcpCommand, hclose, TcpResult.waits]

/-- The environment of a step at `sec` seconds with POSIX `pthread_cond_destroy`: `EBUSY` while
a thread waits on the condition, `0` otherwise; everything else as `lifecycleEnv`. -/
def posixEnv (sec : Int) : TcpEnv :=
  { lifecycleEnv sec with
    pthreadCondDestroy := fun ctx => if 0 < ctx.wc then 16 else 0
    pthreadCondDestroy_ne := fun ctx => by split <;> decide }

/-- A passive `tcp_open_rfc793` on `10.0.0.1:7` that sleeps until a connection comes, and
`tcp_close` on its id from another thread meanwhile. -/
def tcpCloseWhileWaitingRun : List (TcpEnv × TcpEvent) :=
  [(posixEnv 0, .command (.openRfc793 ⟨0x0100000a, 7⟩ (.passive none))),
   (posixEnv 0, .command (.close 0))]

/-- After the open the listener's context counts one sleeper; the close zeroes the slot (FREE)
while that caller still sleeps on it. -/
theorem tcp_release_while_waiting_run :
    (tcpRun TcpSystem.init (tcpCloseWhileWaitingRun.take 1)).map
        (fun p => ((p.1.tcp.pcbs 0).state, (p.1.tcp.pcbs 0).ctx.wc, p.1.waits)) =
      some (.listen, 1, [.establish 0 .listen]) ∧
    (tcpRun TcpSystem.init tcpCloseWhileWaitingRun).map
        (fun p => (p.2, (p.1.tcp.pcbs 0).state, p.1.waits)) =
      some ([.wait (.establish 0 .listen), .ret 0], .free, [.establish 0 .listen]) := by
  decide

end Microps
