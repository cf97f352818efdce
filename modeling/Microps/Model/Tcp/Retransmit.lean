import Microps.Model.Tcp.Pcb

/-!
# `tcp.c`: the retransmission queue, segment output and the timer

`tcp_output` queues every segment that occupies sequence space (SYN, FIN or payload) before
it hands it to `tcp_output_segment`; the queue keeps the sequence number, the flags and a copy
of the payload. `tcp_retransmit_queue_cleanup` pops entries from the front while the oldest one
starts before `snd.una`. `tcp_timer` runs over the table in slot order: a TIME_WAIT PCB whose
timer has passed is released, and every other live PCB has `tcp_retransmit_queue_emit` run on
each of its entries in turn, which either closes the PCB (the deadline has passed) or resends
the entry when its timeout has passed.
-/

set_option autoImplicit false

namespace Microps

/-- `tcp_retransmit_queue_add`. The entry and `queue_push`'s node are both allocated with the
event's allocation outcome; when either fails the queue is left as it was. -/
def tcpRetransmitQueueAdd (env : TcpEnv) (pcb : TcpPcb) (seq : UInt32) (flg : UInt8)
    (data : List UInt8) : TcpPcb :=
  if env.memoryAlloc then
    match queuePush env.memoryAlloc pcb.queue ⟨env.now, env.now, TCP_DEFAULT_RTO, seq, flg, data⟩ with
    | some queue => { pcb with queue := queue }
    | none => pcb
  else pcb

/-- `tcp_retransmit_queue_cleanup`: entries are popped while the oldest one has
`seq < snd.una`; only the start of an entry is compared. -/
def tcpRetransmitQueueCleanup (una : UInt32) : List TcpQueueEntry → List TcpQueueEntry
  | [] => []
  | entry :: rest =>
    if entry.seq ≥ una then entry :: rest else tcpRetransmitQueueCleanup una rest

/-- `tcp_set_timewait_timer` -/
def tcpSetTimewaitTimer (env : TcpEnv) (pcb : TcpPcb) : TcpPcb :=
  { pcb with twTimer := { env.now with tvSec := env.now.tvSec + TCP_TIMEWAIT_SEC } }

/-- `tcp_output_segment`: the call goes to the log, and it returns `len`, or `-1` when
`ip_output` refuses the segment. -/
def tcpOutputSegment (env : TcpEnv) (t : Tcp) (seg : TcpSegmentOut) : Tcp × Int :=
  (t.send seg, if env.ipOutput seg then seg.data.length else -1)

/-- `tcp_output`: a SYN carries `iss`, anything else `snd.nxt`; a segment with SYN, FIN or
payload is queued for retransmission first. -/
def tcpOutput (env : TcpEnv) (t : Tcp) (i : Fin TCP_PCB_SIZE) (flg : UInt8)
    (data : List UInt8) : Tcp × Int :=
  let pcb := t.pcbs i
  let seq := if TCP_FLG_ISSET flg TCP_FLG_SYN then pcb.iss else pcb.snd.nxt
  let pcb :=
    if TCP_FLG_ISSET flg (TCP_FLG_SYN ||| TCP_FLG_FIN) || data.length != 0 then
      tcpRetransmitQueueAdd env pcb seq flg data
    else pcb
  tcpOutputSegment env (t.set i pcb)
    ⟨seq, pcb.rcv.nxt, flg, pcb.rcv.wnd, data, pcb.local_, pcb.foreign⟩

/-- `tcp_retransmit_queue_emit` on one entry: once `TCP_RETRANSMIT_DEADLINE` seconds have
passed since the entry was first sent the PCB is made CLOSED (and woken up); otherwise, once
its timeout has passed, the entry is sent again and its timeout doubled. -/
def tcpRetransmitQueueEmit (env : TcpEnv) (pcb : TcpPcb) (entry : TcpQueueEntry) :
    TcpPcb × TcpQueueEntry × Option TcpSegmentOut :=
  if (timersub env.now entry.first).tvSec ≥ TCP_RETRANSMIT_DEADLINE then
    ({ pcb with state := .closed }, entry, none)
  else if timercmpGt env.now (timevalAddUsec entry.last entry.rto.toNat) then
    (pcb, { entry with last := env.now, rto := entry.rto * 2 },
      some ⟨entry.seq, pcb.rcv.nxt, entry.flg, pcb.rcv.wnd, entry.data, pcb.local_, pcb.foreign⟩)
  else (pcb, entry, none)

/-- `queue_foreach(&pcb->queue, tcp_retransmit_queue_emit, pcb)`: the PCB, the entries as the
calls leave them, and the segments sent again, in order. -/
def tcpRetransmitQueueForeach (env : TcpEnv) (pcb : TcpPcb) :
    List TcpQueueEntry → TcpPcb × List TcpQueueEntry × List TcpSegmentOut
  | [] => (pcb, [], [])
  | entry :: rest =>
    let (pcb, entry, seg) := tcpRetransmitQueueEmit env pcb entry
    let (pcb, rest, segs) := tcpRetransmitQueueForeach env pcb rest
    (pcb, entry :: rest, seg.toList ++ segs)

/-- One slot of `tcp_timer`'s loop. -/
def tcpTimerPcb (env : TcpEnv) (t : Tcp) (i : Fin TCP_PCB_SIZE) : Tcp :=
  let pcb := t.pcbs i
  if pcb.state = .free then t
  else if pcb.state = .timeWait ∧ timercmpGt env.now pcb.twTimer then tcpPcbRelease env t i
  else
    let (pcb, queue, segs) := tcpRetransmitQueueForeach env pcb pcb.queue
    segs.foldl Tcp.send (t.set i { pcb with queue := queue })

/-- `tcp_timer` -/
def tcpTimer (env : TcpEnv) (t : Tcp) : Tcp :=
  (List.finRange TCP_PCB_SIZE).foldl (tcpTimerPcb env) t

/-- `event_handler`: every live PCB's wait context is interrupted. -/
def tcpEventHandler (t : Tcp) : Tcp :=
  { t with pcbs := fun i =>
      let pcb := t.pcbs i
      if pcb.state ≠ .free then { pcb with ctx := schedInterrupt pcb.ctx } else pcb }

end Microps
