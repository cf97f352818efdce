import Microps.Model.Tcp.Retransmit

/-!
# `tcp.c`: `tcp_segment_arrives`

The function follows RFC 793 section 3.9 in steps, each of which may return early; here each
step is a function whose last call is the next step, so that `tcpSegmentArrivesSecond` is "the
rest of `tcp_segment_arrives` from the second check on". The states the C `switch`es list are
matched the same way; a state a `switch` does not list falls through, which matters for a FREE
slot, since `tcp_pcb_select` does not skip FREE slots.

All comparisons of sequence numbers are the code's comparisons of raw `uint32_t` values; the
sums `rcv.nxt + rcv.wnd` and `seg.seq + seg.len - 1` wrap at `2^32` as the C promotions make
them. Each `sched_wakeup` changes nothing the model records (see `Microps.Model.Sched`).
-/

set_option autoImplicit false

namespace Microps

/-- The arguments of `tcp_segment_arrives`: the segment's sequence variables and flags, its
payload (`len` is the payload's length), and the endpoints `tcp_input` read off the
datagram. -/
structure TcpArrival where
  seg : TcpSegmentInfo
  flags : UInt8
  data : List UInt8
  local_ : IpEndpoint
  foreign : IpEndpoint
  deriving DecidableEq, Repr

/-- The four-case acceptability test of the first step. -/
def tcpSegmentAcceptable (rcvNxt : UInt32) (rcvWnd : UInt16) (seq : UInt32) (len : UInt16) :
    Bool :=
  if len = 0 then
    if rcvWnd = 0 then seq == rcvNxt
    else decide (rcvNxt ≤ seq ∧ seq < rcvNxt + rcvWnd.toUInt32)
  else if rcvWnd = 0 then false
  else decide ((rcvNxt ≤ seq ∧ seq < rcvNxt + rcvWnd.toUInt32) ∨
    (rcvNxt ≤ seq + len.toUInt32 - 1 ∧ seq + len.toUInt32 - 1 < rcvNxt + rcvWnd.toUInt32))

/-- SYN_SENT's test for an ACK that does not acknowledge our SYN:
`seg->ack <= pcb->iss || seg->ack > pcb->snd.nxt`. -/
def tcpSynSentAckBad (iss sndNxt ack : UInt32) : Prop := ack ≤ iss ∨ ack > sndNxt

/-- `pcb->snd.una <= seg->ack && seg->ack <= pcb->snd.nxt`: SYN_SENT's acceptable ACK and
SYN_RECEIVED's test for entering ESTABLISHED. -/
def tcpAckInRange (una nxt ack : UInt32) : Prop := una ≤ ack ∧ ack ≤ nxt

/-- `pcb->snd.una < seg->ack && seg->ack <= pcb->snd.nxt`: an ACK that advances `snd.una`. -/
def tcpAckAdvances (una nxt ack : UInt32) : Prop := una < ack ∧ ack ≤ nxt

/-- The send-window update test on `snd.wl1` and `snd.wl2`. -/
def tcpWindowUpdate (wl1 wl2 seq ack : UInt32) : Prop := wl1 < seq ∨ (wl1 = seq ∧ wl2 ≤ ack)

instance (iss sndNxt ack : UInt32) : Decidable (tcpSynSentAckBad iss sndNxt ack) :=
  inferInstanceAs (Decidable (_ ∨ _))

instance (una nxt ack : UInt32) : Decidable (tcpAckInRange una nxt ack) :=
  inferInstanceAs (Decidable (_ ∧ _))

instance (una nxt ack : UInt32) : Decidable (tcpAckAdvances una nxt ack) :=
  inferInstanceAs (Decidable (_ ∧ _))

instance (wl1 wl2 seq ack : UInt32) : Decidable (tcpWindowUpdate wl1 wl2 seq ack) :=
  inferInstanceAs (Decidable (_ ∨ _))

/-- A segment sent back without a PCB's sequence variables (the resets of the code), with
window `0` and no payload. -/
def tcpSegmentReply (env : TcpEnv) (a : TcpArrival) (t : Tcp) (seq ack : UInt32) (flg : UInt8) :
    Tcp :=
  (tcpOutputSegment env t ⟨seq, ack, flg, 0, [], a.local_, a.foreign⟩).1

/-- No PCB, or a CLOSED one: a reset goes back unless the segment is itself a reset. -/
def tcpSegmentArrivesClosed (env : TcpEnv) (a : TcpArrival) (t : Tcp) : Tcp :=
  if TCP_FLG_ISSET a.flags TCP_FLG_RST then t
  else if !TCP_FLG_ISSET a.flags TCP_FLG_ACK then
    tcpSegmentReply env a t 0 (a.seg.seq + a.seg.len.toUInt32) (TCP_FLG_RST ||| TCP_FLG_ACK)
  else tcpSegmentReply env a t a.seg.ack 0 TCP_FLG_RST

/-- The LISTEN state's SYN handling, on the PCB that takes the connection. -/
def tcpSegmentArrivesListenSyn (env : TcpEnv) (a : TcpArrival) (t : Tcp)
    (i : Fin TCP_PCB_SIZE) : Tcp :=
  let pcb := { t.pcbs i with
    local_ := a.local_, foreign := a.foreign, rcv.wnd := 65535, rcv.nxt := a.seg.seq + 1,
    irs := a.seg.seq, iss := env.random }
  let t := (tcpOutput env (t.set i pcb) i (TCP_FLG_SYN ||| TCP_FLG_ACK) []).1
  let pcb := t.pcbs i
  t.set i { pcb with snd.nxt := pcb.iss + 1, snd.una := pcb.iss, state := .synReceived }

/-- The LISTEN state. In socket mode the connection gets a new PCB whose parent is the
listener; in RFC 793 mode the listener itself takes it. -/
def tcpSegmentArrivesListen (env : TcpEnv) (a : TcpArrival) (t : Tcp) (i : Fin TCP_PCB_SIZE) :
    Tcp :=
  if TCP_FLG_ISSET a.flags TCP_FLG_RST then t
  else if TCP_FLG_ISSET a.flags TCP_FLG_ACK then tcpSegmentReply env a t a.seg.ack 0 TCP_FLG_RST
  else if TCP_FLG_ISSET a.flags TCP_FLG_SYN then
    if (t.pcbs i).mode = .socket then
      match tcpPcbAlloc t with
      | none => t
      | some (j, t) =>
        tcpSegmentArrivesListenSyn env a (t.set j { t.pcbs j with mode := .socket, parent := some i }) j
    else tcpSegmentArrivesListenSyn env a t i
  else t

/-- The SYN_SENT state. -/
def tcpSegmentArrivesSynSent (env : TcpEnv) (a : TcpArrival) (t : Tcp) (i : Fin TCP_PCB_SIZE) :
    Tcp :=
  let pcb := t.pcbs i
  let ack := TCP_FLG_ISSET a.flags TCP_FLG_ACK
  -- first check the ACK bit
  if ack ∧ tcpSynSentAckBad pcb.iss pcb.snd.nxt a.seg.ack then
    tcpSegmentReply env a t a.seg.ack 0 TCP_FLG_RST
  else
  let acceptable := ack && decide (tcpAckInRange pcb.snd.una pcb.snd.nxt a.seg.ack)
  -- second check the RST bit
  if TCP_FLG_ISSET a.flags TCP_FLG_RST then
    if acceptable then tcpPcbRelease env (t.set i { pcb with state := .closed }) i else t
  -- fourth check the SYN bit
  else if TCP_FLG_ISSET a.flags TCP_FLG_SYN then
    let pcb := { pcb with rcv.nxt := a.seg.seq + 1, irs := a.seg.seq }
    let pcb := if acceptable then
        { pcb with snd.una := a.seg.ack, queue := tcpRetransmitQueueCleanup a.seg.ack pcb.queue }
      else pcb
    if pcb.snd.una > pcb.iss then
      let t := (tcpOutput env (t.set i { pcb with state := .established }) i TCP_FLG_ACK []).1
      let pcb := t.pcbs i
      t.set i { pcb with snd.wnd := a.seg.wnd, snd.wl1 := a.seg.seq, snd.wl2 := a.seg.ack }
    else (tcpOutput env (t.set i { pcb with state := .synReceived }) i (TCP_FLG_SYN ||| TCP_FLG_ACK) []).1
  else t

/-! ## The synchronized states, from the last step back to the first -/

/-- The eighth step: a FIN moves `rcv.nxt` to `seg.seq + 1`, is acknowledged, and takes the
state on. -/
def tcpSegmentArrivesEighth (env : TcpEnv) (a : TcpArrival) (t : Tcp) (i : Fin TCP_PCB_SIZE) :
    Tcp :=
  if TCP_FLG_ISSET a.flags TCP_FLG_FIN then
    match (t.pcbs i).state with
    | .closed | .listen | .synSent => t
    | _ =>
      let t := t.set i { t.pcbs i with rcv.nxt := a.seg.seq + 1 }
      let t := (tcpOutput env t i TCP_FLG_ACK []).1
      let pcb := t.pcbs i
      match pcb.state with
      | .synReceived | .established => t.set i { pcb with state := .closeWait }
      | .finWait1 =>
        if a.seg.ack = pcb.snd.nxt then t.set i (tcpSetTimewaitTimer env { pcb with state := .timeWait })
        else t.set i { pcb with state := .closing }
      | .finWait2 => t.set i (tcpSetTimewaitTimer env { pcb with state := .timeWait })
      | .timeWait => t.set i (tcpSetTimewaitTimer env pcb)
      | _ => t
  else t

/-- The seventh step: in ESTABLISHED, FIN_WAIT1 and FIN_WAIT2 the payload is copied into `buf`
at offset `65535 - rcv.wnd`, `rcv.nxt` becomes `seg.seq + seg.len` and `rcv.wnd` shrinks by
the payload's length (in `uint16_t`). Nothing checks that the payload fits the window. -/
def tcpSegmentArrivesSeventh (env : TcpEnv) (a : TcpArrival) (t : Tcp) (i : Fin TCP_PCB_SIZE) :
    Tcp :=
  let pcb := t.pcbs i
  match pcb.state with
  | .established | .finWait1 | .finWait2 =>
    if a.data.length ≠ 0 then
      let pcb := { pcb with
        buf := Buffer.writeAt pcb.buf (65535 - pcb.rcv.wnd.toNat) a.data,
        rcv.nxt := a.seg.seq + a.seg.len.toUInt32,
        rcv.wnd := pcb.rcv.wnd - a.data.length.toUInt16 }
      tcpSegmentArrivesEighth env a (tcpOutput env (t.set i pcb) i TCP_FLG_ACK []).1 i
    else tcpSegmentArrivesEighth env a t i
  | _ => tcpSegmentArrivesEighth env a t i

/-- The fifth step after its first `switch`: FIN_WAIT1 and CLOSING move on when their FIN is
acknowledged. -/
def tcpSegmentArrivesAckState (env : TcpEnv) (a : TcpArrival) (t : Tcp) (i : Fin TCP_PCB_SIZE) :
    Tcp :=
  let pcb := t.pcbs i
  let t := match pcb.state with
    | .finWait1 => if a.seg.ack = pcb.snd.nxt then t.set i { pcb with state := .finWait2 } else t
    | .closing =>
      if a.seg.ack = pcb.snd.nxt then t.set i (tcpSetTimewaitTimer env { pcb with state := .timeWait })
      else t
    | _ => t
  tcpSegmentArrivesSeventh env a t i

/-- The fifth step's ACK processing in ESTABLISHED, FIN_WAIT1, FIN_WAIT2, CLOSE_WAIT and
CLOSING (and after SYN_RECEIVED falls through): an ACK in `(snd.una, snd.nxt]` advances
`snd.una`, cleans the retransmission queue and may update the send window; an ACK beyond
`snd.nxt` is answered with an ACK and the segment dropped. -/
def tcpSegmentArrivesAck (env : TcpEnv) (a : TcpArrival) (t : Tcp) (i : Fin TCP_PCB_SIZE) : Tcp :=
  let pcb := t.pcbs i
  if tcpAckAdvances pcb.snd.una pcb.snd.nxt a.seg.ack then
    let pcb := { pcb with
      snd.una := a.seg.ack, queue := tcpRetransmitQueueCleanup a.seg.ack pcb.queue }
    let pcb :=
      if tcpWindowUpdate pcb.snd.wl1 pcb.snd.wl2 a.seg.seq a.seg.ack then
        { pcb with snd.wnd := a.seg.wnd, snd.wl1 := a.seg.seq, snd.wl2 := a.seg.ack }
      else pcb
    tcpSegmentArrivesAckState env a (t.set i pcb) i
  else if a.seg.ack < pcb.snd.una then tcpSegmentArrivesAckState env a t i
  else if a.seg.ack > pcb.snd.nxt then (tcpOutput env t i TCP_FLG_ACK []).1
  else tcpSegmentArrivesAckState env a t i

/-- `queue_push(&pcb->parent->backlog, pcb)` when the PCB has a parent. -/
def tcpBacklogPush (env : TcpEnv) (t : Tcp) (i : Fin TCP_PCB_SIZE) : Tcp :=
  match (t.pcbs i).parent with
  | none => t
  | some p =>
    match queuePush env.memoryAlloc (t.pcbs p).backlog i with
    | some backlog => t.set p { t.pcbs p with backlog := backlog }
    | none => t

/-- The fifth step: a segment without ACK is dropped. SYN_RECEIVED becomes ESTABLISHED on an
ACK in `[snd.una, snd.nxt]`, pushes itself onto its parent's backlog and falls through to the
ACK processing; LAST_ACK is closed and released once its FIN is acknowledged; TIME_WAIT
restarts its timer on a FIN. -/
def tcpSegmentArrivesFifth (env : TcpEnv) (a : TcpArrival) (t : Tcp) (i : Fin TCP_PCB_SIZE) :
    Tcp :=
  if !TCP_FLG_ISSET a.flags TCP_FLG_ACK then t else
  let pcb := t.pcbs i
  match pcb.state with
  | .synReceived =>
    if tcpAckInRange pcb.snd.una pcb.snd.nxt a.seg.ack then
      tcpSegmentArrivesAck env a (tcpBacklogPush env (t.set i { pcb with state := .established }) i) i
    else tcpSegmentReply env a t a.seg.ack 0 TCP_FLG_RST
  | .established | .finWait1 | .finWait2 | .closeWait | .closing => tcpSegmentArrivesAck env a t i
  | .lastAck =>
    if a.seg.ack = pcb.snd.nxt then tcpPcbRelease env (t.set i { pcb with state := .closed }) i
    else t
  | .timeWait =>
    let t := if TCP_FLG_ISSET a.flags TCP_FLG_FIN then t.set i (tcpSetTimewaitTimer env pcb) else t
    tcpSegmentArrivesSeventh env a t i
  | _ => tcpSegmentArrivesSeventh env a t i

/-- The fourth step: a SYN in a synchronized state is answered with a reset, and the PCB is
closed and released. -/
def tcpSegmentArrivesFourth (env : TcpEnv) (a : TcpArrival) (t : Tcp) (i : Fin TCP_PCB_SIZE) :
    Tcp :=
  if (t.pcbs i).state ≠ .free ∧ TCP_FLG_ISSET a.flags TCP_FLG_SYN then
    let t := (tcpOutput env t i TCP_FLG_RST []).1
    tcpPcbRelease env (t.set i { t.pcbs i with state := .closed }) i
  else tcpSegmentArrivesFifth env a t i

/-- The second step: a reset closes and releases the PCB. The code's three groups of states
do the same here (they differ only in what they log). -/
def tcpSegmentArrivesSecond (env : TcpEnv) (a : TcpArrival) (t : Tcp) (i : Fin TCP_PCB_SIZE) :
    Tcp :=
  if (t.pcbs i).state ≠ .free ∧ TCP_FLG_ISSET a.flags TCP_FLG_RST then
    tcpPcbRelease env (t.set i { t.pcbs i with state := .closed }) i
  else tcpSegmentArrivesFourth env a t i

/-- The first step: an unacceptable segment is answered with an ACK (unless it is a reset)
and dropped. -/
def tcpSegmentArrivesFirst (env : TcpEnv) (a : TcpArrival) (t : Tcp) (i : Fin TCP_PCB_SIZE) :
    Tcp :=
  let pcb := t.pcbs i
  if pcb.state ≠ .free ∧ !tcpSegmentAcceptable pcb.rcv.nxt pcb.rcv.wnd a.seg.seq a.seg.len then
    if TCP_FLG_ISSET a.flags TCP_FLG_RST then t else (tcpOutput env t i TCP_FLG_ACK []).1
  else tcpSegmentArrivesSecond env a t i

/-- `tcp_segment_arrives` -/
def tcpSegmentArrives (env : TcpEnv) (a : TcpArrival) (t : Tcp) : Tcp :=
  match tcpPcbSelect t a.local_ (some a.foreign) with
  | none => tcpSegmentArrivesClosed env a t
  | some i =>
    match (t.pcbs i).state with
    | .closed => tcpSegmentArrivesClosed env a t
    | .listen => tcpSegmentArrivesListen env a t i
    | .synSent => tcpSegmentArrivesSynSent env a t i
    | _ => tcpSegmentArrivesFirst env a t i

end Microps
