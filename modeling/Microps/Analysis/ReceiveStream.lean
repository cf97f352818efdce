import Microps.Analysis.Retransmit
import Microps.Analysis.Frame

/-!
# The receive path: what `buf` and `rcv` hold

The seventh step of `tcp_segment_arrives` copies a segment's payload into `buf` at offset
`65535 - rcv.wnd` and takes its length off `rcv.wnd`; nothing before it trims the segment to the
window, since the acceptability test only asks that the first or the last sequence number of
the segment fall inside the window. `tcp_window_overrun_run` is a connection where a segment
that starts at `rcv.nxt` is longer than the window: the copy runs past the end of the
65535-byte array and `rcv.wnd` wraps.

Nor does anything check that an acceptable segment begins at `rcv.nxt`. The code keeps RFC 793's
remark that what follows the first check assumes "the idealized segment that begins at RCV.NXT
and does not exceed the window", and does not trim or hold segments to make it so: a segment from
further on in the stream is copied right after the unread bytes (`tcp_receive_out_of_order`).

For idealized segments the receive side is a faithful copy of the peer's stream (`RecvInv`):
what `tcp_receive` returned followed by what is still unread is a prefix of the stream, and
`rcv.nxt` is just past it; a FIN adds one sequence number when it comes alone (on a segment with
payload the eighth step sets `rcv.nxt` to `seg.seq + 1`, back over the payload). The proof follows
the segment through `tcp_segment_arrives` step by step, with the three ways the receive side can
change (`RecvInv.append`, `RecvInv.finish`, `RecvInv.deliver`) stated once.
-/

set_option autoImplicit false

namespace Microps

/-- A connection with 100 unread bytes (so `rcv.wnd` is 65435) that then receives a
65495-byte segment (the largest an IP datagram can carry) at `rcv.nxt`. -/
def tcpWindowOverrunRun : List (TcpEnv × TcpEvent) :=
  let l : IpEndpoint := ⟨0x0100000a, 7⟩
  let f : IpEndpoint := ⟨0x0200000a, 5000⟩
  [(partialAckEnv, .command (.openRfc793 l (.passive none))),
   (partialAckEnv, .segment ⟨⟨500, 0, 1, 100⟩, TCP_FLG_SYN, [], l, f⟩),
   (partialAckEnv, .segment ⟨⟨501, 1001, 0, 100⟩, TCP_FLG_ACK, [], l, f⟩),
   (partialAckEnv, .resume 0),
   (partialAckEnv, .segment ⟨⟨501, 1001, 100, 100⟩, TCP_FLG_ACK, List.replicate 100 7, l, f⟩),
   (partialAckEnv, .segment ⟨⟨601, 1001, 65495, 100⟩, TCP_FLG_ACK, List.replicate 65495 9, l, f⟩)]

/-- After the second segment the buffer has grown to 65595 bytes (60 bytes were written past
the array) and `rcv.wnd` is `65435 - 65495` taken modulo `2^16`. -/
theorem tcp_window_overrun_run :
    (tcpRun TcpSystem.init tcpWindowOverrunRun).map (fun p =>
      ((p.1.tcp.pcbs 0).buf.length, (p.1.tcp.pcbs 0).rcv.wnd)) = some (65595, 65476) := by
  decide +kernel

/-! ## The receive side of one connection -/

/-- `buf[0 .. 65535 - rcv.wnd)`: the bytes `tcp_receive` has yet to return. -/
def unread (pcb : TcpPcb) : List UInt8 := pcb.buf.take (65535 - pcb.rcv.wnd.toNat)

/-- How far the receive side is into the peer's stream, in sequence numbers after `irs + 1`:
the bytes `tcp_receive` returned (`delivered`) and those unread, and the FIN once it has taken
the PCB to CLOSE_WAIT. -/
def streamPos (delivered : List UInt8) (pcb : TcpPcb) : Nat :=
  (delivered ++ unread pcb).length + if pcb.state = .closeWait then 1 else 0

/-- The bytes a result hands to the caller: those `tcp_receive` copied out. -/
def TcpResult.bytes : TcpResult → List UInt8
  | .received bytes => bytes
  | _ => []

/-- The receive side of a connection whose peer sends the stream `S`, `tcp_receive` having
returned `delivered` so far: ESTABLISHED, or CLOSE_WAIT once the FIN is in; the whole 65535-byte
buffer; the bytes delivered and then those unread a prefix of `S`; `rcv.nxt` just past them
(and past the FIN); and the FIN only after the last byte of `S`. -/
structure RecvInv (S delivered : List UInt8) (pcb : TcpPcb) : Prop where
  state : pcb.state = .established ∨ pcb.state = .closeWait
  buf_length : pcb.buf.length = 65535
  isPrefix : delivered ++ unread pcb <+: S
  nxt : pcb.rcv.nxt = pcb.irs + 1 + (streamPos delivered pcb).toUInt32
  fin : pcb.state = .closeWait → (delivered ++ unread pcb).length = S.length

/-- A segment of that connection as the code assumes it to be: it begins at `rcv.nxt` with the
next bytes of `S`, no more than the window holds; `seg.len` counts the payload and a FIN, as
`tcp_input` computes it; it has no SYN and no RST; and a FIN comes alone, right after the last
byte of `S`. -/
structure TcpArrival.Idealized (a : TcpArrival) (S delivered : List UInt8) (pcb : TcpPcb) :
    Prop where
  seq : a.seg.seq = pcb.rcv.nxt
  data : a.data <+: S.drop (streamPos delivered pcb)
  fits : a.data.length ≤ pcb.rcv.wnd.toNat
  len : a.seg.len.toNat = a.data.length + if TCP_FLG_ISSET a.flags TCP_FLG_FIN then 1 else 0
  syn : TCP_FLG_ISSET a.flags TCP_FLG_SYN = false
  rst : TCP_FLG_ISSET a.flags TCP_FLG_RST = false
  fin : TCP_FLG_ISSET a.flags TCP_FLG_FIN = true → a.data = [] ∧ streamPos delivered pcb = S.length

/-- Two PCBs whose receive sides agree. -/
structure SameRecv (q p : TcpPcb) : Prop where
  state : q.state = p.state
  rcv : q.rcv = p.rcv
  irs : q.irs = p.irs
  buf : q.buf = p.buf

theorem SameRecv.refl (p : TcpPcb) : SameRecv p p := ⟨rfl, rfl, rfl, rfl⟩

theorem SameRecv.trans {p q r : TcpPcb} (h₁ : SameRecv r q) (h₂ : SameRecv q p) : SameRecv r p :=
  ⟨h₁.state.trans h₂.state, h₁.rcv.trans h₂.rcv, h₁.irs.trans h₂.irs, h₁.buf.trans h₂.buf⟩

/-- `tcp_output` leaves every receive side alone. -/
theorem sameRecv_tcpOutput (env : TcpEnv) (t : Tcp) (i : Fin TCP_PCB_SIZE) (flg : UInt8)
    (data : List UInt8) (j : Fin TCP_PCB_SIZE) :
    SameRecv ((tcpOutput env t i flg data).1.pcbs j) (t.pcbs j) := by
  exact ⟨by simp, by simp, by simp, by simp⟩

/-! ### The arithmetic of `rcv.wnd` and `rcv.nxt` -/

/-- INTERNAL: `rcv.wnd -= len` does not wrap when the payload fits the window. -/
theorem wnd_sub_toNat (w : UInt16) {n : Nat} (h : n ≤ w.toNat) :
    (w - n.toUInt16).toNat = w.toNat - n := by
  have hw := w.toNat_lt
  rw [UInt16.toNat_sub_of_le]
  · simp
    omega
  · rw [UInt16.le_iff_toNat_le]
    simp
    omega

/-- INTERNAL: `rcv.wnd += len` does not wrap when `len` bytes were unread. -/
theorem wnd_add_toNat (w : UInt16) {n : Nat} (h : w.toNat + n ≤ 65535) :
    (w + n.toUInt16).toNat = w.toNat + n := by
  simp [UInt16.toNat_add]
  omega

/-- INTERNAL: `seg.len` as the sequence-space length it is. -/
theorem len_toUInt32 (x : UInt16) : x.toUInt32 = x.toNat.toUInt32 := by
  apply UInt32.toNat.inj
  simp

section Stream

variable {S D : List UInt8} {p q : TcpPcb}

theorem unread_length (h : p.buf.length = 65535) : (unread p).length = 65535 - p.rcv.wnd.toNat := by
  simp only [unread, List.length_take, h]
  omega

theorem unread_of_sameRecv (hv : SameRecv q p) : unread q = unread p := by
  rw [unread, unread, hv.rcv, hv.buf]

theorem streamPos_of_sameRecv (hv : SameRecv q p) : streamPos D q = streamPos D p := by
  rw [streamPos, streamPos, unread_of_sameRecv hv, hv.state]

theorem RecvInv.of_sameRecv (h : RecvInv S D p) (hv : SameRecv q p) : RecvInv S D q := by
  have hu := unread_of_sameRecv hv
  refine ⟨?_, ?_, ?_, ?_, ?_⟩
  · rw [hv.state]
    exact h.state
  · rw [hv.buf]
    exact h.buf_length
  · rw [hu]
    exact h.isPrefix
  · rw [streamPos_of_sameRecv hv, hv.rcv, hv.irs]
    exact h.nxt
  · rw [hu, hv.state]
    exact h.fin

theorem TcpArrival.Idealized.of_sameRecv {a : TcpArrival} (h : a.Idealized S D p)
    (hv : SameRecv q p) : a.Idealized S D q := by
  have hpos := streamPos_of_sameRecv (D := D) hv
  refine ⟨?_, ?_, ?_, h.len, h.syn, h.rst, ?_⟩
  · rw [hv.rcv]
    exact h.seq
  · rw [hpos]
    exact h.data
  · rw [hv.rcv]
    exact h.fits
  · rw [hpos]
    exact h.fin

/-- A connection that has just reached ESTABLISHED, with nothing received yet. -/
theorem recvInv_start (hs : p.state = .established) (hb : p.buf.length = 65535)
    (hw : p.rcv.wnd = 65535) (hn : p.rcv.nxt = p.irs + 1) : RecvInv S [] p := by
  have hu : unread p = [] := by simp [unread, hw]
  refine ⟨Or.inl hs, hb, by simp [hu], ?_, by simp [hs]⟩
  simp [streamPos, hu, hs, hn]

/-- The seventh step's copy of the next bytes of the stream, within the window: they join the
unread bytes, and `rcv.nxt` moves over them. -/
theorem RecvInv.append {data : List UInt8} (h : RecvInv S D p) (hest : p.state = .established)
    (hdata : data <+: S.drop (D ++ unread p).length) (hfits : data.length ≤ p.rcv.wnd.toNat)
    (hs : q.state = .established) (hi : q.irs = p.irs)
    (hb : q.buf = Buffer.writeAt p.buf (65535 - p.rcv.wnd.toNat) data)
    (hn : q.rcv.nxt = p.rcv.nxt + data.length.toUInt32)
    (hw : q.rcv.wnd = p.rcv.wnd - data.length.toUInt16) : RecvInv S D q := by
  have hwnd : q.rcv.wnd.toNat = p.rcv.wnd.toNat - data.length := by
    rw [hw, wnd_sub_toNat _ hfits]
  have hlt := p.rcv.wnd.toNat_lt
  have hbuf := h.buf_length
  -- the copy lands right after the unread bytes and stays inside the buffer
  have hu : unread q = unread p ++ data := by
    rw [unread, hb, hwnd, show 65535 - (p.rcv.wnd.toNat - data.length) =
      65535 - p.rcv.wnd.toNat + data.length by omega, Buffer.take_writeAt data (by omega)]
    rfl
  have hpos : streamPos D q = streamPos D p + data.length := by
    simp [streamPos, hu, hs, hest]
    omega
  refine ⟨Or.inl hs, ?_, ?_, ?_, by simp [hs]⟩
  · rw [hb, Buffer.length_writeAt_of_le data (by omega), h.buf_length]
  · -- the stream so far, then the next bytes of the stream
    rw [hu, ← List.append_assoc]
    have hS := List.prefix_iff_eq_append.mp h.isPrefix
    rw [← hS]
    exact (List.prefix_append_right_inj _).mpr hdata
  · rw [hn, hpos, hi, h.nxt]
    simp [UInt32.add_assoc]

/-- Taking in the FIN after the last byte of the stream: CLOSE_WAIT, and `rcv.nxt` one
further. -/
theorem RecvInv.finish (h : RecvInv S D p) (hest : p.state = .established)
    (hlen : (D ++ unread p).length = S.length) (hs : q.state = .closeWait) (hi : q.irs = p.irs)
    (hb : q.buf = p.buf) (hr : q.rcv = { p.rcv with nxt := p.rcv.nxt + 1 }) : RecvInv S D q := by
  have hu : unread q = unread p := by rw [unread, unread, hb, hr]
  have hpos : streamPos D q = streamPos D p + 1 := by
    simp [streamPos, hu, hs, hest]
  refine ⟨Or.inr hs, by rw [hb]; exact h.buf_length, by rw [hu]; exact h.isPrefix, ?_,
    fun _ => by rw [hu]; exact hlen⟩
  rw [hr, hpos, hi, h.nxt]
  simp [UInt32.add_assoc]

/-- `tcp_receive`'s copy of `len` unread bytes out of the front of `buf`: they move from the
unread bytes to the delivered ones, and the stream so far is the same. -/
theorem RecvInv.deliver {len : Nat} (h : RecvInv S D p) (hlen : len ≤ (unread p).length)
    (hs : q.state = p.state) (hi : q.irs = p.irs)
    (hb : q.buf = Buffer.writeAt p.buf 0 ((p.buf.drop len).take ((unread p).length - len)))
    (hr : q.rcv = { p.rcv with wnd := p.rcv.wnd + len.toUInt16 }) :
    RecvInv S (D ++ p.buf.take len) q := by
  have hrem := unread_length h.buf_length
  have hlt := p.rcv.wnd.toNat_lt
  have hwnd : q.rcv.wnd.toNat = p.rcv.wnd.toNat + len := by
    rw [hr]
    exact wnd_add_toNat _ (by omega)
  -- what is left unread is what followed the bytes copied out
  have hrest : ((p.buf.drop len).take ((unread p).length - len)).length = (unread p).length - len := by
    simp [h.buf_length]
    omega
  have hu : unread q = (p.buf.drop len).take ((unread p).length - len) := by
    have hk : 65535 - (p.rcv.wnd.toNat + len) =
        0 + ((p.buf.drop len).take ((unread p).length - len)).length := by
      rw [hrest]
      omega
    rw [unread, hb, hwnd, hk, Buffer.take_writeAt _ (Nat.zero_le _)]
    rfl
  have hsame : D ++ p.buf.take len ++ unread q = D ++ unread p := by
    rw [hu, List.append_assoc, ← List.take_add, Nat.add_sub_cancel' hlen, hrem]
    rfl
  have hpos : streamPos (D ++ p.buf.take len) q = streamPos D p := by
    rw [streamPos, streamPos, hsame, hs]
  refine ⟨by rw [hs]; exact h.state, ?_, by rw [hsame]; exact h.isPrefix, ?_,
    by rw [hsame, hs]; exact h.fin⟩
  · rw [hb, Buffer.length_writeAt_of_le _ (by rw [hrest, h.buf_length]; omega), h.buf_length]
  · rw [hpos, hi, ← h.nxt, hr]

end Stream

/-! ### An idealized segment through `tcp_segment_arrives`

Each step of the segment processing is followed with a PCB `p` whose receive side is the one
the step meets. -/

section Segment

variable {S D : List UInt8} {env : TcpEnv} {a : TcpArrival} {t : Tcp} {i : Fin TCP_PCB_SIZE}
  {p : TcpPcb}

/-- A FIN of an idealized segment meets an ESTABLISHED PCB: in CLOSE_WAIT the FIN is already in,
and a second one would lie past the end of the stream. -/
theorem TcpArrival.Idealized.fin_established (hid : a.Idealized S D p) (hinv : RecvInv S D p)
    (hf : TCP_FLG_ISSET a.flags TCP_FLG_FIN = true) :
    p.state = .established ∧ a.seg.seq = p.rcv.nxt ∧ (D ++ unread p).length = S.length := by
  obtain ⟨-, hpos⟩ := hid.fin hf
  rcases hinv.state with hs | hs
  · refine ⟨hs, hid.seq, ?_⟩
    simpa [streamPos, hs] using hpos
  · rw [streamPos, if_pos hs, hinv.fin hs] at hpos
    omega

theorem recvInv_tcpSegmentArrivesEighth (hinv : RecvInv S D p) (hv : SameRecv (t.pcbs i) p)
    (hfin : TCP_FLG_ISSET a.flags TCP_FLG_FIN = true →
      p.state = .established ∧ a.seg.seq = p.rcv.nxt ∧ (D ++ unread p).length = S.length) :
    RecvInv S D ((tcpSegmentArrivesEighth env a t i).pcbs i) := by
  unfold tcpSegmentArrivesEighth
  split_ifs with hf
  · obtain ⟨hest, hseq, hlen⟩ := hfin hf
    have hs : (t.pcbs i).state = .established := hv.state.trans hest
    simp only [hs, tcpOutput_state, Tcp.set_pcbs_self]
    exact hinv.finish hest hlen rfl (by simp [hv.irs]) (by simp [hv.buf]) (by simp [hv.rcv, hseq])
  · exact hinv.of_sameRecv hv

theorem recvInv_tcpSegmentArrivesSeventh (hinv : RecvInv S D p) (hid : a.Idealized S D p)
    (hv : SameRecv (t.pcbs i) p) : RecvInv S D ((tcpSegmentArrivesSeventh env a t i).pcbs i) := by
  have hfin := hid.fin_established hinv
  unfold tcpSegmentArrivesSeventh
  rcases hinv.state with hs | hs
  · simp only [hv.state, hs]
    split_ifs with hdata
    · -- the payload is the next bytes of the stream, and no FIN comes with it
      have hnofin : TCP_FLG_ISSET a.flags TCP_FLG_FIN = false := by
        cases hf : TCP_FLG_ISSET a.flags TCP_FLG_FIN
        · rfl
        · exact absurd (hid.fin hf).1 (List.ne_nil_of_length_pos (Nat.pos_of_ne_zero hdata))
      have hlen : a.seg.len.toUInt32 = a.data.length.toUInt32 := by
        rw [len_toUInt32, hid.len, hnofin]
        rfl
      refine recvInv_tcpSegmentArrivesEighth (hinv.append hs ?_ hid.fits rfl ?_ ?_ ?_ ?_)
        ((sameRecv_tcpOutput _ _ _ _ _ _).trans (by rw [Tcp.set_pcbs_self]; exact SameRecv.refl _))
        (by simp [hnofin])
      · simpa [streamPos, hs] using hid.data
      · exact hv.irs
      · rw [hv.buf, hv.rcv]
      · rw [← hid.seq, hlen]
      · rw [hv.rcv]
    · exact recvInv_tcpSegmentArrivesEighth hinv hv hfin
  · simp only [hv.state, hs]
    exact recvInv_tcpSegmentArrivesEighth hinv hv hfin

theorem recvInv_tcpSegmentArrivesAckState (hinv : RecvInv S D p) (hid : a.Idealized S D p)
    (hv : SameRecv (t.pcbs i) p) :
    RecvInv S D ((tcpSegmentArrivesAckState env a t i).pcbs i) := by
  unfold tcpSegmentArrivesAckState
  rcases hinv.state with hs | hs <;> simp only [hv.state, hs] <;>
    exact recvInv_tcpSegmentArrivesSeventh hinv hid hv

theorem recvInv_tcpSegmentArrivesAck (hinv : RecvInv S D p) (hid : a.Idealized S D p)
    (hv : SameRecv (t.pcbs i) p) : RecvInv S D ((tcpSegmentArrivesAck env a t i).pcbs i) := by
  unfold tcpSegmentArrivesAck
  dsimp only
  by_cases hadv : tcpAckAdvances (t.pcbs i).snd.una (t.pcbs i).snd.nxt a.seg.ack
  · -- the ACK moves `snd.una` and maybe the send window: the receive side stays
    rw [if_pos hadv]
    refine recvInv_tcpSegmentArrivesAckState hinv hid ?_
    rw [Tcp.set_pcbs_self]
    split_ifs <;> exact ⟨hv.state, hv.rcv, hv.irs, hv.buf⟩
  · rw [if_neg hadv]
    split_ifs
    · exact recvInv_tcpSegmentArrivesAckState hinv hid hv
    · -- an ACK beyond `snd.nxt` is answered and the segment dropped
      exact hinv.of_sameRecv ((sameRecv_tcpOutput _ _ _ _ _ _).trans hv)
    · exact recvInv_tcpSegmentArrivesAckState hinv hid hv

theorem recvInv_tcpSegmentArrivesFifth (hinv : RecvInv S D p) (hid : a.Idealized S D p)
    (hv : SameRecv (t.pcbs i) p) : RecvInv S D ((tcpSegmentArrivesFifth env a t i).pcbs i) := by
  unfold tcpSegmentArrivesFifth
  by_cases hack : (!TCP_FLG_ISSET a.flags TCP_FLG_ACK) = true
  · -- a segment without ACK is dropped
    rw [if_pos hack]
    exact hinv.of_sameRecv hv
  · rw [if_neg hack]
    rcases hinv.state with hs | hs <;> simp only [hv.state, hs] <;>
      exact recvInv_tcpSegmentArrivesAck hinv hid hv

theorem recvInv_tcpSegmentArrivesFirst (hinv : RecvInv S D p) (hid : a.Idealized S D p)
    (hv : SameRecv (t.pcbs i) p) : RecvInv S D ((tcpSegmentArrivesFirst env a t i).pcbs i) := by
  unfold tcpSegmentArrivesFirst tcpSegmentArrivesSecond tcpSegmentArrivesFourth
  dsimp only
  -- no RST and no SYN: the second and fourth steps pass the segment on
  simp only [hid.rst, hid.syn, Bool.false_eq_true, and_false, if_false]
  split_ifs
  · -- an unacceptable segment is answered with an ACK and dropped
    exact hinv.of_sameRecv ((sameRecv_tcpOutput _ _ _ _ _ _).trans hv)
  · exact recvInv_tcpSegmentArrivesFifth hinv hid hv

/-- An idealized segment that `tcp_pcb_select` hands to PCB `i` keeps its receive side a copy
of the stream. -/
theorem recvInv_tcpSegmentArrives (hsel : tcpPcbSelect t a.local_ (some a.foreign) = some i)
    (hinv : RecvInv S D (t.pcbs i)) (hid : a.Idealized S D (t.pcbs i)) :
    RecvInv S D ((tcpSegmentArrives env a t).pcbs i) := by
  unfold tcpSegmentArrives
  rcases hinv.state with hs | hs <;> simp only [hsel, hs] <;>
    exact recvInv_tcpSegmentArrivesFirst hinv hid (SameRecv.refl _)

end Segment

/-! ### `tcp_receive` -/

section Receive

variable {S D : List UInt8} {t : Tcp} {i : Fin TCP_PCB_SIZE} {p : TcpPcb}

theorem recvInv_tcpReceiveCopy (hinv : RecvInv S D p) (hv : SameRecv (t.pcbs i) p) (size : Nat) :
    RecvInv S (D ++ (tcpReceiveCopy t i size (65535 - (t.pcbs i).rcv.wnd.toNat)).2.bytes)
      ((tcpReceiveCopy t i size (65535 - (t.pcbs i).rcv.wnd.toNat)).1.pcbs i) := by
  have hrem : 65535 - (t.pcbs i).rcv.wnd.toNat = (unread p).length := by
    rw [hv.rcv, unread_length hinv.buf_length]
  simp only [tcpReceiveCopy, TcpResult.bytes, Tcp.set_pcbs_self, hrem, hv.buf]
  exact hinv.deliver (Nat.min_le_right _ _) hv.state hv.irs rfl (by rw [hv.rcv])

theorem recvInv_tcpReceiveRetry (hinv : RecvInv S D p) (hv : SameRecv (t.pcbs i) p) (size : Nat) :
    RecvInv S (D ++ (tcpReceiveRetry t i size).2.bytes) ((tcpReceiveRetry t i size).1.pcbs i) := by
  have hkeep : RecvInv S D (t.pcbs i) := hinv.of_sameRecv hv
  unfold tcpReceiveRetry
  dsimp only
  rcases hinv.state with hs | hs <;> simp only [hv.state, hs]
  · -- ESTABLISHED: with nothing unread the caller waits (or is interrupted)
    split_ifs
    · rcases tcpSleep_eq t i (.receive i size) (t, .ret (-1)) with h | ⟨ctx, h⟩ <;> rw [h]
      · simpa [TcpResult.bytes] using hkeep
      · simpa [TcpResult.bytes] using
          hinv.of_sameRecv (q := { t.pcbs i with ctx := ctx }) ⟨hv.state, hv.rcv, hv.irs, hv.buf⟩
    · exact recvInv_tcpReceiveCopy hinv hv size
  · -- CLOSE_WAIT: what is left, then the end of the stream
    split_ifs
    · exact recvInv_tcpReceiveCopy hinv hv size
    · simpa [TcpResult.bytes] using hkeep

/-- With the receive side a copy of the stream, `tcp_receive` asked for at least one byte
returns no bytes only when none is unread. -/
theorem tcpReceiveRetry_bytes_eq_nil (hinv : RecvInv S D p) (hv : SameRecv (t.pcbs i) p)
    {size : Nat} (hsize : 0 < size) (hr : (tcpReceiveRetry t i size).2.bytes = []) :
    unread p = [] := by
  have hlen := unread_length hinv.buf_length
  by_contra hne
  have hrem : 65535 - (t.pcbs i).rcv.wnd.toNat ≠ 0 := by
    rw [hv.rcv, ← hlen]
    exact fun h => hne (List.eq_nil_of_length_eq_zero h)
  -- in both states, unread bytes are copied out
  have hcopy : tcpReceiveRetry t i size = tcpReceiveCopy t i size (65535 - (t.pcbs i).rcv.wnd.toNat) := by
    unfold tcpReceiveRetry
    rcases hinv.state with hs | hs <;> simp [hv.state, hs, hrem]
  rw [hcopy] at hr
  simp only [tcpReceiveCopy, TcpResult.bytes, List.take_eq_nil_iff, hv.buf] at hr
  have hb := hinv.buf_length
  rcases hr with hr | hr
  · omega
  · simp [hr] at hb

/-- A waiting `tcp_receive` goes on: the wait context changes, and the call returns `-1` or reads
as from its `RETRY:` label. -/
theorem tcpResume_receive (env : TcpEnv) (t : Tcp) (i : Fin TCP_PCB_SIZE) (size : Nat) :
    ∃ t₁ : Tcp, SameRecv (t₁.pcbs i) (t.pcbs i) ∧
      (tcpResume env t (.receive i size) = (t₁, .ret (-1)) ∨
        tcpResume env t (.receive i size) = tcpReceiveRetry t₁ i size) := by
  refine ⟨t.set i { t.pcbs i with ctx := (schedSleepResume (t.pcbs i).ctx).1 },
    by rw [Tcp.set_pcbs_self]; exact ⟨rfl, rfl, rfl, rfl⟩, ?_⟩
  unfold tcpResume
  dsimp only [TcpWait.pcb]
  split_ifs
  · exact Or.inl rfl
  · exact Or.inr rfl

end Receive

/-! ### Runs of one connection -/

/-- `e` is `tcp_receive` on PCB `i` for `size` bytes: the call, or a waiting call going on. -/
def ReceiveEvent (i : Fin TCP_PCB_SIZE) (s : TcpSystem) (e : TcpEvent) (size : Nat) : Prop :=
  e = .command (.receive (tcpPcbId i) size) ∨ ∃ k, e = .resume k ∧ s.waits[k]? = some (.receive i size)

/-- One step of the receive side of the connection on PCB `i`, whose peer sends `S`, with the
bytes `tcp_receive` has returned so far: an idealized segment that `tcp_pcb_select` hands to
PCB `i`, or `tcp_receive` on it. -/
inductive StreamStep (S : List UInt8) (i : Fin TCP_PCB_SIZE) :
    TcpSystem × List UInt8 → TcpSystem × List UInt8 → Prop
  | segment {env : TcpEnv} {a : TcpArrival} {s s' : TcpSystem} {D : List UInt8}
      (hsel : tcpPcbSelect s.tcp a.local_ (some a.foreign) = some i)
      (hid : a.Idealized S D (s.tcp.pcbs i)) (h : tcpStep env s (.segment a) = some (s', none)) :
      StreamStep S i (s, D) (s', D)
  | receive {env : TcpEnv} {e : TcpEvent} {size : Nat} {s s' : TcpSystem} {r : TcpResult}
      {D : List UInt8} (he : ReceiveEvent i s e size) (h : tcpStep env s e = some (s', some r)) :
      StreamStep S i (s, D) (s', D ++ r.bytes)

section Run

variable {S D : List UInt8} {i : Fin TCP_PCB_SIZE} {env : TcpEnv} {e : TcpEvent} {size : Nat}
  {s s' : TcpSystem} {r : TcpResult}

/-- What a `tcp_receive` step on a live PCB does: after at most a change of wait context, the
call returns `-1` or reads from its `RETRY:` label. -/
theorem tcpStep_receive (hlive : (s.tcp.pcbs i).state ≠ .free) (he : ReceiveEvent i s e size)
    (h : tcpStep env s e = some (s', some r)) :
    ∃ t₁ : Tcp, SameRecv (t₁.pcbs i) (s.tcp.pcbs i) ∧
      ((s'.tcp = t₁ ∧ r = .ret (-1)) ∨ (s'.tcp, r) = tcpReceiveRetry t₁ i size) := by
  rcases he with rfl | ⟨k, rfl, hk⟩
  · simp only [tcpStep, tcpCommand, Option.some.injEq, Prod.mk.injEq] at h
    obtain ⟨rfl, rfl⟩ := h
    refine ⟨s.tcp, SameRecv.refl _, Or.inr ?_⟩
    simp [tcpReceive, tcpPcbGet_tcpPcbId hlive]
  · simp only [tcpStep, hk, Option.some.injEq, Prod.mk.injEq] at h
    obtain ⟨rfl, rfl⟩ := h
    obtain ⟨t₁, hv, hres | hres⟩ := tcpResume_receive env s.tcp i size
    · exact ⟨t₁, hv, Or.inl (by simp [hres])⟩
    · exact ⟨t₁, hv, Or.inr (by simp [hres])⟩

/-- One step of the connection keeps its receive side a copy of the stream. -/
theorem recvInv_streamStep {x y : TcpSystem × List UInt8} (h : StreamStep S i x y)
    (hinv : RecvInv S x.2 (x.1.tcp.pcbs i)) : RecvInv S y.2 (y.1.tcp.pcbs i) := by
  have hlive (s : TcpSystem) (D : List UInt8) (hi : RecvInv S D (s.tcp.pcbs i)) :
      (s.tcp.pcbs i).state ≠ .free := by
    rcases hi.state with hs | hs <;> rw [hs] <;> decide
  cases h with
  | segment hsel hid h =>
    simp only [tcpStep, Option.some.injEq, Prod.mk.injEq] at h
    obtain ⟨rfl, -⟩ := h
    exact recvInv_tcpSegmentArrives hsel hinv hid
  | @receive _ _ size _ _ _ _ he h =>
    obtain ⟨t₁, hv, ⟨ht, rfl⟩ | hres⟩ := tcpStep_receive (hlive _ _ hinv) he h
    · simpa [ht, TcpResult.bytes] using hinv.of_sameRecv hv
    · have := recvInv_tcpReceiveRetry hinv hv size
      rw [← hres] at this
      exact this

/-- In a state where the receive side is a copy of the stream, `tcp_receive` for at least one
byte reports the end of the stream (`0`, or no bytes) only when no byte is unread. -/
theorem receive_zero_of_recvInv (hinv : RecvInv S D (s.tcp.pcbs i)) (he : ReceiveEvent i s e size)
    (hsize : 0 < size) (h : tcpStep env s e = some (s', some r))
    (hr : r = .ret 0 ∨ r = .received []) : unread (s.tcp.pcbs i) = [] := by
  have hlive : (s.tcp.pcbs i).state ≠ .free := by
    rcases hinv.state with hs | hs <;> rw [hs] <;> decide
  obtain ⟨t₁, hv, ⟨-, rfl⟩ | hres⟩ := tcpStep_receive hlive he h
  · simp at hr
  · refine tcpReceiveRetry_bytes_eq_nil hinv hv hsize ?_
    rw [← hres]
    rcases hr with rfl | rfl <;> rfl

end Run

/-- For idealized segments, interleaved with any `tcp_receive` calls, on a connection that
reached ESTABLISHED: the bytes returned and then those unread are a prefix of the peer's stream,
`rcv.nxt` is `irs + 1` past them (and past the FIN once it is in), and a `tcp_receive` for at
least one byte reports the end of the stream only when nothing is unread. -/
theorem tcp_receive_stream_in_order {S : List UInt8} {i : Fin TCP_PCB_SIZE}
    {x y : TcpSystem × List UInt8} (h0 : RecvInv S x.2 (x.1.tcp.pcbs i))
    (hrun : Relation.ReflTransGen (StreamStep S i) x y) :
    RecvInv S y.2 (y.1.tcp.pcbs i) ∧
      ∀ (env : TcpEnv) (e : TcpEvent) (size : Nat) (s' : TcpSystem) (r : TcpResult),
        ReceiveEvent i y.1 e size → 0 < size → tcpStep env y.1 e = some (s', some r) →
          (r = .ret 0 ∨ r = .received []) → unread (y.1.tcp.pcbs i) = [] := by
  have hinv : RecvInv S y.2 (y.1.tcp.pcbs i) :=
    Transition.stable (P := fun z => RecvInv S z.2 (z.1.tcp.pcbs i))
      (fun _ _ hx hstep => recvInv_streamStep hstep hx) hrun h0
  exact ⟨hinv, fun _ _ _ _ _ he hsize h hr => receive_zero_of_recvInv hinv he hsize h hr⟩

/-- The peer's stream of the examples below: five bytes, byte `k` with sequence number
`501 + k`. -/
def peerStream : List UInt8 := [1, 2, 3, 4, 5]

/-- PCB 0 ESTABLISHED from `10.0.0.1:7` to `10.0.0.2:5000`, as a passive open and the handshake
with `irs = 500` leave it, nothing received yet. -/
def streamStartPcb : TcpPcb :=
  { TcpPcb.zero with
    state := .established, mode := .rfc793, local_ := ⟨0x0100000a, 7⟩,
    foreign := ⟨0x0200000a, 5000⟩, snd := ⟨1001, 1001, 100, 501, 1001⟩, iss := 1000,
    rcv := ⟨501, 65535⟩, irs := 500 }

/-- The layer with that one connection, nobody waiting. -/
def streamStart : TcpSystem := ⟨Tcp.init.set 0 streamStartPcb, []⟩

/-- The first three bytes of the stream, at `rcv.nxt`. -/
def streamSegment : TcpArrival :=
  ⟨⟨501, 1001, 3, 100⟩, TCP_FLG_ACK, [1, 2, 3], ⟨0x0100000a, 7⟩, ⟨0x0200000a, 5000⟩⟩

/-- The first three bytes arrive, then `tcp_receive` asks for two of them. -/
theorem tcp_receive_stream_first_bytes :
    RecvInv peerStream
      ([] ++ (tcpReceive (tcpSegmentArrives partialAckEnv streamSegment streamStart.tcp)
        (tcpPcbId 0) 2).2.bytes)
      ((tcpReceive (tcpSegmentArrives partialAckEnv streamSegment streamStart.tcp)
        (tcpPcbId 0) 2).1.pcbs 0) := by
  have h0 : RecvInv peerStream [] (streamStart.tcp.pcbs 0) :=
    recvInv_start (by decide) (by simp only [streamStart, Tcp.set_pcbs_self, streamStartPcb, TcpPcb.zero,
      List.length_replicate]) (by decide)
      (by decide)
  have hid : streamSegment.Idealized peerStream [] (streamStart.tcp.pcbs 0) :=
    ⟨by decide, by decide, by decide, by decide, by decide, by decide, by decide⟩
  have hseg := StreamStep.segment (by decide) hid
    (show tcpStep partialAckEnv streamStart (.segment streamSegment) = some (_, none) from rfl)
  have hrecv := StreamStep.receive (S := peerStream) (D := []) (Or.inl rfl)
    (show tcpStep partialAckEnv ⟨tcpSegmentArrives partialAckEnv streamSegment streamStart.tcp, []⟩
      (.command (.receive (tcpPcbId 0) 2)) = some (_, some _) from rfl)
  exact (tcp_receive_stream_in_order h0 (Relation.ReflTransGen.single hseg |>.tail hrecv)).1

/-- A passive open on `10.0.0.1:7` and the handshake with `10.0.0.2:5000` (`irs = 500`), then a
segment with the last two bytes of the stream at their own sequence number `504`, before the
first three have come. -/
def tcpOutOfOrderRun : List (TcpEnv × TcpEvent) :=
  let l : IpEndpoint := ⟨0x0100000a, 7⟩
  let f : IpEndpoint := ⟨0x0200000a, 5000⟩
  [(partialAckEnv, .command (.openRfc793 l (.passive none))),
   (partialAckEnv, .segment ⟨⟨500, 0, 1, 100⟩, TCP_FLG_SYN, [], l, f⟩),
   (partialAckEnv, .segment ⟨⟨501, 1001, 0, 100⟩, TCP_FLG_ACK, [], l, f⟩),
   (partialAckEnv, .resume 0),
   (partialAckEnv, .segment ⟨⟨504, 1001, 2, 100⟩, TCP_FLG_ACK, [4, 5], l, f⟩)]

/-- The segment is accepted and copied to the front of `buf`: `tcp_receive` has returned
nothing, and the unread bytes `[4, 5]` are not a prefix of the stream; `rcv.nxt` is `506`. -/
theorem tcp_receive_out_of_order :
    (tcpRun TcpSystem.init tcpOutOfOrderRun).map (fun p =>
        ((p.1.tcp.pcbs 0).state, p.2.flatMap TcpResult.bytes, unread (p.1.tcp.pcbs 0),
          (p.1.tcp.pcbs 0).rcv.nxt)) =
      some (.established, [], [4, 5], 506) ∧ ¬ ([] ++ [4, 5] <+: peerStream) := by
  decide

end Microps
