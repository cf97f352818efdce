import Microps.Model.Tcp.Segment
import Microps.Spec.Rfc793

/-!
# The code's sequence-number tests against RFC 793's

`tcp_segment_arrives` and `tcp_retransmit_queue_cleanup` compare sequence numbers as plain
`uint32_t` values, with sums that wrap at `2^32`. RFC 793 compares them in sequence space.
The two agree exactly when the values compared have not wrapped between one another: as plain
numbers (sums computed without wrapping) they are below `2^32` and less than `2^31` apart, which
is `SerialArith.Close`. Near the wrap point they disagree even when the values are close in
sequence space: `tcpSegmentAcceptable_wrap` is a window that spans `2^32`.

Each test gets its lemma; `tcp_seq_tests_agree_rfc793` collects them.
-/

set_option autoImplicit false

namespace Microps

open SerialArith

/-- The numbers the acceptability test compares: `rcv.nxt`, `seg.seq`, the end of the window
and, for a segment that takes sequence space, its last sequence number. -/
def acceptableQuantities (rcvNxt : UInt32) (rcvWnd : UInt16) (seq : UInt32) (len : UInt16) :
    List Nat :=
  [rcvNxt.toNat, seq.toNat, rcvNxt.toNat + rcvWnd.toNat] ++
    (if len = 0 then [] else [seq.toNat + len.toNat - 1])

/-- The acceptability test is RFC 793's when its quantities have not wrapped. -/
theorem tcpSegmentAcceptable_iff {rcvNxt : UInt32} {rcvWnd : UInt16} {seq : UInt32}
    {len : UInt16} (h : Close (acceptableQuantities rcvNxt rcvWnd seq len)) :
    tcpSegmentAcceptable rcvNxt rcvWnd seq len = true ↔ Rfc793.acceptable rcvNxt rcvWnd seq len := by
  have hmem : ∀ x ∈ [rcvNxt.toNat, seq.toNat, rcvNxt.toNat + rcvWnd.toNat],
      x ∈ acceptableQuantities rcvNxt rcvWnd seq len := by
    intro x hx
    exact List.mem_append_left _ hx
  -- the end of the window does not wrap
  have hend : (rcvNxt + rcvWnd.toUInt32).toNat = rcvNxt.toNat + rcvWnd.toNat := by
    rw [h.toNat_add (by rw [UInt16.toNat_toUInt32]; exact hmem _ (by simp)),
      UInt16.toNat_toUInt32]
  have hnxt := hmem _ (by simp : rcvNxt.toNat ∈ _)
  have hseq := hmem _ (by simp : seq.toNat ∈ _)
  have hendm : (rcvNxt + rcvWnd.toUInt32).toNat ∈ acceptableQuantities rcvNxt rcvWnd seq len := by
    rw [hend]; exact hmem _ (by simp)
  -- the first-byte test, shared by both cases
  have hfirst : (rcvNxt ≤ seq ∧ seq < rcvNxt + rcvWnd.toUInt32) ↔
      (seqLe rcvNxt seq ∧ seqLt seq (rcvNxt + rcvWnd.toUInt32)) := by
    rw [h.le_iff hnxt hseq, h.lt_iff hseq hendm]
  unfold tcpSegmentAcceptable Rfc793.acceptable
  by_cases hlen : len = 0
  · by_cases hwnd : rcvWnd = 0
    · simp [hlen, hwnd]
    · simp only [hlen, hwnd, if_true, if_false, decide_eq_true_eq]
      exact hfirst
  · by_cases hwnd : rcvWnd = 0
    · simp [hlen, hwnd]
    · -- the last byte of the segment does not wrap either
      have hpos : 0 < len.toUInt32.toNat := by
        rw [UInt16.toNat_toUInt32]
        exact Nat.pos_of_ne_zero (fun h0 => hlen (UInt16.toNat_inj.mp h0))
      have hlastm : (seq + len.toUInt32 - 1).toNat ∈ acceptableQuantities rcvNxt rcvWnd seq len := by
        rw [h.toNat_add_sub_one hpos (by simp [acceptableQuantities, hlen]), UInt16.toNat_toUInt32]
        simp [acceptableQuantities, hlen]
      simp only [hlen, hwnd, if_false, decide_eq_true_eq]
      rw [hfirst, h.le_iff hnxt hlastm, h.lt_iff hlastm hendm]

/-- The counterexample near the wrap point: a window from `0xfffffff0` of `0x100` sequence
numbers holds `0x10` in sequence space (it is `0x20` past `rcv.nxt` and before the window's
end), but the plain comparison `rcv.nxt <= seg.seq` fails. -/
theorem tcpSegmentAcceptable_wrap :
    seqLt 0xfffffff0 0x10 ∧ seqLt 0x10 (0xfffffff0 + (0x100 : UInt16).toUInt32) ∧
      Rfc793.acceptable 0xfffffff0 0x100 0x10 0 ∧ tcpSegmentAcceptable 0xfffffff0 0x100 0x10 0 = false := by
  decide

section AckTests

variable {a b c : UInt32}

/-- SYN_SENT's test for an ACK that does not acknowledge our SYN. -/
theorem tcpSynSentAckBad_iff (h : Close [a.toNat, b.toNat, c.toNat]) :
    tcpSynSentAckBad a b c ↔ Rfc793.synSentAckBad a b c := by
  unfold tcpSynSentAckBad Rfc793.synSentAckBad
  rw [h.le_iff (by simp) (by simp), gt_iff_lt, h.lt_iff (by simp) (by simp)]

/-- The test for an ACK in `[snd.una, snd.nxt]` (SYN_SENT, SYN_RECEIVED). -/
theorem tcpAckInRange_iff (h : Close [a.toNat, b.toNat, c.toNat]) :
    tcpAckInRange a b c ↔ Rfc793.ackInRange a b c := by
  unfold tcpAckInRange Rfc793.ackInRange
  rw [h.le_iff (by simp) (by simp), h.le_iff (by simp) (by simp)]

/-- The test for an ACK in `(snd.una, snd.nxt]`, and the two tests that follow it for a
duplicate ACK and for an ACK of something not yet sent. -/
theorem tcpAckAdvances_iff (h : Close [a.toNat, b.toNat, c.toNat]) :
    (tcpAckAdvances a b c ↔ Rfc793.ackAdvances a b c) ∧ (c < a ↔ seqLt c a) ∧
      (c > b ↔ seqLt b c) := by
  unfold tcpAckAdvances Rfc793.ackAdvances
  refine ⟨?_, h.lt_iff (by simp) (by simp), h.lt_iff (by simp) (by simp)⟩
  rw [h.lt_iff (by simp) (by simp), h.le_iff (by simp) (by simp)]

end AckTests

/-- The send-window update test, each comparison between values that have not wrapped. -/
theorem tcpWindowUpdate_iff {wl1 wl2 seq ack : UInt32} (h1 : Close [wl1.toNat, seq.toNat])
    (h2 : Close [wl2.toNat, ack.toNat]) :
    tcpWindowUpdate wl1 wl2 seq ack ↔ Rfc793.windowUpdate wl1 wl2 seq ack := by
  unfold tcpWindowUpdate Rfc793.windowUpdate
  rw [h1.lt_iff (by simp) (by simp), h2.le_iff (by simp) (by simp)]

/-- The cutoff of `tcp_retransmit_queue_cleanup`: when no entry's start has wrapped against
`snd.una`, the cleanup drops exactly the leading entries that start before `snd.una` in
sequence space. -/
theorem tcpRetransmitQueueCleanup_eq_dropWhile (una : UInt32) :
    ∀ queue : List TcpQueueEntry, (∀ e ∈ queue, Close [e.seq.toNat, una.toNat]) →
      tcpRetransmitQueueCleanup una queue = queue.dropWhile (fun e => decide (seqLt e.seq una))
  | [], _ => rfl
  | e :: rest, h => by
    have hclose := h e List.mem_cons_self
    have hlt : e.seq < una ↔ seqLt e.seq una := hclose.lt_iff (by simp) (by simp)
    have hge : e.seq ≥ una ↔ ¬ e.seq < una := by
      rw [ge_iff_le, UInt32.le_iff_toNat_le, UInt32.lt_iff_toNat_lt]
      omega
    by_cases hkeep : e.seq ≥ una
    · have hnot : ¬ seqLt e.seq una := fun hs => hge.mp hkeep (hlt.mpr hs)
      simp [tcpRetransmitQueueCleanup, hkeep, hnot]
    · have hs : seqLt e.seq una := hlt.mp (Classical.byContradiction fun hn => hkeep (hge.mpr hn))
      rw [tcpRetransmitQueueCleanup, if_neg hkeep, List.dropWhile_cons_of_pos (by simpa using hs)]
      exact tcpRetransmitQueueCleanup_eq_dropWhile una rest
        (fun e' he' => h e' (List.mem_cons_of_mem e he'))

/-- Every sequence-number test of `tcp_segment_arrives` and the cutoff of
`tcp_retransmit_queue_cleanup` agree with RFC 793's test in sequence space whenever the
quantities compared, as plain numbers with their sums computed without wrapping, are below
`2^32` and less than `2^31` apart. -/
theorem tcp_seq_tests_agree_rfc793 :
    (∀ (rcvNxt : UInt32) (rcvWnd : UInt16) (seq : UInt32) (len : UInt16),
      Close (acceptableQuantities rcvNxt rcvWnd seq len) →
        (tcpSegmentAcceptable rcvNxt rcvWnd seq len = true ↔
          Rfc793.acceptable rcvNxt rcvWnd seq len)) ∧
    (∀ iss sndNxt ack : UInt32, Close [iss.toNat, sndNxt.toNat, ack.toNat] →
      (tcpSynSentAckBad iss sndNxt ack ↔ Rfc793.synSentAckBad iss sndNxt ack)) ∧
    (∀ iss una : UInt32, Close [iss.toNat, una.toNat] → (iss < una ↔ seqLt iss una)) ∧
    (∀ una nxt ack : UInt32, Close [una.toNat, nxt.toNat, ack.toNat] →
      (tcpAckInRange una nxt ack ↔ Rfc793.ackInRange una nxt ack) ∧
      (tcpAckAdvances una nxt ack ↔ Rfc793.ackAdvances una nxt ack) ∧
      (ack < una ↔ seqLt ack una) ∧ (ack > nxt ↔ seqLt nxt ack)) ∧
    (∀ wl1 wl2 seq ack : UInt32, Close [wl1.toNat, seq.toNat] → Close [wl2.toNat, ack.toNat] →
      (tcpWindowUpdate wl1 wl2 seq ack ↔ Rfc793.windowUpdate wl1 wl2 seq ack)) ∧
    (∀ (una : UInt32) (queue : List TcpQueueEntry), (∀ e ∈ queue, Close [e.seq.toNat, una.toNat]) →
      tcpRetransmitQueueCleanup una queue = queue.dropWhile (fun e => decide (seqLt e.seq una))) := by
  refine ⟨fun _ _ _ _ h => tcpSegmentAcceptable_iff h, fun _ _ _ h => tcpSynSentAckBad_iff h,
    fun _ _ h => h.lt_iff (by simp) (by simp), fun _ _ _ h => ?_, fun _ _ _ _ h1 h2 =>
    tcpWindowUpdate_iff h1 h2, tcpRetransmitQueueCleanup_eq_dropWhile⟩
  exact ⟨tcpAckInRange_iff h, tcpAckAdvances_iff h⟩

end Microps
