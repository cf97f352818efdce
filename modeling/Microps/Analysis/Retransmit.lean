import Microps.Model.Tcp.System

/-!
# What the retransmission queue holds

An entry of the queue holds the sequence numbers from its `seq` on: one for each payload byte,
and one each for SYN and FIN. RFC 793 removes an entry once all of them are acknowledged.
`tcp_retransmit_queue_cleanup` compares only the start of the oldest entry with `snd.una`
(`tcpRetransmitQueueCleanup_eq_dropWhile_lt`), so an acknowledgement that ends inside an
entry removes the whole entry. `tcp_partial_ack_run` is a connection where that happens: the
peer acknowledges five of ten bytes and the other five are then held by no entry, although
they lie in `[snd.una, snd.nxt)`.
-/

set_option autoImplicit false

namespace Microps

/-- The amount of sequence space an entry holds. -/
def TcpQueueEntry.seqLen (e : TcpQueueEntry) : Nat :=
  e.data.length + (if TCP_FLG_ISSET e.flg TCP_FLG_SYN then 1 else 0) +
    (if TCP_FLG_ISSET e.flg TCP_FLG_FIN then 1 else 0)

/-- Sequence number `n` is held by some entry of the queue (`e.seq <= n < e.seq + seqLen`,
counted modulo `2^32`). -/
def TcpQueueCovers (queue : List TcpQueueEntry) (n : UInt32) : Prop :=
  ∃ e ∈ queue, (n - e.seq).toNat < e.seqLen

instance (queue : List TcpQueueEntry) (n : UInt32) : Decidable (TcpQueueCovers queue n) :=
  inferInstanceAs (Decidable (∃ e ∈ queue, _))

/-- The cleanup drops the longest prefix of entries that start before `snd.una`, whatever
their length. -/
theorem tcpRetransmitQueueCleanup_eq_dropWhile_lt (una : UInt32) (queue : List TcpQueueEntry) :
    tcpRetransmitQueueCleanup una queue = queue.dropWhile (fun e => decide (e.seq < una)) := by
  induction queue with
  | nil => rfl
  | cons e rest ih =>
    have hge : e.seq ≥ una ↔ ¬ e.seq < una := by
      rw [ge_iff_le, UInt32.le_iff_toNat_le, UInt32.lt_iff_toNat_lt]
      omega
    by_cases hkeep : e.seq ≥ una
    · simp [tcpRetransmitQueueCleanup, hkeep, hge.mp hkeep]
    · have hlt : e.seq < una := Classical.byContradiction fun hn => hkeep (hge.mpr hn)
      rw [tcpRetransmitQueueCleanup, if_neg hkeep, ih, List.dropWhile_cons_of_pos (by simpa using hlt)]

/-- The environment of the run below: `random()` gives 1000, allocations and output succeed,
and the route to the local address has an MTU of 1500. -/
def partialAckEnv : TcpEnv :=
  ⟨1000, ⟨0, 0⟩, true, fun _ => true, fun _ => some ⟨0x0100000a, 0x00ffffff, 0xff00000a, 1500⟩,
    fun _ => 0, pthreadCondDestroy_success_ne⟩

/-- A passive open on `10.0.0.1:7`, the handshake with `10.0.0.2:5000` (whose window is 100),
ten bytes sent, and an acknowledgement of the first five of them. -/
def tcpPartialAckRun : List (TcpEnv × TcpEvent) :=
  let l : IpEndpoint := ⟨0x0100000a, 7⟩
  let f : IpEndpoint := ⟨0x0200000a, 5000⟩
  [(partialAckEnv, .command (.openRfc793 l (.passive none))),
   (partialAckEnv, .segment ⟨⟨500, 0, 1, 100⟩, TCP_FLG_SYN, [], l, f⟩),
   (partialAckEnv, .segment ⟨⟨501, 1001, 0, 100⟩, TCP_FLG_ACK, [], l, f⟩),
   (partialAckEnv, .resume 0),
   (partialAckEnv, .command (.send 0 [1, 2, 3, 4, 5, 6, 7, 8, 9, 10])),
   (partialAckEnv, .segment ⟨⟨501, 1006, 0, 100⟩, TCP_FLG_ACK, [], l, f⟩)]

/-- After the partial acknowledgement `snd.una` is 1006 and `snd.nxt` is 1011, but no entry of
the queue holds sequence number 1006: the entry for all ten bytes is gone. -/
theorem tcp_partial_ack_run :
    (tcpRun TcpSystem.init tcpPartialAckRun).map (fun p =>
      ((p.1.tcp.pcbs 0).snd.una, (p.1.tcp.pcbs 0).snd.nxt,
        decide (TcpQueueCovers (p.1.tcp.pcbs 0).queue 1006))) = some (1006, 1011, false) := by
  decide

end Microps
