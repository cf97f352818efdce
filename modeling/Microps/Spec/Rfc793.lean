import Microps.Lib.SerialArith
import Mathlib.Logic.Relation

/-!
# What RFC 793 asks of a TCP

Two parts of the specification the implementation is checked against, stated on their own
terms.

The sequence-number tests of section 3.9 (SEGMENT ARRIVES), in sequence space: all arithmetic
on sequence numbers is modulo `2^32` and `a < b` means `SerialArith.seqLt a b`.

The state diagram of section 3.2 with the transitions section 3.9 adds. An edge is labelled
with what drives it: an arriving segment, a user call, or a timeout. Every state can go to
CLOSED whatever drives it, since a connection can always be reset, aborted or timed out. The
one transition the RFC does not draw is `spawn`: an implementation that gives each connection
a listener accepts its own TCB goes from no TCB (CLOSED) straight to SYN-RECEIVED, taking the
LISTEN → SYN-RECEIVED edge on behalf of the listener.

A segment is processed in steps and may take several edges, but it deals with one connection:
it may create the TCB (leaving CLOSED, first) and may end it (entering CLOSED, last), and in
between it follows edges among the states of a live connection (`Advance`).
-/

set_option autoImplicit false

namespace Rfc793

open SerialArith

/-! ## Sequence-number tests -/

/-- The four-case acceptability test of an arriving segment. -/
def acceptable (rcvNxt : UInt32) (rcvWnd : UInt16) (seq : UInt32) (len : UInt16) : Prop :=
  if len = 0 then
    if rcvWnd = 0 then seq = rcvNxt
    else seqLe rcvNxt seq ∧ seqLt seq (rcvNxt + rcvWnd.toUInt32)
  else if rcvWnd = 0 then False
  else (seqLe rcvNxt seq ∧ seqLt seq (rcvNxt + rcvWnd.toUInt32)) ∨
    (seqLe rcvNxt (seq + len.toUInt32 - 1) ∧ seqLt (seq + len.toUInt32 - 1) (rcvNxt + rcvWnd.toUInt32))

instance (rcvNxt : UInt32) (rcvWnd : UInt16) (seq : UInt32) (len : UInt16) :
    Decidable (acceptable rcvNxt rcvWnd seq len) :=
  inferInstanceAs (Decidable (if len = 0 then _ else _))

/-- SYN-SENT: "If SEG.ACK =< ISS, or SEG.ACK > SND.NXT, send a reset". -/
def synSentAckBad (iss sndNxt ack : UInt32) : Prop := seqLe ack iss ∨ seqLt sndNxt ack

/-- "SND.UNA =< SEG.ACK =< SND.NXT": SYN-SENT's acceptable ACK, SYN-RECEIVED's test. -/
def ackInRange (una nxt ack : UInt32) : Prop := seqLe una ack ∧ seqLe ack nxt

/-- "SND.UNA < SEG.ACK =< SND.NXT": an ACK that advances SND.UNA. -/
def ackAdvances (una nxt ack : UInt32) : Prop := seqLt una ack ∧ seqLe ack nxt

/-- "SND.WL1 < SEG.SEQ or (SND.WL1 = SEG.SEQ and SND.WL2 =< SEG.ACK)". -/
def windowUpdate (wl1 wl2 seq ack : UInt32) : Prop := seqLt wl1 seq ∨ (wl1 = seq ∧ seqLe wl2 ack)

/-! ## The state diagram -/

/-- The states of a connection; CLOSED is also "no TCB". -/
inductive State
  | closed | listen | synSent | synReceived | established
  | finWait1 | finWait2 | closing | timeWait | closeWait | lastAck
  deriving DecidableEq, Repr

/-- What drives a transition. -/
inductive Cause
  | segment | user | timeout
  deriving DecidableEq, Repr

/-- The transitions of the diagram, by cause. -/
inductive Edge : Cause → State → State → Prop
  /-- Reset, abort, user timeout, or deleting the TCB. -/
  | close (c : Cause) (s : State) : Edge c s .closed
  | passiveOpen : Edge .user .closed .listen
  | activeOpen : Edge .user .closed .synSent
  | send : Edge .user .listen .synSent
  | closeSynReceived : Edge .user .synReceived .finWait1
  | closeEstablished : Edge .user .established .finWait1
  | closeCloseWait : Edge .user .closeWait .lastAck
  | rcvSyn : Edge .segment .listen .synReceived
  | spawn : Edge .segment .closed .synReceived
  | rcvSynSimultaneous : Edge .segment .synSent .synReceived
  | rcvSynAck : Edge .segment .synSent .established
  | rcvAckOfSyn : Edge .segment .synReceived .established
  | rcvRstPassive : Edge .segment .synReceived .listen
  | rcvFinEstablished : Edge .segment .established .closeWait
  | rcvAckOfFin : Edge .segment .finWait1 .finWait2
  | rcvFinFinWait1 : Edge .segment .finWait1 .closing
  | rcvFinAckFinWait1 : Edge .segment .finWait1 .timeWait
  | rcvFinFinWait2 : Edge .segment .finWait2 .timeWait
  | rcvAckOfFinClosing : Edge .segment .closing .timeWait
  | rcvAckOfFinLastAck : Edge .segment .lastAck .closed
  | timeWaitExpires : Edge .timeout .timeWait .closed

/-- A segment edge between two states of a live connection: neither from nor to CLOSED. -/
def Advance (s s' : State) : Prop :=
  Edge .segment s s' ∧ s ≠ .closed ∧ s' ≠ .closed

/-- What one segment may do to a connection: follow segment edges among the states of a live
connection, after, for a new TCB, one edge out of CLOSED, and before, when it ends the
connection, one edge into CLOSED. -/
def SegmentChange (s s' : State) : Prop :=
  ∃ m m', (m = s ∨ (s = .closed ∧ Edge .segment s m)) ∧ Relation.ReflTransGen Advance m m' ∧
    (s' = m' ∨ (s' = .closed ∧ Edge .segment m' s'))

/-- A change one event may make: for a segment, a `SegmentChange`; for a call or a timeout,
none or one edge of its kind. -/
def Change (c : Cause) (s s' : State) : Prop :=
  match c with
  | .segment => SegmentChange s s'
  | _ => s = s' ∨ Edge c s s'

theorem Change.refl (c : Cause) (s : State) : Change c s s := by
  cases c with
  | segment => exact ⟨s, s, .inl rfl, .refl, .inl rfl⟩
  | user => exact Or.inl rfl
  | timeout => exact Or.inl rfl

/-- A segment edge is a segment change: out of CLOSED first, into CLOSED last, or between live
states. -/
theorem SegmentChange.of_edge {s s' : State} (h : Edge .segment s s') : SegmentChange s s' := by
  by_cases hs : s = .closed
  · exact ⟨s', s', .inr ⟨hs, h⟩, .refl, .inl rfl⟩
  · by_cases hs' : s' = .closed
    · exact ⟨s, s, .inl rfl, .refl, .inr ⟨hs', h⟩⟩
    · exact ⟨s, s', .inl rfl, .single ⟨h, hs, hs'⟩, .inl rfl⟩

theorem Change.of_edge {c : Cause} {s s' : State} (h : Edge c s s') : Change c s s' := by
  cases c with
  | segment => exact SegmentChange.of_edge h
  | user => exact Or.inr h
  | timeout => exact Or.inr h

theorem Change.close (c : Cause) (s : State) : Change c s .closed :=
  Change.of_edge (Edge.close c s)

/-- Two segment changes in a row are one, when the first does not end the connection: the
middle state is CLOSED only if the first started there. -/
theorem Change.trans_segment {s s' s'' : State} (h : Change .segment s s')
    (h' : Change .segment s' s'') (hmid : s' = .closed → s = .closed) : Change .segment s s'' := by
  by_cases hclosed : s' = .closed
  · -- the first change stayed at CLOSED, so the second starts where the first did
    rw [hmid hclosed, ← hclosed]
    exact h'
  · obtain ⟨m₁, m₁', hstart, hpath₁, hend₁⟩ := h
    obtain ⟨m₂, m₂', hstart₂, hpath₂, hend₂⟩ := h'
    -- the middle state is live: the first path ends there and the second starts there
    have h₁ : s' = m₁' := hend₁.resolve_right fun h => hclosed h.1
    have h₂ : m₂ = s' := hstart₂.resolve_right fun h => hclosed h.1
    refine ⟨m₁, m₂', hstart, hpath₁.trans ?_, hend₂⟩
    rw [← h₁, ← h₂]
    exact hpath₂

end Rfc793
