import Microps.Analysis.Frame
import Microps.Analysis.Lifecycle

/-!
# The send sequence: `iss`, `snd.una` and `snd.nxt`

A PCB's SYN takes the sequence number `iss`; from then on `snd.nxt` moves only when `tcp_send`
emits payload (by its length) or `tcp_close` sends the FIN (by one), and `snd.una` only to an
acknowledgement number no further than `snd.nxt`. `SndMove` says what one step may do to the
send sequence of one PCB, and `SndStart` what a PCB that begins a handshake holds; each
operation of the layer is shown to keep to them, the segment steps one by one as in
`Microps.Analysis.StateDiagram`.

How many sequence numbers a PCB has used is history, so it is kept as a ledger beside the layer
(`sndLedgerStep`): one (the SYN) while the PCB is in SYN_SENT or SYN_RECEIVED, and then what each
`tcp_send` and `tcp_close` on it emitted. Over every run with its ledger, `snd.nxt = iss + n` and
`snd.una = iss + a` with `a ≤ n`, modulo `2^32` (`tcp_send_sequence_accounting`).

The SYN need not be acknowledged for a PCB to be synchronized. In SYN_RECEIVED an ACK with
`SND.UNA =< SEG.ACK =< SND.NXT` makes it ESTABLISHED, as RFC 793 says, and that includes
`SEG.ACK = iss` (`tcp_established_on_ack_of_iss`); nor does the send window then come from the
peer. With `snd.wnd = 0` and the SYN outstanding, `tcp_send`'s unsigned `cap` wraps and a send
goes out past the window (`tcp_send_beyond_window_run`).
-/

set_option autoImplicit false

namespace Microps

/-- The states in which a PCB holds the send sequence its SYN began. -/
def TcpPcbState.sending : TcpPcbState → Bool
  | .free | .closed | .listen => false
  | _ => true

/-- SYN_SENT and SYN_RECEIVED, before the SYN is acknowledged. -/
def TcpPcbState.handshake : TcpPcbState → Bool
  | .synSent | .synReceived => true
  | _ => false

/-- Two PCBs in the same state with the same send sequence. -/
structure SndKeep (p p' : TcpPcb) : Prop where
  state : p'.state = p.state
  iss : p'.iss = p.iss
  una : p'.snd.una = p.snd.una
  nxt : p'.snd.nxt = p.snd.nxt

/-- What one step may do to the send sequence of a PCB from which `tcp_send` or `tcp_close`
emitted `n` sequence numbers: keep `iss`, move `snd.nxt` on by `n` and `snd.una` by no more
than was outstanding, in a sending state that was one before (a handshake state only as it was,
with nothing sent and `snd.una` kept); or take the PCB out of the sending states. -/
inductive SndMove (n : Nat) (p p' : TcpPcb) : Prop
  | move (hiss : p'.iss = p.iss) (hnxt : p'.snd.nxt = p.snd.nxt + n.toUInt32)
      (huna : ∃ d : Nat, d ≤ (p.snd.nxt - p.snd.una).toNat + n ∧
        p'.snd.una = p.snd.una + d.toUInt32)
      (hsend : p'.state.sending = true → p.state.sending = true)
      (hhs : p'.state.handshake = true →
        p.state.handshake = true ∧ p'.snd.una = p.snd.una ∧ n = 0)
  | stop (h : p'.state.sending = false)

/-- A handshake begun: SYN_SENT or SYN_RECEIVED with `snd.una = iss` and `snd.nxt = iss + 1`. -/
structure SndStart (p : TcpPcb) : Prop where
  handshake : p.state.handshake = true
  una : p.snd.una = p.iss
  nxt : p.snd.nxt = p.iss + 1

/-- What one step may do to the send sequence of a PCB: move it on, or begin a handshake. -/
def SndChange (n : Nat) (p p' : TcpPcb) : Prop := SndMove n p p' ∨ SndStart p'

/-! ## How the moves compose -/

section Algebra

variable {n m : Nat} {p q r : TcpPcb}

theorem SndKeep.refl (p : TcpPcb) : SndKeep p p := ⟨rfl, rfl, rfl, rfl⟩

theorem SndKeep.trans (h₁ : SndKeep p q) (h₂ : SndKeep q r) : SndKeep p r :=
  ⟨h₂.state.trans h₁.state, h₂.iss.trans h₁.iss, h₂.una.trans h₁.una, h₂.nxt.trans h₁.nxt⟩

/-- A step that keeps the send sequence, and in the handshake the state. -/
theorem sndMove_of (hiss : q.iss = p.iss) (hnxt : q.snd.nxt = p.snd.nxt)
    (huna : q.snd.una = p.snd.una) (hsend : q.state.sending = true → p.state.sending = true)
    (hhs : q.state.handshake = true → p.state.handshake = true) : SndMove 0 p q :=
  .move hiss (by simp [hnxt]) ⟨0, Nat.zero_le _, by simp [huna]⟩ hsend
    (fun h => ⟨hhs h, huna, rfl⟩)

theorem SndKeep.move (h : SndKeep p q) : SndMove 0 p q :=
  sndMove_of h.iss h.nxt h.una (by rw [h.state]; exact id) (by rw [h.state]; exact id)

/-- INTERNAL: after `snd.nxt` moved on by `n` and `snd.una` by `d`, what is outstanding. -/
theorem outstanding_after (nxt una : UInt32) {n d : Nat} (hd : d ≤ (nxt - una).toNat + n) :
    ((nxt + n.toUInt32) - (una + d.toUInt32)).toNat ≤ (nxt - una).toNat + n - d := by
  have h₁ := nxt.toNat_lt
  have h₂ := una.toNat_lt
  simp only [UInt32.toNat_sub, UInt32.toNat_add, Nat.toUInt32_eq, UInt32.toNat_ofNat'] at *
  omega

/-- INTERNAL: an acknowledgement number in `[snd.una, snd.nxt]` lies at most what is
outstanding past `snd.una`. -/
theorem una_advance {una nxt ack : UInt32} (h₁ : una ≤ ack) (h₂ : ack ≤ nxt) :
    ∃ d : Nat, d ≤ (nxt - una).toNat + 0 ∧ ack = una + d.toUInt32 := by
  rw [UInt32.le_iff_toNat_le] at h₁ h₂
  have h₃ := nxt.toNat_lt
  refine ⟨(ack - una).toNat, ?_, ?_⟩
  · simp only [UInt32.toNat_sub]
    omega
  · apply UInt32.toNat.inj
    simp only [UInt32.toNat_add, UInt32.toNat_sub, Nat.toUInt32_eq, UInt32.toNat_ofNat']
    omega

theorem SndMove.trans (h₁ : SndMove n p q) (h₂ : SndMove m q r) : SndMove (n + m) p r := by
  cases h₂ with
  | stop h => exact .stop h
  | move hiss₂ hnxt₂ huna₂ hsend₂ hhs₂ =>
    cases h₁ with
    | stop h =>
      -- a PCB out of the sending states does not come back by a move
      refine .stop ?_
      cases hr : r.state.sending
      · rfl
      · rw [hsend₂ hr] at h
        exact h
    | move hiss₁ hnxt₁ huna₁ hsend₁ hhs₁ =>
      obtain ⟨d₁, hd₁, hu₁⟩ := huna₁
      obtain ⟨d₂, hd₂, hu₂⟩ := huna₂
      have hout := outstanding_after p.snd.nxt p.snd.una hd₁
      rw [← hnxt₁, ← hu₁] at hout
      refine .move (hiss₂.trans hiss₁) ?_ ⟨d₁ + d₂, by omega, ?_⟩ (hsend₁ ∘ hsend₂) ?_
      · simp [hnxt₂, hnxt₁, UInt32.add_assoc]
      · simp [hu₂, hu₁, UInt32.add_assoc]
      · intro hr
        obtain ⟨hq, hu, hm⟩ := hhs₂ hr
        obtain ⟨hp, hu', hn⟩ := hhs₁ hq
        exact ⟨hp, hu.trans hu', by omega⟩

theorem SndStart.of_keep (h : SndStart q) (hk : SndKeep q r) : SndStart r :=
  ⟨by rw [hk.state]; exact h.handshake, by rw [hk.una, hk.iss]; exact h.una,
    by rw [hk.nxt, hk.iss]; exact h.nxt⟩

/-- A move followed by a change is a change; the other way round it need not be, which is why
a handshake is only begun at the end of a step. -/
theorem SndMove.then_change (h₁ : SndMove n p q) (h₂ : SndChange m q r) :
    SndChange (n + m) p r :=
  h₂.elim (fun h => .inl (h₁.trans h)) .inr

theorem SndChange.then_keep (h : SndChange n p q) (hk : SndKeep q r) : SndChange n p r :=
  h.elim (fun h => .inl (by simpa using h.trans hk.move)) (fun h => .inr (h.of_keep hk))

end Algebra

/-! ## The table -/

/-- Every PCB of the table moved on as `SndMove`, with nothing sent. -/
def SndMoves (t t' : Tcp) : Prop := ∀ j, SndMove 0 (t.pcbs j) (t'.pcbs j)

/-- Every PCB of the table moved on, or began a handshake. -/
def SndFollows (t t' : Tcp) : Prop := ∀ j, SndChange 0 (t.pcbs j) (t'.pcbs j)

section Table

variable {t t₁ t₂ : Tcp} {i : Fin TCP_PCB_SIZE}

theorem SndMoves.refl (t : Tcp) : SndMoves t t := fun _ => (SndKeep.refl _).move

theorem SndMoves.trans (h₁ : SndMoves t t₁) (h₂ : SndMoves t₁ t₂) : SndMoves t t₂ :=
  fun j => by simpa using (h₁ j).trans (h₂ j)

theorem SndMoves.follows (h : SndMoves t t₁) : SndFollows t t₁ := fun j => .inl (h j)

theorem SndMoves.then_follows (h₁ : SndMoves t t₁) (h₂ : SndFollows t₁ t₂) : SndFollows t t₂ :=
  fun j => by simpa using (h₁ j).then_change (h₂ j)

theorem sndMoves_set {p : TcpPcb} (h : SndMove 0 (t.pcbs i) p) : SndMoves t (t.set i p) :=
  Tcp.set_pcbs_rel (R := SndMove 0) (fun q => (SndKeep.refl q).move) h

theorem sndMoves_set_keep {p : TcpPcb} (h : SndKeep (t.pcbs i) p) : SndMoves t (t.set i p) :=
  sndMoves_set h.move

theorem sndMoves_tcpOutput (env : TcpEnv) (t : Tcp) (i : Fin TCP_PCB_SIZE) (flg : UInt8)
    (data : List UInt8) : SndMoves t (tcpOutput env t i flg data).1 :=
  fun _ => SndKeep.move ⟨by simp, by simp, by simp, by simp⟩

/-- Setting a PCB and releasing it, as the segment steps and the commands close PCBs. -/
theorem sndMoves_release_set (env : TcpEnv) (t : Tcp) (i : Fin TCP_PCB_SIZE) (p : TcpPcb) :
    SndMoves t (tcpPcbRelease env (t.set i p) i) := by
  intro j
  by_cases hj : j = i
  · subst hj
    rw [tcpPcbRelease_self]
    exact .stop rfl
  · rcases tcpPcbRelease_pcbs env (t.set i p) i j with h | h <;> rw [h]
    · rw [Tcp.set_pcbs_of_ne _ _ hj]
      exact (SndKeep.refl _).move
    · exact .stop rfl

theorem sndMoves_tcpBacklogPush (env : TcpEnv) (t : Tcp) (i : Fin TCP_PCB_SIZE) :
    SndMoves t (tcpBacklogPush env t i) := by
  intro j
  rcases tcpBacklogPush_pcbs env t i j with h | ⟨b, h⟩ <;> rw [h]
  · exact (SndKeep.refl _).move
  · exact SndKeep.move ⟨rfl, rfl, rfl, rfl⟩

end Table

/-! ## Segment arrival -/

section Segment

variable (env : TcpEnv) (a : TcpArrival)

/-- A state change within the sending states, out of the handshake, keeps the send sequence. -/
theorem sndMove_state {p : TcpPcb} (q : TcpPcb) (hiss : q.iss = p.iss)
    (hnxt : q.snd.nxt = p.snd.nxt) (huna : q.snd.una = p.snd.una)
    (hp : p.state.sending = true) (hq : q.state.handshake = false) : SndMove 0 p q :=
  sndMove_of hiss hnxt huna (fun _ => hp) (fun h => absurd h (by rw [hq]; decide))

theorem sndMoves_tcpSegmentArrivesEighth (t : Tcp) (i : Fin TCP_PCB_SIZE) :
    SndMoves t (tcpSegmentArrivesEighth env a t i) := by
  unfold tcpSegmentArrivesEighth
  split
  · split
    · exact .refl _
    · exact .refl _
    · exact .refl _
    · -- the FIN moves `rcv.nxt` and the state on, within the sending states
      have h₁ : SndMoves t
          (tcpOutput env (t.set i { t.pcbs i with rcv.nxt := a.seg.seq + 1 }) i TCP_FLG_ACK []).1 :=
        (sndMoves_set_keep (by exact ⟨rfl, rfl, rfl, rfl⟩)).trans (sndMoves_tcpOutput env _ _ _ _)
      dsimp only
      split
      next hs =>
        exact h₁.trans (sndMoves_set
          (sndMove_state _ (by rfl) (by rfl) (by rfl) (by rw [hs]; rfl) (by rfl)))
      next hs =>
        exact h₁.trans (sndMoves_set
          (sndMove_state _ (by rfl) (by rfl) (by rfl) (by rw [hs]; rfl) (by rfl)))
      next hs =>
        split
        · exact h₁.trans (sndMoves_set
            (sndMove_state _ (by rfl) (by rfl) (by rfl) (by rw [hs]; rfl) (by rfl)))
        · exact h₁.trans (sndMoves_set
            (sndMove_state _ (by rfl) (by rfl) (by rfl) (by rw [hs]; rfl) (by rfl)))
      next hs =>
        exact h₁.trans (sndMoves_set
          (sndMove_state _ (by rfl) (by rfl) (by rfl) (by rw [hs]; rfl) (by rfl)))
      next => exact h₁.trans (sndMoves_set_keep (by exact ⟨rfl, rfl, rfl, rfl⟩))
      next => exact h₁
  · exact .refl _

theorem sndMoves_tcpSegmentArrivesSeventh (t : Tcp) (i : Fin TCP_PCB_SIZE) :
    SndMoves t (tcpSegmentArrivesSeventh env a t i) := by
  -- copying the payload and acknowledging it keep the send sequence
  have hcopy : ∀ p : TcpPcb, SndKeep (t.pcbs i) p → SndMoves t
      (tcpSegmentArrivesEighth env a (tcpOutput env (t.set i p) i TCP_FLG_ACK []).1 i) :=
    fun p hp => ((sndMoves_set_keep hp).trans (sndMoves_tcpOutput env _ _ _ _)).trans
      (sndMoves_tcpSegmentArrivesEighth env a _ i)
  unfold tcpSegmentArrivesSeventh
  dsimp only
  split
  all_goals first
    | exact sndMoves_tcpSegmentArrivesEighth env a t i
    | split_ifs
      · exact hcopy _ (by exact ⟨rfl, rfl, rfl, rfl⟩)
      · exact sndMoves_tcpSegmentArrivesEighth env a t i

theorem sndMoves_tcpSegmentArrivesAckState (t : Tcp) (i : Fin TCP_PCB_SIZE) :
    SndMoves t (tcpSegmentArrivesAckState env a t i) := by
  unfold tcpSegmentArrivesAckState
  dsimp only
  refine SndMoves.trans ?_ (sndMoves_tcpSegmentArrivesSeventh env a _ i)
  split
  next hs =>
    split
    · exact sndMoves_set (sndMove_state _ (by rfl) (by rfl) (by rfl) (by rw [hs]; rfl) (by rfl))
    · exact .refl _
  next hs =>
    split
    · exact sndMoves_set (sndMove_state _ (by rfl) (by rfl) (by rfl) (by rw [hs]; rfl) (by rfl))
    · exact .refl _
  next => exact .refl _

/-- The ACK processing of the synchronized states: an ACK in `(snd.una, snd.nxt]` moves
`snd.una` on to it. -/
theorem sndMoves_tcpSegmentArrivesAck (t : Tcp) (i : Fin TCP_PCB_SIZE)
    (hs : (t.pcbs i).state.sending = true) (hhs : (t.pcbs i).state.handshake = false) :
    SndMoves t (tcpSegmentArrivesAck env a t i) := by
  unfold tcpSegmentArrivesAck
  dsimp only
  by_cases hadv : tcpAckAdvances (t.pcbs i).snd.una (t.pcbs i).snd.nxt a.seg.ack
  · rw [if_pos hadv]
    obtain ⟨d, hd, hack⟩ := una_advance (UInt32.le_of_lt hadv.1) hadv.2
    -- `snd.una` moves on to the acknowledgement; the state and the rest of the sequence stay
    have hmove : ∀ p : TcpPcb, p.iss = (t.pcbs i).iss → p.snd.nxt = (t.pcbs i).snd.nxt →
        p.snd.una = a.seg.ack → p.state = (t.pcbs i).state → SndMove 0 (t.pcbs i) p := by
      intro p hiss hnxt huna hst
      refine .move hiss (by simp [hnxt]) ⟨d, hd, by rw [huna, hack]⟩ (fun _ => hs) ?_
      rw [hst, hhs]
      exact fun h => absurd h (by decide)
    refine (sndMoves_set (hmove _ ?_ ?_ ?_ ?_)).trans (sndMoves_tcpSegmentArrivesAckState env a _ i) <;>
      split_ifs <;> rfl
  · rw [if_neg hadv]
    split_ifs
    · exact sndMoves_tcpSegmentArrivesAckState env a t i
    · exact sndMoves_tcpOutput env t i _ _
    · exact sndMoves_tcpSegmentArrivesAckState env a t i

theorem sndMoves_tcpSegmentArrivesFifth (t : Tcp) (i : Fin TCP_PCB_SIZE) :
    SndMoves t (tcpSegmentArrivesFifth env a t i) := by
  unfold tcpSegmentArrivesFifth
  by_cases hack : (!TCP_FLG_ISSET a.flags TCP_FLG_ACK) = true
  · rw [if_pos hack]
    exact .refl _
  rw [if_neg hack]
  dsimp only
  split
  next hs =>
    split_ifs
    · -- SYN_RECEIVED becomes ESTABLISHED and goes on with the ACK processing
      have h₁ : SndMoves t (tcpBacklogPush env (t.set i { t.pcbs i with state := .established }) i) :=
        (sndMoves_set (sndMove_state _ (by rfl) (by rfl) (by rfl) (by rw [hs]; rfl) (by rfl))).trans
          (sndMoves_tcpBacklogPush env _ i)
      have hest : ((tcpBacklogPush env (t.set i { t.pcbs i with state := .established }) i).pcbs i).state =
          .established := by
        rcases tcpBacklogPush_pcbs env (t.set i { t.pcbs i with state := .established }) i i with h | ⟨b, h⟩ <;>
          simp [h]
      exact h₁.trans (sndMoves_tcpSegmentArrivesAck env a _ i (by rw [hest]; rfl) (by rw [hest]; rfl))
    · exact .refl _
  all_goals first
    | next hs => exact sndMoves_tcpSegmentArrivesAck env a t i (by rw [hs]; rfl) (by rw [hs]; rfl)
    | exact sndMoves_tcpSegmentArrivesSeventh env a t i
    | skip
  next =>
    split_ifs
    · exact sndMoves_release_set env t i _
    · exact .refl _
  next =>
    refine SndMoves.trans ?_ (sndMoves_tcpSegmentArrivesSeventh env a _ i)
    split_ifs
    · exact sndMoves_set_keep (by exact ⟨rfl, rfl, rfl, rfl⟩)
    · exact .refl _

theorem sndMoves_tcpSegmentArrivesFourth (t : Tcp) (i : Fin TCP_PCB_SIZE) :
    SndMoves t (tcpSegmentArrivesFourth env a t i) := by
  unfold tcpSegmentArrivesFourth
  split_ifs
  · exact (sndMoves_tcpOutput env t i _ _).trans (sndMoves_release_set env _ i _)
  · exact sndMoves_tcpSegmentArrivesFifth env a t i

theorem sndMoves_tcpSegmentArrivesSecond (t : Tcp) (i : Fin TCP_PCB_SIZE) :
    SndMoves t (tcpSegmentArrivesSecond env a t i) := by
  unfold tcpSegmentArrivesSecond
  split_ifs
  · exact sndMoves_release_set env t i _
  · exact sndMoves_tcpSegmentArrivesFourth env a t i

theorem sndMoves_tcpSegmentArrivesFirst (t : Tcp) (i : Fin TCP_PCB_SIZE) :
    SndMoves t (tcpSegmentArrivesFirst env a t i) := by
  unfold tcpSegmentArrivesFirst
  dsimp only
  split_ifs
  · exact .refl _
  · exact sndMoves_tcpOutput env t i _ _
  · exact sndMoves_tcpSegmentArrivesSecond env a t i

theorem sndMoves_tcpSegmentArrivesClosed (t : Tcp) : SndMoves t (tcpSegmentArrivesClosed env a t) := by
  unfold tcpSegmentArrivesClosed
  split_ifs
  · exact .refl _
  all_goals exact fun _ => (SndKeep.refl _).move

/-- SYN_SENT: the SYN with the ACK of ours makes the PCB ESTABLISHED, `snd.una` moving on to the
acknowledgement; a SYN without it makes it SYN_RECEIVED, the send sequence as it was. -/
theorem sndMoves_tcpSegmentArrivesSynSent (t : Tcp) (i : Fin TCP_PCB_SIZE)
    (hs : (t.pcbs i).state = .synSent) : SndMoves t (tcpSegmentArrivesSynSent env a t i) := by
  have hsend : (t.pcbs i).state.sending = true := by rw [hs]; rfl
  unfold tcpSegmentArrivesSynSent
  dsimp only
  split_ifs
  all_goals first
    | exact .refl _
    | exact fun _ => (SndKeep.refl _).move
    | exact sndMoves_release_set env t i _
    | skip
  · next hacc _ =>
    obtain ⟨-, hrange⟩ := Bool.and_eq_true_iff.mp hacc
    have hrange := of_decide_eq_true hrange
    obtain ⟨d, hd, hack⟩ := una_advance hrange.1 hrange.2
    refine ((sndMoves_set (.move (by rfl) (by simp) ⟨d, hd, hack⟩ (fun _ => hsend) ?_)).trans
      (sndMoves_tcpOutput env _ i _ _)).trans (sndMoves_set_keep (by exact ⟨rfl, rfl, rfl, rfl⟩))
    intro h
    simp [TcpPcbState.handshake] at h
  · -- an acceptable ACK lies past `iss`, so `snd.una` cannot stay at or before it
    next hbad _ _ hacc hgt =>
    exfalso
    have hflag : TCP_FLG_ISSET a.flags TCP_FLG_ACK = true := (Bool.and_eq_true_iff.mp hacc).1
    have hnot : ¬(a.seg.ack ≤ (t.pcbs i).iss ∨ a.seg.ack > (t.pcbs i).snd.nxt) :=
      fun h => hbad ⟨hflag, h⟩
    apply hgt
    show (t.pcbs i).iss < a.seg.ack
    rw [UInt32.lt_iff_toNat_lt]
    simp only [UInt32.le_iff_toNat_le, gt_iff_lt, UInt32.lt_iff_toNat_lt] at hnot
    omega
  · exact ((sndMoves_set (sndMove_state _ (by rfl) (by rfl) (by rfl) hsend (by rfl))).trans
      (sndMoves_tcpOutput env _ i _ _)).trans (sndMoves_set_keep (by exact ⟨rfl, rfl, rfl, rfl⟩))
  · exact (sndMoves_set (sndMove_of (by rfl) (by rfl) (by rfl) (fun _ => hsend)
      (fun _ => by rw [hs]; rfl))).trans (sndMoves_tcpOutput env _ i _ _)

/-- The PCB that takes a connection begins its handshake. -/
theorem sndFollows_tcpSegmentArrivesListenSyn (t : Tcp) (i : Fin TCP_PCB_SIZE) :
    SndFollows t (tcpSegmentArrivesListenSyn env a t i) := by
  unfold tcpSegmentArrivesListenSyn
  dsimp only
  intro j
  by_cases hj : j = i
  · subst hj
    rw [Tcp.set_pcbs_self]
    exact .inr ⟨rfl, rfl, rfl⟩
  · rw [Tcp.set_pcbs_of_ne _ _ hj, tcpOutput_pcbs_of_ne _ _ _ _ _ hj, Tcp.set_pcbs_of_ne _ _ hj]
    exact .inl (SndKeep.refl _).move

theorem sndFollows_tcpSegmentArrivesListen (t : Tcp) (i : Fin TCP_PCB_SIZE) :
    SndFollows t (tcpSegmentArrivesListen env a t i) := by
  unfold tcpSegmentArrivesListen
  split_ifs
  · exact (SndMoves.refl t).follows
  · exact SndMoves.follows fun _ => (SndKeep.refl _).move
  · -- socket mode: a FREE slot becomes CLOSED, then takes the connection
    split
    · exact (SndMoves.refl t).follows
    · next j t₁ halloc =>
      obtain ⟨hfree, rfl⟩ := tcpPcbAlloc_eq_some halloc
      rw [Tcp.set_set, Tcp.set_pcbs_self]
      exact (sndMoves_set (.stop (by rfl))).then_follows (sndFollows_tcpSegmentArrivesListenSyn env a _ j)
  · exact sndFollows_tcpSegmentArrivesListenSyn env a t i
  · exact (SndMoves.refl t).follows

theorem sndFollows_tcpSegmentArrives (t : Tcp) : SndFollows t (tcpSegmentArrives env a t) := by
  unfold tcpSegmentArrives
  split
  · exact (sndMoves_tcpSegmentArrivesClosed env a t).follows
  · next i _ =>
    split
    · exact (sndMoves_tcpSegmentArrivesClosed env a t).follows
    · exact sndFollows_tcpSegmentArrivesListen env a t i
    · next hs => exact (sndMoves_tcpSegmentArrivesSynSent env a t i hs).follows
    · exact (sndMoves_tcpSegmentArrivesFirst env a t i).follows

end Segment

/-! ## The timer and the event handler -/

theorem sndMoves_tcpTimerPcb (env : TcpEnv) (t : Tcp) (i : Fin TCP_PCB_SIZE) :
    SndMoves t (tcpTimerPcb env t i) := by
  intro j
  rcases tcpTimerPcb_pcbs env t i j with h | h | ⟨q, h | h⟩ <;> rw [h]
  · exact (SndKeep.refl _).move
  · exact .stop rfl
  · exact SndKeep.move ⟨rfl, rfl, rfl, rfl⟩
  · exact .stop rfl

theorem sndMoves_tcpTimer (env : TcpEnv) (t : Tcp) : SndMoves t (tcpTimer env t) := by
  unfold tcpTimer
  -- the loop over the slots, each moving the send sequences on
  suffices h : ∀ (l : List (Fin TCP_PCB_SIZE)) (t' : Tcp), SndMoves t t' →
      SndMoves t (l.foldl (tcpTimerPcb env) t') from h _ t (.refl t)
  intro l
  induction l with
  | nil => exact fun _ h => h
  | cons i rest ih => exact fun t' h => ih _ (h.trans (sndMoves_tcpTimerPcb env t' i))

theorem sndMoves_tcpEventHandler (t : Tcp) : SndMoves t (tcpEventHandler t) := by
  intro j
  obtain ⟨ctx, h⟩ := tcpEventHandler_pcbs t j
  rw [h]
  exact SndKeep.move ⟨rfl, rfl, rfl, rfl⟩


/-! ## User calls that send nothing -/

/-- Every PCB kept its state and send sequence, or is FREE. -/
def SndQuiet (t t' : Tcp) : Prop := ∀ j, SndKeep (t.pcbs j) (t'.pcbs j) ∨ (t'.pcbs j).state = .free

section Quiet

variable {t t₁ t₂ : Tcp} {i : Fin TCP_PCB_SIZE}

theorem SndQuiet.refl (t : Tcp) : SndQuiet t t := fun _ => .inl (SndKeep.refl _)

theorem SndQuiet.trans (h₁ : SndQuiet t t₁) (h₂ : SndQuiet t₁ t₂) : SndQuiet t t₂ := by
  intro j
  rcases h₂ j with h | h
  · rcases h₁ j with h' | h'
    · exact .inl (h'.trans h)
    · exact .inr (h.state.trans h')
  · exact .inr h

theorem SndQuiet.moves (h : SndQuiet t t₁) : SndMoves t t₁ := by
  intro j
  rcases h j with h | h
  · exact h.move
  · exact .stop (by rw [h]; rfl)

/-- A change followed by keeping or releasing is a change. -/
theorem SndFollows.then_quiet (h₁ : SndFollows t t₁) (h₂ : SndQuiet t₁ t₂) : SndFollows t t₂ := by
  intro j
  rcases h₂ j with h | h
  · exact (h₁ j).then_keep h
  · exact .inl (.stop (by rw [h]; rfl))

theorem sndQuiet_set_keep {p : TcpPcb} (h : SndKeep (t.pcbs i) p) : SndQuiet t (t.set i p) :=
  Tcp.set_pcbs_rel (R := fun q q' => SndKeep q q' ∨ q'.state = .free)
    (fun q => .inl (SndKeep.refl q)) (.inl h)

theorem sndQuiet_tcpPcbRelease (env : TcpEnv) (t : Tcp) (i : Fin TCP_PCB_SIZE) :
    SndQuiet t (tcpPcbRelease env t i) := by
  intro j
  rcases tcpPcbRelease_pcbs env t i j with h | h <;> rw [h]
  · exact .inl (SndKeep.refl _)
  · exact .inr rfl

theorem sndQuiet_tcpCloseRelease (env : TcpEnv) (t : Tcp) (i : Fin TCP_PCB_SIZE) :
    SndQuiet t (tcpCloseRelease env t i) := by
  intro j
  unfold tcpCloseRelease
  by_cases hj : j = i
  · subst hj
    exact .inr (by rw [tcpPcbRelease_self]; rfl)
  · rcases tcpPcbRelease_pcbs env (t.set i { t.pcbs i with state := .closed }) i j with h | h <;> rw [h]
    · rw [Tcp.set_pcbs_of_ne _ _ hj]
      exact .inl (SndKeep.refl _)
    · exact .inr rfl

theorem sndQuiet_tcpSleep {w : TcpWait} {intr : Tcp × TcpResult} (h : SndQuiet t intr.1) :
    SndQuiet t (tcpSleep t i w intr).1 := by
  rcases tcpSleep_eq t i w intr with heq | ⟨ctx, heq⟩ <;> rw [heq]
  · exact h
  · exact sndQuiet_set_keep ⟨rfl, rfl, rfl, rfl⟩

theorem sndQuiet_tcpOpenLoop (env : TcpEnv) (t : Tcp) (i : Fin TCP_PCB_SIZE) (state : TcpPcbState) :
    SndQuiet t (tcpOpenLoop env t i state).1 := by
  unfold tcpOpenLoop
  dsimp only
  split_ifs
  · exact sndQuiet_tcpSleep (sndQuiet_tcpCloseRelease env t i)
  · split
    · exact .refl t
    · exact sndQuiet_tcpSleep (sndQuiet_tcpCloseRelease env t i)
    · exact sndQuiet_tcpCloseRelease env t i

theorem sndQuiet_tcpAcceptLoop (t : Tcp) (i : Fin TCP_PCB_SIZE) : SndQuiet t (tcpAcceptLoop t i).1 := by
  unfold tcpAcceptLoop
  split
  · exact sndQuiet_set_keep ⟨rfl, rfl, rfl, rfl⟩
  · exact sndQuiet_tcpSleep (.refl t)

theorem sndQuiet_tcpReceiveRetry (t : Tcp) (i : Fin TCP_PCB_SIZE) (size : Nat) :
    SndQuiet t (tcpReceiveRetry t i size).1 := by
  have hcopy : ∀ remain, SndQuiet t (tcpReceiveCopy t i size remain).1 :=
    fun _ => sndQuiet_set_keep ⟨rfl, rfl, rfl, rfl⟩
  unfold tcpReceiveRetry
  dsimp only
  split
  all_goals first
    | exact .refl t
    | split_ifs
      · exact sndQuiet_tcpSleep (.refl t)
      · exact hcopy _
    | split_ifs
      · exact hcopy _
      · exact .refl t

end Quiet

/-! ## Opening -/

/-- The SYN of an active open: the PCB begins its handshake, or is released when the SYN cannot
go out. -/
theorem sndFollows_tcpActiveOpen (env : TcpEnv) (t : Tcp) (i : Fin TCP_PCB_SIZE) :
    SndFollows t (tcpActiveOpen env t i).1 := by
  unfold tcpActiveOpen
  dsimp only
  -- `iss` is drawn and the SYN goes out; only PCB `i` changes
  have hothers : ∀ j, j ≠ i → (tcpOutput env (t.set i { t.pcbs i with rcv.wnd := 65535, iss := env.random })
      i TCP_FLG_SYN []).1.pcbs j = t.pcbs j := fun j hj => by
    rw [tcpOutput_pcbs_of_ne _ _ _ _ _ hj, Tcp.set_pcbs_of_ne _ _ hj]
  split_ifs
  · intro j
    by_cases hj : j = i
    · subst hj
      exact .inl (.stop (by unfold tcpCloseRelease; rw [tcpPcbRelease_self]; rfl))
    · rcases sndQuiet_tcpCloseRelease env _ i j with h | h
      · rw [hothers j hj] at h
        exact .inl h.move
      · exact .inl (.stop (by rw [h]; rfl))
  · -- SYN_SENT with `snd.una = iss`, `snd.nxt = iss + 1`; then the caller waits, or the PCB is
    -- released
    refine SndFollows.then_quiet (fun j => ?_) (sndQuiet_tcpOpenLoop env _ i _)
    by_cases hj : j = i
    · subst hj
      rw [Tcp.set_pcbs_self]
      exact .inr ⟨rfl, rfl, rfl⟩
    · rw [Tcp.set_pcbs_of_ne _ _ hj, hothers j hj]
      exact .inl (SndKeep.refl _).move

/-- `tcp_pcb_alloc` makes a FREE slot CLOSED: neither sends. -/
theorem sndMoves_tcpPcbAlloc {t t₁ : Tcp} {i : Fin TCP_PCB_SIZE} (h : tcpPcbAlloc t = some (i, t₁)) :
    SndMoves t t₁ := by
  obtain ⟨-, rfl⟩ := tcpPcbAlloc_eq_some h
  exact sndMoves_set (.stop rfl)

theorem sndFollows_tcpOpenRfc793 (env : TcpEnv) (t : Tcp) (local_ : IpEndpoint) (o : TcpOpen) :
    SndFollows t (tcpOpenRfc793 env t local_ o).1 := by
  unfold tcpOpenRfc793
  split
  · exact (SndMoves.refl t).follows
  · next i t₁ halloc =>
    have h₁ : SndMoves t (t₁.set i { t₁.pcbs i with mode := .rfc793 }) :=
      (sndMoves_tcpPcbAlloc halloc).trans (sndMoves_set_keep (by exact ⟨rfl, rfl, rfl, rfl⟩))
    dsimp only
    split
    · -- passive: LISTEN, which sends nothing
      exact (h₁.trans (sndMoves_set (.stop (by rfl)))).follows.then_quiet
        (sndQuiet_tcpOpenLoop env _ i _)
    · exact (h₁.trans (sndMoves_set_keep (by exact ⟨rfl, rfl, rfl, rfl⟩))).then_follows
        (sndFollows_tcpActiveOpen env _ i)

theorem sndMoves_tcpOpen (t : Tcp) : SndMoves t (tcpOpen t).1 := by
  unfold tcpOpen
  split
  · exact .refl t
  · next i t₁ halloc =>
    exact (sndMoves_tcpPcbAlloc halloc).trans (sndMoves_set_keep (by exact ⟨rfl, rfl, rfl, rfl⟩))

theorem sndFollows_tcpConnect (env : TcpEnv) (t : Tcp) (id : Int) (foreign : IpEndpoint) :
    SndFollows t (tcpConnect env t id foreign).1 := by
  unfold tcpConnect
  split
  · exact (SndMoves.refl t).follows
  · next i _ =>
    split_ifs
    · exact (SndMoves.refl t).follows
    · split
      · exact (SndMoves.refl t).follows
      · -- the source port is chosen; only the endpoints change before the SYN
        have hopen : ∀ p, SndKeep (t.pcbs i) p → SndFollows t (tcpActiveOpen env (t.set i p) i).1 :=
          fun p hp => (sndMoves_set_keep hp).then_follows (sndFollows_tcpActiveOpen env _ i)
        dsimp only
        split_ifs
        · exact (SndMoves.refl t).follows
        · exact hopen _ (by exact ⟨rfl, rfl, rfl, rfl⟩)
        · exact hopen _ (by exact ⟨rfl, rfl, rfl, rfl⟩)

theorem sndMoves_tcpBind (t : Tcp) (id : Int) (local_ : IpEndpoint) : SndMoves t (tcpBind t id local_).1 := by
  unfold tcpBind
  split
  · exact .refl t
  · split_ifs
    · exact .refl t
    · exact .refl t
    · exact sndMoves_set_keep ⟨rfl, rfl, rfl, rfl⟩

theorem sndMoves_tcpListen (t : Tcp) (id : Int) : SndMoves t (tcpListen t id).1 := by
  unfold tcpListen
  split
  · exact .refl t
  · split_ifs
    · exact .refl t
    · exact sndMoves_set (.stop rfl)

theorem sndQuiet_tcpAccept (t : Tcp) (id : Int) : SndQuiet t (tcpAccept t id).1 := by
  unfold tcpAccept
  split
  · exact .refl t
  · split_ifs
    · exact .refl t
    · exact .refl t
    · exact sndQuiet_tcpAcceptLoop t _

theorem sndQuiet_tcpReceive (t : Tcp) (id : Int) (size : Nat) : SndQuiet t (tcpReceive t id size).1 := by
  unfold tcpReceive
  split
  · exact .refl t
  · exact sndQuiet_tcpReceiveRetry t _ size

/-! ## Sending -/

/-- The PCB a waiting `tcp_send` sends on. -/
def TcpWait.sender : TcpWait → Option (Fin TCP_PCB_SIZE)
  | .send i _ _ => some i
  | _ => none

/-- The sequence space segments take: their payload, and one for a FIN. -/
def segSpace (segs : List TcpSegmentOut) : Nat :=
  (segs.map fun seg => seg.data.length + if TCP_FLG_ISSET seg.flg TCP_FLG_FIN then 1 else 0).sum

@[simp] theorem segSpace_nil : segSpace [] = 0 := rfl

@[simp] theorem segSpace_append (segs segs' : List TcpSegmentOut) :
    segSpace (segs ++ segs') = segSpace segs + segSpace segs' := by
  simp [segSpace]

theorem segSpace_singleton (seg : TcpSegmentOut) :
    segSpace [seg] = seg.data.length + if TCP_FLG_ISSET seg.flg TCP_FLG_FIN then 1 else 0 := by
  simp [segSpace]

/-- PCB `i` moved on by the sequence space of the segments the step sent, and every other PCB
by nothing. -/
def SndEmits (i : Fin TCP_PCB_SIZE) (t t' : Tcp) : Prop :=
  ∃ segs, t'.out = t.out ++ segs ∧
    ∀ j, SndMove (if j = i then segSpace segs else 0) (t.pcbs j) (t'.pcbs j)

section Emits

variable {t t₁ t₂ : Tcp} {i : Fin TCP_PCB_SIZE}

theorem SndEmits.of_quiet (h : SndQuiet t t₁) (hout : t₁.out = t.out) : SndEmits i t t₁ := by
  refine ⟨[], by rw [hout, List.append_nil], fun j => ?_⟩
  rw [segSpace_nil, ite_self]
  exact h.moves j

theorem SndEmits.refl (t : Tcp) : SndEmits i t t := .of_quiet (.refl t) rfl

theorem SndEmits.trans (h₁ : SndEmits i t t₁) (h₂ : SndEmits i t₁ t₂) : SndEmits i t t₂ := by
  obtain ⟨segs₁, hout₁, hm₁⟩ := h₁
  obtain ⟨segs₂, hout₂, hm₂⟩ := h₂
  refine ⟨segs₁ ++ segs₂, by rw [hout₂, hout₁, List.append_assoc], fun j => ?_⟩
  by_cases hj : j = i <;> simpa [hj] using (hm₁ j).trans (hm₂ j)

/-- `tcp_output` on a sending PCB, then `snd.nxt` moved past what the segment takes, out of
the handshake. -/
theorem sndEmits_tcpOutput_set (env : TcpEnv) (flg : UInt8) (data : List UInt8) (p : TcpPcb)
    (hiss : p.iss = (t.pcbs i).iss) (huna : p.snd.una = (t.pcbs i).snd.una)
    (hnxt : p.snd.nxt = (t.pcbs i).snd.nxt +
      (data.length + if TCP_FLG_ISSET flg TCP_FLG_FIN then 1 else 0).toUInt32)
    (hs : (t.pcbs i).state.sending = true) (hhs : p.state.handshake = false) :
    SndEmits i t ((tcpOutput env t i flg data).1.set i p) := by
  obtain ⟨seg, hout, hflg, hdata⟩ := tcpOutput_out env t i flg data
  refine ⟨[seg], by rw [Tcp.set_out, hout], fun j => ?_⟩
  by_cases hj : j = i
  · subst hj
    rw [if_pos rfl, Tcp.set_pcbs_self, segSpace_singleton, hflg, hdata]
    exact .move hiss hnxt ⟨0, Nat.zero_le _, by simp [huna]⟩ (fun _ => hs)
      (fun h => absurd h (by rw [hhs]; decide))
  · rw [if_neg hj, Tcp.set_pcbs_of_ne _ _ hj, tcpOutput_pcbs_of_ne _ _ _ _ _ hj]
    exact (SndKeep.refl _).move

/-- A send whose output fails: the segment is logged, and the PCB closed and released. -/
theorem sndEmits_tcpOutput_release (env : TcpEnv) (flg : UInt8) (data : List UInt8) :
    SndEmits i t (tcpCloseRelease env (tcpOutput env t i flg data).1 i) := by
  obtain ⟨seg, hout, -, -⟩ := tcpOutput_out env t i flg data
  refine ⟨[seg], by rw [tcpCloseRelease_out, hout], fun j => ?_⟩
  by_cases hj : j = i
  · subst hj
    exact .stop (by rw [tcpCloseRelease, tcpPcbRelease_self]; rfl)
  · rw [if_neg hj]
    rcases sndQuiet_tcpCloseRelease env (tcpOutput env t i flg data).1 i j with h | h
    · rw [tcpOutput_pcbs_of_ne _ _ _ _ _ hj] at h
      exact h.move
    · exact .stop (by rw [h]; rfl)

end Emits

/-- Each round of `tcp_send`'s loop emits `slen` bytes of payload and moves `snd.nxt` past
them; waiting, the hang and a failed output emit nothing more. -/
theorem sndEmits_tcpSendLoop (env : TcpEnv) (i : Fin TCP_PCB_SIZE) (data : List UInt8) (mss : Nat) :
    ∀ (fuel : Nat) (t : Tcp) (sent : Nat), (t.pcbs i).state.sending = true →
      (t.pcbs i).state.handshake = false → SndEmits i t (tcpSendLoop env i data mss fuel t sent).1
  | 0, t, _, _, _ => .refl t
  | fuel + 1, t, sent, hs, hhs => by
    have hsleep : ∀ r, SndEmits i t (tcpSleep t i (.send i data sent) (t, r)).1 := fun _ =>
      .of_quiet (sndQuiet_tcpSleep (.refl t)) (tcpSleep_out t i _ rfl)
    have hfin : TCP_FLG_ISSET (TCP_FLG_ACK ||| TCP_FLG_PSH) TCP_FLG_FIN = false := by decide
    rw [tcpSendLoop]
    dsimp only
    split_ifs
    · exact hsleep _
    · exact hsleep _
    · exact .refl t
    · exact sndEmits_tcpOutput_release env _ _
    · refine (sndEmits_tcpOutput_set env _ _ _ (by simp) (by simp) ?_ hs (by simpa using hhs)).trans
        (sndEmits_tcpSendLoop env i data mss fuel _ _ (by simpa using hs) (by simpa using hhs))
      simp [hfin]
    · exact .refl t

theorem sndEmits_tcpSendRetry (env : TcpEnv) (t : Tcp) (i : Fin TCP_PCB_SIZE) (data : List UInt8)
    (sent : Nat) : SndEmits i t (tcpSendRetry env t i data sent).1 := by
  unfold tcpSendRetry
  split
  next hs =>
    split
    · exact .refl t
    · exact sndEmits_tcpSendLoop env i data _ _ t sent (by rw [hs]; rfl) (by rw [hs]; rfl)
  next hs =>
    split
    · exact .refl t
    · exact sndEmits_tcpSendLoop env i data _ _ t sent (by rw [hs]; rfl) (by rw [hs]; rfl)
  next => exact .refl t

theorem sndEmits_tcpSend (env : TcpEnv) (t : Tcp) {id : Int} {i : Fin TCP_PCB_SIZE}
    (data : List UInt8) (h : tcpPcbGet t id = some i) : SndEmits i t (tcpSend env t id data).1 := by
  rw [tcpSend, h]
  exact sndEmits_tcpSendRetry env t i data 0

/-- The FIN takes one sequence number, from a sending state to one outside the handshake. -/
theorem sndEmits_tcpCloseFin (env : TcpEnv) (t : Tcp) (i : Fin TCP_PCB_SIZE) (state : TcpPcbState)
    (hs : (t.pcbs i).state.sending = true) (hst : state.handshake = false) :
    SndEmits i t (tcpCloseFin env t i state) := by
  have hfin : TCP_FLG_ISSET (TCP_FLG_ACK ||| TCP_FLG_FIN) TCP_FLG_FIN = true := by decide
  unfold tcpCloseFin
  exact sndEmits_tcpOutput_set env _ _ _ (by simp) (by simp) (by simp [hfin]) hs hst

theorem sndEmits_tcpClose (env : TcpEnv) (t : Tcp) {id : Int} {i : Fin TCP_PCB_SIZE}
    (h : tcpPcbGet t id = some i) : SndEmits i t (tcpClose env t id).1 := by
  have hrelease : SndEmits i t (tcpCloseRelease env t i) :=
    .of_quiet (sndQuiet_tcpCloseRelease env t i) (tcpCloseRelease_out env t i)
  rw [tcpClose, h]
  dsimp only
  split
  · exact hrelease
  · exact hrelease
  next hs => exact sndEmits_tcpCloseFin env t i _ (by rw [hs]; rfl) rfl
  next hs => exact sndEmits_tcpCloseFin env t i _ (by rw [hs]; rfl) rfl
  next hs => exact sndEmits_tcpCloseFin env t i _ (by rw [hs]; rfl) rfl
  next => exact .refl t

/-! ## Returning from a wait -/

/-- The second half of `sched_sleep` changes only the wait context. -/
theorem sndQuiet_tcpResume_ctx (t : Tcp) (w : TcpWait) :
    SndQuiet t (t.set w.pcb { t.pcbs w.pcb with ctx := (schedSleepResume (t.pcbs w.pcb).ctx).1 }) :=
  sndQuiet_set_keep ⟨rfl, rfl, rfl, rfl⟩

theorem sndEmits_tcpResume_send (env : TcpEnv) (t : Tcp) (i : Fin TCP_PCB_SIZE) (data : List UInt8)
    (sent : Nat) : SndEmits i t (tcpResume env t (.send i data sent)).1 := by
  unfold tcpResume
  dsimp only
  refine (SndEmits.of_quiet (sndQuiet_tcpResume_ctx t (.send i data sent)) rfl).trans ?_
  split_ifs
  · exact .refl _
  · exact .refl _
  · exact sndEmits_tcpSendRetry env _ i data sent

/-- The return of a wait in `tcp_open_rfc793`, `tcp_connect`, `tcp_accept` or `tcp_receive`
sends nothing that takes sequence space. -/
theorem sndFollows_tcpResume (env : TcpEnv) (t : Tcp) :
    ∀ w : TcpWait, w.sender = none → SndFollows t (tcpResume env t w).1
  | .establish i state, _ => by
    unfold tcpResume
    dsimp only
    refine ((sndQuiet_tcpResume_ctx t (.establish i state)).moves.follows).then_quiet ?_
    split_ifs
    · exact sndQuiet_tcpCloseRelease env _ i
    · exact sndQuiet_tcpOpenLoop env _ i state
  | .accept i, _ => by
    unfold tcpResume
    dsimp only
    refine ((sndQuiet_tcpResume_ctx t (.accept i)).moves.follows).then_quiet ?_
    split_ifs
    · exact .refl _
    · exact sndQuiet_tcpPcbRelease env _ i
    · exact sndQuiet_tcpAcceptLoop _ i
  | .receive i size, _ => by
    unfold tcpResume
    dsimp only
    refine ((sndQuiet_tcpResume_ctx t (.receive i size)).moves.follows).then_quiet ?_
    split_ifs
    · exact .refl _
    · exact sndQuiet_tcpReceiveRetry _ i size

/-! ## The ledger -/

/-- The PCB whose user sends in a step: `tcp_send` or `tcp_close` on a live PCB, or the return
of a wait in `tcp_send`. -/
def TcpEvent.sender (s : TcpSystem) : TcpEvent → Option (Fin TCP_PCB_SIZE)
  | .command (.send id _) | .command (.close id) => tcpPcbGet s.tcp id
  | .resume k => s.waits[k]?.bind TcpWait.sender
  | _ => none

/-- The sequence space a step used on PCB `j`: what it sent, when its user sends on `j`. -/
def sndUsed (s : TcpSystem) (e : TcpEvent) (s' : TcpSystem) (j : Fin TCP_PCB_SIZE) : Nat :=
  if e.sender s = some j then segSpace (s'.tcp.out.drop s.tcp.out.length) else 0

/-- The ledger after a step: one (the SYN) for a PCB in the handshake, else what was used. -/
def sndLedgerStep (s : TcpSystem) (e : TcpEvent) (s' : TcpSystem) (L : Fin TCP_PCB_SIZE → Nat) :
    Fin TCP_PCB_SIZE → Nat :=
  fun j => if (s'.tcp.pcbs j).state.handshake then 1 else L j + sndUsed s e s' j

/-- The layer with its ledger. -/
abbrev TcpLedger := TcpSystem × (Fin TCP_PCB_SIZE → Nat)

def TcpLedger.init : TcpLedger := (TcpSystem.init, fun _ => 0)

def TcpLedgerStep (x y : TcpLedger) : Prop :=
  ∃ env e r, tcpStep env x.1 e = some (y.1, r) ∧ y.2 = sndLedgerStep x.1 e y.1 x.2

def TcpLedgerReachable (x : TcpLedger) : Prop :=
  Transition.Reachable (· = TcpLedger.init) TcpLedgerStep x

/-- `tcpRun` with the ledger kept along. -/
def tcpLedgerRun : TcpLedger → List (TcpEnv × TcpEvent) → Option TcpLedger
  | x, [] => some x
  | x, (env, e) :: rest =>
    match tcpStep env x.1 e with
    | none => none
    | some (s', _) => tcpLedgerRun (s', sndLedgerStep x.1 e s' x.2) rest

/-- The ledger only watches: what the layer with it reaches, the layer reaches. -/
theorem tcpReachable_of_ledger {x : TcpLedger} (hx : TcpLedgerReachable x) : TcpReachable x.1 :=
  Transition.Reachable.map Prod.fst (fun _ h => by rw [h]; rfl)
    (fun _ _ ⟨env, e, r, h, _⟩ => ⟨env, e, r, h⟩) hx

/-- Every reachable state of the layer has a ledger. -/
theorem tcpLedgerReachable_of_tcp {s : TcpSystem} (hs : TcpReachable s) :
    ∃ L, TcpLedgerReachable (s, L) := by
  obtain ⟨x, hx, rfl⟩ : ∃ x : TcpLedger, TcpLedgerReachable x ∧ x.1 = s := by
    refine Transition.Reachable.lift Prod.fst ?_ ?_ hs
    · intro t ht
      exact ⟨TcpLedger.init, rfl, ht.symm⟩
    · rintro x t' ⟨env, e, r, h⟩
      exact ⟨(t', sndLedgerStep x.1 e t' x.2), ⟨env, e, r, h, rfl⟩, rfl⟩
  exact ⟨x.2, hx⟩

/-- A run from a reachable state ends in one, or fails and leaves the reachable default. -/
theorem tcpLedgerRun_getD_reachable :
    ∀ (run : List (TcpEnv × TcpEvent)) {x d : TcpLedger}, TcpLedgerReachable x →
      TcpLedgerReachable d → TcpLedgerReachable ((tcpLedgerRun x run).getD d)
  | [], _, _, hx, _ => hx
  | (env, e) :: rest, x, d, hx, hd => by
    rw [tcpLedgerRun]
    split
    · exact hd
    · next s' r hstep =>
      exact tcpLedgerRun_getD_reachable rest (hx.tail ⟨env, e, r, hstep, rfl⟩) hd

/-! ## Every step -/

theorem sndChange_of_follows {s : TcpSystem} {e : TcpEvent} {t' : Tcp} {waits : List TcpWait}
    (he : e.sender s = none) (h : SndFollows s.tcp t') (j : Fin TCP_PCB_SIZE) :
    SndChange (sndUsed s e ⟨t', waits⟩ j) (s.tcp.pcbs j) (t'.pcbs j) := by
  rw [sndUsed, he, if_neg (by simp)]
  exact h j

theorem sndChange_of_emits {s : TcpSystem} {e : TcpEvent} {t' : Tcp} {waits : List TcpWait}
    {i : Fin TCP_PCB_SIZE} (he : e.sender s = some i) (h : SndEmits i s.tcp t') (j : Fin TCP_PCB_SIZE) :
    SndChange (sndUsed s e ⟨t', waits⟩ j) (s.tcp.pcbs j) (t'.pcbs j) := by
  obtain ⟨segs, hout, hm⟩ := h
  have hsent : t'.out.drop s.tcp.out.length = segs := by rw [hout, List.drop_left]
  rw [sndUsed, he]
  dsimp only
  rw [hsent]
  by_cases hj : j = i
  · subst hj
    have hmj := hm j
    rw [if_pos rfl] at hmj
    rw [if_pos rfl]
    exact .inl hmj
  · have hne : some i ≠ some j := fun h => hj (Option.some.inj h).symm
    have hmj := hm j
    rw [if_neg hj] at hmj
    rw [if_neg hne]
    exact .inl hmj

theorem sndChange_tcpCommand (env : TcpEnv) (s : TcpSystem) (c : TcpCommand) (waits : List TcpWait)
    (j : Fin TCP_PCB_SIZE) :
    SndChange (sndUsed s (.command c) ⟨(tcpCommand env s.tcp c).1, waits⟩ j) (s.tcp.pcbs j)
      ((tcpCommand env s.tcp c).1.pcbs j) := by
  cases c with
  | openRfc793 local_ o => exact sndChange_of_follows (by rfl) (sndFollows_tcpOpenRfc793 env _ local_ o) j
  | openSocket => exact sndChange_of_follows (by rfl) (sndMoves_tcpOpen _).follows j
  | connect id foreign => exact sndChange_of_follows (by rfl) (sndFollows_tcpConnect env _ id foreign) j
  | bind id local_ => exact sndChange_of_follows (by rfl) (sndMoves_tcpBind _ id local_).follows j
  | listen id => exact sndChange_of_follows (by rfl) (sndMoves_tcpListen _ id).follows j
  | accept id => exact sndChange_of_follows (by rfl) (sndQuiet_tcpAccept _ id).moves.follows j
  | receive id size => exact sndChange_of_follows (by rfl) (sndQuiet_tcpReceive _ id size).moves.follows j
  | send id data =>
    cases hget : tcpPcbGet s.tcp id with
    | none =>
      refine sndChange_of_follows (by simp [TcpEvent.sender, hget]) ?_ j
      simp only [tcpCommand, tcpSend, hget]
      exact (SndMoves.refl _).follows
    | some i => exact sndChange_of_emits (by simp [TcpEvent.sender, hget]) (sndEmits_tcpSend env _ data hget) j
  | close id =>
    cases hget : tcpPcbGet s.tcp id with
    | none =>
      refine sndChange_of_follows (by simp [TcpEvent.sender, hget]) ?_ j
      simp only [tcpCommand, tcpClose, hget]
      exact (SndMoves.refl _).follows
    | some i => exact sndChange_of_emits (by simp [TcpEvent.sender, hget]) (sndEmits_tcpClose env _ hget) j

/-- One step of the layer: every PCB moves on by what the step used on it, or begins a
handshake. -/
theorem sndChange_tcpStep {env : TcpEnv} {s s' : TcpSystem} {e : TcpEvent} {r : Option TcpResult}
    (h : tcpStep env s e = some (s', r)) (j : Fin TCP_PCB_SIZE) :
    SndChange (sndUsed s e s' j) (s.tcp.pcbs j) (s'.tcp.pcbs j) := by
  cases e with
  | segment a =>
    simp only [tcpStep, Option.some.injEq, Prod.mk.injEq] at h
    obtain ⟨rfl, -⟩ := h
    dsimp only
    exact sndChange_of_follows (by rfl) (sndFollows_tcpSegmentArrives env a s.tcp) j
  | timer =>
    simp only [tcpStep, Option.some.injEq, Prod.mk.injEq] at h
    obtain ⟨rfl, -⟩ := h
    dsimp only
    exact sndChange_of_follows (by rfl) (sndMoves_tcpTimer env s.tcp).follows j
  | interrupt =>
    simp only [tcpStep, Option.some.injEq, Prod.mk.injEq] at h
    obtain ⟨rfl, -⟩ := h
    dsimp only
    exact sndChange_of_follows (by rfl) (sndMoves_tcpEventHandler s.tcp).follows j
  | command c =>
    simp only [tcpStep, Option.some.injEq, Prod.mk.injEq] at h
    obtain ⟨rfl, -⟩ := h
    exact sndChange_tcpCommand env s c _ j
  | resume k =>
    simp only [tcpStep] at h
    split at h
    · cases h
    · next w hw =>
      simp only [Option.some.injEq, Prod.mk.injEq] at h
      obtain ⟨rfl, -⟩ := h
      dsimp only
      have he : (TcpEvent.resume k).sender s = w.sender := by simp [TcpEvent.sender, hw]
      cases hsend : w.sender with
      | none => exact sndChange_of_follows (he.trans hsend) (sndFollows_tcpResume env s.tcp w hsend) j
      | some i =>
        -- only a wait in `tcp_send` has a sender
        cases w with
        | send i' data sent =>
          exact sndChange_of_emits he (sndEmits_tcpResume_send env s.tcp i' data sent) j
        | _ => cases hsend

/-! ## The invariant -/

theorem TcpPcbState.sending_of_handshake {st : TcpPcbState} (h : st.handshake = true) :
    st.sending = true := by
  cases st <;> simp_all [TcpPcbState.handshake, TcpPcbState.sending]

/-- INTERNAL: with `snd.una = iss + a` and `snd.nxt = iss + n`, at most `n - a` is
outstanding. -/
theorem una_le {nxt una iss : UInt32} {n a : Nat} (ha : a ≤ n) (hu : una = iss + a.toUInt32)
    (hn : nxt = iss + n.toUInt32) : (nxt - una).toNat ≤ n - a := by
  subst hu hn
  have h := iss.toNat_lt
  simp only [UInt32.toNat_sub, UInt32.toNat_add, Nat.toUInt32_eq, UInt32.toNat_ofNat']
  omega

/-- INTERNAL: counts add modulo `2^32`. -/
theorem toUInt32_add (n m : Nat) : (n + m).toUInt32 = n.toUInt32 + m.toUInt32 :=
  UInt32.ofNat_add n m

/-- What the ledger count `n` of a PCB says of its send sequence, modulo `2^32`: `snd.nxt` is
`n` past `iss` and `snd.una` no further; in the handshake only the SYN is counted, and it is
not acknowledged. -/
structure SndInv (n : Nat) (p : TcpPcb) : Prop where
  nxt : p.state.sending = true → p.snd.nxt = p.iss + n.toUInt32
  una : p.state.sending = true → ∃ a ≤ n, p.snd.una = p.iss + a.toUInt32
  handshake : p.state.handshake = true → n = 1 ∧ p.snd.una = p.iss

section Inv

variable {n m : Nat} {p q : TcpPcb}

theorem SndInv.of_stop (h : q.state.sending = false) : SndInv n q where
  nxt hs := by simp [h] at hs
  una hs := by simp [h] at hs
  handshake hh := absurd (TcpPcbState.sending_of_handshake hh) (by simp [h])

theorem SndInv.start (h : SndStart q) : SndInv (if q.state.handshake then 1 else n) q := by
  rw [if_pos h.handshake]
  exact ⟨fun _ => h.nxt, fun _ => ⟨0, Nat.zero_le 1, by simp [h.una]⟩, fun _ => ⟨rfl, h.una⟩⟩

/-- A move keeps the invariant with the count the ledger keeps. -/
theorem SndInv.move (hinv : SndInv n p) (h : SndMove m p q) :
    SndInv (if q.state.handshake then 1 else n + m) q := by
  cases h with
  | stop hq => exact .of_stop hq
  | move hiss hnxt huna hsend hhs =>
    by_cases hq : q.state.handshake = true
    · -- still in the handshake: nothing sent, nothing acknowledged
      obtain ⟨hp, hu, rfl⟩ := hhs hq
      obtain ⟨hn, hpu⟩ := hinv.handshake hp
      have hq₁ : q.snd.nxt = q.iss + (1 : Nat).toUInt32 := by
        rw [hnxt, hinv.nxt (TcpPcbState.sending_of_handshake hp), hn, hiss]
        simp
      rw [if_pos hq]
      exact ⟨fun _ => hq₁, fun _ => ⟨0, Nat.zero_le 1, by simp [hu, hpu, hiss]⟩,
        fun _ => ⟨rfl, by rw [hu, hpu, hiss]⟩⟩
    · rw [if_neg hq]
      refine ⟨fun hs => ?_, fun hs => ?_, fun h => absurd h hq⟩
      · rw [hnxt, hinv.nxt (hsend hs), hiss, UInt32.add_assoc, toUInt32_add]
      · obtain ⟨a, ha, hua⟩ := hinv.una (hsend hs)
        obtain ⟨d, hd, hud⟩ := huna
        have hout := una_le ha hua (hinv.nxt (hsend hs))
        refine ⟨a + d, by omega, ?_⟩
        rw [hud, hua, hiss, UInt32.add_assoc, toUInt32_add]

theorem SndInv.change (hinv : SndInv n p) (h : SndChange m p q) :
    SndInv (if q.state.handshake then 1 else n + m) q :=
  h.elim hinv.move SndInv.start

end Inv

/-- Every step keeps the invariant of every PCB with its ledger count. -/
theorem sndInv_tcpLedgerStep {x y : TcpLedger} (hinv : ∀ j, SndInv (x.2 j) (x.1.tcp.pcbs j))
    (h : TcpLedgerStep x y) (j : Fin TCP_PCB_SIZE) : SndInv (y.2 j) (y.1.tcp.pcbs j) := by
  obtain ⟨env, e, r, hstep, hL⟩ := h
  rw [hL]
  exact (hinv j).change (sndChange_tcpStep hstep j)

theorem sndInv_of_tcpLedgerReachable {x : TcpLedger} (hx : TcpLedgerReachable x) (j : Fin TCP_PCB_SIZE) :
    SndInv (x.2 j) (x.1.tcp.pcbs j) :=
  Transition.Reachable.inv (P := fun x => ∀ j, SndInv (x.2 j) (x.1.tcp.pcbs j))
    (fun _ h j => by rw [h]; exact .of_stop rfl) (fun _ _ hinv h => sndInv_tcpLedgerStep hinv h) hx j

/-- Over every run with its ledger, every PCB in SYN_SENT or a later state has
`snd.nxt = iss + n` and `snd.una = iss + a` with `a ≤ n`, modulo `2^32`, where `n` is one for
the SYN and then the payload and FINs sent on it; in the handshake `n` is one and
`snd.una = iss`. -/
theorem tcp_send_sequence_accounting {x : TcpLedger} (hx : TcpLedgerReachable x)
    (j : Fin TCP_PCB_SIZE) (hs : (x.1.tcp.pcbs j).state.sending = true) :
    (x.1.tcp.pcbs j).snd.nxt = (x.1.tcp.pcbs j).iss + (x.2 j).toUInt32 ∧
      (∃ a ≤ x.2 j, (x.1.tcp.pcbs j).snd.una = (x.1.tcp.pcbs j).iss + a.toUInt32) ∧
      ((x.1.tcp.pcbs j).state.handshake = true →
        x.2 j = 1 ∧ (x.1.tcp.pcbs j).snd.una = (x.1.tcp.pcbs j).iss) := by
  have hinv := sndInv_of_tcpLedgerReachable hx j
  exact ⟨hinv.nxt hs, hinv.una hs, hinv.handshake⟩

/-- An RFC 793 passive open on `10.0.0.1:7` that a connection from `10.0.0.2:5000` completes,
and then `tcp_send` of three bytes. -/
def tcpSendRun : List (TcpEnv × TcpEvent) :=
  let l : IpEndpoint := ⟨0x0100000a, 7⟩
  let f : IpEndpoint := ⟨0x0200000a, 5000⟩
  [(lifecycleEnv 0, .command (.openRfc793 l (.passive none))),
   (lifecycleEnv 0, .segment ⟨⟨500, 0, 1, 100⟩, TCP_FLG_SYN, [], l, f⟩),
   (lifecycleEnv 0, .segment ⟨⟨501, 1001, 0, 100⟩, TCP_FLG_ACK, [], l, f⟩),
   (lifecycleEnv 0, .resume 0),
   (lifecycleEnv 0, .command (.send 0 [1, 2, 3]))]

theorem tcp_send_sequence_after_send :
    (((tcpLedgerRun TcpLedger.init tcpSendRun).getD TcpLedger.init).1.tcp.pcbs 0).state.sending = true ∧
      let x := (tcpLedgerRun TcpLedger.init tcpSendRun).getD TcpLedger.init
      (x.1.tcp.pcbs 0).snd.nxt = (x.1.tcp.pcbs 0).iss + (x.2 0).toUInt32 ∧
        (∃ a ≤ x.2 0, (x.1.tcp.pcbs 0).snd.una = (x.1.tcp.pcbs 0).iss + a.toUInt32) ∧
        ((x.1.tcp.pcbs 0).state.handshake = true →
          x.2 0 = 1 ∧ (x.1.tcp.pcbs 0).snd.una = (x.1.tcp.pcbs 0).iss) :=
  ⟨by decide, tcp_send_sequence_accounting
    (tcpLedgerRun_getD_reachable tcpSendRun (.of_init rfl) (.of_init rfl)) 0 (by decide)⟩

example : ((tcpLedgerRun TcpLedger.init tcpSendRun).getD TcpLedger.init).2 0 = 4 := by decide

/-- An RFC 793 passive open whose SYN_RECEIVED gets an ACK of `iss` itself. -/
def tcpAckOfIssRun : List (TcpEnv × TcpEvent) :=
  let l : IpEndpoint := ⟨0x0100000a, 7⟩
  let f : IpEndpoint := ⟨0x0200000a, 5000⟩
  [(lifecycleEnv 0, .command (.openRfc793 l (.passive none))),
   (lifecycleEnv 0, .segment ⟨⟨500, 0, 1, 100⟩, TCP_FLG_SYN, [], l, f⟩),
   (lifecycleEnv 0, .segment ⟨⟨501, 1000, 0, 100⟩, TCP_FLG_ACK, [], l, f⟩)]

/-- The PCB is ESTABLISHED with `snd.una = iss = 1000`, its SYN unacknowledged, and a send
window of `0` where the peer offered `100`. -/
theorem tcp_established_on_ack_of_iss :
    (tcpRun TcpSystem.init tcpAckOfIssRun).map (fun p =>
        ((p.1.tcp.pcbs 0).state, (p.1.tcp.pcbs 0).iss, (p.1.tcp.pcbs 0).snd.una,
          (p.1.tcp.pcbs 0).snd.wnd)) =
      some (.established, 1000, 1000, 0) := by
  decide

/-- The connection of `tcpAckOfIssRun`: its open returns, and `tcp_send` is given ten bytes. -/
def tcpSendBeyondWindowRun : List (TcpEnv × TcpEvent) :=
  tcpAckOfIssRun ++
    [(lifecycleEnv 0, .resume 0), (lifecycleEnv 0, .command (.send 0 (List.replicate 10 7)))]

/-- With `snd.wnd = 0` and `snd.nxt - snd.una = 1`, `cap` is `0 - 1` modulo `2^32`: the send
emits all ten bytes at once and returns `10`, leaving `snd.nxt - snd.una = 11` against a window
of `0`. -/
theorem tcp_send_beyond_window_run :
    (tcpRun TcpSystem.init tcpSendBeyondWindowRun).map (fun p =>
        (p.2.getLast?, (p.1.tcp.pcbs 0).snd.una, (p.1.tcp.pcbs 0).snd.nxt,
          (p.1.tcp.pcbs 0).snd.wnd, p.1.tcp.out.getLast?.map fun (seg : TcpSegmentOut) =>
            seg.data.length)) =
      some (some (.ret 10), 1000, 1011, 0, some 10) := by
  decide

end Microps
