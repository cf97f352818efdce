import Microps.Model.Tcp.System

/-!
# What each operation of the TCP layer can change

The spec lemmas every later proof cites instead of unfolding the operations: `tcp_output`
changes only the retransmission queue of its PCB; `tcp_pcb_alloc` turns the first FREE slot
CLOSED; `tcp_pcb_release` leaves every slot as it was or zeroes it, and zeroes the one it is
given; `tcp_timer` and the retransmission loop only close PCBs, resend and release.
-/

set_option autoImplicit false

namespace Microps

/-- A PCB without its retransmission queue. -/
def TcpPcb.noQueue (pcb : TcpPcb) : TcpPcb := { pcb with queue := [] }

/-! ## Output -/

theorem tcpRetransmitQueueAdd_eq (env : TcpEnv) (pcb : TcpPcb) (seq : UInt32) (flg : UInt8)
    (data : List UInt8) : ∃ q, tcpRetransmitQueueAdd env pcb seq flg data = { pcb with queue := q } := by
  unfold tcpRetransmitQueueAdd
  split
  · split
    · exact ⟨_, rfl⟩
    · exact ⟨pcb.queue, rfl⟩
  · exact ⟨pcb.queue, rfl⟩

section Output

variable (env : TcpEnv) (t : Tcp) (i : Fin TCP_PCB_SIZE) (flg : UInt8) (data : List UInt8)

/-- `tcp_output` replaces the queue of its PCB and nothing else in the table. -/
theorem tcpOutput_pcbs : ∃ q, (tcpOutput env t i flg data).1.pcbs =
    Function.update t.pcbs i { t.pcbs i with queue := q } := by
  unfold tcpOutput
  dsimp only
  split
  · obtain ⟨q, hq⟩ := tcpRetransmitQueueAdd_eq env (t.pcbs i)
      (if TCP_FLG_ISSET flg TCP_FLG_SYN then (t.pcbs i).iss else (t.pcbs i).snd.nxt) flg data
    exact ⟨q, by rw [hq]; rfl⟩
  · exact ⟨(t.pcbs i).queue, rfl⟩

theorem tcpOutput_noQueue (j : Fin TCP_PCB_SIZE) :
    ((tcpOutput env t i flg data).1.pcbs j).noQueue = (t.pcbs j).noQueue := by
  obtain ⟨q, hq⟩ := tcpOutput_pcbs env t i flg data
  rw [hq]
  by_cases h : j = i
  · subst h; simp [TcpPcb.noQueue]
  · simp [h]

@[simp] theorem tcpOutput_state (j : Fin TCP_PCB_SIZE) :
    ((tcpOutput env t i flg data).1.pcbs j).state = (t.pcbs j).state :=
  (congrArg TcpPcb.state (tcpOutput_noQueue env t i flg data j) :)

@[simp] theorem tcpOutput_mode (j : Fin TCP_PCB_SIZE) :
    ((tcpOutput env t i flg data).1.pcbs j).mode = (t.pcbs j).mode :=
  (congrArg TcpPcb.mode (tcpOutput_noQueue env t i flg data j) :)

@[simp] theorem tcpOutput_snd (j : Fin TCP_PCB_SIZE) :
    ((tcpOutput env t i flg data).1.pcbs j).snd = (t.pcbs j).snd :=
  (congrArg TcpPcb.snd (tcpOutput_noQueue env t i flg data j) :)

@[simp] theorem tcpOutput_iss (j : Fin TCP_PCB_SIZE) :
    ((tcpOutput env t i flg data).1.pcbs j).iss = (t.pcbs j).iss :=
  (congrArg TcpPcb.iss (tcpOutput_noQueue env t i flg data j) :)

@[simp] theorem tcpOutput_rcv (j : Fin TCP_PCB_SIZE) :
    ((tcpOutput env t i flg data).1.pcbs j).rcv = (t.pcbs j).rcv :=
  (congrArg TcpPcb.rcv (tcpOutput_noQueue env t i flg data j) :)

@[simp] theorem tcpOutput_irs (j : Fin TCP_PCB_SIZE) :
    ((tcpOutput env t i flg data).1.pcbs j).irs = (t.pcbs j).irs :=
  (congrArg TcpPcb.irs (tcpOutput_noQueue env t i flg data j) :)

@[simp] theorem tcpOutput_buf (j : Fin TCP_PCB_SIZE) :
    ((tcpOutput env t i flg data).1.pcbs j).buf = (t.pcbs j).buf :=
  (congrArg TcpPcb.buf (tcpOutput_noQueue env t i flg data j) :)

@[simp] theorem tcpOutput_ctx (j : Fin TCP_PCB_SIZE) :
    ((tcpOutput env t i flg data).1.pcbs j).ctx = (t.pcbs j).ctx :=
  (congrArg TcpPcb.ctx (tcpOutput_noQueue env t i flg data j) :)

@[simp] theorem tcpOutput_twTimer (j : Fin TCP_PCB_SIZE) :
    ((tcpOutput env t i flg data).1.pcbs j).twTimer = (t.pcbs j).twTimer :=
  (congrArg TcpPcb.twTimer (tcpOutput_noQueue env t i flg data j) :)

@[simp] theorem tcpOutput_parent (j : Fin TCP_PCB_SIZE) :
    ((tcpOutput env t i flg data).1.pcbs j).parent = (t.pcbs j).parent :=
  (congrArg TcpPcb.parent (tcpOutput_noQueue env t i flg data j) :)

@[simp] theorem tcpOutput_backlog (j : Fin TCP_PCB_SIZE) :
    ((tcpOutput env t i flg data).1.pcbs j).backlog = (t.pcbs j).backlog :=
  (congrArg TcpPcb.backlog (tcpOutput_noQueue env t i flg data j) :)

/-- Every other PCB is untouched. -/
@[simp] theorem tcpOutput_pcbs_of_ne {j : Fin TCP_PCB_SIZE} (h : j ≠ i) :
    (tcpOutput env t i flg data).1.pcbs j = t.pcbs j := by
  obtain ⟨q, hq⟩ := tcpOutput_pcbs env t i flg data
  rw [hq, Function.update_of_ne h]

/-- `tcp_output` sends one segment, with the flags and payload it is given. -/
theorem tcpOutput_out : ∃ seg : TcpSegmentOut,
    (tcpOutput env t i flg data).1.out = t.out ++ [seg] ∧ seg.flg = flg ∧ seg.data = data :=
  ⟨_, rfl, rfl, rfl⟩

end Output

@[simp] theorem tcpOutputSegment_pcbs (env : TcpEnv) (t : Tcp) (seg : TcpSegmentOut) :
    (tcpOutputSegment env t seg).1.pcbs = t.pcbs := rfl

@[simp] theorem Tcp.foldl_send_pcbs (segs : List TcpSegmentOut) (t : Tcp) :
    (segs.foldl Tcp.send t).pcbs = t.pcbs := by
  induction segs generalizing t with
  | nil => rfl
  | cons seg rest ih => rw [List.foldl_cons, ih, Tcp.send_pcbs]

@[simp] theorem Tcp.set_set (t : Tcp) (i : Fin TCP_PCB_SIZE) (p q : TcpPcb) :
    (t.set i p).set i q = t.set i q := by
  simp [Tcp.set]

/-- `queue_push(&pcb->parent->backlog, pcb)` changes at most the parent's backlog. -/
theorem tcpBacklogPush_pcbs (env : TcpEnv) (t : Tcp) (i j : Fin TCP_PCB_SIZE) :
    (tcpBacklogPush env t i).pcbs j = t.pcbs j ∨
      ∃ b, (tcpBacklogPush env t i).pcbs j = { t.pcbs j with backlog := b } := by
  unfold tcpBacklogPush
  split
  · exact Or.inl rfl
  · next p _ =>
    split
    · next b _ =>
      by_cases hj : j = p
      · subst hj
        exact Or.inr ⟨b, by simp⟩
      · exact Or.inl (Tcp.set_pcbs_of_ne _ _ hj)
    · exact Or.inl rfl

/-! ## Allocation and release -/

/-- `tcp_pcb_alloc` takes a FREE slot and changes only its state and wait context. -/
theorem tcpPcbAlloc_eq_some {t t' : Tcp} {i : Fin TCP_PCB_SIZE} (h : tcpPcbAlloc t = some (i, t')) :
    (t.pcbs i).state = .free ∧ t' = t.set i { t.pcbs i with state := .closed, ctx := schedCtxInit } := by
  unfold tcpPcbAlloc at h
  split at h
  · cases h
  · rename_i k hk
    cases h
    exact ⟨by simpa using List.find?_some hk, rfl⟩

/-- INTERNAL: the recursion of `tcp_pcb_release` leaves every slot as it was or zeroes it;
the backlog loop on `i` may also change slot `i` itself, whose backlog it pops. -/
theorem tcpPcbReleaseFuel_pcbs (env : TcpEnv) (fuel : Nat) :
    ∀ (t : Tcp) (i j : Fin TCP_PCB_SIZE),
      ((tcpPcbReleaseFuel env fuel t i).pcbs j = t.pcbs j ∨
        (tcpPcbReleaseFuel env fuel t i).pcbs j = TcpPcb.zero) ∧
      (j ≠ i → (tcpPcbReleaseBacklog env fuel t i).pcbs j = t.pcbs j ∨
        (tcpPcbReleaseBacklog env fuel t i).pcbs j = TcpPcb.zero) := by
  induction fuel with
  | zero => exact fun _ _ _ => ⟨Or.inl rfl, fun _ => Or.inl rfl⟩
  | succ fuel ih =>
    intro t i j
    constructor
    · -- the released slot ends zeroed; the others are as the backlog loop leaves them
      rw [tcpPcbReleaseFuel]
      split
      · exact Or.inl rfl
      · by_cases hj : j = i
        · subst hj
          exact Or.inr (by simp)
        · rw [Tcp.set_pcbs_of_ne _ _ hj]
          rcases (ih _ i j).2 hj with h | h
          · exact Or.inl (by rw [h, Tcp.set_pcbs_of_ne _ _ hj])
          · exact Or.inr h
    · intro hj
      rw [tcpPcbReleaseBacklog]
      split
      · exact Or.inl rfl
      · rename_i est rest _
        rcases (ih _ i j).2 hj with h | h
        · rw [h]
          rcases (ih _ est j).1 with h' | h'
          · exact Or.inl (by rw [h', Tcp.set_pcbs_of_ne _ _ hj])
          · exact Or.inr h'
        · exact Or.inr h

/-- INTERNAL: the release sends nothing. -/
theorem tcpPcbReleaseFuel_out (env : TcpEnv) (fuel : Nat) :
    ∀ (t : Tcp) (i : Fin TCP_PCB_SIZE),
      (tcpPcbReleaseFuel env fuel t i).out = t.out ∧ (tcpPcbReleaseBacklog env fuel t i).out = t.out := by
  induction fuel with
  | zero => exact fun _ _ => ⟨rfl, rfl⟩
  | succ fuel ih =>
    intro t i
    constructor
    · rw [tcpPcbReleaseFuel]
      split
      · rfl
      · rw [Tcp.set_out, (ih _ i).2, Tcp.set_out]
    · rw [tcpPcbReleaseBacklog]
      split
      · rfl
      · rename_i est rest _
        rw [(ih _ i).2, (ih _ est).1, Tcp.set_out]

section Release

variable (env : TcpEnv) (t : Tcp) (i : Fin TCP_PCB_SIZE)

/-- `tcp_pcb_release` leaves every slot as it was or zeroes it. -/
theorem tcpPcbRelease_pcbs (j : Fin TCP_PCB_SIZE) :
    (tcpPcbRelease env t i).pcbs j = t.pcbs j ∨ (tcpPcbRelease env t i).pcbs j = TcpPcb.zero :=
  (tcpPcbReleaseFuel_pcbs env _ t i j).1

/-- The released slot is zeroed: `pthread_cond_destroy` never returns `-1`. -/
@[simp] theorem tcpPcbRelease_self : (tcpPcbRelease env t i).pcbs i = TcpPcb.zero := by
  unfold tcpPcbRelease
  rw [tcpPcbReleaseFuel, if_neg (env.pthreadCondDestroy_ne _)]
  simp

@[simp] theorem tcpPcbRelease_out : (tcpPcbRelease env t i).out = t.out :=
  (tcpPcbReleaseFuel_out env _ t i).1

@[simp] theorem tcpCloseRelease_out : (tcpCloseRelease env t i).out = t.out := by
  rw [tcpCloseRelease, tcpPcbRelease_out, Tcp.set_out]

end Release

/-! ## The timer and the event handler -/

theorem tcpRetransmitQueueEmit_pcb (env : TcpEnv) (pcb : TcpPcb) (entry : TcpQueueEntry) :
    (tcpRetransmitQueueEmit env pcb entry).1 = pcb ∨
      (tcpRetransmitQueueEmit env pcb entry).1 = { pcb with state := .closed } := by
  unfold tcpRetransmitQueueEmit
  split_ifs
  · exact Or.inr rfl
  · exact Or.inl rfl
  · exact Or.inl rfl

/-- The retransmission loop either leaves its PCB alone or closes it. -/
theorem tcpRetransmitQueueForeach_pcb (env : TcpEnv) :
    ∀ (pcb : TcpPcb) (queue : List TcpQueueEntry),
      (tcpRetransmitQueueForeach env pcb queue).1 = pcb ∨
        (tcpRetransmitQueueForeach env pcb queue).1 = { pcb with state := .closed }
  | pcb, [] => Or.inl rfl
  | pcb, entry :: rest => by
    have hp := tcpRetransmitQueueEmit_pcb env pcb entry
    rcases h : tcpRetransmitQueueEmit env pcb entry with ⟨p, e, s⟩
    rw [h] at hp
    dsimp only at hp
    simp only [tcpRetransmitQueueForeach, h]
    -- a PCB the deadline has closed stays closed for the rest of the queue
    rcases hp with hp | hp <;> rw [hp]
    · exact tcpRetransmitQueueForeach_pcb env pcb rest
    · rcases tcpRetransmitQueueForeach_pcb env { pcb with state := .closed } rest with h' | h'
      · exact Or.inr h'
      · exact Or.inr h'

/-- One slot of `tcp_timer` releases PCBs, or closes its PCB and replaces its queue. -/
theorem tcpTimerPcb_pcbs (env : TcpEnv) (t : Tcp) (i j : Fin TCP_PCB_SIZE) :
    (tcpTimerPcb env t i).pcbs j = t.pcbs j ∨ (tcpTimerPcb env t i).pcbs j = TcpPcb.zero ∨
      ∃ q, (tcpTimerPcb env t i).pcbs j = { t.pcbs j with queue := q } ∨
        (tcpTimerPcb env t i).pcbs j = { t.pcbs j with state := .closed, queue := q } := by
  unfold tcpTimerPcb
  dsimp only
  split_ifs
  · exact Or.inl rfl
  · exact (tcpPcbRelease_pcbs env t i j).imp_right Or.inl
  · have hp := tcpRetransmitQueueForeach_pcb env (t.pcbs i) (t.pcbs i).queue
    rcases h : tcpRetransmitQueueForeach env (t.pcbs i) (t.pcbs i).queue with ⟨p, q, segs⟩
    rw [h] at hp
    dsimp only at hp
    simp only [Tcp.foldl_send_pcbs]
    by_cases hj : j = i
    · subst hj
      rw [Tcp.set_pcbs_self]
      rcases hp with hp | hp <;> rw [hp]
      · exact Or.inr (Or.inr ⟨q, Or.inl rfl⟩)
      · exact Or.inr (Or.inr ⟨q, Or.inr rfl⟩)
    · exact Or.inl (Tcp.set_pcbs_of_ne _ _ hj)

/-- `event_handler` only interrupts wait contexts. -/
theorem tcpEventHandler_pcbs (t : Tcp) (j : Fin TCP_PCB_SIZE) :
    ∃ ctx, (tcpEventHandler t).pcbs j = { t.pcbs j with ctx := ctx } := by
  unfold tcpEventHandler
  dsimp only
  split_ifs
  · exact ⟨_, rfl⟩
  · exact ⟨(t.pcbs j).ctx, rfl⟩

/-! ## Ids -/

/-- A slot that is not FREE is found by its id. -/
theorem tcpPcbGet_tcpPcbId {t : Tcp} {i : Fin TCP_PCB_SIZE} (h : (t.pcbs i).state ≠ .free) :
    tcpPcbGet t (tcpPcbId i) = some i := by
  have hi : (tcpPcbId i).toNat = i.val := by simp [tcpPcbId]
  have hrange : ¬(tcpPcbId i < 0 ∨ tcpPcbId i ≥ TCP_PCB_SIZE) := by
    have := i.isLt
    simp only [tcpPcbId, TCP_PCB_SIZE] at *
    omega
  unfold tcpPcbGet
  rw [dif_neg hrange]
  simp only [hi, Fin.eta]
  rw [if_neg h]

/-! ## Waiting -/

/-- `sched_sleep` either gives up (the command goes on as `intr`) or only records the wait in
the PCB's context. -/
theorem tcpSleep_eq (t : Tcp) (i : Fin TCP_PCB_SIZE) (w : TcpWait) (intr : Tcp × TcpResult) :
    tcpSleep t i w intr = intr ∨
      ∃ ctx, tcpSleep t i w intr = (t.set i { t.pcbs i with ctx := ctx }, .wait w) := by
  unfold tcpSleep
  split
  · exact Or.inl rfl
  · exact Or.inr ⟨_, rfl⟩

/-- `sched_sleep` sends nothing, nor does what the command goes on with here. -/
theorem tcpSleep_out (t : Tcp) (i : Fin TCP_PCB_SIZE) (w : TcpWait) {intr : Tcp × TcpResult}
    (h : intr.1.out = t.out) : (tcpSleep t i w intr).1.out = t.out := by
  rcases tcpSleep_eq t i w intr with heq | ⟨ctx, heq⟩ <;> rw [heq]
  · exact h
  · rfl

end Microps
