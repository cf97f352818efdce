import Microps.Model.Intr
import Microps.Lib.Transition

/-!
# The IRQ table: alone or shared, and waited for when it is a signal

Every table `intr_request_irq` builds after `intr_init` keeps `IntrSound`: an IRQ is held by one
entry, or only by entries asked for with `NET_IRQ_SHARED`; `sigmask` holds the thread's own
three signals and only numbers `sigaddset` takes (`SigValid`), among them every IRQ of the table
that is one. One inversion lemma says what a request can do (`intrRequestIrq_cases`) and the
invariant follows from it (`intrSound_intrRequestIrq`).

So (`intr_irq_table_sound`) an IRQ of the table is waited for exactly when it is a number
`sigaddset` takes; an entry for another IRQ, 0 for one, stays in the table and is never
called. A driver that asked for a valid IRQ without `NET_IRQ_SHARED` is the one handler the
interrupt thread calls on that signal, unless the IRQ is one of the thread's own signals, which
the `switch` takes first.
-/

set_option autoImplicit false

namespace Microps

variable {F D : Type}

/-- The numbers glibc's `sigaddset` takes: the signals 1 to 64 but its own two. -/
def SigValid (sig : Nat) : Prop :=
  sig ≠ 0 ∧ sig < NSIG ∧ sig ≠ 32 ∧ sig ≠ 33

instance (sig : Nat) : Decidable (SigValid sig) :=
  inferInstanceAs (Decidable (sig ≠ 0 ∧ sig < NSIG ∧ sig ≠ 32 ∧ sig ≠ 33))

/-- `sigaddset` adds a number it takes and leaves the set alone otherwise. -/
theorem sigaddset_fst (set : List Nat) (sig : Nat) :
    (sigaddset set sig).1 = if SigValid sig then set.insert sig else set := by
  unfold sigaddset
  by_cases h : SigValid sig
  · have hok : ¬(sig = 0 ∨ NSIG ≤ sig ∨ sig = 32 ∨ sig = 33) := by
      unfold SigValid at h
      omega
    rw [if_neg hok, if_pos h]
  · have hbad : sig = 0 ∨ NSIG ≤ sig ∨ sig = 32 ∨ sig = 33 := by
      unfold SigValid at h
      omega
    rw [if_pos hbad, if_neg h]

/-- The tables `intr_request_irq` builds after `intr_init`. -/
def IntrRegistered (s : Intr F D) : Prop :=
  Transition.Reachable (· = intrInit) (fun s s' => ∃ alloc irq handler flags dev,
    (intrRequestIrq alloc s irq handler flags dev).1 = s') s

/-- An IRQ held by at most one entry, or only by entries asked for with `NET_IRQ_SHARED`. -/
def IrqShared (irqVec : List (IrqEntry F D)) (irq : Nat) : Prop :=
  (irqVec.filter fun entry => entry.irq = irq).length ≤ 1 ∨
    ∀ entry ∈ irqVec, entry.irq = irq → entry.flags = NET_IRQ_SHARED

/-- The invariant of the interrupt layer. -/
structure IntrSound (s : Intr F D) : Prop where
  shared : ∀ irq, IrqShared s.irqVec irq
  waited : ∀ entry ∈ s.irqVec, SigValid entry.irq → entry.irq ∈ s.sigmask
  valid : ∀ sig ∈ s.sigmask, SigValid sig
  own : SIGUSR1 ∈ s.sigmask ∧ SIGUSR2 ∈ s.sigmask ∧ SIGALRM ∈ s.sigmask

theorem intrSound_intrInit : IntrSound (intrInit : Intr F D) := by
  refine ⟨fun _ => .inl (by simp [intrInit]), by simp [intrInit], fun sig hsig => ?_,
    by simp [intrInit]⟩
  -- the thread's own three signals are signals `sigaddset` takes
  simp only [intrInit, List.mem_cons, List.not_mem_nil, or_false] at hsig
  rcases hsig with rfl | rfl | rfl <;> decide

/-- What a request can do: nothing, or put its entry in front and have `sigaddset` add its IRQ to
`sigmask`, when every entry already there for the IRQ, and the request itself, are
`NET_IRQ_SHARED`. -/
theorem intrRequestIrq_cases (alloc : Bool) (s : Intr F D) (irq : Nat) (handler : F)
    (flags : Int32) (dev : D) :
    (intrRequestIrq alloc s irq handler flags dev).1 = s ∨
      ((∀ entry ∈ s.irqVec, entry.irq = irq →
          entry.flags = NET_IRQ_SHARED ∧ flags = NET_IRQ_SHARED) ∧
        (intrRequestIrq alloc s irq handler flags dev).1 =
          ⟨⟨irq, handler, flags, dev⟩ :: s.irqVec, (sigaddset s.sigmask irq).1⟩) := by
  unfold intrRequestIrq
  split
  · exact .inl rfl
  · rename_i hconflict
    cases alloc
    · exact .inl rfl
    · -- no entry for the IRQ conflicts: `x ^^^ NET_IRQ_SHARED = 0` is `x = NET_IRQ_SHARED`
      simp only [List.any_eq_true, Bool.and_eq_true, beq_iff_eq, Bool.or_eq_true, bne_iff_ne,
        ne_eq, not_exists, not_and, not_or, not_not, Int32.xor_eq_zero_iff] at hconflict
      exact .inr ⟨hconflict, rfl⟩

/-- A request keeps the invariant. -/
theorem intrSound_intrRequestIrq {s : Intr F D} (hs : IntrSound s) (alloc : Bool) (irq : Nat)
    (handler : F) (flags : Int32) (dev : D) :
    IntrSound (intrRequestIrq alloc s irq handler flags dev).1 := by
  rcases intrRequestIrq_cases alloc s irq handler flags dev with hsame | ⟨hok, hnew⟩
  · rw [hsame]
    exact hs
  rw [hnew, sigaddset_fst]
  refine ⟨fun irq' => ?_, fun entry hentry hvalid => ?_, fun sig hsig => ?_, ?_⟩
  · -- the new entry's IRQ: alone if nothing held it, else every holder is shared
    by_cases hirq : irq = irq'
    · subst hirq
      by_cases hheld : ∃ entry ∈ s.irqVec, entry.irq = irq
      · obtain ⟨held, hheld, hheldIrq⟩ := hheld
        refine .inr fun entry hentry hentryIrq => ?_
        rcases List.mem_cons.mp hentry with rfl | hentry
        · exact (hok held hheld hheldIrq).2
        · exact (hok entry hentry hentryIrq).1
      · have hnone : (s.irqVec.filter fun entry => entry.irq = irq) = [] :=
          List.filter_eq_nil_iff.mpr fun entry hentry h => hheld ⟨entry, hentry, by simpa using h⟩
        left
        simp [hnone]
    · -- another IRQ: the table's entries for it are the old ones
      have hfilter : ((⟨irq, handler, flags, dev⟩ :: s.irqVec : List (IrqEntry F D)).filter
          fun entry => entry.irq = irq') = s.irqVec.filter fun entry => entry.irq = irq' := by
        simp [hirq]
      rcases hs.shared irq' with hone | hall
      · exact .inl (by rw [hfilter]; exact hone)
      · refine .inr fun entry hentry hentryIrq => ?_
        rcases List.mem_cons.mp hentry with rfl | hentry
        · exact absurd hentryIrq hirq
        · exact hall entry hentry hentryIrq
  · -- the new entry's IRQ went in when `sigaddset` took it
    rcases List.mem_cons.mp hentry with rfl | hentry
    · rw [if_pos hvalid]
      exact List.mem_insert_self
    · have hold := hs.waited entry hentry hvalid
      split
      · exact List.mem_insert_of_mem hold
      · exact hold
  · -- `sigaddset` adds only a number it takes
    split at hsig
    · rename_i hirq
      rcases List.mem_insert_iff.mp hsig with rfl | hsig
      · exact hirq
      · exact hs.valid sig hsig
    · exact hs.valid sig hsig
  · obtain ⟨h₁, h₂, h₃⟩ := hs.own
    split
    · exact ⟨List.mem_insert_of_mem h₁, List.mem_insert_of_mem h₂, List.mem_insert_of_mem h₃⟩
    · exact ⟨h₁, h₂, h₃⟩

/-- INTERNAL: a list of at most one element that holds `a` is `[a]`. -/
theorem eq_singleton_of_length_le_one {α : Type} {l : List α} {a : α} (hlen : l.length ≤ 1)
    (ha : a ∈ l) : l = [a] := by
  match l, hlen, ha with
  | [b], _, ha => rw [List.mem_singleton.mp ha]

/-- **The IRQ table.** Every table `intr_request_irq` builds after `intr_init` holds each IRQ
once or only as `NET_IRQ_SHARED`, and waits for the thread's own three signals and for an IRQ
it holds exactly when `sigaddset` takes the IRQ's number. On the signal of an entry asked for
without `NET_IRQ_SHARED`, other than those three, the interrupt thread calls that entry's
handler, once, and no other. -/
theorem intr_irq_table_sound {s : Intr F D} (hreg : IntrRegistered s) :
    IntrSound s ∧ (∀ entry ∈ s.irqVec, entry.irq ∈ s.sigmask ↔ SigValid entry.irq) ∧
      ∀ entry ∈ s.irqVec, entry.flags ≠ NET_IRQ_SHARED →
        entry.irq ≠ SIGUSR1 → entry.irq ≠ SIGUSR2 → entry.irq ≠ SIGALRM →
        intrThreadDispatch s entry.irq = .irq [(entry.handler, entry.irq, entry.dev)] := by
  have hsound : IntrSound s := by
    refine Transition.Reachable.inv (fun s₀ h₀ => ?_) (fun s₁ s₂ hs₁ hstep => ?_) hreg
    · rw [h₀]
      exact intrSound_intrInit
    · obtain ⟨alloc, irq, handler, flags, dev, rfl⟩ := hstep
      exact intrSound_intrRequestIrq hs₁ alloc irq handler flags dev
  refine ⟨hsound, fun entry hentry => ⟨hsound.valid _, hsound.waited entry hentry⟩,
    fun entry hentry hflags h₁ h₂ h₃ => ?_⟩
  -- the entry is not shared, so it is the only one for its IRQ
  have halone : (s.irqVec.filter fun e => e.irq = entry.irq) = [entry] := by
    rcases hsound.shared entry.irq with hone | hall
    · exact eq_singleton_of_length_le_one hone (List.mem_filter.mpr ⟨hentry, by simp⟩)
    · exact absurd (hall entry hentry rfl) hflags
  rw [intrThreadDispatch, if_neg h₁, if_neg h₂, if_neg h₃, halone, List.map_singleton]

/-- The TAP driver's IRQ `SIGRTMIN+2` (36), shared as `ether_tap_init` asks for it, then IRQ 37
asked for alone, then IRQ 0 asked for alone: the last is in the table, but `sigaddset` refused
it, and the interrupt thread never waits for it. -/
theorem intr_irq_table_sound_tap :
    IntrRegistered (⟨[⟨0, 2, 0, 2⟩, ⟨37, 1, 0, 1⟩, ⟨36, 0, NET_IRQ_SHARED, 0⟩],
      [37, 36, 10, 12, 14]⟩ : Intr Nat Nat) ∧
    IntrSound (⟨[⟨0, 2, 0, 2⟩, ⟨37, 1, 0, 1⟩, ⟨36, 0, NET_IRQ_SHARED, 0⟩],
      [37, 36, 10, 12, 14]⟩ : Intr Nat Nat) ∧
    0 ∉ (⟨[⟨0, 2, 0, 2⟩, ⟨37, 1, 0, 1⟩, ⟨36, 0, NET_IRQ_SHARED, 0⟩],
      [37, 36, 10, 12, 14]⟩ : Intr Nat Nat).sigmask ∧
    intrThreadDispatch (⟨[⟨0, 2, 0, 2⟩, ⟨37, 1, 0, 1⟩, ⟨36, 0, NET_IRQ_SHARED, 0⟩],
      [37, 36, 10, 12, 14]⟩ : Intr Nat Nat) 37 = .irq [(1, 37, 1)] := by
  have htap : IntrRegistered (⟨[⟨36, 0, NET_IRQ_SHARED, 0⟩], [36, 10, 12, 14]⟩ : Intr Nat Nat) := by
    rw [IntrRegistered]
    exact Transition.Reachable.tail (s := intrInit) (.of_init rfl)
      ⟨true, 36, 0, NET_IRQ_SHARED, 0, by decide⟩
  have h37 : IntrRegistered (⟨[⟨37, 1, 0, 1⟩, ⟨36, 0, NET_IRQ_SHARED, 0⟩],
      [37, 36, 10, 12, 14]⟩ : Intr Nat Nat) := by
    rw [IntrRegistered] at htap ⊢
    exact htap.tail ⟨true, 37, 1, 0, 1, by decide⟩
  have hreg : IntrRegistered (⟨[⟨0, 2, 0, 2⟩, ⟨37, 1, 0, 1⟩, ⟨36, 0, NET_IRQ_SHARED, 0⟩],
      [37, 36, 10, 12, 14]⟩ : Intr Nat Nat) := by
    rw [IntrRegistered] at h37 ⊢
    exact h37.tail ⟨true, 0, 2, 0, 2, by decide⟩
  obtain ⟨hsound, hwaited, hdispatch⟩ := intr_irq_table_sound hreg
  exact ⟨hreg, hsound,
    fun h => absurd ((hwaited ⟨0, 2, 0, 2⟩ List.mem_cons_self).mp h) (by decide),
    hdispatch ⟨37, 1, 0, 1⟩ (List.mem_cons_of_mem _ List.mem_cons_self) (by decide) (by decide)
      (by decide) (by decide)⟩

end Microps
