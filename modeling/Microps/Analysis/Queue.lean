import Microps.Model.Queue
import Mathlib.Data.List.Perm.Subperm

/-!
# The linked queue refines the list

A `struct queue_head` over a heap represents the list of data of the entries it reaches from
`head` by `next` until `NULL` (`Chain`). `QueueRep` is the representation invariant: the
entries are distinct, `tail` is the last of them, and `num` counts them, modulo `2^32` since it
is an `unsigned int`. Every operation keeps it, given that `memory_alloc` hands out memory that
is not in use, and does what the list operation does: `queue_push` appends or, when the
allocation fails, returns `NULL` and changes nothing; `queue_pop` removes and returns the
oldest datum; `queue_peek` returns it; `queue_foreach` visits the data oldest first
(`queueStep_refines`, and over whole runs `queueRun_refines`).

In every such state the last entry's `next` is `NULL` and `head` is `NULL` exactly when `tail`
is. `num` is `0` exactly when the queue is empty as long as it holds fewer than `2^32` entries:
`2^32` pushes onto an empty queue leave `num` at `0` with the entries all still linked
(`queue_num_wraps`).
-/

set_option autoImplicit false

namespace Microps.Linked

variable {α : Type}

/-! ## The chain of entries -/

/-- Following `next` from a link visits the entries at these addresses, holding these data, and
ends in `NULL`. -/
inductive Chain (h : QueueHeap α) : Option Nat → List (Nat × α) → Prop
  | nil : Chain h none []
  | cons {p : Nat} {next : Option Nat} {d : α} {cs : List (Nat × α)} :
      h.mem p = some ⟨next, d⟩ → Chain h next cs → Chain h (some p) ((p, d) :: cs)

namespace Chain

variable {h h' : QueueHeap α} {p : Option Nat} {cs : List (Nat × α)}

theorem eq_none_iff (hc : Chain h p cs) : p = none ↔ cs = [] := by
  cases hc <;> simp

/-- A chain that starts with the entry at `a` starts at `a`, and goes on from its `next`. -/
theorem cons_inv {a : Nat} {d : α} (hc : Chain h p ((a, d) :: cs)) :
    p = some a ∧ ∃ next, h.mem a = some ⟨next, d⟩ ∧ Chain h next cs := by
  cases hc with
  | cons ha hrest => exact ⟨rfl, _, ha, hrest⟩

/-- Every entry of a chain is in use and holds its datum. -/
theorem mem_in_use (hc : Chain h p cs) : ∀ c ∈ cs, ∃ next, h.mem c.1 = some ⟨next, c.2⟩ := by
  induction hc with
  | nil => simp
  | @cons q next d cs hq _ ih =>
    intro c hmem
    rcases List.mem_cons.mp hmem with rfl | hmem
    · exact ⟨next, hq⟩
    · exact ih c hmem

/-- A chain survives any change of memory outside its entries. -/
theorem frame (hc : Chain h p cs) (hsame : ∀ c ∈ cs, h'.mem c.1 = h.mem c.1) : Chain h' p cs := by
  induction hc with
  | nil => exact .nil
  | @cons q next d cs hq _ ih =>
    refine .cons ?_ (ih fun c hmem => hsame c (List.mem_cons_of_mem _ hmem))
    rw [hsame (q, d) List.mem_cons_self]
    exact hq

/-- The last entry of a chain has a `NULL` `next`. -/
theorem last_next (hc : Chain h p cs) : ∀ {c}, cs.getLast? = some c → h.mem c.1 = some ⟨none, c.2⟩ := by
  induction hc with
  | nil => simp
  | @cons q next d cs hq hrest ih =>
    intro c hlast
    cases cs with
    | nil =>
      cases hrest
      simp only [List.getLast?_singleton, Option.some.injEq] at hlast
      subst hlast
      exact hq
    | cons c' cs => exact ih (by simpa [List.getLast?_cons_cons] using hlast)

/-- Linking a new last entry `a` after the last entry `t` extends the chain by it, when nothing
else of the chain changes. -/
theorem snoc (hc : Chain h p cs) (hnd : (cs.map Prod.fst).Nodup) {t a : Nat} {dt d : α}
    (hlast : cs.getLast? = some (t, dt)) (hsame : ∀ c ∈ cs, c.1 ≠ t → h'.mem c.1 = h.mem c.1)
    (ht : h'.mem t = some ⟨some a, dt⟩) (ha : h'.mem a = some ⟨none, d⟩) :
    Chain h' p (cs ++ [(a, d)]) := by
  induction hc with
  | nil => simp at hlast
  | @cons q next dq cs hq hrest ih =>
    cases cs with
    | nil =>
      -- the entry is the last one, `t` itself
      cases hrest
      simp only [List.getLast?_singleton, Option.some.injEq, Prod.mk.injEq] at hlast
      obtain ⟨rfl, rfl⟩ := hlast
      exact .cons ht (.cons ha .nil)
    | cons c' cs =>
      -- an entry before the last is not `t`, the addresses being distinct
      have hqt : q ≠ t := by
        rintro rfl
        have hmem : (q, dt) ∈ c' :: cs := List.mem_of_getLast? (by simpa using hlast)
        exact (List.nodup_cons.mp hnd).1 (List.mem_map.mpr ⟨(q, dt), hmem, rfl⟩)
      refine .cons (by rw [hsame (q, dq) List.mem_cons_self hqt]; exact hq) ?_
      exact ih (List.nodup_cons.mp hnd).2 (by simpa [List.getLast?_cons_cons] using hlast)
        fun c hmem => hsame c (List.mem_cons_of_mem _ hmem)

/-- A chain of distinct entries has no more entries than there are addresses in use. -/
theorem length_le_bound (hc : Chain h p cs) (hnd : (cs.map Prod.fst).Nodup) :
    cs.length ≤ h.bound := by
  have hsub : cs.map Prod.fst ⊆ List.range h.bound := by
    intro x hx
    obtain ⟨c, hc', rfl⟩ := List.mem_map.mp hx
    obtain ⟨next, hin⟩ := hc.mem_in_use c hc'
    have hlt : c.1 < h.bound := by
      by_contra hge
      rw [h.mem_of_ge c.1 (Nat.le_of_not_lt hge)] at hin
      cases hin
    exact List.mem_range.mpr hlt
  simpa using (hnd.subperm hsub).length_le

/-- Walking a chain with fuel for all of its entries visits their data in order. -/
theorem queueForeachFrom_eq (hc : Chain h p cs) :
    ∀ {fuel}, cs.length ≤ fuel → queueForeachFrom h fuel p = some (cs.map Prod.snd) := by
  induction hc with
  | nil => intro fuel _; cases fuel <;> rfl
  | @cons q next d cs hq _ ih =>
    intro fuel hfuel
    obtain ⟨fuel, rfl⟩ : ∃ f, fuel = f + 1 := ⟨fuel - 1, by simp at hfuel; omega⟩
    simp only [List.length_cons, Nat.add_le_add_iff_right] at hfuel
    simp [queueForeachFrom, hq, ih hfuel]

end Chain

/-! ## The representation invariant -/

/-- The head, the tail and the count of a queue over a heap, for the chain of entries `cs`: the
entries are distinct, `tail` is the last of them, and `num` counts them in 32 bits. -/
structure QueueRep (h : QueueHeap α) (q : QueueHead) (cs : List (Nat × α)) : Prop where
  chain : Chain h q.head cs
  nodup : (cs.map Prod.fst).Nodup
  tail : q.tail = cs.getLast?.map Prod.fst
  num : q.num.toNat = cs.length % 2 ^ 32

theorem queueRep_init (h : QueueHeap α) : QueueRep h queueInit [] :=
  ⟨.nil, List.nodup_nil, rfl, rfl⟩

namespace QueueRep

variable {h : QueueHeap α} {q : QueueHead} {cs : List (Nat × α)}

theorem head_eq_none_iff (hr : QueueRep h q cs) : q.head = none ↔ cs = [] :=
  hr.chain.eq_none_iff

theorem tail_eq_none_iff (hr : QueueRep h q cs) : q.tail = none ↔ cs = [] := by
  rw [hr.tail, Option.map_eq_none_iff, List.getLast?_eq_none_iff]

/-- The entry `tail` points at is in use and its `next` is `NULL`. -/
theorem tail_next (hr : QueueRep h q cs) {t : Nat} (ht : q.tail = some t) :
    ∃ d, h.mem t = some ⟨none, d⟩ := by
  rw [hr.tail] at ht
  obtain ⟨c, hc, rfl⟩ := Option.map_eq_some_iff.mp ht
  exact ⟨c.2, hr.chain.last_next hc⟩

/-- No entry of the chain is at an address not in use. -/
theorem ne_of_free (hr : QueueRep h q cs) {a : Nat} (ha : h.mem a = none) : ∀ c ∈ cs, c.1 ≠ a := by
  intro c hc hca
  obtain ⟨next, hin⟩ := hr.chain.mem_in_use c hc
  rw [hca, ha] at hin
  cases hin

end QueueRep

/-! ## One operation -/

section Operations

variable {h : QueueHeap α} {q : QueueHead} {cs : List (Nat × α)}

/-- A failed allocation: `queue_push` returns `NULL` and changes nothing. -/
theorem queuePush_none (h : QueueHeap α) (q : QueueHead) (d : α) :
    queuePush none h q d = some (h, q, none) := rfl

/-- `queue_push` with memory not in use: a new last entry holding the data, linked after the
old tail, and no other memory taken. -/
theorem queuePush_some (hr : QueueRep h q cs) {a : Nat} (ha : h.mem a = none) (d : α) :
    ∃ h' q', queuePush (some a) h q d = some (h', q', some d) ∧
      QueueRep h' q' (cs ++ [(a, d)]) ∧ ∀ r, r ≠ a → h.mem r = none → h'.mem r = none := by
  have hne := hr.ne_of_free ha
  have hnd : ((cs ++ [(a, d)]).map Prod.fst).Nodup := by
    rw [List.map_append, List.nodup_append]
    refine ⟨hr.nodup, by simp, ?_⟩
    intro x hx y hy
    obtain ⟨c, hc, rfl⟩ := List.mem_map.mp hx
    rw [List.map_singleton, List.mem_singleton] at hy
    rw [hy]
    exact hne c hc
  have hnum : (q.num + 1).toNat = (cs ++ [(a, d)]).length % 2 ^ 32 := by
    rw [UInt32.toNat_add, hr.num, List.length_append, List.length_singleton]
    simp only [UInt32.toNat_one]
    omega
  cases htail : q.tail with
  | none =>
    -- an empty queue: the new entry is both head and tail
    have hcs : cs = [] := hr.tail_eq_none_iff.mp htail
    subst hcs
    have hhead : q.head = none := hr.head_eq_none_iff.mpr rfl
    refine ⟨h.write a ⟨none, d⟩, ⟨some a, some a, q.num + 1⟩, ?_, ?_, ?_⟩
    · simp [queuePush, htail, hhead]
    · exact ⟨.cons (by simp) .nil, hnd, rfl, hnum⟩
    · intro r hra hr
      simp [Function.update_of_ne hra, hr]
  | some t =>
    -- the old tail is the chain's last entry, with a `NULL` `next`, and is not `a`
    obtain ⟨c, hlast, hct⟩ := Option.map_eq_some_iff.mp (hr.tail.symm.trans htail)
    obtain ⟨t', dt⟩ := c
    simp only at hct
    subst hct
    have ht := hr.chain.last_next hlast
    have hta : t' ≠ a := hne (t', dt) (List.mem_of_getLast? hlast)
    have hhead : q.head ≠ none := fun h0 =>
      absurd (hr.head_eq_none_iff.mp h0) (by rintro rfl; simp at hlast)
    refine ⟨(h.write a ⟨none, d⟩).write t' ⟨some a, dt⟩, { q with tail := some a, num := q.num + 1 },
      ?_, ?_, ?_⟩
    · simp [queuePush, htail, setNext, Function.update_of_ne hta, ht, hhead]
    · refine ⟨hr.chain.snoc hr.nodup hlast ?_ (by simp) (by simp [Function.update_of_ne hta.symm]),
        hnd, by simp, hnum⟩
      intro c hc hct
      simp [Function.update_of_ne hct, Function.update_of_ne (hne c hc)]
    · intro r hra hr
      have hrt : r ≠ t' := by
        rintro rfl
        rw [ht] at hr
        cases hr
      simp [Function.update_of_ne hra, Function.update_of_ne hrt, hr]

/-- `queue_pop` on an empty queue returns `NULL` and changes nothing. -/
theorem queuePop_nil (hr : QueueRep h q []) : queuePop h q = some (h, q, none) := by
  simp [queuePop, hr.head_eq_none_iff.mpr rfl]

/-- `queue_pop` on a non-empty queue unlinks and frees the oldest entry and returns its data. -/
theorem queuePop_cons {a : Nat} {d : α} (hr : QueueRep h q ((a, d) :: cs)) :
    ∃ q', queuePop h q = some (h.free a, q', some d) ∧ QueueRep (h.free a) q' cs := by
  obtain ⟨hhead, next, ha, hrest⟩ := hr.chain.cons_inv
  have hnd := List.nodup_cons.mp hr.nodup
  -- the rest of the chain does not use the freed entry
  have hchain : Chain (h.free a) next cs := hrest.frame fun c hc => by
    have hca : c.1 ≠ a := fun hca => hnd.1 (List.mem_map.mpr ⟨c, hc, hca⟩)
    simp [Function.update_of_ne hca]
  have hnum : (q.num - 1).toNat = cs.length % 2 ^ 32 := by
    have h₁ := hr.num
    rw [List.length_cons] at h₁
    rw [UInt32.toNat_sub, h₁]
    simp only [UInt32.toNat_one]
    omega
  cases hnext : next with
  | none =>
    have hcs : cs = [] := (hrest.eq_none_iff).mp hnext
    subst hcs
    refine ⟨⟨none, none, q.num - 1⟩, ?_, ⟨by rw [← hnext]; exact hchain, hnd.2, rfl, hnum⟩⟩
    simp [queuePop, hhead, ha, hnext]
  | some n =>
    have hcs : cs ≠ [] := fun hcs => absurd ((hrest.eq_none_iff).mpr hcs) (by rw [hnext]; simp)
    refine ⟨⟨some n, q.tail, q.num - 1⟩, ?_, ⟨by rw [← hnext]; exact hchain, hnd.2, ?_, hnum⟩⟩
    · simp [queuePop, hhead, ha, hnext]
    · obtain ⟨c, cs', rfl⟩ := List.exists_cons_of_ne_nil hcs
      simp [hr.tail, List.getLast?_cons_cons]

/-- `queue_peek` returns the oldest datum, or `NULL`. -/
theorem queuePeek_eq (hr : QueueRep h q cs) : queuePeek h q = some (cs.head?.map Prod.snd) := by
  cases cs with
  | nil => simp [queuePeek, hr.head_eq_none_iff.mpr rfl]
  | cons c cs =>
    obtain ⟨hhead, next, ha, -⟩ := hr.chain.cons_inv
    simp [queuePeek, hhead, ha]

/-- `queue_foreach` visits the data oldest first and ends. -/
theorem queueForeach_eq (hr : QueueRep h q cs) : queueForeach h q = some (cs.map Prod.snd) :=
  hr.chain.queueForeachFrom_eq (hr.chain.length_le_bound hr.nodup)

end Operations

/-! ## Runs -/

/-- The same operations on the list of data, as the layers above use a queue: what each leaves
and returns. -/
def listStep : QueueOp α → List α → List α × QueueOut α
  | .push alloc data, xs =>
    match Microps.queuePush alloc.isSome xs data with
    | some xs' => (xs', .ret (some data))
    | none => (xs, .ret none)
  | .pop, xs =>
    match Microps.queuePop xs with
    | some (x, rest) => (rest, .ret (some x))
    | none => (xs, .ret none)
  | .peek, xs => (xs, .ret (Microps.queuePeek xs))
  | .foreach, xs => (xs, .visited xs)

/-- List operations one after another: the list they leave and what each returned. -/
def listRun : List (QueueOp α) → List α → List α × List (QueueOut α)
  | [], xs => (xs, [])
  | op :: ops, xs =>
    ((listRun ops (listStep op xs).1).1, (listStep op xs).2 :: (listRun ops (listStep op xs).1).2)

variable {h : QueueHeap α} {q : QueueHead} {cs : List (Nat × α)}

/-- One operation on a represented queue, a push getting memory not in use, returns what the
list operation returns and represents the list it leaves. -/
theorem queueStep_refines (hr : QueueRep h q cs) {op : QueueOp α} (hf : op.fresh h = true) :
    ∃ h' q' cs', queueStep op (h, q) = some ((h', q'), (listStep op (cs.map Prod.snd)).2) ∧
      QueueRep h' q' cs' ∧ cs'.map Prod.snd = (listStep op (cs.map Prod.snd)).1 := by
  cases op with
  | push alloc d =>
    cases alloc with
    | none =>
      exact ⟨h, q, cs, by simp [queueStep, queuePush_none, listStep, Microps.queuePush], hr,
        by simp [listStep, Microps.queuePush]⟩
    | some a =>
      have ha : h.mem a = none := by simpa [QueueOp.fresh] using hf
      obtain ⟨h', q', hpush, hr', -⟩ := queuePush_some hr ha d
      exact ⟨h', q', cs ++ [(a, d)], by simp [queueStep, hpush, listStep, Microps.queuePush], hr',
        by simp [listStep, Microps.queuePush]⟩
  | pop =>
    cases cs with
    | nil => exact ⟨h, q, [], by simp [queueStep, queuePop_nil hr, listStep, Microps.queuePop], hr, rfl⟩
    | cons c cs =>
      obtain ⟨a, d⟩ := c
      obtain ⟨q', hpop, hr'⟩ := queuePop_cons hr
      exact ⟨h.free a, q', cs, by simp [queueStep, hpop, listStep, Microps.queuePop], hr', rfl⟩
  | peek =>
    exact ⟨h, q, cs, by simp [queueStep, queuePeek_eq hr, listStep, Microps.queuePeek], hr, rfl⟩
  | foreach =>
    exact ⟨h, q, cs, by simp [queueStep, queueForeach_eq hr, listStep], hr, rfl⟩

/-- Over a whole run whose pushes get memory not in use, the linked queue returns what the list
returns, operation by operation, and represents the list the run leaves. -/
theorem queueRun_refines : ∀ (ops : List (QueueOp α)) {h : QueueHeap α} {q : QueueHead}
    {cs : List (Nat × α)}, QueueRep h q cs → freshRun ops (h, q) = true →
    ∃ h' q' cs', queueRun ops (h, q) = some ((h', q'), (listRun ops (cs.map Prod.snd)).2) ∧
      QueueRep h' q' cs' ∧ cs'.map Prod.snd = (listRun ops (cs.map Prod.snd)).1
  | [], h, q, cs, hr, _ => ⟨h, q, cs, rfl, hr, rfl⟩
  | op :: ops, h, q, cs, hr, hf => by
    simp only [freshRun, Bool.and_eq_true] at hf
    obtain ⟨h₁, q₁, cs₁, hstep, hr₁, hcs₁⟩ := queueStep_refines hr hf.1
    rw [hstep] at hf
    -- the rest of the run starts from the list the first operation left
    obtain ⟨h', q', cs', hrun, hr', hcs'⟩ := queueRun_refines ops hr₁ hf.2
    rw [hcs₁] at hrun hcs'
    exact ⟨h', q', cs', by simp [queueRun, hstep, hrun, listRun], hr', hcs'⟩

/-- **The linked queue refines the list.** From `queue_init`, or a zeroed head, over any heap:
every run whose pushes get memory not in use returns what the same operations on a list
return, and ends in a queue whose entries from `head` hold the list the run leaves, distinct
and ending in `NULL`, with `tail` the last of them and its `next` `NULL`, `head` `NULL` exactly
when `tail` is, and `num` their number modulo `2^32`. -/
theorem queue_refines_list (h : QueueHeap α) (ops : List (QueueOp α))
    (hf : freshRun ops (h, queueInit) = true) :
    ∃ h' q' cs, queueRun ops (h, queueInit) = some ((h', q'), (listRun ops []).2) ∧
      cs.map Prod.snd = (listRun ops []).1 ∧ QueueRep h' q' cs ∧
      (q'.head = none ↔ q'.tail = none) ∧ ∀ t, q'.tail = some t → ∃ d, h'.mem t = some ⟨none, d⟩ := by
  obtain ⟨h', q', cs, hrun, hr, hcs⟩ := queueRun_refines ops (queueRep_init h) hf
  refine ⟨h', q', cs, hrun, hcs, hr, ?_, fun t ht => hr.tail_next ht⟩
  rw [hr.head_eq_none_iff, hr.tail_eq_none_iff]

-- two pushes, a failed allocation, a pop, a peek and a walk
example : (queueRun [.push (some 0) 1, .push (some 1) 2, .push none 3, .pop, .peek, .foreach]
      (QueueHeap.empty, queueInit)).map Prod.snd =
    some [.ret (some 1), .ret (some 2), .ret none, .ret (some 1), .ret (some 2), .visited [2]] := by
  decide

/-! ## The count wraps -/

/-- Pushes of `d` at the addresses `k`, `k + 1`, ..., `k + m - 1`. -/
def pushesFrom (k m : Nat) (d : α) : List (QueueOp α) :=
  (List.range' k m).map fun p => .push (some p) d

theorem listRun_pushesFrom (d : α) : ∀ (k m : Nat) (xs : List α),
    listRun (pushesFrom k m d) xs = (xs ++ List.replicate m d, List.replicate m (.ret (some d)))
  | _, 0, xs => by simp [pushesFrom, listRun]
  | k, m + 1, xs => by
    have ih := listRun_pushesFrom d (k + 1) m (xs ++ [d])
    simp only [pushesFrom] at ih ⊢
    simp [List.range'_succ, listRun, listStep, Microps.queuePush, ih, List.replicate_succ]

/-- Pushes at addresses from `k` on, with no memory from `k` on in use, all get memory not in
use. -/
theorem freshRun_pushesFrom (d : α) : ∀ (m k : Nat) {h : QueueHeap α} {q : QueueHead}
    {cs : List (Nat × α)}, QueueRep h q cs → (∀ p, k ≤ p → h.mem p = none) →
    freshRun (pushesFrom k m d) (h, q) = true
  | 0, _, _, _, _, _, _ => rfl
  | m + 1, k, h, q, cs, hr, hfree => by
    obtain ⟨h', q', hpush, hr', hframe⟩ := queuePush_some hr (hfree k (Nat.le_refl k)) d
    have ih := freshRun_pushesFrom d m (k + 1) hr' fun p hp =>
      hframe p (by omega) (hfree p (by omega))
    simp only [pushesFrom, List.range'_succ, List.map_cons] at ih ⊢
    simp [freshRun, QueueOp.fresh, hfree k (Nat.le_refl k), queueStep, hpush, ih]

/-- `2^32` pushes onto an empty queue, each with memory not in use, leave `num` at `0` while
`head` and `tail` point at the entries. -/
theorem queue_num_wraps :
    ∃ h q outs, queueRun (pushesFrom 0 (2 ^ 32) ()) (QueueHeap.empty, queueInit) = some ((h, q), outs) ∧
      q.head ≠ none ∧ q.tail ≠ none ∧ q.num = 0 := by
  have hf := freshRun_pushesFrom () (2 ^ 32) 0 (queueRep_init (QueueHeap.empty (α := Unit)))
    fun _ _ => rfl
  obtain ⟨h', q', cs, hrun, hcs, hr, -⟩ := queue_refines_list QueueHeap.empty _ hf
  -- the chain holds one entry per push
  have hlen : cs.length = 2 ^ 32 := by
    have := congrArg List.length hcs
    rw [listRun_pushesFrom] at this
    simpa only [List.map_nil, List.nil_append, List.length_replicate, List.length_map] using this
  have hne : cs ≠ [] := by
    intro hnil
    rw [hnil, List.length_nil] at hlen
    exact absurd hlen (by decide)
  refine ⟨h', q', _, hrun, fun h0 => hne (hr.head_eq_none_iff.mp h0),
    fun h0 => hne (hr.tail_eq_none_iff.mp h0), ?_⟩
  apply UInt32.toNat_inj.mp
  rw [hr.num, hlen]
  rfl

end Microps.Linked
