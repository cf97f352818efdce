import Microps.Model.Net

/-!
# `net_timer_handler`: each timer on its own, never early

`struct timeval` arithmetic first. On values whose microseconds are below a second, as
`gettimeofday` returns them, `timersub` is the difference in microseconds, with or without its
borrow, and `timercmp(<)` is the order of microseconds (`usec_timersub`, `timercmpLt_iff`).

So in one call `net_timer_handler` runs a timer's handler exactly when the reading it takes for
that timer is more than the interval after the timer last ran, and then restarts the timer from
the reading (`count_netTimerHandler`). What a timer should do is stated on its own, in
microseconds (`NetTimer.fires`): on each reading, fire when more than the interval has passed
since it last fired, and restart from the reading; such a timer fires at most once per interval
and one microsecond of the time its `last` moves (`NetTimer.fires_spaced`). Over any run of
`SIGALRM`s the table runs each of its timers as that timer alone (`net_timer_run_spaced`).
-/

set_option autoImplicit false

namespace Microps

/-! ## `struct timeval` -/

/-- The time a `struct timeval` stands for, in microseconds. -/
def Timeval.usec (t : Timeval) : Int :=
  t.tvSec * 1000000 + t.tvUsec

/-- A `struct timeval` as `gettimeofday` returns it: fewer microseconds than a second. -/
structure Timeval.Normal (t : Timeval) : Prop where
  nonneg : 0 ≤ t.tvUsec
  lt : t.tvUsec < 1000000

/-- `timersub` is the difference in microseconds, borrow or not. -/
@[simp] theorem usec_timersub (a b : Timeval) : (timersub a b).usec = a.usec - b.usec := by
  unfold timersub Timeval.usec
  split <;> (dsimp only; omega)

/-- The difference of two normal values is normal: the borrow brings the microseconds back
below a second. -/
theorem Timeval.Normal.sub {a b : Timeval} (ha : a.Normal) (hb : b.Normal) :
    (timersub a b).Normal := by
  have := ha.nonneg
  have := ha.lt
  have := hb.nonneg
  have := hb.lt
  unfold timersub
  split <;> exact ⟨by dsimp only; omega, by dsimp only; omega⟩

/-- On normal values `timercmp(<)` is the order of microseconds. -/
theorem timercmpLt_iff {a b : Timeval} (ha : a.Normal) (hb : b.Normal) :
    timercmpLt a b = true ↔ a.usec < b.usec := by
  have := ha.nonneg
  have := ha.lt
  have := hb.nonneg
  have := hb.lt
  unfold timercmpLt Timeval.usec
  split
  · rw [decide_eq_true_iff]
    omega
  · rw [decide_eq_true_iff]
    omega

/-! ## One call -/

variable {H : Type}

/-- The test of `net_timer_handler` for a timer on the reading `now`: its interval is less than
the time since it last ran. -/
def NetTimer.Due (now : Timeval) (t : NetTimer H) : Prop :=
  timercmpLt t.interval (timersub now t.last) = true

instance (now : Timeval) (t : NetTimer H) : Decidable (t.Due now) :=
  inferInstanceAs (Decidable (timercmpLt t.interval (timersub now t.last) = true))

/-- The timer after `net_timer_handler` took the reading `now` for it. -/
def NetTimer.after (now : Timeval) (t : NetTimer H) : NetTimer H :=
  if t.Due now then { t with last := now } else t

@[simp] theorem NetTimer.after_interval (now : Timeval) (t : NetTimer H) :
    (t.after now).interval = t.interval := by
  unfold NetTimer.after
  split <;> rfl

@[simp] theorem NetTimer.after_handler (now : Timeval) (t : NetTimer H) :
    (t.after now).handler = t.handler := by
  unfold NetTimer.after
  split <;> rfl

/-- On normal values a timer is due exactly when the reading is more than the interval after it
last ran, in microseconds. -/
theorem NetTimer.due_iff {now : Timeval} {t : NetTimer H} (hnow : now.Normal)
    (hint : t.interval.Normal) (hlast : t.last.Normal) :
    t.Due now ↔ t.interval.usec < now.usec - t.last.usec := by
  rw [NetTimer.Due, timercmpLt_iff hint (hnow.sub hlast), usec_timersub]

theorem NetTimer.after_normal {now : Timeval} {t : NetTimer H} (hnow : now.Normal)
    (hlast : t.last.Normal) : (t.after now).last.Normal := by
  unfold NetTimer.after
  split
  · exact hnow
  · exact hlast

section Handler

variable (clock : Nat → Timeval)

/-- One round of the loop of `net_timer_handler`: the timer in front, then the rest from the
next reading on. -/
theorem netTimerHandlerFrom_cons (k : Nat) (t : NetTimer H) (ts : List (NetTimer H)) :
    netTimerHandlerFrom clock k (t :: ts) =
      (t.after (clock k) :: (netTimerHandlerFrom clock (k + 1) ts).1,
        (if t.Due (clock k) then [t.handler] else []) ++ (netTimerHandlerFrom clock (k + 1) ts).2) := by
  rw [netTimerHandlerFrom]
  rcases netTimerHandlerFrom clock (k + 1) ts with ⟨rest, fired⟩
  by_cases hdue : timercmpLt t.interval (timersub (clock k) t.last) = true
  · simp only [NetTimer.after, NetTimer.Due, hdue, if_true, List.singleton_append]
  · simp only [NetTimer.after, NetTimer.Due, hdue, Bool.false_eq_true, if_false, List.nil_append]

/-- The `j`-th timer after the loop is the `j`-th before it, after the reading taken for it. -/
theorem netTimerHandlerFrom_getElem? :
    ∀ (timers : List (NetTimer H)) (k j : Nat),
      (netTimerHandlerFrom clock k timers).1[j]? = timers[j]?.map (NetTimer.after (clock (k + j)))
  | [], _, _ => by simp [netTimerHandlerFrom]
  | t :: ts, k, 0 => by simp [netTimerHandlerFrom_cons]
  | t :: ts, k, j + 1 => by
    rw [netTimerHandlerFrom_cons, List.getElem?_cons_succ, List.getElem?_cons_succ,
      netTimerHandlerFrom_getElem? ts (k + 1) j, Nat.add_right_comm, Nat.add_assoc]

/-- The loop keeps the table's handlers. -/
theorem handlers_netTimerHandlerFrom :
    ∀ (timers : List (NetTimer H)) (k : Nat),
      (netTimerHandlerFrom clock k timers).1.map NetTimer.handler = timers.map NetTimer.handler
  | [], _ => by simp [netTimerHandlerFrom]
  | t :: ts, k => by
    rw [netTimerHandlerFrom_cons, List.map_cons, List.map_cons, NetTimer.after_handler,
      handlers_netTimerHandlerFrom ts (k + 1)]

/-- Every handler the loop runs is one of the table's. -/
theorem mem_handlers_of_fired :
    ∀ (timers : List (NetTimer H)) (k : Nat) (h : H),
      h ∈ (netTimerHandlerFrom clock k timers).2 → h ∈ timers.map NetTimer.handler
  | [], _, _, hh => by simp [netTimerHandlerFrom] at hh
  | t :: ts, k, h, hh => by
    rw [netTimerHandlerFrom_cons, List.mem_append] at hh
    rw [List.map_cons, List.mem_cons]
    rcases hh with hh | hh
    · left
      split at hh
      · exact List.mem_singleton.mp hh
      · exact absurd hh List.not_mem_nil
    · exact .inr (mem_handlers_of_fired ts (k + 1) h hh)

/-- With handlers that differ, the loop runs the `j`-th timer's handler once when that timer is
due on the reading taken for it, and not at all otherwise. -/
theorem count_netTimerHandlerFrom [DecidableEq H] :
    ∀ {timers : List (NetTimer H)}, (timers.map NetTimer.handler).Nodup →
      ∀ (k : Nat) {j : Nat} {t : NetTimer H}, timers[j]? = some t →
        (netTimerHandlerFrom clock k timers).2.count t.handler =
          if t.Due (clock (k + j)) then 1 else 0
  | [], _, _, _, _, ht => by simp at ht
  | t₀ :: ts, hnodup, k, j, t, ht => by
    rw [List.map_cons, List.nodup_cons] at hnodup
    rw [netTimerHandlerFrom_cons, List.count_append]
    cases j with
    | zero =>
      -- the timer in front: none of the others has its handler
      obtain rfl : t₀ = t := Option.some.inj ht
      have hrest : (netTimerHandlerFrom clock (k + 1) ts).2.count t₀.handler = 0 :=
        List.count_eq_zero.mpr fun hmem => hnodup.1 (mem_handlers_of_fired clock ts _ _ hmem)
      rw [hrest, Nat.add_zero, Nat.add_zero]
      split <;> simp
    | succ j =>
      -- a timer further on: the front one's handler differs from it
      rw [List.getElem?_cons_succ] at ht
      have hne : t₀.handler ≠ t.handler := fun heq =>
        hnodup.1 (heq ▸ List.mem_map_of_mem (List.mem_of_getElem? ht))
      have hfront : (if t₀.Due (clock k) then [t₀.handler] else []).count t.handler = 0 := by
        split <;> simp [hne]
      rw [hfront, Nat.zero_add, count_netTimerHandlerFrom hnodup.2 (k + 1) ht, Nat.add_right_comm,
        Nat.add_assoc]

end Handler

/-- In microseconds: one call runs a timer's handler once when the reading taken for it is more
than its interval after it last ran, and not at all otherwise. -/
theorem count_netTimerHandler [DecidableEq H] (clock : Nat → Timeval)
    (hclock : ∀ j, (clock j).Normal) {timers : List (NetTimer H)}
    (hnodup : (timers.map NetTimer.handler).Nodup) {j : Nat} {t : NetTimer H}
    (ht : timers[j]? = some t) (hint : t.interval.Normal) (hlast : t.last.Normal) :
    (netTimerHandler clock timers).2.count t.handler =
      if t.interval.usec < (clock j).usec - t.last.usec then 1 else 0 := by
  have hcount := count_netTimerHandlerFrom clock hnodup 0 ht
  rw [Nat.zero_add] at hcount
  rw [netTimerHandler, hcount]
  exact if_congr (NetTimer.due_iff (hclock j) hint hlast) rfl rfl

/-! ## A timer on its own -/

/-- A timer on its own, in microseconds, over a run of readings: on each it fires when the
reading is more than its interval after it last fired, and restarts from the reading. The timer
at the end, and how many times it fired. -/
def NetTimer.fires (t : NetTimer H) : List Timeval → NetTimer H × Nat
  | [] => (t, 0)
  | now :: nows =>
    if t.interval.usec < now.usec - t.last.usec then
      let (t', n) := NetTimer.fires { t with last := now } nows
      (t', n + 1)
    else t.fires nows

@[simp] theorem NetTimer.fires_interval (t : NetTimer H) :
    ∀ nows : List Timeval, (t.fires nows).1.interval = t.interval
  | [] => rfl
  | now :: nows => by
    unfold NetTimer.fires
    split
    · exact NetTimer.fires_interval _ nows
    · exact NetTimer.fires_interval t nows

@[simp] theorem NetTimer.fires_handler (t : NetTimer H) :
    ∀ nows : List Timeval, (t.fires nows).1.handler = t.handler
  | [] => rfl
  | now :: nows => by
    unfold NetTimer.fires
    split
    · exact NetTimer.fires_handler _ nows
    · exact NetTimer.fires_handler t nows

/-- A timer on its own fires at most once per interval and one microsecond of the time its
`last` moves, whatever the readings. -/
theorem NetTimer.fires_spaced (t : NetTimer H) :
    ∀ nows : List Timeval,
      ((t.fires nows).2 : Int) * (t.interval.usec + 1) ≤ (t.fires nows).1.last.usec - t.last.usec
  | [] => by simp [NetTimer.fires]
  | now :: nows => by
    unfold NetTimer.fires
    split
    · -- it fires on `now`, more than an interval after `last`, and the rest is spaced from `now`
      rename_i hdue
      have hrest := NetTimer.fires_spaced { t with last := now } nows
      dsimp only at hrest ⊢
      rw [Int.natCast_add, Int.natCast_one, Int.add_mul, Int.one_mul]
      omega
    · exact NetTimer.fires_spaced t nows

/-- On normal values one reading moves a timer as `net_timer_handler` does and as the timer on
its own does. -/
theorem NetTimer.after_eq {now : Timeval} {t : NetTimer H} (hnow : now.Normal)
    (hint : t.interval.Normal) (hlast : t.last.Normal) :
    t.after now = if t.interval.usec < now.usec - t.last.usec then { t with last := now } else t := by
  unfold NetTimer.after
  exact if_congr (NetTimer.due_iff hnow hint hlast) rfl rfl

/-! ## Runs -/

/-- What the timers' run needs of the table: every interval and every `last` normal. -/
def NetTimersNormal (timers : List (NetTimer H)) : Prop :=
  ∀ t ∈ timers, t.interval.Normal ∧ t.last.Normal

theorem netTimersNormal_netTimerHandler {clock : Nat → Timeval} (hclock : ∀ j, (clock j).Normal)
    {timers : List (NetTimer H)} (hnormal : NetTimersNormal timers) :
    NetTimersNormal (netTimerHandler clock timers).1 := by
  intro t' ht'
  obtain ⟨j, hj⟩ := List.getElem?_of_mem ht'
  rw [netTimerHandler, netTimerHandlerFrom_getElem?, Option.map_eq_some_iff] at hj
  obtain ⟨t, ht, rfl⟩ := hj
  have ⟨hint, hlast⟩ := hnormal t (List.mem_of_getElem? ht)
  exact ⟨by rw [NetTimer.after_interval]; exact hint, NetTimer.after_normal (hclock _) hlast⟩

/-- **Each timer on its own.** Over any run of `SIGALRM`s whose clock readings are normal, from
a table whose handlers differ and whose intervals and times are normal, the timer at each place
ends as that timer on its own would over the readings taken for it, and its handler ran as often
as that timer fired: exactly at the calls whose reading was more than its interval after it
last ran. So a handler runs at most once per interval and one microsecond of the time its
`last` moves, however the clock goes. -/
theorem net_timer_run_spaced [DecidableEq H] :
    ∀ (clocks : List (Nat → Timeval)) {timers : List (NetTimer H)},
      (∀ clock ∈ clocks, ∀ j, (clock j).Normal) → (timers.map NetTimer.handler).Nodup →
      NetTimersNormal timers → ∀ {j : Nat} {t : NetTimer H}, timers[j]? = some t →
      (netTimerRun timers clocks).1[j]? = some (t.fires (clocks.map fun clock => clock j)).1 ∧
        (netTimerRun timers clocks).2.count t.handler = (t.fires (clocks.map fun clock => clock j)).2 ∧
        (t.fires (clocks.map fun clock => clock j)).1.interval = t.interval ∧
        (t.fires (clocks.map fun clock => clock j)).1.handler = t.handler ∧
        ((t.fires (clocks.map fun clock => clock j)).2 : Int) * (t.interval.usec + 1) ≤
          (t.fires (clocks.map fun clock => clock j)).1.last.usec - t.last.usec
  | [], timers, _, _, _, j, t, ht => by
    refine ⟨?_, ?_, rfl, rfl, by simp [NetTimer.fires]⟩ <;> simp [netTimerRun, NetTimer.fires, ht]
  | clock :: clocks, timers, hclocks, hnodup, hnormal, j, t, ht => by
    have hclock := hclocks clock (List.mem_cons_self ..)
    obtain ⟨hint, hlast⟩ := hnormal t (List.mem_of_getElem? ht)
    -- the call: the timer after it, and how often it ran in it
    have ht₁ : (netTimerHandler clock timers).1[j]? = some (t.after (clock j)) := by
      rw [netTimerHandler, netTimerHandlerFrom_getElem?, ht, Nat.zero_add, Option.map_some]
    have hcall := count_netTimerHandler clock hclock hnodup ht hint hlast
    -- the rest of the run, from the table the call left
    have hnodup₁ : ((netTimerHandler clock timers).1.map NetTimer.handler).Nodup := by
      rw [netTimerHandler, handlers_netTimerHandlerFrom]
      exact hnodup
    obtain ⟨hrest, hcount, -, -, -⟩ := net_timer_run_spaced clocks
      (fun c hc => hclocks c (List.mem_cons_of_mem _ hc)) hnodup₁
      (netTimersNormal_netTimerHandler hclock hnormal) ht₁
    rw [NetTimer.after_handler] at hcount
    have hrun : netTimerRun timers (clock :: clocks) =
        ((netTimerRun (netTimerHandler clock timers).1 clocks).1,
          (netTimerHandler clock timers).2 ++ (netTimerRun (netTimerHandler clock timers).1 clocks).2) :=
      rfl
    refine ⟨?_, ?_, NetTimer.fires_interval _ _, NetTimer.fires_handler _ _,
      NetTimer.fires_spaced _ _⟩
    all_goals rw [hrun, List.map_cons, NetTimer.fires]
    all_goals rw [NetTimer.after_eq (hclock j) hint hlast] at hrest hcount
    -- whether the reading taken for the timer is more than its interval after it last ran
    · split
      · rw [if_pos ‹_›] at hrest
        exact hrest
      · rw [if_neg ‹_›] at hrest
        exact hrest
    · rw [List.count_append, hcall]
      split
      · rw [if_pos ‹_›] at hcount
        rw [hcount, Nat.add_comm]
      · rw [if_neg ‹_›] at hcount
        rw [hcount, Nat.zero_add]

/-- The TCP timer (every 100 ms, handler `0`) and the ARP timer (every second, handler `1`),
registered at time 0, over two `SIGALRM`s at 1.5 s and 2.4 s: the ARP timer fires on the first
and not on the second, 0.9 s later, and its handler ran once. -/
theorem net_timer_run_spaced_arp_tcp :
    (netTimerRun [⟨⟨0, 100000⟩, ⟨0, 0⟩, 0⟩, ⟨⟨1, 0⟩, ⟨0, 0⟩, 1⟩]
        [fun _ => ⟨1, 500000⟩, fun _ => ⟨2, 400000⟩]).1[1]? =
      some ((⟨⟨1, 0⟩, ⟨0, 0⟩, 1⟩ : NetTimer Nat).fires
        ([fun _ => ⟨1, 500000⟩, fun _ => ⟨2, 400000⟩].map fun clock => clock 1)).1 ∧
    (netTimerRun [⟨⟨0, 100000⟩, ⟨0, 0⟩, 0⟩, ⟨⟨1, 0⟩, ⟨0, 0⟩, 1⟩]
        [fun _ => ⟨1, 500000⟩, fun _ => ⟨2, 400000⟩]).2.count 1 =
      ((⟨⟨1, 0⟩, ⟨0, 0⟩, 1⟩ : NetTimer Nat).fires
        ([fun _ => ⟨1, 500000⟩, fun _ => ⟨2, 400000⟩].map fun clock => clock 1)).2 ∧
    ((⟨⟨1, 0⟩, ⟨0, 0⟩, 1⟩ : NetTimer Nat).fires
        ([fun _ => ⟨1, 500000⟩, fun _ => ⟨2, 400000⟩].map fun clock => clock 1)).2 = 1 := by
  have hclocks : ∀ clock ∈ ([fun _ => ⟨1, 500000⟩, fun _ => ⟨2, 400000⟩] : List (Nat → Timeval)),
      ∀ j, (clock j).Normal := by
    intro clock hclock _
    rcases List.mem_pair.mp hclock with rfl | rfl
    · exact ⟨show (0 : Int) ≤ 500000 by decide, show (500000 : Int) < 1000000 by decide⟩
    · exact ⟨show (0 : Int) ≤ 400000 by decide, show (400000 : Int) < 1000000 by decide⟩
  have hnormal : NetTimersNormal ([⟨⟨0, 100000⟩, ⟨0, 0⟩, 0⟩, ⟨⟨1, 0⟩, ⟨0, 0⟩, 1⟩] : List (NetTimer Nat)) := by
    intro t ht
    rcases List.mem_pair.mp ht with rfl | rfl
    · exact ⟨⟨by decide, by decide⟩, ⟨by decide, by decide⟩⟩
    · exact ⟨⟨by decide, by decide⟩, ⟨by decide, by decide⟩⟩
  obtain ⟨hrun, hcount, -⟩ := net_timer_run_spaced _ hclocks (by decide) hnormal (j := 1) rfl
  exact ⟨hrun, hcount, by simp [NetTimer.fires, Timeval.usec]⟩

end Microps
