/-!
# `platform/linux/sched.c`: the wait contexts of blocking calls

A `struct sched_ctx` is a condition variable with an interrupt flag and a count `wc` of the
callers waiting on it. The condition variable itself is not state the model needs: a caller
that waits may be resumed at any later point (POSIX allows spurious wake-ups, so
`sched_wakeup`, a broadcast, changes nothing the model records). What the model does record is
the flag and the count, because `sched_sleep` reads them on both sides of the wait.

`sched_sleep` is therefore two halves: `schedSleep` runs before the wait and either refuses at
once (an interrupted context) or counts the caller in; `schedSleepResume` runs when the wait
returns. `pthread_cond_destroy`, the one call of this file into the C library whose result
matters, is a parameter of the TCP model (`TcpEnv`).
-/

set_option autoImplicit false

namespace Microps

/-- `struct sched_ctx` without its condition variable. -/
structure SchedCtx where
  interrupted : Bool
  wc : Int
  deriving DecidableEq, Repr

/-- `sched_ctx_init` -/
def schedCtxInit : SchedCtx := ⟨false, 0⟩

/-- The first half of `sched_sleep`: `none` when it returns `-1` at once because the context
is interrupted, otherwise the context with the caller counted in `wc`. -/
def schedSleep (ctx : SchedCtx) : Option SchedCtx :=
  if ctx.interrupted then none else some { ctx with wc := ctx.wc + 1 }

/-- The second half of `sched_sleep`, after the wait returns (with `0`): the context and what
`sched_sleep` returns. The last caller to leave an interrupted context clears the flag. -/
def schedSleepResume (ctx : SchedCtx) : SchedCtx × Int :=
  let ctx := { ctx with wc := ctx.wc - 1 }
  if ctx.interrupted then
    (if ctx.wc = 0 then { ctx with interrupted := false } else ctx, -1)
  else (ctx, 0)

/-- `sched_interrupt` -/
def schedInterrupt (ctx : SchedCtx) : SchedCtx :=
  { ctx with interrupted := true }

theorem schedSleep_eq_none {ctx : SchedCtx} : schedSleep ctx = none ↔ ctx.interrupted = true := by
  unfold schedSleep
  split <;> simp_all

/-- A wait that returns without an interrupt reports `0` and uncounts the caller. -/
theorem schedSleepResume_of_not_interrupted {ctx : SchedCtx} (h : ctx.interrupted = false) :
    schedSleepResume ctx = ({ ctx with wc := ctx.wc - 1 }, 0) := by
  simp [schedSleepResume, h]

/-- A `pthread_cond_destroy` that succeeds returns `0`, never the `-1` that `sched_ctx_destroy`
is checked for; the environments of the runs below use it. -/
theorem pthreadCondDestroy_success_ne : ∀ _ : SchedCtx, (0 : Int) ≠ -1 :=
  fun _ => by decide

end Microps
