import Microps.Model.Util

/-!
# `platform/linux/intr.c`: the IRQ table and the interrupt thread

A driver asks for its IRQ with `intr_request_irq`. The request is refused when the table already
holds an entry for the IRQ and either that entry or the new one was not asked for with exactly
`NET_IRQ_SHARED`; otherwise the entry goes in front and `sigaddset` adds the IRQ to `sigmask`,
the signals the interrupt thread waits for. `sigaddset` refuses a number that is no signal, or
one of the two glibc keeps for itself, and `intr_request_irq` does not look at what it returns:
such an IRQ is in the table but never waited for. The thread turns `SIGUSR1`, `SIGUSR2` and `SIGALRM` into the
protocol, event and timer handlers, and any other signal into a call of the handler of every
entry for it, in the table's order.

Signal numbers are Linux's. The flags are the `int` the source passes, as `Int32`.
-/

set_option autoImplicit false

namespace Microps

/-- `NET_IRQ_SHARED` -/
def NET_IRQ_SHARED : Int32 := 0x0001

/-- `SIGUSR1` -/
def SIGUSR1 : Nat := 10

/-- `SIGUSR2` -/
def SIGUSR2 : Nat := 12

/-- `SIGALRM` -/
def SIGALRM : Nat := 14

/-- `_NSIG` on Linux: signals are numbered from 1 to 64. -/
def NSIG : Nat := 65

/-- `sigaddset` of glibc: a number that is no signal, or one of the signals glibc keeps for its
threads (32 and 33), is refused with `EINVAL` and the set left as it was. -/
def sigaddset (set : List Nat) (sig : Nat) : List Nat × Int :=
  if sig = 0 ∨ NSIG ≤ sig ∨ sig = 32 ∨ sig = 33 then (set, -1) else (set.insert sig, 0)

/-- `struct irq_entry` (the name is only printed). -/
structure IrqEntry (F D : Type) where
  irq : Nat
  handler : F
  flags : Int32
  dev : D
  deriving DecidableEq, Repr

/-- The IRQ table `irq_vec` and `sigmask`. -/
structure Intr (F D : Type) where
  irqVec : List (IrqEntry F D)
  sigmask : List Nat
  deriving DecidableEq, Repr

variable {F D : Type}

/-- `intr_init` -/
def intrInit : Intr F D :=
  ⟨[], [SIGUSR1, SIGUSR2, SIGALRM]⟩

/-- `intr_request_irq`, with whether `memory_alloc` succeeds: the table after it and 0, or -1.
What `sigaddset` returns is not looked at. -/
def intrRequestIrq (alloc : Bool) (s : Intr F D) (irq : Nat) (handler : F) (flags : Int32)
    (dev : D) : Intr F D × Int :=
  if s.irqVec.any (fun entry => entry.irq == irq &&
      (entry.flags ^^^ NET_IRQ_SHARED != 0 || flags ^^^ NET_IRQ_SHARED != 0)) then (s, -1)
  else if alloc then (⟨⟨irq, handler, flags, dev⟩ :: s.irqVec, (sigaddset s.sigmask irq).1⟩, 0)
  else (s, -1)

/-- What the interrupt thread does with a signal `sigwait` returned. -/
inductive IntrAction (F D : Type)
  /-- `net_protocol_handler` -/
  | protocol
  /-- `net_event_handler` -/
  | event
  /-- `net_timer_handler` -/
  | timer
  /-- `entry->handler(entry->irq, entry->dev)` for these entries, in this order. -/
  | irq (calls : List (F × Nat × D))
  deriving DecidableEq, Repr

/-- The `switch` of `intr_thread` on one signal. -/
def intrThreadDispatch (s : Intr F D) (sig : Nat) : IntrAction F D :=
  if sig = SIGUSR1 then .protocol
  else if sig = SIGUSR2 then .event
  else if sig = SIGALRM then .timer
  else .irq ((s.irqVec.filter fun entry => entry.irq = sig).map
    fun entry => (entry.handler, entry.irq, entry.dev))

end Microps
