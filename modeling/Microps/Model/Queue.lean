import Microps.Model.Util

/-!
# `util.c`: the linked queue

`struct queue_head` points at the oldest and the newest `struct queue_entry` and counts the
entries in an `unsigned int`; each entry points at the next newer one. The entries live in
memory that `memory_alloc` hands out and `memory_free` takes back: a heap from addresses to
entries, `none` where the memory is not in use. A pointer is an `Option Nat`, `none` being
`NULL`. Reading or writing an entry that is not in use is undefined behaviour; the functions
return `none` there.

The layers above use these queues through `queuePush`, `queuePop` and `queuePeek` on the list
of data. The functions here are the code's linked representation of them, and
`Microps.Analysis.Queue` shows that they refine the list.
-/

set_option autoImplicit false

namespace Microps.Linked

/-- `struct queue_entry` -/
structure QueueEntry (α : Type) where
  next : Option Nat
  data : α
  deriving DecidableEq, Repr

/-- `struct queue_head` -/
structure QueueHead where
  head : Option Nat
  tail : Option Nat
  num : UInt32
  deriving DecidableEq, Repr

/-- The memory `memory_alloc` has handed out and `memory_free` has not taken back: the entries
in use by address, all of them below `bound`. -/
structure QueueHeap (α : Type) where
  mem : Nat → Option (QueueEntry α)
  bound : Nat
  mem_of_ge : ∀ p, bound ≤ p → mem p = none

namespace QueueHeap

variable {α : Type}

/-- No memory in use. -/
def empty : QueueHeap α := ⟨fun _ => none, 0, fun _ _ => rfl⟩

/-- Write an entry at `p`. -/
def write (h : QueueHeap α) (p : Nat) (e : QueueEntry α) : QueueHeap α :=
  ⟨Function.update h.mem p (some e), max h.bound (p + 1), by
    intro r hr
    rw [Function.update_of_ne (by omega)]
    exact h.mem_of_ge r (by omega)⟩

/-- `memory_free` of the entry at `p`. -/
def free (h : QueueHeap α) (p : Nat) : QueueHeap α :=
  ⟨Function.update h.mem p none, h.bound, by
    intro r hr
    by_cases hrp : r = p
    · subst hrp
      simp
    · rw [Function.update_of_ne hrp]
      exact h.mem_of_ge r hr⟩

@[simp] theorem write_mem (h : QueueHeap α) (p : Nat) (e : QueueEntry α) :
    (h.write p e).mem = Function.update h.mem p (some e) := rfl

@[simp] theorem free_mem (h : QueueHeap α) (p : Nat) :
    (h.free p).mem = Function.update h.mem p none := rfl

end QueueHeap

/-- `queue_init`, and a zeroed `struct queue_head` alike. -/
def queueInit : QueueHead := ⟨none, none, 0⟩

section Operations

variable {α : Type}

/-- `entry->next = next` on an entry in use. -/
def setNext (h : QueueHeap α) (p : Nat) (next : Option Nat) : Option (QueueHeap α) :=
  (h.mem p).map fun e => h.write p { e with next := next }

/-- `queue_push`, with `alloc` what `memory_alloc` returned: the new entry is written, linked
after the tail, and becomes the tail (and the head of an empty queue). The result is the
data, or `NULL` when the allocation failed. -/
def queuePush (alloc : Option Nat) (h : QueueHeap α) (q : QueueHead) (data : α) :
    Option (QueueHeap α × QueueHead × Option α) :=
  match alloc with
  | none => some (h, q, none)
  | some entry => do
    let h := h.write entry ⟨none, data⟩
    let h ← match q.tail with
      | some tail => setNext h tail (some entry)
      | none => some h
    let q := { q with tail := some entry }
    let q := if q.head = none then { q with head := some entry } else q
    pure (h, { q with num := q.num + 1 }, some data)

/-- `queue_pop`: the head entry is unlinked and freed, and its data returned; `NULL` on an
empty queue. -/
def queuePop (h : QueueHeap α) (q : QueueHead) : Option (QueueHeap α × QueueHead × Option α) :=
  match q.head with
  | none => some (h, q, none)
  | some entry => do
    let e ← h.mem entry
    let q := { q with head := e.next }
    let q := if q.head = none then { q with tail := none } else q
    pure (h.free entry, { q with num := q.num - 1 }, some e.data)

/-- `queue_peek`: the head entry's data, or `NULL`. -/
def queuePeek (h : QueueHeap α) (q : QueueHead) : Option (Option α) :=
  match q.head with
  | none => some none
  | some entry => (h.mem entry).map fun e => some e.data

/-- The loop of `queue_foreach` from an entry on, for at most `fuel` entries: the data `func`
is called with, in order; `none` when it reads memory not in use or has not reached `NULL`. -/
def queueForeachFrom (h : QueueHeap α) : Nat → Option Nat → Option (List α)
  | _, none => some []
  | 0, some _ => none
  | fuel + 1, some entry => do
    let e ← h.mem entry
    let rest ← queueForeachFrom h fuel e.next
    pure (e.data :: rest)

/-- `queue_foreach`: the loop follows `next` until `NULL`. A walk of more entries than there
are addresses below the heap's bound visits one twice and never ends; it is `none` then. -/
def queueForeach (h : QueueHeap α) (q : QueueHead) : Option (List α) :=
  queueForeachFrom h h.bound q.head

end Operations

/-! ## Runs -/

/-- An operation on a queue; a push carries what `memory_alloc` returns for it. -/
inductive QueueOp (α : Type)
  | push (alloc : Option Nat) (data : α)
  | pop
  | peek
  | foreach
  deriving DecidableEq, Repr

/-- What an operation returns: the pointer of a push, a pop or a peek (`none` is `NULL`), or
the data a `queue_foreach` visited. -/
inductive QueueOut (α : Type)
  | ret (v : Option α)
  | visited (xs : List α)
  deriving DecidableEq, Repr

variable {α : Type}

/-- One operation on the heap and the queue; `none` on undefined behaviour or a
`queue_foreach` that never ends. -/
def queueStep : QueueOp α → QueueHeap α × QueueHead → Option ((QueueHeap α × QueueHead) × QueueOut α)
  | .push alloc data, (h, q) => (queuePush alloc h q data).map fun (h, q, r) => ((h, q), .ret r)
  | .pop, (h, q) => (queuePop h q).map fun (h, q, r) => ((h, q), .ret r)
  | .peek, (h, q) => (queuePeek h q).map fun r => ((h, q), .ret r)
  | .foreach, (h, q) => (queueForeach h q).map fun xs => ((h, q), .visited xs)

/-- Operations one after another: the state they lead to and what each returned. -/
def queueRun : List (QueueOp α) → QueueHeap α × QueueHead →
    Option ((QueueHeap α × QueueHead) × List (QueueOut α))
  | [], s => some (s, [])
  | op :: ops, s => do
    let (s, out) ← queueStep op s
    let (s, outs) ← queueRun ops s
    pure (s, out :: outs)

/-- Whether `memory_alloc` gives a push memory that is not in use. -/
def QueueOp.fresh (h : QueueHeap α) : QueueOp α → Bool
  | .push (some p) _ => (h.mem p).isNone
  | _ => true

/-- Whether every push of a run gets memory not in use when it runs. -/
def freshRun : List (QueueOp α) → QueueHeap α × QueueHead → Bool
  | [], _ => true
  | op :: ops, s =>
    op.fresh s.1 && match queueStep op s with
      | some (s', _) => freshRun ops s'
      | none => true

end Microps.Linked
