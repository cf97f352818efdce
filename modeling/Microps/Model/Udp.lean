import Microps.Model.Ip
import Microps.Model.Sched

/-!
# `udp.c`: protocol control blocks and the user commands that manage them

The PCB table `pcbs[UDP_PCB_SIZE]` is a function from slot numbers to PCBs, as for TCP. A
received datagram waits in the PCB's queue with the endpoint it came from. `udp_pcb_release`
first marks the PCB CLOSING; only when its wait context can be destroyed (nobody waits on it)
is it made FREE, with its local endpoint cleared and its queue emptied. A FREE slot keeps its
old wait context; `udp_pcb_alloc` initialises it again.

What `pthread_cond_destroy` returns for a context is the argument `destroy`.
-/

set_option autoImplicit false

namespace Microps

/-- `UDP_PCB_SIZE` -/
abbrev UDP_PCB_SIZE : Nat := 16

/-- `UDP_PCB_STATE_*`; `free` is the zero of an unused slot. -/
inductive UdpPcbState
  | free | open_ | closing
  deriving DecidableEq, Repr

/-- `struct udp_queue_entry` with the `len` bytes stored after it. -/
structure UdpQueueEntry where
  foreign : IpEndpoint
  data : List UInt8
  deriving DecidableEq, Repr

/-- `struct udp_pcb` -/
structure UdpPcb where
  state : UdpPcbState
  local_ : IpEndpoint
  queue : List UdpQueueEntry
  ctx : SchedCtx
  deriving DecidableEq, Repr

/-- A slot of the static table before first use. -/
def UdpPcb.zero : UdpPcb := ⟨.free, ⟨IP_ADDR_ANY, 0⟩, [], ⟨false, 0⟩⟩

/-- The UDP PCB table. -/
structure Udp where
  pcbs : Fin UDP_PCB_SIZE → UdpPcb

/-- Every slot zero. -/
def Udp.init : Udp := ⟨fun _ => UdpPcb.zero⟩

/-- Replace PCB `i`. -/
def Udp.set (u : Udp) (i : Fin UDP_PCB_SIZE) (pcb : UdpPcb) : Udp :=
  ⟨Function.update u.pcbs i pcb⟩

@[simp] theorem Udp.set_pcbs_self (u : Udp) (i : Fin UDP_PCB_SIZE) (pcb : UdpPcb) :
    (u.set i pcb).pcbs i = pcb := by
  simp [Udp.set]

@[simp] theorem Udp.set_pcbs_of_ne (u : Udp) {i j : Fin UDP_PCB_SIZE} (pcb : UdpPcb) (h : j ≠ i) :
    (u.set i pcb).pcbs j = u.pcbs j := by
  simp [Udp.set, h]

/-- `udp_pcb_alloc`: the first FREE slot, made OPEN with a fresh wait context. -/
def udpPcbAlloc (u : Udp) : Option (Fin UDP_PCB_SIZE × Udp) :=
  match (List.finRange UDP_PCB_SIZE).find? (fun i => decide ((u.pcbs i).state = .free)) with
  | none => none
  | some i => some (i, u.set i { u.pcbs i with state := .open_, ctx := schedCtxInit })

/-- `udp_pcb_release`: CLOSING while a caller still waits on the context, else FREE with the
local endpoint cleared and the queue emptied. -/
def udpPcbRelease (destroy : SchedCtx → Int) (u : Udp) (i : Fin UDP_PCB_SIZE) : Udp :=
  let pcb := { u.pcbs i with state := .closing }
  if destroy pcb.ctx = -1 then u.set i pcb
  else u.set i { pcb with state := .free, local_ := ⟨IP_ADDR_ANY, 0⟩, queue := [] }

/-- `udp_pcb_select`: the first OPEN PCB bound to the address (or to `IP_ADDR_ANY`) and port. -/
def udpPcbSelect (u : Udp) (addr : UInt32) (port : UInt16) : Option (Fin UDP_PCB_SIZE) :=
  (List.finRange UDP_PCB_SIZE).find? fun i =>
    let pcb := u.pcbs i
    decide (pcb.state = .open_ ∧ (pcb.local_.addr = IP_ADDR_ANY ∨ pcb.local_.addr = addr) ∧
      pcb.local_.port = port)

/-- `udp_pcb_get`: the slot of a valid id whose PCB is OPEN. -/
def udpPcbGet (u : Udp) (id : Int) : Option (Fin UDP_PCB_SIZE) :=
  if h : id < 0 ∨ id ≥ UDP_PCB_SIZE then none
  else if (u.pcbs ⟨id.toNat, by omega⟩).state = .open_ then some ⟨id.toNat, by omega⟩
  else none

/-- `udp_pcb_id` -/
def udpPcbId (i : Fin UDP_PCB_SIZE) : Int := i.val

/-- `udp_open` -/
def udpOpen (u : Udp) : Udp × Int :=
  match udpPcbAlloc u with
  | none => (u, -1)
  | some (i, u) => (u, udpPcbId i)

/-- `udp_close` -/
def udpClose (destroy : SchedCtx → Int) (u : Udp) (id : Int) : Udp × Int :=
  match udpPcbGet u id with
  | none => (u, -1)
  | some i => (udpPcbRelease destroy u i, 0)

/-- `udp_bind`: refused when some OPEN PCB already holds the endpoint. -/
def udpBind (u : Udp) (id : Int) (local_ : IpEndpoint) : Udp × Int :=
  match udpPcbGet u id with
  | none => (u, -1)
  | some i =>
    if (udpPcbSelect u local_.addr local_.port).isSome then (u, -1)
    else (u.set i { u.pcbs i with local_ := local_ }, 0)

/-- `event_handler`: every OPEN PCB's wait context is interrupted. -/
def udpEventHandler (u : Udp) : Udp :=
  ⟨fun i =>
    let pcb := u.pcbs i
    if pcb.state = .open_ then { pcb with ctx := schedInterrupt pcb.ctx } else pcb⟩

end Microps
