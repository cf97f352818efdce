import Microps.Model.Ip

/-!
# `arp.c`: the cache and its critical sections

`caches[ARP_CACHE_SIZE]` is a function from slot numbers to entries. Every cache function runs
under one mutex; the layer's critical sections are the cache update of `arp_input`, its later
cache insert (after the mutex has been released and taken again), `arp_resolve`, and
`arp_timer`. Between the two sections of an `arp_input` call the call is pending
(`ArpSystem.inputs`): any other section may run in that gap. `gettimeofday` is the step's
clock `now`. The messages the layer sends are logged by what they ask or answer.
-/

set_option autoImplicit false

namespace Microps

open ByteOrder

-- The constants of `arp.c`, `ether.h` and `ip.h` that the layer reads; the timeout is in
-- seconds.
abbrev ARP_CACHE_SIZE : Nat := 32
def ARP_CACHE_TIMEOUT : Int := 30
def ARP_HRD_ETHER : UInt16 := 0x0001
def ARP_PRO_IP : UInt16 := 0x0800
def ARP_OP_REQUEST : UInt16 := 0x0001
def ETHER_ADDR_LEN : UInt8 := 6
def IP_ADDR_LEN : UInt8 := 4

/-- `ARP_CACHE_STATE_*` -/
inductive ArpCacheState
  | free | incomplete | resolved | static_
  deriving DecidableEq, Repr

/-- `struct arp_cache` -/
structure ArpCache where
  state : ArpCacheState
  pa : UInt32
  ha : List UInt8
  timestamp : Timeval
  deriving DecidableEq, Repr

/-- An entry after `arp_cache_delete`, as every slot of the static table starts. -/
def ArpCache.zero : ArpCache := ⟨.free, 0, List.replicate 6 0, ⟨0, 0⟩⟩

/-- The cache table. -/
structure Arp where
  caches : Fin ARP_CACHE_SIZE → ArpCache

-- The static table: every slot FREE.
def Arp.init : Arp := ⟨fun _ => ArpCache.zero⟩

def Arp.set (a : Arp) (i : Fin ARP_CACHE_SIZE) (c : ArpCache) : Arp :=
  ⟨Function.update a.caches i c⟩

@[simp] theorem Arp.set_caches_self (a : Arp) (i : Fin ARP_CACHE_SIZE) (c : ArpCache) :
    (a.set i c).caches i = c := by
  simp [Arp.set]

@[simp] theorem Arp.set_caches_of_ne (a : Arp) {i j : Fin ARP_CACHE_SIZE} (c : ArpCache)
    (h : j ≠ i) : (a.set i c).caches j = a.caches j := by
  simp [Arp.set, h]

/-- The loop of `arp_cache_alloc` from the given slots on, with the oldest entry seen so far:
the first FREE slot, or else the first of the entries with the earliest timestamp. -/
def arpCacheAllocFrom (a : Arp) :
    List (Fin ARP_CACHE_SIZE) → Option (Fin ARP_CACHE_SIZE) → Option (Fin ARP_CACHE_SIZE)
  | [], oldest => oldest
  | i :: rest, oldest =>
    if (a.caches i).state = .free then some i
    else
      let oldest := match oldest with
        | none => some i
        | some o => if timercmpGt (a.caches o).timestamp (a.caches i).timestamp then some i else some o
      arpCacheAllocFrom a rest oldest

/-- `arp_cache_alloc` -/
def arpCacheAlloc (a : Arp) : Option (Fin ARP_CACHE_SIZE) :=
  arpCacheAllocFrom a (List.finRange ARP_CACHE_SIZE) none

/-- `arp_cache_select`: the first entry in use for the protocol address. -/
def arpCacheSelect (a : Arp) (pa : UInt32) : Option (Fin ARP_CACHE_SIZE) :=
  (List.finRange ARP_CACHE_SIZE).find? fun i =>
    decide ((a.caches i).state ≠ .free ∧ (a.caches i).pa = pa)

/-- `arp_cache_update`: `none` (`NULL`) when no entry holds `pa`; otherwise that entry becomes
RESOLVED with the hardware address and the time. -/
def arpCacheUpdate (now : Timeval) (a : Arp) (pa : UInt32) (ha : List UInt8) : Option Arp :=
  match arpCacheSelect a pa with
  | none => none
  | some i => some (a.set i { a.caches i with state := .resolved, ha := ha, timestamp := now })

/-- `arp_cache_insert`: the entry `arp_cache_alloc` gives becomes RESOLVED for `pa`, whatever
it held. -/
def arpCacheInsert (now : Timeval) (a : Arp) (pa : UInt32) (ha : List UInt8) : Arp :=
  match arpCacheAlloc a with
  | none => a
  | some i => a.set i ⟨.resolved, pa, ha, now⟩

/-- `arp_cache_delete` -/
def arpCacheDelete (a : Arp) (i : Fin ARP_CACHE_SIZE) : Arp :=
  a.set i ArpCache.zero

/-- What `arp_input` reads of a message: the operation and the sender's and the target's
addresses. -/
structure ArpMessage where
  op : UInt16
  sha : List UInt8
  spa : UInt32
  tpa : UInt32
  deriving DecidableEq, Repr

/-- `arp_input` before it takes the lock: `none` when the message is shorter than
`struct arp_ether` or is not for Ethernet and IP addresses. -/
def arpInputCheck (e : Endian) (data : List UInt8) : Option ArpMessage :=
  let byte := fun i => data.getD i 0
  if data.length < 28 then none else
  if ntoh16 e (e.load16 (byte 0) (byte 1)) ≠ ARP_HRD_ETHER ∨ byte 4 ≠ ETHER_ADDR_LEN then none else
  if ntoh16 e (e.load16 (byte 2) (byte 3)) ≠ ARP_PRO_IP ∨ byte 5 ≠ IP_ADDR_LEN then none else
  some ⟨ntoh16 e (e.load16 (byte 6) (byte 7)), (data.drop 8).take 6,
    e.load32 (byte 14) (byte 15) (byte 16) (byte 17), e.load32 (byte 24) (byte 25) (byte 26) (byte 27)⟩

/-- A message the layer sends. -/
inductive ArpOut
  /-- `arp_request` for the target address. -/
  | request (tpa : UInt32)
  /-- `arp_reply` to the hardware and protocol address. -/
  | reply (tha : List UInt8) (tpa : UInt32)
  deriving DecidableEq, Repr

/-- `ARP_RESOLVE_*`, with the hardware address `arp_resolve` copies out when it finds one. -/
inductive ArpResolveResult
  | error
  | incomplete
  | found (ha : List UInt8)
  deriving DecidableEq, Repr

/-- `arp_resolve` under the lock (the device and family checks before it are left out): an
address not in the cache gets an entry from `arp_cache_alloc`, INCOMPLETE, and a request; an
INCOMPLETE entry gets the request again; otherwise the hardware address is found. -/
def arpResolve (now : Timeval) (a : Arp) (pa : UInt32) : Arp × List ArpOut × ArpResolveResult :=
  match arpCacheSelect a pa with
  | none =>
    match arpCacheAlloc a with
    | none => (a, [], .error)
    | some i =>
      (a.set i { a.caches i with state := .incomplete, pa := pa, timestamp := now }, [.request pa],
        .incomplete)
  | some i =>
    if (a.caches i).state = .incomplete then (a, [.request pa], .incomplete)
    else (a, [], .found (a.caches i).ha)

/-- The test of `arp_timer` for one entry: in use, not STATIC, and older than
`ARP_CACHE_TIMEOUT` seconds. -/
def arpExpired (now : Timeval) (c : ArpCache) : Bool :=
  c.state ≠ .free ∧ c.state ≠ .static_ ∧ (timersub now c.timestamp).tvSec > ARP_CACHE_TIMEOUT

/-- `arp_timer`: every expired entry is deleted. -/
def arpTimer (now : Timeval) (a : Arp) : Arp :=
  ⟨fun i => if arpExpired now (a.caches i) then ArpCache.zero else a.caches i⟩

/-- The reply `arp_input` sends to a request for the interface's address. -/
def arpReplyOf (msg : ArpMessage) : List ArpOut :=
  if msg.op = ARP_OP_REQUEST then [.reply msg.sha msg.spa] else []

/-- What drives the layer. -/
inductive ArpEvent
  /-- `arp_input` of these bytes on a device whose IP interface is `iface`, up to the end of
  its first critical section. -/
  | input (data : List UInt8) (iface : Option IpIface)
  /-- The second critical section of the pending `arp_input` at position `k`. -/
  | insert (k : Nat)
  | resolve (pa : UInt32)
  | timer
  deriving DecidableEq, Repr

/-- The cache, the `arp_input` calls between their two critical sections, and what was sent. -/
structure ArpSystem where
  arp : Arp
  inputs : List ArpMessage
  out : List ArpOut

/-- Every slot FREE, no call pending, nothing sent. -/
def ArpSystem.init : ArpSystem := ⟨Arp.init, [], []⟩

/-- One critical section at time `now` on a host of byte order `e`, with what `arp_resolve`
returns when the step is its; `none` when there is no `k`-th pending call. An `arp_input` whose
update finds the sender and a message for the interface's address answer at once; one whose
update finds nothing and that is for the interface's address waits for its insert. -/
def arpStep (e : Endian) (now : Timeval) (s : ArpSystem) :
    ArpEvent → Option (ArpSystem × Option ArpResolveResult)
  | .input data iface =>
    match arpInputCheck e data with
    | none => some (s, none)
    | some msg =>
      let (a, merge) := match arpCacheUpdate now s.arp msg.spa msg.sha with
        | some a => (a, true)
        | none => (s.arp, false)
      match iface with
      | some iface =>
        if iface.unicast = msg.tpa then
          if merge then some (⟨a, s.inputs, s.out ++ arpReplyOf msg⟩, none)
          else some (⟨a, s.inputs ++ [msg], s.out⟩, none)
        else some (⟨a, s.inputs, s.out⟩, none)
      | none => some (⟨a, s.inputs, s.out⟩, none)
  | .insert k =>
    match s.inputs[k]? with
    | none => none
    | some msg =>
      some (⟨arpCacheInsert now s.arp msg.spa msg.sha, s.inputs.eraseIdx k,
        s.out ++ arpReplyOf msg⟩, none)
  | .resolve pa =>
    let (a, out, r) := arpResolve now s.arp pa
    some (⟨a, s.inputs, s.out ++ out⟩, some r)
  | .timer => some (⟨arpTimer now s.arp, s.inputs, s.out⟩, none)

/-- Steps one after another, each at its own time: the state they lead to and what the
`arp_resolve` calls returned; `none` if some step names a call that is not pending. -/
def arpRun (e : Endian) : ArpSystem → List (Timeval × ArpEvent) →
    Option (ArpSystem × List ArpResolveResult)
  | s, [] => some (s, [])
  | s, (now, ev) :: rest =>
    match arpStep e now s ev with
    | none => none
    | some (s', r) => (arpRun e s' rest).map fun (s'', rs) => (s'', r.toList ++ rs)

/-! ## The messages on the wire -/

/-- `ARP_OP_REPLY` -/
def ARP_OP_REPLY : UInt16 := 0x0002

/-- `struct arp_ether` as `arp_request` and `arp_reply` fill it: `hrd`, `pro` and `op` in
network order, the address lengths, then the sender's hardware and protocol addresses and the
target's. A hardware address is the first six bytes of its buffer; an IP address is copied as
the four bytes of its `ip_addr_t`. -/
def arpEtherBytes (e : Endian) (op : UInt16) (sha : List UInt8) (spa : UInt32) (tha : List UInt8)
    (tpa : UInt32) : List UInt8 :=
  e.store16 (hton16 e ARP_HRD_ETHER) ++ e.store16 (hton16 e ARP_PRO_IP) ++
    [ETHER_ADDR_LEN, IP_ADDR_LEN] ++ e.store16 (hton16 e op) ++ sha.take 6 ++ e.store32 spa ++
    tha.take 6 ++ e.store32 tpa

/-- The message a logged output is, sent from the interface `iface` of a device whose hardware
address is `ha`: `arp_request` zeroes the target hardware address. -/
def ArpOut.bytes (e : Endian) (iface : IpIface) (ha : List UInt8) : ArpOut → List UInt8
  | .request tpa => arpEtherBytes e ARP_OP_REQUEST ha iface.unicast (List.replicate 6 0) tpa
  | .reply tha tpa => arpEtherBytes e ARP_OP_REPLY ha iface.unicast tha tpa

/-- Where `net_device_output` sends a logged output: a request to the device's broadcast
address, a reply to the hardware address of the host it answers. -/
def ArpOut.dst (broadcast : List UInt8) : ArpOut → List UInt8
  | .request _ => broadcast
  | .reply tha _ => tha

end Microps
