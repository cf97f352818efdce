import Microps.Model.Tcp.System
import Microps.Model.Udp

/-!
# `sock.c`: the socket layer

`socks[128]` is a table of entries `{used, family, type, desc}`, where `desc` is the id of a
TCP PCB (`SOCK_STREAM`) or a UDP PCB (`SOCK_DGRAM`). The socket calls take no lock of their
own: each one is a sequence of calls into TCP or UDP, and a socket call whose TCP call waits
waits with it. `sock_accept` goes on after its `tcp_accept` returns: it takes a new entry
with `sock_alloc` and reads the family and type of the listening entry again, so the wait
records which entry that is (`SockWait.accept`).

The layer and the two protocol layers under it form one system (`SockSystem`), driven by the
socket calls and by what drives TCP: segments, timer ticks, the interrupt event, and the
return of a waiting call. `sock_sendto` and `sock_recvfrom` (the UDP data path) are left out.
-/

set_option autoImplicit false

namespace Microps

/-- `AF_INET` -/
def AF_INET : Int := 2

/-- `SOCK_STREAM` -/
def SOCK_STREAM : Int := 1

/-- `SOCK_DGRAM` -/
def SOCK_DGRAM : Int := 2

/-- `struct sock` -/
structure Sock where
  used : Bool
  family : Int
  type : Int
  desc : Int
  deriving DecidableEq, Repr

/-- An entry after `memset(s, 0, sizeof(*s))`. -/
def Sock.zero : Sock := ⟨false, 0, 0, 0⟩

/-- A caller waiting in a TCP call made by a socket call. -/
inductive SockWait
  /-- `sock_connect`, `sock_send` or `sock_recv`, which return what the TCP call returns. -/
  | tcp (w : TcpWait)
  /-- `sock_accept` on the entry `id`, which goes on once `tcp_accept` returns. -/
  | accept (id : Fin 128) (w : TcpWait)
  deriving DecidableEq, Repr

/-- What a critical section of a socket call ends with. -/
inductive SockResult
  | ret (v : Int)
  | received (bytes : List UInt8)
  | wait (w : SockWait)
  | hang
  /-- `sock_accept` writes through the `NULL` that `sock_alloc` returns when `socks[]` is full. -/
  | fault
  deriving DecidableEq, Repr

/-- The socket layer with the TCP and UDP layers under it, and the callers waiting. -/
structure SockSystem where
  socks : Fin 128 → Sock
  tcp : Tcp
  udp : Udp
  waits : List SockWait

/-- Nothing open, nobody waiting. -/
def SockSystem.init : SockSystem := ⟨fun _ => Sock.zero, Tcp.init, Udp.init, []⟩

/-- Replace entry `k`. -/
def SockSystem.setSock (s : SockSystem) (k : Fin 128) (entry : Sock) : SockSystem :=
  { s with socks := Function.update s.socks k entry }

@[simp] theorem SockSystem.setSock_socks_self (s : SockSystem) (k : Fin 128) (entry : Sock) :
    (s.setSock k entry).socks k = entry := by
  simp [SockSystem.setSock]

@[simp] theorem SockSystem.setSock_socks_of_ne (s : SockSystem) {k l : Fin 128} (entry : Sock)
    (h : l ≠ k) : (s.setSock k entry).socks l = s.socks l := by
  simp [SockSystem.setSock, h]

@[simp] theorem SockSystem.setSock_tcp (s : SockSystem) (k : Fin 128) (entry : Sock) :
    (s.setSock k entry).tcp = s.tcp := rfl

@[simp] theorem SockSystem.setSock_udp (s : SockSystem) (k : Fin 128) (entry : Sock) :
    (s.setSock k entry).udp = s.udp := rfl

/-- A TCP result as the socket call that made the TCP call returns it. -/
def TcpResult.toSock : TcpResult → SockResult
  | .ret v => .ret v
  | .received bytes => .received bytes
  | .wait w => .wait (.tcp w)
  | .hang => .hang

/-- The value an `int`-returning TCP call returns (those never wait). -/
def TcpResult.val : TcpResult → Int
  | .ret v => v
  | _ => -1

/-! ## The table -/

/-- `sock_alloc`: the first unused entry, marked used (its other fields as they were). -/
def sockAlloc (socks : Fin 128 → Sock) : Option (Fin 128) :=
  (List.finRange 128).find? fun k => !(socks k).used

/-- `sock_get`: the entry of an id in range, used or not. -/
def sockGet (id : Int) : Option (Fin 128) :=
  if h : id < 0 ∨ id ≥ 128 then none else some ⟨id.toNat, by omega⟩

/-! ## The calls -/

/-- `sock_open`. The entry is taken and filled in before the PCB is opened, and a failed open
returns `-1` with the entry left as it is, `desc = -1`. -/
def sockOpen (s : SockSystem) (domain type protocol : Int) : SockSystem × Int :=
  if domain ≠ AF_INET then (s, -1)
  else if type ≠ SOCK_STREAM ∧ type ≠ SOCK_DGRAM then (s, -1)
  else if protocol ≠ 0 then (s, -1)
  else match sockAlloc s.socks with
    | none => (s, -1)
    | some k =>
      let entry : Sock := { s.socks k with used := true, family := domain, type := type }
      -- `switch (s->type)`: the checks above leave the two types
      let (s, desc) :=
        if type = SOCK_STREAM then
          let (t, r) := tcpOpen s.tcp
          ({ s with tcp := t }, r.val)
        else
          let (u, d) := udpOpen s.udp
          ({ s with udp := u }, d)
      let s := s.setSock k { entry with desc := desc }
      if desc = -1 then (s, -1) else (s, k.val)

/-- `sock_close`: the PCB is closed whatever `tcp_close` or `udp_close` returns, and the entry
is freed; an entry of neither type is refused. -/
def sockClose (env : TcpEnv) (s : SockSystem) (id : Int) : SockSystem × Int :=
  match sockGet id with
  | none => (s, -1)
  | some k =>
    let entry := s.socks k
    if entry.type = SOCK_STREAM then
      ({ s with tcp := (tcpClose env s.tcp entry.desc).1 }.setSock k Sock.zero, 0)
    else if entry.type = SOCK_DGRAM then
      ({ s with udp := (udpClose env.pthreadCondDestroy s.udp entry.desc).1 }.setSock k Sock.zero, 0)
    else (s, -1)

/-- `sock_bind` -/
def sockBind (s : SockSystem) (id : Int) (addr : IpEndpoint) : SockSystem × Int :=
  match sockGet id with
  | none => (s, -1)
  | some k =>
    let entry := s.socks k
    if entry.type = SOCK_STREAM then
      if entry.family = AF_INET then
        let (t, r) := tcpBind s.tcp entry.desc addr
        ({ s with tcp := t }, r.val)
      else (s, -1)
    else if entry.type = SOCK_DGRAM then
      if entry.family = AF_INET then
        let (u, r) := udpBind s.udp entry.desc addr
        ({ s with udp := u }, r)
      else (s, -1)
    else (s, -1)

/-- `sock_listen` (the backlog is passed on to `tcp_listen`, which ignores it). -/
def sockListen (s : SockSystem) (id : Int) : SockSystem × Int :=
  match sockGet id with
  | none => (s, -1)
  | some k =>
    let entry := s.socks k
    if entry.type ≠ SOCK_STREAM then (s, -1)
    else if entry.family = AF_INET then
      let (t, r) := tcpListen s.tcp entry.desc
      ({ s with tcp := t }, r.val)
    else (s, -1)

/-- The rest of `sock_accept` once `tcp_accept` has returned `r` for the entry `k`: a new
entry copies the family and type of entry `k` as they are now and takes the accepted id. -/
def sockAcceptFinish (s : SockSystem) (k : Fin 128) : TcpResult → SockSystem × SockResult
  | .ret v =>
    if v = -1 then (s, .ret (-1))
    else match sockAlloc s.socks with
      | none => (s, .fault)
      | some n =>
        let entry : Sock :=
          { s.socks n with used := true, family := (s.socks k).family, type := (s.socks k).type }
        (s.setSock n { entry with desc := v }, .ret n.val)
  | .wait w => (s, .wait (.accept k w))
  | r => (s, r.toSock)

/-- `sock_accept` -/
def sockAccept (s : SockSystem) (id : Int) : SockSystem × SockResult :=
  match sockGet id with
  | none => (s, .ret (-1))
  | some k =>
    let entry := s.socks k
    if entry.type ≠ SOCK_STREAM then (s, .ret (-1))
    else if entry.family = AF_INET then
      let (t, r) := tcpAccept s.tcp entry.desc
      sockAcceptFinish { s with tcp := t } k r
    else (s, .ret (-1))

/-- `sock_connect`, `sock_recv` and `sock_send`: a `SOCK_STREAM` entry of family `AF_INET`
makes the TCP call and returns what it returns. -/
def sockStream (s : SockSystem) (id : Int) (call : Tcp → Int → Tcp × TcpResult) :
    SockSystem × SockResult :=
  match sockGet id with
  | none => (s, .ret (-1))
  | some k =>
    let entry := s.socks k
    if entry.type ≠ SOCK_STREAM then (s, .ret (-1))
    else if entry.family = AF_INET then
      let (t, r) := call s.tcp entry.desc
      ({ s with tcp := t }, r.toSock)
    else (s, .ret (-1))

/-- `sock_connect` -/
def sockConnect (env : TcpEnv) (s : SockSystem) (id : Int) (addr : IpEndpoint) :
    SockSystem × SockResult :=
  sockStream s id fun t desc => tcpConnect env t desc addr

/-- `sock_recv` -/
def sockRecv (s : SockSystem) (id : Int) (n : Nat) : SockSystem × SockResult :=
  sockStream s id fun t desc => tcpReceive t desc n

/-- `sock_send` -/
def sockSend (env : TcpEnv) (s : SockSystem) (id : Int) (data : List UInt8) :
    SockSystem × SockResult :=
  sockStream s id fun t desc => tcpSend env t desc data

/-! ## The system -/

/-- A socket call with its arguments. -/
inductive SockCall
  | open_ (domain type protocol : Int)
  | close (id : Int)
  | bind (id : Int) (addr : IpEndpoint)
  | listen (id : Int)
  | accept (id : Int)
  | connect (id : Int) (addr : IpEndpoint)
  | recv (id : Int) (n : Nat)
  | send (id : Int) (data : List UInt8)
  deriving DecidableEq, Repr

/-- The first critical section of a socket call. -/
def sockCall (env : TcpEnv) (s : SockSystem) : SockCall → SockSystem × SockResult
  | .open_ domain type protocol => let (s, v) := sockOpen s domain type protocol; (s, .ret v)
  | .close id => let (s, v) := sockClose env s id; (s, .ret v)
  | .bind id addr => let (s, v) := sockBind s id addr; (s, .ret v)
  | .listen id => let (s, v) := sockListen s id; (s, .ret v)
  | .accept id => sockAccept s id
  | .connect id addr => sockConnect env s id addr
  | .recv id n => sockRecv s id n
  | .send id data => sockSend env s id data

/-- The return of a wait: TCP's half, then, for `sock_accept`, the rest of the call. -/
def sockResume (env : TcpEnv) (s : SockSystem) : SockWait → SockSystem × SockResult
  | .tcp w => let (t, r) := tcpResume env s.tcp w; ({ s with tcp := t }, r.toSock)
  | .accept k w => let (t, r) := tcpResume env s.tcp w; sockAcceptFinish { s with tcp := t } k r

/-- The callers a result leaves waiting. -/
def SockResult.waits : SockResult → List SockWait
  | .wait w => [w]
  | _ => []

/-- What drives the socket system. -/
inductive SockEvent
  | call (c : SockCall)
  | segment (a : TcpArrival)
  | timer
  | interrupt
  | resume (k : Nat)
  deriving DecidableEq, Repr

/-- One critical section. -/
def sockStep (env : TcpEnv) (s : SockSystem) : SockEvent → Option (SockSystem × Option SockResult)
  | .call c =>
    let (s', r) := sockCall env s c
    some ({ s' with waits := s.waits ++ r.waits }, some r)
  | .segment a => some ({ s with tcp := tcpSegmentArrives env a s.tcp }, none)
  | .timer => some ({ s with tcp := tcpTimer env s.tcp }, none)
  | .interrupt =>
    some ({ s with tcp := tcpEventHandler s.tcp, udp := udpEventHandler s.udp }, none)
  | .resume k =>
    match s.waits[k]? with
    | none => none
    | some w =>
      let (s', r) := sockResume env { s with waits := s.waits.eraseIdx k } w
      some ({ s' with waits := s'.waits ++ r.waits }, some r)

/-- One step in any environment. -/
def SockStep (s s' : SockSystem) : Prop :=
  ∃ env e r, sockStep env s e = some (s', r)

/-- The states the socket system reaches from its start. -/
def SockReachable (s : SockSystem) : Prop :=
  Transition.Reachable (· = SockSystem.init) SockStep s

/-- Steps one after another, with the results callers saw. -/
def sockRun : SockSystem → List (TcpEnv × SockEvent) → Option (SockSystem × List SockResult)
  | s, [] => some (s, [])
  | s, (env, e) :: rest =>
    match sockStep env s e with
    | none => none
    | some (s', r) => (sockRun s' rest).map fun (s'', rs) => (s'', r.toList ++ rs)

/-- A run only goes through reachable states. -/
theorem sockRun_reachable {s : SockSystem} (hs : SockReachable s) :
    ∀ {run : List (TcpEnv × SockEvent)} {s' : SockSystem} {rs : List SockResult},
      sockRun s run = some (s', rs) → SockReachable s'
  | [], s', rs, h => by
    simp only [sockRun, Option.some.injEq, Prod.mk.injEq] at h
    exact h.1 ▸ hs
  | (env, e) :: rest, s', rs, h => by
    simp only [sockRun] at h
    cases hstep : sockStep env s e with
    | none => simp [hstep] at h
    | some p =>
      obtain ⟨s₁, r⟩ := p
      rw [hstep] at h
      obtain ⟨⟨s₂, rs₂⟩, hrun, heq⟩ := Option.map_eq_some_iff.mp h
      cases heq
      exact sockRun_reachable (hs.tail ⟨env, e, r, hstep⟩) hrun

end Microps
