import Microps.Analysis.Lifecycle
import Microps.Analysis.UdpDelivery

/-!
# Which PCB a segment or a bind finds

`tcp_pcb_select` scans all sixteen slots. A FREE slot is zeroed, so its local endpoint
`0.0.0.0:0` matches any request for port `0` and its foreign endpoint `0.0.0.0:0` matches a
segment from there: `tcp_pcb_select` can return it, and a FIN from `0.0.0.0:0` to port `0`
is processed by a FREE slot, which answers it with an ACK.

A stored `0.0.0.0` is a wildcard, a requested one is not: `tcp_bind` succeeds exactly when no
slot holds the port on the requested address or on a stored `0.0.0.0` (`tcpBind_eq`). So
`tcp_bind` of `10.0.0.1:7` and then of `0.0.0.0:7` both succeed, while the reverse order
refuses the second bind; with both sockets listening, a SYN for `10.0.0.1:7` goes to the last
wildcard listener in slot order, the one bound to `0.0.0.0`. `tcp_overlapping_bind_run` shows
all of this on runs from the start.

`tcp_connect` on a PCB without a port takes the first port from `TCP_SOURCE_PORT_MIN` on that
`tcp_pcb_select` with the foreign endpoint does not find (`tcpConnectPort_eq`), and stores the
counter in the port field as it is, where `udp_sendto` converts it with `hton16`: on a
little-endian host the port read back with `ntoh16` is `192`. With a foreign endpoint,
`tcp_pcb_select` passes over a PCB that is bound to the port but not listening, so the new
connection takes a port such a PCB holds on every address (`tcp_connect_port_run`).

`udp_pcb_select` has the same asymmetry (`udpBind_eq`), so `udp_bind` lets `10.0.0.1:7` and
then `0.0.0.0:7` both be held by OPEN PCBs, and not the other way round. `udp_sendto` looks for
a free port at the address the route picks but leaves the PCB's own address `0.0.0.0`
(`udpSendto_port`): a PCB bound to `10.0.0.2` on port `49152` does not stop another from taking
that port on every address (`udp_overlapping_bind_run`).
-/

set_option autoImplicit false

namespace Microps

open ByteOrder

/-! ## `tcp_pcb_select` and `tcp_bind` -/

/-- Without a foreign endpoint the scan of `tcp_pcb_select` ends at the first slot, FREE ones
included, that holds the port on the requested address or on a stored `IP_ADDR_ANY`. -/
theorem tcpPcbSelectFrom_none (t : Tcp) (local_ : IpEndpoint) :
    ∀ (slots : List (Fin TCP_PCB_SIZE)) (listenPcb : Option (Fin TCP_PCB_SIZE)),
      tcpPcbSelectFrom t local_ none slots listenPcb =
        (slots.find? fun j => decide (((t.pcbs j).local_.addr = IP_ADDR_ANY ∨
          (t.pcbs j).local_.addr = local_.addr) ∧ (t.pcbs j).local_.port = local_.port)).or
          listenPcb
  | [], _ => rfl
  | j :: slots, listenPcb => by
    unfold tcpPcbSelectFrom
    by_cases hj : ((t.pcbs j).local_.addr = IP_ADDR_ANY ∨ (t.pcbs j).local_.addr = local_.addr) ∧
        (t.pcbs j).local_.port = local_.port
    · rw [if_pos hj, List.find?_cons_of_pos (by simpa using hj)]
      rfl
    · rw [if_neg hj, List.find?_cons_of_neg (by simpa using hj)]
      exact tcpPcbSelectFrom_none t local_ slots listenPcb

/-- `tcp_bind` on a socket-mode PCB succeeds exactly when no slot, FREE ones included, holds the
port on the requested address or on a stored `IP_ADDR_ANY`, and then sets the local endpoint
alone: a stored `IP_ADDR_ANY` matches every address, a requested one only a stored one. -/
theorem tcpBind_eq {t : Tcp} {i : Fin TCP_PCB_SIZE} (hfree : (t.pcbs i).state ≠ .free)
    (hmode : (t.pcbs i).mode = .socket) (local_ : IpEndpoint) :
    tcpBind t (tcpPcbId i) local_ =
      if ∃ j, ((t.pcbs j).local_.addr = IP_ADDR_ANY ∨ (t.pcbs j).local_.addr = local_.addr) ∧
          (t.pcbs j).local_.port = local_.port then (t, .ret (-1))
      else (t.set i { t.pcbs i with local_ := local_ }, .ret 0) := by
  have hsel : (tcpPcbSelect t local_ none).isSome ↔ ∃ j,
      ((t.pcbs j).local_.addr = IP_ADDR_ANY ∨ (t.pcbs j).local_.addr = local_.addr) ∧
        (t.pcbs j).local_.port = local_.port := by
    rw [tcpPcbSelect, tcpPcbSelectFrom_none, Option.or_none, List.find?_isSome]
    simp
  simp only [tcpBind, tcpPcbGet_tcpPcbId hfree, hmode, ne_eq, not_true_eq_false, if_false]
  by_cases h : ∃ j, ((t.pcbs j).local_.addr = IP_ADDR_ANY ∨
      (t.pcbs j).local_.addr = local_.addr) ∧ (t.pcbs j).local_.port = local_.port
  · rw [if_pos (hsel.mpr h), if_pos h]
  · rw [if_neg (mt hsel.mp h), if_neg h]

/-- Two sockets on port 7, bound to `10.0.0.1` and then to `0.0.0.0`, both listening; then a
SYN for `10.0.0.1:7` from `10.0.0.2:5000`. -/
def tcpOverlappingBindRun : List (TcpEnv × TcpEvent) :=
  let l : IpEndpoint := ⟨0x0100000a, 7⟩
  [(lifecycleEnv 0, .command .openSocket),
   (lifecycleEnv 0, .command .openSocket),
   (lifecycleEnv 0, .command (.bind 0 l)),
   (lifecycleEnv 0, .command (.bind 1 ⟨IP_ADDR_ANY, 7⟩)),
   (lifecycleEnv 0, .command (.listen 0)),
   (lifecycleEnv 0, .command (.listen 1)),
   (lifecycleEnv 0, .segment ⟨⟨500, 0, 1, 100⟩, TCP_FLG_SYN, [], l, ⟨0x0200000a, 5000⟩⟩)]

/-- The same binds in the other order. -/
def tcpOverlappingBindRevRun : List (TcpEnv × TcpEvent) :=
  [(lifecycleEnv 0, .command .openSocket),
   (lifecycleEnv 0, .command .openSocket),
   (lifecycleEnv 0, .command (.bind 0 ⟨IP_ADDR_ANY, 7⟩)),
   (lifecycleEnv 0, .command (.bind 1 ⟨0x0100000a, 7⟩))]

/-- A FIN from `0.0.0.0:0` to `10.0.0.1:0`, with sequence number `0`, in the initial state. -/
def tcpFinToFreeRun : List (TcpEnv × TcpEvent) :=
  [(lifecycleEnv 0, .segment ⟨⟨0, 0, 1, 0⟩, TCP_FLG_ACK ||| TCP_FLG_FIN, [], ⟨0x0100000a, 0⟩,
    ⟨IP_ADDR_ANY, 0⟩⟩)]

/-- In the initial state `tcp_pcb_select` returns the FREE slot 0 for port `0`, and the FIN
makes that FREE slot advance its `rcv.nxt` and send an ACK from `0.0.0.0:0`. Both binds of
port 7 succeed and both sockets listen, the SYN makes a connection whose parent is the
`0.0.0.0` listener, and in the other order the second bind is refused. -/
theorem tcp_overlapping_bind_run :
    tcpPcbSelect Tcp.init ⟨0x0100000a, 0⟩ none = some 0 ∧
    (tcpRun TcpSystem.init tcpFinToFreeRun).map (fun p =>
        ((p.1.tcp.pcbs 0).state, (p.1.tcp.pcbs 0).rcv.nxt, p.1.tcp.out)) =
      some (.free, 1, [⟨0, 1, TCP_FLG_ACK, 0, [], ⟨IP_ADDR_ANY, 0⟩, ⟨IP_ADDR_ANY, 0⟩⟩]) ∧
    (tcpRun TcpSystem.init tcpOverlappingBindRun).map (fun p => p.2) =
      some [.ret 0, .ret 1, .ret 0, .ret 0, .ret 0, .ret 0] ∧
    (tcpRun TcpSystem.init tcpOverlappingBindRun).map (fun p =>
        ((p.1.tcp.pcbs 0).state, (p.1.tcp.pcbs 1).state, (p.1.tcp.pcbs 2).parent)) =
      some (.listen, .listen, some 1) ∧
    (tcpRun TcpSystem.init tcpOverlappingBindRevRun).map (fun p => p.2) =
      some [.ret 0, .ret 1, .ret 0, .ret (-1)] := by
  decide

/-! ## The source port of `tcp_connect` -/

/-- The port loop of `tcp_connect` takes the first port of the list that `tcp_pcb_select` with
the foreign endpoint does not find, as the number itself; when there is none, the last port
tried. -/
theorem tcpConnectPort_eq (t : Tcp) (local_ foreign : IpEndpoint) :
    ∀ (ports : List Nat) (port : UInt16), tcpConnectPort t local_ foreign ports port =
      match ports.find? (fun p =>
          (tcpPcbSelect t { local_ with port := p.toUInt16 } (some foreign)).isNone) with
      | some p => p.toUInt16
      | none => (ports.getLast?.map Nat.toUInt16).getD port
  | [], _ => rfl
  | p :: ports, port => by
    unfold tcpConnectPort
    by_cases hp : tcpPcbSelect t { local_ with port := p.toUInt16 } (some foreign) = none
    · rw [if_pos hp, List.find?_cons_of_pos (by simp [hp])]
    · rw [if_neg hp, List.find?_cons_of_neg (by simpa using hp),
        tcpConnectPort_eq t local_ foreign ports p.toUInt16]
      -- no free port further on: the last port tried is the list's last
      split <;> simp [List.getLast?_cons, Option.getD_map]

/-- `tcp_open` and `tcp_connect` to `10.0.0.2:80` from a PCB with no port. -/
def tcpConnectEphemeralRun : List (TcpEnv × TcpEvent) :=
  [(lifecycleEnv 0, .command .openSocket),
   (lifecycleEnv 0, .command (.connect 0 ⟨0x0200000a, 80⟩))]

/-- A socket bound to `0.0.0.0` on the port field `0xc000` and left CLOSED, and a second
socket connecting to `10.0.0.2:80` from no port. -/
def tcpConnectOverBoundRun : List (TcpEnv × TcpEvent) :=
  [(lifecycleEnv 0, .command .openSocket),
   (lifecycleEnv 0, .command (.bind 0 ⟨IP_ADDR_ANY, 0xc000⟩)),
   (lifecycleEnv 0, .command .openSocket),
   (lifecycleEnv 0, .command (.connect 1 ⟨0x0200000a, 80⟩))]

/-- The connecting PCB sends its SYN from the port that reads `192` in network order on a
little-endian host, outside `49152 ..= 65535`. Next to a PCB bound to `0.0.0.0` on the field
`0xc000`, with a wildcard foreign endpoint, the connection takes that same field on
`10.0.0.1`. -/
theorem tcp_connect_port_run :
    (tcpRun TcpSystem.init tcpConnectEphemeralRun).map (fun p =>
        ((p.1.tcp.pcbs 0).state, ntoh16 .little (p.1.tcp.pcbs 0).local_.port)) =
      some (.synSent, 192) ∧
    (tcpRun TcpSystem.init tcpConnectOverBoundRun).map (fun p =>
        ((p.1.tcp.pcbs 0).state, (p.1.tcp.pcbs 0).local_, (p.1.tcp.pcbs 0).foreign,
          (p.1.tcp.pcbs 1).state, (p.1.tcp.pcbs 1).local_)) =
      some (.closed, ⟨IP_ADDR_ANY, 0xc000⟩, ⟨IP_ADDR_ANY, 0⟩, .synSent, ⟨0x0100000a, 0xc000⟩) := by
  decide

/-! ## `udp_bind` and `udp_sendto` -/

/-- `udp_bind` on an OPEN PCB succeeds exactly when no OPEN PCB holds the port on the requested
address or on a stored `IP_ADDR_ANY`, and then sets the local endpoint alone. -/
theorem udpBind_eq {u : Udp} {i : Fin UDP_PCB_SIZE} (hopen : (u.pcbs i).state = .open_)
    (local_ : IpEndpoint) :
    udpBind u (udpPcbId i) local_ =
      if ∃ j, (u.pcbs j).state = .open_ ∧ ((u.pcbs j).local_.addr = IP_ADDR_ANY ∨
          (u.pcbs j).local_.addr = local_.addr) ∧ (u.pcbs j).local_.port = local_.port then (u, -1)
      else (u.set i { u.pcbs i with local_ := local_ }, 0) := by
  have hsel : (udpPcbSelect u local_.addr local_.port).isSome ↔ ∃ j,
      (u.pcbs j).state = .open_ ∧ ((u.pcbs j).local_.addr = IP_ADDR_ANY ∨
        (u.pcbs j).local_.addr = local_.addr) ∧ (u.pcbs j).local_.port = local_.port := by
    rw [udpPcbSelect, List.find?_isSome]
    simp
  simp only [udpBind, udpPcbGet_open hopen]
  by_cases h : ∃ j, (u.pcbs j).state = .open_ ∧ ((u.pcbs j).local_.addr = IP_ADDR_ANY ∨
      (u.pcbs j).local_.addr = local_.addr) ∧ (u.pcbs j).local_.port = local_.port
  · rw [if_pos (hsel.mpr h), if_pos h]
  · rw [if_neg (mt hsel.mp h), if_neg h]

/-- The port `udp_sendto`'s loop finds is one that `udp_pcb_select` does not find at the address
it was asked for. -/
theorem udpPcbSelect_of_udpSendtoPort {e : Endian} {u : Udp} {addr : UInt32} {port : UInt16}
    (h : udpSendtoPort e u addr = some port) : udpPcbSelect u addr port = none := by
  obtain ⟨p, -, hp⟩ := List.exists_of_findSome?_eq_some h
  by_cases hsel : (udpPcbSelect u addr (hton16 e p.toUInt16)).isSome
  · simp [hsel] at hp
  · simp only [hsel, Bool.false_eq_true, if_false, Option.some.injEq] at hp
    rw [← hp]
    simpa using hsel

/-- `udp_sendto` on an OPEN PCB with neither an address nor a port, routed through `iface`,
gives the PCB the port its loop found free at the interface's address, and leaves it on
`IP_ADDR_ANY`: from then on it holds that port on every address. -/
theorem udpSendto_port (e : Endian) (env : UdpEnv) {u : Udp} {i : Fin UDP_PCB_SIZE}
    (hopen : (u.pcbs i).state = .open_) (hlocal : (u.pcbs i).local_ = ⟨IP_ADDR_ANY, 0⟩)
    (data : List UInt8) {foreign : IpEndpoint} {iface : IpIface}
    (hroute : env.ipRouteGetIface foreign.addr = some iface) {port : UInt16}
    (hport : udpSendtoPort e u iface.unicast = some port) :
    udpPcbSelect u iface.unicast port = none ∧
      (udpSendto e env u (udpPcbId i) data foreign).1.pcbs i =
        { u.pcbs i with local_ := ⟨IP_ADDR_ANY, port⟩ } := by
  refine ⟨udpPcbSelect_of_udpSendtoPort hport, ?_⟩
  simp only [udpSendto, udpPcbGet_open hopen, hlocal, if_true, hroute, Option.map_some, hport]
  -- whatever `udp_output` makes of the datagram, the PCB keeps the port
  split <;> simp

/-- The environment of a UDP step: allocations and output succeed, every destination is routed
through the interface `10.0.0.1/24`, and `pthread_cond_destroy` returns `0`. -/
def udpDemoEnv : UdpEnv :=
  ⟨true, fun _ => true, fun _ => some ⟨0x0100000a, 0x00ffffff, 0xff00000a, 1500⟩, fun _ => 0,
    pthreadCondDestroy_success_ne⟩

/-- Two PCBs, bound to `10.0.0.1:7` and then to `0.0.0.0:7`. -/
def udpOverlappingBindRun : List (UdpEnv × UdpEvent) :=
  [(udpDemoEnv, .command .open_), (udpDemoEnv, .command .open_),
   (udpDemoEnv, .command (.bind 0 ⟨0x0100000a, 7⟩)),
   (udpDemoEnv, .command (.bind 1 ⟨IP_ADDR_ANY, 7⟩))]

/-- The same binds in the other order. -/
def udpOverlappingBindRevRun : List (UdpEnv × UdpEvent) :=
  [(udpDemoEnv, .command .open_), (udpDemoEnv, .command .open_),
   (udpDemoEnv, .command (.bind 0 ⟨IP_ADDR_ANY, 7⟩)),
   (udpDemoEnv, .command (.bind 1 ⟨0x0100000a, 7⟩))]

/-- A PCB bound to `10.0.0.2` on port `49152` (`192` in network order on a little-endian
host), and `udp_sendto` on an unbound PCB to `10.0.0.9:53`. -/
def udpSendtoOverlapRun : List (UdpEnv × UdpEvent) :=
  [(udpDemoEnv, .command .open_), (udpDemoEnv, .command .open_),
   (udpDemoEnv, .command (.bind 0 ⟨0x0200000a, 192⟩)),
   (udpDemoEnv, .command (.sendto 1 [1] ⟨0x0900000a, 53⟩))]

/-- Both binds succeed and leave two OPEN PCBs on port 7, one of them on every address; in the
other order the second bind is refused. The send gives the unbound PCB port `49152` on
`0.0.0.0`, overlapping the PCB bound to `10.0.0.2:49152`. -/
theorem udp_overlapping_bind_run :
    (udpRun .little UdpSystem.init udpOverlappingBindRun).map (fun p => p.2) =
      some [.ret 0, .ret 1, .ret 0, .ret 0] ∧
    (udpRun .little UdpSystem.init udpOverlappingBindRun).map (fun p =>
        ((p.1.udp.pcbs 0).state, (p.1.udp.pcbs 0).local_, (p.1.udp.pcbs 1).state,
          (p.1.udp.pcbs 1).local_)) =
      some (.open_, ⟨0x0100000a, 7⟩, .open_, ⟨IP_ADDR_ANY, 7⟩) ∧
    (udpRun .little UdpSystem.init udpOverlappingBindRevRun).map (fun p => p.2) =
      some [.ret 0, .ret 1, .ret 0, .ret (-1)] ∧
    (udpRun .little UdpSystem.init udpSendtoOverlapRun).map (fun p =>
        (p.2, (p.1.udp.pcbs 0).local_, (p.1.udp.pcbs 1).local_)) =
      some ([.ret 0, .ret 1, .ret 0, .ret 1], ⟨0x0200000a, 192⟩, ⟨IP_ADDR_ANY, 192⟩) := by
  decide

end Microps
