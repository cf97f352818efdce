import Microps.Analysis.IpOutput

/-!
# A stream of datagrams over a TAP link

`ether_tap_isr` polls the device's file and reads the frame that waits, round after round, until
`poll` finds nothing; a `poll` that fails with `EINTR` is tried again and a `read` that fails
leaves the frame waiting. Each frame `ether_poll_helper` keeps goes to `net_input_handler`. With
no other `poll` failure, allocations that succeed and more successful reads than frames, the
loop ends having read every frame, and the input queue of a registered type gains what each
frame brings, in the order the frames were written, and nothing else (`queueOf_etherTapIsr`).

On the sending host, a run of `ip_output` calls to a neighbour whose ARP entry is resolved, on a
device whose `write(2)` takes each frame whole, writes exactly one frame per call
(`ipOutputRun_etherTapTransmit`, by induction on the run from `ipOutput_etherTapTransmit`). So
when the neighbour's interrupt handler reads those frames, its IP input queue gains the
datagrams in the order they were sent, with consecutive identifiers, none lost and none twice
(`ip_output_stream_in_order`).
-/

set_option autoImplicit false

namespace Microps

open ByteOrder

variable {H : Type}

/-! ## The receive loop of the TAP driver -/

/-- What one frame `ether_tap_isr` reads puts in the input queue of type `T`, both allocations
of `net_input_handler` succeeding. -/
def etherTapAccepted (e : Endian) (dev : NetDev) (T : UInt16) (frame : List UInt8) :
    List (NetProtocolQueueEntry NetDev) :=
  match etherPollHelper e dev (frame.take ETHER_FRAME_SIZE_MAX) with
  | none => []
  | some (type, payload) => (NetEvent.input true true type payload dev).accepted T

/-- A round of the receive loop in which `poll` does not fail and `read` succeeds. -/
def EtherIsrRound.reads (round : EtherIsrRound) : Bool :=
  round.pollError.isNone && round.readOk

/-- `ether_tap_isr` reads every frame and loses and duplicates nothing: when no `poll` fails but
with `EINTR`, every allocation succeeds and more rounds read than frames wait, the loop ends
with no frame waiting and returns 0, and the input queue of a registered type gains, in the
order the frames were written, what each frame puts in it. -/
theorem queueOf_etherTapIsr (e : Endian) (dev : NetDev) {T : UInt16} :
    ∀ (rounds : List EtherIsrRound) (frames : List (List UInt8))
      {protocols : List (NetProtocol H NetDev)},
      (protocols.map NetProtocol.type).Nodup → T ∈ protocols.map NetProtocol.type →
      (∀ round ∈ rounds, round.pollError ≠ some .other ∧ round.allocEntry ∧ round.allocPush) →
      frames.length < rounds.countP EtherIsrRound.reads →
      ∃ protocols', etherTapIsr e dev protocols frames rounds = some (protocols', [], 0) ∧
        queueOf T protocols' = queueOf T protocols ++ frames.flatMap (etherTapAccepted e dev T)
  | [], frames, _, _, _, _, henough => absurd henough (by simp)
  | round :: rounds, frames, protocols, hnodup, hT, hrounds, henough => by
    obtain ⟨hpoll, hentry, hpush⟩ := hrounds round List.mem_cons_self
    have hrest : ∀ r ∈ rounds, r.pollError ≠ some .other ∧ r.allocEntry ∧ r.allocPush :=
      fun r hr => hrounds r (List.mem_cons_of_mem _ hr)
    rw [List.countP_cons] at henough
    rcases herr : round.pollError with _ | perr
    · cases frames with
      | nil =>
        -- `poll` finds nothing waiting: the loop ends
        refine ⟨protocols, ?_, by simp⟩
        simp [etherTapIsr, herr]
      | cons frame frames =>
        cases hread : round.readOk
        · -- the read fails and the frame waits for the next round, which `reads` does not count
          have henough' : (frame :: frames).length < rounds.countP EtherIsrRound.reads := by
            simpa [EtherIsrRound.reads, herr, hread] using henough
          obtain ⟨protocols', hisr, hqueue⟩ :=
            queueOf_etherTapIsr e dev rounds (frame :: frames) hnodup hT hrest henough'
          exact ⟨protocols', by simp [etherTapIsr, herr, hread, hisr], hqueue⟩
        · -- the frame is read: `net_input_handler` keeps the table's types, so the rest of the
          -- loop sees a table of the same shape
          have henough' : frames.length < rounds.countP EtherIsrRound.reads := by
            simp only [EtherIsrRound.reads, herr, hread, Option.isNone_none, Bool.and_true,
              if_true, List.length_cons] at henough
            omega
          cases hhelper : etherPollHelper e dev (frame.take ETHER_FRAME_SIZE_MAX) with
          | none =>
            -- a frame for another host, or too short: the table is untouched
            obtain ⟨protocols', hisr, hqueue⟩ :=
              queueOf_etherTapIsr e dev rounds frames hnodup hT hrest henough'
            refine ⟨protocols', by simp [etherTapIsr, herr, hread, hhelper, hisr], ?_⟩
            rw [hqueue, List.flatMap_cons, etherTapAccepted, hhelper, List.nil_append]
          | some input =>
            obtain ⟨type, payload⟩ := input
            have htypes := types_netInputHandler true true type payload dev protocols
            obtain ⟨protocols', hisr, hqueue⟩ := queueOf_etherTapIsr e dev rounds frames
              (htypes ▸ hnodup) (htypes ▸ hT) hrest henough'
            refine ⟨protocols', by simp [etherTapIsr, herr, hread, hhelper, hentry, hpush, hisr], ?_⟩
            rw [hqueue, queueOf_netInputHandler hnodup hT, List.flatMap_cons, etherTapAccepted,
              hhelper, List.append_assoc]
    · -- `poll` fails with `EINTR` and the loop polls again; the round reads nothing
      cases perr with
      | eintr =>
        have henough' : frames.length < rounds.countP EtherIsrRound.reads := by
          simpa [EtherIsrRound.reads, herr] using henough
        obtain ⟨protocols', hisr, hqueue⟩ :=
          queueOf_etherTapIsr e dev rounds frames hnodup hT hrest henough'
        exact ⟨protocols', by simp [etherTapIsr, herr, hisr], hqueue⟩
      | other => exact absurd herr hpoll

/-! ## A run of `ip_output` through the TAP driver -/

/-- The datagrams a run of `ip_output` builds from `src` to `dst`, with the identifiers drawn
from `id` on. -/
def ipOutputDatagrams (e : Endian) (src dst : UInt32) (id : UInt16) :
    List (Timeval × UInt8 × List UInt8) → List (List UInt8)
  | [] => []
  | (_, protocol, data) :: sends =>
    ipOutputCore e protocol data src dst id 0 :: ipOutputDatagrams e src dst (id + 1) sends

/-- A datagram as it comes out of an Ethernet frame: followed by the padding up to the minimum
payload. -/
def etherPadded (d : List UInt8) : List UInt8 :=
  d ++ List.replicate (etherPad d.length) 0

/-- Each call of a run of `ip_output` to a resolved neighbour, on a device whose `write(2)` takes
each frame whole, writes one frame and returns the length of its data; the neighbour's device
takes the frames, with both allocations of `net_input_handler` succeeding, as the run's
datagrams for IP, in order. -/
theorem ipOutputRun_etherTapTransmit (e : Endian) (write : Nat → Nat → Int)
    (devOf : IpIface → NetDev) (h : IpHost EtherFile) (sends : List (Timeval × UInt8 × List UInt8))
    {src dst : UInt32} {route : IpRoute}
    (hbc : ¬(src = IP_ADDR_ANY ∧ dst = IP_ADDR_BROADCAST))
    (hroute : ipRouteLookup e h.routes dst = some route)
    (hsrc : src = IP_ADDR_ANY ∨ src = route.iface.unicast)
    (hmtu : ∀ send ∈ sends, IP_HDR_SIZE_MIN + send.2.2.length ≤ (devOf route.iface).mtu.toNat)
    (hdev : (devOf route.iface).ResolvesArp) (hup : (devOf route.iface).isUp)
    (hether : (devOf route.iface).mtu.toNat ≤ ETHER_PAYLOAD_SIZE_MAX)
    (haddr : 6 ≤ (devOf route.iface).addr.length)
    (hnexthop : ¬(ipRouteNexthop route dst = route.iface.broadcast ∨
      ipRouteNexthop route dst = IP_ADDR_BROADCAST))
    {i : Fin ARP_CACHE_SIZE} (hsel : arpCacheSelect h.arp.arp (ipRouteNexthop route dst) = some i)
    (hres : (h.arp.arp.caches i).state ≠ .incomplete) (hha : 6 ≤ (h.arp.arp.caches i).ha.length)
    (hwrite : ∀ k len, h.link.writes ≤ k → write k len = len) :
    ∃ frames,
      h.ipOutputRun (etherTapTransmit e write) devOf e src dst sends =
        (⟨h.routes, h.id + UInt16.ofNat sends.length, h.arp,
          ⟨h.link.frames ++ frames, h.link.writes + sends.length⟩⟩,
          sends.map fun send => (send.2.2.length : Int)) ∧
      frames.length = sends.length ∧
      ∀ (eB : Endian) (devB : NetDev), devB.addr.take 6 = (h.arp.arp.caches i).ha.take 6 →
        frames.flatMap (etherTapAccepted eB devB NET_PROTOCOL_TYPE_IP) =
          (ipOutputDatagrams e route.iface.unicast dst h.id sends).map
            fun d => ⟨devB, (etherPadded d).length, etherPadded d⟩ := by
  -- induction on the run; each call leaves the routes and the ARP layer as they were, so the
  -- hypotheses about them hold of the host after it
  induction sends generalizing h with
  | nil =>
    refine ⟨[], ?_, rfl, fun _ _ _ => rfl⟩
    simp [IpHost.ipOutputRun]
  | cons send sends ih =>
    obtain ⟨now, protocol, data⟩ := send
    obtain ⟨frame, hout, hmin, hmax, hpoll⟩ := ipOutput_etherTapTransmit e write devOf now h
      protocol data hbc hroute hsrc (hmtu _ List.mem_cons_self) hdev hup hether haddr hnexthop
      hsel hres hha
    -- the write takes the frame whole
    have hpos : 0 < frame.length := by
      simp only [ETHER_FRAME_SIZE_MIN] at hmin
      omega
    have hret := hwrite h.link.writes frame.length le_rfl
    rw [etherWrite_of_whole hret hpos, if_pos hret] at hout
    obtain ⟨frames, hrun, hlen, hacc⟩ := ih
      ⟨h.routes, h.id + 1, h.arp, ⟨h.link.frames ++ [frame], h.link.writes + 1⟩⟩ hroute
      (fun send hsend => hmtu send (List.mem_cons_of_mem _ hsend)) hsel hres hha
      (fun k len hk => hwrite k len (by dsimp only at hk; omega))
    refine ⟨frame :: frames, ?_, by rw [List.length_cons, hlen, List.length_cons], fun eB devB hB => ?_⟩
    · -- the identifier advances once per call and the frames are written in order
      have hid : h.id + 1 + UInt16.ofNat sends.length =
          h.id + UInt16.ofNat (sends.length + 1) := by
        rw [UInt16.ofNat_add, UInt16.ofNat_one, UInt16.add_assoc, UInt16.add_comm 1]
      have hwrites : h.link.writes + 1 + sends.length = h.link.writes + (sends.length + 1) := by
        omega
      simp only [IpHost.ipOutputRun, hout, hrun, hid, hwrites, List.append_assoc,
        List.singleton_append, List.length_cons, List.map_cons]
    · -- the first frame is read whole, as the first datagram
      have hfirst : etherTapAccepted eB devB NET_PROTOCOL_TYPE_IP frame =
          [⟨devB, (etherPadded (ipOutputCore e protocol data route.iface.unicast dst h.id 0)).length,
            etherPadded (ipOutputCore e protocol data route.iface.unicast dst h.id 0)⟩] := by
        simp [etherTapAccepted, List.take_of_length_le hmax, hpoll eB devB hB, NetEvent.accepted,
          etherPadded]
      rw [List.flatMap_cons, hfirst, hacc eB devB hB, ipOutputDatagrams, List.map_cons,
        List.singleton_append]

/-- **A stream of datagrams over a TAP link arrives whole and in order.** A host whose route to
`dst` leaves by an interface on an Ethernet device that is up, and whose ARP cache holds the next
hop with a hardware address, makes a run of `ip_output` calls whose data pass the checks, on a
device whose `write(2)` takes each frame whole: each call returns its data's length, the
identifier advances by one per call, and the TAP driver writes exactly one frame per call. The
neighbour whose device has that hardware address, of any byte order, finds those frames on its
file; when its `ether_tap_isr` has no `poll` failure but `EINTR`, every allocation of
`net_input_handler` succeeds and more of its rounds read than frames wait, the handler reads
every frame and returns 0, and its IP input queue gains exactly the run's datagrams, each
followed by its Ethernet padding, in the order they were sent, with identifiers counted on from
the host's. -/
theorem ip_output_stream_in_order (e eB : Endian) (write : Nat → Nat → Int)
    (devOf : IpIface → NetDev) (h : IpHost EtherFile) (sends : List (Timeval × UInt8 × List UInt8))
    {src dst : UInt32} {route : IpRoute}
    (hbc : ¬(src = IP_ADDR_ANY ∧ dst = IP_ADDR_BROADCAST))
    (hroute : ipRouteLookup e h.routes dst = some route)
    (hsrc : src = IP_ADDR_ANY ∨ src = route.iface.unicast)
    (hmtu : ∀ send ∈ sends, IP_HDR_SIZE_MIN + send.2.2.length ≤ (devOf route.iface).mtu.toNat)
    (hdev : (devOf route.iface).ResolvesArp) (hup : (devOf route.iface).isUp)
    (hether : (devOf route.iface).mtu.toNat ≤ ETHER_PAYLOAD_SIZE_MAX)
    (haddr : 6 ≤ (devOf route.iface).addr.length)
    (hnexthop : ¬(ipRouteNexthop route dst = route.iface.broadcast ∨
      ipRouteNexthop route dst = IP_ADDR_BROADCAST))
    {i : Fin ARP_CACHE_SIZE} (hsel : arpCacheSelect h.arp.arp (ipRouteNexthop route dst) = some i)
    (hres : (h.arp.arp.caches i).state ≠ .incomplete) (hha : 6 ≤ (h.arp.arp.caches i).ha.length)
    (hwrite : ∀ k len, h.link.writes ≤ k → write k len = len)
    (devB : NetDev) (hB : devB.addr.take 6 = (h.arp.arp.caches i).ha.take 6)
    {protocols : List (NetProtocol H NetDev)} (hnodup : (protocols.map NetProtocol.type).Nodup)
    (hip : NET_PROTOCOL_TYPE_IP ∈ protocols.map NetProtocol.type) (rounds : List EtherIsrRound)
    (hrounds : ∀ round ∈ rounds, round.pollError ≠ some .other ∧ round.allocEntry ∧ round.allocPush)
    (henough : sends.length < rounds.countP EtherIsrRound.reads) :
    ∃ frames protocols',
      h.ipOutputRun (etherTapTransmit e write) devOf e src dst sends =
        (⟨h.routes, h.id + UInt16.ofNat sends.length, h.arp,
          ⟨h.link.frames ++ frames, h.link.writes + sends.length⟩⟩,
          sends.map fun send => (send.2.2.length : Int)) ∧
      frames.length = sends.length ∧
      etherTapIsr eB devB protocols frames rounds = some (protocols', [], 0) ∧
      queueOf NET_PROTOCOL_TYPE_IP protocols' =
        queueOf NET_PROTOCOL_TYPE_IP protocols ++
          (ipOutputDatagrams e route.iface.unicast dst h.id sends).map
            fun d => ⟨devB, (etherPadded d).length, etherPadded d⟩ := by
  obtain ⟨frames, hrun, hlen, hacc⟩ := ipOutputRun_etherTapTransmit e write devOf h sends hbc
    hroute hsrc hmtu hdev hup hether haddr hnexthop hsel hres hha hwrite
  obtain ⟨protocols', hisr, hqueue⟩ :=
    queueOf_etherTapIsr eB devB rounds frames hnodup hip hrounds (hlen ▸ henough)
  refine ⟨frames, protocols', hrun, hlen, hisr, ?_⟩
  rw [hqueue, hacc eB devB hB]

/-- The host of `ip_output_reaches_neighbour_lan`, on a device that takes every frame whole,
sends three bytes of UDP and then two more to its neighbour; the neighbour's handler, whose
first `poll` is interrupted, reads both frames, and its IP queue gets both datagrams, in that
order, with identifiers 128 and 129. -/
theorem ip_output_stream_in_order_lan :
    ∃ frames protocols',
      IpHost.ipOutputRun (etherTapTransmit .little fun _ len => len)
          (fun _ => ⟨0, .ethernet, 1500, NET_DEVICE_FLAG_UP ||| NET_DEVICE_FLAG_BROADCAST |||
            NET_DEVICE_FLAG_NEED_ARP, [2, 0, 0, 0, 0, 1], ETHER_ADDR_BROADCAST, []⟩) .little
          IP_ADDR_ANY 0x0200000a
          ⟨[⟨0x0000000a, 0x00ffffff, IP_ADDR_ANY, ⟨0x0100000a, 0x00ffffff, 0xff00000a, 1500⟩⟩],
            IP_GENERATE_ID_INIT,
            ⟨Arp.init.set 0 ⟨.resolved, 0x0200000a, [2, 0, 0, 0, 0, 2], ⟨0, 0⟩⟩, [], []⟩, ⟨[], 0⟩⟩
          [(⟨0, 0⟩, IP_PROTOCOL_UDP, [1, 2, 3]), (⟨0, 1⟩, IP_PROTOCOL_UDP, [4, 5])] =
        (⟨[⟨0x0000000a, 0x00ffffff, IP_ADDR_ANY, ⟨0x0100000a, 0x00ffffff, 0xff00000a, 1500⟩⟩],
          IP_GENERATE_ID_INIT + UInt16.ofNat 2,
          ⟨Arp.init.set 0 ⟨.resolved, 0x0200000a, [2, 0, 0, 0, 0, 2], ⟨0, 0⟩⟩, [], []⟩,
          ⟨[] ++ frames, 0 + 2⟩⟩, [3, 2]) ∧
      frames.length = 2 ∧
      etherTapIsr .big ⟨1, .ethernet, 1500, NET_DEVICE_FLAG_UP ||| NET_DEVICE_FLAG_BROADCAST |||
          NET_DEVICE_FLAG_NEED_ARP, [2, 0, 0, 0, 0, 2], ETHER_ADDR_BROADCAST, []⟩
          ([⟨NET_PROTOCOL_TYPE_ARP, (), []⟩, ⟨NET_PROTOCOL_TYPE_IP, (), []⟩] :
            List (NetProtocol Unit NetDev)) frames
          [⟨some .eintr, true, true, true⟩, ⟨none, true, true, true⟩, ⟨none, true, true, true⟩,
            ⟨none, true, true, true⟩] = some (protocols', [], 0) ∧
      queueOf NET_PROTOCOL_TYPE_IP protocols' =
        [] ++ [ipOutputCore .little IP_PROTOCOL_UDP [1, 2, 3] 0x0100000a 0x0200000a
            IP_GENERATE_ID_INIT 0,
          ipOutputCore .little IP_PROTOCOL_UDP [4, 5] 0x0100000a 0x0200000a
            (IP_GENERATE_ID_INIT + 1) 0].map
          fun d => ⟨⟨1, .ethernet, 1500, NET_DEVICE_FLAG_UP ||| NET_DEVICE_FLAG_BROADCAST |||
            NET_DEVICE_FLAG_NEED_ARP, [2, 0, 0, 0, 0, 2], ETHER_ADDR_BROADCAST, []⟩,
            (etherPadded d).length, etherPadded d⟩ :=
  @ip_output_stream_in_order Unit .little .big (fun _ len => len)
    (fun _ => ⟨0, .ethernet, 1500, NET_DEVICE_FLAG_UP ||| NET_DEVICE_FLAG_BROADCAST |||
      NET_DEVICE_FLAG_NEED_ARP, [2, 0, 0, 0, 0, 1], ETHER_ADDR_BROADCAST, []⟩)
    ⟨[⟨0x0000000a, 0x00ffffff, IP_ADDR_ANY, ⟨0x0100000a, 0x00ffffff, 0xff00000a, 1500⟩⟩],
      IP_GENERATE_ID_INIT, ⟨Arp.init.set 0 ⟨.resolved, 0x0200000a, [2, 0, 0, 0, 0, 2], ⟨0, 0⟩⟩, [], []⟩,
      ⟨[], 0⟩⟩
    [(⟨0, 0⟩, IP_PROTOCOL_UDP, [1, 2, 3]), (⟨0, 1⟩, IP_PROTOCOL_UDP, [4, 5])]
    IP_ADDR_ANY 0x0200000a
    ⟨0x0000000a, 0x00ffffff, IP_ADDR_ANY, ⟨0x0100000a, 0x00ffffff, 0xff00000a, 1500⟩⟩
    (by decide) (by decide) (.inl rfl) (by decide) ⟨by decide, rfl⟩ (by decide) (by decide)
    (by decide) (by decide) 0 (by decide) (by decide) (by decide) (fun _ _ _ => rfl)
    ⟨1, .ethernet, 1500, NET_DEVICE_FLAG_UP ||| NET_DEVICE_FLAG_BROADCAST |||
      NET_DEVICE_FLAG_NEED_ARP, [2, 0, 0, 0, 0, 2], ETHER_ADDR_BROADCAST, []⟩ (by decide)
    [⟨NET_PROTOCOL_TYPE_ARP, (), []⟩, ⟨NET_PROTOCOL_TYPE_IP, (), []⟩] (by decide) (by decide)
    _ (by decide) (by decide)

end Microps
