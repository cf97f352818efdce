import Microps.Model.IpOutput
import Microps.Model.Driver
import Microps.Analysis.Link
import Microps.Analysis.NetInput
import Microps.Analysis.IpRoundTrip

/-!
# `ip_output` over a device that needs ARP

Once `ip_output`'s checks pass, what it does is `ip_output_device` on the datagram and the next
hop (`IpHost.ipOutput_of_route`). On an Ethernet device, for a next hop that is not a broadcast
address, `ip_output_device` does one of three things, after what `arp_cache_select` finds for
the next hop: nothing, and an entry is made INCOMPLETE and a request sent; an INCOMPLETE entry,
and the request is sent again; an entry with a hardware address, and the datagram goes to the
device addressed to it.

`ip_output_over_arp` puts these together: `ip_output` reports the datagram as sent (it returns
the data's length) whenever its checks pass, also in the first two cases, where the datagram is
dropped and the drivers never see it.
-/

set_option autoImplicit false

namespace Microps

open ByteOrder

/-- A device on which `ip_output_device` resolves unicast addresses with ARP: it needs ARP and
is Ethernet, as `ether_setup_helper` makes every Ethernet device. -/
structure NetDev.ResolvesArp (dev : NetDev) : Prop where
  needArp : dev.flags &&& NET_DEVICE_FLAG_NEED_ARP ≠ 0
  ethernet : dev.type = .ethernet

section Device

variable {S : Type} (transmit : S → NetDev → UInt16 → List UInt8 → List UInt8 → S × Int)
  (now : Timeval) (arp : ArpSystem) (s : S) {dev : NetDev} (hdev : dev.ResolvesArp)
  {iface : IpIface} (data : List UInt8) {dst : UInt32}
  (hdst : ¬(dst = iface.broadcast ∨ dst = IP_ADDR_BROADCAST))

include hdev hdst

/-- A next hop the cache does not hold: an entry and a request, and the device is not used;
`ip_output_device` returns INCOMPLETE. -/
theorem ipOutputDevice_new (hnew : arpCacheSelect arp.arp dst = none) :
    ∃ a, ipOutputDevice transmit now arp s dev iface data dst =
      (⟨a, arp.inputs, arp.out ++ [.request dst]⟩, s, 0) := by
  obtain ⟨i, hi⟩ := Option.isSome_iff_exists.mp (arpCacheAlloc_isSome arp.arp)
  have htype : ¬dev.type ≠ .ethernet := not_not.mpr hdev.ethernet
  have hr : arpResolve now arp.arp dst =
      (arp.arp.set i ⟨.incomplete, dst, (arp.arp.caches i).ha, now⟩, [.request dst], .incomplete) := by
    simp only [arpResolve, hnew, hi]
  refine ⟨arp.arp.set i ⟨.incomplete, dst, (arp.arp.caches i).ha, now⟩, ?_⟩
  simp only [ipOutputDevice, if_pos hdev.needArp, if_neg hdst, if_neg htype, hr]

/-- A next hop whose entry is INCOMPLETE: the request again, and the device is not used. -/
theorem ipOutputDevice_incomplete {i : Fin ARP_CACHE_SIZE}
    (hsel : arpCacheSelect arp.arp dst = some i) (hinc : (arp.arp.caches i).state = .incomplete) :
    ipOutputDevice transmit now arp s dev iface data dst =
      (⟨arp.arp, arp.inputs, arp.out ++ [.request dst]⟩, s, 0) := by
  have htype : ¬dev.type ≠ .ethernet := not_not.mpr hdev.ethernet
  have hr : arpResolve now arp.arp dst = (arp.arp, [.request dst], .incomplete) := by
    simp only [arpResolve, hsel, hinc, if_true]
  simp only [ipOutputDevice, if_pos hdev.needArp, if_neg hdst, if_neg htype, hr]

/-- A next hop whose entry holds a hardware address: the datagram goes to the device, addressed
to it, and the ARP layer is as it was. -/
theorem ipOutputDevice_found {i : Fin ARP_CACHE_SIZE}
    (hsel : arpCacheSelect arp.arp dst = some i) (hinc : (arp.arp.caches i).state ≠ .incomplete) :
    ipOutputDevice transmit now arp s dev iface data dst =
      (arp, netDeviceOutput transmit s dev NET_PROTOCOL_TYPE_IP data (arp.arp.caches i).ha) := by
  have htype : ¬dev.type ≠ .ethernet := not_not.mpr hdev.ethernet
  have hr : arpResolve now arp.arp dst = (arp.arp, [], .found (arp.arp.caches i).ha) := by
    simp only [arpResolve, hsel, hinc, if_false]
  simp only [ipOutputDevice, if_pos hdev.needArp, if_neg hdst, if_neg htype, hr, List.append_nil]

end Device

section Host

variable {S : Type} (transmit : S → NetDev → UInt16 → List UInt8 → List UInt8 → S × Int)
  (devOf : IpIface → NetDev) (e : Endian) (now : Timeval) (h : IpHost S) (protocol : UInt8)
  (data : List UInt8) {src dst : UInt32}

/-- `ip_output` once its checks pass: `ip_output_device` on the datagram built with the next
identifier, from the route's interface's address, to the next hop; it reports the data's length
unless `ip_output_device` failed. -/
theorem IpHost.ipOutput_of_route {route : IpRoute}
    (hbc : ¬(src = IP_ADDR_ANY ∧ dst = IP_ADDR_BROADCAST))
    (hroute : ipRouteLookup e h.routes dst = some route)
    (hsrc : src = IP_ADDR_ANY ∨ src = route.iface.unicast)
    (hmtu : IP_HDR_SIZE_MIN + data.length ≤ (devOf route.iface).mtu.toNat)
    {arp : ArpSystem} {link : S} {ret : Int}
    (hdevice : ipOutputDevice transmit now h.arp h.link (devOf route.iface) route.iface
      (ipOutputCore e protocol data route.iface.unicast dst h.id 0) (ipRouteNexthop route dst) =
        (arp, link, ret)) :
    h.ipOutput transmit devOf e now protocol data src dst =
      (⟨h.routes, h.id + 1, arp, link⟩, if ret = -1 then -1 else (data.length : Int)) := by
  have hsrc' : ¬(src ≠ IP_ADDR_ANY ∧ src ≠ route.iface.unicast) := by
    rintro ⟨hany, hown⟩
    rcases hsrc with h | h
    · exact hany h
    · exact hown h
  have hmtu' : ¬(devOf route.iface).mtu.toNat < IP_HDR_SIZE_MIN + data.length := by omega
  rw [IpHost.ipOutput, if_neg hbc]
  simp only [hroute, if_neg hsrc', if_neg hmtu', ipGenerateId, hdevice]

end Host

/-- **`ip_output` over ARP.** On a host whose route to `dst` leaves by an interface on a
device that resolves with ARP, for data that passes `ip_output`'s checks and a next hop that is
not a broadcast address. When the cache does not hold the next hop, or holds it INCOMPLETE,
`ip_output` returns the data's length, yet the datagram never reaches the device: the drivers'
state is as it was, and the ARP layer has sent one request for the next hop. When the cache
holds the next hop with a hardware address, the datagram, with the counter's identifier, goes
to the device addressed to that hardware address, the ARP layer is untouched, and `ip_output`
returns the data's length unless the device failed. Either way the counter moves on by one. -/
theorem ip_output_over_arp {S : Type}
    (transmit : S → NetDev → UInt16 → List UInt8 → List UInt8 → S × Int)
    (devOf : IpIface → NetDev) (e : Endian) (now : Timeval) (h : IpHost S) (protocol : UInt8)
    (data : List UInt8) {src dst : UInt32} {route : IpRoute}
    (hbc : ¬(src = IP_ADDR_ANY ∧ dst = IP_ADDR_BROADCAST))
    (hroute : ipRouteLookup e h.routes dst = some route)
    (hsrc : src = IP_ADDR_ANY ∨ src = route.iface.unicast)
    (hmtu : IP_HDR_SIZE_MIN + data.length ≤ (devOf route.iface).mtu.toNat)
    (hdev : (devOf route.iface).ResolvesArp)
    (hnexthop : ¬(ipRouteNexthop route dst = route.iface.broadcast ∨
      ipRouteNexthop route dst = IP_ADDR_BROADCAST)) :
    ((∀ i, arpCacheSelect h.arp.arp (ipRouteNexthop route dst) = some i →
        (h.arp.arp.caches i).state = .incomplete) →
      ∃ a, h.ipOutput transmit devOf e now protocol data src dst =
        (⟨h.routes, h.id + 1, ⟨a, h.arp.inputs, h.arp.out ++ [.request (ipRouteNexthop route dst)]⟩,
          h.link⟩, (data.length : Int))) ∧
    ∀ i, arpCacheSelect h.arp.arp (ipRouteNexthop route dst) = some i →
      (h.arp.arp.caches i).state ≠ .incomplete →
      let sent := netDeviceOutput transmit h.link (devOf route.iface) NET_PROTOCOL_TYPE_IP
        (ipOutputCore e protocol data route.iface.unicast dst h.id 0) (h.arp.arp.caches i).ha
      h.ipOutput transmit devOf e now protocol data src dst =
        (⟨h.routes, h.id + 1, h.arp, sent.1⟩, if sent.2 = -1 then -1 else (data.length : Int)) := by
  have hsent := @IpHost.ipOutput_of_route S transmit devOf e now h protocol data src dst route hbc
    hroute hsrc hmtu
  have hnot : ¬((0 : Int) = -1) := by decide
  constructor
  · intro hinc
    cases hsel : arpCacheSelect h.arp.arp (ipRouteNexthop route dst) with
    | none =>
      -- a new entry, INCOMPLETE, and a request
      obtain ⟨a, hdevice⟩ := ipOutputDevice_new transmit now h.arp h.link hdev
        (ipOutputCore e protocol data route.iface.unicast dst h.id 0) hnexthop hsel
      exact ⟨a, by rw [hsent hdevice, if_neg hnot]⟩
    | some i =>
      -- the entry waits for a reply: the request again
      have hdevice := ipOutputDevice_incomplete transmit now h.arp h.link hdev
        (ipOutputCore e protocol data route.iface.unicast dst h.id 0) hnexthop hsel (hinc i hsel)
      exact ⟨h.arp.arp, by rw [hsent hdevice, if_neg hnot]⟩
  · intro i hsel hres
    exact hsent (ipOutputDevice_found transmit now h.arp h.link hdev
      (ipOutputCore e protocol data route.iface.unicast dst h.id 0) hnexthop hsel hres)

/-- A host `10.0.0.1/24` on an Ethernet TAP device, its ARP cache empty, sends three bytes of UDP
to its neighbour `10.0.0.2`: `ip_output` returns 3, though the datagram never reaches the
driver, whose every `write(2)` would fail. -/
theorem ip_output_over_arp_neighbour :
    ¬(IP_ADDR_ANY = IP_ADDR_ANY ∧ (0x0200000a : UInt32) = IP_ADDR_BROADCAST) ∧
    ipRouteLookup .little [⟨0x0000000a, 0x00ffffff, IP_ADDR_ANY,
      ⟨0x0100000a, 0x00ffffff, 0xff00000a, 1500⟩⟩] 0x0200000a =
      some ⟨0x0000000a, 0x00ffffff, IP_ADDR_ANY, ⟨0x0100000a, 0x00ffffff, 0xff00000a, 1500⟩⟩ ∧
    IP_HDR_SIZE_MIN + ([1, 2, 3] : List UInt8).length ≤ (1500 : UInt16).toNat ∧
    ¬((0x0200000a : UInt32) = 0xff00000a ∨ (0x0200000a : UInt32) = IP_ADDR_BROADCAST) ∧
    ((∀ i, arpCacheSelect ArpSystem.init.arp 0x0200000a = some i →
        (ArpSystem.init.arp.caches i).state = .incomplete) →
      ∃ a, IpHost.ipOutput (etherTapTransmit .little fun _ _ => -1)
          (fun _ => ⟨0, .ethernet, 1500, NET_DEVICE_FLAG_UP ||| NET_DEVICE_FLAG_BROADCAST |||
            NET_DEVICE_FLAG_NEED_ARP, [2, 0, 0, 0, 0, 1], ETHER_ADDR_BROADCAST, []⟩) .little ⟨0, 0⟩
          ⟨[⟨0x0000000a, 0x00ffffff, IP_ADDR_ANY, ⟨0x0100000a, 0x00ffffff, 0xff00000a, 1500⟩⟩],
            IP_GENERATE_ID_INIT, ArpSystem.init, ⟨[], 0⟩⟩
          IP_PROTOCOL_UDP [1, 2, 3] IP_ADDR_ANY 0x0200000a =
        (⟨[⟨0x0000000a, 0x00ffffff, IP_ADDR_ANY, ⟨0x0100000a, 0x00ffffff, 0xff00000a, 1500⟩⟩],
          IP_GENERATE_ID_INIT + 1, ⟨a, [], [] ++ [.request 0x0200000a]⟩, ⟨[], 0⟩⟩, 3)) := by
  refine ⟨by decide, by decide, by decide, by decide, ?_⟩
  exact (@ip_output_over_arp _ (etherTapTransmit .little fun _ _ => -1)
    (fun _ => ⟨0, .ethernet, 1500, NET_DEVICE_FLAG_UP ||| NET_DEVICE_FLAG_BROADCAST |||
      NET_DEVICE_FLAG_NEED_ARP, [2, 0, 0, 0, 0, 1], ETHER_ADDR_BROADCAST, []⟩) .little ⟨0, 0⟩
    ⟨[⟨0x0000000a, 0x00ffffff, IP_ADDR_ANY, ⟨0x0100000a, 0x00ffffff, 0xff00000a, 1500⟩⟩],
      IP_GENERATE_ID_INIT, ArpSystem.init, ⟨[], 0⟩⟩ IP_PROTOCOL_UDP [1, 2, 3] IP_ADDR_ANY 0x0200000a
    ⟨0x0000000a, 0x00ffffff, IP_ADDR_ANY, ⟨0x0100000a, 0x00ffffff, 0xff00000a, 1500⟩⟩
    (by decide) (by decide) (.inl rfl) (by decide) ⟨by decide, rfl⟩ (by decide)).1

/-! ## From `ip_output` to the neighbour's input queue -/

/-- INTERNAL: the datagram `ip_output_core` builds for a payload that fits is the 20-byte header
and the payload. -/
theorem length_ipOutputCore (e : Endian) (protocol : UInt8) {d : List UInt8} (src dst : UInt32)
    (id offset : UInt16) (hd : d.length ≤ IP_PAYLOAD_SIZE_MAX) :
    (ipOutputCore e protocol d src dst id offset).length = IP_HDR_SIZE_MIN + d.length := by
  rw [ipOutputCore_eq e protocol d src dst id offset hd, List.length_append, length_ipHdrBytes]
  rfl

/-- INTERNAL: the same, for data that fits a device's MTU after the header. -/
theorem length_ipOutputCore_of_mtu (e : Endian) (protocol : UInt8) {d : List UInt8}
    (src dst : UInt32) (id offset : UInt16) {mtu : UInt16}
    (hmtu : IP_HDR_SIZE_MIN + d.length ≤ mtu.toNat) :
    (ipOutputCore e protocol d src dst id offset).length = IP_HDR_SIZE_MIN + d.length := by
  have hd : d.length ≤ IP_PAYLOAD_SIZE_MAX := by
    have := mtu.toNat_lt
    simp only [IP_PAYLOAD_SIZE_MAX, IP_TOTAL_SIZE_MAX, IP_HDR_SIZE_MIN] at hmtu ⊢
    omega
  exact length_ipOutputCore e protocol src dst id offset hd

/-- A `write(2)` that reports the whole frame written puts the frame on the file. -/
theorem etherWrite_of_whole {write : Nat → Nat → Int} {file : EtherFile} {frame : List UInt8}
    (hret : write file.writes frame.length = frame.length) (hpos : 0 < frame.length) :
    etherWrite write file frame = (EtherFile.mk (file.frames ++ [frame]) (file.writes + 1), (frame.length : Int)) := by
  have hgt : (0 : Int) < frame.length := by omega
  simp only [etherWrite, hret, hgt, if_true, Int.toNat_natCast, List.take_length]

/-- `net_device_output` through the TAP driver on a device that is up, for data the MTU allows:
the frame `ether_transmit_helper` builds is written, and 0 comes back when `write(2)` reports it
all written, -1 otherwise. -/
theorem netDeviceOutput_etherTapTransmit (e : Endian) (write : Nat → Nat → Int) (file : EtherFile)
    {dev : NetDev} (hup : dev.isUp) {type : UInt16} {data dst frame : List UInt8}
    (hmtu : data.length ≤ dev.mtu.toNat)
    (hframe : etherTransmitHelper e dev type data dst = some frame) :
    netDeviceOutput (etherTapTransmit e write) file dev type data dst =
      ((etherWrite write file frame).1,
        if write file.writes frame.length = frame.length then 0 else -1) := by
  have hlong : ¬data.length > dev.mtu.toNat := by omega
  simp only [netDeviceOutput, hup, Bool.not_true, Bool.false_eq_true, if_false, hlong,
    etherTapTransmit, hframe]
  by_cases hret : write file.writes frame.length = frame.length <;> simp [etherWrite, hret]

/-- What `ip_output` does through the TAP driver to a neighbour whose entry is resolved: it
writes one frame, of `ETHER_FRAME_SIZE_MIN` to `ETHER_FRAME_SIZE_MAX` bytes, that
`ether_poll_helper` on the neighbour's device reads back as IP carrying the datagram and the
Ethernet padding, and it returns the data's length when `write(2)` reports the frame all
written, -1 otherwise. -/
theorem ipOutput_etherTapTransmit (e : Endian) (write : Nat → Nat → Int) (devOf : IpIface → NetDev)
    (now : Timeval) (h : IpHost EtherFile) (protocol : UInt8) (data : List UInt8)
    {src dst : UInt32} {route : IpRoute}
    (hbc : ¬(src = IP_ADDR_ANY ∧ dst = IP_ADDR_BROADCAST))
    (hroute : ipRouteLookup e h.routes dst = some route)
    (hsrc : src = IP_ADDR_ANY ∨ src = route.iface.unicast)
    (hmtu : IP_HDR_SIZE_MIN + data.length ≤ (devOf route.iface).mtu.toNat)
    (hdev : (devOf route.iface).ResolvesArp) (hup : (devOf route.iface).isUp)
    (hether : (devOf route.iface).mtu.toNat ≤ ETHER_PAYLOAD_SIZE_MAX)
    (haddr : 6 ≤ (devOf route.iface).addr.length)
    (hnexthop : ¬(ipRouteNexthop route dst = route.iface.broadcast ∨
      ipRouteNexthop route dst = IP_ADDR_BROADCAST))
    {i : Fin ARP_CACHE_SIZE} (hsel : arpCacheSelect h.arp.arp (ipRouteNexthop route dst) = some i)
    (hres : (h.arp.arp.caches i).state ≠ .incomplete) (hha : 6 ≤ (h.arp.arp.caches i).ha.length) :
    ∃ frame,
      h.ipOutput (etherTapTransmit e write) devOf e now protocol data src dst =
        (⟨h.routes, h.id + 1, h.arp, (etherWrite write h.link frame).1⟩,
          if write h.link.writes frame.length = frame.length then (data.length : Int) else -1) ∧
      ETHER_FRAME_SIZE_MIN ≤ frame.length ∧ frame.length ≤ ETHER_FRAME_SIZE_MAX ∧
      ∀ (eB : Endian) (devB : NetDev), devB.addr.take 6 = (h.arp.arp.caches i).ha.take 6 →
        etherPollHelper eB devB frame = some (NET_PROTOCOL_TYPE_IP,
          ipOutputCore e protocol data route.iface.unicast dst h.id 0 ++
            List.replicate (etherPad (ipOutputCore e protocol data route.iface.unicast dst h.id 0).length) 0) := by
  set datagram := ipOutputCore e protocol data route.iface.unicast dst h.id 0
  set dev := devOf route.iface
  set ha := (h.arp.arp.caches i).ha
  have hlen : datagram.length = IP_HDR_SIZE_MIN + data.length :=
    length_ipOutputCore_of_mtu e protocol route.iface.unicast dst h.id 0 hmtu
  -- the frame the TAP driver writes
  obtain ⟨frame, hframe, hmin, hmax, -⟩ :=
    etherTransmitHelper_fields e e dev NET_PROTOCOL_TYPE_IP datagram ha (by omega) hha haddr
  have hsent := netDeviceOutput_etherTapTransmit e write h.link hup (by omega) hframe
  have hdevice := ipOutputDevice_found (etherTapTransmit e write) now h.arp h.link hdev datagram
    hnexthop hsel hres
  rw [hsent] at hdevice
  refine ⟨frame, ?_, hmin, hmax, fun eB devB hB => ?_⟩
  · rw [IpHost.ipOutput_of_route (etherTapTransmit e write) devOf e now h protocol data hbc hroute
      hsrc hmtu hdevice]
    -- the driver's -1 is `ip_output`'s
    by_cases hret : write h.link.writes frame.length = frame.length
    · simp [hret]
    · simp [hret]
  · -- the same frame, its fields read in the neighbour's byte order
    obtain ⟨frame', hframe', hmin', -, hdst, htype, hpayload⟩ :=
      etherTransmitHelper_fields e eB dev NET_PROTOCOL_TYPE_IP datagram ha (by omega) hha haddr
    obtain rfl : frame' = frame := Option.some.inj (hframe'.symm.trans hframe)
    have hlen14 : ETHER_HDR_SIZE ≤ frame'.length := by
      simp only [ETHER_FRAME_SIZE_MIN, ETHER_HDR_SIZE] at hmin' ⊢
      omega
    -- the neighbour's device has the frame's destination address
    rw [etherPollHelper_of_fields eB devB hlen14 hdst htype hpayload, if_pos (.inl hB)]

/-- On a device that needs no ARP, `ip_output_device` hands the datagram to the device with the
zeroed hardware address, whatever the destination. -/
theorem ipOutputDevice_of_not_needArp {S : Type}
    (transmit : S → NetDev → UInt16 → List UInt8 → List UInt8 → S × Int) (now : Timeval)
    (arp : ArpSystem) (s : S) {dev : NetDev} (hno : dev.flags &&& NET_DEVICE_FLAG_NEED_ARP = 0)
    (iface : IpIface) (data : List UInt8) (dst : UInt32) :
    ipOutputDevice transmit now arp s dev iface data dst =
      (arp, netDeviceOutput transmit s dev NET_PROTOCOL_TYPE_IP data
        (List.replicate NET_DEVICE_ADDR_LEN 0)) := by
  have hneed : ¬dev.flags &&& NET_DEVICE_FLAG_NEED_ARP ≠ 0 := not_not.mpr hno
  simp only [ipOutputDevice, if_neg hneed]

/-- `net_device_output` through the loopback driver on a device that is up, for data the MTU
allows: `net_input_handler` on the data, and 0. -/
theorem netDeviceOutput_loopbackTransmit {H : Type} (allocEntry allocPush : Bool)
    (protocols : List (NetProtocol H NetDev)) {dev : NetDev} (hup : dev.isUp) (type : UInt16)
    {data : List UInt8} (hmtu : data.length ≤ dev.mtu.toNat) (dst : List UInt8) :
    netDeviceOutput (loopbackTransmit allocEntry allocPush) protocols dev type data dst =
      ((netInputHandler allocEntry allocPush type data dev protocols).1, 0) := by
  have hlong : ¬data.length > dev.mtu.toNat := by omega
  have hnot : ¬((0 : Int) = -1) := by decide
  simp only [netDeviceOutput, hup, Bool.not_true, Bool.false_eq_true, if_false, hlong,
    loopbackTransmit, hnot]

/-- **`ip_output` over the loopback device.** On a host whose route to `dst` leaves by an
interface on a device that is up and needs no ARP, driven by the loopback driver, for data that
passes `ip_output`'s checks, and a protocol table without repeated types in which IP is
registered: `ip_output` returns the data's length and the counter moves on. The datagram
`ip_output_core` built joins the end of the host's own IP input queue when both allocations of
`net_input_handler` succeed; when one fails, the datagram is lost, and `ip_output` still
reports it sent, as `loopback_transmit` does not look at what `net_input_handler` returns. -/
theorem ip_output_loopback {H : Type} (allocEntry allocPush : Bool) (devOf : IpIface → NetDev)
    (e : Endian) (now : Timeval) (h : IpHost (List (NetProtocol H NetDev))) (protocol : UInt8)
    (data : List UInt8) {src dst : UInt32} {route : IpRoute}
    (hbc : ¬(src = IP_ADDR_ANY ∧ dst = IP_ADDR_BROADCAST))
    (hroute : ipRouteLookup e h.routes dst = some route)
    (hsrc : src = IP_ADDR_ANY ∨ src = route.iface.unicast)
    (hmtu : IP_HDR_SIZE_MIN + data.length ≤ (devOf route.iface).mtu.toNat)
    (hno : (devOf route.iface).flags &&& NET_DEVICE_FLAG_NEED_ARP = 0)
    (hup : (devOf route.iface).isUp) (hnodup : (h.link.map NetProtocol.type).Nodup)
    (hip : NET_PROTOCOL_TYPE_IP ∈ h.link.map NetProtocol.type) :
    ∃ protocols,
      h.ipOutput (loopbackTransmit allocEntry allocPush) devOf e now protocol data src dst =
        (⟨h.routes, h.id + 1, h.arp, protocols⟩, (data.length : Int)) ∧
      queueOf NET_PROTOCOL_TYPE_IP protocols = queueOf NET_PROTOCOL_TYPE_IP h.link ++
        if allocEntry = true ∧ allocPush = true then
          [⟨devOf route.iface, IP_HDR_SIZE_MIN + data.length,
            ipOutputCore e protocol data route.iface.unicast dst h.id 0⟩]
        else [] := by
  set datagram := ipOutputCore e protocol data route.iface.unicast dst h.id 0
  have hlen : datagram.length = IP_HDR_SIZE_MIN + data.length :=
    length_ipOutputCore_of_mtu e protocol route.iface.unicast dst h.id 0 hmtu
  -- the driver puts the datagram back in through `net_input_handler` and returns 0
  have hdevice := ipOutputDevice_of_not_needArp (loopbackTransmit allocEntry allocPush) now h.arp
    h.link hno route.iface datagram (ipRouteNexthop route dst)
  rw [netDeviceOutput_loopbackTransmit allocEntry allocPush h.link hup NET_PROTOCOL_TYPE_IP
    (by omega)] at hdevice
  have hnot : ¬((0 : Int) = -1) := by decide
  refine ⟨_, by rw [IpHost.ipOutput_of_route _ devOf e now h protocol data hbc hroute hsrc hmtu
    hdevice, if_neg hnot], ?_⟩
  rw [queueOf_netInputHandler hnodup hip, NetEvent.accepted, ← hlen]
  by_cases halloc : allocEntry = true ∧ allocPush = true
  · rw [if_pos ⟨halloc.1, halloc.2, rfl⟩, if_pos halloc]
  · have hfail : ¬(allocEntry = true ∧ allocPush = true ∧ NET_PROTOCOL_TYPE_IP = NET_PROTOCOL_TYPE_IP) :=
      fun h' => halloc ⟨h'.1, h'.2.1⟩
    rw [if_neg hfail, if_neg halloc]

/-- A little-endian host sends three bytes of UDP to `127.0.0.1` over its loopback device, with
only IP registered. -/
theorem ip_output_loopback_self :
    ∃ protocols,
      IpHost.ipOutput (loopbackTransmit true true)
          (fun _ => ⟨0, .loopback, LOOPBACK_MTU, NET_DEVICE_FLAG_LOOPBACK ||| NET_DEVICE_FLAG_UP,
            [], [], []⟩) .little ⟨0, 0⟩
          ⟨[⟨0x0000007f, 0x000000ff, IP_ADDR_ANY, ⟨0x0100007f, 0x000000ff, 0xffffff7f, 65535⟩⟩],
            IP_GENERATE_ID_INIT, ArpSystem.init,
            ([⟨NET_PROTOCOL_TYPE_IP, (), []⟩] : List (NetProtocol Unit NetDev))⟩
          IP_PROTOCOL_UDP [1, 2, 3] IP_ADDR_ANY 0x0100007f =
        (⟨[⟨0x0000007f, 0x000000ff, IP_ADDR_ANY, ⟨0x0100007f, 0x000000ff, 0xffffff7f, 65535⟩⟩],
          IP_GENERATE_ID_INIT + 1, ArpSystem.init, protocols⟩, 3) ∧
      queueOf NET_PROTOCOL_TYPE_IP protocols =
        queueOf NET_PROTOCOL_TYPE_IP ([⟨NET_PROTOCOL_TYPE_IP, (), []⟩] : List (NetProtocol Unit NetDev)) ++
        if true = true ∧ true = true then
          [⟨⟨0, .loopback, LOOPBACK_MTU, NET_DEVICE_FLAG_LOOPBACK ||| NET_DEVICE_FLAG_UP, [], [], []⟩,
            IP_HDR_SIZE_MIN + 3, ipOutputCore .little IP_PROTOCOL_UDP [1, 2, 3] 0x0100007f 0x0100007f
              IP_GENERATE_ID_INIT 0⟩]
        else [] :=
  @ip_output_loopback Unit true true
    (fun _ => ⟨0, .loopback, LOOPBACK_MTU, NET_DEVICE_FLAG_LOOPBACK ||| NET_DEVICE_FLAG_UP, [], [], []⟩)
    .little ⟨0, 0⟩
    ⟨[⟨0x0000007f, 0x000000ff, IP_ADDR_ANY, ⟨0x0100007f, 0x000000ff, 0xffffff7f, 65535⟩⟩],
      IP_GENERATE_ID_INIT, ArpSystem.init, [⟨NET_PROTOCOL_TYPE_IP, (), []⟩]⟩
    IP_PROTOCOL_UDP [1, 2, 3] IP_ADDR_ANY 0x0100007f
    ⟨0x0000007f, 0x000000ff, IP_ADDR_ANY, ⟨0x0100007f, 0x000000ff, 0xffffff7f, 65535⟩⟩
    (by decide) (by decide) (.inl rfl) (by decide) (by decide) (by decide) (by decide) (by decide)

end Microps
