import Microps.Model.Ether
import Microps.Model.Route

/-!
# `ip.c`: from `ip_output` to the device

`ip_output` checks the addresses, looks the route up, takes the next hop from it (the
destination itself on a directly connected network), checks the device's MTU, draws an
identifier from `ip_generate_id` and builds the datagram (`ipOutputCore`). `ip_output_device`
then picks the hardware address: on a device that needs ARP, the device's broadcast address for
a broadcast destination and otherwise what `arp_resolve` finds; when it finds none, the datagram
is not sent and `arp_resolve`'s result comes back, INCOMPLETE being 0. `net_device_output` hands
the datagram to the driver.

A host (`IpHost`) is what `ip_output` reads and changes: the routing table, the counter of
`ip_generate_id`, the ARP layer and the drivers' state. The device an interface is registered
to (`NET_IFACE(iface)->dev`) is a parameter, as the back pointer is fixed once the interface
is registered. `IpHost.ipOutputRun` is a run of `ip_output` calls, as an application's sends
make them.
-/

set_option autoImplicit false

namespace Microps

open ByteOrder

/-- `NET_DEVICE_ADDR_LEN` -/
def NET_DEVICE_ADDR_LEN : Nat := 16

/-- `ip_generate_id`: the identifier and the counter after it; the `uint16_t` wraps. -/
def ipGenerateId (id : UInt16) : UInt16 × UInt16 :=
  (id, id + 1)

/-- The counter of `ip_generate_id` before its first call. -/
def IP_GENERATE_ID_INIT : UInt16 := 128

/-- `ip_output_device` at time `now`, with the ARP layer and the driver's `transmit` over its
state. The hardware address is the bytes `memcpy` puts in `hwaddr`; a device that needs no ARP
gets the buffer as it was initialised, all zeros. -/
def ipOutputDevice {S : Type} (transmit : S → NetDev → UInt16 → List UInt8 → List UInt8 → S × Int)
    (now : Timeval) (arp : ArpSystem) (s : S) (dev : NetDev) (iface : IpIface) (data : List UInt8)
    (dst : UInt32) : ArpSystem × S × Int :=
  let output := fun hwaddr => netDeviceOutput transmit s dev NET_PROTOCOL_TYPE_IP data hwaddr
  if dev.flags &&& NET_DEVICE_FLAG_NEED_ARP ≠ 0 then
    if dst = iface.broadcast ∨ dst = IP_ADDR_BROADCAST then (arp, output dev.broadcast)
    -- `arp_resolve` refuses a device that is not Ethernet before it takes the lock
    else if dev.type ≠ .ethernet then (arp, s, -1)
    else
      let (a, out, r) := arpResolve now arp.arp dst
      let arp : ArpSystem := ⟨a, arp.inputs, arp.out ++ out⟩
      match r with
      | .found ha => (arp, output ha)
      | .incomplete => (arp, s, 0)
      | .error => (arp, s, -1)
  else (arp, output (List.replicate NET_DEVICE_ADDR_LEN 0))

/-- The next hop `ip_output` takes from the route: its gateway, or the destination itself on a
directly connected network. -/
def ipRouteNexthop (route : IpRoute) (dst : UInt32) : UInt32 :=
  if route.nexthop ≠ IP_ADDR_ANY then route.nexthop else dst

/-- What `ip_output` reads and changes on a host. -/
structure IpHost (S : Type) where
  routes : List IpRoute
  /-- The counter of `ip_generate_id`. -/
  id : UInt16
  arp : ArpSystem
  /-- The drivers' state. -/
  link : S

/-- `ip_output` at time `now` on a host whose interfaces sit on the devices `devOf` gives: the
host after it and what it returns, the length of the data or -1. `ip_output_core` returns what
`ip_output_device` does, and only -1 counts as a failure. -/
def IpHost.ipOutput {S : Type}
    (transmit : S → NetDev → UInt16 → List UInt8 → List UInt8 → S × Int)
    (devOf : IpIface → NetDev) (e : Endian) (now : Timeval) (h : IpHost S) (protocol : UInt8)
    (data : List UInt8) (src dst : UInt32) : IpHost S × Int :=
  if src = IP_ADDR_ANY ∧ dst = IP_ADDR_BROADCAST then (h, -1) else
  match ipRouteLookup e h.routes dst with
  | none => (h, -1)
  | some route =>
    let iface := route.iface
    if src ≠ IP_ADDR_ANY ∧ src ≠ iface.unicast then (h, -1) else
    let nexthop := ipRouteNexthop route dst
    if (devOf iface).mtu.toNat < IP_HDR_SIZE_MIN + data.length then (h, -1) else
    let (id, next) := ipGenerateId h.id
    let (arp, link, ret) := ipOutputDevice transmit now h.arp h.link (devOf iface) iface
      (ipOutputCore e protocol data iface.unicast dst id 0) nexthop
    (⟨h.routes, next, arp, link⟩, if ret = -1 then -1 else data.length)

/-- A run of `ip_output` calls from `src` to `dst`, each at its own time with its protocol and
data, as an application's sends make them: the host after them and what each returned. -/
def IpHost.ipOutputRun {S : Type}
    (transmit : S → NetDev → UInt16 → List UInt8 → List UInt8 → S × Int)
    (devOf : IpIface → NetDev) (e : Endian) (src dst : UInt32) :
    IpHost S → List (Timeval × UInt8 × List UInt8) → IpHost S × List Int
  | h, [] => (h, [])
  | h, (now, protocol, data) :: sends =>
    let (h, ret) := h.ipOutput transmit devOf e now protocol data src dst
    let (h, rets) := IpHost.ipOutputRun transmit devOf e src dst h sends
    (h, ret :: rets)

end Microps
