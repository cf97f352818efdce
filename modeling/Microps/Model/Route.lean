import Microps.Model.Text

/-!
# `ip.c`: the routing table

`routes` is a list of `struct ip_route`, newest first: `ip_route_add` puts each route it
allocates in front. The only callers are `ip_iface_register`, which adds the route to an
interface's own network, and `ip_route_set_default_gateway`, which adds the route for
`0.0.0.0/0` through a gateway. Both run before `net_run()`, so the table is built once by a
sequence of such calls and then only read by `ip_route_lookup`.

`ip_route_lookup` scans the whole table and keeps the route with the greatest netmask read in
host order among those whose network the destination falls in; on a tie it keeps the one it met
first, the newer one. `ip_route_get_iface` is the lookup's interface, which the TCP and UDP
models take as `ipRouteGetIface` of their environment.
-/

set_option autoImplicit false

namespace Microps

open ByteOrder

/-- `struct ip_route` -/
structure IpRoute where
  network : UInt32
  netmask : UInt32
  nexthop : UInt32
  iface : IpIface
  deriving DecidableEq, Repr

/-- `ip_route_add`, with whether `memory_alloc` succeeds: the table and the route added, `NULL`
when there is no memory for it. -/
def ipRouteAdd (alloc : Bool) (routes : List IpRoute) (network netmask nexthop : UInt32)
    (iface : IpIface) : List IpRoute × Option IpRoute :=
  if alloc then
    let route : IpRoute := ⟨network, netmask, nexthop, iface⟩
    (route :: routes, some route)
  else (routes, none)

/-- Whether `dst` falls in the network of a route. -/
def IpRoute.Matches (dst : UInt32) (route : IpRoute) : Prop :=
  dst &&& route.netmask = route.network

instance (dst : UInt32) : DecidablePred (IpRoute.Matches dst) :=
  fun route => inferInstanceAs (Decidable (dst &&& route.netmask = route.network))

/-- One round of the loop of `ip_route_lookup`: a matching route becomes the candidate when there
is none yet or when its netmask is greater in host order. -/
def ipRouteLookupStep (e : Endian) (dst : UInt32) (candidate : Option IpRoute) (route : IpRoute) :
    Option IpRoute :=
  if dst &&& route.netmask = route.network then
    match candidate with
    | none => some route
    | some c => if ntoh32 e c.netmask < ntoh32 e route.netmask then some route else candidate
  else candidate

/-- `ip_route_lookup`: the loop over the table from its newest route. -/
def ipRouteLookup (e : Endian) (routes : List IpRoute) (dst : UInt32) : Option IpRoute :=
  routes.foldl (ipRouteLookupStep e dst) none

/-- `ip_route_get_iface` -/
def ipRouteGetIface (e : Endian) (routes : List IpRoute) (dst : UInt32) : Option IpIface :=
  (ipRouteLookup e routes dst).map (·.iface)

/-- `ip_route_set_default_gateway`: the route to `IP_ADDR_ANY/IP_ADDR_ANY` through the gateway
the text names; `none` where `ip_addr_pton` reads past the text. -/
def ipRouteSetDefaultGateway (e : Endian) (alloc : Bool) (routes : List IpRoute)
    (iface : IpIface) (gateway : List Char) : Option (List IpRoute × Int) :=
  (ipAddrPton e gateway).map fun gw? =>
    match gw? with
    | none => (routes, -1)
    | some gw =>
      match ipRouteAdd alloc routes IP_ADDR_ANY IP_ADDR_ANY gw iface with
      | (routes, some _) => (routes, 0)
      | (routes, none) => (routes, -1)

/-- The routing part of `ip_iface_register`, with whether `net_device_add_iface` succeeds: the
route to the interface's own network, with no next hop. -/
def ipIfaceRegister (added alloc : Bool) (routes : List IpRoute) (iface : IpIface) :
    List IpRoute × Int :=
  if !added then (routes, -1) else
  match ipRouteAdd alloc routes (iface.unicast &&& iface.netmask) iface.netmask IP_ADDR_ANY iface with
  | (routes, some _) => (routes, 0)
  | (routes, none) => (routes, -1)

/-! ## Building the table -/

/-- A call that adds to the table, with what the allocations it makes return. -/
inductive RouteOp
  | register (added alloc : Bool) (iface : IpIface)
  | setDefaultGateway (alloc : Bool) (iface : IpIface) (gateway : List Char)
  deriving DecidableEq, Repr

/-- One call on the table; `none` on undefined behaviour. -/
def routeStep (e : Endian) : RouteOp → List IpRoute → Option (List IpRoute)
  | .register added alloc iface, routes => some (ipIfaceRegister added alloc routes iface).1
  | .setDefaultGateway alloc iface gateway, routes =>
    (ipRouteSetDefaultGateway e alloc routes iface gateway).map (·.1)

/-- Calls one after another. -/
def routeRun (e : Endian) : List RouteOp → List IpRoute → Option (List IpRoute)
  | [], routes => some routes
  | op :: ops, routes => (routeStep e op routes).bind (routeRun e ops)

end Microps
