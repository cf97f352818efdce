import Microps.Model.Route
import Microps.Lib.FirstMax

/-!
# `ip_route_lookup` is a longest-prefix match

The loop of `ip_route_lookup` is `List.argmax` over the routes the destination matches, keyed by
the netmask read in host order (`ipRouteLookup_eq_argmax`): it keeps the first route with the
greatest key, and the table lists the newest route first. With contiguous netmasks the key of a
prefix of `k` bits is `2^32 - 2^(32 - k)` on either byte order, which grows with `k`
(`prefixNetmask_lt_iff`), so the greatest key is the longest prefix, and
`ip_route_lookup_longest_match` reads `FirstMaxAmong` in prefix lengths.

The calls that build the table keep every route either the default route or the route to a
registered interface's own network (`routeRun_routeFrom`), so every table built from interfaces
with contiguous netmasks has contiguous netmasks and networks that are already masked
(`routeRun_prefix_tables`).
-/

set_option autoImplicit false

namespace Microps

open ByteOrder

/-! ## The lookup as a first maximum -/

theorem ipRouteLookupStep_eq (e : Endian) (dst : UInt32) (candidate : Option IpRoute)
    (route : IpRoute) :
    ipRouteLookupStep e dst candidate route =
      if route.Matches dst then
        List.argAux (fun b c => (ntoh32 e c.netmask).toNat < (ntoh32 e b.netmask).toNat)
          candidate route
      else candidate := by
  unfold ipRouteLookupStep
  by_cases h : route.Matches dst
  · have h' : dst &&& route.netmask = route.network := h
    rw [if_pos h', if_pos h]
    cases candidate <;> simp [List.argAux, UInt32.lt_iff_toNat_lt]
  · have h' : ¬dst &&& route.netmask = route.network := h
    rw [if_neg h', if_neg h]

/-- INTERNAL: the loop from any candidate is `argmax`'s loop over the matching routes. -/
theorem foldl_ipRouteLookupStep (e : Endian) (dst : UInt32) :
    ∀ (routes : List IpRoute) (candidate : Option IpRoute),
      routes.foldl (ipRouteLookupStep e dst) candidate =
        (routes.filter (IpRoute.Matches dst)).foldl
          (List.argAux fun b c => (ntoh32 e c.netmask).toNat < (ntoh32 e b.netmask).toNat)
          candidate
  | [], _ => rfl
  | route :: routes, candidate => by
    rw [List.foldl_cons, foldl_ipRouteLookupStep e dst routes, ipRouteLookupStep_eq]
    by_cases h : route.Matches dst <;> simp [h]

/-- `ip_route_lookup` returns the first matching route with the greatest netmask in host
order. -/
theorem ipRouteLookup_eq_argmax (e : Endian) (routes : List IpRoute) (dst : UInt32) :
    ipRouteLookup e routes dst =
      (routes.filter (IpRoute.Matches dst)).argmax fun r => (ntoh32 e r.netmask).toNat :=
  foldl_ipRouteLookupStep e dst routes none

/-! ## Contiguous netmasks -/

/-- The netmask of a prefix of `k` bits as a number: `k` one bits from the top of `32`. -/
def prefixNetmask (k : Nat) : Nat := 2 ^ 32 - 2 ^ (32 - k)

/-- A netmask, as stored, is the netmask of a prefix of `k` bits. -/
def IsPrefixMask (e : Endian) (netmask : UInt32) (k : Nat) : Prop :=
  k ≤ 32 ∧ (ntoh32 e netmask).toNat = prefixNetmask k

instance (e : Endian) (netmask : UInt32) (k : Nat) : Decidable (IsPrefixMask e netmask k) :=
  inferInstanceAs (Decidable (k ≤ 32 ∧ (ntoh32 e netmask).toNat = prefixNetmask k))

/-- A longer prefix has the greater netmask. -/
theorem prefixNetmask_lt_iff {k k' : Nat} (hk : k ≤ 32) (hk' : k' ≤ 32) :
    prefixNetmask k < prefixNetmask k' ↔ k < k' := by
  have h₁ : 2 ^ (32 - k) ≤ 2 ^ 32 := Nat.pow_le_pow_right (by decide) (by omega)
  have h₂ : 2 ^ (32 - k') ≤ 2 ^ 32 := Nat.pow_le_pow_right (by decide) (by omega)
  have hpow : 2 ^ (32 - k') < 2 ^ (32 - k) ↔ 32 - k' < 32 - k :=
    Nat.pow_lt_pow_iff_right (by decide)
  unfold prefixNetmask
  omega

theorem prefixNetmask_le_iff {k k' : Nat} (hk : k ≤ 32) (hk' : k' ≤ 32) :
    prefixNetmask k ≤ prefixNetmask k' ↔ k ≤ k' := by
  rw [← not_lt, ← not_lt, prefixNetmask_lt_iff hk' hk]

/-- **`ip_route_lookup` is a longest-prefix match.** On either host byte order, for every table
whose netmasks are contiguous and every destination: the lookup finds no route exactly when no
route matches, and otherwise returns a matching route whose prefix is at least as long as that
of every matching route and strictly longer than that of every matching route added after it. -/
theorem ip_route_lookup_longest_match (e : Endian) (routes : List IpRoute) (dst : UInt32)
    (hmask : ∀ r ∈ routes, ∃ k, IsPrefixMask e r.netmask k) :
    (ipRouteLookup e routes dst = none ↔ ∀ r ∈ routes, ¬r.Matches dst) ∧
      ∀ r, ipRouteLookup e routes dst = some r → r.Matches dst ∧
        ∃ k, IsPrefixMask e r.netmask k ∧
          (∀ r' ∈ routes, r'.Matches dst → ∀ k', IsPrefixMask e r'.netmask k' → k' ≤ k) ∧
          ∃ pre post, routes = pre ++ r :: post ∧
            ∀ r' ∈ pre, r'.Matches dst → ∀ k', IsPrefixMask e r'.netmask k' → k' < k := by
  rw [ipRouteLookup_eq_argmax]
  refine ⟨List.argmax_filter_eq_none_iff _ _, fun r hr => ?_⟩
  have hfirst := List.firstMaxAmong_of_argmax_filter _ _ hr
  obtain ⟨pre, post, hsplit, hpre⟩ := hfirst.split
  obtain ⟨k, hk⟩ := hmask r (by rw [hsplit]; simp)
  refine ⟨hfirst.sat, k, hk, ?_, pre, post, hsplit, ?_⟩
  · -- the netmask keys compare as the prefix lengths do
    intro r' hr' hm k' hk'
    have hle := hfirst.max r' hr' hm
    rw [hk.2, hk'.2] at hle
    exact (prefixNetmask_le_iff hk'.1 hk.1).mp hle
  · intro r' hr' hm k' hk'
    have hlt := hpre r' hr' hm
    rw [hk.2, hk'.2] at hlt
    exact (prefixNetmask_lt_iff hk'.1 hk.1).mp hlt

/-! ## The tables the calls build -/

/-- What one call does to the table: nothing, or it puts in front the route to a registered
interface's own network, or a default route. -/
theorem routeStep_cases {e : Endian} {op : RouteOp} {routes routes' : List IpRoute}
    (h : routeStep e op routes = some routes') :
    routes' = routes ∨
      (∃ added alloc iface, op = .register added alloc iface ∧
        routes' = ⟨iface.unicast &&& iface.netmask, iface.netmask, IP_ADDR_ANY, iface⟩ :: routes) ∨
      (∃ gw iface, routes' = ⟨IP_ADDR_ANY, IP_ADDR_ANY, gw, iface⟩ :: routes) := by
  cases op with
  | register added alloc iface =>
    simp only [routeStep, Option.some.injEq] at h
    subst h
    unfold ipIfaceRegister ipRouteAdd
    cases added <;> cases alloc <;> simp
  | setDefaultGateway alloc iface gateway =>
    simp only [routeStep, ipRouteSetDefaultGateway, Option.map_map] at h
    obtain ⟨gw?, -, rfl⟩ := Option.map_eq_some_iff.mp h
    cases gw? with
    | none => simp
    | some gw =>
      unfold ipRouteAdd
      cases alloc <;> simp

/-- A route the calls may add: the default route, or the route to the network of an interface
that `good` accepts. -/
def RouteFrom (good : IpIface → Prop) (r : IpRoute) : Prop :=
  (r.network = IP_ADDR_ANY ∧ r.netmask = IP_ADDR_ANY) ∨
    (good r.iface ∧ r.netmask = r.iface.netmask ∧ r.network = r.iface.unicast &&& r.iface.netmask)

section RouteFrom

variable {good : IpIface → Prop} {e : Endian}

theorem routeStep_routeFrom {op : RouteOp} {routes routes' : List IpRoute}
    (hgood : ∀ added alloc iface, op = .register added alloc iface → good iface)
    (h : routeStep e op routes = some routes') (hinv : ∀ r ∈ routes, RouteFrom good r) :
    ∀ r ∈ routes', RouteFrom good r := by
  rcases routeStep_cases h with rfl | ⟨added, alloc, iface, rfl, rfl⟩ | ⟨gw, iface, rfl⟩
  · exact hinv
  · intro r hr
    rcases List.mem_cons.mp hr with rfl | hr
    · exact Or.inr ⟨hgood added alloc iface rfl, rfl, rfl⟩
    · exact hinv r hr
  · intro r hr
    rcases List.mem_cons.mp hr with rfl | hr
    · exact Or.inl ⟨rfl, rfl⟩
    · exact hinv r hr

/-- Every route of a table the calls build from such a table is a route they may add, when
every interface they register is good. -/
theorem routeRun_routeFrom :
    ∀ {ops : List RouteOp} {routes routes' : List IpRoute},
      (∀ op ∈ ops, ∀ added alloc iface, op = .register added alloc iface → good iface) →
      routeRun e ops routes = some routes' → (∀ r ∈ routes, RouteFrom good r) →
      ∀ r ∈ routes', RouteFrom good r
  | [], _, _, _, h, hinv => by
    simp only [routeRun, Option.some.injEq] at h
    subst h
    exact hinv
  | op :: ops, _, _, hgood, h, hinv => by
    obtain ⟨mid, hmid, hrest⟩ := Option.bind_eq_some_iff.mp h
    exact routeRun_routeFrom (fun o ho => hgood o (List.mem_cons_of_mem op ho)) hrest
      (routeStep_routeFrom (hgood op List.mem_cons_self) hmid hinv)

/-- A route the calls add has a network that is already masked. -/
theorem RouteFrom.network_eq {r : IpRoute} (h : RouteFrom good r) :
    r.network = r.network &&& r.netmask := by
  rcases h with ⟨hn, hm⟩ | ⟨-, hm, hn⟩
  · rw [hn, hm]
    decide
  · rw [hn, hm, UInt32.and_assoc, UInt32.and_self]

theorem RouteFrom.isPrefixMask {r : IpRoute}
    (h : RouteFrom (fun iface => ∃ k, IsPrefixMask e iface.netmask k) r) :
    ∃ k, IsPrefixMask e r.netmask k := by
  rcases h with ⟨-, hm⟩ | ⟨hgood, hm, -⟩
  · -- the default route's netmask is the prefix of no bits
    refine ⟨0, ?_⟩
    rw [hm]
    cases e <;> decide
  · rw [hm]
    exact hgood

end RouteFrom

/-- **The tables the calls build are what the lookup's specification assumes.** For every
sequence of `ip_iface_register` and `ip_route_set_default_gateway` calls from the empty table
that registers interfaces with contiguous netmasks only, every route of the table it builds has
a masked network and a contiguous netmask. -/
theorem routeRun_prefix_tables (e : Endian) (ops : List RouteOp) {routes : List IpRoute}
    (hrun : routeRun e ops [] = some routes)
    (hmasks : ∀ op ∈ ops, ∀ added alloc iface, op = .register added alloc iface →
      ∃ k, IsPrefixMask e iface.netmask k) :
    ∀ r ∈ routes, r.network = r.network &&& r.netmask ∧ ∃ k, IsPrefixMask e r.netmask k := by
  intro r hr
  have hfrom := routeRun_routeFrom hmasks hrun (by simp) r hr
  exact ⟨hfrom.network_eq, hfrom.isPrefixMask⟩

/-! ## A table of one interface and a gateway -/

/-- `10.0.0.1/24` on a device with an MTU of `1500`, as a little-endian host stores it. -/
def lanIface : IpIface := ⟨0x0100000a, 0x00ffffff, 0xff00000a, 1500⟩

/-- The interface registered, then the default gateway `10.0.0.254` set. -/
def lanOps : List RouteOp :=
  [.register true true lanIface, .setDefaultGateway true lanIface ("10.0.0.254".toList ++ ['\x00'])]

/-- The table `lanOps` builds, newest first. -/
def lanRoutes : List IpRoute :=
  [⟨IP_ADDR_ANY, IP_ADDR_ANY, 0xfe00000a, lanIface⟩, ⟨0x0000000a, 0x00ffffff, IP_ADDR_ANY, lanIface⟩]

-- `10.0.0.5` goes to the interface's network, `8.8.8.8` to the gateway
example : routeRun .little lanOps [] = some lanRoutes ∧
    ipRouteLookup .little lanRoutes 0x0500000a = lanRoutes[1]? ∧
    ipRouteLookup .little lanRoutes 0x08080808 = lanRoutes[0]? := by
  decide

/-- The table `lanOps` builds has contiguous netmasks, and the lookup finds a route for
`10.0.0.5`. -/
theorem ip_route_lookup_longest_match_lan :
    (∀ r ∈ lanRoutes, ∃ k, IsPrefixMask .little r.netmask k) ∧
      ipRouteLookup .little lanRoutes 0x0500000a ≠ none := by
  have hmask : ∀ r ∈ lanRoutes, ∃ k, IsPrefixMask .little r.netmask k := by
    intro r hr
    simp only [lanRoutes, List.mem_cons, List.not_mem_nil, or_false] at hr
    rcases hr with rfl | rfl
    · exact ⟨0, by decide⟩
    · exact ⟨24, by decide⟩
  refine ⟨hmask, fun h => ?_⟩
  have hnone := (ip_route_lookup_longest_match .little lanRoutes 0x0500000a hmask).1.mp h
  exact hnone ⟨0x0000000a, 0x00ffffff, IP_ADDR_ANY, lanIface⟩ (by simp [lanRoutes]) (by decide)

end Microps
