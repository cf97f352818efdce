import Microps.Model.Ether
import Microps.Analysis.ArpCache

/-!
# Ethernet frames and the ARP exchange

Two results about the link layer. A frame `ether_transmit_helper` builds on a host of either
byte order is taken by `ether_poll_helper` on a host of either byte order exactly when it is
addressed to that device or to the broadcast address, and then hands `net_input_handler` the
type and the data followed by the zero padding (`ether_frame_round_trip`).

And one request/reply exchange resolves an address (`arp_exchange_resolves`): when host A's
`arp_resolve` asks for host B's address, B's `arp_input` on that request learns A's hardware
address and answers; A's `arp_input` on the answer completes the entry `arp_resolve` left
INCOMPLETE, and A's next `arp_resolve` finds B's hardware address. Both messages go through
`arpEtherBytes` and arrive with whatever padding the link adds.
-/

set_option autoImplicit false

namespace Microps

open ByteOrder

/-! ## Frames -/

/-- INTERNAL: the first six bytes of a buffer of at least six. -/
theorem exists_take_six {l : List UInt8} (h : 6 ≤ l.length) :
    ∃ b0 b1 b2 b3 b4 b5, l.take 6 = [b0, b1, b2, b3, b4, b5] := by
  have hlen : (l.take 6).length = 6 := by simp only [List.length_take]; omega
  match l.take 6, hlen with
  | [b0, b1, b2, b3, b4, b5], _ => exact ⟨b0, b1, b2, b3, b4, b5, rfl⟩

@[simp] theorem length_etherPad_add (len : Nat) :
    len + etherPad len = max len ETHER_PAYLOAD_SIZE_MIN := by
  unfold etherPad
  split <;> omega

/-- The frame `ether_transmit_helper` builds from data that fits: its length is between the
minimum and the maximum, and it reads back as its destination, its type and its payload. -/
theorem etherTransmitHelper_fields (e e' : Endian) (dev : NetDev) (type : UInt16)
    (data dst : List UInt8) (hdata : data.length ≤ ETHER_PAYLOAD_SIZE_MAX) (hdst : 6 ≤ dst.length)
    (haddr : 6 ≤ dev.addr.length) :
    ∃ frame, etherTransmitHelper e dev type data dst = some frame ∧
      ETHER_FRAME_SIZE_MIN ≤ frame.length ∧ frame.length ≤ ETHER_FRAME_SIZE_MAX ∧
      frame.take 6 = dst.take 6 ∧
      ntoh16 e' (e'.load16 (frame.getD 12 0) (frame.getD 13 0)) = type ∧
      frame.drop ETHER_HDR_SIZE = data ++ List.replicate (etherPad data.length) 0 := by
  simp only [ETHER_PAYLOAD_SIZE_MAX, ETHER_FRAME_SIZE_MAX, ETHER_HDR_SIZE] at hdata
  obtain ⟨d0, d1, d2, d3, d4, d5, hd⟩ := exists_take_six hdst
  obtain ⟨a0, a1, a2, a3, a4, a5, ha⟩ := exists_take_six haddr
  have hfit : ¬ETHER_FRAME_SIZE_MAX < ETHER_HDR_SIZE + data.length := by
    simp only [ETHER_FRAME_SIZE_MAX, ETHER_HDR_SIZE]
    omega
  have hpad := length_etherPad_add data.length
  simp only [ETHER_PAYLOAD_SIZE_MIN, ETHER_FRAME_SIZE_MIN, ETHER_HDR_SIZE] at hpad
  -- the type crosses in network order, whatever either host's order
  have htype : ntoh16 e' (e'.load16 ((e.store16 (hton16 e type)).getD 0 0)
      ((e.store16 (hton16 e type)).getD 1 0)) = type := by
    rw [store16_hton16, ntoh16_load16]
    exact Endian.big.load16_store16 type
  refine ⟨_, by rw [etherTransmitHelper, if_neg hfit], ?_, ?_, ?_, ?_, ?_⟩
  · simp only [List.length_append, List.length_replicate, hd, ha, Endian.length_store16,
      List.length_cons, List.length_nil, ETHER_FRAME_SIZE_MIN]
    omega
  · simp only [List.length_append, List.length_replicate, hd, ha, Endian.length_store16,
      List.length_cons, List.length_nil, ETHER_FRAME_SIZE_MAX]
    omega
  · rw [hd]
    rfl
  · rw [hd, ha]
    cases e <;> exact htype
  · rw [hd, ha]
    cases e <;> rfl

/-- What `ether_poll_helper` does with a frame, from the fields it reads: the frame is taken
unless it is for neither the device nor everyone. -/
theorem etherPollHelper_of_fields (e : Endian) (dev : NetDev) {frame : List UInt8} {type : UInt16}
    {payload dst : List UInt8} (hlen : ETHER_HDR_SIZE ≤ frame.length)
    (hdst : frame.take 6 = dst.take 6)
    (htype : ntoh16 e (e.load16 (frame.getD 12 0) (frame.getD 13 0)) = type)
    (hpayload : frame.drop ETHER_HDR_SIZE = payload) :
    etherPollHelper e dev frame =
      if dev.addr.take 6 = dst.take 6 ∨ ETHER_ADDR_BROADCAST = dst.take 6 then
        some (type, payload)
      else none := by
  have hshort : ¬frame.length < ETHER_HDR_SIZE := by omega
  rw [etherPollHelper, if_neg hshort, hdst, htype, hpayload]
  by_cases hfor : dev.addr.take 6 = dst.take 6 ∨ ETHER_ADDR_BROADCAST = dst.take 6
  · have hkeep : ¬(dev.addr.take 6 ≠ dst.take 6 ∧ ETHER_ADDR_BROADCAST ≠ dst.take 6) := by
      rcases hfor with h | h <;> simp [h]
    rw [if_neg hkeep, if_pos hfor]
  · have hdrop : dev.addr.take 6 ≠ dst.take 6 ∧ ETHER_ADDR_BROADCAST ≠ dst.take 6 := by
      simpa [not_or] using hfor
    rw [if_pos hdrop, if_neg hfor]

/-- **Ethernet round trip.** For hosts of any byte orders, a sending device whose address
buffer has six bytes, every type, every destination buffer of at least six bytes and every
payload up to the MTU: the frame `ether_transmit_helper` builds is at least the minimum and
at most the maximum frame size, and `ether_poll_helper` on a receiving device takes it exactly
when it is addressed to that device or to the broadcast address, handing over the type and the
data followed by zeros up to the 46-byte minimum payload. -/
theorem ether_frame_round_trip (e e' : Endian) (dev dev' : NetDev) (type : UInt16)
    (data dst : List UInt8) (hdata : data.length ≤ ETHER_PAYLOAD_SIZE_MAX) (hdst : 6 ≤ dst.length)
    (haddr : 6 ≤ dev.addr.length) :
    ∃ frame, etherTransmitHelper e dev type data dst = some frame ∧
      ETHER_FRAME_SIZE_MIN ≤ frame.length ∧ frame.length ≤ ETHER_FRAME_SIZE_MAX ∧
      etherPollHelper e' dev' frame =
        if dev'.addr.take 6 = dst.take 6 ∨ ETHER_ADDR_BROADCAST = dst.take 6 then
          some (type, data ++ List.replicate (etherPad data.length) 0)
        else none := by
  obtain ⟨frame, hframe, hmin, hmax, hdst', htype, hpayload⟩ :=
    etherTransmitHelper_fields e e' dev type data dst hdata hdst haddr
  have hlen : ETHER_HDR_SIZE ≤ frame.length := by
    simp only [ETHER_FRAME_SIZE_MIN, ETHER_HDR_SIZE] at hmin ⊢
    omega
  exact ⟨frame, hframe, hmin, hmax, etherPollHelper_of_fields e' dev' hlen hdst' htype hpayload⟩

/-- A three-byte payload from a little-endian host to a big-endian one, addressed to the
receiving device. -/
theorem ether_frame_round_trip_ip :
    ([1, 2, 3] : List UInt8).length ≤ ETHER_PAYLOAD_SIZE_MAX ∧
    6 ≤ ([2, 0, 0, 0, 0, 2] : List UInt8).length ∧ 6 ≤ ([2, 0, 0, 0, 0, 1] : List UInt8).length ∧
    ∃ frame, etherTransmitHelper .little
        ⟨0, .ethernet, 1500, NET_DEVICE_FLAG_UP, [2, 0, 0, 0, 0, 1], ETHER_ADDR_BROADCAST, []⟩
        ETHER_TYPE_IP [1, 2, 3] [2, 0, 0, 0, 0, 2] = some frame ∧
      ETHER_FRAME_SIZE_MIN ≤ frame.length ∧ frame.length ≤ ETHER_FRAME_SIZE_MAX ∧
      etherPollHelper .big
          ⟨1, .ethernet, 1500, NET_DEVICE_FLAG_UP, [2, 0, 0, 0, 0, 2], ETHER_ADDR_BROADCAST, []⟩ frame =
        if ([2, 0, 0, 0, 0, 2] : List UInt8).take 6 = ([2, 0, 0, 0, 0, 2] : List UInt8).take 6 ∨
            ETHER_ADDR_BROADCAST = ([2, 0, 0, 0, 0, 2] : List UInt8).take 6 then
          some (ETHER_TYPE_IP, [1, 2, 3] ++ List.replicate (etherPad ([1, 2, 3] : List UInt8).length) 0)
        else none :=
  ⟨by decide, by decide, by decide, ether_frame_round_trip .little .big _ _ ETHER_TYPE_IP [1, 2, 3]
    [2, 0, 0, 0, 0, 2] (by decide) (by decide) (by decide)⟩

/-! ## ARP messages -/

/-- `arp_input` reads back every field of a message `arpEtherBytes` laid out on a host of the
same byte order, whatever padding follows it. -/
theorem arpInputCheck_arpEtherBytes (e : Endian) (op : UInt16) {sha tha : List UInt8}
    (hsha : 6 ≤ sha.length) (htha : 6 ≤ tha.length) (spa tpa : UInt32) (rest : List UInt8) :
    arpInputCheck e (arpEtherBytes e op sha spa tha tpa ++ rest) = some ⟨op, sha.take 6, spa, tpa⟩ := by
  obtain ⟨s0, s1, s2, s3, s4, s5, hs⟩ := exists_take_six hsha
  obtain ⟨t0, t1, t2, t3, t4, t5, ht⟩ := exists_take_six htha
  have h0 := e.load16_store16 (hton16 e ARP_HRD_ETHER)
  have h1 := e.load16_store16 (hton16 e ARP_PRO_IP)
  have h2 := e.load16_store16 (hton16 e op)
  have h3 := e.load32_store32 spa
  have h4 := e.load32_store32 tpa
  rw [arpEtherBytes, hs, ht]
  set m := e.store16 (hton16 e ARP_HRD_ETHER) ++ e.store16 (hton16 e ARP_PRO_IP) ++
    [ETHER_ADDR_LEN, IP_ADDR_LEN] ++ e.store16 (hton16 e op) ++ [s0, s1, s2, s3, s4, s5] ++
    e.store32 spa ++ [t0, t1, t2, t3, t4, t5] ++ e.store32 tpa ++ rest with hm
  -- every field `arp_input` reads, at its offset
  have hf : e.load16 (m.getD 0 0) (m.getD 1 0) = hton16 e ARP_HRD_ETHER ∧
      e.load16 (m.getD 2 0) (m.getD 3 0) = hton16 e ARP_PRO_IP ∧
      m.getD 4 0 = ETHER_ADDR_LEN ∧ m.getD 5 0 = IP_ADDR_LEN ∧
      e.load16 (m.getD 6 0) (m.getD 7 0) = hton16 e op ∧
      (m.drop 8).take 6 = [s0, s1, s2, s3, s4, s5] ∧
      e.load32 (m.getD 14 0) (m.getD 15 0) (m.getD 16 0) (m.getD 17 0) = spa ∧
      e.load32 (m.getD 24 0) (m.getD 25 0) (m.getD 26 0) (m.getD 27 0) = tpa := by
    rw [hm]
    cases e <;> exact ⟨h0, h1, rfl, rfl, h2, rfl, h3, h4⟩
  have hlen : ¬m.length < 28 := by
    simp only [hm, List.length_append, Endian.length_store16, Endian.length_store32,
      List.length_cons, List.length_nil]
    omega
  obtain ⟨f0, f2, f4, f5, f6, f8, f14, f24⟩ := hf
  simp only [arpInputCheck, hlen, f0, f2, f4, f5, f6, f8, f14, f24, ntoh16_hton16, ne_eq,
    not_true_eq_false, or_self, if_false]

/-! ## The cache entry of one address -/

/-- INTERNAL: `find?` with a predicate that holds at `i` and agrees with `p` everywhere else
finds `i`, when `p` found `i` or nothing. -/
theorem find?_eq_some_of_agree {α : Type} {p q : α → Bool} {i : α} :
    ∀ {l : List α}, i ∈ l → q i = true → (∀ j, j ≠ i → q j = p j) →
      (l.find? p = none ∨ l.find? p = some i) → l.find? q = some i
  | [], hi, _, _, _ => absurd hi List.not_mem_nil
  | x :: xs, hi, hq, hagree, hp => by
    by_cases hx : x = i
    · subst hx
      exact List.find?_cons_of_pos hq
    · -- `x` is not `i`: `p` passed over it, so `q` does too
      have hpx : p x = false := by
        cases hpx : p x
        · rfl
        · rw [List.find?_cons_of_pos hpx] at hp
          rcases hp with hp | hp
          · cases hp
          · exact absurd (Option.some.inj hp) hx
      rw [List.find?_cons_of_neg (by rw [hagree x hx, hpx]; decide)]
      rw [List.find?_cons_of_neg (by rw [hpx]; decide)] at hp
      exact find?_eq_some_of_agree (List.mem_of_ne_of_mem (Ne.symm hx) hi) hq hagree hp

/-- Writing an entry in use for `pa` where `arp_cache_select` found it or found nothing:
`arp_cache_select` finds that entry afterwards. -/
theorem arpCacheSelect_set {a : Arp} {pa : UInt32} {i : Fin ARP_CACHE_SIZE} {c : ArpCache}
    (hc : c.state ≠ .free) (hpa : c.pa = pa)
    (hsel : arpCacheSelect a pa = none ∨ arpCacheSelect a pa = some i) :
    arpCacheSelect (a.set i c) pa = some i := by
  unfold arpCacheSelect at hsel ⊢
  refine find?_eq_some_of_agree (List.mem_finRange i) (by simp [hc, hpa]) (fun j hj => ?_) hsel
  rw [Arp.set_caches_of_ne _ _ hj]

/-- INTERNAL: the loop of `arp_cache_alloc` returns an entry once it has seen one. -/
theorem arpCacheAllocFrom_isSome (a : Arp) :
    ∀ (l : List (Fin ARP_CACHE_SIZE)) (oldest : Option (Fin ARP_CACHE_SIZE)),
      (oldest.isSome ∨ l ≠ []) → (arpCacheAllocFrom a l oldest).isSome
  | [], oldest, h => by simpa [arpCacheAllocFrom] using h
  | i :: rest, oldest, _ => by
    unfold arpCacheAllocFrom
    split
    · rfl
    · apply arpCacheAllocFrom_isSome a rest
      left
      cases oldest with
      | none => rfl
      | some o => dsimp only; split <;> rfl

/-- `arp_cache_alloc` always returns an entry: a FREE one, or the oldest. -/
theorem arpCacheAlloc_isSome (a : Arp) : (arpCacheAlloc a).isSome :=
  arpCacheAllocFrom_isSome a _ none (.inr (by simp [List.finRange]))

/-! ## One exchange -/

section Exchange

variable (e : Endian)

/-- `arp_resolve` for an address the cache does not hold: a request, and an entry for the
address that `arp_cache_select` finds from then on. -/
theorem arpStep_resolve_new {s : ArpSystem} {pa : UInt32} (hnew : arpCacheSelect s.arp pa = none)
    (now : Timeval) :
    ∃ a i, arpStep e now s (.resolve pa) =
        some (⟨a, s.inputs, s.out ++ [.request pa]⟩, some .incomplete) ∧
      arpCacheSelect a pa = some i := by
  obtain ⟨i, hi⟩ := Option.isSome_iff_exists.mp (arpCacheAlloc_isSome s.arp)
  refine ⟨s.arp.set i ⟨.incomplete, pa, (s.arp.caches i).ha, now⟩, i, ?_,
    arpCacheSelect_set (by simp) rfl (.inl hnew)⟩
  simp only [arpStep, arpResolve, hnew, hi]

/-- `arp_resolve` for an address whose entry is RESOLVED: its hardware address, and nothing
changes. -/
theorem arpStep_resolve_found {s : ArpSystem} {pa : UInt32} {i : Fin ARP_CACHE_SIZE}
    (hsel : arpCacheSelect s.arp pa = some i) (hres : (s.arp.caches i).state = .resolved)
    (now : Timeval) :
    arpStep e now s (.resolve pa) = some (s, some (.found (s.arp.caches i).ha)) := by
  simp [arpStep, arpResolve, hsel, hres]

/-- `arp_input` of a message for the interface's address whose sender the cache holds: the
entry becomes RESOLVED with the sender's hardware address and a request is answered at once. -/
theorem arpStep_input_known {s : ArpSystem} {data : List UInt8} {msg : ArpMessage}
    (hmsg : arpInputCheck e data = some msg) {j : Fin ARP_CACHE_SIZE}
    (hsel : arpCacheSelect s.arp msg.spa = some j) {iface : IpIface} (hfor : iface.unicast = msg.tpa)
    (now : Timeval) :
    ∃ a, arpStep e now s (.input data (some iface)) =
        some (⟨a, s.inputs, s.out ++ arpReplyOf msg⟩, none) ∧
      arpCacheSelect a msg.spa = some j ∧ (a.caches j).state = .resolved ∧ (a.caches j).ha = msg.sha := by
  have hpa : (s.arp.caches j).pa = msg.spa := by
    have h := List.find?_some hsel
    simp only [decide_eq_true_eq] at h
    exact h.2
  have hup : arpCacheUpdate now s.arp msg.spa msg.sha =
      some (s.arp.set j ⟨.resolved, msg.spa, msg.sha, now⟩) := by
    simp only [arpCacheUpdate, hsel, hpa]
  refine ⟨s.arp.set j ⟨.resolved, msg.spa, msg.sha, now⟩, ?_,
    arpCacheSelect_set (by simp) rfl (.inr hsel), by simp, by simp⟩
  simp only [arpStep, hmsg, hup, hfor, if_true]

/-- `arp_input` of a message for the interface's address whose sender the cache does not hold,
then its second critical section: an entry RESOLVED for the sender, and a request answered. -/
theorem arpRun_input_new {s : ArpSystem} {data : List UInt8} {msg : ArpMessage}
    (hmsg : arpInputCheck e data = some msg) (hnew : arpCacheSelect s.arp msg.spa = none)
    {iface : IpIface} (hfor : iface.unicast = msg.tpa) (now now' : Timeval) :
    ∃ a i, arpRun e s [(now, .input data (some iface)), (now', .insert s.inputs.length)] =
        some (⟨a, s.inputs, s.out ++ arpReplyOf msg⟩, []) ∧
      arpCacheSelect a msg.spa = some i ∧ (a.caches i).state = .resolved ∧ (a.caches i).ha = msg.sha := by
  obtain ⟨i, hi⟩ := Option.isSome_iff_exists.mp (arpCacheAlloc_isSome s.arp)
  have hup : arpCacheUpdate now s.arp msg.spa msg.sha = none := by simp [arpCacheUpdate, hnew]
  -- the first critical section finds nothing to update and leaves the message pending
  have hstep₁ : arpStep e now s (.input data (some iface)) =
      some (⟨s.arp, s.inputs ++ [msg], s.out⟩, none) := by
    simp only [arpStep, hmsg, hup, hfor, if_true, Bool.false_eq_true, if_false]
  -- the second inserts it where `arp_cache_alloc` says and answers
  have hstep₂ : arpStep e now' ⟨s.arp, s.inputs ++ [msg], s.out⟩ (.insert s.inputs.length) =
      some (⟨s.arp.set i ⟨.resolved, msg.spa, msg.sha, now'⟩, s.inputs, s.out ++ arpReplyOf msg⟩,
        none) := by
    have herase : (s.inputs ++ [msg]).eraseIdx s.inputs.length = s.inputs := by
      simp [List.eraseIdx_append_of_length_le]
    simp [arpStep, arpCacheInsert, hi, herase]
  refine ⟨s.arp.set i ⟨.resolved, msg.spa, msg.sha, now'⟩, i, ?_,
    arpCacheSelect_set (by simp) rfl (.inl hnew), by simp, by simp⟩
  simp [arpRun, hstep₁, hstep₂]

/-- The host that receives a message for its interface's address: whether or not it held the
sender, once the call's critical sections have run the sender is RESOLVED with the hardware
address the message carried, nothing is left pending, and a request is answered. -/
theorem arpRun_input_for_iface {s : ArpSystem} {data : List UInt8} {msg : ArpMessage}
    (hmsg : arpInputCheck e data = some msg) {iface : IpIface} (hfor : iface.unicast = msg.tpa)
    (now now' : Timeval) :
    ∃ s', arpRun e s ((now, .input data (some iface)) ::
        if arpCacheSelect s.arp msg.spa = none then [(now', .insert s.inputs.length)] else []) =
        some (s', []) ∧
      s'.inputs = s.inputs ∧ s'.out = s.out ++ arpReplyOf msg ∧
      ∃ i, arpCacheSelect s'.arp msg.spa = some i ∧ (s'.arp.caches i).state = .resolved ∧
        (s'.arp.caches i).ha = msg.sha := by
  cases hsel : arpCacheSelect s.arp msg.spa with
  | none =>
    obtain ⟨a, i, hrun, hi⟩ := arpRun_input_new e hmsg hsel hfor now now'
    exact ⟨⟨a, s.inputs, s.out ++ arpReplyOf msg⟩, by rw [if_pos rfl, hrun], rfl, rfl, i, hi⟩
  | some j =>
    obtain ⟨a, hstep, hj⟩ := arpStep_input_known e hmsg hsel hfor now
    refine ⟨⟨a, s.inputs, s.out ++ arpReplyOf msg⟩, ?_, rfl, rfl, j, hj⟩
    rw [if_neg (by simp)]
    simp [arpRun, hstep]

/-- The host that resolves an address it does not hold: it sends a request and reports
INCOMPLETE; once a message from that address for its interface's address has come in, the next
`arp_resolve` finds the hardware address the message carried. -/
theorem arpRun_resolve_after_input {s : ArpSystem} {pa : UInt32}
    (hnew : arpCacheSelect s.arp pa = none) {data : List UInt8} {msg : ArpMessage}
    (hmsg : arpInputCheck e data = some msg) (hspa : msg.spa = pa) {iface : IpIface}
    (hfor : iface.unicast = msg.tpa) (now₁ now₂ now₃ : Timeval) :
    ∃ s', arpRun e s [(now₁, .resolve pa), (now₂, .input data (some iface)), (now₃, .resolve pa)] =
        some (s', [.incomplete, .found msg.sha]) ∧
      s'.inputs = s.inputs ∧ s'.out = s.out ++ [.request pa] ++ arpReplyOf msg := by
  subst hspa
  obtain ⟨a₁, i, hstep₁, hsel₁⟩ := arpStep_resolve_new e hnew now₁
  -- the request's entry is the one the message's update finds
  obtain ⟨a₂, hstep₂, hsel₂, hres, hha⟩ :=
    arpStep_input_known e (s := ⟨a₁, s.inputs, s.out ++ [.request msg.spa]⟩) hmsg hsel₁ hfor now₂
  have hstep₃ := arpStep_resolve_found e
    (s := ⟨a₂, s.inputs, s.out ++ [.request msg.spa] ++ arpReplyOf msg⟩) hsel₂ hres now₃
  refine ⟨⟨a₂, s.inputs, s.out ++ [.request msg.spa] ++ arpReplyOf msg⟩, ?_, rfl, rfl⟩
  simp only [arpRun, hstep₁, hstep₂, hstep₃, hha, Option.map_some, Option.toList_some,
    Option.toList_none, List.nil_append, List.singleton_append]

end Exchange

/-- **One ARP exchange.** Host A, whose hardware address is `ha`, resolves the address of
host B's interface, which its cache does not hold: `arp_resolve` reports INCOMPLETE and sends
a request. Host B takes in the request's bytes (with whatever the frame carried after them) on
its interface, runs its critical sections (the second only when it did not hold A) and then
holds A's address RESOLVED to `ha`, with nothing pending, and has sent one reply to A. Host A
takes in that reply's bytes on its interface, and its next `arp_resolve` for B finds `hb`, B's
hardware address; the reply is not answered. -/
theorem arp_exchange_resolves (e : Endian) (sA sB : ArpSystem) (iA iB : IpIface)
    {ha hb : List UInt8} (hha : ha.length = 6) (hhb : hb.length = 6)
    (hnew : arpCacheSelect sA.arp iB.unicast = none) (padA padB : List UInt8)
    (t₁ t₂ t₃ t₄ t₅ : Timeval) :
    (∃ sB', arpRun e sB ((t₂, .input ((ArpOut.request iB.unicast).bytes e iA ha ++ padB) (some iB)) ::
        if arpCacheSelect sB.arp iA.unicast = none then [(t₃, .insert sB.inputs.length)] else []) =
        some (sB', []) ∧
      sB'.inputs = sB.inputs ∧ sB'.out = sB.out ++ [.reply ha iA.unicast] ∧
      ∃ i, arpCacheSelect sB'.arp iA.unicast = some i ∧ (sB'.arp.caches i).state = .resolved ∧
        (sB'.arp.caches i).ha = ha) ∧
    ∃ sA', arpRun e sA [(t₁, .resolve iB.unicast),
        (t₄, .input ((ArpOut.reply ha iA.unicast).bytes e iB hb ++ padA) (some iA)),
        (t₅, .resolve iB.unicast)] = some (sA', [.incomplete, .found hb]) ∧
      sA'.inputs = sA.inputs ∧ sA'.out = sA.out ++ [.request iB.unicast] := by
  have hrequest : arpInputCheck e ((ArpOut.request iB.unicast).bytes e iA ha ++ padB) =
      some ⟨ARP_OP_REQUEST, ha, iA.unicast, iB.unicast⟩ := by
    rw [ArpOut.bytes, arpInputCheck_arpEtherBytes e _ (by omega) (by simp),
      List.take_of_length_le (by omega)]
  have hreply : arpInputCheck e ((ArpOut.reply ha iA.unicast).bytes e iB hb ++ padA) =
      some ⟨ARP_OP_REPLY, hb, iB.unicast, iA.unicast⟩ := by
    rw [ArpOut.bytes, arpInputCheck_arpEtherBytes e _ (by omega) (by omega),
      List.take_of_length_le (by omega)]
  constructor
  · exact arpRun_input_for_iface e hrequest rfl t₂ t₃
  · obtain ⟨sA', hrun, hin, hout⟩ := arpRun_resolve_after_input e hnew hreply rfl rfl t₁ t₄ t₅
    refine ⟨sA', hrun, hin, ?_⟩
    have hop : ¬ARP_OP_REPLY = ARP_OP_REQUEST := by decide
    rw [hout, arpReplyOf, if_neg hop, List.append_nil]

/-- Two hosts that start empty: `10.0.0.1` at `02:00:00:00:00:01` resolves `10.0.0.2` at
`02:00:00:00:00:02`. -/
theorem arp_exchange_resolves_init :
    ([2, 0, 0, 0, 0, 1] : List UInt8).length = 6 ∧ ([2, 0, 0, 0, 0, 2] : List UInt8).length = 6 ∧
    arpCacheSelect ArpSystem.init.arp 0x0200000a = none ∧
    (∃ sB', arpRun .little ArpSystem.init ((⟨2, 0⟩, .input
        ((ArpOut.request 0x0200000a).bytes .little ⟨0x0100000a, 0x00ffffff, 0xff00000a, 1500⟩
          [2, 0, 0, 0, 0, 1] ++ []) (some ⟨0x0200000a, 0x00ffffff, 0xff00000a, 1500⟩)) ::
        if arpCacheSelect ArpSystem.init.arp 0x0100000a = none then
          [(⟨3, 0⟩, .insert ArpSystem.init.inputs.length)] else []) = some (sB', []) ∧
      sB'.inputs = ArpSystem.init.inputs ∧
      sB'.out = ArpSystem.init.out ++ [.reply [2, 0, 0, 0, 0, 1] 0x0100000a] ∧
      ∃ i, arpCacheSelect sB'.arp 0x0100000a = some i ∧ (sB'.arp.caches i).state = .resolved ∧
        (sB'.arp.caches i).ha = [2, 0, 0, 0, 0, 1]) ∧
    ∃ sA', arpRun .little ArpSystem.init [(⟨1, 0⟩, .resolve 0x0200000a),
        (⟨4, 0⟩, .input ((ArpOut.reply [2, 0, 0, 0, 0, 1] 0x0100000a).bytes .little
          ⟨0x0200000a, 0x00ffffff, 0xff00000a, 1500⟩ [2, 0, 0, 0, 0, 2] ++ [])
          (some ⟨0x0100000a, 0x00ffffff, 0xff00000a, 1500⟩)),
        (⟨5, 0⟩, .resolve 0x0200000a)] = some (sA', [.incomplete, .found [2, 0, 0, 0, 0, 2]]) ∧
      sA'.inputs = ArpSystem.init.inputs ∧ sA'.out = ArpSystem.init.out ++ [.request 0x0200000a] :=
  ⟨rfl, rfl, by decide, arp_exchange_resolves .little ArpSystem.init ArpSystem.init
    ⟨0x0100000a, 0x00ffffff, 0xff00000a, 1500⟩ ⟨0x0200000a, 0x00ffffff, 0xff00000a, 1500⟩ rfl rfl
    (by decide) [] [] ⟨1, 0⟩ ⟨2, 0⟩ ⟨3, 0⟩ ⟨4, 0⟩ ⟨5, 0⟩⟩

end Microps
