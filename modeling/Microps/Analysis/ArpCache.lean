import Microps.Model.Arp

/-!
# One entry per protocol address, and the gap in `arp_input`

`ArpUnique` says that no two entries in use hold the same protocol address, so that
`arp_cache_select` names the only entry for an address. Every critical section keeps it
except the insert of `arp_input`, and that one keeps it when the address is still not in
the cache (`arpStep_unique`): the update, `arp_resolve` and `arp_timer` only rewrite the entry
`arp_cache_select` names, give `arp_cache_alloc`'s entry to an address `arp_cache_select` did
not find, or free entries. Run back to back, the two sections of `arp_input` keep it too
(`arpInputAtomic_unique`): the insert follows an update that found nothing. So were
`arp_input` one critical section, every run from the empty cache would keep it
(`arpAtomic_unique`).

`arp_input` drops the mutex between them. `arp_resolve` for the sender's address can run in
that gap and give it an INCOMPLETE entry; the insert then gives it a second one
(`arp_duplicate_entry_run`). `arp_cache_select` keeps finding the INCOMPLETE one, so
`arp_resolve` keeps asking while the answer sits in the other entry.
-/

set_option autoImplicit false

namespace Microps

open ByteOrder

/-- No two entries in use hold the same protocol address. -/
def ArpUnique (a : Arp) : Prop :=
  ∀ i j, (a.caches i).state ≠ .free → (a.caches j).state ≠ .free →
    (a.caches i).pa = (a.caches j).pa → i = j

theorem arpUnique_init : ArpUnique Arp.init := by
  intro i j hi
  exact absurd rfl hi

theorem arpCacheSelect_some {a : Arp} {pa : UInt32} {i : Fin ARP_CACHE_SIZE}
    (h : arpCacheSelect a pa = some i) : (a.caches i).state ≠ .free ∧ (a.caches i).pa = pa := by
  unfold arpCacheSelect at h
  have hfound := List.find?_some h
  exact of_decide_eq_true hfound

theorem arpCacheSelect_none {a : Arp} {pa : UInt32} (h : arpCacheSelect a pa = none)
    (j : Fin ARP_CACHE_SIZE) (hj : (a.caches j).state ≠ .free) : (a.caches j).pa ≠ pa := by
  unfold arpCacheSelect at h
  have hnot := List.find?_eq_none.mp h j (List.mem_finRange j)
  intro hpa
  exact hnot (decide_eq_true ⟨hj, hpa⟩)

/-- Writing one entry keeps the cache unique when what is written clashes with no other entry
in use. -/
theorem ArpUnique.set {a : Arp} (h : ArpUnique a) (i : Fin ARP_CACHE_SIZE) (c : ArpCache)
    (hfresh : c.state ≠ .free → ∀ j, j ≠ i → (a.caches j).state ≠ .free → (a.caches j).pa ≠ c.pa) :
    ArpUnique (a.set i c) := by
  intro j k hj hk hpa
  by_cases hji : j = i
  · subst hji
    by_cases hki : k = j
    · exact hki.symm
    · rw [Arp.set_caches_self] at hj hpa
      rw [Arp.set_caches_of_ne _ _ hki] at hk hpa
      exact absurd hpa.symm (hfresh hj k hki hk)
  · by_cases hki : k = i
    · subst hki
      rw [Arp.set_caches_self] at hk hpa
      rw [Arp.set_caches_of_ne _ _ hji] at hj hpa
      exact absurd hpa (hfresh hk j hji hj)
    · rw [Arp.set_caches_of_ne _ _ hji] at hj hpa
      rw [Arp.set_caches_of_ne _ _ hki] at hk hpa
      exact h j k hj hk hpa

/-- An address no entry in use holds may go into any entry. -/
theorem ArpUnique.set_fresh {a : Arp} (h : ArpUnique a) {pa : UInt32} (hsel : arpCacheSelect a pa = none)
    (i : Fin ARP_CACHE_SIZE) (c : ArpCache) (hc : c.pa = pa) : ArpUnique (a.set i c) :=
  h.set i c fun _ j _ hj => hc ▸ arpCacheSelect_none hsel j hj

/-- `arp_cache_update` rewrites the one entry that holds the address, and keeps its address. -/
theorem arpCacheUpdate_unique {a a' : Arp} (h : ArpUnique a) {now : Timeval} {pa : UInt32}
    {ha : List UInt8} (hup : arpCacheUpdate now a pa ha = some a') : ArpUnique a' := by
  unfold arpCacheUpdate at hup
  split at hup
  · cases hup
  · rename_i i hsel
    cases hup
    obtain ⟨hfree, hpa⟩ := arpCacheSelect_some hsel
    apply h.set i
    intro _ j hji hj hclash
    exact hji (h j i hj hfree hclash)

theorem arpCacheInsert_unique {a : Arp} (h : ArpUnique a) {now : Timeval} {pa : UInt32}
    (hsel : arpCacheSelect a pa = none) (ha : List UInt8) : ArpUnique (arpCacheInsert now a pa ha) := by
  unfold arpCacheInsert
  split
  · exact h
  · exact h.set_fresh hsel _ _ rfl

theorem arpResolve_unique {a : Arp} (h : ArpUnique a) (now : Timeval) (pa : UInt32) :
    ArpUnique (arpResolve now a pa).1 := by
  unfold arpResolve
  split
  · rename_i hsel
    split
    · exact h
    · exact h.set_fresh hsel _ _ rfl
  · split <;> exact h

/-- After `arp_timer` an entry is as it was, or deleted. -/
theorem arpTimer_caches (now : Timeval) (a : Arp) (j : Fin ARP_CACHE_SIZE) :
    (arpTimer now a).caches j = a.caches j ∨ (arpTimer now a).caches j = ArpCache.zero := by
  unfold arpTimer
  dsimp only
  split
  · exact .inr rfl
  · exact .inl rfl

theorem arpTimer_unique {a : Arp} (h : ArpUnique a) (now : Timeval) : ArpUnique (arpTimer now a) := by
  -- an entry still in use after the timer is the entry it was before
  have hkept : ∀ j, ((arpTimer now a).caches j).state ≠ .free →
      (arpTimer now a).caches j = a.caches j := by
    intro j hj
    rcases arpTimer_caches now a j with hsame | hzero
    · exact hsame
    · rw [hzero] at hj
      exact absurd rfl hj
  intro j k hj hk hpa
  have hj' := hkept j hj
  have hk' := hkept k hk
  rw [hj'] at hj hpa
  rw [hk'] at hk hpa
  exact h j k hj hk hpa

theorem arpCacheUpdate_eq_none {now : Timeval} {a : Arp} {pa : UInt32} {ha : List UInt8}
    (h : arpCacheUpdate now a pa ha = none) : arpCacheSelect a pa = none := by
  unfold arpCacheUpdate at h
  split at h
  · assumption
  · cases h

/-- Everything the first critical section of `arp_input` can do: leave nothing pending, with the
cache as it was or as `arp_cache_update` leaves it; or leave the call pending for its insert,
with the cache as it was and the sender not in it. -/
theorem arpStep_input_cases {e : Endian} {now : Timeval} {s s' : ArpSystem} {data : List UInt8}
    {iface : Option IpIface} {r : Option ArpResolveResult}
    (hstep : arpStep e now s (.input data iface) = some (s', r)) :
    (s'.inputs = s.inputs ∧ (s'.arp = s.arp ∨ ∃ pa ha, arpCacheUpdate now s.arp pa ha = some s'.arp)) ∨
      ∃ msg : ArpMessage, s'.inputs = s.inputs ++ [msg] ∧ s'.arp = s.arp ∧
        arpCacheSelect s.arp msg.spa = none := by
  simp only [arpStep] at hstep
  split at hstep
  · cases hstep
    exact .inl ⟨rfl, .inl rfl⟩
  · rename_i msg _
    cases hup : arpCacheUpdate now s.arp msg.spa msg.sha with
    | none =>
      simp only [hup, Bool.false_eq_true, ite_false] at hstep
      rcases iface with _ | iface
      · cases hstep
        exact .inl ⟨rfl, .inl rfl⟩
      · dsimp only at hstep
        split at hstep
        · -- for the interface's address, with the sender not cached: it waits for its insert
          cases hstep
          exact .inr ⟨msg, rfl, rfl, arpCacheUpdate_eq_none hup⟩
        · cases hstep
          exact .inl ⟨rfl, .inl rfl⟩
    | some a =>
      simp only [hup, ite_true] at hstep
      rcases iface with _ | iface
      · cases hstep
        exact .inl ⟨rfl, .inr ⟨_, _, hup⟩⟩
      · dsimp only at hstep
        split at hstep <;> cases hstep <;> exact .inl ⟨rfl, .inr ⟨_, _, hup⟩⟩

/-- **Cache uniqueness, step by step.** From a cache in which no address is held twice, every
critical section leaves such a cache, except the insert of a pending `arp_input` whose sender
is in the cache by then. -/
theorem arpStep_unique {e : Endian} {now : Timeval} {s s' : ArpSystem} {ev : ArpEvent}
    {r : Option ArpResolveResult} (h : ArpUnique s.arp)
    (hsafe : ∀ k msg, ev = .insert k → s.inputs[k]? = some msg → arpCacheSelect s.arp msg.spa = none)
    (hstep : arpStep e now s ev = some (s', r)) : ArpUnique s'.arp := by
  cases ev with
  | input data iface =>
    rcases arpStep_input_cases hstep with ⟨-, hsame | ⟨pa, ha, hup⟩⟩ | ⟨msg, -, hsame, -⟩
    · rw [hsame]
      exact h
    · exact arpCacheUpdate_unique h hup
    · rw [hsame]
      exact h
  | insert k =>
    simp only [arpStep] at hstep
    split at hstep
    · cases hstep
    · rename_i msg hk
      cases hstep
      exact arpCacheInsert_unique h (hsafe k msg rfl hk) msg.sha
  | resolve pa =>
    simp only [arpStep, Option.some.injEq, Prod.mk.injEq] at hstep
    obtain ⟨rfl, -⟩ := hstep
    exact arpResolve_unique h now pa
  | timer =>
    simp only [arpStep, Option.some.injEq, Prod.mk.injEq] at hstep
    obtain ⟨rfl, -⟩ := hstep
    exact arpTimer_unique h now

/-- Run back to back, the two critical sections of one `arp_input` keep the cache unique: its
insert follows an update that found nothing, with nothing in between. -/
theorem arpInputAtomic_unique {e : Endian} {now now' : Timeval} {s s₁ s₂ : ArpSystem}
    {data : List UInt8} {iface : Option IpIface} {r r' : Option ArpResolveResult}
    (h : ArpUnique s.arp) (h₁ : arpStep e now s (.input data iface) = some (s₁, r))
    (h₂ : arpStep e now' s₁ (.insert s.inputs.length) = some (s₂, r')) : ArpUnique s₂.arp := by
  rcases arpStep_input_cases h₁ with ⟨hin, -⟩ | ⟨msg, hin, harp, hsel⟩
  · -- nothing was left pending, so there is no insert to run
    simp [arpStep, hin] at h₂
  · refine arpStep_unique (harp ▸ h) ?_ h₂
    intro k m hk hm
    cases hk
    rw [hin, List.getElem?_concat_length, Option.some.injEq] at hm
    rw [← hm, harp]
    exact hsel

/-- One step of the cache were `arp_input` to hold the mutex throughout: an `arp_resolve`, an
`arp_timer`, an `arp_input` that leaves no call pending, or an `arp_input` followed at once by
its insert. -/
inductive ArpAtomicStep (e : Endian) : ArpSystem → ArpSystem → Prop
  | resolve (now : Timeval) (pa : UInt32) {s s' : ArpSystem} {r : Option ArpResolveResult}
      (h : arpStep e now s (.resolve pa) = some (s', r)) : ArpAtomicStep e s s'
  | timer (now : Timeval) {s s' : ArpSystem} {r : Option ArpResolveResult}
      (h : arpStep e now s .timer = some (s', r)) : ArpAtomicStep e s s'
  | input (now : Timeval) (data : List UInt8) (iface : Option IpIface) {s s' : ArpSystem}
      {r : Option ArpResolveResult} (h : arpStep e now s (.input data iface) = some (s', r))
      (hdone : s'.inputs = s.inputs) : ArpAtomicStep e s s'
  | inputInsert (now now' : Timeval) (data : List UInt8) (iface : Option IpIface)
      {s s₁ s₂ : ArpSystem} {r r' : Option ArpResolveResult}
      (h₁ : arpStep e now s (.input data iface) = some (s₁, r))
      (h₂ : arpStep e now' s₁ (.insert s.inputs.length) = some (s₂, r')) : ArpAtomicStep e s s₂

/-- **With `arp_input` atomic, the cache stays unique.** Over every run from the start in which
each `arp_input` runs its two critical sections back to back, no two entries in use hold the
same protocol address. -/
theorem arpAtomic_unique {e : Endian} {s : ArpSystem}
    (hs : Transition.Reachable (· = ArpSystem.init) (ArpAtomicStep e) s) : ArpUnique s.arp := by
  refine Transition.Reachable.inv (P := fun s => ArpUnique s.arp) (fun s₀ h₀ => ?_)
    (fun s₁ s₂ h₁ hstep => ?_) hs
  · rw [h₀]
    exact arpUnique_init
  · -- only an insert needs its sender missing, and each insert follows its own input
    cases hstep with
    | resolve now pa h => exact arpStep_unique h₁ (by intro _ _ hev; cases hev) h
    | timer now h => exact arpStep_unique h₁ (by intro _ _ hev; cases hev) h
    | input now data iface h _ => exact arpStep_unique h₁ (by intro _ _ hev; cases hev) h
    | inputInsert now now' data iface h h' => exact arpInputAtomic_unique h₁ h h'

/-- An ARP request from `10.0.0.2` (hardware address `02:00:00:00:00:02`) for `10.0.0.1`, as
the bytes of `struct arp_ether`. -/
def arpRequestBytes : List UInt8 :=
  [0, 1, 8, 0, 6, 4, 0, 1, 2, 0, 0, 0, 0, 2, 10, 0, 0, 2, 0, 0, 0, 0, 0, 0, 10, 0, 0, 1]

/-- On the interface `10.0.0.1/24`: the request's first section finds no entry for `10.0.0.2`;
`arp_resolve` for `10.0.0.2` runs in the gap; then the request's insert; then `arp_resolve`
for `10.0.0.2` again. -/
def arpDuplicateRun : List (Timeval × ArpEvent) :=
  [(⟨0, 0⟩, .input arpRequestBytes (some ⟨0x0100000a, 0x00ffffff, 0xff00000a, 1500⟩)),
   (⟨0, 0⟩, .resolve 0x0200000a),
   (⟨0, 0⟩, .insert 0),
   (⟨1, 0⟩, .resolve 0x0200000a)]

/-- Entries 0 and 1 both hold `10.0.0.2`, INCOMPLETE and RESOLVED; `arp_resolve` finds the
INCOMPLETE one and answers INCOMPLETE again, though the reply's address is in the cache. -/
theorem arp_duplicate_entry_run :
    (arpRun .little ArpSystem.init arpDuplicateRun).map (fun p =>
        (p.2, (p.1.arp.caches 0).state, (p.1.arp.caches 0).pa)) =
      some ([.incomplete, .incomplete], .incomplete, 0x0200000a) ∧
    (arpRun .little ArpSystem.init arpDuplicateRun).map (fun p =>
        ((p.1.arp.caches 1).state, (p.1.arp.caches 1).pa, (p.1.arp.caches 1).ha)) =
      some (.resolved, 0x0200000a, [2, 0, 0, 0, 0, 2]) := by
  decide

end Microps
