import Microps.Model.Net

/-!
# The protocol input queues of `net.c`

Two results about the input path below every protocol. First, nothing handed to
`net_input_handler` is lost, duplicated or reordered on its way to a handler, whatever the
interleaving of inputs, starts of `net_protocol_handler` and rounds of its loop
(`net_input_queues_conserve`): for each type, the handler calls made for it followed by what
its queue still holds are what its queue held at the start followed by the inputs of that type
whose allocations succeeded. An input of a type no protocol has is dropped, and no handler is
ever called for it. Second, a run of `net_protocol_handler` during which nothing is input
returns after one round per queued entry and one per protocol, plus the last, having called
the handlers on every entry protocol by protocol and each queue in order
(`net_protocol_handler_round`).

The proofs go through the queues of one type (`queueOf`): one lemma for what an input does to
them, one for what a round of the loop does, and the run lemma by induction on the events.
-/

set_option autoImplicit false

namespace Microps

variable {H D : Type}

/-! ## The queues of one type -/

/-- The entries queued for type `T`, queue after queue of the protocols of that type. -/
def queueOf (T : UInt16) (protocols : List (NetProtocol H D)) : List (NetProtocolQueueEntry D) :=
  protocols.flatMap fun proto => if proto.type = T then proto.queue else []

@[simp] theorem queueOf_nil (T : UInt16) : queueOf T ([] : List (NetProtocol H D)) = [] := rfl

theorem queueOf_cons (T : UInt16) (proto : NetProtocol H D) (rest : List (NetProtocol H D)) :
    queueOf T (proto :: rest) = (if proto.type = T then proto.queue else []) ++ queueOf T rest :=
  List.flatMap_cons

theorem queueOf_append (T : UInt16) (pre post : List (NetProtocol H D)) :
    queueOf T (pre ++ post) = queueOf T pre ++ queueOf T post :=
  List.flatMap_append

theorem queueOf_eq_nil {T : UInt16} {protocols : List (NetProtocol H D)}
    (h : T ∉ protocols.map NetProtocol.type) : queueOf T protocols = [] := by
  induction protocols with
  | nil => rfl
  | cons proto rest ih =>
    simp only [List.map_cons, List.mem_cons, not_or] at h
    rw [queueOf_cons, if_neg (Ne.symm h.1), ih h.2, List.nil_append]

/-- What a protocol's entry holds besides its queue: its type and its handler. -/
def NetProtocol.sig (proto : NetProtocol H D) : UInt16 × H :=
  (proto.type, proto.handler)

/-- Tables with the same types and handlers have the same types. -/
theorem types_eq_of_sig {protocols protocols' : List (NetProtocol H D)}
    (h : protocols'.map NetProtocol.sig = protocols.map NetProtocol.sig) :
    protocols'.map NetProtocol.type = protocols.map NetProtocol.type := by
  have hfst : (Prod.fst ∘ NetProtocol.sig : NetProtocol H D → UInt16) = NetProtocol.type := rfl
  have h' := congrArg (List.map Prod.fst) h
  rwa [List.map_map, List.map_map, hfst] at h'

/-- INTERNAL: the `k`-th element of a list splits it. -/
theorem exists_split_of_getElem? {α : Type} {l : List α} {k : Nat} {a : α} (h : l[k]? = some a) :
    ∃ pre post, l = pre ++ a :: post ∧ pre.length = k := by
  obtain ⟨hk, rfl⟩ := List.getElem?_eq_some_iff.mp h
  refine ⟨l.take k, l.drop (k + 1), ?_, by simp only [List.length_take]; omega⟩
  rw [← List.drop_eq_getElem_cons hk, List.take_append_drop]

/-- In a table without repeated types, the queues of the type of one entry are its queue. -/
theorem queueOf_split {pre post : List (NetProtocol H D)} {proto : NetProtocol H D}
    (hnodup : ((pre ++ proto :: post).map NetProtocol.type).Nodup) :
    queueOf proto.type (pre ++ proto :: post) = proto.queue := by
  rw [List.map_append, List.map_cons, List.nodup_append] at hnodup
  have hpre : proto.type ∉ pre.map NetProtocol.type := fun h => hnodup.2.2 _ h _ List.mem_cons_self rfl
  have hpost : proto.type ∉ post.map NetProtocol.type := (List.nodup_cons.mp hnodup.2.1).1
  rw [queueOf_append, queueOf_cons, if_pos rfl, queueOf_eq_nil hpre, queueOf_eq_nil hpost,
    List.nil_append, List.append_nil]

/-! ## What one input does -/

/-- What an event puts in the queue of type `T`, when `T` has a protocol: the entry of an
input of that type whose two allocations succeed. -/
def NetEvent.accepted (T : UInt16) : NetEvent D → List (NetProtocolQueueEntry D)
  | .input allocEntry allocPush type data dev =>
    if allocEntry = true ∧ allocPush = true ∧ type = T then [⟨dev, data.length, data⟩] else []
  | _ => []

/-- `net_input_handler` keeps the table's types and handlers. -/
theorem sig_netInputHandler (allocEntry allocPush : Bool) (type : UInt16) (data : List UInt8)
    (dev : D) : ∀ protocols : List (NetProtocol H D),
      (netInputHandler allocEntry allocPush type data dev protocols).1.map NetProtocol.sig =
        protocols.map NetProtocol.sig
  | [] => rfl
  | proto :: rest => by
    unfold netInputHandler
    by_cases hp : proto.type = type
    · rw [if_pos hp]
      cases allocEntry <;> cases allocPush <;> rfl
    · rw [if_neg hp]
      simp only [List.map_cons, sig_netInputHandler allocEntry allocPush type data dev rest]

theorem types_netInputHandler (allocEntry allocPush : Bool) (type : UInt16) (data : List UInt8)
    (dev : D) (protocols : List (NetProtocol H D)) :
    (netInputHandler allocEntry allocPush type data dev protocols).1.map NetProtocol.type =
      protocols.map NetProtocol.type :=
  types_eq_of_sig (sig_netInputHandler allocEntry allocPush type data dev protocols)

/-- What `net_input_handler` returns: -1 exactly when a protocol has the type and an allocation
fails; a type no protocol has returns 0 as a queued entry does. -/
theorem netInputHandler_ret (allocEntry allocPush : Bool) (type : UInt16) (data : List UInt8)
    (dev : D) : ∀ protocols : List (NetProtocol H D),
      (netInputHandler allocEntry allocPush type data dev protocols).2 =
        if type ∈ protocols.map NetProtocol.type ∧ ¬(allocEntry = true ∧ allocPush = true)
        then -1 else 0
  | [] => by simp [netInputHandler]
  | proto :: rest => by
    unfold netInputHandler
    by_cases hp : proto.type = type
    · rw [if_pos hp]
      cases allocEntry <;> cases allocPush <;> simp [hp, queuePush]
    · rw [if_neg hp, netInputHandler_ret allocEntry allocPush type data dev rest]
      simp only [List.map_cons, List.mem_cons, Ne.symm hp, false_or]

/-- An input adds its entry to the queue of its type, and to no other. -/
theorem queueOf_netInputHandler {allocEntry allocPush : Bool} {type : UInt16} {data : List UInt8}
    {dev : D} {T : UInt16} : ∀ {protocols : List (NetProtocol H D)},
      (protocols.map NetProtocol.type).Nodup → T ∈ protocols.map NetProtocol.type →
      queueOf T (netInputHandler allocEntry allocPush type data dev protocols).1 =
        queueOf T protocols ++ (NetEvent.input allocEntry allocPush type data dev).accepted T
  | [], _, hT => absurd hT List.not_mem_nil
  | proto :: rest, hnodup, hT => by
    rw [List.map_cons, List.nodup_cons] at hnodup
    unfold netInputHandler
    by_cases hp : proto.type = type
    · rw [if_pos hp]
      cases allocEntry
      · simp [NetEvent.accepted]
      cases allocPush
      · simp [NetEvent.accepted, queuePush]
      -- both allocations succeed: the entry goes at the end of `proto`'s queue
      have hpush : queuePush true proto.queue ⟨dev, data.length, data⟩ =
          some (proto.queue ++ [⟨dev, data.length, data⟩]) := rfl
      simp only [Bool.not_true, Bool.false_eq_true, if_false, hpush]
      rw [queueOf_cons, queueOf_cons]
      dsimp only
      by_cases hT' : proto.type = T
      · have hrest : queueOf T rest = [] := queueOf_eq_nil (hT' ▸ hnodup.1)
        have hacc : type = T := hp ▸ hT'
        simp only [if_pos hT', hrest, List.append_nil, NetEvent.accepted, hacc, and_self, if_true]
      · have hne : ¬type = T := hp ▸ hT'
        simp only [if_neg hT', List.nil_append, NetEvent.accepted, hne, and_false, if_false,
          List.append_nil]
    · rw [if_neg hp]
      dsimp only
      rw [queueOf_cons, queueOf_cons]
      by_cases hT' : proto.type = T
      · -- `T` is `proto`'s type, which the input's is not: nothing of type `T` changes
        have hnot : T ∉ rest.map NetProtocol.type := hT' ▸ hnodup.1
        have hne : ¬(type = T) := fun h => hp (hT'.trans h.symm)
        rw [queueOf_eq_nil (by rwa [types_netInputHandler]), queueOf_eq_nil hnot]
        simp [NetEvent.accepted, hne]
      · have hmem : T ∈ rest.map NetProtocol.type := by
          simpa [Ne.symm hT'] using hT
        rw [queueOf_netInputHandler hnodup.2 hmem, List.append_assoc]

/-! ## What one round of the loop does -/

/-- The entry a handler call carries. -/
def NetHandlerCall.entry (c : NetHandlerCall H D) : NetProtocolQueueEntry D :=
  ⟨c.dev, c.len, c.data⟩

/-- A round of `net_protocol_handler` keeps the table's types and handlers. -/
theorem sig_netProtocolHandlerStep (protocols : List (NetProtocol H D)) (k : Nat) :
    (netProtocolHandlerStep protocols k).1.protocols.map NetProtocol.sig =
      protocols.map NetProtocol.sig := by
  unfold netProtocolHandlerStep
  split
  · rfl
  · rename_i proto hproto
    split
    · rfl
    · obtain ⟨pre, post, rfl, rfl⟩ := exists_split_of_getElem? hproto
      simp [NetProtocol.sig]

/-- A round of `net_protocol_handler` calls a handler on the head of the queue it pops, the
handler of the protocol that queue belongs to. -/
theorem netProtocolHandlerStep_call {protocols : List (NetProtocol H D)} {k : Nat}
    {c : NetHandlerCall H D} (h : (netProtocolHandlerStep protocols k).2 = some c) :
    (c.type, c.handler) ∈ protocols.map NetProtocol.sig := by
  unfold netProtocolHandlerStep at h
  split at h
  · cases h
  · rename_i proto hproto
    split at h
    · cases h
    · cases h
      exact List.mem_map_of_mem (List.mem_of_getElem? hproto)

/-- A round of `net_protocol_handler` moves the head of one queue to the handler calls: per
type, the calls it makes followed by the queues after it are the queues before it. -/
theorem queueOf_netProtocolHandlerStep {protocols : List (NetProtocol H D)}
    (hnodup : (protocols.map NetProtocol.type).Nodup) (k : Nat) (T : UInt16) :
    ((netProtocolHandlerStep protocols k).2.toList.filter (fun c => c.type = T)).map
        NetHandlerCall.entry ++ queueOf T (netProtocolHandlerStep protocols k).1.protocols =
      queueOf T protocols := by
  unfold netProtocolHandlerStep
  split
  · rfl
  · rename_i proto hproto
    split
    · rfl
    · rename_i entry queue hpop
      obtain ⟨pre, post, rfl, rfl⟩ := exists_split_of_getElem? hproto
      have hq : proto.queue = entry :: queue := by
        cases hq : proto.queue with
        | nil => simp [hq, queuePop] at hpop
        | cons e q => simp only [hq, queuePop, Option.some.injEq, Prod.mk.injEq] at hpop; simp [hpop]
      dsimp only
      rw [List.set_append_right _ _ (Nat.le_refl _), Nat.sub_self, List.set_cons_zero]
      by_cases hT : proto.type = T
      · -- the popped queue is the one of type `T`
        subst hT
        have hnodup' : ((pre ++ { proto with queue := queue } :: post).map NetProtocol.type).Nodup := by
          simpa using hnodup
        have hsplit : queueOf proto.type (pre ++ { proto with queue := queue } :: post) = queue :=
          queueOf_split hnodup'
        rw [queueOf_split hnodup, hsplit, hq]
        simp [NetHandlerCall.entry]
      · simp [hT, queueOf_append, queueOf_cons]

/-! ## Whole runs -/

/-- A run is its first event, then the rest. -/
theorem netSoftirqRun_cons_of_step {s s₁ : NetSoftirq H D} {ev : NetEvent D}
    {call : Option (NetHandlerCall H D)} (h : netSoftirqStep s ev = some (s₁, call))
    (evs : List (NetEvent D)) :
    netSoftirqRun s (ev :: evs) =
      (netSoftirqRun s₁ evs).map fun (s', calls) => (s', call.toList ++ calls) := by
  rw [netSoftirqRun, h]

/-- Every step keeps the table's types, and per type it moves what it pops from the queues to
the calls and adds what it accepts to the queues. -/
theorem netSoftirqStep_conserve {s s' : NetSoftirq H D} {ev : NetEvent D}
    {call : Option (NetHandlerCall H D)} (hnodup : (s.protocols.map NetProtocol.type).Nodup)
    (h : netSoftirqStep s ev = some (s', call)) :
    s'.protocols.map NetProtocol.sig = s.protocols.map NetProtocol.sig ∧
    (∀ T ∈ s.protocols.map NetProtocol.type,
      queueOf T s.protocols ++ ev.accepted T =
        (call.toList.filter (fun c => c.type = T)).map NetHandlerCall.entry ++
          queueOf T s'.protocols) ∧
    (∀ c ∈ call.toList, (c.type, c.handler) ∈ s.protocols.map NetProtocol.sig) := by
  cases ev with
  | input allocEntry allocPush type data dev =>
    simp only [netSoftirqStep, Option.some.injEq, Prod.mk.injEq] at h
    obtain ⟨rfl, rfl⟩ := h
    refine ⟨sig_netInputHandler .., fun T hT => ?_, fun c hc => by cases hc⟩
    rw [queueOf_netInputHandler hnodup hT]
    rfl
  | softirq =>
    simp only [netSoftirqStep] at h
    split at h
    · simp only [Option.some.injEq, Prod.mk.injEq] at h
      obtain ⟨rfl, rfl⟩ := h
      exact ⟨rfl, fun T _ => by simp [NetEvent.accepted], fun c hc => by cases hc⟩
    · cases h
  | pop =>
    simp only [netSoftirqStep] at h
    split at h
    · cases h
    · rename_i k _
      simp only [Option.some.injEq] at h
      have hs' : s' = (netProtocolHandlerStep s.protocols k).1 := by rw [h]
      have hcall : call = (netProtocolHandlerStep s.protocols k).2 := by rw [h]
      subst hs' hcall
      refine ⟨sig_netProtocolHandlerStep _ k, fun T _ => ?_, fun c hc => ?_⟩
      · rw [queueOf_netProtocolHandlerStep hnodup k T]
        simp [NetEvent.accepted]
      · exact netProtocolHandlerStep_call (Option.mem_toList.mp hc)

/-- The run lemma: the conservation of each type's entries, and every call made by the handler
of its type's protocol, over every run. -/
theorem netSoftirqRun_conserve : ∀ (evs : List (NetEvent D)) {s s' : NetSoftirq H D}
    {calls : List (NetHandlerCall H D)}, (s.protocols.map NetProtocol.type).Nodup →
    netSoftirqRun s evs = some (s', calls) →
    s'.protocols.map NetProtocol.sig = s.protocols.map NetProtocol.sig ∧
    (∀ T ∈ s.protocols.map NetProtocol.type,
      queueOf T s.protocols ++ evs.flatMap (NetEvent.accepted T) =
        (calls.filter (fun c => c.type = T)).map NetHandlerCall.entry ++ queueOf T s'.protocols) ∧
    (∀ c ∈ calls, (c.type, c.handler) ∈ s.protocols.map NetProtocol.sig)
  | [], s, s', calls, _, h => by
    simp only [netSoftirqRun, Option.some.injEq, Prod.mk.injEq] at h
    obtain ⟨rfl, rfl⟩ := h
    exact ⟨rfl, fun T _ => by simp, fun c hc => by cases hc⟩
  | ev :: evs, s, s', calls, hnodup, h => by
    rw [netSoftirqRun] at h
    cases hstep : netSoftirqStep s ev with
    | none => rw [hstep] at h; cases h
    | some r =>
      obtain ⟨s₁, call⟩ := r
      rw [hstep] at h
      obtain ⟨⟨s₂, calls₂⟩, hrest, hcalls⟩ := Option.map_eq_some_iff.mp h
      simp only [Prod.mk.injEq] at hcalls
      obtain ⟨rfl, rfl⟩ := hcalls
      obtain ⟨htypes₁, hcons₁, hcall₁⟩ := netSoftirqStep_conserve hnodup hstep
      have hnodup₁ : (s₁.protocols.map NetProtocol.type).Nodup := by
        rwa [types_eq_of_sig htypes₁]
      obtain ⟨htypes₂, hcons₂, hcall₂⟩ := netSoftirqRun_conserve evs hnodup₁ hrest
      refine ⟨htypes₂.trans htypes₁, fun T hT => ?_, fun c hc => ?_⟩
      · -- the first step's conservation, then the rest's from the state it leaves
        have hT₁ : T ∈ s₁.protocols.map NetProtocol.type := by
          rwa [types_eq_of_sig htypes₁]
        rw [List.flatMap_cons, ← List.append_assoc, hcons₁ T hT, List.append_assoc,
          hcons₂ T hT₁, List.filter_append, List.map_append, List.append_assoc]
      · rcases List.mem_append.mp hc with hc | hc
        · exact hcall₁ c hc
        · rw [← htypes₁]
          exact hcall₂ c hc

/-- Nothing handed to `net_input_handler` is lost, duplicated or reordered on its way to a
handler, over every run from a table without repeated types. For a type with a protocol, the
calls made for it followed by what its queue holds are what it held followed by the inputs of
that type whose allocations succeeded; no handler is called for a type without one; and every
call is made by the handler registered for its type. -/
theorem net_input_queues_conserve {s s' : NetSoftirq H D} {evs : List (NetEvent D)}
    {calls : List (NetHandlerCall H D)} (hnodup : (s.protocols.map NetProtocol.type).Nodup)
    (hrun : netSoftirqRun s evs = some (s', calls)) (T : UInt16) :
    (T ∈ s.protocols.map NetProtocol.type →
      queueOf T s.protocols ++ evs.flatMap (NetEvent.accepted T) =
        (calls.filter (fun c => c.type = T)).map NetHandlerCall.entry ++ queueOf T s'.protocols) ∧
    (T ∉ s.protocols.map NetProtocol.type → calls.filter (fun c => c.type = T) = []) ∧
    (∀ c ∈ calls, c.type = T → (T, c.handler) ∈ s.protocols.map NetProtocol.sig) := by
  obtain ⟨-, hcons, hcall⟩ := netSoftirqRun_conserve evs hnodup hrun
  refine ⟨hcons T, fun hT => ?_, fun c hc hcT => hcT ▸ hcall c hc⟩
  -- a call of type `T` would come from a protocol of type `T`
  apply List.filter_eq_nil_iff.mpr
  intro c hc hcT
  obtain ⟨proto, hproto, hsig⟩ := List.mem_map.mp (hcall c hc)
  have htype : proto.type = T := (Prod.mk.inj hsig).1.trans (of_decide_eq_true hcT)
  exact hT (List.mem_map.mpr ⟨proto, hproto, htype⟩)

/-- Two IP inputs and an ARP input around a start of the loop, with one more IP input whose
`queue_push` fails: after two rounds the ARP entry has reached its handler and both IP entries
that were accepted wait in order. -/
theorem net_input_queues_conserve_ip_arp :
    let s : NetSoftirq Nat Nat :=
      ⟨[⟨NET_PROTOCOL_TYPE_ARP, 1, []⟩, ⟨NET_PROTOCOL_TYPE_IP, 0, []⟩], none⟩
    let evs : List (NetEvent Nat) :=
      [.input true true NET_PROTOCOL_TYPE_IP [0x45] 0, .input true true NET_PROTOCOL_TYPE_ARP [1] 0,
        .softirq, .pop, .input true false NET_PROTOCOL_TYPE_IP [7] 0, .pop,
        .input true true NET_PROTOCOL_TYPE_IP [8] 0]
    let s' : NetSoftirq Nat Nat :=
      ⟨[⟨NET_PROTOCOL_TYPE_ARP, 1, []⟩, ⟨NET_PROTOCOL_TYPE_IP, 0, [⟨0, 1, [0x45]⟩, ⟨0, 1, [8]⟩]⟩],
        some 1⟩
    let calls : List (NetHandlerCall Nat Nat) := [⟨NET_PROTOCOL_TYPE_ARP, 1, [1], 1, 0⟩]
    (s.protocols.map NetProtocol.type).Nodup ∧ netSoftirqRun s evs = some (s', calls) ∧
    (NET_PROTOCOL_TYPE_IP ∈ s.protocols.map NetProtocol.type →
      queueOf NET_PROTOCOL_TYPE_IP s.protocols ++ evs.flatMap (NetEvent.accepted NET_PROTOCOL_TYPE_IP) =
        (calls.filter (fun c => c.type = NET_PROTOCOL_TYPE_IP)).map NetHandlerCall.entry ++
          queueOf NET_PROTOCOL_TYPE_IP s'.protocols) ∧
    (NET_PROTOCOL_TYPE_IP ∉ s.protocols.map NetProtocol.type →
      calls.filter (fun c => c.type = NET_PROTOCOL_TYPE_IP) = []) ∧
    (∀ c ∈ calls, c.type = NET_PROTOCOL_TYPE_IP →
      (NET_PROTOCOL_TYPE_IP, c.handler) ∈ s.protocols.map NetProtocol.sig) :=
  ⟨by decide, rfl, net_input_queues_conserve (by decide) rfl NET_PROTOCOL_TYPE_IP⟩

/-! ## A round of `net_protocol_handler` -/

/-- The handler calls the loop makes on a protocol's queue, in the queue's order. -/
def NetProtocol.calls (proto : NetProtocol H D) : List (NetHandlerCall H D) :=
  proto.queue.map fun entry => ⟨proto.type, proto.handler, entry.data, entry.len, entry.dev⟩

/-- How many rounds of its loop `net_protocol_handler` takes over a table when nothing is
input meanwhile: one per entry, one per protocol to leave its empty queue, and the last. -/
def netProtocolHandlerRounds (protocols : List (NetProtocol H D)) : Nat :=
  (protocols.map fun proto => proto.queue.length + 1).sum + 1

/-- The loop at a protocol whose queue holds an entry pops it and calls the handler on it. -/
theorem netProtocolHandlerStep_cons (pre post : List (NetProtocol H D)) (proto : NetProtocol H D)
    (entry : NetProtocolQueueEntry D) (queue : List (NetProtocolQueueEntry D)) :
    netProtocolHandlerStep (pre ++ { proto with queue := entry :: queue } :: post) pre.length =
      (⟨pre ++ { proto with queue := queue } :: post, some pre.length⟩,
        some ⟨proto.type, proto.handler, entry.data, entry.len, entry.dev⟩) := by
  unfold netProtocolHandlerStep
  rw [List.getElem?_append_right (Nat.le_refl _), Nat.sub_self, List.getElem?_cons_zero]
  simp [queuePop]

/-- The loop at a protocol whose queue is empty moves on to the next protocol. -/
theorem netProtocolHandlerStep_nil (pre post : List (NetProtocol H D)) (proto : NetProtocol H D) :
    netProtocolHandlerStep (pre ++ { proto with queue := [] } :: post) pre.length =
      (⟨pre ++ { proto with queue := [] } :: post, some (pre.length + 1)⟩, none) := by
  unfold netProtocolHandlerStep
  rw [List.getElem?_append_right (Nat.le_refl _), Nat.sub_self, List.getElem?_cons_zero]
  rfl

/-- Past the last protocol the function returns. -/
theorem netProtocolHandlerStep_end (protocols : List (NetProtocol H D)) :
    netProtocolHandlerStep protocols protocols.length = (⟨protocols, none⟩, none) := by
  unfold netProtocolHandlerStep
  rw [List.getElem?_eq_none (Nat.le_refl _)]

/-- INTERNAL: calls made before the rest of a run go in front of the rest's. -/
theorem netSoftirqRun_pop {s s₁ : NetSoftirq H D} {k : Nat} (hk : s.cursor = some k)
    {call : Option (NetHandlerCall H D)} (h : netProtocolHandlerStep s.protocols k = (s₁, call))
    (evs : List (NetEvent D)) :
    netSoftirqRun s (.pop :: evs) =
      (netSoftirqRun s₁ evs).map fun (s', calls) => (s', call.toList ++ calls) :=
  netSoftirqRun_cons_of_step (by simp only [netSoftirqStep, hk, h]) evs

/-- The inner loop at one protocol: one pop per entry empties its queue, the calls in the
queue's order, and the loop is still at that protocol. -/
theorem netSoftirqRun_drain (pre post : List (NetProtocol H D)) (proto : NetProtocol H D) :
    ∀ (queue : List (NetProtocolQueueEntry D)) (evs : List (NetEvent D)),
      netSoftirqRun ⟨pre ++ { proto with queue := queue } :: post, some pre.length⟩
          (List.replicate queue.length .pop ++ evs) =
        (netSoftirqRun ⟨pre ++ { proto with queue := [] } :: post, some pre.length⟩ evs).map
          fun (s', calls) => (s', { proto with queue := queue }.calls ++ calls)
  | [], evs => by
    simp [NetProtocol.calls]
  | entry :: queue, evs => by
    rw [List.length_cons, List.replicate_succ, List.cons_append,
      netSoftirqRun_pop rfl (netProtocolHandlerStep_cons pre post proto entry queue),
      netSoftirqRun_drain pre post proto queue evs, Option.map_map]
    rfl

/-- The outer loop from the protocol after `pre` on: it drains every later queue in turn and
returns. -/
theorem netSoftirqRun_round : ∀ (post pre : List (NetProtocol H D)),
    netSoftirqRun ⟨pre ++ post, some pre.length⟩
        (List.replicate ((post.map fun proto => proto.queue.length + 1).sum + 1) .pop) =
      some (⟨pre ++ post.map (fun proto => { proto with queue := [] }), none⟩,
        post.flatMap NetProtocol.calls)
  | [], pre => by
    rw [List.map_nil, List.sum_nil, List.replicate_one, List.append_nil,
      netSoftirqRun_pop rfl (netProtocolHandlerStep_end pre)]
    simp [netSoftirqRun]
  | proto :: post, pre => by
    have hsplit : ((proto :: post).map fun proto => proto.queue.length + 1).sum + 1 =
        proto.queue.length + (1 + ((post.map fun proto => proto.queue.length + 1).sum + 1)) := by
      simp only [List.map_cons, List.sum_cons]
      omega
    have hnil := netProtocolHandlerStep_nil pre post proto
    have hpre : pre ++ { proto with queue := [] } :: post =
        (pre ++ [{ proto with queue := [] }]) ++ post := by simp
    rw [hpre] at hnil
    rw [hsplit, List.replicate_add, List.replicate_add, List.replicate_one]
    -- drain `proto`'s queue, leave it, then the rest of the table
    have hdrain := netSoftirqRun_drain pre post proto proto.queue
      (.pop :: List.replicate ((post.map fun proto => proto.queue.length + 1).sum + 1) .pop)
    rw [List.singleton_append] at ⊢
    rw [show { proto with queue := proto.queue } = proto from rfl] at hdrain
    rw [hdrain, hpre, netSoftirqRun_pop rfl hnil]
    have hlen : pre.length + 1 = (pre ++ [({ proto with queue := [] } : NetProtocol H D)]).length := by
      simp
    rw [hlen, netSoftirqRun_round post (pre ++ [({ proto with queue := [] } : NetProtocol H D)])]
    simp

/-- A run of `net_protocol_handler` during which nothing is input returns after
`netProtocolHandlerRounds` rounds of its loop, having called each protocol's handler on every
entry of its queue, protocol by protocol in the table's order and each queue in the order its
entries came, and leaving every queue empty. -/
theorem net_protocol_handler_round (protocols : List (NetProtocol H D)) :
    netSoftirqRun ⟨protocols, none⟩
        (.softirq :: List.replicate (netProtocolHandlerRounds protocols) .pop) =
      some (⟨protocols.map fun proto => { proto with queue := [] }, none⟩,
        protocols.flatMap NetProtocol.calls) := by
  have h := netSoftirqRun_round protocols []
  rw [List.nil_append, List.length_nil, List.nil_append] at h
  rw [netSoftirqRun_cons_of_step rfl, netProtocolHandlerRounds, h]
  rfl

end Microps
