import OpenwrtSource.Fullcone.LinuxKernel

/-!
# Endpoint-independent mapping

An internal endpoint has one mapping per external address as long as no new
mapping is made next to one that the lookup did not return.  The lookup at a
single address returns the only candidate.  The lookup in a pool returns the
first mapping of the bucket at any address of the pool; when that one is stale,
a mapping at the address chosen for the flow is overlooked, and the flow gets a
second port there.
-/

namespace OpenwrtSource.Fullcone.EndpointIndependence

open Lib.Run Lib.Index Fullcone.Tuple Fullcone.L3Family Fullcone.Mapping Fullcone.TableEffects
open Fullcone.Hooks Fullcone.HookEffects Fullcone.EventSystem Fullcone.LinuxKernel

variable {A : Type} [DecidableEq A] {k : Kernel}

/-- At most one mapping with a live conntrack per internal endpoint and external
address. -/
def LiveUnique (find : CtTuple → Bool) (t : Tables A) : Prop :=
  ∀ first second left right, t.heap first = some left → t.heap second = some right →
    left.originalTupleList.any find = true → right.originalTupleList.any find = true →
      left.intAddr = right.intAddr → left.intPort = right.intPort → left.addr = right.addr →
        first = second

/-- Every mapping of the packet's source at the address chosen for it is the one
that the lookup returns. -/
def NoneOverlooked (k : Kernel) (fam : Family A) (packet : PostroutingPacket A)
    (minAddr maxAddr : A) (t : Tables A) : Prop :=
  ∀ id mapping, t.heap id = some mapping → mapping.intAddr = packet.intAddr fam →
    mapping.intPort = packet.intPort →
      mapping.addr = chosenAddress k fam packet minAddr maxAddr →
        sourceMapping k fam packet minAddr maxAddr t = some id

/-- A packet over a pool of addresses reuses a live mapping or overlooks none. -/
def PoolServed (k : Kernel) (fam : Family A) (find : CtTuple → Bool)
    (packet : PostroutingPacket A) (t : Tables A) : Prop :=
  packet.original.dstProtonum = IPPROTO_UDP → ∀ minAddr maxAddr,
    packet.addresses = some (minAddr, maxAddr) → minAddr ≠ maxAddr →
      SourceActive k fam find packet minAddr maxAddr t ∨
        NoneOverlooked k fam packet minAddr maxAddr t

def poolCall (k : Kernel) (A : Type) [DecidableEq A] (fam : Family A) (find : CtTuple → Bool)
    (call : Call A) (t : Tables A) : Prop :=
  match call with
  | .postrouting packet => PoolServed k fam find packet t
  | _ => True

/-- Every packet of a live mapping's internal endpoint that leaves through its
external address leaves from its external port. -/
def SamePort (k : Kernel) (fam : Family A) (find : CtTuple → Bool) (t : Tables A) : Prop :=
  ∀ id mapping, t.heap id = some mapping → mapping.originalTupleList.any find = true →
    ∀ packet : PostroutingPacket A, PoolServed k fam find packet t →
      packet.original.dstProtonum = IPPROTO_UDP → packet.intAddr fam = mapping.intAddr →
        packet.intPort = mapping.intPort → ∀ range,
          outboundRange k fam find packet t = some range → range.minAddr = mapping.addr →
            range = singleRange mapping.addr mapping.port

variable {fam : Family A} {t : Tables A}

theorem noneOverlooked_single (wf : WellFormed k fam t) (unique : InternalUnique t)
    (packet : PostroutingPacket A) (addr : A) : NoneOverlooked k fam packet addr addr t := by
  intro id mapping found sameAddr samePort chosen
  have address : mapping.addr = addr := by simpa [chosenAddress] using chosen
  have own : mapping.intBucket k fam =
      intSrcBucket k fam (packet.intAddr fam) packet.intPort := by
    rw [NatMapping.intBucket, sameAddr, samePort]
  simp only [sourceMapping, ne_eq, not_true_eq_false, if_false, getMappingByIntSrc]
  refine wf.int.lookup_unique id mapping found own (by simp [sameAddr, samePort, address]) ?_
  intro other candidate candidateFound passes
  simp only [Bool.and_eq_true, decide_eq_true_eq] at passes
  refine unique other id candidate mapping candidateFound found ?_
  simp only [NatMapping.endpoints, Prod.mk.injEq]
  exact ⟨passes.1.1.trans sameAddr.symm, passes.1.2.trans samePort.symm,
    passes.2.trans address.symm⟩

theorem noneOverlooked_of_served (wf : WellFormed k fam t) (unique : InternalUnique t)
    (find : CtTuple → Bool) (packet : PostroutingPacket A) (minAddr maxAddr : A)
    (served : PoolServed k fam find packet t) (udp : packet.original.dstProtonum = IPPROTO_UDP)
    (addresses : packet.addresses = some (minAddr, maxAddr))
    (inactive : ¬ SourceActive k fam find packet minAddr maxAddr t) :
    NoneOverlooked k fam packet minAddr maxAddr t := by
  by_cases single : minAddr = maxAddr
  · subst maxAddr
    exact noneOverlooked_single wf unique packet minAddr
  · exact (served udp minAddr maxAddr addresses single).resolve_left inactive

theorem internalUnique_of_created {find : CtTuple → Bool} {packet : PostroutingPacket A}
    {minAddr maxAddr : A} {settled after : Tables A} {port : BitVec 16} (wf : WellFormed k fam t)
    (unique : InternalUnique t)
    (creates : Creates k fam find packet minAddr maxAddr t settled after port)
    (honest : SetupHonest fam packet) (served : PoolServed k fam find packet t) :
    InternalUnique after := by
  have overlooked := noneOverlooked_of_served wf unique find packet minAddr maxAddr served
    creates.udp creates.addresses creates.inactive
  obtain ⟨replyAddr, -⟩ := honest _ _ creates.accepted
  refine UniqueBy.of_added (UniqueBy.of_carries unique creates.shrinks.carries)
    creates.endpoints ?_
  -- a mapping with the new key was the stale one that the check has killed
  intro id left found same
  rw [replyAddr, Prod.mk.injEq, Prod.mk.injEq] at same
  obtain ⟨mapping, mappingFound, key, -⟩ := creates.shrinks.survivor id left found
  rw [key] at same
  have gone := creates.stale id (overlooked id mapping mappingFound same.1 same.2.1 same.2.2)
  rw [found] at gone
  cases gone

theorem call_internalUnique (wf : WellFormed k fam t) (unique : InternalUnique t)
    (find : CtTuple → Bool) (call : Call A) (honest : honestCall A fam find call t)
    (served : poolCall k A fam find call t) : InternalUnique (call.exec k fam find t) := by
  cases call with
  | prerouting packet => exact UniqueBy.of_carries unique (prerouting_carries wf find packet)
  | postrouting packet =>
    rcases postrouting_cases wf find packet with
      carries | ⟨minAddr, maxAddr, settled, port, creates⟩
    · exact UniqueBy.of_carries unique carries
    · exact internalUnique_of_created wf unique creates honest served
  | lookup scope port extIp =>
    exact UniqueBy.of_carries unique
      (getMappingByExtPort_spec wf find port extIp).shrinks.carries

/-- What a call must meet for its tables to stay unique by internal endpoint. -/
def servedCall (k : Kernel) (A : Type) [DecidableEq A] (fam : Family A) (find : CtTuple → Bool)
    (call : Call A) (t : Tables A) : Prop :=
  honestCall A fam find call t ∧ poolCall k A fam find call t

theorem internalUnique_invariant (k : Kernel) :
    TableInvariant k (servedCall k) fun _ _ fam t => WellFormed k fam t ∧ InternalUnique t where
  empty _ _ fam := ⟨wellFormed_empty k fam, fun _ _ _ _ found => nomatch found⟩
  call _ _ _ find call _ holds guarded :=
    ⟨call_wellFormed holds.1 find call,
      call_internalUnique holds.1 holds.2 find call guarded.1 guarded.2⟩
  collect _ _ _ item _ holds :=
    have effects := collectTuple_effects holds.1 item
    ⟨effects.1, UniqueBy.of_carries holds.2 effects.2.carries⟩
  destroy _ _ _ _ holds :=
    have effects := destroyMappings_effects holds.1
    ⟨effects.1, UniqueBy.of_carries holds.2 effects.2.1.carries⟩

omit [DecidableEq A] in
theorem liveUnique_of_internalUnique (unique : InternalUnique t) (find : CtTuple → Bool) :
    LiveUnique find t := by
  intro first second left right leftFound rightFound _ _ sameAddr samePort sameExt
  refine unique first second left right leftFound rightFound ?_
  simp only [NatMapping.endpoints, sameAddr, samePort, sameExt]

theorem samePort_of_unique (wf : WellFormed k fam t) (unique : InternalUnique t)
    (find : CtTuple → Bool) : SamePort k fam find t := by
  intro id mapping found active packet served udp sameAddr samePort range given address
  unfold outboundRange at given
  cases addresses : packet.addresses with
  | none => simp [addresses] at given
  | some pair =>
    obtain ⟨minAddr, maxAddr⟩ := pair
    simp only [addresses, Option.map_some, udp, ne_eq, not_true_eq_false, if_false,
      Option.some.injEq] at given
    subst range
    have spec := selectMapping_spec wf find packet minAddr maxAddr
    cases reused : (selectMapping k fam find packet minAddr maxAddr t).srcMapping with
    | some source =>
      obtain ⟨candidate, candidateFound, looked, -, newrange, -⟩ := spec.reused source reused
      obtain ⟨again, againFound, srcAddr, srcPort, -⟩ := sourceMapping_some looked
      rw [candidateFound, Option.some.injEq] at againFound
      subst again
      rw [newrange] at address ⊢
      have same : source = id := by
        refine unique source id candidate mapping candidateFound found ?_
        simp only [NatMapping.endpoints, Prod.mk.injEq]
        exact ⟨srcAddr.trans sameAddr, srcPort.trans samePort, address⟩
      subst source
      rw [candidateFound, Option.some.injEq] at found
      rw [found]
    | none =>
      -- a live mapping at the chosen address would have been looked up and reused
      obtain ⟨inactive, -, port, newrange, -⟩ := spec.created reused
      rw [newrange] at address
      have looked := noneOverlooked_of_served wf unique find packet minAddr maxAddr served
        udp addresses inactive id mapping found sameAddr.symm samePort.symm address.symm
      exact absurd ⟨id, mapping, looked, found, active⟩ inactive

/-- In every state of every run whose packets over a pool reuse a live mapping or
overlook none, an internal endpoint has one live mapping per external address
and new flows leave from its port. -/
theorem endpoint_independent_mapping (k : Kernel) (events : List Event)
    (honest : ∀ event ∈ events, event.Honest)
    (served : Along (EventSystem.step k) (callGuard (poolCall k)) State.init events) :
    let s := run (EventSystem.step k) State.init events
    ∀ scope : Scope, let find := nfConntrackFindGet s.conntrack scope
      LiveUnique find s.ipv4 ∧ SamePort k ipv4 find s.ipv4 ∧
        LiveUnique find s.ipv6 ∧ SamePort k ipv6 find s.ipv6 := by
  have guarded : Along (EventSystem.step k) (callGuard (servedCall k)) State.init events :=
    along_callGuard_and (along_honest events honest State.init) served
  obtain ⟨⟨wf4, unique4⟩, wf6, unique6⟩ := (internalUnique_invariant k).run events guarded
  intro s scope find
  exact ⟨liveUnique_of_internalUnique unique4 find, samePort_of_unique wf4 unique4 find,
    liveUnique_of_internalUnique unique6 find, samePort_of_unique wf6 unique6 find⟩

/-- A flow of the host's port 5000 over the pool of the router's two addresses. -/
def pooled (dst : Be32) : PostroutingPacket Be32 :=
  { outbound (flowTo dst) wan with range := ⟨NF_NAT_RANGE_MAP_IPS, wan, otherWan, 0, 0⟩ }

theorem pooled_honest (dst : Be32) : SetupHonest ipv4 (pooled dst) := grantRange_honest _ rfl

/-- A pooled flow from empty tables, then a second one that reuses its mapping. -/
def reusingRun : List Event :=
  [.ipv4 (.postrouting (pooled peer)),
    .conntrack [flowConn (flowTo peer) wan 5000 true],
    .ipv4 (.postrouting (pooled otherPeer))]

theorem reusingRun_served :
    Along (EventSystem.step linuxKernel) (callGuard (poolCall linuxKernel)) State.init
      reusingRun := by
  refine ⟨?_, trivial, ?_, trivial⟩
  · intro _ minAddr maxAddr _ _
    exact Or.inr fun id mapping found => nomatch found
  · intro _ minAddr maxAddr addresses _
    cases addresses
    refine Or.inl ⟨0, ⟨5000, wan, host, 5000, 1, [flowTo peer]⟩, ?_⟩
    decide

theorem endpoint_independent_mapping_reusingRun :
    let s := run (EventSystem.step linuxKernel) State.init reusingRun
    ∀ scope : Scope, let find := nfConntrackFindGet s.conntrack scope
      LiveUnique find s.ipv4 ∧ SamePort linuxKernel ipv4 find s.ipv4 ∧
        LiveUnique find s.ipv6 ∧ SamePort linuxKernel ipv6 find s.ipv6 := by
  apply endpoint_independent_mapping linuxKernel reusingRun _ reusingRun_served
  simp [reusingRun, Event.Honest, pooled_honest]

/-- The flow to the second peer is over; its stale mapping at the other address is
the first of the bucket, and hides the live one from the pooled flow. -/
def overlookingRun : List Event :=
  [.ipv4 (.postrouting (outbound (flowTo peer) wan)),
    .conntrack [flowConn (flowTo peer) wan 5000 true],
    .ipv4 (.postrouting (outbound (flowTo otherPeer) otherWan)),
    .ipv4 (.postrouting (pooled thirdPeer)),
    .conntrack [flowConn (flowTo peer) wan 5000 true, flowConn (flowTo thirdPeer) wan 1024 true]]

theorem overlookingRun_duplicates :
    (∀ event ∈ overlookingRun, event.Honest) ∧
      let s := run (EventSystem.step linuxKernel) State.init overlookingRun
      ¬ LiveUnique (nfConntrackFindGet s.conntrack mainScope) s.ipv4 := by
  constructor
  · simp [overlookingRun, Event.Honest, outbound_honest, pooled_honest]
  · intro s unique
    have same : 0 = 2 := unique 0 2 ⟨5000, wan, host, 5000, 1, [flowTo peer]⟩
      ⟨1024, wan, host, 5000, 1, [flowTo thirdPeer]⟩ (by decide) (by decide)
      (by decide) (by decide) rfl rfl rfl
    exact absurd same (by decide)

end OpenwrtSource.Fullcone.EndpointIndependence
