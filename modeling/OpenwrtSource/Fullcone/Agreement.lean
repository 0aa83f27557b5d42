import OpenwrtSource.Fullcone.EndpointIndependence
import OpenwrtSource.Fullcone.LinuxKernel

/-!
# External endpoints are unique

A call carries the mappings over and may create one.  The port search leaves
no mapping at the endpoint it selects, and an honest `nf_nat_setup_info` gives
the new mapping that endpoint, so two mappings never share one.
-/

namespace OpenwrtSource.Fullcone.ExternalEndpoint

open Lib.Run Fullcone.Tuple Fullcone.L3Family Fullcone.Mapping Fullcone.TableEffects
open Fullcone.PortSearch Fullcone.Hooks Fullcone.HookEffects Fullcone.EventSystem
open Fullcone.LinuxKernel

variable {A : Type} [DecidableEq A] {k : Kernel}

variable {fam : Family A} {t : Tables A}

theorem externalUnique_of_created {find : CtTuple → Bool} {packet : PostroutingPacket A}
    {minAddr maxAddr : A} {settled after : Tables A} {port : BitVec 16} (unique : ExternalUnique t)
    (creates : Creates k fam find packet minAddr maxAddr t settled after port)
    (honest : SetupHonest fam packet) : ExternalUnique after := by
  obtain ⟨replyAddr, replyPort⟩ := honest _ _ creates.accepted
  refine UniqueBy.of_added (UniqueBy.of_carries unique creates.shrinks.carries)
    creates.endpoints ?_
  intro id mapping found same
  rw [replyAddr, replyPort, Prod.mk.injEq] at same
  exact creates.free unique id mapping found ⟨same.2, same.1⟩

theorem call_externalUnique (wf : WellFormed k fam t) (unique : ExternalUnique t)
    (find : CtTuple → Bool) (call : Call A) (honest : honestCall A fam find call t) :
    ExternalUnique (call.exec k fam find t) := by
  cases call with
  | prerouting packet => exact UniqueBy.of_carries unique (prerouting_carries wf find packet)
  | postrouting packet =>
    rcases postrouting_cases wf find packet with
      carries | ⟨minAddr, maxAddr, settled, port, creates⟩
    · exact UniqueBy.of_carries unique carries
    · exact externalUnique_of_created unique creates honest
  | lookup scope port extIp =>
    exact UniqueBy.of_carries unique
      (getMappingByExtPort_spec wf find port extIp).shrinks.carries

theorem externalUnique_invariant (k : Kernel) :
    TableInvariant k honestCall fun _ _ fam t => WellFormed k fam t ∧ ExternalUnique t where
  empty _ _ fam := ⟨wellFormed_empty k fam, fun _ _ _ _ found => nomatch found⟩
  call _ _ _ find call _ holds honest :=
    ⟨call_wellFormed holds.1 find call, call_externalUnique holds.1 holds.2 find call honest⟩
  collect _ _ _ item _ holds :=
    have effects := collectTuple_effects holds.1 item
    ⟨effects.1, UniqueBy.of_carries holds.2 effects.2.carries⟩
  destroy _ _ _ _ holds :=
    have effects := destroyMappings_effects holds.1
    ⟨effects.1, UniqueBy.of_carries holds.2 effects.2.1.carries⟩

/-- In every state of every run, two distinct mappings of an L3 protocol never
share an external address and port. -/
theorem external_endpoint_unique (k : Kernel) (events : List Event)
    (honest : ∀ event ∈ events, event.Honest) :
    ExternalUnique (run (EventSystem.step k) State.init events).ipv4 ∧
      ExternalUnique (run (EventSystem.step k) State.init events).ipv6 := by
  obtain ⟨holds4, holds6⟩ :=
    (externalUnique_invariant k).run events (along_honest events honest State.init)
  exact ⟨holds4.2, holds6.2⟩

def twoAddresses : List Event :=
  [.ipv4 (.postrouting (outbound (flowTo peer) wan)),
    .ctEvent 4 (some (flowConn (flowTo peer) wan 5000 true)) true,
    .gc,
    .ipv4 (.postrouting (outbound (flowTo otherPeer) otherWan))]

theorem external_endpoint_unique_twoAddresses :
    ExternalUnique (run (EventSystem.step linuxKernel) State.init twoAddresses).ipv4 ∧
      ExternalUnique (run (EventSystem.step linuxKernel) State.init twoAddresses).ipv6 := by
  apply external_endpoint_unique linuxKernel twoAddresses
  simp [twoAddresses, Event.Honest, outbound_honest]

end OpenwrtSource.Fullcone.ExternalEndpoint

/-!
# Inbound and outbound translation agree

With ranges of a single address both keys of a mapping are unique.  The lookup
by external port then returns the live mapping of an endpoint, the lookup by
internal source returns the same one, and a mapping keeps its endpoints for as
long as it exists.
-/

namespace OpenwrtSource.Fullcone.Agreement

open Lib.Run Fullcone.Tuple Fullcone.L3Family Fullcone.Mapping Fullcone.TableEffects
open Fullcone.PortSearch Fullcone.Hooks Fullcone.HookEffects Fullcone.EventSystem
open Fullcone.LinuxKernel Fullcone.ExternalEndpoint Fullcone.EndpointIndependence

variable {A : Type} [DecidableEq A] {k : Kernel}

/-- No packet of the event is translated over a pool of addresses. -/
def SingleAddress (packet : PostroutingPacket A) : Prop :=
  ∀ minAddr maxAddr, packet.addresses = some (minAddr, maxAddr) → minAddr = maxAddr

def SingleEvent : Event → Prop
  | .ipv4 (.postrouting packet) => SingleAddress packet
  | .ipv6 (.postrouting packet) => SingleAddress packet
  | _ => True

variable {fam : Family A} {t : Tables A}

theorem inboundRange_live (wf : WellFormed k fam t) (unique : ExternalUnique t)
    (find : CtTuple → Bool) (id : Nat) (mapping : NatMapping A) (found : t.heap id = some mapping)
    (active : mapping.originalTupleList.any find = true) (packet : PreroutingPacket A)
    (udp : packet.original.dstProtonum = IPPROTO_UDP) (addr : packet.extAddr fam = mapping.addr)
    (port : packet.extPort = mapping.port) :
    inboundRange k fam find packet t =
      some (singleRange mapping.intAddr mapping.intPort) := by
  have spec := getMappingByExtPort_spec wf find packet.extPort (packet.extAddr fam)
  have some : mapping.originalTupleList.filter find ≠ [] := by
    simpa [List.filter_eq_nil_iff] using active
  obtain ⟨left, leftFound, key, -⟩ := spec.spares id mapping found some
  have leftAddr : left.addr = mapping.addr := congrArg Endpoints.addr key
  have leftPort : left.port = mapping.port := congrArg Endpoints.port key
  cases looked : (getMappingByExtPort k find packet.extPort (packet.extAddr fam) t).1 with
  | none =>
    exact absurd ⟨leftPort.trans port.symm, leftAddr.trans addr.symm⟩
      (getMappingByExtPort_none wf find _ _ looked id left leftFound)
  | some other =>
    obtain ⟨candidate, candidateFound, candidatePort, candidateAddr, -⟩ := spec.hit other looked
    have same : other = id := by
      refine unique other id candidate mapping candidateFound found ?_
      simp only [NatMapping.endpoints, Prod.mk.injEq]
      exact ⟨candidateAddr.trans addr, candidatePort.trans port⟩
    subst other
    have leftIntAddr : left.intAddr = mapping.intAddr := congrArg Endpoints.intAddr key
    have leftIntPort : left.intPort = mapping.intPort := congrArg Endpoints.intPort key
    simp only [inboundRange, udp, ne_eq, not_true_eq_false, if_false, looked,
      Option.bind_some, leftFound, Option.map_some, leftIntAddr, leftIntPort]

theorem inboundRange_some (wf : WellFormed k fam t) (find : CtTuple → Bool)
    (packet : PreroutingPacket A) (range : NatRange A)
    (given : inboundRange k fam find packet t = some range) :
    ∃ id mapping, t.heap id = some mapping ∧ mapping.port = packet.extPort ∧
      mapping.addr = packet.extAddr fam ∧ mapping.originalTupleList.any find = true ∧
        range = singleRange mapping.intAddr mapping.intPort := by
  have spec := getMappingByExtPort_spec wf find packet.extPort (packet.extAddr fam)
  unfold inboundRange at given
  split at given
  · cases given
  · cases looked : (getMappingByExtPort k find packet.extPort (packet.extAddr fam) t).1 with
    | none => simp [looked] at given
    | some id =>
      obtain ⟨mapping, found, port, addr, active, after⟩ := spec.hit id looked
      refine ⟨id, mapping, found, port, addr, active, ?_⟩
      simpa [looked, after, pruned] using given.symm

omit [DecidableEq A] in
theorem singleRange_injective {addr addr' : A} {port port' : BitVec 16}
    (same : singleRange addr port = singleRange addr' port') : addr = addr' ∧ port = port' := by
  simp only [singleRange, NatRange.mk.injEq] at same
  refine ⟨same.2.1, ?_⟩
  rw [← be16ToCpu_cpuToBe16 port, same.2.2.2.1, be16ToCpu_cpuToBe16]

/-- A flow out of the internal endpoint to which a packet is translated, through
the address the packet came to, is given the endpoint the packet came to. -/
def OutboundFollows (k : Kernel) (fam : Family A) (conntrack : List Conn) (t : Tables A) : Prop :=
  ∀ (inPacket : PreroutingPacket A) (outPacket : PostroutingPacket A)
    (intAddr : A) (intPort : BitVec 16),
    inboundRange k fam (nfConntrackFindGet conntrack inPacket.scope) inPacket t =
      some (singleRange intAddr intPort) →
    (outPacket.scope = inPacket.scope ∨
      Taken (nfConntrackFindGet conntrack outPacket.scope) t inPacket.extPort
        (inPacket.extAddr fam)) →
    outPacket.original.dstProtonum = IPPROTO_UDP →
    outPacket.intAddr fam = intAddr → outPacket.intPort = intPort →
    outPacket.addresses = some (inPacket.extAddr fam, inPacket.extAddr fam) →
      outboundRange k fam (nfConntrackFindGet conntrack outPacket.scope) outPacket t =
        some (singleRange (inPacket.extAddr fam) inPacket.extPort)

theorem outboundFollows_of_unique (wf : WellFormed k fam t) (external : ExternalUnique t)
    (internal : InternalUnique t) (conntrack : List Conn) : OutboundFollows k fam conntrack t := by
  intro inPacket outPacket intAddr intPort translated live udp srcAddr srcPort addresses
  obtain ⟨id, mapping, found, port, addr, active, target⟩ :=
    inboundRange_some wf _ inPacket _ translated
  obtain ⟨sameIntAddr, sameIntPort⟩ := singleRange_injective target
  have outActive : mapping.originalTupleList.any
      (nfConntrackFindGet conntrack outPacket.scope) = true := by
    rcases live with sameScope | taken
    · rw [sameScope]
      exact active
    · obtain ⟨other, candidate, candidateFound, candidatePort, candidateAddr, candidateActive⟩ :=
        taken
      have same : other = id := by
        refine external other id candidate mapping candidateFound found ?_
        simp only [NatMapping.endpoints, Prod.mk.injEq]
        exact ⟨candidateAddr.trans addr.symm, candidatePort.trans port.symm⟩
      subst other
      rw [found, Option.some.injEq] at candidateFound
      rw [candidateFound]
      exact candidateActive
  have looked := noneOverlooked_single wf internal outPacket (inPacket.extAddr fam) id mapping
    found (sameIntAddr.symm.trans srcAddr.symm) (sameIntPort.symm.trans srcPort.symm)
    (by simpa [chosenAddress] using addr)
  obtain ⟨selected, -⟩ := selectMapping_reused wf _ outPacket (inPacket.extAddr fam)
    (inPacket.extAddr fam) id mapping looked found outActive
  simp only [outboundRange, addresses, Option.map_some, udp, ne_eq, not_true_eq_false, if_false,
    selected, addr, port]

theorem postrouting_given (wf : WellFormed k fam t) (unique : ExternalUnique t)
    (find : CtTuple → Bool) (packet : PostroutingPacket A) (honest : SetupHonest fam packet)
    (udp : packet.original.dstProtonum = IPPROTO_UDP) (addr : A) (port : BitVec 16)
    (given : outboundRange k fam find packet t = some (singleRange addr port))
    (accepted : (packet.setupInfo (singleRange addr port)).1 = .NF_ACCEPT) :
    let after := (nfNatHandlePostrouting k fam find packet t).2
    (packet.kmallocMapping = true → ∃ id mapping, after.heap id = some mapping ∧
        mapping.endpoints = ⟨addr, port, packet.intAddr fam, packet.intPort⟩) ∧
      ∀ id mapping, after.heap id = some mapping → mapping.addr = addr → mapping.port = port →
        mapping.endpoints = ⟨addr, port, packet.intAddr fam, packet.intPort⟩ := by
  cases addresses : packet.addresses with
  | none => simp [outboundRange, addresses] at given
  | some pair =>
    obtain ⟨minAddr, maxAddr⟩ := pair
    have newrange : (selectMapping k fam find packet minAddr maxAddr t).newrange =
        singleRange addr port := by
      simpa [outboundRange, addresses, udp] using given
    have saved : (nfNatHandlePostrouting k fam find packet t).2 =
        saveMapping k fam packet (selectMapping k fam find packet minAddr maxAddr t).srcMapping
          (packet.setupInfo (singleRange addr port)).2
          (selectMapping k fam find packet minAddr maxAddr t).tables := by
      simp [nfNatHandlePostrouting, addresses, udp, newrange, accepted]
    have spec := selectMapping_spec wf find packet minAddr maxAddr
    have uniqueAfter : ExternalUnique (nfNatHandlePostrouting k fam find packet t).2 :=
      call_externalUnique wf unique find (.postrouting packet) honest
    obtain ⟨replyAddr, replyPort⟩ := honest addr port accepted
    -- the packet's mapping, where there is one, and so any mapping of the endpoint
    have holder : ∀ target held,
        (nfNatHandlePostrouting k fam find packet t).2.heap target = some held →
        held.endpoints = ⟨addr, port, packet.intAddr fam, packet.intPort⟩ →
        ∀ id mapping, (nfNatHandlePostrouting k fam find packet t).2.heap id = some mapping →
          mapping.addr = addr → mapping.port = port →
            mapping.endpoints = ⟨addr, port, packet.intAddr fam, packet.intPort⟩ := by
      intro target held heldFound heldKey id mapping found sameAddr samePort
      have same : id = target := by
        refine uniqueAfter id target mapping held found heldFound ?_
        simp only [heldKey]
        exact Prod.ext sameAddr samePort
      subst id
      rw [found, Option.some.injEq] at heldFound
      rw [heldFound]
      exact heldKey
    have endpoints := saveMapping_endpoints k fam packet
      (selectMapping k fam find packet minAddr maxAddr t).srcMapping
      (packet.setupInfo (singleRange addr port)).2
      (selectMapping k fam find packet minAddr maxAddr t).tables
    rw [← saved, replyAddr, replyPort] at endpoints
    cases reused : (selectMapping k fam find packet minAddr maxAddr t).srcMapping with
    | some source =>
      obtain ⟨mapping, found, looked, -, sameRange, after⟩ := spec.reused source reused
      obtain ⟨sameAddr, samePort⟩ := singleRange_injective (newrange.symm.trans sameRange)
      obtain ⟨candidate, candidateFound, srcAddr, srcPort, -⟩ := sourceMapping_some looked
      rw [found, Option.some.injEq] at candidateFound
      subst candidate
      have key := endpoints source
      rw [if_neg (by simp [reused]), after, Option.map_some, Option.map_eq_some_iff] at key
      obtain ⟨held, heldFound, heldKey⟩ := key
      have heldEndpoints :
          held.endpoints = ⟨addr, port, packet.intAddr fam, packet.intPort⟩ := by
        rw [heldKey, pruned_endpoints, NatMapping.endpoints, sameAddr, samePort, srcAddr,
          srcPort]
      exact ⟨fun _ => ⟨source, held, heldFound, heldEndpoints⟩,
        holder source held heldFound heldEndpoints⟩
    | none =>
      obtain ⟨-, -, searched, sameRange, free⟩ := spec.created reused
      obtain ⟨sameAddr, samePort⟩ := singleRange_injective (newrange.symm.trans sameRange)
      cases kmalloc : packet.kmallocMapping with
      | true =>
        have key := endpoints (selectMapping k fam find packet minAddr maxAddr t).tables.fresh
        rw [if_pos (And.intro reused (And.intro kmalloc rfl)), Option.map_eq_some_iff] at key
        obtain ⟨held, heldFound, heldKey⟩ := key
        exact ⟨fun _ => ⟨_, held, heldFound, heldKey⟩, holder _ held heldFound heldKey⟩
      | false =>
        refine ⟨fun success => absurd success Bool.false_ne_true, ?_⟩
        intro id mapping found matchedAddr matchedPort
        have key := endpoints id
        rw [if_neg (by simp [kmalloc]), found, Option.map_some, eq_comm,
          Option.map_eq_some_iff] at key
        obtain ⟨old, oldFound, oldKey⟩ := key
        have oldAddr : old.addr = mapping.addr := congrArg Endpoints.addr oldKey
        have oldPort : old.port = mapping.port := congrArg Endpoints.port oldKey
        exact absurd ⟨oldPort.trans (matchedPort.trans samePort),
          oldAddr.trans (matchedAddr.trans sameAddr)⟩ (free unique id old oldFound)

/-- A flow that is given an external endpoint has the mapping there, and while
that mapping has a live conntrack, every packet to the endpoint is translated to
the source of the flow. -/
def InboundFollows (k : Kernel) (half : Half A) (s : State) : Prop :=
  ∀ (outPacket : PostroutingPacket A) (addr : A) (port : BitVec 16),
    SetupHonest half.fam outPacket → SingleAddress outPacket →
    outPacket.original.dstProtonum = IPPROTO_UDP →
    outboundRange k half.fam (nfConntrackFindGet s.conntrack outPacket.scope) outPacket
      (half.tables s) = some (singleRange addr port) →
    (outPacket.setupInfo (singleRange addr port)).1 = .NF_ACCEPT →
    let after := EventSystem.step k s (half.event (.postrouting outPacket))
    (outPacket.kmallocMapping = true → ∃ id mapping, (half.tables after).heap id = some mapping ∧
        mapping.addr = addr ∧ mapping.port = port) ∧
      ∀ id mapping, (half.tables after).heap id = some mapping →
        mapping.addr = addr → mapping.port = port →
        ∀ later : List Event, (∀ event ∈ later, event.Honest ∧ SingleEvent event) →
          let final := run (EventSystem.step k) after later
          ∀ left, (half.tables final).heap id = some left →
            ∀ inPacket : PreroutingPacket A,
              left.originalTupleList.any (nfConntrackFindGet final.conntrack inPacket.scope) =
                true →
              inPacket.original.dstProtonum = IPPROTO_UDP →
              inPacket.extAddr half.fam = addr → inPacket.extPort = port →
                inboundRange k half.fam (nfConntrackFindGet final.conntrack inPacket.scope)
                  inPacket (half.tables final) =
                    some (singleRange (outPacket.intAddr half.fam) outPacket.intPort)

theorem inboundFollows_of_reachable (half : Half A) (events : List Event)
    (honest : ∀ event ∈ events, event.Honest) :
    InboundFollows k half (run (EventSystem.step k) State.init events) := by
  intro outPacket addr port granted _ udp given accepted
  obtain ⟨wf, unique⟩ := (externalUnique_invariant k).half half events
    (along_honest events honest State.init)
  obtain ⟨recorded, owned⟩ :=
    postrouting_given wf unique _ outPacket granted udp addr port given accepted
  have stepped := half.exec k (run (EventSystem.step k) State.init events)
    (.postrouting outPacket)
  simp only [Call.exec, Call.scope] at stepped
  rw [← stepped] at recorded owned
  refine ⟨fun kmalloc => ?_, ?_⟩
  · obtain ⟨id, mapping, found, key⟩ := recorded kmalloc
    exact ⟨id, mapping, found, congrArg Endpoints.addr key, congrArg Endpoints.port key⟩
  · intro id mapping found sameAddr samePort later laterHonest final left leftFound inPacket
      active inUdp inAddr inPort
    -- the whole run up to the inbound packet is honest
    have whole : ∀ event ∈ events ++ half.event (.postrouting outPacket) :: later,
        event.Honest := by
      intro event member
      rcases List.mem_append.mp member with early | late
      · exact honest event early
      · rcases List.mem_cons.mp late with same | tail
        · rw [same]
          exact half.honest outPacket granted
        · exact (laterHonest event tail).1
    obtain ⟨finalWf, finalUnique⟩ := (externalUnique_invariant k).half half _
      (along_honest _ whole State.init)
    rw [run_append, run_cons] at finalWf finalUnique
    have afterWf : WellFormed k half.fam (half.tables (EventSystem.step k
        (run (EventSystem.step k) State.init events) (half.event (.postrouting outPacket)))) := by
      rw [half.exec]
      exact call_wellFormed wf _ _
    obtain ⟨-, stable⟩ := (later_relation k).half half _ later (along_anyCall _ _) afterWf
    obtain ⟨before, beforeFound, leftKey⟩ :=
      stable.stable id (afterWf.allocated_lt found) left leftFound
    rw [found, Option.some.injEq] at beforeFound
    subst before
    have key := leftKey.trans (owned id mapping found sameAddr samePort)
    rw [inboundRange_live finalWf finalUnique _ id left leftFound active inPacket inUdp
      (inAddr.trans (congrArg Endpoints.addr key).symm)
      (inPort.trans (congrArg Endpoints.port key).symm)]
    exact congrArg some (congrArg₂ singleRange (congrArg Endpoints.intAddr key)
      (congrArg Endpoints.intPort key))

theorem along_single (k : Kernel) (events : List Event)
    (single : ∀ event ∈ events, SingleEvent event) (s : State) :
    Along (EventSystem.step k) (callGuard (poolCall k)) s events := by
  apply along_of_forall
  intro state event member
  have one := single event member
  rcases event with call | call | _ | _ | _ | _
  · cases call with
    | postrouting packet =>
      exact fun _ minAddr maxAddr addresses pool => absurd (one minAddr maxAddr addresses) pool
    | _ => trivial
  · cases call with
    | postrouting packet =>
      exact fun _ minAddr maxAddr addresses pool => absurd (one minAddr maxAddr addresses) pool
    | _ => trivial
  all_goals trivial

end OpenwrtSource.Fullcone.Agreement
