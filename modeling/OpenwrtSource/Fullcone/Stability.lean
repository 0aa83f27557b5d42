import OpenwrtSource.Fullcone.EndpointIndependence
import OpenwrtSource.Fullcone.Retention

/-!
# Mapping stability

A mapping outlives every step that does not disturb one of its tuples, and its
internal endpoint keeps its port meanwhile.  Three things end this by design: a
conntrack that is not yet confirmed does not protect its mapping from a check,
a packet that finds all ports taken overrides a live mapping, and another
external address has its own mapping with its own port.
-/

namespace OpenwrtSource.Fullcone.Stability

open Lib.Run Fullcone.Tuple Fullcone.L3Family Fullcone.Mapping Fullcone.TableEffects Fullcone.Hooks
open Fullcone.EventSystem Fullcone.Retention Fullcone.EndpointIndependence Fullcone.LinuxKernel

variable {A : Type} [DecidableEq A] {k : Kernel}

/-- The mapping has a recorded tuple that the step does not disturb. -/
def Covered (k : Kernel) (half : Half A) (id : Nat) (endpoints : Endpoints A) (s : State)
    (event : Event) : Prop :=
  ∃ mapping tuple, (half.tables s).heap id = some mapping ∧
    tuple ∈ mapping.originalTupleList ∧ Undisturbed k half id endpoints tuple s event

theorem run_covered (half : Half A) (id : Nat) (endpoints : Endpoints A) (later : List Event)
    (s : State) (wf : WellFormed k ipv4 s.ipv4 ∧ WellFormed k ipv6 s.ipv6)
    (covered : Along (step k) (Covered k half id endpoints) s later) (mapping : NatMapping A)
    (found : (half.tables s).heap id = some mapping) (key : mapping.endpoints = endpoints) :
    ∃ left, (half.tables (run (step k) s later)).heap id = some left ∧
      left.endpoints = endpoints := by
  induction later generalizing s mapping with
  | nil => exact ⟨mapping, found, key⟩
  | cons event rest ih =>
    have halfWf : WellFormed k half.fam (half.tables s) :=
      half.project (fun A _ fam _ after => WellFormed k fam after) s s wf
    obtain ⟨covering, tuple, coveringFound, recorded, undisturbed⟩ := covered.1
    rw [found, Option.some.injEq] at coveringFound
    subst covering
    obtain ⟨next, nextFound, nextKey, -⟩ :=
      step_retains half s event halfWf id tuple
        (fun other otherFound => by
          rw [found, Option.some.injEq] at otherFound
          subst other
          rw [key]
          exact undisturbed)
        mapping found recorded
    exact ih (step k s event) (step_wellFormed s event wf) covered.2 next nextFound
      (nextKey.trans key)

/-- While every step leaves some tuple of the mapping undisturbed, the mapping
stays, and where pooled packets overlook no mapping, new flows of its internal
endpoint through its external address leave from its port. -/
theorem mapping_stable (k : Kernel) (half : Half A) (events later : List Event) (id : Nat)
    (mapping : NatMapping A)
    (found : (half.tables (run (step k) State.init events)).heap id = some mapping)
    (covered : Along (step k) (Covered k half id mapping.endpoints)
      (run (step k) State.init events) later) :
    let s := run (step k) State.init (events ++ later)
    ∃ left, (half.tables s).heap id = some left ∧ left.endpoints = mapping.endpoints ∧
      ((∀ event ∈ events ++ later, event.Honest) →
        Along (step k) (callGuard (poolCall k)) State.init (events ++ later) →
        ∀ packet : PostroutingPacket A, let find := nfConntrackFindGet s.conntrack packet.scope
          left.originalTupleList.any find = true →
          PoolServed k half.fam find packet (half.tables s) →
          packet.original.dstProtonum = IPPROTO_UDP →
          packet.intAddr half.fam = mapping.intAddr → packet.intPort = mapping.intPort →
          ∀ range, outboundRange k half.fam find packet (half.tables s) = some range →
            range.minAddr = mapping.addr → range = singleRange mapping.addr mapping.port) := by
  intro s
  have wf : WellFormed k ipv4 (run (step k) State.init events).ipv4 ∧
      WellFormed k ipv6 (run (step k) State.init events).ipv6 :=
    (wellFormed_invariant k).run events (along_anyCall _ _)
  obtain ⟨left, leftFound, key⟩ :=
    run_covered half id mapping.endpoints later _ wf covered mapping found rfl
  rw [← run_append] at leftFound
  refine ⟨left, leftFound, key, ?_⟩
  intro honest served packet find confirmed packetServed udp srcAddr srcPort range given address
  obtain ⟨finalWf, unique⟩ := (internalUnique_invariant k).half half (events ++ later)
    (along_callGuard_and (along_honest _ honest State.init) served)
  have leftAddr : left.addr = mapping.addr := congrArg Endpoints.addr key
  have leftPort : left.port = mapping.port := congrArg Endpoints.port key
  have leftIntAddr : left.intAddr = mapping.intAddr := congrArg Endpoints.intAddr key
  have leftIntPort : left.intPort = mapping.intPort := congrArg Endpoints.intPort key
  rw [← leftAddr, ← leftPort]
  exact samePort_of_unique finalWf unique find id left leftFound confirmed packet packetServed
    udp (srcAddr.trans leftIntAddr.symm) (srcPort.trans leftIntPort.symm) range given
    (address.trans leftAddr.symm)

/-- A confirmed flow, and what happens around it: an inbound packet, a second flow
of the source, the end of the second flow and the gc. -/
def aroundFlow : List Event :=
  [.ipv4 (.prerouting (inbound (udpTuple thirdPeer 53 wan 5000))),
    .ipv4 (.postrouting (outbound (flowTo otherPeer) wan)),
    .ctEvent 4 (some (flowConn (flowTo otherPeer) wan 5000 true)) true,
    .gc]

theorem mapping_stable_aroundFlow :
    ∃ left, (run (step linuxKernel) State.init (oneFlow ++ aroundFlow)).ipv4.heap 0 = some left ∧
      left.endpoints = ⟨wan, 5000, host, 5000⟩ := by
  let mapping : NatMapping Be32 := ⟨5000, wan, host, 5000, 1, [flowTo peer]⟩
  let second : NatMapping Be32 :=
    ⟨5000, wan, host, 5000, 2, [udpTuple thirdPeer 53 wan 5000, flowTo peer]⟩
  let third : NatMapping Be32 :=
    ⟨5000, wan, host, 5000, 2, [flowTo otherPeer, flowTo peer]⟩
  obtain ⟨left, leftFound, key, -⟩ := mapping_stable linuxKernel half4 oneFlow aroundFlow 0
    mapping (by decide) (by
      refine ⟨⟨mapping, flowTo peer, by decide, by decide, Or.inr ⟨by decide, id⟩⟩,
        ⟨second, flowTo peer, by decide, by decide, Or.inr ⟨by decide, ?_⟩⟩,
        ⟨third, flowTo peer, by decide, by decide, trivial⟩,
        ⟨third, flowTo peer, by decide, by decide, ?_⟩, trivial⟩
      · rintro ⟨-, minAddr, maxAddr, addresses, inactive, -⟩
        cases addresses
        exact inactive ⟨0, second, by decide⟩
      · intro item member _ _
        rw [List.mem_singleton.mp member]
        decide)
  exact ⟨left, leftFound, key⟩

/-- A step destroys no mapping with a recorded tuple whose conntrack exists. -/
def DestroysNoneAlive (k : Kernel) (s : State) (event : Event) : Prop :=
  ∀ id mapping, s.ipv4.heap id = some mapping →
    mapping.originalTupleList.any (alive s.conntrack) = true →
      ∃ left, (step k s event).ipv4.heap id = some left ∧ left.endpoints = mapping.endpoints

/-- An internal endpoint has one port over all mappings with an existing conntrack. -/
def OnePort (s : State) : Prop :=
  ∀ first second left right, s.ipv4.heap first = some left → s.ipv4.heap second = some right →
    left.originalTupleList.any (alive s.conntrack) = true →
      right.originalTupleList.any (alive s.conntrack) = true →
        left.intAddr = right.intAddr → left.intPort = right.intPort → left.port = right.port

/-- Two flows of the host from port 5000 with a random port each; the first one is
not confirmed yet when the second one is set up. -/
def randomised (dst : Be32) (random : BitVec 32) : PostroutingPacket Be32 :=
  { outbound (flowTo dst) wan with range := ⟨NF_NAT_RANGE_PROTO_RANDOM, 0, 0, 0, 0⟩, random }

def unconfirmedRun : List Event :=
  [.ipv4 (.postrouting (randomised peer 1)),
    .conntrack [flowConn (flowTo peer) wan 1025 false],
    .ipv4 (.postrouting (randomised otherPeer 2))]

/-- Two hosts that are given the same one port to leave from. -/
def onePortWide (original : CtTuple) : PostroutingPacket Be32 :=
  { outbound original wan with
    range := ⟨NF_NAT_RANGE_PROTO_SPECIFIED, 0, 0, cpuToBe16 6000, cpuToBe16 6000⟩ }

def overridingRun : List Event :=
  [.ipv4 (.postrouting (onePortWide (flowTo peer))),
    .conntrack [flowConn (flowTo peer) wan 6000 true],
    .ipv4 (.postrouting (onePortWide (udpTuple otherHost 5000 peer 53)))]

/-- Through its second address the router has the port taken by another host. -/
def secondAddressRun : List Event :=
  [.ipv4 (.postrouting (outbound (udpTuple otherHost 5000 peer 53) otherWan)),
    .conntrack [flowConn (udpTuple otherHost 5000 peer 53) otherWan 5000 true],
    .ipv4 (.postrouting (outbound (flowTo peer) wan)),
    .conntrack [flowConn (udpTuple otherHost 5000 peer 53) otherWan 5000 true,
      flowConn (flowTo peer) wan 5000 true],
    .ipv4 (.postrouting (outbound (flowTo otherPeer) otherWan)),
    .conntrack [flowConn (udpTuple otherHost 5000 peer 53) otherWan 5000 true,
      flowConn (flowTo peer) wan 5000 true, flowConn (flowTo otherPeer) otherWan 1024 true]]

theorem unconfirmed_overridden_or_readdressed :
    ¬ Along (step linuxKernel) (DestroysNoneAlive linuxKernel) State.init unconfirmedRun ∧
      ¬ Along (step linuxKernel) (DestroysNoneAlive linuxKernel) State.init overridingRun ∧
        ¬ OnePort (run (step linuxKernel) State.init secondAddressRun) := by
  refine ⟨fun along => ?_, fun along => ?_, fun one => ?_⟩
  · obtain ⟨-, -, atSecond, -⟩ := along
    obtain ⟨left, leftFound, -⟩ := atSecond 0 ⟨1025, wan, host, 5000, 1, [flowTo peer]⟩
      (by decide) (by decide)
    have destroyed : (run (step linuxKernel) State.init unconfirmedRun).ipv4.heap 0 = none := by
      decide
    exact absurd (leftFound.symm.trans destroyed) (fun same => nomatch same)
  · obtain ⟨-, -, atSecond, -⟩ := along
    obtain ⟨left, leftFound, -⟩ := atSecond 0 ⟨6000, wan, host, 5000, 1, [flowTo peer]⟩
      (by decide) (by decide)
    have destroyed : (run (step linuxKernel) State.init overridingRun).ipv4.heap 0 = none := by
      decide
    exact absurd (leftFound.symm.trans destroyed) (fun same => nomatch same)
  · have same : (5000 : BitVec 16) = 1024 :=
      one 1 2 ⟨5000, wan, host, 5000, 1, [flowTo peer]⟩
        ⟨1024, otherWan, host, 5000, 1, [flowTo otherPeer]⟩ (by decide)
        (by decide) (by decide) (by decide) rfl rfl
    exact absurd same (by decide)

end OpenwrtSource.Fullcone.Stability
