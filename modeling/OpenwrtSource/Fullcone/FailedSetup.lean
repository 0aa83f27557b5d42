import OpenwrtSource.Fullcone.PortChoice
import OpenwrtSource.Fullcone.Stability

/-!
# A refused translation

The postrouting hook has searched the tables before `nf_nat_setup_info` can
refuse.  What it leaves: no new mapping, and the live ones with their endpoints
and live tuples, but for a mapping that it has overridden.
-/

namespace OpenwrtSource.Fullcone.FailedSetup

open Lib.Run Fullcone.Tuple Fullcone.L3Family Fullcone.Mapping Fullcone.TableEffects
open Fullcone.PortSearch Fullcone.Hooks Fullcone.HookEffects Fullcone.EventSystem
open Fullcone.LinuxKernel Fullcone.PortChoice Fullcone.Stability

variable {A : Type} [DecidableEq A] {k : Kernel} {fam : Family A}

/-- A live mapping is left with its endpoints and its live tuples. -/
def Left (find : CtTuple → Bool) (id : Nat) (mapping : NatMapping A) (after : Tables A) : Prop :=
  ∃ left, after.heap id = some left ∧ left.endpoints = mapping.endpoints ∧
    left.originalTupleList.filter find = mapping.originalTupleList.filter find

variable {find : CtTuple → Bool} {t : Tables A}

omit [DecidableEq A] in
theorem left_of_spares {before after : Tables A} (spares : Spares find before after) {id : Nat}
    {mapping : NatMapping A} (found : before.heap id = some mapping)
    (active : mapping.originalTupleList.any find = true) : Left find id mapping after :=
  spares id mapping found ((active_iff _ _).mp active)

theorem overridden_left {extIp : A} {victim : BitVec 16} {result : BitVec 16 × Tables A}
    (overridden : Overridden k fam find extIp victim t result) (id : Nat) (mapping : NatMapping A)
    (found : t.heap id = some mapping) (active : mapping.originalTupleList.any find = true)
    (other : ¬ (mapping.port = victim ∧ mapping.addr = extIp)) : Left find id mapping result.2 := by
  have kept : result.2.heap id ≠ none := fun gone =>
    other (overridden_victim overridden id mapping found active gone)
  obtain ⟨walked, wf, shrinks, spares, rfl⟩ := overridden
  have spec := getMappingByExtPort_spec wf find victim extIp
  obtain ⟨left, leftFound, key, list⟩ := left_of_spares (spares.trans spec.spares) found active
  refine ⟨left, ?_, key, list⟩
  cases looked : (getMappingByExtPort k find victim extIp walked).1 with
  | none => exact leftFound
  | some hit =>
    have differs : id ≠ hit := by
      intro same
      simp [looked, killMapping, same] at kept
    simpa [killMapping, differs] using leftFound

theorem findAppropriatePort_left (wf : WellFormed k fam t) (find : CtTuple → Bool)
    (random : BitVec 32) (originalPort : BitVec 16) (extIp : A) (range : NatRange A) (id : Nat)
    (mapping : NatMapping A) (found : t.heap id = some mapping)
    (active : mapping.originalTupleList.any find = true)
    (spared : ¬ SearchOverrides find random originalPort extIp range t mapping.endpoints) :
    Left find id mapping (findAppropriatePort k find random originalPort extIp range t).2 := by
  rcases findAppropriatePort_ends wf find random originalPort extIp range with
    free | ⟨exhausted, overridden⟩
  · exact left_of_spares free.spares found active
  · refine overridden_left overridden id mapping found active fun victim => spared ⟨?_, ?_, victim⟩
    · exact fun tried => exhausted originalPort (Or.inl ⟨tried, rfl⟩)
    · exact fun i bound => exhausted _ (Or.inr ⟨i, bound, rfl⟩)

theorem selectMapping_left (wf : WellFormed k fam t) (find : CtTuple → Bool)
    (packet : PostroutingPacket A) (minAddr maxAddr : A) (id : Nat) (mapping : NatMapping A)
    (found : t.heap id = some mapping) (active : mapping.originalTupleList.any find = true)
    (spared : ¬ (¬ SourceActive k fam find packet minAddr maxAddr t ∧
      SearchOverrides find packet.random packet.intPort
        (chosenAddress k fam packet minAddr maxAddr) packet.range t mapping.endpoints)) :
    Left find id mapping (selectMapping k fam find packet minAddr maxAddr t).tables := by
  obtain ⟨wellFormed, shrinks, spares⟩ := checkedTables_effects wf find
    (sourceMapping k fam packet minAddr maxAddr t)
  by_cases live : SourceActive k fam find packet minAddr maxAddr t
  · obtain ⟨source, sourceMapped, looked, sourceFound, sourceActive⟩ := live
    have selected := (selectMapping_reused wf find packet minAddr maxAddr source sourceMapped
      looked sourceFound sourceActive).1
    rw [looked] at spares
    rw [selected]
    exact left_of_spares spares found active
  · rw [selectMapping_created wf find packet minAddr maxAddr live]
    obtain ⟨checked, checkedFound, key, list⟩ := left_of_spares spares found active
    have checkedActive : checked.originalTupleList.any find = true := by
      rw [active_iff, list, ← active_iff]
      exact active
    obtain ⟨left, leftFound, leftKey, leftList⟩ :=
      findAppropriatePort_left wellFormed find packet.random packet.intPort
        (chosenAddress k fam packet minAddr maxAddr) packet.range id checked checkedFound
        checkedActive fun overrides => by
          rw [key] at overrides
          exact spared ⟨live, overrides.of_shrinks shrinks⟩
    exact ⟨left, leftFound, leftKey.trans key, leftList.trans list⟩

/-- The tables that a packet leaves when its translation is refused. -/
structure Refused (k : Kernel) (fam : Family A) (find : CtTuple → Bool)
    (packet : PostroutingPacket A) (before after : Tables A) : Prop where
  created : ∀ id left, after.heap id = some left → ∃ mapping, before.heap id = some mapping ∧
    left.endpoints = mapping.endpoints ∧
      left.originalTupleList.Sublist mapping.originalTupleList
  kept : ∀ id mapping, before.heap id = some mapping →
    mapping.originalTupleList.any find = true →
      ¬ (Call.postrouting packet).Overrides k fam find before mapping.endpoints →
        Left find id mapping after
  unconsulted : ∀ id mapping, before.heap id = some mapping →
    ¬ (Call.postrouting packet).Consults k fam find before id mapping.endpoints →
      after.heap id = some mapping

theorem postrouting_refused (wf : WellFormed k fam t) (find : CtTuple → Bool)
    (packet : PostroutingPacket A)
    (refused : (nfNatHandlePostrouting k fam find packet t).1 ≠ .NF_ACCEPT) :
    Refused k fam find packet t (nfNatHandlePostrouting k fam find packet t).2 := by
  have frame := postrouting_frame wf find packet
  cases addresses : packet.addresses with
  | none =>
    have same : (nfNatHandlePostrouting k fam find packet t).2 = t := by
      simp only [nfNatHandlePostrouting, addresses]
    rw [same]
    exact ⟨(Shrinks.refl t).survivor, fun id mapping found _ _ => ⟨mapping, found, rfl, rfl⟩,
      fun _ _ found _ => found⟩
  | some range =>
    obtain ⟨minAddr, maxAddr⟩ := range
    by_cases udp : packet.original.dstProtonum = IPPROTO_UDP
    · have spec := selectMapping_spec wf find packet minAddr maxAddr
      have settled : (nfNatHandlePostrouting k fam find packet t).2 =
          (selectMapping k fam find packet minAddr maxAddr t).tables := by
        simp only [nfNatHandlePostrouting, addresses, udp, ne_eq, not_true_eq_false,
          if_false] at refused ⊢
        split at refused
        · rename_i dropped
          rw [if_pos dropped]
        · rename_i accepted
          exact absurd refused accepted
      rw [settled]
      refine ⟨spec.shrinks.survivor, fun id mapping found active spared => ?_,
        fun id mapping found unconsulted => settled ▸ frame id mapping found unconsulted⟩
      refine selectMapping_left wf find packet minAddr maxAddr id mapping found active ?_
      exact fun overrides => spared ⟨udp, minAddr, maxAddr, addresses, overrides⟩
    · have same : (nfNatHandlePostrouting k fam find packet t).2 = t := by
        simp only [nfNatHandlePostrouting, addresses, ne_eq, udp, not_false_eq_true, if_true]
      rw [same]
      exact ⟨(Shrinks.refl t).survivor, fun id mapping found _ _ => ⟨mapping, found, rfl, rfl⟩,
        fun _ _ found _ => found⟩

/-- In every state of every run, a packet whose translation is refused makes no
mapping and leaves the live ones that it does not override. -/
theorem refused_setup_keeps_mappings (k : Kernel) (half : Half A) (events : List Event)
    (packet : PostroutingPacket A)
    (refused : (nfNatHandlePostrouting k half.fam
      (nfConntrackFindGet (run (step k) State.init events).conntrack packet.scope) packet
        (half.tables (run (step k) State.init events))).1 ≠ .NF_ACCEPT) :
    Refused k half.fam
      (nfConntrackFindGet (run (step k) State.init events).conntrack packet.scope) packet
      (half.tables (run (step k) State.init events))
      (half.tables (step k (run (step k) State.init events) (half.event (.postrouting packet)))) := by
  have wf := reachable_wellFormed (k := k) half events
  have exec := half.exec k (run (step k) State.init events) (.postrouting packet)
  rw [exec]
  exact postrouting_refused wf _ packet refused

def refuse (packet : PostroutingPacket Be32) : PostroutingPacket Be32 :=
  { packet with setupInfo := fun _ => (.NF_DROP, packet.original) }

theorem refused_setup_keeps_mappings_oneFlow :
    Refused linuxKernel ipv4
      (nfConntrackFindGet (run (step linuxKernel) State.init oneFlow).conntrack mainScope)
      (refuse (outbound (flowTo otherPeer) wan))
      (run (step linuxKernel) State.init oneFlow).ipv4
      (step linuxKernel (run (step linuxKernel) State.init oneFlow)
        (.ipv4 (.postrouting (refuse (outbound (flowTo otherPeer) wan))))).ipv4 :=
  refused_setup_keeps_mappings linuxKernel half4 oneFlow (refuse (outbound (flowTo otherPeer) wan))
    (by decide)

/-- A refused packet leaves every live mapping with its endpoints and tuples. -/
def LeavesMappings (events : List Event) (packet : PostroutingPacket Be32) : Prop :=
  let s := run (step linuxKernel) State.init events
  let find := nfConntrackFindGet s.conntrack packet.scope
  let after := nfNatHandlePostrouting linuxKernel ipv4 find packet s.ipv4
  after.1 ≠ .NF_ACCEPT → ∀ id mapping, s.ipv4.heap id = some mapping →
    mapping.originalTupleList.any find = true →
      ∃ left, after.2.heap id = some left ∧ left.endpoints = mapping.endpoints ∧
        left.originalTupleList = mapping.originalTupleList

def onePortTaken : List Event :=
  [.ipv4 (.postrouting (onePortWide (flowTo peer))),
    .conntrack [flowConn (flowTo peer) wan 6000 true]]

def oneOfTwoGone : List Event :=
  oneFlow ++ [.ipv4 (.postrouting (outbound (flowTo otherPeer) wan)),
    .conntrack [flowConn (flowTo otherPeer) wan 5000 true]]

theorem refused_setup_overrides_and_prunes :
    ¬ LeavesMappings onePortTaken (refuse (onePortWide (udpTuple otherHost 5000 peer 53))) ∧
      ¬ LeavesMappings oneOfTwoGone (refuse (outbound (flowTo thirdPeer) wan)) := by
  constructor
  · intro leaves
    obtain ⟨left, leftFound, -⟩ := leaves (by decide) 0
      ⟨6000, wan, host, 5000, 1, [flowTo peer]⟩ (by decide) (by decide)
    have destroyed : (nfNatHandlePostrouting linuxKernel ipv4
        (nfConntrackFindGet (run (step linuxKernel) State.init onePortTaken).conntrack mainScope)
        (refuse (onePortWide (udpTuple otherHost 5000 peer 53)))
        (run (step linuxKernel) State.init onePortTaken).ipv4).2.heap 0 = none := by decide
    exact absurd (leftFound.symm.trans destroyed) (fun same => nomatch same)
  · intro leaves
    obtain ⟨left, leftFound, -, list⟩ := leaves (by decide) 0
      ⟨5000, wan, host, 5000, 2, [flowTo otherPeer, flowTo peer]⟩ (by decide) (by decide)
    have shorter : (nfNatHandlePostrouting linuxKernel ipv4
        (nfConntrackFindGet (run (step linuxKernel) State.init oneOfTwoGone).conntrack mainScope)
        (refuse (outbound (flowTo thirdPeer) wan))
        (run (step linuxKernel) State.init oneOfTwoGone).ipv4).2.heap 0 =
          some ⟨5000, wan, host, 5000, 1, [flowTo otherPeer]⟩ := by decide
    have same := Option.some.inj (leftFound.symm.trans shorter)
    rw [same] at list
    exact absurd list (by decide)

end OpenwrtSource.Fullcone.FailedSetup
