import Mathlib.Algebra.BigOperators.Fin
import Mathlib.Algebra.Order.BigOperators.Group.Finset
import Mathlib.Tactic.Ring
import OpenwrtSource.Lib.Run
import OpenwrtSource.Mxl862xx.VlanLedger

/-!
# No VLAN's rules are another's

Over any sequence of calls in which VLANs are added with filtering on, no rule index
has two owners.  A VLAN added with filtering off gets a record without indexes of its
own, and deleting it puts what the record's slot held into the inventory.
-/

namespace OpenwrtSource.Mxl862xx.VlanOwnership

open Lib.Run
open Mxl862xx.VlanRules Mxl862xx.VlanBlock
open Mxl862xx.RulePool Mxl862xx.Driver
open Mxl862xx.BlockLedger Mxl862xx.VlanLedger

variable {β : Type}

/-! ## Calls that do not touch VLANs -/

section Frames

variable (dsa : Dsa)

theorem vlanState_foldl {ι : Type} (step : World β → ι → World β)
    (same : ∀ w i, vlanState (step w i) = vlanState w) (w : World β) (items : List ι) :
    vlanState (items.foldl step w) = vlanState w := by
  induction items generalizing w with
  | nil => rfl
  | cons i rest ih => exact (ih (step w i)).trans (same w i)

theorem vlanState_updatePort (port : Port) (bridge : Option β) (action : Bool) (w : World β)
    (i : Port) : vlanState (updatePort dsa port bridge action w i) = vlanState w := by
  simp only [updatePort]
  split_ifs <;> rfl

theorem vlanState_updateCpuBridgePort (port : Port) (action : Bool) (w : World β) :
    vlanState (updateCpuBridgePort dsa port action w) = vlanState w := by
  simp only [updateCpuBridgePort]
  split_ifs <;> rfl

theorem vlanState_updateBridgeConfPort [DecidableEq β] (port : Port) (bridge : Option β) (action : Bool)
    (w : World β) : vlanState (updateBridgeConfPort dsa port bridge action w) = vlanState w := by
  have looped : ∀ w : World β, vlanState ((List.finRange maxPorts).foldl
      (updatePort dsa port bridge action) w) = vlanState w := fun w =>
    vlanState_foldl _ (vlanState_updatePort dsa port bridge action) w _
  simp only [updateBridgeConfPort]
  split_ifs
  · rw [vlanState_updateCpuBridgePort, looped]
    rfl
  · rw [looped]
    rfl

end Frames

/-! ## VLAN add and delete -/

section Vlans

variable {dsa : Dsa} {fw : Firmware} {port : Port}

def Holds (dsa : Dsa) (ports : Port → PortInfo β) (w : World β) : Prop :=
  Ledger dsa (vlanState w) ∧ w.port = ports

theorem andThen_holds {inv : World β → Prop} {first second : World β → World β × Option Errno}
    (one : ∀ w, inv w → inv (first w).1) (two : ∀ w, inv w → inv (second w).1) (w : World β)
    (before : inv w) : inv (andThen first second w).1 := by
  unfold andThen
  have middle := one w before
  cases ran : first w with
  | mk w' ret =>
    rw [ran] at middle
    cases ret with
    | none => exact two w' middle
    | some e => exact middle

theorem port_allocate (dir : Dir) (w : World β) :
    (allocateExtendedVlanBlock fw port dir w).port = w.port := by
  simp only [allocateExtendedVlanBlock]
  split_ifs <;> rfl

variable {ports : Port → PortInfo β} {w : World β} {dir : Dir} {vid : Nat}

theorem Holds.prepare (holds : Holds dsa ports w) (fresh : BlocksFresh fw) {at' : Port}
    {build : Block → Built} (keeps : Keeps dsa at' dir build) (steady : Steady build) :
    Holds dsa ports (prepare fw at' dir build w).1 :=
  ⟨holds.1.prepare fresh keeps steady, (port_allocate dir w).trans holds.2⟩

/-- Where a VLAN may be added: a user port with filtering on, or the CPU port under
802.1Q tagging. -/
def Served (dsa : Dsa) (ports : Port → PortInfo β) (port : Port) : Prop :=
  if port = dsa.cpuPort then dsa.spTag = true
  else dsa.user port = true ∧ (ports port).filtering = true

theorem Holds.rules (holds : Holds dsa ports w) (fresh : BlocksFresh fw)
    (user : dsa.user port = true) (filtering : (ports port).filtering = true) (nonzero : vid ≠ 0)
    (untagged : Bool) :
    Holds dsa ports (andThen (prepareIngress dsa fw port vid)
      (prepareEgress dsa fw port vid untagged) w).1 := by
  refine andThen_holds ?_ ?_ w holds
  · intro w holds
    have limit : w.maxVlans = maxVlansLimit dsa := holds.1.limit
    have on : (w.port port).filtering = true := by rwa [holds.2]
    simp only [prepareIngress, limit, on]
    cases dsa.spTag with
    | false =>
      exact holds.prepare fresh (keeps_ingressFilters user nonzero _) (steady_ingressFilters _)
    | true =>
      exact holds.prepare fresh (keeps_ingressFiltersSpTag user nonzero _ _)
        (steady_ingressFiltersSpTag _ _)
  · intro w holds
    have limit : w.maxVlans = maxVlansLimit dsa := holds.1.limit
    have on : (w.port port).filtering = true := by rwa [holds.2]
    simp only [prepareEgress, limit, on]
    cases tagging : dsa.spTag with
    | false =>
      exact holds.prepare fresh (keeps_egressFilters user tagging nonzero _)
        (steady_egressFilters _)
    | true =>
      exact holds.prepare fresh (keeps_egressFiltersSpTag user tagging nonzero _)
        (steady_egressFiltersSpTag _)

theorem Holds.ingressCpu (holds : Holds dsa ports w) (fresh : BlocksFresh fw)
    (tagging : dsa.spTag = true) (user : dsa.user port = true) (vids : dsa.standaloneVid port ≠ 0) :
    Holds dsa ports (prepareIngressCpu dsa fw port w).1 := by
  have limit : w.maxVlans = maxVlansLimit dsa := holds.1.limit
  simp only [prepareIngressCpu, limit]
  exact holds.prepare fresh (keeps_ingressFiltersSpTagCpu tagging user vids _)
    (steady_ingressFiltersSpTagCpu _ _)

theorem Holds.egressCpu (holds : Holds dsa ports w) (fresh : BlocksFresh fw)
    (tagging : dsa.spTag = true) (nonzero : vid ≠ 0) (untagged : Bool) :
    Holds dsa ports (prepareEgressCpu dsa fw vid untagged w).1 := by
  have limit : w.maxVlans = maxVlansLimit dsa := holds.1.limit
  simp only [prepareEgressCpu, limit]
  exact holds.prepare fresh (keeps_egressFiltersSpTagCpu tagging nonzero _)
    (steady_egressFiltersSpTagCpu _)

theorem Holds.addVlanRules (holds : Holds dsa ports w) (fresh : BlocksFresh fw)
    (served : Served dsa ports port) (vids : dsa.user port = true → dsa.standaloneVid port ≠ 0)
    (nonzero : vid ≠ 0) (untagged : Bool) :
    Holds dsa ports (addVlanRules dsa fw port vid untagged w).1 := by
  have configured : ∀ w : World β, Holds dsa ports w →
      Holds dsa ports (andThen (ctpPortConfigSet dsa) (updateVlanBridgePort dsa port) w).1 :=
    andThen_holds (fun _ holds => holds) (fun _ holds => holds)
  unfold Served at served
  simp only [Driver.addVlanRules]
  by_cases cpu : port = dsa.cpuPort
  · rw [if_pos cpu] at served
    rw [if_pos served, if_pos cpu]
    exact andThen_holds (fun w holds => holds.egressCpu fresh served nonzero untagged)
      configured w holds
  rw [if_neg cpu] at served
  obtain ⟨user, filtering⟩ := served
  have ruled : ∀ w : World β, Holds dsa ports w → Holds dsa ports (andThen
      (prepareIngress dsa fw port vid) (prepareEgress dsa fw port vid untagged) w).1 :=
    fun w holds => holds.rules fresh user filtering nonzero untagged
  split_ifs with tagging
  · refine andThen_holds ?_ configured w holds
    refine andThen_holds (fun w holds => holds.ingressCpu fresh tagging user (vids user)) ?_
    exact andThen_holds (fun w holds => holds.egressCpu fresh tagging nonzero untagged) ruled
  · exact andThen_holds ruled (fun _ holds => holds) w holds

theorem setPvid_spec (port : Port) (vid : Nat) (pvid : Bool) (w : World β) :
    vlanState (setPvid port vid pvid w) = vlanState w ∧
      ∀ q, ((setPvid port vid pvid w).port q).filtering = (w.port q).filtering := by
  have other : ∀ (info : PortInfo β), info.filtering = (w.port port).filtering →
      ∀ q, ((w.setPort port info).port q).filtering = (w.port q).filtering := by
    intro info same q
    by_cases self : q = port
    · subst self
      simp [World.setPort, same]
    · simp [World.setPort, self]
  simp only [setPvid]
  split_ifs
  · exact ⟨rfl, other _ rfl⟩
  · exact ⟨rfl, other _ rfl⟩
  · exact ⟨rfl, fun _ => rfl⟩

theorem ledger_portVlanAdd (ledger : Ledger dsa (vlanState w)) (fresh : BlocksFresh fw)
    (served : Served dsa w.port port) (vids : dsa.user port = true → dsa.standaloneVid port ≠ 0)
    (vid : Nat) (untagged pvid : Bool) :
    Ledger dsa (vlanState (portVlanAdd dsa fw port vid untagged pvid w).1) := by
  obtain ⟨sameState, sameFiltering⟩ := setPvid_spec port vid pvid w
  have ready : Ledger dsa (vlanState (setPvid port vid pvid w)) := by rwa [sameState]
  simp only [Driver.portVlanAdd]
  split_ifs with zero ingressFull egressFull
  · exact ledger
  · exact ready
  · exact ready
  · have stillServed : Served dsa (setPvid port vid pvid w).port port := by
      unfold Served
      rw [sameFiltering]
      exact served
    have added : Holds dsa (setPvid port vid pvid w).port
        (addVlanRules dsa fw port vid untagged (setPvid port vid pvid w)).1 :=
      Holds.addVlanRules ⟨ready, rfl⟩ fresh stillServed vids zero untagged
    exact added.1

theorem cleared_vlanDelDirection (block : Block) (vid : Nat)
    (idle : Sound dsa port dir { info := block.info, rules := fun _ => deactivated })
    (unused : ∀ i, (block.info.vlans i).used = false) :
    vlanDelDirection vid block = (staticRulesCleanup block, none) ∧
      Cleared dsa port dir block (staticRulesCleanup block) := by
  have missing : block.info.findUsed vid = none := by
    rw [BlockInfo.findUsed, List.find?_eq_none]
    intro i _
    simp [unused i]
  refine ⟨by simp only [vlanDelDirection, missing], ?_⟩
  have final := idle.staticRulesCleanup.final
  have start := idle.final
  unfold staticRulesCleanup at final ⊢
  dsimp only at final start
  split_ifs with none
  · exact ⟨rfl, rfl, rfl, rfl, rfl, start, fun _ => Or.inl rfl⟩
  · rw [if_neg none] at final
    refine ⟨rfl, rfl, rfl, rfl, rfl, final, fun n => ?_⟩
    dsimp only [deactivateFrom]
    split_ifs with inside
    · exact Or.inr ⟨le_trans start inside.1, rfl⟩
    · exact Or.inl rfl

theorem cleared_clearStaticRules {block : Block}
    (idle : Sound dsa port dir { info := block.info, rules := fun _ => deactivated }) :
    Cleared dsa port dir block (clearStaticRules block) := by
  have start := idle.final
  dsimp only at start
  refine ⟨rfl, rfl, rfl, rfl, rfl, le_trans start (le_max_left _ _), fun n => ?_⟩
  dsimp only [clearStaticRules, deactivateFrom]
  split_ifs with inside
  · exact Or.inr ⟨le_trans start inside.1, rfl⟩
  · exact Or.inl rfl

theorem ledger_delDirection (ledger : Ledger dsa (vlanState w)) (present : dsa.present port = true)
    (dir : Dir) (vid : Nat) :
    Ledger dsa (vlanState (onBlock port dir (vlanDelDirection vid) w).1) := by
  cases allocated : (w.block port dir).allocated with
  | true =>
    exact ledger.onBlock allocated (keeps_vlanDelDirection port dir vid)
      (steady_vlanDelDirection vid)
  | false =>
    obtain ⟨idle, unused, unnamed⟩ := (ledger.kept port dir).idle allocated
    let before : Block :=
      { info := w.block port dir, rules := w.rules (w.block port dir).blockId }
    obtain ⟨deleted, cleared⟩ := cleared_vlanDelDirection before vid idle unused
    cases user : dsa.user port with
    | true =>
      refine ledger.onBlock_cleared user allocated ?_
      change Cleared dsa port dir before (vlanDelDirection vid before).1
      rw [deleted]
      exact cleared
    | false =>
      have cpu : port = dsa.cpuPort := by simpa [Dsa.present, user] using present
      have outside : before.info.blockId = 0xffff := unnamed cpu
      have nothing : vlanDelDirection vid before = (before, none) := by
        rw [deleted, staticRulesCleanup, if_pos outside]
      have same : vlanState (onBlock port dir (vlanDelDirection vid) w).1 = vlanState w := by
        change vlanState { w.setBlock port dir (vlanDelDirection vid before).1.info with
          rules := Function.update w.rules (w.block port dir).blockId
            (vlanDelDirection vid before).1.rules } = vlanState w
        rw [nothing]
        simp [vlanState, World.setBlock, before]
      rw [same]
      exact ledger

theorem ledger_portVlanDel (ledger : Ledger dsa (vlanState w)) (present : dsa.present port = true)
    (vid : Nat) : Ledger dsa (vlanState (portVlanDel port vid w).1) :=
  @andThen_holds _ (fun w => Ledger dsa (vlanState w)) _ _
    (fun _ ledger => ledger_delDirection ledger present .ingress vid)
    (fun _ ledger => ledger_delDirection ledger present .egress vid) w ledger

theorem ledger_clearStaticRules (ledger : Ledger dsa (vlanState w)) (user : dsa.user port = true)
    (dir : Dir) : Ledger dsa (vlanState (onBlock port dir (always clearStaticRules) w).1) := by
  cases allocated : (w.block port dir).allocated with
  | true =>
    exact ledger.onBlock allocated (keeps_clearStaticRules port dir)
      (steady_always fun _ => rfl)
  | false =>
    obtain ⟨idle, -, -⟩ := (ledger.kept port dir).idle allocated
    exact ledger.onBlock_cleared user allocated (cleared_clearStaticRules idle)

end Vlans

/-! ## Every call keeps the ledger -/

section Calls

variable [DecidableEq β] {dsa : Dsa} {fw : Firmware} {port : Port} {w : World β}

omit [DecidableEq β] in
theorem served_user (user : dsa.user port = true) {ports : Port → PortInfo β}
    (filtering : (ports port).filtering = true) : Served dsa ports port := by
  have notCpu : port ≠ dsa.cpuPort := by
    rintro rfl
    rw [dsa.cpuNotUser] at user
    cases user
  rw [Served, if_neg notCpu]
  exact ⟨user, filtering⟩

theorem ledger_isolatePort (ledger : Ledger dsa (vlanState w)) (fresh : BlocksFresh fw)
    (user : dsa.user port = true) (vids : dsa.standaloneVid port ≠ 0) :
    Ledger dsa (vlanState (isolatePort dsa fw port w)) := by
  have added : ∀ w : World β, Ledger dsa (vlanState w) → Ledger dsa (vlanState
      (portVlanAdd dsa fw port 1 true true
        (w.setPort port { w.port port with filtering := true })).1) := by
    intro w ledger
    let on := w.setPort port { w.port port with filtering := true }
    have filtering : (on.port port).filtering = true := by simp [on, World.setPort]
    exact ledger_portVlanAdd (w := on) ledger fresh (served_user user filtering) (fun _ => vids)
      1 true true
  have updated : Ledger dsa (vlanState (updateBridgeConfPort dsa port none true
      ((bridgeAlloc fw w).1.setPort port { (bridgeAlloc fw w).1.port port with
        bridgeId := (bridgeAlloc fw w).2, bridge := none }))) := by
    rw [vlanState_updateBridgeConfPort]
    exact ledger
  simp only [isolatePort]
  split_ifs
  · exact ledger
  · exact added _ updated
  · exact added _ updated
  · exact updated
  · exact updated

theorem ledger_deisolatePort (ledger : Ledger dsa (vlanState w)) (user : dsa.user port = true) :
    Ledger dsa (vlanState (deisolatePort dsa port w)) := by
  have updated : Ledger dsa (vlanState (bridgeFree
      ((updateBridgeConfPort dsa port none false w).port port).bridgeId
      (updateBridgeConfPort dsa port none false w))) := by
    change Ledger dsa (vlanState (updateBridgeConfPort dsa port none false w))
    rw [vlanState_updateBridgeConfPort]
    exact ledger
  simp only [deisolatePort]
  split_ifs
  · exact ledger
  · have present : dsa.present port = true := by simp [Dsa.present, user]
    have deleted := ledger_portVlanDel updated present 1
    exact ledger_clearStaticRules (ledger_clearStaticRules deleted user .ingress) user .egress
  · exact updated

omit [DecidableEq β] in
theorem ledger_joinVlanRules (ledger : Ledger dsa (vlanState w)) (fresh : BlocksFresh fw)
    (tagging : dsa.spTag = true) (user : dsa.user port = true) (vids : dsa.standaloneVid port ≠ 0) :
    Ledger dsa (vlanState (joinVlanRules dsa fw port w).1) := by
  let inv := fun w : World β => Ledger dsa (vlanState w)
  have ingressCpu : ∀ w, inv w → inv (prepareIngressCpu dsa fw port w).1 := fun w ledger =>
    (Holds.ingressCpu ⟨ledger, rfl⟩ fresh tagging user vids).1
  have egressCpu : ∀ w, inv w → inv (prepare fw dsa.cpuPort .egress
      (always prepareVlanEgressFiltersOffSpTagCpu) w).1 := fun _ ledger =>
    ledger.prepare fresh (keeps_egressFiltersOffSpTagCpu tagging) (steady_always fun _ => rfl)
  have ingress : ∀ w, inv w → inv (prepare fw port .ingress
      (always (prepareVlanIngressFiltersOffSpTagNoVid (dsa.standaloneVid port))) w).1 :=
    fun _ ledger => ledger.prepare fresh (keeps_ingressFiltersOffSpTagNoVid user _)
      (steady_always fun _ => rfl)
  have egress : ∀ w, inv w → inv (prepare fw port .egress
      (always prepareVlanEgressFiltersOffSpTagNoVid) w).1 := fun _ ledger =>
    ledger.prepare fresh (keeps_egressFiltersOffSpTagNoVid user) (steady_always fun _ => rfl)
  have configured : ∀ w, inv w → inv (ctpPortConfigSet dsa w).1 := fun _ ledger => ledger
  refine @andThen_holds _ inv _ _ ingressCpu ?_ w ledger
  refine andThen_holds egressCpu ?_
  refine andThen_holds ingress ?_
  refine andThen_holds egress ?_
  exact andThen_holds configured (fun _ ledger => ledger)

theorem ledger_portBridgeJoin (ledger : Ledger dsa (vlanState w)) (fresh : BlocksFresh fw)
    (user : dsa.user port = true) (vids : dsa.standaloneVid port ≠ 0) (bridge : β) :
    Ledger dsa (vlanState (portBridgeJoin dsa fw port bridge w)) := by
  have deisolated := ledger_deisolatePort ledger user
  have updated : ∀ (w : World β) (id : Nat), Ledger dsa (vlanState w) →
      Ledger dsa (vlanState (updateBridgeConfPort dsa port (some bridge) true
        (w.setPort port { w.port port with bridgeId := id, bridge := some bridge }))) := by
    intro w id ledger
    rw [vlanState_updateBridgeConfPort]
    exact ledger
  simp only [portBridgeJoin]
  split_ifs with forced tagging new new
  · exact ledger
  · exact ledger_joinVlanRules (updated (bridgeAlloc fw _).1 _ deisolated) fresh tagging user vids
  · exact ledger_joinVlanRules (updated _ _ deisolated) fresh tagging user vids
  · exact updated (bridgeAlloc fw _).1 _ deisolated
  · exact updated _ _ deisolated

theorem ledger_portBridgeLeave (ledger : Ledger dsa (vlanState w)) (fresh : BlocksFresh fw)
    (user : dsa.user port = true) (vids : dsa.standaloneVid port ≠ 0) (bridge : β) :
    Ledger dsa (vlanState (portBridgeLeave dsa fw port bridge w)) := by
  have updated : Ledger dsa (vlanState (updateBridgeConfPort dsa port (some bridge) false w)) := by
    rw [vlanState_updateBridgeConfPort]
    exact ledger
  simp only [portBridgeLeave]
  split_ifs
  · exact ledger_isolatePort (w := bridgeFree _ _) updated fresh user vids
  · exact ledger_isolatePort updated fresh user vids

/-- The condition on a call: a VLAN is added on a port with filtering on. -/
def FilteringOn (dsa : Dsa) (w : World β) : Call β → Prop
  | .vlanAdd port _ _ _ => dsa.present port = true → Served dsa w.port port
  | _ => True

theorem ledger_call (fresh : BlocksFresh fw)
    (vids : ∀ q, dsa.user q = true → dsa.standaloneVid q ≠ 0)
    (w : World β) (c : Call β) (ledger : Ledger dsa (vlanState w)) (on : FilteringOn dsa w c) :
    Ledger dsa (vlanState (call dsa fw w c)) := by
  cases c with
  | join port bridge =>
    simp only [call]
    split_ifs with joins
    · exact ledger_portBridgeJoin (w := setDsaBridge port (some bridge) w) ledger fresh joins.1
        (vids port joins.1) bridge
    · exact ledger
  | leave port =>
    simp only [call]
    cases w.dsaBridge port with
    | none => exact ledger
    | some bridge =>
      dsimp only
      split_ifs with user
      · exact ledger_portBridgeLeave (w := setDsaBridge port none w) ledger fresh user
          (vids port user) bridge
      · exact ledger
  | vlanAdd port vid untagged pvid =>
    simp only [call]
    split_ifs with present
    · exact ledger_portVlanAdd ledger fresh (on present) (vids port) vid untagged pvid
    · exact ledger
  | vlanDel port vid =>
    simp only [call]
    split_ifs with present
    · exact ledger_portVlanDel ledger present vid
    · exact ledger
  | vlanFiltering port on =>
    simp only [call, portVlanFiltering]
    split_ifs <;> exact ledger

theorem pool_limitedBlock (dsa : Dsa) (port : Port) (dir : Dir) :
    Pool (pairedOf dsa dir) (slotsOf (maxVlansLimit dsa)) (capOf dsa port dir)
      (limitedBlock dsa port dir) := by
  have empty : heldCount (limitedBlock dsa port dir) = 0 := by
    simp [heldCount, usedSet, validSet, limitedBlock]
  have none : ∀ h, ¬ live (limitedBlock dsa port dir) h := by
    intro h
    cases h <;> simp [live, limitedBlock]
  refine ⟨min_le_right _ _, capOf_le_slots dsa port dir, fun i used => absurd used (none (.inl i)),
    fun x valid => absurd valid (none (.inr x)), fun i used => absurd used (none (.inl i)),
    fun i _ => rfl, fun i _ used => absurd used (none (.inl i)),
    fun h alive => absurd alive (none h), ⟨fun h alive => absurd alive (none h),
      fun h _ alive => absurd alive (none h)⟩, ?_, ?_⟩
  · rw [empty]
    rfl
  · rw [empty]
    exact Nat.zero_le _

omit [DecidableEq β] in
theorem ledger_powerOn (dsa : Dsa) : Ledger dsa (vlanState (powerOn dsa : World β)) where
  limit := rfl
  kept := by
    intro port dir
    refine ⟨fun allocated => (by cases allocated), fun _ => ⟨⟨rfl, ?_, ?_, ?_, ?_, ?_⟩, ?_, ?_⟩⟩
    · exact pool_limitedBlock dsa port dir
    · have positive := finalRules_pos dsa port dir
      change filtersMaxLimit dsa port dir - finalRulesOf dsa port dir ≤
        filtersMaxLimit dsa port dir - 1
      omega
    · intro i used
      cases used
    · intro i n used
      cases used
    · exact fun n _ => vidOf_deactivated
    · exact fun i => rfl
    · intro cpu
      simp [vlanState, powerOn, limitedBlock, cpu]
  distinct := by
    intro _ _ _ _ allocated
    cases allocated
  fresh := fun _ _ _ => vidOf_deactivated

theorem ledger_setup (fresh : BlocksFresh fw)
    (vids : ∀ q, dsa.user q = true → dsa.standaloneVid q ≠ 0) :
    Ledger dsa (vlanState (setup dsa fw : World β)) := by
  have looped : ∀ (ports : List Port) (w : World β), Ledger dsa (vlanState w) →
      Ledger dsa (vlanState (ports.foldl (setupPort dsa fw) w)) := by
    intro ports
    induction ports with
    | nil => exact fun _ ledger => ledger
    | cons port rest ih =>
      intro w ledger
      refine ih _ ?_
      simp only [setupPort]
      split_ifs with absent
      · exact ledger
      · have user : dsa.user port = true := by simpa using absent
        exact ledger_isolatePort ledger fresh user (vids port user)
  exact looped _ _ (ledger_powerOn dsa)

end Calls

/-! ## The entries of the switch -/

def allocatedSize (w : World β) (port : Port) (dir : Dir) : Nat :=
  if (w.block port dir).allocated then (w.block port dir).filtersMax else 0

def allocatedEntries (w : World β) : Nat :=
  ∑ port : Port, (allocatedSize w port .ingress + allocatedSize w port .egress)

theorem limits_le (dsa : Dsa) :
    ∑ port : Port, (filtersMaxLimit dsa port .ingress + filtersMaxLimit dsa port .egress) ≤
      maxVlanEntries := by
  let m := maxVlansLimit dsa
  let cpu := filtersMaxLimit dsa dsa.cpuPort .ingress + filtersMaxLimit dsa dsa.cpuPort .egress
  have split : ∀ port : Port,
      filtersMaxLimit dsa port .ingress + filtersMaxLimit dsa port .egress =
        (if dsa.user port = true then 8 + 4 * m else 0) + if port = dsa.cpuPort then cpu else 0 := by
    intro port
    by_cases isCpu : port = dsa.cpuPort
    · simp [isCpu, dsa.cpuNotUser, cpu]
    · cases user : dsa.user port with
      | true =>
        simp [filtersMaxLimit, user, isCpu, ingressFinalRules, egressFinalRules, vidRules, m]
        omega
      | false => simp [filtersMaxLimit, user, isCpu]
  have users : ∑ port : Port, (if dsa.user port = true then 8 + 4 * m else 0) ≤
      userPnum dsa * (8 + 4 * m) := by
    rw [← Finset.sum_filter, Finset.sum_const, smul_eq_mul]
    exact Nat.mul_le_mul_right _ card_user_le
  have one : ∑ port : Port, (if port = dsa.cpuPort then cpu else 0) = cpu := by
    simp
  have few := userPnum_le dsa
  have divided : userPnum dsa * (8 + 4 * m) + cpu ≤ maxVlanEntries := by
    simp only [cpu, filtersMaxLimit, dsa.cpuNotUser, m, maxVlansLimit, maxVlanEntries,
      ingressFinalRules, egressFinalRules, vidRules]
    generalize userPnum dsa = p at few ⊢
    cases dsa.spTag with
    | true =>
      have product := Nat.div_mul_le_self (1024 - p * (3 + 5 + 2) - 3) (p * (2 + 2) + 2)
      simp only [if_true, Bool.false_eq_true, if_false]
      generalize (1024 - p * (3 + 5 + 2) - 3) / (p * (2 + 2) + 2) = q at product ⊢
      rw [show q * (p * (2 + 2) + 2) = 4 * (p * q) + 2 * q by ring] at product
      rw [show p * (8 + 4 * q) = 8 * p + 4 * (p * q) by ring]
      omega
    | false =>
      have product := Nat.div_mul_le_self (1024 - p * (3 + 5) - 1) (p * (2 + 2) + 2)
      simp only [Bool.false_eq_true, if_false, if_true]
      generalize (1024 - p * (3 + 5) - 1) / (p * (2 + 2) + 2) = q at product ⊢
      rw [show q * (p * (2 + 2) + 2) = 4 * (p * q) + 2 * q by ring] at product
      rw [show p * (8 + 4 * q) = 8 * p + 4 * (p * q) by ring]
      omega
  calc ∑ port : Port, (filtersMaxLimit dsa port .ingress + filtersMaxLimit dsa port .egress)
      = ∑ port : Port, ((if dsa.user port = true then 8 + 4 * m else 0) +
          if port = dsa.cpuPort then cpu else 0) := Finset.sum_congr rfl fun port _ => split port
    _ = ∑ port : Port, (if dsa.user port = true then 8 + 4 * m else 0) + cpu := by
        rw [Finset.sum_add_distrib, one]
    _ ≤ userPnum dsa * (8 + 4 * m) + cpu := Nat.add_le_add_right users cpu
    _ ≤ maxVlanEntries := divided

/-! ## Ownership -/

structure BlockOwned (dsa : Dsa) (port : Port) (dir : Dir) (info : BlockInfo)
    (rules : Nat → Rule) : Prop where
  distinct : ∀ h h' n, live info h → live info h' → holds info h n → holds info h' n → h = h'
  apart : ∀ h, live info h → (idsOf info h).filter0 ≠ (idsOf info h).filter1
  below : ∀ h n, live info h → holds info h n → n + finalRulesOf dsa port dir < info.filtersMax
  vids : ∀ i j, (info.vlans i).used = true → (info.vlans j).used = true →
    (info.vlans i).vid = (info.vlans j).vid → i = j
  slots : ∀ i, (info.vlans i).used = true → i < maxVlansArray
  own : ∀ i n, (info.vlans i).used = true → holds info (.inl i) n →
    vidOf (rules n) = some (info.vlans i).vid
  finals : info.allocated = true → ∀ n, info.filtersMax ≤ n + finalRulesOf dsa port dir →
    vidOf (rules n) = none

structure RulesOwned (dsa : Dsa) (w : World β) : Prop where
  blocks : ∀ port dir,
    BlockOwned dsa port dir (w.block port dir) (w.rules (w.block port dir).blockId)
  entries : allocatedEntries w ≤ maxVlanEntries

theorem owned_of_ledger {dsa : Dsa} {w : World β} (ledger : Ledger dsa (vlanState w)) :
    RulesOwned dsa w where
  blocks := by
    intro port dir
    have kept := ledger.kept port dir
    have empty : (w.block port dir).allocated = false →
        Sound dsa port dir { info := w.block port dir, rules := fun _ => deactivated } :=
      fun free => (kept.idle free).1
    have some : ∃ rules, Sound dsa port dir { info := w.block port dir, rules := rules } := by
      cases allocated : (w.block port dir).allocated with
      | true => exact ⟨_, (kept.sound allocated).1⟩
      | false => exact ⟨_, empty allocated⟩
    obtain ⟨_, sound⟩ := some
    refine ⟨fun h h' n alive alive' => sound.pool.numbered.distinct h h' alive alive' n,
      fun h alive => (sound.pool.shape h alive).apart, ?_, sound.pool.vidOnce,
      fun i used => sound.pool.used_lt used, ?_, ?_⟩
    · intro h n alive holding
      have below := sound.below alive holding
      have size := sound.size
      dsimp only at size
      rw [zoneStart] at below
      omega
    · intro i n used holding
      cases allocated : (w.block port dir).allocated with
      | true => exact (kept.sound allocated).1.marks i n used holding
      | false =>
        have unused := (kept.idle allocated).2.1 i
        change ((w.block port dir).vlans i).used = false at unused
        rw [unused] at used
        cases used
    · intro allocated n above
      have own := (kept.sound allocated).1
      have size : (w.block port dir).filtersMax = filtersMaxLimit dsa port dir := own.size
      refine own.zone n ?_
      rw [zoneStart]
      omega
  entries := by
    refine le_trans (Finset.sum_le_sum fun port _ => ?_) (limits_le dsa)
    have bound : ∀ dir, allocatedSize w port dir ≤ filtersMaxLimit dsa port dir := by
      intro dir
      rw [allocatedSize]
      split_ifs with allocated
      · exact le_of_eq ((ledger.kept port dir).sound allocated).1.size
      · exact Nat.zero_le _
    exact Nat.add_le_add (bound .ingress) (bound .egress)

instance decidableServed (dsa : Dsa) (ports : Port → PortInfo β) (port : Port) :
    Decidable (Served dsa ports port) :=
  inferInstanceAs (Decidable (if port = dsa.cpuPort then dsa.spTag = true
    else dsa.user port = true ∧ (ports port).filtering = true))

instance decidableFilteringOn (dsa : Dsa) (w : World β) :
    (c : Call β) → Decidable (FilteringOn dsa w c)
  | .join _ _ => .isTrue trivial
  | .leave _ => .isTrue trivial
  | .vlanAdd port _ _ _ =>
    inferInstanceAs (Decidable (dsa.present port = true → Served dsa w.port port))
  | .vlanDel _ _ => .isTrue trivial
  | .vlanFiltering _ _ => .isTrue trivial

/-- In a run whose VLANs are all added on ports with filtering on, every state has each
rule index with one owner. -/
theorem rules_owned [DecidableEq β] (dsa : Dsa) (fw : Firmware) (fresh : BlocksFresh fw)
    (vids : ∀ q, dsa.user q = true → dsa.standaloneVid q ≠ 0) (calls : List (Call β))
    (filtering : Along (call dsa fw) (FilteringOn dsa) (setup dsa fw) calls) :
    RulesOwned dsa (run (call dsa fw) (setup dsa fw) calls) :=
  owned_of_ledger (run_invariant (call dsa fw) (FilteringOn dsa)
    (fun w => Ledger dsa (vlanState w)) (ledger_call fresh vids) (setup dsa fw) calls
    (ledger_setup fresh vids) filtering)

/-! ## A switch with one user port -/

def lan : Port := ⟨0, by decide⟩

def oneUser (spTag : Bool) : Dsa where
  user := fun q => q == lan
  cpuPort := ⟨8, by decide⟩
  cpuNotUser := by decide
  spTag := spTag
  forceIsolate := false
  standaloneVid := fun q => 3072 + q.val

def lowestFree (used : List Nat) : Nat :=
  (((List.range 16).map (· + 1)).find? fun id => !used.contains id).getD (used.sum + 1)

def lowest : Firmware where
  bridge := fun _ used => lowestFree used
  block := fun _ used => used.sum + 1

theorem blocksFresh_lowest : BlocksFresh lowest := by
  intro n used member
  have bounded : used.sum + 1 ≤ used.sum := List.le_sum_of_mem member
  omega

theorem standaloneVid_oneUser (spTag : Bool) (q : Port) (_ : (oneUser spTag).user q = true) :
    (oneUser spTag).standaloneVid q ≠ 0 := by
  change 3072 + q.val ≠ 0
  omega

theorem rules_owned_taggedRun :
    RulesOwned (oneUser true) (run (call (oneUser true) lowest) (setup (oneUser true) lowest)
      [.join lan (), .vlanFiltering lan true, .vlanAdd lan 5 true true,
       .vlanAdd (oneUser true).cpuPort 5 false false, .vlanAdd lan 6 false false, .vlanDel lan 5,
       .vlanDel lan 9, .vlanAdd lan 7 false true, .leave lan]) :=
  rules_owned (oneUser true) lowest blocksFresh_lowest (standaloneVid_oneUser true) _ (by decide)

/-- VLANs 5 and 6 are added with filtering off and deleted; VLANs 7 and 8, added with
filtering on, then get both their rules at entry 0. -/
def offThenOn : List (Call Unit) :=
  [.join lan (), .vlanAdd lan 5 false false, .vlanAdd lan 6 false false, .vlanDel lan 5,
   .vlanDel lan 6, .leave lan, .join lan (), .vlanFiltering lan true,
   .vlanAdd lan 7 false false, .vlanAdd lan 8 false false]

theorem rules_overwritten :
    BlocksFresh lowest ∧ (∀ q, (oneUser false).user q = true →
      (oneUser false).standaloneVid q ≠ 0) ∧
    ¬ RulesOwned (oneUser false)
      (run (call (oneUser false) lowest) (setup (oneUser false) lowest) offThenOn) := by
  refine ⟨blocksFresh_lowest, standaloneVid_oneUser false, fun owned => ?_⟩
  let w := run (call (oneUser false) lowest) (setup (oneUser false) lowest) offThenOn
  have first : (w.block lan .ingress).vlans 0 = { used := true, vid := 7 } := by decide
  have second : (w.block lan .ingress).vlans 1 = { used := true, vid := 8 } := by decide
  have shared := (owned.blocks lan .ingress).distinct (.inl 0) (.inl 1) 0
    (by rw [live, first]) (by rw [live, second])
    (Or.inl (by rw [idsOf, first]; rfl)) (Or.inl (by rw [idsOf, second]; rfl))
  cases shared

end OpenwrtSource.Mxl862xx.VlanOwnership
