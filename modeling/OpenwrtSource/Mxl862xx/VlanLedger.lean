import OpenwrtSource.Mxl862xx.BlockLedger

/-!
# The ledger of all blocks

Each allocated block is well kept in the rules of its own id, and the ids are
distinct.  A deletion on a port that has no block yet goes to block 0, whoever owns
that; it clears entries behind every VLAN's rules.
-/

namespace OpenwrtSource.Mxl862xx.VlanLedger

open Mxl862xx.VlanRules Mxl862xx.VlanBlock
open Mxl862xx.RulePool Mxl862xx.Driver
open Mxl862xx.BlockLedger

def identity (info : BlockInfo) : Bool × Nat := (info.allocated, info.blockId)

def Steady (build : Block → Built) : Prop :=
  ∀ block, identity (build block).1.info = identity block.info

section Steadiness

variable {maxVlans vid : Nat} {untagged : Option Bool} {first second : Rule}

theorem identity_newFilters (known : Bool) (ids : FilterIds) (info : BlockInfo) :
    identity (newFilters maxVlans known ids info).1 = identity info := by
  cases recycled : info.findRecycled with
  | none =>
    simp only [newFilters, recycled]
    cases freeSlot maxVlans info.vlans (List.range maxVlansArray) with
    | error e => rfl
    | ok i =>
      dsimp only
      split_ifs <;> rfl
  | some x =>
    simp only [newFilters, recycled, setRecycled_vlans]
    cases freeSlot maxVlans info.vlans (List.range maxVlansArray) with
    | error e => rfl
    | ok i =>
      dsimp only
      split_ifs <;> rfl

theorem identity_getVlanVidFiltersIdx (maxVlans vid : Nat) (info : BlockInfo) :
    identity (getVlanVidFiltersIdx maxVlans vid info).1 = identity info := by
  simp only [getVlanVidFiltersIdx]
  split
  · split_ifs
    · exact identity_newFilters _ _ info
    · rfl
  · exact identity_newFilters _ _ info

variable (ids : FilterIds) (block : Block) (u : Bool)

theorem identity_takeIdx (filter : Int) :
    identity (block.takeIdx filter).1.info = identity block.info := by
  unfold Block.takeIdx
  split_ifs <;> rfl

theorem identity_writePair (i : Nat) (block : Block) :
    identity (writePair vid untagged first second ids i block).info = identity block.info := by
  have once := identity_takeIdx block ids.filter0
  have twice := identity_takeIdx ((block.takeIdx ids.filter0).1.set
    (block.takeIdx ids.filter0).2 first) ids.filter1
  exact twice.trans once

theorem identity_writeSingle (i : Nat) (block : Block) :
    identity (writeSingle vid untagged first ids i block).info = identity block.info :=
  identity_takeIdx block ids.filter0

theorem identity_withFilters {write : FilterIds → Nat → Block → Block}
    (steady : ∀ ids i block, identity (write ids i block).info = identity block.info)
    (block : Block) :
    identity (withFilters maxVlans vid block write).1.info = identity block.info := by
  have search := identity_getVlanVidFiltersIdx maxVlans vid block.info
  unfold withFilters
  cases found : getVlanVidFiltersIdx maxVlans vid block.info with
  | mk info result =>
    rw [found] at search
    cases result with
    | error e => exact search
    | ok given => exact (steady _ _ _).trans search

theorem steady_always {build : Block → Block}
    (steady : ∀ block, identity (build block).info = identity block.info) :
    Steady (always build) := steady

theorem steady_ingressFilters (pvid : Nat) :
    Steady (prepareVlanIngressFilters maxVlans pvid vid) := fun block =>
  identity_withFilters identity_writePair
    (ingressFinals (pvidRule pvid (push (ofType .noTag) (ofType .noTag) pvid)) block)

theorem steady_ingressFiltersSpTag (spVid pvid : Nat) :
    Steady (prepareVlanIngressFiltersSpTag maxVlans spVid pvid vid) := fun block =>
  identity_withFilters identity_writePair (ingressFinals
    (pvidRule pvid (pushBoth (ofType .noTag) (ofType .noTag) spVid pvid)) block)

theorem steady_ingressFiltersSpTagCpu (spVid bridgePortCpu : Nat) :
    Steady (prepareVlanIngressFiltersSpTagCpu maxVlans spVid bridgePortCpu) :=
  identity_withFilters identity_writePair

theorem steady_egressFilters : Steady (prepareVlanEgressFilters maxVlans vid u) :=
  fun _ => identity_withFilters identity_writePair _

theorem steady_egressFiltersSpTag : Steady (prepareVlanEgressFiltersSpTag maxVlans vid u) := by
  intro block
  refine (identity_withFilters identity_writeSingle _).trans ?_
  cases u <;> rfl

theorem steady_egressFiltersSpTagCpu : Steady (prepareVlanEgressFiltersSpTagCpu maxVlans vid u) :=
  identity_withFilters identity_writeSingle

theorem identity_staticRulesCleanup :
    identity (staticRulesCleanup block).info = identity block.info := by
  unfold staticRulesCleanup
  split_ifs <;> rfl

theorem identity_deactivateRecord :
    identity (deactivateRecord ids block).info = identity block.info := by
  simp only [deactivateRecord]
  split_ifs <;> rfl

theorem steady_vlanDelDirection (vid : Nat) : Steady (vlanDelDirection vid) := by
  intro block
  simp only [vlanDelDirection]
  split
  · exact identity_staticRulesCleanup block
  · rename_i i _
    split
    · exact identity_deactivateRecord _ block
    · split_ifs
      · exact (identity_staticRulesCleanup _).trans (identity_deactivateRecord _ block)
      · exact identity_deactivateRecord _ block

end Steadiness

structure VlanState where
  block : Port → Dir → BlockInfo
  rules : Nat → Nat → Rule
  blocks : List Nat
  maxVlans : Nat

variable {β : Type}

def vlanState (w : World β) : VlanState where
  block := w.block
  rules := w.rules
  blocks := w.blocks
  maxVlans := w.maxVlans

/-- One block: in its own rules once it is allocated, empty before. -/
structure Kept (dsa : Dsa) (port : Port) (dir : Dir) (info : BlockInfo)
    (rules : Nat → Nat → Rule) (blocks : List Nat) : Prop where
  sound : info.allocated = true →
    Sound dsa port dir { info := info, rules := rules info.blockId } ∧ info.blockId ∈ blocks
  idle : info.allocated = false →
    Sound dsa port dir { info := info, rules := fun _ => deactivated } ∧
      (∀ i, (info.vlans i).used = false) ∧ (port = dsa.cpuPort → info.blockId = 0xffff)

structure Ledger (dsa : Dsa) (s : VlanState) : Prop where
  limit : s.maxVlans = maxVlansLimit dsa
  kept : ∀ port dir, Kept dsa port dir (s.block port dir) s.rules s.blocks
  distinct : ∀ port dir port' dir', (s.block port dir).allocated = true →
    (s.block port' dir').allocated = true →
    (s.block port dir).blockId = (s.block port' dir').blockId → port = port' ∧ dir = dir'
  fresh : ∀ id, id ∉ s.blocks → ∀ n, vidOf (s.rules id n) = none

def BlocksFresh (fw : Firmware) : Prop := ∀ n used, fw.block n used ∉ used

section Steps

variable {dsa : Dsa} {fw : Firmware} {port : Port} {dir : Dir} {w : World β}

theorem setBlock_self (w : World β) (port : Port) (dir : Dir) (info : BlockInfo) :
    (w.setBlock port dir info).block port dir = info := by
  simp [World.setBlock]

theorem setBlock_other (w : World β) (info : BlockInfo) {port' : Port} {dir' : Dir}
    (other : ¬ (port' = port ∧ dir' = dir)) :
    (w.setBlock port dir info).block port' dir' = w.block port' dir' := by
  simp only [World.setBlock]
  by_cases same : port' = port
  · subst same
    have apart : dir' ≠ dir := fun h => other ⟨rfl, h⟩
    rw [Function.update_self, Function.update_of_ne apart]
  · rw [Function.update_of_ne same]

theorem Kept.allocate {info : BlockInfo} {rules : Nat → Nat → Rule} {blocks : List Nat} {id : Nat}
    (kept : Kept dsa port dir info rules blocks) (unallocated : info.allocated = false)
    (plain : ∀ n, vidOf (rules id n) = none) :
    Kept dsa port dir { info with allocated := true, blockId := id } rules (id :: blocks) where
  sound := by
    intro _
    obtain ⟨idle, unused, -⟩ := kept.idle unallocated
    refine ⟨⟨idle.size, idle.pool.congr rfl rfl rfl, idle.final, idle.vids, ?_, fun n _ => plain n⟩,
      List.mem_cons_self⟩
    intro i n used
    rw [show (info.vlans i).used = false from unused i] at used
    cases used
  idle := by
    intro free
    cases free

theorem Ledger.allocate (ledger : Ledger dsa (vlanState w)) (fresh : BlocksFresh fw)
    (port : Port) (dir : Dir) :
    Ledger dsa (vlanState (allocateExtendedVlanBlock fw port dir w)) ∧
      ((allocateExtendedVlanBlock fw port dir w).block port dir).allocated = true := by
  unfold allocateExtendedVlanBlock
  by_cases already : (w.block port dir).allocated = true
  · rw [if_pos already]
    exact ⟨ledger, already⟩
  have unallocated : (w.block port dir).allocated = false := by simpa using already
  rw [if_neg already]
  let id := fw.block w.commands w.blocks
  have new : id ∉ w.blocks := fresh _ _
  let info : BlockInfo := { w.block port dir with allocated := true, blockId := id }
  let after := (vlanState (World.setBlock { w with
    blocks := id :: w.blocks, commands := w.commands + 1 } port dir info)).block
  have self : after port dir = info := setBlock_self _ port dir info
  have others : ∀ {port' dir'}, ¬ (port' = port ∧ dir' = dir) →
      after port' dir' = w.block port' dir' := fun other => setBlock_other _ info other
  have elsewhere : ∀ {port' dir'}, (w.block port' dir').allocated = true →
      (w.block port' dir').blockId ≠ id := by
    intro port' dir' allocated same
    exact new (same ▸ ((ledger.kept port' dir').sound allocated).2)
  refine ⟨⟨ledger.limit, ?_, ?_, ?_⟩, by rw [setBlock_self]⟩
  · intro port' dir'
    change Kept dsa port' dir' (after port' dir') w.rules (id :: w.blocks)
    by_cases same : port' = port ∧ dir' = dir
    · obtain ⟨rfl, rfl⟩ := same
      rw [self]
      exact (ledger.kept port' dir').allocate unallocated (ledger.fresh id new)
    · rw [others same]
      have before := ledger.kept port' dir'
      exact ⟨fun allocated => ⟨(before.sound allocated).1,
        List.mem_cons_of_mem _ (before.sound allocated).2⟩, before.idle⟩
  · intro port1 dir1 port2 dir2 allocated1 allocated2 sameId
    change (after port1 dir1).allocated = true at allocated1
    change (after port2 dir2).allocated = true at allocated2
    change (after port1 dir1).blockId = (after port2 dir2).blockId at sameId
    by_cases same1 : port1 = port ∧ dir1 = dir
    · by_cases same2 : port2 = port ∧ dir2 = dir
      · exact ⟨same1.1.trans same2.1.symm, same1.2.trans same2.2.symm⟩
      · obtain ⟨rfl, rfl⟩ := same1
        rw [others same2] at allocated2 sameId
        rw [self] at sameId
        exact absurd sameId.symm (elsewhere allocated2)
    · rw [others same1] at allocated1 sameId
      by_cases same2 : port2 = port ∧ dir2 = dir
      · obtain ⟨rfl, rfl⟩ := same2
        rw [self] at sameId
        exact absurd sameId (elsewhere allocated1)
      · rw [others same2] at allocated2 sameId
        exact ledger.distinct port1 dir1 port2 dir2 allocated1 allocated2 sameId
  · intro id' missing n
    exact ledger.fresh id' (fun listed => missing (List.mem_cons_of_mem _ listed)) n

variable {build : Block → Built}

theorem Ledger.onBlock (ledger : Ledger dsa (vlanState w))
    (allocated : (w.block port dir).allocated = true) (keeps : Keeps dsa port dir build)
    (steady : Steady build) : Ledger dsa (vlanState (onBlock port dir build w).1) := by
  let before : Block := { info := w.block port dir, rules := w.rules (w.block port dir).blockId }
  have same := steady before
  have sameAllocated : (build before).1.info.allocated = (w.block port dir).allocated :=
    congrArg Prod.fst same
  have sameId : (build before).1.info.blockId = (w.block port dir).blockId :=
    congrArg Prod.snd same
  let after := (vlanState (Driver.onBlock port dir build w).1).block
  let rules := (vlanState (Driver.onBlock port dir build w).1).rules
  have self : after port dir = (build before).1.info := setBlock_self _ port dir _
  have others : ∀ {port' dir'}, ¬ (port' = port ∧ dir' = dir) →
      after port' dir' = w.block port' dir' := fun other => setBlock_other _ _ other
  have ownRules : rules (w.block port dir).blockId = (build before).1.rules :=
    Function.update_self _ _ _
  have otherRules : ∀ {id}, id ≠ (w.block port dir).blockId → rules id = w.rules id :=
    fun apart => Function.update_of_ne apart _ _
  obtain ⟨sound, listed⟩ := (ledger.kept port dir).sound allocated
  refine ⟨ledger.limit, ?_, ?_, ?_⟩
  · intro port' dir'
    change Kept dsa port' dir' (after port' dir') rules w.blocks
    by_cases here : port' = port ∧ dir' = dir
    · obtain ⟨rfl, rfl⟩ := here
      rw [self]
      refine ⟨fun _ => ?_, fun free => ?_⟩
      · rw [sameId, ownRules]
        exact ⟨keeps before sound, listed⟩
      · rw [sameAllocated, allocated] at free
        cases free
    · rw [others here]
      have kept := ledger.kept port' dir'
      refine ⟨fun allocated' => ?_, kept.idle⟩
      have apart : (w.block port' dir').blockId ≠ (w.block port dir).blockId := fun sameIds =>
        here (ledger.distinct port' dir' port dir allocated' allocated sameIds)
      rw [otherRules apart]
      exact kept.sound allocated'
  · intro port1 dir1 port2 dir2 allocated1 allocated2 sameIds
    change (after port1 dir1).allocated = true at allocated1
    change (after port2 dir2).allocated = true at allocated2
    change (after port1 dir1).blockId = (after port2 dir2).blockId at sameIds
    have unchanged : ∀ p d, identity (after p d) = identity (w.block p d) := by
      intro p d
      by_cases here : p = port ∧ d = dir
      · obtain ⟨rfl, rfl⟩ := here
        rw [self]
        exact same
      · rw [others here]
    have sameFst : ∀ p d, (after p d).allocated = (w.block p d).allocated := fun p d =>
      congrArg Prod.fst (unchanged p d)
    have sameSnd : ∀ p d, (after p d).blockId = (w.block p d).blockId := fun p d =>
      congrArg Prod.snd (unchanged p d)
    rw [sameFst] at allocated1 allocated2
    rw [sameSnd, sameSnd] at sameIds
    exact ledger.distinct port1 dir1 port2 dir2 allocated1 allocated2 sameIds
  · intro id missing n
    change vidOf (rules id n) = none
    have apart : id ≠ (w.block port dir).blockId := fun sameIds => missing (sameIds ▸ listed)
    rw [otherRules apart]
    exact ledger.fresh id missing n

theorem Ledger.prepare (ledger : Ledger dsa (vlanState w)) (fresh : BlocksFresh fw)
    (keeps : Keeps dsa port dir build) (steady : Steady build) :
    Ledger dsa (vlanState (prepare fw port dir build w).1) := by
  obtain ⟨ready, allocated⟩ := ledger.allocate fresh port dir
  exact ready.onBlock allocated keeps steady

/-- Only rules of the zone are cleared and only `final_filters_idx` moves. -/
structure Cleared (dsa : Dsa) (port : Port) (dir : Dir) (before after : Block) : Prop where
  same : identity after.info = identity before.info
  vlans : after.info.vlans = before.info.vlans
  recycled : after.info.recycled = before.info.recycled
  counter : after.info.vidFiltersIdx = before.info.vidFiltersIdx
  size : after.info.filtersMax = before.info.filtersMax
  final : zoneStart dsa port dir ≤ after.info.finalFiltersIdx
  rules : ∀ n, after.rules n = before.rules n ∨
    (zoneStart dsa port dir ≤ n ∧ after.rules n = deactivated)

theorem Ledger.onBlock_cleared (ledger : Ledger dsa (vlanState w)) (user : dsa.user port = true)
    (unallocated : (w.block port dir).allocated = false) (cleared : Cleared dsa port dir
      { info := w.block port dir, rules := w.rules (w.block port dir).blockId }
      (build { info := w.block port dir, rules := w.rules (w.block port dir).blockId }).1) :
    Ledger dsa (vlanState (Driver.onBlock port dir build w).1) := by
  let before : Block := { info := w.block port dir, rules := w.rules (w.block port dir).blockId }
  let after := (vlanState (Driver.onBlock port dir build w).1).block
  let rules := (vlanState (Driver.onBlock port dir build w).1).rules
  have self : after port dir = (build before).1.info := setBlock_self _ port dir _
  have others : ∀ {port' dir'}, ¬ (port' = port ∧ dir' = dir) →
      after port' dir' = w.block port' dir' := fun other => setBlock_other _ _ other
  have unchanged : ∀ p d, identity (after p d) = identity (w.block p d) := by
    intro p d
    by_cases here : p = port ∧ d = dir
    · obtain ⟨rfl, rfl⟩ := here
      rw [self]
      exact cleared.same
    · rw [others here]
  have sameFst : ∀ p d, (after p d).allocated = (w.block p d).allocated := fun p d =>
    congrArg Prod.fst (unchanged p d)
  have sameSnd : ∀ p d, (after p d).blockId = (w.block p d).blockId := fun p d =>
    congrArg Prod.snd (unchanged p d)
  have ruled : ∀ id n, rules id n = w.rules id n ∨
      (zoneStart dsa port dir ≤ n ∧ rules id n = deactivated) := by
    intro id n
    by_cases own : id = (w.block port dir).blockId
    · rw [own, show rules (w.block port dir).blockId = (build before).1.rules from
        Function.update_self _ _ _]
      exact cleared.rules n
    · exact Or.inl (congrFun (Function.update_of_ne own _ _) n)
  refine ⟨ledger.limit, ?_, ?_, ?_⟩
  · intro port' dir'
    change Kept dsa port' dir' (after port' dir') rules w.blocks
    by_cases here : port' = port ∧ dir' = dir
    · obtain ⟨rfl, rfl⟩ := here
      obtain ⟨idle, unused, -⟩ := (ledger.kept port' dir').idle unallocated
      refine ⟨fun allocated => ?_, fun _ => ⟨?_, ?_, ?_⟩⟩
      · rw [sameFst, unallocated] at allocated
        cases allocated
      · rw [self]
        exact idle.rezone cleared.vlans cleared.recycled cleared.counter cleared.size
          cleared.final (fun _ _ => rfl) (fun _ _ => vidOf_deactivated)
      · rw [self, cleared.vlans]
        exact unused
      · intro cpu
        rw [cpu, dsa.cpuNotUser] at user
        cases user
    · rw [others here]
      have kept := ledger.kept port' dir'
      refine ⟨fun allocated => ?_, kept.idle⟩
      obtain ⟨sound, listed⟩ := kept.sound allocated
      refine ⟨sound.rezone rfl rfl rfl rfl sound.final ?_ ?_, listed⟩
      · intro n below
        have order := zoneStart_le_user dsa user dir port' dir'
        obtain same | ⟨above, -⟩ := ruled (w.block port' dir').blockId n
        · exact same
        · omega
      · intro n above
        dsimp only
        obtain same | ⟨-, dead⟩ := ruled (w.block port' dir').blockId n
        · rw [same]
          exact sound.zone n above
        · rw [dead]
          exact vidOf_deactivated
  · intro port1 dir1 port2 dir2 allocated1 allocated2 sameIds
    change (after port1 dir1).allocated = true at allocated1
    change (after port2 dir2).allocated = true at allocated2
    change (after port1 dir1).blockId = (after port2 dir2).blockId at sameIds
    rw [sameFst] at allocated1 allocated2
    rw [sameSnd, sameSnd] at sameIds
    exact ledger.distinct port1 dir1 port2 dir2 allocated1 allocated2 sameIds
  · intro id missing n
    change vidOf (rules id n) = none
    obtain same | ⟨-, dead⟩ := ruled id n
    · rw [same]
      exact ledger.fresh id missing n
    · rw [dead]
      exact vidOf_deactivated

end Steps

end OpenwrtSource.Mxl862xx.VlanLedger
