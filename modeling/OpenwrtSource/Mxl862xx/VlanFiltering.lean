import OpenwrtSource.Lib.Run
import OpenwrtSource.Mxl862xx.VlanMembers
import OpenwrtSource.Mxl862xx.VlanOwnership

/-!
# VLAN filtering on one port

Under the 8-byte tag a port's blocks are meant to let exactly its VLANs in and out.
The member VLANs with their flags and the PVID are the abstract state; the blocks
follow it as long as additions find room and deletions name a member other than the
PVID.
-/

namespace OpenwrtSource.Mxl862xx.VlanFiltering

open Lib.Run
open Mxl862xx.VlanRules Mxl862xx.VlanBlock
open Mxl862xx.RulePool Mxl862xx.Driver
open Mxl862xx.BlockLedger Mxl862xx.VlanLedger
open Mxl862xx.VlanMembers Mxl862xx.VlanOwnership

/-! ## Membership -/

/-- The member VLANs, each untagged or not, and the PVID. -/
structure Membership where
  member : Nat → Option Bool
  pvid : Option Nat

def noVlans : Membership where
  member := fun _ => none
  pvid := none

inductive VlanCall
  | add (vid : Nat) (untagged pvid : Bool)
  | del (vid : Nat)

def Membership.apply (m : Membership) : VlanCall → Membership
  | .add vid untagged pvid =>
    if vid = 0 then m
    else
      { member := Function.update m.member vid (some untagged)
        pvid := if pvid then some vid else if m.pvid = some vid then none else m.pvid }
  | .del vid =>
    { member := Function.update m.member vid none
      pvid := if m.pvid = some vid then none else m.pvid }

/-! ## One block with its final rules -/

def split (dsa : Dsa) : Nat := vidRules * maxVlansLimit dsa

def tagsOf : Dir → Bool → RemoveTag
  | .ingress => fun _ => .notRemoveTag
  | .egress => untag

def finalCount : Dir → Nat
  | .ingress => ingressFinalRules
  | .egress => egressFinalRules

def lastRule : Dir → Nat → Rule
  | .ingress, pvid => pvidRule pvid (push (ofType .noTag) (ofType .noTag) pvid)
  | .egress, _ => discard .noTag .noTag

structure Finals (dsa : Dsa) (dir : Dir) (pvid : Nat) (rules : Nat → Rule) : Prop where
  double : rules (split dsa) = discard .normal .normal
  single : rules (split dsa + 1) = discard .normal .noTag
  none : rules (split dsa + 2) = lastRule dir pvid

/-- The members' rules, with room for the final ones behind them. -/
structure Files (dsa : Dsa) (port : Port) (dir : Dir) (member : Nat → Option Bool)
    (block : Block) : Prop where
  filed : Filed (tagsOf dir) (slotsOf (maxVlansLimit dsa)) (split dsa) member block
  size : block.info.filtersMax = filtersMaxLimit dsa port dir

section Blocks

variable {dsa : Dsa} {port : Port} {dir : Dir} {member : Nat → Option Bool} {block : Block}

theorem split_add (user : dsa.user port = true) (dir : Dir) :
    filtersMaxLimit dsa port dir = split dsa + finalCount dir := by
  cases dir <;>
    simp [filtersMaxLimit, user, split, finalCount, ingressFinalRules, egressFinalRules] <;> omega

theorem split_lt (user : dsa.user port = true) (dir : Dir) :
    split dsa + 2 < filtersMaxLimit dsa port dir := by
  rw [split_add user dir]
  cases dir <;> simp [finalCount, ingressFinalRules, egressFinalRules]

theorem Files.tagged (files : Files dsa port dir member block) (user : dsa.user port = true)
    {pvid : Nat} (finals : Finals dsa dir pvid block.rules) {frame : Frame} {tag : Tag}
    (outer : frame.outer = some tag) :
    treatment block.rules block.info.filtersMax frame =
      match member tag.vid with
      | some untagged => { removeTag := tagsOf dir untagged }
      | none => { removeTag := .discardUpstream } := by
  have inside := split_lt user dir
  rw [files.size]
  cases inner : frame.inner with
  | some second =>
    have takes : (block.rules (split dsa)).takes frame = true := by
      rw [finals.double, discard_takes, outer, inner]
      rfl
    rw [files.filed.treatment outer (le_refl _) (by omega) (by rw [finals.double]; rfl) takes
      (fun k above below => absurd above (by omega)), finals.double]
    rfl
  | none =>
    have takes : (block.rules (split dsa + 1)).takes frame = true := by
      rw [finals.single, discard_takes, outer, inner]
      rfl
    rw [files.filed.treatment outer (Nat.le_succ _) (by omega) (by rw [finals.single]; rfl) takes
      ?_, finals.single]
    · rfl
    · intro k above below
      obtain rfl : k = split dsa := by omega
      rw [finals.double, discard_takes, outer, inner]
      rfl

theorem Files.untagged (files : Files dsa port dir member block) (user : dsa.user port = true)
    {pvid : Nat} (finals : Finals dsa dir pvid block.rules) :
    treatment block.rules block.info.filtersMax .untagged = (lastRule dir pvid).treatment := by
  have inside := split_lt user dir
  have nobody : ¬ ∃ k < split dsa, (block.rules k).takes .untagged = true := by
    rintro ⟨k, below, taken⟩
    rw [files.filed.takes_untagged below] at taken
    cases taken
  have filters : (lastRule dir pvid).outerVlan = ofType .noTag ∧
      (lastRule dir pvid).innerVlan = ofType .noTag := by
    cases dir with
    | ingress =>
      rw [lastRule, pvidRule]
      split_ifs
      · exact ⟨rfl, rfl⟩
      · exact ⟨rfl, rfl⟩
    | egress => exact ⟨rfl, rfl⟩
  have active : lastRule dir pvid ≠ deactivated := by
    intro same
    rw [same] at filters
    exact absurd filters.1 (by decide)
  have chosen := treatment_of_parts block.rules .untagged {}
    (Nat.le_add_right (split dsa) 2) inside (fun k below taken => absurd ⟨k, below, taken⟩ nobody)
    (by rw [finals.none, Rule.isDefault, filters.1, filters.2]; rfl)
    (by rw [finals.none, Rule.takes, decide_eq_true active, filters.1, filters.2]; rfl)
    (by
      intro k above below
      obtain rfl | rfl : k = split dsa ∨ k = split dsa + 1 := by omega
      · rw [finals.double]
        rfl
      · rw [finals.single]
        rfl)
  rw [if_neg nobody, finals.none] at chosen
  rw [files.size]
  exact chosen

end Blocks

/-! ## Writing a block -/

/-- The search of a slot succeeds: the VLAN has a record, or one is free. -/
def HasSlot (maxVlans vid : Nat) (info : BlockInfo) : Prop :=
  (∃ i < maxVlansArray, (info.vlans i).used = true ∧ (info.vlans i).vid = vid) ∨
    ∃ i < slotsOf maxVlans, (info.vlans i).used = false

instance decidableHasSlot (maxVlans vid : Nat) (info : BlockInfo) :
    Decidable (HasSlot maxVlans vid info) :=
  decidable_of_iff
    ((List.range (slotsOf maxVlans)).any (fun i => !(info.vlans i).used) = true ∨
      (List.range maxVlansArray).any
        (fun i => (info.vlans i).used && decide ((info.vlans i).vid = vid)) = true)
    (by simp [HasSlot, or_comm])

def egressFinals (block : Block) : Block :=
  ((block.setFinal 1 (VlanRules.discard .noTag .noTag)).setFinal 2
    (VlanRules.discard .normal .noTag)).setFinal 3 (VlanRules.discard .normal .normal)

def build (dir : Dir) (maxVlans pvid vid : Nat) (untagged : Bool) : Block → Built :=
  match dir with
  | .ingress => prepareVlanIngressFilters maxVlans pvid vid
  | .egress => prepareVlanEgressFilters maxVlans vid untagged

section Writing

variable {dsa : Dsa} {port : Port} {dir : Dir} {member : Nat → Option Bool} {block : Block}
  {vid : Nat}

theorem Files.setFinal (files : Files dsa port dir member block) (user : dsa.user port = true)
    (back : Nat) (few : back ≤ finalCount dir) (rule : Rule) :
    Files dsa port dir member (block.setFinal back rule) := by
  have place := split_add user dir
  have size := files.size
  exact ⟨files.filed.setFinal (by omega), size⟩

theorem Files.ingressFinals (files : Files dsa port .ingress member block)
    (user : dsa.user port = true) (pvid : Nat) :
    Files dsa port .ingress member (ingressFinals (lastRule .ingress pvid) block) ∧
      Finals dsa .ingress pvid (ingressFinals (lastRule .ingress pvid) block).rules := by
  have step1 := files.setFinal user 1 (by decide) (VlanRules.discard .default .noTag)
  have step2 := step1.setFinal user 2 (by decide) (VlanRules.discard .default .normal)
  have step3 := step2.setFinal user 3 (by decide) (lastRule .ingress pvid)
  have step4 := step3.setFinal user 4 (by decide) (VlanRules.discard .normal .noTag)
  have step5 := step4.setFinal user 5 (by decide) (VlanRules.discard .normal .normal)
  refine ⟨step5, ?_⟩
  have stop : block.info.filtersMax = split dsa + 5 := files.size.trans (split_add user .ingress)
  simp only [VlanBlock.ingressFinals, Block.setFinal, stop]
  refine ⟨Function.update_self _ _ _, ?_, ?_⟩
  · exact (Function.update_of_ne (by omega) _ _).trans (Function.update_self _ _ _)
  · exact ((Function.update_of_ne (by omega) _ _).trans
      (Function.update_of_ne (by omega) _ _)).trans (Function.update_self _ _ _)

theorem Files.egressFinals (files : Files dsa port .egress member block)
    (user : dsa.user port = true) (pvid : Nat) :
    Files dsa port .egress member (egressFinals block) ∧
      Finals dsa .egress pvid (egressFinals block).rules := by
  have step1 := files.setFinal user 1 (by decide) (VlanRules.discard .noTag .noTag)
  have step2 := step1.setFinal user 2 (by decide) (VlanRules.discard .normal .noTag)
  have step3 := step2.setFinal user 3 (by decide) (VlanRules.discard .normal .normal)
  refine ⟨step3, ?_⟩
  have stop : block.info.filtersMax = split dsa + 3 := files.size.trans (split_add user .egress)
  simp only [VlanFiltering.egressFinals, Block.setFinal, stop]
  refine ⟨Function.update_self _ _ _, ?_, ?_⟩
  · exact (Function.update_of_ne (by omega) _ _).trans (Function.update_self _ _ _)
  · exact ((Function.update_of_ne (by omega) _ _).trans
      (Function.update_of_ne (by omega) _ _)).trans (Function.update_self _ _ _)

theorem Files.withFilters (files : Files dsa port dir member block) {pvid : Nat}
    (finals : Finals dsa dir pvid block.rules) (nonzero : vid ≠ 0)
    (slot : HasSlot (maxVlansLimit dsa) vid block.info) (mark : Option Bool) (untagged : Bool) :
    ∃ block', withFilters (maxVlansLimit dsa) vid block (writePair vid mark
        (vlanRule (tagsOf dir untagged) .normal vid)
        (vlanRule (tagsOf dir untagged) .noTag vid)) = (block', none) ∧
      Files dsa port dir (Function.update member vid (some untagged)) block' ∧
      Finals dsa dir pvid block'.rules := by
  have positive : 0 < maxVlansLimit dsa := lt_of_lt_of_le (by omega) (fifteen_le_maxVlans dsa)
  obtain ⟨i, ids, info', taken, built⟩ | ⟨absent, full, -⟩ :=
    withFilters_cases files.filed.pool positive nonzero mark
      (vlanRule (tagsOf dir untagged) .normal vid) (vlanRule (tagsOf dir untagged) .noTag vid)
  · have filed := files.filed.record nonzero taken mark untagged
    refine ⟨_, built, ⟨filed, taken.filtersMax.trans files.size⟩, ?_⟩
    have alive : ((info'.setVlan i ((info'.vlans i).record ids vid mark)).vlans i).used = true := by
      simp [Vlan.record]
    have above : ∀ n, split dsa ≤ n → ¬ Names ids n := by
      intro n after naming
      have below := filed.below (h := .inl i) alive (n := n) (by
        rw [holds, wrote, idsOf_setVlan_self]
        exact naming)
      omega
    have shape := taken.shape files.filed.pool
    refine ⟨?_, ?_, ?_⟩
    · exact (wrote_unnamed shape (above _ (le_refl _))).trans finals.double
    · exact (wrote_unnamed shape (above _ (Nat.le_succ _))).trans finals.single
    · exact (wrote_unnamed shape (above _ (Nat.le_add_right _ _))).trans finals.none
  · obtain ⟨i, -, used, named⟩ | ⟨i, inside, unused⟩ := slot
    · exact absurd named (absent i used)
    · exact absurd (card_usedSet_lt files.filed.pool inside unused) (not_lt.mpr full)

theorem Files.build (files : Files dsa port dir member block) (user : dsa.user port = true)
    (nonzero : vid ≠ 0) (slot : HasSlot (maxVlansLimit dsa) vid block.info) (pvid : Nat)
    (untagged : Bool) :
    ∃ block', build dir (maxVlansLimit dsa) pvid vid untagged block = (block', none) ∧
      Files dsa port dir (Function.update member vid (some untagged)) block' ∧
      Finals dsa dir pvid block'.rules := by
  cases dir with
  | ingress =>
    obtain ⟨ready, finals⟩ := files.ingressFinals user pvid
    exact ready.withFilters finals nonzero slot none untagged
  | egress =>
    obtain ⟨ready, finals⟩ := files.egressFinals user pvid
    exact ready.withFilters finals nonzero slot (some untagged) untagged

theorem Files.delete (files : Files dsa port dir member block) {pvid : Nat}
    (finals : Finals dsa dir pvid block.rules)
    (listed : ∃ i < maxVlansArray - 1, (block.info.vlans i).used = true ∧
      (block.info.vlans i).vid = vid) :
    ∃ block', vlanDelDirection vid block = (block', none) ∧
      Files dsa port dir (Function.update member vid none) block' ∧
      Finals dsa dir pvid block'.rules := by
  obtain ⟨i, early, used, named⟩ := listed
  obtain ⟨absent, -⟩ | ⟨j, x, usedJ, namedJ, below, invalid, deleted⟩ :=
    vlanDelDirection_cases files.filed.pool vid
  · exact absurd named (absent i used)
  · obtain rfl : j = i := files.filed.pool.vidOnce j i usedJ used (namedJ.trans named.symm)
    dsimp only at deleted
    rw [if_neg (by omega)] at deleted
    have above : ∀ n, split dsa ≤ n → ¬ Names (block.info.vlans j).filtersIdx n := by
      intro n after naming
      have inside := files.filed.below (h := .inl j) used naming
      omega
    have shape := files.filed.pool.shape (.inl j) used
    refine ⟨_, deleted, ⟨files.filed.release used named below invalid, files.size⟩, ?_, ?_, ?_⟩
    · exact (deactivateRecord_unnamed shape (above _ (le_refl _))).trans finals.double
    · exact (deactivateRecord_unnamed shape (above _ (Nat.le_succ _))).trans finals.single
    · exact (deactivateRecord_unnamed shape (above _ (Nat.le_add_right _ _))).trans finals.none

end Writing

/-! ## Both blocks of a port -/

section Worlds

variable {β : Type}

def blockAt (w : World β) (port : Port) (dir : Dir) : Block where
  info := w.block port dir
  rules := w.rules (w.block port dir).blockId

/-- A direction's block files its members; before it is allocated there are none. -/
structure Ready (dsa : Dsa) (port : Port) (dir : Dir) (member : Nat → Option Bool)
    (w : World β) : Prop where
  files : (w.block port dir).allocated = true →
    Files dsa port dir member (blockAt w port dir) ∧ (w.block port dir).blockId ∈ w.blocks
  idle : (w.block port dir).allocated = false →
    w.block port dir = limitedBlock dsa port dir ∧ member = fun _ => none

structure Core (dsa : Dsa) (port : Port) (members : Dir → Nat → Option Bool) (w : World β) :
    Prop where
  limit : w.maxVlans = maxVlansLimit dsa
  clean : ∀ id, id ∉ w.blocks → w.rules id = fun _ => deactivated
  ready : ∀ dir, Ready dsa port dir (members dir) w
  apart : (w.block port .ingress).allocated = true → (w.block port .egress).allocated = true →
    (w.block port .ingress).blockId ≠ (w.block port .egress).blockId

variable {dsa : Dsa} {fw : Firmware} {port : Port} {dir dir' : Dir} {w : World β}
  {members : Dir → Nat → Option Bool}

theorem Core.ids_apart (core : Core dsa port members w) (other : dir' ≠ dir)
    (allocated : (w.block port dir).allocated = true)
    (allocated' : (w.block port dir').allocated = true) :
    (w.block port dir').blockId ≠ (w.block port dir).blockId := by
  cases dir <;> cases dir'
  · exact absurd rfl other
  · exact fun same => core.apart allocated allocated' same.symm
  · exact core.apart allocated' allocated
  · exact absurd rfl other

theorem files_limitedBlock (user : dsa.user port = true) (proto : dsa.spTag = false) (id : Nat) :
    Files dsa port dir (fun _ => none)
      { info := { limitedBlock dsa port dir with allocated := true, blockId := id }
        rules := fun _ => deactivated } := by
  have pool := pool_limitedBlock dsa port dir
  have paired : pairedOf dsa dir = true := by
    cases dir <;> simp [pairedOf, proto]
  have cap : capOf dsa port dir = slotsOf (maxVlansLimit dsa) := by simp [capOf, user]
  rw [paired, cap] at pool
  refine ⟨⟨pool.congr rfl rfl rfl, ?_, ?_, ?_, fun _ _ _ => rfl⟩, rfl⟩
  · exact Nat.mul_le_mul_left vidRules (min_le_left _ _)
  · intro vid known
    cases known
  · intro i used
    cases used

/-- What a step on one block leaves of the port's other block and of the records. -/
structure Leaves (port : Port) (dir : Dir) (w w' : World β) : Prop where
  block : ∀ d, d ≠ dir → w'.block port d = w.block port d
  rules : ∀ d, d ≠ dir → (w.block port d).allocated = true →
    blockAt w' port d = blockAt w port d
  port : w'.port = w.port
  bridgePort : w'.bridgePort = w.bridgePort

theorem Leaves.trans {w₁ w₂ w₃ : World β} (first : Leaves port dir w₁ w₂)
    (second : Leaves port dir w₂ w₃) : Leaves port dir w₁ w₃ where
  block := fun d other => (second.block d other).trans (first.block d other)
  rules := by
    intro d other allocated
    have still : (w₂.block port d).allocated = true := by rwa [first.block d other]
    exact (second.rules d other still).trans (first.rules d other allocated)
  port := second.port.trans first.port
  bridgePort := second.bridgePort.trans first.bridgePort

theorem Core.allocate (core : Core dsa port members w) (fresh : BlocksFresh fw)
    (user : dsa.user port = true) (proto : dsa.spTag = false) (dir : Dir) :
    Core dsa port members (allocateExtendedVlanBlock fw port dir w) ∧
      ((allocateExtendedVlanBlock fw port dir w).block port dir).allocated = true ∧
      ((allocateExtendedVlanBlock fw port dir w).block port dir).vlans =
        (w.block port dir).vlans ∧
      Leaves port dir w (allocateExtendedVlanBlock fw port dir w) := by
  unfold allocateExtendedVlanBlock
  by_cases already : (w.block port dir).allocated = true
  · rw [if_pos already]
    exact ⟨core, already, rfl, fun _ _ => rfl, fun _ _ _ => rfl, rfl, rfl⟩
  have free : (w.block port dir).allocated = false := by simpa using already
  rw [if_neg already]
  let id := fw.block w.commands w.blocks
  have new : id ∉ w.blocks := fresh _ _
  let info : BlockInfo := { w.block port dir with allocated := true, blockId := id }
  let after := World.setBlock { w with
    blocks := id :: w.blocks, commands := w.commands + 1 } port dir info
  have self : after.block port dir = info := setBlock_self _ port dir info
  have others : ∀ {d}, d ≠ dir → after.block port d = w.block port d := fun other =>
    setBlock_other _ info fun same => other same.2
  have elsewhere : ∀ {d}, (w.block port d).allocated = true → (w.block port d).blockId ≠ id :=
    fun allocated same => new (same ▸ ((core.ready _).files allocated).2)
  have kept : ∀ d, (w.block port d).allocated = true → blockAt after port d = blockAt w port d := by
    intro d allocated
    have other : d ≠ dir := by
      rintro rfl
      exact already allocated
    simp only [blockAt, others other]
    rfl
  refine ⟨⟨core.limit, ?_, ?_, ?_⟩, by rw [setBlock_self], by rw [setBlock_self],
    fun _ other => others other, fun d _ => kept d, rfl, rfl⟩
  · exact fun id' missing => core.clean id' fun listed => missing (List.mem_cons_of_mem _ listed)
  · intro d
    change Ready dsa port d (members d) after
    by_cases same : d = dir
    · subst same
      obtain ⟨limited, empty⟩ := (core.ready d).idle free
      refine ⟨fun _ => ?_, fun unallocated => ?_⟩
      · have rules : w.rules id = fun _ => deactivated := core.clean id new
        rw [blockAt, self, empty]
        refine ⟨?_, List.mem_cons_self⟩
        change Files dsa port d (fun _ => none) { info := info, rules := w.rules id }
        rw [rules]
        simp only [info, limited]
        exact files_limitedBlock user proto id
      · rw [self] at unallocated
        cases unallocated
    · have ready := core.ready d
      refine ⟨fun allocated => ?_, fun unallocated => ?_⟩
      · rw [others same] at allocated ⊢
        rw [kept d allocated]
        exact ⟨(ready.files allocated).1, List.mem_cons_of_mem _ (ready.files allocated).2⟩
      · rw [others same] at unallocated ⊢
        exact ready.idle unallocated
  · intro allocated1 allocated2 sameId
    change (after.block port .ingress).allocated = true at allocated1
    change (after.block port .egress).allocated = true at allocated2
    change (after.block port .ingress).blockId = (after.block port .egress).blockId at sameId
    cases dir with
    | ingress =>
      have other : Dir.egress ≠ .ingress := by decide
      rw [others other] at allocated2 sameId
      rw [self] at sameId
      exact elsewhere allocated2 sameId.symm
    | egress =>
      have other : Dir.ingress ≠ .egress := by decide
      rw [others other] at allocated1 sameId
      rw [self] at sameId
      exact elsewhere allocated1 sameId

theorem Core.onBlock (core : Core dsa port members w)
    (allocated : (w.block port dir).allocated = true) {step : Block → Built} (steady : Steady step)
    {block' : Block} {member : Nat → Option Bool}
    (steps : step (blockAt w port dir) = (block', none))
    (files : Files dsa port dir member block') :
    (Driver.onBlock port dir step w).2 = none ∧
      Core dsa port (Function.update members dir member) (Driver.onBlock port dir step w).1 ∧
      ((Driver.onBlock port dir step w).1.block port dir).allocated = true ∧
      ((Driver.onBlock port dir step w).1.block port dir).blockId = (w.block port dir).blockId ∧
      blockAt (Driver.onBlock port dir step w).1 port dir = block' ∧
      Leaves port dir w (Driver.onBlock port dir step w).1 := by
  let after := (Driver.onBlock port dir step w).1
  have same : identity block'.info = identity (w.block port dir) := by
    have fixed := steady (blockAt w port dir)
    rwa [steps] at fixed
  have sameAllocated : block'.info.allocated = (w.block port dir).allocated :=
    congrArg Prod.fst same
  have sameId : block'.info.blockId = (w.block port dir).blockId := congrArg Prod.snd same
  have self : after.block port dir = block'.info := by
    change (w.setBlock port dir (step (blockAt w port dir)).1.info).block port dir = block'.info
    rw [setBlock_self, steps]
  have others : ∀ {d}, d ≠ dir → after.block port d = w.block port d := fun other =>
    setBlock_other _ _ fun both => other both.2
  have ownRules : after.rules (w.block port dir).blockId = block'.rules := by
    change Function.update w.rules (w.block port dir).blockId (step (blockAt w port dir)).1.rules
      (w.block port dir).blockId = block'.rules
    rw [Function.update_self, steps]
  have otherRules : ∀ {id}, id ≠ (w.block port dir).blockId → after.rules id = w.rules id :=
    fun apart => Function.update_of_ne apart _ _
  have own : blockAt after port dir = block' := by
    rw [blockAt, self, sameId, ownRules]
  have kept : ∀ d, d ≠ dir → (w.block port d).allocated = true →
      blockAt after port d = blockAt w port d := by
    intro d other allocated'
    rw [blockAt, others other, otherRules (core.ids_apart other allocated allocated')]
    rfl
  have marks : ∀ d, (after.block port d).allocated = (w.block port d).allocated := by
    intro d
    by_cases here : d = dir
    · rw [here, self, sameAllocated]
    · rw [others here]
  have listed := ((core.ready dir).files allocated).2
  refine ⟨congrArg Prod.snd steps, ⟨core.limit, ?_, ?_, ?_⟩, (marks dir).trans allocated,
    by rw [self, sameId], own, fun _ other => others other, kept, rfl, rfl⟩
  · intro id missing
    have apart : id ≠ (w.block port dir).blockId := fun sameIds => missing (sameIds ▸ listed)
    exact (otherRules apart).trans (core.clean id missing)
  · intro d
    by_cases here : d = dir
    · subst here
      rw [Function.update_self]
      refine ⟨fun _ => ?_, fun free => ?_⟩
      · change Files dsa port d member (blockAt after port d) ∧
          (after.block port d).blockId ∈ w.blocks
        rw [own, self, sameId]
        exact ⟨files, listed⟩
      · rw [marks, allocated] at free
        cases free
    · rw [Function.update_of_ne here]
      have ready := core.ready d
      refine ⟨fun allocated' => ?_, fun free => ?_⟩
      · rw [marks] at allocated'
        change Files dsa port d (members d) (blockAt after port d) ∧
          (after.block port d).blockId ∈ w.blocks
        rw [kept d here allocated', others here]
        exact ready.files allocated'
      · rw [marks] at free
        change after.block port d = limitedBlock dsa port d ∧ members d = fun _ => none
        rw [others here]
        exact ready.idle free
  · intro allocated1 allocated2
    rw [marks] at allocated1 allocated2
    have ids : ∀ d, (after.block port d).blockId = (w.block port d).blockId := by
      intro d
      by_cases here : d = dir
      · rw [here, self, sameId]
      · rw [others here]
    change (after.block port .ingress).blockId ≠ (after.block port .egress).blockId
    rw [ids, ids]
    exact core.apart allocated1 allocated2

theorem Core.prepare (core : Core dsa port members w) (fresh : BlocksFresh fw)
    (user : dsa.user port = true) (proto : dsa.spTag = false) {vid : Nat} (nonzero : vid ≠ 0)
    (slot : HasSlot (maxVlansLimit dsa) vid (w.block port dir)) (pvid : Nat) (untagged : Bool) :
    ∃ w', Driver.prepare fw port dir (build dir (maxVlansLimit dsa) pvid vid untagged) w =
        (w', none) ∧
      Core dsa port (Function.update members dir
        (Function.update (members dir) vid (some untagged))) w' ∧
      (w'.block port dir).allocated = true ∧ Finals dsa dir pvid (blockAt w' port dir).rules ∧
      Leaves port dir w w' := by
  obtain ⟨ready, allocated, vlans, left⟩ := core.allocate fresh user proto dir
  have steady : Steady (build dir (maxVlansLimit dsa) pvid vid untagged) := by
    cases dir
    · exact steady_ingressFilters pvid
    · exact steady_egressFilters untagged
  have stillSlot : HasSlot (maxVlansLimit dsa) vid
      ((allocateExtendedVlanBlock fw port dir w).block port dir) := by
    rw [HasSlot, vlans]
    exact slot
  obtain ⟨block', steps, files, finals⟩ :=
    ((ready.ready dir).files allocated).1.build user nonzero stillSlot pvid untagged
  obtain ⟨ok, after, still, -, own, left'⟩ := ready.onBlock allocated steady steps files
  refine ⟨(Driver.onBlock port dir _ (allocateExtendedVlanBlock fw port dir w)).1,
    Prod.ext rfl ok, after, still, ?_, left.trans left'⟩
  rw [own]
  exact finals

end Worlds

/-! ## The calls -/

section Calls

variable {β : Type}

/-- What the switch does with a frame of the port: the rules of the block that the
bridge port has, or nothing. -/
def frameTreatment (w : World β) (port : Port) (dir : Dir) (frame : Frame) : Treatment :=
  match (w.bridgePort (mxlPort port)).vlanBlock dir with
  | none => {}
  | some id => treatment (w.rules id) (w.block port dir).filtersMax frame

def GivesVid (treatment : Treatment) (vid : Nat) : Prop :=
  treatment.removeTag ≠ .discardUpstream ∧ treatment.addOuterVlan = true ∧
    treatment.outerVlan.vidMode = .vidVal ∧ treatment.outerVlan.vidVal = vid

structure Enforces (w : World β) (port : Port) (m : Membership) : Prop where
  ingress : ∀ frame tag, frame.outer = some tag →
    ((frameTreatment w port .ingress frame).removeTag ≠ .discardUpstream ↔
      (m.member tag.vid).isSome)
  untagged : match m.pvid with
    | some pvid => GivesVid (frameTreatment w port .ingress .untagged) pvid
    | none => (frameTreatment w port .ingress .untagged).removeTag = .discardUpstream
  egress : ∀ frame tag, frame.outer = some tag →
    (frameTreatment w port .egress frame).removeTag =
      match m.member tag.vid with
      | none => .discardUpstream
      | some true => .remove1Tag
      | some false => .notRemoveTag

instance decidableForallDir (p : Dir → Prop) [∀ dir, Decidable (p dir)] :
    Decidable (∀ dir, p dir) :=
  decidable_of_iff (p .ingress ∧ p .egress)
    ⟨fun both dir => by
      cases dir
      · exact both.1
      · exact both.2, fun all => ⟨all _, all _⟩⟩

/-- The port's blocks belong to `m`; before the first addition it has none. -/
structure Filing (dsa : Dsa) (port : Port) (m : Membership) (w : World β) : Prop where
  core : Core dsa port (fun _ => m.member) w
  filtering : (w.port port).filtering = true
  pvid : (w.port port).pvid = m.pvid.getD 0
  pvidNonzero : m.pvid ≠ some 0

structure Enforcing (dsa : Dsa) (port : Port) (m : Membership) (w : World β) : Prop
    extends Filing dsa port m w where
  allocated : ∀ dir, (w.block port dir).allocated = true
  finals : ∀ dir, Finals dsa dir (w.port port).pvid (blockAt w port dir).rules
  attached : (w.bridgePort (mxlPort port)).vlanBlock = fun dir => some (w.block port dir).blockId

variable {dsa : Dsa} {fw : Firmware} {port : Port} {m : Membership} {w : World β}

theorem Enforcing.treats (enforcing : Enforcing dsa port m w) (dir : Dir) (frame : Frame) :
    frameTreatment w port dir frame =
      treatment (blockAt w port dir).rules (blockAt w port dir).info.filtersMax frame := by
  rw [frameTreatment, enforcing.attached]
  rfl

theorem Enforcing.enforces (enforcing : Enforcing dsa port m w) (user : dsa.user port = true) :
    Enforces w port m := by
  have files : ∀ dir, Files dsa port dir m.member (blockAt w port dir) := fun dir =>
    ((enforcing.core.ready dir).files (enforcing.allocated dir)).1
  refine ⟨?_, ?_, ?_⟩
  · intro frame tag outer
    rw [enforcing.treats, (files .ingress).tagged user (enforcing.finals .ingress) outer]
    cases m.member tag.vid with
    | none => simp
    | some untagged => simp [tagsOf]
  · rw [enforcing.treats, (files .ingress).untagged user (enforcing.finals .ingress),
      enforcing.pvid]
    have nonzero := enforcing.pvidNonzero
    cases pvid : m.pvid with
    | none => rfl
    | some vid =>
      have positive : vid ≠ 0 := by
        rintro rfl
        exact nonzero pvid
      rw [Option.getD_some, lastRule, pvidRule, if_neg positive]
      exact ⟨RemoveTag.noConfusion, rfl, rfl, rfl⟩
  · intro frame tag outer
    rw [enforcing.treats, (files .egress).tagged user (enforcing.finals .egress) outer]
    cases m.member tag.vid with
    | none => rfl
    | some untagged => cases untagged <;> rfl

theorem setPvid_pvid (vid : Nat) (pvid : Bool) (nonzero : vid ≠ 0)
    (before : (w.port port).pvid = m.pvid.getD 0) (was : m.pvid ≠ some 0) (untagged : Bool) :
    ((setPvid port vid pvid w).port port).pvid =
        (m.apply (.add vid untagged pvid)).pvid.getD 0 ∧
      (m.apply (.add vid untagged pvid)).pvid ≠ some 0 := by
  simp only [setPvid, Membership.apply, if_neg nonzero]
  cases pvid with
  | true =>
    simp only [if_true]
    exact ⟨by simp [World.setPort], by simpa using nonzero⟩
  | false =>
    simp only [Bool.false_eq_true, if_false]
    rw [before]
    cases current : m.pvid with
    | none =>
      rw [Option.getD_none, if_neg (Ne.symm nonzero), if_neg (by simp)]
      exact ⟨before.trans (by rw [current]), by simp⟩
    | some old =>
      rw [Option.getD_some]
      by_cases same : old = vid
      · rw [if_pos same, if_pos (congrArg some same)]
        exact ⟨by simp [World.setPort], by simp⟩
      · rw [if_neg same, if_neg (by simpa using same)]
        exact ⟨before.trans (by rw [current]), by rwa [← current]⟩

structure HasRoom (port : Port) (vid : Nat) (w : World β) (dir : Dir) : Prop where
  entries : ¬ BlockInfo.lacksRoom (w.block port dir)
  slot : HasSlot w.maxVlans vid (w.block port dir)

theorem Filing.add (filing : Filing dsa port m w) (fresh : BlocksFresh fw)
    (user : dsa.user port = true) (proto : dsa.spTag = false) {vid : Nat} (nonzero : vid ≠ 0)
    (untagged pvid : Bool) (room : ∀ dir, HasRoom port vid w dir) :
    Enforcing dsa port (m.apply (.add vid untagged pvid))
      (portVlanAdd dsa fw port vid untagged pvid w).1 := by
  have notCpu : port ≠ dsa.cpuPort := by
    rintro rfl
    rw [dsa.cpuNotUser] at user
    cases user
  let start := setPvid port vid pvid w
  obtain ⟨sameState, sameFiltering⟩ := setPvid_spec port vid pvid w
  have sameBlock : start.block = w.block := congrArg VlanState.block sameState
  have sameMax : start.maxVlans = w.maxVlans := congrArg VlanState.maxVlans sameState
  have limit : start.maxVlans = maxVlansLimit dsa := sameMax.trans filing.core.limit
  have core : Core dsa port (fun _ => m.member) start := by
    have rules : start.rules = w.rules := congrArg VlanState.rules sameState
    have blocks : start.blocks = w.blocks := congrArg VlanState.blocks sameState
    refine ⟨limit, ?_, fun dir => ⟨?_, ?_⟩, ?_⟩
    · rw [rules, blocks]
      exact filing.core.clean
    · rw [blockAt, sameBlock, rules, blocks]
      exact (filing.core.ready dir).files
    · rw [sameBlock]
      exact (filing.core.ready dir).idle
    · rw [sameBlock]
      exact filing.core.apart
  have on : (start.port port).filtering = true := (sameFiltering port).trans filing.filtering
  have slot : ∀ dir, HasSlot (maxVlansLimit dsa) vid (start.block port dir) := by
    intro dir
    rw [sameBlock, ← filing.core.limit]
    exact (room dir).slot
  obtain ⟨w1, ran1, core1, allocated1, finals1, left1⟩ :=
    core.prepare fresh user proto nonzero (slot .ingress) (start.port port).pvid untagged
  have slot2 : HasSlot (maxVlansLimit dsa) vid (w1.block port .egress) := by
    rw [left1.block .egress (by decide)]
    exact slot .egress
  obtain ⟨w2, ran2, core2, allocated2, finals2, left2⟩ :=
    core1.prepare fresh user proto nonzero slot2 (start.port port).pvid untagged
  have sameIngress : w2.block port .ingress = w1.block port .ingress :=
    left2.block .ingress (by decide)
  let w3 := (updateVlanBridgePort dsa port w2).1
  have ran : portVlanAdd dsa fw port vid untagged pvid w = (w3, none) := by
    have first : prepareIngress dsa fw port vid start = (w1, none) := by
      rw [← ran1]
      simp only [prepareIngress, proto, on, limit]
      rfl
    have second : prepareEgress dsa fw port vid untagged w1 = (w2, none) := by
      rw [← ran2]
      simp only [prepareEgress, proto, left1.port, on, core1.limit]
      rfl
    rw [portVlanAdd, if_neg nonzero]
    change (if BlockInfo.lacksRoom (start.block port .ingress) then (start, some Errno.nospc)
      else if BlockInfo.lacksRoom (start.block port .egress) then (start, some Errno.nospc)
      else addVlanRules dsa fw port vid untagged start) = (w3, none)
    rw [sameBlock, if_neg (room .ingress).entries, if_neg (room .egress).entries]
    simp only [addVlanRules, proto, Bool.false_eq_true, if_false, if_neg notCpu, andThen, first,
      second]
    rfl
  rw [ran]
  have members : (Function.update (Function.update (fun _ => m.member) Dir.ingress
      (Function.update m.member vid (some untagged))) .egress
      (Function.update (Function.update (fun _ => m.member) Dir.ingress
        (Function.update m.member vid (some untagged)) .egress) vid (some untagged))) =
      fun _ => (m.apply (.add vid untagged pvid)).member := by
    funext dir
    rw [Membership.apply, if_neg nonzero]
    cases dir <;> rfl
  rw [members] at core2
  have ports : w3.port = start.port := left2.port.trans left1.port
  obtain ⟨pvidAfter, pvidPositive⟩ :=
    setPvid_pvid vid pvid nonzero filing.pvid filing.pvidNonzero untagged
  have samePvid : (w3.port port).pvid = (start.port port).pvid := by rw [ports]
  have enforced : Filing dsa port (m.apply (.add vid untagged pvid)) w3 :=
    ⟨⟨core2.limit, core2.clean, fun dir => ⟨(core2.ready dir).files, (core2.ready dir).idle⟩,
      core2.apart⟩, by rw [ports]; exact on, samePvid.trans pvidAfter, pvidPositive⟩
  refine ⟨enforced, ?_, ?_, ?_⟩
  · intro dir
    cases dir with
    | ingress =>
      change (w2.block port .ingress).allocated = true
      rw [sameIngress]
      exact allocated1
    | egress => exact allocated2
  · intro dir
    rw [samePvid]
    cases dir with
    | ingress =>
      change Finals dsa .ingress _ (blockAt w2 port .ingress).rules
      rw [left2.rules .ingress (by decide) allocated1]
      exact finals1
    | egress => exact finals2
  · change ((Function.update w2.bridgePort (mxlPort port) _) (mxlPort port)).vlanBlock = _
    rw [Function.update_self]
    rfl

/-- The record of the VLAN is in front of the array's last one. -/
def HasRecord (vid : Nat) (info : BlockInfo) : Prop :=
  ∃ i < maxVlansArray - 1, (info.vlans i).used = true ∧ (info.vlans i).vid = vid

theorem Enforcing.del (enforcing : Enforcing dsa port m w) {vid : Nat}
    (notPvid : (w.port port).pvid ≠ vid) (record : ∀ dir, HasRecord vid (w.block port dir)) :
    Enforcing dsa port (m.apply (.del vid)) (portVlanDel port vid w).1 := by
  have files := fun dir => ((enforcing.core.ready dir).files (enforcing.allocated dir)).1
  obtain ⟨block1, steps1, files1, finals1⟩ :=
    (files .ingress).delete (enforcing.finals .ingress) (record .ingress)
  obtain ⟨ok1, core1, allocated1, id1, own1, left1⟩ :=
    enforcing.core.onBlock (enforcing.allocated .ingress) (steady_vlanDelDirection vid) steps1 files1
  let w1 := (onBlock port .ingress (vlanDelDirection vid) w).1
  have egress1 : (w1.block port .egress).allocated = true := by
    rw [left1.block .egress (by decide)]
    exact enforcing.allocated .egress
  have sameEgress : blockAt w1 port .egress = blockAt w port .egress :=
    left1.rules .egress (by decide) (enforcing.allocated .egress)
  have files' := ((core1.ready .egress).files egress1).1
  have finals' : Finals dsa .egress (w.port port).pvid (blockAt w1 port .egress).rules := by
    rw [sameEgress]
    exact enforcing.finals .egress
  have record' : HasRecord vid (blockAt w1 port .egress).info := by
    rw [sameEgress]
    exact record .egress
  obtain ⟨block2, steps2, files2, finals2⟩ := files'.delete finals' record'
  obtain ⟨ok2, core2, allocated2, id2, own2, left2⟩ :=
    core1.onBlock egress1 (steady_vlanDelDirection vid) steps2 files2
  let w2 := (onBlock port .egress (vlanDelDirection vid) w1).1
  have ran : (portVlanDel port vid w).1 = w2 := by
    have first : onBlock port .ingress (vlanDelDirection vid) w = (w1, none) := Prod.ext rfl ok1
    simp only [portVlanDel, andThen, first]
    rfl
  rw [ran]
  have members : Function.update (Function.update (fun _ => m.member) Dir.ingress
      (Function.update m.member vid none)) .egress
      (Function.update (Function.update (fun _ => m.member) Dir.ingress
        (Function.update m.member vid none) .egress) vid none) =
      fun _ => (m.apply (.del vid)).member := by
    funext dir
    cases dir <;> rfl
  rw [members] at core2
  have ports : w2.port = w.port := left2.port.trans left1.port
  have kept : (m.apply (.del vid)).pvid = m.pvid := by
    refine if_neg fun same => notPvid ?_
    rw [enforcing.pvid, same]
    rfl
  have ids : ∀ dir, (w2.block port dir).blockId = (w.block port dir).blockId := by
    intro dir
    cases dir with
    | ingress => rw [left2.block .ingress (by decide), id1]
    | egress => rw [id2, left1.block .egress (by decide)]
  refine ⟨⟨core2, by rw [ports]; exact enforcing.filtering, by rw [ports, kept]; exact enforcing.pvid,
    by rw [kept]; exact enforcing.pvidNonzero⟩, ?_, ?_, ?_⟩
  · intro dir
    cases dir with
    | ingress =>
      rw [left2.block .ingress (by decide)]
      exact allocated1
    | egress => exact allocated2
  · intro dir
    rw [ports]
    cases dir with
    | ingress =>
      rw [left2.rules .ingress (by decide) allocated1, own1]
      exact finals1
    | egress =>
      rw [own2]
      exact finals2
  · rw [left2.bridgePort, left1.bridgePort, enforcing.attached]
    funext dir
    rw [ids]

end Calls

/-! ## Runs -/

section Runs

variable {β : Type} [DecidableEq β] {dsa : Dsa} {fw : Firmware} {port : Port}

def vlanCall (dsa : Dsa) (fw : Firmware) (port : Port) (w : World β) : VlanCall → World β
  | .add vid untagged pvid => call dsa fw w (.vlanAdd port vid untagged pvid)
  | .del vid => call dsa fw w (.vlanDel port vid)

/-- The condition on a call: an addition finds room, a deletion names a member other
than the PVID. -/
def Meets (port : Port) (w : World β) : VlanCall → Prop
  | .add vid _ _ =>
    if vid = 0 then ∀ dir, (w.block port dir).allocated = true
    else ∀ dir, HasRoom port vid w dir
  | .del vid => (w.port port).pvid ≠ vid ∧ ∀ dir, HasRecord vid (w.block port dir)

theorem vlanCall_add (user : dsa.user port = true) (w : World β) (vid : Nat)
    (untagged pvid : Bool) :
    vlanCall dsa fw port w (.add vid untagged pvid) =
      (portVlanAdd dsa fw port vid untagged pvid w).1 :=
  if_pos (present_of_user user)

theorem vlanCall_del (user : dsa.user port = true) (w : World β) (vid : Nat) :
    vlanCall dsa fw port w (.del vid) = (portVlanDel port vid w).1 :=
  if_pos (present_of_user user)

variable {m : Membership} {w : World β}

theorem Enforcing.call (enforcing : Enforcing dsa port m w) (fresh : BlocksFresh fw)
    (user : dsa.user port = true) (proto : dsa.spTag = false) {c : VlanCall}
    (meets : Meets port w c) : Enforcing dsa port (m.apply c) (vlanCall dsa fw port w c) := by
  cases c with
  | add vid untagged pvid =>
    rw [vlanCall_add user]
    by_cases zero : vid = 0
    · rw [Membership.apply, if_pos zero, portVlanAdd, if_pos zero]
      exact enforcing
    · rw [Meets, if_neg zero] at meets
      exact enforcing.toFiling.add fresh user proto zero untagged pvid meets
  | del vid =>
    rw [vlanCall_del user]
    exact enforcing.del meets.1 meets.2

theorem Filing.first (filing : Filing dsa port m w) (fresh : BlocksFresh fw)
    (user : dsa.user port = true) (proto : dsa.spTag = false)
    (idle : ∀ dir, (w.block port dir).allocated = false) {c : VlanCall}
    (meets : Meets port w c) : Enforcing dsa port (m.apply c) (vlanCall dsa fw port w c) := by
  cases c with
  | add vid untagged pvid =>
    rw [vlanCall_add user]
    by_cases zero : vid = 0
    · rw [Meets, if_pos zero] at meets
      exact absurd (meets .ingress) (by simp [idle])
    · rw [Meets, if_neg zero] at meets
      exact filing.add fresh user proto zero untagged pvid meets
  | del vid =>
    obtain ⟨i, -, used, -⟩ := meets.2 .ingress
    rw [((filing.core.ready .ingress).idle (idle .ingress)).1] at used
    cases used

theorem Enforcing.along (enforcing : Enforcing dsa port m w) (fresh : BlocksFresh fw)
    (user : dsa.user port = true) (proto : dsa.spTag = false) {calls : List VlanCall}
    (guarded : Along (vlanCall dsa fw port) (Meets port) w calls) :
    Enforcing dsa port (calls.foldl Membership.apply m)
      (run (vlanCall dsa fw port) w calls) := by
  induction calls generalizing m w with
  | nil => exact enforcing
  | cons c rest ih => exact ih (enforcing.call fresh user proto guarded.1) guarded.2

/-! ### Before the first VLAN -/

def NoVlan : Call β → Prop
  | .vlanAdd .. => False
  | .vlanDel .. => False
  | _ => True

structure Quiet (w w' : World β) : Prop where
  vlans : vlanState w' = vlanState w
  pvid : ∀ q, (w'.port q).pvid = (w.port q).pvid

omit [DecidableEq β] in
theorem Quiet.refl (w : World β) : Quiet w w := ⟨rfl, fun _ => rfl⟩

omit [DecidableEq β] in
theorem Quiet.trans {w₁ w₂ w₃ : World β} (first : Quiet w₁ w₂) (second : Quiet w₂ w₃) :
    Quiet w₁ w₃ :=
  ⟨second.vlans.trans first.vlans, fun q => (second.pvid q).trans (first.pvid q)⟩

omit [DecidableEq β] in
theorem quiet_setPort (w : World β) (q : Port) (info : PortInfo β)
    (same : info.pvid = (w.port q).pvid) : Quiet w (w.setPort q info) := by
  refine ⟨rfl, fun p => ?_⟩
  by_cases here : p = q
  · subst here
    simp [World.setPort, same]
  · simp [World.setPort, here]

theorem quiet_updateBridgeConfPort (proto : dsa.spTag = false) (q : Port) (bridge : Option β)
    (action : Bool) (w : World β) : Quiet w (updateBridgeConfPort dsa q bridge action w) := by
  have looped : ∀ (ports : List Port) (w : World β),
      (ports.foldl (updatePort dsa q bridge action) w).port = w.port := by
    intro ports
    induction ports with
    | nil => exact fun _ => rfl
    | cons i rest ih =>
      intro w
      refine (ih _).trans ?_
      simp only [updatePort]
      split_ifs <;> rfl
  refine ⟨vlanState_updateBridgeConfPort dsa q bridge action w, fun p => ?_⟩
  simp only [updateBridgeConfPort, proto, Bool.false_eq_true, if_false]
  rw [looped]

theorem quiet_isolatePort (proto : dsa.spTag = false) (q : Port) (w : World β) :
    Quiet w (isolatePort dsa fw q w) := by
  simp only [isolatePort, proto, Bool.false_eq_true, if_false]
  split_ifs
  · exact Quiet.refl w
  · let w1 := (bridgeAlloc fw w).1
    have allocated : Quiet w w1 := ⟨rfl, fun _ => rfl⟩
    have named := quiet_setPort w1 q
      { w1.port q with bridgeId := (bridgeAlloc fw w).2, bridge := none } rfl
    have updated := quiet_updateBridgeConfPort proto q none true (w1.setPort q
      { w1.port q with bridgeId := (bridgeAlloc fw w).2, bridge := none })
    exact ((allocated.trans named).trans updated).trans (quiet_setPort _ q _ rfl)

theorem quiet_deisolatePort (proto : dsa.spTag = false) (q : Port) (w : World β) :
    Quiet w (deisolatePort dsa q w) := by
  simp only [deisolatePort, proto, Bool.false_eq_true, if_false]
  split_ifs
  · exact Quiet.refl w
  · have updated := quiet_updateBridgeConfPort proto q none false w
    have freed : Quiet (updateBridgeConfPort dsa q none false w)
      (bridgeFree ((updateBridgeConfPort dsa q none false w).port q).bridgeId
        (updateBridgeConfPort dsa q none false w)) := ⟨rfl, fun _ => rfl⟩
    exact (updated.trans freed).trans (quiet_setPort _ q _ rfl)

theorem quiet_portBridgeJoin (proto : dsa.spTag = false) (q : Port) (bridge : β) (w : World β) :
    Quiet w (portBridgeJoin dsa fw q bridge w) := by
  simp only [portBridgeJoin, proto, Bool.false_eq_true, if_false]
  have left := quiet_deisolatePort proto q w
  generalize deisolatePort dsa q w = w1 at left ⊢
  have named : ∀ (w2 : World β) (info : PortInfo β), info.pvid = (w2.port q).pvid →
      Quiet w2 (updateBridgeConfPort dsa q (some bridge) true (w2.setPort q info)) :=
    fun w2 info same => (quiet_setPort w2 q info same).trans
      (quiet_updateBridgeConfPort proto q _ true _)
  by_cases forced : dsa.forceIsolate = true
  · rw [if_pos forced]
    exact Quiet.refl w
  rw [if_neg forced]
  by_cases unnamed : findBridgeId dsa w1 bridge = 0
  · rw [if_pos unnamed]
    have allocated : Quiet w1 (bridgeAlloc fw w1).1 := ⟨rfl, fun _ => rfl⟩
    exact (left.trans allocated).trans (named _ _ rfl)
  · rw [if_neg unnamed]
    exact left.trans (named _ _ rfl)

theorem quiet_portBridgeLeave (proto : dsa.spTag = false) (q : Port) (bridge : β) (w : World β) :
    Quiet w (portBridgeLeave dsa fw q bridge w) := by
  simp only [portBridgeLeave]
  have updated := quiet_updateBridgeConfPort proto q (some bridge) false w
  generalize updateBridgeConfPort dsa q (some bridge) false w = w1 at updated ⊢
  have isolated : ∀ w2 : World β, Quiet w2 ((isolatePort dsa fw q w2).setPort q
      { (isolatePort dsa fw q w2).port q with filteringModeLocked := false }) := fun w2 =>
    (quiet_isolatePort proto q w2).trans (quiet_setPort _ q _ rfl)
  split_ifs
  · have freed : Quiet w1 (bridgeFree (w.port q).bridgeId w1) := ⟨rfl, fun _ => rfl⟩
    exact (updated.trans freed).trans (isolated _)
  · exact updated.trans (isolated _)

theorem quiet_call (proto : dsa.spTag = false) (w : World β) (c : Call β) (noVlan : NoVlan c) :
    Quiet w (Driver.call dsa fw w c) := by
  have moved : ∀ q (bridge : Option β), Quiet w (setDsaBridge q bridge w) :=
    fun _ _ => ⟨rfl, fun _ => rfl⟩
  cases c with
  | join q bridge =>
    simp only [Driver.call]
    split_ifs
    · exact (moved q _).trans (quiet_portBridgeJoin proto q bridge _)
    · exact Quiet.refl w
  | leave q =>
    simp only [Driver.call]
    cases w.dsaBridge q with
    | none => exact Quiet.refl w
    | some bridge =>
      dsimp only
      split_ifs
      · exact (moved q _).trans (quiet_portBridgeLeave proto q bridge _)
      · exact Quiet.refl w
  | vlanAdd => cases noVlan
  | vlanDel => cases noVlan
  | vlanFiltering q on =>
    simp only [Driver.call, portVlanFiltering]
    split_ifs
    · exact Quiet.refl w
    · exact quiet_setPort w q _ rfl
    · exact Quiet.refl w

theorem quiet_setup (proto : dsa.spTag = false) : Quiet (powerOn dsa : World β) (setup dsa fw) := by
  have looped : ∀ (ports : List Port) (w : World β),
      Quiet w (ports.foldl (setupPort dsa fw) w) := by
    intro ports
    induction ports with
    | nil => exact Quiet.refl
    | cons q rest ih =>
      intro w
      refine Quiet.trans ?_ (ih _)
      simp only [setupPort]
      split_ifs
      · exact Quiet.refl w
      · exact (quiet_isolatePort proto q w).trans ⟨rfl, fun _ => rfl⟩
  exact (looped _ _).trans ⟨rfl, fun _ => rfl⟩

omit [DecidableEq β] in
theorem filing_of_quiet (quiet : Quiet (powerOn dsa) w)
    (filtering : (w.port port).filtering = true) :
    Filing dsa port noVlans w ∧ ∀ dir, (w.block port dir).allocated = false := by
  have block : w.block = limitedBlock dsa := congrArg VlanState.block quiet.vlans
  have rules : w.rules = fun _ _ => deactivated := congrArg VlanState.rules quiet.vlans
  have free : ∀ dir, (w.block port dir).allocated = false := by
    intro dir
    rw [block]
    rfl
  have limit : w.maxVlans = maxVlansLimit dsa := congrArg VlanState.maxVlans quiet.vlans
  refine ⟨⟨⟨limit, ?_, ?_, ?_⟩, filtering, quiet.pvid port, by simp [noVlans]⟩, free⟩
  · intro id _
    rw [rules]
  · intro dir
    refine ⟨fun allocated => ?_, fun _ => ⟨by rw [block], rfl⟩⟩
    rw [free] at allocated
    cases allocated
  · intro allocated
    rw [free] at allocated
    cases allocated

instance decidableHasRoom (port : Port) (vid : Nat) (w : World β) (dir : Dir) :
    Decidable (HasRoom port vid w dir) :=
  decidable_of_iff (¬ BlockInfo.lacksRoom (w.block port dir) ∧
    HasSlot w.maxVlans vid (w.block port dir))
    ⟨fun both => ⟨both.1, both.2⟩, fun room => ⟨room.entries, room.slot⟩⟩

instance decidableHasRecord (vid : Nat) (info : BlockInfo) : Decidable (HasRecord vid info) :=
  decidable_of_iff ((List.range (maxVlansArray - 1)).any
      (fun i => (info.vlans i).used && decide ((info.vlans i).vid = vid)) = true)
    (by simp [HasRecord])

instance decidableMeets (port : Port) (w : World β) : (c : VlanCall) → Decidable (Meets port w c)
  | .add vid _ _ =>
    if zero : vid = 0 then
      decidable_of_iff (∀ dir, (w.block port dir).allocated = true)
        (by rw [Meets, if_pos zero])
    else
      decidable_of_iff (∀ dir, HasRoom port vid w dir) (by rw [Meets, if_neg zero])
  | .del vid =>
    inferInstanceAs (Decidable ((w.port port).pvid ≠ vid ∧
      ∀ dir, HasRecord vid (w.block port dir)))

/-- The blocks enforce the membership after each call of a run whose additions find room
and whose deletions name a member other than the PVID. -/
theorem vlans_enforced (dsa : Dsa) (fw : Firmware) (fresh : BlocksFresh fw)
    (proto : dsa.spTag = false) (port : Port) (user : dsa.user port = true)
    (before : List (Call β)) (noVlan : ∀ c ∈ before, NoVlan c)
    (filtering : ((run (call dsa fw) (setup dsa fw) before).port port).filtering = true)
    (calls : List VlanCall)
    (meets : Along (vlanCall dsa fw port) (Meets port)
      (run (call dsa fw) (setup dsa fw) before) calls) (n : Nat) (positive : 0 < n)
    (some_ : calls ≠ []) :
    Enforces (run (vlanCall dsa fw port) (run (call dsa fw) (setup dsa fw) before) (calls.take n))
      port ((calls.take n).foldl Membership.apply noVlans) := by
  have quiet : Quiet (powerOn dsa) (run (call dsa fw) (setup dsa fw) before) := by
    have started : Quiet (powerOn dsa : World β) (setup dsa fw) := quiet_setup proto
    refine started.trans ?_
    exact run_relates (call dsa fw) (fun _ c => NoVlan c) Quiet Quiet.refl
      (fun _ _ _ => Quiet.trans) (fun w c => quiet_call proto w c) _ before
      (along_of_forall _ _ _ _ fun _ => noVlan)
  obtain ⟨filing, idle⟩ := filing_of_quiet quiet filtering
  generalize run (call dsa fw) (setup dsa fw) before = w at filing idle meets ⊢
  obtain ⟨c, rest, rfl⟩ := List.exists_cons_of_ne_nil some_
  obtain ⟨n, rfl⟩ : ∃ k, n = k + 1 := ⟨n - 1, by omega⟩
  have first := filing.first fresh user proto idle meets.1
  have prefix_ : Along (vlanCall dsa fw port) (Meets port) (vlanCall dsa fw port w c)
      (rest.take n) := by
    have parts := meets.2
    rw [← List.take_append_drop n rest, along_append] at parts
    exact parts.1
  exact (first.along fresh user proto prefix_).enforces user

end Runs

/-! ### A port and its VLANs -/

def filteringOn : World Unit :=
  run (call (oneUser false) lowest) (setup (oneUser false) lowest) [.vlanFiltering lan true]

def moves : List VlanCall :=
  [.add 5 true true, .add 6 false false, .add 5 false true, .del 6, .add 7 true true,
    .add 0 false false, .del 5, .add 8 false false]

theorem vlans_enforced_moves :
    Enforces (run (vlanCall (oneUser false) lowest lan) filteringOn moves) lan
      (moves.foldl Membership.apply noVlans) :=
  vlans_enforced (oneUser false) lowest blocksFresh_lowest rfl lan rfl
    [.vlanFiltering lan true] (by simp [NoVlan]) (by decide) moves (by decide) 8 (by decide)
    (by simp [moves])

/-- The PVID's VLAN is deleted: an untagged frame still gets VID 5.  VLAN 9 is deleted and
was never there: the final rules go, and a frame of VID 9 comes in. -/
theorem vlans_not_enforced :
    BlocksFresh lowest ∧ (oneUser false).spTag = false ∧ (oneUser false).user lan = true ∧
    (filteringOn.port lan).filtering = true ∧
    ¬ Enforces (run (vlanCall (oneUser false) lowest lan) filteringOn [.add 5 true true, .del 5])
      lan ([.add 5 true true, .del 5].foldl Membership.apply noVlans) ∧
    ¬ Enforces (run (vlanCall (oneUser false) lowest lan) filteringOn [.add 5 true true, .del 9])
      lan ([.add 5 true true, .del 9].foldl Membership.apply noVlans) := by
  refine ⟨blocksFresh_lowest, rfl, rfl, by decide, fun enforces => ?_, fun enforces => ?_⟩
  · have dropped : (frameTreatment (run (vlanCall (oneUser false) lowest lan) filteringOn
        [.add 5 true true, .del 5]) lan .ingress .untagged).removeTag = .discardUpstream :=
      enforces.untagged
    exact absurd dropped (by decide)
  · have member := (enforces.ingress (.tagged ⟨9, 0⟩) ⟨9, 0⟩ rfl).mp (by decide)
    cases member

end OpenwrtSource.Mxl862xx.VlanFiltering
