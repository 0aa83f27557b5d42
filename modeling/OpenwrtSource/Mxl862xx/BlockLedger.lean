import Mathlib.Data.Finset.Image
import Mathlib.Data.Fintype.Card
import OpenwrtSource.Mxl862xx.Driver
import OpenwrtSource.Mxl862xx.RulePool

/-!
# What is kept of one block

The rules of VLANs are below the zone of the final rules, each of them filters on the
VID of the record that holds its index, and no final rule filters on a VID.
-/

namespace OpenwrtSource.Mxl862xx.BlockLedger

open Mxl862xx.VlanRules Mxl862xx.VlanBlock
open Mxl862xx.RulePool Mxl862xx.Driver

section Limits

variable (dsa : Dsa)

/-- Two rules for a VLAN, or one: the egress rules under 802.1Q tagging. -/
def pairedOf (dir : Dir) : Bool :=
  match dir with
  | .ingress => true
  | .egress => !dsa.spTag

/-- `final_filters_idx` points at the last entry of the CPU port's egress block even where
that has no final rule. -/
def finalRulesOf (port : Port) (dir : Dir) : Nat :=
  if dsa.user port then
    match dir with
    | .ingress => ingressFinalRules
    | .egress => egressFinalRules
  else
    match dsa.spTag, dir with
    | true, .egress => 2
    | _, _ => 1

def zoneStart (port : Port) (dir : Dir) : Nat :=
  filtersMaxLimit dsa port dir - finalRulesOf dsa port dir

/-- The number of VLANs that a block can be asked to hold.  The CPU port's ingress block
holds one for each user port. -/
def capOf (port : Port) (dir : Dir) : Nat :=
  if dsa.user port then slotsOf (maxVlansLimit dsa)
  else if port = dsa.cpuPort ∧ dsa.spTag = true then
    match dir with
    | .ingress => userPnum dsa
    | .egress => slotsOf (maxVlansLimit dsa)
  else 0

theorem userPnum_le : userPnum dsa ≤ 14 := by
  have strict : (List.finRange maxPorts).countP dsa.user < (List.finRange maxPorts).length := by
    rw [Nat.lt_iff_le_and_ne]
    refine ⟨List.countP_le_length, fun all => ?_⟩
    have every := List.countP_eq_length.mp all dsa.cpuPort (List.mem_finRange _)
    rw [dsa.cpuNotUser] at every
    cases every
  rw [List.length_finRange] at strict
  exact Nat.le_of_lt_succ strict

theorem fifteen_le_maxVlans : 15 ≤ maxVlansLimit dsa := by
  have few := userPnum_le dsa
  simp only [maxVlansLimit, maxVlanEntries, egressFinalRules, ingressFinalRules, vidRules]
  split_ifs <;> rw [Nat.le_div_iff_mul_le (by omega)] <;> omega

theorem userPnum_le_slots : userPnum dsa ≤ slotsOf (maxVlansLimit dsa) := by
  have few := userPnum_le dsa
  have many := fifteen_le_maxVlans dsa
  exact le_min (by omega) (by rw [maxVlansArray]; omega)

theorem capOf_le_slots (port : Port) (dir : Dir) :
    capOf dsa port dir ≤ slotsOf (maxVlansLimit dsa) := by
  unfold capOf
  split_ifs with user special
  · exact le_refl _
  · cases dir
    · exact userPnum_le_slots dsa
    · exact le_refl _
  · exact Nat.zero_le _

theorem vlanRules_le_zoneStart (port : Port) (dir : Dir) :
    rulesOf (pairedOf dsa dir) * capOf dsa port dir ≤ zoneStart dsa port dir := by
  have slots : slotsOf (maxVlansLimit dsa) ≤ maxVlansLimit dsa := min_le_left _ _
  unfold zoneStart finalRulesOf filtersMaxLimit capOf pairedOf rulesOf
  cases user : dsa.user port with
  | true =>
    cases dir <;> cases dsa.spTag <;>
      simp [ingressFinalRules, egressFinalRules, vidRules] <;> omega
  | false =>
    by_cases cpu : port = dsa.cpuPort
    · cases dir <;> cases dsa.spTag <;> simp [cpu] <;> omega
    · simp [cpu]

theorem zoneStart_le_user {port : Port} (user : dsa.user port = true) (dir : Dir) (other : Port)
    (dir' : Dir) : zoneStart dsa other dir' ≤ zoneStart dsa port dir := by
  have slots := userPnum_le_slots dsa
  have few : slotsOf (maxVlansLimit dsa) ≤ maxVlansLimit dsa := min_le_left _ _
  unfold zoneStart finalRulesOf filtersMaxLimit
  cases otherUser : dsa.user other with
  | true =>
    cases dir <;> cases dir' <;>
      simp [user, ingressFinalRules, egressFinalRules, vidRules]
  | false =>
    by_cases cpu : other = dsa.cpuPort
    · cases dir <;> cases dir' <;> cases dsa.spTag <;>
        simp [user, cpu, ingressFinalRules, egressFinalRules, vidRules] <;> omega
    · cases dir <;> cases dir' <;> cases dsa.spTag <;>
        simp [user, cpu, ingressFinalRules, egressFinalRules, vidRules]

end Limits

def vidOf (rule : Rule) : Option Nat :=
  if rule = deactivated then none
  else if rule.outerVlan.vidEnable then some rule.outerVlan.vidVal
  else if rule.innerVlan.vidEnable then some rule.innerVlan.vidVal
  else none

@[simp] theorem vidOf_deactivated : vidOf deactivated = none := if_pos rfl

variable {rule : Rule} {vid : Nat}

theorem vidOf_outer (filter : rule.outerVlan = ofVid vid) : vidOf rule = some vid := by
  have active : rule ≠ deactivated := by
    rintro rfl
    simp [deactivated, ofVid] at filter
  rw [vidOf, if_neg active, filter]
  rfl

theorem vidOf_inner {type : FilterType} (outer : rule.outerVlan = ofType type)
    (enabled : rule.innerVlan.vidEnable = true) (value : rule.innerVlan.vidVal = vid) :
    vidOf rule = some vid := by
  have active : rule ≠ deactivated := by
    rintro rfl
    simp [deactivated, ofType] at outer
  rw [vidOf, if_neg active, outer, enabled, value]
  rfl

theorem vidOf_final {outer inner : FilterType} (first : rule.outerVlan = ofType outer)
    (second : rule.innerVlan = ofType inner) : vidOf rule = none := by
  rw [vidOf, first, second]
  split_ifs with dead on on' <;> first | rfl | cases on | cases on'

def AllowedVid (dsa : Dsa) (port : Port) (dir : Dir) (vid : Nat) : Prop :=
  port = dsa.cpuPort → dir = .ingress → ∃ q, dsa.user q = true ∧ vid = dsa.standaloneVid q

structure Sound (dsa : Dsa) (port : Port) (dir : Dir) (block : Block) : Prop where
  size : block.info.filtersMax = filtersMaxLimit dsa port dir
  pool : Pool (pairedOf dsa dir) (slotsOf (maxVlansLimit dsa)) (capOf dsa port dir) block.info
  final : zoneStart dsa port dir ≤ block.info.finalFiltersIdx
  vids : ∀ i, (block.info.vlans i).used = true →
    AllowedVid dsa port dir (block.info.vlans i).vid
  marks : ∀ i n, (block.info.vlans i).used = true → holds block.info (.inl i) n →
    vidOf (block.rules n) = some (block.info.vlans i).vid
  zone : ∀ n, zoneStart dsa port dir ≤ n → vidOf (block.rules n) = none

section Blocks

variable {dsa : Dsa} {port : Port} {dir : Dir} {block block' : Block}

theorem Sound.below (sound : Sound dsa port dir block) {h : Holder} (alive : live block.info h)
    {n : Nat} (holding : holds block.info h n) : n < zoneStart dsa port dir := by
  have counted := sound.pool.numbered.below h alive n holding
  rw [sound.pool.count] at counted
  have most := Nat.mul_le_mul_left (rulesOf (pairedOf dsa dir)) sound.pool.room
  exact lt_of_lt_of_le counted (le_trans most (vlanRules_le_zoneStart dsa port dir))

theorem Sound.rezone (sound : Sound dsa port dir block)
    (vlans : block'.info.vlans = block.info.vlans)
    (recycled : block'.info.recycled = block.info.recycled)
    (counter : block'.info.vidFiltersIdx = block.info.vidFiltersIdx)
    (size : block'.info.filtersMax = block.info.filtersMax)
    (final : zoneStart dsa port dir ≤ block'.info.finalFiltersIdx)
    (kept : ∀ n, n < zoneStart dsa port dir → block'.rules n = block.rules n)
    (zone : ∀ n, zoneStart dsa port dir ≤ n → vidOf (block'.rules n) = none) :
    Sound dsa port dir block' where
  size := size.trans sound.size
  pool := sound.pool.congr vlans recycled counter
  final := final
  vids := by
    rw [vlans]
    exact sound.vids
  marks := by
    intro i n used holding
    rw [vlans] at used ⊢
    have before : holds block.info (.inl i) n := by
      simpa only [holds, idsOf, vlans] using holding
    rw [kept n (sound.below (h := .inl i) used before)]
    exact sound.marks i n used before
  zone := zone

theorem Sound.setFinal (sound : Sound dsa port dir block) (back : Nat) (rule : Rule)
    (inZone : back ≤ finalRulesOf dsa port dir) (plain : vidOf rule = none) :
    Sound dsa port dir (block.setFinal back rule) := by
  have place : zoneStart dsa port dir ≤ block.info.filtersMax - back := by
    rw [sound.size, zoneStart]
    omega
  refine sound.rezone rfl rfl rfl rfl place ?_ ?_
  · intro n below
    exact Function.update_of_ne (by omega) _ _
  · intro n above
    by_cases here : n = block.info.filtersMax - back
    · rw [here]
      exact (congrArg vidOf (Function.update_self _ _ _)).trans plain
    · exact (congrArg vidOf (Function.update_of_ne here _ _)).trans (sound.zone n above)

theorem Sound.deactivateFrom (sound : Sound dsa port dir block) {start stop : Nat}
    (inZone : zoneStart dsa port dir ≤ start) :
    Sound dsa port dir (deactivateFrom start stop block) := by
  refine sound.rezone rfl rfl rfl rfl sound.final ?_ ?_
  · intro n below
    exact if_neg (by omega)
  · intro n above
    simp only [VlanBlock.deactivateFrom]
    split_ifs
    · exact vidOf_deactivated
    · exact sound.zone n above

theorem finalRules_pos (dsa : Dsa) (port : Port) (dir : Dir) : 0 < finalRulesOf dsa port dir := by
  unfold finalRulesOf
  cases dsa.user port <;> cases dsa.spTag <;> cases dir <;>
    simp [ingressFinalRules, egressFinalRules]

theorem Sound.staticRulesCleanup (sound : Sound dsa port dir block) :
    Sound dsa port dir (staticRulesCleanup block) := by
  unfold VlanBlock.staticRulesCleanup
  split_ifs with unallocated
  · exact sound
  · refine (sound.deactivateFrom sound.final).rezone rfl rfl rfl rfl ?_ (fun _ _ => rfl) ?_
    · have positive := finalRules_pos dsa port dir
      have size := sound.size
      rw [zoneStart]
      dsimp only [VlanBlock.deactivateFrom]
      omega
    · exact (sound.deactivateFrom sound.final).zone

theorem Sound.clearStaticRules (sound : Sound dsa port dir block) :
    Sound dsa port dir (clearStaticRules block) := by
  refine (sound.deactivateFrom sound.final).rezone rfl rfl rfl rfl ?_ (fun _ _ => rfl)
    (sound.deactivateFrom sound.final).zone
  exact le_trans sound.final (le_max_left _ _)

variable {paired : Bool} {slots cap i : Nat} {info : BlockInfo} {vid : Nat}

theorem card_usedSet_lt (pool : Pool paired slots cap info) (inside : i < slots)
    (unused : (info.vlans i).used = false) : (usedSet info).card < slots := by
  have fewer : usedSet info ⊂ Finset.range slots := by
    refine Finset.ssubset_iff_subset_ne.mpr ⟨?_, ?_⟩
    · intro j member
      exact Finset.mem_range.mpr (pool.records j (mem_usedSet.mp member).2)
    · intro same
      have member : i ∈ usedSet info := same ▸ Finset.mem_range.mpr inside
      simp [mem_usedSet, unused] at member
  simpa using Finset.card_lt_card fewer

theorem card_usedSet_lt_of_vids (pool : Pool paired slots cap info) (vids : Finset Nat)
    (listed : vid ∈ vids) (every : ∀ j, (info.vlans j).used = true → (info.vlans j).vid ∈ vids)
    (absent : ∀ j, (info.vlans j).used = true → (info.vlans j).vid ≠ vid) :
    (usedSet info).card < vids.card := by
  have image : (usedSet info).image (fun j => (info.vlans j).vid) ⊆ vids.erase vid := by
    intro v member
    obtain ⟨j, inside, rfl⟩ := Finset.mem_image.mp member
    have used := (mem_usedSet.mp inside).2
    exact Finset.mem_erase.mpr ⟨absent j used, every j used⟩
  have counted := Finset.card_le_card image
  rw [Finset.card_erase_of_mem listed, Finset.card_image_of_injOn] at counted
  · have positive := Finset.card_pos.mpr ⟨vid, listed⟩
    omega
  · intro j inside k inside' same
    exact pool.vidOnce j k (mem_usedSet.mp inside).2 (mem_usedSet.mp inside').2 same

theorem card_user_le : (Finset.univ.filter fun q => dsa.user q = true).card ≤ userPnum dsa := by
  rw [userPnum, List.countP_eq_length_filter, ← List.toFinset_card_of_nodup]
  · refine Finset.card_le_card fun q member => ?_
    simpa using member
  · exact (List.nodup_finRange _).filter _

theorem Sound.capacity (sound : Sound dsa port dir block) (present : dsa.present port = true)
    (serves : dsa.user port = true ∨ dsa.spTag = true) {ids : FilterIds} {info' : BlockInfo}
    (allowed : AllowedVid dsa port dir vid)
    (taken : Taken (pairedOf dsa dir) (slotsOf (maxVlansLimit dsa)) vid block.info i ids info')
    (absent : ∀ j, (block.info.vlans j).used = true → (block.info.vlans j).vid ≠ vid) :
    (usedSet block.info).card < capOf dsa port dir := by
  have slots : (usedSet block.info).card < slotsOf (maxVlansLimit dsa) := by
    cases taken with
    | known used named => exact absurd named (absent i used)
    | recycled x inside unused => exact card_usedSet_lt sound.pool inside unused
    | fresh inside unused => exact card_usedSet_lt sound.pool inside unused
  unfold capOf
  cases user : dsa.user port with
  | true => simpa using slots
  | false =>
    have cpu : port = dsa.cpuPort := by simpa [Dsa.present, user] using present
    have tagged : dsa.spTag = true := by simpa [user] using serves
    rw [if_neg (by simp), if_pos ⟨cpu, tagged⟩]
    cases dir with
    | egress => exact slots
    | ingress =>
      let vids := (Finset.univ.filter fun q => dsa.user q = true).image dsa.standaloneVid
      have member : ∀ v, AllowedVid dsa port .ingress v → v ∈ vids := by
        intro v given
        obtain ⟨q, userQ, rfl⟩ := given cpu rfl
        exact Finset.mem_image.mpr ⟨q, by simpa using userQ, rfl⟩
      have fewer := card_usedSet_lt_of_vids sound.pool vids (member vid allowed)
        (fun j used => member _ (sound.vids j used)) absent
      exact lt_of_lt_of_le fewer (le_trans Finset.card_image_le card_user_le)

theorem Sound.withFilters (sound : Sound dsa port dir block) (present : dsa.present port = true)
    (serves : dsa.user port = true ∨ dsa.spTag = true) (nonzero : vid ≠ 0)
    (allowed : AllowedVid dsa port dir vid) (untagged : Option Bool) {first second : Rule}
    (firstVid : vidOf first = some vid) (secondVid : vidOf second = some vid) :
    Sound dsa port dir (withFilters (maxVlansLimit dsa) vid block
      (writer (pairedOf dsa dir) vid untagged first second)).1 := by
  have positive : 0 < maxVlansLimit dsa := lt_of_lt_of_le (by omega) (fifteen_le_maxVlans dsa)
  obtain ⟨i, ids, info', taken, built⟩ | ⟨-, -, e, built⟩ :=
    withFilters_cases sound.pool positive nonzero untagged first second
  swap
  · rw [built]
    exact sound
  rw [built]
  have shape := taken.shape sound.pool
  have pool : Pool (pairedOf dsa dir) (slotsOf (maxVlansLimit dsa)) (capOf dsa port dir)
      (wrote (pairedOf dsa dir) vid untagged first second i ids info' block.rules).info :=
    sound.pool.record taken nonzero (sound.capacity present serves allowed taken) rfl rfl rfl
  let after := wrote (pairedOf dsa dir) vid untagged first second i ids info' block.rules
  have self : after.info.vlans i = (info'.vlans i).record ids vid untagged :=
    Function.update_self _ _ _
  have others : ∀ j, j ≠ i → after.info.vlans j = block.info.vlans j := by
    intro j apart
    exact (Function.update_of_ne apart _ _).trans (congrFun taken.vlans j)
  have alive : live after.info (.inl i) := by
    rw [live, self]
    rfl
  have selfIds : idsOf after.info (.inl i) = ids := by
    rw [idsOf, self]
    rfl
  have named : ∀ n, Names ids n → vidOf (after.rules n) = some vid := by
    intro n naming
    have rule : after.rules n = first ∨ after.rules n = second := wrote_named shape naming
    obtain rule | rule := rule
    · exact (congrArg vidOf rule).trans firstVid
    · exact (congrArg vidOf rule).trans secondVid
  have below : ∀ n, Names ids n → n < zoneStart dsa port dir := by
    intro n naming
    have counted := pool.numbered.below (.inl i) alive n (by rwa [holds, selfIds])
    rw [pool.count] at counted
    have most := Nat.mul_le_mul_left (rulesOf (pairedOf dsa dir)) pool.room
    exact lt_of_lt_of_le counted (le_trans most (vlanRules_le_zoneStart dsa port dir))
  refine ⟨taken.filtersMax.trans sound.size, pool, ?_, ?_, ?_, ?_⟩
  · exact le_of_le_of_eq sound.final taken.finalFiltersIdx.symm
  · intro j used
    by_cases same : j = i
    · subst same
      rw [self]
      exact allowed
    · rw [others j same] at used ⊢
      exact sound.vids j used
  · intro j n used holding
    by_cases same : j = i
    · subst same
      rw [holds, selfIds] at holding
      rw [named n holding, self]
      rfl
    · have unnamed : ¬ Names ids n := by
        intro naming
        have clash := pool.numbered.distinct (.inl j) (.inl i) used alive n holding
          (by rwa [holds, selfIds])
        exact same (Sum.inl.inj clash)
      rw [wrote_unnamed shape unnamed, others j same]
      rw [others j same] at used
      have before : holds block.info (.inl j) n := by
        rw [holds, idsOf, others j same] at holding
        exact holding
      exact sound.marks j n used before
  · intro n above
    have unnamed : ¬ Names ids n := fun naming => absurd (below n naming) (not_lt.mpr above)
    rw [wrote_unnamed shape unnamed]
    exact sound.zone n above

theorem Sound.release (sound : Sound dsa port dir block) {x : Nat}
    (used : (block.info.vlans i).used = true) (below : x < maxVlansArray)
    (invalid : (block.info.recycled x).valid = false) :
    Sound dsa port dir
      { info := released block.info i x
        rules := (deactivateRecord (block.info.vlans i).filtersIdx block).rules } := by
  have shape : Shape (pairedOf dsa dir) (block.info.vlans i).filtersIdx :=
    sound.pool.shape (.inl i) used
  have still : ∀ j, ((released block.info i x).vlans j).used = true →
      j ≠ i ∧ (released block.info i x).vlans j = block.info.vlans j := by
    intro j usedJ
    have apart : j ≠ i := by
      rintro rfl
      simp at usedJ
    exact ⟨apart, by simp [apart]⟩
  refine ⟨sound.size, sound.pool.release used below invalid, sound.final, ?_, ?_, ?_⟩
  · intro j usedJ
    obtain ⟨-, same⟩ := still j usedJ
    dsimp only at usedJ ⊢
    rw [same] at usedJ ⊢
    exact sound.vids j usedJ
  · intro j n usedJ holding
    obtain ⟨apart, same⟩ := still j usedJ
    dsimp only at usedJ holding ⊢
    rw [same] at usedJ ⊢
    have before : holds block.info (.inl j) n := by
      rwa [holds, idsOf, same] at holding
    have unnamed : ¬ Names (block.info.vlans i).filtersIdx n := by
      intro naming
      have clash := sound.pool.numbered.distinct (.inl j) (.inl i) usedJ used n before naming
      exact apart (Sum.inl.inj clash)
    rw [deactivateRecord_unnamed shape unnamed]
    exact sound.marks j n usedJ before
  · intro n above
    dsimp only
    by_cases naming : Names (block.info.vlans i).filtersIdx n
    · rw [deactivateRecord_named naming]
      exact vidOf_deactivated
    · rw [deactivateRecord_unnamed shape naming]
      exact sound.zone n above

theorem Sound.vlanDelDirection (sound : Sound dsa port dir block) (vid : Nat) :
    Sound dsa port dir (vlanDelDirection vid block).1 := by
  obtain ⟨-, deleted⟩ | ⟨i, x, used, -, below, invalid, deleted⟩ :=
    vlanDelDirection_cases sound.pool vid
  · rw [deleted]
    exact sound.staticRulesCleanup
  · rw [deleted]
    have kept := sound.release used below invalid
    dsimp only
    split_ifs
    · exact kept.staticRulesCleanup
    · exact kept

end Blocks

def Keeps (dsa : Dsa) (port : Port) (dir : Dir) (build : Block → Built) : Prop :=
  ∀ block, Sound dsa port dir block → Sound dsa port dir (build block).1

section Builders

variable {dsa : Dsa} {port : Port} {vid : Nat}

theorem allowed_of_user (user : dsa.user port = true) (dir : Dir) (vid : Nat) :
    AllowedVid dsa port dir vid := by
  intro cpu
  rw [cpu, dsa.cpuNotUser] at user
  cases user

theorem allowed_egress (port : Port) (vid : Nat) : AllowedVid dsa port .egress vid := by
  intro _ other
  cases other

theorem present_of_user (user : dsa.user port = true) : dsa.present port = true := by
  simp [Dsa.present, user]

theorem present_cpu : dsa.present dsa.cpuPort = true := by
  simp [Dsa.present]

theorem finalRulesOf_user (user : dsa.user port = true) (dir : Dir) :
    finalRulesOf dsa port dir = match dir with
      | .ingress => ingressFinalRules
      | .egress => egressFinalRules := by
  simp [finalRulesOf, user]

theorem vidOf_discard (outer inner : FilterType) : vidOf (discard outer inner) = none :=
  vidOf_final rfl rfl

theorem vidOf_pvidRule (pvid : Nat) {tagged : Rule} (plain : vidOf tagged = none) :
    vidOf (pvidRule pvid tagged) = none := by
  unfold pvidRule
  split_ifs
  · exact vidOf_discard _ _
  · exact plain

theorem Sound.ingressFinals {block : Block} (sound : Sound dsa port .ingress block)
    (user : dsa.user port = true) {rule : Rule} (plain : vidOf rule = none) :
    Sound dsa port .ingress (ingressFinals rule block) := by
  have five : finalRulesOf dsa port .ingress = 5 := finalRulesOf_user user .ingress
  have step1 := sound.setFinal 1 _ (by omega) (vidOf_discard .default .noTag)
  have step2 := step1.setFinal 2 _ (by omega) (vidOf_discard .default .normal)
  have step3 := step2.setFinal 3 rule (by omega) plain
  have step4 := step3.setFinal 4 _ (by omega) (vidOf_discard .normal .noTag)
  exact step4.setFinal 5 _ (by omega) (vidOf_discard .normal .normal)

theorem keeps_ingressFilters (user : dsa.user port = true) (nonzero : vid ≠ 0) (pvid : Nat) :
    Keeps dsa port .ingress (prepareVlanIngressFilters (maxVlansLimit dsa) pvid vid) := by
  intro block sound
  have plain : vidOf (push (ofType .noTag) (ofType .noTag) pvid) = none := vidOf_final rfl rfl
  have finals := sound.ingressFinals user (vidOf_pvidRule pvid plain)
  exact finals.withFilters (present_of_user user) (Or.inl user) nonzero
    (allowed_of_user user _ vid) none (vidOf_outer rfl) (vidOf_outer rfl)

theorem keeps_ingressFiltersSpTag (user : dsa.user port = true) (nonzero : vid ≠ 0)
    (spVid pvid : Nat) :
    Keeps dsa port .ingress
      (prepareVlanIngressFiltersSpTag (maxVlansLimit dsa) spVid pvid vid) := by
  intro block sound
  have plain : vidOf (pushBoth (ofType .noTag) (ofType .noTag) spVid pvid) = none :=
    vidOf_final rfl rfl
  have finals := sound.ingressFinals user (vidOf_pvidRule pvid plain)
  exact finals.withFilters (present_of_user user) (Or.inl user) nonzero
    (allowed_of_user user _ vid) none (vidOf_outer rfl) (vidOf_outer rfl)

theorem keeps_egressFilters (user : dsa.user port = true) (untaggedTag : dsa.spTag = false)
    (nonzero : vid ≠ 0) (untagged : Bool) :
    Keeps dsa port .egress (prepareVlanEgressFilters (maxVlansLimit dsa) vid untagged) := by
  intro block sound
  have three : finalRulesOf dsa port .egress = 3 := finalRulesOf_user user .egress
  have step1 := sound.setFinal 1 _ (by omega) (vidOf_discard .noTag .noTag)
  have step2 := step1.setFinal 2 _ (by omega) (vidOf_discard .normal .noTag)
  have step3 := step2.setFinal 3 _ (by omega) (vidOf_discard .normal .normal)
  have first : vidOf (remove (ofVid vid) (ofType .normal) (untag untagged)) = some vid :=
    vidOf_outer rfl
  have second : vidOf (remove (ofVid vid) (ofType .noTag) (untag untagged)) = some vid :=
    vidOf_outer rfl
  have written := step3.withFilters (present_of_user user) (Or.inl user) nonzero
    (allowed_egress port vid) (some untagged) first second
  have paired : pairedOf dsa .egress = true := by simp [pairedOf, untaggedTag]
  rw [paired] at written
  exact written

theorem keeps_egressFiltersSpTag (user : dsa.user port = true) (tagged : dsa.spTag = true)
    (nonzero : vid ≠ 0) (untagged : Bool) :
    Keeps dsa port .egress (prepareVlanEgressFiltersSpTag (maxVlansLimit dsa) vid untagged) := by
  intro block sound
  have three : finalRulesOf dsa port .egress = 3 := finalRulesOf_user user .egress
  have step1 : Sound dsa port .egress
      (if untagged then block.setFinal 1 (discard .normal .noTag) else block) := by
    split_ifs
    · exact sound.setFinal 1 _ (by omega) (vidOf_discard .normal .noTag)
    · exact sound
  have step2 := step1.setFinal 2 _ (by omega) (vidOf_discard .normal .normal)
  have step3 := step2.setFinal 3 (remove (ofType .normal) (ofType .noTag) .remove1Tag) (by omega)
    (vidOf_final rfl rfl)
  have rule : vidOf (remove (ofType .normal) (ofVid vid) (untagSpTag untagged)) = some vid :=
    vidOf_inner rfl rfl rfl
  have written := step3.withFilters (present_of_user user) (Or.inl user) nonzero
    (allowed_egress port vid) (some untagged) rule rule
  have single : pairedOf dsa .egress = false := by simp [pairedOf, tagged]
  rw [single] at written
  exact written

theorem keeps_egressFiltersSpTagCpu (tagged : dsa.spTag = true) (nonzero : vid ≠ 0)
    (untagged : Bool) :
    Keeps dsa dsa.cpuPort .egress
      (prepareVlanEgressFiltersSpTagCpu (maxVlansLimit dsa) vid untagged) := by
  intro block sound
  have rule : vidOf (spTagCpuRule vid untagged) = some vid := vidOf_inner rfl rfl rfl
  have written := sound.withFilters present_cpu (Or.inr tagged) nonzero
    (allowed_egress dsa.cpuPort vid) (some untagged) rule rule
  have single : pairedOf dsa .egress = false := by simp [pairedOf, tagged]
  rw [single] at written
  exact written

theorem keeps_ingressFiltersSpTagCpu (tagged : dsa.spTag = true) (user : dsa.user port = true)
    (nonzero : dsa.standaloneVid port ≠ 0) (bridgePortCpu : Nat) :
    Keeps dsa dsa.cpuPort .ingress (prepareVlanIngressFiltersSpTagCpu (maxVlansLimit dsa)
      (dsa.standaloneVid port) bridgePortCpu) := by
  intro block sound
  exact sound.withFilters present_cpu (Or.inr tagged) nonzero
    (fun _ _ => ⟨port, user, rfl⟩) none (vidOf_outer rfl) (vidOf_outer rfl)

theorem keeps_egressFiltersOffSpTagCpu (tagged : dsa.spTag = true) :
    Keeps dsa dsa.cpuPort .egress (always prepareVlanEgressFiltersOffSpTagCpu) := by
  intro block sound
  have two : finalRulesOf dsa dsa.cpuPort .egress = 2 := by
    simp [finalRulesOf, tagged, dsa.cpuNotUser]
  have step := sound.setFinal 2 (remove (ofType .noFilter) (ofType .noFilter) .notRemoveTag)
    (by omega) (vidOf_final rfl rfl)
  exact step.setFinal 1 (remove (ofType .noFilter) (ofType .noTag) .notRemoveTag) (by omega)
    (vidOf_final rfl rfl)

theorem keeps_ingressFiltersOffSpTagNoVid (user : dsa.user port = true) (spVid : Nat) :
    Keeps dsa port .ingress (always (prepareVlanIngressFiltersOffSpTagNoVid spVid)) := by
  intro block sound
  have five : finalRulesOf dsa port .ingress = 5 := finalRulesOf_user user .ingress
  have step1 := sound.setFinal 3 (push (ofType .noTag) (ofType .noTag) spVid) (by omega)
    (vidOf_final rfl rfl)
  have step2 := step1.setFinal 2 (push (ofType .noFilter) (ofType .noTag) spVid) (by omega)
    (vidOf_final rfl rfl)
  exact step2.setFinal 1 (push (ofType .noFilter) (ofType .noFilter) spVid) (by omega)
    (vidOf_final rfl rfl)

theorem keeps_egressFiltersOffSpTagNoVid (user : dsa.user port = true) :
    Keeps dsa port .egress (always prepareVlanEgressFiltersOffSpTagNoVid) := by
  intro block sound
  have three : finalRulesOf dsa port .egress = 3 := finalRulesOf_user user .egress
  have step := sound.setFinal 2 (remove (ofType .noFilter) (ofType .noFilter) .remove1Tag)
    (by omega) (vidOf_final rfl rfl)
  exact step.setFinal 1 (remove (ofType .noFilter) (ofType .noTag) .remove1Tag) (by omega)
    (vidOf_final rfl rfl)

theorem keeps_vlanDelDirection (port : Port) (dir : Dir) (vid : Nat) :
    Keeps dsa port dir (vlanDelDirection vid) :=
  fun _ sound => sound.vlanDelDirection vid

theorem keeps_clearStaticRules (port : Port) (dir : Dir) :
    Keeps dsa port dir (always clearStaticRules) :=
  fun _ sound => sound.clearStaticRules

end Builders

end OpenwrtSource.Mxl862xx.BlockLedger
