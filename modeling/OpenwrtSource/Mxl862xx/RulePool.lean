import Mathlib.Data.Finset.Card
import Mathlib.Data.Finset.Range
import OpenwrtSource.Lib.Index
import OpenwrtSource.Mxl862xx.VlanBlock

/-!
# Who holds which rule index

The records in use and the valid entries of the recycled inventory hold the rule
indexes of a block.  A block is well kept when each of them holds the right number of
indexes, no index is held twice and the counter has given out no other one.
-/

namespace OpenwrtSource.Mxl862xx.RulePool

open Lib.Numbering Mxl862xx.VlanRules
open Mxl862xx.VlanBlock

/-! ## Holders -/

abbrev Holder := Nat ⊕ Nat

def live (info : BlockInfo) : Holder → Prop
  | .inl i => (info.vlans i).used = true
  | .inr x => (info.recycled x).valid = true

def idsOf (info : BlockInfo) : Holder → FilterIds
  | .inl i => (info.vlans i).filtersIdx
  | .inr x => (info.recycled x).filtersIdx

def Names (ids : FilterIds) (n : Nat) : Prop := ids.filter0 = n ∨ ids.filter1 = n

def holds (info : BlockInfo) (h : Holder) (n : Nat) : Prop := Names (idsOf info h) n

def rulesOf (paired : Bool) : Nat := if paired then 2 else 1

structure Shape (paired : Bool) (ids : FilterIds) : Prop where
  first : 0 ≤ ids.filter0
  second : if paired then 0 ≤ ids.filter1 else ids.filter1 = idxInval
  apart : ids.filter0 ≠ ids.filter1

def usedSet (info : BlockInfo) : Finset Nat :=
  (Finset.range maxVlansArray).filter fun i => (info.vlans i).used = true

def validSet (info : BlockInfo) : Finset Nat :=
  (Finset.range maxVlansArray).filter fun x => (info.recycled x).valid = true

def heldCount (info : BlockInfo) : Nat := (usedSet info).card + (validSet info).card

/-- `slots` bounds the record indexes and `cap` the number of holders. -/
structure Pool (paired : Bool) (slots cap : Nat) (info : BlockInfo) : Prop where
  slotsFit : slots ≤ maxVlansArray
  capFits : cap ≤ slots
  records : ∀ i, (info.vlans i).used = true → i < slots
  inventory : ∀ x, (info.recycled x).valid = true → x < maxVlansArray
  vidUsed : ∀ i, (info.vlans i).used = true → (info.vlans i).vid ≠ 0
  vidUnused : ∀ i, (info.vlans i).used = false → (info.vlans i).vid = 0
  vidOnce : ∀ i j, (info.vlans i).used = true → (info.vlans j).used = true →
    (info.vlans i).vid = (info.vlans j).vid → i = j
  shape : ∀ h, live info h → Shape paired (idsOf info h)
  numbered : Numbered (live info) (holds info) info.vidFiltersIdx
  count : info.vidFiltersIdx = rulesOf paired * heldCount info
  room : heldCount info ≤ cap

variable {info : BlockInfo}

theorem Pool.congr {paired : Bool} {slots cap : Nat} {info' : BlockInfo}
    (pool : Pool paired slots cap info) (vlans : info'.vlans = info.vlans)
    (recycled : info'.recycled = info.recycled)
    (counter : info'.vidFiltersIdx = info.vidFiltersIdx) : Pool paired slots cap info' := by
  obtain ⟨allocated, vidFiltersIdx, final, filtersMax, perVlan, blockId, v, r⟩ := info
  obtain ⟨allocated', vidFiltersIdx', final', filtersMax', perVlan', blockId', v', r'⟩ := info'
  dsimp only at vlans recycled counter
  subst vlans recycled counter
  exact ⟨pool.slotsFit, pool.capFits, pool.records, pool.inventory, pool.vidUsed,
    pool.vidUnused, pool.vidOnce, fun h alive => pool.shape h (by cases h <;> exact alive),
    ⟨fun h alive n holding => pool.numbered.below h (by cases h <;> exact alive) n
        (by cases h <;> exact holding),
      fun h h' alive alive' n holding holding' => pool.numbered.distinct h h'
        (by cases h <;> exact alive) (by cases h' <;> exact alive') n
        (by cases h <;> exact holding) (by cases h' <;> exact holding')⟩,
    pool.count, pool.room⟩

theorem mem_usedSet {i : Nat} :
    i ∈ usedSet info ↔ i < maxVlansArray ∧ (info.vlans i).used = true := by
  simp [usedSet]

theorem mem_validSet {x : Nat} :
    x ∈ validSet info ↔ x < maxVlansArray ∧ (info.recycled x).valid = true := by
  simp [validSet]

section Pools

variable {paired : Bool} {slots cap : Nat} {info : BlockInfo}

theorem Pool.used_lt (pool : Pool paired slots cap info) {i : Nat}
    (used : (info.vlans i).used = true) : i < maxVlansArray :=
  lt_of_lt_of_le (pool.records i used) pool.slotsFit

theorem Pool.used_of_vid (pool : Pool paired slots cap info) {i : Nat}
    (named : (info.vlans i).vid ≠ 0) : (info.vlans i).used = true := by
  by_contra unused
  exact named (pool.vidUnused i (by simpa using unused))

theorem Pool.exists_unused (pool : Pool paired slots cap info)
    (free : (usedSet info).card < slots) : ∃ i < slots, (info.vlans i).used = false := by
  by_contra none
  push Not at none
  have all : Finset.range slots ⊆ usedSet info := by
    intro i inside
    rw [Finset.mem_range] at inside
    have used := none i inside
    exact mem_usedSet.mpr ⟨lt_of_lt_of_le inside pool.slotsFit, by simpa using used⟩
  have counted := Finset.card_le_card all
  rw [Finset.card_range] at counted
  omega

end Pools

/-! ## The search of an empty slot -/

theorem freeSlot_range' (maxVlans : Nat) (vlans : Nat → Vlan) (a n : Nat) :
    match freeSlot maxVlans vlans (List.range' a n) with
    | .ok i =>
      (a ≤ i ∧ i < a + n ∧ (vlans i).used = false ∧
        ∀ j, a ≤ j → j < i → (vlans j).used = true ∧ j + 1 ≠ maxVlans) ∨
      (i = maxVlansArray ∧ ∀ j, a ≤ j → j < a + n → (vlans j).used = true)
    | .error _ =>
      a < maxVlans ∧ maxVlans ≤ a + n ∧
        ∀ j, a ≤ j → j < maxVlans → (vlans j).used = true := by
  induction n generalizing a with
  | zero =>
    simp only [List.range'_zero, freeSlot]
    exact Or.inr ⟨trivial, by omega⟩
  | succ n ih =>
    simp only [List.range'_succ, freeSlot]
    by_cases unused : (vlans a).used = false
    · rw [if_pos unused]
      exact Or.inl ⟨le_refl a, by omega, unused, by omega⟩
    have used : (vlans a).used = true := by simpa using unused
    rw [if_neg unused]
    by_cases last : a + 1 = maxVlans
    · rw [if_pos last]
      refine ⟨by omega, by omega, ?_⟩
      intro j lower upper
      obtain rfl : j = a := by omega
      exact used
    rw [if_neg last]
    have rest := ih (a + 1)
    generalize freeSlot maxVlans vlans (List.range' (a + 1) n) = found at rest ⊢
    cases found with
    | error e =>
      obtain ⟨lower, upper, all⟩ := rest
      refine ⟨by omega, by omega, fun j above below => ?_⟩
      by_cases first : j = a
      · rwa [first]
      · exact all j (by omega) below
    | ok i =>
      obtain ⟨lower, upper, free, before⟩ | ⟨outside, all⟩ := rest
      · refine Or.inl ⟨by omega, by omega, free, fun j above below => ?_⟩
        by_cases first : j = a
        · exact first ▸ ⟨used, last⟩
        · exact before j (by omega) below
      · refine Or.inr ⟨outside, fun j above below => ?_⟩
        by_cases first : j = a
        · rwa [first]
        · exact all j (by omega) (by omega)

def slotsOf (maxVlans : Nat) : Nat := min maxVlans maxVlansArray

theorem freeSlot_ok {maxVlans i : Nat} {vlans : Nat → Vlan} (positive : 0 < maxVlans)
    (inside : i < maxVlansArray)
    (found : freeSlot maxVlans vlans (List.range maxVlansArray) = .ok i) :
    i < slotsOf maxVlans ∧ (vlans i).used = false := by
  have spec := freeSlot_range' maxVlans vlans 0 maxVlansArray
  rw [← List.range_eq_range', found] at spec
  obtain ⟨-, upper, free, before⟩ | ⟨outside, -⟩ := spec
  · refine ⟨lt_min ?_ inside, free⟩
    by_contra above
    exact (before (maxVlans - 1) (by omega) (by omega)).2 (by omega)
  · omega

theorem freeSlot_of_unused {maxVlans k : Nat} {vlans : Nat → Vlan} (inside : k < slotsOf maxVlans)
    (unused : (vlans k).used = false) :
    ∃ i, freeSlot maxVlans vlans (List.range maxVlansArray) = .ok i ∧ i < maxVlansArray := by
  have spec := freeSlot_range' maxVlans vlans 0 maxVlansArray
  rw [← List.range_eq_range'] at spec
  have bounds := lt_min_iff.mp inside
  generalize freeSlot maxVlans vlans (List.range maxVlansArray) = found at spec ⊢
  cases found with
  | error e =>
    have used := spec.2.2 k (by omega) bounds.1
    simp [unused] at used
  | ok i =>
    refine ⟨i, rfl, ?_⟩
    obtain ⟨-, upper, -⟩ | ⟨-, all⟩ := spec
    · omega
    · have used := all k (by omega) (by omega)
      simp [unused] at used

/-! ## What a VLAN's rules are taken from -/

/-- `vid_filters_idx++`, as often as a VLAN needs. -/
def advance (info : BlockInfo) (n : Nat) : BlockInfo :=
  { info with vidFiltersIdx := info.vidFiltersIdx + n }

/-- The three sources of rule indexes: the record of the VID, the inventory and the
counter.  The result is the record's slot, the indexes and the records after it. -/
inductive Taken (paired : Bool) (slots vid : Nat) (info : BlockInfo) :
    Nat → FilterIds → BlockInfo → Prop
  | known (i : Nat) (used : (info.vlans i).used = true) (named : (info.vlans i).vid = vid) :
      Taken paired slots vid info i (info.vlans i).filtersIdx info
  | recycled (i x : Nat) (inside : i < slots) (unused : (info.vlans i).used = false)
      (absent : ∀ j, (info.vlans j).used = true → (info.vlans j).vid ≠ vid)
      (valid : (info.recycled x).valid = true) :
      Taken paired slots vid info i (info.recycled x).filtersIdx
        (info.setRecycled x { info.recycled x with valid := false })
  | fresh (i : Nat) (inside : i < slots) (unused : (info.vlans i).used = false)
      (absent : ∀ j, (info.vlans j).used = true → (info.vlans j).vid ≠ vid)
      (empty : ∀ x, (info.recycled x).valid = false) (ids : FilterIds)
      (first : ids.filter0 = info.vidFiltersIdx)
      (second : ids.filter1 = if paired then (info.vidFiltersIdx : Int) + 1 else idxInval) :
      Taken paired slots vid info i ids (advance info (rulesOf paired))

section Taking

variable {paired : Bool} {slots cap vid i : Nat} {info info' : BlockInfo} {ids : FilterIds}

@[simp] theorem setVlan_vlans (info : BlockInfo) (i : Nat) (vlan : Vlan) :
    (info.setVlan i vlan).vlans = Function.update info.vlans i vlan := rfl

@[simp] theorem setVlan_recycled (info : BlockInfo) (i : Nat) (vlan : Vlan) :
    (info.setVlan i vlan).recycled = info.recycled := rfl

@[simp] theorem setVlan_counter (info : BlockInfo) (i : Nat) (vlan : Vlan) :
    (info.setVlan i vlan).vidFiltersIdx = info.vidFiltersIdx := rfl

@[simp] theorem setRecycled_vlans (info : BlockInfo) (x : Nat) (entry : Recycled) :
    (info.setRecycled x entry).vlans = info.vlans := rfl

@[simp] theorem setRecycled_recycled (info : BlockInfo) (x : Nat) (entry : Recycled) :
    (info.setRecycled x entry).recycled = Function.update info.recycled x entry := rfl

@[simp] theorem setRecycled_counter (info : BlockInfo) (x : Nat) (entry : Recycled) :
    (info.setRecycled x entry).vidFiltersIdx = info.vidFiltersIdx := rfl

variable {vlan : Vlan}

theorem usedSet_setVlan_used (inside : i < maxVlansArray) (used : vlan.used = true) :
    usedSet (info.setVlan i vlan) = insert i (usedSet info) := by
  ext j
  rw [Finset.mem_insert, mem_usedSet, mem_usedSet, setVlan_vlans]
  by_cases same : j = i
  · subst same
    simp [used, inside]
  · simp [same]

theorem usedSet_setVlan_unused (unused : vlan.used = false) :
    usedSet (info.setVlan i vlan) = (usedSet info).erase i := by
  ext j
  rw [Finset.mem_erase, mem_usedSet, mem_usedSet, setVlan_vlans]
  by_cases same : j = i
  · subst same
    simp [unused]
  · simp [same]

theorem validSet_setRecycled_valid {x : Nat} {entry : Recycled} (inside : x < maxVlansArray)
    (valid : entry.valid = true) :
    validSet (info.setRecycled x entry) = insert x (validSet info) := by
  ext y
  rw [Finset.mem_insert, mem_validSet, mem_validSet, setRecycled_recycled]
  by_cases same : y = x
  · subst same
    simp [valid, inside]
  · simp [same]

theorem validSet_setRecycled_invalid {x : Nat} {entry : Recycled} (invalid : entry.valid = false) :
    validSet (info.setRecycled x entry) = (validSet info).erase x := by
  ext y
  rw [Finset.mem_erase, mem_validSet, mem_validSet, setRecycled_recycled]
  by_cases same : y = x
  · subst same
    simp [invalid]
  · simp [same]

@[simp] theorem usedSet_setRecycled (x : Nat) (entry : Recycled) :
    usedSet (info.setRecycled x entry) = usedSet info := rfl

@[simp] theorem validSet_setVlan (vlan : Vlan) :
    validSet (info.setVlan i vlan) = validSet info := rfl

@[simp] theorem usedSet_advance (n : Nat) : usedSet (advance info n) = usedSet info := rfl

@[simp] theorem validSet_advance (n : Nat) : validSet (advance info n) = validSet info := rfl

@[simp] theorem advance_counter (n : Nat) :
    (advance info n).vidFiltersIdx = info.vidFiltersIdx + n := rfl

theorem live_setVlan {h : Holder} (other : h ≠ .inl i) :
    live (info.setVlan i vlan) h ↔ live info h := by
  cases h with
  | inl j =>
    have apart : j ≠ i := fun same => other (congrArg Sum.inl same)
    simp [live, apart]
  | inr y => rfl

theorem idsOf_setVlan {h : Holder} (other : h ≠ .inl i) :
    idsOf (info.setVlan i vlan) h = idsOf info h := by
  cases h with
  | inl j =>
    have apart : j ≠ i := fun same => other (congrArg Sum.inl same)
    simp [idsOf, apart]
  | inr y => rfl

@[simp] theorem idsOf_setVlan_self : idsOf (info.setVlan i vlan) (.inl i) = vlan.filtersIdx := by
  simp [idsOf]

theorem Taken.vlans (taken : Taken paired slots vid info i ids info') :
    info'.vlans = info.vlans := by
  cases taken <;> rfl

theorem Taken.filtersMax (taken : Taken paired slots vid info i ids info') :
    info'.filtersMax = info.filtersMax := by
  cases taken <;> rfl

theorem Taken.finalFiltersIdx (taken : Taken paired slots vid info i ids info') :
    info'.finalFiltersIdx = info.finalFiltersIdx := by
  cases taken <;> rfl

theorem Taken.inside (pool : Pool paired slots cap info)
    (taken : Taken paired slots vid info i ids info') : i < slots := by
  cases taken with
  | known used _ => exact pool.records i used
  | recycled _ inside => exact inside
  | fresh inside => exact inside

theorem Taken.others (pool : Pool paired slots cap info)
    (taken : Taken paired slots vid info i ids info') {j : Nat} (other : j ≠ i)
    (used : (info.vlans j).used = true) : (info.vlans j).vid ≠ vid := by
  cases taken with
  | known usedI named =>
    intro same
    exact other (pool.vidOnce j i used usedI (same.trans named.symm))
  | recycled _ _ _ absent => exact absent j used
  | fresh _ _ absent => exact absent j used

theorem Taken.shape (pool : Pool paired slots cap info)
    (taken : Taken paired slots vid info i ids info') : Shape paired ids := by
  cases taken with
  | known used _ => exact pool.shape (.inl i) used
  | recycled x _ _ _ valid => exact pool.shape (.inr x) valid
  | fresh _ _ _ _ ids first second =>
    cases paired with
    | false =>
      rw [if_neg (by simp)] at second
      exact ⟨by omega, by simpa using second, by rw [first, second, idxInval]; omega⟩
    | true =>
      rw [if_pos rfl] at second
      exact ⟨by omega, by rw [if_pos rfl]; omega, by omega⟩

theorem Taken.numbered (pool : Pool paired slots cap info)
    (taken : Taken paired slots vid info i ids info') (sameIds : vlan.filtersIdx = ids) :
    Numbered (live (info'.setVlan i vlan)) (holds (info'.setVlan i vlan))
      (info'.setVlan i vlan).vidFiltersIdx := by
  cases taken with
  | known used _ =>
    refine pool.numbered.shrink fun h alive => ?_
    by_cases self : h = .inl i
    · subst self
      refine ⟨used, fun n holding => ?_⟩
      rw [holds, idsOf_setVlan_self, sameIds] at holding
      exact holding
    · exact ⟨(live_setVlan self).mp alive, fun n holding => by
        rwa [holds, idsOf_setVlan self] at holding⟩
  | recycled x _ _ _ valid =>
    have gone : ¬ live ((info.setRecycled x { info.recycled x with valid := false }).setVlan i
        vlan) (.inr x) := by simp [live]
    refine pool.numbered.hand (fun h => if h = .inl i then .inr x else h) ?_ ?_
    · intro h alive h' alive' same
      dsimp only at same
      have notGone : ∀ g, live ((info.setRecycled x { info.recycled x with valid := false
          }).setVlan i vlan) g → g ≠ .inr x := fun g alive same => gone (same ▸ alive)
      split_ifs at same with self self' self'
      · rw [self, self']
      · exact absurd same.symm (notGone h' alive')
      · exact absurd same (notGone h alive)
      · exact same
    · intro h alive
      by_cases self : h = .inl i
      · subst self
        rw [if_pos rfl]
        refine ⟨valid, fun n holding => ?_⟩
        rwa [holds, idsOf_setVlan_self, sameIds] at holding
      · rw [if_neg self]
        have notGone : h ≠ .inr x := fun same => gone (same ▸ alive)
        rw [live_setVlan self] at alive
        have held : ∀ n, holds ((info.setRecycled x { info.recycled x with valid := false
            }).setVlan i vlan) h n → holds info h n := by
          intro n holding
          rw [holds, idsOf_setVlan self] at holding
          cases h with
          | inl j => exact holding
          | inr y =>
            have apart : y ≠ x := fun same => notGone (congrArg Sum.inr same)
            simpa [holds, idsOf, apart] using holding
        refine ⟨?_, held⟩
        cases h with
        | inl j => exact alive
        | inr y =>
          have apart : y ≠ x := fun same => notGone (congrArg Sum.inr same)
          simpa [live, apart] using alive
  | fresh _ _ _ _ ids first second =>
    refine pool.numbered.take (.inl i) (Nat.le_add_right _ _) ?_ ?_
    · intro n holding
      rw [holds, idsOf_setVlan_self, sameIds, Names, first, second] at holding
      rw [setVlan_counter, advance_counter]
      cases paired with
      | false =>
        simp only [rulesOf, idxInval, Bool.false_eq_true, if_false] at holding ⊢
        omega
      | true =>
        simp only [rulesOf, if_true] at holding ⊢
        omega
    · intro h other alive
      rw [live_setVlan other] at alive
      refine ⟨by cases h <;> exact alive, fun n holding => ?_⟩
      rw [holds, idsOf_setVlan other] at holding
      cases h <;> exact holding

theorem Taken.heldCount (pool : Pool paired slots cap info)
    (taken : Taken paired slots vid info i ids info') (used : vlan.used = true)
    (capacity : (∀ j, (info.vlans j).used = true → (info.vlans j).vid ≠ vid) →
      (usedSet info).card < cap) :
    (info'.setVlan i vlan).vidFiltersIdx =
        rulesOf paired * RulePool.heldCount (info'.setVlan i vlan) ∧
      RulePool.heldCount (info'.setVlan i vlan) ≤ cap := by
  have inside := lt_of_lt_of_le (taken.inside pool) pool.slotsFit
  simp only [RulePool.heldCount, usedSet_setVlan_used inside used, validSet_setVlan,
    setVlan_counter]
  have count := pool.count
  have room := pool.room
  rw [RulePool.heldCount] at count room
  cases taken with
  | known wasUsed _ =>
    rw [Finset.insert_eq_self.mpr (mem_usedSet.mpr ⟨inside, wasUsed⟩)]
    exact ⟨count, room⟩
  | recycled x _ unused absent valid =>
    have new : i ∉ usedSet info := fun member => by
      simp [mem_usedSet, unused] at member
    have listed : x ∈ validSet info := mem_validSet.mpr ⟨pool.inventory x valid, valid⟩
    rw [usedSet_setRecycled, validSet_setRecycled_invalid rfl, setRecycled_counter,
      Finset.card_insert_of_notMem new, Finset.card_erase_of_mem listed]
    have positive := Finset.card_pos.mpr ⟨x, listed⟩
    rw [show (usedSet info).card + 1 + ((validSet info).card - 1) =
      (usedSet info).card + (validSet info).card by omega]
    exact ⟨count, room⟩
  | fresh _ unused absent empty ids _ _ =>
    have new : i ∉ usedSet info := fun member => by
      simp [mem_usedSet, unused] at member
    have nothing : validSet info = ∅ := by
      apply Finset.eq_empty_of_forall_notMem
      intro x member
      simp [mem_validSet, empty] at member
    have free := capacity absent
    rw [usedSet_advance, validSet_advance, nothing, Finset.card_insert_of_notMem new,
      Finset.card_empty, advance_counter]
    rw [nothing, Finset.card_empty] at count
    constructor
    · rw [count, Nat.add_zero, Nat.add_zero, Nat.mul_add, Nat.mul_one]
    · omega

theorem Pool.record (pool : Pool paired slots cap info)
    (taken : Taken paired slots vid info i ids info') (positive : vid ≠ 0)
    (capacity : (∀ j, (info.vlans j).used = true → (info.vlans j).vid ≠ vid) →
      (usedSet info).card < cap) (used : vlan.used = true) (named : vlan.vid = vid)
    (sameIds : vlan.filtersIdx = ids) : Pool paired slots cap (info'.setVlan i vlan) where
  slotsFit := pool.slotsFit
  capFits := pool.capFits
  records := by
    intro j usedJ
    by_cases self : j = i
    · rw [self]
      exact taken.inside pool
    · rw [setVlan_vlans, Function.update_of_ne self, taken.vlans] at usedJ
      exact pool.records j usedJ
  inventory := by
    intro x valid
    rw [setVlan_recycled] at valid
    cases taken with
    | known => exact pool.inventory x valid
    | recycled y _ _ _ validY =>
      by_cases self : x = y
      · rw [self]
        exact pool.inventory y validY
      · rw [setRecycled_recycled, Function.update_of_ne self] at valid
        exact pool.inventory x valid
    | fresh => exact pool.inventory x valid
  vidUsed := by
    intro j usedJ
    rw [setVlan_vlans, taken.vlans] at usedJ ⊢
    by_cases self : j = i
    · rw [self, Function.update_self, named]
      exact positive
    · rw [Function.update_of_ne self] at usedJ ⊢
      exact pool.vidUsed j usedJ
  vidUnused := by
    intro j unusedJ
    rw [setVlan_vlans, taken.vlans] at unusedJ ⊢
    by_cases self : j = i
    · rw [self, Function.update_self, used] at unusedJ
      cases unusedJ
    · rw [Function.update_of_ne self] at unusedJ ⊢
      exact pool.vidUnused j unusedJ
  vidOnce := by
    intro j k usedJ usedK same
    rw [setVlan_vlans, taken.vlans] at usedJ usedK same
    by_cases selfJ : j = i
    · by_cases selfK : k = i
      · rw [selfJ, selfK]
      · rw [Function.update_of_ne selfK] at usedK
        rw [selfJ, Function.update_self, Function.update_of_ne selfK, named] at same
        exact absurd same.symm (taken.others pool selfK usedK)
    · rw [Function.update_of_ne selfJ] at usedJ same
      by_cases selfK : k = i
      · rw [selfK, Function.update_self, named] at same
        exact absurd same (taken.others pool selfJ usedJ)
      · rw [Function.update_of_ne selfK] at usedK same
        exact pool.vidOnce j k usedJ usedK same
  shape := by
    intro h alive
    by_cases self : h = .inl i
    · rw [self, idsOf_setVlan_self, sameIds]
      exact taken.shape pool
    · rw [live_setVlan self] at alive
      rw [idsOf_setVlan self]
      cases taken with
      | known => exact pool.shape h alive
      | recycled y _ _ _ _ =>
        cases h with
        | inl j => exact pool.shape (.inl j) alive
        | inr x =>
          have apart : x ≠ y := by
            rintro rfl
            simp [live] at alive
          simp only [live, setRecycled_recycled, Function.update_of_ne apart] at alive
          simp only [idsOf, setRecycled_recycled, Function.update_of_ne apart]
          exact pool.shape (.inr x) alive
      | fresh =>
        cases h with
        | inl j => exact pool.shape (.inl j) alive
        | inr x => exact pool.shape (.inr x) alive
  numbered := taken.numbered pool sameIds
  count := (taken.heldCount pool used capacity).1
  room := (taken.heldCount pool used capacity).2

end Taking

/-! ## `get_vlan_vid_filters_idx` -/

section Search

variable {paired : Bool} {maxVlans cap vid : Nat} {info : BlockInfo}

theorem findVid_some {i : Nat} (found : info.findVid vid = some i) : (info.vlans i).vid = vid := by
  simpa using List.find?_some found

theorem findVid_none (pool : Pool paired (slotsOf maxVlans) cap info)
    (missing : info.findVid vid = none) {j : Nat} (used : (info.vlans j).used = true) :
    (info.vlans j).vid ≠ vid := by
  rw [BlockInfo.findVid, List.find?_eq_none] at missing
  simpa using missing j (by simpa using pool.used_lt used)

theorem findRecycled_none (pool : Pool paired (slotsOf maxVlans) cap info)
    (missing : info.findRecycled = none) (x : Nat) : (info.recycled x).valid = false := by
  rw [BlockInfo.findRecycled, List.find?_eq_none] at missing
  by_contra valid
  have set : (info.recycled x).valid = true := by simpa using valid
  exact missing x (by simpa using pool.inventory x set) set

theorem newFilters_cases (pool : Pool paired (slotsOf maxVlans) cap info) (positive : 0 < maxVlans)
    (ids : FilterIds) :
    (∃ i x, i < slotsOf maxVlans ∧ (info.vlans i).used = false ∧ (info.recycled x).valid = true ∧
      newFilters maxVlans false ids info =
        (info.setRecycled x { info.recycled x with valid := false },
          .ok ((info.recycled x).filtersIdx, i))) ∨
    (∃ i, i < slotsOf maxVlans ∧ (info.vlans i).used = false ∧
      (∀ x, (info.recycled x).valid = false) ∧
      newFilters maxVlans false ids info = (info, .ok (ids, i))) ∨
    (slotsOf maxVlans ≤ (usedSet info).card ∧ ∃ e,
      newFilters maxVlans false ids info = (info, .error e)) := by
  by_cases free : (usedSet info).card < slotsOf maxVlans
  · obtain ⟨k, inside, unused⟩ := pool.exists_unused free
    obtain ⟨i, found, below⟩ := freeSlot_of_unused inside unused
    obtain ⟨slot, empty⟩ := freeSlot_ok positive below found
    cases recycled : info.findRecycled with
    | some x =>
      have valid : (info.recycled x).valid = true := by simpa using List.find?_some recycled
      refine Or.inl ⟨i, x, slot, empty, valid, ?_⟩
      simp only [newFilters, recycled, setRecycled_vlans, found]
      rw [if_pos (Or.inl below)]
    | none =>
      refine Or.inr (Or.inl ⟨i, slot, empty, findRecycled_none pool recycled, ?_⟩)
      simp only [newFilters, recycled, found]
      rw [if_pos (Or.inl below)]
  · have full := Nat.not_lt.mp free
    have counted := pool.room
    have capFits := pool.capFits
    rw [heldCount] at counted
    have nothing : validSet info = ∅ := Finset.card_eq_zero.mp (by omega)
    have recycled : info.findRecycled = none := by
      rw [BlockInfo.findRecycled, List.find?_eq_none]
      intro x inside valid
      have member := mem_validSet.mpr ⟨List.mem_range.mp inside, valid⟩
      rw [nothing] at member
      exact absurd member (Finset.notMem_empty x)
    refine Or.inr (Or.inr ⟨full, ?_⟩)
    cases found : freeSlot maxVlans info.vlans (List.range maxVlansArray) with
    | error e =>
      refine ⟨e, ?_⟩
      simp only [newFilters, recycled, found]
    | ok i =>
      refine ⟨.inval, ?_⟩
      have outside : ¬ i < maxVlansArray := by
        intro below
        obtain ⟨slot, unused⟩ := freeSlot_ok positive below found
        have used : Finset.range (slotsOf maxVlans) = usedSet info := by
          refine (Finset.eq_of_subset_of_card_le ?_ (by simpa using full)).symm
          intro j member
          exact Finset.mem_range.mpr (pool.records j (mem_usedSet.mp member).2)
        have member : i ∈ usedSet info := used ▸ Finset.mem_range.mpr slot
        simp [mem_usedSet, unused] at member
      simp only [newFilters, recycled, found]
      rw [if_neg (by simp [outside])]

theorem getVlanVidFiltersIdx_cases (pool : Pool paired (slotsOf maxVlans) cap info)
    (positive : 0 < maxVlans) (nonzero : vid ≠ 0) :
    (∃ i, (info.vlans i).used = true ∧ (info.vlans i).vid = vid ∧
      getVlanVidFiltersIdx maxVlans vid info = (info, .ok ((info.vlans i).filtersIdx, i))) ∨
    (∀ j, (info.vlans j).used = true → (info.vlans j).vid ≠ vid) ∧
    ((∃ i x, i < slotsOf maxVlans ∧ (info.vlans i).used = false ∧ (info.recycled x).valid = true ∧
      getVlanVidFiltersIdx maxVlans vid info =
        (info.setRecycled x { info.recycled x with valid := false },
          .ok ((info.recycled x).filtersIdx, i))) ∨
    (∃ i, i < slotsOf maxVlans ∧ (info.vlans i).used = false ∧
      (∀ x, (info.recycled x).valid = false) ∧
      getVlanVidFiltersIdx maxVlans vid info =
        (info, .ok ({ filter0 := -1, filter1 := -1 }, i))) ∨
    (slotsOf maxVlans ≤ (usedSet info).card ∧ ∃ e,
      getVlanVidFiltersIdx maxVlans vid info = (info, .error e))) := by
  cases found : info.findVid vid with
  | some i =>
    have named := findVid_some found
    have used := pool.used_of_vid (i := i) (by rwa [named])
    refine Or.inl ⟨i, used, named, ?_⟩
    have shaped := (pool.shape (.inl i) used).first
    simp only [getVlanVidFiltersIdx, found]
    rw [if_neg]
    intro negative
    exact absurd negative.1 (not_lt.mpr shaped)
  | none =>
    refine Or.inr ⟨fun j => findVid_none pool found, ?_⟩
    simp only [getVlanVidFiltersIdx, found]
    obtain recycled | fresh | ⟨full, e, failed⟩ := newFilters_cases pool positive
      { filter0 := -1, filter1 := -1 }
    · exact Or.inl recycled
    · exact Or.inr (Or.inl fresh)
    · exact Or.inr (Or.inr ⟨full, e, failed⟩)

end Search

/-! ## The writers -/

section Writers

variable {maxVlans cap vid : Nat} {untagged : Option Bool} {block : Block}

/-- What a builder leaves: the record with its indexes, and the rules at these. -/
def wrote (paired : Bool) (vid : Nat) (untagged : Option Bool) (first second : Rule) (i : Nat)
    (ids : FilterIds) (info : BlockInfo) (rules : Nat → Rule) : Block where
  info := info.setVlan i ((info.vlans i).record ids vid untagged)
  rules :=
    let rules := Function.update rules ids.filter0.toNat first
    if paired then Function.update rules ids.filter1.toNat second else rules

theorem takeIdx_of_nonneg {filter : Int} (given : 0 ≤ filter) (block : Block) :
    block.takeIdx filter = (block, filter.toNat) := if_pos given

theorem writePair_of_shape {ids : FilterIds} (shape : Shape true ids) (first second : Rule)
    (i : Nat) (block : Block) :
    writePair vid untagged first second ids i block =
      wrote true vid untagged first second i ids block.info block.rules := by
  have given0 := shape.first
  have given1 := shape.second
  rw [if_pos rfl] at given1
  have same : ids = { filter0 := ids.filter0.toNat, filter1 := ids.filter1.toNat } := by
    cases ids
    simp only [FilterIds.mk.injEq]
    exact ⟨(Int.toNat_of_nonneg given0).symm, (Int.toNat_of_nonneg given1).symm⟩
  simp only [writePair, takeIdx_of_nonneg given0, takeIdx_of_nonneg given1, Block.set, wrote,
    ← same, if_true]

theorem writeSingle_of_shape {ids : FilterIds} (shape : Shape false ids) (first second : Rule)
    (i : Nat) (block : Block) :
    writeSingle vid untagged first ids i block =
      wrote false vid untagged first second i ids block.info block.rules := by
  have given0 := shape.first
  have given1 := shape.second
  rw [if_neg (by simp)] at given1
  have same : ids = { filter0 := ids.filter0.toNat, filter1 := idxInval } := by
    cases ids
    simp only [FilterIds.mk.injEq]
    exact ⟨(Int.toNat_of_nonneg given0).symm, given1⟩
  simp only [writeSingle, takeIdx_of_nonneg given0, Block.set, wrote, ← same, Bool.false_eq_true,
    if_false]

section Wrote

variable {paired : Bool} {first second : Rule} {i : Nat} {ids : FilterIds} {info : BlockInfo}
  {rules : Nat → Rule}

theorem wrote_first (shape : Shape paired ids) :
    (wrote paired vid untagged first second i ids info rules).rules ids.filter0.toNat = first := by
  cases paired with
  | false => exact Function.update_self _ _ _
  | true =>
    have given0 := shape.first
    have given1 := shape.second
    have apart := shape.apart
    rw [if_pos rfl] at given1
    exact (Function.update_of_ne (by omega) _ _).trans (Function.update_self _ _ _)

theorem wrote_second :
    (wrote true vid untagged first second i ids info rules).rules ids.filter1.toNat = second :=
  Function.update_self _ _ _

theorem wrote_unnamed (shape : Shape paired ids) {n : Nat} (unnamed : ¬ Names ids n) :
    (wrote paired vid untagged first second i ids info rules).rules n = rules n := by
  have given0 := shape.first
  have apart0 : n ≠ ids.filter0.toNat := by
    rintro rfl
    exact unnamed (Or.inl (Int.toNat_of_nonneg given0).symm)
  cases paired with
  | false => exact Function.update_of_ne apart0 _ _
  | true =>
    have given1 := shape.second
    rw [if_pos rfl] at given1
    have apart1 : n ≠ ids.filter1.toNat := by
      rintro rfl
      exact unnamed (Or.inr (Int.toNat_of_nonneg given1).symm)
    exact (Function.update_of_ne apart1 _ _).trans (Function.update_of_ne apart0 _ _)

theorem wrote_named (shape : Shape paired ids) {n : Nat} (named : Names ids n) :
    (wrote paired vid untagged first second i ids info rules).rules n = first ∨
      (wrote paired vid untagged first second i ids info rules).rules n = second := by
  obtain at0 | at1 := named
  · left
    obtain rfl : n = ids.filter0.toNat := by omega
    exact wrote_first shape
  · right
    have given1 := shape.second
    cases paired with
    | false =>
      rw [if_neg (by simp), at1] at given1
      simp [idxInval] at given1
    | true =>
      obtain rfl : n = ids.filter1.toNat := by omega
      exact wrote_second

end Wrote

def writer (paired : Bool) (vid : Nat) (untagged : Option Bool) (first second : Rule) :
    FilterIds → Nat → Block → Block :=
  if paired then writePair vid untagged first second else writeSingle vid untagged first

theorem withFilters_cases {paired : Bool} (pool : Pool paired (slotsOf maxVlans) cap block.info)
    (positive : 0 < maxVlans) (nonzero : vid ≠ 0) (untagged : Option Bool) (first second : Rule) :
    (∃ i ids info', Taken paired (slotsOf maxVlans) vid block.info i ids info' ∧
      withFilters maxVlans vid block (writer paired vid untagged first second) =
        (wrote paired vid untagged first second i ids info' block.rules, none)) ∨
    ((∀ j, (block.info.vlans j).used = true → (block.info.vlans j).vid ≠ vid) ∧
      slotsOf maxVlans ≤ (usedSet block.info).card ∧
      ∃ e, withFilters maxVlans vid block (writer paired vid untagged first second) =
        (block, some e)) := by
  have given : ∀ ids i (info : BlockInfo), Shape paired ids →
      writer paired vid untagged first second ids i { block with info := info } =
        wrote paired vid untagged first second i ids info block.rules := by
    intro ids i info shape
    cases paired with
    | false => exact writeSingle_of_shape shape first second i _
    | true => exact writePair_of_shape shape first second i _
  obtain ⟨i, used, named, found⟩ | ⟨absent, recycled | fresh | full⟩ :=
    getVlanVidFiltersIdx_cases pool positive nonzero
  · refine Or.inl ⟨i, _, _, Taken.known i used named, ?_⟩
    simp only [withFilters, found]
    rw [given (block.info.vlans i).filtersIdx _ _ (pool.shape (.inl i) used)]
  · obtain ⟨i, x, inside, unused, valid, found⟩ := recycled
    refine Or.inl ⟨i, _, _, Taken.recycled i x inside unused absent valid, ?_⟩
    simp only [withFilters, found]
    rw [given (block.info.recycled x).filtersIdx _ _ (pool.shape (.inr x) valid)]
  · obtain ⟨i, inside, unused, empty, found⟩ := fresh
    cases paired with
    | false =>
      refine Or.inl ⟨i, _, _, Taken.fresh i inside unused absent empty
        { filter0 := block.info.vidFiltersIdx, filter1 := idxInval } rfl rfl, ?_⟩
      simp only [withFilters, found]
      rfl
    | true =>
      refine Or.inl ⟨i, _, _, Taken.fresh i inside unused absent empty
        { filter0 := block.info.vidFiltersIdx, filter1 := block.info.vidFiltersIdx + 1 }
        rfl rfl, ?_⟩
      simp only [withFilters, found]
      rfl
  · obtain ⟨used, e, found⟩ := full
    refine Or.inr ⟨absent, used, e, ?_⟩
    simp only [withFilters, found]

end Writers

/-! ## Deletion -/

section Deletion

variable {paired : Bool} {slots cap vid : Nat} {info : BlockInfo} {block : Block}

/-- The records after the indexes of record `i` went to entry `x` of the inventory. -/
def released (info : BlockInfo) (i x : Nat) : BlockInfo :=
  let gone : Vlan := { info.vlans i with
    vid := 0, used := false, filtersIdx := { filter0 := idxInval, filter1 := idxInval } }
  (info.setVlan i gone).setRecycled x
    { filtersIdx := (info.vlans i).filtersIdx, valid := true }

@[simp] theorem released_vlans (i x : Nat) :
    (released info i x).vlans = Function.update info.vlans i { info.vlans i with
      vid := 0, used := false, filtersIdx := { filter0 := idxInval, filter1 := idxInval } } := rfl

@[simp] theorem released_recycled (i x : Nat) :
    (released info i x).recycled = Function.update info.recycled x
      { filtersIdx := (info.vlans i).filtersIdx, valid := true } := rfl

@[simp] theorem released_counter (i x : Nat) :
    (released info i x).vidFiltersIdx = info.vidFiltersIdx := rfl

variable {i : Nat}

theorem findUsed_some (found : info.findUsed vid = some i) :
    (info.vlans i).vid = vid ∧ (info.vlans i).used = true := by
  simpa using List.find?_some found

theorem findUsed_none (pool : Pool paired slots cap info) (missing : info.findUsed vid = none)
    {j : Nat} (used : (info.vlans j).used = true) : (info.vlans j).vid ≠ vid := by
  rw [BlockInfo.findUsed, List.find?_eq_none] at missing
  intro named
  exact missing j (by simpa using pool.used_lt used) (by simp [named, used])

theorem findUnrecycled_of_used (pool : Pool paired slots cap info)
    (used : (info.vlans i).used = true) :
    ∃ x, info.findUnrecycled = some x ∧ x < maxVlansArray ∧ (info.recycled x).valid = false := by
  cases found : info.findUnrecycled with
  | some x =>
    refine ⟨x, rfl, by simpa using List.mem_of_find?_eq_some found, ?_⟩
    simpa using List.find?_some found
  | none =>
    exfalso
    rw [BlockInfo.findUnrecycled, List.find?_eq_none] at found
    have all : Finset.range maxVlansArray ⊆ validSet info := by
      intro x inside
      have valid := found x (by simpa using inside)
      exact mem_validSet.mpr ⟨Finset.mem_range.mp inside, by simpa using valid⟩
    have counted := Finset.card_le_card all
    have member := Finset.card_pos.mpr ⟨i, mem_usedSet.mpr ⟨pool.used_lt used, used⟩⟩
    have room := pool.room
    have slotsFit := pool.slotsFit
    have capFits := pool.capFits
    rw [Finset.card_range] at counted
    rw [heldCount] at room
    omega

theorem heldCount_released {x : Nat} (inside : i < maxVlansArray)
    (used : (info.vlans i).used = true) (below : x < maxVlansArray)
    (invalid : (info.recycled x).valid = false) :
    heldCount (released info i x) = heldCount info := by
  have usedAfter : usedSet (released info i x) = (usedSet info).erase i :=
    usedSet_setVlan_unused rfl
  have validAfter : validSet (released info i x) = insert x (validSet info) :=
    validSet_setRecycled_valid below rfl
  have member : i ∈ usedSet info := mem_usedSet.mpr ⟨inside, used⟩
  have new : x ∉ validSet info := fun listed => by
    simp [mem_validSet, invalid] at listed
  have positive := Finset.card_pos.mpr ⟨i, member⟩
  rw [heldCount, heldCount, usedAfter, validAfter, Finset.card_erase_of_mem member,
    Finset.card_insert_of_notMem new]
  omega

theorem live_released {x : Nat} {h : Holder} (other : h ≠ .inr x) :
    live (released info i x) h ↔ h ≠ .inl i ∧ live info h := by
  cases h with
  | inl j =>
    by_cases self : j = i
    · subst self
      simp [live]
    · simp [live, self]
  | inr y =>
    have apart : y ≠ x := fun same => other (congrArg Sum.inr same)
    simp [live, apart]

theorem idsOf_released {x : Nat} {h : Holder} (other : h ≠ .inr x) (still : h ≠ .inl i) :
    idsOf (released info i x) h = idsOf info h := by
  cases h with
  | inl j =>
    have apart : j ≠ i := fun same => still (congrArg Sum.inl same)
    simp [idsOf, apart]
  | inr y =>
    have apart : y ≠ x := fun same => other (congrArg Sum.inr same)
    simp [idsOf, apart]

theorem idsOf_released_self (i x : Nat) :
    idsOf (released info i x) (.inr x) = idsOf info (.inl i) := by
  simp [idsOf]

theorem Pool.release (pool : Pool paired slots cap info) {x : Nat}
    (used : (info.vlans i).used = true) (below : x < maxVlansArray)
    (invalid : (info.recycled x).valid = false) : Pool paired slots cap (released info i x) where
  slotsFit := pool.slotsFit
  capFits := pool.capFits
  records := by
    intro j usedJ
    by_cases self : j = i
    · rw [self]
      exact pool.records i used
    · rw [released_vlans, Function.update_of_ne self] at usedJ
      exact pool.records j usedJ
  inventory := by
    intro y valid
    by_cases self : y = x
    · rwa [self]
    · rw [released_recycled, Function.update_of_ne self] at valid
      exact pool.inventory y valid
  vidUsed := by
    intro j usedJ
    rw [released_vlans] at usedJ ⊢
    by_cases self : j = i
    · rw [self, Function.update_self] at usedJ
      cases usedJ
    · rw [Function.update_of_ne self] at usedJ ⊢
      exact pool.vidUsed j usedJ
  vidUnused := by
    intro j unusedJ
    rw [released_vlans] at unusedJ ⊢
    by_cases self : j = i
    · rw [self, Function.update_self]
    · rw [Function.update_of_ne self] at unusedJ ⊢
      exact pool.vidUnused j unusedJ
  vidOnce := by
    intro j k usedJ usedK same
    have still : ∀ j, ((released info i x).vlans j).used = true →
        j ≠ i ∧ (released info i x).vlans j = info.vlans j := by
      intro j usedJ
      have apart : j ≠ i := by
        rintro rfl
        simp at usedJ
      exact ⟨apart, by simp [apart]⟩
    obtain ⟨-, sameJ⟩ := still j usedJ
    obtain ⟨-, sameK⟩ := still k usedK
    rw [sameJ] at usedJ same
    rw [sameK] at usedK same
    exact pool.vidOnce j k usedJ usedK same
  shape := by
    intro h alive
    by_cases new : h = .inr x
    · rw [new, idsOf_released_self]
      exact pool.shape (.inl i) used
    · obtain ⟨still, before⟩ := (live_released new).mp alive
      rw [idsOf_released new still]
      exact pool.shape h before
  numbered := by
    refine pool.numbered.hand (fun h => if h = .inr x then .inl i else h) ?_ ?_
    · intro h alive h' alive' same
      have still : ∀ g, g ≠ .inr x → live (released info i x) g → g ≠ .inl i :=
        fun g new alive => ((live_released new).mp alive).1
      dsimp only at same
      split_ifs at same with new new' new'
      · rw [new, new']
      · exact absurd same.symm (still h' new' alive')
      · exact absurd same (still h new alive)
      · exact same
    · intro h alive
      by_cases new : h = .inr x
      · rw [if_pos new]
        refine ⟨used, fun n holding => ?_⟩
        rwa [new, holds, idsOf_released_self] at holding
      · rw [if_neg new]
        obtain ⟨still, before⟩ := (live_released new).mp alive
        refine ⟨before, fun n holding => ?_⟩
        rwa [holds, idsOf_released new still] at holding
  count := by
    rw [released_counter, heldCount_released (pool.used_lt used) used below invalid]
    exact pool.count
  room := by
    rw [heldCount_released (pool.used_lt used) used below invalid]
    exact pool.room

theorem deactivateRecord_unnamed {ids : FilterIds} (shape : Shape paired ids) {n : Nat}
    (unnamed : ¬ Names ids n) : (deactivateRecord ids block).rules n = block.rules n := by
  have given0 := shape.first
  have apart0 : n ≠ ids.filter0.toNat := by
    rintro rfl
    exact unnamed (Or.inl (Int.toNat_of_nonneg given0).symm)
  have apart1 : ids.filter1 ≠ idxInval → n ≠ ids.filter1.toNat := by
    rintro valid rfl
    have given1 := shape.second
    cases paired with
    | false => exact valid (by rwa [if_neg (by simp)] at given1)
    | true =>
      rw [if_pos rfl] at given1
      exact unnamed (Or.inr (Int.toNat_of_nonneg given1).symm)
  simp only [deactivateRecord, deactivateVlanFilterEntry, Block.set]
  split_ifs with valid1 valid0 valid0
  · simp [apart0, apart1 valid1]
  · simp [apart1 valid1]
  · simp [apart0]
  · rfl

theorem deactivateRecord_named {ids : FilterIds} {n : Nat} (named : Names ids n) :
    (deactivateRecord ids block).rules n = deactivated := by
  have valid : ∀ k : Nat, ((k : Int) ≠ idxInval) := by
    intro k
    rw [idxInval]
    omega
  simp only [deactivateRecord, deactivateVlanFilterEntry, Block.set]
  obtain at0 | at1 := named
  · rw [at0, if_pos (valid n), Int.toNat_natCast]
    split_ifs
    · by_cases same : n = ids.filter1.toNat
      · rw [← same]
        exact Function.update_self _ _ _
      · exact (Function.update_of_ne same _ _).trans (Function.update_self _ _ _)
    · exact Function.update_self _ _ _
  · rw [at1, if_pos (valid n), Int.toNat_natCast]
    exact Function.update_self _ _ _

theorem vlanDelDirection_cases (pool : Pool paired slots cap block.info) (vid : Nat) :
    ((∀ j, (block.info.vlans j).used = true → (block.info.vlans j).vid ≠ vid) ∧
      vlanDelDirection vid block = (staticRulesCleanup block, none)) ∨
    ∃ i x, (block.info.vlans i).used = true ∧ (block.info.vlans i).vid = vid ∧
      x < maxVlansArray ∧ (block.info.recycled x).valid = false ∧
      vlanDelDirection vid block =
        (let block' : Block :=
          { info := released block.info i x
            rules := (deactivateRecord (block.info.vlans i).filtersIdx block).rules }
        (if i = maxVlansArray - 1 then staticRulesCleanup block' else block', none)) := by
  cases found : block.info.findUsed vid with
  | none =>
    refine Or.inl ⟨fun j => findUsed_none pool found, ?_⟩
    simp only [vlanDelDirection, found]
  | some i =>
    obtain ⟨named, used⟩ := findUsed_some found
    obtain ⟨x, free, below, invalid⟩ := findUnrecycled_of_used pool used
    have sameInfo : ∀ ids, (deactivateRecord ids block).info = block.info := by
      intro ids
      simp only [deactivateRecord]
      split_ifs <;> rfl
    refine Or.inr ⟨i, x, used, named, below, invalid, ?_⟩
    simp only [vlanDelDirection, found, sameInfo, free]
    rfl

end Deletion

end OpenwrtSource.Mxl862xx.RulePool
