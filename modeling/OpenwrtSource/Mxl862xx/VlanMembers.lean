import OpenwrtSource.Mxl862xx.BlockLedger

/-!
# The rules of a port's members

A block that files a set of VLANs: each member has a record, the record's two entries
hold the member's rules, and the other entries in front of the final rules are dead.
-/

namespace OpenwrtSource.Mxl862xx.VlanMembers

open Mxl862xx.VlanRules Mxl862xx.VlanBlock
open Mxl862xx.RulePool Mxl862xx.BlockLedger

/-- A VLAN's rules: both filter on the outer VID, for frames with and without an inner
tag. -/
def vlanRule (tags : RemoveTag) (inner : FilterType) (vid : Nat) : Rule :=
  remove (ofVid vid) (ofType inner) tags

/-- The records are the members, their entries are the members' rules and every other
entry below `split` is dead. -/
structure Filed (tags : Bool → RemoveTag) (slots split : Nat) (member : Nat → Option Bool)
    (block : Block) : Prop where
  pool : Pool true slots slots block.info
  fits : 2 * slots ≤ split
  listed : ∀ vid, (member vid).isSome → ∃ i, (block.info.vlans i).used = true ∧
    (block.info.vlans i).vid = vid
  ruled : ∀ i, (block.info.vlans i).used = true → ∃ untagged,
    member (block.info.vlans i).vid = some untagged ∧
    block.rules (block.info.vlans i).filtersIdx.filter0.toNat =
      vlanRule (tags untagged) .normal (block.info.vlans i).vid ∧
    block.rules (block.info.vlans i).filtersIdx.filter1.toNat =
      vlanRule (tags untagged) .noTag (block.info.vlans i).vid
  quiet : ∀ n, n < split →
    (∀ i, (block.info.vlans i).used = true → ¬ holds block.info (.inl i) n) →
    block.rules n = deactivated

section Blocks

variable {tags : Bool → RemoveTag} {slots split : Nat} {member : Nat → Option Bool}
  {block block' : Block}

variable {n : Nat} {frame : Frame} {tag : Tag}

theorem Filed.below (filed : Filed tags slots split member block) {h : Holder}
    (alive : live block.info h) (holding : holds block.info h n) : n < split := by
  have counted := filed.pool.numbered.below h alive n holding
  have room := filed.pool.room
  have fits := filed.fits
  rw [filed.pool.count, rulesOf, if_pos rfl] at counted
  omega

theorem Filed.names {i : Nat} (filed : Filed tags slots split member block)
    (used : (block.info.vlans i).used = true) :
    holds block.info (.inl i) (block.info.vlans i).filtersIdx.filter0.toNat ∧
      holds block.info (.inl i) (block.info.vlans i).filtersIdx.filter1.toNat := by
  have shape := filed.pool.shape (.inl i) used
  have second := shape.second
  rw [if_pos rfl] at second
  exact ⟨Or.inl (Int.toNat_of_nonneg shape.first).symm, Or.inr (Int.toNat_of_nonneg second).symm⟩

theorem Filed.congr (filed : Filed tags slots split member block)
    (vlans : block'.info.vlans = block.info.vlans)
    (recycled : block'.info.recycled = block.info.recycled)
    (counter : block'.info.vidFiltersIdx = block.info.vidFiltersIdx)
    (rules : ∀ n, n < split → block'.rules n = block.rules n) :
    Filed tags slots split member block' := by
  have same : ∀ i n, holds block'.info (.inl i) n ↔ holds block.info (.inl i) n := by
    intro i n
    rw [holds, holds, idsOf, idsOf, vlans]
  refine ⟨filed.pool.congr vlans recycled counter, filed.fits, ?_, ?_, ?_⟩
  · rw [vlans]
    exact filed.listed
  · intro i used
    rw [vlans] at used ⊢
    obtain ⟨name0, name1⟩ := filed.names used
    rw [rules _ (filed.below (h := .inl i) used name0),
      rules _ (filed.below (h := .inl i) used name1)]
    exact filed.ruled i used
  · intro n below unnamed
    rw [rules n below]
    refine filed.quiet n below fun i used => ?_
    rw [← same]
    exact unnamed i (by rwa [vlans])

theorem Filed.setFinal (filed : Filed tags slots split member block) {back : Nat} {rule : Rule}
    (behind : split ≤ block.info.filtersMax - back) :
    Filed tags slots split member (block.setFinal back rule) :=
  filed.congr rfl rfl rfl fun _ below => Function.update_of_ne (by omega) _ _

theorem Filed.takes (filed : Filed tags slots split member block) (outer : frame.outer = some tag)
    (below : n < split) (taken : (block.rules n).takes frame = true) : ∃ untagged,
      member tag.vid = some untagged ∧
      block.rules n = vlanRule (tags untagged)
        (if frame.inner.isSome then .normal else .noTag) tag.vid := by
  by_cases owned : ∃ i, (block.info.vlans i).used = true ∧ holds block.info (.inl i) n
  · obtain ⟨i, used, holding⟩ := owned
    obtain ⟨untagged, named, rule0, rule1⟩ := filed.ruled i used
    have inner : ∀ type, block.rules n =
        vlanRule (tags untagged) type (block.info.vlans i).vid →
        tag.vid = (block.info.vlans i).vid ∧ (ofType type).admits frame.inner = true := by
      intro type rule
      rw [rule] at taken
      simp only [Rule.takes, vlanRule, remove, ofVid_admits, outer, Option.any_some,
        Bool.and_eq_true, beq_iff_eq] at taken
      exact ⟨taken.1.2, taken.2⟩
    have at0 : ∀ k : Nat, (block.info.vlans i).filtersIdx.filter0 = k →
        (block.info.vlans i).filtersIdx.filter0.toNat = k := fun k same => by omega
    have at1 : ∀ k : Nat, (block.info.vlans i).filtersIdx.filter1 = k →
        (block.info.vlans i).filtersIdx.filter1.toNat = k := fun k same => by omega
    obtain first | second := holding
    · rw [at0 n first] at rule0
      obtain ⟨sameVid, admits⟩ := inner _ rule0
      rw [ofType_normal_admits] at admits
      rw [sameVid, admits, if_pos rfl]
      exact ⟨untagged, named, rule0⟩
    · rw [at1 n second] at rule1
      obtain ⟨sameVid, admits⟩ := inner _ rule1
      rw [ofType_noTag_admits] at admits
      have single : frame.inner.isSome = false := by
        rw [Option.isNone_iff_eq_none] at admits
        rw [admits]
        rfl
      rw [sameVid, single, if_neg (by simp)]
      exact ⟨untagged, named, rule1⟩
  · rw [filed.quiet n below (fun i used holding => owned ⟨i, used, holding⟩)] at taken
    simp at taken

theorem Filed.takes_untagged (filed : Filed tags slots split member block) (below : n < split) :
    (block.rules n).takes .untagged = false := by
  by_cases owned : ∃ i, (block.info.vlans i).used = true ∧ holds block.info (.inl i) n
  · obtain ⟨i, used, holding⟩ := owned
    obtain ⟨untagged, -, rule0, rule1⟩ := filed.ruled i used
    have rule : ∃ inner, block.rules n =
        vlanRule (tags untagged) inner (block.info.vlans i).vid := by
      obtain first | second := holding
      · refine ⟨.normal, ?_⟩
        rw [← rule0]
        congr 1
        simp only [idsOf] at first
        omega
      · refine ⟨.noTag, ?_⟩
        rw [← rule1]
        congr 1
        simp only [idsOf] at second
        omega
    obtain ⟨inner, rule⟩ := rule
    rw [rule]
    simp [Rule.takes, vlanRule, remove, Frame.outer]
  · rw [filed.quiet n below (fun i used holding => owned ⟨i, used, holding⟩)]
    simp

theorem Filed.exists_takes (filed : Filed tags slots split member block)
    (outer : frame.outer = some tag) (known : (member tag.vid).isSome) :
    ∃ n < split, (block.rules n).takes frame = true := by
  obtain ⟨i, used, sameVid⟩ := filed.listed tag.vid known
  obtain ⟨untagged, -, rule0, rule1⟩ := filed.ruled i used
  obtain ⟨name0, name1⟩ := filed.names used
  have takes : ∀ inner, (ofType inner).admits frame.inner = true →
      (vlanRule (tags untagged) inner (block.info.vlans i).vid).takes frame = true := by
    intro inner admits
    have active : vlanRule (tags untagged) inner (block.info.vlans i).vid ≠ deactivated := by
      intro same
      simpa [vlanRule, remove, ofVid, deactivated] using congrArg (·.outerVlan.priorityEnable) same
    rw [Rule.takes, decide_eq_true active, outer]
    simp [vlanRule, remove, sameVid, admits]
  cases inner : frame.inner with
  | none =>
    refine ⟨_, filed.below (h := .inl i) used name1, ?_⟩
    rw [rule1]
    exact takes .noTag (by simp [inner])
  | some second =>
    refine ⟨_, filed.below (h := .inl i) used name0, ?_⟩
    rw [rule0]
    exact takes .normal (by simp [inner])

theorem Filed.treatment (filed : Filed tags slots split member block)
    (outer : frame.outer = some tag) {size last : Nat} (order : split ≤ last) (below : last < size)
    (plain : (block.rules last).isDefault = false) (takes : (block.rules last).takes frame = true)
    (between : ∀ k, split ≤ k → k < last → (block.rules k).takes frame = false) :
    treatment block.rules size frame =
      match member tag.vid with
      | some untagged => { removeTag := tags untagged }
      | none => (block.rules last).treatment := by
  have parts := fun agreed agree =>
    treatment_of_parts block.rules frame agreed order below agree plain takes between
  cases known : member tag.vid with
  | none =>
    have nobody : ¬ ∃ k < split, (block.rules k).takes frame = true := by
      rintro ⟨k, inside, taken⟩
      obtain ⟨untagged, named, -⟩ := filed.takes outer inside taken
      rw [known] at named
      cases named
    have chosen := parts {} fun k inside taken => absurd ⟨k, inside, taken⟩ nobody
    rw [if_neg nobody] at chosen
    exact chosen
  | some untagged =>
    have somebody := filed.exists_takes outer (by rw [known]; rfl)
    have chosen := parts { removeTag := tags untagged } fun k inside taken => by
      obtain ⟨untagged', named, rule⟩ := filed.takes outer inside taken
      rw [known] at named
      obtain rfl := Option.some.inj named
      rw [rule]
      refine ⟨?_, rfl⟩
      simp only [Rule.isDefault, vlanRule, remove, ofVid_type, ofType_type]
      split_ifs <;> rfl
    rw [if_pos somebody] at chosen
    exact chosen

end Blocks

section Steps

variable {tags : Bool → RemoveTag} {slots split vid : Nat} {member : Nat → Option Bool}
  {block : Block}

variable {i : Nat}

theorem Filed.record (filed : Filed tags slots split member block) (nonzero : vid ≠ 0)
    {ids : FilterIds} {info' : BlockInfo} (taken : Taken true slots vid block.info i ids info')
    (mark : Option Bool) (untagged : Bool) :
    Filed tags slots split (Function.update member vid (some untagged))
      (wrote true vid mark (vlanRule (tags untagged) .normal vid)
        (vlanRule (tags untagged) .noTag vid) i ids info' block.rules) := by
  let after := wrote true vid mark (vlanRule (tags untagged) .normal vid)
    (vlanRule (tags untagged) .noTag vid) i ids info' block.rules
  have shape := taken.shape filed.pool
  have capacity : (∀ j, (block.info.vlans j).used = true → (block.info.vlans j).vid ≠ vid) →
      (usedSet block.info).card < slots := by
    intro absent
    cases taken with
    | known used named => exact absurd named (absent i used)
    | recycled x inside unused => exact card_usedSet_lt filed.pool inside unused
    | fresh inside unused => exact card_usedSet_lt filed.pool inside unused
  have pool : Pool true slots slots after.info :=
    filed.pool.record taken nonzero capacity rfl rfl rfl
  have self : after.info.vlans i = (info'.vlans i).record ids vid mark :=
    Function.update_self _ _ _
  have others : ∀ j, j ≠ i → after.info.vlans j = block.info.vlans j := by
    intro j apart
    exact (Function.update_of_ne apart _ _).trans (congrFun taken.vlans j)
  have alive : (after.info.vlans i).used = true := by
    rw [self]
    rfl
  have selfHolds : ∀ n, holds after.info (.inl i) n ↔ Names ids n := by
    intro n
    rw [holds, idsOf, self]
    rfl
  have unnamed : ∀ j, j ≠ i → (after.info.vlans j).used = true → ∀ n,
      holds after.info (.inl j) n → ¬ Names ids n := by
    intro j apart used n holding naming
    have clash := pool.numbered.distinct (.inl j) (.inl i) used alive n holding
      ((selfHolds n).mpr naming)
    exact apart (Sum.inl.inj clash)
  refine ⟨pool, filed.fits, ?_, ?_, ?_⟩
  · intro v known
    by_cases same : v = vid
    · subst same
      exact ⟨i, alive, by rw [self]; rfl⟩
    · rw [Function.update_of_ne same] at known
      obtain ⟨j, used, named⟩ := filed.listed v known
      have apart : j ≠ i := by
        rintro rfl
        cases taken with
        | known _ namedI => exact same (named.symm.trans namedI)
        | recycled _ _ unused => simp [unused] at used
        | fresh _ unused => simp [unused] at used
      exact ⟨j, by rwa [others j apart], by rwa [others j apart]⟩
  · intro j used
    by_cases same : j = i
    · subst same
      refine ⟨untagged, ?_⟩
      rw [self]
      exact ⟨Function.update_self _ _ _, wrote_first shape, wrote_second⟩
    · have before : (block.info.vlans j).used = true := by rwa [← others j same]
      have apart := taken.others filed.pool same before
      obtain ⟨name0, name1⟩ := filed.names before
      have still : ∀ n, holds block.info (.inl j) n → after.rules n = block.rules n := by
        intro n holding
        refine wrote_unnamed shape (unnamed j same used n ?_)
        rwa [holds, idsOf, others j same]
      obtain ⟨u, known, rule0, rule1⟩ := filed.ruled j before
      refine ⟨u, ?_⟩
      rw [others j same, Function.update_of_ne apart, still _ name0, still _ name1]
      exact ⟨known, rule0, rule1⟩
  · intro n below nobody
    have free : ¬ Names ids n := fun naming => nobody i alive ((selfHolds n).mpr naming)
    rw [show after.rules n = block.rules n from wrote_unnamed shape free]
    refine filed.quiet n below fun j used holding => ?_
    by_cases same : j = i
    · subst same
      cases taken with
      | known => exact free holding
      | recycled _ _ unused => simp [unused] at used
      | fresh _ unused => simp [unused] at used
    · refine nobody j (by rwa [others j same]) ?_
      rwa [holds, idsOf, others j same]

theorem Filed.release (filed : Filed tags slots split member block) {x : Nat}
    (used : (block.info.vlans i).used = true) (named : (block.info.vlans i).vid = vid)
    (below : x < maxVlansArray) (invalid : (block.info.recycled x).valid = false) :
    Filed tags slots split (Function.update member vid none)
      { info := released block.info i x
        rules := (deactivateRecord (block.info.vlans i).filtersIdx block).rules } := by
  have shape : Shape true (block.info.vlans i).filtersIdx := filed.pool.shape (.inl i) used
  have still : ∀ j, ((released block.info i x).vlans j).used = true →
      j ≠ i ∧ (released block.info i x).vlans j = block.info.vlans j := by
    intro j usedJ
    have apart : j ≠ i := by
      rintro rfl
      simp at usedJ
    exact ⟨apart, by simp [apart]⟩
  refine ⟨filed.pool.release used below invalid, filed.fits, ?_, ?_, ?_⟩
  · intro v known
    have other : v ≠ vid := by
      rintro rfl
      rw [Function.update_self] at known
      cases known
    rw [Function.update_of_ne other] at known
    obtain ⟨j, usedJ, namedJ⟩ := filed.listed v known
    have apart : j ≠ i := by
      rintro rfl
      exact other (namedJ.symm.trans named)
    refine ⟨j, ?_⟩
    simpa [apart] using And.intro usedJ namedJ
  · intro j usedJ
    obtain ⟨apart, same⟩ := still j usedJ
    dsimp only
    rw [same] at usedJ ⊢
    obtain ⟨untagged, known, rule0, rule1⟩ := filed.ruled j usedJ
    obtain ⟨name0, name1⟩ := filed.names usedJ
    have other : (block.info.vlans j).vid ≠ vid := by
      intro sameVid
      exact apart (filed.pool.vidOnce j i usedJ used (sameVid.trans named.symm))
    have unnamed : ∀ n, holds block.info (.inl j) n →
        ¬ Names (block.info.vlans i).filtersIdx n := by
      intro n holding naming
      have clash := filed.pool.numbered.distinct (.inl j) (.inl i) usedJ used n holding naming
      exact apart (Sum.inl.inj clash)
    refine ⟨untagged, ?_⟩
    rw [Function.update_of_ne other, deactivateRecord_unnamed shape (unnamed _ name0),
      deactivateRecord_unnamed shape (unnamed _ name1)]
    exact ⟨known, rule0, rule1⟩
  · intro n inside nobody
    dsimp only at nobody ⊢
    by_cases naming : Names (block.info.vlans i).filtersIdx n
    · exact deactivateRecord_named naming
    · rw [deactivateRecord_unnamed shape naming]
      refine filed.quiet n inside fun j usedJ holding => ?_
      have apart : j ≠ i := by
        rintro rfl
        exact naming holding
      have same : (released block.info i x).vlans j = block.info.vlans j := by simp [apart]
      refine nobody j (by rwa [same]) ?_
      rwa [holds, idsOf, same]

end Steps

end OpenwrtSource.Mxl862xx.VlanMembers
