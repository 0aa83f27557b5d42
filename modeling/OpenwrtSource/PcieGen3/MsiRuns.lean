import OpenwrtSource.PcieGen3.MsiRouting

/-!
# Runs of masks and unmasks

What the parser accepts has tables that share no vector.  The enable registers then hold
the unmasked vectors that have an owner, each for its owner's group.
-/

namespace OpenwrtSource.PcieGen3.MsiRuns

open Lib.Claimants Lib.Run Lib.TableFold
open PcieGen3.MsiRouting

def rowMaps (row : Row) (bit : Nat) : Bool := row.2.getLsbD bit

/-- What the parser and the set-up make of the interrupts. -/
structure Tabled (pcie : Pcie) : Prop where
  exclusive : Exclusive PcieIrq.maps pcie.irqs
  numbers : Exclusive (fun q irq => q.irq == irq) pcie.irqs
  group : ∀ q ∈ pcie.irqs, q.group < PCIE_MSI_GROUP_NUM
  merged : pcie.msiGroupType = .group0MergeMsi → ∀ q ∈ pcie.irqs, q.group = 0

theorem and_eq_zero_iff (left right : Word) :
    left &&& right = 0 ↔ ∀ k, left.getLsbD k = true → right.getLsbD k = false := by
  constructor
  · intro zero k held
    have bit := congrArg (fun word => BitVec.getLsbD word k) zero
    simpa [held] using bit
  · intro apart
    apply BitVec.eq_of_getLsbD_eq
    intro k _
    cases held : left.getLsbD k with
    | false => simp [held]
    | true => simp [apart k held]

variable {rows : List Row} {numIrqs : Nat} {msiType : Option MsiType} {msiMap : Option (List Word)}
  {platform : Platform} {pcie : Pcie}

theorem mapRows_ok {maskCheck : Word} {map : List Word} (ok : mapRows maskCheck map = .ok rows) :
    rows.map Prod.snd = tables map ∧ Exclusive rowMaps rows ∧
      ∀ row ∈ rows, row.1 < PCIE_MSI_GROUP_NUM ∧ row.2 &&& maskCheck = 0 := by
  induction maskCheck, map using mapRows.induct generalizing rows with
  | case1 maskCheck group table rest refused =>
    rw [mapRows, if_pos refused] at ok
    cases ok
  | case2 maskCheck group table rest valid err failed ih =>
    rw [mapRows, if_neg valid, failed] at ok
    cases ok
  | case3 maskCheck group table rest valid others later ih =>
    rw [mapRows, if_neg valid, later] at ok
    cases ok
    obtain ⟨words, exclusive, every⟩ := ih later
    have apart : table &&& maskCheck = 0 := by
      by_contra shared
      exact valid (.inr shared)
    refine ⟨by rw [List.map_cons, tables, words], ?_, ?_⟩
    · refine List.pairwise_cons.mpr ⟨fun row member k held => ?_, exclusive⟩
      by_contra also
      have masked := (and_eq_zero_iff _ _).mp (every row member).2 k
        (Bool.eq_true_of_not_eq_false also)
      rw [BitVec.getLsbD_or, show table.getLsbD k = true from held, Bool.or_true] at masked
      cases masked
    · intro row member
      rcases List.mem_cons.mp member with rfl | inside
      · exact ⟨Nat.lt_of_not_le fun high => valid (.inl high), apart⟩
      · refine ⟨(every row inside).1, ?_⟩
        rw [and_eq_zero_iff]
        intro k held
        have masked := (and_eq_zero_iff _ _).mp (every row inside).2 k held
        rw [BitVec.getLsbD_or] at masked
        exact (Bool.or_eq_false_iff.mp masked).1
  | case4 maskCheck map short =>
    rw [mapRows] at ok
    · cases ok
      refine ⟨?_, List.Pairwise.nil, by simp⟩
      rw [tables]
      · rfl
      · exact short
    · exact short

theorem length_tables (map : List Word) : (tables map).length = map.length / 2 := by
  induction map using tables.induct with
  | case1 group table rest ih =>
    rw [tables, List.length_cons, ih, List.length_cons, List.length_cons]
    omega
  | case2 map short =>
    rw [tables]
    · cases map with
      | nil => rfl
      | cons group rest =>
        cases rest with
        | nil => simp
        | cons table rest => exact absurd rfl (short group table rest)
    · exact short

theorem zeroed_maps {n : Nat} {row : Row} (member : row ∈ zeroed n) (bit : Nat) :
    rowMaps row bit = false ∧ row.1 = 0 := by
  rw [(List.mem_replicate.mp member).2]
  exact ⟨BitVec.getLsbD_zero, rfl⟩

theorem exclusive_append {blank : List Row} (exclusive : Exclusive rowMaps rows)
    (none_ : ∀ row ∈ blank, ∀ bit, rowMaps row bit = false) :
    Exclusive rowMaps (rows ++ blank) := by
  refine List.pairwise_append.mpr ⟨exclusive, ?_, fun _ _ row member k _ => none_ row member k⟩
  exact List.Pairwise.imp_of_mem (fun _ member _ k _ => none_ _ member k)
    (List.pairwise_of_forall fun _ _ => trivial : blank.Pairwise fun _ _ => True)

structure Accepted (numIrqs : Nat) (msiType : Option MsiType) (msiMap : Option (List Word))
    (rows : List Row) : Prop where
  length : rows.length = numIrqs
  exclusive : Exclusive rowMaps rows
  group : ∀ row ∈ rows, row.1 < PCIE_MSI_GROUP_NUM
  merged : groupType msiType = .group0MergeMsi → ∀ row ∈ rows, row.1 = 0
  covers : (∀ bit < PCIE_MSI_IRQS_PER_SET, ∃ row ∈ rows, rowMaps row bit = true) ↔
    Covers msiType msiMap

theorem accepted_merged (some_ : 0 < numIrqs) (merge : groupType msiType = .group0MergeMsi)
    (msiMap : Option (List Word)) :
    Accepted numIrqs msiType msiMap ((zeroed numIrqs).set 0 (0, BitVec.allOnes 32)) := by
  obtain ⟨others, rfl⟩ : ∃ others, numIrqs = others + 1 := ⟨numIrqs - 1, by omega⟩
  have rows : (zeroed (others + 1)).set 0 (0, BitVec.allOnes 32) =
      [(0, BitVec.allOnes 32)] ++ zeroed others := rfl
  rw [rows]
  have zeros : ∀ row ∈ [(0, BitVec.allOnes 32)] ++ zeroed others, row.1 = 0 := by
    intro row member
    rcases List.mem_append.mp member with one | blank
    · rw [List.mem_singleton.mp one]
    · exact (zeroed_maps blank 0).2
  exact
    { length := by simp [zeroed]
      exclusive := exclusive_append (List.pairwise_singleton _ _)
        fun row member bit => (zeroed_maps member bit).1
      group := fun row member => by rw [zeros row member]; decide
      merged := fun _ => zeros
      covers := by
        refine iff_of_true (fun bit inSet => ?_) (.inl merge)
        refine ⟨_, List.mem_append_left _ List.mem_cons_self, ?_⟩
        rw [rowMaps, BitVec.getLsbD_allOnes]
        exact decide_eq_true inSet }

theorem accepted_mapped {map : List Word} (separate : groupType msiType ≠ .group0MergeMsi)
    (fits : map.length / 2 ≤ numIrqs) (ok : mapRows 0 map = .ok rows) :
    Accepted numIrqs msiType (some map) (rows ++ (zeroed numIrqs).drop rows.length) := by
  obtain ⟨words, exclusive, every⟩ := mapRows_ok ok
  have short : rows.length ≤ numIrqs := by
    have same := congrArg List.length words
    rw [List.length_map] at same
    rw [same]
    refine Nat.le_trans (Nat.le_of_eq ?_) fits
    exact length_tables map
  have blank : ∀ row ∈ (zeroed numIrqs).drop rows.length, row ∈ zeroed numIrqs :=
    fun row member => List.mem_of_mem_drop member
  exact
    { length := by
        rw [List.length_append, List.length_drop, zeroed, List.length_replicate]
        omega
      exclusive := exclusive_append exclusive
        fun row member bit => (zeroed_maps (blank row member) bit).1
      group := by
        intro row member
        rcases List.mem_append.mp member with mapped | empty
        · exact (every row mapped).1
        · rw [(zeroed_maps (blank row empty) 0).2]
          decide
      merged := fun merge => absurd merge separate
      covers := by
        unfold Covers
        rw [or_iff_right separate, Option.getD_some, ← words]
        refine forall₂_congr fun bit inSet => ⟨?_, ?_⟩
        · rintro ⟨row, member, held⟩
          rcases List.mem_append.mp member with mapped | empty
          · exact ⟨row.2, List.mem_map_of_mem mapped, held⟩
          · rw [(zeroed_maps (blank row empty) bit).1] at held
            cases held
        · rintro ⟨table, member, held⟩
          obtain ⟨row, mapped, rfl⟩ := List.mem_map.mp member
          exact ⟨row, List.mem_append_left _ mapped, held⟩ }

theorem accepted_of_parse (some_ : 0 < numIrqs)
    (ok : mtkPcieParseMsi numIrqs msiType msiMap = .ok rows) :
    Accepted numIrqs msiType msiMap rows := by
  unfold mtkPcieParseMsi at ok
  split at ok
  · next merge =>
      cases ok
      exact accepted_merged some_ merge msiMap
  · next separate =>
      cases msiMap with
      | none => cases ok
      | some map =>
        simp only at ok
        by_cases refused : map.length = 0 ∨ numIrqs < map.length / 2
        · rw [if_pos refused] at ok
          cases ok
        · rw [if_neg refused] at ok
          cases parsed : mapRows 0 map with
          | error err =>
            rw [parsed] at ok
            cases ok
          | ok head =>
            rw [parsed] at ok
            cases ok
            exact accepted_mapped separate (by omega) parsed

theorem setup_ok (ok : setup platform msiType msiMap = .ok pcie) :
    ∃ rows, Accepted platform.irqs.length msiType msiMap rows ∧
      pcie.msiGroupType = groupType msiType ∧
      pcie.irqs.map (fun q => (q.group, q.mappedTable)) = rows ∧
      pcie.irqs.map PcieIrq.irq = platform.irqs := by
  unfold setup at ok
  cases parsed : mtkPcieParseMsi platform.irqs.length msiType msiMap with
  | error err =>
    rw [parsed] at ok
    cases ok
  | ok rows =>
    rw [parsed] at ok
    cases ok
    have accepted := accepted_of_parse (List.length_pos_iff.mpr platform.nonempty) parsed
    refine ⟨rows, accepted, rfl, ?_, ?_⟩
    · apply List.ext_getElem
      · simp [accepted.length]
      · intro i _ _
        simp
    · apply List.ext_getElem
      · simp [accepted.length]
      · intro i _ _
        simp

theorem tabled_of_setup (ok : setup platform msiType msiMap = .ok pcie) : Tabled pcie := by
  obtain ⟨rows, accepted, type, row, irq⟩ := setup_ok ok
  have member : ∀ q ∈ pcie.irqs, (q.group, q.mappedTable) ∈ rows :=
    fun q listed => row ▸ List.mem_map_of_mem listed
  exact
    { exclusive := by
        have exclusive := accepted.exclusive
        rw [← row] at exclusive
        exact List.pairwise_map.mp exclusive
      numbers := by
        have distinct := platform.distinct
        rw [← irq] at distinct
        refine (List.pairwise_map.mp distinct).imp ?_
        intro a b apart number holds
        rw [beq_iff_eq] at holds
        rw [beq_eq_false_iff_ne, ← holds]
        exact Ne.symm apart
      group := fun q listed => accepted.group _ (member q listed)
      merged := fun merge q listed => accepted.merged (type ▸ merge) _ (member q listed) }

theorem owned_iff_covers (ok : setup platform msiType msiMap = .ok pcie) :
    (∀ bit < PCIE_MSI_IRQS_PER_SET, ∃ q ∈ pcie.irqs, q.maps bit = true) ↔
      Covers msiType msiMap := by
  obtain ⟨rows, accepted, -, row, -⟩ := setup_ok ok
  rw [← accepted.covers, ← row]
  refine forall₂_congr fun bit inSet => ⟨?_, ?_⟩
  · rintro ⟨q, listed, held⟩
    exact ⟨_, List.mem_map_of_mem listed, held⟩
  · rintro ⟨_, mapped, held⟩
    obtain ⟨q, listed, rfl⟩ := List.mem_map.mp mapped
    exact ⟨q, listed, held⟩

theorem enableReg_inj {set set' group group' : Nat} (inSets : set < PCIE_MSI_SET_NUM)
    (inSets' : set' < PCIE_MSI_SET_NUM) (inGroups : group < PCIE_MSI_GROUP_NUM)
    (inGroups' : group' < PCIE_MSI_GROUP_NUM)
    (same : enableReg set group = enableReg set' group') : set = set' ∧ group = group' := by
  unfold PCIE_MSI_SET_NUM PCIE_MSI_GROUP_NUM at *
  obtain rfl | rfl | rfl | rfl : group = 0 ∨ group = 1 ∨ group = 2 ∨ group = 3 := by omega
  all_goals
    obtain rfl | rfl | rfl | rfl : group' = 0 ∨ group' = 1 ∨ group' = 2 ∨ group' = 3 := by omega
    all_goals
      simp only [enableReg] at same
      omega

theorem set_lt (hwirq : Hwirq) : hwirq.set < PCIE_MSI_SET_NUM := by
  have below := hwirq.isLt
  unfold Hwirq.set PCIE_MSI_IRQS_PER_SET PCIE_MSI_SET_NUM
  omega

theorem bit_lt (hwirq : Hwirq) : hwirq.bit < PCIE_MSI_IRQS_PER_SET :=
  Nat.mod_lt _ (by decide)

theorem eq_bit_add (hwirq : Hwirq) : hwirq.val = hwirq.bit + hwirq.set * PCIE_MSI_IRQS_PER_SET := by
  unfold Hwirq.set Hwirq.bit
  rw [Nat.mul_comm]
  exact (Nat.mod_add_div _ _).symm

theorem ext_set_bit {hwirq other : Hwirq} (set : hwirq.set = other.set)
    (bit : hwirq.bit = other.bit) : hwirq = other := by
  apply Fin.ext
  rw [eq_bit_add hwirq, eq_bit_add other, set, bit]

section Runs

variable {pcie : Pcie}

variable {q : PcieIrq} {bit : Nat} {s : State} {hwirq : Hwirq} {group : Nat} {pending : Pending}

theorem hwirqGetIrqs_eq (tabled : Tabled pcie) (member : q ∈ pcie.irqs)
    (holds : q.maps bit = true) : mtkMsiHwirqGetIrqs pcie bit = some q :=
  tabled.exclusive.find? member holds

theorem hwirqGetIrqs_mem (found : mtkMsiHwirqGetIrqs pcie bit = some q) :
    q ∈ pcie.irqs ∧ q.maps bit = true :=
  ⟨List.mem_of_find?_eq_some found, by simpa using List.find?_some found⟩

theorem getLsbD_BIT {n : Nat} (inSet : bit < PCIE_MSI_IRQS_PER_SET) :
    (1#32 <<< n).getLsbD bit = decide (bit = n) := by
  rw [BitVec.getLsbD_shiftLeft, BitVec.getLsbD_one, decide_eq_true (show bit < 32 from inSet)]
  by_cases before : bit < n
  · simp [before, Nat.ne_of_lt before]
  · simp [before]
    omega

theorem enabled_writel {val : Word} {on : Prop} (inGroups : group < PCIE_MSI_GROUP_NUM)
    (others : ∀ bit, bit ≠ hwirq.bit → bit < PCIE_MSI_IRQS_PER_SET →
      val.getLsbD bit = (s.regs (enableReg hwirq.set group)).getLsbD bit)
    (own : val.getLsbD hwirq.bit = true ↔ on) (other : Hwirq) (group' : Nat) :
    Enabled (writel s (enableReg hwirq.set group) val) other group' ↔
      if other = hwirq ∧ group' = group then on else Enabled s other group' := by
  unfold Enabled
  dsimp only [writel]
  by_cases valid : group' < PCIE_MSI_GROUP_NUM
  · rw [and_iff_right valid, and_iff_right valid]
    by_cases here : enableReg other.set group' = enableReg hwirq.set group
    · obtain ⟨set, same⟩ := enableReg_inj (set_lt other) (set_lt hwirq) valid inGroups here
      rw [here, Function.update_self, same]
      by_cases bit : other.bit = hwirq.bit
      · rw [if_pos ⟨ext_set_bit set bit, rfl⟩, bit]
        exact own
      · rw [if_neg fun both => bit (by rw [both.1]), others _ bit (bit_lt other)]
    · have apart : ¬ (other = hwirq ∧ group' = group) := by
        rintro ⟨rfl, rfl⟩
        exact here rfl
      rw [if_neg apart, Function.update_of_ne here]
  · have apart : ¬ (other = hwirq ∧ group' = group) := by
      rintro ⟨-, rfl⟩
      exact valid inGroups
    rw [if_neg apart]
    exact iff_of_false (fun both => valid both.1) fun both => valid both.1

theorem enabled_mask (tabled : Tabled pcie) (found : mtkMsiHwirqGetIrqs pcie hwirq.bit = some q)
    (other : Hwirq) (group : Nat) :
    Enabled (mtkMsiBottomIrqMask pcie s hwirq) other group ↔
      if other = hwirq ∧ group = q.group then false = true else Enabled s other group := by
  unfold mtkMsiBottomIrqMask
  rw [found]
  have inWord : hwirq.bit < 32 := bit_lt hwirq
  refine enabled_writel (tabled.group q (hwirqGetIrqs_mem found).1) ?_ ?_ other group
  · intro bit apart inSet
    rw [BitVec.getLsbD_and, BitVec.getLsbD_not, getLsbD_BIT inSet, decide_eq_false apart,
      decide_eq_true (show bit < 32 from inSet)]
    exact Bool.and_true _
  · simp [inWord]

theorem enabled_unmask (tabled : Tabled pcie) (found : mtkMsiHwirqGetIrqs pcie hwirq.bit = some q)
    (other : Hwirq) (group : Nat) :
    Enabled (mtkMsiBottomIrqUnmask pcie s hwirq) other group ↔
      if other = hwirq ∧ group = q.group then true = true else Enabled s other group := by
  unfold mtkMsiBottomIrqUnmask
  rw [found]
  have inWord : hwirq.bit < 32 := bit_lt hwirq
  refine enabled_writel (tabled.group q (hwirqGetIrqs_mem found).1) ?_ ?_ other group
  · intro bit apart inSet
    rw [BitVec.getLsbD_or, getLsbD_BIT inSet, decide_eq_false apart, Bool.or_false]
  · simp [inWord]

theorem mem_setGroups {set : Nat} :
    (set, group) ∈ setGroups ↔ set < PCIE_MSI_SET_NUM ∧ group < PCIE_MSI_GROUP_NUM := by
  unfold setGroups
  rw [List.pair_mem_product, List.mem_range, List.mem_range]

theorem nodup_setGroups : setGroups.Nodup := by decide

theorem enabled_cycle (s : State) (lost : Nat → Word) (hwirq : Hwirq) (group : Nat) :
    Enabled (mtkPcieIrqRestore { mtkPcieIrqSave s with regs := lost }) hwirq group ↔
      Enabled s hwirq group := by
  refine and_congr_right fun inGroups => ?_
  have listed : (hwirq.set, group) ∈ setGroups := mem_setGroups.mpr ⟨set_lt hwirq, inGroups⟩
  have distinct : ∀ i ∈ setGroups, ∀ j ∈ setGroups,
      enableReg i.1 i.2 = enableReg j.1 j.2 → i = j := by
    rintro ⟨set, group⟩ inside ⟨set', group'⟩ inside' same
    have valid := mem_setGroups.mp inside
    have valid' := mem_setGroups.mp inside'
    obtain ⟨rfl, rfl⟩ := enableReg_inj valid.1 valid'.1 valid.2 valid'.2 same
    rfl
  have restored := foldl_writeCell (fun i : Nat × Nat => enableReg i.1 i.2)
    (fun i _ => (mtkPcieIrqSave s).saved i) lost nodup_setGroups distinct listed
  have saved := foldl_writeCell (id : Nat × Nat → Nat × Nat)
    (fun i _ => s.regs (enableReg i.1 i.2)) s.saved nodup_setGroups
    (fun _ _ _ _ same => same) listed
  have word : (mtkPcieIrqRestore { mtkPcieIrqSave s with regs := lost }).regs
      (enableReg hwirq.set group) = s.regs (enableReg hwirq.set group) := restored.trans saved
  rw [word]

/-- The enable registers hold the unmasked vectors, each for its owner's group. -/
def Holds (pcie : Pcie) (sys : System) : Prop :=
  ∀ hwirq group, Enabled sys.state hwirq group ↔
    sys.unmasked hwirq = true ∧ ∃ q ∈ pcie.irqs, q.maps hwirq.bit = true ∧ q.group = group

theorem holds_start : Holds pcie start := by
  intro hwirq group
  refine iff_of_false ?_ fun both => Bool.false_ne_true both.1
  rintro ⟨-, on⟩
  rw [show (start.state.regs (enableReg hwirq.set group)).getLsbD hwirq.bit = false from
    BitVec.getLsbD_zero] at on
  cases on

theorem owner_group_iff (tabled : Tabled pcie) (found : mtkMsiHwirqGetIrqs pcie bit = some q) :
    (∃ q ∈ pcie.irqs, q.maps bit = true ∧ q.group = group) ↔ group = q.group := by
  constructor
  · rintro ⟨other, listed, maps, rfl⟩
    rw [hwirqGetIrqs_eq tabled listed maps] at found
    cases found
    rfl
  · rintro rfl
    obtain ⟨listed, maps⟩ := hwirqGetIrqs_mem found
    exact ⟨q, listed, maps, rfl⟩

theorem no_owner (missing : mtkMsiHwirqGetIrqs pcie bit = none) :
    ¬ ∃ q ∈ pcie.irqs, q.maps bit = true ∧ q.group = group := by
  rintro ⟨q, listed, maps, -⟩
  have passed := List.find?_eq_none.mp missing q listed
  exact passed maps

theorem holds_switch (tabled : Tabled pcie) {sys : System} (holds : Holds pcie sys) {on : Bool}
    {after : State} (missed : mtkMsiHwirqGetIrqs pcie hwirq.bit = none → after = sys.state)
    (switched : ∀ q, mtkMsiHwirqGetIrqs pcie hwirq.bit = some q → ∀ other group,
      (Enabled after other group ↔
        if other = hwirq ∧ group = q.group then on = true else Enabled sys.state other group)) :
    Holds pcie ⟨after, Function.update sys.unmasked hwirq on⟩ := by
  intro other group
  dsimp only
  cases found : mtkMsiHwirqGetIrqs pcie hwirq.bit with
  | none =>
    rw [missed found, holds]
    by_cases here : other = hwirq
    · subst here
      exact iff_of_false (fun both => no_owner found both.2) fun both => no_owner found both.2
    · rw [Function.update_of_ne here]
  | some q =>
    rw [switched q found, holds]
    by_cases here : other = hwirq
    · subst here
      rw [owner_group_iff tabled found, Function.update_self]
      by_cases same : group = q.group
      · simp [same]
      · simp [same]
    · rw [if_neg fun both => here both.1, Function.update_of_ne here]

theorem mask_missed (missing : mtkMsiHwirqGetIrqs pcie hwirq.bit = none) :
    mtkMsiBottomIrqMask pcie s hwirq = s ∧ mtkMsiBottomIrqUnmask pcie s hwirq = s := by
  unfold mtkMsiBottomIrqMask mtkMsiBottomIrqUnmask
  rw [missing]
  exact ⟨rfl, rfl⟩

theorem holds_run (tabled : Tabled pcie) (events : List Event) :
    Holds pcie (run (step pcie) start events) := by
  refine run_invariant (step pcie) (fun _ _ => True) (Holds pcie) ?_ start events holds_start
    (along_of_forall _ _ _ _ fun _ _ _ => trivial)
  intro sys event holds _
  cases event with
  | mask hwirq =>
    exact holds_switch tabled holds (fun missing => (mask_missed missing).1)
      fun q found => enabled_mask tabled found
  | unmask hwirq =>
    exact holds_switch tabled holds (fun missing => (mask_missed missing).2)
      fun q found => enabled_unmask tabled found
  | cycle lost =>
    intro other group
    exact (enabled_cycle sys.state lost other group).trans (holds other group)

theorem mem_setBits {word : Word} :
    bit ∈ setBits word ↔ bit < PCIE_MSI_IRQS_PER_SET ∧ word.getLsbD bit = true := by
  unfold setBits
  rw [List.mem_filter, List.mem_range]

theorem enabled_of_mem_statusLoop {msiEnable : Word} (arrivals : List Word) (msiStatus : Word)
    (handled : bit ∈ statusLoop msiEnable msiStatus arrivals) :
    bit < PCIE_MSI_IRQS_PER_SET ∧ msiEnable.getLsbD bit = true := by
  have enabled : ∀ status : Word, bit ∈ setBits (status &&& msiEnable) →
      bit < PCIE_MSI_IRQS_PER_SET ∧ msiEnable.getLsbD bit = true := by
    intro status member
    obtain ⟨inSet, both⟩ := mem_setBits.mp member
    rw [BitVec.getLsbD_and, Bool.and_eq_true] at both
    exact ⟨inSet, both.2⟩
  induction arrivals generalizing msiStatus with
  | nil => exact enabled msiStatus handled
  | cons arrival rest ih =>
    rw [statusLoop] at handled
    split_ifs at handled with done
    · cases handled
    · rcases List.mem_append.mp handled with now | later
      · exact enabled msiStatus now
      · exact ih _ later

theorem mem_statusLoop {msiEnable msiStatus : Word} (arrivals : List Word)
    (inSet : bit < PCIE_MSI_IRQS_PER_SET) (pending : msiStatus.getLsbD bit = true)
    (enabled : msiEnable.getLsbD bit = true) : bit ∈ statusLoop msiEnable msiStatus arrivals := by
  have both : (msiStatus &&& msiEnable).getLsbD bit = true := by
    rw [BitVec.getLsbD_and, pending, enabled]
    rfl
  cases arrivals with
  | nil => exact mem_setBits.mpr ⟨inSet, both⟩
  | cons arrival rest =>
    rw [statusLoop, if_neg]
    · exact List.mem_append_left _ (mem_setBits.mpr ⟨inSet, both⟩)
    · intro zero
      simp [zero] at both

theorem msiIrqGetIrqs_eq (tabled : Tabled pcie) (member : q ∈ pcie.irqs) :
    mtkMsiIrqGetIrqs pcie q.irq = some q :=
  tabled.numbers.find? member (beq_self_eq_true _)

theorem mem_msiHandler (tabled : Tabled pcie) (member : q ∈ pcie.irqs) {set vector : Nat}
    (handled : vector ∈ mtkPcieMsiHandler pcie s pending q.irq set) :
    ∃ bit < PCIE_MSI_IRQS_PER_SET, vector = bit + set * PCIE_MSI_IRQS_PER_SET ∧
      q.maps bit = true := by
  unfold mtkPcieMsiHandler at handled
  rw [msiIrqGetIrqs_eq tabled member] at handled
  dsimp only at handled
  split_ifs at handled with idle
  · cases handled
  · obtain ⟨bit, looped, rfl⟩ := List.mem_map.mp handled
    obtain ⟨inSet, enabled⟩ := enabled_of_mem_statusLoop _ _ looped
    rw [BitVec.getLsbD_and, Bool.and_eq_true] at enabled
    exact ⟨bit, inSet, rfl, enabled.2⟩

theorem maps_of_dispatched (tabled : Tabled pcie) (member : q ∈ pcie.irqs)
    (handled : hwirq.val ∈ mtkPcieIrqHandler pcie s pending q.irq) : q.maps hwirq.bit = true := by
  have some_ : ∃ set, hwirq.val ∈ mtkPcieMsiHandler pcie s pending q.irq set := by
    unfold mtkPcieIrqHandler at handled
    split_ifs at handled with merge
    · obtain ⟨set, -, inside⟩ := List.mem_flatMap.mp handled
      exact ⟨set, inside⟩
    · obtain ⟨set, -, inside⟩ := List.mem_flatMap.mp handled
      exact ⟨set, inside⟩
  obtain ⟨set, inside⟩ := some_
  obtain ⟨bit, inSet, same, maps⟩ := mem_msiHandler tabled member inside
  have here : hwirq.bit = bit := by
    unfold Hwirq.bit
    rw [same, Nat.add_mul_mod_self_right, Nat.mod_eq_of_lt inSet]
  rw [here]
  exact maps

theorem dispatched_of_enabled (tabled : Tabled pcie) (member : q ∈ pcie.irqs)
    (reports : Reports s pending) (maps : q.maps hwirq.bit = true)
    (enabled : Enabled s hwirq q.group)
    (waits : (pending.status hwirq.set).getLsbD hwirq.bit = true) :
    hwirq.val ∈ mtkPcieIrqHandler pcie s pending q.irq := by
  have own : (s.regs (enableReg hwirq.set q.group) &&& q.mappedTable).getLsbD hwirq.bit =
      true := by
    rw [BitVec.getLsbD_and, enabled.2, show q.mappedTable.getLsbD hwirq.bit = true from maps]
    rfl
  have handled : hwirq.val ∈ mtkPcieMsiHandler pcie s pending q.irq hwirq.set := by
    unfold mtkPcieMsiHandler
    rw [msiIrqGetIrqs_eq tabled member]
    dsimp only
    rw [if_neg]
    · exact List.mem_map.mpr
        ⟨hwirq.bit, mem_statusLoop _ (bit_lt hwirq) waits own, (eq_bit_add hwirq).symm⟩
    · intro zero
      simp [zero] at own
  have inSets : hwirq.set ∈ List.range PCIE_MSI_SET_NUM := List.mem_range.mpr (set_lt hwirq)
  unfold mtkPcieIrqHandler
  by_cases merge : pcie.msiGroupType = .group0MergeMsi
  · rw [if_pos merge]
    refine List.mem_flatMap.mpr ⟨hwirq.set, List.mem_filter.mpr ⟨inSets, ?_⟩, handled⟩
    apply reports _ (set_lt hwirq)
    intro zero
    have on := enabled.2
    rw [tabled.merged merge q member] at on
    have both := congrArg (fun word => BitVec.getLsbD word hwirq.bit) zero
    simp [waits, on] at both
  · rw [if_neg merge]
    exact List.mem_flatMap.mpr ⟨hwirq.set, inSets, handled⟩

theorem routed_of_owner (tabled : Tabled pcie) {sys : System} (holds : Holds pcie sys)
    (member : q ∈ pcie.irqs) (maps : q.maps hwirq.bit = true) : Routed pcie sys hwirq where
  on := by
    intro unmasked
    refine ⟨q.group, (holds hwirq q.group).mpr ⟨unmasked, q, member, maps, rfl⟩, ?_⟩
    intro group enabled
    obtain ⟨-, owner⟩ := (holds hwirq group).mp enabled
    exact (owner_group_iff tabled (hwirqGetIrqs_eq tabled member maps)).mp owner
  off := by
    intro masked group enabled
    rw [((holds hwirq group).mp enabled).1] at masked
    cases masked
  dispatched := by
    intro pending reports unmasked waits
    obtain ⟨i, ⟨owner, there, owns⟩, -⟩ :=
      (tabled.exclusive.existsUnique_index hwirq.bit).mpr ⟨q, member, maps⟩
    have listed := List.mem_of_getElem? there
    have enabled := (holds hwirq owner.group).mpr ⟨unmasked, owner, listed, owns, rfl⟩
    refine ⟨i, ⟨owner, there, dispatched_of_enabled tabled listed reports owns enabled waits⟩, ?_⟩
    rintro j ⟨other, here, handled⟩
    have also := maps_of_dispatched tabled (List.mem_of_getElem? here) handled
    exact tabled.exclusive.index_unique here there also owns

theorem partitions_iff (tabled : Tabled pcie) :
    Partitions pcie ↔
      ∀ bit < PCIE_MSI_IRQS_PER_SET, ∃ q ∈ pcie.irqs, q.maps bit = true := by
  constructor
  · intro partitions bit inSet
    exact (tabled.exclusive.existsUnique_index bit).mp (partitions.one bit inSet)
  · intro owned
    exact ⟨fun bit inSet => (tabled.exclusive.existsUnique_index bit).mpr (owned bit inSet),
      tabled.group⟩

end Runs

def oneIrq : Platform where
  irqs := [1]
  nonempty := List.cons_ne_nil _ _
  distinct := List.nodup_singleton _

end OpenwrtSource.PcieGen3.MsiRuns
