import OpenwrtSource.Fullcone.Mapping

/-!
# What the table operations can do

`WellFormed` is the representation invariant of the two hash tables.  Every
operation other than `allocate_mapping` and `add_original_tuple_to_mapping`
only unlinks tuples and kills mappings (`Shrinks`), and one that consults a
liveness test leaves the tuples that pass it where they are (`Spares`).
-/

namespace OpenwrtSource.Fullcone.TableEffects

open Lib.Index Fullcone.Tuple Fullcone.L3Family Fullcone.Mapping

variable {A : Type}

/-- The two tables hold the same mappings, each once and in its own bucket,
and every `refer_count` is the length of its list. -/
structure WellFormed (k : Kernel) (fam : Family A) (t : Tables A) : Prop where
  unused : ∀ id, t.fresh ≤ id → t.heap id = none
  ext : Indexed t.heap (NatMapping.extBucket k) t.byExtPort
  int : Indexed t.heap (NatMapping.intBucket k fam) t.byIntSrc
  refer : ∀ id mapping, t.heap id = some mapping →
    mapping.referCount = mapping.originalTupleList.length

/-- `after` is `before` with some tuples unlinked and some mappings killed. -/
structure Shrinks (before after : Tables A) : Prop where
  fresh : after.fresh = before.fresh
  survivor : ∀ id left, after.heap id = some left →
    ∃ mapping, before.heap id = some mapping ∧ left.endpoints = mapping.endpoints ∧
      left.originalTupleList.Sublist mapping.originalTupleList

/-- Every mapping of `after` is one of `before`, with the same endpoints. -/
def Carries (before after : Tables A) : Prop :=
  ∀ id left, after.heap id = some left →
    ∃ mapping, before.heap id = some mapping ∧ left.endpoints = mapping.endpoints

/-- Two mappings never have the same `key`. -/
def UniqueBy {K : Type} (key : Endpoints A → K) (t : Tables A) : Prop :=
  ∀ first second left right, t.heap first = some left → t.heap second = some right →
    key left.endpoints = key right.endpoints → first = second

/-- The recorded tuples that `live` accepts stay recorded, in their mappings. -/
def Spares (live : CtTuple → Bool) (before after : Tables A) : Prop :=
  ∀ id mapping, before.heap id = some mapping →
    mapping.originalTupleList.filter live ≠ [] →
      ∃ left, after.heap id = some left ∧ left.endpoints = mapping.endpoints ∧
        left.originalTupleList.filter live = mapping.originalTupleList.filter live

def Retains (id : Nat) (tuple : CtTuple) (before after : Tables A) : Prop :=
  ∀ mapping, before.heap id = some mapping → tuple ∈ mapping.originalTupleList →
    ∃ left, after.heap id = some left ∧ left.endpoints = mapping.endpoints ∧
      tuple ∈ left.originalTupleList

/-- The recorded tuples that `live` accepts are retained. -/
def Keeps (live : CtTuple → Bool) (before after : Tables A) : Prop :=
  ∀ id tuple, live tuple = true → Retains id tuple before after

theorem Shrinks.refl (t : Tables A) : Shrinks t t :=
  ⟨rfl, fun _ left found => ⟨left, found, rfl, List.Sublist.refl _⟩⟩

variable {first second third before after : Tables A} {live : CtTuple → Bool} {k : Kernel}
  {fam : Family A} {t : Tables A}

theorem Shrinks.trans (head : Shrinks first second) (tail : Shrinks second third) :
    Shrinks first third := by
  refine ⟨tail.fresh.trans head.fresh, ?_⟩
  intro id left found
  obtain ⟨middle, middleFound, middleKey, middleList⟩ := tail.survivor id left found
  obtain ⟨mapping, mappingFound, key, list⟩ := head.survivor id middle middleFound
  exact ⟨mapping, mappingFound, middleKey.trans key, middleList.trans list⟩

theorem Shrinks.carries (shrinks : Shrinks before after) : Carries before after := by
  intro id left found
  obtain ⟨mapping, mappingFound, key, -⟩ := shrinks.survivor id left found
  exact ⟨mapping, mappingFound, key⟩

theorem Shrinks.absent (shrinks : Shrinks before after) {id : Nat}
    (absent : before.heap id = none) : after.heap id = none := by
  cases found : after.heap id with
  | none => rfl
  | some left =>
    obtain ⟨mapping, mappingFound, -⟩ := shrinks.survivor id left found
    rw [absent] at mappingFound
    cases mappingFound

theorem Carries.refl (t : Tables A) : Carries t t := fun _ left found => ⟨left, found, rfl⟩

theorem Carries.trans (head : Carries first second) (tail : Carries second third) :
    Carries first third := by
  intro id left found
  obtain ⟨middle, middleFound, middleKey⟩ := tail id left found
  obtain ⟨mapping, mappingFound, key⟩ := head id middle middleFound
  exact ⟨mapping, mappingFound, middleKey.trans key⟩

theorem UniqueBy.of_carries {K : Type} {key : Endpoints A → K} (unique : UniqueBy key before)
    (carries : Carries before after) : UniqueBy key after := by
  intro first second left right leftFound rightFound same
  obtain ⟨leftBefore, leftBeforeFound, leftKey⟩ := carries first left leftFound
  obtain ⟨rightBefore, rightBeforeFound, rightKey⟩ := carries second right rightFound
  rw [leftKey, rightKey] at same
  exact unique first second leftBefore rightBefore leftBeforeFound rightBeforeFound same

theorem UniqueBy.of_added {K : Type} {key : Endpoints A → K} {fresh : Nat} {added : Endpoints A}
    (unique : UniqueBy key before) (endpoints : ∀ id, (after.heap id).map NatMapping.endpoints =
      if id = fresh then some added else (before.heap id).map NatMapping.endpoints)
    (free : ∀ id mapping, before.heap id = some mapping → key mapping.endpoints ≠ key added) :
    UniqueBy key after := by
  have created : ∀ id left, after.heap id = some left → id = fresh →
      left.endpoints = added := by
    intro id left found isNew
    have same := endpoints id
    rw [if_pos isNew, found, Option.map_some, Option.some.injEq] at same
    exact same
  have carried : ∀ id left, after.heap id = some left → id ≠ fresh →
      ∃ mapping, before.heap id = some mapping ∧ mapping.endpoints = left.endpoints := by
    intro id left found isOld
    have same := endpoints id
    rw [if_neg isOld, found, Option.map_some, eq_comm, Option.map_eq_some_iff] at same
    exact same
  intro first second left right leftFound rightFound same
  by_cases firstNew : first = fresh
  · by_cases secondNew : second = fresh
    · rw [firstNew, secondNew]
    · obtain ⟨old, oldFound, oldKey⟩ := carried second right rightFound secondNew
      rw [created first left leftFound firstNew, ← oldKey] at same
      exact absurd same.symm (free second old oldFound)
  · obtain ⟨leftOld, leftOldFound, leftKey⟩ := carried first left leftFound firstNew
    by_cases secondNew : second = fresh
    · rw [created second right rightFound secondNew, ← leftKey] at same
      exact absurd same (free first leftOld leftOldFound)
    · obtain ⟨rightOld, rightOldFound, rightKey⟩ := carried second right rightFound secondNew
      rw [← leftKey, ← rightKey] at same
      exact unique first second leftOld rightOld leftOldFound rightOldFound same

theorem Spares.refl (live : CtTuple → Bool) (t : Tables A) : Spares live t t :=
  fun _ mapping found _ => ⟨mapping, found, rfl, rfl⟩

theorem Spares.trans (head : Spares live first second) (tail : Spares live second third) :
    Spares live first third := by
  intro id mapping found some
  obtain ⟨middle, middleFound, middleKey, middleList⟩ := head id mapping found some
  obtain ⟨left, leftFound, leftKey, leftList⟩ :=
    tail id middle middleFound (by rw [middleList]; exact some)
  exact ⟨left, leftFound, leftKey.trans middleKey, leftList.trans middleList⟩

theorem Spares.keeps (spares : Spares live before after) : Keeps live before after := by
  intro id tuple tupleLive mapping found recorded
  have member : tuple ∈ mapping.originalTupleList.filter live :=
    List.mem_filter.mpr ⟨recorded, tupleLive⟩
  obtain ⟨left, leftFound, key, list⟩ := spares id mapping found (List.ne_nil_of_mem member)
  rw [← list] at member
  exact ⟨left, leftFound, key, (List.mem_filter.mp member).1⟩

theorem Retains.refl (id : Nat) (tuple : CtTuple) (t : Tables A) : Retains id tuple t t :=
  fun mapping found recorded => ⟨mapping, found, rfl, recorded⟩

theorem Retains.trans {id : Nat} {tuple : CtTuple} (head : Retains id tuple first second)
    (tail : Retains id tuple second third) : Retains id tuple first third := by
  intro mapping found recorded
  obtain ⟨middle, middleFound, middleKey, middleRecorded⟩ := head mapping found recorded
  obtain ⟨left, leftFound, leftKey, leftRecorded⟩ := tail middle middleFound middleRecorded
  exact ⟨left, leftFound, leftKey.trans middleKey, leftRecorded⟩

theorem retains_of_same {id : Nat} (tuple : CtTuple)
    (same : ∀ mapping, before.heap id = some mapping → after.heap id = some mapping) :
    Retains id tuple before after :=
  fun mapping found recorded => ⟨mapping, same mapping found, rfl, recorded⟩

theorem Keeps.refl (live : CtTuple → Bool) (t : Tables A) : Keeps live t t :=
  fun id tuple _ => Retains.refl id tuple t

theorem Keeps.trans (head : Keeps live first second) (tail : Keeps live second third) :
    Keeps live first third :=
  fun id tuple tupleLive => (head id tuple tupleLive).trans (tail id tuple tupleLive)

theorem wellFormed_empty (k : Kernel) (fam : Family A) : WellFormed k fam Tables.empty :=
  ⟨fun _ _ => rfl, indexed_empty _, indexed_empty _, fun _ _ found => nomatch found⟩

theorem WellFormed.allocated_lt (wf : WellFormed k fam t) {id : Nat} {mapping : NatMapping A}
    (found : t.heap id = some mapping) : id < t.fresh := by
  by_contra high
  have unused := wf.unused id (by omega)
  rw [found] at unused
  cases unused

theorem WellFormed.kill (wf : WellFormed k fam t) (mapping : Option Nat) :
    WellFormed k fam (killMapping mapping t) := by
  cases mapping with
  | none => exact wf
  | some id =>
    refine ⟨?_, wf.ext.unlink id, wf.int.unlink id, ?_⟩
    · intro other high
      by_cases same : other = id
      · simp [killMapping, same]
      · simpa [killMapping, same] using wf.unused other high
    · intro other left found
      by_cases same : other = id
      · simp [killMapping, same] at found
      · exact wf.refer other left (by simpa [killMapping, same] using found)

theorem WellFormed.setTuples (wf : WellFormed k fam t) (id : Nat) (mapping changed : NatMapping A)
    (found : t.heap id = some mapping) (key : changed.endpoints = mapping.endpoints)
    (counted : changed.referCount = changed.originalTupleList.length) :
    WellFormed k fam { t with heap := Function.update t.heap id (some changed) } := by
  have ports : changed.port = mapping.port := congrArg Endpoints.port key
  have sources : changed.intAddr = mapping.intAddr := congrArg Endpoints.intAddr key
  have sourcePorts : changed.intPort = mapping.intPort := congrArg Endpoints.intPort key
  refine ⟨?_, wf.ext.rewrite id mapping changed found (by simp [NatMapping.extBucket, ports]),
    wf.int.rewrite id mapping changed found
      (by simp [NatMapping.intBucket, sources, sourcePorts]), ?_⟩
  · intro other high
    have below : id < t.fresh := wf.allocated_lt found
    have differs : other ≠ id := by
      intro same
      subst other
      exact absurd below (by simpa using high)
    simpa [differs] using wf.unused other high
  · intro other left leftFound
    by_cases same : other = id
    · subst other
      simp only [Function.update_self, Option.some.injEq] at leftFound
      rw [← leftFound]
      exact counted
    · exact wf.refer other left (by simpa [same] using leftFound)

theorem WellFormed.allocate (wf : WellFormed k fam t) (kmalloc : Bool) (intAddr : A)
    (intPort port : BitVec 16) (addr : A) :
    WellFormed k fam (allocateMapping k fam kmalloc intAddr intPort port addr t).2 := by
  cases kmalloc with
  | false => exact wf
  | true =>
    have unused : t.heap t.fresh = none := wf.unused t.fresh (Nat.le_refl _)
    refine ⟨?_, wf.ext.link t.fresh ⟨port, addr, intAddr, intPort, 0, []⟩ unused,
      wf.int.link t.fresh ⟨port, addr, intAddr, intPort, 0, []⟩ unused, ?_⟩
    · intro other high
      have differs : other ≠ t.fresh := by
        intro same
        subst other
        exact absurd high (by simp [allocateMapping])
      have later : t.fresh + 1 ≤ other := by simpa [allocateMapping] using high
      have old : t.fresh ≤ other := by omega
      simpa [allocateMapping, differs] using wf.unused other old
    · intro other left found
      by_cases same : other = t.fresh
      · subst other
        simp only [allocateMapping, if_true, Function.update_self, Option.some.injEq] at found
        rw [← found]
        rfl
      · exact wf.refer other left (by simpa [allocateMapping, same] using found)

theorem WellFormed.addTuple (wf : WellFormed k fam t) (kmalloc : Bool) (id : Nat)
    (tuple : CtTuple) : WellFormed k fam (addOriginalTupleToMapping kmalloc id tuple t) := by
  cases found : t.heap id with
  | none => simpa [addOriginalTupleToMapping, found] using wf
  | some mapping =>
    cases kmalloc with
    | false => simpa [addOriginalTupleToMapping, found] using wf
    | true =>
      have counted := wf.refer id mapping found
      simp only [addOriginalTupleToMapping, found, if_true]
      exact wf.setTuples id mapping _ found rfl (by simp [counted])

theorem shrinks_kill (mapping : Option Nat) (t : Tables A) : Shrinks t (killMapping mapping t) := by
  cases mapping with
  | none => exact Shrinks.refl t
  | some id =>
    refine ⟨rfl, ?_⟩
    intro other left found
    by_cases same : other = id
    · simp [killMapping, same] at found
    · exact ⟨left, by simpa [killMapping, same] using found, rfl, List.Sublist.refl _⟩

theorem addTuple_heap (kmalloc : Bool) (id : Nat) (tuple : CtTuple) (t : Tables A) (other : Nat) :
    (addOriginalTupleToMapping kmalloc id tuple t).heap other =
      (t.heap other).map fun mapping =>
        if other = id ∧ kmalloc = true then
          { mapping with
            originalTupleList := tuple :: mapping.originalTupleList
            referCount := mapping.referCount + 1 }
        else mapping := by
  unfold addOriginalTupleToMapping
  cases found : t.heap id with
  | none =>
    by_cases same : other = id
    · simp [same, found]
    · simp [same]
  | some mapping =>
    cases kmalloc with
    | false => simp
    | true =>
      by_cases same : other = id
      · simp [same, found]
      · simp [same]

theorem addTuple_endpoints (kmalloc : Bool) (target : Nat) (tuple : CtTuple) (t : Tables A)
    (id : Nat) :
    ((addOriginalTupleToMapping kmalloc target tuple t).heap id).map NatMapping.endpoints =
      (t.heap id).map NatMapping.endpoints := by
  rw [addTuple_heap]
  cases t.heap id with
  | none => rfl
  | some mapping =>
    simp only [Option.map_some, NatMapping.endpoints]
    split <;> rfl

theorem carries_addTuple (kmalloc : Bool) (target : Nat) (tuple : CtTuple) (t : Tables A) :
    Carries t (addOriginalTupleToMapping kmalloc target tuple t) := by
  intro id left found
  have same := addTuple_endpoints kmalloc target tuple t id
  rw [found, Option.map_some, eq_comm, Option.map_eq_some_iff] at same
  obtain ⟨mapping, mappingFound, key⟩ := same
  exact ⟨mapping, mappingFound, key.symm⟩

theorem keeps_addTuple (live : CtTuple → Bool) (kmalloc : Bool) (target : Nat) (tuple : CtTuple)
    (t : Tables A) : Keeps live t (addOriginalTupleToMapping kmalloc target tuple t) := by
  intro id recorded _ mapping found member
  rw [addTuple_heap, found, Option.map_some]
  refine ⟨_, rfl, ?_, ?_⟩
  · split <;> rfl
  · split
    · exact List.mem_cons_of_mem _ member
    · exact member

theorem unlinkTuples_eq (keep : CtTuple → Bool) (tuples : List CtTuple) (refer : Int) :
    unlinkTuples keep tuples refer =
      (tuples.filter keep, refer - (tuples.length - (tuples.filter keep).length)) := by
  induction tuples generalizing refer with
  | nil => simp [unlinkTuples]
  | cons tuple rest ih =>
    cases kept : keep tuple with
    | true =>
      simp only [unlinkTuples, kept, if_true, ih, List.filter_cons_of_pos,
        List.length_cons]
      congr 1
      omega
    | false =>
      simp only [unlinkTuples, kept, Bool.false_eq_true, if_false, ih,
        List.length_cons]
      rw [List.filter_cons_of_neg (by simp [kept])]
      congr 1
      omega

/-- The mapping with the tuples that pass `keep`, as a prune leaves it. -/
def pruned (keep : CtTuple → Bool) (mapping : NatMapping A) : NatMapping A :=
  { mapping with
    originalTupleList := mapping.originalTupleList.filter keep
    referCount := (mapping.originalTupleList.filter keep).length }

@[simp] theorem pruned_endpoints (keep : CtTuple → Bool) (mapping : NatMapping A) :
    (pruned keep mapping).endpoints = mapping.endpoints := rfl

theorem pruneMapping_killed (wf : WellFormed k fam t) (keep : CtTuple → Bool) (id : Nat)
    (mapping : NatMapping A) (found : t.heap id = some mapping)
    (none : mapping.originalTupleList.filter keep = []) :
    pruneMapping keep id t = (false, killMapping (some id) t) := by
  have counted := wf.refer id mapping found
  simp [pruneMapping, found, unlinkTuples_eq, none, counted, killMapping]

theorem pruneMapping_kept (wf : WellFormed k fam t) (keep : CtTuple → Bool) (id : Nat)
    (mapping : NatMapping A) (found : t.heap id = some mapping)
    (some : mapping.originalTupleList.filter keep ≠ []) :
    pruneMapping keep id t =
      (true, { t with heap := Function.update t.heap id (.some (pruned keep mapping)) }) := by
  have counted := wf.refer id mapping found
  have positive : 0 < (mapping.originalTupleList.filter keep).length :=
    List.length_pos_iff.mpr some
  have remaining : mapping.referCount - (mapping.originalTupleList.length -
      (mapping.originalTupleList.filter keep).length) =
        ((mapping.originalTupleList.filter keep).length : Int) := by
    omega
  have referenced : ¬ ((mapping.originalTupleList.filter keep).length : Int) ≤ 0 := by
    omega
  simp only [pruneMapping, found, unlinkTuples_eq, remaining, if_neg referenced]
  rfl

structure PruneSpec (k : Kernel) (fam : Family A) (keep : CtTuple → Bool) (id : Nat)
    (t : Tables A) (result : Bool × Tables A) : Prop where
  wellFormed : WellFormed k fam result.2
  shrinks : Shrinks t result.2
  frame : ∀ other, other ≠ id → result.2.heap other = t.heap other
  usable : result.1 = true → ∃ mapping, t.heap id = some mapping ∧
    result.2.heap id = some (pruned keep mapping)
  killed : result.1 = false → result.2.heap id = none
  active : ∀ mapping, t.heap id = some mapping →
    result.1 = mapping.originalTupleList.any keep

theorem pruneMapping_spec (wf : WellFormed k fam t) (keep : CtTuple → Bool) (id : Nat) :
    PruneSpec k fam keep id t (pruneMapping keep id t) := by
  cases found : t.heap id with
  | none =>
    have unchanged : pruneMapping keep id t = (false, t) := by simp [pruneMapping, found]
    rw [unchanged]
    exact ⟨wf, Shrinks.refl t, fun _ _ => rfl, fun usable => by simp at usable,
      fun _ => found, fun mapping other => by simp [found] at other⟩
  | some mapping =>
    by_cases none : mapping.originalTupleList.filter keep = []
    · rw [pruneMapping_killed wf keep id mapping found none]
      refine ⟨wf.kill (some id), shrinks_kill (some id) t, ?_, fun usable => by simp at usable,
        fun _ => by simp [killMapping], ?_⟩
      · intro other differs
        simp [killMapping, differs]
      · intro candidate candidateFound
        rw [found, Option.some.injEq] at candidateFound
        subst candidate
        have nobody : mapping.originalTupleList.any keep = false := by
          simpa [List.filter_eq_nil_iff] using none
        exact nobody.symm
    · rw [pruneMapping_kept wf keep id mapping found none]
      refine ⟨wf.setTuples id mapping _ found rfl rfl, ⟨rfl, ?_⟩, ?_,
        fun _ => ⟨mapping, found, by simp⟩, fun killed => by simp at killed, ?_⟩
      · intro other left leftFound
        by_cases same : other = id
        · subst other
          simp only [Function.update_self, Option.some.injEq] at leftFound
          subst left
          exact ⟨mapping, found, rfl, List.filter_sublist⟩
        · exact ⟨left, by simpa [same] using leftFound, rfl, List.Sublist.refl _⟩
      · intro other differs
        simp [differs]
      · intro candidate candidateFound
        rw [found, Option.some.injEq] at candidateFound
        subst candidate
        have somebody : mapping.originalTupleList.any keep = true := by
          simpa [List.filter_eq_nil_iff] using none
        exact somebody.symm

theorem pruneMapping_spares (wf : WellFormed k fam t) (keep live : CtTuple → Bool) (id : Nat)
    (kept : ∀ mapping, t.heap id = some mapping →
      ∀ tuple ∈ mapping.originalTupleList, live tuple = true → keep tuple = true) :
    Spares live t (pruneMapping keep id t).2 := by
  intro other mapping found nonempty
  have spec := pruneMapping_spec wf keep id
  by_cases same : other = id
  · subst other
    obtain ⟨tuple, member⟩ := List.exists_mem_of_ne_nil _ nonempty
    obtain ⟨recorded, tupleLive⟩ := List.mem_filter.mp member
    have usable : (pruneMapping keep id t).1 = true := by
      rw [spec.active mapping found, List.any_eq_true]
      exact ⟨tuple, recorded, kept mapping found tuple recorded tupleLive⟩
    obtain ⟨before, beforeFound, after⟩ := spec.usable usable
    rw [found, Option.some.injEq] at beforeFound
    subst before
    refine ⟨pruned keep mapping, after, rfl, ?_⟩
    simp only [pruned, List.filter_filter]
    apply List.filter_congr
    intro candidate candidateRecorded
    cases candidateLive : live candidate with
    | false => simp
    | true => simp [kept mapping found candidate candidateRecorded candidateLive]
  · exact ⟨mapping, by rw [spec.frame other same]; exact found, rfl, rfl⟩

theorem pruneMapping_retains (wf : WellFormed k fam t) (keep : CtTuple → Bool) (target id : Nat)
    (tuple : CtTuple) (kept : target = id → keep tuple = true) :
    Retains id tuple t (pruneMapping keep target t).2 := by
  have spec := pruneMapping_spec wf keep target
  by_cases same : id = target
  · subst target
    intro mapping found recorded
    have usable : (pruneMapping keep id t).1 = true := by
      rw [spec.active mapping found, List.any_eq_true]
      exact ⟨tuple, recorded, kept rfl⟩
    obtain ⟨before, beforeFound, after⟩ := spec.usable usable
    rw [found, Option.some.injEq] at beforeFound
    subst before
    exact ⟨pruned keep mapping, after, rfl, List.mem_filter.mpr ⟨recorded, kept rfl⟩⟩
  · exact retains_of_same tuple fun mapping found => (spec.frame id same).trans found

variable [DecidableEq A]

/-- All that `get_mapping_by_ext_port` does: it checks mappings of the port,
and either finds one at the address or leaves none there. -/
structure ExtPortSpec (k : Kernel) (fam : Family A) (find : CtTuple → Bool)
    (port : BitVec 16) (extIp : A) (t : Tables A) (result : Option Nat × Tables A) : Prop where
  wellFormed : WellFormed k fam result.2
  shrinks : Shrinks t result.2
  spares : Spares find t result.2
  frame : ∀ id mapping, t.heap id = some mapping → mapping.port ≠ port →
    result.2.heap id = some mapping
  hit : ∀ id, result.1 = some id → ∃ mapping, t.heap id = some mapping ∧
    mapping.port = port ∧ mapping.addr = extIp ∧ mapping.originalTupleList.any find = true ∧
      result.2.heap id = some (pruned find mapping)

theorem scanExtPort_spec (k : Kernel) (fam : Family A) (find : CtTuple → Bool)
    (port : BitVec 16) (extIp : A) (ids : List Nat) (t : Tables A) (wf : WellFormed k fam t) :
    ExtPortSpec k fam find port extIp t (scanExtPort find port extIp ids t) ∧
      ((scanExtPort find port extIp ids t).1 = none → ∀ id ∈ ids, ∀ mapping,
        (scanExtPort find port extIp ids t).2.heap id = some mapping →
          ¬ (mapping.port = port ∧ mapping.addr = extIp)) := by
  induction ids generalizing t with
  | nil =>
    exact ⟨⟨wf, Shrinks.refl t, Spares.refl find t, fun _ _ found _ => found,
      fun _ hit => nomatch hit⟩, fun _ id member => nomatch member⟩
  | cons id rest ih =>
    -- a node that is skipped leaves the walk to the rest of the bucket
    cases found : t.heap id with
    | none =>
      have skipped : scanExtPort find port extIp (id :: rest) t =
          scanExtPort find port extIp rest t := by simp [scanExtPort, found]
      rw [skipped]
      obtain ⟨spec, absent⟩ := ih t wf
      refine ⟨spec, fun missed other member mapping leftFound => ?_⟩
      rcases List.mem_cons.mp member with same | later
      · subst other
        obtain ⟨before, beforeFound, -⟩ := spec.shrinks.survivor _ mapping leftFound
        rw [found] at beforeFound
        cases beforeFound
      · exact absent missed other later mapping leftFound
    | some mapping =>
      by_cases samePort : mapping.port = port
      · have checkSpec := pruneMapping_spec wf find id
        have checkSpares : Spares find t (checkMapping find id t).2 :=
          pruneMapping_spares wf find find id (fun _ _ _ _ live => live)
        have checkFrame : ∀ other candidate, t.heap other = some candidate →
            candidate.port ≠ port → (checkMapping find id t).2.heap other = some candidate := by
          intro other candidate candidateFound differs
          rw [checkMapping, checkSpec.frame other ?_, candidateFound]
          intro same
          subst other
          rw [found, Option.some.injEq] at candidateFound
          exact differs (by rw [← candidateFound, samePort])
        by_cases matched :
            ((checkMapping find id t).1 && decide (mapping.addr = extIp)) = true
        · have stopped : scanExtPort find port extIp (id :: rest) t =
              (some id, (checkMapping find id t).2) := by
            simp only [scanExtPort, found, samePort, if_true, matched]
          rw [stopped]
          simp only [Bool.and_eq_true, decide_eq_true_eq] at matched
          refine ⟨⟨checkSpec.wellFormed, checkSpec.shrinks, checkSpares, checkFrame, ?_⟩,
            fun missed => nomatch missed⟩
          intro hit hitEq
          cases hitEq
          obtain ⟨before, beforeFound, after⟩ := checkSpec.usable matched.1
          rw [found, Option.some.injEq] at beforeFound
          subst before
          refine ⟨mapping, found, samePort, matched.2, ?_, after⟩
          rw [← checkSpec.active mapping found]
          exact matched.1
        · have continued : scanExtPort find port extIp (id :: rest) t =
              scanExtPort find port extIp rest (checkMapping find id t).2 := by
            simp only [scanExtPort, found, samePort, if_true, if_neg matched]
          rw [continued]
          obtain ⟨spec, absent⟩ := ih (checkMapping find id t).2 checkSpec.wellFormed
          have gone : ∀ left, (checkMapping find id t).2.heap id = some left →
              ¬ (left.port = port ∧ left.addr = extIp) := by
            intro left leftFound matchedLeft
            cases usable : (checkMapping find id t).1 with
            | false =>
              have killed := checkSpec.killed usable
              rw [checkMapping] at leftFound
              rw [leftFound] at killed
              cases killed
            | true =>
              obtain ⟨before, beforeFound, after⟩ := checkSpec.usable usable
              rw [found, Option.some.injEq] at beforeFound
              subst before
              rw [checkMapping, after, Option.some.injEq] at leftFound
              subst left
              have addrs : mapping.addr = extIp := matchedLeft.2
              exact matched (by simp [usable, addrs])
          refine ⟨⟨spec.wellFormed, checkSpec.shrinks.trans spec.shrinks,
            checkSpares.trans spec.spares, ?_, ?_⟩, ?_⟩
          · intro other candidate candidateFound differs
            exact spec.frame other candidate
              (checkFrame other candidate candidateFound differs) differs
          · intro hit hitEq
            obtain ⟨candidate, candidateFound, candidatePort, candidateAddr, active, after⟩ :=
              spec.hit hit hitEq
            have differs : hit ≠ id := by
              intro same
              subst hit
              exact gone candidate candidateFound ⟨candidatePort, candidateAddr⟩
            refine ⟨candidate, ?_, candidatePort, candidateAddr, active, after⟩
            rw [← checkSpec.frame hit differs]
            exact candidateFound
          · intro missed other member left leftFound
            rcases List.mem_cons.mp member with same | later
            · subst other
              obtain ⟨before, beforeFound, key, -⟩ :=
                spec.shrinks.survivor _ left leftFound
              have ports : left.port = before.port := congrArg Endpoints.port key
              have addrs : left.addr = before.addr := congrArg Endpoints.addr key
              rw [ports, addrs]
              exact gone before beforeFound
            · exact absent missed other later left leftFound
      · have skipped : scanExtPort find port extIp (id :: rest) t =
            scanExtPort find port extIp rest t := by
          simp only [scanExtPort, found, if_neg samePort]
        rw [skipped]
        obtain ⟨spec, absent⟩ := ih t wf
        refine ⟨spec, fun missed other member left leftFound => ?_⟩
        rcases List.mem_cons.mp member with same | later
        · subst other
          rw [spec.frame _ mapping found samePort, Option.some.injEq] at leftFound
          subst left
          exact fun matched => samePort matched.1
        · exact absent missed other later left leftFound

theorem getMappingByExtPort_spec (wf : WellFormed k fam t) (find : CtTuple → Bool)
    (port : BitVec 16) (extIp : A) :
    ExtPortSpec k fam find port extIp t (getMappingByExtPort k find port extIp t) :=
  (scanExtPort_spec k fam find port extIp _ t wf).1

theorem getMappingByExtPort_none (wf : WellFormed k fam t) (find : CtTuple → Bool)
    (port : BitVec 16) (extIp : A) (missed : (getMappingByExtPort k find port extIp t).1 = none)
    (id : Nat) (mapping : NatMapping A)
    (found : (getMappingByExtPort k find port extIp t).2.heap id = some mapping) :
    ¬ (mapping.port = port ∧ mapping.addr = extIp) := by
  intro matched
  have spec := getMappingByExtPort_spec wf find port extIp
  obtain ⟨before, beforeFound, key, -⟩ := spec.shrinks.survivor id mapping found
  have ports : mapping.port = before.port := congrArg Endpoints.port key
  have member : id ∈ t.byExtPort (extPortBucket k port) := by
    apply (wf.ext.mem_iff id _).mpr
    refine ⟨before, beforeFound, ?_⟩
    rw [NatMapping.extBucket, ← ports, matched.1]
  exact (scanExtPort_spec k fam find port extIp _ t wf).2 missed id member mapping found matched

end OpenwrtSource.Fullcone.TableEffects
