import Mathlib.Data.List.Basic
import Mathlib.Data.List.Pairwise
import Mathlib.Logic.Function.Basic

/-!
# Lists that represent a partial map

Each entry of the list has a key and a value, and no two entries have one key.
The operations on the first entry that passes a test are operations on the map
where the test picks out one key among the entries of the list.
-/

namespace OpenwrtSource.Lib.KeyedList

universe u v w
variable {E : Type u} {K : Type v} {V : Type w}

structure Lists (key : E → K) (val : E → V) (list : List E) (table : K → Option V) : Prop where
  once : list.Pairwise fun a b => key a ≠ key b
  listed : ∀ k v, table k = some v ↔ ∃ entry ∈ list, key entry = k ∧ val entry = v

/-- Among the entries of the list, those that pass are those of the key. -/
def Selects (key : E → K) (k : K) (passes : E → Bool) (list : List E) : Prop :=
  ∀ entry ∈ list, passes entry = true ↔ key entry = k

variable {key : E → K} {val : E → V} {list : List E} {table : K → Option V} {k : K}
  {passes : E → Bool}

theorem Lists.nil : Lists key val [] fun _ => none where
  once := List.Pairwise.nil
  listed := by simp

theorem Lists.find? (lists : Lists key val list table) (selects : Selects key k passes list) :
    (list.find? passes).map val = table k := by
  cases found : list.find? passes with
  | none =>
    cases held : table k with
    | none => rfl
    | some v =>
      obtain ⟨entry, member, own, -⟩ := (lists.listed k v).mp held
      have passed := (selects entry member).mpr own
      exact absurd passed (List.find?_eq_none.mp found entry member)
  | some entry =>
    have member := List.mem_of_find?_eq_some found
    have own := (selects entry member).mp (List.find?_some found)
    exact ((lists.listed k (val entry)).mpr ⟨entry, member, own, rfl⟩).symm

theorem find?_of_once [DecidableEq K] (once : list.Pairwise fun a b => key a ≠ key b) {entry : E}
    (member : entry ∈ list) : (list.find? fun other => key other = key entry) = some entry := by
  induction list with
  | nil => exact absurd member List.not_mem_nil
  | cons first rest ih =>
    obtain ⟨apart, others⟩ := List.pairwise_cons.mp once
    rcases List.mem_cons.mp member with isFirst | later
    · rw [isFirst]
      exact List.find?_cons_of_pos (decide_eq_true (Eq.refl (key first)))
    · have different : ¬ decide (key first = key entry) = true := by
        rw [decide_eq_true_eq]
        exact apart entry later
      rw [List.find?_cons, Bool.eq_false_iff.mpr different]
      exact ih others later

theorem Lists.filter (lists : Lists key val list table) {keep : E → Bool} {kept : K → V → Bool}
    (same : ∀ entry ∈ list, keep entry = kept (key entry) (val entry)) :
    Lists key val (list.filter keep) fun k => (table k).filter (kept k) where
  once := lists.once.filter keep
  listed := by
    intro k v
    simp only [Option.filter_eq_some_iff, lists.listed, List.mem_filter]
    constructor
    · rintro ⟨⟨entry, member, rfl, rfl⟩, isKept⟩
      exact ⟨entry, ⟨member, (same entry member).trans isKept⟩, rfl, rfl⟩
    · rintro ⟨entry, ⟨member, isKept⟩, rfl, rfl⟩
      exact ⟨⟨entry, member, rfl, rfl⟩, (same entry member).symm.trans isKept⟩

theorem Lists.map (lists : Lists key val list table) {f : E → E} {g : K → V → V}
    (sameKey : ∀ entry ∈ list, key (f entry) = key entry)
    (newVal : ∀ entry ∈ list, val (f entry) = g (key entry) (val entry)) :
    Lists key val (list.map f) fun k => (table k).map (g k) where
  once := by
    refine List.pairwise_map.mpr (lists.once.imp_of_mem fun {a b} inA inB apart => ?_)
    rwa [sameKey a inA, sameKey b inB]
  listed := by
    intro k v
    simp only [Option.map_eq_some_iff, lists.listed, List.mem_map]
    constructor
    · rintro ⟨_, ⟨entry, member, rfl, rfl⟩, rfl⟩
      exact ⟨f entry, ⟨entry, member, rfl⟩, sameKey entry member, newVal entry member⟩
    · rintro ⟨_, ⟨entry, member, rfl⟩, rfl, rfl⟩
      exact ⟨_, ⟨entry, member, (sameKey entry member).symm, rfl⟩,
        ((newVal entry member).trans (by rw [sameKey entry member])).symm⟩

theorem eraseP_eq_filter (once : list.Pairwise fun a b => key a ≠ key b)
    (selects : Selects key k passes list) :
    list.eraseP passes = list.filter fun entry => !passes entry := by
  induction list with
  | nil => rfl
  | cons entry rest ih =>
    obtain ⟨apart, others⟩ := List.pairwise_cons.mp once
    obtain ⟨own, selects⟩ := List.forall_mem_cons.mp selects
    cases passed : passes entry with
    | false =>
      rw [List.eraseP_cons_of_neg (by simp [passed]), List.filter_cons_of_pos (by simp [passed]),
        ih others selects]
    | true =>
      rw [List.eraseP_cons_of_pos passed, List.filter_cons_of_neg (by simp [passed])]
      refine (List.filter_eq_self.mpr fun other member => ?_).symm
      have different : ¬ passes other = true := fun passedToo =>
        apart other member ((own.mp passed).trans ((selects other member).mp passedToo).symm)
      simpa using different

theorem replaceF_eq_map (f : E → E) (once : list.Pairwise fun a b => key a ≠ key b)
    (selects : Selects key k passes list) :
    list.replaceF (fun entry => if passes entry then some (f entry) else none) =
      list.map fun entry => if passes entry then f entry else entry := by
  induction list with
  | nil => rfl
  | cons entry rest ih =>
    obtain ⟨apart, others⟩ := List.pairwise_cons.mp once
    obtain ⟨own, selects⟩ := List.forall_mem_cons.mp selects
    cases passed : passes entry with
    | false => simp [List.replaceF, passed, ih others selects]
    | true =>
      have kept : (rest.map fun other => if passes other then f other else other) = rest := by
        refine (List.map_congr_left fun other member => ?_).trans (List.map_id rest)
        refine if_neg fun passedToo => apart other member ?_
        exact (own.mp passed).trans ((selects other member).mp passedToo).symm
      simp [List.replaceF, passed, kept]

variable [DecidableEq K]

theorem Lists.cons (lists : Lists key val list table) (entry : E)
    (fresh : table (key entry) = none) :
    Lists key val (entry :: list) (Function.update table (key entry) (some (val entry))) where
  once := by
    refine List.pairwise_cons.mpr ⟨fun other member same => ?_, lists.once⟩
    have held := (lists.listed (key entry) (val other)).mpr ⟨other, member, same.symm, rfl⟩
    rw [fresh] at held
    cases held
  listed := by
    intro k v
    rw [List.exists_mem_cons_iff]
    by_cases own : k = key entry
    · subst own
      rw [Function.update_self, Option.some.injEq]
      constructor
      · exact fun same => .inl ⟨rfl, same⟩
      · rintro (⟨-, same⟩ | old)
        · exact same
        · rw [← lists.listed, fresh] at old
          cases old
    · rw [Function.update_of_ne own, lists.listed]
      exact ⟨.inr, fun holder => holder.resolve_left fun new => own new.1.symm⟩

theorem Lists.eraseP (lists : Lists key val list table) (selects : Selects key k passes list) :
    Lists key val (list.eraseP passes) (Function.update table k none) := by
  rw [eraseP_eq_filter lists.once selects]
  have removed : (fun k' => (table k').filter fun _ => decide (k' ≠ k)) =
      Function.update table k none := by
    funext k'
    by_cases own : k' = k
    · subst own
      simp
    · rw [Function.update_of_ne own]
      cases table k' <;> simp [own]
  rw [← removed]
  refine @Lists.filter _ _ _ _ _ _ _ lists _ (fun k' _ => decide (k' ≠ k)) ?_
  intro entry member
  rw [Bool.eq_iff_iff, Bool.not_eq_true', ← Bool.not_eq_true, selects entry member]
  simp

theorem Lists.replaceF (lists : Lists key val list table) (selects : Selects key k passes list)
    (held : (list.find? passes).isSome) {f : E → E} {v : V}
    (taken : ∀ entry ∈ list, passes entry = true → key (f entry) = k ∧ val (f entry) = v) :
    Lists key val (list.replaceF fun entry => if passes entry then some (f entry) else none)
      (Function.update table k (some v)) := by
  rw [replaceF_eq_map f lists.once selects]
  have replaced : (fun k' => (table k').map fun old => if k' = k then v else old) =
      Function.update table k (some v) := by
    funext k'
    by_cases own : k' = k
    · subst own
      obtain ⟨entry, found⟩ := Option.isSome_iff_exists.mp held
      have holds := lists.find? selects
      rw [found] at holds
      rw [Function.update_self, ← holds]
      simp
    · rw [Function.update_of_ne own]
      simp [own]
  rw [← replaced]
  refine @Lists.map _ _ _ _ _ _ _ lists _ (fun k' old => if k' = k then v else old) ?_ ?_
  · intro entry member
    split
    · rename_i passed
      rw [(taken entry member passed).1, (selects entry member).mp passed]
    · rfl
  · intro entry member
    split
    · rename_i passed
      rw [(taken entry member passed).2, if_pos ((selects entry member).mp passed)]
    · rename_i failed
      rw [if_neg fun own => failed ((selects entry member).mpr own)]

/-! ## A list that several tables share

The entries of one table are those that pass `own`. -/

section

variable {own : E → Bool} {f : E → E}

theorem filter_eraseP_own (list : List E) (own passes : E → Bool) :
    (list.eraseP fun entry => own entry && passes entry).filter own =
      (list.filter own).eraseP passes := by
  induction list with
  | nil => rfl
  | cons entry rest ih =>
    cases isOwn : own entry with
    | false => simp [isOwn, ih]
    | true => cases passed : passes entry <;> simp [isOwn, passed, ih]

theorem filter_eraseP_other (list : List E)
    (other : ∀ entry, passes entry = true → own entry = false) :
    (list.eraseP passes).filter own = list.filter own := by
  induction list with
  | nil => rfl
  | cons entry rest ih =>
    cases passed : passes entry with
    | false =>
      rw [List.eraseP_cons_of_neg (by simp [passed]), List.filter_cons, List.filter_cons, ih]
    | true =>
      rw [List.eraseP_cons_of_pos passed, List.filter_cons_of_neg (by simp [other _ passed])]

theorem filter_replaceF_own (list : List E) (passes : E → Bool)
    (stays : ∀ entry, own (f entry) = own entry) :
    (list.replaceF fun entry => if own entry && passes entry then some (f entry) else none).filter
        own =
      (list.filter own).replaceF fun entry => if passes entry then some (f entry) else none := by
  induction list with
  | nil => rfl
  | cons entry rest ih =>
    cases isOwn : own entry with
    | false => simp [isOwn, ih, -Bool.and_eq_true]
    | true => cases passed : passes entry <;> simp [isOwn, passed, stays, ih, -Bool.and_eq_true]

theorem filter_replaceF_other (list : List E)
    (other : ∀ entry, passes entry = true → own entry = false)
    (stays : ∀ entry, own (f entry) = own entry) :
    (list.replaceF fun entry => if passes entry then some (f entry) else none).filter own =
      list.filter own := by
  induction list with
  | nil => rfl
  | cons entry rest ih =>
    cases passed : passes entry with
    | false => simp only [List.replaceF, passed, Bool.false_eq_true, if_false, List.filter_cons, ih]
    | true => simp [List.replaceF, passed, stays, other _ passed]

end

end OpenwrtSource.Lib.KeyedList
