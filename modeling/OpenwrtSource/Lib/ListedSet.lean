import Mathlib.Data.Finset.Erase
import Mathlib.Data.Finset.Insert
import Mathlib.Data.List.Pairwise
import Mathlib.Logic.ExistsUnique
import Mathlib.Logic.Function.Basic

/-!
# Lists that represent a set

Each entry of the list stands for one element, each element of the set is that
of an entry, and no two entries are of the same element.  A list that represents
a set goes on to represent it with an element added or removed exactly when the
entry that comes or goes is the one of the element.
-/

namespace OpenwrtSource.Lib.ListedSet

universe u v
variable {E : Type u} {R : Type v}

structure Represents (holds : E → R → Prop) (list : List E) (set : Finset R) : Prop where
  listed : ∀ element, element ∈ set ↔ ∃ entry ∈ list, holds entry element
  meant : ∀ entry ∈ list, ∃ element, holds entry element
  once : list.Pairwise fun a b => ∀ element, holds a element → ¬ holds b element

variable {holds : E → R → Prop} {list : List E} {set : Finset R}

theorem Represents.nil : Represents holds [] ∅ where
  listed := by simp
  meant := by simp
  once := List.Pairwise.nil

variable [DecidableEq R] (functional : ∀ entry a b, holds entry a → holds entry b → a = b)

include functional in
theorem Represents.cons_insert_iff (rep : Represents holds list set) (entry : E) (element : R) :
    Represents holds (entry :: list) (insert element set) ↔
      holds entry element ∧ element ∉ set := by
  constructor
  · intro added
    obtain ⟨apart, _⟩ := List.pairwise_cons.mp added.once
    have absent : element ∉ set := by
      intro old
      -- the new entry would be the second one of an element of the set
      obtain ⟨other, holding⟩ := added.meant entry (by simp)
      have listed : other ∈ set := by
        have member := (added.listed other).mpr ⟨entry, by simp, holding⟩
        rwa [Finset.insert_eq_of_mem old] at member
      obtain ⟨first, member, same⟩ := (rep.listed other).mp listed
      exact apart first member other holding same
    obtain ⟨holder, member, holding⟩ := (added.listed element).mp (Finset.mem_insert_self _ _)
    obtain rfl | old := List.mem_cons.mp member
    · exact ⟨holding, absent⟩
    · exact absurd ((rep.listed element).mpr ⟨holder, old, holding⟩) absent
  · rintro ⟨holding, absent⟩
    refine ⟨?_, ?_, ?_⟩
    · intro other
      rw [Finset.mem_insert, rep.listed other, List.exists_mem_cons_iff]
      exact or_congr_left ⟨fun same => same ▸ holding,
        fun held => functional entry other element held holding⟩
    · exact List.forall_mem_cons.mpr ⟨⟨element, holding⟩, rep.meant⟩
    · refine List.pairwise_cons.mpr ⟨?_, rep.once⟩
      intro other member same new old
      obtain rfl := functional entry same element new holding
      exact absent ((rep.listed same).mpr ⟨other, member, old⟩)

theorem Represents.insert_iff (rep : Represents holds list set) (element : R) :
    Represents holds list (insert element set) ↔ element ∈ set := by
  constructor
  · intro added
    exact (rep.listed element).mpr ((added.listed element).mp (Finset.mem_insert_self _ _))
  · intro old
    rwa [Finset.insert_eq_of_mem old]

theorem Represents.erase_iff (rep : Represents holds list set) (element : R) :
    Represents holds list (set.erase element) ↔ element ∉ set := by
  constructor
  · intro removed old
    have member := (removed.listed element).mpr ((rep.listed element).mp old)
    exact Finset.notMem_erase element set member
  · intro absent
    rwa [Finset.erase_eq_of_notMem absent]

include functional in
theorem Represents.eraseP_erase_iff (rep : Represents holds list set) {passes : E → Bool}
    {entry : E} (found : list.find? passes = some entry) (element : R) :
    Represents holds (list.eraseP passes) (set.erase element) ↔ holds entry element := by
  obtain ⟨passed, before, after, rfl, skipped⟩ := List.find?_eq_some_iff_append.mp found
  have erased : (before ++ entry :: after).eraseP passes = before ++ after := by
    rw [List.eraseP_append_right _ (by simpa using skipped), List.eraseP_cons_of_pos passed]
  obtain ⟨holding, rest⟩ :=
    List.pairwise_middle (fun {a b} apart element right left => apart element left right)
      |>.mp rep.once |> List.pairwise_cons.mp
  have others : ∀ other, holds entry other → ¬ ∃ e ∈ before ++ after, holds e other := by
    rintro other own ⟨e, member, same⟩
    exact holding e member other own same
  rw [erased]
  constructor
  · intro removed
    obtain ⟨own, isOwn⟩ := rep.meant entry (by simp)
    by_contra other
    have different : own ≠ element := fun same => other (same ▸ isOwn)
    have stays : own ∈ set.erase element :=
      Finset.mem_erase.mpr ⟨different, (rep.listed own).mpr ⟨entry, by simp, isOwn⟩⟩
    exact others own isOwn ((removed.listed own).mp stays)
  · intro own
    refine ⟨?_, fun e member => rep.meant e ?_, rest⟩
    · intro other
      rw [Finset.mem_erase, rep.listed other]
      constructor
      · rintro ⟨different, e, member, held⟩
        refine ⟨e, ?_, held⟩
        simp only [List.mem_append, List.mem_cons] at member ⊢
        obtain front | rfl | back := member
        · exact .inl front
        · exact absurd (functional e other element held own) different
        · exact .inr back
      · rintro ⟨e, member, held⟩
        refine ⟨?_, e, ?_, held⟩
        · rintro rfl
          exact others other own ⟨e, member, held⟩
        · simp only [List.mem_append, List.mem_cons] at member ⊢
          exact member.imp_right Or.inr
    · simp only [List.mem_append, List.mem_cons] at member ⊢
      exact member.imp_right Or.inr

end OpenwrtSource.Lib.ListedSet

/-!
# Values held once on both sides

Entries and slots hold values, or a blank.  They are paired when each value is held by one
entry and by one slot: so they stay when a new value is put where both are blank, and when a
value is wiped from both; not so when it is put over another one.
-/

namespace OpenwrtSource.Lib.Pairing

universe u v w
variable {Entry : Type u} {Slot : Type v} {Value : Type w}
variable {blank : Value} {held : Entry → Value} {kept : Slot → Value}

structure Paired (blank : Value) (held : Entry → Value) (kept : Slot → Value) : Prop where
  placed : ∀ e, held e ≠ blank → ∃ s, kept s = held e
  owned : ∀ s, kept s ≠ blank → ∃ e, held e = kept s
  heldOnce : ∀ e e', held e ≠ blank → held e = held e' → e = e'
  keptOnce : ∀ s s', kept s ≠ blank → kept s = kept s' → s = s'

theorem paired_iff : Paired blank held kept ↔
    (∀ e, held e ≠ blank → ∃! s, kept s = held e) ∧
      ∀ s, kept s ≠ blank → ∃! e, held e = kept s := by
  constructor
  · intro paired
    refine ⟨fun e full => ?_, fun s full => ?_⟩
    · obtain ⟨s, same⟩ := paired.placed e full
      refine ⟨s, same, fun other equal => ?_⟩
      exact paired.keptOnce other s (by rwa [equal]) (equal.trans same.symm)
    · obtain ⟨e, same⟩ := paired.owned s full
      refine ⟨e, same, fun other equal => ?_⟩
      exact paired.heldOnce other e (by rwa [equal]) (equal.trans same.symm)
  · rintro ⟨placed, owned⟩
    refine ⟨fun e full => (placed e full).exists, fun s full => (owned s full).exists, ?_, ?_⟩
    · intro e e' full same
      obtain ⟨s, at_⟩ := (placed e full).exists
      exact (owned s (by rwa [at_])).unique at_.symm (same ▸ at_.symm)
    · intro s s' full same
      obtain ⟨e, at_⟩ := (owned s full).exists
      exact (placed e (by rwa [at_])).unique at_.symm (same ▸ at_.symm)

theorem paired_blank : Paired blank (fun _ : Entry => blank) (fun _ : Slot => blank) where
  placed _ full := absurd rfl full
  owned _ full := absurd rfl full
  heldOnce _ _ full := absurd rfl full
  keptOnce _ _ full := absurd rfl full

theorem Paired.fresh (paired : Paired blank held kept) {value : Value} (full : value ≠ blank)
    (new : ∀ s, kept s ≠ value) (e : Entry) : held e ≠ value := by
  intro same
  obtain ⟨s, at_⟩ := paired.placed e (same ▸ full)
  exact new s (at_.trans same)

section
variable [DecidableEq Entry] [DecidableEq Slot]

variable {e : Entry} {s : Slot} {value : Value}

theorem placed_put (placed : ∀ e, held e ≠ blank → ∃ s, kept s = held e) (empty : kept s = blank) :
    ∀ e', Function.update held e value e' ≠ blank →
      ∃ s', Function.update kept s value s' = Function.update held e value e' := by
  intro e' full
  by_cases here : e' = e
  · exact ⟨s, by rw [here, Function.update_self, Function.update_self]⟩
  · rw [Function.update_of_ne here] at full ⊢
    obtain ⟨s', same⟩ := placed e' full
    have apart : s' ≠ s := by
      rintro rfl
      exact full (same.symm.trans empty)
    exact ⟨s', by rw [Function.update_of_ne apart, same]⟩

theorem once_put (once : ∀ s s', kept s ≠ blank → kept s = kept s' → s = s')
    (new : ∀ s, kept s ≠ value) :
    ∀ a b, Function.update kept s value a ≠ blank →
      Function.update kept s value a = Function.update kept s value b → a = b := by
  intro a b full same
  by_cases first : a = s <;> by_cases last : b = s
  · rw [first, last]
  · rw [first, Function.update_self, Function.update_of_ne last] at same
    exact absurd same.symm (new b)
  · rw [last, Function.update_self, Function.update_of_ne first] at same
    exact absurd same (new a)
  · rw [Function.update_of_ne first] at full
    rw [Function.update_of_ne first, Function.update_of_ne last] at same
    exact once a b full same

theorem Paired.put (paired : Paired blank held kept) (full : value ≠ blank)
    (new : ∀ s, kept s ≠ value) (noEntry : held e = blank) (noSlot : kept s = blank) :
    Paired blank (Function.update held e value) (Function.update kept s value) where
  placed := placed_put paired.placed noSlot
  owned := placed_put paired.owned noEntry
  heldOnce := once_put paired.heldOnce (paired.fresh full new)
  keptOnce := once_put paired.keptOnce new

theorem placed_wipe (same : kept s = held e) (placed : ∀ e, held e ≠ blank → ∃ s, kept s = held e)
    (heldOnce : ∀ e e', held e ≠ blank → held e = held e' → e = e') :
    ∀ e', Function.update held e blank e' ≠ blank →
      ∃ s', Function.update kept s blank s' = Function.update held e blank e' := by
  intro e' full
  by_cases here : e' = e
  · rw [here, Function.update_self] at full
    exact absurd rfl full
  · rw [Function.update_of_ne here] at full ⊢
    obtain ⟨s', at_⟩ := placed e' full
    have apart : s' ≠ s := by
      rintro rfl
      exact here (heldOnce e' e full (at_.symm.trans same))
    exact ⟨s', by rw [Function.update_of_ne apart, at_]⟩

theorem once_wipe (once : ∀ s s', kept s ≠ blank → kept s = kept s' → s = s') :
    ∀ a b, Function.update kept s blank a ≠ blank →
      Function.update kept s blank a = Function.update kept s blank b → a = b := by
  intro a b full same
  have first : a ≠ s := by
    rintro rfl
    exact full (Function.update_self a blank kept)
  have last : b ≠ s := by
    rintro rfl
    rw [Function.update_self] at same
    exact full same
  rw [Function.update_of_ne first] at full
  rw [Function.update_of_ne first, Function.update_of_ne last] at same
  exact once a b full same

theorem Paired.wipe (paired : Paired blank held kept) (same : kept s = held e) :
    Paired blank (Function.update held e blank) (Function.update kept s blank) where
  placed := placed_wipe same paired.placed paired.heldOnce
  owned := placed_wipe same.symm paired.owned paired.keptOnce
  heldOnce := once_wipe paired.heldOnce
  keptOnce := once_wipe paired.keptOnce

end

theorem Paired.not_put_over [DecidableEq Entry] (paired : Paired blank held kept) {e : Entry}
    {s : Slot} {value : Value} (new : ∀ s, kept s ≠ value) (filled : held e ≠ blank)
    (noSlot : kept s = blank) :
    ∃ s', s' ≠ s ∧ kept s' = held e ∧ ∀ e', Function.update held e value e' ≠ held e := by
  obtain ⟨s', at_⟩ := paired.placed e filled
  have apart : s' ≠ s := by
    rintro rfl
    exact filled (at_.symm.trans noSlot)
  refine ⟨s', apart, at_, fun e' => ?_⟩
  by_cases here : e' = e
  · rw [here, Function.update_self, ← at_]
    exact (new s').symm
  · rw [Function.update_of_ne here]
    intro same
    exact here (paired.heldOnce e e' filled same.symm).symm

end OpenwrtSource.Lib.Pairing
