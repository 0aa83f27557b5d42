import Mathlib.Data.List.Nodup
import Mathlib.Data.Set.Function
import Mathlib.Logic.Function.Basic

/-!
# Intrusive indexes over a heap of objects

Objects live in a heap and are linked, by pointer, into the buckets of an
index.  `Indexed` says that the index is exactly the set of live objects: each
one linked once, in its own bucket, and nothing else linked anywhere.  Linking
a new object, unlinking a freed one and rewriting an object in place keep it.
-/

namespace OpenwrtSource.Lib.Index

universe u v
variable {V : Type u} {B : Type v} [DecidableEq B]

def Indexed (heap : Nat → Option V) (bucket : V → B) (index : B → List Nat) : Prop :=
  ∀ id b, (index b).count id =
    match heap id with
    | some object => if bucket object = b then 1 else 0
    | none => 0

def link (index : B → List Nat) (b : B) (id : Nat) : B → List Nat :=
  Function.update index b (id :: index b)

/-- Removal of a node from the bucket it is on; the bucket is not named. -/
def unlink (index : B → List Nat) (id : Nat) : B → List Nat :=
  fun b => (index b).erase id

/-- First object of a bucket that passes a test. -/
def lookup (heap : Nat → Option V) (index : B → List Nat) (b : B) (test : V → Bool) :
    Option Nat :=
  (index b).find? fun id => (heap id).any test

variable {heap : Nat → Option V} {bucket : V → B} {index : B → List Nat}

theorem indexed_empty (bucket : V → B) : Indexed (fun _ => none) bucket (fun _ => []) := by
  intro id b
  simp

theorem Indexed.link (indexed : Indexed heap bucket index) (id : Nat) (object : V)
    (unused : heap id = none) :
    Indexed (Function.update heap id (some object)) bucket
      (link index (bucket object) id) := by
  intro other b
  have before := indexed other b
  by_cases same : other = id
  · subst other
    rw [unused] at before
    by_cases own : b = bucket object
    · subst b
      simp [Index.link, before]
    · simp [Index.link, own, Ne.symm own, before]
  · rw [Function.update_of_ne same]
    by_cases own : b = bucket object
    · subst b
      simpa [Index.link, Ne.symm same] using before
    · simpa [Index.link, own] using before

theorem Indexed.unlink (indexed : Indexed heap bucket index) (id : Nat) :
    Indexed (Function.update heap id none) bucket (unlink index id) := by
  intro other b
  have before := indexed other b
  by_cases same : other = id
  · subst other
    have single : (index b).count id ≤ 1 := by
      rw [before]
      split
      · split <;> omega
      · omega
    rw [Index.unlink, List.count_erase_self, Function.update_self]
    exact Nat.sub_eq_zero_of_le single
  · rw [Function.update_of_ne same]
    simpa [Index.unlink, List.count_erase_of_ne same] using before

theorem Indexed.rewrite (indexed : Indexed heap bucket index) (id : Nat) (object changed : V)
    (found : heap id = some object) (kept : bucket changed = bucket object) :
    Indexed (Function.update heap id (some changed)) bucket index := by
  intro other b
  have before := indexed other b
  by_cases same : other = id
  · subst other
    rw [found] at before
    simpa [kept] using before
  · rw [Function.update_of_ne same]
    exact before

theorem Indexed.mem_iff (indexed : Indexed heap bucket index) (id : Nat) (b : B) :
    id ∈ index b ↔ ∃ object, heap id = some object ∧ bucket object = b := by
  rw [← List.count_pos_iff, indexed id b]
  cases found : heap id with
  | none => simp
  | some object =>
    by_cases own : bucket object = b
    · simp [own]
    · simp [own]

variable {b : B} {test : V → Bool}

omit [DecidableEq B] in
theorem lookup_some {id : Nat} (result : lookup heap index b test = some id) :
    ∃ object, heap id = some object ∧ test object = true := by
  have passed := List.find?_some result
  simpa [Option.any_eq_true] using passed

theorem Indexed.lookup_none (indexed : Indexed heap bucket index)
    (result : lookup heap index b test = none) (id : Nat) (object : V)
    (found : heap id = some object) (own : bucket object = b) : test object = false := by
  have member : id ∈ index b := (indexed.mem_iff id b).mpr ⟨object, found, own⟩
  have failed := List.find?_eq_none.mp result id member
  simpa [found] using failed

theorem Indexed.lookup_unique (indexed : Indexed heap bucket index) (id : Nat) (object : V)
    (found : heap id = some object) (own : bucket object = b) (passes : test object = true)
    (unique : ∀ other candidate, heap other = some candidate → test candidate = true →
      other = id) : lookup heap index b test = some id := by
  cases result : lookup heap index b test with
  | none =>
    have failed := indexed.lookup_none result id object found own
    simp [passes] at failed
  | some other =>
    obtain ⟨candidate, candidateFound, candidatePasses⟩ := lookup_some result
    rw [unique other candidate candidateFound candidatePasses]

end OpenwrtSource.Lib.Index

/-!
# Numbers held by at most one holder

A counter gives out numbers, and holders come and go: a holder may hand what it
holds to another one, give it up, or take numbers that the counter has not reached.
-/

namespace OpenwrtSource.Lib.Numbering

universe u
variable {H : Type u}

/-- Each number below `next` has at most one live holder, the others have none. -/
structure Numbered (live : H → Prop) (holds : H → Nat → Prop) (next : Nat) : Prop where
  below : ∀ h, live h → ∀ n, holds h n → n < next
  distinct : ∀ h h', live h → live h' → ∀ n, holds h n → holds h' n → h = h'

variable {live live' : H → Prop} {holds holds' : H → Nat → Prop} {next next' : Nat}

theorem Numbered.hand (numbered : Numbered live holds next) (source : H → H)
    (injective : Set.InjOn source {h | live' h})
    (held : ∀ h, live' h → live (source h) ∧ ∀ n, holds' h n → holds (source h) n) :
    Numbered live' holds' next where
  below := by
    intro h alive n holding
    exact numbered.below (source h) (held h alive).1 n ((held h alive).2 n holding)
  distinct := by
    intro h h' alive alive' n holding holding'
    have same := numbered.distinct (source h) (source h') (held h alive).1 (held h' alive').1 n
      ((held h alive).2 n holding) ((held h' alive').2 n holding')
    exact injective alive alive' same

theorem Numbered.shrink (numbered : Numbered live holds next)
    (held : ∀ h, live' h → live h ∧ ∀ n, holds' h n → holds h n) : Numbered live' holds' next :=
  numbered.hand id (Set.injOn_id _) held

theorem Numbered.take (numbered : Numbered live holds next) (newcomer : H) (counter : next ≤ next')
    (fresh : ∀ n, holds' newcomer n → next ≤ n ∧ n < next')
    (others : ∀ h, h ≠ newcomer → live' h → live h ∧ ∀ n, holds' h n → holds h n) :
    Numbered live' holds' next' where
  below := by
    intro h alive n holding
    by_cases new : h = newcomer
    · subst new
      exact (fresh n holding).2
    · obtain ⟨old, held⟩ := others h new alive
      exact lt_of_lt_of_le (numbered.below h old n (held n holding)) counter
  distinct := by
    have clash : ∀ h, h ≠ newcomer → live' h → ∀ n, holds' h n → ¬ holds' newcomer n := by
      intro h old alive n holding taken
      obtain ⟨before, held⟩ := others h old alive
      exact absurd (numbered.below h before n (held n holding)) (Nat.not_lt.mpr (fresh n taken).1)
    intro h h' alive alive' n holding holding'
    by_cases new : h = newcomer
    · by_cases new' : h' = newcomer
      · rw [new, new']
      · subst new
        exact absurd holding (clash h' new' alive' n holding')
    · by_cases new' : h' = newcomer
      · subst new'
        exact absurd holding' (clash h new alive n holding)
      · exact numbered.distinct h h' (others h new alive).1 (others h' new' alive').1 n
          ((others h new alive).2 n holding) ((others h' new' alive').2 n holding')

end OpenwrtSource.Lib.Numbering

/-!
# Bounded linear probing

A search that starts at a slot and moves on while the slot is taken, at most a
given number of times.  It stops at the first free slot, or at the last slot it
may reach without looking at it.
-/

namespace OpenwrtSource.Lib.Probe

def probe (taken : Nat → Bool) : Nat → Nat → Nat
  | 0, slot => slot
  | tries + 1, slot => if taken slot then probe taken tries (slot + 1) else slot

section

variable (taken : Nat → Bool)

variable (tries slot : Nat)

theorem le_probe : slot ≤ probe taken tries slot := by
  induction tries generalizing slot with
  | zero => exact Nat.le_refl slot
  | succ tries ih =>
    unfold probe
    split
    · have further := ih (slot + 1)
      omega
    · exact Nat.le_refl slot

theorem probe_le : probe taken tries slot ≤ slot + tries := by
  induction tries generalizing slot with
  | zero => exact Nat.le_refl slot
  | succ tries ih =>
    unfold probe
    split
    · have further := ih (slot + 1)
      omega
    · omega

theorem taken_of_lt_probe {passed : Nat} (after : slot ≤ passed)
    (before : passed < probe taken tries slot) : taken passed = true := by
  induction tries generalizing slot with
  | zero =>
    unfold probe at before
    omega
  | succ tries ih =>
    unfold probe at before
    split at before
    · rename_i taken_slot
      by_cases here : passed = slot
      · rw [here]
        exact taken_slot
      · apply ih (slot + 1) _ before
        omega
    · omega

theorem probe_eq_of_taken (full : taken (probe taken tries slot) = true) :
    probe taken tries slot = slot + tries := by
  induction tries generalizing slot with
  | zero => rfl
  | succ tries ih =>
    unfold probe at full ⊢
    split
    · rename_i taken_slot
      rw [if_pos taken_slot] at full
      have further := ih (slot + 1) full
      omega
    · rename_i free
      rw [if_neg free] at full
      exact absurd full free

theorem probe_le_of_free {free : Nat} (after : slot ≤ free) (isFree : taken free = false) :
    probe taken tries slot ≤ free := by
  apply Nat.le_of_not_lt
  intro passed
  have isTaken := taken_of_lt_probe taken tries slot after passed
  rw [isFree] at isTaken
  exact absurd isTaken Bool.false_ne_true

theorem probe_fits_iff (size : Nat) :
    (probe taken tries slot < size ∧ taken (probe taken tries slot) = false) ↔
      ∃ k, k ≤ tries ∧ slot + k < size ∧ taken (slot + k) = false := by
  have lower := le_probe taken tries slot
  have upper := probe_le taken tries slot
  constructor
  · rintro ⟨inside, free⟩
    have offset : slot + (probe taken tries slot - slot) = probe taken tries slot := by omega
    refine ⟨probe taken tries slot - slot, by omega, ?_, ?_⟩
    · rw [offset]
      exact inside
    · rw [offset]
      exact free
  · rintro ⟨k, inReach, inside, free⟩
    have stops := probe_le_of_free taken tries slot (Nat.le_add_right slot k) free
    refine ⟨by omega, ?_⟩
    cases full : taken (probe taken tries slot) with
    | false => rfl
    | true =>
      -- the search would have ended at its last slot, which is then the free one
      have last := probe_eq_of_taken taken tries slot full
      have same : slot + k = probe taken tries slot := by omega
      rw [same, full] at free
      exact absurd free Bool.noConfusion

theorem probe_lt_iff (size : Nat) :
    probe taken tries slot < size ↔
      ∃ k, k ≤ tries ∧ slot + k < size ∧ (k = tries ∨ taken (slot + k) = false) := by
  have lower := le_probe taken tries slot
  have upper := probe_le taken tries slot
  constructor
  · intro inside
    have offset : slot + (probe taken tries slot - slot) = probe taken tries slot := by omega
    refine ⟨probe taken tries slot - slot, by omega, by omega, ?_⟩
    rw [offset]
    cases full : taken (probe taken tries slot) with
    | false => exact .inr rfl
    | true =>
      have last := probe_eq_of_taken taken tries slot full
      left
      omega
  · rintro ⟨k, inReach, inside, stops⟩
    obtain rfl | free := stops
    · omega
    · have before := probe_le_of_free taken tries slot (Nat.le_add_right slot k) free
      omega

end

end OpenwrtSource.Lib.Probe
