import Mathlib.Data.BitVec
import Mathlib.Data.List.Basic
import Mathlib.Data.List.Nodup
import Mathlib.Data.Rat.Cast.Order
import Mathlib.Logic.ExistsUnique
import Mathlib.Tactic.Linarith
import Mathlib.Tactic.Ring

/-!
# The sole hit of a scan

A scan counts its hits and keeps the last one; the result counts only if there was
exactly one hit.
-/

namespace OpenwrtSource.Lib.SoleHit

universe u
variable {A : Type u}

structure Scan (A : Type u) where
  found : Nat
  target : Option A

def visit (hits : A → Bool) (scan : Scan A) (a : A) : Scan A :=
  if hits a then ⟨scan.found + 1, some a⟩ else scan

def Scan.sole (scan : Scan A) : Option A := if scan.found = 1 then scan.target else none

theorem foldl_visit (hits : A → Bool) (scan : Scan A) (as : List A) :
    as.foldl (visit hits) scan =
      ⟨scan.found + (as.filter hits).length, ((as.filter hits).getLast?).or scan.target⟩ := by
  induction as generalizing scan with
  | nil => rfl
  | cons a as ih =>
    rw [List.foldl_cons, ih, visit]
    cases hit : hits a with
    | true =>
      rw [List.filter_cons_of_pos hit, List.getLast?_cons]
      simp only [if_true, List.length_cons, Option.or_some, Option.some_or]
      refine congrArg₂ Scan.mk (by omega) ?_
      cases (as.filter hits).getLast? <;> rfl
    | false =>
      rw [List.filter_cons_of_neg (by simp [hit])]
      rfl

theorem sole_eq_some_iff (hits : A → Bool) (as : List A) (a : A) :
    (as.foldl (visit hits) ⟨0, none⟩).sole = some a ↔ as.filter hits = [a] := by
  rw [foldl_visit, Scan.sole, Nat.zero_add, Option.or_none]
  constructor
  · intro sole
    by_cases single : (as.filter hits).length = 1
    · rw [if_pos single] at sole
      obtain ⟨only, filtered⟩ := List.length_eq_one_iff.mp single
      rw [filtered, List.getLast?_singleton] at sole
      rw [filtered, Option.some.inj sole]
    · rw [if_neg single] at sole
      cases sole
  · intro filtered
    rw [filtered]
    rfl

theorem filter_eq_singleton {hits : A → Bool} {as : List A} {a : A} (distinct : as.Nodup)
    (member : a ∈ as) (hit : hits a = true) (others : ∀ b ∈ as, hits b = true → b = a) :
    as.filter hits = [a] := by
  have kept : ∀ b ∈ as.filter hits, b = a := fun b inside =>
    others b (List.mem_filter.mp inside).1 (List.mem_filter.mp inside).2
  have present : a ∈ as.filter hits := List.mem_filter.mpr ⟨member, hit⟩
  have apart : (as.filter hits).Nodup := distinct.filter hits
  cases filtered : as.filter hits with
  | nil =>
    rw [filtered] at present
    cases present
  | cons first rest =>
    rw [filtered] at kept apart
    have head := kept first List.mem_cons_self
    subst head
    cases rest with
    | nil => rfl
    | cons second rest =>
      have again := kept second (List.mem_cons_of_mem _ List.mem_cons_self)
      subst again
      exact absurd List.mem_cons_self (List.nodup_cons.mp apart).1

end OpenwrtSource.Lib.SoleHit

/-!
# Claimants of a key

A list of claimants no two of which claim the same key.  A search then finds the
only claimant, and a key that is claimed is claimed at one index.
-/

namespace OpenwrtSource.Lib.Claimants

universe u v
variable {O : Type u} {K : Type v}

def Exclusive (claims : O → K → Bool) (claimants : List O) : Prop :=
  claimants.Pairwise fun a b => ∀ k, claims a k = true → claims b k = false

variable {claims : O → K → Bool} {claimants : List O}

theorem Exclusive.find? (exclusive : Exclusive claims claimants) {o : O} {k : K}
    (member : o ∈ claimants) (holds : claims o k = true) :
    claimants.find? (fun a => claims a k) = some o := by
  induction claimants with
  | nil => cases member
  | cons first rest ih =>
    obtain ⟨apart, others⟩ := List.pairwise_cons.mp exclusive
    rcases List.mem_cons.mp member with rfl | inside
    · exact List.find?_cons_of_pos holds
    · have passed : ¬ claims first k = true := by
        intro also
        rw [apart o inside k also] at holds
        cases holds
      have next := List.find?_cons_of_neg (p := fun a => claims a k) (l := rest) passed
      rw [next]
      exact ih others inside

theorem Exclusive.index_unique (exclusive : Exclusive claims claimants) {i j : Nat} {a b : O}
    {k : K} (first : claimants[i]? = some a) (second : claimants[j]? = some b)
    (holds : claims a k = true) (also : claims b k = true) : i = j := by
  obtain ⟨insideI, rfl⟩ := List.getElem?_eq_some_iff.mp first
  obtain ⟨insideJ, rfl⟩ := List.getElem?_eq_some_iff.mp second
  have pairs := List.pairwise_iff_getElem.mp exclusive
  rcases Nat.lt_trichotomy i j with before | same | behind
  · rw [pairs i j insideI insideJ before k holds] at also
    cases also
  · exact same
  · rw [pairs j i insideJ insideI behind k also] at holds
    cases holds

theorem Exclusive.existsUnique_index (exclusive : Exclusive claims claimants) (k : K) :
    (∃! i : Nat, ∃ o, claimants[i]? = some o ∧ claims o k = true) ↔
      ∃ o ∈ claimants, claims o k = true := by
  constructor
  · rintro ⟨i, ⟨o, here, holds⟩, -⟩
    exact ⟨o, List.mem_of_getElem? here, holds⟩
  · rintro ⟨o, member, holds⟩
    obtain ⟨i, here⟩ := List.mem_iff_getElem?.mp member
    refine ⟨i, ⟨o, here, holds⟩, ?_⟩
    rintro j ⟨other, there, also⟩
    exact exclusive.index_unique there here also holds

end OpenwrtSource.Lib.Claimants

/-!
# Division rounded to the nearest integer

`nearest x d` is `x / d` rounded to the closest natural number, ties upward, as
integer code computes it: half the divisor is added first.  Counting with a
rounded-down unit adds an error of one unit's loss for every unit counted.
-/

namespace OpenwrtSource.Lib.Nearest

def nearest (x d : Nat) : Nat := (x + d / 2) / d

variable (x d : Nat)

theorem nearest_mul_le : nearest x d * d ≤ x + d / 2 :=
  Nat.div_mul_le_self _ _

theorem lt_nearest_succ_mul (positive : 0 < d) : x + d / 2 < (nearest x d + 1) * d := by
  rw [Nat.mul_comm]
  exact Nat.lt_mul_div_succ _ positive

theorem nearest_mono (y d : Nat) (le : x ≤ y) : nearest x d ≤ nearest y d :=
  Nat.div_le_div_right (Nat.add_le_add_right le _)

theorem nearest_le_iff (m : Nat) (positive : 0 < d) :
    nearest x d ≤ m ↔ x + d / 2 < (m + 1) * d := by
  rw [← Nat.lt_succ_iff]
  exact Nat.div_lt_iff_lt_mul positive

theorem nearest_eq_zero_iff (positive : 0 < d) : nearest x d = 0 ↔ x + d / 2 < d := by
  rw [← Nat.le_zero, nearest_le_iff x d 0 positive, Nat.zero_add, Nat.one_mul]

theorem nearest_antitone (e : Nat) (positive : 0 < d) (le : d ≤ e) : nearest x e ≤ nearest x d := by
  have scaled : nearest x e * e ≤ x + e / 2 := nearest_mul_le x e
  rw [show nearest x d = (x + d / 2) / d from rfl, Nat.le_div_iff_mul_le positive]
  cases count : nearest x e with
  | zero => omega
  | succ below =>
    rw [count] at scaled
    have shrunk : below * d ≤ below * e := Nat.mul_le_mul_left below le
    rw [Nat.succ_mul] at scaled ⊢
    omega

theorem abs_nearest_mul_sub (positive : 0 < d) : |(nearest x d : ℚ) * d - x| ≤ d / 2 := by
  have upper : 2 * (nearest x d * d) ≤ 2 * x + d := by
    have := nearest_mul_le x d
    omega
  have lower : 2 * x ≤ 2 * (nearest x d * d) + d := by
    have := lt_nearest_succ_mul x d positive
    rw [Nat.succ_mul] at this
    omega
  have upper' : (2 : ℚ) * (nearest x d * d) ≤ 2 * x + d := by exact_mod_cast upper
  have lower' : (2 : ℚ) * x ≤ 2 * (nearest x d * d) + d := by exact_mod_cast lower
  rw [abs_le]
  constructor
  · linarith
  · linarith

theorem abs_nearest_tick_sub (tick : ℚ) (positive : 0 < d) (le : (d : ℚ) ≤ tick) :
    |(nearest x d : ℚ) * tick - x| ≤ tick / 2 + nearest x d * (tick - d) := by
  have loss : 0 ≤ (nearest x d : ℚ) * (tick - d) :=
    mul_nonneg (Nat.cast_nonneg _) (sub_nonneg.mpr le)
  calc |(nearest x d : ℚ) * tick - x|
      = |((nearest x d : ℚ) * d - x) + nearest x d * (tick - d)| := by
        congr 1
        ring
    _ ≤ |(nearest x d : ℚ) * d - x| + |(nearest x d : ℚ) * (tick - d)| := abs_add_le _ _
    _ ≤ d / 2 + nearest x d * (tick - d) := by
        rw [abs_of_nonneg loss]
        exact add_le_add_left (abs_nearest_mul_sub x d positive) _
    _ ≤ tick / 2 + nearest x d * (tick - d) := by linarith

end OpenwrtSource.Lib.Nearest

/-!
# Bitwise majority

Of some words of one width, the bits that more than half of them have.  A word that
more than half of them are is the majority, whatever the others are.
-/

namespace OpenwrtSource.Lib.Majority

variable {w : Nat}

/-- The word of the bits that a loop finds. -/
def collect (w : Nat) (bit : Nat → Bool) : BitVec w :=
  (List.range w).foldl (fun val j => if bit j then val ||| BitVec.twoPow w j else val) 0

theorem getLsbD_foldl_set (bit : Nat → Bool) (places : List Nat) (val : BitVec w) (k : Nat) :
    (places.foldl (fun (val : BitVec w) j =>
        if bit j then val ||| BitVec.twoPow w j else val) val).getLsbD k =
      (val.getLsbD k || (decide (k < w) && places.contains k && bit k)) := by
  induction places generalizing val with
  | nil => simp
  | cons j rest ih =>
    have one : (BitVec.twoPow w j).getLsbD k = (decide (k < w) && decide (k = j)) := by
      rw [BitVec.getLsbD_twoPow]
      grind
    rw [List.foldl_cons, ih, List.contains_cons]
    cases set : bit j with
    | true =>
      simp only [if_true, BitVec.getLsbD_or, one]
      grind
    | false =>
      simp only [Bool.false_eq_true, if_false]
      grind

theorem getLsbD_collect (bit : Nat → Bool) {k : Nat} (inside : k < w) :
    (collect w bit).getLsbD k = bit k := by
  unfold collect
  rw [getLsbD_foldl_set]
  simp [inside]

def majority (words : List (BitVec w)) : BitVec w :=
  collect w fun j => decide (words.countP (·.getLsbD j) > words.length / 2)

theorem getLsbD_majority (words : List (BitVec w)) {k : Nat} (inside : k < w) :
    (majority words).getLsbD k = decide (words.countP (·.getLsbD k) > words.length / 2) :=
  getLsbD_collect _ inside

theorem majority_eq_of_count {words : List (BitVec w)} {word : BitVec w}
    (most : words.length < 2 * words.countP (· == word)) : majority words = word := by
  apply BitVec.eq_of_getLsbD_eq
  intro k inside
  rw [getLsbD_majority words inside]
  cases set : word.getLsbD k with
  | true =>
    have voters : words.countP (· == word) ≤ words.countP (·.getLsbD k) := by
      apply List.countP_mono_left
      intro vote _ same
      rw [beq_iff_eq.mp same, set]
    exact decide_eq_true (by omega)
  | false =>
    have others : words.countP (·.getLsbD k) ≤ words.countP fun vote => !(vote == word) := by
      apply List.countP_mono_left
      intro vote _ has
      rw [Bool.not_eq_true', beq_eq_false_iff_ne]
      rintro rfl
      rw [set] at has
      cases has
    have all := List.length_eq_countP_add_countP (· == word) (l := words)
    refine decide_eq_false ?_
    simp only [Bool.not_eq_true, Bool.decide_eq_false] at all
    omega

end OpenwrtSource.Lib.Majority
