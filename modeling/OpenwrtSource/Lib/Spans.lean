import Mathlib.Order.Basic
import Mathlib.Tactic.Tauto

/-!
# Byte spans

Spans given by a start and a length, when two of them have no byte in common, and
families of spans at even distances.
-/

namespace OpenwrtSource.Lib.Spans

structure Span where
  start : Nat
  len : Nat

def Span.Has (span : Span) (x : Nat) : Prop := span.start ≤ x ∧ x < span.start + span.len

/-- The span ends before `limit`. -/
def Span.EndsBy (span : Span) (limit : Nat) : Prop := span.start + span.len ≤ limit

def Apart (a b : Span) : Prop := ∀ x, a.Has x → ¬ b.Has x

theorem Apart.symm {a b : Span} (apart : Apart a b) : Apart b a :=
  fun x inB inA => apart x inA inB

theorem apart_iff {a b : Span} :
    Apart a b ↔
      a.len = 0 ∨ b.len = 0 ∨ a.start + a.len ≤ b.start ∨ b.start + b.len ≤ a.start := by
  unfold Apart Span.Has
  constructor
  · intro apart
    -- the later of the two starts is in both spans unless one of them has ended
    have first := apart (max a.start b.start)
    omega
  · intro separate x inA inB
    omega

theorem Apart.of_le {a b : Span} (after : a.start + a.len ≤ b.start) : Apart a b :=
  apart_iff.mpr (.inr (.inr (.inl after)))

theorem apart_union_iff {whole left right other : Span}
    (union : ∀ x, whole.Has x ↔ left.Has x ∨ right.Has x) :
    Apart whole other ↔ Apart left other ∧ Apart right other := by
  unfold Apart
  simp only [union, or_imp, forall_and]

def spaced (start step len i : Nat) : Span := ⟨start + step * i, len⟩

theorem spaced_pairwise_iff (start step len n : Nat) :
    (∀ i < n, ∀ j < n, i ≠ j → Apart (spaced start step len i) (spaced start step len j)) ↔
      n ≤ 1 ∨ len ≤ step := by
  constructor
  · intro apart
    refine or_iff_not_imp_left.mpr fun several => ?_
    have neighbours := apart_iff.mp (apart 0 (by omega) 1 (by omega) (by omega))
    simp only [spaced] at neighbours
    omega
  · intro room i inI j inJ other
    have fits : len ≤ step := room.resolve_left (by omega)
    have after : ∀ k l, k < l → Apart (spaced start step len k) (spaced start step len l) := by
      intro k l before
      have next : step * (k + 1) ≤ step * l := Nat.mul_le_mul_left step before
      refine Apart.of_le ?_
      simp only [spaced]
      rw [Nat.mul_add, Nat.mul_one] at next
      omega
    rcases Nat.lt_or_gt_of_ne other with before | before
    · exact after i j before
    · exact (after j i before).symm

theorem forall_or_iff_threshold {n : Nat} {left right : Nat → Prop}
    (down : ∀ i j, i ≤ j → left j → left i) (up : ∀ i j, i ≤ j → right i → right j) :
    (∀ j < n, left j ∨ right j) ↔
      ∃ m ≤ n, (0 < m → left (m - 1)) ∧ (m < n → right m) := by
  constructor
  · intro all
    induction n with
    | zero => exact ⟨0, Nat.le_refl 0, nofun, nofun⟩
    | succ n ih =>
      obtain ⟨m, bound, before, after⟩ := ih fun j inside => all j (by omega)
      rcases Nat.lt_or_ge m n with inside | full
      · exact ⟨m, by omega, before, fun _ => after inside⟩
      · rcases all n (by omega) with last | last
        · exact ⟨n + 1, by omega, fun _ => last, fun impossible => by omega⟩
        · have here : m = n := by omega
          exact ⟨m, by omega, before, fun _ => here ▸ last⟩
  · rintro ⟨m, -, before, after⟩ j inside
    rcases Nat.lt_or_ge j m with less | more
    · exact .inl (down j (m - 1) (by omega) (before (by omega)))
    · exact .inr (up m j more (after (by omega)))

/-- A span lies between two neighbours of a family of `n`, before the first or behind the
last. -/
def InGap (span : Span) (start step len n : Nat) : Prop :=
  ∃ m ≤ n, (0 < m → start + step * (m - 1) + len ≤ span.start) ∧
    (m < n → span.start + span.len ≤ start + step * m)

theorem apart_spaced_iff (span : Span) (start step len n : Nat) :
    (∀ j < n, Apart span (spaced start step len j)) ↔
      span.len = 0 ∨ len = 0 ∨ InGap span start step len n := by
  by_cases empty : span.len = 0 ∨ len = 0
  · refine iff_of_true (fun j _ => apart_iff.mpr ?_) (by tauto)
    simp only [spaced]
    tauto
  · have both : ∀ j, Apart span (spaced start step len j) ↔
        start + step * j + len ≤ span.start ∨ span.start + span.len ≤ start + step * j := by
      intro j
      rw [apart_iff]
      simp only [spaced]
      tauto
    simp only [both]
    rw [forall_or_iff_threshold]
    · rw [or_iff_right (not_or.mp empty).1, or_iff_right (not_or.mp empty).2]
      rfl
    · intro i j le reaches
      have := Nat.mul_le_mul_left step le
      omega
    · intro i j le reaches
      have := Nat.mul_le_mul_left step le
      omega

theorem apart_shift_iff (a b : Span) (offset : Nat) :
    Apart ⟨a.start + offset, a.len⟩ ⟨b.start + offset, b.len⟩ ↔ Apart a b := by
  simp only [apart_iff]
  omega

theorem spaced_apart_spaced_iff (a b step lenA lenB n : Nat) (nonempty : 0 < n) :
    (∀ i < n, ∀ j < n, Apart (spaced a step lenA i) (spaced b step lenB j)) ↔
      lenA = 0 ∨ lenB = 0 ∨ InGap ⟨a + step * (n - 1), lenA⟩ b step lenB (2 * n - 1) := by
  have gap := apart_spaced_iff ⟨a + step * (n - 1), lenA⟩ b step lenB (2 * n - 1)
  have moved : ∀ i < n, ∀ j, Apart (spaced a step lenA i) (spaced b step lenB j) ↔
      Apart ⟨a + step * (n - 1), lenA⟩ (spaced b step lenB (j + (n - 1 - i))) := by
    intro i inside j
    rw [← apart_shift_iff _ _ (step * (n - 1 - i))]
    have last : step * (n - 1) = step * i + step * (n - 1 - i) := by
      rw [← Nat.mul_add]
      congr 1
      omega
    simp only [spaced, last, Nat.mul_add, Nat.add_assoc]
  refine Iff.trans ⟨fun apart t inside => ?_, fun apart i inI j inJ => ?_⟩ gap
  · rcases Nat.lt_or_ge t n with early | late
    · have here := (moved (n - 1 - t) (by omega) 0).mp (apart _ (by omega) 0 nonempty)
      have place : 0 + (n - 1 - (n - 1 - t)) = t := by omega
      rw [place] at here
      exact here
    · have here := (moved 0 nonempty (t - (n - 1))).mp (apart 0 nonempty _ (by omega))
      have place : t - (n - 1) + (n - 1 - 0) = t := by omega
      rw [place] at here
      exact here
  · exact (moved i inI j).mpr (apart _ (by omega))

theorem has_contiguous_iff (start len n x : Nat) :
    (∃ i < n, (spaced start len len i).Has x) ↔ Span.Has ⟨start, len * n⟩ x := by
  unfold Span.Has spaced
  constructor
  · rintro ⟨i, inside, low, high⟩
    have := Nat.mul_le_mul_left len (Nat.succ_le_of_lt inside)
    rw [Nat.mul_succ] at this
    simp only at low high ⊢
    omega
  · rintro ⟨low, high⟩
    simp only at low high
    have positive : 0 < len := Nat.pos_of_mul_pos_right (by omega : 0 < len * n)
    refine ⟨(x - start) / len, ?_, ?_, ?_⟩
    · exact Nat.div_lt_of_lt_mul (by omega)
    · have := Nat.mul_div_le (x - start) len
      simp only
      omega
    · have := Nat.lt_mul_div_succ (x - start) positive
      rw [Nat.mul_add, Nat.mul_one] at this
      simp only
      omega

theorem contiguous_apart_iff (start len n : Nat) (other : Span) :
    (∀ i < n, Apart (spaced start len len i) other) ↔ Apart ⟨start, len * n⟩ other := by
  unfold Apart
  constructor
  · intro apart x inside
    obtain ⟨i, bound, has⟩ := (has_contiguous_iff start len n x).mpr inside
    exact apart i bound x has
  · intro apart i bound x has
    exact apart x ((has_contiguous_iff start len n x).mp ⟨i, bound, has⟩)

end OpenwrtSource.Lib.Spans
