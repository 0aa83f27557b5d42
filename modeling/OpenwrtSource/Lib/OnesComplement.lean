import Mathlib.Algebra.Group.Nat.Defs
import Mathlib.Data.Nat.ModEq

/-!
# One's-complement sums

The sum of words with its carries added back in at the low end, which is a sum
modulo `2 ^ w - 1`, and the Internet checksum made of it.
-/

namespace OpenwrtSource.Lib.OnesComplement

section Fold

variable {w : Nat}

def foldOnce (w n : Nat) : Nat := n / 2 ^ w + n % 2 ^ w

/-- The carries are added back until there are none. -/
def foldAll (w n : Nat) : Nat :=
  if 0 < w ∧ 2 ^ w ≤ n then foldAll w (foldOnce w n) else n
termination_by n
decreasing_by
  rename_i carries
  have base : 2 ≤ 2 ^ w := Nat.le_self_pow (Nat.pos_iff_ne_zero.1 carries.1) 2
  have whole := Nat.div_add_mod n (2 ^ w)
  have quotient := Nat.div_pos carries.2 (by omega)
  have more : 2 * (n / 2 ^ w) ≤ 2 ^ w * (n / 2 ^ w) := Nat.mul_le_mul_right _ base
  unfold foldOnce
  omega

theorem foldOnce_modEq (w n : Nat) : foldOnce w n ≡ n [MOD 2 ^ w - 1] := by
  have one : 1 ≤ 2 ^ w := Nat.one_le_two_pow
  have carry : 2 ^ w ≡ 1 [MOD 2 ^ w - 1] := by
    have ends : 2 ^ w = 1 + (2 ^ w - 1) := by omega
    calc 2 ^ w = 1 + (2 ^ w - 1) := ends
      _ ≡ 1 [MOD 2 ^ w - 1] := Nat.add_modEq_right
  calc foldOnce w n = 1 * (n / 2 ^ w) + n % 2 ^ w := by rw [one_mul, foldOnce]
    _ ≡ 2 ^ w * (n / 2 ^ w) + n % 2 ^ w [MOD 2 ^ w - 1] :=
        Nat.ModEq.add_right _ (carry.symm.mul_right _)
    _ = n := Nat.div_add_mod n (2 ^ w)

theorem foldOnce_eq_zero_iff (w n : Nat) : foldOnce w n = 0 ↔ n = 0 := by
  have whole := Nat.div_add_mod n (2 ^ w)
  unfold foldOnce
  constructor
  · intro zero
    obtain ⟨quotient, remainder⟩ := Nat.add_eq_zero_iff.1 zero
    rw [quotient, remainder] at whole
    exact whole.symm
  · rintro rfl
    rw [Nat.zero_div, Nat.zero_mod]

theorem foldOnce_of_lt {n : Nat} (fits : n < 2 ^ w) : foldOnce w n = n := by
  rw [foldOnce, Nat.div_eq_of_lt fits, Nat.mod_eq_of_lt fits, Nat.zero_add]

theorem foldOnce_foldOnce_lt {n : Nat} (fits : n < 2 ^ w * 2 ^ w) :
    foldOnce w (foldOnce w n) < 2 ^ w := by
  have positive : 0 < 2 ^ w := Nat.two_pow_pos w
  have carries : n / 2 ^ w < 2 ^ w := Nat.div_lt_of_lt_mul fits
  have low : n % 2 ^ w < 2 ^ w := Nat.mod_lt _ positive
  by_cases once : foldOnce w n < 2 ^ w
  · rwa [foldOnce_of_lt once]
  · have whole := Nat.div_add_mod (foldOnce w n) (2 ^ w)
    have first : foldOnce w n / 2 ^ w = 1 := by
      have lower : 1 ≤ foldOnce w n / 2 ^ w := Nat.div_pos (by omega) positive
      have upper : foldOnce w n / 2 ^ w < 2 :=
        Nat.div_lt_of_lt_mul (by unfold foldOnce; omega)
      omega
    rw [first, Nat.mul_one] at whole
    have sum : foldOnce w n = n / 2 ^ w + n % 2 ^ w := rfl
    rw [foldOnce, first]
    omega

theorem foldAll_modEq (w n : Nat) : foldAll w n ≡ n [MOD 2 ^ w - 1] := by
  fun_induction foldAll w n with
  | case1 n _ ih => exact ih.trans (foldOnce_modEq w n)
  | case2 n _ => exact Nat.ModEq.refl n

theorem foldAll_eq_zero_iff (w n : Nat) : foldAll w n = 0 ↔ n = 0 := by
  fun_induction foldAll w n with
  | case1 n _ ih => rw [ih, foldOnce_eq_zero_iff]
  | case2 n _ => exact Iff.rfl

theorem foldAll_lt (width : 0 < w) (n : Nat) : foldAll w n < 2 ^ w := by
  fun_induction foldAll w n with
  | case1 n _ ih => exact ih
  | case2 n fits => omega

end Fold

section Words

variable {w : Nat}

def total (words : List (BitVec w)) : Nat := (words.map BitVec.toNat).sum

@[simp] theorem total_nil : total ([] : List (BitVec w)) = 0 := rfl

@[simp] theorem total_cons (word : BitVec w) (words : List (BitVec w)) :
    total (word :: words) = word.toNat + total words := rfl

@[simp] theorem total_append (left right : List (BitVec w)) :
    total (left ++ right) = total left + total right := by
  rw [total, List.map_append, List.sum_append, total, total]

def finish (w n : Nat) : BitVec w := ~~~ BitVec.ofNat w (foldAll w n)

/-- The checksum of the words, as RFC 1071 has it. -/
def checksum (words : List (BitVec w)) : BitVec w := finish w (total words)

/-- The receiver's check: the sum, the checksum included, is all ones. -/
def Verifies (words : List (BitVec w)) : Prop := checksum words = 0#w

instance (words : List (BitVec w)) : Decidable (Verifies words) :=
  inferInstanceAs (Decidable (_ = _))

/-- The words stand for one number; all ones and zero are the two zeros. -/
def Same (left right : BitVec w) : Prop := left.toNat ≡ right.toNat [MOD 2 ^ w - 1]

theorem toNat_finish (width : 0 < w) (n : Nat) : (finish w n).toNat + foldAll w n = 2 ^ w - 1 := by
  have fits := foldAll_lt width n
  rw [finish, BitVec.toNat_not, BitVec.toNat_ofNat, Nat.mod_eq_of_lt fits]
  omega

theorem finish_add_modEq (width : 0 < w) (n : Nat) : (finish w n).toNat + n ≡ 0 [MOD 2 ^ w - 1] :=
  calc (finish w n).toNat + n ≡ (finish w n).toNat + foldAll w n [MOD 2 ^ w - 1] :=
        Nat.ModEq.add_left _ (foldAll_modEq w n).symm
    _ = 2 ^ w - 1 := toNat_finish width n
    _ ≡ 0 [MOD 2 ^ w - 1] := by rw [Nat.modEq_zero_iff_dvd]

theorem not_add_modEq (word : BitVec w) : (~~~ word).toNat + word.toNat ≡ 0 [MOD 2 ^ w - 1] := by
  have fits := word.isLt
  have ones : (~~~ word).toNat + word.toNat = 2 ^ w - 1 := by
    rw [BitVec.toNat_not]
    omega
  rw [ones, Nat.modEq_zero_iff_dvd]

theorem total_not_add_modEq (words : List (BitVec w)) :
    total (words.map fun word => ~~~ word) + total words ≡ 0 [MOD 2 ^ w - 1] := by
  induction words with
  | nil => exact Nat.ModEq.refl 0
  | cons word words ih =>
    rw [List.map_cons, total_cons, total_cons, Nat.add_add_add_comm]
    exact Nat.ModEq.add (not_add_modEq word) ih

theorem verifies_iff (width : 0 < w) (words : List (BitVec w)) :
    Verifies words ↔ 0 < total words ∧ total words ≡ 0 [MOD 2 ^ w - 1] := by
  have base : 2 ≤ 2 ^ w := Nat.le_self_pow (Nat.pos_iff_ne_zero.1 width) 2
  have fits := foldAll_lt width (total words)
  have finished := toNat_finish width (total words)
  have folded := foldAll_modEq w (total words)
  have zero := foldAll_eq_zero_iff w (total words)
  rw [Verifies, checksum, BitVec.toNat_eq, BitVec.toNat_ofNat, Nat.zero_mod]
  constructor
  · intro ones
    refine ⟨by omega, folded.symm.trans ?_⟩
    rw [show foldAll w (total words) = 2 ^ w - 1 by omega, Nat.modEq_zero_iff_dvd]
  · rintro ⟨positive, multiple⟩
    have divides := (Nat.modEq_zero_iff_dvd).1 (folded.trans multiple)
    have whole := Nat.le_of_dvd (by omega) divides
    omega

theorem same_finish_iff (width : 0 < w) (left right : Nat) :
    Same (finish w left) (finish w right) ↔ left ≡ right [MOD 2 ^ w - 1] := by
  have leftNegated := finish_add_modEq width left
  have rightNegated := finish_add_modEq width right
  constructor
  · intro same
    exact Nat.ModEq.add_left_cancel same (leftNegated.trans rightNegated.symm)
  · intro same
    exact Nat.ModEq.add_right_cancel same (leftNegated.trans rightNegated.symm)

theorem finish_eq_of_same (width : 0 < w) {left right : Nat} (leftPos : 0 < left)
    (rightPos : 0 < right) (same : left ≡ right [MOD 2 ^ w - 1]) :
    finish w left = finish w right := by
  have folded : foldAll w left ≡ foldAll w right [MOD 2 ^ w - 1] :=
    (foldAll_modEq w left).trans (same.trans (foldAll_modEq w right).symm)
  have leftLt := foldAll_lt width left
  have rightLt := foldAll_lt width right
  have leftZero := foldAll_eq_zero_iff w left
  have rightZero := foldAll_eq_zero_iff w right
  have equal : foldAll w left = foldAll w right := by
    have shifted : foldAll w left - 1 ≡ foldAll w right - 1 [MOD 2 ^ w - 1] :=
      Nat.ModEq.add_right_cancel' 1 (by
        rwa [Nat.sub_add_cancel (by omega), Nat.sub_add_cancel (by omega)])
    have residue := Nat.ModEq.eq_of_lt_of_lt shifted (by omega) (by omega)
    omega
  rw [finish, finish, equal]

end Words

section Replace

variable {w : Nat}

/-- The complements of the checksum and of the words that go. -/
def Base (n : Nat) (check : BitVec w) (old : List (BitVec w)) : Prop :=
  n + total (check :: old) ≡ 0 [MOD 2 ^ w - 1]

theorem same_replaced_iff (width : 0 < w) {n : Nat} {check : BitVec w} {old : List (BitVec w)}
    (base : Base n check old) (rest new : List (BitVec w)) :
    Same (finish w (n + total new)) (checksum (rest ++ new)) ↔
      total (check :: old) + total rest ≡ 0 [MOD 2 ^ w - 1] := by
  rw [checksum, same_finish_iff width, total_append]
  have cancelled : n + total new ≡ total rest + total new [MOD 2 ^ w - 1] ↔
      n ≡ total rest [MOD 2 ^ w - 1] :=
    ⟨Nat.ModEq.add_right_cancel' _, Nat.ModEq.add_right _⟩
  rw [cancelled]
  constructor
  · intro same
    calc total (check :: old) + total rest ≡ total (check :: old) + n [MOD 2 ^ w - 1] :=
          Nat.ModEq.add_left _ same.symm
      _ = n + total (check :: old) := Nat.add_comm _ _
      _ ≡ 0 [MOD 2 ^ w - 1] := base
  · intro verified
    have swapped : total rest + total (check :: old) ≡ 0 [MOD 2 ^ w - 1] := by
      rwa [Nat.add_comm]
    exact Nat.ModEq.add_right_cancel' _ (base.trans swapped.symm)

end Replace

end OpenwrtSource.Lib.OnesComplement
