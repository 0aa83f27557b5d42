import Mathlib.Data.BitVec
import Mathlib.Data.List.Basic

/-!
# Words that agree on their leading bits

An address range is given by an address and the number of its leading bits that
every address of the range shares.
-/

namespace OpenwrtSource.Lib.LeadingBits

variable {w : Nat}

/-- The first `n` bits of two words are the same. -/
def AgreeOn (n : Nat) (a b : BitVec w) : Prop := ∀ i < n, a.getMsbD i = b.getMsbD i

instance (n : Nat) (a b : BitVec w) : Decidable (AgreeOn n a b) :=
  inferInstanceAs (Decidable (∀ i < n, _))

theorem AgreeOn.refl (n : Nat) (a : BitVec w) : AgreeOn n a a := fun _ _ => rfl

theorem agreeOn_zero (a b : BitVec w) : AgreeOn 0 a b := fun _ impossible => nomatch impossible

theorem agreeOn_full {n : Nat} (full : w ≤ n) (a b : BitVec w) : AgreeOn n a b ↔ a = b := by
  constructor
  · intro agree
    apply BitVec.eq_of_getMsbD_eq
    intro i inWord
    exact agree i (Nat.lt_of_lt_of_le inWord full)
  · rintro rfl
    exact .refl n a

/-- A word of `n` ones, then zeros. -/
def leadingMask (w n : Nat) : BitVec w := BitVec.allOnes w <<< (w - n)

theorem getMsbD_leadingMask {n : Nat} (fits : n ≤ w) (i : Nat) :
    (leadingMask w n).getMsbD i = decide (i < n) := by
  unfold leadingMask
  rw [BitVec.getMsbD_shiftLeft, BitVec.getMsbD_allOnes]
  simp only [decide_eq_decide]
  omega

theorem leadingMask_inj {n m : Nat} (fitsN : n ≤ w) (fitsM : m ≤ w)
    (same : leadingMask w n = leadingMask w m) : n = m := by
  have within : ∀ i, i < n ↔ i < m := by
    intro i
    have bit := congrArg (fun word => word.getMsbD i) same
    simpa [getMsbD_leadingMask fitsN, getMsbD_leadingMask fitsM] using bit
  have := within n
  have := within m
  omega

theorem and_leadingMask_eq_iff {n : Nat} (fits : n ≤ w) (a b : BitVec w) :
    a &&& leadingMask w n = b &&& leadingMask w n ↔ AgreeOn n a b := by
  constructor
  · intro same i inRange
    have bit := congrArg (fun word => word.getMsbD i) same
    simpa [BitVec.getMsbD_and, getMsbD_leadingMask fits, inRange] using bit
  · intro agree
    apply BitVec.eq_of_getMsbD_eq
    intro i _
    rw [BitVec.getMsbD_and, BitVec.getMsbD_and, getMsbD_leadingMask fits]
    by_cases inRange : i < n
    · rw [agree i inRange]
    · simp [inRange]

end OpenwrtSource.Lib.LeadingBits

/-!
# Maps of words that commute with exclusive or

A hash made of shifts, masks and exclusive ors takes two words to the same value
exactly when it takes their difference to zero.
-/

namespace OpenwrtSource.Lib.XorMaps

variable {k m n : Nat}

def XorLinear (f : BitVec m → BitVec n) : Prop := ∀ a b, f (a ^^^ b) = f a ^^^ f b

section

variable {f g : BitVec m → BitVec n}

theorem XorLinear.eq_iff (linear : XorLinear f) (a b : BitVec m) : f a = f b ↔ f (a ^^^ b) = 0 := by
  rw [linear a b]
  exact BitVec.xor_eq_zero_iff.symm

theorem XorLinear.id : XorLinear fun a : BitVec n => a := fun _ _ => rfl

theorem XorLinear.xor (left : XorLinear f) (right : XorLinear g) :
    XorLinear fun a => f a ^^^ g a := by
  intro a b
  change f (a ^^^ b) ^^^ g (a ^^^ b) = (f a ^^^ g a) ^^^ (f b ^^^ g b)
  rw [left, right]
  ac_rfl

theorem XorLinear.and (mask : BitVec n) (linear : XorLinear f) :
    XorLinear fun a => f a &&& mask := by
  intro a b
  change f (a ^^^ b) &&& mask = (f a &&& mask) ^^^ (f b &&& mask)
  rw [linear]
  apply BitVec.eq_of_getLsbD_eq
  intro i _
  simp only [BitVec.getLsbD_and, BitVec.getLsbD_xor]
  cases mask.getLsbD i <;> simp

theorem XorLinear.shiftLeft (count : Nat) (linear : XorLinear f) :
    XorLinear fun a => f a <<< count := by
  intro a b
  change f (a ^^^ b) <<< count = f a <<< count ^^^ f b <<< count
  rw [linear, BitVec.shiftLeft_xor_distrib]

theorem XorLinear.ushiftRight (count : Nat) (linear : XorLinear f) :
    XorLinear fun a => f a >>> count := by
  intro a b
  change f (a ^^^ b) >>> count = f a >>> count ^^^ f b >>> count
  rw [linear, BitVec.ushiftRight_xor_distrib]

end

end OpenwrtSource.Lib.XorMaps
