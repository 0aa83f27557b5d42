import Mathlib.Logic.Function.Iterate
import OpenwrtSource.Lib.LeadingBits

/-!
# Shift registers with feedback

The register of a CRC is moved up by one place, and the generator is added where a one
falls out of the top.  Such a step commutes with exclusive or, and it loses nothing
where the generator is odd, so a difference between two registers never dies out.
-/

namespace OpenwrtSource.Lib.ShiftRegister

open Lib.XorMaps

variable {n : Nat}

def shift (poly crc : BitVec n) : BitVec n := crc <<< 1 ^^^ if crc.msb then poly else 0

variable (poly : BitVec n)

theorem shift_linear : XorLinear (shift poly) := by
  intro a b
  have top : (if a.msb ^^ b.msb then poly else 0) =
      (if a.msb then poly else 0) ^^^ if b.msb then poly else 0 := by
    cases a.msb <;> cases b.msb <;> simp
  unfold shift
  rw [BitVec.msb_xor, BitVec.shiftLeft_xor_distrib, top]
  ac_rfl

theorem shift_zero : shift poly 0 = 0 := by simp [shift]

variable {poly}

theorem eq_zero_of_shift (odd : poly.getLsbD 0 = true) {crc : BitVec n}
    (dead : shift poly crc = 0) : crc = 0 := by
  have inside : 0 < n := by
    by_contra none
    rw [BitVec.getLsbD_of_ge poly 0 (by omega)] at odd
    cases odd
  have lowest := congrArg (fun word : BitVec n => word.getLsbD 0) dead
  have top : crc.msb = false := by
    cases carry : crc.msb with
    | false => rfl
    | true => simp [shift, carry, odd] at lowest
  have moved : crc <<< 1 = 0 := by simpa [shift, top] using dead
  apply BitVec.eq_of_getLsbD_eq
  intro i small
  by_cases last : i + 1 = n
  · have here : i = n - 1 := by omega
    subst here
    simpa [BitVec.msb_eq_getLsbD_last] using top
  · have next := congrArg (fun word : BitVec n => word.getLsbD (i + 1)) moved
    rw [BitVec.getLsbD_shiftLeft] at next
    simpa only [show i + 1 < n by omega, decide_true, show ¬ i + 1 < 1 by omega, decide_false,
      Bool.not_false, Bool.true_and, Nat.add_sub_cancel, BitVec.ofNat_eq_ofNat,
      BitVec.getLsbD_zero] using next

theorem iterate_linear {f : BitVec n → BitVec n} (linear : XorLinear f) (count : Nat) :
    XorLinear f^[count] := by
  intro a b
  induction count generalizing a b with
  | zero => rfl
  | succ count ih => rw [Function.iterate_succ_apply, linear, ih]; rfl

theorem eq_zero_of_iterate {f : BitVec n → BitVec n} (kept : ∀ a, f a = 0 → a = 0) (count : Nat)
    {a : BitVec n} (dead : f^[count] a = 0) : a = 0 := by
  induction count generalizing a with
  | zero => exact dead
  | succ count ih => exact kept a (ih dead)

theorem iterate_shift_small (poly crc : BitVec n) (count : Nat)
    (small : crc.toNat * 2 ^ count < 2 ^ n) : (shift poly)^[count] crc = crc <<< count := by
  induction count generalizing crc with
  | zero => simp
  | succ count ih =>
    have double : crc.toNat * 2 * 2 ^ count < 2 ^ n := by
      rwa [Nat.mul_assoc, ← Nat.pow_succ']
    have half : crc.toNat * 2 < 2 ^ n :=
      lt_of_le_of_lt (Nat.le_mul_of_pos_right _ (Nat.two_pow_pos count)) double
    have top : crc.msb = false := by
      rw [BitVec.msb_eq_false_iff_two_mul_lt]
      omega
    have moved : (crc <<< 1).toNat = crc.toNat * 2 := by
      rw [BitVec.toNat_shiftLeft, Nat.shiftLeft_eq, pow_one, Nat.mod_eq_of_lt half]
    rw [Function.iterate_succ_apply]
    have plain : shift poly crc = crc <<< 1 := by simp [shift, top]
    rw [plain, ih _ (by rw [moved]; exact double), ← BitVec.shiftLeft_add, Nat.add_comm]

end OpenwrtSource.Lib.ShiftRegister
