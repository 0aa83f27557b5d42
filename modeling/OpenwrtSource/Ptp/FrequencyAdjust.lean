import Mathlib.Data.Int.Basic
import Mathlib.Data.BitVec
import Mathlib.Tactic.SplitIfs
import OpenwrtSource.Lib.Run

/-!
# The frequency adjustment

`mtk_ptp_adjfine` programs the tick width or the second value for a deviation in scaled
ppm, and does nothing for a deviation of 0.  `diff_by_scaled_ppm` is the kernel's.
-/

namespace OpenwrtSource.Ptp.FrequencyAdjust

open Lib.Run

/-- `MAC_TS_TICK_SUBSECOND` and `MAC_TS_SECOND_VALUE`. -/
structure Regs where
  tickSubsecond : BitVec 32
  secondValue : BitVec 32

/-- `diff_by_scaled_ppm`: the sign, and `adj`. -/
abbrev DiffByScaledPpm := BitVec 64 → Int → Bool × BitVec 64

def subsecondBase : BitVec 64 := 0x4 <<< 16
def secondBase : BitVec 64 := 1000000000

def mtkPtpAdjustSubsecondWidth (diff : DiffByScaledPpm) (regs : Regs) (scaledPpm : Int) : Regs :=
  let base := subsecondBase
  let negative := (diff base scaledPpm).1
  let data16 : BitVec 16 := (diff base scaledPpm).2.setWidth 16
  { regs with
    tickSubsecond :=
      (if negative then base - data16.setWidth 64 else base + data16.setWidth 64).setWidth 32 }

def mtkPtpAdjustSecondWidth (diff : DiffByScaledPpm) (regs : Regs) (scaledPpm : Int) : Regs :=
  let base := secondBase
  let negative := (diff base scaledPpm).1
  let adj := (diff base scaledPpm).2
  { regs with secondValue := (if negative then base + adj else base - adj).setWidth 32 }

def mtkPtpAdjfine (diff : DiffByScaledPpm) (ptpMode : Nat) (regs : Regs) (scaledPpm : Int) :
    Regs :=
  if scaledPpm ≠ 0 then
    match ptpMode with
    | 0 => mtkPtpAdjustSubsecondWidth diff regs scaledPpm
    | 1 => mtkPtpAdjustSecondWidth diff regs scaledPpm
    | _ => regs
  else regs

inductive Mode where
  | subsecond
  | second

def Mode.number : Mode → Nat
  | .subsecond => 0
  | .second => 1

def Mode.base : Mode → Nat
  | .subsecond => subsecondBase.toNat
  | .second => secondBase.toNat

def Mode.programmed : Mode → Regs → BitVec 32
  | .subsecond, regs => regs.tickSubsecond
  | .second, regs => regs.secondValue

/-- `d`. -/
def deviation (base : Nat) (scaledPpm : Int) : Int :=
  scaledPpm.sign * (base * scaledPpm.natAbs / (10 ^ 6 * 2 ^ 16) : Nat)

def Mode.wanted : Mode → Int → Int
  | .subsecond, scaledPpm => subsecondBase.toNat + deviation subsecondBase.toNat scaledPpm
  | .second, scaledPpm => secondBase.toNat - deviation secondBase.toNat scaledPpm

/-- `max_adj`, in ppb. -/
def MAX_ADJ : Nat := 24999999

/-- The deviation is at most `max_adj`. -/
def Within (scaledPpm : Int) : Prop := scaledPpm.natAbs * 1000 / 2 ^ 16 ≤ MAX_ADJ

/-- `diff_by_scaled_ppm` gives the sign and the quotient rounded down. -/
structure Computes (diff : DiffByScaledPpm) : Prop where
  sign : ∀ base scaledPpm, (diff base scaledPpm).1 = decide (scaledPpm < 0)
  quotient : ∀ base scaledPpm, Within scaledPpm →
    (diff base scaledPpm).2.toNat = base.toNat * scaledPpm.natAbs / (10 ^ 6 * 2 ^ 16)

def lastNonzero (calls : List Int) : Option Int := calls.reverse.find? fun p => decide (p ≠ 0)

/-- A last deviation that is not 0, or a nominal rate before it: the last deviation that is not 0
rounds to none, or there has been none and the register started with the nominal value. -/
def Fits (mode : Mode) (start : Regs) (calls : List Int) (last : Int) : Prop :=
  last ≠ 0 ∨
    match lastNonzero calls with
    | some p => deviation mode.base p = 0
    | none => (mode.programmed start).toNat = mode.base

variable {diff : DiffByScaledPpm}

theorem adjfine_zero (mode : Mode) (regs : Regs) :
    mtkPtpAdjfine diff mode.number regs 0 = regs := by
  unfold mtkPtpAdjfine
  rw [if_neg (not_not.mpr rfl)]

theorem deviation_eq (base : Nat) {p : Int} (nonzero : p ≠ 0) :
    deviation base p =
      if p < 0 then -((base * p.natAbs / (10 ^ 6 * 2 ^ 16) : Nat) : Int)
      else ((base * p.natAbs / (10 ^ 6 * 2 ^ 16) : Nat) : Int) := by
  unfold deviation
  by_cases negative : p < 0
  · rw [if_pos negative, Int.sign_eq_neg_one_of_neg negative, Int.neg_one_mul]
  · rw [if_neg negative, Int.sign_eq_one_of_pos (by omega), Int.one_mul]

theorem subsecond_programmed (computes : Computes diff) (regs : Regs) {p : Int}
    (nonzero : p ≠ 0) (within : Within p) :
    ((mtkPtpAdjustSubsecondWidth diff regs p).tickSubsecond.toNat : Int) =
      subsecondBase.toNat + deviation subsecondBase.toNat p := by
  have base : subsecondBase.toNat = 262144 := rfl
  have quotient := computes.quotient subsecondBase p within
  unfold mtkPtpAdjustSubsecondWidth
  rw [deviation_eq _ nonzero]
  unfold Within MAX_ADJ at within
  simp only [computes.sign, decide_eq_true_eq]
  split_ifs with negative
  · rw [BitVec.toNat_setWidth, BitVec.toNat_sub, BitVec.toNat_setWidth, BitVec.toNat_setWidth,
      quotient, base]
    omega
  · rw [BitVec.toNat_setWidth, BitVec.toNat_add, BitVec.toNat_setWidth, BitVec.toNat_setWidth,
      quotient, base]
    omega

theorem second_programmed (computes : Computes diff) (regs : Regs) {p : Int}
    (nonzero : p ≠ 0) (within : Within p) :
    ((mtkPtpAdjustSecondWidth diff regs p).secondValue.toNat : Int) =
      secondBase.toNat - deviation secondBase.toNat p := by
  have base : secondBase.toNat = 1000000000 := rfl
  have quotient := computes.quotient secondBase p within
  unfold mtkPtpAdjustSecondWidth
  rw [deviation_eq _ nonzero]
  unfold Within MAX_ADJ at within
  simp only [computes.sign, decide_eq_true_eq]
  split_ifs with negative
  · rw [BitVec.toNat_setWidth, BitVec.toNat_add, quotient, base]
    omega
  · rw [BitVec.toNat_setWidth, BitVec.toNat_sub, quotient, base]
    omega

theorem adjfine_nonzero (computes : Computes diff) (mode : Mode) (regs : Regs) {p : Int}
    (nonzero : p ≠ 0) (within : Within p) :
    ((mode.programmed (mtkPtpAdjfine diff mode.number regs p)).toNat : Int) = mode.wanted p := by
  unfold mtkPtpAdjfine
  rw [if_pos nonzero]
  cases mode with
  | subsecond => exact subsecond_programmed computes regs nonzero within
  | second => exact second_programmed computes regs nonzero within

theorem wanted_zero (mode : Mode) : mode.wanted 0 = mode.base := by
  cases mode <;> simp [Mode.wanted, Mode.base, deviation]

theorem wanted_eq_base_iff (mode : Mode) (p : Int) :
    mode.wanted p = mode.base ↔ deviation mode.base p = 0 := by
  cases mode with
  | subsecond => unfold Mode.wanted Mode.base; simp only; omega
  | second => unfold Mode.wanted Mode.base; simp only; omega

theorem lastNonzero_append (calls : List Int) (p : Int) :
    lastNonzero (calls ++ [p]) = if p ≠ 0 then some p else lastNonzero calls := by
  unfold lastNonzero
  rw [List.reverse_append, List.reverse_singleton, List.singleton_append]
  by_cases nonzero : p ≠ 0
  · rw [if_pos nonzero, List.find?_cons_of_pos (by simpa using nonzero)]
  · rw [if_neg nonzero, List.find?_cons_of_neg (by simpa using nonzero)]

theorem programmed_run (computes : Computes diff) (mode : Mode) (start : Regs)
    (calls : List Int) (within : ∀ p ∈ calls, Within p) :
    ((mode.programmed (run (mtkPtpAdjfine diff mode.number) start calls)).toNat : Int) =
      match lastNonzero calls with
      | some p => mode.wanted p
      | none => (mode.programmed start).toNat := by
  induction calls using List.reverseRecOn with
  | nil => rfl
  | append_singleton calls p ih =>
    have before := ih fun q listed => within q (List.mem_append_left _ listed)
    rw [run_append, run_cons, run_nil, lastNonzero_append]
    by_cases nonzero : p ≠ 0
    · rw [if_pos nonzero]
      exact adjfine_nonzero computes mode _ nonzero (within p (by simp))
    · rw [if_neg nonzero, not_not.mp nonzero, adjfine_zero]
      exact before

/-- After a sequence of calls the value for the last one is programmed exactly if that is not 0,
or the rate was nominal before it. -/
theorem programmed_last_iff (diff : DiffByScaledPpm) (computes : Computes diff) (mode : Mode)
    (start : Regs) (calls : List Int) (last : Int)
    (within : ∀ p ∈ calls ++ [last], Within p) :
    ((mode.programmed
        (run (mtkPtpAdjfine diff mode.number) start (calls ++ [last]))).toNat : Int) =
          mode.wanted last ↔
      Fits mode start calls last := by
  rw [programmed_run computes mode start _ within, lastNonzero_append]
  unfold Fits
  by_cases nonzero : last ≠ 0
  · rw [if_pos nonzero]
    exact iff_of_true rfl (.inl nonzero)
  · rw [if_neg nonzero, or_iff_right nonzero, not_not.mp nonzero, wanted_zero]
    cases lastNonzero calls with
    | none => exact Int.natCast_inj
    | some p => exact wanted_eq_base_iff mode p

def roundedDiff : DiffByScaledPpm := fun base p =>
  (decide (p < 0), BitVec.ofNat 64 (base.toNat * p.natAbs / (10 ^ 6 * 2 ^ 16)))

theorem computes_roundedDiff : Computes roundedDiff := by
  refine ⟨fun _ _ => rfl, fun base p within => ?_⟩
  unfold Within MAX_ADJ at within
  have small : p.natAbs ≤ 10 ^ 6 * 2 ^ 16 := by omega
  have bound := Nat.div_le_div_right (c := 10 ^ 6 * 2 ^ 16) (Nat.mul_le_mul_left base.toNat small)
  rw [Nat.mul_div_cancel _ (by decide)] at bound
  exact (BitVec.toNat_ofNat _ _).trans (Nat.mod_eq_of_lt (Nat.lt_of_le_of_lt bound base.isLt))

/-- A thousand ppm too much, then one thousand too little. -/
theorem slower_after_faster :
    ((Mode.second.programmed (run (mtkPtpAdjfine roundedDiff Mode.second.number)
      ⟨0x40000, 1000000000⟩ ([65536000] ++ [-65536000]))).toNat : Int) =
        Mode.second.wanted (-65536000) := by
  refine (programmed_last_iff roundedDiff computes_roundedDiff .second _ _ _ ?_).mpr
    (.inl (by decide))
  intro p listed
  have either : p = 65536000 ∨ p = -65536000 := by simpa using listed
  rcases either with rfl | rfl
  · exact (by decide : 65536000 * 1000 / 2 ^ 16 ≤ MAX_ADJ)
  · exact (by decide : 65536000 * 1000 / 2 ^ 16 ≤ MAX_ADJ)

/-- A call with 0 leaves the deviation as it is. -/
theorem zero_keeps_deviation :
    ¬ ((Mode.second.programmed (run (mtkPtpAdjfine roundedDiff Mode.second.number)
      ⟨0x40000, 1000000000⟩ ([65536000] ++ [0]))).toNat : Int) = Mode.second.wanted 0 := by
  decide +kernel

end OpenwrtSource.Ptp.FrequencyAdjust
