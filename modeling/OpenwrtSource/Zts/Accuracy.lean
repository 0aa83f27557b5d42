import Mathlib.Algebra.Order.Ring.Rat
import Mathlib.Data.Rat.Cast.Order
import Mathlib.Tactic.FieldSimp
import Mathlib.Tactic.Linarith
import OpenwrtSource.Lib.TracedArith

/-!
# The compensation of the ZTS8032 pressure sensor

`zts8032_get_coefs` unpacks the calibration coefficients.  The raw pressure and the raw
temperature are divided by the scale factors of the precisions that the configuration
registers hold; `zts8032_calculate_pressure` evaluates the polynomial of the data sheet
over common denominators in signed 64-bit numbers, `zts8032_calculate_temp` the linear
one.
-/

namespace OpenwrtSource.Zts.Compensation

open Lib.TracedArith

def ERANGE : Int := 34
def EINTR : Int := 4
def INT_MAX : Int := 2147483647

/-- These values (defined in the spec) indicate how to scale the raw register values. -/
def scaleFactors : List Int :=
  [524288, 1572864, 3670016, 7864320, 253952, 516096, 1040384, 2088960]

/-- `sign_extend32` of a value whose sign is at `index`. -/
def signExtend32 (value : BitVec 32) (index : Nat) : Int :=
  ((value <<< (31 - index)).sshiftRight (31 - index)).toInt

structure Coefs where
  c0 : Int
  c1 : Int
  c00 : Int
  c10 : Int
  c20 : Int
  c30 : Int
  c40 : Int
  c01 : Int
  c11 : Int
  c21 : Int
  c31 : Int

def GENMASK30 : BitVec 32 := 0xf

/-- `zts8032_get_coefs` from the block of the COEF registers. -/
def getCoefs (block : Nat → BitVec 8) : Coefs :=
  let coef : Nat → BitVec 32 := fun i => (block i).setWidth 32
  { c0 := signExtend32 (coef 0 <<< 4 ||| coef 1 >>> 4) 11
    c1 := signExtend32 ((coef 1 &&& GENMASK30) <<< 8 ||| coef 2) 11
    c00 := signExtend32 (coef 3 <<< 12 ||| coef 4 <<< 4 ||| coef 5 >>> 4) 19
    c10 := signExtend32 ((coef 5 &&& GENMASK30) <<< 16 ||| coef 6 <<< 8 ||| coef 7) 19
    c01 := signExtend32 (coef 8 <<< 8 ||| coef 9) 15
    c11 := signExtend32 (coef 10 <<< 8 ||| coef 11) 15
    c20 := signExtend32 (coef 12 <<< 8 ||| coef 13) 15
    c21 := signExtend32 (coef 14 <<< 8 ||| coef 15) 15
    c30 := signExtend32 (coef 16 <<< 8 ||| coef 17) 15
    c31 := signExtend32 (coef 18 <<< 8 ||| coef 19) 15
    c40 := signExtend32 (coef 20 <<< 8 ||| coef 21) 15 }

/-- What an access of the device comes to: a value, or the error `-(errno + 1)`. -/
inductive Access (α : Type) where
  | ok (value : α)
  | failed (errno : Nat)

def Access.rc {α : Type} : Access α → Int
  | .ok _ => 0
  | .failed errno => -(errno + 1)

structure Bus where
  /-- `ZTS8032_PRS_CFG` and `ZTS8032_TMP_CFG` -/
  prsCfg : Access Nat
  tmpCfg : Access Nat
  /-- `mutex_trylock` and the `ZTS8032_TMP_RDY` bit of `ZTS8032_MEAS_CFG` -/
  trylock : Bool
  tmpRdy : Access Bool
  /-- the three bytes at `ZTS8032_TMP_BASE` -/
  tmpBase : Access (Nat → BitVec 8)
  /-- `mutex_lock_interruptible` and the wait for `ZTS8032_TMP_RDY` -/
  interrupted : Bool
  tmpPoll : Access Unit

/-- `zts8032_get_pres_precision` and `zts8032_get_temp_precision` -/
def precision (val : Nat) : Nat := 2 ^ (val &&& 7)

/-- `zts8032_get_pres_k` and `zts8032_get_temp_k` -/
def getK : Access Nat → Int
  | .ok val => scaleFactors.getD (Nat.log2 (precision val)) 0
  | .failed errno => (Access.failed (α := Nat) errno).rc

def rawTemp (val : Nat → BitVec 8) : Int :=
  let b : Nat → BitVec 32 := fun i => (val i).setWidth 32
  signExtend32 (b 0 <<< 16 ||| b 1 <<< 8 ||| b 2) 23

/-- `zts8032_read_temp_ready` on the temperature that was read last. -/
def readTempReady (bus : Bus) (temp_raw : Int) : Int × Int :=
  match bus.tmpBase with
  | .ok val => (rawTemp val, 0)
  | .failed errno => (temp_raw, (Access.failed (α := Nat) errno).rc)

/-- Refresh temp if it's ready, otherwise just use the latest value. -/
def refreshTemp (bus : Bus) (temp_raw : Int) : Int :=
  match bus.trylock, bus.tmpRdy with
  | true, .ok true => (readTempReady bus temp_raw).1
  | _, _ => temp_raw

def numerators (c : Coefs) (p t : Int) : List (List Int) :=
  [[c.c00], [p, c.c10], [p, p, c.c20], [p, p, p, c.c30], [p, p, p, p, c.c40],
    [t, c.c01], [t, p, c.c11], [t, p, p, c.c21], [t, p, p, p, c.c31]]

def denominators (kp kt : Int) : List (List Int) :=
  [[1], [kp], [kp, kp], [kp, kp, kp], [kp, kp, kp, kp],
    [kt], [kp, kt], [kp, kp, kt], [kp, kp, kp, kt]]

/-- Adds one quotient to the pressure and keeps its remainder. -/
def addTerm (state : Int × List Int) (term : Int × Int) : Traced (Int × List Int) :=
  if term.1 < 0 then do
    let num ← neg term.1
    let quotient ← divRem num term.2
    let pressure ← sub state.1 quotient.1
    let rem ← neg quotient.2
    pure (pressure, state.2 ++ [rem])
  else do
    let quotient ← divRem term.1 term.2
    let pressure ← add state.1 quotient.1
    let rem ← exactly quotient.2
    pure (pressure, state.2 ++ [rem])

/-- Adds one remainder, with increased precision, to the remainder sum. -/
def addRem (rem : Int) (term : Int × Int) : Traced Int := do
  let scaled ← mul term.1 1000000000
  let quotient ← div scaled term.2
  add rem quotient

/-- Section 4.9.1 of the ZTS8032 spec; algebra'd to avoid underflow. -/
def polynomial (c : Coefs) (kp kt p t : Int) : Traced Int := do
  let nums ← products (numerators c p t)
  let denoms ← products (denominators kp kt)
  let sums ← (nums.zip denoms).foldlM addTerm (0, [])
  let rem ← (sums.2.zip denoms).foldlM addRem 0
  let rest ← div rem 1000000000
  add sums.1 rest

def calculatePressure (bus : Bus) (c : Coefs) (pressure_raw temp_raw : Int) : Traced Int :=
  let kp := getK bus.prsCfg
  let kt := getK bus.tmpCfg
  if kp < 0 then pure kp
  else if kt < 0 then pure kt
  else do
    let pressure ← polynomial c kp kt pressure_raw (refreshTemp bus temp_raw)
    if pressure < 0 then pure (-ERANGE) else pure (min pressure INT_MAX)

def s32 (x : Int) : Int := x.bmod (2 ^ 32)

def calculateTemp (bus : Bus) (c : Coefs) (temp_raw : Int) : Traced Int :=
  let kt := getK bus.tmpCfg
  if kt < 0 then pure kt
  else do
    let scaled ← mul kt c.c0
    let offset ← div scaled 2
    let linear ← mul temp_raw c.c1
    let t ← add offset linear
    let milli ← mul t 1000
    let quotient ← div milli kt
    pure (s32 quotient)

/-- `zts8032_read_temp_raw` -/
def readTempRaw (bus : Bus) (temp_raw : Int) : Int × Int :=
  if bus.interrupted then (temp_raw, -EINTR)
  else
    match bus.tmpPoll with
    | .failed errno => (temp_raw, (Access.failed (α := Nat) errno).rc)
    | .ok _ => readTempReady bus temp_raw

/-- `zts8032_read_temp` for `IIO_CHAN_INFO_PROCESSED`: the value, or the error. -/
def readTemp (bus : Bus) (c : Coefs) (temp_raw : Int) : Except Int Int :=
  let raw := readTempRaw bus temp_raw
  if raw.2 ≠ 0 then .error raw.2
  else
    let rc := (calculateTemp bus c raw.1).value
    if rc < 0 then .error rc else .ok rc

end OpenwrtSource.Zts.Compensation

/-!
# What the compensation is worth

The fourth power of every scale factor leaves 64 bits, and those of the four lower
precisions are multiples of 2 ^ 64.  The temperature is right to a unit, but a negative
one is taken for an error code.
-/

namespace OpenwrtSource.Zts.Accuracy

open Lib.TracedArith Zts.Compensation

def exactPressure (c : Coefs) (kp kt p t : ℚ) : ℚ :=
  c.c00 + c.c10 * (p / kp) + c.c20 * (p / kp) ^ 2 + c.c30 * (p / kp) ^ 3 +
    c.c40 * (p / kp) ^ 4 +
    t / kt * (c.c01 + c.c11 * (p / kp) + c.c21 * (p / kp) ^ 2 + c.c31 * (p / kp) ^ 3)

def exactTemp (c : Coefs) (kt t : ℚ) : ℚ := 1000 * (c.c0 / 2 + c.c1 * t / kt)

/-- No division by zero, no wrap, and a pressure that fits an `int` is right to two. -/
def PressureRight (bus : Bus) (c : Coefs) (pressure_raw temp_raw : Int) : Prop :=
  (calculatePressure bus c pressure_raw temp_raw).zeroDivisor = false ∧
    (calculatePressure bus c pressure_raw temp_raw).wrapped = false ∧
    (let exact := exactPressure c (getK bus.prsCfg) (getK bus.tmpCfg) pressure_raw
      (refreshTemp bus temp_raw)
    0 ≤ exact → exact ≤ INT_MAX →
      |((calculatePressure bus c pressure_raw temp_raw).value : ℚ) - exact| ≤ 2)

/-- An access on the way to the temperature fails, the lock and the wait included. -/
def AccessFails (bus : Bus) : Prop :=
  bus.interrupted = true ∨ bus.tmpPoll.rc ≠ 0 ∨ bus.tmpBase.rc ≠ 0 ∨ bus.tmpCfg.rc ≠ 0

/-- A read fails only with an access, and its result is right to two. -/
def TempRight (bus : Bus) (c : Coefs) (temp_raw : Int) : Prop :=
  match readTemp bus c temp_raw with
  | .ok val =>
    |(val : ℚ) - exactTemp c (getK bus.tmpCfg) (readTempRaw bus temp_raw).1| ≤ 2
  | .error _ => AccessFails bus

variable {b : Int} (val : Nat) (state : Int × List Int) (term : Int × Int) (c : Coefs)

theorem getK_ok : getK (.ok val) = scaleFactors.getD (val &&& 7) 0 := by
  rw [getK, precision, Nat.log2_two_pow]

theorem precision_lt : val &&& 7 < 8 := Nat.lt_succ_of_le Nat.and_le_right

theorem getK_cases : ∃ k : Int, getK (.ok val) = 2 * k ∧ 0 < k ∧ k ≤ 3932160 := by
  have all : ∀ i < 8, scaleFactors.getD i 0 = 2 * (scaleFactors.getD i 0 / 2) ∧
      0 < scaleFactors.getD i 0 / 2 ∧ scaleFactors.getD i 0 / 2 ≤ 3932160 := by decide
  rw [getK_ok]
  exact ⟨_, all _ (precision_lt val)⟩

theorem denominators_wrapped (prs tmp : Nat) :
    (products (denominators (getK (.ok prs)) (getK (.ok tmp)))).wrapped = true := by
  have all : ∀ i < 8, ∀ j < 8, (products (denominators (scaleFactors.getD i 0)
      (scaleFactors.getD j 0))).wrapped = true := by decide +kernel
  rw [getK_ok, getK_ok]
  exact all _ (precision_lt prs) _ (precision_lt tmp)

theorem denominators_zero (prs tmp : Nat) :
    ((products (denominators (getK (.ok prs)) (getK (.ok tmp)))).value.any
      fun denom => decide (u64 denom = 0)) = decide (prs &&& 7 < 4) := by
  have all : ∀ i < 8, ∀ j < 8, ((products (denominators (scaleFactors.getD i 0)
      (scaleFactors.getD j 0))).value.any fun denom => decide (u64 denom = 0)) =
        decide (i < 4) := by decide +kernel
  rw [getK_ok, getK_ok]
  exact all _ (precision_lt prs) _ (precision_lt tmp)

theorem denominators_zero_s64 (prs tmp : Nat) :
    ((products (denominators (getK (.ok prs)) (getK (.ok tmp)))).value.any
      fun denom => decide (denom = 0)) = decide (prs &&& 7 < 4) := by
  have all : ∀ i < 8, ∀ j < 8, ((products (denominators (scaleFactors.getD i 0)
      (scaleFactors.getD j 0))).value.any fun denom => decide (denom = 0)) =
        decide (i < 4) := by decide +kernel
  rw [getK_ok, getK_ok]
  exact all _ (precision_lt prs) _ (precision_lt tmp)

theorem addTerm_zeroDivisor : (addTerm state term).zeroDivisor = decide (u64 term.2 = 0) := by
  unfold addTerm
  split
  · simp
  · simp

theorem addRem_zeroDivisor (rem : Int) (term : Int × Int) :
    (addRem rem term).zeroDivisor = decide (term.2 = 0) := by
  unfold addRem
  simp

theorem addTerm_length : (addTerm state term).value.2.length = state.2.length + 1 := by
  unfold addTerm
  split
  · simp
  · simp

theorem addTerms_length (terms : List (Int × Int)) :
    (terms.foldlM addTerm state).value.2.length = state.2.length + terms.length := by
  induction terms generalizing state with
  | nil => simp
  | cons term rest ih =>
    rw [List.foldlM_cons, bind_value, ih, addTerm_length, List.length_cons]
    omega

theorem polynomial_zeroDivisor (kp kt p t : Int) :
    (polynomial c kp kt p t).zeroDivisor =
      (((products (denominators kp kt)).value.any fun denom => decide (u64 denom = 0)) ||
        (products (denominators kp kt)).value.any fun denom => decide (denom = 0)) := by
  have nine : (products (denominators kp kt)).value.length = 9 := products_length _
  have nums : (products (numerators c p t)).value.length = 9 := products_length _
  have rems := addTerms_length (0, [])
    ((products (numerators c p t)).value.zip (products (denominators kp kt)).value)
  rw [List.length_zip, nine, nums] at rems
  unfold polynomial
  simp only [bind_zeroDivisor, products_zeroDivisor, Bool.false_or, add_zeroDivisor,
    div_zeroDivisor]
  rw [foldlM_zeroDivisor addTerm (fun term => decide (u64 term.2 = 0)) addTerm_zeroDivisor,
    foldlM_zeroDivisor addRem (fun term => decide (term.2 = 0)) addRem_zeroDivisor,
    any_zip_snd _ _ (fun denom => decide (u64 denom = 0)) (by omega),
    any_zip_snd _ _ (fun denom => decide (denom = 0)) (by simp at rems; omega)]
  simp

theorem getK_nonneg : ¬ getK (.ok val) < 0 := by
  obtain ⟨k, isK, positive, -⟩ := getK_cases val
  omega

theorem calculatePressure_accidents (bus : Bus) (c : Coefs) (pressure_raw temp_raw : Int)
    {prs tmp : Nat} (prsOk : bus.prsCfg = .ok prs) (tmpOk : bus.tmpCfg = .ok tmp) :
    (calculatePressure bus c pressure_raw temp_raw).zeroDivisor = decide (prs &&& 7 < 4) ∧
      (calculatePressure bus c pressure_raw temp_raw).wrapped = true := by
  unfold calculatePressure
  simp only [prsOk, tmpOk, getK_nonneg, if_false]
  constructor
  · rw [bind_zeroDivisor, polynomial_zeroDivisor, denominators_zero, denominators_zero_s64,
      Bool.or_self]
    split
    · rw [pure_zeroDivisor, Bool.or_false]
    · rw [pure_zeroDivisor, Bool.or_false]
  · rw [bind_wrapped, polynomial, bind_wrapped, bind_wrapped, denominators_wrapped]
    simp

theorem signExtend32_bounds (value : BitVec 32) (index : Nat) (small : index ≤ 31) :
    -2 ^ index ≤ signExtend32 value index ∧ signExtend32 value index < 2 ^ index := by
  have low := BitVec.le_toInt (value <<< (31 - index))
  have high := BitVec.toInt_lt (x := value <<< (31 - index))
  have split : (2 : Int) ^ (32 - 1) = 2 ^ index * 2 ^ (31 - index) := by
    rw [← pow_add]
    congr 1
    omega
  have positive : (0 : Int) < 2 ^ (31 - index) := by positivity
  rw [split] at low high
  rw [signExtend32, BitVec.toInt_sshiftRight, Int.shiftRight_eq_div_pow]
  push_cast
  constructor
  · rw [Int.le_ediv_iff_mul_le positive]
    linarith
  · rw [Int.ediv_lt_iff_lt_mul positive]
    exact high

def Twelve (x : Int) : Prop := -2048 ≤ x ∧ x < 2048

theorem signExtend32_twelve (value : BitVec 32) : Twelve (signExtend32 value 11) := by
  have bounds := signExtend32_bounds value 11 (by decide)
  norm_num at bounds
  exact bounds

theorem getCoefs_c0 (block : Nat → BitVec 8) : Twelve (getCoefs block).c0 := by
  unfold getCoefs
  dsimp only
  apply signExtend32_twelve

theorem getCoefs_c1 (block : Nat → BitVec 8) : Twelve (getCoefs block).c1 := by
  unfold getCoefs
  dsimp only
  apply signExtend32_twelve

theorem abs_mul_le {a m n : Int} (first : |a| ≤ m) (second : |b| ≤ n) : |a * b| ≤ m * n := by
  rw [abs_mul]
  exact mul_le_mul first second (abs_nonneg b) ((abs_nonneg a).trans first)

theorem calculateTemp_value (bus : Bus) (c : Coefs) (t : Int) {tmp : Nat}
    (tmpOk : bus.tmpCfg = .ok tmp) (range0 : Twelve c.c0) (range1 : Twelve c.c1) {k : Int}
    (isK : getK (.ok tmp) = 2 * k) (positive : 0 < k) (small : k ≤ 3932160)
    (bounded : |t| ≤ getK (.ok tmp)) :
    (calculateTemp bus c t).value = ((k * c.c0 + t * c.c1) * 1000).tdiv (2 * k) := by
  obtain ⟨low0, high0⟩ := range0
  obtain ⟨low1, high1⟩ := range1
  have size0 : |c.c0| ≤ 2048 := abs_le.mpr ⟨low0, by omega⟩
  have size1 : |c.c1| ≤ 2048 := abs_le.mpr ⟨low1, by omega⟩
  have sizeK : |2 * k| ≤ 7864320 := abs_le.mpr ⟨by omega, by omega⟩
  have sizeHalf : |k| ≤ 3932160 := abs_le.mpr ⟨by omega, small⟩
  have sizeT : |t| ≤ 7864320 := by omega
  have scaledSize := abs_mul_le sizeK size0
  have offsetSize := abs_mul_le sizeHalf size0
  have linearSize := abs_mul_le sizeT size1
  have sumSize : |k * c.c0 + t * c.c1| ≤ 3932160 * 2048 + 7864320 * 2048 :=
    (abs_add_le _ _).trans (add_le_add offsetSize linearSize)
  have milliSize := abs_mul_le sumSize (show |(1000 : Int)| ≤ 1000 by decide)
  have half : (2 * k * c.c0).tdiv 2 = k * c.c0 := by
    rw [mul_assoc]
    exact Int.mul_tdiv_cancel_left _ (by decide)
  have scaled : (mul (2 * k) c.c0).value = 2 * k * c.c0 := mul_value (fits_of_abs (by omega))
  have offset : (div (2 * k * c.c0) 2).value = k * c.c0 := by
    rw [div_value, half]
    rw [half]
    exact fits_of_abs (by omega)
  have linear : (mul t c.c1).value = t * c.c1 := mul_value (fits_of_abs (by omega))
  have sum : (add (k * c.c0) (t * c.c1)).value = k * c.c0 + t * c.c1 :=
    add_value (fits_of_abs (by omega))
  have milli : (mul (k * c.c0 + t * c.c1) 1000).value = (k * c.c0 + t * c.c1) * 1000 :=
    mul_value (fits_of_abs (by omega))
  have quotientSize : |((k * c.c0 + t * c.c1) * 1000).tdiv (2 * k)| ≤ 2 ^ 30 := by
    have sumBound : |k * c.c0 + t * c.c1| ≤ k * 2048 + 2 * k * 2048 :=
      (abs_add_le _ _).trans (add_le_add (abs_mul_le (abs_of_pos positive).le size0)
        (abs_mul_le (isK ▸ bounded) size1))
    obtain ⟨sumLow, sumHigh⟩ := abs_le.mp sumBound
    obtain ⟨above, below⟩ := tdiv_bounds ((k * c.c0 + t * c.c1) * 1000) (b := 2 * k) (by omega)
    have double : 0 ≤ 2 * k := by omega
    rw [abs_le]
    constructor
    · have step : -3072001 * (2 * k) < ((k * c.c0 + t * c.c1) * 1000).tdiv (2 * k) * (2 * k) := by
        omega
      have bound := lt_of_mul_lt_mul_right step double
      omega
    · have step : ((k * c.c0 + t * c.c1) * 1000).tdiv (2 * k) * (2 * k) < 3072001 * (2 * k) := by
        omega
      have bound := lt_of_mul_lt_mul_right step double
      omega
  have quotient := div_value (fits_of_abs (quotientSize.trans (by decide)))
  have notNeg : ¬ 2 * k < 0 := by omega
  unfold calculateTemp
  simp only [tmpOk, isK, notNeg, if_false, bind_value, pure_value, scaled, offset, linear, sum,
    milli, quotient]
  unfold s32
  obtain ⟨low, high⟩ := abs_le.mp quotientSize
  exact Int.bmod_eq_of_le (by omega) (by omega)

theorem exactTemp_eq (k t : Int) (positive : 0 < k) :
    exactTemp c ((2 * k : Int) : ℚ) t =
      (((k * c.c0 + t * c.c1) * 1000 : Int) : ℚ) / ((2 * k : Int) : ℚ) := by
  have nonzero : (k : ℚ) ≠ 0 := by exact_mod_cast positive.ne'
  unfold exactTemp
  push_cast
  field_simp

theorem tdiv_near (a : Int) (positive : 0 < b) :
    |((a.tdiv b : Int) : ℚ) - (a : ℚ) / (b : ℚ)| ≤ 2 := by
  obtain ⟨above, below⟩ := tdiv_bounds a positive
  have divisor : (0 : ℚ) < b := by exact_mod_cast positive
  have aboveCast : ((a.tdiv b : Int) : ℚ) * b < a + b := by exact_mod_cast above
  have belowCast : (a : ℚ) - b < ((a.tdiv b : Int) : ℚ) * b := by exact_mod_cast below
  have quotient : (a : ℚ) / b * b = a := div_mul_cancel₀ _ divisor.ne'
  rw [abs_le]
  constructor
  · by_contra far
    nlinarith
  · by_contra far
    nlinarith

theorem neg_one_lt_div_iff (a : Int) (positive : 0 < b) : -1 < (a : ℚ) / (b : ℚ) ↔ ¬ a ≤ -b := by
  have divisor : (0 : ℚ) < b := by exact_mod_cast positive
  rw [lt_div_iff₀ divisor, not_le]
  constructor
  · intro less
    have cast : ((-b : Int) : ℚ) < a := by
      push_cast
      linarith
    exact_mod_cast cast
  · intro less
    have cast : ((-b : Int) : ℚ) < a := by exact_mod_cast less
    push_cast at cast
    linarith

theorem Access.rc_failed {α : Type} (errno : Nat) : (Access.failed (α := α) errno).rc < 0 := by
  rw [Compensation.Access.rc]
  omega

theorem readTemp_of_fails (bus : Bus) (c : Coefs) (temp_raw : Int) (fails : AccessFails bus) :
    ∃ rc, readTemp bus c temp_raw = .error rc := by
  unfold readTemp readTempRaw readTempReady
  cases interrupted : bus.interrupted with
  | true => exact ⟨-EINTR, by simp [EINTR]⟩
  | false =>
    cases poll : bus.tmpPoll with
    | failed errno =>
      have negative := Access.rc_failed (α := Nat) errno
      exact ⟨(Access.failed (α := Nat) errno).rc, by simp [negative.ne]⟩
    | ok _ =>
      cases base : bus.tmpBase with
      | failed errno =>
        have negative := Access.rc_failed (α := Nat) errno
        exact ⟨(Access.failed (α := Nat) errno).rc, by simp [negative.ne]⟩
      | ok val =>
        cases cfg : bus.tmpCfg with
        | failed errno =>
          have negative := Access.rc_failed (α := Nat) errno
          exact ⟨(Access.failed (α := Nat) errno).rc,
            by simp [calculateTemp, cfg, getK, negative]⟩
        | ok tmp => simp [AccessFails, interrupted, poll, base, cfg, Access.rc] at fails

theorem access_of_not_fails {bus : Bus} (works : ¬ AccessFails bus) :
    bus.interrupted = false ∧ bus.tmpPoll = .ok () ∧ (∃ val, bus.tmpBase = .ok val) ∧
      ∃ tmp, bus.tmpCfg = .ok tmp := by
  simp only [AccessFails, not_or, not_not, Bool.not_eq_true] at works
  obtain ⟨interrupted, poll, base, cfg⟩ := works
  refine ⟨interrupted, ?_, ?_, ?_⟩
  · cases read : bus.tmpPoll with
    | ok _ => rfl
    | failed errno =>
      rw [read] at poll
      exact absurd poll (Access.rc_failed errno).ne
  · cases read : bus.tmpBase with
    | ok val => exact ⟨val, rfl⟩
    | failed errno =>
      rw [read] at base
      exact absurd base (Access.rc_failed errno).ne
  · cases read : bus.tmpCfg with
    | ok tmp => exact ⟨tmp, rfl⟩
    | failed errno =>
      rw [read] at cfg
      exact absurd cfg (Access.rc_failed errno).ne

theorem tempRight_of_works (bus : Bus) (block : Nat → BitVec 8) (temp_raw : Int)
    (works : ¬ AccessFails bus) (bounded : ∀ tmp val, bus.tmpCfg = .ok tmp → bus.tmpBase = .ok val →
      |rawTemp val| ≤ getK (.ok tmp)) :
    TempRight bus (getCoefs block) temp_raw ↔
      -1 < exactTemp (getCoefs block) (getK bus.tmpCfg) (readTempRaw bus temp_raw).1 := by
  obtain ⟨interrupted, poll, ⟨val, base⟩, tmp, cfg⟩ := access_of_not_fails works
  obtain ⟨k, isK, positive, small⟩ := getK_cases tmp
  have raw : readTempRaw bus temp_raw = (rawTemp val, 0) := by
    simp [readTempRaw, readTempReady, interrupted, poll, base]
  have value := calculateTemp_value bus (getCoefs block) (rawTemp val) cfg (getCoefs_c0 block)
    (getCoefs_c1 block) isK positive small (bounded tmp val cfg base)
  have divisor : 0 < 2 * k := by omega
  have near := tdiv_near ((k * (getCoefs block).c0 + rawTemp val * (getCoefs block).c1) * 1000)
    divisor
  have sign := tdiv_neg_iff ((k * (getCoefs block).c0 + rawTemp val * (getCoefs block).c1) * 1000)
    divisor
  rw [raw, cfg, isK, exactTemp_eq _ _ _ positive, neg_one_lt_div_iff _ divisor, ← sign]
  unfold TempRight readTemp
  simp only [raw, ne_eq, not_true_eq_false, if_false, value]
  by_cases negative : ((k * (getCoefs block).c0 + rawTemp val * (getCoefs block).c1) *
      1000).tdiv (2 * k) < 0
  · simp only [negative, if_true, not_true_eq_false, iff_false]
    exact works
  · simp only [negative, if_false, not_false_iff, iff_true]
    rw [cfg, isK, exactTemp_eq _ _ _ positive]
    exact near

theorem tempRight_iff (bus : Bus) (block : Nat → BitVec 8) (temp_raw : Int)
    (bounded : ∀ tmp val, bus.tmpCfg = .ok tmp → bus.tmpBase = .ok val →
      |rawTemp val| ≤ getK (.ok tmp)) :
    TempRight bus (getCoefs block) temp_raw ↔
      AccessFails bus ∨
        -1 < exactTemp (getCoefs block) (getK bus.tmpCfg) (readTempRaw bus temp_raw).1 := by
  by_cases fails : AccessFails bus
  · obtain ⟨rc, isError⟩ := readTemp_of_fails bus (getCoefs block) temp_raw fails
    unfold TempRight
    rw [isError]
    exact iff_of_true fails (Or.inl fails)
  · rw [tempRight_of_works bus block temp_raw fails bounded]
    exact (or_iff_right fails).symm

/-- Whenever the precisions can be read the pressure wraps, and with one of the four lower
precisions it also divides by zero, so it is never right; the temperature is right just
when an access fails or it is above minus one millidegree. -/
theorem compensation_wrong (bus : Bus) (block : Nat → BitVec 8) (pressure_raw temp_raw : Int)
    {prs tmp : Nat} (prsOk : bus.prsCfg = .ok prs) (tmpOk : bus.tmpCfg = .ok tmp)
    (bounded : ∀ val, bus.tmpBase = .ok val → |rawTemp val| ≤ getK (.ok tmp)) :
    ¬ (PressureRight bus (getCoefs block) pressure_raw temp_raw ∧
        TempRight bus (getCoefs block) temp_raw) ∧
      (calculatePressure bus (getCoefs block) pressure_raw temp_raw).wrapped = true ∧
      ((calculatePressure bus (getCoefs block) pressure_raw temp_raw).zeroDivisor = true ↔
        prs &&& 7 < 4) ∧
      (TempRight bus (getCoefs block) temp_raw ↔
        AccessFails bus ∨
          -1 < exactTemp (getCoefs block) (getK bus.tmpCfg) (readTempRaw bus temp_raw).1) := by
  obtain ⟨zero, wraps⟩ :=
    calculatePressure_accidents bus (getCoefs block) pressure_raw temp_raw prsOk tmpOk
  refine ⟨?_, wraps, ?_, tempRight_iff bus block temp_raw ?_⟩
  · rintro ⟨⟨-, noWrap, -⟩, -⟩
    rw [wraps] at noWrap
    exact nomatch noWrap
  · rw [zero, decide_eq_true_iff]
  · intro reg val isReg isVal
    rw [tmpOk] at isReg
    cases isReg
    exact bounded val isVal

/-- A sensor at its lowest precisions, with no pressure and a temperature of minus a half. -/
def coldBus : Bus where
  prsCfg := .ok 0
  tmpCfg := .ok 0
  trylock := true
  tmpRdy := .ok false
  tmpBase := .ok fun i => if i = 0 then 0xfc else 0
  interrupted := false
  tmpPoll := .ok ()

/-- Only the coefficient `c1` is not zero. -/
def slopeBlock : Nat → BitVec 8 := fun i => if i = 2 then 1 else 0

theorem compensation_wrong_cold :
    ¬ (PressureRight coldBus (getCoefs slopeBlock) 0 0 ∧ TempRight coldBus (getCoefs slopeBlock) 0) ∧
      (calculatePressure coldBus (getCoefs slopeBlock) 0 0).wrapped = true ∧
      ((calculatePressure coldBus (getCoefs slopeBlock) 0 0).zeroDivisor = true ↔ 0 &&& 7 < 4) ∧
      (TempRight coldBus (getCoefs slopeBlock) 0 ↔
        AccessFails coldBus ∨
          -1 < exactTemp (getCoefs slopeBlock) (getK coldBus.tmpCfg) (readTempRaw coldBus 0).1) :=
  compensation_wrong coldBus slopeBlock 0 0 rfl rfl fun val isVal => by
    cases isVal
    decide

/-- The pressure divides by zero, and the temperature of minus 500 is returned as an error. -/
theorem cold_fails :
    (calculatePressure coldBus (getCoefs slopeBlock) 0 0).zeroDivisor = true ∧
      readTemp coldBus (getCoefs slopeBlock) 0 = .error (-500) ∧
      ¬ (PressureRight coldBus (getCoefs slopeBlock) 0 0 ∧
        TempRight coldBus (getCoefs slopeBlock) 0) := by
  have zero : (calculatePressure coldBus (getCoefs slopeBlock) 0 0).zeroDivisor = true := by
    decide +kernel
  refine ⟨zero, by decide +kernel, ?_⟩
  rintro ⟨⟨noZero, -, -⟩, -⟩
  rw [zero] at noZero
  exact nomatch noZero

end OpenwrtSource.Zts.Accuracy
