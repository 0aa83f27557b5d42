import Mathlib.Data.Int.Notation
import OpenwrtSource.Lib.BitField

/-!
# The MediaTek PWM period programming

`pwm_mediatek_apply` hands the requested nanoseconds to `pwm_mediatek_config` or, for
a channel in breathing mode, to `pwm_mediatek_breathing_config`.  Both let
`pwm_mediatek_clk_resolution_config` look for a clock divider under which the period
fits the counter: it doubles the tick up to seven times, then starts over with the
1625 prescaler.  A tick is held in whole picoseconds in a `u64`; the periods pass
through `int`, the counts through `u32`, and the divisor of `do_div` is a `u32`.
-/

namespace OpenwrtSource.Pwm.Period
open Lib.BitField

def NSEC_PER_SEC : Nat := 1000000000
def PWM_CLK_DIV_MAX : Nat := 7
def PWM_BREATHING_THRES_MAX : Nat := 32
def PWM_BREATHING_CON : Nat := 0xb8
def PWM_BREATHING_THRES_0 : Nat := 0xbc
def PWM_BREATHING_THRES_1 : Nat := 0xd0
def EINVAL : Int := 22

/-- What a call comes to: a value, a division by zero, or a loop without end. -/
inductive Outcome (α : Type) where
  | endless
  | undefined
  | returns (value : α)
  deriving DecidableEq

def Outcome.bind {α β : Type} : Outcome α → (α → Outcome β) → Outcome β
  | .endless, _ => .endless
  | .undefined, _ => .undefined
  | .returns value, next => next value

@[simp] theorem Outcome.bind_returns {α β : Type} (value : α) (next : α → Outcome β) :
    (Outcome.returns value).bind next = next value := rfl

/-- The kernel's division of a `u64`: the divisor is taken as a `u32`. -/
def do_div (n base : Nat) : Outcome Nat :=
  if base % 2 ^ 32 = 0 then .undefined else .returns (n / (base % 2 ^ 32))

def DIV_ROUND_CLOSEST_ULL (x divisor : Nat) : Outcome Nat :=
  do_div ((x + divisor / 2) % 2 ^ 64) divisor

/-- `(u64)period_ns * 1000` of an `int`. -/
def picoseconds (ns : Int) : Nat :=
  (ns % 2 ^ 64).toNat * 1000 % 2 ^ 64

/-- `cnt_period` and `cnt_duty`, both `u32`. -/
def ticks (ns : Int) (resolution : Nat) : Outcome Nat :=
  (DIV_ROUND_CLOSEST_ULL (picoseconds ns) resolution).bind fun count =>
    .returns (count % 2 ^ 32)

structure Divider where
  resolution : Nat
  clkdiv : Nat
  clksel : Bool
  deriving DecidableEq

/-- The first half of a round of the loop, up to the new resolution. -/
def slow_down (clk_rate : Nat) (divider : Divider) : Outcome Divider :=
  if PWM_CLK_DIV_MAX < divider.clkdiv + 1 ∧ divider.clksel = false then
    (do_div (NSEC_PER_SEC * 1000 * 1625) clk_rate).bind fun resolution =>
      .returns { resolution, clkdiv := 0, clksel := true }
  else
    .returns
      { divider with
        resolution := divider.resolution * 2 % 2 ^ 64
        clkdiv := divider.clkdiv + 1 }

/-- `while (cnt_period > max_cnt_period)`; one unit of fuel is one test of the loop. -/
def search (clk_rate max_cnt_period : Nat) (period_ns : Int) :
    Nat → Divider → Nat → Outcome Divider
  | 0, _, _ => .endless
  | fuel + 1, divider, cnt_period =>
    if cnt_period ≤ max_cnt_period then .returns divider
    else
      (slow_down clk_rate divider).bind fun slower =>
        (ticks period_ns slower.resolution).bind fun cnt_period =>
          search clk_rate max_cnt_period period_ns fuel slower cnt_period

def searchFuel : Nat := 48

/-- Per-SoC data.  Only a SoC with 32 thresholds has the breathing light. -/
structure Soc where
  pwm45_fixup : Bool
  has_ck_26m_sel : Bool
  hw_breathing_light : Int
  hw_breathing_light_thres_num : Int
  thresholds : hw_breathing_light ≠ 0 → hw_breathing_light_thres_num = 32 := by decide

def mt7987_pwm_data : Soc where
  pwm45_fixup := false
  has_ck_26m_sel := false
  hw_breathing_light := 1
  hw_breathing_light_thres_num := 32

/-- A channel of a probed chip.  The clock framework supplies its rate and what
enabling its clocks returns, in `pwm_mediatek_config` and at the end of
`pwm_mediatek_apply`. -/
structure Chip where
  soc : Soc
  hwpwm : Nat
  clk_rate : Nat
  breathing_property : Bool
  config_clk_enable : Int
  apply_clk_enable : Int

/-- `pwm_mediatek_probe` reads the property only where the SoC has the light. -/
def Chip.bw_mode (chip : Chip) : Bool :=
  if chip.soc.hw_breathing_light ≠ 0 then chip.breathing_property else false

/-- The registers of one channel; those of the breathing light by offset in words. -/
structure Registers where
  ck26mSel : BitVec 32
  con : BitVec 32
  width : BitVec 32
  thres : BitVec 32
  width45 : BitVec 32
  thres45 : BitVec 32
  breathing : Words 64
  running : Bool

def pwm_mediatek_enable (regs : Registers) : Registers := { regs with running := true }

def pwm_mediatek_disable (regs : Registers) : Registers := { regs with running := false }

/-- `BIT(15) | BIT(3) | clkdiv`, without `BIT(3)` unless `clksel` is set. -/
def control (clkdiv : Nat) (clksel : Bool) : BitVec 32 :=
  if clksel then BitVec.twoPow 32 15 ||| BitVec.twoPow 32 3 ||| BitVec.ofNat 32 clkdiv
  else BitVec.twoPow 32 15 ||| BitVec.ofNat 32 clkdiv

def selectBusClock (chip : Chip) (regs : Registers) : Registers :=
  if chip.soc.has_ck_26m_sel then { regs with ck26mSel := 0 } else regs

def pwm_mediatek_clk_resolution_config (chip : Chip) (max_cnt_period : Nat) (period_ns : Int)
    (regs : Registers) : Outcome (Registers × Except Int Nat) :=
  let regs := selectBusClock chip regs
  if chip.clk_rate = 0 then .returns (regs, .error (-EINVAL))
  else
    (do_div (NSEC_PER_SEC * 1000) chip.clk_rate).bind fun resolution =>
      (ticks period_ns resolution).bind fun cnt_period =>
        if cnt_period = 0 then .returns (regs, .error (-EINVAL))
        else
          (search chip.clk_rate max_cnt_period period_ns searchFuel
              { resolution, clkdiv := 0, clksel := false } cnt_period).bind fun divider =>
            if PWM_CLK_DIV_MAX < divider.clkdiv then .returns (regs, .error (-EINVAL))
            else
              .returns
                ({ regs with con := control divider.clkdiv divider.clksel },
                  .ok divider.resolution)

/-- The register offset of a threshold; four thresholds share a register. -/
def thres_offset (idx : Nat) : Nat :=
  if idx < 4 then PWM_BREATHING_THRES_0 else PWM_BREATHING_THRES_1 + (idx / 4 - 1) * 4

theorem thres_offset_lt (idx : Nat) (valid : idx < PWM_BREATHING_THRES_MAX) :
    thres_offset idx / 4 < 64 := by
  unfold thres_offset PWM_BREATHING_THRES_0 PWM_BREATHING_THRES_1
  unfold PWM_BREATHING_THRES_MAX at valid
  split <;> omega

/-- The byte of threshold `idx`. -/
def thresholdField (idx : Nat) (valid : idx < PWM_BREATHING_THRES_MAX) : Field 64 8 where
  word := ⟨thres_offset idx / 4, thres_offset_lt idx valid⟩
  shift := idx % 4 * 8
  fits := by omega

/-- `none` is `-EINVAL`; `idx` counts up from zero. -/
def pwm_bl_set_thres (idx : Nat) (value scale : Int) (regs : Registers) : Option Registers :=
  let value := value.tdiv scale
  if valid : idx < PWM_BREATHING_THRES_MAX then
    if value < 0 ∨ 255 < value then none
    else
      some { regs with
        breathing := (thresholdField idx valid).set (BitVec.ofNat 8 value.toNat) regs.breathing }
  else none

def x_scale : Int := 1000

/-- `pattern[i]`: from all of the counter down to nothing, and up again. -/
def pattern (max_counter num_thres : Int) (i : Nat) : Int :=
  let c := num_thres.tdiv 2
  let x := (max_counter * x_scale).tdiv (num_thres.tdiv 2)
  if i = 0 then max_counter * x_scale
  else if (i : Int) < c then x * (c - i)
  else x * (i - c)

/-- The loop that writes the pattern stops at the first threshold that is refused. -/
def setThresholds (max_counter num_thres : Int) : List Nat → Registers → Registers × Int
  | [], regs => (regs, 0)
  | i :: later, regs =>
    match pwm_bl_set_thres i (pattern max_counter num_thres i) x_scale regs with
    | none => (regs, -EINVAL)
    | some written => setThresholds max_counter num_thres later written

/-- `writel(((num_thres - 1) << 8 | 0x1), PWM_BREATHING_CON)`. -/
def startBreathing (num_thres : Int) (regs : Registers) : Registers :=
  { regs with
    breathing := fun word =>
      if word.val = PWM_BREATHING_CON / 4 then BitVec.ofInt 32 (num_thres - 1) <<< 8 ||| 1#32
      else regs.breathing word }

def pwm_config_bl_thres (max_counter num_thres : Int) (regs : Registers) : Registers × Int :=
  if num_thres < 2 ∨ num_thres.tmod 2 ≠ 0 then (regs, -EINVAL)
  else
    let written := setThresholds max_counter num_thres (List.range num_thres.toNat) regs
    if written.2 ≠ 0 then written else (startBreathing num_thres written.1, 0)

def pwm_mediatek_breathing_config (chip : Chip) (_duty_ns period_ns : Int) (regs : Registers) :
    Outcome (Registers × Int) :=
  let thres_num := chip.soc.hw_breathing_light_thres_num
  if thres_num = 0 then .undefined
  else
    let period_ns := period_ns.tdiv thres_num
    if chip.config_clk_enable < 0 then .returns (regs, chip.config_clk_enable)
    else
      (pwm_mediatek_clk_resolution_config chip 255 period_ns regs).bind fun configured =>
        match configured.2 with
        | .error ret => .returns (configured.1, ret)
        | .ok resolution =>
          (ticks period_ns resolution).bind fun cnt_period =>
            if cnt_period = 0 then .returns (configured.1, -EINVAL)
            else
              let regs := { configured.1 with width := BitVec.ofNat 32 (cnt_period - 1) }
              .returns (pwm_mediatek_enable (pwm_config_bl_thres cnt_period thres_num regs).1, 0)

/-- PWM 4 and 5 of some SoCs keep the two counts at an offset of their own. -/
def fixedUp (chip : Chip) : Bool := chip.soc.pwm45_fixup && decide (2 < chip.hwpwm)

def writeWidth (chip : Chip) (value : BitVec 32) (regs : Registers) : Registers :=
  if fixedUp chip then { regs with width45 := value } else { regs with width := value }

def writeThres (chip : Chip) (value : BitVec 32) (regs : Registers) : Registers :=
  if fixedUp chip then { regs with thres45 := value } else { regs with thres := value }

def writeDuty (chip : Chip) (cnt_duty : Nat) (regs : Registers) : Registers :=
  if cnt_duty ≠ 0 then
    pwm_mediatek_enable (writeThres chip (BitVec.ofNat 32 (cnt_duty - 1)) regs)
  else pwm_mediatek_disable regs

def pwm_mediatek_config (chip : Chip) (duty_ns period_ns : Int) (regs : Registers) :
    Outcome (Registers × Int) :=
  if chip.config_clk_enable < 0 then .returns (regs, chip.config_clk_enable)
  else
    (pwm_mediatek_clk_resolution_config chip 8191 period_ns regs).bind fun configured =>
      match configured.2 with
      | .error ret => .returns (configured.1, ret)
      | .ok resolution =>
        (ticks period_ns resolution).bind fun cnt_period =>
          if cnt_period = 0 then .returns (configured.1, -EINVAL)
          else
            (ticks duty_ns resolution).bind fun cnt_duty =>
              let regs := writeWidth chip (BitVec.ofNat 32 (cnt_period - 1)) configured.1
              .returns (writeDuty chip cnt_duty regs, 0)

structure PwmState where
  period : BitVec 64
  duty_cycle : BitVec 64
  normal_polarity : Bool
  enabled : Bool

/-- A `u64` handed to an `int` parameter. -/
def asInt (ns : BitVec 64) : Int := (ns.setWidth 32).toInt

def configure (chip : Chip) (duty_ns period_ns : Int) (regs : Registers) :
    Outcome (Registers × Int) :=
  if chip.bw_mode then pwm_mediatek_breathing_config chip duty_ns period_ns regs
  else pwm_mediatek_config chip duty_ns period_ns regs

/-- `was_enabled` is `pwm->state.enabled`.  The clocks' reference count is not modelled. -/
def pwm_mediatek_apply (chip : Chip) (was_enabled : Bool) (state : PwmState) (regs : Registers) :
    Outcome (Registers × Int) :=
  if state.normal_polarity = false then .returns (regs, -EINVAL)
  else if state.enabled = false then
    .returns (if was_enabled then pwm_mediatek_disable regs else regs, 0)
  else
    (configure chip (asInt state.duty_cycle) (asInt state.period) regs).bind fun configured =>
      if configured.2 ≠ 0 then .returns configured
      else if was_enabled then .returns configured
      else .returns (configured.1, chip.apply_clk_enable)

end OpenwrtSource.Pwm.Period

/-!
# The breathing thresholds

Thirty-two bytes in eight registers hold the duty of each step of a breath.  Every
one of them is written, and none exceeds the period count of the step.
-/

namespace OpenwrtSource.Pwm.Thresholds
open Lib.BitField Pwm.Period

def threshold (regs : Registers) (idx : Nat) (valid : idx < PWM_BREATHING_THRES_MAX) : BitVec 8 :=
  (thresholdField idx valid).get regs.breathing

theorem thresholdField_apart (idx idx' : Nat) (valid : idx < PWM_BREATHING_THRES_MAX)
    (valid' : idx' < PWM_BREATHING_THRES_MAX) (differ : idx ≠ idx') :
    (thresholdField idx valid).Apart (thresholdField idx' valid') := by
  by_cases sameRegister : idx / 4 = idx' / 4
  · right
    show idx % 4 * 8 + 8 ≤ idx' % 4 * 8 ∨ idx' % 4 * 8 + 8 ≤ idx % 4 * 8
    omega
  · left
    intro sameWord
    have sameOffset : thres_offset idx / 4 = thres_offset idx' / 4 := congrArg Fin.val sameWord
    unfold thres_offset PWM_BREATHING_THRES_0 PWM_BREATHING_THRES_1 at sameOffset
    split at sameOffset <;> split at sameOffset <;> omega

theorem threshold_startBreathing (num_thres : Int) (regs : Registers) (idx : Nat)
    (valid : idx < PWM_BREATHING_THRES_MAX) :
    threshold (startBreathing num_thres regs) idx valid = threshold regs idx valid := by
  have elsewhere : thres_offset idx / 4 ≠ PWM_BREATHING_CON / 4 := by
    unfold thres_offset PWM_BREATHING_THRES_0 PWM_BREATHING_THRES_1 PWM_BREATHING_CON
    split <;> omega
  have sameWord : (startBreathing num_thres regs).breathing (thresholdField idx valid).word =
      regs.breathing (thresholdField idx valid).word := if_neg elsewhere
  simp only [threshold, Field.get, sameWord]

theorem pattern_bounds (cnt_period i : Nat) (valid : i < PWM_BREATHING_THRES_MAX) :
    0 ≤ pattern cnt_period 32 i ∧ pattern cnt_period 32 i ≤ cnt_period * 1000 := by
  have steps : Int.tdiv 32 2 = 16 := rfl
  have share : ((cnt_period : Int) * x_scale).tdiv 16 = ((cnt_period * 1000 / 16 : Nat) : Int) :=
    rfl
  have scale : (cnt_period : Int) * x_scale = ((cnt_period * 1000 : Nat) : Int) := rfl
  have sixteen : cnt_period * 1000 / 16 * 16 ≤ cnt_period * 1000 := Nat.div_mul_le_self _ _
  unfold PWM_BREATHING_THRES_MAX at valid
  simp only [pattern, steps]
  by_cases first : i = 0
  · rw [if_pos first, scale]
    omega
  · rw [if_neg first, share]
    have bounded : ∀ k : Nat, k ≤ 16 →
        cnt_period * 1000 / 16 * k ≤ cnt_period * 1000 := fun k few =>
      Nat.le_trans (Nat.mul_le_mul_left _ few) sixteen
    by_cases falling : (i : Int) < 16
    · have below := bounded (16 - i) (by omega)
      rw [if_pos falling, show (16 : Int) - i = ((16 - i : Nat) : Int) by omega, ← Nat.cast_mul]
      omega
    · have below := bounded (i - 16) (by omega)
      rw [if_neg falling, show (i : Int) - 16 = ((i - 16 : Nat) : Int) by omega, ← Nat.cast_mul]
      omega

section Writes

variable {cnt_period : Nat}

theorem pwm_bl_set_thres_eq (i : Nat) (valid : i < PWM_BREATHING_THRES_MAX)
    (small : cnt_period ≤ 255) (regs : Registers) :
    ∃ value : BitVec 8, value.toNat ≤ cnt_period ∧
      pwm_bl_set_thres i (pattern cnt_period 32 i) x_scale regs =
        some { regs with breathing := (thresholdField i valid).set value regs.breathing } := by
  obtain ⟨nonneg, upper⟩ := pattern_bounds cnt_period i valid
  obtain ⟨thousandths, written⟩ := Int.eq_ofNat_of_zero_le nonneg
  rw [written] at upper
  have scaled : Int.tdiv (thousandths : Int) x_scale = ((thousandths / 1000 : Nat) : Int) := rfl
  have within : thousandths / 1000 ≤ cnt_period := by omega
  refine ⟨BitVec.ofNat 8 (thousandths / 1000), ?_, ?_⟩
  · rw [BitVec.toNat_ofNat]
    omega
  · simp only [pwm_bl_set_thres, written, scaled]
    rw [dif_pos valid, if_neg (by omega), Int.toNat_natCast]

theorem setThresholds_within (small : cnt_period ≤ 255) (indices : List Nat)
    (valid : ∀ i ∈ indices, i < PWM_BREATHING_THRES_MAX) (regs : Registers) :
    ∃ words, setThresholds cnt_period 32 indices regs = ({ regs with breathing := words }, 0) ∧
      ∀ idx (inRange : idx < PWM_BREATHING_THRES_MAX),
        idx ∈ indices ∨ (threshold regs idx inRange).toNat ≤ cnt_period →
        (threshold { regs with breathing := words } idx inRange).toNat ≤ cnt_period := by
  induction indices generalizing regs with
  | nil =>
    refine ⟨regs.breathing, rfl, fun idx inRange known => ?_⟩
    exact known.resolve_left List.not_mem_nil
  | cons i later ih =>
    have here := valid i List.mem_cons_self
    obtain ⟨value, bounded, accepted⟩ := pwm_bl_set_thres_eq i here small regs
    obtain ⟨words, run, within⟩ := ih (fun j mem => valid j (List.mem_cons_of_mem _ mem))
      { regs with breathing := (thresholdField i here).set value regs.breathing }
    refine ⟨words, ?_, fun idx inRange known => ?_⟩
    · rw [setThresholds, accepted]
      exact run
    · apply within idx inRange
      by_cases same : idx = i
      · right
        subst same
        simp only [threshold, Field.get_set]
        exact bounded
      · have untouched : threshold
            { regs with breathing := (thresholdField i here).set value regs.breathing }
            idx inRange = threshold regs idx inRange :=
          Field.get_set_of_apart _ _ _ _ (thresholdField_apart i idx here inRange (Ne.symm same))
        rw [untouched]
        obtain listed | before := known
        · exact Or.inl ((List.mem_cons.mp listed).resolve_left same)
        · exact Or.inr before

theorem pwm_config_bl_thres_within (small : cnt_period ≤ 255) (regs : Registers) :
    ∃ words, pwm_config_bl_thres cnt_period 32 regs = ({ regs with breathing := words }, 0) ∧
      ∀ idx (inRange : idx < PWM_BREATHING_THRES_MAX),
        (threshold { regs with breathing := words } idx inRange).toNat ≤ cnt_period := by
  obtain ⟨words, run, within⟩ := setThresholds_within small (List.range PWM_BREATHING_THRES_MAX)
    (fun i mem => List.mem_range.mp mem) regs
  have count : (32 : Int).toNat = PWM_BREATHING_THRES_MAX := rfl
  refine ⟨(startBreathing 32 { regs with breathing := words }).breathing, ?_, ?_⟩
  · simp only [pwm_config_bl_thres, count, run]
    rfl
  · intro idx inRange
    have kept := threshold_startBreathing 32 { regs with breathing := words } idx inRange
    refine le_of_eq_of_le (congrArg BitVec.toNat kept) ?_
    exact within idx inRange (Or.inl (List.mem_range.mpr inRange))

end Writes

end OpenwrtSource.Pwm.Thresholds
