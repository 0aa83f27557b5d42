import Mathlib.Data.Nat.Cast.Order.Field
import Mathlib.Tactic.Positivity
import OpenwrtSource.Pwm.DividerSearch
import OpenwrtSource.Pwm.Period

/-!
# What a PWM request programs

A request is met when the call returns an error, or the registers hold a divider and
a period count whose product is the requested period to within half a tick and the
picoseconds lost to the rounded resolution, and no duty or threshold count exceeds
the period count.  A period whose nanoseconds fit an `int` is met whenever the
clock's tick fits the divisor of `do_div`.  A longer one is cut to its low word and,
where the cut one is in reach of the divider, programmed as that.
-/

namespace OpenwrtSource.Pwm.Accuracy
open Lib.Nearest Pwm.Period Pwm.DividerSearch Pwm.Thresholds

/-- The tick that the divider fields select, in picoseconds. -/
def tick (clk_rate clkdiv : Nat) (clksel : Bool) : ℚ :=
  2 ^ clkdiv * (10 ^ 12 * prescaler clksel) / clk_rate

section Tick

variable (clk_rate clkdiv : Nat) (clksel : Bool)

theorem roundedTick_le_tick :
    (roundedTick clk_rate clkdiv clksel : ℚ) ≤ tick clk_rate clkdiv clksel := by
  have rounded : ((10 ^ 12 * prescaler clksel / clk_rate : Nat) : ℚ) ≤
      ((10 ^ 12 * prescaler clksel : Nat) : ℚ) / clk_rate := Nat.cast_div_le
  calc (roundedTick clk_rate clkdiv clksel : ℚ)
      = 2 ^ clkdiv * ((10 ^ 12 * prescaler clksel / clk_rate : Nat) : ℚ) := by
        simp only [roundedTick, Nat.cast_mul, Nat.cast_pow, Nat.cast_ofNat]
    _ ≤ 2 ^ clkdiv * (((10 ^ 12 * prescaler clksel : Nat) : ℚ) / clk_rate) :=
        mul_le_mul_of_nonneg_left rounded (by positivity)
    _ = tick clk_rate clkdiv clksel := by
        simp only [tick, Nat.cast_mul, Nat.cast_pow, Nat.cast_ofNat, mul_div_assoc]

theorem tick_le (positive : 0 < clk_rate) (slow : clk_rate ≤ 10 ^ 9) :
    1000 * tick clk_rate clkdiv clksel ≤ 1001 * roundedTick clk_rate clkdiv clksel := by
  have fine := le_roundedTick clk_rate 0 clksel positive slow
  have undivided : roundedTick clk_rate 0 clksel = 10 ^ 12 * prescaler clksel / clk_rate := by
    simp [roundedTick]
  rw [undivided] at fine
  have below := Nat.lt_mul_div_succ (10 ^ 12 * prescaler clksel) positive
  simp only [roundedTick, tick]
  generalize 10 ^ 12 * prescaler clksel / clk_rate = whole at fine below
  have rate : (0 : ℚ) < clk_rate := Nat.cast_pos.mpr positive
  have quotient : (10 ^ 12 * prescaler clksel : ℚ) / clk_rate ≤ whole + 1 := by
    rw [div_le_iff₀' rate]
    exact_mod_cast below.le
  have large : (1000 : ℚ) ≤ whole := by exact_mod_cast fine
  calc 1000 * (2 ^ clkdiv * (10 ^ 12 * prescaler clksel) / clk_rate : ℚ)
      = 2 ^ clkdiv * (1000 * ((10 ^ 12 * prescaler clksel : ℚ) / clk_rate)) := by ring
    _ ≤ 2 ^ clkdiv * (1001 * whole) :=
        mul_le_mul_of_nonneg_left (by linarith) (by positivity)
    _ = 1001 * ((2 ^ clkdiv * whole : Nat) : ℚ) := by
        push_cast
        ring

end Tick

/-- The counter has 13 bits, of which a breathing step uses eight. -/
def maxCount (chip : Chip) : Nat := if chip.bw_mode then 255 else 8191

/-- The nanoseconds that the period register stands for: the period itself, or one of
the 32 steps of a breath in whole nanoseconds. -/
def periodOf (chip : Chip) (ns : Nat) : Nat := if chip.bw_mode then ns / 32 else ns

def widthRegister (chip : Chip) (regs : Registers) : BitVec 32 :=
  if chip.bw_mode then regs.width else if fixedUp chip then regs.width45 else regs.width

def thresRegister (chip : Chip) (regs : Registers) : BitVec 32 :=
  if fixedUp chip then regs.thres45 else regs.thres

/-- The registers hold `count` ticks of the divider for a period of `ns` nanoseconds. -/
structure Timed (chip : Chip) (ns : Nat) (regs : Registers) (clkdiv : Nat) (clksel : Bool)
    (count : Nat) : Prop where
  control : regs.con = Period.control clkdiv clksel
  divider : clkdiv ≤ PWM_CLK_DIV_MAX
  width : widthRegister chip regs = BitVec.ofNat 32 (count - 1)
  counted : 1 ≤ count
  within : count ≤ maxCount chip
  accurate : |(count : ℚ) * tick chip.clk_rate clkdiv clksel - (ns * 1000 : Nat)| ≤
    tick chip.clk_rate clkdiv clksel / 2 +
      count * (tick chip.clk_rate clkdiv clksel - roundedTick chip.clk_rate clkdiv clksel)

/-- The duty count, or each breathing threshold, is at most the period count. -/
def DutyWithin (chip : Chip) (regs : Registers) (count : Nat) : Prop :=
  if chip.bw_mode then
    ∀ idx (valid : idx < PWM_BREATHING_THRES_MAX), (threshold regs idx valid).toNat ≤ count
  else
    ∃ cnt_duty, cnt_duty ≤ count ∧
      if cnt_duty = 0 then regs.running = false
      else regs.running = true ∧ thresRegister chip regs = BitVec.ofNat 32 (cnt_duty - 1)

/-- The request comes to an end with an error or with its period and duty programmed. -/
def Meets (chip : Chip) (was_enabled : Bool) (state : PwmState) (regs : Registers) : Prop :=
  ∃ after err, pwm_mediatek_apply chip was_enabled state regs = .returns (after, err) ∧
    (err = 0 → state.enabled = true →
      ∃ clkdiv clksel count,
        Timed chip (periodOf chip state.period.toNat) after clkdiv clksel count ∧
        DutyWithin chip after count)

section Modes

variable {chip : Chip} {ns : Nat} (regs : Registers)

theorem roomy_of (quick : 233 ≤ chip.clk_rate) (slow : chip.clk_rate ≤ 10 ^ 9)
    (short : ns < 2 ^ 31) : Roomy chip.clk_rate (maxCount chip) (periodOf chip ns) where
  quick := quick
  slow := slow
  short := by
    unfold periodOf
    split <;> omega
  deep := by
    unfold maxCount
    split <;> omega
  covered := by
    unfold periodOf maxCount
    split <;> omega

theorem timed_of_searching {divider : Divider} {after : Registers}
    (roomy : Roomy chip.clk_rate (maxCount chip) ns)
    (searching : Searching chip.clk_rate (maxCount chip) ns divider)
    (bounded : divider.clkdiv ≤ PWM_CLK_DIV_MAX)
    (fits : nearest (ns * 1000) divider.resolution ≤ maxCount chip)
    (written : after.con = control divider.clkdiv divider.clksel)
    (width : widthRegister chip after =
      BitVec.ofNat 32 (nearest (ns * 1000) divider.resolution - 1)) :
    Timed chip ns after divider.clkdiv divider.clksel
      (nearest (ns * 1000) divider.resolution) where
  control := written
  divider := bounded
  width := width
  counted := searching.counted
  within := fits
  accurate := by
    have fine := roomy.fine searching
    rw [← searching.resolution]
    refine abs_nearest_tick_sub (ns * 1000) divider.resolution _ (by omega) ?_
    rw [searching.resolution]
    exact roundedTick_le_tick _ _ _

theorem ticks_returns (duty_ns : Int) (resolution : Nat) (nonzero : 0 < resolution)
    (narrow : resolution < 2 ^ 32) : ∃ count, ticks duty_ns resolution = .returns count := by
  have divisor : ¬ resolution % 2 ^ 32 = 0 := by omega
  simp only [ticks, DIV_ROUND_CLOSEST_ULL, do_div, if_neg divisor, Outcome.bind_returns]
  exact ⟨_, rfl⟩

theorem writeWidth_con (value : BitVec 32) : (writeWidth chip value regs).con = regs.con := by
  unfold writeWidth
  split <;> rfl

theorem writeDuty_con (cnt_duty : Nat) : (writeDuty chip cnt_duty regs).con = regs.con := by
  unfold writeDuty writeThres
  split
  · split <;> rfl
  · rfl

theorem widthRegister_writeDuty (cnt_duty : Nat) :
    widthRegister chip (writeDuty chip cnt_duty regs) = widthRegister chip regs := by
  unfold widthRegister writeDuty writeThres
  split
  · split
    · split <;> rfl
    · rfl
  · split <;> split <;> rfl

theorem widthRegister_writeWidth (plain : chip.bw_mode = false) (value : BitVec 32) :
    widthRegister chip (writeWidth chip value regs) = value := by
  unfold widthRegister writeWidth
  rw [plain]
  cases fixedUp chip <;> rfl

theorem dutyWithin_writeDuty (plain : chip.bw_mode = false) (cnt_duty count : Nat)
    (le : cnt_duty ≤ count) : DutyWithin chip (writeDuty chip cnt_duty regs) count := by
  unfold DutyWithin
  rw [plain]
  refine ⟨cnt_duty, le, ?_⟩
  unfold writeDuty writeThres thresRegister
  by_cases none : cnt_duty = 0
  · rw [if_pos none, if_neg (not_not.mpr none)]
    rfl
  · rw [if_neg none, if_pos none]
    cases fixedUp chip <;> exact ⟨rfl, rfl⟩

theorem pwm_mediatek_config_reaches (plain : chip.bw_mode = false)
    (ready : 0 ≤ chip.config_clk_enable) (roomy : Roomy chip.clk_rate 8191 ns)
    (reach : ¬ OutOfReach chip.clk_rate 8191 ns) (duty_ns : Int) :
    ∃ after clkdiv clksel count,
      pwm_mediatek_config chip duty_ns ns regs = .returns (after, 0) ∧
      Timed chip ns after clkdiv clksel count ∧
      roundedTick chip.clk_rate clkdiv clksel < 2 ^ 32 ∧
      ∀ duty : Nat, duty_ns = duty → duty ≤ ns → DutyWithin chip after count := by
  have limit : maxCount chip = 8191 := by simp [maxCount, plain]
  obtain ⟨divider, bounded, searching, fits, configured⟩ :=
    resolution_config_reaches regs roomy reach
  have fine := roomy.fine searching
  obtain ⟨cnt_duty, dutyTicks⟩ :=
    ticks_returns duty_ns divider.resolution (by omega) searching.narrow
  have periodTicks := ticks_eq ns divider.resolution roomy.short fine searching.narrow
  have counted := searching.counted
  refine ⟨writeDuty chip cnt_duty
      (writeWidth chip (BitVec.ofNat 32 (nearest (ns * 1000) divider.resolution - 1))
        { selectBusClock chip regs with con := control divider.clkdiv divider.clksel }),
    divider.clkdiv, divider.clksel, nearest (ns * 1000) divider.resolution, ?_, ?_, ?_, ?_⟩
  · rw [pwm_mediatek_config, if_neg (not_lt.mpr ready), configured, Outcome.bind_returns]
    simp only [periodTicks, dutyTicks, Outcome.bind_returns]
    rw [if_neg counted.ne']
  · refine timed_of_searching (limit ▸ roomy) (limit ▸ searching) bounded (limit ▸ fits) ?_ ?_
    · rw [writeDuty_con, writeWidth_con]
    · rw [widthRegister_writeDuty, widthRegister_writeWidth _ plain]
  · rw [← searching.resolution]
    exact searching.narrow
  · intro duty given le
    rw [given, ticks_eq duty divider.resolution (by have := roomy.short; omega) fine
      searching.narrow] at dutyTicks
    cases dutyTicks
    exact dutyWithin_writeDuty _ plain _ _ (nearest_mono _ _ _ (Nat.mul_le_mul_right _ le))

theorem thres_num_of_bw_mode (breathing : chip.bw_mode = true) :
    chip.soc.hw_breathing_light_thres_num = 32 := by
  apply chip.soc.thresholds
  intro none
  rw [Chip.bw_mode, if_neg (not_not.mpr none)] at breathing
  cases breathing

theorem pwm_mediatek_breathing_config_reaches (breathing : chip.bw_mode = true)
    (ready : 0 ≤ chip.config_clk_enable) (roomy : Roomy chip.clk_rate 255 (ns / 32))
    (reach : ¬ OutOfReach chip.clk_rate 255 (ns / 32)) (duty_ns : Int) :
    ∃ after clkdiv clksel count,
      pwm_mediatek_breathing_config chip duty_ns ns regs = .returns (after, 0) ∧
      Timed chip (ns / 32) after clkdiv clksel count ∧
      roundedTick chip.clk_rate clkdiv clksel < 2 ^ 32 ∧ DutyWithin chip after count := by
  have limit : maxCount chip = 255 := by simp [maxCount, breathing]
  have step : Int.tdiv (ns : Int) 32 = ((ns / 32 : Nat) : Int) := rfl
  obtain ⟨divider, bounded, searching, fits, configured⟩ :=
    resolution_config_reaches regs roomy reach
  have periodTicks := ticks_eq (ns / 32) divider.resolution roomy.short (roomy.fine searching)
    searching.narrow
  have counted := searching.counted
  obtain ⟨words, written, within⟩ := pwm_config_bl_thres_within fits
    { selectBusClock chip regs with
      con := control divider.clkdiv divider.clksel
      width := BitVec.ofNat 32 (nearest (ns / 32 * 1000) divider.resolution - 1) }
  refine ⟨pwm_mediatek_enable
      { selectBusClock chip regs with
        con := control divider.clkdiv divider.clksel
        width := BitVec.ofNat 32 (nearest (ns / 32 * 1000) divider.resolution - 1)
        breathing := words },
    divider.clkdiv, divider.clksel, nearest (ns / 32 * 1000) divider.resolution, ?_, ?_, ?_, ?_⟩
  · simp only [pwm_mediatek_breathing_config, thres_num_of_bw_mode breathing, step]
    rw [if_neg (by decide), if_neg (not_lt.mpr ready), configured, Outcome.bind_returns]
    simp only [periodTicks, Outcome.bind_returns, written]
    rw [if_neg counted.ne']
  · refine timed_of_searching (limit ▸ roomy) (limit ▸ searching) bounded (limit ▸ fits) rfl ?_
    rw [widthRegister, if_pos breathing]
    rfl
  · rw [← searching.resolution]
    exact searching.narrow
  · rw [DutyWithin, if_pos breathing]
    exact within

theorem configure_reaches (ready : 0 ≤ chip.config_clk_enable)
    (roomy : Roomy chip.clk_rate (maxCount chip) (periodOf chip ns))
    (reach : ¬ OutOfReach chip.clk_rate (maxCount chip) (periodOf chip ns)) (duty_ns : Int) :
    ∃ after clkdiv clksel count, configure chip duty_ns ns regs = .returns (after, 0) ∧
      Timed chip (periodOf chip ns) after clkdiv clksel count ∧
      roundedTick chip.clk_rate clkdiv clksel < 2 ^ 32 ∧
      ∀ duty : Nat, duty_ns = duty → duty ≤ ns → DutyWithin chip after count := by
  cases mode : chip.bw_mode with
  | false =>
    simp only [maxCount, periodOf, mode, Bool.false_eq_true, if_false] at roomy reach ⊢
    simp only [configure, mode, Bool.false_eq_true, if_false]
    exact pwm_mediatek_config_reaches regs mode ready roomy reach duty_ns
  | true =>
    simp only [maxCount, periodOf, mode, if_true] at roomy reach ⊢
    simp only [configure, mode, if_true]
    obtain ⟨after, clkdiv, clksel, count, run, timed, narrow, duty⟩ :=
      pwm_mediatek_breathing_config_reaches regs mode ready roomy reach duty_ns
    exact ⟨after, clkdiv, clksel, count, run, timed, narrow, fun _ _ _ => duty⟩

theorem configure_clk_fails (failed : chip.config_clk_enable < 0) (duty_ns period_ns : Int) :
    configure chip duty_ns period_ns regs = .returns (regs, chip.config_clk_enable) := by
  cases mode : chip.bw_mode with
  | false => simp [configure, mode, pwm_mediatek_config, failed]
  | true =>
    simp [configure, mode, pwm_mediatek_breathing_config, thres_num_of_bw_mode mode, failed]

theorem configure_refuses (ready : 0 ≤ chip.config_clk_enable)
    (roomy : Roomy chip.clk_rate (maxCount chip) (periodOf chip ns))
    (out : OutOfReach chip.clk_rate (maxCount chip) (periodOf chip ns)) (duty_ns : Int) :
    configure chip duty_ns ns regs = .returns (selectBusClock chip regs, -EINVAL) := by
  have step : Int.tdiv (ns : Int) 32 = ((ns / 32 : Nat) : Int) := rfl
  have refused := resolution_config_refuses regs roomy out
  cases mode : chip.bw_mode with
  | false =>
    simp only [maxCount, periodOf, mode, Bool.false_eq_true, if_false] at refused
    simp only [configure, mode, Bool.false_eq_true, if_false, pwm_mediatek_config]
    rw [if_neg (not_lt.mpr ready), refused, Outcome.bind_returns]
  | true =>
    simp only [maxCount, periodOf, mode, if_true] at refused
    simp only [configure, mode, if_true, pwm_mediatek_breathing_config,
      thres_num_of_bw_mode mode, step]
    rw [if_neg (by decide), if_neg (not_lt.mpr ready), refused, Outcome.bind_returns]

end Modes

section Cut

variable {chip : Chip} {regs : Registers}

variable {clkdiv clkdiv' : Nat} {clksel clksel' : Bool} {ns ns' count count' : Nat}

theorem control_inj (bounded : clkdiv ≤ PWM_CLK_DIV_MAX) (bounded' : clkdiv' ≤ PWM_CLK_DIV_MAX)
    (same : control clkdiv clksel = control clkdiv' clksel') :
    clkdiv = clkdiv' ∧ clksel = clksel' := by
  have distinct : ∀ (k k' : Fin 8) (s s' : Bool),
      control k s = control k' s' → k = k' ∧ s = s' := by
    decide
  have found := distinct ⟨clkdiv, Nat.lt_succ_of_le bounded⟩ ⟨clkdiv', Nat.lt_succ_of_le bounded'⟩
    clksel clksel' same
  exact ⟨congrArg Fin.val found.1, found.2⟩

theorem Timed.unique (left : Timed chip ns regs clkdiv clksel count)
    (right : Timed chip ns' regs clkdiv' clksel' count') :
    clkdiv = clkdiv' ∧ clksel = clksel' ∧ count = count' := by
  obtain ⟨sameDiv, sameSel⟩ := control_inj left.divider right.divider
    (left.control.symm.trans right.control)
  have sameWidth := congrArg BitVec.toNat (left.width.symm.trans right.width)
  have limit : maxCount chip ≤ 8191 := by
    unfold maxCount
    split <;> decide
  have := left.within
  have := left.counted
  have := right.within
  have := right.counted
  rw [BitVec.toNat_ofNat, BitVec.toNat_ofNat] at sameWidth
  exact ⟨sameDiv, sameSel, by omega⟩

theorem Timed.not_longer (positive : 0 < chip.clk_rate) (slow : chip.clk_rate ≤ 10 ^ 9)
    (timed : Timed chip ns regs clkdiv clksel count)
    (narrow : roundedTick chip.clk_rate clkdiv clksel < 2 ^ 32) (short : ns < 2 ^ 31)
    (longer : ns + 2 ^ 27 ≤ ns') : ¬ Timed chip ns' regs clkdiv' clksel' count' := by
  intro timed'
  obtain ⟨rfl, rfl, rfl⟩ := timed.unique timed'
  have lossy := tick_le chip.clk_rate clkdiv clksel positive slow
  have here := timed.accurate
  have there := timed'.accurate
  generalize tick chip.clk_rate clkdiv clksel = T at lossy here there
  generalize roundedTick chip.clk_rate clkdiv clksel = R at lossy here there narrow
  have counts : 1000 * (count * T) ≤ 1001 * (count * R) := by
    have := mul_le_mul_of_nonneg_left lossy (Nat.cast_nonneg count : (0 : ℚ) ≤ count)
    linarith
  have upper := (abs_le.mp here).2
  have lower := (abs_le.mp there).1
  rw [mul_sub] at upper lower
  have narrow' : (R : ℚ) < 2 ^ 32 := by exact_mod_cast narrow
  have short' : ((ns * 1000 : Nat) : ℚ) < 2 ^ 31 * 1000 := by
    exact_mod_cast Nat.mul_lt_mul_of_pos_right short (by decide)
  have longer' : ((ns * 1000 : Nat) : ℚ) + 2 ^ 27 * 1000 ≤ (ns' * 1000 : Nat) := by
    exact_mod_cast (Nat.add_mul ns (2 ^ 27) 1000).symm.le.trans (Nat.mul_le_mul_right _ longer)
  -- the count in picoseconds is close to the short period, hence far from the long one
  have counted : (count : ℚ) * R ≤ (ns * 1000 : Nat) + T / 2 := by linarith
  have reached : ((ns' * 1000 : Nat) : ℚ) ≤ 2 * (count * T) - count * R + T / 2 := by linarith
  linarith

end Cut

section Ends

variable (chip : Chip) (duty_ns period_ns : Int) (regs : Registers)

theorem resolution_config_ends (max_cnt_period : Nat) :
    pwm_mediatek_clk_resolution_config chip max_cnt_period period_ns regs ≠ .endless := by
  simp only [pwm_mediatek_clk_resolution_config]
  split
  · exact returns_ne_endless _
  · refine bind_ne_endless (do_div_ne_endless _ _) fun resolution _ => ?_
    refine bind_ne_endless (ticks_ne_endless _ _) fun cnt_period _ => ?_
    split
    · exact returns_ne_endless _
    · refine bind_ne_endless (search_ends _ _ _ _ _) fun divider _ => ?_
      split <;> exact returns_ne_endless _

theorem pwm_mediatek_config_ends : pwm_mediatek_config chip duty_ns period_ns regs ≠ .endless := by
  rw [pwm_mediatek_config]
  split
  · exact returns_ne_endless _
  · refine bind_ne_endless (resolution_config_ends chip period_ns regs _) fun configured _ => ?_
    split
    · exact returns_ne_endless _
    · refine bind_ne_endless (ticks_ne_endless _ _) fun cnt_period _ => ?_
      split
      · exact returns_ne_endless _
      · exact bind_ne_endless (ticks_ne_endless _ _) fun _ _ => returns_ne_endless _

theorem pwm_mediatek_breathing_config_ends :
    pwm_mediatek_breathing_config chip duty_ns period_ns regs ≠ .endless := by
  simp only [pwm_mediatek_breathing_config]
  split
  · exact undefined_ne_endless
  · split
    · exact returns_ne_endless _
    · refine bind_ne_endless (resolution_config_ends chip _ regs _) fun configured _ => ?_
      split
      · exact returns_ne_endless _
      · refine bind_ne_endless (ticks_ne_endless _ _) fun cnt_period _ => ?_
        split <;> exact returns_ne_endless _

theorem pwm_mediatek_apply_ends (was_enabled : Bool) (state : PwmState) :
    pwm_mediatek_apply chip was_enabled state regs ≠ .endless := by
  rw [pwm_mediatek_apply]
  split
  · exact returns_ne_endless _
  · split
    · exact returns_ne_endless _
    · refine bind_ne_endless ?_ fun configured _ => ?_
      · unfold configure
        split
        · exact pwm_mediatek_breathing_config_ends chip _ _ regs
        · exact pwm_mediatek_config_ends chip _ _ regs
      · split
        · exact returns_ne_endless _
        · split <;> exact returns_ne_endless _

end Ends

section Requests

variable {chip : Chip} {was_enabled : Bool} {state : PwmState} {regs : Registers}

/-- The low word of the period, which is all that the driver reads. -/
def lowWord (ns : BitVec 64) : Nat := ns.toNat % 2 ^ 32

variable {ns : BitVec 64}

theorem asInt_of_nonneg (nonneg : 0 ≤ asInt ns) : asInt ns = lowWord ns ∧ lowWord ns < 2 ^ 31 := by
  unfold asInt at nonneg ⊢
  rw [BitVec.toInt_setWidth] at nonneg ⊢
  unfold lowWord
  rw [Int.bmod_def] at nonneg ⊢
  split at nonneg <;> split <;> omega

theorem asInt_of_short (short : ns.toNat < 2 ^ 31) : asInt ns = ns.toNat := by
  unfold asInt
  rw [BitVec.toInt_setWidth]
  exact Int.bmod_eq_of_le (by omega) (by omega)

/-- Nothing is programmed: the request does not run the channel, the clocks fail, or the
low word of the period is out of the divider's reach. -/
def Declined (chip : Chip) (was_enabled : Bool) (state : PwmState) : Prop :=
  state.normal_polarity = false ∨ state.enabled = false ∨ chip.config_clk_enable < 0 ∨
    OutOfReach chip.clk_rate (maxCount chip) (periodOf chip (lowWord state.period)) ∨
    was_enabled = false ∧ chip.apply_clk_enable ≠ 0

theorem configure_low (low : 0 ≤ asInt state.period) :
    configure chip (asInt state.duty_cycle) (asInt state.period) regs =
      configure chip (asInt state.duty_cycle) (lowWord state.period) regs := by
  rw [(asInt_of_nonneg low).1]

theorem apply_programs (regs : Registers) (quick : 233 ≤ chip.clk_rate)
    (slow : chip.clk_rate ≤ 10 ^ 9) (low : 0 ≤ asInt state.period)
    (accepted : ¬ Declined chip was_enabled state) :
    ∃ after clkdiv clksel count,
      pwm_mediatek_apply chip was_enabled state regs = .returns (after, 0) ∧
      Timed chip (periodOf chip (lowWord state.period)) after clkdiv clksel count ∧
      roundedTick chip.clk_rate clkdiv clksel < 2 ^ 32 ∧
      ∀ duty : Nat, asInt state.duty_cycle = duty → duty ≤ lowWord state.period →
        DutyWithin chip after count := by
  obtain ⟨polarity, running, ready, reach, enabling⟩ :
      ¬ state.normal_polarity = false ∧ ¬ state.enabled = false ∧
        ¬ chip.config_clk_enable < 0 ∧
        ¬ OutOfReach chip.clk_rate (maxCount chip) (periodOf chip (lowWord state.period)) ∧
        ¬ (was_enabled = false ∧ chip.apply_clk_enable ≠ 0) := by
    simpa only [Declined, not_or] using accepted
  have short := (asInt_of_nonneg low).2
  obtain ⟨after, clkdiv, clksel, count, run, timed, narrow, duty⟩ :=
    configure_reaches regs (not_lt.mp ready) (roomy_of quick slow short) reach
      (asInt state.duty_cycle)
  refine ⟨after, clkdiv, clksel, count, ?_, timed, narrow, duty⟩
  rw [pwm_mediatek_apply, if_neg polarity, if_neg running, configure_low low, run,
    Outcome.bind_returns, if_neg (not_not.mpr rfl)]
  cases was_enabled with
  | true => rfl
  | false =>
    have clocked : chip.apply_clk_enable = 0 := by
      by_contra failed
      exact enabling ⟨rfl, failed⟩
    rw [if_neg Bool.false_ne_true, clocked]

theorem Declined.meets (quick : 233 ≤ chip.clk_rate) (slow : chip.clk_rate ≤ 10 ^ 9)
    (low : 0 ≤ asInt state.period) (declined : Declined chip was_enabled state) :
    Meets chip was_enabled state regs := by
  unfold Meets
  rw [pwm_mediatek_apply]
  by_cases polarity : state.normal_polarity = false
  · rw [if_pos polarity]
    exact ⟨_, _, rfl, fun ok => absurd ok (by decide)⟩
  by_cases running : state.enabled = false
  · rw [if_neg polarity, if_pos running]
    exact ⟨_, _, rfl, fun _ enabled => absurd (running.symm.trans enabled) (by decide)⟩
  rw [if_neg polarity, if_neg running, configure_low low]
  by_cases ready : chip.config_clk_enable < 0
  · rw [configure_clk_fails regs ready, Outcome.bind_returns, if_pos (by simp only; omega)]
    exact ⟨_, _, rfl, fun ok => absurd ok (by omega)⟩
  have roomy := roomy_of quick slow (asInt_of_nonneg low).2
  by_cases reach : OutOfReach chip.clk_rate (maxCount chip) (periodOf chip (lowWord state.period))
  · rw [configure_refuses regs (not_lt.mp ready) roomy reach, Outcome.bind_returns,
      if_pos (show (-EINVAL : Int) ≠ 0 by decide)]
    exact ⟨_, _, rfl, fun ok => absurd ok (by decide)⟩
  obtain ⟨off, failed⟩ : was_enabled = false ∧ chip.apply_clk_enable ≠ 0 := by
    obtain h | h | h | h | h := declined
    · exact absurd h polarity
    · exact absurd h running
    · exact absurd h ready
    · exact absurd h reach
    · exact h
  obtain ⟨after, clkdiv, clksel, count, run, -⟩ :=
    configure_reaches regs (not_lt.mp ready) roomy reach (asInt state.duty_cycle)
  rw [run, Outcome.bind_returns, if_neg (not_not.mpr rfl), off, if_neg Bool.false_ne_true]
  exact ⟨_, _, rfl, fun ok => absurd ok failed⟩

theorem periodOf_longer (low : 0 ≤ asInt state.period) (long : ¬ state.period.toNat < 2 ^ 31) :
    periodOf chip (lowWord state.period) + 2 ^ 27 ≤ periodOf chip state.period.toNat := by
  have short := (asInt_of_nonneg low).2
  unfold periodOf
  unfold lowWord at short ⊢
  split <;> omega

theorem meets_of_short (quick : 233 ≤ chip.clk_rate) (slow : chip.clk_rate ≤ 10 ^ 9)
    (short : state.period.toNat < 2 ^ 31)
    (duty : state.duty_cycle.toNat ≤ state.period.toNat) : Meets chip was_enabled state regs := by
  have low : 0 ≤ asInt state.period := by
    rw [asInt_of_short short]
    exact Int.natCast_nonneg _
  by_cases declined : Declined chip was_enabled state
  · exact declined.meets quick slow low
  · obtain ⟨after, clkdiv, clksel, count, run, timed, -, dutyWithin⟩ :=
      apply_programs regs quick slow low declined
    have whole : lowWord state.period = state.period.toNat := Nat.mod_eq_of_lt (by omega)
    rw [whole] at timed dutyWithin
    refine ⟨after, 0, run, fun _ _ => ⟨clkdiv, clksel, count, timed, ?_⟩⟩
    exact dutyWithin _ (asInt_of_short (by omega)) duty

theorem not_meets_of_long (quick : 233 ≤ chip.clk_rate) (slow : chip.clk_rate ≤ 10 ^ 9)
    (low : 0 ≤ asInt state.period) (long : ¬ state.period.toNat < 2 ^ 31)
    (accepted : ¬ Declined chip was_enabled state) : ¬ Meets chip was_enabled state regs := by
  rintro ⟨after', err, run', programmed⟩
  obtain ⟨after, clkdiv, clksel, count, run, timed, narrow, -⟩ :=
    apply_programs regs quick slow low accepted
  rw [run] at run'
  cases run'
  have enabled : state.enabled = true := by
    by_contra disabled
    exact accepted (Or.inr (Or.inl (Bool.eq_false_of_not_eq_true disabled)))
  obtain ⟨clkdiv', clksel', count', timed', -⟩ := programmed rfl enabled
  have short : periodOf chip (lowWord state.period) < 2 ^ 31 :=
    (roomy_of quick slow (asInt_of_nonneg low).2).short
  exact timed.not_longer (by omega) slow narrow short (periodOf_longer low long) timed'

end Requests

def firstChannel : Chip where
  soc := mt7987_pwm_data
  hwpwm := 0
  clk_rate := 26000000
  breathing_property := false
  config_clk_enable := 0
  apply_clk_enable := 0

def cleared : Registers where
  ck26mSel := 0
  con := 0
  width := 0
  thres := 0
  width45 := 0
  thres45 := 0
  breathing := fun _ => 0
  running := false

def halfDuty (period : BitVec 64) : PwmState where
  period := period
  duty_cycle := period / 2
  normal_polarity := true
  enabled := true

end OpenwrtSource.Pwm.Accuracy
