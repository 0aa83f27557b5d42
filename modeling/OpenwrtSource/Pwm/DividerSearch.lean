import OpenwrtSource.Lib.Selection
import OpenwrtSource.Pwm.Period
import Mathlib.Tactic.Ring

/-!
# The divider search

The loop always stops: eight rounds lead to the prescaler, and after thirty-two
doublings the low word of the resolution is empty.  While the resolution fits the
32-bit divisor of `do_div` the counts are the rounded quotients, and the search
settles on the first divider under which the period fits the counter.
-/

namespace OpenwrtSource.Pwm.DividerSearch
open Lib.Nearest Pwm.Period

variable {α : Type}

theorem returns_ne_endless (value : α) : Outcome.returns value ≠ .endless := nofun

theorem undefined_ne_endless : (Outcome.undefined : Outcome α) ≠ .endless := nofun

theorem bind_ne_endless {β : Type} {outcome : Outcome α} {next : α → Outcome β}
    (first : outcome ≠ .endless)
    (later : ∀ value, outcome = .returns value → next value ≠ .endless) :
    outcome.bind next ≠ .endless := by
  cases outcome with
  | endless => exact absurd rfl first
  | undefined => exact undefined_ne_endless
  | returns value => exact later value rfl

theorem do_div_ne_endless (n base : Nat) : do_div n base ≠ .endless := by
  unfold do_div
  split
  · exact undefined_ne_endless
  · exact returns_ne_endless _

theorem ticks_ne_endless (ns : Int) (resolution : Nat) : ticks ns resolution ≠ .endless :=
  bind_ne_endless (do_div_ne_endless _ _) fun _ _ => returns_ne_endless _

theorem ticks_undefined (ns : Int) (resolution : Nat) (empty : 2 ^ 32 ∣ resolution) :
    ticks ns resolution = .undefined := by
  have noDivisor : resolution % 2 ^ 32 = 0 := Nat.mod_eq_zero_of_dvd empty
  simp only [ticks, DIV_ROUND_CLOSEST_ULL, do_div, if_pos noDivisor, Outcome.bind]

variable (clk_rate : Nat) (divider : Divider)

theorem slow_down_ne_endless : slow_down clk_rate divider ≠ .endless := by
  unfold slow_down
  split
  · exact bind_ne_endless (do_div_ne_endless _ _) fun _ _ => returns_ne_endless _
  · exact returns_ne_endless _

theorem slow_down_double (room : divider.clkdiv < PWM_CLK_DIV_MAX ∨ divider.clksel = true) :
    slow_down clk_rate divider = .returns
      { divider with
        resolution := divider.resolution * 2 % 2 ^ 64
        clkdiv := divider.clkdiv + 1 } := by
  unfold slow_down
  rw [if_neg]
  rintro ⟨full, plain⟩
  obtain below | selected := room
  · omega
  · rw [plain] at selected
    cases selected

theorem slow_down_restart (full : divider.clkdiv = PWM_CLK_DIV_MAX)
    (plain : divider.clksel = false) :
    slow_down clk_rate divider = (do_div (NSEC_PER_SEC * 1000 * 1625) clk_rate).bind
      fun resolution => .returns { resolution, clkdiv := 0, clksel := true } := by
  unfold slow_down
  rw [if_pos]
  exact ⟨by omega, plain⟩

section Termination

variable (clk_rate max_cnt_period : Nat) (period_ns : Int)

theorem search_selected_ends (fuel : Nat) (divider : Divider) (cnt_period bits : Nat)
    (selected : divider.clksel = true) (shifted : 2 ^ bits ∣ divider.resolution)
    (few : bits < 32) (enough : 32 ≤ fuel + bits) :
    search clk_rate max_cnt_period period_ns fuel divider cnt_period ≠ .endless := by
  induction fuel generalizing divider cnt_period bits with
  | zero => omega
  | succ fuel ih =>
    unfold search
    split
    · exact returns_ne_endless _
    · rw [slow_down_double clk_rate divider (Or.inr selected), Outcome.bind_returns]
      have shifted' : 2 ^ (bits + 1) ∣ divider.resolution * 2 % 2 ^ 64 := by
        refine (Nat.dvd_mod_iff (Nat.pow_dvd_pow 2 (by omega))).mpr ?_
        exact Nat.mul_dvd_mul shifted (dvd_refl 2)
      by_cases last : bits + 1 = 32
      · rw [last] at shifted'
        rw [ticks_undefined period_ns _ shifted']
        exact undefined_ne_endless
      · refine bind_ne_endless (ticks_ne_endless _ _) fun recounted _ => ?_
        exact ih _ recounted (bits + 1) selected shifted' (by omega) (by omega)

theorem search_plain_ends (fuel : Nat) (divider : Divider) (cnt_period : Nat)
    (plain : divider.clksel = false) (bounded : divider.clkdiv ≤ PWM_CLK_DIV_MAX)
    (enough : 40 ≤ fuel + divider.clkdiv) :
    search clk_rate max_cnt_period period_ns fuel divider cnt_period ≠ .endless := by
  have seven : PWM_CLK_DIV_MAX = 7 := rfl
  induction fuel generalizing divider cnt_period with
  | zero => omega
  | succ fuel ih =>
    unfold search
    split
    · exact returns_ne_endless _
    · by_cases full : divider.clkdiv = PWM_CLK_DIV_MAX
      · refine bind_ne_endless (slow_down_ne_endless _ _) fun slower restarted => ?_
        refine bind_ne_endless (ticks_ne_endless _ _) fun recounted _ => ?_
        have selected : slower.clksel = true := by
          rw [slow_down_restart clk_rate divider full plain] at restarted
          cases division : do_div (NSEC_PER_SEC * 1000 * 1625) clk_rate with
          | endless => rw [division] at restarted; cases restarted
          | undefined => rw [division] at restarted; cases restarted
          | returns resolution => rw [division] at restarted; cases restarted; rfl
        exact search_selected_ends clk_rate max_cnt_period period_ns fuel slower recounted 0
          selected (by simp) (by decide) (by omega)
      · have below : divider.clkdiv < PWM_CLK_DIV_MAX := by omega
        rw [slow_down_double clk_rate divider (Or.inl below), Outcome.bind_returns]
        refine bind_ne_endless (ticks_ne_endless _ _) fun recounted _ => ?_
        exact ih _ recounted plain below (by simp only; omega)

theorem search_ends (resolution cnt_period : Nat) :
    search clk_rate max_cnt_period period_ns searchFuel
      { resolution, clkdiv := 0, clksel := false } cnt_period ≠ .endless :=
  search_plain_ends clk_rate max_cnt_period period_ns searchFuel _ cnt_period rfl
    (Nat.zero_le _) (by simp only [searchFuel]; omega)

end Termination

theorem ticks_eq (ns resolution : Nat) (short : ns < 2 ^ 31) (fine : 1000 ≤ resolution)
    (narrow : resolution < 2 ^ 32) :
    ticks ns resolution = .returns (nearest (ns * 1000) resolution) := by
  have exact_ps : picoseconds ns = ns * 1000 := by
    unfold picoseconds
    omega
  have divisor : resolution % 2 ^ 32 = resolution := Nat.mod_eq_of_lt narrow
  have dividend : (ns * 1000 + resolution / 2) % 2 ^ 64 = ns * 1000 + resolution / 2 := by
    apply Nat.mod_eq_of_lt
    omega
  have quotient : nearest (ns * 1000) resolution < 2 ^ 32 := by
    rw [← Nat.le_sub_one_iff_lt (by decide), nearest_le_iff _ _ _ (by omega)]
    omega
  simp only [ticks, DIV_ROUND_CLOSEST_ULL, do_div, exact_ps, divisor, dividend]
  rw [if_neg (show ¬ resolution = 0 by omega), Outcome.bind_returns]
  rw [show (ns * 1000 + resolution / 2) / resolution = nearest (ns * 1000) resolution from rfl,
    Nat.mod_eq_of_lt quotient]

def prescaler (clksel : Bool) : Nat := if clksel then 1625 else 1

/-- The tick of a divider setting in whole picoseconds, as the driver rounds it. -/
def roundedTick (clk_rate clkdiv : Nat) (clksel : Bool) : Nat :=
  2 ^ clkdiv * (10 ^ 12 * prescaler clksel / clk_rate)

theorem roundedTick_succ (clkdiv : Nat) (clksel : Bool) :
    roundedTick clk_rate (clkdiv + 1) clksel = roundedTick clk_rate clkdiv clksel * 2 := by
  unfold roundedTick
  rw [Nat.pow_succ, Nat.mul_right_comm]

theorem plainTick_eq : roundedTick clk_rate 0 false = 10 ^ 12 / clk_rate := by
  simp [roundedTick, prescaler]

theorem le_roundedTick (clkdiv : Nat) (clksel : Bool) (positive : 0 < clk_rate)
    (slow : clk_rate ≤ 10 ^ 9) : 1000 ≤ roundedTick clk_rate clkdiv clksel := by
  have prescaled : 1 ≤ prescaler clksel := by
    cases clksel <;> decide
  have undivided : 1000 ≤ 10 ^ 12 * prescaler clksel / clk_rate := by
    rw [Nat.le_div_iff_mul_le positive]
    calc 1000 * clk_rate ≤ 1000 * 10 ^ 9 := Nat.mul_le_mul_left _ slow
      _ = 10 ^ 12 * 1 := rfl
      _ ≤ 10 ^ 12 * prescaler clksel := Nat.mul_le_mul_left _ prescaled
  calc 1000 ≤ 10 ^ 12 * prescaler clksel / clk_rate := undivided
    _ = 1 * (10 ^ 12 * prescaler clksel / clk_rate) := (Nat.one_mul _).symm
    _ ≤ 2 ^ clkdiv * (10 ^ 12 * prescaler clksel / clk_rate) :=
        Nat.mul_le_mul_right _ Nat.one_le_two_pow

section InRange

variable {clk_rate max_cnt_period ns : Nat}

/-- The clock and the period leave room: the resolution never outgrows a `u32`. -/
structure Roomy (clk_rate max_cnt_period ns : Nat) : Prop where
  quick : 233 ≤ clk_rate
  slow : clk_rate ≤ 10 ^ 9
  short : ns < 2 ^ 31
  deep : 255 ≤ max_cnt_period
  covered : 2 * (ns * 1000) < (2 * max_cnt_period + 1) * 2 ^ 28

structure Searching (clk_rate max_cnt_period ns : Nat) (divider : Divider) : Prop where
  resolution : divider.resolution = roundedTick clk_rate divider.clkdiv divider.clksel
  narrow : divider.resolution < 2 ^ 32
  bounded : divider.clksel = false → divider.clkdiv ≤ PWM_CLK_DIV_MAX
  counted : 0 < nearest (ns * 1000) divider.resolution
  passed : PWM_CLK_DIV_MAX < divider.clkdiv →
    max_cnt_period < nearest (ns * 1000) (roundedTick clk_rate PWM_CLK_DIV_MAX true)

variable {divider : Divider} {resolution : Nat}

theorem Roomy.fine (roomy : Roomy clk_rate max_cnt_period ns)
    (searching : Searching clk_rate max_cnt_period ns divider) : 1000 ≤ divider.resolution := by
  rw [searching.resolution]
  have := roomy.quick
  exact le_roundedTick _ _ _ (by omega) roomy.slow

theorem resolution_of_exceeded (positive : 0 < resolution)
    (exceeded : max_cnt_period < nearest (ns * 1000) resolution) :
    (2 * max_cnt_period + 1) * resolution ≤ 2 * (ns * 1000) := by
  have counted : (max_cnt_period + 1) * resolution ≤ ns * 1000 + resolution / 2 := by
    by_contra small
    have within := (nearest_le_iff _ _ _ positive).mpr (Nat.lt_of_not_le small)
    omega
  rw [Nat.succ_mul] at counted ⊢
  rw [Nat.mul_assoc]
  omega

theorem Roomy.narrow_of_exceeded (roomy : Roomy clk_rate max_cnt_period ns)
    (positive : 0 < resolution) (exceeded : max_cnt_period < nearest (ns * 1000) resolution) :
    resolution < 2 ^ 28 := by
  have bounded := resolution_of_exceeded positive exceeded
  have covered := roomy.covered
  by_contra wide
  have grown : (2 * max_cnt_period + 1) * 2 ^ 28 ≤ (2 * max_cnt_period + 1) * resolution :=
    Nat.mul_le_mul_left _ (by omega)
  omega

theorem Roomy.counted_of_exceeded (roomy : Roomy clk_rate max_cnt_period ns) {slower : Nat}
    (positive : 0 < resolution) (exceeded : max_cnt_period < nearest (ns * 1000) resolution)
    (nonzero : 0 < slower) (near : slower ≤ 14 * resolution) : 0 < nearest (ns * 1000) slower := by
  have bounded := resolution_of_exceeded positive exceeded
  have deep := roomy.deep
  have many : 511 * resolution ≤ (2 * max_cnt_period + 1) * resolution :=
    Nat.mul_le_mul_right _ (by omega)
  by_contra uncounted
  have less := (nearest_eq_zero_iff (ns * 1000) slower nonzero).mp
    (Nat.eq_zero_of_not_pos uncounted)
  omega

theorem prescaled_lt_mul (positive : 0 < clk_rate) :
    10 ^ 12 * 1625 / clk_rate < 1625 * (10 ^ 12 / clk_rate + 1) := by
  rw [Nat.div_lt_iff_lt_mul positive]
  calc 10 ^ 12 * 1625 < clk_rate * (10 ^ 12 / clk_rate + 1) * 1625 :=
        Nat.mul_lt_mul_of_pos_right (Nat.lt_mul_div_succ _ positive) (by decide)
    _ = 1625 * (10 ^ 12 / clk_rate + 1) * clk_rate := by ring

theorem prescaled_le (positive : 0 < clk_rate) (slow : clk_rate ≤ 10 ^ 9) :
    10 ^ 12 * 1625 / clk_rate ≤ 14 * roundedTick clk_rate PWM_CLK_DIV_MAX false := by
  have plain : roundedTick clk_rate PWM_CLK_DIV_MAX false = 128 * (10 ^ 12 / clk_rate) := rfl
  have undivided : 1000 ≤ 10 ^ 12 / clk_rate := by
    rw [← plainTick_eq]
    exact le_roundedTick clk_rate 0 false positive slow
  have prescaled := prescaled_lt_mul positive
  rw [plain]
  omega

theorem prescaled_lt (positive : 0 < clk_rate)
    (coarse : roundedTick clk_rate PWM_CLK_DIV_MAX false < 2 ^ 28) :
    10 ^ 12 * 1625 / clk_rate < 2 ^ 32 := by
  have plain : roundedTick clk_rate PWM_CLK_DIV_MAX false = 128 * (10 ^ 12 / clk_rate) := rfl
  have prescaled := prescaled_lt_mul positive
  rw [plain] at coarse
  omega

theorem doubled_searching (roomy : Roomy clk_rate max_cnt_period ns)
    (searching : Searching clk_rate max_cnt_period ns divider)
    (exceeded : max_cnt_period < nearest (ns * 1000) divider.resolution)
    (room : divider.clkdiv < PWM_CLK_DIV_MAX ∨ divider.clksel = true) :
    Searching clk_rate max_cnt_period ns
      { divider with
        resolution := divider.resolution * 2 % 2 ^ 64
        clkdiv := divider.clkdiv + 1 } := by
  have fine := roomy.fine searching
  have spare := roomy.narrow_of_exceeded (by omega) exceeded
  have doubled : divider.resolution * 2 % 2 ^ 64 = divider.resolution * 2 := by omega
  rw [doubled]
  constructor
  · rw [roundedTick_succ, ← searching.resolution]
  · show divider.resolution * 2 < 2 ^ 32
    omega
  · intro plain
    obtain below | selected := room
    · exact below
    · rw [show divider.clksel = false from plain] at selected
      cases selected
  · exact roomy.counted_of_exceeded (by omega) exceeded
      (show 0 < divider.resolution * 2 by omega)
      (show divider.resolution * 2 ≤ 14 * divider.resolution by omega)
  · intro beyond
    by_cases last : divider.clkdiv = PWM_CLK_DIV_MAX
    · obtain below | selected := room
      · omega
      · rw [searching.resolution, last, selected] at exceeded
        exact exceeded
    · exact searching.passed (by simp only at beyond; omega)

theorem restarted_searching (roomy : Roomy clk_rate max_cnt_period ns)
    (searching : Searching clk_rate max_cnt_period ns divider)
    (exceeded : max_cnt_period < nearest (ns * 1000) divider.resolution)
    (full : divider.clkdiv = PWM_CLK_DIV_MAX) (plain : divider.clksel = false) :
    Searching clk_rate max_cnt_period ns
      { resolution := 10 ^ 12 * 1625 / clk_rate, clkdiv := 0, clksel := true } := by
  have quick := roomy.quick
  have fine := roomy.fine searching
  have spare := roomy.narrow_of_exceeded (by omega) exceeded
  have coarse : divider.resolution = roundedTick clk_rate PWM_CLK_DIV_MAX false := by
    rw [← plain, ← full]
    exact searching.resolution
  have prescaled : roundedTick clk_rate 0 true = 10 ^ 12 * 1625 / clk_rate := by
    simp [roundedTick, prescaler]
  have nonzero := le_roundedTick clk_rate 0 true (by omega) roomy.slow
  rw [prescaled] at nonzero
  constructor
  · exact prescaled.symm
  · exact prescaled_lt (by omega) (coarse ▸ spare)
  · intro selected
    cases selected
  · refine roomy.counted_of_exceeded (by omega) exceeded
      (show 0 < 10 ^ 12 * 1625 / clk_rate by omega) ?_
    rw [coarse]
    exact prescaled_le (by omega) roomy.slow
  · intro beyond
    cases beyond

theorem slow_down_searching (roomy : Roomy clk_rate max_cnt_period ns)
    (searching : Searching clk_rate max_cnt_period ns divider)
    (exceeded : max_cnt_period < nearest (ns * 1000) divider.resolution) :
    ∃ slower, slow_down clk_rate divider = .returns slower ∧
      Searching clk_rate max_cnt_period ns slower := by
  by_cases room : divider.clkdiv < PWM_CLK_DIV_MAX ∨ divider.clksel = true
  · exact ⟨_, slow_down_double clk_rate divider room,
      doubled_searching roomy searching exceeded room⟩
  · have plain : divider.clksel = false := by
      cases sel : divider.clksel with
      | false => rfl
      | true => exact absurd (Or.inr sel) room
    have full : divider.clkdiv = PWM_CLK_DIV_MAX :=
      Nat.le_antisymm (searching.bounded plain) (Nat.le_of_not_lt fun below => room (Or.inl below))
    refine ⟨_, ?_, restarted_searching roomy searching exceeded full plain⟩
    have quick := roomy.quick
    have slow := roomy.slow
    have rate : clk_rate % 2 ^ 32 = clk_rate := by omega
    rw [slow_down_restart clk_rate divider full plain]
    simp only [do_div, rate]
    rw [if_neg (show ¬ clk_rate = 0 by omega), Outcome.bind_returns]
    rfl

theorem search_settles (roomy : Roomy clk_rate max_cnt_period ns) (fuel : Nat)
    (divider : Divider) (searching : Searching clk_rate max_cnt_period ns divider)
    (ends : search clk_rate max_cnt_period ns fuel divider
      (nearest (ns * 1000) divider.resolution) ≠ .endless) :
    ∃ settled, search clk_rate max_cnt_period ns fuel divider
        (nearest (ns * 1000) divider.resolution) = .returns settled ∧
      Searching clk_rate max_cnt_period ns settled ∧
      nearest (ns * 1000) settled.resolution ≤ max_cnt_period := by
  induction fuel generalizing divider with
  | zero => exact absurd rfl ends
  | succ fuel ih =>
    rw [search] at ends ⊢
    by_cases fits : nearest (ns * 1000) divider.resolution ≤ max_cnt_period
    · rw [if_pos fits]
      exact ⟨divider, rfl, searching, fits⟩
    · obtain ⟨slower, step, searching'⟩ :=
        slow_down_searching roomy searching (Nat.lt_of_not_le fits)
      have recount := ticks_eq ns slower.resolution roomy.short (roomy.fine searching')
        searching'.narrow
      rw [if_neg fits, step, Outcome.bind_returns, recount, Outcome.bind_returns] at ends ⊢
      exact ih slower searching' ends

/-- The period is less than half a tick, or overruns the counter in the coarsest ticks. -/
def OutOfReach (clk_rate max_cnt_period ns : Nat) : Prop :=
  nearest (ns * 1000) (roundedTick clk_rate 0 false) = 0 ∨
    max_cnt_period < nearest (ns * 1000) (roundedTick clk_rate PWM_CLK_DIV_MAX true)

theorem roundedTick_le (clkdiv : Nat) (clksel : Bool) (bounded : clkdiv ≤ PWM_CLK_DIV_MAX) :
    roundedTick clk_rate clkdiv clksel ≤ roundedTick clk_rate PWM_CLK_DIV_MAX true := by
  have scaled : 10 ^ 12 * prescaler clksel ≤ 10 ^ 12 * prescaler true := by
    cases clksel <;> decide
  exact Nat.mul_le_mul (Nat.pow_le_pow_right (by decide) bounded) (Nat.div_le_div_right scaled)

theorem Roomy.plainTick_lt (roomy : Roomy clk_rate max_cnt_period ns) :
    roundedTick clk_rate 0 false < 2 ^ 32 := by
  have quick := roomy.quick
  rw [plainTick_eq, Nat.div_lt_iff_lt_mul (by omega)]
  omega

theorem start_searching (roomy : Roomy clk_rate max_cnt_period ns)
    (counted : nearest (ns * 1000) (roundedTick clk_rate 0 false) ≠ 0) :
    Searching clk_rate max_cnt_period ns
      { resolution := roundedTick clk_rate 0 false, clkdiv := 0, clksel := false } where
  resolution := rfl
  narrow := roomy.plainTick_lt
  bounded _ := Nat.zero_le _
  counted := Nat.pos_of_ne_zero counted
  passed beyond := by cases beyond

theorem settled_exceeds_iff (roomy : Roomy clk_rate max_cnt_period ns) {settled : Divider}
    (searching : Searching clk_rate max_cnt_period ns settled)
    (fits : nearest (ns * 1000) settled.resolution ≤ max_cnt_period) :
    PWM_CLK_DIV_MAX < settled.clkdiv ↔
      max_cnt_period < nearest (ns * 1000) (roundedTick clk_rate PWM_CLK_DIV_MAX true) := by
  constructor
  · exact searching.passed
  · intro long
    by_contra bounded
    have coarser : settled.resolution ≤ roundedTick clk_rate PWM_CLK_DIV_MAX true := by
      rw [searching.resolution]
      exact roundedTick_le _ _ (Nat.le_of_not_lt bounded)
    have fine := roomy.fine searching
    have fewer := nearest_antitone (ns * 1000) _ _ (show 0 < settled.resolution by omega) coarser
    omega

section Config

variable {chip : Chip} (regs : Registers)

theorem resolution_config_eq (roomy : Roomy chip.clk_rate max_cnt_period ns) :
    pwm_mediatek_clk_resolution_config chip max_cnt_period ns regs =
      if nearest (ns * 1000) (roundedTick chip.clk_rate 0 false) = 0 then
        .returns (selectBusClock chip regs, .error (-EINVAL))
      else
        (search chip.clk_rate max_cnt_period ns searchFuel
            { resolution := roundedTick chip.clk_rate 0 false, clkdiv := 0, clksel := false }
            (nearest (ns * 1000) (roundedTick chip.clk_rate 0 false))).bind fun divider =>
          if PWM_CLK_DIV_MAX < divider.clkdiv then
            .returns (selectBusClock chip regs, .error (-EINVAL))
          else
            .returns
              ({ selectBusClock chip regs with con := control divider.clkdiv divider.clksel },
                .ok divider.resolution) := by
  have quick := roomy.quick
  have slow := roomy.slow
  have rate : chip.clk_rate % 2 ^ 32 = chip.clk_rate := by omega
  have undivided : do_div (NSEC_PER_SEC * 1000) chip.clk_rate =
      .returns (roundedTick chip.clk_rate 0 false) := by
    rw [plainTick_eq]
    simp only [do_div, rate]
    rw [if_neg (show ¬ chip.clk_rate = 0 by omega)]
    rfl
  have recount := ticks_eq ns (roundedTick chip.clk_rate 0 false) roomy.short
    (le_roundedTick _ _ _ (by omega) slow) roomy.plainTick_lt
  simp only [pwm_mediatek_clk_resolution_config]
  rw [if_neg (show ¬ chip.clk_rate = 0 by omega), undivided, Outcome.bind_returns, recount,
    Outcome.bind_returns]

theorem resolution_config_reaches (roomy : Roomy chip.clk_rate max_cnt_period ns)
    (reach : ¬ OutOfReach chip.clk_rate max_cnt_period ns) :
    ∃ divider, divider.clkdiv ≤ PWM_CLK_DIV_MAX ∧
      Searching chip.clk_rate max_cnt_period ns divider ∧
      nearest (ns * 1000) divider.resolution ≤ max_cnt_period ∧
      pwm_mediatek_clk_resolution_config chip max_cnt_period ns regs =
        .returns ({ selectBusClock chip regs with con := control divider.clkdiv divider.clksel },
          .ok divider.resolution) := by
  have counted := fun short => reach (Or.inl short)
  obtain ⟨settled, found, searching, fits⟩ := search_settles roomy searchFuel _
    (start_searching roomy counted) (search_ends _ _ _ _ _)
  have bounded : ¬ PWM_CLK_DIV_MAX < settled.clkdiv := fun beyond =>
    reach (Or.inr ((settled_exceeds_iff roomy searching fits).mp beyond))
  refine ⟨settled, Nat.le_of_not_lt bounded, searching, fits, ?_⟩
  rw [resolution_config_eq regs roomy, if_neg counted, found, Outcome.bind_returns, if_neg bounded]

theorem resolution_config_refuses (roomy : Roomy chip.clk_rate max_cnt_period ns)
    (out : OutOfReach chip.clk_rate max_cnt_period ns) :
    pwm_mediatek_clk_resolution_config chip max_cnt_period ns regs =
      .returns (selectBusClock chip regs, .error (-EINVAL)) := by
  rw [resolution_config_eq regs roomy]
  by_cases counted : nearest (ns * 1000) (roundedTick chip.clk_rate 0 false) = 0
  · rw [if_pos counted]
  · obtain ⟨settled, found, searching, fits⟩ := search_settles roomy searchFuel _
      (start_searching roomy counted) (search_ends _ _ _ _ _)
    have beyond := (settled_exceeds_iff roomy searching fits).mpr (out.resolve_left counted)
    rw [if_neg counted, found, Outcome.bind_returns, if_pos beyond]

end Config

end InRange

end OpenwrtSource.Pwm.DividerSearch
