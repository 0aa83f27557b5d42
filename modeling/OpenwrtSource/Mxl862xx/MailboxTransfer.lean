import Mathlib.Tactic.SplitIfs
import OpenwrtSource.Mxl862xx.Mailbox

/-!
# Transfers through the mailbox

When a call succeeds, and what it has done then.  Each access is either good in all its MDIO
accesses, or it fails and is the last one, unless it writes a data register.
-/

namespace OpenwrtSource.Mxl862xx.MailboxTransfer

open Mxl862xx.Mailbox

/-! ## Register accesses -/

def accesses (env : Env) : Nat := if env.c22Extended then 4 else 1

def Ok (env : Env) (place : Place) : Prop := ∀ k < accesses env, env.fails place k = false

variable {env : Env} {place : Place} {bus : Bus}

variable {k : Nat} {stage : Stage} {left number i : Nat}

theorem tryWrite_good {effect : Bus → Bus} (good : env.fails place k = false) :
    tryWrite env place k bus effect = (true, effect bus) := by
  unfold tryWrite
  rw [good]
  rfl

theorem tryWrite_bad (bus : Bus) (effect : Bus → Bus) (bad : env.fails place k = true) :
    ∃ after, tryWrite env place k bus effect = (false, { after with failed := true }) ∧
      (after = bus ∨ after = effect bus) := by
  unfold tryWrite
  rw [bad]
  cases env.lands place k with
  | false => exact ⟨bus, rfl, .inl rfl⟩
  | true => exact ⟨effect bus, rfl, .inr rfl⟩

theorem c22Effect_ctrl (bus : Bus) (val : Word) :
    c22Effect env place bus MXL862XX_MMD_CTRL val = { bus with mmdCtrl := val } :=
  if_pos rfl

theorem c22Effect_address (bus : Bus) (val : Word)
    (mode : bus.mmdCtrl &&& MXL862XX_ACTYPE_DATA = 0) :
    c22Effect env place bus MXL862XX_MMD_DATA val = { bus with mmdAddr := val } := by
  unfold c22Effect
  rw [if_neg (by decide), if_pos mode]

theorem c22Effect_data (bus : Bus) (val : Word)
    (mode : bus.mmdCtrl = MXL862XX_ACTYPE_DATA ||| MXL862XX_MMD_DEV) :
    c22Effect env place bus MXL862XX_MMD_DATA val =
      { bus with switch := regWrite env place bus.switch bus.mmdAddr val } := by
  unfold c22Effect
  rw [mode, if_neg (by decide), if_neg (by decide), if_pos (by decide)]

theorem addressMode : MXL862XX_MMD_DEV &&& MXL862XX_ACTYPE_DATA = 0 := by decide

theorem select_good (bus : Bus) (reg : Word) (good : ∀ k < 3, env.fails place k = false) :
    c22Select env place bus MXL862XX_MMD_DEV reg =
      (true, { bus with mmdCtrl := MXL862XX_ACTYPE_DATA ||| MXL862XX_MMD_DEV, mmdAddr := reg }) := by
  unfold c22Select mdiobusWrite
  rw [tryWrite_good (good 0 (by decide)), c22Effect_ctrl]
  dsimp only
  rw [tryWrite_good (good 1 (by decide)), c22Effect_address _ _ addressMode]
  dsimp only
  rw [tryWrite_good (good 2 (by decide)), c22Effect_ctrl]

theorem select_bad (bus : Bus) (reg : Word) (bad : ¬ ∀ k < 3, env.fails place k = false) :
    ∃ after, c22Select env place bus MXL862XX_MMD_DEV reg = (false, after) ∧
      after.switch = bus.switch ∧ after.failed = true := by
  unfold c22Select mdiobusWrite
  cases first : env.fails place 0 with
  | true =>
    obtain ⟨after, result, left⟩ := tryWrite_bad bus
      (fun b => c22Effect env place b MXL862XX_MMD_CTRL MXL862XX_MMD_DEV) first
    rw [result]
    rw [c22Effect_ctrl] at left
    refine ⟨_, rfl, ?_, rfl⟩
    rcases left with rfl | rfl <;> rfl
  | false =>
    rw [tryWrite_good first, c22Effect_ctrl]
    dsimp only
    cases second : env.fails place 1 with
    | true =>
      obtain ⟨after, result, left⟩ := tryWrite_bad { bus with mmdCtrl := MXL862XX_MMD_DEV }
        (fun b => c22Effect env place b MXL862XX_MMD_DATA reg) second
      rw [result]
      rw [c22Effect_address _ _ addressMode] at left
      refine ⟨_, rfl, ?_, rfl⟩
      rcases left with rfl | rfl <;> rfl
    | false =>
      have third : env.fails place 2 = true := by
        by_contra good
        refine bad fun k below => ?_
        obtain rfl | rfl | rfl : k = 0 ∨ k = 1 ∨ k = 2 := by omega
        · exact first
        · exact second
        · exact Bool.eq_false_of_not_eq_true good
      rw [tryWrite_good second, c22Effect_address _ _ addressMode]
      dsimp only
      obtain ⟨after, result, left⟩ := tryWrite_bad
        { bus with mmdCtrl := MXL862XX_MMD_DEV, mmdAddr := reg }
        (fun b => c22Effect env place b MXL862XX_MMD_CTRL
          (MXL862XX_ACTYPE_DATA ||| MXL862XX_MMD_DEV)) third
      rw [result]
      rw [c22Effect_ctrl] at left
      refine ⟨_, rfl, ?_, rfl⟩
      rcases left with rfl | rfl <;> rfl

theorem ok_c22 (mode : env.c22Extended = true) :
    Ok env place ↔ (∀ k < 3, env.fails place k = false) ∧ env.fails place 3 = false := by
  unfold Ok accesses
  rw [if_pos mode]
  constructor
  · intro good
    exact ⟨fun k below => good k (by omega), good 3 (by decide)⟩
  · rintro ⟨first, last⟩ k below
    by_cases final : k = 3
    · rw [final]
      exact last
    · exact first k (by omega)

theorem ok_c45 (mode : ¬ env.c22Extended = true) : Ok env place ↔ env.fails place 0 = false := by
  unfold Ok accesses
  rw [if_neg mode]
  constructor
  · exact fun good => good 0 (by decide)
  · intro good k below
    rw [show k = 0 by omega]
    exact good

theorem write_good (bus : Bus) (addr data : Word) (good : Ok env place) :
    ∃ after, mxl862xxWrite env place bus addr data = (true, after) ∧
      after.switch = regWrite env place bus.switch addr data ∧ after.failed = bus.failed := by
  unfold mxl862xxWrite
  by_cases mode : env.c22Extended = true
  · obtain ⟨selects, last⟩ := (ok_c22 mode).mp good
    rw [if_pos mode]
    unfold mxl862xxC22ExtMmdWrite
    rw [select_good bus addr selects]
    dsimp only [mdiobusWrite]
    rw [tryWrite_good last, c22Effect_data _ _ rfl]
    exact ⟨_, rfl, rfl, rfl⟩
  · rw [if_neg mode, tryWrite_good ((ok_c45 mode).mp good)]
    exact ⟨_, rfl, rfl, rfl⟩

theorem write_bad (bus : Bus) (addr data : Word) (bad : ¬ Ok env place) :
    ∃ after, mxl862xxWrite env place bus addr data = (false, after) ∧ after.failed = true ∧
      (after.switch = bus.switch ∨ after.switch = regWrite env place bus.switch addr data) := by
  unfold mxl862xxWrite
  by_cases mode : env.c22Extended = true
  · rw [if_pos mode]
    unfold mxl862xxC22ExtMmdWrite
    by_cases selects : ∀ k < 3, env.fails place k = false
    · have last : env.fails place 3 = true := by
        by_contra fine
        exact bad ((ok_c22 mode).mpr ⟨selects, Bool.eq_false_of_not_eq_true fine⟩)
      rw [select_good bus addr selects]
      dsimp only [mdiobusWrite]
      obtain ⟨after, result, left⟩ := tryWrite_bad
        { bus with mmdCtrl := MXL862XX_ACTYPE_DATA ||| MXL862XX_MMD_DEV, mmdAddr := addr }
        (fun b => c22Effect env place b MXL862XX_MMD_DATA data) last
      rw [result]
      rw [c22Effect_data _ _ rfl] at left
      refine ⟨_, rfl, rfl, ?_⟩
      rcases left with rfl | rfl
      · exact .inl rfl
      · exact .inr rfl
    · obtain ⟨after, result, same, failed⟩ := select_bad bus addr selects
      rw [result]
      exact ⟨after, rfl, failed, .inl same⟩
  · have fails : env.fails place 0 = true := by
      by_contra fine
      exact bad ((ok_c45 mode).mpr (Bool.eq_false_of_not_eq_true fine))
    rw [if_neg mode]
    obtain ⟨after, result, left⟩ := tryWrite_bad bus
      (fun b => { b with switch := regWrite env place b.switch addr data }) fails
    rw [result]
    refine ⟨_, rfl, rfl, ?_⟩
    rcases left with rfl | rfl
    · exact .inl rfl
    · exact .inr rfl

theorem read_good (bus : Bus) (addr : Word) (good : Ok env place) :
    ∃ after, mxl862xxRead env place bus addr = (some (regRead bus.switch addr).1, after) ∧
      after.switch = (regRead bus.switch addr).2 ∧ after.failed = bus.failed := by
  unfold mxl862xxRead
  by_cases mode : env.c22Extended = true
  · obtain ⟨selects, last⟩ := (ok_c22 mode).mp good
    rw [if_pos mode]
    unfold mxl862xxC22ExtMmdRead
    rw [select_good bus addr selects]
    dsimp only [tryRead]
    rw [last]
    exact ⟨_, rfl, rfl, rfl⟩
  · rw [if_neg mode]
    unfold tryRead
    rw [(ok_c45 mode).mp good]
    exact ⟨_, rfl, rfl, rfl⟩

theorem read_bad (bus : Bus) (addr : Word) (bad : ¬ Ok env place) :
    ∃ after, mxl862xxRead env place bus addr = (none, after) ∧ after.switch = bus.switch := by
  unfold mxl862xxRead
  by_cases mode : env.c22Extended = true
  · rw [if_pos mode]
    unfold mxl862xxC22ExtMmdRead
    by_cases selects : ∀ k < 3, env.fails place k = false
    · have last : env.fails place 3 = true := by
        by_contra fine
        exact bad ((ok_c22 mode).mpr ⟨selects, Bool.eq_false_of_not_eq_true fine⟩)
      rw [select_good bus addr selects]
      dsimp only [tryRead]
      rw [last]
      exact ⟨_, rfl, rfl⟩
    · obtain ⟨after, result, same, -⟩ := select_bad bus addr selects
      rw [result]
      exact ⟨after, rfl, same⟩
  · have fails : env.fails place 0 = true := by
      by_contra fine
      exact bad ((ok_c45 mode).mpr (Bool.eq_false_of_not_eq_true fine))
    rw [if_neg mode]
    unfold tryRead
    rw [fails]
    exact ⟨_, rfl, rfl⟩

/-! ## Waits -/

/-- The firmware is ready after `busy` reads, and each read up to the one that finds it so is
good. -/
def WaitOk (env : Env) (stage : Stage) (busy : Nat) : Prop :=
  busy < MAX_BUSY_LOOP ∧ ∀ n ≤ busy, Ok env (.poll stage n)

theorem notBusyWord : (0 : Word) &&& CTRL_BUSY_MASK = 0 := by decide

theorem busyWord : ¬ CTRL_BUSY_MASK &&& CTRL_BUSY_MASK = 0 := by decide

theorem busyLoop_good (bus : Bus) (ends : bus.switch.busyLeft < left)
    (reads : ∀ m ≤ bus.switch.busyLeft, Ok env (.poll stage (MAX_BUSY_LOOP - left + m)))
    (rounds : left ≤ MAX_BUSY_LOOP) :
    ∃ after, busyLoop env stage left bus = (.ok (), after) ∧
      after.switch = { bus.switch with busyLeft := 0 } ∧ after.failed = bus.failed := by
  induction left generalizing bus with
  | zero => exact absurd ends (Nat.not_lt_zero _)
  | succ left ih =>
    obtain ⟨after, result, switch, failed⟩ :=
      read_good bus MXL862XX_MMD_REG_CTRL (reads 0 (Nat.zero_le _))
    unfold busyLoop
    rw [Nat.add_zero] at result
    rw [result]
    dsimp only [regRead] at switch ⊢
    rw [if_pos rfl] at switch ⊢
    by_cases ready : bus.switch.busyLeft = 0
    · rw [if_pos ready] at switch ⊢
      refine ⟨after, if_pos notBusyWord, ?_, failed⟩
      rw [switch, ← ready]
    · rw [if_neg ready] at switch ⊢
      rw [if_neg busyWord]
      have next : after.switch.busyLeft = bus.switch.busyLeft - 1 := by rw [switch]
      have others : ∀ m ≤ after.switch.busyLeft,
          Ok env (.poll stage (MAX_BUSY_LOOP - left + m)) := by
        intro m below
        have place := reads (m + 1) (by omega)
        rwa [show MAX_BUSY_LOOP - (left + 1) + (m + 1) = MAX_BUSY_LOOP - left + m by omega]
          at place
      obtain ⟨last, ended, same, kept⟩ := ih after (by omega) others (by omega)
      exact ⟨last, ended, by rw [same, switch], kept.trans failed⟩

theorem busyLoop_bad (bus : Bus) (bad : ¬ (bus.switch.busyLeft < left ∧
      ∀ m ≤ bus.switch.busyLeft, Ok env (.poll stage (MAX_BUSY_LOOP - left + m))))
    (rounds : left ≤ MAX_BUSY_LOOP) :
    ∃ err after, busyLoop env stage left bus = (.error err, after) ∧
      after.switch.executed = bus.switch.executed := by
  induction left generalizing bus with
  | zero => exact ⟨.ETIMEDOUT, bus, rfl, rfl⟩
  | succ left ih =>
    unfold busyLoop
    by_cases good : Ok env (.poll stage (MAX_BUSY_LOOP - (left + 1)))
    · obtain ⟨after, result, switch, -⟩ := read_good bus MXL862XX_MMD_REG_CTRL good
      rw [result]
      dsimp only [regRead] at switch ⊢
      rw [if_pos rfl] at switch ⊢
      by_cases ready : bus.switch.busyLeft = 0
      · refine absurd ⟨by omega, fun m below => ?_⟩ bad
        rw [show m = 0 by omega]
        exact good
      · rw [if_neg ready] at switch ⊢
        rw [if_neg busyWord]
        have next : after.switch.busyLeft = bus.switch.busyLeft - 1 := by rw [switch]
        have others : ¬ (after.switch.busyLeft < left ∧ ∀ m ≤ after.switch.busyLeft,
            Ok env (.poll stage (MAX_BUSY_LOOP - left + m))) := by
          rintro ⟨ends, reads⟩
          refine bad ⟨by omega, fun m below => ?_⟩
          cases m with
          | zero => exact good
          | succ m =>
            rw [show MAX_BUSY_LOOP - (left + 1) + (m + 1) = MAX_BUSY_LOOP - left + m by omega]
            exact reads m (by omega)
        obtain ⟨err, last, ended, kept⟩ := ih after others (by omega)
        exact ⟨err, last, ended, kept.trans (by rw [switch])⟩
    · obtain ⟨after, result, same⟩ := read_bad bus MXL862XX_MMD_REG_CTRL good
      rw [result]
      exact ⟨.bus, after, rfl, by rw [same]⟩

theorem busyWait_good (bus : Bus) (good : WaitOk env stage bus.switch.busyLeft) :
    ∃ after, mxl862xxBusyWait env stage bus = (.ok (), after) ∧
      after.switch = { bus.switch with busyLeft := 0 } ∧ after.failed = bus.failed :=
  busyLoop_good bus good.1 (fun m below => by
    rw [Nat.sub_self, Nat.zero_add]
    exact good.2 m below) (Nat.le_refl _)

theorem busyWait_bad (bus : Bus) (bad : ¬ WaitOk env stage bus.switch.busyLeft) :
    ∃ err after, mxl862xxBusyWait env stage bus = (.error err, after) ∧
      after.switch.executed = bus.switch.executed := by
  refine busyLoop_bad bus ?_ (Nat.le_refl _)
  rw [Nat.sub_self]
  rintro ⟨ends, reads⟩
  refine bad ⟨ends, fun m below => ?_⟩
  have place := reads m below
  rwa [Nat.zero_add] at place

/-! ## Commands -/

/-- The control register takes the command, and the firmware gets ready. -/
def IssueOk (env : Env) (stage : Stage) : Prop :=
  Ok env (.ctrl stage) ∧ WaitOk env stage (env.busy stage)

theorem regWrite_ctrl (s : Switch) (small : number < 0x8000) :
    regWrite env (.ctrl stage) s MXL862XX_MMD_REG_CTRL (BitVec.ofNat 16 number ||| CTRL_BUSY_MASK) =
      { execute env s number with busyLeft := env.busy stage } := by
  have mask : ∀ i < 16, CTRL_BUSY_MASK.getLsbD i = decide (i = 15) := by decide
  have high : number.testBit 15 = false := Nat.testBit_lt_two_pow small
  have busy : ¬ (BitVec.ofNat 16 number ||| CTRL_BUSY_MASK) &&& CTRL_BUSY_MASK = 0 := by
    intro zero
    have bit := congrArg (fun word => BitVec.getLsbD word 15) zero
    rw [BitVec.getLsbD_and, BitVec.getLsbD_or, mask 15 (by decide), decide_eq_true rfl,
      Bool.or_true] at bit
    cases bit
  have command : (BitVec.ofNat 16 number ||| CTRL_BUSY_MASK) &&& ~~~ CTRL_BUSY_MASK =
      BitVec.ofNat 16 number := by
    apply BitVec.eq_of_getLsbD_eq
    intro i inWord
    rw [BitVec.getLsbD_and, BitVec.getLsbD_or, BitVec.getLsbD_not, mask i inWord,
      BitVec.getLsbD_ofNat]
    by_cases last : i = 15
    · simp [last, high]
    · simp [last, inWord]
  unfold regWrite
  rw [if_pos rfl, if_neg busy, command, BitVec.toNat_ofNat,
    Nat.mod_eq_of_lt (Nat.lt_trans small (by decide))]
  rfl

theorem issue_good (small : number < 0x8000) (bus : Bus) (good : IssueOk env stage) :
    ∃ after, issue env stage number bus = (.ok (), after) ∧
      after.switch = { execute env bus.switch number with busyLeft := 0 } ∧
        after.failed = bus.failed := by
  obtain ⟨begun, wrote, switch, failed⟩ := write_good bus MXL862XX_MMD_REG_CTRL
    (BitVec.ofNat 16 number ||| CTRL_BUSY_MASK) good.1
  rw [regWrite_ctrl _ small] at switch
  have busy : begun.switch.busyLeft = env.busy stage := by rw [switch]
  obtain ⟨after, waited, same, kept⟩ := busyWait_good begun (busy ▸ good.2)
  unfold issue
  rw [wrote]
  refine ⟨after, waited, ?_, kept.trans failed⟩
  rw [same, switch]

theorem issue_bad (small : number < 0x8000) (bus : Bus) (bad : ¬ IssueOk env stage) :
    ∃ err after, issue env stage number bus = (.error err, after) ∧
      (after.switch.executed = bus.switch.executed ∨
        after.switch.executed = (execute env bus.switch number).executed) := by
  unfold issue
  by_cases good : Ok env (.ctrl stage)
  · obtain ⟨begun, wrote, switch, -⟩ := write_good bus MXL862XX_MMD_REG_CTRL
      (BitVec.ofNat 16 number ||| CTRL_BUSY_MASK) good
    rw [regWrite_ctrl _ small] at switch
    have busy : begun.switch.busyLeft = env.busy stage := by rw [switch]
    obtain ⟨err, after, waited, kept⟩ := busyWait_bad begun fun wait =>
      bad ⟨good, busy ▸ wait⟩
    rw [wrote]
    exact ⟨err, after, waited, .inr (kept.trans (by rw [switch]))⟩
  · obtain ⟨after, wrote, -, left⟩ := write_bad bus MXL862XX_MMD_REG_CTRL
      (BitVec.ofNat 16 number ||| CTRL_BUSY_MASK) good
    rw [wrote]
    refine ⟨.bus, after, rfl, ?_⟩
    rcases left with same | landed
    · exact .inl (by rw [same])
    · rw [regWrite_ctrl _ small] at landed
      exact .inr (by rw [landed])

/-- The length register takes the length, and the command is issued. -/
def StageOk (env : Env) (stage : Stage) : Prop := Ok env (.len stage) ∧ IssueOk env stage

theorem regWrite_len (s : Switch) (val : Word) :
    regWrite env place s MXL862XX_MMD_REG_LEN_RET val = { s with lenRet := val } := by
  unfold regWrite
  rw [if_neg (by decide), if_pos rfl]

theorem lenReg_ne : MXL862XX_MMD_REG_LEN_RET ≠ MXL862XX_MMD_REG_CTRL := by decide

theorem dataReg_toNat (i : Nat) :
    (dataReg i).toNat = MXL862XX_MMD_REG_DATA_FIRST + i % DATA_MAX_SIZE := by
  have below : i % DATA_MAX_SIZE < 94 := Nat.mod_lt _ (by decide)
  unfold dataReg
  rw [BitVec.toNat_ofNat, Nat.mod_eq_of_lt]
  exact Nat.lt_trans (Nat.add_lt_add_left below _) (by decide)

theorem dataReg_ne (i : Nat) :
    dataReg i ≠ MXL862XX_MMD_REG_CTRL ∧ dataReg i ≠ MXL862XX_MMD_REG_LEN_RET := by
  have number := dataReg_toNat i
  have first : MXL862XX_MMD_REG_DATA_FIRST = 2 := rfl
  refine ⟨fun same => ?_, fun same => ?_⟩
  · rw [same, show MXL862XX_MMD_REG_CTRL.toNat = 0 from rfl] at number
    omega
  · rw [same, show MXL862XX_MMD_REG_LEN_RET.toNat = 1 from rfl] at number
    omega

theorem regWrite_data (s : Switch) (i : Nat) (val : Word) :
    regWrite env place s (dataReg i) val =
      { s with data := Function.update s.data (i % DATA_MAX_SIZE) val } := by
  unfold regWrite
  rw [if_neg (dataReg_ne i).1, if_neg (dataReg_ne i).2, dataReg_toNat, Nat.add_sub_cancel_left]

theorem regRead_data (s : Switch) (i : Nat) :
    regRead s (dataReg i) = (s.data (i % DATA_MAX_SIZE), s) := by
  unfold regRead
  rw [if_neg (dataReg_ne i).1, if_neg (dataReg_ne i).2, dataReg_toNat, Nat.add_sub_cancel_left]

theorem execute_set (s : Switch) (window : k < 3) :
    execute env s (k + MMD_API_SET_DATA_0) = { s with stored := Function.update s.stored k s.data } := by
  unfold execute MMD_API_SET_DATA_0 MMD_API_GET_DATA_0
  rw [if_neg (by omega), if_pos (by omega), Nat.add_sub_cancel]

theorem execute_get (s : Switch) (window : k < 3) :
    execute env s (k + MMD_API_GET_DATA_0) =
      { s with data := fun i => s.answer (k * DATA_MAX_SIZE + i) } := by
  unfold execute MMD_API_SET_DATA_0 MMD_API_GET_DATA_0 MMD_API_RST_DATA
  rw [if_neg (by omega), if_neg (by omega), if_pos (by omega), Nat.add_sub_cancel]

/-- Only the windows 0 and 1 are stored: a third one is refused. -/
def SetOk (env : Env) (i : Nat) : Prop := StageOk env (.set i) ∧ i / DATA_MAX_SIZE ≤ 2

theorem setData_good (behind : DATA_MAX_SIZE ≤ i) (bus : Bus) (good : SetOk env i) :
    ∃ after, mxl862xxSetData env i bus = (.ok (), after) ∧
      after.switch = { bus.switch with
        lenRet := windowLen
        stored := Function.update bus.switch.stored (i / DATA_MAX_SIZE - 1) bus.switch.data
        busyLeft := 0 } ∧ after.failed = bus.failed := by
  obtain ⟨⟨len, issued⟩, window⟩ := good
  have first : 0 < i / DATA_MAX_SIZE := Nat.div_pos behind (by decide)
  have cmd : (i / DATA_MAX_SIZE + 65535) % 65536 = i / DATA_MAX_SIZE - 1 := by omega
  obtain ⟨begun, wrote, switch, failed⟩ := write_good bus MXL862XX_MMD_REG_LEN_RET windowLen len
  rw [regWrite_len] at switch
  have small : i / DATA_MAX_SIZE - 1 + MMD_API_SET_DATA_0 < 0x8000 := by
    unfold MMD_API_SET_DATA_0
    omega
  obtain ⟨after, done, same, kept⟩ := issue_good small begun issued
  unfold mxl862xxSetData
  rw [wrote]
  dsimp only
  rw [cmd, if_pos (by omega)]
  refine ⟨after, done, ?_, kept.trans failed⟩
  rw [same, execute_set _ (by omega), switch]

theorem write_executed (env : Env) (place : Place) (bus : Bus) {addr : Word} (data : Word)
    (quiet : addr ≠ MXL862XX_MMD_REG_CTRL) :
    (mxl862xxWrite env place bus addr data).2.switch.executed = bus.switch.executed := by
  have effect : (regWrite env place bus.switch addr data).executed = bus.switch.executed := by
    unfold regWrite
    rw [if_neg quiet]
    split_ifs <;> rfl
  by_cases good : Ok env place
  · obtain ⟨after, wrote, switch, -⟩ := write_good bus addr data good
    rw [wrote]
    exact (congrArg Switch.executed switch).trans effect
  · obtain ⟨after, wrote, -, same | landed⟩ := write_bad bus addr data good
    · rw [wrote]
      exact congrArg Switch.executed same
    · rw [wrote]
      exact (congrArg Switch.executed landed).trans effect

theorem execute_window (s : Switch) (window : number ≤ MMD_API_RST_DATA) :
    (execute env s number).executed = s.executed := by
  unfold execute
  split_ifs
  · rfl
  · rfl
  · rfl
  · rfl
  · omega

theorem setData_bad (behind : DATA_MAX_SIZE ≤ i) (small : i < 0x8000) (bus : Bus)
    (bad : ¬ SetOk env i) :
    ∃ err after, mxl862xxSetData env i bus = (.error err, after) ∧
      after.switch.executed = bus.switch.executed := by
  have first : 0 < i / DATA_MAX_SIZE := Nat.div_pos behind (by decide)
  have most : i / DATA_MAX_SIZE ≤ i := Nat.div_le_self _ _
  have cmd : (i / DATA_MAX_SIZE + 65535) % 65536 = i / DATA_MAX_SIZE - 1 := by omega
  have quiet := write_executed env (.len (.set i)) bus windowLen lenReg_ne
  unfold mxl862xxSetData
  by_cases len : Ok env (.len (.set i))
  · obtain ⟨begun, wrote, -, -⟩ := write_good bus MXL862XX_MMD_REG_LEN_RET windowLen len
    rw [wrote] at quiet ⊢
    dsimp only at quiet ⊢
    rw [cmd]
    by_cases window : i / DATA_MAX_SIZE - 1 < 2
    · have low : i / DATA_MAX_SIZE - 1 + MMD_API_SET_DATA_0 < 0x8000 := by
        unfold MMD_API_SET_DATA_0
        omega
      have known : i / DATA_MAX_SIZE - 1 + MMD_API_SET_DATA_0 ≤ MMD_API_RST_DATA := by
        unfold MMD_API_SET_DATA_0 MMD_API_RST_DATA
        omega
      obtain ⟨err, after, done, kept⟩ := issue_bad low begun fun issued =>
        bad ⟨⟨len, issued⟩, by omega⟩
      rw [execute_window _ known, or_self] at kept
      rw [if_pos window]
      exact ⟨err, after, done, kept.trans quiet⟩
    · rw [if_neg window]
      exact ⟨.EINVAL, begun, rfl, quiet⟩
  · obtain ⟨after, wrote, -, -⟩ := write_bad bus MXL862XX_MMD_REG_LEN_RET windowLen len
    rw [wrote] at quiet ⊢
    exact ⟨.bus, after, rfl, quiet⟩

/-! ## The words of the command -/

/-- The words up to `i`: those before the window `w` are stored, the others in the registers. -/
def Placed (mem : Memory) (i w : Nat) (s : Switch) : Prop :=
  ∀ j < i, (if j / DATA_MAX_SIZE < w then s.stored (j / DATA_MAX_SIZE) (j % DATA_MAX_SIZE)
    else s.data (j % DATA_MAX_SIZE)) = wordAt mem j

theorem placed_stored {mem : Memory} {s : Switch} (boundary : i ≠ 0 ∧ i % DATA_MAX_SIZE = 0)
    {len : Word} (placed : Placed mem i ((i - 1) / DATA_MAX_SIZE) s) :
    Placed mem i (i / DATA_MAX_SIZE) { s with
      lenRet := len
      stored := Function.update s.stored (i / DATA_MAX_SIZE - 1) s.data
      busyLeft := 0 } := by
  unfold Placed DATA_MAX_SIZE at *
  have before : (i - 1) / 94 = i / 94 - 1 := by omega
  rw [before] at placed
  intro j below
  have word := placed j below
  dsimp only
  rw [if_pos (by omega)]
  by_cases last : j / 94 = i / 94 - 1
  · rw [last, Function.update_self]
    rwa [if_neg (by omega)] at word
  · rw [Function.update_of_ne last]
    rwa [if_pos (by omega)] at word

theorem placed_inside {mem : Memory} {s : Switch} (inside : ¬ (i ≠ 0 ∧ i % DATA_MAX_SIZE = 0))
    (placed : Placed mem i ((i - 1) / DATA_MAX_SIZE) s) : Placed mem i (i / DATA_MAX_SIZE) s := by
  unfold Placed DATA_MAX_SIZE at *
  have same : (i - 1) / 94 = i / 94 := by omega
  rwa [same] at placed

theorem placed_put {mem : Memory} {s : Switch} (placed : Placed mem i (i / DATA_MAX_SIZE) s) :
    Placed mem (i + 1) (i / DATA_MAX_SIZE)
      { s with data := Function.update s.data (i % DATA_MAX_SIZE) (wordAt mem i) } := by
  unfold Placed DATA_MAX_SIZE at *
  intro j below
  dsimp only
  by_cases last : j = i
  · rw [last, if_neg (by omega), Function.update_self]
  · have word := placed j (by omega)
    by_cases earlier : j / 94 < i / 94
    · rw [if_pos earlier]
      rwa [if_pos earlier] at word
    · rw [if_neg earlier, Function.update_of_ne (by omega)]
      rwa [if_neg earlier] at word

/-- The words from `i` on, `left` of them, need no window that cannot be stored. -/
def PutsOk (env : Env) (i left : Nat) : Prop :=
  ∀ j, i ≤ j → j < i + left → j ≠ 0 ∧ j % DATA_MAX_SIZE = 0 → SetOk env j

structure PutDone (env : Env) (mem : Memory) (i left : Nat) (bus after : Bus) : Prop where
  executed : after.switch.executed = bus.switch.executed
  stillFailed : bus.failed = true → after.failed = true
  failed : (∃ j, i ≤ j ∧ j < i + left ∧ ¬ Ok env (.put j)) → after.failed = true
  placed : (∀ j, i ≤ j → j < i + left → Ok env (.put j)) → after.failed = bus.failed ∧
    (Placed mem i ((i - 1) / DATA_MAX_SIZE) bus.switch →
      Placed mem (i + left) ((i + left - 1) / DATA_MAX_SIZE) after.switch)

theorem behind_boundary (boundary : i ≠ 0 ∧ i % DATA_MAX_SIZE = 0) : DATA_MAX_SIZE ≤ i := by
  unfold DATA_MAX_SIZE at *
  omega

theorem boundary_good (mem : Memory) (bus : Bus)
    (good : i ≠ 0 ∧ i % DATA_MAX_SIZE = 0 → SetOk env i) :
    ∃ mid, (if i ≠ 0 ∧ i % DATA_MAX_SIZE = 0 then mxl862xxSetData env i bus else (.ok (), bus)) =
        (.ok (), mid) ∧ mid.switch.executed = bus.switch.executed ∧ mid.failed = bus.failed ∧
      (Placed mem i ((i - 1) / DATA_MAX_SIZE) bus.switch →
        Placed mem i (i / DATA_MAX_SIZE) mid.switch) := by
  by_cases boundary : i ≠ 0 ∧ i % DATA_MAX_SIZE = 0
  · obtain ⟨mid, set, switch, failed⟩ := setData_good (behind_boundary boundary) bus (good boundary)
    rw [if_pos boundary, set]
    refine ⟨mid, rfl, by rw [switch], failed, fun placed => ?_⟩
    rw [switch]
    exact placed_stored boundary placed
  · rw [if_neg boundary]
    exact ⟨bus, rfl, rfl, rfl, placed_inside boundary⟩

theorem boundary_bad (small : i < 0x8000) (bus : Bus) (boundary : i ≠ 0 ∧ i % DATA_MAX_SIZE = 0)
    (bad : ¬ SetOk env i) :
    ∃ err after,
      (if i ≠ 0 ∧ i % DATA_MAX_SIZE = 0 then mxl862xxSetData env i bus else (.ok (), bus)) =
        (.error err, after) ∧ after.switch.executed = bus.switch.executed := by
  rw [if_pos boundary]
  exact setData_bad (behind_boundary boundary) small bus bad

theorem put_word (env : Env) (mem : Memory) (i : Nat) (bus : Bus) :
    (¬ Ok env (.put i) →
      (mxl862xxWrite env (.put i) bus (dataReg i) (wordAt mem i)).2.failed = true) ∧
    (Ok env (.put i) →
      (mxl862xxWrite env (.put i) bus (dataReg i) (wordAt mem i)).2.failed = bus.failed ∧
      (Placed mem i (i / DATA_MAX_SIZE) bus.switch →
        Placed mem (i + 1) (i / DATA_MAX_SIZE)
          (mxl862xxWrite env (.put i) bus (dataReg i) (wordAt mem i)).2.switch)) := by
  constructor
  · intro bad
    obtain ⟨after, wrote, failed, -⟩ := write_bad bus (dataReg i) (wordAt mem i) bad
    rw [wrote]
    exact failed
  · intro good
    obtain ⟨after, wrote, switch, failed⟩ := write_good bus (dataReg i) (wordAt mem i) good
    rw [wrote]
    rw [regWrite_data] at switch
    refine ⟨failed, fun placed => ?_⟩
    dsimp only
    rw [switch]
    exact placed_put placed

theorem write_stillFailed (env : Env) (place : Place) {bus : Bus} (addr data : Word)
    (failed : bus.failed = true) : (mxl862xxWrite env place bus addr data).2.failed = true := by
  by_cases good : Ok env place
  · obtain ⟨after, wrote, -, same⟩ := write_good bus addr data good
    rw [wrote]
    exact same.trans failed
  · obtain ⟨after, wrote, now, -⟩ := write_bad bus addr data good
    rw [wrote]
    exact now

theorem putWords_good (mem : Memory) (bus : Bus) (good : PutsOk env i left) :
    ∃ after, putWords env mem i left bus = (.ok (), after) ∧
      PutDone env mem i left bus after := by
  induction left generalizing i bus with
  | zero =>
    refine ⟨bus, rfl, rfl, fun failed => failed, ?_, fun _ => ⟨rfl, fun placed => placed⟩⟩
    rintro ⟨j, from_, below, -⟩
    omega
  | succ left ih =>
    obtain ⟨mid, set, executed, failed, stored⟩ := boundary_good mem bus
      (good i (Nat.le_refl i) (by omega))
    have quiet := write_executed env (.put i) mid (wordAt mem i) (dataReg_ne i).1
    obtain ⟨seen, put⟩ := put_word env mem i mid
    obtain ⟨after, rest, done⟩ := ih (i := i + 1)
      (mxl862xxWrite env (.put i) mid (dataReg i) (wordAt mem i)).2
      fun j from_ below => good j (by omega) (by omega)
    unfold putWords
    rw [set]
    refine ⟨after, rest, done.executed.trans (quiet.trans executed), ?_, ?_, ?_⟩
    · intro before
      exact done.stillFailed (write_stillFailed env _ _ _ (failed.trans before))
    · rintro ⟨j, from_, below, bad⟩
      by_cases here : j = i
      · subst here
        exact done.stillFailed (seen bad)
      · exact done.failed ⟨j, by omega, by omega, bad⟩
    · intro all
      obtain ⟨same, placed⟩ := put (all i (Nat.le_refl i) (by omega))
      obtain ⟨kept, further⟩ := done.placed fun j from_ below => all j (by omega) (by omega)
      refine ⟨kept.trans (same.trans failed), fun start => ?_⟩
      rw [show i + (left + 1) = i + 1 + left by omega]
      exact further (placed (stored start))

theorem putWords_bad (mem : Memory) (bus : Bus) (small : i + left ≤ 0x8000)
    (bad : ¬ PutsOk env i left) :
    ∃ err after, putWords env mem i left bus = (.error err, after) ∧
      after.switch.executed = bus.switch.executed := by
  induction left generalizing i bus with
  | zero => exact absurd (fun j from_ below => absurd below (by omega)) bad
  | succ left ih =>
    unfold putWords
    by_cases good : i ≠ 0 ∧ i % DATA_MAX_SIZE = 0 → SetOk env i
    · obtain ⟨mid, set, executed, -, -⟩ := boundary_good mem bus good
      have quiet := write_executed env (.put i) mid (wordAt mem i) (dataReg_ne i).1
      have others : ¬ PutsOk env (i + 1) left := by
        intro rest
        refine bad fun j from_ below boundary => ?_
        by_cases here : j = i
        · subst here
          exact good boundary
        · exact rest j (by omega) (by omega) boundary
      obtain ⟨err, after, ended, kept⟩ := ih (i := i + 1)
        (mxl862xxWrite env (.put i) mid (dataReg i) (wordAt mem i)).2 (by omega) others
      rw [set]
      exact ⟨err, after, ended, kept.trans (quiet.trans executed)⟩
    · obtain ⟨boundary, fails⟩ := Classical.not_imp.mp good
      obtain ⟨err, after, ended, kept⟩ := boundary_bad (by omega) bus boundary fails
      rw [ended]
      exact ⟨err, after, rfl, kept⟩

end OpenwrtSource.Mxl862xx.MailboxTransfer
