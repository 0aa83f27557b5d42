import OpenwrtSource.Mxl862xx.MailboxTransfer

/-!
# Calls through the mailbox

The command between the two loops, and what a whole call has done: the firmware got the
caller's bytes and the caller its answer, if no write of a word went wrong unseen.
-/

namespace OpenwrtSource.Mxl862xx.MailboxCalls

open Mxl862xx.Mailbox Mxl862xx.MailboxTransfer

variable {env : Env} {place : Place} {bus : Bus}

theorem byteOf_wordAt (mem : Memory) (i : Nat) (odd : Bool) :
    byteOf (wordAt mem i) odd = if odd then mem (2 * i + 1) else mem (2 * i) := by
  unfold byteOf wordAt
  apply BitVec.eq_of_getLsbD_eq
  intro bit inByte
  cases odd with
  | false =>
    show ((mem (2 * i + 1) ++ mem (2 * i)).setWidth 8).getLsbD bit = (mem (2 * i)).getLsbD bit
    rw [BitVec.getLsbD_setWidth, BitVec.getLsbD_append, if_pos inByte, decide_eq_true inByte,
      Bool.true_and]
  | true =>
    show ((mem (2 * i + 1) ++ mem (2 * i)).extractLsb' 8 8).getLsbD bit =
      (mem (2 * i + 1)).getLsbD bit
    rw [BitVec.getLsbD_extractLsb', BitVec.getLsbD_append, if_neg (by omega),
      decide_eq_true inByte, Bool.true_and, Nat.add_sub_cancel_left]

variable {mem : Memory} {size : Word} {i : Nat}

theorem byteAt_of_words {words : Nat → Word} {b : Nat} (same : words (b / 2) = wordAt mem (b / 2)) :
    byteAt words b = mem b := by
  unfold byteAt
  rw [same, byteOf_wordAt]
  by_cases odd : b % 2 = 1
  · rw [if_pos (by simpa using odd)]
    congr 1
    omega
  · rw [if_neg (by simpa using odd)]
    congr 1
    omega

theorem wordsOf_covers {b : Nat} (inside : b < size.toNat) : b / 2 < wordsOf size := by
  unfold wordsOf
  omega

theorem wordsOf_le (size : Word) : wordsOf size ≤ 0x8000 := by
  have small := size.isLt
  unfold wordsOf
  omega

theorem input_placed {s : Switch} (length : s.lenRet = size)
    (placed : Placed mem (wordsOf size) ((wordsOf size - 1) / DATA_MAX_SIZE) s) :
    (List.range s.lenRet.toNat).map (byteAt s.input) = (List.range size.toNat).map mem := by
  rw [length]
  refine List.map_congr_left fun b inside => byteAt_of_words ?_
  unfold Switch.input
  rw [length]
  exact placed _ (wordsOf_covers (List.mem_range.mp inside))

theorem execute_command (s : Switch) (cmd : Command) :
    execute env s cmd.number.toNat = { s with
      executed := s.executed ++
        [⟨cmd.number.toNat, (List.range s.lenRet.toNat).map (byteAt s.input)⟩]
      answer := env.answer
      lenRet := env.result
      data := env.answer } := by
  have api := cmd.api
  unfold execute MMD_API_SET_DATA_0 MMD_API_GET_DATA_0
  unfold MMD_API_RST_DATA at *
  rw [if_neg (by omega), if_neg (by omega), if_neg (by omega), if_neg (by omega)]

theorem regRead_len (s : Switch) : regRead s MXL862XX_MMD_REG_LEN_RET = (s.lenRet, s) := by
  unfold regRead
  rw [if_neg lenReg_ne, if_pos rfl]

def CommandOk (env : Env) : Prop := StageOk env .command ∧ Ok env .result

/-- What a command leaves: it was executed, and window 0 of its answer is in the registers. -/
structure CommandDone (env : Env) (cmd : Command) (size : Word) (bus after : Bus) : Prop where
  failed : after.failed = bus.failed
  executed : after.switch.executed = bus.switch.executed ++
    [⟨cmd.number.toNat, (List.range size.toNat).map
      (byteAt { bus.switch with lenRet := size }.input)⟩]
  answer : after.switch.answer = env.answer
  data : after.switch.data = env.answer

theorem sendCmd_good (cmd : Command) (size : Word) (bus : Bus) (good : CommandOk env) :
    ∃ after, mxl862xxSendCmd env cmd.number size bus = (.ok env.result, after) ∧
      CommandDone env cmd size bus after := by
  obtain ⟨⟨len, issued⟩, result⟩ := good
  obtain ⟨begun, wrote, switch, failed⟩ := write_good bus MXL862XX_MMD_REG_LEN_RET size len
  rw [regWrite_len] at switch
  obtain ⟨after, done, same, kept⟩ := issue_good cmd.notBusy begun issued
  rw [execute_command, switch] at same
  obtain ⟨last, got, unchanged, still⟩ := read_good after MXL862XX_MMD_REG_LEN_RET result
  rw [regRead_len] at got unchanged
  unfold mxl862xxSendCmd
  rw [wrote]
  dsimp only
  rw [done]
  dsimp only
  rw [got]
  dsimp only at unchanged ⊢
  refine ⟨last, by rw [same], still.trans (kept.trans failed), ?_, ?_, ?_⟩
  · rw [unchanged, same]
  · rw [unchanged, same]
  · rw [unchanged, same]

theorem sendCmd_bad (cmd : Command) (size : Word) (bus : Bus) (bad : ¬ CommandOk env) :
    ∃ err after, mxl862xxSendCmd env cmd.number size bus = (.error err, after) := by
  unfold mxl862xxSendCmd
  by_cases len : Ok env (.len .command)
  · obtain ⟨begun, wrote, -, -⟩ := write_good bus MXL862XX_MMD_REG_LEN_RET size len
    rw [wrote]
    dsimp only
    by_cases issued : IssueOk env .command
    · obtain ⟨after, done, -, -⟩ := issue_good cmd.notBusy begun issued
      obtain ⟨last, got, -⟩ := read_bad after MXL862XX_MMD_REG_LEN_RET fun result =>
        bad ⟨⟨len, issued⟩, result⟩
      rw [done]
      dsimp only
      rw [got]
      exact ⟨.bus, last, rfl⟩
    · obtain ⟨err, after, done, -⟩ := issue_bad cmd.notBusy begun issued
      rw [done]
      exact ⟨err, after, rfl⟩
  · obtain ⟨after, wrote, -, -⟩ := write_bad bus MXL862XX_MMD_REG_LEN_RET size len
    rw [wrote]
    exact ⟨.bus, after, rfl⟩

def Loaded (env : Env) (w : Nat) (s : Switch) : Prop :=
  s.answer = env.answer ∧ ∀ r, s.data r = env.answer (w * DATA_MAX_SIZE + r)

def GetOk (env : Env) (i : Nat) : Prop := StageOk env (.get i) ∧ i / DATA_MAX_SIZE ≤ 2

theorem getData_good (behind : DATA_MAX_SIZE ≤ i) (bus : Bus) (good : GetOk env i) :
    ∃ after, mxl862xxGetData env i bus = (.ok (), after) ∧
      after.switch.executed = bus.switch.executed ∧ after.failed = bus.failed ∧
      (∀ w, Loaded env w bus.switch → Loaded env (i / DATA_MAX_SIZE) after.switch) := by
  obtain ⟨⟨len, issued⟩, window⟩ := good
  have first : 0 < i / DATA_MAX_SIZE := Nat.div_pos behind (by decide)
  obtain ⟨begun, wrote, switch, failed⟩ := write_good bus MXL862XX_MMD_REG_LEN_RET windowLen len
  rw [regWrite_len] at switch
  have small : i / DATA_MAX_SIZE + MMD_API_GET_DATA_0 < 0x8000 := by
    unfold MMD_API_GET_DATA_0
    omega
  obtain ⟨after, done, same, kept⟩ := issue_good small begun issued
  rw [execute_get _ (by omega), switch] at same
  unfold mxl862xxGetData
  rw [wrote]
  dsimp only
  rw [if_pos (by omega)]
  refine ⟨after, done, by rw [same], kept.trans failed, ?_⟩
  rintro w ⟨answer, -⟩
  rw [same]
  refine ⟨answer, fun r => ?_⟩
  dsimp only
  rw [answer]

theorem getData_bad (behind : DATA_MAX_SIZE ≤ i) (bus : Bus) (bad : ¬ GetOk env i) :
    ∃ err after, mxl862xxGetData env i bus = (.error err, after) := by
  have first : 0 < i / DATA_MAX_SIZE := Nat.div_pos behind (by decide)
  unfold mxl862xxGetData
  by_cases len : Ok env (.len (.get i))
  · obtain ⟨begun, wrote, -, -⟩ := write_good bus MXL862XX_MMD_REG_LEN_RET windowLen len
    rw [wrote]
    dsimp only
    by_cases window : i / DATA_MAX_SIZE < 3
    · have small : i / DATA_MAX_SIZE + MMD_API_GET_DATA_0 < 0x8000 := by
        unfold MMD_API_GET_DATA_0
        omega
      obtain ⟨err, after, done, -⟩ := issue_bad small begun fun issued =>
        bad ⟨⟨len, issued⟩, by omega⟩
      rw [if_pos ⟨first, window⟩]
      exact ⟨err, after, done⟩
    · rw [if_neg fun both => window both.2]
      exact ⟨.EINVAL, begun, rfl⟩
  · obtain ⟨after, wrote, -, -⟩ := write_bad bus MXL862XX_MMD_REG_LEN_RET windowLen len
    rw [wrote]
    exact ⟨.bus, after, rfl⟩

/-- The bytes of the answer up to the word `i`, and nothing else. -/
def Filled (env : Env) (before : Memory) (size : Word) (i : Nat) (mem : Memory) : Prop :=
  ∀ b, mem b = if b < 2 * i ∧ b < size.toNat then byteAt env.answer b else before b

theorem filled_store {before : Memory} (inside : i < wordsOf size)
    (filled : Filled env before size i mem) :
    Filled env before size (i + 1) (storeWord mem size i (env.answer i)) := by
  have even : byteAt env.answer (2 * i) = byteOf (env.answer i) false := by
    unfold byteAt
    rw [show 2 * i / 2 = i by omega, show 2 * i % 2 = 0 by omega]
    rfl
  have odd : byteAt env.answer (2 * i + 1) = byteOf (env.answer i) true := by
    unfold byteAt
    rw [show (2 * i + 1) / 2 = i by omega, show (2 * i + 1) % 2 = 1 by omega]
    rfl
  have room : 2 * i < size.toNat := by
    unfold wordsOf at inside
    omega
  intro b
  have old := filled b
  unfold storeWord
  split_ifs with last now now
  · by_cases low : b = 2 * i
    · rw [low, Function.update_self, even]
    · rw [Function.update_of_ne low, old, if_pos (by omega)]
  · rw [Function.update_of_ne (by omega), old, if_neg (by omega)]
  · by_cases high : b = 2 * i + 1
    · rw [high, Function.update_self, odd]
    · rw [Function.update_of_ne high]
      by_cases low : b = 2 * i
      · rw [low, Function.update_self, even]
      · rw [Function.update_of_ne low, old, if_pos (by omega)]
  · rw [Function.update_of_ne (by omega), Function.update_of_ne (by omega), old,
      if_neg (by omega)]

/-- The words from `i` on, `left` of them, can be fetched. -/
def FetchesOk (env : Env) (i left : Nat) : Prop :=
  ∀ j, i ≤ j → j < i + left →
    (j ≠ 0 ∧ j % DATA_MAX_SIZE = 0 → GetOk env j) ∧ Ok env (.fetch j)

theorem loaded_boundary (bus : Bus) (good : i ≠ 0 ∧ i % DATA_MAX_SIZE = 0 → GetOk env i) :
    ∃ mid, (if i ≠ 0 ∧ i % DATA_MAX_SIZE = 0 then mxl862xxGetData env i bus else (.ok (), bus)) =
        (.ok (), mid) ∧ mid.switch.executed = bus.switch.executed ∧ mid.failed = bus.failed ∧
      (Loaded env ((i - 1) / DATA_MAX_SIZE) bus.switch →
        Loaded env (i / DATA_MAX_SIZE) mid.switch) := by
  by_cases boundary : i ≠ 0 ∧ i % DATA_MAX_SIZE = 0
  · obtain ⟨mid, got, executed, failed, loaded⟩ :=
      getData_good (behind_boundary boundary) bus (good boundary)
    rw [if_pos boundary]
    exact ⟨mid, got, executed, failed, loaded _⟩
  · have same : (i - 1) / DATA_MAX_SIZE = i / DATA_MAX_SIZE := by
      unfold DATA_MAX_SIZE at *
      omega
    rw [if_neg boundary, same]
    exact ⟨bus, rfl, rfl, rfl, fun loaded => loaded⟩

theorem fetchWords_good {before : Memory} {left : Nat} (bus : Bus) (good : FetchesOk env i left)
    (inside : i + left ≤ wordsOf size) (loaded : Loaded env ((i - 1) / DATA_MAX_SIZE) bus.switch)
    (filled : Filled env before size i mem) :
    ∃ after memory, fetchWords env size i left mem bus = ((.ok (), after), memory) ∧
      after.switch.executed = bus.switch.executed ∧ after.failed = bus.failed ∧
      Filled env before size (i + left) memory := by
  induction left generalizing i bus mem with
  | zero => exact ⟨bus, mem, rfl, rfl, rfl, filled⟩
  | succ left ih =>
    obtain ⟨gets, fetch⟩ := good i (Nat.le_refl i) (by omega)
    obtain ⟨mid, got, executed, failed, window⟩ := loaded_boundary bus gets
    have ready := window loaded
    obtain ⟨begun, word, switch, kept⟩ := read_good mid (dataReg i) fetch
    rw [regRead_data] at word switch
    have value : mid.switch.data (i % DATA_MAX_SIZE) = env.answer i := by
      rw [ready.2, Nat.mul_comm, Nat.div_add_mod]
    dsimp only at word switch
    rw [value] at word
    have next : Loaded env ((i + 1 - 1) / DATA_MAX_SIZE) begun.switch := by
      rw [Nat.add_sub_cancel, switch]
      exact ready
    obtain ⟨after, memory, rest, same, still, done⟩ := ih begun
      (fun j from_ below => good j (by omega) (by omega)) (by omega) next
      (filled_store (by omega) filled)
    unfold fetchWords
    rw [got]
    dsimp only
    rw [word]
    refine ⟨after, memory, rest, same.trans (by rw [switch, executed]),
      still.trans (kept.trans failed), ?_⟩
    rwa [show i + (left + 1) = i + 1 + left by omega]

theorem fetchWords_bad {left : Nat} (bus : Bus) (bad : ¬ FetchesOk env i left) :
    ∃ err after memory, fetchWords env size i left mem bus = ((.error err, after), memory) := by
  induction left generalizing i bus mem with
  | zero => exact absurd (fun j from_ below => absurd below (by omega)) bad
  | succ left ih =>
    unfold fetchWords
    by_cases gets : i ≠ 0 ∧ i % DATA_MAX_SIZE = 0 → GetOk env i
    · obtain ⟨mid, got, -, -, -⟩ := loaded_boundary bus gets
      rw [got]
      dsimp only
      by_cases fetch : Ok env (.fetch i)
      · obtain ⟨begun, word, -, -⟩ := read_good mid (dataReg i) fetch
        rw [word]
        refine ih _ fun rest => bad fun j from_ below => ?_
        by_cases here : j = i
        · subst here
          exact ⟨gets, fetch⟩
        · exact rest j (by omega) (by omega)
      · obtain ⟨after, word, -⟩ := read_bad mid (dataReg i) fetch
        rw [word]
        exact ⟨.bus, after, mem, rfl⟩
    · obtain ⟨boundary, fails⟩ := Classical.not_imp.mp gets
      obtain ⟨err, after, ended⟩ := getData_bad (behind_boundary boundary) bus fails
      rw [if_pos boundary, ended]
      exact ⟨err, after, mem, rfl⟩

def idle (mmdCtrl mmdAddr : Word) (s : Switch) : Bus := ⟨mmdCtrl, mmdAddr, s, false⟩

def Failed {α : Type} (ret : Ret α) : Prop := ∃ err, ret.1 = .error err

/-- What a call that has returned `ret` and left `after` in the memory is to have done. -/
structure Right (env : Env) (cmd : Command) (mem : Memory) (size : Word) (read : Bool)
    (s : Switch) (ret : Ret Word) (after : Memory) : Prop where
  executed : ∀ result, ret.1 = .ok result → result = env.result ∧ ret.2.switch.executed =
    s.executed ++ [⟨cmd.number.toNat, (List.range size.toNat).map mem⟩]
  buffer : ∀ result, ret.1 = .ok result →
    ∀ b, after b = if read = true ∧ b < size.toNat then byteAt env.answer b else mem b
  tooLarge : 3 * DATA_MAX_SIZE < wordsOf size →
    Failed ret ∧ ret.2.switch.executed = s.executed
  failing : ret.2.failed = true → Failed ret

/-- The call ends well as far as the driver looks: the waits, the accesses for commands and
those that read, the windows that there are, and the firmware's result. -/
structure Passes (env : Env) (size : Word) (read : Bool) (s : Switch) : Prop where
  start : WaitOk env .start s.busyLeft
  puts : PutsOk env 0 (wordsOf size)
  command : CommandOk env
  result : env.result.msb = false
  fetches : read = true → FetchesOk env 0 (wordsOf size)

/-- No write of a word fails, or something fails that the driver looks at. -/
def Fits (env : Env) (size : Word) (read : Bool) (s : Switch) : Prop :=
  (∀ i < wordsOf size, Ok env (.put i)) ∨ ¬ Passes env size read s

section Calls

variable {cmd : Command} {mem : Memory} {size : Word} {read : Bool} {s : Switch}
variable {ctrl addr : Word}

theorem not_putsOk (large : 3 * DATA_MAX_SIZE < wordsOf size) : ¬ PutsOk env 0 (wordsOf size) := by
  intro puts
  have third := (puts (3 * DATA_MAX_SIZE) (Nat.zero_le _) (by omega) (by decide)).2
  exact absurd third (by decide)

theorem apiWrap_unready (unready : ¬ WaitOk env .start s.busyLeft) :
    ∃ err after, mxl862xxApiWrap env cmd.number mem size read (idle ctrl addr s) =
      ((.error err, after), mem) ∧ after.switch.executed = s.executed := by
  obtain ⟨err, after, waited, kept⟩ := busyWait_bad (idle ctrl addr s) unready
  unfold mxl862xxApiWrap
  rw [waited]
  exact ⟨err, after, rfl, kept⟩

theorem apiWrap_refused (start : WaitOk env .start s.busyLeft)
    (refused : ¬ PutsOk env 0 (wordsOf size)) :
    ∃ err after, mxl862xxApiWrap env cmd.number mem size read (idle ctrl addr s) =
      ((.error err, after), mem) ∧ after.switch.executed = s.executed := by
  obtain ⟨ready, waited, switch, -⟩ := busyWait_good (idle ctrl addr s) start
  obtain ⟨err, after, put, kept⟩ :=
    putWords_bad mem ready (by rw [Nat.zero_add]; exact wordsOf_le size) refused
  unfold mxl862xxApiWrap
  rw [waited]
  dsimp only
  rw [put]
  exact ⟨err, after, rfl, kept.trans (by rw [switch]; rfl)⟩

theorem finish_good (before : Memory) {result : Word} (bus : Bus) (good : result.msb = false)
    (fetches : read = true → FetchesOk env 0 (wordsOf size)) (loaded : Loaded env 0 bus.switch) :
    ∃ after memory, finish env size read before result bus = ((.ok result, after), memory) ∧
      after.switch.executed = bus.switch.executed ∧ after.failed = bus.failed ∧
      ∀ b, memory b =
        if read = true ∧ b < size.toNat then byteAt env.answer b else before b := by
  unfold finish
  rw [good]
  cases reads : read with
  | false => exact ⟨bus, before, rfl, rfl, rfl, fun b => by simp⟩
  | true =>
    have empty : Filled env before size 0 before := fun b => by
      rw [if_neg (by omega)]
    obtain ⟨after, memory, fetched, executed, failed, filled⟩ :=
      fetchWords_good bus (fetches reads) (by omega) loaded empty
    rw [fetched]
    refine ⟨after, memory, rfl, executed, failed, fun b => ?_⟩
    have byte := filled b
    rw [Nat.zero_add] at byte
    rw [byte]
    by_cases inside : b < size.toNat
    · have covered := wordsOf_covers inside
      rw [if_pos ⟨by omega, inside⟩, if_pos ⟨rfl, inside⟩]
    · rw [if_neg fun both => inside both.2, if_neg fun both => inside both.2]

theorem finish_bad (before : Memory) {result : Word} (bus : Bus)
    (bad : ¬ (result.msb = false ∧ (read = true → FetchesOk env 0 (wordsOf size)))) :
    ∃ err after memory, finish env size read before result bus =
      ((.error err, after), memory) := by
  unfold finish
  cases negative : result.msb with
  | true => exact ⟨_, bus, before, rfl⟩
  | false =>
    have fetches : read = true ∧ ¬ FetchesOk env 0 (wordsOf size) := by
      by_contra fine
      exact bad ⟨negative, fun reads => by_contra fun fails => fine ⟨reads, fails⟩⟩
    obtain ⟨err, after, memory, ended⟩ := fetchWords_bad bus fetches.2
    rw [fetches.1, ended]
    exact ⟨err, after, memory, rfl⟩

structure Done (env : Env) (cmd : Command) (mem : Memory) (size : Word) (read : Bool) (s : Switch)
    (after : Bus) (memory : Memory) : Prop where
  unseen : (∃ i < wordsOf size, ¬ Ok env (.put i)) → after.failed = true
  clean : (∀ i < wordsOf size, Ok env (.put i)) → after.failed = false ∧
    after.switch.executed =
      s.executed ++ [⟨cmd.number.toNat, (List.range size.toNat).map mem⟩]
  buffer : ∀ b, memory b =
    if read = true ∧ b < size.toNat then byteAt env.answer b else mem b

theorem apiWrap_passes (passes : Passes env size read s) :
    ∃ after memory, mxl862xxApiWrap env cmd.number mem size read (idle ctrl addr s) =
      ((.ok env.result, after), memory) ∧ Done env cmd mem size read s after memory := by
  obtain ⟨ready, waited, switch, failed⟩ := busyWait_good (idle ctrl addr s) passes.start
  obtain ⟨full, put, words⟩ := putWords_good mem ready passes.puts
  obtain ⟨sent, command, ran⟩ := sendCmd_good cmd size full passes.command
  have loaded : Loaded env 0 sent.switch := by
    refine ⟨ran.answer, fun r => ?_⟩
    rw [ran.data, Nat.zero_mul, Nat.zero_add]
  obtain ⟨after, memory, ended, executed, kept, buffer⟩ :=
    finish_good mem sent passes.result passes.fetches loaded
  unfold mxl862xxApiWrap
  rw [waited]
  dsimp only
  rw [put]
  dsimp only
  rw [command]
  refine ⟨after, memory, ended, ?_, ?_, buffer⟩
  · rintro ⟨i, below, bad⟩
    rw [kept, ran.failed]
    exact words.failed ⟨i, Nat.zero_le _, by omega, bad⟩
  · intro all
    obtain ⟨clean, placed⟩ := words.placed fun i _ below => all i (by omega)
    refine ⟨by rw [kept, ran.failed, clean, failed]; rfl, ?_⟩
    have start : Placed mem 0 ((0 - 1) / DATA_MAX_SIZE) ready.switch :=
      fun j below => absurd below (Nat.not_lt_zero j)
    have input := placed start
    rw [Nat.zero_add] at input
    have bytes : (List.range size.toNat).map
        (byteAt { full.switch with lenRet := size }.input) = (List.range size.toNat).map mem :=
      input_placed (s := { full.switch with lenRet := size }) rfl input
    rw [executed, ran.executed, bytes, words.executed, switch]
    rfl

theorem apiWrap_fails (fails : ¬ Passes env size read s) :
    ∃ err after memory, mxl862xxApiWrap env cmd.number mem size read (idle ctrl addr s) =
      ((.error err, after), memory) ∧
        (3 * DATA_MAX_SIZE < wordsOf size → after.switch.executed = s.executed) := by
  by_cases start : WaitOk env .start s.busyLeft
  · by_cases puts : PutsOk env 0 (wordsOf size)
    · obtain ⟨ready, waited, -, -⟩ := busyWait_good (idle ctrl addr s) start
      obtain ⟨full, put, -⟩ := putWords_good mem ready puts
      unfold mxl862xxApiWrap
      rw [waited]
      dsimp only
      rw [put]
      dsimp only
      by_cases command : CommandOk env
      · obtain ⟨sent, result, -⟩ := sendCmd_good cmd size full command
        obtain ⟨err, after, memory, ended⟩ := finish_bad mem sent fun both =>
          fails ⟨start, puts, command, both.1, both.2⟩
        rw [result]
        exact ⟨err, after, memory, ended, fun large => absurd puts (not_putsOk large)⟩
      · obtain ⟨err, after, result⟩ := sendCmd_bad cmd size full command
        rw [result]
        exact ⟨err, after, mem, rfl, fun large => absurd puts (not_putsOk large)⟩
    · obtain ⟨err, after, ended, kept⟩ := apiWrap_refused start puts
      exact ⟨err, after, mem, ended, fun _ => kept⟩
  · obtain ⟨err, after, ended, kept⟩ := apiWrap_unready start
    exact ⟨err, after, mem, ended, fun _ => kept⟩

end Calls

/-- A call does what it is to do exactly if no write of a word fails, or it fails for
another reason anyway. -/
theorem call_right_iff (env : Env) (cmd : Command) (mem : Memory) (size : Word) (read : Bool)
    (s : Switch) (ctrl addr : Word) :
    Right env cmd mem size read s
        (mxl862xxApiWrap env cmd.number mem size read (idle ctrl addr s)).1
        (mxl862xxApiWrap env cmd.number mem size read (idle ctrl addr s)).2 ↔
      Fits env size read s := by
  unfold Fits
  by_cases passes : Passes env size read s
  · obtain ⟨after, memory, ended, done⟩ := apiWrap_passes passes
    rw [ended]
    constructor
    · intro right
      refine .inl fun i below => ?_
      by_contra bad
      obtain ⟨err, failed⟩ := right.failing (done.unseen ⟨i, below, bad⟩)
      cases failed
    · rintro (words | fails)
      · obtain ⟨clean, executed⟩ := done.clean words
        refine ⟨?_, fun _ _ => done.buffer, ?_, ?_⟩
        · rintro result returned
          cases returned
          exact ⟨rfl, executed⟩
        · intro large
          exact absurd passes.puts (not_putsOk large)
        · intro failed
          rw [show after.failed = false from clean] at failed
          cases failed
      · exact absurd passes fails
  · obtain ⟨err, after, memory, ended, kept⟩ := apiWrap_fails passes
    rw [ended]
    refine iff_of_true ⟨?_, ?_, fun large => ⟨⟨err, rfl⟩, kept large⟩, fun _ => ⟨err, rfl⟩⟩
      (.inr passes)
    · intro result returned
      cases returned
    · intro result returned
      cases returned

def deafRegisters : Env where
  c22Extended := false
  fails := fun place _ => match place with
    | .put _ => true
    | _ => false
  lands := fun _ _ => false
  busy := fun _ => 0
  result := 0
  answer := fun _ => 0

theorem deafRegisters_ok {place : Place} (other : ∀ i, place ≠ .put i) :
    Ok deafRegisters place := by
  intro k _
  cases place with
  | put i => exact absurd rfl (other i)
  | poll stage n => rfl
  | len stage => rfl
  | ctrl stage => rfl
  | result => rfl
  | fetch i => rfl

theorem deafRegisters_stage (stage : Stage) : StageOk deafRegisters stage := by
  have prompt : (0 : Nat) < MAX_BUSY_LOOP := by decide
  exact ⟨deafRegisters_ok (by simp), deafRegisters_ok (by simp), prompt,
    fun n _ => deafRegisters_ok (by simp)⟩

/-- A command runs on what the registers held before. -/
theorem deafUnnoticed : ¬ ∀ (env : Env) (cmd : Command) (mem : Memory) (size : Word)
    (read : Bool) (s : Switch) (ctrl addr : Word),
    Right env cmd mem size read s
      (mxl862xxApiWrap env cmd.number mem size read (idle ctrl addr s)).1
      (mxl862xxApiWrap env cmd.number mem size read (idle ctrl addr s)).2 := by
  intro always
  let cmd : Command := ⟨0x101, by decide, by decide⟩
  let s : Switch := ⟨0, 0, fun _ => 0, fun _ _ => 0, fun _ => 0, []⟩
  have prompt : (0 : Nat) < MAX_BUSY_LOOP := by decide
  have passes : Passes deafRegisters 2 false s :=
    { start := ⟨prompt, fun n _ => deafRegisters_ok (by simp)⟩
      puts := by
        rintro j - below ⟨first, -⟩
        exact absurd below (by show ¬ j < 0 + 1; omega)
      command := ⟨deafRegisters_stage _, deafRegisters_ok (by simp)⟩
      result := rfl
      fetches := fun reads => absurd reads (by decide) }
  have right := always deafRegisters cmd (fun _ => 0x55) 2 false s 0 0
  obtain ⟨after, memory, ended, done⟩ : ∃ after memory,
      mxl862xxApiWrap deafRegisters cmd.number (fun _ => 0x55) 2 false (idle 0 0 s) =
        ((.ok deafRegisters.result, after), memory) ∧
      Done deafRegisters cmd (fun _ => 0x55) 2 false s after memory := apiWrap_passes passes
  rw [ended] at right
  obtain ⟨err, failed⟩ := right.failing (done.unseen ⟨0, by decide, fun good =>
    absurd (good 0 (by decide)) (by decide)⟩)
  cases failed

end OpenwrtSource.Mxl862xx.MailboxCalls
