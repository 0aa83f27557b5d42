import OpenwrtSource.As21xxx.DebugTransfer

/-!
# When a debug transfer keeps its word

The receive loop stores whole chunks, a chunk that fails leaves the temporary buffer
behind, and the poll loop ends with success after its last turn.  The statuses of the
commands are believed, and the accesses of the data registers are not checked.
-/

namespace OpenwrtSource.As21xxx.TransferSafety

open Lib.Packed As21xxx.Ipc As21xxx.DebugTransfer

def Freed (o : Outcome) : Prop := o.frees = if o.allocated then 1 else 0

structure Right (req : Request) (env : Env) : Prop where
  /-- the firmware has the caller's bytes -/
  sent : (aeonIpcOperation req env).ret = some IPC_STS_CMD_SUCCESS →
    ∀ mem, req.writes = some mem → ∃ message ∈ (aeonIpcOperation req env).received,
      message.opcode = IPC_OPCODE_WBUF ∧
        message.size.toNat = req.writeSize * req.writeType.bytes ∧
        ∀ b < req.writeSize * req.writeType.bytes, byteAt message.regs b = mem b
  done : (aeonIpcOperation req env).ret = some IPC_STS_CMD_SUCCESS →
    (aeonIpcOperation req env).done = true
  /-- the caller has the firmware's answer -/
  answer : (aeonIpcOperation req env).ret = some IPC_STS_CMD_SUCCESS → req.receives.isSome →
    ∀ b < req.recvSize, (env.rbuf (b / 16)).taken = true ∧
      (aeonIpcOperation req env).recvBuf b = byteAt (env.rbuf (b / 16)).data (b % 16)
  bounds : (aeonIpcOperation req env).overrun = false
  freed : Freed (aeonIpcOperation req env)

/-! ## The conditions -/

def Exchange.Ok (e : Exchange) : Prop := e.wait = IPC_STS_CMD_SUCCESS

/-- No status ends the operation before the receive step. -/
structure Reaches (req : Request) (env : Env) : Prop where
  dbg : Exchange.Ok env.dbg
  wbuf : req.writes.isSome → Exchange.Ok env.wbuf
  poll : ∀ j < MAX_POLL, (∀ i < j, (env.poll i).readReg 0 = 0) → Exchange.Ok (env.poll j)

def chunks (req : Request) : Nat := (req.recvSize + 15) / 16

def ChunksOk (req : Request) (env : Env) : Prop := ∀ k < chunks req, Exchange.Ok (env.rbuf k)

def Memory (req : Request) (env : Env) : Prop := req.recvType = .uint8 ∨ env.kmalloc = true

def Passes (req : Request) (env : Env) : Prop :=
  Reaches req env ∧ (req.receives.isSome → Memory req env ∧ ChunksOk req env)

structure Spared (req : Request) (env : Env) : Prop where
  /-- a size that is received is a whole number of chunks -/
  whole : Passes req env → req.receives.isSome → 16 ∣ req.recvSize
  /-- no chunk fails under a temporary buffer -/
  kept : Reaches req env → req.receives.isSome → req.recvType ≠ .uint8 → env.kmalloc = true →
    ChunksOk req env
  /-- the firmware takes the buffer, and no register of it lacks its write -/
  sent : Passes req env → ∀ mem, req.writes = some mem → env.wbuf.taken = true ∧
    ∀ b < req.writeSize * req.writeType.bytes,
      env.wbuf.written (b / 2) = true ∨ byteAt env.wbuf.before b = mem b
  /-- one of the polls is answered with done -/
  done : Passes req env → ∃ j < MAX_POLL, (∀ i < j, (env.poll i).readReg 0 = 0) ∧
    (env.poll j).reports = true
  /-- the firmware takes each request for a chunk, and the chunk is read as it is -/
  answered : Passes req env → req.receives.isSome → ∀ k < chunks req,
    (env.rbuf k).taken = true ∧ ∀ i < 8, (env.rbuf k).readReg i = (env.rbuf k).data i

/-! ## Bytes and words -/

theorem low_byte (hi lo : BitVec 8) : ((hi ++ lo : BitVec 16) >>> (0 : Nat)).setWidth 8 = lo := by
  apply BitVec.eq_of_getLsbD_eq
  intro i small
  simp only [BitVec.getLsbD_setWidth, BitVec.getLsbD_ushiftRight, BitVec.getLsbD_append,
    Nat.zero_add, small, decide_true, Bool.true_and, if_true]

theorem high_byte (hi lo : BitVec 8) : ((hi ++ lo : BitVec 16) >>> (8 : Nat)).setWidth 8 = hi := by
  apply BitVec.eq_of_getLsbD_eq
  intro i small
  have far : ¬ 8 + i < 8 := by omega
  have same : 8 + i - 8 = i := by omega
  simp only [BitVec.getLsbD_setWidth, BitVec.getLsbD_ushiftRight, BitVec.getLsbD_append,
    small, far, same, decide_true, Bool.true_and, if_false]

theorem pack (hi lo : BitVec 8) :
    lo.setWidth 16 ||| hi.setWidth 16 <<< 8 = (hi ++ lo : BitVec 16) := by
  apply BitVec.eq_of_getLsbD_eq
  intro i small
  simp only [BitVec.getLsbD_or, BitVec.getLsbD_setWidth, BitVec.getLsbD_shiftLeft,
    BitVec.getLsbD_append, small, decide_true, Bool.true_and]
  by_cases first : i < 8
  · simp [first]
  · have far : lo.getLsbD i = false := BitVec.getLsbD_of_ge _ _ (by omega)
    have inWord : i - 8 < 16 := by omega
    simp [first, far, inWord]

theorem mask_bit (i : Nat) (small : i < 32) : (0xFFFF : BitVec 32).getLsbD i = decide (i < 16) := by
  have all : ∀ i < 32, (0xFFFF : BitVec 32).getLsbD i = decide (i < 16) := by decide
  exact all i small

theorem low_half (b3 b2 b1 b0 : BitVec 8) :
    ((b3 ++ b2 ++ b1 ++ b0 : BitVec 32) &&& 0xFFFF).setWidth 16 = (b1 ++ b0 : BitVec 16) := by
  apply BitVec.eq_of_getLsbD_eq
  intro i small
  rw [BitVec.getLsbD_setWidth, BitVec.getLsbD_and, mask_bit i (by omega)]
  simp only [BitVec.getLsbD_append, small, decide_true, Bool.true_and, Bool.and_true]
  by_cases first : i < 8
  · simp only [first, if_true]
  · have second : i - 8 < 8 := by omega
    simp only [first, second, if_true, if_false]

theorem high_half (b3 b2 b1 b0 : BitVec 8) :
    ((b3 ++ b2 ++ b1 ++ b0 : BitVec 32) >>> 16 &&& 0xFFFF).setWidth 16 =
      (b3 ++ b2 : BitVec 16) := by
  apply BitVec.eq_of_getLsbD_eq
  intro i small
  rw [BitVec.getLsbD_setWidth, BitVec.getLsbD_and, mask_bit i (by omega),
    BitVec.getLsbD_ushiftRight]
  have first : ¬ 16 + i < 8 := by omega
  have second : ¬ 16 + i - 8 < 8 := by omega
  have same : 16 + i - 8 - 8 = i := by omega
  simp only [BitVec.getLsbD_append, small, first, second, same, decide_true, Bool.true_and,
    Bool.and_true, if_false]

theorem writeIpcData_word (type : DataType) (size : Nat) (mem : Nat → BitVec 8) (j : Nat)
    (inside : 2 * j < size * type.bytes) :
    writeIpcData type size mem j =
      (if 2 * j + 1 < size * type.bytes then mem (2 * j + 1) else 0) ++ mem (2 * j) := by
  cases type with
  | uint8 =>
    have first : 2 * j < size := by simpa [DataType.bytes] using inside
    simp only [writeIpcData, first, if_true, DataType.bytes, Nat.mul_one]
    rw [← pack]
    by_cases second : 2 * j + 1 < size
    · simp only [second, if_true]
    · simp only [second, if_false]
      rfl
  | uint16 =>
    have element : j < size := by simp only [DataType.bytes] at inside; omega
    have second : 2 * j + 1 < size * 2 := by omega
    simp only [writeIpcData, element, if_true, DataType.bytes, second, u16At]
  | uint32 =>
    have element : j / 2 < size := by simp only [DataType.bytes] at inside; omega
    have second : 2 * j + 1 < size * 4 := by omega
    simp only [writeIpcData, element, if_true, DataType.bytes, second, u32At]
    by_cases even : j % 2 = 0
    · have low : 4 * (j / 2) = 2 * j := by omega
      rw [if_pos even, low_half, low]
    · have low : 4 * (j / 2) + 2 = 2 * j := by omega
      have high : 4 * (j / 2) + 3 = 2 * j + 1 := by omega
      rw [if_neg even, high_half, low, high]

theorem byteAt_word {regs : Nat → BitVec 16} {b : Nat} {hi lo : BitVec 8}
    (word : regs (b / 2) = hi ++ lo) : byteAt regs b = if b % 2 = 0 then lo else hi := by
  unfold byteAt
  rw [word]
  by_cases even : b % 2 = 0
  · rw [if_pos even, even]
    exact low_byte hi lo
  · have odd : b % 2 = 1 := by omega
    rw [if_neg even, odd]
    exact high_byte hi lo

theorem writeIpcData_byte (type : DataType) (size : Nat) (mem : Nat → BitVec 8) (b : Nat)
    (inside : b < size * type.bytes) : byteAt (writeIpcData type size mem) b = mem b := by
  rw [byteAt_word (writeIpcData_word type size mem (b / 2) (by omega))]
  by_cases even : b % 2 = 0
  · rw [if_pos even]
    congr 1
    omega
  · have last : 2 * (b / 2) + 1 = b := by omega
    rw [if_neg even, last, if_pos inside]

theorem byteAt_congr {regs other : Nat → BitVec 16} {b : Nat}
    (same : regs (b / 2) = other (b / 2)) : byteAt regs b = byteAt other b := by
  unfold byteAt
  rw [same]

theorem word_of_bytes {x y : BitVec 16} (low : x.setWidth 8 = y.setWidth 8)
    (high : (x >>> (8 : Nat)).setWidth 8 = (y >>> (8 : Nat)).setWidth 8) : x = y := by
  apply BitVec.eq_of_getLsbD_eq
  intro i small
  by_cases first : i < 8
  · have bit := congrArg (fun z => z.getLsbD i) low
    simpa [BitVec.getLsbD_setWidth, first] using bit
  · have bit := congrArg (fun z => z.getLsbD (i - 8)) high
    have inByte : i - 8 < 8 := by omega
    have back : 8 + (i - 8) = i := by omega
    simpa [BitVec.getLsbD_setWidth, BitVec.getLsbD_ushiftRight, inByte, back] using bit

theorem copyBack_byte {n size : Nat} (temp buf : Nat → BitVec 8) (b : Nat) (positive : 0 < n)
    (fits : 8 * n ≤ 32) (whole : n ∣ size) (inside : b < size) :
    copyBack n size temp buf b = temp b := by
  have element : b / n < size / n := Nat.div_lt_div_of_lt_of_dvd whole inside
  have small : ∀ k : Fin n, ((temp (b / n * n + k.val)).setWidth 32).toNat < 2 ^ 8 := by
    intro k
    have lt := (temp (b / n * n + k.val)).isLt
    simp
    omega
  have bytes := extract_packed fits small ⟨b % n, Nat.mod_lt _ positive⟩
  rw [copyBack, if_pos element, DebugTransfer.element, bytes]
  have place : b / n * n + b % n = b := Nat.div_add_mod' b n
  simp [place]

/-! ## The receive loop -/

theorem recvLoop_ok (size : Nat) (short : size < 65536) (rbuf : Nat → Exchange) (left k : Nat)
    (total : k + left = 4096) (within : k ≤ (size + 15) / 16) (r : Receipt)
    (ok : ∀ j, k ≤ j → j < (size + 15) / 16 → Exchange.Ok (rbuf j)) :
    (recvLoop size rbuf left (16 * k % 65536) k r).overrun =
        (r.overrun || decide (k < (size + 15) / 16 ∧ ¬ 16 ∣ size)) ∧
      (16 ∣ size → (recvLoop size rbuf left (16 * k % 65536) k r).ret = some IPC_STS_CMD_SUCCESS ∧
        ∀ b < size, (recvLoop size rbuf left (16 * k % 65536) k r).target b =
          if 16 * k ≤ b then byteAt (rbuf (b / 16)).readReg (b % 16) else r.target b) := by
  induction left generalizing k r with
  | zero =>
    have last : k = 4096 := by omega
    have done : ¬ k < (size + 15) / 16 := by omega
    have tall : ¬ 16 ∣ size := by omega
    refine ⟨by simp [recvLoop, done], fun whole => absurd whole tall⟩
  | succ left ih =>
    have small : 16 * k % 65536 = 16 * k := by omega
    by_cases more : k < (size + 15) / 16
    · have next : 16 * k < size := by omega
      have chunk : (rbuf k).wait = IPC_STS_CMD_SUCCESS := ok k (le_refl k) more
      have ctr : (16 * k + IPC_PAYLOAD_SIZE) % 65536 = 16 * (k + 1) % 65536 := by
        rw [Nat.mul_succ]
        rfl
      have step := ih (k + 1) (by omega) (by omega)
        { r with
          target := storeChunk (rbuf k) (16 * k) r.target
          overrun := r.overrun || decide (size < 16 * k + IPC_PAYLOAD_SIZE) }
        fun j after before => ok j (by omega) before
      rw [recvLoop, small, if_pos next, if_neg (not_not.mpr chunk), ctr]
      obtain ⟨overrun, delivers⟩ := step
      refine ⟨?_, fun whole => ⟨(delivers whole).1, fun b inside => ?_⟩⟩
      · have beyond : (size < 16 * k + IPC_PAYLOAD_SIZE ∨
            k + 1 < (size + 15) / 16 ∧ ¬ 16 ∣ size) ↔
              k < (size + 15) / 16 ∧ ¬ 16 ∣ size := by
          unfold IPC_PAYLOAD_SIZE
          omega
        rw [overrun, Bool.or_assoc, ← Bool.decide_or]
        simp only [beyond]
      · rw [(delivers whole).2 b inside]
        unfold storeChunk IPC_PAYLOAD_SIZE
        by_cases later : 16 * (k + 1) ≤ b
        · have after : 16 * k ≤ b := by omega
          rw [if_pos later, if_pos after]
        · by_cases here : 16 * k ≤ b
          · have inChunk : 16 * k ≤ b ∧ b < 16 * k + 16 := by omega
            have chunk : b / 16 = k := by omega
            have place : b - 16 * k = b % 16 := by omega
            rw [if_neg later, if_pos here, chunk]
            refine (if_pos inChunk).trans ?_
            rw [place]
          · have outside : ¬ (16 * k ≤ b ∧ b < 16 * k + 16) := by omega
            rw [if_neg later, if_neg here]
            exact if_neg outside
    · have done : ¬ 16 * k < size := by omega
      rw [recvLoop, small, if_neg done]
      refine ⟨by simp [more], fun whole => ⟨rfl, fun b inside => ?_⟩⟩
      have before : ¬ 16 * k ≤ b := by omega
      simp [before]

theorem recvLoop_fails (size : Nat) (rbuf : Nat → Exchange) (left k : Nat)
    (total : k + left = 4096) (short : size < 65536) (r : Receipt)
    (fails : ∃ j, k ≤ j ∧ j < (size + 15) / 16 ∧ ¬ Exchange.Ok (rbuf j)) :
    (recvLoop size rbuf left (16 * k % 65536) k r).ret = some IPC_STS_CMD_ERROR ∧
      (recvLoop size rbuf left (16 * k % 65536) k r).overrun = r.overrun := by
  induction left generalizing k r with
  | zero =>
    obtain ⟨j, after, before, -⟩ := fails
    omega
  | succ left ih =>
    obtain ⟨j, after, before, failing⟩ := fails
    have small : 16 * k % 65536 = 16 * k := by omega
    have next : 16 * k < size := by omega
    rw [recvLoop, small, if_pos next]
    by_cases here : (rbuf k).wait = IPC_STS_CMD_SUCCESS
    · have later : j ≠ k := by
        rintro rfl
        exact failing here
      have ctr : (16 * k + IPC_PAYLOAD_SIZE) % 65536 = 16 * (k + 1) % 65536 := by
        rw [Nat.mul_succ]
        rfl
      have full : ¬ size < 16 * k + IPC_PAYLOAD_SIZE := by
        unfold IPC_PAYLOAD_SIZE
        omega
      rw [if_neg (not_not.mpr here), ctr]
      obtain ⟨ret, overrun⟩ := ih (k + 1) (by omega)
        { r with
          target := storeChunk (rbuf k) (16 * k) r.target
          overrun := r.overrun || decide (size < 16 * k + IPC_PAYLOAD_SIZE) }
        ⟨j, by omega, before, failing⟩
      refine ⟨ret, overrun.trans ?_⟩
      simp [full]
    · rw [if_pos here]
      exact ⟨rfl, rfl⟩

/-! ## The poll loop -/

theorem error_ne_success : IPC_STS_CMD_ERROR ≠ IPC_STS_CMD_SUCCESS := by decide

theorem pollLoop_ret (poll : Nat → Exchange) (left iter : Nat) :
    (pollLoop poll left iter).1 = IPC_STS_CMD_SUCCESS ↔
      ∀ j, iter ≤ j → j < iter + left → (∀ i, iter ≤ i → i < j → (poll i).readReg 0 = 0) →
        Exchange.Ok (poll j) := by
  induction left generalizing iter with
  | zero =>
    refine iff_of_true rfl fun j after before => ?_
    omega
  | succ left ih =>
    rw [pollLoop]
    by_cases here : (poll iter).wait = IPC_STS_CMD_SUCCESS
    · rw [if_neg (not_not.mpr here)]
      by_cases done : (poll iter).readReg 0 = 0
      · rw [if_neg (not_not.mpr done)]
        rw [show (let rest := pollLoop poll left (iter + 1)
          (rest.1, (poll iter).reports || rest.2)).1 = (pollLoop poll left (iter + 1)).1
          from rfl, ih]
        constructor
        · intro later j after before zeros
          rcases Nat.eq_or_lt_of_le after with rfl | beyond
          · exact here
          · exact later j beyond (by omega) fun i first => zeros i (by omega)
        · intro all j after before zeros
          refine all j (by omega) (by omega) fun i first inside => ?_
          rcases Nat.eq_or_lt_of_le first with rfl | beyond
          · exact done
          · exact zeros i beyond inside
      · rw [if_pos done]
        refine iff_of_true rfl fun j after before zeros => ?_
        rcases Nat.eq_or_lt_of_le after with rfl | beyond
        · exact here
        · exact absurd (zeros iter (le_refl _) beyond) done
    · rw [if_pos here]
      refine iff_of_false error_ne_success fun all => here ?_
      exact all iter (le_refl _) (by omega) fun i after before => by omega

theorem pollLoop_done (poll : Nat → Exchange) (left iter : Nat)
    (ok : (pollLoop poll left iter).1 = IPC_STS_CMD_SUCCESS) :
    (pollLoop poll left iter).2 = true ↔
      ∃ j, iter ≤ j ∧ j < iter + left ∧ (∀ i, iter ≤ i → i < j → (poll i).readReg 0 = 0) ∧
        (poll j).reports = true := by
  induction left generalizing iter with
  | zero =>
    refine iff_of_false (by simp [pollLoop]) ?_
    rintro ⟨j, after, before, -⟩
    omega
  | succ left ih =>
    rw [pollLoop] at ok ⊢
    by_cases here : (poll iter).wait = IPC_STS_CMD_SUCCESS
    · rw [if_neg (not_not.mpr here)] at ok ⊢
      by_cases done : (poll iter).readReg 0 = 0
      · rw [if_neg (not_not.mpr done)] at ok ⊢
        have later := ih (iter + 1) ok
        simp only [Bool.or_eq_true]
        rw [later]
        constructor
        · rintro (now | ⟨j, after, before, zeros, report⟩)
          · exact ⟨iter, le_refl _, by omega, fun i after before => by omega, now⟩
          · refine ⟨j, by omega, by omega, fun i first inside => ?_, report⟩
            rcases Nat.eq_or_lt_of_le first with rfl | beyond
            · exact done
            · exact zeros i beyond inside
        · rintro ⟨j, after, before, zeros, report⟩
          rcases Nat.eq_or_lt_of_le after with rfl | beyond
          · exact Or.inl report
          · exact Or.inr ⟨j, beyond, by omega, fun i first => zeros i (by omega), report⟩
      · rw [if_pos done]
        constructor
        · intro now
          exact ⟨iter, le_refl _, by omega, fun i after before => by omega, now⟩
        · rintro ⟨j, after, before, zeros, report⟩
          rcases Nat.eq_or_lt_of_le after with rfl | beyond
          · exact report
          · exact absurd (zeros iter (le_refl _) beyond) done
    · rw [if_pos here] at ok
      exact absurd ok error_ne_success

/-! ## What is sent and what is received -/

theorem send_opcode {e : Exchange} {len : Nat} {val : Nat → BitVec 16} {opcode : BitVec 6}
    {size : Nat} {message : Message} (member : message ∈ e.send len val opcode size) :
    message.opcode = opcode := by
  unfold Exchange.send at member
  split at member
  · rw [List.mem_singleton] at member
    rw [member]
  · exact nomatch member

theorem sent_iff (req : Request) (env : Env) {mem : Nat → BitVec 8}
    (writes : req.writes = some mem) :
    (∃ message ∈ (aeonIpcDbgCmd req env.dbg).2 ++ (aeonIpcWbuf req env.wbuf).2,
      message.opcode = IPC_OPCODE_WBUF ∧
        message.size.toNat = req.writeSize * req.writeType.bytes ∧
        ∀ b < req.writeSize * req.writeType.bytes, byteAt message.regs b = mem b) ↔
      env.wbuf.taken = true ∧ ∀ b < req.writeSize * req.writeType.bytes,
        env.wbuf.written (b / 2) = true ∨ byteAt env.wbuf.before b = mem b := by
  have small := req.small
  have size : req.writeSizeBytes = req.writeSize * req.writeType.bytes := by
    rw [Request.writeSizeBytes, writes]
    exact Nat.mod_eq_of_lt (by omega)
  have words : req.writeSizeWords = (req.writeSize * req.writeType.bytes + 1) / 2 := by
    rw [Request.writeSizeWords, size]
    exact Nat.mod_eq_of_lt (by omega)
  have byte : ∀ b < req.writeSize * req.writeType.bytes,
      (byteAt (fun i => if i < min req.writeSizeWords 8 ∧ env.wbuf.written i = true
        then writeIpcData req.writeType req.writeSize mem i else env.wbuf.before i) b = mem b ↔
        env.wbuf.written (b / 2) = true ∨ byteAt env.wbuf.before b = mem b) := by
    intro b inside
    have place : b / 2 < min req.writeSizeWords 8 := by
      rw [words]
      omega
    by_cases arrives : env.wbuf.written (b / 2) = true
    · refine iff_of_true ?_ (Or.inl arrives)
      rw [← writeIpcData_byte req.writeType req.writeSize mem b inside]
      exact byteAt_congr (if_pos ⟨place, arrives⟩)
    · rw [byteAt_congr (if_neg fun both => arrives both.2)]
      exact (or_iff_right arrives).symm
  have sent : (aeonIpcWbuf req env.wbuf).2 = env.wbuf.send req.writeSizeWords
      (writeIpcData req.writeType req.writeSize mem) IPC_OPCODE_WBUF req.writeSizeBytes := by
    rw [aeonIpcWbuf, writes]
  constructor
  · rintro ⟨message, member, opcode, -, bytes⟩
    rcases List.mem_append.mp member with first | second
    · have other := send_opcode (e := env.dbg) first
      rw [opcode] at other
      exact absurd other (by decide)
    · rw [sent, Exchange.send] at second
      split at second
      · rename_i taken
        rw [List.mem_singleton] at second
        rw [second] at bytes
        exact ⟨taken, fun b inside => (byte b inside).mp (bytes b inside)⟩
      · exact nomatch second
  · rintro ⟨taken, bytes⟩
    rw [sent, Exchange.send, if_pos taken]
    refine ⟨_, List.mem_append_right _ List.mem_cons_self, rfl, ?_,
      fun b inside => (byte b inside).mpr (bytes b inside)⟩
    rw [size, BitVec.toNat_ofNat]
    exact Nat.mod_eq_of_lt (by omega)

theorem answer_iff (req : Request) (env : Env) (whole : 16 ∣ req.recvSize) :
    (∀ b < req.recvSize, (env.rbuf (b / 16)).taken = true ∧
      byteAt (env.rbuf (b / 16)).readReg (b % 16) = byteAt (env.rbuf (b / 16)).data (b % 16)) ↔
      ∀ k < chunks req, (env.rbuf k).taken = true ∧
        ∀ i < 8, (env.rbuf k).readReg i = (env.rbuf k).data i := by
  unfold chunks
  constructor
  · intro bytes k within
    have first := bytes (16 * k) (by omega)
    rw [Nat.mul_div_cancel_left k (by decide)] at first
    refine ⟨first.1, fun i small => word_of_bytes ?_ ?_⟩
    · have low := (bytes (16 * k + 2 * i) (by omega)).2
      have chunk : (16 * k + 2 * i) / 16 = k := by omega
      have place : (16 * k + 2 * i) % 16 = 2 * i := by omega
      have word : 2 * i / 2 = i := by omega
      have even : 2 * i % 2 = 0 := by omega
      rw [chunk, place] at low
      unfold byteAt at low
      rw [word, even] at low
      exact low
    · have high := (bytes (16 * k + (2 * i + 1)) (by omega)).2
      have chunk : (16 * k + (2 * i + 1)) / 16 = k := by omega
      have place : (16 * k + (2 * i + 1)) % 16 = 2 * i + 1 := by omega
      have word : (2 * i + 1) / 2 = i := by omega
      have odd : (2 * i + 1) % 2 = 1 := by omega
      rw [chunk, place] at high
      unfold byteAt at high
      rw [word, odd] at high
      exact high
  · intro words b inside
    obtain ⟨taken, same⟩ := words (b / 16) (by omega)
    exact ⟨taken, byteAt_congr (same _ (by omega))⟩

/-! ## The steps of the operation -/

def sentMessages (req : Request) (env : Env) : List Message :=
  (aeonIpcDbgCmd req env.dbg).2 ++ (aeonIpcWbuf req env.wbuf).2

theorem dbgCmd_ret (req : Request) (e : Exchange) :
    (aeonIpcDbgCmd req e).1 = IPC_STS_CMD_SUCCESS ↔ Exchange.Ok e := by
  rw [aeonIpcDbgCmd]
  by_cases ok : e.wait = IPC_STS_CMD_SUCCESS
  · exact iff_of_true (if_neg (not_not.mpr ok)) ok
  · refine iff_of_false (fun success => ?_) ok
    rw [if_pos ok] at success
    exact error_ne_success success

theorem wbuf_ret (req : Request) (e : Exchange) :
    (aeonIpcWbuf req e).1 = IPC_STS_CMD_SUCCESS ↔ (req.writes.isSome → Exchange.Ok e) := by
  rw [aeonIpcWbuf]
  cases writes : req.writes with
  | none => exact iff_of_true rfl nofun
  | some mem =>
    by_cases ok : e.wait = IPC_STS_CMD_SUCCESS
    · exact iff_of_true (if_neg (not_not.mpr ok)) fun _ => ok
    · refine iff_of_false (fun success => ?_) fun all => ok (all rfl)
      rw [if_pos ok] at success
      exact error_ne_success success

theorem poll_ret (poll : Nat → Exchange) :
    (aeonIpcPoll poll).1 = IPC_STS_CMD_SUCCESS ↔
      ∀ j < MAX_POLL, (∀ i < j, (poll i).readReg 0 = 0) → Exchange.Ok (poll j) := by
  rw [aeonIpcPoll, pollLoop_ret]
  simp only [Nat.zero_le, true_implies, Nat.zero_add]

theorem poll_done (poll : Nat → Exchange) (ok : (aeonIpcPoll poll).1 = IPC_STS_CMD_SUCCESS) :
    (aeonIpcPoll poll).2 = true ↔
      ∃ j < MAX_POLL, (∀ i < j, (poll i).readReg 0 = 0) ∧ (poll j).reports = true := by
  rw [aeonIpcPoll, pollLoop_done poll MAX_POLL 0 ok]
  simp only [Nat.zero_le, true_implies, true_and, Nat.zero_add]

variable {req : Request} {env : Env}

theorem operation_reaches (reaches : Reaches req env) :
    aeonIpcOperation req env =
      aeonIpcRecv req env (sentMessages req env) (aeonIpcPoll env.poll).2 := by
  have dbg := (dbgCmd_ret req env.dbg).mpr reaches.dbg
  have wbuf := (wbuf_ret req env.wbuf).mpr reaches.wbuf
  have poll := (poll_ret env.poll).mpr reaches.poll
  rw [aeonIpcOperation, if_neg (not_not.mpr dbg), if_neg (not_not.mpr wbuf),
    if_neg (not_not.mpr poll), sentMessages]

theorem operation_stopped (ends : ¬ Reaches req env) :
    ∃ received done, aeonIpcOperation req env = stopped req received done := by
  rw [aeonIpcOperation]
  by_cases dbg : (aeonIpcDbgCmd req env.dbg).1 = IPC_STS_CMD_SUCCESS
  · rw [if_neg (not_not.mpr dbg)]
    by_cases wbuf : (aeonIpcWbuf req env.wbuf).1 = IPC_STS_CMD_SUCCESS
    · rw [if_neg (not_not.mpr wbuf)]
      have poll : (aeonIpcPoll env.poll).1 ≠ IPC_STS_CMD_SUCCESS := fun ok =>
        ends ⟨(dbgCmd_ret req env.dbg).mp dbg, (wbuf_ret req env.wbuf).mp wbuf,
          (poll_ret env.poll).mp ok⟩
      rw [if_pos poll]
      exact ⟨_, _, rfl⟩
    · rw [if_pos wbuf]
      exact ⟨_, _, rfl⟩
  · rw [if_pos dbg]
    exact ⟨_, _, rfl⟩

/-! ## The receive step -/

section
variable {req : Request} {env : Env} (received : List Message) (done : Bool)

theorem recv_received : (aeonIpcRecv req env received done).received = received := by
  unfold aeonIpcRecv
  split
  · rfl
  · split
    · rfl
    · split
      · dsimp only
        split <;> rfl
      · rfl

theorem recv_done : (aeonIpcRecv req env received done).done = done := by
  unfold aeonIpcRecv
  split
  · rfl
  · split
    · rfl
    · split
      · dsimp only
        split <;> rfl
      · rfl

theorem recv_none (nothing : req.receives = none) :
    (aeonIpcRecv req env received done).ret = some IPC_STS_CMD_SUCCESS ∧
      (aeonIpcRecv req env received done).overrun = false ∧
      Freed (aeonIpcRecv req env received done) := by
  rw [aeonIpcRecv, nothing]
  exact ⟨rfl, rfl, rfl⟩

theorem receives_pos {buf : Nat → BitVec 8} (some : req.receives = some buf) :
    0 < req.recvSize := by
  by_contra zero
  rw [Request.receives, if_neg zero] at some
  cases some

theorem loop_ok (ok : ChunksOk req env) (r : Receipt) (positive : 0 < req.recvSize)
    (fresh : r.overrun = false) :
    (recvLoop req.recvSize env.rbuf 4096 0 0 r).overrun = decide (¬ 16 ∣ req.recvSize) ∧
      (16 ∣ req.recvSize →
        (recvLoop req.recvSize env.rbuf 4096 0 0 r).ret = some IPC_STS_CMD_SUCCESS ∧
          ∀ b < req.recvSize, (recvLoop req.recvSize env.rbuf 4096 0 0 r).target b =
            byteAt (env.rbuf (b / 16)).readReg (b % 16)) := by
  obtain ⟨overrun, delivers⟩ := recvLoop_ok req.recvSize req.short env.rbuf 4096 0 rfl
    (Nat.zero_le _) r fun j _ before => ok j before
  refine ⟨overrun.trans ?_, fun whole => ⟨(delivers whole).1, fun b inside => ?_⟩⟩
  · have some : 0 < (req.recvSize + 15) / 16 := by omega
    simp [fresh, some]
  · exact ((delivers whole).2 b inside).trans (if_pos (Nat.zero_le _))

theorem loop_fails (fails : ¬ ChunksOk req env) (r : Receipt) :
    (recvLoop req.recvSize env.rbuf 4096 0 0 r).ret = some IPC_STS_CMD_ERROR ∧
      (recvLoop req.recvSize env.rbuf 4096 0 0 r).overrun = r.overrun := by
  obtain ⟨j, before, failing⟩ : ∃ j < chunks req, ¬ Exchange.Ok (env.rbuf j) := by
    simpa [ChunksOk] using fails
  exact recvLoop_fails req.recvSize env.rbuf 4096 0 rfl req.short r
    ⟨j, Nat.zero_le _, before, failing⟩

theorem recv_passes (some : req.receives.isSome) (memory : Memory req env) (ok : ChunksOk req env) :
    (aeonIpcRecv req env received done).overrun = decide (¬ 16 ∣ req.recvSize) ∧
      (16 ∣ req.recvSize →
        (aeonIpcRecv req env received done).ret = Option.some IPC_STS_CMD_SUCCESS ∧
        Freed (aeonIpcRecv req env received done) ∧
        ∀ b < req.recvSize, (aeonIpcRecv req env received done).recvBuf b =
          byteAt (env.rbuf (b / 16)).readReg (b % 16)) := by
  obtain ⟨buf, receives⟩ := Option.isSome_iff_exists.mp some
  have positive := receives_pos receives
  rw [aeonIpcRecv, receives]
  dsimp only
  by_cases direct : req.recvType = .uint8
  · rw [if_pos direct]
    obtain ⟨overrun, delivers⟩ := loop_ok ok
      { ret := none, target := buf, overrun := false } positive rfl
    exact ⟨overrun, fun whole => ⟨(delivers whole).1, rfl, (delivers whole).2⟩⟩
  · have allocated : env.kmalloc = true := memory.resolve_left direct
    rw [if_neg direct, if_pos allocated]
    obtain ⟨overrun, delivers⟩ := loop_ok ok
      { ret := none, target := fun _ => 0, overrun := false } positive rfl
    refine ⟨?_, fun whole => ?_⟩
    · split <;> exact overrun
    · obtain ⟨ret, bytes⟩ := delivers whole
      rw [if_pos ret]
      refine ⟨ret, rfl, fun b inside => ?_⟩
      have elements : req.recvType.bytes ∣ req.recvSize := by
        refine dvd_trans ?_ whole
        cases req.recvType <;> decide
      have some : 0 < req.recvType.bytes := by cases req.recvType <;> decide
      have fits : 8 * req.recvType.bytes ≤ 32 := by cases req.recvType <;> decide
      exact (copyBack_byte _ buf b some fits elements inside).trans (bytes b inside)

theorem recv_fails (some : req.receives.isSome) (fails : ¬ (Memory req env ∧ ChunksOk req env)) :
    (aeonIpcRecv req env received done).ret = Option.some IPC_STS_CMD_ERROR ∧
      (aeonIpcRecv req env received done).overrun = false ∧
      (aeonIpcRecv req env received done).frees = 0 ∧
      (aeonIpcRecv req env received done).allocated =
        (decide (req.recvType ≠ .uint8) && env.kmalloc) := by
  obtain ⟨buf, receives⟩ := Option.isSome_iff_exists.mp some
  rw [aeonIpcRecv, receives]
  dsimp only
  by_cases direct : req.recvType = .uint8
  · rw [if_pos direct]
    have failing : ¬ ChunksOk req env := fun ok => fails ⟨Or.inl direct, ok⟩
    obtain ⟨ret, overrun⟩ := loop_fails failing { ret := none, target := buf, overrun := false }
    exact ⟨ret, overrun, rfl, by simp [direct]⟩
  · rw [if_neg direct]
    by_cases allocated : env.kmalloc = true
    · have failing : ¬ ChunksOk req env := fun ok => fails ⟨Or.inr allocated, ok⟩
      obtain ⟨ret, overrun⟩ := loop_fails failing
        { ret := none, target := fun _ => 0, overrun := false }
      have failed : (recvLoop req.recvSize env.rbuf 4096 0 0
          { ret := none, target := fun _ => 0, overrun := false }).ret ≠
            Option.some IPC_STS_CMD_SUCCESS := by
        rw [ret]
        exact fun same => error_ne_success (Option.some.inj same)
      rw [if_pos allocated, if_neg failed]
      exact ⟨ret, overrun, rfl, by simp [direct, allocated]⟩
    · rw [if_neg allocated]
      exact ⟨rfl, rfl, rfl, by simp [allocated]⟩

end

/-! ## The operation keeps its word -/

theorem sentMessages_eq (reaches : Reaches req env) :
    (aeonIpcOperation req env).received = sentMessages req env := by
  rw [operation_reaches reaches, recv_received]

theorem done_iff (reaches : Reaches req env) :
    (aeonIpcOperation req env).done = true ↔
      ∃ j < MAX_POLL, (∀ i < j, (env.poll i).readReg 0 = 0) ∧ (env.poll j).reports = true := by
  rw [operation_reaches reaches, recv_done]
  exact poll_done env.poll ((poll_ret env.poll).mpr reaches.poll)

theorem passes_ret (passes : Passes req env) (whole : req.receives.isSome → 16 ∣ req.recvSize) :
    (aeonIpcOperation req env).ret = some IPC_STS_CMD_SUCCESS ∧
      (aeonIpcOperation req env).overrun = false ∧
      Freed (aeonIpcOperation req env) := by
  rw [operation_reaches passes.1]
  cases receives : req.receives with
  | none => exact recv_none _ _ receives
  | some buf =>
    have isSome : req.receives.isSome := by rw [receives]; rfl
    obtain ⟨memory, ok⟩ := passes.2 isSome
    obtain ⟨overrun, delivers⟩ := recv_passes (sentMessages req env)
      (aeonIpcPoll env.poll).2 isSome memory ok
    obtain ⟨ret, frees, -⟩ := delivers (whole isSome)
    refine ⟨ret, overrun.trans ?_, frees⟩
    simp [whole isSome]

theorem passes_answer (passes : Passes req env) (isSome : req.receives.isSome)
    (whole : 16 ∣ req.recvSize) :
    ∀ b < req.recvSize, (aeonIpcOperation req env).recvBuf b =
      byteAt (env.rbuf (b / 16)).readReg (b % 16) := by
  rw [operation_reaches passes.1]
  obtain ⟨memory, ok⟩ := passes.2 isSome
  exact ((recv_passes _ _ isSome memory ok).2 whole).2.2

theorem answered_iff (passes : Passes req env) (isSome : req.receives.isSome)
    (whole : 16 ∣ req.recvSize) :
    (∀ b < req.recvSize, (env.rbuf (b / 16)).taken = true ∧
      (aeonIpcOperation req env).recvBuf b = byteAt (env.rbuf (b / 16)).data (b % 16)) ↔
      ∀ k < chunks req, (env.rbuf k).taken = true ∧
        ∀ i < 8, (env.rbuf k).readReg i = (env.rbuf k).data i := by
  rw [← answer_iff req env whole]
  refine forall₂_congr fun b inside => ?_
  rw [passes_answer passes isSome whole b inside]

theorem spared_of_right (right : Right req env) : Spared req env := by
  have whole : Passes req env → req.receives.isSome → 16 ∣ req.recvSize := by
    intro passes isSome
    obtain ⟨memory, ok⟩ := passes.2 isSome
    have bounds := right.bounds
    rw [operation_reaches passes.1, (recv_passes _ _ isSome memory ok).1] at bounds
    simpa using bounds
  have ret := fun passes => (passes_ret passes (whole passes)).1
  refine ⟨whole, fun reaches isSome buffered allocated => ?_, fun passes mem writes => ?_,
    fun passes => ?_, fun passes isSome => ?_⟩
  · by_contra failing
    have freed := right.freed
    rw [operation_reaches reaches, Freed] at freed
    obtain ⟨-, -, frees, kept⟩ := recv_fails (sentMessages req env) (aeonIpcPoll env.poll).2
      isSome fun both => failing both.2
    rw [frees, kept] at freed
    simp [buffered, allocated] at freed
  · have sent := right.sent (ret passes) mem writes
    rw [sentMessages_eq passes.1] at sent
    exact (sent_iff req env writes).mp sent
  · exact (done_iff passes.1).mp (right.done (ret passes))
  · exact (answered_iff passes isSome (whole passes isSome)).mp
      (right.answer (ret passes) isSome)

theorem right_of_failed (failed : (aeonIpcOperation req env).ret ≠ some IPC_STS_CMD_SUCCESS)
    (bounds : (aeonIpcOperation req env).overrun = false)
    (freed : Freed (aeonIpcOperation req env)) : Right req env where
  sent := fun ret => absurd ret failed
  done := fun ret => absurd ret failed
  answer := fun ret => absurd ret failed
  bounds := bounds
  freed := freed

theorem right_of_spared (spared : Spared req env) : Right req env := by
  have error : (some IPC_STS_CMD_ERROR : Option Status) ≠ some IPC_STS_CMD_SUCCESS :=
    fun same => error_ne_success (Option.some.inj same)
  by_cases reaches : Reaches req env
  · by_cases receipt : req.receives.isSome → Memory req env ∧ ChunksOk req env
    · have passes : Passes req env := ⟨reaches, receipt⟩
      obtain ⟨-, bounds, freed⟩ := passes_ret passes (spared.whole passes)
      refine ⟨fun _ mem writes => ?_, fun _ => (done_iff reaches).mpr (spared.done passes),
        fun _ isSome => ?_, bounds, freed⟩
      · rw [sentMessages_eq reaches]
        exact (sent_iff req env writes).mpr (spared.sent passes mem writes)
      · exact (answered_iff passes isSome (spared.whole passes isSome)).mpr
          (spared.answered passes isSome)
    · obtain ⟨isSome, fails⟩ := Classical.not_imp.mp receipt
      obtain ⟨ret, bounds, frees, kept⟩ := recv_fails (sentMessages req env)
        (aeonIpcPoll env.poll).2 isSome fails
      rw [← operation_reaches reaches] at ret bounds frees kept
      refine right_of_failed (by rw [ret]; exact error) bounds ?_
      have unallocated : (decide (req.recvType ≠ .uint8) && env.kmalloc) = false := by
        rw [Bool.and_eq_false_iff, decide_eq_false_iff_not]
        by_cases buffered : req.recvType ≠ .uint8
        · refine Or.inr (Bool.eq_false_iff.mpr fun allocated => fails ?_)
          exact ⟨Or.inr allocated, spared.kept reaches isSome buffered allocated⟩
        · exact Or.inl buffered
      rw [Freed, frees, kept, unallocated]
      rfl
  · obtain ⟨received, done, same⟩ := operation_stopped reaches
    refine right_of_failed ?_ ?_ ?_
    · rw [same]
      exact error
    · rw [same]
      rfl
    · rw [same]
      rfl

/-- The exact condition. -/
theorem transfer_right_iff (req : Request) (env : Env) : Right req env ↔ Spared req env :=
  ⟨spared_of_right, right_of_spared⟩

/-! ## A mode that is read into one byte -/

def answering (answer : BitVec 16) : Exchange where
  written := fun _ => true
  before := fun _ => 0
  taken := true
  readings := []
  final := { val := 0x8004, getPar := false, expired := false }
  data := fun _ => answer
  failed := fun _ => none

def modeGet : Request where
  dbgSec := 0
  dbgCmd := 0
  writeData := none
  writeSize := 0
  writeType := .uint8
  recvBuf := some fun _ => 0
  recvSize := 1
  recvType := .uint8
  small := by decide
  short := by decide

def cooperative : Env where
  dbg := answering 0
  wbuf := answering 0
  poll := fun _ => answering 1
  rbuf := fun _ => answering 0x2A
  kmalloc := true

/-- The firmware does all that is asked, and a chunk runs over the caller's byte. -/
theorem one_byte_overruns : (aeonIpcOperation modeGet cooperative).overrun = true ∧
    (aeonIpcOperation modeGet cooperative).recvBuf 15 = 0 ∧
    (aeonIpcOperation modeGet cooperative).recvBuf 14 = 0x2A ∧
    ¬ Right modeGet cooperative := by
  have overrun : (aeonIpcOperation modeGet cooperative).overrun = true := by decide
  refine ⟨overrun, by decide, by decide, fun right => ?_⟩
  rw [right.bounds] at overrun
  exact nomatch overrun

end OpenwrtSource.As21xxx.TransferSafety
