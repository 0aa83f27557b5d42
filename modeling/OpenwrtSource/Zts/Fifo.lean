import Mathlib.Algebra.Order.Ring.Int
import Mathlib.Data.List.Basic

/-!
# The FIFO of the ZTS8232 pressure sensor

`zts8232_calculate` reads the fill level, copies the packets into a buffer of 96 bytes,
unpacks the samples into two arrays of twenty and extends their signs.  The level is
checked where it is read, and the result of the check does not reach the caller.
-/

namespace OpenwrtSource.Zts.Fifo

/-- The lengths of `fifo_data`, and of `data_temp` and `data_press`. -/
def fifoDataSize : Nat := 96
def samplesSize : Nat := 20

def ZTS8232_REG_PRESS_DATA_0 : Nat := 0xFA
def BIT_FIFO_LEVEL_MASK : Nat := 0x1F

inductive Quantity
  | pressure
  | temperature
  deriving DecidableEq, Repr

/-- `enum zts8232_FIFO_readout_mode` -/
inductive ReadoutMode
  | presTemp
  | tempOnly
  | tempPres
  | presOnly
  deriving DecidableEq, Repr

def ReadoutMode.quantities : ReadoutMode → List Quantity
  | .presTemp => [.pressure, .temperature]
  | .tempOnly => [.temperature]
  | .tempPres => [.temperature, .pressure]
  | .presOnly => [.pressure]

/-- What `regmap_bulk_read` does: its result, and the bytes it puts into the buffer. -/
structure Transfer where
  status : Int
  written : Nat
  bytes : Nat → BitVec 8

structure Bus where
  /-- `regmap_read` of `ZTS8232_REG_FIFO_FILL` -/
  fillStatus : Int
  fillVal : Nat
  /-- by the first register and the length -/
  bulkRead : Nat → Nat → Transfer
  within : ∀ reg len, (bulkRead reg len).written ≤ len
  complete : ∀ reg len, (bulkRead reg len).status = 0 → (bulkRead reg len).written = len

/-- The sample arrays and the running offset, with a record of every access to the buffer
and the arrays and of every eight-bit length and offset. -/
structure State where
  samples : Quantity → Nat → BitVec 32
  offset : Nat
  inRange : Bool
  wrapped : Bool

def sample (packetData : Nat → BitVec 8) (offset : Nat) : BitVec 32 :=
  ((packetData (offset + 2)).setWidth 32 &&& 0x0f) <<< 16 |||
    (packetData (offset + 1)).setWidth 32 <<< 8 ||| (packetData offset).setWidth 32

def store (samples : Quantity → Nat → BitVec 32) (q : Quantity) (i : Nat) (x : BitVec 32) :
    Quantity → Nat → BitVec 32 :=
  fun other j => if other = q ∧ j = i then x else samples other j

/-- One sample of packet `i`. -/
def take (packetData : Nat → BitVec 8) (i : Nat) (s : State) (q : Quantity) : State where
  samples := store s.samples q i (sample packetData s.offset)
  offset := (s.offset + 3) % 256
  inRange := s.inRange && decide (s.offset + 2 < fifoDataSize) && decide (i < samplesSize)
  wrapped := s.wrapped || decide (256 ≤ s.offset + 3)

def processPacket (mode : ReadoutMode) (packetData : Nat → BitVec 8) (s : State) (i : Nat) :
    State :=
  mode.quantities.foldl (take packetData i) s

def processRawData (mode : ReadoutMode) (packetCnt : Nat) (packetData : Nat → BitVec 8)
    (s : State) : State :=
  (List.range packetCnt).foldl (processPacket mode packetData) { s with offset := 0 }

def extendSign (x : BitVec 32) : BitVec 32 :=
  if x &&& 0x080000 ≠ 0 then x ||| 0xFFF00000 else x

def displayOne (s : State) (i : Nat) : State :=
  { s with
    samples := fun q j => if j = i then extendSign (s.samples q i) else s.samples q j
    inRange := s.inRange && decide (i < samplesSize) }

def displayPressTemp (fifoPackets : Nat) (s : State) : State :=
  (List.range fifoPackets).foldl displayOne s

def fifoReadOffset (mode : ReadoutMode) : Nat :=
  if mode = .presOnly ∨ mode = .tempOnly then 3 else 0

def getFifoData (mode : ReadoutMode) (bus : Bus) (reqPacketCnt : Nat) : Transfer :=
  bus.bulkRead (ZTS8232_REG_PRESS_DATA_0 + fifoReadOffset mode) (reqPacketCnt * 2 * 3 % 256)

/-- The status, and `*fifo_cnt`, which starts as zero. -/
def getFifoCount (bus : Bus) : Int × Nat :=
  if bus.fillStatus ≠ 0 then (bus.fillStatus, 0)
  else
    let cnt := (bus.fillVal &&& BIT_FIFO_LEVEL_MASK) % 256
    (if cnt &&& 0x10 ≠ 0 ∧ cnt &&& 0x0f ≠ 0 then -1 else 0, cnt)

structure Result where
  rc : Int
  state : State
  pressure : BitVec 32
  temp : BitVec 32

/-- `fifo_data` after the transfer, from zeros. -/
def buffer (transfer : Transfer) (k : Nat) : BitVec 8 :=
  if k < transfer.written then transfer.bytes k else 0

/-- What a call does with a level above zero, and the status it goes on with. -/
def readPackets (mode : ReadoutMode) (bus : Bus) (fifoCnt : Nat)
    (samples : Quantity → Nat → BitVec 32) : Int × State :=
  let transfer := getFifoData mode bus fifoCnt
  let s : State :=
    { samples := samples
      offset := 0
      inRange := decide (transfer.written ≤ fifoDataSize)
      wrapped := decide (256 ≤ fifoCnt * 2 * 3) }
  (transfer.status, displayPressTemp fifoCnt (processRawData mode fifoCnt (buffer transfer) s))

def clearFirst (s : State) : State :=
  { s with samples := store (store s.samples .pressure 0 0) .temperature 0 0 }

def calculate (mode : ReadoutMode) (bus : Bus) (samples : Quantity → Nat → BitVec 32) :
    Result :=
  let count := getFifoCount bus
  let read : Int × State :=
    if 0 < count.2 then readPackets mode bus count.2 samples
    else (count.1, { samples := samples, offset := 0, inRange := true, wrapped := false })
  let s := if read.1 ≠ 0 then clearFirst read.2 else read.2
  { rc := read.1, state := s, pressure := s.samples .pressure 0, temp := s.samples .temperature 0 }

def level (bus : Bus) : Nat := bus.fillVal &&& BIT_FIFO_LEVEL_MASK

def ReadoutMode.width (mode : ReadoutMode) : Nat := 3 * mode.quantities.length

/-- The place of a quantity in packet `i`. -/
def ReadoutMode.place (mode : ReadoutMode) (q : Quantity) (i : Nat) : Nat :=
  mode.width * i + 3 * mode.quantities.idxOf q

def sampleValue (b0 b1 b2 : BitVec 8) : BitVec 32 :=
  ((b2 ++ b1 ++ b0 : BitVec 24).setWidth 20).signExtend 32

structure Right (mode : ReadoutMode) (bus : Bus) (samples : Quantity → Nat → BitVec 32) :
    Prop where
  inRange : (calculate mode bus samples).state.inRange = true
  noWrap : (calculate mode bus samples).state.wrapped = false
  error : bus.fillStatus ≠ 0 ∨ 16 < level bus → (calculate mode bus samples).rc ≠ 0
  value : bus.fillStatus = 0 → level bus ≤ 16 → 0 < level bus →
    (getFifoData mode bus (level bus)).status = 0 → ∀ i < level bus, ∀ q ∈ mode.quantities,
      (calculate mode bus samples).state.samples q i =
        sampleValue ((getFifoData mode bus (level bus)).bytes (mode.place q i))
          ((getFifoData mode bus (level bus)).bytes (mode.place q i + 1))
          ((getFifoData mode bus (level bus)).bytes (mode.place q i + 2))

/-- The level cannot be read, or it is lawful, or it is one that the arrays hold, in a mode
of single samples, and the bus fails before it fills the buffer. -/
def Spared (mode : ReadoutMode) (bus : Bus) : Prop :=
  bus.fillStatus ≠ 0 ∨ level bus ≤ 16 ∨
    (mode.quantities.length = 1 ∧ level bus ≤ samplesSize ∧
      (getFifoData mode bus (level bus)).status ≠ 0 ∧
      (getFifoData mode bus (level bus)).written ≤ fifoDataSize)

theorem sign_bit (x : BitVec 32) : x &&& 0x080000 ≠ 0 ↔ x.getLsbD 19 = true := by
  have power : (0x080000 : BitVec 32) = BitVec.twoPow 32 19 := by decide
  rw [power, BitVec.and_twoPow]
  cases x.getLsbD 19 with
  | true => decide
  | false => simp

theorem high_bits (i : Nat) (small : i < 32) :
    (0xFFF00000 : BitVec 32).getLsbD i = decide (20 ≤ i) := by
  have all : ∀ i < 32, (0xFFF00000 : BitVec 32).getLsbD i = decide (20 ≤ i) := by decide
  exact all i small

theorem low_nibble (i : Nat) : (0x0f : BitVec 32).getLsbD i = decide (i < 4) := by
  by_cases small : i < 32
  · have all : ∀ i < 32, (0x0f : BitVec 32).getLsbD i = decide (i < 4) := by decide
    exact all i small
  · have far : ¬ i < 4 := by omega
    rw [BitVec.getLsbD_of_ge _ _ (by omega)]
    simp [far]

theorem sample_bit (packetData : Nat → BitVec 8) (offset i : Nat) (small : i < 32) :
    (sample packetData offset).getLsbD i = (decide (i < 20) &&
      (packetData (offset + 2) ++ packetData (offset + 1) ++ packetData offset :
        BitVec 24).getLsbD i) := by
  have beyond : ∀ (byte : BitVec 8) (k : Nat), 8 ≤ k → byte.getLsbD k = false :=
    fun byte k far => BitVec.getLsbD_of_ge byte k far
  unfold sample
  simp only [BitVec.getLsbD_or, BitVec.getLsbD_shiftLeft, BitVec.getLsbD_and,
    BitVec.getLsbD_setWidth, low_nibble, BitVec.getLsbD_append, small, decide_true, Bool.true_and]
  by_cases first : i < 8
  · have second : i < 16 := by omega
    have third : i < 20 := by omega
    simp [first, second, third]
  · by_cases second : i < 16
    · have third : i < 20 := by omega
      have place : i - 8 < 8 := by omega
      have inWord : i - 8 < 32 := by omega
      simp [first, second, third, place, inWord, beyond _ i (by omega)]
    · have place : ¬ i - 8 < 8 := by omega
      have inWord : i - 16 < 32 := by omega
      have same : i - 8 - 8 = i - 16 := by omega
      by_cases third : i < 20
      · have nibble : i - 16 < 4 := by omega
        simp [first, second, third, place, inWord, nibble, same, beyond _ i (by omega),
          beyond _ (i - 8) (by omega)]
      · have nibble : ¬ i - 16 < 4 := by omega
        simp [first, second, third, nibble, beyond _ i (by omega), beyond _ (i - 8) (by omega)]

theorem extendSign_sample (packetData : Nat → BitVec 8) (offset : Nat) :
    extendSign (sample packetData offset) =
      sampleValue (packetData offset) (packetData (offset + 1)) (packetData (offset + 2)) := by
  apply BitVec.eq_of_getLsbD_eq
  intro i small
  have top := sample_bit packetData offset 19 (by omega)
  have bit := sample_bit packetData offset i small
  unfold extendSign sampleValue
  rw [BitVec.getLsbD_signExtend, BitVec.msb_setWidth, BitVec.getLsbD_setWidth]
  simp only [show 20 - 1 = 19 from rfl, small, decide_true, Bool.true_and,
    show 0 < 20 from by decide] at top ⊢
  by_cases negative : (sample packetData offset) &&& 0x080000 ≠ 0
  · rw [if_pos negative, BitVec.getLsbD_or, high_bits i small, bit]
    rw [sign_bit, top] at negative
    by_cases third : i < 20
    · simp [third]
    · have high : 20 ≤ i := by omega
      simp [third, high]
      simpa using negative
  · rw [if_neg negative, bit]
    rw [sign_bit, top] at negative
    by_cases third : i < 20
    · simp [third]
    · simp [third]
      simpa using negative

theorem take_eq (packetData : Nat → BitVec 8) (i : Nat) (s : State) (q : Quantity)
    (small : s.offset + 3 < 256) :
    take packetData i s q =
      { samples := store s.samples q i (sample packetData s.offset)
        offset := s.offset + 3
        inRange := s.inRange && decide (s.offset + 3 ≤ fifoDataSize ∧ i < samplesSize)
        wrapped := s.wrapped } := by
  have fits : ¬ 256 ≤ s.offset + 3 := by omega
  have last : s.offset + 2 < fifoDataSize ↔ s.offset + 3 ≤ fifoDataSize := by omega
  simp [take, Nat.mod_eq_of_lt small, fits, last, Bool.and_assoc]

theorem store_here (samples : Quantity → Nat → BitVec 32) (q : Quantity) (i : Nat)
    (x : BitVec 32) : store samples q i x q i = x := by simp [store]

theorem store_other (samples : Quantity → Nat → BitVec 32) {q other : Quantity} {i j : Nat}
    (x : BitVec 32) (apart : ¬ (other = q ∧ j = i)) :
    store samples q i x other j = samples other j := by simp [store, apart]

/-- What a packet does: its samples, the bytes it needs and the slots of the arrays. -/
structure Packet (mode : ReadoutMode) (packetData : Nat → BitVec 8) (i : Nat) (before s : State) :
    Prop where
  offset : s.offset = before.offset + mode.width
  wrapped : s.wrapped = before.wrapped
  inRange : s.inRange = (before.inRange &&
    decide (before.offset + mode.width ≤ fifoDataSize ∧ i < samplesSize))
  here : ∀ q ∈ mode.quantities, s.samples q i =
    sample packetData (before.offset + 3 * mode.quantities.idxOf q)
  others : ∀ q j, j ≠ i → s.samples q j = before.samples q j

variable {bus : Bus} (mode : ReadoutMode)

theorem processPacket_one (q : Quantity) (one : mode.quantities = [q]) (packetData : Nat → BitVec 8)
    (s : State) (i : Nat) (small : s.offset + mode.width < 256) :
    Packet mode packetData i s (processPacket mode packetData s i) := by
  have width : mode.width = 3 := by simp [ReadoutMode.width, one]
  rw [width] at small
  rw [processPacket, one, List.foldl_cons, List.foldl_nil, take_eq packetData i s q small]
  refine ⟨by rw [width], rfl, by rw [width], ?_, ?_⟩
  · intro other member
    rw [one, List.mem_singleton] at member
    rw [member, one]
    simp [store_here]
  · intro other j apart
    exact store_other _ _ fun same => apart same.2

theorem processPacket_two (q r : Quantity) (two : mode.quantities = [q, r]) (distinct : r ≠ q)
    (packetData : Nat → BitVec 8) (s : State) (i : Nat) (small : s.offset + mode.width < 256) :
    Packet mode packetData i s (processPacket mode packetData s i) := by
  have width : mode.width = 6 := by simp [ReadoutMode.width, two]
  rw [width] at small
  rw [processPacket, two, List.foldl_cons, List.foldl_cons, List.foldl_nil,
    take_eq packetData i s q (by omega), take_eq packetData i _ r (by simp only; omega)]
  refine ⟨by simp only [width], rfl, ?_, ?_, ?_⟩
  · rw [width]
    have both : (s.offset + 3 ≤ fifoDataSize ∧ i < samplesSize) ∧
        s.offset + 3 + 3 ≤ fifoDataSize ∧ i < samplesSize ↔
          s.offset + 6 ≤ fifoDataSize ∧ i < samplesSize := by omega
    simp only [Bool.and_assoc, ← Bool.decide_and, both]
  · intro other member
    rw [two] at member
    rcases List.mem_cons.mp member with rfl | inRest
    · refine (store_other _ _ fun same => distinct same.1.symm).trans ?_
      rw [two]
      simp [store_here]
    · rw [List.mem_singleton] at inRest
      rw [inRest, two, List.idxOf_cons_ne _ distinct.symm]
      simp [store_here]
  · intro other j apart
    exact (store_other _ _ fun same => apart same.2).trans
      (store_other _ _ fun same => apart same.2)

theorem processPacket_spec (packetData : Nat → BitVec 8) (s : State) (i : Nat)
    (small : s.offset + mode.width < 256) :
    Packet mode packetData i s (processPacket mode packetData s i) := by
  cases mode with
  | presTemp => exact processPacket_two _ _ _ rfl (by decide) packetData s i small
  | tempOnly => exact processPacket_one _ _ rfl packetData s i small
  | tempPres => exact processPacket_two _ _ _ rfl (by decide) packetData s i small
  | presOnly => exact processPacket_one _ _ rfl packetData s i small

/-- After `n` packets. -/
structure Unpacked (mode : ReadoutMode) (packetData : Nat → BitVec 8) (before : State) (n : Nat)
    (s : State) : Prop where
  offset : s.offset = mode.width * n
  wrapped : s.wrapped = before.wrapped
  inRange : s.inRange =
    (before.inRange && decide (mode.width * n ≤ fifoDataSize ∧ n ≤ samplesSize))
  samples : ∀ i < n, ∀ q ∈ mode.quantities,
    s.samples q i = sample packetData (mode.place q i)

theorem width_le : mode.width ≤ 6 := by
  cases mode with
  | presTemp => decide
  | tempOnly => decide
  | tempPres => decide
  | presOnly => decide

theorem processRawData_unpacked (packetData : Nat → BitVec 8) (before : State) (n : Nat)
    (small : n ≤ 31) :
    Unpacked mode packetData before n (processRawData mode n packetData before) := by
  have width := width_le mode
  unfold processRawData
  induction n with
  | zero => exact ⟨rfl, rfl, by simp, nofun⟩
  | succ n ih =>
    have prior := ih (by omega)
    rw [List.range_succ, List.foldl_append, List.foldl_cons, List.foldl_nil]
    generalize (List.range n).foldl (processPacket mode packetData)
      { before with offset := 0 } = s at prior
    have size : mode.width * n ≤ 6 * 30 := Nat.mul_le_mul width (by omega)
    have next : mode.width * (n + 1) = mode.width * n + mode.width := Nat.mul_succ _ _
    obtain ⟨offset, wrapped, inRange, here, others⟩ :=
      processPacket_spec mode packetData s n (by rw [prior.offset]; omega)
    refine ⟨?_, ?_, ?_, ?_⟩
    · rw [offset, prior.offset, next]
    · rw [wrapped, prior.wrapped]
    · rw [inRange, prior.inRange, prior.offset, next, Bool.and_assoc, ← Bool.decide_and]
      congr 1
      rw [decide_eq_decide]
      omega
    · intro i within q member
      by_cases last : i = n
      · rw [last, here q member, prior.offset]
        rfl
      · rw [others q i last, prior.samples i (by omega) q member]

theorem displayPressTemp_spec (n : Nat) (before : State) :
    (displayPressTemp n before).wrapped = before.wrapped ∧
      (displayPressTemp n before).inRange = (before.inRange && decide (n ≤ samplesSize)) ∧
      ∀ q i, (displayPressTemp n before).samples q i =
        if i < n then extendSign (before.samples q i) else before.samples q i := by
  unfold displayPressTemp
  induction n with
  | zero => simp
  | succ n ih =>
    obtain ⟨wrapped, inRange, samples⟩ := ih
    rw [List.range_succ, List.foldl_append, List.foldl_cons, List.foldl_nil]
    generalize (List.range n).foldl displayOne before = s at *
    refine ⟨wrapped, ?_, ?_⟩
    · have both : n ≤ samplesSize ∧ n < samplesSize ↔ n + 1 ≤ samplesSize := by omega
      simp only [displayOne, inRange, Bool.and_assoc, ← Bool.decide_and, both]
    · intro q i
      simp only [displayOne, samples]
      by_cases last : i = n
      · simp [last]
      · have same : i < n + 1 ↔ i < n := by omega
        simp [last, same]

theorem level_lt (bus : Bus) : level bus < 32 :=
  Nat.lt_succ_of_le Nat.and_le_right

theorem getFifoCount_failed (failed : bus.fillStatus ≠ 0) :
    getFifoCount bus = (bus.fillStatus, 0) := by
  rw [getFifoCount, if_pos failed]

theorem getFifoCount_read (read : bus.fillStatus = 0) :
    getFifoCount bus = (if 16 < level bus then -1 else 0, level bus) := by
  have above : ∀ cnt < 32, (cnt &&& 0x10 ≠ 0 ∧ cnt &&& 0x0f ≠ 0) ↔ 16 < cnt := by decide
  have small : (bus.fillVal &&& BIT_FIFO_LEVEL_MASK) % 256 = level bus := by
    have bound := level_lt bus
    unfold level at *
    omega
  rw [getFifoCount, if_neg (by simp [read])]
  simp only [small, above _ (level_lt bus)]

theorem readPackets_spec (bus : Bus) (fifoCnt : Nat) (samples : Quantity → Nat → BitVec 32)
    (small : fifoCnt ≤ 31) : let read := readPackets mode bus fifoCnt samples
    let transfer := getFifoData mode bus fifoCnt
    read.1 = transfer.status ∧ read.2.wrapped = false ∧
      (read.2.inRange = true ↔ transfer.written ≤ fifoDataSize ∧
        mode.width * fifoCnt ≤ fifoDataSize ∧ fifoCnt ≤ samplesSize) ∧
      ∀ i < fifoCnt, ∀ q ∈ mode.quantities,
        read.2.samples q i = extendSign (sample (buffer transfer) (mode.place q i)) := by
  intro read transfer
  have noWrap : ¬ 256 ≤ fifoCnt * 2 * 3 := by omega
  have unpacked := processRawData_unpacked mode (buffer transfer)
    { samples := samples, offset := 0, inRange := decide (transfer.written ≤ fifoDataSize),
      wrapped := decide (256 ≤ fifoCnt * 2 * 3) } fifoCnt small
  obtain ⟨wrapped, inRange, values⟩ := displayPressTemp_spec fifoCnt
    (processRawData mode fifoCnt (buffer transfer)
      { samples := samples, offset := 0, inRange := decide (transfer.written ≤ fifoDataSize),
        wrapped := decide (256 ≤ fifoCnt * 2 * 3) })
  refine ⟨rfl, ?_, ?_, ?_⟩
  · refine wrapped.trans (unpacked.wrapped.trans ?_)
    simp [noWrap]
  · rw [show read.2.inRange = _ from inRange, unpacked.inRange]
    simp only [Bool.and_eq_true, decide_eq_true_eq]
    omega
  · intro i within q member
    rw [show read.2.samples q i = _ from values q i, if_pos within,
      unpacked.samples i within q member]

theorem calculate_failed (samples : Quantity → Nat → BitVec 32) (failed : bus.fillStatus ≠ 0) :
    (calculate mode bus samples).rc = bus.fillStatus ∧
      (calculate mode bus samples).state.inRange = true ∧
      (calculate mode bus samples).state.wrapped = false := by
  simp [calculate, getFifoCount_failed failed, failed, clearFirst]

theorem calculate_empty (samples : Quantity → Nat → BitVec 32) (read : bus.fillStatus = 0)
    (empty : level bus = 0) :
    (calculate mode bus samples).state.inRange = true ∧
      (calculate mode bus samples).state.wrapped = false := by
  simp [calculate, getFifoCount_read read, empty]

theorem calculate_packets (samples : Quantity → Nat → BitVec 32) (read : bus.fillStatus = 0)
    (some : 0 < level bus) : let result := calculate mode bus samples
    let packets := readPackets mode bus (level bus) samples
    result.rc = packets.1 ∧ result.state.inRange = packets.2.inRange ∧
      result.state.wrapped = packets.2.wrapped ∧
      (packets.1 = 0 → result.state.samples = packets.2.samples) := by
  intro result packets
  have rc : result.rc = packets.1 := by
    simp [result, packets, calculate, getFifoCount_read read, some]
  have state : result.state = if packets.1 ≠ 0 then clearFirst packets.2 else packets.2 := by
    simp [result, packets, calculate, getFifoCount_read read, some]
  rw [state]
  by_cases failed : packets.1 = 0
  · simp [rc, failed]
  · simp [rc, failed, clearFirst]

theorem single_of_fits {n : Nat} (many : 16 < n) (fits : mode.width * n ≤ fifoDataSize) :
    mode.quantities.length = 1 := by
  have least : mode.width * 17 ≤ mode.width * n := Nat.mul_le_mul_left _ many
  unfold fifoDataSize at fits
  cases mode with
  | presTemp =>
    have width : ReadoutMode.presTemp.width = 6 := rfl
    omega
  | tempOnly => rfl
  | tempPres =>
    have width : ReadoutMode.tempPres.width = 6 := rfl
    omega
  | presOnly => rfl

theorem written_le (bus : Bus) (lawful : level bus ≤ 16) :
    (getFifoData mode bus (level bus)).written ≤ fifoDataSize := by
  refine (bus.within _ _).trans ((Nat.mod_le _ _).trans ?_)
  unfold fifoDataSize
  omega

theorem written_eq (bus : Bus) (lawful : level bus ≤ 16)
    (arrived : (getFifoData mode bus (level bus)).status = 0) :
    (getFifoData mode bus (level bus)).written = 6 * level bus := by
  have full := bus.complete _ _ arrived
  unfold getFifoData
  omega

theorem place_lt (q : Quantity) (member : q ∈ mode.quantities) {i n : Nat} (within : i < n) :
    mode.place q i + 2 < 6 * n := by
  have index := List.idxOf_lt_length_of_mem member
  have width := Nat.mul_le_mul_right n (width_le mode)
  have packets : mode.width * (i + 1) ≤ mode.width * n := Nat.mul_le_mul_left _ within
  rw [Nat.mul_succ] at packets
  have size : mode.width = 3 * mode.quantities.length := rfl
  unfold ReadoutMode.place
  omega

theorem buffer_of_lt {transfer : Transfer} {k : Nat} (inside : k < transfer.written) :
    buffer transfer k = transfer.bytes k := if_pos inside

/-- Every read delivers what it is to deliver just in the cases that are spared. -/
theorem right_iff_spared (mode : ReadoutMode) (bus : Bus)
    (samples : Quantity → Nat → BitVec 32) : Right mode bus samples ↔ Spared mode bus := by
  by_cases failed : bus.fillStatus ≠ 0
  · obtain ⟨rc, inRange, noWrap⟩ := calculate_failed mode samples failed
    refine iff_of_true ⟨inRange, noWrap, fun _ => ?_, fun read => absurd read failed⟩
      (Or.inl failed)
    rw [rc]
    exact failed
  · have read : bus.fillStatus = 0 := not_not.mp failed
    by_cases empty : level bus = 0
    · obtain ⟨inRange, noWrap⟩ := calculate_empty mode samples read empty
      refine iff_of_true ⟨inRange, noWrap, fun errors => ?_, fun _ _ some => ?_⟩
        (Or.inr (Or.inl (by omega)))
      · omega
      · omega
    · have some : 0 < level bus := Nat.pos_of_ne_zero empty
      have bound := level_lt bus
      obtain ⟨rc, inRange, wrapped, kept⟩ := calculate_packets mode samples read some
      obtain ⟨status, noWrap, range, values⟩ :=
        readPackets_spec mode bus (level bus) samples (by omega)
      rw [status] at rc kept
      rw [← inRange] at range
      rw [noWrap] at wrapped
      constructor
      · intro right
        obtain ⟨-, fits, slots⟩ := range.mp right.inRange
        by_cases lawful : level bus ≤ 16
        · exact Or.inr (Or.inl lawful)
        · have failing : (getFifoData mode bus (level bus)).status ≠ 0 := by
            rw [← rc]
            exact right.error (Or.inr (by omega))
          exact Or.inr (Or.inr ⟨single_of_fits mode (by omega) fits, slots, failing,
            (range.mp right.inRange).1⟩)
      · rintro (unread | lawful | ⟨single, slots, failing, short⟩)
        · exact absurd read unread
        · have fits : mode.width * level bus ≤ 6 * 16 := Nat.mul_le_mul (width_le mode) lawful
          refine ⟨range.mpr ⟨written_le mode bus lawful, fits, by unfold samplesSize; omega⟩,
            wrapped, fun errors => ?_, fun _ _ _ arrived i within q member => ?_⟩
          · omega
          · rw [kept arrived, values i within q member, extendSign_sample]
            have inside := place_lt mode q member within
            have full := written_eq mode bus lawful arrived
            rw [buffer_of_lt (by omega), buffer_of_lt (by omega), buffer_of_lt (by omega)]
        · have width : mode.width = 3 := by rw [ReadoutMode.width, single]
          have fits : mode.width * level bus ≤ fifoDataSize := by
            rw [width]
            unfold samplesSize at slots
            unfold fifoDataSize
            omega
          refine ⟨range.mpr ⟨short, fits, slots⟩, wrapped, fun _ => ?_,
            fun _ _ _ arrived => absurd arrived failing⟩
          rw [rc]
          exact failing

/-- A fill level of seventeen, and a bus that delivers all that it is asked for. -/
def seventeenBus : Bus where
  fillStatus := 0
  fillVal := 17
  bulkRead := fun _ len => { status := 0, written := len, bytes := fun _ => 0 }
  within := fun _ _ => le_refl _
  complete := fun _ _ _ => rfl

/-- The call succeeds and has left the buffer. -/
theorem seventeen_overruns :
    (calculate .presTemp seventeenBus fun _ _ => 0).rc = 0 ∧
      (calculate .presTemp seventeenBus fun _ _ => 0).state.inRange = false ∧
      ¬ Right .presTemp seventeenBus fun _ _ => 0 := by
  have leaves : (calculate .presTemp seventeenBus fun _ _ => 0).state.inRange = false := by
    decide +kernel
  refine ⟨by decide +kernel, leaves, fun right => ?_⟩
  have stays := right.inRange
  rw [leaves] at stays
  exact nomatch stays

end OpenwrtSource.Zts.Fifo
