/-!
# The IPC registers of an AS21xxx PHY

A command word, a status word and eight data words in the MMIO space of the PHY.
The status says which command it is of by a single parity bit, and the driver
reads it into an unsigned variable, where a failed read is a number like others.
-/

namespace OpenwrtSource.As21xxx.Ipc

abbrev Status := BitVec 4

def IPC_STS_CMD_RCVD : Status := 0x1
def IPC_STS_CMD_PROCESS : Status := 0x2
def IPC_STS_CMD_SUCCESS : Status := 0x4
def IPC_STS_CMD_ERROR : Status := 0x8
def IPC_STS_SYS_BUSY : Status := 0xe
def IPC_STS_SYS_READY : Status := 0xf

def AEON_IPC_DATA_NUM_REGISTERS : Nat := 8
def AEON_IPC_DATA_MAX : Nat := 2 * AEON_IPC_DATA_NUM_REGISTERS

structure Sts where
  parity : Bool
  size : BitVec 5
  opcode : BitVec 6
  status : Status
deriving DecidableEq

/-- [1 bit parity][5 bits size][6 bits opcode][4 bits status]. -/
def Sts.word (sts : Sts) : BitVec 16 :=
  BitVec.ofBool sts.parity ++ sts.size ++ sts.opcode ++ sts.status

section

variable {width : Nat} (val : BitVec width)

def stsParity : Bool := val.getLsbD 15

def stsSize : BitVec 5 := val.extractLsb' 10 5

def stsStatus : Status := val.extractLsb' 0 4

end

/-- A negative error number is between -4095 and -1. -/
structure Errno where
  num : Nat
  pos : 0 < num
  small : num < 4096

/-- `phy_read_mmd`, kept as the `unsigned int` that the driver has for it. -/
def phyReadMmd (failed : Option Errno) (register : BitVec 16) : BitVec 32 :=
  match failed with
  | some errno => BitVec.ofInt 32 (-errno.num)
  | none => register.setWidth 32

/-- The exit condition of the poll loop; its part `val < 0` is false of every unsigned
number. -/
def pollDone (currParity : Bool) (val : BitVec 32) : Bool :=
  stsParity val == currParity && stsStatus val != IPC_STS_CMD_RCVD &&
    stsStatus val != IPC_STS_CMD_PROCESS && stsStatus val != IPC_STS_SYS_BUSY

/-- `DIV_ROUND_UP(size, sizeof(u16))`. -/
def wordsOf (size : BitVec 5) : Nat := (size.toNat + 1) / 2

@[simp] theorem stsParity_word (sts : Sts) : stsParity (sts.word.setWidth 32) = sts.parity := by
  unfold stsParity Sts.word
  simp only [BitVec.getLsbD_setWidth, BitVec.getLsbD_append]
  cases sts.parity <;> simp

@[simp] theorem stsStatus_word (sts : Sts) : stsStatus (sts.word.setWidth 32) = sts.status := by
  unfold stsStatus Sts.word
  apply BitVec.eq_of_getLsbD_eq
  intro i inStatus
  simp only [BitVec.getLsbD_extractLsb', BitVec.getLsbD_setWidth, BitVec.getLsbD_append]
  have small : i < 4 ∧ i < 32 := by omega
  simp [small]

@[simp] theorem stsSize_word (sts : Sts) : stsSize (sts.word.setWidth 32) = sts.size := by
  unfold stsSize Sts.word
  apply BitVec.eq_of_getLsbD_eq
  intro i inSize
  simp only [BitVec.getLsbD_extractLsb', BitVec.getLsbD_setWidth, BitVec.getLsbD_append]
  have small : i < 5 ∧ 10 + i < 32 ∧ ¬ 10 + i < 4 ∧ ¬ 10 + i - 4 < 6 ∧ 10 + i - 4 - 6 = i := by
    omega
  simp [small]

@[simp] theorem stsSize_truncated (val : BitVec 32) : stsSize (val.setWidth 16) = stsSize val := by
  unfold stsSize
  apply BitVec.eq_of_getLsbD_eq
  intro i inSize
  simp only [BitVec.getLsbD_extractLsb', BitVec.getLsbD_setWidth]
  have small : 10 + i < 16 := by omega
  simp [small]

end OpenwrtSource.As21xxx.Ipc
