import Mathlib.Data.BitVec
import Mathlib.Logic.Function.Iterate

/-!
# The CASN parameter page

A SPI-NAND chip describes itself in three copies of a page of 256 bytes.  Here are
the fields of a page that the driver reads, the test that accepts their values, and
the two helpers for the bytes: the CRC and the bitwise majority.
-/

namespace OpenwrtSource.SpiNand.Casn

def EINVAL : Int := 22
def EBADMSG : Int := 74

abbrev NandCasn := Fin 256 → BitVec 8

def be16 (casn : NandCasn) (ofs : Fin 255) : BitVec 16 := casn ofs.castSucc ++ casn ofs.succ

def be32 (casn : NandCasn) (ofs : Fin 253) : BitVec 32 :=
  be16 casn ⟨ofs, by omega⟩ ++ be16 casn ⟨ofs + 2, by omega⟩

namespace NandCasn

variable (casn : NandCasn)

def signature : BitVec 32 := be32 casn 0
def bitsPerCell : BitVec 32 := be32 casn 34
def bytesPerPage : BitVec 32 := be32 casn 38
def spareBytesPerPage : BitVec 32 := be32 casn 42
def pagesPerBlock : BitVec 32 := be32 casn 46
def blocksPerLun : BitVec 32 := be32 casn 50
def maxBbPerLun : BitVec 32 := be32 casn 54
def planesPerLun : BitVec 32 := be32 casn 58
def lunsPerTarget : BitVec 32 := be32 casn 62
def totalTarget : BitVec 32 := be32 casn 66
def eccStrength : BitVec 32 := be32 casn 70
def eccStepSize : BitVec 32 := be32 casn 74
def flags : BitVec 8 := casn 78
def sdrReadCap : BitVec 16 := be16 casn 80
def sdrWriteCap : BitVec 8 := casn 148
def sdrUpdateCap : BitVec 8 := casn 182
def adveccNoerrStatus : BitVec 8 := casn 245
def adveccUncorStatus : BitVec 8 := casn 246
def adveccPostOp : BitVec 8 := casn 247
def adveccPostMask : BitVec 8 := casn 248
def crc : BitVec 16 := be16 casn 254

end NandCasn

/-- `struct op_slice`, without the opcode, which the driver does not use. -/
structure OpSlice where
  dummyNbytes : BitVec 4
  addrNbytes : BitVec 4

def opSliceAt (casn : NandCasn) (ofs : Fin 255) : OpSlice where
  dummyNbytes := (casn ofs.succ).extractLsb' 0 4
  addrNbytes := (casn ofs.succ).extractLsb' 4 4

namespace NandCasn

variable (casn : NandCasn)

def sdrRead111 : OpSlice := opSliceAt casn 82
def sdrRead111Fast : OpSlice := opSliceAt casn 84
def sdrRead112 : OpSlice := opSliceAt casn 86
def sdrRead122 : OpSlice := opSliceAt casn 88
def sdrRead114 : OpSlice := opSliceAt casn 90
def sdrRead144 : OpSlice := opSliceAt casn 92
def sdrWrite111 : OpSlice := opSliceAt casn 149
def sdrWrite114 : OpSlice := opSliceAt casn 151
def sdrUpdate111 : OpSlice := opSliceAt casn 183
def sdrUpdate114 : OpSlice := opSliceAt casn 185

end NandCasn

structure CasnOob where
  layoutType : BitVec 8
  freeStart : BitVec 8
  freeLength : BitVec 8
  bbmLength : BitVec 8
  eccParityStart : BitVec 8
  eccParitySpace : BitVec 8
  eccParityRealLength : BitVec 8

def NandCasn.casnOob (casn : NandCasn) : CasnOob where
  layoutType := casn 216
  freeStart := casn 217
  freeLength := casn 218
  bbmLength := casn 219
  eccParityStart := casn 220
  eccParitySpace := casn 221
  eccParityRealLength := casn 222

def OOB_DISCRETE : BitVec 8 := 0
def OOB_CONTINUOUS : BitVec 8 := 1

structure AdvEccStatus where
  cmd : BitVec 8
  addr : BitVec 8
  addrNbytes : BitVec 8
  addrBuswidth : BitVec 8
  dummyNbytes : BitVec 8
  dummyBuswidth : BitVec 8
  statusNbytes : BitVec 8
  statusMask : BitVec 16
  preOp : BitVec 8
  preMask : BitVec 8

/-- The eleven bytes from `ofs` on. -/
def advEccStatusAt (casn : NandCasn) (ofs : Fin 245) : AdvEccStatus where
  cmd := casn ⟨ofs, by omega⟩
  addr := casn ⟨ofs + 1, by omega⟩
  addrNbytes := casn ⟨ofs + 2, by omega⟩
  addrBuswidth := casn ⟨ofs + 3, by omega⟩
  dummyNbytes := casn ⟨ofs + 4, by omega⟩
  dummyBuswidth := casn ⟨ofs + 5, by omega⟩
  statusNbytes := casn ⟨ofs + 6, by omega⟩
  statusMask := be16 casn ⟨ofs + 7, by omega⟩
  preOp := casn ⟨ofs + 9, by omega⟩
  preMask := casn ⟨ofs + 10, by omega⟩

def NandCasn.eccStatusHigh (casn : NandCasn) : AdvEccStatus := advEccStatusAt casn 223
def NandCasn.eccStatusLow (casn : NandCasn) : AdvEccStatus := advEccStatusAt casn 234

def maxBbOf (blocksPerLun : BitVec 32) : Option (BitVec 32) :=
  if blocksPerLun = 1024 then some 20
  else if blocksPerLun = 2048 then some 40
  else if blocksPerLun = 4096 then some 80
  else none

def spinandCheckCasnValidity (casn : NandCasn) : Int :=
  if casn.bitsPerCell ≠ 1 then -EINVAL
  else if casn.bytesPerPage ∉ [2048, 4096] then -EINVAL
  else if casn.spareBytesPerPage ∉ [64, 96, 128, 256] then -EINVAL
  else if casn.pagesPerBlock ∉ [64, 128] then -EINVAL
  else if maxBbOf casn.blocksPerLun ≠ some casn.maxBbPerLun then -EINVAL
  else if casn.planesPerLun ∉ [1, 2] then -EINVAL
  else if casn.lunsPerTarget ∉ [1, 2] then -EINVAL
  else if casn.totalTarget ∉ [1, 2] then -EINVAL
  else if casn.casnOob.layoutType ≠ OOB_CONTINUOUS ∧ casn.casnOob.layoutType ≠ OOB_DISCRETE then
    -EINVAL
  else if casn.eccStatusHigh.statusNbytes > 2 ∨ casn.eccStatusLow.statusNbytes > 2 then -EINVAL
  else 0

structure Accepted (casn : NandCasn) : Prop where
  bitsPerCell : casn.bitsPerCell = 1
  bytesPerPage : casn.bytesPerPage ∈ [2048, 4096]
  spareBytesPerPage : casn.spareBytesPerPage ∈ [64, 96, 128, 256]
  pagesPerBlock : casn.pagesPerBlock ∈ [64, 128]
  maxBbPerLun : maxBbOf casn.blocksPerLun = some casn.maxBbPerLun
  planesPerLun : casn.planesPerLun ∈ [1, 2]
  lunsPerTarget : casn.lunsPerTarget ∈ [1, 2]
  totalTarget : casn.totalTarget ∈ [1, 2]
  layoutType : casn.casnOob.layoutType = OOB_CONTINUOUS ∨ casn.casnOob.layoutType = OOB_DISCRETE
  statusNbytes : casn.eccStatusHigh.statusNbytes ≤ 2 ∧ casn.eccStatusLow.statusNbytes ≤ 2

theorem refusal_eq_zero_iff {refused : Prop} [Decidable refused] {rest : Int} :
    (if refused then -EINVAL else rest) = 0 ↔ ¬ refused ∧ rest = 0 := by
  have small : (-EINVAL : Int) ≠ 0 := by decide
  by_cases this : refused
  · rw [if_pos this]
    exact iff_of_false small fun accepted => accepted.1 this
  · rw [if_neg this, and_iff_right this]

theorem accepted_iff (casn : NandCasn) : spinandCheckCasnValidity casn = 0 ↔ Accepted casn := by
  unfold spinandCheckCasnValidity
  simp only [refusal_eq_zero_iff]
  constructor
  · rintro ⟨bits, page, spare, pages, blocks, planes, luns, targets, layout, nbytes, -⟩
    obtain ⟨high, low⟩ := not_or.mp nbytes
    exact ⟨not_not.mp bits, not_not.mp page, not_not.mp spare, not_not.mp pages,
      not_not.mp blocks, not_not.mp planes, not_not.mp luns, not_not.mp targets,
      or_iff_not_and_not.mpr layout, BitVec.not_lt.mp high, BitVec.not_lt.mp low⟩
  · intro accepted
    obtain ⟨high, low⟩ := accepted.statusNbytes
    exact ⟨not_not.mpr accepted.bitsPerCell, not_not.mpr accepted.bytesPerPage,
      not_not.mpr accepted.spareBytesPerPage, not_not.mpr accepted.pagesPerBlock,
      not_not.mpr accepted.maxBbPerLun, not_not.mpr accepted.planesPerLun,
      not_not.mpr accepted.lunsPerTarget, not_not.mpr accepted.totalTarget,
      or_iff_not_and_not.mp accepted.layoutType,
      not_or.mpr ⟨BitVec.not_lt.mpr high, BitVec.not_lt.mpr low⟩, trivial⟩

theorem refusal_cases {refused : Prop} [Decidable refused] {rest : Int}
    (others : rest = 0 ∨ rest = -EINVAL) :
    (if refused then -EINVAL else rest) = 0 ∨ (if refused then -EINVAL else rest) = -EINVAL := by
  by_cases this : refused
  · exact .inr (if_pos this)
  · rw [if_neg this]
    exact others

theorem validity_cases (casn : NandCasn) :
    spinandCheckCasnValidity casn = 0 ∨ spinandCheckCasnValidity casn = -EINVAL := by
  unfold spinandCheckCasnValidity
  iterate 10 apply refusal_cases
  exact .inl rfl

def crcShift (crc : BitVec 16) : BitVec 16 :=
  (crc <<< 1) ^^^ (if crc &&& 0x8000 ≠ 0 then 0x8005 else 0)

def crcByte (crc : BitVec 16) (byte : BitVec 8) : BitVec 16 :=
  crcShift^[8] (crc ^^^ byte.setWidth 16 <<< 8)

def nanddevCrc16 (crc : BitVec 16) (p : List (BitVec 8)) : BitVec 16 := p.foldl crcByte crc

def CASN_CRC_BASE : BitVec 16 := 0x4341
def CASN_SIGNATURE : BitVec 32 := 0x4341534E

/-- The CRC over the `SPINAND_CASN_V1_CRC_OFS` bytes before the one that is stored. -/
def crcCompute (casn : NandCasn) : BitVec 16 :=
  nanddevCrc16 CASN_CRC_BASE ((List.finRange 256).take 254 |>.map casn)

def majorityByte (bytes : List (BitVec 8)) : BitVec 8 :=
  (List.range 8).foldl (fun val j =>
    if bytes.countP (·.getLsbD j) > bytes.length / 2 then val ||| BitVec.twoPow 8 j else val) 0

/-- A byte is written after it has been read from every source, so that the destination may be
one of them. -/
def nanddevBitWiseMajority (srcbufs : List NandCasn) : NandCasn :=
  fun i => majorityByte (srcbufs.map (· i))

def pageOf (bytes : List (Nat × BitVec 8)) : NandCasn := fun i => (bytes.lookup (i : Nat)).getD 0

/-- The parameters of a chip of 2048 + 64 bytes a page, with nothing said about its ECC. -/
def plainBytes : List (Nat × BitVec 8) :=
  [(0, 0x43), (1, 0x41), (2, 0x53), (3, 0x4E), (37, 1), (40, 8), (45, 64), (49, 64), (52, 4),
    (57, 20), (61, 1), (65, 1), (69, 1), (76, 2)]

example : spinandCheckCasnValidity (pageOf plainBytes) = 0 := by decide +kernel

end OpenwrtSource.SpiNand.Casn
