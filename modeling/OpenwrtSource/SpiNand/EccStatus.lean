import OpenwrtSource.SpiNand.Casn

/-!
# The advanced ECC status

The page says how the number of corrected bits is read: a command for a low and a
high part, a mask for each, an operator before the parts are put together and one
after.  `spinand_casn_get_ecc_status` follows these instructions.
-/

namespace OpenwrtSource.SpiNand.EccStatus

open SpiNand.Casn

abbrev SizeT := BitVec 64

def eccsrNoneOp (val _mask : SizeT) : SizeT := val
def eccsrAndOp (val mask : SizeT) : SizeT := val &&& mask
def eccsrAddOp (val mask : SizeT) : SizeT := val + mask
def eccsrMinusOp (val mask : SizeT) : SizeT := val - mask

/-- `eccsr_math_op[4]`.  The fifth operator that is stored goes over `priv`; what a call finds
behind the four is `behind`. -/
def eccsrMathOp (behind : BitVec 8 → SizeT → SizeT → SizeT) (i : BitVec 8) :
    SizeT → SizeT → SizeT :=
  match i.toNat with
  | 0 => eccsrNoneOp
  | 1 => eccsrAndOp
  | 2 => eccsrAddOp
  | 3 => eccsrMinusOp
  | _ => behind i

def operator (i : BitVec 8) (val : SizeT) (mask : BitVec 8) : SizeT :=
  eccsrMathOp (fun _ => eccsrNoneOp) i val (mask.setWidth 64)

theorem eccsrMathOp_eq_operator (behind : BitVec 8 → SizeT → SizeT → SizeT) {i : BitVec 8}
    (inRange : i < 4) (val : SizeT) (mask : BitVec 8) :
    eccsrMathOp behind i val (mask.setWidth 64) = operator i val mask := by
  have bound : i.toNat < 4 := inRange
  unfold operator eccsrMathOp
  generalize i.toNat = index at bound ⊢
  match index, bound with
  | 0, _ => rfl
  | 1, _ => rfl
  | 2, _ => rfl
  | 3, _ => rfl

/-- The lowest bit of a mask, `ffs(mask) - 1`; 0 of an empty one. -/
def shiftOf (mask : BitVec 16) : Nat := ((List.range 16).find? mask.getLsbD).getD 0

def hweight16 (mask : BitVec 16) : Nat := (List.range 16).countP mask.getLsbD

structure CasnAdvecc where
  cmd : BitVec 8
  mask : BitVec 16
  shift : Nat
  preOp : BitVec 8
  preMask : BitVec 8

def adveccOf (status : AdvEccStatus) : CasnAdvecc where
  cmd := status.cmd
  mask := status.statusMask
  shift := shiftOf status.statusMask
  preOp := status.preOp
  preMask := status.preMask

/-- The fields of `struct spinand_device` that say how the status is read. -/
structure AdvEcc where
  adveccHigh : CasnAdvecc
  adveccLow : CasnAdvecc
  adveccLowBitcnt : Nat
  adveccNoerrStatus : BitVec 8
  adveccUncorStatus : BitVec 8
  adveccPostOp : BitVec 8
  adveccPostMask : BitVec 8

def adveccOfCasn (casn : NandCasn) : AdvEcc where
  adveccHigh := adveccOf casn.eccStatusHigh
  adveccLow := adveccOf casn.eccStatusLow
  adveccLowBitcnt := hweight16 casn.eccStatusLow.statusMask
  adveccNoerrStatus := casn.adveccNoerrStatus
  adveccUncorStatus := casn.adveccUncorStatus
  adveccPostOp := casn.adveccPostOp
  adveccPostMask := casn.adveccPostMask

abbrev Scratchbuf := Nat → BitVec 8

/-- `spi_mem_exec_op`: what the chip returns goes to the front of the buffer. -/
def spiMemExecOp (scratchbuf : Scratchbuf) (returned : List (BitVec 8)) : Scratchbuf :=
  fun k => (returned[k]?).getD (scratchbuf k)

/-- What is masked: the first byte, or that byte twice, the second time with `+1` inside. -/
def looked (p : Scratchbuf) (mask : BitVec 16) : BitVec 32 :=
  if mask ≤ 0xFF then (p 0).setWidth 32
  else (p 0).setWidth 32 <<< 8 ||| ((p 0).setWidth 32 + 1)

/-- `*eccsr` before and after the operator. -/
structure Read where
  field : BitVec 16
  eccsr : BitVec 16

def spinandReadAdvEcc (behind : BitVec 8 → SizeT → SizeT → SizeT) (p : Scratchbuf)
    (advecc : CasnAdvecc) : Read :=
  let field := ((looked p advecc.mask &&& advecc.mask.setWidth 32) >>> advecc.shift).setWidth 16
  ⟨field,
    (eccsrMathOp behind advecc.preOp (field.setWidth 64) (advecc.preMask.setWidth 64)).setWidth 16⟩

def eccsrSum (spinand : AdvEcc) (low high : Option Read) : BitVec 32 :=
  low.elim 0 (·.eccsr.setWidth 32) + high.elim 0 (·.eccsr.setWidth 32 <<< spinand.adveccLowBitcnt)

/-- The operator that is applied to the sum, and the result. -/
def eccStatusOf (behind : BitVec 8 → SizeT → SizeT → SizeT) (spinand : AdvEcc)
    (eccStrength eccsr : BitVec 32) : Option (BitVec 8) × Int :=
  if eccsr = spinand.adveccNoerrStatus.setWidth 32 then (none, 0)
  else if eccsr = spinand.adveccUncorStatus.setWidth 32 then (none, -EBADMSG)
  else
    let post : BitVec 32 := (eccsrMathOp behind spinand.adveccPostOp (eccsr.setWidth 64)
      (spinand.adveccPostMask.setWidth 64)).setWidth 32
    (some spinand.adveccPostOp, (if post > eccStrength then eccStrength else post).toInt)

/-- The parts that were read, their sum, the operator applied to it and the result. -/
structure Decoded where
  low : Option Read
  high : Option Read
  eccsr : BitVec 32
  postOp : Option (BitVec 8)
  ret : Int

/-- The two commands use the same buffer, the low part first. -/
def spinandCasnGetEccStatus (behind : BitVec 8 → SizeT → SizeT → SizeT) (spinand : AdvEcc)
    (eccStrength : BitVec 32) (scratchbuf : Scratchbuf) (low high : List (BitVec 8)) : Decoded :=
  let al := spinand.adveccLow
  let ah := spinand.adveccHigh
  let afterLow := if al.cmd ≠ 0 then spiMemExecOp scratchbuf low else scratchbuf
  let lowRead := if al.cmd ≠ 0 then some (spinandReadAdvEcc behind afterLow al) else none
  let highRead :=
    if ah.cmd ≠ 0 then some (spinandReadAdvEcc behind (spiMemExecOp afterLow high) ah) else none
  let eccsr := eccsrSum spinand lowRead highRead
  let (postOp, ret) := eccStatusOf behind spinand eccStrength eccsr
  ⟨lowRead, highRead, eccsr, postOp, ret⟩

/-- The bytes that the chip returns to the two commands. -/
structure Status (casn : NandCasn) where
  low : List (BitVec 8)
  high : List (BitVec 8)
  low_length : low.length = casn.eccStatusLow.statusNbytes.toNat
  high_length : high.length = casn.eccStatusHigh.statusNbytes.toNat

def statusOf (bytes : List (BitVec 8)) : BitVec 16 :=
  bytes.foldl (fun value byte => value <<< 8 ||| byte.setWidth 16) 0

example (first second : BitVec 8) : statusOf [first, second] = first ++ second := by
  apply BitVec.eq_of_getLsbD_eq
  intro k inside
  simp [statusOf]
  grind

def fieldOf (part : AdvEccStatus) (bytes : List (BitVec 8)) : BitVec 16 :=
  (statusOf bytes &&& part.statusMask) >>> shiftOf part.statusMask

/-- The field after the part's operator, which works on `size_t`. -/
def valueOf (part : AdvEccStatus) (bytes : List (BitVec 8)) : Nat :=
  (operator part.preOp ((fieldOf part bytes).setWidth 64) part.preMask).toNat

/-- `E`; a part without a command is none. -/
def errorCode (casn : NandCasn) (status : Status casn) : Nat :=
  (if casn.eccStatusHigh.cmd ≠ 0 then valueOf casn.eccStatusHigh status.high else 0) *
      2 ^ hweight16 casn.eccStatusLow.statusMask +
    (if casn.eccStatusLow.cmd ≠ 0 then valueOf casn.eccStatusLow status.low else 0)

def postOf (casn : NandCasn) (code : Nat) : Nat :=
  (operator casn.adveccPostOp (BitVec.ofNat 64 code) casn.adveccPostMask).toNat

def wantedRet (casn : NandCasn) (eccStrength : BitVec 32) (code : Nat) : Int :=
  if code = casn.adveccNoerrStatus.toNat then 0
  else if code = casn.adveccUncorStatus.toNat then -EBADMSG
  else min (postOf casn code) eccStrength.toNat

/-- The operator is in the table, the field is that of the status and nothing is lost of the
operator's result. -/
structure PartDecoded (part : AdvEccStatus) (bytes : List (BitVec 8)) (read : Read) : Prop where
  preOp : part.preOp < 4
  field : read.field = fieldOf part bytes
  value : read.eccsr.toNat = valueOf part bytes

structure Decodes (casn : NandCasn) (status : Status casn) (eccStrength : BitVec 32)
    (done : Decoded) : Prop where
  low : ∀ read ∈ done.low, PartDecoded casn.eccStatusLow status.low read
  high : ∀ read ∈ done.high, PartDecoded casn.eccStatusHigh status.high read
  postOp : ∀ i ∈ done.postOp, i < 4
  eccsr : done.eccsr.toNat = errorCode casn status
  ret : done.ret = wantedRet casn eccStrength (errorCode casn status)

/-- On the bits of the mask the looked at word is the status, and the operator's result has
16 bits. -/
structure PartFits (part : AdvEccStatus) (p : Scratchbuf) (bytes : List (BitVec 8)) : Prop where
  preOp : part.preOp < 4
  masked : (looked p part.statusMask).setWidth 16 &&& part.statusMask =
    statusOf bytes &&& part.statusMask
  value : valueOf part bytes < 2 ^ 16

/-- The operator of the sum is in the table, and its result has 32 bits, or what is left of it
is not below the strength; as an `int` the result is not negative. -/
structure PostFits (casn : NandCasn) (eccStrength : BitVec 32) (code : Nat) : Prop where
  postOp : casn.adveccPostOp < 4
  word : postOf casn code < 2 ^ 32 ∨ eccStrength.toNat ≤ postOf casn code % 2 ^ 32
  int : postOf casn code < 2 ^ 31 ∨ eccStrength.toNat < 2 ^ 31

/-- What `scratchbuf` has when the low part has been read. -/
def scratchbufAfterLow (casn : NandCasn) (scratchbuf : Scratchbuf) (low : List (BitVec 8)) :
    Scratchbuf :=
  if casn.eccStatusLow.cmd ≠ 0 then spiMemExecOp scratchbuf low else scratchbuf

structure Fits (casn : NandCasn) (status : Status casn) (eccStrength : BitVec 32)
    (scratchbuf : Scratchbuf) : Prop where
  low : casn.eccStatusLow.cmd ≠ 0 →
    PartFits casn.eccStatusLow (scratchbufAfterLow casn scratchbuf status.low) status.low
  high : casn.eccStatusHigh.cmd ≠ 0 →
    PartFits casn.eccStatusHigh
      (spiMemExecOp (scratchbufAfterLow casn scratchbuf status.low) status.high) status.high
  post : errorCode casn status ≠ casn.adveccNoerrStatus.toNat →
    errorCode casn status ≠ casn.adveccUncorStatus.toNat →
    PostFits casn eccStrength (errorCode casn status)

theorem shiftOf_le_of_getLsbD {mask : BitVec 16} {k : Nat} (set : mask.getLsbD k = true) :
    shiftOf mask ≤ k := by
  have inside : k < 16 := BitVec.lt_of_getLsbD set
  unfold shiftOf
  cases first : (List.range 16).find? mask.getLsbD with
  | none => exact Nat.zero_le k
  | some j =>
    refine Nat.le_of_not_lt fun before => ?_
    obtain ⟨-, i, bound, at_i, others⟩ := List.find?_eq_some_iff_getElem.mp first
    simp only [List.getElem_range] at at_i others
    rw [Option.getD_some] at before
    have absent := others k (by omega)
    rw [set] at absent
    cases absent

theorem masked_shift_inj {mask x y : BitVec 16} :
    (x &&& mask) >>> shiftOf mask = (y &&& mask) >>> shiftOf mask ↔ x &&& mask = y &&& mask := by
  refine ⟨fun same => ?_, fun same => by rw [same]⟩
  apply BitVec.eq_of_getLsbD_eq
  intro k inside
  rw [BitVec.getLsbD_and, BitVec.getLsbD_and]
  cases set : mask.getLsbD k with
  | false => rw [Bool.and_false, Bool.and_false]
  | true =>
    have above := shiftOf_le_of_getLsbD set
    have bit := congrArg (fun word => word.getLsbD (k - shiftOf mask)) same
    simp only [BitVec.getLsbD_ushiftRight, BitVec.getLsbD_and, Nat.add_sub_cancel' above,
      set] at bit
    exact bit

theorem masked_setWidth (word : BitVec 32) (mask : BitVec 16) (n : Nat) :
    ((word &&& mask.setWidth 32) >>> n).setWidth 16 = (word.setWidth 16 &&& mask) >>> n := by
  apply BitVec.eq_of_getLsbD_eq
  intro k inside
  simp only [BitVec.getLsbD_setWidth, BitVec.getLsbD_ushiftRight, BitVec.getLsbD_and]
  grind

theorem toNat_setWidth_eq_iff (word : SizeT) (n : Nat) :
    (word.setWidth n).toNat = word.toNat ↔ word.toNat < 2 ^ n := by
  rw [BitVec.toNat_setWidth]
  exact Nat.mod_eq_iff_lt (Nat.two_pow_pos n).ne'

theorem partDecoded_iff (behind : BitVec 8 → SizeT → SizeT → SizeT) (part : AdvEccStatus)
    (p : Scratchbuf) (bytes : List (BitVec 8)) :
    PartDecoded part bytes (spinandReadAdvEcc behind p (adveccOf part)) ↔
      PartFits part p bytes := by
  have field : (spinandReadAdvEcc behind p (adveccOf part)).field = fieldOf part bytes ↔
      (looked p part.statusMask).setWidth 16 &&& part.statusMask =
        statusOf bytes &&& part.statusMask := by
    rw [← masked_shift_inj, ← masked_setWidth]
    exact Iff.rfl
  have value (inRange : part.preOp < 4)
      (same : (spinandReadAdvEcc behind p (adveccOf part)).field = fieldOf part bytes) :
      (spinandReadAdvEcc behind p (adveccOf part)).eccsr.toNat = valueOf part bytes ↔
        valueOf part bytes < 2 ^ 16 := by
    unfold valueOf
    rw [← toNat_setWidth_eq_iff, ← same, ← eccsrMathOp_eq_operator behind inRange]
    exact Iff.rfl
  constructor
  · intro decoded
    exact ⟨decoded.preOp, field.mp decoded.field,
      (value decoded.preOp decoded.field).mp decoded.value⟩
  · intro fits
    have same := field.mpr fits.masked
    exact ⟨fits.preOp, same, (value fits.preOp same).mpr fits.value⟩

theorem hweight16_le (mask : BitVec 16) : hweight16 mask ≤ 16 := List.countP_le_length

theorem toNat_sum (low high : BitVec 16) {bitcnt : Nat} (small : bitcnt ≤ 16) :
    (low.setWidth 32 + high.setWidth 32 <<< bitcnt).toNat =
      high.toNat * 2 ^ bitcnt + low.toNat := by
  have bound : high.toNat * 2 ^ bitcnt ≤ (2 ^ 16 - 1) * 2 ^ 16 :=
    Nat.mul_le_mul (by omega) (Nat.pow_le_pow_right (by decide) small)
  have lowWidth : (low.setWidth 32).toNat = low.toNat := BitVec.toNat_setWidth_of_le (by decide)
  have highWidth : (high.setWidth 32).toNat = high.toNat :=
    BitVec.toNat_setWidth_of_le (by decide)
  rw [BitVec.toNat_add, BitVec.toNat_shiftLeft, Nat.shiftLeft_eq, lowWidth, highWidth]
  omega

theorem toNat_eccsrSum (casn : NandCasn) (low high : Option Read) :
    (eccsrSum (adveccOfCasn casn) low high).toNat =
      (high.elim 0 Read.eccsr).toNat * 2 ^ hweight16 casn.eccStatusLow.statusMask +
        (low.elim 0 Read.eccsr).toNat := by
  have widened : low.elim 0 (·.eccsr.setWidth 32) = (low.elim 0 Read.eccsr).setWidth 32 := by
    cases low <;> rfl
  have shifted : high.elim 0 (·.eccsr.setWidth 32 <<< hweight16 casn.eccStatusLow.statusMask) =
      (high.elim 0 Read.eccsr).setWidth 32 <<< hweight16 casn.eccStatusLow.statusMask := by
    cases high with
    | none => exact (BitVec.zero_shiftLeft _).symm
    | some read => rfl
  rw [← toNat_sum _ _ (hweight16_le _), ← widened, ← shifted]
  rfl

theorem toInt_min_iff (post : SizeT) (eccStrength : BitVec 32) :
    (if post.setWidth 32 > eccStrength then eccStrength else post.setWidth 32).toInt =
        min (post.toNat : Int) eccStrength.toNat ↔
      (post.toNat < 2 ^ 32 ∨ eccStrength.toNat ≤ post.toNat % 2 ^ 32) ∧
        (post.toNat < 2 ^ 31 ∨ eccStrength.toNat < 2 ^ 31) := by
  have word : (post.setWidth 32).toNat = post.toNat % 2 ^ 32 := BitVec.toNat_setWidth ..
  have strength : eccStrength.toNat < 2 ^ 32 := eccStrength.isLt
  split_ifs with greater
  · have greater : eccStrength.toNat < (post.setWidth 32).toNat := greater
    rw [word] at greater
    rw [BitVec.toInt_eq_toNat_cond]
    split_ifs <;> omega
  · have smaller : (post.setWidth 32).toNat ≤ eccStrength.toNat := BitVec.not_lt.mp greater
    rw [BitVec.toInt_eq_toNat_cond, word]
    rw [word] at smaller
    split_ifs <;> omega

theorem eccStatusOf_iff (behind : BitVec 8 → SizeT → SizeT → SizeT) (casn : NandCasn)
    (eccStrength eccsr : BitVec 32) :
    ((∀ i ∈ (eccStatusOf behind (adveccOfCasn casn) eccStrength eccsr).1, i < 4) ∧
        (eccStatusOf behind (adveccOfCasn casn) eccStrength eccsr).2 =
          wantedRet casn eccStrength eccsr.toNat) ↔
      (eccsr.toNat ≠ casn.adveccNoerrStatus.toNat → eccsr.toNat ≠ casn.adveccUncorStatus.toNat →
        PostFits casn eccStrength eccsr.toNat) := by
  have is_code (status : BitVec 8) :
      eccsr = status.setWidth 32 ↔ eccsr.toNat = status.toNat := by
    rw [← BitVec.toNat_inj, BitVec.toNat_setWidth_of_le (by decide)]
  have is_noerr := is_code (adveccOfCasn casn).adveccNoerrStatus
  have is_uncor := is_code (adveccOfCasn casn).adveccUncorStatus
  unfold eccStatusOf wantedRet
  by_cases noerr : eccsr.toNat = casn.adveccNoerrStatus.toNat
  · rw [if_pos (is_noerr.mpr noerr), if_pos noerr]
    exact iff_of_true ⟨nofun, rfl⟩ fun other => absurd noerr other
  · by_cases uncor : eccsr.toNat = casn.adveccUncorStatus.toNat
    · rw [if_neg (mt is_noerr.mp noerr), if_pos (is_uncor.mpr uncor), if_neg noerr,
        if_pos uncor]
      exact iff_of_true ⟨nofun, rfl⟩ fun _ other => absurd uncor other
    · rw [if_neg (mt is_noerr.mp noerr), if_neg (mt is_uncor.mp uncor), if_neg noerr,
        if_neg uncor]
      simp only [Option.mem_some_iff, forall_eq']
      have int := toInt_min_iff (eccsrMathOp behind (adveccOfCasn casn).adveccPostOp
        (eccsr.setWidth 64) ((adveccOfCasn casn).adveccPostMask.setWidth 64)) eccStrength
      have post (inRange : casn.adveccPostOp < 4) :
          (eccsrMathOp behind (adveccOfCasn casn).adveccPostOp (eccsr.setWidth 64)
            ((adveccOfCasn casn).adveccPostMask.setWidth 64)).toNat =
              postOf casn eccsr.toNat := by
        unfold postOf
        rw [BitVec.ofNat_toNat, ← eccsrMathOp_eq_operator behind inRange]
        rfl
      constructor
      · rintro ⟨inRange, ret⟩ - -
        rw [← post inRange, int, post inRange] at ret
        exact ⟨inRange, ret.1, ret.2⟩
      · intro fits
        obtain ⟨inRange, word, small⟩ := fits noerr uncor
        have inRange : (adveccOfCasn casn).adveccPostOp < 4 := inRange
        refine ⟨inRange, ?_⟩
        rw [← post inRange, int, post inRange]
        exact ⟨word, small⟩

theorem part_iff (behind : BitVec 8 → SizeT → SizeT → SizeT) (part : AdvEccStatus)
    (p : Scratchbuf) (bytes : List (BitVec 8)) :
    (∀ read ∈ if part.cmd ≠ 0 then some (spinandReadAdvEcc behind p (adveccOf part)) else none,
        PartDecoded part bytes read) ↔
      (part.cmd ≠ 0 → PartFits part p bytes) := by
  rw [← partDecoded_iff behind]
  by_cases cmd : part.cmd ≠ 0
  · rw [if_pos cmd]
    simp only [Option.mem_some_iff, forall_eq']
    exact ⟨fun decoded _ => decoded, fun decoded => decoded cmd⟩
  · rw [if_neg cmd]
    exact iff_of_true nofun fun has => absurd has cmd

theorem elim_eccsr {part : AdvEccStatus} {bytes : List (BitVec 8)} {read : Option Read}
    (used : read.isSome ↔ part.cmd ≠ 0) (decoded : ∀ found ∈ read, PartDecoded part bytes found) :
    (read.elim 0 Read.eccsr).toNat = if part.cmd ≠ 0 then valueOf part bytes else 0 := by
  cases read with
  | none => rw [if_neg (mt used.mpr (by simp))]; rfl
  | some found => rw [if_pos (used.mp rfl)]; exact (decoded found rfl).value

/-- The status is decoded as the page says exactly under the conditions on the page, the bytes
and the strength. -/
theorem decodes_iff (behind : BitVec 8 → SizeT → SizeT → SizeT) (casn : NandCasn)
    (status : Status casn) (eccStrength : BitVec 32) (scratchbuf : Scratchbuf) :
    Decodes casn status eccStrength
        (spinandCasnGetEccStatus behind (adveccOfCasn casn) eccStrength scratchbuf status.low
          status.high) ↔
      Fits casn status eccStrength scratchbuf := by
  have low := part_iff behind casn.eccStatusLow
    (scratchbufAfterLow casn scratchbuf status.low) status.low
  have high := part_iff behind casn.eccStatusHigh
    (spiMemExecOp (scratchbufAfterLow casn scratchbuf status.low) status.high) status.high
  have ret := eccStatusOf_iff behind casn eccStrength
  have used (part : AdvEccStatus) (read : Read) :
      (if part.cmd ≠ 0 then some read else none).isSome ↔ part.cmd ≠ 0 := by
    by_cases cmd : part.cmd ≠ 0
    · rw [if_pos cmd]
      exact iff_of_true rfl cmd
    · rw [if_neg cmd]
      exact iff_of_false nofun cmd
  constructor
  · intro decodes
    have sum := decodes.eccsr
    refine ⟨low.mp decodes.low, high.mp decodes.high, ?_⟩
    rw [← sum]
    exact (ret _).mp ⟨decodes.postOp, by rw [sum]; exact decodes.ret⟩
  · intro fits
    have lowDecoded := low.mpr fits.low
    have highDecoded := high.mpr fits.high
    have sum : (spinandCasnGetEccStatus behind (adveccOfCasn casn) eccStrength scratchbuf
        status.low status.high).eccsr.toNat = errorCode casn status := by
      unfold errorCode
      rw [← elim_eccsr (used _ _) lowDecoded, ← elim_eccsr (used _ _) highDecoded]
      exact toNat_eccsrSum casn _ _
    obtain ⟨postOp, result⟩ := (ret _).mpr (by rw [sum]; exact fits.post)
    exact ⟨lowDecoded, highDecoded, postOp, sum, by rw [sum] at result; exact result⟩

def widePage : NandCasn :=
  pageOf (plainBytes ++ [(234, 0x7C), (240, 2), (241, 0x0F), (242, 0xFF)])

def wideStatus : Status widePage := ⟨[0, 5], [], rfl, rfl⟩

/-- The second byte is never looked at: of five corrected bits one is reported. -/
theorem second_byte_not_read :
    Accepted widePage ∧
      ¬ Decodes widePage wideStatus 8
        (spinandCasnGetEccStatus (fun _ => eccsrNoneOp) (adveccOfCasn widePage) 8 (fun _ => 0)
          wideStatus.low wideStatus.high) := by
  refine ⟨(accepted_iff widePage).mp (by decide +kernel), fun decodes => ?_⟩
  have ret := decodes.ret
  revert ret
  decide +kernel

end OpenwrtSource.SpiNand.EccStatus
