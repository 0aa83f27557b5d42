import Mathlib.Data.List.Forall2
import OpenwrtSource.SpiNand.EccStatus

/-!
# Detection by the parameter page

`spinand_detect` sets the device up from the parameter page and reads the chip's ID if
there is no page or the setup fails.  `spinand_select_op_variant`, `spinand_id_detect`
and `spinand_reset_op` are the kernel's.
-/

namespace OpenwrtSource.SpiNand.Detect

open SpiNand.Casn SpiNand.EccStatus

def ENOMEM : Int := 12
def ENOTSUPP : Int := 524

inductive DataDir where
  | noData
  | dataIn
  | dataOut
deriving DecidableEq

/-- `struct spi_mem_op`; the buswidth of an operation that has not been filled in is 0. -/
structure SpiMemOp where
  opcode : BitVec 8
  cmdBuswidth : Nat
  addrNbytes : Nat
  addr : BitVec 8
  addrBuswidth : Nat
  dummyNbytes : Nat
  dummyBuswidth : Nat
  dataDir : DataDir
  dataNbytes : Nat
  dataBuswidth : Nat
deriving DecidableEq

/-- What `devm_kzalloc` leaves in a slot. -/
def zeroOp : SpiMemOp := ⟨0, 0, 0, 0, 0, 0, 0, .noData, 0, 0⟩

structure Memorg where
  bitsPerCell : BitVec 32
  pagesize : BitVec 32
  oobsize : BitVec 32
  pagesPerEraseblock : BitVec 32
  eraseblocksPerLun : BitVec 32
  maxBadEraseblocksPerLun : BitVec 32
  planesPerLun : BitVec 32
  lunsPerTarget : BitVec 32
  ntargets : BitVec 32

/-- The functions that `struct spinand_ecc_info` can point to; those of a chip's entry in the
ID tables are numbered. -/
inductive EccFn where
  | casnGetEccStatus
  | casnOoblayout
  | chip (index : Nat)
deriving DecidableEq

structure EccInfo where
  getStatus : Option EccFn
  ooblayout : Option EccFn

/-- What detection sets in `struct spinand_device`; a pointer that is NULL is `none`. -/
structure Spinand where
  useCasn : Bool
  memorg : Memorg
  eccStrength : BitVec 32
  eccStepSize : BitVec 32
  flags : BitVec 32
  eccinfo : EccInfo
  adveccHighOps : Option SpiMemOp
  adveccLowOps : Option SpiMemOp
  casnOob : Option CasnOob
  adveccHigh : Option CasnAdvecc
  adveccLow : Option CasnAdvecc
  adveccLowBitcnt : Nat
  adveccNoerrStatus : BitVec 8
  adveccUncorStatus : BitVec 8
  adveccPostOp : BitVec 8
  adveccPostMask : BitVec 8
  readCache : Option SpiMemOp
  writeCache : Option SpiMemOp
  updateCache : Option SpiMemOp
  selectTarget : Bool

/-- `SPINAND_CASN_PAGE_READ_FROM_CACHE_*_OP`. -/
def readOp (opcode : BitVec 8) (slice : OpSlice) (addrBuswidth dataBuswidth : Nat) : SpiMemOp :=
  ⟨opcode, 1, slice.addrNbytes.toNat, 0, addrBuswidth, slice.dummyNbytes.toNat, addrBuswidth,
    .dataIn, 0, dataBuswidth⟩

/-- `SPINAND_CASN_PROG_LOAD` and `SPINAND_CASN_PROG_LOAD_X4`. -/
def progLoad (opcode : BitVec 8) (slice : OpSlice) (dataBuswidth : Nat) : SpiMemOp :=
  ⟨opcode, 1, slice.addrNbytes.toNat, 0, 1, 0, 0, .dataOut, 0, dataBuswidth⟩

/-- `SPINAND_CASN_ADVECC_OP`. -/
def adveccOp (status : AdvEccStatus) : SpiMemOp :=
  ⟨status.cmd, 1, status.addrNbytes.toNat, status.addr, status.addrBuswidth.toNat,
    status.dummyNbytes.toNat, status.dummyBuswidth.toNat, .dataIn, status.statusNbytes.toNat, 1⟩

/-- The capability bits that the driver knows with the operation of each, in the order in which
they are tried. -/
def readOps (casn : NandCasn) : List (Bool × SpiMemOp) :=
  [(casn.sdrReadCap.getLsbD 5, readOp 0xEB casn.sdrRead144 4 4),
    (casn.sdrReadCap.getLsbD 4, readOp 0x6B casn.sdrRead114 1 4),
    (casn.sdrReadCap.getLsbD 3, readOp 0xBB casn.sdrRead122 2 2),
    (casn.sdrReadCap.getLsbD 2, readOp 0x3B casn.sdrRead112 1 2),
    (casn.sdrReadCap.getLsbD 1, readOp 0x0B casn.sdrRead111Fast 1 1),
    (casn.sdrReadCap.getLsbD 0, readOp 0x03 casn.sdrRead111 1 1)]

def writeOps (casn : NandCasn) : List (Bool × SpiMemOp) :=
  [(casn.sdrWriteCap.getLsbD 1, progLoad 0x32 casn.sdrWrite114 4),
    (casn.sdrWriteCap.getLsbD 0, progLoad 0x02 casn.sdrWrite111 1)]

def updateOps (casn : NandCasn) : List (Bool × SpiMemOp) :=
  [(casn.sdrUpdateCap.getLsbD 1, progLoad 0x34 casn.sdrUpdate114 4),
    (casn.sdrUpdateCap.getLsbD 0, progLoad 0x84 casn.sdrUpdate111 1)]

def hweight8 (cap : BitVec 8) : Nat := (List.range 8).countP cap.getLsbD

def declared (ops : List (Bool × SpiMemOp)) : List SpiMemOp := (ops.filter (·.1)).map (·.2)

/-- The table of `nops` slots, filled from the front. -/
def variants (nops : Nat) (ops : List (Bool × SpiMemOp)) : List SpiMemOp :=
  declared ops ++ List.replicate (nops - (declared ops).length) zeroOp

def readVariants (casn : NandCasn) : List SpiMemOp :=
  variants (hweight16 casn.sdrReadCap) (readOps casn)

def writeVariants (casn : NandCasn) : List SpiMemOp :=
  variants (hweight8 casn.sdrWriteCap) (writeOps casn)

def updateVariants (casn : NandCasn) : List SpiMemOp :=
  variants (hweight8 casn.sdrUpdateCap) (updateOps casn)

inductive Alloc where
  | adveccHighOps
  | adveccLowOps
  | casnOob
  | adveccHigh
  | adveccLow
  | readOps
  | writeOps
  | updateOps

/-- What the detection meets outside itself: allocations, the chip and the rest of the kernel. -/
structure Env where
  alloc : Alloc → Bool
  selectOpVariant : Memorg → List SpiMemOp → Option SpiMemOp
  firstReset : Int
  allocCasn : Bool
  /-- The page that `spinand_casn_detect` selects, or its error. -/
  found : Except Int NandCasn
  secondReset : Int
  idDetect : Spinand → Int × Spinand

def memorgOf (casn : NandCasn) : Memorg where
  bitsPerCell := casn.bitsPerCell
  pagesize := casn.bytesPerPage
  oobsize := casn.spareBytesPerPage
  pagesPerEraseblock := casn.pagesPerBlock
  eraseblocksPerLun := casn.blocksPerLun
  maxBadEraseblocksPerLun := casn.maxBbPerLun
  planesPerLun := casn.planesPerLun
  lunsPerTarget := casn.lunsPerTarget
  ntargets := casn.totalTarget

abbrev Step := Spinand → Int × Spinand

def runSteps : List Step → Step
  | [], spinand => (0, spinand)
  | step :: rest, spinand =>
    if (step spinand).1 < 0 then step spinand else runSteps rest (step spinand).2

def setMembers (casn : NandCasn) (spinand : Spinand) : Spinand :=
  { spinand with
    memorg := memorgOf casn
    eccStrength := casn.eccStrength
    eccStepSize := casn.eccStepSize
    flags := casn.flags.setWidth 32
    eccinfo :=
      if casn.flags.getLsbD 5 then ⟨some .casnGetEccStatus, some .casnOoblayout⟩
      else ⟨none, some .casnOoblayout⟩ }

def allocate (env : Env) (site : Alloc) (set : Bool → Spinand → Spinand) : Step := fun spinand =>
  if env.alloc site then (0, set true spinand) else (-ENOMEM, set false spinand)

def setAdvecc (casn : NandCasn) (spinand : Spinand) : Spinand :=
  { spinand with
    adveccHighOps := some (adveccOp casn.eccStatusHigh)
    adveccLowOps := some (adveccOp casn.eccStatusLow)
    casnOob := some casn.casnOob
    adveccHigh := some (adveccOf casn.eccStatusHigh)
    adveccLow := some (adveccOf casn.eccStatusLow)
    adveccLowBitcnt := hweight16 casn.eccStatusLow.statusMask
    adveccNoerrStatus := casn.adveccNoerrStatus
    adveccUncorStatus := casn.adveccUncorStatus
    adveccPostOp := casn.adveccPostOp
    adveccPostMask := casn.adveccPostMask }

/-- `spinand_set_read_op_variants` and its two siblings. -/
def setOpVariants (env : Env) (site : Alloc) (table : List SpiMemOp)
    (set : SpiMemOp → Spinand → Spinand) : Step := fun spinand =>
  if env.alloc site then
    match env.selectOpVariant spinand.memorg table with
    | none => (-ENOTSUPP, spinand)
    | some op => (0, set op spinand)
  else (-ENOMEM, spinand)

def spinandSetReadOpVariants (env : Env) (casn : NandCasn) : Step :=
  setOpVariants env .readOps (readVariants casn) fun op spinand =>
    { spinand with readCache := some op }

def spinandSetWriteOpVariants (env : Env) (casn : NandCasn) : Step :=
  setOpVariants env .writeOps (writeVariants casn) fun op spinand =>
    { spinand with writeCache := some op }

def spinandSetUpdateOpVariants (env : Env) (casn : NandCasn) : Step :=
  setOpVariants env .updateOps (updateVariants casn) fun op spinand =>
    { spinand with updateCache := some op }

def initSteps (env : Env) (casn : NandCasn) : List Step :=
  [allocate env .adveccHighOps fun ok spinand =>
      { spinand with adveccHighOps := if ok then some zeroOp else none },
    allocate env .adveccLowOps fun ok spinand =>
      { spinand with adveccLowOps := if ok then some zeroOp else none },
    allocate env .casnOob fun ok spinand =>
      { spinand with casnOob := if ok then some ⟨0, 0, 0, 0, 0, 0, 0⟩ else none },
    allocate env .adveccHigh fun ok spinand =>
      { spinand with adveccHigh := if ok then some ⟨0, 0, 0, 0, 0⟩ else none },
    allocate env .adveccLow fun ok spinand =>
      { spinand with adveccLow := if ok then some ⟨0, 0, 0, 0, 0⟩ else none },
    fun spinand => (0, setAdvecc casn spinand),
    spinandSetReadOpVariants env casn,
    spinandSetWriteOpVariants env casn,
    spinandSetUpdateOpVariants env casn]

def spinandInitViaCasn (env : Env) (casn : NandCasn) : Step := fun spinand =>
  runSteps (initSteps env casn) (setMembers casn spinand)

/-- The part of the detection between the page and the fallback. -/
def tryCasn (env : Env) : Step := fun spinand =>
  match env.found with
  | .error err => (err, spinand)
  | .ok casn => spinandInitViaCasn env casn { spinand with useCasn := true }

def fallBack (env : Env) : Step := fun spinand =>
  if env.secondReset ≠ 0 then (env.secondReset, spinand) else env.idDetect spinand

def spinandDetect (env : Env) : Step := fun spinand =>
  if env.firstReset ≠ 0 then (env.firstReset, spinand)
  else if ¬ env.allocCasn then (-ENOMEM, { spinand with useCasn := false })
  else
    let tried := tryCasn env { spinand with useCasn := false }
    let detected := if tried.1 < 0 then fallBack env tried.2 else tried
    if tried.1 < 0 ∧ detected.1 ≠ 0 then detected
    else if detected.2.memorg.ntargets > 1 ∧ ¬ detected.2.selectTarget then (-EINVAL, detected.2)
    else detected

/-- `nanddev_per_page_oobsize` and `nanddev_page_size` together. -/
def nbytes (memorg : Memorg) : BitVec 32 := memorg.oobsize + memorg.pagesize

/-- A variant is selected for the bytes of a page: one of the table whose operation the
controller supports, and an operation without a buswidth is not supported.  Without a byte to
transfer the first one is taken. -/
structure Selects (select : Memorg → List SpiMemOp → Option SpiMemOp) : Prop where
  mem : ∀ memorg table op, select memorg table = some op → op ∈ table
  supported : ∀ memorg table op, nbytes memorg ≠ 0 → select memorg table = some op →
    op.cmdBuswidth ≠ 0
  unsized : ∀ memorg table, nbytes memorg = 0 → select memorg table = table.head?

/-- The kernel's part of the detection knows nothing of `use_casn`. -/
def KeepsUseCasn (idDetect : Spinand → Int × Spinand) : Prop :=
  ∀ spinand, (idDetect spinand).2.useCasn = spinand.useCasn

structure Reaches (env : Env) (casn : NandCasn) : Prop where
  reset : env.firstReset = 0
  alloc : env.allocCasn = true
  found : env.found = .ok casn

structure Clean (env : Env) (spinand : Spinand) : Prop where
  fallback : ∀ casn, Reaches env casn →
    (spinandInitViaCasn env casn { spinand with useCasn := true }).1 < 0 →
    ∀ err < 0,
      (spinandDetect env spinand).2 = (spinandDetect { env with found := .error err } spinand).2
  templates : ∀ casn, Reaches env casn →
    (spinandInitViaCasn env casn { spinand with useCasn := true }).1 = 0 →
    (∃ op ∈ declared (readOps casn), (spinandDetect env spinand).2.readCache = some op) ∧
      (∃ op ∈ declared (writeOps casn), (spinandDetect env spinand).2.writeCache = some op) ∧
      (∃ op ∈ declared (updateOps casn), (spinandDetect env spinand).2.updateCache = some op)

structure Initialises (env : Env) (casn : NandCasn) : Prop where
  alloc : ∀ site, env.alloc site = true
  read : (env.selectOpVariant (memorgOf casn) (readVariants casn)).isSome
  write : (env.selectOpVariant (memorgOf casn) (writeVariants casn)).isSome
  update : (env.selectOpVariant (memorgOf casn) (updateVariants casn)).isSome

/-- The page has bytes, or operations of each kind that the driver knows. -/
def Sized (casn : NandCasn) : Prop :=
  nbytes (memorgOf casn) ≠ 0 ∨
    declared (readOps casn) ≠ [] ∧ declared (writeOps casn) ≠ [] ∧ declared (updateOps casn) ≠ []

theorem length_declared (ops : List (Bool × SpiMemOp)) :
    (declared ops).length = ops.countP (·.1) := by
  unfold declared
  rw [List.length_map, List.countP_eq_length_filter]

theorem countP_places_le {w : Nat} (cap : BitVec w) (places : List Nat) {n : Nat}
    (apart : places.Nodup) (inside : ∀ k ∈ places, k < n) :
    places.countP cap.getLsbD ≤ (List.range n).countP cap.getLsbD :=
  (List.subperm_of_subset apart fun k place => List.mem_range.mpr (inside k place)).countP_le _

/-- The tables never get more operations than were counted for their allocation. -/
theorem declared_fit (casn : NandCasn) :
    (declared (readOps casn)).length ≤ hweight16 casn.sdrReadCap ∧
      (declared (writeOps casn)).length ≤ hweight8 casn.sdrWriteCap ∧
      (declared (updateOps casn)).length ≤ hweight8 casn.sdrUpdateCap := by
  simp only [length_declared]
  refine ⟨?_, ?_, ?_⟩
  · exact countP_places_le casn.sdrReadCap [5, 4, 3, 2, 1, 0] (by decide) (by decide)
  · exact countP_places_le casn.sdrWriteCap [1, 0] (by decide) (by decide)
  · exact countP_places_le casn.sdrUpdateCap [1, 0] (by decide) (by decide)

variable {memorg : Memorg} {env : Env} {err : Int}

theorem selected_declared_iff {select : Memorg → List SpiMemOp → Option SpiMemOp}
    (selects : Selects select) {nops : Nat} {ops : List (Bool × SpiMemOp)} {op : SpiMemOp}
    (selected : select memorg (variants nops ops) = some op) :
    op ∈ declared ops ↔ nbytes memorg ≠ 0 ∨ declared ops ≠ [] := by
  constructor
  · intro has
    exact .inr (List.ne_nil_of_mem has)
  · intro sized
    by_cases bytes : nbytes memorg = 0
    · rw [selects.unsized _ _ bytes] at selected
      cases filled : declared ops with
      | nil => exact absurd filled (sized.resolve_left (not_not.mpr bytes))
      | cons first rest =>
        unfold variants at selected
        rw [filled, List.cons_append, List.head?_cons, Option.some.injEq] at selected
        rw [← selected]
        exact List.mem_cons_self
    · have width := selects.supported _ _ _ bytes selected
      rcases List.mem_append.mp (selects.mem _ _ _ selected) with has | padding
      · exact has
      · rw [List.eq_of_mem_replicate padding] at width
        exact absurd rfl width

/-- What is said about a step in a device with a known memory organisation. -/
structure StepSpec (memorg : Memorg) (step : Step) (good : Prop) : Prop where
  useCasn : ∀ spinand, (step spinand).2.useCasn = spinand.useCasn
  keeps : ∀ spinand, (step spinand).2.memorg = spinand.memorg
  done : ∀ spinand, spinand.memorg = memorg → good → (step spinand).1 = 0
  fails : ∀ spinand, spinand.memorg = memorg → ¬ good → (step spinand).1 < 0

theorem runSteps_spec {steps : List Step} {goods : List Prop}
    (spec : List.Forall₂ (StepSpec memorg) steps goods) :
    StepSpec memorg (runSteps steps) (∀ good ∈ goods, good) := by
  induction spec with
  | nil => exact ⟨fun _ => rfl, fun _ => rfl, fun _ _ _ => rfl, fun _ _ bad => absurd nofun bad⟩
  | @cons step good steps goods first _ ih =>
    have small {spinand : Spinand} (known : spinand.memorg = memorg) :
        (step spinand).1 < 0 ↔ ¬ good := by
      refine ⟨fun failed has => ?_, first.fails spinand known⟩
      have := first.done spinand known has
      omega
    constructor
    · intro spinand
      unfold runSteps
      split_ifs
      · exact first.useCasn spinand
      · exact (ih.useCasn _).trans (first.useCasn spinand)
    · intro spinand
      unfold runSteps
      split_ifs
      · exact first.keeps spinand
      · exact (ih.keeps _).trans (first.keeps spinand)
    · intro spinand known all
      unfold runSteps
      have has := all good List.mem_cons_self
      rw [if_neg fun failed => (small known).mp failed has]
      exact ih.done _ ((first.keeps spinand).trans known) fun other listed =>
        all other (List.mem_cons_of_mem _ listed)
    · intro spinand known bad
      unfold runSteps
      by_cases has : good
      · rw [if_neg fun failed => (small known).mp failed has]
        refine ih.fails _ ((first.keeps spinand).trans known) fun rest => bad ?_
        exact List.forall_mem_cons.mpr ⟨has, rest⟩
      · rw [if_pos ((small known).mpr has)]
        exact first.fails spinand known has

theorem allocate_spec (env : Env) (site : Alloc) {set : Bool → Spinand → Spinand}
    (memorg : Memorg) (useCasn : ∀ ok spinand, (set ok spinand).useCasn = spinand.useCasn)
    (keeps : ∀ ok spinand, (set ok spinand).memorg = spinand.memorg) :
    StepSpec memorg (allocate env site set) (env.alloc site = true) := by
  have small : (-ENOMEM : Int) < 0 := by decide
  unfold allocate
  constructor
  · intro spinand
    split_ifs <;> exact useCasn _ spinand
  · intro spinand
    split_ifs <;> exact keeps _ spinand
  · intro spinand _ has
    rw [if_pos has]
  · intro spinand _ failed
    rw [if_neg failed]
    exact small

theorem setOpVariants_spec (env : Env) (site : Alloc) (table : List SpiMemOp)
    {set : SpiMemOp → Spinand → Spinand} (memorg : Memorg)
    (useCasn : ∀ op spinand, (set op spinand).useCasn = spinand.useCasn)
    (keeps : ∀ op spinand, (set op spinand).memorg = spinand.memorg) :
    StepSpec memorg (setOpVariants env site table set)
      (env.alloc site = true ∧ (env.selectOpVariant memorg table).isSome) := by
  have small : (-ENOMEM : Int) < 0 ∧ (-ENOTSUPP : Int) < 0 := by decide
  unfold setOpVariants
  constructor
  · intro spinand
    split_ifs
    · cases env.selectOpVariant spinand.memorg table with
      | none => rfl
      | some op => exact useCasn op spinand
    · rfl
  · intro spinand
    split_ifs
    · cases env.selectOpVariant spinand.memorg table with
      | none => rfl
      | some op => exact keeps op spinand
    · rfl
  · rintro spinand rfl ⟨has, found⟩
    obtain ⟨op, selected⟩ := Option.isSome_iff_exists.mp found
    rw [if_pos has, selected]
  · rintro spinand rfl failed
    by_cases has : env.alloc site = true
    · rw [if_pos has, Option.not_isSome_iff_eq_none.mp fun found => failed ⟨has, found⟩]
      exact small.2
    · rw [if_neg has]
      exact small.1

def needs (env : Env) (casn : NandCasn) : List Prop :=
  [env.alloc .adveccHighOps = true, env.alloc .adveccLowOps = true, env.alloc .casnOob = true,
    env.alloc .adveccHigh = true, env.alloc .adveccLow = true, True,
    env.alloc .readOps = true ∧
      (env.selectOpVariant (memorgOf casn) (readVariants casn)).isSome,
    env.alloc .writeOps = true ∧
      (env.selectOpVariant (memorgOf casn) (writeVariants casn)).isSome,
    env.alloc .updateOps = true ∧
      (env.selectOpVariant (memorgOf casn) (updateVariants casn)).isSome]

theorem needs_iff (env : Env) (casn : NandCasn) :
    (∀ need ∈ needs env casn, need) ↔ Initialises env casn := by
  unfold needs
  simp only [List.forall_mem_cons]
  constructor
  · rintro ⟨highOps, lowOps, oob, high, low, -, ⟨readA, read⟩, ⟨writeA, write⟩,
      ⟨updateA, update⟩, -⟩
    refine ⟨fun site => ?_, read, write, update⟩
    cases site with
    | adveccHighOps => exact highOps
    | adveccLowOps => exact lowOps
    | casnOob => exact oob
    | adveccHigh => exact high
    | adveccLow => exact low
    | readOps => exact readA
    | writeOps => exact writeA
    | updateOps => exact updateA
  · rintro ⟨alloc, read, write, update⟩
    exact ⟨alloc _, alloc _, alloc _, alloc _, alloc _, trivial, ⟨alloc _, read⟩,
      ⟨alloc _, write⟩, ⟨alloc _, update⟩, nofun⟩

theorem initSteps_spec (env : Env) (casn : NandCasn) :
    StepSpec (memorgOf casn) (runSteps (initSteps env casn)) (Initialises env casn) := by
  rw [← needs_iff]
  have pointer (site : Alloc) {set : Bool → Spinand → Spinand}
      (useCasn : ∀ ok spinand, (set ok spinand).useCasn = spinand.useCasn)
      (keeps : ∀ ok spinand, (set ok spinand).memorg = spinand.memorg) :=
    allocate_spec env site (memorgOf casn) useCasn keeps
  refine runSteps_spec ?_
  refine .cons (pointer _ (fun _ _ => rfl) fun _ _ => rfl) ?_
  refine .cons (pointer _ (fun _ _ => rfl) fun _ _ => rfl) ?_
  refine .cons (pointer _ (fun _ _ => rfl) fun _ _ => rfl) ?_
  refine .cons (pointer _ (fun _ _ => rfl) fun _ _ => rfl) ?_
  refine .cons (pointer _ (fun _ _ => rfl) fun _ _ => rfl) ?_
  refine .cons ⟨fun _ => rfl, fun _ => rfl, fun _ _ _ => rfl, fun _ _ bad => absurd trivial bad⟩ ?_
  refine .cons (setOpVariants_spec env _ _ _ (fun _ _ => rfl) fun _ _ => rfl) ?_
  refine .cons (setOpVariants_spec env _ _ _ (fun _ _ => rfl) fun _ _ => rfl) ?_
  exact .cons (setOpVariants_spec env _ _ _ (fun _ _ => rfl) fun _ _ => rfl) .nil

theorem init_useCasn (env : Env) (casn : NandCasn) (spinand : Spinand) :
    (spinandInitViaCasn env casn spinand).2.useCasn = spinand.useCasn :=
  (initSteps_spec env casn).useCasn (setMembers casn spinand)

theorem init_done {casn : NandCasn} (good : Initialises env casn) (spinand : Spinand) :
    (spinandInitViaCasn env casn spinand).1 = 0 :=
  (initSteps_spec env casn).done (setMembers casn spinand) rfl good

theorem init_fails {casn : NandCasn} (bad : ¬ Initialises env casn) (spinand : Spinand) :
    (spinandInitViaCasn env casn spinand).1 < 0 :=
  (initSteps_spec env casn).fails (setMembers casn spinand) rfl bad

theorem init_templates {casn : NandCasn} (good : Initialises env casn) (spinand : Spinand) :
    let after := (spinandInitViaCasn env casn spinand).2
    after.readCache = env.selectOpVariant (memorgOf casn) (readVariants casn) ∧
      after.writeCache = env.selectOpVariant (memorgOf casn) (writeVariants casn) ∧
      after.updateCache = env.selectOpVariant (memorgOf casn) (updateVariants casn) := by
  obtain ⟨alloc, read, write, update⟩ := good
  obtain ⟨readOp, readSelected⟩ := Option.isSome_iff_exists.mp read
  obtain ⟨writeOp, writeSelected⟩ := Option.isSome_iff_exists.mp write
  obtain ⟨updateOp, updateSelected⟩ := Option.isSome_iff_exists.mp update
  rw [readSelected, writeSelected, updateSelected]
  simp [spinandInitViaCasn, initSteps, runSteps, allocate, alloc, spinandSetReadOpVariants,
    spinandSetWriteOpVariants, spinandSetUpdateOpVariants, setOpVariants, setMembers, setAdvecc,
    readSelected, writeSelected, updateSelected]

theorem detect_reached {casn : NandCasn} (reaches : Reaches env casn) (spinand : Spinand) :
    (spinandDetect env spinand).2 =
      let tried := spinandInitViaCasn env casn { spinand with useCasn := true }
      (if tried.1 < 0 then fallBack env tried.2 else tried).2 := by
  unfold spinandDetect tryCasn
  rw [if_neg (not_not.mpr reaches.reset), if_neg (not_not.mpr reaches.alloc), reaches.found]
  simp only
  split_ifs <;> rfl

theorem detect_without_page (reset : env.firstReset = 0) (alloc : env.allocCasn = true)
    (negative : err < 0) (spinand : Spinand) :
    (spinandDetect { env with found := .error err } spinand).2 =
      (fallBack env { spinand with useCasn := false }).2 := by
  unfold spinandDetect tryCasn
  rw [if_neg (not_not.mpr reset), if_neg (not_not.mpr alloc)]
  simp only [if_pos negative]
  split_ifs <;> rfl

theorem fallBack_useCasn (kernel : KeepsUseCasn env.idDetect) (spinand : Spinand) :
    (fallBack env spinand).2.useCasn = spinand.useCasn := by
  unfold fallBack
  split_ifs
  · rfl
  · exact kernel spinand

theorem not_fallback {casn : NandCasn} (reaches : Reaches env casn)
    (kernel : KeepsUseCasn env.idDetect) (bad : ¬ Initialises env casn) (negative : err < 0)
    (spinand : Spinand) :
    (spinandDetect env spinand).2 ≠
      (spinandDetect { env with found := .error err } spinand).2 := by
  intro same
  have flag := congrArg Spinand.useCasn same
  rw [detect_reached reaches, detect_without_page reaches.reset reaches.alloc negative,
    fallBack_useCasn kernel] at flag
  simp only [if_pos (init_fails bad _), fallBack_useCasn kernel, init_useCasn] at flag
  cases flag

/-- The detection is clean exactly if nothing fails between the page and the end of the setup,
and the page has bytes to read or declares operations of each kind. -/
theorem clean_iff (env : Env) (selects : Selects env.selectOpVariant)
    (kernel : KeepsUseCasn env.idDetect) (spinand : Spinand) :
    Clean env spinand ↔ ∀ casn, Reaches env casn → Initialises env casn ∧ Sized casn := by
  have templates {casn : NandCasn} (reaches : Reaches env casn) (good : Initialises env casn) :
      ((∃ op ∈ declared (readOps casn), (spinandDetect env spinand).2.readCache = some op) ∧
        (∃ op ∈ declared (writeOps casn), (spinandDetect env spinand).2.writeCache = some op) ∧
        ∃ op ∈ declared (updateOps casn),
          (spinandDetect env spinand).2.updateCache = some op) ↔ Sized casn := by
    obtain ⟨read, write, update⟩ := init_templates good { spinand with useCasn := true }
    obtain ⟨readOp, readSelected⟩ := Option.isSome_iff_exists.mp good.read
    obtain ⟨writeOp, writeSelected⟩ := Option.isSome_iff_exists.mp good.write
    obtain ⟨updateOp, updateSelected⟩ := Option.isSome_iff_exists.mp good.update
    have done : ¬ (spinandInitViaCasn env casn { spinand with useCasn := true }).1 < 0 := by
      rw [init_done good]
      decide
    rw [detect_reached reaches]
    simp only [if_neg done, read, write, update, readSelected, writeSelected, updateSelected,
      Option.some.injEq, exists_eq_right']
    rw [selected_declared_iff selects readSelected, selected_declared_iff selects writeSelected,
      selected_declared_iff selects updateSelected]
    unfold Sized
    tauto
  constructor
  · intro clean casn reaches
    have good : Initialises env casn := by
      refine not_not.mp fun bad => ?_
      exact not_fallback reaches kernel bad (by decide : (-EBADMSG : Int) < 0) spinand
        (clean.fallback casn reaches (init_fails bad _) (-EBADMSG) (by decide))
    exact ⟨good, (templates reaches good).mp (clean.templates casn reaches (init_done good _))⟩
  · intro fits
    constructor
    · intro casn reaches failed
      rw [init_done (fits casn reaches).1] at failed
      exact absurd failed (by decide)
    · intro casn reaches _
      exact (templates reaches (fits casn reaches).1).mpr (fits casn reaches).2

theorem sized_of_accepted {casn : NandCasn} (accepted : Accepted casn) : Sized casn := by
  refine .inl ?_
  have page := accepted.bytesPerPage
  have spare := accepted.spareBytesPerPage
  unfold nbytes memorgOf
  simp only [List.mem_cons, List.not_mem_nil, or_false] at page spare ⊢
  rcases page with page | page <;> rw [page] <;>
    rcases spare with spare | spare | spare | spare <;> rw [spare] <;> decide

def firstFilled (memorg : Memorg) (table : List SpiMemOp) : Option SpiMemOp :=
  if nbytes memorg = 0 then table.head? else table.find? fun op => decide (op.cmdBuswidth ≠ 0)

theorem selects_firstFilled : Selects firstFilled := by
  unfold firstFilled
  constructor
  · intro memorg table op selected
    split_ifs at selected
    · exact List.mem_of_head? selected
    · exact List.mem_of_find?_eq_some selected
  · intro memorg table op sized selected
    rw [if_neg sized] at selected
    have width := List.find?_some selected
    exact of_decide_eq_true width
  · intro memorg table unsized
    exact if_pos unsized

def blank : Spinand :=
  ⟨false, ⟨0, 0, 0, 0, 0, 0, 0, 0, 0⟩, 0, 0, 0, ⟨none, none⟩, none, none, none, none, none, 0, 0,
    0, 0, 0, none, none, none, false⟩

def envOf (casn : NandCasn) : Env :=
  ⟨fun _ => true, firstFilled, 0, true, .ok casn, 0, fun spinand => (0, spinand)⟩

def opsPage : NandCasn := pageOf (plainBytes ++ [(81, 1), (148, 1), (182, 1)])

theorem opsPage_clean : Clean (envOf opsPage) blank := by
  refine (clean_iff (envOf opsPage) selects_firstFilled (fun _ => rfl) blank).mpr ?_
  intro casn reaches
  have same : opsPage = casn := Except.ok.inj reaches.found
  rw [← same]
  refine ⟨⟨fun _ => rfl, by decide +kernel, by decide +kernel, by decide +kernel⟩, ?_⟩
  exact sized_of_accepted ((accepted_iff opsPage).mp (by decide +kernel))

/-- No read variant is supported, and `use_casn` stays set. -/
theorem plainPage_not_clean : ¬ Clean (envOf (pageOf plainBytes)) blank := by
  intro clean
  have reaches : Reaches (envOf (pageOf plainBytes)) (pageOf plainBytes) := ⟨rfl, rfl, rfl⟩
  have bad : ¬ Initialises (envOf (pageOf plainBytes)) (pageOf plainBytes) := by
    intro good
    have read := good.read
    revert read
    decide +kernel
  exact not_fallback reaches (fun _ => rfl) bad (by decide : (-EBADMSG : Int) < 0) blank
    (clean.fallback _ reaches (init_fails bad _) (-EBADMSG) (by decide))

end OpenwrtSource.SpiNand.Detect
