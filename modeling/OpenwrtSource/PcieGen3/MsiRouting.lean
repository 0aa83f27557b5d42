import Mathlib.Data.BitVec
import Mathlib.Data.List.ProdSigma
import OpenwrtSource.Lib.Selection
import OpenwrtSource.Lib.Run
import OpenwrtSource.Lib.TableFold

/-!
# The routing of MSI vectors

Each parent interrupt of the controller has a group and a table of the vectors of a set
that it serves.  Mask, unmask and the handler look the owner up in these tables, which come
from the device tree.
-/

namespace OpenwrtSource.PcieGen3.MsiRouting

open Lib.Run Lib.TableFold

abbrev Word := BitVec 32

def PCIE_MSI_GROUP_NUM : Nat := 4

def PCIE_MSI_SET_NUM : Nat := 8

def PCIE_MSI_IRQS_PER_SET : Nat := 32

/-- The string `msi_type`. -/
inductive MsiType where
  | directMsi
  | bindingMsi
  | other

inductive GroupType where
  | group0MergeMsi
  | group1DirectMsi
  | groupBindingMsi
  deriving DecidableEq

def groupType : Option MsiType → GroupType
  | some .directMsi => .group1DirectMsi
  | some .bindingMsi => .groupBindingMsi
  | _ => .group0MergeMsi

inductive Errno where
  | EINVAL

/-- The interrupts of the platform device: there is one, and they have different numbers. -/
structure Platform where
  irqs : List Nat
  nonempty : irqs ≠ []
  distinct : irqs.Nodup

abbrev Row := Nat × Word

/-- `devm_kzalloc` of the rows. -/
def zeroed (numIrqs : Nat) : List Row := List.replicate numIrqs (0, 0)

/-- The loop over the pairs of `msi-map`; a last element without a second one is left out. -/
def mapRows : Word → List Word → Except Errno (List Row)
  | maskCheck, group :: table :: rest =>
    if PCIE_MSI_GROUP_NUM ≤ group.toNat ∨ table &&& maskCheck ≠ 0 then .error .EINVAL
    else
      match mapRows (maskCheck ||| table) rest with
      | .error err => .error err
      | .ok rows => .ok ((group.toNat, table) :: rows)
  | _, _ => .ok []

/-- The rows of the `numIrqs` interrupts.  `msiMap` is none if the property cannot be
counted. -/
def mtkPcieParseMsi (numIrqs : Nat) (msiType : Option MsiType) (msiMap : Option (List Word)) :
    Except Errno (List Row) :=
  match groupType msiType with
  | .group0MergeMsi => .ok ((zeroed numIrqs).set 0 (0, BitVec.allOnes 32))
  | _ =>
    match msiMap with
    | none => .error .EINVAL
    | some map =>
      if map.length = 0 ∨ numIrqs < map.length / 2 then .error .EINVAL
      else
        match mapRows 0 map with
        | .error err => .error err
        | .ok rows => .ok (rows ++ (zeroed numIrqs).drop rows.length)

structure PcieIrq where
  irq : Nat
  group : Nat
  mappedTable : Word

structure Pcie where
  msiGroupType : GroupType
  irqs : List PcieIrq

/-- `mtk_pcie_parse_msi`, then `mtk_pcie_setup_irq`. -/
def setup (platform : Platform) (msiType : Option MsiType) (msiMap : Option (List Word)) :
    Except Errno Pcie :=
  match mtkPcieParseMsi platform.irqs.length msiType msiMap with
  | .error err => .error err
  | .ok rows =>
    .ok ⟨groupType msiType, List.zipWith (fun irq row => ⟨irq, row.1, row.2⟩) platform.irqs rows⟩

/-- `msi_set->enable[group]`, from `PCIE_MSI_SET_BASE_REG` on. -/
def enableReg (set : Nat) : Nat → Nat
  | 0 => 0x08 + set * 0x10
  | 1 => 0x0c + set * 0x10
  | 2 => 0x1c0 + set * 0x04
  | _ => 0x1e0 + set * 0x04

abbrev Hwirq := Fin 256

def Hwirq.set (hwirq : Hwirq) : Nat := hwirq.val / PCIE_MSI_IRQS_PER_SET

def Hwirq.bit (hwirq : Hwirq) : Nat := hwirq.val % PCIE_MSI_IRQS_PER_SET

/-- The registers, and `saved_irq_state` of the sets. -/
structure State where
  regs : Nat → Word
  saved : Nat × Nat → Word

def PcieIrq.maps (q : PcieIrq) (bit : Nat) : Bool := q.mappedTable.getLsbD bit

def mtkMsiHwirqGetIrqs (pcie : Pcie) (bit : Nat) : Option PcieIrq :=
  pcie.irqs.find? fun q => q.maps bit

def mtkMsiIrqGetIrqs (pcie : Pcie) (irq : Nat) : Option PcieIrq :=
  pcie.irqs.find? fun q => q.irq == irq

def writel (s : State) (reg : Nat) (val : Word) : State :=
  { s with regs := Function.update s.regs reg val }

def mtkMsiBottomIrqMask (pcie : Pcie) (s : State) (hwirq : Hwirq) : State :=
  match mtkMsiHwirqGetIrqs pcie hwirq.bit with
  | none => s
  | some q =>
    let reg := enableReg hwirq.set q.group
    writel s reg (s.regs reg &&& ~~~ (1#32 <<< hwirq.bit))

def mtkMsiBottomIrqUnmask (pcie : Pcie) (s : State) (hwirq : Hwirq) : State :=
  match mtkMsiHwirqGetIrqs pcie hwirq.bit with
  | none => s
  | some q =>
    let reg := enableReg hwirq.set q.group
    writel s reg (s.regs reg ||| 1#32 <<< hwirq.bit)

def setGroups : List (Nat × Nat) :=
  (List.range PCIE_MSI_SET_NUM).product (List.range PCIE_MSI_GROUP_NUM)

def mtkPcieIrqSave (s : State) : State :=
  { s with
    saved := setGroups.foldl (writeCell id fun i _ => s.regs (enableReg i.1 i.2)) s.saved }

def mtkPcieIrqRestore (s : State) : State :=
  { s with
    regs := setGroups.foldl (writeCell (fun i => enableReg i.1 i.2) fun i _ => s.saved i) s.regs }

/-- `for_each_set_bit`. -/
def setBits (word : Word) : List Nat :=
  (List.range PCIE_MSI_IRQS_PER_SET).filter fun bit => word.getLsbD bit

/-- The loop of the handler over the status register: what is handled is acknowledged, and
`arrivals` come in before each next read. -/
def statusLoop (msiEnable : Word) : Word → List Word → List Nat
  | msiStatus, [] => setBits (msiStatus &&& msiEnable)
  | msiStatus, arrival :: rest =>
    if msiStatus &&& msiEnable = 0 then []
    else
      setBits (msiStatus &&& msiEnable) ++
        statusLoop msiEnable ((msiStatus &&& ~~~ msiEnable) ||| arrival) rest

/-- The status registers of the sets when the handler runs, and what arrives meanwhile. -/
structure Pending where
  status : Nat → Word
  arrivals : Nat → List Word
  /-- The bits of the sets in `PCIE_INT_STATUS_REG`. -/
  intStatus : Nat → Bool

def mtkPcieMsiHandler (pcie : Pcie) (s : State) (pending : Pending) (irq set : Nat) : List Nat :=
  match mtkMsiIrqGetIrqs pcie irq with
  | none => []
  | some q =>
    let msiEnable := s.regs (enableReg set q.group) &&& q.mappedTable
    if msiEnable = 0 then []
    else (statusLoop msiEnable (pending.status set) (pending.arrivals set)).map fun bit =>
      bit + set * PCIE_MSI_IRQS_PER_SET

/-- The vectors that the handler of a parent interrupt dispatches. -/
def mtkPcieIrqHandler (pcie : Pcie) (s : State) (pending : Pending) (irq : Nat) : List Nat :=
  if pcie.msiGroupType = .group0MergeMsi then
    ((List.range PCIE_MSI_SET_NUM).filter pending.intStatus).flatMap
      (mtkPcieMsiHandler pcie s pending irq)
  else (List.range PCIE_MSI_SET_NUM).flatMap (mtkPcieMsiHandler pcie s pending irq)

/-- `cycle` is a suspend, after which the registers hold anything, and a resume. -/
inductive Event where
  | mask (hwirq : Hwirq)
  | unmask (hwirq : Hwirq)
  | cycle (lost : Nat → Word)

/-- The state, and whether each vector was last unmasked. -/
structure System where
  state : State
  unmasked : Hwirq → Bool

def step (pcie : Pcie) (sys : System) : Event → System
  | .mask hwirq =>
    ⟨mtkMsiBottomIrqMask pcie sys.state hwirq, Function.update sys.unmasked hwirq false⟩
  | .unmask hwirq =>
    ⟨mtkMsiBottomIrqUnmask pcie sys.state hwirq, Function.update sys.unmasked hwirq true⟩
  | .cycle lost =>
    ⟨mtkPcieIrqRestore { mtkPcieIrqSave sys.state with regs := lost }, sys.unmasked⟩

def start : System := ⟨⟨fun _ => 0, fun _ => 0⟩, fun _ => false⟩

def Owner (pcie : Pcie) (bit i : Nat) : Prop :=
  ∃ q, pcie.irqs[i]? = some q ∧ q.maps bit = true

/-- Each vector number belongs to one parent interrupt, with a valid group. -/
structure Partitions (pcie : Pcie) : Prop where
  one : ∀ bit < PCIE_MSI_IRQS_PER_SET, ∃! i, Owner pcie bit i
  group : ∀ q ∈ pcie.irqs, q.group < PCIE_MSI_GROUP_NUM

def Enabled (s : State) (hwirq : Hwirq) (group : Nat) : Prop :=
  group < PCIE_MSI_GROUP_NUM ∧ (s.regs (enableReg hwirq.set group)).getLsbD hwirq.bit = true

/-- The interrupt status tells of every set with a pending vector that is enabled for group 0. -/
def Reports (s : State) (pending : Pending) : Prop :=
  ∀ set < PCIE_MSI_SET_NUM, pending.status set &&& s.regs (enableReg set 0) ≠ 0 →
    pending.intStatus set = true

/-- The handler of the parent interrupt dispatches the vector. -/
def Dispatches (pcie : Pcie) (s : State) (pending : Pending) (hwirq : Hwirq) (i : Nat) : Prop :=
  ∃ q, pcie.irqs[i]? = some q ∧ hwirq.val ∈ mtkPcieIrqHandler pcie s pending q.irq

/-- A vector is enabled for one group if it was last unmasked and for none otherwise, and
when it is pending and unmasked, one parent interrupt dispatches it. -/
structure Routed (pcie : Pcie) (sys : System) (hwirq : Hwirq) : Prop where
  on : sys.unmasked hwirq = true → ∃! group, Enabled sys.state hwirq group
  off : sys.unmasked hwirq = false → ∀ group, ¬ Enabled sys.state hwirq group
  dispatched : ∀ pending, Reports sys.state pending → sys.unmasked hwirq = true →
    (pending.status hwirq.set).getLsbD hwirq.bit = true →
      ∃! i, Dispatches pcie sys.state pending hwirq i

/-- The tables partition the vectors, and every run routes them. -/
structure Routes (pcie : Pcie) : Prop where
  partitions : Partitions pcie
  runs : ∀ events hwirq, Routed pcie (run (step pcie) start events) hwirq

/-- The tables of `msi-map`. -/
def tables : List Word → List Word
  | _ :: table :: rest => table :: tables rest
  | _ => []

/-- The vectors are merged, or each of them is in a table of `msi-map`. -/
def Covers (msiType : Option MsiType) (msiMap : Option (List Word)) : Prop :=
  groupType msiType = .group0MergeMsi ∨
    ∀ bit < PCIE_MSI_IRQS_PER_SET, ∃ table ∈ tables (msiMap.getD []), table.getLsbD bit = true

end OpenwrtSource.PcieGen3.MsiRouting
