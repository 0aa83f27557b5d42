import Mathlib.Algebra.Group.Nat.Defs
import Mathlib.Data.List.Basic

/-!
# The EEPROM back ends of wifi_utility

Reads try the device tree node of the Wi-Fi chip first and then the partition
`Factory` or `factory`; writes go to the partition only.  All of it moves bytes
and looks at none, so the type of bytes is arbitrary.
-/

namespace OpenwrtSource.Eeprom.WifiUtility

abbrev Name := List Char

def ENOENT : Int := 2
def EIO : Int := 5
def ENOMEM : Int := 12
def ENODEV : Int := 19
def EINVAL : Int := 22
def EUCLEAN : Int := 117

/-- What holds the bytes: an MTD partition, the data of `mediatek,eeprom-data`,
or another NVMEM device. -/
inductive Store where
  | mtd (name : Name)
  | eepromData
  | nvmem (device : Nat)
  deriving DecidableEq

structure Partition where
  size : Nat
  erasesize : Nat

/-- An NVMEM cell: `size` bytes of the provider from `offset` on.  `regBase` is
what `__mt_of_get_cell_base` reads from the `reg` property of the cell. -/
structure Cell where
  provider : Store
  offset : Nat
  size : Nat
  regBase : Except Int Int

inductive Compatible where
  | wbsys
  | mt76
  | mt7981Wmac
  | mt7986Wmac
  | other

structure Node where
  available : Bool
  compatible : List Compatible
  /-- the size of `mediatek,eeprom-data` -/
  eepromData : Option Nat
  /-- the cells of `mediatek,mtd-eeprom` -/
  mtdEeprom : Option (List Nat)
  bigEndian : Bool
  eepromCell : Option Cell
  precalCell : Option Cell

structure MtdNode where
  label : Option Name
  name : Name

structure DeviceTree where
  allNodes : List Node
  findNodeByPhandle : Nat → Option MtdNode

variable {α : Type}

abbrev Content (α : Type) := Store → Nat → α

/-- The partitions, and how the MTD and NVMEM calls of one request end.  A read
that ends well, or with a corrected bit flip, has delivered what is stored. -/
structure Device where
  partitions : Name → Option Partition
  getMtdDevice : Name → Int
  mtdRead : Name → Int → Nat → Int × Nat
  kmalloc : Bool
  mtdErase : Name → Int
  mtdWrite : Name → Int × Nat
  nvmemCellRead : Cell → Int

def bytes (content : Content α) (store : Store) (start len : Nat) : List α :=
  (List.range len).map fun i => content store (start + i)

def mtdIsBitflip (ret : Int) : Bool := ret = -EUCLEAN

/-- `mtd_read`, which refuses what is not inside the partition. -/
def mtdRead (dev : Device) (name : Name) (p : Partition) (start : Int) (len : Nat) : Int × Nat :=
  if start < 0 ∨ start + len > p.size then (-EINVAL, 0) else dev.mtdRead name start len

/-- The return code of a read: a corrected bit flip is no error, missing bytes are. -/
def readRet (dev : Device) (name : Name) (p : Partition) (start : Int) (len : Nat) : Int :=
  let (ret, rdlen) := mtdRead dev name p start len
  let ret := if mtdIsBitflip ret then 0 else ret
  if ret = 0 ∧ rdlen ≠ len then (- EIO) else ret

def mtMtdReadNm (dev : Device) (content : Content α) (name : Name) (start : Int) (len : Nat) :
    Except Int (List α) :=
  if start < 0 then .error (-EINVAL)
  else
    match dev.partitions name with
    | none => .error (-ENODEV)
    | some p =>
      if dev.getMtdDevice name ≠ 0 then .error (dev.getMtdDevice name)
      else if readRet dev name p start len ≠ 0 then .error (readRet dev name p start len)
      else .ok (bytes content (.mtd name) start.toNat len)

def Node.hasEeprom (np : Node) : Bool :=
  np.eepromData.isSome || np.mtdEeprom.isSome || np.eepromCell.isSome

def Node.isWifiNode (np : Node) : Bool :=
  np.compatible.any fun
    | .other => false
    | _ => true

def normalizeOffset (start base : Int) : Int :=
  if base ≥ 0 ∧ start ≥ base then start - base else start

/-- `__mt_of_copy_eeprom`; `zero` is the byte that `memset` fills in. -/
def copyEeprom (zero : α) (content : Content α) (size : Nat) (start base : Int) (len : Nat) :
    Except Int (List α) :=
  if start < 0 then .error (-EINVAL)
  else if len = 0 then .ok []
  else
    let start := normalizeOffset start base
    if start < 0 ∨ start ≥ size then .ok (List.replicate len zero)
    else
      let copy := min len (size - start.toNat)
      .ok (bytes content .eepromData start.toNat copy ++ List.replicate (len - copy) zero)

/-- `__mt_of_copy_cell`: the part of the buffer that the cell covers is overwritten. -/
def copyCell (content : Content α) (cell : Cell) (start base : Int) (buf : List α) :
    Except Int (List α) :=
  if start < 0 then .error (-EINVAL)
  else if buf.length = 0 ∨ cell.size = 0 then .ok buf
  else
    let req := start.toNat
    -- a negative base counts as 0
    let low := base.toNat
    let reqEnd := req + buf.length
    let high := low + cell.size
    if reqEnd ≥ 2 ^ 64 ∨ high ≥ 2 ^ 64 then .error (-EINVAL)
    else if reqEnd ≤ low ∨ high ≤ req then .ok buf
    else
      let first := max req low
      let stop := min reqEnd high
      .ok (buf.mapIdx fun i b =>
        if first ≤ req + i ∧ req + i < stop then
          content cell.provider (cell.offset + (req + i - low))
        else b)

/-- `__mt_of_get_mtd_eeprom`: the partition and the offset. -/
def getMtdEeprom (dt : DeviceTree) (np : Node) : Except Int (Name × Nat) :=
  match np.mtdEeprom with
  | none => .error (-ENOENT)
  | some (phandle :: ofs :: _) =>
    if phandle = 0 then .error (-ENOENT)
    else
      match dt.findNodeByPhandle phandle with
      | none => .error (-EINVAL)
      | some mtdNp => .ok (mtdNp.label.getD mtdNp.name, ofs)
  | some _ => .error (-EINVAL)

/-- `__mt_of_get_mtd_base` over the initial value -1. -/
def getMtdBase (dt : DeviceTree) (np : Node) : Int :=
  match getMtdEeprom dt np with
  | .ok (_, ofs) => ofs
  | .error _ => -1

def swapWords : List α → List α
  | high :: low :: rest => low :: high :: swapWords rest
  | rest => rest

def readMtdEeprom (dev : Device) (content : Content α) (np : Node) (part : Name) (mtdOfs : Nat)
    (start : Int) (len : Nat) : Except Int (List α) :=
  if start < 0 then .error (-EINVAL)
  else
    let start := if start < mtdOfs then start + mtdOfs else start
    match mtMtdReadNm dev content part start len with
    | .error ret => .error ret
    | .ok buf => .ok (if np.bigEndian then swapWords buf else buf)

def readNvmemCell (dev : Device) (content : Content α) (cell : Cell) (start : Int)
    (dfltBase : Int) (buf : List α) : Except Int (List α) :=
  if dev.nvmemCellRead cell ≠ 0 then .error (dev.nvmemCellRead cell)
  else
    match cell.regBase with
    | .ok base => copyCell content cell start base buf
    | .error ret => if dfltBase < 0 then .error ret else copyCell content cell start dfltBase buf

def readNvmemEeprom (dev : Device) (zero : α) (content : Content α) (eeprom : Cell)
    (precal : Option Cell) (start : Int) (len : Nat) : Except Int (List α) :=
  if len = 0 then .ok []
  else
    match readNvmemCell dev content eeprom start 0 (List.replicate len zero) with
    | .error ret => .error ret
    | .ok buf =>
      match precal with
      | none => .ok buf
      | some cell =>
        -- a cell that cannot be read is left out
        match readNvmemCell dev content cell start (-1) buf with
        | .error _ => .ok buf
        | .ok buf => .ok buf

inductive Backend where
  | eepromData (size : Nat) (base : Int)
  | mtdEeprom (part : Name) (mtdOfs : Nat) (bigEndian : Bool)
  | nvmem (eeprom : Cell) (precal : Option Cell)
  | raw (name : Name)

def served (backend : Backend) : Except Int (List α) → Except Int (Backend × List α)
  | .error ret => .error ret
  | .ok buf => .ok (backend, buf)

def readNodeEeprom (dev : Device) (dt : DeviceTree) (zero : α) (content : Content α) (np : Node)
    (start : Int) (len : Nat) : Except Int (Backend × List α) :=
  match np.eepromData, np.mtdEeprom, np.eepromCell with
  | some size, _, _ =>
    let base := getMtdBase dt np
    served (.eepromData size base) (copyEeprom zero content size start base len)
  | none, some _, _ =>
    match getMtdEeprom dt np with
    | .error ret => .error ret
    | .ok (part, mtdOfs) =>
      served (.mtdEeprom part mtdOfs np.bigEndian)
        (readMtdEeprom dev content np part mtdOfs start len)
  | none, none, some eeprom =>
    served (.nvmem eeprom np.precalCell)
      (readNvmemEeprom dev zero content eeprom np.precalCell start len)
  | none, none, none => .error (-ENOENT)

/-- The first node that is an available Wi-Fi node with an EEPROM decides. -/
def mtOfReadEeprom (dev : Device) (dt : DeviceTree) (zero : α) (content : Content α)
    (start : Int) (len : Nat) : Except Int (Backend × List α) :=
  match dt.allNodes.find? fun np => np.available && np.isWifiNode && np.hasEeprom with
  | none => .error (-ENOENT)
  | some np => readNodeEeprom dev dt zero content np start len

def Factory : Name := ['F', 'a', 'c', 't', 'o', 'r', 'y']
def factory : Name := ['f', 'a', 'c', 't', 'o', 'r', 'y']

def mtEepromRead (dev : Device) (dt : DeviceTree) (zero : α) (content : Content α)
    (start : Int) (len : Nat) : Except Int (Backend × List α) :=
  match mtOfReadEeprom dev dt zero content start len with
  | .ok done => .ok done
  | .error _ =>
    match served (.raw Factory) (mtMtdReadNm dev content Factory start len) with
    | .ok done => .ok done
    | .error _ => served (.raw factory) (mtMtdReadNm dev content factory start len)

/-- The backup of the erase block, with the new bytes at `dest`. -/
def overwrite (bak : List α) (dest : Nat) (buf : List α) : List α :=
  bak.take dest ++ buf ++ bak.drop (dest + buf.length)

/-- `mt_mtd_write_nm_wifi`.  `junk` is what a failed erase or write leaves in
the partition. -/
def mtMtdWriteNm (dev : Device) (junk : Nat → α) (content : Content α) (name : Name) (dest : Int)
    (buf : List α) : Int × Content α :=
  if dest < 0 then (-EINVAL, content)
  else
    match dev.partitions name with
    | none => (-ENODEV, content)
    | some p =>
      if dev.getMtdDevice name ≠ 0 then (dev.getMtdDevice name, content)
      else if dest > p.erasesize ∨ buf.length > p.erasesize - dest then (-EINVAL, content)
      else if !dev.kmalloc then (-ENOMEM, content)
      else
        let ret := readRet dev name p 0 p.erasesize
        if ret ≠ 0 then (ret, content)
        else
          let bak := overwrite (bytes content (.mtd name) 0 p.erasesize) dest.toNat buf
          let failed : Content α := Function.update content (.mtd name) junk
          if dev.mtdErase name ≠ 0 then (dev.mtdErase name, failed)
          else if (dev.mtdWrite name).1 ≠ 0 then ((dev.mtdWrite name).1, failed)
          else if (dev.mtdWrite name).2 ≠ p.erasesize then (- EIO, failed)
          else
            (0, Function.update content (.mtd name) fun a =>
              (bak[a]?).getD (content (.mtd name) a))

def mtEepromWrite (dev : Device) (junk : Name → Nat → α) (content : Content α) (dest : Int)
    (buf : List α) : Int × Content α :=
  let first := mtMtdWriteNm dev (junk Factory) content Factory dest buf
  if first.1 = 0 then first
  else mtMtdWriteNm dev (junk factory) first.2 factory dest buf

end OpenwrtSource.Eeprom.WifiUtility
