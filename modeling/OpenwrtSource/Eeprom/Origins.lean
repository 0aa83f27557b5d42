import OpenwrtSource.Eeprom.WifiUtility
import OpenwrtSource.Lib.History

/-!
# Origins of the bytes of a read

Every back end commutes with a map of the bytes.  So a read of any content is
the read of the origins, evaluated at that content, and the back end that
serves a read and the errors do not depend on the content.
-/

namespace OpenwrtSource.Eeprom.Origins

open Lib.Provenance Eeprom.WifiUtility

variable {α β : Type}

def mapContent (g : α → β) (content : Content α) : Content β := fun store a => g (content store a)

@[simp] theorem bytes_map (g : α → β) (content : Content α) (store : Store) (start len : Nat) :
    bytes (mapContent g content) store start len = (bytes content store start len).map g := by
  simp [bytes, mapContent]

@[simp] theorem length_bytes (content : Content α) (store : Store) (start len : Nat) :
    (bytes content store start len).length = len := by
  simp [bytes]

theorem swapWords_map (g : α → β) : ∀ buf : List α, swapWords (buf.map g) = (swapWords buf).map g
  | [] => rfl
  | [_] => rfl
  | high :: low :: rest => by
    simp only [swapWords, List.map_cons, swapWords_map g rest]

@[simp] theorem length_swapWords : ∀ buf : List α, (swapWords buf).length = buf.length
  | [] => rfl
  | [_] => rfl
  | high :: low :: rest => by
    simp only [swapWords, List.length_cons, length_swapWords rest]

variable (dev : Device) (dt : DeviceTree)

theorem mtMtdReadNm_map (g : α → β) (content : Content α) (name : Name) (start : Int) (len : Nat) :
    mtMtdReadNm dev (mapContent g content) name start len =
      (mtMtdReadNm dev content name start len).map (List.map g) := by
  unfold mtMtdReadNm
  split
  · rfl
  · cases dev.partitions name with
    | none => rfl
    | some p =>
      simp only [bytes_map]
      split
      · rfl
      · split
        · rfl
        · rfl

theorem copyEeprom_map (g : α → β) (zero : α) (content : Content α) (size : Nat)
    (start base : Int) (len : Nat) :
    copyEeprom (g zero) (mapContent g content) size start base len =
      (copyEeprom zero content size start base len).map (List.map g) := by
  unfold copyEeprom
  split
  · rfl
  · split
    · rfl
    · simp only
      split <;> simp [Except.map]

theorem copyCell_map (g : α → β) (content : Content α) (cell : Cell) (start base : Int)
    (buf : List α) :
    copyCell (mapContent g content) cell start base (buf.map g) =
      (copyCell content cell start base buf).map (List.map g) := by
  unfold copyCell
  simp only [List.length_map]
  split
  · rfl
  · split
    · rfl
    · split
      · rfl
      · split
        · rfl
        · simp only [Except.map, Except.ok.injEq]
          apply List.ext_getElem
          · simp
          · intro i _ _
            simp only [List.getElem_mapIdx, List.getElem_map, mapContent, apply_ite g]

theorem readNvmemCell_map (g : α → β) (content : Content α) (cell : Cell) (start dfltBase : Int)
    (buf : List α) :
    readNvmemCell dev (mapContent g content) cell start dfltBase (buf.map g) =
      (readNvmemCell dev content cell start dfltBase buf).map (List.map g) := by
  unfold readNvmemCell
  split
  · rfl
  · cases cell.regBase with
    | ok base => exact copyCell_map g content cell start base buf
    | error ret =>
      simp only
      split
      · rfl
      · exact copyCell_map g content cell start dfltBase buf

theorem readNvmemEeprom_map (g : α → β) (zero : α) (content : Content α) (eeprom : Cell)
    (precal : Option Cell) (start : Int) (len : Nat) :
    readNvmemEeprom dev (g zero) (mapContent g content) eeprom precal start len =
      (readNvmemEeprom dev zero content eeprom precal start len).map (List.map g) := by
  unfold readNvmemEeprom
  split
  · rfl
  · rw [← List.map_replicate, readNvmemCell_map]
    cases readNvmemCell dev content eeprom start 0 (List.replicate len zero) with
    | error ret => rfl
    | ok buf =>
      cases precal with
      | none => rfl
      | some cell =>
        simp only [Except.map, readNvmemCell_map]
        cases readNvmemCell dev content cell start (-1) buf <;> rfl

theorem readMtdEeprom_map (g : α → β) (content : Content α) (np : Node) (part : Name) (mtdOfs : Nat)
    (start : Int) (len : Nat) :
    readMtdEeprom dev (mapContent g content) np part mtdOfs start len =
      (readMtdEeprom dev content np part mtdOfs start len).map (List.map g) := by
  unfold readMtdEeprom
  split
  · rfl
  · simp only [mtMtdReadNm_map]
    cases mtMtdReadNm dev content part (if start < mtdOfs then start + mtdOfs else start) len with
    | error ret => rfl
    | ok buf =>
      simp only [Except.map]
      split
      · rw [swapWords_map]
      · rfl

def mapAnswer (g : α → β) : Except Int (Backend × List α) → Except Int (Backend × List β) :=
  Except.map fun done => (done.1, done.2.map g)

theorem served_map (backend : Backend) (g : α → β) (answer : Except Int (List α)) :
    served backend (answer.map (List.map g)) = mapAnswer g (served backend answer) := by
  cases answer <;> rfl

theorem mtOfReadEeprom_map (g : α → β) (zero : α) (content : Content α) (start : Int) (len : Nat) :
    mtOfReadEeprom dev dt (g zero) (mapContent g content) start len =
      mapAnswer g (mtOfReadEeprom dev dt zero content start len) := by
  unfold mtOfReadEeprom
  split
  · rfl
  · rename_i np _
    unfold readNodeEeprom
    split
    · simp only [copyEeprom_map, served_map]
    · split
      · rfl
      · rw [readMtdEeprom_map, served_map]
    · rw [readNvmemEeprom_map, served_map]
    · rfl

theorem mtEepromRead_map (g : α → β) (zero : α) (content : Content α) (start : Int) (len : Nat) :
    mtEepromRead dev dt (g zero) (mapContent g content) start len =
      mapAnswer g (mtEepromRead dev dt zero content start len) := by
  unfold mtEepromRead
  rw [mtOfReadEeprom_map, mtMtdReadNm_map, mtMtdReadNm_map, served_map, served_map]
  cases mtOfReadEeprom dev dt zero content start len with
  | ok done => rfl
  | error ret =>
    cases served (.raw Factory) (mtMtdReadNm dev content Factory start len) <;> rfl

abbrev Address := Store × Nat

def originContent : Content (Origin Address) := fun store a => .stored (store, a)

/-- The read of the origins: which address each byte comes from. -/
def readOrigins (dev : Device) (dt : DeviceTree) (start : Int) (len : Nat) :
    Except Int (Backend × List (Origin Address)) :=
  mtEepromRead dev dt .fill originContent start len

def evalAt (zero : α) (content : Content α) : Origin Address → α :=
  Origin.eval zero fun a => content a.1 a.2

theorem mtEepromRead_eq (zero : α) (content : Content α) (start : Int) (len : Nat) :
    mtEepromRead dev dt zero content start len =
      mapAnswer (evalAt zero content) (readOrigins dev dt start len) :=
  mtEepromRead_map dev dt (evalAt zero content) .fill originContent start len

end OpenwrtSource.Eeprom.Origins

/-!
# The origins that each back end gives

For every back end, the origin of each byte of a read in closed form: which
address the request is normalised to, which bytes are filled with zero, and
where a big-endian word puts its halves.
-/

namespace OpenwrtSource.Eeprom.BackendOrigins

open Lib.Provenance
open Eeprom.WifiUtility Eeprom.Origins

variable {α : Type}

/-- Where the swap of words takes the byte at `i` of `len` from. -/
def swapIdx (len i : Nat) : Nat :=
  if i % 2 = 1 then i - 1 else if i + 1 < len then i + 1 else i

/-- Where `__mt_of_read_mtd_eeprom` starts to read. -/
def mtdStart (mtdOfs start : Nat) : Nat := if start < mtdOfs then start + mtdOfs else start

/-- Where a cell begins in the address space of the requests, if it can be read. -/
def cellLow (dev : Device) (cell : Cell) (dfltBase : Int) : Option Nat :=
  if dev.nvmemCellRead cell ≠ 0 then none
  else
    let base := match cell.regBase with
      | .ok base => some base.toNat
      | .error _ => if dfltBase < 0 then none else some dfltBase.toNat
    base.filter fun low => low + cell.size < 2 ^ 64

def cellOrigin (dev : Device) (cell : Cell) (dfltBase : Int) (address : Nat)
    (otherwise : Origin Address) : Origin Address :=
  match cellLow dev cell dfltBase with
  | none => otherwise
  | some low =>
    if low ≤ address ∧ address < low + cell.size then
      .stored (cell.provider, cell.offset + (address - low))
    else otherwise

def nvmemOrigin (dev : Device) (eeprom : Cell) (precal : Option Cell) (address : Nat) :
    Origin Address :=
  let byte := cellOrigin dev eeprom 0 address .fill
  match precal with
  | none => byte
  | some cell => cellOrigin dev cell (-1) address byte

/-- The origin of byte `i` of a read of `len` bytes. -/
def backendOrigin (dev : Device) (backend : Backend) (start len i : Nat) : Origin Address :=
  match backend with
  | .eepromData size base =>
    let address := (normalizeOffset start base).toNat + i
    if address < size then .stored (.eepromData, address) else .fill
  | .mtdEeprom part mtdOfs bigEndian =>
    .stored (.mtd part, mtdStart mtdOfs start + if bigEndian then swapIdx len i else i)
  | .nvmem eeprom precal => nvmemOrigin dev eeprom precal (start + i)
  | .raw name => .stored (.mtd name, start + i)

theorem bytes_originContent (store : Store) (start len : Nat) :
    bytes originContent store start len =
      (List.range len).map fun i => .stored (store, start + i) := rfl

theorem getElem?_swapWords : ∀ (buf : List α) (i : Nat), i < buf.length →
    (swapWords buf)[i]? = buf[swapIdx buf.length i]?
  | [], i, inside => by simp at inside
  | [_], i, inside => by
    have first : i = 0 := by simpa using inside
    subst first
    rfl
  | high :: low :: rest, i, inside => by
    rcases i with _ | _ | i
    · simp [swapWords, swapIdx]
    · simp [swapWords, swapIdx]
    · have within : i < rest.length := by simpa using inside
      have ih := getElem?_swapWords rest i within
      have shifted : swapIdx (rest.length + 2) (i + 2) = swapIdx rest.length i + 2 := by
        unfold swapIdx
        split_ifs <;> omega
      simp only [swapWords, List.length_cons, List.getElem?_cons_succ, Nat.add_assoc, ih,
        Nat.reduceAdd, shifted]

variable {len : Nat} {dev : Device} {start : Nat} {base : Int} {buf : List (Origin Address)}
  {backend : Backend} {dt : DeviceTree}

theorem swapIdx_lt {i : Nat} (inside : i < len) : swapIdx len i < len := by
  unfold swapIdx
  split_ifs <;> omega

theorem swapWords_bytes (store : Store) (start len : Nat) :
    swapWords (bytes originContent store start len) =
      (List.range len).map fun i => .stored (store, start + swapIdx len i) := by
  apply List.ext_getElem?
  intro i
  by_cases inside : i < len
  · rw [getElem?_swapWords _ _ (by simpa using inside), length_bytes, bytes_originContent]
    simp [inside, swapIdx_lt inside]
  · have outLeft : (swapWords (bytes originContent store start len)).length ≤ i := by
      simpa using inside
    rw [List.getElem?_eq_none outLeft, List.getElem?_eq_none (by simpa using inside)]

theorem mtMtdReadNm_ok {content : Content α} {name : Name} {start : Int} {buf : List α}
    (read : mtMtdReadNm dev content name start len = .ok buf) :
    buf = bytes content (.mtd name) start.toNat len := by
  unfold mtMtdReadNm at read
  split at read
  · cases read
  · cases found : dev.partitions name with
    | none => simp [found] at read
    | some p =>
      simp only [found] at read
      split at read
      · cases read
      · split at read
        · cases read
        · exact (Except.ok.inj read).symm

theorem normalizeOffset_nonneg (start : Nat) (base : Int) : 0 ≤ normalizeOffset start base := by
  unfold normalizeOffset
  split_ifs <;> omega

theorem copyEeprom_ok {size : Nat}
    (read : copyEeprom .fill originContent size start base len = .ok buf) :
    buf = (List.range len).map (backendOrigin dev (.eepromData size base) start len) := by
  have atLeast := normalizeOffset_nonneg start base
  unfold copyEeprom at read
  rw [if_neg (by omega)] at read
  by_cases empty : len = 0
  · rw [if_pos empty] at read
    cases read
    rw [empty]
    rfl
  · rw [if_neg empty] at read
    change buf = (List.range len).map fun i =>
      if (normalizeOffset start base).toNat + i < size then
        .stored (.eepromData, (normalizeOffset start base).toNat + i)
      else .fill
    generalize normalizeOffset start base = address at *
    apply List.ext_getElem?
    intro i
    simp only at read
    split at read
    · rename_i beyond
      cases read
      by_cases inside : i < len
      · have out : ¬ address.toNat + i < size := by omega
        simp [inside, out]
      · simp [inside]
    · rename_i within
      cases read
      by_cases copied : i < min len (size - address.toNat)
      · have inside : i < len := by omega
        have held : address.toNat + i < size := by omega
        rw [List.getElem?_append_left (by simpa using copied), bytes_originContent]
        simp [copied, inside, held]
      · rw [List.getElem?_append_right (by rw [length_bytes]; omega), length_bytes]
        by_cases inside : i < len
        · have out : ¬ address.toNat + i < size := by omega
          have filled : i - min len (size - address.toNat) <
              len - min len (size - address.toNat) := by omega
          simp [inside, out, filled]
        · have filled : ¬ i - min len (size - address.toNat) <
              len - min len (size - address.toNat) := by omega
          simp [inside, filled]

theorem readMtdEeprom_ok {np : Node} {part : Name} {mtdOfs : Nat}
    (read : readMtdEeprom dev originContent np part mtdOfs start len = .ok buf) :
    buf = (List.range len).map
      (backendOrigin dev (.mtdEeprom part mtdOfs np.bigEndian) start len) := by
  unfold readMtdEeprom at read
  rw [if_neg (by omega)] at read
  have address : (if (start : Int) < mtdOfs then (start : Int) + mtdOfs else start).toNat =
      mtdStart mtdOfs start := by
    unfold mtdStart
    split_ifs <;> omega
  simp only at read
  split at read
  · cases read
  · rename_i raw ok
    have held := mtMtdReadNm_ok ok
    rw [address] at held
    rw [← Except.ok.inj read, held]
    cases np.bigEndian with
    | true => exact swapWords_bytes _ _ _
    | false => rfl

theorem copyCell_spec (cell : Cell) (base : Int) (fits : start + buf.length < 2 ^ 64) :
    (∀ after, copyCell originContent cell start base buf = .ok after →
      after = buf.mapIdx fun i b =>
        if base.toNat ≤ start + i ∧ start + i < base.toNat + cell.size then
          .stored (cell.provider, cell.offset + (start + i - base.toNat))
        else b) ∧
    (∀ ret, copyCell originContent cell start base buf = .error ret →
      2 ^ 64 ≤ base.toNat + cell.size) := by
  unfold copyCell
  rw [if_neg (by omega), Int.toNat_natCast]
  split
  · rename_i nothing
    refine ⟨?_, by simp⟩
    rintro after read
    cases read
    apply List.ext_getElem (by simp)
    intro i inside _
    have out : ¬ (base.toNat ≤ start + i ∧ start + i < base.toNat + cell.size) := by omega
    rw [List.getElem_mapIdx, if_neg out]
  · simp only
    split
    · rename_i overflow
      refine ⟨by simp, ?_⟩
      intro ret _
      omega
    · refine ⟨?_, ?_⟩
      · intro after read
        split at read
        · rename_i apart
          cases read
          apply List.ext_getElem (by simp)
          intro i inside _
          have out : ¬ (base.toNat ≤ start + i ∧ start + i < base.toNat + cell.size) := by omega
          rw [List.getElem_mapIdx, if_neg out]
        · cases read
          apply List.ext_getElem (by simp)
          intro i inside _
          simp only [List.length_mapIdx] at inside
          have same : (max start base.toNat ≤ start + i ∧
              start + i < min (start + buf.length) (base.toNat + cell.size)) ↔
              (base.toNat ≤ start + i ∧ start + i < base.toNat + cell.size) := by omega
          simp only [List.getElem_mapIdx, same, originContent]
      · intro ret read
        split at read <;> cases read

theorem copyCell_small {cell : Cell} {after : List (Origin Address)}
    (read : copyCell originContent cell start base buf = .ok after) :
    buf.length = 0 ∨ cell.size = 0 ∨ base.toNat + cell.size < 2 ^ 64 := by
  unfold copyCell at read
  rw [if_neg (by omega)] at read
  split at read
  · omega
  · simp only at read
    split at read
    · cases read
    · omega

theorem copyCell_cellOrigin {cell : Cell} {dfltBase : Int} (fits : start + buf.length < 2 ^ 64)
    (low : cellLow dev cell dfltBase =
      (some base.toNat).filter fun low => low + cell.size < 2 ^ 64) :
    (∀ after, copyCell originContent cell start base buf = .ok after →
      after = buf.mapIdx fun i b => cellOrigin dev cell dfltBase (start + i) b) ∧
    (∀ ret, copyCell originContent cell start base buf = .error ret →
      cellLow dev cell dfltBase = none) := by
  obtain ⟨copied, overflow⟩ := copyCell_spec cell base fits
  constructor
  · intro after read
    rw [copied after read]
    by_cases small : base.toNat + cell.size < 2 ^ 64
    · simp only [cellOrigin, low, Option.filter, small, decide_true, if_true]
    · apply List.ext_getElem (by simp)
      intro i inside _
      simp only [List.length_mapIdx] at inside
      have nothing : cell.size = 0 := by
        rcases copyCell_small read with h | h | h <;> omega
      have out : ¬ (base.toNat ≤ start + i ∧ start + i < base.toNat + cell.size) := by omega
      simp only [List.getElem_mapIdx, if_neg out, cellOrigin, low, Option.filter, small,
        decide_false, Bool.false_eq_true, if_false]
  · intro ret read
    have := overflow ret read
    rw [low]
    simp only [Option.filter, decide_eq_true_eq, ite_eq_right_iff]
    omega

theorem readNvmemCell_spec (dev : Device) (cell : Cell) (dfltBase : Int)
    (fits : start + buf.length < 2 ^ 64) :
    (∀ after, readNvmemCell dev originContent cell start dfltBase buf = .ok after →
      after = buf.mapIdx fun i b => cellOrigin dev cell dfltBase (start + i) b) ∧
    (∀ ret, readNvmemCell dev originContent cell start dfltBase buf = .error ret →
      cellLow dev cell dfltBase = none) := by
  unfold readNvmemCell
  by_cases fails : dev.nvmemCellRead cell ≠ 0
  · rw [if_pos fails]
    exact ⟨by simp, fun _ _ => by rw [cellLow, if_pos fails]⟩
  · rw [if_neg fails]
    cases based : cell.regBase with
    | ok base =>
      exact copyCell_cellOrigin fits (by rw [cellLow, if_neg fails, based])
    | error ret =>
      by_cases none_ : dfltBase < 0
      · simp only [if_pos none_]
        exact ⟨by simp, fun _ _ => by rw [cellLow, if_neg fails, based, if_pos none_]; rfl⟩
      · simp only [if_neg none_]
        exact copyCell_cellOrigin fits (by rw [cellLow, if_neg fails, based, if_neg none_])

theorem readNvmemEeprom_ok {eeprom : Cell} {precal : Option Cell} (fits : start + len < 2 ^ 64)
    (read : readNvmemEeprom dev .fill originContent eeprom precal start len = .ok buf) :
    buf = (List.range len).map (backendOrigin dev (.nvmem eeprom precal) start len) := by
  change buf = (List.range len).map fun i => nvmemOrigin dev eeprom precal (start + i)
  unfold readNvmemEeprom at read
  by_cases empty : len = 0
  · rw [if_pos empty] at read
    cases read
    rw [empty]
    rfl
  · rw [if_neg empty] at read
    have first := readNvmemCell_spec dev eeprom 0
      (show start + (List.replicate len Origin.fill).length < 2 ^ 64 by simpa using fits)
    split at read
    · cases read
    · rename_i eepromBuf ok
      have held := first.1 _ ok
      have length : eepromBuf.length = len := by rw [held]; simp
      cases precal with
      | none =>
        rw [← Except.ok.inj read, held]
        apply List.ext_getElem (by simp)
        intro i _ _
        simp [nvmemOrigin]
      | some cell =>
        have second := readNvmemCell_spec dev cell (-1)
          (show start + eepromBuf.length < 2 ^ 64 by rw [length]; exact fits)
        simp only at read
        split at read
        · rename_i ret error
          have unread := second.2 _ error
          rw [← Except.ok.inj read, held]
          apply List.ext_getElem (by simp)
          intro i _ _
          simp [nvmemOrigin, cellOrigin, unread]
        · rename_i both ok'
          rw [← Except.ok.inj read, second.1 _ ok', held]
          apply List.ext_getElem (by simp)
          intro i _ _
          simp [nvmemOrigin]

theorem served_ok {backend' : Backend} {answer : Except Int (List α)} {buf : List α}
    (ok : served backend' answer = .ok (backend, buf)) : backend' = backend ∧ answer = .ok buf := by
  cases answer with
  | error ret => cases ok
  | ok buf' =>
    cases ok
    exact ⟨rfl, rfl⟩

theorem readNodeEeprom_ok {np : Node} (fits : start + len < 2 ^ 64)
    (read : readNodeEeprom dev dt .fill originContent np start len = .ok (backend, buf)) :
    buf = (List.range len).map (backendOrigin dev backend start len) := by
  unfold readNodeEeprom at read
  split at read
  · obtain ⟨rfl, ok⟩ := served_ok read
    exact copyEeprom_ok ok
  · split at read
    · cases read
    · obtain ⟨rfl, ok⟩ := served_ok read
      exact readMtdEeprom_ok ok
  · obtain ⟨rfl, ok⟩ := served_ok read
    exact readNvmemEeprom_ok fits ok
  · cases read

theorem raw_ok {name : Name}
    (read : served (.raw name) (mtMtdReadNm dev originContent name start len) =
      .ok (backend, buf)) : buf = (List.range len).map (backendOrigin dev backend start len) := by
  obtain ⟨rfl, ok⟩ := served_ok read
  exact mtMtdReadNm_ok ok

theorem readOrigins_ok (fits : start + len < 2 ^ 64)
    (read : readOrigins dev dt start len = .ok (backend, buf)) :
    buf = (List.range len).map (backendOrigin dev backend start len) := by
  unfold readOrigins mtEepromRead at read
  split at read
  · rename_i done ok
    cases read
    unfold mtOfReadEeprom at ok
    split at ok
    · cases ok
    · exact readNodeEeprom_ok fits ok
  · split at read
    · rename_i done ok
      cases read
      exact raw_ok ok
    · exact raw_ok read

abbrev Byte := BitVec 8

theorem mtEepromRead_ok {probe : Content Byte} {data : List Byte} (fits : start + len < 2 ^ 64)
    (read : mtEepromRead dev dt 0 probe start len = .ok (backend, data)) (content : Content Byte) :
    mtEepromRead dev dt 0 content start len =
      .ok (backend, (List.range len).map fun i =>
        evalAt 0 content (backendOrigin dev backend start len i)) := by
  rw [mtEepromRead_eq] at read ⊢
  cases origins : readOrigins dev dt start len with
  | error ret =>
    rw [origins] at read
    cases read
  | ok done =>
    obtain ⟨backend', buf⟩ := done
    rw [origins] at read
    cases read
    rw [readOrigins_ok fits origins]
    simp [mapAnswer, Except.map]

end OpenwrtSource.Eeprom.BackendOrigins
