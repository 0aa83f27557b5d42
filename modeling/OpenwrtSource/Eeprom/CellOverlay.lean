import OpenwrtSource.Eeprom.Origins

/-!
# NVMEM cells over one another

`__mt_of_read_nvmem_eeprom` in the `u64` arithmetic of the source.  A `memcpy`
has a result only where it stays inside the buffer and inside the data of the
cell, so a run that has a result has accessed nothing else.
-/

namespace OpenwrtSource.Eeprom.CellOverlay

open Eeprom.WifiUtility

variable {α : Type}

abbrev U64 := BitVec 64

/-- The bytes that a `memcpy` moves, as indices into the buffer and into the data. -/
structure CopyRange where
  dst : Nat
  src : Nat
  count : Nat

def memcpy (buf data : List α) (range : CopyRange) : Option (List α) :=
  if range.dst + range.count ≤ buf.length ∧ range.src + range.count ≤ data.length then
    some (buf.take range.dst ++ (data.drop range.src).take range.count ++
      buf.drop (range.dst + range.count))
  else none

/-- What `nvmem_cell_read` returns, of a size that `size_t` can hold. -/
structure CellData (α : Type) where
  data : List α
  fits : data.length < 2 ^ 64

abbrev Errno := { ret : Int // ret < 0 }

/-- A cell of the node: what the calls for it return. -/
structure NvmemCell (α : Type) where
  /-- the error of `of_nvmem_cell_get`, if it has one -/
  ofNvmemCellGet : Option Errno
  nvmemCellRead : Except Errno (CellData α)
  cellBase : Except Errno U64

/-- A `loff_t` below zero. -/
def negative (offset : U64) : Prop := 2 ^ 63 ≤ offset.toNat

instance (offset : U64) : Decidable (negative offset) := inferInstanceAs (Decidable (_ ≤ _))

/-- The address from which a cell with this base is laid down. -/
def low (base : U64) : U64 := if negative base then 0 else base

/-- `__mt_of_copy_cell` up to its `memcpy`: an error, or what is copied. -/
def copyRange (size start base len : U64) : Except Int (Option CopyRange) :=
  if negative start then .error (-EINVAL)
  else if len = 0 ∨ size = 0 then .ok none
  else
    let cell := low base
    let reqEnd := start + len
    let cellEnd := cell + size
    if reqEnd < start ∨ cellEnd < cell then .error (-EINVAL)
    else if reqEnd ≤ cell ∨ cellEnd ≤ start then .ok none
    else
      let first := if cell < start then start else cell
      let stop := if reqEnd < cellEnd then reqEnd else cellEnd
      .ok (some ⟨(first - start).toNat, (first - cell).toNat, (stop - first).toNat⟩)

/-- The result and the buffer after the call, or `none` for an access outside of both. -/
def mtOfCopyCell (data : List α) (start base : U64) (buf : List α) : Option (Int × List α) :=
  match copyRange (BitVec.ofNat 64 data.length) start base (BitVec.ofNat 64 buf.length) with
  | .error ret => some (ret, buf)
  | .ok none => some (0, buf)
  | .ok (some range) => (memcpy buf data range).map fun buf => (0, buf)

def mtOfReadNvmemCell (cell : NvmemCell α) (start : U64) (dfltBase : U64) (buf : List α) :
    Option (Int × List α) :=
  match cell.ofNvmemCellGet with
  | some ret => some (ret, buf)
  | none =>
    match cell.nvmemCellRead with
    | .error ret => some (ret, buf)
    | .ok cellData =>
      match cell.cellBase with
      | .ok base => mtOfCopyCell cellData.data start base buf
      | .error ret =>
        if negative dfltBase then some (ret, buf)
        else mtOfCopyCell cellData.data start dfltBase buf

/-- `precal` is the cell of that name, where the node names one. -/
def mtOfReadNvmemEeprom (zero : α) (eeprom : NvmemCell α) (precal : Option (NvmemCell α))
    (start len : U64) : Option (Int × List α) :=
  if len = 0 then some (0, [])
  else
    match mtOfReadNvmemCell eeprom start 0 (List.replicate len.toNat zero) with
    | none => none
    | some (ret, buf) =>
      if ret ≠ 0 then some (ret, buf)
      else
        match precal with
        | none => some (0, buf)
        | some cell =>
          match mtOfReadNvmemCell cell start (-1) buf with
          | none => none
          -- a failure is only logged
          | some (_, buf) => some (0, buf)

/-- The byte that data laid down from `base` on has at an address. -/
def byteAt (data : List α) (base address : Nat) : Option α :=
  if base ≤ address then data[address - base]? else none

/-- The request and the cell both end where 64 bits can say it. -/
def Fits (size start base len : U64) : Prop :=
  start.toNat + len.toNat < 2 ^ 64 ∧ (low base).toNat + size.toNat < 2 ^ 64

instance (size start base len : U64) : Decidable (Fits size start base len) :=
  inferInstanceAs (Decidable (_ ∧ _))

theorem copyRange_spec (size start base len : U64) (given : len ≠ 0) :
    match copyRange size start base len with
    | .error ret => ret ≠ 0 ∧ (negative start ∨ (size ≠ 0 ∧ ¬ Fits size start base len))
    | .ok none =>
      ¬ negative start ∧ (size = 0 ∨ Fits size start base len) ∧
        (size.toNat = 0 ∨ start.toNat + len.toNat ≤ (low base).toNat ∨
          (low base).toNat + size.toNat ≤ start.toNat)
    | .ok (some range) =>
      ¬ negative start ∧ Fits size start base len ∧
        max start.toNat (low base).toNat <
          min (start.toNat + len.toNat) ((low base).toNat + size.toNat) ∧
        range = ⟨max start.toNat (low base).toNat - start.toNat,
          max start.toNat (low base).toNat - (low base).toNat,
          min (start.toNat + len.toNat) ((low base).toNat + size.toNat) -
            max start.toNat (low base).toNat⟩ := by
  have startFits := start.isLt
  have lenFits := len.isLt
  have lowFits := (low base).isLt
  have sizeFits := size.isLt
  unfold copyRange
  by_cases below : negative start
  · rw [if_pos below]
    exact ⟨by decide, Or.inl below⟩
  rw [if_neg below]
  by_cases empty : size = 0
  · rw [if_pos (Or.inr empty)]
    refine ⟨below, Or.inl empty, Or.inl ?_⟩
    rw [empty]
    rfl
  rw [if_neg (not_or.mpr ⟨given, empty⟩)]
  -- the sums wrap exactly if they come out below an operand
  have reqWraps : start + len < start ↔ ¬ start.toNat + len.toNat < 2 ^ 64 := by
    rw [BitVec.lt_def, BitVec.toNat_add]
    omega
  have cellWraps : low base + size < low base ↔ ¬ (low base).toNat + size.toNat < 2 ^ 64 := by
    rw [BitVec.lt_def, BitVec.toNat_add]
    omega
  simp only [reqWraps, cellWraps]
  by_cases fits : Fits size start base len
  · have reqEnd : (start + len).toNat = start.toNat + len.toNat := by
      rw [BitVec.toNat_add, Nat.mod_eq_of_lt fits.1]
    have cellEnd : (low base + size).toNat = (low base).toNat + size.toNat := by
      rw [BitVec.toNat_add, Nat.mod_eq_of_lt fits.2]
    rw [if_neg (not_or.mpr ⟨not_not.mpr fits.1, not_not.mpr fits.2⟩)]
    generalize isFirst : (if low base < start then start else low base) = first
    generalize isStop : (if start + len < low base + size then start + len
      else low base + size) = stop
    have firstNat : first.toNat = max start.toNat (low base).toNat := by
      rw [← isFirst]
      split_ifs with ahead <;> rw [BitVec.lt_def] at ahead <;> omega
    have stopNat : stop.toNat =
        min (start.toNat + len.toNat) ((low base).toNat + size.toNat) := by
      rw [← isStop]
      split_ifs with ahead <;> rw [BitVec.lt_def] at ahead <;> omega
    simp only [BitVec.le_def, reqEnd, cellEnd]
    by_cases apart : start.toNat + len.toNat ≤ (low base).toNat ∨
        (low base).toNat + size.toNat ≤ start.toNat
    · rw [if_pos apart]
      exact ⟨below, Or.inr fits, Or.inr apart⟩
    · have lenPos : 0 < len.toNat := Nat.pos_of_ne_zero fun zero => given (BitVec.eq_of_toNat_eq zero)
      have sizePos : 0 < size.toNat :=
        Nat.pos_of_ne_zero fun zero => empty (BitVec.eq_of_toNat_eq zero)
      rw [if_neg apart]
      refine ⟨below, fits, by omega, ?_⟩
      rw [BitVec.toNat_sub_of_le, BitVec.toNat_sub_of_le, BitVec.toNat_sub_of_le, firstNat, stopNat]
      all_goals
        rw [BitVec.le_def]
        omega
  · rw [if_pos]
    · exact ⟨by decide, Or.inr ⟨empty, fits⟩⟩
    · unfold Fits at fits
      omega

variable {buf after : List α} {byte : Nat → Option α} {fails : Prop}

theorem getElem?_memcpy {data : List α} {range : CopyRange}
    (copied : memcpy buf data range = some after) (i : Nat) :
    after[i]? = if range.dst ≤ i ∧ i < range.dst + range.count
      then data[range.src + (i - range.dst)]? else buf[i]? := by
  unfold memcpy at copied
  split at copied
  · rename_i inside
    obtain rfl := Option.some.inj copied
    have head : (buf.take range.dst).length = range.dst := by
      rw [List.length_take]
      omega
    have middle : ((data.drop range.src).take range.count).length = range.count := by
      rw [List.length_take, List.length_drop]
      omega
    rw [List.getElem?_append, List.getElem?_append, List.length_append, head, middle]
    by_cases before : i < range.dst
    · rw [if_pos (by omega), if_pos before, if_neg (by omega), List.getElem?_take, if_pos before]
    · by_cases within : i < range.dst + range.count
      · rw [if_pos within, if_neg before, if_pos (by omega), List.getElem?_take,
          if_pos (by omega), List.getElem?_drop]
      · rw [if_neg within, if_neg (by omega), List.getElem?_drop]
        congr 1
        omega
  · cases copied

theorem length_memcpy {data : List α} {range : CopyRange}
    (copied : memcpy buf data range = some after) : after.length = buf.length := by
  unfold memcpy at copied
  split at copied
  · rename_i inside
    obtain rfl := Option.some.inj copied
    simp only [List.length_append, List.length_take, List.length_drop]
    omega
  · cases copied

/-- What a call leaves: a result that depends on the sizes only, a buffer of the length it had,
and, after a success, the bytes that `byte` has in place of those of before. -/
structure Overlaid (byte : Nat → Option α) (start : U64) (fails : Prop) (buf : List α)
    (ret : Int) (after : List α) : Prop where
  result : ret ≠ 0 ↔ fails
  length : after.length = buf.length
  kept : ret ≠ 0 → after = buf
  laid : ret = 0 → ∀ i b, buf[i]? = some b →
    after[i]? = some ((byte (start.toNat + i)).getD b)

theorem Overlaid.failed {start : U64} {ret : Int} (error : ret ≠ 0) (because : fails) :
    Overlaid byte start fails buf ret buf where
  result := iff_of_true error because
  length := rfl
  kept _ := rfl
  laid success := absurd success error

theorem Overlaid.apart {start : U64} (fine : ¬ fails)
    (silent : ∀ i, i < buf.length → byte (start.toNat + i) = none) :
    Overlaid byte start fails buf 0 buf where
  result := iff_of_false (fun error => error rfl) fine
  length := rfl
  kept _ := rfl
  laid := by
    intro _ i b there
    rw [silent i (List.getElem?_eq_some_iff.mp there).1, Option.getD_none]
    exact there

theorem toNat_length (list : List α) (fits : list.length < 2 ^ 64) :
    (BitVec.ofNat 64 list.length).toNat = list.length := by
  rw [BitVec.toNat_ofNat, Nat.mod_eq_of_lt fits]

theorem mtOfCopyCell_overlaid (cellData : CellData α) (start base : U64)
    (fits : buf.length < 2 ^ 64) (given : buf ≠ []) :
    ∃ ret after, mtOfCopyCell cellData.data start base buf = some (ret, after) ∧
      Overlaid (byteAt cellData.data (low base).toNat) start
        (negative start ∨ (cellData.data ≠ [] ∧ ¬ Fits (BitVec.ofNat 64 cellData.data.length)
          start base (BitVec.ofNat 64 buf.length))) buf ret after := by
  have sizeNat := toNat_length cellData.data cellData.fits
  have lenNat := toNat_length buf fits
  have lenGiven : BitVec.ofNat 64 buf.length ≠ 0 := by
    intro zero
    rw [zero] at lenNat
    exact given (List.length_eq_zero_iff.mp lenNat.symm)
  have noData : BitVec.ofNat 64 cellData.data.length = 0 ↔ cellData.data = [] := by
    rw [← List.length_eq_zero_iff, ← sizeNat, ← BitVec.toNat_inj]
    simp
  have spec := copyRange_spec (BitVec.ofNat 64 cellData.data.length) start base
    (BitVec.ofNat 64 buf.length) lenGiven
  unfold mtOfCopyCell
  cases planned : copyRange (BitVec.ofNat 64 cellData.data.length) start base
      (BitVec.ofNat 64 buf.length) with
  | error ret =>
    rw [planned] at spec
    refine ⟨ret, buf, rfl, Overlaid.failed spec.1 ?_⟩
    rw [ne_eq, ← noData]
    exact spec.2
  | ok range =>
    rw [planned] at spec
    cases range with
    | none =>
      obtain ⟨nonneg, fitting, nothing⟩ := spec
      refine ⟨0, buf, rfl, Overlaid.apart ?_ ?_⟩
      · rw [ne_eq, ← noData]
        rintro (below | ⟨some_data, wraps⟩)
        · exact nonneg below
        · exact wraps (fitting.resolve_left some_data)
      · intro i inside
        unfold byteAt
        split
        · exact List.getElem?_eq_none (by omega)
        · rfl
    | some range =>
      obtain ⟨nonneg, fitting, some_bytes, rfl⟩ := spec
      rw [sizeNat, lenNat] at some_bytes ⊢
      have inBounds : ∃ after, memcpy buf cellData.data
          ⟨max start.toNat (low base).toNat - start.toNat,
            max start.toNat (low base).toNat - (low base).toNat,
            min (start.toNat + buf.length) ((low base).toNat + cellData.data.length) -
              max start.toNat (low base).toNat⟩ = some after := by
        unfold memcpy
        rw [if_pos (by simp only; omega)]
        exact ⟨_, rfl⟩
      obtain ⟨after, copied⟩ := inBounds
      have bytes := getElem?_memcpy copied
      simp only at bytes
      refine ⟨0, after, by simp only [copied, Option.map_some], ?_, ?_, ?_, ?_⟩
      · apply iff_of_false (fun error => error rfl)
        rintro (below | ⟨-, wraps⟩)
        · exact nonneg below
        · exact wraps fitting
      · exact length_memcpy copied
      · intro error
        exact absurd rfl error
      · intro _ i b there
        have inside := (List.getElem?_eq_some_iff.mp there).1
        rw [bytes]
        unfold byteAt
        by_cases from_low : (low base).toNat ≤ start.toNat + i
        · by_cases below_end : start.toNat + i < (low base).toNat + cellData.data.length
          · have index : max start.toNat (low base).toNat - (low base).toNat +
                (i - (max start.toNat (low base).toNat - start.toNat)) =
                start.toNat + i - (low base).toNat := by omega
            have covered : start.toNat + i - (low base).toNat < cellData.data.length := by
              omega
            rw [if_pos (by omega), if_pos from_low, index,
              List.getElem?_eq_getElem covered, Option.getD_some]
          · have past : cellData.data[start.toNat + i - (low base).toNat]? = none :=
              List.getElem?_eq_none (by omega)
            rw [if_neg (by omega), if_pos from_low, past, Option.getD_none]
            exact there
        · rw [if_neg (by omega), if_neg from_low, Option.getD_none]
          exact there

theorem toInt_neg_iff (offset : U64) : offset.toInt < 0 ↔ negative offset := by
  have fits := offset.isLt
  unfold negative
  rw [BitVec.toInt_eq_toNat_cond]
  split <;> omega

theorem toNat_toInt {offset : U64} (nonneg : ¬ negative offset) :
    offset.toInt.toNat = offset.toNat := by
  unfold negative at nonneg
  rw [BitVec.toInt_eq_toNat_cond, if_pos (by omega), Int.toNat_natCast]

theorem toNat_low (base : U64) : (low base).toNat = base.toInt.toNat := by
  unfold low
  split
  · rename_i below
    have neg := (toInt_neg_iff base).mpr below
    rw [Int.toNat_of_nonpos (by omega)]
    rfl
  · rename_i nonneg
    exact (toNat_toInt nonneg).symm

theorem byteAt_bytes (content : Content α) (cell : Cell) (base address : Nat) :
    byteAt (bytes content cell.provider cell.offset cell.size) base address =
      if base ≤ address ∧ address < base + cell.size then
        some (content cell.provider (cell.offset + (address - base))) else none := by
  unfold byteAt bytes
  by_cases from_base : base ≤ address
  · rw [if_pos from_base, List.getElem?_map]
    by_cases inside : address < base + cell.size
    · rw [if_pos ⟨from_base, inside⟩, List.getElem?_range (by omega), Option.map_some]
    · rw [if_neg (by omega), List.getElem?_eq_none, Option.map_none]
      rw [List.length_range]
      omega
  · rw [if_neg from_base, if_neg (fun within => from_base within.1)]

theorem Overlaid.eq_mapIdx {start : U64} {ret : Int}
    (overlaid : Overlaid byte start fails buf ret after) (success : ret = 0) :
    after = buf.mapIdx fun i b => (byte (start.toNat + i)).getD b := by
  apply List.ext_getElem?
  intro i
  rw [List.getElem?_mapIdx]
  cases there : buf[i]? with
  | none =>
    rw [Option.map_none, List.getElem?_eq_none_iff, overlaid.length]
    exact List.getElem?_eq_none_iff.mp there
  | some b =>
    rw [Option.map_some]
    exact overlaid.laid success i b there

/-- The base of a cell: its own, or the default where that is one. -/
def baseOr (cell : NvmemCell α) (dfltBase : U64) : Option U64 :=
  match cell.cellBase with
  | .ok base => some base
  | .error _ => if negative dfltBase then none else some dfltBase

/-- `__mt_of_read_nvmem_cell` succeeds for a request of `len` bytes. -/
def served (cell : NvmemCell α) (dfltBase start len : U64) : Bool :=
  match cell.ofNvmemCellGet, cell.nvmemCellRead, baseOr cell dfltBase with
  | none, .ok cellData, some base =>
    decide (¬ (negative start ∨ (cellData.data ≠ [] ∧
      ¬ Fits (BitVec.ofNat 64 cellData.data.length) start base len)))
  | _, _, _ => false

/-- The byte that a cell has for an address, where the cell covers it. -/
def cellByte (cell : NvmemCell α) (dfltBase : U64) (address : Nat) : Option α :=
  match cell.nvmemCellRead, baseOr cell dfltBase with
  | .ok cellData, some base => byteAt cellData.data (low base).toNat address
  | _, _ => none

/-- Byte `i` of the buffer: the cell `precal` lies over the cell `eeprom`, and that over zeros. -/
def overlayByte (zero : α) (eeprom : NvmemCell α) (precal : Option (NvmemCell α))
    (start len : U64) (i : Nat) : α :=
  let below := (cellByte eeprom 0 (start.toNat + i)).getD zero
  match precal with
  | none => below
  | some cell =>
    if served cell (-1) start len then (cellByte cell (-1) (start.toNat + i)).getD below
    else below

theorem mtOfReadNvmemCell_overlaid (cell : NvmemCell α) (start dfltBase : U64) (buf : List α)
    (fits : buf.length < 2 ^ 64) (given : buf ≠ []) :
    ∃ ret after, mtOfReadNvmemCell cell start dfltBase buf = some (ret, after) ∧
      Overlaid (cellByte cell dfltBase) start
        (served cell dfltBase start (BitVec.ofNat 64 buf.length) = false) buf ret after := by
  have fails : ∀ error : Errno, error.val ≠ 0 := fun error => Int.ne_of_lt error.property
  unfold mtOfReadNvmemCell served cellByte baseOr
  cases cell.ofNvmemCellGet with
  | some error => exact ⟨error.val, buf, rfl, Overlaid.failed (fails error) rfl⟩
  | none =>
    cases cell.nvmemCellRead with
    | error error => exact ⟨error.val, buf, rfl, Overlaid.failed (fails error) rfl⟩
    | ok cellData =>
      cases cell.cellBase with
      | ok base =>
        simp only [decide_eq_false_iff_not, not_not]
        exact mtOfCopyCell_overlaid cellData start base fits given
      | error error =>
        by_cases none_given : negative dfltBase
        · simp only [if_pos none_given]
          exact ⟨error.val, buf, rfl, Overlaid.failed (fails error) trivial⟩
        · simp only [if_neg none_given, decide_eq_false_iff_not, not_not]
          exact mtOfCopyCell_overlaid cellData start dfltBase fits given

/-- The read never touches a byte outside the buffer and the cells, and where it returns 0 every
byte of the buffer comes from the uppermost cell that covers its address. -/
theorem nvmem_eeprom_overlay (zero : α) (eeprom : NvmemCell α) (precal : Option (NvmemCell α))
    (start len : U64) :
    ∃ ret buf, mtOfReadNvmemEeprom zero eeprom precal start len = some (ret, buf) ∧
      (ret = 0 → buf.length = len.toNat ∧
        ∀ i, i < len.toNat → buf[i]? = some (overlayByte zero eeprom precal start len i)) := by
  unfold mtOfReadNvmemEeprom
  by_cases nothing : len = 0
  · rw [if_pos nothing, nothing]
    exact ⟨0, [], rfl, fun _ => ⟨rfl, fun i inside => absurd inside (Nat.not_lt_zero i)⟩⟩
  rw [if_neg nothing]
  have lenPos : 0 < len.toNat :=
    Nat.pos_of_ne_zero fun noLength => nothing (BitVec.eq_of_toNat_eq noLength)
  have length := List.length_replicate (n := len.toNat) (a := zero)
  obtain ⟨ret, buf, ran, first⟩ := mtOfReadNvmemCell_overlaid eeprom start 0
    (List.replicate len.toNat zero) (by rw [length]; exact len.isLt)
    (by rw [ne_eq, List.replicate_eq_nil_iff]; omega)
  have bufLength : buf.length = len.toNat := first.length.trans length
  rw [ran]
  by_cases error : ret ≠ 0
  · simp only [if_pos error]
    exact ⟨ret, buf, rfl, fun fine => absurd fine error⟩
  · simp only [if_neg error]
    -- the eeprom cell over the zeros
    have below : ∀ i, i < len.toNat →
        buf[i]? = some ((cellByte eeprom 0 (start.toNat + i)).getD zero) := by
      intro i inside
      apply first.laid (not_not.mp error) i zero
      rw [List.getElem?_replicate, if_pos inside]
    cases precal with
    | none => exact ⟨0, buf, rfl, fun _ => ⟨bufLength, below⟩⟩
    | some cell =>
      obtain ⟨ret', buf', ran', second⟩ := mtOfReadNvmemCell_overlaid cell start (-1)
        buf (by rw [bufLength]; exact len.isLt)
        (by rw [← List.length_pos_iff, bufLength]; exact lenPos)
      have sameLen : BitVec.ofNat 64 buf.length = len := by
        apply BitVec.eq_of_toNat_eq
        rw [bufLength, BitVec.toNat_ofNat, Nat.mod_eq_of_lt len.isLt]
      rw [sameLen] at second
      simp only [ran']
      refine ⟨0, buf', rfl, fun _ => ⟨second.length.trans bufLength, ?_⟩⟩
      intro i inside
      simp only [overlayByte]
      cases read : served cell (-1) start len with
      | true =>
        have success : ret' = 0 := by
          by_contra fails
          have unread := second.result.mp fails
          rw [read] at unread
          cases unread
        rw [if_pos rfl]
        exact second.laid success i _ (below i inside)
      | false =>
        rw [if_neg Bool.false_ne_true, second.kept (second.result.mpr read)]
        exact below i inside

end OpenwrtSource.Eeprom.CellOverlay
