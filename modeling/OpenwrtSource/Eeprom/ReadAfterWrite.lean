import OpenwrtSource.Eeprom.Composition

/-!
# Reads after writes

The writer puts the bytes at the offset of `Factory` or `factory`, whatever the
device tree says.  A later read gives them back when its back end looks there.
-/

namespace OpenwrtSource.Eeprom.ReadAfterWrite

open Lib.Provenance
open Eeprom.WifiUtility Eeprom.Origins
open Eeprom.BackendOrigins Eeprom.Composition

variable {α : Type}

/-- How a write of `len` bytes ends: the bytes themselves do not matter. -/
def writeRet (dev : Device) (name : Name) (dest : Int) (len : Nat) : Int :=
  (mtMtdWriteNm dev (fun _ => ()) (fun _ _ => ()) name dest (List.replicate len ())).1

def writtenTo (dev : Device) (dest : Int) (len : Nat) : Name :=
  if writeRet dev Factory dest len = 0 then Factory else factory

theorem mtMtdWriteNm_ret (dev : Device) (junk : Nat → α) (content : Content α) (name : Name)
    (dest : Int) (buf : List α) :
    (mtMtdWriteNm dev junk content name dest buf).1 = writeRet dev name dest buf.length := by
  unfold writeRet mtMtdWriteNm
  cases dev.partitions name with
  | none => simp only [apply_ite Prod.fst]
  | some p => simp only [apply_ite Prod.fst, List.length_replicate]

/-- What a partition holds after `buf` was written at `dest`. -/
def written (content : Content α) (name : Name) (dest : Nat) (buf : List α) : Content α :=
  Function.update content (.mtd name) fun a =>
    if dest ≤ a then (buf[a - dest]?).getD (content (.mtd name) a) else content (.mtd name) a

variable {buf : List α} {dest : Nat} {content : Content α} {dev : Device} {junk : Name → Nat → α}
  {later : Device} {dt : DeviceTree} {backend : Backend} {data : List Byte}

theorem getElem?_overwrite {bak : List α} (fits : dest + buf.length ≤ bak.length) (a : Nat) :
    (overwrite bak dest buf)[a]? =
      if dest ≤ a ∧ a < dest + buf.length then buf[a - dest]? else bak[a]? := by
  unfold overwrite
  have taken : (bak.take dest).length = dest := by
    rw [List.length_take]
    omega
  rcases Nat.lt_or_ge a dest with before | behind
  · rw [List.append_assoc, List.getElem?_append_left (by omega), if_neg (by omega),
      List.getElem?_take_of_lt before]
  · rcases Nat.lt_or_ge a (dest + buf.length) with inside | after
    · rw [List.append_assoc, List.getElem?_append_right (by omega), taken,
        List.getElem?_append_left (by omega), if_pos ⟨behind, inside⟩]
    · rw [List.getElem?_append_right (by rw [List.length_append]; omega), List.length_append,
        taken, if_neg (by omega), List.getElem?_drop]
      congr 1
      omega

theorem rewritten_eq {name : Name} {erasesize : Nat} (fits : dest + buf.length ≤ erasesize)
    (a : Nat) :
    ((overwrite (bytes content (.mtd name) 0 erasesize) dest buf)[a]?).getD
        (content (.mtd name) a) =
      if dest ≤ a then (buf[a - dest]?).getD (content (.mtd name) a)
      else content (.mtd name) a := by
  have block : ((bytes content (.mtd name) 0 erasesize)[a]?).getD (content (.mtd name) a) =
      content (.mtd name) a := by
    unfold bytes
    by_cases inside : a < erasesize <;> simp [inside]
  rw [getElem?_overwrite (by simpa using fits)]
  by_cases inside : dest ≤ a ∧ a < dest + buf.length
  · rw [if_pos inside, if_pos inside.1]
  · rw [if_neg inside, block]
    by_cases behind : dest ≤ a
    · rw [if_pos behind, List.getElem?_eq_none (by omega)]
      rfl
    · rw [if_neg behind]

/-- The three ends of a write: refused with the partition as it was, failed after
the erase, or done. -/
inductive Outcome (content : Content α) (junk : Nat → α) (name : Name) (dest : Nat)
    (buf : List α) : Int × Content α → Prop where
  | refused {ret : Int} (error : ret ≠ 0) : Outcome content junk name dest buf (ret, content)
  | spoiled {ret : Int} (error : ret ≠ 0) :
      Outcome content junk name dest buf (ret, Function.update content (.mtd name) junk)
  | done : Outcome content junk name dest buf (0, written content name dest buf)

theorem mtMtdWriteNm_outcome (dev : Device) (junk : Nat → α) (content : Content α) (name : Name)
    (dest : Nat) (buf : List α) :
    Outcome content junk name dest buf (mtMtdWriteNm dev junk content name dest buf) := by
  unfold mtMtdWriteNm
  rw [if_neg (by omega)]
  cases dev.partitions name with
  | none => exact .refused (by decide)
  | some p =>
    simp only
    split
    · exact .refused ‹_›
    split
    · exact .refused (by decide)
    rename_i fits
    split
    · exact .refused (by decide)
    split
    · exact .refused ‹_›
    split
    · exact .spoiled ‹_›
    split
    · exact .spoiled ‹_›
    split
    · exact .spoiled (by decide)
    · have rewritten : (fun a => ((overwrite (bytes content (.mtd name) 0 p.erasesize)
          (dest : Int).toNat buf)[a]?).getD (content (.mtd name) a)) = fun a =>
          if dest ≤ a then (buf[a - dest]?).getD (content (.mtd name) a)
          else content (.mtd name) a :=
        funext fun a => rewritten_eq (by omega) a
      rw [rewritten]
      exact .done

theorem mtEepromWrite_ok (ok : (mtEepromWrite dev junk content dest buf).1 = 0) :
    (mtEepromWrite dev junk content dest buf).2 =
        written content (writtenTo dev dest buf.length) dest buf ∨
      (mtEepromWrite dev junk content dest buf).2 =
        written (Function.update content (.mtd Factory) (junk Factory))
          (writtenTo dev dest buf.length) dest buf := by
  have first := mtMtdWriteNm_outcome dev (junk Factory) content Factory dest buf
  have ret := mtMtdWriteNm_ret dev (junk Factory) content Factory dest buf
  unfold mtEepromWrite writtenTo at *
  simp only at *
  generalize mtMtdWriteNm dev (junk Factory) content Factory dest buf = attempt at *
  rw [← ret]
  cases first with
  | done => exact .inl rfl
  | refused error =>
    rw [if_neg error] at ok ⊢
    rw [if_neg error]
    have second := mtMtdWriteNm_outcome dev (junk factory) content factory dest buf
    generalize mtMtdWriteNm dev (junk factory) content factory dest buf = attempt at *
    cases second with
    | refused error => exact absurd ok error
    | spoiled error => exact absurd ok error
    | done => exact .inl rfl
  | spoiled error =>
    rw [if_neg error] at ok ⊢
    rw [if_neg error]
    have second := mtMtdWriteNm_outcome dev (junk factory)
      (Function.update content (.mtd Factory) (junk Factory)) factory dest buf
    generalize mtMtdWriteNm dev (junk factory)
      (Function.update content (.mtd Factory) (junk Factory)) factory dest buf = attempt at *
    cases second with
    | refused error => exact absurd ok error
    | spoiled error => exact absurd ok error
    | done => exact .inr rfl

theorem mtEepromWrite_ret {junk' : Name → Nat → α} {content' : Content α} {dest : Int}
    {buf' : List α} (length : buf.length = buf'.length) :
    (mtEepromWrite dev junk content dest buf).1 = (mtEepromWrite dev junk' content' dest buf').1 := by
  unfold mtEepromWrite
  simp only [apply_ite Prod.fst, mtMtdWriteNm_ret, length]

theorem written_inside (content : Content α) (name : Name) (dest : Nat) (buf : List α) {i : Nat}
    (inside : i < buf.length) : written content name dest buf (.mtd name) (dest + i) = buf[i] := by
  simp [written, inside]

theorem written_probe (name : Name) (dest len i : Nat) (inside : i < len) (address : Address) :
    written (fun _ _ => (0 : Byte)) name dest ((List.range len).map fun j => if j = i then 1 else 0)
        address.1 address.2 = 1 ↔ address = (.mtd name, dest + i) := by
  obtain ⟨store, a⟩ := address
  unfold written
  by_cases here : store = .mtd name
  · subst here
    rw [Function.update_self]
    by_cases behind : dest ≤ a
    · by_cases held : a - dest < len
      · simp [behind, held]
        omega
      · simp [behind, held]
        omega
    · simp [behind]
      omega
  · rw [Function.update_of_ne here]
    simp [here]

/-- Each byte of the read comes from where the write put it. -/
def LooksBack (dev : Device) (backend : Backend) (name : Name) (dest len : Nat) : Prop :=
  ∀ i < len, backendOrigin dev backend dest len i = .stored (.mtd name, dest + i)

def Covers (dev : Device) (cell : Cell) (dfltBase : Int) (address : Nat) : Prop :=
  ∃ low, cellLow dev cell dfltBase = some low ∧ low ≤ address ∧ address < low + cell.size

/-- The cell lies in the partition, at the offset that is its base in the requests. -/
def Mirrors (dev : Device) (cell : Cell) (dfltBase : Int) (name : Name) : Prop :=
  cell.provider = .mtd name ∧ cellLow dev cell dfltBase = some cell.offset

/-- The cell that decides about an address is part of the partition. -/
def CellsMirror (dev : Device) (eeprom : Cell) (precal : Option Cell) (name : Name)
    (address : Nat) : Prop :=
  match precal with
  | none => Covers dev eeprom 0 address ∧ Mirrors dev eeprom 0 name
  | some cell =>
    (Covers dev cell (-1) address ∧ Mirrors dev cell (-1) name) ∨
    (¬ Covers dev cell (-1) address ∧ Covers dev eeprom 0 address ∧ Mirrors dev eeprom 0 name)

/-- The back end reads the partition, at the offset of the request, in the order
of its bytes. -/
def ReadsBack (dev : Device) (backend : Backend) (name : Name) (dest len : Nat) : Prop :=
  match backend with
  | .eepromData _ _ => len = 0
  | .mtdEeprom part mtdOfs bigEndian =>
    len = 0 ∨ (part = name ∧ mtdOfs ≤ dest ∧ (bigEndian = true → len = 1))
  | .nvmem eeprom precal =>
    ∀ address, dest ≤ address → address < dest + len →
      CellsMirror dev eeprom precal name address
  | .raw part => len = 0 ∨ part = name

variable {dev : Device} {name : Name} {dest len : Nat}

theorem cellOrigin_eq (dev : Device) (name : Name) (cell : Cell) (dfltBase : Int)
    (address : Nat) (otherwise : Origin Address) :
    (¬ Covers dev cell dfltBase address ∧
      cellOrigin dev cell dfltBase address otherwise = otherwise) ∨
    (Covers dev cell dfltBase address ∧
      (cellOrigin dev cell dfltBase address otherwise = .stored (.mtd name, address) ↔
        Mirrors dev cell dfltBase name)) := by
  unfold cellOrigin Covers Mirrors
  cases cellLow dev cell dfltBase with
  | none => exact .inl ⟨by simp, rfl⟩
  | some low =>
    by_cases covered : low ≤ address ∧ address < low + cell.size
    · refine .inr ⟨⟨low, rfl, covered⟩, ?_⟩
      simp only [if_pos covered, Origin.stored.injEq, Prod.mk.injEq, Option.some.injEq]
      refine and_congr_right fun _ => ?_
      omega
    · refine .inl ⟨?_, if_neg covered⟩
      rintro ⟨low', same, inside⟩
      cases same
      exact covered inside

theorem nvmemOrigin_iff (eeprom : Cell) (precal : Option Cell) (address : Nat) :
    nvmemOrigin dev eeprom precal address = .stored (.mtd name, address) ↔
      CellsMirror dev eeprom precal name address := by
  have first := cellOrigin_eq dev name eeprom 0 address .fill
  have byte : cellOrigin dev eeprom 0 address .fill = .stored (.mtd name, address) ↔
      Covers dev eeprom 0 address ∧ Mirrors dev eeprom 0 name := by
    rcases first with ⟨out, fill⟩ | ⟨covered, mirrored⟩
    · simp [out, fill]
    · simp [covered, mirrored]
  cases precal with
  | none => exact byte
  | some cell =>
    simp only [nvmemOrigin, CellsMirror]
    rcases cellOrigin_eq dev name cell (-1) address
      (cellOrigin dev eeprom 0 address .fill) with ⟨out, kept⟩ | ⟨covered, mirrored⟩
    · rw [kept, byte]
      simp [out]
    · rw [mirrored]
      simp [covered]

theorem swapIdx_eq_iff : (∀ i < len, swapIdx len i = i) ↔ len ≤ 1 := by
  constructor
  · intro same
    by_contra more
    have first := same 0 (by omega)
    unfold swapIdx at first
    split_ifs at first <;> omega
  · intro short i inside
    unfold swapIdx
    split_ifs <;> omega

theorem mtdEeprom_looksBack (part : Name) (mtdOfs : Nat) (bigEndian : Bool) :
    LooksBack dev (.mtdEeprom part mtdOfs bigEndian) name dest len ↔
      ReadsBack dev (.mtdEeprom part mtdOfs bigEndian) name dest len := by
  simp only [LooksBack, ReadsBack, backendOrigin, Origin.stored.injEq, Prod.mk.injEq,
    Store.mtd.injEq]
  have start : mtdStart mtdOfs dest = dest ↔ mtdOfs ≤ dest := by
    unfold mtdStart
    split_ifs <;> omega
  have atLeast : dest ≤ mtdStart mtdOfs dest := by
    unfold mtdStart
    split_ifs <;> omega
  constructor
  · intro looks
    by_cases empty : len = 0
    · exact .inl empty
    · obtain ⟨same, first⟩ := looks 0 (by omega)
      have unmoved : mtdStart mtdOfs dest = dest := by omega
      refine .inr ⟨same, start.mp unmoved, ?_⟩
      rintro rfl
      have short : len ≤ 1 := swapIdx_eq_iff.mp fun i inside => by
        have here := (looks i inside).2
        rw [unmoved, if_pos rfl] at here
        omega
      omega
  · rintro (rfl | ⟨same, behind, short⟩) i inside
    · omega
    · refine ⟨same, ?_⟩
      rw [start.mpr behind]
      cases bigEndian with
      | true => rw [if_pos rfl, swapIdx_eq_iff.mpr (Nat.le_of_eq (short rfl)) i inside]
      | false => rfl

theorem looksBack_iff (backend : Backend) :
    LooksBack dev backend name dest len ↔ ReadsBack dev backend name dest len := by
  cases backend with
  | eepromData size base =>
    constructor
    · intro looks
      by_contra some_
      have first := looks 0 (by exact Nat.pos_of_ne_zero some_)
      simp only [backendOrigin] at first
      split_ifs at first
      cases first
    · rintro empty i inside
      exact absurd inside (by rw [show len = 0 from empty]; omega)
  | mtdEeprom part mtdOfs bigEndian => exact mtdEeprom_looksBack part mtdOfs bigEndian
  | nvmem eeprom precal =>
    constructor
    · intro looks address behind before
      have here := looks (address - dest) (by omega)
      rw [show dest + (address - dest) = address by omega] at here
      simp only [backendOrigin, show dest + (address - dest) = address by omega] at here
      exact (nvmemOrigin_iff eeprom precal address).mp here
    · intro mirrors i inside
      exact (nvmemOrigin_iff eeprom precal (dest + i)).mpr (mirrors _ (by omega) (by omega))
  | raw part =>
    simp only [LooksBack, ReadsBack, backendOrigin, Origin.stored.injEq, Prod.mk.injEq,
      Store.mtd.injEq, and_true]
    constructor
    · intro looks
      by_cases empty : len = 0
      · exact .inl empty
      · exact .inr (looks 0 (by omega))
    · rintro (rfl | same) i inside
      · omega
      · exact same

/-- Whatever is stored and written: a read after a write that succeeded gives the
bytes that were written.  The device may answer the read in another way. -/
def GivesBack (dev later : Device) (dt : DeviceTree) (dest len : Nat) : Prop :=
  ∀ (content : Content Byte) (junk : Name → Nat → Byte) (buf : List Byte) (backend : Backend)
    (data : List Byte),
    buf.length = len →
    (mtEepromWrite dev junk content dest buf).1 = 0 →
    mtEepromRead later dt 0 (mtEepromWrite dev junk content dest buf).2 dest len =
      .ok (backend, data) →
      data = buf

theorem evalAt_eq_one {content : Content Byte} {origin : Origin Address}
    (one : evalAt 0 content origin = 1) :
    ∃ address, origin = .stored address ∧ content address.1 address.2 = 1 := by
  cases origin with
  | fill => exact absurd (show (0 : Byte) = 1 from one) (by decide)
  | stored address => exact ⟨address, rfl, one⟩

theorem looksBack_of_givesBack {content : Content Byte} {buf : List Byte} {junk : Name → Nat → Byte}
    (fits : dest + buf.length < 2 ^ 64) (wrote : (mtEepromWrite dev junk content dest buf).1 = 0)
    (served : mtEepromRead later dt 0 content dest buf.length = .ok (backend, data))
    (reads : GivesBack dev later dt dest buf.length) :
    LooksBack later backend (writtenTo dev dest buf.length) dest buf.length := by
  intro i inside
  let zeros : Content Byte := fun _ _ => 0
  let probe : List Byte := (List.range buf.length).map fun j => if j = i then 1 else 0
  have length : probe.length = buf.length := by simp [probe]
  have ok : (mtEepromWrite dev (fun _ _ => 0) zeros dest probe).1 = 0 := by
    rw [← wrote]
    exact mtEepromWrite_ret length
  have after : (mtEepromWrite dev (fun _ _ => 0) zeros dest probe).2 =
      written zeros (writtenTo dev dest buf.length) dest probe := by
    rcases mtEepromWrite_ok ok with held | held
    · rw [held, length]
    · have blank : Function.update zeros (.mtd Factory) (fun _ => 0) = zeros :=
        Function.update_eq_self _ _
      rw [held, blank, length]
  have same := reads zeros _ probe backend _ length ok (mtEepromRead_ok fits served _)
  have here := congrArg (·[i]?) same
  simp only [List.getElem?_map, List.getElem?_range inside, Option.map_some, Option.some.injEq,
    if_true, probe] at here
  obtain ⟨address, origin, one⟩ := evalAt_eq_one here
  rw [after] at one
  rw [origin, (written_probe _ dest _ i inside address).mp one]

theorem givesBack_of_looksBack {content : Content Byte} (fits : dest + len < 2 ^ 64)
    (served : mtEepromRead later dt 0 content dest len = .ok (backend, data))
    (looks : LooksBack later backend (writtenTo dev dest len) dest len) :
    GivesBack dev later dt dest len := by
  rintro content' junk buf backend' data' rfl wrote read
  rw [mtEepromRead_ok fits served _] at read
  cases read
  have put : ∀ i, (inside : i < buf.length) →
      (mtEepromWrite dev junk content' dest buf).2 (.mtd (writtenTo dev dest buf.length))
        (dest + i) = buf[i] := by
    intro i inside
    rcases mtEepromWrite_ok wrote with held | held
    · rw [held, written_inside]
    · rw [held, written_inside]
  apply List.ext_getElem (by simp)
  intro i _ inside
  simp only [List.getElem_map, List.getElem_range, looks i inside]
  exact put i inside

/-- After a write that succeeded, the reads that a back end serves give the bytes
back exactly where it reads them from the partition that was written. -/
theorem read_after_write_iff {dev later : Device} {dt : DeviceTree} {backend : Backend}
    {content : Content Byte} {junk : Name → Nat → Byte} {buf data : List Byte}
    (offset : dest < 2 ^ 63) (length : buf.length < 2 ^ 63)
    (wrote : (mtEepromWrite dev junk content dest buf).1 = 0)
    (served : mtEepromRead later dt 0 content dest buf.length = .ok (backend, data)) :
    GivesBack dev later dt dest buf.length ↔
      ReadsBack later backend (writtenTo dev dest buf.length) dest buf.length := by
  rw [← looksBack_iff]
  constructor
  · exact looksBack_of_givesBack (by omega) wrote served
  · exact givesBack_of_looksBack (by omega) served

/-- A write to the start of `Factory` and a read through `mediatek,mtd-eeprom` at offset 4. -/
theorem readElsewhere : ¬ ∀ (dev later : Device) (dt : DeviceTree) (dest len : Nat),
    dest < 2 ^ 63 → len < 2 ^ 63 → GivesBack dev later dt dest len := by
  intro reads
  have same := reads (factoryDevice 16 8) (factoryDevice 16 8) (factoryTree 4 false) 0 1
    (by decide) (by decide) ascending (fun _ _ => 0) [0xff] (.mtdEeprom Factory 4 false) [4]
    rfl rfl rfl
  revert same
  decide

/-- A write behind the offset is read back. -/
theorem read_after_write_behindOffset :
    (GivesBack (factoryDevice 16 8) (factoryDevice 16 8) (factoryTree 4 false) 4 2 ↔
      ReadsBack (factoryDevice 16 8) (.mtdEeprom Factory 4 false) Factory 4 2) ∧
    ReadsBack (factoryDevice 16 8) (.mtdEeprom Factory 4 false) Factory 4 2 := by
  let dev := factoryDevice 16 8
  have wrote : (mtEepromWrite dev (fun _ _ => 0) ascending (4 : Nat) [1, 2]).1 = 0 := rfl
  have served : mtEepromRead dev (factoryTree 4 false) 0 ascending (4 : Nat) 2 =
      .ok (.mtdEeprom Factory 4 false, [4, 5]) := rfl
  exact ⟨read_after_write_iff (by decide) (by decide) wrote served,
    .inr ⟨rfl, by decide, by simp⟩⟩

end OpenwrtSource.Eeprom.ReadAfterWrite
