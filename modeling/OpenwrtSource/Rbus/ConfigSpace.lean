import Mathlib.Data.BitVec
import Mathlib.Data.Int.Basic
import Mathlib.Tactic.SplitIfs
import OpenwrtSource.Lib.TableFold

/-!
# The configuration space of the rbus

`rbus_conf_space` stands in for the configuration space of a PCI device.  A write goes
through it byte by byte, a read loads a word.  The array is part of a memory, so that an
access across its end touches what lies there.
-/

namespace OpenwrtSource.Rbus.ConfigSpace

open Lib.Patches

abbrev Byte := BitVec 8

/-- Memory by the distance from the first byte of `rbus_conf_space`. -/
abbrev Memory := Int → Byte

/-- `sizeof(rbus_conf_space)`. -/
def confSize : Int := 256

def RBUS_TSSI_CTRL_OFFSET : Int := 0x34
def RBUS_TSSI_CTRL_MASK : BitVec 32 := 0x1
def RBUS_PA_LNA_CTRL_OFFSET : Int := 0x38
def RBUS_PA_LNA_CTRL_MASK : BitVec 32 := 0x3

inductive PciRet where
  | PCIBIOS_SUCCESSFUL
  | PCIBIOS_BUFFER_TOO_SMALL
  deriving DecidableEq

inductive Action where
  | rbusTssiConfig (mode : BitVec 32)
  | rbusPaLanConfig (mode : BitVec 32)

/-- `*(u32 *) &rbus_conf_space[where]`. -/
def loadWord (memory : Memory) (offset : Int) : BitVec 32 :=
  memory (offset + 3) ++ memory (offset + 2) ++ memory (offset + 1) ++ memory offset

/-- The return code, and `*value` where it is set.  The size is not looked at. -/
def rbusReadConfig (memory : Memory) (devfn : Nat) (offset : Int) :
    PciRet × Option (BitVec 32) :=
  -- the comparison is one of `size_t`: a negative offset is a huge one
  if offset < 0 ∨ confSize ≤ offset then (.PCIBIOS_BUFFER_TOO_SMALL, none)
  else (.PCIBIOS_SUCCESSFUL, if devfn = 0 then some (loadWord memory offset) else none)

/-- `(value << (i * 8)) & 0xff`. -/
def storedByte (value : BitVec 32) (i : Nat) : Byte := ((value <<< (i * 8)) &&& 0xff).setWidth 8

/-- The loop over the bytes, `count` of them. -/
def storeBytes (memory : Memory) (offset : Int) (value : BitVec 32) : Nat → Memory
  | 0 => memory
  | count + 1 =>
    Function.update (storeBytes memory offset value count) (offset + count)
      (storedByte value count)

def vendorAction (offset : Int) (value : BitVec 32) : Option Action :=
  if offset = RBUS_TSSI_CTRL_OFFSET then some (.rbusTssiConfig (value &&& RBUS_TSSI_CTRL_MASK))
  else if offset = RBUS_PA_LNA_CTRL_OFFSET then
    some (.rbusPaLanConfig (value &&& RBUS_PA_LNA_CTRL_MASK))
  else none

def rbusWriteConfig (memory : Memory) (devfn : Nat) (offset : Int) (size : Nat)
    (value : BitVec 32) : PciRet × Memory × Option Action :=
  if devfn ≠ 0 then (.PCIBIOS_SUCCESSFUL, memory, none)
  else (.PCIBIOS_SUCCESSFUL, storeBytes memory offset value size, vendorAction offset value)

/-- The sizes of `pci_read_config_byte`, `_word` and `_dword`. -/
inductive Size where
  | byte
  | word
  | dword

def Size.bytes : Size → Nat
  | .byte => 1
  | .word => 2
  | .dword => 4

inductive Access where
  | read (offset : Int) (size : Size)
  | write (offset : Int) (size : Size) (value : BitVec 32)

def step (memory : Memory) : Access → Memory
  | .read _ _ => memory
  | .write offset size value => (rbusWriteConfig memory 0 offset size.bytes value).2.1

def run (initial : Memory) (accesses : List Access) : Memory := accesses.foldl step initial

abbrev Part := Nat × BitVec 32

def Access.parts : Access → Patch Int Part
  | .read _ _ => fun _ => none
  | .write offset size value => fun a =>
    if offset ≤ a ∧ a < offset + size.bytes then some ((a - offset).toNat, value) else none

def lastWrite (before : List Access) (a : Int) : Option Part := latest (before.map Access.parts) a

/-- Byte `i` of a little-endian value. -/
def littleEndian (part : Part) : Byte := part.2.extractLsb' (8 * part.1) 8

/-- The byte most recently written, the initial one if none was. -/
def recent (initial : Memory) (before : List Access) (a : Int) : Byte :=
  ((lastWrite before a).map littleEndian).getD (initial a)

/-- The bytes from `offset` on are bytes of the space. -/
def Inside (offset : Int) (count : Nat) : Prop := 0 ≤ offset ∧ offset + count ≤ confSize

/-- The PCI core takes the low bytes of the word that was read. -/
def truncated (size : Size) (value : BitVec 32) : BitVec (8 * size.bytes) :=
  value.setWidth (8 * size.bytes)

/-- What an access does after the accesses before it is right. -/
def Faithful (initial : Memory) (before : List Access) : Access → Prop
  | .read offset size =>
    match rbusReadConfig (run initial before) 0 offset with
    | (.PCIBIOS_BUFFER_TOO_SMALL, _) => True
    | (.PCIBIOS_SUCCESSFUL, value) =>
      Inside offset 4 ∧ ∃ word, value = some word ∧ ∀ k < size.bytes,
        (truncated size word).extractLsb' (8 * k) 8 = recent initial before (offset + k)
  | .write offset size value =>
    Inside offset size.bytes ∧ ∀ a, ¬ (offset ≤ a ∧ a < offset + size.bytes) →
      (rbusWriteConfig (run initial before) 0 offset size.bytes value).2.1 a =
        run initial before a

def Serves (initial : Memory) (accesses : List Access) : Prop :=
  ∀ before access after, accesses = before ++ access :: after → Faithful initial before access

/-- The first byte of a write, or a zero byte of its value. -/
def Kept (part : Part) : Prop := part.1 = 0 ∨ littleEndian part = 0

/-- A write within the space; a read behind it or in front of it, or one whose word lies in
it and whose bytes were last written as the first byte of a write or as a zero byte. -/
def Fits (before : List Access) : Access → Prop
  | .read offset size =>
    offset < 0 ∨ confSize ≤ offset ∨
      (offset + 4 ≤ confSize ∧
        ∀ k < size.bytes, ∀ part ∈ lastWrite before (offset + k), Kept part)
  | .write offset size _ => Inside offset size.bytes

theorem storedByte_eq (value : BitVec 32) (i : Nat) :
    storedByte value i = if i = 0 then littleEndian (0, value) else 0 := by
  have mask : ∀ bit, (inByte : bit < 8) → (0xff#8)[bit] = true := by decide
  unfold storedByte littleEndian
  apply BitVec.eq_of_getLsbD_eq
  intro bit inByte
  by_cases first : i = 0
  · subst first
    simp [inByte, mask bit inByte, show bit < 32 by omega]
  · have below : bit < i * 8 := by omega
    rw [if_neg first]
    simp [below]

theorem storeBytes_apply (memory : Memory) (offset : Int) (value : BitVec 32) (count : Nat)
    (a : Int) :
    storeBytes memory offset value count a =
      if offset ≤ a ∧ a < offset + count then storedByte value (a - offset).toNat
      else memory a := by
  induction count with
  | zero =>
    rw [if_neg (by omega)]
    rfl
  | succ count ih =>
    unfold storeBytes
    by_cases here : a = offset + count
    · rw [here, Function.update_self, if_pos (by omega)]
      congr 1
      omega
    · rw [Function.update_of_ne here, ih]
      by_cases before : offset ≤ a ∧ a < offset + count
      · rw [if_pos before, if_pos (by omega)]
      · rw [if_neg before, if_neg (by omega)]

theorem step_eq_apply (memory : Memory) (access : Access) :
    step memory access =
      apply memory fun a => (access.parts a).map fun part => storedByte part.2 part.1 := by
  funext a
  cases access with
  | read offset size => rfl
  | write offset size value =>
    show storeBytes memory offset value size.bytes a = _
    rw [storeBytes_apply]
    simp only [apply, Access.parts]
    split_ifs <;> rfl

theorem storedByte_eq_littleEndian_iff (part : Part) :
    storedByte part.2 part.1 = littleEndian part ↔ Kept part := by
  obtain ⟨i, value⟩ := part
  unfold Kept
  rw [storedByte_eq]
  by_cases first : i = 0
  · simp [first]
  · rw [if_neg first]
    constructor
    · exact fun zero => .inr zero.symm
    · rintro (one | zero)
      · exact absurd one first
      · exact zero.symm

theorem run_apply (initial : Memory) (before : List Access) (a : Int) :
    run initial before a =
      ((lastWrite before a).map fun part => storedByte part.2 part.1).getD (initial a) := by
  have patched : run initial before =
      (before.map fun access (b : Int) =>
        (access.parts b).map fun part => storedByte part.2 part.1).foldl apply initial := by
    unfold run
    rw [List.foldl_map]
    congr 1
    funext memory access
    exact step_eq_apply memory access
  unfold lastWrite
  rw [patched, foldl_apply, ← latest_map, List.map_map]
  rfl

theorem run_eq_recent_iff (initial : Memory) (before : List Access) (a : Int) :
    run initial before a = recent initial before a ↔
      ∀ part ∈ lastWrite before a, Kept part := by
  unfold recent
  rw [run_apply, getD_map_eq_iff]
  simp only [storedByte_eq_littleEndian_iff]

theorem rbusReadConfig_refused (memory : Memory) {offset : Int}
    (refused : offset < 0 ∨ confSize ≤ offset) :
    rbusReadConfig memory 0 offset = (.PCIBIOS_BUFFER_TOO_SMALL, none) := by
  unfold rbusReadConfig
  rw [if_pos refused]

theorem rbusReadConfig_served (memory : Memory) {offset : Int}
    (served : ¬ (offset < 0 ∨ confSize ≤ offset)) :
    rbusReadConfig memory 0 offset = (.PCIBIOS_SUCCESSFUL, some (loadWord memory offset)) := by
  unfold rbusReadConfig
  rw [if_neg served, if_pos rfl]

theorem loadWord_byte (memory : Memory) (offset : Int) {k : Nat} (inWord : k < 4) :
    (loadWord memory offset).extractLsb' (8 * k) 8 = memory (offset + k) := by
  unfold loadWord
  apply BitVec.eq_of_getLsbD_eq
  intro bit inByte
  rw [BitVec.getLsbD_extractLsb']
  simp only [BitVec.getLsbD_append, inByte, decide_true, Bool.true_and]
  obtain rfl | rfl | rfl | rfl : k = 0 ∨ k = 1 ∨ k = 2 ∨ k = 3 := by omega
  · rw [if_pos (by omega)]
    simp
  · rw [if_neg (by omega), if_pos (by omega)]
    simp
  · rw [if_neg (by omega), if_neg (by omega), if_pos (by omega)]
    simp [show 8 * 2 + bit - 8 - 8 = bit by omega]
  · rw [if_neg (by omega), if_neg (by omega), if_neg (by omega)]
    simp [show 8 * 3 + bit - 8 - 8 - 8 = bit by omega]

theorem Size.bytes_le (size : Size) : size.bytes ≤ 4 := by cases size <;> decide

theorem truncated_byte (size : Size) (word : BitVec 32) {k : Nat} (inSize : k < size.bytes) :
    (truncated size word).extractLsb' (8 * k) 8 = word.extractLsb' (8 * k) 8 := by
  unfold truncated
  apply BitVec.eq_of_getLsbD_eq
  intro bit inByte
  simp only [BitVec.getLsbD_extractLsb', BitVec.getLsbD_setWidth]
  rw [decide_eq_true (show 8 * k + bit < 8 * size.bytes by omega), Bool.true_and]

theorem faithful_iff (initial : Memory) (before : List Access) (access : Access) :
    Faithful initial before access ↔ Fits before access := by
  cases access with
  | write offset size value =>
    refine and_iff_left ?_
    intro a outside
    show storeBytes _ offset value size.bytes a = _
    rw [storeBytes_apply, if_neg outside]
  | read offset size =>
    unfold Faithful Fits
    by_cases refused : offset < 0 ∨ confSize ≤ offset
    · simp only [rbusReadConfig_refused _ refused]
      exact iff_of_true trivial (refused.imp_right .inl)
    · have start : 0 ≤ offset := by omega
      have bytes : ∀ k, k < size.bytes →
          ((truncated size (loadWord (run initial before) offset)).extractLsb' (8 * k) 8 =
              recent initial before (offset + k) ↔
            ∀ part ∈ lastWrite before (offset + k), Kept part) := by
        intro k inSize
        have inWord : k < 4 := Nat.lt_of_lt_of_le inSize size.bytes_le
        rw [truncated_byte size _ inSize, loadWord_byte _ _ inWord, run_eq_recent_iff]
      simp only [rbusReadConfig_served _ refused]
      constructor
      · rintro ⟨inside, word, loaded, same⟩
        cases loaded
        exact .inr (.inr ⟨inside.2, fun k inSize => (bytes k inSize).mp (same k inSize)⟩)
      · rintro (negative | behind | ⟨within, kept⟩)
        · exact absurd (.inl negative) refused
        · exact absurd (.inr behind) refused
        · exact ⟨⟨start, within⟩, _, rfl,
            fun k inSize => (bytes k inSize).mpr (kept k inSize)⟩

/-- The accesses to the space are served exactly if each of them fits behind those
before it. -/
theorem serves_iff (initial : Memory) (accesses : List Access) :
    Serves initial accesses ↔
      ∀ before access after, accesses = before ++ access :: after → Fits before access := by
  unfold Serves
  simp only [faithful_iff]

/-- The upper bytes of a word are lost in the first write already. -/
theorem upperBytesLost : ¬ ∀ (initial : Memory) (accesses : List Access),
    Serves initial accesses := by
  intro serves
  have read := serves (fun _ => 0) [.write 0x10 .dword 0x12345678, .read 0x10 .dword]
    [.write 0x10 .dword 0x12345678] (.read 0x10 .dword) [] rfl
  rw [faithful_iff] at read
  rcases read with negative | behind | ⟨-, kept⟩
  · exact absurd negative (by decide)
  · exact absurd behind (by decide)
  · rcases kept 1 (by decide) (1, 0x12345678) rfl with first | zero
    · exact absurd first (by decide)
    · exact absurd zero (by decide)

end OpenwrtSource.Rbus.ConfigSpace
