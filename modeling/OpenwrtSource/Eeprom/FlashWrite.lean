import OpenwrtSource.Eeprom.CellOverlay
import OpenwrtSource.Eeprom.ReadAfterWrite

/-!
# Read, modify, write

`mt_mtd_write_nm_wifi` on one partition, with the flash calls as they act: each
does to the partition or to the backup what the count that it reports says, and
may fail all the same.
-/

namespace OpenwrtSource.Eeprom.FlashWrite

open Eeprom.WifiUtility Eeprom.ReadAfterWrite
open Eeprom.CellOverlay

variable {α : Type}

abbrev Flash (α : Type) := Nat → α

/-- What the calls of one write return.  `fresh` is what `kmalloc` finds in the memory of the
backup, and `erased` counts the bytes that `mtd_erase` has got to when it fails. -/
structure MtdCalls (α : Type) where
  getMtdDeviceNm : Option Errno
  erasesize : Nat
  kmalloc : Bool
  fresh : Nat → α
  mtdRead : Int × Nat
  mtdErase : Int
  erased : Nat
  mtdWrite : Int × Nat

/-- The first `count` bytes come from the second content. -/
def copyFront (count : Nat) (below above : Flash α) : Flash α :=
  fun a => if a < count then above a else below a

/-- The result, the partition after the call, and whether `mtd_erase` was called. -/
structure WriteEnd (α : Type) where
  ret : Int
  flash : Flash α
  eraseCalled : Bool

/-- `mt_mtd_write_nm_wifi`, where `blank` is an erased byte.  It has no end where `memcpy` would
leave the backup. -/
def mtMtdWriteNmWifi (calls : MtdCalls α) (blank : α) (flash : Flash α) (dest : Int)
    (buf : List α) : Option (WriteEnd α) :=
  if dest < 0 then some ⟨-EINVAL, flash, false⟩
  else
    match calls.getMtdDeviceNm with
    | some error => some ⟨error, flash, false⟩
    | none =>
      if dest > calls.erasesize ∨ buf.length > calls.erasesize - dest then
        some ⟨-EINVAL, flash, false⟩
      else if !calls.kmalloc then some ⟨-ENOMEM, flash, false⟩
      else
        let (ret, rdlen) := calls.mtdRead
        let bak := (List.range calls.erasesize).map (copyFront rdlen calls.fresh flash)
        let ret := if mtdIsBitflip ret then 0 else ret
        if ret ≠ 0 then some ⟨ret, flash, false⟩
        else if rdlen ≠ calls.erasesize then some ⟨(- WifiUtility.EIO), flash, false⟩
        else
          match memcpy bak buf ⟨dest.toNat, 0, buf.length⟩ with
          | none => none
          | some bak =>
            let cleared := if calls.mtdErase = 0 then calls.erasesize else calls.erased
            let flash := copyFront cleared flash fun _ => blank
            if calls.mtdErase ≠ 0 then some ⟨calls.mtdErase, flash, true⟩
            else
              let (ret, wrlen) := calls.mtdWrite
              let flash := copyFront wrlen flash fun a => (bak[a]?).getD (flash a)
              if ret ≠ 0 then some ⟨ret, flash, true⟩
              else if wrlen ≠ calls.erasesize then some ⟨(- WifiUtility.EIO), flash, true⟩
              else some ⟨0, flash, true⟩

/-- The old content with the bytes of `buf` from `dest` on. -/
def replaced (flash : Flash α) (dest : Nat) (buf : List α) : Flash α :=
  fun a => if dest ≤ a then (buf[a - dest]?).getD (flash a) else flash a

structure Kept (calls : MtdCalls α) (flash : Flash α) (dest : Int) (buf : List α)
    (done : WriteEnd α) : Prop where
  /-- a success replaces the range, which is in the first erase block -/
  success : done.ret = 0 →
    0 ≤ dest ∧ dest + buf.length ≤ calls.erasesize ∧
      done.flash = replaced flash dest.toNat buf
  /-- nothing changes before the erase -/
  untouched : done.eraseCalled = false → done.ret ≠ 0 ∧ done.flash = flash

variable {calls : MtdCalls α} {flash : Flash α} {buf : List α} {ret : Int}

theorem Kept.refused {dest : Int} (error : ret ≠ 0) :
    Kept calls flash dest buf ⟨ret, flash, false⟩ where
  success fine := absurd fine error
  untouched _ := ⟨error, rfl⟩

theorem Kept.spoiled {after : Flash α} {dest : Int} (error : ret ≠ 0) :
    Kept calls flash dest buf ⟨ret, after, true⟩ where
  success fine := absurd fine error
  untouched early := by cases early

theorem rewritten_eq_replaced {fresh : Flash α} {blank : α} {erasesize dest : Nat} {bak : List α}
    (fits : dest + buf.length ≤ erasesize)
    (copied : memcpy ((List.range erasesize).map (copyFront erasesize fresh flash)) buf
      ⟨dest, 0, buf.length⟩ = some bak) :
    copyFront erasesize (copyFront erasesize flash fun _ => blank)
        (fun a => (bak[a]?).getD (copyFront erasesize flash (fun _ => blank) a)) =
      replaced flash dest buf := by
  funext a
  have byte := getElem?_memcpy copied a
  simp only [Nat.zero_add] at byte
  simp only [copyFront, replaced]
  by_cases inBlock : a < erasesize
  · have backedUp : ((List.range erasesize).map (copyFront erasesize fresh flash))[a]? =
        some (flash a) := by
      rw [List.getElem?_map, List.getElem?_range inBlock, Option.map_some]
      unfold copyFront
      rw [if_pos inBlock]
    rw [if_pos inBlock, byte, backedUp]
    by_cases from_dest : dest ≤ a
    · rw [if_pos from_dest]
      by_cases within : a < dest + buf.length
      · have inBuf : a - dest < buf.length := by omega
        rw [if_pos ⟨from_dest, within⟩, List.getElem?_eq_getElem inBuf, Option.getD_some,
          Option.getD_some]
      · have past : buf[a - dest]? = none := List.getElem?_eq_none (by omega)
        rw [if_neg (fun both => within both.2), past, Option.getD_some, Option.getD_none]
    · rw [if_neg from_dest, if_neg (fun both => from_dest both.1), Option.getD_some]
  · rw [if_neg inBlock, if_neg inBlock]
    by_cases from_dest : dest ≤ a
    · have past : buf[a - dest]? = none := List.getElem?_eq_none (by omega)
      rw [if_pos from_dest, past, Option.getD_none]
    · rw [if_neg from_dest]

theorem memcpy_fits (bak buf : List α) (dest : Nat) (fits : dest + buf.length ≤ bak.length) :
    ∃ after, memcpy bak buf ⟨dest, 0, buf.length⟩ = some after := by
  unfold memcpy
  rw [if_pos]
  · exact ⟨_, rfl⟩
  · simp only
    omega

/-- Every write has an end, with no byte moved outside the backup, and the end keeps what a write
promises. -/
theorem write_kept (calls : MtdCalls α) (blank : α) (flash : Flash α) (dest : Int)
    (buf : List α) :
    ∃ done, mtMtdWriteNmWifi calls blank flash dest buf = some done ∧
      Kept calls flash dest buf done := by
  unfold mtMtdWriteNmWifi
  split
  · exact ⟨_, rfl, Kept.refused (by decide)⟩
  rename_i nonneg
  cases calls.getMtdDeviceNm with
  | some error => exact ⟨_, rfl, Kept.refused (Int.ne_of_lt error.property)⟩
  | none =>
    simp only
    split
    · exact ⟨_, rfl, Kept.refused (by decide)⟩
    rename_i fits
    split
    · exact ⟨_, rfl, Kept.refused (by decide)⟩
    by_cases unread : (if mtdIsBitflip calls.mtdRead.1 then 0 else calls.mtdRead.1) ≠ 0
    · rw [if_pos unread]
      exact ⟨_, rfl, Kept.refused unread⟩
    rw [if_neg unread]
    by_cases short : calls.mtdRead.2 ≠ calls.erasesize
    · rw [if_pos short]
      exact ⟨_, rfl, Kept.refused (by decide)⟩
    rw [if_neg short, not_not.mp short]
    have inBlock : dest.toNat + buf.length ≤ calls.erasesize := by omega
    obtain ⟨bak, copied⟩ := memcpy_fits
      ((List.range calls.erasesize).map (copyFront calls.erasesize calls.fresh flash)) buf
      dest.toNat (by rw [List.length_map, List.length_range]; exact inBlock)
    simp only [copied]
    split
    · rename_i unerased
      exact ⟨_, rfl, Kept.spoiled unerased⟩
    rename_i erased
    split
    · rename_i failed
      exact ⟨_, rfl, Kept.spoiled failed⟩
    split
    · exact ⟨_, rfl, Kept.spoiled (by decide)⟩
    · rename_i whole
      refine ⟨_, rfl, ?_, fun early => by cases early⟩
      intro _
      refine ⟨by omega, by omega, ?_⟩
      rw [not_not.mp whole, if_pos (not_not.mp erased)]
      exact rewritten_eq_replaced inBlock copied

/-- The calls return what the device says of the partition. -/
structure Agrees (dev : Device) (name : Name) (p : Partition) (calls : MtdCalls α) : Prop where
  getMtdDevice : dev.getMtdDevice name = calls.getMtdDeviceNm.elim 0 Subtype.val
  erasesize : p.erasesize = calls.erasesize
  kmalloc : dev.kmalloc = calls.kmalloc
  mtdRead : mtdRead dev name p 0 p.erasesize = calls.mtdRead
  mtdErase : dev.mtdErase name = calls.mtdErase
  mtdWrite : dev.mtdWrite name = calls.mtdWrite

theorem end_eq {called : Bool} {done : WriteEnd α} (same : some ⟨ret, flash, called⟩ = some done) :
    done.ret = ret ∧ done.flash = flash := by
  obtain rfl := Option.some.inj same
  exact ⟨rfl, rfl⟩

theorem readRet_block {dev : Device} {name : Name} {p : Partition}
    (agrees : Agrees dev name p calls) :
    readRet dev name p 0 calls.erasesize =
      if (if mtdIsBitflip calls.mtdRead.1 then 0 else calls.mtdRead.1) = 0 ∧
          calls.mtdRead.2 ≠ calls.erasesize then (- WifiUtility.EIO)
      else if mtdIsBitflip calls.mtdRead.1 then 0 else calls.mtdRead.1 := by
  have read := agrees.mtdRead
  rw [agrees.erasesize] at read
  unfold readRet
  rw [read]

/-- `mtMtdWriteNm` of the back ends is this write, where a failure leaves what the calls made of
the partition. -/
theorem mtMtdWriteNm_refined {dev : Device} {name : Name} {p : Partition}
    (found : dev.partitions name = some p) (agrees : Agrees dev name p calls) (blank : α)
    (content : Content α) (dest : Int) (buf : List α) {done : WriteEnd α}
    (ended : mtMtdWriteNmWifi calls blank (content (.mtd name)) dest buf = some done) :
    mtMtdWriteNm dev done.flash content name dest buf =
      (done.ret, Function.update content (.mtd name) done.flash) := by
  have kept : Function.update content (.mtd name) (content (.mtd name)) = content :=
    Function.update_eq_self _ _
  unfold mtMtdWriteNmWifi at ended
  unfold mtMtdWriteNm
  by_cases below : dest < 0
  · rw [if_pos below] at ended ⊢
    obtain ⟨ret, flash⟩ := end_eq ended
    rw [ret, flash, kept]
  rw [if_neg below] at ended ⊢
  simp only [found]
  have device := agrees.getMtdDevice
  cases got : calls.getMtdDeviceNm with
  | some error =>
    rw [got] at ended device
    obtain ⟨ret, flash⟩ := end_eq ended
    rw [if_pos (by rw [device]; exact Int.ne_of_lt error.property), ret, flash, kept, device]
    rfl
  | none =>
    rw [got] at ended device
    have fine : ¬ dev.getMtdDevice name ≠ 0 := not_not.mpr device
    simp only at ended
    rw [if_neg fine, agrees.erasesize, agrees.kmalloc, agrees.mtdErase, agrees.mtdWrite]
    by_cases large : dest > calls.erasesize ∨ buf.length > calls.erasesize - dest
    · rw [if_pos large] at ended ⊢
      obtain ⟨ret, flash⟩ := end_eq ended
      rw [ret, flash, kept]
    rw [if_neg large] at ended ⊢
    by_cases noMemory : (!calls.kmalloc) = true
    · rw [if_pos noMemory] at ended ⊢
      obtain ⟨ret, flash⟩ := end_eq ended
      rw [ret, flash, kept]
    rw [if_neg noMemory] at ended ⊢
    have result := readRet_block agrees
    by_cases unread : (if mtdIsBitflip calls.mtdRead.1 then 0 else calls.mtdRead.1) ≠ 0
    · rw [if_pos unread] at ended
      obtain ⟨ret, flash⟩ := end_eq ended
      rw [if_neg (fun both => unread both.1)] at result
      rw [result, if_pos unread, ret, flash, kept]
    rw [if_neg unread] at ended
    by_cases short : calls.mtdRead.2 ≠ calls.erasesize
    · rw [if_pos short] at ended
      obtain ⟨ret, flash⟩ := end_eq ended
      rw [if_pos ⟨not_not.mp unread, short⟩] at result
      rw [result, if_pos (by decide), ret, flash, kept]
    rw [if_neg short, not_not.mp short] at ended
    rw [if_neg (fun both => short both.2), not_not.mp unread] at result
    rw [result, if_neg (not_not.mpr rfl)]
    have inBlock : dest.toNat + buf.length ≤ calls.erasesize := by omega
    obtain ⟨bak, copied⟩ := memcpy_fits
      ((List.range calls.erasesize).map
        (copyFront calls.erasesize calls.fresh (content (.mtd name)))) buf
      dest.toNat (by rw [List.length_map, List.length_range]; exact inBlock)
    simp only [copied] at ended
    by_cases unerased : calls.mtdErase ≠ 0
    · rw [if_pos unerased] at ended
      obtain rfl := Option.some.inj ended
      rw [if_pos unerased]
    rw [if_neg unerased] at ended ⊢
    by_cases failed : calls.mtdWrite.1 ≠ 0
    · rw [if_pos failed] at ended
      obtain rfl := Option.some.inj ended
      rw [if_pos failed]
    rw [if_neg failed] at ended ⊢
    by_cases part : calls.mtdWrite.2 ≠ calls.erasesize
    · rw [if_pos part] at ended
      obtain rfl := Option.some.inj ended
      rw [if_pos part]
    · rw [if_neg part] at ended
      obtain rfl := Option.some.inj ended
      simp only [not_not.mp part, not_not.mp unerased, if_true]
      rw [if_neg (not_not.mpr rfl), rewritten_eq_replaced inBlock copied]
      congr 1
      congr 1
      funext a
      exact rewritten_eq inBlock a

def oneBlock : Device where
  partitions _ := some ⟨8, 4⟩
  getMtdDevice _ := 0
  mtdRead _ _ len := (0, len)
  kmalloc := true
  mtdErase _ := 0
  mtdWrite _ := (0, 3)
  nvmemCellRead _ := 0

/-- The last byte is not written any more. -/
def shortWrite : MtdCalls Nat := ⟨none, 4, true, id, (0, 4), 0, 4, (0, 3)⟩

theorem agrees_shortWrite (name : Name) : Agrees oneBlock name ⟨8, 4⟩ shortWrite :=
  ⟨rfl, rfl, rfl, rfl, rfl, rfl⟩

theorem mtMtdWriteNm_refined_short : ∃ done,
    mtMtdWriteNmWifi shortWrite 255 id 1 [7] = some done ∧
      mtMtdWriteNm oneBlock done.flash (fun _ => id) [] 1 [7] =
        (done.ret, Function.update (fun _ => id) (.mtd []) done.flash) :=
  ⟨_, rfl, mtMtdWriteNm_refined rfl (agrees_shortWrite []) 255 (fun _ => id) 1 [7] rfl⟩

end OpenwrtSource.Eeprom.FlashWrite
