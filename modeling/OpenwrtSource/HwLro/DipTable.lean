import Mathlib.Data.BitVec
import OpenwrtSource.Lib.ListedSet
import OpenwrtSource.Lib.Run

/-!
# The address table of the hardware LRO

The rules of all MACs share the DIP slots of the engine.  Which slot an address is in is not
kept: each function looks for the address, or for a slot with none, in what the engine gives
back.  The slots are registers, or entries of the global memory.
-/

namespace OpenwrtSource.HwLro.DipTable

open Lib.Pairing Lib.Run

universe u
variable {Mac : Type u}

def MTK_MAX_LRO_IP_CNT : Nat := 2
def TCP_V4_FLOW : Nat := 1
def EINVAL : Int := 22
def EEXIST : Int := 17
def EBUSY : Int := 16
def ENOENT : Int := 2
def MTK_LRO_MEM_DIP_BASE : Nat := 128
def MTK_LRO_DIP_INVALID : Nat := 0
def MTK_LRO_DIP_IPV4 : Nat := 1

/-- `mtk_is_netsys_v3_or_greater`, and `MTK_GLO_MEM_ACCESS` of the capabilities. -/
structure MtkEth where
  netsysV3 : Bool
  gloMem : Bool

def dipNum (eth : MtkEth) : Nat :=
  if eth.netsysV3 then if eth.gloMem then 8 else 4 else 3

/-- An entry of the global memory: what `MTK_GLO_MEM_DATA(0)` and the mode in
`MTK_GLO_MEM_DATA(4)` were at the write. -/
structure GloDip where
  ip : BitVec 32
  mode : Nat
deriving DecidableEq

/-- `hwlro_ip` of the MACs, the registers `MTK_LRO_DIP_DW0_CFG` and `MTK_RING_MYIP_VLD` of
`MTK_LRO_CTRL_DW2_CFG`, the global memory, and what was last written for each index. -/
structure State (Mac : Type u) where
  hwlroIp : Mac × Fin MTK_MAX_LRO_IP_CNT → BitVec 32
  dipDw0 : Nat → BitVec 32
  myipVld : Nat → Bool
  glo : Nat → GloDip
  wrote : Nat → Option (BitVec 32)

def init : State Mac where
  hwlroIp _ := 0
  dipDw0 _ := 0
  myipVld _ := false
  glo _ := ⟨0, MTK_LRO_DIP_INVALID⟩
  wrote _ := none

def mtkHwlroCfgMemGetDip (s : State Mac) (index : Nat) : BitVec 32 :=
  (s.glo (MTK_LRO_MEM_DIP_BASE + (index - 1))).ip

def readDip (eth : MtkEth) (s : State Mac) (i : Nat) : BitVec 32 :=
  if eth.gloMem then mtkHwlroCfgMemGetDip s i else s.dipDw0 i

/-- The first of the two writes of the global memory is overwritten by the second. -/
def mtkHwlroValIpaddr (eth : MtkEth) (s : State Mac) (idx : Nat) (ip : BitVec 32) : State Mac :=
  if eth.gloMem then
    { s with
      glo := Function.update s.glo (MTK_LRO_MEM_DIP_BASE + idx) ⟨ip, MTK_LRO_DIP_IPV4⟩
      wrote := Function.update s.wrote idx (some ip) }
  else
    { s with
      dipDw0 := Function.update s.dipDw0 idx ip
      myipVld := Function.update s.myipVld idx true
      wrote := Function.update s.wrote idx (some ip) }

def mtkHwlroInvalIpaddr (eth : MtkEth) (s : State Mac) (idx : Nat) : State Mac :=
  if eth.gloMem then
    { s with
      glo := Function.update s.glo (MTK_LRO_MEM_DIP_BASE + idx) ⟨0, MTK_LRO_DIP_INVALID⟩
      wrote := Function.update s.wrote idx (some 0) }
  else
    { s with
      dipDw0 := Function.update s.dipDw0 idx 0
      myipVld := Function.update s.myipVld idx false
      wrote := Function.update s.wrote idx (some 0) }

/-- The loop from 1 to `MTK_HW_LRO_DIP_NUM` that stops at `value`. -/
def findDip (eth : MtkEth) (s : State Mac) (value : BitVec 32) : Option Nat :=
  (List.range' 1 (dipNum eth)).find? fun i => decide (readDip eth s i = value)

def mtkHwlroAddIpaddrIdx (eth : MtkEth) (s : State Mac) (ip4dst : BitVec 32) : Except Int Nat :=
  match findDip eth s ip4dst with
  | some _ => .error (-EEXIST)
  | none =>
    match findDip eth s 0 with
    | none => .error (-EBUSY)
    | some i => .ok i

def mtkHwlroGetIpaddrIdx (eth : MtkEth) (s : State Mac) (ip4dst : BitVec 32) : Except Int Nat :=
  match findDip eth s ip4dst with
  | none => .error (-ENOENT)
  | some i => .ok i

/-- `struct ethtool_rx_flow_spec`, the address by its value in memory order. -/
structure FlowSpec where
  flowType : Nat
  ip4dst : BitVec 32
  location : Nat

/-- `htonl` of the little-endian processors. -/
def htonl (value : BitVec 32) : BitVec 32 :=
  value.extractLsb' 0 8 ++ value.extractLsb' 8 8 ++ value.extractLsb' 16 8 ++
    value.extractLsb' 24 8

@[instance] theorem neZeroLocations : NeZero MTK_MAX_LRO_IP_CNT := ⟨by decide⟩

/-- The element of `mac->hwlro_ip` at a location that has been checked. -/
def entryOf (mac : Mac) (location : Nat) : Mac × Fin MTK_MAX_LRO_IP_CNT :=
  (mac, Fin.ofNat MTK_MAX_LRO_IP_CNT location)

section
variable [DecidableEq Mac]

def setHwlroIp (s : State Mac) (entry : Mac × Fin MTK_MAX_LRO_IP_CNT) (ip : BitVec 32) :
    State Mac :=
  { s with hwlroIp := Function.update s.hwlroIp entry ip }

def mtkHwlroAddIpaddr (eth : MtkEth) (s : State Mac) (mac : Mac) (fsp : FlowSpec) :
    Int × State Mac :=
  if fsp.flowType ≠ TCP_V4_FLOW ∨ fsp.ip4dst = 0 ∨ fsp.location > 1 then (-EINVAL, s)
  else
    match mtkHwlroAddIpaddrIdx eth s (htonl fsp.ip4dst) with
    | .error code => (code, s)
    | .ok idx =>
      (0, mtkHwlroValIpaddr eth
        (setHwlroIp s (entryOf mac fsp.location) (htonl fsp.ip4dst)) idx (htonl fsp.ip4dst))

def mtkHwlroDelIpaddr (eth : MtkEth) (s : State Mac) (mac : Mac) (fsp : FlowSpec) :
    Int × State Mac :=
  if fsp.location > 1 then (-EINVAL, s)
  else
    match mtkHwlroGetIpaddrIdx eth s (s.hwlroIp (entryOf mac fsp.location)) with
    | .error code => (code, s)
    | .ok idx => (0, mtkHwlroInvalIpaddr eth (setHwlroIp s (entryOf mac fsp.location) 0) idx)

/-- The body of the loop of `mtk_hwlro_netdev_enable`. -/
def enableEntry (eth : MtkEth) (mac : Mac) (s : State Mac) (i : Nat) : State Mac :=
  if s.hwlroIp (entryOf mac i) = 0 then s
  else
    match mtkHwlroGetIpaddrIdx eth s (s.hwlroIp (entryOf mac i)) with
    | .error _ => s
    | .ok idx => mtkHwlroValIpaddr eth s idx (s.hwlroIp (entryOf mac i))

def mtkHwlroNetdevEnable (eth : MtkEth) (s : State Mac) (mac : Mac) : State Mac :=
  (List.range MTK_MAX_LRO_IP_CNT).foldl (enableEntry eth mac) s

/-- The body of the loop of `mtk_hwlro_netdev_disable`. -/
def disableEntry (eth : MtkEth) (mac : Mac) (s : State Mac) (i : Nat) : State Mac :=
  if s.hwlroIp (entryOf mac i) = 0 then s
  else
    match mtkHwlroGetIpaddrIdx eth s (s.hwlroIp (entryOf mac i)) with
    | .error _ => s
    | .ok idx => mtkHwlroInvalIpaddr eth (setHwlroIp s (entryOf mac i) 0) idx

def mtkHwlroNetdevDisable (eth : MtkEth) (s : State Mac) (mac : Mac) : State Mac :=
  (List.range MTK_MAX_LRO_IP_CNT).foldl (disableEntry eth mac) s

end

inductive Event (Mac : Type u) where
  | add (mac : Mac) (fsp : FlowSpec)
  | del (mac : Mac) (fsp : FlowSpec)
  | enable (mac : Mac)
  | disable (mac : Mac)

def step [DecidableEq Mac] (eth : MtkEth) (s : State Mac) : Event Mac → State Mac
  | .add mac fsp => (mtkHwlroAddIpaddr eth s mac fsp).2
  | .del mac fsp => (mtkHwlroDelIpaddr eth s mac fsp).2
  | .enable mac => mtkHwlroNetdevEnable eth s mac
  | .disable mac => mtkHwlroNetdevDisable eth s mac

def Slot (eth : MtkEth) (idx : Nat) : Prop := 1 ≤ idx ∧ idx ≤ dipNum eth

instance (eth : MtkEth) (idx : Nat) : Decidable (Slot eth idx) :=
  inferInstanceAs (Decidable (_ ∧ _))

def dipAt (eth : MtkEth) (s : State Mac) (idx : Nat) : BitVec 32 :=
  if eth.gloMem then (s.glo (MTK_LRO_MEM_DIP_BASE + idx)).ip else s.dipDw0 idx

def Valid (eth : MtkEth) (s : State Mac) (idx : Nat) : Prop :=
  if eth.gloMem then (s.glo (MTK_LRO_MEM_DIP_BASE + idx)).mode ≠ MTK_LRO_DIP_INVALID
  else s.myipVld idx = true

instance (eth : MtkEth) (s : State Mac) (idx : Nat) : Decidable (Valid eth s idx) :=
  inferInstanceAs (Decidable (if eth.gloMem then _ ≠ _ else _ = _))

/-- Entries and valid slots hold the same addresses, each once, and a slot reads as it was
written. -/
structure Consistent (eth : MtkEth) (s : State Mac) : Prop where
  entryHeld : ∀ e, s.hwlroIp e ≠ 0 →
    ∃! idx, Slot eth idx ∧ Valid eth s idx ∧ dipAt eth s idx = s.hwlroIp e
  slotHeld : ∀ idx, Slot eth idx → Valid eth s idx → ∃! e, s.hwlroIp e = dipAt eth s idx
  distinct : ∀ e e', s.hwlroIp e ≠ 0 → s.hwlroIp e = s.hwlroIp e' → e = e'
  readsBack : ∀ idx ip, Slot eth idx → s.wrote idx = some ip → readDip eth s idx = ip

def WellFormed (fsp : FlowSpec) : Prop :=
  fsp.flowType = TCP_V4_FLOW ∧ fsp.ip4dst ≠ 0 ∧ fsp.location ≤ 1

def Room (eth : MtkEth) (s : State Mac) (ip4dst : BitVec 32) : Prop :=
  (∀ i, Slot eth i → readDip eth s i ≠ ip4dst) ∧ ∃ i, Slot eth i ∧ readDip eth s i = 0

/-- A rule for which there is room goes to a register, and to a location with no rule. -/
def Fits (eth : MtkEth) (s : State Mac) : Event Mac → Prop
  | .add mac fsp => WellFormed fsp → Room eth s (htonl fsp.ip4dst) →
      eth.gloMem = false ∧ s.hwlroIp (entryOf mac fsp.location) = 0
  | _ => True

variable {eth : MtkEth} {s : State Mac} {value : BitVec 32}

variable {i : Nat}

theorem findDip_some (found : findDip eth s value = some i) :
    Slot eth i ∧ readDip eth s i = value := by
  unfold findDip at found
  have reads := List.find?_some found
  obtain ⟨from_, below⟩ := List.mem_range'_1.mp (List.mem_of_find?_eq_some found)
  exact ⟨⟨from_, by omega⟩, of_decide_eq_true reads⟩

theorem findDip_none : findDip eth s value = none ↔ ∀ i, Slot eth i → readDip eth s i ≠ value := by
  unfold findDip
  rw [List.find?_eq_none]
  constructor
  · intro none i slot reads
    exact none i (List.mem_range'_1.mpr ⟨slot.1, by have := slot.2; omega⟩) (decide_eq_true reads)
  · intro none i member
    obtain ⟨from_, below⟩ := List.mem_range'_1.mp member
    simpa using none i ⟨from_, by omega⟩

theorem getIpaddrIdx_ok (found : mtkHwlroGetIpaddrIdx eth s value = .ok i) :
    Slot eth i ∧ readDip eth s i = value := by
  unfold mtkHwlroGetIpaddrIdx at found
  cases at_ : findDip eth s value with
  | none =>
    rw [at_] at found
    cases found
  | some j =>
    rw [at_] at found
    cases found
    exact findDip_some at_

theorem addIpaddrIdx_cases (eth : MtkEth) (s : State Mac) (ip4dst : BitVec 32) :
    (¬ Room eth s ip4dst ∧ ∃ code, mtkHwlroAddIpaddrIdx eth s ip4dst = .error code) ∨
      Room eth s ip4dst ∧ ∃ idx, Slot eth idx ∧ readDip eth s idx = 0 ∧
        mtkHwlroAddIpaddrIdx eth s ip4dst = .ok idx := by
  unfold mtkHwlroAddIpaddrIdx
  cases duplicate : findDip eth s ip4dst with
  | some j =>
    obtain ⟨slot, reads⟩ := findDip_some duplicate
    exact .inl ⟨fun room => room.1 j slot reads, -EEXIST, rfl⟩
  | none =>
    have new := findDip_none.mp duplicate
    cases free : findDip eth s 0 with
    | none =>
      have taken := findDip_none.mp free
      refine .inl ⟨fun room => ?_, -EBUSY, rfl⟩
      obtain ⟨i, slot, reads⟩ := room.2
      exact taken i slot reads
    | some i =>
      obtain ⟨slot, reads⟩ := findDip_some free
      exact .inr ⟨⟨new, i, slot, reads⟩, i, slot, reads, rfl⟩

theorem htonl_ne_zero (full : value ≠ 0) : htonl value ≠ 0 := by
  intro zero
  refine full (BitVec.eq_of_getLsbD_eq fun i bound => ?_)
  have bit : ∀ k, (htonl value).getLsbD k = false := by
    intro k
    rw [zero]
    exact BitVec.getLsbD_zero
  simp only [htonl, BitVec.getLsbD_append, BitVec.getLsbD_extractLsb'] at bit
  rw [show (0 : BitVec 32).getLsbD i = false from BitVec.getLsbD_zero]
  have byte : i < 8 ∨ (8 ≤ i ∧ i < 16) ∨ (16 ≤ i ∧ i < 24) ∨ 24 ≤ i := by omega
  rcases byte with low | ⟨above, low⟩ | ⟨above, low⟩ | above
  · simpa [low, show ¬ 24 + i < 8 by omega, show ¬ 24 + i - 8 < 8 by omega,
      show ¬ 24 + i - 8 - 8 < 8 by omega, show 24 + i - 8 - 8 - 8 = i by omega] using bit (24 + i)
  · simpa [show ¬ i < 8 by omega, show i - 8 < 8 by omega,
      show 8 + (i - 8) = i by omega] using bit (8 + i)
  · simpa [show ¬ i - 8 < 8 by omega, show i - 8 - 8 < 8 by omega,
      show 16 + (i - 8 - 8) = i by omega] using bit (i - 8)
  · simpa [show i - 24 < 8 by omega, show 24 + (i - 24) = i by omega] using bit (i - 24)

section
variable [DecidableEq Mac]

/-- Entries and registers are paired, the valid bits say which slots are used, and what was
written is there. -/
structure RegInv (eth : MtkEth) (s : State Mac) : Prop where
  paired : Paired 0 s.hwlroIp s.dipDw0
  valid : ∀ idx, s.myipVld idx = true ↔ s.dipDw0 idx ≠ 0
  inTable : ∀ idx, s.dipDw0 idx ≠ 0 → Slot eth idx
  wrote : ∀ idx ip, s.wrote idx = some ip → s.dipDw0 idx = ip

omit [DecidableEq Mac] in
theorem regInv_init (eth : MtkEth) : RegInv eth (init : State Mac) where
  paired := paired_blank
  valid idx := by simp [init]
  inTable idx full := absurd rfl full
  wrote idx ip none := by cases none

variable {eth : MtkEth} {s : State Mac} {idx : Nat} {ip : BitVec 32}

omit [DecidableEq Mac] in
theorem RegInv.write (inv : RegInv eth s) (slot : Slot eth idx) (ip : BitVec 32)
    (hwlroIp : Mac × Fin MTK_MAX_LRO_IP_CNT → BitVec 32) (vld : Bool) (states : vld = true ↔ ip ≠ 0)
    (paired : Paired 0 hwlroIp (Function.update s.dipDw0 idx ip)) :
    RegInv eth { s with
      hwlroIp := hwlroIp
      dipDw0 := Function.update s.dipDw0 idx ip
      myipVld := Function.update s.myipVld idx vld
      wrote := Function.update s.wrote idx (some ip) } where
  paired := paired
  valid i := by
    by_cases here : i = idx
    · subst here
      simpa using states
    · simpa [Function.update_of_ne here] using inv.valid i
  inTable i full := by
    by_cases here : i = idx
    · exact here ▸ slot
    · exact inv.inTable i (by simpa [Function.update_of_ne here] using full)
  wrote i value written := by
    by_cases here : i = idx
    · subst here
      simpa using written
    · have before : s.wrote i = some value := by simpa [Function.update_of_ne here] using written
      simpa [Function.update_of_ne here] using inv.wrote i value before

variable {e : Mac × Fin MTK_MAX_LRO_IP_CNT} {event : Event Mac}

theorem regInv_val (reg : eth.gloMem = false) (inv : RegInv eth s) (slot : Slot eth idx)
    (full : ip ≠ 0) (new : ∀ i, s.dipDw0 i ≠ ip) (noEntry : s.hwlroIp e = 0)
    (free : s.dipDw0 idx = 0) : RegInv eth (mtkHwlroValIpaddr eth (setHwlroIp s e ip) idx ip) := by
  simp only [mtkHwlroValIpaddr, reg, Bool.false_eq_true, if_false]
  exact inv.write slot ip _ true (by simpa using full)
    (inv.paired.put full new noEntry free)

omit [DecidableEq Mac] in
theorem regInv_val_again (reg : eth.gloMem = false) (inv : RegInv eth s) (slot : Slot eth idx)
    (full : ip ≠ 0) (there : s.dipDw0 idx = ip) : RegInv eth (mtkHwlroValIpaddr eth s idx ip) := by
  simp only [mtkHwlroValIpaddr, reg, Bool.false_eq_true, if_false]
  refine inv.write slot ip s.hwlroIp true (by simpa using full) ?_
  rw [← there, Function.update_eq_self]
  exact inv.paired

omit [DecidableEq Mac] in
theorem readDip_reg (reg : eth.gloMem = false) (s : State Mac) (i : Nat) :
    readDip eth s i = s.dipDw0 i := by
  simp [readDip, reg]

theorem regInv_inval (reg : eth.gloMem = false) (inv : RegInv eth s)
    (found : mtkHwlroGetIpaddrIdx eth s (s.hwlroIp e) = .ok idx) :
    RegInv eth (mtkHwlroInvalIpaddr eth (setHwlroIp s e 0) idx) := by
  obtain ⟨slot, there⟩ := getIpaddrIdx_ok found
  rw [readDip_reg reg] at there
  simp only [mtkHwlroInvalIpaddr, reg, Bool.false_eq_true, if_false]
  exact inv.write slot 0 _ false (by simp) (inv.paired.wipe there)

omit [DecidableEq Mac] in
theorem RegInv.new (reg : eth.gloMem = false) (inv : RegInv eth s) (full : ip ≠ 0)
    (room : Room eth s ip) (i : Nat) : s.dipDw0 i ≠ ip := by
  intro same
  have slot := inv.inTable i (by rwa [same])
  exact room.1 i slot (by rw [readDip_reg reg, same])

theorem add_cases (eth : MtkEth) (s : State Mac) (mac : Mac) (fsp : FlowSpec) :
    (¬ (WellFormed fsp ∧ Room eth s (htonl fsp.ip4dst)) ∧
        (mtkHwlroAddIpaddr eth s mac fsp).2 = s) ∨
      WellFormed fsp ∧ Room eth s (htonl fsp.ip4dst) ∧
        ∃ idx, Slot eth idx ∧ readDip eth s idx = 0 ∧
          (mtkHwlroAddIpaddr eth s mac fsp).2 =
            mtkHwlroValIpaddr eth (setHwlroIp s (entryOf mac fsp.location) (htonl fsp.ip4dst))
              idx (htonl fsp.ip4dst) := by
  unfold mtkHwlroAddIpaddr
  split_ifs with refused
  · refine .inl ⟨?_, rfl⟩
    rintro ⟨⟨flow, address, location⟩, -⟩
    rcases refused with other | zero | beyond
    · exact other flow
    · exact address zero
    · omega
  · have formed : WellFormed fsp := by
      simp only [not_or, not_not, not_lt] at refused
      exact refused
    rcases addIpaddrIdx_cases eth s (htonl fsp.ip4dst) with ⟨none, code, found⟩ | ⟨room, found⟩
    · exact .inl ⟨fun both => none both.2, by rw [found]⟩
    · obtain ⟨idx, slot, free, found⟩ := found
      exact .inr ⟨formed, room, idx, slot, free, by rw [found]⟩

theorem regInv_add (reg : eth.gloMem = false) (inv : RegInv eth s) {mac : Mac} {fsp : FlowSpec}
    (fits : Fits eth s (.add mac fsp)) : RegInv eth (mtkHwlroAddIpaddr eth s mac fsp).2 := by
  rcases add_cases eth s mac fsp with ⟨-, same⟩ | ⟨formed, room, idx, slot, free, after⟩
  · rwa [same]
  · have full := htonl_ne_zero formed.2.1
    rw [after]
    rw [readDip_reg reg] at free
    exact regInv_val reg inv slot full (inv.new reg full room) (fits formed room).2 free

theorem regInv_del (reg : eth.gloMem = false) (inv : RegInv eth s) (mac : Mac) (fsp : FlowSpec) :
    RegInv eth (mtkHwlroDelIpaddr eth s mac fsp).2 := by
  unfold mtkHwlroDelIpaddr
  split_ifs with beyond
  · exact inv
  · cases found : mtkHwlroGetIpaddrIdx eth s (s.hwlroIp (entryOf mac fsp.location)) with
    | error code => exact inv
    | ok idx => exact regInv_inval reg inv found

omit [DecidableEq Mac] in
theorem regInv_enableEntry (reg : eth.gloMem = false) (inv : RegInv eth s) (mac : Mac) (i : Nat) :
    RegInv eth (enableEntry eth mac s i) := by
  unfold enableEntry
  split_ifs with zero
  · exact inv
  · cases found : mtkHwlroGetIpaddrIdx eth s (s.hwlroIp (entryOf mac i)) with
    | error code => exact inv
    | ok idx =>
      obtain ⟨slot, there⟩ := getIpaddrIdx_ok found
      rw [readDip_reg reg] at there
      exact regInv_val_again reg inv slot zero there

theorem regInv_disableEntry (reg : eth.gloMem = false) (inv : RegInv eth s) (mac : Mac) (i : Nat) :
    RegInv eth (disableEntry eth mac s i) := by
  unfold disableEntry
  split_ifs with zero
  · exact inv
  · cases found : mtkHwlroGetIpaddrIdx eth s (s.hwlroIp (entryOf mac i)) with
    | error code => exact inv
    | ok idx => exact regInv_inval reg inv found

theorem regInv_step (reg : eth.gloMem = false) (inv : RegInv eth s) (fits : Fits eth s event) :
    RegInv eth (step eth s event) := by
  cases event with
  | add mac fsp => exact regInv_add reg inv fits
  | del mac fsp => exact regInv_del reg inv mac fsp
  | enable mac =>
    exact List.foldlRecOn _ _ inv fun s inv i _ => regInv_enableEntry reg inv mac i
  | disable mac =>
    exact List.foldlRecOn _ _ inv fun s inv i _ => regInv_disableEntry reg inv mac i

omit [DecidableEq Mac] in
theorem RegInv.consistent (reg : eth.gloMem = false) (inv : RegInv eth s) : Consistent eth s := by
  obtain ⟨placed, owned⟩ := paired_iff.mp inv.paired
  have dip : ∀ idx, dipAt eth s idx = s.dipDw0 idx := fun idx => by simp [dipAt, reg]
  have valid : ∀ idx, Valid eth s idx ↔ s.dipDw0 idx ≠ 0 := by
    intro idx
    rw [← inv.valid idx]
    simp [Valid, reg]
  refine ⟨fun e full => ?_, fun idx slot used => ?_, inv.paired.heldOnce, ?_⟩
  · obtain ⟨idx, there, only⟩ := placed e full
    have used : s.dipDw0 idx ≠ 0 := by rwa [there]
    refine ⟨idx, ⟨inv.inTable idx used, (valid idx).mpr used, by rw [dip, there]⟩, ?_⟩
    rintro other ⟨-, -, at_⟩
    exact only other ((dip other).symm.trans at_)
  · rw [dip]
    exact owned idx ((valid idx).mp used)
  · intro idx ip slot written
    rw [readDip_reg reg]
    exact inv.wrote idx ip written

theorem not_consistent_reg (reg : eth.gloMem = false) (inv : RegInv eth s)
    (unfit : ¬ Fits eth s event) : ¬ Consistent eth (step eth s event) := by
  cases event with
  | add mac fsp =>
    simp only [Fits, reg, true_and, Classical.not_imp] at unfit
    obtain ⟨formed, room, filled⟩ := unfit
    rcases add_cases eth s mac fsp with ⟨none, -⟩ | ⟨-, -, idx, slot, free, after⟩
    · exact absurd ⟨formed, room⟩ none
    · have full := htonl_ne_zero formed.2.1
      rw [readDip_reg reg] at free
      obtain ⟨lost, apart, kept, nobody⟩ :=
        inv.paired.not_put_over (inv.new reg full room) filled free
      have used : s.dipDw0 lost ≠ 0 := by rwa [kept]
      have valid := (inv.valid lost).mpr used
      intro consistent
      simp only [step, after, mtkHwlroValIpaddr, setHwlroIp, reg, Bool.false_eq_true,
        if_false] at consistent
      obtain ⟨e, holds, -⟩ := consistent.slotHeld lost (inv.inTable lost used)
        (by simpa [Valid, reg, Function.update_of_ne apart] using valid)
      refine nobody e ?_
      simpa [dipAt, reg, Function.update_of_ne apart, kept] using holds
  | _ => exact absurd trivial unfit

end

structure GloInv (s : State Mac) : Prop where
  entries : ∀ e, s.hwlroIp e = 0
  memory : ∀ addr, s.glo addr = ⟨0, MTK_LRO_DIP_INVALID⟩
  wrote : ∀ idx ip, s.wrote idx = some ip → ip = 0

theorem gloInv_init : GloInv (init : State Mac) where
  entries _ := rfl
  memory _ := rfl
  wrote idx ip none := by cases none

theorem GloInv.consistent (glo : eth.gloMem = true) (inv : GloInv s) : Consistent eth s where
  entryHeld e full := absurd (inv.entries e) full
  slotHeld idx slot valid := by simp [Valid, glo, inv.memory] at valid
  distinct e e' full := absurd (inv.entries e) full
  readsBack idx ip slot written := by
    rw [inv.wrote idx ip written]
    simp [readDip, glo, mtkHwlroCfgMemGetDip, inv.memory]

section
variable [DecidableEq Mac]

variable {eth : MtkEth} {s : State Mac}

theorem gloInv_inval (glo : eth.gloMem = true) (inv : GloInv s) (e : Mac × Fin MTK_MAX_LRO_IP_CNT)
    (idx : Nat) : GloInv (mtkHwlroInvalIpaddr eth (setHwlroIp s e 0) idx) := by
  simp only [mtkHwlroInvalIpaddr, glo, if_true]
  constructor
  · intro other
    by_cases here : other = e
    · simp [setHwlroIp, here]
    · simpa [setHwlroIp, Function.update_of_ne here] using inv.entries other
  · intro addr
    by_cases here : addr = MTK_LRO_MEM_DIP_BASE + idx
    · simp [here]
    · simpa [setHwlroIp, Function.update_of_ne here] using inv.memory addr
  · intro i ip written
    by_cases here : i = idx
    · have same : (some 0 : Option (BitVec 32)) = some ip := by simpa [here] using written
      exact (Option.some.inj same).symm
    · exact inv.wrote i ip (by simpa [setHwlroIp, Function.update_of_ne here] using written)

variable {event : Event Mac}

theorem gloInv_step (glo : eth.gloMem = true) (inv : GloInv s) (fits : Fits eth s event) :
    GloInv (step eth s event) := by
  cases event with
  | add mac fsp =>
    rcases add_cases eth s mac fsp with ⟨-, same⟩ | ⟨formed, room, -⟩
    · change GloInv (mtkHwlroAddIpaddr eth s mac fsp).2
      rwa [same]
    · have reg := (fits formed room).1
      rw [glo] at reg
      cases reg
  | del mac fsp =>
    simp only [step, mtkHwlroDelIpaddr]
    split_ifs with beyond
    · exact inv
    · cases mtkHwlroGetIpaddrIdx eth s (s.hwlroIp (entryOf mac fsp.location)) with
      | error code => exact inv
      | ok idx => exact gloInv_inval glo inv _ idx
  | enable mac =>
    refine List.foldlRecOn _ _ inv fun s inv i _ => ?_
    rwa [enableEntry, if_pos (inv.entries _)]
  | disable mac =>
    refine List.foldlRecOn _ _ inv fun s inv i _ => ?_
    rwa [disableEntry, if_pos (inv.entries _)]

theorem not_consistent_glo (glo : eth.gloMem = true) (inv : GloInv s) (unfit : ¬ Fits eth s event) :
    ¬ Consistent eth (step eth s event) := by
  cases event with
  | add mac fsp =>
    simp only [Fits, glo, Classical.not_imp] at unfit
    obtain ⟨formed, room, -⟩ := unfit
    rcases add_cases eth s mac fsp with ⟨none, -⟩ | ⟨-, -, idx, slot, free, after⟩
    · exact absurd ⟨formed, room⟩ none
    · have full := htonl_ne_zero formed.2.1
      have before : MTK_LRO_MEM_DIP_BASE + (idx - 1) ≠ MTK_LRO_MEM_DIP_BASE + idx := by
        have := slot.1
        omega
      intro consistent
      simp only [step, after, mtkHwlroValIpaddr, setHwlroIp, glo, if_true] at consistent
      have reads := consistent.readsBack idx (htonl fsp.ip4dst) slot (by simp)
      refine full (reads.symm.trans ?_)
      simp [readDip, glo, mtkHwlroCfgMemGetDip, Function.update_of_ne before, inv.memory]
  | _ => exact absurd trivial unfit

/-- The table stays as it should be exactly in the runs in which every rule that there is room
for is written to a register and does not replace another rule. -/
theorem dips_consistent_iff (eth : MtkEth) (events : List (Event Mac)) :
    (∀ n, Consistent eth (run (step eth) init (events.take n))) ↔
      Along (step eth) (Fits eth) init events := by
  cases access : eth.gloMem with
  | false =>
    exact always_iff_along (step eth) (Fits eth) (RegInv eth) (Consistent eth)
      (fun s inv => inv.consistent access) (fun s event inv fits => regInv_step access inv fits)
      (fun s event inv unfit => not_consistent_reg access inv unfit) init events
      (regInv_init eth)
  | true =>
    exact always_iff_along (step eth) (Fits eth) GloInv (Consistent eth)
      (fun s inv => inv.consistent access) (fun s event inv fits => gloInv_step access inv fits)
      (fun s event inv unfit => not_consistent_glo access inv unfit) init events gloInv_init

end

/-- The rule for an IPv4 address, least significant byte first. -/
def tcpRule (ip4dst : BitVec 32) (location : Nat) : FlowSpec := ⟨TCP_V4_FLOW, ip4dst, location⟩

/-- A rule refused as a duplicate, one deleted and another in its place, and the feature off
and on. -/
def fittingRules : List (Event (Fin 3)) :=
  [.add 0 (tcpRule 0x0100a8c0 0), .add 1 (tcpRule 0x0100a8c0 1), .add 1 (tcpRule 0x0200a8c0 1),
    .del 0 (tcpRule 0 0), .add 0 (tcpRule 0x0300a8c0 0), .disable 1, .enable 1]

theorem fittingRules_consistent (n : Nat) :
    Consistent ⟨true, false⟩ (run (step ⟨true, false⟩) init (fittingRules.take n)) := by
  refine (dips_consistent_iff ⟨true, false⟩ fittingRules).mpr ?_ n
  exact ⟨fun _ _ => ⟨rfl, by decide⟩, fun _ _ => ⟨rfl, by decide⟩, fun _ _ => ⟨rfl, by decide⟩,
    trivial, fun _ _ => ⟨rfl, by decide⟩, trivial, trivial, trivial⟩

/-- With the global memory the first slot does not read as it was written; with registers a
second rule for a location leaves the slot of the first valid, and no entry holds it. -/
theorem slot_reads_blank_or_stays :
    ¬ Consistent ⟨true, true⟩
        (run (step ⟨true, true⟩) (init : State (Fin 3)) [.add 0 (tcpRule 0x0100a8c0 0)]) ∧
      ¬ Consistent ⟨true, false⟩
        (run (step ⟨true, false⟩) (init : State (Fin 3))
          [.add 0 (tcpRule 0x0100a8c0 0), .add 0 (tcpRule 0x0200a8c0 0)]) := by
  constructor
  · intro consistent
    have reads := consistent.readsBack 1 0xc0a80001 (by decide) (by decide)
    revert reads
    decide
  · intro consistent
    obtain ⟨⟨mac, location⟩, holds, -⟩ := consistent.slotHeld 1 (by decide) (by decide)
    revert mac location
    decide

end OpenwrtSource.HwLro.DipTable
