import Mathlib.Data.BitVec
import Mathlib.Data.Int.Basic
import Mathlib.Data.List.Basic
import Mathlib.Tactic.SplitIfs

/-!
# The eight byte tag

The tag driver of `DSA_TAG_PROTO_MXL862`.  A frame lies in a socket buffer and the tag is
put in and taken out by moving the two MAC addresses; the parser gets the buffer with the
Ethernet header already pulled.
-/

namespace OpenwrtSource.Mxl862xx.Tag

abbrev Byte := BitVec 8

abbrev Memory := Int → Byte

def ETH_HLEN : Nat := 14

/-- `2 * ETH_ALEN`. -/
def macsLen : Nat := 12

def MXL862_TX_HEADER_LEN : Nat := 8

def MXL862_RX_HEADER_LEN : Nat := 8

def MXL862_IGP_EGP_MASK : Byte := 0x0f

/-- `memmove`: what is read is what lay there before. -/
def memmove (mem : Memory) (dest src : Int) (n : Nat) : Memory :=
  fun a => if dest ≤ a ∧ a < dest + n then mem (a - dest + src) else mem a

/-- Bytes stored one after the other from `start` on. -/
def stored (mem : Memory) (start : Int) (bytes : List Byte) : Memory :=
  fun a => if start ≤ a then (bytes[(a - start).toNat]?).getD (mem a) else mem a

/-- `struct sk_buff`: the data between `data` and `tail`, the device by its port. -/
structure SkBuff where
  mem : Memory
  data : Int
  tail : Int
  dev : Option Nat := none
  offloadFwdMark : Bool := false

/-- The bytes of the buffer from `start` on. -/
def SkBuff.bytesFrom (skb : SkBuff) (start : Int) : List Byte :=
  (List.range (skb.tail - start).toNat).map fun (i : Nat) => skb.mem (start + i)

structure Ports where
  user : Nat → Bool
  /-- What `dsa_default_offload_fwd_mark` takes over. -/
  bridged : Nat → Bool

/-- `dsa_conduit_find_user` for device 0. -/
def dsaConduitFindUser (ports : Ports) (port : Nat) : Option Nat :=
  if ports.user port then some port else none

def mxl862DsaPortToTagPort (inDsaPort : Nat) : Nat :=
  if inDsaPort < 15 then inDsaPort + 1 else 0

def mxl862TagPortToDsaPort (inHwPort : Nat) : Nat :=
  if 1 ≤ inHwPort ∧ inHwPort ≤ 15 then inHwPort - 1 else 0

def tagBytes (usrPort cpuPort : BitVec 32) : List Byte :=
  [0x88, 0xc3, 0, 0, 0, (usrPort + 16 - cpuPort).setWidth 8, 0,
    cpuPort.setWidth 8 &&& MXL862_IGP_EGP_MASK]

def mxl862TagXmit (index cpuIndex : Nat) : Option SkBuff → Option SkBuff
  | none => none
  | some skb =>
    let cpuPort := BitVec.ofNat 32 (mxl862DsaPortToTagPort cpuIndex)
    let usrPort := BitVec.ofNat 32 (mxl862DsaPortToTagPort index)
    let data := skb.data - MXL862_TX_HEADER_LEN
    let mem := memmove skb.mem data (data + MXL862_TX_HEADER_LEN) macsLen
    some { skb with mem := stored mem (data + macsLen) (tagBytes usrPort cpuPort), data := data }

def mxl862TagRcv (ports : Ports) (skb : SkBuff) : Option SkBuff :=
  -- `pskb_may_pull`
  if skb.tail - skb.data < MXL862_RX_HEADER_LEN then none
  else if skb.mem (skb.data - 2) ≠ 0x88 ∧ skb.mem (skb.data - 2 + 1) ≠ 0xc3 then none
  else
    let port := (skb.mem (skb.data - 2 + 7) &&& MXL862_IGP_EGP_MASK).toNat
    match dsaConduitFindUser ports (mxl862TagPortToDsaPort port) with
    | none => none
    | some dev =>
      let data := skb.data + MXL862_RX_HEADER_LEN
      some { skb with
        mem := memmove skb.mem (data - ETH_HLEN) (data - (ETH_HLEN + MXL862_RX_HEADER_LEN)) macsLen
        data := data
        dev := some dev
        offloadFwdMark := ports.bridged dev }

/-- A frame has its Ethernet header, which the driver has pulled when the parser is called. -/
structure Frame where
  bytes : List Byte
  header : ETH_HLEN ≤ bytes.length

/-- The frame in a buffer with any `room` around it. -/
def Frame.buffer (frame : Frame) (room : Memory) (data : Int) : SkBuff where
  mem := stored room 0 frame.bytes
  data := data
  tail := frame.bytes.length

def received (room : Memory) (frame : Frame) : SkBuff := frame.buffer room ETH_HLEN

def transmitted (room : Memory) (frame : Frame) (index cpuIndex : Nat) : Option (List Byte) :=
  (mxl862TagXmit index cpuIndex (some (frame.buffer room 0))).map fun skb =>
    skb.bytesFrom skb.data

/-- What the DSA core makes of the parser's buffer: it puts the Ethernet header back. -/
def delivered (skb : SkBuff) : List Byte := skb.bytesFrom (skb.data - ETH_HLEN)

/-- The port field of a frame that is long enough for a tag. -/
def portField (frame : Frame) : Nat :=
  (((frame.bytes[19]?).getD 0) &&& MXL862_IGP_EGP_MASK).toNat

def firstMark (frame : Frame) : Prop := frame.bytes[12]? = some 0x88

def secondMark (frame : Frame) : Prop := frame.bytes[13]? = some 0xc3

instance (frame : Frame) : Decidable (firstMark frame) := inferInstanceAs (Decidable (_ = _))

instance (frame : Frame) : Decidable (secondMark frame) := inferInstanceAs (Decidable (_ = _))

/-- The frame has a tag, with the tag number of the port. -/
structure Carries (frame : Frame) (port : Nat) : Prop where
  whole : macsLen + MXL862_RX_HEADER_LEN ≤ frame.bytes.length
  first : firstMark frame
  second : secondMark frame
  number : portField frame = port + 1

def untagged (frame : Frame) : List Byte :=
  frame.bytes.take macsLen ++ frame.bytes.drop (macsLen + MXL862_RX_HEADER_LEN)

/-- The parser accepts the frames that carry the number of a user port, gives each to that
port without the tag, and drops all others. -/
def ParsesRight (ports : Ports) (room : Memory) (frame : Frame) : Prop :=
  match mxl862TagRcv ports (received room frame) with
  | none => ¬ ∃ port, ports.user port = true ∧ Carries frame port
  | some skb => ∃ port, ports.user port = true ∧ Carries frame port ∧
      skb.dev = some port ∧ delivered skb = untagged frame

/-- What is sent determines the frame and the two ports, whatever lies around the frame. -/
def TagDetermines : Prop :=
  ∀ (room room' : Memory) (frame frame' : Frame) (index cpuIndex index' cpuIndex' : Nat),
    index < 15 → cpuIndex < 15 → index' < 15 → cpuIndex' < 15 →
    transmitted room frame index cpuIndex = transmitted room' frame' index' cpuIndex' →
    frame = frame' ∧ index = index' ∧ cpuIndex = cpuIndex'

/-- The parser goes on to the port with a marker of which one byte is wrong, or with port
field 0. -/
def Misread (frame : Frame) : Prop :=
  (firstMark frame ∨ secondMark frame) ∧
    (¬ firstMark frame ∨ ¬ secondMark frame ∨ portField frame = 0)

/-- With eight bytes behind the header, the frame is not misread for a user port's; with
fewer, it carries no user port's number. -/
def Fits (ports : Ports) (frame : Frame) : Prop :=
  if ETH_HLEN + MXL862_RX_HEADER_LEN ≤ frame.bytes.length then
    Misread frame → ports.user (mxl862TagPortToDsaPort (portField frame)) = false
  else ∀ port, Carries frame port → ports.user port = false

theorem stored_inside (mem : Memory) (start : Int) (bytes : List Byte) {i : Nat}
    (inside : i < bytes.length) : stored mem start bytes (start + i) = bytes[i] := by
  unfold stored
  rw [if_pos (by omega), show (start + i - start).toNat = i by omega,
    List.getElem?_eq_getElem inside, Option.getD_some]

theorem stored_before (mem : Memory) {start a : Int} (bytes : List Byte) (before : a < start) :
    stored mem start bytes a = mem a := by
  unfold stored
  rw [if_neg (by omega)]

theorem stored_behind (mem : Memory) {start a : Int} (bytes : List Byte)
    (behind : start + bytes.length ≤ a) : stored mem start bytes a = mem a := by
  unfold stored
  rw [if_pos (by omega), List.getElem?_eq_none (by omega), Option.getD_none]

theorem memmove_inside (mem : Memory) {dest a : Int} (src : Int) {n : Nat}
    (inside : dest ≤ a ∧ a < dest + n) : memmove mem dest src n a = mem (a - dest + src) :=
  if_pos inside

theorem memmove_outside (mem : Memory) {dest a : Int} (src : Int) {n : Nat}
    (outside : ¬ (dest ≤ a ∧ a < dest + n)) : memmove mem dest src n a = mem a :=
  if_neg outside

theorem Frame.buffer_mem (frame : Frame) (room : Memory) (data : Int) {i : Nat} {a : Int}
    (inside : i < frame.bytes.length) (there : a = i) :
    (frame.buffer room data).mem a = frame.bytes[i] := by
  have here := stored_inside room 0 frame.bytes inside
  rw [Int.zero_add] at here
  rw [there]
  exact here

theorem bytesFrom_getElem? (skb : SkBuff) (start : Int) {i : Nat}
    (inside : i < (skb.tail - start).toNat) :
    (skb.bytesFrom start)[i]? = some (skb.mem (start + i)) := by
  unfold SkBuff.bytesFrom
  rw [List.getElem?_map, List.getElem?_range inside]
  rfl

@[simp] theorem length_bytesFrom (skb : SkBuff) (start : Int) :
    (skb.bytesFrom start).length = (skb.tail - start).toNat := by
  unfold SkBuff.bytesFrom
  rw [List.length_map, List.length_range]

section Parser

variable {ports : Ports} {room : Memory} {frame : Frame}

structure Accepted (ports : Ports) (frame : Frame) : Prop where
  long : ETH_HLEN + MXL862_RX_HEADER_LEN ≤ frame.bytes.length
  marked : firstMark frame ∨ secondMark frame
  port : ports.user (mxl862TagPortToDsaPort (portField frame)) = true

theorem received_byte (room : Memory) (frame : Frame) {i : Nat} {a : Int}
    (inside : i < frame.bytes.length) (there : a = i) :
    (received room frame).mem a = (frame.bytes[i]?).getD 0 := by
  rw [List.getElem?_eq_getElem inside]
  exact frame.buffer_mem room ETH_HLEN inside there

theorem mark_iff {i : Nat} (inside : i < frame.bytes.length) (mark : Byte) :
    (frame.bytes[i]?).getD 0 = mark ↔ frame.bytes[i]? = some mark := by
  rw [List.getElem?_eq_getElem inside, Option.getD_some, Option.some.injEq]

def accepted (ports : Ports) (room : Memory) (frame : Frame) : SkBuff :=
  { received room frame with
    mem := memmove (received room frame).mem 8 0 macsLen
    data := 22
    dev := some (mxl862TagPortToDsaPort (portField frame))
    offloadFwdMark := ports.bridged (mxl862TagPortToDsaPort (portField frame)) }

theorem rcv_short (short : frame.bytes.length < ETH_HLEN + MXL862_RX_HEADER_LEN) :
    mxl862TagRcv ports (received room frame) = none := by
  have few : (received room frame).tail - (received room frame).data < MXL862_RX_HEADER_LEN := by
    show (frame.bytes.length : Int) - ETH_HLEN < MXL862_RX_HEADER_LEN
    omega
  unfold mxl862TagRcv
  rw [if_pos few]

theorem rcv_long (long : ETH_HLEN + MXL862_RX_HEADER_LEN ≤ frame.bytes.length) :
    mxl862TagRcv ports (received room frame) =
      if ¬ firstMark frame ∧ ¬ secondMark frame then none
      else if ports.user (mxl862TagPortToDsaPort (portField frame)) = true then
        some (accepted ports room frame)
      else none := by
  have enough :
      ¬ (received room frame).tail - (received room frame).data < MXL862_RX_HEADER_LEN := by
    show ¬ (frame.bytes.length : Int) - ETH_HLEN < MXL862_RX_HEADER_LEN
    omega
  have least : 22 ≤ frame.bytes.length := long
  have first := received_byte room frame (i := 12) (by omega) (a := 14 - 2) rfl
  have second := received_byte room frame (i := 13) (by omega) (a := 14 - 2 + 1) rfl
  have number := received_byte room frame (i := 19) (by omega) (a := 14 - 2 + 7) rfl
  have data : (received room frame).data = 14 := rfl
  have marks : (received room frame).mem (14 - 2) ≠ 0x88 ∧
      (received room frame).mem (14 - 2 + 1) ≠ 0xc3 ↔ ¬ firstMark frame ∧ ¬ secondMark frame := by
    rw [first, second]
    exact and_congr (not_congr (mark_iff (by omega) _)) (not_congr (mark_iff (by omega) _))
  have field : (received room frame).mem (14 - 2 + 7) &&& MXL862_IGP_EGP_MASK =
      ((frame.bytes[19]?).getD 0) &&& MXL862_IGP_EGP_MASK := by rw [number]
  unfold mxl862TagRcv
  rw [if_neg enough, data, field]
  by_cases unmarked : ¬ firstMark frame ∧ ¬ secondMark frame
  · rw [if_pos (marks.mpr unmarked), if_pos unmarked]
  · rw [if_neg (fun both => unmarked (marks.mp both)), if_neg unmarked]
    simp only [dsaConduitFindUser]
    by_cases user : ports.user (mxl862TagPortToDsaPort (portField frame)) = true
    · rw [if_pos user, if_pos (show ports.user (mxl862TagPortToDsaPort
        ((frame.bytes[19]?).getD 0 &&& MXL862_IGP_EGP_MASK).toNat) = true from user)]
      rfl
    · rw [if_neg user, if_neg (show ¬ ports.user (mxl862TagPortToDsaPort
        ((frame.bytes[19]?).getD 0 &&& MXL862_IGP_EGP_MASK).toNat) = true from user)]

theorem rcv_accepted (holds : Accepted ports frame) :
    mxl862TagRcv ports (received room frame) = some (accepted ports room frame) := by
  rw [rcv_long holds.long, if_neg, if_pos holds.port]
  rintro ⟨notFirst, notSecond⟩
  exact holds.marked.elim notFirst notSecond

theorem rcv_dropped (fails : ¬ Accepted ports frame) :
    mxl862TagRcv ports (received room frame) = none := by
  by_cases long : ETH_HLEN + MXL862_RX_HEADER_LEN ≤ frame.bytes.length
  · rw [rcv_long long]
    split_ifs with unmarked user
    · rfl
    · refine absurd ⟨long, ?_, user⟩ fails
      by_contra neither
      exact unmarked (not_or.mp neither)
    · rfl
  · exact rcv_short (by omega)

theorem delivered_accepted (holds : Accepted ports frame) :
    delivered (accepted ports room frame) = untagged frame := by
  have least : 22 ≤ frame.bytes.length := holds.long
  have start : (accepted ports room frame).data - ETH_HLEN = 8 := rfl
  have tail : (accepted ports room frame).tail = frame.bytes.length := rfl
  unfold delivered untagged
  rw [start]
  apply List.ext_getElem?
  intro i
  by_cases inside : i < frame.bytes.length - 8
  · have buffer : ∀ (j : Nat) (a : Int), j < frame.bytes.length → a = j →
        some ((received room frame).mem a) = frame.bytes[j]? := by
      intro j a inFrame there
      rw [List.getElem?_eq_getElem inFrame]
      exact congrArg some (frame.buffer_mem room ETH_HLEN inFrame there)
    rw [bytesFrom_getElem? _ _ (by rw [tail]; omega)]
    show some (memmove (received room frame).mem 8 0 macsLen (8 + i)) = _
    by_cases macs : i < 12
    · rw [memmove_inside _ _ (by simp only [macsLen]; omega), buffer i _ (by omega) (by omega),
        List.getElem?_append_left (by simp only [List.length_take, macsLen]; omega),
        List.getElem?_take_of_lt (show i < macsLen from macs)]
    · rw [memmove_outside _ _ (by simp only [macsLen]; omega),
        buffer (8 + i) _ (by omega) (by omega),
        List.getElem?_append_right (by simp only [List.length_take, macsLen]; omega),
        List.getElem?_drop]
      congr 1
      simp only [List.length_take, macsLen, MXL862_RX_HEADER_LEN]
      omega
  · rw [List.getElem?_eq_none, List.getElem?_eq_none]
    · simp only [List.length_append, List.length_take, List.length_drop, macsLen,
        MXL862_RX_HEADER_LEN]
      omega
    · rw [length_bytesFrom, tail]
      omega

theorem portField_lt (frame : Frame) : portField frame < 16 := by
  unfold portField MXL862_IGP_EGP_MASK
  rw [BitVec.toNat_and]
  exact Nat.lt_of_le_of_lt Nat.and_le_right (by decide)

theorem carries_iff (holds : Accepted ports frame) :
    (∃ port, ports.user port = true ∧ Carries frame port ∧
      mxl862TagPortToDsaPort (portField frame) = port) ↔ ¬ Misread frame := by
  have small := portField_lt frame
  unfold Misread mxl862TagPortToDsaPort
  constructor
  · rintro ⟨port, -, carries, -⟩ ⟨-, wrong⟩
    rcases wrong with notFirst | notSecond | zero
    · exact notFirst carries.first
    · exact notSecond carries.second
    · have number := carries.number
      omega
  · intro right
    obtain ⟨first, second, nonzero⟩ :
        firstMark frame ∧ secondMark frame ∧ portField frame ≠ 0 := by
      have both := fun wrong => right ⟨holds.marked, wrong⟩
      exact ⟨by_contra fun no => both (.inl no), by_contra fun no => both (.inr (.inl no)),
        fun zero => both (.inr (.inr zero))⟩
    refine ⟨_, holds.port, ⟨Nat.le_trans (by decide) holds.long, first, second, ?_⟩, ?_⟩
    · unfold mxl862TagPortToDsaPort
      rw [if_pos (by omega)]
      omega
    · rfl

theorem parsesRight_iff (ports : Ports) (room : Memory) (frame : Frame) :
    ParsesRight ports room frame ↔ Fits ports frame := by
  unfold ParsesRight Fits
  by_cases holds : Accepted ports frame
  · rw [rcv_accepted holds, if_pos holds.long]
    constructor
    · rintro ⟨port, user, carries, dev, -⟩ misread
      refine absurd misread ((carries_iff holds).mp ⟨port, user, carries, ?_⟩)
      exact Option.some.inj dev
    · intro fits
      have right : ¬ Misread frame := by
        intro misread
        have no := fits misread
        rw [holds.port] at no
        cases no
      obtain ⟨port, user, carries, same⟩ := (carries_iff holds).mpr right
      exact ⟨port, user, carries, congrArg some same, delivered_accepted holds⟩
  · rw [rcv_dropped holds]
    by_cases long : ETH_HLEN + MXL862_RX_HEADER_LEN ≤ frame.bytes.length
    · rw [if_pos long]
      refine iff_of_true ?_ ?_
      · rintro ⟨port, user, carries⟩
        refine holds ⟨long, .inl carries.first, ?_⟩
        have small := portField_lt frame
        unfold mxl862TagPortToDsaPort
        rw [if_pos (by rw [carries.number] at small ⊢; omega), carries.number]
        exact user
      · rintro ⟨marked, -⟩
        by_contra user
        exact holds ⟨long, marked, by simpa using user⟩
    · rw [if_neg long]
      constructor
      · intro none_ port carries
        by_contra user
        exact none_ ⟨port, by simpa using user, carries⟩
      · rintro fits ⟨port, user, carries⟩
        rw [fits port carries] at user
        cases user

end Parser

def tagged (frame : Frame) (index cpuIndex : Nat) : List Byte :=
  frame.bytes.take macsLen ++
    (tagBytes (BitVec.ofNat 32 (mxl862DsaPortToTagPort index))
      (BitVec.ofNat 32 (mxl862DsaPortToTagPort cpuIndex)) ++ frame.bytes.drop macsLen)

theorem transmitted_eq (room : Memory) (frame : Frame) (index cpuIndex : Nat) :
    transmitted room frame index cpuIndex = some (tagged frame index cpuIndex) := by
  have least : 14 ≤ frame.bytes.length := frame.header
  have macs : (frame.bytes.take macsLen).length = 12 := by
    rw [List.length_take]
    exact Nat.min_eq_left (by simp only [macsLen]; omega)
  have buffer : ∀ (j : Nat) (a : Int), j < frame.bytes.length → a = j →
      some ((frame.buffer room 0).mem a) = frame.bytes[j]? := by
    intro j a inFrame there
    rw [List.getElem?_eq_getElem inFrame]
    exact congrArg some (frame.buffer_mem room 0 inFrame there)
  unfold transmitted tagged
  have length : (tagBytes (BitVec.ofNat 32 (mxl862DsaPortToTagPort index))
    (BitVec.ofNat 32 (mxl862DsaPortToTagPort cpuIndex))).length = 8 := rfl
  let sent : SkBuff :=
    { frame.buffer room 0 with
      mem := stored (memmove (frame.buffer room 0).mem (-8) 0 12) 4
        (tagBytes (BitVec.ofNat 32 (mxl862DsaPortToTagPort index))
          (BitVec.ofNat 32 (mxl862DsaPortToTagPort cpuIndex)))
      data := -8 }
  have tail : sent.tail = frame.bytes.length := rfl
  show some (sent.bytesFrom (-8)) = _
  apply congrArg some
  apply List.ext_getElem?
  intro i
  by_cases inside : i < frame.bytes.length + 8
  · rw [bytesFrom_getElem? _ _ (by rw [tail]; omega)]
    by_cases first : i < 12
    · rw [List.getElem?_append_left (by omega),
        List.getElem?_take_of_lt (show i < macsLen from first)]
      show some (stored _ 4 _ (-8 + i)) = _
      rw [stored_before _ _ (by omega), memmove_inside _ _ (by omega),
        buffer i _ (by omega) (by omega)]
    · rw [List.getElem?_append_right (by omega), macs]
      by_cases second : i < 20
      · rw [List.getElem?_append_left (by omega), List.getElem?_eq_getElem (by omega),
          ← stored_inside (memmove (frame.buffer room 0).mem (-8) 0 12) 4]
        show some (stored _ 4 _ (-8 + i)) = _
        congr 2
        omega
      · rw [List.getElem?_append_right (by omega), length, List.getElem?_drop]
        show some (stored _ 4 _ (-8 + i)) = _
        rw [stored_behind _ _ (by omega), memmove_outside _ _ (by omega),
          buffer (i - 8) _ (by omega) (by omega)]
        congr 1
        simp only [macsLen]
        omega
  · rw [List.getElem?_eq_none, List.getElem?_eq_none]
    · rw [List.length_append, List.length_append, macs, length, List.length_drop]
      simp only [macsLen]
      omega
    · rw [length_bytesFrom, tail]
      omega

theorem tagBytes_inj {index cpuIndex index' cpuIndex' : Nat} (small : index < 15)
    (cpuSmall : cpuIndex < 15) (small' : index' < 15) (cpuSmall' : cpuIndex' < 15)
    (same : tagBytes (BitVec.ofNat 32 (mxl862DsaPortToTagPort index))
        (BitVec.ofNat 32 (mxl862DsaPortToTagPort cpuIndex)) =
      tagBytes (BitVec.ofNat 32 (mxl862DsaPortToTagPort index'))
        (BitVec.ofNat 32 (mxl862DsaPortToTagPort cpuIndex'))) :
    index = index' ∧ cpuIndex = cpuIndex' := by
  unfold tagBytes mxl862DsaPortToTagPort at same
  rw [if_pos small, if_pos cpuSmall, if_pos small', if_pos cpuSmall'] at same
  simp only [List.cons.injEq, and_true, true_and] at same
  obtain ⟨sixth, last⟩ := same
  have low : ∀ p, p < 15 →
      ((BitVec.ofNat 32 (p + 1)).setWidth 8 &&& MXL862_IGP_EGP_MASK).toNat = p + 1 := by decide
  have cpu : cpuIndex = cpuIndex' := by
    have numbers := congrArg BitVec.toNat last
    rw [low _ cpuSmall, low _ cpuSmall'] at numbers
    omega
  subst cpu
  refine ⟨?_, rfl⟩
  have numbers := congrArg BitVec.toNat sixth
  simp only [BitVec.toNat_setWidth, BitVec.toNat_sub, BitVec.toNat_add, BitVec.toNat_ofNat]
    at numbers
  omega

theorem tag_determines : TagDetermines := by
  intro room room' frame frame' index cpuIndex index' cpuIndex' small cpuSmall small' cpuSmall'
    same
  rw [transmitted_eq, transmitted_eq] at same
  have bytes := Option.some.inj same
  unfold tagged at bytes
  have macs : ∀ f : Frame, (f.bytes.take macsLen).length = 12 := by
    intro f
    have least : 14 ≤ f.bytes.length := f.header
    rw [List.length_take]
    exact Nat.min_eq_left (by simp only [macsLen]; omega)
  obtain ⟨front, rest⟩ := List.append_inj bytes (by rw [macs, macs])
  obtain ⟨tag, back⟩ := List.append_inj rest rfl
  refine ⟨?_, tagBytes_inj small cpuSmall small' cpuSmall' tag⟩
  cases frame with
  | mk list header =>
    cases frame' with
    | mk list' header' =>
      have whole : list = list' := by
        rw [← List.take_append_drop macsLen list, ← List.take_append_drop macsLen list',
          front, back]
      subst whole
      rfl

/-- The parser is right about a frame exactly if that is not misread for a user port, and what
is sent determines the frame and the ports. -/
theorem tag_right_iff (ports : Ports) (room : Memory) (frame : Frame) :
    (ParsesRight ports room frame ↔ Fits ports frame) ∧ TagDetermines :=
  ⟨parsesRight_iff ports room frame, tag_determines⟩

/-- A frame without a tag, of EtherType `0x8847` and with a 1 in byte 19. -/
def mplsFrame : Frame where
  bytes := List.replicate 12 0 ++ [0x88, 0x47] ++ List.replicate 5 0 ++ [1] ++ List.replicate 40 0
  header := by decide

/-- One right byte of the marker is enough. -/
theorem mplsAccepted : ¬ ((∀ (ports : Ports) (room : Memory) (frame : Frame),
    ParsesRight ports room frame) ∧ TagDetermines) := by
  rintro ⟨right, -⟩
  have fits := (parsesRight_iff ⟨fun _ => true, fun _ => false⟩ (fun _ => 0) mplsFrame).mp
    (right _ _ _)
  exact absurd (fits ⟨.inl rfl, .inr (.inl (by decide))⟩) (by decide)

end OpenwrtSource.Mxl862xx.Tag
