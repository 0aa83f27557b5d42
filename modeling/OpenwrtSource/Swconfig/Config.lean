import Mathlib.Data.BitVec
import Mathlib.Data.List.FinRange
import Mathlib.Logic.Function.Basic
import OpenwrtSource.Lib.BitField

/-!
# What a swconfig driver is told

The MT753x and the AN8855 driver keep the same records of their VLANs and ports and
take the same calls.  They differ in their ports and in what they write to the switch.
-/

namespace OpenwrtSource.Swconfig.Config

open Lib.Packed

def NUM_VLANS : Nat := 4095

def MIN_VID : Int := 0

def MAX_VID : Nat := 4095

/-- The rounds of a loop over the VLANs. -/
@[irreducible]
def vlanIndices : List (Fin NUM_VLANS) := List.finRange NUM_VLANS

theorem mem_vlanIndices (i : Fin NUM_VLANS) : i ∈ vlanIndices := by
  unfold vlanIndices
  exact List.mem_finRange i

theorem nodup_vlanIndices : vlanIndices.Nodup := by
  unfold vlanIndices
  exact List.nodup_finRange NUM_VLANS

/-- `BIT(n)` in a word of `w` bits. -/
def BIT (w n : Nat) : BitVec w := BitVec.twoPow w n

/-- `struct switch_port`; of its flags `SWITCH_PORT_FLAG_TAGGED`. -/
structure SwitchPort where
  id : Nat
  tagged : Bool
  deriving DecidableEq

/-- `member` and `etags` of a VLAN. -/
structure PortSet (ports : Nat) where
  member : BitVec 8
  etags : BitVec 8
  member_lt : ∀ b, member.getLsbD b = true → b < ports

variable {ports : Nat}

def PortSet.empty : PortSet ports where
  member := 0
  etags := 0
  member_lt := by simp

def PortSet.add (set : PortSet ports) (p : SwitchPort) (small : p.id < ports) :
    PortSet ports where
  member := set.member ||| BIT 8 p.id
  etags := if p.tagged then set.etags ||| BIT 8 p.id else set.etags
  member_lt := by
    intro b
    simp only [BIT, BitVec.getLsbD_or, BitVec.getLsbD_twoPow, Bool.or_eq_true,
      Bool.and_eq_true, decide_eq_true_eq]
    rintro (old | ⟨-, rfl⟩)
    · exact set.member_lt b old
    · exact small

/-- The loop of `mt753x_set_vlan_ports` and `an8855_set_vlan_ports`; a port that the switch
does not have ends it with `-EINVAL`. -/
def addPorts : List SwitchPort → PortSet ports → Option (PortSet ports)
  | [], set => some set
  | p :: rest, set => if small : p.id < ports then addPorts rest (set.add p small) else none

def PortSet.Has (set : PortSet ports) (p : Fin ports) : Prop := set.member.getLsbD p = true

instance (set : PortSet ports) (p : Fin ports) : Decidable (set.Has p) :=
  inferInstanceAs (Decidable (_ = true))

theorem PortSet.member_ne_zero_iff (set : PortSet ports) : set.member ≠ 0 ↔ ∃ p, set.Has p := by
  constructor
  · intro nonzero
    by_contra none
    apply nonzero
    apply BitVec.eq_of_getLsbD_eq
    intro b _
    rw [BitVec.ofNat_eq_ofNat, BitVec.getLsbD_zero, ← Bool.not_eq_true]
    exact fun has => none ⟨⟨b, set.member_lt b has⟩, has⟩
  · rintro ⟨p, has⟩ zero
    rw [Has, zero] at has
    simp at has

/-- `struct mt753x_vlan_entry`, `struct an8855_vlan_entry`. -/
structure VlanEntry (ports : Nat) extends PortSet ports where
  vid : BitVec 16
  vid_le : vid.toNat ≤ MAX_VID

/-- `struct gsw_mt753x`, `struct gsw_an8855`; `port6_cfg` is the former's alone. -/
structure Gsw (ports : Nat) where
  cpuPort : Fin ports
  port5Stag : Bool
  port6Stag : Bool
  globalVlanEnable : Bool
  vlanEntries : Fin NUM_VLANS → VlanEntry ports
  portPvid : Fin ports → BitVec 16

/-- `mt753x_set_vid`, `an8855_set_vid`; `none` is `-EINVAL`. -/
def setVid (gsw : Gsw ports) (portVlan : Nat) (value : BitVec 32) : Option (Gsw ports) :=
  if vlan : portVlan < NUM_VLANS then
    if le : (value.setWidth 16).toNat ≤ MAX_VID then
      let i : Fin NUM_VLANS := ⟨portVlan, vlan⟩
      let entry := { gsw.vlanEntries i with vid := value.setWidth 16, vid_le := le }
      some { gsw with vlanEntries := Function.update gsw.vlanEntries i entry }
    else none
  else none

/-- `mt753x_set_vlan_ports`, `an8855_set_vlan_ports`. -/
def setVlanPorts (gsw : Gsw ports) (portVlan : Nat) (value : List SwitchPort) :
    Option (Gsw ports) :=
  if vlan : portVlan < NUM_VLANS then
    if value.length ≤ ports then
      match addPorts value PortSet.empty with
      | some set =>
        let i : Fin NUM_VLANS := ⟨portVlan, vlan⟩
        let entry := { gsw.vlanEntries i with toPortSet := set }
        some { gsw with vlanEntries := Function.update gsw.vlanEntries i entry }
      | none => none
    else none
  else none

/-- `mt753x_set_port_pvid`, `an8855_set_port_pvid`, of a port that is not negative. -/
def setPortPvid (gsw : Gsw ports) (port : Nat) (pvid : Int) : Option (Gsw ports) :=
  if small : port < ports then
    if MIN_VID ≤ pvid ∧ pvid ≤ MAX_VID then
      some { gsw with
        portPvid := Function.update gsw.portPvid ⟨port, small⟩ (BitVec.ofInt 16 pvid) }
    else none
  else none

/-- `mt753x_set_vlan_enable`, `an8855_set_vlan_enable`. -/
def setVlanEnable (gsw : Gsw ports) (value : BitVec 32) : Gsw ports :=
  { gsw with globalVlanEnable := decide (value ≠ 0) }

/-- The part of `mt753x_reset_switch` and `an8855_reset_switch` that both have. -/
def resetConfig (gsw : Gsw ports) : Gsw ports :=
  { gsw with
    portPvid := fun _ => 0
    vlanEntries := fun i =>
      { PortSet.empty with
        vid := BitVec.ofNat 16 i
        vid_le := by
          have small : i.val < 4095 := i.isLt
          rw [BitVec.toNat_ofNat, MAX_VID]
          omega } }

/-- The ports with a tagged and those with an untagged VLAN: `tag_ports` and `untag_ports`. -/
def egressPorts (gsw : Gsw ports) : BitVec 8 × BitVec 8 :=
  vlanIndices.foldl (fun found i =>
    let entry := gsw.vlanEntries i
    if entry.member = 0 then found
    else
      (List.finRange ports).foldl (fun (tagPorts, untagPorts) j =>
        if entry.member.getLsbD j = false then (tagPorts, untagPorts)
        else if entry.etags.getLsbD j = true then (tagPorts ||| BIT 8 j, untagPorts)
        else (tagPorts, untagPorts ||| BIT 8 j)) found) (0, 0)

/-- The last loop of `mt753x_apply_vlan_config` and `an8855_apply_vlan_config`: the VID of
the port's PVID VLAN, or 0. -/
def pvidOf (gsw : Gsw ports) (port : Fin ports) : BitVec 16 :=
  if vlan : (gsw.portPvid port).toNat < NUM_VLANS then
    if (gsw.vlanEntries ⟨_, vlan⟩).member ≠ 0 then (gsw.vlanEntries ⟨_, vlan⟩).vid else 0
  else 0

def GRP_PORT_VID_M : BitVec 32 := 0xfff

/-- The last loop's change of `PPBV1`, or of `PVID`. -/
def pvidWord (pvid : BitVec 16) (val : BitVec 32) : BitVec 32 :=
  (val &&& ~~~ GRP_PORT_VID_M) ||| pvid.setWidth 32

def ETAG_CTRL_UNTAG : BitVec 32 := 0

def ETAG_CTRL_TAG : BitVec 32 := 2

/-- The egress modes of a VLAN table entry, the first of them at bit `shift`. -/
def egressModes (ports shift : Nat) (etags : BitVec 8) (val : BitVec 32) : BitVec 32 :=
  (List.finRange ports).foldl (fun val (port : Fin ports) =>
    let mode := if etags.getLsbD port = true then ETAG_CTRL_TAG else ETAG_CTRL_UNTAG
    val ||| mode <<< (port.val * 2 + shift)) val

theorem getLsbD_egressModes (ports shift : Nat) (etags : BitVec 8) (val : BitVec 32) (b : Nat) :
    (egressModes ports shift etags val).getLsbD b = true ↔
      val.getLsbD b = true ∨
        b < 32 ∧ ∃ port : Fin ports, etags.getLsbD port = true ∧ b = port.val * 2 + shift + 1 := by
  have mode : ∀ (tagged : Bool) (k : Nat),
      ((if tagged = true then ETAG_CTRL_TAG else ETAG_CTRL_UNTAG) <<< k).getLsbD b = true ↔
        tagged = true ∧ b < 32 ∧ b = k + 1 := by
    intro tagged k
    have two : ETAG_CTRL_TAG = BitVec.twoPow 32 1 := rfl
    cases tagged with
    | false => simp [ETAG_CTRL_UNTAG]
    | true =>
      simp only [if_true, two, BitVec.getLsbD_shiftLeft, BitVec.getLsbD_twoPow,
        Bool.and_eq_true, Bool.not_eq_true', decide_eq_true_eq, decide_eq_false_iff_not,
        true_and]
      omega
  unfold egressModes
  rw [getLsbD_foldl_or, Bool.or_eq_true, List.any_eq_true]
  simp only [mode, List.mem_finRange, true_and]
  constructor
  · rintro (old | ⟨port, tagged, small, here⟩)
    · exact .inl old
    · exact .inr ⟨small, port, tagged, here⟩
  · rintro (old | ⟨small, port, tagged, here⟩)
    · exact .inl old
    · exact .inr ⟨port, tagged, small, here⟩

theorem extract_egressModes {ports shift : Nat} (fits : ports * 2 + shift ≤ 32)
    (etags : BitVec 8) {val : BitVec 32} (port : Fin ports)
    (clear : ∀ b, shift ≤ b → b < ports * 2 + shift → val.getLsbD b = false) :
    (egressModes ports shift etags val).extractLsb' (port.val * 2 + shift) 2 =
      if etags.getLsbD port = true then 2 else 0 := by
  have small := port.isLt
  apply BitVec.eq_of_getLsbD_eq
  intro b inside
  rw [BitVec.getLsbD_extractLsb', decide_eq_true inside, Bool.true_and, Bool.eq_iff_iff,
    getLsbD_egressModes, clear _ (by omega) (by omega)]
  have bit : (if etags.getLsbD port = true then (2 : BitVec 2) else 0).getLsbD b = true ↔
      etags.getLsbD port = true ∧ b = 1 := by
    have cases : b = 0 ∨ b = 1 := by omega
    rcases cases with rfl | rfl <;> cases etags.getLsbD port <;> decide
  rw [bit]
  constructor
  · rintro (never | ⟨-, other, tagged, here⟩)
    · cases never
    · have same : other = port := Fin.ext (by omega)
      exact ⟨same ▸ tagged, by omega⟩
  · rintro ⟨tagged, rfl⟩
    exact .inr ⟨by omega, port, tagged, by omega⟩

theorem setWidth_pvidWord (pvid : BitVec 16) (val : BitVec 32) :
    (pvidWord pvid val).setWidth 12 = pvid.setWidth 12 := by
  apply BitVec.eq_of_getLsbD_eq
  intro b inside
  have ones : GRP_PORT_VID_M = (BitVec.allOnes 12).setWidth 32 := by decide
  simp only [pvidWord, ones, BitVec.getLsbD_setWidth, BitVec.getLsbD_or, BitVec.getLsbD_and,
    BitVec.getLsbD_not, BitVec.getLsbD_allOnes, inside, decide_true, Bool.true_and,
    show b < 32 by omega, Bool.not_true, Bool.and_false, Bool.false_or]

end OpenwrtSource.Swconfig.Config
