import OpenwrtSource.Lib.BitField

/-!
# FOE entries

The flow-offload table entry of the packet processing engine, as `hnat.h` lays
it out for `CONFIG_MEDIATEK_NETSYS_V3`: 128 bytes, whose first word is
`info_blk1` and whose other words are a union of one layout for each packet
type.  A layout is a family of bit fields of the same words, so a write through
one layout is seen by the others.
-/

namespace OpenwrtSource.Hnat.Foe

open Lib.BitField

abbrev FoeEntry := Words 32

abbrev EntryField (width : Nat) := Field 32 width

@[instance] theorem neZeroWords : NeZero 32 := ⟨by decide⟩

def FoeEntry.zero : FoeEntry := fun _ => 0

abbrev FoeEntryState := BitVec 2

def INVALID : FoeEntryState := 0
def UNBIND : FoeEntryState := 1
def BIND : FoeEntryState := 2
def FIN : FoeEntryState := 3

abbrev FoeIpAct := BitVec 5

def IPV4_HNAPT : FoeIpAct := 0
def IPV4_HNAT : FoeIpAct := 1
def L2_BRIDGE : FoeIpAct := 2
def IPV4_DSLITE : FoeIpAct := 3
def IPV6_3T_ROUTE : FoeIpAct := 4
def IPV6_5T_ROUTE : FoeIpAct := 5
def IPV6_6RD : FoeIpAct := 7
def IPV4_MAP_T : FoeIpAct := 8
def IPV4_MAP_E : FoeIpAct := 9
def IPV6_HNAPT : FoeIpAct := 10
def IPV6_HNAT : FoeIpAct := 11

/-- The destination port field of `info_blk2` and the PSE ports it takes. -/
abbrev PsePort := BitVec 4

def NR_PDMA_PORT : PsePort := 0
def NR_GMAC1_PORT : PsePort := 1
def NR_GMAC2_PORT : PsePort := 2
def NR_QDMA_PORT : PsePort := 5
def NR_TDMA_PORT : PsePort := 10
def NR_GMAC3_PORT : PsePort := 15

abbrev TportId := BitVec 4

def NR_QDMA_TPORT : TportId := 1
def NR_EIP197_QDMA_TPORT : TportId := 3
def NR_TDMA_QDMA_TPORT : TportId := 5
def NR_TDMA_EIP197_QDMA_TPORT : TportId := 9

def IPV6_SNAT : BitVec 1 := 0
def IPV6_DNAT : BitVec 1 := 1

/-! ## `struct hnat_bind_info_blk`, and `struct hnat_unbind_info_blk` where it
has the same bits -/

namespace Bfib1
def timeStamp : EntryField 8 := { word := 0, shift := 0 }
def sp : EntryField 4 := { word := 0, shift := 8 }
def mc : EntryField 1 := { word := 0, shift := 12 }
def ka : EntryField 1 := { word := 0, shift := 13 }
def vlanLayer : EntryField 3 := { word := 0, shift := 14 }
def psn : EntryField 1 := { word := 0, shift := 17 }
def vpm : EntryField 1 := { word := 0, shift := 18 }
def ps : EntryField 1 := { word := 0, shift := 19 }
def cah : EntryField 1 := { word := 0, shift := 20 }
def rmt : EntryField 1 := { word := 0, shift := 21 }
def ttl : EntryField 1 := { word := 0, shift := 22 }
def pktType : EntryField 5 := { word := 0, shift := 23 }
def state : EntryField 2 := { word := 0, shift := 28 }
def udp : EntryField 1 := { word := 0, shift := 30 }
def sta : EntryField 1 := { word := 0, shift := 31 }
end Bfib1

structure Iblk2 where
  qid : EntryField 7
  portMg : EntryField 1
  fqos : EntryField 1
  dp : EntryField 4
  mcast : EntryField 1
  mibf : EntryField 1
  rxid : EntryField 2
  winfoi : EntryField 1
  portAg : EntryField 4
  dscp : EntryField 8

def iblk2At (word : Fin 32) : Iblk2 where
  qid := { word, shift := 0 }
  portMg := { word, shift := 7 }
  fqos := { word, shift := 8 }
  dp := { word, shift := 9 }
  mcast := { word, shift := 13 }
  mibf := { word, shift := 15 }
  rxid := { word, shift := 17 }
  winfoi := { word, shift := 19 }
  portAg := { word, shift := 20 }
  dscp := { word, shift := 24 }

/-- The layer 2 block, five words from `vlan1` to `smac_lo`. -/
structure L2Block where
  vlan1 : EntryField 16
  spTag : EntryField 16
  dmacHi : EntryField 32
  vlan2 : EntryField 16
  dmacLo : EntryField 16
  smacHi : EntryField 32
  pppoeId : EntryField 16
  smacLo : EntryField 16

def l2BlockAt (w0 w1 w2 w3 w4 : Fin 32) : L2Block where
  vlan1 := { word := w0, shift := 0 }
  spTag := { word := w0, shift := 16 }
  dmacHi := { word := w1, shift := 0 }
  vlan2 := { word := w2, shift := 0 }
  dmacLo := { word := w2, shift := 16 }
  smacHi := { word := w3, shift := 0 }
  pppoeId := { word := w4, shift := 0 }
  smacLo := { word := w4, shift := 16 }

/-- The word with the ids of the tunnel and crypto engines. -/
structure EngineBlock where
  cdrtId : EntryField 8
  topsEntry : EntryField 6
  tportId : EntryField 4

def engineBlockAt (word : Fin 32) : EngineBlock where
  cdrtId := { word, shift := 0 }
  topsEntry := { word, shift := 8 }
  tportId := { word, shift := 16 }

/-- The two words for the Wi-Fi driver, `winfo` and `winfo_pao`. -/
structure WinfoBlock where
  wcid : EntryField 16
  bssid : EntryField 8
  usrInfo : EntryField 16
  tid : EntryField 4
  isFixedrate : EntryField 1
  isPrior : EntryField 1
  isSp : EntryField 1
  hf : EntryField 1
  amsdu : EntryField 1

def winfoAt (winfo winfoPao : Fin 32) : WinfoBlock where
  wcid := { word := winfo, shift := 0 }
  bssid := { word := winfo, shift := 16 }
  usrInfo := { word := winfoPao, shift := 0 }
  tid := { word := winfoPao, shift := 16 }
  isFixedrate := { word := winfoPao, shift := 20 }
  isPrior := { word := winfoPao, shift := 21 }
  isSp := { word := winfoPao, shift := 22 }
  hf := { word := winfoPao, shift := 23 }
  amsdu := { word := winfoPao, shift := 24 }

structure Ipv6Field where
  ip0 : EntryField 32
  ip1 : EntryField 32
  ip2 : EntryField 32
  ip3 : EntryField 32

def ipv6At (w0 w1 w2 w3 : Fin 32) : Ipv6Field where
  ip0 := { word := w0, shift := 0 }
  ip1 := { word := w1, shift := 0 }
  ip2 := { word := w2, shift := 0 }
  ip3 := { word := w3, shift := 0 }

def Ipv6Field.get (field : Ipv6Field) (entry : FoeEntry) : BitVec 128 :=
  field.ip0.get entry ++ field.ip1.get entry ++ field.ip2.get entry ++ field.ip3.get entry

def Ipv6Field.set (field : Ipv6Field) (addr : BitVec 128) (entry : FoeEntry) : FoeEntry :=
  field.ip3.set (addr.extractLsb' 0 32) (field.ip2.set (addr.extractLsb' 32 32)
    (field.ip1.set (addr.extractLsb' 64 32) (field.ip0.set (addr.extractLsb' 96 32) entry)))

section

variable {width : Nat} (field : Ipv6Field)

def Ipv6Field.Apart (other : EntryField width) : Prop :=
  field.ip0.Apart other ∧ field.ip1.Apart other ∧ field.ip2.Apart other ∧ field.ip3.Apart other

instance (other : EntryField width) : Decidable (field.Apart other) :=
  inferInstanceAs (Decidable (_ ∧ _))

def Ipv6Field.Proper : Prop :=
  field.ip1.Apart field.ip0 ∧ field.ip2.Apart field.ip0 ∧ field.ip3.Apart field.ip0 ∧
    field.ip2.Apart field.ip1 ∧ field.ip3.Apart field.ip1 ∧ field.ip3.Apart field.ip2

instance : Decidable field.Proper := inferInstanceAs (Decidable (_ ∧ _))

theorem Ipv6Field.get_set (addr : BitVec 128) (entry : FoeEntry) (proper : field.Proper) :
    field.get (field.set addr entry) = addr := by
  obtain ⟨h10, h20, h30, h21, h31, h32⟩ := proper
  unfold Ipv6Field.get Ipv6Field.set
  simp only [Field.get_set, Field.get_set_of_apart _ _ _ _ h10, Field.get_set_of_apart _ _ _ _ h20,
    Field.get_set_of_apart _ _ _ _ h30, Field.get_set_of_apart _ _ _ _ h21,
    Field.get_set_of_apart _ _ _ _ h31, Field.get_set_of_apart _ _ _ _ h32]
  apply BitVec.eq_of_getLsbD_eq
  intro i inAddr
  simp only [BitVec.getLsbD_append, BitVec.getLsbD_extractLsb']
  grind

theorem Ipv6Field.extract_get (entry : FoeEntry) :
    (field.get entry).extractLsb' 96 32 = field.ip0.get entry ∧
      (field.get entry).extractLsb' 64 32 = field.ip1.get entry ∧
      (field.get entry).extractLsb' 32 32 = field.ip2.get entry ∧
      (field.get entry).extractLsb' 0 32 = field.ip3.get entry := by
  unfold Ipv6Field.get
  refine ⟨?_, ?_, ?_, ?_⟩ <;>
  · apply BitVec.eq_of_getLsbD_eq
    intro i inWord
    simp only [BitVec.getLsbD_append, BitVec.getLsbD_extractLsb', inWord, decide_true,
      Bool.true_and]
    grind

theorem Ipv6Field.field_get_set (read : EntryField width) (addr : BitVec 128) (entry : FoeEntry)
    (apart : field.Apart read) : read.get (field.set addr entry) = read.get entry := by
  obtain ⟨h0, h1, h2, h3⟩ := apart
  unfold Ipv6Field.set
  rw [Field.get_set_of_apart _ _ _ _ h3, Field.get_set_of_apart _ _ _ _ h2,
    Field.get_set_of_apart _ _ _ _ h1, Field.get_set_of_apart _ _ _ _ h0]

theorem Ipv6Field.get_field_set (written : EntryField width) (value : BitVec width)
    (entry : FoeEntry) (apart : written.Apart field.ip0 ∧ written.Apart field.ip1 ∧
      written.Apart field.ip2 ∧ written.Apart field.ip3) :
    field.get (written.set value entry) = field.get entry := by
  obtain ⟨h0, h1, h2, h3⟩ := apart
  unfold Ipv6Field.get
  rw [Field.get_set_of_apart _ _ _ _ h0, Field.get_set_of_apart _ _ _ _ h1,
    Field.get_set_of_apart _ _ _ _ h2, Field.get_set_of_apart _ _ _ _ h3]

theorem Ipv6Field.get_field_setIf (condition : Bool) (written : EntryField width)
    (value : BitVec width) (entry : FoeEntry)
    (apart : written.Apart field.ip0 ∧ written.Apart field.ip1 ∧ written.Apart field.ip2 ∧
      written.Apart field.ip3) :
    field.get (written.setIf condition value entry) = field.get entry := by
  unfold Field.setIf
  split
  · exact field.get_field_set written value entry apart
  · rfl

theorem Ipv6Field.get_set_of_apart (other : Ipv6Field) (addr : BitVec 128) (entry : FoeEntry)
    (apart : field.Apart other.ip0 ∧ field.Apart other.ip1 ∧ field.Apart other.ip2 ∧
      field.Apart other.ip3) : other.get (field.set addr entry) = other.get entry := by
  obtain ⟨h0, h1, h2, h3⟩ := apart
  unfold Ipv6Field.get
  rw [field.field_get_set _ _ _ h0, field.field_get_set _ _ _ h1, field.field_get_set _ _ _ h2,
    field.field_get_set _ _ _ h3]

end

namespace L2Bridge
def dmacHi : EntryField 32 := { word := 1, shift := 0 }
def smacLo : EntryField 16 := { word := 2, shift := 0 }
def dmacLo : EntryField 16 := { word := 2, shift := 16 }
def smacHi : EntryField 32 := { word := 3, shift := 0 }
def etype : EntryField 16 := { word := 4, shift := 0 }
def hph : EntryField 16 := { word := 4, shift := 16 }
def vlan1 : EntryField 16 := { word := 5, shift := 0 }
def vlan2 : EntryField 16 := { word := 5, shift := 16 }
def iblk2 : Iblk2 := iblk2At 8
def actDp : EntryField 8 := { word := 10, shift := 24 }
def newVlan1 : EntryField 16 := { word := 11, shift := 0 }
def spTag : EntryField 16 := { word := 11, shift := 16 }
def newDmacHi : EntryField 32 := { word := 12, shift := 0 }
def newVlan2 : EntryField 16 := { word := 13, shift := 0 }
def newDmacLo : EntryField 16 := { word := 13, shift := 16 }
def newSmacHi : EntryField 32 := { word := 14, shift := 0 }
def newSmacLo : EntryField 16 := { word := 15, shift := 16 }
def winfo : WinfoBlock := winfoAt 17 18
end L2Bridge

namespace Ipv4Hnapt
def sip : EntryField 32 := { word := 1, shift := 0 }
def dip : EntryField 32 := { word := 2, shift := 0 }
def dport : EntryField 16 := { word := 3, shift := 0 }
def sport : EntryField 16 := { word := 3, shift := 16 }
def iblk2 : Iblk2 := iblk2At 4
def newSip : EntryField 32 := { word := 5, shift := 0 }
def newDip : EntryField 32 := { word := 6, shift := 0 }
def newDport : EntryField 16 := { word := 7, shift := 0 }
def newSport : EntryField 16 := { word := 7, shift := 16 }
def mTimestamp : EntryField 16 := { word := 8, shift := 0 }
def egKeepEcn : EntryField 1 := { word := 10, shift := 9 }
def egKeepDscp : EntryField 1 := { word := 10, shift := 10 }
def actDp : EntryField 8 := { word := 10, shift := 24 }
def l2 : L2Block := l2BlockAt 11 12 13 14 15
def winfo : WinfoBlock := winfoAt 17 18
def engine : EngineBlock := engineBlockAt 19
end Ipv4Hnapt

namespace Ipv4Dslite
def sip : EntryField 32 := { word := 1, shift := 0 }
def dip : EntryField 32 := { word := 2, shift := 0 }
def dport : EntryField 16 := { word := 3, shift := 0 }
def sport : EntryField 16 := { word := 3, shift := 16 }
def tunnelSipv6 : Ipv6Field := ipv6At 4 5 6 7
def tunnelDipv6 : Ipv6Field := ipv6At 8 9 10 11
def flowLbl : EntryField 24 := { word := 12, shift := 0 }
def priority : EntryField 8 := { word := 12, shift := 24 }
def hopLimit : EntryField 8 := { word := 13, shift := 0 }
def egKeepEcn : EntryField 1 := { word := 13, shift := 9 }
def egKeepCls : EntryField 1 := { word := 13, shift := 10 }
def actDp : EntryField 8 := { word := 13, shift := 24 }
def iblk2 : Iblk2 := iblk2At 14
def l2 : L2Block := l2BlockAt 15 16 17 18 19
def winfo : WinfoBlock := winfoAt 21 22
def engine : EngineBlock := engineBlockAt 23
end Ipv4Dslite

-- The DS-Lite layout up to `minfo`, then the words of the inner translation.
namespace Ipv4Mape
def newSip : EntryField 32 := { word := 21, shift := 0 }
def newDip : EntryField 32 := { word := 22, shift := 0 }
def newDport : EntryField 16 := { word := 23, shift := 0 }
def newSport : EntryField 16 := { word := 23, shift := 16 }
def iblk2 : Iblk2 := iblk2At 14
def winfo : WinfoBlock := winfoAt 24 25
def engine : EngineBlock := engineBlockAt 26
end Ipv4Mape

-- `struct hnat_ipv6_3t_route` has the same addresses.
namespace Ipv65tRoute
def ipv6Sip : Ipv6Field := ipv6At 1 2 3 4
def ipv6Dip : Ipv6Field := ipv6At 5 6 7 8
def dport : EntryField 16 := { word := 9, shift := 0 }
def sport : EntryField 16 := { word := 9, shift := 16 }
def egKeepEcn : EntryField 1 := { word := 13, shift := 9 }
def egKeepCls : EntryField 1 := { word := 13, shift := 10 }
def actDp : EntryField 8 := { word := 13, shift := 24 }
def iblk2 : Iblk2 := iblk2At 14
def l2 : L2Block := l2BlockAt 15 16 17 18 19
def winfo : WinfoBlock := winfoAt 21 22
def engine : EngineBlock := engineBlockAt 23
end Ipv65tRoute

namespace Ipv66rd
def ipv6Sip : Ipv6Field := ipv6At 1 2 3 4
def ipv6Dip : Ipv6Field := ipv6At 5 6 7 8
def dport : EntryField 16 := { word := 9, shift := 0 }
def sport : EntryField 16 := { word := 9, shift := 16 }
def tunnelSipv4 : EntryField 32 := { word := 10, shift := 0 }
def tunnelDipv4 : EntryField 32 := { word := 11, shift := 0 }
def hdrChksum : EntryField 16 := { word := 12, shift := 0 }
def dscp : EntryField 8 := { word := 12, shift := 16 }
def ttl : EntryField 8 := { word := 12, shift := 24 }
def flag : EntryField 3 := { word := 13, shift := 0 }
def egKeepEcn : EntryField 1 := { word := 13, shift := 9 }
def egKeepCls : EntryField 1 := { word := 13, shift := 10 }
def perFlow6rdId : EntryField 1 := { word := 13, shift := 16 }
def iblk2 : Iblk2 := iblk2At 14
def l2 : L2Block := l2BlockAt 15 16 17 18 19
end Ipv66rd

namespace Ipv6Hnapt
def ipv6Sip : Ipv6Field := ipv6At 1 2 3 4
def ipv6Dip : Ipv6Field := ipv6At 5 6 7 8
def dport : EntryField 16 := { word := 9, shift := 0 }
def sport : EntryField 16 := { word := 9, shift := 16 }
def egIpv6Dir : EntryField 1 := { word := 13, shift := 8 }
def iblk2 : Iblk2 := iblk2At 14
def l2 : L2Block := l2BlockAt 15 16 17 18 19
def newIpv6Ip : Ipv6Field := ipv6At 21 22 23 24
def newDport : EntryField 16 := { word := 25, shift := 0 }
def newSport : EntryField 16 := { word := 25, shift := 16 }
def winfo : WinfoBlock := winfoAt 26 27
def engine : EngineBlock := engineBlockAt 28
end Ipv6Hnapt

def pktTypeOf (entry : FoeEntry) : FoeIpAct := Bfib1.pktType.get entry

def stateOf (entry : FoeEntry) : FoeEntryState := Bfib1.state.get entry

def isIpv4Grp (pktType : FoeIpAct) : Bool :=
  pktType == IPV4_HNAPT || pktType == IPV4_HNAT

def isIpv6Grp (pktType : FoeIpAct) : Bool :=
  pktType == IPV6_3T_ROUTE || pktType == IPV6_5T_ROUTE || pktType == IPV6_6RD ||
    pktType == IPV4_DSLITE || pktType == IPV4_MAP_E || pktType == IPV4_MAP_T ||
    pktType == IPV6_HNAPT || pktType == IPV6_HNAT

/-- `__entry_delete`. -/
def entryInvalidate (timestamp : BitVec 8) (entry : FoeEntry) : FoeEntry :=
  Bfib1.timeStamp.set timestamp (Bfib1.state.set INVALID entry)

/-- `hnat_foe_entry_commit`: what the table holds after it. -/
def hnatFoeEntryCommit (timestamp : BitVec 8) (entry : FoeEntry) (state : FoeEntryState) :
    FoeEntry :=
  Bfib1.state.set state (Bfib1.timeStamp.set timestamp entry)

end OpenwrtSource.Hnat.Foe
