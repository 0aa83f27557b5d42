import OpenwrtSource.Hnat.Foe

/-!
# Multicast groups and the hardware multicast table

The data of `hnat_mcast.c`: the groups learnt from the bridge, the slots of the
multicast table of each PPE, the egress bitmap of a member list, and the writes
that make a FOE entry a multicast or a single-port entry.  An index of the
source that holds `INVLD_IDX` (-1) is `none`.
-/

namespace OpenwrtSource.Hnat.McastTable

open Hnat.Foe

abbrev Mac := BitVec 48

def dmacToHi16 (mac : Mac) : BitVec 16 := mac.extractLsb' 32 16

def dmacToLo32 (mac : Mac) : BitVec 32 := mac.extractLsb' 0 32

def isMulticastEtherAddr (mac : Mac) : Bool := mac.getLsbD 40

/-- `struct hnat_mcast_group_ip`; addresses are in host order. -/
inductive GroupIp where
  | ipv4 (ip : BitVec 32)
  | ipv6 (ip : BitVec 128)
  deriving DecidableEq

def hnatMcastGetMacFromMdb : GroupIp → Mac
  | .ipv4 ip => (0x01005e#24 ++ 0#1) ++ ip.extractLsb' 0 23
  | .ipv6 ip => 0x3333#16 ++ ip.extractLsb' 0 32

/-- Only the five bits of `enum ppe_mcast_port` are ever set in a `pse_bmp`. -/
abbrev PseBmp := BitVec 5

def MCAST_TO_GDMA3 : PseBmp := 1 <<< 0
def MCAST_TO_PDMA : PseBmp := 1 <<< 1
def MCAST_TO_GDMA1 : PseBmp := 1 <<< 2
def MCAST_TO_GDMA2 : PseBmp := 1 <<< 3
def MCAST_TO_TDMA : PseBmp := 1 <<< 4

def hweight32 (bmp : PseBmp) : Nat :=
  ((List.range 5).filter bmp.getLsbD).length

def bmpIsSinglePort (bmp : PseBmp) : Bool := hweight32 bmp == 1

def bmpHas (bmp port : PseBmp) : Bool := bmp &&& port != 0

/-- `struct ppe_mcast_h` and `struct ppe_mcast_l` of one slot, with the fields
the driver writes. -/
structure McastSlot where
  mcPxEn : PseBmp
  mcMpreSel : BitVec 2
  addr : BitVec 32
  deriving DecidableEq

def McastSlot.empty : McastSlot := ⟨0, 0, 0⟩

/-- The slots of one PPE by index.  The registers of the slots below `0x10` and
of the others are in two banks that do not overlap. -/
abbrev SlotTable := Nat → Nat → McastSlot

def SlotTable.write (slots : SlotTable) (ppe index : Nat) (slot : McastSlot) : SlotTable :=
  fun p i => if p = ppe ∧ i = index then slot else slots p i

/-- A MAC outside the two multicast prefixes is refused before any write. -/
def setHnatMtbl (mac : Mac) (index ppe : Nat) (pseBmp : PseBmp) (slots : SlotTable) : SlotTable :=
  if dmacToHi16 mac = 0x0100 then slots.write ppe index ⟨pseBmp, 0, dmacToLo32 mac⟩
  else if dmacToHi16 mac = 0x3333 then slots.write ppe index ⟨pseBmp, 1, dmacToLo32 mac⟩
  else slots

def clrHnatMtbl (ppe index : Nat) (slots : SlotTable) : SlotTable :=
  slots.write ppe index McastSlot.empty

def hnatMcastAllocMtblEntry (maxEntry : Nat) (slots : Nat → McastSlot) : Option Nat :=
  (List.range maxEntry).find? fun idx => slots idx == McastSlot.empty

/-- `struct ppe_mcast_group`. -/
structure Group where
  mac : Mac
  members : List Nat
  mtblIdx : Option Nat
  ppeId : Option Nat
  foeIdx : Option Nat
  psebmp : PseBmp
  ip : GroupIp
  sip : BitVec 32
  sip6 : BitVec 128
  offload : Bool
  npuGrpIdx : BitVec 32

def INVLD_IDX : BitVec 32 := -1

def hnatMcastCreateGroup (dmac : Mac) (ip : GroupIp) : Group where
  mac := dmac
  members := []
  mtblIdx := none
  ppeId := none
  foeIdx := none
  psebmp := 0
  ip := ip
  sip := 0
  sip6 := 0
  offload := true
  npuGrpIdx := INVLD_IDX

def Group.unbind (group : Group) : Group := { group with ppeId := none, foeIdx := none }

def hnatMcastGroupDelStation (group : Group) (ifindex : Nat) : Group :=
  { group with members := group.members.erase ifindex }

def hnatMcastGroupAddStation (group : Group) (ifindex : Nat) : Group :=
  { group with members := group.members ++ [ifindex] }

structure NetDev where
  running : Bool
  isDsaLan : Bool
  /-- The `reg` property of the device node of a DSA port. -/
  reg : Option Nat
  isWhnat : Bool
  isLanGrp : Bool
  isWan : Bool
  /-- `HNAT_GMAC_FP` of the id of its MAC. -/
  gmacFp : PsePort

abbrev DevTable := Nat → Option NetDev

structure Egress where
  pseBmp : PseBmp
  stag : BitVec 32

def hnatMcastSetGmacBit (dev : NetDev) (egress : Egress) : Egress :=
  if dev.gmacFp = NR_GMAC1_PORT then { egress with pseBmp := egress.pseBmp ||| MCAST_TO_GDMA1 }
  else if dev.gmacFp = NR_GMAC2_PORT then
    { egress with pseBmp := egress.pseBmp ||| MCAST_TO_GDMA2 }
  else if dev.gmacFp = NR_GMAC3_PORT then
    { egress with pseBmp := egress.pseBmp ||| MCAST_TO_GDMA3 }
  else egress

def hnatMcastHandleDsa (dev : NetDev) (egress : Egress) : Egress :=
  match dev.reg with
  | none => egress
  | some portIndex => ⟨egress.pseBmp ||| MCAST_TO_GDMA1, egress.stag ||| 1 <<< portIndex⟩

def devEgress (dev : NetDev) (egress : Egress) : Egress :=
  if dev.isDsaLan then hnatMcastHandleDsa dev egress
  else if dev.isWhnat then { egress with pseBmp := egress.pseBmp ||| MCAST_TO_TDMA }
  else if dev.isLanGrp || dev.isWan then hnatMcastSetGmacBit dev egress
  else egress

def hnatMcastGetSingleDevPseBit (devs : DevTable) (ifindex : Nat) : PseBmp :=
  match devs ifindex with
  | none => 0
  | some dev => (devEgress dev ⟨0, 0⟩).pseBmp

/-- One round of the loop of `hnat_mcast_get_pse_tx_bmp`. -/
def memberEgress (devs : DevTable) (egress : Egress) (ifindex : Nat) : Egress :=
  match devs ifindex with
  | none => egress
  | some dev => if dev.running then devEgress dev egress else egress

def hnatMcastGetPseTxBmp (devs : DevTable) (members : List Nat) : Egress :=
  members.foldl (memberEgress devs) ⟨0, 0⟩

def hnatMcastGetDsaPort (devs : DevTable) (ifindex : Nat) : Option Nat :=
  match devs ifindex with
  | none => none
  | some dev => if dev.isDsaLan then dev.reg else none

def HNAT_NPU_ENTRY_MC : BitVec 6 := 30

/-- The writes of `hnat_mcast_foe_mc_enable` in the layout of one family. -/
def mcEnableIn (iblk2 : Iblk2) (engine : EngineBlock) (toNpu : Bool) (entry : FoeEntry) :
    FoeEntry :=
  let entry := engine.tportId.set 0 entry
  let entry := if toNpu then engine.topsEntry.set HNAT_NPU_ENTRY_MC entry else entry
  iblk2.dp.set 0 (iblk2.mcast.set 1 entry)

def hnatMcastFoeMcEnable (toNpu : Bool) (entry : FoeEntry) : FoeEntry :=
  let written :=
    if isIpv4Grp (pktTypeOf entry) then
      mcEnableIn Ipv4Hnapt.iblk2 Ipv4Hnapt.engine toNpu entry
    else if isIpv6Grp (pktTypeOf entry) then
      mcEnableIn Ipv65tRoute.iblk2 Ipv65tRoute.engine toNpu entry
    else entry
  Bfib1.vpm.set 0 (Bfib1.vlanLayer.set 0 written)

def hnatMcastFoeStagUpdate (stag : BitVec 8) (foe : FoeEntry) : FoeEntry :=
  let written :=
    if isIpv4Grp (pktTypeOf foe) then Ipv4Hnapt.l2.spTag.set (stag.setWidth 16) foe
    else if isIpv6Grp (pktTypeOf foe) then Ipv65tRoute.l2.spTag.set (stag.setWidth 16) foe
    else foe
  Bfib1.vlanLayer.set 1 written

def ffsPort (pseBmp : PseBmp) : Option PsePort :=
  match (List.range 5).find? pseBmp.getLsbD with
  | some 0 => some NR_GMAC3_PORT
  | some 2 => some NR_GMAC1_PORT
  | some 3 => some NR_GMAC2_PORT
  | some 4 => some NR_TDMA_PORT
  | _ => none

/-- The writes of `hnat_mcast_foe_mc_disable` in the layout of one family. -/
def mcDisableIn (iblk2 : Iblk2) (engine : EngineBlock) (dp : PsePort) (entry : FoeEntry) :
    FoeEntry :=
  let entry := engine.tportId.set 0 (iblk2.mcast.set 0 (iblk2.dp.set dp entry))
  engine.topsEntry.set (if dp = NR_TDMA_PORT then 30 else 0) entry

def hnatMcastFoeMcDisable (pseBmp : PseBmp) (foe : FoeEntry) : FoeEntry :=
  match ffsPort pseBmp with
  | none => foe
  | some dp =>
    let written :=
      if isIpv4Grp (pktTypeOf foe) then mcDisableIn Ipv4Hnapt.iblk2 Ipv4Hnapt.engine dp foe
      else if isIpv6Grp (pktTypeOf foe) then
        mcDisableIn Ipv65tRoute.iblk2 Ipv65tRoute.engine dp foe
      else foe
    Bfib1.vlanLayer.set (if dp = NR_GMAC1_PORT then 1 else 0) (Bfib1.vpm.set 0 written)

/-- The destination address of a multicast flow, in the layout of its family. -/
def foeGroupIp (entry : FoeEntry) : Option GroupIp :=
  if isIpv4Grp (pktTypeOf entry) then some (.ipv4 (Ipv4Hnapt.dip.get entry))
  else if isIpv6Grp (pktTypeOf entry) then some (.ipv6 (Ipv65tRoute.ipv6Dip.get entry))
  else none

@[simp] theorem SlotTable.write_same (slots : SlotTable) (ppe index : Nat) (slot : McastSlot) :
    slots.write ppe index slot ppe index = slot := by
  simp [SlotTable.write]

theorem SlotTable.write_other (slots : SlotTable) {ppe index p i : Nat} (slot : McastSlot)
    (other : ¬ (p = ppe ∧ i = index)) : slots.write ppe index slot p i = slots p i := by
  simp [SlotTable.write, other]

theorem setHnatMtbl_other (mac : Mac) (pseBmp : PseBmp) (slots : SlotTable) {ppe index p i : Nat}
    (other : ¬ (p = ppe ∧ i = index)) : setHnatMtbl mac index ppe pseBmp slots p i = slots p i := by
  unfold setHnatMtbl
  split
  · exact slots.write_other _ other
  · split
    · exact slots.write_other _ other
    · rfl

theorem hnatMcastAllocMtblEntry_some {maxEntry : Nat} {slots : Nat → McastSlot} {idx : Nat}
    (found : hnatMcastAllocMtblEntry maxEntry slots = some idx) :
    idx < maxEntry ∧ slots idx = McastSlot.empty := by
  have passed := List.find?_some found
  have member := List.mem_of_find?_eq_some found
  exact ⟨List.mem_range.mp member, by simpa using passed⟩

theorem dmacToHi16_ipv4 (ip : BitVec 32) :
    dmacToHi16 (hnatMcastGetMacFromMdb (.ipv4 ip)) = 0x0100 := by
  simp only [dmacToHi16, hnatMcastGetMacFromMdb]
  rw [BitVec.extractLsb'_append_eq_of_le (by decide)]
  decide

theorem dmacToHi16_ipv6 (ip : BitVec 128) :
    dmacToHi16 (hnatMcastGetMacFromMdb (.ipv6 ip)) = 0x3333 := by
  simp only [dmacToHi16, hnatMcastGetMacFromMdb]
  rw [BitVec.extractLsb'_append_eq_of_le (by decide)]
  decide

theorem dmacToLo32_ipv4_ne_zero (ip : BitVec 32) :
    dmacToLo32 (hnatMcastGetMacFromMdb (.ipv4 ip)) ≠ 0 := by
  intro zero
  -- bit 25 is a bit of the byte `5e`
  have bit := congrArg (fun word => word.getLsbD 25) zero
  simp only [dmacToLo32, hnatMcastGetMacFromMdb, BitVec.getLsbD_extractLsb'] at bit
  rw [BitVec.getLsbD_append, if_neg (by decide)] at bit
  exact absurd bit (by decide)

theorem setHnatMtbl_same (ip : GroupIp) (pseBmp : PseBmp) (slots : SlotTable) (ppe index : Nat) :
    setHnatMtbl (hnatMcastGetMacFromMdb ip) index ppe pseBmp slots ppe index ≠ McastSlot.empty := by
  cases ip with
  | ipv4 ip =>
    rw [setHnatMtbl, if_pos (dmacToHi16_ipv4 ip), SlotTable.write_same]
    intro same
    exact dmacToLo32_ipv4_ne_zero ip (congrArg McastSlot.addr same)
  | ipv6 ip =>
    rw [setHnatMtbl, if_neg (by rw [dmacToHi16_ipv6]; decide), if_pos (dmacToHi16_ipv6 ip),
      SlotTable.write_same]
    intro same
    have selector : (1 : BitVec 2) = 0 := congrArg McastSlot.mcMpreSel same
    exact absurd selector (by decide)

end OpenwrtSource.Hnat.McastTable
