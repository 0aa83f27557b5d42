import OpenwrtSource.Hnat.EntryUpdate
import OpenwrtSource.Hnat.BindEntry
import OpenwrtSource.Hnat.BindEffects

/-!
# Teardown of a station and of a port

Three walks delete the entries that send to one MAC address, to one station of
a Wi-Fi engine, and through one port.  Each reads an entry through the layout
that the bind has written it with, except for the entries of bridged packets.
-/

namespace OpenwrtSource.Hnat.StationTeardown

open Hnat.Foe Hnat.McastTable Hnat.McastOffload Hnat.BindPacket Hnat.BindEntry Hnat.EntryUpdate
open Hnat.EntryDelete Hnat.HookTx

def entryDeleteByMac (plat : Platform) (foeTimestamp : Nat → Nat → BitVec 8) (mac : Mac)
    (table : FoeTable) : FoeTable :=
  deleteBound plat DEF_ETRY_NUM foeTimestamp (entryMacCmp · mac ENTRY_CMP_ANY) table

def mtkGetWdmaRxPort (wdmaIdx : BitVec 32) : Option Nat :=
  if wdmaIdx = 2 then some NR_WDMA2_PORT
  else if wdmaIdx = 1 then some NR_WDMA1_PORT
  else if wdmaIdx = 0 then some NR_WDMA0_PORT
  else none

def stationCmp (winfo : WinfoBlock) (iblk2 : Iblk2) (port : Nat) (bssid wcid : BitVec 16)
    (entry : FoeEntry) : Bool :=
  (winfo.bssid.get entry).setWidth 16 == bssid && winfo.wcid.get entry == wcid &&
    (iblk2.dp.get entry).toNat == port

/-- The comparison of `entry_delete_by_bssid_wcid`. -/
def entryStationCmp (port : Nat) (bssid wcid : BitVec 16) (entry : FoeEntry) : Bool :=
  let pktType := pktTypeOf entry
  if isIpv4Grp pktType then stationCmp Ipv4Hnapt.winfo Ipv4Hnapt.iblk2 port bssid wcid entry
  else if pktType = IPV4_MAP_E ∨ pktType = IPV4_MAP_T then
    stationCmp Ipv4Mape.winfo Ipv4Mape.iblk2 port bssid wcid entry
  else if pktType = IPV6_HNAPT ∨ pktType = IPV6_HNAT then
    stationCmp Ipv6Hnapt.winfo Ipv6Hnapt.iblk2 port bssid wcid entry
  else stationCmp Ipv65tRoute.winfo Ipv65tRoute.iblk2 port bssid wcid entry

def entryDeleteByBssidWcid (plat : Platform) (foeTimestamp : Nat → Nat → BitVec 8)
    (wdmaIdx : BitVec 32) (bssid wcid : BitVec 16) (table : FoeTable) : FoeTable :=
  match mtkGetWdmaRxPort wdmaIdx with
  | none => table
  | some port => deleteBound plat DEF_ETRY_NUM foeTimestamp (entryStationCmp port bssid wcid) table

def DsaPort.dsaTag (dp : DsaPort) : BitVec 32 :=
  if dp.tagProto8021q then BitVec.ofNat 32 dp.index ||| 0xc00 else 1 <<< dp.index

/-- The comparison of `foe_clear_ethdev_bind_entries`. -/
def entryPortCmp (gmac : PsePort) (dsaPort : Option DsaPort) (entry : FoeEntry) : Bool :=
  let ipv4 := isIpv4Grp (pktTypeOf entry)
  let iblk2 := if ipv4 then Ipv4Hnapt.iblk2 else Ipv65tRoute.iblk2
  let l2 := if ipv4 then Ipv4Hnapt.l2 else Ipv65tRoute.l2
  iblk2.dp.get entry == gmac &&
    match dsaPort with
    | none => true
    | some dp =>
      if dp.tagProto8021q then (l2.vlan1.get entry).setWidth 32 == DsaPort.dsaTag dp
      else (l2.spTag.get entry).setWidth 32 &&& DsaPort.dsaTag dp != 0

def foeClearEthdevBindEntries (cfg : HnatConfig) (plat : Platform)
    (foeTimestamp : Nat → Nat → BitVec 8) (dev : EgressDev) (table : FoeTable) : FoeTable :=
  match hnatGmacFp cfg dev.macId with
  | none => table
  | some gmac =>
    deleteBound plat plat.foeEtryNum foeTimestamp (entryPortCmp gmac dev.dsaPort) table

structure MacField where
  hi : EntryField 32
  lo : EntryField 16

def MacField.get (field : MacField) (entry : FoeEntry) : Mac :=
  field.hi.get entry ++ field.lo.get entry

def dmacOf (pktType : FoeIpAct) : MacField :=
  if pktType = L2_BRIDGE then ⟨L2Bridge.newDmacHi, L2Bridge.newDmacLo⟩
  else if isIpv4Grp pktType then ⟨Ipv4Hnapt.l2.dmacHi, Ipv4Hnapt.l2.dmacLo⟩
  else ⟨Ipv65tRoute.l2.dmacHi, Ipv65tRoute.l2.dmacLo⟩

def smacOf (pktType : FoeIpAct) : MacField :=
  if pktType = L2_BRIDGE then ⟨L2Bridge.newSmacHi, L2Bridge.newSmacLo⟩
  else if isIpv4Grp pktType then ⟨Ipv4Hnapt.l2.smacHi, Ipv4Hnapt.l2.smacLo⟩
  else ⟨Ipv65tRoute.l2.smacHi, Ipv65tRoute.l2.smacLo⟩

def egressDmac (entry : FoeEntry) : Mac := (dmacOf (pktTypeOf entry)).get entry

def egressSmac (entry : FoeEntry) : Mac := (smacOf (pktTypeOf entry)).get entry

def egressPort (entry : FoeEntry) : PsePort := (iblk2Of (pktTypeOf entry)).dp.get entry

def egressTags (entry : FoeEntry) : BitVec 16 × BitVec 16 :=
  if pktTypeOf entry = L2_BRIDGE then (L2Bridge.newVlan1.get entry, L2Bridge.spTag.get entry)
  else if isIpv4Grp (pktTypeOf entry) then
    (Ipv4Hnapt.l2.vlan1.get entry, Ipv4Hnapt.l2.spTag.get entry)
  else (Ipv65tRoute.l2.vlan1.get entry, Ipv65tRoute.l2.spTag.get entry)

structure Station where
  port : PsePort
  bssid : BitVec 8
  wcid : BitVec 16
  deriving DecidableEq

def egressStation (entry : FoeEntry) : Station :=
  ⟨egressPort entry, (winfoOf (pktTypeOf entry)).bssid.get entry,
    (winfoOf (pktTypeOf entry)).wcid.get entry⟩

def stationOf (wdmaIdx : BitVec 32) (bssid wcid : BitVec 16) : Option Station :=
  match mtkGetWdmaRxPort wdmaIdx with
  | none => none
  | some port =>
    if bssid.toNat < 256 then some ⟨BitVec.ofNat 4 port, bssid.setWidth 8, wcid⟩ else none

/-- The packets of the entry leave with the tag of the port. -/
def Tagged (dp : DsaPort) (entry : FoeEntry) : Prop :=
  if dp.tagProto8021q then (egressTags entry).1.setWidth 32 = DsaPort.dsaTag dp
  else (egressTags entry).2.setWidth 32 &&& DsaPort.dsaTag dp ≠ 0

def SendsThrough (cfg : HnatConfig) (dev : EgressDev) (entry : FoeEntry) : Prop :=
  hnatGmacFp cfg dev.macId = some (egressPort entry) ∧ ∀ dp ∈ dev.dsaPort, Tagged dp entry

theorem MacField.get_eq_iff (field : MacField) (entry : FoeEntry) (mac : Mac) :
    field.get entry = mac ↔
      field.hi.get entry = mac.extractLsb' 16 32 ∧ field.lo.get entry = mac.extractLsb' 0 16 := by
  unfold MacField.get
  constructor
  · rintro rfl
    constructor
    · apply BitVec.eq_of_getLsbD_eq
      intro i inHi
      simp only [BitVec.getLsbD_extractLsb', BitVec.getLsbD_append]
      grind
    · apply BitVec.eq_of_getLsbD_eq
      intro i inLo
      simp only [BitVec.getLsbD_extractLsb', BitVec.getLsbD_append]
      grind
  · rintro ⟨hi, lo⟩
    rw [hi, lo]
    apply BitVec.eq_of_getLsbD_eq
    intro i inMac
    simp only [BitVec.getLsbD_extractLsb', BitVec.getLsbD_append]
    grind

section

variable {entry : FoeEntry}

theorem entryMacCmp_iff (routed : pktTypeOf entry ≠ L2_BRIDGE) (mac : Mac) :
    entryMacCmp entry mac ENTRY_CMP_ANY = true ↔
      egressDmac entry = mac ∨ egressSmac entry = mac := by
  have src : (ENTRY_CMP_ANY &&& ENTRY_CMP_SRC != 0) = true := by decide
  have dst : (ENTRY_CMP_ANY &&& ENTRY_CMP_DST != 0) = true := by decide
  unfold egressDmac egressSmac dmacOf smacOf entryMacCmp macCmpL2
  rw [if_neg routed, if_neg routed, MacField.get_eq_iff, MacField.get_eq_iff]
  simp only [src, dst, Bool.true_and, Bool.or_eq_true, Bool.and_eq_true, beq_iff_eq]
  cases isIpv4Grp (pktTypeOf entry) with
  | true => exact or_comm
  | false => exact or_comm

theorem stationCmp_iff (winfo : WinfoBlock) (iblk2 : Iblk2) (port : Nat) (inWord : port < 16)
    (bssid wcid : BitVec 16) :
    stationCmp winfo iblk2 port bssid wcid entry = true ↔
      bssid.toNat < 256 ∧ (⟨iblk2.dp.get entry, winfo.bssid.get entry, winfo.wcid.get entry⟩ :
        Station) = ⟨BitVec.ofNat 4 port, bssid.setWidth 8, wcid⟩ := by
  have inBssid := (winfo.bssid.get entry).isLt
  have inPort := (iblk2.dp.get entry).isLt
  unfold stationCmp
  simp only [Bool.and_eq_true, beq_iff_eq, Station.mk.injEq, ← BitVec.toNat_inj,
    BitVec.toNat_setWidth, BitVec.toNat_ofNat]
  omega

theorem entryStationCmp_iff (routed : pktTypeOf entry ≠ L2_BRIDGE) {port : Nat}
    (inWord : port < 16) (bssid wcid : BitVec 16) :
    entryStationCmp port bssid wcid entry = true ↔
      bssid.toNat < 256 ∧
        egressStation entry = ⟨BitVec.ofNat 4 port, bssid.setWidth 8, wcid⟩ := by
  unfold entryStationCmp egressStation egressPort iblk2Of winfoOf
  dsimp only
  cases ipv4 : isIpv4Grp (pktTypeOf entry) with
  | true => simp only [if_true, stationCmp_iff _ _ _ inWord]
  | false =>
    simp only [Bool.false_eq_true, if_false, routed]
    by_cases mape : pktTypeOf entry = IPV4_MAP_E ∨ pktTypeOf entry = IPV4_MAP_T
    · have notHnapt : ¬ (pktTypeOf entry = IPV6_HNAPT ∨ pktTypeOf entry = IPV6_HNAT) := by
        obtain type | type := mape <;> simp [type] <;> decide
      simp only [mape, notHnapt, if_true, if_false, stationCmp_iff _ _ _ inWord]
      rfl
    · simp only [mape, if_false]
      split
      · simp only [stationCmp_iff _ _ _ inWord]
        rfl
      · simp only [stationCmp_iff _ _ _ inWord]

theorem entryPortCmp_iff (routed : pktTypeOf entry ≠ L2_BRIDGE) (gmac : PsePort)
    (dsaPort : Option DsaPort) :
    entryPortCmp gmac dsaPort entry = true ↔
      egressPort entry = gmac ∧ ∀ dp ∈ dsaPort, Tagged dp entry := by
  unfold entryPortCmp Tagged egressTags egressPort iblk2Of
  rw [if_neg routed, if_neg routed]
  cases isIpv4Grp (pktTypeOf entry) with
  | true =>
    cases dsaPort with
    | none => simp
    | some dp => cases h : dp.tagProto8021q <;> simp [h]
  | false =>
    cases dsaPort with
    | none => simp
    | some dp => cases h : dp.tagProto8021q <;> simp [h]

end

/-- The entry is invalidated if it was bound and is meant, and left alone otherwise. -/
def ClearedIf (meant : Prop) (before after : FoeEntry) : Prop :=
  (stateOf before = BIND ∧ meant → stateOf after = INVALID) ∧
    (¬ (stateOf before = BIND ∧ meant) → after = before)

theorem clearedIf_deleteBound (plat : Platform) {count : Nat} (foeTimestamp : Nat → Nat → BitVec 8)
    {picked : FoeEntry → Bool} (table : FoeTable) {ppe hash : Nat} (inPpe : ppe < plat.ppeNum)
    (inTable : hash < count) {meant : Prop} (exact : picked (table ppe hash) = true ↔ meant) :
    ClearedIf meant (table ppe hash)
      (deleteBound plat count foeTimestamp picked table ppe hash) := by
  unfold deleteBound
  constructor
  · rintro ⟨bound, isMeant⟩
    rw [if_pos ⟨inPpe, inTable, bound, exact.mpr isMeant⟩, stateOf_entryInvalidate]
  · intro spared
    rw [if_neg]
    rintro ⟨-, -, bound, isPicked⟩
    exact spared ⟨bound, exact.mp isPicked⟩

theorem clearedIf_refl {meant : Prop} (never : ¬ meant) (entry : FoeEntry) :
    ClearedIf meant entry entry :=
  ⟨fun doomed => absurd doomed.2 never, fun _ => rfl⟩

section

variable (cfg : HnatConfig) (plat : Platform) (foeTimestamp : Nat → Nat → BitVec 8)
  (table : FoeTable) {ppe hash : Nat}

theorem entryDeleteByMac_clears (mac : Mac) (inPpe : ppe < plat.ppeNum)
    (inTable : hash < DEF_ETRY_NUM) (routed : pktTypeOf (table ppe hash) ≠ L2_BRIDGE) :
    ClearedIf (egressDmac (table ppe hash) = mac ∨ egressSmac (table ppe hash) = mac)
      (table ppe hash) (entryDeleteByMac plat foeTimestamp mac table ppe hash) :=
  clearedIf_deleteBound plat foeTimestamp table inPpe inTable (entryMacCmp_iff routed mac)

theorem mtkGetWdmaRxPort_lt {wdmaIdx : BitVec 32} {port : Nat}
    (known : mtkGetWdmaRxPort wdmaIdx = some port) : port < 16 := by
  unfold mtkGetWdmaRxPort NR_WDMA0_PORT NR_WDMA1_PORT NR_WDMA2_PORT at known
  grind

theorem entryDeleteByBssidWcid_clears (wdmaIdx : BitVec 32) (bssid wcid : BitVec 16)
    (inPpe : ppe < plat.ppeNum) (inTable : hash < DEF_ETRY_NUM)
    (routed : pktTypeOf (table ppe hash) ≠ L2_BRIDGE) :
    ClearedIf (stationOf wdmaIdx bssid wcid = some (egressStation (table ppe hash)))
      (table ppe hash) (entryDeleteByBssidWcid plat foeTimestamp wdmaIdx bssid wcid table ppe
        hash) := by
  unfold entryDeleteByBssidWcid stationOf
  cases known : mtkGetWdmaRxPort wdmaIdx with
  | none => exact clearedIf_refl (by simp) _
  | some port =>
    refine clearedIf_deleteBound plat foeTimestamp table inPpe inTable ?_
    rw [entryStationCmp_iff routed (mtkGetWdmaRxPort_lt known)]
    dsimp only
    split
    · rename_i inBssid
      rw [Option.some.injEq]
      exact ⟨fun cmp => cmp.2.symm, fun same => ⟨inBssid, same.symm⟩⟩
    · rename_i notBssid
      exact ⟨fun cmp => absurd cmp.1 notBssid, fun none => by cases none⟩

theorem foeClearEthdevBindEntries_clears (dev : EgressDev) (inPpe : ppe < plat.ppeNum)
    (inTable : hash < plat.foeEtryNum) (routed : pktTypeOf (table ppe hash) ≠ L2_BRIDGE) :
    ClearedIf (SendsThrough cfg dev (table ppe hash)) (table ppe hash)
      (foeClearEthdevBindEntries cfg plat foeTimestamp dev table ppe hash) := by
  unfold foeClearEthdevBindEntries SendsThrough
  cases hnatGmacFp cfg dev.macId with
  | none => exact clearedIf_refl (by simp) _
  | some gmac =>
    refine clearedIf_deleteBound plat foeTimestamp table inPpe inTable ?_
    rw [entryPortCmp_iff routed, Option.some.injEq, eq_comm]

/-- Each call clears the entries that send to what it is given, in every PPE, and
no others. -/
theorem teardown_exact (mac : Mac) (wdmaIdx : BitVec 32) (bssid wcid : BitVec 16)
    (dev : EgressDev) (inPpe : ppe < plat.ppeNum) (inTable : hash < plat.foeEtryNum)
    (sized : plat.foeEtryNum ≤ DEF_ETRY_NUM) (routed : pktTypeOf (table ppe hash) ≠ L2_BRIDGE) :
    ClearedIf (egressDmac (table ppe hash) = mac ∨ egressSmac (table ppe hash) = mac)
        (table ppe hash) (entryDeleteByMac plat foeTimestamp mac table ppe hash) ∧
      ClearedIf (stationOf wdmaIdx bssid wcid = some (egressStation (table ppe hash)))
        (table ppe hash)
        (entryDeleteByBssidWcid plat foeTimestamp wdmaIdx bssid wcid table ppe hash) ∧
      ClearedIf (SendsThrough cfg dev (table ppe hash)) (table ppe hash)
        (foeClearEthdevBindEntries cfg plat foeTimestamp dev table ppe hash) :=
  ⟨entryDeleteByMac_clears plat foeTimestamp table mac inPpe (by omega) routed,
    entryDeleteByBssidWcid_clears plat foeTimestamp table wdmaIdx bssid wcid inPpe (by omega)
      routed,
    foeClearEthdevBindEntries_clears cfg plat foeTimestamp table dev inPpe inTable routed⟩

end

def station : Mac := 0x0a0000000001
def gateway : Mac := 0x0a0000000002

def stationPath : HwPath := ⟨gateway, station, 0, 0, false, false, false, 0, none⟩

def sentEntry (pktType : FoeIpAct) (port : PsePort) : FoeEntry :=
  let entry := ppeFillL2Info stationPath (Bfib1.pktType.set pktType FoeEntry.zero)
  hnatFoeEntryCommit 0 ((iblk2Of pktType).dp.set port entry) BIND

def sentTable (pktType : FoeIpAct) (port : PsePort) : FoeTable := fun _ _ => sentEntry pktType port

def engine : Platform := ⟨1, 16, 16⟩

/-- The entry of another station goes with the source address, a bridged entry of
the station stays, and a station is looked for at one engine only. -/
theorem teardown_not_exact :
    (stateOf (sentEntry IPV4_HNAPT 8) = BIND ∧ egressDmac (sentEntry IPV4_HNAPT 8) ≠ gateway ∧
        stateOf (entryDeleteByMac engine (fun _ _ => 0) gateway (sentTable IPV4_HNAPT 8) 0 0) =
          INVALID) ∧
      (egressDmac (sentEntry L2_BRIDGE 8) = station ∧
        stateOf (entryDeleteByMac engine (fun _ _ => 0) station (sentTable L2_BRIDGE 8) 0 0) =
          BIND) ∧
      (egressStation (sentEntry IPV4_HNAPT 9) = ⟨9, 0, 0⟩ ∧
        stateOf (entryDeleteByBssidWcid engine (fun _ _ => 0) 0 0 0 (sentTable IPV4_HNAPT 9) 0
          0) = BIND) := by
  decide

theorem teardown_exact_gateway :
    ClearedIf (egressDmac (sentEntry IPV4_HNAPT 8) = gateway ∨
        egressSmac (sentEntry IPV4_HNAPT 8) = gateway) (sentEntry IPV4_HNAPT 8)
      (entryDeleteByMac engine (fun _ _ => 0) gateway (sentTable IPV4_HNAPT 8) 0 0) :=
  (teardown_exact ⟨false, false, false, false, 0, false, false, false, false, 3, [], [], []⟩
    engine (fun _ _ => 0) (sentTable IPV4_HNAPT 8) gateway 0 0 0
    ⟨[], 0, false, false, none, none, 0, false, 0⟩ (by decide) (by decide) (by decide)
    (by decide)).1

/-! ## Roaming -/

def NLMSG_HDRLEN : Nat := 16
def RTM_NEWNEIGH : Nat := 28
def PF_BRIDGE : BitVec 8 := 7
def NDA_LLADDR : Nat := 2

/-- `rcv_buf`. -/
abbrev Message := Nat → BitVec 8

def Message.u16 (msg : Message) (i : Nat) : Nat := (msg (i + 1) ++ msg i).toNat

def Message.nlmsgLen (msg : Message) : Nat := msg.u16 0 + 65536 * msg.u16 2

def Message.nlaType (msg : Message) (nla : Nat) : Nat := msg.u16 (nla + 2) % 0x4000

/-- The MAC address at `nla_data`. -/
def Message.mac (msg : Message) (nla : Nat) : Mac :=
  msg (nla + 4) ++ msg (nla + 5) ++ msg (nla + 6) ++ msg (nla + 7) ++ msg (nla + 8) ++ msg (nla + 9)

/-- `NLA_ALIGN` of the length. -/
def Message.nlaSize (msg : Message) (nla : Nat) : Nat := (msg.u16 nla + 3) / 4 * 4

/-- The attributes that the loop of `hnat_roam_handler` visits. -/
def visited (msg : Message) (nla : Nat) (len : Int) : List Nat :=
  if 4 ≤ len ∧ 4 ≤ msg.u16 nla ∧ msg.u16 nla ≤ len then
    nla :: visited msg (nla + msg.nlaSize nla) (len - msg.nlaSize nla)
  else []
termination_by len.toNat
decreasing_by
  unfold Message.nlaSize
  omega

/-- `received` is the result of `kernel_recvmsg`. -/
def roamed (received : Int) (msg : Message) : List Mac :=
  if NLMSG_HDRLEN ≤ received ∧ NLMSG_HDRLEN ≤ msg.nlmsgLen ∧ msg.nlmsgLen ≤ received ∧
      msg.u16 4 = RTM_NEWNEIGH ∧ msg 16 = PF_BRIDGE then
    -- `NLMSG_LENGTH` counts the header that is already taken off
    ((visited msg 28 (msg.nlmsgLen - NLMSG_HDRLEN - 28)).filter
      (msg.nlaType · = NDA_LLADDR)).map msg.mac
  else []

def hnatRoamHandler (plat : Platform) (foeTimestamp : Nat → Nat → BitVec 8) (received : Int)
    (msg : Message) (table : FoeTable) : FoeTable :=
  (roamed received msg).foldl (fun table mac => entryDeleteByMac plat foeTimestamp mac table) table

/-- The attributes from `nla` to the end of the message. -/
def Attributes (msg : Message) (nla : Nat) : List Nat → Prop
  | [] => nla = msg.nlmsgLen
  | attr :: rest => nla = attr ∧ 4 ≤ msg.u16 attr ∧ Attributes msg (nla + msg.nlaSize attr) rest

section

variable {msg : Message} {nla : Nat} {attrs : List Nat}

theorem Attributes.start_le (layout : Attributes msg nla attrs) : nla ≤ msg.nlmsgLen := by
  induction attrs generalizing nla with
  | nil => exact Nat.le_of_eq layout
  | cons attr rest ih => exact Nat.le_of_add_right_le (ih layout.2.2)

theorem Attributes.from_start (layout : Attributes msg nla attrs) : ∀ attr ∈ attrs, nla ≤ attr := by
  induction attrs generalizing nla with
  | nil => intro attr listed; cases listed
  | cons first rest ih =>
    intro attr listed
    rcases List.mem_cons.mp listed with rfl | later
    · exact Nat.le_of_eq layout.1
    · exact Nat.le_of_add_right_le (ih layout.2.2 attr later)

theorem visited_attributes (layout : Attributes msg nla attrs) :
    visited msg nla (msg.nlmsgLen - nla - NLMSG_HDRLEN) =
      attrs.filter fun attr => attr + msg.u16 attr + NLMSG_HDRLEN ≤ msg.nlmsgLen := by
  induction attrs generalizing nla with
  | nil =>
    have atEnd : nla = msg.nlmsgLen := layout
    rw [visited, if_neg (by omega)]
    rfl
  | cons attr rest ih =>
    obtain ⟨rfl, whole, laterLayout⟩ := layout
    have later := ih laterLayout
    rw [visited]
    by_cases inside : nla + msg.u16 nla + NLMSG_HDRLEN ≤ msg.nlmsgLen
    · rw [if_pos (by omega), List.filter_cons_of_pos (by simpa using inside), ← later]
      congr 2
      omega
    · rw [if_neg (by omega), List.filter_cons_of_neg (by simpa using inside)]
      refine (List.filter_eq_nil_iff.mpr fun attr listed => ?_).symm
      have behind := laterLayout.from_start attr listed
      unfold Message.nlaSize at behind
      simp only [decide_eq_true_eq]
      omega

end

theorem foldl_entryDeleteByMac (plat : Platform) (foeTimestamp : Nat → Nat → BitVec 8)
    (macs : List Mac) (table : FoeTable) :
    macs.foldl (fun table mac => entryDeleteByMac plat foeTimestamp mac table) table =
      deleteBound plat DEF_ETRY_NUM foeTimestamp
        (fun entry => macs.any (entryMacCmp entry · ENTRY_CMP_ANY)) table := by
  induction macs generalizing table with
  | nil =>
    funext ppe hash
    simp [deleteBound]
  | cons mac rest ih => rw [List.foldl_cons, ih, entryDeleteByMac, deleteBound_deleteBound]; rfl

/-- Of a whole message the address attributes count that end 16 bytes before it does. -/
theorem hnatRoamHandler_clears (plat : Platform) (foeTimestamp : Nat → Nat → BitVec 8)
    (table : FoeTable) {ppe hash : Nat} {msg : Message} {attrs : List Nat} {received : Int}
    (layout : Attributes msg 28 attrs) (fits : msg.nlmsgLen ≤ received)
    (newNeigh : msg.u16 4 = RTM_NEWNEIGH) (bridge : msg 16 = PF_BRIDGE)
    (inPpe : ppe < plat.ppeNum) (inTable : hash < DEF_ETRY_NUM)
    (routed : pktTypeOf (table ppe hash) ≠ L2_BRIDGE) :
    ClearedIf
      (∃ nla ∈ attrs, msg.nlaType nla = NDA_LLADDR ∧
        nla + msg.u16 nla + NLMSG_HDRLEN ≤ msg.nlmsgLen ∧
        (egressDmac (table ppe hash) = msg.mac nla ∨ egressSmac (table ppe hash) = msg.mac nla))
      (table ppe hash) (hnatRoamHandler plat foeTimestamp received msg table ppe hash) := by
  have start := layout.start_le
  have header : NLMSG_HDRLEN ≤ msg.nlmsgLen := Nat.le_trans (by decide) start
  have walk := visited_attributes layout
  rw [sub_right_comm] at walk
  unfold hnatRoamHandler
  rw [foldl_entryDeleteByMac]
  refine clearedIf_deleteBound plat foeTimestamp table inPpe inTable ?_
  rw [roamed, if_pos ⟨by omega, header, fits, newNeigh, bridge⟩]
  simp only [Nat.cast_ofNat] at walk
  rw [walk]
  simp only [List.any_map, List.any_filter, List.any_eq_true, Function.comp_apply,
    Bool.and_eq_true, decide_eq_true_eq, entryMacCmp_iff routed]
  grind

/-- A station has moved to another port of the bridge. -/
def moved : Message := fun i =>
  ([(0, 68), (4, 28), (16, 7), (28, 10), (30, 2), (32, 10), (37, 1), (40, 8), (42, 9), (48, 20),
    (50, 3)].lookup i).getD 0

theorem hnatRoamHandler_clears_moved :
    stateOf (hnatRoamHandler engine (fun _ _ => 0) 68 moved (sentTable IPV4_HNAPT 8) 0 0) =
      INVALID :=
  (hnatRoamHandler_clears engine (fun _ _ => 0) (sentTable IPV4_HNAPT 8)
    (show Attributes moved 28 [28, 40, 48] from
      ⟨rfl, by decide, rfl, by decide, rfl, by decide, rfl⟩)
    (by decide) (by decide) (by decide) (by decide) (by decide) (by decide)).1
    ⟨by decide, 28, by decide, by decide, by decide, .inl (by decide)⟩

end OpenwrtSource.Hnat.StationTeardown
