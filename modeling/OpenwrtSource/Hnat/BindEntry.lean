import OpenwrtSource.Hnat.BindFill
import OpenwrtSource.Hnat.McastEvents

/-!
# The second half of `skb_to_hnat_info`

The layer 2 block, the info block, the port and the queue of the entry, the ids
of the tunnel and crypto engines, and the commit.  A packet that an engine works
on passes twice: the first pass leaves its entry unbound in the table and the
second one, after the engine, takes it from there.
-/

namespace OpenwrtSource.Hnat.BindEntry

open Hnat.Foe Hnat.McastTable Hnat.McastOffload Hnat.Translation Hnat.BindPacket Hnat.BindFill

def iblk2Of (pktType : FoeIpAct) : Iblk2 :=
  if isIpv4Grp pktType then Ipv4Hnapt.iblk2
  else if pktType = L2_BRIDGE then L2Bridge.iblk2
  else Ipv65tRoute.iblk2

def engineOf (pktType : FoeIpAct) : EngineBlock :=
  if isIpv4Grp pktType then Ipv4Hnapt.engine
  else if pktType = IPV4_MAP_E ∨ pktType = IPV4_MAP_T then Ipv4Mape.engine
  else if pktType = IPV6_HNAPT ∨ pktType = IPV6_HNAT then Ipv6Hnapt.engine
  else Ipv65tRoute.engine

def ethHi (mac : Mac) : BitVec 32 := mac.extractLsb' 16 32

def ethLo (mac : Mac) : BitVec 16 := mac.extractLsb' 0 16

def fillL2Block (l2 : L2Block) (hwPath : HwPath) (entry : FoeEntry) : FoeEntry :=
  let entry := l2.dmacHi.set (ethHi hwPath.ethDest) entry
  let entry := l2.dmacLo.set (ethLo hwPath.ethDest) entry
  let entry := l2.smacHi.set (ethHi hwPath.ethSrc) entry
  let entry := l2.smacLo.set (ethLo hwPath.ethSrc) entry
  l2.pppoeId.set hwPath.pppoeSid entry

def fillL2BridgeMacs (hwPath : HwPath) (entry : FoeEntry) : FoeEntry :=
  let entry := L2Bridge.newDmacHi.set (ethHi hwPath.ethDest) entry
  let entry := L2Bridge.newDmacLo.set (ethLo hwPath.ethDest) entry
  let entry := L2Bridge.newSmacHi.set (ethHi hwPath.ethSrc) entry
  L2Bridge.newSmacLo.set (ethLo hwPath.ethSrc) entry

def ppeFillL2Info (hwPath : HwPath) (entry : FoeEntry) : FoeEntry :=
  if pktTypeOf entry = L2_BRIDGE then fillL2BridgeMacs hwPath entry
  else if isIpv4Grp (pktTypeOf entry) then fillL2Block Ipv4Hnapt.l2 hwPath entry
  else if isIpv6Grp (pktTypeOf entry) ∧ pktTypeOf entry ≠ IPV4_MAP_T then
    fillL2Block Ipv65tRoute.l2 hwPath entry
  else entry

def fillBfib1 (hwPath : HwPath) (entry : FoeEntry) : FoeEntry :=
  let entry := Bfib1.psn.set (boolBit hwPath.pathPppoe) entry
  let entry :=
    Bfib1.vlanLayer.set (Bfib1.vlanLayer.get entry + boolBit hwPath.pathVlan) entry
  let entry := Bfib1.vpm.set 0 entry
  let entry := Bfib1.cah.set 1 entry
  let entry := Bfib1.sta.set 0 entry
  -- TTL should not be decremented in bridge layer forward
  Bfib1.ttl.set (boolBit !hnatIsHwPathBridging hwPath) entry

def fillIblk2 (iblk2 : Iblk2) (spTag : EntryField 16) (mcast : Option (BitVec 1))
    (entry : FoeEntry) : FoeEntry :=
  let entry := iblk2.mcast.setIf mcast.isSome (mcast.getD 0) entry
  let entry := iblk2.portAg.set 0xf entry
  spTag.setIf (Bfib1.vlanLayer.get entry != 0) ETH_P_8021Q entry

def ppeFillInfoBlk (mcastHookToggle : Bool) (hwPath : HwPath) (entry : FoeEntry) : FoeEntry :=
  let mcast := mcastHookToggle && isMulticastEtherAddr hwPath.ethDest
  let unicast : Option (BitVec 1) := if mcast then none else some 0
  let entry := fillBfib1 hwPath entry
  if pktTypeOf entry = L2_BRIDGE then
    fillIblk2 L2Bridge.iblk2 L2Bridge.spTag (some (boolBit mcast)) entry
  else if isIpv4Grp (pktTypeOf entry) then
    fillIblk2 Ipv4Hnapt.iblk2 Ipv4Hnapt.l2.spTag unicast entry
  else if isIpv6Grp (pktTypeOf entry) ∧ pktTypeOf entry ≠ IPV4_MAP_T then
    fillIblk2 Ipv65tRoute.iblk2 Ipv65tRoute.l2.spTag unicast entry
  else entry

/-- The tag as the outer VLAN; the engine has room for two. -/
def fillStag8021q (l2 : L2Block) (portIndex : Nat) (entry : FoeEntry) : Option FoeEntry :=
  if l2.vlan2.get entry ≠ 0 then none
  else
    let entry := l2.vlan2.setIf (l2.vlan1.get entry != 0) (l2.vlan1.get entry) entry
    let entry := l2.vlan1.set (BitVec.ofNat 16 portIndex ||| 0xc00) entry
    let entry :=
      Bfib1.vlanLayer.set
        (boolBit (l2.vlan1.get entry != 0) + boolBit (l2.vlan2.get entry != 0)) entry
    some (l2.spTag.set ETH_P_8021Q entry)

def fillStagMtk (portIndex : Nat) (entry : FoeEntry) : FoeEntry :=
  let port : BitVec 16 := 1 <<< portIndex
  let dsaTag := if Bfib1.vlanLayer.get entry = 0 then port else port ||| 0x100
  let entry := Bfib1.vlanLayer.setIf (Bfib1.vlanLayer.get entry == 0) 1 entry
  let entry :=
    if isIpv4Grp (pktTypeOf entry) then Ipv4Hnapt.l2.spTag.set dsaTag entry
    else if isIpv6Grp (pktTypeOf entry) then Ipv65tRoute.l2.spTag.set dsaTag entry
    else if pktTypeOf entry = L2_BRIDGE then L2Bridge.spTag.set dsaTag entry
    else entry
  -- vpm is changed to is_sp_tag after IS_SP_TAG_EN enabled
  Bfib1.vpm.set 1 entry

def hnatDsaFillStag (cfg : HnatConfig) (dev : EgressDev) (mape : Bool) (entry : FoeEntry) :
    Option FoeEntry :=
  match dev.reg with
  | none => none
  | some portIndex =>
    if dev.isWan cfg && mape then some entry
    else
      match dev.dsaPort with
      | none => none
      | some dp =>
        let entry := Bfib1.vpm.set 0 entry
        if dp.tagProto8021q then
          fillStag8021q (if isIpv4Grp (pktTypeOf entry) then Ipv4Hnapt.l2 else Ipv65tRoute.l2)
            portIndex entry
        else some (fillStagMtk portIndex entry)

def UDF_PINGPONG_IFIDX : BitVec 8 := 0x7f

def setActDp (actDp : EntryField 8) (ifindex : BitVec 32) (entry : FoeEntry) : FoeEntry :=
  actDp.set
    (actDp.get entry &&& ~~~ UDF_PINGPONG_IFIDX ||| ifindex.setWidth 8 &&& UDF_PINGPONG_IFIDX) entry

/-- The entry with its port, and `port_id`, which is no number for a device
outside of DSA. -/
structure Forward where
  entry : FoeEntry
  gmac : PsePort
  portId : Option Nat

def forwardToGmac (cfg : HnatConfig) (dev : EgressDev) (mape : Bool) (entry : FoeEntry) :
    Option Forward :=
  let tagged := if dev.dsaPort.isSome then hnatDsaFillStag cfg dev mape entry else some entry
  let portId := dev.dsaPort.map DsaPort.index
  match tagged with
  | none => none
  | some entry =>
    if dev.isWan cfg && cfg.mapeToggle && mape then
      -- the port is NR_PDMA_PORT, and act_dp the WAN device
      some ⟨setActDp Ipv4Hnapt.actDp dev.ifindex entry, NR_PDMA_PORT, portId⟩
    else (hnatGmacFp cfg dev.macId).map fun gmac => ⟨entry, gmac, portId⟩

/-- To the processor, whose pre-routing hook takes the packet. -/
def forwardToExt (cfg : HnatConfig) (dev : EgressDev) (foe : FoeEntry) (desc : HnatDesc)
    (entry : FoeEntry) : Forward :=
  let gmac1 := !cfg.whnat && cfg.gmac1Mode
  let entry := Bfib1.vpm.setIf gmac1 1 entry
  let entry := Bfib1.vlanLayer.setIf gmac1 1 entry
  let entry := Ipv4Hnapt.l2.vlan1.setIf (gmac1 && desc.fromGeLan) 1 entry
  let entry :=
    Ipv4Hnapt.l2.vlan1.setIf
      (gmac1 && !desc.fromGeLan && (desc.fromGeWan || desc.fromGeVirtual)) 2 entry
  let actDp :=
    if isIpv4Grp (pktTypeOf foe) || pktTypeOf foe == L2_BRIDGE then Ipv4Hnapt.actDp
    else Ipv65tRoute.actDp
  ⟨setActDp actDp dev.ifindex entry, NR_PDMA_PORT, some 0⟩

def forwardEntry (cfg : HnatConfig) (dev : EgressDev) (foe : FoeEntry) (desc : HnatDesc)
    (mape : Bool) (entry : FoeEntry) : Option Forward :=
  if dev.isLanGrp cfg || dev.isWan cfg then forwardToGmac cfg dev mape entry
  else if dev.extIf && (desc.fromGePpd || desc.fromGeLanGrp || desc.fromGeWan ||
      desc.fromGeVirtual || desc.fromWed) then
    some (forwardToExt cfg dev foe desc entry)
  else none

def isTcpAck (skb : Skb) (hProto : BitVec 16) : Bool :=
  if hProto = ETH_P_IP then
    skb.iph.protocol == IPPROTO_TCP &&
      skb.iph.totLen.setWidth 32 - (skb.iph.ihl.setWidth 32 <<< 2) - skb.tcpHdrlen == 0
  else if hProto = ETH_P_IPV6 then
    skb.ip6h.nexthdr == IPPROTO_TCP && skb.ip6h.payloadLen.setWidth 32 - skb.tcpHdrlen == 0
  else false

def queueId (cfg : HnatConfig) (dev : EgressDev) (skb : Skb) (hProto : BitVec 16)
    (portId : Option Nat) : BitVec 32 :=
  let pppq := cfg.pppqMode && isPppqPath cfg dev skb.desc
  let marked := skb.mark &&& MTK_QDMA_QUEUE_MASK
  let qid :=
    if cfg.hqosMode || decide (MAX_PPPQ_QUEUE_NUM ≤ marked) then marked
    else if pppq then
      BitVec.ofNat 32 (portId.elim dev.macId (MTK_GMAC_ID_MAX + ·)) &&& MTK_QDMA_QUEUE_MASK
    else 0
  -- Dispatch ACK packets to high priority queue
  if pppq && portId.isSome && isTcpAck skb hProto then qid + MAX_SWITCH_PORT_NUM else qid

def fillQos (cfg : HnatConfig) (dev : EgressDev) (desc : HnatDesc) (gmac : PsePort)
    (qid : BitVec 32) (entry : FoeEntry) : FoeEntry :=
  let iblk2 := iblk2Of (pktTypeOf entry)
  let tportId := (engineOf (pktTypeOf entry)).tportId
  let hqos := hqosFlag cfg dev desc qid
  let queued := cfg.qosToggle != 0 && !(desc.fromExt || desc.sport == NR_QDMA_PORT)
  let bridged := pktTypeOf entry == L2_BRIDGE
  let entry := iblk2.dp.set gmac entry
  let entry := iblk2.portMg.set 0 entry
  let entry := iblk2.qid.setIf (cfg.qosToggle != 0) (qid.setWidth 7) entry
  let entry := tportId.setIf (queued && !bridged) (if hqos then NR_QDMA_TPORT else 0) entry
  iblk2.fqos.set (boolBit (queued && hqos)) entry

structure EngineIds where
  tportId : Option TportId
  cdrtId : Option (BitVec 8)
  topsEntry : Option (BitVec 6)
  deriving DecidableEq

def EngineIds.none : EngineIds := ⟨Option.none, Option.none, Option.none⟩

def setSome {n : Nat} (field : EntryField n) (value : Option (BitVec n)) (entry : FoeEntry) :
    FoeEntry :=
  field.setIf value.isSome (value.getD 0) entry

def EngineIds.write (ids : EngineIds) (engine : EngineBlock) (entry : FoeEntry) : FoeEntry :=
  let entry := setSome engine.tportId ids.tportId entry
  let entry := setSome engine.cdrtId ids.cdrtId entry
  setSome engine.topsEntry ids.topsEntry entry

/-- The branches of `hnat_fill_offload_engine_entry`. -/
def offloadEngineIds (cfg : HnatConfig) (desc : HnatDesc) : EngineIds :=
  let encap := desc.tops != 0 && !desc.isDecap
  let encrypt := desc.cdrt != 0 && !desc.isDecrypt
  if !cfg.tnlToggle then .none
  else if encap && encrypt then
    ⟨some NR_TDMA_EIP197_QDMA_TPORT, some desc.cdrt, some desc.tops⟩
  else if encap then ⟨some NR_TDMA_QDMA_TPORT, .none, some desc.tops⟩
  else if encrypt then ⟨some NR_EIP197_QDMA_TPORT, some desc.cdrt, .none⟩
  else .none

def hnatFillOffloadEngineEntry (cfg : HnatConfig) (desc : HnatDesc) (entry : FoeEntry) :
    FoeEntry :=
  (offloadEngineIds cfg desc).write
    (if isIpv4Grp (pktTypeOf entry) then Ipv4Hnapt.engine else Ipv65tRoute.engine) entry

def l4sIblk2 (pktType : FoeIpAct) : Iblk2 :=
  if isIpv4Grp pktType then Ipv4Hnapt.iblk2 else Ipv65tRoute.iblk2

/-- TOPS L4S: Wi-Fi to Ethernet entries go to the TDMA port. -/
def fillL4s (entry : FoeEntry) : FoeEntry :=
  let engine := engineOf (pktTypeOf entry)
  let iblk2 := l4sIblk2 (pktTypeOf entry)
  let entry := engine.topsEntry.set ((iblk2.dp.get entry).setWidth 6) entry
  let entry := engine.tportId.set 0 entry
  let entry := iblk2.dp.set NR_TDMA_PORT entry
  let entry := iblk2.fqos.set 0 entry
  iblk2.qid.set 0 entry

def hnatOffloadEngineDone (cfg : HnatConfig) (skb : Skb) (hwPath : HwPath) : Int :=
  if skb.desc.tops ≠ 0 ∧ !hwPath.pathTnl then
    if !cfg.tnlToggle then -1
    -- still to be encrypted
    else if skb.dstXfrm then -1
    else 1
  else 0

def hnatGetFilledUnbindEntry (foe : FoeEntry) : FoeEntry :=
  let entry := Bfib1.mc.set 0 foe
  let entry := Bfib1.ka.set 0 entry
  let entry := Bfib1.vlanLayer.set 0 entry
  let entry := Bfib1.psn.set 0 entry
  let entry := Bfib1.vpm.set 0 entry
  Bfib1.ps.set 0 entry

/-- Whether an engine has to work on the packet before its entry can be bound. -/
def enginePending (skb : Skb) (hwPath : HwPath) : Bool :=
  (skb.desc.tops != 0 && hwPath.pathTnl) ||
    (skb.desc.cdrt == 0 && !skb.desc.isDecrypt && skb.dstXfrm)

/-- From `hnat_entry_bind` up to the commit. -/
def finishEntry (cfg : HnatConfig) (mcastHookToggle : Bool) (foe : FoeEntry) (dev : EgressDev)
    (hwPath : HwPath) (skb : Skb) (hProto : BitVec 16) (filled : Filled) : Option FoeEntry :=
  let entry := ppeFillInfoBlk mcastHookToggle hwPath filled.1
  match forwardEntry cfg dev foe skb.desc filled.2 entry with
  | none => none
  | some forward =>
    let qid := queueId cfg dev skb hProto forward.portId
    let entry := fillQos cfg dev skb.desc forward.gmac qid forward.entry
    let entry := hnatFillOffloadEngineEntry cfg skb.desc entry
    some (if cfg.l4sToggle && skb.desc.fromWed && !dev.isWhnat cfg then fillL4s entry else entry)

structure State where
  mcast : McastEvents.State
  /-- The entries that wait for the Wi-Fi driver, by PPE and hash. -/
  foeFlow : Nat → Nat → List FoeEntry

def State.foe (s : State) (desc : HnatDesc) : FoeEntry := s.mcast.hw.foeTable desc.ppe desc.entry

/-- What becomes of the packet; the entry is the one that is written. -/
inductive Outcome where
  | refused (ret : Int)
  /-- Left unbound in the table for the pass after the engine. -/
  | prepared (entry : FoeEntry)
  /-- Left for the Wi-Fi driver. -/
  | recorded (entry : FoeEntry)
  | bound (entry : FoeEntry)

def Outcome.entry : Outcome → Option FoeEntry
  | .refused _ => none
  | .prepared entry | .recorded entry | .bound entry => some entry

def NF_ACCEPT : Int := 1

/-- One call of `skb_to_hnat_info`, with what it asks of the kernel. -/
structure Pass where
  skb : Skb
  dev : EgressDev
  hwPath : HwPath
  env : Env
  kzalloc : Bool
  /-- Whether the entry lock is free when it is tried. -/
  locked : Bool

/-- `hnat_flow_entry_match`, which compares the addresses. -/
def hnatFlowEntryMatch (entry data : FoeEntry) : Bool :=
  let pktType := pktTypeOf entry
  let same := fun word => entry word == data word
  Bfib1.udp.get entry == Bfib1.udp.get data &&
    if isIpv4Grp pktType || pktType == IPV4_DSLITE || pktType == IPV4_MAP_T ||
        pktType == IPV4_MAP_E then
      same 1 && same 2
    else if isIpv6Grp pktType then
      [1, 2, 3, 4, 5, 6, 7, 8].all same
    else false

def recordFlow (kzalloc : Bool) (entry : FoeEntry) (flows : List FoeEntry) :
    Option (List FoeEntry) :=
  match flows.findIdx? (fun data => hnatFlowEntryMatch data entry) with
  | some idx => some (flows.set idx entry)
  | none => if kzalloc then some (entry :: flows) else none

def recordEntry (pass : Pass) (entry : FoeEntry) (s : State) : Outcome × State :=
  let desc := pass.skb.desc
  if stateOf (s.foe desc) ≠ UNBIND then (.refused (-1), s)
  else
    match recordFlow pass.kzalloc entry (s.foeFlow desc.ppe desc.entry) with
    | none => (.refused (-1), s)
    | some flows =>
      (.recorded entry,
        { s with
          foeFlow := fun ppe hash =>
            if ppe = desc.ppe ∧ hash = desc.entry then flows else s.foeFlow ppe hash })

/-- The blacklist, and the bind of the group of a multicast packet. -/
def bindGroup (plat : Platform) (pass : Pass) (entry : FoeEntry) (m : McastEvents.State) :
    Int × FoeEntry × McastEvents.State :=
  let desc := pass.skb.desc
  if m.mcastHookToggle && McastEvents.hnatMcastChkBlist m.mcastBlistList entry then
    (NF_ACCEPT, entry, m)
  else if m.mcastHookToggle && isMulticastEtherAddr pass.skb.hDest then
    let (ret, entry, m) :=
      McastEvents.hnatMcastFoeBindHandle plat pass.env desc.ppe desc.entry entry pass.skb.ifindex m
    (if ret ≠ 0 then NF_ACCEPT else 0, entry, m)
  else (0, entry, m)

def commitEntry (plat : Platform) (pass : Pass) (entry : FoeEntry) (s : State) :
    Outcome × State :=
  let desc := pass.skb.desc
  let (ret, entry, m) := bindGroup plat pass entry s.mcast
  if ret ≠ 0 then (.refused ret, { s with mcast := m })
  else if !pass.locked || stateOf (m.hw.foeTable desc.ppe desc.entry) != UNBIND then
    (.refused (-1), { s with mcast := m })
  else
    let entry := hnatFoeEntryCommit pass.env.foeTimestamp entry BIND
    (.bound entry, { s with mcast := { m with hw := m.hw.writeFoe desc.ppe desc.entry entry } })

def prepareEntry (pass : Pass) (entry : FoeEntry) (s : State) : Outcome × State :=
  let entry := hnatFoeEntryCommit pass.env.foeTimestamp entry (stateOf entry)
  (.prepared entry,
    { s with
      mcast := { s.mcast with
        hw := s.mcast.hw.writeFoe pass.skb.desc.ppe pass.skb.desc.entry entry } })

def bindEntry (cfg : HnatConfig) (plat : Platform) (pass : Pass) (hwPath : HwPath)
    (hProto : BitVec 16) (filled : Filled) (s : State) : Outcome × State :=
  match finishEntry cfg s.mcast.mcastHookToggle (s.foe pass.skb.desc) pass.dev hwPath pass.skb
      hProto filled with
  | none => (.refused (-1), s)
  | some entry =>
    if pass.dev.isWhnat cfg then recordEntry pass entry s else commitEntry plat pass entry s

def bindPacket (cfg : HnatConfig) (plat : Platform) (pass : Pass) (s : State) : Outcome × State :=
  let skb := pass.skb
  let foe := s.foe skb.desc
  if stateOf foe ≠ UNBIND then (.refused (-1), s)
  else
    match switchProto cfg foe skb with
    | none => (.refused (-1), s)
    | some hProto =>
      let hwPath := pppoeHwPath foe skb pass.hwPath
      match fillEntry cfg foe pass.dev hwPath skb hProto with
      | none => (.refused (-1), s)
      | some filled =>
        let entry := ppeFillL2Info hwPath filled.1
        if enginePending skb hwPath then prepareEntry pass entry s
        else bindEntry cfg plat pass hwPath hProto (entry, filled.2) s

def skbToHnatInfo (cfg : HnatConfig) (plat : Platform) (pass : Pass) (s : State) :
    Outcome × State :=
  if !s.mcast.mcastHookToggle && isMulticastEtherAddr pass.hwPath.ethDest then (.refused (-1), s)
  else if hnatOffloadEngineDone cfg pass.skb pass.hwPath = 1 then
    bindEntry cfg plat pass pass.hwPath 0
      (hnatGetFilledUnbindEntry (s.foe pass.skb.desc), false) s
  else if hnatOffloadEngineDone cfg pass.skb pass.hwPath = -1 then (.refused (-1), s)
  else bindPacket cfg plat pass s

end OpenwrtSource.Hnat.BindEntry

/-!
# The bind of a packet that leaves through Wi-Fi

`skb_to_hnat_info` leaves the entry of such a packet in the list of its bucket,
and `mtk_sw_nat_hook_tx`, which the Wi-Fi driver calls with the port and the
station, takes it from there, completes it and commits it.
-/

namespace OpenwrtSource.Hnat.HookTx

open Hnat.Foe Hnat.McastTable Hnat.McastOffload Hnat.BindPacket Hnat.BindFill Hnat.BindEntry

def NR_WDMA0_PORT : Nat := 8
def NR_WDMA1_PORT : Nat := 9
def NR_WDMA2_PORT : Nat := 13
/-- `EINVAL`, as this engine has none. -/
def NR_WHNAT_WDMA_PORT : Nat := 22

def HIT_UNBIND : BitVec 5 := 0x0E
def HIT_UNBIND_RATE_REACH : BitVec 5 := 0x0F
def HQOS_MAGIC_TAG : BitVec 16 := 0x5678

/-- What the Wi-Fi driver has put into the descriptor. -/
structure WifiInfo where
  bssid : BitVec 8
  wcid : BitVec 16
  rxid : BitVec 2
  usrInfo : BitVec 16
  tid : BitVec 4
  isFixedrate : BitVec 1
  isPrior : BitVec 1
  isSp : BitVec 1
  hf : BitVec 1
  amsdu : BitVec 1

/-- What `mtk_sw_nat_hook_tx` reads of the packet. -/
structure TxSkb where
  hashed : Bool
  alg : Bool
  infoFilled : Bool
  magicTagValid : Bool
  spaceAvailableHead : Bool
  macHeaderSet : Bool
  reason : BitVec 5
  desc : HnatDesc
  wifi : WifiInfo
  hDest : Mac
  hSource : Mac
  /-- The protocol and the tag that the device would insert. -/
  vlanTag : Option (BitVec 16 × BitVec 16)
  /-- The tags of the 802.1Q headers behind the addresses. -/
  vlanHeaders : List (BitVec 16)
  ifindex : Nat

structure TxConfig where
  cfg : HnatConfig
  bindThreshold : Nat
  dsaEnable : Bool

def HnatConfig.hqosDlMode (cfg : HnatConfig) : Bool := cfg.hqosMode && cfg.qosDlToggle

def isWdmaPort (gmacNo : Nat) : Bool :=
  gmacNo == NR_WDMA0_PORT || gmacNo == NR_WDMA1_PORT || gmacNo == NR_WDMA2_PORT

def reasonReadyBind (tx : TxConfig) (skb : TxSkb) : Bool :=
  skb.reason == HIT_UNBIND_RATE_REACH ||
    (decide (tx.bindThreshold ≤ 1) && skb.reason == HIT_UNBIND)

def accepts (tx : TxConfig) (plat : Platform) (gmacNo : Nat) (skb : TxSkb) : Bool :=
  skb.hashed && decide (skb.desc.ppe < plat.ppeNum) &&
    !skb.alg && skb.infoFilled && skb.magicTagValid && skb.spaceAvailableHead &&
    (isWdmaPort gmacNo || gmacNo == NR_WHNAT_WDMA_PORT) && skb.macHeaderSet &&
    reasonReadyBind tx skb

/-- The source address that a virtual interface of the Wi-Fi driver may have changed. -/
def txSmac (skb : TxSkb) (entry : FoeEntry) : FoeEntry :=
  let pktType := pktTypeOf entry
  if pktType = L2_BRIDGE ∨ isIpv4Grp pktType then
    -- the header may be the inner one of a tunnel
    if skb.desc.tops ≠ 0 ∧ !skb.desc.isDecap then entry
    else
      let entry := Ipv4Hnapt.l2.smacHi.set (ethHi skb.hSource) entry
      Ipv4Hnapt.l2.smacLo.set (ethLo skb.hSource) entry
  else if isIpv6Grp pktType ∧ pktType ≠ IPV4_MAP_T then
    let entry := Ipv65tRoute.l2.smacHi.set (ethHi skb.hSource) entry
    Ipv65tRoute.l2.smacLo.set (ethLo skb.hSource) entry
  else entry

/-- `hnat_add_vlan_layer` of an inner tag. -/
def hnatAddVlanLayer (vlanTci : BitVec 16) (entry : FoeEntry) : Option FoeEntry :=
  let layer := Bfib1.vlanLayer.get entry
  if layer ≥ 2 then none
  else
    let l2 :=
      if isIpv4Grp (pktTypeOf entry) ∨ pktTypeOf entry = L2_BRIDGE then Ipv4Hnapt.l2
      else Ipv65tRoute.l2
    let entry := if layer = 0 then l2.vlan1.set vlanTci entry else l2.vlan2.set vlanTci entry
    some (Bfib1.vlanLayer.set (layer + 1) entry)

def txVlans (skb : TxSkb) (entry : FoeEntry) : Option FoeEntry :=
  let tagged :=
    match skb.vlanTag with
    | none => some entry
    | some (proto, vlanTci) =>
      if proto ≠ htons ETH_P_8021Q then none else hnatAddVlanLayer vlanTci entry
  skb.vlanHeaders.foldl (fun entry vlanTci => entry.bind (hnatAddVlanLayer vlanTci)) tagged

def txSpTag (entry : FoeEntry) : Option FoeEntry :=
  let pktType := pktTypeOf entry
  if Bfib1.vlanLayer.get entry = 0 then some entry
  else if isIpv4Grp pktType ∨ pktType = L2_BRIDGE then
    some (Ipv4Hnapt.l2.spTag.set ETH_P_8021Q entry)
  else if isIpv6Grp pktType then some (Ipv65tRoute.l2.spTag.set ETH_P_8021Q entry)
  else none

def fillWinfo (cfg : HnatConfig) (wifi : WifiInfo) (winfo : WinfoBlock) (iblk2 : Iblk2)
    (entry : FoeEntry) : FoeEntry :=
  let entry := winfo.bssid.set wifi.bssid entry
  let entry := winfo.wcid.set wifi.wcid entry
  let entry := iblk2.fqos.set (boolBit (HnatConfig.hqosDlMode cfg)) entry
  let entry := iblk2.rxid.set wifi.rxid entry
  let entry := iblk2.winfoi.set 1 entry
  let entry := winfo.usrInfo.set wifi.usrInfo entry
  let entry := winfo.tid.set wifi.tid entry
  let entry := winfo.isFixedrate.set wifi.isFixedrate entry
  let entry := winfo.isPrior.set wifi.isPrior entry
  let entry := winfo.isSp.set wifi.isSp entry
  let entry := winfo.hf.set wifi.hf entry
  winfo.amsdu.set wifi.amsdu entry

/-- The words of a port that is none of the three, in one layout. -/
def fillNoWdma (tx : TxConfig) (desc : HnatDesc) (iblk2 : Iblk2) (l2 : L2Block)
    (entry : FoeEntry) : FoeEntry :=
  let lan := desc.fromGeLanGrp
  let wan := desc.fromGeWan || desc.fromGeVirtual
  let gmac1 := tx.cfg.gmac1Mode && !tx.dsaEnable
  let entry := Bfib1.vpm.setIf gmac1 1 entry
  let entry := Bfib1.vlanLayer.setIf gmac1 1 entry
  let entry := l2.vlan1.setIf (gmac1 && lan) 1 entry
  let entry := l2.vlan1.setIf (gmac1 && !lan && wan) 2 entry
  let tagged := tx.cfg.hqosMode && (lan || wan)
  let entry := Bfib1.vpm.setIf tagged 0 entry
  let entry := Bfib1.vlanLayer.setIf tagged 1 entry
  let entry := l2.spTag.setIf tagged (htons HQOS_MAGIC_TAG) entry
  let entry := l2.vlan1.setIf tagged (BitVec.ofNat 16 desc.entry) entry
  iblk2.fqos.setIf tagged 1 entry

/-- Where the words for the Wi-Fi driver are in an entry of the type. -/
def winfoOf (pktType : FoeIpAct) : WinfoBlock :=
  if isIpv4Grp pktType then Ipv4Hnapt.winfo
  else if pktType = IPV6_HNAPT ∨ pktType = IPV6_HNAT then Ipv6Hnapt.winfo
  else if pktType = L2_BRIDGE then L2Bridge.winfo
  else if pktType = IPV4_MAP_E ∨ pktType = IPV4_MAP_T then Ipv4Mape.winfo
  else Ipv65tRoute.winfo

/-- The switch over the type; an L2 entry has no word of the engines. -/
def txWinfo (tx : TxConfig) (gmacNo : Nat) (skb : TxSkb) (entry : FoeEntry) : FoeEntry :=
  let pktType := pktTypeOf entry
  let iblk2 := iblk2Of pktType
  let always := pktType = IPV6_HNAPT ∨ pktType = IPV6_HNAT ∨ pktType = L2_BRIDGE
  let entry :=
    if always ∨ isWdmaPort gmacNo then
      let entry := fillWinfo tx.cfg skb.wifi (winfoOf pktType) iblk2 entry
      (engineOf pktType).tportId.setIf (pktType != L2_BRIDGE)
        (if HnatConfig.hqosDlMode tx.cfg then NR_QDMA_TPORT else 0) entry
    else
      fillNoWdma tx skb.desc iblk2
        (if isIpv4Grp pktType then Ipv4Hnapt.l2 else Ipv65tRoute.l2) (iblk2.fqos.set 0 entry)
  iblk2.dp.set (BitVec.ofNat 4 gmacNo) entry

def txEntry (tx : TxConfig) (mcastHookToggle : Bool) (gmacNo : Nat) (skb : TxSkb)
    (entry : FoeEntry) : Option FoeEntry :=
  if !mcastHookToggle && isMulticastEtherAddr skb.hDest then none
  else
    let entry := (iblk2Of (pktTypeOf entry)).mcast.setIf (!mcastHookToggle) 0 entry
    let entry := Bfib1.vlanLayer.set 0 (txSmac skb entry)
    ((txVlans skb entry).bind txSpTag).map fun entry =>
      hnatFillOffloadEngineEntry tx.cfg skb.desc (txWinfo tx gmacNo skb entry)

end OpenwrtSource.Hnat.HookTx
