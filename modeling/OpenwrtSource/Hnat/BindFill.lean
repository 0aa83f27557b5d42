import OpenwrtSource.Hnat.BindPacket

/-!
# The first half of `skb_to_hnat_info`

The switch over the layer 3 protocol of the packet, which fills the addresses
and ports of a new entry from the packet and from the unbound entry that the
engine has learned.  A result of `none` is a `return -1`.
-/

namespace OpenwrtSource.Hnat.BindFill

open Hnat.Foe Hnat.Translation Hnat.BindPacket

def newEntry (foe : FoeEntry) : FoeEntry :=
  Bfib1.sp.set (Bfib1.sp.get foe)
    (Bfib1.state.set (stateOf foe) (Bfib1.pktType.set (pktTypeOf foe) FoeEntry.zero))

/-- The VLAN of the path, and the tag of the packet as the inner or the only one. -/
def fillVlan (vlan1 vlan2 : EntryField 16) (vlanId : BitVec 16) (vlanTci : Option (BitVec 16))
    (entry : FoeEntry) : FoeEntry :=
  let entry := vlan1.set vlanId entry
  match vlanTci with
  | none => entry
  | some vlanTci =>
    let entry := Bfib1.vlanLayer.set (Bfib1.vlanLayer.get entry + 1) entry
    if vlan1.get entry ≠ 0 then vlan2.set vlanTci entry else vlan1.set vlanTci entry

def fillIpv4Key (foe entry : FoeEntry) : FoeEntry :=
  let entry := Ipv4Hnapt.sip.set (Ipv4Hnapt.sip.get foe) entry
  let entry := Ipv4Hnapt.dip.set (Ipv4Hnapt.dip.get foe) entry
  let entry := Ipv4Hnapt.sport.set (Ipv4Hnapt.sport.get foe) entry
  Ipv4Hnapt.dport.set (Ipv4Hnapt.dport.get foe) entry

def fillIpv4Grp (cfg : HnatConfig) (hwPath : HwPath) (skb : Skb) (entry : FoeEntry) : FoeEntry :=
  let entry := Ipv4Hnapt.l2.spTag.set (htons ETH_P_IP) entry
  let entry := Ipv4Hnapt.iblk2.dscp.set skb.iph.tos entry
  let entry := Ipv4Hnapt.iblk2.mibf.setIf cfg.perFlowAccounting 1 entry
  let entry := fillVlan Ipv4Hnapt.l2.vlan1 Ipv4Hnapt.l2.vlan2 hwPath.vlanId skb.vlanTci entry
  let entry := Ipv4Hnapt.newSip.set skb.iph.saddr entry
  let entry := Ipv4Hnapt.newDip.set skb.iph.daddr entry
  let entry := Ipv4Hnapt.egKeepEcn.set 1 entry
  Ipv4Hnapt.egKeepDscp.set 1 entry

def fillIpv4Decap (cfg : HnatConfig) (foe : FoeEntry) (hwPath : HwPath) (skb : Skb)
    (entry : FoeEntry) : FoeEntry :=
  let entry := Ipv4Dslite.l2.spTag.set (htons ETH_P_IP) entry
  let mape := pktTypeOf entry == IPV4_MAP_E
  let entry := Ipv4Mape.newSip.setIf mape skb.iph.saddr entry
  let entry := Ipv4Mape.newDip.setIf mape skb.iph.daddr entry
  let entry := Ipv4Dslite.tunnelSipv6.set (Ipv4Dslite.tunnelSipv6.get foe) entry
  let entry := Ipv4Dslite.tunnelDipv6.set (Ipv4Dslite.tunnelDipv6.get foe) entry
  let entry := Bfib1.rmt.set 1 entry
  let entry := Ipv4Dslite.iblk2.dscp.set skb.iph.tos entry
  let entry := Ipv4Dslite.l2.vlan1.set hwPath.vlanId entry
  let entry := Ipv4Dslite.iblk2.mibf.setIf cfg.perFlowAccounting 1 entry
  let entry := Ipv4Dslite.egKeepEcn.set 1 entry
  Ipv4Dslite.egKeepCls.set 1 entry

def fillIpv4Ports (skb : Skb) (entry : FoeEntry) : Option FoeEntry :=
  match skb.ports with
  | none => none
  | some ports =>
    if pktTypeOf entry = IPV4_MAP_E then
      some (Ipv4Mape.newDport.set ports.dst (Ipv4Mape.newSport.set ports.src entry))
    else if pktTypeOf entry = IPV4_HNAPT then
      some (Ipv4Hnapt.newDport.set ports.dst (Ipv4Hnapt.newSport.set ports.src entry))
    else some entry

/-- `ppe_get_chkbase`, for an engine newer than the second version. -/
def ppeGetChkbase (iph : Iphdr) : BitVec 16 :=
  let chksumTmp : BitVec 16 := ~~~ iph.check
  let totLenTmp : BitVec 16 := ~~~ iph.totLen
  let idTmp : BitVec 16 := ~~~ iph.id
  let dscpEcnTmp : BitVec 16 := ~~~ iph.tos.setWidth 16
  let tmp : BitVec 32 :=
    chksumTmp.setWidth 32 + totLenTmp.setWidth 32 + idTmp.setWidth 32 + dscpEcnTmp.setWidth 32
  let tmp := (tmp >>> 16 &&& 0x7) + (tmp &&& 0xFFFF)
  let tmp := (tmp >>> 16 &&& 0x7) + (tmp &&& 0xFFFF)
  tmp.setWidth 16

def fillIpv66rd (cfg : HnatConfig) (foe : FoeEntry) (hwPath : HwPath) (skb : Skb)
    (entry : FoeEntry) : FoeEntry :=
  let entry := Ipv66rd.ipv6Sip.set (Ipv66rd.ipv6Sip.get foe) entry
  let entry := Ipv66rd.ipv6Dip.set (Ipv66rd.ipv6Dip.get foe) entry
  let entry := Ipv66rd.sport.set (Ipv66rd.sport.get foe) entry
  let entry := Ipv66rd.dport.set (Ipv66rd.dport.get foe) entry
  let entry := Ipv66rd.tunnelSipv4.set skb.iph.saddr entry
  let entry := Ipv66rd.tunnelDipv4.set skb.iph.daddr entry
  let entry := Ipv66rd.hdrChksum.set (ppeGetChkbase skb.iph) entry
  let entry := Ipv66rd.flag.set ((skb.iph.fragOff >>> 13).setWidth 3) entry
  let entry := Ipv66rd.ttl.set skb.iph.ttl entry
  let entry := Ipv66rd.dscp.set skb.iph.tos entry
  let entry := Ipv66rd.perFlow6rdId.set 1 entry
  let entry := Ipv66rd.l2.vlan1.set hwPath.vlanId entry
  let entry := Ipv66rd.iblk2.mibf.setIf cfg.perFlowAccounting 1 entry
  let entry := Bfib1.udp.setIf (skb.innerIp6h.nexthdr == IPPROTO_UDP) 1 entry
  let entry := Ipv66rd.egKeepEcn.set 1 entry
  Ipv66rd.egKeepCls.set 1 entry

/-- The switch over `iph->protocol`. -/
def fillIpv4Protocol (cfg : HnatConfig) (foe : FoeEntry) (hwPath : HwPath) (skb : Skb)
    (entry : FoeEntry) : Option FoeEntry :=
  if isTcpUdp skb.iph.protocol then
    fillIpv4Ports skb (Bfib1.udp.setIf (skb.iph.protocol == IPPROTO_UDP) 1 entry)
  else if skb.iph.protocol = IPPROTO_IPV6 ∧ pktTypeOf entry = IPV6_6RD then
    some (fillIpv66rd cfg foe hwPath skb entry)
  else none

def fillIpv4 (cfg : HnatConfig) (foe : FoeEntry) (hwPath : HwPath) (skb : Skb)
    (entry : FoeEntry) : Option FoeEntry :=
  if ipIsFragment skb.iph ∧ pktTypeOf entry ≠ IPV4_HNAT then none
  else if isIpv4Grp (pktTypeOf entry) then
    let filled := fillIpv4Grp cfg hwPath skb (fillIpv4Key foe entry)
    if pktTypeOf entry = IPV4_HNAT then
      -- 3-tuple offload only allows bridge forward
      if hnatIsHwPathBridging hwPath then some filled else none
    else fillIpv4Protocol cfg foe hwPath skb filled
  else if pktTypeOf entry = IPV4_DSLITE ∨ pktTypeOf entry = IPV4_MAP_E then
    fillIpv4Protocol cfg foe hwPath skb
      (fillIpv4Decap cfg foe hwPath skb (fillIpv4Key foe entry))
  else if pktTypeOf entry = IPV6_6RD then fillIpv4Protocol cfg foe hwPath skb entry
  else none

def fillIpv66rdDecap (foe entry : FoeEntry) : FoeEntry :=
  let entry := Bfib1.rmt.set 1 entry
  let entry := Ipv66rd.tunnelSipv4.set (Ipv66rd.tunnelSipv4.get foe) entry
  Ipv66rd.tunnelDipv4.set (Ipv66rd.tunnelDipv4.get foe) entry

def fillIpv6Route (cfg : HnatConfig) (foe : FoeEntry) (hwPath : HwPath) (skb : Skb)
    (entry : FoeEntry) : FoeEntry :=
  let entry := Ipv65tRoute.l2.spTag.set (htons ETH_P_IPV6) entry
  let entry := fillVlan Ipv65tRoute.l2.vlan1 Ipv65tRoute.l2.vlan2 hwPath.vlanId skb.vlanTci entry
  let entry := Ipv65tRoute.iblk2.mibf.setIf cfg.perFlowAccounting 1 entry
  let entry := if pktTypeOf entry = IPV6_6RD then fillIpv66rdDecap foe entry else entry
  let entry := Ipv65tRoute.ipv6Sip.set (Ipv65tRoute.ipv6Sip.get foe) entry
  let entry := Ipv65tRoute.ipv6Dip.set (Ipv65tRoute.ipv6Dip.get foe) entry
  let entry := Ipv65tRoute.sport.set (Ipv65tRoute.sport.get foe) entry
  let entry := Ipv65tRoute.dport.set (Ipv65tRoute.dport.get foe) entry
  let entry := Ipv65tRoute.egKeepEcn.set 1 entry
  let entry := Ipv65tRoute.egKeepCls.set 1 entry
  Ipv65tRoute.iblk2.dscp.set (skb.ip6h.priority ++ skb.ip6h.flowLbl0.extractLsb' 4 4) entry

/-- The direction of the translation is that of the egress device. -/
def fillIpv6Hnapt (cfg : HnatConfig) (dev : EgressDev) (skb : Skb) (entry : FoeEntry) :
    Option FoeEntry :=
  let entry := Bfib1.pktType.set IPV6_HNAPT entry
  let entry :=
    if dev.isWan cfg || dev.isDsaWan then
      Ipv6Hnapt.newIpv6Ip.set skb.ip6h.saddr (Ipv6Hnapt.egIpv6Dir.set IPV6_SNAT entry)
    else Ipv6Hnapt.newIpv6Ip.set skb.ip6h.daddr (Ipv6Hnapt.egIpv6Dir.set IPV6_DNAT entry)
  match skb.ports with
  | none => none
  | some ports =>
    some (Ipv6Hnapt.newDport.set ports.dst (Ipv6Hnapt.newSport.set ports.src entry))

/-- Whether the addresses of the packet differ from those of the entry. -/
def ipv6AddrChanged (skb : Skb) (entry : FoeEntry) : Bool :=
  Ipv65tRoute.ipv6Sip.get entry != skb.ip6h.saddr || Ipv65tRoute.ipv6Dip.get entry != skb.ip6h.daddr

def fillIpv6TcpUdp (cfg : HnatConfig) (dev : EgressDev) (skb : Skb) (entry : FoeEntry) :
    Option FoeEntry :=
  let entry := Bfib1.udp.setIf (skb.ip6h.nexthdr == IPPROTO_UDP) 1 entry
  if pktTypeOf entry = IPV6_5T_ROUTE ∧ ipv6AddrChanged skb entry then
    fillIpv6Hnapt cfg dev skb entry
  else some entry

/-- The translation of the inner packet that the local-out hook has recorded. -/
def fillMapeRecord (foe entry : FoeEntry) : FoeEntry :=
  let entry := Ipv4Dslite.iblk2.dscp.set (Ipv4Dslite.iblk2.dscp.get foe) entry
  let entry := Ipv4Mape.newSip.set (Ipv4Mape.newSip.get foe) entry
  let entry := Ipv4Mape.newDip.set (Ipv4Mape.newDip.get foe) entry
  let entry := Ipv4Mape.newSport.set (Ipv4Mape.newSport.get foe) entry
  Ipv4Mape.newDport.set (Ipv4Mape.newDport.get foe) entry

def fillIpv4Encap (cfg : HnatConfig) (foe : FoeEntry) (hwPath : HwPath) (skb : Skb)
    (entry : FoeEntry) : FoeEntry :=
  let entry := Bfib1.udp.set (Bfib1.udp.get foe) entry
  let entry := fillIpv4Key foe entry
  let entry := Ipv4Dslite.tunnelSipv6.set skb.ip6h.saddr entry
  let entry := Ipv4Dslite.tunnelDipv6.set skb.ip6h.daddr entry
  let entry :=
    Ipv4Dslite.flowLbl.set (skb.ip6h.flowLbl0 ++ skb.ip6h.flowLbl1 ++ skb.ip6h.flowLbl2) entry
  let entry := Ipv4Dslite.priority.set (skb.ip6h.priority.setWidth 8) entry
  let entry := Ipv4Dslite.hopLimit.set skb.ip6h.hopLimit entry
  let entry := Ipv4Dslite.l2.vlan1.set hwPath.vlanId entry
  let entry := Ipv4Dslite.iblk2.mibf.setIf cfg.perFlowAccounting 1 entry
  let entry := Ipv4Dslite.egKeepEcn.set 1 entry
  let entry := Ipv4Dslite.egKeepCls.set 1 entry
  if cfg.mapeToggle then fillMapeRecord foe entry else entry

def boolBit {n : Nat} (flag : Bool) : BitVec n := if flag then 1 else 0

/-- The queue of a MAP-E entry that goes to the processor. -/
def fillMapeQos (cfg : HnatConfig) (dev : EgressDev) (skb : Skb) (entry : FoeEntry) : FoeEntry :=
  if cfg.hqosMode then
    let qid := skb.mark &&& 0x7f
    let entry := Ipv4Hnapt.iblk2.qid.set (qid.setWidth 7) entry
    let entry := Ipv4Hnapt.engine.tportId.set (boolBit (hqosFlag cfg dev skb.desc qid)) entry
    Ipv4Hnapt.iblk2.fqos.set (boolBit (hqosFlag cfg dev skb.desc qid)) entry
  else entry

/-- MAP-E, LAN to WAN, on an entry that the local-out hook has left as it was. -/
def fillMapeHnapt (cfg : HnatConfig) (foe : FoeEntry) (dev : EgressDev) (hwPath : HwPath)
    (skb : Skb) (entry : FoeEntry) : FoeEntry :=
  let entry := Ipv4Hnapt.iblk2.dscp.set (Ipv4Hnapt.iblk2.dscp.get foe) entry
  let entry := Ipv4Hnapt.iblk2.mibf.setIf cfg.perFlowAccounting 1 entry
  let entry := Ipv4Hnapt.l2.vlan1.set (if cfg.gmac1Mode then 1 else hwPath.vlanId) entry
  let entry := fillIpv4Key foe entry
  let entry := Ipv4Hnapt.newSip.set (Ipv4Hnapt.newSip.get foe) entry
  let entry := Ipv4Hnapt.newDip.set (Ipv4Hnapt.newDip.get foe) entry
  let entry := Ipv4Hnapt.l2.spTag.set (htons ETH_P_IP) entry
  let entry := fillMapeQos cfg dev skb entry
  let entry := Bfib1.udp.set (Bfib1.udp.get foe) entry
  let entry := Ipv4Hnapt.newSport.set (Ipv4Hnapt.newSport.get foe) entry
  let entry := Ipv4Hnapt.newDport.set (Ipv4Hnapt.newDport.get foe) entry
  let entry := Ipv4Hnapt.egKeepEcn.set 1 entry
  Ipv4Hnapt.egKeepDscp.set 1 entry

abbrev Filled := FoeEntry × Bool

def fillIpv6Ipip (cfg : HnatConfig) (foe : FoeEntry) (dev : EgressDev) (hwPath : HwPath)
    (skb : Skb) (entry : FoeEntry) : Option Filled :=
  -- don't process inner fragment packets
  if ipIsFragment skb.innerIph then none
  else if pktTypeOf entry = (if cfg.mapeToggle then IPV4_MAP_E else IPV4_DSLITE) then
    some (fillIpv4Encap cfg foe hwPath skb entry, false)
  else if cfg.mapeToggle ∧ pktTypeOf entry = IPV4_HNAPT then
    some (fillMapeHnapt cfg foe dev hwPath skb entry, true)
  else some (entry, false)

def isIpv6Route (pktType : FoeIpAct) : Bool :=
  pktType == IPV6_3T_ROUTE || pktType == IPV6_5T_ROUTE || pktType == IPV6_6RD

def fillIpv6 (cfg : HnatConfig) (foe : FoeEntry) (dev : EgressDev) (hwPath : HwPath) (skb : Skb)
    (entry : FoeEntry) : Option Filled :=
  let entry :=
    if isIpv6Route (pktTypeOf entry) then fillIpv6Route cfg foe hwPath skb entry else entry
  if pktTypeOf entry = IPV6_3T_ROUTE then
    -- 3-tuple offload only allows bridge forward
    if hnatIsHwPathBridging hwPath then some (entry, false) else none
  else if isTcpUdp skb.ip6h.nexthdr then
    (fillIpv6TcpUdp cfg dev skb entry).map fun entry => (entry, false)
  else if skb.ip6h.nexthdr = IPPROTO_IPIP then fillIpv6Ipip cfg foe dev hwPath skb entry
  else none

def fillL2Bridge (cfg : HnatConfig) (foe : FoeEntry) (hwPath : HwPath) (skb : Skb)
    (hProto : BitVec 16) (entry : FoeEntry) : FoeEntry :=
  let entry := L2Bridge.dmacHi.set (L2Bridge.dmacHi.get foe) entry
  let entry := L2Bridge.dmacLo.set (L2Bridge.dmacLo.get foe) entry
  let entry := L2Bridge.smacHi.set (L2Bridge.smacHi.get foe) entry
  let entry := L2Bridge.smacLo.set (L2Bridge.smacLo.get foe) entry
  let entry := L2Bridge.etype.set (L2Bridge.etype.get foe) entry
  let entry := L2Bridge.hph.set (L2Bridge.hph.get foe) entry
  let entry := L2Bridge.vlan1.set (L2Bridge.vlan1.get foe) entry
  let entry := L2Bridge.vlan2.set (L2Bridge.vlan2.get foe) entry
  let entry := L2Bridge.spTag.set (htons hProto) entry
  let entry := L2Bridge.iblk2.mibf.setIf cfg.perFlowAccounting 1 entry
  fillVlan L2Bridge.newVlan1 L2Bridge.newVlan2 hwPath.vlanId skb.vlanTci entry

def pppoeHwPath (foe : FoeEntry) (skb : Skb) (hwPath : HwPath) : HwPath :=
  if pktTypeOf foe ≠ L2_BRIDGE ∧ skb.ethProto = ETH_P_PPP_SES then
    { hwPath with pathPppoe := true, pppoeSid := skb.pppoeSid }
  else hwPath

/-- `h_proto` for the switch. -/
def switchProto (cfg : HnatConfig) (foe : FoeEntry) (skb : Skb) : Option (BitVec 16) :=
  if pktTypeOf foe = L2_BRIDGE then if cfg.l2brToggle then some skb.ethProto else none
  else skb.hProto

def fillEntry (cfg : HnatConfig) (foe : FoeEntry) (dev : EgressDev) (hwPath : HwPath) (skb : Skb)
    (hProto : BitVec 16) : Option Filled :=
  let entry := newEntry foe
  if hProto = ETH_P_IP then
    (fillIpv4 cfg foe hwPath skb entry).map fun entry => (entry, false)
  else if hProto = ETH_P_IPV6 then fillIpv6 cfg foe dev hwPath skb entry
  else if pktTypeOf entry = L2_BRIDGE then
    some (fillL2Bridge cfg foe hwPath skb hProto entry, false)
  else none

end OpenwrtSource.Hnat.BindFill
