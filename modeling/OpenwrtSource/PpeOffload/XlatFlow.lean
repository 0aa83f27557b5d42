import Mathlib.Data.List.ProdSigma
import OpenwrtSource.Hnat.ChecksumBase
import OpenwrtSource.Lib.Selection
import OpenwrtSource.PpeOffload.TunnelTeardown

/-!
# Offloading of 464XLAT flows

A packet that comes from a 464XLAT device has been translated already, so its flow does not
show what the PPE will see.  `mtk_flow_offload_replace` looks for the packet's first form
among the entries that the PPEs have learned, and makes a translating entry of it.
-/

namespace OpenwrtSource.PpeOffload.XlatFlow

open Lib.BitField Lib.SoleHit Hnat.Foe Hnat.BindPacket Hnat.ChecksumBase
open PpeOffload.TunnelTeardown (L4proto MTK_PPE_ENTRIES)

/-! ## The entries

464XLAT is there from NETSYS v2 on.  The words of an entry are those of `hnat.h`, which
describes the same engine. -/

abbrev PktType := BitVec 5

def MTK_PPE_PKT_TYPE_IPV4_HNAPT : PktType := 0
def MTK_PPE_PKT_TYPE_IPV4_DSLITE : PktType := 3
def MTK_PPE_PKT_TYPE_464XLAT_46 : PktType := 3
def MTK_PPE_PKT_TYPE_IPV6_ROUTE_5T : PktType := 5
def MTK_PPE_PKT_TYPE_IPV6_6RD : PktType := 7
def MTK_PPE_PKT_TYPE_464XLAT_64 : PktType := 7
def MTK_FOE_STATE_UNBIND : BitVec 2 := 1

def MTK_FOE_UDF_KEEP_ECN : BitVec 32 := 1 <<< 9
def MTK_FOE_UDF_KEEP_DSCP : BitVec 32 := 1 <<< 10
def MTK_FOE_UDF_KEEP_TUNNEL_QOS : BitVec 32 := 1 <<< 11
def MTK_FOE_UDF_6RDA_IP4_ID_INC_EN : BitVec 32 := 1 <<< 16

def MTK_PPE_EXCEPTION_TAG : BitVec 32 := 0x99
def IP_DF : BitVec 16 := 0x4000
def TPORT_EIP197_QDMA : BitVec 4 := 3
def TPORT_NPU_QDMA : BitVec 4 := 5
def TPORT_NPU_EIP197_QDMA : BitVec 4 := 9

/-- `MTK_FOE_DSLITE_IPV6_TRAF_CLS` of `dslite.flow_info`. -/
def trafCls : EntryField 8 := { word := 12, shift := 20 }

theorem byte_fits : 0 + 8 ≤ 32 := by decide
theorem word_fits : 0 + 32 ≤ 32 := by decide

/-- `ipv6_6rd.flag`, a byte of the word that is `ipv6.udf`. -/
def flag : EntryField 8 := { word := 13, shift := 0, fits := byte_fits }

def udf : EntryField 32 := { word := 13, shift := 0, fits := word_fits }

def mtkGetIb1PktType (entry : FoeEntry) : PktType := Bfib1.pktType.get entry

/-- `MTK_FOE_IB1_UDP`. -/
def protonumOf (entry : FoeEntry) : L4proto := if Bfib1.udp.get entry = 1 then .udp else .tcp

/-! ## Tuples -/

/-- `union nf_inet_addr` with the `l3num` that says which of it counts. -/
inductive InetAddr where
  | unset
  | ip (addr : BitVec 32)
  | in6 (addr : BitVec 128)
deriving DecidableEq

/-- `struct nf_conntrack_tuple`, the numbers in network order by their values. -/
@[ext] structure CtTuple where
  protonum : L4proto
  src : InetAddr
  dst : InetAddr
  srcPort : BitVec 16
  dstPort : BitVec 16
deriving DecidableEq

def mtkFoeToCtTuple (foe : FoeEntry) : CtTuple :=
  let pktType := mtkGetIb1PktType foe
  if pktType = MTK_PPE_PKT_TYPE_IPV4_HNAPT ∨ pktType = MTK_PPE_PKT_TYPE_IPV4_DSLITE then
    { protonum := protonumOf foe
      src := .ip (Ipv4Hnapt.sip.get foe)
      dst := .ip (Ipv4Hnapt.dip.get foe)
      srcPort := Ipv4Hnapt.sport.get foe
      dstPort := Ipv4Hnapt.dport.get foe }
  else if pktType = MTK_PPE_PKT_TYPE_IPV6_ROUTE_5T ∨ pktType = MTK_PPE_PKT_TYPE_IPV6_6RD then
    { protonum := protonumOf foe
      src := .in6 (Ipv65tRoute.ipv6Sip.get foe)
      dst := .in6 (Ipv65tRoute.ipv6Dip.get foe)
      srcPort := Ipv65tRoute.sport.get foe
      dstPort := Ipv65tRoute.dport.get foe }
  else { protonum := protonumOf foe, src := .unset, dst := .unset, srcPort := 0, dstPort := 0 }

/-! ## The devices, the rules, and the code around -/

abbrev Ppe := Fin MTK_PPE_ENTRIES → FoeEntry

abbrev Place := Nat × Fin MTK_PPE_ENTRIES

/-- `nat64` is `eth->xlat464->prefix`; `conntrack` is the mark of the connection that a tuple
belongs to. -/
structure MtkEth where
  v3 : Bool
  dscpToggle : Bool
  xlat464Enabled : Bool
  nat64 : BitVec 128
  ppeNum : Nat
  ppe : Nat → Ppe
  conntrack : CtTuple → Option (BitVec 32)

/-- The addresses of a rule that is not about a bridge. -/
inductive Addrs where
  | ipv4 (src dst : BitVec 32)
  | ipv6 (src dst : BitVec 128)
deriving DecidableEq

/-- What a flow rule matches and does.  `known` says that its cookie is in the table,
`macsValid` that both MAC addresses are valid. -/
structure FlowRule where
  known : Bool
  ctMark : Option (BitVec 32)
  idevName : List Char
  addrs : Addrs
  l4proto : L4proto
  ports : Option (BitVec 16 × BitVec 16)
  tos : BitVec 8
  ttl : BitVec 8
  macsValid : Bool
  vlans : List (BitVec 16)
  pppoe : Option (BitVec 16)
  cdrtId : BitVec 16
  npuEntry : BitVec 32

/-- `struct mtk_flow_data`.  The source keeps `v4` and `v6` in one place and writes each of them
before it reads it. -/
structure MtkFlowData where
  v4Src : BitVec 32
  v4Dst : BitVec 32
  v6Src : BitVec 128
  v6Dst : BitVec 128
  srcPort : BitVec 16
  dstPort : BitVec 16

inductive Errno where
  | EEXIST
  | EINVAL
  | EOPNOTSUPP
deriving DecidableEq

/-- The bits of the words in a range, and all of the others. -/
def outside (first last : Nat) : Words 32 := fun word =>
  if first ≤ word.val ∧ word.val ≤ last then 0 else BitVec.allOnes 32

/-- The type, the state and the protocol, and the words up to `last`.  Up to the thirteenth they
are what packets are matched by and headers are made of. -/
def headBits (last : Nat) : Words 32 := fun word =>
  if word.val = 0 then 0x7F800000 else if word.val ≤ last then BitVec.allOnes 32 else 0

/-- The code of the driver that the patches do not touch.  `setIpv4Tuple` is
`mtk_foe_entry_set_ipv4_tuple` but for 6RD entries; `mangle` is what the rule's mangle actions do
to the data, and `outputDevice` what `mtk_flow_set_output_device` does to the entry, if they
succeed. -/
structure Kernel where
  prepare : PktType → L4proto → FoeEntry
  setIpv4Tuple : Bool → MtkFlowData → FoeEntry → FoeEntry
  setIpv6Tuple : MtkFlowData → FoeEntry → FoeEntry
  mangle : Option (MtkFlowData → MtkFlowData)
  outputDevice : Option (FoeEntry → FoeEntry)
  prepare_type : ∀ pktType l4proto, mtkGetIb1PktType (prepare pktType l4proto) = pktType
  prepare_proto : ∀ pktType l4proto, protonumOf (prepare pktType l4proto) = l4proto
  setIpv4_orig : ∀ data entry, mtkGetIb1PktType entry = MTK_PPE_PKT_TYPE_IPV4_DSLITE →
    Ipv4Hnapt.sip.get (setIpv4Tuple false data entry) = data.v4Src ∧
    Ipv4Hnapt.dip.get (setIpv4Tuple false data entry) = data.v4Dst ∧
    Ipv4Hnapt.sport.get (setIpv4Tuple false data entry) = data.srcPort ∧
    Ipv4Hnapt.dport.get (setIpv4Tuple false data entry) = data.dstPort
  setIpv4_keeps : ∀ egress data entry, mtkGetIb1PktType entry = MTK_PPE_PKT_TYPE_IPV4_DSLITE →
    KeepsBits (outside 1 3) entry (setIpv4Tuple egress data entry)
  setIpv6_tuple : ∀ data entry, mtkGetIb1PktType entry = MTK_PPE_PKT_TYPE_IPV6_6RD →
    Ipv65tRoute.ipv6Sip.get (setIpv6Tuple data entry) = data.v6Src ∧
    Ipv65tRoute.ipv6Dip.get (setIpv6Tuple data entry) = data.v6Dst ∧
    Ipv65tRoute.sport.get (setIpv6Tuple data entry) = data.srcPort ∧
    Ipv65tRoute.dport.get (setIpv6Tuple data entry) = data.dstPort
  setIpv6_keeps : ∀ data entry, mtkGetIb1PktType entry = MTK_PPE_PKT_TYPE_IPV6_6RD →
    KeepsBits (outside 1 9) entry (setIpv6Tuple data entry)
  setIpv6_tunnel : ∀ data entry, mtkGetIb1PktType entry = MTK_PPE_PKT_TYPE_IPV4_DSLITE →
    KeepsBits (outside 4 11) entry (setIpv6Tuple data entry)
  output_keeps : ∀ output, outputDevice = some output → ∀ entry,
    KeepsBits (headBits 13) entry (output entry)

/-! ## The setters of an entry -/

/-- `mtk_foe_entry_ib2`, of the types that are no bridges. -/
def ib2Of (pktType : PktType) : Iblk2 :=
  if MTK_PPE_PKT_TYPE_IPV4_DSLITE ≤ pktType then Ipv66rd.iblk2 else Ipv4Hnapt.iblk2

def mtkFoeEntryUdf (pktType : PktType) : EntryField 32 :=
  if MTK_PPE_PKT_TYPE_IPV4_DSLITE ≤ pktType then udf
  else { word := 10, shift := 0, fits := word_fits }

def orUdf (bits : BitVec 32) (entry : FoeEntry) : FoeEntry :=
  let field := mtkFoeEntryUdf (mtkGetIb1PktType entry)
  field.set (field.get entry ||| bits) entry

/-- The `switch` of `mtk_foe_entry_set_dscp`: the entry and the bits for `udf`. -/
def setTunnelDscp (dscp : BitVec 8) (entry : FoeEntry) : FoeEntry × BitVec 32 :=
  if mtkGetIb1PktType entry = MTK_PPE_PKT_TYPE_IPV4_DSLITE then
    (trafCls.set dscp entry, MTK_FOE_UDF_KEEP_TUNNEL_QOS)
  else if mtkGetIb1PktType entry = MTK_PPE_PKT_TYPE_IPV6_6RD then
    (Ipv66rd.dscp.set dscp entry, MTK_FOE_UDF_KEEP_TUNNEL_QOS)
  else (entry, 0)

def mtkFoeEntrySetDscp (eth : MtkEth) (dscp : BitVec 8) (entry : FoeEntry) : FoeEntry :=
  let marked := setTunnelDscp dscp ((ib2Of (mtkGetIb1PktType entry)).dscp.set dscp entry)
  if eth.v3 && eth.dscpToggle then
    orUdf (MTK_FOE_UDF_KEEP_ECN ||| MTK_FOE_UDF_KEEP_DSCP ||| marked.2) marked.1
  else marked.1

/-- The header of which `mtk_foe_entry_set_csum_base` takes the sum. -/
def csumHeader (eth : MtkEth) (src dst : BitVec 32) (entry : FoeEntry) : Iphdr where
  ihl := 5
  tos := if eth.v3 then 0 else Ipv66rd.dscp.get entry
  totLen := 0
  id := 0
  fragOff := IP_DF
  ttl := Ipv66rd.ttl.get entry
  protocol := if protonumOf entry = .udp then IPPROTO_UDP else IPPROTO_TCP
  check := 0
  saddr := src
  daddr := dst

def mtkFoeEntrySetCsumBase (eth : MtkEth) (src dst : BitVec 32) (entry : FoeEntry) : FoeEntry :=
  if mtkGetIb1PktType entry ≠ MTK_PPE_PKT_TYPE_IPV6_6RD then entry
  else Ipv66rd.hdrChksum.set (~~~ ipFastCsum ⟨csumHeader eth src dst entry, []⟩) entry

def mtkFlowSetIpv4Addr (kernel : Kernel) (eth : MtkEth) (egress : Bool) (data : MtkFlowData)
    (entry : FoeEntry) : FoeEntry :=
  if mtkGetIb1PktType entry = MTK_PPE_PKT_TYPE_IPV6_6RD then
    mtkFoeEntrySetCsumBase eth data.v4Src data.v4Dst
      (Ipv66rd.tunnelDipv4.set data.v4Dst (Ipv66rd.tunnelSipv4.set data.v4Src entry))
  else kernel.setIpv4Tuple egress data entry

/-- `mtk_foe_entry_l2`, of the types from DS-Lite on. -/
def l2 : L2Block := Ipv66rd.l2

def engine : EngineBlock := Ipv65tRoute.engine

def mtkFoeEntrySetVlan (entry : FoeEntry) (vid : BitVec 16) : FoeEntry :=
  if Bfib1.vlanLayer.get entry = 0 then
    l2.vlan1.set vid (l2.spTag.set ETH_P_8021Q (Bfib1.vlanLayer.set 1 entry))
  else if Bfib1.vlanLayer.get entry = 1 then
    if l2.spTag.get entry ≠ ETH_P_8021Q then
      l2.spTag.set (l2.spTag.get entry ||| 0x100) (l2.vlan1.set vid entry)
    else Bfib1.vlanLayer.set 2 (l2.vlan2.set vid entry)
  else entry

def mtkFoeEntrySetPppoe (sid : BitVec 16) (entry : FoeEntry) : FoeEntry :=
  let entry :=
    if Bfib1.vlanLayer.get entry = 0 then l2.spTag.set ETH_P_PPP_SES entry else entry
  l2.pppoeId.set sid (Bfib1.psn.set 1 entry)

def mtkFoeEntrySetTport (tport : BitVec 4) (entry : FoeEntry) : FoeEntry :=
  engine.tportId.set tport entry

def mtkFoeEntrySetCdrt (cdrt : BitVec 16) (entry : FoeEntry) : FoeEntry :=
  engine.cdrtId.set (cdrt.setWidth 8) entry

def mtkFoeEntrySetTopsEntry (topsEntry : BitVec 32) (entry : FoeEntry) : FoeEntry :=
  engine.topsEntry.set (topsEntry.setWidth 6) entry

/-- What `mtk_flow_offload_replace` does to the entry behind `mtk_flow_set_output_device`. -/
def setEncap (rule : FlowRule) (entry : FoeEntry) : FoeEntry :=
  let entry := rule.vlans.foldl mtkFoeEntrySetVlan entry
  let entry := match rule.pppoe with
    | some sid => mtkFoeEntrySetPppoe sid entry
    | none => entry
  let entry :=
    if rule.cdrtId ≠ 0 then
      mtkFoeEntrySetTport TPORT_EIP197_QDMA (mtkFoeEntrySetCdrt rule.cdrtId entry)
    else entry
  if rule.npuEntry ≠ 0 then
    mtkFoeEntrySetTport (if rule.cdrtId ≠ 0 then TPORT_NPU_EIP197_QDMA else TPORT_NPU_QDMA)
      (mtkFoeEntrySetTopsEntry rule.npuEntry entry)
  else entry

/-! ## The search -/

def isTarget (eth : MtkEth) (isV6 : Bool) (data : MtkFlowData) (place : Place) : Bool :=
  let hwe := eth.ppe place.1 place.2
  Bfib1.state.get hwe = MTK_FOE_STATE_UNBIND &&
    if isV6 then
      mtkGetIb1PktType hwe = MTK_PPE_PKT_TYPE_IPV6_ROUTE_5T &&
        Ipv65tRoute.ipv6Sip.get hwe = data.v6Src &&
        Ipv65tRoute.sport.get hwe = data.srcPort && Ipv65tRoute.dport.get hwe = data.dstPort
    else
      mtkGetIb1PktType hwe = MTK_PPE_PKT_TYPE_IPV4_HNAPT &&
        Ipv4Hnapt.dip.get hwe = data.v4Dst &&
        Ipv4Hnapt.sport.get hwe = data.srcPort && Ipv4Hnapt.dport.get hwe = data.dstPort

def mtkFindTupleInPpe (eth : MtkEth) (isV6 : Bool) (data : MtkFlowData) : Option Place :=
  ((List.range eth.ppeNum).foldl (fun scan i =>
    (List.finRange MTK_PPE_ENTRIES).foldl (fun scan j =>
      visit (isTarget eth isV6 data) scan (i, j)) scan) ⟨0, none⟩).sole

def mtkIs464xlatOffloadable (eth : MtkEth) (entry : FoeEntry) : Bool :=
  if mtkGetIb1PktType entry = MTK_PPE_PKT_TYPE_464XLAT_46 ∧ eth.v3 = false then false
  else match eth.conntrack (mtkFoeToCtTuple entry) with
    | none => true
    | some mark => mark &&& 0xff ≠ MTK_PPE_EXCEPTION_TAG

/-! ## `mtk_flow_offload_replace` -/

def offloadType (eth : MtkEth) (rule : FlowRule) : PktType :=
  if eth.xlat464Enabled = true ∧ "464-".toList.isPrefixOf rule.idevName = true then
    match rule.addrs with
    | .ipv4 _ _ => MTK_PPE_PKT_TYPE_464XLAT_64
    | .ipv6 _ _ => MTK_PPE_PKT_TYPE_464XLAT_46
  else
    match rule.addrs with
    | .ipv4 _ _ => MTK_PPE_PKT_TYPE_IPV4_HNAPT
    | .ipv6 _ _ => MTK_PPE_PKT_TYPE_IPV6_ROUTE_5T

/-- `data` once the ports are there. -/
def withPorts (ports : BitVec 16 × BitVec 16) : MtkFlowData where
  v4Src := 0
  v4Dst := 0
  v6Src := 0
  v6Dst := 0
  srcPort := ports.1
  dstPort := ports.2

structure Placed where
  data : MtkFlowData
  entry : FoeEntry
  ppeIndex : Nat

/-- The data for the search of a 6-to-4 flow: the source's address in the NAT64 /96. -/
def data64 (eth : MtkEth) (data : MtkFlowData) (src : BitVec 32) : MtkFlowData :=
  { data with v6Src := eth.nat64.extractLsb' 32 96 ++ src }

/-- The data for the search of a 4-to-6 flow: the low-order bits of the destination. -/
def data46 (data : MtkFlowData) (dst : BitVec 128) : MtkFlowData :=
  { data with v4Dst := dst.extractLsb' 0 32 }

def ttlOr (ttl : BitVec 8) : BitVec 8 := if ttl ≠ 0 then ttl else 127

/-- The entry of a 6-to-4 flow with the tuple that is matched. -/
def entry64 (kernel : Kernel) (rule : FlowRule) (data : MtkFlowData) (entry : FoeEntry) :
    FoeEntry :=
  let entry := Ipv66rd.ttl.set (ttlOr rule.ttl) entry
  let entry := flag.set ((IP_DF >>> 13).setWidth 8) entry
  let entry := udf.set (udf.get entry ||| MTK_FOE_UDF_6RDA_IP4_ID_INC_EN) entry
  kernel.setIpv6Tuple data entry

def entry46 (kernel : Kernel) (eth : MtkEth) (rule : FlowRule) (data : MtkFlowData)
    (entry : FoeEntry) : FoeEntry :=
  mtkFlowSetIpv4Addr kernel eth false data (Ipv4Dslite.hopLimit.set (ttlOr rule.ttl) entry)

def setIpv4 (kernel : Kernel) (eth : MtkEth) (rule : FlowRule) (ppeIndex : Nat)
    (data : MtkFlowData) (entry : FoeEntry) (src dst : BitVec 32) : Except Errno Placed :=
  let finish (data : MtkFlowData) (entry : FoeEntry) (ppeIndex : Nat) : Placed :=
    let data := { data with v4Src := src, v4Dst := dst }
    ⟨data, mtkFlowSetIpv4Addr kernel eth false data entry, ppeIndex⟩
  if eth.xlat464Enabled = true ∧ offloadType eth rule = MTK_PPE_PKT_TYPE_464XLAT_64 then
    let data := data64 eth data src
    match mtkFindTupleInPpe eth true data with
    | none => .error .EINVAL
    | some target =>
      let data := { data with v6Dst := Ipv65tRoute.ipv6Dip.get (eth.ppe target.1 target.2) }
      let entry := entry64 kernel rule data entry
      if mtkIs464xlatOffloadable eth entry then .ok (finish data entry target.1)
      else .error .EOPNOTSUPP
  else .ok (finish data entry ppeIndex)

def setIpv6 (kernel : Kernel) (eth : MtkEth) (rule : FlowRule) (ppeIndex : Nat)
    (data : MtkFlowData) (entry : FoeEntry) (src dst : BitVec 128) : Except Errno Placed :=
  let finish (data : MtkFlowData) (entry : FoeEntry) (ppeIndex : Nat) : Placed :=
    let data := { data with v6Src := src, v6Dst := dst }
    ⟨data, kernel.setIpv6Tuple data entry, ppeIndex⟩
  if eth.xlat464Enabled = true ∧ offloadType eth rule = MTK_PPE_PKT_TYPE_464XLAT_46 then
    let data := data46 data dst
    match mtkFindTupleInPpe eth false data with
    | none => .error .EINVAL
    | some target =>
      let data := { data with v4Src := Ipv4Hnapt.sip.get (eth.ppe target.1 target.2) }
      let entry := entry46 kernel eth rule data entry
      if mtkIs464xlatOffloadable eth entry then .ok (finish data entry target.1)
      else .error .EOPNOTSUPP
  else .ok (finish data entry ppeIndex)

def setAddrs (kernel : Kernel) (eth : MtkEth) (rule : FlowRule) (ppeIndex : Nat)
    (data : MtkFlowData) (entry : FoeEntry) : Except Errno Placed :=
  match rule.addrs with
  | .ipv4 src dst => setIpv4 kernel eth rule ppeIndex data entry src dst
  | .ipv6 src dst => setIpv6 kernel eth rule ppeIndex data entry src dst

def setEgress (kernel : Kernel) (eth : MtkEth) (rule : FlowRule) (data : MtkFlowData)
    (entry : FoeEntry) : FoeEntry :=
  match rule.addrs with
  | .ipv4 _ _ => mtkFlowSetIpv4Addr kernel eth true data entry
  | .ipv6 _ _ => entry

structure MtkFlowEntry where
  data : FoeEntry
  ppeIndex : Nat

/-- `mtk_flow_offload_replace` from the ports on. -/
def offloadPorts (kernel : Kernel) (eth : MtkEth) (rule : FlowRule) (ppeIndex : Nat)
    (ports : BitVec 16 × BitVec 16) : Except Errno MtkFlowEntry :=
  let entry := kernel.prepare (offloadType eth rule) rule.l4proto
  let entry := mtkFoeEntrySetDscp eth rule.tos entry
  match setAddrs kernel eth rule ppeIndex (withPorts ports) entry with
  | .error err => .error err
  | .ok placed =>
    match kernel.mangle with
    | none => .error .EINVAL
    | some mangle =>
      let entry := setEgress kernel eth rule (mangle placed.data) placed.entry
      match kernel.outputDevice with
      | none => .error .EOPNOTSUPP
      | some output => .ok ⟨setEncap rule (output entry), placed.ppeIndex⟩

def mtkFlowOffloadReplace (kernel : Kernel) (eth : MtkEth) (rule : FlowRule) (ppeIndex : Nat) :
    Except Errno MtkFlowEntry :=
  if rule.known then .error .EEXIST
  else if rule.ctMark = some MTK_PPE_EXCEPTION_TAG then .error .EOPNOTSUPP
  else if rule.macsValid = false then .error .EINVAL
  else match rule.ports with
    | none => .error .EOPNOTSUPP
    | some ports => offloadPorts kernel eth rule ppeIndex ports

/-- What `__mtk_foe_entry_commit` writes into the table; `shape` is what the shaper does to
`ib2`. -/
def mtkFoeEntryCommit (timestamp : BitVec 8) (shape : BitVec 32 → BitVec 32)
    (hwe entry : FoeEntry) : FoeEntry :=
  let entry := Bfib1.timeStamp.set timestamp (Bfib1.sp.set (Bfib1.sp.get hwe) entry)
  let ib2 : EntryField 32 := { word := 14, shift := 0, fits := word_fits }
  ib2.set (shape (ib2.get entry)) entry

/-! ## What the search finds -/

def places (eth : MtkEth) : List Place :=
  List.range eth.ppeNum ×ˢ List.finRange MTK_PPE_ENTRIES

theorem mem_places {eth : MtkEth} {place : Place} : place ∈ places eth ↔ place.1 < eth.ppeNum := by
  obtain ⟨i, j⟩ := place
  unfold places
  rw [List.mem_product, List.mem_range]
  exact and_iff_left (List.mem_finRange _)

theorem nodup_places (eth : MtkEth) : (places eth).Nodup :=
  List.Nodup.product List.nodup_range (List.nodup_finRange _)

section Search

variable {eth : MtkEth} {isV6 : Bool} {data : MtkFlowData} {place : Place}

theorem find_eq_some_iff :
    mtkFindTupleInPpe eth isV6 data = some place ↔
      (places eth).filter (isTarget eth isV6 data) = [place] := by
  have pairs : places eth = (List.range eth.ppeNum).flatMap fun i =>
      (List.finRange MTK_PPE_ENTRIES).map (Prod.mk i) := rfl
  rw [← sole_eq_some_iff, pairs, List.foldl_flatMap]
  simp only [List.foldl_map]
  rfl

theorem find_hit (found : mtkFindTupleInPpe eth isV6 data = some place) :
    place.1 < eth.ppeNum ∧ isTarget eth isV6 data place = true := by
  have member : place ∈ (places eth).filter (isTarget eth isV6 data) := by
    rw [find_eq_some_iff.mp found]
    exact List.mem_singleton_self place
  obtain ⟨inside, hit⟩ := List.mem_filter.mp member
  exact ⟨mem_places.mp inside, hit⟩

theorem find_of_sole (inside : place.1 < eth.ppeNum) (hit : isTarget eth isV6 data place = true)
    (others : ∀ other, isTarget eth isV6 data other = true → other = place) :
    mtkFindTupleInPpe eth isV6 data = some place :=
  find_eq_some_iff.mpr (filter_eq_singleton (nodup_places eth) (mem_places.mpr inside) hit
    fun other _ => others other)

end Search

/-! ## What the setters leave alone -/

variable {entry entry' : FoeEntry}

theorem type_of_keeps {last : Nat} (keeps : KeepsBits (headBits last) entry entry') :
    mtkGetIb1PktType entry' = mtkGetIb1PktType entry ∧ protonumOf entry' = protonumOf entry := by
  have typeWithin : Bfib1.pktType.Within (headBits last) := by
    show Bfib1.pktType.mask &&& 0x7F800000 = Bfib1.pktType.mask
    decide
  have udpWithin : Bfib1.udp.Within (headBits last) := by
    show Bfib1.udp.mask &&& 0x7F800000 = Bfib1.udp.mask
    decide
  unfold mtkGetIb1PktType protonumOf
  rw [keeps.get _ typeWithin, keeps.get _ udpWithin]
  exact ⟨rfl, rfl⟩

theorem headBits_mono {last less : Nat} (le : less ≤ last)
    (keeps : KeepsBits (headBits last) entry entry') : KeepsBits (headBits less) entry entry' := by
  refine keeps.mono fun word => ?_
  unfold headBits
  by_cases first : word.val = 0
  · rw [if_pos first, if_pos first, BitVec.and_self]
  · rw [if_neg first, if_neg first]
    by_cases low : word.val ≤ less
    · rw [if_pos low, if_pos (by omega), BitVec.and_self]
    · rw [if_neg low]
      exact BitVec.and_zero

theorem tuple_of_keeps (keeps : KeepsBits (headBits 9) entry entry') :
    mtkFoeToCtTuple entry' = mtkFoeToCtTuple entry := by
  obtain ⟨sameType, sameProto⟩ := type_of_keeps keeps
  unfold mtkFoeToCtTuple Ipv6Field.get
  rw [sameType, sameProto]
  simp only [keeps.get _ (show Ipv4Hnapt.sip.Within (headBits 9) by decide),
    keeps.get _ (show Ipv4Hnapt.dip.Within (headBits 9) by decide),
    keeps.get _ (show Ipv4Hnapt.sport.Within (headBits 9) by decide),
    keeps.get _ (show Ipv4Hnapt.dport.Within (headBits 9) by decide),
    keeps.get _ (show Ipv65tRoute.ipv6Sip.ip0.Within (headBits 9) by decide),
    keeps.get _ (show Ipv65tRoute.ipv6Sip.ip1.Within (headBits 9) by decide),
    keeps.get _ (show Ipv65tRoute.ipv6Sip.ip2.Within (headBits 9) by decide),
    keeps.get _ (show Ipv65tRoute.ipv6Sip.ip3.Within (headBits 9) by decide),
    keeps.get _ (show Ipv65tRoute.ipv6Dip.ip0.Within (headBits 9) by decide),
    keeps.get _ (show Ipv65tRoute.ipv6Dip.ip1.Within (headBits 9) by decide),
    keeps.get _ (show Ipv65tRoute.ipv6Dip.ip2.Within (headBits 9) by decide),
    keeps.get _ (show Ipv65tRoute.ipv6Dip.ip3.Within (headBits 9) by decide),
    keeps.get _ (show Ipv65tRoute.sport.Within (headBits 9) by decide),
    keeps.get _ (show Ipv65tRoute.dport.Within (headBits 9) by decide)]

theorem setDscp_keeps (eth : MtkEth) (dscp : BitVec 8) (entry : FoeEntry) :
    KeepsBits (headBits 3) entry (mtkFoeEntrySetDscp eth dscp entry) := by
  have ib2 : KeepsBits (headBits 3) entry
      ((ib2Of (mtkGetIb1PktType entry)).dscp.set dscp entry) := by
    refine Field.keepsBits_set _ _ _ ?_
    unfold ib2Of
    split <;> decide
  have tunnel : ∀ other : FoeEntry, KeepsBits (headBits 3) other (setTunnelDscp dscp other).1 := by
    intro other
    unfold setTunnelDscp
    split
    · exact Field.keepsBits_set _ _ _ (by decide)
    · split
      · exact Field.keepsBits_set _ _ _ (by decide)
      · exact KeepsBits.refl _ _
  unfold mtkFoeEntrySetDscp
  dsimp only
  split
  · refine (ib2.trans (tunnel _)).trans (Field.keepsBits_set _ _ _ ?_)
    unfold mtkFoeEntryUdf
    split <;> decide
  · exact ib2.trans (tunnel _)

theorem setVlan_keeps (entry : FoeEntry) (vid : BitVec 16) :
    KeepsBits (headBits 13) entry (mtkFoeEntrySetVlan entry vid) := by
  unfold mtkFoeEntrySetVlan
  split
  · exact ((Field.keepsBits_set _ _ _ (by decide)).trans
      (Field.keepsBits_set _ _ _ (by decide))).trans (Field.keepsBits_set _ _ _ (by decide))
  · split
    · split
      · exact (Field.keepsBits_set _ _ _ (by decide)).trans (Field.keepsBits_set _ _ _ (by decide))
      · exact (Field.keepsBits_set _ _ _ (by decide)).trans (Field.keepsBits_set _ _ _ (by decide))
    · exact KeepsBits.refl _ _

theorem setVlans_keeps (entry : FoeEntry) (vids : List (BitVec 16)) :
    KeepsBits (headBits 13) entry (vids.foldl mtkFoeEntrySetVlan entry) := by
  induction vids generalizing entry with
  | nil => exact KeepsBits.refl _ _
  | cons vid vids ih => exact (setVlan_keeps entry vid).trans (ih _)

theorem setPppoe_keeps (sid : BitVec 16) (entry : FoeEntry) :
    KeepsBits (headBits 13) entry (mtkFoeEntrySetPppoe sid entry) := by
  unfold mtkFoeEntrySetPppoe
  dsimp only
  split
  · exact ((Field.keepsBits_set _ _ _ (by decide)).trans
      (Field.keepsBits_set _ _ _ (by decide))).trans (Field.keepsBits_set _ _ _ (by decide))
  · exact (Field.keepsBits_set _ _ _ (by decide)).trans (Field.keepsBits_set _ _ _ (by decide))

theorem setEncap_keeps (rule : FlowRule) (entry : FoeEntry) :
    KeepsBits (headBits 13) entry (setEncap rule entry) := by
  have tport : ∀ tport other, KeepsBits (headBits 13) other (mtkFoeEntrySetTport tport other) :=
    fun _ _ => Field.keepsBits_set _ _ _ (by decide)
  have cdrt : ∀ other, KeepsBits (headBits 13) other (mtkFoeEntrySetCdrt rule.cdrtId other) :=
    fun _ => Field.keepsBits_set _ _ _ (by decide)
  have tops : ∀ other, KeepsBits (headBits 13) other
      (mtkFoeEntrySetTopsEntry rule.npuEntry other) :=
    fun _ => Field.keepsBits_set _ _ _ (by decide)
  have vlans := setVlans_keeps entry rule.vlans
  have pppoe : KeepsBits (headBits 13) entry (match rule.pppoe with
      | some sid => mtkFoeEntrySetPppoe sid (rule.vlans.foldl mtkFoeEntrySetVlan entry)
      | none => rule.vlans.foldl mtkFoeEntrySetVlan entry) := by
    cases rule.pppoe with
    | none => exact vlans
    | some sid => exact vlans.trans (setPppoe_keeps sid _)
  unfold setEncap
  dsimp only
  split
  · refine KeepsBits.trans ?_ ((tops _).trans (tport _ _))
    split
    · exact pppoe.trans ((cdrt _).trans (tport _ _))
    · exact pppoe
  · split
    · exact pppoe.trans ((cdrt _).trans (tport _ _))
    · exact pppoe

theorem commit_keeps (timestamp : BitVec 8) (shape : BitVec 32 → BitVec 32) (hwe entry : FoeEntry) :
    KeepsBits (headBits 13) entry (mtkFoeEntryCommit timestamp shape hwe entry) := by
  unfold mtkFoeEntryCommit
  exact ((Field.keepsBits_set _ _ _ (by decide)).trans
    (Field.keepsBits_set _ _ _ (by decide))).trans (Field.keepsBits_set _ _ _ (by decide))

theorem setIpv4Addr_6rd (kernel : Kernel) (eth : MtkEth) (egress : Bool) (data : MtkFlowData)
    (type : mtkGetIb1PktType entry = MTK_PPE_PKT_TYPE_IPV6_6RD) :
    mtkFlowSetIpv4Addr kernel eth egress data entry =
      let tunnelled :=
        Ipv66rd.tunnelDipv4.set data.v4Dst (Ipv66rd.tunnelSipv4.set data.v4Src entry)
      Ipv66rd.hdrChksum.set
        (~~~ ipFastCsum ⟨csumHeader eth data.v4Src data.v4Dst tunnelled, []⟩) tunnelled := by
  have same : mtkGetIb1PktType
      (Ipv66rd.tunnelDipv4.set data.v4Dst (Ipv66rd.tunnelSipv4.set data.v4Src entry)) =
        mtkGetIb1PktType entry := by
    unfold mtkGetIb1PktType
    simp (disch := decide) only [Field.get_set_of_apart]
  unfold mtkFlowSetIpv4Addr mtkFoeEntrySetCsumBase
  rw [if_pos type, if_neg (by rw [same]; exact not_not_intro type)]

theorem setIpv4Addr_keeps (kernel : Kernel) (eth : MtkEth) (egress : Bool) (data : MtkFlowData)
    (type : mtkGetIb1PktType entry = MTK_PPE_PKT_TYPE_IPV6_6RD) :
    KeepsBits (headBits 9) entry (mtkFlowSetIpv4Addr kernel eth egress data entry) := by
  rw [setIpv4Addr_6rd kernel eth egress data type]
  exact ((Field.keepsBits_set _ _ _ (by decide)).trans
    (Field.keepsBits_set _ _ _ (by decide))).trans (Field.keepsBits_set _ _ _ (by decide))

/-! ## Flows from a 464XLAT device -/

/-- The rule is for packets that a CLAT has translated: IPv4 packets from the 464XLAT device, or
IPv6 packets from it, to a destination in the NAT64 /96. -/
structure FromXlat (eth : MtkEth) (rule : FlowRule) : Prop where
  enabled : eth.xlat464Enabled = true
  device : "464-".toList.isPrefixOf rule.idevName = true
  nat64 : ∀ src dst, rule.addrs = .ipv6 src dst →
    dst.extractLsb' 32 96 = eth.nat64.extractLsb' 32 96

def searchSide (rule : FlowRule) : Bool :=
  match rule.addrs with
  | .ipv4 _ _ => true
  | .ipv6 _ _ => false

def searchData (eth : MtkEth) (rule : FlowRule) (data : MtkFlowData) : MtkFlowData :=
  match rule.addrs with
  | .ipv4 src _ => data64 eth data src
  | .ipv6 _ dst => data46 data dst

/-- The data with the address of the entry that was found. -/
def foundData (eth : MtkEth) (rule : FlowRule) (data : MtkFlowData) (target : Place) :
    MtkFlowData :=
  match rule.addrs with
  | .ipv4 _ _ =>
    { searchData eth rule data with
      v6Dst := Ipv65tRoute.ipv6Dip.get (eth.ppe target.1 target.2) }
  | .ipv6 _ _ =>
    { searchData eth rule data with v4Src := Ipv4Hnapt.sip.get (eth.ppe target.1 target.2) }

def builtEntry (kernel : Kernel) (eth : MtkEth) (rule : FlowRule) (data : MtkFlowData)
    (entry : FoeEntry) : FoeEntry :=
  match rule.addrs with
  | .ipv4 _ _ => entry64 kernel rule data entry
  | .ipv6 _ _ => entry46 kernel eth rule data entry

def ownData (rule : FlowRule) (data : MtkFlowData) : MtkFlowData :=
  match rule.addrs with
  | .ipv4 src dst => { data with v4Src := src, v4Dst := dst }
  | .ipv6 src dst => { data with v6Src := src, v6Dst := dst }

def tunnelEntry (kernel : Kernel) (eth : MtkEth) (rule : FlowRule) (data : MtkFlowData)
    (entry : FoeEntry) : FoeEntry :=
  match rule.addrs with
  | .ipv4 _ _ => mtkFlowSetIpv4Addr kernel eth false data entry
  | .ipv6 _ _ => kernel.setIpv6Tuple data entry

def preparedEntry (kernel : Kernel) (eth : MtkEth) (rule : FlowRule) : FoeEntry :=
  mtkFoeEntrySetDscp eth rule.tos (kernel.prepare (offloadType eth rule) rule.l4proto)

def findTarget (eth : MtkEth) (rule : FlowRule) (ports : BitVec 16 × BitVec 16) : Option Place :=
  mtkFindTupleInPpe eth (searchSide rule) (searchData eth rule (withPorts ports))

/-- The entry with the tuple that is matched, made with the entry that was found. -/
def keyEntry (kernel : Kernel) (eth : MtkEth) (rule : FlowRule) (ports : BitVec 16 × BitVec 16)
    (target : Place) : FoeEntry :=
  builtEntry kernel eth rule (foundData eth rule (withPorts ports) target)
    (preparedEntry kernel eth rule)

def finalEntry (kernel : Kernel) (eth : MtkEth) (rule : FlowRule) (ports : BitVec 16 × BitVec 16)
    (target : Place) (mangle : MtkFlowData → MtkFlowData) (output : FoeEntry → FoeEntry) :
    FoeEntry :=
  let data := ownData rule (foundData eth rule (withPorts ports) target)
  setEncap rule (output (setEgress kernel eth rule (mangle data)
    (tunnelEntry kernel eth rule data (keyEntry kernel eth rule ports target))))

structure Admitted (rule : FlowRule) : Prop where
  known : rule.known = false
  ctMark : rule.ctMark ≠ some MTK_PPE_EXCEPTION_TAG
  macs : rule.macsValid = true

section Replace

variable {kernel : Kernel} {eth : MtkEth} {rule : FlowRule} {ppeIndex : Nat}

theorem offloadType_xlat (flow : FromXlat eth rule) :
    offloadType eth rule =
      if searchSide rule then MTK_PPE_PKT_TYPE_464XLAT_64 else MTK_PPE_PKT_TYPE_464XLAT_46 := by
  unfold offloadType searchSide
  rw [if_pos ⟨flow.enabled, flow.device⟩]
  cases rule.addrs <;> rfl

theorem setAddrs_xlat (flow : FromXlat eth rule) (data : MtkFlowData) (entry : FoeEntry) :
    setAddrs kernel eth rule ppeIndex data entry =
      match mtkFindTupleInPpe eth (searchSide rule) (searchData eth rule data) with
      | none => .error .EINVAL
      | some target =>
        let found := foundData eth rule data target
        let built := builtEntry kernel eth rule found entry
        if mtkIs464xlatOffloadable eth built then
          .ok ⟨ownData rule found, tunnelEntry kernel eth rule (ownData rule found) built,
            target.1⟩
        else .error .EOPNOTSUPP := by
  have type := offloadType_xlat flow
  unfold setAddrs setIpv4 setIpv6 ownData tunnelEntry builtEntry foundData searchData
  unfold searchSide at type ⊢
  cases addrs : rule.addrs with
  | ipv4 src dst =>
    rw [addrs] at type
    dsimp only
    rw [if_pos ⟨flow.enabled, type⟩]
  | ipv6 src dst =>
    rw [addrs] at type
    dsimp only
    rw [if_pos ⟨flow.enabled, type⟩]

theorem setAddrs_prepared (flow : FromXlat eth rule) (ports : BitVec 16 × BitVec 16) :
    setAddrs kernel eth rule ppeIndex (withPorts ports)
        (mtkFoeEntrySetDscp eth rule.tos (kernel.prepare (offloadType eth rule) rule.l4proto)) =
      match findTarget eth rule ports with
      | none => .error .EINVAL
      | some target =>
        let data := ownData rule (foundData eth rule (withPorts ports) target)
        if mtkIs464xlatOffloadable eth (keyEntry kernel eth rule ports target) then
          .ok ⟨data, tunnelEntry kernel eth rule data (keyEntry kernel eth rule ports target),
            target.1⟩
        else .error .EOPNOTSUPP :=
  setAddrs_xlat flow _ _

theorem offloadPorts_ok_iff (flow : FromXlat eth rule) (ports : BitVec 16 × BitVec 16)
    (out : MtkFlowEntry) :
    offloadPorts kernel eth rule ppeIndex ports = .ok out ↔
      ∃ target mangle output, findTarget eth rule ports = some target ∧
        mtkIs464xlatOffloadable eth (keyEntry kernel eth rule ports target) = true ∧
        kernel.mangle = some mangle ∧ kernel.outputDevice = some output ∧
        out = ⟨finalEntry kernel eth rule ports target mangle output, target.1⟩ := by
  unfold offloadPorts
  dsimp only
  rw [setAddrs_prepared flow]
  cases findTarget eth rule ports with
  | none => simp
  | some target =>
    cases offloadable : mtkIs464xlatOffloadable eth (keyEntry kernel eth rule ports target) with
    | false => simp [offloadable]
    | true =>
      dsimp only
      rw [if_pos offloadable]
      cases mangled : kernel.mangle with
      | none => simp
      | some mangle =>
        cases device : kernel.outputDevice with
        | none => simp
        | some output =>
          constructor
          · intro done
            exact ⟨target, mangle, output, rfl, offloadable, rfl, rfl,
              (Except.ok.inj done).symm⟩
          · rintro ⟨_, _, _, found, -, sameMangle, sameOutput, rfl⟩
            cases found
            cases sameMangle
            cases sameOutput
            rfl

theorem replace_eq_offloadPorts (out : MtkFlowEntry) :
    mtkFlowOffloadReplace kernel eth rule ppeIndex = .ok out ↔
      Admitted rule ∧ ∃ ports, rule.ports = some ports ∧
        offloadPorts kernel eth rule ppeIndex ports = .ok out := by
  unfold mtkFlowOffloadReplace
  constructor
  · intro done
    split at done
    · cases done
    · rename_i known
      split at done
      · cases done
      · rename_i ctMark
        split at done
        · cases done
        · rename_i macs
          split at done
          · cases done
          · rename_i ports given
            exact ⟨⟨eq_false_of_ne_true known, ctMark, eq_true_of_ne_false macs⟩, ports, given,
              done⟩
  · rintro ⟨admitted, ports, given, done⟩
    rw [if_neg (ne_true_of_eq_false admitted.known), if_neg admitted.ctMark,
      if_neg (ne_false_of_eq_true admitted.macs), given]
    exact done

theorem replace_ok_iff (flow : FromXlat eth rule) (out : MtkFlowEntry) :
    mtkFlowOffloadReplace kernel eth rule ppeIndex = .ok out ↔
      Admitted rule ∧ ∃ ports, rule.ports = some ports ∧ ∃ target mangle output,
        findTarget eth rule ports = some target ∧
        mtkIs464xlatOffloadable eth (keyEntry kernel eth rule ports target) = true ∧
        kernel.mangle = some mangle ∧ kernel.outputDevice = some output ∧
        out = ⟨finalEntry kernel eth rule ports target mangle output, target.1⟩ := by
  rw [replace_eq_offloadPorts]
  simp only [offloadPorts_ok_iff flow]

end Replace

/-! ## What an offloaded flow is matched by -/

theorem toCtTuple_ipv4 (type : mtkGetIb1PktType entry = MTK_PPE_PKT_TYPE_IPV4_HNAPT ∨
      mtkGetIb1PktType entry = MTK_PPE_PKT_TYPE_IPV4_DSLITE) :
    mtkFoeToCtTuple entry =
      { protonum := protonumOf entry
        src := .ip (Ipv4Hnapt.sip.get entry)
        dst := .ip (Ipv4Hnapt.dip.get entry)
        srcPort := Ipv4Hnapt.sport.get entry
        dstPort := Ipv4Hnapt.dport.get entry } := by
  unfold mtkFoeToCtTuple
  rw [if_pos type]

theorem toCtTuple_ipv6 (type : mtkGetIb1PktType entry = MTK_PPE_PKT_TYPE_IPV6_ROUTE_5T ∨
      mtkGetIb1PktType entry = MTK_PPE_PKT_TYPE_IPV6_6RD) :
    mtkFoeToCtTuple entry =
      { protonum := protonumOf entry
        src := .in6 (Ipv65tRoute.ipv6Sip.get entry)
        dst := .in6 (Ipv65tRoute.ipv6Dip.get entry)
        srcPort := Ipv65tRoute.sport.get entry
        dstPort := Ipv65tRoute.dport.get entry } := by
  have other : ¬ (mtkGetIb1PktType entry = MTK_PPE_PKT_TYPE_IPV4_HNAPT ∨
      mtkGetIb1PktType entry = MTK_PPE_PKT_TYPE_IPV4_DSLITE) := by
    rcases type with type | type <;> rw [type] <;> decide
  unfold mtkFoeToCtTuple
  rw [if_neg other, if_pos type]

theorem tuple_of_keeps_dslite (keeps : KeepsBits (headBits 3) entry entry')
    (type : mtkGetIb1PktType entry = MTK_PPE_PKT_TYPE_IPV4_DSLITE) :
    mtkFoeToCtTuple entry' = mtkFoeToCtTuple entry := by
  obtain ⟨sameType, sameProto⟩ := type_of_keeps keeps
  rw [toCtTuple_ipv4 (.inr type), toCtTuple_ipv4 (.inr (sameType.trans type)), sameProto,
    keeps.get _ (show Ipv4Hnapt.sip.Within (headBits 3) by decide),
    keeps.get _ (show Ipv4Hnapt.dip.Within (headBits 3) by decide),
    keeps.get _ (show Ipv4Hnapt.sport.Within (headBits 3) by decide),
    keeps.get _ (show Ipv4Hnapt.dport.Within (headBits 3) by decide)]

/-- The tuple that packets of the entry are matched by: the rule's ports and protocol and one of
its addresses, and the other address from the entry that was found. -/
def keyTuple (eth : MtkEth) (rule : FlowRule) (ports : BitVec 16 × BitVec 16) (target : Place) :
    CtTuple :=
  let hwe := eth.ppe target.1 target.2
  match rule.addrs with
  | .ipv4 src _ =>
    ⟨rule.l4proto, .in6 (eth.nat64.extractLsb' 32 96 ++ src), .in6 (Ipv65tRoute.ipv6Dip.get hwe),
      ports.1, ports.2⟩
  | .ipv6 _ dst =>
    ⟨rule.l4proto, .ip (Ipv4Hnapt.sip.get hwe), .ip (dst.extractLsb' 0 32), ports.1, ports.2⟩

section Keys

variable {kernel : Kernel} {eth : MtkEth} {rule : FlowRule} {src dst : BitVec 32}
variable {src6 dst6 : BitVec 128} (ports : BitVec 16 × BitVec 16) (target : Place)

theorem preparedEntry_type (kernel : Kernel) (eth : MtkEth) (rule : FlowRule) :
    mtkGetIb1PktType (preparedEntry kernel eth rule) = offloadType eth rule ∧
      protonumOf (preparedEntry kernel eth rule) = rule.l4proto := by
  obtain ⟨type, proto⟩ := type_of_keeps (setDscp_keeps eth rule.tos
    (kernel.prepare (offloadType eth rule) rule.l4proto))
  exact ⟨type.trans (kernel.prepare_type _ _), proto.trans (kernel.prepare_proto _ _)⟩

theorem prepared64 (kernel : Kernel) (flow : FromXlat eth rule)
    (addrs : rule.addrs = .ipv4 src dst) :
    mtkGetIb1PktType (preparedEntry kernel eth rule) = MTK_PPE_PKT_TYPE_IPV6_6RD := by
  rw [(preparedEntry_type kernel eth rule).1, offloadType_xlat flow]
  unfold searchSide
  rw [addrs]
  rfl

theorem prepared46 (kernel : Kernel) (flow : FromXlat eth rule)
    (addrs : rule.addrs = .ipv6 src6 dst6) :
    mtkGetIb1PktType (preparedEntry kernel eth rule) = MTK_PPE_PKT_TYPE_IPV4_DSLITE := by
  rw [(preparedEntry_type kernel eth rule).1, offloadType_xlat flow]
  unfold searchSide
  rw [addrs]
  rfl

/-- The entry as `setIpv6Tuple` gets it. -/
def marked64 (rule : FlowRule) (entry : FoeEntry) : FoeEntry :=
  let entry := flag.set ((IP_DF >>> 13).setWidth 8) (Ipv66rd.ttl.set (ttlOr rule.ttl) entry)
  udf.set (udf.get entry ||| MTK_FOE_UDF_6RDA_IP4_ID_INC_EN) entry

theorem marked64_keeps (rule : FlowRule) (entry : FoeEntry) :
    KeepsBits (headBits 11) entry (marked64 rule entry) :=
  ((Field.keepsBits_set _ _ _ (by decide)).trans (Field.keepsBits_set _ _ _ (by decide))).trans
    (Field.keepsBits_set _ _ _ (by decide))

theorem entry64_type (kernel : Kernel) (rule : FlowRule) (data : MtkFlowData) {entry : FoeEntry}
    (type : mtkGetIb1PktType entry = MTK_PPE_PKT_TYPE_IPV6_6RD) :
    mtkGetIb1PktType (entry64 kernel rule data entry) = MTK_PPE_PKT_TYPE_IPV6_6RD ∧
      protonumOf (entry64 kernel rule data entry) = protonumOf entry := by
  obtain ⟨markedType, markedProto⟩ := type_of_keeps (marked64_keeps rule entry)
  have keeps := kernel.setIpv6_keeps data (marked64 rule entry) (markedType.trans type)
  have head : KeepsBits (headBits 0) _ _ := keeps.mono (by decide)
  obtain ⟨setType, setProto⟩ := type_of_keeps head
  exact ⟨setType.trans (markedType.trans type), setProto.trans markedProto⟩

theorem entry46_type (kernel : Kernel) (eth : MtkEth) (rule : FlowRule) (data : MtkFlowData)
    {entry : FoeEntry} (type : mtkGetIb1PktType entry = MTK_PPE_PKT_TYPE_IPV4_DSLITE) :
    mtkGetIb1PktType (entry46 kernel eth rule data entry) = MTK_PPE_PKT_TYPE_IPV4_DSLITE ∧
      protonumOf (entry46 kernel eth rule data entry) = protonumOf entry ∧
      mtkFoeToCtTuple (entry46 kernel eth rule data entry) =
        ⟨protonumOf entry, .ip data.v4Src, .ip data.v4Dst, data.srcPort, data.dstPort⟩ := by
  have hop : KeepsBits (headBits 0) entry (Ipv4Dslite.hopLimit.set (ttlOr rule.ttl) entry) :=
    Field.keepsBits_set _ _ _ (by decide)
  obtain ⟨hopType, hopProto⟩ := type_of_keeps hop
  have hopped := hopType.trans type
  have six : MTK_PPE_PKT_TYPE_IPV4_DSLITE ≠ MTK_PPE_PKT_TYPE_IPV6_6RD := by decide
  have keeps : KeepsBits (headBits 0) _ _ :=
    (kernel.setIpv4_keeps false data _ hopped).mono (by decide)
  obtain ⟨setType, setProto⟩ := type_of_keeps keeps
  obtain ⟨sip, dip, sport, dport⟩ := kernel.setIpv4_orig data _ hopped
  have entered : entry46 kernel eth rule data entry =
      kernel.setIpv4Tuple false data (Ipv4Dslite.hopLimit.set (ttlOr rule.ttl) entry) := by
    unfold entry46 mtkFlowSetIpv4Addr
    rw [if_neg (by rw [hopped]; exact six)]
  rw [entered, toCtTuple_ipv4 (.inr (setType.trans hopped)), sip, dip, sport, dport]
  exact ⟨setType.trans hopped, setProto.trans hopProto, by rw [setProto.trans hopProto]⟩

theorem keyEntry_tuple (kernel : Kernel) (flow : FromXlat eth rule) :
    mtkFoeToCtTuple (keyEntry kernel eth rule ports target) = keyTuple eth rule ports target := by
  have proto := (preparedEntry_type kernel eth rule).2
  unfold keyEntry builtEntry foundData searchData keyTuple
  cases addrs : rule.addrs with
  | ipv4 src dst =>
    have type := prepared64 kernel flow addrs
    dsimp only
    obtain ⟨entryType, entryProto⟩ := entry64_type kernel rule
      { data64 eth (withPorts ports) src with
        v6Dst := Ipv65tRoute.ipv6Dip.get (eth.ppe target.1 target.2) } type
    obtain ⟨markedType, -⟩ := type_of_keeps (marked64_keeps rule (preparedEntry kernel eth rule))
    obtain ⟨sip, dip, sport, dport⟩ := kernel.setIpv6_tuple
      { data64 eth (withPorts ports) src with
        v6Dst := Ipv65tRoute.ipv6Dip.get (eth.ppe target.1 target.2) }
      (marked64 rule (preparedEntry kernel eth rule)) (markedType.trans type)
    rw [toCtTuple_ipv6 (.inr entryType), entryProto, proto]
    unfold entry64
    unfold marked64 at sip dip sport dport
    rw [sip, dip, sport, dport]
    rfl
  | ipv6 src dst =>
    have type := prepared46 kernel flow addrs
    dsimp only
    obtain ⟨-, -, tuple⟩ := entry46_type kernel eth rule
      { data46 (withPorts ports) dst with
        v4Src := Ipv4Hnapt.sip.get (eth.ppe target.1 target.2) } type
    rw [tuple, proto]
    rfl

theorem keyEntry_type (kernel : Kernel) (flow : FromXlat eth rule) :
    mtkGetIb1PktType (keyEntry kernel eth rule ports target) = offloadType eth rule ∧
      protonumOf (keyEntry kernel eth rule ports target) = rule.l4proto := by
  have proto := (preparedEntry_type kernel eth rule).2
  rw [offloadType_xlat flow]
  unfold keyEntry builtEntry searchSide
  cases addrs : rule.addrs with
  | ipv4 src dst =>
    obtain ⟨type, same⟩ := entry64_type kernel rule
      (foundData eth rule (withPorts ports) target) (prepared64 kernel flow addrs)
    exact ⟨type, same.trans proto⟩
  | ipv6 src dst =>
    obtain ⟨type, same, -⟩ := entry46_type kernel eth rule
      (foundData eth rule (withPorts ports) target) (prepared46 kernel flow addrs)
    exact ⟨type, same.trans proto⟩

theorem finalEntry_tuple (kernel : Kernel) (flow : FromXlat eth rule)
    (mangle : MtkFlowData → MtkFlowData) {output : FoeEntry → FoeEntry}
    (device : kernel.outputDevice = some output) :
    mtkFoeToCtTuple (finalEntry kernel eth rule ports target mangle output) =
      keyTuple eth rule ports target := by
  rw [← keyEntry_tuple ports target kernel flow]
  have type := (keyEntry_type ports target kernel flow).1
  rw [offloadType_xlat flow] at type
  have late : ∀ entry, KeepsBits (headBits 13) entry (setEncap rule (output entry)) := fun entry =>
    (kernel.output_keeps output device entry).trans (setEncap_keeps rule _)
  unfold finalEntry setEgress tunnelEntry
  unfold searchSide at type
  cases addrs : rule.addrs with
  | ipv4 src dst =>
    rw [addrs] at type
    dsimp only
    have first := setIpv4Addr_keeps kernel eth false
      (ownData rule (foundData eth rule (withPorts ports) target)) type
    have typeFirst := (type_of_keeps first).1.trans type
    have second := setIpv4Addr_keeps kernel eth true
      (mangle (ownData rule (foundData eth rule (withPorts ports) target))) typeFirst
    exact tuple_of_keeps ((first.trans second).trans (headBits_mono (by omega) (late _)))
  | ipv6 src dst =>
    rw [addrs] at type
    dsimp only
    have tunnel : KeepsBits (headBits 3) _ _ :=
      (kernel.setIpv6_tunnel (ownData rule (foundData eth rule (withPorts ports) target)) _
        type).mono (by decide)
    exact tuple_of_keeps_dslite (tunnel.trans (headBits_mono (by omega) (late _))) type

end Keys

/-! ## A driver -/

def plainPrepare (pktType : PktType) (l4proto : L4proto) : FoeEntry :=
  Bfib1.udp.set (if l4proto = .udp then 1 else 0)
    (Bfib1.pktType.set pktType (Bfib1.state.set BIND FoeEntry.zero))

def plainSetIpv4Tuple (data : MtkFlowData) (entry : FoeEntry) : FoeEntry :=
  Ipv4Hnapt.dport.set data.dstPort (Ipv4Hnapt.sport.set data.srcPort
    (Ipv4Hnapt.dip.set data.v4Dst (Ipv4Hnapt.sip.set data.v4Src entry)))

def plainSetIpv6Tuple (data : MtkFlowData) (entry : FoeEntry) : FoeEntry :=
  if mtkGetIb1PktType entry = MTK_PPE_PKT_TYPE_IPV4_DSLITE then
    Ipv4Dslite.tunnelDipv6.set data.v6Dst (Ipv4Dslite.tunnelSipv6.set data.v6Src entry)
  else
    Ipv65tRoute.ipv6Dip.set data.v6Dst (Ipv65tRoute.ipv6Sip.set data.v6Src
      (Ipv65tRoute.dport.set data.dstPort (Ipv65tRoute.sport.set data.srcPort entry)))

theorem plainSetIpv6Tuple_6rd (data : MtkFlowData) (entry : FoeEntry)
    (type : mtkGetIb1PktType entry = MTK_PPE_PKT_TYPE_IPV6_6RD) :
    plainSetIpv6Tuple data entry =
      Ipv65tRoute.ipv6Dip.set data.v6Dst (Ipv65tRoute.ipv6Sip.set data.v6Src
        (Ipv65tRoute.dport.set data.dstPort (Ipv65tRoute.sport.set data.srcPort entry))) := by
  have other : mtkGetIb1PktType entry ≠ MTK_PPE_PKT_TYPE_IPV4_DSLITE := by
    rw [type]
    decide
  unfold plainSetIpv6Tuple
  rw [if_neg other]

theorem ipv6_keeps {kept : Words 32} (field : Ipv6Field) (addr : BitVec 128) (entry : FoeEntry)
    (spares : field.ip0.Spares kept ∧ field.ip1.Spares kept ∧ field.ip2.Spares kept ∧
      field.ip3.Spares kept) : KeepsBits kept entry (field.set addr entry) :=
  (((Field.keepsBits_set _ _ _ spares.1).trans (Field.keepsBits_set _ _ _ spares.2.1)).trans
    (Field.keepsBits_set _ _ _ spares.2.2.1)).trans (Field.keepsBits_set _ _ _ spares.2.2.2)

def plainDriver : Kernel where
  prepare := plainPrepare
  setIpv4Tuple := fun _ => plainSetIpv4Tuple
  setIpv6Tuple := plainSetIpv6Tuple
  mangle := some id
  outputDevice := some (Ipv66rd.iblk2.dp.set NR_GMAC1_PORT)
  prepare_type := by
    intro pktType l4proto
    unfold mtkGetIb1PktType plainPrepare
    simp (disch := decide) only [Field.get_set_of_apart, Field.get_set]
  prepare_proto := by
    intro pktType l4proto
    unfold protonumOf plainPrepare
    rw [Field.get_set]
    cases l4proto <;> rfl
  setIpv4_orig := by
    intro data entry _
    unfold plainSetIpv4Tuple
    simp (disch := decide) only [Field.get_set_of_apart, Field.get_set, and_self]
  setIpv4_keeps := by
    intro _ data entry _
    unfold plainSetIpv4Tuple
    exact (((Field.keepsBits_set _ _ _ (by decide)).trans
      (Field.keepsBits_set _ _ _ (by decide))).trans (Field.keepsBits_set _ _ _ (by decide))).trans
      (Field.keepsBits_set _ _ _ (by decide))
  setIpv6_tuple := by
    intro data entry type
    rw [plainSetIpv6Tuple_6rd data entry type]
    refine ⟨?_, ?_, ?_, ?_⟩
    · rw [Ipv6Field.get_set_of_apart _ _ _ _ (by decide), Ipv6Field.get_set _ _ _ (by decide)]
    · rw [Ipv6Field.get_set _ _ _ (by decide)]
    · rw [Ipv6Field.field_get_set _ _ _ _ (by decide), Ipv6Field.field_get_set _ _ _ _ (by decide),
        Field.get_set_of_apart _ _ _ _ (by decide), Field.get_set]
    · rw [Ipv6Field.field_get_set _ _ _ _ (by decide), Ipv6Field.field_get_set _ _ _ _ (by decide),
        Field.get_set]
  setIpv6_keeps := by
    intro data entry type
    rw [plainSetIpv6Tuple_6rd data entry type]
    exact (((Field.keepsBits_set _ _ _ (by decide)).trans
      (Field.keepsBits_set _ _ _ (by decide))).trans (ipv6_keeps _ _ _ (by decide))).trans
      (ipv6_keeps _ _ _ (by decide))
  setIpv6_tunnel := by
    intro data entry type
    unfold plainSetIpv6Tuple
    rw [if_pos type]
    exact (ipv6_keeps _ _ _ (by decide)).trans (ipv6_keeps _ _ _ (by decide))
  output_keeps := by
    intro output device entry
    cases device
    exact Field.keepsBits_set _ _ _ (by decide)

/-- An entry that the PPE has learned of an IPv6 packet from port 443 to port 50000. -/
def learnedEntry (udp : BitVec 1) (src dst : BitVec 128) : FoeEntry :=
  Ipv65tRoute.ipv6Dip.set dst (Ipv65tRoute.ipv6Sip.set src
    (Ipv65tRoute.dport.set 50000 (Ipv65tRoute.sport.set 443
      (Bfib1.udp.set udp (Bfib1.pktType.set MTK_PPE_PKT_TYPE_IPV6_ROUTE_5T
        (Bfib1.state.set MTK_FOE_STATE_UNBIND FoeEntry.zero))))))

/-- One PPE with this entry alone, and the prefix 64:ff9b::/96. -/
def ethWith (entry : FoeEntry) : MtkEth where
  v3 := true
  dscpToggle := false
  xlat464Enabled := true
  nat64 := 0x0064ff9b000000000000000000000000
  ppeNum := 1
  ppe := fun i j => if i = 0 ∧ j.val = 0 then entry else FoeEntry.zero
  conntrack := fun _ => none

def firstPlace : Place := (0, ⟨0, by decide⟩)

theorem find_ethWith {isV6 : Bool} {data : MtkFlowData}
    (hit : isTarget (ethWith entry) isV6 data firstPlace = true) :
    mtkFindTupleInPpe (ethWith entry) isV6 data = some firstPlace := by
  refine find_of_sole Nat.one_pos hit fun other also => ?_
  by_cases here : other.1 = 0 ∧ other.2.val = 0
  · exact Prod.ext here.1 (Fin.ext here.2)
  · have empty : (ethWith entry).ppe other.1 other.2 = FoeEntry.zero := if_neg here
    have unlearned : Bfib1.state.get FoeEntry.zero ≠ MTK_FOE_STATE_UNBIND := by decide
    unfold isTarget at also
    rw [empty] at also
    simp [unlearned] at also

def clatRule : FlowRule where
  known := false
  ctMark := none
  idevName := "464-wan".toList
  addrs := .ipv4 0xc6336401 0xc0000004
  l4proto := .tcp
  ports := some (443, 50000)
  tos := 0
  ttl := 64
  macsValid := true
  vlans := []
  pppoe := none
  cdrtId := 0
  npuEntry := 0

theorem clatRule_fromXlat (entry : FoeEntry) : FromXlat (ethWith entry) clatRule where
  enabled := rfl
  device := by decide
  nat64 := by
    intro src dst addrs
    cases addrs

theorem clatRule_offloaded
    (found : findTarget (ethWith entry) clatRule (443, 50000) = some firstPlace) :
    mtkFlowOffloadReplace plainDriver (ethWith entry) clatRule 0 =
      .ok ⟨finalEntry plainDriver (ethWith entry) clatRule (443, 50000) firstPlace id
        (Ipv66rd.iblk2.dp.set NR_GMAC1_PORT), 0⟩ := by
  have flow := clatRule_fromXlat entry
  have admitted : Admitted clatRule := ⟨rfl, by decide, rfl⟩
  have type := (keyEntry_type (443, 50000) firstPlace plainDriver flow).1
  have apart : offloadType (ethWith entry) clatRule ≠ MTK_PPE_PKT_TYPE_464XLAT_46 := by
    rw [offloadType_xlat flow]
    decide
  have offloadable : mtkIs464xlatOffloadable (ethWith entry)
      (keyEntry plainDriver (ethWith entry) clatRule (443, 50000) firstPlace) = true := by
    unfold mtkIs464xlatOffloadable
    rw [if_neg (by rw [type]; exact fun both => apart both.1)]
    rfl
  exact (replace_ok_iff flow _).mpr
    ⟨admitted, _, rfl, _, _, _, found, offloadable, rfl, rfl, rfl⟩

end OpenwrtSource.PpeOffload.XlatFlow
