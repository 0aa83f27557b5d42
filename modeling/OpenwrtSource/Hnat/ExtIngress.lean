import OpenwrtSource.Hnat.BoundFlows
import OpenwrtSource.Hnat.PingPong
import OpenwrtSource.Hnat.Prot3Tuple
import OpenwrtSource.Hnat.XlatHandover

/-!
# Packets of extension devices from hook to hook

The descriptor of a packet is whatever the first bytes of its headroom hold.  For a
packet of an extension device without WHNAT an ingress hook sets three of its fields;
the hook and then the post-routing hook read the others as they are found.
-/

namespace OpenwrtSource.Hnat.ExtIngress

open Lib.BitField Hnat.Foe Hnat.McastTable Hnat.McastOffload
open Hnat.EntryUpdate (FoeTable FoeTable.write HIT_BIND_KEEPALIVE_DUP_OLD_HDR)
open Hnat.BindPacket hiding HnatDesc
open Hnat.BindEntry (Pass skbToHnatInfo)
open Hnat.HookTx (HIT_UNBIND HIT_UNBIND_RATE_REACH HQOS_MAGIC_TAG)
open Hnat.HookVerdicts (Calls Replaced)
open Hnat.Prot3Tuple (Prot3tCfg hnatProt3tSupport)
open Hnat.XlatHandover (Setup PostCall mtk464xlatPreProcess
  mtk464xlatPostProcess)
open Hnat.XlatMap (XlatConf)

def HNAT_MAGIC_TAG : BitVec 16 := 0x6789
def HIT_BIND_FORCE_TO_CPU : BitVec 5 := 0x16
def HIT_BIND_MULTICAST_TO_CPU : BitVec 5 := 0x18
def HIT_BIND_MULTICAST_TO_GMAC_CPU : BitVec 5 := 0x19
def FOE_INVALID : BitVec 8 := 0xf

/-- `struct hnat_desc`, less what only the Wi-Fi hook reads. -/
structure HnatDesc where
  entry : BitVec 15
  filled : BitVec 3
  crsn : BitVec 5
  sport : PsePort
  alg : Bool
  iface : BitVec 8
  tops : BitVec 6
  isDecap : Bool
  cdrt : BitVec 8
  isDecrypt : Bool
  magicTagProtect : BitVec 16
  deriving DecidableEq

def HnatDesc.zero : HnatDesc := ⟨0, 0, 0, 0, false, 0, 0, false, 0, false, 0⟩

def HnatDesc.magicTagValid (desc : HnatDesc) : Bool := desc.magicTagProtect == HNAT_MAGIC_TAG

/-- What the hooks read of the driver, beside its tables. -/
structure Engine extends Setup where
  cfg : HnatConfig
  bindThreshold : Nat
  xlatToggle : Bool
  xlat : XlatConf
  prot3t : Nat → Prot3tCfg
  /-- `get_dev_from_index` and `get_wandev_from_index` find a device. -/
  devFromIndex : Nat → Bool
  wandevFromIndex : Nat → Bool
  /-- `g_ppdev`, and whether it is up; the device that its name leads to. -/
  gPpdev : Option Bool
  ppdByName : Option Bool
  /-- `g_rx_ppdev` is there and up. -/
  gRxPpdevUp : Bool
  somePpe : 0 < plat.ppeNum
  someEntry : 0 < plat.foeEtryNum

section

variable (engine : Engine)

def skbHnatPpe (sport : PsePort) : Nat :=
  XlatHandover.skbHnatPpe engine.toSetup { XlatHandover.HnatDesc.zero with sport }

def skbHnatIsHashed (entry : BitVec 15) : Bool :=
  entry != 0x7fff && decide (entry.toNat < engine.plat.foeEtryNum)

def reasonReadyBind (crsn : BitVec 5) : Bool :=
  crsn == HIT_UNBIND_RATE_REACH || (decide (engine.bindThreshold ≤ 1) && crsn == HIT_UNBIND)

/-- The index or the PPE of the descriptor is none of the tables. -/
def entryOutside (desc : HnatDesc) : Bool :=
  decide (engine.plat.foeEtryNum ≤ desc.entry.toNat) ||
    decide (engine.plat.ppeNum ≤ skbHnatPpe engine desc.sport)

def bindDesc (desc : HnatDesc) : BindPacket.HnatDesc where
  ppe := skbHnatPpe engine desc.sport
  entry := desc.entry.toNat
  iface := desc.iface
  sport := desc.sport
  tops := desc.tops
  isDecap := desc.isDecap
  cdrt := desc.cdrt
  isDecrypt := desc.isDecrypt

end

def xlatDesc (desc : HnatDesc) : XlatHandover.HnatDesc :=
  ⟨desc.entry.toNat, desc.crsn, desc.sport, desc.iface⟩

/-- The FOE tables, the multicast groups and the flow lists, and the records of 464XLAT. -/
structure Driver where
  bind : BindEntry.State
  headroom : Nat → XlatHandover.HnatDesc

def Driver.mcastHookToggle (s : Driver) : Bool := s.bind.mcast.mcastHookToggle

def Driver.foe (s : Driver) : FoeTable := s.bind.mcast.hw.foeTable

def Driver.withFoe (s : Driver) (foe : FoeTable) : Driver :=
  { s with
    bind := { s.bind with
      mcast := { s.bind.mcast with hw := { s.bind.mcast.hw with foeTable := foe } } } }

def Driver.xlatState (s : Driver) (engine : Engine) : XlatHandover.State :=
  ⟨s.foe, s.headroom, engine.xlat, engine.bindThreshold⟩

def Driver.withXlat (s : Driver) (x : XlatHandover.State) : Driver :=
  { s.withFoe x.foe with headroom := x.headroom }

/-- The macros on the name of `state->in`, with that of the second ping-pong device. -/
structure InDev extends HookVerdicts.InDev where
  rxPpd : Bool

/-- A packet at an ingress hook.  The descriptor that its headers come with is not read:
it is the one in the headroom. -/
structure Frame where
  skb : Skb
  /-- The MAC header is set and has its length. -/
  macHeader : Bool
  /-- The header at `innerIph` can be read. -/
  innerReadable : Bool
  innerTci : BitVec 16
  fragList : Bool
  /-- The headroom is too small for the descriptor, and `skb_cow` has made it larger. -/
  headroomShort : Bool
  skbCow : Bool
  fromExtge : Bool
  /-- `mtk_tnl_decap_offloadable`, if there is one, and what it says of the headers. -/
  tnlDecapOffloadable : Option Bool
  /-- `mtk_tnl_decap_offload`, if there is one, and whether it takes the packet. -/
  tnlDecapOffload : Option Bool
  /-- `mtk_tnl_foe_valid`, by PPE and index. -/
  tnlFoeValid : Nat → Nat → Bool
  /-- The path of the device that the packet came in by has `DEV_PATH_TNL`. -/
  tnlPath : Bool
  /-- The device is a port of a bridge, which has no way for the destination. -/
  floods : Bool
  calls : Calls

def isBroadcastEtherAddr (mac : Mac) : Bool := mac == BitVec.allOnes 48

def ipv4IsMulticast (addr : BitVec 32) : Bool := addr.extractLsb' 28 4 == 0xE

/-- `ipv6_addr_is_multicast`, as it is written out. -/
def ipv6IsMulticast (addr : BitVec 128) : Bool := addr.extractLsb' 120 8 == 0xff

inductive Verdict
  | accept
  | drop
  | stolen
  deriving DecidableEq

/-- The packet goes on with a descriptor, or it does not. -/
inductive Ingress
  | accepted (desc : HnatDesc)
  | dropped
  | stolen
  deriving DecidableEq

inductive IngressHook
  | ipv4
  | ipv6
  | bridge
  deriving DecidableEq

section

variable (engine : Engine) (dev : InDev) (frame : Frame)

/-- `hnat_prot_3t_support`, with no table for a PPE that there is not. -/
def prot3tSupport (sport : PsePort) (family : Prot3Tuple.Family) (protocol : BitVec 8) : Bool :=
  decide (skbHnatPpe engine sport < engine.plat.ppeNum) &&
    let prot3t := engine.prot3t (skbHnatPpe engine sport)
    hnatProt3tSupport prot3t (prot3t.chk family) protocol

/-- `is_ppe_support_type`, for a packet with the magic tag and the room for it. -/
def isPpeSupportType (mcastHookToggle : Bool) (sport : PsePort) : Bool :=
  let dest := frame.skb.hDest
  if frame.macHeader && (isBroadcastEtherAddr dest ||
      (!mcastHookToggle && isMulticastEtherAddr dest)) then false
  else
    match hnatGetHdrProtocol frame.skb with
    | none => engine.cfg.l2brToggle
    | some proto =>
      if proto = ETH_P_IP then
        if !mcastHookToggle && ipv4IsMulticast frame.skb.iph.daddr then false
        else if frame.tnlDecapOffloadable = some true then true
        else if isTcpUdp frame.skb.iph.protocol || frame.skb.iph.protocol == IPPROTO_IPV6 then
          true
        else prot3tSupport engine sport .ipv4 frame.skb.iph.protocol
      else if proto = ETH_P_IPV6 then
        if !mcastHookToggle && ipv6IsMulticast frame.skb.ip6h.daddr then false
        else if isTcpUdp frame.skb.ip6h.nexthdr then true
        else if frame.skb.ip6h.nexthdr = IPPROTO_IPIP ∧ frame.innerReadable = false then false
        else if frame.skb.ip6h.nexthdr = IPPROTO_IPIP ∧
            isTcpUdp frame.skb.innerIph.protocol then true
        else prot3tSupport engine sport .ipv6 frame.skb.ip6h.nexthdr
      else if proto = ETH_P_8021Q then true
      else engine.cfg.l2brToggle

/-- The tunnel that is to be removed is noted in the descriptor. -/
def noteDecap (desc : HnatDesc) : HnatDesc :=
  if hnatGetHdrProtocol frame.skb = some ETH_P_IP ∧ frame.tnlDecapOffloadable = some true then
    { desc with isDecap := true }
  else desc

def fromWed (desc : HnatDesc) : Bool :=
  desc.iface == FOE_MAGIC_WED0 || desc.iface == FOE_MAGIC_WED1 || desc.iface == FOE_MAGIC_WED2

/-- `hnat_set_iif`; there is room for the descriptor. -/
def hnatSetIif (desc : HnatDesc) : HnatDesc :=
  if dev.whnat && fromWed desc then desc
  else if dev.lan then { desc with iface := FOE_MAGIC_GE_LAN }
  else if dev.lan2 then { desc with iface := FOE_MAGIC_GE_LAN2 }
  else if dev.ppd || dev.rxPpd then { desc with iface := FOE_MAGIC_GE_PPD }
  else if dev.ext then { desc with iface := FOE_MAGIC_EXT }
  else if dev.wan then { desc with iface := FOE_MAGIC_GE_WAN }
  else if dev.br then desc
  else if dev.offloadCheck then { desc with iface := FOE_MAGIC_GE_VIRTUAL }
  else if desc.magicTagValid then .zero
  else { desc with iface := FOE_INVALID }

/-- The packet of an extension device without WHNAT gets a descriptor; without a result
the hook accepts it as it is. -/
def claimDesc (desc : HnatDesc) : Option HnatDesc :=
  if !dev.whnat && dev.ext then
    if !engine.gRxPpdevUp then none
    else if frame.fragList then none
    else if frame.headroomShort && !frame.skbCow then none
    else some { desc with alg := false, filled := 0, magicTagProtect := HNAT_MAGIC_TAG }
  else some desc

/-- `do_hnat_ext_to_ge` takes the packet.  Where the tag does not go in, it has freed the
packet, and the hook passes it on. -/
def extToGe (gPpdev : Option Bool) : Bool :=
  gPpdev == some true &&
    ((frame.skb.vlanTci.getD 0).toNat % 4096 == 0 || frame.calls.vlanInsertTag)

def doExt2geFastTry (desc : HnatDesc) : Bool := desc.iface == FOE_MAGIC_EXT && !frame.fromExtge

def doGe2extFast (desc : HnatDesc) : Bool :=
  (dev.lan || dev.lan2 || dev.wan || dev.ppd || dev.rxPpd) &&
    skbHnatIsHashed engine desc.entry && desc.crsn == HIT_BIND_FORCE_TO_CPU

/-- The interface index in `skb->vlan_tci`. -/
def vlanIndex : Nat := (frame.skb.vlanTci.getD 0).toNat % 4096

def doExt2geFastLearn (desc : HnatDesc) : Bool :=
  (dev.ppd || dev.rxPpd) && (desc.sport == NR_PDMA_PORT || desc.sport == NR_QDMA_PORT) &&
    (engine.devFromIndex (vlanIndex frame) || engine.wandevFromIndex (vlanIndex frame))

def hqosFrame : Bool := frame.skb.ethProto == htons HQOS_MAGIC_TAG

/-- `do_hnat_ge_to_ext` takes the packet.  What follows the transmission in the source is
not reached: there is a device by then. -/
def geToExt (foe : FoeTable) (desc : HnatDesc) : Bool :=
  if entryOutside engine desc then false
  else
    let entry := foe (skbHnatPpe engine desc.sport) desc.entry.toNat
    if !engine.devFromIndex (PingPong.pingpongIndex entry).toNat then true
    else if engine.cfg.hqosMode && hqosFrame frame then
      frame.calls.skbUnshare != .failed && frame.calls.pskbMayPull
    else true

/-- `do_hnat_ext_to_ge2` takes the packet; for MAP-E it also changes the entry. -/
def extToGe2 (s : Driver) (desc : HnatDesc) : Bool × Driver :=
  if entryOutside engine desc then (false, s)
  else if engine.devFromIndex (vlanIndex frame) then
    (!(frame.skb.ethProto == ETH_P_8021Q && frame.calls.skbVlanUntag == .failed), s)
  else if engine.wandevFromIndex (vlanIndex frame) && engine.cfg.mapeToggle &&
      frame.calls.mapeAddIpv6Hdr then
    let ppe := skbHnatPpe engine desc.sport
    let entry := s.foe ppe desc.entry.toNat
    (true, s.withFoe (FoeTable.write s.foe ppe desc.entry.toNat
      (Bfib1.pktType.set IPV4_HNAPT entry)))
  else (false, s)

def acceptAlg (desc : HnatDesc) : Ingress := .accepted { desc with alg := true }

def tnlBypass (desc : HnatDesc) : Bool :=
  desc.tops != 0 && desc.isDecap && desc.magicTagValid &&
    desc.iface == FOE_MAGIC_GE_VIRTUAL && frame.tnlDecapOffload == some true &&
    !frame.tnlFoeValid (skbHnatPpe engine desc.sport) desc.entry.toNat

/-- Without the tunnel module the outer header of a tunnel packet is not bound. -/
def virtualAlg (desc : HnatDesc) : HnatDesc :=
  if desc.iface == FOE_MAGIC_GE_VIRTUAL && dev.offloadCheck && frame.tnlDecapOffload == none &&
      frame.tnlPath then { desc with alg := true }
  else desc

/-- The common end of the pre-routing hooks; the count of the devices is left out. -/
def preRouting (desc : HnatDesc) (s : Driver) : Ingress × Driver :=
  if doExt2geFastTry frame desc then
    (if extToGe frame engine.gPpdev then .stolen else .accepted desc, s)
  else if doGe2extFast engine dev desc then
    (if geToExt engine frame s.foe desc then .stolen else .dropped, s)
  else
    (.accepted desc,
      if engine.xlatToggle then
        s.withXlat (mtk464xlatPreProcess engine.toSetup (xlatDesc desc) (s.xlatState engine))
      else s)

def mtkHnatIpv6NfPreRouting (prior : HnatDesc) (s : Driver) : Ingress × Driver :=
  match claimDesc engine dev frame prior with
  | none => (.accepted prior, s)
  | some desc =>
    if !desc.magicTagValid then (.accepted desc, s)
    else if !isPpeSupportType engine frame s.mcastHookToggle desc.sport then (acceptAlg desc, s)
    else preRouting engine dev frame (hnatSetIif dev (noteDecap frame desc)) s

def mtkHnatIpv4NfPreRouting (prior : HnatDesc) (s : Driver) : Ingress × Driver :=
  match claimDesc engine dev frame prior with
  | none => (.accepted prior, s)
  | some desc =>
    if !desc.magicTagValid then (.accepted desc, s)
    else if !isPpeSupportType engine frame s.mcastHookToggle desc.sport then (acceptAlg desc, s)
    else
      let desc := hnatSetIif dev (noteDecap frame desc)
      if tnlBypass engine frame desc then (acceptAlg desc, s)
      else preRouting engine dev frame (virtualAlg dev frame desc) s

def hqosTagged : Bool := engine.cfg.hqosMode && engine.cfg.whnat && hqosFrame frame

def hqosIndex : BitVec 15 := (frame.innerTci &&& 0x3fff).setWidth 15

def hqosEntry (desc : HnatDesc) : HnatDesc :=
  if hqosTagged engine frame then
    { desc with entry := hqosIndex frame, crsn := HIT_BIND_FORCE_TO_CPU }
  else desc

def hasHqosMagicTag : Bool :=
  engine.cfg.qosToggle != 0 && frame.skb.protocol == htons HQOS_MAGIC_TAG

/-- `hnat_bridge_flood_check` keeps a packet of the type L2 bridge from being bound. -/
def floodCheck (foe : FoeTable) (desc : HnatDesc) : Bool :=
  frame.floods && !desc.alg && reasonReadyBind engine desc.crsn && !entryOutside engine desc &&
    pktTypeOf (foe (skbHnatPpe engine desc.sport) desc.entry.toNat) == L2_BRIDGE &&
    !isMulticastEtherAddr frame.skb.hDest

/-- The part of `mtk_hnat_br_nf_local_in` behind the packets of extension devices. -/
def localInGe (desc : HnatDesc) (s : Driver) : Ingress × Driver :=
  if engine.cfg.whnat && doExt2geFastLearn engine dev frame desc &&
      (engine.cfg.qosToggle == 0 || !hqosFrame frame) then
    let taken := extToGe2 engine frame s desc
    (if taken.1 then .stolen else .dropped, taken.2)
  else if engine.cfg.whnat && doGe2extFast engine dev desc then
    (if geToExt engine frame s.foe desc then .stolen else .dropped, s)
  else (.accepted desc, s)

/-- Behind the checks of `mtk_hnat_br_nf_local_in`. -/
def localIn (desc : HnatDesc) (s : Driver) : Ingress × Driver :=
  if doExt2geFastTry frame desc && !isMulticastEtherAddr frame.skb.hDest then
    (if extToGe frame (engine.gPpdev.or engine.ppdByName) then .stolen else .accepted desc, s)
  else localInGe engine dev frame desc s

def mtkHnatBrNfLocalIn (prior : HnatDesc) (s : Driver) : Ingress × Driver :=
  match claimDesc engine dev frame prior with
  | none => (.accepted prior, s)
  | some desc =>
    if !desc.magicTagValid then (.accepted desc, s)
    else
      let desc := hqosEntry engine frame desc
      if hasHqosMagicTag engine frame then
        let desc := hnatSetIif dev desc
        if tnlBypass engine frame desc then (acceptAlg desc, s)
        else if floodCheck engine frame s.foe desc then (acceptAlg desc, s)
        else localIn engine dev frame desc s
      else if !isPpeSupportType engine frame s.mcastHookToggle desc.sport then (acceptAlg desc, s)
      else
        let desc := hnatSetIif dev (noteDecap frame desc)
        if tnlBypass engine frame desc then (acceptAlg desc, s)
        else if floodCheck engine frame s.foe desc then (acceptAlg desc, s)
        else localIn engine dev frame desc s

def ingress (hook : IngressHook) (prior : HnatDesc) (s : Driver) : Ingress × Driver :=
  match hook with
  | .ipv4 => mtkHnatIpv4NfPreRouting engine dev frame prior s
  | .ipv6 => mtkHnatIpv6NfPreRouting engine dev frame prior s
  | .bridge => mtkHnatBrNfLocalIn engine dev frame prior s

end

inductive PostHook
  | ipv4
  | ipv6
  | bridge
  deriving DecidableEq

/-- What the offload of tunnels makes of a packet that leaves by a tunnel. -/
inductive TnlEncap
  | absent
  | refused
  | offered (tops : BitVec 6)
  deriving DecidableEq

/-- The way of an accepted packet to a post-routing hook: what other parts of the kernel
make of it, and where they send it. -/
structure Path where
  hook : PostHook
  bridgeInfo : Bool
  /-- `state->out` is a bridge that the packet is forwarded in. -/
  bridged : Bool
  xlat : PostCall
  spaceAvailableHead : Bool
  macHeaderSet : Bool
  /-- `HNAT_EXCEPTION_BIT` of the mark. -/
  exception : Bool
  /-- The device is a bond without a port for the packet. -/
  noSlave : Bool
  tnl : TnlEncap
  accelType : Bool
  /-- `skb_dst`, and the address of the neighbour that is the next hop. -/
  dst : Bool
  neigh : Option Mac
  devAddr : Mac
  hSource : Mac
  /-- `mtk_tnl_encap_offload` is there and refuses the packet. -/
  encapRefused : Bool
  mcastTimestamp : BitVec 16
  pass : Pass

section

variable (engine : Engine) (path : Path)

def Path.routed : Bool := path.hook != .bridge && !path.bridged

/-- `hnat_ipv4_get_nexthop` and `hnat_ipv6_get_nexthop`. -/
def getNexthop (desc : HnatDesc) : Option HwPath :=
  let hwPath := path.pass.hwPath
  if path.hook = .ipv6 ∧ path.dst = false then some hwPath
  else if hwPath.pathPppoe then some hwPath
  else if desc.cdrt = 0 ∧ path.pass.skb.dstXfrm then some hwPath
  else path.neigh.map fun ha => { hwPath with ethDest := ha, ethSrc := path.devAddr }

/-- The path with its addresses, unless the next hop is not known. -/
def addressed (desc : HnatDesc) : Option HwPath :=
  let hwPath := path.pass.hwPath
  if !path.routed then
    some { hwPath with ethDest := path.pass.skb.hDest, ethSrc := path.hSource }
  else if BoundFlows.isVirtDev engine.cfg path.pass.dev && hwPath.pathTnl then
    some { hwPath with ethDest := 0, ethSrc := 0 }
  else getNexthop path desc

/-- The cases `HIT_UNBIND` and `HIT_UNBIND_RATE_REACH`. -/
def bindOnHit (desc : HnatDesc) (s : Driver) : Driver :=
  if stateOf (s.foe (skbHnatPpe engine desc.sport) desc.entry.toNat) = BIND then s
  else if path.routed && !path.accelType then s
  else
    match addressed engine path desc with
    | none => s
    | some hwPath =>
      if desc.tops != 0 && !desc.isDecap && !BoundFlows.isVirtDev engine.cfg path.pass.dev &&
          path.encapRefused then s
      else if desc.tops != 0 && desc.isDecap then s
      else
        let pass :=
          { path.pass with
            skb := { path.pass.skb with desc := bindDesc engine desc }
            hwPath := hwPath }
        { s with bind := (skbToHnatInfo engine.cfg engine.plat pass s.bind).2 }

/-- `mtk_hnat_dscp_update`. -/
def dscpUpdate (entry : FoeEntry) : FoeEntry :=
  let skb := path.pass.skb
  if skb.ethProto = ETH_P_IP ∧ isIpv4Grp (pktTypeOf entry) then
    Ipv4Hnapt.iblk2.dscp.set skb.iph.tos entry
  else if skb.ethProto = ETH_P_IPV6 ∧
      (pktTypeOf entry = IPV6_3T_ROUTE ∨ pktTypeOf entry = IPV6_5T_ROUTE) then
    Ipv65tRoute.iblk2.dscp.set (skb.ip6h.priority ++ skb.ip6h.flowLbl0.extractLsb' 4 4) entry
  else entry

def mcastStamp (mcastHookToggle : Bool) (entry : FoeEntry) : FoeEntry :=
  if engine.version = .MTK_HNAT_V1_3 ∧ mcastHookToggle ∧ Bfib1.sta.get entry = 1 then
    Ipv4Hnapt.mTimestamp.set path.mcastTimestamp entry
  else entry

/-- The case `HIT_BIND_KEEPALIVE_DUP_OLD_HDR`; the counts are left out. -/
def keepalive (desc : HnatDesc) (s : Driver) : Int × Driver :=
  if path.routed && !path.accelType then (0, s)
  else
    let ppe := skbHnatPpe engine desc.sport
    let entry := dscpUpdate path (s.foe ppe desc.entry.toNat)
    let entry := mcastStamp engine path s.mcastHookToggle entry
    (if stateOf entry = BIND then -1 else 0,
      s.withFoe (FoeTable.write s.foe ppe desc.entry.toNat entry))

/-- The switch over the reason.  The counts and the callback of `TCP_FIN_SYN_RST` change
no table. -/
def switchReason (desc : HnatDesc) (s : Driver) : Int × Driver :=
  let out := path.pass.dev
  if desc.crsn = HIT_UNBIND_RATE_REACH ∨
      (desc.crsn = HIT_UNBIND ∧ reasonReadyBind engine desc.crsn) then
    (0, bindOnHit engine path desc s)
  else if desc.crsn = HIT_BIND_KEEPALIVE_DUP_OLD_HDR then keepalive engine path desc s
  else if desc.crsn = HIT_BIND_MULTICAST_TO_CPU ∨
      desc.crsn = HIT_BIND_MULTICAST_TO_GMAC_CPU then
    (if !out.isDsaLan && out.isEthGrp engine.cfg then -1 else 0, s)
  else (0, s)

def withTops (desc : HnatDesc) : HnatDesc :=
  match path.tnl with
  | .offered tops => { desc with tops }
  | _ => desc

def postDesc (desc : HnatDesc) (s : Driver) : Int × Driver :=
  if desc.alg || !desc.magicTagValid || !path.spaceAvailableHead then (0, s)
  else if !path.macHeaderSet then (0, s)
  else if !skbHnatIsHashed engine desc.entry then (0, s)
  else if path.exception || path.noSlave then (0, s)
  else if path.tnl = .refused then (0, s)
  else
    let desc := withTops path desc
    if BoundFlows.isVirtDev engine.cfg path.pass.dev &&
        !(desc.tops != 0 && !desc.isDecap && path.pass.hwPath.pathTnl) then (0, s)
    else if entryOutside engine desc then (-1, s)
    else switchReason engine path desc s

def mtkHnatNfPostRouting (desc : HnatDesc) (s : Driver) : Int × Driver :=
  let xlat := mtk464xlatPostProcess engine.toSetup path.xlat (s.xlatState engine)
  if engine.xlatToggle ∧ xlat.1 = 0 then (0, s.withXlat xlat.2)
  else postDesc engine path desc s

def postRouting (desc : HnatDesc) (s : Driver) : Verdict × Driver :=
  if path.hook = .bridge ∧ (desc.magicTagValid = false ∨ path.bridgeInfo) then (.accept, s)
  else
    let ret := mtkHnatNfPostRouting engine path desc s
    (if ret.1 = 0 then .accept else .drop, ret.2)

end

/-- A packet of an extension device without WHNAT that has not been through the PPE. -/
structure Arrival where
  hook : IngressHook
  dev : InDev
  frame : Frame
  isExt : dev.ext = true
  noWhnat : dev.whnat = false
  fresh : frame.fromExtge = false

/-- The verdicts, the second one of a packet that the first hook accepts, and the tables. -/
def journey (engine : Engine) (arrival : Arrival) (s : Driver) (path : Path) (prior : HnatDesc) :
    Verdict × Option Verdict × Driver :=
  match ingress engine arrival.dev arrival.frame arrival.hook prior s with
  | (.stolen, s) => (.stolen, none, s)
  | (.dropped, s) => (.drop, none, s)
  | (.accepted desc, s) =>
    let post := postRouting engine path desc s
    (.accept, some post.1, post.2)

end OpenwrtSource.Hnat.ExtIngress
