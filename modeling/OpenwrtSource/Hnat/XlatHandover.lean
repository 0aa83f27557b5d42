import OpenwrtSource.Hnat.ChecksumBase
import OpenwrtSource.Hnat.BindEntry
import OpenwrtSource.Hnat.StaticEntry
import OpenwrtSource.Hnat.XlatMap

/-!
# The descriptors of 464XLAT packets

A packet that is translated between IPv4 and IPv6 loses the descriptor that the
engine has put before it.  The pre-routing hook keeps the descriptor in a table
by hash index, and the post-routing hook looks it up under the hash of the
packet before its translation, to bind the entry that the engine has made.
-/

namespace OpenwrtSource.Hnat.XlatHandover

open Lib.BitField Lib.Run Hnat.Foe Hnat.McastTable Hnat.McastOffload Hnat.EntryUpdate
open Hnat.Translation (Ports)
open Hnat.BindPacket (Iphdr Ipv6hdr ETH_P_IP ETH_P_IPV6 IPPROTO_UDP MTK_GMAC1_ID
  MTK_GMAC2_ID MTK_GMAC3_ID FOE_MAGIC_GE_LAN2 FOE_MAGIC_WED2 FOE_MAGIC_GE_WAN)
open Hnat.ChecksumBase
open Hnat.HookTx (HIT_UNBIND HIT_UNBIND_RATE_REACH)
open Hnat.ApiTuple
open Hnat.StaticEntry (writeMacs)
open Hnat.XlatMap (XlatConf mtkPpeGetXlatV6ByV4 mtkPpeGetXlatV4ByV6)

/-! ## The descriptor -/

structure Setup where
  plat : Platform
  version : MtkHnatVersion
  /-- `eth->mac[gmac_id]->ppe_idx`, of the MACs that exist. -/
  ppeIdx : Nat → Option Nat

/-- What the hooks read of `struct hnat_desc`. -/
structure HnatDesc where
  entry : Nat
  crsn : BitVec 5
  sport : PsePort
  iface : BitVec 8
  deriving DecidableEq

def HnatDesc.zero : HnatDesc := ⟨0, 0, 0, 0⟩

def gmacOfSport (sport : PsePort) : Option Nat :=
  if sport = NR_GMAC1_PORT then some MTK_GMAC1_ID
  else if sport = NR_GMAC2_PORT then some MTK_GMAC2_ID
  else if sport = NR_GMAC3_PORT then some MTK_GMAC3_ID
  else none

def skbHnatPpe (setup : Setup) (desc : HnatDesc) : Nat :=
  match gmacOfSport desc.sport with
  | none => 0
  | some gmacId => (setup.ppeIdx gmacId).getD 0

def reasonReadyBind (bindThreshold : Nat) (desc : HnatDesc) : Bool :=
  desc.crsn == HIT_UNBIND_RATE_REACH ||
    (decide (bindThreshold ≤ 1) && desc.crsn == HIT_UNBIND)

def headroomPpe1 (setup : Setup) (h : HnatDesc) : Bool :=
  (h.iface == FOE_MAGIC_GE_LAN2 || h.iface == FOE_MAGIC_WED2) && setup.plat.ppeNum == 3

def headroomPpe2 (setup : Setup) (h : HnatDesc) : Bool :=
  (h.iface == FOE_MAGIC_GE_LAN2 || h.iface == FOE_MAGIC_WED2) && setup.plat.ppeNum == 3

def headroomPpe (setup : Setup) (h : HnatDesc) : Nat :=
  if headroomPpe2 setup h then 2 else if headroomPpe1 setup h then 1 else 0

/-! ## The packet and its flow -/

/-- The packet at the post-routing hook, behind its translation. -/
structure XlatSkb where
  protocol : BitVec 16
  iph : Iphdr
  ip6h : Ipv6hdr
  /-- `skb_header_pointer` at an offset. -/
  portsAt : Nat → Option Ports
  /-- The address of the neighbour that is the next hop. -/
  neigh : Option Mac

/-- `out`: its `reg` property is that of a DSA port. -/
structure XlatDev where
  name : List Char
  reg : Option Nat
  devAddr : Mac

inductive Addrs where
  | ipv4 (sip dip : BitVec 32)
  | ipv6 (sip dip : BitVec 128)
  deriving DecidableEq

/-- A flow as it comes in, before the translation. -/
structure Flow where
  addrs : Addrs
  ports : Ports
  udp : Bool
  deriving DecidableEq

/-- `tmp`, which is hashed.  The hash reads nothing that is not set here. -/
def Flow.tmp (flow : Flow) : FoeEntry :=
  match flow.addrs with
  | .ipv4 sip dip =>
    let tmp := Bfib1.pktType.set IPV4_HNAPT FoeEntry.zero
    let tmp := Ipv4Hnapt.sip.set sip tmp
    let tmp := Ipv4Hnapt.dip.set dip tmp
    let tmp := Ipv4Hnapt.sport.set flow.ports.src tmp
    Ipv4Hnapt.dport.set flow.ports.dst tmp
  | .ipv6 sip dip =>
    let tmp := Bfib1.pktType.set IPV6_5T_ROUTE FoeEntry.zero
    let tmp := Ipv65tRoute.ipv6Sip.set sip tmp
    let tmp := Ipv65tRoute.ipv6Dip.set dip tmp
    let tmp := Ipv65tRoute.sport.set flow.ports.src tmp
    Ipv65tRoute.dport.set flow.ports.dst tmp

def IPV6_HDR_LEN : Nat := 40

/-- The flow that `mtk_464xlat_get_hash` works out for a packet. -/
def xlatFlow (xlat : XlatConf) (skb : XlatSkb) (l2w : Bool) : Option Flow :=
  if l2w then
    match mtkPpeGetXlatV4ByV6 xlat skb.ip6h.daddr with
    | none => none
    | some addr =>
      (skb.portsAt IPV6_HDR_LEN).map fun ports =>
        ⟨.ipv4 (skb.ip6h.saddr.extractLsb' 0 32) addr, ports, skb.ip6h.nexthdr == IPPROTO_UDP⟩
  else
    match mtkPpeGetXlatV6ByV4 xlat skb.iph.saddr with
    | none => none
    | some (addrV6, pfx) =>
      (skb.portsAt (skb.iph.ihl.toNat * 4)).map fun ports =>
        ⟨.ipv6 addrV6 (pfx.extractLsb' 32 96 ++ skb.iph.daddr), ports,
          skb.iph.protocol == IPPROTO_UDP⟩

def Flow.hash (setup : Setup) (flow : Flow) : Nat := (hnatGetPpeHash setup.plat flow.tmp).toNat

def mtk464xlatGetHash (setup : Setup) (xlat : XlatConf) (skb : XlatSkb) (l2w : Bool) :
    Option Nat :=
  (xlatFlow xlat skb l2w).map (Flow.hash setup)

/-! ## The entry -/

def mtk464xlatFillInfo1 (timestamp : BitVec 8) (skb : XlatSkb) (l2w : Bool) (entry : FoeEntry) :
    FoeEntry :=
  let entry := Bfib1.cah.set 1 entry
  let entry := Bfib1.ttl.set 1 entry
  let entry := Bfib1.state.set BIND entry
  let entry := Bfib1.timeStamp.set timestamp entry
  if l2w then
    let entry := Bfib1.pktType.set IPV4_DSLITE entry
    Bfib1.udp.set (if skb.ip6h.nexthdr = IPPROTO_UDP then 1 else 0) entry
  else
    let entry := Bfib1.pktType.set IPV6_6RD entry
    Bfib1.udp.set (if skb.iph.protocol = IPPROTO_UDP then 1 else 0) entry

def mtk464xlatFillInfo2 (l2w : Bool) (entry : FoeEntry) : FoeEntry :=
  let entry := Ipv4Dslite.iblk2.mibf.set 1 entry
  let entry := Ipv4Dslite.iblk2.portAg.set 0xF entry
  if l2w then Ipv4Dslite.iblk2.dp.set NR_GMAC2_PORT entry
  else Ipv66rd.iblk2.dp.set NR_GMAC1_PORT entry

def mtk464xlatFillIpv4 (setup : Setup) (skb : XlatSkb) (foe : FoeEntry) (l2w : Bool)
    (entry : FoeEntry) : FoeEntry :=
  if l2w then
    let entry := Ipv4Dslite.sip.set (Ipv4Dslite.sip.get foe) entry
    let entry := Ipv4Dslite.dip.set (Ipv4Dslite.dip.get foe) entry
    let entry := Ipv4Dslite.sport.set (Ipv4Dslite.sport.get foe) entry
    Ipv4Dslite.dport.set (Ipv4Dslite.dport.get foe) entry
  else
    let entry := Ipv66rd.tunnelSipv4.set skb.iph.saddr entry
    let entry := Ipv66rd.tunnelDipv4.set skb.iph.daddr entry
    let entry := Ipv66rd.sport.set (Ipv66rd.sport.get foe) entry
    let entry := Ipv66rd.dport.set (Ipv66rd.dport.get foe) entry
    let entry := Ipv66rd.hdrChksum.set (ppeGetChkbaseOf setup.version skb.iph) entry
    let entry := Ipv66rd.ttl.set skb.iph.ttl entry
    let entry := Ipv66rd.dscp.set skb.iph.tos entry
    Ipv66rd.flag.set (skb.iph.fragOff.extractLsb' 13 3) entry

def mtk464xlatFillIpv6 (xlat : XlatConf) (skb : XlatSkb) (foe : FoeEntry) (l2w : Bool)
    (entry : FoeEntry) : Option FoeEntry :=
  if l2w then
    match mtkPpeGetXlatV4ByV6 xlat skb.ip6h.daddr with
    | none => none
    | some addr =>
      match mtkPpeGetXlatV6ByV4 xlat addr with
      | none => none
      | some (_, pfx) =>
        -- only the first word of the source is that of the prefix
        let sip := pfx.extractLsb' 96 32 ++ skb.ip6h.saddr.extractLsb' 0 96
        let entry := Ipv4Dslite.tunnelSipv6.set sip entry
        let entry := Ipv4Dslite.tunnelDipv6.set skb.ip6h.daddr entry
        let entry := Ipv4Dslite.flowLbl.set
          (skb.ip6h.flowLbl0 ++ skb.ip6h.flowLbl1 ++ skb.ip6h.flowLbl2) entry
        let entry := Ipv4Dslite.priority.set (skb.ip6h.priority.setWidth 8) entry
        some (Ipv4Dslite.hopLimit.set skb.ip6h.hopLimit entry)
  else
    let entry := Ipv66rd.ipv6Sip.set (Ipv66rd.ipv6Sip.get foe) entry
    some (Ipv66rd.ipv6Dip.set (Ipv66rd.ipv6Dip.get foe) entry)

def mtk464xlatFillMac (skb : XlatSkb) (out : XlatDev) (entry : FoeEntry) : Option FoeEntry :=
  skb.neigh.map fun ha => writeMacs Ipv4Dslite.l2 ha out.devAddr entry

def isDsaLan (dev : XlatDev) : Bool := ['l', 'a', 'n'].isPrefixOf dev.name

def mtk464xlatFillL2 (skb : XlatSkb) (dev : XlatDev) (l2w : Bool) (entry : FoeEntry) :
    Option FoeEntry :=
  if l2w then mtk464xlatFillMac skb dev (Ipv4Dslite.l2.spTag.set ETH_P_IP entry)
  else if isDsaLan dev then
    match dev.reg with
    | none => none
    | some portIndex =>
      let entry := Bfib1.vlanLayer.set 1 entry
      let entry := Bfib1.vpm.set 0 entry
      mtk464xlatFillMac skb dev (Ipv66rd.l2.spTag.set (1 <<< portIndex) entry)
  else mtk464xlatFillMac skb dev (Ipv66rd.l2.spTag.set ETH_P_IPV6 entry)

def mtk464xlatFillL3 (setup : Setup) (xlat : XlatConf) (skb : XlatSkb) (foe : FoeEntry)
    (l2w : Bool) (entry : FoeEntry) : Option FoeEntry :=
  mtk464xlatFillIpv6 xlat skb foe l2w (mtk464xlatFillIpv4 setup skb foe l2w entry)

/-- One call of `mtk_464xlat_post_process`, with the time that the engine shows. -/
structure PostCall where
  skb : XlatSkb
  out : XlatDev
  timestamp : BitVec 8

def xlatEntry (setup : Setup) (xlat : XlatConf) (call : PostCall) (l2w : Bool) (foe : FoeEntry) :
    Option FoeEntry :=
  let entry := mtk464xlatFillInfo1 call.timestamp call.skb l2w FoeEntry.zero
  match mtk464xlatFillL3 setup xlat call.skb foe l2w entry with
  | none => none
  | some entry => mtk464xlatFillL2 call.skb call.out l2w (mtk464xlatFillInfo2 l2w entry)

/-! ## The hooks -/

structure State where
  foe : FoeTable
  headroom : Nat → HnatDesc
  xlat : XlatConf
  bindThreshold : Nat

def State.record (s : State) (index : Nat) (desc : HnatDesc) : State :=
  { s with headroom := Function.update s.headroom index desc }

def mtk464xlatPreProcess (setup : Setup) (desc : HnatDesc) (s : State) : State :=
  if setup.plat.foeEtryNum ≤ desc.entry ∨ setup.plat.ppeNum ≤ skbHnatPpe setup desc then s
  else
    let foe := s.foe (skbHnatPpe setup desc) desc.entry
    let s :=
      if stateOf foe ≠ BIND ∧ reasonReadyBind s.bindThreshold desc then s.record desc.entry desc
      else s
    if stateOf foe = BIND then s.record desc.entry .zero else s

def isL2w (protocol : BitVec 16) : Option Bool :=
  if protocol = ETH_P_IPV6 then some true
  else if protocol = ETH_P_IP then some false
  else none

/-- The PPE and the index of `foe`, behind the checks. -/
def xlatSlot (setup : Setup) (s : State) (skb : XlatSkb) (l2w : Bool) : Option (Nat × Nat) :=
  match mtk464xlatGetHash setup s.xlat skb l2w with
  | none => none
  | some hash =>
    if setup.plat.foeEtryNum ≤ hash then none
    else if !reasonReadyBind s.bindThreshold (s.headroom hash) then none
    else some (headroomPpe setup (s.headroom hash), hash)

def mtk464xlatPostProcess (setup : Setup) (call : PostCall) (s : State) : Int × State :=
  match isL2w call.skb.protocol with
  | none => (-1, s)
  | some l2w =>
    match xlatSlot setup s call.skb l2w with
    | none => (-1, s)
    | some (ppe, hash) =>
      match xlatEntry setup s.xlat call l2w (s.foe ppe hash) with
      | none => (-1, s)
      | some entry => (0, { s with foe := s.foe.write ppe hash entry })

/-! ## Packets of all PPEs -/

/-- The packet that a record was stored for.  The driver keeps neither of the two. -/
structure Origin where
  ppe : Nat
  flow : Flow

structure World where
  driver : State
  storedFor : Nat → Option Origin

inductive Event where
  /-- A packet of the flow at the pre-routing hook. -/
  | pre (desc : HnatDesc) (flow : Flow)
  | post (call : PostCall)
  /-- The engine learns and ages entries, and other parts of the driver run. -/
  | other (foe : FoeTable) (xlat : XlatConf) (bindThreshold : Nat)

section

variable (setup : Setup)

def inTable (desc : HnatDesc) : Bool :=
  decide (desc.entry < setup.plat.foeEtryNum) && decide (skbHnatPpe setup desc < setup.plat.ppeNum)

/-- Whether the pre-routing hook stores the descriptor, and whether it clears the record. -/
def stores (s : State) (desc : HnatDesc) : Bool :=
  inTable setup desc && stateOf (s.foe (skbHnatPpe setup desc) desc.entry) != BIND &&
    reasonReadyBind s.bindThreshold desc

def clears (s : State) (desc : HnatDesc) : Bool :=
  inTable setup desc && stateOf (s.foe (skbHnatPpe setup desc) desc.entry) == BIND

def World.pre (w : World) (desc : HnatDesc) (flow : Flow) : World :=
  { driver := mtk464xlatPreProcess setup desc w.driver
    storedFor :=
      if stores setup w.driver desc then
        Function.update w.storedFor desc.entry (some ⟨skbHnatPpe setup desc, flow⟩)
      else if clears setup w.driver desc then Function.update w.storedFor desc.entry none
      else w.storedFor }

def step (w : World) : Event → World
  | .pre desc flow => w.pre setup desc flow
  | .post call => { w with driver := (mtk464xlatPostProcess setup call w.driver).2 }
  | .other foe xlat bindThreshold =>
    { w with driver := { w.driver with foe, xlat, bindThreshold } }

def World.init (foe : FoeTable) (xlat : XlatConf) (bindThreshold : Nat) : World :=
  { driver := ⟨foe, fun _ => .zero, xlat, bindThreshold⟩
    storedFor := fun _ => none }

/-! ## The hand-over -/

/-- The flow of a packet, and the PPE and the index that its post-processing gets to. -/
def PostCall.used (call : PostCall) (s : State) : Option (Flow × Nat × Nat) :=
  match isL2w call.skb.protocol with
  | none => none
  | some l2w =>
    match xlatFlow s.xlat call.skb l2w, xlatSlot setup s call.skb l2w with
    | some flow, some slot => some (flow, slot)
    | _, _ => none

/-- The post-processing reads and updates the slot and reads the record, and nothing else of the
tables. -/
structure Confined (call : PostCall) (s : State) (ppe hash : Nat) : Prop where
  records : (mtk464xlatPostProcess setup call s).2.headroom = s.headroom
  slots : ∀ p i, p ≠ ppe ∨ i ≠ hash → (mtk464xlatPostProcess setup call s).2.foe p i = s.foe p i
  reads : ∀ t : State, t.xlat = s.xlat → t.bindThreshold = s.bindThreshold →
    t.headroom hash = s.headroom hash → t.foe ppe hash = s.foe ppe hash →
      (mtk464xlatPostProcess setup call t).1 = (mtk464xlatPostProcess setup call s).1 ∧
        (mtk464xlatPostProcess setup call t).2.foe ppe hash =
          (mtk464xlatPostProcess setup call s).2.foe ppe hash

/-- No packet overwrites the record of another PPE, and a packet that is post-processed gets to the
slot and to the record of a packet of its own flow. -/
def HandsOver (w : World) : Event → Prop
  | .pre desc _ =>
    stores setup w.driver desc ∨ clears setup w.driver desc →
      ∀ origin, w.storedFor desc.entry = some origin → origin.ppe = skbHnatPpe setup desc
  | .post call =>
    match call.used setup w.driver with
    | none => (mtk464xlatPostProcess setup call w.driver).2 = w.driver
    | some (flow, ppe, hash) =>
      w.storedFor hash = some ⟨ppe, flow⟩ ∧ Confined setup call w.driver ppe hash
  | .other _ _ _ => True

/-- The index is free or taken by a packet of the same PPE; the interface in the record names the
PPE of its port, and no packet of another flow with this hash was the last to be stored. -/
def Apart (w : World) : Event → Prop
  | .pre desc _ =>
    stores setup w.driver desc ∨ clears setup w.driver desc →
      w.driver.headroom desc.entry = .zero ∨
        skbHnatPpe setup (w.driver.headroom desc.entry) = skbHnatPpe setup desc
  | .post call =>
    ∀ flow ppe hash, call.used setup w.driver = some (flow, ppe, hash) →
      headroomPpe setup (w.driver.headroom hash) = skbHnatPpe setup (w.driver.headroom hash) ∧
        (w.storedFor hash).map Origin.flow = some flow
  | .other _ _ _ => True

/-! ## The records -/

/-- A record is empty, or the PPE of its port is that of the packet that it was stored for. -/
def Tracks (w : World) : Prop :=
  ∀ index, match w.storedFor index with
    | none => w.driver.headroom index = .zero
    | some origin =>
      w.driver.headroom index ≠ .zero ∧ skbHnatPpe setup (w.driver.headroom index) = origin.ppe

end

theorem ne_zero_of_ready {bindThreshold : Nat} {desc : HnatDesc}
    (ready : reasonReadyBind bindThreshold desc = true) : desc ≠ .zero := by
  rintro rfl
  have idle : ∀ few : Bool, (((0 : BitVec 5) == HIT_UNBIND_RATE_REACH) ||
      (few && (0 : BitVec 5) == HIT_UNBIND)) = false := by decide
  unfold reasonReadyBind at ready
  exact absurd (ready.symm.trans (idle _)) (by decide)

section

variable {setup : Setup}

theorem preProcess_headroom (desc : HnatDesc) (s : State) :
    (mtk464xlatPreProcess setup desc s).headroom =
      if stores setup s desc then Function.update s.headroom desc.entry desc
      else if clears setup s desc then Function.update s.headroom desc.entry .zero
      else s.headroom := by
  unfold mtk464xlatPreProcess stores clears inTable
  by_cases outside : setup.plat.foeEtryNum ≤ desc.entry ∨
      setup.plat.ppeNum ≤ skbHnatPpe setup desc
  · have notIn : (decide (desc.entry < setup.plat.foeEtryNum) &&
        decide (skbHnatPpe setup desc < setup.plat.ppeNum)) = false := by
      rw [Bool.and_eq_false_iff, decide_eq_false_iff_not, decide_eq_false_iff_not]
      omega
    simp [notIn, outside]
  · have isIn : (decide (desc.entry < setup.plat.foeEtryNum) &&
        decide (skbHnatPpe setup desc < setup.plat.ppeNum)) = true := by
      rw [Bool.and_eq_true, decide_eq_true_eq, decide_eq_true_eq]
      omega
    rw [if_neg outside, isIn]
    by_cases bound : stateOf (s.foe (skbHnatPpe setup desc) desc.entry) = BIND
    · simp [bound, State.record]
    · by_cases ready : reasonReadyBind s.bindThreshold desc = true <;>
        simp [bound, ready, State.record]

theorem preProcess_frame (desc : HnatDesc) (s : State) :
    (mtk464xlatPreProcess setup desc s).foe = s.foe ∧
      (mtk464xlatPreProcess setup desc s).xlat = s.xlat ∧
      (mtk464xlatPreProcess setup desc s).bindThreshold = s.bindThreshold := by
  unfold mtk464xlatPreProcess
  split
  · exact ⟨rfl, rfl, rfl⟩
  · dsimp only
    split_ifs <;> exact ⟨rfl, rfl, rfl⟩

theorem postProcess_headroom (call : PostCall) (s : State) :
    (mtk464xlatPostProcess setup call s).2.headroom = s.headroom := by
  unfold mtk464xlatPostProcess
  split
  · rfl
  · split
    · rfl
    · split <;> rfl

theorem pre_at (setup : Setup) (w : World) (desc : HnatDesc) (flow : Flow) (index : Nat) :
    ((w.pre setup desc flow).driver.headroom index = w.driver.headroom index ∧
        (w.pre setup desc flow).storedFor index = w.storedFor index) ∨
      (index = desc.entry ∧ reasonReadyBind w.driver.bindThreshold desc = true ∧
        (w.pre setup desc flow).driver.headroom index = desc ∧
        (w.pre setup desc flow).storedFor index = some ⟨skbHnatPpe setup desc, flow⟩) ∨
      ((w.pre setup desc flow).driver.headroom index = .zero ∧
        (w.pre setup desc flow).storedFor index = none) := by
  simp only [World.pre, preProcess_headroom]
  by_cases here : index = desc.entry
  · subst here
    by_cases stored : stores setup w.driver desc = true
    · have ready : reasonReadyBind w.driver.bindThreshold desc = true := by
        unfold stores at stored
        exact (Bool.and_eq_true_iff.mp stored).2
      rw [if_pos stored, if_pos stored, Function.update_self, Function.update_self]
      exact .inr (.inl ⟨rfl, ready, rfl, rfl⟩)
    · by_cases cleared : clears setup w.driver desc = true
      · rw [if_neg stored, if_neg stored, if_pos cleared, if_pos cleared, Function.update_self,
          Function.update_self]
        exact .inr (.inr ⟨rfl, rfl⟩)
      · rw [if_neg stored, if_neg stored, if_neg cleared, if_neg cleared]
        exact .inl ⟨rfl, rfl⟩
  · left
    constructor <;> split_ifs <;> first | exact Function.update_of_ne here _ _ | rfl

theorem tracks_init (foe : FoeTable) (xlat : XlatConf) (bindThreshold : Nat) :
    Tracks setup (World.init foe xlat bindThreshold) :=
  fun _ => rfl

theorem tracks_step {w : World} (event : Event) (tracks : Tracks setup w) :
    Tracks setup (step setup w event) := by
  cases event with
  | pre desc flow =>
    intro index
    obtain ⟨record, origin⟩ | ⟨-, ready, record, origin⟩ | ⟨record, origin⟩ :=
      pre_at setup w desc flow index
    · simp only [step, record, origin]
      exact tracks index
    · simp only [step, record, origin]
      exact ⟨ne_zero_of_ready ready, trivial⟩
    · simp only [step, record, origin]
  | post call =>
    intro index
    simp only [step, postProcess_headroom]
    exact tracks index
  | other foe xlat bindThreshold => exact tracks

/-! ## The slot of a packet -/

variable {s : State} {ppe hash : Nat} {call : PostCall}

theorem xlatSlot_eq_some_iff {skb : XlatSkb} {l2w : Bool} :
    xlatSlot setup s skb l2w = some (ppe, hash) ↔
      mtk464xlatGetHash setup s.xlat skb l2w = some hash ∧ hash < setup.plat.foeEtryNum ∧
        reasonReadyBind s.bindThreshold (s.headroom hash) = true ∧
        headroomPpe setup (s.headroom hash) = ppe := by
  unfold xlatSlot
  cases mtk464xlatGetHash setup s.xlat skb l2w with
  | none => simp
  | some own =>
    simp only [Option.some.injEq]
    split_ifs with outside idle
    · constructor
      · intro impossible
        cases impossible
      · rintro ⟨rfl, inside, -⟩
        omega
    · constructor
      · intro impossible
        cases impossible
      · rintro ⟨rfl, -, ready, -⟩
        rw [ready] at idle
        cases idle
    · have ready : reasonReadyBind s.bindThreshold (s.headroom own) = true := by
        simpa using idle
      rw [Option.some.injEq, Prod.mk.injEq]
      constructor
      · rintro ⟨rfl, rfl⟩
        exact ⟨rfl, by omega, ready, rfl⟩
      · rintro ⟨rfl, -, -, rfl⟩
        exact ⟨rfl, rfl⟩

theorem used_eq_some_iff {flow : Flow} :
    call.used setup s = some (flow, ppe, hash) ↔
      ∃ l2w, isL2w call.skb.protocol = some l2w ∧
        xlatFlow s.xlat call.skb l2w = some flow ∧
        xlatSlot setup s call.skb l2w = some (ppe, hash) := by
  unfold PostCall.used
  cases isL2w call.skb.protocol with
  | none => simp
  | some l2w =>
    simp only [Option.some.injEq, exists_eq_left']
    cases xlatFlow s.xlat call.skb l2w with
    | none => simp
    | some own => cases xlatSlot setup s call.skb l2w <;> simp

theorem postProcess_of_unused (unused : call.used setup s = none) :
    mtk464xlatPostProcess setup call s = (-1, s) := by
  unfold PostCall.used at unused
  unfold mtk464xlatPostProcess
  cases way : isL2w call.skb.protocol with
  | none => rfl
  | some l2w =>
    simp only [way] at unused ⊢
    cases slot : xlatSlot setup s call.skb l2w with
    | none => rfl
    | some found =>
      obtain ⟨ppe, hash⟩ := found
      -- a slot is found by the hash of the flow
      obtain ⟨hashed, -⟩ := xlatSlot_eq_some_iff.mp slot
      obtain ⟨flow, carried, -⟩ := Option.map_eq_some_iff.mp hashed
      rw [carried, slot] at unused
      cases unused

def commitXlat (entry : Option FoeEntry) (ppe hash : Nat) (s : State) : Int × State :=
  match entry with
  | none => (-1, s)
  | some entry => (0, { s with foe := s.foe.write ppe hash entry })

theorem postProcess_of_slot {l2w : Bool} (way : isL2w call.skb.protocol = some l2w)
    (slot : xlatSlot setup s call.skb l2w = some (ppe, hash)) :
    mtk464xlatPostProcess setup call s =
      commitXlat (xlatEntry setup s.xlat call l2w (s.foe ppe hash)) ppe hash s := by
  unfold mtk464xlatPostProcess
  simp only [way, slot]
  rfl

theorem confined_of_used {flow : Flow} (used : call.used setup s = some (flow, ppe, hash)) :
    Confined setup call s ppe hash := by
  obtain ⟨l2w, way, -, slot⟩ := used_eq_some_iff.mp used
  refine ⟨postProcess_headroom call s, ?_, ?_⟩
  · intro p i elsewhere
    rw [postProcess_of_slot way slot]
    cases xlatEntry setup s.xlat call l2w (s.foe ppe hash) with
    | none => rfl
    | some entry => exact StaticEntry.write_other s.foe ppe hash entry p i elsewhere
  · intro t sameXlat sameThreshold sameRecord sameSlot
    have found : xlatSlot setup t call.skb l2w = some (ppe, hash) := by
      rw [xlatSlot_eq_some_iff, sameXlat, sameThreshold, sameRecord]
      exact xlatSlot_eq_some_iff.mp slot
    rw [postProcess_of_slot way slot, postProcess_of_slot way found, sameXlat, sameSlot]
    cases xlatEntry setup s.xlat call l2w (s.foe ppe hash) with
    | none => exact ⟨rfl, sameSlot⟩
    | some entry =>
      refine ⟨rfl, ?_⟩
      simp [commitXlat, FoeTable.write]

/-! ## The steps -/

theorem handsOver_iff {w : World} (tracks : Tracks setup w) (event : Event) :
    HandsOver setup w event ↔ Apart setup w event := by
  cases event with
  | pre desc flow =>
    apply imp_congr_right
    intro _
    have record := tracks desc.entry
    cases stored : w.storedFor desc.entry with
    | none =>
      simp only [stored] at record
      constructor
      · intro _
        exact .inl record
      · intro _ origin impossible
        cases impossible
    | some origin =>
      simp only [stored] at record
      obtain ⟨filled, ppe⟩ := record
      constructor
      · intro own
        right
        rw [ppe]
        exact own origin rfl
      · rintro (empty | own) origin' same
        · exact absurd empty filled
        · cases same
          rw [← ppe]
          exact own
  | post call =>
    simp only [HandsOver, Apart]
    cases used : call.used setup w.driver with
    | none =>
      rw [postProcess_of_unused used]
      simp
    | some taken =>
      obtain ⟨flow, ppe, hash⟩ := taken
      obtain ⟨l2w, -, -, slot⟩ := used_eq_some_iff.mp used
      obtain ⟨-, -, ready, named⟩ := xlatSlot_eq_some_iff.mp slot
      have record := tracks hash
      simp only [Option.some.injEq, Prod.mk.injEq]
      cases stored : w.storedFor hash with
      | none =>
        -- the record of such a packet would be empty
        simp only [stored] at record
        exact absurd record (ne_zero_of_ready ready)
      | some origin =>
        simp only [stored] at record
        constructor
        · rintro ⟨own, -⟩ flow' ppe' hash' ⟨rfl, rfl, rfl⟩
          cases own
          exact ⟨named.trans record.2.symm, by rw [stored]; rfl⟩
        · intro apart
          obtain ⟨agrees, same⟩ := apart flow ppe hash ⟨rfl, rfl, rfl⟩
          rw [stored, Option.map_some, Option.some.injEq] at same
          have ownPpe : origin.ppe = ppe := by
            rw [← record.2, ← agrees, named]
          refine ⟨?_, confined_of_used used⟩
          rw [← same, ← ownPpe]
  | other foe xlat bindThreshold => exact Iff.rfl

end

/-! ## Packets that cannot meet -/

/-- The packets are of the given flows, with the hash of their flow as their index; the port and the
interface of their descriptor both name the PPE of their flow. -/
def Unmixed (setup : Setup) (flows : Flow → Prop) (ppeOf : Flow → Nat) : Event → Prop
  | .pre desc flow =>
    flows flow ∧ desc.entry = flow.hash setup ∧ skbHnatPpe setup desc = ppeOf flow ∧
      headroomPpe setup desc = ppeOf flow
  | .post call => ∀ xlat l2w flow, xlatFlow xlat call.skb l2w = some flow → flows flow
  | .other _ _ _ => True

def AtHome (setup : Setup) (flows : Flow → Prop) (ppeOf : Flow → Nat) (w : World) : Prop :=
  ∀ index origin, w.storedFor index = some origin →
    flows origin.flow ∧ index = origin.flow.hash setup ∧ origin.ppe = ppeOf origin.flow ∧
      headroomPpe setup (w.driver.headroom index) = origin.ppe

section

variable {setup : Setup} {flows : Flow → Prop} {ppeOf : Flow → Nat}

theorem atHome_step {w : World} {event : Event} (atHome : AtHome setup flows ppeOf w)
    (unmixed : Unmixed setup flows ppeOf event) :
    AtHome setup flows ppeOf (step setup w event) := by
  cases event with
  | pre desc flow =>
    intro index origin
    obtain ⟨record, stored⟩ | ⟨here, -, record, stored⟩ | ⟨record, stored⟩ :=
      pre_at setup w desc flow index
    · simp only [step, record, stored]
      exact atHome index origin
    · simp only [step, record, stored]
      rintro ⟨⟩
      obtain ⟨listed, hashed, ppe, named⟩ := unmixed
      exact ⟨listed, here.trans hashed, ppe, named.trans ppe.symm⟩
    · simp only [step, stored]
      intro impossible
      cases impossible
  | post call =>
    intro index origin
    simp only [step, postProcess_headroom]
    exact atHome index origin
  | other foe xlat bindThreshold => exact atHome

theorem handsOver_of_unmixed
    (distinct : ∀ f g, flows f → flows g → f.hash setup = g.hash setup → f = g) {w : World}
    {event : Event} (tracks : Tracks setup w) (atHome : AtHome setup flows ppeOf w)
    (unmixed : Unmixed setup flows ppeOf event) : HandsOver setup w event := by
  cases event with
  | pre desc flow =>
    intro _ origin stored
    obtain ⟨listed, hashed, ppe, -⟩ := atHome desc.entry origin stored
    obtain ⟨listed', hashed', ppe', -⟩ := unmixed
    obtain rfl : origin.flow = flow := distinct _ _ listed listed' (hashed.symm.trans hashed')
    exact ppe.trans ppe'.symm
  | post call =>
    apply (handsOver_iff tracks (.post call)).mpr
    intro flow ppe hash used
    obtain ⟨l2w, -, carried, slot⟩ := used_eq_some_iff.mp used
    obtain ⟨hashed, -, ready, -⟩ := xlatSlot_eq_some_iff.mp slot
    rw [mtk464xlatGetHash, carried, Option.map_some, Option.some.injEq] at hashed
    have record := tracks hash
    cases stored : w.storedFor hash with
    | none =>
      simp only [stored] at record
      exact absurd record (ne_zero_of_ready ready)
    | some origin =>
      simp only [stored] at record
      obtain ⟨listed, own, -, named⟩ := atHome hash origin stored
      refine ⟨named.trans record.2.symm, ?_⟩
      rw [Option.map_some, Option.some.injEq]
      exact distinct _ _ listed (unmixed _ _ _ carried) (own.symm.trans hashed.symm)
  | other foe xlat bindThreshold => trivial

end

/-- In a run of packets of all PPEs every record and every slot is handed over exactly if the
packets are apart: by PPE where they are stored, and by flow where they are looked up, with the
interface of a record naming the PPE of its port.  They are when no two flows have one hash. -/
theorem hands_over_iff_apart (setup : Setup) (foe : FoeTable) (xlat : XlatConf)
    (bindThreshold : Nat) (events : List Event) :
    (Along (step setup) (HandsOver setup) (World.init foe xlat bindThreshold) events ↔
        Along (step setup) (Apart setup) (World.init foe xlat bindThreshold) events) ∧
      ∀ (flows : Flow → Prop) (ppeOf : Flow → Nat),
        (∀ f g, flows f → flows g → f.hash setup = g.hash setup → f = g) →
          (∀ event ∈ events, Unmixed setup flows ppeOf event) →
            Along (step setup) (HandsOver setup) (World.init foe xlat bindThreshold) events := by
  have start : Tracks setup (World.init foe xlat bindThreshold) :=
    tracks_init foe xlat bindThreshold
  refine ⟨⟨?_, ?_⟩, ?_⟩
  · exact along_of_invariant (step setup) (HandsOver setup) (Apart setup) (Tracks setup)
      (fun w event tracks _ => tracks_step event tracks)
      (fun w event tracks => (handsOver_iff tracks event).mp) _ events start
  · exact along_of_invariant (step setup) (Apart setup) (HandsOver setup) (Tracks setup)
      (fun w event tracks _ => tracks_step event tracks)
      (fun w event tracks => (handsOver_iff tracks event).mpr) _ events start
  · intro flows ppeOf distinct unmixed
    have empty : AtHome setup flows ppeOf (World.init foe xlat bindThreshold) := by
      intro index origin impossible
      cases impossible
    exact along_of_invariant (step setup) (fun _ event => Unmixed setup flows ppeOf event)
      (HandsOver setup) (fun w => Tracks setup w ∧ AtHome setup flows ppeOf w)
      (fun w event inv guarded => ⟨tracks_step event inv.1, atHome_step inv.2 guarded⟩)
      (fun w event inv guarded => handsOver_of_unmixed distinct inv.1 inv.2 guarded) _ events
      ⟨start, empty⟩ (along_of_forall _ _ _ events fun _ event member => unmixed event member)

/-! ## A flow from a WAN port with a PPE of its own -/

def mt7988 : Setup where
  plat := ⟨3, 32768, 64⟩
  version := .MTK_HNAT_V3
  ppeIdx := fun gmacId => if gmacId < 3 then some gmacId else none

def oneServer : XlatConf where
  xlatPrefix := 0x0064ff9b000000000000000000000000
  prefixLen := 96
  mapList := [⟨0xc0000201, 0x20010db8000000000000000000000001⟩]

def toLan : PostCall where
  skb :=
    { protocol := ETH_P_IP
      iph := ⟨5, 0, 60, 1, 0, 64, IPPROTO_UDP, 0, 0xc0000201, 0xc0a80102⟩
      ip6h := ⟨0, 0, 0, 0, 0, 0, 0, 0, 0⟩
      portsAt := fun offset => if offset = 20 then some ⟨53, 4000⟩ else none
      neigh := some 0x021122334455 }
  out := ⟨['b', 'r', '-', 'l', 'a', 'n'], none, 0x02aabbccddee⟩
  timestamp := 0

def fromServer : Flow where
  addrs := .ipv6 0x20010db8000000000000000000000001 0x0064ff9b0000000000000000c0a80102
  ports := ⟨53, 4000⟩
  udp := true

/-- The descriptor of its packets: from the second MAC, whose packets PPE 1 processes. -/
def fromWan : HnatDesc :=
  ⟨fromServer.hash mt7988, HIT_UNBIND_RATE_REACH, NR_GMAC2_PORT, FOE_MAGIC_GE_WAN⟩

/-- The packet is stored for PPE 1 and then binds a slot of PPE 0. -/
theorem wan_flow_misses_its_ppe :
    ¬ ∀ (foe : FoeTable) (xlat : XlatConf) (bindThreshold : Nat) (events : List Event),
      Along (step mt7988) (HandsOver mt7988) (World.init foe xlat bindThreshold) events := by
  intro always
  have run := always (fun _ _ => FoeEntry.zero) oneServer 8 [.pre fromWan fromServer, .post toLan]
  have inside : fromWan.entry < 32768 :=
    hnatGetPpeHash_lt mt7988.plat (by decide) (by decide) fromServer.tmp
  have second : skbHnatPpe mt7988 fromWan = 1 := by decide
  have stored : stores mt7988 (World.init (fun _ _ => FoeEntry.zero) oneServer 8).driver fromWan =
      true := by
    have ready : reasonReadyBind 8 fromWan = true := by decide
    have unbound : (stateOf FoeEntry.zero != BIND) = true := by decide
    have known : inTable mt7988 fromWan = true := by
      rw [inTable, second, Bool.and_eq_true, decide_eq_true_eq, decide_eq_true_eq]
      exact ⟨inside, by decide⟩
    rw [stores, known, Bool.true_and, Bool.and_eq_true]
    exact ⟨unbound, ready⟩
  obtain ⟨-, post, -⟩ := run
  generalize reached : step mt7988 (World.init (fun _ _ => FoeEntry.zero) oneServer 8)
    (.pre fromWan fromServer) = w at post
  have record : w.driver.headroom fromWan.entry = fromWan := by
    rw [← reached, step, World.pre, preProcess_headroom, if_pos stored, Function.update_self]
  have origin : w.storedFor fromWan.entry = some ⟨1, fromServer⟩ := by
    rw [← reached]
    simp only [step, World.pre, stored, if_true, Function.update_self, second]
  obtain ⟨-, xlat, bindThreshold⟩ := @preProcess_frame mt7988 fromWan
    (World.init (fun _ _ => FoeEntry.zero) oneServer 8).driver
  have used : toLan.used mt7988 w.driver = some (fromServer, 0, fromWan.entry) := by
    have sameXlat : w.driver.xlat = oneServer := by
      rw [← reached]
      exact xlat
    have sameThreshold : w.driver.bindThreshold = 8 := by
      rw [← reached]
      exact bindThreshold
    have carried : xlatFlow oneServer toLan.skb false = some fromServer := by decide
    have hashed : mtk464xlatGetHash mt7988 oneServer toLan.skb false = some fromWan.entry := by
      rw [mtk464xlatGetHash, carried, Option.map_some]
      rfl
    have ready : reasonReadyBind 8 fromWan = true := by decide
    have named : headroomPpe mt7988 fromWan = 0 := by decide
    refine used_eq_some_iff.mpr ⟨false, rfl, ?_, xlatSlot_eq_some_iff.mpr ?_⟩
    · rw [sameXlat, carried]
    · rw [sameXlat, sameThreshold, record]
      exact ⟨hashed, inside, ready, named⟩
  simp only [HandsOver, used] at post
  rw [origin] at post
  have same : (⟨1, fromServer⟩ : Origin) = ⟨0, fromServer⟩ := Option.some.inj post.1
  exact absurd (congrArg Origin.ppe same) (by decide)

end OpenwrtSource.Hnat.XlatHandover
