import OpenwrtSource.Hnat.DeviceRefs
import OpenwrtSource.Hnat.HookVerdicts
import OpenwrtSource.Hnat.McastEvents
import OpenwrtSource.Hnat.BindEffects

/-!
# The way through the ping-pong device

A packet from an extension device goes through the PPE under a VLAN tag with the
interface index of the device, and a packet of a flow to an extension device
comes to the processor with the index in the `act_dp` of its entry.  Both are
looked up in the table of extension devices when the packet arrives.
-/

namespace OpenwrtSource.Hnat.PingPong

open Hnat.Foe
open Hnat.McastTable hiding NetDev
open Hnat.McastOffload Hnat.ExtDevices
open Hnat.DeviceRefs (extSlots)
open Hnat.HookVerdicts (InDev Packet Calls Config entryOutside doGe2extFast
  doExt2geFastLearn HQOS_MAGIC_TAG HIT_BIND_FORCE_TO_CPU ETH_P_8021Q)

structure Setup where
  names : Names
  hnat : BindPacket.HnatConfig
  plat : Platform
  /-- The toggles that the hooks read. -/
  toggles : Config

/-- The WAN device, which `get_wandev_from_index` looks up while there is none. -/
def wandev (names : Names) (w : World) : Option NetDev :=
  w.hnat.gWandev.or (devGetByName w.registered names.wan)

def getWandevFromIndex (names : Names) (w : World) (index : BitVec 32) : Option NetDev :=
  (wandev names w).filter fun dev => dev.ifindex = index

/-- `get_wandev_from_index` keeps the device that it has looked up. -/
def keepWandev (names : Names) (w : World) : World :=
  let wan :=
    registerSlot true (devGetByName w.registered names.wan) w.hnat.gWandev w.hnat.refs
  { w with hnat := { w.hnat with gWandev := wan.1, refs := wan.2 } }

/-- The `u8 index` that `do_hnat_ge_to_ext` reads. -/
def pingpongIndex (entry : FoeEntry) : BitVec 8 :=
  (if isIpv4Grp (pktTypeOf entry) then Ipv4Hnapt.actDp.get entry else Ipv65tRoute.actDp.get entry)
    &&& BindEntry.UDF_PINGPONG_IFIDX

/-- `skb->vlan_tci & VLAN_VID_MASK`. -/
def vlanIndex (packet : Packet) : BitVec 32 := BitVec.ofNat 32 (packet.vlanTci % 4096)

inductive Delivery where
  | received (dev : NetDev)
  | transmitted (dev : NetDev)
  | nowhere
deriving DecidableEq

section

variable (setup : Setup) (w : World) (foeTable : Nat → Nat → FoeEntry)

def configOf : Config :=
  { setup.toggles with
    foeEtryNum := setup.plat.foeEtryNum
    ppeNum := setup.plat.ppeNum
    gPpdev := w.hnat.gPpdev.map fun dev => decide (dev ∈ w.running)
    devFromIndex := fun index => (getDevFromIndex w.hnat (BitVec.ofNat 32 index)).isSome
    wandevFromIndex := fun index =>
      (getWandevFromIndex setup.names w (BitVec.ofNat 32 index)).isSome
    pingpongIfidx := fun ppe entry => (pingpongIndex (foeTable ppe entry)).toNat }

variable (calls : Calls) (packet : Packet)

def UntagFails : Prop := packet.hProto = ETH_P_8021Q ∧ calls.skbVlanUntag = .failed

instance : Decidable (UntagFails calls packet) := inferInstanceAs (Decidable (_ ∧ _))

def UnshareFails : Prop :=
  setup.toggles.qosToggle = 1 ∧ packet.hProto = HQOS_MAGIC_TAG ∧
    (calls.skbUnshare = .failed ∨ calls.pskbMayPull = false)

instance : Decidable (UnshareFails setup calls packet) := inferInstanceAs (Decidable (_ ∧ _ ∧ _))

def mapeTarget : Option NetDev :=
  if setup.toggles.mapeToggle ∧ calls.mapeAddIpv6Hdr then
    getWandevFromIndex setup.names w (vlanIndex packet)
  else none

def doHnatExtToGe2 : Delivery :=
  if entryOutside (configOf setup w foeTable) packet then .nowhere
  else
    match getDevFromIndex w.hnat (vlanIndex packet) with
    | some dev => if UntagFails calls packet then .nowhere else .received dev
    | none => (mapeTarget setup w calls packet).elim .nowhere .received

/-- Without a device the function returns before the part that invalidates the entry. -/
def doHnatGeToExt : Delivery :=
  if entryOutside (configOf setup w foeTable) packet then .nowhere
  else
    match getDevFromIndex w.hnat
        ((pingpongIndex (foeTable packet.desc.ppe packet.desc.entry)).setWidth 32) with
    | some dev => if UnshareFails setup calls packet then .nowhere else .transmitted dev
    | none => .nowhere

end

/-- A packet that the PPE has passed to the processor: a hook of a bridge or one of
the pre-routing hooks sees it. -/
structure Arrival where
  bridged : Bool
  dev : InDev
  packet : Packet
  calls : Calls

section

variable (setup : Setup) (w : World) (foeTable : Nat → Nat → FoeEntry) (arrival : Arrival)

def Arrival.tagged : Packet :=
  let packet := arrival.packet
  if arrival.bridged ∧ setup.toggles.qosToggle = 1 ∧ packet.hProto = HQOS_MAGIC_TAG then
    { packet with
      desc := { packet.desc with
        entry := packet.innerTci % 0x4000, reason := HIT_BIND_FORCE_TO_CPU } }
  else packet

/-- The hook takes the packet for one from an extension device: step 2, learning stage. -/
def Learns : Prop :=
  arrival.bridged = true ∧
    doExt2geFastLearn (configOf setup w foeTable) arrival.dev (arrival.tagged setup) ∧
    (setup.toggles.qosToggle = 0 ∨ (arrival.tagged setup).hProto ≠ HQOS_MAGIC_TAG)

instance : Decidable (Learns setup w foeTable arrival) := inferInstanceAs (Decidable (_ ∧ _ ∧ _))

def Forwards : Prop :=
  doGe2extFast (configOf setup w foeTable) arrival.dev (arrival.tagged setup)

instance : Decidable (Forwards setup w foeTable arrival) :=
  inferInstanceAs (Decidable (doGe2extFast _ _ _))

def deliver : Delivery :=
  if Learns setup w foeTable arrival then
    doHnatExtToGe2 setup w foeTable arrival.calls (arrival.tagged setup)
  else if Forwards setup w foeTable arrival then
    doHnatGeToExt setup w foeTable arrival.calls (arrival.tagged setup)
  else .nowhere

def LooksUpWan : Prop :=
  arrival.bridged = true ∧ arrival.dev.ppd = true ∧
    (arrival.packet.desc.sport = HookVerdicts.NR_PDMA_PORT ∨
      arrival.packet.desc.sport = HookVerdicts.NR_QDMA_PORT) ∧
    getDevFromIndex w.hnat (vlanIndex arrival.packet) = none

instance : Decidable (LooksUpWan w arrival) := inferInstanceAs (Decidable (_ ∧ _ ∧ _ ∧ _))

def Remaps : Prop :=
  Learns setup w foeTable arrival ∧ getDevFromIndex w.hnat (vlanIndex arrival.packet) = none ∧
    deliver setup w foeTable arrival ≠ .nowhere

instance : Decidable (Remaps setup w foeTable arrival) :=
  inferInstanceAs (Decidable (_ ∧ _ ∧ _))

end

inductive Flight where
  /-- Sent into the PPE for a device, under a tag. -/
  | pinged (owner : NetDev) (tci : Nat)
  /-- Passed on by the bound entry of a flow towards a device. -/
  | steered (owner : NetDev) (ppe hash : Nat)
deriving DecidableEq

structure System where
  devices : World
  bind : BindEntry.State
  /-- The extension device that the flow bound in a slot goes to. -/
  owner : Nat → Nat → Option NetDev
  flights : List Flight

def System.foe (s : System) (ppe hash : Nat) : FoeEntry := s.bind.mcast.hw.foeTable ppe hash

def System.withHw (s : System) (hw : Hw) : System :=
  { s with bind := { s.bind with mcast := { s.bind.mcast with hw } } }

def System.init (extDevices : List Name) : System :=
  ⟨World.init extDevices, ⟨McastEvents.State.init, fun _ _ => []⟩, fun _ _ => none, []⟩

inductive Event where
  /-- `clears` says that the device is of Ethernet or checks the offload of flows. -/
  | device (event : ExtDevices.Event) (clears : Bool) (foeTimestamp : BitVec 8)
  | ping (dev : NetDev) (packet : Packet) (calls : Calls)
  | bind (dev : NetDev) (pass : BindEntry.Pass)
  /-- The PPE learns a flow, or lets one age. -/
  | learn (ppe hash : Nat) (entry : FoeEntry)
  | steer (ppe hash : Nat)
  | arrive (i : Nat) (arrival : Arrival)

/-- The egress device, as `skb_to_hnat_info` sees it. -/
def egress (hnat : MtkHnat) (dev : NetDev) (rest : BindPacket.EgressDev) : BindPacket.EgressDev :=
  { rest with
    name := dev.name
    ifindex := dev.ifindex
    extIf := getIndexFromDev hnat dev != 0
    wifiHookIf := getWifiHookIf hnat dev }

/-- The branch of `skb_to_hnat_info` that fills `act_dp` with an extension device. -/
def towardsExt (cfg : BindPacket.HnatConfig) (dev : BindPacket.EgressDev)
    (desc : BindPacket.HnatDesc) : Bool :=
  !(dev.isLanGrp cfg || dev.isWan cfg) && dev.extIf &&
    (desc.fromGePpd || desc.fromGeLanGrp || desc.fromGeWan || desc.fromGeVirtual || desc.fromWed)

/-- `do_hnat_ext_to_ge`: the PPD device is up, and a tag that the packet has goes in. -/
def doHnatExtToGe (s : System) (dev : NetDev) (packet : Packet) (calls : Calls) : Option Flight :=
  if (s.devices.hnat.gPpdev.any fun ppd => decide (ppd ∈ s.devices.running)) ∧
      (packet.vlanTci % 4096 = 0 ∨ calls.vlanInsertTag = true) then
    some (.pinged dev (0x1000 + dev.ifindex.toNat % 4096))
  else none

/-- The notifier, with the entries that it clears when a device goes down. -/
def handle (setup : Setup) (s : System) (event : ExtDevices.Event) (clears : Bool)
    (foeTimestamp : BitVec 8) : System :=
  let s := { s with devices := ExtDevices.step setup.names s.devices event }
  match event with
  | .goingDown dev =>
    if clears || findExtifFromDevname s.devices.hnat dev.name then
      s.withHw (McastWorld.foeClearAllBindEntries setup.plat foeTimestamp s.bind.mcast.hw)
    else s
  | _ => s

def setOwner (s : System) (ppe hash : Nat) (owner : Option NetDev) : System :=
  { s with owner := fun p h => if p = ppe ∧ h = hash then owner else s.owner p h }

def bind (setup : Setup) (s : System) (dev : NetDev) (pass : BindEntry.Pass) : System :=
  let dev' := egress s.devices.hnat dev pass.dev
  let result := BindEntry.skbToHnatInfo setup.hnat setup.plat { pass with dev := dev' } s.bind
  let s := { s with bind := result.2 }
  match result.1 with
  | .bound _ =>
    setOwner s pass.skb.desc.ppe pass.skb.desc.entry
      (if towardsExt setup.hnat dev' pass.skb.desc then some dev else none)
  | _ => s

/-- What the packet of a flight says when it arrives: the tag, and the port of the
processor, of a packet that was sent into the PPE; the slot, and the reason, of one that
an entry has passed on. -/
def Flight.arrival (flight : Flight) (arrival : Arrival) : Arrival :=
  let packet := arrival.packet
  match flight with
  | .pinged _ tci =>
    let sport :=
      if packet.desc.sport = HookVerdicts.NR_QDMA_PORT then HookVerdicts.NR_QDMA_PORT
      else HookVerdicts.NR_PDMA_PORT
    { arrival with
      dev := { arrival.dev with ppd := true }
      packet := { packet with vlanTci := tci, desc := { packet.desc with sport } } }
  | .steered _ ppe hash =>
    { arrival with
      packet := { packet with
        desc := { packet.desc with ppe, entry := hash, reason := HIT_BIND_FORCE_TO_CPU } } }

def arrive (setup : Setup) (s : System) (arrival : Arrival) : System :=
  let desc := (arrival.tagged setup).desc
  let hw := s.bind.mcast.hw
  let remapped := Bfib1.pktType.set IPV4_HNAPT (s.foe desc.ppe desc.entry)
  let after :=
    if Remaps setup s.devices s.foe arrival then
      s.withHw (hw.writeFoe desc.ppe desc.entry remapped)
    else s
  if LooksUpWan s.devices arrival then
    { after with devices := keepWandev setup.names s.devices }
  else after

def step (setup : Setup) (s : System) : Event → System
  | .device event clears foeTimestamp => handle setup s event clears foeTimestamp
  | .ping dev packet calls =>
    if getIndexFromDev s.devices.hnat dev = 0 then s
    else { s with flights := s.flights ++ (doHnatExtToGe s dev packet calls).toList }
  | .bind dev pass => bind setup s dev pass
  | .learn ppe hash entry =>
    if stateOf entry = BIND then s
    else setOwner (s.withHw (s.bind.mcast.hw.writeFoe ppe hash entry)) ppe hash none
  | .steer ppe hash =>
    if stateOf (s.foe ppe hash) = BIND then
      let flight := (s.owner ppe hash).map fun owner => Flight.steered owner ppe hash
      { s with flights := s.flights ++ flight.toList }
    else s
  | .arrive i arrival =>
    match s.flights[i]? with
    | none => s
    | some flight =>
      { arrive setup s (flight.arrival arrival) with flights := s.flights.eraseIdx i }

end OpenwrtSource.Hnat.PingPong
