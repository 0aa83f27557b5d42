import OpenwrtSource.Hnat.BindEntry
import OpenwrtSource.Hnat.SlotView
import OpenwrtSource.Lib.Run

/-!
# Entries are bound for their own flow

A packet that hits an unbound entry tells the slot, and the bind takes the key of
the new entry from there and everything else from the packet.  Nothing keeps the
engine from learning another flow in the slot before the bind reads it: then the
key is the one of the other flow.
-/

namespace OpenwrtSource.Hnat.BoundFlows

open Lib.Run Lib.BitField Hnat.Foe Hnat.McastOffload Hnat.Translation Hnat.BindPacket Hnat.BindEntry
open Hnat.HookTx Hnat.FlowKeys Hnat.SlotView

/-- What the hook asks of the packet and of the kernel. -/
structure Hook where
  /-- `mtk_464xlat_post_process` is on and fails. -/
  xlatFails : Bool
  alg : Bool
  magicTagValid : Bool
  spaceAvailableHead : Bool
  macHeaderSet : Bool
  hashed : Bool
  /-- `HNAT_EXCEPTION_BIT` of the mark. -/
  exception : Bool
  /-- The device is a bond without a port for the packet. -/
  noSlave : Bool
  /-- A tunnel that is offloaded for TCP and UDP, and another packet. -/
  tnlOther : Bool
  reason : BitVec 5
  bindThreshold : Nat
  /-- The hook is called with a function for the next hop. -/
  routed : Bool
  accelType : Bool
  nexthopFails : Bool
  /-- `mtk_tnl_encap_offload` is there and refuses the packet. -/
  encapRefused : Bool

def isVirtDev (cfg : HnatConfig) (dev : EgressDev) : Bool :=
  !dev.isLanGrp cfg && !dev.isWan cfg && !dev.extIf

/-- The cases `HIT_UNBIND` and `HIT_UNBIND_RATE_REACH`. -/
def bindsOnHit (hook : Hook) (cfg : HnatConfig) (pass : Pass) (bound : Bool) : Bool :=
  let virtDev := isVirtDev cfg pass.dev
  let tops := pass.skb.desc.tops != 0
  let isDecap := pass.skb.desc.isDecap
  if bound then false
  else if hook.routed && !hook.accelType then false
  else if hook.routed && !(virtDev && pass.hwPath.pathTnl) && hook.nexthopFails then false
  else if tops && !isDecap && !virtDev && hook.encapRefused then false
  else !(tops && isDecap)

/-- Whether `mtk_hnat_nf_post_routing` calls `skb_to_hnat_info`. -/
def mtkHnatNfPostRouting (hook : Hook) (cfg : HnatConfig) (plat : Platform) (pass : Pass)
    (bound : Bool) : Bool :=
  let desc := pass.skb.desc
  if hook.xlatFails then false
  else if hook.alg || !hook.magicTagValid || !hook.spaceAvailableHead then false
  else if !hook.macHeaderSet then false
  else if !hook.hashed then false
  else if hook.exception then false
  else if hook.noSlave || hook.tnlOther then false
  else if isVirtDev cfg pass.dev && !(desc.tops != 0 && !desc.isDecap && pass.hwPath.pathTnl) then
    false
  else if decide (plat.foeEtryNum ≤ desc.entry) || decide (plat.ppeNum ≤ desc.ppe) then false
  else if hook.reason = HIT_UNBIND then
    decide (hook.bindThreshold ≤ 1) && bindsOnHit hook cfg pass bound
  else if hook.reason = HIT_UNBIND_RATE_REACH then bindsOnHit hook cfg pass bound
  else false

structure Packet where
  cfg : HnatConfig
  hook : Hook
  pass : Pass
  /-- The key of the packet as it came in. -/
  ingress : MatchKey

inductive Flight where
  | received (packet : Packet)
  /-- In `skb_to_hnat_info`, with the words of the slot as they were read. -/
  | binding (packet : Packet) (seen : FoeEntry)
  | done

/-- An entry that was left unbound for the pass behind an engine. -/
structure Prepared where
  ingress : MatchKey
  entry : FoeEntry

/-- An entry that was committed in the state `BIND` for a packet of the flow; `taken` is
the prepared entry that its translation and its addresses are from, if not the packet. -/
structure Commit where
  ingress : MatchKey
  entry : FoeEntry
  taken : Option FoeEntry

structure World where
  bind : State
  flights : List Flight
  prepared : List Prepared
  commits : List Commit

def World.init (bind : State) : World := ⟨bind, [], [], []⟩

inductive Event where
  | receive (packet : Packet)
  /-- The packet gets to the hook; a bind reads the slot. -/
  | postRouting (i : Nat)
  /-- The bind reads words of the slot that it has not been at yet. -/
  | read (i : Nat) (words : List (Fin 32))
  /-- The bind comes to its end. -/
  | settle (i : Nat)
  /-- The engine learns, ages and learns again, and other parts of the driver do what
  they do. -/
  | change (m : McastEvents.State)

def World.slot (w : World) (packet : Packet) : FoeEntry := w.bind.foe packet.pass.skb.desc

def World.setFlight (w : World) (i : Nat) (flight : Flight) : World :=
  { w with flights := w.flights.set i flight }

/-- The packet is behind the engine that an earlier pass has prepared its entry for. -/
def behindEngine (packet : Packet) : Bool :=
  hnatOffloadEngineDone packet.cfg packet.pass.skb packet.pass.hwPath == 1

def outcomeOf (plat : Platform) (w : World) (packet : Packet) (seen : FoeEntry) :
    Outcome × State :=
  skbToHnatInfoFrom packet.cfg plat seen packet.pass w.bind

def World.record (w : World) (packet : Packet) (seen : FoeEntry) : Outcome → World
  | .prepared entry => { w with prepared := ⟨packet.ingress, entry⟩ :: w.prepared }
  | .bound entry =>
    { w with
      commits :=
        ⟨packet.ingress, entry, if behindEngine packet then some seen else none⟩ :: w.commits }
  | .refused _ | .recorded _ => w

def settle (plat : Platform) (w : World) (i : Nat) (packet : Packet) (seen : FoeEntry) : World :=
  let (outcome, bind) := outcomeOf plat w packet seen
  ({ w with bind }.record packet seen outcome).setFlight i .done

def step (plat : Platform) (w : World) : Event → World
  | .receive packet => { w with flights := w.flights ++ [.received packet] }
  | .postRouting i =>
    match w.flights[i]? with
    | some (.received packet) =>
      let slot := w.slot packet
      if mtkHnatNfPostRouting packet.hook packet.cfg plat packet.pass (stateOf slot == BIND) then
        w.setFlight i (.binding packet slot)
      else w.setFlight i .done
    | _ => w
  | .read i words =>
    match w.flights[i]? with
    | some (.binding packet seen) =>
      w.setFlight i
        (.binding packet fun word => if word ∈ words then w.slot packet word else seen word)
    | _ => w
  | .settle i =>
    match w.flights[i]? with
    | some (.binding packet seen) => settle plat w i packet seen
    | _ => w
  | .change m => { w with bind := { w.bind with mcast := m } }

/-- The addresses that `ppe_fill_L2_info` has written. -/
def macBits (pktType : FoeIpAct) : FoeEntry :=
  let l2Block := fun (l2 : L2Block) =>
    mark l2.dmacHi (mark l2.dmacLo (mark l2.smacHi (mark l2.smacLo FoeEntry.zero)))
  if pktType = L2_BRIDGE then
    mark L2Bridge.newDmacHi (mark L2Bridge.newDmacLo (mark L2Bridge.newSmacHi
      (mark L2Bridge.newSmacLo FoeEntry.zero)))
  else if isIpv4Grp pktType then l2Block Ipv4Hnapt.l2
  else if isIpv6Grp pktType ∧ pktType ≠ IPV4_MAP_T then l2Block Ipv65tRoute.l2
  else FoeEntry.zero

def carriedBits (pktType : FoeIpAct) : FoeEntry := fun word =>
  rewriteBits pktType word ||| macBits pktType word

/-- The slot has the translated tuple and the addresses that were prepared for the flow. -/
def CarriesFlow (w : World) (ingress : MatchKey) (seen : FoeEntry) : Prop :=
  ∃ prepared ∈ w.prepared, prepared.ingress = ingress ∧
    KeepsBits (carriedBits (pktTypeOf prepared.entry)) prepared.entry seen

structure Commit.Own (w : World) (commit : Commit) : Prop where
  key : matchKey commit.entry = commit.ingress
  carried : ∀ seen ∈ commit.taken, CarriesFlow w commit.ingress seen

def Sound (w : World) : Prop := ∀ commit ∈ w.commits, commit.Own w

/-- A bind that commits has read the key of its flow from the slot and, behind an engine,
the entry that was prepared for its flow. -/
def StepOk (plat : Platform) (w : World) : Event → Prop
  | .settle i => ∀ packet seen entry, w.flights[i]? = some (.binding packet seen) →
      (outcomeOf plat w packet seen).1 = .bound entry →
      takenKey packet.cfg plat seen packet.pass w.bind.mcast = packet.ingress ∧
        (behindEngine packet = true → CarriesFlow w packet.ingress seen)
  | _ => True

section

variable {plat : Platform} {w : World}

variable {w' : World} {i : Nat} {packet : Packet} {seen entry : FoeEntry}

theorem Commit.Own.mono {commit : Commit} (own : commit.Own w)
    (prepared : ∀ entry ∈ w.prepared, entry ∈ w'.prepared) : commit.Own w' where
  key := own.key
  carried seen taken := by
    obtain ⟨entry, member, ingress, keeps⟩ := own.carried seen taken
    exact ⟨entry, prepared entry member, ingress, keeps⟩

theorem Sound.mono (sound : Sound w) (commits : w'.commits = w.commits)
    (prepared : ∀ entry ∈ w.prepared, entry ∈ w'.prepared) : Sound w' := by
  intro commit member
  rw [commits] at member
  exact (sound commit member).mono prepared

theorem own_settle_iff (bound : (outcomeOf plat w packet seen).1 = .bound entry) :
    Commit.Own (settle plat w i packet seen)
        ⟨packet.ingress, entry, if behindEngine packet then some seen else none⟩ ↔
      takenKey packet.cfg plat seen packet.pass w.bind.mcast = packet.ingress ∧
        (behindEngine packet = true → CarriesFlow w packet.ingress seen) := by
  have key := bound_skbToHnatInfoFrom bound
  have prepared : (settle plat w i packet seen).prepared = w.prepared := by
    unfold settle
    simp only [bound, World.record, World.setFlight]
  have carries : CarriesFlow (settle plat w i packet seen) packet.ingress seen ↔
      CarriesFlow w packet.ingress seen := by
    unfold CarriesFlow
    rw [prepared]
  constructor
  · rintro ⟨own, carried⟩
    refine ⟨key.symm.trans own, fun behind => ?_⟩
    rw [if_pos behind] at carried
    exact carries.mp (carried seen rfl)
  · rintro ⟨own, carried⟩
    refine ⟨key.trans own, fun found taken => ?_⟩
    dsimp only at taken
    split at taken
    · rename_i behind
      obtain rfl := Option.some.inj taken
      exact carries.mpr (carried behind)
    · cases taken

theorem commits_settle (bound : (outcomeOf plat w packet seen).1 = .bound entry) :
    (settle plat w i packet seen).commits =
      ⟨packet.ingress, entry, if behindEngine packet then some seen else none⟩ :: w.commits := by
  unfold settle
  simp only [bound, World.record, World.setFlight]

theorem sound_settle (sound : Sound w) (under : w.flights[i]? = some (.binding packet seen))
    (ok : StepOk plat w (.settle i)) : Sound (settle plat w i packet seen) := by
  cases outcome : (outcomeOf plat w packet seen).1 with
  | bound entry =>
    intro commit member
    rw [commits_settle outcome] at member
    rcases List.mem_cons.mp member with rfl | old
    · exact (own_settle_iff outcome).mpr (ok packet seen entry under outcome)
    · refine (sound commit old).mono fun entry member => ?_
      unfold settle
      simpa only [outcome, World.record, World.setFlight] using member
  | prepared entry =>
    refine sound.mono ?_ fun entry member => ?_
    · unfold settle
      simp only [outcome, World.record, World.setFlight]
    · unfold settle
      simp only [outcome, World.record, World.setFlight]
      exact List.mem_cons_of_mem _ member
  | refused _ | recorded _ =>
    refine sound.mono ?_ fun entry member => ?_
    · unfold settle
      simp only [outcome, World.record, World.setFlight]
    · unfold settle
      simpa only [outcome, World.record, World.setFlight] using member

theorem step_sound (w : World) (event : Event) (sound : Sound w) (ok : StepOk plat w event) :
    Sound (step plat w event) := by
  cases event with
  | receive packet => exact sound.mono rfl fun _ member => member
  | postRouting i =>
    simp only [step]
    split
    · split <;> exact sound.mono rfl fun _ member => member
    · exact sound
  | read i words =>
    simp only [step]
    split
    · exact sound.mono rfl fun _ member => member
    · exact sound
  | settle i =>
    simp only [step]
    split
    · rename_i packet seen under
      exact sound_settle sound under ok
    · exact sound
  | change m => exact sound.mono rfl fun _ member => member

theorem step_lost (w : World) (event : Event) (bad : ¬ StepOk plat w event) :
    ¬ Sound (step plat w event) := by
  intro sound
  apply bad
  cases event with
  | settle i =>
    intro packet seen entry under bound
    simp only [step, under] at sound
    refine (own_settle_iff bound).mp (sound _ ?_)
    rw [commits_settle bound]
    exact List.mem_cons_self
  | receive _ => trivial
  | postRouting _ => trivial
  | read _ _ => trivial
  | change _ => trivial

end

def hnaptKey (iph : Iphdr) (ports : Ports) : MatchKey :=
  ⟨IPV4_HNAPT, [iph.saddr, iph.daddr, ports.src ++ ports.dst]⟩

namespace Collision

def router : HnatConfig where
  l2brToggle := false
  mapeToggle := false
  tnlToggle := false
  l4sToggle := false
  qosToggle := 0
  qosDlToggle := false
  qosUlToggle := false
  perFlowAccounting := false
  whnat := false
  gmacNum := 2
  wan := ['e', 't', 'h', '1']
  lan := ['e', 't', 'h', '0']
  lan2 := ['e', 't', 'h', '2']

def engine : Platform := ⟨1, 16, 16⟩

def server : BitVec 32 := 0xcb007101
def firstClient : BitVec 32 := 0xc0a8010a
def secondClient : BitVec 32 := 0xc0a8010b

def header (saddr : BitVec 32) : Iphdr :=
  ⟨5, 0, 40, 0, 0, 64, IPPROTO_TCP, 0, saddr, server⟩

def learned (client : BitVec 32) : FoeEntry :=
  Ipv4Hnapt.sip.set client (Ipv4Hnapt.dip.set server
    (Ipv4Hnapt.sport.set 1000 (Ipv4Hnapt.dport.set 80 (Bfib1.state.set UNBIND FoeEntry.zero))))

def learn (client : BitVec 32) : Event :=
  .change { McastEvents.State.init with
    hw := McastEvents.State.init.hw.writeFoe 0 0 (learned client) }

/-- A packet of the first client, with the address of the router in place of its own. -/
def packet : Packet where
  cfg := router
  hook := ⟨false, false, true, true, true, true, false, false, false, HIT_UNBIND_RATE_REACH, 1,
    true, true, false, false⟩
  pass :=
    { skb :=
        { ethProto := ETH_P_IP
          hDest := 0
          protocol := ETH_P_IP
          pppoeSid := 0
          pppProto := none
          ipVersion := IPVERSION_V4
          iph := header 0xc6336401
          ip6h := ⟨0, 0, 0, 0, 0, 0, 0, 0, 0⟩
          ports := some ⟨2000, 80⟩
          tcpHdrlen := 20
          innerIph := ⟨0, 0, 0, 0, 0, 0, 0, 0, 0, 0⟩
          innerIp6h := ⟨0, 0, 0, 0, 0, 0, 0, 0, 0⟩
          innerPorts := none
          vlanTci := none
          mark := 0
          desc := ⟨0, 0, FOE_MAGIC_GE_LAN, 0, 0, false, 0, false⟩
          dstXfrm := false
          ifindex := 3 }
      dev := ⟨['e', 't', 'h', '1'], 3, false, false, none, none, MTK_GMAC2_ID, false, 1000⟩
      hwPath := ⟨0x0200000000a1, 0x0200000000c0, 0, 0, false, false, false, 0x0200000000a1, none⟩
      env := ⟨fun _ => none, false, none, 0⟩
      kzalloc := true
      locked := true }
  ingress := hnaptKey (header firstClient) ⟨1000, 80⟩

/-- The engine learns the flow of the packet, and another one before the hook. -/
def relearned : List Event :=
  [learn firstClient, .receive packet, learn secondClient, .postRouting 0, .settle 0]

end Collision

end OpenwrtSource.Hnat.BoundFlows
