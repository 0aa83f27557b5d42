import OpenwrtSource.Hnat.PingPong

/-!
# Packets keep to their extension device

A packet that went through the ping-pong device for an extension device is to be
received on it, a packet of a flow bound towards it to be transmitted on it, and
none on another device.  The index is cut to twelve bits in the tag and to seven
in the entry, the first device of the table with the index is taken, and no entry
is invalidated for want of a device.
-/

namespace OpenwrtSource.Hnat.DeviceIdentity

open Lib.Run Lib.BitField Hnat.Foe
open Hnat.Translation (Keeps Typed)
open Hnat.ExtDevices hiding Event step
open Hnat.DeviceRefs (extSlots)
open Hnat.HookVerdicts (entryOutside HQOS_MAGIC_TAG)
open Hnat.PingPong

/-! ## What is asked of a delivery -/

def InTable (s : System) (dev : NetDev) : Prop := some dev ∈ extSlots s.devices.hnat

/-- The slot has a bound entry of a flow towards the device. -/
def BoundFor (s : System) (dev : NetDev) (ppe hash : Nat) : Prop :=
  s.owner ppe hash = some dev ∧ stateOf (s.foe ppe hash) = BIND

/-- The packet gets to its device; without the device it gets nowhere, and the entry that
has passed it on is bound no more. -/
def Delivered (setup : Setup) (s after : System) (arrival : Arrival) : Flight → Prop
  | .pinged owner _ =>
    (InTable s owner → deliver setup s.devices s.foe arrival = .received owner) ∧
      (¬ InTable s owner → deliver setup s.devices s.foe arrival = .nowhere)
  | .steered owner ppe hash =>
    (InTable s owner → deliver setup s.devices s.foe arrival = .transmitted owner) ∧
      (¬ InTable s owner → deliver setup s.devices s.foe arrival = .nowhere ∧
        ¬ BoundFor after owner ppe hash)

def Keeping (setup : Setup) (s : System) : Event → Prop
  | .arrive i arrival => ∀ flight, s.flights[i]? = some flight →
      Delivered setup s (step setup s (.arrive i arrival)) (flight.arrival arrival) flight
  | _ => True

/-! ## When it is met -/

def FirstOfIndex (hnat : MtkHnat) (dev : NetDev) : Prop :=
  getDevFromIndex hnat dev.ifindex = some dev

/-- Whatever the hook looks up for the packet, it has no device to send it to. -/
def NoTarget (setup : Setup) (s : System) (arrival : Arrival) : Prop :=
  let packet := arrival.tagged setup
  let outside := entryOutside (configOf setup s.devices s.foe) packet
  let index := (pingpongIndex (s.foe packet.desc.ppe packet.desc.entry)).setWidth 32
  if Learns setup s.devices s.foe arrival then
    outside ∨
      if getDevFromIndex s.devices.hnat (vlanIndex packet) = none then
        mapeTarget setup s.devices arrival.calls packet = none
      else UntagFails arrival.calls packet
  else
    Forwards setup s.devices s.foe arrival →
      outside ∨ getDevFromIndex s.devices.hnat index = none ∨
        UnshareFails setup arrival.calls packet

def StepOk (setup : Setup) (s : System) (arrival : Arrival) : Flight → Prop
  | .pinged owner _ =>
    (InTable s owner →
      owner.ifindex.toNat < 4096 ∧ FirstOfIndex s.devices.hnat owner ∧
        arrival.bridged = true ∧
        (setup.toggles.qosToggle = 0 ∨ arrival.packet.hProto ≠ HQOS_MAGIC_TAG) ∧
        ¬ entryOutside (configOf setup s.devices s.foe) arrival.packet ∧
        ¬ UntagFails arrival.calls arrival.packet) ∧
      (¬ InTable s owner → NoTarget setup s arrival)
  | .steered owner ppe hash =>
    let packet := arrival.tagged setup
    let index := pingpongIndex (s.foe packet.desc.ppe packet.desc.entry)
    (InTable s owner →
      index.setWidth 32 = owner.ifindex ∧ FirstOfIndex s.devices.hnat owner ∧
        ¬ Learns setup s.devices s.foe arrival ∧ Forwards setup s.devices s.foe arrival ∧
        ¬ entryOutside (configOf setup s.devices s.foe) packet ∧
        ¬ UnshareFails setup arrival.calls packet) ∧
      (¬ InTable s owner → NoTarget setup s arrival ∧ ¬ BoundFor s owner ppe hash)

def ArrivalOk (setup : Setup) (s : System) : Event → Prop
  | .arrive i arrival => ∀ flight, s.flights[i]? = some flight →
      StepOk setup s (flight.arrival arrival) flight
  | _ => True

def Tagged : Flight → Prop
  | .pinged owner tci => tci = 0x1000 + owner.ifindex.toNat % 4096
  | .steered _ _ _ => True

def Inv (s : System) : Prop := ∀ flight ∈ s.flights, Tagged flight

variable {dev : NetDev}

/-! ## The lookups -/

theorem getDevFromIndex_some {hnat : MtkHnat} {index : BitVec 32} :
    getDevFromIndex hnat index = some dev ↔ index = dev.ifindex ∧ FirstOfIndex hnat dev := by
  constructor
  · intro found
    have same : index = dev.ifindex := by simpa using List.find?_some found
    subst same
    exact ⟨rfl, found⟩
  · rintro ⟨rfl, first⟩
    exact first

theorem getDevFromIndex_ne_none {hnat : MtkHnat} (listed : some dev ∈ extSlots hnat) :
    getDevFromIndex hnat dev.ifindex ≠ none := by
  intro absent
  obtain ⟨entry, member, held⟩ := List.mem_map.mp listed
  have other := List.find?_eq_none.mp absent dev (List.mem_filterMap.mpr ⟨entry, member, held⟩)
  simp at other

theorem mapeTarget_ifindex {setup : Setup} {w : World} {calls : HookVerdicts.Calls}
    {packet : HookVerdicts.Packet} (found : mapeTarget setup w calls packet = some dev) :
    vlanIndex packet = dev.ifindex := by
  unfold mapeTarget at found
  split at found
  · have same := (Option.filter_eq_some_iff.mp found).2
    simpa using (of_decide_eq_true same).symm
  · exact nomatch found

theorem vlanIndex_tag (dev : NetDev) :
    BitVec.ofNat 32 ((0x1000 + dev.ifindex.toNat % 4096) % 4096) = dev.ifindex ↔
      dev.ifindex.toNat < 4096 := by
  have low : (0x1000 + dev.ifindex.toNat % 4096) % 4096 = dev.ifindex.toNat % 4096 := by omega
  rw [low, ← BitVec.toNat_inj, BitVec.toNat_ofNat]
  have bound := dev.ifindex.isLt
  omega

/-! ## One delivery -/

section

variable {setup : Setup} {s : System} {arrival : Arrival}

theorem nowhere_iff :
    deliver setup s.devices s.foe arrival = .nowhere ↔ NoTarget setup s arrival := by
  unfold deliver NoTarget doHnatExtToGe2 doHnatGeToExt
  dsimp only
  by_cases learns : Learns setup s.devices s.foe arrival
  · rw [if_pos learns, if_pos learns]
    by_cases outside : entryOutside (configOf setup s.devices s.foe) (arrival.tagged setup)
    · simp [outside]
    · rw [if_neg outside]
      cases found : getDevFromIndex s.devices.hnat (vlanIndex (arrival.tagged setup)) with
      | some dev =>
        by_cases fails : UntagFails arrival.calls (arrival.tagged setup)
        · simp [fails]
        · simp [outside, fails]
      | none =>
        cases mapeTarget setup s.devices arrival.calls (arrival.tagged setup) with
        | some dev => simp [outside]
        | none => simp
  · rw [if_neg learns, if_neg learns]
    by_cases forwards : Forwards setup s.devices s.foe arrival
    · rw [if_pos forwards]
      by_cases outside : entryOutside (configOf setup s.devices s.foe) (arrival.tagged setup)
      · simp [outside]
      · rw [if_neg outside]
        split
        · rename_i dev found
          by_cases fails : UnshareFails setup arrival.calls (arrival.tagged setup)
          · simp [fails]
          · simp [outside, fails, forwards, found]
        · rename_i found
          simp [found]
    · rw [if_neg forwards]
      exact iff_of_true rfl fun absurd' => absurd absurd' forwards

theorem transmitted_iff {owner : NetDev} :
    deliver setup s.devices s.foe arrival = .transmitted owner ↔
      (pingpongIndex (s.foe (arrival.tagged setup).desc.ppe
          (arrival.tagged setup).desc.entry)).setWidth 32 = owner.ifindex ∧
        FirstOfIndex s.devices.hnat owner ∧ ¬ Learns setup s.devices s.foe arrival ∧
        Forwards setup s.devices s.foe arrival ∧
        ¬ entryOutside (configOf setup s.devices s.foe) (arrival.tagged setup) ∧
        ¬ UnshareFails setup arrival.calls (arrival.tagged setup) := by
  unfold deliver
  by_cases learns : Learns setup s.devices s.foe arrival
  · rw [if_pos learns]
    refine iff_of_false ?_ fun fine => fine.2.2.1 learns
    unfold doHnatExtToGe2
    split
    · exact fun same => nomatch same
    · split
      · split <;> exact fun same => nomatch same
      · cases mapeTarget setup s.devices arrival.calls (arrival.tagged setup) <;>
          exact fun same => nomatch same
  · rw [if_neg learns]
    by_cases forwards : Forwards setup s.devices s.foe arrival
    · rw [if_pos forwards]
      unfold doHnatGeToExt
      by_cases outside : entryOutside (configOf setup s.devices s.foe) (arrival.tagged setup)
      · rw [if_pos outside]
        exact iff_of_false (fun same => nomatch same) fun fine => fine.2.2.2.2.1 outside
      · rw [if_neg outside]
        split
        · rename_i dev found
          obtain ⟨index, first⟩ := getDevFromIndex_some.mp found
          by_cases fails : UnshareFails setup arrival.calls (arrival.tagged setup)
          · rw [if_pos fails]
            exact iff_of_false (fun same => nomatch same) fun fine => fine.2.2.2.2.2 fails
          · rw [if_neg fails]
            constructor
            · rintro ⟨⟩
              exact ⟨index, first, learns, forwards, outside, fails⟩
            · rintro ⟨same, firstOwner, -⟩
              rw [same, firstOwner] at found
              rw [Option.some.inj found]
        · rename_i absent
          refine iff_of_false (fun same => nomatch same) fun fine => ?_
          rw [fine.1, fine.2.1] at absent
          exact nomatch absent
    · rw [if_neg forwards]
      exact iff_of_false (fun same => nomatch same) fun fine => forwards fine.2.2.2.1

theorem tagged_of_plain
    (plain : setup.toggles.qosToggle = 0 ∨ arrival.packet.hProto ≠ HQOS_MAGIC_TAG) :
    arrival.tagged setup = arrival.packet := by
  unfold Arrival.tagged
  rw [if_neg]
  rintro ⟨-, hqos, magic⟩
  rcases plain with off | other
  · omega
  · exact other magic

@[simp] theorem tagged_hProto : (arrival.tagged setup).hProto = arrival.packet.hProto := by
  unfold Arrival.tagged
  dsimp only
  split <;> rfl

theorem learns_of_received {dev : NetDev}
    (received : deliver setup s.devices s.foe arrival = .received dev) :
    Learns setup s.devices s.foe arrival := by
  by_contra other
  unfold deliver at received
  rw [if_neg other] at received
  split at received
  · unfold doHnatGeToExt at received
    split at received
    · exact nomatch received
    · split at received
      · split at received <;> exact nomatch received
      · exact nomatch received
  · exact nomatch received

theorem received_iff {owner : NetDev} {tci : Nat} (tagged : Tagged (.pinged owner tci))
    (listed : InTable s owner) :
    deliver setup s.devices s.foe (Flight.arrival (.pinged owner tci) arrival) =
        .received owner ↔
      owner.ifindex.toNat < 4096 ∧ FirstOfIndex s.devices.hnat owner ∧
        arrival.bridged = true ∧
        (setup.toggles.qosToggle = 0 ∨ arrival.packet.hProto ≠ HQOS_MAGIC_TAG) ∧
        ¬ entryOutside (configOf setup s.devices s.foe) arrival.packet ∧
        ¬ UntagFails arrival.calls arrival.packet := by
  have index : vlanIndex (Flight.arrival (.pinged owner tci) arrival).packet = owner.ifindex ↔
      owner.ifindex.toNat < 4096 := by
    unfold Tagged at tagged
    subst tagged
    exact vlanIndex_tag owner
  constructor
  · intro received
    have learns := learns_of_received received
    have plain := learns.2.2
    rw [tagged_hProto] at plain
    unfold deliver at received
    rw [if_pos learns, tagged_of_plain plain] at received
    unfold doHnatExtToGe2 at received
    split at received
    · exact nomatch received
    · rename_i inside
      split at received
      · rename_i dev found
        obtain ⟨same, first⟩ := getDevFromIndex_some.mp found
        split at received
        · exact nomatch received
        · rename_i untags
          obtain rfl := Delivery.received.inj received
          exact ⟨index.mp same, first, learns.1, plain, inside, untags⟩
      · rename_i absent
        cases target : mapeTarget setup s.devices
            (Flight.arrival (.pinged owner tci) arrival).calls
            (Flight.arrival (.pinged owner tci) arrival).packet with
        | none =>
          rw [target] at received
          exact nomatch received
        | some dev =>
          rw [target] at received
          obtain rfl := Delivery.received.inj received
          rw [mapeTarget_ifindex target] at absent
          exact absurd absent (getDevFromIndex_ne_none listed)
  · rintro ⟨small, first, bridged, plain, inside, untags⟩
    have same := index.mpr small
    have found : getDevFromIndex s.devices.hnat
        (vlanIndex (Flight.arrival (.pinged owner tci) arrival).packet) = some owner :=
      getDevFromIndex_some.mpr ⟨same, first⟩
    have sport : (Flight.arrival (.pinged owner tci) arrival).packet.desc.sport =
          HookVerdicts.NR_PDMA_PORT ∨
        (Flight.arrival (.pinged owner tci) arrival).packet.desc.sport =
          HookVerdicts.NR_QDMA_PORT := by
      by_cases queued : arrival.packet.desc.sport = HookVerdicts.NR_QDMA_PORT
      · exact Or.inr (if_pos queued)
      · exact Or.inl (if_neg queued)
    have untouched : (Flight.arrival (.pinged owner tci) arrival).tagged setup =
        (Flight.arrival (.pinged owner tci) arrival).packet := tagged_of_plain plain
    have learns : Learns setup s.devices s.foe (Flight.arrival (.pinged owner tci) arrival) := by
      refine ⟨bridged, ?_, by rw [untouched]; exact plain⟩
      rw [untouched]
      exact ⟨rfl, sport, Or.inl (Option.isSome_iff_exists.mpr ⟨owner, found⟩)⟩
    unfold deliver
    rw [if_pos learns, untouched]
    have within : ¬ entryOutside (configOf setup s.devices s.foe)
        (Flight.arrival (.pinged owner tci) arrival).packet := inside
    unfold doHnatExtToGe2
    rw [if_neg within, found]
    exact if_neg untags

end

/-! ## One step -/

section

variable (setup : Setup)

variable (s : System) (arrival : Arrival)

theorem arrive_owner : (arrive setup s arrival).owner = s.owner := by
  unfold arrive
  dsimp only
  split <;> split <;> rfl

theorem arrive_stateOf (ppe hash : Nat) :
    stateOf ((arrive setup s arrival).foe ppe hash) = stateOf (s.foe ppe hash) := by
  have kept : ∀ entry, stateOf (Bfib1.pktType.set IPV4_HNAPT entry) = stateOf entry := fun entry =>
    Field.get_set_of_apart _ _ _ _ (by decide)
  have written : ∀ desc : HookVerdicts.HnatDesc,
      stateOf ((s.bind.mcast.hw.writeFoe desc.ppe desc.entry
          (Bfib1.pktType.set IPV4_HNAPT (s.foe desc.ppe desc.entry))).foeTable ppe hash) =
        stateOf (s.foe ppe hash) := by
    intro desc
    unfold McastOffload.Hw.writeFoe
    dsimp only
    split
    · rename_i here
      rw [kept, here.1, here.2]
    · rfl
  unfold arrive
  dsimp only
  split <;> split
  · exact written _
  · rfl
  · exact written _
  · rfl

theorem boundFor_step (i : Nat) (arrival : Arrival) {flight : Flight}
    (found : s.flights[i]? = some flight) (dev : NetDev) (ppe hash : Nat) :
    BoundFor (step setup s (.arrive i arrival)) dev ppe hash ↔ BoundFor s dev ppe hash := by
  unfold BoundFor step
  simp only [found]
  show (arrive setup s (flight.arrival arrival)).owner ppe hash = some dev ∧
    stateOf ((arrive setup s (flight.arrival arrival)).foe ppe hash) = BIND ↔ _
  rw [arrive_owner, arrive_stateOf]

theorem delivered_iff (i : Nat) (arrival : Arrival) {flight : Flight}
    (found : s.flights[i]? = some flight) (tagged : Tagged flight) :
    Delivered setup s (step setup s (.arrive i arrival)) (flight.arrival arrival) flight ↔
      StepOk setup s (flight.arrival arrival) flight := by
  cases flight with
  | pinged owner tci =>
    unfold Delivered StepOk
    dsimp only
    rw [nowhere_iff]
    refine and_congr (forall_congr' fun listed => ?_) Iff.rfl
    exact received_iff tagged listed
  | steered owner ppe hash =>
    unfold Delivered StepOk
    dsimp only
    rw [nowhere_iff, transmitted_iff, boundFor_step setup s i arrival found]

theorem keeping_iff (inv : Inv s) (event : Event) :
    Keeping setup s event ↔ ArrivalOk setup s event := by
  cases event with
  | arrive i arrival =>
    exact forall_congr' fun flight => forall_congr' fun found =>
      delivered_iff setup s i arrival found (inv flight (List.mem_of_getElem? found))
  | device _ _ _ => exact Iff.rfl
  | ping _ _ _ => exact Iff.rfl
  | bind _ _ => exact Iff.rfl
  | learn _ _ _ => exact Iff.rfl
  | steer _ _ => exact Iff.rfl

theorem tagged_doHnatExtToGe (dev : NetDev) (packet : HookVerdicts.Packet)
    (calls : HookVerdicts.Calls) : ∀ flight ∈ doHnatExtToGe s dev packet calls, Tagged flight := by
  intro flight sent
  unfold doHnatExtToGe at sent
  split at sent
  · obtain rfl := Option.some.inj sent
    rfl
  · exact nomatch sent

theorem inv_step (event : Event) (inv : Inv s) : Inv (step setup s event) := by
  cases event with
  | device event clears foeTimestamp =>
    have same : (step setup s (.device event clears foeTimestamp)).flights = s.flights := by
      unfold step handle
      dsimp only
      split
      · split <;> rfl
      · rfl
    unfold Inv
    rwa [same]
  | ping dev packet calls =>
    simp only [step]
    split
    · exact inv
    · intro flight member
      rcases List.mem_append.mp member with old | new
      · exact inv flight old
      · exact tagged_doHnatExtToGe s dev packet calls flight (Option.mem_toList.mp new)
  | bind dev pass =>
    have same : (step setup s (.bind dev pass)).flights = s.flights := by
      unfold step PingPong.bind
      dsimp only
      split <;> rfl
    unfold Inv
    rwa [same]
  | learn ppe hash entry =>
    simp only [step]
    split <;> exact inv
  | steer ppe hash =>
    simp only [step]
    split
    · intro flight member
      rcases List.mem_append.mp member with old | new
      · exact inv flight old
      · obtain ⟨owner, -, rfl⟩ := Option.mem_map.mp (Option.mem_toList.mp new)
        trivial
    · exact inv
  | arrive i arrival =>
    simp only [step]
    split
    · exact inv
    · exact fun flight member => inv flight (List.mem_of_mem_eraseIdx member)

end

namespace Input

def ppd : NetDev := ⟨1, ['e', 't', 'h', '0'], 2, true, by decide⟩

theorem fits_ra0 : (['r', 'a', '0'] : Name).length < IFNAMSIZ := by decide

def ra0 : NetDev := ⟨2, ['r', 'a', '0'], 5, false, fits_ra0⟩

def ra1 (ifindex : BitVec 32) : NetDev := ⟨3, ['r', 'a', '1'], ifindex, false, by decide⟩

def setup : Setup where
  names := ⟨['e', 't', 'h', '0'], ['e', 't', 'h', '1'], [], []⟩
  hnat := ⟨false, false, false, false, 0, false, false, false, false, 2,
    ['e', 't', 'h', '1'], ['l', 'a', 'n'], ['e', 't', 'h', '2']⟩
  plat := ⟨1, 16, 16⟩
  toggles := ⟨0, 0, false, false, true, 16, 1, none, none, none, fun _ => false, fun _ => false,
    fun _ _ => 0⟩

def calls : HookVerdicts.Calls := ⟨true, .same, .same, true, true⟩

def packet : HookVerdicts.Packet :=
  ⟨⟨HookVerdicts.HNAT_MAGIC_TAG, 0, 0, 0, 0, 0, false, false⟩, true, false, false, true, 0x0800,
    0x0800, 0, 0, false, false, false, false⟩

def bridged : Arrival := ⟨true, ⟨false, false, false, true, false, false, false, false⟩, packet, calls⟩
def routed : Arrival := ⟨false, ⟨false, true, false, false, false, false, false, false⟩, packet, calls⟩

def up (dev : NetDev) : List Event :=
  [.device (.register dev) false 0, .device (.up dev true) false 0]

def devices (ifindex : BitVec 32) : List Event := up ppd ++ up ra0 ++ up (ra1 ifindex)

def foe : FoeEntry := Bfib1.state.set UNBIND (Bfib1.pktType.set IPV4_HNAPT FoeEntry.zero)

def skb : BindPacket.Skb where
  ethProto := BindPacket.ETH_P_IP
  hDest := 0
  protocol := BindPacket.ETH_P_IP
  pppoeSid := 0
  pppProto := none
  ipVersion := 4
  iph := ⟨5, 0, 40, 0, 0, 64, BindPacket.IPPROTO_TCP, 0, 0, 0⟩
  ip6h := ⟨0, 0, 0, 0, 0, 0, 0, 0, 0⟩
  ports := some ⟨1000, 80⟩
  tcpHdrlen := 20
  innerIph := ⟨0, 0, 0, 0, 0, 0, 0, 0, 0, 0⟩
  innerIp6h := ⟨0, 0, 0, 0, 0, 0, 0, 0, 0⟩
  innerPorts := none
  vlanTci := none
  mark := 0
  desc := ⟨0, 0, BindPacket.FOE_MAGIC_GE_LAN, 0, 0, false, 0, false⟩
  dstXfrm := false
  ifindex := 2

def pass : BindEntry.Pass where
  skb := skb
  dev := ⟨[], 0, false, false, none, none, 0, false, 1000⟩
  hwPath := ⟨0, 0, 0, 0, false, false, false, 0, none⟩
  env := ⟨fun _ => none, false, none, 0⟩
  kzalloc := true
  locked := true

/-- A flow bound towards a device, and a packet that its entry has passed on. -/
def steered (dev : NetDev) : List Event := [.learn 0 0 foe, .bind dev pass, .steer 0 0]

def table : List Name := [['r', 'a', '0'], ['r', 'a', '1']]

def after (events : List Event) : System := run (step setup) (System.init table) events

/-- A packet of `ra1` goes through the PPE. -/
def pinged : System := after (devices 4101 ++ [.ping (ra1 4101) packet calls])

/-- A packet of a flow bound towards `ra1` comes to the processor. -/
def passed : System := after (devices 133 ++ steered (ra1 133))

/-- The driver of `ra0` unhooks it while a packet of a flow towards it is on its way. -/
def unhooked : System :=
  after (devices 133 ++ steered ra0 ++ [.device (.unregisterHook ra0) false 0])

end Input

section

open Input

end

end OpenwrtSource.Hnat.DeviceIdentity
