import OpenwrtSource.Hnat.McastOffload
import OpenwrtSource.Lib.Ownership
import OpenwrtSource.Lib.Run

/-!
# The multicast offload as an event system

Membership messages of the bridge, binds from the forwarding path, interfaces
going down, blacklist changes, the offload switch, path switches asked for by
the NPU or by Wi-Fi, and the warm start after a reset of the frame engine.  The
group list is locked while a handler runs, so a step is one handler.
-/

namespace OpenwrtSource.Hnat.McastEvents

open Lib.Ownership Hnat.Foe Hnat.McastTable Hnat.McastOffload

structure McastBlistData where
  isIpv4 : Bool
  ipv4 : BitVec 32
  ipv6 : BitVec 128
  mask : BitVec 32
  deriving DecidableEq

/-- `0xffffffff << (32 - mask)`; the count of a 32-bit shift is taken modulo 32
by the processors the driver is built for. -/
def blistMask (mask : BitVec 32) : BitVec 32 :=
  0xffffffff <<< ((32 - mask).toNat % 32)

/-- The loop of `hnat_mcast_ip_match_blist` over the words of an IPv6 address. -/
def matchIpv6Words : List (BitVec 32 × BitVec 32) → Nat → Bool
  | [], _ => true
  | (groupWord, blistWord) :: rest, remaining =>
    if remaining = 0 then true
    else
      let wordMask : BitVec 32 :=
        if remaining ≥ 32 then 0xffffffff else 0xffffffff <<< (32 - remaining)
      if groupWord &&& wordMask ≠ blistWord &&& wordMask then false
      else matchIpv6Words rest (remaining - 32)

def ipv6Words (ip : BitVec 128) : List (BitVec 32) :=
  [ip.extractLsb' 96 32, ip.extractLsb' 64 32, ip.extractLsb' 32 32, ip.extractLsb' 0 32]

/-- `hnat_mcast_ip_match_blist`; the field of the other family is zero in a
group and in a blacklist entry. -/
def hnatMcastIpMatchBlist (group : Group) (blist : McastBlistData) : Bool :=
  if blist.isIpv4 then
    let dip := match group.ip with | .ipv4 ip => ip | .ipv6 _ => 0
    dip &&& blist.mask == blist.ipv4 &&& blist.mask
  else
    let dip6 := match group.ip with | .ipv4 _ => 0 | .ipv6 ip => ip
    matchIpv6Words ((ipv6Words dip6).zip (ipv6Words blist.ipv6)) blist.mask.toNat

def hnatMcastBlistEntryMatch (blist : McastBlistData) (ip : GroupIp) (mask : BitVec 32) : Bool :=
  match ip with
  | .ipv4 ip => blist.isIpv4 && blist.ipv4 == ip && blist.mask == blistMask mask
  | .ipv6 ip => !blist.isIpv4 && blist.ipv6 == ip && blist.mask == blistMask mask

def hnatMcastBlistCreateEntry (ip : GroupIp) (mask : BitVec 32) : McastBlistData :=
  match ip with
  | .ipv4 ip => ⟨true, ip, 0, blistMask mask⟩
  | .ipv6 ip => ⟨false, 0, ip, blistMask mask⟩

/-- `hnat_mcast_chk_blist`, the test of a packet before it is bound. -/
def hnatMcastChkBlist (blist : List McastBlistData) (entry : FoeEntry) : Bool :=
  match foeGroupIp entry with
  | none => false
  | some (.ipv4 ip) => blist.any fun m => m.isIpv4 && m.ipv4 &&& m.mask == ip &&& m.mask
  | some (.ipv6 ip) => blist.any fun m => !m.isIpv4 && m.ipv6 == ip

/-- The commands of the debugfs file `hnat_mcast_blist_write` parses. -/
inductive BlistCommand where
  | ipv4Add (ip : BitVec 32)
  | ipv6Add (ip : BitVec 128)
  | ipv4Del (ip : BitVec 32)
  | ipv6Del (ip : BitVec 128)

def hnatMcastBlistWrite (kzalloc : Bool) (blist : List McastBlistData) :
    BlistCommand → List McastBlistData
  | .ipv4Add ip =>
    if blist.any fun m => m.ipv4 == ip then blist
    else if kzalloc then ⟨true, ip, 0, 0⟩ :: blist else blist
  | .ipv6Add ip =>
    if blist.any fun m => m.ipv6 == ip then blist
    else if kzalloc then ⟨false, 0, ip, 0⟩ :: blist else blist
  | .ipv4Del ip => blist.eraseP fun m => m.ipv4 == ip
  | .ipv6Del ip => blist.eraseP fun m => m.ipv6 == ip

/-- A handler of one group, as a map of the group and the hardware. -/
def onGroup (f : Ctx → Ctx) (group : Group) (hw : Hw) : Group × Hw :=
  let c := f ⟨group, hw, FoeEntry.zero⟩
  (c.group, c.hw)

structure State where
  groups : List Group
  mcastBlistList : List McastBlistData
  mcastHookToggle : Bool
  hw : Hw

/-- `hnat_probe`: no groups, and registers and entries as they come out of reset. -/
def State.init : State where
  groups := []
  mcastBlistList := []
  mcastHookToggle := false
  hw := ⟨fun _ _ => McastSlot.empty, fun _ _ => FoeEntry.zero, [], []⟩

/-- `struct br_mdb_entry`, with no address where its protocol is neither IP nor
IPv6. -/
structure BrMdbEntry where
  addr : Option GroupIp
  ifindex : Nat

def updateStation (type ifindex : Nat) (group : Group) : Group :=
  if type = RTM_NEWMDB then hnatMcastGroupAddStation group ifindex
  else hnatMcastGroupDelStation group ifindex

/-- The body of `hnat_mcast_group_update` on the group of the message.  A fresh
group is dropped again when its first member cannot be allocated; a group
without members is deleted. -/
def groupUpdate (plat : Platform) (env : Env) (type ifindex : Nat) (toggle memberAlloc fresh : Bool)
    (group : Group) (hw : Hw) : Option Group × Hw :=
  if type = RTM_NEWMDB ∧ !memberAlloc then (if fresh then none else some group, hw)
  else
    let group := updateStation type ifindex group
    let (group, hw) :=
      if toggle then onGroup (hnatMcastEventHwHandle plat env type ifindex) group hw
      else (group, hw)
    (if group.members.isEmpty then none else some group, hw)

/-- `hnat_mcast_group_update`, with the MAC that `hnat_mcast_nlmsg_handler` has
derived from the address; a message without a group address changes nothing. -/
def hnatMcastGroupUpdate (plat : Platform) (env : Env) (type : Nat) (entry : BrMdbEntry)
    (groupAlloc memberAlloc : Bool) (s : State) : State :=
  match entry.addr with
  | none => s
  | some ip =>
    if type ≠ RTM_NEWMDB ∧ type ≠ RTM_DELMDB then s
    else
      let update := groupUpdate plat env type entry.ifindex s.mcastHookToggle memberAlloc
      match visitFirst (fun group => group.ip == ip) (update false) s.groups s.hw with
      | some (groups, hw) => { s with groups := groups, hw := hw }
      | none =>
        if !groupAlloc then s
        else
          let (kept, hw) :=
            update true (hnatMcastCreateGroup (hnatMcastGetMacFromMdb ip) ip) s.hw
          { s with groups := s.groups ++ kept.toList, hw := hw }

/-- The group of the bind, with the result and the entry it leaves to be committed. -/
def bindGroup (plat : Platform) (env : Env) (ppe foeIdx ifindex : Nat) (group : Group)
    (bound : Int × FoeEntry × Hw) : Option Group × Int × FoeEntry × Hw :=
  let (ret, c) := hnatMcastFoeBindGroup plat env ppe foeIdx ifindex ⟨group, bound.2.2, bound.2.1⟩
  (some c.group, ret, c.entry, c.hw)

/-- `hnat_mcast_foe_bind_handle`: its result, the entry to be committed and the
new state. -/
def hnatMcastFoeBindHandle (plat : Platform) (env : Env) (ppe foeIdx : Nat) (entry : FoeEntry)
    (ifindex : Nat) (s : State) : Int × FoeEntry × State :=
  match foeGroupIp entry with
  | none => (-1, entry, s)
  | some ip =>
    match visitFirst (fun group => group.ip == ip) (bindGroup plat env ppe foeIdx ifindex)
      s.groups (0, entry, s.hw) with
    | none => (-1, entry, s)
    | some (groups, ret, entry, hw) => (ret, entry, { s with groups := groups, hw := hw })

/-- The end of `skb_to_hnat_info` and of `mtk_sw_nat_hook_tx`: the entry is
committed while the table still has it unbound.  `locked` tells whether the
entry lock was free, which the first of the two only tries. -/
def commitBound (env : Env) (ppe foeIdx : Nat) (locked : Bool) (bound : Int × FoeEntry × State) :
    State :=
  let (ret, entry, s) := bound
  if ret ≠ 0 then s
  else if !locked || stateOf (s.hw.foeTable ppe foeIdx) != UNBIND then s
  else { s with hw := s.hw.writeFoe ppe foeIdx (hnatFoeEntryCommit env.foeTimestamp entry BIND) }

/-- A packet whose entry has been filled: the blacklist, the bind of its group
where it is a multicast one, and the commit. -/
def commitPacket (plat : Platform) (env : Env) (hDest : Mac) (ppe foeIdx : Nat)
    (entry : FoeEntry) (ifindex : Nat) (locked : Bool) (s : State) : State :=
  if s.mcastHookToggle && hnatMcastChkBlist s.mcastBlistList entry then s
  else
    commitBound env ppe foeIdx locked
      (if s.mcastHookToggle && isMulticastEtherAddr hDest then
        hnatMcastFoeBindHandle plat env ppe foeIdx entry ifindex s
      else (0, entry, s))

def hnatMcastIfdownHandle (plat : Platform) (env : Env) (ifindex : Nat) (s : State) : State :=
  let (groups, hw) :=
    visitAll (onGroup (hnatMcastIfdownGroup plat env ifindex)) s.groups s.hw
  { s with groups := groups, hw := hw }

/-- The groups that match a new blacklist entry, one after the other. -/
def blistDropGroup (plat : Platform) (env : Env) (mcast : McastBlistData) (group : Group)
    (hw : Hw) : Group × Hw :=
  if hnatMcastIpMatchBlist group mcast then
    onGroup (fun c => dropGroup plat env (hnatMcastGroupTeardownNpu env c)) group hw
  else (group, hw)

def hnatMcastBlistHandle (plat : Platform) (env : Env) (ip : GroupIp) (mask : BitVec 32)
    (add kzalloc : Bool) (s : State) : State :=
  if add then
    if s.mcastBlistList.any fun m => hnatMcastBlistEntryMatch m ip mask then s
    else if !kzalloc then s
    else
      let mcast := hnatMcastBlistCreateEntry ip mask
      let (groups, hw) := visitAll (blistDropGroup plat env mcast) s.groups s.hw
      { s with groups := groups, hw := hw, mcastBlistList := mcast :: s.mcastBlistList }
  else
    { s with
      mcastBlistList := s.mcastBlistList.eraseP fun m => hnatMcastBlistEntryMatch m ip mask }

def hnatMcastOffloadHandle (plat : Platform) (env : Env) (enable : Bool) (s : State) : State :=
  let (groups, hw) := visitAll (onGroup (hnatMcastGroupHandle plat env enable)) s.groups s.hw
  { s with groups := groups, hw := hw, mcastHookToggle := enable }

def switchPath (plat : Platform) (env : Env) (hwPath : Bool) (group : Group) (hw : Hw) :
    Option Group × Hw :=
  let (group, hw) := onGroup (pathSwitchGroup plat env hwPath) group hw
  (some group, hw)

/-- `hnat_mcast_group_path_switch`; `wifiIp` is the group address that the Wi-Fi
driver gives for the index, if it gives one. -/
def hnatMcastGroupPathSwitch (plat : Platform) (env : Env) (groupIdx : BitVec 32) (hwPath : Bool)
    (wifiIp : Option GroupIp) (s : State) : State :=
  let switch := switchPath plat env hwPath
  match visitFirst (fun group => group.npuGrpIdx == groupIdx) switch s.groups s.hw with
  | some (groups, hw) => { s with groups := groups, hw := hw }
  | none =>
    match wifiIp with
    | none => s
    | some ip =>
      match visitFirst (fun group => group.ip == ip) switch s.groups s.hw with
      | some (groups, hw) => { s with groups := groups, hw := hw }
      | none => s

/-- `hnat_warm_init` after a reset of the frame engine, which puts the registers
back to their reset values if it has reached the PPEs. -/
def hnatWarmInit (plat : Platform) (ppeReset : Bool) (s : State) : State :=
  { s with
    groups := s.groups.map hnatMcastSerGroup
    hw :=
      { s.hw with
        slots := if ppeReset then fun _ _ => McastSlot.empty else s.hw.slots
        foeTable := fun p i =>
          if p < plat.ppeNum ∧ i < plat.foeEtryNum then FoeEntry.zero
          else s.hw.foeTable p i } }

inductive Event where
  | mdb (env : Env) (type : Nat) (entry : BrMdbEntry) (groupAlloc memberAlloc : Bool)
  | bind (env : Env) (hDest : Mac) (ppe foeIdx : Nat) (entry : FoeEntry) (ifindex : Nat)
      (locked : Bool)
  | goingDown (env : Env) (ifindex : Nat)
  | blist (env : Env) (ip : GroupIp) (mask : BitVec 32) (add kzalloc : Bool)
  | blistWrite (command : BlistCommand) (kzalloc : Bool)
  | offload (env : Env) (enable : Bool)
  | pathSwitch (env : Env) (groupIdx : BitVec 32) (hwPath : Bool) (wifiIp : Option GroupIp)
  | warmInit (ppeReset : Bool)
  /-- The hardware, or another part of the driver, writes a FOE entry. -/
  | foeWrite (ppe idx : Nat) (foe : FoeEntry)

def step (plat : Platform) (s : State) : Event → State
  | .mdb env type entry groupAlloc memberAlloc =>
    hnatMcastGroupUpdate plat env type entry groupAlloc memberAlloc s
  | .bind env hDest ppe foeIdx entry ifindex locked =>
    commitPacket plat env hDest ppe foeIdx entry ifindex locked s
  | .goingDown env ifindex =>
    if s.mcastHookToggle then hnatMcastIfdownHandle plat env ifindex s else s
  | .blist env ip mask add kzalloc => hnatMcastBlistHandle plat env ip mask add kzalloc s
  | .blistWrite command kzalloc =>
    { s with mcastBlistList := hnatMcastBlistWrite kzalloc s.mcastBlistList command }
  | .offload env enable => hnatMcastOffloadHandle plat env enable s
  | .pathSwitch env groupIdx hwPath wifiIp =>
    hnatMcastGroupPathSwitch plat env groupIdx hwPath wifiIp s
  | .warmInit ppeReset => hnatWarmInit plat ppeReset s
  | .foeWrite ppe idx foe => { s with hw := s.hw.writeFoe ppe idx foe }

end OpenwrtSource.Hnat.McastEvents

/-!
# The multicast offload and the devices around it

The driver is told of membership, of packets to bind and of interfaces that go
down; nothing tells it of an interface that comes up.
-/

namespace OpenwrtSource.Hnat.McastWorld

open Hnat.Foe Hnat.McastTable Hnat.McastOffload Hnat.McastEvents

structure World where
  env : Env
  state : State

inductive Happening where
  /-- The devices or the NPU driver change and no handler runs: an interface
  comes up, a port leaves the switch. -/
  | environment (env : Env)
  | event (event : Event)
  /-- `NETDEV_GOING_DOWN`, and the device stops after it.  `offloads` tells
  whether it is an external interface or offloads flows itself. -/
  | down (ifindex : Nat) (offloads : Bool)

def underEnv (env : Env) : Event → Event
  | .mdb _ type entry groupAlloc memberAlloc => .mdb env type entry groupAlloc memberAlloc
  | .bind _ hDest ppe foeIdx entry ifindex locked => .bind env hDest ppe foeIdx entry ifindex locked
  | .goingDown _ ifindex => .goingDown env ifindex
  | .blist _ ip mask add kzalloc => .blist env ip mask add kzalloc
  | .blistWrite command kzalloc => .blistWrite command kzalloc
  | .offload _ enable => .offload env enable
  | .pathSwitch _ groupIdx hwPath wifiIp => .pathSwitch env groupIdx hwPath wifiIp
  | .warmInit ppeReset => .warmInit ppeReset
  | .foeWrite ppe idx foe => .foeWrite ppe idx foe

/-- The kernel clears `__LINK_STATE_START` after the notifiers have run. -/
def stopDev (env : Env) (ifindex : Nat) : Env :=
  { env with
    devs := fun i =>
      if i = ifindex then (env.devs i).map fun dev => { dev with running := false }
      else env.devs i }

def foeClearAllBindEntries (plat : Platform) (foeTimestamp : BitVec 8) (hw : Hw) : Hw :=
  { hw with
    foeTable := fun p i =>
      if p < plat.ppeNum ∧ i < plat.foeEtryNum ∧ stateOf (hw.foeTable p i) = BIND then
        entryInvalidate foeTimestamp (hw.foeTable p i)
      else hw.foeTable p i }

/-- The devices for which the notifier goes on to clear every bound entry. -/
def clearsEntries (env : Env) (ifindex : Nat) (offloads : Bool) : Bool :=
  offloads || (env.devs ifindex).any fun dev => dev.isLanGrp || dev.isWan

/-- `case NETDEV_GOING_DOWN` of `nf_hnat_netdevice_event`. -/
def netdevGoingDown (plat : Platform) (env : Env) (ifindex : Nat) (offloads : Bool) (s : State) :
    State :=
  let s := step plat s (.goingDown env ifindex)
  if clearsEntries env ifindex offloads then
    { s with hw := foeClearAllBindEntries plat env.foeTimestamp s.hw }
  else s

def World.step (plat : Platform) (w : World) : Happening → World
  | .environment env => { w with env := env }
  | .event event => { w with state := McastEvents.step plat w.state (underEnv w.env event) }
  | .down ifindex offloads =>
    ⟨stopDev w.env ifindex, netdevGoingDown plat w.env ifindex offloads w.state⟩

def World.init (env : Env) : World := ⟨env, State.init⟩

end OpenwrtSource.Hnat.McastWorld
