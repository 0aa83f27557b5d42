import Mathlib.Data.BitVec
import Mathlib.Logic.Function.Basic
import OpenwrtSource.Lib.Run

/-!
# Flows of a station that roams

The switchdev notifier of the flow tables and its cleanup work, with the bridge
that raises the event and repoints its entry, and the creation of flows that
read the entry.  `torn` and the flags of a roam are history variables.
-/

namespace OpenwrtSource.FlowTable.MacCleanup

abbrev EtherAddr := BitVec 48

def isMulticastEtherAddr (addr : EtherAddr) : Bool := addr.getLsbD 40

variable {Dev Net Bridge Table : Type}
variable [DecidableEq Dev] [DecidableEq Net] [DecidableEq Bridge] [DecidableEq Table]

/-- The devices: the name space, and for a port the bridge it belongs to. -/
structure Devices (Dev Net Bridge : Type) where
  devNet : Dev → Net
  netifIsBridgeMaster : Dev → Bool
  master : Dev → Bridge

/-- `xmit_type` of a direction, with what the union holds for the direct one. -/
inductive Xmit (Dev : Type) where
  | neigh
  | xfrm
  | direct (hDest : EtherAddr) (out : Dev)
  deriving DecidableEq

structure Flow (Dev Net : Type) where
  net : Net
  teardown : Bool
  original : Xmit Dev
  reply : Xmit Dev
  deriving DecidableEq

structure Cleanup (Net : Type) where
  net : Net
  mac : EtherAddr

def Xmit.goesTo (mac : EtherAddr) : Xmit Dev → Bool
  | .direct hDest _ => hDest == mac
  | .neigh | .xfrm => false

/-- `nf_flow_table_do_cleanup_mac` finds a direction to the address. -/
def cleans (cleanup : Cleanup Net) (flow : Flow Dev Net) : Bool :=
  !flow.teardown && decide (flow.net = cleanup.net) &&
    (flow.original.goesTo cleanup.mac || flow.reply.goesTo cleanup.mac)

def nfFlowTableDoCleanupMac (cleanup : Cleanup Net) (flow : Flow Dev Net) : Flow Dev Net :=
  if cleans cleanup flow then { flow with teardown := true } else flow

/-- `flow_mac_cleanup_work_handler` at one table.  Where it has found a flow it runs the
garbage collection, which drops some of those that are torn down. -/
def cleanTable (cleanup : Cleanup Net) (gone : Flow Dev Net → Bool)
    (flows : List (Flow Dev Net)) : List (Flow Dev Net) :=
  let cleaned := flows.map (nfFlowTableDoCleanupMac cleanup)
  if flows.any (cleans cleanup) then cleaned.filter fun flow => !(flow.teardown && gone flow)
  else cleaned

structure FdbInfo (Dev : Type) where
  addr : EtherAddr
  isLocal : Bool
  dev : Dev

/-- `nf_flow_table_switchdev_event` at SWITCHDEV_FDB_DEL_TO_DEVICE: the work it queues. -/
def nfFlowTableSwitchdevEvent (devices : Devices Dev Net Bridge) (info : FdbInfo Dev) :
    Option (Cleanup Net) :=
  if info.isLocal || isMulticastEtherAddr info.addr then none
  else if devices.netifIsBridgeMaster info.dev then none
  else some ⟨devices.devNet info.dev, info.addr⟩

structure Roam (Dev Net Bridge : Type) where
  bridge : Bridge
  mac : EtherAddr
  old : Dev
  new : Dev
  cleanup : Option (Cleanup Net)
  repointed : Bool
  cleaned : Bool
  /-- the entry has pointed to the old port again -/
  returned : Bool

structure State (Dev Net Bridge Table : Type) where
  fdb : Bridge → EtherAddr → Option Dev
  tables : Table → List (Flow Dev Net)
  roams : List (Roam Dev Net Bridge)
  torn : Table → List (Flow Dev Net)

/-- The route of a direction: a bridge forwards through the port of its entry. -/
inductive Route (Bridge : Type) where
  | neigh
  | xfrm
  | direct (bridge : Bridge) (mac : EtherAddr)

def xmitOf (fdb : Bridge → EtherAddr → Option Dev) : Route Bridge → Xmit Dev
  | .neigh => .neigh
  | .xfrm => .xfrm
  | .direct bridge mac =>
    match fdb bridge mac with
    | some port => .direct mac port
    | none => .neigh

inductive Event (Dev Net Bridge Table : Type) where
  /-- `br_fdb_update` finds the station on another port and notifies -/
  | roam (bridge : Bridge) (mac : EtherAddr) (new : Dev)
  | repoint (index : Nat)
  | cleanup (index : Nat) (gone : Flow Dev Net → Bool)
  | create (table : Table) (net : Net) (original reply : Route Bridge)
  /-- flows end by themselves, or are removed -/
  | finish (table : Table) (done : Flow Dev Net → Bool)
  | remove (table : Table) (gone : Flow Dev Net → Bool)

/-- The write of a new port, as the roams that have left that port see it. -/
def Roam.seeing (bridge : Bridge) (mac : EtherAddr) (port : Dev) (roam : Roam Dev Net Bridge) :
    Roam Dev Net Bridge :=
  if roam.repointed ∧ roam.bridge = bridge ∧ roam.mac = mac ∧ roam.old = port then
    { roam with returned := true }
  else roam

def step (devices : Devices Dev Net Bridge) (s : State Dev Net Bridge Table) :
    Event Dev Net Bridge Table → State Dev Net Bridge Table
  | .roam bridge mac new =>
    match s.fdb bridge mac with
    | some old =>
      if old ≠ new ∧ devices.master new = bridge then
        { s with
          roams := s.roams ++ [{
            bridge, mac, old, new
            cleanup := nfFlowTableSwitchdevEvent devices
              { addr := mac, isLocal := false, dev := old }
            repointed := false, cleaned := false, returned := false }] }
      else s
    | none => s
  | .repoint index =>
    match s.roams[index]? with
    | some roam =>
      if roam.repointed then s
      else
        { s with
          fdb := Function.update s.fdb roam.bridge
            (Function.update (s.fdb roam.bridge) roam.mac (some roam.new))
          roams := (s.roams.map (Roam.seeing roam.bridge roam.mac roam.new)).set index
            { roam with repointed := true } }
    | none => s
  | .cleanup index gone =>
    match s.roams[index]? with
    | some roam =>
      match roam.cleanup with
      | some cleanup =>
        if roam.cleaned then s
        else
          { s with
            tables := fun table => cleanTable cleanup gone (s.tables table)
            roams := s.roams.set index { roam with cleaned := true }
            torn := fun table =>
              s.torn table ++ (s.tables table).filter (cleans cleanup) }
      | none => s
    | none => s
  | .create table net original reply =>
    { s with
      tables := Function.update s.tables table
        (⟨net, false, xmitOf s.fdb original, xmitOf s.fdb reply⟩ :: s.tables table) }
  | .finish table done =>
    { s with
      tables := Function.update s.tables table ((s.tables table).map fun flow =>
        if done flow then { flow with teardown := true } else flow) }
  | .remove table gone =>
    { s with
      tables := Function.update s.tables table ((s.tables table).filter fun flow => !gone flow) }

end OpenwrtSource.FlowTable.MacCleanup

/-!
# The end of a roam

The event of a roam comes before the entry of the bridge changes, so its work can
run in between, and a flow that is created then is nobody's to tear down.
-/

namespace OpenwrtSource.FlowTable.Roaming

open Lib.Run FlowTable.MacCleanup

variable {Dev Net Bridge Table : Type}

def Uses (flow : Flow Dev Net) (mac : EtherAddr) (port : Dev) : Prop :=
  flow.original = .direct mac port ∨ flow.reply = .direct mac port

/-- A live flow of the roam's name space still goes to the old port. -/
def Stale (devices : Devices Dev Net Bridge) (roam : Roam Dev Net Bridge)
    (flow : Flow Dev Net) : Prop :=
  flow.net = devices.devNet roam.old ∧ flow.teardown = false ∧ Uses flow roam.mac roam.old

/-- The roam is complete, its work has run, and the station has not come back. -/
def Over (roam : Roam Dev Net Bridge) : Prop :=
  roam.repointed = true ∧ roam.cleaned = true ∧ roam.returned = false

structure Lawful (devices : Devices Dev Net Bridge) (s : State Dev Net Bridge Table) : Prop where
  torndown : ∀ roam ∈ s.roams, Over roam →
    ∀ table, ∀ flow ∈ s.tables table, ¬ Stale devices roam flow
  justified : ∀ table, ∀ flow ∈ s.torn table, ∃ roam ∈ s.roams,
    flow.net = devices.devNet roam.old ∧
      (flow.original.goesTo roam.mac = true ∨ flow.reply.goesTo roam.mac = true)

/-- An entry is not repointed behind its work while a flow to the old port lives. -/
def Good (devices : Devices Dev Net Bridge) (s : State Dev Net Bridge Table) :
    Event Dev Net Bridge Table → Prop
  | .repoint index => ∀ roam ∈ s.roams[index]?, roam.repointed = false → roam.cleaned = true →
      ∀ table, ∀ flow ∈ s.tables table, ¬ Stale devices roam flow
  | _ => True

structure Inv (devices : Devices Dev Net Bridge) (s : State Dev Net Bridge Table) : Prop where
  lawful : Lawful devices s
  ports : ∀ bridge mac port, s.fdb bridge mac = some port → devices.master port = bridge
  masters : ∀ roam ∈ s.roams, devices.master roam.old = roam.bridge ∧
    devices.master roam.new = roam.bridge
  moves : ∀ roam ∈ s.roams, roam.old ≠ roam.new
  works : ∀ roam ∈ s.roams, ∀ cleanup ∈ roam.cleanup,
    cleanup.net = devices.devNet roam.old ∧ cleanup.mac = roam.mac
  left : ∀ roam ∈ s.roams, roam.repointed = true → roam.returned = false →
    s.fdb roam.bridge roam.mac ≠ some roam.old
  unreturned : ∀ roam ∈ s.roams, roam.repointed = false → roam.returned = false

def start (fdb : Bridge → EtherAddr → Option Dev) (tables : Table → List (Flow Dev Net)) :
    State Dev Net Bridge Table where
  fdb := fdb
  tables := tables
  roams := []
  torn := fun _ => []

variable {fdb : Bridge → EtherAddr → Option Dev} {mac : EtherAddr} {port : Dev}

theorem inv_start (devices : Devices Dev Net Bridge) (tables : Table → List (Flow Dev Net))
    (ports : ∀ bridge mac port, fdb bridge mac = some port → devices.master port = bridge) :
    Inv devices (start fdb tables) := by
  refine ⟨⟨?_, ?_⟩, ports, ?_, ?_, ?_, ?_, ?_⟩ <;> simp [start]

/-! ## Flows and works -/

theorem goesTo_of_eq {xmit : Xmit Dev} (direct : xmit = .direct mac port) :
    xmit.goesTo mac = true := by
  simp [direct, Xmit.goesTo]

theorem xmitOf_direct {route : Route Bridge} (direct : xmitOf fdb route = .direct mac port) :
    ∃ bridge, fdb bridge mac = some port := by
  cases route with
  | neigh => simp [xmitOf] at direct
  | xfrm => simp [xmitOf] at direct
  | direct bridge mac' =>
    cases found : fdb bridge mac' with
    | none => simp [xmitOf, found] at direct
    | some port' =>
      simp only [xmitOf, found, Xmit.direct.injEq] at direct
      obtain ⟨rfl, rfl⟩ := direct
      exact ⟨bridge, found⟩

section Works

variable [DecidableEq Net]

variable {cleanup : Cleanup Net} {flow : Flow Dev Net}

theorem mem_cleanTable {gone : Flow Dev Net → Bool} {flows : List (Flow Dev Net)}
    (member : flow ∈ cleanTable cleanup gone flows) :
    ∃ before ∈ flows, flow = nfFlowTableDoCleanupMac cleanup before := by
  unfold cleanTable at member
  dsimp only at member
  split at member
  · obtain ⟨inside, -⟩ := List.mem_filter.mp member
    obtain ⟨before, here, same⟩ := List.mem_map.mp inside
    exact ⟨before, here, same.symm⟩
  · obtain ⟨before, here, same⟩ := List.mem_map.mp member
    exact ⟨before, here, same.symm⟩

theorem cleaned_live (live : (nfFlowTableDoCleanupMac cleanup flow).teardown = false) :
    nfFlowTableDoCleanupMac cleanup flow = flow ∧ cleans cleanup flow = false := by
  unfold nfFlowTableDoCleanupMac at live ⊢
  cases found : cleans cleanup flow with
  | true => simp [found] at live
  | false => simp

variable {devices : Devices Dev Net Bridge}

theorem not_stale_cleaned (roam : Roam Dev Net Bridge) (net : cleanup.net = devices.devNet roam.old)
    (mac : cleanup.mac = roam.mac) :
    ¬ Stale devices roam (nfFlowTableDoCleanupMac cleanup flow) := by
  rintro ⟨sameNet, live, uses⟩
  obtain ⟨same, missed⟩ := cleaned_live live
  rw [same] at sameNet live uses
  have goes : flow.original.goesTo cleanup.mac = true ∨ flow.reply.goesTo cleanup.mac = true := by
    rw [mac]
    exact uses.imp goesTo_of_eq goesTo_of_eq
  simp only [cleans, live, sameNet, net, Bool.not_false, decide_true, Bool.true_and,
    Bool.or_eq_false_iff] at missed
  rcases goes with original | reply
  · exact absurd (original.symm.trans missed.1) (by decide)
  · exact absurd (reply.symm.trans missed.2) (by decide)

theorem stale_of_cleaned {roam : Roam Dev Net Bridge}
    (stale : Stale devices roam (nfFlowTableDoCleanupMac cleanup flow)) :
    Stale devices roam flow := by
  have same := (cleaned_live stale.2.1).1
  rwa [same] at stale

end Works

/-! ## Steps -/

theorem Inv.flows {devices : Devices Dev Net Bridge} {s : State Dev Net Bridge Table}
    (inv : Inv devices s) {tables : Table → List (Flow Dev Net)}
    (fresh : ∀ roam ∈ s.roams, Over roam → ∀ table, ∀ flow ∈ tables table,
      ¬ Stale devices roam flow) : Inv devices { s with tables } :=
  ⟨⟨fresh, inv.lawful.justified⟩, inv.ports, inv.masters, inv.moves, inv.works, inv.left,
    inv.unreturned⟩

section Steps

variable [DecidableEq Dev] [DecidableEq Net] [DecidableEq Bridge] [DecidableEq Table]
variable {devices : Devices Dev Net Bridge} {s : State Dev Net Bridge Table}

theorem inv_create (inv : Inv devices s) (table : Table) (net : Net)
    (original reply : Route Bridge) :
    Inv devices (step devices s (.create table net original reply)) := by
  refine inv.flows ?_
  intro roam member ended t flow here
  by_cases own : t = table
  · subst own
    rw [Function.update_self] at here
    rcases List.mem_cons.mp here with rfl | old
    · rintro ⟨-, -, uses⟩
      -- the entry of some bridge points to the old port, so it is the bridge of the roam
      have held : ∃ bridge, s.fdb bridge roam.mac = some roam.old := by
        rcases uses with direct | direct
        · exact xmitOf_direct direct
        · exact xmitOf_direct direct
      obtain ⟨bridge, entry⟩ := held
      have same : bridge = roam.bridge :=
        (inv.ports bridge roam.mac roam.old entry).symm.trans (inv.masters roam member).1
      rw [same] at entry
      exact inv.left roam member ended.1 ended.2.2 entry
    · exact inv.lawful.torndown roam member ended t flow old
  · rw [Function.update_of_ne own] at here
    exact inv.lawful.torndown roam member ended t flow here

theorem inv_finish (inv : Inv devices s) (table : Table) (done : Flow Dev Net → Bool) :
    Inv devices (step devices s (.finish table done)) := by
  refine inv.flows ?_
  intro roam member ended t flow here
  by_cases own : t = table
  · subst own
    rw [Function.update_self] at here
    obtain ⟨before, inside, rfl⟩ := List.mem_map.mp here
    split
    · rintro ⟨-, live, -⟩
      cases live
    · exact inv.lawful.torndown roam member ended t before inside
  · rw [Function.update_of_ne own] at here
    exact inv.lawful.torndown roam member ended t flow here

theorem inv_remove (inv : Inv devices s) (table : Table) (gone : Flow Dev Net → Bool) :
    Inv devices (step devices s (.remove table gone)) := by
  refine inv.flows ?_
  intro roam member ended t flow here
  by_cases own : t = table
  · subst own
    rw [Function.update_self] at here
    exact inv.lawful.torndown roam member ended t flow (List.mem_filter.mp here).1
  · rw [Function.update_of_ne own] at here
    exact inv.lawful.torndown roam member ended t flow here

theorem inv_roam (inv : Inv devices s) (bridge : Bridge) (mac : EtherAddr) (new : Dev) :
    Inv devices (step devices s (.roam bridge mac new)) := by
  unfold step
  dsimp only
  split
  · rename_i old entry
    split
    · rename_i moves
      refine ⟨⟨?_, ?_⟩, inv.ports, ?_, ?_, ?_, ?_, ?_⟩
      · intro roam member ended
        rcases List.mem_append.mp member with before | now
        · exact inv.lawful.torndown roam before ended
        · rw [List.mem_singleton.mp now] at ended
          cases ended.1
      · intro table flow here
        obtain ⟨roam, member, why⟩ := inv.lawful.justified table flow here
        exact ⟨roam, List.mem_append_left _ member, why⟩
      · intro roam member
        rcases List.mem_append.mp member with before | now
        · exact inv.masters roam before
        · rw [List.mem_singleton.mp now]
          exact ⟨inv.ports bridge mac old entry, moves.2⟩
      · intro roam member
        rcases List.mem_append.mp member with before | now
        · exact inv.moves roam before
        · rw [List.mem_singleton.mp now]
          exact moves.1
      · intro roam member cleanup queued
        rcases List.mem_append.mp member with before | now
        · exact inv.works roam before cleanup queued
        · rw [List.mem_singleton.mp now] at queued ⊢
          simp only [nfFlowTableSwitchdevEvent] at queued
          split at queued
          · cases queued
          · split at queued
            · cases queued
            · rw [← Option.some.inj queued]
              exact ⟨rfl, rfl⟩
      · intro roam member repointed
        rcases List.mem_append.mp member with before | now
        · exact inv.left roam before repointed
        · rw [List.mem_singleton.mp now] at repointed
          cases repointed
      · intro roam member
        rcases List.mem_append.mp member with before | now
        · exact inv.unreturned roam before
        · rw [List.mem_singleton.mp now]
          exact fun _ => rfl
    · exact inv
  · exact inv

theorem inv_cleanup (inv : Inv devices s) (index : Nat) (gone : Flow Dev Net → Bool) :
    Inv devices (step devices s (.cleanup index gone)) := by
  unfold step
  dsimp only
  split
  · rename_i roam found
    have here : roam ∈ s.roams := List.mem_of_getElem? found
    split
    · rename_i cleanup queued
      obtain ⟨net, mac⟩ := inv.works roam here cleanup queued
      split
      · exact inv
      · -- the roam with its flag set differs from the roam in nothing that the rest is about
        have back : ∀ r ∈ s.roams.set index { roam with cleaned := true },
            r = { roam with cleaned := true } ∨ r ∈ s.roams := fun r member =>
          (List.mem_or_eq_of_mem_set member).symm
        refine ⟨⟨?_, ?_⟩, inv.ports, ?_, ?_, ?_, ?_, ?_⟩
        · intro r member ended table flow inside stale
          obtain ⟨before, was, rfl⟩ := mem_cleanTable inside
          rcases back r member with rfl | old
          · exact not_stale_cleaned { roam with cleaned := true } net mac stale
          · exact inv.lawful.torndown r old ended table before was (stale_of_cleaned stale)
        · intro table flow inside
          have kept : ∀ r ∈ s.roams, ∃ r' ∈ s.roams.set index { roam with cleaned := true },
              r'.old = r.old ∧ r'.mac = r.mac := by
            intro r member
            obtain ⟨i, bound, rfl⟩ := List.mem_iff_getElem.mp member
            by_cases own : i = index
            · subst own
              rw [List.getElem?_eq_getElem bound, Option.some.injEq] at found
              exact ⟨_, List.mem_set bound _, by rw [found], by rw [found]⟩
            · refine ⟨s.roams[i], ?_, rfl, rfl⟩
              refine List.mem_iff_getElem.mpr ⟨i, by simpa using bound, ?_⟩
              exact List.getElem_set_ne (Ne.symm own) _
          rcases List.mem_append.mp inside with old | now
          · obtain ⟨r, member, sameNet, goes⟩ := inv.lawful.justified table flow old
            obtain ⟨r', member', sameOld, sameMac⟩ := kept r member
            exact ⟨r', member', by rw [sameOld]; exact sameNet, by rw [sameMac]; exact goes⟩
          · obtain ⟨-, matched⟩ := List.mem_filter.mp now
            simp only [cleans, Bool.and_eq_true, decide_eq_true_eq, Bool.or_eq_true] at matched
            obtain ⟨r', member', sameOld, sameMac⟩ := kept roam here
            refine ⟨r', member', ?_, ?_⟩
            · rw [sameOld, matched.1.2, net]
            · rw [sameMac, ← mac]
              exact matched.2
        · intro r member
          rcases back r member with rfl | old
          · exact inv.masters roam here
          · exact inv.masters r old
        · intro r member
          rcases back r member with rfl | old
          · exact inv.moves roam here
          · exact inv.moves r old
        · intro r member
          rcases back r member with rfl | old
          · exact inv.works roam here
          · exact inv.works r old
        · intro r member
          rcases back r member with rfl | old
          · exact inv.left roam here
          · exact inv.left r old
        · intro r member
          rcases back r member with rfl | old
          · exact inv.unreturned roam here
          · exact inv.unreturned r old
    · exact inv
  · exact inv

omit [DecidableEq Net] in
theorem seeing_same (bridge : Bridge) (mac : EtherAddr) (port : Dev)
    (roam : Roam Dev Net Bridge) : ∃ returned,
    roam.seeing bridge mac port = { roam with returned } ∧
      (returned = false → roam.returned = false ∧
        ¬ (roam.repointed ∧ roam.bridge = bridge ∧ roam.mac = mac ∧ roam.old = port)) ∧
      (roam.repointed = false → returned = roam.returned) := by
  unfold Roam.seeing
  by_cases back : roam.repointed ∧ roam.bridge = bridge ∧ roam.mac = mac ∧ roam.old = port
  · rw [if_pos back]
    refine ⟨true, rfl, by simp, ?_⟩
    intro fresh
    rw [fresh] at back
    cases back.1
  · rw [if_neg back]
    exact ⟨roam.returned, rfl, fun out => ⟨out, back⟩, fun _ => rfl⟩

theorem inv_repoint (inv : Inv devices s) (index : Nat) (good : Good devices s (.repoint index)) :
    Inv devices (step devices s (.repoint index)) := by
  unfold step
  dsimp only
  split
  · rename_i roam found
    have here : roam ∈ s.roams := List.mem_of_getElem? found
    split
    · exact inv
    · rename_i fresh
      rw [Bool.not_eq_true] at fresh
      have back : ∀ r ∈ (s.roams.map (Roam.seeing roam.bridge roam.mac roam.new)).set index
          { roam with repointed := true },
          r = { roam with repointed := true } ∨ ∃ before ∈ s.roams,
            r = before.seeing roam.bridge roam.mac roam.new := by
        intro r member
        rcases List.mem_or_eq_of_mem_set member with mapped | own
        · obtain ⟨before, inside, same⟩ := List.mem_map.mp mapped
          exact .inr ⟨before, inside, same.symm⟩
        · exact .inl own
      refine ⟨⟨?_, ?_⟩, ?_, ?_, ?_, ?_, ?_, ?_⟩
      · intro r member ended
        rcases back r member with rfl | ⟨before, inside, rfl⟩
        · exact good roam (by simp [found]) fresh ended.2.1
        · obtain ⟨returned, same, out, -⟩ :=
            seeing_same roam.bridge roam.mac roam.new before
          rw [same] at ended ⊢
          exact inv.lawful.torndown before inside ⟨ended.1, ended.2.1, (out ended.2.2).1⟩
      · intro table flow inside
        obtain ⟨r, member, sameNet, goes⟩ := inv.lawful.justified table flow inside
        obtain ⟨i, bound, rfl⟩ := List.mem_iff_getElem.mp member
        by_cases own : i = index
        · subst own
          rw [List.getElem?_eq_getElem bound, Option.some.injEq] at found
          rw [found] at sameNet goes
          exact ⟨_, List.mem_set (by simpa using bound) _, sameNet, goes⟩
        · obtain ⟨returned, same, -⟩ := seeing_same roam.bridge roam.mac roam.new s.roams[i]
          refine ⟨s.roams[i].seeing roam.bridge roam.mac roam.new, ?_, ?_⟩
          · refine List.mem_iff_getElem.mpr ⟨i, by simpa using bound, ?_⟩
            rw [List.getElem_set_ne (Ne.symm own), List.getElem_map]
          · rw [same]
            exact ⟨sameNet, goes⟩
      · intro bridge mac port entry
        by_cases ownBridge : bridge = roam.bridge
        · subst ownBridge
          by_cases ownMac : mac = roam.mac
          · simp only [ownMac, Function.update_self, Option.some.injEq] at entry
            rw [← entry]
            exact (inv.masters roam here).2
          · simp only [Function.update_self, Function.update_of_ne ownMac] at entry
            exact inv.ports _ mac port entry
        · simp only [Function.update_of_ne ownBridge] at entry
          exact inv.ports bridge mac port entry
      · intro r member
        rcases back r member with rfl | ⟨before, inside, rfl⟩
        · exact inv.masters roam here
        · obtain ⟨returned, same, -⟩ := seeing_same roam.bridge roam.mac roam.new before
          rw [same]
          exact inv.masters before inside
      · intro r member
        rcases back r member with rfl | ⟨before, inside, rfl⟩
        · exact inv.moves roam here
        · obtain ⟨returned, same, -⟩ := seeing_same roam.bridge roam.mac roam.new before
          rw [same]
          exact inv.moves before inside
      · intro r member
        rcases back r member with rfl | ⟨before, inside, rfl⟩
        · exact inv.works roam here
        · obtain ⟨returned, same, -⟩ := seeing_same roam.bridge roam.mac roam.new before
          rw [same]
          exact inv.works before inside
      · intro r member repointed notBack
        rcases back r member with rfl | ⟨before, inside, rfl⟩
        · simp only [Function.update_self, ne_eq, Option.some.injEq]
          exact (inv.moves roam here).symm
        · obtain ⟨returned, same, out, -⟩ := seeing_same roam.bridge roam.mac roam.new before
          rw [same] at repointed notBack ⊢
          obtain ⟨was, other⟩ := out notBack
          by_cases ownBridge : before.bridge = roam.bridge
          · by_cases ownMac : before.mac = roam.mac
            · simp only [ownBridge, ownMac, Function.update_self, ne_eq, Option.some.injEq]
              exact fun port => other ⟨repointed, ownBridge, ownMac, port.symm⟩
            · have kept := inv.left before inside repointed was
              rw [ownBridge] at kept
              simpa only [ownBridge, Function.update_self, Function.update_of_ne ownMac] using kept
          · simpa only [Function.update_of_ne ownBridge] using
              inv.left before inside repointed was
      · intro r member unpointed
        rcases back r member with rfl | ⟨before, inside, rfl⟩
        · cases unpointed
        · obtain ⟨returned, same, -, kept⟩ :=
            seeing_same roam.bridge roam.mac roam.new before
          rw [same] at unpointed ⊢
          exact (kept unpointed).trans (inv.unreturned before inside unpointed)
  · exact inv

theorem inv_step (inv : Inv devices s) (event : Event Dev Net Bridge Table)
    (good : Good devices s event) : Inv devices (step devices s event) := by
  cases event with
  | roam bridge mac new => exact inv_roam inv bridge mac new
  | repoint index => exact inv_repoint inv index good
  | cleanup index gone => exact inv_cleanup inv index gone
  | create table net original reply => exact inv_create inv table net original reply
  | finish table done => exact inv_finish inv table done
  | remove table gone => exact inv_remove inv table gone

theorem lost_step (inv : Inv devices s) (event : Event Dev Net Bridge Table)
    (bad : ¬ Good devices s event) : ¬ Lawful devices (step devices s event) := by
  cases event with
  | repoint index =>
    simp only [Good, Option.mem_def, not_forall, not_not] at bad
    obtain ⟨roam, found, fresh, cleaned, table, flow, inside, stale⟩ := bad
    have bound : index < s.roams.length := (List.getElem?_eq_some_iff.mp found).1
    have was := inv.unreturned roam (List.mem_of_getElem? found) fresh
    intro after
    refine after.torndown { roam with repointed := true } ?_ ⟨rfl, cleaned, was⟩ table flow ?_
      stale
    · simp only [step, found, fresh, Bool.false_eq_true, if_false]
      exact List.mem_set (by simpa using bound) _
    · simpa only [step, found, fresh, Bool.false_eq_true, if_false] using inside
  | roam _ _ _ | cleanup _ _ | create _ _ _ _ | finish _ _ | remove _ _ =>
    exact absurd trivial bad

end Steps

/-- The law of the roams holds in every state of a run exactly when no roam ends behind
its own work with a flow to the old port alive. -/
theorem roams_torn_down_iff [DecidableEq Dev] [DecidableEq Net] [DecidableEq Bridge]
    [DecidableEq Table] (devices : Devices Dev Net Bridge)
    (fdb : Bridge → EtherAddr → Option Dev) (tables : Table → List (Flow Dev Net))
    (ports : ∀ bridge mac port, fdb bridge mac = some port → devices.master port = bridge)
    (events : List (Event Dev Net Bridge Table)) :
    (∀ n, Lawful devices (run (step devices) (start fdb tables) (events.take n))) ↔
      Along (step devices) (Good devices) (start fdb tables) events := by
  apply always_iff_along (step devices) (Good devices) (Inv devices) (Lawful devices)
  · intro s inv
    exact inv.lawful
  · intro s event inv good
    exact inv_step inv event good
  · intro s event inv bad
    exact lost_step inv event bad
  · exact inv_start devices tables ports

/-! ## A station that roams from port 1 to port 2 -/

def onePort : Devices Nat Unit Unit where
  devNet := fun _ => ()
  netifIsBridgeMaster := fun _ => false
  master := fun _ => ()

def station : EtherAddr := 0x02aabbccddee

def onPort1 : State Nat Unit Unit Unit := start (fun _ _ => some 1) fun _ => []

/-- The flow is there before the entry changes, and the work runs after that. -/
def slowWork : List (Event Nat Unit Unit Unit) :=
  [.roam () station 2, .create () () (.direct () station) .neigh, .repoint 0,
    .cleanup 0 fun _ => false]

theorem roams_torn_down_slowWork :
    Along (step onePort) (Good onePort) onPort1 slowWork ∧
      ∀ n, Lawful onePort (run (step onePort) onPort1 (slowWork.take n)) := by
  have good : Along (step onePort) (Good onePort) onPort1 slowWork := by
    refine ⟨trivial, trivial, ?_, trivial, trivial⟩
    intro roam found _ cleaned
    simp only [step, Option.mem_def] at found
    rw [← Option.some.inj found] at cleaned
    cases cleaned
  exact ⟨good, (roams_torn_down_iff onePort (fun _ _ => some 1) (fun _ => [])
    (fun _ _ _ _ => rfl) slowWork).mpr good⟩

/-- The work runs before the entry changes, and the flow comes in between. -/
theorem flow_left_on_port1 :
    ¬ ∀ (events : List (Event Nat Unit Unit Unit)) (n : Nat),
      Lawful onePort (run (step onePort) onPort1 (events.take n)) := by
  intro always
  have after := always [.roam () station 2, .cleanup 0 fun _ => false,
    .create () () (.direct () station) .neigh, .repoint 0] 4
  refine after.torndown ⟨(), station, 1, 2, some ⟨(), station⟩, true, true, false⟩ ?_
    ⟨rfl, rfl, rfl⟩ () ⟨(), false, .direct station 1, .neigh⟩ ?_ ⟨rfl, rfl, .inl rfl⟩
  · exact List.mem_cons_self
  · exact List.mem_cons_self

end OpenwrtSource.FlowTable.Roaming
