import OpenwrtSource.Lib.Run
import OpenwrtSource.Hnat.FlowList

/-!
# The bind of a Wi-Fi flow in two phases

Beside the lists of the driver there is, for each slot of the table, a map from
flows to what was last prepared for them.  A call of `mtk_sw_nat_hook_tx` is to
commit what the map has for the flow of the entry in the table, while it is not
too old.  The lists do as the map says in every run in which the stored entries
can be told apart by their addresses.
-/

namespace OpenwrtSource.Hnat.TwoPhaseBind

open Lib.Run Lib.KeyedList Hnat.Foe Hnat.McastOffload Hnat.BindPacket Hnat.BindEntry Hnat.HookTx
open Hnat.FlowKeys Hnat.FlowList

abbrev Prepared := FoeEntry × Jiffies

abbrev PreparedMap := Nat → Nat → FlowKey → Option Prepared

def PreparedMap.set (prepared : PreparedMap) (ppe hash : Nat) (flow : FlowKey)
    (value : Option Prepared) : PreparedMap := fun p h =>
  if p = ppe ∧ h = hash then Function.update (prepared ppe hash) flow value else prepared p h

structure Tracked where
  sys : FlowList.State
  prepared : PreparedMap

def Tracked.init : Tracked := ⟨FlowList.State.init, fun _ _ _ => none⟩

/-- A recorded packet prepares the flow of the entry in the table; a call takes
what was prepared, and the work removes it when it is too old. -/
def preparedAfter (hz : Jiffies) (plat : Platform) (t : Tracked) : Event → PreparedMap
  | .pass cfg call =>
    match skbToHnatInfo cfg plat call t.sys.bind with
    | (.recorded entry, _) =>
      let desc := call.skb.desc
      PreparedMap.set t.prepared desc.ppe desc.entry (flowKey (t.sys.foe desc.ppe desc.entry))
        (some (entry, t.sys.jiffies))
    | _ => t.prepared
  | .hookTx tx call =>
    if accepts tx plat call.gmacNo call.skb then
      PreparedMap.set t.prepared call.ppe call.hash (flowKey (t.sys.foe call.ppe call.hash)) none
    else t.prepared
  | .teardown => fun ppe hash flow =>
    if inFlowTable plat ppe (hash / 4) then
      (t.prepared ppe hash flow).filter fun value => isFresh hz t.sys.jiffies value.2
    else t.prepared ppe hash flow
  | .tick _ | .other _ => t.prepared

def trackedStep (hz : Jiffies) (plat : Platform) (t : Tracked) (event : Event) : Tracked where
  sys := step hz plat t.sys event
  prepared := preparedAfter hz plat t event

def AtMostOne (s : FlowList.State) : Prop :=
  ∀ ppe hash, (s.stored ppe hash).Pairwise fun a b => flowKey a.data ≠ flowKey b.data

/-- A call that meets an unbound entry commits what was prepared for its flow
within the last three seconds, and nothing else. -/
def Serves (hz : Jiffies) (plat : Platform) (t : Tracked) : Event → Prop
  | .hookTx tx call =>
    accepts tx plat call.gmacNo call.skb = true →
      stateOf (t.sys.foe call.ppe call.hash) = UNBIND →
        (mtkSwNatHookTx hz tx plat call t.sys).mcast =
          match t.prepared call.ppe call.hash (flowKey (t.sys.foe call.ppe call.hash)) with
          | none => t.sys.mcast
          | some (data, lastUpdate) =>
            if timeAfterEq t.sys.jiffies (lastUpdate + 3 * hz) then t.sys.mcast
            else commitData tx plat call data t.sys.mcast
  | _ => True

/-- The lookup takes the one entry for the other, in one direction or the other. -/
def Collides (data foe : FoeEntry) : Bool :=
  hnatFlowEntryMatch data foe || hnatFlowEntryMatch foe data

/-- A packet for Wi-Fi has the key of the entry in the table, and no other flow
of the slot that waits has its addresses; a call finds no other flow than that
of the entry in the table. -/
def Fits (plat : Platform) (t : Tracked) : Event → Prop
  | .pass cfg call =>
    let desc := call.skb.desc
    let foe := t.sys.foe desc.ppe desc.entry
    call.dev.isWhnat cfg = true → stateOf foe = UNBIND →
      keyTaken cfg foe call = true ∧
        ∀ flow ∈ t.sys.stored desc.ppe desc.entry,
          Collides flow.data foe = true → flowKey flow.data = flowKey foe
  | .hookTx tx call =>
    let hwEntry := t.sys.foe call.ppe call.hash
    accepts tx plat call.gmacNo call.skb = true →
      ∀ flow ∈ t.sys.stored call.ppe call.hash,
        hnatFlowEntryMatch flow.data hwEntry = true → flowKey flow.data = flowKey hwEntry
  | _ => True

def keyOf (flow : HnatFlowEntry) : FlowKey := flowKey flow.data

def valueOf (flow : HnatFlowEntry) : Prepared := (flow.data, flow.lastUpdate)

structure Inv (t : Tracked) : Prop where
  matched : ∀ ppe hash, ∀ flow ∈ t.sys.stored ppe hash, isMatched (pktTypeOf flow.data) = true
  lists : ∀ ppe hash, Lists keyOf valueOf (t.sys.stored ppe hash) (t.prepared ppe hash)

theorem inv_init : Inv Tracked.init where
  matched := by
    intro ppe hash flow member
    cases member
  lists := fun _ _ => Lists.nil

theorem Inv.of_same {t t' : Tracked} (inv : Inv t) (foeFlow : t'.sys.foeFlow = t.sys.foeFlow)
    (prepared : t'.prepared = t.prepared) : Inv t' where
  matched := by
    unfold FlowList.State.stored
    rw [foeFlow]
    exact inv.matched
  lists := by
    unfold FlowList.State.stored
    rw [foeFlow, prepared]
    exact inv.lists

section

variable {list : List HnatFlowEntry} {foe : FoeEntry}

theorem selects_match (matched : ∀ flow ∈ list, isMatched (pktTypeOf flow.data) = true)
    (apart : ∀ flow ∈ list, hnatFlowEntryMatch flow.data foe = true →
      flowKey flow.data = flowKey foe) :
    Selects keyOf (flowKey foe) (fun flow => hnatFlowEntryMatch flow.data foe) list :=
  fun flow member => ⟨apart flow member, fun same => match_of_flowKey same (matched flow member)⟩

theorem addrWords_nested : ∀ s t, isMatched s = true → isMatched t = true →
    (∀ word ∈ addrWords s, word ∈ flowWords t) ∨ ∀ word ∈ addrWords t, word ∈ addrWords s := by
  decide

theorem collides_of_match {data entry : FoeEntry} (same : flowKey entry = flowKey foe)
    (matched : isMatched (pktTypeOf foe) = true) (found : hnatFlowEntryMatch data entry = true) :
    Collides data foe = true := by
  obtain ⟨kind, udp, words⟩ := flowKey_eq_iff.mp same
  obtain ⟨flowWords, addrWords, alsoMatched⟩ := flowWords_of_kind _ _ kind
  obtain ⟨dataMatched, dataUdp, dataWords⟩ := hnatFlowEntryMatch_iff.mp found
  unfold Collides
  rw [Bool.or_eq_true, hnatFlowEntryMatch_iff, hnatFlowEntryMatch_iff]
  obtain covered | shorter := addrWords_nested (pktTypeOf data) (pktTypeOf entry) dataMatched
    (alsoMatched.trans matched)
  · exact .inl ⟨dataMatched, dataUdp.trans udp, fun word member =>
      (dataWords word member).trans (words word (covered word member))⟩
  · refine .inr ⟨matched, (dataUdp.trans udp).symm, fun word member => ?_⟩
    rw [← addrWords] at member
    exact ((dataWords word (shorter word member)).trans
      (words word (addrWords_subset _ word member))).symm

end

section

variable {list list' : List HnatFlowEntry} {map : FlowKey → Option Prepared}
  {kzalloc : Bool} {jiffies : Jiffies} {entry foe : FoeEntry} {ppe hash : Nat}

theorem lists_storeIn (matched : ∀ flow ∈ list, isMatched (pktTypeOf flow.data) = true)
    (lists : Lists keyOf valueOf list map)
    (apart : ∀ flow ∈ list, Collides flow.data foe = true → flowKey flow.data = flowKey foe)
    (same : flowKey entry = flowKey foe) (foeMatched : isMatched (pktTypeOf foe) = true)
    (stored : storeIn kzalloc jiffies entry ppe hash list = some list') :
    (∀ flow ∈ list', isMatched (pktTypeOf flow.data) = true) ∧
      Lists keyOf valueOf list' (Function.update map (flowKey foe) (some (entry, jiffies))) := by
  have entryMatched : isMatched (pktTypeOf entry) = true :=
    (flowWords_of_kind _ _ (flowKey_eq_iff.mp same).1).2.2.trans foeMatched
  have selects : Selects keyOf (flowKey foe)
      (fun flow => hnatFlowEntryMatch flow.data entry) list := by
    rw [← same]
    exact selects_match matched fun flow member found =>
      (apart flow member (collides_of_match same foeMatched found)).trans same.symm
  have held := lists.find? selects
  unfold storeIn at stored
  cases found : list.find? (fun flow => hnatFlowEntryMatch flow.data entry) with
  | some flow =>
    rw [found] at stored
    obtain rfl := Option.some.inj stored
    refine ⟨?_, lists.replaceF selects (by rw [found]; rfl) fun _ _ _ => ⟨same, rfl⟩⟩
    rw [replaceF_eq_map _ lists.once selects]
    intro flow member
    obtain ⟨old, inList, rfl⟩ := List.mem_map.mp member
    split
    · exact entryMatched
    · exact matched old inList
  | none =>
    rw [found] at stored held
    dsimp only at stored
    split at stored
    · obtain rfl := Option.some.inj stored
      have added := lists.cons ⟨entry, jiffies, ppe, hash⟩
        (show map (flowKey entry) = none by rw [same]; exact held.symm)
      refine ⟨List.forall_mem_cons.mpr ⟨entryMatched, matched⟩, ?_⟩
      rw [← same]
      exact added
    · cases stored

end

section

variable {hz : Jiffies} {plat : Platform} {t : Tracked}

theorem inv_pass (inv : Inv t) {cfg : HnatConfig} {call : Pass} (fits : Fits plat t (.pass cfg call)) :
    Inv (trackedStep hz plat t (.pass cfg call)) := by
  cases done : skbToHnatInfo cfg plat call t.sys.bind with
  | mk outcome bound =>
    cases outcome with
    | recorded entry =>
      obtain ⟨whnat, unbound, ⟨flows, listed, -⟩, keyed⟩ := recorded_skbToHnatInfo done
      obtain ⟨taken, apart⟩ := fits whnat unbound
      obtain ⟨same, foeMatched⟩ := keyed taken
      have spec := storeFlow_spec call.kzalloc t.sys.jiffies entry call.skb.desc.ppe
        call.skb.desc.entry t.sys.foeFlow
      have mapped := listed.symm.trans (recordFlow_map call.kzalloc t.sys.jiffies entry
        call.skb.desc.ppe call.skb.desc.entry (t.sys.stored call.skb.desc.ppe _))
      cases written : storeFlow call.kzalloc t.sys.jiffies entry call.skb.desc.ppe
          call.skb.desc.entry t.sys.foeFlow with
      | none =>
        rw [written] at spec
        rw [FlowList.State.stored, spec] at mapped
        cases mapped
      | some foeFlow =>
        rw [written] at spec
        obtain ⟨stored, others⟩ := spec
        obtain ⟨matched, lists⟩ := lists_storeIn (inv.matched _ _) (inv.lists _ _) apart same
          foeMatched stored
        have sys : (trackedStep hz plat t (.pass cfg call)).sys =
            { t.sys with foeFlow := foeFlow } := by
          simp only [trackedStep, step, FlowList.pass, done, written]
        have prepared : (trackedStep hz plat t (.pass cfg call)).prepared =
            PreparedMap.set t.prepared call.skb.desc.ppe call.skb.desc.entry
              (flowKey (t.sys.foe call.skb.desc.ppe call.skb.desc.entry))
              (some (entry, t.sys.jiffies)) := by
          simp only [trackedStep, preparedAfter, done]
        constructor
        · intro p h
          rw [sys]
          by_cases own : p = call.skb.desc.ppe ∧ h = call.skb.desc.entry
          · obtain ⟨rfl, rfl⟩ := own
            exact matched
          · rw [FlowList.State.stored, others p h own]
            exact inv.matched p h
        · intro p h
          rw [sys, prepared, PreparedMap.set]
          by_cases own : p = call.skb.desc.ppe ∧ h = call.skb.desc.entry
          · rw [if_pos own]
            obtain ⟨rfl, rfl⟩ := own
            exact lists
          · rw [if_neg own, FlowList.State.stored, others p h own]
            exact inv.lists p h
    | refused _ | prepared _ | bound _ =>
      have sys : (trackedStep hz plat t (.pass cfg call)).sys =
          { t.sys with mcast := bound.mcast } := by
        simp only [trackedStep, step, FlowList.pass, done]
      exact inv.of_same (by rw [sys]) (by simp only [trackedStep, preparedAfter, done])

variable {tx : TxConfig} {call : TxCall}

theorem search_prepared (inv : Inv t) (accepted : accepts tx plat call.gmacNo call.skb = true)
    (fits : Fits plat t (.hookTx tx call)) :
    (hnatFlowEntrySearch t.sys.foeFlow (t.sys.foe call.ppe call.hash) call.ppe call.hash).map
        valueOf =
      t.prepared call.ppe call.hash (flowKey (t.sys.foe call.ppe call.hash)) := by
  rw [hnatFlowEntrySearch_eq]
  exact (inv.lists call.ppe call.hash).find? (selects_match (inv.matched _ _) (fits accepted))

theorem mtkSwNatHookTx_foeFlow (accepted : accepts tx plat call.gmacNo call.skb = true)
    {flow : HnatFlowEntry} {s : FlowList.State}
    (found : hnatFlowEntrySearch s.foeFlow (s.foe call.ppe call.hash) call.ppe call.hash =
      some flow) :
    (mtkSwNatHookTx hz tx plat call s).foeFlow =
      hnatFlowEntryDelete s.foeFlow (s.foe call.ppe call.hash) call.ppe call.hash := by
  unfold mtkSwNatHookTx
  rw [accepted, if_neg (by simp)]
  dsimp only
  rw [found]
  dsimp only
  split <;> rfl

theorem mtkSwNatHookTx_missed {s : FlowList.State}
    (missed : hnatFlowEntrySearch s.foeFlow (s.foe call.ppe call.hash) call.ppe call.hash = none) :
    mtkSwNatHookTx hz tx plat call s = s := by
  unfold mtkSwNatHookTx
  split
  · rfl
  · dsimp only
    rw [missed]

theorem inv_hookTx (inv : Inv t) (fits : Fits plat t (.hookTx tx call)) :
    Inv (trackedStep hz plat t (.hookTx tx call)) := by
  by_cases accepted : accepts tx plat call.gmacNo call.skb = true
  · have held := search_prepared inv accepted fits
    have prepared : (trackedStep hz plat t (.hookTx tx call)).prepared =
        PreparedMap.set t.prepared call.ppe call.hash
          (flowKey (t.sys.foe call.ppe call.hash)) none := by
      simp only [trackedStep, preparedAfter, accepted, if_true]
    cases found : hnatFlowEntrySearch t.sys.foeFlow (t.sys.foe call.ppe call.hash) call.ppe
        call.hash with
    | none =>
      refine inv.of_same (congrArg FlowList.State.foeFlow (mtkSwNatHookTx_missed found)) ?_
      rw [found] at held
      rw [prepared]
      funext p h
      unfold PreparedMap.set
      split
      · rename_i own
        rw [own.1, own.2, Function.update_eq_self_iff]
        exact held
      · rfl
    | some flow =>
      have erased := @mtkSwNatHookTx_foeFlow hz plat tx call accepted flow t.sys found
      constructor
      · intro p h entry member
        change entry ∈ storedIn (mtkSwNatHookTx hz tx plat call t.sys).foeFlow p h at member
        rw [erased, storedIn_delete] at member
        split at member
        · exact inv.matched _ _ entry (List.mem_of_mem_eraseP member)
        · exact inv.matched p h entry member
      · intro p h
        change Lists keyOf valueOf
          (storedIn (mtkSwNatHookTx hz tx plat call t.sys).foeFlow p h) _
        rw [erased, storedIn_delete, prepared]
        unfold PreparedMap.set
        split
        · exact (inv.lists _ _).eraseP (selects_match (inv.matched _ _) (fits accepted))
        · exact inv.lists p h
  · refine inv.of_same ?_ ?_
    · simp [trackedStep, step, mtkSwNatHookTx, accepted]
    · simp [trackedStep, preparedAfter, accepted]

theorem serves_hookTx (inv : Inv t) (fits : Fits plat t (.hookTx tx call)) :
    Serves hz plat t (.hookTx tx call) := by
  intro accepted unbound
  rw [← search_prepared inv accepted fits]
  cases found : hnatFlowEntrySearch t.sys.foeFlow (t.sys.foe call.ppe call.hash) call.ppe
      call.hash with
  | none => rw [mtkSwNatHookTx_missed found, Option.map_none]
  | some flow =>
    rw [Option.map_some]
    unfold mtkSwNatHookTx valueOf
    rw [accepted, if_neg (by simp)]
    dsimp only
    rw [found]
    dsimp only
    cases timeAfterEq t.sys.jiffies (flow.lastUpdate + 3 * hz) with
    | true => rw [if_pos (.inr rfl), if_pos rfl]
    | false => rw [if_neg (by simp [unbound]), if_neg Bool.false_ne_true]

theorem stored_teardown (s : FlowList.State) (ppe hash : Nat) :
    (hnatFlowEntryTeardownHandler hz plat s).stored ppe hash =
      if inFlowTable plat ppe (hash / 4) then
        (s.stored ppe hash).filter fun flow => isFresh hz s.jiffies flow.lastUpdate
      else s.stored ppe hash := by
  unfold FlowList.State.stored storedIn hnatFlowEntryTeardownHandler
  dsimp only
  split
  · rw [List.filter_filter, List.filter_filter]
    exact List.filter_congr fun flow _ => Bool.and_comm _ _
  · rfl

theorem inv_teardown (inv : Inv t) : Inv (trackedStep hz plat t .teardown) where
  matched := by
    intro p h flow member
    change flow ∈ (hnatFlowEntryTeardownHandler hz plat t.sys).stored p h at member
    rw [stored_teardown] at member
    split at member
    · exact inv.matched p h flow (List.mem_of_mem_filter member)
    · exact inv.matched p h flow member
  lists := by
    intro p h
    change Lists keyOf valueOf ((hnatFlowEntryTeardownHandler hz plat t.sys).stored p h)
      (preparedAfter hz plat t .teardown p h)
    rw [stored_teardown]
    cases inTable : inFlowTable plat p (h / 4) with
    | true =>
      have removed : preparedAfter hz plat t .teardown p h = fun flow =>
          (t.prepared p h flow).filter fun value => isFresh hz t.sys.jiffies value.2 := by
        funext flow
        simp only [preparedAfter, inTable, if_true]
      rw [removed, if_pos rfl]
      refine @Lists.filter _ _ _ _ _ _ _ (inv.lists p h) _
        (fun _ value => isFresh hz t.sys.jiffies value.2) fun _ _ => rfl
    | false =>
      have kept : preparedAfter hz plat t .teardown p h = t.prepared p h := by
        funext flow
        simp only [preparedAfter, inTable, Bool.false_eq_true, if_false]
      rw [kept, if_neg Bool.false_ne_true]
      exact inv.lists p h

theorem inv_step (inv : Inv t) {event : Event} (fits : Fits plat t event) :
    Inv (trackedStep hz plat t event) := by
  cases event with
  | pass cfg call => exact inv_pass inv fits
  | hookTx tx call => exact inv_hookTx inv fits
  | teardown => exact inv_teardown inv
  | tick _ | other _ => exact inv.of_same rfl rfl

theorem Inv.atMostOne (inv : Inv t) : AtMostOne t.sys := fun ppe hash => (inv.lists ppe hash).once

theorem inv_serves (inv : Inv t) {event : Event} (fits : Fits plat t event) :
    Serves hz plat t event := by
  cases event with
  | hookTx tx call => exact serves_hookTx inv fits
  | pass _ _ | teardown | tick _ | other _ => trivial

end

/-- Where the stored entries can be told apart, each slot has at most one entry
for a flow, and each call commits what was prepared for its flow. -/
theorem two_phase_bind (hz : Jiffies) (plat : Platform) (events : List Event)
    (fits : Along (trackedStep hz plat) (Fits plat) Tracked.init events) :
    AtMostOne (run (trackedStep hz plat) Tracked.init events).sys ∧
      Along (trackedStep hz plat) (Serves hz plat) Tracked.init events :=
  ⟨(run_invariant _ _ Inv (fun _ _ inv fits => inv_step inv fits) _ _ inv_init fits).atMostOne,
    along_of_invariant _ _ _ Inv (fun _ _ inv fits => inv_step inv fits)
      (fun _ _ inv fits => inv_serves inv fits) _ _ inv_init fits⟩

instance (plat : Platform) (t : Tracked) : ∀ event, Decidable (Fits plat t event)
  | .pass _ _ => inferInstanceAs (Decidable (_ → _ → _ ∧ _))
  | .hookTx _ _ => inferInstanceAs (Decidable (_ → _))
  | .teardown | .tick _ | .other _ => isTrue trivial

def accessPoint : HnatConfig where
  l2brToggle := true
  mapeToggle := false
  tnlToggle := false
  l4sToggle := false
  qosToggle := 0
  qosDlToggle := false
  qosUlToggle := false
  perFlowAccounting := false
  whnat := true
  gmacNum := 2
  wan := ['e', 't', 'h', '1']
  lan := ['e', 't', 'h', '0']
  lan2 := ['e', 't', 'h', '2']

def engine : Platform := ⟨1, 16, 16⟩

def lanDesc : HnatDesc := ⟨0, 0, FOE_MAGIC_GE_LAN, 0, 0, false, 0, false⟩

def learn (pktType : FoeIpAct) : Event :=
  let foe := Bfib1.state.set UNBIND (Bfib1.pktType.set pktType FoeEntry.zero)
  .other { McastEvents.State.init with
    hw := McastEvents.State.init.hw.writeFoe 0 0 foe }

/-- A packet of a protocol, from the LAN to a Wi-Fi station. -/
def toWifi (ethProto : BitVec 16) (ipVersion : BitVec 4) : Event :=
  .pass accessPoint
    { skb :=
        { ethProto := ethProto
          hDest := 0
          protocol := ethProto
          pppoeSid := 0
          pppProto := none
          ipVersion := ipVersion
          iph := ⟨0, 0, 0, 0, 0, 0, IPPROTO_TCP, 0, 0, 0⟩
          ip6h := ⟨0, 0, 0, 0, 0, 0, 0, 0, 0⟩
          ports := some ⟨0, 0⟩
          tcpHdrlen := 20
          innerIph := ⟨0, 0, 0, 0, 0, 0, 0, 0, 0, 0⟩
          innerIp6h := ⟨0, 0, 0, 0, 0, 0, 0, 0, 0⟩
          innerPorts := none
          vlanTci := none
          mark := 0
          desc := lanDesc
          dstXfrm := false
          ifindex := 5 }
      dev := ⟨['r', 'a', '0'], 5, true, true, none, none, MTK_GMAC1_ID, false, 1000⟩
      hwPath := ⟨0x0200000000a0, 0x0200000000b0, 0, 0, false, false, false, 0x0200000000a0, none⟩
      env := ⟨fun _ => none, false, none, 0⟩
      kzalloc := true
      locked := true }

def fromDriver : Event :=
  .hookTx ⟨accessPoint, 1, false⟩
    { gmacNo := NR_WDMA0_PORT
      skb :=
        { hashed := true
          alg := false
          infoFilled := true
          magicTagValid := true
          spaceAvailableHead := true
          macHeaderSet := true
          reason := HIT_UNBIND_RATE_REACH
          desc := lanDesc
          wifi := ⟨1, 2, 0, 0, 0, 0, 0, 0, 0, 0⟩
          hDest := 0x0200000000b0
          hSource := 0x0200000000a0
          vlanTag := none
          vlanHeaders := []
          ifindex := 5 }
      env := ⟨fun _ => none, false, none, 0⟩ }

def ETH_P_ARP : BitVec 16 := 0x0806

/-- The entry of a bridged flow is stored again for each packet, and never found. -/
theorem bridged_flow_not_served :
    ¬ AtMostOne (run (trackedStep 100 engine) Tracked.init
        [learn L2_BRIDGE, toWifi ETH_P_ARP 0, toWifi ETH_P_ARP 0]).sys ∧
      ¬ Along (trackedStep 100 engine) (Serves 100 engine) Tracked.init
        [learn L2_BRIDGE, toWifi ETH_P_ARP 0, fromDriver] := by
  constructor
  · intro once
    exact absurd (once 0 0) (by decide)
  · rintro ⟨-, -, served, -⟩
    have committed := congrArg (fun m => stateOf (m.hw.foeTable 0 0))
      (served (by decide) (by decide))
    revert committed
    decide

/-- An IPv4 flow is. -/
theorem ipv4_flow_served :
    Along (trackedStep 100 engine) (Serves 100 engine) Tracked.init
        [learn IPV4_HNAPT, toWifi ETH_P_IP IPVERSION_V4, fromDriver] ∧
      stateOf ((run (trackedStep 100 engine) Tracked.init
        [learn IPV4_HNAPT, toWifi ETH_P_IP IPVERSION_V4, fromDriver]).sys.foe 0 0) = BIND :=
  ⟨(two_phase_bind 100 engine _ (by decide)).2, by decide⟩

end OpenwrtSource.Hnat.TwoPhaseBind
