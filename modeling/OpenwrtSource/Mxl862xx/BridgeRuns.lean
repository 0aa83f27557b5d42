import OpenwrtSource.Mxl862xx.BridgeIsolation

/-!
# Bridge joins and leaves

Each call is described by what it does to the switching state.  A join detaches the
port from its own id and attaches it to that of the bridge; a leave is the way back.
Under `force_isolate` neither moves a port.
-/

namespace OpenwrtSource.Mxl862xx.BridgeRuns

open Lib.Run
open Mxl862xx.Driver Mxl862xx.BridgeMaps
open Mxl862xx.BridgeLedger Mxl862xx.BridgeIsolation
open Mxl862xx.VlanBlock (Block)
open Mxl862xx.VlanOwnership (andThen_holds)

variable {β : Type} [DecidableEq β] {dsa : Dsa} {fw : Firmware} {port : Port} {bridge : β}

theorem findBridgeId_cases (dsa : Dsa) (bridge : β) (w : World β)
    (cpu : (w.port dsa.cpuPort).bridge = none) :
    (∃ q, dsa.user q = true ∧ (w.port q).bridge = some bridge ∧
        findBridgeId dsa w bridge = (w.port q).bridgeId) ∨
      (∀ q, dsa.user q = true → (w.port q).bridge ≠ some bridge) ∧
        findBridgeId dsa w bridge = 0 := by
  let inside := fun i => (dsa.user i || i == dsa.cpuPort) && (w.port i).bridge == some bridge
  cases found : (List.finRange maxPorts).find? inside with
  | none =>
    refine .inr ⟨fun q user member => ?_, ?_⟩
    · have outside := List.find?_eq_none.mp found q (List.mem_finRange q)
      apply outside
      simp only [inside, user, member, Bool.true_or, Bool.true_and, beq_self_eq_true]
    · unfold findBridgeId
      rw [found]
  | some q =>
    have holds := List.find?_some found
    simp only [inside, Bool.and_eq_true, Bool.or_eq_true, beq_iff_eq] at holds
    have user : dsa.user q = true := by
      refine holds.1.resolve_right fun same => ?_
      rw [same, cpu] at holds
      cases holds.2
    refine .inl ⟨q, user, holds.2, ?_⟩
    unfold findBridgeId
    rw [found]

/-- The id that a join gives the port, and the ids then allocated. -/
def joinId (dsa : Dsa) (fw : Firmware) (bridge : β) (w : World β) : Nat × List Nat :=
  if findBridgeId dsa w bridge = 0 then
    (fw.bridge w.commands w.bridges, fw.bridge w.commands w.bridges :: w.bridges)
  else (findBridgeId dsa w bridge, w.bridges)

variable {w : World β}

theorem chooses_joinId (bridge : β) (fresh : BridgesFresh fw)
    (inv : Inv dsa (fun p => p ≠ port ∧ dsa.user p = true) (switching w))
    (alone : (w.port port).bridge = none) :
    Chooses (fun p => p ≠ port ∧ dsa.user p = true) (switching w) (some bridge)
      (joinId dsa fw bridge w).1 (joinId dsa fw bridge w).2 := by
  obtain ⟨q, user, member, id⟩ | ⟨nobody, id⟩ := findBridgeId_cases dsa bridge w inv.cpu
  · have other : q ≠ port := by
      rintro rfl
      rw [alone] at member
      cases member
    have positive : (w.port q).bridgeId ≠ 0 := (inv.ids _ (inv.own q ⟨other, user⟩)).1.ne'
    rw [joinId, id, if_neg positive]
    exact .inl ⟨rfl, q, bridge, ⟨other, user⟩, member, rfl, rfl⟩
  · rw [joinId, if_pos id]
    refine chooses_new inv fresh ?_
    rintro q b ⟨-, user⟩ same
    cases same
    exact nobody q user

def setVlanBlocks (port : Port) (w : World β) : World β × Option VlanBlock.Errno :=
  (w.setBridgePort (mxlPort port) { w.bridgePort (mxlPort port) with
    vlanBlock := fun dir => some (w.block port dir).blockId }, none)

omit [DecidableEq β] in
theorem switching_setVlanBlocks (w : World β) : switching (setVlanBlocks port w).1 = switching w := by
  refine switching_ext (fun p => ?_) rfl rfl rfl
  by_cases here : p = port
  · subst here
    simp only [switching, setVlanBlocks, World.setBridgePort, Function.update_self, viewOf]
  · have apart : mxlPort p ≠ mxlPort port := fun same => here (mxlPort_injective same)
    simp only [switching, setVlanBlocks, World.setBridgePort, Function.update_of_ne apart]

omit [DecidableEq β] in
theorem switching_joinVlanRules (w : World β) :
    switching (joinVlanRules dsa fw port w).1 = switching w := by
  let Still := fun w' : World β => switching w' = switching w
  have prepared : ∀ (at' : Port) (dir : Dir) (build : World β → Block → VlanBlock.Built) w',
      Still w' → Still (prepare fw at' dir (build w') w').1 :=
    fun at' dir build w' still => (switching_prepare at' dir (build w') w').trans still
  have configured : ∀ w', Still w' → Still (ctpPortConfigSet dsa w').1 := fun _ still => still
  have updated : ∀ w', Still w' → Still (setVlanBlocks port w').1 :=
    fun w' still => (switching_setVlanBlocks w').trans still
  have ingressCpu : ∀ w', Still w' → Still (prepareIngressCpu dsa fw port w').1 :=
    prepared dsa.cpuPort .ingress _
  have egressCpu := prepared dsa.cpuPort .egress fun _ =>
    always VlanBlock.prepareVlanEgressFiltersOffSpTagCpu
  have ingress := prepared port .ingress fun _ =>
    always (VlanBlock.prepareVlanIngressFiltersOffSpTagNoVid (dsa.standaloneVid port))
  have egress := prepared port .egress fun _ =>
    always VlanBlock.prepareVlanEgressFiltersOffSpTagNoVid
  have rules : ∀ w', Still w' → Still (joinVlanRules dsa fw port w').1 :=
    andThen_holds ingressCpu (andThen_holds egressCpu (andThen_holds ingress
      (andThen_holds egress (andThen_holds configured updated))))
  exact rules w rfl

def joining (dsa : Dsa) (port : Port) (bridge : β) (chosen : Nat × List Nat) (s : Switching β) :
    Switching β :=
  (named (withBridges s chosen.2) port chosen.1 (some bridge)).update dsa port (some bridge) true

theorem switching_portBridgeJoin (follows : dsa.forceIsolate = false) (user : dsa.user port = true)
    (same : ∀ i, i ≠ port → dsa.user i = true →
      (deisolatePort dsa port w).dsaBridge i = some bridge →
      ((deisolatePort dsa port w).port i).bridgeId =
        (joinId dsa fw bridge (deisolatePort dsa port w)).1) :
    switching (portBridgeJoin dsa fw port bridge w) =
      joining dsa port bridge (joinId dsa fw bridge (deisolatePort dsa port w))
        (switching (deisolatePort dsa port w)) := by
  let w1 := deisolatePort dsa port w
  let chosen := joinId dsa fw bridge w1
  let w2 : World β := if findBridgeId dsa w1 bridge = 0 then (bridgeAlloc fw w1).1 else w1
  let w3 := w2.setPort port { w2.port port with bridgeId := chosen.1, bridge := some bridge }
  let w4 := updateBridgeConfPort dsa port (some bridge) true w3
  have allocated : switching w2 = withBridges (switching w1) chosen.2 ∧
      w2.dsaBridge = w1.dsaBridge ∧ w2.port = w1.port := by
    simp only [w2, chosen, joinId]
    split_ifs
    · exact ⟨rfl, rfl, rfl⟩
    · exact ⟨rfl, rfl, rfl⟩
  have joined : switching w4 = joining dsa port bridge chosen (switching w1) := by
    have counted : ∀ i, Counts dsa w3 port (some bridge) i →
        (w3.port i).bridgeId = (w3.port port).bridgeId := by
      intro i counts
      have own : (w3.port port).bridgeId = chosen.1 := by
        simp only [w3, World.setPort, Function.update_self]
      by_cases here : i = port
      · rw [here]
      · have member : w1.dsaBridge i = some bridge := by
          rw [← allocated.2.1]
          exact (counts.2 here).1
        have kept : w3.port i = w1.port i := by
          simp only [w3, World.setPort, Function.update_of_ne here, allocated.2.2]
        rw [own, kept]
        exact same i here counts.1 member
    rw [switching_updateBridgeConfPort user counted]
    show (switching (w2.setPort port _)).update dsa port (some bridge) true = _
    rw [switching_named, allocated.1]
    rfl
  have body : portBridgeJoin dsa fw port bridge w =
      if dsa.spTag then (joinVlanRules dsa fw port w4).1 else w4 := by
    have honoured : ¬ dsa.forceIsolate = true := by simp [follows]
    unfold portBridgeJoin
    rw [if_neg honoured]
    simp only [w4, w3, w2, chosen, joinId, w1]
    by_cases none : findBridgeId dsa (deisolatePort dsa port w) bridge = 0
    · simp only [if_pos none]
      rfl
    · simp only [if_neg none]
  rw [body]
  split_ifs
  · rw [switching_joinVlanRules, joined]
  · exact joined

omit [DecidableEq β] in
theorem member_id {on : Port → Prop} {s : Switching β} {id : Nat} {bridges : List Nat}
    (chooses : Chooses on s (some bridge) id bridges) (inv : Inv dsa on s) {i : Port} (here : on i)
    (member : (s.port i).bridge = some bridge) : (s.port i).bridgeId = id := by
  obtain ⟨-, q, b, hereQ, memberQ, same, idQ⟩ | ⟨-, -, -, nobody⟩ := chooses
  · cases same
    rw [← idQ]
    by_cases self : i = q
    · rw [self]
    · exact (inv.same i q self here hereQ).mpr ⟨bridge, member, memberQ⟩
  · exact absurd member (nobody i bridge here rfl)

section Joining

variable {chosen : Nat × List Nat} {s : Switching β}

theorem joining_self : ((joining dsa port bridge chosen s).port port).bridge = some bridge ∧
    ((joining dsa port bridge chosen s).port port).isolated = (s.port port).isolated ∧
    ((joining dsa port bridge chosen s).port port).higher = (s.port port).higher := by
  have record := update_record dsa port
    (named (withBridges s chosen.2) port chosen.1 (some bridge)) (some bridge) true port
  have own : (named (withBridges s chosen.2) port chosen.1 (some bridge)).port port =
      { s.port port with bridgeId := chosen.1, bridge := some bridge } := Function.update_self _ _ _
  rw [own] at record
  exact record.2

theorem joining_other {i : Port} (other : i ≠ port) :
    ((joining dsa port bridge chosen s).port i).bridge = (s.port i).bridge ∧
      ((joining dsa port bridge chosen s).port i).isolated = (s.port i).isolated ∧
      ((joining dsa port bridge chosen s).port i).higher = (s.port i).higher := by
  have record := update_record dsa port
    (named (withBridges s chosen.2) port chosen.1 (some bridge)) (some bridge) true i
  have same : (named (withBridges s chosen.2) port chosen.1 (some bridge)).port i = s.port i :=
    Function.update_of_ne other _ _
  rw [same] at record
  exact record.2

theorem joining_learns (inv : Inv dsa (fun p => p ≠ port ∧ dsa.user p = true) s) {i : Port}
    (user : dsa.user i = true)
    (member : ((joining dsa port bridge chosen s).port i).bridge ≠ none) :
    ((joining dsa port bridge chosen s).port i).learningOff = false := by
  let t := named (withBridges s chosen.2) port chosen.1 (some bridge)
  have acts : Rewrites dsa t port (some bridge) i := by
    refine ⟨user, fun _ => Option.some_ne_none bridge, fun _ => ?_, fun other => ?_⟩
    · have record := (update_record dsa port t (some bridge) true i).2.1
      rw [← record]
      exact member
    · have same : t.port i = s.port i := Function.update_of_ne other _ _
      rw [same, inv.switchId i ⟨other, user⟩]
      exact ⟨rfl, (inv.ids _ (inv.own i ⟨other, user⟩)).1.ne'⟩
  have view : (joining dsa port bridge chosen s).port i =
      (t.port i).rewrite dsa _ port (some bridge) true i := if_pos acts
  rw [view]
  rfl

end Joining

theorem deisolating_record (dsa : Dsa) (port : Port) (s : Switching β) (p : Port) :
    ((deisolating dsa port s).port p).bridge = (s.port p).bridge ∧
      (p ≠ port → ((deisolating dsa port s).port p).isolated = (s.port p).isolated) ∧
      ((deisolating dsa port s).port p).higher = (s.port p).higher := by
  obtain ⟨-, kept, flag, higher⟩ := update_record dsa port s none false p
  by_cases here : p = port
  · subst here
    have view : (deisolating dsa p s).port p =
        { (s.update dsa p none false).port p with isolated := false } := Function.update_self _ _ _
    rw [view]
    exact ⟨kept, fun other => absurd rfl other, higher⟩
  · have view : (deisolating dsa port s).port p = (s.update dsa port none false).port p :=
      Function.update_of_ne here _ _
    rw [view]
    exact ⟨kept, fun _ => flag, higher⟩

theorem deisolating_self (dsa : Dsa) (port : Port) (s : Switching β) :
    ((deisolating dsa port s).port port).isolated = false := by
  have view : (deisolating dsa port s).port port =
      { (s.update dsa port none false).port port with isolated := false } :=
    Function.update_self _ _ _
  rw [view]

omit [DecidableEq β] in
theorem frees_alone {on : Port → Prop} {s : Switching β} (inv : Inv dsa on s) (here : on port)
    (alone : (s.port port).bridge = none) :
    Frees on s port (s.bridges.filter (· ≠ (s.port port).bridgeId)) := by
  refine ⟨?_, fun _ => rfl⟩
  rintro ⟨q, other, hereQ, id⟩
  obtain ⟨b, -, member⟩ := (inv.same q port other hereQ here).mp id
  rw [alone] at member
  cases member

theorem inv_deisolating {s : Switching β} (inv : Inv dsa (fun p => dsa.user p = true) s)
    (user : dsa.user port = true) (alone : (s.port port).bridge = none) :
    Inv dsa (fun p => p ≠ port ∧ dsa.user p = true) (deisolating dsa port s) :=
  inv_flagged (inv.detach user (detaches_update inv user alone (frees_alone inv user alone))) false

omit [DecidableEq β] in
theorem attached_every (user : dsa.user port = true) :
    (fun p => p = port ∨ p ≠ port ∧ dsa.user p = true) = fun p => dsa.user p = true := by
  funext p
  by_cases here : p = port
  · simp [here, user]
  · simp [here]

theorem bridged_join (fresh : BridgesFresh fw) (plain : Plain dsa)
    (bridged : Bridged dsa (switching w)) (user : dsa.user port = true)
    (free : w.dsaBridge port = none) :
    Bridged dsa (switching
      (portBridgeJoin dsa fw port bridge (setDsaBridge port (some bridge) w))) := by
  let w0 := setDsaBridge port (some bridge) w
  have attached := bridged.attached
  have alone : (w.port port).bridge = none := (attached.known port).symm.trans free
  have isolated : (w.port port).isolated = true := by
    have same := attached.isolated plain.1 port user
    change (w.port port).isolated = (w.port port).bridge.isNone at same
    rw [same, alone]
    rfl
  have inv0 : Inv dsa (fun p => dsa.user p = true) (switching w0) :=
    inv_congr attached.inv (fun _ _ => rfl) attached.inv.cpu (fun _ _ => rfl) rfl
  -- the port on its own
  let w1 := deisolatePort dsa port w0
  have deisolated : switching w1 = deisolating dsa port (switching w0) :=
    switching_deisolatePort user isolated
  have inv1 : Inv dsa (fun p => p ≠ port ∧ dsa.user p = true) (switching w1) := by
    rw [deisolated]
    exact inv_deisolating inv0 user alone
  have record : ∀ p, ((switching w1).port p).bridge = (w.port p).bridge ∧
      (p ≠ port → ((switching w1).port p).isolated = (w.port p).isolated) := by
    intro p
    obtain ⟨kept, flag, -⟩ := deisolating_record dsa port (switching w0) p
    rw [deisolated]
    exact ⟨kept, flag⟩
  have unset : ((switching w1).port port).isolated = false := by
    rw [deisolated]
    exact deisolating_self dsa port (switching w0)
  have dsaBridge : w1.dsaBridge = Function.update w.dsaBridge port (some bridge) :=
    congrArg Switching.dsaBridge deisolated
  -- the port in the bridge
  let chosen := joinId dsa fw bridge w1
  have chooses := chooses_joinId bridge fresh inv1 ((record port).1.trans alone)
  have joined : switching (portBridgeJoin dsa fw port bridge w0) =
      joining dsa port bridge chosen (switching w1) := by
    refine switching_portBridgeJoin plain.2 user fun i other userI member => ?_
    refine member_id chooses inv1 ⟨other, userI⟩ ((record i).1.trans ?_)
    rw [dsaBridge, Function.update_of_ne other] at member
    exact (attached.known i).symm.trans member
  have inv2 : Inv dsa (fun p => dsa.user p = true)
      (joining dsa port bridge chosen (switching w1)) := by
    have both := inv1.attach user (fun off => off.1 rfl) (attaches_update inv1 user chooses)
    rw [attached_every user] at both
    exact both
  rw [joined]
  refine ⟨⟨inv2, fun _ p userP => ?_, fun p => ?_, .inl plain⟩,
    fun p userP member => joining_learns inv1 userP member⟩
  · by_cases here : p = port
    · subst here
      rw [joining_self.1, joining_self.2.1, unset]
      rfl
    · rw [(joining_other here).1, (joining_other here).2.1, (record p).1, (record p).2 here]
      exact attached.isolated plain.1 p userP
  · show w1.dsaBridge p = _
    rw [dsaBridge]
    by_cases here : p = port
    · subst here
      rw [Function.update_self, joining_self.1]
    · rw [Function.update_of_ne here, (joining_other here).1, (record p).1]
      exact attached.known p

theorem join_higher (fw : Firmware) (bridge : β) (follows : dsa.forceIsolate = false)
    (user : dsa.user port = true) (free : ∀ p, w.dsaBridge p = none) :
    let joined := switching (portBridgeJoin dsa fw port bridge (setDsaBridge port (some bridge) w))
    (joined.port port).higher = ((switching w).port port).higher ∧
      joined.dsaBridge = Function.update w.dsaBridge port (some bridge) := by
  let w0 := setDsaBridge port (some bridge) w
  let w1 := deisolatePort dsa port w0
  have kept : ((switching w1).port port).higher = ((switching w).port port).higher ∧
      w1.dsaBridge = w0.dsaBridge := by
    cases isolated : (w0.port port).isolated with
    | true =>
      have deisolated : switching w1 = deisolating dsa port (switching w0) :=
        switching_deisolatePort user isolated
      refine ⟨?_, congrArg Switching.dsaBridge deisolated⟩
      rw [deisolated]
      exact (deisolating_record dsa port (switching w0) port).2.2
    | false =>
      have unchanged : w1 = w0 := if_pos isolated
      rw [unchanged]
      exact ⟨rfl, rfl⟩
  have joined : switching (portBridgeJoin dsa fw port bridge w0) =
      joining dsa port bridge (joinId dsa fw bridge w1) (switching w1) := by
    refine switching_portBridgeJoin follows user fun i other _ member => ?_
    rw [kept.2] at member
    change Function.update w.dsaBridge port (some bridge) i = some bridge at member
    rw [Function.update_of_ne other, free i] at member
    cases member
  intro after
  rw [show after = _ from joined, joining_self.2.2]
  exact kept

omit [DecidableEq β] in
theorem emptied_iff {on : Port → Prop} {s : Switching β} (inv : Inv dsa on s) (here : on port) :
    s.portmap (s.port port).bridgeId &&& ~~~ bit (mxlPort port) = bit (mxlPort dsa.cpuPort) ↔
      ¬ ∃ q, q ≠ port ∧ on q ∧ (s.port q).bridgeId = (s.port port).bridgeId := by
  obtain ⟨positive, below⟩ := inv.ids _ (inv.own port here)
  have listed : ∀ k, (s.portmap (s.port port).bridgeId &&& ~~~ bit (mxlPort port)).getLsbD k = true ↔
      Lists dsa on s (s.port port).bridgeId k ∧ k ≠ mxlPort port := by
    intro k
    rw [getLsbD_and_not_bit, inv.members _ positive below k]
  have cpu : ∀ k, (bit (mxlPort dsa.cpuPort)).getLsbD k = true ↔ k = mxlPort dsa.cpuPort := by
    intro k
    rw [getLsbD_bit (mxlPort_lt _), decide_eq_true_iff]
  constructor
  · rintro same ⟨q, other, hereQ, id⟩
    have set := (listed (mxlPort q)).mpr
      ⟨.inr ⟨q, hereQ, id, rfl⟩, fun place => other (mxlPort_injective place)⟩
    rw [same, cpu] at set
    exact cpu_apart (inv.users q hereQ) set
  · intro nobody
    refine BitVec.eq_of_getLsbD_eq fun k _ => ?_
    rw [Bool.eq_iff_iff, listed, cpu]
    constructor
    · rintro ⟨isCpu | ⟨q, hereQ, id, place⟩, apart⟩
      · exact isCpu
      · have other : q ≠ port := by
          rintro rfl
          exact apart place
        exact absurd ⟨q, other, hereQ, id⟩ nobody
    · intro isCpu
      refine ⟨.inl isCpu, ?_⟩
      rw [isCpu]
      exact (cpu_apart (inv.users port here)).symm

theorem update_stops {s : Switching β} (inv : Inv dsa (fun p => dsa.user p = true) s) {i : Port}
    (user : dsa.user i = true) (member : (s.port i).bridge ≠ none) :
    ((s.update dsa port (some bridge) false).port i).learningOff = true := by
  have acts : Rewrites dsa s port (some bridge) i := by
    refine ⟨user, fun _ => Option.some_ne_none bridge, fun _ => member, fun _ => ?_⟩
    rw [inv.switchId i user]
    exact ⟨rfl, (inv.ids _ (inv.own i user)).1.ne'⟩
  have view : (s.update dsa port (some bridge) false).port i =
      (s.port i).rewrite dsa _ port (some bridge) false i := if_pos acts
  rw [view]
  rfl

omit [DecidableEq β] in
theorem switching_bridgeFree (condition : Prop) [Decidable condition] (id : Nat) (w : World β) :
    switching (if condition then bridgeFree id w else w) =
      withBridges (switching w) (if condition then w.bridges.filter (· ≠ id) else w.bridges) := by
  split_ifs <;> rfl

omit [DecidableEq β] in
theorem inv_setDsaBridge_none (attached : Attached dsa (switching w)) :
    Inv dsa (fun p => dsa.user p = true) (switching (setDsaBridge port none w)) :=
  inv_congr attached.inv (fun _ _ => rfl) attached.inv.cpu (fun _ _ => rfl) rfl

omit [DecidableEq β] in
theorem member_has_id (attached : Attached dsa (switching w)) (user : dsa.user port = true)
    (member : w.dsaBridge port = some bridge) {i : Port} (userI : dsa.user i = true)
    (inside : (w.port i).bridge = some bridge) : (w.port i).bridgeId = (w.port port).bridgeId := by
  by_cases here : i = port
  · rw [here]
  · have inv0 := @inv_setDsaBridge_none _ dsa port w attached
    exact (inv0.same i port here userI user).mpr
      ⟨bridge, inside, (attached.known port).symm.trans member⟩

theorem findBridgeId_leave (attached : Attached dsa (switching w)) (user : dsa.user port = true)
    (member : w.dsaBridge port = some bridge) :
    findBridgeId dsa (setDsaBridge port none w) bridge = (w.port port).bridgeId := by
  obtain ⟨q, userQ, memberQ, id⟩ | ⟨nobody, -⟩ :=
    findBridgeId_cases dsa bridge (setDsaBridge port none w) (inv_setDsaBridge_none attached).cpu
  · rw [id]
    exact member_has_id attached user member userQ memberQ
  · exact absurd ((attached.known port).symm.trans member) (nobody port user)

theorem switching_update_leave (attached : Attached dsa (switching w))
    (user : dsa.user port = true) (member : w.dsaBridge port = some bridge) :
    switching (updateBridgeConfPort dsa port (some bridge) false (setDsaBridge port none w)) =
      (switching (setDsaBridge port none w)).update dsa port (some bridge) false := by
  refine switching_updateBridgeConfPort user fun i counts =>
    member_has_id attached user member counts.1 ?_
  by_cases here : i = port
  · rw [here]
    exact (attached.known port).symm.trans member
  · have given := (counts.2 here).1
    change Function.update w.dsaBridge port none i = some bridge at given
    rw [Function.update_of_ne here] at given
    exact (attached.known i).symm.trans given

theorem attached_leave (fresh : BridgesFresh fw) (plain : Plain dsa)
    (attached : Attached dsa (switching w)) (user : dsa.user port = true)
    (member : w.dsaBridge port = some bridge) :
    let left := switching (portBridgeLeave dsa fw port bridge (setDsaBridge port none w))
    Attached dsa left ∧ left.dsaBridge = Function.update w.dsaBridge port none ∧
      ∀ q, q ≠ port → dsa.user q = true → w.dsaBridge q ≠ none →
        (left.port q).learningOff = true := by
  let w0 := setDsaBridge port none w
  let own := (w.port port).bridgeId
  have inside : (w.port port).bridge = some bridge := (attached.known port).symm.trans member
  have inv0 : Inv dsa (fun p => dsa.user p = true) (switching w0) := inv_setDsaBridge_none attached
  have found : findBridgeId dsa w0 bridge = own := findBridgeId_leave attached user member
  -- out of the maps
  let w1 := updateBridgeConfPort dsa port (some bridge) false w0
  have updated : switching w1 = (switching w0).update dsa port (some bridge) false :=
    switching_update_leave attached user member
  have record : ∀ p, ((switching w1).port p).bridge = (w.port p).bridge ∧
      ((switching w1).port p).isolated = (w.port p).isolated := by
    intro p
    rw [updated]
    obtain ⟨-, kept, flag, -⟩ := update_record dsa port (switching w0) (some bridge) false p
    exact ⟨kept, flag⟩
  -- the id given back
  let w2 := if w1.bridgePortmap (findBridgeId dsa w0 bridge) = bit (mxlPort dsa.cpuPort) then
    bridgeFree own w1 else w1
  let bridges := if w1.bridgePortmap (findBridgeId dsa w0 bridge) = bit (mxlPort dsa.cpuPort) then
    w1.bridges.filter (· ≠ own) else w1.bridges
  have freed : switching w2 =
      withBridges ((switching w0).update dsa port (some bridge) false) bridges := by
    rw [← updated]
    exact switching_bridgeFree _ own w1
  have kept : w1.bridges = w.bridges := congrArg Switching.bridges updated
  have map : w1.bridgePortmap (findBridgeId dsa w0 bridge) =
      w.bridgePortmap own &&& ~~~ bit (mxlPort port) := by
    have maps : w1.bridgePortmap = Function.update w.bridgePortmap own
        (changeBit port false (w.bridgePortmap own)) := congrArg Switching.portmap updated
    rw [found, maps, Function.update_self]
    rfl
  have frees : Frees (fun p => dsa.user p = true) (switching w0) port bridges := by
    have empty := emptied_iff inv0 user
    change w.bridgePortmap own &&& ~~~ bit (mxlPort port) = bit (mxlPort dsa.cpuPort) ↔ _ at empty
    simp only [bridges, map, kept]
    refine ⟨fun shared => if_neg fun same => empty.mp same shared, fun nobody => ?_⟩
    exact if_pos (empty.mpr nobody)
  have inv2 : Inv dsa (fun p => p ≠ port ∧ dsa.user p = true) (switching w2) := by
    rw [freed]
    exact inv0.detach user (detaches_update inv0 user inside frees)
  -- and on its own
  have idle : (w2.port port).isolated = false := by
    have same := attached.isolated plain.1 port user
    change (w.port port).isolated = (w.port port).bridge.isNone at same
    rw [inside] at same
    have flag : ((switching w2).port port).isolated = (w.port port).isolated := by
      rw [freed, ← updated]
      exact (record port).2
    exact flag.trans same
  let w3 := isolatePort dsa fw port w2
  obtain ⟨flag, shown, isolated⟩ := switching_isolatePort fw (w := w2) user idle
  have inv3 : Inv dsa (fun p => dsa.user p = true) (switching w3) := by
    have both := inv_isolatePort inv2 fresh user (fun off => off.1 rfl) idle
    rw [attached_every user] at both
    exact both
  have left : switching (portBridgeLeave dsa fw port bridge w0) = switching w3 :=
    switching_setPort_same w3 port _ rfl rfl rfl
  have self : (switching w3).port port =
      { (isolating dsa port (fw.bridge w2.commands w2.bridges) (switching w2)).port port with
        isolated := flag } := by
    rw [isolated]
    exact Function.update_self _ _ _
  have other : ∀ i, i ≠ port → (switching w3).port i = (switching w1).port i := by
    intro i apart
    have same : (switching w2).port i = (switching w1).port i := by
      rw [freed, updated]
      rfl
    rw [isolated, ← same, ← isolating_other dsa _ (switching w2) apart]
    exact Function.update_of_ne apart _ _
  have alone := isolating_self user (fw.bridge w2.commands w2.bridges) (switching w2)
  have dsaBridge : (switching w3).dsaBridge = Function.update w.dsaBridge port none := by
    rw [isolated]
    show (switching w2).dsaBridge = _
    rw [freed]
    rfl
  intro after
  rw [show after = switching w3 from left]
  refine ⟨⟨inv3, fun proto p userP => ?_, fun p => ?_, .inl plain⟩, dsaBridge, ?_⟩
  · by_cases here : p = port
    · rw [here, self, shown proto]
      exact congrArg Option.isNone alone.1.symm
    · rw [other p here, (record p).1, (record p).2]
      exact attached.isolated proto p userP
  · rw [dsaBridge]
    by_cases here : p = port
    · rw [here, self, Function.update_self]
      exact alone.1.symm
    · rw [Function.update_of_ne here, other p here, (record p).1]
      exact attached.known p
  · intro q apart userQ given
    rw [other q apart, updated]
    refine update_stops inv0 userQ fun none => given ?_
    exact (attached.known q).trans none

end OpenwrtSource.Mxl862xx.BridgeRuns
