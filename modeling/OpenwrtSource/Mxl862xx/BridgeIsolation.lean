import OpenwrtSource.Lib.Run
import OpenwrtSource.Mxl862xx.BridgeLedger
import OpenwrtSource.Mxl862xx.VlanOwnership

/-!
# Ports of one bridge, and of none

Joins and leaves attach and detach a port, so each port keeps the map of its bridge.
A leave ends the learning of every port that is in a bridge, and the software maps have
no bit for the additional bridge ports of the CPU.
-/

namespace OpenwrtSource.Mxl862xx.BridgeIsolation

open Lib.Run
open Mxl862xx.Driver Mxl862xx.BridgeMaps
open Mxl862xx.BridgeLedger
open Mxl862xx.VlanBlock (Block)
open Mxl862xx.VlanOwnership (andThen_holds)

variable {β : Type}

/-! ## A port takes an id -/

def withView (s : Switching β) (port : Port) (view : PortView β) : Switching β :=
  { s with port := Function.update s.port port view }

def named (s : Switching β) (port : Port) (id : Nat) (bridge : Option β) : Switching β :=
  withView s port { s.port port with bridgeId := id, bridge := bridge }

def flagged (s : Switching β) (port : Port) (flag : Bool) : Switching β :=
  withView s port { s.port port with isolated := flag }

def withBridges (s : Switching β) (bridges : List Nat) : Switching β := { s with bridges := bridges }

theorem withView_self (s : Switching β) (port : Port) (view : PortView β) :
    (withView s port view).port port = view := Function.update_self _ _ _

theorem withView_other (s : Switching β) {port i : Port} (view : PortView β) (other : i ≠ port) :
    (withView s port view).port i = s.port i := Function.update_of_ne other _ _

section Steps

variable [DecidableEq β] {dsa : Dsa} {on : Port → Prop} {port : Port} {s : Switching β}

/-- The id of a port that is in the same bridge, or a new one. -/
def Chooses (on : Port → Prop) (s : Switching β) (bridge : Option β) (id : Nat)
    (bridges : List Nat) : Prop :=
  (bridges = s.bridges ∧ ∃ q b, on q ∧ (s.port q).bridge = some b ∧ bridge = some b ∧
      (s.port q).bridgeId = id) ∨
    (bridges = id :: s.bridges ∧ id ∉ s.bridges ∧ (0 < id ∧ id < maxBridges) ∧
      ∀ q b, on q → bridge = some b → (s.port q).bridge ≠ some b)

variable {bridge : Option β} {bridges : List Nat}

omit [DecidableEq β] in
theorem Chooses.apart {id : Nat} (chooses : Chooses on s bridge id bridges) (inv : Inv dsa on s)
    {i : Port} (here : on i) (outside : bridge = none ∨ (s.port i).bridge = none) :
    (s.port i).bridgeId ≠ id := by
  intro same
  obtain ⟨-, q, b, hereQ, bridgeQ, isSome, idQ⟩ | ⟨-, new, -, -⟩ := chooses
  · have bridgeI : (s.port i).bridge = none :=
      outside.resolve_left fun isNone => by rw [isNone] at isSome; cases isSome
    have differ : i ≠ q := by
      rintro rfl
      rw [bridgeI] at bridgeQ
      cases bridgeQ
    obtain ⟨c, bridgeC, -⟩ := (inv.same i q differ here hereQ).mp (same.trans idQ.symm)
    rw [bridgeI] at bridgeC
    cases bridgeC
  · exact new (same ▸ inv.own i here)

omit [DecidableEq β] in
theorem outside_of_silent (inv : Inv dsa on s) {s' : Switching β} {i : Port} (here : on i)
    (same : s'.port i = s.port i) (silent : ¬ Rewrites dsa s' port bridge i) :
    bridge = none ∨ (s.port i).bridge = none := by
  by_contra inside
  rw [not_or] at inside
  refine silent ⟨inv.users i here, fun _ => inside.1, fun _ => same ▸ inside.2, fun _ => ?_⟩
  rw [same, inv.switchId i here]
  exact ⟨rfl, (inv.ids _ (inv.own i here)).1.ne'⟩

theorem attaches_update (inv : Inv dsa on s) (user : dsa.user port = true) {id : Nat}
    (chooses : Chooses on s bridge id bridges) :
    Attaches dsa on port s
      ((named (withBridges s bridges) port id bridge).update dsa port bridge true) := by
  let t := named (withBridges s bridges) port id bridge
  have own : t.port port = { s.port port with bridgeId := id, bridge := bridge } :=
    Function.update_self _ _ _
  have others : ∀ i, i ≠ port → t.port i = s.port i := fun i other =>
    Function.update_of_ne other _ _
  let portmap := Function.update s.portmap id (s.portmap id ||| bit (mxlPort port))
  have maps : (t.update dsa port bridge true).portmap = portmap := by
    show Function.update s.portmap (t.port port).bridgeId _ = _
    rw [own]
    rfl
  have rewrites : Rewrites dsa t port bridge port :=
    ⟨user, fun other => absurd rfl other, fun given => by rw [own]; exact given,
      fun other => absurd rfl other⟩
  have view : ∀ i, (t.update dsa port bridge true).port i =
      if Rewrites dsa t port bridge i then (t.port i).rewrite dsa portmap port bridge true i
      else t.port i := by
    intro i
    rw [← maps]
    rfl
  have viewPort : (t.update dsa port bridge true).port port =
      (t.port port).rewrite dsa portmap port bridge true port := by
    rw [view, if_pos rewrites]
  have idPort : ((t.update dsa port bridge true).port port).bridgeId = id := by
    rw [viewPort, PortView.rewrite, if_pos rfl, own]
  have bridgePort : ((t.update dsa port bridge true).port port).bridge = bridge := by
    rw [viewPort, PortView.rewrite, if_pos rfl, own]
  constructor
  · intro i other
    rw [view, others i other]
    split
    · rename_i acts
      have switchId := (acts.2.2.2 other).1
      rw [others i other] at switchId
      exact ⟨rfl, rfl, rfl, switchId.symm, rfl⟩
    · exact SamePort.refl _
  · rw [maps, idPort]
  · intro i here
    rw [maps, view]
    split
    · rfl
    · rename_i silent
      have other : i ≠ port := fun same => silent (same ▸ rewrites)
      have on' : on i := here.resolve_left other
      have outside := outside_of_silent inv on' (others i other) silent
      have apart := chooses.apart inv on' outside
      rw [others i other, inv.maps i on']
      simp only [portmap, Function.update_of_ne apart]
  · rw [viewPort]
    rfl
  · rw [viewPort, PortView.rewrite, if_pos rfl, own]
    exact inv.higher port user
  · intro i here none
    rw [view] at none ⊢
    split
    · rename_i acts
      rw [if_pos acts] at none
      have noBridge : bridge = Option.none := by
        by_contra given
        exact acts.2.2.1 given none
      rw [noBridge]
      rfl
    · rename_i silent
      rw [if_neg silent] at none
      have other : i ≠ port := fun same => silent (same ▸ rewrites)
      rw [others i other] at none ⊢
      exact inv.standalone i (here.resolve_left other) none
  · rw [idPort, bridgePort]
    exact chooses

def Frees (on : Port → Prop) (s : Switching β) (port : Port) (bridges : List Nat) : Prop :=
  ((∃ q, q ≠ port ∧ on q ∧ (s.port q).bridgeId = (s.port port).bridgeId) → bridges = s.bridges) ∧
    ((¬ ∃ q, q ≠ port ∧ on q ∧ (s.port q).bridgeId = (s.port port).bridgeId) →
      bridges = s.bridges.filter (· ≠ (s.port port).bridgeId))

theorem detaches_update (inv : Inv dsa on s) (here : on port) (own : (s.port port).bridge = bridge)
    (frees : Frees on s port bridges) :
    Detaches on port s (withBridges (s.update dsa port bridge false) bridges) := by
  let portmap := Function.update s.portmap (s.port port).bridgeId
    (s.portmap (s.port port).bridgeId &&& ~~~ bit (mxlPort port))
  have view : ∀ i, (s.update dsa port bridge false).port i =
      if Rewrites dsa s port bridge i then (s.port i).rewrite dsa portmap port bridge false i
      else s.port i := fun _ => rfl
  constructor
  · intro i other
    show SamePort _ ((s.update dsa port bridge false).port i)
    rw [view]
    split
    · exact ⟨rfl, rfl, rfl, if_neg other, rfl⟩
    · exact SamePort.refl _
  · rfl
  · intro i other hereI
    show ((s.update dsa port bridge false).port i).map = portmap
      ((s.update dsa port bridge false).port i).bridgeId &&& _
    rw [view]
    split
    · exact if_neg other
    · rename_i silent
      have outside := outside_of_silent inv hereI rfl silent
      have apart : (s.port i).bridgeId ≠ (s.port port).bridgeId := by
        intro same
        obtain ⟨b, bridgeI, bridgePort⟩ := (inv.same i port other hereI here).mp same
        rcases outside with isNone | isNone
        · rw [own, isNone] at bridgePort
          cases bridgePort
        · rw [isNone] at bridgeI
          cases bridgeI
      rw [inv.maps i hereI]
      simp only [portmap, Function.update_of_ne apart]
  · show ((s.update dsa port bridge false).port port).higher = _
    rw [view]
    split <;> rfl
  · intro i _ hereI none
    change ((s.update dsa port bridge false).port i).bridge = _ at none
    show ((s.update dsa port bridge false).port i).learningOff = true
    rw [view] at none ⊢
    split
    · rfl
    · rename_i silent
      rw [if_neg silent] at none
      exact inv.standalone i hereI none
  · exact frees.1
  · exact frees.2

omit [DecidableEq β] in
theorem inv_congr (inv : Inv dsa on s) {s' : Switching β}
    (ports : ∀ p, dsa.user p = true → s'.port p = s.port p)
    (cpu : (s'.port dsa.cpuPort).bridge = none)
    (portmap : ∀ id, 0 < id → s'.portmap id = s.portmap id) (bridges : s'.bridges = s.bridges) :
    Inv dsa on s' := by
  have view : ∀ {p}, on p → s'.port p = s.port p := fun here => ports _ (inv.users _ here)
  refine ⟨inv.users, cpu, ?_, ?_, ?_, ?_, ?_, ?_, ?_, ?_, ?_, ?_⟩
  · intro p here
    rw [view here, bridges]
    exact inv.own p here
  · rw [bridges]
    exact inv.ids
  · rw [bridges]
    exact inv.nodup
  · intro id member
    rw [bridges] at member
    obtain ⟨p, here, own⟩ := inv.used id member
    exact ⟨p, here, (view here).symm ▸ own⟩
  · intro p q apart here here'
    rw [SameBridge, view here, view here']
    exact inv.same p q apart here here'
  · intro id positive below k
    rw [portmap id positive, inv.members id positive below k,
      BridgeLedger.Lists, BridgeLedger.Lists]
    refine or_congr_right (exists_congr fun p => and_congr_right fun here => ?_)
    rw [view here]
  · intro p here
    rw [view here]
    exact inv.switchId p here
  · intro p here
    rw [view here, portmap _ (inv.ids _ (inv.own p here)).1]
    exact inv.maps p here
  · intro p user
    rw [ports p user]
    exact inv.higher p user
  · intro p here
    rw [view here]
    exact inv.standalone p here

omit [DecidableEq β] in
theorem inv_flagged (inv : Inv dsa on s) (flag : Bool) : Inv dsa on (flagged s port flag) := by
  have same : ∀ p, ∃ isolated, (flagged s port flag).port p =
      { s.port p with isolated := isolated } := by
    intro p
    by_cases here : p = port
    · subst here
      exact ⟨flag, Function.update_self _ _ _⟩
    · exact ⟨(s.port p).isolated, Function.update_of_ne here _ _⟩
  choose isolated view using same
  have port' : (flagged s port flag).port = fun p => { s.port p with isolated := isolated p } :=
    funext view
  have flat : flagged s port flag =
      { s with port := fun p => { s.port p with isolated := isolated p } } := by
    rw [← port']
    rfl
  rw [flat]
  exact ⟨inv.users, inv.cpu, inv.own, inv.ids, inv.nodup, inv.used, inv.same, inv.members,
    inv.switchId, inv.maps, inv.higher, inv.standalone⟩

end Steps

/-! ## The driver's operations -/

theorem switching_ext {s s' : Switching β} (port : ∀ p, s.port p = s'.port p)
    (portmap : s.portmap = s'.portmap) (bridges : s.bridges = s'.bridges)
    (dsaBridge : s.dsaBridge = s'.dsaBridge) : s = s' := by
  cases s
  cases s'
  cases funext port
  cases portmap
  cases bridges
  cases dsaBridge
  rfl

theorem switching_setPort (w : World β) (port : Port) (info : PortInfo β) :
    switching (w.setPort port info) =
      withView (switching w) port (viewOf info (w.bridgePort (mxlPort port))) := by
  refine switching_ext (fun p => ?_) rfl rfl rfl
  by_cases here : p = port
  · subst here
    simp only [switching, World.setPort, withView, Function.update_self]
  · simp only [switching, World.setPort, withView, Function.update_of_ne here]

theorem switching_named (w : World β) (port : Port) (id : Nat) (bridge : Option β) :
    switching (w.setPort port { w.port port with bridgeId := id, bridge := bridge }) =
      named (switching w) port id bridge :=
  switching_setPort w port _

theorem switching_flagged (w : World β) (port : Port) (flag : Bool) :
    switching (w.setPort port { w.port port with isolated := flag }) =
      flagged (switching w) port flag :=
  switching_setPort w port _

theorem switching_setPort_same (w : World β) (port : Port) (info : PortInfo β)
    (bridgeId : info.bridgeId = (w.port port).bridgeId)
    (bridge : info.bridge = (w.port port).bridge)
    (isolated : info.isolated = (w.port port).isolated) :
    switching (w.setPort port info) = switching w := by
  have same : viewOf info (w.bridgePort (mxlPort port)) = (switching w).port port := by
    simp only [viewOf, switching, bridgeId, bridge, isolated]
  rw [switching_setPort, same, withView, Function.update_eq_self]

section VlanRules

variable {dsa : Dsa} {fw : Firmware} {port : Port}

theorem switching_prepare (at' : Port) (dir : Dir) (build : Block → VlanBlock.Built)
    (w : World β) : switching (prepare fw at' dir build w).1 = switching w := by
  have allocated : switching (allocateExtendedVlanBlock fw at' dir w) = switching w := by
    unfold allocateExtendedVlanBlock
    dsimp only
    split_ifs <;> rfl
  exact allocated

theorem switching_setPvid (vid : Nat) (pvid : Bool) (w : World β) :
    switching (setPvid port vid pvid w) = switching w := by
  unfold setPvid
  dsimp only
  split_ifs
  · exact switching_setPort_same w port _ rfl rfl rfl
  · exact switching_setPort_same w port _ rfl rfl rfl
  · rfl

theorem switching_updateVlanBridgePort {w : World β} (user : dsa.user port = true)
    (alone : (w.port port).bridge = none) (quiet : ((switching w).port port).learningOff = true) :
    switching (updateVlanBridgePort dsa port w).1 = switching w := by
  have notCpu : (port != dsa.cpuPort) = true := by
    rw [bne_iff_ne]
    rintro rfl
    rw [dsa.cpuNotUser] at user
    cases user
  refine switching_ext (fun p => ?_) rfl rfl rfl
  by_cases here : p = port
  · subst here
    have off : (w.bridgePort (mxlPort p)).srcMacLearningDisable = true := quiet
    simp only [switching, updateVlanBridgePort, World.setBridgePort, Function.update_self, alone,
      notCpu, Option.isNone_none, Bool.and_true, viewOf, off]
  · have apart : mxlPort p ≠ mxlPort port := fun same => here (mxlPort_injective same)
    simp only [switching, updateVlanBridgePort, World.setBridgePort, Function.update_of_ne apart]

theorem switching_portVlanAdd {w : World β} (user : dsa.user port = true)
    (alone : ((switching w).port port).bridge = none)
    (quiet : ((switching w).port port).learningOff = true) (vid : Nat) (untagged pvid : Bool) :
    switching (portVlanAdd dsa fw port vid untagged pvid w).1 = switching w := by
  let Still := fun w' : World β => switching w' = switching w
  have prepared : ∀ (at' : Port) (dir : Dir) (build : World β → Block → VlanBlock.Built) w',
      Still w' → Still (prepare fw at' dir (build w') w').1 :=
    fun at' dir build w' still => (switching_prepare at' dir (build w') w').trans still
  have configured : ∀ w', Still w' → Still (ctpPortConfigSet dsa w').1 := fun _ still => still
  have updated : ∀ w', Still w' → Still (updateVlanBridgePort dsa port w').1 := by
    intro w' still
    have alone' : ((switching w').port port).bridge = none := by rw [still, alone]
    have quiet' : ((switching w').port port).learningOff = true := by rw [still, quiet]
    exact (switching_updateVlanBridgePort user alone' quiet').trans still
  have ingressCpu : ∀ w', Still w' → Still (prepareIngressCpu dsa fw port w').1 :=
    prepared dsa.cpuPort .ingress _
  have egressCpu : ∀ w', Still w' → Still (prepareEgressCpu dsa fw vid untagged w').1 :=
    prepared dsa.cpuPort .egress _
  have rules : ∀ w', Still w' → Still (andThen (prepareIngress dsa fw port vid)
      (prepareEgress dsa fw port vid untagged) w').1 :=
    andThen_holds (prepared port .ingress _) (prepared port .egress _)
  have added : ∀ w', Still w' → Still (addVlanRules dsa fw port vid untagged w').1 := by
    unfold addVlanRules
    split_ifs
    · exact andThen_holds egressCpu (andThen_holds configured updated)
    · exact andThen_holds (andThen_holds ingressCpu (andThen_holds egressCpu rules))
        (andThen_holds configured updated)
    · exact andThen_holds rules configured
    · exact andThen_holds rules updated
  have pvidSet : Still (setPvid port vid pvid w) := switching_setPvid vid pvid w
  unfold portVlanAdd
  dsimp only
  split_ifs
  · rfl
  · exact pvidSet
  · exact pvidSet
  · exact added _ pvidSet

end VlanRules

section Isolation

variable [DecidableEq β] {dsa : Dsa} {fw : Firmware} {port : Port} {w : World β}

def isolating (dsa : Dsa) (port : Port) (id : Nat) (s : Switching β) : Switching β :=
  (named (withBridges s (id :: s.bridges)) port id none).update dsa port none true

theorem isolating_self (user : dsa.user port = true) (id : Nat) (s : Switching β) :
    ((isolating dsa port id s).port port).bridge = none ∧
      ((isolating dsa port id s).port port).learningOff = true := by
  let t := named (withBridges s (id :: s.bridges)) port id none
  have own : t.port port = { s.port port with bridgeId := id, bridge := none } :=
    Function.update_self _ _ _
  have acts : Rewrites dsa t port none port :=
    ⟨user, fun other => absurd rfl other, fun given => absurd rfl given,
      fun other => absurd rfl other⟩
  have view : (isolating dsa port id s).port port = (t.port port).rewrite dsa _ port none true
      port := if_pos acts
  rw [view, PortView.rewrite, if_pos rfl, own]
  exact ⟨rfl, rfl⟩

theorem isolating_other (dsa : Dsa) (id : Nat) (s : Switching β) {i : Port} (other : i ≠ port) :
    (isolating dsa port id s).port i = s.port i := by
  let t := named (withBridges s (id :: s.bridges)) port id none
  have silent : ¬ Rewrites dsa t port none i := fun acts => acts.2.1 other rfl
  have view : (isolating dsa port id s).port i = t.port i := if_neg silent
  rw [view]
  exact Function.update_of_ne other _ _

theorem isolating_portmap (id : Nat) (flag : Bool) (s : Switching β) :
    (flagged (isolating dsa port id s) port flag).portmap =
      Function.update s.portmap id (s.portmap id ||| bit (mxlPort port)) := by
  have own : (named (withBridges s (id :: s.bridges)) port id none).port port =
      { s.port port with bridgeId := id, bridge := none } := Function.update_self _ _ _
  show Function.update s.portmap ((named _ port id none).port port).bridgeId _ = _
  rw [own]
  rfl

theorem switching_isolatePort (fw : Firmware) (user : dsa.user port = true)
    (idle : (w.port port).isolated = false) :
    ∃ flag, (dsa.spTag = false → flag = true) ∧
      switching (isolatePort dsa fw port w) = flagged
        (isolating dsa port (fw.bridge w.commands w.bridges) (switching w)) port flag := by
  let id := fw.bridge w.commands w.bridges
  let w1 := (bridgeAlloc fw w).1.setPort port
    { w.port port with bridgeId := id, bridge := none }
  let w2 := updateBridgeConfPort dsa port none true w1
  have updated : switching w2 = isolating dsa port id (switching w) := by
    have alone : ∀ i, Counts dsa w1 port none i →
        (w1.port i).bridgeId = (w1.port port).bridgeId := by
      intro i counts
      have here : i = port := by
        by_contra other
        exact (counts.2 other).2 rfl
      rw [here]
    rw [switching_updateBridgeConfPort user alone]
    exact congrArg (fun s => s.update dsa port none true)
      (switching_named (bridgeAlloc fw w).1 port id none)
  have flag0 : ∀ s : Switching β, flagged s port (s.port port).isolated = s := by
    intro s
    rw [flagged, withView, Function.update_eq_self]
  have viewPort := isolating_self user id (switching w)
  have notIsolated : ¬ (w.port port).isolated = true := by simp [idle]
  unfold isolatePort
  rw [if_neg notIsolated]
  cases tagging : dsa.spTag with
  | false =>
    refine ⟨true, fun _ => rfl, ?_⟩
    show switching (w2.setPort port { w2.port port with isolated := true }) = _
    rw [switching_flagged, updated]
  | true =>
    let w3 := w2.setPort port { w2.port port with filtering := true }
    let added := portVlanAdd dsa fw port 1 true true w3
    let w4 := added.1.setPort port
      { added.1.port port with filtering := (w2.port port).filtering }
    have still3 : switching w3 = switching w2 := switching_setPort_same w2 port _ rfl rfl rfl
    have still : switching added.1 = switching w3 := by
      refine switching_portVlanAdd user ?_ ?_ 1 true true
      · rw [still3, updated]
        exact viewPort.1
      · rw [still3, updated]
        exact viewPort.2
    have restored : switching w4 = switching added.1 :=
      switching_setPort_same added.1 port _ rfl rfl rfl
    have still4 : switching w4 = isolating dsa port id (switching w) := by
      rw [restored, still, still3, updated]
    by_cases ret : added.2 = none
    · refine ⟨true, fun never => (nomatch never), ?_⟩
      show switching (if added.2 = none then w4.setPort port { w4.port port with isolated := true }
        else w4) = _
      rw [if_pos ret, switching_flagged, still4]
    · refine ⟨((isolating dsa port id (switching w)).port port).isolated,
        fun never => (nomatch never), ?_⟩
      show switching (if added.2 = none then w4.setPort port { w4.port port with isolated := true }
        else w4) = _
      rw [if_neg ret, still4, flag0]

/-- The ids that the switch hands out are new and below `MAX_BRIDGES`, as long as there
are any. -/
def BridgesFresh (fw : Firmware) : Prop :=
  ∀ n used, used.Nodup → (∀ id ∈ used, 0 < id ∧ id < maxBridges) → used.length < 16 →
    fw.bridge n used ∉ used ∧ 0 < fw.bridge n used ∧ fw.bridge n used < maxBridges

variable {on : Port → Prop}

omit [DecidableEq β] in
theorem chooses_new (inv : Inv dsa on (switching w)) (fresh : BridgesFresh fw) {bridge : Option β}
    (nobody : ∀ q b, on q → bridge = some b → ((switching w).port q).bridge ≠ some b) :
    Chooses on (switching w) bridge (fw.bridge w.commands w.bridges)
      (fw.bridge w.commands w.bridges :: w.bridges) := by
  obtain ⟨new, range⟩ := fresh w.commands w.bridges inv.nodup inv.ids inv.few
  exact .inr ⟨rfl, new, range, nobody⟩

theorem inv_isolatePort (inv : Inv dsa on (switching w)) (fresh : BridgesFresh fw)
    (user : dsa.user port = true) (off : ¬ on port) (idle : (w.port port).isolated = false) :
    Inv dsa (fun p => p = port ∨ on p) (switching (isolatePort dsa fw port w)) := by
  obtain ⟨flag, -, isolated⟩ := switching_isolatePort fw user idle
  rw [isolated]
  refine inv_flagged (inv.attach user off ?_) flag
  refine attaches_update inv user (chooses_new inv fresh ?_)
  exact fun _ _ _ never => nomatch never

/-! ## Setup -/

/-- What is set up once `done` are. -/
structure SetUp (dsa : Dsa) (done : List Port) (s : Switching β) : Prop where
  inv : Inv dsa (fun p => p ∈ done ∧ dsa.user p = true) s
  idle : ∀ p, p ∉ done → (s.port p).isolated = false
  isolated : dsa.spTag = false → ∀ p ∈ done, dsa.user p = true → (s.port p).isolated = true
  alone : ∀ p, (s.port p).bridge = none
  free : ∀ p, s.dsaBridge p = none
  /-- The map of bridge 0 is the CPU port's own. -/
  zero : (s.portmap 0).getLsbD (mxlPort dsa.cpuPort) = false

omit [DecidableEq β] in
theorem setUp_powerOn : SetUp dsa [] (switching (powerOn dsa : World β)) where
  inv := by
    refine ⟨?_, rfl, ?_, ?_, List.nodup_nil, ?_, ?_, ?_, ?_, ?_, ?_, ?_⟩
    · simp
    · simp
    · intro id member
      cases member
    · intro id member
      cases member
    · simp
    · intro id positive below k
      have map : (switching (powerOn dsa : World β)).portmap id = bit (mxlPort dsa.cpuPort) :=
        if_pos ⟨positive, below⟩
      rw [map, getLsbD_bit (mxlPort_lt _)]
      simp [BridgeLedger.Lists]
    · simp
    · simp
    · exact fun _ _ => rfl
    · simp
  idle _ _ := rfl
  isolated _ p member := absurd member List.not_mem_nil
  alone _ := rfl
  free _ := rfl
  zero := BitVec.getLsbD_zero

variable {done : List Port}

theorem setUp_isolatePort (up : SetUp dsa done (switching w)) (fresh : BridgesFresh fw)
    (user : dsa.user port = true) (new : port ∉ done) :
    SetUp dsa (port :: done) (switching (isolatePort dsa fw port w)) := by
  have idle := up.idle port new
  obtain ⟨flag, plain, isolated⟩ := switching_isolatePort fw user idle
  let id := fw.bridge w.commands w.bridges
  have self : (switching (isolatePort dsa fw port w)).port port =
      { (isolating dsa port id (switching w)).port port with isolated := flag } := by
    rw [isolated]
    exact Function.update_self _ _ _
  have other : ∀ i, i ≠ port →
      (switching (isolatePort dsa fw port w)).port i = (switching w).port i := by
    intro i apart
    rw [isolated, ← isolating_other dsa id (switching w) apart]
    exact Function.update_of_ne apart _ _
  have attached : (fun p => p ∈ port :: done ∧ dsa.user p = true) =
      fun p => p = port ∨ p ∈ done ∧ dsa.user p = true := by
    funext p
    rw [List.mem_cons, or_and_right, and_iff_left_of_imp (by rintro rfl; exact user)]
  refine ⟨?_, ?_, ?_, ?_, ?_, ?_⟩
  · rw [attached]
    exact inv_isolatePort up.inv fresh user (fun both => new both.1) idle
  · intro p outside
    rw [List.mem_cons, not_or] at outside
    rw [other p outside.1]
    exact up.idle p outside.2
  · intro proto p member userP
    by_cases here : p = port
    · rw [here, self]
      exact plain proto
    · rw [other p here]
      exact up.isolated proto p ((List.mem_cons.mp member).resolve_left here) userP
  · intro p
    by_cases here : p = port
    · rw [here, self]
      exact (isolating_self user id (switching w)).1
    · rw [other p here]
      exact up.alone p
  · intro p
    rw [isolated]
    exact up.free p
  · have positive : 0 < id :=
      (fresh w.commands w.bridges up.inv.nodup up.inv.ids up.inv.few).2.1
    have maps : (switching (isolatePort dsa fw port w)).portmap 0 = (switching w).portmap 0 := by
      rw [isolated, isolating_portmap]
      exact Function.update_of_ne positive.ne _ _
    rw [maps]
    exact up.zero

theorem setUp_setupPort (up : SetUp dsa done (switching w)) (fresh : BridgesFresh fw)
    (new : port ∉ done) : SetUp dsa (port :: done) (switching (setupPort dsa fw w port)) := by
  unfold setupPort
  split_ifs with user
  · have same : (fun p => p ∈ port :: done ∧ dsa.user p = true) =
        fun p => p ∈ done ∧ dsa.user p = true := by
      funext p
      rw [List.mem_cons, or_and_right, or_iff_right]
      rintro ⟨rfl, isUser⟩
      rw [isUser] at user
      cases user
    refine ⟨same ▸ up.inv, fun p outside => up.idle p (List.not_mem_of_not_mem_cons outside), ?_,
      up.alone, up.free, up.zero⟩
    intro proto p member userP
    have here : p ≠ port := by
      rintro rfl
      rw [userP] at user
      cases user
    exact up.isolated proto p ((List.mem_cons.mp member).resolve_left here) userP
  · have set := setUp_isolatePort up fresh (by simpa using user) new
    refine ⟨inv_congr set.inv (fun _ _ => rfl) set.inv.cpu ?_ rfl, set.idle, set.isolated,
      set.alone, set.free, ?_⟩
    · intro id positive
      exact Function.update_of_ne positive.ne' _ _
    · have apart : mxlPort dsa.cpuPort ≠ mxlPort port := (cpu_apart (by simpa using user)).symm
      let map := (isolatePort dsa fw port w).bridgePortmap 0
      have own : Function.update (isolatePort dsa fw port w).bridgePortmap 0
          (map ||| bit (mxlPort port)) 0 = map ||| bit (mxlPort port) := Function.update_self _ _ _
      have maps : (Function.update (isolatePort dsa fw port w).bridgePortmap 0
          (map ||| bit (mxlPort port)) 0).getLsbD (mxlPort dsa.cpuPort) = false := by
        rw [own, ← Bool.not_eq_true, getLsbD_or_bit, not_or, Bool.not_eq_true]
        exact ⟨set.zero, apart⟩
      exact maps

theorem setUp_foldl (fresh : BridgesFresh fw) (ports : List Port) (once : ports.Nodup)
    (new : ∀ p ∈ ports, p ∉ done) (w : World β) (up : SetUp dsa done (switching w)) :
    SetUp dsa (ports.reverse ++ done) (switching (ports.foldl (setupPort dsa fw) w)) := by
  induction ports generalizing done w with
  | nil => exact up
  | cons i rest ih =>
    rw [List.nodup_cons] at once
    rw [List.foldl_cons, List.reverse_cons, List.append_assoc]
    refine ih once.2 ?_ _ (setUp_setupPort up fresh (new i List.mem_cons_self))
    intro p member inside
    rcases List.mem_cons.mp inside with rfl | old
    · exact once.1 member
    · exact new p (List.mem_cons_of_mem _ member) old

/-! ## What holds between the calls -/

/-- The driver bridges in hardware, and without VLANs for the port. -/
def Plain (dsa : Dsa) : Prop := dsa.spTag = false ∧ dsa.forceIsolate = false

instance (dsa : Dsa) : Decidable (Plain dsa) := inferInstanceAs (Decidable (_ ∧ _))

structure Attached (dsa : Dsa) (s : Switching β) : Prop where
  inv : Inv dsa (fun p => dsa.user p = true) s
  isolated : dsa.spTag = false → ∀ p, dsa.user p = true →
    (s.port p).isolated = (s.port p).bridge.isNone
  known : ∀ p, s.dsaBridge p = (s.port p).bridge
  plain : Plain dsa ∨ ∀ p, s.dsaBridge p = none

structure Bridged (dsa : Dsa) (s : Switching β) : Prop where
  attached : Attached dsa s
  learning : ∀ p, dsa.user p = true → (s.port p).bridge ≠ none → (s.port p).learningOff = false

variable (β dsa) in
theorem setUp_ports (fresh : BridgesFresh fw) :
    SetUp dsa ((List.finRange maxPorts).reverse ++ []) (switching
      ((List.finRange maxPorts).foldl (setupPort dsa fw) (powerOn dsa : World β))) :=
  setUp_foldl fresh (List.finRange maxPorts) (List.nodup_finRange _)
    (fun _ _ => List.not_mem_nil) (powerOn dsa : World β) setUp_powerOn

theorem bridged_setup (fresh : BridgesFresh fw) :
    Bridged dsa (switching (setup dsa fw : World β)) := by
  let w := (List.finRange maxPorts).foldl (setupPort dsa fw) (powerOn dsa : World β)
  have up := setUp_ports β dsa fresh
  have every : ∀ p : Port, p ∈ (List.finRange maxPorts).reverse ++ [] := by simp
  have views : ∀ p, p ≠ dsa.cpuPort →
      (switching (setup dsa fw : World β)).port p = (switching w).port p := by
    intro p other
    have apart : mxlPort p ≠ mxlPort dsa.cpuPort := fun same => other (mxlPort_injective same)
    show viewOf (w.port p) (Function.update w.bridgePort (mxlPort dsa.cpuPort) _ (mxlPort p)) = _
    rw [Function.update_of_ne apart]
    rfl
  have userViews : ∀ p, dsa.user p = true →
      (switching (setup dsa fw : World β)).port p = (switching w).port p := by
    intro p user
    refine views p ?_
    rintro rfl
    rw [dsa.cpuNotUser] at user
    cases user
  have alone : ∀ p, ((switching (setup dsa fw : World β)).port p).bridge = none := up.alone
  refine ⟨⟨?_, ?_, fun p => (up.free p).trans (alone p).symm, .inr up.free⟩, ?_⟩
  · have users : (fun p => p ∈ (List.finRange maxPorts).reverse ++ [] ∧ dsa.user p = true) =
        fun p => dsa.user p = true := by
      funext p
      exact propext (and_iff_right (every p))
    exact inv_congr (users ▸ up.inv) userViews (alone _) (fun _ _ => rfl) rfl
  · intro proto p user
    rw [alone, userViews p user]
    exact up.isolated proto p (every p) user
  · intro p _ given
    exact absurd (alone p) given

/-! ## A port that stops being alone -/

omit [DecidableEq β] in
theorem switching_andThen (first second : World β → World β × Option VlanBlock.Errno)
    (one : ∀ w, switching (first w).1 = switching w)
    (two : ∀ w, switching (second w).1 = switching w) (w : World β) :
    switching (andThen first second w).1 = switching w := by
  have kept : ∀ w', switching w' = switching w →
      switching (andThen first second w').1 = switching w :=
    andThen_holds (fun w' still => (one w').trans still) (fun w' still => (two w').trans still)
  exact kept w rfl

theorem update_record (dsa : Dsa) (port : Port) (s : Switching β) (bridge : Option β)
    (action : Bool) (p : Port) :
    ((s.update dsa port bridge action).port p).bridgeId = (s.port p).bridgeId ∧
      ((s.update dsa port bridge action).port p).bridge = (s.port p).bridge ∧
      ((s.update dsa port bridge action).port p).isolated = (s.port p).isolated ∧
      ((s.update dsa port bridge action).port p).higher = (s.port p).higher := by
  have kept : ∀ view : PortView β, view = s.port p ∨
      (∃ portmap, view = (s.port p).rewrite dsa portmap port bridge action p) →
      view.bridgeId = (s.port p).bridgeId ∧ view.bridge = (s.port p).bridge ∧
        view.isolated = (s.port p).isolated ∧ view.higher = (s.port p).higher := by
    rintro view (rfl | ⟨portmap, rfl⟩)
    · exact ⟨rfl, rfl, rfl, rfl⟩
    · unfold PortView.rewrite
      split <;> exact ⟨rfl, rfl, rfl, rfl⟩
  apply kept
  by_cases acts : Rewrites dsa s port bridge p
  · exact .inr ⟨_, if_pos acts⟩
  · exact .inl (if_neg acts)

/-- Taking the isolation back: the port is detached from its own id, which is freed. -/
def deisolating (dsa : Dsa) (port : Port) (s : Switching β) : Switching β :=
  flagged (withBridges (s.update dsa port none false)
    (s.bridges.filter (· ≠ (s.port port).bridgeId))) port false

theorem switching_deisolatePort (user : dsa.user port = true)
    (isolated : (w.port port).isolated = true) :
    switching (deisolatePort dsa port w) = deisolating dsa port (switching w) := by
  let w1 := updateBridgeConfPort dsa port none false w
  have alone : ∀ i, Counts dsa w port none i → (w.port i).bridgeId = (w.port port).bridgeId := by
    intro i counts
    have here : i = port := by
      by_contra other
      exact (counts.2 other).2 rfl
    rw [here]
  have updated : switching w1 = (switching w).update dsa port none false :=
    switching_updateBridgeConfPort user alone
  have id : (w1.port port).bridgeId = ((switching w).port port).bridgeId := by
    show ((switching w1).port port).bridgeId = _
    rw [updated, (update_record _ _ _ _ _ _).1]
  let w2 := bridgeFree (w1.port port).bridgeId w1
  have freed : switching w2 = withBridges ((switching w).update dsa port none false)
      (w.bridges.filter (· ≠ ((switching w).port port).bridgeId)) := by
    rw [← updated, ← id]
    have bridges : w1.bridges = w.bridges := congrArg Switching.bridges updated
    rw [← bridges]
    rfl
  have cleared : ∀ w3 : World β, switching w3 = switching w2 →
      switching (w3.setPort port { w3.port port with isolated := false }) =
        deisolating dsa port (switching w) := by
    intro w3 same
    rw [switching_flagged, same, freed]
    rfl
  have notIdle : ¬ (w.port port).isolated = false := by simp [isolated]
  unfold deisolatePort
  rw [if_neg notIdle]
  cases tagging : dsa.spTag with
  | false => exact cleared w2 rfl
  | true =>
    refine cleared _ ?_
    exact switching_andThen (onBlock port .ingress (VlanBlock.vlanDelDirection 1))
      (onBlock port .egress (VlanBlock.vlanDelDirection 1)) (fun _ => rfl) (fun _ => rfl) w2

end Isolation

end OpenwrtSource.Mxl862xx.BridgeIsolation
