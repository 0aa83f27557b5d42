import OpenwrtSource.Mxl862xx.BridgeRuns

/-!
# What the switch forwards

Between the calls the maps, the learning and the allocated ids are as the bridges
are, in the runs where no port joins under 802.1Q tagging and where a port leaves only
when nobody else is in a bridge.  Under `force_isolate` every port stays alone.
-/

namespace OpenwrtSource.Mxl862xx.BridgeGuarantee

open Lib.Run Lib.TableFold
open Mxl862xx.Driver Mxl862xx.BridgeMaps
open Mxl862xx.BridgeLedger Mxl862xx.BridgeIsolation
open Mxl862xx.BridgeRuns
open Mxl862xx.VlanOwnership (lan lowestFree lowest oneUser)

variable {β : Type} [DecidableEq β] {dsa : Dsa} {fw : Firmware} {port : Port} {bridge : β}
  {w : World β}

/-! ## Forced isolation

A leave still runs, but it finds no port in the bridge: it is the software map that it
changes, and no map in the switch. -/

def withPortmap (s : Switching β) (portmap : Nat → BitVec 16) : Switching β :=
  { s with portmap := portmap }

/-- The ports are alone; their software maps do not matter. -/
structure Forced (dsa : Dsa) (s : Switching β) : Prop where
  inv : ∃ portmap, Inv dsa (fun p => dsa.user p = true) (withPortmap s portmap)
  alone : ∀ p, (s.port p).bridge = none
  zero : (s.portmap 0).getLsbD (mxlPort dsa.cpuPort) = false

theorem switching_update_alone (dsa : Dsa) (port : Port) (bridge : β)
    (positive : ∀ i, dsa.user i = true → (w.port i).bridgeId ≠ 0)
    (alone : ∀ i, (w.port i).bridge = none) (action : Bool) :
    ∃ portmap, switching (updateBridgeConfPort dsa port (some bridge) action w) =
      withPortmap (switching w) portmap ∧ portmap 0 = w.bridgePortmap 0 := by
  let portmap := (List.finRange maxPorts).foldl (updatePortmap dsa w port (some bridge) action)
    w.bridgePortmap
  let w' : World β := { w with bridgePortmap := portmap }
  have silent : ∀ i, updatePort dsa port (some bridge) action w' i = w' := by
    intro i
    unfold updatePort
    dsimp only
    split_ifs with unused single member
    · rfl
    · rfl
    · rfl
    · exact absurd ⟨Option.some_ne_none bridge, alone i⟩ member
    · exact absurd ⟨Option.some_ne_none bridge, alone i⟩ member
  have looped : (List.finRange maxPorts).foldl (updatePort dsa port (some bridge) action) w' = w' :=
    List.foldl_fixed' silent _
  have frame : ∀ table i, updatePortmap dsa w port (some bridge) action table i 0 = table 0 := by
    intro table i
    unfold updatePortmap
    split_ifs with unused
    · rfl
    · rfl
    · rfl
    · exact Function.update_of_ne (positive i (by simpa using unused)).symm _ _
    · exact Function.update_of_ne (positive i (by simpa using unused)).symm _ _
  refine ⟨portmap, ?_, ?_⟩
  · unfold updateBridgeConfPort
    change switching (if dsa.spTag = true then updateCpuBridgePort dsa port action
      ((List.finRange maxPorts).foldl (updatePort dsa port (some bridge) action) w')
      else (List.finRange maxPorts).foldl (updatePort dsa port (some bridge) action) w') = _
    rw [looped]
    split_ifs
    · exact switching_updateCpuBridgePort w'
    · rfl
  · exact foldl_frame (fun table : Nat → BitVec 16 => table 0) _ frame _ w.bridgePortmap

omit [DecidableEq β] in
theorem Forced.positive {s : Switching β} (forced : Forced dsa s) {p : Port}
    (user : dsa.user p = true) : 0 < (s.port p).bridgeId := by
  obtain ⟨portmap, inv⟩ := forced.inv
  exact (inv.ids _ (inv.own p user)).1

theorem forced_left (fw : Firmware) (port : Port) (bridge : β) (forced : Forced dsa (switching w)) :
    ∃ w1 : World β, portBridgeLeave dsa fw port bridge w =
        (isolatePort dsa fw port w1).setPort port
          { (isolatePort dsa fw port w1).port port with filteringModeLocked := false } ∧
      ∃ portmap, switching w1 = withPortmap (switching w) portmap ∧
        portmap 0 = w.bridgePortmap 0 := by
  let w1 := updateBridgeConfPort dsa port (some bridge) false w
  obtain ⟨portmap, updated, zero⟩ := switching_update_alone dsa port bridge
    (fun i user => (forced.positive user).ne') forced.alone false
  have found : findBridgeId dsa w bridge = 0 := by
    obtain ⟨q, -, member, -⟩ | ⟨-, id⟩ :=
      findBridgeId_cases dsa bridge w (forced.alone dsa.cpuPort)
    · have alone : (w.port q).bridge = none := forced.alone q
      rw [alone] at member
      cases member
    · exact id
  have maps : w1.bridgePortmap = portmap := congrArg Switching.portmap updated
  have held : w1.bridgePortmap (findBridgeId dsa w bridge) ≠ bit (mxlPort dsa.cpuPort) := by
    intro same
    have unset : (w.bridgePortmap 0).getLsbD (mxlPort dsa.cpuPort) = false := forced.zero
    rw [found, maps, zero] at same
    rw [same, getLsbD_bit (mxlPort_lt _)] at unset
    simp at unset
  refine ⟨w1, ?_, portmap, updated, zero⟩
  unfold portBridgeLeave
  dsimp only
  rw [if_neg held]

theorem forced_leave (fw : Firmware) (bridge : β) (forced : Forced dsa (switching w))
    (isolated : (w.port port).isolated = true) :
    ∃ portmap, switching (portBridgeLeave dsa fw port bridge w) =
        withPortmap (switching w) portmap ∧ portmap 0 = w.bridgePortmap 0 := by
  obtain ⟨w1, left, portmap, updated, zero⟩ := forced_left fw port bridge forced
  have still : (w1.port port).isolated = true := by
    have same : ((switching w1).port port).isolated = (w.port port).isolated := by
      rw [updated]
      rfl
    exact same.trans isolated
  have unchanged : isolatePort dsa fw port w1 = w1 := if_pos still
  refine ⟨portmap, ?_, zero⟩
  rw [left, unchanged, ← updated]
  exact switching_setPort_same w1 port _ rfl rfl rfl

theorem forced_leaks (bridge : β) (forced : Forced dsa (switching w)) (fresh : BridgesFresh fw)
    (user : dsa.user port = true) (idle : (w.port port).isolated = false) :
    ∃ id ∈ (portBridgeLeave dsa fw port bridge w).bridges, ∀ p, dsa.user p = true →
      ((portBridgeLeave dsa fw port bridge w).port p).bridgeId ≠ id := by
  obtain ⟨w1, left, portmap, updated, -⟩ := forced_left fw port bridge forced
  obtain ⟨book, inv⟩ := forced.inv
  have ports : ∀ p, (switching w1).port p = (switching w).port p := by
    intro p
    rw [updated]
    rfl
  have bridges : w1.bridges = w.bridges := congrArg Switching.bridges updated
  have still : (w1.port port).isolated = false :=
    (congrArg PortView.isolated (ports port)).trans idle
  let id := fw.bridge w1.commands w1.bridges
  obtain ⟨flag, -, isolated⟩ := switching_isolatePort fw (w := w1) user still
  have new : id ∉ w.bridges := by
    rw [← bridges]
    refine (fresh w1.commands w1.bridges ?_ ?_ ?_).1
    · exact bridges ▸ inv.nodup
    · exact bridges ▸ inv.ids
    · exact bridges ▸ inv.few
  have after : switching (portBridgeLeave dsa fw port bridge w) =
      switching (isolatePort dsa fw port w1) := by
    rw [left]
    exact switching_setPort_same _ port _ rfl rfl rfl
  have listed : (portBridgeLeave dsa fw port bridge w).bridges = id :: w.bridges := by
    have same := congrArg Switching.bridges (after.trans isolated)
    rw [← bridges]
    exact same
  have self : ((portBridgeLeave dsa fw port bridge w).port port).bridgeId = id := by
    have view : ((switching (portBridgeLeave dsa fw port bridge w)).port port).bridgeId =
        ((isolating dsa port id (switching w1)).port port).bridgeId := by
      rw [after, isolated, flagged, withView_self]
    refine view.trans ((update_record dsa port _ none true port).1.trans ?_)
    rw [named, withView_self]
  have other : ∀ p, p ≠ port →
      ((portBridgeLeave dsa fw port bridge w).port p).bridgeId = (w.port p).bridgeId := by
    intro p apart
    have view : (switching (portBridgeLeave dsa fw port bridge w)).port p =
        (switching w).port p := by
      rw [after, isolated, flagged, withView_other _ _ apart, isolating_other dsa id _ apart, ports]
    exact congrArg PortView.bridgeId view
  refine ⟨(w.port port).bridgeId, ?_, fun p userP same => ?_⟩
  · rw [listed]
    exact List.mem_cons_of_mem _ (inv.own port user)
  · by_cases here : p = port
    · rw [here, self] at same
      exact new (same ▸ inv.own port user)
    · rw [other p here] at same
      obtain ⟨b, member, -⟩ := (inv.same p port here userP user).mp same
      have alone := forced.alone p
      change (w.port p).bridge = some b at member
      change (w.port p).bridge = none at alone
      rw [alone] at member
      cases member

/-- The bridge that a port is in: `force_isolate` ignores the joins. -/
def bridgeOf (dsa : Dsa) (w : World β) (p : Port) : Option β :=
  if dsa.forceIsolate then none else w.dsaBridge p

def Together (dsa : Dsa) (w : World β) (p q : Port) : Prop :=
  ∃ b, bridgeOf dsa w p = some b ∧ bridgeOf dsa w q = some b

/-- The bridge ports that are to be in the map of `p`. -/
def Reaches (dsa : Dsa) (w : World β) (p : Port) (k : Nat) : Prop :=
  k = mxlPort dsa.cpuPort ∨ ∃ q, dsa.user q = true ∧ Together dsa w p q ∧
    (q ≠ p ∧ k = mxlPort q ∨ dsa.spTag = true ∧ k = mxlPort q + 16)

/-- Bit `k` of the port map that the switch has. -/
def forwards (config : BridgePortConfig) (k : Nat) : Bool :=
  if k < 16 then config.bridgePortMap.getLsbD k else config.higherPortMap.getLsbD (k - 16)

structure Meets (dsa : Dsa) (w : World β) : Prop where
  maps : ∀ p, dsa.user p = true → ∀ k,
    (forwards (w.bridgePort (mxlPort p)) k = true ↔ Reaches dsa w p k)
  apart : ∀ p q, dsa.user p = true → dsa.user q = true → p ≠ q → ¬ Together dsa w p q →
    forwards (w.bridgePort (mxlPort p)) (mxlPort q) = false
  learning : ∀ p, dsa.user p = true →
    ((w.bridgePort (mxlPort p)).srcMacLearningDisable = false ↔ (bridgeOf dsa w p).isSome = true)
  freed : ∀ id ∈ w.bridges, ∃ p, dsa.user p = true ∧ (w.port p).bridgeId = id

omit [DecidableEq β] in
theorem reaches_user {p q : Port} (userQ : dsa.user q = true)
    (reaches : Reaches dsa w p (mxlPort q)) : Together dsa w p q := by
  obtain isCpu | ⟨r, -, together, ⟨-, place⟩ | ⟨-, place⟩⟩ := reaches
  · exact absurd isCpu (cpu_apart userQ)
  · rw [mxlPort_injective place]
    exact together
  · have below := mxlPort_lt q
    omega

omit [DecidableEq β] in
theorem meets_of_inv (portmap : Nat → BitVec 16)
    (inv : Inv dsa (fun p => dsa.user p = true) (withPortmap (switching w) portmap))
    (known : ∀ p, bridgeOf dsa w p = (w.port p).bridge)
    (learning : ∀ p, dsa.user p = true → (w.port p).bridge ≠ none →
      (w.bridgePort (mxlPort p)).srcMacLearningDisable = false)
    (proto : dsa.spTag = false ∨ ∀ p, bridgeOf dsa w p = none) : Meets dsa w := by
  have together : ∀ p q,
      Together dsa w p q ↔ SameBridge (withPortmap (switching w) portmap) p q := by
    intro p q
    rw [Together, known, known]
    rfl
  have maps : ∀ p, dsa.user p = true → ∀ k,
      (forwards (w.bridgePort (mxlPort p)) k = true ↔ Reaches dsa w p k) := by
    intro p user k
    have noCpuPort : ∀ q, Together dsa w p q → dsa.spTag = false := by
      rintro q ⟨b, member, -⟩
      refine proto.resolve_right fun nobody => ?_
      rw [nobody p] at member
      cases member
    by_cases low : k < 16
    · obtain ⟨positive, below⟩ := inv.ids _ (inv.own p user)
      have map : (w.bridgePort (mxlPort p)).bridgePortMap =
          portmap (w.port p).bridgeId &&& ~~~ bit (mxlPort p) := inv.maps p user
      rw [forwards, if_pos low, map, getLsbD_and_not_bit]
      refine (and_congr_left' (inv.members _ positive below k)).trans ?_
      constructor
      · rintro ⟨isCpu | ⟨q, userQ, id, place⟩, apart⟩
        · exact .inl isCpu
        · have other : q ≠ p := by
            rintro rfl
            exact apart place
          refine .inr ⟨q, userQ, (together p q).mpr ?_, .inl ⟨other, place⟩⟩
          exact (inv.same p q other.symm user userQ).mp id.symm
      · rintro (isCpu | ⟨q, userQ, both, ⟨other, place⟩ | ⟨-, place⟩⟩)
        · refine ⟨.inl isCpu, ?_⟩
          rw [isCpu]
          exact (cpu_apart user).symm
        · refine ⟨.inr ⟨q, userQ, ?_, place⟩, ?_⟩
          · exact ((inv.same p q other.symm user userQ).mpr ((together p q).mp both)).symm
          · rw [place]
            exact fun same => other (mxlPort_injective same)
        · omega
    · have high : (w.bridgePort (mxlPort p)).higherPortMap = 0 := inv.higher p user
      rw [forwards, if_neg low, high]
      refine iff_of_false (by simp) ?_
      rintro (isCpu | ⟨q, -, both, ⟨-, place⟩ | ⟨tagging, -⟩⟩)
      · have below := mxlPort_lt dsa.cpuPort
        omega
      · have below := mxlPort_lt q
        omega
      · rw [noCpuPort q both] at tagging
        cases tagging
  refine ⟨maps, fun p q user userQ _ apart => ?_, fun p user => ?_, inv.used⟩
  · rw [← Bool.not_eq_true, maps p user]
    exact fun reaches => apart (reaches_user userQ reaches)
  · rw [known, Option.isSome_iff_ne_none]
    constructor
    · intro on alone
      have off : (w.bridgePort (mxlPort p)).srcMacLearningDisable = true :=
        inv.standalone p user alone
      rw [on] at off
      cases off
    · exact learning p user

def Kept (dsa : Dsa) (w : World β) : Prop :=
  if dsa.forceIsolate then Forced dsa (switching w) else Bridged dsa (switching w)

omit [DecidableEq β] in
theorem meets_of_kept (kept : Kept dsa w) : Meets dsa w := by
  unfold Kept at kept
  split_ifs at kept with forced
  · obtain ⟨portmap, inv⟩ := kept.inv
    have nobody : ∀ p, bridgeOf dsa w p = none := fun p => if_pos forced
    refine meets_of_inv portmap inv (fun p => (nobody p).trans (kept.alone p).symm) ?_ (.inr nobody)
    exact fun p _ member => absurd (kept.alone p) member
  · have follows : ∀ p, bridgeOf dsa w p = w.dsaBridge p := fun p => if_neg forced
    refine meets_of_inv w.bridgePortmap kept.attached.inv
      (fun p => (follows p).trans (kept.attached.known p)) kept.learning ?_
    refine kept.attached.plain.imp (fun plain => plain.1) fun nobody p => ?_
    exact (follows p).trans (nobody p)

theorem kept_setup (fresh : BridgesFresh fw) : Kept dsa (setup dsa fw : World β) := by
  have bridged : Bridged dsa (switching (setup dsa fw : World β)) := bridged_setup fresh
  unfold Kept
  split_ifs
  · have up := setUp_ports β dsa fresh
    exact ⟨⟨_, bridged.attached.inv⟩, up.alone, up.zero⟩
  · exact bridged

inductive Move (β : Type)
  | join (port : Port) (bridge : β)
  | leave (port : Port)

def move (dsa : Dsa) (fw : Firmware) (w : World β) : Move β → World β
  | .join port bridge => call dsa fw w (.join port bridge)
  | .leave port => call dsa fw w (.leave port)

/-- No port is put into a bridge under 802.1Q tagging, and none is taken out while another
is in any; under `force_isolate` it has to be isolated. -/
def Fits (dsa : Dsa) (w : World β) : Move β → Prop
  | .join port _ => dsa.user port = true → w.dsaBridge port = none →
      dsa.forceIsolate = true ∨ dsa.spTag = false
  | .leave port => dsa.user port = true → w.dsaBridge port ≠ none →
      if dsa.forceIsolate then (w.port port).isolated = true
      else ∀ q, q ≠ port → dsa.user q = true → w.dsaBridge q = none

instance decidableFits (dsa : Dsa) (w : World β) : ∀ m : Move β, Decidable (Fits dsa w m)
  | .join port _ => inferInstanceAs (Decidable (dsa.user port = true → w.dsaBridge port = none → _))
  | .leave port => inferInstanceAs (Decidable (dsa.user port = true → w.dsaBridge port ≠ none →
      if dsa.forceIsolate then (w.port port).isolated = true
      else ∀ q, q ≠ port → dsa.user q = true → w.dsaBridge q = none))

omit [DecidableEq β] in
theorem Forced.known (forced : Forced dsa (switching w)) {s : Switching β}
    (port : s.port = (switching w).port) (bridges : s.bridges = w.bridges)
    (zero : s.portmap 0 = w.bridgePortmap 0) : Forced dsa s := by
  obtain ⟨portmap, inv⟩ := forced.inv
  refine ⟨⟨portmap, ?_⟩, ?_, ?_⟩
  · refine inv_congr inv ?_ ?_ (fun _ _ => rfl) bridges
    · exact fun p _ => congrFun port p
    · exact (congrArg PortView.bridge (congrFun port dsa.cpuPort)).trans (forced.alone _)
  · intro p
    rw [port]
    exact forced.alone p
  · rw [zero]
    exact forced.zero

theorem kept_join (fresh : BridgesFresh fw) (kept : Kept dsa w)
    (fits : Fits dsa w (.join port bridge)) : Kept dsa (move dsa fw w (.join port bridge)) := by
  unfold move call
  dsimp only
  split_ifs with effective
  · obtain ⟨user, free⟩ := effective
    unfold Kept at kept ⊢
    by_cases forced : dsa.forceIsolate = true
    · rw [if_pos forced] at kept ⊢
      have ignored : portBridgeJoin dsa fw port bridge (setDsaBridge port (some bridge) w) =
          setDsaBridge port (some bridge) w := if_pos forced
      rw [ignored]
      exact kept.known rfl rfl rfl
    · rw [if_neg forced] at kept ⊢
      have plain : Plain dsa :=
        ⟨(fits user free).resolve_left forced, by simpa using forced⟩
      exact bridged_join fresh plain kept user free
  · exact kept

theorem kept_leave (fresh : BridgesFresh fw) (kept : Kept dsa w)
    (fits : Fits dsa w (.leave port)) : Kept dsa (move dsa fw w (.leave port)) := by
  unfold move call
  dsimp only
  split
  · exact kept
  · rename_i bridge member
    split_ifs with user
    · have given : w.dsaBridge port ≠ none := by
        rw [member]
        exact Option.some_ne_none bridge
      have fitting := fits user given
      unfold Kept at kept ⊢
      by_cases forced : dsa.forceIsolate = true
      · rw [if_pos forced] at kept fitting ⊢
        have kept0 : Forced dsa (switching (setDsaBridge port none w)) := kept.known rfl rfl rfl
        obtain ⟨portmap, left, zero⟩ :=
          forced_leave fw bridge kept0 fitting
        rw [left]
        exact kept.known rfl rfl zero
      · rw [if_neg forced] at kept fitting ⊢
        have plain : Plain dsa := kept.attached.plain.resolve_right fun nobody =>
          given (nobody port)
        obtain ⟨attached, dsaBridge, -⟩ := attached_leave fresh plain kept.attached user member
        refine ⟨attached, fun p userP inside => ?_⟩
        have alone : ∀ q, dsa.user q = true → (switching
            (portBridgeLeave dsa fw port bridge (setDsaBridge port none w))).dsaBridge q = none := by
          intro q userQ
          rw [dsaBridge]
          by_cases here : q = port
          · rw [here, Function.update_self]
          · rw [Function.update_of_ne here]
            exact fitting q here userQ
        exact absurd ((attached.known p).symm.trans (alone p userP)) inside
    · exact kept

theorem kept_move (fresh : BridgesFresh fw) (m : Move β) (kept : Kept dsa w)
    (fits : Fits dsa w m) : Kept dsa (move dsa fw w m) := by
  cases m with
  | join port bridge => exact kept_join fresh kept fits
  | leave port => exact kept_leave fresh kept fits

theorem lost_join (kept : Kept dsa w) (unfit : ¬ Fits dsa w (.join port bridge)) :
    ¬ Meets dsa (move dsa fw w (.join port bridge)) := by
  simp only [Fits, Classical.not_imp, not_or, Bool.not_eq_true, Bool.not_eq_false] at unfit
  obtain ⟨user, free, follows, tagging⟩ := unfit
  let w' := portBridgeJoin dsa fw port bridge (setDsaBridge port (some bridge) w)
  have moved : move dsa fw w (.join port bridge) = w' := if_pos ⟨user, free⟩
  have bridged : Bridged dsa (switching w) := by
    have notForced : ¬ dsa.forceIsolate = true := by simp [follows]
    rw [Kept, if_neg notForced] at kept
    exact kept
  have nobody : ∀ p, w.dsaBridge p = none := by
    refine bridged.attached.plain.resolve_left fun plain => ?_
    rw [plain.1] at tagging
    cases tagging
  obtain ⟨higher, dsaBridge⟩ :=
    join_higher fw bridge follows user nobody
  rw [moved]
  intro meets
  have member : bridgeOf dsa w' port = some bridge := by
    have own : w'.dsaBridge port = some bridge := by
      have table : w'.dsaBridge = Function.update w.dsaBridge port (some bridge) := dsaBridge
      rw [table, Function.update_self]
    rw [bridgeOf, follows]
    exact own
  have reaches : Reaches dsa w' port (mxlPort port + 16) :=
    .inr ⟨port, user, ⟨bridge, member, member⟩, .inr ⟨tagging, rfl⟩⟩
  have unset : (w'.bridgePort (mxlPort port)).higherPortMap = 0 :=
    higher.trans (bridged.attached.inv.higher port user)
  have set := (meets.maps port user _).mpr reaches
  have large : ¬ mxlPort port + 16 < 16 := by omega
  rw [forwards, if_neg large, unset] at set
  simp at set

theorem lost_leave (fresh : BridgesFresh fw) (kept : Kept dsa w)
    (unfit : ¬ Fits dsa w (.leave port)) : ¬ Meets dsa (move dsa fw w (.leave port)) := by
  simp only [Fits, Classical.not_imp] at unfit
  obtain ⟨user, given, unfit⟩ := unfit
  obtain ⟨bridge, member⟩ := Option.ne_none_iff_exists'.mp given
  let w' := portBridgeLeave dsa fw port bridge (setDsaBridge port none w)
  have moved : move dsa fw w (.leave port) = w' := by
    unfold move call
    simp only [member, user, if_true]
    rfl
  rw [moved]
  intro meets
  unfold Kept at kept
  by_cases forced : dsa.forceIsolate = true
  · rw [if_pos forced] at kept unfit
    have kept0 : Forced dsa (switching (setDsaBridge port none w)) := kept.known rfl rfl rfl
    obtain ⟨id, listed, unused⟩ :=
      forced_leaks bridge kept0 fresh user (Bool.eq_false_of_not_eq_true unfit)
    obtain ⟨p, userP, own⟩ := meets.freed id listed
    exact unused p userP own
  · rw [if_neg forced] at kept unfit
    simp only [not_forall] at unfit
    obtain ⟨q, other, userQ, inside⟩ := unfit
    have plain : Plain dsa := kept.attached.plain.resolve_right fun nobody => given (nobody port)
    obtain ⟨-, dsaBridge, stopped⟩ := attached_leave fresh plain kept.attached user member
    have still : bridgeOf dsa w' q = w.dsaBridge q := by
      have table : w'.dsaBridge = Function.update w.dsaBridge port none := dsaBridge
      rw [bridgeOf, if_neg forced, table, Function.update_of_ne other]
    have on : (w'.bridgePort (mxlPort q)).srcMacLearningDisable = false := by
      rw [meets.learning q userQ, still]
      exact Option.isSome_iff_ne_none.mpr inside
    have off : (w'.bridgePort (mxlPort q)).srcMacLearningDisable = true :=
      stopped q other userQ inside
    rw [on] at off
    cases off

theorem lost_move (fresh : BridgesFresh fw) (m : Move β) (kept : Kept dsa w)
    (unfit : ¬ Fits dsa w m) : ¬ Meets dsa (move dsa fw w m) := by
  cases m with
  | join port bridge => exact lost_join kept unfit
  | leave port => exact lost_leave fresh kept unfit

/-- After each call the switch has the maps and the learning that the bridges call for, and
no id is left over, in exactly the runs of fitting moves. -/
theorem isolated_bridges_iff (dsa : Dsa) (fw : Firmware) (fresh : BridgesFresh fw)
    (moves : List (Move β)) :
    (∀ n, Meets dsa (run (move dsa fw) (setup dsa fw) (moves.take n))) ↔
      Along (move dsa fw) (Fits dsa) (setup dsa fw) moves :=
  always_iff_along (move dsa fw) (Fits dsa) (Kept dsa) (Meets dsa) (fun _ => meets_of_kept)
    (fun _ m => kept_move fresh m) (fun _ m => lost_move fresh m) (setup dsa fw) moves
    (kept_setup fresh)

def lan2 : Port := ⟨1, by decide⟩

def lan3 : Port := ⟨2, by decide⟩

def threeUsers : Dsa :=
  { oneUser false with
    user := fun q => decide (q.val < 3)
    cpuNotUser := by decide }

theorem bridgesFresh_lowest : BridgesFresh lowest := by
  intro n used once range few
  show lowestFree used ∉ used ∧ 0 < lowestFree used ∧ lowestFree used < maxBridges
  let ids := (List.range 16).map (· + 1)
  have distinct : ids.Nodup := by decide
  cases found : ids.find? fun id => !used.contains id with
  | some id =>
    have first : lowestFree used = id := by
      show (ids.find? fun id => !used.contains id).getD (used.sum + 1) = id
      rw [found]
      rfl
    have inside := List.mem_of_find?_eq_some found
    have new := List.find?_some found
    obtain ⟨m, below, rfl⟩ := List.mem_map.mp inside
    rw [List.mem_range] at below
    rw [first]
    refine ⟨by simpa using new, by omega, ?_⟩
    show m + 1 < 17
    omega
  | none =>
    have every : ids ⊆ used := by
      intro id member
      simpa using List.find?_eq_none.mp found id member
    have counted := (distinct.subperm every).length_le
    have sixteen : ids.length = 16 := by decide
    omega

/-- Two ports in one bridge, one in another, and a port that leaves when it is the last. -/
def separateBridges : List (Move Bool) :=
  [.join lan true, .leave lan, .join lan true, .join lan2 true, .join lan3 false]

theorem isolated_bridges_separate :
    Along (move threeUsers lowest) (Fits threeUsers) (setup threeUsers lowest) separateBridges ∧
      Meets threeUsers
        (run (move threeUsers lowest) (setup threeUsers lowest) separateBridges) := by
  have fits : Along (move threeUsers lowest) (Fits threeUsers) (setup threeUsers lowest)
      separateBridges := by decide
  have every :=
    (isolated_bridges_iff threeUsers lowest bridgesFresh_lowest separateBridges).mpr fits
  exact ⟨fits, every 5⟩

/-- Two ports join a bridge and one leaves it: the other no longer learns. -/
theorem leave_stops_learning :
    BridgesFresh lowest ∧ ¬ Meets threeUsers (run (move threeUsers lowest) (setup threeUsers lowest)
      [.join lan true, .join lan2 true, .leave lan]) := by
  refine ⟨bridgesFresh_lowest, fun meets => ?_⟩
  have inside := (meets.learning lan2 (by decide)).mpr (by decide)
  revert inside
  decide

end OpenwrtSource.Mxl862xx.BridgeGuarantee
