import OpenwrtSource.Lib.TableFold
import OpenwrtSource.Mxl862xx.Driver

/-!
# What a bridge update writes

The part of the driver and of the switch that bridging is about, and the update of the
port maps as one function on it: one bit of one software map, and the maps of the
ports that the update does not skip.
-/

namespace OpenwrtSource.Mxl862xx.BridgeMaps

open Lib.TableFold Mxl862xx.Driver

theorem mxlPort_lt (port : Port) : mxlPort port < 16 := by
  have below : port.val < 15 := port.isLt
  rw [mxlPort]
  omega

theorem mxlPort_injective {p q : Port} (same : mxlPort p = mxlPort q) : p = q := by
  simp only [mxlPort] at same
  exact Fin.ext (by omega)

theorem getLsbD_bit {n : Nat} (small : n < 16) (k : Nat) : (bit n).getLsbD k = decide (k = n) := by
  rw [bit, BitVec.getLsbD_shiftLeft, BitVec.getLsbD_one]
  by_cases same : k = n
  · subst same
    simp [small]
  · have apart : ¬ (n ≤ k ∧ k - n = 0) := by omega
    by_cases below : k < n
    · simp [below, same]
    · have nonzero : k - n ≠ 0 := by omega
      simp [nonzero, same]

theorem bit_eq_zero {n : Nat} (large : 16 ≤ n) : bit n = 0#16 :=
  BitVec.shiftLeft_eq_zero large

/-- A port's record, and its bridge port in the switch. -/
structure PortView (β : Type) where
  bridgeId : Nat
  bridge : Option β
  isolated : Bool
  switchId : Nat
  map : BitVec 16
  higher : BitVec 112
  learningOff : Bool

structure Switching (β : Type) where
  port : Port → PortView β
  portmap : Nat → BitVec 16
  bridges : List Nat
  dsaBridge : Port → Option β

variable {β : Type}

def viewOf (info : PortInfo β) (config : BridgePortConfig) : PortView β where
  bridgeId := info.bridgeId
  bridge := info.bridge
  isolated := info.isolated
  switchId := config.bridgeId
  map := config.bridgePortMap
  higher := config.higherPortMap
  learningOff := config.srcMacLearningDisable

def switching (w : World β) : Switching β where
  port := fun p => viewOf (w.port p) (w.bridgePort (mxlPort p))
  portmap := w.bridgePortmap
  bridges := w.bridges
  dsaBridge := w.dsaBridge

/-- The bit of `port` in the map of its own id. -/
def changeBit (port : Port) (action : Bool) (map : BitVec 16) : BitVec 16 :=
  if action then map ||| bit (mxlPort port) else map &&& ~~~ bit (mxlPort port)

/-- Whether the second loop writes port `i`. -/
def Rewrites (dsa : Dsa) (s : Switching β) (port : Port) (bridge : Option β) (i : Port) : Prop :=
  dsa.user i = true ∧ (i ≠ port → bridge ≠ none) ∧
    (bridge ≠ none → (s.port i).bridge ≠ none) ∧
    (i ≠ port → (s.port i).switchId = (s.port i).bridgeId ∧ (s.port i).switchId ≠ 0)

instance decidableRewrites [DecidableEq β] (dsa : Dsa) (s : Switching β) (port : Port)
    (bridge : Option β) (i : Port) : Decidable (Rewrites dsa s port bridge i) :=
  inferInstanceAs (Decidable (_ = true ∧ (_ → _ ≠ none) ∧ (_ ≠ none → _ ≠ none) ∧ (_ → _ ∧ _)))

def PortView.rewrite (view : PortView β) (dsa : Dsa) (portmap : Nat → BitVec 16) (port : Port)
    (bridge : Option β) (action : Bool) (i : Port) : PortView β :=
  let map := portmap view.bridgeId &&& ~~~ bit (mxlPort i)
  if action then
    { view with switchId := view.bridgeId, map := map, learningOff := bridge.isNone }
  else
    { view with
      switchId := if i = port then 0 else view.switchId
      map := if i = port then bit (mxlPort dsa.cpuPort) else map
      learningOff := true }

def Switching.update [DecidableEq β] (dsa : Dsa) (s : Switching β) (port : Port)
    (bridge : Option β) (action : Bool) : Switching β :=
  let id := (s.port port).bridgeId
  let portmap := Function.update s.portmap id (changeBit port action (s.portmap id))
  { s with
    portmap := portmap
    port := fun i =>
      if Rewrites dsa s port bridge i then (s.port i).rewrite dsa portmap port bridge action i
      else s.port i }

theorem changeBit_idem (port : Port) (action : Bool) (map : BitVec 16) :
    changeBit port action (changeBit port action map) = changeBit port action map := by
  cases action with
  | true => simp [changeBit, BitVec.or_assoc]
  | false => simp [changeBit, BitVec.and_assoc]

section Loops

variable [DecidableEq β] {dsa : Dsa} {w : World β} {port : Port} {bridge : Option β}
  {action : Bool}

def Counts (dsa : Dsa) (w : World β) (port : Port) (bridge : Option β) (i : Port) : Prop :=
  dsa.user i = true ∧ (i ≠ port → w.dsaBridge i = bridge ∧ bridge ≠ none)

instance decidableCounts (dsa : Dsa) (w : World β) (port : Port) (bridge : Option β) (i : Port) :
    Decidable (Counts dsa w port bridge i) :=
  inferInstanceAs (Decidable (_ = true ∧ (_ → _ = _ ∧ _ ≠ none)))

theorem foldl_updatePortmap (user : dsa.user port = true)
    (same : ∀ i, Counts dsa w port bridge i → (w.port i).bridgeId = (w.port port).bridgeId) :
    (List.finRange maxPorts).foldl (updatePortmap dsa w port bridge action) w.bridgePortmap =
      Function.update w.bridgePortmap (w.port port).bridgeId
        (changeBit port action (w.bridgePortmap (w.port port).bridgeId)) := by
  let id := (w.port port).bridgeId
  refine foldl_idempotent (Counts dsa w port bridge)
    (fun portmap => Function.update portmap id (changeBit port action (portmap id))) ?_ _ ?_
    (List.mem_finRange port) ⟨user, fun other => absurd rfl other⟩ w.bridgePortmap
  · intro portmap
    simp only [Function.update_self, Function.update_idem, changeBit_idem]
  · intro portmap i
    unfold updatePortmap
    by_cases userI : dsa.user i = false
    · have skips : ¬ Counts dsa w port bridge i := fun counts => by
        rw [counts.1] at userI
        cases userI
      rw [if_pos userI, if_neg skips]
    rw [if_neg userI]
    have isUser : dsa.user i = true := by simpa using userI
    by_cases elsewhere : w.dsaBridge i ≠ bridge ∧ i ≠ port
    · have skips : ¬ Counts dsa w port bridge i := fun counts =>
        elsewhere.1 (counts.2 elsewhere.2).1
      rw [if_pos elsewhere, if_neg skips]
    rw [if_neg elsewhere]
    by_cases outside : bridge = none ∧ i ≠ port
    · have skips : ¬ Counts dsa w port bridge i := fun counts =>
        (counts.2 outside.2).2 outside.1
      rw [if_pos outside, if_neg skips]
    rw [if_neg outside]
    have counts : Counts dsa w port bridge i := by
      refine ⟨isUser, fun other => ⟨?_, fun none => outside ⟨none, other⟩⟩⟩
      by_contra apart
      exact elsewhere ⟨apart, other⟩
    rw [if_pos counts, same i counts]
    rfl

/-- The switching state were every bridge port configured so. -/
def configured (w : World β) (config : BridgePortConfig) : Switching β where
  port := fun p => viewOf (w.port p) config
  portmap := w.bridgePortmap
  bridges := w.bridges
  dsaBridge := w.dsaBridge

/-- What the second loop leaves at the bridge port of `i`. -/
def rewritten (dsa : Dsa) (w : World β) (port : Port) (bridge : Option β) (action : Bool)
    (i : Port) (config : BridgePortConfig) : BridgePortConfig :=
  if Rewrites dsa (configured w config) port bridge i then
    portConfig dsa w port bridge action i config
  else config

omit [DecidableEq β] in
theorem viewOf_portConfig (w : World β) (i : Port) (config : BridgePortConfig) :
    viewOf (w.port i) (portConfig dsa w port bridge action i config) =
      (viewOf (w.port i) config).rewrite dsa w.bridgePortmap port bridge action i := by
  unfold portConfig PortView.rewrite
  cases action <;> rfl

def withBridgePorts (w : World β) (table : Nat → BridgePortConfig) : World β :=
  { w with bridgePort := table }

theorem updatePort_eq (w' : World β) (i : Port) (ports : w'.port = w.port)
    (portmap : w'.bridgePortmap = w.bridgePortmap) :
    updatePort dsa port bridge action w' i =
      withBridgePorts w' (writeCell mxlPort (rewritten dsa w port bridge action)
        w'.bridgePort i) := by
  have unchanged : withBridgePorts w' (Function.update w'.bridgePort (mxlPort i)
      (w'.bridgePort (mxlPort i))) = w' := by
    rw [Function.update_eq_self]
    rfl
  have skipped : ∀ config, ¬ Rewrites dsa (configured w config) port bridge i →
      rewritten dsa w port bridge action i config = config := fun _ silent => if_neg silent
  unfold updatePort writeCell
  rw [ports]
  dsimp only
  by_cases userI : dsa.user i = false
  · rw [if_pos userI, skipped, unchanged]
    intro acts
    rw [acts.1] at userI
    cases userI
  rw [if_neg userI]
  have isUser : dsa.user i = true := by simpa using userI
  by_cases alone : bridge = none ∧ i ≠ port
  · rw [if_pos alone, skipped, unchanged]
    exact fun acts => acts.2.1 alone.2 alone.1
  rw [if_neg alone]
  by_cases standalone : bridge ≠ none ∧ (w.port i).bridge = none
  · rw [if_pos standalone, skipped, unchanged]
    exact fun acts => acts.2.2.1 standalone.1 standalone.2
  rw [if_neg standalone]
  by_cases foreign : i ≠ port ∧ ((w'.bridgePort (mxlPort i)).bridgeId ≠ (w.port i).bridgeId ∨
      (w'.bridgePort (mxlPort i)).bridgeId = 0)
  · rw [if_pos foreign, skipped, unchanged]
    intro acts
    obtain ⟨first, second⟩ := acts.2.2.2 foreign.1
    exact foreign.2.elim (fun apart => apart first) second
  · have acts : Rewrites dsa (configured w (w'.bridgePort (mxlPort i))) port bridge i := by
      refine ⟨isUser, fun other none => alone ⟨none, other⟩,
        fun given none => standalone ⟨given, none⟩, fun other => ?_⟩
      rw [not_and, not_or, not_not] at foreign
      exact foreign other
    rw [if_neg foreign, rewritten, if_pos acts]
    simp only [World.setBridgePort, withBridgePorts, portConfig, ports, portmap]

theorem foldl_updatePort (ports : List Port) (w' : World β) (same : w'.port = w.port)
    (portmap : w'.bridgePortmap = w.bridgePortmap) :
    ports.foldl (updatePort dsa port bridge action) w' =
      withBridgePorts w' (ports.foldl
        (writeCell mxlPort (rewritten dsa w port bridge action)) w'.bridgePort) := by
  induction ports generalizing w' with
  | nil => rfl
  | cons i rest ih =>
    rw [List.foldl_cons, updatePort_eq w' i same portmap]
    exact ih (withBridgePorts w' _) same portmap

omit [DecidableEq β] in
theorem switching_updateCpuBridgePort (w : World β) :
    switching (updateCpuBridgePort dsa port action w) = switching w := by
  have nothing : bit (mxlPort port + 16) = 0#16 := bit_eq_zero (by omega)
  have ports : ∀ (id : Nat) (p : Port),
      viewOf (Function.update w.port port { w.port port with bridgePortCpu := id } p)
        (w.bridgePort (mxlPort p)) = viewOf (w.port p) (w.bridgePort (mxlPort p)) := by
    intro id p
    by_cases same : p = port
    · subst same
      rw [Function.update_self]
      rfl
    · rw [Function.update_of_ne same]
  have configs : ∀ config (p : Port),
      Function.update w.bridgePort (mxlPort port + 16) config (mxlPort p) =
        w.bridgePort (mxlPort p) := by
    intro config p
    have below := mxlPort_lt p
    exact Function.update_of_ne (by omega) _ _
  unfold updateCpuBridgePort
  cases action with
  | true =>
    simp only [if_true, switching, World.setBridgePort, nothing, BitVec.or_zero,
      Function.update_eq_self, configs, ports]
  | false =>
    simp only [Bool.false_eq_true, if_false, switching, nothing, BitVec.not_zero,
      BitVec.and_allOnes, Function.update_eq_self, ports]

theorem switching_updateBridgeConfPort (user : dsa.user port = true)
    (same : ∀ i, Counts dsa w port bridge i → (w.port i).bridgeId = (w.port port).bridgeId) :
    switching (updateBridgeConfPort dsa port bridge action w) =
      (switching w).update dsa port bridge action := by
  let start : World β := { w with bridgePortmap :=
    (List.finRange maxPorts).foldl (updatePortmap dsa w port bridge action) w.bridgePortmap }
  let looped := (List.finRange maxPorts).foldl (updatePort dsa port bridge action) start
  have startMap : start.bridgePortmap = Function.update w.bridgePortmap (w.port port).bridgeId
      (changeBit port action (w.bridgePortmap (w.port port).bridgeId)) :=
    foldl_updatePortmap user same
  have loop : looped = withBridgePorts start ((List.finRange maxPorts).foldl
      (writeCell mxlPort (rewritten dsa start port bridge action)) start.bridgePort) :=
    foldl_updatePort (w := start) _ start rfl rfl
  have cells : ∀ i, looped.bridgePort (mxlPort i) =
      rewritten dsa start port bridge action i (w.bridgePort (mxlPort i)) := by
    intro i
    rw [loop]
    exact foldl_writeCell mxlPort _ _ (List.nodup_finRange _)
      (fun _ _ _ _ => mxlPort_injective) (List.mem_finRange i)
  have body : switching looped = (switching w).update dsa port bridge action := by
    have views : ∀ i, viewOf (looped.port i) (looped.bridgePort (mxlPort i)) =
        ((switching w).update dsa port bridge action).port i := by
      intro i
      have portI : looped.port i = start.port i := by
        rw [loop]
        rfl
      have updated : ((switching w).update dsa port bridge action).port i =
          if Rewrites dsa (switching w) port bridge i then
            ((switching w).port i).rewrite dsa start.bridgePortmap port bridge action i
          else (switching w).port i := by
        rw [startMap]
        rfl
      rw [cells, portI, rewritten, updated]
      by_cases acts : Rewrites dsa (switching w) port bridge i
      · have here : Rewrites dsa (configured start (w.bridgePort (mxlPort i))) port bridge i := acts
        rw [if_pos acts, if_pos here]
        exact viewOf_portConfig start i _
      · have here : ¬ Rewrites dsa (configured start (w.bridgePort (mxlPort i))) port bridge i :=
          acts
        rw [if_neg acts, if_neg here]
        rfl
    have maps : looped.bridgePortmap =
        ((switching w).update dsa port bridge action).portmap := by
      rw [loop]
      exact startMap
    have others : looped.bridges = w.bridges ∧ looped.dsaBridge = w.dsaBridge := by
      rw [loop]
      exact ⟨rfl, rfl⟩
    simp only [switching, views, maps, others]
    rfl
  unfold updateBridgeConfPort
  change switching (if dsa.spTag = true then updateCpuBridgePort dsa port action looped
    else looped) = _
  by_cases tagging : dsa.spTag = true
  · rw [if_pos tagging, switching_updateCpuBridgePort, body]
  · rw [if_neg tagging]
    exact body

end Loops

end OpenwrtSource.Mxl862xx.BridgeMaps
