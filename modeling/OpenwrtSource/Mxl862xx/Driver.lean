import Mathlib.Data.BitVec
import Mathlib.Data.List.FinRange
import OpenwrtSource.Mxl862xx.VlanBlock

/-!
# The MxL862xx switch driver

The driver's records, the switch they are written to, and the calls of the DSA
core: bridge join and leave, VLAN add and delete.  Switch commands succeed; what the
switch answers to an allocation is left open.
-/

namespace OpenwrtSource.Mxl862xx.Driver

open Mxl862xx.VlanRules Mxl862xx.VlanBlock

def maxPorts : Nat := 15

def maxBridges : Nat := 17

def maxVlanEntries : Nat := 1024

def ingressFinalRules : Nat := 5

def egressFinalRules : Nat := 3

def vidRules : Nat := 2

abbrev Port := Fin maxPorts

/-- `DSA_MXL_PORT`. -/
def mxlPort (port : Port) : Nat := port.val + 1

/-- `BIT(n)` as a `u16` keeps it. -/
def bit (n : Nat) : BitVec 16 := 1#16 <<< n

inductive Dir
  | ingress
  | egress
  deriving DecidableEq

/-- The device tree's and DSA's part of the configuration. -/
structure Dsa where
  user : Port → Bool
  cpuPort : Port
  cpuNotUser : user cpuPort = false
  /-- `DSA_TAG_PROTO_MXL862_8021Q`; the other protocol is the 8-byte tag. -/
  spTag : Bool
  forceIsolate : Bool
  /-- `dsa_tag_8021q_standalone_vid`. -/
  standaloneVid : Port → Nat

/-- The ids that the switch hands out, at any time and whatever is allocated. -/
structure Firmware where
  bridge : Nat → List Nat → Nat
  block : Nat → List Nat → Nat

/-- `struct mxl862xx_port_info`, without the two blocks. -/
structure PortInfo (β : Type) where
  isolated : Bool := false
  bridgeId : Nat := 0
  bridgePortCpu : Nat := 0
  bridge : Option β := none
  pvid : Nat := 0
  filtering : Bool := false
  filteringModeLocked : Bool := false

/-- What the switch holds for a bridge port.  `bridgePortMap` is word 0 of the port map,
`higherPortMap` the other seven. -/
structure BridgePortConfig where
  bridgeId : Nat := 0
  bridgePortMap : BitVec 16 := 0
  higherPortMap : BitVec 112 := 0
  srcMacLearningDisable : Bool := false
  vlanMacVidEnable : Bool := false
  destLogicalPortId : Nat := 0
  vlanBlock : Dir → Option Nat := fun _ => none

structure World (β : Type) where
  port : Port → PortInfo β
  block : Port → Dir → BlockInfo
  bridgePortmap : Nat → BitVec 16
  maxVlans : Nat
  /-- `dsa_port_bridge_dev_get`. -/
  dsaBridge : Port → Option β
  bridges : List Nat
  bridgePort : Nat → BridgePortConfig
  cpuBridgePorts : List Nat
  ctpVlanBlock : Dir → Option Nat
  blocks : List Nat
  rules : Nat → Nat → Rule
  commands : Nat

variable {β : Type}

def World.setPort (w : World β) (port : Port) (info : PortInfo β) : World β :=
  { w with port := Function.update w.port port info }

def World.setBlock (w : World β) (port : Port) (dir : Dir) (info : BlockInfo) : World β :=
  { w with block := Function.update w.block port (Function.update (w.block port) dir info) }

def World.setBridgePort (w : World β) (id : Nat) (config : BridgePortConfig) : World β :=
  { w with bridgePort := Function.update w.bridgePort id config }

/-- `MXL862XX_BRIDGE_ALLOC`. -/
def bridgeAlloc (fw : Firmware) (w : World β) : World β × Nat :=
  let id := fw.bridge w.commands w.bridges
  ({ w with bridges := id :: w.bridges, commands := w.commands + 1 }, id)

/-- `MXL862XX_BRIDGE_FREE`. -/
def bridgeFree (id : Nat) (w : World β) : World β :=
  { w with bridges := w.bridges.filter (· ≠ id) }

section Bridging

variable [DecidableEq β]

/-- The first loop of `mxl862xx_update_bridge_conf_port`, one port `i`. -/
def updatePortmap (dsa : Dsa) (w : World β) (port : Port) (bridge : Option β) (action : Bool)
    (portmap : Nat → BitVec 16) (i : Port) : Nat → BitVec 16 :=
  if dsa.user i = false then portmap
  else if w.dsaBridge i ≠ bridge ∧ i ≠ port then portmap
  else if bridge = none ∧ i ≠ port then portmap
  else
    let id := (w.port i).bridgeId
    Function.update portmap id
      (if action then portmap id ||| bit (mxlPort port) else portmap id &&& ~~~ bit (mxlPort port))

/-- The configuration that the second loop writes for port `i`. -/
def portConfig (dsa : Dsa) (w : World β) (port : Port) (bridge : Option β) (action : Bool)
    (i : Port) (config : BridgePortConfig) : BridgePortConfig :=
  let id := (w.port i).bridgeId
  let map := w.bridgePortmap id &&& ~~~ bit (mxlPort i)
  if action then
    { config with
      bridgeId := id
      bridgePortMap := map
      srcMacLearningDisable := bridge.isNone
      vlanMacVidEnable := !dsa.spTag && bridge.isSome }
  else
    { config with
      bridgeId := if i = port then 0 else config.bridgeId
      bridgePortMap := if i = port then bit (mxlPort dsa.cpuPort) else map
      srcMacLearningDisable := true
      vlanMacVidEnable := false }

/-- The second loop, one port `i`. -/
def updatePort (dsa : Dsa) (port : Port) (bridge : Option β) (action : Bool) (w : World β)
    (i : Port) : World β :=
  let config := w.bridgePort (mxlPort i)
  if dsa.user i = false then w
  else if bridge = none ∧ i ≠ port then w
  else if bridge ≠ none ∧ (w.port i).bridge = none then w
  else if i ≠ port ∧ (config.bridgeId ≠ (w.port i).bridgeId ∨ config.bridgeId = 0) then w
  else w.setBridgePort (mxlPort i) (portConfig dsa w port bridge action i config)

/-- The additional bridge port of the CPU under 802.1Q tagging. -/
def updateCpuBridgePort (dsa : Dsa) (port : Port) (action : Bool) (w : World β) : World β :=
  let info := w.port port
  let bridgePortCpu := mxlPort port + 16
  let map := w.bridgePortmap info.bridgeId
  if action then
    let config : BridgePortConfig :=
      { w.bridgePort bridgePortCpu with
        bridgeId := info.bridgeId
        bridgePortMap := bit (mxlPort port)
        higherPortMap := 0
        srcMacLearningDisable := true
        destLogicalPortId := mxlPort dsa.cpuPort }
    let w := w.setBridgePort bridgePortCpu config
    { w with
      cpuBridgePorts := bridgePortCpu :: w.cpuBridgePorts
      bridgePortmap := Function.update w.bridgePortmap info.bridgeId (map ||| bit bridgePortCpu)
      port := Function.update w.port port { info with bridgePortCpu := bridgePortCpu } }
  else
    { w with
      cpuBridgePorts := w.cpuBridgePorts.filter (· ≠ bridgePortCpu)
      bridgePortmap := Function.update w.bridgePortmap info.bridgeId (map &&& ~~~ bit bridgePortCpu)
      port := Function.update w.port port { info with bridgePortCpu := 0 } }

def updateBridgeConfPort (dsa : Dsa) (port : Port) (bridge : Option β) (action : Bool)
    (w : World β) : World β :=
  let portmap := (List.finRange maxPorts).foldl (updatePortmap dsa w port bridge action)
    w.bridgePortmap
  let w := { w with bridgePortmap := portmap }
  let w := (List.finRange maxPorts).foldl (updatePort dsa port bridge action) w
  if dsa.spTag then updateCpuBridgePort dsa port action w else w

def findBridgeId (dsa : Dsa) (w : World β) (bridge : β) : Nat :=
  match (List.finRange maxPorts).find? fun i =>
      (dsa.user i || i == dsa.cpuPort) && (w.port i).bridge == some bridge with
  | some i => (w.port i).bridgeId
  | none => 0

end Bridging

/-- `mxl862xx_allocate_extended_vlan_block`. -/
def allocateExtendedVlanBlock (fw : Firmware) (port : Port) (dir : Dir) (w : World β) :
    World β :=
  let info := w.block port dir
  if info.allocated then w
  else
    let id := fw.block w.commands w.blocks
    let w := { w with blocks := id :: w.blocks, commands := w.commands + 1 }
    w.setBlock port dir { info with allocated := true, blockId := id }

/-- An operation on the records of one block and on the rules of the block that the
records name. -/
def onBlock (port : Port) (dir : Dir) (build : Block → Built) (w : World β) :
    World β × Option Errno :=
  let info := w.block port dir
  let built := build { info := info, rules := w.rules info.blockId }
  let w := w.setBlock port dir built.1.info
  ({ w with rules := Function.update w.rules info.blockId built.1.rules }, built.2)

def prepare (fw : Firmware) (port : Port) (dir : Dir) (build : Block → Built) (w : World β) :
    World β × Option Errno :=
  onBlock port dir build (allocateExtendedVlanBlock fw port dir w)

/-- `if (ret) return ret;` between two steps. -/
def andThen (first second : World β → World β × Option Errno) (w : World β) :
    World β × Option Errno :=
  match first w with
  | (w, some e) => (w, some e)
  | (w, none) => second w

def always (build : Block → Block) (block : Block) : Built := (build block, none)

def prepareIngress (dsa : Dsa) (fw : Firmware) (port : Port) (vid : Nat) (w : World β) :
    World β × Option Errno :=
  let info := w.port port
  let spVid := dsa.standaloneVid port
  prepare fw port .ingress
    (match dsa.spTag, info.filtering with
      | true, true => prepareVlanIngressFiltersSpTag w.maxVlans spVid info.pvid vid
      | true, false => always (prepareVlanIngressFiltersOffSpTag spVid info.pvid vid)
      | false, true => prepareVlanIngressFilters w.maxVlans info.pvid vid
      | false, false =>
        prepareVlanIngressFiltersOff w.maxVlans info.pvid vid (port == dsa.cpuPort))
    w

def prepareEgress (dsa : Dsa) (fw : Firmware) (port : Port) (vid : Nat) (untagged : Bool)
    (w : World β) : World β × Option Errno :=
  prepare fw port .egress
    (match dsa.spTag, (w.port port).filtering with
      | true, true => prepareVlanEgressFiltersSpTag w.maxVlans vid untagged
      | true, false => prepareVlanEgressFiltersOffSpTag w.maxVlans vid untagged
      | false, true => prepareVlanEgressFilters w.maxVlans vid untagged
      | false, false => prepareVlanEgressFiltersOff w.maxVlans vid untagged)
    w

def prepareIngressCpu (dsa : Dsa) (fw : Firmware) (port : Port) (w : World β) :
    World β × Option Errno :=
  prepare fw dsa.cpuPort .ingress
    (prepareVlanIngressFiltersSpTagCpu w.maxVlans (dsa.standaloneVid port)
      (w.port port).bridgePortCpu) w

def prepareEgressCpu (dsa : Dsa) (fw : Firmware) (vid : Nat) (untagged : Bool) (w : World β) :
    World β × Option Errno :=
  prepare fw dsa.cpuPort .egress (prepareVlanEgressFiltersSpTagCpu w.maxVlans vid untagged) w

/-- `MXL862XX_CTP_PORTCONFIGSET` for the CPU port. -/
def ctpPortConfigSet (dsa : Dsa) (w : World β) : World β × Option Errno :=
  ({ w with ctpVlanBlock := fun dir => some (w.block dsa.cpuPort dir).blockId }, none)

/-- The `MXL862XX_BRIDGEPORT_CONFIGSET` at the end of `mxl862xx_port_vlan_add`. -/
def updateVlanBridgePort (dsa : Dsa) (port : Port) (w : World β) : World β × Option Errno :=
  let standalone := (w.port port).bridge.isNone && port != dsa.cpuPort
  let config : BridgePortConfig :=
    { w.bridgePort (mxlPort port) with
      vlanBlock := fun dir => some (w.block port dir).blockId
      srcMacLearningDisable := standalone
      vlanMacVidEnable := !dsa.spTag && !standalone }
  (w.setBridgePort (mxlPort port) config, none)

/-- The pvid bookkeeping of `mxl862xx_port_vlan_add`. -/
def setPvid (port : Port) (vid : Nat) (pvid : Bool) (w : World β) : World β :=
  let info := w.port port
  if pvid then w.setPort port { info with pvid := vid }
  else if info.pvid = vid then w.setPort port { info with pvid := 0 }
  else w

def BlockInfo.lacksRoom (info : BlockInfo) : Prop :=
  (info.finalFiltersIdx : Int) - info.vidFiltersIdx < info.entriesPerVlan

instance (info : BlockInfo) : Decidable (BlockInfo.lacksRoom info) :=
  inferInstanceAs (Decidable ((info.finalFiltersIdx : Int) - info.vidFiltersIdx < _))

/-- The rules and configurations that `mxl862xx_port_vlan_add` writes once there is room. -/
def addVlanRules (dsa : Dsa) (fw : Firmware) (port : Port) (vid : Nat) (untagged : Bool) :
    World β → World β × Option Errno :=
  let rules := andThen (prepareIngress dsa fw port vid) (prepareEgress dsa fw port vid untagged)
  let egressCpu := prepareEgressCpu dsa fw vid untagged
  if dsa.spTag then
    andThen
      (if port = dsa.cpuPort then egressCpu
       else andThen (prepareIngressCpu dsa fw port) (andThen egressCpu rules))
      (andThen (ctpPortConfigSet dsa) (updateVlanBridgePort dsa port))
  else
    andThen rules
      (if port = dsa.cpuPort then ctpPortConfigSet dsa else updateVlanBridgePort dsa port)

def portVlanAdd (dsa : Dsa) (fw : Firmware) (port : Port) (vid : Nat) (untagged pvid : Bool)
    (w : World β) : World β × Option Errno :=
  if vid = 0 then (w, some .inval)
  else
    let w := setPvid port vid pvid w
    if BlockInfo.lacksRoom (w.block port .ingress) then (w, some .nospc)
    else if BlockInfo.lacksRoom (w.block port .egress) then (w, some .nospc)
    else addVlanRules dsa fw port vid untagged w

def portVlanDel (port : Port) (vid : Nat) : World β → World β × Option Errno :=
  andThen (onBlock port .ingress (vlanDelDirection vid))
    (onBlock port .egress (vlanDelDirection vid))

section Ports

variable [DecidableEq β]

def isolatePort (dsa : Dsa) (fw : Firmware) (port : Port) (w : World β) : World β :=
  if (w.port port).isolated then w
  else
    let (w, id) := bridgeAlloc fw w
    let w := w.setPort port { w.port port with bridgeId := id, bridge := none }
    let w := updateBridgeConfPort dsa port none true w
    let (w, ret) :=
      if dsa.spTag then
        let filteringPrev := (w.port port).filtering
        let w := w.setPort port { w.port port with filtering := true }
        let (w, ret) := portVlanAdd dsa fw port 1 true true w
        (w.setPort port { w.port port with filtering := filteringPrev }, ret)
      else (w, none)
    if ret = none then w.setPort port { w.port port with isolated := true } else w

def deisolatePort (dsa : Dsa) (port : Port) (w : World β) : World β :=
  if (w.port port).isolated = false then w
  else
    let w := updateBridgeConfPort dsa port none false w
    let w := bridgeFree (w.port port).bridgeId w
    let w :=
      if dsa.spTag then
        let (w, _) := portVlanDel port 1 w
        let (w, _) := onBlock port .ingress (always clearStaticRules) w
        (onBlock port .egress (always clearStaticRules) w).1
      else w
    w.setPort port { w.port port with isolated := false }

def joinVlanRules (dsa : Dsa) (fw : Firmware) (port : Port) : World β → World β × Option Errno :=
  andThen (prepareIngressCpu dsa fw port) <|
  andThen (prepare fw dsa.cpuPort .egress (always prepareVlanEgressFiltersOffSpTagCpu)) <|
  andThen (prepare fw port .ingress
    (always (prepareVlanIngressFiltersOffSpTagNoVid (dsa.standaloneVid port)))) <|
  andThen (prepare fw port .egress (always prepareVlanEgressFiltersOffSpTagNoVid)) <|
  andThen (ctpPortConfigSet dsa) fun w =>
    let config : BridgePortConfig :=
      { w.bridgePort (mxlPort port) with
        vlanBlock := fun dir => some (w.block port dir).blockId }
    (w.setBridgePort (mxlPort port) config, none)

def portBridgeJoin (dsa : Dsa) (fw : Firmware) (port : Port) (bridge : β) (w : World β) :
    World β :=
  if dsa.forceIsolate then w
  else
    let w := deisolatePort dsa port w
    let id := findBridgeId dsa w bridge
    let (w, id) := if id = 0 then bridgeAlloc fw w else (w, id)
    let w := w.setPort port { w.port port with bridgeId := id, bridge := some bridge }
    let w := updateBridgeConfPort dsa port (some bridge) true w
    if dsa.spTag then (joinVlanRules dsa fw port w).1 else w

def portBridgeLeave (dsa : Dsa) (fw : Firmware) (port : Port) (bridge : β) (w : World β) :
    World β :=
  let own := (w.port port).bridgeId
  let id := findBridgeId dsa w bridge
  let w := updateBridgeConfPort dsa port (some bridge) false w
  let w := if w.bridgePortmap id = bit (mxlPort dsa.cpuPort) then bridgeFree own w else w
  let w := isolatePort dsa fw port w
  w.setPort port { w.port port with filteringModeLocked := false }

def portVlanFiltering (port : Port) (vlanFiltering : Bool) (w : World β) : World β :=
  let info := w.port port
  if (w.dsaBridge port).isSome ∧ info.filteringModeLocked then w
  else
    w.setPort port { info with
      filtering := vlanFiltering
      filteringModeLocked := !info.isolated || info.filteringModeLocked }

def userPnum (dsa : Dsa) : Nat := (List.finRange maxPorts).countP dsa.user

def maxVlansLimit (dsa : Dsa) : Nat :=
  let pnum := userPnum dsa
  if dsa.spTag then
    (maxVlanEntries - pnum * (egressFinalRules + ingressFinalRules + 2) - 3) /
      (pnum * (vidRules + vidRules) + 2)
  else
    (maxVlanEntries - pnum * (egressFinalRules + ingressFinalRules) - 1) /
      (pnum * (vidRules + vidRules) + 2)

def filtersMaxLimit (dsa : Dsa) (port : Port) (dir : Dir) : Nat :=
  let pnum := userPnum dsa
  let maxVlans := maxVlansLimit dsa
  if dsa.user port then
    match dir with
    | .ingress => ingressFinalRules + vidRules * maxVlans
    | .egress => egressFinalRules + vidRules * maxVlans
  else if port = dsa.cpuPort then
    match dsa.spTag, dir with
    | true, .ingress => pnum * 2 + 1
    | true, .egress => maxVlans * 2 + 2
    | false, .ingress => 1
    | false, .egress => maxVlans * 2
  else 0

def entriesPerVlanLimit (dsa : Dsa) (port : Port) (dir : Dir) : Nat :=
  if dsa.user port then vidRules
  else if port = dsa.cpuPort then
    match dir with
    | .ingress => 0
    | .egress => 2
  else 0

/-- `mxl862xx_set_vlan_filter_limits` on the zeroed records; `mxl862xx_setup` then marks
the CPU port's egress records as untagged. -/
def limitedBlock (dsa : Dsa) (port : Port) (dir : Dir) : BlockInfo where
  filtersMax := filtersMaxLimit dsa port dir
  entriesPerVlan := entriesPerVlanLimit dsa port dir
  finalFiltersIdx := filtersMaxLimit dsa port dir - 1
  blockId := if port = dsa.cpuPort then 0xffff else 0
  vlans := fun i => { untagged := decide (port = dsa.cpuPort ∧ dir = .egress ∧ i < maxVlansArray) }

def powerOn (dsa : Dsa) : World β where
  port := fun _ => {}
  block := limitedBlock dsa
  bridgePortmap := fun id =>
    if 0 < id ∧ id < maxBridges then bit (mxlPort dsa.cpuPort) else 0
  maxVlans := maxVlansLimit dsa
  dsaBridge := fun _ => none
  bridges := []
  bridgePort := fun id =>
    { vlanMacVidEnable := !dsa.spTag && id == mxlPort dsa.cpuPort }
  cpuBridgePorts := []
  ctpVlanBlock := fun _ => none
  blocks := []
  rules := fun _ _ => deactivated
  commands := 0

/-- The loop over the ports of `mxl862xx_setup`. -/
def setupPort (dsa : Dsa) (fw : Firmware) (w : World β) (i : Port) : World β :=
  if dsa.user i = false then w
  else
    let w := isolatePort dsa fw i w
    { w with bridgePortmap :=
        Function.update w.bridgePortmap 0 (w.bridgePortmap 0 ||| bit (mxlPort i)) }

def setup (dsa : Dsa) (fw : Firmware) : World β :=
  let w := (List.finRange maxPorts).foldl (setupPort dsa fw) (powerOn dsa)
  let cpu := mxlPort dsa.cpuPort
  w.setBridgePort cpu { w.bridgePort cpu with
    bridgePortMap := w.bridgePortmap 0, higherPortMap := 0 }

/-! ## The calls of the DSA core

A port joins a bridge when it is in none and leaves the bridge it is in; `dp->bridge`
is set before the join and cleared before the leave. -/

inductive Call (β : Type)
  | join (port : Port) (bridge : β)
  | leave (port : Port)
  | vlanAdd (port : Port) (vid : Nat) (untagged pvid : Bool)
  | vlanDel (port : Port) (vid : Nat)
  | vlanFiltering (port : Port) (on : Bool)

def Dsa.present (dsa : Dsa) (port : Port) : Bool := dsa.user port || port == dsa.cpuPort

def setDsaBridge (port : Port) (bridge : Option β) (w : World β) : World β :=
  { w with dsaBridge := Function.update w.dsaBridge port bridge }

def call (dsa : Dsa) (fw : Firmware) (w : World β) : Call β → World β
  | .join port bridge =>
    if dsa.user port = true ∧ w.dsaBridge port = none then
      portBridgeJoin dsa fw port bridge (setDsaBridge port (some bridge) w)
    else w
  | .leave port =>
    match w.dsaBridge port with
    | none => w
    | some bridge =>
      if dsa.user port then portBridgeLeave dsa fw port bridge (setDsaBridge port none w)
      else w
  | .vlanAdd port vid untagged pvid =>
    if dsa.present port then (portVlanAdd dsa fw port vid untagged pvid w).1 else w
  | .vlanDel port vid => if dsa.present port then (portVlanDel port vid w).1 else w
  | .vlanFiltering port on => if dsa.present port then portVlanFiltering port on w else w

end Ports

end OpenwrtSource.Mxl862xx.Driver
