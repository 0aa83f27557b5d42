import Mathlib.Algebra.Group.Nat.Defs
import Mathlib.Data.Finset.Card
import OpenwrtSource.Lib.Run

/-!
# The frame engine reset and its notifications

The notifier of the Ethernet driver, the reset worker cut at the points where
others can run, and the Wi-Fi chips that answer its requests.  `owes`, `late`,
`failed` and `log` are history variables: the driver reads none of them.
-/

namespace OpenwrtSource.Ser.EthReset

/-- The frame engine reset FSM of mtk_eth_reset.h. -/
inductive FeEvent where
  | startReset
  | resetDone
  | wifiResetDone
  | wifiChipOnline
  | wifiChipOffline
  | stopTraffic
  | stopTrafficDone
  | startTraffic
  | stopTrafficDoneFail
  | startResetInit
  | wifiL1serDone
  | topsDumpDone
  | resetNatDone
  deriving DecidableEq

def UINT_MAX : Nat := 2 ^ 32 - 1

def complete (done : Nat) : Nat := if done = UINT_MAX then done else done + 1

def consume (done : Nat) : Nat := if done = UINT_MAX then done else done - 1

structure Eth where
  netsysV3OrGreater : Bool
  /-- `reset.event`, which nothing writes before the first reset -/
  event : Option FeEvent
  force : Bool
  resetting : Bool
  pendingWork : Bool
  restCnt : Int
  wifiNum : Int
  stopFail : Bool
  waitSerDone : Nat
  waitAckDone : Nat
  waitTopsDone : Nat

/-- `mtk_eth_netdevice_event`; it runs under the RTNL lock. -/
def mtkEthNetdeviceEvent (eth : Eth) : FeEvent → Eth
  | .topsDumpDone => { eth with waitTopsDone := complete eth.waitTopsDone }
  | .wifiResetDone | .stopTrafficDone =>
    if eth.restCnt - 1 = 0 then
      { eth with waitSerDone := complete eth.waitSerDone, restCnt := eth.wifiNum }
    else { eth with restCnt := eth.restCnt - 1 }
  | .wifiChipOnline => { eth with wifiNum := eth.wifiNum + 1, restCnt := eth.wifiNum + 1 }
  | .wifiChipOffline => { eth with wifiNum := eth.wifiNum - 1, restCnt := eth.wifiNum - 1 }
  | .stopTrafficDoneFail =>
    { eth with
      stopFail := true
      event := some .startReset
      waitSerDone := complete eth.waitSerDone
      restCnt := eth.wifiNum }
  | .startResetInit =>
    if eth.resetting then eth
    else { eth with event := some .startReset, pendingWork := true }
  | .wifiL1serDone => { eth with waitAckDone := complete eth.waitAckDone }
  | _ => eth

/-- Where `mtk_pending_work` is. -/
inductive Phase where
  | idle
  | started
  /-- MTK_RESETTING is set, the request is not sent -/
  | prepared
  /-- before the test of `mtk_wifi_num` -/
  | requested
  | waiting
  /-- before the test of `mtk_stop_fail` -/
  | woken
  | waitingStopFail
  | handshaken
  /-- before the closing notification -/
  | restarted
  | waitingAck
  | closing
  deriving DecidableEq

/-- What the Wi-Fi drivers see, with the failures of the current request that they
report and the warm resets of a v3 chip: whether the mask has the WDMA bits. -/
inductive Record where
  | sent (event : FeEvent)
  | failed
  | warmReset (wdma : Bool)
  deriving DecidableEq

inductive Answer where
  | wifiResetDone
  | stopTrafficDone
  | stopTrafficDoneFail
  deriving DecidableEq

def Answer.event : Answer → FeEvent
  | .wifiResetDone => .wifiResetDone
  | .stopTrafficDone => .stopTrafficDone
  | .stopTrafficDoneFail => .stopTrafficDoneFail

variable {Chip : Type} [DecidableEq Chip]

structure State (Chip : Type) where
  eth : Eth
  phase : Phase
  /-- a running `mtk_hw_check_dma_hang`, and whether it has found a hang -/
  monitor : Option Bool
  /-- debugfs writers past their test, with the event that they write -/
  armed : List FeEvent
  /-- debugfs writers that have written and have yet to queue the work -/
  scheduling : Nat
  online : Finset Chip
  /-- the chips that owe an answer to the current request -/
  owes : Finset Chip
  /-- answers still owed to earlier requests -/
  late : Chip → Nat
  /-- some chip has failed the current request -/
  failed : Bool
  log : List Record

def initial (netsysV3OrGreater : Bool) : State Chip where
  eth := {
    netsysV3OrGreater, event := none, force := false, resetting := false, pendingWork := false
    restCnt := 0, wifiNum := 0, stopFail := false
    waitSerDone := 0, waitAckDone := 0, waitTopsDone := 0 }
  phase := .idle
  monitor := none
  armed := []
  scheduling := 0
  online := ∅
  owes := ∅
  late := fun _ => 0
  failed := false
  log := []

def notify (s : State Chip) (event : FeEvent) : State Chip :=
  { s with log := s.log ++ [.sent event] }

/-- A request to all chips that are online; each of them owes an answer to it. -/
def request (s : State Chip) (event : FeEvent) (phase : Phase) : State Chip :=
  { notify s event with
    phase
    owes := s.online
    late := fun c => s.late c + if c ∈ s.owes then 1 else 0
    failed := false }

/-- One part of `mtk_pending_work`, up to where others can run. -/
def pendingWork (s : State Chip) : State Chip :=
  match s.phase with
  | .idle =>
    if s.eth.pendingWork then
      { s with phase := .started, eth := { s.eth with pendingWork := false } }
    else s
  | .started => { s with phase := .prepared, eth := { s.eth with resetting := true } }
  | .prepared =>
    if s.eth.event = some .stopTraffic then request s .stopTraffic .requested
    else request s .startReset .requested
  | .requested => { s with phase := if s.eth.wifiNum > 0 then .waiting else .handshaken }
  | .waiting =>
    if s.eth.waitSerDone = 0 then s
    else { s with
      phase := .woken, eth := { s.eth with waitSerDone := consume s.eth.waitSerDone } }
  | .woken =>
    if s.eth.netsysV3OrGreater && s.eth.stopFail then request s .startReset .waitingStopFail
    else { s with phase := .handshaken }
  | .waitingStopFail =>
    if s.eth.waitSerDone = 0 then s
    else { s with
      phase := .handshaken
      eth := { s.eth with waitSerDone := consume s.eth.waitSerDone, stopFail := false } }
  | .handshaken =>
    -- `mtk_hw_warm_reset` of `mtk_hw_init`, behind the test for TOPS
    let s := { s with
      phase := .restarted
      eth := { s.eth with
        waitTopsDone :=
          if s.eth.waitTopsDone = 0 then 0 else consume s.eth.waitTopsDone } }
    if s.eth.netsysV3OrGreater then
      { s with log := s.log ++ [.warmReset (s.eth.event = some .startReset)] }
    else s
  | .restarted =>
    if s.eth.event = some .stopTraffic then { notify s .startTraffic with phase := .closing }
    else
      { notify s .resetDone with
        phase :=
          if s.eth.netsysV3OrGreater ∧ s.eth.wifiNum > 0 then .waitingAck else .closing }
  | .waitingAck =>
    if s.eth.waitAckDone = 0 then s
    else { s with
      phase := .closing, eth := { s.eth with waitAckDone := consume s.eth.waitAckDone } }
  | .closing =>
    { notify s .resetNatDone with phase := .idle, eth := { s.eth with resetting := false } }

inductive Event (Chip : Type) where
  | online (chip : Chip)
  | offline (chip : Chip)
  | answer (chip : Chip) (message : Answer)
  /-- an answer to an earlier request -/
  | lateAnswer (chip : Chip) (message : Answer)
  | l1serDone
  | topsDumpDone
  | startResetInit
  | debugfsForce (force : Bool)
  /-- level 1 or 3 of the reset file: the test, later the write, and later the queueing -/
  | debugfsTest (wdma : Bool)
  | debugfsWrite (event : FeEvent)
  | debugfsSchedule
  | monitorStart
  /-- the monitor finds a hang, of WDMA or of another engine -/
  | monitorHang (wdma : Bool)
  | monitorEnd
  | work
  /-- `mtk_hw_warm_reset` falls back to the cold reset -/
  | coldReset

def hangEvent (wdma : Bool) : FeEvent := if wdma then .startReset else .stopTraffic

def receive (s : State Chip) (message : Answer) : State Chip :=
  { s with eth := mtkEthNetdeviceEvent s.eth message.event }

def step (s : State Chip) : Event Chip → State Chip
  | .online chip =>
    if chip ∈ s.online then s
    else { s with
      eth := mtkEthNetdeviceEvent s.eth .wifiChipOnline, online := insert chip s.online }
  | .offline chip =>
    if chip ∈ s.online then
      { s with
        eth := mtkEthNetdeviceEvent s.eth .wifiChipOffline
        online := s.online.erase chip
        owes := s.owes.erase chip
        late := Function.update s.late chip 0 }
    else s
  | .answer chip message =>
    if chip ∈ s.owes then
      { receive s message with
        owes := s.owes.erase chip
        failed := s.failed || message = .stopTrafficDoneFail
        log := if message = .stopTrafficDoneFail then s.log ++ [.failed] else s.log }
    else s
  | .lateAnswer chip message =>
    if s.late chip = 0 then s
    else { receive s message with late := Function.update s.late chip (s.late chip - 1) }
  | .l1serDone => { s with eth := mtkEthNetdeviceEvent s.eth .wifiL1serDone }
  | .topsDumpDone => { s with eth := mtkEthNetdeviceEvent s.eth .topsDumpDone }
  | .startResetInit => { s with eth := mtkEthNetdeviceEvent s.eth .startResetInit }
  | .debugfsForce force => { s with eth := { s.eth with force } }
  | .debugfsTest wdma =>
    if s.eth.force && !s.eth.resetting then { s with armed := hangEvent wdma :: s.armed } else s
  | .debugfsWrite event =>
    if event ∈ s.armed then
      { s with
        armed := s.armed.erase event
        scheduling := s.scheduling + 1
        eth := { s.eth with event := some event } }
    else s
  | .debugfsSchedule =>
    if s.scheduling = 0 then s
    else { s with
      scheduling := s.scheduling - 1, eth := { s.eth with pendingWork := true } }
  | .monitorStart =>
    if s.monitor.isNone && !s.eth.resetting then { s with monitor := some false } else s
  | .monitorHang wdma =>
    if s.monitor.isSome then
      { s with monitor := some true, eth := { s.eth with event := some (hangEvent wdma) } }
    else s
  | .monitorEnd =>
    if s.monitor = some true && s.eth.force then
      { s with monitor := none, eth := { s.eth with pendingWork := true } }
    else { s with monitor := none }
  | .work => pendingWork s
  | .coldReset => if s.phase = .handshaken then { s with phase := .restarted } else s

end OpenwrtSource.Ser.EthReset
