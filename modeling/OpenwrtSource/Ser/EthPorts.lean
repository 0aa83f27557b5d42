import OpenwrtSource.Lib.Run
import OpenwrtSource.Ser.HangMonitor

/-!
# Opening and stopping the ports

`mtk_open` and `mtk_stop` with those who call them: the network core, the
restart work and the reset worker, each cut at the calls, beside the counters of
the hang monitor that `mtk_phy_should_powerdown` reads.  `opened`, `failures`,
`log` and `resets` are history variables: the driver reads none of them.
-/

namespace OpenwrtSource.Ser.EthPorts

open Ser.HangMonitor (Port Engine)

/-- `none` is the saturated count. -/
abbrev Refcount := Option Nat

def INT_MAX : Nat := 2 ^ 31 - 1

def refcountInc : Refcount → Refcount
  | some count => if count = 0 ∨ count = INT_MAX then none else some (count + 1)
  | none => none

def refcountDecAndTest : Refcount → Bool × Refcount
  | some (count + 1) => (count == 0, some count)
  | some 0 | none => (false, none)

inductive Napi where
  | tx
  | rx
  | rss (ring : Nat)
  | lro (ring : Nat)
  deriving DecidableEq

inductive Netsys where
  | v1
  | v2
  | v3
  deriving DecidableEq

inductive RstCtrl where
  | eth
  | ppe0
  | ppe1
  | ppe2
  | wdma0
  | wdma1
  | wdma2
  deriving DecidableEq

structure Soc where
  netsys : Netsys
  hasPpe1 : Bool
  hasPpe2 : Bool
  hasRss : Bool
  rssNum : Nat
  hwlro : Bool
  netdev : Port → Bool

def Soc.hwLroRingNum (soc : Soc) : Nat := if soc.netsys = .v3 then 4 else 3

/-- What `mtk_open` enables and `mtk_stop` disables. -/
def Soc.napiUsed (soc : Soc) : Napi → Bool
  | .tx | .rx => true
  | .rss ring => soc.hasRss && decide (1 ≤ ring ∧ ring < soc.rssNum)
  | .lro ring => soc.hwlro && decide (ring < soc.hwLroRingNum)

structure Eth where
  dmaRefcnt : Refcount
  /-- the shared rings are set up and run -/
  dma : Bool
  napi : Napi → Bool
  resetting : Bool
  hangCount : Engine → Nat

def mtkPhyShouldPowerdown (eth : Eth) : Bool :=
  !eth.resetting || (List.finRange 3).any fun i =>
    decide (2 < eth.hangCount (.gmacTx i)) || decide (2 < eth.hangCount (.gmacRx i))

inductive Record where
  | decided (powerdown : Bool)
  | detached (port : Port)
  | attached (port : Port)
  | warmReset (mask : List RstCtrl)
  | restored (port : Port)
  deriving DecidableEq

/-- How `mtk_start_dma` and `phylink_of_phy_connect` go. -/
structure Attempt where
  startDma : Bool
  phyConnect : Bool
  deriving DecidableEq

structure Reset where
  /-- the monitor requested it because of a GMAC hang -/
  byGmac : Bool
  /-- `restart`, the ports that were running -/
  restart : List Port
  /-- the PHYs that are attached in the end -/
  attached : Port → Bool
  log : List Record

/-- Who holds the RTNL lock for longer than one call, and where it is.  `reset`
tells `mtk_pending_work` from `mtk_netdev_restart_work`. -/
inductive Holder where
  | free
  | stopping (reset : Bool) (todo restart : List Port)
  | hwInit (restart : List Port)
  | opening (reset : Bool) (todo restart : List Port)
  /-- before the `dev_close` behind an `mtk_open` that failed -/
  | closing (reset : Bool) (port : Port) (todo restart : List Port)
  | completing (restart : List Port)

/-- Where `mtk_pending_work` is. -/
inductive Phase where
  | idle
  | started
  /-- MTK_RESETTING is set, and the lock given up for the handshake -/
  | handshake
  | locked
  /-- the lock is given up for the closing notification -/
  | waitingAck (restart : List Port)
  deriving DecidableEq

inductive Monitor where
  | idle
  | checking
  /-- the warning stands between the third hang and the counter's reset -/
  | reporting (engine : Engine)
  | ending (hang gmac : Bool)

structure State where
  eth : Eth
  running : Port → Bool
  attached : Port → Bool
  holder : Holder
  phase : Phase
  monitor : Monitor
  force : Bool
  /-- the work is queued, and the monitor has queued it for a GMAC hang -/
  pendingWork : Bool
  gmacRequest : Bool
  byGmac : Bool
  /-- the last `mtk_open` succeeded, and no `mtk_stop` has followed -/
  opened : Port → Bool
  /-- the driver before and after each `mtk_open` that failed -/
  failures : List (Eth × Eth)
  log : List Record
  resets : List Reset

def probed : State where
  eth := {
    dmaRefcnt := some 0, dma := false, napi := fun _ => false, resetting := false
    hangCount := fun _ => 0 }
  running := fun _ => false
  attached := fun _ => false
  holder := .free
  phase := .idle
  monitor := .idle
  force := false
  pendingWork := false
  gmacRequest := false
  byGmac := false
  opened := fun _ => false
  failures := []
  log := []
  resets := []

/-- The last part of `mtk_open`; the reference is taken. -/
def connectPhy (port : Port) (attempt : Attempt) (s : State) : Bool × State :=
  let powerdown := mtkPhyShouldPowerdown s.eth
  let s := { s with log := s.log ++ [.decided powerdown] }
  if powerdown then
    if attempt.phyConnect then
      (true, { s with
        attached := Function.update s.attached port true
        log := s.log ++ [.attached port] })
    else (false, s)
  else (true, s)

/-- `mtk_start_dma` and what follows it when the port is the first. -/
def startDma (soc : Soc) (eth : Eth) : Eth :=
  { eth with
    dma := true, napi := fun n => eth.napi n || soc.napiUsed n, dmaRefcnt := some 1 }

def mtkOpen (soc : Soc) (port : Port) (attempt : Attempt) (s : State) : Bool × State :=
  if s.eth.dmaRefcnt = some 0 then
    if attempt.startDma then connectPhy port attempt { s with eth := startDma soc s.eth }
    else (false, s)
  else
    connectPhy port attempt
      { s with eth := { s.eth with dmaRefcnt := refcountInc s.eth.dmaRefcnt } }

def disconnectPhy (port : Port) (s : State) : State :=
  let powerdown := mtkPhyShouldPowerdown s.eth
  let s := { s with log := s.log ++ [.decided powerdown] }
  if powerdown then
    { s with
      attached := Function.update s.attached port false
      log := s.log ++ [.detached port] }
  else s

def putDma (soc : Soc) (eth : Eth) : Eth :=
  let (last, dmaRefcnt) := refcountDecAndTest eth.dmaRefcnt
  if last then
    { eth with dmaRefcnt, dma := false, napi := fun n => eth.napi n && !soc.napiUsed n }
  else { eth with dmaRefcnt }

def mtkStop (soc : Soc) (port : Port) (s : State) : State :=
  let s := disconnectPhy port s
  { s with eth := putDma soc s.eth }

/-- `mtk_open` as its callers see it, with the history of it. -/
def openPort (soc : Soc) (port : Port) (attempt : Attempt) (s : State) : Bool × State :=
  let (ok, after) := mtkOpen soc port attempt s
  (ok, { after with
    opened := Function.update s.opened port ok
    failures := if ok then s.failures else s.failures ++ [(s.eth, after.eth)] })

def stopPort (soc : Soc) (port : Port) (s : State) : State :=
  { mtkStop soc port s with opened := Function.update s.opened port false }

/-- An assignment to `rst_mask`, by `|=` or by `=`. -/
inductive Assign where
  | or (bit : RstCtrl)
  | set (bit : RstCtrl)

def Assign.apply (rstMask : List RstCtrl) : Assign → List RstCtrl
  | .or bit => rstMask ++ [bit]
  | .set bit => [bit]

/-- The assignments of `mtk_hw_warm_reset`; `event` is MTK_FE_START_RESET or not. -/
def maskAssigns (soc : Soc) (powerdown startReset : Bool) : List Assign :=
  (if powerdown then [.or .eth] else []) ++
    match soc.netsys with
    | .v3 =>
      [.set .ppe0] ++ (if soc.hasPpe1 then [.or .ppe1] else []) ++
        (if soc.hasPpe2 then [.or .ppe2] else []) ++
        if startReset then [.or .wdma0, .or .wdma1, .or .wdma2] else []
    | .v2 => [.set .ppe0] ++ if soc.hasPpe1 then [.or .ppe1] else []
    | .v1 => [.set .ppe0]

/-- `junk` is what the variable holds before the first assignment. -/
def rstMask (soc : Soc) (powerdown startReset : Bool) (junk : List RstCtrl) : List RstCtrl :=
  (maskAssigns soc powerdown startReset).foldl Assign.apply junk

def mtkHwWarmReset (soc : Soc) (startReset : Bool) (junk : List RstCtrl) (s : State) : State :=
  let powerdown := mtkPhyShouldPowerdown s.eth
  { s with
    log := s.log ++ [.decided powerdown, .warmReset (rstMask soc powerdown startReset junk)] }

def mtkMacFeResetComplete (soc : Soc) (restart : List Port) (s : State) : State :=
  let powerdown := mtkPhyShouldPowerdown s.eth
  let s := { s with log := s.log ++ [.decided powerdown] }
  if powerdown then s
  else { s with
    log := s.log ++
      (((List.finRange 3).filter fun i => i ∈ restart ∧ soc.netdev i = true).map .restored) }

inductive Event where
  | devOpen (port : Port) (attempt : Attempt)
  | devClose (port : Port)
  | netdevRestart
  /-- another trigger than the monitor queues `mtk_pending_work` -/
  | request
  | debugfsForce (force : Bool)
  | monitorStart
  | monitorCheck (engine : Engine) (met : Bool)
  | monitorReport
  | monitorEnd
  /-- `mtk_pending_work` where it holds no lock -/
  | pendingWork
  /-- the next call under the lock, with the outcome of an `mtk_open`, what the reset
  event is, what `rst_mask` begins with, and whether the warm reset becomes a cold one -/
  | work (attempt : Attempt) (startReset : Bool) (junk : List RstCtrl) (cold : Bool)
  deriving DecidableEq

def devOpen (soc : Soc) (port : Port) (attempt : Attempt) (s : State) : State :=
  if s.running port || !soc.netdev port then s
  else
    let (ok, after) := openPort soc port attempt s
    { after with running := Function.update s.running port ok }

def devClose (soc : Soc) (port : Port) (s : State) : State :=
  if s.running port then
    stopPort soc port { s with running := Function.update s.running port false }
  else s

def work (soc : Soc) (attempt : Attempt) (startReset : Bool) (junk : List RstCtrl) (cold : Bool)
    (s : State) : State :=
  match s.holder with
  | .free => s
  | .stopping reset [] restart =>
    { s with holder := if reset then .hwInit restart else .opening reset restart restart }
  | .stopping reset (port :: todo) restart =>
    if soc.netdev port && s.running port then
      { stopPort soc port s with holder := .stopping reset todo (restart ++ [port]) }
    else { s with holder := .stopping reset todo restart }
  | .hwInit restart =>
    { (if cold then s else mtkHwWarmReset soc startReset junk s) with
      holder := .opening true restart restart }
  | .opening reset [] restart =>
    { s with holder := if reset then .completing restart else .free }
  | .opening reset (port :: todo) restart =>
    let (ok, after) := openPort soc port attempt s
    { after with
      holder := if ok then .opening reset todo restart else .closing reset port todo restart }
  | .closing reset port todo restart =>
    { devClose soc port s with holder := .opening reset todo restart }
  | .completing restart =>
    { mtkMacFeResetComplete soc restart s with holder := .free, phase := .waitingAck restart }

def pendingWork (s : State) : State :=
  match s.phase, s.holder with
  | .idle, _ =>
    if s.pendingWork then
      { s with
        phase := .started, pendingWork := false, byGmac := s.gmacRequest, gmacRequest := false }
    else s
  | .started, .free =>
    { s with phase := .handshake, eth := { s.eth with resetting := true }, log := [] }
  | .handshake, .free =>
    { s with phase := .locked, holder := .stopping true (List.finRange 3) [] }
  | .waitingAck restart, .free =>
    { s with
      phase := .idle
      eth := { s.eth with resetting := false }
      resets := s.resets ++ [⟨s.byGmac, restart, s.attached, s.log⟩] }
  | _, _ => s

def isGmac : Engine → Bool
  | .gmacTx _ | .gmacRx _ => true
  | _ => false

def setCount (engine : Engine) (count : Nat) (s : State) : State :=
  { s with eth := { s.eth with hangCount := Function.update s.eth.hangCount engine count } }

/-- `mtk_hw_check_dma_hang` of the monitor at one engine: `met` is its condition. -/
def monitorCheck (engine : Engine) (met : Bool) (s : State) : State :=
  match s.monitor with
  | .checking =>
    if met then
      let count := (s.eth.hangCount engine + 1) % 256
      { setCount engine count s with
        monitor := if 2 < count then .reporting engine else .ending false false }
    else setCount engine 0 s
  | _ => s

def monitorEnd (s : State) : State :=
  match s.monitor with
  | .checking => { s with monitor := .idle }
  | .ending hang gmac =>
    if hang && s.force then
      { s with
        monitor := .idle, pendingWork := true, gmacRequest := s.gmacRequest || gmac }
    else { s with monitor := .idle }
  | _ => s

def step (soc : Soc) (s : State) : Event → State
  | .devOpen port attempt =>
    match s.holder with
    | .free => devOpen soc port attempt s
    | _ => s
  | .devClose port =>
    match s.holder with
    | .free => devClose soc port s
    | _ => s
  | .netdevRestart =>
    match s.holder with
    | .free => { s with holder := .stopping false (List.finRange 3) [] }
    | _ => s
  | .request => { s with pendingWork := true }
  | .debugfsForce force => { s with force }
  | .monitorStart =>
    match s.monitor with
    | .idle => if s.eth.resetting then s else { s with monitor := .checking }
    | _ => s
  | .monitorCheck engine met => monitorCheck engine met s
  | .monitorReport =>
    match s.monitor with
    | .reporting engine => { setCount engine 0 s with monitor := .ending true (isGmac engine) }
    | _ => s
  | .monitorEnd => monitorEnd s
  | .pendingWork => pendingWork s
  | .work attempt startReset junk cold => work soc attempt startReset junk cold s

section Frames

variable (soc : Soc) (port : Port) (attempt : Attempt) (s : State)

theorem connectPhy_frame : ∃ attached log,
    (connectPhy port attempt s).2 = { s with attached, log } := by
  unfold connectPhy
  dsimp only
  split
  · split <;> exact ⟨_, _, rfl⟩
  · exact ⟨_, _, rfl⟩

theorem mtkOpen_frame : ∃ eth attached log,
    (mtkOpen soc port attempt s).2 = { s with eth, attached, log } := by
  unfold mtkOpen
  split
  · split
    · obtain ⟨attached, log, connected⟩ :=
        connectPhy_frame port attempt { s with eth := startDma soc s.eth }
      exact ⟨_, attached, log, connected⟩
    · exact ⟨_, _, _, rfl⟩
  · obtain ⟨attached, log, connected⟩ := connectPhy_frame port attempt
      { s with eth := { s.eth with dmaRefcnt := refcountInc s.eth.dmaRefcnt } }
    exact ⟨_, attached, log, connected⟩

theorem disconnectPhy_frame : ∃ attached log,
    disconnectPhy port s = { s with attached, log } := by
  unfold disconnectPhy
  dsimp only
  split <;> exact ⟨_, _, rfl⟩

/-- A call of `mtk_open` or `mtk_stop`: what it leaves alone, and what it does to a
PHY within a reset that leaves the PHYs alone. -/
structure Calls (s after : State) : Prop where
  holder : after.holder = s.holder
  phase : after.phase = s.phase
  resets : after.resets = s.resets
  byGmac : after.byGmac = s.byGmac
  resetting : after.eth.resetting = s.eth.resetting
  kept : mtkPhyShouldPowerdown s.eth = false →
    after.attached = s.attached ∧ ∃ n, after.log = s.log ++ List.replicate n (.decided false)
  masks : ∀ mask, .warmReset mask ∈ after.log → .warmReset mask ∈ s.log

theorem calls_mtkOpen : Calls s (mtkOpen soc port attempt s).2 := by
  have quiet : ∀ eth : Eth, eth.resetting = s.eth.resetting →
      mtkPhyShouldPowerdown eth = mtkPhyShouldPowerdown s.eth →
      Calls s (connectPhy port attempt { s with eth }).2 := by
    intro eth resetting same
    obtain ⟨attached, log, connected⟩ := connectPhy_frame port attempt { s with eth }
    refine ⟨?_, ?_, ?_, ?_, ?_, ?_, ?_⟩
    · rw [connected]
    · rw [connected]
    · rw [connected]
    · rw [connected]
    · rw [connected]
      exact resetting
    · intro calm
      unfold connectPhy
      simp only [same, calm, Bool.false_eq_true, if_false, true_and]
      exact ⟨1, rfl⟩
    · intro mask
      unfold connectPhy
      dsimp only
      split
      · split <;> simp
      · simp
  unfold mtkOpen
  split
  · split
    · exact quiet _ rfl rfl
    · exact ⟨rfl, rfl, rfl, rfl, rfl, fun _ => ⟨rfl, 0, by simp⟩, fun _ => id⟩
  · exact quiet _ rfl rfl

theorem calls_openPort : Calls s (openPort soc port attempt s).2 :=
  let opened := calls_mtkOpen soc port attempt s
  ⟨opened.holder, opened.phase, opened.resets, opened.byGmac, opened.resetting, opened.kept,
    opened.masks⟩

theorem putDma_resetting (eth : Eth) : (putDma soc eth).resetting = eth.resetting := by
  unfold putDma
  dsimp only
  split <;> rfl

theorem calls_stopPort : Calls s (stopPort soc port s) := by
  obtain ⟨attached, log, stopped⟩ := disconnectPhy_frame port s
  refine ⟨?_, ?_, ?_, ?_, ?_, ?_, ?_⟩
  · simp only [stopPort, mtkStop, stopped]
  · simp only [stopPort, mtkStop, stopped]
  · simp only [stopPort, mtkStop, stopped]
  · simp only [stopPort, mtkStop, stopped]
  · simp only [stopPort, mtkStop, stopped, putDma_resetting]
  · intro calm
    simp only [stopPort, mtkStop, disconnectPhy, calm, Bool.false_eq_true, if_false, true_and]
    exact ⟨1, rfl⟩
  · intro mask
    simp only [stopPort, mtkStop, disconnectPhy]
    split <;> simp

@[simp] theorem openPort_running : (openPort soc port attempt s).2.running = s.running := by
  obtain ⟨eth, attached, log, opened⟩ := mtkOpen_frame soc port attempt s
  simp [openPort, opened]

@[simp] theorem openPort_holder : (openPort soc port attempt s).2.holder = s.holder :=
  (calls_openPort soc port attempt s).holder

@[simp] theorem stopPort_running : (stopPort soc port s).running = s.running := by
  obtain ⟨attached, log, stopped⟩ := disconnectPhy_frame port s
  simp [stopPort, mtkStop, stopped]

@[simp] theorem stopPort_holder : (stopPort soc port s).holder = s.holder :=
  (calls_stopPort soc port s).holder

end Frames

end OpenwrtSource.Ser.EthPorts
