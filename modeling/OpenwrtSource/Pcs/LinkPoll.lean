import Mathlib.Data.BitVec
import Mathlib.Logic.Function.Basic

/-!
# The cached link state of the PCS

`mtk_pcs_lynxi` and `mtk_usxgmii_pcs` decode the link in a worker and keep the
result in `mpcs->state`; `get_state` only loads the cache.  Every step below is
one access to a shared field: a thread may be overtaken between any two.  What
one takes under `regmap_lock` from data that only holders of the lock write is
one step.
-/

namespace OpenwrtSource.Pcs.LinkPoll

inductive PhyInterface
  | na
  | sgmii
  | base1000x
  | base2500x
  | base5gr
  | base10gr
  | base10gkr
  | usxgmii
  | other (mode : Nat)
  deriving DecidableEq

/-- The fields of `struct phylink_link_state` that the cache passes on. -/
structure LinkState where
  speed : Int
  duplex : Int
  interface : PhyInterface
  anComplete : Bool
  link : Bool
  deriving DecidableEq

/-- What all threads see of `struct mtk_pcs_lynxi` or `struct mtk_usxgmii_pcs`. -/
structure Mpcs (Adv : Type) where
  interface : PhyInterface
  negMode : Int
  poll : Bool
  state : LinkState
  advertising : Adv
  lpAdvertising : Adv

inductive Field
  | speed
  | duplex
  | interface
  | anComplete
  deriving DecidableEq

namespace Field

def index : Field → Nat
  | speed => 0
  | duplex => 1
  | interface => 2
  | anComplete => 3

def following : Field → Option Field
  | speed => some duplex
  | duplex => some interface
  | interface => some anComplete
  | anComplete => none

/-- One assignment of `store_mpcs_state` or `load_mpcs_state`. -/
def assign (source : LinkState) : Field → LinkState → LinkState
  | speed, target => { target with speed := source.speed }
  | duplex, target => { target with duplex := source.duplex }
  | interface, target => { target with interface := source.interface }
  | anComplete, target => { target with anComplete := source.anComplete }

def Same (a b : LinkState) : Field → Prop
  | speed => a.speed = b.speed
  | duplex => a.duplex = b.duplex
  | interface => a.interface = b.interface
  | anComplete => a.anComplete = b.anComplete

end Field

/-- How one step of an `update_state` ends. -/
inductive Outcome (Phase : Type)
  | blocked
  | proceed (next : Phase)
  | abandon
  /-- The early `return` behind a failed register read leaves the mutex locked. -/
  | wedged
  | store (state : LinkState) (madeFor : PhyInterface)

structure Driver (Adv Regs Phase : Type) where
  /-- The modes that `link_poll` serves. -/
  polled : List PhyInterface
  /-- The status reads of `link_poll`, each under the lock. -/
  tests : List (Regs → Bool)
  updateStart : Phase
  updateState : Mpcs Adv → Bool → Regs → Phase → Outcome Phase
  /-- `config` gets past its checks of the mode. -/
  accepts : PhyInterface → Bool
  configSetsNegMode : Bool
  disableClearsInterface : Bool
  getStateCopiesAdvertising : Bool

structure LynxiRegs where
  pcsControl1 : BitVec 32
  pcsAdvertise : BitVec 32
  readable : Bool

def mtkPcsLynxiLinkStatus (regs : LynxiRegs) : Bool := regs.pcsControl1.getLsbD 18

/-- The places of `mtk_pcs_lynxi_update_state`: the copy of the cache, field by
field as far as others write it, the test and the decode. -/
inductive LynxiUpdate (Adv : Type)
  | copyAdvertising
  | copyLpAdvertising (advertising : Adv)
  | copyState (advertising lpAdvertising : Adv)
  | decode (advertising lpAdvertising : Adv) (state : LinkState)

section Lynxi

variable {Adv : Type} (linkmodeEmpty : Adv → Bool)
  (decodeState : LinkState → Adv → Adv → Int → BitVec 16 → BitVec 16 → LinkState)

/-- `phylink_mii_c22_pcs_decode_state` goes by `state->interface`, and that is the
mode of the decode before: the current one is filled in behind it. -/
def mtkPcsLynxiUpdateState (mpcs : Mpcs Adv) (unlocked : Bool) (regs : LynxiRegs) :
    LynxiUpdate Adv → Outcome (LynxiUpdate Adv)
  | .copyAdvertising => .proceed (.copyLpAdvertising mpcs.advertising)
  | .copyLpAdvertising advertising => .proceed (.copyState advertising mpcs.lpAdvertising)
  | .copyState advertising lpAdvertising =>
    if linkmodeEmpty advertising then .abandon
    else .proceed (.decode advertising lpAdvertising mpcs.state)
  | .decode advertising lpAdvertising state =>
    if unlocked = false then .blocked
    else if regs.readable = false then .wedged
    else
      let decoded := decodeState state advertising lpAdvertising mpcs.negMode
        (regs.pcsControl1.extractLsb' 16 16) (regs.pcsAdvertise.extractLsb' 16 16)
      .store { decoded with interface := mpcs.interface } state.interface

def lynxi (linkTimer : PhyInterface → Bool) : Driver Adv LynxiRegs (LynxiUpdate Adv) where
  polled := [.sgmii, .base1000x, .base2500x]
  tests := [mtkPcsLynxiLinkStatus]
  updateStart := .copyAdvertising
  updateState := mtkPcsLynxiUpdateState linkmodeEmpty decodeState
  accepts := linkTimer
  configSetsNegMode := true
  disableClearsInterface := false
  getStateCopiesAdvertising := true

end Lynxi

structure UsxgmiiRegs where
  rxStatus0 : BitVec 32
  tphyD0 : BitVec 32
  /-- `USXGMII_AN_ENABLE` of `RG_PCS_AN_CTRL0`. -/
  anEnable : Bool
  anCtrl0 : BitVec 32
  anStatus : BitVec 32

def mtkUsxgmiiPcsLinkStatus (regs : UsxgmiiRegs) : Bool := regs.rxStatus0.getLsbD 2

def mtkUsxgmiiPcsIsValidCtle (regs : UsxgmiiRegs) : Bool :=
  decide ((regs.tphyD0.extractLsb' 8 5).toNat ≤ 10)

inductive UsxgmiiUpdate
  | copyState
  | linkStatus (state : LinkState)
  | interface (state : LinkState)
  | decode (state : LinkState)

section Usxgmii

variable {Adv : Type} (getAnState getFixedSpeed : LinkState → UsxgmiiRegs → LinkState)

/-- The mode is read before the lock is taken; the registers that are decoded
under it are those of the mode configured by then. -/
def mtkUsxgmiiPcsUpdateState (mpcs : Mpcs Adv) (unlocked : Bool) (regs : UsxgmiiRegs) :
    UsxgmiiUpdate → Outcome UsxgmiiUpdate
  | .copyState => .proceed (.linkStatus mpcs.state)
  | .linkStatus state =>
    if unlocked = false then .blocked
    else .proceed (.interface { state with link := mtkUsxgmiiPcsLinkStatus regs })
  | .interface state => .proceed (.decode { state with interface := mpcs.interface })
  | .decode state =>
    if unlocked = false then .blocked
    else if regs.anEnable then .store (getAnState state regs) mpcs.interface
    else .store (getFixedSpeed state regs) mpcs.interface

def usxgmii (known : PhyInterface → Bool) : Driver Adv UsxgmiiRegs UsxgmiiUpdate where
  polled := [.base5gr, .base10gr, .base10gkr, .usxgmii]
  tests := [mtkUsxgmiiPcsLinkStatus, mtkUsxgmiiPcsIsValidCtle]
  updateStart := .copyState
  updateState := mtkUsxgmiiPcsUpdateState getAnState getFixedSpeed
  accepts := known
  configSetsNegMode := false
  disableClearsInterface := true
  getStateCopiesAdvertising := false

end Usxgmii

inductive Holder
  | worker
  | control
  deriving DecidableEq

inductive ConfigPc
  | entered (negMode : Int) (interface : PhyInterface)
  | locked (negMode : Int) (interface : PhyInterface)
  | negMode (negMode : Int)
  | unlocking
  | finished

/-- A finished `update_state`: the state that it stores, the mode it was decoded
as, the calls of `enable` before it and its place among the decodes. -/
structure Decode where
  state : LinkState
  madeFor : PhyInterface
  enables : Nat
  serial : Nat
  deriving DecidableEq

inductive Worker (Regs Phase : Type)
  | idle
  | checking (modes : List PhyInterface)
  | pollFlag
  | testing (rest : List (Regs → Bool))
  | updating (phase : Phase)
  | storing (next : Field) (decode : Decode)
  | publishing (decode : Decode)
  | lowering
  | readNegMode
  | readInterface (negMode : Int)
  | configuring (pc : ConfigPc)
  | leaving

inductive Control
  | idle
  | configuring (pc : ConfigPc)
  | cancelling
  | lowering
  | clearInterface
  | clearNegMode

inductive GetPc (Adv : Type)
  | idle
  | copyAdvertising (advertising lpAdvertising : Adv)
  | copyLpAdvertising (lpAdvertising : Adv)
  | checking
  | loadLink
  /-- `follows` is the decode whose speed was loaded. -/
  | loading (next : Field) (got : LinkState) (follows : Decode)

/-- A running `get_state`, the calls of `enable` before it, and the modes that
have been configured while it runs. -/
structure Call (Adv : Type) where
  pc : GetPc Adv
  since : Nat
  seen : List PhyInterface

structure Report where
  state : LinkState
  since : Nat
  seen : List PhyInterface

structure World (Adv Regs Phase Reader : Type) where
  mpcs : Mpcs Adv
  lock : Option Holder
  pending : Bool
  cancelling : Bool
  worker : Worker Regs Phase
  control : Control
  calls : Reader → Call Adv
  /- the history -/
  enables : Nat
  decodes : List Decode
  origin : Field → Decode
  reports : List Report

def unknownState : LinkState := ⟨0, 0, .na, false, false⟩

def unwritten : Decode := ⟨unknownState, .na, 0, 0⟩

section Steps

variable {Adv Regs Phase Reader : Type}

def probed (empty : Adv) (negMode : Int) : World Adv Regs Phase Reader where
  mpcs := ⟨.na, negMode, true, unknownState, empty, empty⟩
  lock := none
  pending := false
  cancelling := false
  worker := .idle
  control := .idle
  calls := fun _ => ⟨.idle, 0, []⟩
  enables := 0
  decodes := []
  origin := fun _ => unwritten
  reports := []

def setLink (link : Bool) (w : World Adv Regs Phase Reader) : World Adv Regs Phase Reader :=
  { w with mpcs := { w.mpcs with state := { w.mpcs.state with link } } }

def setNegMode (negMode : Int) (w : World Adv Regs Phase Reader) :
    World Adv Regs Phase Reader :=
  { w with mpcs := { w.mpcs with negMode } }

/-- The running `get_state` calls see the new mode configured. -/
def setInterface (interface : PhyInterface) (w : World Adv Regs Phase Reader) :
    World Adv Regs Phase Reader :=
  { w with
    mpcs := { w.mpcs with interface }
    calls := fun r => { w.calls r with seen := interface :: (w.calls r).seen } }

/-- `mtk_pcs_lynxi_config` and `mtk_usxgmii_pcs_config`, by the fields they share
with the other threads. -/
def configStep (driver : Driver Adv Regs Phase) (holder : Holder)
    (w : World Adv Regs Phase Reader) : ConfigPc → World Adv Regs Phase Reader × ConfigPc
  | .entered negMode interface =>
    if driver.accepts interface = false then (w, .finished)
    else if w.lock.isSome then (w, .entered negMode interface)
    else ({ w with lock := some holder }, .locked negMode interface)
  | .locked negMode interface =>
    if w.mpcs.interface ≠ interface ∨
        (driver.configSetsNegMode = true ∧ w.mpcs.negMode ≠ negMode) then
      (setInterface interface w,
        if driver.configSetsNegMode then .negMode negMode else .unlocking)
    else (w, .unlocking)
  | .negMode negMode => (setNegMode negMode w, .unlocking)
  | .unlocking => ({ w with lock := none }, .finished)
  | .finished => (w, .finished)

/-- The local `state` is decoded: `store_mpcs_state` begins. -/
def beginStore (state : LinkState) (madeFor : PhyInterface)
    (w : World Adv Regs Phase Reader) : World Adv Regs Phase Reader :=
  let decode : Decode := ⟨state, madeFor, w.enables, w.decodes.length + 1⟩
  { w with decodes := decode :: w.decodes, worker := .storing .speed decode }

def storeField (next : Field) (decode : Decode) (w : World Adv Regs Phase Reader) :
    World Adv Regs Phase Reader :=
  { w with
    mpcs := { w.mpcs with state := next.assign decode.state w.mpcs.state }
    origin := Function.update w.origin next decode
    worker := match next.following with
      | some field => .storing field decode
      | none => .publishing decode }

/-- One step of `mtk_pcs_lynxi_link_poll` or `mtk_usxgmii_pcs_link_poll`, with the
registers as they are in that step. -/
def linkPoll (driver : Driver Adv Regs Phase) (regs : Regs)
    (w : World Adv Regs Phase Reader) : World Adv Regs Phase Reader :=
  match w.worker with
  | .idle => w
  | .checking [] => { w with worker := .leaving }
  | .checking (mode :: rest) =>
    { w with worker := if w.mpcs.interface = mode then .pollFlag else .checking rest }
  | .pollFlag => { w with worker := if w.mpcs.poll then .testing driver.tests else .leaving }
  | .testing [] => { w with worker := .updating driver.updateStart }
  | .testing (test :: rest) =>
    if w.lock.isSome then w
    else { w with worker := if test regs then .testing rest else .lowering }
  | .updating phase =>
    match driver.updateState w.mpcs w.lock.isNone regs phase with
    | .blocked => w
    | .proceed next => { w with worker := .updating next }
    | .abandon => { w with worker := .leaving }
    | .wedged => { w with lock := some .worker, worker := .leaving }
    | .store state madeFor => beginStore state madeFor w
  | .storing next decode => storeField next decode w
  | .publishing decode => setLink decode.state.link { w with worker := .leaving }
  | .lowering => setLink false { w with worker := .readNegMode }
  | .readNegMode => { w with worker := .readInterface w.mpcs.negMode }
  | .readInterface negMode =>
    { w with worker := .configuring (.entered negMode w.mpcs.interface) }
  | .configuring pc =>
    { (configStep driver .worker w pc).1 with
      worker := match (configStep driver .worker w pc).2 with
        | .finished => .leaving
        | next => .configuring next }
  | .leaving => { w with worker := .idle, pending := w.pending || !w.cancelling }

def Worker.isIdle : Worker Regs Phase → Bool
  | .idle => true
  | _ => false

/-- One step of the `config` or the `disable` that phylink is in. -/
def controlStep (driver : Driver Adv Regs Phase) (w : World Adv Regs Phase Reader) :
    World Adv Regs Phase Reader :=
  match w.control with
  | .idle => w
  | .configuring pc =>
    { (configStep driver .control w pc).1 with
      control := match (configStep driver .control w pc).2 with
        | .finished => .idle
        | next => .configuring next }
  -- cancel_delayed_work_sync() returns once the worker is not running
  | .cancelling =>
    if w.worker.isIdle then { w with cancelling := false, control := .lowering } else w
  | .lowering =>
    setLink false
      { w with control := if driver.disableClearsInterface then .clearInterface else .idle }
  | .clearInterface => setInterface .na { w with control := .clearNegMode }
  | .clearNegMode => setNegMode (-1) { w with control := .idle }

section Readers

variable [DecidableEq Reader]

def setCall (reader : Reader) (call : Call Adv) (w : World Adv Regs Phase Reader) :
    World Adv Regs Phase Reader :=
  { w with calls := Function.update w.calls reader call }

def setPc (reader : Reader) (pc : GetPc Adv) (w : World Adv Regs Phase Reader) :
    World Adv Regs Phase Reader :=
  setCall reader { w.calls reader with pc } w

def beginGetState (driver : Driver Adv Regs Phase) (reader : Reader)
    (advertising lpAdvertising : Adv) (w : World Adv Regs Phase Reader) :
    World Adv Regs Phase Reader :=
  setCall reader
    { pc := if driver.getStateCopiesAdvertising then .copyAdvertising advertising lpAdvertising
        else .checking
      since := w.enables
      seen := [w.mpcs.interface] } w

/-- One assignment of `load_mpcs_state`; the last one ends the call. -/
def loadField (reader : Reader) (next : Field) (got : LinkState) (follows : Decode)
    (w : World Adv Regs Phase Reader) : World Adv Regs Phase Reader :=
  let loaded := next.assign w.mpcs.state got
  let speedFrom := if next = .speed then w.origin .speed else follows
  match next.following with
  | some field => setPc reader (.loading field loaded speedFrom) w
  | none =>
    setPc reader .idle
      { w with
        reports := ⟨loaded, (w.calls reader).since, (w.calls reader).seen⟩ :: w.reports }

/-- One step of `mtk_pcs_lynxi_get_state` or `mtk_usxgmii_pcs_get_state`. -/
def getStateStep (reader : Reader) (w : World Adv Regs Phase Reader) :
    World Adv Regs Phase Reader :=
  match (w.calls reader).pc with
  | .idle => w
  | .copyAdvertising advertising lpAdvertising =>
    setPc reader (.copyLpAdvertising lpAdvertising)
      { w with mpcs := { w.mpcs with advertising } }
  | .copyLpAdvertising lpAdvertising =>
    setPc reader .checking { w with mpcs := { w.mpcs with lpAdvertising } }
  -- the link is reported down, and nothing else is written
  | .checking =>
    if w.mpcs.state.interface = .na then setPc reader .idle w else setPc reader .loadLink w
  | .loadLink =>
    setPc reader
      (.loading .speed { unknownState with link := w.mpcs.state.link } unwritten) w
  | .loading next got follows => loadField reader next got follows w

end Readers

end Steps

inductive Event (Adv Regs Reader : Type)
  | config (negMode : Int) (interface : PhyInterface)
  | enable
  | disable
  | control
  /-- The `link_poll` file of the debugfs. -/
  | setPoll (poll : Bool)
  | expire
  | poll (regs : Regs)
  | getState (reader : Reader) (advertising lpAdvertising : Adv)
  | load (reader : Reader)

variable {Adv Regs Phase Reader : Type} [DecidableEq Reader]

/-- phylink makes its calls one after the other: a new one waits for the last. -/
def Control.isIdle : Control → Bool
  | .idle => true
  | _ => false

def GetPc.isIdle : GetPc Adv → Bool
  | .idle => true
  | _ => false

def step (driver : Driver Adv Regs Phase) (w : World Adv Regs Phase Reader) :
    Event Adv Regs Reader → World Adv Regs Phase Reader
  | .config negMode interface =>
    if w.control.isIdle then { w with control := .configuring (.entered negMode interface) }
    else w
  | .enable =>
    if w.control.isIdle then { w with enables := w.enables + 1, pending := true } else w
  | .disable =>
    if w.control.isIdle then
      { w with pending := false, cancelling := true, control := .cancelling }
    else w
  | .control => controlStep driver w
  | .setPoll poll => { w with mpcs := { w.mpcs with poll } }
  | .expire =>
    if w.pending && w.worker.isIdle then
      { w with pending := false, worker := .checking driver.polled }
    else w
  | .poll regs => linkPoll driver regs w
  | .getState reader advertising lpAdvertising =>
    if (w.calls reader).pc.isIdle then beginGetState driver reader advertising lpAdvertising w
    else w
  | .load reader => getStateStep reader w

end OpenwrtSource.Pcs.LinkPoll
