import Mathlib.Data.BitVec

/-!
# The hang monitor

`mtk_hw_check_dma_hang` looks at one engine after the other.  The first one
that meets its condition is counted up and ends the call; the ones before it
are cleared, and the ones behind it are not looked at.
-/

namespace OpenwrtSource.Ser.HangMonitor

abbrev Port := Fin 3

@[instance] theorem neZeroPorts : NeZero 3 := ⟨by decide⟩

inductive Reg where
  /-- `wdma_base[i]` and an offset -/
  | wdma (i : Port) (ofs : Nat)
  | feCdm1Fsm
  | feCdm2Fsm
  | feCdm3Fsm
  | feCdm4Fsm
  | feCdm5Fsm
  | feGdm1Fsm
  | feGdm2Fsm
  | feGdm3Fsm
  | macFsm (i : Port)
  | pseIqSta (ofs : Nat)
  | pseOqSta (ofs : Nat)
  | pdmaGloCfg
  | pdmaRxPtr (ring : Nat)
  | pdmaPcrxPtr (ring : Nat)
  | pdmaPdrxPtr (ring : Nat)
  | qdma (ofs : Nat)
  deriving DecidableEq

inductive PsePort where
  | gdm (i : Port)
  | wdma (i : Port)
  | adma

/-- The SoC, with the port numbers and the register bits of the kernel's headers. -/
structure Soc where
  mt7628 : Bool
  netsysV2OrGreater : Bool
  psePort : PsePort → Nat
  MTK_TX_DMA_BUSY : BitVec 32
  MTK_RX_DMA_EN : BitVec 32

structure Sample where
  r32 : Reg → BitVec 32
  /-- the net device of the port exists and runs -/
  running : Port → Bool
  xgmii : Port → Bool
  txPackets : Port → BitVec 64
  rxPackets : Port → BitVec 64
  rxFlowControlPackets : Port → BitVec 64

def MTK_FE_CDMW_FSM (i : Port) : Reg :=
  if i = 0 then .feCdm3Fsm else if i = 1 then .feCdm4Fsm else .feCdm5Fsm

def MTK_FE_GDM_FSM (i : Port) : Reg :=
  if i = 0 then .feGdm1Fsm else if i = 1 then .feCdm2Fsm else .feCdm3Fsm

def Soc.staField (soc : Soc) (reg : Nat → Reg) (now : Sample) (port : Nat) : BitVec 32 :=
  if soc.netsysV2OrGreater then
    (now.r32 (reg ((port >>> 1) <<< 2)) >>> (16 * (port % 2))) &&& 0x0FFF
  else (now.r32 (reg ((port >>> 2) <<< 2)) >>> (8 * (port % 4))) &&& 0xFF

def Soc.mtkGetIqSta (soc : Soc) (now : Sample) (port : PsePort) : BitVec 32 :=
  soc.staField .pseIqSta now (soc.psePort port)

def Soc.mtkGetOqSta (soc : Soc) (now : Sample) (port : PsePort) : BitVec 32 :=
  soc.staField .pseOqSta now (soc.psePort port)

def fieldGet (hi lo : Nat) (v : BitVec 32) : BitVec 32 := (v.extractLsb hi lo).setWidth 32

namespace Sample

variable (soc : Soc) (now : Sample)

def wdidx (i : Port) : BitVec 32 := now.r32 (.wdma i 0xc)

/-- `wtx_busy`, `cdm_busy` and `oq_free` -/
def wdmaBusy (i : Port) : Bool :=
  now.r32 (.wdma i 0x204) &&& soc.MTK_TX_DMA_BUSY != 0 &&
  fieldGet 12 0 (now.r32 (MTK_FE_CDMW_FSM i)) != 0 &&
  soc.mtkGetOqSta now (.gdm 0) == 0 &&
  soc.mtkGetOqSta now (.gdm 1) == 0 &&
  soc.mtkGetOqSta now (.gdm 2) == 0 &&
  soc.mtkGetOqSta now (.wdma 0) == 0 &&
  soc.mtkGetOqSta now (.wdma 1) == 0 &&
  soc.mtkGetOqSta now (.wdma 2) == 0

def txgpCnt (i : Port) : BitVec 32 := (now.txPackets i).setWidth 32
def rxgpCnt (i : Port) : BitVec 32 := (now.rxPackets i).setWidth 32
def rxfcCnt (i : Port) : BitVec 32 := (now.rxFlowControlPackets i).setWidth 32

def iqHang (i : Port) : Bool := soc.mtkGetIqSta now (.gdm i) != 0
def oqHang (i : Port) : Bool := soc.mtkGetOqSta now (.gdm i) != 0

def gmacTx (i : Port) : Bool := fieldGet 31 24 (now.r32 (.macFsm i)) != 1
def gmacRx (i : Port) : Bool := fieldGet 23 16 (now.r32 (.macFsm i)) != 1

def gdmTxfsm (fsm : Port → Reg) (i : Port) : BitVec 32 := fieldGet 28 16 (now.r32 (fsm i))
def gdmRxfsm (fsm : Port → Reg) (i : Port) : BitVec 32 := fieldGet 7 0 (now.r32 (fsm i))

def admaEn : Bool := now.r32 .pdmaGloCfg &&& soc.MTK_RX_DMA_EN != 0
def ringUsed (ring : Nat) : Bool := now.r32 (.pdmaRxPtr ring) != 0
def ringFull (ring : Nat) : Bool := now.r32 (.pdmaPcrxPtr ring) == now.r32 (.pdmaPdrxPtr ring)
def cdmaRxfsm : BitVec 32 := fieldGet 27 16 (now.r32 .feCdm1Fsm)

def qfsmHang : Bool := fieldGet 12 8 (now.r32 (.qdma 0x234)) != 0
def qfwdHang : Bool := now.r32 (.qdma 0x308) == 0

end Sample

inductive Engine where
  | wdmaTx (i : Port)
  | gmacTx (i : Port)
  | gmacRx (i : Port)
  | gdmTx (i : Port)
  | gdmRx (i : Port)
  | admaRx
  | qdmaTx
  deriving DecidableEq

/-- The snapshot arrays of `eth->reset`. -/
inductive Snapshot where
  | wdidx
  | adidx
  | gdmTxgpCnt
  | gdmRxgpCnt
  | gdmRxfcCnt
  | gdmTxfsm
  | gdmRxfsm
  | cdmaRxfsm
  deriving DecidableEq

def Snapshot.length : Snapshot → Nat
  | .cdmaRxfsm => 1
  | _ => 3

structure Cell where
  array : Snapshot
  index : Nat
  deriving DecidableEq

/-- Where a cell lies: `gdm_txgp_cnt` follows `adidx`. -/
def Cell.place (cell : Cell) : Cell :=
  if cell = ⟨.adidx, 3⟩ then ⟨.gdmTxgpCnt, 0⟩ else cell

structure Reset where
  cells : Cell → BitVec 32
  /-- the `u8` counters, those of the arrays by the port of the engine -/
  hangCount : Engine → Nat

/-- A call on its way: `writes` tells which engine's part wrote which snapshot,
`hangs` which engines it has reported. -/
structure Call where
  reset : Reset
  gdmRxfc : Bool
  writes : List (Engine × Cell)
  hangs : List Engine

namespace Call

def get (c : Call) (array : Snapshot) (i : Nat) : BitVec 32 :=
  c.reset.cells (Cell.place ⟨array, i⟩)

def set (engine : Engine) (array : Snapshot) (i : Nat) (value : BitVec 32) (c : Call) : Call :=
  { c with
    reset := { c.reset with
      cells := Function.update c.reset.cells (Cell.place ⟨array, i⟩) value }
    writes := c.writes ++ [(engine, ⟨array, i⟩)] }

def setCount (engine : Engine) (count : Nat) (c : Call) : Call :=
  { c with
    reset := { c.reset with hangCount := Function.update c.reset.hangCount engine count } }

/-- `if (++count > 2)`: report, and begin again. -/
def countUp (engine : Engine) (c : Call) : Call :=
  let count := (c.reset.hangCount engine + 1) % 256
  if count > 2 then { c.setCount engine 0 with hangs := c.hangs ++ [engine] }
  else c.setCount engine count

end Call

/-- What all parts do: an engine that meets its condition is counted up, its
snapshots are taken, and the call ends (`goto out`); otherwise it is cleared. -/
def check (engine : Engine) (hang : Bool) (onHang onPass : Call → Call) (c : Call) :
    Except Call Call :=
  if hang then .error (onHang (c.countUp engine)) else .ok (onPass (c.setCount engine 0))

variable (soc : Soc) (now : Sample)

def wdmaTx (i : Port) (c : Call) : Except Call Call :=
  if now.wdidx i = 0 then .ok c
  else
    check (.wdmaTx i) (now.wdidx i == c.get .wdidx i && now.wdmaBusy soc i)
      (Call.set (.wdmaTx i) .wdidx i (now.wdidx i))
      (Call.set (.wdmaTx i) .wdidx i (now.wdidx i)) c

def gmacTx (i : Port) (c : Call) : Except Call Call :=
  check (.gmacTx i)
    (now.oqHang soc i && now.gmacTx i && now.txgpCnt i == c.get .gdmTxgpCnt i &&
      now.rxfcCnt i == c.get .gdmRxfcCnt i)
    id id c

def gmacRx (i : Port) (c : Call) : Except Call Call :=
  check (.gmacRx i) (now.gmacRx i && now.rxgpCnt i == c.get .gdmRxgpCnt i)
    (fun c => (c.set (.gmacRx i) .gdmTxgpCnt i (now.txgpCnt i)).set (.gmacRx i) .gdmRxfcCnt i
      (now.rxfcCnt i))
    id c

def gdmTx (i : Port) (c : Call) : Except Call Call :=
  check (.gdmTx i)
    (now.oqHang soc i && now.txgpCnt i == c.get .gdmTxgpCnt i &&
      now.rxfcCnt i == c.get .gdmRxfcCnt i &&
      (now.gdmTxfsm MTK_FE_GDM_FSM i == c.get .gdmTxfsm i &&
        now.gdmTxfsm MTK_FE_GDM_FSM i == 0x1033))
    (Call.set (.gdmTx i) .gdmRxgpCnt i (now.rxgpCnt i))
    (fun c => ((c.set (.gdmTx i) .gdmTxfsm i (now.gdmTxfsm MTK_FE_GDM_FSM i)).set
      (.gdmTx i) .gdmTxgpCnt i (now.txgpCnt i)).set (.gdmTx i) .gdmRxfcCnt i (now.rxfcCnt i))
    c

def gdmRx (i : Port) (c : Call) : Except Call Call :=
  check (.gdmRx i)
    (now.iqHang soc i && now.rxgpCnt i == c.get .gdmRxgpCnt i &&
      (now.gdmRxfsm MTK_FE_GDM_FSM i == c.get .gdmRxfsm i &&
        (now.gdmRxfsm MTK_FE_GDM_FSM i == 0x23 || now.gdmRxfsm MTK_FE_GDM_FSM i == 0x24)))
    id
    (fun c => (c.set (.gdmRx i) .gdmRxfsm i (now.gdmRxfsm MTK_FE_GDM_FSM i)).set
      (.gdmRx i) .gdmRxgpCnt i (now.rxgpCnt i))
    c

def noteRxfc (i : Port) (c : Call) : Call :=
  { c with gdmRxfc := c.gdmRxfc || now.rxfcCnt i - c.get .gdmRxfcCnt i != 0 }

def gdm (i : Port) (c : Call) : Except Call Call :=
  if !now.running i then .ok c
  else if now.xgmii i then do
    let c ← gdmTx soc now i (noteRxfc now i c)
    gdmRx soc now i c
  else do
    let c ← gmacTx soc now i (noteRxfc now i c)
    let c ← gmacRx now i c
    let c ← gdmTx soc now i c
    .ok (c.set (.gdmTx i) .gdmRxgpCnt i (now.rxgpCnt i))

/-- One turn of the loop over the rings of ADMA, with `adma_full` and `adma_hang`. -/
def admaRing (acc : Call × Bool × Bool) (ring : Nat) : Call × Bool × Bool :=
  let (c, admaFull, admaHang) := acc
  if !now.ringUsed ring then acc
  else
    let adidx := now.r32 (.pdmaPdrxPtr ring)
    (c.set .admaRx .adidx ring adidx, admaFull || now.ringFull ring,
      admaHang && adidx == c.get .adidx ring)

def admaRx (c : Call) : Except Call Call :=
  let (c, admaFull, admaHang) := [0, 1, 2, 3].foldl (admaRing now) (c, false, true)
  check .admaRx
    (soc.mtkGetOqSta now .adma != 0 && now.admaEn soc && !admaFull && admaHang &&
      (now.cdmaRxfsm != 0 && now.cdmaRxfsm == c.get .cdmaRxfsm 0))
    id (Call.set .admaRx .cdmaRxfsm 0 now.cdmaRxfsm) c

def qdmaTx (c : Call) : Except Call Call :=
  check .qdmaTx (!c.gdmRxfc && now.qfsmHang && now.qfwdHang) id id c

def call (reset : Reset) : Except Call Call := do
  let c : Call := { reset, gdmRxfc := false, writes := [], hangs := [] }
  let c ← wdmaTx soc now 0 c
  let c ← wdmaTx soc now 1 c
  let c ← wdmaTx soc now 2 c
  let c ← gdm soc now 0 c
  let c ← gdm soc now 1 c
  let c ← gdm soc now 2 c
  let c ← admaRx soc now c
  qdmaTx now c

/-- `mtk_hw_check_dma_hang`; it returns true if an engine is reported. -/
def mtkHwCheckDmaHang (reset : Reset) : Call :=
  if soc.mt7628 then { reset, gdmRxfc := false, writes := [], hangs := [] }
  else
    match call soc now reset with
    | .ok c => c
    | .error c => c

end OpenwrtSource.Ser.HangMonitor
