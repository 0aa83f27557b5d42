import OpenwrtSource.As21xxx.Ipc
import OpenwrtSource.Lib.BitField

/-!
# Transfers of the AS21xxx debug API

`aeon_ipc_operation` sends a debug command, writes the caller's buffer, polls until the
firmware is done and reads the answer in chunks of sixteen bytes.  What the firmware and
the bus do with each command is given by an exchange; the commands that only turn the
parity are left out, for the parity that a wait compares with is shared by all PHYs and
may be anything.
-/

namespace OpenwrtSource.As21xxx.DebugTransfer

open Lib.Packed As21xxx.Ipc

def IPC_OPCODE_DBGCMD : BitVec 6 := 22
def IPC_OPCODE_WBUF : BitVec 6 := 24
def MAX_POLL : Nat := 100
def IPC_PAYLOAD_SIZE : Nat := 16

/-- `enum ipc_data_type_t` -/
inductive DataType
  | uint8
  | uint16
  | uint32
  deriving DecidableEq, Repr

def DataType.bytes : DataType → Nat
  | .uint8 => 1
  | .uint16 => 2
  | .uint32 => 4

/-- One turn of the loop of `aeon_ipc_wait_cmd_done`: the status word as it is read, the
parity of `ipc_cmd_num`, and whether the time is over. -/
structure Reading where
  val : BitVec 16
  getPar : Bool
  expired : Bool

def Reading.ends (r : Reading) : Bool :=
  (r.getPar != stsParity r.val &&
      (stsStatus r.val == IPC_STS_CMD_SUCCESS || stsStatus r.val == IPC_STS_CMD_ERROR)) ||
    stsStatus r.val == IPC_STS_CMD_ERROR || r.expired

/-- What the firmware and the bus make of one command. -/
structure Exchange where
  /-- the write of a data register arrives -/
  written : Nat → Bool
  /-- what a data register holds before -/
  before : Nat → BitVec 16
  /-- the command arrives, and the firmware takes it and answers it before the wait ends -/
  taken : Bool
  /-- the turns of the wait; the time is over at the final one -/
  readings : List Reading
  final : Reading
  /-- the data registers after the wait, and the reads of them that fail -/
  data : Nat → BitVec 16
  failed : Nat → Option Errno

/-- `aeon_ipc_wait_cmd_done` -/
def Exchange.wait (e : Exchange) : Status :=
  stsStatus ((e.readings.find? Reading.ends).getD e.final).val

/-- `aeon_mdio_read_reg` of a data register: an error number is cut to 16 bits. -/
def Exchange.readReg (e : Exchange) (i : Nat) : BitVec 16 :=
  (phyReadMmd (e.failed i) (e.data i)).setWidth 16

/-- A message with data, as the firmware finds it. -/
structure Message where
  opcode : BitVec 6
  size : BitVec 5
  regs : Nat → BitVec 16

/-- `aeon_send_ipc_msg`: what the firmware takes. -/
def Exchange.send (e : Exchange) (len : Nat) (val : Nat → BitVec 16) (opcode : BitVec 6)
    (size : Nat) : List Message :=
  if e.taken then
    [{ opcode := opcode
       size := BitVec.ofNat 5 size
       regs := fun i => if i < min len 8 ∧ e.written i = true then val i else e.before i }]
  else []

structure Request where
  dbgSec : BitVec 16
  dbgCmd : BitVec 16
  /-- the memory at `write_data` -/
  writeData : Option (Nat → BitVec 8)
  writeSize : Nat
  writeType : DataType
  recvBuf : Option (Nat → BitVec 8)
  recvSize : Nat
  recvType : DataType
  small : writeSize * writeType.bytes ≤ 16
  short : recvSize < 65536

structure Env where
  dbg : Exchange
  wbuf : Exchange
  poll : Nat → Exchange
  rbuf : Nat → Exchange
  kmalloc : Bool

def Request.writes (req : Request) : Option (Nat → BitVec 8) :=
  if 0 < req.writeSize then req.writeData else none

def Request.receives (req : Request) : Option (Nat → BitVec 8) :=
  if 0 < req.recvSize then req.recvBuf else none

def Request.writeSizeBytes (req : Request) : Nat :=
  if req.writes.isSome then req.writeSize * req.writeType.bytes % 65536 else 0

def Request.writeSizeWords (req : Request) : Nat := (req.writeSizeBytes + 1) / 2 % 65536

def u16At (mem : Nat → BitVec 8) (i : Nat) : BitVec 16 := mem (2 * i + 1) ++ mem (2 * i)

def u32At (mem : Nat → BitVec 8) (i : Nat) : BitVec 32 :=
  mem (4 * i + 3) ++ mem (4 * i + 2) ++ mem (4 * i + 1) ++ mem (4 * i)

/-- `write_ipc_data` after its loop; a word that no element reaches stays zero. -/
def writeIpcData (type : DataType) (size : Nat) (mem : Nat → BitVec 8) (j : Nat) : BitVec 16 :=
  match type with
  | .uint16 => if j < size then u16At mem j else 0
  | .uint8 =>
    if 2 * j < size then
      (mem (2 * j)).setWidth 16 |||
        (if 2 * j + 1 < size then (mem (2 * j + 1)).setWidth 16 <<< 8 else 0)
    else 0
  | .uint32 =>
    if j / 2 < size then
      if j % 2 = 0 then (u32At mem (j / 2) &&& 0xFFFF).setWidth 16
      else (u32At mem (j / 2) >>> 16 &&& 0xFFFF).setWidth 16
    else 0

def aeonIpcDbgCmd (req : Request) (e : Exchange) : Status × List Message :=
  let data : Nat → BitVec 16 := fun i =>
    if i = 0 then req.dbgSec <<< 8 ||| req.dbgCmd
    else if i = 1 then BitVec.ofNat 16 req.writeSizeBytes else 0
  (if e.wait ≠ IPC_STS_CMD_SUCCESS then IPC_STS_CMD_ERROR else IPC_STS_CMD_SUCCESS,
    e.send 3 data IPC_OPCODE_DBGCMD 6)

def aeonIpcWbuf (req : Request) (e : Exchange) : Status × List Message :=
  match req.writes with
  | some mem =>
    (if e.wait ≠ IPC_STS_CMD_SUCCESS then IPC_STS_CMD_ERROR else IPC_STS_CMD_SUCCESS,
      e.send req.writeSizeWords (writeIpcData req.writeType req.writeSize mem) IPC_OPCODE_WBUF
        req.writeSizeBytes)
  | none => (IPC_STS_CMD_SUCCESS, [])

/-- The firmware answers a poll with a number that is not zero. -/
def Exchange.reports (e : Exchange) : Bool := e.taken && e.data 0 != 0

/-- The loop of `aeon_ipc_poll` with some turns left: its result, and whether the firmware
has reported that it is done. -/
def pollLoop (poll : Nat → Exchange) : Nat → Nat → Status × Bool
  | 0, _ => (IPC_STS_CMD_SUCCESS, false)
  | left + 1, iter =>
    if (poll iter).wait ≠ IPC_STS_CMD_SUCCESS then (IPC_STS_CMD_ERROR, (poll iter).reports)
    else if (poll iter).readReg 0 ≠ 0 then (IPC_STS_CMD_SUCCESS, (poll iter).reports)
    else
      let rest := pollLoop poll left (iter + 1)
      (rest.1, (poll iter).reports || rest.2)

def aeonIpcPoll (poll : Nat → Exchange) : Status × Bool := pollLoop poll MAX_POLL 0

def byteAt (regs : Nat → BitVec 16) (b : Nat) : BitVec 8 :=
  (regs (b / 2) >>> (8 * (b % 2))).setWidth 8

/-- The loop of `aeon_ipc_recv`: no result while it runs on. -/
structure Receipt where
  ret : Option Status
  target : Nat → BitVec 8
  overrun : Bool

/-- All words of a chunk are stored, whatever is left to receive. -/
def storeChunk (e : Exchange) (ctr : Nat) (target : Nat → BitVec 8) : Nat → BitVec 8 :=
  fun b => if ctr ≤ b ∧ b < ctr + IPC_PAYLOAD_SIZE then byteAt e.readReg (b - ctr) else target b

/-- `ctr` has 16 bits and is back at zero after 4096 turns. -/
def recvLoop (size : Nat) (rbuf : Nat → Exchange) : Nat → Nat → Nat → Receipt → Receipt
  | 0, ctr, _, r => { r with ret := if ctr < size then none else some IPC_STS_CMD_SUCCESS }
  | left + 1, ctr, k, r =>
    if ctr < size then
      if (rbuf k).wait ≠ IPC_STS_CMD_SUCCESS then { r with ret := some IPC_STS_CMD_ERROR }
      else
        recvLoop size rbuf left ((ctr + IPC_PAYLOAD_SIZE) % 65536) (k + 1)
          { r with
            target := storeChunk (rbuf k) ctr r.target
            overrun := r.overrun || decide (size < ctr + IPC_PAYLOAD_SIZE) }
    else { r with ret := some IPC_STS_CMD_SUCCESS }

/-- Element `i` of the temporary buffer, of `n` bytes. -/
def element (temp : Nat → BitVec 8) (n i : Nat) : BitVec 32 :=
  packed 8 fun k : Fin n => (temp (i * n + k.val)).setWidth 32

/-- The elements that fit are stored in the receive buffer. -/
def copyBack (n size : Nat) (temp buf : Nat → BitVec 8) (b : Nat) : BitVec 8 :=
  if b / n < size / n then (element temp n (b / n)).extractLsb' (8 * (b % n)) 8 else buf b

structure Outcome where
  /-- no result when the call does not end -/
  ret : Option Status
  /-- what the firmware has taken -/
  received : List Message
  /-- the firmware has reported that it is done -/
  done : Bool
  recvBuf : Nat → BitVec 8
  /-- a byte beyond the end of the receive buffer or the temporary one is written -/
  overrun : Bool
  allocated : Bool
  frees : Nat

def aeonIpcRecv (req : Request) (env : Env) (received : List Message) (done : Bool) : Outcome :=
  match req.receives with
  | none =>
    { ret := some IPC_STS_CMD_SUCCESS, received := received, done := done,
      recvBuf := req.recvBuf.getD fun _ => 0, overrun := false, allocated := false, frees := 0 }
  | some buf =>
    if req.recvType = .uint8 then
      let r := recvLoop req.recvSize env.rbuf 4096 0 0
        { ret := none, target := buf, overrun := false }
      { ret := r.ret, received := received, done := done, recvBuf := r.target,
        overrun := r.overrun, allocated := false, frees := 0 }
    else if env.kmalloc then
      let r := recvLoop req.recvSize env.rbuf 4096 0 0
        { ret := none, target := fun _ => 0, overrun := false }
      if r.ret = some IPC_STS_CMD_SUCCESS then
        { ret := r.ret, received := received, done := done,
          recvBuf := copyBack req.recvType.bytes req.recvSize r.target buf,
          overrun := r.overrun, allocated := true, frees := 1 }
      else
        { ret := r.ret, received := received, done := done, recvBuf := buf,
          overrun := r.overrun, allocated := true, frees := 0 }
    else
      { ret := some IPC_STS_CMD_ERROR, received := received, done := done, recvBuf := buf,
        overrun := false, allocated := false, frees := 0 }

def stopped (req : Request) (received : List Message) (done : Bool) : Outcome where
  ret := some IPC_STS_CMD_ERROR
  received := received
  done := done
  recvBuf := req.recvBuf.getD fun _ => 0
  overrun := false
  allocated := false
  frees := 0

def aeonIpcOperation (req : Request) (env : Env) : Outcome :=
  let dbg := aeonIpcDbgCmd req env.dbg
  if dbg.1 ≠ IPC_STS_CMD_SUCCESS then stopped req dbg.2 false
  else
    let wbuf := aeonIpcWbuf req env.wbuf
    if wbuf.1 ≠ IPC_STS_CMD_SUCCESS then stopped req (dbg.2 ++ wbuf.2) false
    else
      let poll := aeonIpcPoll env.poll
      if poll.1 ≠ IPC_STS_CMD_SUCCESS then stopped req (dbg.2 ++ wbuf.2) poll.2
      else aeonIpcRecv req env (dbg.2 ++ wbuf.2) poll.2

end OpenwrtSource.As21xxx.DebugTransfer
