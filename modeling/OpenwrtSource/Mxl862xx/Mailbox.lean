import Mathlib.Data.BitVec
import Mathlib.Logic.Function.Basic

/-!
# The mailbox of the switch firmware

A command, its size and 94 data words in the registers of an MMD, behind MDIO accesses any
of which can fail.  More words go through the same registers window by window.
-/

namespace OpenwrtSource.Mxl862xx.Mailbox

abbrev Word := BitVec 16

abbrev Byte := BitVec 8

def CTRL_BUSY_MASK : Word := 0x8000

def MAX_BUSY_LOOP : Nat := 1000

def MXL862XX_MMD_DEV : Word := 30

def MXL862XX_MMD_REG_CTRL : Word := 0

def MXL862XX_MMD_REG_LEN_RET : Word := 1

def MXL862XX_MMD_REG_DATA_FIRST : Nat := 2

/-- `MXL862XX_MMD_REG_DATA_MAX_SIZE`. -/
def DATA_MAX_SIZE : Nat := 94

def MMD_API_SET_DATA_0 : Nat := 2

def MMD_API_GET_DATA_0 : Nat := 5

def MMD_API_RST_DATA : Nat := 8

def MXL862XX_MMD_DATA : Word := 0xe

def MXL862XX_MMD_CTRL : Word := 0xd

def MXL862XX_ACTYPE_DATA : Word := 0x4000

/-- The device in `MXL862XX_MMD_CTRL`. -/
def mmdMask : Word := 0x1f

/-- A command of the firmware's API, apart from the commands for the windows. -/
structure Command where
  number : Word
  api : MMD_API_RST_DATA < number.toNat
  notBusy : number.toNat < 0x8000

/-- A command as it was executed: its number and the bytes that it got. -/
structure Executed where
  number : Nat
  bytes : List Byte

structure Switch where
  lenRet : Word
  /-- How many reads still find the firmware busy. -/
  busyLeft : Nat
  data : Nat → Word
  /-- The windows that `SET_DATA` stored. -/
  stored : Nat → Nat → Word
  /-- The words of the last answer. -/
  answer : Nat → Word
  executed : List Executed

/-- The low or the high byte of a word, as it lies in memory. -/
def byteOf (word : Word) (odd : Bool) : Byte := if odd then word.extractLsb' 8 8 else word.setWidth 8

def byteAt (words : Nat → Word) (b : Nat) : Byte := byteOf (words (b / 2)) (b % 2 == 1)

/-- `(size + 1) / 2`. -/
def wordsOf (size : Word) : Nat := (size.toNat + 1) / 2

/-- The input of a command: its last window is in the registers, those before it are stored. -/
def Switch.input (s : Switch) (i : Nat) : Word :=
  if i / DATA_MAX_SIZE < (wordsOf s.lenRet - 1) / DATA_MAX_SIZE then
    s.stored (i / DATA_MAX_SIZE) (i % DATA_MAX_SIZE)
  else s.data (i % DATA_MAX_SIZE)

/-- The phases of a call that wait for the firmware. -/
inductive Stage where
  | start
  | set (i : Nat)
  | command
  | get (i : Nat)

inductive Place where
  | poll (stage : Stage) (n : Nat)
  | len (stage : Stage)
  | ctrl (stage : Stage)
  | put (i : Nat)
  | result
  | fetch (i : Nat)

/-- What is around the driver: which MDIO accesses fail, the `k`th of those for a register
access, and which of them take effect nevertheless; how long the firmware is busy, and what
it answers. -/
structure Env where
  c22Extended : Bool
  fails : Place → Nat → Bool
  lands : Place → Nat → Bool
  busy : Stage → Nat
  result : Word
  answer : Nat → Word

def execute (env : Env) (s : Switch) (number : Nat) : Switch :=
  if number < MMD_API_SET_DATA_0 then s
  else if number < MMD_API_GET_DATA_0 then
    { s with stored := Function.update s.stored (number - MMD_API_SET_DATA_0) s.data }
  else if number < MMD_API_RST_DATA then
    { s with data := fun i => s.answer ((number - MMD_API_GET_DATA_0) * DATA_MAX_SIZE + i) }
  else if number = MMD_API_RST_DATA then s
  else
    { s with
      executed := s.executed ++
        [⟨number, (List.range s.lenRet.toNat).map (byteAt s.input)⟩]
      answer := env.answer
      lenRet := env.result
      data := env.answer }

/-- The stage that a write to the control register starts. -/
def busyOf (env : Env) : Place → Nat
  | .ctrl stage => env.busy stage
  | _ => 0

def regWrite (env : Env) (place : Place) (s : Switch) (reg val : Word) : Switch :=
  if reg = MXL862XX_MMD_REG_CTRL then
    if val &&& CTRL_BUSY_MASK = 0 then s
    else { execute env s (val &&& ~~~ CTRL_BUSY_MASK).toNat with busyLeft := busyOf env place }
  else if reg = MXL862XX_MMD_REG_LEN_RET then { s with lenRet := val }
  else { s with data := Function.update s.data (reg.toNat - MXL862XX_MMD_REG_DATA_FIRST) val }

def regRead (s : Switch) (reg : Word) : Word × Switch :=
  if reg = MXL862XX_MMD_REG_CTRL then
    if s.busyLeft = 0 then (0, s) else (CTRL_BUSY_MASK, { s with busyLeft := s.busyLeft - 1 })
  else if reg = MXL862XX_MMD_REG_LEN_RET then (s.lenRet, s)
  else (s.data (reg.toNat - MXL862XX_MMD_REG_DATA_FIRST), s)

/-- The switch behind the two clause 22 registers, and whether an access has failed. -/
structure Bus where
  mmdCtrl : Word
  mmdAddr : Word
  switch : Switch
  failed : Bool

/-- A write to `MXL862XX_MMD_CTRL`, or one to `MXL862XX_MMD_DATA` in the mode set there. -/
def c22Effect (env : Env) (place : Place) (bus : Bus) (reg val : Word) : Bus :=
  if reg = MXL862XX_MMD_CTRL then { bus with mmdCtrl := val }
  else if bus.mmdCtrl &&& MXL862XX_ACTYPE_DATA = 0 then { bus with mmdAddr := val }
  else if bus.mmdCtrl &&& mmdMask = MXL862XX_MMD_DEV then
    { bus with switch := regWrite env place bus.switch bus.mmdAddr val }
  else bus

/-- A write that may fail, whether it takes effect then or not. -/
def tryWrite (env : Env) (place : Place) (k : Nat) (bus : Bus) (effect : Bus → Bus) :
    Bool × Bus :=
  if env.fails place k then
    (false, { (if env.lands place k then effect bus else bus) with failed := true })
  else (true, effect bus)

def mdiobusWrite (env : Env) (place : Place) (k : Nat) (bus : Bus) (reg val : Word) :
    Bool × Bus :=
  tryWrite env place k bus fun b => c22Effect env place b reg val

def tryRead (env : Env) (place : Place) (k : Nat) (bus : Bus) (reg : Word) :
    Option Word × Bus :=
  if env.fails place k then (none, { bus with failed := true })
  else
    (some (regRead bus.switch reg).1, { bus with switch := (regRead bus.switch reg).2 })

def c22Select (env : Env) (place : Place) (bus : Bus) (mmd reg : Word) : Bool × Bus :=
  match mdiobusWrite env place 0 bus MXL862XX_MMD_CTRL mmd with
  | (false, bus) => (false, bus)
  | (true, bus) =>
    match mdiobusWrite env place 1 bus MXL862XX_MMD_DATA reg with
    | (false, bus) => (false, bus)
    | (true, bus) => mdiobusWrite env place 2 bus MXL862XX_MMD_CTRL (MXL862XX_ACTYPE_DATA ||| mmd)

def mxl862xxC22ExtMmdWrite (env : Env) (place : Place) (bus : Bus) (mmd reg data : Word) :
    Bool × Bus :=
  match c22Select env place bus mmd reg with
  | (false, bus) => (false, bus)
  | (true, bus) => mdiobusWrite env place 3 bus MXL862XX_MMD_DATA data

def mxl862xxC22ExtMmdRead (env : Env) (place : Place) (bus : Bus) (mmd reg : Word) :
    Option Word × Bus :=
  match c22Select env place bus mmd reg with
  | (false, bus) => (none, bus)
  | (true, bus) => tryRead env place 3 bus bus.mmdAddr

def mxl862xxRead (env : Env) (place : Place) (bus : Bus) (addr : Word) : Option Word × Bus :=
  if env.c22Extended then mxl862xxC22ExtMmdRead env place bus MXL862XX_MMD_DEV addr
  else tryRead env place 0 bus addr

def mxl862xxWrite (env : Env) (place : Place) (bus : Bus) (addr data : Word) : Bool × Bus :=
  if env.c22Extended then mxl862xxC22ExtMmdWrite env place bus MXL862XX_MMD_DEV addr data
  else tryWrite env place 0 bus fun b => { b with switch := regWrite env place b.switch addr data }

inductive Err where
  | bus
  | ETIMEDOUT
  | EINVAL
  /-- A negative result of the firmware. -/
  | firmware (result : Word)

abbrev Ret (α : Type) := Except Err α × Bus

/-- The loop with `left` rounds to go. -/
def busyLoop (env : Env) (stage : Stage) : Nat → Bus → Ret Unit
  | 0, bus => (.error .ETIMEDOUT, bus)
  | left + 1, bus =>
    match mxl862xxRead env (.poll stage (MAX_BUSY_LOOP - (left + 1))) bus
      MXL862XX_MMD_REG_CTRL with
    | (none, bus) => (.error .bus, bus)
    | (some ret, bus) =>
      if ret &&& CTRL_BUSY_MASK = 0 then (.ok (), bus) else busyLoop env stage left bus

def mxl862xxBusyWait (env : Env) (stage : Stage) (bus : Bus) : Ret Unit :=
  busyLoop env stage MAX_BUSY_LOOP bus

/-- A command for the control register, `number` as a `u16`, and the wait for its end. -/
def issue (env : Env) (stage : Stage) (number : Nat) (bus : Bus) : Ret Unit :=
  match mxl862xxWrite env (.ctrl stage) bus MXL862XX_MMD_REG_CTRL
    (BitVec.ofNat 16 number ||| CTRL_BUSY_MASK) with
  | (false, bus) => (.error .bus, bus)
  | (true, bus) => mxl862xxBusyWait env stage bus

/-- What `set_data` and `get_data` write to the length register. -/
def windowLen : Word := BitVec.ofNat 16 (DATA_MAX_SIZE * 2)

def mxl862xxSetData (env : Env) (words : Nat) (bus : Bus) : Ret Unit :=
  match mxl862xxWrite env (.len (.set words)) bus MXL862XX_MMD_REG_LEN_RET windowLen with
  | (false, bus) => (.error .bus, bus)
  | (true, bus) =>
    let cmd := (words / DATA_MAX_SIZE + 65535) % 65536
    if cmd < 2 then issue env (.set words) (cmd + MMD_API_SET_DATA_0) bus
    else (.error .EINVAL, bus)

def mxl862xxGetData (env : Env) (words : Nat) (bus : Bus) : Ret Unit :=
  match mxl862xxWrite env (.len (.get words)) bus MXL862XX_MMD_REG_LEN_RET windowLen with
  | (false, bus) => (.error .bus, bus)
  | (true, bus) =>
    let cmd := words / DATA_MAX_SIZE
    if 0 < cmd ∧ cmd < 3 then issue env (.get words) (cmd + MMD_API_GET_DATA_0) bus
    else (.error .EINVAL, bus)

/-- The result is the `int16_t` in the length register. -/
def mxl862xxSendCmd (env : Env) (cmd size : Word) (bus : Bus) : Ret Word :=
  match mxl862xxWrite env (.len .command) bus MXL862XX_MMD_REG_LEN_RET size with
  | (false, bus) => (.error .bus, bus)
  | (true, bus) =>
    match issue env .command cmd.toNat bus with
    | (.error err, bus) => (.error err, bus)
    | (.ok _, bus) =>
      match mxl862xxRead env .result bus MXL862XX_MMD_REG_LEN_RET with
      | (none, bus) => (.error .bus, bus)
      | (some result, bus) => (.ok result, bus)

abbrev Memory := Nat → Byte

/-- `le16_to_cpu(data[i])`. -/
def wordAt (mem : Memory) (i : Nat) : Word := mem (2 * i + 1) ++ mem (2 * i)

/-- The register of the word `i`. -/
def dataReg (i : Nat) : Word := BitVec.ofNat 16 (MXL862XX_MMD_REG_DATA_FIRST + i % DATA_MAX_SIZE)

/-- The loop that writes the words from `i` on, `left` of them.  The result of a write to a
data register is not looked at. -/
def putWords (env : Env) (mem : Memory) (i : Nat) : Nat → Bus → Ret Unit
  | 0, bus => (.ok (), bus)
  | left + 1, bus =>
    match if i ≠ 0 ∧ i % DATA_MAX_SIZE = 0 then mxl862xxSetData env i bus else (.ok (), bus) with
    | (.error err, bus) => (.error err, bus)
    | (.ok _, bus) =>
      putWords env mem (i + 1) left
        (mxl862xxWrite env (.put i) bus (dataReg i) (wordAt mem i)).2

/-- The word `i` of the answer into the buffer; of the last word of an odd size one byte. -/
def storeWord (mem : Memory) (size : Word) (i : Nat) (ret : Word) : Memory :=
  if i * 2 + 1 = size.toNat then Function.update mem (2 * i) (byteOf ret false)
  else Function.update (Function.update mem (2 * i) (byteOf ret false)) (2 * i + 1) (byteOf ret true)

/-- The loop that reads the words from `i` on, `left` of them. -/
def fetchWords (env : Env) (size : Word) (i : Nat) : Nat → Memory → Bus → Ret Unit × Memory
  | 0, mem, bus => ((.ok (), bus), mem)
  | left + 1, mem, bus =>
    match if i ≠ 0 ∧ i % DATA_MAX_SIZE = 0 then mxl862xxGetData env i bus else (.ok (), bus) with
    | (.error err, bus) => ((.error err, bus), mem)
    | (.ok _, bus) =>
      match mxl862xxRead env (.fetch i) bus (dataReg i) with
      | (none, bus) => ((.error .bus, bus), mem)
      | (some ret, bus) =>
        fetchWords env size (i + 1) left (storeWord mem size i ret) bus

/-- The part of the call after the command: the result, and the answer into the buffer. -/
def finish (env : Env) (size : Word) (read : Bool) (mem : Memory) (result : Word) (bus : Bus) :
    Ret Word × Memory :=
  if result.msb then ((.error (.firmware result), bus), mem)
  else if read then
    match fetchWords env size 0 (wordsOf size) mem bus with
    | ((.error err, bus), mem) => ((.error err, bus), mem)
    | ((.ok _, bus), mem) => ((.ok result, bus), mem)
  else ((.ok result, bus), mem)

def mxl862xxApiWrap (env : Env) (cmd : Word) (mem : Memory) (size : Word) (read : Bool)
    (bus : Bus) : Ret Word × Memory :=
  match mxl862xxBusyWait env .start bus with
  | (.error err, bus) => ((.error err, bus), mem)
  | (.ok _, bus) =>
    match putWords env mem 0 (wordsOf size) bus with
    | (.error err, bus) => ((.error err, bus), mem)
    | (.ok _, bus) =>
      match mxl862xxSendCmd env cmd size bus with
      | (.error err, bus) => ((.error err, bus), mem)
      | (.ok result, bus) => finish env size read mem result bus

end OpenwrtSource.Mxl862xx.Mailbox
