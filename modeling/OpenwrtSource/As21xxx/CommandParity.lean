import Mathlib.Data.List.Nodup
import Mathlib.Logic.Function.Basic
import OpenwrtSource.As21xxx.Ipc
import OpenwrtSource.Lib.Run

/-!
# The parity of IPC commands

The firmware of a PHY takes a command for a new one when its parity bit differs
from that of the last command it has executed.  The PHY driver keeps the next
parity for each PHY, and the debug API keeps one counter for all of them: after a
command of the one sender, a command of the other may be ignored and answered
with the status that an earlier command has left.
-/

namespace OpenwrtSource.As21xxx.CommandParity

open Lib.Run As21xxx.Ipc

/-! ## Command words -/

def IPC_CMD_PARITY : BitVec 16 := 0x8000

/-- [1 bit parity][4 bits reserved][5 bits size][6 bits opcode]. -/
def cmdWord (size : BitVec 5) (opcode : BitVec 6) : BitVec 16 :=
  size.setWidth 16 <<< 6 + opcode.setWidth 16

def getPar (ipcCmdNum : BitVec 32) : Bool := ipcCmdNum.getLsbD 0

/-- `aeon_ipc_build_cmd` of the debug API. -/
def aeonIpcBuildCmd (ipcCmdNum : BitVec 32) (size : BitVec 5) (opcode : BitVec 6) : BitVec 16 :=
  if getPar ipcCmdNum then cmdWord size opcode ||| IPC_CMD_PARITY
  else cmdWord size opcode &&& ~~~ IPC_CMD_PARITY

/-- The command of `aeon_ipc_send_cmd` in the driver. -/
def driverCmd (parityStatus : Bool) (size : BitVec 5) (opcode : BitVec 6) : BitVec 16 :=
  if parityStatus then cmdWord size opcode ||| IPC_CMD_PARITY else cmdWord size opcode

def cmdParity (cmd : BitVec 16) : Bool := cmd.getLsbD 15

/-! ## The PHYs and the two senders -/

structure Reply where
  size : BitVec 5
  opcode : BitVec 6
  status : Status

/-- A command that was written; commands are numbered in the order of their writes.
`fresh` says that its parity was not that of the command that the PHY had taken last. -/
structure Command where
  phy : Nat
  cmd : BitVec 16
  fresh : Bool
deriving DecidableEq

/-- The caller that holds the lock of the driver for a PHY. -/
inductive Driver where
  | idle
  /-- `aeon_ipc_sync_parity` has sent its first NOOP. -/
  | syncing
  | waiting (id : Nat) (currParity : Bool)

structure Phy where
  parityStatus : Bool
  driver : Driver
  /-- The parity of the last command that the firmware has taken. -/
  last : Bool
  /-- The commands that it has taken and not yet executed. -/
  running : List Nat
  executed : List Nat
  sts : Sts

/-- A send function has reported success for `id`: the status that it has read was
published for `answered`. -/
structure Report where
  id : Nat
  answered : Option Nat
deriving DecidableEq

structure World where
  phys : Nat → Phy
  ipcCmdNum : BitVec 32
  commands : List Command
  /-- The commands that callers of the debug API wait for. -/
  debugWaits : List Nat
  reports : List Report

/-- Whatever parity the firmware of a PHY starts with, and whatever its status. -/
def World.init (last : Nat → Bool) (sts : Nat → Sts) : World where
  phys p := ⟨false, .idle, last p, [], [], sts p⟩
  ipcCmdNum := 0
  commands := []
  debugWaits := []
  reports := []

inductive Event where
  | driverSend (p : Nat) (size : BitVec 5) (opcode : BitVec 6)
  /-- The two NOOPs of `aeon_ipc_sync_parity` in the driver. -/
  | driverSyncFirst (p : Nat)
  | driverSyncSecond (p : Nat)
  /-- The poll loop ends; `expired` says that the time is over. -/
  | driverPoll (p : Nat) (expired : Bool)
  /-- `waits` is false of the NOOPs of `aeon_ipc_sync_parity` in the debug API. -/
  | debugSend (p : Nat) (size : BitVec 5) (opcode : BitVec 6) (waits : Bool)
  | debugPoll (id : Nat) (expired : Bool)
  /-- The firmware executes the first command that it has taken. -/
  | execute (p : Nat) (reply : Reply)

def IPC_CMD_NOOP : BitVec 6 := 0

def World.setPhy (w : World) (p : Nat) (phy : Phy) : World :=
  { w with phys := Function.update w.phys p phy }

/-- A write of the command register: the firmware takes a command whose parity differs. -/
def World.write (w : World) (p : Nat) (cmd : BitVec 16) : World :=
  let phy := w.phys p
  let fresh := cmdParity cmd != phy.last
  let taken :=
    if fresh then
      { phy with last := cmdParity cmd, running := phy.running ++ [w.commands.length] }
    else phy
  { w.setPhy p taken with commands := w.commands ++ [⟨p, cmd, fresh⟩] }

/-- `aeon_ipc_send_cmd` up to the poll loop. -/
def driverWrite (w : World) (p : Nat) (parityAfter : Bool) (driver : Driver) (size : BitVec 5)
    (opcode : BitVec 6) : World :=
  let w' := w.write p (driverCmd (w.phys p).parityStatus size opcode)
  w'.setPhy p { w'.phys p with parityStatus := parityAfter, driver }

def report (w : World) (p : Nat) (id : Nat) : World :=
  { w with reports := ⟨id, (w.phys p).executed.getLast?⟩ :: w.reports }

def driverPoll (w : World) (p : Nat) (expired : Bool) : World :=
  let phy := w.phys p
  match phy.driver with
  | .waiting id currParity =>
    let val := phyReadMmd none phy.sts.word
    if pollDone currParity val || expired then
      let w := if stsStatus val = IPC_STS_CMD_SUCCESS then report w p id else w
      w.setPhy p { phy with driver := .idle }
    else w
  | _ => w

/-- The loop of `aeon_ipc_wait_cmd_done` ends; `get_par` is read anew each time. -/
def waitDone (ipcCmdNum : BitVec 32) (sts : Sts) (expired : Bool) : Bool :=
  getPar ipcCmdNum != sts.parity && sts.status == IPC_STS_CMD_SUCCESS ||
    sts.status == IPC_STS_CMD_ERROR || expired

def debugPoll (w : World) (id : Nat) (expired : Bool) : World :=
  match w.commands[id]? with
  | some command =>
    let sts := (w.phys command.phy).sts
    if id ∈ w.debugWaits ∧ waitDone w.ipcCmdNum sts expired = true then
      let w := if sts.status = IPC_STS_CMD_SUCCESS then report w command.phy id else w
      { w with debugWaits := w.debugWaits.erase id }
    else w
  | none => w

def execute (w : World) (p : Nat) (reply : Reply) : World :=
  let phy := w.phys p
  match phy.running with
  | [] => w
  | id :: rest =>
    let parity := (w.commands[id]?.map fun command => cmdParity command.cmd).getD false
    w.setPhy p
      { phy with
        running := rest
        executed := phy.executed ++ [id]
        sts := ⟨parity, reply.size, reply.opcode, reply.status⟩ }

def step (w : World) : Event → World
  | .driverSend p size opcode =>
    match (w.phys p).driver with
    | .idle =>
      let parity := (w.phys p).parityStatus
      driverWrite w p (!parity) (.waiting w.commands.length parity) size opcode
    | _ => w
  | .driverSyncFirst p =>
    match (w.phys p).driver with
    -- Reset packet parity
    | .idle => driverWrite w p false .syncing 0 IPC_CMD_NOOP
    | _ => w
  | .driverSyncSecond p =>
    match (w.phys p).driver with
    | .syncing =>
      let parity := (w.phys p).parityStatus
      driverWrite w p (!parity) (.waiting w.commands.length parity) 0 IPC_CMD_NOOP
    | _ => w
  | .driverPoll p expired => driverPoll w p expired
  | .debugSend p size opcode waits =>
    let sent := w.write p (aeonIpcBuildCmd w.ipcCmdNum size opcode)
    { sent with
      ipcCmdNum := w.ipcCmdNum + 1
      debugWaits := if waits then w.commands.length :: w.debugWaits else w.debugWaits }
  | .debugPoll id expired => debugPoll w id expired
  | .execute p reply => execute w p reply

/-! ## The property -/

/-- The command was executed once, by the PHY it was written to, and its own status was
read. -/
def Report.Sound (w : World) (report : Report) : Prop :=
  report.answered = some report.id ∧ ∃ command, w.commands[report.id]? = some command ∧
    (w.phys command.phy).executed.count report.id = 1

structure Sound (w : World) : Prop where
  reports : ∀ report ∈ w.reports, report.Sound w
  ordered : ∀ p, (w.phys p).executed.Pairwise (· < ·)

/-- The parity of the command was new to the PHY, which has executed it and no command
written later. -/
def Latest (w : World) (id : Nat) : Prop :=
  ∃ command, w.commands[id]? = some command ∧ command.fresh = true ∧
    id ∉ (w.phys command.phy).running ∧
    ∀ later other, w.commands[later]? = some other → id < later → other.phy = command.phy →
      other.fresh = true → later ∈ (w.phys command.phy).running

def StepOk (w : World) : Event → Prop
  | .driverPoll p expired => ∀ id currParity, (w.phys p).driver = .waiting id currParity →
      (pollDone currParity (phyReadMmd none (w.phys p).sts.word) || expired) = true →
      (w.phys p).sts.status = IPC_STS_CMD_SUCCESS → Latest w id
  | .debugPoll id expired => ∀ command, w.commands[id]? = some command → id ∈ w.debugWaits →
      waitDone w.ipcCmdNum (w.phys command.phy).sts expired = true →
      (w.phys command.phy).sts.status = IPC_STS_CMD_SUCCESS → Latest w id
  | _ => True

/-! ## The invariant -/

def Takes (commands : List Command) (p id : Nat) : Prop :=
  ∃ command, commands[id]? = some command ∧ command.phy = p ∧ command.fresh = true

/-- What a PHY has executed and what it is at are the commands that it has taken, in the
order of their writes. -/
structure Tracks (commands : List Command) (p : Nat) (executed running : List Nat) : Prop where
  sorted : (executed ++ running).Pairwise (· < ·)
  taken : ∀ id, id ∈ executed ++ running ↔ Takes commands p id

structure Inv (w : World) : Prop where
  reports : ∀ report ∈ w.reports, report.Sound w
  tracks : ∀ p, Tracks w.commands p (w.phys p).executed (w.phys p).running
  waits : ∀ p id currParity, (w.phys p).driver = .waiting id currParity →
    ∃ command, w.commands[id]? = some command ∧ command.phy = p

theorem sound_of_inv (w : World) (inv : Inv w) : Sound w :=
  ⟨inv.reports, fun p => (List.pairwise_append.mp (inv.tracks p).sorted).1⟩

theorem inv_init (last : Nat → Bool) (sts : Nat → Sts) : Inv (World.init last sts) where
  reports _ member := nomatch member
  tracks _ :=
    ⟨List.Pairwise.nil, fun _ =>
      ⟨fun member => (nomatch member), fun ⟨_, absent, _⟩ => (nomatch absent)⟩⟩
  waits _ _ _ waiting := nomatch waiting

theorem sorted_getLast {done todo : List Nat} (sorted : (done ++ todo).Pairwise (· < ·)) (k : Nat) :
    done.getLast? = some k ↔
      k ∈ done ++ todo ∧ k ∉ todo ∧ ∀ j ∈ done ++ todo, k < j → j ∈ todo := by
  rcases List.eq_nil_or_concat' done with rfl | ⟨before, last, rfl⟩
  · constructor
    · exact fun absent => nomatch absent
    · rintro ⟨member, notTodo, -⟩
      exact absurd member notTodo
  · rw [List.getLast?_concat, Option.some.injEq]
    obtain ⟨sortedDone, -, apart⟩ := List.pairwise_append.mp sorted
    obtain ⟨-, -, below⟩ := List.pairwise_append.mp sortedDone
    constructor
    · rintro rfl
      refine ⟨by simp, fun member => ?_, fun j member larger => ?_⟩
      · exact absurd (apart last (by simp) last member) (Nat.lt_irrefl last)
      · rcases List.mem_append.mp member with isDone | isTodo
        · rcases List.mem_append.mp isDone with earlier | isLast
          · exact absurd (below j earlier last (by simp)) (Nat.lt_asymm larger)
          · exact absurd (List.mem_singleton.mp isLast) (Nat.ne_of_gt larger)
        · exact isTodo
    · rintro ⟨member, notTodo, later⟩
      rcases List.mem_append.mp member with isDone | isTodo
      · rcases List.mem_append.mp isDone with earlier | isLast
        · have isTodo := later last (by simp) (below k earlier last (by simp))
          exact absurd (apart last (by simp) last isTodo) (Nat.lt_irrefl last)
        · exact (List.mem_singleton.mp isLast).symm
      · exact absurd isTodo notTodo

theorem getLast?_iff_latest {w : World} (inv : Inv w) {id : Nat} {command : Command}
    (sent : w.commands[id]? = some command) :
    (w.phys command.phy).executed.getLast? = some id ↔ Latest w id := by
  have tracks := inv.tracks command.phy
  rw [sorted_getLast tracks.sorted, tracks.taken]
  constructor
  · rintro ⟨⟨same, found, -, fresh⟩, notRunning, later⟩
    obtain rfl := Option.some.inj (found.symm.trans sent)
    refine ⟨same, sent, fresh, notRunning, fun j other written larger phy newer => ?_⟩
    exact later j ((tracks.taken j).mpr ⟨other, written, phy, newer⟩) larger
  · rintro ⟨same, found, fresh, notRunning, later⟩
    obtain rfl := Option.some.inj (found.symm.trans sent)
    refine ⟨⟨same, sent, rfl, fresh⟩, notRunning, fun j member larger => ?_⟩
    obtain ⟨other, written, phy, newer⟩ := (tracks.taken j).mp member
    exact later j other written larger phy newer

/-! ## What a step keeps -/

section

variable {w w' : World}

theorem Report.Sound.mono {report : Report} (sound : report.Sound w)
    (commands : ∀ (id : Nat) (command : Command), w.commands[id]? = some command →
      w'.commands[id]? = some command)
    (executed : ∀ p id, (w.phys p).executed.count id = 1 → (w'.phys p).executed.count id = 1) :
    report.Sound w' := by
  obtain ⟨answered, command, sent, once⟩ := sound
  exact ⟨answered, command, commands _ _ sent, executed _ _ once⟩

@[simp] theorem setPhy_same (w : World) (p : Nat) (phy : Phy) : (w.setPhy p phy).phys p = phy :=
  Function.update_self _ _ _

theorem setPhy_other (w : World) (p : Nat) (phy : Phy) {q : Nat} (other : q ≠ p) :
    (w.setPhy p phy).phys q = w.phys q := Function.update_of_ne other _ _

theorem Inv.replacePhy (inv : Inv w) (p : Nat) {phy : Phy}
    (once : ∀ id, (w.phys p).executed.count id = 1 → phy.executed.count id = 1)
    (tracks : Tracks w.commands p phy.executed phy.running)
    (waits : ∀ id currParity, phy.driver = .waiting id currParity →
      ∃ command, w.commands[id]? = some command ∧ command.phy = p) : Inv (w.setPhy p phy) := by
  refine ⟨fun report member => ?_, fun q => ?_, fun q id currParity waiting => ?_⟩
  · refine Report.Sound.mono (inv.reports report member) (fun _ _ sent => sent)
      fun q id before => ?_
    by_cases own : q = p
    · subst own
      rw [setPhy_same]
      exact once id before
    · rw [setPhy_other w p phy own]
      exact before
  · by_cases own : q = p
    · subst own
      rw [setPhy_same]
      exact tracks
    · rw [setPhy_other w p phy own]
      exact inv.tracks q
  · by_cases own : q = p
    · subst own
      rw [setPhy_same] at waiting
      exact waits id currParity waiting
    · rw [setPhy_other w p phy own] at waiting
      exact inv.waits q id currParity waiting

theorem Inv.setPhy (inv : Inv w) (p : Nat) {phy : Phy} (executed : phy.executed = (w.phys p).executed)
    (running : phy.running = (w.phys p).running)
    (waits : ∀ id currParity, phy.driver = .waiting id currParity →
      ∃ command, w.commands[id]? = some command ∧ command.phy = p) : Inv (w.setPhy p phy) := by
  refine inv.replacePhy p (fun id once => ?_) ?_ waits
  · rw [executed]
    exact once
  · rw [executed, running]
    exact inv.tracks p

theorem takes_append (commands : List Command) (command : Command) (p id : Nat) :
    Takes (commands ++ [command]) p id ↔ Takes commands p id ∨
      (id = commands.length ∧ command.phy = p ∧ command.fresh = true) := by
  unfold Takes
  rw [List.getElem?_append]
  split
  · rename_i early
    constructor
    · exact Or.inl
    · rintro (taken | ⟨rfl, -⟩)
      · exact taken
      · exact absurd early (Nat.lt_irrefl _)
  · rename_i late
    have absent : commands[id]? = none := List.getElem?_eq_none (Nat.le_of_not_lt late)
    rw [absent, List.getElem?_singleton]
    constructor
    · rintro ⟨other, found, phy, fresh⟩
      split at found
      · rename_i newest
        obtain rfl := Option.some.inj found
        exact Or.inr ⟨by omega, phy, fresh⟩
      · exact nomatch found
    · rintro (⟨_, none, -⟩ | ⟨rfl, phy, fresh⟩)
      · exact nomatch none
      · exact ⟨command, by simp, phy, fresh⟩

variable {commands : List Command} {id : Nat} {command : Command}

theorem sent_append (sent : commands[id]? = some command) (newest : Command) :
    (commands ++ [newest])[id]? = some command := by
  rw [List.getElem?_append_left (List.getElem?_eq_some_iff.mp sent).1]
  exact sent

theorem Tracks.write {p : Nat} {executed running : List Nat}
    (tracks : Tracks commands p executed running) (cmd : BitVec 16) (fresh : Bool) :
    Tracks (commands ++ [⟨p, cmd, fresh⟩]) p executed
      (if fresh then running ++ [commands.length] else running) := by
  cases fresh with
  | false =>
    refine ⟨tracks.sorted, fun id => ?_⟩
    rw [takes_append]
    simpa using tracks.taken id
  | true =>
    simp only [if_true]
    refine ⟨?_, fun id => ?_⟩
    · rw [← List.append_assoc, List.pairwise_append]
      refine ⟨tracks.sorted, List.pairwise_singleton _ _, fun id member newest isNewest => ?_⟩
      obtain ⟨command, sent, -⟩ := (tracks.taken id).mp member
      rw [List.mem_singleton.mp isNewest]
      exact (List.getElem?_eq_some_iff.mp sent).1
    · rw [← List.append_assoc, List.mem_append, tracks.taken, takes_append]
      simp

theorem inv_write (inv : Inv w) (p : Nat) (cmd : BitVec 16) : Inv (w.write p cmd) := by
  have taken : ∃ last, (w.write p cmd).phys p =
      { w.phys p with
        last
        running :=
          if cmdParity cmd != (w.phys p).last then (w.phys p).running ++ [w.commands.length]
          else (w.phys p).running } := by
    unfold World.write
    dsimp only
    cases cmdParity cmd != (w.phys p).last with
    | true => exact ⟨_, setPhy_same _ _ _⟩
    | false => exact ⟨_, setPhy_same _ _ _⟩
  have others : ∀ q, q ≠ p → (w.write p cmd).phys q = w.phys q := fun q own =>
    setPhy_other _ _ _ own
  obtain ⟨last, taken⟩ := taken
  refine ⟨fun report member => ?_, fun q => ?_, fun q id currParity waiting => ?_⟩
  · refine Report.Sound.mono (inv.reports report member) (fun _ _ sent => sent_append sent _)
      fun q id once => ?_
    by_cases own : q = p
    · subst own
      rw [taken]
      exact once
    · rw [others q own]
      exact once
  · by_cases own : q = p
    · subst own
      rw [taken]
      exact (inv.tracks q).write cmd _
    · rw [others q own]
      refine ⟨(inv.tracks q).sorted, fun id => ?_⟩
      show _ ↔ Takes (w.commands ++ [_]) q id
      rw [(inv.tracks q).taken, takes_append]
      simp [Ne.symm own]
  · have kept : ((w.write p cmd).phys q).driver = (w.phys q).driver := by
      by_cases own : q = p
      · subst own
        rw [taken]
      · rw [others q own]
    rw [kept] at waiting
    obtain ⟨command, sent, phy⟩ := inv.waits q id currParity waiting
    exact ⟨command, sent_append sent _, phy⟩

theorem write_newest (w : World) (p : Nat) (cmd : BitVec 16) :
    (w.write p cmd).commands[w.commands.length]? =
      some ⟨p, cmd, cmdParity cmd != (w.phys p).last⟩ :=
  List.getElem?_concat_length

theorem inv_driverWrite (inv : Inv w) (p : Nat) (parityAfter : Bool) {driver : Driver}
    (size : BitVec 5) (opcode : BitVec 6)
    (waits : ∀ id currParity, driver = .waiting id currParity → id = w.commands.length) :
    Inv (driverWrite w p parityAfter driver size opcode) := by
  unfold driverWrite
  refine (inv_write inv p _).setPhy p rfl rfl fun id currParity waiting => ?_
  rw [waits id currParity waiting]
  exact ⟨_, write_newest w p _, rfl⟩

theorem inv_report (inv : Inv w) (sent : w.commands[id]? = some command) (latest : Latest w id) :
    Inv (report w command.phy id) := by
  refine ⟨fun report member => ?_, inv.tracks, inv.waits⟩
  rcases List.mem_cons.mp member with rfl | old
  · have answered := (getLast?_iff_latest inv sent).mpr latest
    have executed := List.mem_of_getLast? answered
    have nodup := (List.pairwise_append.mp (inv.tracks command.phy).sorted).1.imp Nat.ne_of_lt
    exact ⟨answered, command, sent, List.nodup_iff_count_eq_one.mp nodup _ executed⟩
  · exact inv.reports report old

theorem inv_driverPoll (inv : Inv w) (p : Nat) (expired : Bool)
    (ok : StepOk w (.driverPoll p expired)) : Inv (driverPoll w p expired) := by
  unfold driverPoll
  dsimp only
  split
  · rename_i id currParity waiting
    split
    · rename_i ended
      obtain ⟨command, sent, rfl⟩ := inv.waits p id currParity waiting
      have reported : Inv (if stsStatus (phyReadMmd none (w.phys command.phy).sts.word) =
          IPC_STS_CMD_SUCCESS then report w command.phy id else w) := by
        split
        · rename_i success
          exact inv_report inv sent
            (ok id currParity waiting ended (by simpa [phyReadMmd] using success))
        · exact inv
      refine reported.setPhy command.phy ?_ ?_ fun _ _ idle => nomatch idle
      · split <;> rfl
      · split <;> rfl
    · exact inv
  · exact inv

theorem inv_debugPoll (inv : Inv w) (id : Nat) (expired : Bool)
    (ok : StepOk w (.debugPoll id expired)) : Inv (debugPoll w id expired) := by
  unfold debugPoll
  split
  · rename_i command sent
    dsimp only
    split
    · rename_i ended
      split
      · rename_i success
        have reported := inv_report inv sent (ok command sent ended.1 ended.2 success)
        exact ⟨reported.reports, reported.tracks, reported.waits⟩
      · exact ⟨inv.reports, inv.tracks, inv.waits⟩
    · exact inv
  · exact inv

theorem inv_execute (inv : Inv w) (p : Nat) (reply : Reply) : Inv (execute w p reply) := by
  unfold execute
  dsimp only
  split
  · exact inv
  · rename_i id rest running
    have tracks := inv.tracks p
    have order : (w.phys p).executed ++ [id] ++ rest = (w.phys p).executed ++ (w.phys p).running := by
      rw [running, List.append_assoc, List.singleton_append]
    refine inv.replacePhy p (fun other once => ?_) ⟨?_, ?_⟩ (inv.waits p)
    · have executed : other ∈ (w.phys p).executed := List.count_pos_iff.mp (by omega)
      have apart := (List.pairwise_append.mp tracks.sorted).2.2 other executed id (by simp [running])
      rw [List.count_append, once, List.count_singleton]
      simp [Nat.ne_of_gt apart]
    · rw [order]
      exact tracks.sorted
    · rw [order]
      exact tracks.taken

theorem step_inv (w : World) (event : Event) (inv : Inv w) (ok : StepOk w event) :
    Inv (step w event) := by
  cases event with
  | driverSend p size opcode =>
    simp only [step]
    split
    · exact inv_driverWrite inv p _ size opcode fun _ _ same => (Driver.waiting.inj same).1.symm
    · exact inv
  | driverSyncFirst p =>
    simp only [step]
    split
    · exact inv_driverWrite inv p _ _ _ fun _ _ same => nomatch same
    · exact inv
  | driverSyncSecond p =>
    simp only [step]
    split
    · exact inv_driverWrite inv p _ _ _ fun _ _ same => (Driver.waiting.inj same).1.symm
    · exact inv
  | driverPoll p expired => exact inv_driverPoll inv p expired ok
  | debugSend p size opcode waits =>
    have written := inv_write inv p (aeonIpcBuildCmd w.ipcCmdNum size opcode)
    exact ⟨written.reports, written.tracks, written.waits⟩
  | debugPoll id expired => exact inv_debugPoll inv id expired ok
  | execute p reply => exact inv_execute inv p reply

/-! ## A step that does not meet the condition -/

theorem latest_of_sound_report {p : Nat} (inv : Inv w) (sent : w.commands[id]? = some command)
    (phy : command.phy = p) (sound : (⟨id, (w.phys p).executed.getLast?⟩ : Report).Sound w') :
    Latest w id := by
  subst phy
  exact (getLast?_iff_latest inv sent).mp sound.1

theorem step_lost (w : World) (event : Event) (inv : Inv w) (bad : ¬ StepOk w event) :
    ¬ Sound (step w event) := by
  intro sound
  apply bad
  cases event with
  | driverPoll p expired =>
    intro id currParity waiting ended success
    obtain ⟨command, sent, phy⟩ := inv.waits p id currParity waiting
    refine latest_of_sound_report inv sent phy (sound.reports _ ?_)
    simp only [step, driverPoll, waiting, if_pos ended]
    rw [if_pos (by simpa [phyReadMmd] using success)]
    exact List.mem_cons_self
  | debugPoll id expired =>
    intro command sent waits ended success
    refine latest_of_sound_report inv sent rfl (sound.reports _ ?_)
    simp only [step, debugPoll, sent]
    rw [if_pos ⟨waits, ended⟩, if_pos success]
    exact List.mem_cons_self
  | driverSend _ _ _ => trivial
  | driverSyncFirst _ => trivial
  | driverSyncSecond _ => trivial
  | debugSend _ _ _ _ => trivial
  | execute _ _ => trivial

end

/-! ## A sender in phase with a PHY -/

section

theorem cmdWord_parity (size : BitVec 5) (opcode : BitVec 6) :
    cmdParity (cmdWord size opcode) = false := by
  have sizeSmall := size.isLt
  have opcodeSmall := opcode.isLt
  have small : (cmdWord size opcode).toNat < 2 ^ 15 := by
    simp only [cmdWord, BitVec.toNat_add, BitVec.toNat_shiftLeft, BitVec.toNat_setWidth,
      Nat.shiftLeft_eq]
    omega
  exact Nat.testBit_lt_two_pow small

@[simp] theorem driverCmd_parity (parityStatus : Bool) (size : BitVec 5) (opcode : BitVec 6) :
    cmdParity (driverCmd parityStatus size opcode) = parityStatus := by
  have low : (cmdWord size opcode).getLsbD 15 = false := cmdWord_parity size opcode
  cases parityStatus with
  | false => exact low
  | true => simp [cmdParity, driverCmd, IPC_CMD_PARITY]

@[simp] theorem aeonIpcBuildCmd_parity (ipcCmdNum : BitVec 32) (size : BitVec 5)
    (opcode : BitVec 6) : cmdParity (aeonIpcBuildCmd ipcCmdNum size opcode) = getPar ipcCmdNum := by
  unfold aeonIpcBuildCmd
  cases getPar ipcCmdNum <;> simp [cmdParity, IPC_CMD_PARITY]

@[simp] theorem write_last (w : World) (p : Nat) (cmd : BitVec 16) :
    ((w.write p cmd).phys p).last = cmdParity cmd := by
  unfold World.write
  cases fresh : cmdParity cmd != (w.phys p).last with
  | true => simp [fresh]
  | false =>
    have same : cmdParity cmd = (w.phys p).last := by simpa using fresh
    simp [same]

variable {q : Nat}

theorem write_other (w : World) (p : Nat) (cmd : BitVec 16) (other : q ≠ p) :
    (w.write p cmd).phys q = w.phys q := setPhy_other _ _ _ other

def DriverInPhase (p : Nat) (w : World) : Prop := (w.phys p).last ≠ (w.phys p).parityStatus

def DebugInPhase (p : Nat) (w : World) : Prop := (w.phys p).last ≠ getPar w.ipcCmdNum

def DriverOnly (p : Nat) : Event → Prop
  | .debugSend q _ _ _ => q ≠ p
  | .driverSyncFirst q => q ≠ p
  | _ => True

theorem driverInPhase_driverWrite (w : World) (p : Nat) (driver : Driver) (size : BitVec 5)
    (opcode : BitVec 6) :
    DriverInPhase p (driverWrite w p (!(w.phys p).parityStatus) driver size opcode) := by
  simp [DriverInPhase, driverWrite]

theorem driverWrite_other (w : World) (p : Nat) (parityAfter : Bool) (driver : Driver)
    (size : BitVec 5) (opcode : BitVec 6) (other : q ≠ p) :
    (driverWrite w p parityAfter driver size opcode).phys q = w.phys q := by
  unfold driverWrite
  rw [setPhy_other _ _ _ other, write_other _ _ _ other]

theorem driverInPhase_step {p : Nat} (w : World) (event : Event) (inPhase : DriverInPhase p w)
    (only : DriverOnly p event) : DriverInPhase p (step w event) := by
  have sent : ∀ q driver size opcode, DriverInPhase p
      (driverWrite w q (!(w.phys q).parityStatus) driver size opcode) := by
    intro q driver size opcode
    by_cases own : p = q
    · subst own
      exact driverInPhase_driverWrite w p driver size opcode
    · unfold DriverInPhase
      rw [driverWrite_other w q _ _ _ _ own]
      exact inPhase
  cases event with
  | driverSend q size opcode =>
    simp only [step]
    split
    · exact sent q _ size opcode
    · exact inPhase
  | driverSyncFirst q =>
    simp only [step]
    split
    · unfold DriverInPhase
      rw [driverWrite_other w q _ _ _ _ (Ne.symm only)]
      exact inPhase
    · exact inPhase
  | driverSyncSecond q =>
    simp only [step]
    split
    · exact sent q _ _ _
    · exact inPhase
  | driverPoll q expired =>
    by_cases own : p = q
    · subst own
      simp only [step, driverPoll]
      repeat' split
      all_goals simpa [DriverInPhase, report] using inPhase
    · simp only [step, driverPoll]
      repeat' split
      all_goals simpa [DriverInPhase, report, setPhy_other _ _ _ own] using inPhase
  | debugSend q size opcode waits =>
    unfold DriverInPhase
    simp only [step]
    rw [write_other _ _ _ (Ne.symm only)]
    exact inPhase
  | debugPoll id expired =>
    simp only [step, debugPoll]
    repeat' split
    all_goals exact inPhase
  | execute q reply =>
    simp only [step, execute]
    split
    · exact inPhase
    · by_cases own : p = q
      · subst own
        simpa [DriverInPhase] using inPhase
      · simpa [DriverInPhase, setPhy_other _ _ _ own] using inPhase

theorem driverInPhase_run {p : Nat} {w : World} {events : List Event}
    (inPhase : DriverInPhase p w) (only : ∀ event ∈ events, DriverOnly p event) :
    DriverInPhase p (run step w events) :=
  run_invariant step (fun _ event => DriverOnly p event) (DriverInPhase p)
    (fun w event before alone => driverInPhase_step w event before alone) w events inPhase
    (along_of_forall step _ w events fun _ event member => only event member)

theorem driverSend_fresh {p : Nat} {w : World} (inPhase : DriverInPhase p w)
    (idle : (w.phys p).driver = .idle) (size : BitVec 5) (opcode : BitVec 6) :
    (step w (.driverSend p size opcode)).commands[w.commands.length]? =
      some ⟨p, driverCmd (w.phys p).parityStatus size opcode, true⟩ := by
  simp only [step, idle]
  have newest := write_newest w p (driverCmd (w.phys p).parityStatus size opcode)
  rw [driverCmd_parity] at newest
  rw [bne_iff_ne.mpr (Ne.symm inPhase)] at newest
  exact newest

/-- `aeon_ipc_sync_parity` of the driver, whatever parity the firmware is at; the second
NOOP itself is never taken. -/
theorem driverSync_inPhase {p : Nat} {w : World} (idle : (w.phys p).driver = .idle) :
    DriverInPhase p (run step w [.driverSyncFirst p, .driverSyncSecond p]) := by
  have syncing : (step w (.driverSyncFirst p)).phys p =
      { (step w (.driverSyncFirst p)).phys p with driver := .syncing } := by
    simp [step, idle, driverWrite]
  simp only [run_cons, run_nil]
  generalize step w (.driverSyncFirst p) = first at syncing
  have waiting : (first.phys p).driver = .syncing := congrArg Phy.driver syncing
  simp only [step, waiting]
  exact driverInPhase_driverWrite first p _ _ _

theorem getPar_succ (ipcCmdNum : BitVec 32) : getPar (ipcCmdNum + 1) = !getPar ipcCmdNum := by
  have low : ∀ x : BitVec 32, getPar x = decide (x.toNat % 2 = 1) := fun x =>
    Nat.testBit_zero x.toNat
  have one : (1 : BitVec 32).toNat = 1 := rfl
  rw [low, low, BitVec.toNat_add, one, ← decide_not, decide_eq_decide]
  omega

theorem debugSend_inPhase (w : World) (p : Nat) (size : BitVec 5) (opcode : BitVec 6)
    (waits : Bool) : DebugInPhase p (step w (.debugSend p size opcode waits)) := by
  simp only [DebugInPhase, step, write_last, aeonIpcBuildCmd_parity]
  rw [getPar_succ]
  simp

/-- From the resynchronisation on, every command that the driver sends is taken, whatever parity
the firmware was at and whatever is sent to other PHYs. -/
theorem synced_driver_fresh {p : Nat} {w : World} (idle : (w.phys p).driver = .idle)
    {events : List Event} (only : ∀ event ∈ events, DriverOnly p event)
    (ready : ((run step w ([.driverSyncFirst p, .driverSyncSecond p] ++ events)).phys p).driver =
      .idle) (size : BitVec 5) (opcode : BitVec 6) :
    let sender := run step w ([.driverSyncFirst p, .driverSyncSecond p] ++ events)
    (step sender (.driverSend p size opcode)).commands[sender.commands.length]? =
      some ⟨p, driverCmd (sender.phys p).parityStatus size opcode, true⟩ := by
  have inPhase := driverInPhase_run (driverSync_inPhase idle) only
  rw [← run_append] at inPhase
  exact driverSend_fresh inPhase ready size opcode

theorem synced_driver_fresh_boot :
    let sender := run step (World.init (fun _ => true) fun _ => ⟨false, 0, 0, 4⟩)
      ([.driverSyncFirst 0, .driverSyncSecond 0] ++ [.execute 0 ⟨0, 0, 4⟩, .driverPoll 0 true])
    (step sender (.driverSend 0 2 5)).commands[sender.commands.length]? =
      some ⟨0, driverCmd (sender.phys 0).parityStatus 2 5, true⟩ :=
  synced_driver_fresh rfl (by simp [DriverOnly]) rfl 2 5

/-- The event writes no command of `p`. -/
def Elsewhere (p : Nat) : Event → Prop
  | .driverSend q _ _ | .driverSyncFirst q | .driverSyncSecond q | .debugSend q _ _ _ => q ≠ p
  | _ => True

def isDebugSend : Event → Bool
  | .debugSend _ _ _ _ => true
  | _ => false

theorem elsewhere_step {p : Nat} {w : World} {event : Event} (elsewhere : Elsewhere p event) :
    ((step w event).phys p).last = (w.phys p).last ∧
      getPar (step w event).ipcCmdNum = (getPar w.ipcCmdNum ^^ isDebugSend event) := by
  have same : ∀ w' : World, (w'.phys p).last = (w.phys p).last → w'.ipcCmdNum = w.ipcCmdNum →
      (w'.phys p).last = (w.phys p).last ∧
        getPar w'.ipcCmdNum = (getPar w.ipcCmdNum ^^ false) := by
    intro w' last number
    rw [number, Bool.xor_false]
    exact ⟨last, rfl⟩
  have written : ∀ q parityAfter driver size opcode, q ≠ p →
      ((driverWrite w q parityAfter driver size opcode).phys p).last = (w.phys p).last := by
    intro q parityAfter driver size opcode other
    rw [driverWrite_other w q _ _ _ _ (Ne.symm other)]
  cases event with
  | driverSend q size opcode =>
    simp only [step]
    split
    · exact same _ (written q _ _ _ _ elsewhere) rfl
    · exact same _ rfl rfl
  | driverSyncFirst q =>
    simp only [step]
    split
    · exact same _ (written q _ _ _ _ elsewhere) rfl
    · exact same _ rfl rfl
  | driverSyncSecond q =>
    simp only [step]
    split
    · exact same _ (written q _ _ _ _ elsewhere) rfl
    · exact same _ rfl rfl
  | driverPoll q expired =>
    simp only [step, driverPoll]
    repeat' split
    all_goals
      refine same _ ?_ rfl
      by_cases own : p = q <;> simp [report, World.setPhy, own]
  | debugSend q size opcode waits =>
    simp only [step]
    rw [write_other _ _ _ (Ne.symm elsewhere), getPar_succ]
    simp [isDebugSend]
  | debugPoll id expired =>
    simp only [step, debugPoll]
    repeat' split
    all_goals exact same _ rfl rfl
  | execute q reply =>
    simp only [step, execute]
    split
    · exact same _ rfl rfl
    · refine same _ ?_ rfl
      by_cases own : p = q <;> simp [World.setPhy, own]

/-- The debug API counts the commands to all PHYs in one number: what it sends to a PHY is taken
if and only if it has sent an even number of commands to others since the last one. -/
theorem debugSend_fresh_iff {p : Nat} (w : World) {events : List Event}
    (elsewhere : ∀ event ∈ events, Elsewhere p event) (size size' : BitVec 5)
    (opcode opcode' : BitVec 6) (waits waits' : Bool) :
    let sender := run step (step w (.debugSend p size opcode waits)) events
    (step sender (.debugSend p size' opcode' waits')).commands[sender.commands.length]? =
      some ⟨p, aeonIpcBuildCmd sender.ipcCmdNum size' opcode',
        decide (events.countP isDebugSend % 2 = 0)⟩ := by
  have phase : ∀ (w : World) (events : List Event), (∀ event ∈ events, Elsewhere p event) →
      (getPar (run step w events).ipcCmdNum != ((run step w events).phys p).last) =
        ((getPar w.ipcCmdNum != (w.phys p).last) ^^
          decide (events.countP isDebugSend % 2 = 1)) := by
    intro w events elsewhere
    induction events generalizing w with
    | nil => simp
    | cons event rest ih =>
      obtain ⟨last, par⟩ := elsewhere_step (w := w) (elsewhere event List.mem_cons_self)
      rw [run_cons, ih _ fun later inRest => elsewhere later (.tail _ inRest), last, par,
        List.countP_cons]
      cases isDebugSend event with
      | false => simp
      | true =>
        have parity : decide ((rest.countP isDebugSend + 1) % 2 = 1) =
            !decide (rest.countP isDebugSend % 2 = 1) := by
          rw [← decide_not, decide_eq_decide]
          omega
        simp only [if_true, parity, Bool.xor_true, Bool.not_bne, Bool.xor_not]
  intro sender
  have started := debugSend_inPhase w p size opcode waits
  have newest := write_newest sender p (aeonIpcBuildCmd sender.ipcCmdNum size' opcode')
  rw [aeonIpcBuildCmd_parity, phase _ _ elsewhere, bne_iff_ne.mpr (Ne.symm started)] at newest
  refine newest.trans ?_
  have parity : (true ^^ decide (events.countP isDebugSend % 2 = 1)) =
      decide (events.countP isDebugSend % 2 = 0) := by
    rw [Bool.true_xor, ← decide_not, decide_eq_decide]
    omega
  rw [parity]

theorem debugSend_fresh_iff_turns :
    let sender := run step (step (World.init (fun _ => true) fun _ => ⟨false, 0, 0, 4⟩)
      (.debugSend 0 2 5 true)) [.debugSend 1 2 5 true, .execute 0 ⟨0, 0, 4⟩]
    (step sender (.debugSend 0 2 6 true)).commands[sender.commands.length]? =
      some ⟨0, aeonIpcBuildCmd sender.ipcCmdNum 2 6, false⟩ :=
  debugSend_fresh_iff _ (by simp [Elsewhere]) 2 2 5 6 true true

end

/-! ## Reported commands -/

section

def started : World := World.init (fun _ => true) fun _ => ⟨true, 0, 0, IPC_STS_SYS_READY⟩

def done (p : Nat) : Event := .execute p ⟨0, 5, IPC_STS_CMD_SUCCESS⟩

/-- The two NOOPs of `aeon_ipc_sync_parity` in the debug API. -/
def debugSync (p : Nat) : List Event :=
  [.debugSend p 0 IPC_CMD_NOOP false, done p, .debugSend p 0 IPC_CMD_NOOP false, done p]

def twoSenders : List Event :=
  [.driverSend 0 2 5, done 0, .driverPoll 0 false] ++ debugSync 0 ++
    [.driverSend 0 2 5, .driverPoll 0 false]

/-- The debug API alone, with a command to another PHY after it has synchronised itself. -/
def twoPhys : List Event :=
  debugSync 1 ++
    [.debugSend 0 2 5 true, done 0, .debugPoll 2 false, .debugSend 1 2 5 true, .debugPoll 3 false]

def tooLate : List Event := debugSync 0 ++ [.debugSend 0 2 5 true, .debugPoll 2 true]

def ownSync : List Event :=
  [.driverSyncFirst 0, done 0, .driverSyncSecond 0, .driverPoll 0 false]

end

end OpenwrtSource.As21xxx.CommandParity
