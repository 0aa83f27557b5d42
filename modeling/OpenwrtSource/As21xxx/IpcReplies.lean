import Mathlib.Logic.Function.Basic
import Mathlib.Data.List.GetD
import OpenwrtSource.As21xxx.Ipc
import OpenwrtSource.Lib.Run

/-!
# IPC replies belong to their request

Callers of one PHY send a message and, when that succeeds, receive the answer.
The lock is held over each of the two calls but not over both, and the end of
the poll loop is judged by the status field alone: neither a timeout nor a failed
read keeps `aeon_ipc_send_msg` from returning 0.
-/

namespace OpenwrtSource.As21xxx.IpcReplies

open Lib.Run As21xxx.Ipc

/-! ## The callers and the firmware -/

/-- What the firmware makes of a command: its status, and the data registers. -/
structure Answer where
  size : BitVec 5
  opcode : BitVec 6
  status : Status
  data : Nat → BitVec 16

def Answer.sts (answer : Answer) (parity : Bool) : Sts :=
  ⟨parity, answer.size, answer.opcode, answer.status⟩

structure Request where
  data : List (BitVec 16)
  fits : data.length ≤ AEON_IPC_DATA_NUM_REGISTERS

/-- Where a caller is.  Commands are numbered in the order in which they are written. -/
inductive Phase where
  | idle
  /-- In `aeon_ipc_send_msg`, before the data words that are left. -/
  | writing (rest : List (BitVec 16)) (i : Nat)
  | polling (id : Nat) (parity : Bool)
  /-- `aeon_ipc_send_msg` has returned 0. -/
  | sent (id : Nat) (retSts : BitVec 16)
  /-- In `aeon_ipc_rcv_msg`; `intact` says that every register had the word of the answer
  when it was read. -/
  | receiving (id : Nat) (retSts : BitVec 16) (data : List (BitVec 16)) (intact : Bool)

/-- A call of `aeon_ipc_send_msg` that has returned 0: whether the last read of the status
succeeded and ended the poll loop, or the time was over. -/
structure Sent where
  id : Nat
  read : Bool
  done : Bool
deriving DecidableEq

/-- A call of `aeon_ipc_rcv_msg` that has returned a size. -/
structure Receipt where
  id : Nat
  size : Nat
  data : List (BitVec 16)
deriving DecidableEq

structure State where
  parityStatus : Bool
  ipcLock : Option Nat
  callers : Nat → Phase
  /-- The parities of the commands that the firmware has still to execute. -/
  pending : List Bool
  sts : Sts
  data : Nat → BitVec 16
  answers : List Answer
  sends : List Sent
  receipts : List Receipt

/-- `parity` is what `aeon_ipc_sync_parity` has left, `sts` and `data` what the firmware has. -/
def State.init (parity : Bool) (sts : Sts) (data : Nat → BitVec 16) : State where
  parityStatus := parity
  ipcLock := none
  callers _ := .idle
  pending := []
  sts := sts
  data := data
  answers := []
  sends := []
  receipts := []

inductive Event where
  | call (c : Nat) (request : Request)
  /-- One data word, unless the bus fails; nobody looks at it. -/
  | writeData (c : Nat) (written : Bool)
  | writeCmd (c : Nat) (written : Bool)
  /-- One read of the status; `expired` says that the time is over. -/
  | poll (c : Nat) (failed : Option Errno) (expired : Bool)
  | receive (c : Nat)
  | readData (c : Nat) (failed : Option Errno)
  | finish (c : Nat)
  /-- The firmware says that it is at the first command. -/
  | progress (size : BitVec 5) (opcode : BitVec 6) (status : Status)
  | answer (answer : Answer)

def State.move (s : State) (c : Nat) (phase : Phase) (lock : Option Nat) : State :=
  { s with callers := Function.update s.callers c phase, ipcLock := lock }

/-- `aeon_ipc_send_msg` up to its lock. -/
def call (s : State) (c : Nat) (request : Request) : State :=
  match s.callers c with
  | .idle => if s.ipcLock.isNone then s.move c (.writing request.data 0) (some c) else s
  | _ => s

def writeData (s : State) (c : Nat) (written : Bool) : State :=
  match s.callers c with
  | .writing (word :: rest) i =>
    let data := if written then Function.update s.data i word else s.data
    { s.move c (.writing rest (i + 1)) s.ipcLock with data }
  | _ => s

/-- `aeon_ipc_send_cmd` up to the poll loop.  The patch does not show the write of the
command itself; a write that fails is taken to end the function with its error. -/
def writeCmd (s : State) (c : Nat) (written : Bool) : State :=
  match s.callers c with
  | .writing [] _ =>
    -- Always update parity for next packet
    let s' := { s with parityStatus := !s.parityStatus }
    if written then
      { s'.move c (.polling (s.answers.length + s.pending.length) s.parityStatus) s.ipcLock with
        pending := s.pending ++ [s.parityStatus] }
    else s'.move c .idle none
  | _ => s

/-- The poll loop and what follows it: the error of the loop is only printed. -/
def poll (s : State) (c : Nat) (failed : Option Errno) (expired : Bool) : State :=
  match s.callers c with
  | .polling id parity =>
    let val := phyReadMmd failed s.sts.word
    if pollDone parity val || expired then
      if stsStatus val = IPC_STS_CMD_SUCCESS then
        { s.move c (.sent id (val.setWidth 16)) none with
          sends := ⟨id, failed.isNone, pollDone parity val⟩ :: s.sends }
      else s.move c .idle none
    else s
  | _ => s

/-- `aeon_ipc_rcv_msg` up to its lock. -/
def receive (s : State) (c : Nat) : State :=
  match s.callers c with
  | .sent id retSts =>
    if stsStatus retSts = IPC_STS_CMD_ERROR ∨ AEON_IPC_DATA_MAX < (stsSize retSts).toNat then
      s.move c .idle s.ipcLock
    else if s.ipcLock.isNone then s.move c (.receiving id retSts [] true) (some c)
    else s
  | _ => s

def readData (s : State) (c : Nat) (failed : Option Errno) : State :=
  match s.callers c with
  | .receiving id retSts data intact =>
    if data.length < wordsOf (stsSize retSts) then
      match failed with
      | some _ => s.move c .idle none
      | none =>
        let word := s.data data.length
        let right := s.answers[id]?.any fun answer => answer.data data.length = word
        s.move c (.receiving id retSts (data ++ [word]) (intact && right)) s.ipcLock
    else s
  | _ => s

def finish (s : State) (c : Nat) : State :=
  match s.callers c with
  | .receiving id retSts data _ =>
    if data.length < wordsOf (stsSize retSts) then s
    else
      { s.move c .idle none with
        receipts := ⟨id, (stsSize retSts).toNat, data⟩ :: s.receipts }
  | _ => s

def isProgress (status : Status) : Bool :=
  status == IPC_STS_CMD_RCVD || status == IPC_STS_CMD_PROCESS || status == IPC_STS_SYS_BUSY

def step (s : State) : Event → State
  | .call c request => call s c request
  | .writeData c written => writeData s c written
  | .writeCmd c written => writeCmd s c written
  | .poll c failed expired => poll s c failed expired
  | .receive c => receive s c
  | .readData c failed => readData s c failed
  | .finish c => finish s c
  | .progress size opcode status =>
    match s.pending with
    | [] => s
    | parity :: _ => if isProgress status then { s with sts := ⟨parity, size, opcode, status⟩ } else s
  | .answer answer =>
    match s.pending with
    | [] => s
    | parity :: rest =>
      { s with
        pending := rest
        sts := answer.sts parity
        data := answer.data
        answers := s.answers ++ [answer] }

/-! ## The property -/

/-- The firmware has completed the command with success, and the status was read. -/
def Sent.Sound (answers : List Answer) (sent : Sent) : Prop :=
  sent.read = true ∧ sent.done = true ∧
    ∃ answer, answers[sent.id]? = some answer ∧ answer.status = IPC_STS_CMD_SUCCESS

def Receipt.Sound (answers : List Answer) (receipt : Receipt) : Prop :=
  ∃ answer, answers[receipt.id]? = some answer ∧ receipt.size = answer.size.toNat ∧
    receipt.data = (List.range (wordsOf answer.size)).map answer.data

structure Sound (s : State) : Prop where
  sends : ∀ sent ∈ s.sends, sent.Sound s.answers
  receipts : ∀ receipt ∈ s.receipts, receipt.Sound s.answers
  within : ∀ c id retSts data intact, s.callers c = .receiving id retSts data intact →
    data.length ≤ AEON_IPC_DATA_NUM_REGISTERS

/-- A status field that says success comes from a read that has not failed, when the
firmware has executed every command; and the words received were the answer's when they
were read. -/
def StepOk (s : State) : Event → Prop
  | .poll c failed expired =>
    ∀ id parity, s.callers c = .polling id parity →
      (pollDone parity (phyReadMmd failed s.sts.word) || expired) = true →
      stsStatus (phyReadMmd failed s.sts.word) = IPC_STS_CMD_SUCCESS →
      failed = none ∧ s.pending = []
  | .finish c =>
    ∀ id retSts data intact, s.callers c = .receiving id retSts data intact →
      wordsOf (stsSize retSts) ≤ data.length → intact = true
  | _ => True

/-! ## The invariant -/

def Holds : Phase → Prop
  | .writing _ _ | .polling _ _ | .receiving _ _ _ _ => True
  | .idle | .sent _ _ => False

/-- The caller that polls has written the last command. -/
structure Polls (s : State) (id : Nat) (parity : Bool) : Prop where
  last : id + 1 = s.answers.length + s.pending.length
  parity : (s.pending = [] ∧ ∃ answer, s.answers[id]? = some answer ∧ s.sts = answer.sts parity) ∨
    ∃ before, s.pending = before ++ [parity]

/-- The status that a caller has is the one of its answer. -/
def Replied (answers : List Answer) : Phase → Prop
  | .sent id retSts => ∃ answer, answers[id]? = some answer ∧ stsSize retSts = answer.size
  | .receiving id retSts data intact =>
    (stsSize retSts).toNat ≤ AEON_IPC_DATA_MAX ∧ data.length ≤ wordsOf (stsSize retSts) ∧
      ∃ answer, answers[id]? = some answer ∧ stsSize retSts = answer.size ∧
        (intact = true ↔ data = (List.range data.length).map answer.data)
  | _ => True

structure Inv (s : State) : Prop where
  sends : ∀ sent ∈ s.sends, sent.Sound s.answers
  receipts : ∀ receipt ∈ s.receipts, receipt.Sound s.answers
  locked : ∀ c, Holds (s.callers c) → s.ipcLock = some c
  polls : ∀ c id parity, s.callers c = .polling id parity → Polls s id parity
  replied : ∀ c, Replied s.answers (s.callers c)

theorem sound_of_inv (s : State) (inv : Inv s) : Sound s := by
  refine ⟨inv.sends, inv.receipts, fun c id retSts data intact receiving => ?_⟩
  have replied := inv.replied c
  rw [receiving] at replied
  obtain ⟨fits, within, -⟩ := replied
  unfold wordsOf at within
  unfold AEON_IPC_DATA_MAX AEON_IPC_DATA_NUM_REGISTERS at fits
  unfold AEON_IPC_DATA_NUM_REGISTERS
  omega

theorem inv_init (parity : Bool) (sts : Sts) (data : Nat → BitVec 16) :
    Inv (State.init parity sts data) where
  sends _ member := nomatch member
  receipts _ member := nomatch member
  locked _ holds := holds.elim
  polls _ _ _ polling := nomatch polling
  replied _ := trivial

section

variable {s s' : State} {c : Nat} {phase : Phase}

theorem Inv.alone (inv : Inv s) (holds : Holds (s.callers c)) {d : Nat}
    (other : Holds (s.callers d)) : d = c :=
  Option.some.inj ((inv.locked d other).symm.trans (inv.locked c holds))

theorem Inv.move (inv : Inv s) (callers : s'.callers = Function.update s.callers c phase)
    (answers : s'.answers = s.answers) (sends : ∀ sent ∈ s'.sends, sent.Sound s.answers)
    (receipts : ∀ receipt ∈ s'.receipts, receipt.Sound s.answers)
    (others : ∀ d, d ≠ c → Holds (s.callers d) →
      s'.ipcLock = s.ipcLock ∧ s'.pending = s.pending ∧ s'.sts = s.sts)
    (holds : Holds phase → s'.ipcLock = some c)
    (polls : ∀ id parity, phase = .polling id parity → Polls s' id parity)
    (replied : Replied s.answers phase) : Inv s' := by
  have same : s'.callers c = phase := by rw [callers, Function.update_self]
  have rest : ∀ d, d ≠ c → s'.callers d = s.callers d := fun d other => by
    rw [callers, Function.update_of_ne other]
  refine ⟨?_, ?_, fun d => ?_, fun d => ?_, fun d => ?_⟩
  · rwa [answers]
  · rwa [answers]
  · by_cases own : d = c
    · subst own
      rw [same]
      exact holds
    · rw [rest d own]
      intro held
      rw [(others d own held).1]
      exact inv.locked d held
  · by_cases own : d = c
    · subst own
      rw [same]
      exact polls
    · rw [rest d own]
      intro id parity polling
      have held : Holds (s.callers d) := by
        rw [polling]
        trivial
      obtain ⟨-, pending, sts⟩ := others d own held
      obtain ⟨last, latest⟩ := inv.polls d id parity polling
      refine ⟨?_, ?_⟩
      · rw [answers, pending]
        exact last
      · rw [answers, pending, sts]
        exact latest
  · rw [answers]
    by_cases own : d = c
    · subst own
      rw [same]
      exact replied
    · rw [rest d own]
      exact inv.replied d

theorem Inv.moveLocked (inv : Inv s) (held : Holds (s.callers c))
    (callers : s'.callers = Function.update s.callers c phase) (answers : s'.answers = s.answers)
    (sends : ∀ sent ∈ s'.sends, sent.Sound s.answers)
    (receipts : ∀ receipt ∈ s'.receipts, receipt.Sound s.answers)
    (holds : Holds phase → s'.ipcLock = some c)
    (polls : ∀ id parity, phase = .polling id parity → Polls s' id parity)
    (replied : Replied s.answers phase) : Inv s' :=
  inv.move callers answers sends receipts
    (fun _ other also => absurd (inv.alone held also) other) holds polls replied

theorem Inv.moveFree (inv : Inv s) (free : s.ipcLock = none)
    (callers : s'.callers = Function.update s.callers c phase) (answers : s'.answers = s.answers)
    (sends : ∀ sent ∈ s'.sends, sent.Sound s.answers)
    (receipts : ∀ receipt ∈ s'.receipts, receipt.Sound s.answers)
    (holds : Holds phase → s'.ipcLock = some c)
    (polls : ∀ id parity, phase = .polling id parity → Polls s' id parity)
    (replied : Replied s.answers phase) : Inv s' := by
  refine inv.move callers answers sends receipts (fun d _ held => ?_) holds polls replied
  have locked := inv.locked d held
  rw [free] at locked
  exact nomatch locked

end

/-! ## One step of a caller -/

section

variable {s : State}

theorem inv_call (inv : Inv s) (c : Nat) (request : Request) : Inv (call s c request) := by
  unfold call
  split
  · split
    · rename_i free
      exact inv.moveFree (by simpa using free) rfl rfl inv.sends inv.receipts (fun _ => rfl)
        (fun _ _ polling => nomatch polling) trivial
    · exact inv
  · exact inv

theorem inv_writeData (inv : Inv s) (c : Nat) (written : Bool) : Inv (writeData s c written) := by
  unfold writeData
  split
  · rename_i word rest i writing
    have held : Holds (s.callers c) := by
      rw [writing]
      trivial
    exact inv.moveLocked held rfl rfl inv.sends inv.receipts (fun _ => inv.locked c held)
      (fun _ _ polling => nomatch polling) trivial
  · exact inv

theorem inv_writeCmd (inv : Inv s) (c : Nat) (written : Bool) : Inv (writeCmd s c written) := by
  unfold writeCmd
  split
  · rename_i i writing
    have held : Holds (s.callers c) := by
      rw [writing]
      trivial
    dsimp only
    split
    · refine inv.moveLocked held rfl rfl inv.sends inv.receipts (fun _ => inv.locked c held)
        ?_ trivial
      rintro id parity ⟨⟩
      refine ⟨?_, Or.inr ⟨s.pending, rfl⟩⟩
      simp only [State.move, List.length_append, List.length_singleton]
      omega
    · exact inv.moveLocked held rfl rfl inv.sends inv.receipts (fun absent => absent.elim)
        (fun _ _ polling => nomatch polling) trivial
  · exact inv

theorem polled_sound (inv : Inv s) {c id : Nat} {parity : Bool}
    (polling : s.callers c = .polling id parity) (empty : s.pending = [])
    (success : stsStatus (phyReadMmd none s.sts.word) = IPC_STS_CMD_SUCCESS) :
    ∃ answer, s.answers[id]? = some answer ∧ answer.status = IPC_STS_CMD_SUCCESS ∧
      stsSize (phyReadMmd none s.sts.word) = answer.size ∧
      pollDone parity (phyReadMmd none s.sts.word) = true := by
  rcases (inv.polls c id parity polling).parity with ⟨-, answer, found, published⟩ | ⟨before, more⟩
  · have status : answer.status = IPC_STS_CMD_SUCCESS := by
      rw [published] at success
      simpa [phyReadMmd, Answer.sts] using success
    refine ⟨answer, found, status, ?_, ?_⟩
    · rw [published]
      simp [phyReadMmd, Answer.sts]
    · rw [published]
      simp only [pollDone, phyReadMmd, stsParity_word, stsStatus_word, Answer.sts, status]
      simp [IPC_STS_CMD_SUCCESS, IPC_STS_CMD_RCVD, IPC_STS_CMD_PROCESS, IPC_STS_SYS_BUSY]
  · rw [empty] at more
    simp at more

theorem inv_poll (inv : Inv s) (c : Nat) (failed : Option Errno) (expired : Bool)
    (ok : StepOk s (.poll c failed expired)) : Inv (poll s c failed expired) := by
  unfold poll
  split
  · rename_i id parity polling
    have held : Holds (s.callers c) := by
      rw [polling]
      trivial
    dsimp only
    split
    · rename_i ended
      split
      · rename_i success
        obtain ⟨rfl, empty⟩ := ok id parity polling ended success
        obtain ⟨answer, found, status, size, done⟩ := polled_sound inv polling empty success
        refine inv.moveLocked held rfl rfl ?_ inv.receipts (fun absent => absent.elim)
          (fun _ _ again => nomatch again) ⟨answer, found, by simpa using size⟩
        intro sent member
        rcases List.mem_cons.mp member with rfl | old
        · exact ⟨rfl, done, answer, found, status⟩
        · exact inv.sends sent old
      · exact inv.moveLocked held rfl rfl inv.sends inv.receipts (fun absent => absent.elim)
          (fun _ _ again => nomatch again) trivial
    · exact inv
  · exact inv

theorem inv_receive (inv : Inv s) (c : Nat) : Inv (receive s c) := by
  unfold receive
  split
  · rename_i id retSts sent
    split
    · exact inv.move rfl rfl inv.sends inv.receipts (fun _ _ _ => ⟨rfl, rfl, rfl⟩)
        (fun absent => absent.elim) (fun _ _ polling => nomatch polling) trivial
    · rename_i fits
      split
      · rename_i free
        have replied := inv.replied c
        rw [sent] at replied
        obtain ⟨answer, found, size⟩ := replied
        have small : (stsSize retSts).toNat ≤ AEON_IPC_DATA_MAX :=
          Nat.le_of_not_lt fun large => fits (Or.inr large)
        exact inv.moveFree (by simpa using free) rfl rfl inv.sends inv.receipts (fun _ => rfl)
          (fun _ _ polling => nomatch polling)
          ⟨small, Nat.zero_le _, answer, found, size, by simp⟩
      · exact inv
  · exact inv

theorem intact_append {answer : Answer} {data : List (BitVec 16)} {intact : Bool}
    (word : BitVec 16) (right : intact = true ↔ data = (List.range data.length).map answer.data) :
    (intact && decide (answer.data data.length = word)) = true ↔
      data ++ [word] = (List.range (data ++ [word]).length).map answer.data := by
  rw [Bool.and_eq_true, right, decide_eq_true_iff, List.length_append, List.length_singleton,
    List.range_succ, List.map_append, List.map_singleton]
  constructor
  · rintro ⟨same, rfl⟩
    rw [← same]
  · intro same
    have parts := List.append_inj same (by simp)
    exact ⟨parts.1, (List.cons.inj parts.2).1.symm⟩

theorem inv_readData (inv : Inv s) (c : Nat) (failed : Option Errno) :
    Inv (readData s c failed) := by
  unfold readData
  split
  · rename_i id retSts data intact receiving
    have held : Holds (s.callers c) := by
      rw [receiving]
      trivial
    split
    · rename_i more
      cases failed with
      | some errno =>
        exact inv.moveLocked held rfl rfl inv.sends inv.receipts (fun absent => absent.elim)
          (fun _ _ polling => nomatch polling) trivial
      | none =>
        have replied := inv.replied c
        rw [receiving] at replied
        obtain ⟨small, -, answer, found, size, right⟩ := replied
        refine inv.moveLocked held rfl rfl inv.sends inv.receipts (fun _ => inv.locked c held)
          (fun _ _ polling => nomatch polling) ⟨small, ?_, answer, found, size, ?_⟩
        · rw [List.length_append]
          exact more
        · rw [found]
          exact intact_append _ right
    · exact inv
  · exact inv

theorem inv_finish (inv : Inv s) (c : Nat) (ok : StepOk s (.finish c)) : Inv (finish s c) := by
  unfold finish
  split
  · rename_i id retSts data intact receiving
    have held : Holds (s.callers c) := by
      rw [receiving]
      trivial
    split
    · exact inv
    · rename_i full
      have whole := ok id retSts data intact receiving (Nat.le_of_not_lt full)
      have replied := inv.replied c
      rw [receiving] at replied
      obtain ⟨-, within, answer, found, size, right⟩ := replied
      have length : data.length = wordsOf answer.size := by
        rw [← size]
        omega
      refine inv.moveLocked held rfl rfl inv.sends ?_ (fun absent => absent.elim)
        (fun _ _ polling => nomatch polling) trivial
      intro receipt member
      rcases List.mem_cons.mp member with rfl | old
      · exact ⟨answer, found, by rw [size], by rw [← length]; exact right.mp whole⟩
      · exact inv.receipts receipt old
  · exact inv

end

/-! ## One step of the firmware -/

section

variable {s : State}

theorem inv_progress (inv : Inv s) (size : BitVec 5) (opcode : BitVec 6) (status : Status) :
    Inv (step s (.progress size opcode status)) := by
  unfold step
  dsimp only
  split
  · exact inv
  · rename_i parity rest pending
    split
    · refine ⟨inv.sends, inv.receipts, inv.locked, fun c id own polling => ?_, inv.replied⟩
      obtain ⟨last, latest⟩ := inv.polls c id own polling
      refine ⟨last, Or.inr ?_⟩
      rcases latest with ⟨empty, -⟩ | latest
      · rw [pending] at empty
        exact nomatch empty
      · exact latest
    · exact inv

theorem grown {α : Type} {list : List α} {i : Nat} {x : α} (found : list[i]? = some x) (y : α) :
    (list ++ [y])[i]? = some x := by
  rw [List.getElem?_append_left (List.getElem?_eq_some_iff.mp found).1]
  exact found

theorem inv_answer (inv : Inv s) (answer : Answer) : Inv (step s (.answer answer)) := by
  unfold step
  dsimp only
  split
  · exact inv
  · rename_i parity rest pending
    refine ⟨fun sent member => ?_, fun receipt member => ?_, inv.locked,
      fun c id own polling => ?_, fun c => ?_⟩
    · obtain ⟨read, done, old, found, status⟩ := inv.sends sent member
      exact ⟨read, done, old, grown found answer, status⟩
    · obtain ⟨old, found, same⟩ := inv.receipts receipt member
      exact ⟨old, grown found answer, same⟩
    · obtain ⟨last, latest⟩ := inv.polls c id own polling
      rw [pending, List.length_cons] at last
      have length : (s.answers ++ [answer]).length = s.answers.length + 1 := by simp
      refine ⟨by simp only [length]; omega, ?_⟩
      rcases latest with ⟨empty, -⟩ | ⟨before, more⟩
      · rw [pending] at empty
        exact nomatch empty
      · rw [pending] at more
        cases before with
        | nil =>
          obtain ⟨rfl, rfl⟩ := List.cons.inj more
          have newest : id = s.answers.length := by simpa using last
          exact Or.inl ⟨rfl, answer, by rw [newest]; simp, rfl⟩
        | cons head before => exact Or.inr ⟨before, (List.cons.inj more).2⟩
    · have replied := inv.replied c
      show Replied (s.answers ++ [answer]) (s.callers c)
      cases phase : s.callers c with
      | idle => trivial
      | writing rest i => trivial
      | polling id parity => trivial
      | sent id retSts =>
        rw [phase] at replied
        obtain ⟨old, found, size⟩ := replied
        exact ⟨old, grown found answer, size⟩
      | receiving id retSts data intact =>
        rw [phase] at replied
        obtain ⟨fits, within, old, found, same⟩ := replied
        exact ⟨fits, within, old, grown found answer, same⟩

theorem step_inv (s : State) (event : Event) (inv : Inv s) (ok : StepOk s event) :
    Inv (step s event) := by
  cases event with
  | call c request => exact inv_call inv c request
  | writeData c written => exact inv_writeData inv c written
  | writeCmd c written => exact inv_writeCmd inv c written
  | poll c failed expired => exact inv_poll inv c failed expired ok
  | receive c => exact inv_receive inv c
  | readData c failed => exact inv_readData inv c failed
  | finish c => exact inv_finish inv c ok
  | progress size opcode status => exact inv_progress inv size opcode status
  | answer answer => exact inv_answer inv answer

/-! ## A step that does not meet the condition -/

theorem poll_lost (inv : Inv s) (c : Nat) (failed : Option Errno) (expired : Bool)
    (bad : ¬ StepOk s (.poll c failed expired)) : ¬ Sound (poll s c failed expired) := by
  intro sound
  apply bad
  intro id parity polling ended success
  have result : ⟨id, failed.isNone, pollDone parity (phyReadMmd failed s.sts.word)⟩ ∈
      (poll s c failed expired).sends := by
    unfold poll
    rw [polling]
    dsimp only
    rw [if_pos ended, if_pos success]
    exact List.mem_cons_self
  have answers : (poll s c failed expired).answers = s.answers := by
    unfold poll
    rw [polling]
    dsimp only
    rw [if_pos ended, if_pos success]
    rfl
  obtain ⟨read, -, answer, found, -⟩ := sound.sends _ result
  rw [answers] at found
  have last := (inv.polls c id parity polling).last
  have early := (List.getElem?_eq_some_iff.mp found).1
  refine ⟨by simpa using read, List.eq_nil_of_length_eq_zero ?_⟩
  dsimp only at early
  omega

theorem finish_lost (inv : Inv s) (c : Nat) (bad : ¬ StepOk s (.finish c)) :
    ¬ Sound (finish s c) := by
  intro sound
  apply bad
  intro id retSts data intact receiving full
  have result : ⟨id, (stsSize retSts).toNat, data⟩ ∈ (finish s c).receipts := by
    unfold finish
    rw [receiving]
    dsimp only
    rw [if_neg (Nat.not_lt.mpr full)]
    exact List.mem_cons_self
  have answers : (finish s c).answers = s.answers := by
    unfold finish
    rw [receiving]
    dsimp only
    rw [if_neg (Nat.not_lt.mpr full)]
    rfl
  have replied := inv.replied c
  rw [receiving] at replied
  obtain ⟨-, within, answer, found, size, right⟩ := replied
  obtain ⟨same, again, -, words⟩ := sound.receipts _ result
  rw [answers, found] at again
  obtain rfl := Option.some.inj again
  apply right.mpr
  have length : data.length = wordsOf answer.size := by
    rw [← size]
    omega
  rw [length]
  exact words

theorem step_lost (s : State) (event : Event) (inv : Inv s) (bad : ¬ StepOk s event) :
    ¬ Sound (step s event) := by
  cases event with
  | poll c failed expired => exact poll_lost inv c failed expired bad
  | finish c => exact finish_lost inv c bad
  | call _ _ => exact absurd trivial bad
  | writeData _ _ => exact absurd trivial bad
  | writeCmd _ _ => exact absurd trivial bad
  | receive _ => exact absurd trivial bad
  | readData _ _ => exact absurd trivial bad
  | progress _ _ _ => exact absurd trivial bad
  | answer _ => exact absurd trivial bad

end

namespace Input

def before : State := State.init true ⟨false, 0, 0, IPC_STS_CMD_SUCCESS⟩ fun _ => 0

def noop : Request := ⟨[], Nat.zero_le _⟩

def enomem : Errno := ⟨12, by decide, by decide⟩

def send (c : Nat) : List Event := [.call c noop, .writeCmd c true]

def version (word : BitVec 16) : Event := .answer ⟨2, 0, IPC_STS_CMD_SUCCESS, fun _ => word⟩

def readFails : List Event := send 0 ++ [.poll 0 (some enomem) false]

def timesOut : List Event := send 0 ++ [.poll 0 none true]

def overtaken : List Event :=
  send 0 ++ [version 0x3031, .poll 0 none false] ++ send 1 ++ [version 0x3938, .poll 1 none false] ++
    [.receive 0, .readData 0 none, .finish 0]

end Input

section

open Input

end

end OpenwrtSource.As21xxx.IpcReplies
