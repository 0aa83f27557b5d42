import OpenwrtSource.Lib.Run
import OpenwrtSource.Hnat.EntryUpdate

/-!
# The queue of neighbour updates

The netevent notifier appends to the list, the work item takes a limited batch
from its head, and `hnat_neigh_update_cleanup` empties it.  A step is what one
of them does under the lock, or between two sections of the lock.  The work
queue of the kernel keeps one bit that says the item is queued, clears it when
the handler starts, and starts no second handler while one runs.
-/

namespace OpenwrtSource.Hnat.NeighQueue

open Lib.Run Hnat.Foe Hnat.McastOffload Hnat.EntryUpdate Hnat.EntryDelete

def NEIGH_PROCESS_BUDGET : Nat := 128

/-- An element of the list, with the number of events accepted before it. -/
structure Queued where
  arrival : Nat
  event : HnatNeighUpdateEvent
  deriving DecidableEq

/-- Where `hnat_neigh_update_work_handler` is. -/
inductive Handler where
  | idle
  | started
  | batch (localList : List Queued)
  | handled
  deriving DecidableEq

/-- Where the thread is that registers the notifier and cleans up. -/
inductive Notifier where
  | registered
  | unregistered
  /-- The list is empty and the work item was pending. -/
  | cleared
  /-- In `cancel_delayed_work_sync`. -/
  | cancelling
  | finished
  deriving DecidableEq

structure State where
  head : List Queued
  pendingCnt : BitVec 32
  workPending : Bool
  handler : Handler
  notifier : Notifier
  foeTable : FoeTable
  -- What has happened, which the driver does not keep.
  accepted : List Queued
  processed : List Queued
  discarded : List Queued
  batches : Nat

/-- After `hnat_neigh_update_init`. -/
def State.init (foeTable : FoeTable) : State where
  head := []
  pendingCnt := 0
  workPending := false
  handler := .idle
  notifier := .registered
  foeTable
  accepted := []
  processed := []
  discarded := []
  batches := 0

def State.inHand (s : State) : List Queued :=
  match s.handler with
  | .batch localList => localList
  | _ => []

/-! ## The notifier -/

def scheduleDelayedWork (s : State) : State :=
  { s with workPending := if s.notifier = .cancelling then s.workPending else true }

/-- `max(4096, gc_thresh * 2)` of two `int`. -/
def pendingMax (gcThresh3 : BitVec 32) : BitVec 32 :=
  if (4096#32).slt (gcThresh3 * 2) then gcThresh3 * 2 else 4096

/-- `gcThresh3` is the sum of the two limits of the kernel's tables. -/
def nfHnatNeteventHandler (hasDev : Bool) (neigh : HnatNeighUpdateEvent) (gcThresh3 : BitVec 32)
    (allocated : Bool) (s : State) : State :=
  if !hasDev || neigh.nudState &&& (NUD_CONNECTED ||| NUD_FAILED) == 0 then s
  else if pendingMax gcThresh3 ≤ s.pendingCnt then s
  else if !allocated then s
  else
    let entry : Queued := ⟨s.accepted.length, neigh⟩
    let s := { s with
      head := s.head ++ [entry]
      pendingCnt := s.pendingCnt + 1
      accepted := s.accepted ++ [entry] }
    if s.workPending then s else scheduleDelayedWork s

/-! ## The work item -/

/-- The loop of the first section: what has moved to `local_list`, and what is left. -/
def moveBatch : Nat → List Queued → List Queued × List Queued
  | _, [] => ([], [])
  | processed, entry :: rest =>
    if NEIGH_PROCESS_BUDGET ≤ processed then ([], entry :: rest)
    else
      let (moved, left) := moveBatch (processed + 1) rest
      (entry :: moved, left)

def takeBatch (s : State) : State :=
  let (localList, left) := moveBatch 0 s.head
  { s with
    head := left
    pendingCnt := s.pendingCnt - BitVec.ofNat 32 localList.length
    handler := .batch localList
    batches := s.batches + 1 }

def processBatch (plat : Platform) (foeTimestamp : Nat → Nat → BitVec 8) (localList : List Queued)
    (s : State) : State :=
  { s with
    foeTable :=
      if localList.isEmpty then s.foeTable
      else foeClearEntry plat foeTimestamp (localList.map Queued.event) s.foeTable
    handler := .handled
    processed := s.processed ++ localList }

def finishWork (s : State) : State :=
  if s.head.isEmpty then { s with handler := .idle }
  else scheduleDelayedWork { s with handler := .idle }

/-! ## The cleanup -/

def clearList (s : State) : State :=
  { s with
    head := []
    pendingCnt := 0
    notifier := if s.workPending then .cleared else .finished
    discarded := s.discarded ++ s.head }

inductive Event where
  | neighUpdate (hasDev : Bool) (neigh : HnatNeighUpdateEvent) (gcThresh3 : BitVec 32)
      (allocated : Bool)
  | workStart
  | takeBatch
  | processBatch (foeTimestamp : Nat → Nat → BitVec 8)
  | finishWork
  /-- `unregister_netevent_notifier`, which waits for a running notifier. -/
  | unregister
  | clearList
  /-- `cancel_delayed_work_sync`, up to the wait for a running handler and from it. -/
  | cancelWork
  | cancelled
  /-- `register_netevent_notifier`, in `hnat_warm_init`. -/
  | register
  /-- Any other change of the table. -/
  | foeWrite (foeTable : FoeTable)

/-- An event that cannot happen in the state changes nothing. -/
def step (plat : Platform) (s : State) : Event → State
  | .neighUpdate hasDev neigh gcThresh3 allocated =>
    if s.notifier = .registered then nfHnatNeteventHandler hasDev neigh gcThresh3 allocated s
    else s
  | .workStart =>
    if s.workPending ∧ s.handler = .idle then
      { s with workPending := false, handler := .started }
    else s
  | .takeBatch => if s.handler = .started then takeBatch s else s
  | .processBatch foeTimestamp =>
    match s.handler with
    | .batch localList => processBatch plat foeTimestamp localList s
    | _ => s
  | .finishWork => if s.handler = .handled then finishWork s else s
  | .unregister => if s.notifier = .registered then { s with notifier := .unregistered } else s
  | .clearList => if s.notifier = .unregistered then clearList s else s
  | .cancelWork =>
    if s.notifier = .cleared then { s with workPending := false, notifier := .cancelling } else s
  | .cancelled =>
    if s.notifier = .cancelling ∧ s.handler = .idle then { s with notifier := .finished } else s
  | .register => if s.notifier = .finished then { s with notifier := .registered } else s
  | .foeWrite foeTable => { s with foeTable }

theorem moveBatch_eq (processed : Nat) (head : List Queued) :
    moveBatch processed head = (head.take (NEIGH_PROCESS_BUDGET - processed),
      head.drop (NEIGH_PROCESS_BUDGET - processed)) := by
  induction head generalizing processed with
  | nil => simp [moveBatch]
  | cons entry rest ih =>
    rw [moveBatch]
    by_cases full : NEIGH_PROCESS_BUDGET ≤ processed
    · have none : NEIGH_PROCESS_BUDGET - processed = 0 := by omega
      simp [full, none]
    · have some : NEIGH_PROCESS_BUDGET - processed
          = NEIGH_PROCESS_BUDGET - (processed + 1) + 1 := by omega
      rw [if_neg full, ih, some]
      simp

/-! ## What each step does to the queue -/

/-- The ways in which a step changes the list, the batch in hand or their history. -/
inductive Moves (s s' : State) : Prop where
  | still (head : s'.head = s.head) (inHand : s'.inHand = s.inHand)
      (accepted : s'.accepted = s.accepted) (processed : s'.processed = s.processed)
      (discarded : s'.discarded = s.discarded) (batches : s'.batches = s.batches)
  | accept (entry : Queued) (arrival : entry.arrival = s.accepted.length)
      (head : s'.head = s.head ++ [entry]) (inHand : s'.inHand = s.inHand)
      (accepted : s'.accepted = s.accepted ++ [entry]) (processed : s'.processed = s.processed)
      (discarded : s'.discarded = s.discarded) (batches : s'.batches = s.batches)
  | take (empty : s.inHand = []) (head : s'.head = s.head.drop NEIGH_PROCESS_BUDGET)
      (inHand : s'.inHand = s.head.take NEIGH_PROCESS_BUDGET)
      (accepted : s'.accepted = s.accepted) (processed : s'.processed = s.processed)
      (discarded : s'.discarded = s.discarded) (batches : s'.batches = s.batches + 1)
  | process (head : s'.head = s.head) (inHand : s'.inHand = [])
      (accepted : s'.accepted = s.accepted) (processed : s'.processed = s.processed ++ s.inHand)
      (discarded : s'.discarded = s.discarded) (batches : s'.batches = s.batches)
  | discard (head : s'.head = []) (inHand : s'.inHand = s.inHand)
      (accepted : s'.accepted = s.accepted) (processed : s'.processed = s.processed)
      (discarded : s'.discarded = s.discarded ++ s.head) (batches : s'.batches = s.batches)

variable (s : State) (plat : Platform)

theorem Moves.refl : Moves s s := .still rfl rfl rfl rfl rfl rfl

theorem nfHnatNeteventHandler_eq (hasDev : Bool) (neigh : HnatNeighUpdateEvent)
    (gcThresh3 : BitVec 32) (allocated : Bool) (s : State) :
    nfHnatNeteventHandler hasDev neigh gcThresh3 allocated s = s ∨
      s.pendingCnt < pendingMax gcThresh3 ∧
        nfHnatNeteventHandler hasDev neigh gcThresh3 allocated s =
          { s with
            head := s.head ++ [⟨s.accepted.length, neigh⟩]
            pendingCnt := s.pendingCnt + 1
            accepted := s.accepted ++ [⟨s.accepted.length, neigh⟩]
            workPending := if s.notifier = .cancelling then s.workPending else true } := by
  unfold nfHnatNeteventHandler
  split
  · exact .inl rfl
  · split
    · exact .inl rfl
    case isFalse room =>
      split
      · exact .inl rfl
      · refine .inr ⟨by simpa using room, ?_⟩
        cases pending : s.workPending with
        | true => simp
        | false => simp [scheduleDelayedWork]

theorem step_moves (s : State) (event : Event) : Moves s (step plat s event) := by
  cases event with
  | neighUpdate hasDev neigh gcThresh3 allocated =>
    simp only [step]
    split
    · obtain same | ⟨_, moved⟩ :=
        nfHnatNeteventHandler_eq hasDev neigh gcThresh3 allocated s
      · rw [same]
        exact .refl s
      · rw [moved]
        exact .accept _ rfl rfl rfl rfl rfl rfl rfl
    · exact .refl s
  | workStart =>
    simp only [step]
    split
    case isTrue ready =>
      have empty : s.inHand = [] := by simp [State.inHand, ready.2]
      exact .still rfl (by rw [empty]; rfl) rfl rfl rfl rfl
    · exact .refl s
  | takeBatch =>
    simp only [step]
    split
    case isTrue started =>
      have empty : s.inHand = [] := by simp [State.inHand, started]
      refine .take empty ?_ ?_ rfl rfl rfl rfl <;> simp [takeBatch, moveBatch_eq, State.inHand]
    · exact .refl s
  | processBatch foeTimestamp =>
    simp only [step]
    split
    next localList held =>
      refine .process rfl rfl rfl ?_ rfl rfl
      simp [processBatch, State.inHand, held]
    · exact .refl s
  | finishWork =>
    simp only [step]
    split
    case isTrue handled =>
      have empty : s.inHand = [] := by simp [State.inHand, handled]
      unfold finishWork
      split <;> exact .still rfl (by rw [empty]; rfl) rfl rfl rfl rfl
    · exact .refl s
  | clearList =>
    simp only [step]
    split
    · exact .discard rfl rfl rfl rfl rfl rfl
    · exact .refl s
  | unregister | cancelWork | cancelled | register =>
    simp only [step]
    split
    · exact .still rfl rfl rfl rfl rfl rfl
    · exact .refl s
  | foeWrite foeTable => exact .still rfl rfl rfl rfl rfl rfl

/-! ## The invariant -/

/-- The events that the cleanup has not discarded, in the order of arrival. -/
def State.kept (s : State) : List Queued :=
  s.accepted.filter fun entry => entry ∉ s.discarded

/-- Every event that was accepted is in one place, in the order of arrival. -/
structure Accounted (s : State) : Prop where
  numbered : s.accepted.map Queued.arrival = List.range s.accepted.length
  inOrder : s.kept = s.processed ++ s.inHand ++ s.head
  known : ∀ entry ∈ s.discarded, entry ∈ s.accepted

variable {s : State} {entry : Queued}

theorem Accounted.nodup (accounted : Accounted s) : s.accepted.Nodup :=
  List.Nodup.of_map Queued.arrival (accounted.numbered ▸ List.nodup_range)

theorem Accounted.fresh (accounted : Accounted s) (entry : Queued)
    (arrival : entry.arrival = s.accepted.length) : entry ∉ s.accepted := by
  intro member
  have listed : entry.arrival ∈ s.accepted.map Queued.arrival := List.mem_map_of_mem member
  rw [accounted.numbered, arrival] at listed
  exact absurd (List.mem_range.mp listed) (Nat.lt_irrefl _)

theorem Accounted.init (foeTable : FoeTable) : Accounted (State.init foeTable) where
  numbered := rfl
  inOrder := rfl
  known := by simp [State.init]

theorem Accounted.moves {s' : State} (accounted : Accounted s) (moves : Moves s s') :
    Accounted s' := by
  obtain ⟨numbered, inOrder, known⟩ := accounted
  unfold State.kept at inOrder
  cases moves with
  | still head inHand accepted processed discarded =>
    refine ⟨by rw [accepted]; exact numbered, ?_, by rw [accepted, discarded]; exact known⟩
    rw [State.kept, accepted, discarded, inOrder, processed, inHand, head]
  | accept entry arrival head inHand accepted processed discarded =>
    have fresh := Accounted.fresh ⟨numbered, inOrder, known⟩ entry arrival
    have new : entry ∉ s.discarded := fun dropped => fresh (known entry dropped)
    refine ⟨?_, ?_, ?_⟩
    · rw [accepted]
      simp [numbered, arrival, List.range_succ]
    · rw [State.kept, accepted, discarded, List.filter_append, inOrder, processed, inHand, head]
      simp [new]
    · intro dropped member
      rw [discarded] at member
      rw [accepted]
      exact List.mem_append_left _ (known dropped member)
  | take empty head inHand accepted processed discarded =>
    refine ⟨by rw [accepted]; exact numbered, ?_, by rw [accepted, discarded]; exact known⟩
    rw [State.kept, accepted, discarded, inOrder, processed, inHand, head, empty]
    simp
  | process head inHand accepted processed discarded =>
    refine ⟨by rw [accepted]; exact numbered, ?_, by rw [accepted, discarded]; exact known⟩
    rw [State.kept, accepted, discarded, inOrder, processed, inHand, head]
    simp
  | discard head inHand accepted processed discarded =>
    have distinct : (s.processed ++ s.inHand ++ s.head).Nodup :=
      inOrder ▸ (Accounted.nodup ⟨numbered, inOrder, known⟩).filter _
    refine ⟨by rw [accepted]; exact numbered, ?_, ?_⟩
    · have apart := (List.nodup_append.mp distinct).2.2
      rw [State.kept, accepted, discarded, processed, inHand, head]
      have split : (s.accepted.filter fun entry => entry ∉ s.discarded ++ s.head) =
          (s.accepted.filter fun entry => entry ∉ s.discarded).filter (· ∉ s.head) := by
        rw [List.filter_filter]
        congr 1
        funext entry
        grind
      rw [split, inOrder, List.filter_append]
      have others : (s.processed ++ s.inHand).filter (· ∉ s.head) = s.processed ++ s.inHand := by
        rw [List.filter_eq_self]
        intro entry member
        simpa using fun queued => apart entry member entry queued rfl
      have none : s.head.filter (· ∉ s.head) = [] := by
        rw [List.filter_eq_nil_iff]
        intro entry queued
        simp [queued]
      rw [others, none]
    · intro entry member
      rw [discarded, List.mem_append] at member
      rw [accepted]
      obtain dropped | queued := member
      · exact known entry dropped
      · have kept : entry ∈ s.accepted.filter fun entry => entry ∉ s.discarded := by
          rw [inOrder]
          exact List.mem_append_right _ queued
        exact List.mem_of_mem_filter kept

/-- The counter counts the list, and whoever has to look at it will. -/
structure Awake (s : State) : Prop where
  counted : s.pendingCnt.toNat = s.head.length
  wake : s.head ≠ [] → s.workPending = true ∨ s.handler ≠ .idle
  /-- From the cleanup until the notifier is back. -/
  cleaned : s.notifier ≠ .registered → s.notifier ≠ .unregistered → s.head = []

theorem Awake.init (foeTable : FoeTable) : Awake (State.init foeTable) where
  counted := rfl
  wake := by simp [State.init]
  cleaned := fun _ _ => rfl

theorem Awake.accept (awake : Awake s) (entry : Queued) (limit : BitVec 32)
    (room : s.pendingCnt < limit) (registered : s.notifier = .registered) :
    Awake { s with
      head := s.head ++ [entry]
      pendingCnt := s.pendingCnt + 1
      accepted := s.accepted ++ [entry]
      workPending := if s.notifier = .cancelling then s.workPending else true } where
  counted := by
    have counted := awake.counted
    have bounded : s.pendingCnt.toNat + 1 < 2 ^ 32 := by
      have := limit.isLt
      have : s.pendingCnt.toNat < limit.toNat := room
      omega
    rw [BitVec.toNat_add_of_lt bounded]
    simp [counted]
  wake := fun _ => .inl (by simp [registered])
  cleaned := fun other => absurd registered other

theorem Awake.takeBatch (awake : Awake s) : Awake (takeBatch s) where
  counted := by
    have counted := awake.counted
    simp only [NeighQueue.takeBatch, moveBatch_eq, List.length_take, List.length_drop]
    have small : s.head.length < 2 ^ 32 := counted ▸ s.pendingCnt.isLt
    rw [BitVec.toNat_sub_of_le]
    · rw [counted, BitVec.toNat_ofNat, Nat.mod_eq_of_lt (by omega)]
      omega
    · rw [BitVec.le_def, BitVec.toNat_ofNat, Nat.mod_eq_of_lt (by omega), counted]
      omega
  wake := fun _ => .inr (by simp [NeighQueue.takeBatch])
  cleaned := fun first second => by
    have empty := awake.cleaned first second
    simp [NeighQueue.takeBatch, empty, moveBatch]

theorem Awake.finishWork (awake : Awake s) : Awake (finishWork s) := by
  unfold NeighQueue.finishWork
  split
  case isTrue empty =>
    rw [List.isEmpty_iff] at empty
    exact ⟨awake.counted, fun queued => absurd empty queued, awake.cleaned⟩
  case isFalse queued =>
    rw [List.isEmpty_iff] at queued
    -- the list is empty while the work item is being cancelled
    have requeues : s.notifier ≠ .cancelling := fun cancelling =>
      queued (awake.cleaned (by simp [cancelling]) (by simp [cancelling]))
    exact ⟨awake.counted, fun _ => .inl (by simp [scheduleDelayedWork, requeues]), awake.cleaned⟩

theorem Awake.step (awake : Awake s) (plat : Platform) (event : Event) :
    Awake (step plat s event) := by
  cases event with
  | neighUpdate hasDev neigh gcThresh3 allocated =>
    simp only [NeighQueue.step]
    split
    case isTrue registered =>
      obtain same | ⟨room, moved⟩ :=
        nfHnatNeteventHandler_eq hasDev neigh gcThresh3 allocated s
      · rw [same]
        exact awake
      · rw [moved]
        exact awake.accept _ _ room registered
    · exact awake
  | workStart =>
    simp only [NeighQueue.step]
    split
    · exact ⟨awake.counted, fun _ => .inr (by simp), awake.cleaned⟩
    · exact awake
  | takeBatch =>
    simp only [NeighQueue.step]
    split
    · exact awake.takeBatch
    · exact awake
  | processBatch foeTimestamp =>
    simp only [NeighQueue.step]
    split
    · exact ⟨awake.counted, fun _ => .inr (by simp [processBatch]), awake.cleaned⟩
    · exact awake
  | finishWork =>
    simp only [NeighQueue.step]
    split
    · exact awake.finishWork
    · exact awake
  | unregister =>
    simp only [NeighQueue.step]
    split
    · exact ⟨awake.counted, awake.wake, fun _ other => absurd rfl other⟩
    · exact awake
  | clearList =>
    simp only [NeighQueue.step]
    split
    · exact ⟨rfl, fun queued => absurd rfl queued, fun _ _ => rfl⟩
    · exact awake
  | cancelWork =>
    simp only [NeighQueue.step]
    split
    case isTrue cleared =>
      have empty := awake.cleaned (by simp [cleared]) (by simp [cleared])
      exact ⟨awake.counted, fun queued => absurd empty queued, fun _ _ => empty⟩
    · exact awake
  | cancelled =>
    simp only [NeighQueue.step]
    split
    case isTrue cancelling =>
      have empty := awake.cleaned (by simp [cancelling.1]) (by simp [cancelling.1])
      exact ⟨awake.counted, awake.wake, fun _ _ => empty⟩
    · exact awake
  | register =>
    simp only [NeighQueue.step]
    split
    · exact ⟨awake.counted, awake.wake, fun other => absurd rfl other⟩
    · exact awake
  | foeWrite foeTable => exact ⟨awake.counted, awake.wake, awake.cleaned⟩

/-! ## Progress -/

/-- The event is handled, in hand, or at a place that the batches up to the
last one named will reach. -/
def Served (entry : Queued) (deadline : Nat) (s : State) : Prop :=
  entry ∈ s.processed ∨ entry ∈ s.inHand ∨
    ∃ i, s.head[i]? = some entry ∧ NEIGH_PROCESS_BUDGET * s.batches + i ≤ deadline

theorem Served.moves {deadline : Nat} {s' : State} (served : Served entry deadline s)
    (moves : Moves s s') (kept : s'.discarded = s.discarded) : Served entry deadline s' := by
  unfold Served at served ⊢
  cases moves with
  | still head inHand _ processed _ batches =>
    rw [head, inHand, processed, batches]
    exact served
  | accept last _ head inHand _ processed _ batches =>
    rw [head, inHand, processed, batches]
    refine served.imp_right (Or.imp_right ?_)
    rintro ⟨i, at_i, inTime⟩
    exact ⟨i, List.getElem?_append_left (List.getElem?_eq_some_iff.mp at_i).1 ▸ at_i, inTime⟩
  | take empty head inHand _ processed _ batches =>
    rw [head, inHand, processed, batches]
    obtain done | held | ⟨i, at_i, inTime⟩ := served
    · exact .inl done
    · simp [empty] at held
    · right
      by_cases taken : i < NEIGH_PROCESS_BUDGET
      · left
        exact List.mem_of_getElem? ((List.getElem?_take_of_lt taken).trans at_i)
      · right
        refine ⟨i - NEIGH_PROCESS_BUDGET, ?_, ?_⟩
        · rw [List.getElem?_drop, Nat.add_sub_of_le (by omega)]
          exact at_i
        · rw [Nat.mul_add]
          omega
  | process head inHand _ processed _ batches =>
    rw [head, inHand, processed, batches]
    obtain done | held | waits := served
    · exact .inl (List.mem_append_left _ done)
    · exact .inl (List.mem_append_right _ held)
    · exact .inr (.inr waits)
  | discard head inHand _ processed discarded batches =>
    have empty : s.head = [] := by simpa [discarded] using kept
    obtain done | held | ⟨i, at_i, _⟩ := served
    · exact .inl (processed ▸ done)
    · exact .inr (.inl (inHand ▸ held))
    · simp [empty] at at_i

theorem discarded_step (s : State) (event : Event) (other : event ≠ .clearList) :
    (step plat s event).discarded = s.discarded := by
  cases event with
  | clearList => exact absurd rfl other
  | neighUpdate hasDev neigh gcThresh3 allocated =>
    simp only [step]
    split
    · obtain same | ⟨_, moved⟩ := nfHnatNeteventHandler_eq hasDev neigh gcThresh3 allocated s
      · rw [same]
      · rw [moved]
    · rfl
  | finishWork =>
    simp only [step, finishWork, scheduleDelayedWork]
    split
    · split <;> rfl
    · rfl
  | workStart | takeBatch | processBatch | unregister | cancelWork | cancelled | register =>
    simp only [step]
    split <;> rfl
  | foeWrite foeTable => rfl

theorem served_run {deadline : Nat} (served : Served entry deadline s) (events : List Event)
    (uncleared : ∀ event ∈ events, event ≠ .clearList) :
    Served entry deadline (run (step plat) s events) := by
  apply run_invariant (step plat) (fun _ event => event ≠ .clearList) (Served entry deadline)
  · intro state event before other
    exact before.moves (step_moves plat state event) (discarded_step plat state event other)
  · exact served
  · exact along_of_forall _ _ _ _ fun _ event member => uncleared event member

theorem awake_run (foeTable : FoeTable) (events : List Event) :
    Awake (run (step plat) (State.init foeTable) events) :=
  run_invariant (step plat) (fun _ _ => True) Awake (fun _ event awake _ => awake.step plat event)
    _ events (.init foeTable) (along_of_forall _ _ _ _ fun _ _ _ => trivial)

theorem accounted_run (foeTable : FoeTable) (events : List Event) :
    Accounted (run (step plat) (State.init foeTable) events) :=
  run_invariant (step plat) (fun _ _ => True) Accounted
    (fun s event accounted _ => accounted.moves (step_moves plat s event))
    _ events (.init foeTable) (along_of_forall _ _ _ _ fun _ _ _ => trivial)

theorem finishWork_requeues (awake : Awake s) (handled : s.handler = .handled)
    (queued : s.head ≠ []) : (step plat s .finishWork).workPending = true := by
  have requeues : s.notifier ≠ .cancelling := fun cancelling =>
    queued (awake.cleaned (by simp [cancelling]) (by simp [cancelling]))
  simp [step, finishWork, scheduleDelayedWork, handled, queued, requeues]

theorem processBatch_inOrder (foeTimestamp : Nat → Nat → BitVec 8) (localList : List Queued)
    (s : State) :
    (processBatch plat foeTimestamp localList s).foeTable =
      localList.foldl (fun table entry => foeClearEntry plat foeTimestamp [entry.event] table)
        s.foeTable := by
  unfold processBatch
  cases localList with
  | nil => rfl
  | cons first rest =>
    simp only [List.isEmpty_cons, Bool.false_eq_true, if_false]
    rw [foeClearEntry_foldl, List.foldl_map]

theorem discarded_by_clearList {event : Event}
    (changed : (step plat s event).discarded ≠ s.discarded) :
    event = .clearList ∧ s.notifier = .unregistered ∧
      (step plat s event).discarded = s.discarded ++ s.head := by
  have clears : event = .clearList := by
    by_contra other
    exact changed (discarded_step plat s event other)
  subst clears
  by_cases unregistered : s.notifier = .unregistered
  · exact ⟨rfl, unregistered, by simp [step, unregistered, clearList]⟩
  · exact absurd (by simp [step, unregistered]) changed

/-- In every run the counter is the length of the list, and a list with an
element has the work item queued or a handler under way that queues it again.
The events that were accepted and not discarded are, in the order of arrival,
those handled, those in hand and those in the list, and only the cleanup
discards, from the list.  An event in the list has been handled as soon as the
batches that its place asks for are. -/
theorem neighUpdate_queue (plat : Platform) (foeTable : FoeTable) (events : List Event) :
    let s := run (step plat) (State.init foeTable) events
    s.pendingCnt.toNat = s.head.length ∧
      (s.head ≠ [] → s.workPending = true ∨ s.handler ≠ .idle) ∧
      (s.handler = .handled → s.head ≠ [] → (step plat s .finishWork).workPending = true) ∧
      s.accepted.map Queued.arrival = List.range s.accepted.length ∧
      s.kept = s.processed ++ s.inHand ++ s.head ∧
      (∀ event, (step plat s event).discarded ≠ s.discarded →
        event = .clearList ∧ s.notifier = .unregistered ∧
          (step plat s event).discarded = s.discarded ++ s.head) ∧
      (∀ localList foeTimestamp, s.handler = .batch localList →
        (step plat s (.processBatch foeTimestamp)).processed = s.processed ++ localList ∧
          (step plat s (.processBatch foeTimestamp)).foeTable =
            localList.foldl
              (fun table entry => foeClearEntry plat foeTimestamp [entry.event] table)
              s.foeTable) ∧
      ∀ i entry, s.head[i]? = some entry →
        ∀ more : List Event, (∀ event ∈ more, event ≠ .clearList) →
          let later := run (step plat) s more
          NEIGH_PROCESS_BUDGET * s.batches + i < NEIGH_PROCESS_BUDGET * later.batches →
            later.inHand = [] → entry ∈ later.processed := by
  intro s
  have awake : Awake s := awake_run plat foeTable events
  have accounted : Accounted s := accounted_run plat foeTable events
  refine ⟨awake.counted, awake.wake, finishWork_requeues plat awake, accounted.numbered,
    accounted.inOrder, fun _ => discarded_by_clearList plat, ?_, ?_⟩
  · intro localList foeTimestamp held
    simp only [step, held]
    exact ⟨rfl, processBatch_inOrder plat foeTimestamp localList s⟩
  · intro i entry at_i more uncleared later reached done
    have start : Served entry (NEIGH_PROCESS_BUDGET * s.batches + i) s :=
      .inr (.inr ⟨i, at_i, Nat.le_refl _⟩)
    have served : Served entry (NEIGH_PROCESS_BUDGET * s.batches + i) later :=
      served_run plat start more uncleared
    obtain handled | held | ⟨j, _, inTime⟩ := served
    · exact handled
    · rw [done] at held
      exact absurd held List.not_mem_nil
    · omega

/-! ## A reset discards what is queued -/

def roamed : HnatNeighUpdateEvent where
  dip := .ipv4 0xc0a80102
  ha := 0x020000000002
  nudState := NUD_REACHABLE

def smallPlatform : Platform where
  ppeNum := 1
  foeEtryNum := 32768
  maxEntry := 64

/-- `hnat_warm_init` while the event is queued. -/
def resetWhileQueued : List Event :=
  [.neighUpdate true roamed 2048 true, .unregister, .clearList]

theorem discarded_run (discarded : entry ∈ s.discarded) (events : List Event) :
    entry ∈ (run (step plat) s events).discarded := by
  apply run_invariant (step plat) (fun _ _ => True) (fun s => entry ∈ s.discarded) _ s events
    discarded (along_of_forall _ _ _ _ fun _ _ _ => trivial)
  intro state event before _
  by_cases same : (step plat state event).discarded = state.discarded
  · rw [same]
    exact before
  · rw [(discarded_by_clearList plat same).2.2]
    exact List.mem_append_left _ before

theorem reset_discards_update :
    (⟨0, roamed⟩ : Queued) ∈ (run (step smallPlatform) (State.init fun _ _ => FoeEntry.zero)
        resetWhileQueued).accepted ∧
      ∀ more : List Event,
        (⟨0, roamed⟩ : Queued) ∉ (run (step smallPlatform) (State.init fun _ _ => FoeEntry.zero)
          (resetWhileQueued ++ more)).processed := by
  refine ⟨by decide, fun more handled => ?_⟩
  have discarded : (⟨0, roamed⟩ : Queued) ∈
      (run (step smallPlatform) (State.init fun _ _ => FoeEntry.zero) resetWhileQueued).discarded := by
    decide
  have later := discarded_run smallPlatform discarded more
  rw [← run_append] at later
  have accounted := accounted_run smallPlatform (fun _ _ => FoeEntry.zero) (resetWhileQueued ++ more)
  have kept : (⟨0, roamed⟩ : Queued) ∈ (run (step smallPlatform)
      (State.init fun _ _ => FoeEntry.zero) (resetWhileQueued ++ more)).kept := by
    rw [accounted.inOrder]
    exact List.mem_append_left _ (List.mem_append_left _ handled)
  have spared := (List.mem_filter.mp kept).2
  simp only [decide_eq_true_eq] at spared
  exact spared later

end OpenwrtSource.Hnat.NeighQueue
