import OpenwrtSource.Ser.EthReset

/-!
# The handshake of the reset worker with the chips

`mtk_rest_cnt` is reloaded from the number of chips by four events.  It stands
for the answers that are owed as long as chips come and go at the right time
and answer nothing but the current request.
-/

namespace OpenwrtSource.Ser.Handshake

open Lib.Run Ser.EthReset

variable {Chip : Type} [DecidableEq Chip]

/-- The worker is in a wait on `wait_ser_done`. -/
def Waits (phase : Phase) : Prop := phase = .waiting ∨ phase = .waitingStopFail

/-- A request is out and the worker has not got past its wait. -/
def Pending (phase : Phase) : Prop := phase = .requested ∨ Waits phase

instance (phase : Phase) : Decidable (Waits phase) := inferInstanceAs (Decidable (_ ∨ _))
instance (phase : Phase) : Decidable (Pending phase) := inferInstanceAs (Decidable (_ ∨ _))

def GetsPast (s : State Chip) : Prop := Waits s.phase ∧ ¬ Waits (step s .work).phase

instance (s : State Chip) : Decidable (GetsPast s) := inferInstanceAs (Decidable (_ ∧ ¬ _))

/-- The worker gets past a wait only when all answers are in or one has failed,
and it does when no answer is owed. -/
def Correct (s : State Chip) : Prop :=
  (GetsPast s → s.owes = ∅ ∨ s.failed = true) ∧
  (Waits s.phase → s.owes = ∅ → GetsPast s)

/-- No chip comes while an answer is owed.  A chip goes, while answers are owed,
only if all others still owe theirs, and not as the last one in a wait.  A chip
answers the current request, before any chip has failed it.  The worker waits
for somebody, and leaves no completion behind. -/
def StepOk (s : State Chip) : Event Chip → Prop
  | .online chip => chip ∈ s.online ∨ s.failed = true ∨ s.owes = ∅
  | .offline chip =>
    s.failed = true ∨ s.owes = ∅ ∨
      (s.online.erase chip ⊆ s.owes ∧ (Waits s.phase → s.owes ≠ {chip}))
  | .answer _ _ => s.failed = false
  | .lateAnswer chip _ => s.late chip = 0
  | .work =>
    (s.phase = .requested → (s.online = ∅ ↔ s.owes = ∅ ∧ s.eth.waitSerDone = 0)) ∧
    (s.phase = .woken → s.eth.netsysV3OrGreater = true → s.eth.stopFail = true →
      s.online ≠ ∅)
  | _ => True

instance decidableStepOk (s : State Chip) : ∀ event, Decidable (StepOk s event)
  | .online _ => inferInstanceAs (Decidable (_ ∨ _ ∨ _))
  | .offline _ => inferInstanceAs (Decidable (_ ∨ _ ∨ (_ ∧ (_ → _))))
  | .answer _ _ => inferInstanceAs (Decidable (_ = _))
  | .lateAnswer _ _ => inferInstanceAs (Decidable (_ = _))
  | .work => inferInstanceAs (Decidable ((_ → (_ ↔ _)) ∧ (_ → _ → _ → _)))
  | .l1serDone | .topsDumpDone | .startResetInit | .debugfsForce _ | .debugfsTest _
  | .debugfsWrite _ | .debugfsSchedule | .monitorStart | .monitorHang _ | .monitorEnd
  | .coldReset => inferInstanceAs (Decidable True)

/-- Nobody owes an answer that the worker still waits for. -/
def Settled (s : State Chip) : Prop := s.failed = true ∨ s.owes = ∅

structure Inv (s : State Chip) : Prop where
  wifiNum : s.eth.wifiNum = s.online.card
  owes : s.owes ⊆ s.online
  settledCnt : Settled s → s.eth.restCnt = s.online.card
  owedCnt : ¬ Settled s → s.eth.restCnt = s.owes.card
  outside : ¬ Pending s.phase → s.eth.waitSerDone = 0 ∧ Settled s
  atMostOne : s.eth.waitSerDone ≤ 1
  completed : s.eth.waitSerDone = 1 → Settled s
  failedDone : Pending s.phase → s.failed = true → s.eth.waitSerDone = 1
  waited : Waits s.phase → s.owes = ∅ → s.eth.waitSerDone = 1

section Steps

variable {s : State Chip}

omit [DecidableEq Chip] in
theorem not_settled_iff : ¬ Settled s ↔ s.failed = false ∧ s.owes ≠ ∅ := by
  simp [Settled]

omit [DecidableEq Chip] in
theorem Inv.of_same {s' : State Chip} (inv : Inv s)
    (pending : Pending s'.phase ↔ Pending s.phase) (waits : Waits s'.phase → Waits s.phase)
    (online : s'.online = s.online) (owes : s'.owes = s.owes) (failed : s'.failed = s.failed)
    (wifiNum : s'.eth.wifiNum = s.eth.wifiNum) (restCnt : s'.eth.restCnt = s.eth.restCnt)
    (done : s'.eth.waitSerDone = s.eth.waitSerDone) : Inv s' := by
  have settled : Settled s' ↔ Settled s := by rw [Settled, Settled, owes, failed]
  constructor
  · rw [wifiNum, online]
    exact inv.wifiNum
  · rw [owes, online]
    exact inv.owes
  · rw [settled, restCnt, online]
    exact inv.settledCnt
  · rw [settled, restCnt, owes]
    exact inv.owedCnt
  · rw [pending, done, settled]
    exact inv.outside
  · rw [done]
    exact inv.atMostOne
  · rw [done, settled]
    exact inv.completed
  · rw [pending, failed, done]
    exact inv.failedDone
  · rw [owes, done]
    exact fun now => inv.waited (waits now)

variable {chip : Chip} {message : Answer} {phase : Phase}

theorem inv_online (inv : Inv s) (ok : StepOk s (.online chip)) : Inv (step s (.online chip)) := by
  simp only [step]
  split
  · exact inv
  · rename_i new
    have settled : Settled s := ok.resolve_left new
    have number : s.eth.wifiNum + 1 = ((insert chip s.online).card : Int) := by
      rw [Finset.card_insert_of_notMem new, inv.wifiNum]
      push_cast
      rfl
    exact {
      wifiNum := number
      owes := inv.owes.trans (Finset.subset_insert _ _)
      settledCnt := fun _ => number
      owedCnt := fun open_ => absurd settled open_
      outside := inv.outside
      atMostOne := inv.atMostOne
      completed := inv.completed
      failedDone := inv.failedDone
      waited := inv.waited }

theorem inv_offline (inv : Inv s) (ok : StepOk s (.offline chip)) :
    Inv (step s (.offline chip)) := by
  simp only [step]
  split
  · rename_i was
    have number : s.eth.wifiNum - 1 = ((s.online.erase chip).card : Int) := by
      have positive : 0 < s.online.card := Finset.card_pos.mpr ⟨chip, was⟩
      rw [Finset.card_erase_of_mem was, inv.wifiNum]
      omega
    have settles : Settled s → s.failed = true ∨ s.owes.erase chip = ∅ := by
      rintro (failed | empty)
      · exact .inl failed
      · exact .inr (by rw [empty]; rfl)
    constructor
    · exact number
    · exact Finset.erase_subset_erase chip inv.owes
    · exact fun _ => number
    · intro open_
      -- all others still owe an answer, so the new number of chips counts them
      have unsettled : ¬ Settled s := fun settled => open_ (settles settled)
      obtain ⟨others, -⟩ := (ok.resolve_left fun failed => unsettled (.inl failed)).resolve_left
        fun empty => unsettled (.inr empty)
      have same : s.online.erase chip = s.owes.erase chip :=
        Finset.Subset.antisymm
          (fun c member => Finset.mem_erase.mpr ⟨Finset.ne_of_mem_erase member, others member⟩)
          (Finset.erase_subset_erase chip inv.owes)
      exact number.trans (by rw [same])
    · intro notPending
      exact ⟨(inv.outside notPending).1, settles (inv.outside notPending).2⟩
    · exact inv.atMostOne
    · exact fun one => settles (inv.completed one)
    · exact inv.failedDone
    · intro waits empty
      rcases ok with failed | none_ | ⟨-, last⟩
      · exact inv.failedDone (.inr waits) failed
      · exact inv.waited waits none_
      · have nobody : s.owes = ∅ := by
          rcases Finset.erase_eq_empty_iff s.owes chip |>.mp empty with h | h
          · exact h
          · exact absurd h (last waits)
        exact inv.waited waits nobody
  · exact inv

theorem complete_zero : complete 0 = 1 := rfl

theorem consume_one : consume 1 = 0 := rfl

/-- What an answer that reports no failure does to the driver. -/
def countDown (eth : Eth) : Eth :=
  if eth.restCnt - 1 = 0 then
    { eth with waitSerDone := complete eth.waitSerDone, restCnt := eth.wifiNum }
  else { eth with restCnt := eth.restCnt - 1 }

omit [DecidableEq Chip] in
theorem receive_done (fine : message ≠ .stopTrafficDoneFail) :
    receive s message = { s with eth := countDown s.eth } := by
  cases message with
  | stopTrafficDoneFail => exact absurd rfl fine
  | wifiResetDone => rfl
  | stopTrafficDone => rfl

theorem Inv.answering (inv : Inv s) (unfailed : s.failed = false) (owed : chip ∈ s.owes) :
    Pending s.phase ∧ s.eth.waitSerDone = 0 ∧
      s.eth.restCnt = ((s.owes.erase chip).card : Int) + 1 := by
  have unsettled : ¬ Settled s := not_settled_iff.mpr ⟨unfailed, Finset.ne_empty_of_mem owed⟩
  refine ⟨?_, ?_, ?_⟩
  · by_contra outside
    exact unsettled (inv.outside outside).2
  · have atMostOne := inv.atMostOne
    have notOne : s.eth.waitSerDone ≠ 1 := fun one => unsettled (inv.completed one)
    omega
  · have positive : 0 < s.owes.card := Finset.card_pos.mpr ⟨chip, owed⟩
    rw [inv.owedCnt unsettled, Finset.card_erase_of_mem owed]
    omega

theorem inv_fail (inv : Inv s) (unfailed : s.failed = false) (owed : chip ∈ s.owes) :
    Inv (step s (.answer chip .stopTrafficDoneFail)) := by
  obtain ⟨pending, none_, -⟩ := inv.answering unfailed owed
  have completed : complete s.eth.waitSerDone = 1 := by rw [none_, complete_zero]
  simp only [step, if_pos owed]
  exact {
    wifiNum := inv.wifiNum
    owes := (Finset.erase_subset _ _).trans inv.owes
    settledCnt := fun _ => inv.wifiNum
    owedCnt := fun open_ => absurd (.inl (by simp)) open_
    outside := fun outside => absurd pending outside
    atMostOne := completed.le
    completed := fun _ => .inl (by simp)
    failedDone := fun _ _ => completed
    waited := fun _ _ => completed }

theorem inv_done (fine : message ≠ .stopTrafficDoneFail) (inv : Inv s) (unfailed : s.failed = false)
    (owed : chip ∈ s.owes) : Inv (step s (.answer chip message)) := by
  obtain ⟨pending, none_, count⟩ := inv.answering unfailed owed
  have still : (s.failed || decide (message = .stopTrafficDoneFail)) = false := by
    simp [unfailed, fine]
  have subset : s.owes.erase chip ⊆ s.online := (Finset.erase_subset _ _).trans inv.owes
  simp only [step, if_pos owed, receive_done fine, still, countDown]
  by_cases last : s.owes.erase chip = ∅
  · have completed : complete s.eth.waitSerDone = 1 := by rw [none_, complete_zero]
    have zero : s.eth.restCnt - 1 = 0 := by
      rw [count, last]
      rfl
    rw [if_pos zero]
    exact {
      wifiNum := inv.wifiNum
      owes := subset
      settledCnt := fun _ => inv.wifiNum
      owedCnt := fun open_ => absurd (.inr last) open_
      outside := fun outside => absurd pending outside
      atMostOne := completed.le
      completed := fun _ => .inr last
      failedDone := fun _ _ => completed
      waited := fun _ _ => completed }
  · have more : 0 < (s.owes.erase chip).card :=
      Finset.card_pos.mpr (Finset.nonempty_iff_ne_empty.mpr last)
    have notZero : ¬ s.eth.restCnt - 1 = 0 := by omega
    have unsettled : ¬ (false = true ∨ s.owes.erase chip = ∅) := by simpa using last
    rw [if_neg notZero]
    exact {
      wifiNum := inv.wifiNum
      owes := subset
      settledCnt := fun settled => absurd settled unsettled
      owedCnt := fun _ => by
        change s.eth.restCnt - 1 = ((s.owes.erase chip).card : Int)
        omega
      outside := fun outside => absurd pending outside
      atMostOne := inv.atMostOne
      completed := fun one => absurd (none_.symm.trans one) (by decide)
      failedDone := fun _ failed => absurd failed (by simp)
      waited := fun _ empty => absurd empty last }

theorem inv_answer (inv : Inv s) (ok : StepOk s (.answer chip message)) :
    Inv (step s (.answer chip message)) := by
  by_cases owed : chip ∈ s.owes
  · by_cases fails : message = .stopTrafficDoneFail
    · subst fails
      exact inv_fail inv ok owed
    · exact inv_done fails inv ok owed
  · simpa only [step, if_neg owed] using inv

theorem inv_request {event : FeEvent} (inv : Inv s) (outside : ¬ Pending s.phase)
    (pending : Pending phase) (someone : Waits phase → s.online ≠ ∅) :
    Inv (request s event phase) := by
  obtain ⟨none_, settled⟩ := inv.outside outside
  exact {
    wifiNum := inv.wifiNum
    owes := Finset.Subset.refl _
    settledCnt := fun _ => inv.settledCnt settled
    owedCnt := fun _ => inv.settledCnt settled
    outside := fun outside => absurd pending outside
    atMostOne := inv.atMostOne
    completed := fun one => absurd (none_.symm.trans one) (by decide)
    failedDone := fun _ failed => absurd failed (by simp [request])
    waited := fun waits empty => absurd empty (someone waits) }

omit [DecidableEq Chip] in
theorem Inv.between {s' : State Chip} (inv : Inv s) (at_ : s.phase = phase) (phase' : Phase)
    (at' : s'.phase = phase') (outside : ¬ Pending phase) (outside' : ¬ Pending phase')
    (online : s'.online = s.online) (owes : s'.owes = s.owes) (failed : s'.failed = s.failed)
    (wifiNum : s'.eth.wifiNum = s.eth.wifiNum) (restCnt : s'.eth.restCnt = s.eth.restCnt)
    (done : s'.eth.waitSerDone = s.eth.waitSerDone) : Inv s' := by
  subst at_ at'
  exact inv.of_same (iff_of_false outside' outside) (fun waits => absurd (.inr waits) outside')
    online owes failed wifiNum restCnt done

omit [DecidableEq Chip] in
theorem inv_wake {stopFail : Bool} (inv : Inv s) (done : s.eth.waitSerDone ≠ 0)
    (outside : ¬ Pending phase) :
    Inv { s with
      phase
      eth := { s.eth with waitSerDone := consume s.eth.waitSerDone, stopFail } } := by
  have one : s.eth.waitSerDone = 1 := by
    have atMostOne := inv.atMostOne
    omega
  have used : consume s.eth.waitSerDone = 0 := by rw [one, consume_one]
  exact {
    wifiNum := inv.wifiNum
    owes := inv.owes
    settledCnt := inv.settledCnt
    owedCnt := inv.owedCnt
    outside := fun _ => ⟨used, inv.completed one⟩
    atMostOne := by simp [used]
    completed := fun _ => inv.completed one
    failedDone := fun pending => absurd pending outside
    waited := fun waits => absurd (.inr waits) outside }

theorem inv_requested (at_ : s.phase = .requested) (inv : Inv s)
    (ok : s.online = ∅ ↔ s.owes = ∅ ∧ s.eth.waitSerDone = 0) : Inv (pendingWork s) := by
  have someone : s.eth.wifiNum > 0 ↔ s.online ≠ ∅ := by
    rw [inv.wifiNum, ← Finset.nonempty_iff_ne_empty, ← Finset.card_pos]
    omega
  simp only [pendingWork, at_]
  by_cases nobody : s.online = ∅
  · rw [if_neg (fun chips => someone.mp chips nobody)]
    obtain ⟨none_, zero⟩ := ok.mp nobody
    have settled : Settled s := .inr none_
    exact {
      wifiNum := inv.wifiNum
      owes := inv.owes
      settledCnt := inv.settledCnt
      owedCnt := inv.owedCnt
      outside := fun _ => ⟨zero, settled⟩
      atMostOne := inv.atMostOne
      completed := inv.completed
      failedDone := fun pending => absurd pending (show ¬ Pending .handshaken by decide)
      waited := fun waits => absurd waits (show ¬ Waits .handshaken by decide) }
  · rw [if_pos (someone.mpr nobody)]
    exact {
      wifiNum := inv.wifiNum
      owes := inv.owes
      settledCnt := inv.settledCnt
      owedCnt := inv.owedCnt
      outside := fun outside => absurd (show Pending .waiting by decide) outside
      atMostOne := inv.atMostOne
      completed := inv.completed
      failedDone := fun _ => inv.failedDone (.inl at_)
      waited := fun _ empty => by
        have atMostOne := inv.atMostOne
        have some_ : s.eth.waitSerDone ≠ 0 := fun zero => nobody (ok.mpr ⟨empty, zero⟩)
        change s.eth.waitSerDone = 1
        omega }

theorem inv_work (inv : Inv s) (ok : StepOk s .work) : Inv (step s .work) := by
  change Inv (pendingWork s)
  cases at_ : s.phase with
  | requested => exact inv_requested at_ inv (ok.1 at_)
  | prepared =>
    have outside : ¬ Pending s.phase := by rw [at_]; decide
    simp only [pendingWork, at_]
    split
    · exact inv_request inv outside (by decide) (fun waits => absurd waits (by decide))
    · exact inv_request inv outside (by decide) (fun waits => absurd waits (by decide))
  | waiting =>
    simp only [pendingWork, at_]
    split
    · exact inv
    · exact inv_wake inv ‹_› (by decide)
  | woken =>
    have outside : ¬ Pending s.phase := by rw [at_]; decide
    simp only [pendingWork, at_]
    split
    · rename_i again
      rw [Bool.and_eq_true] at again
      exact inv_request inv outside (by decide) (fun _ => ok.2 at_ again.1 again.2)
    · exact inv.between at_ .handshaken rfl (by decide) (by decide) rfl rfl rfl rfl rfl rfl
  | waitingStopFail =>
    simp only [pendingWork, at_]
    split
    · exact inv
    · exact inv_wake inv ‹_› (by decide)
  | idle =>
    simp only [pendingWork, at_]
    split
    · exact inv.between at_ .started rfl (by decide) (by decide) rfl rfl rfl rfl rfl rfl
    · exact inv
  | started =>
    simp only [pendingWork, at_]
    exact inv.between at_ .prepared rfl (by decide) (by decide) rfl rfl rfl rfl rfl rfl
  | handshaken =>
    simp only [pendingWork, at_]
    split
    · exact inv.between at_ .restarted rfl (by decide) (by decide) rfl rfl rfl rfl rfl rfl
    · exact inv.between at_ .restarted rfl (by decide) (by decide) rfl rfl rfl rfl rfl rfl
  | restarted =>
    simp only [pendingWork, at_]
    split
    · exact inv.between at_ .closing rfl (by decide) (by decide) rfl rfl rfl rfl rfl rfl
    · split
      · exact inv.between at_ .waitingAck rfl (by decide) (by decide) rfl rfl rfl rfl rfl rfl
      · exact inv.between at_ .closing rfl (by decide) (by decide) rfl rfl rfl rfl rfl rfl
  | waitingAck =>
    simp only [pendingWork, at_]
    split
    · exact inv
    · exact inv.between at_ .closing rfl (by decide) (by decide) rfl rfl rfl rfl rfl rfl
  | closing =>
    simp only [pendingWork, at_]
    exact inv.between at_ .idle rfl (by decide) (by decide) rfl rfl rfl rfl rfl rfl

theorem inv_step {event : Event Chip} (inv : Inv s) (ok : StepOk s event) : Inv (step s event) := by
  cases event with
  | online chip => exact inv_online inv ok
  | offline chip => exact inv_offline inv ok
  | answer chip message => exact inv_answer inv ok
  | lateAnswer chip message =>
    simp only [step, if_pos (show s.late chip = 0 from ok)]
    exact inv
  | work => exact inv_work inv ok
  | l1serDone => exact inv.of_same Iff.rfl id rfl rfl rfl rfl rfl rfl
  | topsDumpDone => exact inv.of_same Iff.rfl id rfl rfl rfl rfl rfl rfl
  | startResetInit =>
    simp only [step, mtkEthNetdeviceEvent]
    split <;> exact inv.of_same Iff.rfl id rfl rfl rfl rfl rfl rfl
  | debugfsForce force => exact inv.of_same Iff.rfl id rfl rfl rfl rfl rfl rfl
  | debugfsTest wdma =>
    simp only [step]
    split <;> exact inv.of_same Iff.rfl id rfl rfl rfl rfl rfl rfl
  | debugfsWrite event =>
    simp only [step]
    split <;> exact inv.of_same Iff.rfl id rfl rfl rfl rfl rfl rfl
  | debugfsSchedule =>
    simp only [step]
    split <;> exact inv.of_same Iff.rfl id rfl rfl rfl rfl rfl rfl
  | monitorStart =>
    simp only [step]
    split <;> exact inv.of_same Iff.rfl id rfl rfl rfl rfl rfl rfl
  | monitorHang wdma =>
    simp only [step]
    split <;> exact inv.of_same Iff.rfl id rfl rfl rfl rfl rfl rfl
  | monitorEnd =>
    simp only [step]
    split <;> exact inv.of_same Iff.rfl id rfl rfl rfl rfl rfl rfl
  | coldReset =>
    simp only [step]
    split
    · rename_i at_
      exact inv.between at_ .restarted rfl (by decide) (by decide) rfl rfl rfl rfl rfl rfl
    · exact inv

omit [DecidableEq Chip] in
theorem inv_initial (netsysV3OrGreater : Bool) : Inv (initial netsysV3OrGreater : State Chip) where
  wifiNum := rfl
  owes := Finset.Subset.refl _
  settledCnt _ := rfl
  owedCnt open_ := absurd (.inr rfl) open_
  outside _ := ⟨rfl, .inr rfl⟩
  atMostOne := Nat.zero_le 1
  completed _ := .inr rfl
  failedDone _ failed := absurd failed Bool.false_ne_true
  waited waits := absurd waits (show ¬ Waits .idle by decide)

end Steps

theorem getsPast_iff {s : State Chip} (waits : Waits s.phase) :
    GetsPast s ↔ s.eth.waitSerDone ≠ 0 := by
  rcases waits with at_ | at_
  all_goals
    by_cases none_ : s.eth.waitSerDone = 0 <;>
      simp [GetsPast, Waits, step, pendingWork, at_, none_]

theorem Inv.correct {s : State Chip} (inv : Inv s) : Correct s := by
  constructor
  · rintro past
    have done := (getsPast_iff past.1).mp past
    have one : s.eth.waitSerDone = 1 := by
      have atMostOne := inv.atMostOne
      omega
    exact (inv.completed one).symm
  · intro waits nobody
    rw [getsPast_iff waits, inv.waited waits nobody]
    decide

/-- In a run whose steps all meet the condition, the worker gets past each wait when
the answers are in or one has failed, and is not left waiting for nobody. -/
theorem handshake_correct (netsysV3OrGreater : Bool) (events : List (Event Chip))
    (guarded : Along step StepOk (initial netsysV3OrGreater) events) :
    Correct (run step (initial netsysV3OrGreater) events) :=
  (run_invariant step StepOk Inv (fun _ _ inv ok => inv_step inv ok) _ events
    (inv_initial netsysV3OrGreater) guarded).correct

def twoChipsAsked : List (Event Bool) :=
  [.online false, .online true, .debugfsForce true, .debugfsTest true, .debugfsWrite .startReset,
    .debugfsSchedule, .work, .work, .work, .work]

theorem handshake_correct_bothAnswer :
    Correct (run step (initial true)
      (twoChipsAsked ++ [.answer true .wifiResetDone, .answer false .wifiResetDone])) ∧
    GetsPast (run step (initial true)
      (twoChipsAsked ++ [.answer true .wifiResetDone, .answer false .wifiResetDone])) :=
  ⟨handshake_correct true _ (by decide), by decide⟩

/-- One chip answers and the other goes offline: nobody owes an answer, and the
worker waits. -/
theorem leftWaiting : ¬ ∀ (netsysV3OrGreater : Bool) (events : List (Event Bool)),
    Correct (run step (initial netsysV3OrGreater) events) := by
  intro correct
  have past := (correct true
    (twoChipsAsked ++ [.answer true .wifiResetDone, .offline false])).2 (by decide) (by decide)
  revert past
  decide

end OpenwrtSource.Ser.Handshake
