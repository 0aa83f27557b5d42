import OpenwrtSource.Ser.EthReset

/-!
# The pairing of the notifications

`eth->reset.event` is read for the request, for the mask of the warm reset and
for the closing notification.  The three agree as long as nobody changes it in
between, and a failure arrives where the worker still looks for it.
-/

namespace OpenwrtSource.Ser.Pairing

open Lib.Run Ser.EthReset

variable {Chip : Type} [DecidableEq Chip]

/-- The request that is served, and whether a STOP_TRAFFIC has failed. -/
inductive Serving where
  | closed
  | stop (failed : Bool)
  | reset
  deriving DecidableEq

/-- How a notification, a failure or a warm reset may follow what came before. -/
def next : Serving → Record → Option Serving
  | .closed, .sent .stopTraffic => some (.stop false)
  | .closed, .sent .startReset => some .reset
  | .stop true, .sent .startReset => some .reset
  | .stop false, .sent .startTraffic => some .closed
  | .reset, .sent .resetDone => some .closed
  | .stop _, .failed => some (.stop true)
  | serving, .failed => some serving
  | serving, .sent .resetNatDone => some serving
  | serving, .warmReset wdma => if wdma = decide (serving = .reset) then some serving else none
  | _, .sent _ => none

/-- What the notifications so far leave open, if they are well formed. -/
def serving (log : List Record) : Option Serving := log.foldlM next .closed

/-- Each request is closed by its own notification before the next one, a failed
STOP_TRAFFIC is followed by START_RESET, nothing is closed that is not open, and
the mask has the WDMA bits exactly for START_RESET. -/
def WellFormed (log : List Record) : Prop := (serving log).isSome

theorem serving_concat (log : List Record) (record : Record) :
    serving (log ++ [record]) = (serving log).bind (next · record) := by
  simp only [serving, List.foldlM_append, List.foldlM_cons, List.foldlM_nil, bind_pure]
  rfl

/-- A failure arrives where it changes nothing, or where the worker still finds
it: for a STOP_TRAFFIC on v3 before the test of `mtk_stop_fail`, and in the wait
that follows it. -/
def FailOk (s : State Chip) (current : Bool) : Prop :=
  (s.eth.netsysV3OrGreater = true ∧
    (s.phase = .waitingStopFail ∨
      ((s.phase = .requested ∨ s.phase = .waiting ∨ s.phase = .woken) ∧
        (serving s.log = some (.stop true) ∨
          (current = true ∧ serving s.log = some (.stop false)))))) ∨
  (s.eth.netsysV3OrGreater = false ∧
    (serving s.log = some .closed ∨ s.eth.event = some .startReset))

def WriteOk (s : State Chip) (event : FeEvent) : Prop :=
  serving s.log = some .closed ∨ s.eth.event = some event

def StepOk (s : State Chip) : Event Chip → Prop
  | .answer chip message => message = .stopTrafficDoneFail → chip ∈ s.owes → FailOk s true
  | .lateAnswer chip message =>
    message = .stopTrafficDoneFail → s.late chip ≠ 0 → FailOk s false
  | .debugfsWrite event => event ∈ s.armed → WriteOk s event
  | .monitorHang wdma => s.monitor.isSome → WriteOk s (hangEvent wdma)
  | .work =>
    s.phase = .requested → s.eth.netsysV3OrGreater = true → s.eth.stopFail = true →
      0 < s.eth.wifiNum
  | _ => True

instance (s : State Chip) (current : Bool) : Decidable (FailOk s current) :=
  inferInstanceAs (Decidable ((_ ∧ (_ ∨ (_ ∧ _))) ∨ (_ ∧ (_ ∨ _))))

instance (s : State Chip) (event : FeEvent) : Decidable (WriteOk s event) :=
  inferInstanceAs (Decidable (_ ∨ _))

instance decidableStepOk (s : State Chip) : ∀ event, Decidable (StepOk s event)
  | .answer _ _ | .lateAnswer _ _ => inferInstanceAs (Decidable (_ → _ → _))
  | .debugfsWrite _ | .monitorHang _ => inferInstanceAs (Decidable (_ → _))
  | .work => inferInstanceAs (Decidable (_ → _ → _ → _))
  | .online _ | .offline _ | .l1serDone | .topsDumpDone | .startResetInit | .debugfsForce _
  | .debugfsTest _ | .debugfsSchedule | .monitorStart | .monitorEnd | .coldReset =>
    inferInstanceAs (Decidable True)

instance (log : List Record) : Decidable (WellFormed log) := inferInstanceAs (Decidable (_ = true))

/-- What stands in the driver for the request that is served. -/
def Stands (phase : Phase) (eth : Eth) (k : Serving) : Prop :=
  match phase with
  | .idle | .started | .prepared | .waitingAck | .closing =>
    k = .closed ∧ (eth.netsysV3OrGreater = true → eth.stopFail = false)
  | .requested | .waiting | .woken =>
    (k = .stop false ∧ eth.event = some .stopTraffic ∧
      (eth.netsysV3OrGreater = true → eth.stopFail = false)) ∨
    (k = .stop true ∧ eth.event = some .startReset ∧ eth.netsysV3OrGreater = true ∧
      eth.stopFail = true) ∨
    (k = .reset ∧ eth.event = some .startReset ∧
      (eth.netsysV3OrGreater = true → eth.stopFail = false))
  | .waitingStopFail => k = .reset ∧ eth.event = some .startReset
  | .handshaken | .restarted =>
    (eth.netsysV3OrGreater = true → eth.stopFail = false) ∧
      ((k = .stop false ∧ eth.event = some .stopTraffic) ∨
        (k = .reset ∧ eth.event = some .startReset))

def IsRequest (event : FeEvent) : Prop := event = .startReset ∨ event = .stopTraffic

/-- Somebody has written the event, and a reset is about to come of it. -/
def Started (s : State Chip) : Prop :=
  s.eth.pendingWork = true ∨ s.scheduling ≠ 0 ∨ s.monitor = some true ∨ s.phase ≠ .idle

structure Inv (s : State Chip) : Prop where
  armed : ∀ event ∈ s.armed, IsRequest event
  written : ∀ event, s.eth.event = some event → IsRequest event
  started : Started s → s.eth.event ≠ none
  resetting : s.eth.resetting = false → s.phase = .idle ∨ s.phase = .started
  stands : ∃ k, serving s.log = some k ∧ Stands s.phase s.eth k

section Steps

variable {s : State Chip}

variable {phase : Phase} {eth : Eth} {k : Serving} {s' : State Chip} {message : Answer}

theorem stands_of_same {eth' : Eth} (stands : Stands phase eth k) (event : eth'.event = eth.event)
    (version : eth'.netsysV3OrGreater = eth.netsysV3OrGreater)
    (stopFail : eth'.stopFail = eth.stopFail) : Stands phase eth' k := by
  unfold Stands at *
  rw [event, version, stopFail]
  exact stands

omit [DecidableEq Chip] in
theorem Inv.of_same (inv : Inv s) (armed : ∀ e ∈ s'.armed, IsRequest e) (phase : s'.phase = s.phase)
    (log : s'.log = s.log) (event : s'.eth.event = s.eth.event)
    (version : s'.eth.netsysV3OrGreater = s.eth.netsysV3OrGreater)
    (stopFail : s'.eth.stopFail = s.eth.stopFail) (resetting : s'.eth.resetting = s.eth.resetting)
    (started : Started s' → Started s) : Inv s' := by
  obtain ⟨k, held, stands⟩ := inv.stands
  exact {
    armed
    written := by
      rw [event]
      exact inv.written
    started := fun now => by
      rw [event]
      exact inv.started (started now)
    resetting := by
      rw [resetting, phase]
      exact inv.resetting
    stands := ⟨k, by rw [log, held], by
      rw [phase]
      exact stands_of_same stands event version stopFail⟩ }

omit [DecidableEq Chip] in
theorem Inv.closed_of_notResetting (inv : Inv s) (free : s.eth.resetting = false) :
    serving s.log = some .closed := by
  obtain ⟨k, held, stands⟩ := inv.stands
  rcases inv.resetting free with at_ | at_
  all_goals
    rw [at_] at stands
    rw [held, stands.1]

theorem stands_write (event : Option FeEvent) (stands : Stands phase eth .closed) :
    Stands phase { eth with event } .closed := by
  cases phase with
  | idle | started | prepared | waitingAck | closing => exact stands
  | requested | waiting | woken | waitingStopFail | handshaken | restarted =>
    simp [Stands] at stands

omit [DecidableEq Chip] in
theorem inv_write {event : FeEvent} (inv : Inv s) (isRequest : IsRequest event)
    (ok : WriteOk s event) (armed : ∀ e ∈ s'.armed, IsRequest e) (phase : s'.phase = s.phase)
    (log : s'.log = s.log) (resetting : s'.eth.resetting = s.eth.resetting)
    (version : s'.eth.netsysV3OrGreater = s.eth.netsysV3OrGreater)
    (stopFail : s'.eth.stopFail = s.eth.stopFail) (wrote : s'.eth.event = some event) : Inv s' := by
  obtain ⟨k, held, stands⟩ := inv.stands
  refine {
    armed
    written := fun e h => ?_
    started := fun _ => by rw [wrote]; exact Option.some_ne_none event
    resetting := by rw [resetting, phase]; exact inv.resetting
    stands := ⟨k, by rw [log, held], ?_⟩ }
  · rw [wrote] at h
    exact Option.some.inj h ▸ isRequest
  · rw [phase]
    rcases ok with closed | same
    · cases held.symm.trans closed
      exact stands_of_same (stands_write (some event) stands) wrote version stopFail
    · exact stands_of_same stands (wrote.trans same.symm) version stopFail

theorem stands_old {eth' : Eth} (old : eth.netsysV3OrGreater = false)
    (old' : eth'.netsysV3OrGreater = false) (event : k = .closed ∨ eth'.event = eth.event)
    (stands : Stands phase eth k) : Stands phase eth' k := by
  rcases event with rfl | event
  · cases phase <;> simp_all [Stands]
  · cases phase <;> simp_all [Stands]

theorem not_stands_stop {failed : Bool} (old : eth.netsysV3OrGreater = false)
    (event : eth.event = some .startReset) : ¬ Stands phase eth (.stop failed) := by
  cases phase <;> simp [Stands, old, event]

def failing : Serving → Serving
  | .stop _ => .stop true
  | k => k

theorem next_failed (k : Serving) : next k .failed = some (failing k) := by
  cases k with
  | closed => rfl
  | stop failed => cases failed <;> rfl
  | reset => rfl

omit [DecidableEq Chip] in
theorem stands_fail {current : Bool} (ok : FailOk s current) (held : serving s.log = some k)
    (stands : Stands s.phase s.eth k) :
    Stands s.phase (mtkEthNetdeviceEvent s.eth .stopTrafficDoneFail)
      (if current then failing k else k) := by
  unfold FailOk at ok
  rw [held] at ok
  rcases ok with ⟨version, again | ⟨early, served⟩⟩ | ⟨old, ok⟩
  · rw [again] at stands ⊢
    obtain ⟨rfl, -⟩ := stands
    cases current <;> exact ⟨rfl, rfl⟩
  · -- a STOP_TRAFFIC before the test of `mtk_stop_fail`
    have failed : (if current then failing k else k) = .stop true := by
      rcases served with same | ⟨rfl, same⟩
      · cases same
        cases current <;> rfl
      · cases same
        rfl
    rw [failed]
    rcases early with at_ | at_ | at_
    all_goals
      rw [at_]
      exact .inr (.inl ⟨rfl, rfl, version, rfl⟩)
  · have keeps : failing k = k := by
      rcases ok with same | event
      · cases same
        rfl
      · cases k with
        | stop failed => exact absurd stands (not_stands_stop old event)
        | closed => rfl
        | reset => rfl
    rw [keeps, ite_self]
    refine stands_old old old ?_ stands
    rcases ok with same | event
    · exact .inl (Option.some.inj same)
    · exact .inr event.symm

omit [DecidableEq Chip] in
theorem Inv.advance (inv : Inv s) (armed : s'.armed = s.armed) (event : s'.eth.event = s.eth.event)
    (started : Started s' → Started s)
    (resetting : s'.eth.resetting = false → s'.phase = .idle ∨ s'.phase = .started)
    (held : serving s'.log = some k) (stands : Stands s'.phase s'.eth k) : Inv s' where
  armed := by
    rw [armed]
    exact inv.armed
  written := by
    rw [event]
    exact inv.written
  started now := by
    rw [event]
    exact inv.started (started now)
  resetting := resetting
  stands := ⟨k, held, stands⟩

omit [DecidableEq Chip] in
theorem Inv.move (inv : Inv s) (running : s.phase ≠ .idle ∧ s.phase ≠ .started)
    (armed : s'.armed = s.armed) (event : s'.eth.event = s.eth.event)
    (resetting : s'.eth.resetting = s.eth.resetting) (held : serving s'.log = some k)
    (stands : Stands s'.phase s'.eth k) : Inv s' := by
  refine inv.advance armed event (fun _ => .inr (.inr (.inr running.1))) ?_ held stands
  intro free
  rcases inv.resetting (resetting ▸ free) with idle | started
  · exact absurd idle running.1
  · exact absurd started running.2

omit [DecidableEq Chip] in
theorem Inv.event_cases (inv : Inv s) (running : s.phase ≠ .idle) :
    s.eth.event = some .stopTraffic ∨
      (s.eth.event ≠ some .stopTraffic ∧ s.eth.event = some .startReset) := by
  cases found : s.eth.event with
  | none => exact absurd found (inv.started (.inr (.inr (.inr running))))
  | some event =>
    rcases inv.written event found with rfl | rfl
    · exact .inr ⟨by decide, rfl⟩
    · exact .inl rfl

theorem inv_prepared (at_ : s.phase = .prepared) (inv : Inv s) : Inv (pendingWork s) := by
  obtain ⟨k, held, stands⟩ := inv.stands
  have running : s.phase ≠ .idle ∧ s.phase ≠ .started := by rw [at_]; decide
  rw [at_] at stands
  obtain ⟨rfl, quiet⟩ := stands
  simp only [pendingWork, at_]
  rcases inv.event_cases running.1 with stop | ⟨notStop, reset⟩
  · rw [if_pos stop]
    exact inv.move running rfl rfl rfl
      (k := .stop false) (by simp [request, notify, serving_concat, held, next])
      (.inl ⟨rfl, stop, quiet⟩)
  · rw [if_neg notStop]
    exact inv.move running rfl rfl rfl
      (k := .reset) (by simp [request, notify, serving_concat, held, next])
      (.inr (.inr ⟨rfl, reset, quiet⟩))

theorem stands_handshaken (stands : Stands .woken eth k)
    (passed : ¬ (eth.netsysV3OrGreater = true ∧ eth.stopFail = true)) :
    Stands .handshaken eth k := by
  have quiet : eth.netsysV3OrGreater = true → eth.stopFail = false := by
    intro version
    by_contra failed
    exact passed ⟨version, by simpa using failed⟩
  rcases stands with ⟨rfl, stop, -⟩ | ⟨-, -, version, failed⟩ | ⟨rfl, reset, -⟩
  · exact ⟨quiet, .inl ⟨rfl, stop⟩⟩
  · exact absurd ⟨version, failed⟩ passed
  · exact ⟨quiet, .inr ⟨rfl, reset⟩⟩

theorem inv_woken (at_ : s.phase = .woken) (inv : Inv s) : Inv (pendingWork s) := by
  obtain ⟨k, held, stands⟩ := inv.stands
  have running : s.phase ≠ .idle ∧ s.phase ≠ .started := by rw [at_]; decide
  rw [at_] at stands
  simp only [pendingWork, at_]
  split
  · rename_i again
    rw [Bool.and_eq_true] at again
    have failed : k = .stop true ∧ s.eth.event = some .startReset := by
      rcases stands with ⟨-, -, quiet⟩ | ⟨rfl, reset, -⟩ | ⟨-, -, quiet⟩
      · exact absurd again.2 (by simp [quiet again.1])
      · exact ⟨rfl, reset⟩
      · exact absurd again.2 (by simp [quiet again.1])
    obtain ⟨rfl, reset⟩ := failed
    exact inv.move running rfl rfl rfl
      (k := .reset) (by simp [request, notify, serving_concat, held, next]) ⟨rfl, reset⟩
  · rename_i passed
    exact inv.move running rfl rfl rfl
      held (stands_handshaken stands (by simpa using passed))

theorem inv_handshaken (at_ : s.phase = .handshaken) (inv : Inv s) : Inv (pendingWork s) := by
  obtain ⟨k, held, stands⟩ := inv.stands
  have running : s.phase ≠ .idle ∧ s.phase ≠ .started := by rw [at_]; decide
  rw [at_] at stands
  simp only [pendingWork, at_]
  split
  · have mask : next k (.warmReset (decide (s.eth.event = some .startReset))) = some k := by
      rcases stands.2 with ⟨rfl, event⟩ | ⟨rfl, event⟩
      · simp [next, event]
      · simp [next, event]
    exact inv.move running rfl rfl rfl
      (by rw [serving_concat, held]; exact mask) stands
  · exact inv.move running rfl rfl rfl held stands

theorem inv_restarted (at_ : s.phase = .restarted) (inv : Inv s) : Inv (pendingWork s) := by
  obtain ⟨k, held, stands⟩ := inv.stands
  have running : s.phase ≠ .idle ∧ s.phase ≠ .started := by rw [at_]; decide
  rw [at_] at stands
  obtain ⟨quiet, ⟨rfl, event⟩ | ⟨rfl, event⟩⟩ := stands
  · simp only [pendingWork, at_, if_pos event]
    exact inv.move running rfl rfl rfl
      (k := .closed) (by simp [notify, serving_concat, held, next]) ⟨rfl, quiet⟩
  · have notStop : ¬ s.eth.event = some .stopTraffic := by
      rw [event]
      decide
    simp only [pendingWork, at_, if_neg notStop]
    have closes : serving (s.log ++ [.sent .resetDone]) = some .closed := by
      simp [serving_concat, held, next]
    split
    · exact inv.move running rfl rfl rfl closes ⟨rfl, quiet⟩
    · exact inv.move running rfl rfl rfl closes ⟨rfl, quiet⟩

theorem inv_requested (at_ : s.phase = .requested) (inv : Inv s) (ok : StepOk s .work) :
    Inv (pendingWork s) := by
  obtain ⟨k, held, stands⟩ := inv.stands
  have running : s.phase ≠ .idle ∧ s.phase ≠ .started := by rw [at_]; decide
  rw [at_] at stands
  simp only [pendingWork, at_]
  split
  · exact inv.move running rfl rfl rfl held stands
  · rename_i nobody
    have passed : ¬ (s.eth.netsysV3OrGreater = true ∧ s.eth.stopFail = true) :=
      fun failed => nobody (ok at_ failed.1 failed.2)
    exact inv.move running rfl rfl rfl held (stands_handshaken stands passed)

theorem inv_closing (at_ : s.phase = .closing) (inv : Inv s) : Inv (pendingWork s) := by
  obtain ⟨k, held, stands⟩ := inv.stands
  rw [at_] at stands
  have was : Started s := .inr (.inr (.inr (by rw [at_]; decide)))
  obtain ⟨rfl, quiet⟩ := stands
  simp only [pendingWork, at_]
  exact inv.advance rfl rfl (fun _ => was) (fun _ => .inl rfl)
    (k := .closed) (by simp [notify, serving_concat, held, next]) ⟨rfl, quiet⟩

theorem inv_work (inv : Inv s) (ok : StepOk s .work) : Inv (step s .work) := by
  change Inv (pendingWork s)
  cases at_ : s.phase with
  | prepared => exact inv_prepared at_ inv
  | requested => exact inv_requested at_ inv ok
  | woken => exact inv_woken at_ inv
  | handshaken => exact inv_handshaken at_ inv
  | restarted => exact inv_restarted at_ inv
  | closing => exact inv_closing at_ inv
  | idle =>
    obtain ⟨k, held, stands⟩ := inv.stands
    rw [at_] at stands
    simp only [pendingWork, at_]
    split
    · rename_i queued
      exact inv.advance rfl rfl (fun _ => .inl queued) (fun _ => .inr rfl) held stands
    · exact inv
  | started =>
    obtain ⟨k, held, stands⟩ := inv.stands
    rw [at_] at stands
    have was : Started s := .inr (.inr (.inr (by rw [at_]; decide)))
    simp only [pendingWork, at_]
    exact inv.advance rfl rfl (fun _ => was) (fun free => absurd free (by simp)) held stands
  | waiting | waitingAck =>
    obtain ⟨k, held, stands⟩ := inv.stands
    have running : s.phase ≠ .idle ∧ s.phase ≠ .started := by rw [at_]; decide
    rw [at_] at stands
    simp only [pendingWork, at_]
    split
    · exact inv
    · exact inv.move running rfl rfl rfl held stands
  | waitingStopFail =>
    obtain ⟨k, held, stands⟩ := inv.stands
    have running : s.phase ≠ .idle ∧ s.phase ≠ .started := by rw [at_]; decide
    rw [at_] at stands
    simp only [pendingWork, at_]
    split
    · exact inv
    · exact inv.move running rfl rfl rfl held ⟨fun _ => rfl, .inr stands⟩

omit [DecidableEq Chip] in
theorem receive_done (fine : message ≠ .stopTrafficDoneFail) :
    (mtkEthNetdeviceEvent s.eth message.event).event = s.eth.event ∧
      (mtkEthNetdeviceEvent s.eth message.event).netsysV3OrGreater = s.eth.netsysV3OrGreater ∧
      (mtkEthNetdeviceEvent s.eth message.event).stopFail = s.eth.stopFail ∧
      (mtkEthNetdeviceEvent s.eth message.event).resetting = s.eth.resetting ∧
      (mtkEthNetdeviceEvent s.eth message.event).pendingWork = s.eth.pendingWork := by
  cases message with
  | stopTrafficDoneFail => exact absurd rfl fine
  | wifiResetDone | stopTrafficDone =>
    simp only [Answer.event, mtkEthNetdeviceEvent]
    split <;> exact ⟨rfl, rfl, rfl, rfl, rfl⟩

omit [DecidableEq Chip] in
theorem inv_fail (current : Bool) (inv : Inv s) (ok : FailOk s current) (armed : s'.armed = s.armed)
    (phase : s'.phase = s.phase) (eth : s'.eth = mtkEthNetdeviceEvent s.eth .stopTrafficDoneFail)
    (log : s'.log = if current then s.log ++ [.failed] else s.log) : Inv s' := by
  obtain ⟨k, held, stands⟩ := inv.stands
  refine {
    armed := by rw [armed]; exact inv.armed
    written := fun e h => ?_
    started := fun _ => by rw [eth]; exact Option.some_ne_none _
    resetting := by rw [eth, phase]; exact inv.resetting
    stands := ⟨if current then failing k else k, ?_, ?_⟩ }
  · rw [eth] at h
    exact .inl (Option.some.inj h).symm
  · rw [log]
    cases current with
    | true =>
      simp only [if_true, serving_concat, held]
      exact next_failed k
    | false => exact held
  · rw [phase, eth]
    exact stands_fail ok held stands

theorem inv_answer {chip : Chip} (inv : Inv s) (ok : StepOk s (.answer chip message)) :
    Inv (step s (.answer chip message)) := by
  by_cases owed : chip ∈ s.owes
  · simp only [step, if_pos owed]
    by_cases fails : message = .stopTrafficDoneFail
    · subst fails
      exact inv_fail true inv (ok rfl owed) rfl rfl rfl rfl
    · obtain ⟨event, version, stopFail, resetting, queued⟩ := receive_done (s := s) fails
      rw [if_neg fails]
      refine inv.of_same inv.armed rfl rfl event version stopFail resetting ?_
      rintro (now | now)
      · exact .inl (queued.symm.trans now)
      · exact .inr now
  · simpa only [step, if_neg owed] using inv

theorem inv_lateAnswer {chip : Chip} (inv : Inv s) (ok : StepOk s (.lateAnswer chip message)) :
    Inv (step s (.lateAnswer chip message)) := by
  by_cases none_ : s.late chip = 0
  · simpa only [step, if_pos none_] using inv
  · simp only [step, if_neg none_]
    by_cases fails : message = .stopTrafficDoneFail
    · subst fails
      exact inv_fail false inv (ok rfl none_) rfl rfl rfl rfl
    · obtain ⟨event, version, stopFail, resetting, queued⟩ := receive_done (s := s) fails
      refine inv.of_same inv.armed rfl rfl event version stopFail resetting ?_
      rintro (now | now)
      · exact .inl (queued.symm.trans now)
      · exact .inr now

theorem hangEvent_isRequest (wdma : Bool) : IsRequest (hangEvent wdma) := by
  cases wdma
  · exact .inr rfl
  · exact .inl rfl

theorem inv_step {event : Event Chip} (inv : Inv s) (ok : StepOk s event) : Inv (step s event) := by
  cases event with
  | answer chip message => exact inv_answer inv ok
  | lateAnswer chip message => exact inv_lateAnswer inv ok
  | work => exact inv_work inv ok
  | online chip =>
    simp only [step]
    split
    · exact inv
    · exact inv.of_same inv.armed rfl rfl rfl rfl rfl rfl id
  | offline chip =>
    simp only [step]
    split
    · exact inv.of_same inv.armed rfl rfl rfl rfl rfl rfl id
    · exact inv
  | l1serDone => exact inv.of_same inv.armed rfl rfl rfl rfl rfl rfl id
  | topsDumpDone => exact inv.of_same inv.armed rfl rfl rfl rfl rfl rfl id
  | startResetInit =>
    simp only [step, mtkEthNetdeviceEvent]
    split
    · exact inv
    · rename_i free
      have closed := inv.closed_of_notResetting (by simpa using free)
      exact inv_write inv (.inl rfl) (.inl closed) inv.armed rfl rfl rfl rfl rfl rfl
  | debugfsForce force => exact inv.of_same inv.armed rfl rfl rfl rfl rfl rfl id
  | debugfsTest wdma =>
    simp only [step]
    split
    · refine inv.of_same ?_ rfl rfl rfl rfl rfl rfl id
      rintro e (_ | ⟨_, member⟩)
      · exact hangEvent_isRequest wdma
      · exact inv.armed e member
    · exact inv
  | debugfsWrite event =>
    simp only [step]
    split
    · rename_i member
      exact inv_write inv (inv.armed event member) (ok member)
        (fun e erased => inv.armed e (List.mem_of_mem_erase erased)) rfl rfl rfl rfl rfl rfl
    · exact inv
  | debugfsSchedule =>
    simp only [step]
    split
    · exact inv
    · rename_i some_
      exact inv.of_same inv.armed rfl rfl rfl rfl rfl rfl (fun _ => .inr (.inl some_))
  | monitorStart =>
    simp only [step]
    split
    · rename_i free
      refine inv.of_same inv.armed rfl rfl rfl rfl rfl rfl ?_
      rintro (now | now | now | now)
      · exact .inl now
      · exact .inr (.inl now)
      · cases now
      · exact .inr (.inr (.inr now))
    · exact inv
  | monitorHang wdma =>
    simp only [step]
    split
    · rename_i runs
      exact inv_write inv (hangEvent_isRequest wdma) (ok runs) inv.armed rfl rfl rfl rfl rfl rfl
    · exact inv
  | monitorEnd =>
    simp only [step]
    split
    · rename_i found
      rw [Bool.and_eq_true, decide_eq_true_eq] at found
      exact inv.of_same inv.armed rfl rfl rfl rfl rfl rfl (fun _ => .inr (.inr (.inl found.1)))
    · refine inv.of_same inv.armed rfl rfl rfl rfl rfl rfl ?_
      rintro (now | now | now | now)
      · exact .inl now
      · exact .inr (.inl now)
      · cases now
      · exact .inr (.inr (.inr now))
  | coldReset =>
    simp only [step]
    split
    · rename_i at_
      obtain ⟨k, held, stands⟩ := inv.stands
      rw [at_] at stands
      exact inv.move (by rw [at_]; decide) rfl rfl rfl held stands
    · exact inv

end Steps

omit [DecidableEq Chip] in
theorem inv_initial (netsysV3OrGreater : Bool) : Inv (initial netsysV3OrGreater : State Chip) where
  armed _ member := by cases member
  written _ held := by cases held
  started now := by
    rcases now with now | now | now | now
    · cases now
    · exact absurd rfl now
    · cases now
    · exact absurd rfl now
  resetting _ := .inl rfl
  stands := ⟨.closed, rfl, rfl, fun _ => rfl⟩

/-- In a run whose steps all meet the condition, the notifications are well formed. -/
theorem notifications_paired (netsysV3OrGreater : Bool) (events : List (Event Chip))
    (guarded : Along step StepOk (initial netsysV3OrGreater) events) :
    WellFormed (run step (initial netsysV3OrGreater) events).log := by
  obtain ⟨k, held, -⟩ := (run_invariant step StepOk Inv (fun _ _ inv ok => inv_step inv ok) _
    events (inv_initial netsysV3OrGreater) guarded).stands
  rw [WellFormed, held]
  rfl

/-- One chip is online, and a reset that the monitor has asked for waits for it. -/
def stopAsked : List (Event Unit) :=
  [.online (), .debugfsForce true, .monitorStart, .monitorHang false, .monitorEnd,
    .work, .work, .work, .work]

/-- The chip fails STOP_TRAFFIC; START_RESET follows and is closed. -/
theorem notifications_paired_stopFails :
    WellFormed (run step (initial true) (stopAsked ++ [.answer () .stopTrafficDoneFail, .work,
      .work, .answer () .wifiResetDone, .work, .work, .work])).log ∧
    (run step (initial true) (stopAsked ++ [.answer () .stopTrafficDoneFail, .work,
      .work, .answer () .wifiResetDone, .work, .work, .work])).log =
      [.sent .stopTraffic, .failed, .sent .startReset, .warmReset true, .sent .resetDone] :=
  ⟨notifications_paired true _ (by decide), by decide⟩

/-- The same failure on v2: RESET_DONE closes a START_RESET that was never sent. -/
theorem resetDone_unrequested : ¬ ∀ (netsysV3OrGreater : Bool) (events : List (Event Unit)),
    WellFormed (run step (initial netsysV3OrGreater) events).log := by
  intro wellFormed
  have log := wellFormed false
    (stopAsked ++ [.answer () .stopTrafficDoneFail, .work, .work, .work, .work])
  revert log
  decide

end OpenwrtSource.Ser.Pairing
