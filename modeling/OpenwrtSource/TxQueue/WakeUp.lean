import Mathlib.Logic.Function.Basic
import OpenwrtSource.Lib.History
import OpenwrtSource.Lib.Run

/-!
# Dequeue wake-ups of a TX token queue

Dequeue runs and token frees of both bands work on one queue without a common
lock.  A step is one access to the shared state, so a list of events is one
sequentially consistent interleaving.  `waiting` and the data of a run that no
branch reads are history variables.
-/

namespace OpenwrtSource.TxQueue.TokenQueue

def TOKEN_DEQ_PENDING_NBAND : Nat := 2

abbrev Band := Fin TOKEN_DEQ_PENDING_NBAND

structure Config where
  multiTokenQuesPerBand : Bool
  highWaterMarkPerBand : Band → Nat

def Config.task (cfg : Config) (band : Band) : Nat :=
  if cfg.multiTokenQuesPerBand then band else 0

/-- A dequeue run whose resource check answered ERROR_NO_TOKEN: whether the
band was above its watermark, and whether its task was scheduled since. -/
structure DeqRun where
  overWatermark : Bool
  scheduledSince : Bool

/-- Where `token_tx_wake_deq_if_recovered` is: before one of its three tests,
before the clearing of the bit, or before the scheduling. -/
inductive Stage where
  | testPending
  | testState
  | testUsage
  | clear
  | schedule
  deriving DecidableEq

/-- A recheck is called by a dequeue run, or by a token free (`none`). -/
inductive Phase where
  | idle
  | bailed (band : Band) (deq : DeqRun)
  | recheck (band : Band) (caller : Option DeqRun) (stage : Stage)

variable {T : Type} [DecidableEq T]

inductive Record (T : Type) where
  | cleared (thread : T) (band : Band)
  | scheduled (thread : Option T) (task : Nat)

structure State (T : Type) where
  txDeqPending : Band → Bool
  /-- TX_TOKEN_LOW of `token_state` -/
  tokenLow : Bool
  usedTokenPerBand : Band → Nat
  phase : T → Phase
  /-- a run bailed out above the watermark and its task was not scheduled since -/
  waiting : Band → Bool
  log : List (Record T)

inductive Event (T : Type) where
  /-- the resource check of a dequeue run, which may answer ERROR_NO_TOKEN -/
  | check (thread : T) (band : Band) (noToken : Bool)
  /-- the decrement of `token_tx_deq` -/
  | free (thread : T) (band : Band)
  /-- the next access of a thread that armed, or that is in its recheck -/
  | next (thread : T)
  | take (band : Band)
  | setTokenLow
  /-- the TX-free path that clears TX_TOKEN_LOW -/
  | legacyRecovery
  /-- any other scheduling of a dequeue task -/
  | kick (task : Nat)

def DeqRun.scheduled (deq : DeqRun) : DeqRun := { deq with scheduledSince := true }

def Phase.noteSchedule (cfg : Config) (task : Nat) : Phase → Phase
  | .idle => .idle
  | .bailed band deq => .bailed band (if cfg.task band = task then deq.scheduled else deq)
  | .recheck band caller stage =>
    .recheck band (if cfg.task band = task then caller.map DeqRun.scheduled else caller) stage

def scheduleTask (cfg : Config) (thread : Option T) (task : Nat) (s : State T) : State T :=
  { s with
    phase := fun t => (s.phase t).noteSchedule cfg task
    waiting := fun band => if cfg.task band = task then false else s.waiting band
    log := s.log ++ [.scheduled thread task] }

def setPhase (s : State T) (thread : T) (phase : Phase) : State T :=
  { s with phase := Function.update s.phase thread phase }

/-- The recheck returns without a wake; a dequeue run has bailed out then. -/
def giveUp (s : State T) (thread : T) (band : Band) (caller : Option DeqRun) : State T :=
  let left := match caller with
    | none => false
    | some deq => deq.overWatermark && !deq.scheduledSince
  { setPhase s thread .idle with
    waiting := Function.update s.waiting band (s.waiting band || left) }

/-- One access of `token_tx_wake_deq_if_recovered`. -/
def recheckStep (cfg : Config) (s : State T) (thread : T) (band : Band)
    (caller : Option DeqRun) : Stage → State T
  | .testPending =>
    if s.txDeqPending band then setPhase s thread (.recheck band caller .testState)
    else giveUp s thread band caller
  | .testState =>
    if !s.tokenLow then setPhase s thread (.recheck band caller .testUsage)
    else giveUp s thread band caller
  | .testUsage =>
    if s.usedTokenPerBand band ≤ cfg.highWaterMarkPerBand band then
      setPhase s thread (.recheck band caller .clear)
    else giveUp s thread band caller
  | .clear =>
    { setPhase s thread (.recheck band caller .schedule) with
      txDeqPending := Function.update s.txDeqPending band false
      log := s.log ++ [.cleared thread band] }
  | .schedule => setPhase (scheduleTask cfg (some thread) (cfg.task band) s) thread .idle

def step (cfg : Config) (s : State T) : Event T → State T
  | .check thread band noToken =>
    match s.phase thread with
    | .idle =>
      let overWatermark := decide (cfg.highWaterMarkPerBand band < s.usedTokenPerBand band)
      if noToken && (s.tokenLow || overWatermark) then
        setPhase s thread
          (.bailed band { overWatermark := overWatermark, scheduledSince := false })
      else s
    | _ => s
  | .free thread band =>
    match s.phase thread with
    | .idle =>
      { setPhase s thread (.recheck band none .testPending) with
        usedTokenPerBand :=
          Function.update s.usedTokenPerBand band (s.usedTokenPerBand band - 1) }
    | _ => s
  | .next thread =>
    match s.phase thread with
    | .idle => s
    | .bailed band deq =>
      -- `token_tx_set_deq_pending`
      { setPhase s thread (.recheck band (some deq) .testPending) with
        txDeqPending := Function.update s.txDeqPending band true }
    | .recheck band caller stage => recheckStep cfg s thread band caller stage
  | .take band =>
    { s with usedTokenPerBand :=
        Function.update s.usedTokenPerBand band (s.usedTokenPerBand band + 1) }
  | .setTokenLow => { s with tokenLow := true }
  | .legacyRecovery =>
    scheduleTask cfg none 1 (scheduleTask cfg none 0 { s with tokenLow := false })
  | .kick task => scheduleTask cfg none task s

def State.init (used : Band → Nat) : State T :=
  { txDeqPending := fun _ => false
    tokenLow := false
    usedTokenPerBand := used
    phase := fun _ => .idle
    waiting := fun _ => false
    log := [] }

/-- No thread is between its arm or decrement and the end of its recheck. -/
def Quiescent (s : State T) : Prop :=
  ∀ thread band caller stage, s.phase thread ≠ .recheck band caller stage

end OpenwrtSource.TxQueue.TokenQueue

/-!
# No lost dequeue wake-up

A band is owed a wake-up from the arm of a run that bailed out above the
watermark until its task is scheduled.  As long as it is owed one, some thread
is about to schedule the task, or the bit is set and the band is still short,
or the bit is set and some thread has yet to finish its tests.
-/

namespace OpenwrtSource.TxQueue.WakeUp

open Lib.Run Lib.History
open TxQueue.TokenQueue

variable {T : Type} [DecidableEq T]

def DeqRun.Owes (deq : DeqRun) : Prop := deq.overWatermark = true ∧ deq.scheduledSince = false

def Waking (s : State T) (band : Band) : Prop :=
  ∃ thread caller, s.phase thread = .recheck band caller .schedule

/-- Some thread is before one of its tests, or before the clearing of the bit. -/
def Checking (s : State T) (band : Band) : Prop :=
  ∃ thread caller stage, s.phase thread = .recheck band caller stage ∧ stage ≠ .schedule

def Short (cfg : Config) (s : State T) (band : Band) : Prop :=
  cfg.highWaterMarkPerBand band < s.usedTokenPerBand band ∨ s.tokenLow = true

def Owed (s : State T) (band : Band) : Prop :=
  s.waiting band = true ∨
    ∃ thread deq stage, s.phase thread = .recheck band (some deq) stage ∧ DeqRun.Owes deq

def Served (cfg : Config) (s : State T) (band : Band) : Prop :=
  Waking s band ∨ (s.txDeqPending band = true ∧ (Short cfg s band ∨ Checking s band))

/-- What ends the record of a cleared bit: the clearing thread schedules the task. -/
def NotYet (cfg : Config) (thread : T) (band : Band) (r : Record T) : Prop :=
  r ≠ .scheduled (some thread) (cfg.task band)

structure Inv (cfg : Config) (s : State T) : Prop where
  served : ∀ band, Owed s band → Served cfg s band
  followed : ∀ thread band, Open (NotYet cfg thread band) s.log (.cleared thread band) →
    ∃ caller, s.phase thread = .recheck band caller .schedule

section Schedule

variable (cfg : Config) (thread : Option T) (task : Nat) (s : State T)

omit [DecidableEq T] in
theorem scheduleTask_phase {t : T} {band : Band} {stage : Stage} :
    (∃ caller, (scheduleTask cfg thread task s).phase t = .recheck band caller stage) ↔
      ∃ caller, s.phase t = .recheck band caller stage := by
  cases at_ : s.phase t <;> simp [scheduleTask, Phase.noteSchedule, at_]

omit [DecidableEq T] in
theorem waking_scheduleTask (band : Band) :
    Waking (scheduleTask cfg thread task s) band ↔ Waking s band := by
  simp only [Waking, scheduleTask_phase]

omit [DecidableEq T] in
theorem checking_scheduleTask (band : Band) :
    Checking (scheduleTask cfg thread task s) band ↔ Checking s band := by
  constructor
  · rintro ⟨t, caller, stage, here, early⟩
    obtain ⟨before, same⟩ := (scheduleTask_phase cfg thread task s).mp ⟨caller, here⟩
    exact ⟨t, before, stage, same, early⟩
  · rintro ⟨t, caller, stage, here, early⟩
    obtain ⟨after, same⟩ := (scheduleTask_phase cfg thread task s).mpr ⟨caller, here⟩
    exact ⟨t, after, stage, same, early⟩

omit [DecidableEq T] in
theorem owed_scheduleTask {band : Band} (owed : Owed (scheduleTask cfg thread task s) band) :
    cfg.task band ≠ task ∧ Owed s band := by
  rcases owed with waits | ⟨t, deq, stage, here, owes⟩
  · by_cases own : cfg.task band = task
    · simp [scheduleTask, own] at waits
    · refine ⟨own, .inl ?_⟩
      simpa [scheduleTask, own] using waits
  · obtain ⟨caller, before⟩ := (scheduleTask_phase cfg thread task s).mp ⟨_, here⟩
    simp only [scheduleTask, before, Phase.noteSchedule, Phase.recheck.injEq, true_and,
      and_true] at here
    by_cases own : cfg.task band = task
    · rw [if_pos own, Option.map_eq_some_iff] at here
      obtain ⟨prior, -, rfl⟩ := here
      exact absurd owes.2 (by simp [DeqRun.scheduled])
    · rw [if_neg own] at here
      exact ⟨own, .inr ⟨t, deq, stage, here ▸ before, owes⟩⟩

omit [DecidableEq T] in
theorem inv_scheduleTask {s : State T} (inv : Inv cfg s) :
    Inv cfg (scheduleTask cfg thread task s) := by
  refine ⟨?_, ?_⟩
  · intro band owed
    rcases inv.served band (owed_scheduleTask cfg thread task s owed).2 with
      waking | ⟨pending, short | checking⟩
    · exact .inl ((waking_scheduleTask cfg thread task s band).mpr waking)
    · exact .inr ⟨pending, .inl short⟩
    · exact .inr ⟨pending, .inr ((checking_scheduleTask cfg thread task s band).mpr checking)⟩
  · intro t band stillOpen
    simp only [scheduleTask, open_concat, reduceCtorEq, false_or] at stillOpen
    exact (scheduleTask_phase cfg thread task s).mpr (inv.followed t band stillOpen.1)

end Schedule

section Threads

variable {cfg : Config} {s : State T}

theorem setPhase_self (thread : T) (phase : Phase) :
    (setPhase s thread phase).phase thread = phase := by
  simp [setPhase]

variable {thread : T} {phase : Phase} {band : Band} {caller : Option DeqRun} {stage : Stage}

theorem setPhase_other {other : T} (phase : Phase) (apart : other ≠ thread) :
    (setPhase s thread phase).phase other = s.phase other := by
  simp [setPhase, apart]

theorem owed_setPhase (owed : Owed (setPhase s thread phase) band) :
    Owed s band ∨ ∃ deq stage, phase = .recheck band (some deq) stage ∧ DeqRun.Owes deq := by
  rcases owed with waits | ⟨t, deq, stage, here, owes⟩
  · exact .inl (.inl waits)
  · by_cases own : t = thread
    · subst own
      rw [setPhase_self] at here
      exact .inr ⟨deq, stage, here, owes⟩
    · rw [setPhase_other phase own] at here
      exact .inl (.inr ⟨t, deq, stage, here, owes⟩)

theorem waking_setPhase (waking : Waking s band)
    (notOwn : ∀ caller, s.phase thread ≠ .recheck band caller .schedule) :
    Waking (setPhase s thread phase) band := by
  obtain ⟨t, caller, here⟩ := waking
  have apart : t ≠ thread := by
    rintro rfl
    exact notOwn caller here
  exact ⟨t, caller, by rw [setPhase_other phase apart]; exact here⟩

theorem checking_setPhase (checking : Checking s band)
    (notOwn : ∀ caller stage, s.phase thread = .recheck band caller stage → stage = .schedule) :
    Checking (setPhase s thread phase) band := by
  obtain ⟨t, caller, stage, here, early⟩ := checking
  have apart : t ≠ thread := by
    rintro rfl
    exact early (notOwn caller stage here)
  exact ⟨t, caller, stage, by rw [setPhase_other phase apart]; exact here, early⟩

theorem served_setPhase (served : Served cfg s band)
    (outside : ∀ caller stage, s.phase thread ≠ .recheck band caller stage) :
    Served cfg (setPhase s thread phase) band := by
  rcases served with waking | ⟨pending, short | checking⟩
  · exact .inl (waking_setPhase waking fun caller => outside caller .schedule)
  · exact .inr ⟨pending, .inl short⟩
  · exact .inr ⟨pending, .inr (checking_setPhase checking
      fun caller stage here => absurd here (outside caller stage))⟩

theorem followed_setPhase (followed : ∀ t band, Open (NotYet cfg t band) s.log (.cleared t band) →
      ∃ caller, s.phase t = .recheck band caller .schedule)
    (notOwn : ∀ band caller, s.phase thread ≠ .recheck band caller .schedule) :
    ∀ t band, Open (NotYet cfg t band) s.log (.cleared t band) →
      ∃ caller, (setPhase s thread phase).phase t = .recheck band caller .schedule := by
  intro t band stillOpen
  obtain ⟨caller, here⟩ := followed t band stillOpen
  have apart : t ≠ thread := by
    rintro rfl
    exact notOwn band caller here
  exact ⟨caller, by rw [setPhase_other phase apart]; exact here⟩

theorem inv_advance (inv : Inv cfg s) {later : Stage}
    (here : s.phase thread = .recheck band caller stage) (early : stage ≠ .schedule)
    (stays : later ≠ .schedule) : Inv cfg (setPhase s thread (.recheck band caller later)) := by
  refine ⟨?_, followed_setPhase inv.followed ?_⟩
  · intro b owed
    have before : Owed s b := by
      rcases owed_setPhase owed with before | ⟨deq, stage', new, owes⟩
      · exact before
      · cases new
        exact .inr ⟨thread, deq, stage, here, owes⟩
    rcases inv.served b before with waking | ⟨pending, short | checking⟩
    · refine .inl (waking_setPhase waking ?_)
      intro caller' same
      rw [here] at same
      cases same
      exact early rfl
    · exact .inr ⟨pending, .inl short⟩
    · by_cases own : b = band
      · subst own
        exact .inr ⟨pending, .inr ⟨thread, caller, later, setPhase_self _ _, stays⟩⟩
      · refine .inr ⟨pending, .inr (checking_setPhase checking ?_)⟩
        intro caller' stage' same
        rw [here] at same
        cases same
        exact absurd rfl own
  · intro b caller' same
    rw [here] at same
    cases same
    exact early rfl

theorem inv_giveUp (inv : Inv cfg s) (here : s.phase thread = .recheck band caller stage)
    (early : stage ≠ .schedule) (allowed : s.txDeqPending band = false ∨ Short cfg s band) :
    Inv cfg (giveUp s thread band caller) := by
  have notOwn : ∀ b caller', s.phase thread ≠ .recheck b caller' .schedule := by
    intro b caller' same
    rw [here] at same
    cases same
    exact early rfl
  refine ⟨?_, followed_setPhase inv.followed notOwn⟩
  intro b owed
  have before : Owed s b := by
    rcases owed with waits | ⟨t, deq, stage', there, owes⟩
    · by_cases own : b = band
      · subst own
        simp only [giveUp, Function.update_self, Bool.or_eq_true] at waits
        rcases waits with waits | left
        · exact .inl waits
        · cases caller with
          | none => cases left
          | some deq =>
            simp only [Bool.and_eq_true, Bool.not_eq_true'] at left
            exact .inr ⟨thread, deq, stage, here, left⟩
      · simp only [giveUp, Function.update_of_ne own] at waits
        exact .inl waits
    · have apart : t ≠ thread := by
        rintro rfl
        simp only [giveUp, setPhase_self, reduceCtorEq] at there
      refine .inr ⟨t, deq, stage', ?_, owes⟩
      rw [← there]
      exact (setPhase_other .idle apart).symm
  rcases inv.served b before with waking | ⟨pending, short | checking⟩
  · exact .inl (waking_setPhase waking (notOwn b))
  · exact .inr ⟨pending, .inl short⟩
  · by_cases own : b = band
    · subst own
      rcases allowed with unset | short
      · rw [unset] at pending
        cases pending
      · exact .inr ⟨pending, .inl short⟩
    · refine .inr ⟨pending, .inr (checking_setPhase checking ?_)⟩
      intro caller' stage' same
      rw [here] at same
      cases same
      exact absurd rfl own

theorem inv_clear (inv : Inv cfg s) (here : s.phase thread = .recheck band caller .clear) :
    Inv cfg (recheckStep cfg s thread band caller .clear) := by
  have notOwn : ∀ b caller', s.phase thread ≠ .recheck b caller' .schedule := by
    intro b caller' same
    rw [here] at same
    cases same
  have waker : (setPhase s thread (.recheck band caller .schedule)).phase thread =
      .recheck band caller .schedule := setPhase_self _ _
  refine ⟨?_, ?_⟩
  · intro b owed
    by_cases own : b = band
    · subst own
      exact .inl ⟨thread, caller, waker⟩
    · have before : Owed s b := by
        have moved : Owed (setPhase s thread (.recheck band caller .schedule)) b := owed
        rcases owed_setPhase moved with before | ⟨deq, stage, new, owes⟩
        · exact before
        · cases new
          exact absurd rfl own
      rcases inv.served b before with waking | ⟨pending, short | checking⟩
      · exact .inl (waking_setPhase waking (notOwn b))
      · refine .inr ⟨?_, .inl short⟩
        simpa [recheckStep, own] using pending
      · refine .inr ⟨?_, .inr ?_⟩
        · simpa [recheckStep, own] using pending
        · refine checking_setPhase checking ?_
          intro caller' stage same
          rw [here] at same
          cases same
          exact absurd rfl own
  · intro t b stillOpen
    simp only [recheckStep, open_concat] at stillOpen
    rcases stillOpen with new | ⟨old, -⟩
    · cases new
      exact ⟨caller, waker⟩
    · exact followed_setPhase inv.followed notOwn t b old

theorem inv_wake (inv : Inv cfg s) (here : s.phase thread = .recheck band caller .schedule) :
    Inv cfg (recheckStep cfg s thread band caller .schedule) := by
  have scheduled := inv_scheduleTask cfg (some thread) (cfg.task band) inv
  refine ⟨?_, ?_⟩
  · intro b owed
    have before : Owed (scheduleTask cfg (some thread) (cfg.task band) s) b := by
      rcases owed_setPhase owed with before | ⟨deq, stage, new, owes⟩
      · exact before
      · cases new
    have apart : b ≠ band := by
      rintro rfl
      exact (owed_scheduleTask cfg _ _ s before).1 rfl
    refine served_setPhase (scheduled.served b before) ?_
    intro caller' stage same
    obtain ⟨prior, at_⟩ := (scheduleTask_phase cfg _ _ s).mp ⟨_, same⟩
    rw [here] at at_
    cases at_
    exact apart rfl
  · intro t b stillOpen
    simp only [recheckStep, setPhase, scheduleTask, open_concat, reduceCtorEq, false_or,
      NotYet] at stillOpen
    obtain ⟨caller', at_⟩ := inv.followed t b stillOpen.1
    have apart : t ≠ thread := by
      rintro rfl
      rw [here] at at_
      cases at_
      exact stillOpen.2 rfl
    obtain ⟨after, there⟩ := (scheduleTask_phase cfg (some thread) (cfg.task band) s).mpr
      ⟨caller', at_⟩
    exact ⟨after, (setPhase_other .idle apart).trans there⟩

theorem inv_recheckStep (inv : Inv cfg s) (here : s.phase thread = .recheck band caller stage) :
    Inv cfg (recheckStep cfg s thread band caller stage) := by
  cases stage with
  | testPending =>
    simp only [recheckStep]
    split
    · exact inv_advance inv here (by decide) (by decide)
    · rename_i unset
      exact inv_giveUp inv here (by decide) (.inl (by simpa using unset))
  | testState =>
    simp only [recheckStep]
    split
    · exact inv_advance inv here (by decide) (by decide)
    · rename_i low
      exact inv_giveUp inv here (by decide) (.inr (.inr (by simpa using low)))
  | testUsage =>
    simp only [recheckStep]
    split
    · exact inv_advance inv here (by decide) (by decide)
    · rename_i above
      exact inv_giveUp inv here (by decide) (.inr (.inl (by omega)))
  | clear => exact inv_clear inv here
  | schedule => exact inv_wake inv here

theorem inv_arm (inv : Inv cfg s) {deq : DeqRun} (here : s.phase thread = .bailed band deq) :
    Inv cfg (step cfg s (.next thread)) := by
  have outside : ∀ b caller stage, s.phase thread ≠ .recheck b caller stage := by
    intro b caller stage same
    rw [here] at same
    cases same
  simp only [step, here]
  refine ⟨?_, followed_setPhase inv.followed fun b caller => outside b caller .schedule⟩
  intro b owed
  by_cases own : b = band
  · subst own
    refine .inr ⟨by simp, .inr ⟨thread, some deq, .testPending, ?_, by decide⟩⟩
    exact setPhase_self _ _
  · have before : Owed s b := by
      have moved : Owed (setPhase s thread (.recheck band (some deq) .testPending)) b := owed
      rcases owed_setPhase moved with before | ⟨deq', stage, new, owes⟩
      · exact before
      · cases new
        exact absurd rfl own
    have served : Served cfg (setPhase s thread (.recheck band (some deq) .testPending)) b :=
      served_setPhase (inv.served b before) (outside b)
    rcases served with waking | ⟨pending, rest⟩
    · exact .inl waking
    · refine .inr ⟨?_, rest⟩
      rw [← pending]
      exact Function.update_of_ne own _ _

theorem inv_free (inv : Inv cfg s) (band : Band) (here : s.phase thread = .idle) :
    Inv cfg (step cfg s (.free thread band)) := by
  have outside : ∀ b caller stage, s.phase thread ≠ .recheck b caller stage := by
    intro b caller stage same
    rw [here] at same
    cases same
  simp only [step, here]
  refine ⟨?_, followed_setPhase inv.followed fun b caller => outside b caller .schedule⟩
  intro b owed
  have before : Owed s b := by
    have moved : Owed (setPhase s thread (.recheck band none .testPending)) b := owed
    rcases owed_setPhase moved with before | ⟨deq, stage, new, owes⟩
    · exact before
    · cases new
  -- a usage that drops has its own recheck ahead
  rcases inv.served b before with waking | ⟨pending, short | checking⟩
  · exact .inl (waking_setPhase waking fun caller => outside b caller .schedule)
  · refine .inr ⟨pending, ?_⟩
    by_cases own : b = band
    · subst own
      exact .inr ⟨thread, none, .testPending, setPhase_self _ _, by decide⟩
    · left
      simpa [Short, setPhase, own] using short
  · exact .inr ⟨pending, .inr (checking_setPhase checking
      fun caller stage same => absurd same (outside b caller stage))⟩

theorem inv_step (inv : Inv cfg s) (event : Event T) : Inv cfg (step cfg s event) := by
  cases event with
  | check thread band noToken =>
    cases here : s.phase thread with
    | idle =>
      simp only [step, here]
      split
      · refine ⟨?_, followed_setPhase inv.followed (by simp [here])⟩
        intro b owed
        rcases owed_setPhase owed with before | ⟨deq, stage, new, owes⟩
        · exact served_setPhase (inv.served b before) (by simp [here])
        · cases new
      · exact inv
    | bailed b deq => simpa only [step, here] using inv
    | recheck b caller stage => simpa only [step, here] using inv
  | free thread band =>
    cases here : s.phase thread with
    | idle => exact inv_free inv band here
    | bailed b deq => simpa only [step, here] using inv
    | recheck b caller stage => simpa only [step, here] using inv
  | next thread =>
    cases here : s.phase thread with
    | idle => simpa only [step, here] using inv
    | bailed b deq => exact inv_arm inv here
    | recheck b caller stage =>
      simp only [step, here]
      exact inv_recheckStep inv here
  | take band =>
    refine ⟨?_, inv.followed⟩
    intro b owed
    rcases inv.served b owed with waking | ⟨pending, short | checking⟩
    · exact .inl waking
    · refine .inr ⟨pending, .inl ?_⟩
      by_cases own : b = band
      · subst own
        rcases short with beyond | low
        · left
          simp only [step, Function.update_self]
          omega
        · exact .inr low
      · simpa [Short, step, own] using short
    · exact .inr ⟨pending, .inr checking⟩
  | setTokenLow =>
    refine ⟨?_, inv.followed⟩
    intro b owed
    rcases inv.served b owed with waking | ⟨pending, -⟩
    · exact .inl waking
    · exact .inr ⟨pending, .inl (.inr rfl)⟩
  | legacyRecovery =>
    -- both tasks are scheduled, so no band is owed a wake-up after it
    refine ⟨?_, ?_⟩
    · intro b owed
      obtain ⟨notOne, first⟩ := owed_scheduleTask cfg _ _ _ owed
      obtain ⟨notZero, -⟩ := owed_scheduleTask cfg _ _ _ first
      have tasks : cfg.task b = 0 ∨ cfg.task b = 1 := by
        have bound : b.val < 2 := b.isLt
        unfold Config.task
        split <;> omega
      rcases tasks with zero | one
      · exact absurd zero notZero
      · exact absurd one notOne
    · intro t b stillOpen
      simp only [step, scheduleTask, open_concat, reduceCtorEq, false_or] at stillOpen
      have at_ := inv.followed t b stillOpen.1.1
      exact (scheduleTask_phase cfg _ _ _).mpr ((scheduleTask_phase cfg _ _ _).mpr at_)
  | kick task => exact inv_scheduleTask cfg none task inv

end Threads

/-! ## A run whose shortage persists -/

def stageRank : Stage → Nat
  | .testPending => 0
  | .testState => 1
  | .testUsage => 2
  | .clear => 3
  | .schedule => 4

/-- The test that a recheck is before passes in this state. -/
def Passes (cfg : Config) (s : State T) (band : Band) : Stage → Prop
  | .testState => s.tokenLow = false
  | .testUsage => s.usedTokenPerBand band ≤ cfg.highWaterMarkPerBand band
  | _ => True

variable {cfg : Config} {s : State T} {thread : T} {band : Band}

theorem recheck_step {event : Event T} {caller : Option DeqRun} {stage : Stage}
    (after : (step cfg s event).phase thread = .recheck band caller stage) :
    (∃ prior, s.phase thread = .recheck band prior stage) ∨ stage = .testPending ∨
      ∃ prior earlier, s.phase thread = .recheck band prior earlier ∧
        Passes cfg s band earlier ∧ stageRank stage = stageRank earlier + 1 := by
  have others : ∀ (t : T) (phase : Phase),
      (setPhase s t phase).phase thread = .recheck band caller stage →
      (thread = t ∧ phase = .recheck band caller stage) ∨
        s.phase thread = .recheck band caller stage := by
    intro t phase at_
    by_cases own : thread = t
    · subst own
      rw [setPhase_self] at at_
      exact .inl ⟨rfl, at_⟩
    · rw [setPhase_other phase own] at at_
      exact .inr at_
  cases event with
  | check t b noToken =>
    simp only [step] at after
    split at after
    · split at after
      · rcases others t _ after with ⟨-, new⟩ | same
        · cases new
        · exact .inl ⟨caller, same⟩
      · exact .inl ⟨caller, after⟩
    · exact .inl ⟨caller, after⟩
  | free t b =>
    simp only [step] at after
    split at after
    · rcases others t _ after with ⟨-, new⟩ | same
      · cases new
        exact .inr (.inl rfl)
      · exact .inl ⟨caller, same⟩
    · exact .inl ⟨caller, after⟩
  | next t =>
    simp only [step] at after
    split at after
    · exact .inl ⟨caller, after⟩
    · rcases others t _ after with ⟨-, new⟩ | same
      · cases new
        exact .inr (.inl rfl)
      · exact .inl ⟨caller, same⟩
    · rename_i b prior earlier here
      have quits : ∀ prior, (giveUp s t b prior).phase thread = .recheck band caller stage →
          s.phase thread = .recheck band caller stage := by
        intro prior at_
        rcases others t .idle at_ with ⟨-, new⟩ | same
        · cases new
        · exact same
      cases earlier with
      | testPending =>
        simp only [recheckStep] at after
        split at after
        · rcases others t _ after with ⟨rfl, new⟩ | same
          · cases new
            exact .inr (.inr ⟨caller, .testPending, here, trivial, rfl⟩)
          · exact .inl ⟨caller, same⟩
        · exact .inl ⟨caller, quits _ after⟩
      | testState =>
        simp only [recheckStep] at after
        split at after
        · rename_i clear
          rcases others t _ after with ⟨rfl, new⟩ | same
          · cases new
            exact .inr (.inr ⟨caller, .testState, here, by simpa [Passes] using clear, rfl⟩)
          · exact .inl ⟨caller, same⟩
        · exact .inl ⟨caller, quits _ after⟩
      | testUsage =>
        simp only [recheckStep] at after
        split at after
        · rename_i recovered
          rcases others t _ after with ⟨rfl, new⟩ | same
          · cases new
            exact .inr (.inr ⟨caller, .testUsage, here, recovered, rfl⟩)
          · exact .inl ⟨caller, same⟩
        · exact .inl ⟨caller, quits _ after⟩
      | clear =>
        rcases others t _ after with ⟨rfl, new⟩ | same
        · cases new
          exact .inr (.inr ⟨caller, .clear, here, trivial, rfl⟩)
        · exact .inl ⟨caller, same⟩
      | schedule =>
        by_cases own : thread = t
        · subst own
          simp only [recheckStep, setPhase_self, reduceCtorEq] at after
        · simp only [recheckStep, setPhase_other _ own] at after
          exact .inl ((scheduleTask_phase cfg _ _ s).mp ⟨caller, after⟩)
  | take b => exact .inl ⟨caller, after⟩
  | setTokenLow => exact .inl ⟨caller, after⟩
  | legacyRecovery =>
    have second := (scheduleTask_phase cfg none 1 _).mp ⟨caller, after⟩
    exact .inl ((scheduleTask_phase cfg none 0 { s with tokenLow := false }).mp second)
  | kick task => exact .inl ((scheduleTask_phase cfg _ _ s).mp ⟨caller, after⟩)

/-- The thread has not come past the given stage of a recheck for the band. -/
def Behind (limit : Stage) (thread : T) (band : Band) (s : State T) : Prop :=
  ∀ caller stage, s.phase thread = .recheck band caller stage → stageRank stage ≤ stageRank limit

theorem behind_step {limit : Stage} (event : Event T) (behind : Behind limit thread band s)
    (fails : ¬ Passes cfg s band limit) : Behind limit thread band (step cfg s event) := by
  intro caller stage after
  rcases recheck_step after with ⟨prior, same⟩ | rfl | ⟨prior, earlier, here, passed, rank⟩
  · exact behind prior stage same
  · exact Nat.zero_le _
  · have bound := behind prior earlier here
    have apart : stageRank earlier ≠ stageRank limit := by
      intro same
      have stages : earlier = limit := by
        cases earlier <;> cases limit <;> first | rfl | exact absurd same (by decide)
      exact fails (stages ▸ passed)
    omega

/-- The event is the schedule at the end of a recheck of the thread for the band. -/
def Wakes (thread : T) (band : Band) (s : State T) (event : Event T) : Prop :=
  event = .next thread ∧ ∃ caller, s.phase thread = .recheck band caller .schedule

theorem never_wakes {deq : DeqRun} (limit : Stage) (early : stageRank limit < stageRank .schedule)
    (here : s.phase thread = .bailed band deq) (later : List (Event T))
    (fails : Along (step cfg) (fun s _ => ¬ Passes cfg s band limit) s later) :
    Along (step cfg) (fun s event => ¬ Wakes thread band s event) s later := by
  apply along_of_invariant (step cfg) (fun s _ => ¬ Passes cfg s band limit) _
    (Behind limit thread band)
  · intro state event behind fails
    exact behind_step event behind fails
  · rintro state event behind - ⟨-, caller, at_⟩
    have bound := behind caller .schedule at_
    omega
  · intro caller stage at_
    rw [here] at at_
    cases at_
  · exact fails

end OpenwrtSource.TxQueue.WakeUp
