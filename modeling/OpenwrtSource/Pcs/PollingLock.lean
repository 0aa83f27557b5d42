import OpenwrtSource.Lib.Mutex
import OpenwrtSource.Lib.Run
import OpenwrtSource.Pcs.LinkPoll

/-!
# `regmap_lock` of the SGMII PCS

`link_poll` runs as a work of its own beside the calls of phylink, and all of them take
`regmap_lock` around accesses that may fail.  Each returns it, and the poll schedules
itself again, but for an `update_state` that cannot read its registers.
-/

namespace OpenwrtSource.Pcs.PollingLock

open Lib.Run Lib.Mutex
open Pcs.LinkPoll (PhyInterface LinkState unknownState)

variable {Adv C : Type}

/-- `struct mtk_pcs_lynxi`, as far as the calls share it. -/
structure Mpcs (Adv : Type) where
  interface : PhyInterface
  negMode : Int
  poll : Bool
  advertising : Adv
  state : LinkState
  stateAdvertising : Adv
  stateLpAdvertising : Adv

/-- The accesses of the driver, by what they are for. -/
inductive Access
  | linkStatus
  | bmsr
  | lpa
  | phyaPowerDown
  | phyReset
  | hwReset
  | swReset
  | polarity
  | phySpeed
  | linkTimer
  | advertise
  | sgmiiMode
  | bmcr
  | phyaPowerUp
  | phySetMode
  | anRestart
  | forceMode
  deriving DecidableEq

/-- Whether the access failed, and what the variable for its result holds then. -/
structure Answer where
  failed : Bool
  val : BitVec 32

abbrev LynxiProg (Adv : Type) := Prog (Mpcs Adv) Access Answer

/-- What the driver calls of the kernel, and what it knows of its platform. -/
structure Platform (Adv : Type) where
  /-- `config` gets as far as the link timer. -/
  encodes : PhyInterface → Adv → Bool
  phylinkGetLinkTimerNs : PhyInterface → Int
  linkmodeEmpty : Adv → Bool
  decodeState : LinkState → Adv → Adv → Int → BitVec 16 → BitVec 16 → LinkState
  xfiTphy : Bool
  rstc : Bool

variable (k : Platform Adv)

/-- `mtk_pcs_lynxi_link_status`; it does not look whether the read has failed. -/
def linkStatus (next : Bool → LynxiProg Adv) : LynxiProg Adv :=
  .lock <| .access .linkStatus fun val => .unlock <| next (val.val.getLsbD 18)

/-- `mtk_pcs_lynxi_store_mpcs_state`. -/
def storeState (state : LinkState) (mpcs : Mpcs Adv) : Mpcs Adv := { mpcs with state := state }

/-- `mtk_pcs_lynxi_update_state`. -/
def updateState (next : LynxiProg Adv) : LynxiProg Adv :=
  .read fun mpcs =>
    let state := mpcs.state
    if k.linkmodeEmpty mpcs.stateAdvertising then next
    else
      .lock <| .access .bmsr fun bm =>
        -- these two returns leave the mutex locked
        if bm.failed then next
        else .access .lpa fun adv =>
          if adv.failed then next
          else .read fun now =>
            let state := k.decodeState state mpcs.stateAdvertising mpcs.stateLpAdvertising
              now.negMode (bm.val.extractLsb' 16 16) (adv.val.extractLsb' 16 16)
            let state := { state with interface := now.interface }
            .unlock <| .update (storeState state) next

/-- `mtk_pcs_lynxi_config` sets both if one of them differs. -/
def setMode (negMode : Int) (interface : PhyInterface) (mpcs : Mpcs Adv) : Mpcs Adv :=
  if mpcs.interface ≠ interface ∨ mpcs.negMode ≠ negMode then
    { mpcs with interface := interface, negMode := negMode }
  else mpcs

/-- What `mtk_pcs_lynxi_config` does before it writes the advertisement. -/
def resets : List Access :=
  [.phyaPowerDown] ++ (if k.xfiTphy then [.phyReset] else []) ++
    (if k.rstc then [.hwReset] else []) ++ [.swReset, .polarity, .phySpeed, .linkTimer]

/-- `mtk_pcs_lynxi_config`; `link_poll` calls it with `mpcs->advertising` itself. -/
def config (negMode : Int) (interface : PhyInterface) (advertising : Adv) (fromPoll : Bool)
    (next : LynxiProg Adv) : LynxiProg Adv :=
  if k.encodes interface advertising = false then next
  else if k.phylinkGetLinkTimerNs interface < 0 then next
  else
    .lock <| .update (setMode negMode interface) <|
      Prog.ignoring (resets k) <|
      .access .advertise fun answer =>
        let changed := !answer.failed && decide (answer.val ≠ 0)
        .update (fun mpcs =>
          if changed && !fromPoll then { mpcs with advertising := advertising } else mpcs) <|
        Prog.ignoring [.sgmiiMode, .bmcr, .phyaPowerUp, .phySetMode] <|
        .unlock next

/-- `mtk_pcs_lynxi_restart_an`. -/
def restartAn : LynxiProg Adv := .lock <| .access .anRestart fun _ => .unlock .done

/-- The loop of `mtk_pcs_lynxi_link_up`, which the clock lets run for so many rounds after its
first. -/
def waitLink (next : LynxiProg Adv) : Nat → LynxiProg Adv
  | 0 => linkStatus fun _ => next
  | rounds + 1 => linkStatus fun up => if up then next else waitLink next rounds

/-- `PHYLINK_PCS_NEG_INBAND_ENABLED`. -/
def inbandEnabled : Int := 0x50

/-- `mtk_pcs_lynxi_link_up`. -/
def linkUp (negMode : Int) (rounds : Nat) : LynxiProg Adv :=
  waitLink (if negMode ≠ inbandEnabled then .lock <| .access .forceMode fun _ => .unlock .done
    else .done) rounds

/-- `mtk_pcs_lynxi_get_state`, which loads the cache behind its two copies. -/
def getState (advertising lpAdvertising : Adv) : LynxiProg Adv :=
  .update (fun mpcs => { mpcs with stateAdvertising := advertising }) <|
    .update (fun mpcs => { mpcs with stateLpAdvertising := lpAdvertising }) <|
    .read fun _ => .done

def polled : List PhyInterface := [.sgmii, .base1000x, .base2500x]

/-- `mtk_pcs_lynxi_link_poll`. -/
def linkPoll : LynxiProg Adv :=
  let exit : LynxiProg Adv := .schedule .done
  .read fun mpcs =>
    if mpcs.interface ∉ polled ∨ mpcs.poll = false then exit
    else linkStatus fun up =>
      if up then updateState k exit
      else .update (fun mpcs => { mpcs with state := { mpcs.state with link := false } }) <|
        .read fun mpcs => config k mpcs.negMode mpcs.interface mpcs.advertising true exit

inductive Call (Adv : Type)
  | config (negMode : Int) (interface : PhyInterface) (advertising : Adv)
  | restartAn
  | linkUp (negMode : Int) (rounds : Nat)
  | getState (advertising lpAdvertising : Adv)

def Call.prog : Call Adv → LynxiProg Adv
  | .config negMode interface advertising =>
    PollingLock.config k negMode interface advertising false .done
  | .restartAn => PollingLock.restartAn
  | .linkUp negMode rounds => PollingLock.linkUp negMode rounds
  | .getState advertising lpAdvertising => PollingLock.getState advertising lpAdvertising

inductive Thread (C : Type)
  | worker
  | caller (c : C)
  deriving DecidableEq

abbrev World (Adv C : Type) := System (Mpcs Adv) Access Answer (Thread C)

inductive Event (Adv C : Type)
  /-- The delay of the scheduled work is over. -/
  | expire
  | call (c : C) (call : Call Adv)
  | go (t : Thread C) (answer : Answer)

def isDone : LynxiProg Adv → Bool
  | .done => true
  | _ => false

variable [DecidableEq C]

def step (w : World Adv C) : Event Adv C → World Adv C
  | .expire =>
    if w.scheduled && isDone (w.prog .worker) then
      { w with scheduled := false }.put .worker (linkPoll k)
    else w
  | .call c call =>
    if isDone (w.prog (.caller c)) then w.put (.caller c) (call.prog k) else w
  | .go t answer => go t answer w

def enabled (mpcs : Mpcs Adv) : World Adv C where
  mem := mpcs
  lock := none
  scheduled := true
  prog := fun _ => .done

/-- `update_state` reads what it is to decode. -/
def good (a : Access) (answer : Answer) : Prop := a = .bmsr ∨ a = .lpa → answer.failed = false

theorem good_of_ne {a : Access} (bmsr : a ≠ .bmsr) (lpa : a ≠ .lpa) (answer : Answer) :
    good a answer :=
  fun either => (either.elim bmsr lpa).elim

section Programs

variable {next : LynxiProg Adv}

theorem follows_access {a : Access} {held : Bool} {next : Answer → LynxiProg Adv}
    (bmsr : a ≠ .bmsr) (lpa : a ≠ .lpa) (follows : ∀ answer, Follows good held (next answer)) :
    Follows good held (.access a next) :=
  fun answer => ⟨fun _ => follows answer, fun bad => absurd (good_of_ne bmsr lpa answer) bad⟩

theorem follows_linkStatus {next : Bool → LynxiProg Adv}
    (follows : ∀ up, Follows good false (next up)) : Follows good false (linkStatus next) :=
  ⟨rfl, follows_access nofun nofun fun _ => ⟨rfl, follows _⟩⟩

theorem follows_checked {a : Access} {left : LynxiProg Adv} {next : Answer → LynxiProg Adv}
    (checked : ∀ answer, good a answer ↔ answer.failed = false) (ends : Sticks left)
    (follows : ∀ answer, Follows good true (next answer)) :
    Follows good true (.access a fun answer => if answer.failed then left else next answer) := by
  intro answer
  rw [checked]
  dsimp only
  cases answer.failed with
  | true => exact ⟨nofun, fun _ => ⟨rfl, ends⟩⟩
  | false => exact ⟨fun _ => follows answer, fun bad => absurd rfl bad⟩

theorem follows_updateState (follows : Follows good false next) :
    Follows good false (updateState k next) := by
  have ends := sticks_of_follows follows
  intro mpcs
  show Follows good false (if _ then next else _)
  split
  · exact follows
  · refine ⟨rfl, follows_checked ?_ ends fun bm => follows_checked ?_ ends fun adv => ?_⟩
    · exact fun answer => ⟨fun fine => fine (.inl rfl), fun fine _ => fine⟩
    · exact fun answer => ⟨fun fine => fine (.inr rfl), fun fine _ => fine⟩
    · exact fun now => ⟨rfl, follows⟩

theorem good_resets : ∀ a ∈ resets k, ∀ answer, good a answer := by
  have apart : ∀ a ∈ resets k, a ≠ .bmsr ∧ a ≠ .lpa := by
    unfold resets
    cases k.xfiTphy <;> cases k.rstc <;> decide
  exact fun a member => good_of_ne (apart a member).1 (apart a member).2

theorem follows_config (negMode : Int) (interface : PhyInterface) (advertising : Adv)
    (fromPoll : Bool) (follows : Follows good false next) :
    Follows good false (config k negMode interface advertising fromPoll next) := by
  have leaves : Follows good true (Prog.ignoring [.sgmiiMode, .bmcr, .phyaPowerUp, .phySetMode]
      (.unlock next)) := by
    have unlocks : Follows good true (.unlock next) := ⟨rfl, follows⟩
    refine follows_ignoring unlocks _ ?_
    simp [good]
  unfold config
  split_ifs
  · exact follows
  · exact follows
  · refine ⟨rfl, ?_⟩
    show Follows good true (Prog.ignoring (resets k) _)
    refine follows_ignoring ?_ _ (good_resets k)
    exact follows_access nofun nofun fun _ => leaves

theorem follows_waitLink (follows : Follows good false next) (rounds : Nat) :
    Follows good false (waitLink next rounds) := by
  induction rounds with
  | zero => exact follows_linkStatus fun _ => follows
  | succ rounds ih =>
    refine follows_linkStatus fun up => ?_
    cases up with
    | true => exact follows
    | false => exact ih

theorem follows_once {a : Access} (bmsr : a ≠ .bmsr) (lpa : a ≠ .lpa) :
    Follows good false (.lock (.access a fun _ => .unlock .done) : LynxiProg Adv) := by
  have unlocks : Follows good true (.unlock .done : LynxiProg Adv) := ⟨rfl, rfl⟩
  exact ⟨rfl, follows_access bmsr lpa fun _ => unlocks⟩

theorem follows_call (call : Call Adv) : Follows good false (call.prog k) := by
  have done : Follows good false (.done : LynxiProg Adv) := rfl
  cases call with
  | config negMode interface advertising => exact follows_config k _ _ _ _ done
  | restartAn => exact follows_once nofun nofun
  | linkUp negMode rounds =>
    refine follows_waitLink ?_ rounds
    split
    · exact follows_once nofun nofun
    · exact done
  | getState advertising lpAdvertising => exact fun _ => done

theorem follows_linkPoll : Follows good false (linkPoll k) := by
  have exit : Follows good false (.schedule .done : LynxiProg Adv) := rfl
  intro mpcs
  show Follows good false (if _ then _ else _)
  split
  · exact exit
  · refine follows_linkStatus fun up => ?_
    cases up with
    | true => exact follows_updateState k exit
    | false => exact fun now => follows_config k _ _ _ _ exit

theorem within_linkStatus {n : Nat} {next : Bool → LynxiProg Adv}
    (within : ∀ up, Within n (next up)) : Within (n + 3) (linkStatus next) :=
  fun _ => within _

theorem within_updateState {n : Nat} (within : Within n next) :
    Within (n + 7) (updateState k next) := by
  intro mpcs
  show Within (n + 6) (if _ then next else _)
  split
  · exact within_mono (Nat.le_add_right n 6) within
  · intro bm
    show Within (n + 4) (if _ then next else _)
    split
    · exact within_mono (Nat.le_add_right n 4) within
    · intro adv
      show Within (n + 3) (if _ then next else _)
      split
      · exact within_mono (Nat.le_add_right n 3) within
      · exact fun now => within

theorem within_config {n : Nat} (negMode : Int) (interface : PhyInterface) (advertising : Adv)
    (fromPoll : Bool) (within : Within n next) :
    Within (n + 7 + (resets k).length + 2) (config k negMode interface advertising fromPoll next) := by
  have leaves : Within (n + 1 + 4)
      (Prog.ignoring [.sgmiiMode, .bmcr, .phyaPowerUp, .phySetMode] (.unlock next)) := by
    have unlocks : Within (n + 1) (.unlock next) := within
    exact within_ignoring unlocks [.sgmiiMode, .bmcr, .phyaPowerUp, .phySetMode]
  unfold config
  split_ifs
  · exact within_mono (by omega) within
  · exact within_mono (by omega) within
  · refine within_ignoring ?_ _
    exact fun answer => leaves

theorem within_waitLink {n : Nat} (within : Within n next) (rounds : Nat) :
    Within (n + 3 * (rounds + 1)) (waitLink next rounds) := by
  induction rounds with
  | zero => exact within_linkStatus fun _ => within
  | succ rounds ih =>
    have sum : n + 3 * (rounds + 1 + 1) = n + 3 * (rounds + 1) + 3 := by omega
    rw [sum]
    refine within_linkStatus fun up => ?_
    cases up with
    | true => exact within_mono (Nat.le_add_right n _) within
    | false => exact ih

theorem within_once (a : Access) :
    Within 3 (.lock (.access a fun _ => .unlock .done) : LynxiProg Adv) :=
  fun _ => trivial

theorem within_call (call : Call Adv) : ∃ n, Within n (call.prog k) := by
  have done : Within 0 (.done : LynxiProg Adv) := trivial
  cases call with
  | config negMode interface advertising => exact ⟨_, within_config k _ _ _ _ done⟩
  | restartAn => exact ⟨_, within_once .anRestart⟩
  | linkUp negMode rounds =>
    refine ⟨3 + 3 * (rounds + 1), within_waitLink ?_ rounds⟩
    split
    · exact within_once .forceMode
    · trivial
  | getState advertising lpAdvertising => exact ⟨3, fun _ => trivial⟩

theorem within_linkPoll : ∃ n, Within n (linkPoll k) := by
  have exit : Within 1 (.schedule .done : LynxiProg Adv) := trivial
  refine ⟨(resets k).length + 12 + 3 + 1, fun mpcs => ?_⟩
  show Within _ (if _ then _ else _)
  split
  · exact within_mono (by omega) exit
  · refine within_linkStatus fun up => ?_
    cases up with
    | true => exact within_mono (by omega) (within_updateState k exit)
    | false =>
      have configures : ∀ now : Mpcs Adv, Within ((resets k).length + 10)
          (config k now.negMode now.interface now.advertising true (.schedule .done)) :=
        fun now => within_mono (by omega) (within_config k _ _ _ _ exit)
      exact configures

theorem schedules_linkStatus {next : Bool → LynxiProg Adv}
    (schedules : ∀ up, Schedules (next up)) : Schedules (linkStatus next) :=
  fun _ => schedules _

theorem schedules_updateState (schedules : Schedules next) : Schedules (updateState k next) := by
  intro mpcs
  show Schedules (if _ then next else _)
  split
  · exact schedules
  · intro bm
    show Schedules (if _ then next else _)
    split
    · exact schedules
    · intro adv
      show Schedules (if _ then next else _)
      split
      · exact schedules
      · exact fun now => schedules

theorem schedules_config (negMode : Int) (interface : PhyInterface) (advertising : Adv)
    (fromPoll : Bool) (schedules : Schedules next) :
    Schedules (config k negMode interface advertising fromPoll next) := by
  have leaves : Schedules
      (Prog.ignoring [.sgmiiMode, .bmcr, .phyaPowerUp, .phySetMode] (.unlock next)) := by
    have unlocks : Schedules (.unlock next) := schedules
    exact schedules_ignoring unlocks [.sgmiiMode, .bmcr, .phyaPowerUp, .phySetMode]
  unfold config
  split_ifs
  · exact schedules
  · exact schedules
  · refine schedules_ignoring ?_ _
    exact fun answer => leaves

theorem schedules_linkPoll : Schedules (linkPoll k) := by
  have exit : Schedules (.schedule .done : LynxiProg Adv) := trivial
  intro mpcs
  show Schedules (if _ then _ else _)
  split
  · exact exit
  · refine schedules_linkStatus fun up => ?_
    cases up with
    | true => exact schedules_updateState k exit
    | false => exact fun now => schedules_config k _ _ _ _ exit

end Programs

theorem prog_of_isDone {p : LynxiProg Adv} (ended : isDone p = true) : p = .done := by
  cases p with
  | done => rfl
  | lock | unlock | access | update | read | schedule => cases ended

/-- Every access of the run that `update_state` needs succeeds. -/
def ReadsFine (w : World Adv C) : Event Adv C → Prop
  | .go t answer => Fine good w t answer
  | .expire | .call _ _ => True

theorem disciplined_step {w : World Adv C} {event : Event Adv C} (disciplined : Disciplined good w)
    (fine : ReadsFine w event) : Disciplined good (step k w event) := by
  cases event with
  | expire =>
    rw [step]
    split
    · rename_i due
      rw [Bool.and_eq_true] at due
      exact disciplined_start (s := { w with scheduled := false }) disciplined
        (prog_of_isDone due.2) (follows_linkPoll k)
    · exact disciplined
  | call c call =>
    rw [step]
    split
    · rename_i ended
      exact disciplined_start disciplined (prog_of_isDone ended) (follows_call k call)
    · exact disciplined
  | go t answer => exact disciplined_go disciplined answer fine

theorem doomed_step {w : World Adv C} {t : Thread C} (doomed : Doomed good t w)
    (event : Event Adv C) : Doomed good t (step k w event) := by
  cases event with
  | expire =>
    rw [step]
    split
    · have due : Doomed good t { w with scheduled := false } :=
        ⟨doomed.holds, doomed.sticks, doomed.others⟩
      exact doomed_start due .worker (follows_linkPoll k)
    · exact doomed
  | call c call =>
    rw [step]
    split
    · exact doomed_start doomed _ (follows_call k call)
    · exact doomed
  | go u answer => exact doomed_go doomed u answer

theorem ending_step {w : World Adv C} (ending : Ending w) (event : Event Adv C) :
    Ending (step k w event) := by
  cases event with
  | expire =>
    obtain ⟨n, within⟩ := within_linkPoll k
    rw [step]
    split
    · exact ending_put (s := { w with scheduled := false }) ending within
    · exact ending
  | call c call =>
    obtain ⟨n, within⟩ := within_call k call
    rw [step]
    split
    · exact ending_put ending within
    · exact ending
  | go t answer => exact ending_go ending answer

theorem willSchedule_step {w : World Adv C} (will : WillSchedule .worker w)
    (event : Event Adv C) : WillSchedule .worker (step k w event) := by
  cases event with
  | expire =>
    rw [step]
    split
    · refine .inr ?_
      rw [put_self]
      exact schedules_linkPoll k
    · exact will
  | call c call =>
    rw [step]
    split
    · exact willSchedule_put will nofun
    · exact will
  | go t answer => exact willSchedule_go will t answer

/-- The mutex is free when no call is in progress, and a call that waits for it waits for one
that goes on; the calls end, and the poll has scheduled itself when it is over. -/
structure Survives (w : World Adv C) : Prop where
  available : Available w
  ending : Ending w
  scheduled : w.prog .worker = .done → w.scheduled = true

theorem ending_run (mpcs : Mpcs Adv) (events : List (Event Adv C)) :
    Ending (run (step k) (enabled mpcs) events) :=
  run_invariant (step k) (fun _ _ => True) Ending
    (fun _ event ending _ => ending_step k ending event) _ events (fun _ => ⟨0, trivial⟩)
    (along_of_forall _ _ _ _ fun _ _ _ => trivial)

theorem willSchedule_run (mpcs : Mpcs Adv) (events : List (Event Adv C)) :
    WillSchedule .worker (run (step k) (enabled mpcs) events) :=
  run_invariant (step k) (fun _ _ => True) (WillSchedule .worker)
    (fun _ event will _ => willSchedule_step k will event) _ events (.inl rfl)
    (along_of_forall _ _ _ _ fun _ _ _ => trivial)

omit [DecidableEq C] in
theorem disciplined_enabled (mpcs : Mpcs Adv) : Disciplined good (enabled mpcs : World Adv C) :=
  fun _ => ⟨false, iff_of_false Bool.false_ne_true nofun, rfl⟩

theorem survives_of_readsFine (mpcs : Mpcs Adv) {events : List (Event Adv C)}
    (fine : Along (step k) ReadsFine (enabled mpcs) events) :
    Survives (run (step k) (enabled mpcs) events) := by
  have disciplined := run_invariant (step k) ReadsFine (Disciplined good)
    (fun _ _ disciplined fine => disciplined_step k disciplined fine) _ events
    (disciplined_enabled mpcs) fine
  refine ⟨available_of_disciplined disciplined, ending_run k mpcs events, fun ended => ?_⟩
  refine (willSchedule_run k mpcs events).resolve_right fun schedules => ?_
  rw [ended] at schedules
  exact schedules

theorem readsFine_of_survives (mpcs : Mpcs Adv) {events : List (Event Adv C)}
    (rest : AtRest (run (step k) (enabled mpcs) events))
    (survives : Survives (run (step k) (enabled mpcs) events)) :
    Along (step k) ReadsFine (enabled mpcs) events := by
  have free : Along (step k) (fun _ _ => True) (enabled mpcs) events :=
    along_of_forall _ _ _ _ fun _ _ _ => trivial
  refine along_of_doomed (step k) (fun _ _ => True) ReadsFine (fun _ _ => True)
    (Disciplined good) (fun w => ∃ t, Doomed good t w) ?_ ?_ ?_ _ events
    (disciplined_enabled mpcs) free free ?_
  · exact fun w event disciplined _ fine => disciplined_step k disciplined fine
  · intro w event disciplined _ bad
    cases event with
    | expire | call => exact absurd trivial bad
    | go t answer => exact ⟨t, doomed_of_not_fine disciplined bad⟩
  · rintro w event ⟨t, doomed⟩ - -
    exact ⟨t, doomed_step k doomed event⟩
  · rintro ⟨t, doomed⟩
    exact not_available_of_doomed doomed rest survives.available

/-- In every run in which `update_state` reads its registers, whatever else fails and however
the calls overlap, every state is as it should be; and a run that has come to rest leaves the
mutex free and the poll scheduled only if that was so. -/
theorem polling_survives_iff (mpcs : Mpcs Adv) (events : List (Event Adv C)) :
    (Along (step k) ReadsFine (enabled mpcs) events →
      ∀ n, Survives (run (step k) (enabled mpcs) (events.take n))) ∧
    (AtRest (run (step k) (enabled mpcs) events) →
      (Survives (run (step k) (enabled mpcs) events) ↔
        Along (step k) ReadsFine (enabled mpcs) events)) := by
  constructor
  · intro fine n
    rw [← List.take_append_drop n events, along_append] at fine
    exact survives_of_readsFine k mpcs fine.1
  · intro rest
    exact ⟨readsFine_of_survives k mpcs rest, survives_of_readsFine k mpcs⟩

def sgmiiPlatform : Platform Bool where
  encodes := fun _ _ => true
  phylinkGetLinkTimerNs := fun _ => 1600000
  linkmodeEmpty := fun advertising => !advertising
  decodeState := fun state _ _ _ bmsr _ => { state with link := bmsr.getLsbD 2 }
  xfiTphy := true
  rstc := false

def linked : Mpcs Bool where
  interface := .sgmii
  negMode := inbandEnabled
  poll := true
  advertising := true
  state := unknownState
  stateAdvertising := true
  stateLpAdvertising := false

def fetched : Answer := ⟨false, 0x00040000⟩

def polledRun : List (Event Bool Unit) := .expire :: List.replicate 12 (.go .worker fetched)

theorem fine_fetched (w : World Bool Unit) : Fine good w .worker fetched := by
  unfold Fine
  split
  · exact fun _ => rfl
  · trivial

theorem polling_survives_iff_polled :
    Survives (run (step sgmiiPlatform) (enabled linked) polledRun) := by
  have rest : AtRest (run (step sgmiiPlatform) (enabled linked) polledRun) := by
    intro t can
    cases t with
    | worker => exact can
    | caller c => exact can
  refine ((polling_survives_iff sgmiiPlatform linked polledRun).2 rest).mpr ?_
  refine along_of_forall _ _ _ _ fun w event member => ?_
  rcases List.mem_cons.mp member with rfl | later
  · trivial
  · rw [List.eq_of_mem_replicate later]
    exact fine_fetched w

def failedRun : List (Event Bool Unit) :=
  .expire :: List.replicate 6 (.go .worker fetched) ++
    [.go .worker ⟨true, 0⟩, .go .worker fetched]

/-- The poll is over, and the mutex is locked. -/
theorem lock_left_behind :
    ¬ ∀ (mpcs : Mpcs Bool) (events : List (Event Bool Unit)),
      Survives (run (step sgmiiPlatform) (enabled mpcs) events) := by
  intro always
  have idle : Idle (run (step sgmiiPlatform) (enabled linked) failedRun) := by
    intro t
    cases t with
    | worker => rfl
    | caller c => rfl
  have free := (always linked failedRun).available.free idle
  have locked : (run (step sgmiiPlatform) (enabled linked) failedRun).lock = some .worker := rfl
  exact nomatch locked.symm.trans free

end OpenwrtSource.Pcs.PollingLock
