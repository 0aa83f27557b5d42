import Mathlib.Data.Fintype.Basic
import OpenwrtSource.Ser.EthPorts

/-!
# The users of the shared DMA

`dma_refcnt` counts the open ports exactly as long as no `mtk_open` fails
behind its reference, and no work closes a port that it has not got open again.
-/

namespace OpenwrtSource.Ser.DmaUsers

open Lib.Run
open Ser.HangMonitor (Port Engine)
open Ser.EthPorts

def openCount (opened : Port → Bool) : Nat := (Finset.univ.filter fun p => opened p = true).card

variable {opened : Port → Bool} {port : Port}

theorem openCount_open (closed : opened port = false) :
    openCount (Function.update opened port true) = openCount opened + 1 := by
  have inserted : (Finset.univ.filter fun p => Function.update opened port true p = true) =
      insert port (Finset.univ.filter fun p => opened p = true) := by
    ext p
    by_cases own : p = port <;> simp [Function.update, own]
  unfold openCount
  rw [inserted, Finset.card_insert_of_notMem (by simp [closed])]

theorem openCount_stop (isOpen : opened port = true) :
    openCount opened = openCount (Function.update opened port false) + 1 := by
  have closed : Function.update opened port false port = false := by simp
  rw [← openCount_open closed, Function.update_idem, ← isOpen, Function.update_eq_self]

theorem openCount_same (closed : opened port = false) :
    Function.update opened port false = opened := by
  rw [← closed, Function.update_eq_self]

theorem openCount_le (opened : Port → Bool) : openCount opened ≤ 3 :=
  Finset.card_le_univ _

/-- What a failed `mtk_open` may not touch. -/
def SameUsers (before after : Eth) : Prop :=
  after.dmaRefcnt = before.dmaRefcnt ∧ after.dma = before.dma ∧ after.napi = before.napi

structure Accounted (s : State) : Prop where
  count : s.eth.dmaRefcnt = some (openCount s.opened)
  runs : s.eth.dma = true ↔ 0 < openCount s.opened
  failed : ∀ f ∈ s.failures, SameUsers f.1 f.2

/-- The `mtk_open` takes its reference, and then the PHY does not attach. -/
def AttachFails (s : State) (attempt : Attempt) : Prop :=
  (s.eth.dmaRefcnt = some 0 → attempt.startDma = true) ∧
    mtkPhyShouldPowerdown s.eth = true ∧ attempt.phyConnect = false

section Calls

variable {soc : Soc} {s : State} {port : Port} {attempt : Attempt}

@[simp] theorem connectPhy_eth : (connectPhy port attempt s).2.eth = s.eth := by
  unfold connectPhy
  dsimp only
  split
  · split <;> rfl
  · rfl

theorem connectPhy_ok : (connectPhy port attempt s).1 = true ↔
    ¬ (mtkPhyShouldPowerdown s.eth = true ∧ attempt.phyConnect = false) := by
  unfold connectPhy
  cases powerdown : mtkPhyShouldPowerdown s.eth <;>
    cases connects : attempt.phyConnect <;> simp

theorem mtkOpen_noDma (none_ : s.eth.dmaRefcnt = some 0) (fails : attempt.startDma = false) :
    mtkOpen soc port attempt s = (false, s) := by
  simp [mtkOpen, none_, fails]

theorem powerdown_startDma (eth : Eth) :
    mtkPhyShouldPowerdown (startDma soc eth) = mtkPhyShouldPowerdown eth := rfl

theorem mtkOpen_takes (soc : Soc) (port : Port) (acc : Accounted s)
    (starts : s.eth.dmaRefcnt = some 0 → attempt.startDma = true) :
    ((mtkOpen soc port attempt s).1 = true ↔ ¬ AttachFails s attempt) ∧
      (mtkOpen soc port attempt s).2.eth.dmaRefcnt = some (openCount s.opened + 1) ∧
      (mtkOpen soc port attempt s).2.eth.dma = true := by
  unfold mtkOpen AttachFails
  by_cases none_ : s.eth.dmaRefcnt = some 0
  · rw [if_pos none_, if_pos (starts none_)]
    have empty : openCount s.opened = 0 := by
      have count := acc.count
      rw [none_] at count
      exact (Option.some.inj count).symm
    refine ⟨?_, ?_, ?_⟩
    · rw [connectPhy_ok]
      simp only [powerdown_startDma]
      simp [starts none_]
    · rw [connectPhy_eth, empty]
      rfl
    · rw [connectPhy_eth]
      rfl
  · rw [if_neg none_]
    have some_ : openCount s.opened ≠ 0 := by
      intro empty
      exact none_ (by rw [acc.count, empty])
    have bounded := openCount_le s.opened
    refine ⟨?_, ?_, ?_⟩
    · rw [connectPhy_ok]
      simp only [none_, false_implies, true_and]
      rfl
    · rw [connectPhy_eth]
      simp only [acc.count, refcountInc]
      rw [if_neg (by unfold INT_MAX; omega)]
    · rw [connectPhy_eth]
      exact acc.runs.mpr (Nat.pos_of_ne_zero some_)

theorem openPort_opened : (openPort soc port attempt s).2.opened =
    Function.update s.opened port (openPort soc port attempt s).1 := rfl

theorem openPort_failures : (openPort soc port attempt s).2.failures =
    if (openPort soc port attempt s).1 then s.failures
    else s.failures ++ [(s.eth, (openPort soc port attempt s).2.eth)] := rfl

theorem accounted_openPort (soc : Soc) (acc : Accounted s) (closed : s.opened port = false)
    (attaches : ¬ AttachFails s attempt) : Accounted (openPort soc port attempt s).2 := by
  by_cases starts : s.eth.dmaRefcnt = some 0 → attempt.startDma = true
  · obtain ⟨ok, count, runs⟩ := mtkOpen_takes soc port acc starts
    have success : (openPort soc port attempt s).1 = true := ok.mpr attaches
    refine ⟨?_, ?_, ?_⟩
    · rw [openPort_opened, success, openCount_open closed]
      exact count
    · rw [openPort_opened, success, openCount_open closed]
      exact iff_of_true runs (Nat.succ_pos _)
    · rw [openPort_failures, success]
      exact acc.failed
  · rw [Classical.not_imp, Bool.not_eq_true] at starts
    have failed : mtkOpen soc port attempt s = (false, s) := mtkOpen_noDma starts.1 starts.2
    unfold openPort
    rw [failed]
    refine ⟨?_, ?_, ?_⟩
    · simpa only [openCount_same closed] using acc.count
    · simpa only [openCount_same closed] using acc.runs
    · intro f member
      rcases List.mem_append.mp member with old | new
      · exact acc.failed f old
      · rw [List.mem_singleton.mp new]
        exact ⟨rfl, rfl, rfl⟩

theorem not_accounted_openPort (soc : Soc) (acc : Accounted s) (closed : s.opened port = false)
    (fails : AttachFails s attempt) : ¬ Accounted (openPort soc port attempt s).2 := by
  obtain ⟨ok, count, -⟩ := mtkOpen_takes soc port acc fails.1
  have failure : (openPort soc port attempt s).1 = false := by
    rw [← Bool.not_eq_true]
    exact fun success => (ok.mp success) fails
  intro after
  have same := after.count
  rw [openPort_opened, failure, openCount_same closed] at same
  have := Option.some.inj (same.symm.trans count)
  omega

@[simp] theorem disconnectPhy_eth : (disconnectPhy port s).eth = s.eth := by
  unfold disconnectPhy
  dsimp only
  split <;> rfl

@[simp] theorem disconnectPhy_failures : (disconnectPhy port s).failures = s.failures := by
  unfold disconnectPhy
  dsimp only
  split <;> rfl

theorem stopPort_eth : (stopPort soc port s).eth = putDma soc s.eth := by
  simp [stopPort, mtkStop]

theorem stopPort_opened : (stopPort soc port s).opened = Function.update s.opened port false := rfl

theorem stopPort_failures : (stopPort soc port s).failures = s.failures := by
  simp [stopPort, mtkStop]

theorem accounted_stopPort (soc : Soc) (acc : Accounted s) (isOpen : s.opened port = true) :
    Accounted (stopPort soc port s) := by
  have users := openCount_stop isOpen
  have put : refcountDecAndTest s.eth.dmaRefcnt =
      (openCount (Function.update s.opened port false) == 0,
        some (openCount (Function.update s.opened port false))) := by
    rw [acc.count, users]
    rfl
  refine ⟨?_, ?_, ?_⟩
  · rw [stopPort_eth]
    unfold putDma
    rw [put]
    dsimp only
    split <;> rfl
  · rw [stopPort_eth]
    unfold putDma
    rw [put]
    by_cases last : openCount (Function.update s.opened port false) = 0
    · simp [stopPort, last]
    · have others : 0 < openCount (Function.update s.opened port false) := Nat.pos_of_ne_zero last
      have before : s.eth.dma = true := acc.runs.mpr (by omega)
      simp [stopPort, last, before, others]
  · rw [stopPort_failures]
    exact acc.failed

theorem not_accounted_stopPort (soc : Soc) (acc : Accounted s) (closed : s.opened port = false) :
    ¬ Accounted (stopPort soc port s) := by
  intro after
  have same := after.count
  rw [stopPort_eth] at same
  unfold putDma stopPort at same
  rw [openCount_same closed, acc.count] at same
  cases users : openCount s.opened with
  | zero => simp [users, refcountDecAndTest] at same
  | succ n =>
    rw [users] at same
    cases n with
    | zero => simp [refcountDecAndTest] at same
    | succ m => simp [refcountDecAndTest] at same

end Calls

def owed : Holder → List Port
  | .free | .completing _ => []
  | .stopping _ _ restart | .hwInit restart => restart
  | .opening _ todo _ => todo
  | .closing _ port todo _ => port :: todo

def unseen : Holder → List Port
  | .stopping _ todo _ => todo
  | _ => []

structure Inv (s : State) : Prop where
  accounted : Accounted s
  opened : ∀ p, s.opened p = true ↔ s.running p = true ∧ p ∉ owed s.holder
  distinct : (owed s.holder ++ unseen s.holder).Nodup
  stopped : ∀ p ∈ owed s.holder, s.running p = true

/-- The `mtk_open` that a step makes. -/
def openCall (soc : Soc) (s : State) : Event → Option (Port × Attempt)
  | .devOpen port attempt =>
    match s.holder with
    | .free => if s.running port || !soc.netdev port then none else some (port, attempt)
    | _ => none
  | .work attempt _ _ _ =>
    match s.holder with
    | .opening _ (port :: _) _ => some (port, attempt)
    | _ => none
  | _ => none

/-- The step is the `dev_close` behind an `mtk_open` of a work that failed. -/
def ClosesFailed (s : State) : Event → Prop
  | .work _ _ _ _ => match s.holder with
      | .closing _ _ _ _ => True
      | _ => False
  | _ => False

structure Good (soc : Soc) (s : State) (event : Event) : Prop where
  attaches : ∀ call ∈ openCall soc s event, ¬ AttachFails s call.2
  reopened : ¬ ClosesFailed s event

theorem inv_probed : Inv probed where
  accounted := ⟨by decide, by decide, fun _ member => absurd member List.not_mem_nil⟩
  opened _ := by simp [probed]
  distinct := List.nodup_nil
  stopped _ member := absurd member List.not_mem_nil

theorem Accounted.congr {s after : State} (acc : Accounted s) (eth : after.eth = s.eth)
    (opened : after.opened = s.opened) (failures : after.failures = s.failures) :
    Accounted after where
  count := by rw [eth, opened, acc.count]
  runs := by rw [eth, opened, acc.runs]
  failed := by rw [failures]; exact acc.failed

section Steps

variable {soc : Soc} {s : State}

variable {port : Port} {attempt : Attempt}

theorem inv_devOpen (inv : Inv s) (free : s.holder = .free)
    (attaches : s.running port = false → soc.netdev port = true → ¬ AttachFails s attempt) :
    Inv (devOpen soc port attempt s) := by
  unfold devOpen
  split
  · exact inv
  · rename_i down
    simp only [Bool.or_eq_true, Bool.not_eq_true', not_or, Bool.not_eq_true,
      Bool.not_eq_false] at down
    have closed : s.opened port = false := by
      simp [← Bool.not_eq_true, inv.opened, down.1]
    have acc := accounted_openPort soc inv.accounted closed (attaches down.1 down.2)
    refine ⟨acc.congr rfl rfl rfl, ?_, ?_, ?_⟩
    · intro p
      have here := inv.opened p
      simp only [openPort_opened, openPort_holder, free, owed] at here ⊢
      by_cases own : p = port <;> simp_all [Function.update]
    · simp [free, owed, unseen]
    · simp [free, owed]

theorem inv_devClose (inv : Inv s) (free : s.holder = .free) : Inv (devClose soc port s) := by
  unfold devClose
  split
  · rename_i up
    have isOpen : s.opened port = true := by
      simp [inv.opened, up, free, owed]
    have acc := accounted_stopPort soc inv.accounted isOpen
    refine ⟨?_, ?_, ?_, ?_⟩
    · refine acc.congr ?_ rfl ?_
      · rw [stopPort_eth, stopPort_eth]
      · rw [stopPort_failures, stopPort_failures]
    · intro p
      have here := inv.opened p
      rw [free] at here
      rw [stopPort_opened, stopPort_holder, stopPort_running, free]
      by_cases own : p = port <;> simp_all [Function.update, owed]
    · simp [free, owed, unseen]
    · simp [free, owed]
  · exact inv

variable {reset : Bool} {todo restart : List Port} {event : Event}

theorem inv_stopping (inv : Inv s) (holder : s.holder = .stopping reset (port :: todo) restart)
    (up : s.running port = true) :
    Inv { stopPort soc port s with holder := .stopping reset todo (restart ++ [port]) } := by
  have distinct := inv.distinct
  rw [holder] at distinct
  simp only [owed, unseen] at distinct
  have fresh : port ∉ restart := by
    intro member
    exact (List.nodup_append.mp distinct).2.2 port member port List.mem_cons_self rfl
  have isOpen : s.opened port = true := by
    simp [inv.opened, holder, owed, up, fresh]
  refine ⟨(accounted_stopPort soc inv.accounted isOpen).congr rfl rfl rfl, ?_, ?_, ?_⟩
  · intro p
    have here := inv.opened p
    rw [holder] at here
    simp only [stopPort_opened, stopPort_running, owed] at here ⊢
    by_cases own : p = port
    · simp [own]
    · simp [own, here]
  · simpa only [owed, unseen, List.append_assoc, List.singleton_append] using distinct
  · intro p member
    have stopped := inv.stopped p
    rw [holder] at stopped
    simp only [stopPort_running, owed] at stopped member ⊢
    rcases List.mem_append.mp member with old | new
    · exact stopped old
    · rw [List.mem_singleton.mp new]
      exact up

theorem inv_opening (inv : Inv s) (holder : s.holder = .opening reset (port :: todo) restart)
    (attaches : ¬ AttachFails s attempt) :
    Inv { (openPort soc port attempt s).2 with
      holder := if (openPort soc port attempt s).1 then .opening reset todo restart
        else .closing reset port todo restart } := by
  have distinct := inv.distinct
  have opened := inv.opened
  have stopped := inv.stopped
  rw [holder] at distinct opened stopped
  simp only [owed, unseen, List.append_nil] at distinct opened stopped
  have closed : s.opened port = false := by
    simp [← Bool.not_eq_true, opened]
  have acc := accounted_openPort soc inv.accounted closed attaches
  refine ⟨acc.congr rfl rfl rfl, ?_, ?_, ?_⟩
  · intro p
    cases ok : (openPort soc port attempt s).1 with
    | true =>
      simp only [openPort_opened, openPort_running, ok, if_true, owed]
      by_cases own : p = port
      · have up := stopped port List.mem_cons_self
        have notTodo := (List.nodup_cons.mp distinct).1
        simp [own, up, notTodo]
      · simp [own, opened]
    | false =>
      simp only [openPort_opened, openPort_running, ok, owed, Bool.false_eq_true, if_false]
      rw [openCount_same closed, opened]
  · cases ok : (openPort soc port attempt s).1 with
    | true => simpa [owed, unseen] using (List.nodup_cons.mp distinct).2
    | false => simpa [owed, unseen] using distinct
  · intro p member
    rw [openPort_running]
    cases ok : (openPort soc port attempt s).1 with
    | true =>
      simp only [ok, if_true, owed] at member
      exact stopped p (List.mem_cons_of_mem _ member)
    | false =>
      simp only [ok, owed, Bool.false_eq_true, if_false] at member
      exact stopped p member

theorem Inv.move (inv : Inv s) {after : State} (eth : after.eth.dmaRefcnt = s.eth.dmaRefcnt)
    (dma : after.eth.dma = s.eth.dma) (opened : after.opened = s.opened)
    (failures : after.failures = s.failures) (running : after.running = s.running)
    (same : owed after.holder = owed s.holder)
    (seen : (unseen after.holder).Sublist (unseen s.holder)) : Inv after where
  accounted := ⟨by rw [eth, opened, inv.accounted.count],
    by rw [dma, opened, inv.accounted.runs], by rw [failures]; exact inv.accounted.failed⟩
  opened := by rw [opened, running, same]; exact inv.opened
  distinct := by
    rw [same]
    exact inv.distinct.sublist (seen.append_left _)
  stopped := by rw [same, running]; exact inv.stopped

theorem inv_work (inv : Inv s) {startReset : Bool} {junk : List RstCtrl} {cold : Bool}
    (good : Good soc s (.work attempt startReset junk cold)) :
    Inv (work soc attempt startReset junk cold s) := by
  unfold work
  split
  · exact inv
  · rename_i reset restart holder
    refine inv.move rfl rfl rfl rfl rfl ?_ ?_
    · cases reset <;> simp [holder, owed]
    · cases reset <;> simp [holder, unseen]
  · rename_i reset port todo restart holder
    split
    · rename_i up
      rw [Bool.and_eq_true] at up
      exact inv_stopping inv holder up.2
    · refine inv.move rfl rfl rfl rfl rfl ?_ ?_
      · simp [holder, owed]
      · simp [holder, unseen]
  · rename_i restart holder
    cases cold with
    | true => exact inv.move rfl rfl rfl rfl rfl (by simp [holder, owed]) (by simp [unseen])
    | false => exact inv.move rfl rfl rfl rfl rfl (by simp [holder, owed]) (by simp [unseen])
  · rename_i reset restart holder
    refine inv.move rfl rfl rfl rfl rfl ?_ ?_
    · cases reset <;> simp [holder, owed]
    · cases reset <;> simp [unseen]
  · rename_i reset port todo restart holder
    refine inv_opening inv holder (good.attaches (port, attempt) ?_)
    simp [openCall, holder]
  · rename_i reset port todo restart holder
    refine absurd ?_ good.reopened
    simp [ClosesFailed, holder]
  · rename_i restart holder
    have quiet : ∃ log, mtkMacFeResetComplete soc restart s = { s with log } := by
      unfold mtkMacFeResetComplete
      dsimp only
      split <;> exact ⟨_, rfl⟩
    obtain ⟨log, completed⟩ := quiet
    rw [completed]
    exact inv.move rfl rfl rfl rfl rfl (by simp [holder, owed]) (by simp [unseen])

theorem inv_pendingWork (inv : Inv s) : Inv (pendingWork s) := by
  unfold pendingWork
  split
  · split
    · exact inv.move rfl rfl rfl rfl rfl rfl (List.Sublist.refl _)
    · exact inv
  · exact inv.move rfl rfl rfl rfl rfl rfl (List.Sublist.refl _)
  · rename_i free
    have bare := inv
    refine ⟨inv.accounted.congr rfl rfl rfl, ?_, ?_, ?_⟩
    · intro p
      simpa [free, owed] using inv.opened p
    · simpa [owed, unseen] using List.nodup_finRange 3
    · simp [owed]
  · exact inv.move rfl rfl rfl rfl rfl rfl (List.Sublist.refl _)
  · exact inv

theorem inv_setCount (inv : Inv s) (engine : Engine) (count : Nat) (monitor : Monitor) :
    Inv { setCount engine count s with monitor } :=
  inv.move rfl rfl rfl rfl rfl rfl (List.Sublist.refl _)

theorem inv_step (inv : Inv s) (good : Good soc s event) : Inv (step soc s event) := by
  cases event with
  | devOpen port attempt =>
    unfold step
    dsimp only
    split
    · rename_i free
      refine inv_devOpen inv free fun down present => good.attaches (port, attempt) ?_
      simp [openCall, free, down, present]
    · exact inv
  | devClose port =>
    unfold step
    dsimp only
    split
    · rename_i free
      exact inv_devClose inv free
    · exact inv
  | netdevRestart =>
    unfold step
    dsimp only
    split
    · rename_i free
      refine ⟨inv.accounted.congr rfl rfl rfl, ?_, ?_, ?_⟩
      · intro p
        simpa [free, owed] using inv.opened p
      · simpa [owed, unseen] using List.nodup_finRange 3
      · simp [owed]
    · exact inv
  | request => exact inv.move rfl rfl rfl rfl rfl rfl (List.Sublist.refl _)
  | debugfsForce force => exact inv.move rfl rfl rfl rfl rfl rfl (List.Sublist.refl _)
  | monitorStart =>
    unfold step
    dsimp only
    split
    · split
      · exact inv
      · exact inv.move rfl rfl rfl rfl rfl rfl (List.Sublist.refl _)
    · exact inv
  | monitorCheck engine met =>
    unfold step monitorCheck
    dsimp only
    split
    · split
      · exact inv_setCount inv engine _ _
      · exact inv.move rfl rfl rfl rfl rfl rfl (List.Sublist.refl _)
    · exact inv
  | monitorReport =>
    unfold step
    dsimp only
    split
    · exact inv_setCount inv _ _ _
    · exact inv
  | monitorEnd =>
    unfold step monitorEnd
    dsimp only
    split
    · exact inv.move rfl rfl rfl rfl rfl rfl (List.Sublist.refl _)
    · split <;> exact inv.move rfl rfl rfl rfl rfl rfl (List.Sublist.refl _)
    · exact inv
  | pendingWork => exact inv_pendingWork inv
  | work attempt startReset junk cold => exact inv_work inv good

theorem lost_devOpen (inv : Inv s) (down : s.running port = false)
    (present : soc.netdev port = true) (fails : AttachFails s attempt) :
    ¬ Accounted (devOpen soc port attempt s) := by
  have closed : s.opened port = false := by
    simp [← Bool.not_eq_true, inv.opened, down]
  intro after
  refine not_accounted_openPort soc inv.accounted closed fails ?_
  unfold devOpen at after
  rw [if_neg (by simp [down, present])] at after
  exact after.congr rfl rfl rfl

theorem lost_step (inv : Inv s) (bad : ¬ Good soc s event) : ¬ Accounted (step soc s event) := by
  have cases_ : (∃ call ∈ openCall soc s event, AttachFails s call.2) ∨ ClosesFailed s event := by
    by_contra neither
    rw [not_or] at neither
    refine bad ⟨fun call member fails => neither.1 ⟨call, member, fails⟩, neither.2⟩
  rcases cases_ with ⟨⟨port, attempt⟩, member, fails⟩ | closes
  · cases event with
    | devOpen port' attempt' =>
      cases free : s.holder with
      | free =>
        simp only [openCall, free] at member
        split at member
        · simp at member
        · rename_i down
          simp only [Option.mem_def, Option.some.injEq, Prod.mk.injEq] at member
          obtain ⟨rfl, rfl⟩ := member
          simp only [Bool.or_eq_true, Bool.not_eq_true', not_or, Bool.not_eq_true,
            Bool.not_eq_false] at down
          simpa only [step, free] using lost_devOpen inv down.1 down.2 fails
      | stopping _ _ _ | hwInit _ | opening _ _ _ | closing _ _ _ _ | completing _ =>
        simp [openCall, free] at member
    | work attempt' startReset junk cold =>
      cases holder : s.holder with
      | opening reset todo restart =>
        cases todo with
        | nil => simp [openCall, holder] at member
        | cons head todo =>
          simp only [openCall, holder, Option.mem_def, Option.some.injEq,
            Prod.mk.injEq] at member
          obtain ⟨rfl, rfl⟩ := member
          have opened := inv.opened head
          rw [holder] at opened
          have closed : s.opened head = false := by
            simp [← Bool.not_eq_true, opened, owed]
          intro after
          refine not_accounted_openPort soc inv.accounted closed fails ?_
          simp only [step, work, holder] at after
          exact after.congr rfl rfl rfl
      | free | stopping _ _ _ | hwInit _ | closing _ _ _ _ | completing _ =>
        simp [openCall, holder] at member
    | devClose _ | netdevRestart | request | debugfsForce _ | monitorStart | monitorCheck _ _
    | monitorReport | monitorEnd | pendingWork => simp [openCall] at member
  · cases event with
    | work attempt startReset junk cold =>
      cases holder : s.holder with
      | closing reset port todo restart =>
        have opened := inv.opened port
        have stopped := inv.stopped port
        rw [holder] at opened stopped
        have up : s.running port = true := stopped (by simp [owed])
        have closed : s.opened port = false := by
          simp [← Bool.not_eq_true, opened, owed]
        intro after
        simp only [step, work, holder, devClose, up, if_true] at after
        refine not_accounted_stopPort soc
          (s := { s with running := Function.update s.running port false })
          (inv.accounted.congr rfl rfl rfl) closed ?_
        refine after.congr ?_ rfl ?_
        · simp only [stopPort_eth]
        · simp only [stopPort_failures]
      | free | stopping _ _ _ | hwInit _ | opening _ _ _ | completing _ =>
        simp [ClosesFailed, holder] at closes
    | devOpen _ _ | devClose _ | netdevRestart | request | debugfsForce _ | monitorStart
    | monitorCheck _ _ | monitorReport | monitorEnd | pendingWork => simp [ClosesFailed] at closes

end Steps

/-- The count, the DMA and the failed calls are right in every state of a run exactly
when no PHY fails to attach and no work closes a port that it did not get open. -/
theorem dma_users_counted_iff (soc : Soc) (events : List Event) :
    (∀ n, Accounted (run (step soc) probed (events.take n))) ↔
      Along (step soc) (Good soc) probed events := by
  apply always_iff_along (step soc) (Good soc) Inv Accounted
  · intro s inv
    exact inv.accounted
  · intro s event inv good
    exact inv_step inv good
  · intro s event inv bad
    exact lost_step inv bad
  · exact inv_probed

def threePorts : Soc where
  netsys := .v3
  hasPpe1 := true
  hasPpe2 := true
  hasRss := false
  rssNum := 4
  hwlro := false
  netdev := fun _ => true

/-- A PHY that does not attach leaves the DMA running with no port open. -/
theorem reference_leaked :
    ¬ ∀ (soc : Soc) (events : List Event) (n : Nat),
      Accounted (run (step soc) probed (events.take n)) := by
  intro always
  have after := always threePorts
    [.devOpen 0 { startDma := true, phyConnect := false }] 1
  exact absurd after.count (by decide)

end OpenwrtSource.Ser.DmaUsers
