import Mathlib.Data.Fintype.Basic
import Mathlib.Data.Fintype.Sum
import Mathlib.Tactic.DeriveFintype
import OpenwrtSource.Lib.History
import OpenwrtSource.Lib.Run
import OpenwrtSource.Ser.HangMonitor

/-!
# What one call of the hang monitor does to each engine

The call passes the engines in the order of `rank`.  Up to the first one that
meets its test all are cleared, that one is counted up, and those behind it, or
those that the call leaves out, keep their counters.
-/

namespace OpenwrtSource.Ser.HangParts

open Ser.HangMonitor

variable (soc : Soc) (now : Sample)

def applies : Engine → Bool
  | .wdmaTx i => now.wdidx i != 0
  | .gmacTx i => now.running i && !now.xgmii i
  | .gmacRx i => now.running i && !now.xgmii i
  | .gdmTx i => now.running i
  | .gdmRx i => now.running i && now.xgmii i
  | .admaRx => true
  | .qdmaTx => true

/-- The hang condition of an engine, for the registers that are taken for the state
machines of the GDM ports and for what the snapshots hold. -/
def condition (fsm : Port → Reg) (snap : Snapshot → Nat → BitVec 32) : Engine → Bool
  | .wdmaTx i => now.wdidx i == snap .wdidx i && now.wdmaBusy soc i
  | .gmacTx i =>
    now.oqHang soc i && now.gmacTx i && now.txgpCnt i == snap .gdmTxgpCnt i &&
      now.rxfcCnt i == snap .gdmRxfcCnt i
  | .gmacRx i => now.gmacRx i && now.rxgpCnt i == snap .gdmRxgpCnt i
  | .gdmTx i =>
    now.oqHang soc i && now.txgpCnt i == snap .gdmTxgpCnt i &&
      now.rxfcCnt i == snap .gdmRxfcCnt i &&
      (now.gdmTxfsm fsm i == snap .gdmTxfsm i && now.gdmTxfsm fsm i == 0x1033)
  | .gdmRx i =>
    now.iqHang soc i && now.rxgpCnt i == snap .gdmRxgpCnt i &&
      (now.gdmRxfsm fsm i == snap .gdmRxfsm i &&
        (now.gdmRxfsm fsm i == 0x23 || now.gdmRxfsm fsm i == 0x24))
  | .admaRx =>
    soc.mtkGetOqSta now .adma != 0 && now.admaEn soc &&
      !([0, 1, 2, 3].any fun ring => now.ringUsed ring && now.ringFull ring) &&
      ([0, 1, 2, 3].all fun ring =>
        !now.ringUsed ring || now.r32 (.pdmaPdrxPtr ring) == snap .adidx ring) &&
      (now.cdmaRxfsm != 0 && now.cdmaRxfsm == snap .cdmaRxfsm 0)
  | .qdmaTx =>
    !decide (∃ i : Port, now.running i = true ∧ now.rxfcCnt i - snap .gdmRxfcCnt i ≠ 0) &&
      now.qfsmHang && now.qfwdHang

def hangs (fsm : Port → Reg) (snap : Snapshot → Nat → BitVec 32) (engine : Engine) : Bool :=
  applies now engine && condition soc now fsm snap engine

def test (reset : Reset) : Engine → Bool :=
  hangs soc now MTK_FE_GDM_FSM fun array i => reset.cells (Cell.place ⟨array, i⟩)

def rank : Engine → Nat
  | .wdmaTx i => i
  | .gmacTx i => 3 + 4 * i
  | .gmacRx i => 4 + 4 * i
  | .gdmTx i => 5 + 4 * i
  | .gdmRx i => 6 + 4 * i
  | .admaRx => 16
  | .qdmaTx => 17

def Reached (reset : Reset) (place : Nat) : Prop :=
  soc.mt7628 = false ∧ ∀ engine, rank engine < place → test soc now reset engine = false

def Checked (reset : Reset) (engine : Engine) : Prop :=
  applies now engine = true ∧ Reached soc now reset (rank engine)

def Owns : Engine → Snapshot → Nat → Prop
  | .wdmaTx i, array, index => array = .wdidx ∧ index = i
  | .gmacTx i, array, index | .gmacRx i, array, index | .gdmTx i, array, index
  | .gdmRx i, array, index =>
    (array = .gdmTxgpCnt ∨ array = .gdmRxgpCnt ∨ array = .gdmRxfcCnt ∨ array = .gdmTxfsm ∨
      array = .gdmRxfsm) ∧ index = i
  | .admaRx, array, _ => array = .adidx ∨ array = .cdmaRxfsm
  | .qdmaTx, _, _ => False

/-- A write stays in its array and in the cells of the engine. -/
def InBounds (write : Engine × Cell) : Prop :=
  write.2.index < write.2.array.length ∧ Owns write.1 write.2.array write.2.index

/-- Behind this place in the order nothing reads the snapshot. -/
def lastRead (cell : Cell) : Nat :=
  match cell.array with
  | .wdidx => cell.index
  | .gdmTxgpCnt | .gdmRxfcCnt | .gdmTxfsm => 5 + 4 * cell.index
  | .gdmRxgpCnt =>
    if now.xgmii (Fin.ofNat 3 cell.index) then 6 + 4 * cell.index else 5 + 4 * cell.index
  | .gdmRxfsm => 6 + 4 * cell.index
  | .adidx => 15
  | .cdmaRxfsm => 16

/-! ## Writes -/

/-- `f` writes snapshots that meet `p` for an engine, and nothing else. -/
structure Sets (engine : Engine) (p : Cell → Prop) (f : Call → Call) : Prop where
  hangCount : ∀ c, (f c).reset.hangCount = c.reset.hangCount
  hangs : ∀ c, (f c).hangs = c.hangs
  gdmRxfc : ∀ c, (f c).gdmRxfc = c.gdmRxfc
  cells : ∀ c cell, ¬ p cell → (f c).reset.cells cell = c.reset.cells cell
  writes : ∀ c, (∀ w ∈ c.writes, InBounds w) → ∀ w ∈ (f c).writes, InBounds w

section Sets

variable {engine : Engine} {p : Cell → Prop} {f g : Call → Call}

theorem Sets.id : Sets engine p id :=
  ⟨fun _ => rfl, fun _ => rfl, fun _ => rfl, fun _ _ _ => rfl, fun _ held => held⟩

theorem Sets.comp (first : Sets engine p f) (second : Sets engine p g) :
    Sets engine p fun c => g (f c) where
  hangCount c := (second.hangCount (f c)).trans (first.hangCount c)
  hangs c := (second.hangs (f c)).trans (first.hangs c)
  gdmRxfc c := (second.gdmRxfc (f c)).trans (first.gdmRxfc c)
  cells c cell other := (second.cells (f c) cell other).trans (first.cells c cell other)
  writes c held := second.writes (f c) (first.writes c held)

variable {array : Snapshot} {i : Nat}

theorem place_of_lt (inside : i < array.length) : Cell.place ⟨array, i⟩ = ⟨array, i⟩ := by
  unfold Cell.place
  rw [if_neg]
  intro same
  cases same
  exact absurd inside (by decide)

theorem Sets.set {value : BitVec 32} (bounds : InBounds (engine, ⟨array, i⟩)) (may : p ⟨array, i⟩) :
    Sets engine p (Call.set engine array i value) where
  hangCount _ := rfl
  hangs _ := rfl
  gdmRxfc _ := rfl
  cells c cell other := by
    have apart : cell ≠ ⟨array, i⟩ := by
      rintro rfl
      exact other may
    simp only [Call.set, place_of_lt bounds.1, Function.update_of_ne apart]
  writes c held w member := by
    rcases List.mem_append.mp member with earlier | new
    · exact held w earlier
    · rw [List.mem_singleton.mp new]
      exact bounds

end Sets

/-! ## The parts in their order -/

/-- The call has passed the engines of rank below `place` and the ports below `ports`. -/
structure Progress (reset : Reset) (place ports : Nat) (c : Call) : Prop where
  reached : Reached soc now reset place
  hangCount : ∀ engine, c.reset.hangCount engine =
    if applies now engine = true ∧ rank engine < place then 0 else reset.hangCount engine
  hangs : c.hangs = []
  cells : ∀ cell, place ≤ lastRead now cell → c.reset.cells cell = reset.cells cell
  gdmRxfc : c.gdmRxfc = true ↔ ∃ i : Port, i < ports ∧ now.running i = true ∧
    now.rxfcCnt i - reset.cells ⟨.gdmRxfcCnt, i⟩ ≠ 0
  writes : ∀ w ∈ c.writes, InBounds w

/-- What `countUp` leaves of a counter. -/
def bump (count : Nat) : Nat := if (count + 1) % 256 > 2 then 0 else (count + 1) % 256

structure Done (reset : Reset) (c : Call) : Prop where
  counted : ∀ engine, Checked soc now reset engine → test soc now reset engine = true →
    c.reset.hangCount engine = bump (reset.hangCount engine)
  cleared : ∀ engine, Checked soc now reset engine → test soc now reset engine = false →
    c.reset.hangCount engine = 0
  left : ∀ engine, ¬ Checked soc now reset engine →
    c.reset.hangCount engine = reset.hangCount engine
  hangs : ∀ engine ∈ c.hangs, Checked soc now reset engine ∧
    test soc now reset engine = true ∧ (reset.hangCount engine + 1) % 256 > 2
  writes : ∀ w ∈ c.writes, InBounds w

/-- A part of the call, from one point of the call to another or to its end. -/
def Runs (reset : Reset) (before after : Call → Prop) (part : Call → Except Call Call) : Prop :=
  ∀ c, before c →
    (∀ next, part c = .ok next → after next) ∧
    (∀ done, part c = .error done → Done soc now reset done)

section Parts

variable {soc now} {reset : Reset} {place ports : Nat} {c : Call}

theorem Runs.bind {p q r : Call → Prop} {f g : Call → Except Call Call}
    (first : Runs soc now reset p q f) (second : Runs soc now reset q r g) :
    Runs soc now reset p r fun c => f c >>= g := by
  intro c holds
  obtain ⟨onOk, onError⟩ := first c holds
  change (∀ next, (f c >>= g) = .ok next → r next) ∧
    (∀ ended, (f c >>= g) = .error ended → Done soc now reset ended)
  cases result : f c with
  | ok next => exact second next (onOk next result)
  | error ended =>
    refine ⟨fun _ same => (by cases same), fun ended' same => ?_⟩
    cases same
    exact onError ended result

theorem rank_inj {a b : Engine} (same : rank a = rank b) : a = b := by
  cases a <;> cases b <;> simp only [rank] at same <;>
    first
    | (congr 1; exact Fin.ext (by omega))
    | omega
    | rfl

theorem test_of_not_applies {engine : Engine} (out : applies now engine = false) :
    test soc now reset engine = false := by
  simp [test, hangs, out]

variable {after : Nat} {onHang : Call → Call} {p : Cell → Prop} {onPass : Call → Call}
  {value : BitVec 32}

theorem Progress.skip (engine : Engine) (progress : Progress soc now reset place ports c)
    (here : rank engine = place) (next : place + 1 = after) (out : applies now engine = false) :
    Progress soc now reset after ports c where
  reached := by
    refine ⟨progress.reached.1, fun other before => ?_⟩
    rcases Nat.lt_succ_iff_lt_or_eq.mp (next ▸ before) with earlier | same
    · exact progress.reached.2 other earlier
    · cases rank_inj (same.trans here.symm)
      exact test_of_not_applies out
  hangCount other := by
    rw [progress.hangCount other]
    by_cases own : other = engine
    · subst own
      simp [out]
    · have apart : rank other ≠ place := fun same => own (rank_inj (same.trans here.symm))
      exact if_congr (and_congr_right fun _ => by omega) rfl rfl
  hangs := progress.hangs
  cells cell fresh := progress.cells cell (by omega)
  gdmRxfc := progress.gdmRxfc
  writes := progress.writes

theorem Progress.checked {engine : Engine} (progress : Progress soc now reset place ports c)
    (here : rank engine = place) (looks : applies now engine = true) :
    Checked soc now reset engine :=
  ⟨looks, here ▸ progress.reached⟩

theorem Progress.checked_iff {engine other : Engine}
    (progress : Progress soc now reset place ports c) (here : rank engine = place)
    (met : test soc now reset engine = true) (apart : other ≠ engine) :
    Checked soc now reset other ↔ applies now other = true ∧ rank other < place := by
  constructor
  · rintro ⟨looks, reached⟩
    refine ⟨looks, ?_⟩
    by_contra behind
    have ranks : rank other ≠ place := fun same => apart (rank_inj (same.trans here.symm))
    have unmet := reached.2 engine (by omega)
    rw [met] at unmet
    cases unmet
  · rintro ⟨looks, before⟩
    exact ⟨looks, progress.reached.1, fun e earlier => progress.reached.2 e (by omega)⟩

theorem countUp_hangCount (engine other : Engine) :
    (c.countUp engine).reset.hangCount other =
      if other = engine then bump (c.reset.hangCount engine) else c.reset.hangCount other := by
  unfold Call.countUp bump
  simp only
  split <;> simp [Call.setCount, Function.update_apply]

theorem countUp_hangs (engine other : Engine) :
    other ∈ (c.countUp engine).hangs ↔
      other ∈ c.hangs ∨ (other = engine ∧ (c.reset.hangCount engine + 1) % 256 > 2) := by
  unfold Call.countUp
  simp only
  split <;> rename_i above <;> simp [Call.setCount, above]

theorem countUp_writes (engine : Engine) : (c.countUp engine).writes = c.writes := by
  unfold Call.countUp
  simp only
  split <;> rfl

theorem done_of_met {engine : Engine} (progress : Progress soc now reset place ports c)
    (here : rank engine = place) (looks : applies now engine = true)
    (met : test soc now reset engine = true) (sets : Sets engine p onHang) :
    Done soc now reset (onHang (c.countUp engine)) := by
  have own : c.reset.hangCount engine = reset.hangCount engine := by
    rw [progress.hangCount, if_neg]
    rintro ⟨-, before⟩
    omega
  have others : ∀ other, other ≠ engine →
      (onHang (c.countUp engine)).reset.hangCount other = c.reset.hangCount other := by
    intro other apart
    rw [sets.hangCount, countUp_hangCount, if_neg apart]
  constructor
  · intro other checked passes
    by_cases same : other = engine
    · subst same
      rw [sets.hangCount, countUp_hangCount, if_pos rfl, own]
    · have before := ((progress.checked_iff here met same).mp checked).2
      rw [progress.reached.2 other before] at passes
      cases passes
  · intro other checked unmet
    by_cases same : other = engine
    · subst same
      rw [met] at unmet
      cases unmet
    · rw [others other same, progress.hangCount,
        if_pos ((progress.checked_iff here met same).mp checked)]
  · intro other unchecked
    have same : other ≠ engine := by
      rintro rfl
      exact unchecked (progress.checked here looks)
    rw [others other same, progress.hangCount,
      if_neg fun passed => unchecked ((progress.checked_iff here met same).mpr passed)]
  · intro other member
    rw [sets.hangs, countUp_hangs, progress.hangs] at member
    rcases member with none_ | ⟨rfl, above⟩
    · cases none_
    · exact ⟨progress.checked here looks, met, own ▸ above⟩
  · exact sets.writes _ (by rw [countUp_writes]; exact progress.writes)

theorem progress_of_unmet {engine : Engine} (progress : Progress soc now reset place ports c)
    (here : rank engine = place) (looks : applies now engine = true)
    (unmet : test soc now reset engine = false)
    (sets : Sets engine (fun cell => lastRead now cell ≤ place) onPass) :
    Progress soc now reset (place + 1) ports (onPass (c.setCount engine 0)) where
  reached := by
    refine ⟨progress.reached.1, fun other before => ?_⟩
    rcases Nat.lt_succ_iff_lt_or_eq.mp before with earlier | same
    · exact progress.reached.2 other earlier
    · cases rank_inj (same.trans here.symm)
      exact unmet
  hangCount other := by
    rw [sets.hangCount]
    by_cases own : other = engine
    · subst own
      rw [if_pos ⟨looks, by omega⟩]
      exact Function.update_self _ _ _
    · have apart : rank other ≠ place := fun same => own (rank_inj (same.trans here.symm))
      refine (Function.update_of_ne own _ _).trans ((progress.hangCount other).trans ?_)
      exact if_congr (and_congr_right fun _ => by omega) rfl rfl
  hangs := (sets.hangs _).trans progress.hangs
  cells cell fresh :=
    (sets.cells _ cell (by omega)).trans (progress.cells cell (by omega))
  gdmRxfc := by
    rw [sets.gdmRxfc]
    exact progress.gdmRxfc
  writes := sets.writes _ progress.writes

theorem runs_check (engine : Engine) (hang : Call → Bool) (here : rank engine = place)
    (next : place + 1 = after) (looks : applies now engine = true)
    (same : ∀ c, Progress soc now reset place ports c → hang c = test soc now reset engine)
    (setsHang : Sets engine (fun _ => True) onHang)
    (setsPass : Sets engine (fun cell => lastRead now cell ≤ place) onPass) :
    Runs soc now reset (Progress soc now reset place ports) (Progress soc now reset after ports)
      (fun c => check engine (hang c) onHang onPass c) := by
  subst next
  intro c progress
  have test_ := same c progress
  simp only [check]
  cases met : test soc now reset engine with
  | true =>
    rw [test_, met]
    refine ⟨fun _ h => (by cases h), fun ended h => ?_⟩
    cases h
    exact done_of_met progress here looks met setsHang
  | false =>
    rw [test_, met]
    refine ⟨fun next h => ?_, fun _ h => (by cases h)⟩
    cases h
    exact progress_of_unmet progress here looks met setsPass

theorem Progress.get (progress : Progress soc now reset place ports c) (array : Snapshot) {i : Nat}
    (inside : i < array.length) (fresh : place ≤ lastRead now ⟨array, i⟩) :
    c.get array i = reset.cells ⟨array, i⟩ := by
  rw [Call.get, place_of_lt inside]
  exact progress.cells _ fresh

theorem test_eq {engine : Engine} (looks : applies now engine = true) :
    test soc now reset engine = condition soc now MTK_FE_GDM_FSM
      (fun array i => reset.cells (Cell.place ⟨array, i⟩)) engine := by
  rw [test, hangs, looks, Bool.true_and]

theorem runs_wdmaTx (i : Port) :
    Runs soc now reset (Progress soc now reset i ports) (Progress soc now reset (i + 1) ports)
      (wdmaTx soc now i) := by
  have inside : i.val < Snapshot.length .wdidx := i.isLt
  have bounds : InBounds (.wdmaTx i, ⟨.wdidx, i⟩) := ⟨inside, rfl, rfl⟩
  intro c progress
  simp only [wdmaTx]
  by_cases unused : now.wdidx i = 0
  · rw [if_pos unused]
    refine ⟨fun _ h => ?_, fun _ h => (by cases h)⟩
    cases h
    have out : applies now (.wdmaTx i) = false := by
      rw [applies, unused]
      rfl
    exact progress.skip (.wdmaTx i) rfl rfl out
  · rw [if_neg unused]
    have looks : applies now (.wdmaTx i) = true := bne_iff_ne.mpr unused
    refine runs_check (.wdmaTx i) (fun c => now.wdidx i == c.get .wdidx i && now.wdmaBusy soc i)
      rfl rfl looks ?_ (Sets.set bounds trivial) (Sets.set bounds (Nat.le_refl _)) c progress
    intro c progress
    rw [test_eq looks, condition, progress.get .wdidx inside (Nat.le_refl _), place_of_lt inside]

/-! ### The ports -/

variable {i : Port}

theorem sets_gdm (engine : Engine) (array : Snapshot) (inside : array.length = 3)
    (owns : Owns engine array i) (may : p ⟨array, i⟩) :
    Sets engine p (Call.set engine array i value) :=
  Sets.set ⟨by rw [inside]; exact i.isLt, owns⟩ may

theorem lastRead_rxgp : 5 + 4 * i.val ≤ lastRead now ⟨.gdmRxgpCnt, i⟩ := by
  simp only [lastRead]
  split <;> omega

theorem runs_gmacTx (runs : now.running i = true) (mii : now.xgmii i = false) :
    Runs soc now reset (Progress soc now reset (3 + 4 * i) ports)
      (Progress soc now reset (4 + 4 * i) ports) (gmacTx soc now i) := by
  have looks : applies now (.gmacTx i) = true := by simp [applies, runs, mii]
  refine runs_check (.gmacTx i)
    (fun c => now.oqHang soc i && now.gmacTx i && now.txgpCnt i == c.get .gdmTxgpCnt i &&
      now.rxfcCnt i == c.get .gdmRxfcCnt i)
    (show rank (.gmacTx i) = 3 + 4 * i.val from rfl)
    (show 3 + 4 * i.val + 1 = 4 + 4 * i.val by omega) looks ?_ Sets.id Sets.id
  intro c progress
  have early : 3 + 4 * i.val ≤ 5 + 4 * i.val := by omega
  rw [test_eq looks, condition, progress.get .gdmTxgpCnt i.isLt early,
    progress.get .gdmRxfcCnt i.isLt early, place_of_lt i.isLt, place_of_lt i.isLt]

theorem runs_gmacRx (runs : now.running i = true) (mii : now.xgmii i = false) :
    Runs soc now reset (Progress soc now reset (4 + 4 * i) ports)
      (Progress soc now reset (5 + 4 * i) ports) (gmacRx now i) := by
  have looks : applies now (.gmacRx i) = true := by simp [applies, runs, mii]
  refine runs_check (.gmacRx i)
    (fun c => now.gmacRx i && now.rxgpCnt i == c.get .gdmRxgpCnt i)
    (show rank (.gmacRx i) = 4 + 4 * i.val from rfl)
    (show 4 + 4 * i.val + 1 = 5 + 4 * i.val by omega) looks ?_ ?_ Sets.id
  · intro c progress
    rw [test_eq looks, condition,
      progress.get .gdmRxgpCnt i.isLt (Nat.le_trans (by omega) lastRead_rxgp), place_of_lt i.isLt]
  · exact (sets_gdm (.gmacRx i) .gdmTxgpCnt rfl ⟨.inl rfl, rfl⟩ trivial).comp
      (sets_gdm (.gmacRx i) .gdmRxfcCnt rfl ⟨.inr (.inr (.inl rfl)), rfl⟩ trivial)

theorem runs_gdmTx (runs : now.running i = true) :
    Runs soc now reset (Progress soc now reset (5 + 4 * i) ports)
      (Progress soc now reset (6 + 4 * i) ports) (gdmTx soc now i) := by
  have looks : applies now (.gdmTx i) = true := runs
  refine runs_check (.gdmTx i)
    (fun c => now.oqHang soc i && now.txgpCnt i == c.get .gdmTxgpCnt i &&
      now.rxfcCnt i == c.get .gdmRxfcCnt i &&
      (now.gdmTxfsm MTK_FE_GDM_FSM i == c.get .gdmTxfsm i &&
        now.gdmTxfsm MTK_FE_GDM_FSM i == 0x1033))
    (show rank (.gdmTx i) = 5 + 4 * i.val from rfl)
    (show 5 + 4 * i.val + 1 = 6 + 4 * i.val by omega) looks ?_ ?_ ?_
  · intro c progress
    rw [test_eq looks, condition, progress.get .gdmTxgpCnt i.isLt (Nat.le_refl _),
      progress.get .gdmRxfcCnt i.isLt (Nat.le_refl _),
      progress.get .gdmTxfsm i.isLt (Nat.le_refl _), place_of_lt i.isLt, place_of_lt i.isLt,
      place_of_lt i.isLt]
  · exact sets_gdm (.gdmTx i) .gdmRxgpCnt rfl ⟨.inr (.inl rfl), rfl⟩ trivial
  · exact ((sets_gdm (.gdmTx i) .gdmTxfsm rfl ⟨.inr (.inr (.inr (.inl rfl))), rfl⟩
        (Nat.le_refl _)).comp
      (sets_gdm (.gdmTx i) .gdmTxgpCnt rfl ⟨.inl rfl, rfl⟩ (Nat.le_refl _))).comp
      (sets_gdm (.gdmTx i) .gdmRxfcCnt rfl ⟨.inr (.inr (.inl rfl)), rfl⟩ (Nat.le_refl _))

theorem runs_gdmRx (runs : now.running i = true) (mii : now.xgmii i = true) :
    Runs soc now reset (Progress soc now reset (6 + 4 * i) ports)
      (Progress soc now reset (7 + 4 * i) ports) (gdmRx soc now i) := by
  have looks : applies now (.gdmRx i) = true := by simp [applies, runs, mii]
  have last : lastRead now ⟨.gdmRxgpCnt, i⟩ = 6 + 4 * i.val := by
    simp [lastRead, mii]
  refine runs_check (.gdmRx i)
    (fun c => now.iqHang soc i && now.rxgpCnt i == c.get .gdmRxgpCnt i &&
      (now.gdmRxfsm MTK_FE_GDM_FSM i == c.get .gdmRxfsm i &&
        (now.gdmRxfsm MTK_FE_GDM_FSM i == 0x23 || now.gdmRxfsm MTK_FE_GDM_FSM i == 0x24)))
    (show rank (.gdmRx i) = 6 + 4 * i.val from rfl)
    (show 6 + 4 * i.val + 1 = 7 + 4 * i.val by omega) looks ?_ Sets.id ?_
  · intro c progress
    rw [test_eq looks, condition, progress.get .gdmRxgpCnt i.isLt (Nat.le_of_eq last.symm),
      progress.get .gdmRxfsm i.isLt (Nat.le_refl _), place_of_lt i.isLt, place_of_lt i.isLt]
  · exact (sets_gdm (.gdmRx i) .gdmRxfsm rfl ⟨.inr (.inr (.inr (.inr rfl))), rfl⟩
        (Nat.le_refl _)).comp
      (sets_gdm (.gdmRx i) .gdmRxgpCnt rfl ⟨.inr (.inl rfl), rfl⟩ (Nat.le_of_eq last))

theorem Progress.note (progress : Progress soc now reset place i c) (early : place ≤ 5 + 4 * i.val)
    (runs : now.running i = true) : Progress soc now reset place (i + 1) (noteRxfc now i c) where
  reached := progress.reached
  hangCount := progress.hangCount
  hangs := progress.hangs
  cells := progress.cells
  gdmRxfc := by
    simp only [noteRxfc, Bool.or_eq_true, progress.gdmRxfc, bne_iff_ne,
      progress.get .gdmRxfcCnt i.isLt early]
    constructor
    · rintro (⟨j, before, found⟩ | here)
      · exact ⟨j, Nat.lt_succ_of_lt before, found⟩
      · exact ⟨i, Nat.lt_succ_self _, runs, here⟩
    · rintro ⟨j, before, found⟩
      rcases Nat.lt_succ_iff_lt_or_eq.mp before with earlier | same
      · exact .inl ⟨j, earlier, found⟩
      · cases Fin.ext same
        exact .inr found.2
  writes := progress.writes

theorem Progress.stopped (progress : Progress soc now reset place i c)
    (stops : now.running i = false) : Progress soc now reset place (i + 1) c where
  reached := progress.reached
  hangCount := progress.hangCount
  hangs := progress.hangs
  cells := progress.cells
  gdmRxfc := by
    rw [progress.gdmRxfc]
    constructor
    · rintro ⟨j, before, found⟩
      exact ⟨j, Nat.lt_succ_of_lt before, found⟩
    · rintro ⟨j, before, found⟩
      rcases Nat.lt_succ_iff_lt_or_eq.mp before with earlier | same
      · exact ⟨j, earlier, found⟩
      · cases Fin.ext same
        rw [stops] at found
        cases found.1
  writes := progress.writes

theorem Progress.set (engine : Engine) (array : Snapshot) {index : Nat}
    (progress : Progress soc now reset place ports c) (bounds : InBounds (engine, ⟨array, index⟩))
    (above : lastRead now ⟨array, index⟩ < place) :
    Progress soc now reset place ports (c.set engine array index value) := by
  have sets : Sets engine (fun cell => lastRead now cell < place)
      (Call.set engine array index value) := Sets.set bounds above
  exact {
    reached := progress.reached
    hangCount := progress.hangCount
    hangs := progress.hangs
    cells := fun cell fresh => (sets.cells c cell (by omega)).trans (progress.cells cell fresh)
    gdmRxfc := progress.gdmRxfc
    writes := sets.writes c progress.writes }

theorem runs_gdm (i : Port) :
    Runs soc now reset (Progress soc now reset (3 + 4 * i) i)
      (Progress soc now reset (7 + 4 * i) (i + 1)) (gdm soc now i) := by
  intro c progress
  unfold gdm
  cases runs : now.running i with
  | false =>
    refine ⟨fun _ h => ?_, fun _ h => (by cases h)⟩
    cases h
    have out : ∀ e, (e = .gmacTx i ∨ e = .gmacRx i ∨ e = .gdmTx i ∨ e = .gdmRx i) →
        applies now e = false := by
      rintro e (rfl | rfl | rfl | rfl) <;> simp [applies, runs]
    have p1 := progress.skip (.gmacTx i) rfl rfl (out _ (.inl rfl))
    have p2 := p1.skip (.gmacRx i) (by simp only [rank]; omega) rfl (out _ (.inr (.inl rfl)))
    have p3 := p2.skip (.gdmTx i) (by simp only [rank]; omega) rfl
      (out _ (.inr (.inr (.inl rfl))))
    have p4 : Progress soc now reset (7 + 4 * i) i c :=
      p3.skip (.gdmRx i) (by simp only [rank]; omega) (by omega)
        (out _ (.inr (.inr (.inr rfl))))
    exact p4.stopped runs
  | true =>
    have noted := progress.note (by omega) runs
    cases mii : now.xgmii i with
    | true =>
      have p1 := noted.skip (.gmacTx i) rfl rfl (by simp [applies, mii])
      have p2 := p1.skip (.gmacRx i) (by simp only [rank]; omega)
        (show _ = 5 + 4 * i.val by omega) (by simp [applies, mii])
      exact (runs_gdmTx runs).bind (runs_gdmRx runs mii) _ p2
    | false =>
      refine Runs.bind (runs_gmacTx runs mii)
        (Runs.bind (runs_gmacRx runs mii) (Runs.bind (runs_gdmTx runs) ?_)) _ noted
      intro c progress
      refine ⟨fun _ h => ?_, fun _ h => (by cases h)⟩
      cases h
      have last : lastRead now ⟨.gdmRxgpCnt, i⟩ = 5 + 4 * i.val := by
        simp [lastRead, mii]
      have p1 : Progress soc now reset (6 + 4 * i) (i + 1)
          (c.set (.gdmTx i) .gdmRxgpCnt i (now.rxgpCnt i)) :=
        progress.set (.gdmTx i) .gdmRxgpCnt ⟨i.isLt, .inr (.inl rfl), rfl⟩ (by omega)
      exact p1.skip (.gdmRx i) rfl (by omega) (by simp [applies, mii])

/-! ### ADMA and QDMA -/

theorem Progress.gap (progress : Progress soc now reset 15 ports c) :
    Progress soc now reset 16 ports c := by
  have none_ : ∀ engine, rank engine < 16 ↔ rank engine < 15 := by
    intro engine
    cases engine <;> simp only [rank] <;> omega
  exact {
    reached := ⟨progress.reached.1, fun e before =>
      progress.reached.2 e ((none_ e).mp before)⟩
    hangCount := fun e =>
      (progress.hangCount e).trans (if_congr (and_congr_right fun _ => (none_ e).symm) rfl rfl)
    hangs := progress.hangs
    cells := fun cell fresh => progress.cells cell (by omega)
    gdmRxfc := progress.gdmRxfc
    writes := progress.writes }

theorem admaRings_spec : ∀ (rings : List Nat) (c : Call) (full hang : Bool), rings.Nodup →
    (∀ ring ∈ rings, now.ringUsed ring = true → ring < 3) →
    (∀ ring ∈ rings, now.ringUsed ring = true →
      c.get .adidx ring = reset.cells (Cell.place ⟨.adidx, ring⟩)) →
    Progress soc now reset 16 ports c →
    ∃ after, rings.foldl (admaRing now) (c, full, hang) =
      (after, full || rings.any (fun ring => now.ringUsed ring && now.ringFull ring),
        hang && rings.all (fun ring => !now.ringUsed ring ||
          now.r32 (.pdmaPdrxPtr ring) == reset.cells (Cell.place ⟨.adidx, ring⟩))) ∧
      Progress soc now reset 16 ports after := by
  intro rings
  induction rings with
  | nil =>
    intro c full hang _ _ _ progress
    exact ⟨c, by simp, progress⟩
  | cons ring rest ih =>
    intro c full hang nodup within fresh progress
    obtain ⟨new, nodup⟩ := List.nodup_cons.mp nodup
    have within' := fun r member => within r (List.mem_cons_of_mem ring member)
    have fresh' := fun r member => fresh r (List.mem_cons_of_mem ring member)
    cases used : now.ringUsed ring with
    | false =>
      obtain ⟨after, result, progress⟩ := ih c full hang nodup within' fresh' progress
      refine ⟨after, ?_, progress⟩
      simp only [List.foldl_cons, admaRing, used, Bool.not_false, if_true, result,
        List.any_cons, List.all_cons, Bool.false_and, Bool.false_or, Bool.true_or,
        Bool.true_and]
    | true =>
      have inside : ring < 3 := within ring (by simp) used
      have here := fresh ring (by simp) used
      let next := c.set .admaRx .adidx ring (now.r32 (.pdmaPdrxPtr ring))
      let moved := now.r32 (.pdmaPdrxPtr ring) == reset.cells (Cell.place ⟨.adidx, ring⟩)
      have turn : admaRing now (c, full, hang) ring =
          (next, full || now.ringFull ring, hang && moved) := by
        simp only [admaRing, used, here, Bool.not_true, Bool.false_eq_true, if_false, next,
          moved]
      have apart : ∀ r ∈ rest, now.ringUsed r = true →
          next.get .adidx r = reset.cells (Cell.place ⟨.adidx, r⟩) := by
        intro r member usedToo
        have inside' : r < Snapshot.length .adidx := within' r member usedToo
        rw [← fresh' r member usedToo, Call.get, Call.get, place_of_lt inside']
        refine Function.update_of_ne ?_ _ _
        rw [place_of_lt (show ring < Snapshot.length .adidx from inside)]
        rintro same
        cases same
        exact new member
      obtain ⟨after, result, progress⟩ := ih next (full || now.ringFull ring) (hang && moved)
        nodup within' apart
        (progress.set .admaRx .adidx ⟨inside, .inl rfl⟩ (Nat.lt_succ_self 15))
      refine ⟨after, ?_, progress⟩
      rw [List.foldl_cons, turn, result]
      simp only [List.any_cons, List.all_cons, used, Bool.true_and, Bool.not_true,
        Bool.false_or, Bool.or_assoc, Bool.and_assoc, moved]

theorem runs_admaRx (fourth : Reached soc now reset (rank .admaRx) → now.ringUsed 3 = false) :
    Runs soc now reset (Progress soc now reset 15 ports) (Progress soc now reset 17 ports)
      (admaRx soc now) := by
  intro c progress
  have unused := fourth progress.gap.reached
  have inside : ∀ ring ∈ [0, 1, 2, 3], now.ringUsed ring = true → ring < 3 := by
    intro ring member used
    have apart : ring ≠ 3 := by
      rintro rfl
      rw [unused] at used
      cases used
    simp at member
    omega
  have fresh : ∀ ring ∈ [0, 1, 2, 3], now.ringUsed ring = true →
      c.get .adidx ring = reset.cells (Cell.place ⟨.adidx, ring⟩) := by
    intro ring member used
    have within : ring < Snapshot.length .adidx := inside ring member used
    rw [progress.get .adidx within (Nat.le_refl _), place_of_lt within]
  obtain ⟨after, result, passed⟩ := admaRings_spec [0, 1, 2, 3] c false true (by decide) inside
    fresh progress.gap
  simp only [admaRx, result, Bool.false_or, Bool.true_and]
  refine runs_check .admaRx (fun c => soc.mtkGetOqSta now .adma != 0 && now.admaEn soc &&
      !([0, 1, 2, 3].any fun ring => now.ringUsed ring && now.ringFull ring) &&
      ([0, 1, 2, 3].all fun ring => !now.ringUsed ring ||
        now.r32 (.pdmaPdrxPtr ring) == reset.cells (Cell.place ⟨.adidx, ring⟩)) &&
      (now.cdmaRxfsm != 0 && now.cdmaRxfsm == c.get .cdmaRxfsm 0))
    (show rank .admaRx = 16 from rfl) rfl rfl ?_ Sets.id ?_ after passed
  · intro c progress
    rw [test_eq rfl, condition, progress.get .cdmaRxfsm (by decide) (Nat.le_refl _),
      place_of_lt (by decide)]
  · exact Sets.set ⟨by decide, .inr rfl⟩ (Nat.le_refl _)

theorem runs_qdmaTx :
    Runs soc now reset (Progress soc now reset 17 3) (Progress soc now reset 18 3)
      (qdmaTx now) := by
  refine runs_check .qdmaTx (fun c => !c.gdmRxfc && now.qfsmHang && now.qfwdHang) rfl rfl rfl ?_
    Sets.id Sets.id
  intro c progress
  have rxfc : c.gdmRxfc = decide (∃ i : Port, now.running i = true ∧
      now.rxfcCnt i - reset.cells (Cell.place ⟨.gdmRxfcCnt, i⟩) ≠ 0) := by
    rw [Bool.eq_iff_iff, progress.gdmRxfc, decide_eq_true_eq]
    constructor
    · rintro ⟨i, -, runs, moved⟩
      exact ⟨i, runs, by rwa [place_of_lt i.isLt]⟩
    · rintro ⟨i, runs, moved⟩
      rw [place_of_lt i.isLt] at moved
      exact ⟨i, i.isLt, runs, moved⟩
  rw [test_eq rfl, condition, rxfc]

/-! ### The whole call -/

theorem progress_start (supported : soc.mt7628 = false) :
    Progress soc now reset 0 0 { reset, gdmRxfc := false, writes := [], hangs := [] } where
  reached := ⟨supported, fun _ before => absurd before (Nat.not_lt_zero _)⟩
  hangCount engine := by
    rw [if_neg]
    rintro ⟨-, before⟩
    exact Nat.not_lt_zero _ before
  hangs := rfl
  cells _ _ := rfl
  gdmRxfc := by simp
  writes _ member := by cases member

theorem runs_call (fourth : Reached soc now reset (rank .admaRx) → now.ringUsed 3 = false) :
    Runs soc now reset (Progress soc now reset 0 0) (Progress soc now reset 18 3) (fun c => do
      let c ← wdmaTx soc now 0 c
      let c ← wdmaTx soc now 1 c
      let c ← wdmaTx soc now 2 c
      let c ← gdm soc now 0 c
      let c ← gdm soc now 1 c
      let c ← gdm soc now 2 c
      let c ← admaRx soc now c
      qdmaTx now c) :=
  (runs_wdmaTx 0).bind <| (runs_wdmaTx 1).bind <| (runs_wdmaTx 2).bind <|
    (runs_gdm 0).bind <| (runs_gdm 1).bind <| (runs_gdm 2).bind <|
    (runs_admaRx fourth).bind runs_qdmaTx

theorem done_of_progress (progress : Progress soc now reset 18 3 c) : Done soc now reset c := by
  have all : ∀ engine, rank engine < 18 := by
    intro engine
    cases engine <;> simp only [rank] <;> omega
  constructor
  · intro engine _ met
    rw [progress.reached.2 engine (all engine)] at met
    cases met
  · intro engine checked _
    rw [progress.hangCount, if_pos ⟨checked.1, all engine⟩]
  · intro engine unchecked
    rw [progress.hangCount, if_neg]
    rintro ⟨looks, -⟩
    exact unchecked ⟨looks, progress.reached.1, fun other before =>
      progress.reached.2 other (all other)⟩
  · rw [progress.hangs]
    exact fun _ member => by cases member
  · exact progress.writes

theorem mtkHwCheckDmaHang_done
    (fourth : Reached soc now reset (rank .admaRx) → now.ringUsed 3 = false) :
    Done soc now reset (mtkHwCheckDmaHang soc now reset) := by
  unfold mtkHwCheckDmaHang
  by_cases old : soc.mt7628 = true
  · rw [if_pos old]
    have nobody : ∀ engine, ¬ Checked soc now reset engine := by
      rintro engine ⟨-, supported, -⟩
      rw [supported] at old
      cases old
    exact {
      counted := fun engine checked => absurd checked (nobody engine)
      cleared := fun engine checked => absurd checked (nobody engine)
      left := fun _ _ => rfl
      hangs := fun _ member => by cases member
      writes := fun _ member => by cases member }
  · rw [if_neg old]
    obtain ⟨onOk, onError⟩ := runs_call fourth _ (progress_start (by simpa using old))
    split
    · rename_i c ended
      exact done_of_progress (onOk c ended)
    · rename_i c ended
      exact onError c ended

end Parts

end OpenwrtSource.Ser.HangParts

/-!
# Soundness of the hang monitor

A counter of an engine stands for a streak of calls on which the engine's own
hang condition held, as long as the test of the code agrees with that condition
and no call leaves the engine out while it is counting.
-/

namespace OpenwrtSource.Ser.HangSoundness

open Lib.Run Lib.Streak
open Ser.HangMonitor Ser.HangParts

deriving instance Fintype for Engine

def gdmFsm (i : Port) : Reg :=
  if i = 0 then .feGdm1Fsm else if i = 1 then .feGdm2Fsm else .feGdm3Fsm

/-- The values that the engines' registers and counters had at a call. -/
def values (sample : Sample) : Snapshot → Nat → BitVec 32
  | .wdidx, i => sample.wdidx (Fin.ofNat 3 i)
  | .adidx, ring => sample.r32 (.pdmaPdrxPtr ring)
  | .gdmTxgpCnt, i => sample.txgpCnt (Fin.ofNat 3 i)
  | .gdmRxgpCnt, i => sample.rxgpCnt (Fin.ofNat 3 i)
  | .gdmRxfcCnt, i => sample.rxfcCnt (Fin.ofNat 3 i)
  | .gdmTxfsm, i => sample.gdmTxfsm gdmFsm (Fin.ofNat 3 i)
  | .gdmRxfsm, i => sample.gdmRxfsm gdmFsm (Fin.ofNat 3 i)
  | .cdmaRxfsm, _ => sample.cdmaRxfsm

/-- The hang condition of an engine, on its own registers and on their values at
the call before. -/
def OwnHang (soc : Soc) (engine : Engine) (before now : Sample) : Prop :=
  hangs soc now gdmFsm (values before) engine = true

def blank : Sample where
  r32 _ := 0
  running _ := false
  xgmii _ := false
  txPackets _ := 0
  rxPackets _ := 0
  rxFlowControlPackets _ := 0

/-- The driver between two calls, with the samples so far (the newest first) and
the writes and the reports of the last call. -/
structure State where
  reset : Reset
  history : List Sample
  writes : List (Engine × Cell)
  hangs : List Engine

def initial : State where
  reset := { cells := fun _ => 0, hangCount := fun _ => 0 }
  history := []
  writes := []
  hangs := []

def step (soc : Soc) (s : State) (now : Sample) : State :=
  let c := mtkHwCheckDmaHang soc now s.reset
  { reset := c.reset, history := now :: s.history, writes := c.writes, hangs := c.hangs }

/-- Each engine that is reported has met its own condition on this call and on the
two before, and no write has left its array or the cells of its engine. -/
def Correct (soc : Soc) (s : State) : Prop :=
  (∀ engine ∈ s.hangs, Held (OwnHang soc engine) blank 3 s.history) ∧
  ∀ w ∈ s.writes, InBounds w

/-- The test of the code, where it counts, agrees with the engine's own condition;
an engine that is counting is left out only if its own condition holds; and the
fourth ring is not in use when ADMA is reached. -/
def CallOk (soc : Soc) (s : State) (now : Sample) : Prop :=
  (∀ engine, Checked soc now s.reset engine → test soc now s.reset engine = true →
    OwnHang soc engine (s.history.headD blank) now) ∧
  (∀ engine, ¬ Checked soc now s.reset engine → s.reset.hangCount engine ≠ 0 →
    OwnHang soc engine (s.history.headD blank) now) ∧
  (Reached soc now s.reset (rank .admaRx) → now.ringUsed 3 = false)

structure Inv (soc : Soc) (s : State) : Prop where
  counting : ∀ engine, s.reset.hangCount engine ≤ 2
  streak : ∀ engine, Held (OwnHang soc engine) blank (s.reset.hangCount engine) s.history
  correct : Correct soc s

theorem bump_cases {count : Nat} (counting : count ≤ 2) :
    (count = 2 ∧ bump count = 0) ∨ (count ≤ 1 ∧ bump count = count + 1) := by
  have small : (count + 1) % 256 = count + 1 := by omega
  unfold bump
  rw [small]
  split <;> omega

theorem inv_step {soc : Soc} {s : State} {now : Sample} (inv : Inv soc s)
    (ok : CallOk soc s now) : Inv soc (step soc s now) := by
  obtain ⟨agrees, leaves, fourth⟩ := ok
  have call := mtkHwCheckDmaHang_done fourth
  refine ⟨?_, ?_, ?_, call.writes⟩
  · intro engine
    have before := inv.counting engine
    change (mtkHwCheckDmaHang soc now s.reset).reset.hangCount engine ≤ 2
    by_cases checked : Checked soc now s.reset engine
    · cases met : test soc now s.reset engine with
      | true =>
        rw [call.counted engine checked met]
        rcases bump_cases before with ⟨-, zero⟩ | ⟨low, up⟩ <;> omega
      | false =>
        rw [call.cleared engine checked met]
        omega
    · rw [call.left engine checked]
      exact before
  · intro engine
    change Held (OwnHang soc engine) blank
      ((mtkHwCheckDmaHang soc now s.reset).reset.hangCount engine) (now :: s.history)
    by_cases checked : Checked soc now s.reset engine
    · cases met : test soc now s.reset engine with
      | true =>
        rw [call.counted engine checked met]
        rcases bump_cases (inv.counting engine) with ⟨-, zero⟩ | ⟨-, up⟩
        · rw [zero]
          trivial
        · rw [up]
          exact ⟨agrees engine checked met, inv.streak engine⟩
      | false =>
        rw [call.cleared engine checked met]
        trivial
    · rw [call.left engine checked]
      exact held_cons (inv.streak engine) (leaves engine checked)
  · intro engine reported
    obtain ⟨checked, met, exceeded⟩ := call.hangs engine reported
    have before := inv.counting engine
    have two : s.reset.hangCount engine = 2 := by omega
    have streak := inv.streak engine
    rw [two] at streak
    exact ⟨agrees engine checked met, streak⟩

theorem inv_initial (soc : Soc) : Inv soc initial where
  counting _ := Nat.zero_le 2
  streak _ := trivial
  correct := ⟨fun _ member => (by cases member), fun _ member => (by cases member)⟩

/-- In a run whose calls all meet the condition, every report is sound. -/
theorem reports_sound (soc : Soc) (samples : List Sample)
    (guarded : Along (step soc) (CallOk soc) initial samples) :
    Correct soc (run (step soc) initial samples) :=
  (run_invariant (step soc) (CallOk soc) (Inv soc) (fun _ _ inv ok => inv_step inv ok) initial
    samples (inv_initial soc) guarded).correct

section Calls

def mt7988 : Soc where
  mt7628 := false
  netsysV2OrGreater := true
  psePort
    | .gdm i => if i = 0 then 1 else if i = 1 then 2 else 15
    | .wdma i => if i = 0 then 8 else if i = 1 then 9 else 13
    | .adma => 0
  MTK_TX_DMA_BUSY := 0x2
  MTK_RX_DMA_EN := 0x4

def qdmaHangs : Sample where
  r32
    | .qdma 0x234 => 0x100
    | _ => 0
  running _ := false
  xgmii _ := false
  txPackets _ := 0
  rxPackets _ := 0
  rxFlowControlPackets _ := 0

def fourthRing : Sample where
  r32
    | .pdmaRxPtr 3 => 1
    | _ => 0
  running _ := false
  xgmii _ := false
  txPackets _ := 0
  rxPackets _ := 0
  rxFlowControlPackets _ := 0

instance (soc : Soc) (now : Sample) (reset : Reset) (place : Nat) :
    Decidable (Reached soc now reset place) :=
  inferInstanceAs (Decidable (_ ∧ ∀ _ : Engine, _ → _))

instance (soc : Soc) (now : Sample) (reset : Reset) (engine : Engine) :
    Decidable (Checked soc now reset engine) :=
  inferInstanceAs (Decidable (_ ∧ _))

instance (soc : Soc) (engine : Engine) (before now : Sample) :
    Decidable (OwnHang soc engine before now) :=
  inferInstanceAs (Decidable (_ = _))

instance (soc : Soc) (s : State) (now : Sample) : Decidable (CallOk soc s now) :=
  inferInstanceAs (Decidable ((∀ _ : Engine, _ → _ → _) ∧ (∀ _ : Engine, _ → _ → _) ∧
    (_ → _)))

end Calls

/-- Three calls on which QDMA hangs. -/
theorem reports_sound_qdma :
    Correct mt7988 (run (step mt7988) initial [qdmaHangs, qdmaHangs, qdmaHangs]) ∧
      (run (step mt7988) initial [qdmaHangs, qdmaHangs, qdmaHangs]).hangs = [.qdmaTx] :=
  ⟨reports_sound mt7988 _ (by decide), by decide⟩

/-- One call on which the fourth ring is in use: it writes behind `adidx`. -/
theorem adidx_exceeded : ¬ ∀ (soc : Soc) (samples : List Sample),
    Correct soc (run (step soc) initial samples) := by
  intro correct
  have writes := (correct mt7988 [fourthRing]).2 (.admaRx, ⟨.adidx, 3⟩) (by decide)
  exact absurd writes.1 (by decide)

end OpenwrtSource.Ser.HangSoundness
