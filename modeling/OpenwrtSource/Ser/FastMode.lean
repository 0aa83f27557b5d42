import OpenwrtSource.Ser.EthPorts

/-!
# The two courses of a reset

A reset that detaches no PHY keeps its MACs out of the reset mask and restores
them itself.  The other course is never taken: the assignments of the mask that
follow drop the bit of the MACs, and the monitor clears a counter with the same
report that requests the reset.
-/

namespace OpenwrtSource.Ser.FastMode

open Lib.Run
open Ser.HangMonitor (Port Engine)
open Ser.EthPorts

/-! ## The two courses -/

structure Detached (r : Reset) : Prop where
  decided : ∀ powerdown, .decided powerdown ∈ r.log → powerdown = true
  ports : ∀ p ∈ r.restart, r.log.count (.detached p) = 1 ∧ r.log.count (.attached p) = 1 ∧
    r.attached p = true
  mask : ∃ mask, .warmReset mask ∈ r.log ∧ .eth ∈ mask
  skipped : ∀ p, .restored p ∉ r.log

structure Kept (r : Reset) : Prop where
  decided : ∀ powerdown, .decided powerdown ∈ r.log → powerdown = false
  ports : ∀ p ∈ r.restart, .detached p ∉ r.log ∧ .attached p ∉ r.log ∧ r.attached p = true ∧
    r.log.count (.restored p) = 1
  mask : ∀ mask, .warmReset mask ∈ r.log → .eth ∉ mask

def Consistent (r : Reset) : Prop :=
  (Detached r ∨ Kept r) ∧ (r.byGmac = true → Detached r)

/-! ## The mask -/

theorem eth_notMem_foldl (assigns : List Assign) (kept : ∀ a ∈ assigns, a ≠ .or .eth ∧ a ≠ .set .eth)
    (mask : List RstCtrl) (without : .eth ∉ mask) :
    RstCtrl.eth ∉ assigns.foldl Assign.apply mask := by
  induction assigns generalizing mask with
  | nil => exact without
  | cons a rest ih =>
    refine ih (fun b member => kept b (List.mem_cons_of_mem _ member)) _ ?_
    have here := kept a List.mem_cons_self
    cases a with
    | or bit =>
      have other : RstCtrl.eth ≠ bit := fun same => here.1 (by rw [same])
      simp [Assign.apply, without, other]
    | set bit =>
      have other : RstCtrl.eth ≠ bit := fun same => here.2 (by rw [same])
      simp [Assign.apply, other]

theorem eth_notMem_rstMask (soc : Soc) (powerdown startReset : Bool) (junk : List RstCtrl) :
    RstCtrl.eth ∉ rstMask soc powerdown startReset junk := by
  unfold rstMask maskAssigns
  rw [List.foldl_append]
  generalize (if powerdown then [Assign.or .eth] else []).foldl Assign.apply junk = decided
  cases soc.netsys with
  | v1 => simp [Assign.apply]
  | v2 =>
    rw [List.foldl_append]
    refine eth_notMem_foldl _ ?_ _ (by simp [Assign.apply])
    cases soc.hasPpe1 <;> simp
  | v3 =>
    rw [List.append_assoc, List.append_assoc, List.foldl_append]
    refine eth_notMem_foldl _ ?_ _ (by simp [Assign.apply])
    cases soc.hasPpe1 <;> cases soc.hasPpe2 <;> cases startReset <;> simp

/-! ## What holds between the steps -/

def Allowed : Record → Prop
  | .decided powerdown => powerdown = false
  | .detached _ | .attached _ => False
  | .warmReset mask => .eth ∉ mask
  | .restored _ => True

def InReset : Phase → Prop
  | .idle | .started => False
  | .handshake | .locked | .waitingAck _ => True

/-- `restart` of `mtk_pending_work`, where it holds the lock. -/
def resetRestart : Holder → Option (List Port)
  | .stopping true _ restart | .hwInit restart | .opening true _ restart
  | .closing true _ _ restart | .completing restart => some restart
  | _ => none

def unstopped : Holder → List Port
  | .stopping _ todo _ => todo
  | _ => []

structure Base (s : State) : Prop where
  resets : ∀ r ∈ s.resets, Kept r ∧ r.byGmac = false
  resetting : s.eth.resetting = true ↔ InReset s.phase
  allowed : s.eth.resetting = true → ∀ record ∈ s.log, Allowed record
  cause : s.phase ≠ .idle → s.byGmac = false
  unrestored : s.phase = .handshake ∨ s.phase = .locked → ∀ p, .restored p ∉ s.log
  restored : ∀ restart, s.phase = .waitingAck restart →
    ∀ p ∈ restart, s.attached p = true ∧ s.log.count (.restored p) = 1

structure Held (soc : Soc) (s : State) : Prop where
  locked : s.phase = .locked ↔ (resetRestart s.holder).isSome = true
  distinct : ∀ restart, resetRestart s.holder = some restart →
    (restart ++ unstopped s.holder).Nodup
  stopped : ∀ restart, resetRestart s.holder = some restart →
    ∀ p ∈ restart, soc.netdev p = true ∧ s.attached p = true
  unseen : (resetRestart s.holder).isSome = true →
    ∀ p ∈ unstopped s.holder, soc.netdev p = true → s.running p = true → s.attached p = true

structure Inv (soc : Soc) (s : State) : Prop where
  base : Base s
  held : Held soc s

/-- The step calls `mtk_open` or `mtk_stop`, resets the chip or restores the ports. -/
def Decides : Event → Prop
  | .devOpen _ _ | .devClose _ | .work _ _ _ _ => True
  | _ => False

structure Calm (soc : Soc) (s : State) (event : Event) : Prop where
  settled : s.eth.resetting = true → Decides event →
    ∀ i, s.eth.hangCount (.gmacTx i) ≤ 2 ∧ s.eth.hangCount (.gmacRx i) ≤ 2
  attached : event = .pendingWork → s.phase = .handshake →
    ∀ p, soc.netdev p = true → s.running p = true → s.attached p = true
  cause : event = .pendingWork → s.phase = .idle → s.gmacRequest = false

theorem powerdown_eq_false {eth : Eth} (resetting : eth.resetting = true)
    (settled : ∀ i, eth.hangCount (.gmacTx i) ≤ 2 ∧ eth.hangCount (.gmacRx i) ≤ 2) :
    mtkPhyShouldPowerdown eth = false := by
  have quiet : ∀ i ∈ List.finRange 3, ¬ ((decide (2 < eth.hangCount (.gmacTx i)) ||
      decide (2 < eth.hangCount (.gmacRx i))) = true) := by
    intro i _
    have here := settled i
    simp only [Bool.or_eq_true, decide_eq_true_eq, not_or, Nat.not_lt]
    exact here
  simp only [mtkPhyShouldPowerdown, resetting, Bool.not_true, Bool.false_or]
  rw [← Bool.not_eq_true, List.any_eq_true]
  rintro ⟨i, member, above⟩
  exact quiet i member above

theorem inv_probed (soc : Soc) : Inv soc probed where
  base := by
    refine ⟨?_, ?_, ?_, ?_, ?_, ?_⟩ <;> simp [probed, InReset]
  held := by
    refine ⟨?_, ?_, ?_, ?_⟩ <;> simp [probed, resetRestart]

section Steps

variable {soc : Soc} {s after : State}

theorem allowed_decided {log : List Record} (allowed : ∀ record ∈ log, Allowed record) (n : Nat) :
    ∀ record ∈ log ++ List.replicate n (.decided false), Allowed record := by
  intro record member
  rcases List.mem_append.mp member with old | new
  · exact allowed record old
  · rw [List.eq_of_mem_replicate new]
    rfl

theorem Base.calls (base : Base s) (calls : Calls s after)
    (calm : s.eth.resetting = true → mtkPhyShouldPowerdown s.eth = false) : Base after := by
  have inside : InReset s.phase → after.attached = s.attached ∧
      ∃ n, after.log = s.log ++ List.replicate n (.decided false) :=
    fun inReset => calls.kept (calm (base.resetting.mpr inReset))
  refine ⟨?_, ?_, ?_, ?_, ?_, ?_⟩
  · rw [calls.resets]
    exact base.resets
  · rw [calls.resetting, calls.phase]
    exact base.resetting
  · intro resetting
    rw [calls.resetting] at resetting
    obtain ⟨-, n, log⟩ := calls.kept (calm resetting)
    rw [log]
    exact allowed_decided (base.allowed resetting) n
  · rw [calls.phase, calls.byGmac]
    exact base.cause
  · rw [calls.phase]
    intro early p
    have inReset : InReset s.phase := by
      rcases early with phase | phase <;> rw [phase] <;> trivial
    obtain ⟨-, n, log⟩ := inside inReset
    have before := base.unrestored early p
    rw [log]
    simp [before, List.mem_replicate]
  · rw [calls.phase]
    intro restart phase p member
    obtain ⟨attached, n, log⟩ := inside (by rw [phase]; trivial)
    have before := base.restored restart phase p member
    rw [attached, log, List.count_append, before.2]
    exact ⟨before.1, by simp [List.count_replicate]⟩

theorem Base.congr (base : Base s) (resets : after.resets = s.resets)
    (phase : after.phase = s.phase) (resetting : after.eth.resetting = s.eth.resetting)
    (log : after.log = s.log) (byGmac : after.byGmac = s.byGmac)
    (attached : after.attached = s.attached) : Base after where
  resets := by rw [resets]; exact base.resets
  resetting := by rw [phase, resetting]; exact base.resetting
  allowed := by rw [resetting, log]; exact base.allowed
  cause := by rw [phase, byGmac]; exact base.cause
  unrestored := by rw [phase, log]; exact base.unrestored
  restored := by rw [phase, log, attached]; exact base.restored

theorem Held.congr (held : Held soc s) (phase : after.phase = s.phase)
    (holder : after.holder = s.holder) (attached : after.attached = s.attached)
    (running : after.running = s.running) : Held soc after where
  locked := by rw [phase, holder]; exact held.locked
  distinct := by rw [holder]; exact held.distinct
  stopped := by rw [holder, attached]; exact held.stopped
  unseen := by rw [holder, attached, running]; exact held.unseen

theorem Held.other (held : Held soc s) (outside : resetRestart s.holder = none)
    (phase : after.phase = s.phase) (holder : resetRestart after.holder = none) :
    Held soc after where
  locked := by
    rw [phase, held.locked, outside, holder]
  distinct restart found := by rw [holder] at found; cases found
  stopped restart found := by rw [holder] at found; cases found
  unseen found := by rw [holder] at found; cases found

variable {called : State} {restart : List Port}

theorem Inv.call (inv : Inv soc s) (calls : Calls s called)
    (calm : s.eth.resetting = true → mtkPhyShouldPowerdown s.eth = false)
    (outside : resetRestart s.holder = none) (running : Port → Bool) (holder : Holder)
    (other : resetRestart holder = none) : Inv soc { called with running, holder } where
  base := (inv.base.calls calls calm).congr rfl rfl rfl rfl rfl rfl
  held := inv.held.other outside calls.phase other

theorem Inv.ownCall (inv : Inv soc s) (calls : Calls s called)
    (calm : s.eth.resetting = true → mtkPhyShouldPowerdown s.eth = false)
    (own : resetRestart s.holder = some restart) (seen : unstopped s.holder = [])
    (running : Port → Bool) {holder : Holder} (same : resetRestart holder = some restart)
    (still : unstopped holder = []) : Inv soc { called with running, holder } where
  base := (inv.base.calls calls calm).congr rfl rfl rfl rfl rfl rfl
  held := by
    have locked : s.phase = .locked := by rw [inv.held.locked, own]; rfl
    have resetting : s.eth.resetting = true := by
      rw [inv.base.resetting, locked]
      trivial
    obtain ⟨attached, -⟩ := calls.kept (calm resetting)
    refine ⟨?_, ?_, ?_, ?_⟩
    · simp [calls.phase, locked, same]
    · intro r found
      have distinct := inv.held.distinct restart own
      rw [seen] at distinct
      rw [same, Option.some.injEq] at found
      simpa only [still, ← found] using distinct
    · intro r found
      rw [same, Option.some.injEq] at found
      rw [← found]
      simpa only [attached] using inv.held.stopped restart own
    · simp [still]

theorem inv_devOpen (inv : Inv soc s) (port : Port) (attempt : Attempt)
    (outside : resetRestart s.holder = none)
    (calm : s.eth.resetting = true → mtkPhyShouldPowerdown s.eth = false) :
    Inv soc (devOpen soc port attempt s) := by
  unfold devOpen
  split
  · exact inv
  · have calls := calls_openPort soc port attempt s
    have other : resetRestart (openPort soc port attempt s).2.holder = none := by
      rw [calls.holder, outside]
    exact inv.call calls calm outside _ _ other

theorem calls_devClose (soc : Soc) (s : State) (port : Port) :
    ∃ called, Calls s called ∧ ∃ running, devClose soc port s = { called with running } := by
  unfold devClose
  split
  · have calls := calls_stopPort soc port
      { s with running := Function.update s.running port false }
    exact ⟨_, ⟨calls.holder, calls.phase, calls.resets, calls.byGmac, calls.resetting,
      calls.kept, calls.masks⟩, _, rfl⟩
  · exact ⟨s, ⟨rfl, rfl, rfl, rfl, rfl, fun _ => ⟨rfl, 0, by simp⟩, fun _ => id⟩, s.running, rfl⟩

theorem inv_devClose (inv : Inv soc s) (port : Port) (outside : resetRestart s.holder = none)
    (calm : s.eth.resetting = true → mtkPhyShouldPowerdown s.eth = false) :
    Inv soc (devClose soc port s) := by
  obtain ⟨called, calls, running, closed⟩ := calls_devClose soc s port
  rw [closed]
  exact inv.call calls calm outside running _ (by rw [calls.holder, outside])

theorem inv_stopping (inv : Inv soc s) {port : Port} {todo : List Port}
    (holder : s.holder = .stopping true (port :: todo) restart)
    (calm : s.eth.resetting = true → mtkPhyShouldPowerdown s.eth = false)
    (present : soc.netdev port = true) (up : s.running port = true) :
    Inv soc { stopPort soc port s with holder := .stopping true todo (restart ++ [port]) } where
  base := (inv.base.calls (calls_stopPort soc port s) calm).congr rfl rfl rfl rfl rfl rfl
  held := by
    have own : resetRestart s.holder = some restart := by rw [holder]; rfl
    have locked : s.phase = .locked := by rw [inv.held.locked, own]; rfl
    have resetting : s.eth.resetting = true := by
      rw [inv.base.resetting, locked]
      trivial
    have calls := calls_stopPort soc port s
    obtain ⟨attached, -⟩ := calls.kept (calm resetting)
    have distinct := inv.held.distinct restart own
    have stopped := inv.held.stopped restart own
    have unseen := inv.held.unseen (by rw [own]; rfl)
    rw [holder] at distinct unseen
    refine ⟨?_, ?_, ?_, ?_⟩
    · simp [calls.phase, locked, resetRestart]
    · intro r found
      simp only [resetRestart, Option.some.injEq] at found
      simpa only [← found, unstopped, List.append_assoc, List.singleton_append] using distinct
    · intro r found p member
      simp only [resetRestart, Option.some.injEq] at found
      rw [← found] at member
      rcases List.mem_append.mp member with old | new
      · simpa only [attached] using stopped p old
      · rw [List.mem_singleton.mp new]
        refine ⟨present, ?_⟩
        simpa only [attached] using unseen port List.mem_cons_self present up
    · intro _ p member
      simp only [attached, stopPort_running]
      exact unseen p (List.mem_cons_of_mem _ member)

theorem Inv.move (inv : Inv soc s) (own : resetRestart s.holder = some restart) (holder : Holder)
    (same : resetRestart holder = some restart)
    (seen : (unstopped holder).Sublist (unstopped s.holder)) : Inv soc { s with holder } where
  base := inv.base.congr rfl rfl rfl rfl rfl rfl
  held := by
    have distinct := inv.held.distinct restart own
    have stopped := inv.held.stopped restart own
    have unseen := inv.held.unseen (by rw [own]; rfl)
    refine ⟨?_, ?_, ?_, ?_⟩
    · have locked : s.phase = .locked := by rw [inv.held.locked, own]; rfl
      simp [locked, same]
    · intro r found
      rw [same, Option.some.injEq] at found
      rw [← found]
      exact distinct.sublist (seen.append_left _)
    · intro r found
      rw [same, Option.some.injEq] at found
      rw [← found]
      exact stopped
    · intro _ p member
      exact unseen p (seen.subset member)

theorem Inv.advance (inv : Inv soc s) (holder : Holder)
    (same : resetRestart holder = resetRestart s.holder)
    (seen : (unstopped holder).Sublist (unstopped s.holder)) : Inv soc { s with holder } := by
  cases own : resetRestart s.holder with
  | some restart => exact inv.move own holder (same.trans own) seen
  | none =>
    exact ⟨inv.base.congr rfl rfl rfl rfl rfl rfl, inv.held.other own rfl (same.trans own)⟩

theorem inv_hwInit (inv : Inv soc s) (holder : s.holder = .hwInit restart)
    (calm : s.eth.resetting = true → mtkPhyShouldPowerdown s.eth = false) (startReset : Bool)
    (junk : List RstCtrl) :
    Inv soc { mtkHwWarmReset soc startReset junk s with
      holder := .opening true restart restart } := by
  have own : resetRestart s.holder = some restart := by rw [holder]; rfl
  have locked : s.phase = .locked := by rw [inv.held.locked, own]; rfl
  have resetting : s.eth.resetting = true := by
    rw [inv.base.resetting, locked]
    trivial
  have moved := inv.move own (.opening true restart restart) rfl
    (by simp [unstopped])
  refine ⟨⟨moved.base.resets, moved.base.resetting, ?_, moved.base.cause, ?_, ?_⟩,
    moved.held.congr rfl rfl rfl rfl⟩
  · intro _ record member
    simp only [mtkHwWarmReset, calm resetting] at member
    rcases List.mem_append.mp member with old | new
    · exact inv.base.allowed resetting record old
    · simp only [List.mem_cons, List.not_mem_nil, or_false] at new
      rcases new with rfl | rfl
      · rfl
      · exact eth_notMem_rstMask soc false startReset junk
  · intro early p member
    have before := inv.base.unrestored early p
    simp [mtkHwWarmReset, before] at member
  · intro r phase
    have here : s.phase = .waitingAck r := phase
    rw [locked] at here
    cases here

theorem count_restored (soc : Soc) (present : ∀ p ∈ restart, soc.netdev p = true) (p : Port)
    (member : p ∈ restart) :
    (((List.finRange 3).filter fun i => i ∈ restart ∧ soc.netdev i = true).map
      Record.restored).count (.restored p) = 1 := by
  have injective : Function.Injective Record.restored := fun _ _ same => Record.restored.inj same
  rw [List.count_map_of_injective _ _ injective]
  refine List.count_eq_one_of_mem ((List.nodup_finRange 3).filter _) ?_
  simp [member, present p member]

theorem inv_completing (inv : Inv soc s) (holder : s.holder = .completing restart)
    (calm : s.eth.resetting = true → mtkPhyShouldPowerdown s.eth = false) :
    Inv soc { mtkMacFeResetComplete soc restart s with
      holder := .free, phase := .waitingAck restart } := by
  have own : resetRestart s.holder = some restart := by rw [holder]; rfl
  have locked : s.phase = .locked := by rw [inv.held.locked, own]; rfl
  have resetting : s.eth.resetting = true := by
    rw [inv.base.resetting, locked]
    trivial
  have stopped := inv.held.stopped restart own
  have unrestored := inv.base.unrestored (.inr locked)
  unfold mtkMacFeResetComplete
  simp only [calm resetting, Bool.false_eq_true, if_false]
  refine ⟨⟨inv.base.resets, ?_, ?_, ?_, ?_, ?_⟩, ⟨?_, ?_, ?_, ?_⟩⟩
  · exact iff_of_true resetting trivial
  · intro _ record member
    rcases List.mem_append.mp member with before | new
    · exact allowed_decided (inv.base.allowed resetting) 1 record before
    · obtain ⟨p, -, rfl⟩ := List.mem_map.mp new
      trivial
  · intro _
    exact inv.base.cause (by rw [locked]; simp)
  · simp
  · intro r phase p member
    simp only [Phase.waitingAck.injEq] at phase
    rw [← phase] at member
    refine ⟨(stopped p member).2, ?_⟩
    rw [List.count_append, count_restored soc (fun p here => (stopped p here).1) p member,
      List.count_append]
    simp [List.count_eq_zero_of_not_mem (unrestored p)]
  · simp [resetRestart]
  · simp [resetRestart]
  · simp [resetRestart]
  · simp [resetRestart]

theorem inv_work (inv : Inv soc s) {attempt : Attempt} {startReset : Bool} {junk : List RstCtrl}
    {cold : Bool} (calm : s.eth.resetting = true → mtkPhyShouldPowerdown s.eth = false) :
    Inv soc (work soc attempt startReset junk cold s) := by
  unfold work
  split
  · exact inv
  · rename_i reset restart holder
    refine inv.advance _ ?_ ?_
    · rw [holder]
      cases reset <;> rfl
    · rw [holder]
      cases reset <;> exact List.nil_sublist _
  · rename_i reset port todo restart holder
    split
    · rename_i up
      rw [Bool.and_eq_true] at up
      cases reset with
      | true => exact inv_stopping inv holder calm up.1 up.2
      | false =>
        have outside : resetRestart s.holder = none := by rw [holder]; rfl
        exact inv.call (calls_stopPort soc port s) calm outside _ _ rfl
    · refine inv.advance _ ?_ ?_
      · rw [holder]
        cases reset <;> rfl
      · rw [holder]
        exact List.sublist_cons_self port todo
  · rename_i restart holder
    cases cold with
    | true =>
      refine inv.advance _ ?_ ?_
      · rw [holder]
        rfl
      · exact List.nil_sublist _
    | false => exact inv_hwInit inv holder calm startReset junk
  · rename_i reset restart holder
    refine inv.advance _ ?_ ?_
    · rw [holder]
      cases reset <;> rfl
    · rw [holder]
      cases reset <;> exact List.nil_sublist _
  · rename_i reset port todo restart holder
    have calls := calls_openPort soc port attempt s
    have same : ∀ ok : Bool, resetRestart (if ok then .opening reset todo restart
        else .closing reset port todo restart) = resetRestart s.holder := by
      intro ok
      rw [holder]
      cases ok <;> cases reset <;> rfl
    have seen : ∀ ok : Bool, unstopped (if ok then .opening reset todo restart
        else .closing reset port todo restart) = [] := by
      intro ok
      cases ok <;> rfl
    cases reset with
    | true =>
      have own : resetRestart s.holder = some restart := by rw [holder]; rfl
      exact inv.ownCall calls calm own (by simp [unstopped, holder]) _ ((same _).trans own)
        (seen _)
    | false =>
      have outside : resetRestart s.holder = none := by rw [holder]; rfl
      exact inv.call calls calm outside _ _ ((same _).trans outside)
  · rename_i reset port todo restart holder
    obtain ⟨called, calls, running, closed⟩ := calls_devClose soc s port
    rw [closed]
    cases reset with
    | true =>
      have own : resetRestart s.holder = some restart := by rw [holder]; rfl
      exact inv.ownCall calls calm own (by simp [unstopped, holder]) running rfl rfl
    | false =>
      have outside : resetRestart s.holder = none := by rw [holder]; rfl
      exact inv.call calls calm outside running _ rfl
  · rename_i restart holder
    exact inv_completing inv holder calm

theorem kept_of_allowed {r : Reset} (allowed : ∀ record ∈ r.log, Allowed record)
    (restored : ∀ p ∈ r.restart, r.attached p = true ∧ r.log.count (.restored p) = 1) : Kept r where
  decided _ member := allowed _ member
  ports p member :=
    ⟨fun found => allowed _ found, fun found => allowed _ found, restored p member⟩
  mask _ member := allowed _ member

theorem inv_pendingWork (inv : Inv soc s) (attached : s.phase = .handshake →
      ∀ p, soc.netdev p = true → s.running p = true → s.attached p = true)
    (cause : s.phase = .idle → s.gmacRequest = false) : Inv soc (pendingWork s) := by
  unfold pendingWork
  split
  · rename_i phase
    have outside : resetRestart s.holder = none := by
      rw [← Option.not_isSome_iff_eq_none, ← inv.held.locked, phase]
      simp
    have notResetting : ¬ s.eth.resetting = true := by
      rw [inv.base.resetting, phase]
      exact id
    split
    · refine ⟨⟨inv.base.resets, ?_, ?_, ?_, ?_, ?_⟩, ?_, ?_, ?_, ?_⟩
      · exact iff_of_false notResetting id
      · exact fun resetting => absurd resetting notResetting
      · intro _
        exact cause phase
      · simp
      · simp
      · simp [outside]
      · simp [outside]
      · simp [outside]
      · simp [outside]
    · exact inv
  · rename_i phase free
    have was := inv.base.cause (by rw [phase]; simp)
    refine ⟨⟨inv.base.resets, ?_, ?_, ?_, ?_, ?_⟩, ?_, ?_, ?_, ?_⟩
    · simp [InReset]
    · simp
    · exact fun _ => was
    · simp
    · simp
    · simp [free, resetRestart]
    · simp [free, resetRestart]
    · simp [free, resetRestart]
    · simp [free, resetRestart]
  · rename_i phase free
    have resetting : s.eth.resetting = true := by
      rw [inv.base.resetting, phase]
      trivial
    refine ⟨⟨inv.base.resets, ?_, inv.base.allowed, ?_, ?_, ?_⟩, ?_, ?_, ?_, ?_⟩
    · exact iff_of_true resetting trivial
    · exact fun _ => inv.base.cause (by rw [phase]; simp)
    · exact fun _ => inv.base.unrestored (.inl phase)
    · simp
    · simp [resetRestart]
    · simpa [resetRestart, unstopped] using List.nodup_finRange 3
    · simp [resetRestart]
    · intro _ p _
      exact attached phase p
  · rename_i restart phase free
    have resetting : s.eth.resetting = true := by
      rw [inv.base.resetting, phase]
      trivial
    refine ⟨⟨?_, ?_, ?_, ?_, ?_, ?_⟩, ?_, ?_, ?_, ?_⟩
    · intro r member
      rcases List.mem_append.mp member with old | new
      · exact inv.base.resets r old
      · rw [List.mem_singleton.mp new]
        exact ⟨kept_of_allowed (inv.base.allowed resetting) (inv.base.restored restart phase),
          inv.base.cause (by rw [phase]; simp)⟩
    · simp [InReset]
    · simp
    · simp
    · simp
    · simp
    · simp [free, resetRestart]
    · simp [free, resetRestart]
    · simp [free, resetRestart]
    · simp [free, resetRestart]
  · exact inv

theorem inv_step (inv : Inv soc s) {event : Event} (calm : Calm soc s event) :
    Inv soc (step soc s event) := by
  have quiet : Decides event → s.eth.resetting = true → mtkPhyShouldPowerdown s.eth = false :=
    fun decides resetting => powerdown_eq_false resetting (calm.settled resetting decides)
  have still : ∀ after : State, after.resets = s.resets → after.phase = s.phase →
      after.eth.resetting = s.eth.resetting → after.log = s.log → after.byGmac = s.byGmac →
      after.attached = s.attached → after.holder = s.holder → after.running = s.running →
      Inv soc after :=
    fun _ resets phase resetting log byGmac attached holder running =>
      ⟨inv.base.congr resets phase resetting log byGmac attached,
        inv.held.congr phase holder attached running⟩
  cases event with
  | devOpen port attempt =>
    unfold step
    dsimp only
    split
    · rename_i free
      exact inv_devOpen inv port attempt (by rw [free]; rfl) (quiet trivial)
    · exact inv
  | devClose port =>
    unfold step
    dsimp only
    split
    · rename_i free
      exact inv_devClose inv port (by rw [free]; rfl) (quiet trivial)
    · exact inv
  | netdevRestart =>
    unfold step
    dsimp only
    split
    · rename_i free
      have outside : resetRestart s.holder = none := by rw [free]; rfl
      exact ⟨inv.base.congr rfl rfl rfl rfl rfl rfl, inv.held.other outside rfl rfl⟩
    · exact inv
  | request => exact still _ rfl rfl rfl rfl rfl rfl rfl rfl
  | debugfsForce force => exact still _ rfl rfl rfl rfl rfl rfl rfl rfl
  | monitorStart =>
    unfold step
    dsimp only
    split
    · split
      · exact inv
      · exact still _ rfl rfl rfl rfl rfl rfl rfl rfl
    · exact inv
  | monitorCheck engine met =>
    unfold step monitorCheck
    dsimp only
    split
    · split <;> exact still _ rfl rfl rfl rfl rfl rfl rfl rfl
    · exact inv
  | monitorReport =>
    unfold step
    dsimp only
    split
    · exact still _ rfl rfl rfl rfl rfl rfl rfl rfl
    · exact inv
  | monitorEnd =>
    unfold step monitorEnd
    dsimp only
    split
    · exact still _ rfl rfl rfl rfl rfl rfl rfl rfl
    · split <;> exact still _ rfl rfl rfl rfl rfl rfl rfl rfl
    · exact inv
  | pendingWork => exact inv_pendingWork inv (calm.attached rfl) (calm.cause rfl)
  | work attempt startReset junk cold => exact inv_work inv (quiet trivial)

end Steps

/-! ## The course that is never taken -/

def MasksFree (log : List Record) : Prop := ∀ mask, .warmReset mask ∈ log → .eth ∉ mask

structure NoMacs (s : State) : Prop where
  log : MasksFree s.log
  resets : ∀ r ∈ s.resets, MasksFree r.log

section Steps

variable {soc : Soc} {s after : State}

theorem NoMacs.calls (free : NoMacs s) (calls : Calls s after) : NoMacs after where
  log mask member := free.log mask (calls.masks mask member)
  resets := by rw [calls.resets]; exact free.resets

theorem NoMacs.append (free : NoMacs s) {records : List Record}
    (new : ∀ mask, .warmReset mask ∈ records → .eth ∉ mask) : MasksFree (s.log ++ records) := by
  intro mask member
  rcases List.mem_append.mp member with old | late
  · exact free.log mask old
  · exact new mask late

theorem noMacs_devClose (soc : Soc) (free : NoMacs s) (port : Port) :
    NoMacs (devClose soc port s) := by
  obtain ⟨called, calls, running, closed⟩ := calls_devClose soc s port
  have called := free.calls calls
  rw [closed]
  exact ⟨called.log, called.resets⟩

theorem noMacs_work (free : NoMacs s) (attempt : Attempt) (startReset : Bool) (junk : List RstCtrl)
    (cold : Bool) : NoMacs (work soc attempt startReset junk cold s) := by
  unfold work
  split
  · exact free
  · exact ⟨free.log, free.resets⟩
  · rename_i reset port todo restart holder
    have called := free.calls (calls_stopPort soc port s)
    split
    · exact ⟨called.log, called.resets⟩
    · exact ⟨free.log, free.resets⟩
  · cases cold with
    | true => exact ⟨free.log, free.resets⟩
    | false =>
      refine ⟨free.append ?_, free.resets⟩
      intro mask member
      simp only [List.mem_cons, reduceCtorEq, Record.warmReset.injEq, List.not_mem_nil,
        or_false, false_or] at member
      rw [member]
      exact eth_notMem_rstMask soc _ startReset junk
  · exact ⟨free.log, free.resets⟩
  · rename_i reset port todo restart holder
    have called := free.calls (calls_openPort soc port attempt s)
    exact ⟨called.log, called.resets⟩
  · rename_i reset port todo restart holder
    have called := noMacs_devClose soc free port
    exact ⟨called.log, called.resets⟩
  · unfold mtkMacFeResetComplete
    dsimp only
    split
    · exact ⟨free.append (by simp), free.resets⟩
    · refine ⟨?_, free.resets⟩
      rw [List.append_assoc]
      exact free.append (by simp)

theorem noMacs_pendingWork (free : NoMacs s) : NoMacs (pendingWork s) := by
  unfold pendingWork
  split
  · split <;> exact ⟨free.log, free.resets⟩
  · exact ⟨fun _ member => absurd member List.not_mem_nil, free.resets⟩
  · exact ⟨free.log, free.resets⟩
  · refine ⟨free.log, ?_⟩
    intro r member
    rcases List.mem_append.mp member with old | new
    · exact free.resets r old
    · rw [List.mem_singleton.mp new]
      exact free.log
  · exact free

theorem noMacs_step (free : NoMacs s) (event : Event) : NoMacs (step soc s event) := by
  cases event with
  | devOpen port attempt =>
    have called := free.calls (calls_openPort soc port attempt s)
    unfold step devOpen
    dsimp only
    split
    · split
      · exact free
      · exact ⟨called.log, called.resets⟩
    · exact free
  | devClose port =>
    unfold step
    dsimp only
    split
    · exact noMacs_devClose _ free port
    · exact free
  | netdevRestart =>
    unfold step
    dsimp only
    split <;> exact ⟨free.log, free.resets⟩
  | request | debugfsForce _ => exact ⟨free.log, free.resets⟩
  | monitorStart =>
    unfold step
    dsimp only
    split
    · split <;> exact ⟨free.log, free.resets⟩
    · exact free
  | monitorCheck engine met =>
    unfold step monitorCheck
    dsimp only
    split
    · split <;> exact ⟨free.log, free.resets⟩
    · exact free
  | monitorReport =>
    unfold step
    dsimp only
    split <;> exact ⟨free.log, free.resets⟩
  | monitorEnd =>
    unfold step monitorEnd
    dsimp only
    split
    · exact ⟨free.log, free.resets⟩
    · split <;> exact ⟨free.log, free.resets⟩
    · exact free
  | pendingWork => exact noMacs_pendingWork free
  | work attempt startReset junk cold => exact noMacs_work free attempt startReset junk cold

end Steps

/-- In a run whose steps all are calm, every reset keeps to one course.  In any run, one
that does so leaves the PHYs alone, and no GMAC hang has requested it. -/
theorem resets_consistent (soc : Soc) (events : List Event) :
    (Along (step soc) (Calm soc) probed events →
      ∀ r ∈ (run (step soc) probed events).resets, Consistent r) ∧
    ∀ r ∈ (run (step soc) probed events).resets, Consistent r → Kept r ∧ r.byGmac = false := by
  constructor
  · intro calm r member
    have inv := run_invariant (step soc) (Calm soc) (Inv soc)
      (fun _ _ inv calm => inv_step inv calm) probed events (inv_probed soc) calm
    obtain ⟨kept, other⟩ := inv.base.resets r member
    exact ⟨.inr kept, fun byGmac => absurd byGmac (by rw [other]; decide)⟩
  · intro r member consistent
    have free := run_invariant (step soc) (fun _ _ => True) NoMacs
      (fun _ event free _ => noMacs_step free event) probed events
      ⟨by simp [probed, MasksFree], by simp [probed]⟩
      (along_of_forall _ _ _ _ fun _ _ _ => trivial)
    have never : ¬ Detached r := by
      intro detached
      obtain ⟨mask, reset, inside⟩ := detached.mask
      exact free.resets r member mask reset inside
    refine ⟨consistent.1.resolve_left never, ?_⟩
    rw [← Bool.not_eq_true]
    exact fun byGmac => never (consistent.2 byGmac)

/-! ## Two resets of a port that runs -/

instance (event : Event) : Decidable (Decides event) := by
  cases event <;> unfold Decides <;> infer_instance

instance (soc : Soc) (s : State) (event : Event) : Decidable (Calm soc s event) :=
  decidable_of_iff
    ((s.eth.resetting = true → Decides event →
        ∀ i, s.eth.hangCount (.gmacTx i) ≤ 2 ∧ s.eth.hangCount (.gmacRx i) ≤ 2) ∧
      (event = .pendingWork → s.phase = .handshake →
        ∀ p, soc.netdev p = true → s.running p = true → s.attached p = true) ∧
      (event = .pendingWork → s.phase = .idle → s.gmacRequest = false))
    ⟨fun ⟨settled, attached, cause⟩ => ⟨settled, attached, cause⟩,
      fun calm => ⟨calm.settled, calm.attached, calm.cause⟩⟩

def twoPorts : Soc where
  netsys := .v3
  hasPpe1 := true
  hasPpe2 := true
  hasRss := false
  rssNum := 4
  hwlro := false
  netdev := fun p => decide (p ≠ 2)

def works : Attempt := { startDma := true, phyConnect := true }

/-- `mtk_pending_work` from its request to its end. -/
def resetEvents : List Event :=
  [.pendingWork, .pendingWork, .pendingWork] ++
    List.replicate 8 (.work works false [] false) ++ [.pendingWork]

def requestedRun : List Event := [.devOpen 1 works, .request] ++ resetEvents

theorem resets_consistent_requestedRun :
    (run (step twoPorts) probed requestedRun).resets.length = 1 ∧
      ∀ r ∈ (run (step twoPorts) probed requestedRun).resets, Consistent r :=
  ⟨by decide, (resets_consistent twoPorts requestedRun).1 (by decide)⟩

def gmacRun : List Event :=
  [.devOpen 0 works, .debugfsForce true] ++
    [.monitorStart, .monitorCheck (.gmacTx 0) true, .monitorEnd] ++
    [.monitorStart, .monitorCheck (.gmacTx 0) true, .monitorEnd] ++
    [.monitorStart, .monitorCheck (.gmacTx 0) true, .monitorReport, .monitorEnd] ++ resetEvents

/-- The reset that the monitor requests for its GMAC hang leaves the GMAC alone. -/
theorem gmac_not_reset :
    ¬ ∀ (soc : Soc) (events : List Event),
      ∀ r ∈ (run (step soc) probed events).resets, Consistent r := by
  intro always
  have one : (run (step twoPorts) probed gmacRun).resets.length = 1 := by decide
  obtain ⟨r, only⟩ := List.length_eq_one_iff.mp one
  have member : r ∈ (run (step twoPorts) probed gmacRun).resets := by simp [only]
  have byGmac : ∀ r ∈ (run (step twoPorts) probed gmacRun).resets, r.byGmac = true := by decide
  have attached : ∀ r ∈ (run (step twoPorts) probed gmacRun).resets,
      .decided false ∈ r.log := by decide
  have detached := (always twoPorts gmacRun r member).2 (byGmac r member)
  exact absurd (detached.decided false (attached r member)) (by decide)

end OpenwrtSource.Ser.FastMode
