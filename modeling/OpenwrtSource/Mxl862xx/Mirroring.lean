import Mathlib.Data.List.FinRange
import Mathlib.Tactic.SplitIfs
import OpenwrtSource.Lib.Run

/-!
# Port mirroring

`port_mirror_add` sets both direction bits of a port from one flag, `port_mirror_del` sets
them from the driver's records and looks through these for the last mirror.  Switch
commands succeed.
-/

namespace OpenwrtSource.Mxl862xx.Mirroring

open Lib.Run

/-- `struct dsa_mall_mirror_tc_entry`. -/
structure MirrorEntry where
  toLocalPort : Nat
  ingress : Bool

/-- What `struct mxl862xx_port_info` records of the mirrors. -/
structure PortInfo where
  ingressMirrorEnabled : Bool := false
  egressMirrorEnabled : Bool := false

/-- The fields of a CTP port under `MXL862XX_CTP_PORT_CONFIG_LOOPBACK_AND_MIRROR`. -/
structure LoopbackAndMirror where
  ingressLoopbackEnable : Bool := false
  ingressDaSaSwapEnable : Bool := false
  egressLoopbackEnable : Bool := false
  egressDaSaSwapEnable : Bool := false
  ingressMirrorEnable : Bool := false
  egressMirrorEnable : Bool := false

/-- The driver's records of the `n` ports, and the switch. -/
structure World (n : Nat) where
  portInfo : Fin n → PortInfo
  ctpPort : Fin n → LoopbackAndMirror
  /-- `port_id` of the monitor port, 0 when it is released. -/
  monitorPort : Nat

/-- `DSA_MXL_PORT`. -/
def mxlPort (port : Nat) : Nat := port + 1

variable {n : Nat}

/-- `MXL862XX_CTP_PORTCONFIGSET`. -/
def World.ctpPortConfigSet (w : World n) (port : Fin n) (param : LoopbackAndMirror) : World n :=
  { w with ctpPort := Function.update w.ctpPort port param }

/-- `MXL862XX_COMMON_MONITORPORTCFGSET`. -/
def World.monitorPortCfgSet (w : World n) (portId : Nat) : World n :=
  { w with monitorPort := portId }

def PortInfo.record (info : PortInfo) (mirror : MirrorEntry) (enabled : Bool) : PortInfo :=
  if mirror.ingress then { info with ingressMirrorEnabled := enabled }
  else { info with egressMirrorEnabled := enabled }

def World.record (w : World n) (port : Fin n) (mirror : MirrorEntry) (enabled : Bool) : World n :=
  { w with
    portInfo := Function.update w.portInfo port ((w.portInfo port).record mirror enabled) }

def mxl862xxPortMirrorAdd (w : World n) (port : Fin n) (mirror : MirrorEntry) (ingress : Bool) :
    World n :=
  let ctpPort : LoopbackAndMirror :=
    { w.ctpPort port with ingressMirrorEnable := ingress, egressMirrorEnable := !ingress }
  ((w.ctpPortConfigSet port ctpPort).monitorPortCfgSet (mxlPort mirror.toLocalPort)).record port
    mirror true

def activeMirrors (unused : Fin n → Bool) (portInfo : Fin n → PortInfo) : Bool :=
  (List.finRange n).any fun i =>
    !unused i && ((portInfo i).egressMirrorEnabled || (portInfo i).egressMirrorEnabled)

def mxl862xxPortMirrorDel (unused : Fin n → Bool) (w : World n) (port : Fin n)
    (mirror : MirrorEntry) : World n :=
  let w := w.record port mirror false
  let param : LoopbackAndMirror :=
    { ingressMirrorEnable := (w.portInfo port).ingressMirrorEnabled
      egressMirrorEnable := (w.portInfo port).egressMirrorEnabled }
  let w := w.ctpPortConfigSet port param
  if activeMirrors unused w.portInfo then w else w.monitorPortCfgSet 0

/-- A call for a mirror of one direction; the DSA core passes the entry's own. -/
inductive Call (n : Nat) where
  | add (port : Fin n) (ingress : Bool)
  | del (port : Fin n) (ingress : Bool)

/-- The world, and how many mirrors of a direction are installed on a port. -/
structure State (n : Nat) where
  world : World n
  installed : Fin n → Bool → Nat

def State.count (s : State n) (port : Fin n) (ingress : Bool) (count : Nat) :
    Fin n → Bool → Nat :=
  Function.update s.installed port (Function.update (s.installed port) ingress count)

def step (unused : Fin n → Bool) (monitor : Nat) (s : State n) : Call n → State n
  | .add port ingress =>
    ⟨mxl862xxPortMirrorAdd s.world port ⟨monitor, ingress⟩ ingress,
      s.count port ingress (s.installed port ingress + 1)⟩
  | .del port ingress =>
    ⟨mxl862xxPortMirrorDel unused s.world port ⟨monitor, ingress⟩,
      s.count port ingress (s.installed port ingress - 1)⟩

/-- Mirrors are on ports in use, and a mirror that is taken away was installed. -/
def Lawful (unused : Fin n → Bool) (s : State n) : Call n → Prop
  | .add port _ => unused port = false
  | .del port ingress => 0 < s.installed port ingress

def start : State n where
  world := ⟨fun _ => {}, fun _ => {}, 0⟩
  installed := fun _ _ => 0

def LoopbackAndMirror.enabled (config : LoopbackAndMirror) (ingress : Bool) : Bool :=
  if ingress then config.ingressMirrorEnable else config.egressMirrorEnable

/-- Some mirror of either direction is installed on some port. -/
def AnyLeft (s : State n) : Prop := ∃ port ingress, 0 < s.installed port ingress

/-- A direction of a port is mirrored exactly if a mirror of it is installed, and the
monitor port is released exactly if none is. -/
structure Mirrors (s : State n) : Prop where
  enabled : ∀ port ingress,
    (s.world.ctpPort port).enabled ingress = true ↔ 0 < s.installed port ingress
  released : s.world.monitorPort = 0 ↔ ¬ AnyLeft s

/-- A mirror is added to a port without one of the other direction.  One that is taken away
is the last of its direction on the port, and leaves an egress mirror somewhere or no mirror
at all. -/
def Fits (s : State n) : Call n → Prop
  | .add port ingress => s.installed port (!ingress) = 0
  | .del port ingress =>
    s.installed port ingress = 1 ∧
      ((∃ i, 0 < s.installed i false ∧ ¬ (i = port ∧ ingress = false)) ∨
        ∀ i other, 0 < s.installed i other → i = port ∧ other = ingress)

def PortInfo.enabled (info : PortInfo) (ingress : Bool) : Bool :=
  if ingress then info.ingressMirrorEnabled else info.egressMirrorEnabled

structure Inv (unused : Fin n → Bool) (s : State n) : Prop where
  mirrors : Mirrors s
  recorded : ∀ port ingress,
    (s.world.portInfo port).enabled ingress = true ↔ 0 < s.installed port ingress
  used : ∀ port ingress, 0 < s.installed port ingress → unused port = false

theorem inv_start (unused : Fin n → Bool) : Inv unused start where
  mirrors :=
    { enabled := by
        intro port ingress
        cases ingress <;> simp [start, LoopbackAndMirror.enabled]
      released := by simp [start, AnyLeft] }
  recorded := by
    intro port ingress
    cases ingress <;> simp [start, PortInfo.enabled]
  used := by
    intro port ingress some_
    exact absurd some_ (Nat.lt_irrefl 0)

theorem enabled_record (info : PortInfo) (mirror : MirrorEntry) (enabled ingress : Bool) :
    (info.record mirror enabled).enabled ingress =
      if ingress = mirror.ingress then enabled else info.enabled ingress := by
  unfold PortInfo.record PortInfo.enabled
  cases mirror.ingress <;> cases ingress <;> rfl

theorem count_apply (s : State n) (port : Fin n) (ingress : Bool) (c : Nat) (i : Fin n)
    (other : Bool) :
    s.count port ingress c i other = if i = port ∧ other = ingress then c
      else s.installed i other := by
  unfold State.count
  by_cases here : i = port
  · subst here
    by_cases same : other = ingress
    · simp [same]
    · simp [same]
  · simp [here]

theorem activeMirrors_iff (unused : Fin n → Bool) (portInfo : Fin n → PortInfo) :
    activeMirrors unused portInfo = true ↔
      ∃ i, unused i = false ∧ (portInfo i).enabled false = true := by
  unfold activeMirrors PortInfo.enabled
  simp

section Steps

variable {unused : Fin n → Bool} {monitor : Nat} {s : State n}

theorem record_apply (w : World n) (port : Fin n) (mirror : MirrorEntry) (enabled : Bool)
    (i : Fin n) (other : Bool) :
    ((w.record port mirror enabled).portInfo i).enabled other =
      if i = port ∧ other = mirror.ingress then enabled else (w.portInfo i).enabled other := by
  unfold World.record
  by_cases here : i = port
  · subst here
    simp [enabled_record]
  · simp [here]

theorem ctpPort_add (port i : Fin n) (ingress other : Bool) :
    ((step unused monitor s (.add port ingress)).world.ctpPort i).enabled other =
      if i = port then decide (other = ingress)
      else (s.world.ctpPort i).enabled other := by
  show (Function.update s.world.ctpPort port { s.world.ctpPort port with
    ingressMirrorEnable := ingress, egressMirrorEnable := !ingress } i).enabled other = _
  by_cases here : i = port
  · rw [here, Function.update_self, if_pos rfl]
    cases other <;> cases ingress <;> rfl
  · rw [Function.update_of_ne here, if_neg here]

theorem portInfo_add (port i : Fin n) (ingress other : Bool) :
    ((step unused monitor s (.add port ingress)).world.portInfo i).enabled other =
      if i = port ∧ other = ingress then true else (s.world.portInfo i).enabled other :=
  record_apply _ port ⟨monitor, ingress⟩ true i other

theorem portInfo_del (port i : Fin n) (ingress other : Bool) :
    ((step unused monitor s (.del port ingress)).world.portInfo i).enabled other =
      if i = port ∧ other = ingress then false else (s.world.portInfo i).enabled other := by
  have recorded := record_apply s.world port ⟨monitor, ingress⟩ false i other
  have kept : (step unused monitor s (.del port ingress)).world.portInfo =
      (s.world.record port ⟨monitor, ingress⟩ false).portInfo := by
    show (mxl862xxPortMirrorDel unused s.world port ⟨monitor, ingress⟩).portInfo = _
    unfold mxl862xxPortMirrorDel
    dsimp only
    split_ifs <;> rfl
  rw [kept]
  exact recorded

theorem ctpPort_del (port i : Fin n) (ingress other : Bool) :
    ((step unused monitor s (.del port ingress)).world.ctpPort i).enabled other =
      if i = port then
        if other = ingress then false else (s.world.portInfo port).enabled other
      else (s.world.ctpPort i).enabled other := by
  have recorded := record_apply s.world port ⟨monitor, ingress⟩ false port other
  have written : (step unused monitor s (.del port ingress)).world.ctpPort i =
      Function.update s.world.ctpPort port
        { ingressMirrorEnable :=
            ((s.world.record port ⟨monitor, ingress⟩ false).portInfo port).ingressMirrorEnabled
          egressMirrorEnable :=
            ((s.world.record port ⟨monitor, ingress⟩ false).portInfo port).egressMirrorEnabled }
        i := by
    show (mxl862xxPortMirrorDel unused s.world port ⟨monitor, ingress⟩).ctpPort i = _
    unfold mxl862xxPortMirrorDel
    dsimp only
    split_ifs <;> rfl
  rw [written]
  by_cases here : i = port
  · rw [here, Function.update_self, if_pos rfl]
    simp only [true_and] at recorded
    exact recorded
  · rw [Function.update_of_ne here, if_neg here]

theorem monitorPort_del (port : Fin n) (ingress : Bool) :
    (step unused monitor s (.del port ingress)).world.monitorPort =
      if ∃ i, unused i = false ∧ (s.world.portInfo i).enabled false = true ∧
        ¬ (i = port ∧ ingress = false) then s.world.monitorPort else 0 := by
  have active : activeMirrors unused (s.world.record port ⟨monitor, ingress⟩ false).portInfo =
      true ↔ ∃ i, unused i = false ∧ (s.world.portInfo i).enabled false = true ∧
        ¬ (i = port ∧ ingress = false) := by
    rw [activeMirrors_iff]
    refine exists_congr fun i => and_congr_right fun _ => ?_
    rw [record_apply]
    by_cases gone : i = port ∧ ingress = false
    · rw [if_pos ⟨gone.1, gone.2.symm⟩]
      simp [gone]
    · rw [if_neg fun both => gone ⟨both.1, both.2.symm⟩]
      simp [gone]
  show (mxl862xxPortMirrorDel unused s.world port ⟨monitor, ingress⟩).monitorPort = _
  unfold mxl862xxPortMirrorDel
  dsimp only
  by_cases left : activeMirrors unused (s.world.record port ⟨monitor, ingress⟩ false).portInfo =
      true
  · rw [if_pos (active.mp left)]
    exact (apply_ite World.monitorPort _ _ _).trans (if_pos left)
  · rw [if_neg fun some_ => left (active.mpr some_)]
    exact (apply_ite World.monitorPort _ _ _).trans (if_neg left)

theorem installed_add (port i : Fin n) (ingress other : Bool) :
    (step unused monitor s (.add port ingress)).installed i other =
      if i = port ∧ other = ingress then s.installed port ingress + 1
      else s.installed i other :=
  count_apply s port ingress _ i other

theorem installed_del (port i : Fin n) (ingress other : Bool) :
    (step unused monitor s (.del port ingress)).installed i other =
      if i = port ∧ other = ingress then s.installed port ingress - 1
      else s.installed i other :=
  count_apply s port ingress _ i other

theorem anyLeft_add (port : Fin n) (ingress : Bool) :
    AnyLeft (step unused monitor s (.add port ingress)) := by
  refine ⟨port, ingress, ?_⟩
  rw [installed_add, if_pos ⟨rfl, rfl⟩]
  exact Nat.succ_pos _

theorem anyLeft_del {port : Fin n} {ingress : Bool} (last : s.installed port ingress = 1) :
    AnyLeft (step unused monitor s (.del port ingress)) ↔
      ∃ i other, 0 < s.installed i other ∧ ¬ (i = port ∧ other = ingress) := by
  refine exists_congr fun i => exists_congr fun other => ?_
  rw [installed_del]
  by_cases gone : i = port ∧ other = ingress
  · rw [if_pos gone, last]
    simp [gone]
  · rw [if_neg gone]
    exact (and_iff_left gone).symm

theorem inv_add {port : Fin n} {ingress : Bool} (inv : Inv unused s)
    (used : unused port = false) (alone : s.installed port (!ingress) = 0) :
    Inv unused (step unused monitor s (.add port ingress)) where
  mirrors :=
    { enabled := by
        intro i other
        rw [ctpPort_add, installed_add]
        by_cases here : i = port
        · rw [if_pos here, here]
          by_cases same : other = ingress
          · rw [if_pos ⟨rfl, same⟩, decide_eq_true same]
            exact iff_of_true rfl (Nat.succ_pos _)
          · rw [if_neg fun both => same both.2, decide_eq_false same,
              Bool.eq_not.mpr same, alone]
            exact iff_of_false Bool.false_ne_true (Nat.lt_irrefl 0)
        · rw [if_neg here, if_neg fun both => here both.1]
          exact inv.mirrors.enabled i other
      released :=
        iff_of_false (Nat.succ_ne_zero monitor) (not_not.mpr (anyLeft_add port ingress)) }
  recorded := by
    intro i other
    rw [portInfo_add, installed_add]
    split_ifs with here
    · exact iff_of_true rfl (Nat.succ_pos _)
    · exact inv.recorded i other
  used := by
    intro i other some_
    rw [installed_add] at some_
    split_ifs at some_ with here
    · rw [here.1]
      exact used
    · exact inv.used i other some_

theorem monitorPort_del_iff {port : Fin n} {ingress : Bool} (inv : Inv unused s)
    (some_ : 0 < s.installed port ingress) :
    (step unused monitor s (.del port ingress)).world.monitorPort = 0 ↔
      ¬ ∃ i, 0 < s.installed i false ∧ ¬ (i = port ∧ ingress = false) := by
  have held : s.world.monitorPort ≠ 0 :=
    fun zero => inv.mirrors.released.mp zero ⟨port, ingress, some_⟩
  have left : (∃ i, unused i = false ∧ (s.world.portInfo i).enabled false = true ∧
        ¬ (i = port ∧ ingress = false)) ↔
      ∃ i, 0 < s.installed i false ∧ ¬ (i = port ∧ ingress = false) := by
    refine exists_congr fun i => ?_
    rw [inv.recorded]
    exact ⟨fun all => all.2, fun both => ⟨inv.used i false both.1, both⟩⟩
  rw [monitorPort_del, ← left]
  split_ifs with some_
  · exact iff_of_false held (not_not.mpr some_)
  · exact iff_of_true rfl some_

theorem inv_del {port : Fin n} {ingress : Bool} (inv : Inv unused s)
    (fits : Fits s (.del port ingress)) :
    Inv unused (step unused monitor s (.del port ingress)) where
  mirrors :=
    { enabled := by
        intro i other
        rw [ctpPort_del, installed_del]
        by_cases here : i = port
        · rw [if_pos here, here]
          by_cases same : other = ingress
          · rw [if_pos same, if_pos ⟨rfl, same⟩, fits.1]
            exact iff_of_false Bool.false_ne_true (Nat.lt_irrefl 0)
          · rw [if_neg same, if_neg fun both => same both.2]
            exact inv.recorded port other
        · rw [if_neg here, if_neg fun both => here both.1]
          exact inv.mirrors.enabled i other
      released := by
        have some_ : 0 < s.installed port ingress := by rw [fits.1]; exact Nat.one_pos
        rw [monitorPort_del_iff inv some_, anyLeft_del fits.1]
        refine not_congr ⟨?_, ?_⟩
        · rintro ⟨i, egress, other⟩
          exact ⟨i, false, egress, fun both => other ⟨both.1, both.2.symm⟩⟩
        · rintro ⟨i, other, left, apart⟩
          rcases fits.2 with egress | last
          · exact egress
          · exact absurd (last i other left) apart }
  recorded := by
    intro i other
    rw [portInfo_del, installed_del]
    by_cases here : i = port ∧ other = ingress
    · rw [if_pos here, if_pos here, fits.1]
      exact iff_of_false Bool.false_ne_true (Nat.lt_irrefl 0)
    · rw [if_neg here, if_neg here]
      exact inv.recorded i other
  used := by
    intro i other some_
    rw [installed_del] at some_
    split_ifs at some_ with here
    · rw [fits.1] at some_
      exact absurd some_ (Nat.lt_irrefl 0)
    · exact inv.used i other some_

theorem lost_add {port : Fin n} {ingress : Bool} (other : s.installed port (!ingress) ≠ 0) :
    ¬ Mirrors (step unused monitor s (.add port ingress)) := by
  intro mirrors
  have enabled := mirrors.enabled port (!ingress)
  rw [ctpPort_add, installed_add, if_pos rfl, if_neg fun both => Bool.not_ne_self _ both.2,
    decide_eq_false (Bool.not_ne_self _)] at enabled
  exact Bool.false_ne_true (enabled.mpr (Nat.pos_of_ne_zero other))

theorem lost_del {port : Fin n} {ingress : Bool} (inv : Inv unused s)
    (some_ : 0 < s.installed port ingress) (unfit : ¬ Fits s (.del port ingress)) :
    ¬ Mirrors (step unused monitor s (.del port ingress)) := by
  intro mirrors
  -- the direction is off on the port, so this mirror was the last
  have last : s.installed port ingress = 1 := by
    have enabled := mirrors.enabled port ingress
    rw [ctpPort_del, installed_del, if_pos rfl, if_pos rfl, if_pos ⟨rfl, rfl⟩] at enabled
    have none_ : ¬ 0 < s.installed port ingress - 1 :=
      fun more => Bool.false_ne_true (enabled.mpr more)
    omega
  -- no egress mirror is left, so the monitor port is released
  have noEgress : ¬ ∃ i, 0 < s.installed i false ∧ ¬ (i = port ∧ ingress = false) :=
    fun egress => unfit ⟨last, .inl egress⟩
  have gone := mirrors.released.mp ((monitorPort_del_iff inv some_).mpr noEgress)
  rw [anyLeft_del last] at gone
  refine unfit ⟨last, .inr fun i other left => ?_⟩
  by_contra apart
  exact gone ⟨i, other, left, apart⟩

end Steps

/-- The switch mirrors what is installed after each call exactly if each call fits the
mirrors that are installed. -/
theorem mirrors_iff (unused : Fin n → Bool) (monitor : Nat) (calls : List (Call n))
    (lawful : Along (step unused monitor) (Lawful unused) start calls) :
    (∀ k, Mirrors (run (step unused monitor) start (calls.take k))) ↔
      Along (step unused monitor) Fits start calls := by
  refine always_iff_along_within (step unused monitor) (Lawful unused) Fits (Inv unused) Mirrors
    (fun _ inv => inv.mirrors) ?_ ?_ start calls (inv_start unused) lawful
  · intro s call inv law fits
    cases call with
    | add port ingress => exact inv_add inv law fits
    | del port ingress => exact inv_del inv fits
  · intro s call inv law unfit
    cases call with
    | add port ingress => exact lost_add unfit
    | del port ingress => exact lost_del inv law unfit

/-- An egress mirror behind an ingress mirror of the port. -/
theorem ingressSwitchedOff : ¬ ∀ (n : Nat) (unused : Fin n → Bool) (monitor : Nat)
    (calls : List (Call n)), Along (step unused monitor) (Lawful unused) start calls →
      ∀ k, Mirrors (run (step unused monitor) start (calls.take k)) := by
  intro always
  have mirrors := always 2 (fun _ => false) 1 [.add 0 true, .add 0 false] ⟨rfl, rfl, trivial⟩ 2
  exact absurd ((mirrors.enabled 0 true).mpr (by decide)) (by decide)

/-- One mirror that comes and goes. -/
theorem oneMirror :
    ((∀ k, Mirrors (run (step (fun _ : Fin 2 => false) 1) start
        (([.add 0 true, .del 0 true] : List (Call 2)).take k))) ↔
      Along (step (fun _ : Fin 2 => false) 1) Fits start [.add 0 true, .del 0 true]) ∧
    Along (step (fun _ : Fin 2 => false) 1) Fits start [.add 0 true, .del 0 true] := by
  refine ⟨mirrors_iff _ 1 _ ⟨rfl, Nat.one_pos, trivial⟩, rfl, ⟨rfl, .inr ?_⟩, trivial⟩
  decide

end OpenwrtSource.Mxl862xx.Mirroring
