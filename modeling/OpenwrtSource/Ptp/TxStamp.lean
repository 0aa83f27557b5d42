import Mathlib.Data.List.Nodup
import OpenwrtSource.Lib.Run

/-!
# Transmit timestamps

`mtk_ptp_hwtstamp_process_tx` leaves a completed packet, its class and the time in one slot of
the MAC and schedules `mtk_ptp_hwtstamp_tx_work`, which looks for the packet's timestamp, comes
again while there is none, and clears the slot at its end.  Both go on in steps of one access to
the slot each, in any order between them.
-/

namespace OpenwrtSource.Ptp.TxStamp

open Lib.Run

universe u
variable {Packet : Type u}

/-! ## The packets -/

def PTP_CLASS_NONE : BitVec 32 := 0x00
def PTP_CLASS_L2 : BitVec 32 := 0x40
def PTP_CLASS_PMASK : BitVec 32 := 0x70
def PTP_CLASS_VLAN : BitVec 32 := 0x80
def VLAN_HLEN : Nat := 4
def ETH_HLEN : Nat := 14
def OFF_PTP_SEQUENCE_ID : Nat := 30
def SYNC : BitVec 8 := 0x0
def DELAY_REQ : BitVec 8 := 0x1
def PDELAY_REQ : BitVec 8 := 0x2
def PDELAY_RESP : BitVec 8 := 0x3

/-- The bytes from `skb_mac_header` on, and `ptp_classify_raw`. -/
structure Frames (Packet : Type u) where
  bytes : Packet → Nat → BitVec 8
  classify : Packet → BitVec 32

structure Key where
  seqid : BitVec 16
  msgtype : BitVec 8
deriving DecidableEq

def headerOffset (ptpClass : BitVec 32) : Nat :=
  (if ptpClass &&& PTP_CLASS_VLAN ≠ 0 then VLAN_HLEN else 0) +
    if ptpClass &&& PTP_CLASS_PMASK = PTP_CLASS_L2 then ETH_HLEN else 0

def keyAt (frames : Frames Packet) (skb : Packet) (offset : Nat) : Key where
  seqid := frames.bytes skb (offset + OFF_PTP_SEQUENCE_ID) ++
    frames.bytes skb (offset + OFF_PTP_SEQUENCE_ID + 1)
  msgtype := frames.bytes skb offset &&& 0x0f

def keyOf (frames : Frames Packet) (skb : Packet) : Key :=
  keyAt frames skb (headerOffset (frames.classify skb))

/-- `mtk_ptp_hwtstamp_process_tx` keeps the packet. -/
def Kept (frames : Frames Packet) (skb : Packet) : Prop :=
  frames.classify skb ≠ PTP_CLASS_NONE ∧
    frames.classify skb &&& PTP_CLASS_PMASK = PTP_CLASS_L2

instance (frames : Frames Packet) (skb : Packet) : Decidable (Kept frames skb) :=
  inferInstanceAs (Decidable (_ ∧ _))

/-! ## The timestamp registers -/

structure Sids where
  first : BitVec 32
  last : BitVec 32

/-- `mtk_ptp_hwtstamp_get_t1` and `_t3` return 0. -/
def getStamp (sid : Sids) (seqid : BitVec 16) : Bool :=
  seqid.setWidth 32 = sid.first ∧ sid.first = sid.last

inductive Outcome where
  | stamped
  | again
  | dropped
deriving DecidableEq

/-- From the `switch` to the label; `late` is `time_is_before_jiffies` of the start and 500 ms. -/
def outcome (key : Key) (t1 t3 : Sids) (late : Bool) : Outcome :=
  if key.msgtype = SYNC ∨ key.msgtype = PDELAY_REQ then
    if getStamp t1 key.seqid then .stamped else if late then .dropped else .again
  else if key.msgtype = DELAY_REQ ∨ key.msgtype = PDELAY_RESP then
    if getStamp t3 key.seqid then .stamped else if late then .dropped else .again
  else .dropped

/-! ## The two parties -/

/-- The line of `mtk_ptp_hwtstamp_process_tx` that was done last. -/
inductive Proc (Packet : Type u) where
  | idle
  | skbSet (skb : Packet)
  | classSet (skb : Packet)
  | startSet (skb : Packet)
deriving DecidableEq

/-- The line of `mtk_ptp_hwtstamp_tx_work` that was done last. -/
inductive Work (Packet : Type u) where
  | idle
  | begun
  | skbRead (skb : Packet)
  | keyRead (skb : Packet) (key : Key)
  | out (skb : Packet)
  | freed (skb : Packet)
  | skbCleared (skb : Packet)
  | classCleared (skb : Packet)
deriving DecidableEq

/-- The slot of the MAC with the packets that its class and its start are of, whether the work
is queued, and the references taken and released so far. -/
structure State (Packet : Type u) where
  ptpTxSkb : Option Packet
  ptpTxClass : Option Packet
  ptpTxStart : Option Packet
  pending : Bool
  proc : Proc Packet
  work : Work Packet
  taken : List Packet
  released : List Packet

def init : State Packet :=
  ⟨none, none, none, false, .idle, .idle, [], []⟩

inductive Event (Packet : Type u) where
  | setSkb (skb : Packet)
  | setClass
  | setStart
  | schedule
  | dequeue
  | readSkb
  | readKey
  | poll (t1 t3 : Sids) (late : Bool)
  | free
  | clearSkb
  | clearClass
  | clearStart

/-- `mac->ptp_tx_class`. -/
def classOf (frames : Frames Packet) : Option Packet → BitVec 32
  | none => 0
  | some skb => frames.classify skb

def step (frames : Frames Packet) (s : State Packet) : Event Packet → State Packet
  | .setSkb skb =>
    { s with ptpTxSkb := some skb, proc := .skbSet skb, taken := skb :: s.taken }
  | .setClass =>
    match s.proc with
    | .skbSet skb => { s with ptpTxClass := some skb, proc := .classSet skb }
    | _ => s
  | .setStart =>
    match s.proc with
    | .classSet skb => { s with ptpTxStart := some skb, proc := .startSet skb }
    | _ => s
  | .schedule => { s with pending := true, proc := .idle }
  | .dequeue => { s with pending := false, work := .begun }
  | .readSkb =>
    match s.ptpTxSkb with
    | none => { s with work := .idle }
    | some skb => { s with work := .skbRead skb }
  | .readKey =>
    match s.work with
    | .skbRead skb =>
      { s with
        work := .keyRead skb (keyAt frames skb (headerOffset (classOf frames s.ptpTxClass))) }
    | _ => s
  | .poll t1 t3 late =>
    match s.work with
    | .keyRead skb key =>
      match outcome key t1 t3 late with
      | .again => { s with pending := true, work := .idle }
      | _ => { s with work := .out skb }
    | _ => s
  | .free =>
    match s.work with
    | .out skb => { s with work := .freed skb, released := skb :: s.released }
    | _ => s
  | .clearSkb =>
    match s.work with
    | .freed skb => { s with ptpTxSkb := none, work := .skbCleared skb }
    | _ => s
  | .clearClass =>
    match s.work with
    | .skbCleared skb => { s with ptpTxClass := none, work := .classCleared skb }
    | _ => s
  | .clearStart =>
    match s.work with
    | .classCleared _ => { s with ptpTxStart := none, work := .idle }
    | _ => s

/-- The next line of its party, or the beginning of a call for a packet that is new.  A queued
work begins only after its last run, and the calls of one MAC do not overlap. -/
def Enabled (frames : Frames Packet) (s : State Packet) : Event Packet → Prop
  | .setSkb skb => s.proc = .idle ∧ Kept frames skb ∧ skb ∉ s.taken
  | .setClass => ∃ skb, s.proc = .skbSet skb
  | .setStart => ∃ skb, s.proc = .classSet skb
  | .schedule => ∃ skb, s.proc = .startSet skb
  | .dequeue => s.work = .idle ∧ s.pending = true
  | .readSkb => s.work = .begun
  | .readKey => ∃ skb, s.work = .skbRead skb
  | .poll _ _ _ => ∃ skb key, s.work = .keyRead skb key
  | .free => ∃ skb, s.work = .out skb
  | .clearSkb => ∃ skb, s.work = .freed skb
  | .clearClass => ∃ skb, s.work = .skbCleared skb
  | .clearStart => ∃ skb, s.work = .classCleared skb

/-- The MAC's part of `mtk_ptp_clock_deinit`. -/
def mtkPtpClockDeinit (s : State Packet) : State Packet :=
  { s with
    pending := false, ptpTxSkb := none, ptpTxClass := none, ptpTxStart := none,
    released := s.ptpTxSkb.toList ++ s.released }

/-- An interleaving up to `mtk_ptp_clock_deinit`, which begins when no call goes on and waits for
the run of the work that does. -/
structure CompleteRun (frames : Frames Packet) where
  events : List (Event Packet)
  enabled : Along (step frames) (Enabled frames) init events
  called : (run (step frames) init events).proc = .idle
  cancelled : (run (step frames) init events).work = .idle

/-! ## What is wanted -/

/-- What the work clears is the run's own packet's, and a timestamp goes to the packet it was
looked for by. -/
def StepOk (frames : Frames Packet) (s : State Packet) : Event Packet → Prop
  | .poll t1 t3 late => ∀ skb key, s.work = .keyRead skb key →
      outcome key t1 t3 late = .stamped → key = keyOf frames skb
  | .clearSkb => ∀ skb, s.work = .freed skb → ∀ other, s.ptpTxSkb = some other → other = skb
  | .clearClass => ∀ skb, s.work = .skbCleared skb →
      ∀ other, s.ptpTxClass = some other → other = skb
  | .clearStart => ∀ skb, s.work = .classCleared skb →
      ∀ other, s.ptpTxStart = some other → other = skb
  | _ => True

/-- Each step is right, and after the deinit each reference that was taken is
released once. -/
structure Correct (frames : Frames Packet) (r : CompleteRun frames) : Prop where
  steps : Along (step frames) (StepOk frames) init r.events
  balanced : (mtkPtpClockDeinit (run (step frames) init r.events)).released.Perm
    (run (step frames) init r.events).taken

/-- A packet comes only to an empty slot, and its class and its time are not filled in just
before the work clears them. -/
def Spaced (s : State Packet) : Event Packet → Prop
  | .setSkb _ => s.ptpTxSkb = none
  | .setClass => ∀ skb, s.work ≠ .skbCleared skb
  | .setStart => ∀ skb, s.work ≠ .classCleared skb
  | _ => True

/-! ## The invariant of spaced runs -/

def Held (s : State Packet) (skb : Packet) : Prop :=
  s.ptpTxSkb = some skb ∧ s.ptpTxClass = some skb ∧ s.ptpTxStart = some skb

def Shape (frames : Frames Packet) (s : State Packet) : Prop :=
  match s.proc, s.work with
  | .idle, .idle =>
    s.ptpTxSkb = none ∧ s.pending = false ∨ ∃ skb, Held s skb ∧ s.pending = true
  | .idle, .begun => ∃ skb, Held s skb ∧ s.pending = false
  | .idle, .skbRead skb => Held s skb ∧ s.pending = false
  | .idle, .keyRead skb key => Held s skb ∧ s.pending = false ∧ key = keyOf frames skb
  | .idle, .out skb => Held s skb ∧ s.pending = false
  | .idle, .freed skb => Held s skb ∧ s.pending = false
  | .idle, .skbCleared skb =>
    s.ptpTxSkb = none ∧ s.ptpTxClass = some skb ∧ s.ptpTxStart = some skb ∧ s.pending = false
  | .idle, .classCleared skb =>
    s.ptpTxSkb = none ∧ s.ptpTxStart = some skb ∧ s.pending = false
  | .skbSet next, .idle => s.ptpTxSkb = some next ∧ s.pending = false
  | .skbSet next, .skbCleared skb =>
    s.ptpTxSkb = some next ∧ s.ptpTxClass = some skb ∧ s.ptpTxStart = some skb ∧
      s.pending = false
  | .skbSet next, .classCleared skb =>
    s.ptpTxSkb = some next ∧ s.ptpTxStart = some skb ∧ s.pending = false
  | .classSet next, .idle =>
    s.ptpTxSkb = some next ∧ s.ptpTxClass = some next ∧ s.pending = false
  | .classSet next, .classCleared skb =>
    s.ptpTxSkb = some next ∧ s.ptpTxClass = some next ∧ s.ptpTxStart = some skb ∧
      s.pending = false
  | .startSet next, .idle => Held s next ∧ s.pending = false
  | _, _ => False

def Work.holder : Work Packet → Option Packet
  | .skbRead skb | .keyRead skb _ | .out skb => some skb
  | _ => none

def Work.past : Work Packet → Option Packet
  | .freed skb | .skbCleared skb | .classCleared skb => some skb
  | _ => none

def owed (s : State Packet) : List Packet :=
  match s.work with
  | .freed _ => []
  | _ => s.ptpTxSkb.toList

structure Inv (frames : Frames Packet) (s : State Packet) : Prop where
  shape : Shape frames s
  new : s.taken.Nodup
  account : s.taken.Perm (s.released ++ owed s)
  past : ∀ skb, s.work.past = some skb → skb ∈ s.released

theorem inv_init (frames : Frames Packet) : Inv frames (init : State Packet) where
  shape := .inl ⟨rfl, rfl⟩
  new := List.nodup_nil
  account := List.Perm.refl _
  past := by
    intro skb none
    cases none

theorem shape_step {frames : Frames Packet} {s : State Packet} {event : Event Packet}
    (shape : Shape frames s) (enabled : Enabled frames s event) (spaced : Spaced s event) :
    Shape frames (step frames s event) := by
  obtain ⟨skb, cls, start, pending, proc, work, taken, released⟩ := s
  cases event with
  | setSkb next =>
    obtain ⟨rfl, -, -⟩ := enabled
    cases work <;> simp_all [Shape, Spaced, step, Held]
  | setClass =>
    obtain ⟨next, rfl⟩ := enabled
    cases work <;> simp_all [Shape, Spaced, step]
  | setStart =>
    obtain ⟨next, rfl⟩ := enabled
    cases work <;> simp_all [Shape, Spaced, step, Held]
  | schedule =>
    obtain ⟨next, rfl⟩ := enabled
    cases work <;> simp_all [Shape, step, Held]
  | dequeue =>
    obtain ⟨rfl, rfl⟩ := enabled
    cases proc <;> simp_all [Shape, Held, step]
  | readSkb =>
    cases enabled
    cases proc <;> simp_all [Shape, Held]
    obtain ⟨⟨held, rfl, rfl, rfl⟩, rfl⟩ := shape
    exact ⟨⟨rfl, rfl, rfl⟩, rfl⟩
  | readKey =>
    obtain ⟨p, rfl⟩ := enabled
    cases proc <;> simp_all [Shape, step, Held, keyOf, classOf]
  | poll t1 t3 late =>
    obtain ⟨p, key, rfl⟩ := enabled
    cases proc <;> simp_all [Shape, step, Held]
    cases outcome (keyOf frames p) t1 t3 late with
    | again => exact .inr ⟨⟨p, rfl, rfl, rfl⟩, rfl⟩
    | stamped => exact ⟨⟨rfl, rfl, rfl⟩, rfl⟩
    | dropped => exact ⟨⟨rfl, rfl, rfl⟩, rfl⟩
  | free =>
    obtain ⟨p, rfl⟩ := enabled
    cases proc <;> simp_all [Shape, step, Held]
  | clearSkb =>
    obtain ⟨p, rfl⟩ := enabled
    cases proc <;> simp_all [Shape, step, Held]
  | clearClass =>
    obtain ⟨p, rfl⟩ := enabled
    cases proc <;> simp_all [Shape, step]
  | clearStart =>
    obtain ⟨p, rfl⟩ := enabled
    cases proc <;> simp_all [Shape, step]

/-! ## The references -/

theorem owed_eq {s : State Packet} (busy : ∀ skb, s.work ≠ .freed skb) :
    owed s = s.ptpTxSkb.toList := by
  unfold owed
  split
  · exact absurd ‹_› (busy _)
  · rfl

theorem slot_of_work {frames : Frames Packet} {s : State Packet} (shape : Shape frames s)
    {skb : Packet} (at_ : s.work.holder = some skb ∨ s.work = .freed skb) :
    s.ptpTxSkb = some skb := by
  unfold Shape at shape
  cases proc : s.proc <;> cases work : s.work <;> rw [proc, work] at shape <;>
    simp_all [Held, Work.holder]

theorem account_step {frames : Frames Packet} {s : State Packet} {event : Event Packet}
    (inv : Inv frames s) (enabled : Enabled frames s event) (spaced : Spaced s event) :
    (step frames s event).taken.Perm
      ((step frames s event).released ++ owed (step frames s event)) := by
  have account := inv.account
  cases event with
  | setSkb next =>
    have empty : s.ptpTxSkb = none := spaced
    have busy : ∀ skb, s.work ≠ .freed skb := by
      intro skb freed
      have full := slot_of_work inv.shape (.inr freed)
      rw [empty] at full
      cases full
    rw [owed_eq busy, empty] at account
    have all : s.taken.Perm s.released := by simpa using account
    have owes : owed (step frames s (.setSkb next)) = [next] := owed_eq busy
    rw [owes]
    exact (all.cons next).trans (List.perm_append_singleton next s.released).symm
  | free =>
    obtain ⟨skb, out⟩ := enabled
    have full := slot_of_work inv.shape (.inl (by rw [out]; rfl))
    have busy : ∀ skb, s.work ≠ .freed skb := by simp [out]
    rw [owed_eq busy, full] at account
    simp only [step, out, owed, List.append_nil]
    exact account.trans (List.perm_append_singleton skb s.released)
  | clearSkb =>
    obtain ⟨skb, freed⟩ := enabled
    simpa [step, freed, owed] using account
  | setClass | setStart | schedule =>
    obtain ⟨skb, line⟩ := enabled
    simpa [step, line, owed] using account
  | dequeue =>
    obtain ⟨idle, -⟩ := enabled
    simpa [step, idle, owed] using account
  | readSkb =>
    rw [owed_eq (by simp [show s.work = .begun from enabled])] at account
    cases slot : s.ptpTxSkb <;> simpa [step, slot, owed] using account
  | readKey | clearClass | clearStart =>
    obtain ⟨skb, line⟩ := enabled
    simpa [step, line, owed] using account
  | poll t1 t3 late =>
    obtain ⟨skb, key, line⟩ := enabled
    simp only [step, line]
    cases outcome key t1 t3 late <;> simpa [line, owed] using account

theorem new_step {frames : Frames Packet} {s : State Packet} {event : Event Packet}
    (new : s.taken.Nodup) (enabled : Enabled frames s event) :
    (step frames s event).taken.Nodup := by
  cases event with
  | setSkb next => exact List.nodup_cons.mpr ⟨enabled.2.2, new⟩
  | setClass | setStart =>
    obtain ⟨skb, line⟩ := enabled
    simpa [step, line] using new
  | schedule => exact new
  | dequeue => exact new
  | readSkb => cases slot : s.ptpTxSkb <;> simpa [step, slot] using new
  | readKey | free | clearSkb | clearClass | clearStart =>
    obtain ⟨skb, line⟩ := enabled
    simpa [step, line] using new
  | poll t1 t3 late =>
    obtain ⟨skb, key, line⟩ := enabled
    simp only [step, line]
    cases outcome key t1 t3 late <;> exact new

theorem past_step {frames : Frames Packet} {s : State Packet} {event : Event Packet}
    (past : ∀ skb, s.work.past = some skb → skb ∈ s.released) (enabled : Enabled frames s event) :
    ∀ skb, (step frames s event).work.past = some skb → skb ∈ (step frames s event).released := by
  cases event with
  | setSkb next => exact past
  | setClass | setStart =>
    obtain ⟨skb, line⟩ := enabled
    simpa [step, line] using past
  | schedule => exact past
  | dequeue => simp [step, Work.past]
  | readSkb => cases slot : s.ptpTxSkb <;> simp [step, slot, Work.past]
  | readKey | free | clearStart =>
    obtain ⟨skb, line⟩ := enabled
    simp [step, line, Work.past]
  | clearSkb | clearClass =>
    obtain ⟨skb, line⟩ := enabled
    simpa [step, line, Work.past] using past
  | poll t1 t3 late =>
    obtain ⟨skb, key, line⟩ := enabled
    simp only [step, line]
    cases outcome key t1 t3 late <;> simp [Work.past]

theorem inv_step {frames : Frames Packet} {s : State Packet} {event : Event Packet}
    (inv : Inv frames s) (enabled : Enabled frames s event) (spaced : Spaced s event) :
    Inv frames (step frames s event) where
  shape := shape_step inv.shape enabled spaced
  new := new_step inv.new enabled
  account := account_step inv enabled spaced
  past := past_step inv.past enabled

/-! ## Spaced runs are right -/

theorem stepOk_of_inv {frames : Frames Packet} {s : State Packet} {event : Event Packet}
    (inv : Inv frames s) : StepOk frames s event := by
  have shape := inv.shape
  unfold Shape at shape
  cases event with
  | poll t1 t3 late =>
    intro skb key line _
    rw [line] at shape
    cases proc : s.proc <;> rw [proc] at shape <;> simp_all
  | clearSkb =>
    intro skb line other slot
    rw [slot_of_work inv.shape (.inr line)] at slot
    exact (Option.some.inj slot).symm
  | clearClass =>
    intro skb line other cls
    rw [line] at shape
    cases proc : s.proc <;> rw [proc] at shape <;> simp_all
  | clearStart =>
    intro skb line other start
    rw [line] at shape
    cases proc : s.proc <;> rw [proc] at shape <;> simp_all
  | _ => trivial

theorem balanced_of_inv {frames : Frames Packet} {s : State Packet} (inv : Inv frames s)
    (cancelled : s.work = .idle) : (mtkPtpClockDeinit s).released.Perm s.taken := by
  have account := inv.account
  rw [owed_eq (by simp [cancelled])] at account
  exact (account.trans List.perm_append_comm).symm

/-! ## What is not spaced is lost -/

def Proc.packet : Proc Packet → Option Packet
  | .idle => none
  | .skbSet skb | .classSet skb | .startSet skb => some skb

def Lost (s : State Packet) : Prop :=
  ∃ skb ∈ s.taken, skb ∉ s.released ∧ s.ptpTxSkb ≠ some skb ∧ s.work.holder ≠ some skb

/-- Another packet is in the slot that the work of `skb` has read or is to clear. -/
def Replaced (s : State Packet) : Prop :=
  ∃ skb ∈ s.taken, (∃ other, s.ptpTxSkb = some other ∧ other ≠ skb) ∧
    (s.work.holder = some skb ∧ skb ∉ s.released ∨ s.work = .freed skb)

/-- The class, or the start, of another packet is what the work of `skb` clears next. -/
def Overtaken (s : State Packet) : Prop :=
  ∃ skb ∈ s.taken, s.proc.packet ≠ some skb ∧
    ((∃ other, s.ptpTxClass = some other ∧ other ≠ skb) ∧ s.work = .skbCleared skb ∨
      (∃ other, s.ptpTxStart = some other ∧ other ≠ skb) ∧ s.work = .classCleared skb)

def Doomed (s : State Packet) : Prop := Lost s ∨ Replaced s ∨ Overtaken s

theorem lost_step {frames : Frames Packet} {s : State Packet} {event : Event Packet}
    (lost : Lost s) (enabled : Enabled frames s event) : Lost (step frames s event) := by
  obtain ⟨skb, member, kept, slot, holder⟩ := lost
  cases event with
  | setSkb next =>
    have other : next ≠ skb := fun same => enabled.2.2 (same ▸ member)
    exact ⟨skb, List.mem_cons_of_mem _ member, kept, by simpa [step] using other, holder⟩
  | setClass | setStart =>
    obtain ⟨p, line⟩ := enabled
    exact ⟨skb, by simpa [step, line] using ⟨member, kept, slot, holder⟩⟩
  | schedule => exact ⟨skb, member, kept, slot, holder⟩
  | dequeue => exact ⟨skb, member, kept, slot, by simp [step, Work.holder]⟩
  | readSkb =>
    cases now : s.ptpTxSkb with
    | none => exact ⟨skb, by simpa [step, now, Work.holder] using ⟨member, kept⟩⟩
    | some other =>
      have apart : other ≠ skb := by simpa [now] using slot
      exact ⟨skb, by simpa [step, now, Work.holder] using ⟨member, kept, apart⟩⟩
  | readKey | free | clearSkb | clearClass | clearStart =>
    obtain ⟨p, line⟩ := enabled
    rw [line] at holder
    refine ⟨skb, ?_⟩
    simp_all [step, Work.holder, eq_comm]
  | poll t1 t3 late =>
    obtain ⟨p, key, line⟩ := enabled
    rw [line] at holder
    refine ⟨skb, ?_⟩
    simp only [step, line]
    cases outcome key t1 t3 late <;> simp_all [Work.holder]

theorem replaced_step {frames : Frames Packet} {s : State Packet} {event : Event Packet}
    (replaced : Replaced s) (enabled : Enabled frames s event) (good : StepOk frames s event) :
    Doomed (step frames s event) := by
  obtain ⟨skb, member, ⟨other, slot, apart⟩, line⟩ := replaced
  cases event with
  | setSkb next =>
    have fresh : next ≠ skb := fun same => enabled.2.2 (same ▸ member)
    exact .inr (.inl ⟨skb, List.mem_cons_of_mem _ member, ⟨next, rfl, fresh⟩, line⟩)
  | setClass | setStart =>
    obtain ⟨p, call⟩ := enabled
    refine .inr (.inl ⟨skb, ?_⟩)
    simpa [step, call] using ⟨member, ⟨other, slot, apart⟩, line⟩
  | schedule => exact .inr (.inl ⟨skb, member, ⟨other, slot, apart⟩, line⟩)
  | dequeue => simp [enabled.1, Work.holder] at line
  | readSkb => simp [show s.work = .begun from enabled, Work.holder] at line
  | readKey =>
    obtain ⟨p, at_⟩ := enabled
    refine .inr (.inl ⟨skb, ?_⟩)
    simp_all [step, Work.holder]
  | poll t1 t3 late =>
    obtain ⟨p, key, at_⟩ := enabled
    have held : p = skb ∧ skb ∉ s.released := by simpa [at_, Work.holder] using line
    obtain ⟨rfl, kept⟩ := held
    simp only [step, at_]
    cases outcome key t1 t3 late with
    | again =>
      refine .inl ⟨p, member, kept, ?_, ?_⟩
      · simpa [slot] using apart
      · simp [Work.holder]
    | stamped => exact .inr (.inl ⟨p, member, ⟨other, slot, apart⟩, .inl ⟨rfl, kept⟩⟩)
    | dropped => exact .inr (.inl ⟨p, member, ⟨other, slot, apart⟩, .inl ⟨rfl, kept⟩⟩)
  | free =>
    obtain ⟨p, at_⟩ := enabled
    have held : p = skb ∧ skb ∉ s.released := by simpa [at_, Work.holder] using line
    obtain ⟨rfl, kept⟩ := held
    refine .inr (.inl ⟨p, ?_⟩)
    simpa [step, at_] using ⟨member, other, slot, apart⟩
  | clearSkb =>
    obtain ⟨p, at_⟩ := enabled
    have same : p = skb := by simpa [at_, Work.holder] using line
    exact absurd (good skb (same ▸ at_) other slot) apart
  | clearClass | clearStart =>
    obtain ⟨p, at_⟩ := enabled
    simp [at_, Work.holder] at line

theorem overtaken_step {frames : Frames Packet} {s : State Packet} {event : Event Packet}
    (overtaken : Overtaken s) (enabled : Enabled frames s event) (good : StepOk frames s event) :
    Doomed (step frames s event) := by
  obtain ⟨skb, member, call, line⟩ := overtaken
  cases event with
  | setSkb next =>
    have fresh : next ≠ skb := fun same => enabled.2.2 (same ▸ member)
    refine .inr (.inr ⟨skb, List.mem_cons_of_mem _ member, ?_, line⟩)
    simpa [step, Proc.packet] using fresh
  | setClass =>
    obtain ⟨p, at_⟩ := enabled
    have apart : p ≠ skb := by simpa [at_, Proc.packet] using call
    refine .inr (.inr ⟨skb, ?_⟩)
    simp only [step, at_]
    refine ⟨member, by simpa [Proc.packet] using apart, ?_⟩
    exact line.imp (fun both => ⟨⟨p, rfl, apart⟩, both.2⟩) id
  | setStart =>
    obtain ⟨p, at_⟩ := enabled
    have apart : p ≠ skb := by simpa [at_, Proc.packet] using call
    refine .inr (.inr ⟨skb, ?_⟩)
    simp only [step, at_]
    refine ⟨member, by simpa [Proc.packet] using apart, ?_⟩
    exact line.imp id fun both => ⟨⟨p, rfl, apart⟩, both.2⟩
  | schedule => exact .inr (.inr ⟨skb, member, by simp [step, Proc.packet], line⟩)
  | dequeue => simp [enabled.1] at line
  | readSkb => simp [show s.work = .begun from enabled] at line
  | poll t1 t3 late =>
    obtain ⟨p, key, at_⟩ := enabled
    simp [at_] at line
  | readKey | free | clearSkb =>
    obtain ⟨p, at_⟩ := enabled
    simp [at_] at line
  | clearClass =>
    obtain ⟨p, at_⟩ := enabled
    rcases line with ⟨⟨other, cls, apart⟩, cleared⟩ | ⟨-, cleared⟩
    · exact absurd (good skb cleared other cls) apart
    · rw [at_] at cleared
      cases cleared
  | clearStart =>
    obtain ⟨p, at_⟩ := enabled
    rcases line with ⟨-, cleared⟩ | ⟨⟨other, start, apart⟩, cleared⟩
    · rw [at_] at cleared
      cases cleared
    · exact absurd (good skb cleared other start) apart

theorem doomed_step {frames : Frames Packet} {s : State Packet} {event : Event Packet}
    (doomed : Doomed s) (enabled : Enabled frames s event) (good : StepOk frames s event) :
    Doomed (step frames s event) := by
  rcases doomed with lost | replaced | overtaken
  · exact .inl (lost_step lost enabled)
  · exact replaced_step replaced enabled good
  · exact overtaken_step overtaken enabled good

theorem taken_of_released {frames : Frames Packet} {s : State Packet} (inv : Inv frames s)
    {skb : Packet} (member : skb ∈ s.released) : skb ∈ s.taken :=
  inv.account.mem_iff.mpr (List.mem_append_left _ member)

theorem taken_of_slot {frames : Frames Packet} {s : State Packet} (inv : Inv frames s)
    {skb : Packet} (slot : s.ptpTxSkb = some skb) : skb ∈ s.taken := by
  by_cases freed : ∃ p, s.work = .freed p
  · obtain ⟨p, line⟩ := freed
    have same := slot_of_work inv.shape (.inr line)
    rw [slot] at same
    cases same
    exact taken_of_released inv (inv.past skb (by rw [line]; rfl))
  · have busy : ∀ p, s.work ≠ .freed p := fun p line => freed ⟨p, line⟩
    refine inv.account.mem_iff.mpr (List.mem_append_right _ ?_)
    simp [owed_eq busy, slot]

theorem unreleased_of_slot {frames : Frames Packet} {s : State Packet} (inv : Inv frames s)
    (busy : ∀ p, s.work ≠ .freed p) {skb : Packet} (slot : s.ptpTxSkb = some skb) :
    skb ∉ s.released := by
  have apart := (inv.account.nodup_iff.mp inv.new)
  rw [owed_eq busy, slot] at apart
  intro member
  exact (List.nodup_append.mp apart).2.2 skb member skb (List.mem_singleton_self skb) rfl

theorem other_of_past {frames : Frames Packet} {s : State Packet} (inv : Inv frames s)
    (busy : ∀ p, s.work ≠ .freed p) {next skb : Packet} (slot : s.ptpTxSkb = some next)
    (past : s.work.past = some skb) : next ≠ skb := by
  rintro rfl
  exact unreleased_of_slot inv busy slot (inv.past next past)

theorem doomed_of_full {frames : Frames Packet} {s : State Packet} {next skb : Packet}
    (inv : Inv frames s) (enabled : Enabled frames s (.setSkb next))
    (slot : s.ptpTxSkb = some skb) : Doomed (step frames s (.setSkb next)) := by
  have member := taken_of_slot inv slot
  have fresh : next ≠ skb := fun same => enabled.2.2 (same ▸ member)
  have shape := inv.shape
  unfold Shape at shape
  rw [enabled.1] at shape
  have replaced : s.work.holder = some skb ∧ skb ∉ s.released ∨ s.work = .freed skb →
      Doomed (step frames s (.setSkb next)) := fun line =>
    .inr (.inl ⟨skb, List.mem_cons_of_mem _ member, ⟨next, rfl, fresh⟩, line⟩)
  have held : ∀ p, s.work.holder = some p → Doomed (step frames s (.setSkb next)) := by
    intro p holder
    have same := slot_of_work inv.shape (.inl holder)
    rw [slot] at same
    cases same
    refine replaced (.inl ⟨holder, unreleased_of_slot inv (fun q freed => ?_) slot⟩)
    simp [freed, Work.holder] at holder
  have lost : s.work.holder = none → (∀ p, s.work ≠ .freed p) →
      Doomed (step frames s (.setSkb next)) := by
    intro none busy
    refine .inl ⟨skb, List.mem_cons_of_mem _ member, unreleased_of_slot inv busy slot, ?_, ?_⟩
    · simpa [step] using fresh
    · simp [step, none]
  cases line : s.work with
  | idle => exact lost (by rw [line]; rfl) (by simp [line])
  | begun => exact lost (by rw [line]; rfl) (by simp [line])
  | skbRead p => exact held p (by rw [line]; rfl)
  | keyRead p key => exact held p (by rw [line]; rfl)
  | out p => exact held p (by rw [line]; rfl)
  | freed p =>
    have same := slot_of_work inv.shape (.inr line)
    rw [slot] at same
    cases same
    exact replaced (.inr line)
  | skbCleared p =>
    rw [line] at shape
    rw [shape.1] at slot
    cases slot
  | classCleared p =>
    rw [line] at shape
    rw [shape.1] at slot
    cases slot

theorem doomed_of_unspaced {frames : Frames Packet} {s : State Packet} {event : Event Packet}
    (inv : Inv frames s) (enabled : Enabled frames s event) (unspaced : ¬ Spaced s event) :
    Doomed (step frames s event) := by
  have shape := inv.shape
  unfold Shape at shape
  cases event with
  | setSkb next =>
    obtain ⟨skb, slot⟩ := Option.ne_none_iff_exists'.mp unspaced
    exact doomed_of_full inv enabled slot
  | setClass =>
    obtain ⟨next, call⟩ := enabled
    obtain ⟨skb, line⟩ := not_forall_not.mp unspaced
    rw [call, line] at shape
    have past : s.work.past = some skb := by rw [line]; rfl
    have apart := other_of_past inv (by simp [line]) shape.1 past
    refine .inr (.inr ⟨skb, ?_⟩)
    simp only [step, call]
    refine ⟨taken_of_released inv (inv.past skb past), ?_, .inl ⟨⟨next, rfl, apart⟩, line⟩⟩
    simpa [Proc.packet] using apart
  | setStart =>
    obtain ⟨next, call⟩ := enabled
    obtain ⟨skb, line⟩ := not_forall_not.mp unspaced
    rw [call, line] at shape
    have past : s.work.past = some skb := by rw [line]; rfl
    have apart := other_of_past inv (by simp [line]) shape.1 past
    refine .inr (.inr ⟨skb, ?_⟩)
    simp only [step, call]
    refine ⟨taken_of_released inv (inv.past skb past), ?_, .inr ⟨⟨next, rfl, apart⟩, line⟩⟩
    simpa [Proc.packet] using apart
  | _ => exact absurd trivial unspaced

theorem safe_of_balanced {s : State Packet} (cancelled : s.work = .idle)
    (balanced : (mtkPtpClockDeinit s).released.Perm s.taken) : ¬ Doomed s := by
  rintro (⟨skb, member, kept, slot, -⟩ | ⟨skb, -, -, line⟩ | ⟨skb, -, -, line⟩)
  · have back : skb ∈ s.ptpTxSkb.toList ++ s.released := balanced.mem_iff.mpr member
    rcases List.mem_append.mp back with held | gone
    · exact slot (Option.mem_toList.mp held)
    · exact kept gone
  · simp [cancelled, Work.holder] at line
  · simp [cancelled] at line

/-- The timestamps of a MAC are handled right exactly in the runs in which no packet comes
before the slot is empty, and none fills in its class or its time just before the work of the
last one clears them. -/
theorem stamps_correct_iff (frames : Frames Packet) (r : CompleteRun frames) :
    Correct frames r ↔ Along (step frames) Spaced init r.events := by
  constructor
  · intro correct
    exact along_of_doomed (step frames) (Enabled frames) Spaced (StepOk frames) (Inv frames)
      Doomed (fun s event => inv_step) (fun s event => doomed_of_unspaced)
      (fun s event => doomed_step) init r.events (inv_init frames) r.enabled correct.steps
      (safe_of_balanced r.cancelled correct.balanced)
  · intro spaced
    have both := along_and r.enabled spaced
    have kept : ∀ s event, Inv frames s → Enabled frames s event ∧ Spaced s event →
        Inv frames (step frames s event) := fun s event inv guard => inv_step inv guard.1 guard.2
    exact {
      steps := along_of_invariant (step frames) _ _ (Inv frames) kept
        (fun s event inv _ => stepOk_of_inv inv) init r.events (inv_init frames) both
      balanced := balanced_of_inv (run_invariant (step frames) _ (Inv frames) kept init r.events
        (inv_init frames) both) r.cancelled }

def syncFrames : Frames Nat where
  bytes skb k := if k = 45 then BitVec.ofNat 8 skb else 0
  classify _ := 0x42

def stampOf (seqid : BitVec 32) : Sids := ⟨seqid, seqid⟩

/-- The first packet waits once; the second comes when the slot has been cleared, and is still
in it at the deinit. -/
def spacedRun : CompleteRun syncFrames where
  events := [.setSkb 0, .setClass, .setStart, .schedule, .dequeue, .readSkb, .readKey,
    .poll (stampOf 9) (stampOf 0) false, .dequeue, .readSkb, .readKey,
    .poll (stampOf 0) (stampOf 0) false, .free, .clearSkb, .setSkb 1, .clearClass, .setClass,
    .clearStart, .setStart, .schedule]
  enabled := ⟨⟨rfl, by decide, List.not_mem_nil⟩, ⟨0, rfl⟩, ⟨0, rfl⟩, ⟨0, rfl⟩, ⟨rfl, rfl⟩, rfl,
    ⟨0, rfl⟩, ⟨0, _, rfl⟩, ⟨rfl, rfl⟩, rfl, ⟨0, rfl⟩, ⟨0, _, rfl⟩, ⟨0, rfl⟩, ⟨0, rfl⟩,
    ⟨rfl, by decide, by decide⟩, ⟨0, rfl⟩, ⟨1, rfl⟩, ⟨0, rfl⟩, ⟨1, rfl⟩, ⟨1, rfl⟩, trivial⟩
  called := rfl
  cancelled := rfl

theorem spacedRun_correct : Correct syncFrames spacedRun := by
  refine (stamps_correct_iff syncFrames spacedRun).mpr ?_
  refine ⟨rfl, ?_, ?_, trivial, trivial, trivial, trivial, trivial, trivial, trivial, trivial,
    trivial, trivial, trivial, rfl, trivial, ?_, trivial, ?_, trivial, trivial⟩ <;>
    exact fun skb line => nomatch line

def crowdedRun : CompleteRun syncFrames where
  events := [.setSkb 0, .setClass, .setStart, .schedule, .setSkb 1, .setClass, .setStart,
    .schedule, .dequeue, .readSkb, .readKey, .poll (stampOf 1) (stampOf 0) false, .free, .clearSkb,
    .clearClass, .clearStart]
  enabled := ⟨⟨rfl, by decide, List.not_mem_nil⟩, ⟨0, rfl⟩, ⟨0, rfl⟩, ⟨0, rfl⟩,
    ⟨rfl, by decide, by decide⟩, ⟨1, rfl⟩, ⟨1, rfl⟩, ⟨1, rfl⟩, ⟨rfl, rfl⟩, rfl, ⟨1, rfl⟩,
    ⟨1, _, rfl⟩, ⟨1, rfl⟩, ⟨1, rfl⟩, ⟨1, rfl⟩, ⟨1, rfl⟩, trivial⟩
  called := rfl
  cancelled := rfl

/-- The reference to the first is never released. -/
theorem first_packet_leaks : ¬ Correct syncFrames crowdedRun := by
  intro correct
  have balanced := correct.balanced
  revert balanced
  decide

end OpenwrtSource.Ptp.TxStamp
