import OpenwrtSource.Lib.Run
import OpenwrtSource.Pcs.LinkPoll

/-!
# What a `get_state` reports

A report is coherent when one decode, made since the last `enable` and for a
mode configured during the call, gave all of it.  It is, as long as no call
overlaps a store so that it loads fields of two decodes, and none loads a mode
that is configured no more.
-/

namespace OpenwrtSource.Pcs.Coherence

open Lib.Run Pcs.LinkPoll

variable {Adv Regs Phase Reader : Type}

/-! ## The property -/

def Coherent (decodes : List Decode) (report : Report) : Prop :=
  ∃ decode ∈ decodes, report.since ≤ decode.enables ∧
    (∀ field : Field, field.Same report.state decode.state) ∧
    decode.madeFor = report.state.interface ∧ report.state.interface ∈ report.seen

/-- Every `get_state` so far that reported the link up reported one decode. -/
def AllCoherent (w : World Adv Regs Phase Reader) : Prop :=
  ∀ report ∈ w.reports, report.state.link = true → Coherent w.decodes report

/-! ## The condition -/

/-- The store of `decode` writes `field`: every call that has the link up and a
speed, and `field` still to load, has the speed from this same store. -/
def KeepsBehind (w : World Adv Regs Phase Reader) (field : Field) (decode : Decode) : Prop :=
  ∀ reader, match (w.calls reader).pc with
    | .loading next got follows =>
      got.link = true → 0 < next.index → next.index ≤ field.index → follows = decode
    | _ => True

/-- A call that has the link up loads `next`: the store that its speed is from has
written `next`, and the mode it loads is configured and was decoded. -/
def KeepsUp (w : World Adv Regs Phase Reader) (seen : List PhyInterface) (next : Field)
    (follows : Decode) : Prop :=
  (0 < next.index → match w.worker with
    | .storing field decode => field.index ≤ next.index → follows ≠ decode
    | _ => True) ∧
  (next = .interface → w.mpcs.state.interface ∈ seen ∧
    (w.origin .interface).madeFor = w.mpcs.state.interface)

/-- `enable` finds the PCS as `disable` leaves it: the link down and no store on
its way. -/
def Lowered (w : World Adv Regs Phase Reader) : Prop :=
  w.mpcs.state.link = false ∧ match w.worker with
    | .storing _ _ => False
    | .publishing _ => False
    | _ => True

def InOrder (w : World Adv Regs Phase Reader) : Event Adv Regs Reader → Prop
  | .poll _ =>
    match w.worker with
    | .storing field decode => KeepsBehind w field decode
    | _ => True
  | .load reader =>
    match (w.calls reader).pc with
    | .loading next got follows =>
      got.link = true → KeepsUp w (w.calls reader).seen next follows
    | _ => True
  | .enable => w.control.isIdle = true → Lowered w
  | _ => True

/-! ## The fields -/

section Fields

variable {field other : Field} {source target : LinkState}

@[simp] theorem assign_link : (field.assign source target).link = target.link := by
  cases field <;> rfl

theorem same_assign : field.Same (field.assign source target) source := by
  cases field <;> rfl

theorem same_assign_other {state : LinkState} (different : other ≠ field) :
    other.Same (field.assign source target) state ↔ other.Same target state := by
  cases field <;> cases other <;> first | exact absurd rfl different | exact Iff.rfl

theorem Same.trans {a b c : LinkState} (first : field.Same a b) (second : field.Same b c) :
    field.Same a c := by
  cases field <;> exact Eq.trans first second

theorem index_injective (same : field.index = other.index) : field = other := by
  cases field <;> cases other <;> first | rfl | exact absurd same (by decide)

theorem following_index {next : Field} (follows : field.following = some next) :
    next.index = field.index + 1 := by
  cases field <;> cases follows <;> rfl

theorem last_index (last : field.following = none) (other : Field) : other.index ≤ field.index := by
  cases field with
  | anComplete => cases other <;> decide
  | speed => exact absurd last (by decide)
  | duplex => exact absurd last (by decide)
  | interface => exact absurd last (by decide)

end Fields

/-! ## The invariant -/

/-- The decode is of the time since the last `enable`. -/
def Fresh (w : World Adv Regs Phase Reader) (decode : Decode) : Prop :=
  decode ∈ w.decodes ∧ decode.enables = w.enables

/-- The fields before `next` are of `decode`, the others all of one decode. -/
structure Storing (origin : Field → Decode) (next : Field) (decode : Decode) : Prop where
  written : ∀ field : Field, field.index < next.index → origin field = decode
  former : ∃ old, ∀ field : Field, next.index ≤ field.index → origin field = old

def Stored (w : World Adv Regs Phase Reader) : Prop :=
  match w.worker with
  | .storing next decode => Fresh w decode ∧ Storing w.origin next decode
  | .publishing decode => Fresh w decode ∧ ∀ field, w.origin field = decode
  | _ => ∃ decode, ∀ field, w.origin field = decode

/-- The worker is to write `field`, as part of the store of `decode`. -/
def ToWrite (worker : Worker Regs Phase) (field : Field) (decode : Decode) : Prop :=
  ∃ next, worker = .storing next decode ∧ next.index ≤ field.index

/-- A call with the link up that has loaded the fields before `next`. -/
structure Loading (w : World Adv Regs Phase Reader) (since : Nat) (seen : List PhyInterface)
    (next : Field) (got : LinkState) (follows : Decode) : Prop where
  made : follows ∈ w.decodes ∧ since ≤ follows.enables
  loaded : ∀ field : Field, field.index < next.index → field.Same got follows.state
  ahead : ∀ field : Field, next.index ≤ field.index →
    w.origin field = follows ∨ ToWrite w.worker field follows
  mode : Field.interface.index < next.index →
    follows.madeFor = follows.state.interface ∧ follows.state.interface ∈ seen

def Recent (w : World Adv Regs Phase Reader) (since : Nat) : Prop :=
  ∀ field, w.origin field ∈ w.decodes ∧ since ≤ (w.origin field).enables

def CallInv (w : World Adv Regs Phase Reader) (call : Call Adv) : Prop :=
  call.since ≤ w.enables ∧
    match call.pc with
    | .loading next got follows => got.link = true →
        Recent w call.since ∧
          (0 < next.index → Loading w call.since call.seen next got follows)
    | _ => True

structure Inv (w : World Adv Regs Phase Reader) : Prop where
  values : ∀ field : Field, field.Same w.mpcs.state (w.origin field).state
  stored : Stored w
  up : w.mpcs.state.link = true → ∀ field, Fresh w (w.origin field)
  calls : ∀ reader, CallInv w (w.calls reader)
  reports : AllCoherent w

/-! ## Steps away from the cache -/

/-- What a step that writes no field of the cache may change. -/
structure Frame (w w' : World Adv Regs Phase Reader) : Prop where
  fields : ∀ (field : Field) (state : LinkState),
    field.Same w'.mpcs.state state ↔ field.Same w.mpcs.state state
  origin : w'.origin = w.origin
  enables : w.enables ≤ w'.enables
  decodes : ∀ decode ∈ w.decodes, decode ∈ w'.decodes
  reports : w'.reports = w.reports
  calls : ∀ reader, (w'.calls reader).pc = (w.calls reader).pc ∧
    (w'.calls reader).since = (w.calls reader).since ∧
    ∀ mode ∈ (w.calls reader).seen, mode ∈ (w'.calls reader).seen

theorem Coherent.mono {decodes more : List Decode} {report : Report}
    (coherent : Coherent decodes report) (grows : ∀ decode ∈ decodes, decode ∈ more) :
    Coherent more report := by
  obtain ⟨decode, member, facts⟩ := coherent
  exact ⟨decode, grows decode member, facts⟩

section Frames

variable {w w' : World Adv Regs Phase Reader}

theorem Recent.frame {since : Nat} (recent : Recent w since) (frame : Frame w w') :
    Recent w' since := by
  intro field
  rw [frame.origin]
  exact ⟨frame.decodes _ (recent field).1, (recent field).2⟩

theorem Frame.inv (frame : Frame w w') (inv : Inv w) (stored : Stored w')
    (up : w'.mpcs.state.link = true → ∀ field, Fresh w' (w'.origin field))
    (worker : ∀ field decode, ToWrite w.worker field decode → ToWrite w'.worker field decode) :
    Inv w' where
  values := by
    intro field
    rw [frame.fields, frame.origin]
    exact inv.values field
  stored := stored
  up := up
  calls := by
    intro reader
    obtain ⟨since, place⟩ := inv.calls reader
    obtain ⟨pc, since', seen⟩ := frame.calls reader
    refine ⟨by rw [since']; exact Nat.le_trans since frame.enables, ?_⟩
    rw [pc]
    cases loads : (w.calls reader).pc with
    | loading next got follows =>
      intro isUp
      rw [loads] at place
      obtain ⟨recent, loading⟩ := place isUp
      rw [since']
      refine ⟨recent.frame frame, fun later => ?_⟩
      have load := loading later
      refine ⟨⟨frame.decodes _ load.made.1, load.made.2⟩, load.loaded, ?_, ?_⟩
      · intro field ahead
        rw [frame.origin]
        exact (load.ahead field ahead).imp_right (worker field follows)
      · intro behind
        exact ⟨(load.mode behind).1, seen _ (load.mode behind).2⟩
    | _ => trivial
  reports := by
    intro report member isUp
    rw [frame.reports] at member
    exact (inv.reports report member isUp).mono frame.decodes

def Away : Worker Regs Phase → Prop
  | .storing _ _ => False
  | .publishing _ => False
  | _ => True

theorem stored_away (away : Away w.worker) :
    Stored w ↔ ∃ decode, ∀ field, w.origin field = decode := by
  unfold Stored
  cases place : w.worker with
  | storing next decode =>
    rw [place] at away
    exact away.elim
  | publishing decode =>
    rw [place] at away
    exact away.elim
  | _ => exact Iff.rfl

theorem toWrite_away {worker : Worker Regs Phase} (away : Away worker) (field : Field)
    (decode : Decode) : ¬ ToWrite worker field decode := by
  rintro ⟨next, isStoring, _⟩
  rw [isStoring] at away
  exact away

/-- The worker stays where it is, or takes a step outside a store. -/
def Elsewhere (before after : Worker Regs Phase) : Prop :=
  after = before ∨ (Away before ∧ Away after)

theorem Frame.inv_elsewhere (frame : Frame w w') (inv : Inv w)
    (worker : Elsewhere w.worker w'.worker) (enables : w'.enables = w.enables)
    (decodes : w'.decodes = w.decodes)
    (link : w'.mpcs.state.link = true → w.mpcs.state.link = true) : Inv w' := by
  refine frame.inv inv ?_ ?_ ?_
  · obtain same | ⟨before, after⟩ := worker
    · have stored := inv.stored
      unfold Stored Fresh at stored ⊢
      rw [same, frame.origin, enables, decodes]
      exact stored
    · rw [stored_away after, frame.origin]
      exact (stored_away before).mp inv.stored
  · intro isUp field
    unfold Fresh
    rw [frame.origin, decodes, enables]
    exact inv.up (link isUp) field
  · intro field decode toWrite
    obtain same | ⟨before, _⟩ := worker
    · rw [same]
      exact toWrite
    · exact absurd toWrite (toWrite_away before field decode)

theorem Frame.refl (w : World Adv Regs Phase Reader) : Frame w w :=
  ⟨fun _ _ => Iff.rfl, rfl, Nat.le_refl _, fun _ => id, rfl, fun _ => ⟨rfl, rfl, fun _ => id⟩⟩

theorem frame_setInterface (interface : PhyInterface) : Frame w (setInterface interface w) :=
  ⟨fun _ _ => Iff.rfl, rfl, Nat.le_refl _, fun _ => id, rfl,
    fun _ => ⟨rfl, rfl, fun _ => List.mem_cons_of_mem _⟩⟩

theorem frame_setLink (link : Bool) : Frame w (setLink link w) :=
  ⟨fun field _ => by cases field <;> exact Iff.rfl, rfl, Nat.le_refl _, fun _ => id, rfl,
    fun _ => ⟨rfl, rfl, fun _ => id⟩⟩

theorem Frame.trans {w'' : World Adv Regs Phase Reader} (first : Frame w w')
    (second : Frame w' w'') : Frame w w'' where
  fields := fun field state => (second.fields field state).trans (first.fields field state)
  origin := second.origin.trans first.origin
  enables := Nat.le_trans first.enables second.enables
  decodes := fun decode member => second.decodes decode (first.decodes decode member)
  reports := second.reports.trans first.reports
  calls := by
    intro reader
    obtain ⟨pc, since, seen⟩ := first.calls reader
    obtain ⟨pc', since', seen'⟩ := second.calls reader
    exact ⟨pc'.trans pc, since'.trans since, fun mode member => seen' mode (seen mode member)⟩

theorem frame_plumbing (mpcs : Mpcs Adv) (lock : Option Holder) (pending cancelling : Bool)
    (worker : Worker Regs Phase) (control : Control) (state : mpcs.state = w.mpcs.state) :
    Frame w { w with mpcs, lock, pending, cancelling, worker, control } :=
  ⟨fun _ _ => by dsimp only; rw [state], rfl, Nat.le_refl _, fun _ => id, rfl,
    fun _ => ⟨rfl, rfl, fun _ => id⟩⟩

end Frames

/-! ## The steps of a `config` -/

section Config

variable {driver : Driver Adv Regs Phase} {w : World Adv Regs Phase Reader}

/-- A `config` touches neither the cache nor the threads' places. -/
structure Configures (w w' : World Adv Regs Phase Reader) : Prop where
  frame : Frame w w'
  worker : w'.worker = w.worker
  control : w'.control = w.control
  enables : w'.enables = w.enables
  decodes : w'.decodes = w.decodes
  state : w'.mpcs.state = w.mpcs.state

theorem Configures.refl (w : World Adv Regs Phase Reader) : Configures w w :=
  ⟨Frame.refl w, rfl, rfl, rfl, rfl, rfl⟩

theorem configures_setInterface (interface : PhyInterface) :
    Configures w (setInterface interface w) :=
  ⟨frame_setInterface interface, rfl, rfl, rfl, rfl, rfl⟩

theorem configures_setNegMode (negMode : Int) : Configures w (setNegMode negMode w) :=
  ⟨frame_plumbing _ _ _ _ _ _ rfl, rfl, rfl, rfl, rfl, rfl⟩

theorem configures_lock (lock : Option Holder) : Configures w { w with lock } :=
  ⟨frame_plumbing _ _ _ _ _ _ rfl, rfl, rfl, rfl, rfl, rfl⟩

theorem configures_configStep (holder : Holder) (pc : ConfigPc) :
    Configures w (configStep driver holder w pc).1 := by
  cases pc with
  | entered negMode interface =>
    by_cases accepted : driver.accepts interface = false
    · rw [configStep, if_pos accepted]
      exact Configures.refl w
    · by_cases held : w.lock.isSome = true
      · rw [configStep, if_neg accepted, if_pos held]
        exact Configures.refl w
      · rw [configStep, if_neg accepted, if_neg held]
        exact configures_lock _
  | locked negMode interface =>
    rw [configStep]
    split
    · exact configures_setInterface interface
    · exact Configures.refl w
  | negMode negMode => exact configures_setNegMode negMode
  | unlocking => exact configures_lock none
  | finished => exact Configures.refl w

end Config

/-! ## The steps of a store -/

section Store

variable {w : World Adv Regs Phase Reader} {next : Field} {decode : Decode}

theorem toWrite_storeField {field : Field} (place : w.worker = .storing next decode)
    (different : field ≠ next) {other : Decode} (toWrite : ToWrite w.worker field other) :
    ToWrite (storeField next decode w).worker field other := by
  obtain ⟨position, isStoring, behind⟩ := toWrite
  rw [place] at isStoring
  cases isStoring
  have strict : next.index < field.index :=
    Nat.lt_of_le_of_ne behind fun same => different (index_injective same).symm
  cases follows : next.following with
  | some after =>
    refine ⟨after, by simp [storeField, follows], ?_⟩
    rw [following_index follows]
    exact strict
  | none => exact absurd (last_index follows field) (by omega)

theorem stored_storeField (inv : Inv w) (place : w.worker = .storing next decode) :
    Stored (storeField next decode w) := by
  have stored := inv.stored
  unfold Stored at stored
  rw [place] at stored
  obtain ⟨fresh, writes⟩ := stored
  have now : (storeField next decode w).origin next = decode := Function.update_self ..
  have other {field : Field} (different : field ≠ next) :
      (storeField next decode w).origin field = w.origin field :=
    Function.update_of_ne different ..
  have before {field : Field} (upTo : field.index ≤ next.index) :
      (storeField next decode w).origin field = decode := by
    by_cases own : field = next
    · rw [own, now]
    · rw [other own]
      exact writes.written field
        (Nat.lt_of_le_of_ne upTo fun same => own (index_injective same))
  unfold Stored
  cases follows : next.following with
  | some after =>
    have moved : (storeField next decode w).worker = .storing after decode := by
      simp [storeField, follows]
    rw [moved]
    refine ⟨fresh, ?_, ?_⟩
    · intro field behind
      rw [following_index follows] at behind
      exact before (Nat.le_of_lt_succ behind)
    · obtain ⟨old, former⟩ := writes.former
      refine ⟨old, fun field ahead => ?_⟩
      rw [following_index follows] at ahead
      rw [other (fun own => by rw [own] at ahead; omega)]
      exact former field (by omega)
  | none =>
    have moved : (storeField next decode w).worker = .publishing decode := by
      simp [storeField, follows]
    rw [moved]
    exact ⟨fresh, fun field => before (last_index follows _)⟩

theorem inv_storeField (inv : Inv w) (place : w.worker = .storing next decode)
    (behind : KeepsBehind w next decode) : Inv (storeField next decode w) := by
  have stored := inv.stored
  unfold Stored at stored
  rw [place] at stored
  obtain ⟨fresh, _⟩ := stored
  have origin (field : Field) (P : Decode → Prop) (new : P decode)
      (old : P (w.origin field)) : P ((storeField next decode w).origin field) := by
    by_cases own : field = next
    · rw [own, show (storeField next decode w).origin next = decode from
        Function.update_self ..]
      exact new
    · rw [show (storeField next decode w).origin field = w.origin field from
        Function.update_of_ne own ..]
      exact old
  refine ⟨?_, stored_storeField inv place, ?_, ?_, inv.reports⟩
  · intro field
    by_cases own : field = next
    · rw [own, show (storeField next decode w).origin next = decode from
        Function.update_self ..]
      exact same_assign
    · rw [show (storeField next decode w).origin field = w.origin field from
        Function.update_of_ne own ..]
      exact (same_assign_other own).mpr (inv.values field)
  · intro isUp field
    refine origin field (Fresh w) fresh (inv.up ?_ field)
    rw [← isUp]
    exact assign_link.symm
  · intro reader
    obtain ⟨since, place'⟩ := inv.calls reader
    refine ⟨since, ?_⟩
    show match (w.calls reader).pc with
      | .loading position got follows => _
      | _ => True
    have guard := behind reader
    cases loads : (w.calls reader).pc with
    | loading position got follows =>
      intro isUp
      rw [loads] at place' guard
      obtain ⟨recent, loading⟩ := place' isUp
      refine ⟨fun field => ?_, fun later => ?_⟩
      · refine origin field (fun made => made ∈ w.decodes ∧ _ ≤ made.enables) ?_ (recent field)
        exact ⟨fresh.1, by rw [fresh.2]; exact since⟩
      · have load := loading later
        refine ⟨load.made, load.loaded, fun field ahead => ?_, load.mode⟩
        by_cases own : field = next
        · -- the store that this call follows
          left
          rw [own] at ahead ⊢
          rw [guard isUp later ahead]
          exact Function.update_self ..
        · obtain already | toWrite := load.ahead field ahead
          · left
            rw [← already]
            exact Function.update_of_ne own ..
          · right
            exact toWrite_storeField place own toWrite
    | _ => trivial

theorem inv_publish (inv : Inv w) (place : w.worker = .publishing decode) :
    Inv (setLink decode.state.link
      ({ w with worker := .leaving } : World Adv Regs Phase Reader)) := by
  have stored := inv.stored
  unfold Stored at stored
  rw [place] at stored
  obtain ⟨fresh, all⟩ := stored
  have frame : Frame w (setLink decode.state.link
      ({ w with worker := .leaving } : World Adv Regs Phase Reader)) :=
    (frame_plumbing w.mpcs w.lock w.pending w.cancelling .leaving w.control rfl).trans
      (frame_setLink _)
  refine frame.inv inv ⟨decode, all⟩ ?_ ?_
  · intro _ field
    show Fresh w (w.origin field)
    rw [all field]
    exact fresh
  · intro field other toWrite
    obtain ⟨next, isStoring, _⟩ := toWrite
    rw [place] at isStoring
    cases isStoring

theorem inv_beginStore (inv : Inv w) (away : Away w.worker) (state : LinkState)
    (madeFor : PhyInterface) : Inv (beginStore state madeFor w) := by
  have frame : Frame w (beginStore state madeFor w) :=
    ⟨fun _ _ => Iff.rfl, rfl, Nat.le_refl _, fun _ => List.mem_cons_of_mem _, rfl,
      fun _ => ⟨rfl, rfl, fun _ => id⟩⟩
  obtain ⟨old, all⟩ := (stored_away away).mp inv.stored
  refine frame.inv inv ⟨⟨List.mem_cons_self .., rfl⟩, ?_, ⟨old, fun field _ => all field⟩⟩ ?_ ?_
  · intro field behind
    exact absurd behind (Nat.not_lt_zero _)
  · intro isUp field
    obtain ⟨member, current⟩ := inv.up isUp field
    exact ⟨List.mem_cons_of_mem _ member, current⟩
  · intro field other toWrite
    exact absurd toWrite (toWrite_away away field other)

end Store

/-! ## The worker -/

section Poll

variable {driver : Driver Adv Regs Phase} {w : World Adv Regs Phase Reader}

theorem inv_moves (inv : Inv w) (worker : Worker Regs Phase) (lock : Option Holder)
    (pending : Bool) (away : Elsewhere w.worker worker) :
    Inv ({ w with worker, lock, pending } : World Adv Regs Phase Reader) :=
  (frame_plumbing w.mpcs lock pending w.cancelling worker w.control rfl).inv_elsewhere inv away
    rfl rfl id

theorem inv_lower (inv : Inv w) : Inv (setLink false w) :=
  (frame_setLink false).inv_elsewhere inv (.inl rfl) rfl rfl
    fun isUp => absurd isUp (by simp [setLink])

theorem Configures.inv {w' : World Adv Regs Phase Reader} (configures : Configures w w')
    (inv : Inv w) : Inv w' :=
  configures.frame.inv_elsewhere inv (.inl configures.worker) configures.enables
    configures.decodes fun isUp => by rw [← configures.state]; exact isUp

theorem inv_linkPoll (regs : Regs) (inv : Inv w)
    (behind : ∀ next decode, w.worker = .storing next decode → KeepsBehind w next decode) :
    Inv (linkPoll driver regs w) := by
  unfold linkPoll
  cases place : w.worker with
  | idle => exact inv
  | checking modes =>
    cases modes with
    | nil => exact inv_moves inv _ _ _ (.inr ⟨by rw [place]; trivial, trivial⟩)
    | cons mode rest =>
      refine inv_moves inv _ _ _ (.inr ⟨by rw [place]; trivial, ?_⟩)
      split <;> trivial
  | pollFlag =>
    refine inv_moves inv _ _ _ (.inr ⟨by rw [place]; trivial, ?_⟩)
    split <;> trivial
  | testing rest =>
    cases rest with
    | nil => exact inv_moves inv _ _ _ (.inr ⟨by rw [place]; trivial, trivial⟩)
    | cons test rest =>
      dsimp only
      split
      · exact inv
      · refine inv_moves inv _ _ _ (.inr ⟨by rw [place]; trivial, ?_⟩)
        split <;> trivial
  | updating phase =>
    dsimp only
    cases driver.updateState w.mpcs w.lock.isNone regs phase with
    | blocked => exact inv
    | proceed next => exact inv_moves inv _ _ _ (.inr ⟨by rw [place]; trivial, trivial⟩)
    | abandon => exact inv_moves inv _ _ _ (.inr ⟨by rw [place]; trivial, trivial⟩)
    | wedged => exact inv_moves inv _ _ _ (.inr ⟨by rw [place]; trivial, trivial⟩)
    | store state madeFor => exact inv_beginStore inv (by rw [place]; trivial) state madeFor
  | storing next decode => exact inv_storeField inv place (behind next decode place)
  | publishing decode => exact inv_publish inv place
  | lowering =>
    exact inv_lower (inv_moves inv .readNegMode w.lock w.pending
      (.inr ⟨by rw [place]; trivial, trivial⟩))
  | readNegMode => exact inv_moves inv _ _ _ (.inr ⟨by rw [place]; trivial, trivial⟩)
  | readInterface negMode => exact inv_moves inv _ _ _ (.inr ⟨by rw [place]; trivial, trivial⟩)
  | configuring pc =>
    have configures : Configures w (configStep driver .worker w pc).1 :=
      configures_configStep .worker pc
    refine inv_moves (configures.inv inv) _ _ _ (.inr ⟨?_, ?_⟩)
    · rw [configures.worker, place]
      trivial
    · split <;> trivial
  | leaving => exact inv_moves inv _ _ _ (.inr ⟨by rw [place]; trivial, trivial⟩)

end Poll

/-! ## The calls of phylink -/

section Phylink

variable {driver : Driver Adv Regs Phase} {w : World Adv Regs Phase Reader}

theorem inv_control (inv : Inv w) (pending cancelling : Bool) (control : Control) :
    Inv ({ w with pending, cancelling, control } : World Adv Regs Phase Reader) :=
  (frame_plumbing w.mpcs w.lock pending cancelling w.worker control rfl).inv_elsewhere inv
    (.inl rfl) rfl rfl id

theorem inv_controlStep (inv : Inv w) : Inv (controlStep driver w) := by
  unfold controlStep
  cases w.control with
  | idle => exact inv
  | configuring pc =>
    exact inv_control ((configures_configStep .control pc).inv inv) _ _ _
  | cancelling =>
    dsimp only
    split
    · exact inv_control inv _ _ _
    · exact inv
  | lowering => exact inv_lower (inv_control inv _ _ _)
  | clearInterface => exact (configures_setInterface .na).inv (inv_control inv _ _ .clearNegMode)
  | clearNegMode => exact (configures_setNegMode (-1)).inv (inv_control inv _ _ .idle)

theorem lowered_away (lowered : Lowered w) : Away w.worker := by
  have place := lowered.2
  unfold Away
  exact place

theorem inv_enable (inv : Inv w) (lowered : Lowered w) :
    Inv ({ w with enables := w.enables + 1, pending := true } :
      World Adv Regs Phase Reader) := by
  have frame : Frame w ({ w with enables := w.enables + 1, pending := true } :
      World Adv Regs Phase Reader) :=
    ⟨fun _ _ => Iff.rfl, rfl, Nat.le_succ _, fun _ => id, rfl, fun _ => ⟨rfl, rfl, fun _ => id⟩⟩
  have away := lowered_away lowered
  obtain ⟨decode, all⟩ := (stored_away away).mp inv.stored
  refine frame.inv inv ((stored_away (by exact away)).mpr ⟨decode, all⟩) ?_ fun _ _ => id
  intro isUp
  have down : w.mpcs.state.link = true := isUp
  rw [lowered.1] at down
  exact absurd down Bool.false_ne_true

end Phylink

/-! ## The readers -/

section Readers

variable [DecidableEq Reader] {driver : Driver Adv Regs Phase} {w : World Adv Regs Phase Reader}
  {reader : Reader}

omit [DecidableEq Reader] in
theorem CallInv.congr {w' : World Adv Regs Phase Reader} {call : Call Adv}
    (holds : CallInv w call) (origin : w'.origin = w.origin) (enables : w'.enables = w.enables)
    (decodes : w'.decodes = w.decodes) (worker : w'.worker = w.worker) : CallInv w' call := by
  obtain ⟨since, place⟩ := holds
  refine ⟨by rw [enables]; exact since, ?_⟩
  cases at_ : call.pc with
  | loading next got follows =>
    intro isUp
    rw [at_] at place
    obtain ⟨recent, loading⟩ := place isUp
    refine ⟨fun field => by rw [origin, decodes]; exact recent field, fun later => ?_⟩
    have load := loading later
    refine ⟨by rw [decodes]; exact load.made, load.loaded, ?_, load.mode⟩
    rw [origin, worker]
    exact load.ahead
  | _ => trivial

theorem inv_setCall (inv : Inv w) {call : Call Adv} (holds : CallInv w call) :
    Inv (setCall reader call w) where
  values := inv.values
  stored := inv.stored
  up := inv.up
  calls := by
    intro other
    refine CallInv.congr (w := w) ?_ rfl rfl rfl rfl
    show CallInv w (Function.update w.calls reader call other)
    by_cases own : other = reader
    · rw [own, Function.update_self]
      exact holds
    · rw [Function.update_of_ne own]
      exact inv.calls other
  reports := inv.reports

omit [DecidableEq Reader] in
theorem inv_report (inv : Inv w) {report : Report}
    (coherent : report.state.link = true → Coherent w.decodes report) :
    Inv ({ w with reports := report :: w.reports } : World Adv Regs Phase Reader) where
  values := inv.values
  stored := inv.stored
  up := inv.up
  calls := fun other => (inv.calls other).congr rfl rfl rfl rfl
  reports := by
    intro earlier member isUp
    obtain new | old := List.mem_cons.mp member
    · rw [new] at isUp ⊢
      exact coherent isUp
    · exact inv.reports earlier old isUp

theorem inv_setPc (inv : Inv w) {pc : GetPc Adv}
    (away : ∀ next got follows, pc ≠ .loading next got follows) : Inv (setPc reader pc w) := by
  refine inv_setCall inv ⟨(inv.calls reader).1, ?_⟩
  cases pc with
  | loading next got follows => exact absurd rfl (away next got follows)
  | _ => trivial

variable {since : Nat} {seen : List PhyInterface} {got : LinkState} {next : Field}
  {follows : Decode}

omit [DecidableEq Reader] in
theorem loading_first (inv : Inv w) (recent : Recent w since) (field : Field)
    (second : field.index = 1) :
    Loading w since seen field (Field.speed.assign w.mpcs.state got) (w.origin .speed) where
  made := recent .speed
  loaded := by
    intro other behind
    have zero : other.index = 0 := by omega
    rw [show other = .speed from index_injective zero]
    exact Same.trans same_assign (inv.values .speed)
  ahead := by
    intro other ahead
    have stored := inv.stored
    unfold Stored at stored
    cases place : w.worker with
    | storing next decode =>
      rw [place] at stored
      obtain ⟨_, writes⟩ := stored
      obtain ⟨old, former⟩ := writes.former
      by_cases begun : next.index = 0
      · left
        rw [former other (by omega), former .speed (by omega)]
      · have speed : w.origin .speed = decode :=
          writes.written .speed (Nat.pos_of_ne_zero begun)
        rw [speed]
        by_cases before : other.index < next.index
        · exact .inl (writes.written other before)
        · exact .inr ⟨next, rfl, Nat.le_of_not_lt before⟩
    | publishing decode =>
      rw [place] at stored
      exact .inl ((stored.2 other).trans (stored.2 .speed).symm)
    | _ =>
      rw [place] at stored
      obtain ⟨decode, all⟩ := stored
      exact .inl ((all other).trans (all .speed).symm)
  mode := by
    intro behind
    rw [second] at behind
    exact absurd behind (by decide)

omit [DecidableEq Reader] in
theorem origin_of_keepsUp (loading : Loading w since seen next got follows) (later : 0 < next.index)
    (keeps : KeepsUp w seen next follows) : w.origin next = follows := by
  obtain own | ⟨position, isStoring, behind⟩ := loading.ahead next (Nat.le_refl _)
  · exact own
  · have apart := keeps.1 later
    rw [isStoring] at apart
    exact absurd rfl (apart behind)

omit [DecidableEq Reader] in
theorem loading_next (inv : Inv w) (loading : Loading w since seen next got follows)
    (later : 0 < next.index) (keeps : KeepsUp w seen next follows) :
    (∀ field : Field, field.index ≤ next.index →
      field.Same (next.assign w.mpcs.state got) follows.state) ∧
      (Field.interface.index ≤ next.index →
        follows.madeFor = follows.state.interface ∧ follows.state.interface ∈ seen) := by
  have origin : w.origin next = follows := origin_of_keepsUp loading later keeps
  have same : next.Same w.mpcs.state follows.state := by
    rw [← origin]
    exact inv.values next
  constructor
  · intro field upTo
    by_cases own : field = next
    · rw [own]
      exact Same.trans same_assign same
    · refine (same_assign_other own).mpr (loading.loaded field ?_)
      exact Nat.lt_of_le_of_ne upTo fun equal => own (index_injective equal)
  · intro upTo
    by_cases own : next = .interface
    · obtain ⟨seen, madeFor⟩ := keeps.2 own
      rw [own] at same origin
      have mode : w.mpcs.state.interface = follows.state.interface := same
      rw [← mode, ← madeFor, origin]
      exact ⟨rfl, by rw [← origin, madeFor]; exact seen⟩
    · refine loading.mode (Nat.lt_of_le_of_ne upTo fun equal => own ?_)
      exact (index_injective equal).symm

theorem inv_loadField (inv : Inv w) (place : (w.calls reader).pc = .loading next got follows)
    (keeps : got.link = true → KeepsUp w (w.calls reader).seen next follows) :
    Inv (loadField reader next got follows w) := by
  obtain ⟨since, here⟩ := inv.calls reader
  rw [place] at here
  unfold loadField
  cases further : next.following with
  | some field =>
    refine inv_setCall inv ⟨since, fun isUp => ?_⟩
    rw [assign_link] at isUp
    obtain ⟨recent, loading⟩ := here isUp
    refine ⟨recent, fun _ => ?_⟩
    have position := following_index further
    by_cases first : next = .speed
    · rw [if_pos first]
      subst first
      exact loading_first inv recent field position
    · rw [if_neg first]
      have later : 0 < next.index :=
        Nat.pos_of_ne_zero fun zero => first (@index_injective _ .speed zero)
      have load := loading later
      obtain ⟨loaded, mode⟩ := loading_next inv load later (keeps isUp)
      refine ⟨load.made, ?_, ?_, ?_⟩
      · intro other behind
        exact loaded other (by omega)
      · intro other ahead
        exact load.ahead other (by omega)
      · intro behind
        exact mode (by omega)
  | none =>
    have later : 0 < next.index := by
      have top := last_index further .anComplete
      exact Nat.lt_of_lt_of_le (by decide) top
    refine inv_setPc (inv_report inv ?_) (by intro _ _ _ same; cases same)
    intro isUp
    rw [assign_link] at isUp
    obtain ⟨_, loading⟩ := here isUp
    have load := loading later
    obtain ⟨loaded, mode⟩ := loading_next inv load later (keeps isUp)
    have all (field : Field) : field.Same (next.assign w.mpcs.state got) follows.state :=
      loaded field (last_index further _)
    have interface : (next.assign w.mpcs.state got).interface = follows.state.interface :=
      all .interface
    obtain ⟨madeFor, seen⟩ := mode (last_index further _)
    refine ⟨follows, load.made.1, load.made.2, all, ?_, ?_⟩
    · rw [interface]
      exact madeFor
    · rw [interface]
      exact seen

end Readers

/-! ## The system -/

section System

variable [DecidableEq Reader] {driver : Driver Adv Regs Phase} {w : World Adv Regs Phase Reader}

omit [DecidableEq Reader] in
theorem inv_mpcs (inv : Inv w) (mpcs : Mpcs Adv) (state : mpcs.state = w.mpcs.state) :
    Inv ({ w with mpcs } : World Adv Regs Phase Reader) :=
  (frame_plumbing mpcs w.lock w.pending w.cancelling w.worker w.control state).inv_elsewhere inv
    (.inl rfl) rfl rfl fun isUp => by rw [← state]; exact isUp

theorem inv_getStateStep {reader : Reader} (inv : Inv w)
    (order : InOrder w (.load reader : Event Adv Regs Reader)) : Inv (getStateStep reader w) := by
  unfold getStateStep
  cases place : (w.calls reader).pc with
  | idle => exact inv
  | copyAdvertising advertising lpAdvertising =>
    refine inv_setPc ?_ (by intro _ _ _ same; cases same)
    exact inv_mpcs inv _ rfl
  | copyLpAdvertising lpAdvertising =>
    refine inv_setPc ?_ (by intro _ _ _ same; cases same)
    exact inv_mpcs inv _ rfl
  | checking =>
    dsimp only
    split
    · exact inv_setPc inv (by intro _ _ _ same; cases same)
    · exact inv_setPc inv (by intro _ _ _ same; cases same)
  | loadLink =>
    obtain ⟨since, _⟩ := inv.calls reader
    refine inv_setCall inv ⟨since, fun isUp => ⟨fun field => ?_, fun later => ?_⟩⟩
    · obtain ⟨member, current⟩ := inv.up isUp field
      exact ⟨member, by rw [current]; exact since⟩
    · exact absurd later (by decide)
  | loading next got follows =>
    have keeps : match (w.calls reader).pc with
        | .loading next got follows =>
          got.link = true → KeepsUp w (w.calls reader).seen next follows
        | _ => True := order
    rw [place] at keeps
    exact inv_loadField inv place keeps

theorem inv_step (event : Event Adv Regs Reader) (inv : Inv w) (order : InOrder w event) :
    Inv (step driver w event) := by
  cases event with
  | config negMode interface =>
    unfold step
    dsimp only
    split
    · exact inv_control inv w.pending w.cancelling _
    · exact inv
  | enable =>
    unfold step
    dsimp only
    split
    case isTrue idle => exact inv_enable inv (order idle)
    case isFalse => exact inv
  | disable =>
    unfold step
    dsimp only
    split
    · exact inv_control inv false true .cancelling
    · exact inv
  | control => exact inv_controlStep inv
  | setPoll poll =>
    exact inv_mpcs inv _ rfl
  | expire =>
    unfold step
    dsimp only
    split
    case isTrue due =>
      have idle : w.worker.isIdle = true := (Bool.and_eq_true_iff.mp due).2
      refine inv_moves inv _ w.lock _ (.inr ⟨?_, trivial⟩)
      cases place : w.worker <;> first | trivial | simp [place, Worker.isIdle] at idle
    case isFalse => exact inv
  | poll regs =>
    refine inv_linkPoll regs inv fun next decode place => ?_
    have behind : match w.worker with
        | .storing field decode => KeepsBehind w field decode
        | _ => True := order
    rw [place] at behind
    exact behind
  | getState reader advertising lpAdvertising =>
    unfold step
    dsimp only
    split
    · refine inv_setCall inv ⟨Nat.le_refl _, ?_⟩
      cases driver.getStateCopiesAdvertising <;> trivial
    · exact inv
  | load reader => exact inv_getStateStep inv order

omit [DecidableEq Reader] in
theorem inv_probed (empty : Adv) (negMode : Int) :
    Inv (probed empty negMode : World Adv Regs Phase Reader) where
  values := fun field => by cases field <;> rfl
  stored := ⟨unwritten, fun _ => rfl⟩
  up := fun isUp => absurd isUp (by simp [probed, unknownState])
  calls := fun _ => ⟨Nat.le_refl 0, trivial⟩
  reports := fun _ member => absurd member (by simp [probed])

theorem reports_coherent (empty : Adv) (negMode : Int) (events : List (Event Adv Regs Reader))
    (order : Along (step driver) InOrder (probed empty negMode) events) :
    AllCoherent (run (step driver) (probed empty negMode) events) :=
  (run_invariant (step driver) InOrder Inv (fun _ event inv order => inv_step event inv order)
    (probed empty negMode) events (inv_probed empty negMode) order).reports

end System

/-! ## Runs of one reader -/

section OneReader

instance (a b : LinkState) : Decidable (∀ field : Field, field.Same a b) :=
  decidable_of_iff
    (a.speed = b.speed ∧ a.duplex = b.duplex ∧ a.interface = b.interface ∧
      a.anComplete = b.anComplete)
    ⟨by
      rintro ⟨speed, duplex, interface, anComplete⟩ field
      cases field <;> assumption,
    fun same => ⟨same .speed, same .duplex, same .interface, same .anComplete⟩⟩

instance (decodes : List Decode) (report : Report) : Decidable (Coherent decodes report) :=
  inferInstanceAs (Decidable (∃ decode ∈ decodes, _))

instance (w : World Adv Regs Phase Reader) : Decidable (AllCoherent w) :=
  inferInstanceAs (Decidable (∀ report ∈ w.reports, _))

instance (w : World Adv Regs Phase Unit) (field : Field) (decode : Decode) :
    Decidable (KeepsBehind w field decode) := by
  have only : Decidable (match (w.calls ()).pc with
      | .loading next got follows =>
        got.link = true → 0 < next.index → next.index ≤ field.index → follows = decode
      | _ => True) := by
    cases (w.calls ()).pc <;> infer_instance
  exact @decidable_of_iff _ _ ⟨fun holds _ => holds, fun holds => holds ()⟩ only

instance (w : World Adv Regs Phase Unit) (seen : List PhyInterface) (next : Field)
    (follows : Decode) : Decidable (KeepsUp w seen next follows) := by
  unfold KeepsUp
  cases w.worker <;> infer_instance

instance (w : World Adv Regs Phase Unit) : Decidable (Lowered w) := by
  unfold Lowered
  cases w.worker <;> infer_instance

instance (w : World Adv Regs Phase Unit) :
    (event : Event Adv Regs Unit) → Decidable (InOrder w event)
  | .poll regs => by
    unfold InOrder
    cases w.worker <;> infer_instance
  | .load reader => by
    unfold InOrder
    dsimp only
    cases (w.calls reader).pc <;> infer_instance
  | .enable => by
    unfold InOrder
    infer_instance
  | .config .. => .isTrue trivial
  | .disable => .isTrue trivial
  | .control => .isTrue trivial
  | .setPoll _ => .isTrue trivial
  | .expire => .isTrue trivial
  | .getState .. => .isTrue trivial

/-- `LPA_SGMII_LINK`, `LPA_SGMII_SPD_MASK` and `LPA_SGMII_FULL_DUPLEX`. -/
def phylinkDecodeSgmiiWord (state : LinkState) (lpa : BitVec 16) : LinkState :=
  if lpa.getLsbD 15 = false then { state with link := false }
  else
    let duplex := if lpa.getLsbD 12 then 1 else 0
    match (lpa.extractLsb' 10 2).toNat with
    | 0 => { state with speed := 10, duplex }
    | 1 => { state with speed := 100, duplex }
    | 2 => { state with speed := 1000, duplex }
    | _ => { state with link := false }

/-- `PHYLINK_PCS_NEG_INBAND_ENABLED`. -/
def inbandEnabled : Int := 0x50

/-- `phylink_mii_c22_pcs_decode_state` for the modes of the runs below. -/
def phylinkMiiC22PcsDecodeState (state : LinkState) (_ _ : Bool) (negMode : Int)
    (bmsr lpa : BitVec 16) : LinkState :=
  let decoded := { state with link := bmsr.getLsbD 2, anComplete := bmsr.getLsbD 5 }
  if decoded.link = false then decoded
  else match state.interface with
    | .base1000x => { decoded with speed := 1000, duplex := 1 }
    | .base2500x => { decoded with speed := 2500, duplex := 1 }
    | .sgmii => if negMode = inbandEnabled then phylinkDecodeSgmiiWord decoded lpa else decoded
    | _ => { decoded with link := false }

def sgmiiDriver : Driver Bool LynxiRegs (LynxiUpdate Bool) :=
  lynxi (fun advertising => !advertising) phylinkMiiC22PcsDecodeState
    fun interface => decide (interface ∈ [.sgmii, .base1000x, .base2500x])

def usxgmiiDriver : Driver Bool UsxgmiiRegs UsxgmiiUpdate :=
  usxgmii (fun state _ => state) (fun state _ => { state with speed := 10000, duplex := 1 })
    fun interface => decide (interface ∈ [.base5gr, .base10gr, .base10gkr, .usxgmii])

/-- `BMSR_LSTATUS` is set. -/
def linkedRegs : LynxiRegs := ⟨0x00040000#32, 0#32, true⟩

def receivingRegs : UsxgmiiRegs := ⟨4#32, 0#32, false, 0#32, 0#32⟩

def polled (regs : LynxiRegs) (steps : Nat) : List (Event Bool LynxiRegs Unit) :=
  .expire :: List.replicate steps (.poll regs)

def configured (negMode : Int) (interface : PhyInterface) : List (Event Bool LynxiRegs Unit) :=
  .config negMode interface :: List.replicate 4 .control

def getState (steps : Nat) : List (Event Bool LynxiRegs Unit) :=
  .getState () true true :: List.replicate steps (.load ())

/-- The link comes up in 2500base-X: the first decode goes by no mode, the second by the
configured one. -/
def linkedRun : List (Event Bool LynxiRegs Unit) :=
  .enable :: getState 3 ++ configured 0 .base2500x ++ polled linkedRegs 16 ++
    polled linkedRegs 16

def receivingRun : List (Event Bool UsxgmiiRegs Unit) :=
  [.enable, .config 0 .base10gr] ++ List.replicate 3 .control ++
    [.expire] ++ List.replicate 16 (.poll receivingRegs) ++
    [.getState () true true] ++ List.replicate 6 (.load ())

/-- The mode changes to 1000base-X while the link is up, and `get_state` runs before the
next poll. -/
def staleRun : List (Event Bool LynxiRegs Unit) :=
  linkedRun ++ configured 0 .base1000x ++ getState 8

/-- The same, and `get_state` runs behind the next poll. -/
def misreadRun : List (Event Bool LynxiRegs Unit) :=
  linkedRun ++ configured 0 .base1000x ++ polled linkedRegs 15 ++ getState 8

def tornRun : List (Event Bool LynxiRegs Unit) :=
  .enable :: getState 3 ++ configured inbandEnabled .sgmii ++
    polled ⟨0x00040000#32, 0x84000000#32, true⟩ 14 ++
    polled ⟨0x00040000#32, 0x84000000#32, true⟩ 14 ++ getState 5 ++
    polled ⟨0x00040000#32, 0x98000000#32, true⟩ 14 ++ List.replicate 3 (.load ())

end OneReader

end OpenwrtSource.Pcs.Coherence
