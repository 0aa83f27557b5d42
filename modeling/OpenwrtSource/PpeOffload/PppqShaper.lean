import Mathlib.Algebra.BigOperators.Fin
import Mathlib.Algebra.BigOperators.Group.Finset.Basic
import Mathlib.Algebra.Order.BigOperators.Group.Finset
import Mathlib.Data.BitVec
import Mathlib.Data.Fintype.Card
import OpenwrtSource.Lib.Run

/-!
# The users of the PPPQ queues

In the adaptive mode a flow gets the shaper of its queue only while the speeds
of the queues in use stay under a threshold.  `refcnt` says which queues are in
use; it is counted beside the FOE table, where entries are bound and cleared.
-/

namespace OpenwrtSource.PpeOffload.PppqShaper

open Lib.Run

/-! ## `struct mtk_qdma_shaper` -/

/-- `MTK_QDMA_NUM_QUEUES`. -/
def numQueues : Nat := 16

structure Shaper where
  refcnt : Nat → Nat
  speed : Nat → Nat
  threshold : Nat

structure Eth where
  netsysV3 : Bool
  qosToggle : Nat

def Eth.adaptive (eth : Eth) : Bool := eth.netsysV3 && eth.qosToggle == 3

/-- The sum of the loop of `mtk_shaper_is_available`. -/
def active (shaper : Shaper) : Nat :=
  ∑ i ∈ Finset.range numQueues, if shaper.refcnt i = 0 then 0 else shaper.speed i

/-- The test of the index lets `MTK_QDMA_NUM_QUEUES` itself through, and `none` is
the access past the end of the arrays.  The sum is an `unsigned int`. -/
def mtkShaperIsAvailable (eth : Eth) (shaper : Shaper) (idx : Nat) : Option Bool :=
  if eth.netsysV3 = false ∨ numQueues < idx then some false
  else if idx = numQueues then none
  else some (shaper.refcnt idx != 0 ||
    decide ((active shaper + shaper.speed idx) % 2 ^ 32 ≤ shaper.threshold))

def mtkShaperUpdateRefcnt (eth : Eth) (shaper : Shaper) (idx : Nat) (add : Bool) :
    Option Shaper :=
  if eth.netsysV3 = false then some shaper
  else if numQueues ≤ idx then none
  else if add then
    some { shaper with refcnt := Function.update shaper.refcnt idx (shaper.refcnt idx + 1) }
  else if shaper.refcnt idx ≠ 0 then
    some { shaper with refcnt := Function.update shaper.refcnt idx (shaper.refcnt idx - 1) }
  else some shaper

/-- The end of `mtk_set_queue_speed`: a link above 2500 Mbit/s has no queue to shape. -/
def mtkSetQueueSpeed (shaper : Shaper) (idx speed : Nat) : Shaper :=
  if speed ≤ 2500 then { shaper with speed := Function.update shaper.speed idx speed }
  else shaper

/-! ## The FOE table -/

inductive FoeState
  | invalid
  | unbind
  | bind
  | fin
  deriving DecidableEq

structure FoeEntry where
  state : FoeState
  ib2 : BitVec 32

/-- `MTK_FOE_IB2_PSE_QOS_V2`. -/
def pseQos (ib2 : BitVec 32) : Bool := ib2.getLsbD 8

/-- `MTK_FOE_IB2_QID_V2`. -/
def mtkFoeEntryGetQueue (ib2 : BitVec 32) : Nat := (ib2.extractLsb' 0 7).toNat

def withoutShaper (ib2 : BitVec 32) : BitVec 32 := ib2 &&& ~~~0x17f#32

/-- The queue that an `ib2` word asks for. -/
def named (ib2 : BitVec 32) : Option Nat :=
  if pseQos ib2 then some (mtkFoeEntryGetQueue ib2) else none

def FoeEntry.holds (entry : FoeEntry) : Option Nat :=
  if entry.state = .bind then named entry.ib2 else none

inductive FlowType (Flow : Type)
  | regular
  | l2 (subflows : List Flow)
  | subflow (base : Flow)

/-- `struct mtk_flow_entry`; a `hash` of 0xffff is `none`.  `mtk_foe_entry_prepare` has
set the state in the `ib1` of its data to BIND. -/
structure FlowEntry (Flow : Type) (entries : Nat) where
  type : FlowType Flow
  hash : Option (Fin entries)
  ib2 : BitVec 32

structure Ppe (Flow : Type) (entries : Nat) where
  shaper : Shaper
  table : Fin entries → FoeEntry
  flows : Flow → Option (FlowEntry Flow entries)
  /-- An array has been accessed past its end. -/
  overrun : Bool

section Calls

variable {Flow : Type} [DecidableEq Flow] {entries : Nat}

def setFlow (flow : Flow) (entry : Option (FlowEntry Flow entries)) (ppe : Ppe Flow entries) :
    Ppe Flow entries :=
  { ppe with flows := Function.update ppe.flows flow entry }

/-- The shaper's part of `__mtk_foe_entry_commit`: the shaper and the `ib2` to bind. -/
def takeQueue (eth : Eth) (shaper : Shaper) (ib2 : BitVec 32) : Option (Shaper × BitVec 32) :=
  if eth.adaptive = true ∧ pseQos ib2 = true then
    match mtkShaperIsAvailable eth shaper (mtkFoeEntryGetQueue ib2) with
    | none => none
    | some true =>
      (mtkShaperUpdateRefcnt eth shaper (mtkFoeEntryGetQueue ib2) true).map (·, ib2)
    | some false => some (shaper, withoutShaper ib2)
  else some (shaper, ib2)

/-- `__mtk_foe_entry_commit`, with the `ib2` that it leaves in its caller's entry. -/
def mtkFoeEntryCommit (eth : Eth) (ib2 : BitVec 32) (hash : Fin entries)
    (ppe : Ppe Flow entries) : Ppe Flow entries × BitVec 32 :=
  match takeQueue eth ppe.shaper ib2 with
  | none => ({ ppe with overrun := true }, ib2)
  | some (shaper, bound) =>
    ({ ppe with shaper, table := Function.update ppe.table hash ⟨.bind, bound⟩ }, bound)

/-- The shaper's part of `__mtk_foe_entry_clear`. -/
def dropQueue (eth : Eth) (shaper : Shaper) (ib2 : BitVec 32) : Option Shaper :=
  if eth.adaptive = true ∧ pseQos ib2 = true then
    mtkShaperUpdateRefcnt eth shaper (mtkFoeEntryGetQueue ib2) false
  else some shaper

/-- The entry of the table becomes invalid, whoever has bound it. -/
def invalidate (hash : Fin entries) (table : Fin entries → FoeEntry) : Fin entries → FoeEntry :=
  Function.update table hash { table hash with state := .invalid }

def removeSubflow (flow : Flow) : FlowType Flow → FlowType Flow
  | .l2 subflows => .l2 (subflows.filter (· ≠ flow))
  | type => type

/-- Behind the part of the table: a subflow leaves its L2 flow and is freed. -/
def unlinkSubflow (flow : Flow) (entry : FlowEntry Flow entries) (ppe : Ppe Flow entries) :
    Ppe Flow entries :=
  match entry.type with
  | .subflow base =>
    setFlow flow none
      (match ppe.flows base with
        | some l2 => setFlow base (some { l2 with type := removeSubflow flow l2.type }) ppe
        | none => ppe)
  | _ => ppe

/-- `__mtk_foe_entry_clear` of a flow that is no L2 flow. -/
def clearEntry (eth : Eth) (setState : Bool) (ppe : Ppe Flow entries) (flow : Flow) :
    Ppe Flow entries :=
  match ppe.flows flow with
  | none => ppe
  | some entry =>
    match entry.hash, setState with
    | some hash, true =>
      match dropQueue eth ppe.shaper entry.ib2 with
      | none => { ppe with overrun := true }
      | some shaper =>
        unlinkSubflow flow entry
          (setFlow flow (some { entry with hash := none })
            { ppe with shaper, table := invalidate hash ppe.table })
    | _, _ => unlinkSubflow flow entry ppe

/-- The flows that `__mtk_foe_entry_clear` goes through. -/
def clearedFlows (ppe : Ppe Flow entries) (flow : Flow) : List Flow :=
  match ppe.flows flow with
  | some ⟨.l2 subflows, _, _⟩ => subflows
  | _ => [flow]

def mtkFoeEntryClear (eth : Eth) (setState : Bool) (flow : Flow) (ppe : Ppe Flow entries) :
    Ppe Flow entries :=
  run (clearEntry eth setState) ppe (clearedFlows ppe flow)

/-! ## The events -/

inductive Event (Flow : Type) (entries : Nat)
  /-- `mtk_foe_entry_commit` of a new flow. -/
  | offload (flow : Flow) (bridge : Bool) (ib2 : BitVec 32)
  /-- A packet of the flow is at `hash`. -/
  | commit (flow : Flow) (hash : Fin entries)
  /-- A packet of an L2 flow is at `hash`: a copy with the `ib2` of the L2 flow is
  bound, and `kept` is left in the data of the subflow. -/
  | commitSubflow (l2 subflow : Flow) (hash : Fin entries) (kept : BitVec 32)
  | clear (flow : Flow) (setState : Bool)

def step (eth : Eth) (ppe : Ppe Flow entries) (event : Event Flow entries) : Ppe Flow entries :=
  if ppe.overrun then ppe
  else match event with
    | .offload flow bridge ib2 =>
      setFlow flow (some ⟨if bridge then .l2 [] else .regular, none, ib2⟩) ppe
    | .commit flow hash =>
      match ppe.flows flow with
      | none => ppe
      | some entry =>
        let committed := mtkFoeEntryCommit eth entry.ib2 hash ppe
        setFlow flow (some { entry with hash := some hash, ib2 := committed.2 }) committed.1
    | .commitSubflow l2 subflow hash kept =>
      match ppe.flows l2 with
      | some ⟨.l2 subflows, own, ib2⟩ =>
        setFlow subflow (some ⟨.subflow l2, some hash, kept⟩)
          (setFlow l2 (some ⟨.l2 (subflow :: subflows), own, ib2⟩)
            (mtkFoeEntryCommit eth ib2 hash ppe).1)
      | _ => ppe
    | .clear flow setState => mtkFoeEntryClear eth setState flow ppe

/-! ## The property -/

/-- The entries of the table that hold queue `q`. -/
def holders (table : Fin entries → FoeEntry) (q : Nat) : Nat :=
  (Finset.univ.filter fun hash => (table hash).holds = some q).card

structure Accounted (ppe : Ppe Flow entries) : Prop where
  inBounds : ppe.overrun = false
  count : ∀ q < numQueues, ppe.shaper.refcnt q = holders ppe.table q
  queues : ∀ hash q, (ppe.table hash).holds = some q → q < numQueues
  speeds : active ppe.shaper ≤ ppe.shaper.threshold

/-! ## The condition -/

/-- The entry to bind asks for none of the queues past the last, and the one that it
replaces holds none. -/
def MayBind (ppe : Ppe Flow entries) (hash : Fin entries) (ib2 : BitVec 32) : Prop :=
  (ppe.table hash).holds = none ∧ named ib2 ≠ some numQueues

def Unused (refcnt : Nat → Nat) : Option Nat → Prop
  | some q => q < numQueues ∧ refcnt q = 0
  | none => True

/-- The entry of the table that goes holds just the queue that the flow names; or it
holds none, and the queue named has no users. -/
def MayClear (ppe : Ppe Flow entries) (flow : Flow) : Prop :=
  match ppe.flows flow with
  | some ⟨_, some hash, ib2⟩ =>
    (ppe.table hash).holds = named ib2 ∨
      ((ppe.table hash).holds = none ∧ Unused ppe.shaper.refcnt (named ib2))
  | _ => True

def Matching (eth : Eth) (ppe : Ppe Flow entries) : Event Flow entries → Prop
  | .offload _ _ _ => True
  | .commit flow hash =>
    match ppe.flows flow with
    | some entry => MayBind ppe hash entry.ib2
    | none => True
  | .commitSubflow l2 _ hash _ =>
    match ppe.flows l2 with
    | some ⟨.l2 _, _, ib2⟩ => MayBind ppe hash ib2
    | _ => True
  | .clear flow setState =>
    setState = true →
      Along (clearEntry eth setState) MayClear ppe (clearedFlows ppe flow)

/-! ## The table -/

/-- `mtk_is_netsys_v3_or_greater`, and `qos_toggle` is 3. -/
def adaptiveV3 : Eth := ⟨true, 3⟩

/-- How often an optional queue is `q`. -/
def countOf (queue : Option Nat) (q : Nat) : Nat := if queue = some q then 1 else 0

section Table

variable {table : Fin entries → FoeEntry} {hash : Fin entries} {entry : FoeEntry}

omit [DecidableEq Flow] in
theorem holders_update (table : Fin entries → FoeEntry) (hash : Fin entries) (entry : FoeEntry)
    (q : Nat) :
    holders (Function.update table hash entry) q + countOf (table hash).holds q =
      holders table q + countOf entry.holds q := by
  have others : ∑ other ∈ Finset.univ.erase hash,
      countOf (Function.update table hash entry other).holds q =
        ∑ other ∈ Finset.univ.erase hash, countOf (table other).holds q := by
    refine Finset.sum_congr rfl fun other member => ?_
    rw [Function.update_of_ne (Finset.ne_of_mem_erase member)]
  have asSum (table : Fin entries → FoeEntry) :
      holders table q = countOf (table hash).holds q +
        ∑ other ∈ Finset.univ.erase hash, countOf (table other).holds q := by
    rw [Finset.add_sum_erase Finset.univ (fun other => countOf (table other).holds q)
      (Finset.mem_univ hash)]
    exact Finset.card_filter _ _
  rw [asSum (Function.update table hash entry), asSum table, others, Function.update_self]
  omega

omit [DecidableEq Flow] in
theorem holds_invalid (ib2 : BitVec 32) : (FoeEntry.mk .invalid ib2).holds = none := rfl

theorem named_withoutShaper (ib2 : BitVec 32) : named (withoutShaper ib2) = none := by
  have off : pseQos (withoutShaper ib2) = false := by
    simp [pseQos, withoutShaper]
  rw [named, off]
  rfl

end Table

/-! ## The shaper -/

section ShaperCalls

omit [DecidableEq Flow]

variable {shaper after : Shaper} {ib2 bound : BitVec 32}

/-- No recorded speed is above 2500: sums of them do not wrap. -/
def Recorded (shaper : Shaper) : Prop := ∀ idx, shaper.speed idx ≤ 2500

/-- What a commit that binds an entry with `queue` does to the shaper. -/
structure Takes (before after : Shaper) (queue : Option Nat) : Prop where
  speed : after.speed = before.speed
  threshold : after.threshold = before.threshold
  refcnt : ∀ q, after.refcnt q = before.refcnt q + countOf queue q
  inRange : ∀ q, queue = some q → q < numQueues
  under : active before ≤ before.threshold → active after ≤ after.threshold

/-- What a clear of an entry that names `queue` does to the shaper. -/
structure Drops (before after : Shaper) (queue : Option Nat) : Prop where
  speed : after.speed = before.speed
  threshold : after.threshold = before.threshold
  refcnt : ∀ q, after.refcnt q = before.refcnt q - countOf queue q
  inRange : ∀ q, queue = some q → q < numQueues
  under : active after ≤ active before

theorem active_lt (recorded : Recorded shaper) : active shaper ≤ 40000 := by
  have each : active shaper ≤ ∑ _i ∈ Finset.range numQueues, 2500 := by
    refine Finset.sum_le_sum fun i _ => ?_
    split
    · exact Nat.zero_le _
    · exact recorded i
  simpa [numQueues] using each

theorem active_used {q : Nat} (used : shaper.refcnt q ≠ 0) :
    active { shaper with refcnt := Function.update shaper.refcnt q (shaper.refcnt q + 1) } =
      active shaper := by
  refine Finset.sum_congr rfl fun i _ => ?_
  by_cases own : i = q
  · simp [own, used]
  · simp [Function.update_of_ne own]

theorem active_add {q count : Nat} :
    active { shaper with refcnt := Function.update shaper.refcnt q count } ≤
      active shaper + shaper.speed q := by
  have each : active { shaper with refcnt := Function.update shaper.refcnt q count } ≤
      ∑ i ∈ Finset.range numQueues,
        ((if shaper.refcnt i = 0 then 0 else shaper.speed i) +
          if i = q then shaper.speed q else 0) := by
    refine Finset.sum_le_sum fun i _ => ?_
    by_cases own : i = q
    · rw [own]
      simp only [Function.update_self, if_true]
      split <;> omega
    · simp [own]
  rw [Finset.sum_add_distrib, Finset.sum_ite_eq'] at each
  refine Nat.le_trans each (Nat.add_le_add_left ?_ _)
  split <;> omega

theorem active_drop {q count : Nat} (less : count ≤ shaper.refcnt q) :
    active { shaper with refcnt := Function.update shaper.refcnt q count } ≤ active shaper := by
  refine Finset.sum_le_sum fun i _ => ?_
  by_cases own : i = q
  · rw [own]
    simp only [Function.update_self]
    split
    · exact Nat.zero_le _
    · rw [if_neg (by omega)]
  · simp [Function.update_of_ne own]

theorem refcnt_add (q : Nat) (other : Nat) :
    Function.update shaper.refcnt q (shaper.refcnt q + 1) other =
      shaper.refcnt other + countOf (some q) other := by
  by_cases own : other = q
  · simp [own, countOf]
  · simp [Function.update_of_ne own, countOf, Ne.symm own]

theorem refcnt_sub (q : Nat) (other : Nat) :
    Function.update shaper.refcnt q (shaper.refcnt q - 1) other =
      shaper.refcnt other - countOf (some q) other := by
  by_cases own : other = q
  · simp [own, countOf]
  · simp [Function.update_of_ne own, countOf, Ne.symm own]

theorem takes_nothing : Takes shaper shaper none :=
  ⟨rfl, rfl, fun _ => rfl, fun _ same => absurd same (by simp), id⟩

theorem drops_nothing : Drops shaper shaper none :=
  ⟨rfl, rfl, fun _ => rfl, fun _ same => absurd same (by simp), Nat.le_refl _⟩

theorem takes_queue (recorded : Recorded shaper) {q : Nat} (inRange : q < numQueues)
    (available : mtkShaperIsAvailable adaptiveV3 shaper q = some true) :
    Takes shaper
      { shaper with refcnt := Function.update shaper.refcnt q (shaper.refcnt q + 1) }
      (some q) where
  speed := rfl
  threshold := rfl
  refcnt := refcnt_add q
  inRange := fun _ same => Option.some.inj same ▸ inRange
  under := by
    intro under
    by_cases used : shaper.refcnt q = 0
    · have fits : (active shaper + shaper.speed q) % 2 ^ 32 ≤ shaper.threshold := by
        have inside : ¬ (numQueues < q) ∧ q ≠ numQueues := by omega
        simpa [mtkShaperIsAvailable, adaptiveV3, inside.1, inside.2, used] using available
      have small : active shaper + shaper.speed q < 2 ^ 32 := by
        have sum := active_lt recorded
        have own := recorded q
        omega
      rw [Nat.mod_eq_of_lt small] at fits
      exact Nat.le_trans active_add fits
    · rw [active_used used]
      exact under

theorem takeQueue_none : takeQueue adaptiveV3 shaper ib2 = none ↔ named ib2 = some numQueues := by
  unfold takeQueue named
  cases qos : pseQos ib2 with
  | false => simp
  | true =>
    rw [if_pos ⟨by decide, rfl⟩, if_pos rfl]
    by_cases past : numQueues < mtkFoeEntryGetQueue ib2
    · simp only [mtkShaperIsAvailable, if_pos (Or.inr past)]
      simp only [Option.some.injEq, reduceCtorEq, false_iff]
      omega
    · by_cases end_ : mtkFoeEntryGetQueue ib2 = numQueues
      · simp [mtkShaperIsAvailable, adaptiveV3, end_]
      · have inside : ¬ numQueues ≤ mtkFoeEntryGetQueue ib2 := by omega
        simp only [mtkShaperIsAvailable, mtkShaperUpdateRefcnt, adaptiveV3, end_, past, inside,
          reduceCtorEq, or_self, if_false, if_true, Option.some.injEq, iff_false]
        split <;> simp_all

theorem takeQueue_some (recorded : Recorded shaper) (bound : BitVec 32)
    (takes : takeQueue adaptiveV3 shaper ib2 = some (after, bound)) :
    Takes shaper after (named bound) := by
  unfold takeQueue at takes
  cases qos : pseQos ib2 with
  | false =>
    rw [qos, if_neg (by simp)] at takes
    obtain ⟨rfl, rfl⟩ := Prod.mk.inj (Option.some.inj takes)
    rw [named, qos]
    exact takes_nothing
  | true =>
    rw [qos, if_pos ⟨by decide, rfl⟩] at takes
    cases available : mtkShaperIsAvailable adaptiveV3 shaper (mtkFoeEntryGetQueue ib2) with
    | none =>
      rw [available] at takes
      cases takes
    | some free =>
      rw [available] at takes
      cases free with
      | false =>
        obtain ⟨rfl, rfl⟩ := Prod.mk.inj (Option.some.inj takes)
        rw [named_withoutShaper]
        exact takes_nothing
      | true =>
        have inRange : mtkFoeEntryGetQueue ib2 < numQueues := by
          by_contra outside
          unfold mtkShaperIsAvailable at available
          split at available
          · cases available
          · split at available
            · cases available
            · omega
        dsimp only at takes
        simp only [mtkShaperUpdateRefcnt, adaptiveV3, Nat.not_le.mpr inRange, reduceCtorEq,
          if_false, if_true, Option.map_some] at takes
        obtain ⟨rfl, rfl⟩ := Prod.mk.inj (Option.some.inj takes)
        rw [named, qos, if_pos rfl]
        exact takes_queue recorded inRange available

theorem dropQueue_none (shaper : Shaper) :
    dropQueue adaptiveV3 shaper ib2 = none ↔ ∃ q, named ib2 = some q ∧ numQueues ≤ q := by
  unfold dropQueue named
  cases qos : pseQos ib2 with
  | false => simp
  | true =>
    rw [if_pos ⟨by decide, rfl⟩, if_pos rfl]
    by_cases past : numQueues ≤ mtkFoeEntryGetQueue ib2
    · simp [mtkShaperUpdateRefcnt, adaptiveV3, past]
    · simp only [mtkShaperUpdateRefcnt, adaptiveV3, past, reduceCtorEq, if_false]
      constructor
      · intro impossible
        split at impossible <;> cases impossible
      · rintro ⟨q, same, outside⟩
        exact absurd (Option.some.inj same ▸ outside) past

theorem dropQueue_some (drops : dropQueue adaptiveV3 shaper ib2 = some after) :
    Drops shaper after (named ib2) := by
  have inRange : ¬ ∃ q, named ib2 = some q ∧ numQueues ≤ q := by
    rw [← dropQueue_none shaper, drops]
    simp
  unfold dropQueue at drops
  cases qos : pseQos ib2 with
  | false =>
    rw [qos, if_neg (by simp)] at drops
    obtain rfl := Option.some.inj drops
    rw [named, qos]
    exact drops_nothing
  | true =>
    rw [qos, if_pos ⟨by decide, rfl⟩] at drops
    have names : named ib2 = some (mtkFoeEntryGetQueue ib2) := by rw [named, qos, if_pos rfl]
    have inside : mtkFoeEntryGetQueue ib2 < numQueues := by
      by_contra outside
      exact inRange ⟨_, names, Nat.le_of_not_lt outside⟩
    simp only [mtkShaperUpdateRefcnt, adaptiveV3, Nat.not_le.mpr inside, reduceCtorEq,
      if_false] at drops
    rw [names]
    split at drops
    case isTrue used =>
      obtain rfl := Option.some.inj drops
      exact ⟨rfl, rfl, refcnt_sub _, fun _ same => Option.some.inj same ▸ inside,
        active_drop (Nat.sub_le _ _)⟩
    case isFalse unused =>
      obtain rfl := Option.some.inj drops
      refine ⟨rfl, rfl, fun q => ?_, fun _ same => Option.some.inj same ▸ inside,
        Nat.le_refl _⟩
      by_cases own : q = mtkFoeEntryGetQueue ib2
      · rw [own]
        omega
      · simp [countOf, Ne.symm own]

end ShaperCalls

/-! ## One commit, one clear -/

section Steps

variable {ppe : Ppe Flow entries} {hash : Fin entries} {ib2 : BitVec 32} {flow : Flow}

omit [DecidableEq Flow] in
theorem countOf_eq_zero {queue : Option Nat} (none_ : ∀ q < numQueues, countOf queue q = 0)
    (inRange : ∀ q, queue = some q → q < numQueues) : queue = none := by
  cases queue with
  | none => rfl
  | some q => exact absurd (none_ q (inRange q rfl)) (by simp [countOf])

omit [DecidableEq Flow] in
theorem accounted_commit (recorded : Recorded ppe.shaper) (acc : Accounted ppe) :
    Accounted (mtkFoeEntryCommit adaptiveV3 ib2 hash ppe).1 ↔ MayBind ppe hash ib2 := by
  unfold mtkFoeEntryCommit
  cases takes : takeQueue adaptiveV3 ppe.shaper ib2 with
  | none =>
    refine iff_of_false (fun broken => ?_) fun may => may.2 (takeQueue_none.mp takes)
    exact absurd broken.inBounds (by simp)
  | some taken =>
    obtain ⟨after, bound⟩ := taken
    have effect := takeQueue_some recorded _ takes
    have inside : named ib2 ≠ some numQueues := by
      rw [← takeQueue_none.ne, takes]
      simp
    have held (q : Nat) :
        holders (Function.update ppe.table hash ⟨.bind, bound⟩) q +
            countOf (ppe.table hash).holds q =
          holders ppe.table q + countOf (named bound) q := holders_update _ _ _ q
    constructor
    · intro kept
      refine ⟨countOf_eq_zero (fun q inRange => ?_) (acc.queues hash), inside⟩
      have now : after.refcnt q = holders (Function.update ppe.table hash ⟨.bind, bound⟩) q :=
        kept.count q inRange
      rw [effect.refcnt, acc.count q inRange] at now
      have balance := held q
      omega
    · intro may
      refine ⟨acc.inBounds, fun q inRange => ?_, fun other q holds => ?_,
        effect.under acc.speeds⟩
      · have balance := held q
        rw [may.1, show countOf none q = 0 from rfl] at balance
        show after.refcnt q = _
        rw [effect.refcnt, acc.count q inRange]
        exact balance.symm
      · by_cases own : other = hash
        · subst own
          have own_ : (Function.update ppe.table other ⟨.bind, bound⟩ other).holds = some q :=
            holds
          rw [Function.update_self] at own_
          exact effect.inRange q own_
        · refine acc.queues other q ?_
          rw [← holds]
          exact congrArg FoeEntry.holds (Function.update_of_ne own ..).symm

omit [DecidableEq Flow] in
theorem Accounted.flows (acc : Accounted ppe) (flows : Flow → Option (FlowEntry Flow entries)) :
    Accounted { ppe with flows } :=
  ⟨acc.inBounds, acc.count, acc.queues, acc.speeds⟩

theorem accounted_setFlow {entry : Option (FlowEntry Flow entries)} :
    Accounted (setFlow flow entry ppe) ↔ Accounted ppe :=
  ⟨fun acc => acc.flows ppe.flows, fun acc => acc.flows _⟩

theorem accounted_unlinkSubflow {entry : FlowEntry Flow entries} :
    Accounted (unlinkSubflow flow entry ppe) ↔ Accounted ppe := by
  unfold unlinkSubflow
  cases entry.type with
  | regular => exact Iff.rfl
  | l2 subflows => exact Iff.rfl
  | subflow base =>
    rw [accounted_setFlow]
    cases ppe.flows base with
    | none => exact Iff.rfl
    | some l2 => exact accounted_setFlow

omit [DecidableEq Flow] in
theorem clear_balanced {refcnt : Nat → Nat} {old names : Option Nat}
    (range : ∀ q, old = some q → q < numQueues ∧ refcnt q ≠ 0)
    (nameRange : ∀ q, names = some q → q < numQueues) :
    (∀ q < numQueues, min (refcnt q) (countOf names q) = countOf old q) ↔
      (old = names ∨ (old = none ∧ Unused refcnt names)) := by
  cases old with
  | none =>
    cases names with
    | none => simp [countOf, Unused]
    | some r =>
      have inside := nameRange r rfl
      constructor
      · intro balanced
        have zero := balanced r inside
        simp only [countOf, if_true, reduceCtorEq, if_false] at zero
        exact .inr ⟨rfl, inside, by omega⟩
      · rintro (same | ⟨-, -, unused⟩) q _
        · cases same
        · by_cases own : q = r
          · rw [own, unused]
            simp [countOf]
          · simp [countOf, Ne.symm own]
  | some held =>
    obtain ⟨inside, used⟩ := range held rfl
    constructor
    · intro balanced
      have one := balanced held inside
      left
      by_contra different
      rw [show countOf names held = 0 from if_neg (Ne.symm different)] at one
      simp [countOf] at one
    · rintro (same | ⟨impossible, -⟩) q _
      · rw [← same]
        by_cases own : held = q
        · rw [← own]
          simp only [countOf, if_true]
          omega
        · simp [countOf, own]
      · cases impossible

theorem accounted_clear (acc : Accounted ppe) :
    Accounted (clearEntry adaptiveV3 true ppe flow) ↔ MayClear ppe flow := by
  unfold clearEntry MayClear
  cases ppe.flows flow with
  | none => exact iff_of_true acc trivial
  | some entry =>
    obtain ⟨type, place, ib2⟩ := entry
    cases place with
    | none => exact iff_of_true (accounted_unlinkSubflow.mpr acc) trivial
    | some hash =>
      dsimp only
      cases drops : dropQueue adaptiveV3 ppe.shaper ib2 with
      | none =>
        obtain ⟨q, names, outside⟩ := (dropQueue_none _).mp drops
        refine iff_of_false (fun broken => absurd broken.inBounds (by simp)) ?_
        rintro (same | ⟨_, unused⟩)
        · exact absurd (acc.queues hash q (same.trans names)) (by omega)
        · rw [names] at unused
          exact absurd unused.1 (by omega)
      | some after =>
        have effect := dropQueue_some drops
        dsimp only
        rw [accounted_unlinkSubflow, accounted_setFlow]
        have held (q : Nat) : holders (invalidate hash ppe.table) q +
            countOf (ppe.table hash).holds q = holders ppe.table q := by
          have balance := holders_update ppe.table hash
            ⟨.invalid, (ppe.table hash).ib2⟩ q
          rw [holds_invalid] at balance
          exact balance
        have range (q : Nat) (holds : (ppe.table hash).holds = some q) :
            q < numQueues ∧ ppe.shaper.refcnt q ≠ 0 := by
          have inRange := acc.queues hash q holds
          have balance := held q
          rw [holds, show countOf (some q) q = 1 from if_pos rfl] at balance
          refine ⟨inRange, ?_⟩
          rw [acc.count q inRange]
          omega
        rw [← clear_balanced range effect.inRange]
        constructor
        · intro kept q inRange
          have now : after.refcnt q = holders (invalidate hash ppe.table) q :=
            kept.count q inRange
          rw [effect.refcnt] at now
          have balance := held q
          have counted := acc.count q inRange
          omega
        · intro same
          refine ⟨acc.inBounds, fun q inRange => ?_, fun other q holds => ?_, ?_⟩
          · show after.refcnt q = holders (invalidate hash ppe.table) q
            rw [effect.refcnt]
            have balance := held q
            have counted := acc.count q inRange
            have equal := same q inRange
            omega
          · by_cases own : other = hash
            · subst own
              have empty : (invalidate other ppe.table other).holds = some q := holds
              rw [invalidate, Function.update_self] at empty
              cases empty
            · have kept : (invalidate hash ppe.table other).holds = some q := holds
              rw [invalidate, Function.update_of_ne own] at kept
              exact acc.queues other q kept
          · show active after ≤ after.threshold
            rw [effect.threshold]
            exact Nat.le_trans effect.under acc.speeds

omit [DecidableEq Flow] in
theorem recorded_commit (recorded : Recorded ppe.shaper) :
    Recorded (mtkFoeEntryCommit adaptiveV3 ib2 hash ppe).1.shaper := by
  unfold mtkFoeEntryCommit
  cases takes : takeQueue adaptiveV3 ppe.shaper ib2 with
  | none => exact recorded
  | some taken =>
    intro idx
    show taken.1.speed idx ≤ 2500
    rw [(takeQueue_some recorded taken.2 takes).speed]
    exact recorded idx

theorem shaper_unlinkSubflow (entry : FlowEntry Flow entries) :
    (unlinkSubflow flow entry ppe).shaper = ppe.shaper := by
  unfold unlinkSubflow
  cases entry.type with
  | regular => rfl
  | l2 subflows => rfl
  | subflow base =>
    dsimp only
    cases ppe.flows base <;> rfl

theorem recorded_clear (setState : Bool) (recorded : Recorded ppe.shaper) :
    Recorded (clearEntry adaptiveV3 setState ppe flow).shaper := by
  unfold clearEntry
  cases ppe.flows flow with
  | none => exact recorded
  | some entry =>
    dsimp only
    split
    · cases drops : dropQueue adaptiveV3 ppe.shaper entry.ib2 with
      | none => exact recorded
      | some after =>
        dsimp only
        rw [shaper_unlinkSubflow]
        intro idx
        show after.speed idx ≤ 2500
        rw [(dropQueue_some drops).speed]
        exact recorded idx
    · rw [shaper_unlinkSubflow]
      exact recorded

theorem accounted_unlink (acc : Accounted ppe) :
    Accounted (clearEntry adaptiveV3 false ppe flow) := by
  unfold clearEntry
  cases ppe.flows flow with
  | none => exact acc
  | some entry =>
    dsimp only
    split
    case h_1 impossible => cases impossible
    case h_2 => exact accounted_unlinkSubflow.mpr acc

end Steps

/-! ## Runs -/

section Runs

variable {ppe : Ppe Flow entries}

theorem clear_run (setState : Bool) (flow : Flow) (recorded : Recorded ppe.shaper)
    (acc : Accounted ppe) (may : setState = true →
      Along (clearEntry adaptiveV3 setState) MayClear ppe (clearedFlows ppe flow)) :
    Recorded (mtkFoeEntryClear adaptiveV3 setState flow ppe).shaper ∧
      Accounted (mtkFoeEntryClear adaptiveV3 setState flow ppe) := by
  cases setState with
  | true =>
    refine run_invariant (clearEntry adaptiveV3 true) MayClear
      (fun p => Recorded p.shaper ∧ Accounted p) ?_ ppe _ ⟨recorded, acc⟩ (may rfl)
    intro p sub inv clears
    exact ⟨recorded_clear true inv.1, (accounted_clear inv.2).mpr clears⟩
  | false =>
    refine run_invariant (clearEntry adaptiveV3 false) (fun _ _ => True)
      (fun p => Recorded p.shaper ∧ Accounted p) ?_ ppe _ ⟨recorded, acc⟩
      (along_of_forall _ _ _ _ fun _ _ _ => trivial)
    intro p sub inv _
    exact ⟨recorded_clear false inv.1, accounted_unlink inv.2⟩

theorem accounted_step (event : Event Flow entries) (recorded : Recorded ppe.shaper)
    (acc : Accounted ppe) (matching : Matching adaptiveV3 ppe event) :
    Recorded (step adaptiveV3 ppe event).shaper ∧ Accounted (step adaptiveV3 ppe event) := by
  unfold step
  rw [if_neg (by rw [acc.inBounds]; exact Bool.false_ne_true)]
  unfold Matching at matching
  cases event with
  | offload flow bridge ib2 => exact ⟨recorded, accounted_setFlow.mpr acc⟩
  | commit flow hash =>
    dsimp only at matching ⊢
    cases known : ppe.flows flow with
    | none => exact ⟨recorded, acc⟩
    | some entry =>
      rw [known] at matching
      exact ⟨recorded_commit recorded,
        accounted_setFlow.mpr ((accounted_commit recorded acc).mpr matching)⟩
  | commitSubflow l2 subflow hash kept =>
    dsimp only at matching ⊢
    cases known : ppe.flows l2 with
    | none => exact ⟨recorded, acc⟩
    | some entry =>
      obtain ⟨type, own, ib2⟩ := entry
      rw [known] at matching
      cases type with
      | regular => exact ⟨recorded, acc⟩
      | subflow base => exact ⟨recorded, acc⟩
      | l2 subflows =>
        exact ⟨recorded_commit recorded, accounted_setFlow.mpr
          (accounted_setFlow.mpr ((accounted_commit recorded acc).mpr matching))⟩
  | clear flow setState => exact clear_run setState flow recorded acc matching

/-- The PPE and the shaper when `qos_toggle` becomes 3: no flow is bound, and each
queue has the speed last recorded for it. -/
def started (speeds : List (Nat × Nat)) : Ppe Flow entries where
  shaper := speeds.foldl (fun shaper entry => mtkSetQueueSpeed shaper entry.1 entry.2)
    ⟨fun _ => 0, fun _ => 0, 6000⟩
  table := fun _ => ⟨.invalid, 0#32⟩
  flows := fun _ => none
  overrun := false

omit [DecidableEq Flow] in
theorem started_shaper (speeds : List (Nat × Nat)) (shaper : Shaper) (recorded : Recorded shaper)
    (idle : ∀ q, shaper.refcnt q = 0) :
    Recorded (speeds.foldl (fun s entry => mtkSetQueueSpeed s entry.1 entry.2) shaper) ∧
      ∀ q, (speeds.foldl (fun s entry => mtkSetQueueSpeed s entry.1 entry.2) shaper).refcnt q =
        0 := by
  induction speeds generalizing shaper with
  | nil => exact ⟨recorded, idle⟩
  | cons entry rest ih =>
    refine ih _ ?_ ?_
    · intro idx
      unfold mtkSetQueueSpeed
      dsimp only
      split
      case isTrue slow =>
        by_cases own : idx = entry.1
        · simpa [own] using slow
        · simpa [Function.update_of_ne own] using recorded idx
      case isFalse => exact recorded idx
    · intro q
      unfold mtkSetQueueSpeed
      dsimp only
      split <;> exact idle q

omit [DecidableEq Flow] in
theorem started_accounted (speeds : List (Nat × Nat)) :
    Recorded (started speeds : Ppe Flow entries).shaper ∧
      Accounted (started speeds : Ppe Flow entries) := by
  have fresh := started_shaper speeds ⟨fun _ => 0, fun _ => 0, 6000⟩
    (fun _ => Nat.zero_le _) fun _ => rfl
  refine ⟨fresh.1, rfl, fun q _ => ?_, fun hash q holds => ?_, ?_⟩
  · rw [show (started speeds : Ppe Flow entries).shaper.refcnt q = 0 from fresh.2 q]
    simp [holders, started, FoeEntry.holds]
  · cases holds
  · have none_ : active (started speeds : Ppe Flow entries).shaper = 0 := by
      refine Finset.sum_eq_zero fun i _ => ?_
      exact if_pos (fresh.2 i)
    rw [none_]
    exact Nat.zero_le _

/-- In every run whose commits and clears match, the counts are those of the table and
the queues in use stay under the threshold. -/
theorem queues_accounted (speeds : List (Nat × Nat)) (events : List (Event Flow entries))
    (matching : Along (step adaptiveV3) (Matching adaptiveV3) (started speeds) events) :
    Accounted (run (step adaptiveV3) (started speeds) events) :=
  (run_invariant (step adaptiveV3) (Matching adaptiveV3)
    (fun ppe => Recorded ppe.shaper ∧ Accounted ppe)
    (fun _ event inv may => accounted_step event inv.1 inv.2 may)
    (started speeds) events (started_accounted speeds) matching).2

end Runs

end Calls

def boundRun : List (Event Unit 2) :=
  [.offload () false 0x103#32, .commit () 0, .clear () true]

theorem queues_accounted_boundRun :
    Accounted (run (step adaptiveV3) (started [(3, 1000)]) boundRun) :=
  queues_accounted [(3, 1000)] boundRun
    ⟨trivial, ⟨rfl, by decide⟩, fun _ => ⟨.inl (by decide), trivial⟩, trivial⟩

/-- The flow is committed again to the slot where it is bound. -/
theorem recommit_counts_twice :
    ¬ Accounted (run (step adaptiveV3) (started [(3, 1000)])
      [.offload () false 0x103#32, .commit () (0 : Fin 2), .commit () 0, .clear () true]) := by
  intro acc
  exact absurd (acc.count 3 (by decide)) (by decide)

end OpenwrtSource.PpeOffload.PppqShaper
