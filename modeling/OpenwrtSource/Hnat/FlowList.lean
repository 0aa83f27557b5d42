import OpenwrtSource.Lib.KeyedList
import OpenwrtSource.Hnat.BindEntry
import OpenwrtSource.Hnat.EntryUpdate
import OpenwrtSource.Hnat.FlowKeys

/-!
# The lists of prepared entries

`skb_to_hnat_info` leaves the entry of a packet that goes to Wi-Fi in the list
of its bucket, `mtk_sw_nat_hook_tx` takes it from there, and a work removes what
nobody has taken.  A bucket holds the entries of four slots of the table.
-/

namespace OpenwrtSource.Hnat.FlowList

open Lib.KeyedList Hnat.Foe Hnat.McastOffload Hnat.BindPacket Hnat.BindEntry Hnat.EntryDelete
open Hnat.HookTx

/-- `unsigned long` ticks. -/
abbrev Jiffies := BitVec 64

def timeAfterEq (a b : Jiffies) : Bool := decide (0 ≤ (a - b).toInt)

def timeAfter (a b : Jiffies) : Bool := decide ((b - a).toInt < 0)

structure HnatFlowEntry where
  data : FoeEntry
  lastUpdate : Jiffies
  ppeIndex : Nat
  hash : Nat

abbrev FoeFlow := Nat → Nat → List HnatFlowEntry

def inSlot (ppe hash : Nat) (flow : HnatFlowEntry) : Bool :=
  flow.ppeIndex == ppe && flow.hash == hash

def isSearched (ppe hash : Nat) (data : FoeEntry) (flow : HnatFlowEntry) : Bool :=
  inSlot ppe hash flow && hnatFlowEntryMatch flow.data data

def hnatFlowEntrySearch (foeFlow : FoeFlow) (data : FoeEntry) (ppe hash : Nat) :
    Option HnatFlowEntry :=
  (foeFlow ppe (hash / 4)).find? (isSearched ppe hash data)

def FoeFlow.write (foeFlow : FoeFlow) (ppe hash : Nat) (bucket : List HnatFlowEntry) : FoeFlow :=
  fun p b => if p = ppe ∧ b = hash / 4 then bucket else foeFlow p b

/-- `hnat_flow_entry_delete` of the entry that the search has found. -/
def hnatFlowEntryDelete (foeFlow : FoeFlow) (data : FoeEntry) (ppe hash : Nat) : FoeFlow :=
  FoeFlow.write foeFlow ppe hash ((foeFlow ppe (hash / 4)).eraseP (isSearched ppe hash data))

def refresh (entry : FoeEntry) (jiffies : Jiffies) (flow : HnatFlowEntry) : HnatFlowEntry :=
  { flow with data := entry, lastUpdate := jiffies }

/-- The end of `skb_to_hnat_info` for a Wi-Fi device. -/
def storeFlow (kzalloc : Bool) (jiffies : Jiffies) (entry : FoeEntry) (ppe hash : Nat)
    (foeFlow : FoeFlow) : Option FoeFlow :=
  let bucket := foeFlow ppe (hash / 4)
  match hnatFlowEntrySearch foeFlow entry ppe hash with
  | some _ =>
    some (FoeFlow.write foeFlow ppe hash (bucket.replaceF fun flow =>
      if isSearched ppe hash entry flow then some (refresh entry jiffies flow) else none))
  | none =>
    if kzalloc then
      some (FoeFlow.write foeFlow ppe hash (⟨entry, jiffies, ppe, hash⟩ :: bucket))
    else none

def storedIn (foeFlow : FoeFlow) (ppe hash : Nat) : List HnatFlowEntry :=
  (foeFlow ppe (hash / 4)).filter (inSlot ppe hash)

structure State where
  mcast : McastEvents.State
  foeFlow : FoeFlow
  jiffies : Jiffies

def State.foe (s : State) (ppe hash : Nat) : FoeEntry := s.mcast.hw.foeTable ppe hash

def State.stored (s : State) (ppe hash : Nat) : List HnatFlowEntry :=
  storedIn s.foeFlow ppe hash

/-- What `skb_to_hnat_info` sees. -/
def State.bind (s : State) : BindEntry.State where
  mcast := s.mcast
  foeFlow ppe hash := (s.stored ppe hash).map HnatFlowEntry.data

def pass (cfg : HnatConfig) (plat : Platform) (pass : Pass) (s : State) : State :=
  match skbToHnatInfo cfg plat pass s.bind with
  | (.recorded entry, _) =>
    match storeFlow pass.kzalloc s.jiffies entry pass.skb.desc.ppe pass.skb.desc.entry
        s.foeFlow with
    | none => s
    | some foeFlow => { s with foeFlow := foeFlow }
  | (_, bound) => { s with mcast := bound.mcast }

/-- One call of `mtk_sw_nat_hook_tx`. -/
structure TxCall where
  gmacNo : Nat
  skb : TxSkb
  env : Env

def TxCall.ppe (call : TxCall) : Nat := call.skb.desc.ppe

def TxCall.hash (call : TxCall) : Nat := call.skb.desc.entry

/-- `mtk_sw_nat_hook_tx` once it has copied the data of an entry of the list. -/
def commitData (tx : TxConfig) (plat : Platform) (call : TxCall) (data : FoeEntry)
    (m : McastEvents.State) : McastEvents.State :=
  match txEntry tx m.mcastHookToggle call.gmacNo call.skb data with
  | none => m
  | some entry =>
    McastEvents.commitPacket plat call.env call.skb.hDest call.ppe call.hash entry
      call.skb.ifindex true m

/-- `hz` is the number of ticks in a second. -/
def mtkSwNatHookTx (hz : Jiffies) (tx : TxConfig) (plat : Platform) (call : TxCall) (s : State) :
    State :=
  if !accepts tx plat call.gmacNo call.skb then s
  else
    let hwEntry := s.foe call.ppe call.hash
    match hnatFlowEntrySearch s.foeFlow hwEntry call.ppe call.hash with
    | none => s
    | some flow =>
      let s := { s with foeFlow := hnatFlowEntryDelete s.foeFlow hwEntry call.ppe call.hash }
      if stateOf hwEntry ≠ UNBIND ∨ timeAfterEq s.jiffies (flow.lastUpdate + 3 * hz) then s
      else { s with mcast := commitData tx plat call flow.data s.mcast }

/-- Whether `hnat_flow_entry_teardown_handler` leaves an entry of this age. -/
def isFresh (hz jiffies lastUpdate : Jiffies) : Bool := !timeAfter jiffies (lastUpdate + 30 * hz)

def inFlowTable (plat : Platform) (ppe bucket : Nat) : Bool :=
  decide (ppe < plat.ppeNum ∧ bucket < DEF_ETRY_NUM / 4)

def hnatFlowEntryTeardownHandler (hz : Jiffies) (plat : Platform) (s : State) : State :=
  { s with
    foeFlow := fun ppe bucket =>
      if inFlowTable plat ppe bucket then
        (s.foeFlow ppe bucket).filter fun flow => isFresh hz s.jiffies flow.lastUpdate
      else s.foeFlow ppe bucket }

inductive Event where
  | pass (cfg : HnatConfig) (pass : Pass)
  | hookTx (tx : TxConfig) (call : TxCall)
  | teardown
  | tick (jiffies : Jiffies)
  /-- The engine learns and ages entries, and other parts of the driver run. -/
  | other (mcast : McastEvents.State)

def step (hz : Jiffies) (plat : Platform) (s : State) : Event → State
  | .pass cfg call => pass cfg plat call s
  | .hookTx tx call => mtkSwNatHookTx hz tx plat call s
  | .teardown => hnatFlowEntryTeardownHandler hz plat s
  | .tick jiffies => { s with jiffies := jiffies }
  | .other mcast => { s with mcast := mcast }

def State.init : State := ⟨McastEvents.State.init, fun _ _ => [], 0⟩

section

variable (foeFlow : FoeFlow) (data : FoeEntry) (ppe hash : Nat)

theorem hnatFlowEntrySearch_eq :
    hnatFlowEntrySearch foeFlow data ppe hash =
      (storedIn foeFlow ppe hash).find? fun flow => hnatFlowEntryMatch flow.data data := by
  unfold hnatFlowEntrySearch storedIn
  rw [List.find?_filter]
  congr 1
  funext flow
  simp [isSearched]

theorem inSlot_other {p h : Nat} (other : ¬ (p = ppe ∧ h = hash)) (flow : HnatFlowEntry)
    (own : inSlot ppe hash flow = true) : inSlot p h flow = false := by
  unfold inSlot at own ⊢
  grind

theorem isSearched_other {p h : Nat} (other : ¬ (p = ppe ∧ h = hash)) (flow : HnatFlowEntry)
    (searched : isSearched ppe hash data flow = true) : inSlot p h flow = false :=
  inSlot_other ppe hash other flow (Bool.and_eq_true_iff.mp searched).1

theorem storedIn_write (bucket : List HnatFlowEntry) (others : ∀ p h, ¬ (p = ppe ∧ h = hash) →
      bucket.filter (inSlot p h) = (foeFlow ppe (hash / 4)).filter (inSlot p h)) (p h : Nat) :
    storedIn (FoeFlow.write foeFlow ppe hash bucket) p h =
      if p = ppe ∧ h = hash then bucket.filter (inSlot ppe hash) else storedIn foeFlow p h := by
  unfold storedIn FoeFlow.write
  by_cases own : p = ppe ∧ h = hash
  · obtain ⟨rfl, rfl⟩ := own
    simp
  · rw [if_neg own]
    by_cases shared : p = ppe ∧ h / 4 = hash / 4
    · rw [if_pos shared, others p h own, shared.1, shared.2]
    · rw [if_neg shared]

theorem storedIn_delete (p h : Nat) :
    storedIn (hnatFlowEntryDelete foeFlow data ppe hash) p h =
      if p = ppe ∧ h = hash then
        (storedIn foeFlow ppe hash).eraseP fun flow => hnatFlowEntryMatch flow.data data
      else storedIn foeFlow p h := by
  unfold hnatFlowEntryDelete
  rw [storedIn_write]
  · congr 1
    exact filter_eraseP_own _ _ _
  · intro p h other
    exact filter_eraseP_other _ fun flow => isSearched_other data ppe hash other flow

end

def storeIn (kzalloc : Bool) (jiffies : Jiffies) (entry : FoeEntry) (ppe hash : Nat)
    (list : List HnatFlowEntry) : Option (List HnatFlowEntry) :=
  match list.find? fun flow => hnatFlowEntryMatch flow.data entry with
  | some _ =>
    some (list.replaceF fun flow =>
      if hnatFlowEntryMatch flow.data entry then some (refresh entry jiffies flow) else none)
  | none => if kzalloc then some (⟨entry, jiffies, ppe, hash⟩ :: list) else none

theorem storeFlow_spec (kzalloc : Bool) (jiffies : Jiffies) (entry : FoeEntry) (ppe hash : Nat)
    (foeFlow : FoeFlow) :
    match storeFlow kzalloc jiffies entry ppe hash foeFlow with
    | none => storeIn kzalloc jiffies entry ppe hash (storedIn foeFlow ppe hash) = none
    | some foeFlow' =>
      storeIn kzalloc jiffies entry ppe hash (storedIn foeFlow ppe hash) =
          some (storedIn foeFlow' ppe hash) ∧
        ∀ p h, ¬ (p = ppe ∧ h = hash) → storedIn foeFlow' p h = storedIn foeFlow p h := by
  have search := hnatFlowEntrySearch_eq foeFlow entry ppe hash
  unfold storeFlow storeIn
  dsimp only
  rw [← search]
  cases hnatFlowEntrySearch foeFlow entry ppe hash with
  | some found =>
    dsimp only
    have stays : ∀ p h flow, inSlot p h (refresh entry jiffies flow) = inSlot p h flow :=
      fun _ _ _ => rfl
    have written := storedIn_write foeFlow ppe hash
      ((foeFlow ppe (hash / 4)).replaceF fun flow =>
        if isSearched ppe hash entry flow then some (refresh entry jiffies flow) else none)
      fun p h other => filter_replaceF_other _
        (fun flow => isSearched_other entry ppe hash other flow) (stays p h)
    refine ⟨?_, fun p h other => ?_⟩
    · rw [written, if_pos ⟨rfl, rfl⟩]
      exact congrArg some (filter_replaceF_own _ _ (stays ppe hash)).symm
    · rw [written, if_neg other]
  | none =>
    cases kzalloc with
    | false => rfl
    | true =>
      have own : inSlot ppe hash ⟨entry, jiffies, ppe, hash⟩ = true := by simp [inSlot]
      have written := storedIn_write foeFlow ppe hash
        (⟨entry, jiffies, ppe, hash⟩ :: foeFlow ppe (hash / 4))
        fun p h other => List.filter_cons_of_neg
          (by simp [inSlot_other ppe hash other _ own])
      refine ⟨?_, fun p h other => ?_⟩
      · rw [if_pos rfl, written, if_pos ⟨rfl, rfl⟩, List.filter_cons_of_pos own]
        rfl
      · rw [written, if_neg other]

theorem recordFlow_map (kzalloc : Bool) (jiffies : Jiffies) (entry : FoeEntry) (ppe hash : Nat)
    (list : List HnatFlowEntry) :
    recordFlow kzalloc entry (list.map HnatFlowEntry.data) =
      (storeIn kzalloc jiffies entry ppe hash list).map (List.map HnatFlowEntry.data) := by
  have replaced : ∀ (list : List HnatFlowEntry) (idx : Nat),
      (list.map HnatFlowEntry.data).findIdx? (fun data => hnatFlowEntryMatch data entry) =
          some idx →
        (list.replaceF fun flow => if hnatFlowEntryMatch flow.data entry then
          some (refresh entry jiffies flow) else none).map HnatFlowEntry.data =
            (list.map HnatFlowEntry.data).set idx entry := by
    intro list
    induction list with
    | nil =>
      intro idx found
      cases found
    | cons flow rest ih =>
      intro idx found
      rw [List.map_cons, List.findIdx?_cons] at found
      cases matched : hnatFlowEntryMatch flow.data entry with
      | true =>
        rw [matched, if_pos rfl, Option.some.injEq] at found
        subst found
        simp [matched, refresh]
      | false =>
        rw [matched, if_neg Bool.false_ne_true, Option.map_eq_some_iff] at found
        obtain ⟨idx, found, rfl⟩ := found
        simp [matched, ih idx found]
  unfold recordFlow storeIn
  cases searched : list.find? (fun flow => hnatFlowEntryMatch flow.data entry) with
  | none =>
    have missed : (list.map HnatFlowEntry.data).findIdx?
        (fun data => hnatFlowEntryMatch data entry) = none := by
      rw [List.findIdx?_eq_none_iff]
      simpa using searched
    rw [missed]
    cases kzalloc <;> rfl
  | some flow =>
    have found : ((list.map HnatFlowEntry.data).findIdx?
        (fun data => hnatFlowEntryMatch data entry)).isSome := by
      rw [List.findIdx?_isSome, List.any_map, List.any_eq_true]
      exact ⟨flow, List.mem_of_find?_eq_some searched, List.find?_some searched⟩
    obtain ⟨idx, found⟩ := Option.isSome_iff_exists.mp found
    rw [found]
    exact congrArg some (replaced list idx found).symm

end OpenwrtSource.Hnat.FlowList
