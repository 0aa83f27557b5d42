import OpenwrtSource.Rss.Params

/-!
# What becomes of a configured key and table

Every start of the DMA writes the default key and table over those of the user, and
before the first there is neither.  The registers follow the parameters.
-/

namespace OpenwrtSource.Rss.Persistence

open Lib.Run Lib.Defaults
open Rss.Params

inductive Event
  | setRxfh (rxfh : RxfhParam)
  | dmaInit (allocated : Bool)
  | rssUninit

def step (soc : Soc) (s : State) : Event → State
  | .setRxfh rxfh => (setRxfh rxfh s).getD s
  | .dmaInit allocated => dmaInit soc allocated s
  | .rssUninit => rssUninit s

/-- The driver as `mtk_probe` allocates it. -/
def probed (regs : Regs) : State where
  params := ⟨fun _ => 0, fun _ => 0⟩
  regs := regs

def Accepts (rxfh : RxfhParam) : Prop :=
  rxfh.hfunc = ETH_RSS_HASH_NO_CHANGE ∨ rxfh.hfunc = ETH_RSS_HASH_TOP

instance (rxfh : RxfhParam) : Decidable (Accepts rxfh) :=
  inferInstanceAs (Decidable (_ ∨ _))

/-- A completed `mtk_dma_init`. -/
def Starts : Event → Bool
  | .dmaInit allocated => allocated
  | .setRxfh _ | .rssUninit => false

def settingAction {α : Type} (part : RxfhParam → Option α) : Event → Action α
  | .setRxfh rxfh =>
    if Accepts rxfh then (part rxfh).elim .keep .set else .keep
  | .dmaInit allocated => if allocated then .initialise else .keep
  | .rssUninit => .keep

abbrev Entries := Fin MAX_INDIRECTION_TABLE → BitVec 32

def keyAction : Event → Action Key := settingAction RxfhParam.key

def tableAction : Event → Action Entries :=
  settingAction fun rxfh => rxfh.indir.map Table.entry

def defaultTable : Entries := fun i => BitVec.ofNat 32 (i.val % RSS_NUM)

/-- The table as `mtk_get_rxfh` reads it. -/
def entries (s : State) : Entries := fun i => (s.params.indirectionTable i).setWidth 32

theorem setRxfh_of_accepts {rxfh : RxfhParam} (accepts : Accepts rxfh) (s : State) :
    setRxfh rxfh s =
      let s := rxfh.key.elim s fun key => setKey key s
      some (rxfh.indir.elim s fun indir => setIndir indir s) := by
  have good : ¬ (rxfh.hfunc ≠ ETH_RSS_HASH_NO_CHANGE ∧ rxfh.hfunc ≠ ETH_RSS_HASH_TOP) := by
    rintro ⟨other, unlike⟩
    exact accepts.elim other unlike
  rw [setRxfh, if_neg good]
  cases rxfh.key with
  | none => cases rxfh.indir <;> rfl
  | some key => cases rxfh.indir <;> rfl

theorem setRxfh_of_not_accepts {rxfh : RxfhParam} (refused : ¬ Accepts rxfh) (s : State) :
    setRxfh rxfh s = none :=
  if_pos (not_or.mp refused)

theorem entry_setWidth (table : Table) (i : Fin MAX_INDIRECTION_TABLE) :
    ((table.entry i).setWidth 8).setWidth 32 = table.entry i := by
  have small : (table.entry i).toNat < 4 := table.entry_lt i
  rw [← BitVec.toNat_inj, BitVec.toNat_setWidth, BitVec.toNat_setWidth]
  omega

theorem entries_rssInit (soc : Soc) (s : State) : entries (rssInit soc s) = defaultTable := by
  funext i
  show (BitVec.ofNat 8 (i.val % 4)).setWidth 32 = BitVec.ofNat 32 (i.val % 4)
  rw [← BitVec.toNat_inj, BitVec.toNat_setWidth, BitVec.toNat_ofNat, BitVec.toNat_ofNat]
  omega

theorem hashKey_step (soc : Soc) (s : State) (event : Event) :
    (step soc s event).params.hashKey = act defaultKey s.params.hashKey (keyAction event) := by
  cases event with
  | setRxfh rxfh =>
    by_cases accepts : Accepts rxfh
    · rw [step, setRxfh_of_accepts accepts, keyAction, settingAction, if_pos accepts]
      cases rxfh.key with
      | none => cases rxfh.indir <;> rfl
      | some key => cases rxfh.indir <;> rfl
    · rw [step, setRxfh_of_not_accepts accepts, keyAction, settingAction, if_neg accepts]
      rfl
  | dmaInit allocated => cases allocated <;> rfl
  | rssUninit => rfl

theorem entries_setIndir (indir : Table) (s : State) :
    entries (setIndir indir s) = indir.entry := by
  funext i
  exact entry_setWidth indir i

theorem entries_step (soc : Soc) (s : State) (event : Event) :
    entries (step soc s event) = act defaultTable (entries s) (tableAction event) := by
  cases event with
  | setRxfh rxfh =>
    by_cases accepts : Accepts rxfh
    · rw [step, setRxfh_of_accepts accepts, tableAction, settingAction, if_pos accepts]
      cases rxfh.indir with
      | none => cases rxfh.key <;> rfl
      | some indir => exact entries_setIndir indir _
    · rw [step, setRxfh_of_not_accepts accepts, tableAction, settingAction, if_neg accepts]
      rfl
  | dmaInit allocated =>
    cases allocated with
    | false => rfl
    | true => exact entries_rssInit soc s
  | rssUninit => rfl

theorem holds_step {soc : Soc} {s : State} (event : Event)
    (holds : s.regs.Holds s.params ∨ Starts event = true) :
    (step soc s event).regs.Holds (step soc s event).params := by
  cases event with
  | setRxfh rxfh =>
    have before := holds.resolve_right Bool.false_ne_true
    by_cases accepts : Accepts rxfh
    · rw [step, setRxfh_of_accepts accepts]
      cases rxfh.key with
      | none =>
        cases rxfh.indir with
        | none => exact before
        | some indir => exact holds_setIndir before indir
      | some key =>
        cases rxfh.indir with
        | none => exact holds_setKey before key
        | some indir => exact holds_setIndir (holds_setKey before key) indir
    · rw [step, setRxfh_of_not_accepts accepts]
      exact before
  | dmaInit allocated =>
    cases allocated with
    | false => exact holds.resolve_right Bool.false_ne_true
    | true => exact holds_rssInit soc s
  | rssUninit =>
    have before := holds.resolve_right Bool.false_ne_true
    exact ⟨before.key, before.table⟩

theorem holds_run {soc : Soc} {s : State} {events : List Event}
    (holds : s.regs.Holds s.params ∨ events.any Starts = true) :
    (run (step soc) s events).regs.Holds (run (step soc) s events).params := by
  induction events generalizing s with
  | nil => exact holds.resolve_right Bool.false_ne_true
  | cons event rest ih =>
    rw [List.any_cons, Bool.or_eq_true, ← or_assoc] at holds
    exact ih (holds.imp_left (holds_step event))

def Small (s : State) : Prop := ∀ i, (s.params.indirectionTable i).toNat < 4

theorem small_setIndir (indir : Table) (s : State) : Small (setIndir indir s) := by
  intro i
  show ((indir.entry i).setWidth 8).toNat < 4
  rw [BitVec.toNat_setWidth]
  exact (Nat.mod_le _ _).trans_lt (indir.entry_lt i)

theorem small_step (soc : Soc) (s : State) (event : Event) (small : Small s) :
    Small (step soc s event) := by
  cases event with
  | setRxfh rxfh =>
    by_cases accepts : Accepts rxfh
    · rw [step, setRxfh_of_accepts accepts]
      cases rxfh.indir with
      | none => cases rxfh.key <;> exact small
      | some indir => exact small_setIndir indir _
    · rw [step, setRxfh_of_not_accepts accepts]
      exact small
  | dmaInit allocated =>
    cases allocated with
    | false => exact small
    | true =>
      intro i
      show (BitVec.ofNat 8 (i.val % 4)).toNat < 4
      rw [BitVec.toNat_ofNat]
      exact (Nat.mod_le _ _).trans_lt (Nat.mod_lt _ (by decide))
  | rssUninit => exact small

def keyPast (events : List Event) : Past Key := run note Past.none (events.map keyAction)

def tablePast (events : List Event) : Past Entries := run note Past.none (events.map tableAction)

def lastKey (events : List Event) : Key := (keyPast events).told.getD defaultKey

def lastTable (events : List Event) : Entries := (tablePast events).told.getD defaultTable

/-- After these events the driver returns what was last set, and so do the registers once the
DMA has been initialised. -/
structure Persists (events : List Event) (s : State) : Prop where
  key : ∀ wantIndir, (getRxfh true wantIndir s).key = some (lastKey events)
  indir : ∀ wantKey, (getRxfh wantKey true s).indir = some (lastTable events)
  keyDw : events.any Starts = true → s.regs.hashKeyDw = lastKey events
  tableDw : events.any Starts = true → ∀ index k,
    (s.regs.indrTableDw index).extractLsb' (2 * k.val) 2 =
      (lastTable events (entryAt index k)).setWidth 2

theorem defaultKey_ne_zero : (fun _ => 0 : Key) ≠ defaultKey := by
  intro same
  exact absurd (congrFun same ⟨0, by decide⟩) (by decide)

theorem defaultTable_ne_zero (regs : Regs) : entries (probed regs) ≠ defaultTable := by
  intro same
  have unlike : (0 : BitVec 32) ≠ defaultTable ⟨1, by decide⟩ := by decide
  exact unlike (congrFun same ⟨1, by decide⟩)

theorem hashKey_run_iff (soc : Soc) (regs : Regs) (events : List Event) :
    (run (step soc) (probed regs) events).params.hashKey = lastKey events ↔
      (keyPast events).Stands defaultKey := by
  have followed := view_run (fun s : State => s.params.hashKey) (hashKey_step soc)
    (probed regs) events
  rw [followed]
  exact run_act_eq_told_iff defaultKey_ne_zero _

theorem entries_run_iff (soc : Soc) (regs : Regs) (events : List Event) :
    entries (run (step soc) (probed regs) events) = lastTable events ↔
      (tablePast events).Stands defaultTable := by
  rw [view_run entries (entries_step soc)]
  exact run_act_eq_told_iff (defaultTable_ne_zero regs) _

/-- In every state that the calls lead to, the key and the table last set are in place exactly
when each of them was set since the last completed start of the DMA, or is the default that one
has left. -/
theorem persists_iff (soc : Soc) (regs : Regs) (events : List Event) :
    Persists events (run (step soc) (probed regs) events) ↔
      (keyPast events).Stands defaultKey ∧ (tablePast events).Stands defaultTable := by
  rw [← hashKey_run_iff soc regs, ← entries_run_iff soc regs]
  constructor
  · intro persists
    exact ⟨Option.some.inj (persists.key true), Option.some.inj (persists.indir true)⟩
  · rintro ⟨key, table⟩
    have small : Small (run (step soc) (probed regs) events) :=
      run_invariant (step soc) (fun _ _ => True) Small
        (fun s event small _ => small_step soc s event small) _ events (fun _ => by
          show (0 : BitVec 8).toNat < 4
          decide) (along_of_forall _ _ _ _ fun _ _ _ => trivial)
    refine ⟨fun _ => congrArg some key, fun _ => congrArg some table, ?_, ?_⟩
    · exact fun started => (holds_run (.inr started)).key.trans key
    · intro started index k
      rw [(holds_run (.inr started)).table, extract_rssIndrTable small, ← table, entries,
        BitVec.setWidth_setWidth_of_le _ (by decide)]

def ownKey : RxfhParam := ⟨ETH_RSS_HASH_TOP, some fun _ => 1, none⟩

def clearRegs : Regs where
  rssGloCfg := 0
  hashKeyDw := fun _ => 0
  indrTableDw := fun _ => 0
  lroCtrlDw0 := 0
  lroCtrlDw2 := fun _ => 0
  intGrp := fun _ => 0
  intGrp3 := 0

def reopened : List Event := [.dmaInit true, .setRxfh ownKey, .rssUninit, .dmaInit true]

/-- The key is gone. -/
theorem ownKey_lost :
    ¬ ∀ (soc : Soc) (regs : Regs) (events : List Event),
      Persists events (run (step soc) (probed regs) events) := by
  intro always
  have held := Option.some.inj ((always ⟨true, false⟩ clearRegs reopened).key true)
  have unlike : defaultKey ⟨0, by decide⟩ ≠ 1 := by decide
  exact unlike (congrFun held ⟨0, by decide⟩)

end OpenwrtSource.Rss.Persistence
