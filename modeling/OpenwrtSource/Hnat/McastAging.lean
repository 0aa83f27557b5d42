import OpenwrtSource.Hnat.EntryUpdate

/-!
# Aging of multicast entries

On an MT7629 a timer deletes the static entries whose timestamp is too old.  The
counter has 16 bits, and the check has one formula for a small difference and
another for a large one.
-/

namespace OpenwrtSource.Hnat.McastAging

open Lib.BitField Hnat.Foe Hnat.McastOffload Hnat.EntryUpdate

def FOE_TS_WRAP_THRESHOLD : Int := 0x3000
def FOE_TS_MAX_DIFF : Nat := 20

/-- The first word before NETSYS V2, where it has another layout than `Bfib1`. -/
def bfib1TimeStamp : EntryField 15 := { word := 0, shift := 0 }

def entryDelete (foeTimestamp : BitVec 15) (entry : FoeEntry) : FoeEntry :=
  bfib1TimeStamp.set foeTimestamp (Bfib1.state.set INVALID entry)

/-- The two tests of `hnat_mcast_check_timestamp`.  The differences are of type `int`. -/
def isOutdated (foeTs eTs : BitVec 16) : Bool :=
  let foeTs := if (foeTs.toNat : Int) - eTs.toNat > FOE_TS_WRAP_THRESHOLD then ~~~foeTs else foeTs
  decide (((foeTs.toNat : Int) - eTs.toNat).natAbs > FOE_TS_MAX_DIFF)

/-- `hnat_mcast_check_timestamp`.  The counter is read for each static entry, and
once more by its deletion. -/
def hnatMcastCheckTimestamp (plat : Platform) (foeTs : Nat → Nat → BitVec 16)
    (foeTimestamp : Nat → Nat → BitVec 15) (table : FoeTable) : FoeTable := fun ppe hash =>
  if ppe < plat.ppeNum ∧ hash < plat.foeEtryNum ∧ Bfib1.sta.get (table ppe hash) = 1 ∧
      isOutdated (foeTs ppe hash) (Ipv4Hnapt.mTimestamp.get (table ppe hash)) = true then
    entryDelete (foeTimestamp ppe hash) (table ppe hash)
  else table ppe hash

/-- The time since the timestamp, modulo the width of the counter. -/
def elapsed (foeTs eTs : BitVec 16) : Nat := (foeTs - eTs).toNat

/-- A static entry of the table that has not been deleted yet. -/
structure Static (plat : Platform) (table : FoeTable) (ppe hash : Nat) : Prop where
  inPpe : ppe < plat.ppeNum
  inTable : hash < plat.foeEtryNum
  sta : Bfib1.sta.get (table ppe hash) = 1
  live : stateOf (table ppe hash) ≠ INVALID

/-- A static entry is deleted when its time is over, and not before. -/
def Ages (plat : Platform) (foeTs : Nat → Nat → BitVec 16) (before after : FoeTable) : Prop :=
  ∀ ppe hash, Static plat before ppe hash →
    (stateOf (after ppe hash) = INVALID ↔
      elapsed (foeTs ppe hash) (Ipv4Hnapt.mTimestamp.get (before ppe hash)) > FOE_TS_MAX_DIFF)

/-- The check is right for the pair.  The counter is ahead of the timestamp, up to the
threshold, or by more and its complement is away from the timestamp; or it is behind by
more than the limit, and not by as little as the wrapped limit. -/
def ToldRight (foeTs eTs : BitVec 16) : Prop :=
  if eTs.toNat ≤ foeTs.toNat then
    foeTs.toNat - eTs.toNat ≤ 0x3000 ∨
      65535 - foeTs.toNat > eTs.toNat + 20 ∨ eTs.toNat > 65535 - foeTs.toNat + 20
  else 20 < eTs.toNat - foeTs.toNat ∧ eTs.toNat - foeTs.toNat < 65516

instance (foeTs eTs : BitVec 16) : Decidable (ToldRight foeTs eTs) :=
  inferInstanceAs (Decidable (ite _ _ _))

theorem elapsed_eq (foeTs eTs : BitVec 16) :
    elapsed foeTs eTs =
      if eTs.toNat ≤ foeTs.toNat then foeTs.toNat - eTs.toNat
      else 65536 - (eTs.toNat - foeTs.toNat) := by
  have foe := foeTs.isLt
  have entry := eTs.isLt
  unfold elapsed
  rw [BitVec.toNat_sub]
  split <;> omega

theorem isOutdated_ahead {foeTs eTs : BitVec 16} (ahead : foeTs.toNat - eTs.toNat > 0x3000) :
    isOutdated foeTs eTs = true ↔
      65535 - foeTs.toNat > eTs.toNat + 20 ∨ eTs.toNat > 65535 - foeTs.toNat + 20 := by
  have foe := foeTs.isLt
  unfold isOutdated FOE_TS_WRAP_THRESHOLD FOE_TS_MAX_DIFF
  dsimp only
  rw [if_pos (by omega), decide_eq_true_iff, BitVec.toNat_not]
  omega

theorem isOutdated_near {foeTs eTs : BitVec 16} (near : foeTs.toNat - eTs.toNat ≤ 0x3000) :
    isOutdated foeTs eTs = true ↔
      foeTs.toNat > eTs.toNat + 20 ∨ eTs.toNat > foeTs.toNat + 20 := by
  unfold isOutdated FOE_TS_WRAP_THRESHOLD FOE_TS_MAX_DIFF
  dsimp only
  rw [if_neg (by omega), decide_eq_true_iff]
  omega

theorem isOutdated_iff_elapsed (foeTs eTs : BitVec 16) :
    (isOutdated foeTs eTs = true ↔ elapsed foeTs eTs > FOE_TS_MAX_DIFF) ↔
      ToldRight foeTs eTs := by
  have entry := eTs.isLt
  rw [elapsed_eq]
  unfold ToldRight FOE_TS_MAX_DIFF
  by_cases near : foeTs.toNat - eTs.toNat ≤ 0x3000
  · rw [isOutdated_near near]
    split <;> omega
  · rw [isOutdated_ahead (by omega), if_pos (by omega), if_pos (by omega)]
    omega

section

variable (plat : Platform) (foeTs : Nat → Nat → BitVec 16) (foeTimestamp : Nat → Nat → BitVec 15)
  (table : FoeTable)

theorem stateOf_entryDelete (timestamp : BitVec 15) (entry : FoeEntry) :
    stateOf (entryDelete timestamp entry) = INVALID := by
  unfold stateOf entryDelete
  rw [Field.get_set_of_apart _ _ _ _ (by decide), Field.get_set]

theorem deleted_iff {ppe hash : Nat} (static : Static plat table ppe hash) :
    stateOf (hnatMcastCheckTimestamp plat foeTs foeTimestamp table ppe hash) = INVALID ↔
      isOutdated (foeTs ppe hash) (Ipv4Hnapt.mTimestamp.get (table ppe hash)) = true := by
  unfold hnatMcastCheckTimestamp
  split
  next outdated => exact iff_of_true (stateOf_entryDelete _ _) outdated.2.2.2
  next kept =>
    exact iff_of_false static.live fun outdated =>
      kept ⟨static.inPpe, static.inTable, static.sta, outdated⟩

/-- The check ages the table rightly exactly when it is right for every static entry. -/
theorem hnatMcastCheckTimestamp_ages_iff :
    Ages plat foeTs table (hnatMcastCheckTimestamp plat foeTs foeTimestamp table) ↔
      ∀ ppe hash, Static plat table ppe hash →
        ToldRight (foeTs ppe hash) (Ipv4Hnapt.mTimestamp.get (table ppe hash)) := by
  refine forall_congr' fun ppe => forall_congr' fun hash => forall_congr' fun static => ?_
  rw [deleted_iff plat foeTs foeTimestamp table static]
  exact isOutdated_iff_elapsed _ _

end

def freshEntry : FoeEntry :=
  Bfib1.state.set BIND (Bfib1.sta.set 1 (Ipv4Hnapt.mTimestamp.set 65530 FoeEntry.zero))

def freshAfter : FoeTable :=
  hnatMcastCheckTimestamp ⟨1, 1, 64⟩ (fun _ _ => 5) (fun _ _ => 5) fun _ _ => freshEntry

theorem freshEntry_deleted :
    ¬ Ages ⟨1, 1, 64⟩ (fun _ _ => 5) (fun _ _ => freshEntry) freshAfter := by
  intro ages
  have static : Static ⟨1, 1, 64⟩ (fun _ _ => freshEntry) 0 0 :=
    ⟨by decide, by decide, by decide, by decide⟩
  have deleted : stateOf (freshAfter 0 0) = INVALID := by
    unfold freshAfter hnatMcastCheckTimestamp
    rw [if_pos (by decide)]
    exact stateOf_entryDelete _ _
  have aged := (ages 0 0 static).1 deleted
  revert aged
  decide

end OpenwrtSource.Hnat.McastAging
