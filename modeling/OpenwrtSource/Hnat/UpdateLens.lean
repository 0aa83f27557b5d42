import OpenwrtSource.Hnat.EntryUpdate
import OpenwrtSource.Hnat.BindEffects

/-!
# The update calls as lenses

A call that succeeds should make the fields that it is about read back as the
requested value, in the layout of the packet type, and leave every other bit of
the table alone; a call that fails should change nothing.
-/

namespace OpenwrtSource.Hnat.UpdateLens

open Lib.BitField Hnat.Foe Hnat.McastOffload Hnat.Translation Hnat.BindPacket Hnat.BindFill
open Hnat.BindEntry Hnat.BindEffects Hnat.EntryUpdate

/-! ## The fields of a packet type -/

def l2Of (pktType : FoeIpAct) : L2Block :=
  if isIpv4Grp pktType then Ipv4Hnapt.l2 else Ipv65tRoute.l2

def winfoOf (pktType : FoeIpAct) : WinfoBlock :=
  if isIpv4Grp pktType then Ipv4Hnapt.winfo
  else if pktType = L2_BRIDGE then L2Bridge.winfo
  else if pktType = IPV4_MAP_E ∨ pktType = IPV4_MAP_T then Ipv4Mape.winfo
  else if pktType = IPV6_HNAPT ∨ pktType = IPV6_HNAT then Ipv6Hnapt.winfo
  else Ipv65tRoute.winfo

def fieldsOf (update : Update) (pktType : FoeIpAct) : FoeEntry :=
  match update with
  | .hqos _ _ =>
    mark (iblk2Of pktType).fqos (mark (iblk2Of pktType).qid
      (mark (engineOf pktType).tportId FoeEntry.zero))
  | .dscp _ => mark (iblk2Of pktType).dscp FoeEntry.zero
  | .vlan _ _ =>
    mark Bfib1.vlanLayer (mark (l2Of pktType).vlan1 (mark (l2Of pktType).vlan2
      (mark (l2Of pktType).spTag FoeEntry.zero)))
  | .pppoe _ _ => mark Bfib1.psn (mark (l2Of pktType).pppoeId FoeEntry.zero)
  | .isPrior _ => mark (winfoOf pktType).isPrior FoeEntry.zero
  | .tid _ => mark (winfoOf pktType).tid FoeEntry.zero

def othersOf (update : Update) (pktType : FoeIpAct) : FoeEntry :=
  fun word => ~~~ fieldsOf update pktType word

/-- A forced queue is reached through the port of the queue engine. -/
def tportOf (fqos : BitVec 16) : TportId := if fqos ≠ 0 then NR_QDMA_TPORT else 0

def ReadsBack (update : Update) (pktType : FoeIpAct) (entry : FoeEntry) : Prop :=
  match update with
  | .hqos fqos qid =>
    ((iblk2Of pktType).fqos.get entry).toNat = fqos.toNat ∧
      ((iblk2Of pktType).qid.get entry).toNat = qid.toNat ∧
        (engineOf pktType).tportId.get entry = tportOf fqos
  | .dscp dscp => (((iblk2Of pktType).dscp.get entry).toNat : Int) = dscp.toInt
  | .vlan vlan1 vlan2 =>
    (l2Of pktType).vlan1.get entry = vlan1 ∧ (l2Of pktType).vlan2.get entry = vlan2
  | .pppoe psn pppoeId =>
    (Bfib1.psn.get entry).toNat = psn.toNat ∧ (l2Of pktType).pppoeId.get entry = pppoeId
  | .isPrior isPrior => ((winfoOf pktType).isPrior.get entry).toNat = isPrior.toNat
  | .tid tid => ((winfoOf pktType).tid.get entry).toNat = tid.toNat

/-! ## The property -/

def updateEntry (update : Update) (entry : FoeEntry) : HnatStatus × FoeEntry :=
  match update.logic entry with
  | (.success, after) => (.success, after)
  | (.alreadySet, _) => (.success, entry)
  | (ret, _) => (ret, entry)

def EntryLens (update : Update) (entry : FoeEntry) : Prop :=
  if (updateEntry update entry).1 = .success then
    ReadsBack update (pktTypeOf entry) (updateEntry update entry).2 ∧
      KeepsBits (othersOf update (pktTypeOf entry)) entry (updateEntry update entry).2
  else (updateEntry update entry).2 = entry

/-! ## Where it holds -/

def isGrp (pktType : FoeIpAct) : Bool := isIpv4Grp pktType || isIpv6Grp pktType

/-- The types whose ids of the engines are not at the word of the 5-tuple routes. -/
def engineElsewhere (pktType : FoeIpAct) : Bool :=
  pktType == IPV4_MAP_E || pktType == IPV4_MAP_T || pktType == IPV6_HNAPT || pktType == IPV6_HNAT

def winfoElsewhere (pktType : FoeIpAct) : Bool :=
  pktType == IPV6_3T_ROUTE || pktType == IPV6_5T_ROUTE || pktType == IPV6_6RD ||
    pktType == IPV4_DSLITE

def queued (fqos qid : BitVec 16) (entry : FoeEntry) : Bool :=
  (iblk2Of (pktTypeOf entry)).fqos.get entry == boolBit (fqos != 0) &&
    (iblk2Of (pktTypeOf entry)).qid.get entry == qid.setWidth 7

/-- The requested value fits in its field, and where a call writes through the
layout of another type, both words hold the value already. -/
def HoldsOn (update : Update) (entry : FoeEntry) : Prop :=
  isGrp (pktTypeOf entry) = true →
    match update with
    | .hqos fqos qid =>
      qid.toNat < MTK_QDMA_NUM_QUEUES → fqos.toNat ≤ 1 ∧
        (queued fqos qid entry ∨ engineElsewhere (pktTypeOf entry) →
          (engineOf (pktTypeOf entry)).tportId.get entry = tportOf fqos) ∧
        (¬ queued fqos qid entry ∧ engineElsewhere (pktTypeOf entry) →
          Ipv65tRoute.engine.tportId.get entry = tportOf fqos)
    | .dscp dscp => 0 ≤ dscp.toInt ∧ dscp.toInt < 256
    | .vlan _ _ => True
    | .pppoe psn _ => psn.toNat ≤ 1
    | .isPrior isPrior =>
      isPrior.toNat < 2 ∧ (winfoElsewhere (pktTypeOf entry) →
        (winfoOf (pktTypeOf entry)).isPrior.get entry = isPrior.setWidth 1 ∧
          Ipv4Mape.winfo.isPrior.get entry = isPrior.setWidth 1)
    | .tid tid =>
      tid.toNat < 16 ∧ (winfoElsewhere (pktTypeOf entry) →
        (winfoOf (pktTypeOf entry)).tid.get entry = tid.setWidth 4 ∧
          Ipv4Mape.winfo.tid.get entry = tid.setWidth 4)

/-! ## The calls that write one field -/

section

variable {n : Nat}

theorem updateEntry_success {update : Update} {entry after : FoeEntry}
    (logic : update.logic entry = (.success, after)) :
    updateEntry update entry = (.success, after) := by
  unfold updateEntry
  rw [logic]

theorem updateEntry_alreadySet {update : Update} {entry after : FoeEntry}
    (logic : update.logic entry = (.alreadySet, after)) :
    updateEntry update entry = (.success, entry) := by
  unfold updateEntry
  rw [logic]

theorem updateEntry_setField {update : Update} {entry : FoeEntry} (field : EntryField n)
    (value : BitVec n) (logic : update.logic entry = setField (some field) value entry) :
    updateEntry update entry = (.success, field.set value entry) := by
  unfold setField at logic
  dsimp only at logic
  by_cases held : field.get entry = value
  · rw [if_pos held] at logic
    rw [updateEntry_alreadySet logic, (field.set_eq_self_iff value entry).mpr held]
  · rw [if_neg held] at logic
    exact updateEntry_success logic

theorem updateEntry_fail {update : Update} {entry : FoeEntry}
    (logic : update.logic entry = (.fail, entry)) : updateEntry update entry = (.fail, entry) := by
  unfold updateEntry
  rw [logic]

theorem entryLens_of_fail {update : Update} {entry : FoeEntry}
    (logic : update.logic entry = (.fail, entry)) : EntryLens update entry := by
  unfold EntryLens
  rw [updateEntry_fail logic]
  exact rfl

theorem entryLens_of_success {update : Update} {entry after : FoeEntry}
    (done : updateEntry update entry = (.success, after)) :
    EntryLens update entry ↔ ReadsBack update (pktTypeOf entry) after ∧
      KeepsBits (othersOf update (pktTypeOf entry)) entry after := by
  unfold EntryLens
  rw [done]
  exact Iff.rfl

end

/-! ## The layouts -/

theorem updateIblk2_grp {pktType : FoeIpAct} (grp : isGrp pktType = true) :
    updateIblk2 pktType = some (iblk2Of pktType, sharedEngine pktType, l2Of pktType) := by
  have notBridge : pktType ≠ L2_BRIDGE := by
    rintro rfl
    exact absurd grp (by decide)
  unfold updateIblk2 iblk2Of sharedEngine l2Of
  by_cases ipv4 : isIpv4Grp pktType = true
  · simp only [ipv4, if_true]
  · have ipv6 : isIpv6Grp pktType = true := by simpa [isGrp, ipv4] using grp
    simp only [ipv4, ipv6, notBridge, if_true, if_false, Bool.false_eq_true]

theorem updateIblk2_other {pktType : FoeIpAct} (other : ¬ isGrp pktType = true) :
    updateIblk2 pktType = none := by
  have neither : ¬ isIpv4Grp pktType = true ∧ ¬ isIpv6Grp pktType = true := by
    simpa [isGrp] using other
  unfold updateIblk2
  rw [if_neg neither.1, if_neg neither.2]

theorem updateWinfo_own {pktType : FoeIpAct} (grp : isGrp pktType = true)
    (own : ¬ winfoElsewhere pktType = true) : updateWinfo pktType = some (winfoOf pktType) := by
  have types : ∀ type, isGrp type = true → ¬ winfoElsewhere type = true →
      isIpv4Grp type = true ∨ (isIpv4Grp type = false ∧ type ≠ L2_BRIDGE ∧
        ((type = IPV6_HNAPT ∨ type = IPV6_HNAT) ∧ ¬ (type = IPV4_MAP_E ∨ type = IPV4_MAP_T) ∨
          ¬ (type = IPV6_HNAPT ∨ type = IPV6_HNAT) ∧ isIpv6Grp type = true ∧
            (type = IPV4_MAP_E ∨ type = IPV4_MAP_T))) := by
    decide
  unfold updateWinfo winfoOf
  obtain ipv4 | ⟨ipv6, notBridge, ⟨hnapt6, notMape⟩ | ⟨notHnapt6, grp6, mape⟩⟩ :=
    types _ grp own
  · simp only [ipv4, if_true]
  · simp only [ipv6, notBridge, hnapt6, notMape, if_true, if_false, Bool.false_eq_true]
  · simp only [ipv6, notBridge, notHnapt6, grp6, mape, if_true, if_false, Bool.false_eq_true]

theorem updateWinfo_elsewhere {pktType : FoeIpAct} (elsewhere : winfoElsewhere pktType = true) :
    updateWinfo pktType = some Ipv4Mape.winfo ∧ winfoOf pktType = Ipv65tRoute.winfo := by
  have types : ∀ type, winfoElsewhere type = true → isIpv4Grp type = false ∧ type ≠ L2_BRIDGE ∧
      ¬ (type = IPV6_HNAPT ∨ type = IPV6_HNAT) ∧ isIpv6Grp type = true ∧
        ¬ (type = IPV4_MAP_E ∨ type = IPV4_MAP_T) := by
    decide
  obtain ⟨ipv6, notBridge, notHnapt6, grp6, notMape⟩ := types _ elsewhere
  unfold updateWinfo winfoOf
  simp only [ipv6, notBridge, notHnapt6, grp6, notMape, if_true, if_false, Bool.false_eq_true,
    and_self]

theorem updateWinfo_other {pktType : FoeIpAct} (other : ¬ isGrp pktType = true) :
    updateWinfo pktType = none := by
  have types : ∀ type, ¬ isGrp type = true → ¬ isIpv4Grp type = true ∧
      ¬ (type = IPV6_HNAPT ∨ type = IPV6_HNAT) ∧ ¬ isIpv6Grp type = true := by
    decide
  obtain ⟨notIpv4, notHnapt6, notIpv6⟩ := types _ other
  unfold updateWinfo
  rw [if_neg notIpv4, if_neg notHnapt6, if_neg notIpv6]

/-! ## The values that fit -/

theorem setWidth_toNat_iff {w : Nat} (value : BitVec w) (n : Nat) :
    (value.setWidth n).toNat = value.toNat ↔ value.toNat < 2 ^ n := by
  rw [BitVec.toNat_setWidth]
  constructor
  · intro same
    rw [← same]
    exact Nat.mod_lt _ (Nat.two_pow_pos n)
  · exact Nat.mod_eq_of_lt

theorem boolBit_toNat_iff (value : BitVec 16) :
    (boolBit (value != 0) : BitVec 1).toNat = value.toNat ↔ value.toNat ≤ 1 := by
  unfold boolBit
  by_cases zero : value = 0
  · subst zero
    decide
  · have positive : value.toNat ≠ 0 := fun isZero => zero (BitVec.eq_of_toNat_eq isZero)
    have flag : (value != 0) = true := by simpa using zero
    rw [if_pos flag]
    change 1 = value.toNat ↔ _
    omega

theorem dscp_toNat_iff (dscp : BitVec 32) :
    (((if 0 < dscp.toInt then dscp.setWidth 8 else 0 : BitVec 8).toNat : Nat) : Int) =
      dscp.toInt ↔ 0 ≤ dscp.toInt ∧ dscp.toInt < 256 := by
  have bounds := BitVec.toInt_eq_toNat_cond dscp
  by_cases positive : 0 < dscp.toInt
  · rw [if_pos positive, BitVec.toNat_setWidth]
    have natural : dscp.toInt = (dscp.toNat : Int) := by
      split at bounds <;> omega
    rw [natural]
    omega
  · rw [if_neg positive]
    change (0 : Int) = dscp.toInt ↔ _
    omega

/-! ## One field -/

theorem field_lens_iff {n : Nat} {update : Update} {entry : FoeEntry} {readsBack : Prop}
    (field : EntryField n) (value : BitVec n)
    (logic : update.logic entry = setField (some field) value entry)
    (spares : field.Spares (othersOf update (pktTypeOf entry)))
    (reads : ReadsBack update (pktTypeOf entry) (field.set value entry) ↔ readsBack) :
    EntryLens update entry ↔ readsBack := by
  rw [entryLens_of_success (updateEntry_setField field value logic), reads]
  exact and_iff_left (field.keepsBits_set value entry spares)

theorem misplaced_lens_iff {n : Nat} {update : Update} {entry : FoeEntry} {readsBack : Prop}
    (field : EntryField n) (value : BitVec n)
    (logic : update.logic entry = setField (some field) value entry)
    (within : field.Within (othersOf update (pktTypeOf entry)))
    (reads : ReadsBack update (pktTypeOf entry) (field.set value entry) ↔ readsBack) :
    EntryLens update entry ↔ readsBack ∧ field.get entry = value := by
  rw [entryLens_of_success (updateEntry_setField field value logic), reads]
  refine and_congr_right fun _ => ?_
  constructor
  · intro keeps
    rw [← KeepsBits.get keeps field within, field.get_set]
  · intro held
    rw [(field.set_eq_self_iff value entry).mpr held]
    exact KeepsBits.refl _ _

theorem dscp_lens_iff (dscp : BitVec 32) (entry : FoeEntry) :
    EntryLens (.dscp dscp) entry ↔ HoldsOn (.dscp dscp) entry := by
  by_cases grp : isGrp (pktTypeOf entry) = true
  · have spares : (iblk2Of (pktTypeOf entry)).dscp.Spares
        (othersOf (.dscp dscp) (pktTypeOf entry)) :=
      (by decide : ∀ type, (iblk2Of type).dscp.Spares (othersOf (.dscp 0) type)) _
    rw [field_lens_iff (iblk2Of (pktTypeOf entry)).dscp
      (if 0 < dscp.toInt then dscp.setWidth 8 else 0) ?_ spares Iff.rfl]
    · unfold ReadsBack HoldsOn
      simp only [Field.get_set, grp, forall_const]
      exact dscp_toNat_iff dscp
    · change hnatEntrySetDscp dscp entry = _
      unfold hnatEntrySetDscp
      rw [updateIblk2_grp grp]
      rfl
  · have failed : EntryLens (.dscp dscp) entry := entryLens_of_fail (by
      change hnatEntrySetDscp dscp entry = _
      unfold hnatEntrySetDscp
      rw [updateIblk2_other grp]
      rfl)
    exact iff_of_true failed fun inGrp => absurd inGrp grp

theorem toNat_eq_and_iff {n : Nat} (own : BitVec n) (value : BitVec 16) (other : Prop) :
    own.toNat = value.toNat ∧ other ↔
      value.toNat < 2 ^ n ∧ own = value.setWidth n ∧ other := by
  constructor
  · rintro ⟨same, held⟩
    have fits : value.toNat < 2 ^ n := same ▸ own.isLt
    refine ⟨fits, BitVec.eq_of_toNat_eq ?_, held⟩
    rw [same, (setWidth_toNat_iff value n).mpr fits]
  · rintro ⟨fits, rfl, held⟩
    exact ⟨(setWidth_toNat_iff value n).mpr fits, held⟩

theorem winfo_lens_iff {n : Nat} (select : WinfoBlock → EntryField n) {update : Update}
    (value : BitVec 16) {entry : FoeEntry} (logic : update.logic entry =
      setField ((updateWinfo (pktTypeOf entry)).map select) (value.setWidth n) entry)
    (reads : ∀ after, ReadsBack update (pktTypeOf entry) after ↔
      ((select (winfoOf (pktTypeOf entry))).get after).toNat = value.toNat)
    (spares : (select (winfoOf (pktTypeOf entry))).Spares (othersOf update (pktTypeOf entry)))
    (within : winfoElsewhere (pktTypeOf entry) = true →
      (select Ipv4Mape.winfo).Within (othersOf update (pktTypeOf entry)))
    (apart : (select Ipv4Mape.winfo).Apart (select Ipv65tRoute.winfo)) :
    EntryLens update entry ↔ (isGrp (pktTypeOf entry) = true → value.toNat < 2 ^ n ∧
      (winfoElsewhere (pktTypeOf entry) = true →
        (select (winfoOf (pktTypeOf entry))).get entry = value.setWidth n ∧
          (select Ipv4Mape.winfo).get entry = value.setWidth n)) := by
  by_cases grp : isGrp (pktTypeOf entry) = true
  · by_cases elsewhere : winfoElsewhere (pktTypeOf entry) = true
    · obtain ⟨written, own⟩ := updateWinfo_elsewhere elsewhere
      rw [written] at logic
      rw [misplaced_lens_iff _ _ logic (within elsewhere) (reads _), own,
        Field.get_set_of_apart _ _ _ _ apart, toNat_eq_and_iff]
      simp only [grp, elsewhere, forall_const]
    · rw [updateWinfo_own grp elsewhere] at logic
      rw [field_lens_iff _ _ logic spares (reads _), Field.get_set, setWidth_toNat_iff]
      simp only [grp, elsewhere, forall_const, false_implies, and_true, Bool.false_eq_true]
  · rw [updateWinfo_other grp] at logic
    exact iff_of_true (entryLens_of_fail logic) fun inGrp => absurd inGrp grp

theorem isPrior_lens_iff (isPrior : BitVec 16) (entry : FoeEntry) :
    EntryLens (.isPrior isPrior) entry ↔ HoldsOn (.isPrior isPrior) entry :=
  winfo_lens_iff WinfoBlock.isPrior isPrior rfl (fun _ => Iff.rfl)
    ((by decide : ∀ type,
      (winfoOf type).isPrior.Spares (othersOf (.isPrior 0) type)) _)
    ((by decide : ∀ type, winfoElsewhere type = true →
      Ipv4Mape.winfo.isPrior.Within (othersOf (.isPrior 0) type)) _) (by decide)

theorem tid_lens_iff (tid : BitVec 16) (entry : FoeEntry) :
    EntryLens (.tid tid) entry ↔ HoldsOn (.tid tid) entry :=
  winfo_lens_iff WinfoBlock.tid tid rfl (fun _ => Iff.rfl)
    ((by decide : ∀ type, (winfoOf type).tid.Spares (othersOf (.tid 0) type)) _)
    ((by decide : ∀ type, winfoElsewhere type = true →
      Ipv4Mape.winfo.tid.Within (othersOf (.tid 0) type)) _) (by decide)

/-! ## PPPoE and VLAN -/

theorem pppoe_lens_iff (psn pppoeId : BitVec 16) (entry : FoeEntry) :
    EntryLens (.pppoe psn pppoeId) entry ↔ HoldsOn (.pppoe psn pppoeId) entry := by
  by_cases grp : isGrp (pktTypeOf entry) = true
  · have logic : (Update.pppoe psn pppoeId).logic entry = _ := rfl
    change _ = hnatEntrySetPppoe psn pppoeId entry at logic
    unfold hnatEntrySetPppoe at logic
    rw [updateIblk2_grp grp] at logic
    dsimp only at logic
    have done : updateEntry (.pppoe psn pppoeId) entry =
        (.success, Bfib1.psn.set (boolBit (psn != 0))
          ((l2Of (pktTypeOf entry)).pppoeId.set pppoeId entry)) := by
      by_cases held : Bfib1.psn.get entry = boolBit (psn != 0) ∧
          (l2Of (pktTypeOf entry)).pppoeId.get entry = pppoeId
      · rw [if_pos held] at logic
        rw [updateEntry_alreadySet logic, (Field.set_eq_self_iff _ _ _).mpr held.2,
          (Field.set_eq_self_iff _ _ _).mpr held.1]
      · rw [if_neg held] at logic
        exact updateEntry_success logic
    have psnApart : ∀ type, Bfib1.psn.Apart (l2Of type).pppoeId := by decide
    have frame : KeepsBits (othersOf (.pppoe psn pppoeId) (pktTypeOf entry)) entry
        (Bfib1.psn.set (boolBit (psn != 0))
          ((l2Of (pktTypeOf entry)).pppoeId.set pppoeId entry)) :=
      (Field.keepsBits_set _ pppoeId entry ((by decide : ∀ type,
        (l2Of type).pppoeId.Spares (othersOf (.pppoe 0 0) type)) _)).trans
        (Field.keepsBits_set _ _ _ ((by decide : ∀ type,
          Bfib1.psn.Spares (othersOf (.pppoe 0 0) type)) _))
    rw [entryLens_of_success done, and_iff_left frame]
    unfold ReadsBack HoldsOn
    simp only [Field.get_set, Field.get_set_of_apart _ _ _ _ (psnApart _), grp, forall_const,
      and_true]
    exact boolBit_toNat_iff psn
  · have failed : EntryLens (.pppoe psn pppoeId) entry := entryLens_of_fail (by
      change hnatEntrySetPppoe psn pppoeId entry = _
      unfold hnatEntrySetPppoe
      rw [updateIblk2_other grp])
    exact iff_of_true failed fun inGrp => absurd inGrp grp

theorem get_fillSpTag {n : Nat} (isDsa : Bool) (spTag : EntryField 16) (read : EntryField n)
    (entry : FoeEntry) (apart : spTag.Apart read ∧ Bfib1.vlanLayer.Apart read) :
    read.get (fillSpTag isDsa spTag entry) = read.get entry := by
  obtain ⟨tag, layer⟩ := apart
  unfold fillSpTag
  split
  · split
    · dsimp only
      rw [Field.get_set_of_apart _ _ _ _ tag, Field.get_set_of_apart _ _ _ _ layer]
    · exact Field.get_set_of_apart _ _ _ _ tag
  · split
    · exact Field.get_set_of_apart _ _ _ _ tag
    · rfl

theorem keepsBits_fillSpTag {kept : FoeEntry} (isDsa : Bool) (spTag : EntryField 16)
    (entry : FoeEntry) (spares : spTag.Spares kept ∧ Bfib1.vlanLayer.Spares kept) :
    KeepsBits kept entry (fillSpTag isDsa spTag entry) := by
  obtain ⟨tag, layer⟩ := spares
  unfold fillSpTag
  split
  · split
    · exact (Field.keepsBits_set _ _ _ layer).trans (Field.keepsBits_set _ _ _ tag)
    · exact Field.keepsBits_set _ _ _ tag
  · split
    · exact Field.keepsBits_set _ _ _ tag
    · exact KeepsBits.refl _ _

theorem vlan_lens (vlan1 vlan2 : BitVec 16) (entry : FoeEntry) :
    EntryLens (.vlan vlan1 vlan2) entry := by
  have logic : (Update.vlan vlan1 vlan2).logic entry = hnatEntrySetVlan vlan1 vlan2 entry := rfl
  unfold hnatEntrySetVlan at logic
  by_cases grp : isGrp (pktTypeOf entry) = true
  · rw [updateIblk2_grp grp] at logic
    dsimp only at logic
    split at logic
    · rename_i held
      rw [entryLens_of_success (updateEntry_alreadySet logic)]
      exact ⟨held.2, KeepsBits.refl _ _⟩
    · rw [entryLens_of_success (updateEntry_success logic)]
      obtain ⟨tag1, tag2, layer1, layer2, apart⟩ := (by decide : ∀ type,
        (l2Of type).spTag.Apart (l2Of type).vlan1 ∧ (l2Of type).spTag.Apart (l2Of type).vlan2 ∧
          Bfib1.vlanLayer.Apart (l2Of type).vlan1 ∧ Bfib1.vlanLayer.Apart (l2Of type).vlan2 ∧
            (l2Of type).vlan2.Apart (l2Of type).vlan1) (pktTypeOf entry)
      obtain ⟨layer, first, second, tag⟩ := (by decide : ∀ type,
        Bfib1.vlanLayer.Spares (othersOf (.vlan 0 0) type) ∧
          (l2Of type).vlan1.Spares (othersOf (.vlan 0 0) type) ∧
            (l2Of type).vlan2.Spares (othersOf (.vlan 0 0) type) ∧
              (l2Of type).spTag.Spares (othersOf (.vlan 0 0) type)) (pktTypeOf entry)
      refine ⟨⟨?_, ?_⟩, ?_⟩
      · rw [get_fillSpTag _ _ _ _ ⟨tag1, layer1⟩, Field.get_set_of_apart _ _ _ _ apart,
          Field.get_set]
      · rw [get_fillSpTag _ _ _ _ ⟨tag2, layer2⟩, Field.get_set]
      · exact (((Field.keepsBits_set _ _ _ layer).trans (Field.keepsBits_set _ _ _ first)).trans
          (Field.keepsBits_set _ _ _ second)).trans (keepsBits_fillSpTag _ _ _ ⟨tag, layer⟩)
  · rw [updateIblk2_other grp] at logic
    exact entryLens_of_fail logic

/-! ## HQoS -/

theorem engine_own {pktType : FoeIpAct} (grp : isGrp pktType = true)
    (own : ¬ engineElsewhere pktType = true) : sharedEngine pktType = engineOf pktType := by
  have types : ∀ type, isGrp type = true → ¬ engineElsewhere type = true →
      ¬ (type = IPV4_MAP_E ∨ type = IPV4_MAP_T) ∧ ¬ (type = IPV6_HNAPT ∨ type = IPV6_HNAT) := by
    decide
  obtain ⟨notMape, notHnapt6⟩ := types _ grp own
  unfold sharedEngine engineOf
  rw [if_neg notMape, if_neg notHnapt6]

theorem engine_elsewhere {pktType : FoeIpAct} (elsewhere : engineElsewhere pktType = true) :
    sharedEngine pktType = Ipv65tRoute.engine := by
  have types : ∀ type, engineElsewhere type = true → ¬ isIpv4Grp type = true := by decide
  unfold sharedEngine
  rw [if_neg (types _ elsewhere)]

theorem queueMask_eq (qid : BitVec 16) :
    (qid &&& MTK_QDMA_QUEUE_MASK.setWidth 16).setWidth 7 = qid.setWidth 7 := by
  have all : MTK_QDMA_QUEUE_MASK.setWidth 16 = BitVec.allOnes 16 := by decide
  rw [all, BitVec.and_allOnes]

def hqosWrite (fqos qid : BitVec 16) (entry : FoeEntry) : FoeEntry :=
  (iblk2Of (pktTypeOf entry)).qid.set (qid.setWidth 7)
    ((iblk2Of (pktTypeOf entry)).fqos.set (boolBit (fqos != 0))
      ((sharedEngine (pktTypeOf entry)).tportId.set (tportOf fqos) entry))

theorem hqosWrite_reads (fqos qid : BitVec 16) (entry : FoeEntry) :
    (iblk2Of (pktTypeOf entry)).fqos.get (hqosWrite fqos qid entry) = boolBit (fqos != 0) ∧
      (iblk2Of (pktTypeOf entry)).qid.get (hqosWrite fqos qid entry) = qid.setWidth 7 ∧
      (sharedEngine (pktTypeOf entry)).tportId.get (hqosWrite fqos qid entry) =
        tportOf fqos := by
  obtain ⟨qidFqos, qidTport, fqosTport⟩ := (by decide : ∀ type,
    (iblk2Of type).qid.Apart (iblk2Of type).fqos ∧
      (iblk2Of type).qid.Apart (sharedEngine type).tportId ∧
        (iblk2Of type).fqos.Apart (sharedEngine type).tportId) (pktTypeOf entry)
  unfold hqosWrite
  refine ⟨?_, Field.get_set _ _ _, ?_⟩
  · rw [Field.get_set_of_apart _ _ _ _ qidFqos, Field.get_set]
  · rw [Field.get_set_of_apart _ _ _ _ qidTport, Field.get_set_of_apart _ _ _ _ fqosTport,
      Field.get_set]

theorem hqosWrite_elsewhere (fqos qid : BitVec 16) {entry : FoeEntry}
    (elsewhere : engineElsewhere (pktTypeOf entry) = true) :
    (engineOf (pktTypeOf entry)).tportId.get (hqosWrite fqos qid entry) =
        (engineOf (pktTypeOf entry)).tportId.get entry ∧
      Ipv65tRoute.engine.tportId.Within (othersOf (.hqos fqos qid) (pktTypeOf entry)) := by
  obtain ⟨apartQid, apartFqos, apartTport⟩ := (by decide : ∀ type, engineElsewhere type = true →
    (iblk2Of type).qid.Apart (engineOf type).tportId ∧
      (iblk2Of type).fqos.Apart (engineOf type).tportId ∧
        (sharedEngine type).tportId.Apart (engineOf type).tportId) _ elsewhere
  refine ⟨?_, (by decide : ∀ type, engineElsewhere type = true →
    Ipv65tRoute.engine.tportId.Within (othersOf (.hqos 0 0) type)) _ elsewhere⟩
  unfold hqosWrite
  rw [Field.get_set_of_apart _ _ _ _ apartQid, Field.get_set_of_apart _ _ _ _ apartFqos,
    Field.get_set_of_apart _ _ _ _ apartTport]

theorem queue_reads_iff {fqos qid : BitVec 16} {forced : BitVec 1} {queue : BitVec 7}
    (fits : qid.toNat < MTK_QDMA_NUM_QUEUES) (flag : forced = boolBit (fqos != 0))
    (number : queue = qid.setWidth 7) (rest : Prop) :
    (forced.toNat = fqos.toNat ∧ queue.toNat = qid.toNat ∧ rest) ↔ fqos.toNat ≤ 1 ∧ rest := by
  have small : qid.toNat < 2 ^ 7 := Nat.lt_trans fits (by decide)
  rw [flag, number, boolBit_toNat_iff, setWidth_toNat_iff, and_iff_right small]

theorem hqos_lens_iff (fqos qid : BitVec 16) (entry : FoeEntry) :
    EntryLens (.hqos fqos qid) entry ↔ HoldsOn (.hqos fqos qid) entry := by
  have logic : (Update.hqos fqos qid).logic entry = hnatEntrySetHqos fqos qid entry := rfl
  unfold hnatEntrySetHqos at logic
  unfold HoldsOn
  dsimp only
  by_cases fits : qid.toNat < MTK_QDMA_NUM_QUEUES
  · rw [if_neg (Nat.not_le.mpr fits)] at logic
    by_cases grp : isGrp (pktTypeOf entry) = true
    · rw [updateIblk2_grp grp, queueMask_eq] at logic
      dsimp only at logic
      simp only [grp, fits, forall_const]
      have frame : ∀ rest : FoeEntry, KeepsBits (othersOf (.hqos fqos qid) (pktTypeOf entry)) rest
          ((iblk2Of (pktTypeOf entry)).qid.set (qid.setWidth 7)
            ((iblk2Of (pktTypeOf entry)).fqos.set (boolBit (fqos != 0)) rest)) := by
        obtain ⟨sparesFqos, sparesQid⟩ := (by decide : ∀ type,
          (iblk2Of type).fqos.Spares (othersOf (.hqos 0 0) type) ∧
            (iblk2Of type).qid.Spares (othersOf (.hqos 0 0) type)) (pktTypeOf entry)
        exact fun rest => (Field.keepsBits_set _ _ _ sparesFqos).trans
          (Field.keepsBits_set _ _ _ sparesQid)
      by_cases held : queued fqos qid entry = true
      · obtain ⟨flag, number⟩ : (iblk2Of (pktTypeOf entry)).fqos.get entry = boolBit (fqos != 0) ∧
            (iblk2Of (pktTypeOf entry)).qid.get entry = qid.setWidth 7 := by
          simpa [queued] using held
        rw [if_pos ⟨flag, number⟩] at logic
        rw [entryLens_of_success (updateEntry_alreadySet logic),
          and_iff_left (KeepsBits.refl _ _)]
        unfold ReadsBack
        simp only [held, true_or, forall_const, not_true_eq_false, false_and, false_implies,
          and_true]
        exact queue_reads_iff fits flag number _
      · have unheld : ¬ ((iblk2Of (pktTypeOf entry)).fqos.get entry = boolBit (fqos != 0) ∧
            (iblk2Of (pktTypeOf entry)).qid.get entry = qid.setWidth 7) := by
          simpa [queued] using held
        rw [if_neg unheld] at logic
        rw [entryLens_of_success (updateEntry_success logic)]
        change ReadsBack (.hqos fqos qid) (pktTypeOf entry) (hqosWrite fqos qid entry) ∧
          KeepsBits _ entry (hqosWrite fqos qid entry) ↔ _
        obtain ⟨flag, number, port⟩ := hqosWrite_reads fqos qid entry
        unfold ReadsBack
        dsimp only
        rw [queue_reads_iff fits flag number, and_assoc]
        refine and_congr_right fun _ => ?_
        by_cases elsewhere : engineElsewhere (pktTypeOf entry) = true
        · obtain ⟨own, within⟩ := hqosWrite_elsewhere fqos qid elsewhere
          rw [engine_elsewhere elsewhere] at port
          rw [own]
          constructor
          · rintro ⟨ported, keeps⟩
            refine ⟨fun _ => ported, fun _ => ?_⟩
            rw [← KeepsBits.get keeps Ipv65tRoute.engine.tportId within, port]
          · rintro ⟨ported, shared⟩
            have unchanged := (Field.set_eq_self_iff Ipv65tRoute.engine.tportId _ entry).mpr
              (shared ⟨held, elsewhere⟩)
            refine ⟨ported (Or.inr elsewhere), ?_⟩
            unfold hqosWrite
            rw [engine_elsewhere elsewhere, unchanged]
            exact frame entry
        · rw [engine_own grp elsewhere] at port
          have ports := Field.keepsBits_set (engineOf (pktTypeOf entry)).tportId (tportOf fqos)
            entry ((by decide : ∀ type,
              (engineOf type).tportId.Spares (othersOf (.hqos 0 0) type)) _)
          unfold hqosWrite at port ⊢
          rw [engine_own grp elsewhere] at port ⊢
          refine iff_of_true ⟨port, ports.trans (frame _)⟩ ⟨fun either => ?_, fun both => ?_⟩
          · exact absurd either (by rintro (heldHere | here) <;> contradiction)
          · exact absurd both.2 elsewhere
    · rw [updateIblk2_other grp] at logic
      exact iff_of_true (entryLens_of_fail logic) fun inGrp => absurd inGrp grp
  · rw [if_pos (Nat.not_lt.mp fits)] at logic
    exact iff_of_true (entryLens_of_fail logic) fun _ small => absurd small fits

/-! ## The table -/

theorem entry_lens_iff (update : Update) (entry : FoeEntry) :
    EntryLens update entry ↔ HoldsOn update entry := by
  cases update with
  | hqos fqos qid => exact hqos_lens_iff fqos qid entry
  | dscp value => exact dscp_lens_iff value entry
  | vlan vlan1 vlan2 => exact iff_of_true (vlan_lens vlan1 vlan2 entry) fun _ => trivial
  | pppoe psn id => exact pppoe_lens_iff psn id entry
  | isPrior value => exact isPrior_lens_iff value entry
  | tid value => exact tid_lens_iff value entry

inductive Call where
  | byIndex (ppeIndex hashIndex : BitVec 16)
  | bySkb (skb : Option ApiSkb)

def Call.target : Call → Option (BitVec 16 × BitVec 16)
  | .byIndex ppeIndex hashIndex => some (ppeIndex, hashIndex)
  | .bySkb skb => hnatGetIdxFromSkb skb

def Call.run (plat : Platform) (update : Update) : Call → FoeTable → HnatStatus × FoeTable
  | .byIndex ppeIndex hashIndex => mtkHnatUpdateByIndex plat update ppeIndex hashIndex
  | .bySkb skb => mtkHnatUpdateBySkb plat update skb

def Call.bound (plat : Platform) (call : Call) (table : FoeTable) : Option FoeEntry :=
  match call.target with
  | none => none
  | some (ppe, hash) =>
    if plat.ppeNum ≤ ppe.toNat ∨ plat.foeEtryNum ≤ hash.toNat then none
    else if stateOf (table ppe.toNat hash.toNat) ≠ BIND then none
    else some (table ppe.toNat hash.toNat)

def Lens (plat : Platform) (update : Update) (call : Call) (table : FoeTable) : Prop :=
  if (call.run plat update table).1 = .success then
    ∃ ppe hash : BitVec 16, call.target = some (ppe, hash) ∧
      ReadsBack update (pktTypeOf (table ppe.toNat hash.toNat))
        ((call.run plat update table).2 ppe.toNat hash.toNat) ∧
      KeepsBits (othersOf update (pktTypeOf (table ppe.toNat hash.toNat)))
        (table ppe.toNat hash.toNat) ((call.run plat update table).2 ppe.toNat hash.toNat) ∧
      ∀ p h, ¬ (p = ppe.toNat ∧ h = hash.toNat) →
        (call.run plat update table).2 p h = table p h
  else (call.run plat update table).2 = table

theorem write_self (table : FoeTable) (ppe hash : Nat) :
    table.write ppe hash (table ppe hash) = table := by
  funext p h
  unfold FoeTable.write
  split
  · rename_i same
    rw [same.1, same.2]
  · rfl

theorem run_bound {plat : Platform} {update : Update} {call : Call} {table : FoeTable}
    {ppe hash : BitVec 16} (target : call.target = some (ppe, hash))
    (inRange : ¬ (plat.ppeNum ≤ ppe.toNat ∨ plat.foeEtryNum ≤ hash.toNat))
    (bound : stateOf (table ppe.toNat hash.toNat) = BIND) :
    call.run plat update table =
      ((updateEntry update (table ppe.toNat hash.toNat)).1,
        table.write ppe.toNat hash.toNat (updateEntry update (table ppe.toNat hash.toNat)).2) := by
  have ran : call.run plat update table =
      hnatUpdateEntryGeneric plat ppe hash update.logic table := by
    cases call with
    | byIndex ppeIndex hashIndex =>
      obtain ⟨rfl, rfl⟩ := Prod.mk.inj (Option.some.inj target)
      rfl
    | bySkb skb =>
      change mtkHnatUpdateBySkb plat update skb table = _
      unfold mtkHnatUpdateBySkb
      rw [show hnatGetIdxFromSkb skb = some (ppe, hash) from target]
      rfl
  rw [ran]
  unfold hnatUpdateEntryGeneric updateEntry
  dsimp only
  rw [if_neg inRange, if_neg (not_not.mpr bound)]
  obtain ⟨ret, after⟩ := update.logic (table ppe.toNat hash.toNat)
  cases ret with
  | success => rfl
  | alreadySet => exact Prod.ext rfl (write_self table _ _).symm
  | fail => exact Prod.ext rfl (write_self table _ _).symm
  | entryNotFound => exact Prod.ext rfl (write_self table _ _).symm

theorem run_unbound {plat : Platform} {update : Update} {call : Call} {table : FoeTable}
    (unbound : call.bound plat table = none) :
    (call.run plat update table).1 ≠ .success ∧ (call.run plat update table).2 = table := by
  have byIndex : ∀ ppe hash : BitVec 16, call.target = some (ppe, hash) →
      (hnatUpdateEntryGeneric plat ppe hash update.logic table).1 ≠ .success ∧
        (hnatUpdateEntryGeneric plat ppe hash update.logic table).2 = table := by
    intro ppe hash target
    unfold Call.bound at unbound
    rw [target] at unbound
    dsimp only at unbound
    unfold hnatUpdateEntryGeneric
    split
    · exact ⟨nofun, rfl⟩
    · rename_i inRange
      rw [if_neg inRange] at unbound
      dsimp only
      split
      · exact ⟨nofun, rfl⟩
      · rename_i bound
        rw [if_neg bound] at unbound
        cases unbound
  cases call with
  | byIndex ppeIndex hashIndex => exact byIndex ppeIndex hashIndex rfl
  | bySkb skb =>
    change (mtkHnatUpdateBySkb plat update skb table).1 ≠ .success ∧
      (mtkHnatUpdateBySkb plat update skb table).2 = table
    unfold mtkHnatUpdateBySkb
    cases read : hnatGetIdxFromSkb skb with
    | none => exact ⟨nofun, rfl⟩
    | some pair => exact byIndex pair.1 pair.2 read

theorem update_lens_iff (plat : Platform) (update : Update) (call : Call) (table : FoeTable) :
    Lens plat update call table ↔ ∀ entry ∈ call.bound plat table, HoldsOn update entry := by
  cases bound : call.bound plat table with
  | none =>
    obtain ⟨failed, unchanged⟩ := @run_unbound plat update call table bound
    unfold Lens
    rw [if_neg failed]
    exact iff_of_true unchanged nofun
  | some entry =>
    have found := bound
    unfold Call.bound at found
    cases target : call.target with
    | none => simp [target] at found
    | some pair =>
      obtain ⟨ppe, hash⟩ := pair
      rw [target] at found
      dsimp only at found
      split at found
      · cases found
      · rename_i inRange
        split at found
        · cases found
        · rename_i state
          obtain rfl := Option.some.inj found
          have ran := @run_bound plat update call table ppe hash target inRange
            (not_not.mp state)
          have own : ∀ after, table.write ppe.toNat hash.toNat after ppe.toNat hash.toNat =
              after := by
            simp [FoeTable.write]
          have others : ∀ after p h, ¬ (p = ppe.toNat ∧ h = hash.toNat) →
              table.write ppe.toNat hash.toNat after p h = table p h := by
            intro after p h other
            simp [FoeTable.write, other]
          simp only [Option.mem_def, Option.some.injEq, forall_eq', ← entry_lens_iff]
          unfold Lens EntryLens
          rw [ran]
          dsimp only
          split
          · constructor
            · rintro ⟨ppe', hash', same, reads, keeps, -⟩
              obtain ⟨rfl, rfl⟩ := Prod.mk.inj (Option.some.inj (target.symm.trans same))
              rw [own] at reads keeps
              exact ⟨reads, keeps⟩
            · rintro ⟨reads, keeps⟩
              refine ⟨ppe, hash, target, ?_, ?_, others _⟩
              · rwa [own]
              · rwa [own]
          · constructor
            · intro unchanged
              rw [← own (updateEntry update (table ppe.toNat hash.toNat)).2, unchanged]
            · intro unchanged
              rw [unchanged, write_self]

/-! ## A MAP-E entry -/

/-- A bound MAP-E entry whose new source port is `0x1230`. -/
def mapeTable : FoeTable := fun _ _ =>
  Bfib1.state.set BIND (Bfib1.pktType.set IPV4_MAP_E
    (Ipv4Mape.newSport.set 0x1230 FoeEntry.zero))

theorem hqos_overwrites_mape_port :
    (mtkHnatUpdateByIndex ⟨1, 16, 16⟩ (.hqos 1 5) 0 0 mapeTable).1 = .success ∧
      Ipv4Mape.newSport.get ((mtkHnatUpdateByIndex ⟨1, 16, 16⟩ (.hqos 1 5) 0 0 mapeTable).2 0 0) =
        0x1231 ∧
      ¬ Lens ⟨1, 16, 16⟩ (.hqos 1 5) (.byIndex 0 0) mapeTable := by
  refine ⟨by decide, by decide, ?_⟩
  unfold Lens
  rw [if_pos (by decide)]
  rintro ⟨ppe, hash, target, -, keeps, -⟩
  obtain ⟨rfl, rfl⟩ := Prod.mk.inj (Option.some.inj target)
  have kept := KeepsBits.get keeps Ipv4Mape.newSport (by decide)
  exact absurd kept (by decide)

end OpenwrtSource.Hnat.UpdateLens
