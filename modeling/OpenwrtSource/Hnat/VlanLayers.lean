import OpenwrtSource.Hnat.BindEffects
import OpenwrtSource.Hnat.FlowList
import OpenwrtSource.Hnat.SlotOwnership

/-!
# VLAN tags of a packet to Wi-Fi

`mtk_sw_nat_hook_tx` gives the entry the tags that the packet leaves with, the
accelerated one first and then those of the frame.  An entry has room for two.
-/

namespace OpenwrtSource.Hnat.VlanLayers

open Lib.BitField Lib.Run Hnat.Foe Hnat.McastTable Hnat.McastOffload Hnat.Translation
open Hnat.BindPacket Hnat.BindEntry Hnat.BindEffects Hnat.HookTx Hnat.FlowList

/-! ## The tags of an entry -/

structure VlanFields where
  vlan1 : EntryField 16
  vlan2 : EntryField 16

def L2Block.vlans (l2 : L2Block) : VlanFields := ⟨l2.vlan1, l2.vlan2⟩

def vlanFields (pktType : FoeIpAct) : VlanFields :=
  if pktType = L2_BRIDGE then ⟨L2Bridge.newVlan1, L2Bridge.newVlan2⟩
  else if isIpv4Grp pktType then L2Block.vlans Ipv4Hnapt.l2
  -- MAP-E and MAP-T have the layout of DS-Lite up to their translation
  else if pktType = IPV4_DSLITE ∨ pktType = IPV4_MAP_E ∨ pktType = IPV4_MAP_T then
    L2Block.vlans Ipv4Dslite.l2
  else if pktType = IPV6_6RD then L2Block.vlans Ipv66rd.l2
  else if pktType = IPV6_HNAPT ∨ pktType = IPV6_HNAT then L2Block.vlans Ipv6Hnapt.l2
  else L2Block.vlans Ipv65tRoute.l2

theorem vlanFields_eq (pktType : FoeIpAct) :
    vlanFields pktType = L2Block.vlans
      (if isIpv4Grp pktType ∨ pktType = L2_BRIDGE then Ipv4Hnapt.l2 else Ipv65tRoute.l2) := by
  unfold vlanFields
  by_cases bridged : pktType = L2_BRIDGE
  · rw [if_pos bridged, if_pos (Or.inr bridged)]
    rfl
  · by_cases ipv4 : isIpv4Grp pktType = true
    · rw [if_neg bridged, if_pos ipv4, if_pos (Or.inl ipv4)]
    · have other : ¬ (isIpv4Grp pktType = true ∨ pktType = L2_BRIDGE) :=
        fun either => either.elim ipv4 bridged
      rw [if_neg bridged, if_neg ipv4, if_neg other]
      split
      · rfl
      · split
        · rfl
        · split <;> rfl

def egressVlans (entry : FoeEntry) : List (BitVec 16) :=
  let fields := vlanFields (pktTypeOf entry)
  [fields.vlan1.get entry, fields.vlan2.get entry].take (Bfib1.vlanLayer.get entry).toNat

structure Layered (vlans : List (BitVec 16)) (entry : FoeEntry) : Prop where
  layer : (Bfib1.vlanLayer.get entry).toNat = vlans.length
  vlans : egressVlans entry = vlans

theorem layered_iff (vlans : List (BitVec 16)) (entry : FoeEntry) :
    Layered vlans entry ↔
      (Bfib1.vlanLayer.get entry).toNat = vlans.length ∧ egressVlans entry = vlans :=
  ⟨fun ⟨layer, same⟩ => ⟨layer, same⟩, fun ⟨layer, same⟩ => ⟨layer, same⟩⟩

instance (vlans : List (BitVec 16)) (entry : FoeEntry) : Decidable (Layered vlans entry) :=
  decidable_of_iff _ (layered_iff vlans entry).symm

theorem Layered.length_le {vlans : List (BitVec 16)} {entry : FoeEntry}
    (layered : Layered vlans entry) : vlans.length ≤ 2 := by
  rw [← layered.vlans, egressVlans, List.length_take]
  exact Nat.min_le_right _ _

theorem Layered.unique {left right : List (BitVec 16)} {entry : FoeEntry}
    (one : Layered left entry) (other : Layered right entry) : left = right :=
  one.vlans.symm.trans other.vlans

def vlanBits (pktType : FoeIpAct) : FoeEntry :=
  mark Bfib1.pktType (mark Bfib1.vlanLayer
    (mark (vlanFields pktType).vlan1 (mark (vlanFields pktType).vlan2 FoeEntry.zero)))

theorem typed_vlanBits : Typed vlanBits := by
  unfold Typed
  decide

theorem vlanBits_within : ∀ pktType, Bfib1.vlanLayer.Within (vlanBits pktType) ∧
    (vlanFields pktType).vlan1.Within (vlanBits pktType) ∧
    (vlanFields pktType).vlan2.Within (vlanBits pktType) := by
  decide

section

variable {before after : FoeEntry} {vlans : List (BitVec 16)}

theorem Layered.keeps (layered : Layered vlans before) (keeps : Keeps vlanBits before after) :
    Layered vlans after := by
  obtain ⟨layer, vlan1, vlan2⟩ := vlanBits_within (pktTypeOf before)
  have sameLayer := KeepsBits.get keeps _ layer
  refine ⟨sameLayer ▸ layered.layer, ?_⟩
  rw [← layered.vlans]
  unfold egressVlans
  dsimp only
  rw [keeps.pktType typed_vlanBits, sameLayer, KeepsBits.get keeps _ vlan1,
    KeepsBits.get keeps _ vlan2]

end

/-! ## `hnat_add_vlan_layer` -/

section

variable {entry added : FoeEntry} {vlans : List (BitVec 16)} (vlanTci : BitVec 16)

theorem hnatAddVlanLayer_eq (entry : FoeEntry) :
    hnatAddVlanLayer vlanTci entry =
      if Bfib1.vlanLayer.get entry ≥ 2 then none
      else
        let fields := vlanFields (pktTypeOf entry)
        some (Bfib1.vlanLayer.set (Bfib1.vlanLayer.get entry + 1)
          (if Bfib1.vlanLayer.get entry = 0 then fields.vlan1.set vlanTci entry
            else fields.vlan2.set vlanTci entry)) := by
  unfold hnatAddVlanLayer
  dsimp only
  rw [vlanFields_eq]
  rfl

theorem layer_apart : Bfib1.vlanLayer.Apart Bfib1.pktType ∧ ∀ pktType,
    Bfib1.vlanLayer.Apart (vlanFields pktType).vlan1 ∧
      Bfib1.vlanLayer.Apart (vlanFields pktType).vlan2 := by
  decide

theorem vlans_apart : ∀ pktType,
    (vlanFields pktType).vlan1.Apart Bfib1.pktType ∧
      (vlanFields pktType).vlan2.Apart Bfib1.pktType ∧
      (vlanFields pktType).vlan2.Apart (vlanFields pktType).vlan1 := by
  decide

theorem hnatAddVlanLayer_full (layered : Layered vlans entry) (full : 2 ≤ vlans.length) :
    hnatAddVlanLayer vlanTci entry = none := by
  have layer := layered.layer
  rw [hnatAddVlanLayer_eq, if_pos]
  exact (BitVec.le_def).2 (by rw [layer]; exact full)

theorem hnatAddVlanLayer_push (layered : Layered vlans entry) (room : vlans.length < 2) :
    ∃ added, hnatAddVlanLayer vlanTci entry = some added ∧ Layered (vlans ++ [vlanTci]) added := by
  obtain ⟨layerType, layerVlans⟩ := layer_apart
  obtain ⟨layer1, layer2⟩ := layerVlans (pktTypeOf entry)
  obtain ⟨type1, type2, second⟩ := vlans_apart (pktTypeOf entry)
  have layer := layered.layer
  have below : ¬ Bfib1.vlanLayer.get entry ≥ 2 := by
    intro above
    have two : 2 ≤ (Bfib1.vlanLayer.get entry).toNat := (BitVec.le_def).1 above
    omega
  rw [hnatAddVlanLayer_eq, if_neg below]
  refine ⟨_, rfl, ?_⟩
  match vlans, layered.vlans with
  | [], _ =>
    have empty : Bfib1.vlanLayer.get entry = 0 := BitVec.eq_of_toNat_eq layer
    have typed : pktTypeOf (Bfib1.vlanLayer.set (0 + 1)
        ((vlanFields (pktTypeOf entry)).vlan1.set vlanTci entry)) = pktTypeOf entry :=
      (Field.get_set_of_apart _ _ _ _ layerType).trans (Field.get_set_of_apart _ _ _ _ type1)
    rw [empty, if_pos rfl]
    refine ⟨?_, ?_⟩
    · rw [Field.get_set]
      rfl
    · unfold egressVlans
      dsimp only
      rw [typed, Field.get_set, Field.get_set_of_apart _ _ _ _ layer1, Field.get_set]
      rfl
  | [first], held =>
    have one : Bfib1.vlanLayer.get entry = 1 := BitVec.eq_of_toNat_eq layer
    have typed : pktTypeOf (Bfib1.vlanLayer.set (1 + 1)
        ((vlanFields (pktTypeOf entry)).vlan2.set vlanTci entry)) = pktTypeOf entry :=
      (Field.get_set_of_apart _ _ _ _ layerType).trans (Field.get_set_of_apart _ _ _ _ type2)
    have outer : (vlanFields (pktTypeOf entry)).vlan1.get entry = first := by
      rw [egressVlans, one] at held
      exact (List.cons.inj held).1
    rw [one, if_neg (by decide)]
    refine ⟨?_, ?_⟩
    · rw [Field.get_set]
      rfl
    · unfold egressVlans
      dsimp only
      rw [typed, Field.get_set, Field.get_set_of_apart _ _ _ _ layer1,
        Field.get_set_of_apart _ _ _ _ second, outer, Field.get_set_of_apart _ _ _ _ layer2,
        Field.get_set]
      rfl

end

theorem hnatAddVlanLayer_layered {entry added : FoeEntry} {vlans : List (BitVec 16)}
    {vlanTci : BitVec 16} (layered : Layered vlans entry)
    (pushed : hnatAddVlanLayer vlanTci entry = some added) :
    Layered (vlans ++ [vlanTci]) added := by
  by_cases room : vlans.length < 2
  · obtain ⟨taken, same, result⟩ := hnatAddVlanLayer_push vlanTci layered room
    obtain rfl := Option.some.inj (same.symm.trans pushed)
    exact result
  · rw [hnatAddVlanLayer_full vlanTci layered (by omega)] at pushed
    cases pushed

theorem layer_of_push {entry added : FoeEntry} {vlanTci : BitVec 16}
    (pushed : hnatAddVlanLayer vlanTci entry = some added) :
    (Bfib1.vlanLayer.get entry).toNat < 2 ∧
      (Bfib1.vlanLayer.get added).toNat = (Bfib1.vlanLayer.get entry).toNat + 1 := by
  rw [hnatAddVlanLayer_eq] at pushed
  split at pushed
  next => cases pushed
  next below =>
    obtain rfl := Option.some.inj pushed
    have room : (Bfib1.vlanLayer.get entry).toNat < 2 := by
      rw [ge_iff_le, BitVec.le_def] at below
      exact Nat.lt_of_not_le below
    have one : (1 : BitVec 3).toNat = 1 := rfl
    refine ⟨room, ?_⟩
    rw [Field.get_set, BitVec.toNat_add, one]
    exact Nat.mod_eq_of_lt (by omega)

/-! ## The tags of a packet -/

/-- The tag that the device would insert is the outermost one. -/
def TxSkb.vlans (skb : TxSkb) : List (BitVec 16) :=
  (skb.vlanTag.map Prod.snd).toList ++ skb.vlanHeaders

def pushAll (vlans : List (BitVec 16)) (entry : Option FoeEntry) : Option FoeEntry :=
  vlans.foldl (fun entry vlanTci => entry.bind (hnatAddVlanLayer vlanTci)) entry

theorem pushAll_none (vlans : List (BitVec 16)) : pushAll vlans none = none := by
  induction vlans with
  | nil => rfl
  | cons vlanTci vlans ih => exact ih

theorem pushAll_layered {vlans held : List (BitVec 16)} {entry added : FoeEntry}
    (layered : Layered held entry) (pushed : pushAll vlans (some entry) = some added) :
    Layered (held ++ vlans) added := by
  induction vlans generalizing held entry with
  | nil =>
    obtain rfl := Option.some.inj pushed
    rwa [List.append_nil]
  | cons vlanTci vlans ih =>
    change pushAll vlans (hnatAddVlanLayer vlanTci entry) = some added at pushed
    cases first : hnatAddVlanLayer vlanTci entry with
    | none =>
      rw [first, pushAll_none] at pushed
      cases pushed
    | some taken =>
      rw [first] at pushed
      have rest := ih (hnatAddVlanLayer_layered layered first) pushed
      rwa [List.append_assoc] at rest

/-- The tag beside the frame, which is bound only if it is of 802.1Q. -/
def addAccelerated (vlanTag : Option (BitVec 16 × BitVec 16)) (entry : FoeEntry) :
    Option FoeEntry :=
  match vlanTag with
  | none => some entry
  | some (proto, vlanTci) =>
    if proto ≠ htons ETH_P_8021Q then none else hnatAddVlanLayer vlanTci entry

theorem txVlans_eq (skb : TxSkb) (entry : FoeEntry) :
    txVlans skb entry = pushAll skb.vlanHeaders (addAccelerated skb.vlanTag entry) := rfl

theorem txVlans_layered {skb : TxSkb} {entry added : FoeEntry} (empty : Layered [] entry)
    (tagged : txVlans skb entry = some added) : Layered (TxSkb.vlans skb) added := by
  rw [txVlans_eq] at tagged
  unfold TxSkb.vlans
  cases accelerated : skb.vlanTag with
  | none =>
    rw [accelerated] at tagged
    exact pushAll_layered empty tagged
  | some tag =>
    obtain ⟨proto, vlanTci⟩ := tag
    rw [accelerated] at tagged
    unfold addAccelerated at tagged
    dsimp only at tagged
    split at tagged
    next =>
      rw [pushAll_none] at tagged
      cases tagged
    next =>
      have whole : pushAll (vlanTci :: skb.vlanHeaders) (some entry) = some added := tagged
      have result := pushAll_layered empty whole
      exact result

/-! ## The rest of the hook -/

def portTagged (tx : TxConfig) (gmacNo : Nat) (desc : HnatDesc) : Bool :=
  !isWdmaPort gmacNo && ((tx.cfg.gmac1Mode && !tx.dsaEnable) ||
    (tx.cfg.hqosMode && (desc.fromGeLanGrp || (desc.fromGeWan || desc.fromGeVirtual))))

section

variable {before after : FoeEntry}

theorem keeps_txSpTag (tagged : txSpTag before = some after) : Keeps vlanBits before after := by
  unfold txSpTag at tagged
  dsimp only at tagged
  split at tagged
  · obtain rfl := Option.some.inj tagged
    exact Keeps.refl before
  · split at tagged
    · obtain rfl := Option.some.inj tagged
      exact (Keeps.refl before).set _ _ (by decide)
    · split at tagged
      · obtain rfl := Option.some.inj tagged
        exact (Keeps.refl before).set _ _ (by decide)
      · cases tagged

theorem keeps_fillWinfo (cfg : HnatConfig) (wifi : WifiInfo) (entry : FoeEntry) :
    Keeps vlanBits entry
      (fillWinfo cfg wifi (winfoOf (pktTypeOf entry)) (iblk2Of (pktTypeOf entry)) entry) := by
  unfold fillWinfo
  refine Keeps.setOf ?_ (fun pktType => (winfoOf pktType).amsdu) _ (by decide)
  refine Keeps.setOf ?_ (fun pktType => (winfoOf pktType).hf) _ (by decide)
  refine Keeps.setOf ?_ (fun pktType => (winfoOf pktType).isSp) _ (by decide)
  refine Keeps.setOf ?_ (fun pktType => (winfoOf pktType).isPrior) _ (by decide)
  refine Keeps.setOf ?_ (fun pktType => (winfoOf pktType).isFixedrate) _ (by decide)
  refine Keeps.setOf ?_ (fun pktType => (winfoOf pktType).tid) _ (by decide)
  refine Keeps.setOf ?_ (fun pktType => (winfoOf pktType).usrInfo) _ (by decide)
  refine Keeps.setOf ?_ (fun pktType => (iblk2Of pktType).winfoi) _ (by decide)
  refine Keeps.setOf ?_ (fun pktType => (iblk2Of pktType).rxid) _ (by decide)
  refine Keeps.setOf ?_ (fun pktType => (iblk2Of pktType).fqos) _ (by decide)
  refine Keeps.setOf ?_ (fun pktType => (winfoOf pktType).wcid) _ (by decide)
  exact (Keeps.refl entry).setOf (fun pktType => (winfoOf pktType).bssid) _ (by decide)

theorem fillNoWdma_plain {tx : TxConfig} {gmacNo : Nat} {desc : HnatDesc}
    (plain : portTagged tx gmacNo desc = false) (other : isWdmaPort gmacNo = false) (iblk2 : Iblk2)
    (l2 : L2Block) (entry : FoeEntry) : fillNoWdma tx desc iblk2 l2 entry = entry := by
  unfold portTagged at plain
  simp only [other, Bool.not_false, Bool.true_and, Bool.or_eq_false_iff] at plain
  obtain ⟨gmac1, tagged⟩ := plain
  unfold fillNoWdma
  simp only [gmac1, tagged, Field.setIf, Bool.false_and, Bool.false_eq_true, if_false]

theorem keeps_txWinfo {tx : TxConfig} {gmacNo : Nat} {skb : TxSkb}
    (plain : portTagged tx gmacNo skb.desc = false) (entry : FoeEntry) :
    Keeps vlanBits entry (txWinfo tx gmacNo skb entry) := by
  unfold txWinfo
  refine Keeps.setOf ?_ (fun pktType => (iblk2Of pktType).dp) _ (by decide)
  refine Keeps.ite _ (fun _ => ?_) fun none => ?_
  · exact (keeps_fillWinfo tx.cfg skb.wifi entry).setIfOf _
      (fun pktType => (engineOf pktType).tportId) _ (by decide)
  · have other : isWdmaPort gmacNo = false := by
      simpa using fun wdma => none (Or.inr wdma)
    rw [fillNoWdma_plain plain other]
    exact (Keeps.refl entry).setOf (fun pktType => (iblk2Of pktType).fqos) _ (by decide)

theorem keeps_ids (ids : EngineIds) (entry : FoeEntry) :
    Keeps vlanBits entry (withIds ids entry) := by
  unfold withIds EngineIds.write setSome
  refine Keeps.setIfOf ?_ _ (fun pktType => (sharedEngine pktType).topsEntry) _ (by decide)
  refine Keeps.setIfOf ?_ _ (fun pktType => (sharedEngine pktType).cdrtId) _ (by decide)
  exact (Keeps.refl entry).setIfOf _ (fun pktType => (sharedEngine pktType).tportId) _ (by decide)

theorem keeps_commit (timestamp : BitVec 8) (state : FoeEntryState) (entry : FoeEntry) :
    Keeps vlanBits entry (hnatFoeEntryCommit timestamp entry state) := by
  unfold hnatFoeEntryCommit
  exact ((Keeps.refl entry).set _ _ (by decide)).set _ _ (by decide)

end

theorem layered_reset (entry : FoeEntry) : Layered [] (Bfib1.vlanLayer.set 0 entry) := by
  refine ⟨?_, ?_⟩
  · rw [Field.get_set]
    rfl
  · unfold egressVlans
    dsimp only
    rw [Field.get_set]
    rfl

theorem txEntry_some {tx : TxConfig} {mcastHookToggle : Bool} {gmacNo : Nat} {skb : TxSkb}
    {entry bound : FoeEntry} (made : txEntry tx mcastHookToggle gmacNo skb entry = some bound) :
    ∃ reset added tagged, Layered [] reset ∧ txVlans skb reset = some added ∧
      txSpTag added = some tagged ∧
      bound = withIds (offloadEngineIds tx.cfg skb.desc) (txWinfo tx gmacNo skb tagged) := by
  unfold txEntry at made
  split at made
  · cases made
  · dsimp only at made
    obtain ⟨tagged, spTagged, rfl⟩ := Option.map_eq_some_iff.mp made
    obtain ⟨added, pushed, marked⟩ := Option.bind_eq_some_iff.mp spTagged
    exact ⟨_, added, tagged, layered_reset _, pushed, marked, hnatFillOffloadEngineEntry_eq _ _ _⟩

theorem txEntry_layered {tx : TxConfig} {mcastHookToggle : Bool} {gmacNo : Nat} {skb : TxSkb}
    {entry bound : FoeEntry} (plain : portTagged tx gmacNo skb.desc = false)
    (made : txEntry tx mcastHookToggle gmacNo skb entry = some bound) :
    Layered (TxSkb.vlans skb) bound := by
  obtain ⟨reset, added, tagged, empty, pushed, marked, rfl⟩ := txEntry_some made
  have layered := txVlans_layered empty pushed
  have informed := (layered.keeps (keeps_txSpTag marked)).keeps (keeps_txWinfo plain tagged)
  exact informed.keeps (keeps_ids _ _)

theorem txEntry_many {tx : TxConfig} {mcastHookToggle : Bool} {gmacNo : Nat} {skb : TxSkb}
    (entry : FoeEntry) (many : 2 < (TxSkb.vlans skb).length) :
    txEntry tx mcastHookToggle gmacNo skb entry = none := by
  cases made : txEntry tx mcastHookToggle gmacNo skb entry with
  | none => rfl
  | some bound =>
    obtain ⟨reset, added, tagged, empty, pushed, -, -⟩ := txEntry_some made
    have room := (txVlans_layered empty pushed).length_le
    omega

/-! ## The loop over the frame -/

/-- A VLAN header behind the addresses, its tag in host order. -/
structure VlanHdr where
  hVlanTci : BitVec 16
  hVlanEncapsulatedProto : BitVec 16

/-- The loop, at the header `index` of the frame; `none` where it has not ended. -/
def tagLoop (vhdr : Nat → VlanHdr) : Nat → BitVec 16 → Nat → FoeEntry → Option (Option FoeEntry)
  | 0, _, _, _ => none
  | rounds + 1, hProto, index, entry =>
    if hProto = htons ETH_P_8021Q then
      match hnatAddVlanLayer (vhdr index).hVlanTci entry with
      | none => some none
      | some added =>
        tagLoop vhdr rounds (vhdr index).hVlanEncapsulatedProto (index + 1) added
    else some (some entry)

theorem tagLoop_ends (vhdr : Nat → VlanHdr) (hProto : BitVec 16) (index : Nat) (entry : FoeEntry)
    (enough : Nat) (climb : 3 ≤ enough + min 2 (Bfib1.vlanLayer.get entry).toNat) :
    ∃ result, ∀ more, tagLoop vhdr (enough + more) hProto index entry = some result := by
  induction enough generalizing hProto index entry with
  | zero => omega
  | succ enough ih =>
    by_cases tagged : hProto = htons ETH_P_8021Q
    · cases pushed : hnatAddVlanLayer (vhdr index).hVlanTci entry with
      | none =>
        refine ⟨none, fun more => ?_⟩
        rw [Nat.succ_add, tagLoop, if_pos tagged, pushed]
      | some added =>
        have climbs := layer_of_push pushed
        obtain ⟨result, ends⟩ :=
          ih (vhdr index).hVlanEncapsulatedProto (index + 1) added (by omega)
        refine ⟨result, fun more => ?_⟩
        rw [Nat.succ_add, tagLoop, if_pos tagged, pushed]
        exact ends more
    · refine ⟨some entry, fun more => ?_⟩
      rw [Nat.succ_add, tagLoop, if_neg tagged]

/-! ## Frames -/

inductive VlanProto
  | ETH_P_8021Q
  | ETH_P_8021AD
  deriving DecidableEq

/-- `skb->protocol` has it in network order. -/
def VlanProto.etherType : VlanProto → BitVec 16
  | .ETH_P_8021Q => htons 0x8100
  | .ETH_P_8021AD => htons 0x88A8

structure VlanTag where
  proto : VlanProto
  tci : BitVec 16

structure Frame where
  /-- The protocol and the tag that the device would insert. -/
  metadata : Option (BitVec 16 × BitVec 16)
  /-- The tags behind the addresses. -/
  stacked : List VlanTag
  payload : BitVec 16
  untagged : ∀ proto : VlanProto, payload ≠ proto.etherType

section

variable (frame : Frame)

def Frame.vlans : List (BitVec 16) :=
  (frame.metadata.map Prod.snd).toList ++ frame.stacked.map VlanTag.tci

def Frame.protocolAt (index : Nat) : BitVec 16 :=
  ((frame.stacked[index]?).map fun tag => tag.proto.etherType).getD frame.payload

def Frame.vhdr (index : Nat) : VlanHdr where
  hVlanTci := ((frame.stacked[index]?).map VlanTag.tci).getD 0
  hVlanEncapsulatedProto := frame.protocolAt (index + 1)

def countedTags (tags : List VlanTag) : List (BitVec 16) :=
  (tags.takeWhile fun tag => tag.proto == .ETH_P_8021Q).map VlanTag.tci

def TxSkb.carrying (skb : TxSkb) : TxSkb :=
  { skb with vlanTag := frame.metadata, vlanHeaders := countedTags frame.stacked }

theorem tagLoop_frame {rounds index : Nat} {entry : FoeEntry} {result : Option FoeEntry}
    (ends : tagLoop frame.vhdr rounds (frame.protocolAt index) index entry = some result) :
    result = pushAll (countedTags (frame.stacked.drop index)) (some entry) := by
  induction rounds generalizing index entry with
  | zero => cases ends
  | succ rounds ih =>
    rw [tagLoop] at ends
    cases rest : frame.stacked.drop index with
    | nil =>
      have past : frame.stacked[index]? = none :=
        List.getElem?_eq_none (List.drop_eq_nil_iff.mp rest)
      have other : frame.protocolAt index ≠ htons ETH_P_8021Q := by
        rw [Frame.protocolAt, past]
        exact frame.untagged .ETH_P_8021Q
      rw [if_neg other] at ends
      exact (Option.some.inj ends).symm
    | cons tag tags =>
      have here : frame.stacked[index]? = some tag := by
        rw [← List.head?_drop, rest]
        rfl
      have next : frame.stacked.drop (index + 1) = tags := by
        rw [← List.tail_drop, rest]
        rfl
      have proto : frame.protocolAt index = tag.proto.etherType := by
        rw [Frame.protocolAt, here]
        rfl
      have tci : (frame.vhdr index).hVlanTci = tag.tci := by
        rw [Frame.vhdr, here]
        rfl
      rw [proto, tci] at ends
      unfold countedTags
      cases kind : tag.proto with
      | ETH_P_8021Q =>
        have inLoop : VlanProto.ETH_P_8021Q.etherType = htons ETH_P_8021Q := rfl
        rw [kind, if_pos inLoop] at ends
        rw [List.takeWhile_cons_of_pos (by rw [kind]; rfl), List.map_cons]
        change result = pushAll _ (hnatAddVlanLayer tag.tci entry)
        cases pushed : hnatAddVlanLayer tag.tci entry with
        | none =>
          rw [pushed] at ends
          rw [pushAll_none]
          exact (Option.some.inj ends).symm
        | some added =>
          rw [pushed] at ends
          have same := ih ends
          rwa [next] at same
      | ETH_P_8021AD =>
        rw [kind, if_neg (by decide)] at ends
        rw [List.takeWhile_cons_of_neg (by rw [kind]; decide)]
        exact (Option.some.inj ends).symm

def txTags (rounds : Nat) (entry : FoeEntry) : Option (Option FoeEntry) :=
  match addAccelerated frame.metadata entry with
  | none => some none
  | some entry => tagLoop frame.vhdr rounds (frame.protocolAt 0) 0 entry

theorem txTags_eq (skb : TxSkb) (entry : FoeEntry) {rounds : Nat} (enough : 3 ≤ rounds) :
    txTags frame rounds entry = some (txVlans (TxSkb.carrying frame skb) entry) := by
  rw [txVlans_eq]
  unfold txTags TxSkb.carrying
  dsimp only
  cases addAccelerated frame.metadata entry with
  | none => rw [pushAll_none]
  | some tagged =>
    obtain ⟨result, ends⟩ := tagLoop_ends frame.vhdr (frame.protocolAt 0) 0 tagged 3 (by omega)
    obtain ⟨more, rfl⟩ := Nat.exists_eq_add_of_le enough
    have frames := tagLoop_frame frame (ends more)
    rw [List.drop_zero] at frames
    rw [← frames]
    exact ends more

theorem countedTags_eq_iff (tags : List VlanTag) :
    countedTags tags = tags.map VlanTag.tci ↔ ∀ tag ∈ tags, tag.proto = .ETH_P_8021Q := by
  induction tags with
  | nil => exact iff_of_true rfl (by simp)
  | cons tag tags ih =>
    rw [List.forall_mem_cons, ← ih, countedTags]
    by_cases kind : tag.proto = .ETH_P_8021Q
    · rw [List.takeWhile_cons_of_pos (by rw [kind]; rfl), List.map_cons, List.map_cons,
        List.cons_inj_right]
      exact (and_iff_right kind).symm
    · rw [List.takeWhile_cons_of_neg (by simpa using kind)]
      exact iff_of_false (by simp) fun both => kind both.1

theorem carrying_vlans_iff (skb : TxSkb) :
    TxSkb.vlans (TxSkb.carrying frame skb) = frame.vlans ↔
      ∀ tag ∈ frame.stacked, tag.proto = .ETH_P_8021Q := by
  unfold TxSkb.vlans TxSkb.carrying Frame.vlans
  rw [List.append_cancel_left_eq, countedTags_eq_iff]

end

/-! ## The hook -/

section

variable (hz : Jiffies) (tx : TxConfig) (plat : Platform) (call : TxCall) (frame : Frame)
  (s : FlowList.State)

def TxCall.carrying : TxCall := { call with skb := TxSkb.carrying frame call.skb }

theorem hookTx_mcast :
    (mtkSwNatHookTx hz tx plat call s).mcast = s.mcast ∨
      ∃ data, (mtkSwNatHookTx hz tx plat call s).mcast = commitData tx plat call data s.mcast := by
  unfold mtkSwNatHookTx
  split
  · exact Or.inl rfl
  · dsimp only
    split
    · exact Or.inl rfl
    next flow _ =>
      split
      · exact Or.inl rfl
      · exact Or.inr ⟨flow.data, rfl⟩

theorem commitData_alone (data : FoeEntry) (m : McastEvents.State)
    (alone : (m.mcastHookToggle && isMulticastEtherAddr call.skb.hDest) = false) :
    commitData tx plat call data m = m ∨
      ∃ bound, txEntry tx m.mcastHookToggle call.gmacNo call.skb data = some bound ∧
        (commitData tx plat call data m).hw.foeTable call.ppe call.hash =
          hnatFoeEntryCommit call.env.foeTimestamp bound BIND := by
  unfold commitData
  cases made : txEntry tx m.mcastHookToggle call.gmacNo call.skb data with
  | none => exact Or.inl rfl
  | some bound =>
    dsimp only
    unfold McastEvents.commitPacket McastEvents.commitBound
    rw [alone]
    split
    · exact Or.inl rfl
    · simp only [Bool.false_eq_true, if_false, ne_eq, not_true_eq_false]
      split
      · exact Or.inl rfl
      · exact Or.inr ⟨bound, rfl, if_pos ⟨rfl, rfl⟩⟩

theorem hookTx_layered (plain : portTagged tx call.gmacNo call.skb.desc = false)
    (alone : (s.mcast.mcastHookToggle && isMulticastEtherAddr call.skb.hDest) = false) :
    (mtkSwNatHookTx hz tx plat call s).mcast = s.mcast ∨
      Layered (TxSkb.vlans call.skb)
        ((mtkSwNatHookTx hz tx plat call s).foe call.ppe call.hash) := by
  obtain untouched | ⟨data, committed⟩ := hookTx_mcast hz tx plat call s
  · exact Or.inl untouched
  · unfold FlowList.State.foe
    rw [committed]
    obtain unbound | ⟨bound, made, written⟩ := commitData_alone tx plat call data s.mcast alone
    · exact Or.inl unbound
    · rw [written]
      exact Or.inr ((txEntry_layered plain made).keeps (keeps_commit _ _ _))

theorem hookTx_many (many : 2 < (TxSkb.vlans call.skb).length) :
    (mtkSwNatHookTx hz tx plat call s).mcast = s.mcast := by
  obtain untouched | ⟨data, committed⟩ := hookTx_mcast hz tx plat call s
  · exact untouched
  · rw [committed, commitData, txEntry_many data many]

/-- A flow is bound with the tags of its frame, outermost first, and never with more than two. -/
theorem mtkSwNatHookTx_vlans (tagged : ∀ tag ∈ frame.stacked, tag.proto = .ETH_P_8021Q) :
    let after := mtkSwNatHookTx hz tx plat (TxCall.carrying call frame) s
    (∀ entry rounds, 3 ≤ rounds →
        txTags frame rounds entry = some (txVlans (TxSkb.carrying frame call.skb) entry)) ∧
      (2 < frame.vlans.length → after.mcast = s.mcast) ∧
      (portTagged tx call.gmacNo call.skb.desc = false →
        (s.mcast.mcastHookToggle && isMulticastEtherAddr call.skb.hDest) = false →
        after.foe call.ppe call.hash ≠ s.foe call.ppe call.hash →
          Layered frame.vlans (after.foe call.ppe call.hash)) := by
  have vlans : TxSkb.vlans (TxCall.carrying call frame).skb = frame.vlans :=
    (carrying_vlans_iff frame call.skb).2 tagged
  refine ⟨fun entry rounds enough => txTags_eq frame call.skb entry enough, ?_, ?_⟩
  · intro many
    exact hookTx_many hz tx plat (TxCall.carrying call frame) s (vlans ▸ many)
  · intro plain alone bound
    have layered := hookTx_layered hz tx plat (TxCall.carrying call frame) s plain alone
    rw [vlans] at layered
    refine layered.resolve_left fun untouched => bound ?_
    exact congrArg (fun mcast => mcast.hw.foeTable call.ppe call.hash) untouched

theorem hookTx_layered_iff (plain : portTagged tx call.gmacNo call.skb.desc = false)
    (alone : (s.mcast.mcastHookToggle && isMulticastEtherAddr call.skb.hDest) = false)
    (bound : (mtkSwNatHookTx hz tx plat (TxCall.carrying call frame) s).mcast ≠ s.mcast) :
    Layered frame.vlans
        ((mtkSwNatHookTx hz tx plat (TxCall.carrying call frame) s).foe call.ppe call.hash) ↔
      ∀ tag ∈ frame.stacked, tag.proto = .ETH_P_8021Q := by
  have layered :=
    (hookTx_layered hz tx plat (TxCall.carrying call frame) s plain alone).resolve_left bound
  rw [← carrying_vlans_iff frame call.skb]
  constructor
  · intro own
    exact layered.unique own
  · intro same
    exact same ▸ layered

end

/-! ## A station behind two tags -/

def routerTx (gmacNum : Nat) : TxConfig where
  cfg :=
    { l2brToggle := false, mapeToggle := false, tnlToggle := false, l4sToggle := false
      qosToggle := 0, qosDlToggle := false, qosUlToggle := false, perFlowAccounting := false
      whnat := true, gmacNum := gmacNum, wan := ['e', 't', 'h', '1'], lan := ['e', 't', 'h', '0']
      lan2 := ['e', 't', 'h', '2'] }
  bindThreshold := 1
  dsaEnable := false

/-- An Ethernet interface and one of Wi-Fi, and an NPU driver without calls. -/
def wifiBoard : Env where
  devs := fun ifindex =>
    if ifindex = 1 then some (SlotOwnership.ethernet NR_GMAC2_PORT)
    else if ifindex = 5 then some ⟨true, false, none, true, false, false, 0⟩
    else none
  mtkDsa := false
  hnatMcOps := some ⟨none, none⟩
  foeTimestamp := 9

/-- A packet of the flow in slot 0, from the LAN to a station. -/
def toStation (gmacNo : Nat) (hDest : Mac) : TxCall where
  gmacNo := gmacNo
  skb :=
    { hashed := true, alg := false, infoFilled := true, magicTagValid := true
      spaceAvailableHead := true, macHeaderSet := true, reason := HIT_UNBIND_RATE_REACH
      desc := ⟨0, 0, FOE_MAGIC_GE_LAN, 0, 0, false, 0, false⟩
      wifi := ⟨1, 2, 0, 0, 0, 0, 0, 0, 0, 0⟩
      hDest := hDest, hSource := 0x0200000000a0, vlanTag := none, vlanHeaders := [], ifindex := 5 }
  env := wifiBoard

/-- The engine has learned a flow, and its entry has been prepared. -/
def prepared (mcast : McastEvents.State) : FlowList.State where
  mcast := { mcast with hw := mcast.hw.writeFoe 0 0 SlotOwnership.streamEntry }
  foeFlow := fun _ _ => [⟨SlotOwnership.streamEntry, 0, 0, 0⟩]
  jiffies := 0

def ipFrame (metadata : Option (BitVec 16 × BitVec 16)) (stacked : List VlanTag) : Frame where
  metadata := metadata
  stacked := stacked
  payload := htons ETH_P_IP
  untagged := by
    intro proto
    cases proto with
    | ETH_P_8021Q => decide
    | ETH_P_8021AD => decide

def doubleTagged : Frame := ipFrame (some (htons ETH_P_8021Q, 5)) [⟨.ETH_P_8021Q, 7⟩]

theorem mtkSwNatHookTx_vlans_doubleTagged :
    Layered [5, 7] ((mtkSwNatHookTx 100 (routerTx 3) SlotOwnership.board
      (TxCall.carrying (toStation NR_WDMA0_PORT 0x0200000000b0) doubleTagged)
      (prepared McastEvents.State.init)).foe 0 0) :=
  (mtkSwNatHookTx_vlans 100 (routerTx 3) SlotOwnership.board
    (toStation NR_WDMA0_PORT 0x0200000000b0) doubleTagged (prepared McastEvents.State.init)
    (by decide)).2.2 (by decide) (by decide) fun same => absurd (congrArg stateOf same) (by decide)

/-- The Ethernet interface and the station have joined the group of the stream. -/
def joined : McastEvents.State :=
  run (McastEvents.step SlotOwnership.board) McastEvents.State.init
    [.offload wifiBoard true,
      .mdb wifiBoard RTM_NEWMDB ⟨some (.ipv4 SlotOwnership.streamIp), 1⟩ true true,
      .mdb wifiBoard RTM_NEWMDB ⟨some (.ipv4 SlotOwnership.streamIp), 5⟩ true true]

def oneTag : Frame := ipFrame (some (htons ETH_P_8021Q, 5)) []

def joinedBound : FlowList.State :=
  mtkSwNatHookTx 100 (routerTx 3) SlotOwnership.board
    (TxCall.carrying (toStation NR_WDMA0_PORT 0x01005e010203) oneTag) (prepared joined)

def otherPortBound : FlowList.State :=
  mtkSwNatHookTx 100 (routerTx 1) SlotOwnership.board
    (TxCall.carrying (toStation NR_WHNAT_WDMA_PORT 0x0200000000b0) oneTag)
    (prepared McastEvents.State.init)

/-- The bind of a group on several ports takes the tags away, and a port that is none of
Wi-Fi has a tag of its own. -/
theorem oneTag_replaced :
    (stateOf (joinedBound.foe 0 0) = BIND ∧ ¬ Layered oneTag.vlans (joinedBound.foe 0 0)) ∧
      stateOf (otherPortBound.foe 0 0) = BIND ∧
        ¬ Layered oneTag.vlans (otherPortBound.foe 0 0) := by
  refine ⟨⟨?_, ?_⟩, ?_, ?_⟩
  · decide
  · decide
  · decide
  · decide

def serviceTag : Frame := ipFrame none [⟨.ETH_P_8021AD, 5⟩]

theorem hookTx_layered_iff_serviceTag :
    Layered serviceTag.vlans ((mtkSwNatHookTx 100 (routerTx 3) SlotOwnership.board
        (TxCall.carrying (toStation NR_WDMA0_PORT 0x0200000000b0) serviceTag)
        (prepared McastEvents.State.init)).foe 0 0) ↔
      ∀ tag ∈ serviceTag.stacked, tag.proto = .ETH_P_8021Q :=
  hookTx_layered_iff 100 (routerTx 3) SlotOwnership.board
    (toStation NR_WDMA0_PORT 0x0200000000b0) serviceTag (prepared McastEvents.State.init)
    (by decide) (by decide) fun same =>
      absurd (congrArg (fun mcast => stateOf (mcast.hw.foeTable 0 0)) same) (by decide)

end OpenwrtSource.Hnat.VlanLayers
