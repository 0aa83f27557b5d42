import OpenwrtSource.Hnat.BindEntry

/-!
# What the second half of a bind leaves alone

Every step from `ppe_fill_L2_info` to the commit writes around the fields that
the packet type translates with, except where the ids of the engines go to a
word that is not theirs.
-/

namespace OpenwrtSource.Hnat.BindEffects

open Lib.BitField Hnat.Foe Hnat.Translation Hnat.BindPacket Hnat.BindFill Hnat.BindEntry

variable {before after : FoeEntry}

theorem keeps_fillL2Block_ipv4 (keeps : KeepsFlow before after) (hwPath : HwPath) :
    KeepsFlow before (fillL2Block Ipv4Hnapt.l2 hwPath after) := by
  unfold fillL2Block
  iterate 5 refine Keeps.set ?_ _ _ (by decide)
  exact keeps

theorem keeps_fillL2Block_ipv6 (keeps : KeepsFlow before after) (hwPath : HwPath) :
    KeepsFlow before (fillL2Block Ipv65tRoute.l2 hwPath after) := by
  unfold fillL2Block
  iterate 5 refine Keeps.set ?_ _ _ (by decide)
  exact keeps

theorem keeps_ppeFillL2Info (keeps : KeepsFlow before after) (hwPath : HwPath) :
    KeepsFlow before (ppeFillL2Info hwPath after) := by
  unfold ppeFillL2Info
  refine Keeps.ite _ (fun _ => ?_) fun _ => Keeps.ite _ (fun _ => ?_) fun _ =>
    Keeps.ite _ (fun _ => ?_) fun _ => keeps
  · unfold fillL2BridgeMacs
    iterate 4 refine Keeps.set ?_ _ _ (by decide)
    exact keeps
  · exact keeps_fillL2Block_ipv4 keeps hwPath
  · exact keeps_fillL2Block_ipv6 keeps hwPath

theorem keeps_fillBfib1 (keeps : KeepsFlow before after) (hwPath : HwPath) :
    KeepsFlow before (fillBfib1 hwPath after) := by
  unfold fillBfib1
  iterate 6 refine Keeps.set ?_ _ _ (by decide)
  exact keeps

theorem keeps_fillIblk2 (keeps : KeepsFlow before after) (types : FoeIpAct → Bool)
    (type : types (pktTypeOf before) = true) (iblk2 : Iblk2) (spTag : EntryField 16)
    (mcast : Option (BitVec 1))
    (spares : ∀ pktType, types pktType = true → iblk2.mcast.Spares (flowBits pktType) ∧
      iblk2.portAg.Spares (flowBits pktType) ∧ spTag.Spares (flowBits pktType)) :
    KeepsFlow before (fillIblk2 iblk2 spTag mcast after) := by
  have marked : KeepsFlow before (iblk2.mcast.setIf mcast.isSome (mcast.getD 0) after) :=
    Keeps.ite _ (fun _ => keeps.setIn type _ _ fun pktType inType => (spares pktType inType).1)
      fun _ => keeps
  have grouped : KeepsFlow before
      (iblk2.portAg.set 0xf (iblk2.mcast.setIf mcast.isSome (mcast.getD 0) after)) :=
    marked.setIn type _ _ fun pktType inType => (spares pktType inType).2.1
  unfold fillIblk2
  exact Keeps.ite _ (fun _ => grouped.setIn type _ _ fun pktType inType =>
    (spares pktType inType).2.2) fun _ => grouped

theorem keeps_ppeFillInfoBlk (keeps : KeepsFlow before after) (mcastHookToggle : Bool)
    (hwPath : HwPath) : KeepsFlow before (ppeFillInfoBlk mcastHookToggle hwPath after) := by
  have filled := keeps_fillBfib1 keeps hwPath
  have type := filled.pktType typed_flowBits
  unfold ppeFillInfoBlk
  refine Keeps.ite _ (fun bridged => ?_) fun _ => Keeps.ite _ (fun ipv4 => ?_) fun _ =>
    Keeps.ite _ (fun ipv6 => ?_) fun _ => filled
  · rw [type] at bridged
    exact keeps_fillIblk2 filled (· == L2_BRIDGE) (by simp [bridged]) _ _ _ (by decide)
  · rw [type] at ipv4
    exact keeps_fillIblk2 filled isIpv4Grp ipv4 _ _ _ (by decide)
  · rw [type] at ipv6
    exact keeps_fillIblk2 filled isIpv6Grp ipv6.1 _ _ _ (by decide)

variable {tagged : FoeEntry} {cfg : HnatConfig} {dev : EgressDev} {mape : Bool}

variable {portIndex : Nat} {forward : Forward} {foe : FoeEntry} {n : Nat} {kept : FoeEntry}

theorem keeps_fillStag8021q_ipv4 (keeps : KeepsFlow before after)
    (ipv4 : isIpv4Grp (pktTypeOf before) = true)
    (filled : fillStag8021q Ipv4Hnapt.l2 portIndex after = some tagged) :
    KeepsFlow before tagged := by
  unfold fillStag8021q at filled
  split at filled
  · exact absurd filled (by simp)
  · obtain rfl := Option.some.inj filled
    iterate 3 refine Keeps.set ?_ _ _ (by decide)
    exact Keeps.ite _ (fun _ => keeps.setIn ipv4 _ _ (by decide)) fun _ => keeps

theorem keeps_fillStag8021q_ipv6 (keeps : KeepsFlow before after)
    (filled : fillStag8021q Ipv65tRoute.l2 portIndex after = some tagged) :
    KeepsFlow before tagged := by
  unfold fillStag8021q at filled
  split at filled
  · exact absurd filled (by simp)
  · obtain rfl := Option.some.inj filled
    iterate 3 refine Keeps.set ?_ _ _ (by decide)
    exact keeps.setIf _ _ _ (by decide)

theorem keeps_fillStagMtk (keeps : KeepsFlow before after) (portIndex : Nat) :
    KeepsFlow before (fillStagMtk portIndex after) := by
  have layered : KeepsFlow before
      (Bfib1.vlanLayer.setIf (Bfib1.vlanLayer.get after == 0) 1 after) :=
    keeps.setIf _ _ _ (by decide)
  unfold fillStagMtk
  refine Keeps.set ?_ _ _ (by decide)
  refine Keeps.ite _ (fun _ => ?_) fun _ => Keeps.ite _ (fun _ => ?_) fun _ =>
    Keeps.ite _ (fun _ => ?_) fun _ => layered
  · exact layered.set _ _ (by decide)
  · exact layered.set _ _ (by decide)
  · exact layered.set _ _ (by decide)

theorem keeps_hnatDsaFillStag (keeps : KeepsFlow before after)
    (filled : hnatDsaFillStag cfg dev mape after = some tagged) : KeepsFlow before tagged := by
  unfold hnatDsaFillStag at filled
  split at filled
  · exact absurd filled (by simp)
  · split at filled
    · obtain rfl := Option.some.inj filled
      exact keeps
    · split at filled
      · exact absurd filled (by simp)
      · have cleared : KeepsFlow before (Bfib1.vpm.set 0 after) :=
          keeps.set _ _ (by decide)
        dsimp only at filled
        rw [cleared.pktType typed_flowBits] at filled
        split at filled
        · split at filled
          · exact keeps_fillStag8021q_ipv4 cleared ‹_› filled
          · exact keeps_fillStag8021q_ipv6 cleared filled
        · obtain rfl := Option.some.inj filled
          exact keeps_fillStagMtk cleared _

theorem keeps_forwardToGmac (keeps : KeepsFlow before after)
    (forwarded : forwardToGmac cfg dev mape after = some forward) :
    KeepsFlow before forward.entry := by
  unfold forwardToGmac at forwarded
  dsimp only at forwarded
  split at forwarded
  · exact absurd forwarded (by simp)
  · rename_i tagged tagging
    have keepsTagged : KeepsFlow before tagged := by
      split at tagging
      · exact keeps_hnatDsaFillStag keeps tagging
      · obtain rfl := Option.some.inj tagging
        exact keeps
    split at forwarded
    · obtain rfl := Option.some.inj forwarded
      exact keepsTagged.set _ _ (by decide)
    · obtain ⟨gmac, -, rfl⟩ := Option.map_eq_some_iff.mp forwarded
      exact keepsTagged

theorem keeps_forwardToExt (keeps : KeepsFlow before after) (cfg : HnatConfig)
    (dev : EgressDev) (foe : FoeEntry) (desc : HnatDesc) :
    KeepsFlow before (forwardToExt cfg dev foe desc after).entry := by
  have untagged : KeepsFlow before
      (Bfib1.vlanLayer.setIf (!cfg.whnat && cfg.gmac1Mode) 1
        (Bfib1.vpm.setIf (!cfg.whnat && cfg.gmac1Mode) 1 after)) :=
    (keeps.setIf _ _ _ (by decide)).setIf _ _ _ (by decide)
  unfold forwardToExt setActDp
  dsimp only
  split
  · refine Keeps.set ?_ _ _ (by decide)
    exact (untagged.setIf _ _ _ (by decide)).setIf _ _ _ (by decide)
  · refine Keeps.set ?_ _ _ (by decide)
    exact (untagged.setIf _ _ _ (by decide)).setIf _ _ _ (by decide)

theorem keeps_forwardEntry (keeps : KeepsFlow before after) {desc : HnatDesc}
    (forwarded : forwardEntry cfg dev foe desc mape after = some forward) :
    KeepsFlow before forward.entry := by
  unfold forwardEntry at forwarded
  split at forwarded
  · exact keeps_forwardToGmac keeps forwarded
  · split at forwarded
    · obtain rfl := Option.some.inj forwarded
      exact keeps_forwardToExt keeps cfg dev foe desc
    · exact absurd forwarded (by simp)

theorem keeps_fillQos (keeps : KeepsFlow before after) (cfg : HnatConfig) (dev : EgressDev)
    (desc : HnatDesc) (gmac : PsePort) (qid : BitVec 32) :
    KeepsFlow before (fillQos cfg dev desc gmac qid after) := by
  refine keeps.trans typed_flowBits ?_
  unfold fillQos
  refine Keeps.setOf ?_ (fun pktType => (iblk2Of pktType).fqos) _ (by decide)
  refine Keeps.setIfOf ?_ _ (fun pktType => (engineOf pktType).tportId) _
    (by decide)
  refine Keeps.setIfOf ?_ _ (fun pktType => (iblk2Of pktType).qid) _ (by decide)
  refine Keeps.setOf ?_ (fun pktType => (iblk2Of pktType).portMg) _ (by decide)
  exact (Keeps.refl after).setOf (fun pktType => (iblk2Of pktType).dp) _
    (by decide)

theorem keeps_fillL4s (keeps : KeepsFlow before after) : KeepsFlow before (fillL4s after) := by
  refine keeps.trans typed_flowBits ?_
  unfold fillL4s
  refine Keeps.setOf ?_ (fun pktType => (l4sIblk2 pktType).qid) _ (by decide)
  refine Keeps.setOf ?_ (fun pktType => (l4sIblk2 pktType).fqos) _ (by decide)
  refine Keeps.setOf ?_ (fun pktType => (l4sIblk2 pktType).dp) _ (by decide)
  refine Keeps.setOf ?_ (fun pktType => (engineOf pktType).tportId) _ (by decide)
  exact (Keeps.refl after).setOf (fun pktType => (engineOf pktType).topsEntry) _
    (by decide)

theorem keeps_hnatGetFilledUnbindEntry (keeps : KeepsFlow before after) :
    KeepsFlow before (hnatGetFilledUnbindEntry after) := by
  unfold hnatGetFilledUnbindEntry
  iterate 6 refine Keeps.set ?_ _ _ (by decide)
  exact keeps

theorem keeps_hnatFoeEntryCommit (keeps : KeepsFlow before after) (timestamp : BitVec 8)
    (state : FoeEntryState) : KeepsFlow before (hnatFoeEntryCommit timestamp after state) := by
  unfold hnatFoeEntryCommit
  iterate 2 refine Keeps.set ?_ _ _ (by decide)
  exact keeps

/-- The engine word of a step that tells only the IPv4 types from the others. -/
def sharedEngine (pktType : FoeIpAct) : EngineBlock :=
  if isIpv4Grp pktType then Ipv4Hnapt.engine else Ipv65tRoute.engine

def withIds (ids : EngineIds) (entry : FoeEntry) : FoeEntry :=
  ids.write (sharedEngine (pktTypeOf entry)) entry

theorem hnatFillOffloadEngineEntry_eq (cfg : HnatConfig) (desc : HnatDesc) (entry : FoeEntry) :
    hnatFillOffloadEngineEntry cfg desc entry = withIds (offloadEngineIds cfg desc) entry :=
  rfl

theorem setSome_both (keeps : KeepsBits kept before after) (field : EntryField n)
    (value : Option (BitVec n)) :
    KeepsBits kept (setSome field value before) (setSome field value after) := by
  unfold setSome Field.setIf
  split
  · exact keeps.set_both field _
  · exact keeps

theorem write_both (keeps : KeepsBits kept before after) (ids : EngineIds) (engine : EngineBlock) :
    KeepsBits kept (ids.write engine before) (ids.write engine after) :=
  setSome_both (setSome_both (setSome_both keeps _ _) _ _) _ _

theorem get_setSome_of_apart {m : Nat} (written : EntryField n) (read : EntryField m)
    (value : Option (BitVec n)) (entry : FoeEntry) (apart : written.Apart read) :
    read.get (setSome written value entry) = read.get entry :=
  written.get_setIf_of_apart _ read _ entry apart

@[simp] theorem pktTypeOf_withIds (ids : EngineIds) (entry : FoeEntry) :
    pktTypeOf (withIds ids entry) = pktTypeOf entry := by
  unfold withIds sharedEngine EngineIds.write pktTypeOf
  split
  · simp (disch := decide) only [get_setSome_of_apart]
  · simp (disch := decide) only [get_setSome_of_apart]

theorem keeps_withIds {bits : FoeIpAct → FoeEntry} (typed : Typed bits)
    (keeps : Keeps bits before after) (ids : EngineIds) :
    Keeps bits (withIds ids before) (withIds ids after) := by
  unfold Keeps
  rw [pktTypeOf_withIds]
  unfold withIds
  rw [keeps.pktType typed]
  exact write_both keeps ids _

theorem keeps_finishEntry {mcastHookToggle : Bool} {hwPath : HwPath} {skb : Skb}
    {hProto : BitVec 16} {filled : Filled} {entry : FoeEntry}
    (finished : finishEntry cfg mcastHookToggle foe dev hwPath skb hProto filled = some entry) :
    KeepsFlow (withIds (offloadEngineIds cfg skb.desc) filled.1) entry := by
  unfold finishEntry at finished
  dsimp only at finished
  split at finished
  · exact absurd finished (by simp)
  · rename_i forward forwarded
    obtain rfl := Option.some.inj finished
    have informed := keeps_ppeFillInfoBlk (Keeps.refl filled.1) mcastHookToggle hwPath
    have queued := keeps_fillQos (keeps_forwardEntry informed forwarded) cfg dev skb.desc
      forward.gmac (queueId cfg dev skb hProto forward.portId)
    have ported := keeps_withIds typed_flowBits queued (offloadEngineIds cfg skb.desc)
    exact Keeps.ite _ (fun _ => keeps_fillL4s ported) fun _ => ported

end OpenwrtSource.Hnat.BindEffects
