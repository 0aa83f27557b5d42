import OpenwrtSource.Hnat.FlowKeys

/-!
# A bind on a slot that changes

`skb_to_hnat_info` reads the slot when it fills the new entry and writes it when
it commits it.  In between the engine may age the flow of the slot and learn
another one, and only the state is looked at again.
-/

namespace OpenwrtSource.Hnat.SlotView

open Lib.BitField Hnat.Foe Hnat.McastTable Hnat.McastOffload Hnat.Translation Hnat.BindPacket
open Hnat.BindFill Hnat.BindEntry Hnat.BindEffects Hnat.BindMulticast Hnat.FillEffects
open Hnat.EngineWord Hnat.FlowKeys

def bindEntryFrom (cfg : HnatConfig) (plat : Platform) (seen : FoeEntry) (pass : Pass)
    (hwPath : HwPath) (hProto : BitVec 16) (filled : Filled) (s : State) : Outcome × State :=
  match finishEntry cfg s.mcast.mcastHookToggle seen pass.dev hwPath pass.skb hProto filled with
  | none => (.refused (-1), s)
  | some entry =>
    if pass.dev.isWhnat cfg then recordEntry pass entry s else commitEntry plat pass entry s

def bindPacketFrom (cfg : HnatConfig) (plat : Platform) (seen : FoeEntry) (pass : Pass)
    (s : State) : Outcome × State :=
  let skb := pass.skb
  if stateOf seen ≠ UNBIND then (.refused (-1), s)
  else
    match switchProto cfg seen skb with
    | none => (.refused (-1), s)
    | some hProto =>
      let hwPath := pppoeHwPath seen skb pass.hwPath
      match fillEntry cfg seen pass.dev hwPath skb hProto with
      | none => (.refused (-1), s)
      | some filled =>
        let entry := ppeFillL2Info hwPath filled.1
        if enginePending skb hwPath then prepareEntry pass entry s
        else bindEntryFrom cfg plat seen pass hwPath hProto (entry, filled.2) s

def skbToHnatInfoFrom (cfg : HnatConfig) (plat : Platform) (seen : FoeEntry) (pass : Pass)
    (s : State) : Outcome × State :=
  if !s.mcast.mcastHookToggle && isMulticastEtherAddr pass.hwPath.ethDest then (.refused (-1), s)
  else if hnatOffloadEngineDone cfg pass.skb pass.hwPath = 1 then
    bindEntryFrom cfg plat seen pass pass.hwPath 0 (hnatGetFilledUnbindEntry seen, false) s
  else if hnatOffloadEngineDone cfg pass.skb pass.hwPath = -1 then (.refused (-1), s)
  else bindPacketFrom cfg plat seen pass s

/-- Whether the switch copies the key of a slot of this type, for this packet. -/
def keyCopied (cfg : HnatConfig) (seen : FoeEntry) (skb : Skb) (hProto : BitVec 16) : Bool :=
  (preparedUdp cfg seen skb hProto).isSome || (hProto != ETH_P_IP && hProto != ETH_P_IPV6)

section

variable {cfg : HnatConfig} {seen : FoeEntry} {hwPath : HwPath} {skb : Skb}

theorem pktTypeOf_udp (flag : Bool) (entry : FoeEntry) :
    pktTypeOf (Bfib1.udp.setIf flag 1 entry) = pktTypeOf entry :=
  Field.get_setIf_of_apart _ _ _ _ _ (by decide)

theorem matchKey_udp (flag : Bool) (entry : FoeEntry) :
    matchKey (Bfib1.udp.setIf flag 1 entry) = matchKey entry := by
  have inKey : ∀ t, ∀ word ∈ flowWords t, word ≠ Bfib1.udp.word := by decide
  refine matchKey_eq_iff.mpr ⟨congrArg flowKind (pktTypeOf_udp flag entry), fun word member => ?_⟩
  rw [pktTypeOf_udp] at member
  unfold Field.setIf
  split
  · exact Field.set_other _ _ _ _ (inKey _ word member)
  · rfl

theorem fillIpv4_uncopied {filled : FoeEntry} (uncopied : preparedUdp cfg seen skb ETH_P_IP = none)
    (done : fillIpv4 cfg seen hwPath skb (newEntry seen) = some filled) :
    matchKey filled = matchKey (newEntry seen) := by
  unfold preparedUdp at uncopied
  simp only [if_true] at uncopied
  split at uncopied
  · cases uncopied
  · rename_i notHnat
    split at uncopied
    · cases uncopied
    · rename_i others
      rw [not_or] at others
      have notGrp : ¬ isIpv4Grp (pktTypeOf (newEntry seen)) = true := by
        rw [pktTypeOf_newEntry]
        simp [isIpv4Grp, notHnat, others.1]
      unfold fillIpv4 at done
      rw [if_neg notGrp, pktTypeOf_newEntry, if_neg others.2] at done
      split at done
      · cases done
      · split at done
        · rename_i sixRd
          have tcpUdp : isTcpUdp skb.iph.protocol = true := by
            by_contra notTcpUdp
            simp [sixRd, notTcpUdp] at uncopied
          unfold fillIpv4Protocol fillIpv4Ports at done
          rw [if_pos tcpUdp] at done
          cases read : skb.ports with
          | none => simp [read] at done
          | some ports =>
            rw [read, pktTypeOf_udp, pktTypeOf_newEntry, sixRd] at done
            dsimp only at done
            rw [if_neg (by decide), if_neg (by decide)] at done
            obtain rfl := Option.some.inj done
            exact matchKey_udp _ _
        · cases done

theorem fillIpv6_uncopied {dev : EgressDev} {filled : Filled}
    (uncopied : preparedUdp cfg seen skb ETH_P_IPV6 = none)
    (done : fillIpv6 cfg seen dev hwPath skb (newEntry seen) = some filled) :
    matchKey filled.1 = matchKey (newEntry seen) := by
  have notIp : ¬ ETH_P_IPV6 = ETH_P_IP := by decide
  unfold preparedUdp at uncopied
  simp only [notIp, if_true, if_false] at uncopied
  split at uncopied
  · cases uncopied
  · rename_i notThree
    split at uncopied
    · cases uncopied
    · rename_i notRoute
      unfold fillIpv6 at done
      rw [pktTypeOf_newEntry, if_neg notRoute] at done
      dsimp only at done
      rw [pktTypeOf_newEntry, if_neg notThree] at done
      split at done
      · obtain ⟨entry, filling, rfl⟩ := Option.map_eq_some_iff.mp done
        have type : pktTypeOf seen ≠ IPV6_5T_ROUTE := by
          rintro route
          rw [route] at notRoute
          exact notRoute rfl
        unfold fillIpv6TcpUdp at filling
        dsimp only at filling
        rw [pktTypeOf_udp, pktTypeOf_newEntry, if_neg fun translates => type translates.1]
          at filling
        obtain rfl := Option.some.inj filling
        exact matchKey_udp _ _
      · split at done
        · rename_i ipip
          have notEncap : ¬ isEncap cfg (pktTypeOf seen) = true := by
            intro encap
            simp [ipip, encap] at uncopied
          unfold isEncap at notEncap
          unfold fillIpv6Ipip at done
          rw [pktTypeOf_newEntry] at done
          split at done
          · cases done
          · rw [if_neg (by simpa using fun tunnel => notEncap (by simp [tunnel])),
              if_neg (by simpa using fun mape hnapt => notEncap (by simp [mape, hnapt]))] at done
            obtain rfl := Option.some.inj done
            rfl
        · cases done

theorem fillL2Bridge_key (hProto : BitVec 16) (bridge : pktTypeOf seen = L2_BRIDGE) :
    matchKey (fillL2Bridge cfg seen hwPath skb hProto (newEntry seen)) = matchKey seen := by
  have type : pktTypeOf (fillL2Bridge cfg seen hwPath skb hProto (newEntry seen)) =
      pktTypeOf seen := by
    rw [← pktTypeOf_newEntry seen]
    unfold fillL2Bridge pktTypeOf
    simp (disch := decide) only [Field.get_set_of_apart, Field.get_setIf_of_apart, get_fillVlan]
  have highs : ∀ field ∈ [L2Bridge.dmacHi, L2Bridge.smacHi],
      field.get (fillL2Bridge cfg seen hwPath skb hProto (newEntry seen)) = field.get seen := by
    simp only [List.forall_mem_cons, List.not_mem_nil, false_imp_iff, implies_true, and_true]
    refine ⟨?_, ?_⟩ <;>
    · unfold fillL2Bridge
      simp (disch := decide) only [Field.get_set, Field.get_set_of_apart,
        Field.get_setIf_of_apart, get_fillVlan]
  have halves : ∀ field ∈ [L2Bridge.dmacLo, L2Bridge.smacLo, L2Bridge.etype, L2Bridge.hph,
      L2Bridge.vlan1, L2Bridge.vlan2],
      field.get (fillL2Bridge cfg seen hwPath skb hProto (newEntry seen)) = field.get seen := by
    simp only [List.forall_mem_cons, List.not_mem_nil, false_imp_iff, implies_true, and_true]
    refine ⟨?_, ?_, ?_, ?_, ?_, ?_⟩ <;>
    · unfold fillL2Bridge
      simp (disch := decide) only [Field.get_set, Field.get_set_of_apart,
        Field.get_setIf_of_apart, get_fillVlan]
  refine matchKey_eq_iff.mpr ⟨congrArg flowKind type, ?_⟩
  rw [type, bridge]
  simp only [List.forall_mem_cons, List.not_mem_nil, false_imp_iff, implies_true, and_true] at highs halves
  obtain ⟨dmacHi, smacHi⟩ := highs
  obtain ⟨dmacLo, smacLo, etype, hph, vlan1, vlan2⟩ := halves
  have inKey : flowWords L2_BRIDGE = [1, 2, 3, 4, 5] := rfl
  rw [inKey]
  simp only [List.forall_mem_cons, List.not_mem_nil, false_imp_iff, implies_true, and_true]
  exact ⟨word_of_get _ dmacHi,
    word_of_halves L2Bridge.smacLo L2Bridge.dmacLo ⟨rfl, rfl⟩ rfl smacLo dmacLo,
    word_of_get _ smacHi,
    word_of_halves L2Bridge.etype L2Bridge.hph ⟨rfl, rfl⟩ rfl etype hph,
    word_of_halves L2Bridge.vlan1 L2Bridge.vlan2 ⟨rfl, rfl⟩ rfl vlan1 vlan2⟩

/-- The entry that the key of the filled one is taken from: the slot, or an empty entry. -/
def keySource (cfg : HnatConfig) (seen : FoeEntry) (skb : Skb) (hProto : BitVec 16) : FoeEntry :=
  if keyCopied cfg seen skb hProto then seen else newEntry seen

theorem fillEntry_source {dev : EgressDev} {hProto : BitVec 16} {filled : Filled}
    (done : fillEntry cfg seen dev hwPath skb hProto = some filled) :
    matchKey filled.1 = matchKey (keySource cfg seen skb hProto) := by
  unfold keySource keyCopied
  cases prepared : preparedUdp cfg seen skb hProto with
  | some udp =>
    rw [Option.isSome_some, Bool.true_or, if_pos rfl]
    exact (fillEntry_key prepared done).1
  | none =>
    rw [Option.isSome_none, Bool.false_or]
    unfold fillEntry at done
    dsimp only at done
    by_cases ip : hProto = ETH_P_IP
    · subst ip
      rw [if_pos rfl] at done
      obtain ⟨entry, filling, rfl⟩ := Option.map_eq_some_iff.mp done
      rw [bne_self_eq_false, Bool.false_and, if_neg Bool.false_ne_true]
      exact fillIpv4_uncopied prepared filling
    · by_cases ipv6 : hProto = ETH_P_IPV6
      · subst ipv6
        rw [if_neg ip, if_pos rfl] at done
        rw [bne_self_eq_false, Bool.and_false, if_neg Bool.false_ne_true]
        exact fillIpv6_uncopied prepared done
      · rw [if_neg ip, if_neg ipv6] at done
        rw [bne_iff_ne.mpr ip, bne_iff_ne.mpr ipv6, Bool.and_true, if_pos rfl]
        split at done
        · rename_i bridge
          rw [pktTypeOf_newEntry] at bridge
          obtain rfl := Option.some.inj done
          exact fillL2Bridge_key hProto bridge
        · cases done

end

section

variable (cfg : HnatConfig) (plat : Platform) (seen : FoeEntry) (pass : Pass)

/-- The entry that goes to the label `hnat_entry_bind`. -/
def filledEntry : Option FoeEntry :=
  if hnatOffloadEngineDone cfg pass.skb pass.hwPath = 1 then
    some (hnatGetFilledUnbindEntry seen)
  else
    (switchProto cfg seen pass.skb).bind fun hProto =>
      (fillEntry cfg seen pass.dev (pppoeHwPath seen pass.skb pass.hwPath) pass.skb hProto).map
        Prod.fst

def sourceOf : FoeEntry :=
  if hnatOffloadEngineDone cfg pass.skb pass.hwPath = 1 then seen
  else ((switchProto cfg seen pass.skb).map (keySource cfg seen pass.skb)).getD seen

/-- The entry is emptied: its group has no slot in the multicast table. -/
def emptied (m : McastEvents.State) : Bool :=
  (filledEntry cfg seen pass).any fun entry => (mcastIds plat pass (foeGroupIp entry) m).isNone

def takenKey (m : McastEvents.State) : MatchKey :=
  if emptied cfg plat seen pass m then matchKey FoeEntry.zero else matchKey (sourceOf cfg seen pass)

end

section

variable {cfg : HnatConfig} {plat : Platform} {seen : FoeEntry} {pass : Pass}

theorem matchKey_of_keeps {before after : FoeEntry} (keeps : KeepsFlow before after) :
    matchKey after = matchKey before := matchKey_of_flowKey (flowKey_of_keeps keeps)

theorem bound_bindEntryFrom {hwPath : HwPath} {hProto : BitVec 16} {filled : Filled} {s : State}
    {entry : FoeEntry}
    (bound : (bindEntryFrom cfg plat seen pass hwPath hProto filled s).1 = .bound entry) :
    matchKey entry =
      if (mcastIds plat pass (foeGroupIp filled.1) s.mcast).isNone then matchKey FoeEntry.zero
      else matchKey filled.1 := by
  unfold bindEntryFrom at bound
  split at bound
  · cases bound
  · rename_i finished finishing
    split at bound
    · unfold recordEntry at bound
      dsimp only at bound
      split at bound
      · cases bound
      · split at bound <;> cases bound
    · have committed : (commitEntry plat pass finished s).1.entry = some entry := by
        rw [bound]
        rfl
      obtain ⟨settled, settles, rfl⟩ := settles_commitEntry committed
      have keeps := keeps_finishEntry finishing
      rw [KeepsFlow.foeGroupIp keeps, foeGroupIp_withIds] at settles
      rw [matchKey_of_keeps (keeps_hnatFoeEntryCommit (Keeps.refl settled) pass.env.foeTimestamp
        BIND)]
      cases ids : mcastIds plat pass (foeGroupIp filled.1) s.mcast with
      | none =>
        rw [ids] at settles
        have empty : settled = FoeEntry.zero := settles
        rw [empty, Option.isNone_none, if_pos rfl]
      | some ids' =>
        rw [ids] at settles
        have kept : KeepsFlow (withIds ids' finished) settled := settles
        rw [Option.isNone_some, if_neg Bool.false_ne_true]
        exact (matchKey_of_keeps kept).trans
          (matchKey_of_flowKey ((flowKey_withIds _ _).trans (finishEntry_flowKey finishing)))

theorem bound_skbToHnatInfoFrom {s : State} {entry : FoeEntry}
    (bound : (skbToHnatInfoFrom cfg plat seen pass s).1 = .bound entry) :
    matchKey entry = takenKey cfg plat seen pass s.mcast := by
  unfold skbToHnatInfoFrom at bound
  unfold takenKey emptied filledEntry sourceOf
  split at bound
  · cases bound
  · split at bound
    · rename_i engineDone
      rw [bound_bindEntryFrom bound, if_pos engineDone, if_pos engineDone, Option.any_some,
        matchKey_of_keeps (keeps_hnatGetFilledUnbindEntry (Keeps.refl seen))]
    · rename_i notDone
      rw [if_neg notDone, if_neg notDone]
      split at bound
      · cases bound
      · unfold bindPacketFrom at bound
        dsimp only at bound
        split at bound
        · cases bound
        · cases switched : switchProto cfg seen pass.skb with
          | none => simp [switched] at bound
          | some hProto =>
            rw [switched] at bound
            dsimp only at bound
            cases filling : fillEntry cfg seen pass.dev (pppoeHwPath seen pass.skb pass.hwPath)
                pass.skb hProto with
            | none => simp [filling] at bound
            | some filled =>
              rw [filling] at bound
              dsimp only at bound
              split at bound
              · cases bound
              · have filledL2 := keeps_ppeFillL2Info (Keeps.refl filled.1)
                  (pppoeHwPath seen pass.skb pass.hwPath)
                rw [bound_bindEntryFrom bound, KeepsFlow.foeGroupIp filledL2,
                  matchKey_of_keeps filledL2, fillEntry_source filling]
                simp [filling]

end

end OpenwrtSource.Hnat.SlotView
