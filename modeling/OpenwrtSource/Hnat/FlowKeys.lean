import OpenwrtSource.Hnat.BindMulticast
import OpenwrtSource.Hnat.FillEffects
import OpenwrtSource.Hnat.EngineWord

/-!
# The flow of an entry

The key of an entry is in its first words, by packet type, and in its UDP flag.
The lookup of a stored entry compares the addresses and the flag; the bind takes
the key of the new entry from the unbound entry of the table.
-/

namespace OpenwrtSource.Hnat.FlowKeys

open Lib.BitField Hnat.Foe Hnat.McastOffload Hnat.Translation Hnat.BindPacket Hnat.BindFill
open Hnat.BindEntry Hnat.BindEffects Hnat.FillEffects Hnat.EngineWord

/-! ## The key -/

def isIpv4Match (pktType : FoeIpAct) : Bool :=
  isIpv4Grp pktType || pktType == IPV4_DSLITE || pktType == IPV4_MAP_T || pktType == IPV4_MAP_E

/-- The types that `hnat_flow_entry_match` has a case for. -/
def isMatched (pktType : FoeIpAct) : Bool := isIpv4Match pktType || isIpv6Grp pktType

def addrWords (pktType : FoeIpAct) : List (Fin 32) :=
  if isIpv4Match pktType then [1, 2]
  else if isIpv6Grp pktType then [1, 2, 3, 4, 5, 6, 7, 8]
  else []

/-- The words with the addresses and, for the types that have them, the ports. -/
def flowWords (pktType : FoeIpAct) : List (Fin 32) :=
  if pktType = L2_BRIDGE then [1, 2, 3, 4, 5]
  else if pktType = IPV4_HNAT ∨ pktType = IPV6_3T_ROUTE ∨ pktType = IPV6_HNAT then
    addrWords pktType
  else if isIpv4Match pktType then addrWords pktType ++ [3]
  else if isIpv6Grp pktType then addrWords pktType ++ [9]
  else []

def flowKind (pktType : FoeIpAct) : FoeIpAct :=
  if pktType = IPV6_HNAPT then IPV6_5T_ROUTE else pktType

structure FlowKey where
  kind : FoeIpAct
  udp : BitVec 1
  words : List (BitVec 32)
  deriving DecidableEq

def flowKey (entry : FoeEntry) : FlowKey where
  kind := flowKind (pktTypeOf entry)
  udp := Bfib1.udp.get entry
  words := (flowWords (pktTypeOf entry)).map entry

/-- The key without the flag, which a bind takes from the packet. -/
structure MatchKey where
  kind : FoeIpAct
  words : List (BitVec 32)
  deriving DecidableEq

def matchKey (entry : FoeEntry) : MatchKey where
  kind := flowKind (pktTypeOf entry)
  words := (flowWords (pktTypeOf entry)).map entry

section

variable {a b : FoeEntry}

theorem flowWords_of_kind : ∀ s t : FoeIpAct, flowKind s = flowKind t →
    flowWords s = flowWords t ∧ addrWords s = addrWords t ∧ isMatched s = isMatched t := by
  decide

theorem addrWords_subset : ∀ t : FoeIpAct, ∀ word ∈ addrWords t, word ∈ flowWords t := by
  decide

theorem matchKey_eq_iff : matchKey a = matchKey b ↔
    flowKind (pktTypeOf a) = flowKind (pktTypeOf b) ∧
      ∀ word ∈ flowWords (pktTypeOf a), a word = b word := by
  unfold matchKey
  rw [MatchKey.mk.injEq]
  refine and_congr_right fun kind => ?_
  rw [← (flowWords_of_kind _ _ kind).1]
  exact List.map_inj_left

theorem flowKey_eq_iff : flowKey a = flowKey b ↔
    flowKind (pktTypeOf a) = flowKind (pktTypeOf b) ∧ Bfib1.udp.get a = Bfib1.udp.get b ∧
      ∀ word ∈ flowWords (pktTypeOf a), a word = b word := by
  unfold flowKey
  rw [FlowKey.mk.injEq]
  refine and_congr_right fun kind => and_congr_right fun _ => ?_
  rw [← (flowWords_of_kind _ _ kind).1]
  exact List.map_inj_left

theorem flowKey_of_matchKey (same : matchKey a = matchKey b)
    (udp : Bfib1.udp.get a = Bfib1.udp.get b) : flowKey a = flowKey b := by
  obtain ⟨kind, words⟩ := matchKey_eq_iff.mp same
  exact flowKey_eq_iff.mpr ⟨kind, udp, words⟩

theorem matchKey_of_flowKey (same : flowKey a = flowKey b) : matchKey a = matchKey b := by
  obtain ⟨kind, -, words⟩ := flowKey_eq_iff.mp same
  exact matchKey_eq_iff.mpr ⟨kind, words⟩

theorem hnatFlowEntryMatch_iff : hnatFlowEntryMatch a b = true ↔
    isMatched (pktTypeOf a) = true ∧ Bfib1.udp.get a = Bfib1.udp.get b ∧
      ∀ word ∈ addrWords (pktTypeOf a), a word = b word := by
  unfold hnatFlowEntryMatch isMatched addrWords isIpv4Match
  dsimp only
  split
  · rename_i ipv4
    simp only [ipv4, Bool.true_or, Bool.and_eq_true, beq_iff_eq, true_and,
      List.forall_mem_cons, List.not_mem_nil, false_imp_iff, implies_true, and_true]
  · rename_i notIpv4
    split
    · rename_i ipv6
      simp only [ipv6, notIpv4, Bool.or_true, Bool.and_eq_true, List.all_eq_true, beq_iff_eq,
        true_and]
    · rename_i notIpv6
      simp [notIpv4, notIpv6]

theorem match_of_flowKey (same : flowKey a = flowKey b) (matched : isMatched (pktTypeOf a) = true) :
    hnatFlowEntryMatch a b = true := by
  obtain ⟨-, udp, words⟩ := flowKey_eq_iff.mp same
  exact hnatFlowEntryMatch_iff.mpr ⟨matched, udp, fun word inAddr =>
    words word (addrWords_subset _ word inAddr)⟩

end

/-! ## From the fields of a layout to words -/

section

variable {a b : FoeEntry}

theorem get_word (field : EntryField 32) (entry : FoeEntry) :
    field.get entry = entry field.word := by
  have atZero : field.shift = 0 := by
    have := field.fits
    omega
  unfold Field.get
  rw [atZero]
  simp

theorem append_halves (low high : EntryField 16) (place : low.shift = 0 ∧ high.shift = 16)
    (oneWord : high.word = low.word) (entry : FoeEntry) :
    high.get entry ++ low.get entry = entry low.word := by
  unfold Field.get
  rw [place.1, place.2, oneWord]
  apply BitVec.eq_of_getLsbD_eq
  intro i inWord
  simp only [BitVec.getLsbD_append, BitVec.getLsbD_extractLsb']
  grind

theorem word_of_get (field : EntryField 32) (same : field.get a = field.get b) :
    a field.word = b field.word := by
  rw [← get_word field a, ← get_word field b, same]

theorem word_of_halves (low high : EntryField 16) (place : low.shift = 0 ∧ high.shift = 16)
    (oneWord : high.word = low.word) (sameLow : low.get a = low.get b)
    (sameHigh : high.get a = high.get b) : a low.word = b low.word := by
  rw [← append_halves low high place oneWord a, ← append_halves low high place oneWord b, sameLow,
    sameHigh]

theorem words_ipv4 (sip : Ipv4Hnapt.sip.get a = Ipv4Hnapt.sip.get b)
    (dip : Ipv4Hnapt.dip.get a = Ipv4Hnapt.dip.get b)
    (sport : Ipv4Hnapt.sport.get a = Ipv4Hnapt.sport.get b)
    (dport : Ipv4Hnapt.dport.get a = Ipv4Hnapt.dport.get b) :
    ∀ word ∈ ([1, 2, 3] : List (Fin 32)), a word = b word := by
  simp only [List.forall_mem_cons, List.not_mem_nil, false_imp_iff, implies_true, and_true]
  exact ⟨word_of_get _ sip, word_of_get _ dip, word_of_halves Ipv4Hnapt.dport
    Ipv4Hnapt.sport ⟨rfl, rfl⟩ rfl dport sport⟩

theorem words_of_ipv6 (field : Ipv6Field) (same : field.get a = field.get b) :
    a field.ip0.word = b field.ip0.word ∧ a field.ip1.word = b field.ip1.word ∧
      a field.ip2.word = b field.ip2.word ∧ a field.ip3.word = b field.ip3.word := by
  obtain ⟨a0, a1, a2, a3⟩ := field.extract_get a
  obtain ⟨b0, b1, b2, b3⟩ := field.extract_get b
  rw [same] at a0 a1 a2 a3
  exact ⟨word_of_get _ (a0.symm.trans b0), word_of_get _ (a1.symm.trans b1),
    word_of_get _ (a2.symm.trans b2), word_of_get _ (a3.symm.trans b3)⟩

theorem words_ipv6 (sip : Ipv65tRoute.ipv6Sip.get a = Ipv65tRoute.ipv6Sip.get b)
    (dip : Ipv65tRoute.ipv6Dip.get a = Ipv65tRoute.ipv6Dip.get b)
    (sport : Ipv65tRoute.sport.get a = Ipv65tRoute.sport.get b)
    (dport : Ipv65tRoute.dport.get a = Ipv65tRoute.dport.get b) :
    ∀ word ∈ ([1, 2, 3, 4, 5, 6, 7, 8, 9] : List (Fin 32)), a word = b word := by
  obtain ⟨s0, s1, s2, s3⟩ := words_of_ipv6 _ sip
  obtain ⟨d0, d1, d2, d3⟩ := words_of_ipv6 _ dip
  simp only [List.forall_mem_cons, List.not_mem_nil, false_imp_iff, implies_true, and_true]
  exact ⟨s0, s1, s2, s3, d0, d1, d2, d3, word_of_halves Ipv65tRoute.dport Ipv65tRoute.sport
    ⟨rfl, rfl⟩ rfl dport sport⟩

end

/-! ## The key of the entry that a bind prepares -/

/-- Whether a tunnelled packet of the type is bound to a tunnel. -/
def isEncap (cfg : HnatConfig) (pktType : FoeIpAct) : Bool :=
  pktType == (if cfg.mapeToggle then IPV4_MAP_E else IPV4_DSLITE) ||
    (cfg.mapeToggle && pktType == IPV4_HNAPT)

/-- The UDP flag of the filled entry, where its key is the one of the entry in
the table. -/
def preparedUdp (cfg : HnatConfig) (foe : FoeEntry) (skb : Skb) (hProto : BitVec 16) :
    Option (BitVec 1) :=
  let pktType := pktTypeOf foe
  if hProto = ETH_P_IP then
    if pktType = IPV4_HNAT then some 0
    else if pktType = IPV4_HNAPT ∨ pktType = IPV4_DSLITE ∨ pktType = IPV4_MAP_E then
      some (boolBit (skb.iph.protocol == IPPROTO_UDP))
    else if pktType = IPV6_6RD ∧ !isTcpUdp skb.iph.protocol then
      some (boolBit (skb.innerIp6h.nexthdr == IPPROTO_UDP))
    else none
  else if hProto = ETH_P_IPV6 then
    if pktType = IPV6_3T_ROUTE then some 0
    else if isIpv6Route pktType then
      some (boolBit (isTcpUdp skb.ip6h.nexthdr && skb.ip6h.nexthdr == IPPROTO_UDP))
    else if skb.ip6h.nexthdr = IPPROTO_IPIP ∧ isEncap cfg pktType then some (Bfib1.udp.get foe)
    else none
  else none

section

variable {cfg : HnatConfig} {foe : FoeEntry} {hwPath : HwPath} {skb : Skb} {entry filled : FoeEntry}

structure Keyed4 (foe entry : FoeEntry) : Prop where
  type : pktTypeOf entry = pktTypeOf foe
  sip : Ipv4Hnapt.sip.get entry = Ipv4Hnapt.sip.get foe
  dip : Ipv4Hnapt.dip.get entry = Ipv4Hnapt.dip.get foe
  sport : Ipv4Hnapt.sport.get entry = Ipv4Hnapt.sport.get foe
  dport : Ipv4Hnapt.dport.get entry = Ipv4Hnapt.dport.get foe

theorem Keyed4.matchKey (keyed : Keyed4 foe entry) (ipv4 : isIpv4Match (pktTypeOf foe) = true) :
    matchKey entry = matchKey foe := by
  have inKey : ∀ t, isIpv4Match t = true → ∀ word ∈ flowWords t, word ∈ [(1 : Fin 32), 2, 3] := by
    decide
  refine matchKey_eq_iff.mpr ⟨congrArg flowKind keyed.type, fun word member => ?_⟩
  rw [keyed.type] at member
  exact words_ipv4 keyed.sip keyed.dip keyed.sport keyed.dport word (inKey _ ipv4 word member)

structure Keyed6 (foe entry : FoeEntry) : Prop where
  kind : flowKind (pktTypeOf entry) = flowKind (pktTypeOf foe)
  sip : Ipv65tRoute.ipv6Sip.get entry = Ipv65tRoute.ipv6Sip.get foe
  dip : Ipv65tRoute.ipv6Dip.get entry = Ipv65tRoute.ipv6Dip.get foe
  sport : Ipv65tRoute.sport.get entry = Ipv65tRoute.sport.get foe
  dport : Ipv65tRoute.dport.get entry = Ipv65tRoute.dport.get foe

theorem Keyed6.matchKey (keyed : Keyed6 foe entry) (ipv6 : isIpv6Route (pktTypeOf foe) = true) :
    matchKey entry = matchKey foe := by
  have inKey : ∀ t, isIpv6Route t = true → ∀ word ∈ flowWords t,
      word ∈ [(1 : Fin 32), 2, 3, 4, 5, 6, 7, 8, 9] := by
    decide
  refine matchKey_eq_iff.mpr ⟨keyed.kind, fun word member => ?_⟩
  rw [(flowWords_of_kind _ _ keyed.kind).1] at member
  exact words_ipv6 keyed.sip keyed.dip keyed.sport keyed.dport word (inKey _ ipv6 word member)

theorem udp_newEntry : Bfib1.udp.get (newEntry foe) = 0 := by
  unfold newEntry
  simp (disch := decide) only [Field.get_set_of_apart]
  decide

theorem setIf_one (condition : Bool) (clear : Bfib1.udp.get entry = 0) :
    Bfib1.udp.get (Bfib1.udp.setIf condition 1 entry) = boolBit condition := by
  rw [Field.get_setIf, clear]
  rfl

theorem Keyed4.trans {a b c : FoeEntry} (first : Keyed4 a b) (second : Keyed4 b c) :
    Keyed4 a c where
  type := second.type.trans first.type
  sip := second.sip.trans first.sip
  dip := second.dip.trans first.dip
  sport := second.sport.trans first.sport
  dport := second.dport.trans first.dport

/-! ### `case ETH_P_IP` -/

theorem keyed_fillIpv4Key (type : pktTypeOf entry = pktTypeOf foe) :
    Keyed4 foe (fillIpv4Key foe entry) where
  type := (fillIpv4Key_spec foe entry).1.trans type
  sip := by
    unfold fillIpv4Key
    simp (disch := decide) only [Field.get_set, Field.get_set_of_apart]
  dip := (fillIpv4Key_spec foe entry).2
  sport := by
    unfold fillIpv4Key
    simp (disch := decide) only [Field.get_set, Field.get_set_of_apart]
  dport := Field.get_set _ _ _

theorem udp_fillIpv4Key : Bfib1.udp.get (fillIpv4Key foe entry) = Bfib1.udp.get entry := by
  unfold fillIpv4Key
  simp (disch := decide) only [Field.get_set_of_apart]

theorem keyed_fillIpv4Grp :
    Keyed4 entry (fillIpv4Grp cfg hwPath skb entry) ∧
      Bfib1.udp.get (fillIpv4Grp cfg hwPath skb entry) = Bfib1.udp.get entry := by
  refine ⟨⟨(fillIpv4Grp_spec cfg hwPath skb entry).1, ?_, ?_, ?_, ?_⟩, ?_⟩ <;>
  · unfold fillIpv4Grp
    simp (disch := decide) only [Field.get_set_of_apart, Field.get_setIf_of_apart, get_fillVlan]

theorem keyed_fillIpv4Decap :
    Keyed4 entry (fillIpv4Decap cfg foe hwPath skb entry) ∧
      Bfib1.udp.get (fillIpv4Decap cfg foe hwPath skb entry) = Bfib1.udp.get entry := by
  refine ⟨⟨fillIpv4Decap_type cfg foe hwPath skb entry, ?_, ?_, ?_, ?_⟩, ?_⟩ <;>
  · unfold fillIpv4Decap
    simp (disch := decide) only [Field.get_set_of_apart, Field.get_setIf_of_apart,
      Ipv6Field.field_get_set]

theorem keyed_udp (flag : Bool) : Keyed4 entry (Bfib1.udp.setIf flag 1 entry) := by
  refine ⟨?_, ?_, ?_, ?_, ?_⟩ <;>
  · exact Field.get_setIf_of_apart _ _ _ _ _ (by decide)

theorem keyed_fillIpv4Ports (done : fillIpv4Ports skb entry = some filled) :
    Keyed4 entry filled ∧ Bfib1.udp.get filled = Bfib1.udp.get entry := by
  have type := (fillIpv4Ports_spec done).1
  unfold fillIpv4Ports at done
  cases read : skb.ports with
  | none => simp [read] at done
  | some ports =>
    rw [read] at done
    dsimp only at done
    split at done
    · obtain rfl := Option.some.inj done
      refine ⟨⟨type, ?_, ?_, ?_, ?_⟩, ?_⟩ <;>
      · simp (disch := decide) only [Field.get_set_of_apart]
    · split at done
      · obtain rfl := Option.some.inj done
        refine ⟨⟨type, ?_, ?_, ?_, ?_⟩, ?_⟩ <;>
        · simp (disch := decide) only [Field.get_set_of_apart]
      · obtain rfl := Option.some.inj done
        exact ⟨⟨rfl, rfl, rfl, rfl, rfl⟩, rfl⟩

theorem keyed_fillIpv4Protocol (other : pktTypeOf entry ≠ IPV6_6RD)
    (clear : Bfib1.udp.get entry = 0)
    (done : fillIpv4Protocol cfg foe hwPath skb entry = some filled) :
    Keyed4 entry filled ∧ Bfib1.udp.get filled = boolBit (skb.iph.protocol == IPPROTO_UDP) := by
  obtain ⟨keyed, udp⟩ := keyed_fillIpv4Ports (fillIpv4Protocol_tcpUdp other done)
  exact ⟨(keyed_udp _).trans keyed, udp.trans (setIf_one _ clear)⟩

theorem keyed_fillIpv66rd (type : pktTypeOf entry = pktTypeOf foe) (clear : Bfib1.udp.get entry = 0) :
    Keyed6 foe (fillIpv66rd cfg foe hwPath skb entry) ∧
      Bfib1.udp.get (fillIpv66rd cfg foe hwPath skb entry) =
        boolBit (skb.innerIp6h.nexthdr == IPPROTO_UDP) := by
  obtain ⟨typed, dip⟩ := @fillIpv66rd_spec cfg foe hwPath skb entry
  refine ⟨⟨congrArg flowKind (typed.trans type), ?_, dip, ?_, ?_⟩, ?_⟩
  · unfold fillIpv66rd
    simp (disch := decide) only [Ipv6Field.get_field_set, Ipv6Field.get_field_setIf,
      Ipv6Field.get_set_of_apart]
    exact Ipv6Field.get_set _ _ _ (by decide)
  · unfold fillIpv66rd
    simp (disch := decide) only [Field.get_set_of_apart, Field.get_setIf_of_apart]
    exact Field.get_set _ _ _
  · unfold fillIpv66rd
    simp (disch := decide) only [Field.get_set_of_apart, Field.get_setIf_of_apart]
    exact Field.get_set _ _ _
  · unfold fillIpv66rd
    simp (disch := decide) only [Field.get_set_of_apart]
    refine setIf_one _ ?_
    simp (disch := decide) only [Field.get_set_of_apart, Field.get_setIf_of_apart,
      Ipv6Field.field_get_set, clear]

theorem fillIpv4_key {udp : BitVec 1} (prepared : preparedUdp cfg foe skb ETH_P_IP = some udp)
    (done : fillIpv4 cfg foe hwPath skb (newEntry foe) = some filled) :
    matchKey filled = matchKey foe ∧ Bfib1.udp.get filled = udp := by
  have key : Keyed4 foe (fillIpv4Key foe (newEntry foe)) :=
    keyed_fillIpv4Key (pktTypeOf_newEntry foe)
  have clear : Bfib1.udp.get (fillIpv4Key foe (newEntry foe)) = 0 :=
    udp_fillIpv4Key.trans udp_newEntry
  unfold preparedUdp at prepared
  simp only [if_true] at prepared
  unfold fillIpv4 at done
  split at done
  · cases done
  · simp only [pktTypeOf_newEntry] at done
    split at done
    case isTrue grp =>
        obtain ⟨keyed, udp⟩ := @keyed_fillIpv4Grp cfg hwPath skb (fillIpv4Key foe (newEntry foe))
        have ipv4 : isIpv4Match (pktTypeOf foe) = true := by
          unfold isIpv4Match
          rw [grp]
          rfl
        split at done
        case isTrue hnat =>
            rw [if_pos hnat, Option.some.injEq] at prepared
            split at done
            · obtain rfl := Option.some.inj done
              exact ⟨(key.trans keyed).matchKey ipv4, udp.trans (clear.trans prepared)⟩
            · cases done
        case isFalse notHnat =>
            have hnapt : pktTypeOf foe = IPV4_HNAPT := by
              unfold isIpv4Grp at grp
              simpa [notHnat] using grp
            rw [if_neg notHnat, if_pos (.inl hnapt), Option.some.injEq] at prepared
            have other : pktTypeOf (fillIpv4Grp cfg hwPath skb (fillIpv4Key foe (newEntry foe))) ≠
                IPV6_6RD := by
              rw [(key.trans keyed).type, hnapt]
              decide
            obtain ⟨last, flag⟩ := keyed_fillIpv4Protocol other (udp.trans clear) done
            exact ⟨((key.trans keyed).trans last).matchKey ipv4, flag.trans prepared⟩
    case isFalse notGrp =>
        have notHnat : pktTypeOf foe ≠ IPV4_HNAT := by
          rintro hnat
          rw [hnat] at notGrp
          exact notGrp rfl
        have notHnapt : pktTypeOf foe ≠ IPV4_HNAPT := by
          rintro hnapt
          rw [hnapt] at notGrp
          exact notGrp rfl
        rw [if_neg notHnat] at prepared
        split at done
        case isTrue tunnel =>
            rw [if_pos (.inr tunnel), Option.some.injEq] at prepared
            have types : isIpv4Match (pktTypeOf foe) = true ∧ pktTypeOf foe ≠ IPV6_6RD := by
              obtain type | type := tunnel <;>
              · rw [type]
                decide
            obtain ⟨keyed, udp⟩ :=
              @keyed_fillIpv4Decap cfg foe hwPath skb (fillIpv4Key foe (newEntry foe))
            have other := types.2
            rw [← (key.trans keyed).type] at other
            obtain ⟨last, flag⟩ := keyed_fillIpv4Protocol other (udp.trans clear) done
            exact ⟨((key.trans keyed).trans last).matchKey types.1, flag.trans prepared⟩
        case isFalse notTunnel =>
            rw [if_neg (not_or.mpr ⟨notHnapt, notTunnel⟩)] at prepared
            split at done
            case isTrue sixRd =>
                split at prepared
                case isTrue tunnelled =>
                    obtain ⟨-, notTcpUdp⟩ := tunnelled
                    rw [Bool.not_eq_true'] at notTcpUdp
                    unfold fillIpv4Protocol at done
                    rw [notTcpUdp, if_neg Bool.false_ne_true] at done
                    split at done
                    · obtain rfl := Option.some.inj done
                      obtain ⟨keyed, flag⟩ := @keyed_fillIpv66rd cfg foe hwPath skb (newEntry foe)
                        (pktTypeOf_newEntry foe) udp_newEntry
                      refine ⟨keyed.matchKey ?_, flag.trans (Option.some.inj prepared)⟩
                      rw [sixRd]
                      decide
                    · cases done
                case isFalse => cases prepared
            case isFalse => cases done

/-! ### `case ETH_P_IPV6` -/

theorem keyed_fillIpv6Route (type : pktTypeOf entry = pktTypeOf foe) :
    Keyed6 foe (fillIpv6Route cfg foe hwPath skb entry) ∧
      Bfib1.udp.get (fillIpv6Route cfg foe hwPath skb entry) = Bfib1.udp.get entry := by
  obtain ⟨typed, sip, dip⟩ := @fillIpv6Route_spec cfg foe hwPath skb entry
  refine ⟨⟨congrArg flowKind (typed.trans type), sip, dip, ?_, ?_⟩, ?_⟩
  · unfold fillIpv6Route
    simp (disch := decide) only [Field.get_set, Field.get_set_of_apart]
  · unfold fillIpv6Route
    simp (disch := decide) only [Field.get_set, Field.get_set_of_apart]
  · unfold fillIpv6Route fillIpv66rdDecap
    simp (disch := decide) only [Field.get_set_of_apart, Ipv6Field.field_get_set]
    split <;>
    · simp (disch := decide) only [Field.get_set_of_apart, Field.get_setIf_of_apart, get_fillVlan]

theorem keyed_fillIpv6Hnapt {dev : EgressDev}
    (done : fillIpv6Hnapt cfg dev skb entry = some filled) :
    pktTypeOf filled = IPV6_HNAPT ∧
      (Ipv65tRoute.ipv6Sip.get filled = Ipv65tRoute.ipv6Sip.get entry ∧
        Ipv65tRoute.ipv6Dip.get filled = Ipv65tRoute.ipv6Dip.get entry) ∧
      (Ipv65tRoute.sport.get filled = Ipv65tRoute.sport.get entry ∧
        Ipv65tRoute.dport.get filled = Ipv65tRoute.dport.get entry) ∧
      Bfib1.udp.get filled = Bfib1.udp.get entry := by
  unfold fillIpv6Hnapt at done
  dsimp only at done
  split at done
  · cases done
  · obtain rfl := Option.some.inj done
    unfold pktTypeOf
    split <;>
    · refine ⟨?_, ⟨?_, ?_⟩, ⟨?_, ?_⟩, ?_⟩ <;>
      · simp (disch := decide) only [Field.get_set, Field.get_set_of_apart,
          Ipv6Field.field_get_set, Ipv6Field.get_field_set, Ipv6Field.get_set_of_apart]

theorem keyed_fillIpv6TcpUdp {dev : EgressDev} (keyed : Keyed6 foe entry)
    (clear : Bfib1.udp.get entry = 0) (done : fillIpv6TcpUdp cfg dev skb entry = some filled) :
    Keyed6 foe filled ∧ Bfib1.udp.get filled = boolBit (skb.ip6h.nexthdr == IPPROTO_UDP) := by
  have marked : Keyed6 foe (Bfib1.udp.setIf (skb.ip6h.nexthdr == IPPROTO_UDP) 1 entry) := by
    have type : pktTypeOf (Bfib1.udp.setIf (skb.ip6h.nexthdr == IPPROTO_UDP) 1 entry) =
        pktTypeOf entry := Field.get_setIf_of_apart _ _ _ _ _ (by decide)
    refine ⟨?_, ?_, ?_, ?_, ?_⟩
    · rw [type]
      exact keyed.kind
    · exact (Ipv6Field.get_field_setIf _ _ _ _ _ (by decide)).trans keyed.sip
    · exact (Ipv6Field.get_field_setIf _ _ _ _ _ (by decide)).trans keyed.dip
    · exact (Field.get_setIf_of_apart _ _ _ _ _ (by decide)).trans keyed.sport
    · exact (Field.get_setIf_of_apart _ _ _ _ _ (by decide)).trans keyed.dport
  have flag := setIf_one (skb.ip6h.nexthdr == IPPROTO_UDP) clear
  unfold fillIpv6TcpUdp at done
  dsimp only at done
  split at done
  · rename_i translates
    obtain ⟨typed, ⟨sip, dip⟩, ⟨sport, dport⟩, udp⟩ := keyed_fillIpv6Hnapt done
    have kind := marked.kind
    rw [translates.1] at kind
    refine ⟨⟨?_, sip.trans marked.sip, dip.trans marked.dip, sport.trans marked.sport,
      dport.trans marked.dport⟩, udp.trans flag⟩
    rw [typed]
    exact kind
  · obtain rfl := Option.some.inj done
    exact ⟨marked, flag⟩

theorem keyed_fillIpv4Encap (type : pktTypeOf entry = pktTypeOf foe) :
    Keyed4 foe (fillIpv4Encap cfg foe hwPath skb entry) ∧
      Bfib1.udp.get (fillIpv4Encap cfg foe hwPath skb entry) = Bfib1.udp.get foe := by
  refine ⟨⟨(@fillIpv4Encap_spec cfg foe hwPath skb entry).1.trans type, ?_, ?_, ?_, ?_⟩, ?_⟩ <;>
  · unfold fillIpv4Encap fillIpv4Key fillMapeRecord
    dsimp only
    split <;>
    · simp (disch := decide) only [Field.get_set, Field.get_set_of_apart,
        Field.get_setIf_of_apart, Ipv6Field.field_get_set]

theorem keyed_fillMapeHnapt (dev : EgressDev) (type : pktTypeOf entry = pktTypeOf foe) :
    Keyed4 foe (fillMapeHnapt cfg foe dev hwPath skb entry) ∧
      Bfib1.udp.get (fillMapeHnapt cfg foe dev hwPath skb entry) = Bfib1.udp.get foe := by
  have typed := (@fillMapeHnapt_spec cfg foe hwPath skb entry dev).1
  refine ⟨⟨typed.trans type, ?_, ?_, ?_, ?_⟩, ?_⟩ <;>
  · unfold fillMapeHnapt fillIpv4Key
    simp (disch := decide) only [Field.get_set, Field.get_set_of_apart, get_fillMapeQos]

theorem fillIpv6_key {dev : EgressDev} {filled : Filled} {udp : BitVec 1}
    (prepared : preparedUdp cfg foe skb ETH_P_IPV6 = some udp)
    (done : fillIpv6 cfg foe dev hwPath skb (newEntry foe) = some filled) :
    matchKey filled.1 = matchKey foe ∧ Bfib1.udp.get filled.1 = udp := by
  have notIp : ¬ ETH_P_IPV6 = ETH_P_IP := by decide
  unfold preparedUdp at prepared
  simp only [notIp, if_true, if_false] at prepared
  unfold fillIpv6 at done
  simp only [pktTypeOf_newEntry] at done
  cases route : isIpv6Route (pktTypeOf foe) with
  | true =>
    obtain ⟨keyed, udp⟩ := @keyed_fillIpv6Route cfg foe hwPath skb (newEntry foe)
      (pktTypeOf_newEntry foe)
    have type := (@fillIpv6Route_spec cfg foe hwPath skb (newEntry foe)).1
    have clear := udp.trans udp_newEntry
    rw [pktTypeOf_newEntry] at type
    simp only [route, if_true, type] at done
    split at done
    case isTrue threeTuple =>
        rw [if_pos threeTuple, Option.some.injEq] at prepared
        split at done
        · obtain rfl := Option.some.inj done
          exact ⟨keyed.matchKey route, clear.trans prepared⟩
        · cases done
    case isFalse notThree =>
        rw [if_neg notThree, if_pos route, Option.some.injEq] at prepared
        split at done
        case isTrue tcpUdp =>
            obtain ⟨entry, filling, rfl⟩ := Option.map_eq_some_iff.mp done
            obtain ⟨last, flag⟩ := keyed_fillIpv6TcpUdp keyed clear filling
            rw [tcpUdp, Bool.true_and] at prepared
            exact ⟨last.matchKey route, flag.trans prepared⟩
        case isFalse notTcpUdp =>
            rw [Bool.eq_false_iff.mpr notTcpUdp, Bool.false_and] at prepared
            split at done
            · rw [fillIpv6Ipip_route (by rw [type]; exact route) done]
              exact ⟨keyed.matchKey route, clear.trans prepared⟩
            · cases done
  | false =>
    have notThree : pktTypeOf foe ≠ IPV6_3T_ROUTE := by
      rintro type
      rw [type] at route
      cases route
    rw [if_neg notThree, if_neg (by simp [route])] at prepared
    split at prepared
    case isFalse => cases prepared
    case isTrue tunnelled =>
        obtain ⟨ipip, encap⟩ := tunnelled
        have notTcpUdp : isTcpUdp IPPROTO_IPIP = false := by decide
        simp only [route, Bool.false_eq_true, if_false, notThree, ipip, notTcpUdp, if_true,
          pktTypeOf_newEntry] at done
        unfold fillIpv6Ipip at done
        rw [pktTypeOf_newEntry] at done
        unfold isEncap at encap
        split at done
        · cases done
        · by_cases tunnel : pktTypeOf foe = (if cfg.mapeToggle then IPV4_MAP_E else IPV4_DSLITE)
          · rw [if_pos tunnel] at done
            obtain rfl := Option.some.inj done
            obtain ⟨keyed, udp⟩ := @keyed_fillIpv4Encap cfg foe hwPath skb (newEntry foe)
              (pktTypeOf_newEntry foe)
            refine ⟨keyed.matchKey ?_, udp.trans (Option.some.inj prepared)⟩
            rw [tunnel]
            split <;> decide
          · have hnapt : cfg.mapeToggle = true ∧ pktTypeOf foe = IPV4_HNAPT := by
              simpa only [beq_false_of_ne tunnel, Bool.false_or, Bool.and_eq_true, beq_iff_eq]
                using encap
            rw [if_neg tunnel, if_pos hnapt] at done
            obtain rfl := Option.some.inj done
            obtain ⟨keyed, udp⟩ := @keyed_fillMapeHnapt cfg foe hwPath skb (newEntry foe) dev
              (pktTypeOf_newEntry foe)
            refine ⟨keyed.matchKey ?_, udp.trans (Option.some.inj prepared)⟩
            rw [hnapt.2]
            decide

theorem fillEntry_key {dev : EgressDev} {hProto : BitVec 16} {filled : Filled} {udp : BitVec 1}
    (prepared : preparedUdp cfg foe skb hProto = some udp)
    (done : fillEntry cfg foe dev hwPath skb hProto = some filled) :
    matchKey filled.1 = matchKey foe ∧ Bfib1.udp.get filled.1 = udp := by
  unfold fillEntry at done
  dsimp only at done
  split at done
  case isTrue ip =>
      subst ip
      obtain ⟨entry, filling, rfl⟩ := Option.map_eq_some_iff.mp done
      exact fillIpv4_key prepared filling
  case isFalse notIp =>
      split at done
      case isTrue ipv6 =>
          subst ipv6
          exact fillIpv6_key prepared done
      case isFalse notIpv6 => simp [preparedUdp, notIp, notIpv6] at prepared

theorem fillEntry_flowKey {dev : EgressDev} {hProto : BitVec 16} {filled : Filled}
    (prepared : preparedUdp cfg foe skb hProto = some (Bfib1.udp.get foe))
    (done : fillEntry cfg foe dev hwPath skb hProto = some filled) :
    flowKey filled.1 = flowKey foe := by
  obtain ⟨key, udp⟩ := fillEntry_key prepared done
  exact flowKey_of_matchKey key udp

end

/-! ## The key up to the end of the entry -/

theorem flowKey_of_keeps {before after : FoeEntry} (keeps : KeepsFlow before after) :
    flowKey after = flowKey before := by
  have inBits : ∀ pktType, ∀ word ∈ flowWords pktType, flowBits pktType word = BitVec.allOnes 32 := by
    decide
  have type := keeps.pktType typed_flowBits
  refine flowKey_eq_iff.mpr ⟨congrArg flowKind type, ?_, fun word member => ?_⟩
  · exact KeepsBits.get keeps Bfib1.udp ((by decide : ∀ pktType,
      Bfib1.udp.Within (flowBits pktType)) _)
  · rw [type] at member
    have same := keeps word
    rwa [inBits _ word member, BitVec.and_allOnes, BitVec.and_allOnes] at same

theorem write_other (ids : EngineIds) {word other : Fin 32} (apart : other ≠ word)
    (entry : FoeEntry) : ids.write (engineBlockAt word) entry other = entry other := by
  have skipped : ∀ {n : Nat} (field : EntryField n) (value : Option (BitVec n)) (e : FoeEntry),
      field.word = word → setSome field value e other = e other := by
    intro n field value e place
    unfold setSome Field.setIf
    split
    · exact field.set_other _ _ _ (by rwa [place])
    · rfl
  unfold EngineIds.write
  rw [skipped _ _ _ rfl, skipped _ _ _ rfl, skipped _ _ _ rfl]

theorem flowKey_withIds (ids : EngineIds) (entry : FoeEntry) :
    flowKey (withIds ids entry) = flowKey entry := by
  have ends : ∀ pktType, ∀ word ∈ flowWords pktType, word ≠ 19 ∧ word ≠ 23 := by decide
  have untouched : ∀ word, word ≠ 19 ∧ word ≠ 23 → withIds ids entry word = entry word := by
    rintro word ⟨not19, not23⟩
    unfold withIds sharedEngine
    split
    · exact write_other ids not19 entry
    · exact write_other ids not23 entry
  refine flowKey_eq_iff.mpr ⟨congrArg flowKind (pktTypeOf_withIds ids entry), ?_, ?_⟩
  · unfold Field.get
    rw [untouched Bfib1.udp.word (by decide)]
  · intro word member
    rw [pktTypeOf_withIds] at member
    exact untouched word (ends _ word member)

/-- Whether the entry that the call prepares, if it prepares one, has the key of
the entry in the table. -/
def keyTaken (cfg : HnatConfig) (foe : FoeEntry) (pass : Pass) : Bool :=
  if hnatOffloadEngineDone cfg pass.skb pass.hwPath = 1 then isMatched (pktTypeOf foe)
  else
    match switchProto cfg foe pass.skb with
    | none => true
    | some hProto =>
      (fillEntry cfg foe pass.dev (pppoeHwPath foe pass.skb pass.hwPath) pass.skb hProto).isNone ||
        preparedUdp cfg foe pass.skb hProto == some (Bfib1.udp.get foe)

theorem isMatched_of_preparedUdp {cfg : HnatConfig} {foe : FoeEntry} {skb : Skb}
    {hProto : BitVec 16} {udp : BitVec 1} (prepared : preparedUdp cfg foe skb hProto = some udp) :
    isMatched (pktTypeOf foe) = true := by
  have encap : ∀ (mape : Bool) (t : FoeIpAct),
      (t == (if mape then IPV4_MAP_E else IPV4_DSLITE) || (mape && t == IPV4_HNAPT)) = true →
        isMatched t = true := by
    decide
  have route : ∀ t, isIpv6Route t = true → isMatched t = true := by decide
  unfold preparedUdp at prepared
  dsimp only at prepared
  split at prepared
  · split at prepared
    · rename_i type
      rw [type]
      rfl
    · split at prepared
      · rename_i types
        obtain type | type | type := types <;>
        · rw [type]
          rfl
      · split at prepared
        · rename_i sixRd
          rw [sixRd.1]
          rfl
        · cases prepared
  · split at prepared
    · split at prepared
      · rename_i type
        rw [type]
        rfl
      · split at prepared
        · exact route _ ‹_›
        · split at prepared
          · rename_i tunnelled
            exact encap _ _ tunnelled.2
          · cases prepared
    · cases prepared

theorem finishEntry_flowKey {cfg : HnatConfig} {mcastHookToggle : Bool} {foe : FoeEntry}
    {dev : EgressDev} {hwPath : HwPath} {skb : Skb} {hProto : BitVec 16} {filled : Filled}
    {entry : FoeEntry}
    (finished : finishEntry cfg mcastHookToggle foe dev hwPath skb hProto filled = some entry) :
    flowKey entry = flowKey filled.1 :=
  (flowKey_of_keeps (keeps_finishEntry finished)).trans (flowKey_withIds _ _)

/-- A call that leaves an entry for the Wi-Fi driver. -/
structure Recorded (cfg : HnatConfig) (pass : Pass) (s : State) (entry : FoeEntry) (s' : State) :
    Prop where
  whnat : pass.dev.isWhnat cfg = true
  unbound : stateOf (s.foe pass.skb.desc) = UNBIND
  listed : ∃ flows, recordFlow pass.kzalloc entry
      (s.foeFlow pass.skb.desc.ppe pass.skb.desc.entry) = some flows ∧
    s' = { s with
      foeFlow := fun ppe hash =>
        if ppe = pass.skb.desc.ppe ∧ hash = pass.skb.desc.entry then flows
        else s.foeFlow ppe hash }
  keyed : keyTaken cfg (s.foe pass.skb.desc) pass = true →
    flowKey entry = flowKey (s.foe pass.skb.desc) ∧ isMatched (pktTypeOf (s.foe pass.skb.desc)) = true

theorem recorded_bindEntry {cfg : HnatConfig} {plat : Platform} {pass : Pass} {hwPath : HwPath}
    {hProto : BitVec 16} {filled : Filled} {s s' : State} {entry : FoeEntry}
    (done : bindEntry cfg plat pass hwPath hProto filled s = (.recorded entry, s'))
    (keyed : keyTaken cfg (s.foe pass.skb.desc) pass = true →
      flowKey filled.1 = flowKey (s.foe pass.skb.desc) ∧
        isMatched (pktTypeOf (s.foe pass.skb.desc)) = true) : Recorded cfg pass s entry s' := by
  unfold bindEntry at done
  cases finished : finishEntry cfg s.mcast.mcastHookToggle (s.foe pass.skb.desc) pass.dev hwPath
      pass.skb hProto filled with
  | none => simp [finished] at done
  | some prepared =>
    rw [finished] at done
    dsimp only at done
    split at done
    case isTrue whnat =>
        unfold recordEntry at done
        dsimp only at done
        split at done
        · cases done
        · rename_i unbound
          rw [ne_eq, not_not] at unbound
          split at done
          · cases done
          · rename_i flows listed
            cases done
            exact ⟨whnat, unbound, ⟨flows, listed, rfl⟩, fun taken =>
              ⟨(finishEntry_flowKey finished).trans (keyed taken).1, (keyed taken).2⟩⟩
    case isFalse notWhnat =>
        unfold commitEntry at done
        dsimp only at done
        split at done
        · cases done
        · split at done <;> cases done

theorem recorded_skbToHnatInfo {cfg : HnatConfig} {plat : Platform} {pass : Pass} {s s' : State}
    {entry : FoeEntry} (done : skbToHnatInfo cfg plat pass s = (.recorded entry, s')) :
    Recorded cfg pass s entry s' := by
  unfold skbToHnatInfo at done
  split at done
  · cases done
  · split at done
    case isTrue engineDone =>
        refine recorded_bindEntry done fun taken => ⟨?_, ?_⟩
        · exact flowKey_of_keeps (keeps_hnatGetFilledUnbindEntry (Keeps.refl _))
        · unfold keyTaken at taken
          rwa [if_pos engineDone] at taken
    case isFalse notDone =>
        split at done
        · cases done
        · unfold bindPacket at done
          dsimp only at done
          split at done
          · cases done
          · cases proto : switchProto cfg (s.foe pass.skb.desc) pass.skb with
            | none => simp [proto] at done
            | some hProto =>
              rw [proto] at done
              dsimp only at done
              cases filling : fillEntry cfg (s.foe pass.skb.desc) pass.dev
                  (pppoeHwPath (s.foe pass.skb.desc) pass.skb pass.hwPath) pass.skb hProto with
              | none => simp [filling] at done
              | some filled =>
                rw [filling] at done
                dsimp only at done
                split at done
                · cases done
                · refine recorded_bindEntry done fun taken => ?_
                  unfold keyTaken at taken
                  rw [if_neg notDone, proto] at taken
                  simp only [filling, Option.isNone_some, Bool.false_or, beq_iff_eq] at taken
                  refine ⟨?_, isMatched_of_preparedUdp taken⟩
                  exact (flowKey_of_keeps (keeps_ppeFillL2Info (Keeps.refl _) _)).trans
                    (fillEntry_flowKey taken filling)

end OpenwrtSource.Hnat.FlowKeys
