import OpenwrtSource.Hnat.BindEffects
import OpenwrtSource.Hnat.McastTable

/-!
# What the switch fills in

For each packet type and each layer 3 protocol of the packet: the rewrite that
the filled entry encodes, and the destination that its key names.
-/

namespace OpenwrtSource.Hnat.FillEffects

open Lib.BitField Hnat.Foe Hnat.McastTable Hnat.Translation Hnat.BindPacket Hnat.BindFill

theorem get_fillVlan {n : Nat} (vlan1 vlan2 : EntryField 16) (read : EntryField n)
    (vlanId : BitVec 16) (vlanTci : Option (BitVec 16)) (entry : FoeEntry)
    (apart : vlan1.Apart read ∧ vlan2.Apart read ∧ Bfib1.vlanLayer.Apart read) :
    read.get (fillVlan vlan1 vlan2 vlanId vlanTci entry) = read.get entry := by
  obtain ⟨first, second, layer⟩ := apart
  unfold fillVlan
  cases vlanTci with
  | none => exact vlan1.get_set_of_apart read _ _ first
  | some vlanTci =>
    dsimp only
    split
    · rw [vlan2.get_set_of_apart read _ _ second, Bfib1.vlanLayer.get_set_of_apart read _ _ layer,
        vlan1.get_set_of_apart read _ _ first]
    · rw [vlan1.get_set_of_apart read _ _ first, Bfib1.vlanLayer.get_set_of_apart read _ _ layer,
        vlan1.get_set_of_apart read _ _ first]

@[simp] theorem pktTypeOf_newEntry (foe : FoeEntry) : pktTypeOf (newEntry foe) = pktTypeOf foe := by
  unfold newEntry pktTypeOf
  simp (disch := decide) only [Field.get_set, Field.get_set_of_apart]

section

variable (cfg : HnatConfig) (foe : FoeEntry) (hwPath : HwPath) (skb : Skb) (entry : FoeEntry)

theorem fillIpv4Key_spec :
    pktTypeOf (fillIpv4Key foe entry) = pktTypeOf entry ∧
      Ipv4Hnapt.dip.get (fillIpv4Key foe entry) = Ipv4Hnapt.dip.get foe := by
  unfold fillIpv4Key pktTypeOf
  simp (disch := decide) only [Field.get_set, Field.get_set_of_apart, and_self]

theorem fillIpv4Grp_spec :
    pktTypeOf (fillIpv4Grp cfg hwPath skb entry) = pktTypeOf entry ∧
      Ipv4Hnapt.newSip.get (fillIpv4Grp cfg hwPath skb entry) = skb.iph.saddr ∧
      Ipv4Hnapt.newDip.get (fillIpv4Grp cfg hwPath skb entry) = skb.iph.daddr ∧
      Ipv4Hnapt.dip.get (fillIpv4Grp cfg hwPath skb entry) = Ipv4Hnapt.dip.get entry := by
  unfold fillIpv4Grp pktTypeOf
  simp (disch := decide) only [Field.get_set, Field.get_set_of_apart, Field.get_setIf_of_apart,
    get_fillVlan, and_self]

theorem fillIpv4Decap_type :
    pktTypeOf (fillIpv4Decap cfg foe hwPath skb entry) = pktTypeOf entry := by
  unfold fillIpv4Decap pktTypeOf Ipv6Field.set
  simp (disch := decide) only [Field.get_set_of_apart, Field.get_setIf_of_apart]

theorem fillIpv4Decap_ipv6Dip :
    Ipv65tRoute.ipv6Dip.get (fillIpv4Decap cfg foe hwPath skb entry) =
      Ipv65tRoute.ipv6Dip.get foe := by
  obtain ⟨-, sip1, sip2, sip3⟩ := Ipv4Dslite.tunnelSipv6.extract_get foe
  obtain ⟨dip0, -⟩ := Ipv4Dslite.tunnelDipv6.extract_get foe
  unfold Ipv6Field.get fillIpv4Decap Ipv6Field.set
  rw [sip1, sip2, sip3, dip0]
  unfold Ipv65tRoute.ipv6Dip Ipv4Dslite.tunnelSipv6 Ipv4Dslite.tunnelDipv6 ipv6At
  simp (disch := decide) only [Field.get_set, Field.get_set_of_apart, Field.get_setIf_of_apart]

theorem fillIpv4Decap_mape (mape : pktTypeOf entry = IPV4_MAP_E) :
    Ipv4Mape.newSip.get (fillIpv4Decap cfg foe hwPath skb entry) = skb.iph.saddr ∧
      Ipv4Mape.newDip.get (fillIpv4Decap cfg foe hwPath skb entry) = skb.iph.daddr := by
  have tagged : pktTypeOf (Ipv4Dslite.l2.spTag.set (htons ETH_P_IP) entry) = IPV4_MAP_E := by
    unfold pktTypeOf at mape ⊢
    simp (disch := decide) only [Field.get_set_of_apart, mape]
  unfold fillIpv4Decap Ipv6Field.set
  simp (disch := decide) only [tagged, beq_self_eq_true, Field.get_setIf, if_true,
    Field.get_set_of_apart, Field.get_setIf_of_apart, and_self]

end

/-- The translation of an entry that is filled from an IPv4 header. -/
def headerRewrite (pktType : FoeIpAct) (skb : Skb) : Rewrite 32 :=
  if pktType = IPV4_HNAPT ∨ pktType = IPV4_MAP_E then
    ⟨some skb.iph.saddr, some skb.iph.daddr, skb.ports.map Ports.src, skb.ports.map Ports.dst⟩
  else if pktType = IPV4_HNAT then ⟨some skb.iph.saddr, some skb.iph.daddr, none, none⟩
  else .unchanged

section

variable {cfg : HnatConfig} {foe : FoeEntry} {hwPath : HwPath} {skb : Skb} {entry filled : FoeEntry}

theorem fillIpv4Protocol_tcpUdp (other : pktTypeOf entry ≠ IPV6_6RD)
    (done : fillIpv4Protocol cfg foe hwPath skb entry = some filled) :
    fillIpv4Ports skb (Bfib1.udp.setIf (skb.iph.protocol == IPPROTO_UDP) 1 entry) =
      some filled := by
  unfold fillIpv4Protocol at done
  split at done
  · exact done
  · simp [other] at done

theorem fillIpv4Ports_spec (done : fillIpv4Ports skb entry = some filled) :
    pktTypeOf filled = pktTypeOf entry ∧ foeGroupIp filled = foeGroupIp entry ∧
      rewrite4 filled =
        if pktTypeOf entry = IPV4_HNAPT ∨ pktTypeOf entry = IPV4_MAP_E then
          { rewrite4 entry with
            sport := skb.ports.map Ports.src
            dport := skb.ports.map Ports.dst }
        else rewrite4 entry := by
  unfold fillIpv4Ports at done
  cases read : skb.ports with
  | none => simp [read] at done
  | some ports =>
    rw [read] at done
    dsimp only at done
    split at done
    · rename_i mape
      obtain rfl := Option.some.inj done
      have type : pktTypeOf (Ipv4Mape.newDport.set ports.dst
          (Ipv4Mape.newSport.set ports.src entry)) = IPV4_MAP_E := by
        rw [← mape]
        unfold pktTypeOf
        simp (disch := decide) only [Field.get_set_of_apart]
      refine ⟨type.trans mape.symm, ?_, ?_⟩
      · unfold foeGroupIp Ipv6Field.get
        rw [type, mape]
        simp (disch := decide) only [Field.get_set_of_apart]
      · unfold rewrite4
        rw [type, mape]
        simp (disch := decide) only [if_true, or_true, Field.get_set, Field.get_set_of_apart,
          Option.map_some]
        rfl
    · rename_i notMape
      split at done
      · rename_i hnapt
        obtain rfl := Option.some.inj done
        have type : pktTypeOf (Ipv4Hnapt.newDport.set ports.dst
            (Ipv4Hnapt.newSport.set ports.src entry)) = IPV4_HNAPT := by
          rw [← hnapt]
          unfold pktTypeOf
          simp (disch := decide) only [Field.get_set_of_apart]
        refine ⟨type.trans hnapt.symm, ?_, ?_⟩
        · unfold foeGroupIp
          rw [type, hnapt]
          simp (disch := decide) only [show isIpv4Grp IPV4_HNAPT = true by rfl, if_true,
            Field.get_set_of_apart]
        · unfold rewrite4
          rw [type, hnapt]
          simp (disch := decide) only [if_true, true_or, Field.get_set, Field.get_set_of_apart,
            Option.map_some]
      · rename_i notHnapt
        obtain rfl := Option.some.inj done
        exact ⟨rfl, rfl, by rw [if_neg (not_or.mpr ⟨notHnapt, notMape⟩)]⟩

theorem keepsRewrite_udp (flag : Bool) (entry : FoeEntry) :
    KeepsRewrite entry (Bfib1.udp.setIf flag 1 entry) :=
  (Keeps.refl entry).setIf _ _ _ (by decide)

theorem foeGroupIp_udp (flag : Bool) (entry : FoeEntry) :
    foeGroupIp (Bfib1.udp.setIf flag 1 entry) = foeGroupIp entry := by
  unfold foeGroupIp pktTypeOf Ipv6Field.get
  simp (disch := decide) only [Field.get_setIf_of_apart]

theorem fillIpv4Protocol_spec (other : pktTypeOf entry ≠ IPV6_6RD)
    (done : fillIpv4Protocol cfg foe hwPath skb entry = some filled) :
    pktTypeOf filled = pktTypeOf entry ∧ foeGroupIp filled = foeGroupIp entry ∧
      rewrite4 filled =
        if pktTypeOf entry = IPV4_HNAPT ∨ pktTypeOf entry = IPV4_MAP_E then
          { rewrite4 entry with
            sport := skb.ports.map Ports.src
            dport := skb.ports.map Ports.dst }
        else rewrite4 entry := by
  have keeps := keepsRewrite_udp (skb.iph.protocol == IPPROTO_UDP) entry
  have spec := fillIpv4Ports_spec (fillIpv4Protocol_tcpUdp other done)
  rw [keeps.pktType typed_rewriteBits, foeGroupIp_udp, keeps.rewrite4] at spec
  exact spec

theorem fillIpv4_grp (grp : isIpv4Grp (pktTypeOf foe) = true)
    (done : fillIpv4 cfg foe hwPath skb (newEntry foe) = some filled) :
    pktTypeOf filled = pktTypeOf foe ∧ foeGroupIp filled = foeGroupIp foe ∧
      rewrite4 filled = headerRewrite (pktTypeOf foe) skb := by
  obtain ⟨keyType, keyDip⟩ := fillIpv4Key_spec foe (newEntry foe)
  obtain ⟨type, newSip, newDip, dip⟩ :=
    fillIpv4Grp_spec cfg hwPath skb (fillIpv4Key foe (newEntry foe))
  rw [keyType, pktTypeOf_newEntry] at type
  rw [keyDip] at dip
  have ip : foeGroupIp (fillIpv4Grp cfg hwPath skb (fillIpv4Key foe (newEntry foe))) =
      foeGroupIp foe := by
    unfold foeGroupIp
    rw [type, dip]
    simp only [grp, if_true]
  unfold fillIpv4 at done
  split at done
  · cases done
  · simp only [pktTypeOf_newEntry, grp, if_true] at done
    by_cases hnat : pktTypeOf foe = IPV4_HNAT
    · simp only [hnat, if_true] at done
      split at done
      · obtain rfl := Option.some.inj done
        refine ⟨type, ip, ?_⟩
        unfold rewrite4 headerRewrite
        rw [type, hnat, newSip, newDip]
        rfl
      · cases done
    · have hnapt : pktTypeOf foe = IPV4_HNAPT := by
        unfold isIpv4Grp at grp
        simpa [hnat] using grp
      simp only [hnat, if_false] at done
      obtain ⟨typed, grouped, rewritten⟩ :=
        fillIpv4Protocol_spec (by rw [type, hnapt]; decide) done
      refine ⟨typed.trans type, grouped.trans ip, ?_⟩
      rw [rewritten, type, hnapt]
      unfold rewrite4 headerRewrite
      rw [type, hnapt, newSip, newDip]
      rfl

theorem fillIpv4_decap (tunnel : pktTypeOf foe = IPV4_DSLITE ∨ pktTypeOf foe = IPV4_MAP_E)
    (done : fillIpv4 cfg foe hwPath skb (newEntry foe) = some filled) :
    pktTypeOf filled = pktTypeOf foe ∧ foeGroupIp filled = foeGroupIp foe ∧
      rewrite4 filled = headerRewrite (pktTypeOf foe) skb := by
  have keyType := (fillIpv4Key_spec foe (newEntry foe)).1
  have type := fillIpv4Decap_type cfg foe hwPath skb (fillIpv4Key foe (newEntry foe))
  rw [pktTypeOf_newEntry] at keyType
  rw [keyType] at type
  have notGrp : isIpv4Grp (pktTypeOf foe) = false := by
    obtain dslite | mape := tunnel
    · rw [dslite]; decide
    · rw [mape]; decide
  have ip : foeGroupIp (fillIpv4Decap cfg foe hwPath skb (fillIpv4Key foe (newEntry foe))) =
      foeGroupIp foe := by
    unfold foeGroupIp
    rw [type, fillIpv4Decap_ipv6Dip]
    simp only [notGrp, Bool.false_eq_true, if_false]
  unfold fillIpv4 at done
  split at done
  · cases done
  · simp only [pktTypeOf_newEntry, notGrp, tunnel, if_true, Bool.false_eq_true, if_false] at done
    have other : pktTypeOf foe ≠ IPV6_6RD := by
      obtain dslite | mape := tunnel
      · rw [dslite]; decide
      · rw [mape]; decide
    obtain ⟨typed, grouped, rewritten⟩ := fillIpv4Protocol_spec (by rwa [type]) done
    refine ⟨typed.trans type, grouped.trans ip, ?_⟩
    rw [rewritten, type]
    obtain dslite | mape := tunnel
    · unfold rewrite4 headerRewrite
      rw [type, dslite]
      rfl
    · obtain ⟨newSip, newDip⟩ := fillIpv4Decap_mape cfg foe hwPath skb
        (fillIpv4Key foe (newEntry foe)) (keyType.trans mape)
      unfold rewrite4 headerRewrite
      rw [type, mape, newSip, newDip]
      rfl

theorem fillIpv66rd_spec :
    pktTypeOf (fillIpv66rd cfg foe hwPath skb entry) = pktTypeOf entry ∧
      Ipv66rd.ipv6Dip.get (fillIpv66rd cfg foe hwPath skb entry) = Ipv66rd.ipv6Dip.get foe := by
  refine ⟨?_, ?_⟩
  · unfold fillIpv66rd pktTypeOf Ipv6Field.set
    simp (disch := decide) only [Field.get_set_of_apart, Field.get_setIf_of_apart]
  · unfold fillIpv66rd
    simp (disch := decide) only [Ipv6Field.get_field_set, Ipv6Field.get_field_setIf,
      Ipv6Field.get_set]

theorem fillIpv4_6rd (route : isIpv6Route (pktTypeOf foe) = true)
    (tunnelled : skb.iph.protocol = IPPROTO_IPV6)
    (done : fillIpv4 cfg foe hwPath skb (newEntry foe) = some filled) :
    pktTypeOf foe = IPV6_6RD ∧ pktTypeOf filled = pktTypeOf foe ∧
      foeGroupIp filled = foeGroupIp foe := by
  unfold fillIpv4 at done
  split at done
  · cases done
  · by_cases sixRd : pktTypeOf foe = IPV6_6RD
    · have notTcpUdp : isTcpUdp IPPROTO_IPV6 = false := by decide
      have notGrp : isIpv4Grp IPV6_6RD = false := by decide
      simp only [pktTypeOf_newEntry, sixRd, notGrp, Bool.false_eq_true, if_false, if_true,
        fillIpv4Protocol, tunnelled, notTcpUdp, and_self,
        show ¬ (IPV6_6RD = IPV4_DSLITE ∨ IPV6_6RD = IPV4_MAP_E) by decide] at done
      obtain rfl := Option.some.inj done
      obtain ⟨type, dip⟩ := @fillIpv66rd_spec cfg foe hwPath skb (newEntry foe)
      rw [pktTypeOf_newEntry] at type
      refine ⟨sixRd, type, ?_⟩
      unfold foeGroupIp
      rw [type, sixRd]
      exact congrArg (fun ip => some (GroupIp.ipv6 ip)) dip
    · unfold isIpv6Route at route
      have types : pktTypeOf foe = IPV6_3T_ROUTE ∨ pktTypeOf foe = IPV6_5T_ROUTE := by
        simpa [sixRd] using route
      obtain route3t | route5t := types
      · simp [route3t, isIpv4Grp, IPV6_3T_ROUTE, IPV4_HNAPT, IPV4_HNAT, IPV4_DSLITE, IPV4_MAP_E,
          IPV6_6RD] at done
      · simp [route5t, isIpv4Grp, IPV6_5T_ROUTE, IPV4_HNAPT, IPV4_HNAT, IPV4_DSLITE, IPV4_MAP_E,
          IPV6_6RD] at done

theorem fillIpv6Route_spec :
    pktTypeOf (fillIpv6Route cfg foe hwPath skb entry) = pktTypeOf entry ∧
      Ipv65tRoute.ipv6Sip.get (fillIpv6Route cfg foe hwPath skb entry) =
        Ipv65tRoute.ipv6Sip.get foe ∧
      Ipv65tRoute.ipv6Dip.get (fillIpv6Route cfg foe hwPath skb entry) =
        Ipv65tRoute.ipv6Dip.get foe := by
  refine ⟨?_, ?_, ?_⟩
  · unfold fillIpv6Route Ipv6Field.set
    dsimp only
    split
    · unfold pktTypeOf fillIpv66rdDecap
      simp (disch := decide) only [Field.get_set_of_apart, Field.get_setIf_of_apart, get_fillVlan]
    · unfold pktTypeOf
      simp (disch := decide) only [Field.get_set_of_apart, Field.get_setIf_of_apart, get_fillVlan]
  · unfold fillIpv6Route
    simp (disch := decide) only [Ipv6Field.get_field_set, Ipv6Field.get_set_of_apart,
      Ipv6Field.get_set]
  · unfold fillIpv6Route
    simp (disch := decide) only [Ipv6Field.get_field_set, Ipv6Field.get_set]

/-- The translation of an IPv6 entry has the direction of the egress device. -/
def directedRewrite (cfg : HnatConfig) (dev : EgressDev) (skb : Skb) : Rewrite 128 :=
  if dev.isWan cfg || dev.isDsaWan then
    ⟨some skb.ip6h.saddr, none, skb.ports.map Ports.src, skb.ports.map Ports.dst⟩
  else ⟨none, some skb.ip6h.daddr, skb.ports.map Ports.src, skb.ports.map Ports.dst⟩

theorem fillIpv6Hnapt_spec {dev : EgressDev}
    (done : fillIpv6Hnapt cfg dev skb entry = some filled) :
    pktTypeOf filled = IPV6_HNAPT ∧ skb.ports.isSome = true ∧
      Ipv65tRoute.ipv6Dip.get filled = Ipv65tRoute.ipv6Dip.get entry ∧
      rewrite6 filled = directedRewrite cfg dev skb := by
  unfold fillIpv6Hnapt at done
  cases read : skb.ports with
  | none => simp [read] at done
  | some ports =>
    rw [read] at done
    dsimp only at done
    obtain rfl := Option.some.inj done
    have type : ∀ dir addr, pktTypeOf (Ipv6Hnapt.newDport.set ports.dst
        (Ipv6Hnapt.newSport.set ports.src (Ipv6Hnapt.newIpv6Ip.set addr
          (Ipv6Hnapt.egIpv6Dir.set dir (Bfib1.pktType.set IPV6_HNAPT entry))))) =
        IPV6_HNAPT := by
      intro dir addr
      unfold pktTypeOf Ipv6Field.set
      simp (disch := decide) only [Field.get_set, Field.get_set_of_apart]
    have egress : ∀ dir addr, Ipv6Hnapt.egIpv6Dir.get (Ipv6Hnapt.newDport.set ports.dst
        (Ipv6Hnapt.newSport.set ports.src (Ipv6Hnapt.newIpv6Ip.set addr
          (Ipv6Hnapt.egIpv6Dir.set dir (Bfib1.pktType.set IPV6_HNAPT entry))))) = dir := by
      intro dir addr
      unfold Ipv6Field.set
      simp (disch := decide) only [Field.get_set, Field.get_set_of_apart]
    unfold rewrite6 directedRewrite
    cases wan : (dev.isWan cfg || dev.isDsaWan) with
    | true =>
      simp only [if_true, type, egress, read, Option.map_some]
      refine ⟨trivial, rfl, ?_, ?_⟩
      · simp (disch := decide) only [Ipv6Field.get_field_set, Ipv6Field.get_set_of_apart]
      · simp (disch := decide) only [Field.get_set, Field.get_set_of_apart,
          Ipv6Field.get_field_set, Ipv6Field.get_set]
    | false =>
      simp only [if_true, type, egress, read, Option.map_some, Bool.false_eq_true, if_false,
        show ¬ IPV6_DNAT = IPV6_SNAT by decide]
      refine ⟨trivial, rfl, ?_, ?_⟩
      · simp (disch := decide) only [Ipv6Field.get_field_set, Ipv6Field.get_set_of_apart]
      · simp (disch := decide) only [Field.get_set, Field.get_set_of_apart,
          Ipv6Field.get_field_set, Ipv6Field.get_set]

def addrTranslated (foe : FoeEntry) (skb : Skb) : Bool :=
  pktTypeOf foe == IPV6_5T_ROUTE && isTcpUdp skb.ip6h.nexthdr && ipv6AddrChanged skb foe

theorem foeGroupIp_of_route {entry' : FoeEntry} (route : isIpv6Route (pktTypeOf entry') = true)
    (grp : isIpv6Route (pktTypeOf entry) = true ∨ pktTypeOf entry = IPV6_HNAPT)
    (dip : Ipv65tRoute.ipv6Dip.get entry = Ipv65tRoute.ipv6Dip.get entry') :
    foeGroupIp entry = foeGroupIp entry' := by
  have ofRoute : ∀ type, isIpv6Route type = true →
      isIpv4Grp type = false ∧ isIpv6Grp type = true := by decide
  have ofEntry : isIpv4Grp (pktTypeOf entry) = false ∧ isIpv6Grp (pktTypeOf entry) = true := by
    obtain grp | hnapt := grp
    · exact ofRoute _ grp
    · rw [hnapt]
      decide
  unfold foeGroupIp
  simp only [ofEntry, ofRoute _ route, dip, Bool.false_eq_true, if_true, if_false]

theorem fillIpv6TcpUdp_spec {dev : EgressDev} (route : isIpv6Route (pktTypeOf foe) = true)
    (type : pktTypeOf entry = pktTypeOf foe)
    (sip : Ipv65tRoute.ipv6Sip.get entry = Ipv65tRoute.ipv6Sip.get foe)
    (dip : Ipv65tRoute.ipv6Dip.get entry = Ipv65tRoute.ipv6Dip.get foe)
    (tcpUdp : isTcpUdp skb.ip6h.nexthdr = true)
    (done : fillIpv6TcpUdp cfg dev skb entry = some filled) :
    foeGroupIp filled = foeGroupIp foe ∧
      if addrTranslated foe skb then
        skb.ports.isSome = true ∧ pktTypeOf filled = IPV6_HNAPT ∧
          rewrite6 filled = directedRewrite cfg dev skb
      else pktTypeOf filled = pktTypeOf foe := by
  have marked : ∀ flag, pktTypeOf (Bfib1.udp.setIf flag 1 entry) = pktTypeOf foe := fun flag =>
    (Bfib1.udp.get_setIf_of_apart flag Bfib1.pktType _ _ (by decide)).trans type
  have markedDip : ∀ flag, Ipv65tRoute.ipv6Dip.get (Bfib1.udp.setIf flag 1 entry) =
      Ipv65tRoute.ipv6Dip.get foe := fun flag =>
    (Ipv65tRoute.ipv6Dip.get_field_setIf flag _ _ _ (by decide)).trans dip
  have changed : ∀ flag, ipv6AddrChanged skb (Bfib1.udp.setIf flag 1 entry) =
      ipv6AddrChanged skb foe := by
    intro flag
    unfold ipv6AddrChanged
    rw [Ipv65tRoute.ipv6Sip.get_field_setIf flag _ _ _ (by decide), sip, markedDip]
  unfold fillIpv6TcpUdp at done
  dsimp only at done
  rw [marked, changed] at done
  unfold addrTranslated
  split at done
  · rename_i translates
    obtain ⟨typed, ports, dipKept, rewritten⟩ := fillIpv6Hnapt_spec done
    refine ⟨foeGroupIp_of_route route (Or.inr typed) (dipKept.trans (markedDip _)), ?_⟩
    simp [translates, tcpUdp, typed, ports, rewritten]
  · rename_i kept
    obtain rfl := Option.some.inj done
    refine ⟨foeGroupIp_of_route route (Or.inl (by rw [marked]; exact route)) (markedDip _), ?_⟩
    rw [if_neg, marked]
    intro translates
    simp only [Bool.and_eq_true, beq_iff_eq] at translates
    exact kept ⟨translates.1.1, translates.2⟩

theorem fillIpv6Ipip_route {dev : EgressDev} {filled : Filled}
    (route : isIpv6Route (pktTypeOf entry) = true)
    (done : fillIpv6Ipip cfg foe dev hwPath skb entry = some filled) : filled.1 = entry := by
  have others : ∀ type, isIpv6Route type = true →
      type ≠ IPV4_MAP_E ∧ type ≠ IPV4_DSLITE ∧ type ≠ IPV4_HNAPT := by decide
  obtain ⟨notMape, notDslite, notHnapt⟩ := others _ route
  unfold fillIpv6Ipip at done
  split at done
  · cases done
  · rw [if_neg (by split <;> assumption), if_neg (fun mape => notHnapt mape.2)] at done
    obtain rfl := Option.some.inj done
    rfl

theorem fillIpv6_route {dev : EgressDev} {filled : Filled}
    (route : isIpv6Route (pktTypeOf foe) = true)
    (done : fillIpv6 cfg foe dev hwPath skb (newEntry foe) = some filled) :
    foeGroupIp filled.1 = foeGroupIp foe ∧
      if addrTranslated foe skb then
        skb.ports.isSome = true ∧ pktTypeOf filled.1 = IPV6_HNAPT ∧
          rewrite6 filled.1 = directedRewrite cfg dev skb
      else pktTypeOf filled.1 = pktTypeOf foe := by
  obtain ⟨type, sip, dip⟩ := @fillIpv6Route_spec cfg foe hwPath skb (newEntry foe)
  rw [pktTypeOf_newEntry] at type
  have routed := route
  rw [← type] at routed
  have ip := foeGroupIp_of_route route (Or.inl routed) dip
  unfold fillIpv6 at done
  simp only [pktTypeOf_newEntry, route, if_true] at done
  split at done
  · rename_i route3t
    split at done
    · obtain rfl := Option.some.inj done
      rw [type] at route3t
      have kept : addrTranslated foe skb = false := by
        unfold addrTranslated
        rw [route3t]
        rfl
      rw [kept]
      exact ⟨ip, type⟩
    · cases done
  · split at done
    · rename_i tcpUdp
      obtain ⟨translated, filling, rfl⟩ := Option.map_eq_some_iff.mp done
      exact fillIpv6TcpUdp_spec route type sip dip tcpUdp filling
    · rename_i notTcpUdp
      have kept : addrTranslated foe skb = false := by
        unfold addrTranslated
        simp [notTcpUdp]
      rw [kept]
      split at done
      · rw [fillIpv6Ipip_route routed done]
        exact ⟨ip, type⟩
      · cases done

def isIpv4Flow (pktType : FoeIpAct) : Bool :=
  pktType == IPV4_HNAPT || pktType == IPV4_HNAT || pktType == IPV4_DSLITE || pktType == IPV4_MAP_E

/-- The entry that the translation of the inner packet is taken from: the one in
the table for MAP-E, and the empty one otherwise. -/
def recordedEntry (cfg : HnatConfig) (foe : FoeEntry) : FoeEntry :=
  if cfg.mapeToggle ∧ (pktTypeOf foe = IPV4_MAP_E ∨ pktTypeOf foe = IPV4_HNAPT) then foe
  else newEntry foe

/-- The tunnel addresses lie one word before the addresses of an IPv6 key. -/
def tunnelGroupIp (cfg : HnatConfig) (foe : FoeEntry) (skb : Skb) : Option GroupIp :=
  if pktTypeOf foe = (if cfg.mapeToggle then IPV4_MAP_E else IPV4_DSLITE) then
    some (.ipv6 (skb.ip6h.saddr.extractLsb' 0 96 ++ skb.ip6h.daddr.extractLsb' 96 32))
  else if cfg.mapeToggle ∧ pktTypeOf foe = IPV4_HNAPT then foeGroupIp foe
  else foeGroupIp (newEntry foe)

theorem keepsBits_zero (before after : FoeEntry) : KeepsBits FoeEntry.zero before after := by
  intro word
  simp [FoeEntry.zero]

theorem keepsRewrite_mape {before after : FoeEntry} (mape : pktTypeOf before = IPV4_MAP_E)
    (type : pktTypeOf after = pktTypeOf before)
    (newSip : Ipv4Mape.newSip.get after = Ipv4Mape.newSip.get before)
    (newDip : Ipv4Mape.newDip.get after = Ipv4Mape.newDip.get before)
    (newSport : Ipv4Mape.newSport.get after = Ipv4Mape.newSport.get before)
    (newDport : Ipv4Mape.newDport.get after = Ipv4Mape.newDport.get before) :
    KeepsRewrite before after := by
  unfold KeepsRewrite Keeps
  rw [mape]
  exact (((((keepsBits_zero before after).mark _ newDport).mark _ newSport).mark _ newDip).mark _
    newSip).mark _ type

theorem keepsRewrite_hnapt {before after : FoeEntry} (hnapt : pktTypeOf before = IPV4_HNAPT)
    (type : pktTypeOf after = pktTypeOf before)
    (newSip : Ipv4Hnapt.newSip.get after = Ipv4Hnapt.newSip.get before)
    (newDip : Ipv4Hnapt.newDip.get after = Ipv4Hnapt.newDip.get before)
    (newSport : Ipv4Hnapt.newSport.get after = Ipv4Hnapt.newSport.get before)
    (newDport : Ipv4Hnapt.newDport.get after = Ipv4Hnapt.newDport.get before) :
    KeepsRewrite before after := by
  unfold KeepsRewrite Keeps
  rw [hnapt]
  exact (((((keepsBits_zero before after).mark _ newDport).mark _ newSport).mark _ newDip).mark _
    newSip).mark _ type

theorem keepsRewrite_dslite {before after : FoeEntry} (dslite : pktTypeOf before = IPV4_DSLITE)
    (type : pktTypeOf after = pktTypeOf before) : KeepsRewrite before after := by
  unfold KeepsRewrite Keeps
  rw [dslite]
  exact (keepsBits_zero before after).mark _ type

theorem fillMapeRecord_spec :
    pktTypeOf (fillMapeRecord foe entry) = pktTypeOf entry ∧
      Ipv65tRoute.ipv6Dip.get (fillMapeRecord foe entry) = Ipv65tRoute.ipv6Dip.get entry ∧
      Ipv4Mape.newSip.get (fillMapeRecord foe entry) = Ipv4Mape.newSip.get foe ∧
      Ipv4Mape.newDip.get (fillMapeRecord foe entry) = Ipv4Mape.newDip.get foe ∧
      Ipv4Mape.newSport.get (fillMapeRecord foe entry) = Ipv4Mape.newSport.get foe ∧
      Ipv4Mape.newDport.get (fillMapeRecord foe entry) = Ipv4Mape.newDport.get foe := by
  unfold fillMapeRecord pktTypeOf
  simp (disch := decide) only [Field.get_set, Field.get_set_of_apart, Ipv6Field.get_field_set,
    and_self]

theorem fillIpv4Encap_spec :
    pktTypeOf (fillIpv4Encap cfg foe hwPath skb entry) = pktTypeOf entry ∧
      Ipv65tRoute.ipv6Dip.get (fillIpv4Encap cfg foe hwPath skb entry) =
        skb.ip6h.saddr.extractLsb' 0 96 ++ skb.ip6h.daddr.extractLsb' 96 32 := by
  have words : skb.ip6h.saddr.extractLsb' 64 32 ++ skb.ip6h.saddr.extractLsb' 32 32 ++
      skb.ip6h.saddr.extractLsb' 0 32 ++ skb.ip6h.daddr.extractLsb' 96 32 =
      skb.ip6h.saddr.extractLsb' 0 96 ++ skb.ip6h.daddr.extractLsb' 96 32 := by
    apply BitVec.eq_of_getLsbD_eq
    intro i inAddr
    simp only [BitVec.getLsbD_append, BitVec.getLsbD_extractLsb']
    grind
  refine ⟨?_, ?_⟩
  · unfold fillIpv4Encap fillIpv4Key Ipv6Field.set
    dsimp only
    split
    · rw [fillMapeRecord_spec.1]
      unfold pktTypeOf
      simp (disch := decide) only [Field.get_set_of_apart, Field.get_setIf_of_apart]
    · unfold pktTypeOf
      simp (disch := decide) only [Field.get_set_of_apart, Field.get_setIf_of_apart]
  · rw [← words]
    unfold fillIpv4Encap fillIpv4Key Ipv6Field.set
    dsimp only
    split
    · rw [fillMapeRecord_spec.2.1]
      unfold Ipv6Field.get Ipv65tRoute.ipv6Dip Ipv4Dslite.tunnelSipv6 Ipv4Dslite.tunnelDipv6 ipv6At
      simp (disch := decide) only [Field.get_set, Field.get_set_of_apart,
        Field.get_setIf_of_apart]
    · unfold Ipv6Field.get Ipv65tRoute.ipv6Dip Ipv4Dslite.tunnelSipv6 Ipv4Dslite.tunnelDipv6 ipv6At
      simp (disch := decide) only [Field.get_set, Field.get_set_of_apart,
        Field.get_setIf_of_apart]

theorem fillIpv4Encap_mape (hwPath : HwPath) (mape : cfg.mapeToggle = true) (entry : FoeEntry) :
    ∃ filled, fillIpv4Encap cfg foe hwPath skb entry = fillMapeRecord foe filled := by
  unfold fillIpv4Encap
  rw [if_pos mape]
  exact ⟨_, rfl⟩

theorem get_fillMapeQos {n : Nat} (dev : EgressDev) (read : EntryField n)
    (apart : Ipv4Hnapt.iblk2.qid.Apart read ∧ Ipv4Hnapt.engine.tportId.Apart read ∧
      Ipv4Hnapt.iblk2.fqos.Apart read) :
    read.get (fillMapeQos cfg dev skb entry) = read.get entry := by
  obtain ⟨qid, tportId, fqos⟩ := apart
  unfold fillMapeQos
  split
  · rw [Field.get_set_of_apart _ _ _ _ fqos, Field.get_set_of_apart _ _ _ _ tportId,
      Field.get_set_of_apart _ _ _ _ qid]
  · rfl

theorem fillMapeHnapt_spec (dev : EgressDev) :
    pktTypeOf (fillMapeHnapt cfg foe dev hwPath skb entry) = pktTypeOf entry ∧
      Ipv4Hnapt.dip.get (fillMapeHnapt cfg foe dev hwPath skb entry) = Ipv4Hnapt.dip.get foe ∧
      Ipv4Hnapt.newSip.get (fillMapeHnapt cfg foe dev hwPath skb entry) =
        Ipv4Hnapt.newSip.get foe ∧
      Ipv4Hnapt.newDip.get (fillMapeHnapt cfg foe dev hwPath skb entry) =
        Ipv4Hnapt.newDip.get foe ∧
      Ipv4Hnapt.newSport.get (fillMapeHnapt cfg foe dev hwPath skb entry) =
        Ipv4Hnapt.newSport.get foe ∧
      Ipv4Hnapt.newDport.get (fillMapeHnapt cfg foe dev hwPath skb entry) =
        Ipv4Hnapt.newDport.get foe := by
  unfold fillMapeHnapt fillIpv4Key pktTypeOf
  simp (disch := decide) only [Field.get_set, Field.get_set_of_apart, Field.get_setIf_of_apart,
    get_fillMapeQos, and_self]

theorem fillIpv6_encap {dev : EgressDev} {filled : Filled}
    (flow : isIpv4Flow (pktTypeOf foe) = true) (tunnelled : skb.ip6h.nexthdr = IPPROTO_IPIP)
    (done : fillIpv6 cfg foe dev hwPath skb (newEntry foe) = some filled) :
    KeepsRewrite (recordedEntry cfg foe) filled.1 ∧
      foeGroupIp filled.1 = tunnelGroupIp cfg foe skb := by
  have notRoute : ∀ type, isIpv4Flow type = true →
      isIpv6Route type = false ∧ type ≠ IPV6_3T_ROUTE := by decide
  obtain ⟨unrouted, not3t⟩ := notRoute _ flow
  have notTcpUdp : isTcpUdp IPPROTO_IPIP = false := by decide
  unfold fillIpv6 at done
  simp only [pktTypeOf_newEntry, unrouted, not3t, tunnelled, notTcpUdp, Bool.false_eq_true,
    if_false, if_true] at done
  unfold fillIpv6Ipip at done
  unfold recordedEntry tunnelGroupIp
  split at done
  · cases done
  · rw [pktTypeOf_newEntry] at done
    by_cases encap : pktTypeOf foe = (if cfg.mapeToggle then IPV4_MAP_E else IPV4_DSLITE)
    · rw [if_pos encap] at done
      obtain rfl := Option.some.inj done
      obtain ⟨type, dip⟩ := @fillIpv4Encap_spec cfg foe hwPath skb (newEntry foe)
      rw [pktTypeOf_newEntry] at type
      rw [if_pos encap]
      refine ⟨?_, ?_⟩
      · cases mape : cfg.mapeToggle with
        | true =>
          simp only [mape, if_true] at encap
          simp only [encap, true_or, and_self, if_true]
          obtain ⟨filled, recorded⟩ := @fillIpv4Encap_mape cfg foe skb hwPath mape (newEntry foe)
          obtain ⟨-, -, newSip, newDip, newSport, newDport⟩ := @fillMapeRecord_spec foe filled
          rw [← recorded] at newSip newDip newSport newDport
          exact keepsRewrite_mape encap type newSip newDip newSport newDport
        | false =>
          simp only [mape, Bool.false_eq_true, if_false] at encap
          simp only [Bool.false_eq_true, false_and, if_false]
          exact keepsRewrite_dslite (by rw [pktTypeOf_newEntry, encap])
            (by rw [type, pktTypeOf_newEntry])
      · have grp : isIpv4Grp (pktTypeOf foe) = false ∧ isIpv6Grp (pktTypeOf foe) = true := by
          rw [encap]
          split <;> decide
        unfold foeGroupIp
        simp only [type, grp, dip, Bool.false_eq_true, if_false, if_true]
    · rw [if_neg encap] at done
      split at done
      · rename_i hnapt
        obtain rfl := Option.some.inj done
        obtain ⟨type, dip, newSip, newDip, newSport, newDport⟩ :=
          @fillMapeHnapt_spec cfg foe hwPath skb (newEntry foe) dev
        rw [pktTypeOf_newEntry] at type
        rw [if_pos ⟨hnapt.1, Or.inr hnapt.2⟩, if_neg encap, if_pos hnapt]
        refine ⟨keepsRewrite_hnapt hnapt.2 type newSip newDip newSport newDport, ?_⟩
        unfold foeGroupIp
        simp only [type, dip, hnapt.2, show isIpv4Grp IPV4_HNAPT = true by rfl, if_true]
      · rename_i notHnapt
        obtain rfl := Option.some.inj done
        rw [if_neg encap, if_neg notHnapt, if_neg]
        · exact ⟨Keeps.refl _, rfl⟩
        · rintro ⟨mape, encapsulated | hnapt⟩
          · exact encap (by rw [if_pos mape, encapsulated])
          · exact notHnapt ⟨mape, hnapt⟩

end

end OpenwrtSource.Hnat.FillEffects
