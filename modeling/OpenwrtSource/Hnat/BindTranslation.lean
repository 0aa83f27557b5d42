import OpenwrtSource.Hnat.EngineWord
import OpenwrtSource.Hnat.FillEffects

/-!
# The translation of a committed entry

A flow is a packet as it came in, what conntrack has recorded for its direction,
and the pass or passes that the packet makes at the post-routing hook.  The entry
that is committed for it should give the packet that goes out.
-/

namespace OpenwrtSource.Hnat.BindTranslation

open Hnat.Foe Hnat.McastTable Hnat.McastOffload Hnat.Translation Hnat.BindPacket Hnat.BindFill
open Hnat.BindEntry Hnat.BindEffects Hnat.BindMulticast Hnat.FillEffects Hnat.EngineWord

/-! ## Flows -/

/-- The engine has learned the entry from a packet with this tuple. -/
def Learned : (family : Family) → Tuple family.width → FoeEntry → Prop
  | .ipv4, ingress, foe =>
    isIpv4Flow (pktTypeOf foe) = true ∧ Ipv4Hnapt.sip.get foe = ingress.saddr ∧
      Ipv4Hnapt.dip.get foe = ingress.daddr
  | .ipv6, ingress, foe =>
    isIpv6Route (pktTypeOf foe) = true ∧ Ipv65tRoute.ipv6Sip.get foe = ingress.saddr ∧
      Ipv65tRoute.ipv6Dip.get foe = ingress.daddr

structure Flow (cfg : HnatConfig) (plat : Platform) (family : Family) where
  ingress : Tuple family.width
  nat : NatRecord family.width
  pass : Pass
  before : State
  /-- The pass behind the engine, with the state that it finds but for its entry. -/
  later : Option (Pass × State)
  learned : Learned family ingress (before.foe pass.skb.desc)
  carried : pass.skb.tuple family = some (nat.translate ingress)
  fresh : hnatOffloadEngineDone cfg pass.skb pass.hwPath ≠ 1
  ended : ∀ pass ∈ later, hnatOffloadEngineDone cfg pass.1.skb pass.1.hwPath = 1

variable {cfg : HnatConfig} {plat : Platform} {family : Family}

def Flow.foe (flow : Flow cfg plat family) : FoeEntry := flow.before.foe flow.pass.skb.desc

def Flow.egress (flow : Flow cfg plat family) : Tuple family.width :=
  flow.nat.translate flow.ingress

def State.withFoe (s : State) (desc : HnatDesc) (entry : FoeEntry) : State :=
  { s with mcast := { s.mcast with hw := s.mcast.hw.writeFoe desc.ppe desc.entry entry } }

theorem State.foe_withFoe (s : State) (desc : HnatDesc) (entry : FoeEntry) :
    (State.withFoe s desc entry).foe desc = entry := by
  simp [State.withFoe, State.foe, Hw.writeFoe]

/-- The entry that the engine finds in the table, or that the Wi-Fi driver is left with. -/
def Flow.committed (flow : Flow cfg plat family) : Option FoeEntry :=
  match (skbToHnatInfo cfg plat flow.pass flow.before).1 with
  | .prepared entry =>
    flow.later.bind fun (later, s) =>
      (skbToHnatInfo cfg plat later (State.withFoe s later.skb.desc entry)).1.entry
  | outcome => outcome.entry

/-! ## The ids that a flow takes -/

def closingIds (cfg : HnatConfig) (plat : Platform) (pass : Pass) (ip : Option GroupIp)
    (s : State) : Option EngineIds :=
  let ids := offloadEngineIds cfg pass.skb.desc
  if pass.dev.isWhnat cfg then some ids
  else (mcastIds plat pass ip s.mcast).map (EngineIds.andThen ids)

/-- Where the multicast handlers look for the group of the flow. -/
def Flow.groupIp (flow : Flow cfg plat family) : Option GroupIp :=
  if family = .ipv4 ∧ flow.pass.skb.hProto = some ETH_P_IPV6 then
    tunnelGroupIp cfg flow.foe flow.pass.skb
  else foeGroupIp flow.foe

/-- What is written to the word of the engines after the fill; nothing stays of
the entry of a multicast group without a slot. -/
def Flow.lateIds (flow : Flow cfg plat family) : Option EngineIds :=
  if enginePending flow.pass.skb flow.pass.hwPath then
    match flow.later with
    | none => some .none
    | some (later, s) => closingIds cfg plat later flow.groupIp s
  else closingIds cfg plat flow.pass flow.groupIp flow.before

def lateEntry (ids : Option EngineIds) (entry : FoeEntry) : FoeEntry :=
  match ids with
  | none => FoeEntry.zero
  | some ids => withIds ids entry

theorem lateEntry_keeps {before after : FoeEntry} (keeps : KeepsFlow before after)
    (ids : Option EngineIds) :
    rewriteOf family (lateEntry ids after) = rewriteOf family (lateEntry ids before) := by
  cases ids with
  | none => rfl
  | some ids =>
    have both := keeps_withIds typed_flowBits keeps ids
    exact (KeepsFlow.rewrite both).rewriteOf family

theorem bindEntry_rewrite {pass : Pass} {hwPath : HwPath} {hProto : BitVec 16} {filled : Filled}
    {s : State} {entry : FoeEntry}
    (bound : (bindEntry cfg plat pass hwPath hProto filled s).1.entry = some entry) :
    rewriteOf family entry =
      rewriteOf family
        (lateEntry (closingIds cfg plat pass (foeGroupIp filled.1) s) filled.1) := by
  unfold bindEntry at bound
  split at bound
  · cases bound
  · rename_i finished finishing
    have keeps := keeps_finishEntry finishing
    unfold closingIds
    split at bound
    · rename_i wifi
      rw [if_pos wifi]
      unfold recordEntry at bound
      dsimp only at bound
      split at bound
      · cases bound
      · split at bound
        · cases bound
        · obtain rfl := Option.some.inj bound
          exact (KeepsFlow.rewrite keeps).rewriteOf family
    · rename_i ethernet
      rw [if_neg ethernet]
      obtain ⟨settled, settles, rfl⟩ := settles_commitEntry bound
      rw [KeepsFlow.foeGroupIp keeps, foeGroupIp_withIds] at settles
      have committed := keeps_hnatFoeEntryCommit (Keeps.refl settled) pass.env.foeTimestamp BIND
      rw [(KeepsFlow.rewrite committed).rewriteOf family]
      have whole := settles.of_keeps keeps
      generalize mcastIds plat pass (foeGroupIp filled.1) s.mcast = found at whole ⊢
      cases found with
      | none => exact congrArg (rewriteOf family) whole
      | some ids =>
        have keepsIds : KeepsFlow _ settled := whole
        rw [(KeepsFlow.rewrite keepsIds).rewriteOf family, withIds_withIds]
        rfl

theorem enginePending_pppoe (foe : FoeEntry) (skb : Skb) (hwPath : HwPath) :
    enginePending skb (pppoeHwPath foe skb hwPath) = enginePending skb hwPath := by
  unfold pppoeHwPath
  split <;> rfl

theorem skbToHnatInfo_fresh {pass : Pass} {s : State}
    (fresh : hnatOffloadEngineDone cfg pass.skb pass.hwPath ≠ 1)
    (accepted : ∀ ret, (skbToHnatInfo cfg plat pass s).1 ≠ .refused ret) :
    ∃ hProto filled hwPath, hwPath = pppoeHwPath (s.foe pass.skb.desc) pass.skb pass.hwPath ∧
      switchProto cfg (s.foe pass.skb.desc) pass.skb = some hProto ∧
      fillEntry cfg (s.foe pass.skb.desc) pass.dev hwPath pass.skb hProto = some filled ∧
      skbToHnatInfo cfg plat pass s =
        if enginePending pass.skb pass.hwPath then
          prepareEntry pass (ppeFillL2Info hwPath filled.1) s
        else bindEntry cfg plat pass hwPath hProto (ppeFillL2Info hwPath filled.1, filled.2) s := by
  unfold skbToHnatInfo at accepted ⊢
  rw [if_neg fresh] at accepted ⊢
  split at accepted
  · exact absurd rfl (accepted _)
  · rename_i unicast
    rw [if_neg unicast]
    split at accepted
    · exact absurd rfl (accepted _)
    · rename_i working
      rw [if_neg working]
      unfold bindPacket at accepted ⊢
      dsimp only at accepted ⊢
      split at accepted
      · exact absurd rfl (accepted _)
      · rename_i unbound
        rw [if_neg unbound]
        cases switched : switchProto cfg (s.foe pass.skb.desc) pass.skb with
        | none =>
          rw [switched] at accepted
          exact absurd rfl (accepted _)
        | some hProto =>
          rw [switched] at accepted
          dsimp only at accepted ⊢
          cases filling : fillEntry cfg (s.foe pass.skb.desc) pass.dev
              (pppoeHwPath (s.foe pass.skb.desc) pass.skb pass.hwPath) pass.skb hProto with
          | none =>
            rw [filling] at accepted
            exact absurd rfl (accepted _)
          | some filled =>
            exact ⟨hProto, filled, _, rfl, rfl, filling, by simp only [enginePending_pppoe]⟩

theorem bindEntry_ne_prepared (pass : Pass) (hwPath : HwPath) (hProto : BitVec 16)
    (filled : Filled) (s : State) (entry : FoeEntry) :
    (bindEntry cfg plat pass hwPath hProto filled s).1 ≠ .prepared entry := by
  unfold bindEntry
  split
  · nofun
  · split
    · unfold recordEntry
      dsimp only
      split
      · nofun
      · split <;> nofun
    · unfold commitEntry
      dsimp only
      split
      · nofun
      · split <;> nofun

theorem Flow.committed_rewrite (flow : Flow cfg plat family) {entry : FoeEntry}
    (committed : flow.committed = some entry) :
    ∃ hProto filled hwPath, switchProto cfg flow.foe flow.pass.skb = some hProto ∧
      fillEntry cfg flow.foe flow.pass.dev hwPath flow.pass.skb hProto = some filled ∧
      (foeGroupIp filled.1 = flow.groupIp →
        rewriteOf family entry = rewriteOf family (lateEntry flow.lateIds filled.1)) := by
  unfold Flow.committed at committed
  obtain ⟨hProto, filled, hwPath, -, switched, filling, ran⟩ :=
    skbToHnatInfo_fresh flow.fresh (by
      intro ret refused
      rw [refused] at committed
      cases committed)
  refine ⟨hProto, filled, hwPath, switched, filling, fun grouped => ?_⟩
  rw [ran] at committed
  have filledL2 := keeps_ppeFillL2Info (Keeps.refl filled.1) hwPath
  unfold lateIds
  cases pending : enginePending flow.pass.skb flow.pass.hwPath with
  | false =>
    simp only [pending, Bool.false_eq_true, if_false] at committed ⊢
    have bound : (bindEntry cfg plat flow.pass hwPath hProto
        (ppeFillL2Info hwPath filled.1, filled.2) flow.before).1.entry = some entry := by
      split at committed
      · exact absurd ‹_› (bindEntry_ne_prepared _ _ _ _ _ _)
      · exact committed
    rw [@bindEntry_rewrite cfg plat family _ _ _ _ _ _ bound,
      lateEntry_keeps filledL2, KeepsFlow.foeGroupIp filledL2, grouped]
  | true =>
    simp only [pending, if_true, prepareEntry] at committed ⊢
    cases behind : flow.later with
    | none => simp [behind] at committed
    | some pair =>
      obtain ⟨later, s⟩ := pair
      have ended := flow.ended (later, s) behind
      dsimp only at ended
      simp only [behind, Option.bind_some] at committed ⊢
      have left := keeps_hnatFoeEntryCommit filledL2 flow.pass.env.foeTimestamp
        (stateOf (ppeFillL2Info hwPath filled.1))
      generalize hnatFoeEntryCommit flow.pass.env.foeTimestamp (ppeFillL2Info hwPath filled.1)
        (stateOf (ppeFillL2Info hwPath filled.1)) = prepared at committed left
      unfold skbToHnatInfo at committed
      split at committed
      · cases committed
      · have found := keeps_hnatGetFilledUnbindEntry left
        rw [@bindEntry_rewrite cfg plat family _ _ _ _ _ _ committed, State.foe_withFoe,
          lateEntry_keeps found, KeepsFlow.foeGroupIp found, grouped]
        rfl

/-! ## IPv4 flows -/

def Flow.encapsulated (flow : Flow cfg plat .ipv4) : Bool :=
  flow.pass.skb.hProto == some ETH_P_IPV6

/-- Where the entry of an IPv4 flow gives the packet that goes out.  The entries
of a tunnelled packet need a translation that the local-out hook has left in the
table, DS-Lite entries a flow without one, 3-tuple entries one that keeps the
ports, and the engines no id in the place of the ports of a MAP-E entry. -/
def Flow.Holds4 (flow : Flow cfg plat .ipv4) : Prop :=
  match flow.lateIds with
  | none => ppeForward .ipv4 FoeEntry.zero flow.ingress = flow.egress
  | some ids =>
    if flow.encapsulated then
      ppeForward .ipv4 (withIds ids (recordedEntry cfg flow.foe)) flow.ingress = flow.egress
    else if pktTypeOf flow.foe = IPV4_DSLITE then flow.egress = flow.ingress
    else if pktTypeOf flow.foe = IPV4_HNAT then flow.egress.ports = flow.ingress.ports
    else if pktTypeOf flow.foe = IPV4_MAP_E then
      ∀ ports ∈ flow.egress.ports, EngineIds.Agree ids (ports.src ++ ports.dst)
    else True

theorem switchProto_flow {foe : FoeEntry} {skb : Skb} (notBridge : pktTypeOf foe ≠ L2_BRIDGE) :
    switchProto cfg foe skb = skb.hProto := by
  unfold switchProto
  rw [if_neg notBridge]

theorem tuple4_cases {skb : Skb} {tuple : Tuple 32} (carried : skb.tuple4 = some tuple) :
    (skb.hProto = some ETH_P_IP ∧ tuple =
        ⟨skb.iph.saddr, skb.iph.daddr, skb.iph.protocol, portsOf skb.iph.protocol skb.ports⟩) ∨
      (skb.hProto = some ETH_P_IPV6 ∧ skb.ip6h.nexthdr = IPPROTO_IPIP) := by
  unfold Skb.tuple4 at carried
  split at carried
  · rename_i ip
    exact Or.inl ⟨ip, (Option.some.inj carried).symm⟩
  · split at carried
    · rename_i tunnelled
      exact Or.inr tunnelled
    · cases carried

theorem portsOf_eq_some {protocol : BitVec 8} {ports : Option Ports} {read : Ports}
    (some : portsOf protocol ports = some read) : ports = Option.some read := by
  unfold portsOf at some
  split at some
  · exact some
  · cases some

theorem headerRewrite_apply {pktType : FoeIpAct} {skb : Skb} {before after : Tuple 32}
    (kind : SameKind before after) (header : after =
      ⟨skb.iph.saddr, skb.iph.daddr, skb.iph.protocol, portsOf skb.iph.protocol skb.ports⟩)
    (translates : pktType = IPV4_HNAPT ∨ pktType = IPV4_MAP_E) :
    (headerRewrite pktType skb).apply before = after := by
  rw [Rewrite.apply_eq_iff _ kind]
  unfold headerRewrite
  rw [if_pos translates]
  subst header
  refine ⟨rfl, rfl, fun old _ new inAfter => ?_⟩
  rw [portsOf_eq_some (Option.mem_def.mp inAfter)]
  exact ⟨rfl, rfl⟩

theorem sameKind_ports_eq_iff {width : Nat} {before after : Tuple width}
    (kind : SameKind before after) :
    (∀ old ∈ before.ports, ∀ new ∈ after.ports, old.src = new.src ∧ old.dst = new.dst) ↔
      after.ports = before.ports := by
  obtain ⟨-, both⟩ := kind
  cases ported : before.ports with
  | none =>
    rw [ported] at both
    have none : after.ports = none := by simpa using both
    simp [none]
  | some old =>
    rw [ported] at both
    obtain ⟨new, ported'⟩ : ∃ new, after.ports = some new := by
      simpa [Option.isSome_iff_exists] using both
    obtain ⟨src, dst⟩ := old
    obtain ⟨src', dst'⟩ := new
    simp [ported', eq_comm]

theorem apply_withIds_header {pktType : FoeIpAct} {skb : Skb} {before after : Tuple 32}
    (ids : EngineIds) {entry : FoeEntry} (type : pktTypeOf entry = pktType)
    (ipv4Flow : isIpv4Flow pktType = true) (header4 : rewrite4 entry = headerRewrite pktType skb)
    (kind : SameKind before after) (header : after =
      ⟨skb.iph.saddr, skb.iph.daddr, skb.iph.protocol, portsOf skb.iph.protocol skb.ports⟩) :
    (rewriteOf .ipv4 (withIds ids entry)).apply before = after ↔
      if pktType = IPV4_DSLITE then after = before
      else if pktType = IPV4_HNAT then after.ports = before.ports
      else if pktType = IPV4_MAP_E then
        ∀ ports ∈ after.ports, EngineIds.Agree ids (ports.src ++ ports.dst)
      else True := by
  have notHnapt6 : pktType ≠ IPV6_HNAPT := by
    rintro rfl
    exact absurd ipv4Flow (by decide)
  by_cases mape : pktType = IPV4_MAP_E
  · subst mape
    obtain ⟨ports, rewritten, agree⟩ := rewrite4_withIds_mape ids type
    change (rewrite4 (withIds ids entry)).apply before = after ↔ _
    have fields := header4
    unfold rewrite4 headerRewrite at fields
    rw [type] at fields
    obtain ⟨newSip, newDip, newSport, newDport⟩ := Rewrite.mk.inj fields
    rw [rewritten, Rewrite.apply_eq_iff _ kind, header4]
    simp only [show ¬ IPV4_MAP_E = IPV4_DSLITE by decide, show ¬ IPV4_MAP_E = IPV4_HNAT by decide,
      if_false, if_true]
    have addrs : (headerRewrite IPV4_MAP_E skb).saddr.getD before.saddr = after.saddr ∧
        (headerRewrite IPV4_MAP_E skb).daddr.getD before.daddr = after.daddr := by
      subst header
      exact ⟨rfl, rfl⟩
    have read : ∀ new ∈ after.ports, new.src = Ipv4Mape.newSport.get entry ∧
        new.dst = Ipv4Mape.newDport.get entry := by
      subst header
      intro new inAfter
      rw [portsOf_eq_some (Option.mem_def.mp inAfter)] at newSport newDport
      exact ⟨(Option.some.inj newSport).symm, (Option.some.inj newDport).symm⟩
    constructor
    · rintro ⟨-, -, same⟩ new inAfter
      obtain ⟨old, inBefore⟩ : ∃ old, before.ports = some old := by
        rw [← Option.isSome_iff_exists, ← kind.2, Option.mem_def.mp inAfter]
        rfl
      obtain ⟨src, dst⟩ := same old inBefore new inAfter
      rw [(read new inAfter).1, (read new inAfter).2, ← agree, ← (read new inAfter).1,
        ← (read new inAfter).2]
      exact ⟨src, dst⟩
    · intro held
      refine ⟨addrs.1, addrs.2, fun old _ new inAfter => ?_⟩
      have agreed := held new inAfter
      rw [(read new inAfter).1, (read new inAfter).2, ← agree] at agreed
      exact ⟨agreed.1.trans (read new inAfter).1.symm, agreed.2.trans (read new inAfter).2.symm⟩
  · rw [rewriteOf_withIds ids .ipv4 (by rwa [type]) (by rwa [type])]
    change (rewrite4 entry).apply before = after ↔ _
    rw [header4]
    by_cases dslite : pktType = IPV4_DSLITE
    · subst dslite
      change Rewrite.unchanged.apply before = after ↔ after = before
      rw [Rewrite.apply_unchanged]
      exact eq_comm
    · by_cases hnat : pktType = IPV4_HNAT
      · subst hnat
        rw [if_neg dslite, if_pos rfl, ← sameKind_ports_eq_iff kind, Rewrite.apply_eq_iff _ kind]
        subst header
        exact ⟨fun same => same.2.2, fun ports => ⟨rfl, rfl, ports⟩⟩
      · have hnapt : pktType = IPV4_HNAPT := by
          unfold isIpv4Flow at ipv4Flow
          simpa [hnat, dslite, mape] using ipv4Flow
        simp only [dslite, hnat, mape, if_false, iff_true]
        exact headerRewrite_apply kind header (Or.inl hnapt)

theorem Flow.holds4_iff (flow : Flow cfg plat .ipv4) {entry : FoeEntry}
    (committed : flow.committed = some entry) :
    ppeForward .ipv4 entry flow.ingress = flow.egress ↔ flow.Holds4 := by
  obtain ⟨hProto, filled, hwPath, switched, filling, rewritten⟩ := flow.committed_rewrite committed
  obtain ⟨ipv4Flow, -, -⟩ := flow.learned
  change isIpv4Flow (pktTypeOf flow.foe) = true at ipv4Flow
  have notBridge : pktTypeOf flow.foe ≠ L2_BRIDGE := by
    rintro bridge
    rw [bridge] at ipv4Flow
    exact absurd ipv4Flow (by decide)
  rw [switchProto_flow notBridge] at switched
  have kind : SameKind flow.ingress flow.egress := flow.nat.sameKind_translate flow.ingress
  unfold Flow.Holds4 ppeForward Flow.encapsulated
  unfold fillEntry at filling
  obtain ⟨ip, header⟩ | ⟨ipv6, tunnelled⟩ := tuple4_cases flow.carried
  · obtain rfl : hProto = ETH_P_IP := Option.some.inj (switched.symm.trans ip)
    rw [if_pos rfl] at filling
    obtain ⟨inner, inside, rfl⟩ := Option.map_eq_some_iff.mp filling
    have spec : pktTypeOf inner = pktTypeOf flow.foe ∧ foeGroupIp inner = foeGroupIp flow.foe ∧
        rewrite4 inner = headerRewrite (pktTypeOf flow.foe) flow.pass.skb := by
      by_cases grp : isIpv4Grp (pktTypeOf flow.foe) = true
      · exact fillIpv4_grp grp inside
      · refine fillIpv4_decap ?_ inside
        unfold isIpv4Flow at ipv4Flow
        unfold isIpv4Grp at grp
        grind
    obtain ⟨type, grouped, header4⟩ := spec
    have notTunnel : ¬ flow.pass.skb.hProto = some ETH_P_IPV6 := by
      rw [ip]
      decide
    have sameGroup : foeGroupIp inner = flow.groupIp := by
      unfold Flow.groupIp
      rw [if_neg (fun tunnel => notTunnel tunnel.2), grouped]
    rw [rewritten sameGroup]
    cases flow.lateIds with
    | none => exact Iff.rfl
    | some ids =>
      simp only [beq_iff_eq, notTunnel, if_false, lateEntry]
      exact apply_withIds_header ids type ipv4Flow header4 kind header
  · obtain rfl : hProto = ETH_P_IPV6 := Option.some.inj (switched.symm.trans ipv6)
    rw [if_neg (by decide), if_pos rfl] at filling
    obtain ⟨keeps, grouped⟩ := fillIpv6_encap ipv4Flow tunnelled filling
    have sameGroup : foeGroupIp filled.1 = flow.groupIp := by
      unfold Flow.groupIp
      rw [if_pos ⟨rfl, ipv6⟩, grouped]
    rw [rewritten sameGroup]
    cases flow.lateIds with
    | none => exact Iff.rfl
    | some ids =>
      have both := keeps_withIds typed_rewriteBits keeps ids
      simp only [ipv6, beq_self_eq_true, if_true, lateEntry]
      rw [KeepsRewrite.rewriteOf both .ipv4]

/-! ## IPv6 flows -/

/-- Where the entry of an IPv6 flow gives the packet that goes out.  An entry
has room for one new address, that of the end that lies behind the egress device,
and none for ports where no address changes; the engines may have no id in the
place of its third word. -/
def Flow.Holds6 (flow : Flow cfg plat .ipv6) : Prop :=
  match flow.lateIds with
  | none => flow.egress = flow.ingress
  | some ids =>
    if addrTranslated flow.foe flow.pass.skb then
      if flow.pass.dev.isWan cfg || flow.pass.dev.isDsaWan then
        flow.egress.daddr = flow.ingress.daddr ∧
          EngineIds.Agree ids (flow.egress.saddr.extractLsb' 32 32)
      else
        flow.egress.saddr = flow.ingress.saddr ∧
          EngineIds.Agree ids (flow.egress.daddr.extractLsb' 32 32)
    else flow.egress = flow.ingress

theorem tuple6_cases {skb : Skb} {tuple : Tuple 128} (carried : skb.tuple6 = some tuple) :
    (skb.hProto = some ETH_P_IPV6 ∧ tuple =
        ⟨skb.ip6h.saddr, skb.ip6h.daddr, skb.ip6h.nexthdr, portsOf skb.ip6h.nexthdr skb.ports⟩) ∨
      (skb.hProto = some ETH_P_IP ∧ skb.iph.protocol = IPPROTO_IPV6) := by
  unfold Skb.tuple6 at carried
  split at carried
  · rename_i ipv6
    exact Or.inl ⟨ipv6, (Option.some.inj carried).symm⟩
  · split at carried
    · rename_i tunnelled
      exact Or.inr tunnelled
    · cases carried

theorem rewrite6_of_route {entry : FoeEntry} (ids : EngineIds)
    (route : isIpv6Route (pktTypeOf entry) = true) :
    rewriteOf .ipv6 (withIds ids entry) = Rewrite.unchanged := by
  have others : ∀ type, isIpv6Route type = true → type ≠ IPV4_MAP_E ∧ type ≠ IPV6_HNAPT := by
    decide
  obtain ⟨notMape, notHnapt6⟩ := others _ route
  rw [rewriteOf_withIds ids .ipv6 notMape notHnapt6]
  change rewrite6 entry = _
  unfold rewrite6
  rw [if_neg notHnapt6]

theorem apply_withIds_directed {dev : EgressDev} {skb : Skb} {before after : Tuple 128}
    (ids : EngineIds) {entry : FoeEntry} (type : pktTypeOf entry = IPV6_HNAPT)
    (directed : rewrite6 entry = directedRewrite cfg dev skb) (kind : SameKind before after)
    (header : after =
      ⟨skb.ip6h.saddr, skb.ip6h.daddr, skb.ip6h.nexthdr, portsOf skb.ip6h.nexthdr skb.ports⟩) :
    (rewriteOf .ipv6 (withIds ids entry)).apply before = after ↔
      if dev.isWan cfg || dev.isDsaWan then
        after.daddr = before.daddr ∧ EngineIds.Agree ids (after.saddr.extractLsb' 32 32)
      else
        after.saddr = before.saddr ∧ EngineIds.Agree ids (after.daddr.extractLsb' 32 32) := by
  change (rewrite6 (withIds ids entry)).apply before = after ↔ _
  rw [rewrite6_withIds ids type, directed]
  have read : ∀ new ∈ after.ports, skb.ports = some new := by
    subst header
    exact fun new inAfter => portsOf_eq_some (Option.mem_def.mp inAfter)
  have saddr : after.saddr = skb.ip6h.saddr := by rw [header]
  have daddr : after.daddr = skb.ip6h.daddr := by rw [header]
  have agree := newIpv6Ip_withIds_eq_iff ids type
  unfold rewrite6 directedRewrite at directed
  rw [if_pos type] at directed
  unfold directedRewrite
  cases wan : (dev.isWan cfg || dev.isDsaWan) with
  | true =>
    simp only [wan, if_true] at directed ⊢
    by_cases dir : Ipv6Hnapt.egIpv6Dir.get entry = IPV6_SNAT
    · rw [if_pos dir] at directed ⊢
      have newAddr := Option.some.inj (Rewrite.mk.inj directed).1
      rw [Rewrite.apply_eq_iff _ kind, saddr, ← newAddr, ← agree]
      constructor
      · rintro ⟨same, other, -⟩
        exact ⟨other.symm, same⟩
      · rintro ⟨other, same⟩
        refine ⟨same, other.symm, fun old _ new inAfter => ?_⟩
        rw [read new inAfter]
        exact ⟨rfl, rfl⟩
    · rw [if_neg dir] at directed
      exact absurd (Rewrite.mk.inj directed).1 (by simp)
  | false =>
    simp only [wan, Bool.false_eq_true, if_false] at directed ⊢
    by_cases dir : Ipv6Hnapt.egIpv6Dir.get entry = IPV6_SNAT
    · rw [if_pos dir] at directed
      exact absurd (Rewrite.mk.inj directed).1 (by simp)
    · rw [if_neg dir] at directed ⊢
      have newAddr := Option.some.inj (Rewrite.mk.inj directed).2.1
      rw [Rewrite.apply_eq_iff _ kind, daddr, ← newAddr, ← agree]
      constructor
      · rintro ⟨other, same, -⟩
        exact ⟨other.symm, same⟩
      · rintro ⟨other, same⟩
        refine ⟨other.symm, same, fun old _ new inAfter => ?_⟩
        rw [read new inAfter]
        exact ⟨rfl, rfl⟩

theorem Flow.holds6_iff (flow : Flow cfg plat .ipv6) {entry : FoeEntry}
    (committed : flow.committed = some entry) :
    ppeForward .ipv6 entry flow.ingress = flow.egress ↔ flow.Holds6 := by
  obtain ⟨hProto, filled, hwPath, switched, filling, rewritten⟩ := flow.committed_rewrite committed
  obtain ⟨route, -, -⟩ := flow.learned
  change isIpv6Route (pktTypeOf flow.foe) = true at route
  have notBridge : pktTypeOf flow.foe ≠ L2_BRIDGE := by
    rintro bridge
    rw [bridge] at route
    exact absurd route (by decide)
  rw [switchProto_flow notBridge] at switched
  have kind : SameKind flow.ingress flow.egress := flow.nat.sameKind_translate flow.ingress
  have toGroup : foeGroupIp filled.1 = foeGroupIp flow.foe → foeGroupIp filled.1 = flow.groupIp := by
    intro grouped
    unfold Flow.groupIp
    rw [if_neg (fun tunnel => nomatch tunnel.1), grouped]
  have emptied : (rewriteOf .ipv6 FoeEntry.zero).apply flow.ingress = flow.egress ↔
      flow.egress = flow.ingress := by
    change Rewrite.unchanged.apply flow.ingress = flow.egress ↔ _
    rw [Rewrite.apply_unchanged]
    exact eq_comm
  have kept : ∀ ids, pktTypeOf filled.1 = pktTypeOf flow.foe →
      ((rewriteOf .ipv6 (withIds ids filled.1)).apply flow.ingress = flow.egress ↔
        flow.egress = flow.ingress) := by
    intro ids type
    rw [← type] at route
    rw [rewrite6_of_route ids route, Rewrite.apply_unchanged]
    exact eq_comm
  unfold Flow.Holds6 ppeForward
  unfold fillEntry at filling
  obtain ⟨ipv6, header⟩ | ⟨ip, tunnelled⟩ := tuple6_cases flow.carried
  · obtain rfl : hProto = ETH_P_IPV6 := Option.some.inj (switched.symm.trans ipv6)
    rw [if_neg (by decide), if_pos rfl] at filling
    obtain ⟨grouped, types⟩ := fillIpv6_route route filling
    rw [rewritten (toGroup grouped)]
    cases flow.lateIds with
    | none => exact emptied
    | some ids =>
      simp only [lateEntry]
      split at types
      · rename_i translated
        rw [if_pos translated]
        exact apply_withIds_directed ids types.2.1 types.2.2 kind header
      · rename_i routed
        rw [if_neg routed]
        exact kept ids types
  · obtain rfl : hProto = ETH_P_IP := Option.some.inj (switched.symm.trans ip)
    rw [if_pos rfl] at filling
    obtain ⟨inner, inside, rfl⟩ := Option.map_eq_some_iff.mp filling
    obtain ⟨sixRd, type, grouped⟩ := fillIpv4_6rd route tunnelled inside
    rw [rewritten (toGroup grouped)]
    cases flow.lateIds with
    | none => exact emptied
    | some ids =>
      have routed : ¬ addrTranslated flow.foe flow.pass.skb = true := by
        unfold addrTranslated
        rw [sixRd]
        exact Bool.false_ne_true
      simp only [lateEntry]
      rw [if_neg routed]
      exact kept ids type

/-! ## Both families -/

def Flow.Holds (flow : Flow cfg plat family) : Prop :=
  match family, flow with
  | .ipv4, flow => flow.Holds4
  | .ipv6, flow => flow.Holds6

/-- The committed entry gives the packet that goes out exactly on these flows. -/
theorem bind_translates_iff (flow : Flow cfg plat family) {entry : FoeEntry}
    (committed : flow.committed = some entry) :
    ppeForward family entry flow.ingress = flow.egress ↔ flow.Holds := by
  cases family with
  | ipv4 => exact flow.holds4_iff committed
  | ipv6 => exact flow.holds6_iff committed

/-! ## A hairpin flow

A client of the LAN reaches a server of the LAN under the public address of the
router, so both ends of the tuple are translated. -/

namespace Hairpin

def router : HnatConfig where
  l2brToggle := false
  mapeToggle := false
  tnlToggle := false
  l4sToggle := false
  qosToggle := 0
  qosDlToggle := false
  qosUlToggle := false
  perFlowAccounting := false
  whnat := false
  gmacNum := 2
  wan := ['e', 't', 'h', '1']
  lan := ['e', 't', 'h', '0']
  lan2 := ['e', 't', 'h', '2']

def engine : Platform := ⟨1, 16, 16⟩

def ingress : Tuple 128 :=
  ⟨0xfd000000000000000000000000000010, 0x20010db8000000000000000000000001, IPPROTO_TCP,
    some ⟨1000, 80⟩⟩

def nat : NatRecord 128 :=
  ⟨some ⟨0xfd000000000000000000000000000001, 2000⟩, some ⟨0xfd000000000000000000000000000020, 8080⟩⟩

def egress : Tuple 128 := nat.translate ingress

def foe : FoeEntry :=
  Bfib1.state.set UNBIND (Bfib1.pktType.set IPV6_5T_ROUTE
    (Ipv65tRoute.ipv6Sip.set ingress.saddr (Ipv65tRoute.ipv6Dip.set ingress.daddr FoeEntry.zero)))

def skb : Skb where
  ethProto := ETH_P_IPV6
  hDest := 0
  protocol := ETH_P_IPV6
  pppoeSid := 0
  pppProto := none
  ipVersion := IPVERSION_V6
  iph := ⟨0, 0, 0, 0, 0, 0, 0, 0, 0, 0⟩
  ip6h := ⟨0, 0, 0, 0, 20, IPPROTO_TCP, 64, egress.saddr, egress.daddr⟩
  ports := egress.ports
  tcpHdrlen := 20
  innerIph := ⟨0, 0, 0, 0, 0, 0, 0, 0, 0, 0⟩
  innerIp6h := ⟨0, 0, 0, 0, 0, 0, 0, 0, 0⟩
  innerPorts := none
  vlanTci := none
  mark := 0
  desc := ⟨0, 0, FOE_MAGIC_GE_LAN, 0, 0, false, 0, false⟩
  dstXfrm := false
  ifindex := 2

def pass : Pass where
  skb := skb
  dev := ⟨['e', 't', 'h', '0'], 2, true, false, none, none, MTK_GMAC1_ID, false, 1000⟩
  hwPath := ⟨0x0200000000a0, 0x0200000000b0, 0, 0, false, false, false, 0x0200000000a0, none⟩
  env := ⟨fun _ => none, false, none, 0⟩
  kzalloc := true
  locked := true

def flow : Flow router engine .ipv6 where
  ingress := ingress
  nat := nat
  pass := pass
  before := State.withFoe ⟨McastEvents.State.init, fun _ _ => []⟩ skb.desc foe
  later := none
  learned := ⟨by decide, by decide, by decide⟩
  carried := rfl
  fresh := by decide
  ended := fun _ absent => absurd absent (Option.not_mem_none _)

end Hairpin

theorem hairpin_half_translated :
    ∃ entry, Hairpin.flow.committed = some entry ∧
      ppeForward .ipv6 entry Hairpin.flow.ingress =
        { Hairpin.flow.egress with saddr := Hairpin.flow.ingress.saddr } ∧
      ppeForward .ipv6 entry Hairpin.flow.ingress ≠ Hairpin.flow.egress := by
  have evaluated : (Hairpin.flow.committed.map fun entry =>
      ppeForward .ipv6 entry Hairpin.flow.ingress) =
        some { Hairpin.flow.egress with saddr := Hairpin.flow.ingress.saddr } := by
    decide
  obtain ⟨entry, committed, forwarded⟩ := Option.map_eq_some_iff.mp evaluated
  refine ⟨entry, committed, forwarded, ?_⟩
  rw [forwarded]
  decide

theorem hairpin_translates_iff :
    ∃ entry, Hairpin.flow.committed = some entry ∧
      (ppeForward .ipv6 entry Hairpin.flow.ingress = Hairpin.flow.egress ↔
        Hairpin.flow.Holds) := by
  have committed : Hairpin.flow.committed.isSome = true := by decide
  obtain ⟨entry, written⟩ := Option.isSome_iff_exists.mp committed
  exact ⟨entry, written, bind_translates_iff Hairpin.flow written⟩

end OpenwrtSource.Hnat.BindTranslation
