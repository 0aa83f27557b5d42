import OpenwrtSource.Hnat.BindTranslation
import OpenwrtSource.Hnat.StationTeardown

/-!
# A neighbour that changes its MAC address

`foe_clear_entry` deletes the entries that send to the neighbour's address but to
another MAC address.  It takes the address that an entry sends to from one field
for each packet type; the direction of the entry decides too.
-/

namespace OpenwrtSource.Hnat.NeighPurge

open Hnat.Foe Hnat.McastTable Hnat.McastOffload Hnat.EntryUpdate Hnat.EntryDelete Hnat.Translation
open Hnat.BindPacket Hnat.BindEntry Hnat.BindTranslation Hnat.StationTeardown

def Decap (entry : FoeEntry) : Prop := Bfib1.rmt.get entry = 1

instance (entry : FoeEntry) : Decidable (Decap entry) := inferInstanceAs (Decidable (_ = _))

/-- The destination of the packets as they leave, in the outermost header. -/
def egressDip (entry : FoeEntry) : Option IpAddr :=
  let pktType := pktTypeOf entry
  if isIpv4Grp pktType then some (.ipv4 (Ipv4Hnapt.newDip.get entry))
  else if pktType = IPV4_DSLITE then
    some (if Decap entry then .ipv4 (Ipv4Dslite.dip.get entry)
      else .ipv6 (Ipv4Dslite.tunnelDipv6.get entry))
  else if pktType = IPV4_MAP_E then
    some (if Decap entry then .ipv4 (Ipv4Mape.newDip.get entry)
      else .ipv6 (Ipv4Dslite.tunnelDipv6.get entry))
  else if pktType = IPV6_3T_ROUTE ∨ pktType = IPV6_5T_ROUTE then
    some (.ipv6 (Ipv65tRoute.ipv6Dip.get entry))
  else if pktType = IPV6_6RD then
    some (if Decap entry then .ipv6 (Ipv66rd.ipv6Dip.get entry)
      else .ipv4 (Ipv66rd.tunnelDipv4.get entry))
  else if pktType = IPV6_HNAPT ∨ pktType = IPV6_HNAT then
    some (.ipv6 (if Ipv6Hnapt.egIpv6Dir.get entry = IPV6_SNAT then Ipv6Hnapt.ipv6Dip.get entry
      else Ipv6Hnapt.newIpv6Ip.get entry))
  else none

/-- The entry sends to the address, and the comparison looks at another one: at
the address before the translation of a MAP-E entry that removes the tunnel, or
at the new source of an entry that translates the source. -/
def Missed (entry : FoeEntry) : IpAddr → Prop
  | .ipv4 addr => pktTypeOf entry = IPV4_MAP_E ∧ Decap entry ∧
      Ipv4Mape.newDip.get entry = addr ∧ Ipv4Dslite.dip.get entry ≠ addr
  | .ipv6 addr => (pktTypeOf entry = IPV6_HNAPT ∨ pktTypeOf entry = IPV6_HNAT) ∧
      Ipv6Hnapt.egIpv6Dir.get entry = IPV6_SNAT ∧ Ipv6Hnapt.ipv6Dip.get entry = addr ∧
        Ipv6Hnapt.newIpv6Ip.get entry ≠ addr

instance (entry : FoeEntry) (addr : IpAddr) : Decidable (Missed entry addr) := by
  cases addr <;> exact inferInstanceAs (Decidable (_ ∧ _))

section

variable {entry : FoeEntry}

theorem addrCmp_dst {width : Nat} (foe : Option (BitVec width × BitVec width))
    (addr : BitVec width) :
    addrCmp foe addr ENTRY_CMP_DST = true ↔ foe.map Prod.snd = some addr := by
  have src : (ENTRY_CMP_DST &&& ENTRY_CMP_SRC != 0) = false := by decide
  have dst : (ENTRY_CMP_DST &&& ENTRY_CMP_DST != 0) = true := by decide
  unfold addrCmp
  cases foe with
  | none => simp
  | some pair =>
    simp only [src, dst, Bool.false_and, Bool.false_or, Bool.true_and, beq_iff_eq,
      Option.map_some, Option.some.injEq]

theorem entryMacCmp_dst (routed : pktTypeOf entry ≠ L2_BRIDGE) (mac : Mac) :
    entryMacCmp entry mac ENTRY_CMP_DST = true ↔ egressDmac entry = mac := by
  have src : (ENTRY_CMP_DST &&& ENTRY_CMP_SRC != 0) = false := by decide
  have dst : (ENTRY_CMP_DST &&& ENTRY_CMP_DST != 0) = true := by decide
  unfold egressDmac dmacOf entryMacCmp macCmpL2
  rw [if_neg routed, MacField.get_eq_iff]
  simp only [src, dst, Bool.false_and, Bool.false_or, Bool.true_and, Bool.and_eq_true, beq_iff_eq]
  cases isIpv4Grp (pktTypeOf entry) with
  | true => exact Iff.rfl
  | false => exact Iff.rfl

theorem pktType_cases : ∀ t : FoeIpAct,
    t = IPV4_HNAPT ∨ t = IPV4_HNAT ∨ t = IPV4_DSLITE ∨ t = IPV4_MAP_E ∨ t = IPV6_3T_ROUTE ∨
      t = IPV6_5T_ROUTE ∨ t = IPV6_6RD ∨ t = IPV6_HNAPT ∨ t = IPV6_HNAT ∨
      (isIpv4Grp t = false ∧ t ≠ IPV4_HNAPT ∧ t ≠ IPV4_HNAT ∧ t ≠ IPV4_DSLITE ∧ t ≠ IPV4_MAP_E ∧
        t ≠ IPV6_3T_ROUTE ∧ t ≠ IPV6_5T_ROUTE ∧ t ≠ IPV6_6RD ∧ t ≠ IPV6_HNAPT ∧
        t ≠ IPV6_HNAT) := by
  decide

theorem entryIpCmp_dst (addr : IpAddr) : entryIpCmp entry addr ENTRY_CMP_DST = true ↔
    match addr with
    | .ipv4 addr => (foeIpv4 entry).map Prod.snd = some addr
    | .ipv6 addr => (foeIpv6 entry).map Prod.snd = some addr := by
  cases addr with
  | ipv4 addr => exact addrCmp_dst _ addr
  | ipv6 addr => exact addrCmp_dst _ addr

theorem missed_iff (addr : IpAddr) : Missed entry addr ↔
    egressDip entry = some addr ∧ entryIpCmp entry addr ENTRY_CMP_DST = false := by
  rw [← Bool.not_eq_true, entryIpCmp_dst]
  obtain type | type | type | type | type | type | type | type | type | others :=
    pktType_cases (pktTypeOf entry)
  all_goals cases addr with
  | ipv4 addr =>
    simp +decide only [Missed, egressDip, foeIpv4, *]
    grind
  | ipv6 addr =>
    have sameDip : Ipv66rd.ipv6Dip = Ipv65tRoute.ipv6Dip := rfl
    simp +decide only [Missed, egressDip, foeIpv6, *]
    grind

end

section

variable (plat : Platform) (foeTimestamp : Nat → Nat → BitVec 8) (neigh : HnatNeighUpdateEvent)
  (table : FoeTable)

/-- No bound entry is left that sends to the neighbour under another MAC address. -/
def Purged (table : FoeTable) : Prop :=
  ∀ ppe hash, ppe < plat.ppeNum → hash < plat.foeEtryNum → stateOf (table ppe hash) = BIND →
    egressDip (table ppe hash) = some neigh.dip → egressDmac (table ppe hash) = neigh.ha

theorem routed_of_egressDip {entry : FoeEntry} {addr : IpAddr}
    (sends : egressDip entry = some addr) : pktTypeOf entry ≠ L2_BRIDGE := by
  intro bridged
  simp +decide [egressDip, bridged] at sends

theorem foeClearEntry_eq {ppe hash : Nat} (inPpe : ppe < plat.ppeNum)
    (inTable : hash < plat.foeEtryNum) (bound : stateOf (table ppe hash) = BIND) :
    foeClearEntry plat foeTimestamp [neigh] table ppe hash =
      if neighOutdates neigh (table ppe hash) then
        entryInvalidate (foeTimestamp ppe hash) (table ppe hash)
      else table ppe hash := by
  unfold foeClearEntry deleteBound
  simp [inPpe, inTable, bound]

theorem stateOf_foeClearEntry {ppe hash : Nat}
    (bound : stateOf (foeClearEntry plat foeTimestamp [neigh] table ppe hash) = BIND) :
    stateOf (table ppe hash) = BIND := by
  unfold foeClearEntry deleteBound at bound
  split at bound
  · rename_i picked
    exact picked.2.2.1
  · exact bound

/-- The entries are purged exactly when none of those that the comparison misses
has another MAC address. -/
theorem foeClearEntry_purges_iff :
    Purged plat neigh (foeClearEntry plat foeTimestamp [neigh] table) ↔
      ∀ ppe hash, ppe < plat.ppeNum → hash < plat.foeEtryNum →
        stateOf (table ppe hash) = BIND → Missed (table ppe hash) neigh.dip →
          egressDmac (table ppe hash) = neigh.ha := by
  constructor
  · intro purged ppe hash inPpe inTable bound missed
    obtain ⟨sends, unseen⟩ := (missed_iff neigh.dip).mp missed
    have kept := foeClearEntry_eq plat foeTimestamp neigh table inPpe inTable bound
    rw [if_neg (by simp [neighOutdates, unseen])] at kept
    have purgedHere := purged ppe hash inPpe inTable
    rw [kept] at purgedHere
    exact purgedHere bound sends
  · intro current ppe hash inPpe inTable stays sends
    have bound := stateOf_foeClearEntry plat foeTimestamp neigh table stays
    rw [foeClearEntry_eq plat foeTimestamp neigh table inPpe inTable bound] at stays sends ⊢
    split at stays
    · rw [stateOf_entryInvalidate] at stays
      exact absurd stays (by decide)
    · rename_i spared
      rw [if_neg spared] at sends ⊢
      by_cases missed : Missed (table ppe hash) neigh.dip
      · exact current ppe hash inPpe inTable bound missed
      · have seen : entryIpCmp (table ppe hash) neigh.dip ENTRY_CMP_DST = true := by
          rw [missed_iff, not_and, Bool.not_eq_false] at missed
          exact missed sends
        rw [← entryMacCmp_dst (routed_of_egressDip sends)]
        simp only [neighOutdates, seen, Bool.true_and, Bool.or_eq_true, Bool.not_eq_true',
          not_or, Bool.not_eq_false] at spared
        exact spared.2

end

/-! ## A translated source

A client of the LAN reaches a server of the WAN under the public address of the
router, and the server gets another MAC address. -/

namespace Snat

def ingress : Tuple 128 :=
  ⟨0xfd000000000000000000000000000010, 0x20010db8000000000000000000000080, IPPROTO_TCP,
    some ⟨1000, 80⟩⟩

def nat : NatRecord 128 := ⟨some ⟨0x20010db8000000000000000000000001, 2000⟩, none⟩

def egress : Tuple 128 := nat.translate ingress

def foe : FoeEntry :=
  Bfib1.state.set UNBIND (Bfib1.pktType.set IPV6_5T_ROUTE
    (Ipv65tRoute.ipv6Sip.set ingress.saddr (Ipv65tRoute.ipv6Dip.set ingress.daddr FoeEntry.zero)))

def skb : Skb :=
  { Hairpin.skb with
    ip6h := ⟨0, 0, 0, 0, 20, IPPROTO_TCP, 64, egress.saddr, egress.daddr⟩
    ports := egress.ports }

def pass : Pass :=
  { Hairpin.pass with
    skb := skb
    dev := ⟨['e', 't', 'h', '1'], 3, true, false, none, none, MTK_GMAC2_ID, false, 1000⟩ }

def table : FoeTable :=
  (skbToHnatInfo Hairpin.router Hairpin.engine pass
    (State.withFoe ⟨McastEvents.State.init, fun _ _ => []⟩ skb.desc foe)).2.mcast.hw.foeTable

def moved : HnatNeighUpdateEvent := ⟨.ipv6 ingress.daddr, 0x0200000000c0, NUD_REACHABLE⟩

end Snat

theorem snat_entry_not_purged :
    ¬ Purged Hairpin.engine Snat.moved
      (foeClearEntry Hairpin.engine (fun _ _ => 0) [Snat.moved] Snat.table) := by
  intro purged
  have current := purged 0 0 (by decide) (by decide) (by decide) (by decide)
  exact absurd current (by decide)

end OpenwrtSource.Hnat.NeighPurge
