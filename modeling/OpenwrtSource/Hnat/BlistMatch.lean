import OpenwrtSource.Lib.LeadingBits
import OpenwrtSource.Hnat.McastEvents

/-!
# The two matchers of the multicast blacklist

`hnat_mcast_ip_match_blist` picks the groups that a new entry unbinds, and
`hnat_mcast_chk_blist` the packets that are not bound.  The entries come from
`hnat_mcast_blist_handle`, which keeps the IPv4 mask of the length that it is
given, also for an IPv6 address, and from the debugfs file, which keeps none.
-/

namespace OpenwrtSource.Hnat.BlistMatch

open Lib.LeadingBits Hnat.Foe Hnat.McastTable Hnat.McastEvents

inductive BlistWriter where
  /-- `hnat_mcast_blist_handle`, with the length of the range. -/
  | handle (ip : GroupIp) (mask : BitVec 32)
  /-- `ipv4 add` or `ipv6 add`, of one address. -/
  | debugfs (ip : GroupIp)
  deriving DecidableEq

def debugfsEntry : GroupIp → McastBlistData
  | .ipv4 ip => ⟨true, ip, 0, 0⟩
  | .ipv6 ip => ⟨false, 0, ip, 0⟩

def BlistWriter.entry : BlistWriter → McastBlistData
  | .handle ip mask => hnatMcastBlistCreateEntry ip mask
  | .debugfs ip => debugfsEntry ip

def width : GroupIp → Nat
  | .ipv4 _ => 32
  | .ipv6 _ => 128

def BlistWriter.Proper : BlistWriter → Prop
  | .handle ip mask => mask.toNat ≤ width ip
  | .debugfs _ => True

def BlistWriter.Covers : BlistWriter → GroupIp → Prop
  | .handle (.ipv4 ip) mask, .ipv4 addr => AgreeOn mask.toNat addr ip
  | .handle (.ipv6 ip) mask, .ipv6 addr => AgreeOn mask.toNat addr ip
  | .debugfs ip, addr => addr = ip
  | _, _ => False

theorem blistMask_eq (mask : BitVec 32) :
    blistMask mask = leadingMask 32 (32 - (32 - mask).toNat % 32) := by
  have shifted : ∀ count : Fin 32,
      ((4294967295 <<< count.val : Nat) : BitVec 32) = BitVec.allOnes 32 <<< count.val := by
    decide
  have small : (32 - mask).toNat % 32 < 32 := Nat.mod_lt _ (by decide)
  have back : 32 - (32 - (32 - mask).toNat % 32) = (32 - mask).toNat % 32 := by omega
  unfold leadingMask
  rw [back]
  exact shifted ⟨_, small⟩

theorem blistMask_of_pos {mask : BitVec 32} (pos : mask ≠ 0) (fits : mask.toNat ≤ 32) :
    blistMask mask = leadingMask 32 mask.toNat := by
  have nonzero : mask.toNat ≠ 0 := fun zero => pos (BitVec.eq_of_toNat_eq zero)
  have count : 32 - (32 - mask).toNat % 32 = mask.toNat := by
    rw [BitVec.toNat_sub, show (32 : BitVec 32).toNat = 32 from rfl]
    omega
  rw [blistMask_eq, count]

theorem blistMask_zero : blistMask 0 = BitVec.allOnes 32 := by decide

theorem le_blistMask (mask : BitVec 32) : 2 ^ 31 ≤ (blistMask mask).toNat := by
  have small : (32 - mask).toNat % 32 < 32 := Nat.mod_lt _ (by decide)
  have top : (blistMask mask).getMsbD 0 = true := by
    rw [blistMask_eq, getMsbD_leadingMask (by omega), decide_eq_true_iff]
    omega
  exact BitVec.le_toNat_of_msb_true top

theorem matchIpv6Words_zero (words : List (BitVec 32 × BitVec 32)) :
    matchIpv6Words words 0 = true := by
  cases words with
  | nil => rfl
  | cons pair rest => simp [matchIpv6Words]

theorem matchIpv6Words_full (words : List (BitVec 32 × BitVec 32)) (remaining : Nat)
    (full : 32 * words.length ≤ remaining) :
    matchIpv6Words words remaining = true ↔ ∀ pair ∈ words, pair.1 = pair.2 := by
  induction words generalizing remaining with
  | nil => simp [matchIpv6Words]
  | cons pair rest ih =>
    rw [List.length_cons] at full
    have some : remaining ≠ 0 := by omega
    have whole : remaining ≥ 32 := by omega
    have ones : ∀ word : BitVec 32, word &&& 0xffffffff = word := fun _ => BitVec.and_allOnes
    simp only [matchIpv6Words, some, whole, if_true, if_false, ones]
    rw [List.forall_mem_cons, ← ih (remaining - 32) (by omega)]
    by_cases same : pair.1 = pair.2 <;> simp [same]

theorem ipv6Words_inj {a b : BitVec 128}
    (same : ∀ pair ∈ (ipv6Words a).zip (ipv6Words b), pair.1 = pair.2) : a = b := by
  simp only [ipv6Words, List.zip_cons_cons, List.zip_nil_right, List.forall_mem_cons,
    List.not_mem_nil, IsEmpty.forall_iff, implies_true, and_true] at same
  obtain ⟨w3, w2, w1, w0⟩ := same
  apply BitVec.eq_of_getLsbD_eq
  intro i inAddr
  have word : ∀ start, a.extractLsb' start 32 = b.extractLsb' start 32 →
      start ≤ i → i < start + 32 → a.getLsbD i = b.getLsbD i := by
    intro start same above below
    have bit := congrArg (fun word => word.getLsbD (i - start)) same
    simp only [BitVec.getLsbD_extractLsb', Nat.add_sub_of_le above] at bit
    simpa [show i - start < 32 by omega] using bit
  by_cases h3 : 96 ≤ i
  · exact word 96 w3 h3 (by omega)
  · by_cases h2 : 64 ≤ i
    · exact word 64 w2 h2 (by omega)
    · by_cases h1 : 32 ≤ i
      · exact word 32 w1 h1 (by omega)
      · exact word 0 w0 (by omega) (by omega)

theorem matchIpv6Words_blistMask (a b : BitVec 128) (mask : BitVec 32) :
    matchIpv6Words ((ipv6Words a).zip (ipv6Words b)) (blistMask mask).toNat = true ↔ a = b := by
  have long := le_blistMask mask
  rw [matchIpv6Words_full _ _ (by simp [ipv6Words]; omega)]
  constructor
  · exact ipv6Words_inj
  · rintro rfl
    simp [ipv6Words]

def BlistWriter.PicksGroup : BlistWriter → GroupIp → Prop
  | .handle (.ipv4 ip) mask, .ipv4 addr =>
    if mask = 0 then addr = ip else AgreeOn mask.toNat addr ip
  | .handle (.ipv4 ip) mask, .ipv6 _ => ip &&& blistMask mask = 0
  | .handle (.ipv6 ip) _, .ipv6 addr => addr = ip
  | .handle (.ipv6 ip) _, .ipv4 _ => ip = 0
  | .debugfs _, _ => True

def BlistWriter.PicksPacket : BlistWriter → GroupIp → Prop
  | .handle (.ipv4 ip) mask, .ipv4 addr =>
    if mask = 0 then addr = ip else AgreeOn mask.toNat addr ip
  | .handle (.ipv6 ip) _, .ipv6 addr => addr = ip
  | .debugfs (.ipv4 _), .ipv4 _ => True
  | .debugfs (.ipv6 ip), .ipv6 addr => addr = ip
  | _, _ => False

theorem and_blistMask_eq_iff {mask : BitVec 32} (fits : mask.toNat ≤ 32) (addr ip : BitVec 32) :
    addr &&& blistMask mask = ip &&& blistMask mask ↔
      if mask = 0 then addr = ip else AgreeOn mask.toNat addr ip := by
  by_cases zero : mask = 0
  · rw [if_pos zero, zero, blistMask_zero, BitVec.and_allOnes, BitVec.and_allOnes]
  · rw [if_neg zero, blistMask_of_pos zero fits]
    exact and_leadingMask_eq_iff fits addr ip

theorem ipMatchBlist_entry (group : Group) (writer : BlistWriter) (proper : writer.Proper) :
    hnatMcastIpMatchBlist group writer.entry = true ↔ writer.PicksGroup group.ip := by
  unfold hnatMcastIpMatchBlist
  cases writer with
  | handle ip mask =>
    cases ip with
    | ipv4 ip =>
      simp only [BlistWriter.entry, hnatMcastBlistCreateEntry, if_true, beq_iff_eq]
      cases group.ip with
      | ipv4 addr => exact and_blistMask_eq_iff proper addr ip
      | ipv6 addr =>
        rw [show (0 : BitVec 32) &&& blistMask mask = 0 from BitVec.zero_and]
        exact eq_comm
    | ipv6 ip =>
      simp only [BlistWriter.entry, hnatMcastBlistCreateEntry, Bool.false_eq_true, if_false,
        matchIpv6Words_blistMask]
      cases group.ip with
      | ipv4 addr => exact eq_comm
      | ipv6 addr => rfl
  | debugfs ip =>
    cases ip with
    | ipv4 ip => simp [BlistWriter.entry, debugfsEntry, BlistWriter.PicksGroup]
    | ipv6 ip =>
      simp [BlistWriter.entry, debugfsEntry, matchIpv6Words_zero, BlistWriter.PicksGroup]

theorem chkBlist_entry (entry : FoeEntry) (addr : GroupIp) (flow : foeGroupIp entry = some addr)
    (writer : BlistWriter) (proper : writer.Proper) :
    hnatMcastChkBlist [writer.entry] entry = true ↔ writer.PicksPacket addr := by
  unfold hnatMcastChkBlist
  rw [flow]
  cases writer with
  | handle ip mask =>
    cases ip with
    | ipv4 ip =>
      cases addr with
      | ipv4 addr =>
        simp only [BlistWriter.entry, hnatMcastBlistCreateEntry, List.any_cons, List.any_nil,
          Bool.or_false, Bool.true_and, beq_iff_eq]
        exact eq_comm.trans (and_blistMask_eq_iff proper addr ip)
      | ipv6 addr =>
        simp [BlistWriter.entry, hnatMcastBlistCreateEntry, BlistWriter.PicksPacket]
    | ipv6 ip =>
      cases addr with
      | ipv4 addr =>
        simp [BlistWriter.entry, hnatMcastBlistCreateEntry, BlistWriter.PicksPacket]
      | ipv6 addr =>
        simp only [BlistWriter.entry, hnatMcastBlistCreateEntry, List.any_cons, List.any_nil,
          Bool.or_false, Bool.not_false, Bool.true_and, beq_iff_eq]
        exact eq_comm
  | debugfs ip =>
    cases ip with
    | ipv4 ip =>
      cases addr <;> simp [BlistWriter.entry, debugfsEntry, BlistWriter.PicksPacket]
    | ipv6 ip =>
      cases addr with
      | ipv4 addr => simp [BlistWriter.entry, debugfsEntry, BlistWriter.PicksPacket]
      | ipv6 addr =>
        simp only [BlistWriter.entry, debugfsEntry, List.any_cons, List.any_nil,
          Bool.or_false, Bool.not_false, Bool.true_and, beq_iff_eq]
        exact eq_comm

/-- The address and the entry are such that the mask does not matter: a length
of zero is taken for 32, an IPv6 range for its first address, and the address
of a group of the other family for zero; the debugfs entries match everything. -/
def BlistWriter.MatchedRight : BlistWriter → GroupIp → Prop
  | .handle (.ipv4 ip) mask, .ipv4 addr => mask ≠ 0 ∨ addr = ip
  | .handle (.ipv4 ip) mask, .ipv6 _ => ip &&& blistMask mask ≠ 0
  | .handle (.ipv6 ip) mask, .ipv6 addr => ¬ AgreeOn mask.toNat addr ip ∨ addr = ip
  | .handle (.ipv6 ip) _, .ipv4 _ => ip ≠ 0
  | .debugfs (.ipv4 ip), .ipv4 addr => addr = ip
  | .debugfs (.ipv6 ip), .ipv6 addr => addr = ip
  | .debugfs _, _ => False

theorem matchedRight_iff (writer : BlistWriter) (addr : GroupIp) :
    (writer.PicksGroup addr ↔ writer.Covers addr) ∧ (writer.PicksPacket addr ↔ writer.Covers addr) ↔
      writer.MatchedRight addr := by
  cases writer with
  | handle ip mask =>
    cases ip with
    | ipv4 ip =>
      cases addr with
      | ipv4 addr =>
        by_cases zero : mask = 0
        · simp [BlistWriter.PicksGroup, BlistWriter.PicksPacket, BlistWriter.Covers,
            BlistWriter.MatchedRight, zero, agreeOn_zero]
        · simp only [BlistWriter.PicksGroup, BlistWriter.PicksPacket, BlistWriter.Covers,
            BlistWriter.MatchedRight, ne_eq, zero, if_false, not_false_eq_true, true_or,
            and_self]
      | ipv6 addr =>
        simp [BlistWriter.PicksGroup, BlistWriter.PicksPacket, BlistWriter.Covers,
          BlistWriter.MatchedRight]
    | ipv6 ip =>
      cases addr with
      | ipv4 addr =>
        simp [BlistWriter.PicksGroup, BlistWriter.PicksPacket, BlistWriter.Covers,
          BlistWriter.MatchedRight]
      | ipv6 addr =>
        have within : addr = ip → AgreeOn mask.toNat addr ip := fun same => same ▸ .refl _ _
        simp only [BlistWriter.PicksGroup, BlistWriter.PicksPacket, BlistWriter.Covers,
          BlistWriter.MatchedRight, and_self]
        tauto
  | debugfs ip =>
    cases ip <;> cases addr <;>
      simp [BlistWriter.PicksGroup, BlistWriter.PicksPacket, BlistWriter.Covers,
        BlistWriter.MatchedRight]

/-- Both matchers pick exactly the addresses of the range, and so the same ones,
where the mask does not matter, and nowhere else. -/
theorem blist_matchers_iff (writer : BlistWriter) (proper : writer.Proper) (group : Group)
    (entry : FoeEntry) (flow : foeGroupIp entry = some group.ip) :
    ((hnatMcastIpMatchBlist group writer.entry = true ↔ writer.Covers group.ip) ∧
        (hnatMcastChkBlist [writer.entry] entry = true ↔ writer.Covers group.ip) ∧
        hnatMcastIpMatchBlist group writer.entry = hnatMcastChkBlist [writer.entry] entry) ↔
      writer.MatchedRight group.ip := by
  rw [← matchedRight_iff, ← ipMatchBlist_entry group writer proper,
    ← chkBlist_entry entry _ flow writer proper]
  constructor
  · rintro ⟨groups, packets, _⟩
    exact ⟨groups, packets⟩
  · rintro ⟨groups, packets⟩
    refine ⟨groups, packets, ?_⟩
    rw [Bool.eq_iff_iff, groups, packets]

def groupOf (ip : GroupIp) : Group := hnatMcastCreateGroup (hnatMcastGetMacFromMdb ip) ip

def ipv4Flow (ip : BitVec 32) : FoeEntry := Ipv4Hnapt.dip.set ip FoeEntry.zero

def ipv6Flow (ip : BitVec 128) : FoeEntry :=
  Ipv65tRoute.ipv6Dip.set ip (Bfib1.pktType.set IPV6_5T_ROUTE FoeEntry.zero)

theorem blist_matchers_iff_ipv4Range :
    (BlistWriter.handle (.ipv4 0xef000000) 8).Covers (.ipv4 0xef010203) ∧
      hnatMcastIpMatchBlist (groupOf (.ipv4 0xef010203))
          (hnatMcastBlistCreateEntry (.ipv4 0xef000000) 8) = true ∧
      hnatMcastChkBlist [hnatMcastBlistCreateEntry (.ipv4 0xef000000) 8]
          (ipv4Flow 0xef010203) = true := by
  have covers : (BlistWriter.handle (.ipv4 0xef000000) 8).Covers (.ipv4 0xef010203) := by
    intro i inRange
    revert i
    decide
  have right := (blist_matchers_iff (.handle (.ipv4 0xef000000) 8)
    (show (8 : BitVec 32).toNat ≤ 32 by decide) (groupOf (.ipv4 0xef010203))
    (ipv4Flow 0xef010203) (by decide)).mpr (.inl (by decide))
  exact ⟨covers, right.1.mpr covers, right.2.1.mpr covers⟩

/-- The group `ff0e::1` is in the range `ff0e::/16` of an entry, and neither
matcher picks it; an address added in debugfs blocks every packet of its family. -/
theorem blist_matchers_wrong :
    ((BlistWriter.handle (.ipv6 (0xff0e <<< 112)) 16).Covers (.ipv6 (0xff0e <<< 112 + 1)) ∧
      hnatMcastIpMatchBlist (groupOf (.ipv6 (0xff0e <<< 112 + 1)))
          (BlistWriter.handle (.ipv6 (0xff0e <<< 112)) 16).entry = false ∧
      hnatMcastChkBlist [(BlistWriter.handle (.ipv6 (0xff0e <<< 112)) 16).entry]
          (ipv6Flow (0xff0e <<< 112 + 1)) = false) ∧
    ¬ (BlistWriter.debugfs (.ipv4 0xef010203)).Covers (.ipv4 0xe00000fb) ∧
      hnatMcastChkBlist [(BlistWriter.debugfs (.ipv4 0xef010203)).entry]
          (ipv4Flow 0xe00000fb) = true := by
  refine ⟨⟨?_, by decide, by decide⟩, by simp [BlistWriter.Covers], by decide⟩
  intro i inRange
  revert i
  decide

end OpenwrtSource.Hnat.BlistMatch
