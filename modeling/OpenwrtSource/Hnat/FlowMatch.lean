import OpenwrtSource.Hnat.FlowKeys
import OpenwrtSource.Lib.BitField

/-!
# The lookup of a stored flow

`hnat_flow_entry_match` compares the bytes from the source address on, up to an
offset that it takes from the layout of the packet type, less the four bytes of
`info_blk1`.  The offset is one within the layout already, so the comparison
ends four bytes early, before the ports.
-/

namespace OpenwrtSource.Hnat.FlowMatch

open Lib.WordBytes Hnat.Foe Hnat.BindEntry Hnat.FlowKeys

/-- `offsetof(struct hnat_ipv4_hnapt, info_blk2)`, behind two addresses and the ports. -/
def offsetofInfoBlk2 : Nat := 12

/-- `offsetof(struct hnat_ipv6_5t_route, resv1)`. -/
def offsetofResv1 : Nat := 36

def matchLen (pktType : FoeIpAct) : Option Nat :=
  if isIpv4Match pktType then some offsetofInfoBlk2
  else if isIpv6Grp pktType then some offsetofResv1
  else none

/-- The same packet type, the same UDP bit and the same key fields. -/
structure SameFlow (entry data : FoeEntry) : Prop where
  pktType : pktTypeOf entry = pktTypeOf data
  udp : Bfib1.udp.get entry = Bfib1.udp.get data
  key : ∀ word ∈ flowWords (pktTypeOf entry), entry word = data word

/-- The comparison finds no difference: neither in the UDP bit nor in the addresses. -/
def SameEnds (entry data : FoeEntry) : Prop :=
  Bfib1.udp.get entry = Bfib1.udp.get data ∧
    ∀ word ∈ addrWords (pktTypeOf entry), entry word = data word

/-- The words of the key that hold no address: the ports of the types that have them. -/
def portWords (pktType : FoeIpAct) : List (Fin 32) :=
  (flowWords pktType).filter fun word => !(addrWords pktType).contains word

/-- Two entries of the same ends have the same type and the same ports, and two of
a type that the lookup has no case for do not have the same key. -/
def ToldApart (entry data : FoeEntry) : Prop :=
  if isMatched (pktTypeOf entry) then
    SameEnds entry data →
      pktTypeOf entry = pktTypeOf data ∧ ∀ word ∈ portWords (pktTypeOf entry), entry word = data word
  else ¬ SameFlow entry data

section

variable {entry data : FoeEntry}

theorem mem_flowWords_iff : ∀ t : FoeIpAct, isMatched t = true → ∀ word,
    word ∈ flowWords t ↔ word ∈ addrWords t ∨ word ∈ portWords t := by
  decide

theorem sameFlow_iff (matched : isMatched (pktTypeOf entry) = true) : SameFlow entry data ↔
    SameEnds entry data ∧ pktTypeOf entry = pktTypeOf data ∧
      ∀ word ∈ portWords (pktTypeOf entry), entry word = data word := by
  have split := mem_flowWords_iff _ matched
  constructor
  · rintro ⟨pktType, udp, key⟩
    exact ⟨⟨udp, fun word inAddr => key word ((split word).mpr (.inl inAddr))⟩, pktType,
      fun word inPorts => key word ((split word).mpr (.inr inPorts))⟩
  · rintro ⟨⟨udp, ends⟩, pktType, ports⟩
    refine ⟨pktType, udp, fun word inKey => ?_⟩
    obtain inAddr | inPorts := (split word).mp inKey
    · exact ends word inAddr
    · exact ports word inPorts

end

/-- The lookup says whether two entries are of one flow exactly where the
comparison of the ends is enough to tell. -/
theorem hnatFlowEntryMatch_exact_iff (entry data : FoeEntry) :
    (hnatFlowEntryMatch entry data = true ↔ SameFlow entry data) ↔ ToldApart entry data := by
  unfold ToldApart
  cases matched : isMatched (pktTypeOf entry) with
  | true =>
    have ends : hnatFlowEntryMatch entry data = true ↔ SameEnds entry data := by
      rw [hnatFlowEntryMatch_iff, matched]
      exact and_iff_right rfl
    rw [ends, sameFlow_iff matched, if_pos rfl]
    exact iff_self_and
  | false =>
    have never : ¬ hnatFlowEntryMatch entry data = true := by
      rw [hnatFlowEntryMatch_iff, matched]
      exact fun found => absurd found.1 (by decide)
    rw [if_neg Bool.false_ne_true]
    exact iff_false_left never

def tcpFlow (sport dport : BitVec 16) : FoeEntry :=
  Bfib1.pktType.set IPV4_HNAPT (Ipv4Hnapt.sip.set 0xc0a80102 (Ipv4Hnapt.dip.set 0x0a000001
    (Ipv4Hnapt.sport.set sport (Ipv4Hnapt.dport.set dport FoeEntry.zero))))

theorem hnatFlowEntryMatch_other_ports :
    ¬ (hnatFlowEntryMatch (tcpFlow 1000 80) (tcpFlow 2000 443) = true ↔
      SameFlow (tcpFlow 1000 80) (tcpFlow 2000 443)) := by
  intro told
  have same := (told.mp (by decide)).key 3 (by decide)
  exact absurd same (by decide)

end OpenwrtSource.Hnat.FlowMatch
