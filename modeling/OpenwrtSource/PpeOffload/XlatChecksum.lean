import OpenwrtSource.PpeOffload.XlatFlow

/-!
# The header sum of a 6-to-4 flow

The PPE puts an IPv4 header before the packets of a 6-to-4 flow.  It gets the sum of the
words that it knows in advance with the entry, and adds the length and the identification,
from NETSYS v3 on the TOS as well.
-/

namespace OpenwrtSource.PpeOffload.XlatChecksum

open Lib.BitField Lib.OnesComplement Hnat.Foe Hnat.BindPacket Hnat.ChecksumBase PpeOffload.XlatFlow

def engineVersion (eth : MtkEth) : MtkHnatVersion :=
  if eth.v3 then .MTK_HNAT_V3 else .MTK_HNAT_V2

theorem newerThanV2_engineVersion (eth : MtkEth) : (engineVersion eth).newerThanV2 = eth.v3 := by
  unfold engineVersion
  cases eth.v3 <;> rfl

/-- The header that the PPE makes of an entry, for a packet with these fields. -/
def emitted (eth : MtkEth) (new : Replacement) (entry : FoeEntry) : Ipv4Header where
  iph :=
    { ihl := 5
      tos := if eth.v3 then new.tos else Ipv66rd.dscp.get entry
      totLen := new.totLen
      id := new.id
      fragOff := (flag.get entry).setWidth 16 <<< 13
      ttl := Ipv66rd.ttl.get entry
      protocol := if protonumOf entry = .udp then IPPROTO_UDP else IPPROTO_TCP
      check := 0
      saddr := Ipv66rd.tunnelSipv4.get entry
      daddr := Ipv66rd.tunnelDipv4.get entry }
  options := []

def Blank (version : MtkHnatVersion) (iph : Iphdr) : Prop :=
  total (iph.check :: (fieldsOf iph).words version) = 0

theorem toNat_not_finish (n : Nat) : (~~~ finish 16 n).toNat = foldAll 16 n := by
  have finished := toNat_finish (by omega : 0 < 16) n
  rw [BitVec.toNat_not]
  omega

theorem completed_of_blank {version : MtkHnatVersion} {hdr : Ipv4Header}
    (blank : Blank version hdr.iph) (unchecked : hdr.iph.check = 0) (new : Replacement) :
    completed version (~~~ ipFastCsum hdr) new = ipFastCsum (rewritten version new hdr) := by
  have first := firstWord_pos hdr.iph.ihl
  have stays : total hdr.words = total (hdr.rest version) := by
    rw [total_words version hdr, show total (_ :: _) = 0 from blank, Nat.zero_add]
  have positive := total_words_pos hdr
  have summed : ipFastCsum hdr = finish 16 (total (hdr.rest version)) := by
    have same : ({ hdr with iph := { hdr.iph with check := 0 } } : Ipv4Header) = hdr := by
      rw [← unchecked]
    rw [ipFastCsum, same, checksum, stays]
  have base : (~~~ ipFastCsum hdr).toNat ≡ total (hdr.rest version) [MOD 2 ^ 16 - 1] := by
    rw [summed, toNat_not_finish]
    exact foldAll_modEq 16 _
  have based : 0 < (~~~ ipFastCsum hdr).toNat := by
    rw [summed, toNat_not_finish, Nat.pos_iff_ne_zero, ne_eq, foldAll_eq_zero_iff]
    omega
  rw [ipFastCsum_rewritten, completed, checksum, total_append]
  exact finish_eq_of_same (by omega) (by omega) (by omega) (Nat.ModEq.add_right _ base)

/-- The entry holds the sum for the header that it describes. -/
structure Summed (eth : MtkEth) (entry : FoeEntry) : Prop where
  sum : Ipv66rd.hdrChksum.get entry =
    ~~~ ipFastCsum ⟨csumHeader eth (Ipv66rd.tunnelSipv4.get entry) (Ipv66rd.tunnelDipv4.get entry)
      entry, []⟩
  unfragmented : (flag.get entry).setWidth 16 <<< 13 = IP_DF

section

variable {kernel : Kernel} {eth : MtkEth} {rule : FlowRule}

theorem Summed.of_keeps {entry entry' : FoeEntry} (summed : Summed eth entry)
    (keeps : KeepsBits (headBits 13) entry entry') : Summed eth entry' := by
  have proto := (type_of_keeps keeps).2
  constructor
  · unfold csumHeader
    rw [proto, keeps.get _ (show Ipv66rd.hdrChksum.Within (headBits 13) by decide),
      keeps.get _ (show Ipv66rd.tunnelSipv4.Within (headBits 13) by decide),
      keeps.get _ (show Ipv66rd.tunnelDipv4.Within (headBits 13) by decide),
      keeps.get _ (show Ipv66rd.dscp.Within (headBits 13) by decide),
      keeps.get _ (show Ipv66rd.ttl.Within (headBits 13) by decide)]
    exact summed.sum
  · rw [keeps.get _ (show flag.Within (headBits 13) by decide)]
    exact summed.unfragmented

theorem summed_setIpv4Addr (kernel : Kernel) (eth : MtkEth) (egress : Bool) (data : MtkFlowData)
    {entry : FoeEntry} (type : mtkGetIb1PktType entry = MTK_PPE_PKT_TYPE_IPV6_6RD)
    (unfragmented : (flag.get entry).setWidth 16 <<< 13 = IP_DF) :
    Summed eth (mtkFlowSetIpv4Addr kernel eth egress data entry) := by
  rw [setIpv4Addr_6rd kernel eth egress data type]
  constructor
  · unfold csumHeader protonumOf
    simp (disch := decide) only [Field.get_set, Field.get_set_of_apart]
  · simp (disch := decide) only [Field.get_set_of_apart]
    exact unfragmented

theorem flag_setUdf (value : BitVec 32) (entry : FoeEntry) :
    flag.get (udf.set value entry) = value.extractLsb' 0 8 := by
  have low : ∀ other : FoeEntry, flag.get other = (udf.get other).extractLsb' 0 8 := by
    intro other
    apply BitVec.eq_of_getLsbD_eq
    intro i inByte
    unfold Field.get flag udf
    simp [inByte, show i < 32 by omega]
  rw [low, Field.get_set]

theorem keyEntry_unfragmented (kernel : Kernel) (flow : FromXlat eth rule) {src dst : BitVec 32}
    (addrs : rule.addrs = .ipv4 src dst) (ports : BitVec 16 × BitVec 16) (target : Place) :
    (flag.get (keyEntry kernel eth rule ports target)).setWidth 16 <<< 13 = IP_DF := by
  have type := prepared64 kernel flow addrs
  have marked := marked64_keeps rule (preparedEntry kernel eth rule)
  have keeps := kernel.setIpv6_keeps (foundData eth rule (withPorts ports) target) _
    ((type_of_keeps marked).1.trans type)
  have entered : keyEntry kernel eth rule ports target =
      kernel.setIpv6Tuple (foundData eth rule (withPorts ports) target)
        (marked64 rule (preparedEntry kernel eth rule)) := by
    unfold keyEntry builtEntry
    rw [addrs]
    rfl
  have bits : ∀ low : BitVec 32, low.extractLsb' 0 8 = 2 →
      (low ||| MTK_FOE_UDF_6RDA_IP4_ID_INC_EN).extractLsb' 0 8 = 2 := by
    intro low two
    rw [BitVec.extractLsb'_or, two]
    decide
  have flagged : flag.get (marked64 rule (preparedEntry kernel eth rule)) = 2 := by
    unfold marked64
    rw [flag_setUdf]
    apply bits
    have low := flag_setUdf (udf.get (flag.set ((IP_DF >>> 13).setWidth 8)
      (Ipv66rd.ttl.set (ttlOr rule.ttl) (preparedEntry kernel eth rule))))
      (flag.set ((IP_DF >>> 13).setWidth 8)
        (Ipv66rd.ttl.set (ttlOr rule.ttl) (preparedEntry kernel eth rule)))
    rw [← low, (Field.set_eq_self_iff udf _ _).mpr rfl, Field.get_set]
    decide
  rw [entered, keeps.get _ (show flag.Within (outside 1 9) by decide), flagged]
  decide

theorem fromXlat_of_sixToFour (sixToFour : offloadType eth rule = MTK_PPE_PKT_TYPE_464XLAT_64) :
    FromXlat eth rule ∧ ∃ src dst, rule.addrs = .ipv4 src dst := by
  have hnapt : MTK_PPE_PKT_TYPE_IPV4_HNAPT ≠ MTK_PPE_PKT_TYPE_464XLAT_64 := by decide
  have route : MTK_PPE_PKT_TYPE_IPV6_ROUTE_5T ≠ MTK_PPE_PKT_TYPE_464XLAT_64 := by decide
  have other : MTK_PPE_PKT_TYPE_464XLAT_46 ≠ MTK_PPE_PKT_TYPE_464XLAT_64 := by decide
  unfold offloadType at sixToFour
  split at sixToFour
  · rename_i xlat
    cases addrs : rule.addrs with
    | ipv4 src dst =>
      exact ⟨⟨xlat.1, xlat.2, fun _ _ six => by rw [addrs] at six; cases six⟩, src, dst, rfl⟩
    | ipv6 src dst =>
      rw [addrs] at sixToFour
      exact absurd sixToFour other
  · cases addrs : rule.addrs with
    | ipv4 src dst =>
      rw [addrs] at sixToFour
      exact absurd sixToFour hnapt
    | ipv6 src dst =>
      rw [addrs] at sixToFour
      exact absurd sixToFour route

theorem finalEntry_summed (kernel : Kernel) (flow : FromXlat eth rule) {src dst : BitVec 32}
    (addrs : rule.addrs = .ipv4 src dst) (ports : BitVec 16 × BitVec 16) (target : Place)
    (mangle : MtkFlowData → MtkFlowData) {output : FoeEntry → FoeEntry}
    (device : kernel.outputDevice = some output) :
    Summed eth (finalEntry kernel eth rule ports target mangle output) := by
  have type := (keyEntry_type ports target kernel flow).1
  have unfragmented := keyEntry_unfragmented kernel flow addrs ports target
  rw [offloadType_xlat flow] at type
  unfold searchSide at type
  rw [addrs] at type
  have first := summed_setIpv4Addr kernel eth false
    (ownData rule (foundData eth rule (withPorts ports) target)) type unfragmented
  have typeFirst := (type_of_keeps (setIpv4Addr_keeps kernel eth false
    (ownData rule (foundData eth rule (withPorts ports) target)) type)).1.trans type
  have second := summed_setIpv4Addr kernel eth true
    (mangle (ownData rule (foundData eth rule (withPorts ports) target))) typeFirst
    first.unfragmented
  unfold finalEntry setEgress tunnelEntry
  rw [addrs]
  exact (second.of_keeps (kernel.output_keeps output device _)).of_keeps (setEncap_keeps rule _)

theorem emitted_eq_rewritten {entry : FoeEntry} (summed : Summed eth entry) (new : Replacement) :
    emitted eth new entry = rewritten (engineVersion eth) new
      ⟨csumHeader eth (Ipv66rd.tunnelSipv4.get entry) (Ipv66rd.tunnelDipv4.get entry) entry,
        []⟩ := by
  unfold emitted rewritten csumHeader
  rw [summed.unfragmented, newerThanV2_engineVersion]
  cases eth.v3 <;> rfl

theorem csumHeader_blank (eth : MtkEth) (src dst : BitVec 32) (entry : FoeEntry) :
    Blank (engineVersion eth) (csumHeader eth src dst entry) := by
  unfold Blank fieldsOf Replacement.words csumHeader
  rw [newerThanV2_engineVersion]
  cases eth.v3 <;> rfl

end

/-- The sum in the committed entry of a 6-to-4 flow, completed by the engine, is the checksum of
the header that the engine emits. -/
theorem offloaded_checksum (kernel : Kernel) (eth : MtkEth) (rule : FlowRule) (ppeIndex : Nat)
    (out : MtkFlowEntry) (timestamp : BitVec 8) (shape : BitVec 32 → BitVec 32) (hwe : FoeEntry)
    (new : Replacement) (sixToFour : offloadType eth rule = MTK_PPE_PKT_TYPE_464XLAT_64)
    (done : mtkFlowOffloadReplace kernel eth rule ppeIndex = .ok out) :
    completed (engineVersion eth)
        (Ipv66rd.hdrChksum.get (mtkFoeEntryCommit timestamp shape hwe out.data)) new =
      ipFastCsum (emitted eth new (mtkFoeEntryCommit timestamp shape hwe out.data)) := by
  obtain ⟨flow, src, dst, addrs⟩ := fromXlat_of_sixToFour sixToFour
  obtain ⟨-, ports, -, target, mangle, output, -, -, -, device, rfl⟩ :=
    (replace_ok_iff flow out).mp done
  have summed := (finalEntry_summed kernel flow addrs ports target mangle device).of_keeps
    (commit_keeps timestamp shape hwe _)
  rw [emitted_eq_rewritten summed, summed.sum]
  exact completed_of_blank (csumHeader_blank eth _ _ _) rfl new

def learnedEth : MtkEth :=
  ethWith (learnedEntry 0 0x0064ff9b0000000000000000c6336401 0x20010db8000000000000000000000464)

theorem offloaded_checksum_learned :
    ∃ out, mtkFlowOffloadReplace plainDriver learnedEth clatRule 0 = .ok out ∧
      completed (engineVersion learnedEth)
          (Ipv66rd.hdrChksum.get (mtkFoeEntryCommit 7 id FoeEntry.zero out.data)) ⟨1500, 1, 0x10⟩ =
        ipFastCsum (emitted learnedEth ⟨1500, 1, 0x10⟩
          (mtkFoeEntryCommit 7 id FoeEntry.zero out.data)) := by
  have found : findTarget learnedEth clatRule (443, 50000) = some firstPlace :=
    find_ethWith (by decide)
  have done := clatRule_offloaded found
  exact ⟨_, done, offloaded_checksum plainDriver learnedEth clatRule 0 _ 7 id FoeEntry.zero
    ⟨1500, 1, 0x10⟩ (by decide) done⟩

end OpenwrtSource.PpeOffload.XlatChecksum
