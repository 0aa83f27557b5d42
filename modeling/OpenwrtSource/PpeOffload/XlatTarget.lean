import OpenwrtSource.PpeOffload.XlatFlow

/-!
# The entry that a 464XLAT flow is taken for

The search compares the ports and one address.  The other address of the flow's first form
is read from the entry that is found, so that entry has to be the flow's own.
-/

namespace OpenwrtSource.PpeOffload.XlatTarget

open Lib.BitField Hnat.Foe
open PpeOffload.TunnelTeardown (L4proto MTK_PPE_ENTRIES)
open PpeOffload.XlatFlow

abbrev Clat := BitVec 32 → BitVec 128 → Prop

/-- The tuple is that of the flow's packets before the CLAT has translated them.  Servers are
translated by the NAT64 /96. -/
def Untranslated (eth : MtkEth) (clat : Clat) (rule : FlowRule) (ports : BitVec 16 × BitVec 16)
    (tuple : CtTuple) : Prop :=
  tuple.protonum = rule.l4proto ∧ tuple.srcPort = ports.1 ∧ tuple.dstPort = ports.2 ∧
    match rule.addrs with
    | .ipv4 src dst =>
      tuple.src = .in6 (eth.nat64.extractLsb' 32 96 ++ src) ∧
        ∃ host, tuple.dst = .in6 host ∧ clat dst host
    | .ipv6 src dst =>
      (∃ host, tuple.src = .ip host ∧ clat host src) ∧
        ∃ server, tuple.dst = .ip server ∧ eth.nat64.extractLsb' 32 96 ++ server = dst

/-- Whenever the flow is offloaded, it is matched by its own first form, and the entry taken for
it was its own. -/
structure Right (kernel : Kernel) (eth : MtkEth) (clat : Clat) (rule : FlowRule)
    (ppeIndex : Nat) : Prop where
  key : ∀ out ports, mtkFlowOffloadReplace kernel eth rule ppeIndex = .ok out →
    rule.ports = some ports → Untranslated eth clat rule ports (mtkFoeToCtTuple out.data)
  taken : ∀ out ports target, mtkFlowOffloadReplace kernel eth rule ppeIndex = .ok out →
    rule.ports = some ports → findTarget eth rule ports = some target →
      Untranslated eth clat rule ports (mtkFoeToCtTuple (eth.ppe target.1 target.2))

/-- The place is in the tables and holds an unbound entry that agrees with the flow in what the
search compares. -/
def Agrees (eth : MtkEth) (rule : FlowRule) (ports : BitVec 16 × BitVec 16) (place : Place) :
    Prop :=
  place.1 < eth.ppeNum ∧
    isTarget eth (searchSide rule) (searchData eth rule (withPorts ports)) place = true

def Sole (eth : MtkEth) (rule : FlowRule) (ports : BitVec 16 × BitVec 16) (target : Place) :
    Prop :=
  Agrees eth rule ports target ∧ ∀ place, Agrees eth rule ports place → place = target

/-- The entry has the flow's protocol, and the address that is not compared is translated to
the flow's. -/
def Own (clat : Clat) (rule : FlowRule) (hwe : FoeEntry) : Prop :=
  protonumOf hwe = rule.l4proto ∧
    match rule.addrs with
    | .ipv4 _ dst => clat dst (Ipv65tRoute.ipv6Dip.get hwe)
    | .ipv6 src _ => clat (Ipv4Hnapt.sip.get hwe) src

structure Passes (kernel : Kernel) (eth : MtkEth) (rule : FlowRule)
    (ports : BitVec 16 × BitVec 16) (target : Place) : Prop where
  admitted : Admitted rule
  generation : searchSide rule = false → eth.v3 = true
  unmarked : ∀ mark, eth.conntrack (keyTuple eth rule ports target) = some mark →
    mark &&& 0xff ≠ MTK_PPE_EXCEPTION_TAG
  mangle : kernel.mangle.isSome = true
  device : kernel.outputDevice.isSome = true

/-- The entry that alone agrees with the flow is its own, or the flow is refused anyway. -/
def Identified (kernel : Kernel) (eth : MtkEth) (clat : Clat) (rule : FlowRule) : Prop :=
  ∀ ports target, rule.ports = some ports → Sole eth rule ports target →
    Passes kernel eth rule ports target → Own clat rule (eth.ppe target.1 target.2)

section

variable {kernel : Kernel} {eth : MtkEth} {clat : Clat} {rule : FlowRule} {ppeIndex : Nat}
variable {ports : BitVec 16 × BitVec 16} {target : Place}

theorem findTarget_iff_sole :
    findTarget eth rule ports = some target ↔ Sole eth rule ports target := by
  constructor
  · intro found
    have filtered := find_eq_some_iff.mp found
    refine ⟨find_hit found, fun place agrees => ?_⟩
    have member : place ∈ (places eth).filter
        (isTarget eth (searchSide rule) (searchData eth rule (withPorts ports))) :=
      List.mem_filter.mpr ⟨mem_places.mpr agrees.1, agrees.2⟩
    rw [filtered] at member
    exact List.mem_singleton.mp member
  · rintro ⟨⟨inside, hit⟩, others⟩
    exact find_eq_some_iff.mpr (Lib.SoleHit.filter_eq_singleton (nodup_places eth)
      (mem_places.mpr inside) hit fun place member also =>
        others place ⟨mem_places.mp member, also⟩)

theorem agrees_tuple (agrees : Agrees eth rule ports target) :
    match rule.addrs with
    | .ipv4 src _ => mtkFoeToCtTuple (eth.ppe target.1 target.2) =
        ⟨protonumOf (eth.ppe target.1 target.2), .in6 (eth.nat64.extractLsb' 32 96 ++ src),
          .in6 (Ipv65tRoute.ipv6Dip.get (eth.ppe target.1 target.2)), ports.1, ports.2⟩
    | .ipv6 _ dst => mtkFoeToCtTuple (eth.ppe target.1 target.2) =
        ⟨protonumOf (eth.ppe target.1 target.2),
          .ip (Ipv4Hnapt.sip.get (eth.ppe target.1 target.2)), .ip (dst.extractLsb' 0 32),
          ports.1, ports.2⟩ := by
  have hit := agrees.2
  unfold isTarget searchSide searchData at hit
  cases addrs : rule.addrs with
  | ipv4 src dst =>
    rw [addrs] at hit
    simp only [if_true, Bool.and_eq_true, decide_eq_true_eq] at hit
    obtain ⟨-, ⟨⟨type, sip⟩, sport⟩, dport⟩ := hit
    dsimp only
    rw [toCtTuple_ipv6 (.inl type), sip, sport, dport]
    rfl
  | ipv6 src dst =>
    rw [addrs] at hit
    simp only [Bool.false_eq_true, if_false, Bool.and_eq_true, decide_eq_true_eq] at hit
    obtain ⟨-, ⟨⟨type, dip⟩, sport⟩, dport⟩ := hit
    dsimp only
    rw [toCtTuple_ipv4 (.inl type), dip, sport, dport]
    rfl

theorem offloadable_iff (flow : FromXlat eth rule) :
    mtkIs464xlatOffloadable eth (keyEntry kernel eth rule ports target) = true ↔
      (searchSide rule = false → eth.v3 = true) ∧
        ∀ mark, eth.conntrack (keyTuple eth rule ports target) = some mark →
          mark &&& 0xff ≠ MTK_PPE_EXCEPTION_TAG := by
  have type := (keyEntry_type ports target kernel flow).1
  rw [offloadType_xlat flow] at type
  have apart : MTK_PPE_PKT_TYPE_464XLAT_64 ≠ MTK_PPE_PKT_TYPE_464XLAT_46 := by decide
  unfold mtkIs464xlatOffloadable
  rw [keyEntry_tuple ports target kernel flow, type]
  cases side : searchSide rule <;> cases generation : eth.v3 <;>
    cases eth.conntrack (keyTuple eth rule ports target) <;> simp [apart]

theorem nat64_append {net dst : BitVec 128}
    (inside : dst.extractLsb' 32 96 = net.extractLsb' 32 96) :
    net.extractLsb' 32 96 ++ dst.extractLsb' 0 32 = dst := by
  rw [← inside]
  apply BitVec.eq_of_getLsbD_eq
  intro i inAddr
  rw [BitVec.getLsbD_append, BitVec.getLsbD_extractLsb', BitVec.getLsbD_extractLsb']
  by_cases low : i < 32
  · simp [low]
  · simp [low, show i - 32 < 96 by omega, show 32 + (i - 32) = i by omega]

theorem untranslated_keyTuple (flow : FromXlat eth rule)
    (own : Own clat rule (eth.ppe target.1 target.2)) :
    Untranslated eth clat rule ports (keyTuple eth rule ports target) := by
  obtain ⟨-, host⟩ := own
  unfold Untranslated keyTuple
  cases addrs : rule.addrs with
  | ipv4 src dst =>
    rw [addrs] at host
    exact ⟨rfl, rfl, rfl, rfl, _, rfl, host⟩
  | ipv6 src dst =>
    rw [addrs] at host
    exact ⟨rfl, rfl, rfl, ⟨_, rfl, host⟩, _, rfl, nat64_append (flow.nat64 src dst addrs)⟩

theorem untranslated_taken_iff (flow : FromXlat eth rule) (agrees : Agrees eth rule ports target) :
    Untranslated eth clat rule ports (mtkFoeToCtTuple (eth.ppe target.1 target.2)) ↔
      Own clat rule (eth.ppe target.1 target.2) := by
  have tuple := agrees_tuple agrees
  unfold Untranslated Own
  cases addrs : rule.addrs with
  | ipv4 src dst =>
    rw [addrs] at tuple
    dsimp only at tuple ⊢
    rw [tuple]
    constructor
    · rintro ⟨proto, -, -, -, host, same, translated⟩
      cases same
      exact ⟨proto, translated⟩
    · rintro ⟨proto, translated⟩
      exact ⟨proto, rfl, rfl, rfl, _, rfl, translated⟩
  | ipv6 src dst =>
    rw [addrs] at tuple
    dsimp only at tuple ⊢
    rw [tuple]
    constructor
    · rintro ⟨proto, -, -, ⟨host, same, translated⟩, -⟩
      cases same
      exact ⟨proto, translated⟩
    · rintro ⟨proto, translated⟩
      exact ⟨proto, rfl, rfl, ⟨_, rfl, translated⟩, _, rfl,
        nat64_append (flow.nat64 src dst addrs)⟩

end

/-- A 464XLAT flow is offloaded as itself exactly if the one entry that agrees with it in ports
and one address is its own. -/
theorem replace_right_iff (kernel : Kernel) (eth : MtkEth) (clat : Clat) (rule : FlowRule)
    (ppeIndex : Nat) (flow : FromXlat eth rule) :
    Right kernel eth clat rule ppeIndex ↔ Identified kernel eth clat rule := by
  constructor
  · intro right ports target given sole passes
    obtain ⟨mangle, mangled⟩ := Option.isSome_iff_exists.mp passes.mangle
    obtain ⟨output, device⟩ := Option.isSome_iff_exists.mp passes.device
    have found := findTarget_iff_sole.mpr sole
    have offloadable : mtkIs464xlatOffloadable eth (keyEntry kernel eth rule ports target) = true :=
      (offloadable_iff flow).mpr ⟨passes.generation, passes.unmarked⟩
    have done : mtkFlowOffloadReplace kernel eth rule ppeIndex =
        .ok ⟨finalEntry kernel eth rule ports target mangle output, target.1⟩ :=
      (replace_ok_iff flow _).mpr ⟨passes.admitted, ports, given, target, mangle, output, found,
        offloadable, mangled, device, rfl⟩
    exact (untranslated_taken_iff flow sole.1).mp (right.taken _ ports target done given found)
  · intro identified
    have own : ∀ out ports target, mtkFlowOffloadReplace kernel eth rule ppeIndex = .ok out →
        rule.ports = some ports → findTarget eth rule ports = some target →
          Own clat rule (eth.ppe target.1 target.2) := by
      intro out ports target done given found
      obtain ⟨admitted, _, sameGiven, _, mangle, output, sameFound, offloadable, mangled, device,
        -⟩ := (replace_ok_iff flow out).mp done
      cases given.symm.trans sameGiven
      cases found.symm.trans sameFound
      obtain ⟨generation, unmarked⟩ := (offloadable_iff flow).mp offloadable
      exact identified ports target given (findTarget_iff_sole.mp found)
        ⟨admitted, generation, unmarked, by rw [mangled]; rfl, by rw [device]; rfl⟩
    constructor
    · intro out ports done given
      obtain ⟨-, _, sameGiven, target, mangle, output, found, -, -, device, rfl⟩ :=
        (replace_ok_iff flow out).mp done
      cases given.symm.trans sameGiven
      rw [finalEntry_tuple ports target kernel flow mangle device]
      exact untranslated_keyTuple flow (own _ ports target done given found)
    · intro out ports target done given found
      exact (untranslated_taken_iff flow (findTarget_iff_sole.mp found).1).mpr
        (own out ports target done given found)

def strangerEth : MtkEth :=
  ethWith (learnedEntry 1 0x0064ff9b0000000000000000c6336401 0x20010db8000000000000000000000077)

def hostClat : Clat := fun addr host =>
  addr = 0xc0000004 ∧ host = 0x20010db8000000000000000000000464

theorem replace_right_iff_stranger :
    Right plainDriver strangerEth hostClat clatRule 0 ↔
      Identified plainDriver strangerEth hostClat clatRule :=
  replace_right_iff plainDriver strangerEth hostClat clatRule 0 (clatRule_fromXlat _)

/-- The connection is bound to the other host's address. -/
theorem strangerTaken : ¬ ∀ (kernel : Kernel) (eth : MtkEth) (clat : Clat) (rule : FlowRule)
    (ppeIndex : Nat), FromXlat eth rule → Right kernel eth clat rule ppeIndex := by
  intro always
  have flow : FromXlat strangerEth clatRule := clatRule_fromXlat _
  have found : findTarget strangerEth clatRule (443, 50000) = some firstPlace :=
    find_ethWith (by decide)
  have done : mtkFlowOffloadReplace plainDriver strangerEth clatRule 0 =
      .ok ⟨finalEntry plainDriver strangerEth clatRule (443, 50000) firstPlace id
        (Ipv66rd.iblk2.dp.set NR_GMAC1_PORT), 0⟩ := clatRule_offloaded found
  have right := always plainDriver strangerEth hostClat clatRule 0 flow
  have tuple := finalEntry_tuple (443, 50000) firstPlace plainDriver flow id rfl
  have key := right.key _ (443, 50000) done rfl
  dsimp only at key
  rw [tuple] at key
  obtain ⟨-, -, -, -, host, same, -, translated⟩ := key
  have stranger : Ipv65tRoute.ipv6Dip.get (strangerEth.ppe 0 firstPlace.2) ≠
      0x20010db8000000000000000000000464 := by decide
  exact stranger (InetAddr.in6.inj same ▸ translated)

end OpenwrtSource.PpeOffload.XlatTarget
