import OpenwrtSource.Hnat.EntryUpdate
import OpenwrtSource.Lib.LeadingBits

/-!
# Tuples of the API, and the bucket of a tuple

`mtk_hnat_get_ppe_entry_by_index` reads a bound entry into a tuple, and
`mtk_hnat_calc_ppe_hash_index_by_tuple` makes the key of an entry from a tuple
and hashes it as the engine does.
-/

namespace OpenwrtSource.Hnat.ApiTuple

open Lib.BitField Lib.XorMaps Hnat.Foe Hnat.McastTable Hnat.McastOffload Hnat.BindPacket
open Hnat.EntryUpdate Hnat.EntryDelete

/-- `htonl` of the little-endian processors that have this engine. -/
def htonl (value : BitVec 32) : BitVec 32 :=
  value.extractLsb' 0 8 ++ value.extractLsb' 8 8 ++ value.extractLsb' 16 8 ++
    value.extractLsb' 24 8

structure Ipv6Words where
  ip0 : BitVec 32
  ip1 : BitVec 32
  ip2 : BitVec 32
  ip3 : BitVec 32
  deriving DecidableEq

structure HnatTuple where
  ppeIndex : BitVec 16
  hashIndex : BitVec 16
  ttl : BitVec 16
  psn : BitVec 16
  fqos : BitVec 16
  qid : BitVec 16
  vlanLayer : BitVec 16
  dscp : BitVec 16
  pktType : BitVec 16
  isUdp : BitVec 16
  fdrEn : BitVec 16
  rxid : BitVec 16
  fp : BitVec 16
  tid : BitVec 16
  isPrior : BitVec 16
  dmac : Mac
  smac : Mac
  vlan1 : BitVec 16
  vlan2 : BitVec 16
  pppoeId : BitVec 16
  ingSipv4 : BitVec 32
  ingDipv4 : BitVec 32
  ingSipv6 : Ipv6Words
  ingDipv6 : Ipv6Words
  egSipv4 : BitVec 32
  egDipv4 : BitVec 32
  egSipv6 : Ipv6Words
  egDipv6 : Ipv6Words
  ingSp : BitVec 16
  ingDp : BitVec 16
  egSp : BitVec 16
  egDp : BitVec 16
  ingDev : List Char
  egDev : List Char
  deriving DecidableEq

/-- The fields of `info_blk2` and of the engine, in one layout. -/
def tupleIblk2 (iblk2 : Iblk2) (winfo : WinfoBlock) (engine : EngineBlock) (entry : FoeEntry)
    (opt : HnatTuple) : HnatTuple :=
  { opt with
    fqos := if engine.tportId.get entry = NR_QDMA_TPORT then 1 else 0
    qid := (iblk2.qid.get entry).setWidth 16
    dscp := (iblk2.dscp.get entry).setWidth 16
    fdrEn := (iblk2.winfoi.get entry).setWidth 16
    rxid := (iblk2.rxid.get entry).setWidth 16
    fp := (iblk2.dp.get entry).setWidth 16
    tid := (winfo.tid.get entry).setWidth 16
    isPrior := (winfo.isPrior.get entry).setWidth 16 }

def mtkHnatFoeToTupleInfoBlk (entry : FoeEntry) (opt : HnatTuple) : HnatTuple :=
  let opt := { opt with
    isUdp := (Bfib1.udp.get entry).setWidth 16
    pktType := (pktTypeOf entry).setWidth 16
    vlanLayer := (Bfib1.vlanLayer.get entry).setWidth 16
    psn := (Bfib1.psn.get entry).setWidth 16
    ttl := (Bfib1.ttl.get entry).setWidth 16 }
  if pktTypeOf entry = IPV4_HNAPT then
    tupleIblk2 Ipv4Hnapt.iblk2 Ipv4Hnapt.winfo Ipv4Hnapt.engine entry opt
  else if pktTypeOf entry = IPV6_5T_ROUTE then
    tupleIblk2 Ipv65tRoute.iblk2 Ipv65tRoute.winfo Ipv65tRoute.engine entry opt
  else opt

def mtkHnatFoeToTupleL2 (entry : FoeEntry) (opt : HnatTuple) : HnatTuple :=
  let l2 := macCmpL2 (pktTypeOf entry)
  { opt with
    dmac := l2.dmacHi.get entry ++ l2.dmacLo.get entry
    smac := l2.smacHi.get entry ++ l2.smacLo.get entry
    vlan1 := l2.vlan1.get entry
    vlan2 := l2.vlan2.get entry
    pppoeId := l2.pppoeId.get entry }

def ipv6Words (field : Ipv6Field) (entry : FoeEntry) : Ipv6Words :=
  ⟨field.ip0.get entry, field.ip1.get entry, field.ip2.get entry, field.ip3.get entry⟩

def mtkHnatFoeToTupleL3 (entry : FoeEntry) (opt : HnatTuple) : HnatTuple :=
  if pktTypeOf entry = IPV4_HNAPT then
    { opt with
      ingSipv4 := htonl (Ipv4Hnapt.sip.get entry)
      ingDipv4 := htonl (Ipv4Hnapt.dip.get entry)
      egSipv4 := htonl (Ipv4Hnapt.newSip.get entry)
      egDipv4 := htonl (Ipv4Hnapt.newDip.get entry) }
  else if pktTypeOf entry = IPV6_5T_ROUTE then
    { opt with
      ingSipv6 := ipv6Words Ipv65tRoute.ipv6Sip entry
      ingDipv6 := ipv6Words Ipv65tRoute.ipv6Dip entry
      egSipv6 := ipv6Words Ipv65tRoute.ipv6Sip entry
      egDipv6 := ipv6Words Ipv65tRoute.ipv6Dip entry }
  else opt

def mtkHnatFoeToTupleL4 (entry : FoeEntry) (opt : HnatTuple) : HnatTuple :=
  if pktTypeOf entry = IPV4_HNAPT then
    { opt with
      ingSp := Ipv4Hnapt.sport.get entry
      ingDp := Ipv4Hnapt.dport.get entry
      egSp := Ipv4Hnapt.newSport.get entry
      egDp := Ipv4Hnapt.newDport.get entry }
  else if pktTypeOf entry = IPV6_5T_ROUTE then
    { opt with
      ingSp := Ipv65tRoute.sport.get entry
      ingDp := Ipv65tRoute.dport.get entry
      egSp := Ipv65tRoute.sport.get entry
      egDp := Ipv65tRoute.dport.get entry }
  else opt

def mtkHnatFoeToHnatTuple (entry : FoeEntry) (opt : HnatTuple) : HnatTuple :=
  mtkHnatFoeToTupleL4 entry (mtkHnatFoeToTupleL3 entry
    (mtkHnatFoeToTupleL2 entry (mtkHnatFoeToTupleInfoBlk entry opt)))

def mtkHnatGetPpeEntryByIndex (plat : Platform) (table : FoeTable) (opt : HnatTuple) :
    HnatStatus × HnatTuple :=
  if plat.ppeNum ≤ opt.ppeIndex.toNat ∨ plat.foeEtryNum ≤ opt.hashIndex.toNat then (.fail, opt)
  else
    let entry := table opt.ppeIndex.toNat opt.hashIndex.toNat
    if stateOf entry ≠ BIND then (.entryNotFound, opt)
    else (.success, mtkHnatFoeToHnatTuple entry opt)

/-- `hv1`, `hv2` and `hv3`. -/
structure HashWords where
  hv1 : BitVec 32
  hv2 : BitVec 32
  hv3 : BitVec 32

def ports (sport dport : BitVec 16) : BitVec 32 :=
  sport.setWidth 32 <<< 16 ||| dport.setWidth 32

def hashWords (entry : FoeEntry) : HashWords :=
  let pktType := pktTypeOf entry
  if pktType = L2_BRIDGE then
    { hv1 := (L2Bridge.etype.get entry).setWidth 32 <<< 16 |||
        (L2Bridge.vlan2.get entry ^^^ L2Bridge.vlan1.get entry).setWidth 32
      hv2 := 0x5a5a |||
        (L2Bridge.smacLo.get entry ^^^ L2Bridge.dmacLo.get entry).setWidth 32 <<< 16
      hv3 := L2Bridge.dmacHi.get entry ^^^ L2Bridge.smacHi.get entry }
  else if pktType = IPV4_HNAPT ∨ pktType = IPV4_HNAT ∨ pktType = IPV4_DSLITE then
    { hv1 := ports (Ipv4Hnapt.sport.get entry) (Ipv4Hnapt.dport.get entry)
      hv2 := Ipv4Hnapt.dip.get entry
      hv3 := Ipv4Hnapt.sip.get entry }
  else if pktType = IPV6_3T_ROUTE ∨ pktType = IPV6_5T_ROUTE ∨ pktType = IPV6_6RD then
    let sip := ipv6Words Ipv65tRoute.ipv6Sip entry
    let dip := ipv6Words Ipv65tRoute.ipv6Dip entry
    { hv1 := sip.ip3 ^^^ dip.ip3 ^^^
        ports (Ipv65tRoute.sport.get entry) (Ipv65tRoute.dport.get entry)
      hv2 := sip.ip2 ^^^ dip.ip2 ^^^ dip.ip0
      hv3 := sip.ip1 ^^^ dip.ip1 ^^^ sip.ip0 }
  else ⟨0, 0, 0⟩

def rotate (hash : BitVec 32) : BitVec 32 := hash >>> 24 ||| (hash &&& 0xffffff) <<< 8

/-- `hash` before it is folded into the size of the table. -/
def mix (words : HashWords) : BitVec 32 :=
  rotate (words.hv1 &&& words.hv2 ||| ~~~ words.hv1 &&& words.hv3) ^^^
    (words.hv1 ^^^ words.hv2 ^^^ words.hv3)

def fold (foeEtryNum hash : BitVec 32) : BitVec 32 :=
  (hash ^^^ hash >>> 16) <<< 2 &&& (foeEtryNum - 1)

def hnatGetPpeHash (plat : Platform) (entry : FoeEntry) : BitVec 32 :=
  fold (BitVec.ofNat 32 plat.foeEtryNum) (mix (hashWords entry))

def Ipv6Words.write (words : Ipv6Words) (field : Ipv6Field) (entry : FoeEntry) : FoeEntry :=
  field.ip3.set words.ip3 (field.ip2.set words.ip2 (field.ip1.set words.ip1
    (field.ip0.set words.ip0 entry)))

/-- The entry that is hashed, for the packet types that the API knows. -/
def tupleEntry (opt : HnatTuple) : Option FoeEntry :=
  let entry := Bfib1.pktType.set (opt.pktType.setWidth 5) FoeEntry.zero
  if opt.pktType = IPV4_HNAPT.setWidth 16 then
    let entry := Ipv4Hnapt.sip.set opt.ingSipv4 entry
    let entry := Ipv4Hnapt.dip.set opt.ingDipv4 entry
    let entry := Ipv4Hnapt.sport.set opt.ingSp entry
    some (Ipv4Hnapt.dport.set opt.ingDp entry)
  else if opt.pktType = IPV6_5T_ROUTE.setWidth 16 then
    let entry := opt.ingSipv6.write Ipv65tRoute.ipv6Sip entry
    let entry := opt.ingDipv6.write Ipv65tRoute.ipv6Dip entry
    let entry := Ipv65tRoute.sport.set opt.ingSp entry
    some (Ipv65tRoute.dport.set opt.ingDp entry)
  else none

def ppeOfMac (plat : Platform) (macId : Nat) : BitVec 16 :=
  if macId = MTK_GMAC3_ID ∧ 3 ≤ plat.ppeNum then 2
  else if macId = MTK_GMAC2_ID ∧ 2 ≤ plat.ppeNum then 1
  else 0

/-- `devGetByName` gives the MAC id of a device. -/
def mtkHnatCalcPpeHashIndexByTuple (plat : Platform) (devGetByName : List Char → Option Nat)
    (opt : HnatTuple) : HnatStatus × HnatTuple :=
  match devGetByName opt.ingDev with
  | none => (.fail, opt)
  | some macId =>
    let opt := { opt with ppeIndex := ppeOfMac plat macId }
    match tupleEntry opt with
    | none => (.fail, opt)
    | some entry =>
      (.success, { opt with hashIndex := (hnatGetPpeHash plat entry).setWidth 16 })

theorem rotate_xor : XorLinear rotate := by
  intro a b
  unfold rotate
  apply BitVec.eq_of_getLsbD_eq
  intro i inWord
  simp only [BitVec.getLsbD_or, BitVec.getLsbD_xor, BitVec.getLsbD_ushiftRight,
    BitVec.getLsbD_shiftLeft, BitVec.getLsbD_and, inWord, decide_true, Bool.true_and]
  by_cases low : i < 8
  · simp [low]
  · have beyond : ∀ word : BitVec 32, word.getLsbD (24 + i) = false := fun word =>
      BitVec.getLsbD_of_ge word _ (by omega)
    simp only [beyond, low, Bool.xor_false, Bool.false_or, decide_false, Bool.not_false]
    cases (0xffffff : BitVec 32).getLsbD (i - 8) <;> simp

theorem fold_xor (foeEtryNum : BitVec 32) : XorLinear (fold foeEtryNum) :=
  ((XorLinear.id.xor (XorLinear.id.ushiftRight 16)).shiftLeft 2).and (foeEtryNum - 1)

/-- What a difference in the addresses becomes, for given ports. -/
def spread (ports dip sip : BitVec 32) : BitVec 32 :=
  rotate (ports &&& dip ||| ~~~ ports &&& sip) ^^^ (dip ^^^ sip)

theorem mix_xor (hv1 dip dip' sip sip' : BitVec 32) :
    mix ⟨hv1, dip, sip⟩ ^^^ mix ⟨hv1, dip', sip'⟩ = spread hv1 (dip ^^^ dip') (sip ^^^ sip') := by
  have chosen : (hv1 &&& (dip ^^^ dip') ||| ~~~ hv1 &&& (sip ^^^ sip')) =
      (hv1 &&& dip ||| ~~~ hv1 &&& sip) ^^^ (hv1 &&& dip' ||| ~~~ hv1 &&& sip') := by
    apply BitVec.eq_of_getLsbD_eq
    intro i inWord
    simp only [BitVec.getLsbD_or, BitVec.getLsbD_xor, BitVec.getLsbD_and, BitVec.getLsbD_not,
      inWord, decide_true, Bool.true_and]
    cases hv1.getLsbD i <;> simp
  have regrouped : ∀ r r' : BitVec 32,
      (r ^^^ (hv1 ^^^ dip ^^^ sip)) ^^^ (r' ^^^ (hv1 ^^^ dip' ^^^ sip')) =
        (hv1 ^^^ hv1) ^^^ ((r ^^^ r') ^^^ ((dip ^^^ dip') ^^^ (sip ^^^ sip'))) := by
    intro r r'
    ac_rfl
  unfold spread mix
  rw [chosen, rotate_xor, regrouped, BitVec.xor_self, BitVec.zero_xor]

/-- The bits of an address that a swap of its bytes changes. -/
def swapped (addr : BitVec 32) : BitVec 32 := addr ^^^ htonl addr

/-- The bucket does not depend on the byte order of the addresses. -/
def OrderFree (plat : Platform) (ports dip sip : BitVec 32) : Prop :=
  fold (BitVec.ofNat 32 plat.foeEtryNum) (spread ports (swapped dip) (swapped sip)) = 0

instance (plat : Platform) (ports dip sip : BitVec 32) : Decidable (OrderFree plat ports dip sip) :=
  inferInstanceAs (Decidable (_ = _))

theorem fold_mix_eq_iff (plat : Platform) (ports dip sip : BitVec 32) :
    fold (BitVec.ofNat 32 plat.foeEtryNum) (mix ⟨ports, htonl dip, htonl sip⟩) =
        fold (BitVec.ofNat 32 plat.foeEtryNum) (mix ⟨ports, dip, sip⟩) ↔
      OrderFree plat ports dip sip := by
  rw [eq_comm, (fold_xor _).eq_iff, mix_xor]
  exact Iff.rfl

section

variable (plat : Platform) (entry : FoeEntry) (opt : HnatTuple)

theorem tuple_pktType :
    (mtkHnatFoeToHnatTuple entry opt).pktType = (pktTypeOf entry).setWidth 16 := by
  unfold mtkHnatFoeToHnatTuple mtkHnatFoeToTupleL4 mtkHnatFoeToTupleL3 mtkHnatFoeToTupleL2
    mtkHnatFoeToTupleInfoBlk
  split_ifs <;> rfl

theorem tuple_ingDev : (mtkHnatFoeToHnatTuple entry opt).ingDev = opt.ingDev := by
  unfold mtkHnatFoeToHnatTuple mtkHnatFoeToTupleL4 mtkHnatFoeToTupleL3 mtkHnatFoeToTupleL2
    mtkHnatFoeToTupleInfoBlk
  split_ifs <;> rfl

theorem tuple_hnapt (type : pktTypeOf entry = IPV4_HNAPT) :
    let tuple := mtkHnatFoeToHnatTuple entry opt
    tuple.ingSipv4 = htonl (Ipv4Hnapt.sip.get entry) ∧
      tuple.ingDipv4 = htonl (Ipv4Hnapt.dip.get entry) ∧
        tuple.ingSp = Ipv4Hnapt.sport.get entry ∧ tuple.ingDp = Ipv4Hnapt.dport.get entry := by
  unfold mtkHnatFoeToHnatTuple mtkHnatFoeToTupleL4 mtkHnatFoeToTupleL3
  simp only [if_pos type, and_self]

theorem tuple_route (type : pktTypeOf entry = IPV6_5T_ROUTE) :
    let tuple := mtkHnatFoeToHnatTuple entry opt
    tuple.ingSipv6 = ipv6Words Ipv65tRoute.ipv6Sip entry ∧
      tuple.ingDipv6 = ipv6Words Ipv65tRoute.ipv6Dip entry ∧
        tuple.ingSp = Ipv65tRoute.sport.get entry ∧ tuple.ingDp = Ipv65tRoute.dport.get entry := by
  have other : pktTypeOf entry ≠ IPV4_HNAPT := by rw [type]; decide
  unfold mtkHnatFoeToHnatTuple mtkHnatFoeToTupleL4 mtkHnatFoeToTupleL3
  simp only [if_pos type, if_neg other, and_self]

theorem pktType_setWidth : ∀ t : FoeIpAct, (t.setWidth 16).setWidth 5 = t ∧
    (t.setWidth 16 = IPV4_HNAPT.setWidth 16 ↔ t = IPV4_HNAPT) ∧
      (t.setWidth 16 = IPV6_5T_ROUTE.setWidth 16 ↔ t = IPV6_5T_ROUTE) := by
  decide

variable {entry opt}

theorem hash_tupleEntry_hnapt (tuple : HnatTuple) (type : tuple.pktType = IPV4_HNAPT.setWidth 16) :
    ∃ key, tupleEntry tuple = some key ∧
      hashWords key = ⟨ports tuple.ingSp tuple.ingDp, tuple.ingDipv4, tuple.ingSipv4⟩ := by
  unfold tupleEntry
  rw [if_pos type]
  refine ⟨_, rfl, ?_⟩
  unfold hashWords pktTypeOf
  rw [type]
  simp (disch := decide) only [Field.get_set_of_apart, Field.get_set]
  rfl

theorem hash_tupleEntry_route (tuple : HnatTuple)
    (type : tuple.pktType = IPV6_5T_ROUTE.setWidth 16) :
    ∃ key, tupleEntry tuple = some key ∧
      hashWords key =
        { hv1 := tuple.ingSipv6.ip3 ^^^ tuple.ingDipv6.ip3 ^^^ ports tuple.ingSp tuple.ingDp
          hv2 := tuple.ingSipv6.ip2 ^^^ tuple.ingDipv6.ip2 ^^^ tuple.ingDipv6.ip0
          hv3 := tuple.ingSipv6.ip1 ^^^ tuple.ingDipv6.ip1 ^^^ tuple.ingSipv6.ip0 } := by
  have other : tuple.pktType ≠ IPV4_HNAPT.setWidth 16 := by rw [type]; decide
  unfold tupleEntry
  rw [if_neg other, if_pos type]
  refine ⟨_, rfl, ?_⟩
  unfold hashWords pktTypeOf Ipv6Words.write ipv6Words
  rw [type]
  simp (disch := decide) only [Field.get_set_of_apart, Field.get_set]
  rfl

theorem hnatGetPpeHash_lt (filled : 0 < plat.foeEtryNum) (sized : plat.foeEtryNum ≤ DEF_ETRY_NUM)
    (key : FoeEntry) : (hnatGetPpeHash plat key).toNat < plat.foeEtryNum := by
  unfold DEF_ETRY_NUM at sized
  have mask : (BitVec.ofNat 32 plat.foeEtryNum - 1).toNat = plat.foeEtryNum - 1 := by
    have one : (1 : BitVec 32).toNat = 1 := rfl
    rw [BitVec.toNat_sub, BitVec.toNat_ofNat, one]
    omega
  unfold hnatGetPpeHash fold
  rw [BitVec.toNat_and, mask]
  have below := @Nat.and_le_right ((mix (hashWords key) ^^^ mix (hashWords key) >>> 16) <<< 2).toNat
    (plat.foeEtryNum - 1)
  omega

theorem setWidth_hnatGetPpeHash (filled : 0 < plat.foeEtryNum)
    (sized : plat.foeEtryNum ≤ DEF_ETRY_NUM) (key : FoeEntry) :
    ((hnatGetPpeHash plat key).setWidth 16).setWidth 32 = hnatGetPpeHash plat key := by
  have below := hnatGetPpeHash_lt plat filled sized key
  unfold DEF_ETRY_NUM at sized
  apply BitVec.eq_of_toNat_eq
  rw [BitVec.toNat_setWidth, BitVec.toNat_setWidth]
  omega

end

section

variable (plat : Platform) (devGetByName : List Char → Option Nat) (table : FoeTable)
  (opt : HnatTuple)

def slotOf : FoeEntry := table opt.ppeIndex.toNat opt.hashIndex.toNat

def Held : Prop :=
  opt.ppeIndex.toNat < plat.ppeNum ∧ opt.hashIndex.toNat < plat.foeEtryNum ∧
    stateOf (slotOf table opt) = BIND

/-- The tuple that is read leads to the bucket that the entry's own key has. -/
def FindsBucket : Prop :=
  ∀ tuple, mtkHnatGetPpeEntryByIndex plat table opt = (.success, tuple) →
    ∃ found, mtkHnatCalcPpeHashIndexByTuple plat devGetByName tuple = (.success, found) ∧
      found.hashIndex.setWidth 32 = hnatGetPpeHash plat (slotOf table opt)

/-- The caller has named a device, and the entry is a routed IPv6 one, or a
translated IPv4 one whose bucket does not depend on the byte order. -/
def Recoverable (entry : FoeEntry) : Prop :=
  (devGetByName opt.ingDev).isSome = true ∧
    (pktTypeOf entry = IPV6_5T_ROUTE ∨
      pktTypeOf entry = IPV4_HNAPT ∧
        OrderFree plat (ports (Ipv4Hnapt.sport.get entry) (Ipv4Hnapt.dport.get entry))
          (Ipv4Hnapt.dip.get entry) (Ipv4Hnapt.sip.get entry))

theorem get_success_iff (tuple : HnatTuple) :
    mtkHnatGetPpeEntryByIndex plat table opt = (.success, tuple) ↔
      Held plat table opt ∧ tuple = mtkHnatFoeToHnatTuple (slotOf table opt) opt := by
  unfold mtkHnatGetPpeEntryByIndex Held slotOf
  dsimp only
  by_cases outside : plat.ppeNum ≤ opt.ppeIndex.toNat ∨ plat.foeEtryNum ≤ opt.hashIndex.toNat
  · rw [if_pos outside]
    refine iff_of_false (by simp) ?_
    rintro ⟨⟨inPpe, inTable, -⟩, -⟩
    omega
  · rw [if_neg outside]
    by_cases bound : stateOf (table opt.ppeIndex.toNat opt.hashIndex.toNat) = BIND
    · rw [if_neg (not_not.mpr bound), Prod.mk.injEq]
      constructor
      · rintro ⟨-, rfl⟩
        exact ⟨⟨by omega, by omega, bound⟩, rfl⟩
      · rintro ⟨-, rfl⟩
        exact ⟨rfl, rfl⟩
    · rw [if_pos bound]
      exact iff_of_false (by simp) fun held => bound held.1.2.2

theorem calc_success_iff (tuple : HnatTuple) (bucket : BitVec 32) :
    (∃ found, mtkHnatCalcPpeHashIndexByTuple plat devGetByName tuple = (.success, found) ∧
        found.hashIndex.setWidth 32 = bucket) ↔
      (devGetByName tuple.ingDev).isSome = true ∧
        ∃ key, tupleEntry tuple = some key ∧
          ((hnatGetPpeHash plat key).setWidth 16).setWidth 32 = bucket := by
  unfold mtkHnatCalcPpeHashIndexByTuple
  cases devGetByName tuple.ingDev with
  | none => simp
  | some macId =>
    have same : tupleEntry { tuple with ppeIndex := ppeOfMac plat macId } = tupleEntry tuple :=
      rfl
    dsimp only
    rw [same]
    cases tupleEntry tuple with
    | none => simp
    | some key => simp

variable {entry : FoeEntry}

theorem hash_of_route (type : pktTypeOf entry = IPV6_5T_ROUTE) :
    ∃ key, tupleEntry (mtkHnatFoeToHnatTuple entry opt) = some key ∧
      hnatGetPpeHash plat key = hnatGetPpeHash plat entry := by
  obtain ⟨sip, dip, sp, dp⟩ := tuple_route entry opt type
  obtain ⟨key, written, words⟩ := hash_tupleEntry_route (mtkHnatFoeToHnatTuple entry opt)
    ((tuple_pktType entry opt).trans ((pktType_setWidth _).2.2.mpr type))
  refine ⟨key, written, ?_⟩
  unfold hnatGetPpeHash
  rw [words, sip, dip, sp, dp]
  unfold hashWords
  rw [type]
  rfl

theorem hash_of_hnapt (type : pktTypeOf entry = IPV4_HNAPT) :
    ∃ key, tupleEntry (mtkHnatFoeToHnatTuple entry opt) = some key ∧
      (hnatGetPpeHash plat key = hnatGetPpeHash plat entry ↔
        OrderFree plat (ports (Ipv4Hnapt.sport.get entry) (Ipv4Hnapt.dport.get entry))
          (Ipv4Hnapt.dip.get entry) (Ipv4Hnapt.sip.get entry)) := by
  obtain ⟨sip, dip, sp, dp⟩ := tuple_hnapt entry opt type
  obtain ⟨key, written, words⟩ := hash_tupleEntry_hnapt (mtkHnatFoeToHnatTuple entry opt)
    ((tuple_pktType entry opt).trans ((pktType_setWidth _).2.1.mpr type))
  have own : hashWords entry = ⟨ports (Ipv4Hnapt.sport.get entry) (Ipv4Hnapt.dport.get entry),
      Ipv4Hnapt.dip.get entry, Ipv4Hnapt.sip.get entry⟩ := by
    unfold hashWords
    rw [type]
    rfl
  refine ⟨key, written, ?_⟩
  unfold hnatGetPpeHash
  rw [words, own, sip, dip, sp, dp]
  exact fold_mix_eq_iff plat _ _ _

theorem tupleEntry_other (notHnapt : pktTypeOf entry ≠ IPV4_HNAPT)
    (notRoute : pktTypeOf entry ≠ IPV6_5T_ROUTE) :
    tupleEntry (mtkHnatFoeToHnatTuple entry opt) = none := by
  unfold tupleEntry
  dsimp only
  rw [tuple_pktType, if_neg, if_neg]
  · exact mt (pktType_setWidth _).2.2.mp notRoute
  · exact mt (pktType_setWidth _).2.1.mp notHnapt

theorem recoverable_iff (filled : 0 < plat.foeEtryNum) (sized : plat.foeEtryNum ≤ DEF_ETRY_NUM)
    (entry : FoeEntry) :
    (∃ found, mtkHnatCalcPpeHashIndexByTuple plat devGetByName
        (mtkHnatFoeToHnatTuple entry opt) = (.success, found) ∧
          found.hashIndex.setWidth 32 = hnatGetPpeHash plat entry) ↔
      Recoverable plat devGetByName opt entry := by
  rw [calc_success_iff, tuple_ingDev]
  refine and_congr_right fun _ => ?_
  simp only [setWidth_hnatGetPpeHash plat filled sized]
  by_cases route : pktTypeOf entry = IPV6_5T_ROUTE
  · obtain ⟨key, written, same⟩ := hash_of_route plat opt route
    exact iff_of_true ⟨key, written, same⟩ (.inl route)
  · by_cases hnapt : pktTypeOf entry = IPV4_HNAPT
    · obtain ⟨key, written, same⟩ := hash_of_hnapt plat opt hnapt
      rw [or_iff_right route, and_iff_right hnapt, ← same]
      simp only [written, Option.some.injEq, exists_eq_left']
    · simp [tupleEntry_other opt hnapt route, route, hnapt]

/-- Reading an entry and hashing what was read comes back to the bucket exactly for
the entries that keep it. -/
theorem tuple_roundTrip_iff (sized : plat.foeEtryNum ≤ DEF_ETRY_NUM) :
    FindsBucket plat devGetByName table opt ↔
      (Held plat table opt → Recoverable plat devGetByName opt (slotOf table opt)) := by
  have filled : Held plat table opt → 0 < plat.foeEtryNum := fun held =>
    Nat.lt_of_le_of_lt (Nat.zero_le _) held.2.1
  constructor
  · intro finds held
    rw [← recoverable_iff plat devGetByName opt (filled held) sized]
    exact finds _ ((get_success_iff plat table opt _).mpr ⟨held, rfl⟩)
  · intro recovers tuple read
    obtain ⟨held, rfl⟩ := (get_success_iff plat table opt tuple).mp read
    exact (recoverable_iff plat devGetByName opt (filled held) sized _).mpr (recovers held)

end

def request : HnatTuple where
  ppeIndex := 0
  hashIndex := 0
  ttl := 0
  psn := 0
  fqos := 0
  qid := 0
  vlanLayer := 0
  dscp := 0
  pktType := 0
  isUdp := 0
  fdrEn := 0
  rxid := 0
  fp := 0
  tid := 0
  isPrior := 0
  dmac := 0
  smac := 0
  vlan1 := 0
  vlan2 := 0
  pppoeId := 0
  ingSipv4 := 0
  ingDipv4 := 0
  ingSipv6 := ⟨0, 0, 0, 0⟩
  ingDipv6 := ⟨0, 0, 0, 0⟩
  egSipv4 := 0
  egDipv4 := 0
  egSipv6 := ⟨0, 0, 0, 0⟩
  egDipv6 := ⟨0, 0, 0, 0⟩
  ingSp := 0
  ingDp := 0
  egSp := 0
  egDp := 0
  ingDev := ['e', 't', 'h', '0']
  egDev := []

def lanMac (name : List Char) : Option Nat :=
  if name = ['e', 't', 'h', '0'] then some MTK_GMAC1_ID else none

def table32k : Platform := ⟨1, DEF_ETRY_NUM, 16⟩

def boundFlow : FoeEntry :=
  Bfib1.state.set BIND (Bfib1.pktType.set IPV4_HNAPT
    (Ipv4Hnapt.sip.set 0xc0a80102 (Ipv4Hnapt.dip.set 0x0a000001
      (Ipv4Hnapt.sport.set 1000 (Ipv4Hnapt.dport.set 80 FoeEntry.zero)))))

theorem tuple_roundTrip_lost :
    ¬ FindsBucket table32k lanMac (fun _ _ => boundFlow) request := by
  intro finds
  obtain ⟨found, hashed, bucket⟩ := finds _ rfl
  revert bucket
  rw [← (Prod.mk.inj hashed).2]
  decide

theorem tuple_roundTrip_boundFlow :
    FindsBucket table32k lanMac (fun _ _ => boundFlow) request ↔
      (Held table32k (fun _ _ => boundFlow) request →
        Recoverable table32k lanMac request (slotOf (fun _ _ => boundFlow) request)) :=
  tuple_roundTrip_iff table32k lanMac _ request (by decide)

end OpenwrtSource.Hnat.ApiTuple
