import OpenwrtSource.Hnat.BindEntry

/-!
# The update calls of `hnat_api.c`

Each call picks the layout to write through from the packet type of a bound
entry, works on a copy of the entry, and writes the copy back if there is
anything to change.
-/

namespace OpenwrtSource.Hnat.EntryUpdate

open Lib.BitField Hnat.Foe Hnat.McastOffload Hnat.BindPacket Hnat.BindFill

inductive HnatStatus where
  | alreadySet
  | success
  | fail
  | entryNotFound
  deriving DecidableEq

abbrev FoeTable := Nat → Nat → FoeEntry

def FoeTable.write (table : FoeTable) (ppe hash : Nat) (entry : FoeEntry) : FoeTable :=
  fun p h => if p = ppe ∧ h = hash then entry else table p h

/-- `hnat_update_fn`: the result, and the copy of the entry after it. -/
abbrev UpdateFn := FoeEntry → HnatStatus × FoeEntry

def hnatUpdateEntryGeneric (plat : Platform) (ppeIndex hashIndex : BitVec 16)
    (updateLogic : UpdateFn) (table : FoeTable) : HnatStatus × FoeTable :=
  if plat.ppeNum ≤ ppeIndex.toNat ∨ plat.foeEtryNum ≤ hashIndex.toNat then (.fail, table)
  else
    let hwEntry := table ppeIndex.toNat hashIndex.toNat
    if stateOf hwEntry ≠ BIND then (.entryNotFound, table)
    else
      match updateLogic hwEntry with
      | (.success, entry) => (.success, table.write ppeIndex.toNat hashIndex.toNat entry)
      | (.alreadySet, _) => (.success, table)
      | (ret, _) => (ret, table)

def updateIblk2 (pktType : FoeIpAct) : Option (Iblk2 × EngineBlock × L2Block) :=
  if isIpv4Grp pktType then some (Ipv4Hnapt.iblk2, Ipv4Hnapt.engine, Ipv4Hnapt.l2)
  else if isIpv6Grp pktType then some (Ipv65tRoute.iblk2, Ipv65tRoute.engine, Ipv65tRoute.l2)
  else none

/-- The layouts of `hnat_entry_set_is_prior` and `hnat_entry_set_tid`. -/
def updateWinfo (pktType : FoeIpAct) : Option WinfoBlock :=
  if isIpv4Grp pktType then some Ipv4Hnapt.winfo
  else if pktType = IPV6_HNAPT ∨ pktType = IPV6_HNAT then some Ipv6Hnapt.winfo
  else if isIpv6Grp pktType then some Ipv4Mape.winfo
  else none

def hnatEntrySetHqos (fqos qid : BitVec 16) : UpdateFn := fun entry =>
  if MTK_QDMA_NUM_QUEUES ≤ qid.toNat then (.fail, entry)
  else
    let forced : BitVec 1 := boolBit (fqos != 0)
    let qid : BitVec 7 := (qid &&& MTK_QDMA_QUEUE_MASK.setWidth 16).setWidth 7
    match updateIblk2 (pktTypeOf entry) with
    | none => (.fail, entry)
    | some (iblk2, engine, _) =>
      if iblk2.fqos.get entry = forced ∧ iblk2.qid.get entry = qid then (.alreadySet, entry)
      else
        let entry := engine.tportId.set (if fqos ≠ 0 then NR_QDMA_TPORT else 0) entry
        let entry := iblk2.fqos.set forced entry
        (.success, iblk2.qid.set qid entry)

def setField {n : Nat} (field : Option (EntryField n)) (value : BitVec n) : UpdateFn := fun entry =>
  match field with
  | none => (.fail, entry)
  | some field =>
    if field.get entry = value then (.alreadySet, entry) else (.success, field.set value entry)

def hnatEntrySetDscp (dscp : BitVec 32) : UpdateFn := fun entry =>
  setField ((updateIblk2 (pktTypeOf entry)).map fun layout => layout.1.dscp)
    (if 0 < dscp.toInt then dscp.setWidth 8 else 0) entry

/-- The tag of a DSA port keeps a layer and says in bit 8 whether a VLAN follows. -/
def fillSpTag (isDsa : Bool) (spTag : EntryField 16) (entry : FoeEntry) : FoeEntry :=
  if isDsa then
    if Bfib1.vlanLayer.get entry = 0 then
      let entry := Bfib1.vlanLayer.set 1 entry
      spTag.set (spTag.get entry &&& ~~~ 0x100) entry
    else spTag.set (spTag.get entry ||| 0x100) entry
  else if Bfib1.vlanLayer.get entry ≠ 0 then spTag.set ETH_P_8021Q entry
  else entry

def hnatEntrySetVlan (vlan1 vlan2 : BitVec 16) : UpdateFn := fun entry =>
  match updateIblk2 (pktTypeOf entry) with
  | none => (.fail, entry)
  | some (_, _, l2) =>
    let vlanLayer := boolBit (vlan1 != 0) + boolBit (vlan2 != 0)
    if Bfib1.vlanLayer.get entry = vlanLayer ∧ l2.vlan1.get entry = vlan1 ∧
        l2.vlan2.get entry = vlan2 then (.alreadySet, entry)
    else
      let isDsa := Bfib1.vlanLayer.get entry != 0 && l2.spTag.get entry != ETH_P_8021Q
      let entry := Bfib1.vlanLayer.set vlanLayer entry
      let entry := l2.vlan1.set vlan1 entry
      let entry := l2.vlan2.set vlan2 entry
      (.success, fillSpTag isDsa l2.spTag entry)

def hnatEntrySetPppoe (psn pppoeId : BitVec 16) : UpdateFn := fun entry =>
  match updateIblk2 (pktTypeOf entry) with
  | none => (.fail, entry)
  | some (_, _, l2) =>
    if Bfib1.psn.get entry = boolBit (psn != 0) ∧ l2.pppoeId.get entry = pppoeId then
      (.alreadySet, entry)
    else (.success, Bfib1.psn.set (boolBit (psn != 0)) (l2.pppoeId.set pppoeId entry))

def hnatEntrySetIsPrior (isPrior : BitVec 16) : UpdateFn := fun entry =>
  setField ((updateWinfo (pktTypeOf entry)).map WinfoBlock.isPrior) (isPrior.setWidth 1) entry

def hnatEntrySetTid (tid : BitVec 16) : UpdateFn := fun entry =>
  setField ((updateWinfo (pktTypeOf entry)).map WinfoBlock.tid) (tid.setWidth 4) entry

inductive Update where
  | hqos (fqos qid : BitVec 16)
  | dscp (dscp : BitVec 32)
  | vlan (vlan1 vlan2 : BitVec 16)
  | pppoe (psn pppoeId : BitVec 16)
  | isPrior (isPrior : BitVec 16)
  | tid (tid : BitVec 16)
  deriving DecidableEq

def Update.logic : Update → UpdateFn
  | .hqos fqos qid => hnatEntrySetHqos fqos qid
  | .dscp value => hnatEntrySetDscp value
  | .vlan vlan1 vlan2 => hnatEntrySetVlan vlan1 vlan2
  | .pppoe psn id => hnatEntrySetPppoe psn id
  | .isPrior value => hnatEntrySetIsPrior value
  | .tid value => hnatEntrySetTid value

/-- `mtk_hnat_update_*_by_index`. -/
def mtkHnatUpdateByIndex (plat : Platform) (update : Update) (ppeIndex hashIndex : BitVec 16)
    (table : FoeTable) : HnatStatus × FoeTable :=
  hnatUpdateEntryGeneric plat ppeIndex hashIndex update.logic table

/-- What a call by packet reads of the descriptor. -/
structure ApiSkb where
  alg : Bool
  magicTagValid : Bool
  spaceAvailableHead : Bool
  hashed : Bool
  reason : BitVec 5
  ppe : BitVec 16
  entry : BitVec 16

def HIT_BIND_KEEPALIVE_DUP_OLD_HDR : BitVec 5 := 0x15

/-- `hnat_get_idx_from_skb`; there is no packet for `none`. -/
def hnatGetIdxFromSkb (skb : Option ApiSkb) : Option (BitVec 16 × BitVec 16) :=
  match skb with
  | none => none
  | some skb =>
    if skb.alg || !skb.magicTagValid || !skb.spaceAvailableHead || !skb.hashed then none
    -- only a keep-alive packet says which entry it has hit
    else if skb.reason ≠ HIT_BIND_KEEPALIVE_DUP_OLD_HDR then none
    else some (skb.ppe, skb.entry)

/-- `mtk_hnat_update_*_by_skb`. -/
def mtkHnatUpdateBySkb (plat : Platform) (update : Update) (skb : Option ApiSkb)
    (table : FoeTable) : HnatStatus × FoeTable :=
  match hnatGetIdxFromSkb skb with
  | none => (.fail, table)
  | some (ppeIdx, hashIdx) => mtkHnatUpdateByIndex plat update ppeIdx hashIdx table

end OpenwrtSource.Hnat.EntryUpdate

/-!
# Walks over the table that delete bound entries

Every walk looks at the bound entries of every PPE and invalidates those that
its own comparison picks.  The comparisons read an entry through the layout of
its packet type.
-/

namespace OpenwrtSource.Hnat.EntryDelete

open Lib.BitField Hnat.Foe Hnat.McastTable Hnat.McastOffload Hnat.EntryUpdate

abbrev EntryCmpFlags := BitVec 32

def ENTRY_CMP_SRC : EntryCmpFlags := 1 <<< 0
def ENTRY_CMP_DST : EntryCmpFlags := 1 <<< 1
def ENTRY_CMP_ANY : EntryCmpFlags := ENTRY_CMP_SRC ||| ENTRY_CMP_DST

/-- The layer 2 block that `entry_mac_cmp` reads. -/
def macCmpL2 (pktType : FoeIpAct) : L2Block :=
  if isIpv4Grp pktType then Ipv4Hnapt.l2 else Ipv65tRoute.l2

def entryMacCmp (entry : FoeEntry) (mac : Mac) (flags : EntryCmpFlags) : Bool :=
  let l2 := macCmpL2 (pktTypeOf entry)
  (flags &&& ENTRY_CMP_SRC != 0 && l2.smacHi.get entry == mac.extractLsb' 16 32 &&
      l2.smacLo.get entry == mac.extractLsb' 0 16) ||
    (flags &&& ENTRY_CMP_DST != 0 && l2.dmacHi.get entry == mac.extractLsb' 16 32 &&
      l2.dmacLo.get entry == mac.extractLsb' 0 16)

/-- An address in host order, as `entry_ip_cmp` compares it. -/
inductive IpAddr where
  | ipv4 (addr : BitVec 32)
  | ipv6 (addr : BitVec 128)
  deriving DecidableEq

/-- The IPv4 addresses of an entry, source and destination. -/
def foeIpv4 (entry : FoeEntry) : Option (BitVec 32 × BitVec 32) :=
  let pktType := pktTypeOf entry
  if pktType = IPV4_HNAPT ∨ pktType = IPV4_HNAT then
    some (Ipv4Hnapt.sip.get entry, Ipv4Hnapt.newDip.get entry)
  else if pktType = IPV4_DSLITE ∨ pktType = IPV4_MAP_E then
    some (Ipv4Dslite.sip.get entry, Ipv4Dslite.dip.get entry)
  else if pktType = IPV6_6RD then
    some (Ipv66rd.tunnelSipv4.get entry, Ipv66rd.tunnelDipv4.get entry)
  else none

/-- The IPv6 addresses of an entry, source and destination. -/
def foeIpv6 (entry : FoeEntry) : Option (BitVec 128 × BitVec 128) :=
  let pktType := pktTypeOf entry
  if pktType = IPV6_3T_ROUTE ∨ pktType = IPV6_5T_ROUTE ∨ pktType = IPV6_6RD then
    some (Ipv65tRoute.ipv6Sip.get entry, Ipv65tRoute.ipv6Dip.get entry)
  else if pktType = IPV6_HNAT ∨ pktType = IPV6_HNAPT then
    some (Ipv6Hnapt.ipv6Sip.get entry, Ipv6Hnapt.newIpv6Ip.get entry)
  else if pktType = IPV4_DSLITE ∨ pktType = IPV4_MAP_E then
    some (Ipv4Dslite.tunnelSipv6.get entry, Ipv4Dslite.tunnelDipv6.get entry)
  else none

def addrCmp {width : Nat} (foe : Option (BitVec width × BitVec width)) (addr : BitVec width)
    (flags : EntryCmpFlags) : Bool :=
  match foe with
  | none => false
  | some (foeSip, foeDip) =>
    (flags &&& ENTRY_CMP_SRC != 0 && foeSip == addr) ||
      (flags &&& ENTRY_CMP_DST != 0 && foeDip == addr)

def entryIpCmp (entry : FoeEntry) (addr : IpAddr) (flags : EntryCmpFlags) : Bool :=
  match addr with
  | .ipv4 addr => addrCmp (foeIpv4 entry) addr flags
  | .ipv6 addr => addrCmp (foeIpv6 entry) addr flags

def DEF_ETRY_NUM : Nat := 32768

/-- The bound entries that a walk over `count` entries of every PPE picks are
invalidated, each at the time it is reached. -/
def deleteBound (plat : Platform) (count : Nat) (foeTimestamp : Nat → Nat → BitVec 8)
    (picked : FoeEntry → Bool) (table : FoeTable) : FoeTable := fun ppe hash =>
  if ppe < plat.ppeNum ∧ hash < count ∧ stateOf (table ppe hash) = BIND ∧
      picked (table ppe hash) then entryInvalidate (foeTimestamp ppe hash) (table ppe hash)
  else table ppe hash

@[simp] theorem stateOf_entryInvalidate (timestamp : BitVec 8) (entry : FoeEntry) :
    stateOf (entryInvalidate timestamp entry) = INVALID := by
  unfold stateOf entryInvalidate
  rw [Field.get_set_of_apart _ _ _ _ (by decide), Field.get_set]

section

variable (plat : Platform) (count : Nat) (foeTimestamp : Nat → Nat → BitVec 8)

theorem deleteBound_deleteBound (first second : FoeEntry → Bool) (table : FoeTable) :
    deleteBound plat count foeTimestamp second
        (deleteBound plat count foeTimestamp first table) =
      deleteBound plat count foeTimestamp (fun entry => first entry || second entry) table := by
  funext ppe hash
  have invalid : INVALID ≠ BIND := by decide
  by_cases isFirst : ppe < plat.ppeNum ∧ hash < count ∧ stateOf (table ppe hash) = BIND ∧
      first (table ppe hash) = true
  · obtain ⟨inPpe, inTable, bound, picked⟩ := isFirst
    simp [deleteBound, inPpe, inTable, bound, picked, invalid]
  · have same : deleteBound plat count foeTimestamp first table ppe hash = table ppe hash := by
      unfold deleteBound
      exact if_neg isFirst
    rw [deleteBound, same, deleteBound]
    grind

end

def NUD_REACHABLE : BitVec 8 := 0x02
def NUD_FAILED : BitVec 8 := 0x20
def NUD_NOARP : BitVec 8 := 0x40
def NUD_PERMANENT : BitVec 8 := 0x80
def NUD_CONNECTED : BitVec 8 := NUD_PERMANENT ||| NUD_NOARP ||| NUD_REACHABLE

structure HnatNeighUpdateEvent where
  dip : IpAddr
  ha : Mac
  nudState : BitVec 8
  deriving DecidableEq

/-- The neighbour has failed, or has another MAC address than the entry sends to. -/
def neighOutdates (neigh : HnatNeighUpdateEvent) (entry : FoeEntry) : Bool :=
  entryIpCmp entry neigh.dip ENTRY_CMP_DST &&
    (neigh.nudState &&& NUD_FAILED != 0 || !entryMacCmp entry neigh.ha ENTRY_CMP_DST)

def foeClearEntry (plat : Platform) (foeTimestamp : Nat → Nat → BitVec 8)
    (head : List HnatNeighUpdateEvent) (table : FoeTable) : FoeTable :=
  deleteBound plat plat.foeEtryNum foeTimestamp
    (fun entry => head.any fun neigh => neighOutdates neigh entry) table

theorem foeClearEntry_foldl (plat : Platform) (foeTimestamp : Nat → Nat → BitVec 8)
    (head : List HnatNeighUpdateEvent) (table : FoeTable) :
    foeClearEntry plat foeTimestamp head table =
      head.foldl (fun table neigh => foeClearEntry plat foeTimestamp [neigh] table) table := by
  induction head generalizing table with
  | nil =>
    funext ppe hash
    simp [foeClearEntry, deleteBound]
  | cons neigh rest ih =>
    rw [List.foldl_cons, ← ih]
    unfold foeClearEntry
    rw [deleteBound_deleteBound]
    simp [List.any_cons]

end OpenwrtSource.Hnat.EntryDelete
