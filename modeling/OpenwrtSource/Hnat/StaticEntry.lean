import OpenwrtSource.Hnat.ApiTuple
import OpenwrtSource.Lib.Index

/-!
# Static entries

`hnat_static_entry_write` makes an entry from a line of text and stores it at
the first slot that is not bound, starting at the hash that the line gives or
at the hash of the entry.
-/

namespace OpenwrtSource.Hnat.StaticEntry

open Lib.Probe Hnat.Foe Hnat.McastTable Hnat.McastOffload Hnat.EntryUpdate Hnat.ApiTuple

def EFAULT : Int := 14

/-- A buffer of 19 characters after `%18s`, with what the stack held behind the text. -/
abbrev MacStr := Fin 19 → Char

def hnatChar2hex (c : Char) : BitVec 8 :=
  if '0' ≤ c ∧ c ≤ '9' then BitVec.ofNat 8 (c.toNat - '0'.toNat)
  else if 'a' ≤ c ∧ c ≤ 'f' then BitVec.ofNat 8 (0xa + (c.toNat - 'a'.toNat))
  else if 'A' ≤ c ∧ c ≤ 'F' then BitVec.ofNat 8 (0xa + (c.toNat - 'A'.toNat))
  else 0

def macOctet (str : MacStr) (i : Fin 6) : BitVec 8 :=
  (hnatChar2hex (str ⟨i * 3, by omega⟩) <<< 4) + hnatChar2hex (str ⟨i * 3 + 1, by omega⟩)

def hnatParseMac (str : MacStr) : Mac :=
  macOctet str 0 ++ macOctet str 1 ++ macOctet str 2 ++ macOctet str 3 ++ macOctet str 4 ++
    macOctet str 5

/-- The ids of the tunnel and crypto engines, as they are read. -/
structure EngineIds where
  tportId : BitVec 32
  topsEntry : BitVec 32
  cdrtId : BitVec 32

structure HnaptLine where
  sip : BitVec 32
  dip : BitVec 32
  sport : BitVec 16
  dport : BitVec 16
  infoBlk2 : BitVec 32
  newSip : BitVec 32
  newDip : BitVec 32
  newSport : BitVec 16
  newDport : BitVec 16
  dmacStr : MacStr
  smacStr : MacStr
  engine : EngineIds

structure RouteLine where
  ipv6Sip : Ipv6Words
  ipv6Dip : Ipv6Words
  sport : BitVec 16
  dport : BitVec 16
  infoBlk2 : BitVec 32
  dmacStr : MacStr
  smacStr : MacStr
  engine : EngineIds

structure BridgeLine where
  dmacStr : MacStr
  smacStr : MacStr
  etype : BitVec 16
  vlan1 : BitVec 16
  vlan2 : BitVec 16
  infoBlk2 : BitVec 32
  newDmacStr : MacStr
  newSmacStr : MacStr
  newVlan1 : BitVec 16
  newVlan2 : BitVec 16

/-- `sscanf`: what its formats read from a line, or `none` where a conversion fails.  Each format
of a packet type begins with the two conversions of `head`, which read the same text again. -/
structure Scan where
  head : List Char → Option (Int × BitVec 32)
  ipv4Hnapt : List Char → Option HnaptLine
  ipv65tRoute : List Char → Option RouteLine
  l2Bridge : List Char → Option BridgeLine

theorem word_fits : 0 + 32 ≤ 32 := Nat.le_refl 32

def infoBlk1 : EntryField 32 := { word := 0, shift := 0, fits := word_fits }

def Ipv4Hnapt.infoBlk2 : EntryField 32 := { word := 4, shift := 0, fits := word_fits }
def Ipv65tRoute.infoBlk2 : EntryField 32 := { word := 14, shift := 0, fits := word_fits }
def L2Bridge.infoBlk2 : EntryField 32 := { word := 8, shift := 0, fits := word_fits }

def TPORT_ID (x : BitVec 32) : BitVec 32 := x &&& 0xf
def TOPS_ENTRY (x : BitVec 32) : BitVec 32 := x &&& 0x3f
def CDRT_ID (x : BitVec 32) : BitVec 32 := x &&& 0xff

def EngineIds.fit (ids : EngineIds) : Prop :=
  TPORT_ID ids.tportId = ids.tportId ∧ TOPS_ENTRY ids.topsEntry = ids.topsEntry ∧
    CDRT_ID ids.cdrtId = ids.cdrtId

instance (ids : EngineIds) : Decidable ids.fit := inferInstanceAs (Decidable (_ ∧ _))

def EngineIds.write (ids : EngineIds) (engine : EngineBlock) (entry : FoeEntry) : FoeEntry :=
  engine.cdrtId.set (ids.cdrtId.setWidth 8) (engine.topsEntry.set (ids.topsEntry.setWidth 6)
    (engine.tportId.set (ids.tportId.setWidth 4) entry))

/-- The addresses of an entry: `swab32` and `swab16` of the octets. -/
def writeMacs (l2 : L2Block) (dmac smac : Mac) (entry : FoeEntry) : FoeEntry :=
  let entry := l2.dmacHi.set (dmac.extractLsb' 16 32) entry
  let entry := l2.dmacLo.set (dmac.extractLsb' 0 16) entry
  let entry := l2.smacHi.set (smac.extractLsb' 16 32) entry
  l2.smacLo.set (smac.extractLsb' 0 16) entry

def HnaptLine.entry (line : HnaptLine) (entry : FoeEntry) : FoeEntry :=
  let entry := Foe.Ipv4Hnapt.sip.set line.sip entry
  let entry := Foe.Ipv4Hnapt.dip.set line.dip entry
  let entry := Foe.Ipv4Hnapt.sport.set line.sport entry
  let entry := Foe.Ipv4Hnapt.dport.set line.dport entry
  let entry := Ipv4Hnapt.infoBlk2.set line.infoBlk2 entry
  let entry := Foe.Ipv4Hnapt.newSip.set line.newSip entry
  let entry := Foe.Ipv4Hnapt.newDip.set line.newDip entry
  let entry := Foe.Ipv4Hnapt.newSport.set line.newSport entry
  let entry := Foe.Ipv4Hnapt.newDport.set line.newDport entry
  let entry := line.engine.write Foe.Ipv4Hnapt.engine entry
  writeMacs Foe.Ipv4Hnapt.l2 (hnatParseMac line.dmacStr) (hnatParseMac line.smacStr) entry

def RouteLine.entry (line : RouteLine) (entry : FoeEntry) : FoeEntry :=
  let entry := line.ipv6Sip.write Foe.Ipv65tRoute.ipv6Sip entry
  let entry := line.ipv6Dip.write Foe.Ipv65tRoute.ipv6Dip entry
  let entry := Foe.Ipv65tRoute.sport.set line.sport entry
  let entry := Foe.Ipv65tRoute.dport.set line.dport entry
  let entry := Ipv65tRoute.infoBlk2.set line.infoBlk2 entry
  let entry := line.engine.write Foe.Ipv65tRoute.engine entry
  writeMacs Foe.Ipv65tRoute.l2 (hnatParseMac line.dmacStr) (hnatParseMac line.smacStr) entry

def BridgeLine.entry (line : BridgeLine) (entry : FoeEntry) : FoeEntry :=
  let dmac := hnatParseMac line.dmacStr
  let smac := hnatParseMac line.smacStr
  let newDmac := hnatParseMac line.newDmacStr
  let newSmac := hnatParseMac line.newSmacStr
  let entry := Foe.L2Bridge.etype.set line.etype entry
  let entry := Foe.L2Bridge.vlan1.set line.vlan1 entry
  let entry := Foe.L2Bridge.vlan2.set line.vlan2 entry
  let entry := L2Bridge.infoBlk2.set line.infoBlk2 entry
  let entry := Foe.L2Bridge.newVlan1.set line.newVlan1 entry
  let entry := Foe.L2Bridge.newVlan2.set line.newVlan2 entry
  let entry := Foe.L2Bridge.hph.set 0xa5a5 entry
  let entry := Foe.L2Bridge.dmacHi.set (dmac.extractLsb' 16 32) entry
  let entry := Foe.L2Bridge.dmacLo.set (dmac.extractLsb' 0 16) entry
  let entry := Foe.L2Bridge.smacHi.set (smac.extractLsb' 16 32) entry
  let entry := Foe.L2Bridge.smacLo.set (smac.extractLsb' 0 16) entry
  let entry := Foe.L2Bridge.newDmacHi.set (newDmac.extractLsb' 16 32) entry
  let entry := Foe.L2Bridge.newDmacLo.set (newDmac.extractLsb' 0 16) entry
  let entry := Foe.L2Bridge.newSmacHi.set (newSmac.extractLsb' 16 32) entry
  Foe.L2Bridge.newSmacLo.set (newSmac.extractLsb' 0 16) entry

/-- `hash >= (int)hnat_priv->foe_etry_num || hash < -1`. -/
def hashRefused (plat : Platform) (hash : Int) : Prop := plat.foeEtryNum ≤ hash ∨ hash < -1

instance (plat : Platform) (hash : Int) : Decidable (hashRefused plat hash) :=
  inferInstanceAs (Decidable (_ ∨ _))

/-- `hash` and `entry` once the line is read, or `none` for each `return -EFAULT`. -/
def staticEntry (plat : Platform) (scan : Scan) (readable : Bool) (text : List Char) :
    Option (Int × FoeEntry) :=
  if 256 ≤ text.length ∨ readable = false then none
  else
    match scan.head text with
    | none => none
    | some (hash, blk1) =>
      let entry := infoBlk1.set blk1 FoeEntry.zero
      if pktTypeOf entry = IPV4_HNAPT then
        match scan.ipv4Hnapt text with
        | none => none
        | some line =>
          if hashRefused plat hash ∨ ¬ line.engine.fit then none
          else some (hash, line.entry entry)
      else if pktTypeOf entry = IPV6_5T_ROUTE then
        match scan.ipv65tRoute text with
        | none => none
        | some line =>
          if hashRefused plat hash ∨ ¬ line.engine.fit then none
          else some (hash, line.entry entry)
      else if pktTypeOf entry = L2_BRIDGE then
        match scan.l2Bridge text with
        | none => none
        | some line => if hashRefused plat hash then none else some (hash, line.entry entry)
      else none

def staticHash (plat : Platform) (hash : Int) (entry : FoeEntry) : Nat :=
  if hash = -1 then (hnatGetPpeHash plat entry).toNat else hash.toNat

def staticPpe (plat : Platform) (entry : FoeEntry) : Nat :=
  if 3 ≤ plat.ppeNum ∧ Bfib1.sp.get entry = NR_GMAC3_PORT then 2
  else if 2 ≤ plat.ppeNum ∧ Bfib1.sp.get entry = NR_GMAC2_PORT then 1
  else 0

/-- The result, the memory at `foe_table_cpu` after it, and the slot that `entry_detail` shows. -/
structure StaticWrite where
  ret : Int
  table : FoeTable
  detail : Option (Nat × Nat)

def bound (table : FoeTable) (ppe hash : Nat) : Bool := stateOf (table ppe hash) == BIND

def hnatStaticEntryWrite (plat : Platform) (scan : Scan) (readable : Bool) (text : List Char)
    (table : FoeTable) : StaticWrite :=
  match staticEntry plat scan readable text with
  | none => { ret := -EFAULT, table, detail := none }
  | some (hash, entry) =>
    let ppeId := staticPpe plat entry
    -- `coll < 4`
    let slot := probe (bound table ppeId) 4 (staticHash plat hash entry)
    { ret := text.length
      table := table.write ppeId slot entry
      detail := some (ppeId, slot) }

/-- The write stores at a free slot of a table and nowhere else, or it fails and leaves everything
as it is. -/
def Guarded (plat : Platform) (table : FoeTable) (result : StaticWrite) : Prop :=
  match result.detail with
  | some (ppe, slot) =>
    (ppe = 0 ∨ ppe < plat.ppeNum) ∧ slot < plat.foeEtryNum ∧ bound table ppe slot = false ∧
      0 ≤ result.ret ∧ ∀ p h, p ≠ ppe ∨ h ≠ slot → result.table p h = table p h
  | none => result.ret < 0 ∧ result.table = table

theorem staticPpe_exists (plat : Platform) (entry : FoeEntry) :
    staticPpe plat entry = 0 ∨ staticPpe plat entry < plat.ppeNum := by
  unfold staticPpe
  split_ifs with third second
  · right
    exact third.1
  · right
    exact second.1
  · left
    rfl

theorem write_other (table : FoeTable) (ppe hash : Nat) (entry : FoeEntry) (p h : Nat)
    (other : p ≠ ppe ∨ h ≠ hash) : table.write ppe hash entry p h = table p h := by
  unfold FoeTable.write
  rw [if_neg]
  rintro ⟨samePpe, sameHash⟩
  obtain differ | differ := other
  · exact differ samePpe
  · exact differ sameHash

section

variable (plat : Platform) (scan : Scan) (readable : Bool) (text : List Char) (table : FoeTable)

theorem write_refused (refused : staticEntry plat scan readable text = none) :
    hnatStaticEntryWrite plat scan readable text table =
      { ret := -EFAULT, table, detail := none } := by
  unfold hnatStaticEntryWrite
  rw [refused]

theorem write_accepted {hash : Int} {entry : FoeEntry}
    (accepted : staticEntry plat scan readable text = some (hash, entry)) :
    hnatStaticEntryWrite plat scan readable text table =
      { ret := text.length
        table := table.write (staticPpe plat entry)
          (probe (bound table (staticPpe plat entry)) 4 (staticHash plat hash entry)) entry
        detail := some (staticPpe plat entry,
          probe (bound table (staticPpe plat entry)) 4 (staticHash plat hash entry)) } := by
  unfold hnatStaticEntryWrite
  rw [accepted]

/-- An insertion is guarded exactly if one of the five slots from the hash on is inside the table
and not bound. -/
theorem static_write_guarded_iff :
    Guarded plat table (hnatStaticEntryWrite plat scan readable text table) ↔
      ∀ hash entry, staticEntry plat scan readable text = some (hash, entry) →
        ∃ k, k ≤ 4 ∧ staticHash plat hash entry + k < plat.foeEtryNum ∧
          bound table (staticPpe plat entry) (staticHash plat hash entry + k) = false := by
  cases read : staticEntry plat scan readable text with
  | none =>
    rw [write_refused plat scan readable text table read]
    constructor
    · intro _ hash entry impossible
      exact absurd impossible (by simp)
    · intro _
      have negative : -EFAULT < 0 := by decide
      exact ⟨negative, rfl⟩
  | some line =>
    obtain ⟨hash, entry⟩ := line
    have fits := probe_fits_iff (bound table (staticPpe plat entry)) 4
      (staticHash plat hash entry) plat.foeEtryNum
    rw [write_accepted plat scan readable text table read]
    constructor
    · intro guarded hash' entry' same
      obtain ⟨-, inside, free, -⟩ := guarded
      obtain ⟨rfl, rfl⟩ : hash = hash' ∧ entry = entry' := by
        simpa using same
      exact fits.mp ⟨inside, free⟩
    · intro room
      obtain ⟨inside, free⟩ := fits.mpr (room hash entry rfl)
      refine ⟨staticPpe_exists plat entry, inside, free, Int.natCast_nonneg _, ?_⟩
      intro p h other
      exact write_other table _ _ entry p h other

end

def fullText : List Char :=
  ("0 20000000 c0a80101 c0a80202 1000 2000 0 c0a80101 c0a80202 1000 2000 " ++
    "00:00:00:00:00:00 00:00:00:00:00:00 1 0 0").toList

def zeroMac : MacStr := fun i =>
  if i = 17 then Char.ofNat 0 else if i.val % 3 = 2 then ':' else '0'

def fullLine : HnaptLine where
  sip := 0xc0a80101
  dip := 0xc0a80202
  sport := 0x1000
  dport := 0x2000
  infoBlk2 := 0
  newSip := 0xc0a80101
  newDip := 0xc0a80202
  newSport := 0x1000
  newDport := 0x2000
  dmacStr := zeroMac
  smacStr := zeroMac
  engine := ⟨1, 0, 0⟩

/-- What `sscanf` reads from `fullText`: a bound IPv4 entry for hash 0. -/
def fullScan : Scan where
  head := fun _ => some (0, 0x20000000)
  ipv4Hnapt := fun _ => some fullLine
  ipv65tRoute := fun _ => none
  l2Bridge := fun _ => none

def boundTable : FoeTable := fun _ _ => Bfib1.state.set BIND FoeEntry.zero

/-- The entry replaces the bound one in slot 4, and the write reports success. -/
theorem full_chain_overwritten :
    let result := hnatStaticEntryWrite ⟨3, 16384, 16⟩ fullScan true fullText boundTable
    result.detail = some (0, 4) ∧ bound boundTable 0 4 = true ∧ result.ret = fullText.length ∧
      ¬ Guarded ⟨3, 16384, 16⟩ boundTable result := by
  have short : ¬ (256 ≤ fullText.length ∨ true = false) := by decide
  have read : staticEntry ⟨3, 16384, 16⟩ fullScan true fullText =
      some (0, fullLine.entry (infoBlk1.set 0x20000000 FoeEntry.zero)) := by
    unfold staticEntry
    rw [if_neg short]
    rfl
  have ppe : staticPpe ⟨3, 16384, 16⟩
      (fullLine.entry (infoBlk1.set 0x20000000 FoeEntry.zero)) = 0 := by
    decide
  have taken : bound boundTable 0 4 = true := by decide
  have last : probe (bound boundTable 0) 4 0 = 4 := by decide
  simp only [write_accepted _ _ _ _ _ read, ppe]
  have chosen : probe (bound boundTable 0) 4 (staticHash ⟨3, 16384, 16⟩ 0
      (fullLine.entry (infoBlk1.set 0x20000000 FoeEntry.zero))) = 4 := last
  refine ⟨by rw [chosen], taken, trivial, ?_⟩
  rintro ⟨-, -, free, -⟩
  rw [chosen, taken] at free
  exact absurd free Bool.noConfusion

end OpenwrtSource.Hnat.StaticEntry
