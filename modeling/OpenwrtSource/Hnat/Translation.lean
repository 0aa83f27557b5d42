import OpenwrtSource.Hnat.Foe

/-!
# Address translation in software and in a FOE entry

Conntrack records for each direction of a connection which ends of the
five-tuple are translated.  A FOE entry says the same to the packet processing
engine with the `new_*` fields of its packet type, and the engine forwards
everything else of the packet unchanged.
-/

namespace OpenwrtSource.Hnat.Translation

open Lib.BitField Hnat.Foe

inductive Family where
  | ipv4
  | ipv6
  deriving DecidableEq

@[reducible] def Family.width : Family → Nat
  | .ipv4 => 32
  | .ipv6 => 128

structure Ports where
  src : BitVec 16
  dst : BitVec 16
  deriving DecidableEq

/-- A packet without readable ports, such as a fragment, has none. -/
structure Tuple (width : Nat) where
  saddr : BitVec width
  daddr : BitVec width
  protocol : BitVec 8
  ports : Option Ports
  deriving DecidableEq

structure Endpoint (width : Nat) where
  addr : BitVec width
  port : BitVec 16
  deriving DecidableEq

/-- What conntrack has recorded for this direction of a connection. -/
structure NatRecord (width : Nat) where
  src : Option (Endpoint width)
  dst : Option (Endpoint width)
  deriving DecidableEq

variable {width : Nat}

def NatRecord.translate (nat : NatRecord width) (tuple : Tuple width) : Tuple width where
  saddr := (nat.src.map Endpoint.addr).getD tuple.saddr
  daddr := (nat.dst.map Endpoint.addr).getD tuple.daddr
  protocol := tuple.protocol
  ports := tuple.ports.map fun ports =>
    ⟨(nat.src.map Endpoint.port).getD ports.src, (nat.dst.map Endpoint.port).getD ports.dst⟩

/-- The fields that an entry rewrites, each with its new value. -/
structure Rewrite (width : Nat) where
  saddr : Option (BitVec width)
  daddr : Option (BitVec width)
  sport : Option (BitVec 16)
  dport : Option (BitVec 16)
  deriving DecidableEq

def Rewrite.unchanged : Rewrite width := ⟨none, none, none, none⟩

def Rewrite.apply (rewrite : Rewrite width) (tuple : Tuple width) : Tuple width where
  saddr := rewrite.saddr.getD tuple.saddr
  daddr := rewrite.daddr.getD tuple.daddr
  protocol := tuple.protocol
  ports := tuple.ports.map fun ports =>
    ⟨rewrite.sport.getD ports.src, rewrite.dport.getD ports.dst⟩

@[simp] theorem Rewrite.apply_unchanged (tuple : Tuple width) :
    Rewrite.unchanged.apply tuple = tuple := by
  obtain ⟨saddr, daddr, protocol, ports⟩ := tuple
  cases ports <;> rfl

/-- A tuple that a translation can be the source and the result of. -/
def SameKind (before after : Tuple width) : Prop :=
  after.protocol = before.protocol ∧ after.ports.isSome = before.ports.isSome

theorem NatRecord.sameKind_translate (nat : NatRecord width) (tuple : Tuple width) :
    SameKind tuple (nat.translate tuple) := by
  simp [SameKind, translate]

theorem Rewrite.apply_eq_iff (rewrite : Rewrite width) {before after : Tuple width}
    (kind : SameKind before after) :
    rewrite.apply before = after ↔
      rewrite.saddr.getD before.saddr = after.saddr ∧
        rewrite.daddr.getD before.daddr = after.daddr ∧
          ∀ old ∈ before.ports, ∀ new ∈ after.ports,
            rewrite.sport.getD old.src = new.src ∧ rewrite.dport.getD old.dst = new.dst := by
  obtain ⟨saddr, daddr, protocol, ports⟩ := before
  obtain ⟨saddr', daddr', protocol', ports'⟩ := after
  obtain ⟨rfl, both⟩ := kind
  cases ports with
  | none =>
    obtain rfl : ports' = none := by simpa using both
    simp [apply]
  | some old =>
    obtain ⟨new, rfl⟩ : ∃ new, ports' = some new := by simpa [Option.isSome_iff_exists] using both
    obtain ⟨src, dst⟩ := new
    simp [apply]

def rewrite4 (entry : FoeEntry) : Rewrite 32 :=
  if pktTypeOf entry = IPV4_HNAPT then
    ⟨some (Ipv4Hnapt.newSip.get entry), some (Ipv4Hnapt.newDip.get entry),
      some (Ipv4Hnapt.newSport.get entry), some (Ipv4Hnapt.newDport.get entry)⟩
  else if pktTypeOf entry = IPV4_HNAT then
    ⟨some (Ipv4Hnapt.newSip.get entry), some (Ipv4Hnapt.newDip.get entry), none, none⟩
  else if pktTypeOf entry = IPV4_MAP_E then
    ⟨some (Ipv4Mape.newSip.get entry), some (Ipv4Mape.newDip.get entry),
      some (Ipv4Mape.newSport.get entry), some (Ipv4Mape.newDport.get entry)⟩
  else .unchanged

/-- An IPv6 entry has room for one new address; `eg_ipv6_dir` says for which end. -/
def rewrite6 (entry : FoeEntry) : Rewrite 128 :=
  if pktTypeOf entry = IPV6_HNAPT then
    if Ipv6Hnapt.egIpv6Dir.get entry = IPV6_SNAT then
      ⟨some (Ipv6Hnapt.newIpv6Ip.get entry), none, some (Ipv6Hnapt.newSport.get entry),
        some (Ipv6Hnapt.newDport.get entry)⟩
    else
      ⟨none, some (Ipv6Hnapt.newIpv6Ip.get entry), some (Ipv6Hnapt.newSport.get entry),
        some (Ipv6Hnapt.newDport.get entry)⟩
  else .unchanged

def rewriteOf : (family : Family) → FoeEntry → Rewrite family.width
  | .ipv4 => rewrite4
  | .ipv6 => rewrite6

def ppeForward (family : Family) (entry : FoeEntry) (tuple : Tuple family.width) :
    Tuple family.width :=
  (rewriteOf family entry).apply tuple

def mark {n : Nat} (field : EntryField n) (entry : FoeEntry) : FoeEntry :=
  field.set (BitVec.allOnes n) entry

def markPorts (sport dport : EntryField 16) (entry : FoeEntry) : FoeEntry :=
  mark sport (mark dport entry)

def markIpv6 (field : Ipv6Field) (entry : FoeEntry) : FoeEntry :=
  mark field.ip0 (mark field.ip1 (mark field.ip2 (mark field.ip3 entry)))

def rewriteBits (pktType : FoeIpAct) : FoeEntry :=
  mark Bfib1.pktType
    (if pktType = IPV4_HNAPT ∨ pktType = IPV4_HNAT then
      mark Ipv4Hnapt.newSip (mark Ipv4Hnapt.newDip
        (markPorts Ipv4Hnapt.newSport Ipv4Hnapt.newDport FoeEntry.zero))
    else if pktType = IPV4_MAP_E then
      mark Ipv4Mape.newSip (mark Ipv4Mape.newDip
        (markPorts Ipv4Mape.newSport Ipv4Mape.newDport FoeEntry.zero))
    else if pktType = IPV6_HNAPT then
      mark Ipv6Hnapt.egIpv6Dir (markIpv6 Ipv6Hnapt.newIpv6Ip
        (markPorts Ipv6Hnapt.newSport Ipv6Hnapt.newDport FoeEntry.zero))
    else FoeEntry.zero)

/-- The words, from word 1 on, with the key that the engine looks a packet up
with, and with tunnel addresses where the key is shorter. -/
def keyWords (pktType : FoeIpAct) : Nat :=
  if isIpv4Grp pktType then 3
  else if isIpv6Grp pktType then 9
  else if pktType = L2_BRIDGE then 5
  else 0

/-- The bits that say which flow an entry is for and what becomes of it. -/
def flowBits (pktType : FoeIpAct) : FoeEntry := fun word =>
  if word = 0 then rewriteBits pktType 0 ||| Bfib1.udp.mask
  else if word.val ≤ keyWords pktType then BitVec.allOnes 32
  else rewriteBits pktType word

/-- The bits of the packet type of `before` are the same in both entries. -/
def Keeps (bits : FoeIpAct → FoeEntry) (before after : FoeEntry) : Prop :=
  KeepsBits (bits (pktTypeOf before)) before after

abbrev KeepsRewrite := Keeps rewriteBits

abbrev KeepsFlow := Keeps flowBits

def Typed (bits : FoeIpAct → FoeEntry) : Prop := ∀ pktType, Bfib1.pktType.Within (bits pktType)

theorem typed_rewriteBits : Typed rewriteBits := by
  unfold Typed
  decide

theorem typed_flowBits : Typed flowBits := by
  unfold Typed
  decide

section

variable {bits : FoeIpAct → FoeEntry} {before after : FoeEntry}

theorem Keeps.refl (entry : FoeEntry) : Keeps bits entry entry :=
  KeepsBits.refl _ _

theorem Keeps.pktType (typed : Typed bits) (keeps : Keeps bits before after) :
    pktTypeOf after = pktTypeOf before :=
  KeepsBits.get keeps Bfib1.pktType (typed _)

variable {first second : FoeEntry} {n : Nat} {types : FoeIpAct → Bool}

theorem Keeps.trans (typed : Typed bits) {third : FoeEntry} (left : Keeps bits first second)
    (right : Keeps bits second third) : Keeps bits first third := by
  unfold Keeps at right
  rw [left.pktType typed] at right
  exact KeepsBits.trans left right

theorem Keeps.ite (condition : Prop) [Decidable condition]
    (left : condition → Keeps bits before first) (right : ¬ condition → Keeps bits before second) :
    Keeps bits before (if condition then first else second) := by
  split
  · exact left ‹_›
  · exact right ‹_›

theorem Keeps.setOf (keeps : Keeps bits before after) (fieldOf : FoeIpAct → EntryField n)
    (value : BitVec n) (spares : ∀ pktType, (fieldOf pktType).Spares (bits pktType)) :
    Keeps bits before ((fieldOf (pktTypeOf before)).set value after) :=
  KeepsBits.trans keeps ((fieldOf _).keepsBits_set value after (spares _))

theorem Keeps.setIfOf (keeps : Keeps bits before after) (condition : Bool)
    (fieldOf : FoeIpAct → EntryField n) (value : BitVec n)
    (spares : ∀ pktType, (fieldOf pktType).Spares (bits pktType)) :
    Keeps bits before ((fieldOf (pktTypeOf before)).setIf condition value after) :=
  Keeps.ite _ (fun _ => keeps.setOf fieldOf value spares) fun _ => keeps

theorem Keeps.set (keeps : Keeps bits before after) (field : EntryField n) (value : BitVec n)
    (spares : ∀ pktType, field.Spares (bits pktType)) : Keeps bits before (field.set value after) :=
  keeps.setOf (fun _ => field) value spares

theorem Keeps.setIf (keeps : Keeps bits before after) (condition : Bool) (field : EntryField n)
    (value : BitVec n) (spares : ∀ pktType, field.Spares (bits pktType)) :
    Keeps bits before (field.setIf condition value after) :=
  keeps.setIfOf condition (fun _ => field) value spares

theorem Keeps.setIn (keeps : Keeps bits before after) (type : types (pktTypeOf before) = true)
    (field : EntryField n) (value : BitVec n)
    (spares : ∀ pktType, types pktType = true → field.Spares (bits pktType)) :
    Keeps bits before (field.set value after) :=
  KeepsBits.trans keeps (field.keepsBits_set value after (spares _ type))

theorem Keeps.get {pktType : FoeIpAct} (keeps : Keeps bits before after) (field : EntryField n)
    (type : pktTypeOf before = pktType) (within : field.Within (bits pktType)) :
    field.get after = field.get before := by
  unfold Keeps at keeps
  rw [type] at keeps
  exact keeps.get field within

theorem Keeps.getIn (keeps : Keeps bits before after) (type : types (pktTypeOf before) = true)
    (field : EntryField n)
    (within : ∀ pktType, types pktType = true → field.Within (bits pktType)) :
    field.get after = field.get before :=
  KeepsBits.get keeps field (within _ type)

end

section

variable {before after : FoeEntry}

theorem KeepsFlow.rewrite (keeps : KeepsFlow before after) : KeepsRewrite before after :=
  KeepsBits.mono keeps ((by decide : ∀ pktType word,
    flowBits pktType word &&& rewriteBits pktType word = rewriteBits pktType word) _)

theorem KeepsRewrite.rewrite4 (keeps : KeepsRewrite before after) :
    rewrite4 after = rewrite4 before := by
  unfold Translation.rewrite4
  rw [keeps.pktType typed_rewriteBits]
  split
  · rename_i type
    rw [keeps.get Ipv4Hnapt.newSip type (by decide),
      keeps.get Ipv4Hnapt.newDip type (by decide),
      keeps.get Ipv4Hnapt.newSport type (by decide),
      keeps.get Ipv4Hnapt.newDport type (by decide)]
  · split
    · rename_i type
      rw [keeps.get Ipv4Hnapt.newSip type (by decide),
        keeps.get Ipv4Hnapt.newDip type (by decide)]
    · split
      · rename_i type
        rw [keeps.get Ipv4Mape.newSip type (by decide),
          keeps.get Ipv4Mape.newDip type (by decide),
          keeps.get Ipv4Mape.newSport type (by decide),
          keeps.get Ipv4Mape.newDport type (by decide)]
      · rfl

theorem KeepsRewrite.newIpv6Ip (keeps : KeepsRewrite before after)
    (type : pktTypeOf before = IPV6_HNAPT) :
    Ipv6Hnapt.newIpv6Ip.get after = Ipv6Hnapt.newIpv6Ip.get before := by
  unfold Ipv6Field.get
  rw [keeps.get Ipv6Hnapt.newIpv6Ip.ip0 type (by decide),
    keeps.get Ipv6Hnapt.newIpv6Ip.ip1 type (by decide),
    keeps.get Ipv6Hnapt.newIpv6Ip.ip2 type (by decide),
    keeps.get Ipv6Hnapt.newIpv6Ip.ip3 type (by decide)]

theorem KeepsRewrite.rewrite6 (keeps : KeepsRewrite before after) :
    rewrite6 after = rewrite6 before := by
  unfold Translation.rewrite6
  rw [keeps.pktType typed_rewriteBits]
  by_cases type : pktTypeOf before = IPV6_HNAPT
  · rw [keeps.get Ipv6Hnapt.egIpv6Dir type (by decide), keeps.newIpv6Ip type,
      keeps.get Ipv6Hnapt.newSport type (by decide),
      keeps.get Ipv6Hnapt.newDport type (by decide)]
  · simp only [type, if_false]

theorem KeepsRewrite.rewriteOf (keeps : KeepsRewrite before after) (family : Family) :
    rewriteOf family after = rewriteOf family before := by
  cases family with
  | ipv4 => exact keeps.rewrite4
  | ipv6 => exact keeps.rewrite6

end

end OpenwrtSource.Hnat.Translation
