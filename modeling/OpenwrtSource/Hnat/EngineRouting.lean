import OpenwrtSource.Hnat.FlowKeys

/-!
# The ids of the engines in every layout

`hnat_fill_offload_engine_entry` knows the layout of the IPv4 types and that of a
routed IPv6 entry.  Where the layout of a type has its engine word elsewhere, or none,
the ids end up in what the entry keeps at the word of a routed one.
-/

namespace OpenwrtSource.Hnat.EngineRouting

open Lib.BitField Hnat.Foe Hnat.BindPacket Hnat.BindFill Hnat.BindEntry Hnat.BindEffects
open Hnat.EngineWord Hnat.FlowKeys

/-- The word that the engines read in an entry of the type.  A bridge entry has none. -/
def engineWord (pktType : FoeIpAct) : Option (Fin 32) :=
  if isIpv4Grp pktType ∨ isIpv6Grp pktType then some (engineOf pktType).tportId.word else none

/-- The words with the addresses and ports that a packet of the type leaves with. -/
def rewriteWords (pktType : FoeIpAct) : List (Fin 32) :=
  let tunnel := [4, 5, 6, 7, 8, 9, 10, 11]
  let newIp := [21, 22, 23, 24]
  if pktType = IPV4_HNAPT then
    [Ipv4Hnapt.newSip.word, Ipv4Hnapt.newDip.word, Ipv4Hnapt.newSport.word]
  else if pktType = IPV4_HNAT then [Ipv4Hnapt.newSip.word, Ipv4Hnapt.newDip.word]
  else if pktType = L2_BRIDGE then
    [L2Bridge.newDmacHi.word, L2Bridge.newDmacLo.word, L2Bridge.newSmacHi.word,
      L2Bridge.newSmacLo.word]
  else if pktType = IPV4_DSLITE then tunnel
  else if pktType = IPV4_MAP_E ∨ pktType = IPV4_MAP_T then
    tunnel ++ [Ipv4Mape.newSip.word, Ipv4Mape.newDip.word, Ipv4Mape.newSport.word]
  else if pktType = IPV6_6RD then [Ipv66rd.tunnelSipv4.word, Ipv66rd.tunnelDipv4.word]
  else if pktType = IPV6_HNAPT then newIp ++ [Ipv6Hnapt.newSport.word]
  else if pktType = IPV6_HNAT then newIp
  else []

structure Undisturbed (before after : FoeEntry) : Prop where
  pktType : pktTypeOf after = pktTypeOf before
  udp : Bfib1.udp.get after = Bfib1.udp.get before
  key : ∀ word ∈ flowWords (pktTypeOf before), after word = before word
  rewrite : ∀ word ∈ rewriteWords (pktTypeOf before), after word = before word

def Routed (ids : EngineIds) (entry : FoeEntry) : Prop :=
  ids = .none ∨ ∃ word ∈ engineWord (pktTypeOf entry), EngineIds.Agree ids (entry word)

/-- Only the word of the engines has changed, if anything. -/
def OnlyEngine (before after : FoeEntry) : Prop :=
  ∀ word, word ∉ engineWord (pktTypeOf before) → after word = before word

structure Filled (ids : EngineIds) (before after : FoeEntry) : Prop where
  undisturbed : Undisturbed before after
  routed : Routed ids after
  onlyEngine : OnlyEngine before after

/-- The word of the routed layout holds the engines of these types, too. -/
def ownWord (pktType : FoeIpAct) : Bool :=
  isIpv4Grp pktType || pktType == IPV4_DSLITE || pktType == IPV6_3T_ROUTE ||
    pktType == IPV6_5T_ROUTE || pktType == IPV6_6RD

def writtenWord (pktType : FoeIpAct) : Fin 32 := if isIpv4Grp pktType then 19 else 23

theorem withIds_eq (ids : EngineIds) (entry : FoeEntry) :
    withIds ids entry = ids.write (engineBlockAt (writtenWord (pktTypeOf entry))) entry := by
  unfold withIds sharedEngine writtenWord
  split <;> rfl

theorem engineWord_of_ownWord : ∀ pktType, ownWord pktType = true →
    engineWord pktType = some (writtenWord pktType) ∧
      writtenWord pktType ∉ flowWords pktType ∧ writtenWord pktType ∉ rewriteWords pktType ∧
        writtenWord pktType ≠ 0 := by
  decide

theorem writtenWord_of_engineWord : ∀ pktType, ownWord pktType = false →
    ∀ word ∈ engineWord pktType, writtenWord pktType = 23 ∧ word ≠ 23 ∧
      23 ∈ rewriteWords pktType := by
  decide

section

variable (ids : EngineIds) (entry : FoeEntry)

theorem agree_write (word : Fin 32) :
    EngineIds.Agree ids (ids.write (engineBlockAt word) entry word) := by
  have twice : EngineIds.andThen ids ids = ids := by
    unfold EngineIds.andThen
    simp only [Option.or_self]
  rw [← write_word_eq_iff, write_write, twice]

theorem withIds_other_word {word : Fin 32} (other : word ≠ writtenWord (pktTypeOf entry)) :
    withIds ids entry word = entry word := by
  rw [withIds_eq]
  exact write_other ids other entry

/-- The ids are there already, both where they are written and where they are read. -/
def AlreadyThere : Prop :=
  ∃ word ∈ engineWord (pktTypeOf entry), EngineIds.Agree ids (entry word) ∧
    EngineIds.Agree ids (entry (writtenWord (pktTypeOf entry)))

variable {ids entry}

theorem filled_refl (routed : Routed ids entry) : Filled ids entry entry where
  undisturbed := ⟨rfl, rfl, fun _ _ => rfl, fun _ _ => rfl⟩
  routed := routed
  onlyEngine := fun _ _ => rfl

theorem filled_of_ownWord (own : ownWord (pktTypeOf entry) = true) :
    Filled ids entry (withIds ids entry) := by
  obtain ⟨engine, notKey, notRewrite, notFirst⟩ := engineWord_of_ownWord _ own
  have others : ∀ word, word ≠ writtenWord (pktTypeOf entry) →
      withIds ids entry word = entry word := fun _ other => withIds_other_word ids entry other
  refine ⟨⟨pktTypeOf_withIds ids entry, ?_, ?_, ?_⟩,
    .inr ⟨writtenWord (pktTypeOf entry), ?_, ?_⟩, ?_⟩
  · unfold Field.get
    rw [others Bfib1.udp.word notFirst.symm]
  · rintro word member
    exact others word fun same => notKey (same ▸ member)
  · rintro word member
    exact others word fun same => notRewrite (same ▸ member)
  · rw [pktTypeOf_withIds]
    exact engine
  · rw [withIds_eq]
    exact agree_write ids entry _
  · intro word outside
    refine others word fun same => outside ?_
    rw [same]
    exact engine

theorem withIds_eq_self (held : EngineIds.Agree ids (entry (writtenWord (pktTypeOf entry)))) :
    withIds ids entry = entry := by
  funext word
  by_cases written : word = writtenWord (pktTypeOf entry)
  · rw [written, withIds_eq]
    exact (write_word_eq_iff ids _ entry).mpr held
  · exact withIds_other_word ids entry written

theorem alreadyThere_of_filled (elsewhere : ownWord (pktTypeOf entry) = false) (given : ids ≠ .none)
    (filled : Filled ids entry (withIds ids entry)) : AlreadyThere ids entry := by
  obtain none | ⟨word, read, found⟩ := filled.routed
  · exact absurd none given
  · rw [pktTypeOf_withIds] at read
    obtain ⟨written, other, translated⟩ := writtenWord_of_engineWord _ elsewhere word read
    have kept := filled.undisturbed.rewrite 23 translated
    refine ⟨word, read, ?_, ?_⟩
    · rwa [withIds_other_word ids entry (written ▸ other)] at found
    · rw [withIds_eq, written] at kept
      rw [written]
      exact (write_word_eq_iff ids 23 entry).mp kept

end

/-- Filling in the ids does what it is meant to exactly where there is no id, where the
layout has its engines at the word that is written, and where nothing changes. -/
theorem hnatFillOffloadEngineEntry_filled_iff (cfg : HnatConfig) (desc : HnatDesc)
    (entry : FoeEntry) :
    Filled (offloadEngineIds cfg desc) entry (hnatFillOffloadEngineEntry cfg desc entry) ↔
      offloadEngineIds cfg desc = .none ∨ ownWord (pktTypeOf entry) = true ∨
        AlreadyThere (offloadEngineIds cfg desc) entry := by
  rw [hnatFillOffloadEngineEntry_eq]
  generalize offloadEngineIds cfg desc = ids
  constructor
  · intro filled
    by_cases none : ids = .none
    · exact .inl none
    · cases own : ownWord (pktTypeOf entry) with
      | true => exact .inr (.inl rfl)
      | false => exact .inr (.inr (alreadyThere_of_filled own none filled))
  · rintro (rfl | own | ⟨word, read, found, held⟩)
    · exact filled_refl (.inl rfl)
    · exact filled_of_ownWord own
    · rw [withIds_eq_self held]
      exact filled_refl (.inr ⟨word, read, found⟩)

def encrypted : HnatDesc := ⟨0, 0, FOE_MAGIC_GE_LAN, 0, 0, false, 1, false⟩

def router : HnatConfig where
  l2brToggle := false
  mapeToggle := false
  tnlToggle := true
  l4sToggle := false
  qosToggle := 0
  qosDlToggle := false
  qosUlToggle := false
  perFlowAccounting := false
  whnat := false
  gmacNum := 2
  wan := ['e', 't', 'h', '1']
  lan := ['e', 't', 'h', '0']
  lan2 := ['e', 't', 'h', '2']

def snatFlow : FoeEntry :=
  Bfib1.pktType.set IPV6_HNAPT
    (Ipv6Hnapt.ipv6Sip.set 0xfd000000000000000000000000000010
      (Ipv6Hnapt.ipv6Dip.set 0x20010db8000000000000000000000080
        (Ipv6Hnapt.egIpv6Dir.set IPV6_SNAT
          (Ipv6Hnapt.newIpv6Ip.set 0x20010db8000000000000000000000001 FoeEntry.zero))))

theorem hnatFillOffloadEngineEntry_overwrites_newIp :
    ¬ Filled (offloadEngineIds router encrypted) snatFlow
      (hnatFillOffloadEngineEntry router encrypted snatFlow) := by
  intro filled
  have kept := filled.undisturbed.rewrite 23 (by decide)
  exact absurd kept (by decide)

end OpenwrtSource.Hnat.EngineRouting
