import OpenwrtSource.Hnat.BindMulticast

/-!
# The word of the engines

The steps after the fill put the ids of the engines at one word for all packet
types but the IPv4 ones.  A MAP-E entry keeps its new ports there, and an entry
that translates IPv6 addresses the third word of the new address.
-/

namespace OpenwrtSource.Hnat.EngineWord

open Lib.BitField Hnat.Foe Hnat.McastTable Hnat.Translation Hnat.BindEntry Hnat.BindEffects
open Hnat.BindMulticast

/-- What both writes leave, where the second one comes later. -/
def EngineIds.andThen (first second : EngineIds) : EngineIds where
  tportId := second.tportId.or first.tportId
  cdrtId := second.cdrtId.or first.cdrtId
  topsEntry := second.topsEntry.or first.topsEntry

section

variable {n m : Nat}

theorem setSome_setSome (field : EntryField n) (first second : Option (BitVec n))
    (entry : FoeEntry) :
    setSome field second (setSome field first entry) = setSome field (second.or first) entry := by
  cases second with
  | none => rfl
  | some value =>
    cases first with
    | none => rfl
    | some value' => exact field.set_set value value' entry

theorem setSome_comm (left : EntryField n) (right : EntryField m) (value : Option (BitVec n))
    (value' : Option (BitVec m)) (entry : FoeEntry) (apart : left.Apart right) :
    setSome left value (setSome right value' entry) =
      setSome right value' (setSome left value entry) := by
  cases value with
  | none => rfl
  | some value =>
    cases value' with
    | none => rfl
    | some value' => exact left.set_comm right value value' entry apart

end

theorem engineBlock_apart : ∀ word,
    (engineBlockAt word).cdrtId.Apart (engineBlockAt word).tportId ∧
      (engineBlockAt word).topsEntry.Apart (engineBlockAt word).tportId ∧
      (engineBlockAt word).cdrtId.Apart (engineBlockAt word).topsEntry ∧
      (engineBlockAt word).tportId.Apart (engineBlockAt word).topsEntry ∧
      (engineBlockAt word).tportId.Apart (engineBlockAt word).cdrtId ∧
      (engineBlockAt word).topsEntry.Apart (engineBlockAt word).cdrtId := by
  decide

theorem write_write (first second : EngineIds) (word : Fin 32) (entry : FoeEntry) :
    second.write (engineBlockAt word) (first.write (engineBlockAt word) entry) =
      (EngineIds.andThen first second).write (engineBlockAt word) entry := by
  obtain ⟨-, -, cdrtTops, tportTops, tportCdrt, -⟩ := engineBlock_apart word
  unfold EngineIds.write EngineIds.andThen
  dsimp only
  rw [setSome_comm _ _ _ _ _ tportTops, setSome_comm _ _ _ _ _ cdrtTops,
    setSome_comm _ _ _ _ _ tportCdrt, setSome_setSome, setSome_setSome, setSome_setSome]

theorem withIds_withIds (first second : EngineIds) (entry : FoeEntry) :
    withIds second (withIds first entry) = withIds (EngineIds.andThen first second) entry := by
  have type := pktTypeOf_withIds first entry
  unfold withIds at type ⊢
  rw [type]
  unfold sharedEngine
  split
  · exact write_write first second 19 entry
  · exact write_write first second 23 entry

def EngineIds.Agree (ids : EngineIds) (word : BitVec 32) : Prop :=
  (∀ tportId ∈ ids.tportId, word.extractLsb' 16 4 = tportId) ∧
    (∀ cdrtId ∈ ids.cdrtId, word.extractLsb' 0 8 = cdrtId) ∧
      ∀ topsEntry ∈ ids.topsEntry, word.extractLsb' 8 6 = topsEntry

instance (ids : EngineIds) (word : BitVec 32) : Decidable (EngineIds.Agree ids word) :=
  inferInstanceAs (Decidable ((∀ tportId ∈ ids.tportId, _) ∧ (∀ cdrtId ∈ ids.cdrtId, _) ∧
    ∀ topsEntry ∈ ids.topsEntry, _))

theorem get_setSome {n : Nat} (field : EntryField n) (value : Option (BitVec n))
    (entry : FoeEntry) : field.get (setSome field value entry) = value.getD (field.get entry) := by
  cases value with
  | none => rfl
  | some value => exact field.get_set value entry

theorem setSome_eq_self {n : Nat} (field : EntryField n) (value : Option (BitVec n))
    (entry : FoeEntry) (held : ∀ id ∈ value, field.get entry = id) :
    setSome field value entry = entry := by
  cases value with
  | none => rfl
  | some value => exact (field.set_eq_self_iff value entry).mpr (held value rfl)

theorem write_word_eq_iff (ids : EngineIds) (word : Fin 32) (entry : FoeEntry) :
    ids.write (engineBlockAt word) entry word = entry word ↔
      EngineIds.Agree ids (entry word) := by
  constructor
  · intro unchanged
    have kept : ∀ {n : Nat} (field : EntryField n), field.word = word →
        field.get (ids.write (engineBlockAt word) entry) = field.get entry := by
      rintro n field rfl
      unfold Field.get
      rw [unchanged]
    have tport := kept (engineBlockAt word).tportId rfl
    have cdrt := kept (engineBlockAt word).cdrtId rfl
    have tops := kept (engineBlockAt word).topsEntry rfl
    obtain ⟨cdrtTport, topsTport, cdrtTops, tportTops, tportCdrt, topsCdrt⟩ :=
      engineBlock_apart word
    unfold EngineIds.write at tport cdrt tops
    rw [get_setSome_of_apart _ _ _ _ topsTport, get_setSome_of_apart _ _ _ _ cdrtTport,
      get_setSome] at tport
    rw [get_setSome_of_apart _ _ _ _ topsCdrt, get_setSome,
      get_setSome_of_apart _ _ _ _ tportCdrt] at cdrt
    rw [get_setSome, get_setSome_of_apart _ _ _ _ cdrtTops,
      get_setSome_of_apart _ _ _ _ tportTops] at tops
    refine ⟨fun id inIds => ?_, fun id inIds => ?_, fun id inIds => ?_⟩
    · rw [Option.mem_def.mp inIds] at tport
      exact tport.symm
    · rw [Option.mem_def.mp inIds] at cdrt
      exact cdrt.symm
    · rw [Option.mem_def.mp inIds] at tops
      exact tops.symm
  · rintro ⟨tport, cdrt, tops⟩
    unfold EngineIds.write
    rw [setSome_eq_self (engineBlockAt word).tportId _ _ tport,
      setSome_eq_self (engineBlockAt word).cdrtId _ _ cdrt,
      setSome_eq_self (engineBlockAt word).topsEntry _ _ tops]

section

variable (ids : EngineIds) {entry : FoeEntry}

theorem get_withIds {n : Nat} (field : EntryField n) (other : ¬ isIpv4Grp (pktTypeOf entry) = true)
    (apart : Ipv65tRoute.engine.tportId.Apart field ∧ Ipv65tRoute.engine.cdrtId.Apart field ∧
      Ipv65tRoute.engine.topsEntry.Apart field) :
    field.get (withIds ids entry) = field.get entry := by
  obtain ⟨tport, cdrt, tops⟩ := apart
  rw [withIds_other ids other]
  unfold EngineIds.write
  rw [get_setSome_of_apart _ _ _ _ tops, get_setSome_of_apart _ _ _ _ cdrt,
    get_setSome_of_apart _ _ _ _ tport]

theorem foeGroupIp_withIds : foeGroupIp (withIds ids entry) = foeGroupIp entry := by
  have dip : Ipv4Hnapt.dip.get (withIds ids entry) = Ipv4Hnapt.dip.get entry := by
    unfold withIds sharedEngine EngineIds.write
    split <;> simp (disch := decide) only [get_setSome_of_apart]
  have ipv6Dip : Ipv65tRoute.ipv6Dip.get (withIds ids entry) =
      Ipv65tRoute.ipv6Dip.get entry := by
    unfold withIds sharedEngine EngineIds.write Ipv6Field.get
    split <;> simp (disch := decide) only [get_setSome_of_apart]
  unfold foeGroupIp
  rw [pktTypeOf_withIds, dip, ipv6Dip]

theorem rewriteOf_withIds (family : Family) (notMape : pktTypeOf entry ≠ IPV4_MAP_E)
    (notHnapt6 : pktTypeOf entry ≠ IPV6_HNAPT) :
    rewriteOf family (withIds ids entry) = rewriteOf family entry := by
  cases family with
  | ipv4 =>
    change rewrite4 _ = rewrite4 _
    unfold rewrite4
    rw [pktTypeOf_withIds]
    by_cases ipv4 : isIpv4Grp (pktTypeOf entry) = true
    · rw [withIds_ipv4 ids ipv4]
      unfold EngineIds.write
      simp (disch := decide) only [get_setSome_of_apart, notMape, if_false]
    · have notHnapt : pktTypeOf entry ≠ IPV4_HNAPT ∧ pktTypeOf entry ≠ IPV4_HNAT := by
        simpa [isIpv4Grp] using ipv4
      simp only [notHnapt, notMape, if_false]
  | ipv6 =>
    change rewrite6 _ = rewrite6 _
    unfold rewrite6
    rw [pktTypeOf_withIds]
    simp only [notHnapt6, if_false]

theorem mapePorts_append (entry : FoeEntry) :
    Ipv4Mape.newSport.get entry ++ Ipv4Mape.newDport.get entry = entry 23 := by
  unfold Field.get Ipv4Mape.newSport Ipv4Mape.newDport
  apply BitVec.eq_of_getLsbD_eq
  intro i inWord
  simp only [BitVec.getLsbD_append, BitVec.getLsbD_extractLsb']
  grind

theorem mapePorts_eq_iff {left right : FoeEntry} :
    (Ipv4Mape.newSport.get left = Ipv4Mape.newSport.get right ∧
      Ipv4Mape.newDport.get left = Ipv4Mape.newDport.get right) ↔ left 23 = right 23 := by
  constructor
  · rintro ⟨sport, dport⟩
    rw [← mapePorts_append left, sport, dport, mapePorts_append]
  · intro same
    unfold Field.get
    exact ⟨by rw [show Ipv4Mape.newSport.word = 23 from rfl, same],
      by rw [show Ipv4Mape.newDport.word = 23 from rfl, same]⟩

theorem rewrite4_withIds_mape (mape : pktTypeOf entry = IPV4_MAP_E) :
    ∃ ports : Ports, rewrite4 (withIds ids entry) =
        { rewrite4 entry with sport := some ports.src, dport := some ports.dst } ∧
      ((ports.src = Ipv4Mape.newSport.get entry ∧ ports.dst = Ipv4Mape.newDport.get entry) ↔
        EngineIds.Agree ids (Ipv4Mape.newSport.get entry ++ Ipv4Mape.newDport.get entry)) := by
  have other : ¬ isIpv4Grp (pktTypeOf entry) = true := by rw [mape]; decide
  have written := withIds_other ids other
  have newSip := get_withIds ids Ipv4Mape.newSip other (by decide)
  have newDip := get_withIds ids Ipv4Mape.newDip other (by decide)
  refine ⟨⟨Ipv4Mape.newSport.get (withIds ids entry), Ipv4Mape.newDport.get (withIds ids entry)⟩,
    ?_, ?_⟩
  · unfold rewrite4
    rw [pktTypeOf_withIds, mape, newSip, newDip]
    rfl
  · rw [mapePorts_eq_iff, mapePorts_append, written]
    exact write_word_eq_iff ids 23 entry

theorem newIpv6Ip_withIds_eq_iff (hnapt6 : pktTypeOf entry = IPV6_HNAPT) :
    Ipv6Hnapt.newIpv6Ip.get (withIds ids entry) = Ipv6Hnapt.newIpv6Ip.get entry ↔
      EngineIds.Agree ids ((Ipv6Hnapt.newIpv6Ip.get entry).extractLsb' 32 32) := by
  have other : ¬ isIpv4Grp (pktTypeOf entry) = true := by rw [hnapt6]; decide
  obtain ⟨-, -, word, -⟩ := Ipv6Hnapt.newIpv6Ip.extract_get entry
  obtain ⟨-, -, word', -⟩ := Ipv6Hnapt.newIpv6Ip.extract_get (withIds ids entry)
  have whole : ∀ e : FoeEntry, Ipv6Hnapt.newIpv6Ip.ip2.get e = e 23 := by
    intro e
    unfold Field.get
    exact BitVec.extractLsb'_eq_self
  rw [word, whole, ← write_word_eq_iff ids 23 entry, show engineBlockAt 23 = Ipv65tRoute.engine
    from rfl, ← withIds_other ids other]
  constructor
  · intro same
    rw [← whole (withIds ids entry), ← word', same, word, whole]
  · intro same
    unfold Ipv6Field.get
    rw [get_withIds ids Ipv6Hnapt.newIpv6Ip.ip0 other (by decide),
      get_withIds ids Ipv6Hnapt.newIpv6Ip.ip1 other (by decide),
      get_withIds ids Ipv6Hnapt.newIpv6Ip.ip3 other (by decide), whole, whole, same]

theorem rewrite6_withIds (hnapt6 : pktTypeOf entry = IPV6_HNAPT) :
    rewrite6 (withIds ids entry) =
      if Ipv6Hnapt.egIpv6Dir.get entry = IPV6_SNAT then
        { rewrite6 entry with saddr := some (Ipv6Hnapt.newIpv6Ip.get (withIds ids entry)) }
      else { rewrite6 entry with daddr := some (Ipv6Hnapt.newIpv6Ip.get (withIds ids entry)) } := by
  have other : ¬ isIpv4Grp (pktTypeOf entry) = true := by rw [hnapt6]; decide
  unfold rewrite6
  rw [pktTypeOf_withIds, hnapt6, if_pos rfl, if_pos rfl,
    get_withIds ids Ipv6Hnapt.egIpv6Dir other (by decide),
    get_withIds ids Ipv6Hnapt.newSport other (by decide),
    get_withIds ids Ipv6Hnapt.newDport other (by decide)]
  split <;> rfl

end

end OpenwrtSource.Hnat.EngineWord
