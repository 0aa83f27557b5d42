import Mathlib.Data.List.Basic
import Mathlib.Tactic.SplitIfs

/-!
# The NAT chains of a zone

`parse_defaults` and `parse_zone` settle whether full-cone is in use, and the template of
the rule set puts full-cone rules in the place of the masquerade rules of a family.  A
packet is translated by the first rule that matches it.
-/

namespace OpenwrtSource.Firewall4.ZoneChains

inductive Family where
  | ipv4
  | ipv6
  deriving DecidableEq

structure Packet (Addr : Type) where
  family : Family
  saddr : Addr
  daddr : Addr

/-- A group of `masq_src` or `masq_dest` subnets of one family, as its match. -/
abbrev Group (Addr : Type) := Addr → Bool

/-- The options of the defaults, and how the two trial runs of `nft` end. -/
structure DefaultsData where
  fullcone : Bool
  brcmfullcone : Int
  nftTryFullcone : Bool
  nftTryBrcmfullcone : Bool

/-- `fullcone` is deleted when the trial fails. -/
structure Defaults where
  fullcone : Option Bool
  brcmfullcone : Int

def parseDefaults (data : DefaultsData) : Defaults where
  fullcone :=
    if data.brcmfullcone = 0 then
      if data.nftTryFullcone then some data.fullcone else none
    else if data.brcmfullcone = 1 then
      if data.nftTryBrcmfullcone then some data.fullcone else none
    else some data.fullcone
  brcmfullcone := data.brcmfullcone

structure Dflags where
  snat : Bool
  dnat : Bool

/-- The options of a zone about NAT, the subnets split by family and grouped. -/
structure ZoneData (Addr : Type) where
  masq : Bool
  masq6 : Bool
  fullcone4 : Bool
  fullcone6 : Bool
  masq4SrcSubnets : List (Group Addr)
  masq4DestSubnets : List (Group Addr)
  masq6SrcSubnets : List (Group Addr)
  masq6DestSubnets : List (Group Addr)

structure Zone (Addr : Type) extends ZoneData Addr where
  dflags : Dflags

variable {Addr : Type}

/-- The options of a zone under the defaults, which are parsed before the zones. -/
def effective (defaults : Defaults) (data : ZoneData Addr) : ZoneData Addr :=
  let enabled := defaults.fullcone == some true
  { data with
    fullcone4 := enabled && data.fullcone4
    fullcone6 := enabled && data.fullcone6 && !(defaults.brcmfullcone == 1) }

/-- `hasSnat` and `hasDnat`: the flags that redirects and other options set. -/
def parseZone (defaults : Defaults) (hasSnat hasDnat : Bool) (data : ZoneData Addr) : Zone Addr :=
  let zone := effective defaults data
  let fullcone := zone.fullcone4 || zone.fullcone6
  { zone with
    dflags :=
      { snat := hasSnat || fullcone || (zone.masq || zone.masq6)
        dnat := (hasDnat || fullcone) && !(defaults.brcmfullcone == 1) } }

/-- The rules that translate, each with what its template renders of it. -/
inductive Rule (Addr : Type) where
  | redirect (matching : Packet Addr → Bool)
  | masquerade (family : Family) (saddrs daddrs : Group Addr)
  | fullcone (family : Family)
  | brcmfullcone

def Rule.matching : Rule Addr → Packet Addr → Bool
  | .redirect matching, p => matching p
  | .masquerade family saddrs daddrs, p =>
    decide (p.family = family) && (saddrs p.saddr && daddrs p.daddr)
  | .fullcone family, p => decide (p.family = family)
  | .brcmfullcone, p => decide (p.family = .ipv4)

/-- `zone-masq.uc` for each pair of groups. -/
def masqRules (family : Family) (srcs dests : List (Group Addr)) : List (Rule Addr) :=
  srcs.flatMap fun saddrs => dests.map fun daddrs => .masquerade family saddrs daddrs

/-- `zone-fullcone.uc`, in both chains. -/
def fullconeRules (defaults : Defaults) (zone : Zone Addr) : List (Rule Addr) :=
  if defaults.brcmfullcone = 0 then
    (if zone.fullcone4 then [.fullcone .ipv4] else []) ++
      (if zone.fullcone6 then [.fullcone .ipv6] else [])
  else []

/-- `zone-brcmfullcone.uc`. -/
def brcmRules (defaults : Defaults) (zone : Zone Addr) : List (Rule Addr) :=
  if defaults.brcmfullcone = 1 then if zone.fullcone4 then [.brcmfullcone] else [] else []

def redirectRules (redirects : List (Packet Addr → Bool)) : List (Rule Addr) :=
  redirects.map .redirect

def dstnat (defaults : Defaults) (redirects : List (Packet Addr → Bool)) (zone : Zone Addr) :
    List (Rule Addr) :=
  redirectRules redirects ++ fullconeRules defaults zone

/-- The rules of `srcnat` behind the redirects. -/
def natRules (defaults : Defaults) (zone : Zone Addr) : List (Rule Addr) :=
  (if zone.masq && !zone.fullcone4 then
    masqRules .ipv4 zone.masq4SrcSubnets zone.masq4DestSubnets else []) ++
  (if zone.masq6 && !zone.fullcone6 then
    masqRules .ipv6 zone.masq6SrcSubnets zone.masq6DestSubnets else []) ++
  fullconeRules defaults zone ++ brcmRules defaults zone

def srcnat (defaults : Defaults) (redirects : List (Packet Addr → Bool)) (zone : Zone Addr) :
    List (Rule Addr) :=
  redirectRules redirects ++ natRules defaults zone

def verdict (chain : List (Rule Addr)) (p : Packet Addr) : Option (Rule Addr) :=
  chain.find? fun rule => rule.matching p

def Rule.masquerades : Rule Addr → Bool
  | .masquerade _ _ _ => true
  | _ => false

def Rule.translates : Rule Addr → Bool
  | .redirect _ => false
  | _ => true

def disabled (data : ZoneData Addr) : ZoneData Addr :=
  { data with fullcone4 := false, fullcone6 := false }

def Translated (data : DefaultsData) (zone : ZoneData Addr) (hasSnat hasDnat : Bool)
    (redirects : List (Packet Addr → Bool)) (p : Packet Addr) : Prop :=
  ∃ rule, verdict (srcnat (parseDefaults data) redirects
    (parseZone (parseDefaults data) hasSnat hasDnat zone)) p = some rule ∧ rule.translates = true

def Masqueraded (data : DefaultsData) (zone : ZoneData Addr) (hasSnat hasDnat : Bool)
    (redirects : List (Packet Addr → Bool)) (p : Packet Addr) : Prop :=
  ∃ rule, verdict (srcnat (parseDefaults data) redirects
    (parseZone (parseDefaults data) hasSnat hasDnat (disabled zone))) p = some rule ∧
      rule.masquerades = true

/-- Full-cone is in use for the family: by the zone's option, by that of the defaults, and
by the trial; not for IPv6 with `brcmfullcone`. -/
def InUse (data : DefaultsData) (zone : ZoneData Addr) : Family → Prop
  | .ipv4 => (effective (parseDefaults data) zone).fullcone4 = true
  | .ipv6 => (effective (parseDefaults data) zone).fullcone6 = true

/-- Masquerading is on for the packet's family, and its addresses are in the subnets. -/
def InSubnets (zone : ZoneData Addr) (p : Packet Addr) : Prop :=
  match p.family with
  | .ipv4 => zone.masq = true ∧ (∃ saddrs ∈ zone.masq4SrcSubnets, saddrs p.saddr = true) ∧
      ∃ daddrs ∈ zone.masq4DestSubnets, daddrs p.daddr = true
  | .ipv6 => zone.masq6 = true ∧ (∃ saddrs ∈ zone.masq6SrcSubnets, saddrs p.saddr = true) ∧
      ∃ daddrs ∈ zone.masq6DestSubnets, daddrs p.daddr = true

/-- Where full-cone is in use for a packet's family, a redirect takes the packet, or it is to
be masqueraded just if there are full-cone rules (`brcmfullcone` is 0 or 1). -/
def Fits (data : DefaultsData) (zone : ZoneData Addr) (redirects : List (Packet Addr → Bool))
    (p : Packet Addr) : Prop :=
  InUse data zone p.family → (∃ matching ∈ redirects, matching p = true) ∨
    ((data.brcmfullcone = 0 ∨ data.brcmfullcone = 1) ↔ InSubnets zone p)

theorem verdict_append {rules : List (Rule Addr)} {wanted : Rule Addr → Bool}
    (redirects : List (Packet Addr → Bool)) (p : Packet Addr)
    (unwanted : ∀ matching, wanted (.redirect matching) = false)
    (all : ∀ rule ∈ rules, wanted rule = true) :
    (∃ rule, verdict (redirectRules redirects ++ rules) p = some rule ∧ wanted rule = true) ↔
      (¬ ∃ matching ∈ redirects, matching p = true) ∧
        ∃ rule ∈ rules, rule.matching p = true := by
  unfold verdict redirectRules
  rw [List.find?_append, List.find?_map]
  cases taken : redirects.find? ((fun rule => rule.matching p) ∘ Rule.redirect) with
  | some matching =>
    have matches_ := List.find?_some taken
    refine iff_of_false ?_ fun both => both.1 ⟨matching, List.mem_of_find?_eq_some taken, matches_⟩
    rintro ⟨rule, first, good⟩
    cases first
    rw [unwanted] at good
    cases good
  | none =>
    have free : ¬ ∃ matching ∈ redirects, matching p = true := by
      rintro ⟨matching, member, matches_⟩
      exact List.find?_eq_none.mp taken matching member matches_
    rw [and_iff_right free]
    constructor
    · rintro ⟨rule, first, -⟩
      have found : rules.find? (fun rule => rule.matching p) = some rule := first
      have matches_ := List.find?_some found
      exact ⟨rule, List.mem_of_find?_eq_some found, matches_⟩
    · rintro ⟨rule, member, matches_⟩
      cases first : rules.find? fun rule => rule.matching p with
      | none => exact absurd matches_ (List.find?_eq_none.mp first rule member)
      | some taker => exact ⟨taker, rfl, all taker (List.mem_of_find?_eq_some first)⟩

theorem exists_append {first second : List (Rule Addr)} {good : Rule Addr → Prop} :
    (∃ rule ∈ first ++ second, good rule) ↔
      (∃ rule ∈ first, good rule) ∨ ∃ rule ∈ second, good rule := by
  simp only [List.mem_append, or_and_right, exists_or]

variable {p : Packet Addr} {defaults : Defaults} {zone : Zone Addr}

theorem masqRules_matching {family : Family} {srcs dests : List (Group Addr)} :
    (∃ rule ∈ masqRules family srcs dests, rule.matching p = true) ↔
      p.family = family ∧ (∃ saddrs ∈ srcs, saddrs p.saddr = true) ∧
        ∃ daddrs ∈ dests, daddrs p.daddr = true := by
  unfold masqRules
  constructor
  · rintro ⟨rule, member, matches_⟩
    obtain ⟨saddrs, src, inner⟩ := List.mem_flatMap.mp member
    obtain ⟨daddrs, dest, rfl⟩ := List.mem_map.mp inner
    simp only [Rule.matching, Bool.and_eq_true, decide_eq_true_eq] at matches_
    exact ⟨matches_.1, ⟨saddrs, src, matches_.2.1⟩, daddrs, dest, matches_.2.2⟩
  · rintro ⟨same, ⟨saddrs, src, inSrc⟩, daddrs, dest, inDest⟩
    refine ⟨.masquerade family saddrs daddrs, ?_, ?_⟩
    · exact List.mem_flatMap.mpr ⟨saddrs, src, List.mem_map_of_mem dest⟩
    · simp [Rule.matching, same, inSrc, inDest]

def Full (zone : Zone Addr) : Family → Prop
  | .ipv4 => zone.fullcone4 = true
  | .ipv6 => zone.fullcone6 = true

theorem fullconeRules_matching :
    (∃ rule ∈ fullconeRules defaults zone, rule.matching p = true) ↔
      defaults.brcmfullcone = 0 ∧ Full zone p.family := by
  unfold fullconeRules
  by_cases chosen : defaults.brcmfullcone = 0
  · rw [if_pos chosen]
    cases same : p.family <;> cases four : zone.fullcone4 <;> cases six : zone.fullcone6 <;>
      simp [Full, Rule.matching, chosen, same, four, six]
  · simp [chosen]

theorem brcmRules_matching :
    (∃ rule ∈ brcmRules defaults zone, rule.matching p = true) ↔
      defaults.brcmfullcone = 1 ∧ p.family = .ipv4 ∧ Full zone .ipv4 := by
  unfold brcmRules
  by_cases chosen : defaults.brcmfullcone = 1
  · rw [if_pos chosen]
    cases four : zone.fullcone4 <;> simp [Full, Rule.matching, chosen, four]
  · simp [chosen]

theorem natRules_matching :
    (∃ rule ∈ natRules defaults zone, rule.matching p = true) ↔
      InSubnets zone.toZoneData p ∧ ¬ Full zone p.family ∨
        Full zone p.family ∧
          (defaults.brcmfullcone = 0 ∨ defaults.brcmfullcone = 1 ∧ p.family = .ipv4) := by
  have masq : (∃ rule ∈ (if zone.masq && !zone.fullcone4 then
        masqRules .ipv4 zone.masq4SrcSubnets zone.masq4DestSubnets else []) ++
      (if zone.masq6 && !zone.fullcone6 then
        masqRules .ipv6 zone.masq6SrcSubnets zone.masq6DestSubnets else []),
      rule.matching p = true) ↔ InSubnets zone.toZoneData p ∧ ¬ Full zone p.family := by
    rw [exists_append]
    unfold InSubnets Full
    cases same : p.family with
    | ipv4 =>
      cases on : zone.masq <;> cases four : zone.fullcone4 <;>
        cases zone.masq6 <;> cases zone.fullcone6 <;> simp [masqRules_matching, same]
    | ipv6 =>
      cases on : zone.masq6 <;> cases six : zone.fullcone6 <;>
        cases zone.masq <;> cases zone.fullcone4 <;> simp [masqRules_matching, same]
  unfold natRules
  rw [List.append_assoc, exists_append, masq, exists_append,
    fullconeRules_matching, brcmRules_matching]
  refine or_congr_right ?_
  cases p.family with
  | ipv4 =>
    rw [and_or_left]
    simp [and_comm]
  | ipv6 => simp [and_comm]

theorem natRules_translate : ∀ rule ∈ natRules defaults zone, rule.translates = true := by
  intro rule member
  cases rule with
  | redirect matching =>
    simp only [natRules, fullconeRules, brcmRules, masqRules, List.mem_append] at member
    split_ifs at member <;> simp at member
  | masquerade family saddrs daddrs => rfl
  | fullcone family => rfl
  | brcmfullcone => rfl

theorem natRules_masquerade (four : zone.fullcone4 = false) (six : zone.fullcone6 = false) :
    ∀ rule ∈ natRules defaults zone, rule.masquerades = true := by
  have fullcone : fullconeRules defaults zone = [] := by simp [fullconeRules, four, six]
  have brcm : brcmRules defaults zone = [] := by simp [brcmRules, four]
  have masq : ∀ (condition : Bool) (family : Family) (srcs dests : List (Group Addr)) (rule),
      rule ∈ (if condition then masqRules family srcs dests else []) →
        rule.masquerades = true := by
    intro condition family srcs dests rule member
    cases condition with
    | false => cases member
    | true =>
      obtain ⟨saddrs, -, inner⟩ := List.mem_flatMap.mp member
      obtain ⟨daddrs, -, rfl⟩ := List.mem_map.mp inner
      rfl
  intro rule member
  unfold natRules at member
  rw [fullcone, brcm, List.append_nil, List.append_nil] at member
  rcases List.mem_append.mp member with first | second
  · exact masq _ _ _ _ rule first
  · exact masq _ _ _ _ rule second

section Zones

variable {data : DefaultsData} {zone : ZoneData Addr} {hasSnat hasDnat : Bool}
variable {redirects : List (Packet Addr → Bool)} {p : Packet Addr}

theorem full_parseZone (family : Family) :
    Full (parseZone (parseDefaults data) hasSnat hasDnat zone) family ↔ InUse data zone family := by
  cases family <;> exact Iff.rfl

theorem not_full_disabled (family : Family) :
    ¬ Full (parseZone (parseDefaults data) hasSnat hasDnat (disabled zone)) family := by
  cases family <;> simp [Full, parseZone, effective, disabled]

theorem ipv4_of_inUse {family : Family} (inUse : InUse data zone family)
    (chosen : data.brcmfullcone = 1) : family = .ipv4 := by
  cases family with
  | ipv4 => rfl
  | ipv6 => simp [InUse, effective, parseDefaults, chosen] at inUse

theorem translated_iff :
    Translated data zone hasSnat hasDnat redirects p ↔
      (¬ ∃ matching ∈ redirects, matching p = true) ∧
        (InSubnets zone p ∧ ¬ InUse data zone p.family ∨
          InUse data zone p.family ∧ (data.brcmfullcone = 0 ∨ data.brcmfullcone = 1)) := by
  unfold Translated srcnat
  rw [verdict_append redirects p (fun _ => rfl) natRules_translate, natRules_matching,
    full_parseZone]
  refine and_congr_right fun _ => or_congr_right (and_congr_right fun inUse => ?_)
  refine or_congr_right ⟨fun both => both.1, fun chosen => ⟨chosen, ?_⟩⟩
  exact ipv4_of_inUse inUse chosen

theorem masqueraded_iff :
    Masqueraded data zone hasSnat hasDnat redirects p ↔
      (¬ ∃ matching ∈ redirects, matching p = true) ∧ InSubnets zone p := by
  have four : (parseZone (parseDefaults data) hasSnat hasDnat (disabled zone)).fullcone4 =
      false := by simp [parseZone, effective, disabled]
  have six : (parseZone (parseDefaults data) hasSnat hasDnat (disabled zone)).fullcone6 =
      false := by simp [parseZone, effective, disabled]
  unfold Masqueraded srcnat
  rw [verdict_append redirects p (fun _ => rfl) (natRules_masquerade four six), natRules_matching]
  refine and_congr_right fun _ => ?_
  have off : ¬ Full (parseZone (parseDefaults data) hasSnat hasDnat (disabled zone)) p.family :=
    not_full_disabled p.family
  constructor
  · rintro (⟨inside, -⟩ | ⟨on, -⟩)
    · exact inside
    · exact absurd on off
  · intro inside
    exact .inl ⟨inside, off⟩

end Zones

/-- The zone's rules translate a packet as the rules without full-cone masquerade it, exactly
if it fits. -/
theorem dropIn_iff (data : DefaultsData) (zone : ZoneData Addr) (hasSnat hasDnat : Bool)
    (redirects : List (Packet Addr → Bool)) (p : Packet Addr) :
    (Translated data zone hasSnat hasDnat redirects p ↔
      Masqueraded data zone hasSnat hasDnat redirects p) ↔ Fits data zone redirects p := by
  rw [translated_iff, masqueraded_iff]
  unfold Fits
  by_cases taken : ∃ matching ∈ redirects, matching p = true
  · simp [taken]
  · by_cases inUse : InUse data zone p.family
    · simp only [taken, inUse, not_false_eq_true, true_and, not_true_eq_false, and_false,
        false_or, forall_true_left]
    · simp only [taken, inUse, not_false_eq_true, true_and, and_true, false_and, or_false,
        IsEmpty.forall_iff]

def officeZone : ZoneData Nat where
  masq := true
  masq6 := false
  fullcone4 := true
  fullcone6 := false
  masq4SrcSubnets := [fun a => decide (a < 256)]
  masq4DestSubnets := [fun _ => true]
  masq6SrcSubnets := [fun _ => true]
  masq6DestSubnets := [fun _ => true]

/-- A packet from outside of `masq_src` is translated. -/
theorem outsideTranslated : ¬ ∀ (Addr : Type) (data : DefaultsData) (zone : ZoneData Addr)
    (hasSnat hasDnat : Bool) (redirects : List (Packet Addr → Bool)) (p : Packet Addr),
    Translated data zone hasSnat hasDnat redirects p ↔
      Masqueraded data zone hasSnat hasDnat redirects p := by
  intro same
  have translated : Translated ⟨true, 0, true, true⟩ officeZone false false []
      ⟨.ipv4, 300, 1⟩ := ⟨.fullcone .ipv4, rfl, rfl⟩
  obtain ⟨rule, none_, -⟩ := (same _ _ _ _ _ _ _).mp translated
  cases none_

end OpenwrtSource.Firewall4.ZoneChains
