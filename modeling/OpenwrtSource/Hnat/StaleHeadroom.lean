import OpenwrtSource.Hnat.ExtIngress

/-!
# What a stale headroom changes

The index, the reason and the source port of the descriptor stay as the headroom had
them.  A packet that the ingress hook lets on with such a descriptor is dropped, bound
in a foreign slot or left alone behind it, as the bytes happen to say.
-/

namespace OpenwrtSource.Hnat.StaleHeadroom

open Hnat.Foe Hnat.McastTable
open Hnat.EntryUpdate (FoeTable)
open Hnat.BindPacket hiding HnatDesc
open Hnat.HookTx (HIT_UNBIND HIT_UNBIND_RATE_REACH)
open Hnat.XlatHandover (mtk464xlatPostProcess)
open Hnat.ExtIngress

section

variable (engine : Engine) (arrival : Arrival) (s : Driver)

/-- On every way to the post-routing hook, any two headrooms give the same verdicts and
the same tables. -/
def Undisturbed : Prop :=
  ∀ (path : Path) (prior prior' : HnatDesc),
    journey engine arrival s path prior = journey engine arrival s path prior'

/-! ## The condition -/

def Claimed : Prop :=
  engine.gRxPpdevUp = true ∧ arrival.frame.fragList = false ∧
    (arrival.frame.headroomShort = true → arrival.frame.skbCow = true)

/-- The packet is of a supported type, under a source port. -/
def Taken (sport : PsePort) : Prop :=
  isPpeSupportType engine arrival.frame s.mcastHookToggle sport = true ∨
    arrival.hook = .bridge ∧ hasHqosMagicTag engine arrival.frame = true

/-- The name of the device is that of no other kind, the WAN devices apart. -/
def plain (dev : InDev) : Bool := !dev.lan && !dev.lan2 && !(dev.ppd || dev.rxPpd)

def unicast : Prop := isMulticastEtherAddr arrival.frame.skb.hDest = false

def Tries : Prop := plain arrival.dev = true ∧ (arrival.hook = .bridge → unicast arrival)

def ppdev : Option Bool :=
  if arrival.hook = .bridge then engine.gPpdev.or engine.ppdByName else engine.gPpdev

def HandsOver : Prop :=
  Tries arrival ∧ extToGe arrival.frame (ppdev engine arrival) = true

def Retagged : Prop := arrival.hook = .bridge ∧ hqosTagged engine arrival.frame = true

/-- A slot that a descriptor can name is of the type that is checked for flooding. -/
def Floodable : Prop :=
  arrival.hook = .bridge ∧ arrival.frame.floods = true ∧
    ∃ (sport : PsePort) (entry : BitVec 15), entry.toNat < engine.plat.foeEtryNum ∧
      skbHnatPpe engine sport < engine.plat.ppeNum ∧
        pktTypeOf (s.foe (skbHnatPpe engine sport) entry.toNat) = L2_BRIDGE

/-- The tag names a slot, and the device may be one that packets are forwarded from. -/
def Redirects : Prop :=
  (arrival.dev.lan || arrival.dev.lan2 || arrival.dev.wan || arrival.dev.ppd ||
      arrival.dev.rxPpd) = true ∧
    skbHnatIsHashed engine (hqosIndex arrival.frame) = true

/-- The packet is sent on from the slot of the tag, or lost without a device. -/
def Forwards (sport : PsePort) : Prop :=
  skbHnatPpe engine sport < engine.plat.ppeNum ∧
    (engine.devFromIndex (PingPong.pingpongIndex
        (s.foe (skbHnatPpe engine sport) (hqosIndex arrival.frame).toNat)).toNat = false ∨
      arrival.frame.calls.skbUnshare ≠ .failed ∧ arrival.frame.calls.pskbMayPull = true)

def Harmless : Prop :=
  skbHnatIsHashed engine (hqosIndex arrival.frame) = true → ∀ sport,
    Taken engine arrival s sport → skbHnatPpe engine sport < engine.plat.ppeNum

def TagSpared : Prop :=
  (¬ Tries arrival ∧ Redirects engine arrival ∧ (∀ sport, Taken engine arrival s sport) ∧
      ∀ sport sport', Forwards engine arrival s sport ↔ Forwards engine arrival s sport') ∨
    (¬ (¬ Tries arrival ∧ Redirects engine arrival) ∧ Harmless engine arrival s)

def Spared : Prop :=
  Claimed engine arrival ∧
    ((∀ sport, ¬ Taken engine arrival s sport) ∨
      (HandsOver engine arrival ∧ (∀ sport, Taken engine arrival s sport) ∧
        (Retagged engine arrival ∨ ¬ Floodable engine arrival s)) ∨
      (¬ HandsOver engine arrival ∧ Retagged engine arrival ∧ TagSpared engine arrival s))

end

/-! ## The descriptor behind an ingress hook -/

/-- What `hnat_set_iif` finds for an extension device. -/
def iif (dev : InDev) : BitVec 8 :=
  if dev.lan then FOE_MAGIC_GE_LAN
  else if dev.lan2 then FOE_MAGIC_GE_LAN2
  else if dev.ppd || dev.rxPpd then FOE_MAGIC_GE_PPD
  else FOE_MAGIC_EXT

theorem hnatSetIif_ext (arrival : Arrival) (desc : HnatDesc) :
    hnatSetIif arrival.dev desc = { desc with iface := iif arrival.dev } := by
  unfold hnatSetIif iif
  simp only [arrival.noWhnat, Bool.false_and, Bool.false_eq_true, if_false, arrival.isExt, if_true]
  split
  · rfl
  · split
    · rfl
    · split <;> rfl

theorem iif_ext (dev : InDev) : (iif dev == FOE_MAGIC_EXT) = plain dev := by
  unfold iif plain
  cases dev.lan <;> cases dev.lan2 <;> cases dev.ppd <;> cases dev.rxPpd <;> rfl

theorem iif_virtual (dev : InDev) : (iif dev == FOE_MAGIC_GE_VIRTUAL) = false := by
  unfold iif
  cases dev.lan <;> cases dev.lan2 <;> cases dev.ppd <;> cases dev.rxPpd <;> rfl

/-- The descriptor of the source port that goes on, with an index and a reason. -/
structure Carries (arrival : Arrival) (entry : BitVec 15) (crsn : BitVec 5) (sport : PsePort)
    (desc : HnatDesc) : Prop where
  alg : desc.alg = false
  tag : desc.magicTagValid = true
  entry : desc.entry = entry
  crsn : desc.crsn = crsn
  sport : desc.sport = sport
  iface : desc.iface = iif arrival.dev

def claimed (prior : HnatDesc) : HnatDesc :=
  { prior with alg := false, filled := 0, magicTagProtect := HNAT_MAGIC_TAG }

theorem claimDesc_claimed {engine : Engine} {arrival : Arrival} (ok : Claimed engine arrival)
    (prior : HnatDesc) :
    claimDesc engine arrival.dev arrival.frame prior = some (claimed prior) := by
  obtain ⟨up, whole, room⟩ := ok
  have cow : (arrival.frame.headroomShort && !arrival.frame.skbCow) = false := by
    cases short : arrival.frame.headroomShort with
    | false => rfl
    | true => rw [room short]; rfl
  simp [claimDesc, claimed, arrival.noWhnat, arrival.isExt, up, whole, cow]

theorem claimDesc_none {engine : Engine} {arrival : Arrival} (bare : ¬ Claimed engine arrival)
    (prior : HnatDesc) : claimDesc engine arrival.dev arrival.frame prior = none := by
  unfold claimDesc
  simp only [arrival.noWhnat, arrival.isExt, Bool.not_false, Bool.and_self, if_true]
  by_cases up : engine.gRxPpdevUp = true
  · by_cases whole : arrival.frame.fragList = false
    · have short : arrival.frame.headroomShort = true ∧ arrival.frame.skbCow = false := by
        by_contra room
        refine bare ⟨up, whole, fun short => ?_⟩
        by_contra fails
        exact room ⟨short, Bool.eq_false_iff.mpr fails⟩
      simp [up, whole, short.1, short.2]
    · simp [up, whole]
  · simp [up]

theorem tag_valid (prior : HnatDesc) : (claimed prior).magicTagValid = true := rfl

theorem carries_setIif (arrival : Arrival) (desc : HnatDesc) (alg : desc.alg = false)
    (tag : desc.magicTagValid = true) :
    Carries arrival desc.entry desc.crsn desc.sport (hnatSetIif arrival.dev desc) := by
  rw [hnatSetIif_ext]
  exact ⟨alg, tag, rfl, rfl, rfl, rfl⟩

theorem carries_noteDecap (arrival : Arrival) (desc : HnatDesc) (alg : desc.alg = false)
    (tag : desc.magicTagValid = true) :
    Carries arrival desc.entry desc.crsn desc.sport
      (hnatSetIif arrival.dev (noteDecap arrival.frame desc)) := by
  unfold noteDecap
  split
  · exact carries_setIif arrival { desc with isDecap := true } alg tag
  · exact carries_setIif arrival desc alg tag

/-! ## One run of an ingress hook -/

section

variable {engine : Engine} {arrival : Arrival} {s : Driver}

theorem ingress_bare (bare : ¬ Claimed engine arrival) (prior : HnatDesc) :
    ingress engine arrival.dev arrival.frame arrival.hook prior s = (.accepted prior, s) := by
  unfold ingress
  cases arrival.hook with
  | ipv4 => simp only [mtkHnatIpv4NfPreRouting, claimDesc_none bare]
  | ipv6 => simp only [mtkHnatIpv6NfPreRouting, claimDesc_none bare]
  | bridge => simp only [mtkHnatBrNfLocalIn, claimDesc_none bare]

theorem hqosEntry_sport (desc : HnatDesc) :
    (hqosEntry engine arrival.frame desc).sport = desc.sport := by
  unfold hqosEntry
  split <;> rfl

theorem hqosEntry_alg (desc : HnatDesc) : (hqosEntry engine arrival.frame desc).alg = desc.alg := by
  unfold hqosEntry
  split <;> rfl

theorem hqosEntry_tag (desc : HnatDesc) :
    (hqosEntry engine arrival.frame desc).magicTagValid = desc.magicTagValid := by
  unfold hqosEntry
  split <;> rfl

variable (prior : HnatDesc)

theorem ingress_untaken (ok : Claimed engine arrival)
    (refused : ¬ Taken engine arrival s prior.sport) :
    ∃ desc, desc.alg = true ∧ desc.magicTagValid = true ∧
      ingress engine arrival.dev arrival.frame arrival.hook prior s = (.accepted desc, s) := by
  have type : isPpeSupportType engine arrival.frame s.mcastHookToggle (claimed prior).sport =
      false := Bool.eq_false_iff.mpr fun supported => refused (Or.inl supported)
  unfold ingress
  cases hook : arrival.hook with
  | ipv4 =>
    refine ⟨{ claimed prior with alg := true }, rfl, rfl, ?_⟩
    simp [mtkHnatIpv4NfPreRouting, claimDesc_claimed ok, tag_valid, type, acceptAlg]
  | ipv6 =>
    refine ⟨{ claimed prior with alg := true }, rfl, rfl, ?_⟩
    simp [mtkHnatIpv6NfPreRouting, claimDesc_claimed ok, tag_valid, type, acceptAlg]
  | bridge =>
    have untagged : hasHqosMagicTag engine arrival.frame = false :=
      Bool.eq_false_iff.mpr fun tagged => refused (Or.inr ⟨hook, tagged⟩)
    refine ⟨{ hqosEntry engine arrival.frame (claimed prior) with alg := true }, rfl,
      (hqosEntry_tag _).trans (tag_valid prior), ?_⟩
    simp [mtkHnatBrNfLocalIn, claimDesc_claimed ok, tag_valid, untagged, hqosEntry_sport, type,
      acceptAlg]

theorem tnlBypass_ext {desc : HnatDesc} (iface : desc.iface = iif arrival.dev) :
    tnlBypass engine arrival.frame desc = false := by
  simp [tnlBypass, iface, iif_virtual]

theorem virtualAlg_ext {desc : HnatDesc} (iface : desc.iface = iif arrival.dev) :
    virtualAlg arrival.dev arrival.frame desc = desc := by
  simp [virtualAlg, iface, iif_virtual]

theorem pre_taken (ok : Claimed engine arrival) (pre : arrival.hook ≠ .bridge)
    (taken : Taken engine arrival s prior.sport) :
    ∃ desc, Carries arrival prior.entry prior.crsn prior.sport desc ∧
      ingress engine arrival.dev arrival.frame arrival.hook prior s =
        preRouting engine arrival.dev arrival.frame desc s := by
  have type : isPpeSupportType engine arrival.frame s.mcastHookToggle (claimed prior).sport =
      true := taken.resolve_right fun bridged => pre bridged.1
  have carries : Carries arrival prior.entry prior.crsn prior.sport
      (hnatSetIif arrival.dev (noteDecap arrival.frame (claimed prior))) :=
    carries_noteDecap arrival _ rfl (tag_valid prior)
  refine ⟨_, carries, ?_⟩
  unfold ingress
  cases hook : arrival.hook with
  | ipv4 =>
    simp [mtkHnatIpv4NfPreRouting, claimDesc_claimed ok, tag_valid, type,
      tnlBypass_ext carries.iface, virtualAlg_ext carries.iface]
  | ipv6 => simp [mtkHnatIpv6NfPreRouting, claimDesc_claimed ok, tag_valid, type]
  | bridge => exact absurd hook pre

def indexOf (engine : Engine) (arrival : Arrival) (prior : HnatDesc) : BitVec 15 :=
  if hqosTagged engine arrival.frame then hqosIndex arrival.frame else prior.entry

def reasonOf (engine : Engine) (arrival : Arrival) (prior : HnatDesc) : BitVec 5 :=
  if hqosTagged engine arrival.frame then HIT_BIND_FORCE_TO_CPU else prior.crsn

theorem hqosEntry_entry :
    (hqosEntry engine arrival.frame (claimed prior)).entry = indexOf engine arrival prior := by
  unfold hqosEntry indexOf
  split <;> rfl

theorem hqosEntry_crsn :
    (hqosEntry engine arrival.frame (claimed prior)).crsn = reasonOf engine arrival prior := by
  unfold hqosEntry reasonOf
  split <;> rfl

theorem bridge_taken (ok : Claimed engine arrival) (bridge : arrival.hook = .bridge)
    (taken : Taken engine arrival s prior.sport) :
    ∃ desc, Carries arrival (indexOf engine arrival prior) (reasonOf engine arrival prior)
        prior.sport desc ∧
      ingress engine arrival.dev arrival.frame arrival.hook prior s =
        if floodCheck engine arrival.frame s.foe desc then (acceptAlg desc, s)
        else localIn engine arrival.dev arrival.frame desc s := by
  have alg : (hqosEntry engine arrival.frame (claimed prior)).alg = false := hqosEntry_alg _
  have tag : (hqosEntry engine arrival.frame (claimed prior)).magicTagValid = true :=
    (hqosEntry_tag _).trans (tag_valid prior)
  by_cases tagged : hasHqosMagicTag engine arrival.frame = true
  · have carries := carries_setIif arrival _ alg tag
    rw [hqosEntry_entry, hqosEntry_crsn, hqosEntry_sport] at carries
    refine ⟨_, carries, ?_⟩
    simp [ingress, bridge, mtkHnatBrNfLocalIn, claimDesc_claimed ok, tag_valid, tagged,
      tnlBypass_ext carries.iface]
  · have type : isPpeSupportType engine arrival.frame s.mcastHookToggle (claimed prior).sport =
        true := taken.resolve_right fun both => tagged both.2
    have carries := carries_noteDecap arrival _ alg tag
    rw [hqosEntry_entry, hqosEntry_crsn, hqosEntry_sport] at carries
    refine ⟨_, carries, ?_⟩
    simp [ingress, bridge, mtkHnatBrNfLocalIn, claimDesc_claimed ok, tag_valid, tagged,
      hqosEntry_sport, type, tnlBypass_ext carries.iface]

end

section

variable {engine : Engine} {arrival : Arrival} {s : Driver} {entry : BitVec 15}
  {crsn : BitVec 5} {sport : PsePort} {desc : HnatDesc}

theorem Carries.fastTry (carries : Carries arrival entry crsn sport desc) :
    doExt2geFastTry arrival.frame desc = plain arrival.dev := by
  simp [doExt2geFastTry, carries.iface, iif_ext, arrival.fresh]

theorem Carries.stays (carries : Carries arrival entry crsn sport desc)
    (stays : crsn ≠ HIT_BIND_FORCE_TO_CPU ∨ skbHnatIsHashed engine entry = false) :
    doGe2extFast engine arrival.dev desc = false := by
  rw [doGe2extFast, carries.entry, carries.crsn]
  rcases stays with other | unhashed
  · simp [other]
  · simp [unhashed]

theorem preRouting_tries (carries : Carries arrival entry crsn sport desc)
    (tries : plain arrival.dev = true) :
    preRouting engine arrival.dev arrival.frame desc s =
      (if extToGe arrival.frame engine.gPpdev then .stolen else .accepted desc, s) := by
  rw [preRouting, if_pos (carries.fastTry.trans tries)]

theorem preRouting_passes (carries : Carries arrival entry crsn sport desc)
    (other : plain arrival.dev = false)
    (stays : crsn ≠ HIT_BIND_FORCE_TO_CPU ∨ skbHnatIsHashed engine entry = false) :
    ∃ s', preRouting engine arrival.dev arrival.frame desc s = (.accepted desc, s') := by
  have skips : ¬ doExt2geFastTry arrival.frame desc = true := by
    rw [carries.fastTry, other]
    exact Bool.false_ne_true
  rw [preRouting, if_neg skips, carries.stays stays]
  exact ⟨_, rfl⟩

theorem localIn_tries (carries : Carries arrival entry crsn sport desc)
    (tries : plain arrival.dev = true) (single : unicast arrival) :
    localIn engine arrival.dev arrival.frame desc s =
      (if extToGe arrival.frame (engine.gPpdev.or engine.ppdByName) then .stolen
        else .accepted desc, s) := by
  have unicast : isMulticastEtherAddr arrival.frame.skb.hDest = false := single
  rw [localIn, carries.fastTry, tries, unicast]
  rfl

theorem localIn_other (carries : Carries arrival entry crsn sport desc) (other : ¬ Tries arrival) :
    localIn engine arrival.dev arrival.frame desc s =
      localInGe engine arrival.dev arrival.frame desc s := by
  rw [localIn, carries.fastTry]
  refine if_neg fun both => other ?_
  rw [Bool.and_eq_true, Bool.not_eq_true'] at both
  exact ⟨both.1, fun _ => both.2⟩

theorem localInGe_passes (carries : Carries arrival entry crsn sport desc)
    (pdma : sport ≠ NR_PDMA_PORT) (qdma : sport ≠ NR_QDMA_PORT)
    (stays : crsn ≠ HIT_BIND_FORCE_TO_CPU ∨ skbHnatIsHashed engine entry = false) :
    localInGe engine arrival.dev arrival.frame desc s = (.accepted desc, s) := by
  have learns : doExt2geFastLearn engine arrival.dev arrival.frame desc = false := by
    simp [doExt2geFastLearn, carries.sport, pdma, qdma]
  rw [localInGe, learns, carries.stays stays]
  simp

end

/-! ## One run of the post-routing hook -/

section

variable {engine : Engine} {path : Path} {s : Driver} {desc : HnatDesc}

/-- What the hook does for a packet that it lets go, whatever its descriptor. -/
def letGo (engine : Engine) (path : Path) (s : Driver) : Verdict × Driver :=
  let xlat := mtk464xlatPostProcess engine.toSetup path.xlat (s.xlatState engine)
  (.accept,
    if path.hook = .bridge ∧ path.bridgeInfo = true then s
    else if engine.xlatToggle = true ∧ xlat.1 = 0 then s.withXlat xlat.2 else s)

theorem post_letGo (tag : desc.magicTagValid = true) (idle : postDesc engine path desc s = (0, s)) :
    postRouting engine path desc s = letGo engine path s := by
  unfold postRouting letGo mtkHnatNfPostRouting
  dsimp only
  by_cases bridge : path.hook = .bridge ∧ path.bridgeInfo = true
  · have early : path.hook = .bridge ∧ (desc.magicTagValid = false ∨ path.bridgeInfo = true) :=
      ⟨bridge.1, Or.inr bridge.2⟩
    rw [if_pos early, if_pos bridge]
  · have late : ¬ (path.hook = .bridge ∧
        (desc.magicTagValid = false ∨ path.bridgeInfo = true)) := by
      rintro ⟨hook, invalid | info⟩
      · rw [tag] at invalid
        exact Bool.noConfusion invalid
      · exact bridge ⟨hook, info⟩
    rw [if_neg late, if_neg bridge]
    split
    · rfl
    · rw [idle]
      rfl

theorem postDesc_alg (alg : desc.alg = true) : postDesc engine path desc s = (0, s) := by
  simp [postDesc, alg]

theorem switchReason_forced (forced : desc.crsn = HIT_BIND_FORCE_TO_CPU) :
    switchReason engine path desc s = (0, s) := by
  unfold switchReason
  rw [forced]
  rfl

theorem withTops_entry : (withTops path desc).entry = desc.entry := by
  unfold withTops
  split <;> rfl

theorem withTops_crsn : (withTops path desc).crsn = desc.crsn := by
  unfold withTops
  split <;> rfl

theorem withTops_sport : (withTops path desc).sport = desc.sport := by
  unfold withTops
  split <;> rfl

theorem postDesc_forced (forced : desc.crsn = HIT_BIND_FORCE_TO_CPU)
    (inside : skbHnatIsHashed engine desc.entry = true →
      skbHnatPpe engine desc.sport < engine.plat.ppeNum) :
    postDesc engine path desc s = (0, s) := by
  unfold postDesc
  by_cases hashed : skbHnatIsHashed engine desc.entry = true
  · have within : entryOutside engine (withTops path desc) = false := by
      have bound : desc.entry.toNat < engine.plat.foeEtryNum := by
        rw [skbHnatIsHashed, Bool.and_eq_true] at hashed
        exact of_decide_eq_true hashed.2
      rw [entryOutside, withTops_entry, withTops_sport, Bool.or_eq_false_iff]
      exact ⟨decide_eq_false (by omega), decide_eq_false (by have := inside hashed; omega)⟩
    have idle : switchReason engine path (withTops path desc) s = (0, s) :=
      switchReason_forced (withTops_crsn.trans forced)
    simp only [within, idle, Bool.false_eq_true, if_false, ite_self]
  · rw [Bool.not_eq_true] at hashed
    simp [hashed]

end

/-! ## A way out by a port of the engine -/

def emptyIphdr : Iphdr := ⟨5, 0, 0, 0, 0, 0, 0, 0, 0, 0⟩

def emptyIp6hdr : Ipv6hdr := ⟨0, 0, 0, 0, 0, 0, 0, 0, 0⟩

def plainSkb : Skb where
  ethProto := ETH_P_IP
  hDest := 0
  protocol := ETH_P_IP
  pppoeSid := 0
  pppProto := none
  ipVersion := IPVERSION_V4
  iph := { emptyIphdr with protocol := IPPROTO_UDP }
  ip6h := emptyIp6hdr
  ports := none
  tcpHdrlen := 0
  innerIph := emptyIphdr
  innerIp6h := emptyIp6hdr
  innerPorts := none
  vlanTci := none
  mark := 0
  desc := ⟨0, 0, 0, 0, 0, false, 0, false⟩
  dstXfrm := false
  ifindex := 3

/-- To a device of the LAN group; the packet is a fragment without ports, which 464XLAT
does not translate. -/
def toLan : Path where
  hook := .ipv4
  bridgeInfo := false
  bridged := false
  xlat :=
    { skb := ⟨ETH_P_IP, emptyIphdr, emptyIp6hdr, fun _ => none, none⟩
      out := ⟨['b', 'o', 'n', 'd', '0'], none, 0⟩
      timestamp := 0 }
  spaceAvailableHead := true
  macHeaderSet := true
  exception := false
  noSlave := false
  tnl := .absent
  accelType := true
  dst := true
  neigh := none
  devAddr := 0
  hSource := 0
  encapRefused := false
  mcastTimestamp := 0
  pass :=
    { skb := plainSkb
      dev := ⟨['b', 'o', 'n', 'd', '0'], 3, false, false, none, none, MTK_GMAC2_ID, false, 1000⟩
      hwPath := ⟨0, 0, 0, 0, false, false, false, 0, none⟩
      env := ⟨fun _ => none, false, none, 0⟩
      kzalloc := true
      locked := true }

section

variable {engine : Engine} {arrival : Arrival} {s : Driver} {prior desc : HnatDesc}

theorem toLan_xlat (setup : XlatHandover.Setup) (x : XlatHandover.State) :
    mtk464xlatPostProcess setup toLan.xlat x = (-1, x) := by
  have family : XlatHandover.isL2w toLan.xlat.skb.protocol = some false := by decide
  have flow : XlatHandover.xlatFlow x.xlat toLan.xlat.skb false = none := by
    unfold XlatHandover.xlatFlow
    cases XlatMap.mtkPpeGetXlatV6ByV4 x.xlat toLan.xlat.skb.iph.saddr <;> rfl
  rw [mtk464xlatPostProcess, family]
  simp [XlatHandover.xlatSlot, XlatHandover.mtk464xlatGetHash, flow]

theorem toLan_post (desc : HnatDesc) (s : Driver) :
    postRouting engine toLan desc s =
      (if (postDesc engine toLan desc s).1 = 0 then .accept else .drop,
        (postDesc engine toLan desc s).2) := by
  have hook : ¬ (toLan.hook = .bridge ∧ (desc.magicTagValid = false ∨ toLan.bridgeInfo = true)) :=
    fun both => PostHook.noConfusion both.1
  have fails : ¬ (engine.xlatToggle = true ∧ (-1 : Int) = 0) := fun both => absurd both.2 (by decide)
  rw [postRouting, if_neg hook, mtkHnatNfPostRouting, toLan_xlat]
  dsimp only
  rw [if_neg fails]

theorem toLan_lanGrp : toLan.pass.dev.isLanGrp engine.cfg = true := by
  rw [EgressDev.isLanGrp, Bool.or_eq_true]
  exact Or.inr (by decide)

theorem toLan_postDesc (alg : desc.alg = false) (tag : desc.magicTagValid = true)
    (hashed : skbHnatIsHashed engine desc.entry = true) :
    postDesc engine toLan desc s =
      if entryOutside engine desc then (-1, s) else switchReason engine toLan desc s := by
  have physical : BoundFlows.isVirtDev engine.cfg toLan.pass.dev = false := by
    rw [BoundFlows.isVirtDev, toLan_lanGrp]
    rfl
  rw [postDesc, alg, tag, hashed, physical]
  rfl

theorem toLan_multicast (alg : desc.alg = false) (tag : desc.magicTagValid = true)
    (hashed : skbHnatIsHashed engine desc.entry = true)
    (reason : desc.crsn = HIT_BIND_MULTICAST_TO_CPU) :
    (postRouting engine toLan desc s).1 = .drop := by
  have port : (!toLan.pass.dev.isDsaLan && toLan.pass.dev.isEthGrp engine.cfg) = true := by
    rw [EgressDev.isEthGrp, toLan_lanGrp]
    rfl
  have copied : switchReason engine toLan desc s = (-1, s) := by
    unfold switchReason
    rw [reason]
    simp only [port]
    rfl
  rw [toLan_post, toLan_postDesc alg tag hashed, copied, ite_self]
  rfl

theorem toLan_outside (alg : desc.alg = false) (tag : desc.magicTagValid = true)
    (hashed : skbHnatIsHashed engine desc.entry = true)
    (outside : engine.plat.ppeNum ≤ skbHnatPpe engine desc.sport) :
    (postRouting engine toLan desc s).1 = .drop := by
  have beyond : entryOutside engine desc = true := by
    rw [entryOutside, Bool.or_eq_true]
    exact Or.inr (decide_eq_true outside)
  rw [toLan_post, toLan_postDesc alg tag hashed, if_pos beyond]
  rfl

theorem toLan_idle (idle : postDesc engine toLan desc s = (0, s)) :
    (postRouting engine toLan desc s).1 = .accept := by
  rw [toLan_post, idle]
  rfl

theorem toLan_unhashed (unhashed : skbHnatIsHashed engine desc.entry = false) :
    (postRouting engine toLan desc s).1 = .accept := by
  refine toLan_idle ?_
  simp [postDesc, unhashed]

theorem toLan_untagged (tag : desc.magicTagValid = false) :
    (postRouting engine toLan desc s).1 = .accept := by
  refine toLan_idle ?_
  simp [postDesc, tag]

/-! ## The verdicts on that way -/

def verdicts (engine : Engine) (arrival : Arrival) (s : Driver) (prior : HnatDesc) :
    Verdict × Option Verdict :=
  ((journey engine arrival s toLan prior).1, (journey engine arrival s toLan prior).2.1)

theorem verdicts_same (undisturbed : Undisturbed engine arrival s) (prior prior' : HnatDesc) :
    verdicts engine arrival s prior = verdicts engine arrival s prior' := by
  rw [verdicts, verdicts, undisturbed toLan prior prior']

theorem verdicts_stolen {s' : Driver}
    (one : ingress engine arrival.dev arrival.frame arrival.hook prior s = (.stolen, s')) :
    verdicts engine arrival s prior = (.stolen, none) := by
  rw [verdicts, journey, one]

theorem verdicts_accepted {s' : Driver}
    (one : ingress engine arrival.dev arrival.frame arrival.hook prior s = (.accepted desc, s')) :
    verdicts engine arrival s prior = (.accept, some (postRouting engine toLan desc s').1) := by
  rw [verdicts, journey, one]

end

/-! ## Two runs -/

section

variable {engine : Engine} {arrival : Arrival} {s : Driver}

/-- Two descriptors that no hook may tell apart, if the headroom is not to show. -/
def copied (sport : PsePort) : HnatDesc :=
  { HnatDesc.zero with
    crsn := HIT_BIND_MULTICAST_TO_CPU, sport := sport, magicTagProtect := HNAT_MAGIC_TAG }

def unhashed (sport : PsePort) : HnatDesc :=
  { HnatDesc.zero with entry := 0x7fff, sport := sport }

theorem first_hashed : skbHnatIsHashed engine 0 = true := by
  have some := engine.someEntry
  simpa [skbHnatIsHashed] using some

theorem none_hashed : skbHnatIsHashed engine 0x7fff = false := by
  simp [skbHnatIsHashed]

theorem disturbed_bare (bare : ¬ Claimed engine arrival) : ¬ Undisturbed engine arrival s := by
  intro undisturbed
  have same := verdicts_same undisturbed (copied 0) .zero
  rw [verdicts_accepted (ingress_bare bare _), verdicts_accepted (ingress_bare bare _),
    toLan_multicast rfl rfl first_hashed rfl, toLan_untagged rfl] at same
  exact absurd same (by decide)

variable {sport : PsePort}

theorem skbHnatPpe_dma (dma : sport = NR_PDMA_PORT ∨ sport = NR_QDMA_PORT) :
    skbHnatPpe engine sport = skbHnatPpe engine 4 := by
  rcases dma with rfl | rfl <;> rfl

theorem taken_congr {sport' : PsePort} (same : skbHnatPpe engine sport = skbHnatPpe engine sport') :
    Taken engine arrival s sport ↔ Taken engine arrival s sport' := by
  unfold Taken isPpeSupportType prot3tSupport
  rw [same]

theorem exists_port (engine : Engine) (sport : PsePort) :
    ∃ port, port ≠ NR_PDMA_PORT ∧ port ≠ NR_QDMA_PORT ∧
    skbHnatPpe engine sport = skbHnatPpe engine port := by
  by_cases dma : sport = NR_PDMA_PORT ∨ sport = NR_QDMA_PORT
  · exact ⟨4, by decide, by decide, skbHnatPpe_dma dma⟩
  · rw [not_or] at dma
    exact ⟨sport, dma.1, dma.2, rfl⟩

theorem floodCheck_reason {foe : FoeTable} {desc : HnatDesc}
    (other : reasonReadyBind engine desc.crsn = false) :
    floodCheck engine arrival.frame foe desc = false := by
  simp [floodCheck, other]

theorem reasonReadyBind_other {crsn : BitVec 5} (unbind : crsn ≠ HIT_UNBIND)
    (rate : crsn ≠ HIT_UNBIND_RATE_REACH) : reasonReadyBind engine crsn = false := by
  simp [reasonReadyBind, unbind, rate]

theorem copied_unready (sport : PsePort) : reasonReadyBind engine (copied sport).crsn = false := by
  have unbind : HIT_BIND_MULTICAST_TO_CPU ≠ HIT_UNBIND := by decide
  have rate : HIT_BIND_MULTICAST_TO_CPU ≠ HIT_UNBIND_RATE_REACH := by decide
  exact reasonReadyBind_other unbind rate

theorem unhashed_unready (sport : PsePort) :
    reasonReadyBind engine (unhashed sport).crsn = false := by
  have unbind : (0 : BitVec 5) ≠ HIT_UNBIND := by decide
  have rate : (0 : BitVec 5) ≠ HIT_UNBIND_RATE_REACH := by decide
  exact reasonReadyBind_other unbind rate

theorem passes_on (prior : HnatDesc) (ok : Claimed engine arrival)
    (kept : ¬ HandsOver engine arrival) (own : ¬ Retagged engine arrival)
    (taken : Taken engine arrival s prior.sport) (pdma : prior.sport ≠ NR_PDMA_PORT)
    (qdma : prior.sport ≠ NR_QDMA_PORT) (forced : prior.crsn ≠ HIT_BIND_FORCE_TO_CPU)
    (unready : reasonReadyBind engine prior.crsn = false) :
    ∃ desc s', Carries arrival prior.entry prior.crsn prior.sport desc ∧
      ingress engine arrival.dev arrival.frame arrival.hook prior s = (.accepted desc, s') := by
  by_cases bridge : arrival.hook = .bridge
  · have untagged : ¬ hqosTagged engine arrival.frame = true := fun tagged => own ⟨bridge, tagged⟩
    obtain ⟨desc, carries, one⟩ := bridge_taken _ ok bridge taken
    rw [indexOf, if_neg untagged, reasonOf, if_neg untagged] at carries
    have calm : floodCheck engine arrival.frame s.foe desc = false := by
      refine floodCheck_reason ?_
      rw [carries.crsn]
      exact unready
    rw [calm, if_neg Bool.false_ne_true] at one
    by_cases tries : Tries arrival
    · have down : extToGe arrival.frame (engine.gPpdev.or engine.ppdByName) = false := by
        refine Bool.eq_false_iff.mpr fun up => kept ⟨tries, ?_⟩
        rw [ppdev, if_pos bridge]
        exact up
      rw [localIn_tries carries tries.1 (tries.2 bridge), down] at one
      exact ⟨desc, s, carries, one⟩
    · rw [localIn_other carries tries, localInGe_passes carries pdma qdma (Or.inl forced)] at one
      exact ⟨desc, s, carries, one⟩
  · obtain ⟨desc, carries, one⟩ := pre_taken _ ok bridge taken
    cases kind : plain arrival.dev with
    | true =>
      have down : extToGe arrival.frame engine.gPpdev = false := by
        refine Bool.eq_false_iff.mpr fun up => kept ⟨⟨kind, fun hook => absurd hook bridge⟩, ?_⟩
        rw [ppdev, if_neg bridge]
        exact up
      rw [preRouting_tries carries kind, down] at one
      exact ⟨desc, s, carries, one⟩
    | false =>
      obtain ⟨s', passes⟩ := preRouting_passes (s := s) carries kind (Or.inl forced)
      exact ⟨desc, s', carries, one.trans passes⟩

theorem disturbed_kept (ok : Claimed engine arrival) (kept : ¬ HandsOver engine arrival)
    (own : ¬ Retagged engine arrival) (taken : Taken engine arrival s sport) :
    ¬ Undisturbed engine arrival s := by
  intro undisturbed
  obtain ⟨port, pdma, qdma, ppe⟩ := exists_port engine sport
  have there : Taken engine arrival s port := (taken_congr ppe).mp taken
  obtain ⟨desc, s₁, carries, one⟩ := passes_on (copied port) ok kept own there pdma qdma
    (by decide : HIT_BIND_MULTICAST_TO_CPU ≠ _) (copied_unready port)
  obtain ⟨desc', s₂, carries', two⟩ := passes_on (unhashed port) ok kept own there pdma
    qdma (by decide : (0 : BitVec 5) ≠ _) (unhashed_unready port)
  have same := verdicts_same undisturbed (copied port) (unhashed port)
  have hashed : skbHnatIsHashed engine desc.entry = true := by
    rw [carries.entry]
    exact first_hashed
  have nowhere : skbHnatIsHashed engine desc'.entry = false := by
    rw [carries'.entry]
    exact none_hashed
  rw [verdicts_accepted one, verdicts_accepted two,
    toLan_multicast carries.alg carries.tag hashed carries.crsn, toLan_unhashed nowhere] at same
  exact absurd same (by decide)

theorem journey_untaken (prior : HnatDesc) (ok : Claimed engine arrival)
    (refused : ¬ Taken engine arrival s prior.sport) (path : Path) :
    journey engine arrival s path prior =
      (.accept, some (letGo engine path s).1, (letGo engine path s).2) := by
  obtain ⟨desc, alg, tag, one⟩ := ingress_untaken _ ok refused
  rw [journey, one]
  dsimp only
  rw [post_letGo tag (postDesc_alg alg)]

theorem verdicts_untaken (prior : HnatDesc) (ok : Claimed engine arrival)
    (refused : ¬ Taken engine arrival s prior.sport) :
    verdicts engine arrival s prior = (.accept, some .accept) := by
  rw [verdicts, journey_untaken _ ok refused]
  rfl

/-- The descriptor with a slot of the type that is checked, at the rate of a bind. -/
def flooding (sport : PsePort) (entry : BitVec 15) : HnatDesc :=
  { HnatDesc.zero with entry := entry, sport := sport, crsn := HIT_UNBIND_RATE_REACH }

theorem ingress_handsOver (prior : HnatDesc) (ok : Claimed engine arrival)
    (hands : HandsOver engine arrival) (taken : Taken engine arrival s prior.sport)
    (calm : arrival.hook = .bridge → ∀ desc,
      Carries arrival (indexOf engine arrival prior) (reasonOf engine arrival prior) prior.sport
        desc → floodCheck engine arrival.frame s.foe desc = false) :
    ingress engine arrival.dev arrival.frame arrival.hook prior s = (.stolen, s) := by
  obtain ⟨tries, sent⟩ := hands
  rw [ppdev] at sent
  by_cases bridge : arrival.hook = .bridge
  · obtain ⟨desc, carries, one⟩ := bridge_taken _ ok bridge taken
    rw [if_pos bridge] at sent
    rw [one, calm bridge desc carries, if_neg Bool.false_ne_true,
      localIn_tries carries tries.1 (tries.2 bridge), sent]
    rfl
  · obtain ⟨desc, carries, one⟩ := pre_taken _ ok bridge taken
    rw [if_neg bridge] at sent
    rw [one, preRouting_tries carries tries.1, sent]
    rfl

theorem retagged_calm (retagged : Retagged engine arrival) {prior desc : HnatDesc}
    (carries : Carries arrival (indexOf engine arrival prior) (reasonOf engine arrival prior)
      prior.sport desc) : floodCheck engine arrival.frame s.foe desc = false := by
  refine floodCheck_reason ?_
  rw [carries.crsn, reasonOf, if_pos retagged.2]
  exact reasonReadyBind_other (by decide) (by decide)

end

/-! ## The tag of HQoS -/

section

variable {engine : Engine} {arrival : Arrival} {s : Driver}

theorem hqosTagged_iff (tagged : hqosTagged engine arrival.frame = true) :
    (engine.cfg.hqosMode = true ∧ engine.cfg.whnat = true) ∧ hqosFrame arrival.frame = true := by
  rw [hqosTagged, Bool.and_eq_true, Bool.and_eq_true] at tagged
  exact tagged

theorem retagged_taken (prior : HnatDesc) (ok : Claimed engine arrival)
    (retagged : Retagged engine arrival) (taken : Taken engine arrival s prior.sport) :
    ∃ desc, Carries arrival (hqosIndex arrival.frame) HIT_BIND_FORCE_TO_CPU prior.sport desc ∧
      ingress engine arrival.dev arrival.frame arrival.hook prior s =
        localIn engine arrival.dev arrival.frame desc s := by
  obtain ⟨desc, carries, one⟩ := bridge_taken _ ok retagged.1 taken
  rw [retagged_calm retagged carries, if_neg Bool.false_ne_true] at one
  rw [indexOf, if_pos retagged.2, reasonOf, if_pos retagged.2] at carries
  exact ⟨desc, carries, one⟩

theorem localInGe_retagged (retagged : Retagged engine arrival) {prior desc : HnatDesc}
    (carries : Carries arrival (hqosIndex arrival.frame) HIT_BIND_FORCE_TO_CPU prior.sport desc) :
    localInGe engine arrival.dev arrival.frame desc s =
      if (arrival.dev.lan || arrival.dev.lan2 || arrival.dev.wan || arrival.dev.ppd ||
          arrival.dev.rxPpd) && skbHnatIsHashed engine (hqosIndex arrival.frame) then
        (if geToExt engine arrival.frame s.foe desc then .stolen else .dropped, s)
      else (.accepted desc, s) := by
  obtain ⟨⟨mode, whnat⟩, frame⟩ := hqosTagged_iff retagged.2
  have toggle : (engine.cfg.qosToggle == 0) = false := by
    have one : engine.cfg.qosToggle = 1 := by
      simpa [HnatConfig.hqosMode] using mode
    rw [one]
    rfl
  rw [localInGe, whnat, frame, toggle, doGe2extFast, carries.entry, carries.crsn]
  simp

theorem geToExt_iff (retagged : Retagged engine arrival) {prior desc : HnatDesc}
    (carries : Carries arrival (hqosIndex arrival.frame) HIT_BIND_FORCE_TO_CPU prior.sport desc)
    (hashed : skbHnatIsHashed engine (hqosIndex arrival.frame) = true) :
    geToExt engine arrival.frame s.foe desc = true ↔ Forwards engine arrival s prior.sport := by
  obtain ⟨⟨mode, -⟩, frame⟩ := hqosTagged_iff retagged.2
  have bound : ¬ engine.plat.foeEtryNum ≤ (hqosIndex arrival.frame).toNat := by
    rw [skbHnatIsHashed, Bool.and_eq_true] at hashed
    exact Nat.not_le.mpr (of_decide_eq_true hashed.2)
  unfold geToExt Forwards entryOutside
  rw [carries.entry, carries.sport]
  by_cases inside : skbHnatPpe engine prior.sport < engine.plat.ppeNum
  · simp [bound, inside, mode, frame]
  · simp [inside]

theorem ingress_redirected (prior : HnatDesc) (ok : Claimed engine arrival)
    (retagged : Retagged engine arrival) (other : ¬ Tries arrival)
    (redirects : Redirects engine arrival) (taken : Taken engine arrival s prior.sport) :
    ∃ desc, (geToExt engine arrival.frame s.foe desc = true ↔
        Forwards engine arrival s prior.sport) ∧
      ingress engine arrival.dev arrival.frame arrival.hook prior s =
        (if geToExt engine arrival.frame s.foe desc then .stolen else .dropped, s) := by
  obtain ⟨desc, carries, one⟩ := retagged_taken _ ok retagged taken
  have sends : ((arrival.dev.lan || arrival.dev.lan2 || arrival.dev.wan || arrival.dev.ppd ||
      arrival.dev.rxPpd) && skbHnatIsHashed engine (hqosIndex arrival.frame)) = true := by
    rw [redirects.1, redirects.2]
    rfl
  rw [localIn_other carries other, localInGe_retagged retagged carries, if_pos sends] at one
  exact ⟨desc, geToExt_iff retagged carries redirects.2, one⟩

theorem journey_forwarded (prior : HnatDesc) (ok : Claimed engine arrival)
    (retagged : Retagged engine arrival) (other : ¬ Tries arrival)
    (redirects : Redirects engine arrival) (taken : Taken engine arrival s prior.sport)
    (forwards : Forwards engine arrival s prior.sport) (path : Path) :
    journey engine arrival s path prior = (.stolen, none, s) := by
  obtain ⟨desc, helper, one⟩ := ingress_redirected _ ok retagged other redirects taken
  rw [journey, one, if_pos (helper.mpr forwards)]

theorem journey_lost (prior : HnatDesc) (ok : Claimed engine arrival)
    (retagged : Retagged engine arrival) (other : ¬ Tries arrival)
    (redirects : Redirects engine arrival) (taken : Taken engine arrival s prior.sport)
    (lost : ¬ Forwards engine arrival s prior.sport) (path : Path) :
    journey engine arrival s path prior = (.drop, none, s) := by
  obtain ⟨desc, helper, one⟩ := ingress_redirected _ ok retagged other redirects taken
  rw [journey, one, if_neg (mt helper.mp lost)]

theorem ingress_tagged (prior : HnatDesc) (ok : Claimed engine arrival)
    (retagged : Retagged engine arrival) (kept : ¬ HandsOver engine arrival)
    (stays : ¬ (¬ Tries arrival ∧ Redirects engine arrival))
    (taken : Taken engine arrival s prior.sport) :
    ∃ desc, Carries arrival (hqosIndex arrival.frame) HIT_BIND_FORCE_TO_CPU prior.sport desc ∧
      ingress engine arrival.dev arrival.frame arrival.hook prior s = (.accepted desc, s) := by
  obtain ⟨desc, carries, one⟩ := retagged_taken _ ok retagged taken
  refine ⟨desc, carries, one.trans ?_⟩
  by_cases tries : Tries arrival
  · have down : extToGe arrival.frame (engine.gPpdev.or engine.ppdByName) = false := by
      refine Bool.eq_false_iff.mpr fun up => kept ⟨tries, ?_⟩
      rw [ppdev, if_pos retagged.1]
      exact up
    rw [localIn_tries carries tries.1 (tries.2 retagged.1), down]
    rfl
  · rw [localIn_other carries tries, localInGe_retagged retagged carries]
    refine if_neg fun both => stays ⟨tries, ?_⟩
    rw [Bool.and_eq_true] at both
    exact both

theorem journey_tagged (prior : HnatDesc) (ok : Claimed engine arrival)
    (retagged : Retagged engine arrival) (kept : ¬ HandsOver engine arrival)
    (stays : ¬ (¬ Tries arrival ∧ Redirects engine arrival))
    (taken : Taken engine arrival s prior.sport)
    (inside : skbHnatIsHashed engine (hqosIndex arrival.frame) = true →
      skbHnatPpe engine prior.sport < engine.plat.ppeNum) (path : Path) :
    journey engine arrival s path prior =
      (.accept, some (letGo engine path s).1, (letGo engine path s).2) := by
  obtain ⟨desc, carries, one⟩ := ingress_tagged _ ok retagged kept stays taken
  have idle : postDesc engine path desc s = (0, s) := by
    refine postDesc_forced carries.crsn ?_
    rw [carries.entry, carries.sport]
    exact inside
  rw [journey, one]
  dsimp only
  rw [post_letGo carries.tag idle]

theorem verdicts_outside (prior : HnatDesc) (ok : Claimed engine arrival)
    (retagged : Retagged engine arrival) (kept : ¬ HandsOver engine arrival)
    (stays : ¬ (¬ Tries arrival ∧ Redirects engine arrival))
    (taken : Taken engine arrival s prior.sport)
    (hashed : skbHnatIsHashed engine (hqosIndex arrival.frame) = true)
    (outside : engine.plat.ppeNum ≤ skbHnatPpe engine prior.sport) :
    verdicts engine arrival s prior = (.accept, some .drop) := by
  obtain ⟨desc, carries, one⟩ := ingress_tagged _ ok retagged kept stays taken
  rw [verdicts_accepted one, toLan_outside carries.alg carries.tag]
  · rw [carries.entry]
    exact hashed
  · rw [carries.sport]
    exact outside

theorem verdicts_default (ok : Claimed engine arrival) (retagged : Retagged engine arrival)
    (kept : ¬ HandsOver engine arrival) (stays : ¬ (¬ Tries arrival ∧ Redirects engine arrival)) :
    verdicts engine arrival s (copied 4) = (.accept, some .accept) := by
  by_cases taken : Taken engine arrival s 4
  · rw [verdicts, journey_tagged (copied 4) ok retagged kept stays taken]
    · rfl
    · intro _
      exact engine.somePpe
  · exact verdicts_untaken (copied 4) ok taken

/-! ## The exact condition -/

theorem calm_copied (sport : PsePort) (bridge : arrival.hook = .bridge) (desc : HnatDesc)
    (carries : Carries arrival (indexOf engine arrival (copied sport))
      (reasonOf engine arrival (copied sport)) (copied sport).sport desc) :
    floodCheck engine arrival.frame s.foe desc = false := by
  by_cases tagged : hqosTagged engine arrival.frame = true
  · exact retagged_calm ⟨bridge, tagged⟩ carries
  · refine floodCheck_reason ?_
    rw [carries.crsn, reasonOf, if_neg tagged]
    exact copied_unready sport

theorem handsOver_taken (ok : Claimed engine arrival) (hands : HandsOver engine arrival)
    (undisturbed : Undisturbed engine arrival s) {sport : PsePort}
    (taken : Taken engine arrival s sport) (sport' : PsePort) : Taken engine arrival s sport' := by
  by_contra refused
  have same := verdicts_same undisturbed (copied sport) (copied sport')
  rw [verdicts_stolen (ingress_handsOver (copied sport) ok hands taken
      (calm_copied sport)), verdicts_untaken (copied sport') ok refused] at same
  exact absurd same (by decide)

theorem handsOver_unfloodable (ok : Claimed engine arrival) (hands : HandsOver engine arrival)
    (own : ¬ Retagged engine arrival) (undisturbed : Undisturbed engine arrival s)
    (all : ∀ sport, Taken engine arrival s sport) : ¬ Floodable engine arrival s := by
  rintro ⟨bridge, floods, sport, entry, inTable, inside, type⟩
  have untagged : ¬ hqosTagged engine arrival.frame = true := fun tagged => own ⟨bridge, tagged⟩
  have single : isMulticastEtherAddr arrival.frame.skb.hDest = false := hands.1.2 bridge
  obtain ⟨desc, carries, one⟩ := bridge_taken (flooding sport entry) ok bridge (all sport)
  rw [indexOf, if_neg untagged, reasonOf, if_neg untagged] at carries
  have found : floodCheck engine arrival.frame s.foe desc = true := by
    have rate : reasonReadyBind engine HIT_UNBIND_RATE_REACH = true := rfl
    have there : entryOutside engine desc = false := by
      rw [entryOutside, carries.entry, carries.sport, Bool.or_eq_false_iff]
      exact ⟨decide_eq_false (Nat.not_le.mpr inTable), decide_eq_false (Nat.not_le.mpr inside)⟩
    rw [floodCheck, floods, carries.alg, there, carries.crsn, carries.entry, carries.sport, single]
    simp [flooding, rate, type]
  rw [found, if_pos rfl] at one
  have same := verdicts_same undisturbed (copied sport) (flooding sport entry)
  have idle : postDesc engine toLan { desc with alg := true } s = (0, s) := postDesc_alg rfl
  rw [verdicts_stolen (ingress_handsOver (copied sport) ok hands (all sport)
      (calm_copied sport)), verdicts_accepted one, toLan_idle idle] at same
  exact absurd same (by decide)

theorem tagSpared_of_undisturbed (ok : Claimed engine arrival) (kept : ¬ HandsOver engine arrival)
    (retagged : Retagged engine arrival) (undisturbed : Undisturbed engine arrival s)
    {sport : PsePort} (taken : Taken engine arrival s sport) : TagSpared engine arrival s := by
  by_cases redirected : ¬ Tries arrival ∧ Redirects engine arrival
  · obtain ⟨other, redirects⟩ := redirected
    have all : ∀ port, Taken engine arrival s port := by
      intro port
      by_contra refused
      have same := undisturbed toLan (copied sport) (copied port)
      rw [journey_untaken (copied port) ok refused] at same
      by_cases forwards : Forwards engine arrival s sport
      · rw [journey_forwarded (copied sport) ok retagged other redirects taken forwards]
          at same
        exact Verdict.noConfusion (congrArg Prod.fst same)
      · rw [journey_lost (copied sport) ok retagged other redirects taken forwards]
          at same
        exact Verdict.noConfusion (congrArg Prod.fst same)
    have onward : ∀ p q, Forwards engine arrival s p → Forwards engine arrival s q := by
      intro p q forwards
      by_contra lost
      have same := undisturbed toLan (copied p) (copied q)
      rw [journey_forwarded (copied p) ok retagged other redirects (all p) forwards,
        journey_lost (copied q) ok retagged other redirects (all q) lost] at same
      exact Verdict.noConfusion (congrArg Prod.fst same)
    exact Or.inl ⟨other, redirects, all, fun p q => ⟨onward p q, onward q p⟩⟩
  · refine Or.inr ⟨redirected, fun hashed port taken => ?_⟩
    by_contra outside
    have same := verdicts_same undisturbed (copied port) (copied 4)
    rw [verdicts_outside (copied port) ok retagged kept redirected taken hashed
      (Nat.not_lt.mp outside), verdicts_default ok retagged kept redirected] at same
    exact absurd same (by decide)

theorem undisturbed_of_tagSpared (ok : Claimed engine arrival)
    (kept : ¬ HandsOver engine arrival) (retagged : Retagged engine arrival)
    (spared : TagSpared engine arrival s) : Undisturbed engine arrival s := by
  intro path prior prior'
  rcases spared with ⟨other, redirects, all, alike⟩ | ⟨stays, harmless⟩
  · by_cases forwards : Forwards engine arrival s prior.sport
    · rw [journey_forwarded _ ok retagged other redirects (all _) forwards,
        journey_forwarded _ ok retagged other redirects (all _) ((alike _ _).mp forwards)]
    · rw [journey_lost _ ok retagged other redirects (all _) forwards,
        journey_lost _ ok retagged other redirects (all _) (mt (alike _ _).mp forwards)]
  · have letsGo : ∀ desc : HnatDesc, journey engine arrival s path desc =
        (.accept, some (letGo engine path s).1, (letGo engine path s).2) := by
      intro desc
      by_cases taken : Taken engine arrival s desc.sport
      · exact journey_tagged _ ok retagged kept stays taken
          (fun hashed => harmless hashed desc.sport taken) path
      · exact journey_untaken _ ok taken path
    rw [letsGo, letsGo]

theorem undisturbed_of_handsOver (ok : Claimed engine arrival) (hands : HandsOver engine arrival)
    (all : ∀ sport, Taken engine arrival s sport)
    (calm : Retagged engine arrival ∨ ¬ Floodable engine arrival s) :
    Undisturbed engine arrival s := by
  have stolen : ∀ (path : Path) (prior : HnatDesc),
      journey engine arrival s path prior = (.stolen, none, s) := by
    intro path prior
    rw [journey, ingress_handsOver _ ok hands (all prior.sport)]
    intro bridge desc carries
    rcases calm with retagged | unfloodable
    · exact retagged_calm retagged carries
    · refine Bool.eq_false_iff.mpr fun found => unfloodable ⟨bridge, ?_⟩
      simp only [floodCheck, Bool.and_eq_true, Bool.not_eq_true', entryOutside,
        Bool.or_eq_false_iff, decide_eq_false_iff_not, not_le, beq_iff_eq] at found
      obtain ⟨⟨⟨⟨⟨floods, -⟩, -⟩, inTable, inside⟩, type⟩, -⟩ := found
      exact ⟨floods, desc.sport, desc.entry, inTable, inside, type⟩
  intro path prior prior'
  rw [stolen, stolen]

/-- The headroom shows nowhere just when the packet is spared. -/
theorem undisturbed_iff_spared (engine : Engine) (arrival : Arrival) (s : Driver) :
    Undisturbed engine arrival s ↔ Spared engine arrival s := by
  constructor
  · intro undisturbed
    have ok : Claimed engine arrival := by
      by_contra bare
      exact disturbed_bare bare undisturbed
    refine ⟨ok, ?_⟩
    by_cases some : ∃ sport, Taken engine arrival s sport
    · obtain ⟨sport, taken⟩ := some
      by_cases hands : HandsOver engine arrival
      · have all := handsOver_taken ok hands undisturbed taken
        refine Or.inr (Or.inl ⟨hands, all, ?_⟩)
        by_cases own : Retagged engine arrival
        · exact Or.inl own
        · exact Or.inr (handsOver_unfloodable ok hands own undisturbed all)
      · by_cases own : Retagged engine arrival
        · exact Or.inr (Or.inr ⟨hands, own,
            tagSpared_of_undisturbed ok hands own undisturbed taken⟩)
        · exact absurd undisturbed (disturbed_kept ok hands own taken)
    · exact Or.inl fun sport taken => some ⟨sport, taken⟩
  · rintro ⟨ok, none | ⟨hands, all, calm⟩ | ⟨kept, retagged, spared⟩⟩
    · intro path prior prior'
      rw [journey_untaken _ ok (none _), journey_untaken _ ok (none _)]
    · exact undisturbed_of_handsOver ok hands all calm
    · exact undisturbed_of_tagSpared ok kept retagged spared

end

/-! ## While the ping-pong device is down -/

def engineDown : Engine where
  plat := ⟨1, 16, 0⟩
  version := .MTK_HNAT_V3
  ppeIdx := fun _ => none
  cfg := ⟨false, false, false, false, 0, false, false, false, false, 2, ['e', 't', 'h', '1'],
    ['e', 't', 'h', '0'], ['e', 't', 'h', '2']⟩
  bindThreshold := 1
  xlatToggle := false
  xlat := ⟨0, 0, []⟩
  prot3t := fun _ => Prot3Tuple.emptyCfg
  devFromIndex := fun _ => false
  wandevFromIndex := fun _ => false
  gPpdev := some false
  ppdByName := some false
  gRxPpdevUp := true
  somePpe := by decide
  someEntry := by decide

def fromWifi : Arrival where
  hook := .ipv4
  dev := ⟨⟨false, false, false, false, true, false, false, false⟩, false⟩
  frame :=
    { skb := plainSkb
      macHeader := true
      innerReadable := false
      innerTci := 0
      fragList := false
      headroomShort := false
      skbCow := true
      fromExtge := false
      tnlDecapOffloadable := none
      tnlDecapOffload := none
      tnlFoeValid := fun _ _ => false
      tnlPath := false
      floods := false
      calls := ⟨true, .same, .same, true, true⟩ }
  isExt := rfl
  noWhnat := rfl
  fresh := rfl

def emptyTables : Driver := ⟨⟨McastEvents.State.init, fun _ _ => []⟩, fun _ => .zero⟩

/-- The packet is dropped or sent out, as the bytes say. -/
theorem stale_reason_drops : ¬ Undisturbed engineDown fromWifi emptyTables ∧
    (journey engineDown fromWifi emptyTables toLan (copied 0)).2.1 = some .drop ∧
    (journey engineDown fromWifi emptyTables toLan (unhashed 0)).2.1 = some .accept := by
  have dropped : (journey engineDown fromWifi emptyTables toLan (copied 0)).2.1 = some .drop := by
    decide
  have sent : (journey engineDown fromWifi emptyTables toLan (unhashed 0)).2.1 =
      some .accept := by
    decide
  refine ⟨fun undisturbed => ?_, dropped, sent⟩
  rw [undisturbed toLan (copied 0) (unhashed 0), sent] at dropped
  exact absurd dropped (by decide)

end OpenwrtSource.Hnat.StaleHeadroom
