import OpenwrtSource.Lib.Ownership

/-!
# The verdicts of the ingress hooks

Three netfilter hooks pass packets between the PPE and the external devices.
Four helpers do it, and each tells by its own numbers what has become of the
packet; from them the hooks make NF_ACCEPT, NF_DROP or NF_STOLEN.
-/

namespace OpenwrtSource.Hnat.HookVerdicts

open Lib.BufferUse

/-! ## What the hooks look at -/

def FOE_MAGIC_GE_LAN : Nat := 0x1
def FOE_MAGIC_GE_WAN : Nat := 0x2
def FOE_MAGIC_EXT : Nat := 0x3
def FOE_MAGIC_GE_VIRTUAL : Nat := 0x4
def FOE_MAGIC_GE_PPD : Nat := 0x5
def FOE_MAGIC_GE_LAN2 : Nat := 0x6
def FOE_MAGIC_WED0 : Nat := 0x78
def FOE_MAGIC_WED1 : Nat := 0x79
def FOE_MAGIC_WED2 : Nat := 0x7A
def FOE_INVALID : Nat := 0xf
def HNAT_MAGIC_TAG : Nat := 0x6789
def HQOS_MAGIC_TAG : Nat := 0x5678
def HIT_BIND_FORCE_TO_CPU : Nat := 0x16
def NR_PDMA_PORT : Nat := 0
def NR_QDMA_PORT : Nat := 5
def ETH_P_8021Q : Nat := 0x8100

/-- What the descriptor at `skb->head` says. -/
structure HnatDesc where
  magicTag : Nat
  iface : Nat
  entry : Nat
  ppe : Nat
  sport : Nat
  reason : Nat
  tops : Bool
  isDecap : Bool

structure Packet where
  desc : HnatDesc
  headroomForInfo : Bool
  /-- `is_from_extge` and `is_from_mape`. -/
  fromExtge : Bool
  fromMape : Bool
  ppeSupportType : Bool
  /-- `skb->protocol` and the type in the Ethernet header. -/
  protocol : Nat
  hProto : Nat
  vlanTci : Nat
  /-- The tag behind the Ethernet header. -/
  innerTci : Nat
  multicastDest : Bool
  tnlFoeValid : Bool
  /-- `hnat_bridge_flood_check` keeps the packet from being bound. -/
  floods : Bool
  /-- An IPv6 packet that carries TCP or UDP over IPv4. -/
  mapeInner : Bool

/-- The macros on the name of `state->in`, and its operations. -/
structure InDev where
  whnat : Bool
  lan : Bool
  lan2 : Bool
  ppd : Bool
  ext : Bool
  wan : Bool
  br : Bool
  offloadCheck : Bool

structure Config where
  debugLevel : Nat
  qosToggle : Nat
  mapeToggle : Bool
  whnat : Bool
  /-- `CONFIG_MEDIATEK_NETSYS_V2` or `CONFIG_MEDIATEK_NETSYS_V3`. -/
  netsysV2OrV3 : Bool
  foeEtryNum : Nat
  ppeNum : Nat
  /-- `g_ppdev`, and whether it is up; the device that its name leads to. -/
  gPpdev : Option Bool
  ppdByName : Option Bool
  /-- `mtk_tnl_decap_offload`, and what it says of the packet. -/
  tnlDecapOffload : Option Bool
  /-- `get_dev_from_index` and `get_wandev_from_index` find a device. -/
  devFromIndex : Nat → Bool
  wandevFromIndex : Nat → Bool
  /-- `act_dp & UDF_PINGPONG_IFIDX` of an entry of the table. -/
  pingpongIfidx : Nat → Nat → Nat

/-- How a function ends that may put another packet in the place of its argument. -/
inductive Replaced
  | same
  | copied
  | failed
  deriving DecidableEq

structure Calls where
  vlanInsertTag : Bool
  skbVlanUntag : Replaced
  skbUnshare : Replaced
  pskbMayPull : Bool
  mapeAddIpv6Hdr : Bool

/-! ## The helpers -/

inductive Skb
  | caller
  | copy
  deriving DecidableEq

abbrev Uses : Type := List (Use Skb)

def NF_ACCEPT : Int := 1

section Helpers

variable (config : Config) (packet : Packet) (calls : Calls)

/-- `skb_unshare` and `skb_vlan_untag` give their argument up when they copy it, and
when they fail. -/
def replace (outcome : Replaced) : Uses × Option Skb :=
  match outcome with
  | .same => ([.touch .caller], some .caller)
  | .copied => ([.touch .caller, .acquire .copy, .release .caller], some .copy)
  | .failed => ([.touch .caller, .release .caller], none)

/-- The trace behind `dev_queue_xmit` reads the packet. -/
def doHnatExtToGe : Uses × Int :=
  if config.gPpdev = some true then
    if packet.vlanTci % 4096 ≠ 0 ∧ calls.vlanInsertTag = false then
      ([.touch .caller, .release .caller], -1)
    else
      ([.touch .caller, .release .caller] ++
        (if 7 ≤ config.debugLevel then [.touch .caller] else []), 0)
  else ([], -1)

def entryOutside : Prop :=
  config.foeEtryNum ≤ packet.desc.entry ∨ config.ppeNum ≤ packet.desc.ppe

instance : Decidable (entryOutside config packet) :=
  inferInstanceAs (Decidable (_ ∨ _))

def doHnatExtToGe2 : Uses × Int :=
  if entryOutside config packet then ([.touch .caller], -1)
  else if config.devFromIndex (packet.vlanTci % 4096) then
    if packet.hProto = ETH_P_8021Q then
      match replace calls.skbVlanUntag with
      | (uses, none) => (.touch .caller :: uses, -1)
      | (uses, some skb) => (.touch .caller :: uses ++ [.touch skb, .release skb], 0)
    else ([.touch .caller, .release .caller], 0)
  else if config.mapeToggle ∧ config.wandevFromIndex (packet.vlanTci % 4096) ∧
      calls.mapeAddIpv6Hdr then
    ([.touch .caller, .release .caller], 0)
  else ([.touch .caller], -1)

/-- Behind the lookup the packet has a device: what follows the transmission, for a
packet without one, is not reached. -/
def doHnatGeToExt : Uses × Int :=
  if entryOutside config packet then ([.touch .caller], -1)
  else if config.devFromIndex (config.pingpongIfidx packet.desc.ppe packet.desc.entry) = false
  then ([.touch .caller], 0)
  else if config.qosToggle = 1 ∧ packet.hProto = HQOS_MAGIC_TAG then
    match replace calls.skbUnshare with
    | (uses, none) => (.touch .caller :: uses, NF_ACCEPT)
    | (uses, some skb) =>
      if calls.pskbMayPull then (.touch .caller :: uses ++ [.touch skb, .release skb], 0)
      else (.touch .caller :: uses ++ [.touch skb], NF_ACCEPT)
  else ([.touch .caller, .release .caller], 0)

def doHnatMapeW2lFast : Uses × Int :=
  if config.mapeToggle ∧ packet.mapeInner then ([.touch .caller, .release .caller], 0)
  else ([.touch .caller], -1)

end Helpers

/-! ## The tests of the hooks -/

section Tests

variable (config : Config) (dev : InDev) (packet : Packet)

def isMagicTagValid : Prop := packet.desc.magicTag = HNAT_MAGIC_TAG

instance : Decidable (isMagicTagValid packet) := inferInstanceAs (Decidable (_ = _))

def skbHnatIsHashed : Prop :=
  packet.desc.entry ≠ (if config.netsysV2OrV3 then 0x7fff else 0x3fff) ∧
    packet.desc.entry < config.foeEtryNum

instance : Decidable (skbHnatIsHashed config packet) :=
  inferInstanceAs (Decidable (_ ∧ _))

def fromWed : Prop :=
  packet.desc.iface = FOE_MAGIC_WED0 ∨ packet.desc.iface = FOE_MAGIC_WED1 ∨
    packet.desc.iface = FOE_MAGIC_WED2

instance : Decidable (fromWed packet) := inferInstanceAs (Decidable (_ ∨ _))

def setIface (iface : Nat) : Packet := { packet with desc := { packet.desc with iface } }

/-- `hnat_set_iif`; a packet from an unknown interface loses its descriptor. -/
def hnatSetIif : Packet :=
  if dev.whnat ∧ fromWed packet then packet
  else if dev.lan then setIface packet FOE_MAGIC_GE_LAN
  else if dev.lan2 then setIface packet FOE_MAGIC_GE_LAN2
  else if dev.ppd then setIface packet FOE_MAGIC_GE_PPD
  else if dev.ext then setIface packet FOE_MAGIC_EXT
  else if dev.wan then setIface packet FOE_MAGIC_GE_WAN
  else if dev.br then packet
  else if dev.offloadCheck then setIface packet FOE_MAGIC_GE_VIRTUAL
  else if isMagicTagValid packet ∧ packet.headroomForInfo then
    { packet with desc := ⟨0, 0, 0, 0, 0, 0, false, false⟩ }
  else setIface packet FOE_INVALID

def doExt2geFastTry : Prop := packet.desc.iface = FOE_MAGIC_EXT ∧ packet.fromExtge = false

instance : Decidable (doExt2geFastTry packet) := inferInstanceAs (Decidable (_ ∧ _))

def doGe2extFast : Prop :=
  (dev.lan ∨ dev.lan2 ∨ dev.wan ∨ dev.ppd) ∧ skbHnatIsHashed config packet ∧
    packet.desc.reason = HIT_BIND_FORCE_TO_CPU

instance : Decidable (doGe2extFast config dev packet) := inferInstanceAs (Decidable (_ ∧ _))

def doExt2geFastLearn : Prop :=
  dev.ppd ∧ (packet.desc.sport = NR_PDMA_PORT ∨ packet.desc.sport = NR_QDMA_PORT) ∧
    (config.devFromIndex (packet.vlanTci % 4096) ∨
      config.wandevFromIndex (packet.vlanTci % 4096))

instance : Decidable (doExt2geFastLearn config dev packet) :=
  inferInstanceAs (Decidable (_ ∧ _))

def doMapeW2lFast : Prop :=
  config.netsysV2OrV3 = false ∧ config.mapeToggle ∧ dev.wan ∧ packet.fromMape = false

instance : Decidable (doMapeW2lFast config dev packet) := inferInstanceAs (Decidable (_ ∧ _))

def tnlBypass : Prop :=
  packet.desc.tops ∧ packet.desc.isDecap ∧ isMagicTagValid packet ∧
    packet.desc.iface = FOE_MAGIC_GE_VIRTUAL ∧ config.tnlDecapOffload = some false ∧
    packet.tnlFoeValid = false

instance : Decidable (tnlBypass config packet) := inferInstanceAs (Decidable (_ ∧ _))

end Tests

/-! ## The hooks -/

inductive Verdict
  | accept
  | drop
  | stolen
  deriving DecidableEq

section Hooks

variable (config : Config) (dev : InDev) (calls : Calls)

/-- The label `drop`. -/
def dropWith (uses : Uses) : Uses × Verdict :=
  (uses ++ (if 7 ≤ config.debugLevel then [.touch .caller] else []), .drop)

/-- A helper's 0 means that it has the packet; `other` is what else becomes of it. -/
def stolenOr (helper : Uses × Int) (other : Uses → Uses × Verdict) : Uses × Verdict :=
  if helper.2 = 0 then (helper.1, .stolen) else other helper.1

def acceptWith (uses : Uses) : Uses × Verdict := (uses, .accept)

def preRouting (packet : Packet) (mape : Bool) : Uses × Verdict :=
  if doExt2geFastTry packet then
    stolenOr (doHnatExtToGe config packet calls) acceptWith
  else if doGe2extFast config dev packet then
    stolenOr (doHnatGeToExt config packet calls) (dropWith config)
  else if mape = true ∧ doMapeW2lFast config dev packet then
    stolenOr (doHnatMapeW2lFast config packet) acceptWith
  else acceptWith [.touch .caller]

def mtkHnatIpv6NfPreRouting : Option Packet → Uses × Verdict
  | none => ([], .drop)
  | some packet =>
    if ¬ isMagicTagValid packet ∨ packet.ppeSupportType = false then
      acceptWith [.touch .caller]
    else preRouting config dev calls (hnatSetIif dev packet) true

def mtkHnatIpv4NfPreRouting : Option Packet → Uses × Verdict
  | none => ([], .drop)
  | some packet =>
    if ¬ isMagicTagValid packet ∨ packet.ppeSupportType = false then
      acceptWith [.touch .caller]
    else if tnlBypass config (hnatSetIif dev packet) then acceptWith [.touch .caller]
    else preRouting config dev calls (hnatSetIif dev packet) false

/-- In the mode HQoS the tag behind the header tells the entry. -/
def hqosEntry (packet : Packet) : Packet :=
  if config.qosToggle = 1 ∧ config.whnat ∧ packet.hProto = HQOS_MAGIC_TAG then
    { packet with
      desc := { packet.desc with
        entry := packet.innerTci % 0x4000, reason := HIT_BIND_FORCE_TO_CPU } }
  else packet

def HasHqosMagicTag (packet : Packet) : Prop :=
  config.qosToggle ≠ 0 ∧ packet.protocol = HQOS_MAGIC_TAG

instance (packet : Packet) : Decidable (HasHqosMagicTag config packet) :=
  inferInstanceAs (Decidable (_ ∧ _))

def withPpdev : Config :=
  { config with gPpdev := config.gPpdev.or config.ppdByName }

/-- `clr_from_extge` takes either mark away. -/
def clrFromExtge (packet : Packet) : Packet :=
  if config.whnat ∧ packet.desc.iface = FOE_MAGIC_EXT then
    { packet with fromExtge := false, fromMape := false }
  else packet

/-- The part of `mtk_hnat_br_nf_local_in` behind the learning stage of the external
devices. -/
def localInGe (packet : Packet) : Uses × Verdict :=
  if config.whnat ∧ doExt2geFastLearn config dev packet ∧
      (config.qosToggle = 0 ∨ packet.hProto ≠ HQOS_MAGIC_TAG) then
    stolenOr (doHnatExtToGe2 config packet calls) (dropWith config)
  else if config.whnat ∧ doGe2extFast config dev packet then
    stolenOr (doHnatGeToExt config packet calls) (dropWith config)
  else if doMapeW2lFast config dev packet then
    stolenOr (doHnatMapeW2lFast config packet) acceptWith
  else acceptWith [.touch .caller]

/-- Behind the checks of `mtk_hnat_br_nf_local_in`. -/
def localIn (packet : Packet) : Uses × Verdict :=
  if doExt2geFastTry packet ∧ packet.multicastDest = false then
    stolenOr (doHnatExtToGe (withPpdev config) packet calls) acceptWith
  else localInGe config dev calls (clrFromExtge config packet)

def mtkHnatBrNfLocalIn : Option Packet → Uses × Verdict
  | none => ([], .drop)
  | some packet =>
    if ¬ isMagicTagValid packet then acceptWith [.touch .caller]
    else
      let tagged := hqosEntry config packet
      if ¬ HasHqosMagicTag config tagged ∧ tagged.ppeSupportType = false then
        acceptWith [.touch .caller]
      else if tnlBypass config (hnatSetIif dev tagged) then acceptWith [.touch .caller]
      else if (hnatSetIif dev tagged).floods then acceptWith [.touch .caller]
      else localIn config dev calls (hnatSetIif dev tagged)

end Hooks

/-! ## The property -/

/-- The uses are sound, and the verdict says who owns the packet: NF_STOLEN that it,
and a copy made of it, have been given up once, the others that it has been kept. -/
def Proper (result : Uses × Verdict) : Prop :=
  Sound result.1 ∧ match result.2 with
    | .stolen => releases .caller result.1 = 1 ∧
        (.acquire .copy ∈ result.1 → releases .copy result.1 = 1)
    | _ => releases .caller result.1 = 0

instance (result : Uses × Verdict) : Decidable (Proper result) := by
  unfold Proper
  cases result.2 <;> infer_instance

/-! ## The helpers, each with the verdicts that the hooks make of it -/

section Helpers

variable (config : Config) (packet : Packet) (calls : Calls)

/-- The tag does not go in and the packet is freed, or the trace reads the packet that
has been transmitted. -/
def ExtToGeFails : Prop :=
  config.gPpdev = some true ∧
    ((packet.vlanTci % 4096 ≠ 0 ∧ calls.vlanInsertTag = false) ∨ 7 ≤ config.debugLevel)

def ExtToGe2Fails : Prop :=
  ¬ entryOutside config packet ∧ config.devFromIndex (packet.vlanTci % 4096) = true ∧
    packet.hProto = ETH_P_8021Q ∧ calls.skbVlanUntag = .failed

/-- There is no device to send the packet to; or `skb_unshare` frees it; or it has copied
it and the copy cannot be pulled. -/
def GeToExtFails : Prop :=
  ¬ entryOutside config packet ∧
    (config.devFromIndex (config.pingpongIfidx packet.desc.ppe packet.desc.entry) = false ∨
      (config.qosToggle = 1 ∧ packet.hProto = HQOS_MAGIC_TAG ∧
        (calls.skbUnshare = .failed ∨
          (calls.skbUnshare = .copied ∧ calls.pskbMayPull = false))))

theorem extToGe_proper :
    Proper (stolenOr (doHnatExtToGe config packet calls) acceptWith) ↔
      ¬ ExtToGeFails config packet calls := by
  unfold doHnatExtToGe ExtToGeFails
  by_cases up : config.gPpdev = some true
  · rw [if_pos up]
    by_cases inserted : packet.vlanTci % 4096 ≠ 0 ∧ calls.vlanInsertTag = false
    · rw [if_pos inserted]
      exact iff_of_false (by decide) fun fine => fine ⟨up, .inl inserted⟩
    · rw [if_neg inserted]
      by_cases traced : 7 ≤ config.debugLevel
      · rw [if_pos traced]
        exact iff_of_false (by decide) fun fine => fine ⟨up, .inr traced⟩
      · rw [if_neg traced]
        refine iff_of_true (by decide) ?_
        rintro ⟨-, fails | fails⟩
        · exact inserted fails
        · exact traced fails
  · rw [if_neg up]
    exact iff_of_true (by decide) fun fails => up fails.1

variable {uses : Uses} {other : Uses → Uses × Verdict}

theorem proper_stolen (fine : Proper (uses, .stolen)) : Proper (stolenOr (uses, 0) other) := fine

theorem improper_stolen (wrong : ¬ Proper (uses, .stolen)) :
    ¬ Proper (stolenOr (uses, 0) other) := wrong

theorem drop_proper : Proper (dropWith config uses) ↔ Sound uses ∧ releases .caller uses = 0 := by
  unfold dropWith Proper
  by_cases traced : 7 ≤ config.debugLevel
  · simp only [if_pos traced, sound_touch, releases_append]
    simp [releases]
  · simp only [if_neg traced, List.append_nil]

theorem proper_drop (kept : Sound uses ∧ releases .caller uses = 0) :
    Proper (stolenOr (uses, -1) (dropWith config)) :=
  (drop_proper config).mpr kept

theorem improper_drop {other : Int} (nonzero : other ≠ 0)
    (lost : ¬ (Sound uses ∧ releases .caller uses = 0)) :
    ¬ Proper (stolenOr (uses, other) (dropWith config)) := by
  unfold stolenOr
  rw [if_neg nonzero]
  exact fun proper => lost ((drop_proper config).mp proper)

theorem extToGe2_proper :
    Proper (stolenOr (doHnatExtToGe2 config packet calls) (dropWith config)) ↔
      ¬ ExtToGe2Fails config packet calls := by
  unfold doHnatExtToGe2 ExtToGe2Fails
  by_cases outside : entryOutside config packet
  · rw [if_pos outside]
    exact iff_of_true ((drop_proper config).mpr (by decide)) fun fails => fails.1 outside
  · rw [if_neg outside]
    cases found : config.devFromIndex (packet.vlanTci % 4096) with
    | false =>
      refine iff_of_true ?_ (by simp)
      rw [if_neg Bool.false_ne_true]
      split
      · exact proper_stolen (by decide)
      · exact proper_drop config (by decide)
    | true =>
      rw [if_pos rfl]
      by_cases tagged : packet.hProto = ETH_P_8021Q
      · rw [if_pos tagged]
        cases ends : calls.skbVlanUntag with
        | same => exact iff_of_true (proper_stolen (by decide)) (by simp)
        | copied => exact iff_of_true (proper_stolen (by decide)) (by simp)
        | failed =>
          exact iff_of_false (improper_drop config (by decide) (by decide)) fun fine =>
            fine ⟨outside, rfl, tagged, rfl⟩
      · rw [if_neg tagged]
        exact iff_of_true (proper_stolen (by decide)) fun fails => tagged fails.2.2.1

theorem geToExt_proper :
    Proper (stolenOr (doHnatGeToExt config packet calls) (dropWith config)) ↔
      ¬ GeToExtFails config packet calls := by
  unfold doHnatGeToExt GeToExtFails
  by_cases outside : entryOutside config packet
  · rw [if_pos outside]
    exact iff_of_true ((drop_proper config).mpr (by decide)) fun fails => fails.1 outside
  · rw [if_neg outside]
    cases found :
        config.devFromIndex (config.pingpongIfidx packet.desc.ppe packet.desc.entry) with
    | false =>
      rw [if_pos rfl]
      exact iff_of_false (improper_stolen (by decide)) fun fine => fine ⟨outside, .inl rfl⟩
    | true =>
      rw [if_neg (by decide)]
      by_cases hqos : config.qosToggle = 1 ∧ packet.hProto = HQOS_MAGIC_TAG
      · rw [if_pos hqos]
        cases ends : calls.skbUnshare with
        | failed =>
          exact iff_of_false (improper_drop config (by decide) (by decide)) fun fine =>
            fine ⟨outside, .inr ⟨hqos.1, hqos.2, .inl rfl⟩⟩
        | same =>
          refine iff_of_true ?_ (by simp)
          cases calls.pskbMayPull with
          | true => exact proper_stolen (by decide)
          | false => exact (drop_proper config).mpr (by decide)
        | copied =>
          cases pulls : calls.pskbMayPull with
          | true => exact iff_of_true (proper_stolen (by decide)) (by simp)
          | false =>
            exact iff_of_false (improper_drop config (by decide) (by decide)) fun fine =>
              fine ⟨outside, .inr ⟨hqos.1, hqos.2, .inr ⟨rfl, rfl⟩⟩⟩
      · rw [if_neg hqos]
        refine iff_of_true (proper_stolen (by decide)) ?_
        rintro ⟨-, fails | fails⟩
        · exact absurd fails (by decide)
        · exact hqos ⟨fails.1, fails.2.1⟩

theorem mapeW2l_proper : Proper (stolenOr (doHnatMapeW2lFast config packet) acceptWith) := by
  unfold doHnatMapeW2lFast
  split <;> decide

end Helpers

/-! ## The hooks -/

section Hooks

variable (config : Config) (dev : InDev) (calls : Calls)

/-- The pre-routing hooks pass the packet to a helper, and that fails. -/
def PreRoutingFails (packet : Packet) : Prop :=
  (doExt2geFastTry packet ∧ ExtToGeFails config packet calls) ∨
    (¬ doExt2geFastTry packet ∧ doGe2extFast config dev packet ∧
      GeToExtFails config packet calls)

def LocalInGeFails (packet : Packet) : Prop :=
  config.whnat = true ∧
    if doExt2geFastLearn config dev packet ∧
        (config.qosToggle = 0 ∨ packet.hProto ≠ HQOS_MAGIC_TAG) then
      ExtToGe2Fails config packet calls
    else doGe2extFast config dev packet ∧ GeToExtFails config packet calls

def LocalInFails (packet : Packet) : Prop :=
  if doExt2geFastTry packet ∧ packet.multicastDest = false then
    ExtToGeFails (withPpdev config) packet calls
  else LocalInGeFails config dev calls (clrFromExtge config packet)

theorem preRouting_proper (packet : Packet) (mape : Bool) :
    Proper (preRouting config dev calls packet mape) ↔
      ¬ PreRoutingFails config dev calls packet := by
  unfold preRouting PreRoutingFails
  by_cases fastTry : doExt2geFastTry packet
  · rw [if_pos fastTry, extToGe_proper]
    simp [fastTry]
  · rw [if_neg fastTry]
    by_cases fast : doGe2extFast config dev packet
    · rw [if_pos fast, geToExt_proper]
      simp [fastTry, fast]
    · rw [if_neg fast]
      refine iff_of_true ?_ (by simp [fastTry, fast])
      split
      · exact mapeW2l_proper config packet
      · decide

theorem localInGe_proper (packet : Packet) :
    Proper (localInGe config dev calls packet) ↔ ¬ LocalInGeFails config dev calls packet := by
  unfold localInGe LocalInGeFails
  cases warp : config.whnat with
  | false =>
    refine iff_of_true ?_ (by simp)
    rw [if_neg (by simp), if_neg (by simp)]
    split
    · exact mapeW2l_proper config packet
    · decide
  | true =>
    by_cases learn : doExt2geFastLearn config dev packet ∧
        (config.qosToggle = 0 ∨ packet.hProto ≠ HQOS_MAGIC_TAG)
    · rw [if_pos ⟨rfl, learn⟩, if_pos learn, extToGe2_proper]
      simp
    · rw [if_neg fun both => learn both.2, if_neg learn]
      by_cases fast : doGe2extFast config dev packet
      · rw [if_pos ⟨rfl, fast⟩, geToExt_proper]
        simp [fast]
      · rw [if_neg fun both => fast both.2]
        refine iff_of_true ?_ (by simp [fast])
        split
        · exact mapeW2l_proper config packet
        · decide

theorem localIn_proper (packet : Packet) :
    Proper (localIn config dev calls packet) ↔ ¬ LocalInFails config dev calls packet := by
  unfold localIn LocalInFails
  by_cases fastTry : doExt2geFastTry packet ∧ packet.multicastDest = false
  · rw [if_pos fastTry, if_pos fastTry]
    exact extToGe_proper (withPpdev config) packet calls
  · rw [if_neg fastTry, if_neg fastTry]
    exact localInGe_proper config dev calls (clrFromExtge config packet)

/-- The hook gets past its checks with the packet as it is then. -/
def Ipv6Takes (packet : Packet) : Prop :=
  isMagicTagValid packet ∧ packet.ppeSupportType = true

def Ipv4Takes (packet : Packet) : Prop :=
  isMagicTagValid packet ∧ packet.ppeSupportType = true ∧
    ¬ tnlBypass config (hnatSetIif dev packet)

def LocalInTakes (packet : Packet) : Prop :=
  isMagicTagValid packet ∧
    (HasHqosMagicTag config (hqosEntry config packet) ∨
      (hqosEntry config packet).ppeSupportType = true) ∧
    ¬ tnlBypass config (hnatSetIif dev (hqosEntry config packet)) ∧
    (hnatSetIif dev (hqosEntry config packet)).floods = false

theorem proper_unless {refused fine : Prop} [Decidable refused] {result : Uses × Verdict}
    (rest : Proper result ↔ fine) :
    Proper (if refused then acceptWith [.touch .caller] else result) ↔ (¬ refused → fine) := by
  by_cases refuses : refused
  · rw [if_pos refuses]
    exact iff_of_true (by decide) fun passes => absurd refuses passes
  · rw [if_neg refuses, rest]
    exact ⟨fun holds _ => holds, fun holds => holds refuses⟩

theorem ipv6_proper (packet : Packet) :
    Proper (mtkHnatIpv6NfPreRouting config dev calls (some packet)) ↔
      (Ipv6Takes packet → ¬ PreRoutingFails config dev calls (hnatSetIif dev packet)) := by
  refine (proper_unless (preRouting_proper config dev calls _ true)).trans ?_
  unfold Ipv6Takes
  simp only [not_or, not_not, Bool.not_eq_false]

theorem ipv4_proper (packet : Packet) :
    Proper (mtkHnatIpv4NfPreRouting config dev calls (some packet)) ↔
      (Ipv4Takes config dev packet →
        ¬ PreRoutingFails config dev calls (hnatSetIif dev packet)) := by
  refine (proper_unless (proper_unless (preRouting_proper config dev calls _ false))).trans ?_
  unfold Ipv4Takes
  simp only [not_or, not_not, Bool.not_eq_false, and_imp]

theorem localInHook_proper (packet : Packet) :
    Proper (mtkHnatBrNfLocalIn config dev calls (some packet)) ↔
      (LocalInTakes config dev packet →
        ¬ LocalInFails config dev calls (hnatSetIif dev (hqosEntry config packet))) := by
  refine (proper_unless (proper_unless (proper_unless (proper_unless
    (localIn_proper config dev calls _))))).trans ?_
  unfold LocalInTakes
  simp only [not_and_or, not_not, Bool.not_eq_false, Bool.not_eq_true, and_imp]

end Hooks

/-! ## Packets that are lost or given up twice -/

section Inputs

/-- An MT7988 with the PPD device up; the external devices are those with an index in
`known`. -/
def setup (known : List Nat) (qosToggle pingpong : Nat) : Config where
  debugLevel := 0
  qosToggle := qosToggle
  mapeToggle := false
  whnat := true
  netsysV2OrV3 := true
  foeEtryNum := 16384
  ppeNum := 3
  gPpdev := some true
  ppdByName := some true
  tnlDecapOffload := none
  devFromIndex := fun index => decide (index ∈ known)
  wandevFromIndex := fun _ => false
  pingpongIfidx := fun _ _ => pingpong

def wlan : InDev := ⟨false, false, false, false, true, false, false, false⟩
def lan : InDev := ⟨false, true, false, false, false, false, false, false⟩
def ppd : InDev := ⟨false, false, false, true, false, false, false, false⟩

/-- A UDP packet with the given reason, VLAN tag and Ethernet type. -/
def udp (reason vlanTci hProto : Nat) : Packet :=
  ⟨⟨HNAT_MAGIC_TAG, 0, 5, 0, NR_PDMA_PORT, reason, false, false⟩, true, false, false, true,
    0x0800, hProto, vlanTci, 0, false, false, false, false⟩

def allSucceed : Calls := ⟨true, .same, .same, true, true⟩

end Inputs

end OpenwrtSource.Hnat.HookVerdicts
