import OpenwrtSource.Hnat.SlotExhaustion

/-!
# Interfaces that go down

The handler clears the port of the interface in the bitmap of a group and takes
the group from the hardware when nothing is left, although other members may be on
the same port.  Where a port is left, the bitmap is computed again.
-/

namespace OpenwrtSource.Hnat.IfdownServed

open Lib.Run Lib.Ownership Hnat.Foe Hnat.McastTable Hnat.McastOffload Hnat.McastEvents
open Hnat.McastEffects Hnat.McastPlaces Hnat.SlotOwnership Hnat.SlotExhaustion

def isRunning (devs : DevTable) (ifindex : Nat) : Bool := (devs ifindex).any NetDev.running

def Remaining (env : Env) (ifindex : Nat) (group : Group) : Prop :=
  ∃ member ∈ group.members, member ≠ ifindex ∧ isRunning env.devs member = true

instance (env : Env) (ifindex : Nat) (group : Group) : Decidable (Remaining env ifindex group) :=
  inferInstanceAs (Decidable (∃ member ∈ group.members, _ ∧ _))

def Covers (bmp ports : PseBmp) : Prop := bmp ||| ports = bmp

instance (bmp ports : PseBmp) : Decidable (Covers bmp ports) := inferInstanceAs (Decidable (_ = _))

/-- The bitmap has the port of every member on another running interface. -/
def ServesRemaining (env : Env) (ifindex : Nat) (group : Group) (bmp : PseBmp) : Prop :=
  ∀ member ∈ group.members, member ≠ ifindex → isRunning env.devs member = true →
    Covers bmp (hnatMcastGetSingleDevPseBit env.devs member)

/-- A group is unbound only without other members, and serves the others if it is not. -/
structure KeepsServed (env : Env) (ifindex : Nat) (before after : Group) : Prop where
  unbound : after.ppeId = none → ¬ Remaining env ifindex before
  bound : after.ppeId ≠ none → ServesRemaining env ifindex before after.psebmp

theorem covers_or_left (bmp ports : PseBmp) : Covers (bmp ||| ports) bmp := by
  unfold Covers
  rw [BitVec.or_comm bmp ports, BitVec.or_assoc, BitVec.or_self]

theorem covers_or_right (bmp ports : PseBmp) : Covers (bmp ||| ports) ports := by
  unfold Covers
  rw [BitVec.or_assoc, BitVec.or_self]

theorem Covers.trans {a b c : PseBmp} (first : Covers a b) (second : Covers b c) : Covers a c := by
  unfold Covers at *
  rw [← first, BitVec.or_assoc, second]

theorem covers_zero (bmp : PseBmp) : Covers bmp 0 := BitVec.or_zero

theorem memberEgress_covers (devs : DevTable) (egress : Egress) (ifindex : Nat) :
    Covers (memberEgress devs egress ifindex).pseBmp egress.pseBmp := by
  unfold memberEgress
  split
  · exact BitVec.or_self
  · split
    · rw [devEgress_pseBmp]
      exact covers_or_left _ _
    · exact BitVec.or_self

theorem foldl_memberEgress_covers (devs : DevTable) (members : List Nat) (egress : Egress) :
    Covers (members.foldl (memberEgress devs) egress).pseBmp egress.pseBmp := by
  induction members generalizing egress with
  | nil => exact BitVec.or_self
  | cons ifindex rest ih => exact (ih _).trans (memberEgress_covers devs egress ifindex)

theorem foldl_memberEgress_covers_member (devs : DevTable) {members : List Nat} {member : Nat}
    (listed : member ∈ members) (runs : isRunning devs member = true) (egress : Egress) :
    Covers (members.foldl (memberEgress devs) egress).pseBmp
      (hnatMcastGetSingleDevPseBit devs member) := by
  induction members generalizing egress with
  | nil => cases listed
  | cons first rest ih =>
    obtain rfl | later := List.mem_cons.mp listed
    · refine (foldl_memberEgress_covers devs rest _).trans ?_
      unfold memberEgress hnatMcastGetSingleDevPseBit
      unfold isRunning at runs
      cases found : devs member with
      | none => simp [found] at runs
      | some dev =>
        have running : dev.running = true := by simpa [found] using runs
        dsimp only
        rw [if_pos running, devEgress_pseBmp]
        exact covers_or_right _ _
    · exact ih later _

theorem servesRemaining_of_covers {env : Env} {group : Group} {bmp : PseBmp} (ifindex : Nat)
    (covers : Covers bmp (egressOf env group)) : ServesRemaining env ifindex group bmp :=
  fun _ listed _ runs => covers.trans (foldl_memberEgress_covers_member env.devs listed runs _)

def NoSlot (plat : Platform) (group : Group) (hw : Hw) : Prop :=
  group.mtblIdx = none ∧ ∃ ppe ∈ group.ppeId, Full plat ppe hw

/-- The ports of the members have no place in the hardware: without an NPU, ports with
Wi-Fi, and several ports of a DSA switch; several ports, when the slots are used up. -/
def LosesPlace (plat : Platform) (env : Env) (group : Group) (hw : Hw) : Prop :=
  let bmp := egressOf env group
  if env.hnatMcOps.isNone then
    bmpHas bmp MCAST_TO_TDMA = true ∨ (bmp != 0) = true ∧ bmpIsSinglePort bmp = false ∧
      (env.mtkDsa = true ∨ NoSlot plat group hw)
  else bmpIsSinglePort bmp = false ∧ NoSlot plat group hw

def Unbinds (plat : Platform) (env : Env) (ifindex : Nat) (group : Group) (hw : Hw) : Prop :=
  ifindex ∈ group.members ∧
    (group.psebmp &&& ~~~ hnatMcastGetSingleDevPseBit env.devs ifindex = 0 ∨
      LosesPlace plat env group hw)

section

variable (plat : Platform) {env : Env} {ppe : Nat} {ptr : FoePtr} {c : Ctx}

theorem mtblSetup_place (pseBmp : PseBmp) (toNpu : Bool) (bound : c.group.ppeId = some ppe) :
    (hnatMcastMtblSetup plat pseBmp ptr toNpu c).2.group.ppeId = none ↔
      NoSlot plat c.group c.hw := by
  unfold hnatMcastMtblSetup NoSlot
  rw [bound]
  dsimp only
  cases slotted : c.group.mtblIdx with
  | some index => simp [bound]
  | none =>
    dsimp only
    cases found : hnatMcastAllocMtblEntry plat.maxEntry (c.hw.slots ppe) with
    | none => simpa using alloc_eq_none_iff.mp found
    | some index =>
      have free : ¬ Full plat ppe c.hw := by
        rw [← alloc_eq_none_iff, found]
        simp
      simp [bound, free]

theorem enabled_place (pseBmp : PseBmp) (toNpu : Bool) (bound : c.group.ppeId = some ppe) :
    (if (hnatMcastMtblSetup plat pseBmp ptr toNpu c).1 = 0 then
        (hnatMcastMtblSetup plat pseBmp ptr toNpu c).2.updateFoe ptr (hnatMcastFoeMcEnable toNpu)
      else (hnatMcastMtblSetup plat pseBmp ptr toNpu c).2).group.ppeId = none ↔
      NoSlot plat c.group c.hw := by
  rw [← mtblSetup_place plat pseBmp toNpu bound]
  split
  · rw [(quiet_updateFoe _ ptr _).ppeId]
  · exact Iff.rfl

theorem mtblTeardown_ppeId : (hnatMcastMtblTeardown c).group.ppeId = c.group.ppeId := by
  unfold hnatMcastMtblTeardown
  split <;> rfl

theorem foeMtblUpdate_place (pseBmp : PseBmp) (toNpu : Bool) (bound : c.group.ppeId = some ppe) :
    (foeMtblUpdate plat pseBmp ptr toNpu c).group.ppeId = none ↔
      bmpIsSinglePort pseBmp = false ∧ NoSlot plat c.group c.hw := by
  unfold foeMtblUpdate
  cases single : bmpIsSinglePort pseBmp with
  | true =>
    rw [if_pos rfl, mtblTeardown_ppeId, (quiet_updateFoe c ptr _).ppeId, bound]
    simp
  | false =>
    rw [if_neg Bool.false_ne_true]
    simpa using enabled_place plat pseBmp toNpu bound

theorem busy_of_wifi : ∀ pseBmp, bmpHas pseBmp MCAST_TO_TDMA = true → (pseBmp != 0) = true := by
  decide

theorem noNpuHandle_place (stag : BitVec 8) (pseBmp : PseBmp) (bound : c.group.ppeId = some ppe) :
    (hnatMcastNoNpuHandle plat env stag pseBmp ptr c).2.group.ppeId = none ↔
      bmpHas pseBmp MCAST_TO_TDMA = true ∨ (pseBmp != 0) = true ∧ bmpIsSinglePort pseBmp = false ∧
        (env.mtkDsa = true ∨ NoSlot plat c.group c.hw) := by
  have gone : (hnatMcastNoNpuTeardownGroup plat env c).2.group.ppeId = none := rfl
  have setUp : (hnatMcastNoNpuGswMultiEth plat pseBmp ptr c).2.group.ppeId = none ↔
      NoSlot plat c.group c.hw := enabled_place plat pseBmp false bound
  have single : (hnatMcastNoNpuSingleGdma stag pseBmp ptr c).2.group.ppeId = some ppe := by
    change (hnatMcastMtblTeardown _).group.ppeId = some ppe
    rw [mtblTeardown_ppeId, (quiet_updateFoe _ ptr _).ppeId, (quiet_updateFoe _ ptr _).ppeId, bound]
  unfold hnatMcastNoNpuHandle hnatMcastNoNpuMultiHandle
  dsimp only
  cases wifi : bmpHas pseBmp MCAST_TO_TDMA with
  | true =>
    rw [busy_of_wifi pseBmp wifi]
    cases bmpIsSinglePort pseBmp <;> cases env.mtkDsa <;> simpa using gone
  | false =>
    cases bmpIsSinglePort pseBmp with
    | true => simp [single]
    | false =>
      cases (pseBmp != 0) with
      | false => simp [bound]
      | true => cases env.mtkDsa <;> simp [gone, setUp]

theorem noSlot_congr {c' : Ctx} (quiet : Quiet c c') :
    NoSlot plat c'.group c'.hw ↔ NoSlot plat c.group c.hw := by
  unfold NoSlot Full
  rw [quiet.mtblIdx, quiet.ppeId, quiet.slots]

theorem npuDsaHandle_place (stag : BitVec 8) (pseBmp : PseBmp) (type ifindex : Nat)
    (bound : c.group.ppeId = some ppe) :
    (hnatMcastNpuDsaHandle plat env stag pseBmp type ifindex ptr c).2.group.ppeId = none ↔
      bmpIsSinglePort pseBmp = false ∧ NoSlot plat c.group c.hw := by
  unfold hnatMcastNpuDsaHandle
  dsimp only
  have updated := quiet_updateFoe c ptr (hnatMcastFoeStagUpdate stag)
  have called := updated.trans (called_npuUpdate env
    { hnatMcastPrepareOffloadInfo (c.updateFoe ptr (hnatMcastFoeStagUpdate stag)).group
        ((c.updateFoe ptr (hnatMcastFoeStagUpdate stag)).readFoe ptr) with
      dsaPort := ((hnatMcastGetDsaPort env.devs ifindex).map (BitVec.ofNat 8)).getD (-1) }
    (stag.setWidth 32) pseBmp type (hnatMcastGetDsaPort env.devs ifindex).isSome
    (c.updateFoe ptr (hnatMcastFoeStagUpdate stag))).quiet
  rw [← noSlot_congr plat called]
  exact foeMtblUpdate_place plat pseBmp true (called.ppeId.trans bound)

theorem hwUpdate_place (type ifindex : Nat) (bound : c.group.ppeId = some ppe) :
    (hnatMcastHwUpdate plat env (hnatMcastGetPseTxBmp env.devs c.group.members) type ifindex ptr
        c).2.group.ppeId = none ↔ LosesPlace plat env c.group c.hw := by
  unfold hnatMcastHwUpdate LosesPlace
  dsimp only
  split
  · exact noNpuHandle_place plat _ _ bound
  · split
    · exact npuDsaHandle_place plat _ _ type ifindex bound
    · exact foeMtblUpdate_place plat _ false bound

theorem noNpuHandle_covers (stag : BitVec 8) (pseBmp : PseBmp)
    (bound : (hnatMcastNoNpuHandle plat env stag pseBmp ptr c).2.group.ppeId ≠ none) :
    Covers (hnatMcastNoNpuHandle plat env stag pseBmp ptr c).2.group.psebmp pseBmp := by
  have gone : (hnatMcastNoNpuTeardownGroup plat env c).2.group.ppeId = none := rfl
  revert bound
  unfold hnatMcastNoNpuHandle hnatMcastNoNpuMultiHandle
  dsimp only
  split
  · split
    · exact fun bound => absurd gone bound
    · split
      · exact fun _ => BitVec.or_self
      · exact fun bound => absurd gone bound
  next notMulti =>
    split
    · exact fun _ => BitVec.or_self
    next notGdma =>
      -- a bitmap of no port
      intro _
      have idle : pseBmp = 0 := by
        revert notMulti notGdma
        cases bmpIsSinglePort pseBmp <;> cases bmpHas pseBmp MCAST_TO_TDMA <;> simp
      rw [idle]
      exact covers_zero _

theorem hwUpdate_covers (egress : Egress) (type ifindex : Nat)
    (bound : (hnatMcastHwUpdate plat env egress type ifindex ptr c).2.group.ppeId ≠ none) :
    Covers (hnatMcastHwUpdate plat env egress type ifindex ptr c).2.group.psebmp
      egress.pseBmp := by
  revert bound
  unfold hnatMcastHwUpdate
  dsimp only
  split
  · exact noNpuHandle_covers plat _ egress.pseBmp
  · split
    · exact fun _ => BitVec.or_self
    · exact fun _ => BitVec.or_self

theorem ifdownGroup_place (ifindex : Nat) (found : hnatMcastGetHwFoe c.group = some ptr) :
    (hnatMcastIfdownGroup plat env ifindex c).group.ppeId = none ↔
      Unbinds plat env ifindex c.group c.hw := by
  obtain ⟨ppe, idx, bound, -, -⟩ := hnatMcastGetHwFoe_some found
  unfold hnatMcastIfdownGroup Unbinds
  rw [found]
  by_cases member : ifindex ∈ c.group.members
  · rw [if_neg (by simpa using member)]
    dsimp only
    by_cases left : c.group.psebmp &&& ~~~ hnatMcastGetSingleDevPseBit env.devs ifindex = 0
    · rw [if_neg (not_not.mpr left)]
      exact iff_of_true rfl ⟨member, .inl left⟩
    · rw [if_pos left, hwUpdate_place plat RTM_DELMDB ifindex bound, and_iff_right member,
        or_iff_right left]
  · rw [if_pos (by simpa using member), bound]
    exact iff_of_false (by simp) fun unbinds => member unbinds.1

theorem ifdownGroup_serves (ifindex : Nat) (found : hnatMcastGetHwFoe c.group = some ptr)
    (member : ifindex ∈ c.group.members)
    (bound : (hnatMcastIfdownGroup plat env ifindex c).group.ppeId ≠ none) :
    ServesRemaining env ifindex c.group (hnatMcastIfdownGroup plat env ifindex c).group.psebmp := by
  refine servesRemaining_of_covers ifindex ?_
  revert bound
  unfold hnatMcastIfdownGroup
  rw [found, if_neg (by simpa using member)]
  dsimp only
  split
  · exact hwUpdate_covers plat _ RTM_DELMDB ifindex
  · exact fun bound => absurd rfl bound

/-- The group stays in the hardware as long as others remain; a group without a member on
the interface serves them already. -/
def StaysServed (env : Env) (ifindex : Nat) (group : Group) (hw : Hw) : Prop :=
  (Unbinds plat env ifindex group hw → ¬ Remaining env ifindex group) ∧
    (ifindex ∉ group.members → ServesRemaining env ifindex group group.psebmp)

theorem ifdownGroup_other {ifindex : Nat} (other : ifindex ∉ c.group.members) :
    hnatMcastIfdownGroup plat env ifindex c = c := by
  unfold hnatMcastIfdownGroup
  rw [if_pos (by simpa using other)]

theorem ifdownGroup_iff (ifindex : Nat) (found : hnatMcastGetHwFoe c.group = some ptr) :
    KeepsServed env ifindex c.group (hnatMcastIfdownGroup plat env ifindex c).group ↔
      StaysServed plat env ifindex c.group c.hw := by
  obtain ⟨ppe, idx, placed, -, -⟩ := hnatMcastGetHwFoe_some found
  have place : (hnatMcastIfdownGroup plat env ifindex c).group.ppeId = none ↔
      Unbinds plat env ifindex c.group c.hw := ifdownGroup_place plat ifindex found
  constructor
  · rintro ⟨unbound, bound⟩
    refine ⟨fun unbinds => unbound (place.mpr unbinds), fun other => ?_⟩
    rw [ifdownGroup_other plat other] at bound
    exact bound (by simp [placed])
  · rintro ⟨remaining, serves⟩
    refine ⟨fun unbound => remaining (place.mp unbound), fun bound => ?_⟩
    by_cases member : ifindex ∈ c.group.members
    · exact ifdownGroup_serves plat ifindex found member bound
    · rw [ifdownGroup_other plat member]
      exact serves member

def hwAtRound (plat : Platform) (env : Env) (ifindex i : Nat) (s : State) : Hw :=
  (visitAll (onGroup (hnatMcastIfdownGroup plat env ifindex)) (s.groups.take i) s.hw).2

/-- The handler keeps each bound group exactly as far as its condition goes. -/
theorem ifdown_keeps_served_iff (ifindex : Nat) {s : State} {i : Nat} {group : Group}
    (listed : s.groups[i]? = some group) (bound : hnatMcastGetHwFoe group = some ptr) :
    ∃ group', (hnatMcastIfdownHandle plat env ifindex s).groups[i]? = some group' ∧
      (KeepsServed env ifindex group group' ↔
        StaysServed plat env ifindex group (hwAtRound plat env ifindex i s)) := by
  refine ⟨_, ?_, ifdownGroup_iff (c := ⟨group, hwAtRound plat env ifindex i s, FoeEntry.zero⟩) plat
    ifindex bound⟩
  change (visitAll _ _ _).1[i]? = _
  rw [getElem?_visitAll, listed]
  rfl

end

def twoLans : Env where
  devs := fun ifindex =>
    if ifindex = 1 ∨ ifindex = 2 then some ⟨true, true, some ifindex, false, false, false, 0⟩
    else none
  mtkDsa := true
  hnatMcOps := none
  foeTimestamp := 9

def sharingRun : List Event :=
  [.offload twoLans true, .mdb twoLans RTM_NEWMDB ⟨some (.ipv4 streamIp), 1⟩ true true,
    .foeWrite 0 7 streamEntry, .bind twoLans 0x01005e010203 0 7 streamEntry 1 true,
    .mdb twoLans RTM_NEWMDB ⟨some (.ipv4 streamIp), 2⟩ true true]

def sharedState : State := run (step board) State.init sharingRun

theorem shared_port_unbound :
    ∃ group group', sharedState.groups[0]? = some group ∧
      (hnatMcastGetHwFoe group).isSome = true ∧
        (hnatMcastIfdownHandle board twoLans 2 sharedState).groups[0]? = some group' ∧
          ¬ KeepsServed twoLans 2 group group' := by
  refine ⟨_, _, rfl, by decide, rfl, fun kept => ?_⟩
  exact absurd (kept.unbound (by decide)) (by decide)

theorem ifdown_keeps_served_sharedState :
    ∃ group, sharedState.groups[0]? = some group ∧
      ∃ group', (hnatMcastIfdownHandle board twoLans 2 sharedState).groups[0]? = some group' ∧
        (KeepsServed twoLans 2 group group' ↔
          StaysServed board twoLans 2 group (hwAtRound board twoLans 2 0 sharedState)) :=
  ⟨_, rfl, ifdown_keeps_served_iff board 2 rfl rfl⟩

end OpenwrtSource.Hnat.IfdownServed
