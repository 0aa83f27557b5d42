import OpenwrtSource.Hnat.McastSteps

/-!
# Ownership of the multicast slots

The non-empty slots of the hardware table are the slots of the groups, each of
one group, in every run in which no step takes the indices of a group that has
a slot: `hnat_mcast_event_hw_handle` with no port left, a matching blacklist
entry, a disabled offload, a switch to the software path, a bind on another PPE
and a warm start without a reset of the PPEs drop the indices and leave the
slot in the table.
-/

namespace OpenwrtSource.Hnat.SlotOwnership

open Lib.Run Lib.Ownership Hnat.Foe Hnat.McastTable Hnat.McastOffload Hnat.McastEvents
open Hnat.McastEffects Hnat.McastVisits

/-- The slots in use are those of the groups, and each is of one group. -/
def SlotsOwned (s : State) : Prop :=
  (∀ ppe index, s.hw.slots ppe index ≠ McastSlot.empty ↔
    ∃ group ∈ s.groups, group.ppeId = some ppe ∧ group.mtblIdx = some index) ∧
  s.groups.Pairwise fun a b => ∀ ppe index,
    (a.ppeId = some ppe ∧ a.mtblIdx = some index) → ¬ (b.ppeId = some ppe ∧ b.mtblIdx = some index)

theorem slotsOwned_iff (s : State) : SlotsOwned s ↔ Accounted Owns (Live s.hw) s.groups := by
  constructor
  · rintro ⟨owned, exclusive⟩
    exact ⟨fun slot => owned slot.1 slot.2,
      exclusive.imp fun apart (slot : Nat × Nat) => apart slot.1 slot.2⟩
  · intro accounted
    exact ⟨fun ppe index => accounted.owned (ppe, index),
      accounted.exclusive.imp fun apart ppe index => apart (ppe, index)⟩

/-- A member is on a running device with a port of the PSE. -/
def Served (devs : DevTable) (members : List Nat) : Prop :=
  ∃ ifindex ∈ members, ∃ dev ∈ devs ifindex, dev.running = true ∧
    hnatMcastGetSingleDevPseBit devs ifindex ≠ 0

instance (devs : DevTable) (members : List Nat) : Decidable (Served devs members) :=
  inferInstanceAs (Decidable (∃ ifindex ∈ members, ∃ dev ∈ devs ifindex, _ ∧ _))

theorem devEgress_pseBmp (dev : NetDev) (egress : Egress) :
    (devEgress dev egress).pseBmp = egress.pseBmp ||| (devEgress dev ⟨0, 0⟩).pseBmp := by
  unfold devEgress
  split
  · unfold hnatMcastHandleDsa
    split <;> simp
  · split
    · simp
    · split
      · unfold hnatMcastSetGmacBit
        split
        · simp
        · split
          · simp
          · split <;> simp
      · simp

theorem memberEgress_eq_zero (devs : DevTable) (egress : Egress) (ifindex : Nat) :
    (memberEgress devs egress ifindex).pseBmp = 0 ↔
      egress.pseBmp = 0 ∧ ∀ dev, devs ifindex = some dev → dev.running = true →
        hnatMcastGetSingleDevPseBit devs ifindex = 0 := by
  unfold memberEgress hnatMcastGetSingleDevPseBit
  cases found : devs ifindex with
  | none => simp
  | some dev =>
    cases running : dev.running with
    | false => simp [running]
    | true => simp [running, devEgress_pseBmp dev egress, BitVec.or_eq_zero_iff]

theorem foldl_memberEgress_eq_zero (devs : DevTable) (members : List Nat) (egress : Egress) :
    (members.foldl (memberEgress devs) egress).pseBmp = 0 ↔
      egress.pseBmp = 0 ∧ ¬ Served devs members := by
  induction members generalizing egress with
  | nil => simp [Served]
  | cons ifindex rest ih =>
    rw [List.foldl_cons, ih, memberEgress_eq_zero]
    simp only [Served, List.mem_cons, exists_eq_or_imp, Option.mem_def]
    grind

theorem pseTxBmp_ne_zero_iff (devs : DevTable) (members : List Nat) :
    (hnatMcastGetPseTxBmp devs members).pseBmp ≠ 0 ↔ Served devs members := by
  unfold hnatMcastGetPseTxBmp
  rw [Ne, foldl_memberEgress_eq_zero]
  simp

/-- The entry that the group points to is of a type the handler passes over. -/
def EntryPassedOver (hw : Hw) (group : Group) : Prop :=
  ∃ ppe ∈ group.ppeId, ∃ idx ∈ group.foeIdx, foeGroupIp (hw.foeTable ppe idx) = none

instance (hw : Hw) (group : Group) : Decidable (EntryPassedOver hw group) :=
  inferInstanceAs (Decidable (∃ ppe ∈ group.ppeId, ∃ idx ∈ group.foeIdx, _ = _))

/-- The step takes no indices from a group that has a slot, except through the
teardown of the slot. -/
def KeepsSlots (s : State) : Event → Prop
  | .mdb env type entry _ memberAlloc =>
    type = RTM_NEWMDB ∧ memberAlloc = true ∨ type = RTM_DELMDB →
      ∀ ip ∈ entry.addr, ∀ group ∈ s.groups.find? (fun group => group.ip == ip),
        group.mtblIdx.isSome →
        Served env.devs (updateStation type entry.ifindex group).members ∨
          (updateStation type entry.ifindex group).members ≠ [] ∧ EntryPassedOver s.hw group
  | .bind _ hDest ppe _ entry _ _ =>
    s.mcastHookToggle = true ∧ isMulticastEtherAddr hDest = true ∧
        hnatMcastChkBlist s.mcastBlistList entry = false →
      ∀ ip ∈ foeGroupIp entry, ∀ group ∈ s.groups.find? (fun group => group.ip == ip),
        group.mtblIdx.isSome → group.offload = true → group.ppeId = some ppe
  | .blist _ ip mask add kzalloc =>
    add = true ∧ kzalloc = true ∧
        (s.mcastBlistList.any fun m => hnatMcastBlistEntryMatch m ip mask) = false →
      ∀ group ∈ s.groups, hnatMcastIpMatchBlist group (hnatMcastBlistCreateEntry ip mask) = true →
        group.mtblIdx = none
  | .offload _ enable => enable = false → ∀ group ∈ s.groups, group.mtblIdx = none
  | .pathSwitch _ groupIdx hwPath wifiIp =>
    hwPath = false → ∀ group ∈ switchedGroup s groupIdx wifiIp, group.mtblIdx = none
  | .warmInit ppeReset => ppeReset = true ∨ ∀ group ∈ s.groups, group.mtblIdx = none
  | _ => True

instance (s : State) (event : Event) : Decidable (KeepsSlots s event) := by
  cases event <;> unfold KeepsSlots <;> infer_instance

structure Inv (s : State) : Prop where
  accounted : Accounted Owns (Live s.hw) s.groups
  sound : ∀ group ∈ s.groups, Sound group
  /-- No slot is in use while the offload is switched off. -/
  disabled : s.mcastHookToggle = false → ∀ slot, ¬ Live s.hw slot

theorem inv_init : Inv State.init where
  accounted := by
    refine Accounted.nil ?_
    simp [Live, State.init]
  sound := by simp [State.init]
  disabled := by simp [Live, State.init]

variable {hw hw' : Hw} {s : State} {group : Group} {off : Prop} {kept : Option Group}
  {event : Event}

theorem Inv.idle (inv : Inv s) (listed : group ∈ s.groups) (unused : ∀ slot, ¬ Live s.hw slot) :
    group.mtblIdx = none := by
  cases slotted : group.mtblIdx with
  | none => rfl
  | some index =>
    obtain ⟨ppe, owns⟩ := (inv.sound group listed).owns slotted
    exact absurd (inv.accounted.live_of_owns listed owns) (unused _)

/-- The account and the soundness of the groups, and that none has a slot while
the offload is off. -/
def Held (off : Prop) (groups : List Group) (hw : Hw) : Prop :=
  Accounted Owns (Live hw) groups ∧ (∀ group ∈ groups, Sound group) ∧
    (off → ∀ group ∈ groups, group.mtblIdx = none)

theorem Held.ready {groups : List Group} (held : Held off groups hw) (listed : group ∈ groups)
    (entry : FoeEntry) : Ready ⟨group, hw, entry⟩ :=
  ⟨held.2.1 group listed, fun _ holding => held.1.live_of_owns listed holding⟩

theorem Held.enter {groups : List Group} (held : Held off groups hw) (sound : Sound group)
    (idle : group.mtblIdx = none) : Held off (groups ++ [group]) hw := by
  refine ⟨held.1.enter (not_owns_of_none idle), ?_, ?_⟩
  · intro other listed
    obtain old | new := List.mem_append.mp listed
    · exact held.2.1 other old
    · exact List.mem_singleton.mp new ▸ sound
  · intro disabled other listed
    obtain old | new := List.mem_append.mp listed
    · exact held.2.2 disabled other old
    · exact List.mem_singleton.mp new ▸ idle

theorem Held.replace {before after : List Group} (held : Held off (before ++ group :: after) hw)
    (leaves : Leaves group hw kept hw')
    (idle : off → group.mtblIdx = none → ∀ o ∈ kept, o.mtblIdx = none) :
    Held off (before ++ (kept.toList ++ after)) hw' := by
  obtain ⟨accounted, sound, slotless⟩ := held
  refine ⟨accounted.replace leaves.1, ?_, ?_⟩
  · intro other member
    simp only [List.mem_append, Option.mem_toList] at member
    obtain front | visited | back := member
    · exact sound other (by simp [front])
    · exact leaves.2 other visited
    · exact sound other (by simp [back])
  · intro disabled other member
    simp only [List.mem_append, Option.mem_toList] at member
    obtain front | visited | back := member
    · exact slotless disabled other (by simp [front])
    · exact idle disabled (slotless disabled group (by simp)) other visited
    · exact slotless disabled other (by simp [back])

theorem Held.inv (held : Held (s.mcastHookToggle = false) s.groups s.hw) : Inv s where
  accounted := held.1
  sound := held.2.1
  disabled := by
    intro off slot live
    obtain ⟨group, listed, holds⟩ := (held.1.owned slot).mp live
    exact not_owns_of_none (held.2.2 off group listed) slot holds

theorem Inv.held (inv : Inv s) (idle : off → ∀ group ∈ s.groups, group.mtblIdx = none) :
    Held off s.groups s.hw :=
  ⟨inv.accounted, inv.sound, idle⟩

theorem sound_create (ip : GroupIp) : Sound (hnatMcastCreateGroup (hnatMcastGetMacFromMdb ip) ip) :=
  ⟨rfl, by simp [hnatMcastCreateGroup]⟩

theorem updateStation_facts (type ifindex : Nat) (group : Group) :
    (updateStation type ifindex group).mac = group.mac ∧
      (updateStation type ifindex group).ip = group.ip ∧
      (updateStation type ifindex group).mtblIdx = group.mtblIdx ∧
      (updateStation type ifindex group).ppeId = group.ppeId ∧
      (updateStation type ifindex group).foeIdx = group.foeIdx := by
  unfold updateStation
  split <;> exact ⟨rfl, rfl, rfl, rfl, rfl⟩

theorem eventHwHandle_unserved (plat : Platform) (env : Env) (type ifindex : Nat) {c : Ctx}
    (unserved : (hnatMcastGetPseTxBmp env.devs c.group.members).pseBmp = 0) :
    (hnatMcastEventHwHandle plat env type ifindex c).group.mtblIdx = c.group.mtblIdx := by
  unfold hnatMcastEventHwHandle
  split
  · rfl
  · dsimp only
    split
    · rfl
    · rw [if_neg (not_not.mpr unserved)]
      rfl

theorem groupUpdate_leaves (plat : Platform) (env : Env) (type ifindex : Nat)
    (toggle memberAlloc fresh : Bool) (ready : Ready ⟨group, hw, FoeEntry.zero⟩)
    (disabled : toggle = false → group.mtblIdx = none) (new : fresh = true → group.mtblIdx = none)
    (served : ¬ (type = RTM_NEWMDB ∧ !memberAlloc) → group.mtblIdx.isSome →
      Served env.devs (updateStation type ifindex group).members ∨
        (updateStation type ifindex group).members ≠ [] ∧ EntryPassedOver hw group) :
    Leaves group hw (groupUpdate plat env type ifindex toggle memberAlloc fresh group hw).1
      (groupUpdate plat env type ifindex toggle memberAlloc fresh group hw).2 := by
  unfold groupUpdate
  split
  · cases fresh with
    | true => exact (Lawful.refl ready).leaves_none (new rfl)
    | false => exact (Lawful.refl ready).leaves
  · rename_i allocated
    obtain ⟨mac, ip, mtblIdx, ppeId, foeIdx⟩ := updateStation_facts type ifindex group
    -- adding or removing a station leaves the slot with the group
    have readyStation : Ready ⟨updateStation type ifindex group, hw, FoeEntry.zero⟩ := by
      refine ⟨⟨?_, ?_⟩, ?_⟩
      · rw [mac, ip]
        exact ready.sound.mac
      · rw [mtblIdx, ppeId, foeIdx]
        exact ready.sound.bound
      · intro slot holding
        refine ready.holds slot ?_
        simpa [Owns, mtblIdx, ppeId] using holding
    have sameOwner : Owns (updateStation type ifindex group) = Owns group := by
      funext slot
      simp only [Owns, mtblIdx, ppeId]
    have finish : ∀ c' : Ctx,
        Lawful ⟨updateStation type ifindex group, hw, FoeEntry.zero⟩ c' →
        (c'.group.members = [] → c'.group.mtblIdx = none) →
        Leaves group hw (if c'.group.members.isEmpty then none else some c'.group) c'.hw := by
      intro c' lawful emptied
      split
      · rename_i empty
        have left := lawful.leaves_none (emptied (by simpa using empty))
        unfold Leaves at left ⊢
        rwa [sameOwner] at left
      · have left := lawful.leaves
        unfold Leaves at left ⊢
        rwa [sameOwner] at left
    have servedStation := served allocated
    rw [← mtblIdx] at servedStation
    cases toggle with
    | false =>
      refine finish _ (Lawful.refl readyStation) ?_
      intro _
      exact mtblIdx.trans (disabled rfl)
    | true =>
      have lawful := lawful_eventHwHandle plat env type ifindex readyStation (by
        intro slotted
        obtain running | ⟨_, passedOver⟩ := servedStation slotted
        · exact Or.inl ((pseTxBmp_ne_zero_iff _ _).mpr running)
        · obtain ⟨ppe, bound, idx, indexed, other⟩ := passedOver
          exact Or.inr ⟨ppe, idx, ppeId.trans bound, foeIdx.trans indexed, other⟩)
      refine finish _ lawful ?_
      intro emptied
      have unmanned : (updateStation type ifindex group).members = [] :=
        lawful.members.symm.trans emptied
      have unserved :
          ¬ Served env.devs (updateStation type ifindex group).members := by
        simp [Served, unmanned]
      rw [eventHwHandle_unserved plat env type ifindex
        (not_not.mp fun nonzero => unserved ((pseTxBmp_ne_zero_iff _ _).mp nonzero))]
      by_contra slotted
      obtain running | ⟨manned, _⟩ := servedStation (Option.isSome_iff_ne_none.mpr slotted)
      · exact unserved running
      · exact manned unmanned

/-- What the groups, the packets and the devices leave alone. -/
def settings (s : State) : Bool × List McastBlistData := (s.mcastHookToggle, s.mcastBlistList)

section Settings

variable (plat : Platform) (s : State)

theorem settings_mdb : ∀ env type entry groupAlloc memberAlloc,
    settings (step plat s (.mdb env type entry groupAlloc memberAlloc)) = settings s := by
  intro env type entry groupAlloc memberAlloc
  simp only [step, hnatMcastGroupUpdate]
  split
  · rfl
  · split
    · rfl
    · split
      · rfl
      · split <;> rfl

theorem settings_bind : ∀ env hDest ppe foeIdx entry ifindex locked,
    settings (step plat s (.bind env hDest ppe foeIdx entry ifindex locked)) = settings s := by
  intro env hDest ppe foeIdx entry ifindex locked
  have committed : ∀ bound : Int × FoeEntry × State,
      settings (commitBound env ppe foeIdx locked bound) = settings bound.2.2 := by
    intro bound
    unfold commitBound
    dsimp only
    split
    · rfl
    · split <;> rfl
  simp only [step, commitPacket]
  split
  · rfl
  · rw [committed]
    split
    · unfold hnatMcastFoeBindHandle
      split
      · rfl
      · split <;> rfl
    · rfl

theorem settings_goingDown : ∀ env ifindex,
    settings (step plat s (.goingDown env ifindex)) = settings s := by
  intro env ifindex
  simp only [step]
  split <;> rfl

theorem settings_pathSwitch : ∀ env groupIdx hwPath wifiIp,
    settings (step plat s (.pathSwitch env groupIdx hwPath wifiIp)) = settings s := by
  intro env groupIdx hwPath wifiIp
  simp only [step, hnatMcastGroupPathSwitch]
  split
  · rfl
  · split
    · rfl
    · split <;> rfl

end Settings

theorem step_toggle (plat : Platform) (s : State) (event : Event) :
    (step plat s event).mcastHookToggle =
      match event with
      | .offload _ enable => enable
      | _ => s.mcastHookToggle := by
  cases event with
  | mdb => exact congrArg Prod.fst (settings_mdb plat s _ _ _ _ _)
  | bind => exact congrArg Prod.fst (settings_bind plat s _ _ _ _ _ _ _)
  | goingDown => exact congrArg Prod.fst (settings_goingDown plat s _ _)
  | pathSwitch => exact congrArg Prod.fst (settings_pathSwitch plat s _ _ _ _)
  | blist env ip mask add kzalloc =>
    simp only [step, hnatMcastBlistHandle]
    split
    · split
      · rfl
      · split <;> rfl
    · rfl
  | blistWrite | offload | warmInit | foeWrite => rfl

theorem groupHandle_mtblIdx (plat : Platform) (env : Env) (enable : Bool) (c : Ctx) :
    (hnatMcastGroupHandle plat env enable c).group.mtblIdx = c.group.mtblIdx := by
  unfold hnatMcastGroupHandle
  split
  · rfl
  · split
    · rfl
    · exact (called_npuDeleteStations env _ _ false (dropGroup plat env c)).quiet.mtblIdx

theorem leaves_visited {plat : Platform} (inv : Inv s) (keeps : KeepsSlots s event)
    (visited : Visited plat s event group hw kept hw') (ready : ∀ entry, Ready ⟨group, hw, entry⟩) :
    Leaves group hw kept hw' := by
  have handled : ∀ {type : Nat} {memberAlloc : Bool}, type = RTM_NEWMDB ∨ type = RTM_DELMDB →
      ¬ (type = RTM_NEWMDB ∧ !memberAlloc) →
        type = RTM_NEWMDB ∧ memberAlloc = true ∨ type = RTM_DELMDB := by
    intro type memberAlloc typed allocated
    refine typed.imp_left fun new => ⟨new, by simpa [new] using allocated⟩
  cases visited with
  | @known env type entry groupAlloc memberAlloc ip group addressed typed found =>
    refine groupUpdate_leaves plat env type entry.ifindex _ memberAlloc false (ready _) ?_ nofun ?_
    · exact fun off => inv.idle (List.mem_of_find?_eq_some found) (inv.disabled off)
    · exact fun allocated => keeps (handled typed allocated) ip addressed group found
  | @created env type entry memberAlloc ip addressed typed unknown =>
    refine groupUpdate_leaves plat env type entry.ifindex _ memberAlloc true (ready _)
      (fun _ => rfl) (fun _ => rfl) ?_
    exact fun _ slotted => absurd slotted (by simp [createdGroup, hnatMcastCreateGroup])
  | @bind env hDest ppe foeIdx entry ifindex locked ip group enabled multicast allowed flow found =>
    exact (lawful_foeBindGroup plat env ppe foeIdx ifindex (ready entry)
      (keeps ⟨enabled, multicast, allowed⟩ ip flow group found)).leaves
  | @goingDown env ifindex group hw enabled listed =>
    exact (lawful_ifdownGroup plat env ifindex (ready _)).leaves
  | @blist env ip mask group hw absent listed =>
    unfold blistDropGroup
    split
    next hit =>
      have torn := quiet_teardownNpu env ⟨group, hw, FoeEntry.zero⟩
      have idle := keeps ⟨rfl, rfl, absent⟩ group listed hit
      exact (torn.andThen (ready _) fun next =>
        lawful_dropGroup plat env next (torn.mtblIdx.trans idle)).leaves
    · exact (Lawful.refl (ready FoeEntry.zero)).leaves
  | @offload env enable group hw listed =>
    exact (lawful_groupHandle plat env enable (ready _) fun off => keeps off group listed).leaves
  | @pathSwitch env groupIdx hwPath wifiIp group switched =>
    exact (lawful_pathSwitchGroup plat env hwPath (ready _)
      fun software => keeps software group switched).leaves

theorem groupUpdate_idle (plat : Platform) (env : Env) (type ifindex : Nat)
    (memberAlloc fresh : Bool) (hw : Hw) (idle : group.mtblIdx = none) :
    ∀ o ∈ (groupUpdate plat env type ifindex false memberAlloc fresh group hw).1,
      o.mtblIdx = none := by
  intro o member
  unfold groupUpdate at member
  split at member
  · split at member
    · cases member
    · obtain rfl : group = o := Option.some.inj member
      exact idle
  · dsimp only at member
    simp only [Bool.false_eq_true, if_false] at member
    split at member
    · cases member
    · obtain rfl := Option.some.inj member
      exact (updateStation_facts type ifindex group).2.2.1.trans idle

theorem idle_visited {plat : Platform} (off : (step plat s event).mcastHookToggle = false)
    (visited : Visited plat s event group hw kept hw') (idle : group.mtblIdx = none) :
    ∀ o ∈ kept, o.mtblIdx = none := by
  rw [step_toggle] at off
  cases visited with
  | @known env type entry groupAlloc memberAlloc ip group addressed typed found =>
    rw [show s.mcastHookToggle = false from off]
    exact groupUpdate_idle plat env type entry.ifindex memberAlloc false s.hw idle
  | @created env type entry memberAlloc ip addressed typed unknown =>
    rw [show s.mcastHookToggle = false from off]
    exact groupUpdate_idle plat env type entry.ifindex memberAlloc true s.hw idle
  | bind enabled => exact absurd off (by simp [enabled])
  | goingDown hw enabled => exact absurd off (by simp [enabled])
  | @blist env ip mask group hw absent listed =>
    intro o member
    obtain rfl := Option.some.inj member
    unfold blistDropGroup
    split
    · exact (quiet_teardownNpu env ⟨group, hw, FoeEntry.zero⟩).mtblIdx.trans idle
    · exact idle
  | @offload env enable group hw listed =>
    intro o member
    obtain rfl := Option.some.inj member
    exact (groupHandle_mtblIdx plat env enable ⟨group, hw, FoeEntry.zero⟩).trans idle
  | @pathSwitch env groupIdx hwPath wifiIp group switched =>
    intro o member
    obtain rfl := Option.some.inj member
    have kept : (pathSwitchGroup plat env hwPath ⟨group, s.hw, FoeEntry.zero⟩).group.mtblIdx =
        group.mtblIdx := by
      unfold pathSwitchGroup
      cases hwPath <;> rfl
    exact kept.trans idle

theorem inv_warmInit (plat : Platform) (ppeReset : Bool) (inv : Inv s)
    (keeps : KeepsSlots s (.warmInit ppeReset)) : Inv (hnatWarmInit plat ppeReset s) := by
  have unused : ∀ slot, ¬ Live (hnatWarmInit plat ppeReset s).hw slot := by
    intro slot
    obtain reset | idle := keeps
    · simp [hnatWarmInit, Live, reset]
    · cases ppeReset with
      | true => simp [hnatWarmInit, Live]
      | false =>
        intro live
        obtain ⟨group, listed, holds⟩ := (inv.accounted.owned slot).mp live
        exact not_owns_of_none (idle group listed) slot holds
  refine ⟨⟨?_, ?_⟩, ?_, fun _ => unused⟩
  · intro slot
    refine iff_of_false (unused slot) ?_
    rintro ⟨group, listed, holds⟩
    obtain ⟨old, _, rfl⟩ := List.mem_map.mp listed
    have idle : (hnatMcastSerGroup old).mtblIdx = none := rfl
    exact not_owns_of_none idle slot holds
  · refine List.Pairwise.map hnatMcastSerGroup ?_ inv.accounted.exclusive
    intro a b _ slot holds
    exact absurd holds (not_owns_of_none rfl slot)
  · intro group listed
    obtain ⟨old, member, rfl⟩ := List.mem_map.mp listed
    exact ⟨(inv.sound old member).mac, by simp [hnatMcastSerGroup]⟩

theorem Inv.start {plat : Platform} (inv : Inv s) (keeps : KeepsSlots s event)
    (cold : ∀ ppeReset, event ≠ .warmInit ppeReset) :
    Held ((step plat s event).mcastHookToggle = false) s.groups s.hw := by
  refine inv.held fun off group listed => ?_
  rw [step_toggle] at off
  cases event with
  | offload env enable => exact keeps off group listed
  | warmInit ppeReset => exact absurd rfl (cold ppeReset)
  | mdb | bind | goingDown | blist | blistWrite | pathSwitch | foeWrite =>
    exact inv.idle listed (inv.disabled off)

theorem Held.visited {plat : Platform} {before after : List Group} (inv : Inv s)
    (keeps : KeepsSlots s event) (visited : Visited plat s event group hw kept hw')
    (held : Held ((step plat s event).mcastHookToggle = false) (before ++ group :: after) hw) :
    Held ((step plat s event).mcastHookToggle = false) (before ++ (kept.toList ++ after)) hw' :=
  held.replace (leaves_visited inv keeps visited fun entry => held.ready (by simp) entry)
    fun off => idle_visited off visited

theorem Held.entered {plat : Platform} {ip : GroupIp} (inv : Inv s) (keeps : KeepsSlots s event)
    (visited : Visited plat s event (createdGroup ip) s.hw kept hw')
    (held : Held ((step plat s event).mcastHookToggle = false) s.groups s.hw) :
    Held ((step plat s event).mcastHookToggle = false) (s.groups ++ kept.toList) hw' := by
  simpa using (held.enter (sound_create ip) rfl).visited inv keeps visited

theorem inv_step (plat : Platform) (s : State) (event : Event) (inv : Inv s)
    (keeps : KeepsSlots s event) : Inv (step plat s event) := by
  by_cases cold : ∀ ppeReset, event ≠ .warmInit ppeReset
  · have start : Held ((step plat s event).mcastHookToggle = false) s.groups s.hw :=
      inv.start keeps cold
    refine Held.inv (step_preserves start ?_ ?_ ?_ cold)
    · intro ip kept hw' _ visited
      exact start.entered inv keeps visited
    · intro before group after hw kept hw' visited held
      exact held.visited inv keeps visited
    · intro groups hw ppe idx entry _ held
      exact held
  · push Not at cold
    obtain ⟨ppeReset, rfl⟩ := cold
    exact inv_warmInit plat ppeReset inv keeps

/-- In every run whose steps keep the slots of the groups they unbind, the
non-empty slots of each PPE are those of the groups, each of one group. -/
theorem multicast_slots_owned (plat : Platform) (events : List Event)
    (keeps : Along (step plat) KeepsSlots State.init events) :
    SlotsOwned (run (step plat) State.init events) :=
  (slotsOwned_iff _).mpr
    (run_invariant (step plat) KeepsSlots Inv (inv_step plat) State.init events inv_init
      keeps).accounted

def board : Platform := ⟨3, 32768, 64⟩

def ethernet (gmacFp : PsePort) : NetDev := ⟨true, false, none, false, true, false, gmacFp⟩

def twoPorts : Env where
  devs := fun ifindex =>
    if ifindex = 1 then some (ethernet NR_GMAC2_PORT)
    else if ifindex = 2 then some (ethernet NR_GMAC3_PORT)
    else none
  mtkDsa := false
  hnatMcOps := none
  foeTimestamp := 9

def streamIp : BitVec 32 := 0xef010203

def streamEntry : FoeEntry := Ipv4Hnapt.dip.set streamIp (Bfib1.state.set UNBIND FoeEntry.zero)

def join (ifindex : Nat) : Event :=
  .mdb twoPorts RTM_NEWMDB ⟨some (.ipv4 streamIp), ifindex⟩ true true

def leave (ifindex : Nat) : Event :=
  .mdb twoPorts RTM_DELMDB ⟨some (.ipv4 streamIp), ifindex⟩ true true

def joiningRun : List Event :=
  [.offload twoPorts true, join 1, .foeWrite 0 7 streamEntry,
    .bind twoPorts 0x01005e010203 0 7 streamEntry 1 true, join 2]

theorem multicast_slots_owned_joiningRun :
    (run (step board) State.init joiningRun).hw.slots 0 0 ≠ McastSlot.empty ∧
      SlotsOwned (run (step board) State.init (joiningRun ++ [join 2, leave 2])) :=
  ⟨by decide, multicast_slots_owned board _ (by decide)⟩

/-- The group of the stream is put on the blacklist while two ports take it. -/
def blacklistingRun : List Event :=
  joiningRun ++ [.blist twoPorts (.ipv4 streamIp) 32 true true]

theorem blacklistingRun_leaks_slot :
    ¬ SlotsOwned (run (step board) State.init blacklistingRun) := by
  rintro ⟨owned, _⟩
  obtain ⟨group, listed, holds⟩ := (owned 0 0).mp (by decide)
  have unbound : ∀ group ∈ (run (step board) State.init blacklistingRun).groups,
      group.ppeId = none := by decide
  simp [unbound group listed] at holds

end OpenwrtSource.Hnat.SlotOwnership
