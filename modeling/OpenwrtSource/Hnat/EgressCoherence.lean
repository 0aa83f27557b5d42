import OpenwrtSource.Hnat.McastPlaces
import OpenwrtSource.Hnat.McastEvents

/-!
# Egress coherence

A group that is bound in hardware forwards to the ports of its members on
running interfaces: what its FOE entry, its slot and its cached bitmap say is
the same set of ports.
-/

namespace OpenwrtSource.Hnat.EgressCoherence

open Lib.BitField Lib.Run Lib.Ownership Hnat.Foe Hnat.McastTable Hnat.McastOffload Hnat.McastEvents
open Hnat.McastEffects Hnat.McastSteps Hnat.McastVisits Hnat.SlotOwnership Hnat.SlotLookup
open Hnat.EgressUpdate Hnat.McastPlaces Hnat.McastWorld

/-! ## Coherence -/

/-- The group has its FOE entry there, and the hardware has it bound. -/
def BoundAt (hw : Hw) (group : Group) (ppe idx : Nat) : Prop :=
  Points group ppe idx ∧ stateOf (hw.foeTable ppe idx) = BIND ∧
    foeGroupIp (hw.foeTable ppe idx) = some group.ip

instance (hw : Hw) (group : Group) (ppe idx : Nat) : Decidable (BoundAt hw group ppe idx) :=
  inferInstanceAs (Decidable (_ ∧ _))

/-- The ports in the slot of a group with several: the NPU takes the place of
GDMA1 where it serves the group. -/
def slotPorts (env : Env) (bmp : PseBmp) : PseBmp :=
  if sendsToNpu env && bmpHas bmp MCAST_TO_GDMA1 then npuBmp bmp else bmp

structure Coherent (env : Env) (group : Group) (hw : Hw) (ppe idx : Nat) : Prop where
  served : egressOf env group ≠ 0
  psebmp : group.psebmp = egressOf env group
  entry : ForwardsTo (egressOf env group) (hw.foeTable ppe idx)
  slot : SlotFor (egressOf env group) (slotPorts env (egressOf env group)) ppe group hw

def Agrees (env : Env) (hw : Hw) (group : Group) : Prop :=
  ∀ ppe idx, BoundAt hw group ppe idx → Coherent env group hw ppe idx

def CoherentWorld (w : World) : Prop := ∀ group ∈ w.state.groups, Agrees w.env w.state.hw group

/-! ## Steps that keep it -/

/-- The NPU is given the ports of a group with several only in the place of
GDMA1, or where the group has its port anyway. -/
def SlotExact (env : Env) (bmp : PseBmp) : Prop :=
  sendsToNpu env = true → bmpIsSinglePort bmp = false →
    bmpHas bmp MCAST_TO_GDMA1 = true ∨ bmpHas bmp MCAST_TO_TDMA = true

instance (env : Env) (bmp : PseBmp) : Decidable (SlotExact env bmp) := by
  unfold SlotExact
  infer_instance

def Indexed (group : Group) : Prop := group.ppeId.isSome ∧ group.foeIdx.isSome

instance (group : Group) : Decidable (Indexed group) := inferInstanceAs (Decidable (_ ∧ _))

def KeepsEgress (env env' : Env) (group : Group) : Prop :=
  egressOf env' group = egressOf env group ∧
    (bmpIsSinglePort (egressOf env group) = false →
      slotPorts env' (egressOf env group) = slotPorts env (egressOf env group))

instance (env env' : Env) (group : Group) : Decidable (KeepsEgress env env' group) :=
  inferInstanceAs (Decidable (_ ∧ _))

/-- A group that `hnat_mcast_ifdown_handle` goes on with. -/
def Recomputed (env : Env) (ifindex : Nat) (group : Group) : Prop :=
  Indexed group ∧ ifindex ∈ group.members ∧
    group.psebmp &&& ~~~ hnatMcastGetSingleDevPseBit env.devs ifindex ≠ 0

instance (env : Env) (ifindex : Nat) (group : Group) : Decidable (Recomputed env ifindex group) :=
  inferInstanceAs (Decidable (_ ∧ _))

def CarefulEvent (s : State) : Event → Prop
  | .mdb env type entry _ memberAlloc =>
    ¬ (type = RTM_NEWMDB ∧ memberAlloc = false) →
      ∀ ip ∈ entry.addr, ∀ group ∈ s.groups.find? (fun group => group.ip == ip),
        Indexed group → SlotExact env (egressOf env (updateStation type entry.ifindex group))
  | .bind env hDest ppe foeIdx entry ifindex locked =>
    BindsApart s (.bind env hDest ppe foeIdx entry ifindex locked) ∧
      (∀ group ∈ boundGroup env hDest entry s, SlotExact env (egressOf env group) ∧
        (stateOf (s.hw.foeTable ppe foeIdx) = BIND →
          foeGroupIp (s.hw.foeTable ppe foeIdx) = some group.ip → Points group ppe foeIdx)) ∧
      (commitsAlone hDest ppe foeIdx entry locked s = true →
        ∀ group ∈ s.groups, Points group ppe foeIdx → foeGroupIp entry ≠ some group.ip)
  | .goingDown env ifindex =>
    ∀ group ∈ s.groups, Recomputed env ifindex group →
      egressOf env group ≠ 0 ∧ SlotExact env (egressOf env group)
  | .foeWrite ppe idx foe =>
    ∀ group ∈ s.groups, Points group ppe idx → stateOf foe = BIND →
      foeGroupIp foe = some group.ip →
        BoundAt s.hw group ppe idx ∧ mcastOf foe = mcastOf (s.hw.foeTable ppe idx) ∧
          dpOf foe = dpOf (s.hw.foeTable ppe idx)
  | _ => True

instance (s : State) : (event : Event) → Decidable (CarefulEvent s event)
  | .mdb .. | .bind .. | .goingDown .. | .foeWrite .. => by
    unfold CarefulEvent; infer_instance
  | .blist .. | .blistWrite .. | .offload .. | .pathSwitch .. | .warmInit .. =>
    .isTrue trivial

def Careful (plat : Platform) (w : World) : Happening → Prop
  | .environment env =>
    ∀ group ∈ w.state.groups, (∃ ppe ∈ group.ppeId, ∃ idx ∈ group.foeIdx,
      BoundAt w.state.hw group ppe idx) → KeepsEgress w.env env group
  | .event event => CarefulEvent w.state (underEnv w.env event)
  | .down ifindex offloads =>
    if clearsEntries w.env ifindex offloads then
      ∀ group ∈ w.state.groups, ∀ ppe ∈ group.ppeId, ∀ idx ∈ group.foeIdx,
        ppe < plat.ppeNum ∧ idx < plat.foeEtryNum
    else
      CarefulEvent w.state (.goingDown w.env ifindex) ∧
        ∀ group ∈ w.state.groups, Recomputed w.env ifindex group →
          KeepsEgress w.env (stopDev w.env ifindex) group

instance (plat : Platform) (w : World) (happening : Happening) :
    Decidable (Careful plat w happening) := by
  cases happening <;> unfold Careful <;> infer_instance

/-! ## Visits -/

variable {env : Env} {group : Group} {hw : Hw}

variable {bmp : PseBmp} {ifindex : Nat}

theorem writtenPorts_eq (several : bmpIsSinglePort bmp = false) (exact : SlotExact env bmp) :
    writtenPorts (sendsToNpu env) bmp = slotPorts env bmp := by
  have unchanged : ∀ bmp : PseBmp, bmpHas bmp MCAST_TO_GDMA1 = false →
      bmpHas bmp MCAST_TO_TDMA = true → npuBmp bmp = bmp := by decide
  unfold writtenPorts slotPorts
  cases npu : sendsToNpu env with
  | false => rfl
  | true =>
    cases gdma1 : bmpHas bmp MCAST_TO_GDMA1 with
    | true => rfl
    | false =>
      have tdma := (exact npu several).resolve_left (by simp [gdma1])
      simpa using unchanged bmp gdma1 tdma

theorem slotFor_exact {ppe : Nat}
    (slot : SlotFor bmp (writtenPorts (sendsToNpu env) bmp) ppe group hw)
    (exact : SlotExact env bmp) : SlotFor bmp (slotPorts env bmp) ppe group hw := by
  cases single : bmpIsSinglePort bmp with
  | true =>
    simp only [SlotFor, single, if_true] at slot ⊢
    exact slot
  | false =>
    rw [writtenPorts_eq single exact] at slot
    exact slot

theorem agrees_of_pointless (pointless : ∀ ppe idx, ¬ Points group ppe idx) : Agrees env hw group :=
  fun ppe idx bound => absurd bound.1 (pointless ppe idx)

theorem agrees_of_unbound (unbound : group.ppeId = none) : Agrees env hw group := by
  refine agrees_of_pointless ?_
  rintro ppe idx ⟨owner, _⟩
  rw [unbound] at owner
  cases owner

theorem Agrees.untouched {hw' : Hw} (agrees : Agrees env hw group)
    (untouched : Untouched group hw hw') : Agrees env hw' group := by
  intro ppe idx bound
  have entry := untouched.1 ppe idx bound.1
  have before : BoundAt hw group ppe idx := by
    refine ⟨bound.1, ?_, ?_⟩
    · rw [← entry]
      exact bound.2.1
    · rw [← entry]
      exact bound.2.2
  obtain ⟨served, psebmp, forwards, slot⟩ := agrees ppe idx before
  refine ⟨served, psebmp, entry ▸ forwards, ?_⟩
  unfold SlotFor at slot ⊢
  split
  next single => rwa [if_pos single] at slot
  next several =>
    rw [if_neg several] at slot
    obtain ⟨index, slotted, held⟩ := slot
    exact ⟨index, slotted, (untouched.2 (ppe, index) ⟨bound.1.1, slotted⟩).trans held⟩

section

variable (plat : Platform) (env : Env)

variable {c : Ctx}

theorem agrees_hwUpdate (type ifindex : Nat) {ptr : FoePtr}
    (mac : c.group.mac = hnatMcastGetMacFromMdb c.group.ip)
    (found : hnatMcastGetHwFoe c.group = some ptr) (busy : egressOf env c.group ≠ 0)
    (exact : SlotExact env (egressOf env c.group)) :
    Agrees env
      (hnatMcastHwUpdate plat env (hnatMcastGetPseTxBmp env.devs c.group.members) type ifindex ptr
        c).2.hw
      (hnatMcastHwUpdate plat env (hnatMcastGetPseTxBmp env.devs c.group.members) type ifindex ptr
        c).2.group := by
  obtain ⟨ppe, idx, bound, indexed, rfl⟩ := hnatMcastGetHwFoe_some found
  have own : PointsTo c.group (.table ppe idx) := ⟨bound, indexed⟩
  have touches := touches_steps (@steps_hwUpdate plat env
    (hnatMcastGetPseTxBmp env.devs c.group.members) type ifindex _ _ own)
  obtain unbound | settled := @settled_hwUpdate plat (.table ppe idx) c ppe env
    (hnatMcastGetPseTxBmp env.devs c.group.members) type ifindex busy (pseTxBmp_not_pdma _ _) mac
    bound
  · exact agrees_of_unbound unbound
  · intro p i boundAt
    obtain ⟨ofPpe, ofIdx⟩ := touches.points p i boundAt.1
    obtain rfl : ppe = p := Option.some.inj (bound.symm.trans ofPpe)
    obtain rfl : idx = i := Option.some.inj (indexed.symm.trans ofIdx)
    have egress : egressOf env (hnatMcastHwUpdate plat env
        (hnatMcastGetPseTxBmp env.devs c.group.members) type ifindex (.table ppe idx) c).2.group =
          egressOf env c.group := by
      unfold egressOf
      rw [touches.members]
    refine ⟨?_, ?_, ?_, ?_⟩
    · rw [egress]
      exact busy
    · rw [egress]
      exact settled.psebmp
    · rw [egress]
      exact settled.entry (by
        change (foeGroupIp (Hw.foeTable _ ppe idx)).isSome
        rw [boundAt.2.2]
        rfl)
    · rw [egress]
      exact slotFor_exact settled.slot exact

theorem agrees_eventHwHandle (type ifindex : Nat)
    (mac : c.group.mac = hnatMcastGetMacFromMdb c.group.ip)
    (exact : Indexed c.group → SlotExact env (egressOf env c.group)) :
    Agrees env (hnatMcastEventHwHandle plat env type ifindex c).hw
      (hnatMcastEventHwHandle plat env type ifindex c).group := by
  unfold hnatMcastEventHwHandle
  split
  next none =>
    refine agrees_of_pointless ?_
    rintro ppe idx ⟨bound, indexed⟩
    simp [hnatMcastGetHwFoe, bound, indexed] at none
  next ptr found =>
    obtain ⟨ppe, idx, bound, indexed, rfl⟩ := hnatMcastGetHwFoe_some found
    split
    next other =>
      rintro p i ⟨⟨ofPpe, ofIdx⟩, _, address⟩
      obtain rfl : ppe = p := Option.some.inj (bound.symm.trans ofPpe)
      obtain rfl : idx = i := Option.some.inj (indexed.symm.trans ofIdx)
      simp [Ctx.readFoe, address] at other
    · dsimp only
      split
      next busy =>
        exact agrees_hwUpdate plat env type ifindex mac found busy
          (exact ⟨by simp [bound], by simp [indexed]⟩)
      · exact agrees_of_unbound rfl

theorem agrees_ifdownGroup (ifindex : Nat) (mac : c.group.mac = hnatMcastGetMacFromMdb c.group.ip)
    (agrees : Agrees env c.hw c.group) (careful : Recomputed env ifindex c.group →
      egressOf env c.group ≠ 0 ∧ SlotExact env (egressOf env c.group)) :
    Agrees env (hnatMcastIfdownGroup plat env ifindex c).hw
      (hnatMcastIfdownGroup plat env ifindex c).group := by
  unfold hnatMcastIfdownGroup
  split
  · exact agrees
  next member =>
    split
    · exact agrees
    next ptr found =>
      obtain ⟨ppe, idx, bound, indexed, rfl⟩ := hnatMcastGetHwFoe_some found
      dsimp only
      split
      next left =>
        obtain ⟨busy, exact⟩ := careful ⟨⟨by simp [bound], by simp [indexed]⟩,
          by simpa using member, left⟩
        exact agrees_hwUpdate plat env RTM_DELMDB ifindex mac found busy exact
      · exact agrees_of_unbound rfl

theorem agrees_groupHandle (enable : Bool) (agrees : Agrees env c.hw c.group) :
    Agrees env (hnatMcastGroupHandle plat env enable c).hw
      (hnatMcastGroupHandle plat env enable c).group := by
  unfold hnatMcastGroupHandle
  split
  · exact agrees
  · split
    · exact agrees
    · exact agrees_of_unbound (called_npuDeleteStations env _ _ false _).quiet.ppeId

theorem agrees_pathSwitchGroup (hwPath : Bool) (agrees : Agrees env c.hw c.group) :
    Agrees env (pathSwitchGroup plat env hwPath c).hw (pathSwitchGroup plat env hwPath c).group := by
  unfold pathSwitchGroup
  dsimp only
  split
  · intro ppe idx bound
    obtain ⟨served, psebmp, entry, slot⟩ := agrees ppe idx bound
    exact ⟨served, psebmp, entry, slot⟩
  · exact agrees_of_unbound rfl

variable {group : Group} {hw : Hw}

theorem agrees_groupUpdate (type ifindex : Nat) (toggle memberAlloc fresh : Bool)
    (mac : group.mac = hnatMcastGetMacFromMdb group.ip) (agrees : Agrees env hw group)
    (off : toggle = false → ∀ ppe idx, ¬ Points group ppe idx)
    (exact : ¬ (type = RTM_NEWMDB ∧ memberAlloc = false) → Indexed group →
      SlotExact env (egressOf env (updateStation type ifindex group))) :
    ∀ o ∈ (groupUpdate plat env type ifindex toggle memberAlloc fresh group hw).1,
      Agrees env (groupUpdate plat env type ifindex toggle memberAlloc fresh group hw).2 o := by
  intro o member
  unfold groupUpdate at member ⊢
  split at member
  next failed =>
    rw [if_pos failed]
    cases fresh with
    | true => simp at member
    | false =>
      obtain rfl : group = o := by simpa using member
      exact agrees
  next allocated =>
    rw [if_neg allocated]
    obtain ⟨sameMac, sameIp, _, ppeId, foeIdx⟩ := updateStation_facts type ifindex group
    have finish : ∀ (group' : Group) (hw' : Hw), Agrees env hw' group' →
        o ∈ (if group'.members.isEmpty then none else some group') → Agrees env hw' o := by
      intro group' hw' agrees kept
      split at kept
      · cases kept
      · obtain rfl := Option.some.inj kept
        exact agrees
    cases toggle with
    | true =>
      refine finish _ _ (agrees_eventHwHandle plat env type ifindex ?_ fun indexed => ?_) member
      · dsimp only
        rw [sameMac, sameIp]
        exact mac
      · refine exact (by simpa using allocated) ?_
        unfold Indexed at indexed ⊢
        rwa [ppeId, foeIdx] at indexed
    | false =>
      refine finish (updateStation type ifindex group) hw (agrees_of_pointless ?_) member
      rintro ppe idx ⟨bound, indexed⟩
      exact off rfl ppe idx ⟨ppeId ▸ bound, foeIdx ▸ indexed⟩

theorem agrees_blistDropGroup (mcast : McastBlistData) (agrees : Agrees env hw group) :
    Agrees env (blistDropGroup plat env mcast group hw).2
      (blistDropGroup plat env mcast group hw).1 := by
  unfold blistDropGroup
  split
  · exact agrees_of_unbound rfl
  · exact agrees

variable {plat} {env} {s : State} {event : Event} {group : Group} {hw hw' : Hw}
  {kept : Option Group}

theorem agrees_visited (inv : McastPlaces.Inv s) (careful : CarefulEvent s (underEnv env event))
    (visited : Visited plat s (underEnv env event) group hw kept hw')
    (other : isBind (underEnv env event) = false)
    (mac : group.mac = hnatMcastGetMacFromMdb group.ip) (agrees : Agrees env hw group) :
    ∀ o ∈ kept, Agrees env hw' o := by
  cases event with
  | mdb env' type entry groupAlloc memberAlloc =>
    cases visited with
    | known addressed typed found =>
      refine agrees_groupUpdate plat env type entry.ifindex _ memberAlloc false mac agrees ?_ ?_
      · exact fun off => inv.off off group (List.mem_of_find?_eq_some found)
      · exact fun allocated => careful allocated _ addressed group found
    | @created _ _ _ _ ip addressed typed unknown =>
      have pointless : ∀ ppe idx, ¬ Points (createdGroup ip) ppe idx := by
        rintro ppe idx ⟨bound, _⟩
        cases bound
      refine agrees_groupUpdate plat env type entry.ifindex _ memberAlloc true mac agrees
        (fun _ => pointless) ?_
      rintro _ ⟨bound, _⟩
      cases bound
  | bind env' hDest ppe foeIdx entry ifindex locked => cases other
  | goingDown env' ifindex =>
    cases visited with
    | goingDown hw enabled listed =>
      intro o member
      obtain rfl := Option.some.inj member
      exact agrees_ifdownGroup plat env ifindex mac agrees (careful group listed)
  | blist env' ip mask add kzalloc =>
    generalize fixed : underEnv env (.blist env' ip mask add kzalloc) = event at visited
    cases visited with
    | blist hw absent listed =>
      simp only [underEnv, Event.blist.injEq] at fixed
      obtain ⟨rfl, -⟩ := fixed
      intro o member
      obtain rfl := Option.some.inj member
      exact agrees_blistDropGroup plat env _ agrees
    | _ => simp [underEnv] at fixed
  | blistWrite command kzalloc => cases visited
  | offload env' enable =>
    cases visited with
    | offload hw listed =>
      intro o member
      obtain rfl := Option.some.inj member
      exact agrees_groupHandle plat env enable agrees
  | pathSwitch env' groupIdx hwPath wifiIp =>
    cases visited with
    | pathSwitch switched =>
      intro o member
      obtain rfl := Option.some.inj member
      exact agrees_pathSwitchGroup plat env hwPath agrees
  | warmInit ppeReset => cases visited
  | foeWrite ppe idx foe => cases visited

end

/-! ## Events -/

section

variable {plat : Platform} {env : Env} {s : State} {event : Event}

variable {group : Group} {ppe : Nat}

variable {before after : List Group} {hw hw' : Hw} {kept : Option Group} {hDest : Mac}
  {foeIdx : Nat} {entry : FoeEntry} {ifindex : Nat} {locked : Bool}

theorem untouched_visited {groups : List Group} (placed : McastPlaces.Placed groups hw)
    (split : groups = before ++ group :: after) (distinct : (groups.map Group.ip).Nodup)
    (paired : GroupList.Paired group.ppeId group.foeIdx)
    (visited : Visited plat s event group hw kept hw') (other : isBind event = false) :
    ∀ o ∈ before ++ after, Untouched o hw hw' := by
  subst split
  intro o listed
  obtain ⟨members, made⟩ := visited_made visited other
  exact made.untouched paired
    (placed.apart group (by simp) o (mem_around listed) (other_ip distinct listed).symm)
    (placed.live o (mem_around listed))

theorem agrees_replace (agrees : ∀ o ∈ before ++ group :: after, Agrees env hw o)
    (untouched : ∀ o ∈ before ++ after, Untouched o hw hw') (own : ∀ o ∈ kept, Agrees env hw' o) :
    ∀ o ∈ before ++ (kept.toList ++ after), Agrees env hw' o := by
  intro o member
  simp only [List.mem_append, Option.mem_toList] at member
  obtain front | visited | back := member
  · exact (agrees o (by simp [front])).untouched (untouched o (by simp [front]))
  · exact own o visited
  · exact (agrees o (by simp [back])).untouched (untouched o (by simp [back]))

theorem agrees_visits (inv : McastPlaces.Inv s) (careful : CarefulEvent s (underEnv env event))
    (quiet : writesFoe (underEnv env event) = false)
    (cold : ∀ ppeReset, underEnv env event ≠ .warmInit ppeReset)
    (agrees : ∀ group ∈ s.groups, Agrees env s.hw group) :
    ∀ group ∈ (step plat s (underEnv env event)).groups,
      Agrees env (step plat s (underEnv env event)).hw group := by
  have other : isBind (underEnv env event) = false := by
    revert quiet
    cases underEnv env event <;> simp [writesFoe, isBind]
  have all : GroupList.Inv (step plat s (underEnv env event)).groups
        (step plat s (underEnv env event)).hw ∧
      McastPlaces.Placed (step plat s (underEnv env event)).groups
        (step plat s (underEnv env event)).hw ∧
      ∀ group ∈ (step plat s (underEnv env event)).groups,
        Agrees env (step plat s (underEnv env event)).hw group := by
    refine @step_preserves plat s (underEnv env event) (fun groups hw => GroupList.Inv groups hw ∧
      McastPlaces.Placed groups hw ∧ ∀ group ∈ groups, Agrees env hw group)
      ⟨inv.list, inv.placed, agrees⟩ ?_ ?_ ?_ cold
    · intro ip kept hw' unknown visited
      have entered := inv.placed.enter ip
      have distinct := entered_list inv.list unknown
      refine ⟨inv.list.enter unknown (GroupList.leaves_visited inv.list visited), ?_, ?_⟩
      · simpa using entered.visited distinct Iff.rfl visited other
      · have pointless : Agrees env s.hw (createdGroup ip) := agrees_of_unbound rfl
        have others := untouched_visited entered rfl distinct Iff.rfl visited other
        have all : ∀ o ∈ s.groups ++ [createdGroup ip], Agrees env s.hw o := by
          intro o member
          obtain old | new := List.mem_append.mp member
          · exact agrees o old
          · exact List.mem_singleton.mp new ▸ pointless
        simpa using agrees_replace all others
          (agrees_visited inv careful visited other rfl pointless)
    · rintro before group after hw kept hw' visited ⟨list, placed, midway⟩
      have paired := (list.listed group (by simp)).paired
      have mac := placed.mac group (by simp)
      refine ⟨list.replace (GroupList.leaves_visited inv.list visited),
        placed.visited list.distinct paired visited other, ?_⟩
      exact agrees_replace midway
        (untouched_visited placed rfl list.distinct paired visited other)
        (agrees_visited inv careful visited other mac (midway group (by simp)))
    · intro groups hw ppe idx entry writes
      rw [quiet] at writes
      cases writes
  exact all.2.2

theorem agrees_foeWrite {idx : Nat} {foe : FoeEntry}
    (careful : CarefulEvent s (.foeWrite ppe idx foe))
    (agrees : ∀ group ∈ s.groups, Agrees env s.hw group) :
    ∀ group ∈ s.groups, Agrees env (s.hw.writeFoe ppe idx foe) group := by
  rintro group listed p i ⟨points, bound, address⟩
  by_cases own : p = ppe ∧ i = idx
  · obtain ⟨rfl, rfl⟩ := own
    have written : (s.hw.writeFoe p i foe).foeTable p i = foe := by simp [Hw.writeFoe]
    rw [written] at bound address
    obtain ⟨before, mcast, dp⟩ := careful group listed points bound address
    obtain ⟨served, psebmp, entry, slot⟩ := agrees group listed p i before
    refine ⟨served, psebmp, ?_, slot⟩
    rw [written]
    unfold ForwardsTo at entry ⊢
    rwa [mcast, dp]
  · have same : (s.hw.writeFoe ppe idx foe).foeTable p i = s.hw.foeTable p i := by
      simp [Hw.writeFoe, own]
    rw [same] at bound address
    obtain ⟨served, psebmp, entry, slot⟩ := agrees group listed p i ⟨points, bound, address⟩
    exact ⟨served, psebmp, same ▸ entry, slot⟩

theorem agrees_boundGroup (inv : McastPlaces.Inv s)
    (careful : CarefulEvent s (.bind env hDest ppe foeIdx entry ifindex locked))
    (agrees : ∀ group ∈ s.groups, Agrees env s.hw group)
    (reached : group ∈ boundGroup env hDest entry s) (written : Option FoeEntry)
    (commits : ∀ committed ∈ written, committed = hnatFoeEntryCommit env.foeTimestamp
      (hnatMcastFoeBindGroup plat env ppe foeIdx ifindex ⟨group, s.hw, entry⟩).2.entry BIND) :
    let c := (hnatMcastFoeBindGroup plat env ppe foeIdx ifindex ⟨group, s.hw, entry⟩).2
    Agrees env (written.elim c.hw (c.hw.writeFoe ppe foeIdx)) c.group := by
  intro c
  obtain ⟨_, flow, listed, offloaded, kept⟩ := boundGroup_facts env hDest entry s reached
  obtain ⟨apart, exact, _⟩ := careful
  obtain ⟨slotExact, pointed⟩ := exact group reached
  have busy := (apart group reached).1
  obtain ⟨_, ip, members, _, bound, indexed⟩ := bindTo_facts group ppe foeIdx entry
  have own : PointsTo (Group.bindTo group ppe foeIdx entry) .entry := trivial
  have updated : c = _ := @foeBindGroup_eq plat env ppe foeIdx ifindex ⟨group, s.hw, entry⟩
    offloaded kept busy
  have touches : Touches ⟨Group.bindTo group ppe foeIdx entry, s.hw, entry⟩ c := by
    rw [updated]
    exact touches_steps (steps_hwUpdate plat env _ RTM_NEWMDB ifindex own)
  have egress : egressOf env c.group = egressOf env group := by
    unfold egressOf
    rw [touches.members]
    exact congrArg _ (congrArg _ members)
  obtain unbound | settled := @bound_settled plat env ppe foeIdx ifindex ⟨group, s.hw, entry⟩
    (inv.placed.mac group listed) offloaded kept busy
  · exact agrees_of_unbound unbound
  intro p i boundAt
  obtain ⟨ofPpe, ofIdx⟩ := touches.points p i boundAt.1
  obtain rfl : ppe = p := Option.some.inj (bound.symm.trans ofPpe)
  obtain rfl : foeIdx = i := Option.some.inj (indexed.symm.trans ofIdx)
  have slot := slotFor_exact settled.slot slotExact
  have sameSlots : (written.elim c.hw (c.hw.writeFoe ppe foeIdx)).slots = c.hw.slots := by
    cases written <;> rfl
  refine ⟨by rw [egress]; exact busy, by rw [egress]; exact settled.psebmp, ?_, ?_⟩
  · rw [egress]
    cases written with
    | some committed =>
      have entryHere : ((some committed).elim c.hw (c.hw.writeFoe ppe foeIdx)).foeTable ppe foeIdx =
          committed := by simp [Hw.writeFoe]
      obtain ⟨_, _, address⟩ := boundAt
      rw [entryHere] at address ⊢
      obtain rfl := commits committed rfl
      rw [(commit_spec _ _ _).1] at address
      refine forwardsTo_commit (settled.entry ?_) _ _
      change (foeGroupIp c.entry).isSome
      rw [address]
      rfl
    | none =>
      -- the entry of the table is the one that was bound before
      have table : c.hw.foeTable = s.hw.foeTable := by
        obtain unbound | same := hwUpdate_table plat (c := ⟨Group.bindTo group ppe foeIdx entry,
          s.hw, entry⟩) env (hnatMcastGetPseTxBmp env.devs group.members) RTM_NEWMDB ifindex
        · have owner := boundAt.1.1
          rw [updated] at owner
          rw [unbound] at owner
          cases owner
        · rw [updated]
          exact same
      obtain ⟨_, state, address⟩ := boundAt
      simp only [Option.elim_none, table] at state address ⊢
      have sameIp : c.group.ip = group.ip := touches.ip.trans ip
      rw [sameIp] at address
      exact (agrees group listed ppe foeIdx ⟨pointed state address, state, address⟩).entry
  · rw [egress]
    unfold SlotFor at slot ⊢
    rw [sameSlots]
    exact slot

theorem agrees_bind (inv : McastPlaces.Inv s)
    (careful : CarefulEvent s (.bind env hDest ppe foeIdx entry ifindex locked))
    (agrees : ∀ group ∈ s.groups, Agrees env s.hw group) :
    ∀ group ∈ (commitPacket plat env hDest ppe foeIdx entry ifindex locked s).groups,
      Agrees env (commitPacket plat env hDest ppe foeIdx entry ifindex locked s).hw group := by
  have packet := packetStep_commitPacket plat env hDest ppe foeIdx entry ifindex locked s
  generalize commitPacket plat env hDest ppe foeIdx entry ifindex locked s = s' at packet ⊢
  cases packet with
  | refused => exact agrees
  | alone commits =>
    have written : CarefulEvent s
        (.foeWrite ppe foeIdx (hnatFoeEntryCommit env.foeTimestamp entry BIND)) := by
      intro group listed points _ address
      rw [(commit_spec _ _ _).1] at address
      exact absurd address (careful.2.2 commits group listed points)
    have committed := agrees_foeWrite written agrees
    exact committed
  | @bound before after group split reached written commits =>
    let c := (hnatMcastFoeBindGroup plat env ppe foeIdx ifindex ⟨group, s.hw, entry⟩).2
    obtain ⟨_, untouched⟩ := inv.placed.bound plat inv.list careful.1 split reached
    have alone := (careful.1 group reached).2
    have others : ∀ o ∈ before ++ after,
        Untouched o s.hw (written.elim c.hw (c.hw.writeFoe ppe foeIdx)) := by
      intro o around
      obtain ⟨entries, slots⟩ := untouched o around
      cases written with
      | none => exact ⟨entries, slots⟩
      | some committed =>
        refine ⟨fun p i points => ?_, slots⟩
        have elsewhere : ¬ (p = ppe ∧ i = foeIdx) := by
          rintro ⟨rfl, rfl⟩
          have distinct := other_ip (split ▸ inv.list.distinct) around
          exact (alone o (split ▸ mem_around around) distinct).1 points
        rw [← entries p i points]
        simp [Hw.writeFoe, elsewhere, c]
    have own : ∀ o ∈ some c.group,
        Agrees env (written.elim c.hw (c.hw.writeFoe ppe foeIdx)) o := by
      intro o member
      obtain rfl := Option.some.inj member
      exact agrees_boundGroup inv careful agrees reached written
        fun committed member => (commits committed member).2.2.1
    have replaced := agrees_replace (split ▸ agrees) others own
    exact replaced

theorem agrees_event (inv : McastPlaces.Inv s) (careful : CarefulEvent s (underEnv env event))
    (agrees : ∀ group ∈ s.groups, Agrees env s.hw group) :
    ∀ group ∈ (step plat s (underEnv env event)).groups,
      Agrees env (step plat s (underEnv env event)).hw group := by
  cases event with
  | bind env' hDest ppe foeIdx entry ifindex locked => exact agrees_bind inv careful agrees
  | foeWrite ppe idx foe =>
    have written := agrees_foeWrite careful agrees
    exact written
  | warmInit ppeReset =>
    intro group listed
    obtain ⟨old, _, rfl⟩ := List.mem_map.mp listed
    exact agrees_of_unbound rfl
  | mdb | goingDown | blist | blistWrite | offload | pathSwitch =>
    exact agrees_visits inv careful rfl (by simp [underEnv]) agrees

theorem bindsApart_of_careful (careful : CarefulEvent s event) : BindsApart s event := by
  cases event with
  | bind env hDest ppe foeIdx entry ifindex locked => exact careful.1
  | mdb | goingDown | blist | blistWrite | offload | pathSwitch | warmInit | foeWrite => trivial

end

/-! ## The devices -/

theorem Agrees.environment {env' : Env} (agrees : Agrees env hw group)
    (keeps : ∀ ppe idx, BoundAt hw group ppe idx → KeepsEgress env env' group) :
    Agrees env' hw group := by
  intro ppe idx bound
  obtain ⟨same, ports⟩ := keeps ppe idx bound
  obtain ⟨served, psebmp, entry, slot⟩ := agrees ppe idx bound
  refine ⟨same ▸ served, same ▸ psebmp, same ▸ entry, ?_⟩
  rw [same]
  cases single : bmpIsSinglePort (egressOf env group) with
  | true =>
    simp only [SlotFor, single, if_true] at slot ⊢
    exact slot
  | false =>
    rw [ports single]
    exact slot

theorem foldl_memberEgress_congr {devs devs' : DevTable} {members : List Nat}
    (same : ∀ ifindex ∈ members, devs' ifindex = devs ifindex) (egress : Egress) :
    members.foldl (memberEgress devs') egress = members.foldl (memberEgress devs) egress := by
  induction members generalizing egress with
  | nil => rfl
  | cons ifindex rest ih =>
    have first : memberEgress devs' egress ifindex = memberEgress devs egress ifindex := by
      unfold memberEgress
      rw [same ifindex (by simp)]
    rw [List.foldl_cons, List.foldl_cons, first]
    exact ih (fun other tail => same other (by simp [tail])) _

theorem keepsEgress_stopDev (env : Env) (other : ifindex ∉ group.members) :
    KeepsEgress env (stopDev env ifindex) group := by
  refine ⟨?_, fun _ => rfl⟩
  unfold egressOf hnatMcastGetPseTxBmp
  rw [foldl_memberEgress_congr]
  intro member listed
  have differs : member ≠ ifindex := fun same => other (same ▸ listed)
  simp [stopDev, differs]

section

variable {plat : Platform} {env : Env} {s : State} {ifindex : Nat}

variable {group : Group} {timestamp : BitVec 8}

theorem ifdown_group (listed : group ∈ (step plat s (.goingDown env ifindex)).groups)
    {ppe idx : Nat} (points : Points group ppe idx) :
    ∃ old ∈ s.groups, Points old ppe idx ∧ group.members = old.members ∧
      (s.mcastHookToggle = true → ifindex ∈ old.members → Recomputed env ifindex old) := by
  simp only [step] at listed
  split at listed
  · obtain ⟨old, member, hw, rfl⟩ := mem_visitAll listed
    have touches := touches_steps (steps_ifdownGroup plat env ifindex ⟨old, hw, FoeEntry.zero⟩)
    have before : Points old ppe idx := touches.points ppe idx points
    refine ⟨old, member, before, touches.members, fun _ isMember => ?_⟩
    refine ⟨⟨by simp [before.1], by simp [before.2]⟩, isMember, fun emptied => ?_⟩
    have found : hnatMcastGetHwFoe old = some (.table ppe idx) := by
      simp [hnatMcastGetHwFoe, before.1, before.2]
    have unbound : (onGroup (hnatMcastIfdownGroup plat env ifindex) old hw).1.ppeId = none := by
      simp [onGroup, hnatMcastIfdownGroup, isMember, found, emptied, Group.unbind]
    have owner := points.1
    rw [unbound] at owner
    cases owner
  next off => exact ⟨group, listed, points, rfl, fun on => absurd on off⟩

theorem inv_clear (inv : McastPlaces.Inv s) :
    McastPlaces.Inv { s with hw := foeClearAllBindEntries plat timestamp s.hw } where
  list := ⟨inv.list.listed, inv.list.distinct, inv.list.noFlush⟩
  placed := ⟨inv.placed.mac, inv.placed.live, inv.placed.apart⟩
  off := inv.off

theorem stateOf_entryInvalidate (timestamp : BitVec 8) (entry : FoeEntry) :
    stateOf (entryInvalidate timestamp entry) = INVALID := by
  unfold stateOf entryInvalidate
  simp (disch := decide) only [Field.get_set, Field.get_set_of_apart]

theorem agrees_clear
    (inTable : ∀ ppe idx, Points group ppe idx → ppe < plat.ppeNum ∧ idx < plat.foeEtryNum)
    (env : Env) (hw : Hw) : Agrees env (foeClearAllBindEntries plat timestamp hw) group := by
  rintro ppe idx ⟨points, bound, _⟩
  obtain ⟨ppeIn, idxIn⟩ := inTable ppe idx points
  have apart : INVALID ≠ BIND := by decide
  unfold foeClearAllBindEntries at bound
  dsimp only at bound
  split at bound
  · rw [stateOf_entryInvalidate] at bound
    exact absurd bound apart
  next kept => exact absurd ⟨ppeIn, idxIn, bound⟩ kept

end

/-! ## Runs -/

structure WorldInv (w : World) : Prop where
  places : McastPlaces.Inv w.state
  agrees : CoherentWorld w

theorem worldInv_down {plat : Platform} {w : World} {offloads : Bool} (inv : WorldInv w)
    (careful : Careful plat w (.down ifindex offloads)) :
    WorldInv (w.step plat (.down ifindex offloads)) := by
  have places : McastPlaces.Inv (step plat w.state (.goingDown w.env ifindex)) :=
    McastPlaces.inv_step inv.places trivial
  simp only [Careful] at careful
  unfold World.step netdevGoingDown
  dsimp only
  split
  next clears =>
    rw [if_pos clears] at careful
    refine ⟨inv_clear places, fun group listed => agrees_clear ?_ _ _⟩
    intro ppe idx points
    obtain ⟨old, member, before, _⟩ := ifdown_group listed points
    exact careful old member ppe before.1 idx before.2
  next kept =>
    rw [if_neg kept] at careful
    obtain ⟨handled, keeps⟩ := careful
    have agrees := @agrees_event plat w.env w.state (.goingDown w.env ifindex) inv.places handled
      inv.agrees
    refine ⟨places, fun group listed => (agrees group listed).environment ?_⟩
    intro ppe idx bound
    obtain ⟨old, member, before, members, recomputed⟩ := ifdown_group listed bound.1
    have sameMembers : ∀ env, egressOf env group = egressOf env old := by
      intro env
      unfold egressOf
      rw [members]
    have keepsOld : KeepsEgress w.env (stopDev w.env ifindex) old := by
      by_cases isMember : ifindex ∈ old.members
      · cases on : w.state.mcastHookToggle with
        | true => exact keeps old member (recomputed on isMember)
        | false => exact absurd before (inv.places.off on old member ppe idx)
      · exact keepsEgress_stopDev w.env isMember
    unfold KeepsEgress at keepsOld ⊢
    rwa [sameMembers, sameMembers]

theorem worldInv_step (plat : Platform) (w : World) (happening : Happening) (inv : WorldInv w)
    (careful : Careful plat w happening) : WorldInv (w.step plat happening) := by
  cases happening with
  | environment env =>
    refine ⟨inv.places, fun group listed => (inv.agrees group listed).environment ?_⟩
    intro ppe idx bound
    exact careful group listed ⟨ppe, bound.1.1, idx, bound.1.2, bound⟩
  | event event =>
    exact ⟨McastPlaces.inv_step inv.places (bindsApart_of_careful careful),
      agrees_event inv.places careful inv.agrees⟩
  | down ifindex offloads => exact worldInv_down inv careful

/-- In every run of careful steps, a group that the hardware has bound forwards
to the ports of its members on running interfaces: the cached bitmap is that
set, which is not empty; a single port is in the FOE entry and the group has no
slot; several are in the slot, and the entry points there. -/
theorem egress_coherence (plat : Platform) (env : Env) (happenings : List Happening)
    (careful : Along (World.step plat) (Careful plat) (World.init env) happenings) :
    CoherentWorld (run (World.step plat) (World.init env) happenings) := by
  have start : WorldInv (World.init env) :=
    ⟨McastPlaces.inv_init, by simp [CoherentWorld, World.init, State.init]⟩
  exact (run_invariant (World.step plat) (Careful plat) WorldInv (worldInv_step plat)
    (World.init env) happenings start careful).agrees

/-- The stream is bound for one port, and a second port joins. -/
theorem egress_coherence_joiningRun :
    let w := run (World.step board) (World.init twoPorts) (joiningRun.map .event)
    ∃ group ∈ w.state.groups, BoundAt w.state.hw group 0 7 ∧
      Coherent w.env group w.state.hw 0 7 := by
  intro w
  have joined : ∃ group ∈ w.state.groups, BoundAt w.state.hw group 0 7 := by decide
  obtain ⟨group, listed, bound⟩ := joined
  exact ⟨group, listed, bound, egress_coherence board twoPorts (joiningRun.map .event)
    (by decide) group listed 0 7 bound⟩

/-! ## Runs that lose it -/

def oneDown : Env := stopDev twoPorts 2

def upRun : List Happening :=
  [.event (.offload oneDown true), .event (join 1), .event (join 2),
    .event (.foeWrite 0 7 streamEntry), .event (.bind oneDown 0x01005e010203 0 7 streamEntry 1 true),
    .environment twoPorts]

def strandedRun : List Happening :=
  [.event (.offload twoPorts true), .event (join 3), .event (.foeWrite 0 7 streamEntry),
    .event (.bind twoPorts 0x01005e010203 0 7 streamEntry 1 true)]

theorem not_coherent_upRun_strandedRun :
    ¬ CoherentWorld (run (World.step board) (World.init oneDown) upRun) ∧
      ¬ CoherentWorld (run (World.step board) (World.init twoPorts) strandedRun) := by
  constructor
  · intro coherent
    have stale : ∃ group ∈ (run (World.step board) (World.init oneDown) upRun).state.groups,
        BoundAt (run (World.step board) (World.init oneDown) upRun).state.hw group 0 7 ∧
          group.psebmp = MCAST_TO_GDMA2 ∧
          egressOf (run (World.step board) (World.init oneDown) upRun).env group =
            MCAST_TO_GDMA2 ||| MCAST_TO_GDMA3 := by
      decide
    obtain ⟨group, listed, bound, cached, ports⟩ := stale
    have same := (coherent group listed 0 7 bound).psebmp
    rw [cached, ports] at same
    exact absurd same (by decide)
  · intro coherent
    have empty : ∃ group ∈ (run (World.step board) (World.init twoPorts) strandedRun).state.groups,
        BoundAt (run (World.step board) (World.init twoPorts) strandedRun).state.hw group 0 7 ∧
          egressOf (run (World.step board) (World.init twoPorts) strandedRun).env group = 0 := by
      decide
    obtain ⟨group, listed, bound, none⟩ := empty
    exact (coherent group listed 0 7 bound).served none

end OpenwrtSource.Hnat.EgressCoherence
