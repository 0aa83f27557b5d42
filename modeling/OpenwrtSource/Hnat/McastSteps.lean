import Mathlib.Logic.Relation
import OpenwrtSource.Hnat.McastEffects

/-!
# The elementary steps of the handlers

Every handler of a group is a sequence of few kinds of steps on the group, its
FOE entry and its slot, so what each kind of step keeps, every handler keeps.
-/

namespace OpenwrtSource.Hnat.McastSteps

open Relation Hnat.Foe Hnat.McastTable Hnat.McastOffload Hnat.McastEvents Hnat.McastEffects

/-- The entry that the group points to, or the one that a bind commits later. -/
def PointsTo (group : Group) : FoePtr → Prop
  | .table ppe idx => group.ppeId = some ppe ∧ group.foeIdx = some idx
  | .entry => True

inductive Step (plat : Platform) (env : Env) (c : Ctx) : Ctx → Prop where
  | note (psebmp : PseBmp) (offload : Bool) (npuGrpIdx : BitVec 32) (npuCalls : List NpuCall) :
      Step plat env c { c with
        group := { c.group with psebmp := psebmp, offload := offload, npuGrpIdx := npuGrpIdx }
        hw := { c.hw with npuCalls := npuCalls } }
  | foe (ptr : FoePtr) (f : FoeEntry → FoeEntry) (own : PointsTo c.group ptr) :
      Step plat env c (c.updateFoe ptr f)
  | delete : Step plat env c (c.entryDelete plat env)
  | setSlot (ppe idx : Nat) (bmp : PseBmp) (bound : c.group.ppeId = some ppe)
      (chosen : c.group.mtblIdx = some idx ∨
        c.group.mtblIdx = none ∧ c.hw.slots ppe idx = McastSlot.empty) :
      Step plat env c { c with
        group := { c.group with mtblIdx := some idx }
        hw := { c.hw with slots := setHnatMtbl c.group.mac idx ppe bmp c.hw.slots } }
  | clearSlot (ppe idx : Nat) (bound : c.group.ppeId = some ppe)
      (slotted : c.group.mtblIdx = some idx) :
      Step plat env c { c with
        group := { c.group with mtblIdx := none }
        hw := { c.hw with slots := clrHnatMtbl ppe idx c.hw.slots } }
  | unbind (psebmp : PseBmp) :
      Step plat env c { c with group := { c.group.unbind with psebmp := psebmp } }

abbrev Steps (plat : Platform) (env : Env) : Ctx → Ctx → Prop := ReflTransGen (Step plat env)

theorem Steps.relates {plat : Platform} {env : Env} {rel : Ctx → Ctx → Prop}
    (reflexive : ∀ c, rel c c) (transitive : ∀ a b c, rel a b → rel b c → rel a c)
    (single : ∀ a b, Step plat env a b → rel a b) {c c' : Ctx} (steps : Steps plat env c c') :
    rel c c' := by
  induction steps with
  | refl => exact reflexive c
  | tail _ last ih => exact transitive _ _ _ ih (single _ _ last)

section

variable (plat : Platform) (env : Env)

theorem steps_setPsebmp (c : Ctx) (pseBmp : PseBmp) : Steps plat env c (c.setPsebmp pseBmp) :=
  .single (.note pseBmp c.group.offload c.group.npuGrpIdx c.hw.npuCalls)

theorem steps_called {c c' : Ctx} (called : Called c c') : Steps plat env c c' := by
  obtain ⟨offload, npuGrpIdx, npuCalls, rfl⟩ := called
  exact .single (.note c.group.psebmp offload npuGrpIdx npuCalls)

theorem pointsTo_updateFoe {c : Ctx} {ptr : FoePtr} (own : PointsTo c.group ptr) (p : FoePtr)
    (f : FoeEntry → FoeEntry) : PointsTo (c.updateFoe p f).group ptr := by
  cases p <;> exact own

theorem steps_mtblTeardown (c : Ctx) : Steps plat env c (hnatMcastMtblTeardown c) := by
  unfold hnatMcastMtblTeardown
  split
  next idx ppe slotted bound => exact .single (.clearSlot ppe idx bound slotted)
  · exact .refl

theorem steps_mtblSetup (pseBmp : PseBmp) {ptr : FoePtr} (toNpu : Bool) {c : Ctx}
    (own : PointsTo c.group ptr) :
    Steps plat env c (hnatMcastMtblSetup plat pseBmp ptr toNpu c).2 ∧
      ((hnatMcastMtblSetup plat pseBmp ptr toNpu c).1 = 0 →
        PointsTo (hnatMcastMtblSetup plat pseBmp ptr toNpu c).2.group ptr) := by
  unfold hnatMcastMtblSetup
  split
  · exact ⟨.refl, fun _ => own⟩
  next ppe bound =>
    cases slotted : c.group.mtblIdx with
    | some idx =>
      refine ⟨.single (.setSlot ppe idx _ bound (.inl slotted)), fun _ => ?_⟩
      cases ptr <;> exact own
    | none =>
      dsimp only
      cases found : hnatMcastAllocMtblEntry plat.maxEntry (c.hw.slots ppe) with
      | none =>
        have refused : (-1 : Int) ≠ 0 := by decide
        refine ⟨?_, fun succeeded => absurd succeeded refused⟩
        have zeroed : Step plat env c (c.updateFoe ptr fun _ => FoeEntry.zero) :=
          .foe ptr _ own
        refine .tail (.single zeroed) ?_
        have unbound := @Step.unbind plat env (c.updateFoe ptr fun _ => FoeEntry.zero)
          c.group.psebmp
        cases ptr <;> simpa [Ctx.updateFoe, Ctx.writeFoe, Group.unbind, slotted] using unbound
      | some idx =>
        have free := (hnatMcastAllocMtblEntry_some found).2
        refine ⟨.single (.setSlot ppe idx _ bound (.inr ⟨slotted, free⟩)), fun _ => ?_⟩
        cases ptr <;> exact own

theorem steps_foeMtblUpdate (pseBmp : PseBmp) {ptr : FoePtr} (toNpu : Bool) {c : Ctx}
    (own : PointsTo c.group ptr) : Steps plat env c (foeMtblUpdate plat pseBmp ptr toNpu c) := by
  unfold foeMtblUpdate
  split
  · exact .trans (.single (.foe ptr _ own)) (steps_mtblTeardown plat env _)
  · obtain ⟨setUp, kept⟩ := steps_mtblSetup plat env pseBmp toNpu own
    dsimp only
    split
    next succeeded => exact .tail setUp (.foe ptr _ (kept succeeded))
    · exact setUp

theorem steps_noNpuTeardownGroup (c : Ctx) :
    Steps plat env c (hnatMcastNoNpuTeardownGroup plat env c).2 := by
  refine .tail (.trans (.single .delete) (steps_mtblTeardown plat env _)) ?_
  exact .unbind 0

theorem steps_noNpuHandle (stag : BitVec 8) (pseBmp : PseBmp) {ptr : FoePtr} {c : Ctx}
    (own : PointsTo c.group ptr) :
    Steps plat env c (hnatMcastNoNpuHandle plat env stag pseBmp ptr c).2 := by
  unfold hnatMcastNoNpuHandle
  dsimp only
  split
  · unfold hnatMcastNoNpuMultiHandle
    split
    · exact steps_noNpuTeardownGroup plat env c
    · split
      · obtain ⟨setUp, kept⟩ := steps_mtblSetup plat env pseBmp false own
        unfold hnatMcastNoNpuGswMultiEth
        dsimp only
        split
        next succeeded =>
          exact .trans (.tail setUp (.foe ptr _ (kept succeeded))) (steps_setPsebmp plat env _ _)
        · exact .trans setUp (steps_setPsebmp plat env _ _)
      · exact steps_noNpuTeardownGroup plat env c
  · split
    · have tagged : Steps plat env c (c.updateFoe ptr (hnatMcastFoeStagUpdate stag)) :=
        .single (.foe ptr _ own)
      have marked := tagged.tail
        (.foe ptr (hnatMcastFoeMcDisable pseBmp) (pointsTo_updateFoe own ptr _))
      exact .trans (.trans marked (steps_mtblTeardown plat env _)) (steps_setPsebmp plat env _ _)
    · exact .refl

theorem steps_hwUpdate (egress : Egress) (type ifindex : Nat) {ptr : FoePtr} {c : Ctx}
    (own : PointsTo c.group ptr) :
    Steps plat env c (hnatMcastHwUpdate plat env egress type ifindex ptr c).2 := by
  unfold hnatMcastHwUpdate
  dsimp only
  split
  · exact steps_noNpuHandle plat env _ _ own
  · split
    · unfold hnatMcastNpuDsaHandle
      dsimp only
      have updated : ∀ tagged called, PointsTo tagged.group ptr → Step plat env c tagged →
          Called tagged called → Steps plat env c
            ((foeMtblUpdate plat egress.pseBmp ptr true called).setPsebmp egress.pseBmp) := by
        intro tagged called own' first calls
        refine .trans (.trans (.head first (steps_called plat env calls)) ?_)
          (steps_setPsebmp plat env _ _)
        apply steps_foeMtblUpdate
        obtain ⟨_, _, _, rfl⟩ := calls
        cases ptr <;> exact own'
      exact updated _ _ (pointsTo_updateFoe own ptr _) (.foe ptr _ own)
        (called_npuUpdate env _ _ _ type _ _)
    · exact .trans (steps_foeMtblUpdate plat env _ _ own) (steps_setPsebmp plat env _ _)

theorem pointsTo_hwFoe {group : Group} {ptr : FoePtr} (found : hnatMcastGetHwFoe group = some ptr) :
    PointsTo group ptr := by
  obtain ⟨ppe, idx, bound, indexed, rfl⟩ := hnatMcastGetHwFoe_some found
  exact ⟨bound, indexed⟩

theorem steps_dropGroup (c : Ctx) : Steps plat env c (dropGroup plat env c) :=
  .tail (.single .delete) (.unbind 0)

theorem steps_teardownNpu (c : Ctx) : Steps plat env c (hnatMcastGroupTeardownNpu env c) := by
  unfold hnatMcastGroupTeardownNpu
  split
  · exact .refl
  · exact .trans (steps_called plat env (called_npuDeleteStations env _ _ false c))
      (steps_setPsebmp plat env _ 0)

theorem steps_eventHwHandle (type ifindex : Nat) (c : Ctx) :
    Steps plat env c (hnatMcastEventHwHandle plat env type ifindex c) := by
  unfold hnatMcastEventHwHandle
  split
  · exact .refl
  next ptr found =>
    split
    · exact .refl
    · dsimp only
      split
      · exact steps_hwUpdate plat env _ type ifindex (pointsTo_hwFoe found)
      · exact steps_dropGroup plat env c

theorem steps_ifdownGroup (ifindex : Nat) (c : Ctx) :
    Steps plat env c (hnatMcastIfdownGroup plat env ifindex c) := by
  unfold hnatMcastIfdownGroup
  split
  · exact .refl
  · split
    · exact .refl
    next ptr found =>
      dsimp only
      split
      · exact steps_hwUpdate plat env _ _ ifindex (pointsTo_hwFoe found)
      · exact steps_noNpuTeardownGroup plat env c

theorem steps_groupHandle (enable : Bool) (c : Ctx) :
    Steps plat env c (hnatMcastGroupHandle plat env enable c) := by
  unfold hnatMcastGroupHandle
  split
  · exact .refl
  · split
    · exact .refl
    · exact .trans (steps_dropGroup plat env c)
        (steps_called plat env (called_npuDeleteStations env _ _ false _))

theorem steps_pathSwitchGroup (hwPath : Bool) (c : Ctx) :
    Steps plat env c (pathSwitchGroup plat env hwPath c) := by
  have noted : Steps plat env c { c with group := { c.group with offload := hwPath } } :=
    .single (.note c.group.psebmp hwPath c.group.npuGrpIdx c.hw.npuCalls)
  unfold pathSwitchGroup
  dsimp only
  split
  · exact noted
  · exact noted.trans (steps_dropGroup plat env _)

theorem steps_foeBindGroup (ppe foeIdx ifindex : Nat) (c : Ctx) :
    (hnatMcastFoeBindGroup plat env ppe foeIdx ifindex c).2 = c ∨
      Steps plat env { c with group := Group.bindTo c.group ppe foeIdx c.entry }
        (hnatMcastFoeBindGroup plat env ppe foeIdx ifindex c).2 := by
  unfold hnatMcastFoeBindGroup
  split
  · exact .inl rfl
  · split
    · exact .inl rfl
    · right
      dsimp only
      have own : PointsTo (Group.bindTo c.group ppe foeIdx c.entry) .entry := trivial
      have updated := @steps_hwUpdate plat env
        (hnatMcastGetPseTxBmp env.devs (Group.bindTo c.group ppe foeIdx c.entry).members)
        RTM_NEWMDB ifindex .entry { c with group := Group.bindTo c.group ppe foeIdx c.entry } own
      split
      · split
        · exact updated
        · split <;> exact updated
      · split
        · exact .refl
        · split <;> exact .refl

end

end OpenwrtSource.Hnat.McastSteps

/-!
# The groups that an event visits

An event visits the group of its address, or one group after the other, and
what every such visit keeps of the list of groups and the hardware, the event
keeps.
-/

namespace OpenwrtSource.Hnat.McastVisits

open Lib.Ownership Hnat.Foe Hnat.McastTable Hnat.McastOffload Hnat.McastEvents

def createdGroup (ip : GroupIp) : Group := hnatMcastCreateGroup (hnatMcastGetMacFromMdb ip) ip

def switchedGroup (s : State) (groupIdx : BitVec 32) (wifiIp : Option GroupIp) : Option Group :=
  (s.groups.find? fun group => group.npuGrpIdx == groupIdx).or
    (wifiIp.bind fun ip => s.groups.find? fun group => group.ip == ip)

/-- The event visits the group with the hardware as it is then, and leaves the
group, or none, and the hardware. -/
inductive Visited (plat : Platform) (s : State) : Event → Group → Hw → Option Group → Hw → Prop where
  | known {env : Env} {type : Nat} {entry : BrMdbEntry} {groupAlloc memberAlloc : Bool}
      {ip : GroupIp} {group : Group} (addressed : entry.addr = some ip)
      (typed : type = RTM_NEWMDB ∨ type = RTM_DELMDB)
      (found : s.groups.find? (fun group => group.ip == ip) = some group) :
      Visited plat s (.mdb env type entry groupAlloc memberAlloc) group s.hw
        (groupUpdate plat env type entry.ifindex s.mcastHookToggle memberAlloc false group s.hw).1
        (groupUpdate plat env type entry.ifindex s.mcastHookToggle memberAlloc false group s.hw).2
  | created {env : Env} {type : Nat} {entry : BrMdbEntry} {memberAlloc : Bool} {ip : GroupIp}
      (addressed : entry.addr = some ip) (typed : type = RTM_NEWMDB ∨ type = RTM_DELMDB)
      (unknown : s.groups.find? (fun group => group.ip == ip) = none) :
      Visited plat s (.mdb env type entry true memberAlloc) (createdGroup ip) s.hw
        (groupUpdate plat env type entry.ifindex s.mcastHookToggle memberAlloc true
          (createdGroup ip) s.hw).1
        (groupUpdate plat env type entry.ifindex s.mcastHookToggle memberAlloc true
          (createdGroup ip) s.hw).2
  | bind {env : Env} {hDest : Mac} {ppe foeIdx : Nat} {entry : FoeEntry} {ifindex : Nat}
      {locked : Bool} {ip : GroupIp} {group : Group} (enabled : s.mcastHookToggle = true)
      (multicast : isMulticastEtherAddr hDest = true)
      (allowed : hnatMcastChkBlist s.mcastBlistList entry = false)
      (flow : foeGroupIp entry = some ip)
      (found : s.groups.find? (fun group => group.ip == ip) = some group) :
      Visited plat s (.bind env hDest ppe foeIdx entry ifindex locked) group s.hw
        (some (hnatMcastFoeBindGroup plat env ppe foeIdx ifindex ⟨group, s.hw, entry⟩).2.group)
        (hnatMcastFoeBindGroup plat env ppe foeIdx ifindex ⟨group, s.hw, entry⟩).2.hw
  | goingDown {env : Env} {ifindex : Nat} {group : Group} (hw : Hw)
      (enabled : s.mcastHookToggle = true) (listed : group ∈ s.groups) :
      Visited plat s (.goingDown env ifindex) group hw
        (some (onGroup (hnatMcastIfdownGroup plat env ifindex) group hw).1)
        (onGroup (hnatMcastIfdownGroup plat env ifindex) group hw).2
  | blist {env : Env} {ip : GroupIp} {mask : BitVec 32} {group : Group} (hw : Hw)
      (absent : (s.mcastBlistList.any fun m => hnatMcastBlistEntryMatch m ip mask) = false)
      (listed : group ∈ s.groups) :
      Visited plat s (.blist env ip mask true true) group hw
        (some (blistDropGroup plat env (hnatMcastBlistCreateEntry ip mask) group hw).1)
        (blistDropGroup plat env (hnatMcastBlistCreateEntry ip mask) group hw).2
  | offload {env : Env} {enable : Bool} {group : Group} (hw : Hw) (listed : group ∈ s.groups) :
      Visited plat s (.offload env enable) group hw
        (some (onGroup (hnatMcastGroupHandle plat env enable) group hw).1)
        (onGroup (hnatMcastGroupHandle plat env enable) group hw).2
  | pathSwitch {env : Env} {groupIdx : BitVec 32} {hwPath : Bool} {wifiIp : Option GroupIp}
      {group : Group} (switched : switchedGroup s groupIdx wifiIp = some group) :
      Visited plat s (.pathSwitch env groupIdx hwPath wifiIp) group s.hw
        (some (onGroup (pathSwitchGroup plat env hwPath) group s.hw).1)
        (onGroup (pathSwitchGroup plat env hwPath) group s.hw).2

def writesFoe : Event → Bool
  | .bind .. => true
  | .foeWrite .. => true
  | _ => false

theorem switchedGroup_listed {s : State} {groupIdx : BitVec 32} {wifiIp : Option GroupIp}
    {group : Group} (switched : switchedGroup s groupIdx wifiIp = some group) :
    group ∈ s.groups := by
  unfold switchedGroup at switched
  obtain indexed | ⟨_, addressed⟩ := Option.or_eq_some_iff.mp switched
  · exact List.mem_of_find?_eq_some indexed
  · obtain ⟨ip, _, found⟩ := Option.bind_eq_some_iff.mp addressed
    exact List.mem_of_find?_eq_some found

section

variable {plat : Platform} {s : State} {event : Event} {inv : List Group → Hw → Prop}
  (holds : inv s.groups s.hw)
  (enter : ∀ {ip kept hw'}, s.groups.find? (fun group => group.ip == ip) = none →
    Visited plat s event (createdGroup ip) s.hw kept hw' → inv (s.groups ++ kept.toList) hw')
  (focus : ∀ {before group after hw kept hw'}, Visited plat s event group hw kept hw' →
    inv (before ++ group :: after) hw → inv (before ++ (kept.toList ++ after)) hw')
  (foe : ∀ {groups hw} ppe idx entry, writesFoe event = true → inv groups hw →
    inv groups (hw.writeFoe ppe idx entry))

include holds focus in
theorem visitFirst_preserves {σ : Type} (hwOf : σ → Hw) {passes : Group → Bool}
    {visit : Group → σ → Option Group × σ} {groups : List Group} {state state' : σ}
    (visited : visitFirst passes visit s.groups state = some (groups, state'))
    (visits : ∀ group, s.groups.find? passes = some group →
      Visited plat s event group s.hw (visit group state).1 (hwOf (visit group state).2)) :
    inv groups (hwOf state') := by
  obtain ⟨before, group, after, split, isFirst, rfl, rfl⟩ := visitFirst_some visited
  exact focus (visits group isFirst) (split ▸ holds)

include holds focus in
theorem visitAll_preserves {visit : Group → Hw → Group × Hw} (visits : ∀ group ∈ s.groups, ∀ hw,
      Visited plat s event group hw (some (visit group hw).1) (visit group hw).2) :
    inv (visitAll visit s.groups s.hw).1 (visitAll visit s.groups s.hw).2 :=
  visitAll_focus (fun group listed _ _ hw before => focus (visits group listed hw) before) [] s.hw
    holds

include foe in
theorem commitBound_preserves (writes : writesFoe event = true) (env : Env) (ppe foeIdx : Nat)
    (locked : Bool) {bound : Int × FoeEntry × State} (before : inv bound.2.2.groups bound.2.2.hw) :
    inv (commitBound env ppe foeIdx locked bound).groups
      (commitBound env ppe foeIdx locked bound).hw := by
  unfold commitBound
  dsimp only
  split
  · exact before
  · split
    · exact before
    · exact foe ppe foeIdx _ writes before

include holds enter focus foe in
theorem step_preserves (cold : ∀ ppeReset, event ≠ .warmInit ppeReset) :
    inv (step plat s event).groups (step plat s event).hw := by
  cases event with
  | mdb env type entry groupAlloc memberAlloc =>
    simp only [step, hnatMcastGroupUpdate]
    split
    · exact holds
    next ip addressed =>
      split
      · exact holds
      next typed =>
        have typed : type = RTM_NEWMDB ∨ type = RTM_DELMDB := by tauto
        split
        next visited =>
          exact visitFirst_preserves holds focus id visited
            fun group found => .known addressed typed found
        next missed =>
          split
          · exact holds
          next allocated =>
            have unknown := visitFirst_none missed
            obtain rfl : groupAlloc = true := by simpa using allocated
            exact enter unknown (.created addressed typed unknown)
  | bind env hDest ppe foeIdx entry ifindex locked =>
    simp only [step, commitPacket]
    split
    · exact holds
    next passed =>
      refine commitBound_preserves foe rfl env ppe foeIdx locked ?_
      split
      next multicast =>
        simp only [Bool.and_eq_true] at multicast
        have allowed : hnatMcastChkBlist s.mcastBlistList entry = false := by
          simpa [multicast.1] using passed
        unfold hnatMcastFoeBindHandle
        split
        · exact holds
        next ip flow =>
          split
          · exact holds
          next groups ret bound hw visited =>
            exact visitFirst_preserves holds focus (fun bound : Int × FoeEntry × Hw => bound.2.2)
              visited fun group found => .bind multicast.1 multicast.2 allowed flow found
      · exact holds
  | goingDown env ifindex =>
    simp only [step]
    split
    next enabled =>
      exact visitAll_preserves holds focus fun group listed hw => .goingDown hw enabled listed
    · exact holds
  | blist env ip mask add kzalloc =>
    simp only [step, hnatMcastBlistHandle]
    split
    next adding =>
      split
      · exact holds
      next absent =>
        split
        · exact holds
        next allocated =>
          obtain rfl : kzalloc = true := by simpa using allocated
          subst adding
          exact visitAll_preserves holds focus fun group listed hw =>
            .blist hw (by simpa using absent) listed
    · exact holds
  | blistWrite command kzalloc => exact holds
  | offload env enable =>
    exact visitAll_preserves holds focus fun group listed hw => .offload hw listed
  | pathSwitch env groupIdx hwPath wifiIp =>
    simp only [step, hnatMcastGroupPathSwitch]
    split
    next visited =>
      exact visitFirst_preserves holds focus id visited fun group found =>
        .pathSwitch (by simp [switchedGroup, found])
    next missed =>
      have unknown := visitFirst_none missed
      split
      · exact holds
      next ip =>
        split
        next visited =>
          exact visitFirst_preserves holds focus id visited fun group found =>
            .pathSwitch (by simp [switchedGroup, unknown, found])
        · exact holds
  | warmInit ppeReset => exact absurd rfl (cold ppeReset)
  | foeWrite ppe idx entry => exact foe ppe idx entry rfl holds

end

end OpenwrtSource.Hnat.McastVisits
