import OpenwrtSource.Hnat.SlotOwnership

/-!
# The list of multicast groups

Every group has a member and an address of its own, and its PPE and its index
are both set or both unset, so that no handler deletes every entry of a PPE.
-/

namespace OpenwrtSource.Hnat.GroupList

open Relation Lib.Run Hnat.Foe Hnat.McastTable Hnat.McastOffload Hnat.McastEvents Hnat.McastEffects
open Hnat.McastSteps Hnat.McastVisits

def Paired (ppeId index : Option Nat) : Prop := ppeId = none ↔ index = none

def NoFlush (hw : Hw) : Prop := ∀ call ∈ hw.entryDeletes, Paired call.1 call.2

/-- What a handler keeps of its group and of the calls to `entry_delete`. -/
structure Guarded (group : Group) (hw : Hw) (group' : Group) (hw' : Hw) : Prop where
  ip : group'.ip = group.ip
  members : group'.members = group.members
  paired : Paired group.ppeId group.foeIdx → Paired group'.ppeId group'.foeIdx
  noFlush : Paired group.ppeId group.foeIdx → NoFlush hw → NoFlush hw'

theorem Guarded.refl (group : Group) (hw : Hw) : Guarded group hw group hw :=
  ⟨rfl, rfl, id, fun _ => id⟩

theorem Guarded.trans {g₁ g₂ g₃ : Group} {hw₁ hw₂ hw₃ : Hw} (first : Guarded g₁ hw₁ g₂ hw₂)
    (second : Guarded g₂ hw₂ g₃ hw₃) : Guarded g₁ hw₁ g₃ hw₃ where
  ip := second.ip.trans first.ip
  members := second.members.trans first.members
  paired := fun paired => second.paired (first.paired paired)
  noFlush := fun paired clean => second.noFlush (first.paired paired) (first.noFlush paired clean)

variable {env : Env} {group : Group} {hw hw' : Hw} {s : State} {kept : Option Group}

theorem guarded_step {plat : Platform} {c c' : Ctx} (step : Step plat env c c') :
    Guarded c.group c.hw c'.group c'.hw := by
  cases step with
  | note => exact ⟨rfl, rfl, id, fun _ => id⟩
  | foe ptr f => cases ptr <;> exact ⟨rfl, rfl, id, fun _ => id⟩
  | delete =>
    refine ⟨rfl, rfl, id, fun paired clean call listed => ?_⟩
    simp only [Ctx.entryDelete, (entryDelete_frame _ _ _ _ _).2, List.mem_append,
      List.mem_singleton] at listed
    obtain old | rfl := listed
    · exact clean call old
    · exact paired
  | setSlot => exact ⟨rfl, rfl, id, fun _ => id⟩
  | clearSlot => exact ⟨rfl, rfl, id, fun _ => id⟩
  | unbind => exact ⟨rfl, rfl, fun _ => Iff.rfl, fun _ => id⟩

theorem guarded_steps {plat : Platform} {c c' : Ctx} (steps : Steps plat env c c') :
    Guarded c.group c.hw c'.group c'.hw :=
  steps.relates (fun c => .refl c.group c.hw) (fun _ _ _ => .trans) fun _ _ => guarded_step

structure Listed (group : Group) : Prop where
  manned : group.members ≠ []
  paired : Paired group.ppeId group.foeIdx

structure Inv (groups : List Group) (hw : Hw) : Prop where
  listed : ∀ group ∈ groups, Listed group
  distinct : (groups.map Group.ip).Nodup
  noFlush : NoFlush hw

theorem inv_init : Inv State.init.groups State.init.hw where
  listed := by simp [State.init]
  distinct := List.nodup_nil
  noFlush := by simp [NoFlush, State.init]

theorem Guarded.listed {group' : Group} (guarded : Guarded group hw group' hw')
    (listed : Listed group) : Listed group' :=
  ⟨guarded.members ▸ listed.manned, guarded.paired listed.paired⟩

/-- What a visit leaves of a group that may have just been made. -/
structure Leaves (group : Group) (hw : Hw) (kept : Option Group) (hw' : Hw) : Prop where
  noFlush : Paired group.ppeId group.foeIdx → NoFlush hw → NoFlush hw'
  listed : Paired group.ppeId group.foeIdx → ∀ o ∈ kept, o.ip = group.ip ∧ Listed o

theorem Guarded.leaves {group' : Group} (guarded : Guarded group hw group' hw')
    (manned : group.members ≠ []) : Leaves group hw (some group') hw' where
  noFlush := guarded.noFlush
  listed := by
    intro paired o member
    obtain rfl := Option.some.inj member
    exact ⟨guarded.ip, guarded.listed ⟨manned, paired⟩⟩

theorem guarded_onGroup {plat : Platform} {f : Ctx → Ctx} (steps : ∀ c, Steps plat env c (f c))
    (group : Group) (hw : Hw) : Guarded group hw (onGroup f group hw).1 (onGroup f group hw).2 :=
  guarded_steps (steps ⟨group, hw, FoeEntry.zero⟩)

theorem groupUpdate_leaves (plat : Platform) (env : Env) (type ifindex : Nat)
    (toggle memberAlloc fresh : Bool) (manned : fresh = false → group.members ≠ []) :
    Leaves group hw (groupUpdate plat env type ifindex toggle memberAlloc fresh group hw).1
      (groupUpdate plat env type ifindex toggle memberAlloc fresh group hw).2 := by
  unfold groupUpdate
  split
  · refine ⟨fun _ => id, fun paired o member => ?_⟩
    cases fresh with
    | true => simp at member
    | false =>
      obtain rfl : group = o := by simpa using member
      exact ⟨rfl, manned rfl, paired⟩
  · obtain ⟨_, ip, _, ppeId, foeIdx⟩ := SlotOwnership.updateStation_facts type ifindex group
    have updated : ∀ (group' : Group) (hw' : Hw),
        Guarded (updateStation type ifindex group) hw group' hw' →
        Leaves group hw (if group'.members.isEmpty then none else some group') hw' := by
      intro group' hw' guarded
      have stationed : Paired group.ppeId group.foeIdx →
          Paired (updateStation type ifindex group).ppeId
            (updateStation type ifindex group).foeIdx := by
        rw [ppeId, foeIdx]
        exact id
      refine ⟨fun paired => guarded.noFlush (stationed paired), fun paired o member => ?_⟩
      split at member
      · simp at member
      next manned =>
        obtain rfl : group' = o := by simpa using member
        exact ⟨guarded.ip.trans ip, by simpa using manned, guarded.paired (stationed paired)⟩
    cases toggle with
    | true =>
      exact updated _ _ (guarded_onGroup (steps_eventHwHandle plat env type ifindex) _ _)
    | false => exact updated _ _ (.refl _ _)

theorem guarded_blistDropGroup (plat : Platform) (env : Env) (mcast : McastBlistData) (group : Group)
    (hw : Hw) :
    Guarded group hw (blistDropGroup plat env mcast group hw).1
      (blistDropGroup plat env mcast group hw).2 := by
  unfold blistDropGroup
  split
  · exact guarded_steps ((steps_teardownNpu plat env ⟨group, hw, FoeEntry.zero⟩).trans
      (steps_dropGroup plat env _))
  · exact .refl group hw

theorem leaves_foeBindGroup (plat : Platform) (env : Env) (ppe foeIdx ifindex : Nat)
    (entry : FoeEntry) (manned : group.members ≠ []) :
    Leaves group hw
      (some (hnatMcastFoeBindGroup plat env ppe foeIdx ifindex ⟨group, hw, entry⟩).2.group)
      (hnatMcastFoeBindGroup plat env ppe foeIdx ifindex ⟨group, hw, entry⟩).2.hw := by
  obtain same | steps := steps_foeBindGroup plat env ppe foeIdx ifindex ⟨group, hw, entry⟩
  · rw [same]
    exact (Guarded.refl group hw).leaves manned
  · obtain ⟨_, ip, members, _, ppeId, index⟩ := bindTo_facts group ppe foeIdx entry
    have paired : Paired (Group.bindTo group ppe foeIdx entry).ppeId
        (Group.bindTo group ppe foeIdx entry).foeIdx := by simp [Paired, ppeId, index]
    have bound := (guarded_steps steps).leaves (members ▸ manned)
    refine ⟨fun _ => bound.noFlush paired, fun _ o member => ?_⟩
    obtain ⟨same, listed⟩ := bound.listed paired o member
    exact ⟨same.trans ip, listed⟩

theorem leaves_visited {plat : Platform} {event : Event} (inv : Inv s.groups s.hw)
    (visited : Visited plat s event group hw kept hw') : Leaves group hw kept hw' := by
  have manned : ∀ {group}, group ∈ s.groups → group.members ≠ [] :=
    fun listed => (inv.listed _ listed).manned
  cases visited with
  | known addressed typed found =>
    exact groupUpdate_leaves plat _ _ _ _ _ false fun _ => manned (List.mem_of_find?_eq_some found)
  | created addressed typed unknown => exact groupUpdate_leaves plat _ _ _ _ _ true nofun
  | bind enabled multicast allowed flow found =>
    exact leaves_foeBindGroup plat _ _ _ _ _ (manned (List.mem_of_find?_eq_some found))
  | goingDown hw enabled listed =>
    exact (guarded_onGroup (steps_ifdownGroup plat _ _) _ _).leaves (manned listed)
  | blist hw absent listed => exact (guarded_blistDropGroup plat _ _ _ _).leaves (manned listed)
  | offload hw listed =>
    exact (guarded_onGroup (steps_groupHandle plat _ _) _ _).leaves (manned listed)
  | pathSwitch switched =>
    exact (guarded_onGroup (steps_pathSwitchGroup plat _ _) _ _).leaves
      (manned (switchedGroup_listed switched))

theorem Inv.replace {before after : List Group} (inv : Inv (before ++ group :: after) hw)
    (leaves : Leaves group hw kept hw') : Inv (before ++ (kept.toList ++ after)) hw' := by
  have paired := (inv.listed group (by simp)).paired
  have listed := leaves.listed paired
  refine ⟨?_, ?_, leaves.noFlush paired inv.noFlush⟩
  · intro other member
    simp only [List.mem_append, Option.mem_toList] at member
    obtain front | visited | back := member
    · exact inv.listed other (by simp [front])
    · exact (listed other visited).2
    · exact inv.listed other (by simp [back])
  · have distinct := inv.distinct
    cases kept with
    | none =>
      have shorter : (before ++ after).Sublist (before ++ group :: after) :=
        (List.Sublist.refl before).append (List.sublist_cons_self group after)
      exact distinct.sublist (shorter.map Group.ip)
    | some o => simpa [(listed o rfl).1] using distinct

theorem Inv.enter (inv : Inv s.groups s.hw) {ip : GroupIp}
    (unknown : s.groups.find? (fun group => group.ip == ip) = none)
    (leaves : Leaves (createdGroup ip) s.hw kept hw) : Inv (s.groups ++ kept.toList) hw := by
  have paired : Paired (createdGroup ip).ppeId (createdGroup ip).foeIdx := Iff.rfl
  have listed := leaves.listed paired
  refine ⟨?_, ?_, leaves.noFlush paired inv.noFlush⟩
  · intro group member
    simp only [List.mem_append, Option.mem_toList] at member
    obtain old | new := member
    · exact inv.listed group old
    · exact (listed group new).2
  · rw [List.map_append, List.nodup_append]
    refine ⟨inv.distinct, by cases kept <;> simp, ?_⟩
    intro known member address new same
    obtain ⟨group, old, rfl⟩ := List.mem_map.mp member
    obtain ⟨created, isKept, rfl⟩ := List.mem_map.mp new
    have own : created.ip = ip := (listed created (by simpa using isKept)).1
    have other := List.find?_eq_none.mp unknown group old
    simp [same, own] at other

theorem inv_warmInit (plat : Platform) (ppeReset : Bool) (inv : Inv s.groups s.hw) :
    Inv (hnatWarmInit plat ppeReset s).groups (hnatWarmInit plat ppeReset s).hw := by
  refine ⟨?_, ?_, inv.noFlush⟩
  · intro group member
    obtain ⟨old, listed, rfl⟩ := List.mem_map.mp member
    exact ⟨(inv.listed old listed).manned, Iff.rfl⟩
  · have same : (hnatWarmInit plat ppeReset s).groups.map Group.ip = s.groups.map Group.ip := by
      simp [hnatWarmInit, hnatMcastSerGroup, Group.unbind, Function.comp_def]
    rw [same]
    exact inv.distinct

theorem inv_step (plat : Platform) (s : State) (event : Event) (inv : Inv s.groups s.hw) :
    Inv (step plat s event).groups (step plat s event).hw := by
  by_cases cold : ∀ ppeReset, event ≠ .warmInit ppeReset
  · refine step_preserves inv ?_ ?_ ?_ cold
    · intro ip kept hw' unknown visited
      exact inv.enter unknown (leaves_visited inv visited)
    · intro before group after hw kept hw' visited midway
      exact midway.replace (leaves_visited inv visited)
    · intro groups hw ppe idx entry _ midway
      exact ⟨midway.listed, midway.distinct, midway.noFlush⟩
  · push Not at cold
    obtain ⟨ppeReset, rfl⟩ := cold
    exact inv_warmInit plat ppeReset inv

theorem inv_run (plat : Platform) (events : List Event) :
    Inv (run (step plat) State.init events).groups (run (step plat) State.init events).hw :=
  run_invariant (step plat) (fun _ _ => True) (fun s => Inv s.groups s.hw)
    (fun state event before _ => inv_step plat state event before) State.init events inv_init
    (along_of_forall _ _ _ _ fun _ _ _ => trivial)

/-- In every run, every group has a member, no two have the same address, the
PPE of a group is set exactly when its index is, and no call of `entry_delete`
has had a PPE and no index. -/
theorem group_list (plat : Platform) (events : List Event) :
    let s := run (step plat) State.init events
    (∀ group ∈ s.groups, group.members ≠ []) ∧
      s.groups.Pairwise (fun a b => a.ip ≠ b.ip) ∧
      (∀ group ∈ s.groups, group.ppeId = none ↔ group.foeIdx = none) ∧
      ∀ call ∈ s.hw.entryDeletes, ¬ (call.1.isSome ∧ call.2 = none) := by
  intro s
  have inv : Inv s.groups s.hw := inv_run plat events
  refine ⟨fun group member => (inv.listed group member).manned, List.pairwise_map.mp inv.distinct,
    fun group member => (inv.listed group member).paired, ?_⟩
  rintro call listed ⟨valid, flush⟩
  simp [(inv.noFlush call listed).mpr flush] at valid

end OpenwrtSource.Hnat.GroupList
