import OpenwrtSource.Hnat.EgressUpdate

/-!
# The entry and the slot of each group

No two groups point to one FOE entry or have one slot, as long as a bind gives
no group an entry or a slot that another group has.  A group may lose its
indices and keep the number of its slot.
-/

namespace OpenwrtSource.Hnat.McastPlaces

open Relation Lib.Ownership Hnat.Foe Hnat.McastTable Hnat.McastOffload Hnat.McastEvents
open Hnat.McastEffects Hnat.McastSteps Hnat.McastVisits Hnat.GroupList Hnat.SlotLookup
open Hnat.EgressUpdate

/-! ## A visit as a sequence of steps -/

def isBind : Event → Bool
  | .bind .. => true
  | _ => false

section

variable {plat : Platform} {s : State} {event : Event} {group : Group} {hw hw' : Hw}
  {kept : Option Group}

/-- The visit is made of steps that begin with this group. -/
def MadeOf (plat : Platform) (start : Group) (hw : Hw) (kept : Option Group) (hw' : Hw) : Prop :=
  ∃ env entry finish, Steps plat env ⟨start, hw, entry⟩ finish ∧ hw' = finish.hw ∧
    ∀ o ∈ kept, o = finish.group

theorem madeOf_onGroup {env : Env} {f : Ctx → Ctx} (steps : ∀ c, Steps plat env c (f c))
    (group : Group) (hw : Hw) :
    MadeOf plat group hw (some (onGroup f group hw).1) (onGroup f group hw).2 :=
  ⟨env, FoeEntry.zero, f ⟨group, hw, FoeEntry.zero⟩, steps _, rfl, by simp [onGroup]⟩

theorem madeOf_groupUpdate (env : Env) (type ifindex : Nat) (toggle memberAlloc fresh : Bool)
    (group : Group) (hw : Hw) :
    ∃ members, MadeOf plat { group with members := members } hw
      (groupUpdate plat env type ifindex toggle memberAlloc fresh group hw).1
      (groupUpdate plat env type ifindex toggle memberAlloc fresh group hw).2 := by
  unfold groupUpdate
  split
  · refine ⟨group.members, env, FoeEntry.zero, _, .refl, rfl, ?_⟩
    cases fresh <;> simp
  · have stationed : ∃ members, updateStation type ifindex group =
        { group with members := members } := by
      unfold updateStation
      split <;> exact ⟨_, rfl⟩
    obtain ⟨members, started⟩ := stationed
    have finish : ∀ c', Steps plat env ⟨updateStation type ifindex group, hw, FoeEntry.zero⟩ c' →
        MadeOf plat (updateStation type ifindex group) hw
          (if c'.group.members.isEmpty then none else some c'.group) c'.hw := by
      intro c' steps
      refine ⟨env, FoeEntry.zero, c', steps, rfl, fun o member => ?_⟩
      split at member
      · cases member
      · exact (Option.some.inj member).symm
    refine ⟨members, ?_⟩
    rw [← started]
    cases toggle with
    | true => exact finish _ (steps_eventHwHandle plat env type ifindex _)
    | false => exact finish ⟨updateStation type ifindex group, hw, FoeEntry.zero⟩ .refl

theorem visited_made (visited : Visited plat s event group hw kept hw') (other : isBind event = false) :
    ∃ members, MadeOf plat { group with members := members } hw kept hw' := by
  cases visited with
  | known addressed typed found => exact madeOf_groupUpdate _ _ _ _ _ _ _ _
  | created addressed typed unknown => exact madeOf_groupUpdate _ _ _ _ _ _ _ _
  | bind enabled multicast allowed flow found => cases other
  | goingDown hw enabled listed =>
    exact ⟨group.members, madeOf_onGroup (steps_ifdownGroup plat _ _) _ _⟩
  | @blist env ip mask _ hw absent listed =>
    refine ⟨group.members, ?_⟩
    unfold blistDropGroup
    split
    · exact madeOf_onGroup (fun c => (steps_teardownNpu plat env c).trans
        (steps_dropGroup plat env _)) group hw
    · exact ⟨env, FoeEntry.zero, ⟨group, hw, FoeEntry.zero⟩, .refl, rfl, by simp⟩
  | offload hw listed => exact ⟨group.members, madeOf_onGroup (steps_groupHandle plat _ _) _ _⟩
  | pathSwitch switched =>
    exact ⟨group.members, madeOf_onGroup (steps_pathSwitchGroup plat _ _) _ _⟩

end

/-! ## What the steps leave alone -/

abbrev Points (group : Group) (ppe idx : Nat) : Prop :=
  group.ppeId = some ppe ∧ group.foeIdx = some idx

def HoldsLive (group : Group) (hw : Hw) : Prop := ∀ slot, Owns group slot → Live hw slot

structure Touches (c c' : Ctx) : Prop where
  mac : c'.group.mac = c.group.mac
  ip : c'.group.ip = c.group.ip
  members : c'.group.members = c.group.members
  paired : Paired c.group.ppeId c.group.foeIdx → Paired c'.group.ppeId c'.group.foeIdx
  points : ∀ ppe idx, Points c'.group ppe idx → Points c.group ppe idx
  entries : Paired c.group.ppeId c.group.foeIdx → ∀ ppe idx, ¬ Points c.group ppe idx →
    c'.hw.foeTable ppe idx = c.hw.foeTable ppe idx
  live : c.group.mac = hnatMcastGetMacFromMdb c.group.ip → HoldsLive c.group c.hw →
    HoldsLive c'.group c'.hw

theorem Touches.refl (c : Ctx) : Touches c c :=
  ⟨rfl, rfl, rfl, id, fun _ _ => id, fun _ _ _ _ => rfl, fun _ => id⟩

theorem Touches.trans {c₁ c₂ c₃ : Ctx} (first : Touches c₁ c₂) (second : Touches c₂ c₃) :
    Touches c₁ c₃ where
  mac := second.mac.trans first.mac
  ip := second.ip.trans first.ip
  members := second.members.trans first.members
  paired := fun paired => second.paired (first.paired paired)
  points := fun ppe idx points => first.points ppe idx (second.points ppe idx points)
  entries := by
    intro paired ppe idx elsewhere
    have still : ¬ Points c₂.group ppe idx := fun points => elsewhere (first.points ppe idx points)
    rw [second.entries (first.paired paired) ppe idx still]
    exact first.entries paired ppe idx elsewhere
  live := by
    intro mac holds
    have derived : c₂.group.mac = hnatMcastGetMacFromMdb c₂.group.ip := by
      rw [first.mac, first.ip]
      exact mac
    exact second.live derived (first.live mac holds)

variable {c : Ctx} {ppe : Nat} {env : Env} {c' : Ctx} {s : State}

theorem entryDelete_other (plat : Platform) (env : Env)
    (paired : Paired c.group.ppeId c.group.foeIdx) {idx : Nat}
    (elsewhere : ¬ Points c.group ppe idx) :
    (c.entryDelete plat env).hw.foeTable ppe idx = c.hw.foeTable ppe idx := by
  unfold Ctx.entryDelete McastOffload.entryDelete
  cases bound : c.group.ppeId with
  | none => rfl
  | some own =>
    cases indexed : c.group.foeIdx with
    | none => simp [Paired, bound, indexed] at paired
    | some index =>
      have other : ¬ (ppe = own ∧ idx = index) := by
        rintro ⟨rfl, rfl⟩
        exact elsewhere ⟨bound, indexed⟩
      dsimp only
      split
      · rfl
      · split
        · rfl
        · simp [Hw.writeFoe, other]

theorem touches_step {plat : Platform} (step : Step plat env c c') : Touches c c' := by
  cases step with
  | note => exact ⟨rfl, rfl, rfl, id, fun _ _ => id, fun _ _ _ _ => rfl, fun _ => id⟩
  | foe ptr f own =>
    cases ptr with
    | entry => exact ⟨rfl, rfl, rfl, id, fun _ _ => id, fun _ _ _ _ => rfl, fun _ => id⟩
    | table p i =>
      refine ⟨rfl, rfl, rfl, id, fun _ _ => id, fun _ ppe idx elsewhere => ?_, fun _ => id⟩
      have other : ¬ (ppe = p ∧ idx = i) := by
        rintro ⟨rfl, rfl⟩
        exact elsewhere own
      simp [Ctx.updateFoe, Ctx.writeFoe, Hw.writeFoe, other]
  | delete =>
    refine ⟨rfl, rfl, rfl, id, fun _ _ => id, fun paired ppe idx elsewhere =>
      entryDelete_other plat env paired elsewhere, fun _ holds slot owns => ?_⟩
    have live := holds slot owns
    unfold Live at live ⊢
    rwa [(quiet_entryDelete plat env c).slots]
  | setSlot ppe idx bmp bound chosen =>
    refine ⟨rfl, rfl, rfl, id, fun _ _ => id, fun _ _ _ _ => rfl, fun mac holds => ?_⟩
    rintro ⟨p, i⟩ ⟨owner, slotted⟩
    obtain rfl : ppe = p := Option.some.inj (bound.symm.trans owner)
    obtain rfl : idx = i := Option.some.inj slotted
    unfold Live
    dsimp only
    rw [mac]
    exact setHnatMtbl_same c.group.ip bmp c.hw.slots ppe idx
  | clearSlot ppe idx bound slotted =>
    exact ⟨rfl, rfl, rfl, id, fun _ _ => id, fun _ _ _ _ => rfl,
      fun _ _ slot owns => absurd owns (not_owns_of_none rfl slot)⟩
  | unbind psebmp =>
    refine ⟨rfl, rfl, rfl, fun _ => Iff.rfl, ?_, fun _ _ _ _ => rfl, ?_⟩
    · rintro ppe idx ⟨bound, _⟩
      cases bound
    · rintro _ _ slot ⟨bound, _⟩
      cases bound

theorem touches_steps {plat : Platform} (steps : Steps plat env c c') : Touches c c' :=
  steps.relates Touches.refl (fun _ _ _ => .trans) fun _ _ => touches_step

/-! ## Groups in different places -/

def Apart (a b : Group) : Prop :=
  (∀ ppe idx, Points a ppe idx → ¬ Points b ppe idx) ∧ ∀ slot, Owns a slot → ¬ Owns b slot

theorem Apart.symm {a b : Group} (apart : Apart a b) : Apart b a :=
  ⟨fun ppe idx ofB ofA => apart.1 ppe idx ofA ofB, fun slot ofB ofA => apart.2 slot ofA ofB⟩

structure Placed (groups : List Group) (hw : Hw) : Prop where
  mac : ∀ group ∈ groups, group.mac = hnatMcastGetMacFromMdb group.ip
  live : ∀ group ∈ groups, HoldsLive group hw
  apart : ∀ a ∈ groups, ∀ b ∈ groups, a.ip ≠ b.ip → Apart a b

def Untouched (group : Group) (hw hw' : Hw) : Prop :=
  (∀ ppe idx, Points group ppe idx → hw'.foeTable ppe idx = hw.foeTable ppe idx) ∧
    ∀ slot, Owns group slot → hw'.slots slot.1 slot.2 = hw.slots slot.1 slot.2

section

variable {plat : Platform} {before after : List Group} {group start : Group} {hw hw' : Hw}
  {kept : Option Group}

variable {other : Group}

theorem other_ip (distinct : ((before ++ group :: after).map Group.ip).Nodup)
    (listed : other ∈ before ++ after) : other.ip ≠ group.ip := by
  have front := distinct
  simp only [List.map_append, List.map_cons, List.nodup_append, List.nodup_cons, List.mem_map] at front
  obtain ⟨_, ⟨notAfter, _⟩, notBefore⟩ := front
  obtain inBefore | inAfter := List.mem_append.mp listed
  · exact notBefore other.ip ⟨other, inBefore, rfl⟩ group.ip (by simp)
  · exact fun same => notAfter ⟨other, inAfter, same⟩

theorem mem_around (listed : other ∈ before ++ after) : other ∈ before ++ group :: after := by
  rw [List.mem_append] at listed ⊢
  exact listed.imp_right (List.mem_cons_of_mem group)

theorem MadeOf.untouched (made : MadeOf plat start hw kept hw')
    (paired : Paired start.ppeId start.foeIdx) (apart : Apart start other)
    (live : HoldsLive other hw) : Untouched other hw hw' := by
  obtain ⟨env, entry, finish, steps, rfl, _⟩ := made
  refine ⟨fun ppe idx points => ?_, fun slot owns => ?_⟩
  · exact (touches_steps steps).entries paired ppe idx fun own => apart.1 ppe idx own points
  · exact (spares_steps steps slot (live slot owns) fun own => apart.2 slot own owns).1

theorem Placed.replace (placed : Placed (before ++ group :: after) hw) (made : MadeOf plat start hw kept hw')
    (mac : start.mac = group.mac) (ip : start.ip = group.ip)
    (paired : Paired start.ppeId start.foeIdx) (apart : ∀ other ∈ before ++ after, Apart start other)
    (live : ∀ o ∈ kept, HoldsLive o hw') : Placed (before ++ (kept.toList ++ after)) hw' := by
  have untouched : ∀ other ∈ before ++ after, Untouched other hw hw' := fun other listed =>
    made.untouched paired (apart other listed) (placed.live other (mem_around listed))
  obtain ⟨env, entry, finish, steps, rfl, keeps⟩ := made
  have touches := touches_steps steps
  have cases : ∀ {other}, other ∈ before ++ (kept.toList ++ after) →
      other ∈ before ++ after ∨ other ∈ kept ∧ other = finish.group := by
    intro other member
    simp only [List.mem_append, Option.mem_toList] at member ⊢
    obtain front | visited | back := member
    · exact .inl (.inl front)
    · exact .inr ⟨visited, keeps other visited⟩
    · exact .inl (.inr back)
  have finishIp : finish.group.ip = group.ip := touches.ip.trans ip
  have away : ∀ other ∈ before ++ after, Apart finish.group other := by
    intro other listed
    obtain ⟨entries, slots⟩ := apart other listed
    refine ⟨fun ppe idx points => entries ppe idx (touches.points ppe idx points), ?_⟩
    intro slot owns held
    exact (spares_steps steps slot (placed.live other (mem_around listed) slot held)
      fun own => slots slot own held).2 owns
  refine ⟨fun other member => ?_, fun other member => ?_, fun a memberA b memberB distinct => ?_⟩
  · obtain old | ⟨_, rfl⟩ := cases member
    · exact placed.mac other (mem_around old)
    · rw [touches.mac, finishIp]
      exact mac.trans (placed.mac group (by simp))
  · obtain old | ⟨visited, rfl⟩ := cases member
    · intro slot owns
      unfold Live
      rw [(untouched other old).2 slot owns]
      exact placed.live other (mem_around old) slot owns
    · exact live _ visited
  · obtain oldA | ⟨_, rfl⟩ := cases memberA <;> obtain oldB | ⟨_, rfl⟩ := cases memberB
    · exact placed.apart a (mem_around oldA) b (mem_around oldB) distinct
    · exact (away a oldA).symm
    · exact away b oldB
    · exact absurd rfl distinct

theorem Placed.visited {s : State} {event : Event} (placed : Placed (before ++ group :: after) hw)
    (distinct : ((before ++ group :: after).map Group.ip).Nodup)
    (paired : Paired group.ppeId group.foeIdx) (visited : Visited plat s event group hw kept hw')
    (other : isBind event = false) : Placed (before ++ (kept.toList ++ after)) hw' := by
  obtain ⟨members, made⟩ := visited_made visited other
  have mac := placed.mac group (by simp)
  refine placed.replace made rfl rfl paired ?_ ?_
  · intro other listed
    exact placed.apart group (by simp) other (mem_around listed) (other_ip distinct listed).symm
  · obtain ⟨env, entry, finish, steps, rfl, keeps⟩ := made
    intro o visited
    rw [keeps o visited]
    exact (touches_steps steps).live mac (placed.live group (by simp))

end

/-! ## A bind -/

def boundGroup (env : Env) (hDest : Mac) (entry : FoeEntry) (s : State) : Option Group :=
  if s.mcastHookToggle && isMulticastEtherAddr hDest &&
      !hnatMcastChkBlist s.mcastBlistList entry then
    (foeGroupIp entry).bind fun ip =>
      (s.groups.find? fun group => group.ip == ip).filter fun group =>
        group.offload && !hnatMcastNoNpuTeardown env group
  else none

def commitsAlone (hDest : Mac) (ppe foeIdx : Nat) (entry : FoeEntry) (locked : Bool) (s : State) :
    Bool :=
  !(s.mcastHookToggle && (hnatMcastChkBlist s.mcastBlistList entry || isMulticastEtherAddr hDest)) &&
    locked && stateOf (s.hw.foeTable ppe foeIdx) == UNBIND

section

variable (plat : Platform) (env : Env) (hDest : Mac) (ppe foeIdx : Nat) (entry : FoeEntry)
  (ifindex : Nat) (locked : Bool) (s : State)

inductive PacketStep : State → Prop where
  | refused : PacketStep s
  | alone (commits : commitsAlone hDest ppe foeIdx entry locked s = true) :
      PacketStep { s with
        hw := s.hw.writeFoe ppe foeIdx (hnatFoeEntryCommit env.foeTimestamp entry BIND) }
  | bound {before after : List Group} {group : Group} (split : s.groups = before ++ group :: after)
      (reached : group ∈ boundGroup env hDest entry s) (written : Option FoeEntry)
      (commits : ∀ committed ∈ written,
        (hnatMcastFoeBindGroup plat env ppe foeIdx ifindex ⟨group, s.hw, entry⟩).1 = 0 ∧
          locked = true ∧ committed = hnatFoeEntryCommit env.foeTimestamp
            (hnatMcastFoeBindGroup plat env ppe foeIdx ifindex ⟨group, s.hw, entry⟩).2.entry BIND ∧
          stateOf ((hnatMcastFoeBindGroup plat env ppe foeIdx ifindex
            ⟨group, s.hw, entry⟩).2.hw.foeTable ppe foeIdx) = UNBIND) :
      PacketStep { s with
        groups := before ++
          (hnatMcastFoeBindGroup plat env ppe foeIdx ifindex ⟨group, s.hw, entry⟩).2.group :: after
        hw := written.elim
          (hnatMcastFoeBindGroup plat env ppe foeIdx ifindex ⟨group, s.hw, entry⟩).2.hw
          ((hnatMcastFoeBindGroup plat env ppe foeIdx ifindex
            ⟨group, s.hw, entry⟩).2.hw.writeFoe ppe foeIdx) }

variable {group : Group}

theorem refused_foeBindGroup {ip : GroupIp} (enabled : s.mcastHookToggle = true)
    (multicast : isMulticastEtherAddr hDest = true)
    (allowed : hnatMcastChkBlist s.mcastBlistList entry = false) (flow : foeGroupIp entry = some ip)
    (found : (s.groups.find? fun group => group.ip == ip) = some group)
    (unreached : group ∉ boundGroup env hDest entry s) :
    hnatMcastFoeBindGroup plat env ppe foeIdx ifindex ⟨group, s.hw, entry⟩ =
      (-1, ⟨group, s.hw, entry⟩) := by
  unfold boundGroup at unreached
  simp only [enabled, multicast, allowed, flow, found, Bool.not_false, Bool.and_true, if_true,
    Option.bind_some, Option.mem_def, Option.filter_eq_some_iff, true_and] at unreached
  unfold hnatMcastFoeBindGroup
  cases offloaded : group.offload with
  | false => simp
  | true =>
    simp only [offloaded, Bool.true_and, Bool.not_eq_true', Bool.not_eq_false] at unreached
    simp [unreached]

theorem packetStep_commitPacket :
    PacketStep plat env hDest ppe foeIdx entry ifindex locked s
      (commitPacket plat env hDest ppe foeIdx entry ifindex locked s) := by
  unfold commitPacket
  split
  · exact .refused
  next passed =>
    split
    next multicast =>
      simp only [Bool.and_eq_true] at multicast
      have allowed : hnatMcastChkBlist s.mcastBlistList entry = false := by
        simpa [multicast.1] using passed
      unfold hnatMcastFoeBindHandle
      split
      · exact .refused
      next ip flow =>
        split
        · exact .refused
        next groups ret bound hw visited =>
          obtain ⟨before, group, after, whole, found, rfl, result⟩ := visitFirst_some visited
          obtain ⟨rfl, rfl, rfl⟩ := by simpa only [bindGroup, Prod.mk.injEq] using result
          by_cases reached : group ∈ boundGroup env hDest entry s
          · unfold commitBound
            dsimp only
            split
            · exact .bound whole reached none (by simp)
            next done =>
              split
              · exact .bound whole reached none (by simp)
              next unbound =>
                simp only [Bool.or_eq_true, Bool.not_eq_true', bne_iff_ne, ne_eq, not_or,
                  Bool.not_eq_false, not_not] at unbound
                refine .bound whole reached (some _) ?_
                intro committed member
                obtain rfl := Option.some.inj member
                exact ⟨not_not.mp done, unbound.1, rfl, unbound.2⟩
          · have refused := refused_foeBindGroup plat env hDest ppe foeIdx entry ifindex s
              multicast.1 multicast.2 allowed flow found reached
            simp only [bindGroup, refused]
            have same : before ++ ((some group).toList ++ after) = s.groups := by simp [whole]
            unfold commitBound
            dsimp only
            rw [same, if_pos (by decide)]
            exact .refused
    next unicast =>
      unfold commitBound
      dsimp only
      split
      · exact .refused
      · split
        · exact .refused
        next unbound =>
          refine .alone ?_
          simp only [Bool.or_eq_true, Bool.not_eq_true', bne_iff_ne, ne_eq, not_or,
            Bool.not_eq_false, not_not] at unbound
          unfold commitsAlone
          revert passed unicast
          cases s.mcastHookToggle <;> simp [unbound]
          intro allowed unicast
          simp [allowed, unicast]

theorem boundGroup_facts (reached : group ∈ boundGroup env hDest entry s) :
    s.mcastHookToggle = true ∧ foeGroupIp entry = some group.ip ∧ group ∈ s.groups ∧
      group.offload = true ∧ hnatMcastNoNpuTeardown env group = false := by
  unfold boundGroup at reached
  split at reached
  next multicast =>
    simp only [Bool.and_eq_true] at multicast
    obtain ⟨ip, flow, filtered⟩ := Option.bind_eq_some_iff.mp reached
    obtain ⟨found, passed⟩ := Option.filter_eq_some_iff.mp filtered
    simp only [Bool.and_eq_true, Bool.not_eq_true'] at passed
    have address : group.ip = ip := by simpa using List.find?_some found
    exact ⟨multicast.1.1, address ▸ flow, List.mem_of_find?_eq_some found, passed.1, passed.2⟩
  · cases reached

end

abbrev egressOf (env : Env) (group : Group) : PseBmp :=
  (hnatMcastGetPseTxBmp env.devs group.members).pseBmp

section

variable (plat : Platform) {env : Env} {ppe foeIdx : Nat} (ifindex : Nat) {c : Ctx}

theorem foeBindGroup_eq (offloaded : c.group.offload = true)
    (kept : hnatMcastNoNpuTeardown env c.group = false) (busy : egressOf env c.group ≠ 0) :
    (hnatMcastFoeBindGroup plat env ppe foeIdx ifindex c).2 =
      (hnatMcastHwUpdate plat env (hnatMcastGetPseTxBmp env.devs c.group.members) RTM_NEWMDB ifindex
        .entry { c with group := Group.bindTo c.group ppe foeIdx c.entry }).2 := by
  have members := (bindTo_facts c.group ppe foeIdx c.entry).2.2.1
  unfold hnatMcastFoeBindGroup
  simp only [offloaded, kept, Bool.not_true, Bool.false_eq_true, if_false, members]
  rw [if_pos busy]
  split
  · rfl
  · split <;> rfl

theorem bound_settled (mac : c.group.mac = hnatMcastGetMacFromMdb c.group.ip)
    (offloaded : c.group.offload = true) (kept : hnatMcastNoNpuTeardown env c.group = false)
    (busy : egressOf env c.group ≠ 0) :
    (hnatMcastFoeBindGroup plat env ppe foeIdx ifindex c).2.group.ppeId = none ∨
      Settled (sendsToNpu env) (egressOf env c.group) ppe .entry
        (hnatMcastFoeBindGroup plat env ppe foeIdx ifindex c).2 := by
  obtain ⟨sameMac, sameIp, _, _, bound, _⟩ := bindTo_facts c.group ppe foeIdx c.entry
  rw [foeBindGroup_eq plat ifindex offloaded kept busy]
  refine settled_hwUpdate plat env _ RTM_NEWMDB ifindex busy (pseTxBmp_not_pdma _ _) ?_ bound
  dsimp only
  rw [sameMac, sameIp]
  exact mac

theorem slotFor_ne_empty (ip : GroupIp) (bmp : PseBmp) :
    slotFor (hnatMcastGetMacFromMdb ip) bmp ≠ McastSlot.empty := by
  have written := setHnatMtbl_same ip bmp (fun _ _ => McastSlot.empty) 0 0
  rwa [setHnatMtbl_eq, SlotTable.write_same] at written

theorem live_of_settled {toNpu : Bool} {bmp : PseBmp} {ptr : FoePtr} {ppe : Nat} {c : Ctx}
    (settled : Settled toNpu bmp ppe ptr c) (mac : c.group.mac = hnatMcastGetMacFromMdb c.group.ip)
    (bound : ∀ p, c.group.ppeId = some p → p = ppe) : HoldsLive c.group c.hw := by
  rintro ⟨p, i⟩ ⟨owner, slotted⟩
  obtain rfl := bound p owner
  have slot := settled.slot
  unfold SlotFor at slot
  split at slot
  · simp [slot] at slotted
  · obtain ⟨index, held, written⟩ := slot
    obtain rfl : i = index := Option.some.inj (slotted.symm.trans held)
    unfold Live
    rw [written, mac]
    exact slotFor_ne_empty c.group.ip _

end

/-! ## The invariant -/

/-- The bind is for a group that has ports, and gives it no entry and no slot of
another group. -/
def BindsApart (s : State) : Event → Prop
  | .bind env hDest ppe foeIdx entry _ _ =>
    ∀ group ∈ boundGroup env hDest entry s, egressOf env group ≠ 0 ∧
      ∀ other ∈ s.groups, other.ip ≠ group.ip →
        ¬ Points other ppe foeIdx ∧ ∀ index ∈ group.mtblIdx, ¬ Owns other (ppe, index)
  | _ => True

instance (group : Group) (slot : Nat × Nat) : Decidable (Owns group slot) :=
  inferInstanceAs (Decidable (_ ∧ _))

instance (s : State) : (event : Event) → Decidable (BindsApart s event)
  | .bind .. => by unfold BindsApart; infer_instance
  | .mdb .. | .goingDown .. | .blist .. | .blistWrite .. | .offload ..
  | .pathSwitch .. | .warmInit .. | .foeWrite .. => .isTrue trivial

theorem Placed.bound {hDest : Mac} {foeIdx : Nat} {entry : FoeEntry} {ifindex : Nat} {locked : Bool}
    {before after : List Group} {group : Group} (placed : Placed s.groups s.hw) (plat : Platform)
    (list : GroupList.Inv s.groups s.hw)
    (apart : BindsApart s (.bind env hDest ppe foeIdx entry ifindex locked))
    (split : s.groups = before ++ group :: after) (reached : group ∈ boundGroup env hDest entry s) :
    let c := (hnatMcastFoeBindGroup plat env ppe foeIdx ifindex ⟨group, s.hw, entry⟩).2
    Placed (before ++ c.group :: after) c.hw ∧
      ∀ other ∈ before ++ after, Untouched other s.hw c.hw := by
  intro c
  obtain ⟨_, _, listed, offloaded, kept⟩ := boundGroup_facts env hDest entry s reached
  obtain ⟨busy, alone⟩ := apart group reached
  obtain ⟨mac, ip, members, mtblIdx, bound, indexed⟩ := bindTo_facts group ppe foeIdx entry
  have derived := placed.mac group listed
  have own : PointsTo (Group.bindTo group ppe foeIdx entry) .entry := trivial
  have steps : Steps plat env ⟨Group.bindTo group ppe foeIdx entry, s.hw, entry⟩ c := by
    have eq : c = _ := @foeBindGroup_eq plat env ppe foeIdx ifindex ⟨group, s.hw, entry⟩ offloaded
      kept busy
    rw [eq]
    exact steps_hwUpdate plat env _ RTM_NEWMDB ifindex own
  have made : MadeOf plat (Group.bindTo group ppe foeIdx entry) s.hw (some c.group) c.hw :=
    ⟨env, entry, c, steps, rfl, by simp⟩
  have paired : Paired (Group.bindTo group ppe foeIdx entry).ppeId
      (Group.bindTo group ppe foeIdx entry).foeIdx := by simp [Paired, bound, indexed]
  have touches := touches_steps steps
  have away : ∀ other ∈ before ++ after, Apart (Group.bindTo group ppe foeIdx entry) other := by
    intro other around
    obtain ⟨noEntry, noSlot⟩ := alone other (split ▸ mem_around around)
      (other_ip (split ▸ list.distinct) around)
    refine ⟨?_, ?_⟩
    · rintro p i ⟨ofPpe, ofIdx⟩ points
      obtain rfl : ppe = p := Option.some.inj (bound.symm.trans ofPpe)
      obtain rfl : foeIdx = i := Option.some.inj (indexed.symm.trans ofIdx)
      exact noEntry points
    · rintro ⟨p, i⟩ ⟨ofPpe, ofSlot⟩ owns
      obtain rfl : ppe = p := Option.some.inj (bound.symm.trans ofPpe)
      exact noSlot i (mtblIdx.symm.trans ofSlot) owns
  refine ⟨?_, fun other around => made.untouched paired (away other around)
    (placed.live other (split ▸ mem_around around))⟩
  refine (split ▸ placed).replace made mac ip paired away ?_
  intro o member
  obtain rfl := Option.some.inj member
  obtain unbound | settled := @bound_settled plat env ppe foeIdx ifindex ⟨group, s.hw, entry⟩ derived
    offloaded kept busy
  · rintro slot ⟨owner, _⟩
    rw [unbound] at owner
    cases owner
  · refine live_of_settled settled ?_ ?_
    · rw [touches.mac, touches.ip]
      dsimp only
      rw [mac, ip]
      exact derived
    · intro p owner
      obtain ⟨index, pointed⟩ : ∃ index, c.group.foeIdx = some index := by
        have both := touches.paired paired
        unfold Paired at both
        exact Option.ne_none_iff_exists'.mp fun none => by simp [both.mpr none] at owner
      exact Option.some.inj ((touches.points p index ⟨owner, pointed⟩).1.symm.trans bound)

structure Inv (s : State) : Prop where
  list : GroupList.Inv s.groups s.hw
  placed : Placed s.groups s.hw
  /-- No group is bound while the offload is switched off. -/
  off : s.mcastHookToggle = false → ∀ group ∈ s.groups, ∀ ppe idx, ¬ Points group ppe idx

theorem inv_init : Inv State.init where
  list := GroupList.inv_init
  placed := ⟨by simp [State.init], by simp [State.init], by simp [State.init]⟩
  off := by simp [State.init]

theorem Placed.enter {groups : List Group} {hw : Hw} (placed : Placed groups hw) (ip : GroupIp) :
    Placed (groups ++ [createdGroup ip]) hw := by
  have pointless : ∀ ppe idx, ¬ Points (createdGroup ip) ppe idx := by
    rintro ppe idx ⟨bound, _⟩
    cases bound
  have slotless : ∀ slot, ¬ Owns (createdGroup ip) slot := not_owns_of_none rfl
  have apart : ∀ other, Apart (createdGroup ip) other := fun other =>
    ⟨fun ppe idx points => absurd points (pointless ppe idx),
      fun slot owns => absurd owns (slotless slot)⟩
  refine ⟨?_, ?_, ?_⟩
  · intro group listed
    obtain old | new := List.mem_append.mp listed
    · exact placed.mac group old
    · obtain rfl := List.mem_singleton.mp new
      rfl
  · intro group listed
    obtain old | new := List.mem_append.mp listed
    · exact placed.live group old
    · obtain rfl := List.mem_singleton.mp new
      exact fun slot owns => absurd owns (slotless slot)
  · intro a listedA b listedB distinct
    obtain oldA | newA := List.mem_append.mp listedA
    · obtain oldB | newB := List.mem_append.mp listedB
      · exact placed.apart a oldA b oldB distinct
      · obtain rfl := List.mem_singleton.mp newB
        exact (apart a).symm
    · obtain rfl := List.mem_singleton.mp newA
      exact apart b

theorem entered_list (list : GroupList.Inv s.groups s.hw) {ip : GroupIp}
    (unknown : s.groups.find? (fun group => group.ip == ip) = none) :
    (s.groups ++ [createdGroup ip]).map Group.ip |>.Nodup := by
  rw [List.map_append, List.nodup_append]
  refine ⟨list.distinct, by simp, ?_⟩
  intro known member address new same
  obtain ⟨group, old, rfl⟩ := List.mem_map.mp member
  have other := List.find?_eq_none.mp unknown group old
  have own : address = ip := by simpa [createdGroup, hnatMcastCreateGroup] using new
  simp [same, own] at other

section

variable {plat : Platform} {s : State} {event : Event}

theorem points_visited {group : Group} {hw hw' : Hw} {kept : Option Group}
    (visited : Visited plat s event group hw kept hw') (other : isBind event = false) :
    ∀ o ∈ kept, ∀ ppe idx, Points o ppe idx → Points group ppe idx := by
  obtain ⟨members, env, entry, finish, steps, _, keeps⟩ := visited_made visited other
  intro o member ppe idx points
  rw [keeps o member] at points
  exact (touches_steps steps).points ppe idx points

theorem placed_step (inv : Inv s) (other : isBind event = false)
    (cold : ∀ ppeReset, event ≠ .warmInit ppeReset) :
    Placed (step plat s event).groups (step plat s event).hw ∧
      (s.mcastHookToggle = false →
        ∀ group ∈ (step plat s event).groups, ∀ ppe idx, ¬ Points group ppe idx) := by
  have both : GroupList.Inv (step plat s event).groups (step plat s event).hw ∧
      Placed (step plat s event).groups (step plat s event).hw ∧
      (s.mcastHookToggle = false →
        ∀ group ∈ (step plat s event).groups, ∀ ppe idx, ¬ Points group ppe idx) := by
    refine @step_preserves plat s event (fun groups hw => GroupList.Inv groups hw ∧
      Placed groups hw ∧ (s.mcastHookToggle = false → ∀ group ∈ groups, ∀ ppe idx,
        ¬ Points group ppe idx)) ⟨inv.list, inv.placed, inv.off⟩ ?_ ?_ ?_ cold
    · intro ip kept hw' unknown visited
      refine ⟨inv.list.enter unknown (GroupList.leaves_visited inv.list visited), ?_, ?_⟩
      · have entered := (inv.placed.enter ip).visited (entered_list inv.list unknown) Iff.rfl visited
          other
        simpa using entered
      · intro off group member ppe idx points
        simp only [List.mem_append, Option.mem_toList] at member
        obtain old | new := member
        · exact inv.off off group old ppe idx points
        · obtain ⟨bound, _⟩ := points_visited visited other group new ppe idx points
          cases bound
    · rintro before group after hw kept hw' visited ⟨list, placed, off⟩
      refine ⟨list.replace (GroupList.leaves_visited inv.list visited), ?_, ?_⟩
      · exact placed.visited list.distinct (list.listed group (by simp)).paired visited other
      · intro disabled o member ppe idx points
        simp only [List.mem_append, Option.mem_toList] at member
        obtain front | new | back := member
        · exact off disabled o (by simp [front]) ppe idx points
        · exact off disabled group (by simp) ppe idx
            (points_visited visited other o new ppe idx points)
        · exact off disabled o (by simp [back]) ppe idx points
    · rintro groups hw ppe idx entry _ ⟨list, placed, off⟩
      exact ⟨⟨list.listed, list.distinct, list.noFlush⟩, ⟨placed.mac, placed.live, placed.apart⟩, off⟩
  exact both.2

theorem off_offload (env : Env) :
    ∀ group ∈ (step plat s (.offload env false)).groups, ∀ ppe idx, ¬ Points group ppe idx := by
  rintro group listed ppe idx ⟨bound, indexed⟩
  obtain ⟨old, member, hw, rfl⟩ := mem_visitAll listed
  unfold onGroup hnatMcastGroupHandle at bound indexed
  dsimp only at bound indexed
  split at bound
  next none =>
    simp only [none] at indexed
    have owner : old.ppeId = some ppe := bound
    simp [hnatMcastGetHwFoe, owner, indexed] at none
  next ptr found =>
    simp only [Bool.false_eq_true, if_false] at bound
    rw [(called_npuDeleteStations env _ _ false _).quiet.ppeId] at bound
    cases bound

theorem inv_warmInit (ppeReset : Bool) (inv : Inv s) : Inv (hnatWarmInit plat ppeReset s) where
  list := GroupList.inv_warmInit plat ppeReset inv.list
  placed := by
    have unbound : ∀ group ∈ (hnatWarmInit plat ppeReset s).groups, group.ppeId = none := by
      intro group member
      obtain ⟨old, listed, rfl⟩ := List.mem_map.mp member
      rfl
    refine ⟨?_, ?_, ?_⟩
    · intro group member
      obtain ⟨old, listed, rfl⟩ := List.mem_map.mp member
      exact inv.placed.mac old listed
    · rintro group member slot ⟨owner, _⟩
      rw [unbound group member] at owner
      cases owner
    · intro a memberA b _ _
      refine ⟨fun ppe idx points => ?_, fun slot owns => ?_⟩
      · have owner := points.1
        rw [unbound a memberA] at owner
        cases owner
      · have owner := owns.1
        rw [unbound a memberA] at owner
        cases owner
  off := by
    rintro _ group member ppe idx ⟨bound, _⟩
    obtain ⟨old, listed, rfl⟩ := List.mem_map.mp member
    cases bound

theorem inv_step (inv : Inv s) (apart : BindsApart s event) : Inv (step plat s event) := by
  have list := GroupList.inv_step plat s event inv.list
  cases event with
  | bind env hDest ppe foeIdx entry ifindex locked =>
    have packet := packetStep_commitPacket plat env hDest ppe foeIdx entry ifindex locked s
    revert list
    change _ → Inv (commitPacket plat env hDest ppe foeIdx entry ifindex locked s)
    change GroupList.Inv (commitPacket plat env hDest ppe foeIdx entry ifindex locked s).groups
      (commitPacket plat env hDest ppe foeIdx entry ifindex locked s).hw → _
    generalize commitPacket plat env hDest ppe foeIdx entry ifindex locked s = s' at packet ⊢
    intro list
    cases packet with
    | refused => exact inv
    | alone commits =>
      exact ⟨list, ⟨inv.placed.mac, inv.placed.live, inv.placed.apart⟩, inv.off⟩
    | bound split reached written commits =>
      obtain ⟨placed, _⟩ := inv.placed.bound plat inv.list apart split reached
      have enabled := (boundGroup_facts env hDest entry s reached).1
      refine ⟨list, ?_, fun off => ?_⟩
      · cases written with
        | none => exact placed
        | some committed => exact ⟨placed.mac, placed.live, placed.apart⟩
      · rw [enabled] at off
        cases off
  | warmInit ppeReset => exact inv_warmInit ppeReset inv
  | offload env enable =>
    obtain ⟨placed, off⟩ := @placed_step plat s (.offload env enable) inv rfl (by simp)
    refine ⟨list, placed, fun disabled => ?_⟩
    rw [SlotOwnership.step_toggle] at disabled
    obtain rfl : enable = false := disabled
    exact off_offload env
  | mdb env type entry groupAlloc memberAlloc =>
    obtain ⟨placed, off⟩ := @placed_step plat s (.mdb env type entry groupAlloc memberAlloc) inv rfl
      (by simp)
    exact ⟨list, placed, fun disabled => off (by rwa [SlotOwnership.step_toggle] at disabled)⟩
  | goingDown env ifindex =>
    obtain ⟨placed, off⟩ := @placed_step plat s (.goingDown env ifindex) inv rfl (by simp)
    exact ⟨list, placed, fun disabled => off (by rwa [SlotOwnership.step_toggle] at disabled)⟩
  | blist env ip mask add kzalloc =>
    obtain ⟨placed, off⟩ := @placed_step plat s (.blist env ip mask add kzalloc) inv rfl (by simp)
    exact ⟨list, placed, fun disabled => off (by rwa [SlotOwnership.step_toggle] at disabled)⟩
  | blistWrite command kzalloc => exact ⟨list, inv.placed, inv.off⟩
  | pathSwitch env groupIdx hwPath wifiIp =>
    obtain ⟨placed, off⟩ := @placed_step plat s (.pathSwitch env groupIdx hwPath wifiIp) inv rfl
      (by simp)
    exact ⟨list, placed, fun disabled => off (by rwa [SlotOwnership.step_toggle] at disabled)⟩
  | foeWrite ppe idx foe =>
    exact ⟨list, ⟨inv.placed.mac, inv.placed.live, inv.placed.apart⟩, inv.off⟩

end

end OpenwrtSource.Hnat.McastPlaces
