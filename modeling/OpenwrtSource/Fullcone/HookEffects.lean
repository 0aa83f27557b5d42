import OpenwrtSource.Fullcone.Hooks

/-!
# What a call can do

One specification per stage of the hooks, and from them what a whole call does:
it keeps the tables well formed, carries the mappings over and creates at most
one (`Creates`), leaves the mappings it does not consult alone, and spares the
live ones it consults.
-/

namespace OpenwrtSource.Fullcone.HookEffects

open Lib.Index Fullcone.Tuple Fullcone.L3Family Fullcone.Mapping Fullcone.TableEffects
open Fullcone.PortSearch Fullcone.Hooks

variable {A : Type} [DecidableEq A] {k : Kernel}

variable {k : Kernel} {fam : Family A} {t : Tables A}

theorem sourceMapping_some {packet : PostroutingPacket A} {minAddr maxAddr : A} {id : Nat}
    (looked : sourceMapping k fam packet minAddr maxAddr t = some id) :
    ∃ mapping, t.heap id = some mapping ∧ mapping.intAddr = packet.intAddr fam ∧
      mapping.intPort = packet.intPort ∧ (minAddr = maxAddr → mapping.addr = minAddr) := by
  unfold sourceMapping at looked
  split at looked
  · rename_i pool
    obtain ⟨mapping, found, passed⟩ := lookup_some looked
    simp only [Bool.and_eq_true, decide_eq_true_eq] at passed
    exact ⟨mapping, found, passed.1.1.1, passed.1.1.2, fun same => absurd same pool⟩
  · obtain ⟨mapping, found, passed⟩ := lookup_some looked
    simp only [Bool.and_eq_true, decide_eq_true_eq] at passed
    exact ⟨mapping, found, passed.1.1, passed.1.2, fun _ => passed.2⟩

def checkedTables (find : CtTuple → Bool) (srcMapping : Option Nat) (t : Tables A) : Tables A :=
  match srcMapping with
  | none => t
  | some id => (checkMapping find id t).2

omit [DecidableEq A] in
theorem checkedTables_effects (wf : WellFormed k fam t) (find : CtTuple → Bool)
    (srcMapping : Option Nat) :
    WellFormed k fam (checkedTables find srcMapping t) ∧
      Shrinks t (checkedTables find srcMapping t) ∧
      Spares find t (checkedTables find srcMapping t) := by
  cases srcMapping with
  | none => exact ⟨wf, Shrinks.refl t, Spares.refl find t⟩
  | some id =>
    have spec := pruneMapping_spec wf find id
    exact ⟨spec.wellFormed, spec.shrinks,
      pruneMapping_spares wf find find id fun _ _ _ _ live => live⟩

theorem selectMapping_reused (wf : WellFormed k fam t) (find : CtTuple → Bool)
    (packet : PostroutingPacket A) (minAddr maxAddr : A) (id : Nat) (mapping : NatMapping A)
    (looked : sourceMapping k fam packet minAddr maxAddr t = some id)
    (found : t.heap id = some mapping) (active : mapping.originalTupleList.any find = true) :
    selectMapping k fam find packet minAddr maxAddr t =
      ⟨singleRange mapping.addr mapping.port, some id, (checkMapping find id t).2⟩ ∧
      (checkMapping find id t).2.heap id = some (pruned find mapping) := by
  have spec := pruneMapping_spec wf find id
  have usable : (checkMapping find id t).1 = true := (spec.active mapping found).trans active
  obtain ⟨before, beforeFound, after⟩ := spec.usable usable
  rw [found, Option.some.injEq] at beforeFound
  subst before
  have address : (if minAddr ≠ maxAddr then mapping.addr else minAddr) = mapping.addr := by
    obtain ⟨candidate, candidateFound, -, -, single⟩ := sourceMapping_some looked
    rw [found, Option.some.injEq] at candidateFound
    subst candidate
    split
    · rfl
    · rename_i same
      exact (single (not_not.mp same)).symm
  refine ⟨?_, after⟩
  have reread : (checkMapping find id t).2.heap id = some (pruned find mapping) := after
  simp only [selectMapping, looked, usable, Option.bind_some, reread]
  simp only [pruned, address]

theorem selectMapping_created (wf : WellFormed k fam t) (find : CtTuple → Bool)
    (packet : PostroutingPacket A) (minAddr maxAddr : A)
    (inactive : ¬ SourceActive k fam find packet minAddr maxAddr t) :
    selectMapping k fam find packet minAddr maxAddr t =
      let addr := chosenAddress k fam packet minAddr maxAddr
      let searched := findAppropriatePort k find packet.random packet.intPort addr packet.range
        (checkedTables find (sourceMapping k fam packet minAddr maxAddr t) t)
      ⟨singleRange addr searched.1, none, searched.2⟩ := by
  cases looked : sourceMapping k fam packet minAddr maxAddr t with
  | none => simp only [selectMapping, looked, checkedTables]
  | some id =>
    obtain ⟨mapping, found, -⟩ := sourceMapping_some looked
    have spec := pruneMapping_spec wf find id
    have unusable : (checkMapping find id t).1 = false := by
      rw [checkMapping, spec.active mapping found]
      by_contra live
      exact inactive ⟨id, mapping, looked, found, by simpa using live⟩
    simp only [selectMapping, looked, unusable, checkedTables]

/-- All that the selection of a mapping does to the tables. -/
structure SelectSpec (k : Kernel) (fam : Family A) (find : CtTuple → Bool)
    (packet : PostroutingPacket A) (minAddr maxAddr : A) (t : Tables A)
    (selected : Selection A) : Prop where
  wellFormed : WellFormed k fam selected.tables
  shrinks : Shrinks t selected.tables
  frame : ∀ id mapping, t.heap id = some mapping →
    sourceMapping k fam packet minAddr maxAddr t ≠ some id →
      SourceActive k fam find packet minAddr maxAddr t ∨
        ¬ Tries find packet.random packet.intPort
          (chosenAddress k fam packet minAddr maxAddr) packet.range t mapping.port →
      selected.tables.heap id = some mapping
  spares : ∀ id tuple, find tuple = true →
    (∀ mapping, t.heap id = some mapping →
      SourceActive k fam find packet minAddr maxAddr t ∨
        ¬ SearchOverrides find packet.random packet.intPort
          (chosenAddress k fam packet minAddr maxAddr) packet.range t mapping.endpoints) →
      Retains id tuple t selected.tables
  single : ∃ addr port, selected.newrange = singleRange addr port
  reused : ∀ id, selected.srcMapping = some id → ∃ mapping, t.heap id = some mapping ∧
    sourceMapping k fam packet minAddr maxAddr t = some id ∧
    mapping.originalTupleList.any find = true ∧
    selected.newrange = singleRange mapping.addr mapping.port ∧
    selected.tables.heap id = some (pruned find mapping)
  created : selected.srcMapping = none →
    ¬ SourceActive k fam find packet minAddr maxAddr t ∧
    (∀ id, sourceMapping k fam packet minAddr maxAddr t = some id →
      selected.tables.heap id = none) ∧
    ∃ port, selected.newrange =
        singleRange (chosenAddress k fam packet minAddr maxAddr) port ∧
      (ExternalUnique t → ∀ id mapping, selected.tables.heap id = some mapping →
        ¬ (mapping.port = port ∧
          mapping.addr = chosenAddress k fam packet minAddr maxAddr))

omit [DecidableEq A] in
theorem checkedTables_frame (wf : WellFormed k fam t) (find : CtTuple → Bool)
    (srcMapping : Option Nat) (id : Nat) (other : srcMapping ≠ some id) :
    (checkedTables find srcMapping t).heap id = t.heap id := by
  cases srcMapping with
  | none => rfl
  | some checked =>
    exact (pruneMapping_spec wf find checked).frame id fun same => other (by rw [same])

theorem checkedTables_stale (wf : WellFormed k fam t) (find : CtTuple → Bool)
    (packet : PostroutingPacket A) (minAddr maxAddr : A)
    (inactive : ¬ SourceActive k fam find packet minAddr maxAddr t) (id : Nat)
    (looked : sourceMapping k fam packet minAddr maxAddr t = some id) :
    (checkedTables find (sourceMapping k fam packet minAddr maxAddr t) t).heap id = none := by
  obtain ⟨mapping, found, -⟩ := sourceMapping_some looked
  have spec := pruneMapping_spec wf find id
  have unusable : (pruneMapping find id t).1 = false := by
    rw [spec.active mapping found]
    by_contra active
    exact inactive ⟨id, mapping, looked, found, by simpa using active⟩
  rw [looked]
  exact spec.killed unusable

theorem selectMapping_spec (wf : WellFormed k fam t) (find : CtTuple → Bool)
    (packet : PostroutingPacket A) (minAddr maxAddr : A) :
    SelectSpec k fam find packet minAddr maxAddr t
      (selectMapping k fam find packet minAddr maxAddr t) := by
  obtain ⟨wellFormed, shrinks, spares⟩ := checkedTables_effects wf find
    (sourceMapping k fam packet minAddr maxAddr t)
  by_cases live : SourceActive k fam find packet minAddr maxAddr t
  · obtain ⟨id, mapping, looked, found, active⟩ := live
    obtain ⟨selected, after⟩ :=
      selectMapping_reused wf find packet minAddr maxAddr id mapping looked found active
    rw [selected]
    rw [looked] at wellFormed shrinks spares
    refine ⟨wellFormed, shrinks, ?_, fun other tuple live _ => spares.keeps other tuple live,
      ⟨_, _, rfl⟩, ?_,
      fun created => nomatch created⟩
    · intro other candidate candidateFound notLooked _
      rw [looked] at notLooked
      exact (checkedTables_frame wf find (some id) other notLooked).trans candidateFound
    · intro reusedId reused
      cases reused
      exact ⟨mapping, found, looked, active, rfl, after⟩
  · have searched := findAppropriatePort_spec wellFormed find packet.random packet.intPort
      (chosenAddress k fam packet minAddr maxAddr) packet.range
    rw [selectMapping_created wf find packet minAddr maxAddr live]
    refine ⟨searched.wellFormed, shrinks.trans searched.shrinks, ?_, ?_, ⟨_, _, rfl⟩,
      (fun _ reused => nomatch reused), fun _ => ⟨live, ?_, _, rfl, ?_⟩⟩
    · intro id mapping found notLooked untouched
      have untried := untouched.resolve_left live
      exact searched.frame id mapping
        ((checkedTables_frame wf find _ id notLooked).trans found)
        (fun tries => untried (tries.of_shrinks shrinks))
    · intro id tuple tupleLive notOverridden
      refine (spares.keeps id tuple tupleLive).trans (searched.spares id tuple tupleLive ?_)
      intro left leftFound overridden
      obtain ⟨mapping, mappingFound, key, -⟩ := shrinks.survivor id left leftFound
      rw [key] at overridden
      exact (notOverridden mapping mappingFound).resolve_left live (overridden.of_shrinks shrinks)
    · intro id looked
      exact searched.shrinks.absent
        (checkedTables_stale wf find packet minAddr maxAddr live id looked)
    · exact fun unique => searched.free (UniqueBy.of_carries unique shrinks.carries)

omit [DecidableEq A] in
theorem saveMapping_wellFormed (wf : WellFormed k fam t) (packet : PostroutingPacket A)
    (srcMapping : Option Nat) (reply : CtTuple) :
    WellFormed k fam (saveMapping k fam packet srcMapping reply t) := by
  cases srcMapping with
  | some id => exact wf.addTuple _ id _
  | none =>
    have allocated := wf.allocate packet.kmallocMapping (packet.intAddr fam) packet.intPort
      (be16ToCpu reply.dstPort) (fam.u3 reply.dstU3)
    simp only [saveMapping]
    split
    · exact allocated
    · exact allocated.addTuple _ _ _

omit [DecidableEq A] in
theorem saveMapping_endpoints (k : Kernel) (fam : Family A) (packet : PostroutingPacket A)
    (srcMapping : Option Nat) (reply : CtTuple) (t : Tables A) (id : Nat) :
    ((saveMapping k fam packet srcMapping reply t).heap id).map NatMapping.endpoints =
      if srcMapping = none ∧ packet.kmallocMapping = true ∧ id = t.fresh then
        some ⟨fam.u3 reply.dstU3, be16ToCpu reply.dstPort, packet.intAddr fam, packet.intPort⟩
      else (t.heap id).map NatMapping.endpoints := by
  cases srcMapping with
  | some target => simp [saveMapping, addTuple_endpoints]
  | none =>
    cases kmalloc : packet.kmallocMapping with
    | false => simp [saveMapping, allocateMapping, kmalloc]
    | true =>
      by_cases same : id = t.fresh
      · simp only [saveMapping, allocateMapping, kmalloc, if_true, addTuple_endpoints]
        simp [same, NatMapping.endpoints]
      · simp [saveMapping, allocateMapping, kmalloc, addTuple_endpoints, same]

omit [DecidableEq A] in
theorem saveMapping_frame (wf : WellFormed k fam t) (packet : PostroutingPacket A)
    (srcMapping : Option Nat) (reply : CtTuple) (id : Nat) (mapping : NatMapping A)
    (found : t.heap id = some mapping) (other : srcMapping ≠ some id) :
    (saveMapping k fam packet srcMapping reply t).heap id = some mapping := by
  cases srcMapping with
  | some target =>
    have differs : ¬ id = target := fun same => other (by rw [same])
    simp [saveMapping, addTuple_heap, found, differs]
  | none =>
    have differs : ¬ id = t.fresh := Nat.ne_of_lt (wf.allocated_lt found)
    cases kmalloc : packet.kmallocMapping with
    | false => simpa [saveMapping, allocateMapping, kmalloc] using found
    | true => simp [saveMapping, allocateMapping, kmalloc, addTuple_heap, found, differs]

omit [DecidableEq A] in
theorem saveMapping_keeps (wf : WellFormed k fam t) (live : CtTuple → Bool)
    (packet : PostroutingPacket A) (srcMapping : Option Nat) (reply : CtTuple) :
    Keeps live t (saveMapping k fam packet srcMapping reply t) := by
  cases srcMapping with
  | some target => exact keeps_addTuple live _ target _ t
  | none =>
    intro id tuple _
    exact retains_of_same tuple fun mapping found =>
      saveMapping_frame wf packet none reply id mapping found (fun h => nomatch h)

theorem prerouting_wellFormed (wf : WellFormed k fam t) (find : CtTuple → Bool)
    (packet : PreroutingPacket A) :
    WellFormed k fam (nfNatHandlePrerouting k fam find packet t).2 := by
  have spec := getMappingByExtPort_spec wf find packet.extPort (packet.extAddr fam)
  unfold nfNatHandlePrerouting
  split
  · exact wf
  · dsimp only
    split
    · exact spec.wellFormed
    · split
      · exact spec.wellFormed
      · split
        · exact spec.wellFormed.addTuple _ _ _
        · exact spec.wellFormed

theorem postrouting_wellFormed (wf : WellFormed k fam t) (find : CtTuple → Bool)
    (packet : PostroutingPacket A) :
    WellFormed k fam (nfNatHandlePostrouting k fam find packet t).2 := by
  unfold nfNatHandlePostrouting
  split
  · exact wf
  · rename_i minAddr maxAddr _
    have spec := selectMapping_spec wf find packet minAddr maxAddr
    split
    · exact wf
    · dsimp only
      split
      · exact spec.wellFormed
      · exact saveMapping_wellFormed spec.wellFormed packet _ _

theorem call_wellFormed (wf : WellFormed k fam t) (find : CtTuple → Bool) (call : Call A) :
    WellFormed k fam (call.exec k fam find t) := by
  cases call with
  | prerouting packet => exact prerouting_wellFormed wf find packet
  | postrouting packet => exact postrouting_wellFormed wf find packet
  | lookup scope port extIp => exact (getMappingByExtPort_spec wf find port extIp).wellFormed

theorem prerouting_frame (wf : WellFormed k fam t) (find : CtTuple → Bool)
    (packet : PreroutingPacket A) (id : Nat) (mapping : NatMapping A)
    (found : t.heap id = some mapping) (unconsulted : ¬ (packet.original.dstProtonum = IPPROTO_UDP ∧
      mapping.port = packet.extPort)) :
    (nfNatHandlePrerouting k fam find packet t).2.heap id = some mapping := by
  have spec := getMappingByExtPort_spec wf find packet.extPort (packet.extAddr fam)
  unfold nfNatHandlePrerouting
  split
  · exact found
  · rename_i udp
    have kept := spec.frame id mapping found fun same => unconsulted ⟨not_not.mp udp, same⟩
    dsimp only
    split
    · exact kept
    · rename_i hit looked
      split
      · exact kept
      · split
        · obtain ⟨candidate, candidateFound, candidatePort, -⟩ := spec.hit hit looked
          have differs : ¬ id = hit := by
            intro same
            subst hit
            rw [found, Option.some.injEq] at candidateFound
            exact unconsulted ⟨not_not.mp udp, by rw [candidateFound, candidatePort]⟩
          simp [addTuple_heap, kept, differs]
        · exact kept

theorem prerouting_keeps (wf : WellFormed k fam t) (find : CtTuple → Bool)
    (packet : PreroutingPacket A) : Keeps find t (nfNatHandlePrerouting k fam find packet t).2 := by
  have spec := getMappingByExtPort_spec wf find packet.extPort (packet.extAddr fam)
  unfold nfNatHandlePrerouting
  split
  · exact Keeps.refl find t
  · dsimp only
    split
    · exact spec.spares.keeps
    · split
      · exact spec.spares.keeps
      · split
        · exact spec.spares.keeps.trans (keeps_addTuple find _ _ _ _)
        · exact spec.spares.keeps

theorem postrouting_frame (wf : WellFormed k fam t) (find : CtTuple → Bool)
    (packet : PostroutingPacket A) (id : Nat) (mapping : NatMapping A)
    (found : t.heap id = some mapping)
    (unconsulted : ¬ (Call.postrouting packet).Consults k fam find t id mapping.endpoints) :
    (nfNatHandlePostrouting k fam find packet t).2.heap id = some mapping := by
  unfold nfNatHandlePostrouting
  split
  · exact found
  · rename_i minAddr maxAddr addresses
    have spec := selectMapping_spec wf find packet minAddr maxAddr
    split
    · exact found
    · rename_i udp
      have notLooked : sourceMapping k fam packet minAddr maxAddr t ≠ some id := fun looked =>
        unconsulted ⟨not_not.mp udp, minAddr, maxAddr, addresses, Or.inl looked⟩
      have untouched : SourceActive k fam find packet minAddr maxAddr t ∨
          ¬ Tries find packet.random packet.intPort
            (chosenAddress k fam packet minAddr maxAddr) packet.range t mapping.port := by
        by_contra touched
        rw [not_or, not_not] at touched
        exact unconsulted ⟨not_not.mp udp, minAddr, maxAddr, addresses, Or.inr touched⟩
      have kept := spec.frame id mapping found notLooked untouched
      dsimp only
      split
      · exact kept
      · refine saveMapping_frame spec.wellFormed packet _ _ id mapping kept fun reused => ?_
        obtain ⟨-, -, looked, -⟩ := spec.reused id reused
        exact notLooked looked

theorem postrouting_retains (wf : WellFormed k fam t) (find : CtTuple → Bool)
    (packet : PostroutingPacket A) (id : Nat) (tuple : CtTuple) (live : find tuple = true)
    (spared : ∀ mapping, t.heap id = some mapping →
      ¬ (Call.postrouting packet).Overrides k fam find t mapping.endpoints) :
    Retains id tuple t (nfNatHandlePostrouting k fam find packet t).2 := by
  unfold nfNatHandlePostrouting
  split
  · exact Retains.refl id tuple t
  · rename_i minAddr maxAddr addresses
    have spec := selectMapping_spec wf find packet minAddr maxAddr
    split
    · exact Retains.refl id tuple t
    · rename_i udp
      have retained := spec.spares id tuple live fun mapping found => by
        by_contra overrides
        rw [not_or, not_not] at overrides
        exact spared mapping found ⟨not_not.mp udp, minAddr, maxAddr, addresses, overrides⟩
      dsimp only
      split
      · exact retained
      · exact retained.trans (saveMapping_keeps spec.wellFormed find packet _ _ id tuple live)

theorem call_frame (wf : WellFormed k fam t) (find : CtTuple → Bool) (call : Call A) (id : Nat)
    (mapping : NatMapping A) (found : t.heap id = some mapping)
    (unconsulted : ¬ call.Consults k fam find t id mapping.endpoints) :
    (call.exec k fam find t).heap id = some mapping := by
  cases call with
  | prerouting packet => exact prerouting_frame wf find packet id mapping found unconsulted
  | postrouting packet => exact postrouting_frame wf find packet id mapping found unconsulted
  | lookup scope port extIp =>
    exact (getMappingByExtPort_spec wf find port extIp).frame id mapping found unconsulted

theorem call_retains (wf : WellFormed k fam t) (find : CtTuple → Bool) (call : Call A) (id : Nat)
    (tuple : CtTuple) (live : find tuple = true) (spared : ∀ mapping, t.heap id = some mapping →
      ¬ call.Overrides k fam find t mapping.endpoints) :
    Retains id tuple t (call.exec k fam find t) := by
  cases call with
  | prerouting packet => exact prerouting_keeps wf find packet id tuple live
  | postrouting packet => exact postrouting_retains wf find packet id tuple live spared
  | lookup scope port extIp =>
    exact (getMappingByExtPort_spec wf find port extIp).spares.keeps id tuple live

/-- A packet makes a new mapping: no live source mapping was found, a port was
searched at the chosen address, and SNAT and `kmalloc` succeeded.  `settled`
are the tables between the search and the allocation. -/
structure Creates (k : Kernel) (fam : Family A) (find : CtTuple → Bool)
    (packet : PostroutingPacket A) (minAddr maxAddr : A) (t settled after : Tables A)
    (port : BitVec 16) : Prop where
  addresses : packet.addresses = some (minAddr, maxAddr)
  udp : packet.original.dstProtonum = IPPROTO_UDP
  inactive : ¬ SourceActive k fam find packet minAddr maxAddr t
  stale : ∀ id, sourceMapping k fam packet minAddr maxAddr t = some id → settled.heap id = none
  shrinks : Shrinks t settled
  free : ExternalUnique t → ∀ id mapping, settled.heap id = some mapping →
    ¬ (mapping.port = port ∧ mapping.addr = chosenAddress k fam packet minAddr maxAddr)
  accepted : (packet.setupInfo
    (singleRange (chosenAddress k fam packet minAddr maxAddr) port)).1 = .NF_ACCEPT
  endpoints : ∀ id, (after.heap id).map NatMapping.endpoints =
    if id = t.fresh then
      some ⟨fam.u3 (packet.setupInfo
          (singleRange (chosenAddress k fam packet minAddr maxAddr) port)).2.dstU3,
        be16ToCpu (packet.setupInfo
          (singleRange (chosenAddress k fam packet minAddr maxAddr) port)).2.dstPort,
        packet.intAddr fam, packet.intPort⟩
    else (settled.heap id).map NatMapping.endpoints

theorem prerouting_carries (wf : WellFormed k fam t) (find : CtTuple → Bool)
    (packet : PreroutingPacket A) : Carries t (nfNatHandlePrerouting k fam find packet t).2 := by
  have spec := getMappingByExtPort_spec wf find packet.extPort (packet.extAddr fam)
  unfold nfNatHandlePrerouting
  split
  · exact Carries.refl t
  · dsimp only
    split
    · exact spec.shrinks.carries
    · split
      · exact spec.shrinks.carries
      · split
        · exact spec.shrinks.carries.trans (carries_addTuple _ _ _ _)
        · exact spec.shrinks.carries

omit [DecidableEq A] in
theorem saveMapping_carries (fam : Family A) (packet : PostroutingPacket A)
    (srcMapping : Option Nat) (reply : CtTuple) (t : Tables A)
    (old : ¬ (srcMapping = none ∧ packet.kmallocMapping = true)) :
    Carries t (saveMapping k fam packet srcMapping reply t) := by
  intro id left found
  have same := saveMapping_endpoints k fam packet srcMapping reply t id
  rw [if_neg (fun created => old ⟨created.1, created.2.1⟩), found, Option.map_some, eq_comm,
    Option.map_eq_some_iff] at same
  obtain ⟨mapping, mappingFound, key⟩ := same
  exact ⟨mapping, mappingFound, key.symm⟩

theorem postrouting_cases (wf : WellFormed k fam t) (find : CtTuple → Bool)
    (packet : PostroutingPacket A) :
    Carries t (nfNatHandlePostrouting k fam find packet t).2 ∨
      ∃ minAddr maxAddr settled port, Creates k fam find packet minAddr maxAddr t settled
        (nfNatHandlePostrouting k fam find packet t).2 port := by
  unfold nfNatHandlePostrouting
  split
  · exact Or.inl (Carries.refl t)
  · rename_i minAddr maxAddr addresses
    have spec := selectMapping_spec wf find packet minAddr maxAddr
    split
    · exact Or.inl (Carries.refl t)
    · rename_i udp
      dsimp only
      split
      · exact Or.inl spec.shrinks.carries
      · rename_i accepted
        by_cases creates : (selectMapping k fam find packet minAddr maxAddr t).srcMapping = none ∧
            packet.kmallocMapping = true
        · obtain ⟨inactive, stale, port, newrange, free⟩ := spec.created creates.1
          refine Or.inr ⟨minAddr, maxAddr, _, port, addresses, not_not.mp udp, inactive,
            stale, spec.shrinks, free, ?_, ?_⟩
          · rw [← newrange]
            exact not_not.mp accepted
          · intro id
            rw [saveMapping_endpoints, newrange, spec.shrinks.fresh]
            exact if_congr (by simp [creates.1, creates.2]) rfl rfl
        · exact Or.inl (spec.shrinks.carries.trans
            (saveMapping_carries fam packet _ _ _ creates))

/-- Mappings of `before` have kept their endpoints, and no new mapping has taken
the place of one. -/
structure Later (before after : Tables A) : Prop where
  fresh : before.fresh ≤ after.fresh
  stable : ∀ id, id < before.fresh → ∀ left, after.heap id = some left →
    ∃ mapping, before.heap id = some mapping ∧ left.endpoints = mapping.endpoints

omit [DecidableEq A] in
theorem Later.refl (t : Tables A) : Later t t :=
  ⟨Nat.le_refl _, fun _ _ left found => ⟨left, found, rfl⟩⟩

omit [DecidableEq A] in
theorem Later.trans {first second third : Tables A} (head : Later first second)
    (tail : Later second third) : Later first third := by
  refine ⟨Nat.le_trans head.fresh tail.fresh, ?_⟩
  intro id allocated left found
  obtain ⟨middle, middleFound, middleKey⟩ :=
    tail.stable id (Nat.lt_of_lt_of_le allocated head.fresh) left found
  obtain ⟨mapping, mappingFound, key⟩ := head.stable id allocated middle middleFound
  exact ⟨mapping, mappingFound, middleKey.trans key⟩

omit [DecidableEq A] in
theorem later_of_carries {before after : Tables A} (carries : Carries before after)
    (fresh : before.fresh ≤ after.fresh) : Later before after :=
  ⟨fresh, fun id _ left found => carries id left found⟩

omit [DecidableEq A] in
theorem addTuple_fresh (kmalloc : Bool) (id : Nat) (tuple : CtTuple) (t : Tables A) :
    (addOriginalTupleToMapping kmalloc id tuple t).fresh = t.fresh := by
  unfold addOriginalTupleToMapping
  split
  · rfl
  · split <;> rfl

omit [DecidableEq A] in
theorem saveMapping_fresh (fam : Family A) (packet : PostroutingPacket A)
    (srcMapping : Option Nat) (reply : CtTuple) (t : Tables A) :
    t.fresh ≤ (saveMapping k fam packet srcMapping reply t).fresh := by
  cases srcMapping with
  | some id => simp [saveMapping, addTuple_fresh]
  | none =>
    cases kmalloc : packet.kmallocMapping with
    | false => simp [saveMapping, allocateMapping, kmalloc]
    | true => simp [saveMapping, allocateMapping, kmalloc, addTuple_fresh]

theorem prerouting_fresh (wf : WellFormed k fam t) (find : CtTuple → Bool)
    (packet : PreroutingPacket A) :
    t.fresh ≤ (nfNatHandlePrerouting k fam find packet t).2.fresh := by
  have spec := getMappingByExtPort_spec wf find packet.extPort (packet.extAddr fam)
  have same := Nat.le_of_eq spec.shrinks.fresh.symm
  unfold nfNatHandlePrerouting
  split
  · exact Nat.le_refl _
  · dsimp only
    split
    · exact same
    · split
      · exact same
      · split
        · exact Nat.le_trans same (Nat.le_of_eq (addTuple_fresh _ _ _ _).symm)
        · exact same

theorem postrouting_fresh (wf : WellFormed k fam t) (find : CtTuple → Bool)
    (packet : PostroutingPacket A) :
    t.fresh ≤ (nfNatHandlePostrouting k fam find packet t).2.fresh := by
  unfold nfNatHandlePostrouting
  split
  · exact Nat.le_refl _
  · rename_i minAddr maxAddr _
    have spec := selectMapping_spec wf find packet minAddr maxAddr
    have same := Nat.le_of_eq spec.shrinks.fresh.symm
    split
    · exact Nat.le_refl _
    · dsimp only
      split
      · exact same
      · exact Nat.le_trans same (saveMapping_fresh fam packet _ _ _)

theorem call_later (wf : WellFormed k fam t) (find : CtTuple → Bool) (call : Call A) :
    Later t (call.exec k fam find t) := by
  cases call with
  | prerouting packet =>
    exact later_of_carries (prerouting_carries wf find packet) (prerouting_fresh wf find packet)
  | postrouting packet =>
    rcases postrouting_cases wf find packet with
      carries | ⟨minAddr, maxAddr, settled, port, creates⟩
    · exact later_of_carries carries (postrouting_fresh wf find packet)
    · refine ⟨postrouting_fresh wf find packet, fun id allocated left found => ?_⟩
      have same := creates.endpoints id
      have leftFound : (nfNatHandlePostrouting k fam find packet t).2.heap id = some left := found
      rw [if_neg (Nat.ne_of_lt allocated), leftFound, Option.map_some, eq_comm,
        Option.map_eq_some_iff] at same
      obtain ⟨middle, middleFound, middleKey⟩ := same
      obtain ⟨mapping, mappingFound, key⟩ := creates.shrinks.carries id middle middleFound
      exact ⟨mapping, mappingFound, middleKey.symm.trans key⟩
  | lookup scope port extIp =>
    have shrinks := (getMappingByExtPort_spec wf find port extIp).shrinks
    exact later_of_carries shrinks.carries (Nat.le_of_eq shrinks.fresh.symm)

end OpenwrtSource.Fullcone.HookEffects
