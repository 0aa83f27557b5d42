import OpenwrtSource.Hnat.McastEvents

/-!
# What the handlers do to the multicast slots

A slot is named by its PPE and its index, and a group holds the slot it names
with both.  Most steps of the handlers are quiet: they touch neither the table
nor the indices of the group.  Set-up, teardown and the composed handlers are
lawful: what they take was free, and what they give up is free after them.
-/

namespace OpenwrtSource.Hnat.McastEffects

open Lib.Ownership Hnat.Foe Hnat.McastTable Hnat.McastOffload

def Owns (group : Group) (slot : Nat × Nat) : Prop :=
  group.ppeId = some slot.1 ∧ group.mtblIdx = some slot.2

def Live (hw : Hw) (slot : Nat × Nat) : Prop := hw.slots slot.1 slot.2 ≠ McastSlot.empty

/-- A group that the driver has made: its MAC is that of its address, and it has
a slot only while it is bound. -/
structure Sound (group : Group) : Prop where
  mac : group.mac = hnatMcastGetMacFromMdb group.ip
  bound : group.mtblIdx.isSome → group.ppeId.isSome ∧ group.foeIdx.isSome

variable {group : Group} {c₁ c₂ c₃ c c' : Ctx}

theorem not_owns_of_none (idle : group.mtblIdx = none) (slot : Nat × Nat) : ¬ Owns group slot := by
  simp [Owns, idle]

theorem Sound.owns (sound : Sound group) {index : Nat} (slotted : group.mtblIdx = some index) :
    ∃ ppe, Owns group (ppe, index) := by
  obtain ⟨ppe, bound⟩ := Option.isSome_iff_exists.mp (sound.bound (by simp [slotted])).1
  exact ⟨ppe, bound, slotted⟩

structure Quiet (c c' : Ctx) : Prop where
  slots : c'.hw.slots = c.hw.slots
  mac : c'.group.mac = c.group.mac
  ip : c'.group.ip = c.group.ip
  members : c'.group.members = c.group.members
  mtblIdx : c'.group.mtblIdx = c.group.mtblIdx
  ppeId : c'.group.ppeId = c.group.ppeId
  foeIdx : c'.group.foeIdx = c.group.foeIdx

theorem Quiet.refl (c : Ctx) : Quiet c c := ⟨rfl, rfl, rfl, rfl, rfl, rfl, rfl⟩

theorem Quiet.trans (first : Quiet c₁ c₂) (second : Quiet c₂ c₃) : Quiet c₁ c₃ where
  slots := second.slots.trans first.slots
  mac := second.mac.trans first.mac
  ip := second.ip.trans first.ip
  members := second.members.trans first.members
  mtblIdx := second.mtblIdx.trans first.mtblIdx
  ppeId := second.ppeId.trans first.ppeId
  foeIdx := second.foeIdx.trans first.foeIdx

theorem quiet_writeFoe (c : Ctx) (foe : FoeEntry) (ptr : FoePtr) : Quiet c (c.writeFoe foe ptr) := by
  cases ptr with
  | table ppe idx => exact ⟨rfl, rfl, rfl, rfl, rfl, rfl, rfl⟩
  | entry => exact ⟨rfl, rfl, rfl, rfl, rfl, rfl, rfl⟩

theorem quiet_updateFoe (c : Ctx) (ptr : FoePtr) (f : FoeEntry → FoeEntry) :
    Quiet c (c.updateFoe ptr f) :=
  quiet_writeFoe c _ ptr

theorem entryDelete_frame (plat : Platform) (env : Env) (ppeId index : Option Nat) (hw : Hw) :
    (McastOffload.entryDelete plat env ppeId index hw).slots = hw.slots ∧
      (McastOffload.entryDelete plat env ppeId index hw).entryDeletes = hw.entryDeletes := by
  unfold McastOffload.entryDelete
  cases ppeId with
  | none => exact ⟨rfl, rfl⟩
  | some ppe =>
    dsimp only
    split
    · exact ⟨rfl, rfl⟩
    · cases index with
      | none => exact ⟨rfl, rfl⟩
      | some idx =>
        dsimp only
        split <;> exact ⟨rfl, rfl⟩

theorem quiet_entryDelete (plat : Platform) (env : Env) (c : Ctx) :
    Quiet c (c.entryDelete plat env) :=
  ⟨(entryDelete_frame plat env _ _ _).1, rfl, rfl, rfl, rfl, rfl, rfl⟩

theorem quiet_setPsebmp (c : Ctx) (pseBmp : PseBmp) : Quiet c (c.setPsebmp pseBmp) :=
  ⟨rfl, rfl, rfl, rfl, rfl, rfl, rfl⟩

/-- The NPU was called; its answers reach no more of the group than its place in
the NPU and whether it may be offloaded. -/
def Called (c c' : Ctx) : Prop :=
  ∃ offload npuGrpIdx npuCalls,
    c' = { c with
      group := { c.group with offload := offload, npuGrpIdx := npuGrpIdx }
      hw := { c.hw with npuCalls := npuCalls } }

theorem Called.refl (c : Ctx) : Called c c := ⟨_, _, _, rfl⟩

theorem Called.trans (first : Called c₁ c₂) (second : Called c₂ c₃) : Called c₁ c₃ := by
  obtain ⟨_, _, _, rfl⟩ := first
  obtain ⟨_, _, _, rfl⟩ := second
  exact ⟨_, _, _, rfl⟩

theorem Called.quiet (called : Called c c') : Quiet c c' := by
  obtain ⟨_, _, _, rfl⟩ := called
  exact ⟨rfl, rfl, rfl, rfl, rfl, rfl, rfl⟩

theorem called_foldl {α : Type} (round : Int × Ctx → α → Int × Ctx)
    (called : ∀ result item, Called result.2 (round result item).2) (items : List α)
    (result : Int × Ctx) : Called result.2 (items.foldl round result).2 := by
  induction items generalizing result with
  | nil => exact Called.refl _
  | cons item rest ih => exact (called result item).trans (ih _)

theorem called_npuCall (c : Ctx) (call : NpuCall) : Called c (c.npuCall call) :=
  ⟨_, _, _, rfl⟩

theorem called_npuInserted (c : Ctx) (ret : Int) (npuGrpIdx : BitVec 32) :
    Called c (c.npuInserted ret npuGrpIdx) := by
  unfold Ctx.npuInserted
  split <;> exact ⟨_, _, _, rfl⟩

theorem called_npuDeleteSingle (env : Env) (info : McastOffloadInfo) (c : Ctx) :
    Called c (hnatMcastNpuDeleteSingle env info c).2 := by
  unfold hnatMcastNpuDeleteSingle
  split
  · exact Called.refl c
  · exact called_npuCall c _

theorem called_npuDeleteStations (env : Env) (info : McastOffloadInfo) (stag : BitVec 32)
    (isDsa : Bool) (c : Ctx) : Called c (hnatMcastNpuDeleteStations env info stag isDsa c).2 := by
  unfold hnatMcastNpuDeleteStations
  split
  · exact called_npuDeleteSingle env info c
  · unfold hnatMcastNpuDeleteMulti
    refine called_foldl _ ?_ _ (0, c)
    intro result port
    exact called_npuDeleteSingle env _ result.2

theorem called_npuAddStations (env : Env) (info : McastOffloadInfo) (stag : BitVec 32)
    (isDsa : Bool) (pseBmp : PseBmp) (c : Ctx) :
    Called c (hnatMcastNpuAddStations env info stag isDsa pseBmp c).2 := by
  unfold hnatMcastNpuAddStations
  split
  · exact Called.refl c
  · split
    · exact (called_npuCall c _).trans (called_npuInserted _ _ _)
    · split
      · exact Called.refl c
      · unfold hnatMcastNpuAddMulti
        refine called_foldl _ ?_ _ (0, c)
        intro result port
        exact (called_npuCall result.2 _).trans (called_npuInserted _ _ _)

theorem called_npuUpdate (env : Env) (info : McastOffloadInfo) (stag : BitVec 32) (pseBmp : PseBmp)
    (type : Nat) (isDsa : Bool) (c : Ctx) :
    Called c (hnatMcastNpuUpdate env info stag pseBmp type isDsa c).2 := by
  unfold hnatMcastNpuUpdate
  dsimp only
  split
  · split
    · split
      · exact Called.refl c
      · exact called_npuAddStations env info stag isDsa pseBmp c
    · exact Called.refl c
  · split
    · split
      · split
        · exact called_npuDeleteStations env info stag isDsa c
        · exact Called.refl c
      · split
        · exact called_npuDeleteSingle env info c
        · exact Called.refl c
    · exact Called.refl c

theorem quiet_teardownNpu (env : Env) (c : Ctx) : Quiet c (hnatMcastGroupTeardownNpu env c) := by
  unfold hnatMcastGroupTeardownNpu
  split
  · exact Quiet.refl c
  · dsimp only
    exact (called_npuDeleteStations env _ _ false c).quiet.trans (quiet_setPsebmp _ 0)

/-- What a handler may rely on of the group it is given. -/
structure Ready (c : Ctx) : Prop where
  sound : Sound c.group
  holds : ∀ slot, Owns c.group slot → Live c.hw slot

structure Lawful (c c' : Ctx) : Prop where
  transfer : Transfer (Live c.hw) (Live c'.hw) (Owns c.group) (Owns c'.group)
  sound : Sound c'.group
  members : c'.group.members = c.group.members

theorem Lawful.ready (lawful : Lawful c c') : Ready c' :=
  ⟨lawful.sound, fun slot holding => (lawful.transfer.takes slot holding).1⟩

theorem Lawful.trans (first : Lawful c₁ c₂) (second : Lawful c₂ c₃) : Lawful c₁ c₃ :=
  ⟨first.transfer.trans second.transfer, second.sound, second.members.trans first.members⟩

theorem Quiet.lawful (quiet : Quiet c c') (ready : Ready c) : Lawful c c' where
  transfer := by
    refine Transfer.of_same ?_ ?_ ready.holds
    · funext slot
      simp only [Live, quiet.slots]
    · funext slot
      simp only [Owns, quiet.ppeId, quiet.mtblIdx]
  sound := by
    refine ⟨?_, ?_⟩
    · rw [quiet.mac, quiet.ip]
      exact ready.sound.mac
    · rw [quiet.mtblIdx, quiet.ppeId, quiet.foeIdx]
      exact ready.sound.bound
  members := quiet.members

theorem Lawful.refl (ready : Ready c) : Lawful c c := (Quiet.refl c).lawful ready

theorem Lawful.quiet (first : Lawful c₁ c₂) (second : Quiet c₂ c₃) : Lawful c₁ c₃ :=
  first.trans (second.lawful first.ready)

theorem Quiet.andThen (first : Quiet c₁ c₂) (ready : Ready c₁) (second : Ready c₂ → Lawful c₂ c₃) :
    Lawful c₁ c₃ :=
  have started := first.lawful ready
  started.trans (second started.ready)

def Leaves (group : Group) (hw : Hw) (kept : Option Group) (hw' : Hw) : Prop :=
  Transfer (Live hw) (Live hw') (Owns group) (fun slot => ∃ o ∈ kept, Owns o slot) ∧
    ∀ o ∈ kept, Sound o

theorem Lawful.leaves (lawful : Lawful c c') : Leaves c.group c.hw (some c'.group) c'.hw := by
  refine ⟨lawful.transfer.congr_held ?_, ?_⟩
  · simp
  · simpa using lawful.sound

theorem Lawful.leaves_none (lawful : Lawful c c') (idle : c'.group.mtblIdx = none) :
    Leaves c.group c.hw none c'.hw := by
  refine ⟨lawful.transfer.congr_held ?_, by simp⟩
  intro slot
  simpa using not_owns_of_none idle slot

theorem lawful_unbind (ready : Ready c) (idle : c.group.mtblIdx = none) :
    Lawful c { c with group := { c.group.unbind with psebmp := 0 } } where
  transfer := by
    refine Transfer.of_same rfl ?_ ready.holds
    funext slot
    simp [Owns, Group.unbind, idle]
  sound := ⟨ready.sound.mac, by simp [Group.unbind, idle]⟩
  members := rfl

theorem lawful_setHnatMtbl (ready : Ready c) {ppe index : Nat} (bmp : PseBmp)
    (bound : c.group.ppeId = some ppe) (foe : c.group.foeIdx.isSome)
    (chosen : c.group.mtblIdx = some index ∨
      c.group.mtblIdx = none ∧ c.hw.slots ppe index = McastSlot.empty) :
    Lawful c { c with
      group := { c.group with mtblIdx := some index }
      hw := { c.hw with slots := setHnatMtbl c.group.mac index ppe bmp c.hw.slots } } where
  transfer := by
    have written : setHnatMtbl c.group.mac index ppe bmp c.hw.slots ppe index ≠
        McastSlot.empty := by
      rw [ready.sound.mac]
      exact setHnatMtbl_same c.group.ip bmp c.hw.slots ppe index
    refine ⟨?_, ?_, ?_⟩
    · rintro ⟨p, i⟩ ⟨owner, slotted⟩
      obtain rfl : ppe = p := Option.some.inj (bound.symm.trans owner)
      obtain rfl : index = i := Option.some.inj slotted
      refine ⟨written, ?_⟩
      obtain same | ⟨_, free⟩ := chosen
      · exact Or.inl ⟨bound, same⟩
      · exact Or.inr (fun live => live free)
    · rintro ⟨p, i⟩ ⟨owner, slotted⟩ gone
      obtain same | ⟨idle, _⟩ := chosen
      · exact absurd ⟨owner, same.symm.trans slotted⟩ gone
      · simp [idle] at slotted
    · rintro ⟨p, i⟩ _ gone
      have other : ¬ (p = ppe ∧ i = index) := by
        rintro ⟨rfl, rfl⟩
        exact gone ⟨bound, rfl⟩
      simp only [Live, setHnatMtbl_other c.group.mac bmp c.hw.slots other]
  sound := ⟨ready.sound.mac, fun _ => ⟨by simp [bound], foe⟩⟩
  members := rfl

theorem lawful_mtblSetup (plat : Platform) (pseBmp : PseBmp) (ptr : FoePtr) (toNpu : Bool)
    (ready : Ready c) (foe : c.group.foeIdx.isSome) :
    Lawful c (hnatMcastMtblSetup plat pseBmp ptr toNpu c).2 := by
  unfold hnatMcastMtblSetup
  split
  · exact Lawful.refl ready
  · rename_i ppe bound
    dsimp only
    cases slotted : c.group.mtblIdx with
    | some index => exact lawful_setHnatMtbl ready _ bound foe (Or.inl slotted)
    | none =>
      dsimp only
      cases found : hnatMcastAllocMtblEntry plat.maxEntry (c.hw.slots ppe) with
      | none =>
        dsimp only
        have zeroed := (quiet_writeFoe c FoeEntry.zero ptr).lawful ready
        refine zeroed.trans ?_
        have idle : (c.writeFoe FoeEntry.zero ptr).group.mtblIdx = none := by
          rw [(quiet_writeFoe c FoeEntry.zero ptr).mtblIdx, slotted]
        refine ⟨Transfer.of_same rfl ?_ zeroed.ready.holds, ⟨zeroed.sound.mac, by simp⟩, rfl⟩
        funext slot
        simp [Owns, idle]
      | some index =>
        dsimp only
        exact lawful_setHnatMtbl ready _ bound foe
          (Or.inr ⟨slotted, (hnatMcastAllocMtblEntry_some found).2⟩)

theorem lawful_mtblTeardown (ready : Ready c) :
    Lawful c (hnatMcastMtblTeardown c) ∧ (hnatMcastMtblTeardown c).group.mtblIdx = none := by
  cases slotted : c.group.mtblIdx with
  | none =>
    have same : hnatMcastMtblTeardown c = c := by simp [hnatMcastMtblTeardown, slotted]
    rw [same]
    exact ⟨Lawful.refl ready, slotted⟩
  | some index =>
    obtain ⟨ppe, bound, _⟩ := ready.sound.owns slotted
    dsimp only at bound
    simp only [hnatMcastMtblTeardown, slotted, bound]
    refine ⟨⟨⟨?_, ?_, ?_⟩, ⟨ready.sound.mac, by simp⟩, rfl⟩, trivial⟩
    · rintro slot ⟨_, none⟩
      cases none
    · rintro ⟨p, i⟩ ⟨owner, held⟩ _
      obtain rfl : ppe = p := Option.some.inj (bound.symm.trans owner)
      obtain rfl : index = i := Option.some.inj (slotted.symm.trans held)
      simp [Live, clrHnatMtbl]
    · rintro ⟨p, i⟩ kept _
      have other : ¬ (p = ppe ∧ i = index) := by
        rintro ⟨rfl, rfl⟩
        exact kept ⟨bound, slotted⟩
      simp only [Live, clrHnatMtbl, c.hw.slots.write_other McastSlot.empty other]

theorem lawful_foeMtblUpdate (plat : Platform) (pseBmp : PseBmp) (ptr : FoePtr) (toNpu : Bool)
    (ready : Ready c) (foe : c.group.foeIdx.isSome) :
    Lawful c (foeMtblUpdate plat pseBmp ptr toNpu c) := by
  unfold foeMtblUpdate
  split
  · exact (quiet_updateFoe c ptr _).andThen ready fun next => (lawful_mtblTeardown next).1
  · have setUp := lawful_mtblSetup plat pseBmp ptr toNpu ready foe
    dsimp only
    split
    · exact setUp.quiet (quiet_updateFoe _ ptr _)
    · exact setUp

theorem lawful_noNpuTeardownGroup (plat : Platform) (env : Env) (ready : Ready c) :
    Lawful c (hnatMcastNoNpuTeardownGroup plat env c).2 := by
  refine (quiet_entryDelete plat env c).andThen ready fun next => ?_
  obtain ⟨torn, idle⟩ := lawful_mtblTeardown next
  exact torn.trans (lawful_unbind torn.ready idle)

theorem lawful_noNpuHandle (plat : Platform) (env : Env) (stag : BitVec 8) (pseBmp : PseBmp)
    (ptr : FoePtr) (ready : Ready c) (foe : c.group.foeIdx.isSome) :
    Lawful c (hnatMcastNoNpuHandle plat env stag pseBmp ptr c).2 := by
  unfold hnatMcastNoNpuHandle
  dsimp only
  split
  · unfold hnatMcastNoNpuMultiHandle
    split
    · exact lawful_noNpuTeardownGroup plat env ready
    · split
      · unfold hnatMcastNoNpuGswMultiEth
        have setUp := lawful_mtblSetup plat pseBmp ptr false ready foe
        dsimp only
        split
        · exact (setUp.quiet (quiet_updateFoe _ ptr _)).quiet (quiet_setPsebmp _ pseBmp)
        · exact setUp.quiet (quiet_setPsebmp _ pseBmp)
      · exact lawful_noNpuTeardownGroup plat env ready
  · split
    · have marked := (quiet_updateFoe c ptr (hnatMcastFoeStagUpdate stag)).trans
        (quiet_updateFoe _ ptr (hnatMcastFoeMcDisable pseBmp))
      refine marked.andThen ready fun next => ?_
      exact (lawful_mtblTeardown next).1.quiet (quiet_setPsebmp _ pseBmp)
    · exact Lawful.refl ready

theorem lawful_hwUpdate (plat : Platform) (env : Env) (egress : Egress) (type ifindex : Nat)
    (ptr : FoePtr) (ready : Ready c) (foe : c.group.foeIdx.isSome) :
    Lawful c (hnatMcastHwUpdate plat env egress type ifindex ptr c).2 := by
  unfold hnatMcastHwUpdate
  dsimp only
  split
  · exact lawful_noNpuHandle plat env _ _ ptr ready foe
  · split
    · unfold hnatMcastNpuDsaHandle
      dsimp only
      have updated : ∀ called, Quiet c called →
          Lawful c ((foeMtblUpdate plat egress.pseBmp ptr true called).setPsebmp egress.pseBmp) := by
        intro called quiet
        refine quiet.andThen ready fun next => ?_
        refine (lawful_foeMtblUpdate plat _ ptr true next ?_).quiet (quiet_setPsebmp _ _)
        rw [quiet.foeIdx]
        exact foe
      exact updated _ ((quiet_updateFoe c ptr _).trans (called_npuUpdate env _ _ _ type _ _).quiet)
    · exact (lawful_foeMtblUpdate plat _ ptr false ready foe).quiet (quiet_setPsebmp _ _)

theorem hnatMcastGetHwFoe_some {ptr : FoePtr} (found : hnatMcastGetHwFoe group = some ptr) :
    ∃ ppe idx, group.ppeId = some ppe ∧ group.foeIdx = some idx ∧ ptr = .table ppe idx := by
  unfold hnatMcastGetHwFoe at found
  split at found
  · rename_i ppe idx bound indexed
    exact ⟨ppe, idx, bound, indexed, (Option.some.inj found).symm⟩
  · cases found

theorem lawful_dropGroup (plat : Platform) (env : Env) (ready : Ready c)
    (idle : c.group.mtblIdx = none) : Lawful c (dropGroup plat env c) :=
  (quiet_entryDelete plat env c).andThen ready fun next => lawful_unbind next idle

theorem lawful_eventHwHandle (plat : Platform) (env : Env) (type ifindex : Nat) (ready : Ready c)
    (served : c.group.mtblIdx.isSome →
      (hnatMcastGetPseTxBmp env.devs c.group.members).pseBmp ≠ 0 ∨
        ∃ ppe idx, c.group.ppeId = some ppe ∧ c.group.foeIdx = some idx ∧
          foeGroupIp (c.hw.foeTable ppe idx) = none) :
    Lawful c (hnatMcastEventHwHandle plat env type ifindex c) := by
  unfold hnatMcastEventHwHandle
  split
  · exact Lawful.refl ready
  · rename_i ptr found
    obtain ⟨ppe, idx, bound, indexed, rfl⟩ := hnatMcastGetHwFoe_some found
    dsimp only
    split
    · exact Lawful.refl ready
    · rename_i grouped
      split
      · exact lawful_hwUpdate plat env _ type ifindex _ ready (by simp [indexed])
      · rename_i empty
        refine lawful_dropGroup plat env ready ?_
        by_contra slotted
        obtain nonempty | ⟨ppe', idx', bound', indexed', other⟩ :=
          served (Option.isSome_iff_ne_none.mpr slotted)
        · exact empty nonempty
        · obtain rfl : ppe = ppe' := Option.some.inj (bound.symm.trans bound')
          obtain rfl : idx = idx' := Option.some.inj (indexed.symm.trans indexed')
          simp [Ctx.readFoe, other] at grouped

theorem lawful_ifdownGroup (plat : Platform) (env : Env) (ifindex : Nat) (ready : Ready c) :
    Lawful c (hnatMcastIfdownGroup plat env ifindex c) := by
  unfold hnatMcastIfdownGroup
  split
  · exact Lawful.refl ready
  · split
    · exact Lawful.refl ready
    · rename_i ptr found
      obtain ⟨ppe, idx, _, indexed, _⟩ := hnatMcastGetHwFoe_some found
      dsimp only
      split
      · exact lawful_hwUpdate plat env _ _ ifindex ptr ready (by simp [indexed])
      · refine (quiet_entryDelete plat env c).andThen ready fun next => ?_
        obtain ⟨torn, idle⟩ := lawful_mtblTeardown next
        exact torn.trans (lawful_unbind torn.ready idle)

theorem lawful_groupHandle (plat : Platform) (env : Env) (enable : Bool) (ready : Ready c)
    (idle : enable = false → c.group.mtblIdx = none) :
    Lawful c (hnatMcastGroupHandle plat env enable c) := by
  unfold hnatMcastGroupHandle
  split
  · exact Lawful.refl ready
  · split
    · exact Lawful.refl ready
    · rename_i disabled
      exact (lawful_dropGroup plat env ready (idle (by simpa using disabled))).quiet
        (called_npuDeleteStations env _ _ false _).quiet

theorem lawful_pathSwitchGroup (plat : Platform) (env : Env) (hwPath : Bool) (ready : Ready c)
    (idle : hwPath = false → c.group.mtblIdx = none) :
    Lawful c (pathSwitchGroup plat env hwPath c) := by
  have marked : Quiet c { c with group := { c.group with offload := hwPath } } :=
    ⟨rfl, rfl, rfl, rfl, rfl, rfl, rfl⟩
  unfold pathSwitchGroup
  dsimp only
  split
  · exact marked.lawful ready
  · rename_i software
    exact marked.andThen ready fun next =>
      lawful_dropGroup plat env next (idle (by simpa using software))

theorem bindTo_facts (group : Group) (ppe foeIdx : Nat) (entry : FoeEntry) :
    (Group.bindTo group ppe foeIdx entry).mac = group.mac ∧
      (Group.bindTo group ppe foeIdx entry).ip = group.ip ∧
      (Group.bindTo group ppe foeIdx entry).members = group.members ∧
      (Group.bindTo group ppe foeIdx entry).mtblIdx = group.mtblIdx ∧
      (Group.bindTo group ppe foeIdx entry).ppeId = some ppe ∧
      (Group.bindTo group ppe foeIdx entry).foeIdx = some foeIdx := by
  unfold Group.bindTo
  dsimp only
  split <;> exact ⟨rfl, rfl, rfl, rfl, rfl, rfl⟩

theorem lawful_bindTo (ready : Ready c) (ppe foeIdx : Nat)
    (kept : c.group.mtblIdx = none ∨ c.group.ppeId = some ppe) :
    Lawful c { c with group := Group.bindTo c.group ppe foeIdx c.entry } := by
  obtain ⟨mac, ip, members, mtblIdx, ppeId, index⟩ := bindTo_facts c.group ppe foeIdx c.entry
  refine ⟨Transfer.of_same rfl ?_ ready.holds, ⟨?_, ?_⟩, members⟩
  · funext slot
    obtain idle | same := kept
    · simp [Owns, mtblIdx, idle]
    · simp [Owns, mtblIdx, ppeId, same]
  · rw [mac, ip]
    exact ready.sound.mac
  · intro _
    simp [ppeId, index]

theorem lawful_foeBindGroup (plat : Platform) (env : Env) (ppe foeIdx ifindex : Nat)
    (ready : Ready c)
    (samePpe : c.group.mtblIdx.isSome → c.group.offload = true → c.group.ppeId = some ppe) :
    Lawful c (hnatMcastFoeBindGroup plat env ppe foeIdx ifindex c).2 := by
  unfold hnatMcastFoeBindGroup
  split
  · exact Lawful.refl ready
  · rename_i offloaded
    split
    · exact Lawful.refl ready
    · have kept : c.group.mtblIdx = none ∨ c.group.ppeId = some ppe := by
        cases slotted : c.group.mtblIdx with
        | none => exact Or.inl rfl
        | some index => exact Or.inr (samePpe (by simp [slotted]) (by simpa using offloaded))
      have bound := lawful_bindTo ready ppe foeIdx kept
      have index := (bindTo_facts c.group ppe foeIdx c.entry).2.2.2.2.2
      dsimp only
      split
      · have updated := bound.trans (lawful_hwUpdate plat env
          (hnatMcastGetPseTxBmp env.devs (Group.bindTo c.group ppe foeIdx c.entry).members)
          RTM_NEWMDB ifindex .entry bound.ready (by simp [index]))
        split
        · exact updated
        · split <;> exact updated
      · split
        · exact bound
        · split <;> exact bound

end OpenwrtSource.Hnat.McastEffects
