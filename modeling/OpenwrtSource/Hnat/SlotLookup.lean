import OpenwrtSource.Hnat.GroupList

/-!
# What the slots of the multicast table hold

The hardware finds a slot by the prefix selector and the low 32 bits of the
destination MAC.  The slot of a group has the key of the MAC derived from its
address and the ports last written for it, and the slots of a PPE have the same
key only where two addresses derive the same MAC.
-/

namespace OpenwrtSource.Hnat.SlotLookup

open Lib.Run Hnat.Foe Hnat.McastTable Hnat.McastOffload Hnat.McastEvents Hnat.McastEffects
open Hnat.McastSteps Hnat.McastVisits Hnat.SlotOwnership

def slotKey (slot : McastSlot) : BitVec 2 × BitVec 32 := (slot.mcMpreSel, slot.addr)

def macKey (mac : Mac) : BitVec 2 × BitVec 32 :=
  (if dmacToHi16 mac = 0x0100 then 0 else 1, dmacToLo32 mac)

/-- What `set_hnat_mtbl` writes for a MAC that it accepts. -/
def slotFor (mac : Mac) (bmp : PseBmp) : McastSlot := ⟨bmp, (macKey mac).1, (macKey mac).2⟩

/-- The ports that are written where the NPU serves the group. -/
def npuBmp (pseBmp : PseBmp) : PseBmp := (pseBmp &&& ~~~ MCAST_TO_GDMA1) ||| MCAST_TO_TDMA

theorem setHnatMtbl_eq (ip : GroupIp) (index ppe : Nat) (bmp : PseBmp) (slots : SlotTable) :
    setHnatMtbl (hnatMcastGetMacFromMdb ip) index ppe bmp slots =
      slots.write ppe index (slotFor (hnatMcastGetMacFromMdb ip) bmp) := by
  cases ip with
  | ipv4 ip =>
    rw [setHnatMtbl, if_pos (dmacToHi16_ipv4 ip), slotFor, macKey, if_pos (dmacToHi16_ipv4 ip)]
  | ipv6 ip =>
    have other : dmacToHi16 (hnatMcastGetMacFromMdb (.ipv6 ip)) ≠ 0x0100 := by
      rw [dmacToHi16_ipv6]
      decide
    rw [setHnatMtbl, if_neg other, if_pos (dmacToHi16_ipv6 ip), slotFor, macKey, if_neg other]

theorem macKey_inj {a b : GroupIp}
    (same : macKey (hnatMcastGetMacFromMdb a) = macKey (hnatMcastGetMacFromMdb b)) :
    hnatMcastGetMacFromMdb a = hnatMcastGetMacFromMdb b := by
  have whole : ∀ mac : Mac, mac = dmacToHi16 mac ++ dmacToLo32 mac := by
    intro mac
    apply BitVec.eq_of_getLsbD_eq
    intro i inMac
    simp only [dmacToHi16, dmacToLo32, BitVec.getLsbD_append, BitVec.getLsbD_extractLsb']
    grind
  have high : dmacToHi16 (hnatMcastGetMacFromMdb a) = dmacToHi16 (hnatMcastGetMacFromMdb b) := by
    have selector := congrArg Prod.fst same
    cases a <;> cases b <;>
      simp only [macKey, dmacToHi16_ipv4, dmacToHi16_ipv6] at selector ⊢ <;>
      exact absurd selector (by decide)
  have low : dmacToLo32 (hnatMcastGetMacFromMdb a) = dmacToLo32 (hnatMcastGetMacFromMdb b) :=
    congrArg Prod.snd same
  rw [whole (hnatMcastGetMacFromMdb a), whole (hnatMcastGetMacFromMdb b), high, low]

/-- The slot holds the key of the group and the ports last written for it. -/
def Written (group : Group) (slot : McastSlot) : Prop :=
  slot = slotFor group.mac group.psebmp ∨ slot = slotFor group.mac (npuBmp group.psebmp)

/-- What the group has in the table is what was written for it. -/
def Fits (group : Group) (hw : Hw) : Prop :=
  ∀ slot, Owns group slot → Written group (hw.slots slot.1 slot.2)

variable {group : Group} {bmp : PseBmp} {c c' : Ctx} {hw : Hw}

theorem fits_of_idle (hw : Hw) (idle : group.ppeId = none ∨ group.mtblIdx = none) :
    Fits group hw := by
  rintro slot ⟨bound, slotted⟩
  obtain unbound | slotless := idle
  · simp [unbound] at bound
  · simp [slotless] at slotted

/-- The slot that the group has, if any, holds these ports. -/
def SetUpFor (bmp : PseBmp) (c : Ctx) : Prop :=
  ∀ slot, Owns c.group slot →
    c.hw.slots slot.1 slot.2 = slotFor c.group.mac bmp ∨
      c.hw.slots slot.1 slot.2 = slotFor c.group.mac (npuBmp bmp)

theorem SetUpFor.quiet (setUp : SetUpFor bmp c) (quiet : Quiet c c') : SetUpFor bmp c' := by
  rintro slot ⟨bound, slotted⟩
  rw [quiet.slots, quiet.mac]
  exact setUp slot ⟨quiet.ppeId ▸ bound, quiet.mtblIdx ▸ slotted⟩

theorem SetUpFor.fits (setUp : SetUpFor bmp c) :
    Fits (c.setPsebmp bmp).group (c.setPsebmp bmp).hw := setUp

theorem setUpFor_of_idle (idle : c.group.mtblIdx = none) :
    SetUpFor bmp c := fun slot owns => absurd owns (not_owns_of_none idle slot)

theorem setUpFor_mtblSetup (plat : Platform) (pseBmp : PseBmp) (ptr : FoePtr) (toNpu : Bool)
    (mac : c.group.mac = hnatMcastGetMacFromMdb c.group.ip) :
    SetUpFor pseBmp (hnatMcastMtblSetup plat pseBmp ptr toNpu c).2 := by
  have written : ∀ ppe idx, c.group.ppeId = some ppe →
      SetUpFor pseBmp { c with
        group := { c.group with mtblIdx := some idx }
        hw := { c.hw with
          slots := setHnatMtbl c.group.mac idx ppe
            (if toNpu then (pseBmp &&& ~~~ MCAST_TO_GDMA1) ||| MCAST_TO_TDMA else pseBmp)
            c.hw.slots } } := by
    rintro ppe idx bound ⟨p, i⟩ ⟨owner, slotted⟩
    obtain rfl : ppe = p := Option.some.inj (bound.symm.trans owner)
    obtain rfl : idx = i := Option.some.inj slotted
    dsimp only
    rw [mac, setHnatMtbl_eq, SlotTable.write_same]
    cases toNpu with
    | true => exact .inr rfl
    | false => exact .inl rfl
  unfold hnatMcastMtblSetup
  split
  next unbound =>
    rintro slot ⟨bound, _⟩
    simp [unbound] at bound
  next ppe bound =>
    cases slotted : c.group.mtblIdx with
    | some idx => exact written ppe idx bound
    | none =>
      dsimp only
      cases found : hnatMcastAllocMtblEntry plat.maxEntry (c.hw.slots ppe) with
      | none => exact setUpFor_of_idle rfl
      | some idx => exact written ppe idx bound

theorem setUpFor_foeMtblUpdate (plat : Platform) (pseBmp : PseBmp) (ptr : FoePtr) (toNpu : Bool)
    (ready : Ready c) : SetUpFor pseBmp (foeMtblUpdate plat pseBmp ptr toNpu c) := by
  unfold foeMtblUpdate
  split
  · have marked := (quiet_updateFoe c ptr (hnatMcastFoeMcDisable pseBmp)).lawful ready
    exact setUpFor_of_idle (lawful_mtblTeardown marked.ready).2
  · have setUp := setUpFor_mtblSetup plat pseBmp ptr toNpu ready.sound.mac
    dsimp only
    split
    · exact setUp.quiet (quiet_updateFoe _ ptr _)
    · exact setUp

theorem fits_noNpuHandle (plat : Platform) (env : Env) (stag : BitVec 8) (pseBmp : PseBmp)
    (ptr : FoePtr) (ready : Ready c) (fits : Fits c.group c.hw) :
    Fits (hnatMcastNoNpuHandle plat env stag pseBmp ptr c).2.group
      (hnatMcastNoNpuHandle plat env stag pseBmp ptr c).2.hw := by
  unfold hnatMcastNoNpuHandle
  dsimp only
  split
  · unfold hnatMcastNoNpuMultiHandle
    split
    · exact fits_of_idle _ (.inl rfl)
    · split
      · have setUp := setUpFor_mtblSetup plat pseBmp ptr false ready.sound.mac
        unfold hnatMcastNoNpuGswMultiEth
        dsimp only
        split
        · exact (setUp.quiet (quiet_updateFoe _ ptr _)).fits
        · exact setUp.fits
      · exact fits_of_idle _ (.inl rfl)
  · split
    · have marked := ((quiet_updateFoe c ptr (hnatMcastFoeStagUpdate stag)).trans
        (quiet_updateFoe _ ptr (hnatMcastFoeMcDisable pseBmp))).lawful ready
      exact fits_of_idle _ (.inr (lawful_mtblTeardown marked.ready).2)
    · exact fits

theorem fits_hwUpdate (plat : Platform) (env : Env) (egress : Egress) (type ifindex : Nat)
    (ptr : FoePtr) (ready : Ready c) (fits : Fits c.group c.hw) :
    Fits (hnatMcastHwUpdate plat env egress type ifindex ptr c).2.group
      (hnatMcastHwUpdate plat env egress type ifindex ptr c).2.hw := by
  unfold hnatMcastHwUpdate
  dsimp only
  split
  · exact fits_noNpuHandle plat env _ _ ptr ready fits
  · split
    · unfold hnatMcastNpuDsaHandle
      dsimp only
      have updated : ∀ called, Quiet c called →
          SetUpFor egress.pseBmp (foeMtblUpdate plat egress.pseBmp ptr true called) :=
        fun called quiet => setUpFor_foeMtblUpdate plat _ ptr true (quiet.lawful ready).ready
      exact (updated _ ((quiet_updateFoe c ptr _).trans
        (called_npuUpdate env _ _ _ type _ _).quiet)).fits
    · exact (setUpFor_foeMtblUpdate plat _ ptr false ready).fits

/-- The live slots of other groups stay as they are, and theirs. -/
def Spares (c c' : Ctx) : Prop :=
  ∀ slot, Live c.hw slot → ¬ Owns c.group slot →
    c'.hw.slots slot.1 slot.2 = c.hw.slots slot.1 slot.2 ∧ ¬ Owns c'.group slot

theorem Spares.refl (c : Ctx) : Spares c c := fun _ _ other => ⟨rfl, other⟩

theorem Spares.trans {c₁ c₂ c₃ : Ctx} (first : Spares c₁ c₂) (second : Spares c₂ c₃) :
    Spares c₁ c₃ := by
  intro slot live other
  obtain ⟨same, stillOther⟩ := first slot live other
  have stillLive : Live c₂.hw slot := by
    unfold Live
    rw [same]
    exact live
  obtain ⟨again, last⟩ := second slot stillLive stillOther
  exact ⟨again.trans same, last⟩

theorem Quiet.spares (quiet : Quiet c c') : Spares c c' := by
  intro slot _ other
  refine ⟨by rw [quiet.slots], ?_⟩
  simpa [Owns, quiet.ppeId, quiet.mtblIdx] using other

theorem spares_step {plat : Platform} {env : Env} (step : Step plat env c c') : Spares c c' := by
  cases step with
  | note => exact fun _ _ other => ⟨rfl, other⟩
  | foe ptr f => exact Quiet.spares (quiet_updateFoe c ptr f)
  | delete => exact Quiet.spares (quiet_entryDelete plat env c)
  | setSlot ppe idx bmp bound chosen =>
    intro slot live other
    -- the slot that is written is the group's own, or was free
    have elsewhere : ¬ (slot.1 = ppe ∧ slot.2 = idx) := by
      rintro ⟨rfl, rfl⟩
      obtain own | ⟨_, free⟩ := chosen
      · exact other ⟨bound, own⟩
      · exact live free
    refine ⟨setHnatMtbl_other _ _ _ elsewhere, ?_⟩
    rintro ⟨owner, slotted⟩
    exact elsewhere ⟨Option.some.inj (owner.symm.trans bound), (Option.some.inj slotted).symm⟩
  | clearSlot ppe idx bound slotted =>
    intro slot _ other
    have elsewhere : ¬ (slot.1 = ppe ∧ slot.2 = idx) := by
      rintro ⟨rfl, rfl⟩
      exact other ⟨bound, slotted⟩
    exact ⟨c.hw.slots.write_other _ elsewhere, by simp [Owns]⟩
  | unbind psebmp => exact fun _ _ _ => ⟨rfl, by simp [Owns, Group.unbind]⟩

theorem spares_steps {plat : Platform} {env : Env} (steps : Steps plat env c c') : Spares c c' :=
  steps.relates Spares.refl (fun _ _ _ => Spares.trans) fun _ _ => spares_step

/-- A visit leaves the slots of the other groups, and the slot of its group as
it was written for it. -/
structure Refits (group : Group) (hw : Hw) (kept : Option Group) (hw' : Hw) : Prop where
  spares : ∀ slot, Live hw slot → ¬ Owns group slot →
    hw'.slots slot.1 slot.2 = hw.slots slot.1 slot.2
  fits : Fits group hw → ∀ o ∈ kept, Fits o hw'

theorem Spares.refits (spares : Spares c c') (fits : Fits c.group c.hw → Fits c'.group c'.hw) :
    Refits c.group c.hw (some c'.group) c'.hw where
  spares := fun slot live other => (spares slot live other).1
  fits := by
    rintro before o member
    obtain rfl := Option.some.inj member
    exact fits before

theorem Refits.refl (group : Group) (hw : Hw) : Refits group hw (some group) hw :=
  (Spares.refl ⟨group, hw, FoeEntry.zero⟩).refits id

theorem refits_onGroup {plat : Platform} {env : Env} {f : Ctx → Ctx}
    (steps : ∀ c, Steps plat env c (f c)) (ready : Ready ⟨group, hw, FoeEntry.zero⟩)
    (fits : ∀ c, Ready c → Fits c.group c.hw → Fits (f c).group (f c).hw) :
    Refits group hw (some (onGroup f group hw).1) (onGroup f group hw).2 :=
  (spares_steps (steps ⟨group, hw, FoeEntry.zero⟩)).refits (fits _ ready)

theorem fits_eventHwHandle (plat : Platform) (env : Env) (type ifindex : Nat) (ready : Ready c)
    (fits : Fits c.group c.hw) :
    Fits (hnatMcastEventHwHandle plat env type ifindex c).group
      (hnatMcastEventHwHandle plat env type ifindex c).hw := by
  unfold hnatMcastEventHwHandle
  split
  · exact fits
  · split
    · exact fits
    · dsimp only
      split
      · exact fits_hwUpdate plat env _ type ifindex _ ready fits
      · exact fits_of_idle _ (.inl rfl)

theorem fits_ifdownGroup (plat : Platform) (env : Env) (ifindex : Nat) (ready : Ready c)
    (fits : Fits c.group c.hw) :
    Fits (hnatMcastIfdownGroup plat env ifindex c).group
      (hnatMcastIfdownGroup plat env ifindex c).hw := by
  unfold hnatMcastIfdownGroup
  split
  · exact fits
  · split
    · exact fits
    · dsimp only
      split
      · exact fits_hwUpdate plat env _ _ ifindex _ ready fits
      · exact fits_of_idle _ (.inl rfl)

theorem fits_groupHandle (plat : Platform) (env : Env) (enable : Bool) (fits : Fits c.group c.hw) :
    Fits (hnatMcastGroupHandle plat env enable c).group
      (hnatMcastGroupHandle plat env enable c).hw := by
  unfold hnatMcastGroupHandle
  split
  · exact fits
  · split
    · exact fits
    · exact fits_of_idle _ (.inl (called_npuDeleteStations env _ _ false _).quiet.ppeId)

theorem fits_pathSwitchGroup (plat : Platform) (env : Env) (hwPath : Bool)
    (fits : Fits c.group c.hw) :
    Fits (pathSwitchGroup plat env hwPath c).group (pathSwitchGroup plat env hwPath c).hw := by
  unfold pathSwitchGroup
  dsimp only
  split
  · exact fits
  · exact fits_of_idle _ (.inl rfl)

theorem refits_blistDropGroup (plat : Platform) (env : Env) (mcast : McastBlistData)
    (group : Group) (hw : Hw) :
    Refits group hw (some (blistDropGroup plat env mcast group hw).1)
      (blistDropGroup plat env mcast group hw).2 := by
  unfold blistDropGroup
  split
  · have dropped := (steps_teardownNpu plat env ⟨group, hw, FoeEntry.zero⟩).trans
      (steps_dropGroup plat env _)
    exact (spares_steps dropped).refits fun _ => fits_of_idle _ (.inl rfl)
  · exact .refl group hw

theorem fits_updateStation (type ifindex : Nat) (fits : Fits group hw) :
    Fits (updateStation type ifindex group) hw := by
  unfold updateStation
  split <;> exact fits

theorem refits_groupUpdate (plat : Platform) (env : Env) (type ifindex : Nat)
    (toggle memberAlloc fresh : Bool) (ready : Ready ⟨group, hw, FoeEntry.zero⟩) :
    Refits group hw (groupUpdate plat env type ifindex toggle memberAlloc fresh group hw).1
      (groupUpdate plat env type ifindex toggle memberAlloc fresh group hw).2 := by
  unfold groupUpdate
  split
  · refine ⟨fun _ _ _ => rfl, fun fits o member => ?_⟩
    cases fresh with
    | true => cases member
    | false =>
      obtain rfl := Option.some.inj member
      exact fits
  · obtain ⟨mac, ip, mtblIdx, ppeId, foeIdx⟩ := updateStation_facts type ifindex group
    have sameOwner : Owns (updateStation type ifindex group) = Owns group := by
      funext slot
      simp only [Owns, mtblIdx, ppeId]
    have readyStation : Ready ⟨updateStation type ifindex group, hw, FoeEntry.zero⟩ := by
      refine ⟨⟨?_, ?_⟩, ?_⟩
      · rw [mac, ip]
        exact ready.sound.mac
      · rw [mtblIdx, ppeId, foeIdx]
        exact ready.sound.bound
      · intro slot holding
        exact ready.holds slot (sameOwner ▸ holding)
    have finish : ∀ (group' : Group) (hw' : Hw),
        Refits (updateStation type ifindex group) hw (some group') hw' →
        Refits group hw (if group'.members.isEmpty then none else some group') hw' := by
      intro group' hw' refits
      refine ⟨fun slot live other => refits.spares slot live (sameOwner ▸ other), ?_⟩
      intro fits o member
      split at member
      · cases member
      · exact refits.fits (fits_updateStation type ifindex fits) o member
    cases toggle with
    | true =>
      exact finish _ _ (refits_onGroup (steps_eventHwHandle plat env type ifindex) readyStation
        fun _ => fits_eventHwHandle plat env type ifindex)
    | false => exact finish _ _ (.refl _ _)

theorem refits_foeBindGroup (plat : Platform) (env : Env) (ppe foeIdx ifindex : Nat)
    (ready : Ready c)
    (samePpe : c.group.mtblIdx.isSome → c.group.offload = true → c.group.ppeId = some ppe) :
    Refits c.group c.hw (some (hnatMcastFoeBindGroup plat env ppe foeIdx ifindex c).2.group)
      (hnatMcastFoeBindGroup plat env ppe foeIdx ifindex c).2.hw := by
  by_cases offloaded : c.group.offload = true
  case neg =>
    have refused : (hnatMcastFoeBindGroup plat env ppe foeIdx ifindex c).2 = c := by
      simp [hnatMcastFoeBindGroup, offloaded]
    rw [refused]
    exact .refl c.group c.hw
  have kept : c.group.mtblIdx = none ∨ c.group.ppeId = some ppe := by
    cases slotted : c.group.mtblIdx with
    | none => exact .inl rfl
    | some index => exact .inr (samePpe (by simp [slotted]) offloaded)
  obtain ⟨mac, _, _, mtblIdx, ppeId, _⟩ := bindTo_facts c.group ppe foeIdx c.entry
  have psebmp : (Group.bindTo c.group ppe foeIdx c.entry).psebmp = c.group.psebmp := by
    unfold Group.bindTo
    dsimp only
    split <;> rfl
  have sameOwner : Owns (Group.bindTo c.group ppe foeIdx c.entry) = Owns c.group := by
    funext slot
    obtain idle | same := kept
    · simp [Owns, mtblIdx, idle]
    · simp [Owns, mtblIdx, ppeId, same]
  have rebound : Fits c.group c.hw → Fits (Group.bindTo c.group ppe foeIdx c.entry) c.hw := by
    intro fits slot owns
    unfold Written
    rw [mac, psebmp]
    exact fits slot (sameOwner ▸ owns)
  have readyBound := (lawful_bindTo ready ppe foeIdx kept).ready
  have finish : ∀ c' : Ctx, Spares { c with group := Group.bindTo c.group ppe foeIdx c.entry } c' →
      (Fits (Group.bindTo c.group ppe foeIdx c.entry) c.hw → Fits c'.group c'.hw) →
      Refits c.group c.hw (some c'.group) c'.hw := by
    intro c' spares fits
    have bound := spares.refits fits
    exact ⟨fun slot live other => bound.spares slot live (sameOwner ▸ other),
      fun before => bound.fits (rebound before)⟩
  have own : PointsTo (Group.bindTo c.group ppe foeIdx c.entry) .entry := trivial
  have updated := finish _
    (spares_steps (@steps_hwUpdate plat env
      (hnatMcastGetPseTxBmp env.devs (Group.bindTo c.group ppe foeIdx c.entry).members)
      RTM_NEWMDB ifindex .entry { c with group := Group.bindTo c.group ppe foeIdx c.entry } own))
    (fits_hwUpdate plat env _ RTM_NEWMDB ifindex .entry readyBound)
  have unchanged := finish _ (Spares.refl _) id
  unfold hnatMcastFoeBindGroup
  split
  · exact .refl c.group c.hw
  · split
    · exact .refl c.group c.hw
    · dsimp only
      split
      · split
        · exact updated
        · split <;> exact updated
      · split
        · exact unchanged
        · split <;> exact unchanged

theorem refits_visited {plat : Platform} {s : State} {event : Event} {hw' : Hw}
    {kept : Option Group} (keeps : KeepsSlots s event)
    (visited : Visited plat s event group hw kept hw') (ready : ∀ entry, Ready ⟨group, hw, entry⟩) :
    Refits group hw kept hw' := by
  cases visited with
  | known addressed typed found => exact refits_groupUpdate plat _ _ _ _ _ false (ready _)
  | created addressed typed unknown => exact refits_groupUpdate plat _ _ _ _ _ true (ready _)
  | @bind env hDest ppe foeIdx entry ifindex locked ip group enabled multicast allowed flow found =>
    exact refits_foeBindGroup plat env ppe foeIdx ifindex (ready entry)
      (keeps ⟨enabled, multicast, allowed⟩ ip flow group found)
  | goingDown hw enabled listed =>
    exact refits_onGroup (steps_ifdownGroup plat _ _) (ready _) fun _ => fits_ifdownGroup plat _ _
  | blist hw absent listed => exact refits_blistDropGroup plat _ _ _ _
  | offload hw listed =>
    exact refits_onGroup (steps_groupHandle plat _ _) (ready _)
      fun _ _ => fits_groupHandle plat _ _
  | pathSwitch switched =>
    exact refits_onGroup (steps_pathSwitchGroup plat _ _) (ready _)
      fun _ _ => fits_pathSwitchGroup plat _ _

/-- The slot of every group is as it was written for the group. -/
def Fitted (groups : List Group) (hw : Hw) : Prop := ∀ group ∈ groups, Fits group hw

theorem Fitted.replace {off : Prop} {before after : List Group} {kept : Option Group} {hw' : Hw}
    (fitted : Fitted (before ++ group :: after) hw) (held : Held off (before ++ group :: after) hw)
    (refits : Refits group hw kept hw') : Fitted (before ++ (kept.toList ++ after)) hw' := by
  have others : ∀ other ∈ before ++ after, Fits other hw' := by
    intro other listed slot owns
    have member : other ∈ before ++ group :: after := by
      rw [List.mem_append] at listed ⊢
      exact listed.imp_right (List.mem_cons_of_mem group)
    have live := held.1.live_of_owns member owns
    rw [refits.spares slot live (held.1.apart listed owns)]
    exact fitted other member slot owns
  intro other member
  simp only [List.mem_append, Option.mem_toList] at member
  obtain front | visited | back := member
  · exact others other (by simp [front])
  · exact refits.fits (fitted group (by simp)) other visited
  · exact others other (by simp [back])

theorem fitted_warmInit (plat : Platform) (ppeReset : Bool) (s : State) :
    Fitted (hnatWarmInit plat ppeReset s).groups (hnatWarmInit plat ppeReset s).hw := by
  intro group listed
  obtain ⟨old, _, rfl⟩ := List.mem_map.mp listed
  exact fits_of_idle _ (.inl rfl)

theorem fitted_step (plat : Platform) (s : State) (event : Event) (inv : Inv s)
    (keeps : KeepsSlots s event) (fitted : Fitted s.groups s.hw) :
    Fitted (step plat s event).groups (step plat s event).hw := by
  by_cases cold : ∀ ppeReset, event ≠ .warmInit ppeReset
  · have start : Held ((step plat s event).mcastHookToggle = false) s.groups s.hw :=
      inv.start keeps cold
    have both : Held ((step plat s event).mcastHookToggle = false) (step plat s event).groups
          (step plat s event).hw ∧
        Fitted (step plat s event).groups (step plat s event).hw := by
      refine @step_preserves plat s event (fun groups hw =>
        Held ((step plat s event).mcastHookToggle = false) groups hw ∧ Fitted groups hw)
        ⟨start, fitted⟩ ?_ ?_ ?_ cold
      · intro ip kept hw' _ visited
        refine ⟨start.entered inv keeps visited, ?_⟩
        have entered := start.enter (sound_create ip) rfl
        have fresh : Fitted (s.groups ++ [createdGroup ip]) s.hw := by
          intro group listed
          obtain old | new := List.mem_append.mp listed
          · exact fitted group old
          · exact List.mem_singleton.mp new ▸ fits_of_idle _ (.inl rfl)
        simpa using fresh.replace entered (refits_visited keeps visited
          fun entry => entered.ready (by simp [createdGroup]) entry)
      · rintro before group after hw kept hw' visited ⟨held, midway⟩
        exact ⟨held.visited inv keeps visited, midway.replace held
          (refits_visited keeps visited fun entry => held.ready (by simp) entry)⟩
      · intro groups hw ppe idx entry _ midway
        exact midway
    exact both.2
  · push Not at cold
    obtain ⟨ppeReset, rfl⟩ := cold
    exact fitted_warmInit plat ppeReset s

theorem fitted_run (plat : Platform) (events : List Event)
    (keeps : Along (step plat) KeepsSlots State.init events) :
    Inv (run (step plat) State.init events) ∧
      Fitted (run (step plat) State.init events).groups
        (run (step plat) State.init events).hw :=
  run_invariant (step plat) KeepsSlots (fun s => Inv s ∧ Fitted s.groups s.hw)
    (fun s event before guard => ⟨inv_step plat s event before.1 guard,
      fitted_step plat s event before.1 guard before.2⟩)
    State.init events ⟨inv_init, by simp [Fitted, State.init]⟩ keeps

theorem Written.key {slot : McastSlot} (written : Written group slot) :
    slotKey slot = macKey group.mac := by
  obtain rfl | rfl := written <;> rfl

/-- In every run whose steps keep the slots of the groups they unbind, two live
slots of a PPE with one key are those of two groups whose addresses differ and
derive one MAC.  The slot of a bound group holds its ports, and is the only one
that its MAC finds unless another group with a slot on the PPE has that MAC. -/
theorem multicast_lookup (plat : Platform) (events : List Event)
    (keeps : Along (step plat) KeepsSlots State.init events) :
    let s := run (step plat) State.init events
    (∀ ppe i j, i ≠ j → s.hw.slots ppe i ≠ McastSlot.empty → s.hw.slots ppe j ≠ McastSlot.empty →
      slotKey (s.hw.slots ppe i) = slotKey (s.hw.slots ppe j) →
        ∃ a ∈ s.groups, ∃ b ∈ s.groups, Owns a (ppe, i) ∧ Owns b (ppe, j) ∧ a.ip ≠ b.ip ∧
          hnatMcastGetMacFromMdb a.ip = hnatMcastGetMacFromMdb b.ip) ∧
    ∀ group ∈ s.groups, ∀ ppe index, group.ppeId = some ppe → group.mtblIdx = some index →
      Written group (s.hw.slots ppe index) ∧
        ((∀ other ∈ s.groups, other.ppeId = some ppe → other.mtblIdx.isSome →
            hnatMcastGetMacFromMdb other.ip = hnatMcastGetMacFromMdb group.ip →
              other.ip = group.ip) →
          ∀ i, s.hw.slots ppe i ≠ McastSlot.empty →
            slotKey (s.hw.slots ppe i) = macKey (hnatMcastGetMacFromMdb group.ip) → i = index) := by
  intro s
  obtain ⟨inv, fitted⟩ := fitted_run plat events keeps
  have distinct := (GroupList.inv_run plat events).distinct
  -- a live slot has its group, and the key of the MAC of its group
  have owner : ∀ ppe i, s.hw.slots ppe i ≠ McastSlot.empty → ∃ group ∈ s.groups,
      Owns group (ppe, i) ∧
        slotKey (s.hw.slots ppe i) = macKey (hnatMcastGetMacFromMdb group.ip) := by
    intro ppe i live
    obtain ⟨group, listed, owns⟩ := (inv.accounted.owned (ppe, i)).mp live
    refine ⟨group, listed, owns, ?_⟩
    rw [(fitted group listed (ppe, i) owns).key, (inv.sound group listed).mac]
  -- one address is one group, and one group has one slot
  have single : ∀ a ∈ s.groups, ∀ b ∈ s.groups, ∀ ppe i j, Owns a (ppe, i) → Owns b (ppe, j) →
      a.ip = b.ip → i = j := by
    intro a listedA b listedB ppe i j ownsA ownsB same
    obtain rfl := List.inj_on_of_nodup_map distinct listedA listedB same
    exact Option.some.inj (ownsA.2.symm.trans ownsB.2)
  refine ⟨?_, ?_⟩
  · intro ppe i j apart liveI liveJ same
    obtain ⟨a, listedA, ownsA, keyA⟩ := owner ppe i liveI
    obtain ⟨b, listedB, ownsB, keyB⟩ := owner ppe j liveJ
    refine ⟨a, listedA, b, listedB, ownsA, ownsB, ?_, ?_⟩
    · exact fun address => apart (single a listedA b listedB ppe i j ownsA ownsB address)
    · exact macKey_inj (keyA.symm.trans (same.trans keyB))
  · intro group listed ppe index bound slotted
    refine ⟨fitted group listed (ppe, index) ⟨bound, slotted⟩, ?_⟩
    intro alone i live found
    obtain ⟨other, listedOther, owns, key⟩ := owner ppe i live
    have sameMac := macKey_inj (key.symm.trans found)
    exact single other listedOther group listed ppe i index owns ⟨bound, slotted⟩
      (alone other listedOther owns.1 (by simp [owns.2]) sameMac)

theorem multicast_lookup_joiningRun :
    let s := run (step board) State.init joiningRun
    s.hw.slots 0 0 = slotFor 0x01005e010203 (MCAST_TO_GDMA2 ||| MCAST_TO_GDMA3) ∧
      ∀ i, s.hw.slots 0 i ≠ McastSlot.empty →
        slotKey (s.hw.slots 0 i) = macKey (hnatMcastGetMacFromMdb (.ipv4 streamIp)) → i = 0 := by
  refine ⟨by decide, ?_⟩
  intro i live found
  have only : ∀ group ∈ (run (step board) State.init joiningRun).groups,
      group.ip = .ipv4 streamIp ∧ group.ppeId = some 0 ∧ group.mtblIdx = some 0 := by
    decide
  obtain ⟨group, listed⟩ := List.exists_mem_of_ne_nil
    (run (step board) State.init joiningRun).groups (by decide)
  obtain ⟨address, bound, slotted⟩ := only group listed
  refine ((multicast_lookup board joiningRun (by decide)).2 group listed 0 0 bound
    slotted).2 ?_ i live (address ▸ found)
  intro other member _ _ _
  rw [(only other member).1, address]

def threePorts : Env where
  devs := fun ifindex =>
    if ifindex = 3 then some (ethernet NR_GMAC1_PORT) else twoPorts.devs ifindex
  mtkDsa := false
  hnatMcOps := none
  foeTimestamp := 9

/-- The address `238.1.2.3`, of which Ethernet sees as much as of `239.1.2.3`. -/
def otherIp : BitVec 32 := 0xee010203

def otherEntry : FoeEntry := Ipv4Hnapt.dip.set otherIp (Bfib1.state.set UNBIND FoeEntry.zero)

def joinOther (ifindex : Nat) : Event :=
  .mdb threePorts RTM_NEWMDB ⟨some (.ipv4 otherIp), ifindex⟩ true true

/-- Two streams, one to the interfaces 1 and 2 and one to the interfaces 1 and 3. -/
def collidingRun : List Event :=
  joiningRun ++ [joinOther 1, .foeWrite 0 8 otherEntry,
    .bind threePorts 0x01005e010203 0 8 otherEntry 1 true, joinOther 3]

/-- No step drops a slot, and the two slots of the PPE have one key and other
ports. -/
theorem collidingRun_same_key :
    let s := run (step board) State.init collidingRun
    Along (step board) KeepsSlots State.init collidingRun ∧
      s.hw.slots 0 0 ≠ McastSlot.empty ∧ s.hw.slots 0 1 ≠ McastSlot.empty ∧
      slotKey (s.hw.slots 0 0) = slotKey (s.hw.slots 0 1) ∧
      (s.hw.slots 0 0).mcPxEn ≠ (s.hw.slots 0 1).mcPxEn := by
  decide

end OpenwrtSource.Hnat.SlotLookup
