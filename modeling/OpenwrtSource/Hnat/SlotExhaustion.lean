import OpenwrtSource.Hnat.McastPlaces

/-!
# A multicast table without a free slot

A bind that finds no slot for its group takes the indices back and empties the
entry.  The handlers above the set-up go on as if it had succeeded.
-/

namespace OpenwrtSource.Hnat.SlotExhaustion

open Lib.BitField Lib.Run Lib.Ownership Hnat.Foe Hnat.McastTable Hnat.McastOffload Hnat.McastEvents
open Hnat.McastEffects Hnat.SlotOwnership Hnat.McastPlaces

/-- A group on several ports that has no slot; without an NPU, one that the switch
serves on its own. -/
def AsksForSlot (env : Env) (group : Group) : Prop :=
  group.mtblIdx = none ∧ egressOf env group ≠ 0 ∧
    bmpIsSinglePort (egressOf env group) = false ∧
      (env.hnatMcOps.isNone = true →
        env.mtkDsa = false ∧ bmpHas (egressOf env group) MCAST_TO_TDMA = false)

instance (env : Env) (group : Group) : Decidable (AsksForSlot env group) :=
  inferInstanceAs (Decidable (_ ∧ _ ∧ _ ∧ (_ → _ ∧ _)))

def Full (plat : Platform) (ppe : Nat) (hw : Hw) : Prop :=
  ∀ index < plat.maxEntry, hw.slots ppe index ≠ McastSlot.empty

/-- The packet binds the group, which needs a slot of the PPE, and none is free. -/
structure AsksInVain (plat : Platform) (env : Env) (hDest : Mac) (ppe : Nat) (entry : FoeEntry)
    (group : Group) (s : State) : Prop where
  reached : group ∈ boundGroup env hDest entry s
  asks : AsksForSlot env group
  full : Full plat ppe s.hw

/-- The group is unbound, its entry is not committed, and no slot has changed. -/
structure Refused (group : Group) (ppe foeIdx : Nat) (before after : State) : Prop where
  unbound : ∀ other ∈ after.groups, other.ip = group.ip →
    other.ppeId = none ∧ other.foeIdx = none ∧ other.psebmp = 0
  uncommitted : after.hw.foeTable ppe foeIdx = before.hw.foeTable ppe foeIdx
  slots : after.hw.slots = before.hw.slots

theorem alloc_eq_none_iff {plat : Platform} {ppe : Nat} {hw : Hw} :
    hnatMcastAllocMtblEntry plat.maxEntry (hw.slots ppe) = none ↔ Full plat ppe hw := by
  unfold hnatMcastAllocMtblEntry Full
  simp

/-- The group has no index and the entry is empty, but the bitmap is that of the members. -/
structure Undone (bmp : PseBmp) (c c' : Ctx) : Prop where
  ip : c'.group.ip = c.group.ip
  ppeId : c'.group.ppeId = none
  foeIdx : c'.group.foeIdx = none
  psebmp : c'.group.psebmp = bmp
  entry : c'.entry = FoeEntry.zero
  slots : c'.hw.slots = c.hw.slots
  foeTable : c'.hw.foeTable = c.hw.foeTable

section

variable (plat : Platform) {env : Env} {ppe : Nat} {c : Ctx}

theorem mtblSetup_full (pseBmp : PseBmp) (toNpu : Bool) (bound : c.group.ppeId = some ppe)
    (idle : c.group.mtblIdx = none) (full : Full plat ppe c.hw) :
    hnatMcastMtblSetup plat pseBmp .entry toNpu c =
      (-1, { c with
        entry := FoeEntry.zero
        group := { c.group with mtblIdx := none, ppeId := none, foeIdx := none } }) := by
  unfold hnatMcastMtblSetup
  rw [bound]
  dsimp only
  rw [idle]
  dsimp only
  rw [alloc_eq_none_iff.mpr full]
  rfl

variable {pseBmp : PseBmp}

theorem undone_mtblUpdate (toNpu : Bool) (several : bmpIsSinglePort pseBmp = false)
    (bound : c.group.ppeId = some ppe) (idle : c.group.mtblIdx = none) (full : Full plat ppe c.hw) :
    Undone pseBmp c ((foeMtblUpdate plat pseBmp .entry toNpu c).setPsebmp pseBmp) := by
  unfold foeMtblUpdate
  rw [several, mtblSetup_full plat pseBmp toNpu bound idle full]
  exact ⟨rfl, rfl, rfl, rfl, rfl, rfl, rfl⟩

theorem undone_noNpuHandle (stag : BitVec 8) (busy : pseBmp ≠ 0)
    (several : bmpIsSinglePort pseBmp = false) (noDsa : env.mtkDsa = false)
    (ethernet : bmpHas pseBmp MCAST_TO_TDMA = false) (bound : c.group.ppeId = some ppe)
    (idle : c.group.mtblIdx = none) (full : Full plat ppe c.hw) :
    hnatMcastNoNpuHandle plat env stag pseBmp .entry c =
      (0, { c with
        entry := FoeEntry.zero
        group :=
          { c.group with mtblIdx := none, ppeId := none, foeIdx := none, psebmp := pseBmp } }) := by
  have multi : (pseBmp != 0) = true := bne_iff_ne.mpr busy
  unfold hnatMcastNoNpuHandle hnatMcastNoNpuMultiHandle hnatMcastNoNpuGswMultiEth
  simp only [several, ethernet, noDsa, multi, Bool.false_and, Bool.not_false, Bool.and_true,
    Bool.false_or, if_true, Bool.false_eq_true, if_false]
  rw [mtblSetup_full plat _ false bound idle full]
  rfl

theorem undone_of_called {f : FoeEntry → FoeEntry} {c' : Ctx}
    (called : Called (c.updateFoe .entry f) c') (several : bmpIsSinglePort pseBmp = false)
    (bound : c.group.ppeId = some ppe) (idle : c.group.mtblIdx = none) (full : Full plat ppe c.hw) :
    Undone pseBmp c ((foeMtblUpdate plat pseBmp .entry true c').setPsebmp pseBmp) := by
  obtain ⟨offload, npuGrpIdx, npuCalls, rfl⟩ := called
  obtain ⟨ip, ppeId, foeIdx, psebmp, entry, slots, foeTable⟩ :=
    undone_mtblUpdate plat (c := { c.updateFoe .entry f with
      group := { c.group with offload := offload, npuGrpIdx := npuGrpIdx }
      hw := { c.hw with npuCalls := npuCalls } }) true several bound idle full
  exact ⟨ip, ppeId, foeIdx, psebmp, entry, slots, foeTable⟩

theorem undone_npuDsaHandle (stag : BitVec 8) (type ifindex : Nat)
    (several : bmpIsSinglePort pseBmp = false) (bound : c.group.ppeId = some ppe)
    (idle : c.group.mtblIdx = none) (full : Full plat ppe c.hw) :
    Undone pseBmp c (hnatMcastNpuDsaHandle plat env stag pseBmp type ifindex .entry c).2 := by
  unfold hnatMcastNpuDsaHandle
  dsimp only
  refine undone_of_called plat (f := hnatMcastFoeStagUpdate stag) ?_ several bound idle full
  exact called_npuUpdate env _ _ pseBmp type _ _

theorem undone_hwUpdate (type ifindex : Nat) {egress : Egress} (busy : egress.pseBmp ≠ 0)
    (several : bmpIsSinglePort egress.pseBmp = false) (served : env.hnatMcOps.isNone = true →
      env.mtkDsa = false ∧ bmpHas egress.pseBmp MCAST_TO_TDMA = false)
    (bound : c.group.ppeId = some ppe) (idle : c.group.mtblIdx = none) (full : Full plat ppe c.hw) :
    Undone egress.pseBmp c (hnatMcastHwUpdate plat env egress type ifindex .entry c).2 := by
  unfold hnatMcastHwUpdate
  dsimp only
  split
  next alone =>
    obtain ⟨noDsa, ethernet⟩ := served alone
    rw [undone_noNpuHandle plat _ busy several noDsa ethernet bound idle full]
    exact ⟨rfl, rfl, rfl, rfl, rfl, rfl, rfl⟩
  next npu =>
    split
    · exact undone_npuDsaHandle plat _ type ifindex several bound idle full
    · exact undone_mtblUpdate plat false several bound idle full

theorem hwUpdate_succeeds (type ifindex : Nat) (egress : Egress) (busy : egress.pseBmp ≠ 0)
    (several : bmpIsSinglePort egress.pseBmp = false) (served : env.hnatMcOps.isNone = true →
      env.mtkDsa = false ∧ bmpHas egress.pseBmp MCAST_TO_TDMA = false)
    (silent : env.hnatMcOps.isNone = true ∨ env.mtkDsa = false) (bound : c.group.ppeId = some ppe)
    (idle : c.group.mtblIdx = none) (full : Full plat ppe c.hw) :
    (hnatMcastHwUpdate plat env egress type ifindex .entry c).1 = 0 ∧
      (hnatMcastHwUpdate plat env egress type ifindex .entry c).2.group.offload =
        c.group.offload := by
  unfold hnatMcastHwUpdate
  dsimp only
  split
  next alone =>
    obtain ⟨noDsa, ethernet⟩ := served alone
    rw [undone_noNpuHandle plat _ busy several noDsa ethernet bound idle full]
    exact ⟨rfl, rfl⟩
  next npu =>
    rw [if_neg (by simpa [npu] using silent)]
    unfold hnatMcastNpuGswHandle foeMtblUpdate
    rw [several, mtblSetup_full plat egress.pseBmp false bound idle full]
    exact ⟨rfl, rfl⟩

end

section

variable (plat : Platform) {env : Env} {hDest : Mac} (ppe foeIdx ifindex : Nat) {entry : FoeEntry}
  {group : Group} {s : State}

theorem undone_foeBindGroup (vain : AsksInVain plat env hDest ppe entry group s) :
    Undone (egressOf env group) ⟨group, s.hw, entry⟩
      (hnatMcastFoeBindGroup plat env ppe foeIdx ifindex ⟨group, s.hw, entry⟩).2 := by
  obtain ⟨-, -, -, offloaded, kept⟩ := boundGroup_facts env hDest entry s vain.reached
  obtain ⟨idle, busy, several, served⟩ := vain.asks
  obtain ⟨-, ip, -, mtblIdx, bound, -⟩ := bindTo_facts group ppe foeIdx entry
  rw [foeBindGroup_eq plat ifindex (c := ⟨group, s.hw, entry⟩) offloaded kept busy]
  have undone : Undone (egressOf env group) ⟨Group.bindTo group ppe foeIdx entry, s.hw, entry⟩
      (hnatMcastHwUpdate plat env (hnatMcastGetPseTxBmp env.devs group.members) RTM_NEWMDB ifindex
        .entry ⟨Group.bindTo group ppe foeIdx entry, s.hw, entry⟩).2 :=
    undone_hwUpdate plat RTM_NEWMDB ifindex busy several served bound (mtblIdx.trans idle) vain.full
  exact ⟨undone.ip.trans ip, undone.ppeId, undone.foeIdx, undone.psebmp, undone.entry,
    undone.slots, undone.foeTable⟩

theorem foeBindGroup_succeeds (silent : env.hnatMcOps.isNone = true ∨ env.mtkDsa = false)
    (vain : AsksInVain plat env hDest ppe entry group s) :
    (hnatMcastFoeBindGroup plat env ppe foeIdx ifindex ⟨group, s.hw, entry⟩).1 = 0 := by
  obtain ⟨-, -, -, offloaded, kept⟩ := boundGroup_facts env hDest entry s vain.reached
  obtain ⟨idle, busy, several, served⟩ := vain.asks
  obtain ⟨-, -, members, mtblIdx, bound, -⟩ := bindTo_facts group ppe foeIdx entry
  have offload : (Group.bindTo group ppe foeIdx entry).offload = true := by
    unfold Group.bindTo
    dsimp only
    split <;> exact offloaded
  obtain ⟨done, still⟩ :=
    hwUpdate_succeeds plat (c := ⟨Group.bindTo group ppe foeIdx entry, s.hw, entry⟩) RTM_NEWMDB
      ifindex (hnatMcastGetPseTxBmp env.devs group.members) busy several served silent bound
      (mtblIdx.trans idle) vain.full
  unfold hnatMcastFoeBindGroup
  simp only [offloaded, kept, members, Bool.not_true, Bool.false_eq_true, if_false]
  rw [if_pos busy, done, still, offload]
  rfl

theorem commitPacket_reached (locked : Bool) (reached : group ∈ boundGroup env hDest entry s) :
    ∃ before after, s.groups = before ++ group :: after ∧
      commitPacket plat env hDest ppe foeIdx entry ifindex locked s =
        commitBound env ppe foeIdx locked
          ((hnatMcastFoeBindGroup plat env ppe foeIdx ifindex ⟨group, s.hw, entry⟩).1,
            (hnatMcastFoeBindGroup plat env ppe foeIdx ifindex ⟨group, s.hw, entry⟩).2.entry,
            { s with
              groups := before ++
                (hnatMcastFoeBindGroup plat env ppe foeIdx ifindex
                  ⟨group, s.hw, entry⟩).2.group :: after
              hw := (hnatMcastFoeBindGroup plat env ppe foeIdx ifindex
                ⟨group, s.hw, entry⟩).2.hw }) := by
  unfold boundGroup at reached
  split at reached
  next multicast =>
    simp only [Bool.and_eq_true, Bool.not_eq_true'] at multicast
    obtain ⟨⟨enabled, address⟩, allowed⟩ := multicast
    obtain ⟨ip, flow, filtered⟩ := Option.bind_eq_some_iff.mp reached
    obtain ⟨found, -⟩ := Option.filter_eq_some_iff.mp filtered
    unfold commitPacket hnatMcastFoeBindHandle
    simp only [enabled, address, allowed, Bool.true_and, Bool.false_eq_true, if_false, if_true]
    rw [flow]
    dsimp only
    cases visited : visitFirst (fun group => group.ip == ip)
        (bindGroup plat env ppe foeIdx ifindex) s.groups (0, entry, s.hw) with
    | none => exact absurd (found.symm.trans (visitFirst_none visited)) (by simp)
    | some result =>
      obtain ⟨groups, ret, taken, hw⟩ := result
      obtain ⟨before, first, after, whole, isFirst, kept, bound⟩ := visitFirst_some visited
      obtain rfl : group = first := Option.some.inj (found.symm.trans isFirst)
      obtain ⟨rfl, rfl, rfl⟩ := by simpa only [bindGroup, Prod.mk.injEq] using bound
      obtain rfl : groups = _ := kept
      exact ⟨before, after, whole, rfl⟩
  next => cases reached

theorem commitPacket_vain (locked : Bool) (vain : AsksInVain plat env hDest ppe entry group s) :
    (∃ other ∈ (commitPacket plat env hDest ppe foeIdx entry ifindex locked s).groups,
        other.ip = group.ip ∧ other.ppeId = none ∧ other.foeIdx = none ∧
          other.psebmp = egressOf env group) ∧
      (commitPacket plat env hDest ppe foeIdx entry ifindex locked s).hw.slots = s.hw.slots ∧
      (commitPacket plat env hDest ppe foeIdx entry ifindex locked s).hw.foeTable =
        if (hnatMcastFoeBindGroup plat env ppe foeIdx ifindex ⟨group, s.hw, entry⟩).1 = 0 ∧
            locked = true ∧ stateOf (s.hw.foeTable ppe foeIdx) = UNBIND then
          (s.hw.writeFoe ppe foeIdx
            (hnatFoeEntryCommit env.foeTimestamp FoeEntry.zero BIND)).foeTable
        else s.hw.foeTable := by
  obtain ⟨before, after, -, same⟩ :=
    commitPacket_reached plat ppe foeIdx ifindex locked vain.reached
  obtain ⟨ip, ppeId, index, psebmp, empty, slots, foeTable⟩ :=
    undone_foeBindGroup plat ppe foeIdx ifindex vain
  rw [same]
  generalize hnatMcastFoeBindGroup plat env ppe foeIdx ifindex ⟨group, s.hw, entry⟩ = bound at *
  unfold commitBound
  dsimp only at foeTable slots ⊢
  rw [foeTable]
  by_cases failed : bound.1 ≠ 0
  · rw [if_pos failed, if_neg fun commits => failed commits.1]
    exact ⟨⟨bound.2.group, by simp, ip, ppeId, index, psebmp⟩, slots, foeTable⟩
  · rw [if_neg failed]
    by_cases skipped : (!locked || stateOf (s.hw.foeTable ppe foeIdx) != UNBIND) = true
    · rw [if_pos skipped, if_neg]
      · exact ⟨⟨bound.2.group, by simp, ip, ppeId, index, psebmp⟩, slots, foeTable⟩
      · rintro ⟨-, free, unbound⟩
        simp [free, unbound] at skipped
    · rw [if_neg skipped, if_pos]
      · refine ⟨⟨bound.2.group, by simp, ip, ppeId, index, psebmp⟩, slots, ?_⟩
        unfold Hw.writeFoe
        dsimp only
        rw [foeTable, empty]
      · simpa [not_not.mp failed] using skipped

/-- A bind that finds no slot is never refused cleanly. -/
theorem slot_exhaustion_unclean (locked : Bool)
    (vain : AsksInVain plat env hDest ppe entry group s) :
    ¬ Refused group ppe foeIdx s
      (commitPacket plat env hDest ppe foeIdx entry ifindex locked s) := by
  intro refused
  obtain ⟨⟨other, listed, ip, -, -, psebmp⟩, -⟩ :=
    commitPacket_vain plat ppe foeIdx ifindex locked vain
  have cleared := (refused.unbound other listed ip).2.2
  exact vain.asks.2.1 (psebmp.symm.trans cleared)

end

def npuBoard : Env := { twoPorts with hnatMcOps := some ⟨none, none⟩ }

def streamAt (n : Nat) : BitVec 32 := BitVec.ofNat 32 (0xef010000 + n)

def entryAt (n : Nat) : FoeEntry :=
  Ipv4Hnapt.dip.set (streamAt n) (Bfib1.state.set UNBIND FoeEntry.zero)

def joinAt (n ifindex : Nat) : Event :=
  .mdb npuBoard RTM_NEWMDB ⟨some (.ipv4 (streamAt n)), ifindex⟩ true true

/-- The engine learns the stream in the FOE entry `n`, and two interfaces join. -/
def joined (n : Nat) : List Event := [.foeWrite 0 n (entryAt n), joinAt n 1, joinAt n 2]

def bindAt (n : Nat) : Event :=
  .bind npuBoard (hnatMcastGetMacFromMdb (.ipv4 (streamAt n))) 0 n (entryAt n) 1 true

def fillingRun : Nat → List Event
  | 0 => [.offload npuBoard true]
  | n + 1 => fillingRun n ++ joined n ++ [bindAt n]

/-- The first `n` slots are taken, by the groups of the first `n` streams. -/
structure Taken (n : Nat) (s : State) : Prop where
  toggle : s.mcastHookToggle = true
  blist : s.mcastBlistList = []
  slots : ∀ index, s.hw.slots 0 index = McastSlot.empty ↔ n ≤ index
  groups : ∀ group ∈ s.groups, ∃ earlier < n, group.ip = .ipv4 (streamAt earlier)

theorem streamAt_inj {i j : Nat} (inI : i ≤ 64) (inJ : j ≤ 64) (same : streamAt i = streamAt j) :
    i = j := by
  have value := congrArg BitVec.toNat same
  unfold streamAt at value
  rw [BitVec.toNat_ofNat, BitVec.toNat_ofNat] at value
  omega

variable {n : Nat} {s : State}

theorem Taken.skipped (taken : Taken n s) (few : n ≤ 64) :
    ∀ group ∈ s.groups, (group.ip == GroupIp.ipv4 (streamAt n)) = false := by
  intro group listed
  obtain ⟨earlier, before, ip⟩ := taken.groups group listed
  rw [ip]
  refine beq_eq_false_iff_ne.mpr fun same => ?_
  have := streamAt_inj (by omega) few (GroupIp.ipv4.inj same)
  omega

def groupAt (n : Nat) (members : List Nat) : Group :=
  { McastVisits.createdGroup (.ipv4 (streamAt n)) with members := members }

theorem step_joinFirst (toggle : s.mcastHookToggle = true)
    (skipped : ∀ group ∈ s.groups, (group.ip == GroupIp.ipv4 (streamAt n)) = false)
    (ifindex : Nat) :
    step board s (joinAt n ifindex) =
      { s with groups := s.groups ++ [groupAt n [ifindex]] } := by
  unfold joinAt step hnatMcastGroupUpdate
  dsimp only
  rw [if_neg (by decide), visitFirst_eq_none skipped, toggle]
  rfl

theorem eventHwHandle_unbound (plat : Platform) (env : Env) (type ifindex : Nat) {c : Ctx}
    (unbound : c.group.ppeId = none) : hnatMcastEventHwHandle plat env type ifindex c = c := by
  unfold hnatMcastEventHwHandle hnatMcastGetHwFoe
  rw [unbound]

theorem step_joinAgain {groups : List Group} {group : Group} (toggle : s.mcastHookToggle = true)
    (split : s.groups = groups ++ [group])
    (skipped : ∀ other ∈ groups, (other.ip == GroupIp.ipv4 (streamAt n)) = false)
    (found : group.ip = .ipv4 (streamAt n)) (unbound : group.ppeId = none) (ifindex : Nat) :
    step board s (joinAt n ifindex) =
      { s with groups := groups ++ [hnatMcastGroupAddStation group ifindex] } := by
  unfold joinAt step hnatMcastGroupUpdate
  dsimp only
  rw [if_neg (by decide), split, visitFirst_append skipped (by simpa using found), toggle]
  unfold groupUpdate onGroup
  rw [if_neg (by decide)]
  dsimp only
  rw [if_pos rfl, eventHwHandle_unbound board npuBoard _ _ unbound]
  have manned : (updateStation RTM_NEWMDB ifindex group).members.isEmpty = false := by
    simp [updateStation, hnatMcastGroupAddStation]
  rw [manned]
  rfl

theorem run_joined (taken : Taken n s) (few : n ≤ 64) :
    run (step board) s (joined n) =
      { s with
        groups := s.groups ++ [groupAt n [1, 2]]
        hw := s.hw.writeFoe 0 n (entryAt n) } := by
  have skipped := taken.skipped few
  unfold joined
  have first : step board (step board s (.foeWrite 0 n (entryAt n))) (joinAt n 1) =
      { s with
        groups := s.groups ++ [groupAt n [1]]
        hw := s.hw.writeFoe 0 n (entryAt n) } :=
    step_joinFirst (s := step board s (.foeWrite 0 n (entryAt n))) taken.toggle skipped 1
  rw [run_cons, run_cons, run_cons, run_nil, first]
  exact step_joinAgain (s := { s with
    groups := s.groups ++ [groupAt n [1]]
    hw := s.hw.writeFoe 0 n (entryAt n) }) taken.toggle rfl skipped rfl rfl 2

theorem alloc_taken (taken : Taken n s) (free : n < 64) :
    hnatMcastAllocMtblEntry 64 (s.hw.slots 0) = some n := by
  unfold hnatMcastAllocMtblEntry
  refine List.find?_range_eq_some.mpr ⟨?_, List.mem_range.mpr free, fun index before => ?_⟩
  · simpa using (taken.slots n).mpr (Nat.le_refl n)
  · have used : ¬ n ≤ index := by omega
    simpa using mt (taken.slots index).mp used

theorem foeGroupIp_entryAt (n : Nat) : foeGroupIp (entryAt n) = some (.ipv4 (streamAt n)) := by
  have type : pktTypeOf (entryAt n) = IPV4_HNAPT := by
    unfold entryAt pktTypeOf
    rw [Field.get_set_of_apart _ _ _ _ (by decide)]
    rfl
  unfold foeGroupIp
  rw [type]
  unfold entryAt
  rw [Field.get_set]
  rfl

theorem isMulticast_mdb (ip : BitVec 32) :
    isMulticastEtherAddr (hnatMcastGetMacFromMdb (.ipv4 ip)) = true := by
  unfold isMulticastEtherAddr hnatMcastGetMacFromMdb
  rw [BitVec.getLsbD_append]
  rfl

theorem reached_joined (taken : Taken n s) (few : n ≤ 64) :
    groupAt n [1, 2] ∈ boundGroup npuBoard (hnatMcastGetMacFromMdb (.ipv4 (streamAt n)))
      (entryAt n) (run (step board) s (joined n)) := by
  have missed : s.groups.find? (fun group => group.ip == GroupIp.ipv4 (streamAt n)) = none :=
    List.find?_eq_none.mpr fun group listed => by simp [taken.skipped few group listed]
  rw [run_joined taken few]
  unfold boundGroup
  rw [taken.toggle, taken.blist, isMulticast_mdb, foeGroupIp_entryAt]
  have allowed : hnatMcastChkBlist [] (entryAt n) = false := by
    unfold hnatMcastChkBlist
    rw [foeGroupIp_entryAt]
    rfl
  have own : (groupAt n [1, 2]).ip = .ipv4 (streamAt n) := rfl
  have kept : hnatMcastNoNpuTeardown npuBoard (groupAt n [1, 2]) = false := rfl
  rw [allowed, if_pos (by decide), Option.bind_some, List.find?_append, missed]
  simp [own, kept, Option.filter]
  rfl

theorem mtblSetup_free (plat : Platform) {ppe idx : Nat} {c : Ctx} (pseBmp : PseBmp)
    (bound : c.group.ppeId = some ppe) (idle : c.group.mtblIdx = none)
    (free : hnatMcastAllocMtblEntry plat.maxEntry (c.hw.slots ppe) = some idx) :
    hnatMcastMtblSetup plat pseBmp .entry false c =
      (0, { c with
        group := { c.group with mtblIdx := some idx }
        hw := { c.hw with slots := setHnatMtbl c.group.mac idx ppe pseBmp c.hw.slots } }) := by
  unfold hnatMcastMtblSetup
  rw [bound]
  dsimp only
  rw [idle]
  dsimp only
  rw [free]
  rfl

def bothPorts : Egress := hnatMcastGetPseTxBmp npuBoard.devs [1, 2]

theorem foeBindGroup_free {hw : Hw} (free : hnatMcastAllocMtblEntry 64 (hw.slots 0) = some n) :
    (hnatMcastFoeBindGroup board npuBoard 0 n 1 ⟨groupAt n [1, 2], hw, entryAt n⟩).2.hw.slots =
        hw.slots.write 0 n (SlotLookup.slotFor (hnatMcastGetMacFromMdb (.ipv4 (streamAt n)))
          bothPorts.pseBmp) ∧
      (hnatMcastFoeBindGroup board npuBoard 0 n 1 ⟨groupAt n [1, 2], hw, entryAt n⟩).2.group.ip =
        .ipv4 (streamAt n) := by
  have busy : bothPorts.pseBmp ≠ 0 := by decide
  have several : bmpIsSinglePort bothPorts.pseBmp = false := by decide
  obtain ⟨mac, ip, -, mtblIdx, bound, -⟩ := bindTo_facts (groupAt n [1, 2]) 0 n (entryAt n)
  have updated :
      (hnatMcastFoeBindGroup board npuBoard 0 n 1 ⟨groupAt n [1, 2], hw, entryAt n⟩).2 =
        (foeMtblUpdate board bothPorts.pseBmp .entry false
          ⟨Group.bindTo (groupAt n [1, 2]) 0 n (entryAt n), hw, entryAt n⟩).setPsebmp
            bothPorts.pseBmp :=
    (foeBindGroup_eq board 1 (c := ⟨groupAt n [1, 2], hw, entryAt n⟩) rfl rfl busy).trans rfl
  have setUp := mtblSetup_free board
    (c := ⟨Group.bindTo (groupAt n [1, 2]) 0 n (entryAt n), hw, entryAt n⟩) bothPorts.pseBmp bound
    mtblIdx free
  unfold foeMtblUpdate at updated
  rw [several, setUp] at updated
  rw [updated, ← SlotLookup.setHnatMtbl_eq]
  refine ⟨?_, ip⟩
  dsimp only [Ctx.setPsebmp]
  rw [mac]
  rfl

theorem commitBound_keeps (env : Env) (ppe foeIdx : Nat) (locked : Bool)
    (bound : Int × FoeEntry × State) :
    (commitBound env ppe foeIdx locked bound).groups = bound.2.2.groups ∧
      (commitBound env ppe foeIdx locked bound).mcastHookToggle = bound.2.2.mcastHookToggle ∧
      (commitBound env ppe foeIdx locked bound).mcastBlistList = bound.2.2.mcastBlistList ∧
      (commitBound env ppe foeIdx locked bound).hw.slots = bound.2.2.hw.slots := by
  unfold commitBound
  dsimp only
  split
  · exact ⟨rfl, rfl, rfl, rfl⟩
  · split <;> exact ⟨rfl, rfl, rfl, rfl⟩

theorem step_bindAt (n : Nat) (s : State) :
    step board s (bindAt n) =
      commitPacket board npuBoard (hnatMcastGetMacFromMdb (.ipv4 (streamAt n))) 0 n (entryAt n) 1
        true s := rfl

theorem taken_succ (taken : Taken n s) (free : n < 64) :
    Taken (n + 1) (step board (run (step board) s (joined n)) (bindAt n)) := by
  have reached := reached_joined taken free.le
  rw [run_joined taken free.le] at reached ⊢
  obtain ⟨before, after, whole, same⟩ := commitPacket_reached board 0 n 1 true reached
  have room : hnatMcastAllocMtblEntry 64 ((s.hw.writeFoe 0 n (entryAt n)).slots 0) = some n :=
    alloc_taken taken free
  obtain ⟨slots, ip⟩ := foeBindGroup_free room
  rw [step_bindAt, same]
  generalize hnatMcastFoeBindGroup board npuBoard 0 n 1
    ⟨groupAt n [1, 2], s.hw.writeFoe 0 n (entryAt n), entryAt n⟩ = bound at slots ip ⊢
  obtain ⟨groups, toggle, blist, kept⟩ := commitBound_keeps npuBoard 0 n true
    (bound.1, bound.2.entry, { s with
      groups := before ++ bound.2.group :: after
      hw := bound.2.hw })
  refine ⟨toggle.trans taken.toggle, blist.trans taken.blist, fun index => ?_,
    fun group listed => ?_⟩
  · rw [kept, slots]
    by_cases own : index = n
    · rw [own, SlotTable.write_same]
      refine iff_of_false (slotFor_ne_empty _ _) ?_
      omega
    · rw [SlotTable.write_other _ _ (by simp [own])]
      have earlier := taken.slots index
      rw [show (s.hw.writeFoe 0 n (entryAt n)).slots = s.hw.slots from rfl, earlier]
      omega
  · rw [groups] at listed
    have cases : group = bound.2.group ∨ group ∈ s.groups ++ [groupAt n [1, 2]] := by
      rw [show s.groups ++ [groupAt n [1, 2]] = before ++ groupAt n [1, 2] :: after from whole]
      simp only [List.mem_append, List.mem_cons] at listed ⊢
      tauto
    obtain rfl | old := cases
    · exact ⟨n, by omega, ip⟩
    · obtain old | new := List.mem_append.mp old
      · obtain ⟨earlier, before, ip⟩ := taken.groups group old
        exact ⟨earlier, by omega, ip⟩
      · obtain rfl := List.mem_singleton.mp new
        exact ⟨n, by omega, rfl⟩

theorem taken_fillingRun (few : n ≤ 64) : Taken n (run (step board) State.init (fillingRun n)) := by
  induction n with
  | zero =>
    exact ⟨rfl, rfl, fun _ => iff_of_true rfl (Nat.zero_le _), fun _ listed => nomatch listed⟩
  | succ n ih =>
    unfold fillingRun
    rw [run_append, run_append]
    exact taken_succ (ih (by omega)) (by omega)

theorem vain_of_taken (taken : Taken 64 s) :
    AsksInVain board npuBoard (hnatMcastGetMacFromMdb (.ipv4 (streamAt 64))) 0 (entryAt 64)
      (groupAt 64 [1, 2]) (run (step board) s (joined 64)) where
  reached := reached_joined taken (Nat.le_refl 64)
  asks := by decide
  full := by
    rw [run_joined taken (Nat.le_refl 64)]
    exact fun index inTable => mt (taken.slots index).mp (Nat.not_le.mpr inTable)

theorem commits_of_taken (taken : Taken 64 s) :
    stateOf ((run (step board) s (joined 64)).hw.foeTable 0 64) = UNBIND ∧
      stateOf ((step board (run (step board) s (joined 64)) (bindAt 64)).hw.foeTable 0 64) =
        BIND := by
  have learned : stateOf ((run (step board) s (joined 64)).hw.foeTable 0 64) = UNBIND := by
    rw [run_joined taken (Nat.le_refl 64)]
    dsimp only [Hw.writeFoe]
    rw [if_pos ⟨rfl, rfl⟩]
    decide
  have vain := vain_of_taken taken
  refine ⟨learned, ?_⟩
  have committed := (commitPacket_vain board 0 64 1 true vain).2.2
  have succeeded := foeBindGroup_succeeds board 0 64 1 (.inr rfl) vain
  rw [if_pos ⟨succeeded, rfl, learned⟩, ← step_bindAt] at committed
  rw [committed]
  dsimp only [Hw.writeFoe]
  rw [if_pos ⟨rfl, rfl⟩]
  exact Bfib1.state.get_set _ _

def fullState : State :=
  run (step board) (run (step board) State.init (fillingRun 64)) (joined 64)

/-- The empty entry of the refused stream is in the table as a bound one. -/
theorem fullState_commits_empty :
    AsksInVain board npuBoard (hnatMcastGetMacFromMdb (.ipv4 (streamAt 64))) 0 (entryAt 64)
        (groupAt 64 [1, 2]) fullState ∧
      ¬ Refused (groupAt 64 [1, 2]) 0 64 fullState (step board fullState (bindAt 64)) := by
  have taken := taken_fillingRun (Nat.le_refl 64)
  refine ⟨vain_of_taken taken, fun refused => ?_⟩
  obtain ⟨learned, committed⟩ := commits_of_taken taken
  have kept := congrArg stateOf refused.uncommitted
  rw [fullState, committed, learned] at kept
  exact absurd kept (by decide)

theorem slot_exhaustion_unclean_fullState :
    ¬ Refused (groupAt 64 [1, 2]) 0 64 fullState (step board fullState (bindAt 64)) :=
  slot_exhaustion_unclean board 0 64 1 true (vain_of_taken (taken_fillingRun (Nat.le_refl 64)))

end OpenwrtSource.Hnat.SlotExhaustion
