import OpenwrtSource.Hnat.BindEffects
import OpenwrtSource.Hnat.McastEffects

/-!
# What the commit of a bound entry leaves alone

The entry of a multicast packet goes to the handlers of its group before it is
committed.  They write the port and the word of the engines, and empty the entry
when the PPE has no slot left for the group.
-/

namespace OpenwrtSource.Hnat.BindMulticast

open Lib.Ownership Hnat.Foe Hnat.McastTable Hnat.McastOffload Hnat.McastEffects Hnat.Translation
open Hnat.BindEntry Hnat.BindEffects

def enableIds (toNpu : Bool) : EngineIds :=
  ⟨some 0, none, if toNpu then some HNAT_NPU_ENTRY_MC else none⟩

def disableIds (pseBmp : PseBmp) : EngineIds :=
  match ffsPort pseBmp with
  | none => .none
  | some dp => ⟨some 0, none, some (if dp = NR_TDMA_PORT then 30 else 0)⟩

theorem isIpv6Grp_of_foeGroupIp {entry : FoeEntry} (grouped : (foeGroupIp entry).isSome)
    (other : ¬ isIpv4Grp (pktTypeOf entry) = true) : isIpv6Grp (pktTypeOf entry) = true := by
  unfold foeGroupIp at grouped
  by_contra neither
  simp [other, neither] at grouped

theorem mcEnableIn_eq (iblk2 : Iblk2) (engine : EngineBlock) (toNpu : Bool) (entry : FoeEntry) :
    mcEnableIn iblk2 engine toNpu entry =
      iblk2.dp.set 0 (iblk2.mcast.set 1 ((enableIds toNpu).write engine entry)) := by
  cases toNpu <;> rfl

theorem withIds_ipv4 (ids : EngineIds) {entry : FoeEntry}
    (ipv4 : isIpv4Grp (pktTypeOf entry) = true) :
    withIds ids entry = ids.write Ipv4Hnapt.engine entry := by
  simp only [withIds, sharedEngine, ipv4, if_true]

theorem withIds_other (ids : EngineIds) {entry : FoeEntry}
    (other : ¬ isIpv4Grp (pktTypeOf entry) = true) :
    withIds ids entry = ids.write Ipv65tRoute.engine entry := by
  simp only [withIds, sharedEngine, other, if_false, Bool.false_eq_true]

theorem keeps_mcEnable (toNpu : Bool) {entry : FoeEntry} (grouped : (foeGroupIp entry).isSome) :
    KeepsFlow (withIds (enableIds toNpu) entry) (hnatMcastFoeMcEnable toNpu entry) := by
  unfold hnatMcastFoeMcEnable
  refine Keeps.set (Keeps.set ?_ _ _ (by decide)) _ _ (by decide)
  by_cases ipv4 : isIpv4Grp (pktTypeOf entry) = true
  · simp only [ipv4, if_true]
    rw [mcEnableIn_eq, ← withIds_ipv4 _ ipv4]
    rw [← pktTypeOf_withIds (enableIds toNpu)] at ipv4
    exact ((Keeps.refl _).setIn ipv4 _ _ (by decide)).setIn ipv4 _ _ (by decide)
  · have ipv6 := isIpv6Grp_of_foeGroupIp grouped ipv4
    simp only [ipv4, ipv6, if_true, if_false, Bool.false_eq_true]
    rw [mcEnableIn_eq, ← withIds_other _ ipv4]
    rw [← pktTypeOf_withIds (enableIds toNpu)] at ipv6
    exact ((Keeps.refl _).setIn ipv6 _ _ (by decide)).setIn ipv6 _ _ (by decide)

theorem keeps_mcDisable (pseBmp : PseBmp) {entry : FoeEntry} (grouped : (foeGroupIp entry).isSome) :
    KeepsFlow (withIds (disableIds pseBmp) entry) (hnatMcastFoeMcDisable pseBmp entry) := by
  unfold hnatMcastFoeMcDisable disableIds
  cases ffsPort pseBmp with
  | none => exact Keeps.refl _
  | some dp =>
    dsimp only
    refine Keeps.set (Keeps.set ?_ _ _ (by decide)) _ _ (by decide)
    by_cases ipv4 : isIpv4Grp (pktTypeOf entry) = true
    · have placed : KeepsFlow entry
          (Ipv4Hnapt.iblk2.mcast.set 0 (Ipv4Hnapt.iblk2.dp.set dp entry)) :=
        ((Keeps.refl entry).setIn ipv4 _ _ (by decide)).setIn ipv4 _ _
          (by decide)
      simp only [ipv4, if_true]
      have ported := keeps_withIds typed_flowBits placed
        ⟨some 0, none, some (if dp = NR_TDMA_PORT then 30 else 0)⟩
      rw [← placed.pktType typed_flowBits] at ipv4
      rw [withIds_ipv4 _ ipv4] at ported
      exact ported
    · have ipv6 := isIpv6Grp_of_foeGroupIp grouped ipv4
      have placed : KeepsFlow entry
          (Ipv65tRoute.iblk2.mcast.set 0 (Ipv65tRoute.iblk2.dp.set dp entry)) :=
        ((Keeps.refl entry).setIn ipv6 _ _ (by decide)).setIn ipv6 _ _
          (by decide)
      simp only [ipv4, ipv6, if_true, if_false, Bool.false_eq_true]
      have ported := keeps_withIds typed_flowBits placed
        ⟨some 0, none, some (if dp = NR_TDMA_PORT then 30 else 0)⟩
      rw [← placed.pktType typed_flowBits] at ipv4
      rw [withIds_other _ ipv4] at ported
      exact ported

theorem keeps_stagUpdate (stag : BitVec 8) (entry : FoeEntry) :
    KeepsFlow entry (hnatMcastFoeStagUpdate stag entry) := by
  have start : KeepsFlow entry entry := Keeps.refl entry
  unfold hnatMcastFoeStagUpdate
  refine Keeps.set ?_ _ _ (by decide)
  refine Keeps.ite _ (fun _ => ?_) fun _ => Keeps.ite _ (fun _ => ?_) fun _ => start
  · exact start.set _ _ (by decide)
  · exact start.set _ _ (by decide)

theorem KeepsFlow.foeGroupIp {before after : FoeEntry} (keeps : KeepsFlow before after) :
    foeGroupIp after = foeGroupIp before := by
  unfold McastTable.foeGroupIp
  rw [keeps.pktType typed_flowBits]
  split
  · rename_i ipv4
    rw [keeps.getIn ipv4 Ipv4Hnapt.dip (by decide)]
  · split
    · rename_i ipv6
      unfold Ipv6Field.get
      rw [keeps.getIn ipv6 Ipv65tRoute.ipv6Dip.ip0 (by decide),
        keeps.getIn ipv6 Ipv65tRoute.ipv6Dip.ip1 (by decide),
        keeps.getIn ipv6 Ipv65tRoute.ipv6Dip.ip2 (by decide),
        keeps.getIn ipv6 Ipv65tRoute.ipv6Dip.ip3 (by decide)]
    · rfl

def slotMissing (plat : Platform) (ppe : Nat) (group : Group) (hw : Hw) : Bool :=
  group.mtblIdx.isNone && (hnatMcastAllocMtblEntry plat.maxEntry (hw.slots ppe)).isNone

/-- What a group that leaves through these ports has written to the word of the
engines; nothing stays of an entry that needs a slot and gets none. -/
def portIds (plat : Platform) (ppe : Nat) (pseBmp : PseBmp) (toNpu : Bool) (group : Group)
    (hw : Hw) : Option EngineIds :=
  if bmpIsSinglePort pseBmp then some (disableIds pseBmp)
  else if slotMissing plat ppe group hw then none
  else some (enableIds toNpu)

theorem portIds_congr (plat : Platform) (ppe : Nat) (pseBmp : PseBmp) (toNpu : Bool)
    {group group' : Group} {hw hw' : Hw} (mtblIdx : group'.mtblIdx = group.mtblIdx)
    (slots : hw'.slots = hw.slots) :
    portIds plat ppe pseBmp toNpu group' hw' = portIds plat ppe pseBmp toNpu group hw := by
  unfold portIds slotMissing
  rw [mtblIdx, slots]

def groupIds (plat : Platform) (env : Env) (ppe : Nat) (group : Group) (hw : Hw) :
    Option EngineIds :=
  let pseBmp := (hnatMcastGetPseTxBmp env.devs group.members).pseBmp
  if pseBmp = 0 then some .none
  else portIds plat ppe pseBmp (env.hnatMcOps.isSome && env.mtkDsa) group hw

/-- An entry after the writes, apart from what says nothing of its flow. -/
def Settles (ids : Option EngineIds) (before after : FoeEntry) : Prop :=
  match ids with
  | none => after = FoeEntry.zero
  | some ids => KeepsFlow (withIds ids before) after

theorem Settles.of_keeps {ids : Option EngineIds} {first second third : FoeEntry}
    (keeps : KeepsFlow first second) (settles : Settles ids second third) :
    Settles ids first third := by
  cases ids with
  | none => exact settles
  | some ids => exact (keeps_withIds typed_flowBits keeps ids).trans typed_flowBits settles

theorem mtblTeardown_entry (c : Ctx) : (hnatMcastMtblTeardown c).entry = c.entry := by
  unfold hnatMcastMtblTeardown
  split <;> rfl

theorem mtblSetup_entry (plat : Platform) (pseBmp : PseBmp) (toNpu : Bool) {c : Ctx} {ppe : Nat}
    (bound : c.group.ppeId = some ppe) :
    (slotMissing plat ppe c.group c.hw = true ∧
        (hnatMcastMtblSetup plat pseBmp .entry toNpu c).1 = -1 ∧
        (hnatMcastMtblSetup plat pseBmp .entry toNpu c).2.entry = FoeEntry.zero) ∨
      (slotMissing plat ppe c.group c.hw = false ∧
        (hnatMcastMtblSetup plat pseBmp .entry toNpu c).1 = 0 ∧
        (hnatMcastMtblSetup plat pseBmp .entry toNpu c).2.entry = c.entry) := by
  unfold hnatMcastMtblSetup slotMissing
  simp only [bound]
  cases slotted : c.group.mtblIdx with
  | some idx => exact Or.inr ⟨rfl, rfl, rfl⟩
  | none =>
    cases found : hnatMcastAllocMtblEntry plat.maxEntry (c.hw.slots ppe) with
    | none => exact Or.inl ⟨rfl, rfl, rfl⟩
    | some idx => exact Or.inr ⟨rfl, rfl, rfl⟩

theorem settles_enable (plat : Platform) (pseBmp : PseBmp) (toNpu toSlot : Bool) {c : Ctx}
    {ppe : Nat} (bound : c.group.ppeId = some ppe) (grouped : (foeGroupIp c.entry).isSome) :
    Settles (if slotMissing plat ppe c.group c.hw then none else some (enableIds toNpu)) c.entry
      (if (hnatMcastMtblSetup plat pseBmp .entry toSlot c).1 = 0 then
        (hnatMcastMtblSetup plat pseBmp .entry toSlot c).2.updateFoe .entry
          (hnatMcastFoeMcEnable toNpu)
      else (hnatMcastMtblSetup plat pseBmp .entry toSlot c).2).entry := by
  obtain ⟨missing, failed, emptied⟩ | ⟨present, done, kept⟩ :=
    mtblSetup_entry plat pseBmp toSlot bound
  · rw [missing, failed]
    exact emptied
  · rw [present, done, if_pos rfl, if_neg Bool.false_ne_true]
    change KeepsFlow _ (hnatMcastFoeMcEnable toNpu (Ctx.readFoe _ .entry))
    simp only [Ctx.readFoe, kept]
    exact keeps_mcEnable toNpu grouped

theorem settles_foeMtblUpdate (plat : Platform) (pseBmp : PseBmp) (toNpu : Bool) {c : Ctx}
    {ppe : Nat} (bound : c.group.ppeId = some ppe) (grouped : (foeGroupIp c.entry).isSome) :
    Settles (portIds plat ppe pseBmp toNpu c.group c.hw) c.entry
      (foeMtblUpdate plat pseBmp .entry toNpu c).entry := by
  unfold foeMtblUpdate portIds
  split
  · rw [mtblTeardown_entry]
    exact keeps_mcDisable pseBmp grouped
  · exact settles_enable plat pseBmp toNpu toNpu bound grouped

theorem settles_npuDsaHandle (plat : Platform) (env : Env) (stag : BitVec 8) (pseBmp : PseBmp)
    (type ifindex : Nat) {c : Ctx} {ppe : Nat} (bound : c.group.ppeId = some ppe)
    (grouped : (foeGroupIp c.entry).isSome) :
    Settles (portIds plat ppe pseBmp true c.group c.hw) c.entry
      (hnatMcastNpuDsaHandle plat env stag pseBmp type ifindex .entry c).2.entry := by
  have tagged := keeps_stagUpdate stag c.entry
  have updated : ∀ called, Called (c.updateFoe .entry (hnatMcastFoeStagUpdate stag)) called →
      Settles (portIds plat ppe pseBmp true c.group c.hw) c.entry
        ((foeMtblUpdate plat pseBmp .entry true called).setPsebmp pseBmp).entry := by
    intro called calls
    have entry : called.entry = hnatMcastFoeStagUpdate stag c.entry := by
      obtain ⟨_, _, _, rfl⟩ := calls
      rfl
    have settled := settles_foeMtblUpdate plat pseBmp true (calls.quiet.ppeId.trans bound)
      (by rw [entry, KeepsFlow.foeGroupIp tagged]; exact grouped)
    rw [portIds_congr plat ppe pseBmp true calls.quiet.mtblIdx calls.quiet.slots, entry] at settled
    exact Settles.of_keeps tagged settled
  exact updated _ (called_npuUpdate env _ _ _ type _ _)

theorem settles_noNpuHandle (plat : Platform) (env : Env) (stag : BitVec 8) (pseBmp : PseBmp)
    {c : Ctx} {ppe : Nat} (bound : c.group.ppeId = some ppe) (grouped : (foeGroupIp c.entry).isSome)
    (busy : pseBmp ≠ 0) (done : ¬ (hnatMcastNoNpuHandle plat env stag pseBmp .entry c).1 < 0) :
    Settles (portIds plat ppe pseBmp false c.group c.hw) c.entry
      (hnatMcastNoNpuHandle plat env stag pseBmp .entry c).2.entry := by
  unfold hnatMcastNoNpuHandle hnatMcastNoNpuMultiHandle at done ⊢
  cases single : bmpIsSinglePort pseBmp with
  | false =>
    have several : (pseBmp != 0) = true := by simpa using busy
    simp only [single, several, Bool.false_and, Bool.not_false, Bool.and_true, Bool.false_or,
      if_true, Bool.true_and] at done ⊢
    cases dsa : env.mtkDsa with
    | true => simp [dsa, hnatMcastNoNpuTeardownGroup] at done
    | false =>
      cases wifi : bmpHas pseBmp MCAST_TO_TDMA with
      | true => simp [dsa, wifi, hnatMcastNoNpuTeardownGroup] at done
      | false =>
        simp only [portIds, single, Bool.false_eq_true, if_false, Bool.not_false, if_true]
        exact settles_enable plat pseBmp false false bound grouped
  | true =>
    simp only [single, Bool.true_and, Bool.not_true, Bool.false_and, Bool.or_false] at done ⊢
    cases wifi : bmpHas pseBmp MCAST_TO_TDMA with
    | true =>
      cases dsa : env.mtkDsa with
      | true => simp [dsa, wifi, hnatMcastNoNpuTeardownGroup] at done
      | false => simp [dsa, wifi, hnatMcastNoNpuTeardownGroup] at done
    | false =>
      simp only [portIds, single, Bool.false_eq_true, if_false, Bool.not_false, if_true]
      have tagged := keeps_stagUpdate stag c.entry
      change Settles _ _ (hnatMcastMtblTeardown _).entry
      rw [mtblTeardown_entry]
      exact Settles.of_keeps tagged
        (keeps_mcDisable pseBmp ((KeepsFlow.foeGroupIp tagged).symm ▸ grouped))

theorem settles_hwUpdate (plat : Platform) (env : Env) (egress : Egress) (type ifindex : Nat)
    {c : Ctx} {ppe : Nat} (bound : c.group.ppeId = some ppe)
    (grouped : (foeGroupIp c.entry).isSome) (busy : egress.pseBmp ≠ 0)
    (done : ¬ (hnatMcastHwUpdate plat env egress type ifindex .entry c).1 < 0) :
    Settles (portIds plat ppe egress.pseBmp (env.hnatMcOps.isSome && env.mtkDsa) c.group c.hw)
      c.entry (hnatMcastHwUpdate plat env egress type ifindex .entry c).2.entry := by
  unfold hnatMcastHwUpdate at done ⊢
  cases npu : env.hnatMcOps.isSome with
  | false =>
    have absent : env.hnatMcOps.isNone = true := by simpa using npu
    simp only [absent, if_true, Bool.false_and] at done ⊢
    exact settles_noNpuHandle plat env _ _ bound grouped busy done
  | true =>
    have present : env.hnatMcOps.isNone = false := by
      rw [← Option.not_isSome, npu]
      rfl
    simp only [present, Bool.false_eq_true, if_false, Bool.true_and]
    cases dsa : env.mtkDsa with
    | true => exact settles_npuDsaHandle plat env _ _ type ifindex bound grouped
    | false => exact settles_foeMtblUpdate plat egress.pseBmp false bound grouped

theorem settles_foeBindGroup (plat : Platform) (env : Env) (ppe foeIdx ifindex : Nat) {c : Ctx}
    (grouped : (foeGroupIp c.entry).isSome)
    (done : (hnatMcastFoeBindGroup plat env ppe foeIdx ifindex c).1 = 0) :
    Settles (groupIds plat env ppe c.group c.hw) c.entry
      (hnatMcastFoeBindGroup plat env ppe foeIdx ifindex c).2.entry := by
  obtain ⟨-, -, members, mtblIdx, ppeId, -⟩ := bindTo_facts c.group ppe foeIdx c.entry
  unfold hnatMcastFoeBindGroup at done ⊢
  split at done
  · cases done
  · rename_i offloaded
    split at done
    · cases done
    · rename_i served
      rw [if_neg offloaded, if_neg served]
      dsimp only at done ⊢
      unfold groupIds
      rw [members] at done ⊢
      by_cases busy : (hnatMcastGetPseTxBmp env.devs c.group.members).pseBmp = 0
      · simp only [busy, ne_eq, not_true_eq_false, if_false, if_true] at done ⊢
        split
        · exact Keeps.refl _
        · split <;> exact Keeps.refl _
      · simp only [busy, ne_eq, not_false_eq_true, if_true, if_false] at done ⊢
        split at done
        · cases done
        · rename_i succeeded
          have settled := @settles_hwUpdate plat env _ RTM_NEWMDB ifindex
            ⟨Group.bindTo c.group ppe foeIdx c.entry, c.hw, c.entry⟩ ppe ppeId grouped busy
            succeeded
          rw [portIds_congr plat ppe _ _ mtblIdx rfl] at settled
          rw [if_neg succeeded]
          split <;> exact settled

/-- What the commit of a packet writes to the word of the engines, where the
destination of its flow is `ip`. -/
def mcastIds (plat : Platform) (pass : Pass) (ip : Option GroupIp) (m : McastEvents.State) :
    Option EngineIds :=
  if m.mcastHookToggle && isMulticastEtherAddr pass.skb.hDest then
    match ip.bind fun ip => m.groups.find? fun group => group.ip == ip with
    | none => some .none
    | some group => groupIds plat pass.env pass.skb.desc.ppe group m.hw
  else some .none

theorem settles_bindGroup (plat : Platform) (pass : Pass) (entry : FoeEntry)
    (m : McastEvents.State) (accepted : (bindGroup plat pass entry m).1 = 0) :
    Settles (mcastIds plat pass (foeGroupIp entry) m) entry (bindGroup plat pass entry m).2.1 := by
  unfold bindGroup at accepted ⊢
  dsimp only at accepted ⊢
  split at accepted
  · cases accepted
  · rename_i unlisted
    rw [if_neg unlisted]
    unfold mcastIds
    split at accepted
    · rename_i multicast
      rw [if_pos multicast, if_pos multicast]
      dsimp only at accepted ⊢
      unfold McastEvents.hnatMcastFoeBindHandle at accepted ⊢
      cases grouped : foeGroupIp entry with
      | none => simp [grouped, NF_ACCEPT] at accepted
      | some ip =>
        simp only [grouped, Option.bind_some] at accepted ⊢
        cases visited : visitFirst (fun group => group.ip == ip)
            (McastEvents.bindGroup plat pass.env pass.skb.desc.ppe pass.skb.desc.entry
              pass.skb.ifindex) m.groups (0, entry, m.hw) with
        | none => simp [visited, NF_ACCEPT] at accepted
        | some result =>
          obtain ⟨groups, ret, entry', hw⟩ := result
          obtain ⟨_, group, _, -, found, -, result⟩ := visitFirst_some visited
          rw [visited] at accepted
          simp only [Prod.ext_iff, McastEvents.bindGroup] at result
          obtain ⟨rfl, rfl, -⟩ := result
          rw [found]
          refine @settles_foeBindGroup plat pass.env _ _ _ ⟨group, m.hw, entry⟩
            (by simp [grouped]) ?_
          by_contra failed
          simp [failed, NF_ACCEPT] at accepted
    · rename_i unicast
      rw [if_neg unicast, if_neg unicast]
      exact Keeps.refl entry

theorem settles_commitEntry {plat : Platform} {pass : Pass} {entry written : FoeEntry}
    {s : BindEntry.State} (committed : (commitEntry plat pass entry s).1.entry = some written) :
    ∃ settled, Settles (mcastIds plat pass (foeGroupIp entry) s.mcast) entry settled ∧
      written = hnatFoeEntryCommit pass.env.foeTimestamp settled BIND := by
  unfold commitEntry at committed
  dsimp only at committed
  split at committed
  · cases committed
  · rename_i accepted
    split at committed
    · cases committed
    · exact ⟨_, settles_bindGroup plat pass entry s.mcast (by simpa using accepted),
        (Option.some.inj committed).symm⟩

end OpenwrtSource.Hnat.BindMulticast
