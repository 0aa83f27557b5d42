import OpenwrtSource.Hnat.SlotLookup

/-!
# What an update of a group writes

An update writes the FOE entry, the slot and the cached bitmap of a group for
one set of ports, or takes the indices of the group away.
-/

namespace OpenwrtSource.Hnat.EgressUpdate

open Lib.BitField Hnat.Foe Hnat.McastTable Hnat.McastOffload Hnat.McastEffects Hnat.SlotOwnership
open Hnat.SlotLookup

def psePorts : List (PseBmp × PsePort) :=
  [(MCAST_TO_GDMA1, NR_GMAC1_PORT), (MCAST_TO_GDMA2, NR_GMAC2_PORT),
    (MCAST_TO_GDMA3, NR_GMAC3_PORT), (MCAST_TO_TDMA, NR_TDMA_PORT)]

theorem ffsPort_mem : ∀ bmp : PseBmp, bmpIsSinglePort bmp = true → bmpHas bmp MCAST_TO_PDMA = false →
    ∃ port ∈ ffsPort bmp, (bmp, port) ∈ psePorts := by
  decide

theorem bmpHas_or (a b port : PseBmp) : bmpHas (a ||| b) port = (bmpHas a port || bmpHas b port) := by
  have split : (a ||| b) &&& port = (a &&& port) ||| (b &&& port) := by
    rw [BitVec.and_comm, BitVec.and_or_distrib_left, BitVec.and_comm port, BitVec.and_comm port]
  unfold bmpHas
  rw [split]
  simp [bne, Bool.beq_eq_decide_eq, BitVec.or_eq_zero_iff]

theorem devEgress_not_pdma (dev : NetDev) :
    bmpHas (devEgress dev ⟨0, 0⟩).pseBmp MCAST_TO_PDMA = false := by
  unfold devEgress
  split
  · unfold hnatMcastHandleDsa
    split <;> simp only <;> decide
  · split
    · simp only
      decide
    · split
      · unfold hnatMcastSetGmacBit
        split
        · simp only
          decide
        · split
          · simp only
            decide
          · split <;> simp only <;> decide
      · decide

theorem foldl_not_pdma (devs : DevTable) (members : List Nat) (egress : Egress)
    (start : bmpHas egress.pseBmp MCAST_TO_PDMA = false) :
    bmpHas (members.foldl (memberEgress devs) egress).pseBmp MCAST_TO_PDMA = false := by
  induction members generalizing egress with
  | nil => exact start
  | cons ifindex rest ih =>
    apply ih
    unfold memberEgress
    split
    · exact start
    · split
      next dev _ _ => rw [devEgress_pseBmp, bmpHas_or, start, devEgress_not_pdma]; rfl
      · exact start

theorem pseTxBmp_not_pdma (devs : DevTable) (members : List Nat) :
    bmpHas (hnatMcastGetPseTxBmp devs members).pseBmp MCAST_TO_PDMA = false :=
  foldl_not_pdma devs members _ (by decide)

/-- The layout in which a group's handlers write an entry of the type. -/
def sharedIblk2 (pktType : FoeIpAct) : Iblk2 :=
  if isIpv4Grp pktType then Ipv4Hnapt.iblk2 else Ipv65tRoute.iblk2

def mcastOf (entry : FoeEntry) : BitVec 1 := (sharedIblk2 (pktTypeOf entry)).mcast.get entry

def dpOf (entry : FoeEntry) : PsePort := (sharedIblk2 (pktTypeOf entry)).dp.get entry

/-- A single port is in the entry itself; several are in a slot. -/
def ForwardsTo (bmp : PseBmp) (entry : FoeEntry) : Prop :=
  if bmpIsSinglePort bmp then mcastOf entry = 0 ∧ (bmp, dpOf entry) ∈ psePorts
  else mcastOf entry = 1

instance (bmp : PseBmp) (entry : FoeEntry) : Decidable (ForwardsTo bmp entry) := by
  unfold ForwardsTo
  infer_instance

theorem grouped_iff (entry : FoeEntry) :
    (foeGroupIp entry).isSome = (isIpv4Grp (pktTypeOf entry) || isIpv6Grp (pktTypeOf entry)) := by
  unfold foeGroupIp
  split
  next ipv4 => simp [ipv4]
  next other =>
    split
    next ipv6 => simp [ipv6]
    next neither => simp [other, neither]

theorem mcEnable_spec (toNpu : Bool) (entry : FoeEntry) :
    foeGroupIp (hnatMcastFoeMcEnable toNpu entry) = foeGroupIp entry ∧
      ((foeGroupIp entry).isSome → mcastOf (hnatMcastFoeMcEnable toNpu entry) = 1) := by
  rw [grouped_iff]
  have typed : pktTypeOf (hnatMcastFoeMcEnable toNpu entry) = pktTypeOf entry := by
    unfold hnatMcastFoeMcEnable mcEnableIn pktTypeOf
    cases toNpu <;> (repeat' split) <;> simp (disch := decide) only [Field.get_set_of_apart]
  unfold foeGroupIp mcastOf sharedIblk2 Ipv6Field.get
  rw [typed]
  unfold hnatMcastFoeMcEnable mcEnableIn
  cases ipv4 : isIpv4Grp (pktTypeOf entry) <;> cases ipv6 : isIpv6Grp (pktTypeOf entry) <;>
    cases toNpu <;>
    simp (disch := decide) [Field.get_set_of_apart]

variable {bmp : PseBmp}

theorem mcDisable_spec {port : PsePort} (lowest : ffsPort bmp = some port) (entry : FoeEntry) :
    foeGroupIp (hnatMcastFoeMcDisable bmp entry) = foeGroupIp entry ∧
      ((foeGroupIp entry).isSome → mcastOf (hnatMcastFoeMcDisable bmp entry) = 0 ∧
        dpOf (hnatMcastFoeMcDisable bmp entry) = port) := by
  rw [grouped_iff]
  unfold hnatMcastFoeMcDisable
  rw [lowest]
  dsimp only
  cases ipv4 : isIpv4Grp (pktTypeOf entry) with
  | true =>
    simp only [if_true]
    unfold foeGroupIp mcastOf dpOf sharedIblk2 mcDisableIn
    unfold pktTypeOf at ipv4 ⊢
    simp (disch := decide) [Field.get_set_of_apart, ipv4]
  | false =>
    cases ipv6 : isIpv6Grp (pktTypeOf entry) with
    | true =>
      simp only [if_true, Bool.false_eq_true, if_false]
      unfold foeGroupIp mcastOf dpOf sharedIblk2 mcDisableIn Ipv6Field.get
      unfold pktTypeOf at ipv4 ipv6 ⊢
      simp (disch := decide) [Field.get_set_of_apart, ipv4, ipv6]
    | false =>
      simp only [Bool.false_eq_true, if_false]
      unfold foeGroupIp
      unfold pktTypeOf at ipv4 ipv6 ⊢
      simp (disch := decide) [Field.get_set_of_apart, ipv4, ipv6]

theorem forwardsTo_enable (several : bmpIsSinglePort bmp = false) (toNpu : Bool) (entry : FoeEntry)
    (grouped : (foeGroupIp (hnatMcastFoeMcEnable toNpu entry)).isSome) :
    ForwardsTo bmp (hnatMcastFoeMcEnable toNpu entry) := by
  obtain ⟨ip, mcast⟩ := mcEnable_spec toNpu entry
  rw [ip] at grouped
  simpa [ForwardsTo, several] using mcast grouped

theorem forwardsTo_disable (single : bmpIsSinglePort bmp = true)
    (noPdma : bmpHas bmp MCAST_TO_PDMA = false) (entry : FoeEntry)
    (grouped : (foeGroupIp (hnatMcastFoeMcDisable bmp entry)).isSome) :
    ForwardsTo bmp (hnatMcastFoeMcDisable bmp entry) := by
  obtain ⟨port, lowest, listed⟩ := ffsPort_mem bmp single noPdma
  obtain ⟨ip, fields⟩ := mcDisable_spec lowest entry
  rw [ip] at grouped
  obtain ⟨mcast, dp⟩ := fields grouped
  simpa [ForwardsTo, single, mcast, dp] using listed

def writtenPorts (toNpu : Bool) (bmp : PseBmp) : PseBmp := if toNpu then npuBmp bmp else bmp

/-- A group with a single port has no slot; with several it has one that holds
the ports. -/
def SlotFor (bmp held : PseBmp) (ppe : Nat) (group : Group) (hw : Hw) : Prop :=
  if bmpIsSinglePort bmp then group.mtblIdx = none
  else ∃ index ∈ group.mtblIdx, hw.slots ppe index = slotFor group.mac held

instance (bmp held : PseBmp) (ppe : Nat) (group : Group) (hw : Hw) :
    Decidable (SlotFor bmp held ppe group hw) := by
  unfold SlotFor
  infer_instance

/-- The group, its slot and the entry are as an update leaves them. -/
structure Settled (toNpu : Bool) (bmp : PseBmp) (ppe : Nat) (ptr : FoePtr) (c : Ctx) : Prop where
  psebmp : c.group.psebmp = bmp
  slot : SlotFor bmp (writtenPorts toNpu bmp) ppe c.group c.hw
  entry : (foeGroupIp (c.readFoe ptr)).isSome → ForwardsTo bmp (c.readFoe ptr)

theorem readFoe_updateFoe (c : Ctx) (ptr : FoePtr) (f : FoeEntry → FoeEntry) :
    (c.updateFoe ptr f).readFoe ptr = f (c.readFoe ptr) := by
  cases ptr <;> simp [Ctx.updateFoe, Ctx.writeFoe, Hw.writeFoe, Ctx.readFoe]

theorem readFoe_mtblTeardown (c : Ctx) (ptr : FoePtr) :
    (hnatMcastMtblTeardown c).readFoe ptr = c.readFoe ptr := by
  unfold hnatMcastMtblTeardown
  split <;> cases ptr <;> rfl

theorem readFoe_setPsebmp (c : Ctx) (bmp : PseBmp) (ptr : FoePtr) :
    (c.setPsebmp bmp).readFoe ptr = c.readFoe ptr := by
  cases ptr <;> rfl

theorem mtblTeardown_idle {c : Ctx} {ppe : Nat} (bound : c.group.ppeId = some ppe) :
    (hnatMcastMtblTeardown c).group.mtblIdx = none := by
  unfold hnatMcastMtblTeardown
  cases slotted : c.group.mtblIdx with
  | none => exact slotted
  | some index =>
    rw [bound]

section

variable (plat : Platform) {bmp : PseBmp} {ptr : FoePtr} {c : Ctx} {ppe : Nat}

variable (toNpu : Bool) (env : Env)

theorem settled_disable (single : bmpIsSinglePort bmp = true)
    (noPdma : bmpHas bmp MCAST_TO_PDMA = false) (bound : c.group.ppeId = some ppe) :
    Settled toNpu bmp ppe ptr
      ((hnatMcastMtblTeardown (c.updateFoe ptr (hnatMcastFoeMcDisable bmp))).setPsebmp bmp) := by
  have quiet := quiet_updateFoe c ptr (hnatMcastFoeMcDisable bmp)
  refine ⟨rfl, ?_, ?_⟩
  · unfold SlotFor
    rw [if_pos single]
    exact mtblTeardown_idle (quiet.ppeId.trans bound)
  · intro grouped
    rw [readFoe_setPsebmp, readFoe_mtblTeardown, readFoe_updateFoe] at grouped ⊢
    exact forwardsTo_disable single noPdma _ grouped

theorem mtblSetup_cases (mac : c.group.mac = hnatMcastGetMacFromMdb c.group.ip)
    (bound : c.group.ppeId = some ppe) :
    ((hnatMcastMtblSetup plat bmp ptr toNpu c).1 = -1 ∧
        (hnatMcastMtblSetup plat bmp ptr toNpu c).2.group.ppeId = none) ∨
      ((hnatMcastMtblSetup plat bmp ptr toNpu c).1 = 0 ∧
        ∃ index ∈ (hnatMcastMtblSetup plat bmp ptr toNpu c).2.group.mtblIdx,
          (hnatMcastMtblSetup plat bmp ptr toNpu c).2.hw.slots ppe index =
            slotFor (hnatMcastMtblSetup plat bmp ptr toNpu c).2.group.mac
              (writtenPorts toNpu bmp)) := by
  have written : ∀ index,
      setHnatMtbl c.group.mac index ppe (if toNpu then (bmp &&& ~~~ MCAST_TO_GDMA1) |||
        MCAST_TO_TDMA else bmp) c.hw.slots ppe index =
          slotFor c.group.mac (writtenPorts toNpu bmp) := by
    intro index
    rw [mac, setHnatMtbl_eq, SlotTable.write_same]
    rfl
  unfold hnatMcastMtblSetup
  rw [bound]
  dsimp only
  cases slotted : c.group.mtblIdx with
  | some index => exact .inr ⟨rfl, index, rfl, written index⟩
  | none =>
    dsimp only
    cases found : hnatMcastAllocMtblEntry plat.maxEntry (c.hw.slots ppe) with
    | none => exact .inl ⟨rfl, rfl⟩
    | some index => exact .inr ⟨rfl, index, rfl, written index⟩

theorem settled_enable (toEntry : Bool) (several : bmpIsSinglePort bmp = false)
    (mac : c.group.mac = hnatMcastGetMacFromMdb c.group.ip) (bound : c.group.ppeId = some ppe) :
    let setUp := hnatMcastMtblSetup plat bmp ptr toNpu c
    let after := (if setUp.1 = 0 then setUp.2.updateFoe ptr (hnatMcastFoeMcEnable toEntry)
      else setUp.2).setPsebmp bmp
    after.group.ppeId = none ∨ Settled toNpu bmp ppe ptr after := by
  obtain ⟨failed, unbound⟩ | ⟨done, index, slotted, held⟩ :=
    @mtblSetup_cases plat bmp ptr c ppe toNpu mac bound
  · left
    rw [if_neg (by rw [failed]; decide)]
    exact unbound
  · right
    rw [if_pos done]
    have quiet := quiet_updateFoe (hnatMcastMtblSetup plat bmp ptr toNpu c).2 ptr
      (hnatMcastFoeMcEnable toEntry)
    refine ⟨rfl, ?_, ?_⟩
    · unfold SlotFor
      rw [if_neg (by simp [several])]
      refine ⟨index, ?_, ?_⟩
      · exact quiet.mtblIdx.trans slotted
      · change (Ctx.updateFoe _ ptr _).hw.slots ppe index = slotFor (Ctx.updateFoe _ ptr _).group.mac _
        rw [quiet.slots, quiet.mac]
        exact held
    · intro grouped
      rw [readFoe_setPsebmp, readFoe_updateFoe] at grouped ⊢
      exact forwardsTo_enable several toEntry _ grouped

theorem settled_foeMtblUpdate (noPdma : bmpHas bmp MCAST_TO_PDMA = false)
    (mac : c.group.mac = hnatMcastGetMacFromMdb c.group.ip) (bound : c.group.ppeId = some ppe) :
    ((foeMtblUpdate plat bmp ptr toNpu c).setPsebmp bmp).group.ppeId = none ∨
      Settled toNpu bmp ppe ptr ((foeMtblUpdate plat bmp ptr toNpu c).setPsebmp bmp) := by
  unfold foeMtblUpdate
  cases single : bmpIsSinglePort bmp with
  | true => exact .inr (settled_disable toNpu single noPdma bound)
  | false => exact settled_enable plat toNpu toNpu single mac bound

theorem settled_noNpuHandle (stag : BitVec 8) (busy : bmp ≠ 0)
    (noPdma : bmpHas bmp MCAST_TO_PDMA = false)
    (mac : c.group.mac = hnatMcastGetMacFromMdb c.group.ip) (bound : c.group.ppeId = some ppe) :
    (hnatMcastNoNpuHandle plat env stag bmp ptr c).2.group.ppeId = none ∨
      Settled false bmp ppe ptr (hnatMcastNoNpuHandle plat env stag bmp ptr c).2 := by
  unfold hnatMcastNoNpuHandle
  dsimp only
  split
  next several =>
    unfold hnatMcastNoNpuMultiHandle
    split
    · exact .inl rfl
    · split
      next multiEth =>
        simp only [Bool.and_eq_true, Bool.not_eq_true'] at multiEth
        exact settled_enable plat false false multiEth.1.1 mac bound
      · exact .inl rfl
  next notSeveral =>
    split
    next gdmaOnly =>
      simp only [Bool.and_eq_true] at gdmaOnly
      right
      have quiet := quiet_updateFoe c ptr (hnatMcastFoeStagUpdate stag)
      exact settled_disable false gdmaOnly.1 noPdma (quiet.ppeId.trans bound)
    next neither =>
      have busy : bmp ≠ 0#5 := busy
      exfalso
      revert notSeveral neither
      cases bmpIsSinglePort bmp <;> cases bmpHas bmp MCAST_TO_TDMA <;> simp [busy]

def sendsToNpu (env : Env) : Bool := env.hnatMcOps.isSome && env.mtkDsa

theorem settled_hwUpdate (egress : Egress) (type ifindex : Nat) (busy : egress.pseBmp ≠ 0)
    (noPdma : bmpHas egress.pseBmp MCAST_TO_PDMA = false)
    (mac : c.group.mac = hnatMcastGetMacFromMdb c.group.ip) (bound : c.group.ppeId = some ppe) :
    (hnatMcastHwUpdate plat env egress type ifindex ptr c).2.group.ppeId = none ∨
      Settled (sendsToNpu env) egress.pseBmp ppe ptr
        (hnatMcastHwUpdate plat env egress type ifindex ptr c).2 := by
  unfold hnatMcastHwUpdate sendsToNpu
  dsimp only
  cases npu : env.hnatMcOps with
  | none => exact settled_noNpuHandle plat env _ busy noPdma mac bound
  | some ops =>
    cases dsa : env.mtkDsa with
    | false => exact settled_foeMtblUpdate plat false noPdma mac bound
    | true =>
      simp only [Option.isNone_some, Bool.false_eq_true, if_false, if_true]
      unfold hnatMcastNpuDsaHandle
      have updated : ∀ called, Quiet c called →
          ((foeMtblUpdate plat egress.pseBmp ptr true called).setPsebmp
              egress.pseBmp).group.ppeId = none ∨
            Settled true egress.pseBmp ppe ptr
              ((foeMtblUpdate plat egress.pseBmp ptr true called).setPsebmp
                egress.pseBmp) := by
        intro called quiet
        refine settled_foeMtblUpdate plat true noPdma ?_ (quiet.ppeId.trans bound)
        rw [quiet.mac, quiet.ip]
        exact mac
      exact updated _ ((quiet_updateFoe c ptr _).trans
        (called_npuUpdate env _ _ _ type _ _).quiet)

theorem mtblTeardown_table (c : Ctx) : (hnatMcastMtblTeardown c).hw.foeTable = c.hw.foeTable := by
  unfold hnatMcastMtblTeardown
  split <;> rfl

theorem mtblSetup_table :
    (hnatMcastMtblSetup plat bmp .entry toNpu c).2.hw.foeTable = c.hw.foeTable := by
  unfold hnatMcastMtblSetup
  split
  · rfl
  · dsimp only
    split <;> rfl

theorem setup_entry_table (toEntry : Bool) :
    (if (hnatMcastMtblSetup plat bmp .entry toNpu c).1 = 0 then
      (hnatMcastMtblSetup plat bmp .entry toNpu c).2.updateFoe .entry (hnatMcastFoeMcEnable toEntry)
    else (hnatMcastMtblSetup plat bmp .entry toNpu c).2).hw.foeTable = c.hw.foeTable := by
  split <;> exact mtblSetup_table plat toNpu

theorem foeMtblUpdate_table :
    (foeMtblUpdate plat bmp .entry toNpu c).hw.foeTable = c.hw.foeTable := by
  unfold foeMtblUpdate
  split
  · exact mtblTeardown_table _
  · exact setup_entry_table plat toNpu toNpu

theorem hwUpdate_table (egress : Egress) (type ifindex : Nat) :
    (hnatMcastHwUpdate plat env egress type ifindex .entry c).2.group.ppeId = none ∨
      (hnatMcastHwUpdate plat env egress type ifindex .entry c).2.hw.foeTable = c.hw.foeTable := by
  unfold hnatMcastHwUpdate
  dsimp only
  split
  · unfold hnatMcastNoNpuHandle
    dsimp only
    split
    · unfold hnatMcastNoNpuMultiHandle
      split
      · exact .inl rfl
      · split
        · exact .inr (setup_entry_table plat false false)
        · exact .inl rfl
    · split
      · exact .inr (mtblTeardown_table _)
      · exact .inr rfl
  · split
    · unfold hnatMcastNpuDsaHandle
      have updated : ∀ called, Called (c.updateFoe .entry
            (hnatMcastFoeStagUpdate (egress.stag.setWidth 8))) called →
          (foeMtblUpdate plat egress.pseBmp .entry true called).hw.foeTable = c.hw.foeTable := by
        intro called calls
        rw [foeMtblUpdate_table]
        obtain ⟨_, _, _, rfl⟩ := calls
        rfl
      exact .inr (updated _ (called_npuUpdate env _ _ _ type _ _))
    · exact .inr (foeMtblUpdate_table plat false)

end

theorem commit_spec (timestamp : BitVec 8) (state : FoeEntryState) (entry : FoeEntry) :
    foeGroupIp (hnatFoeEntryCommit timestamp entry state) = foeGroupIp entry ∧
      mcastOf (hnatFoeEntryCommit timestamp entry state) = mcastOf entry ∧
      dpOf (hnatFoeEntryCommit timestamp entry state) = dpOf entry := by
  have typed : pktTypeOf (hnatFoeEntryCommit timestamp entry state) = pktTypeOf entry := by
    unfold hnatFoeEntryCommit pktTypeOf
    simp (disch := decide) only [Field.get_set_of_apart]
  unfold foeGroupIp mcastOf dpOf sharedIblk2 Ipv6Field.get
  rw [typed]
  unfold hnatFoeEntryCommit
  cases ipv4 : isIpv4Grp (pktTypeOf entry) <;>
    simp (disch := decide) [Field.get_set_of_apart]

theorem forwardsTo_commit {entry : FoeEntry} (forwards : ForwardsTo bmp entry)
    (timestamp : BitVec 8) (state : FoeEntryState) :
    ForwardsTo bmp (hnatFoeEntryCommit timestamp entry state) := by
  obtain ⟨_, mcast, dp⟩ := commit_spec timestamp state entry
  unfold ForwardsTo at forwards ⊢
  rwa [mcast, dp]

end OpenwrtSource.Hnat.EgressUpdate
