import Mathlib.Algebra.BigOperators.Intervals
import OpenwrtSource.Hnat.FlowList
import OpenwrtSource.Hnat.StaticEntry
import OpenwrtSource.Hnat.TableSizing
import OpenwrtSource.Lib.TableFold

/-!
# Walks over the FOE and flow tables

The loops over the tables end at `hnat_priv->foe_etry_num` or at `DEF_ETRY_NUM`,
the loops over a flow table at a quarter of it.  The tables have the size that
`hnat_start` could allocate.
-/

namespace OpenwrtSource.Hnat.TableWalks

open Lib.Probe Lib.TableFold Lib.TableWalk Hnat.Register Hnat.Foe Hnat.McastTable Hnat.McastOffload
open Hnat.EntryUpdate
open Hnat.EntryDelete (deleteBound)
open Hnat.StaticEntry Hnat.TableSizing

/-! ## The tables -/

inductive TableKind where
  | foeTableCpu
  | foeFlow
  deriving DecidableEq

structure Table where
  kind : TableKind
  ppe : Nat
  deriving DecidableEq

def entries (s : Priv) (table : Table) : Option Nat :=
  match table.kind with
  | .foeTableCpu => s.foeTable table.ppe
  | .foeFlow => s.foeFlow table.ppe

/-! ## The loops over whole tables -/

inductive Limit where
  | defEtryNum
  | foeEtryNum

/-- `for (index = 0; index < limit; index++)`, or `limit / 4` over a flow table, for each PPE of a
list. -/
structure Loop where
  kind : TableKind
  limit : Limit
  ppes : List Nat

def Limit.value (soc : Soc) (s : Priv) : Limit → Nat
  | .defEtryNum => DEF_ETRY_NUM soc
  | .foeEtryNum => s.foeEtryNum

def Loop.count (soc : Soc) (s : Priv) (loop : Loop) : Nat :=
  match loop.kind with
  | .foeTableCpu => loop.limit.value soc s
  | .foeFlow => loop.limit.value soc s / 4

def Loop.tables (loop : Loop) : List Table := loop.ppes.map (Table.mk loop.kind)

def Loop.accesses (soc : Soc) (s : Priv) (loop : Loop) : List (Access Table) :=
  walks (loop.count soc s) loop.tables

section

variable (ppeNum : Nat) (s : Priv) (ppeId : Nat)

def hnatResetTimestamp : List Loop := [⟨.foeTableCpu, .foeEtryNum, [0]⟩]

def entryDeleteByMac : List Loop := [⟨.foeTableCpu, .defEtryNum, List.range ppeNum⟩]
def entryDeleteByIp : List Loop := [⟨.foeTableCpu, .defEtryNum, List.range ppeNum⟩]
def entryDeleteByBssidWcid : List Loop := [⟨.foeTableCpu, .defEtryNum, List.range ppeNum⟩]

def hnatFlowEntryTeardownAll : List Loop := [⟨.foeFlow, .defEtryNum, [ppeId]⟩]
def hnatFlowEntryTeardownHandler : List Loop := [⟨.foeFlow, .defEtryNum, List.range ppeNum⟩]

/-- `memset` and `INIT_HLIST_HEAD`, behind the allocation. -/
def hnatStart : List Loop :=
  [⟨.foeTableCpu, .foeEtryNum, [ppeId]⟩, ⟨.foeFlow, .foeEtryNum, [ppeId]⟩]

def hnatStop : List Loop :=
  if ppeNum ≤ ppeId then []
  else
    (if (s.foeTable ppeId).isSome then [⟨.foeTableCpu, .foeEtryNum, [ppeId]⟩] else []) ++
      if (s.foeFlow ppeId).isSome then hnatFlowEntryTeardownAll ppeId else []

def hnatDisableHook : List Loop := [⟨.foeTableCpu, .foeEtryNum, List.range ppeNum⟩]

/-- `memset`. -/
def hnatWarmInit : List Loop := [⟨.foeTableCpu, .foeEtryNum, List.range ppeNum⟩]

def foeClearEthdevBindEntries : List Loop := [⟨.foeTableCpu, .foeEtryNum, List.range ppeNum⟩]
def foeClearAllBindEntries : List Loop := [⟨.foeTableCpu, .foeEtryNum, List.range ppeNum⟩]

/-- The PPEs that `if (!hnat_priv->foe_table_cpu[i]) continue` leaves. -/
def mappedPpes : List Nat := (List.range ppeNum).filter fun i => (s.foeTable i).isSome

def foeClearCryptoEntry : List Loop := [⟨.foeTableCpu, .foeEtryNum, mappedPpes ppeNum s⟩]
def foeClearEntry : List Loop := [⟨.foeTableCpu, .foeEtryNum, mappedPpes ppeNum s⟩]

def mtkHnatGetAllMibCounts : List Loop := [⟨.foeTableCpu, .foeEtryNum, List.range ppeNum⟩]

def ofPpe : List Loop := if ppeNum ≤ ppeId then [] else [⟨.foeTableCpu, .foeEtryNum, [ppeId]⟩]

def entryDelete : List Loop := ofPpe ppeNum ppeId
def hnatDebugShow : List Loop := ofPpe ppeNum ppeId
def hnatEntryRead : List Loop := ofPpe ppeNum ppeId

/-- `memset`. -/
def setHashSimpleMode : List Loop := [⟨.foeTableCpu, .foeEtryNum, List.range ppeNum⟩]

def hnatMcastCheckTimestamp : List Loop := [⟨.foeTableCpu, .foeEtryNum, List.range ppeNum⟩]

end

/-- The functions that walk whole tables once the driver runs. -/
inductive WholeWalk where
  | hnatResetTimestamp
  | entryDeleteByMac
  | entryDeleteByIp
  | entryDeleteByBssidWcid
  | hnatFlowEntryTeardownHandler
  | hnatStop (ppeId : Nat)
  | hnatDisableHook
  | hnatWarmInit
  | foeClearEthdevBindEntries
  | foeClearAllBindEntries
  | foeClearCryptoEntry
  | foeClearEntry
  | mtkHnatGetAllMibCounts
  | entryDelete (ppeId : Nat)
  | hnatDebugShow (ppeId : Nat)
  | hnatEntryRead (ppeId : Nat)
  | setHashSimpleMode
  | hnatMcastCheckTimestamp

def WholeWalk.loops (ppeNum : Nat) (s : Priv) : WholeWalk → List Loop
  | .hnatResetTimestamp => TableWalks.hnatResetTimestamp
  | .entryDeleteByMac => TableWalks.entryDeleteByMac ppeNum
  | .entryDeleteByIp => TableWalks.entryDeleteByIp ppeNum
  | .entryDeleteByBssidWcid => TableWalks.entryDeleteByBssidWcid ppeNum
  | .hnatFlowEntryTeardownHandler => TableWalks.hnatFlowEntryTeardownHandler ppeNum
  | .hnatStop ppeId => TableWalks.hnatStop ppeNum s ppeId
  | .hnatDisableHook => TableWalks.hnatDisableHook ppeNum
  | .hnatWarmInit => TableWalks.hnatWarmInit ppeNum
  | .foeClearEthdevBindEntries => TableWalks.foeClearEthdevBindEntries ppeNum
  | .foeClearAllBindEntries => TableWalks.foeClearAllBindEntries ppeNum
  | .foeClearCryptoEntry => TableWalks.foeClearCryptoEntry ppeNum s
  | .foeClearEntry => TableWalks.foeClearEntry ppeNum s
  | .mtkHnatGetAllMibCounts => TableWalks.mtkHnatGetAllMibCounts ppeNum
  | .entryDelete ppeId => TableWalks.entryDelete ppeNum ppeId
  | .hnatDebugShow ppeId => TableWalks.hnatDebugShow ppeNum ppeId
  | .hnatEntryRead ppeId => TableWalks.hnatEntryRead ppeNum ppeId
  | .setHashSimpleMode => TableWalks.setHashSimpleMode ppeNum
  | .hnatMcastCheckTimestamp => TableWalks.hnatMcastCheckTimestamp ppeNum

/-! ## What the loops do at an entry -/

/-! ## The loops over chosen entries -/

def boundaryEntryOffset : List Nat := [12, 25, 38, 51, 76, 89, 102, 115]

/-- The entries that `exclude_boundary_entry` marks, from `entry_base` on. -/
def badEntries (foeEtryNum entryBase : Nat) : List Nat :=
  if entryBase < foeEtryNum then
    boundaryEntryOffset.map (entryBase + ·) ++ badEntries foeEtryNum (entryBase + 128)
  else []
termination_by foeEtryNum - entryBase
decreasing_by omega

def excludeBoundaryEntry (s : Priv) (ppeId : Nat) : List (Access Table) :=
  if (s.foeTable ppeId).isNone then []
  else (badEntries s.foeEtryNum 0).map (Access.mk ⟨.foeTableCpu, ppeId⟩)

/-- The slots whose state the loop of `hnat_static_entry_write` reads. -/
def staticSlots (taken : Nat → Bool) : Nat → Nat → List Nat
  | 0, slot => [slot]
  | tries + 1, slot => slot :: if taken slot then staticSlots taken tries (slot + 1) else []

/-- What one of the commands reads for the line of text. -/
structure StaticCall where
  scan : Scan
  readable : Bool
  text : List Char
  table : FoeTable

def platform (ppeNum : Nat) (s : Priv) : Platform := ⟨ppeNum, s.foeEtryNum, 0⟩

def staticAccesses (ppeNum : Nat) (s : Priv) (call : StaticCall) : List (Access Table) :=
  let plat := platform ppeNum s
  match staticEntry plat call.scan call.readable call.text with
  | none => []
  | some (hash, entry) =>
    (staticSlots (bound call.table (staticPpe plat entry)) 4 (staticHash plat hash entry)).map
      (Access.mk ⟨.foeTableCpu, staticPpe plat entry⟩)

/-- `hnat_flow_entry_search`: its callers have checked the PPE and the hash of the packet. -/
def hnatFlowEntrySearch (ppeNum : Nat) (s : Priv) (ppeIndex hash : Nat) : List (Access Table) :=
  if ppeIndex < ppeNum ∧ hash < s.foeEtryNum then [⟨⟨.foeFlow, ppeIndex⟩, hash / 4⟩] else []

/-! ## What the walks are for -/

inductive Walk where
  | whole (walk : WholeWalk)
  | excludeBoundaryEntry (ppeId : Nat)
  | hnatStaticEntryWrite (call : StaticCall)
  | hnatFlowEntrySearch (ppeIndex hash : Nat)

/-- The loop stays in its tables and visits all of their entries. -/
def Loop.Exact (soc : Soc) (s : Priv) (loop : Loop) : Prop :=
  InBounds (entries s) (loop.accesses soc s) ∧
    ∀ table ∈ loop.tables, Covers (entries s) (loop.accesses soc s) table

/-- A walk that looks at chosen entries only has to stay in the table. -/
def Walk.Exact (soc : Soc) (ppeNum : Nat) (s : Priv) : Walk → Prop
  | .whole walk => ∀ loop ∈ walk.loops ppeNum s, loop.Exact soc s
  | .excludeBoundaryEntry ppeId =>
    soc.version = .v1_1 ∧ ppeId < ppeNum →
      InBounds (entries s) (TableWalks.excludeBoundaryEntry s ppeId)
  | .hnatStaticEntryWrite call => InBounds (entries s) (staticAccesses ppeNum s call)
  | .hnatFlowEntrySearch ppeIndex hash =>
    InBounds (entries s) (TableWalks.hnatFlowEntrySearch ppeNum s ppeIndex hash)

/-! ## When they do that -/

section

variable (soc : Soc) (answers : Nat → Answers) (ppeNum : Nat) (s : Priv)

/-- No allocation failed up to this PPE, or behind it, whichever the limit of the loop depends on.
An empty table stays as it is when the size is halved again. -/
def Loop.Suits (loop : Loop) : Prop :=
  ∀ ppe ∈ loop.ppes, ppe < ppeNum ∧
    match loop.limit with
    | .defEtryNum => ∀ earlier ≤ ppe, AtOnce soc (answers earlier)
    | .foeEtryNum =>
      (∀ later, ppe < later → later < ppeNum → AtOnce soc (answers later)) ∨
        entries s ⟨loop.kind, ppe⟩ = some 0

def Walk.Suits : Walk → Prop
  | .whole walk => ∀ loop ∈ walk.loops ppeNum s, loop.Suits soc answers ppeNum s
  | .excludeBoundaryEntry ppeId =>
    soc.version = .v1_1 ∧ ppeId < ppeNum → s.foeEtryNum = 0 ∨
      ∃ size, s.foeTable ppeId = some size ∧ 128 ≤ size
  | .hnatStaticEntryWrite call =>
    let plat := platform ppeNum s
    ∀ hash entry, staticEntry plat call.scan call.readable call.text = some (hash, entry) →
      ∃ size, s.foeTable (staticPpe plat entry) = some size ∧
        ∃ k, k ≤ 4 ∧ staticHash plat hash entry + k < size ∧
          (k = 4 ∨
            bound call.table (staticPpe plat entry) (staticHash plat hash entry + k) = false)
  | .hnatFlowEntrySearch ppeIndex hash =>
    ppeIndex < ppeNum ∧ hash < s.foeEtryNum → ∃ size, s.foeTable ppeIndex = some size ∧ 4 ≤ size

end

/-! ## The sizes -/

/-- The number of entries of a table in the first round of `hnat_start`. -/
def fullSize (soc : Soc) : TableKind → Nat
  | .foeTableCpu => DEF_ETRY_NUM soc
  | .foeFlow => DEF_ETRY_NUM soc / 4

theorem fullSize_pos (soc : Soc) (kind : TableKind) : 0 < fullSize soc kind := by
  have positive : 0 < 2 ^ DEF_ETRY_NUM_CFG soc := Nat.two_pow_pos _
  cases kind <;> simp only [fullSize, DEF_ETRY_NUM_eq] <;> omega

def Limit.halvings (failed : Nat → Nat) (ppeNum : Nat) : Limit → Nat
  | .defEtryNum => 0
  | .foeEtryNum => ∑ i ∈ Finset.range ppeNum, failed i

theorem div_pow_eq_self_iff (size halvings : Nat) :
    size / 2 ^ halvings = size ↔ size = 0 ∨ halvings = 0 := by
  rw [Nat.div_eq_self, Nat.pow_eq_one]
  simp

theorem sizes {soc : Soc} {answers : Nat → Answers} {tbCfg : Nat → Reg} {ppeNum : Nat} {s : Priv}
    (started : hnatStarts soc answers ppeNum (Priv.probe soc tbCfg) = some s) :
    ∃ failed : Nat → Nat,
      (∀ loop : Loop, loop.count soc s =
        fullSize soc loop.kind / 2 ^ loop.limit.halvings failed ppeNum) ∧
      ∀ ppe < ppeNum, (failed ppe = 0 ↔ AtOnce soc (answers ppe)) ∧
        ∀ kind, entries s ⟨kind, ppe⟩ =
          some (fullSize soc kind / 2 ^ (∑ i ∈ Finset.range (ppe + 1), failed i)) := by
  obtain ⟨failed, total, each⟩ := hnatStarts_spec started
  refine ⟨failed, ?_, ?_⟩
  · rintro ⟨kind, limit, ppes⟩
    cases kind <;> cases limit <;>
      simp only [Loop.count, Limit.value, Limit.halvings, fullSize, pow_zero, Nat.div_one, total]
    exact Nat.div_right_comm _ _ _
  · intro ppe below
    obtain ⟨-, table, -, first⟩ := each ppe below
    refine ⟨first, ?_⟩
    intro kind
    cases kind with
    | foeTableCpu => exact table
    | foeFlow =>
      have flow := hnatStarts_flow started ppe below
      rw [table, Option.map_some, Nat.div_right_comm] at flow
      exact flow

section

variable {soc : Soc} {answers : Nat → Answers} {tbCfg : Nat → Reg} {ppeNum : Nat} {s : Priv}

theorem count_eq_size_iff (started : hnatStarts soc answers ppeNum (Priv.probe soc tbCfg) = some s)
    (loop : Loop) {ppe : Nat} (below : ppe < ppeNum) :
    entries s ⟨loop.kind, ppe⟩ = some (loop.count soc s) ↔
      match loop.limit with
      | .defEtryNum => ∀ earlier ≤ ppe, AtOnce soc (answers earlier)
      | .foeEtryNum =>
        (∀ later, ppe < later → later < ppeNum → AtOnce soc (answers later)) ∨
          entries s ⟨loop.kind, ppe⟩ = some 0 := by
  obtain ⟨failed, counts, each⟩ := sizes started
  have sized := (each ppe below).2 loop.kind
  rw [counts, sized, Option.some.injEq]
  have positive := fullSize_pos soc loop.kind
  cases loop.limit with
  | defEtryNum =>
    have none_failed : ∑ i ∈ Finset.range (ppe + 1), failed i = 0 ↔
        ∀ earlier ≤ ppe, AtOnce soc (answers earlier) := by
      rw [Finset.sum_eq_zero_iff]
      apply forall_congr'
      intro earlier
      rw [Finset.mem_range, Nat.lt_succ_iff]
      apply forall_congr'
      intro upTo
      exact (each earlier (by omega)).1
    rw [Limit.halvings, pow_zero, Nat.div_one, div_pow_eq_self_iff, none_failed]
    constructor
    · rintro (empty | atOnce)
      · omega
      · exact atOnce
    · exact .inr
  | foeEtryNum =>
    have none_failed : ∑ i ∈ Finset.Ico (ppe + 1) ppeNum, failed i = 0 ↔
        ∀ later, ppe < later → later < ppeNum → AtOnce soc (answers later) := by
      rw [Finset.sum_eq_zero_iff]
      apply forall_congr'
      intro later
      rw [Finset.mem_Ico, and_imp, Nat.succ_le_iff]
      apply forall_congr'
      intro _
      apply forall_congr'
      intro inside
      exact (each later inside).1
    have split := Finset.sum_range_add_sum_Ico failed (Nat.succ_le_of_lt below)
    rw [Limit.halvings, ← split, pow_add, ← Nat.div_div_eq_div_mul, eq_comm,
      div_pow_eq_self_iff, none_failed, or_comm, Option.some.injEq]

theorem loop_exact_iff (started : hnatStarts soc answers ppeNum (Priv.probe soc tbCfg) = some s)
    (loop : Loop) (inside : ∀ ppe ∈ loop.ppes, ppe < ppeNum) :
    loop.Exact soc s ↔ loop.Suits soc answers ppeNum s := by
  have mapped : ∀ table ∈ loop.tables, entries s table ≠ none := by
    obtain ⟨failed, -, each⟩ := sizes started
    intro table listed
    obtain ⟨ppe, member, rfl⟩ := List.mem_map.mp listed
    rw [(each ppe (inside ppe member)).2 loop.kind]
    exact Option.some_ne_none _
  have limits : loop.Exact soc s ↔
      ∀ table ∈ loop.tables, entries s table = some (loop.count soc s) :=
    walks_exact_iff (entries s) _ _ mapped
  rw [limits, Loop.tables, List.forall_mem_map]
  apply forall_congr'
  intro ppe
  apply forall_congr'
  intro member
  rw [count_eq_size_iff started loop (inside ppe member)]
  exact (and_iff_right (inside ppe member)).symm

end

/-! ## The PPEs of the walks -/

theorem mem_mappedPpes {ppeNum : Nat} {s : Priv} {ppe : Nat} (member : ppe ∈ mappedPpes ppeNum s) :
    ppe < ppeNum :=
  List.mem_range.mp (List.mem_of_mem_filter member)

theorem loops_inside (ppeNum : Nat) (s : Priv) (walk : WholeWalk) :
    walk = .hnatResetTimestamp ∨
      ∀ loop ∈ walk.loops ppeNum s, ∀ ppe ∈ loop.ppes, ppe < ppeNum := by
  have every : ∀ (kind : TableKind) (limit : Limit),
      ∀ loop ∈ [(⟨kind, limit, List.range ppeNum⟩ : Loop)], ∀ ppe ∈ loop.ppes, ppe < ppeNum := by
    intro kind limit loop listed ppe member
    rw [List.mem_singleton.mp listed] at member
    exact List.mem_range.mp member
  have mapped : ∀ loop ∈ [(⟨.foeTableCpu, .foeEtryNum, mappedPpes ppeNum s⟩ : Loop)],
      ∀ ppe ∈ loop.ppes, ppe < ppeNum := by
    intro loop listed ppe member
    rw [List.mem_singleton.mp listed] at member
    exact mem_mappedPpes member
  have single : ∀ ppeId, ∀ loop ∈ ofPpe ppeNum ppeId, ∀ ppe ∈ loop.ppes, ppe < ppeNum := by
    intro ppeId loop listed ppe member
    unfold ofPpe at listed
    split_ifs at listed with outside
    · cases listed
    · rw [List.mem_singleton.mp listed, List.mem_singleton] at member
      omega
  cases walk with
  | hnatResetTimestamp => exact .inl rfl
  | entryDeleteByMac => exact .inr (every _ _)
  | entryDeleteByIp => exact .inr (every _ _)
  | entryDeleteByBssidWcid => exact .inr (every _ _)
  | hnatFlowEntryTeardownHandler => exact .inr (every _ _)
  | hnatStop ppeId =>
    right
    intro loop listed ppe member
    simp only [WholeWalk.loops, hnatStop, hnatFlowEntryTeardownAll] at listed
    split_ifs at listed with outside <;>
      simp only [List.nil_append, List.append_nil, List.cons_append, List.mem_cons,
        List.not_mem_nil, or_false] at listed
    · obtain rfl | rfl := listed <;>
      · rw [List.mem_singleton.mp member]
        omega
    · subst listed
      rw [List.mem_singleton.mp member]
      omega
    · subst listed
      rw [List.mem_singleton.mp member]
      omega
  | hnatDisableHook => exact .inr (every _ _)
  | hnatWarmInit => exact .inr (every _ _)
  | foeClearEthdevBindEntries => exact .inr (every _ _)
  | foeClearAllBindEntries => exact .inr (every _ _)
  | foeClearCryptoEntry => exact .inr mapped
  | foeClearEntry => exact .inr mapped
  | mtkHnatGetAllMibCounts => exact .inr (every _ _)
  | entryDelete ppeId => exact .inr (single ppeId)
  | hnatDebugShow ppeId => exact .inr (single ppeId)
  | hnatEntryRead ppeId => exact .inr (single ppeId)
  | setHashSimpleMode => exact .inr (every _ _)
  | hnatMcastCheckTimestamp => exact .inr (every _ _)

/-! ## Each walk -/

theorem size_is_power {cfg halvings size : Nat} (sized : size = 2 ^ cfg / 2 ^ halvings)
    (filled : size ≠ 0) : ∃ exponent, size = 2 ^ exponent := by
  have within : halvings ≤ cfg := by
    apply Nat.le_of_not_lt
    intro more
    apply filled
    rw [sized, Nat.div_eq_of_lt (Nat.pow_lt_pow_right (by omega) more)]
  exact ⟨cfg - halvings, by rw [sized, Nat.pow_div within (by omega)]⟩

theorem pow_dvd_size {cfg halvings size few : Nat} (sized : size = 2 ^ cfg / 2 ^ halvings)
    (large : 2 ^ few ≤ size) : 2 ^ few ∣ size := by
  have filled : size ≠ 0 := by
    have positive : 0 < 2 ^ few := Nat.two_pow_pos _
    omega
  obtain ⟨exponent, rfl⟩ := size_is_power sized filled
  exact Nat.pow_dvd_pow 2 ((Nat.pow_le_pow_iff_right (by omega)).mp large)

section

variable {soc : Soc} {answers : Nat → Answers} {tbCfg : Nat → Reg} {ppeNum : Nat} {s : Priv}

theorem table_size (started : hnatStarts soc answers ppeNum (Priv.probe soc tbCfg) = some s)
    {ppe : Nat} (below : ppe < ppeNum) :
    ∃ size cfg halvings, s.foeTable ppe = some size ∧ s.foeFlow ppe = some (size / 4) ∧
      size = 2 ^ cfg / 2 ^ halvings ∧ s.foeEtryNum ≤ size := by
  obtain ⟨failed, total, each⟩ := hnatStarts_spec started
  obtain ⟨-, table, -⟩ := each ppe below
  have flow := hnatStarts_flow started ppe below
  rw [table, Option.map_some] at flow
  have full : DEF_ETRY_NUM soc = 2 ^ (10 + DEF_ETRY_NUM_CFG soc) := by
    have ten : 2 ^ 10 = 1024 := rfl
    rw [DEF_ETRY_NUM_eq, pow_add, ten]
  refine ⟨_, 10 + DEF_ETRY_NUM_CFG soc, ∑ i ∈ Finset.range (ppe + 1), failed i, table, flow, ?_,
    ?_⟩
  · rw [full]
  · rw [total]
    apply Nat.div_le_div_left _ (Nat.two_pow_pos _)
    apply Nat.pow_le_pow_right (by omega)
    apply Finset.sum_le_sum_of_subset
    apply Finset.range_subset_range.mpr
    omega

theorem whole_exact_iff (started : hnatStarts soc answers ppeNum (Priv.probe soc tbCfg) = some s)
    (walk : WholeWalk) :
    (Walk.whole walk).Exact soc ppeNum s ↔ (Walk.whole walk).Suits soc answers ppeNum s := by
  have each : (∀ loop ∈ walk.loops ppeNum s, ∀ ppe ∈ loop.ppes, ppe < ppeNum) →
      ((Walk.whole walk).Exact soc ppeNum s ↔
        (Walk.whole walk).Suits soc answers ppeNum s) := by
    intro inside
    apply forall_congr'
    intro loop
    apply forall_congr'
    intro listed
    exact loop_exact_iff started loop (inside loop listed)
  obtain rfl | inside := loops_inside ppeNum s walk
  · by_cases some_ppe : 0 < ppeNum
    · apply each
      intro loop listed ppe member
      rw [List.mem_singleton.mp listed] at member
      rw [List.mem_singleton.mp member]
      exact some_ppe
    · -- the timer reads the table of PPE 0 without asking for one
      obtain rfl : ppeNum = 0 := by omega
      cases started
      have full : 0 < DEF_ETRY_NUM soc := fullSize_pos soc .foeTableCpu
      constructor
      · intro exact'
        obtain ⟨inBounds, -⟩ := exact' _ (List.mem_singleton_self _)
        obtain ⟨size, sized, -⟩ := inBounds ⟨⟨.foeTableCpu, 0⟩, 0⟩
          (mem_walks.mpr ⟨List.mem_singleton_self _, full⟩)
        cases sized
      · intro suits
        obtain ⟨absurd', -⟩ := suits _ (List.mem_singleton_self _) 0 (List.mem_singleton_self _)
        exact absurd absurd' (Nat.lt_irrefl 0)
  · exact each inside

theorem mem_badEntries (foeEtryNum entryBase index : Nat) :
    index ∈ badEntries foeEtryNum entryBase ↔
      ∃ i, entryBase + 128 * i < foeEtryNum ∧
        ∃ offset ∈ boundaryEntryOffset, index = entryBase + 128 * i + offset := by
  fun_induction badEntries foeEtryNum entryBase with
  | case1 entryBase below ih =>
    rw [List.mem_append, ih, List.mem_map]
    constructor
    · rintro (⟨offset, listed, rfl⟩ | ⟨i, inside, offset, listed, rfl⟩)
      · exact ⟨0, by omega, offset, listed, by omega⟩
      · exact ⟨i + 1, by omega, offset, listed, by omega⟩
    · rintro ⟨i, inside, offset, listed, rfl⟩
      cases i with
      | zero => exact .inl ⟨offset, listed, by omega⟩
      | succ i => exact .inr ⟨i, by omega, offset, listed, by omega⟩
  | case2 entryBase outside =>
    constructor
    · intro impossible
      cases impossible
    · rintro ⟨i, inside, -⟩
      omega

theorem boundary_exact_iff
    (started : hnatStarts soc answers ppeNum (Priv.probe soc tbCfg) = some s) (ppeId : Nat) :
    (Walk.excludeBoundaryEntry ppeId).Exact soc ppeNum s ↔
      (Walk.excludeBoundaryEntry ppeId).Suits soc answers ppeNum s := by
  apply forall_congr'
  rintro ⟨-, below⟩
  obtain ⟨size, cfg, halvings, table, -, sized, kept⟩ := table_size started below
  have accesses : excludeBoundaryEntry s ppeId =
      (badEntries s.foeEtryNum 0).map (Access.mk ⟨.foeTableCpu, ppeId⟩) := by
    unfold excludeBoundaryEntry
    rw [table]
    rfl
  rw [accesses, InBounds, List.forall_mem_map]
  constructor
  · intro inBounds
    by_cases empty : s.foeEtryNum = 0
    · exact .inl empty
    · right
      have marked : 115 ∈ badEntries s.foeEtryNum 0 :=
        (mem_badEntries _ _ _).mpr ⟨0, by omega, 115, by decide, by omega⟩
      obtain ⟨size', sized', inside⟩ := inBounds 115 marked
      obtain rfl : size' = size := Option.some.inj (sized'.symm.trans table)
      obtain ⟨exponent, rfl⟩ := size_is_power sized (by omega)
      refine ⟨_, table, ?_⟩
      by_contra small
      have few : exponent ≤ 6 := by
        have less : 2 ^ exponent < 2 ^ 7 := by omega
        have := (Nat.pow_lt_pow_iff_right (by omega)).mp less
        omega
      have most : 2 ^ exponent ≤ 2 ^ 6 := Nat.pow_le_pow_right (by omega) few
      have inside' : 115 < 2 ^ exponent := inside
      omega
  · intro fits index marked
    obtain ⟨i, inside, offset, listed, rfl⟩ := (mem_badEntries _ _ _).mp marked
    refine ⟨size, table, ?_⟩
    obtain empty | ⟨size', table', large⟩ := fits
    · omega
    · obtain rfl : size' = size := Option.some.inj (table'.symm.trans table)
      obtain ⟨blocks, rfl⟩ : 2 ^ 7 ∣ size' := pow_dvd_size sized large
      have bounded : ∀ offset ∈ boundaryEntryOffset, offset < 128 := by decide
      have small := bounded offset listed
      show 0 + 128 * i + offset < 2 ^ 7 * blocks
      omega

theorem mem_staticSlots (taken : Nat → Bool) (tries slot index : Nat) :
    index ∈ staticSlots taken tries slot ↔ slot ≤ index ∧ index ≤ probe taken tries slot := by
  induction tries generalizing slot with
  | zero =>
    rw [staticSlots, probe, List.mem_singleton]
    omega
  | succ tries ih =>
    have further := le_probe taken tries (slot + 1)
    rw [staticSlots, probe, List.mem_cons]
    split
    · rw [ih]
      omega
    · simp only [List.not_mem_nil, or_false]
      omega

theorem static_exact_iff (soc : Soc) (answers : Nat → Answers) (ppeNum : Nat) (s : Priv)
    (call : StaticCall) :
    (Walk.hnatStaticEntryWrite call).Exact soc ppeNum s ↔
      (Walk.hnatStaticEntryWrite call).Suits soc answers ppeNum s := by
  simp only [Walk.Exact, Walk.Suits, staticAccesses]
  cases staticEntry (platform ppeNum s) call.scan call.readable call.text with
  | none =>
    constructor
    · intro _ hash entry impossible
      cases impossible
    · intro _ access impossible
      cases impossible
  | some line =>
    obtain ⟨hash, entry⟩ := line
    rw [InBounds, List.forall_mem_map]
    constructor
    · intro inBounds hash' entry' same
      obtain ⟨rfl, rfl⟩ : hash = hash' ∧ entry = entry' := by simpa using same
      have last := (mem_staticSlots _ 4 _ _).mpr
        ⟨le_probe (bound call.table (staticPpe (platform ppeNum s) entry)) 4
          (staticHash (platform ppeNum s) hash entry), le_rfl⟩
      obtain ⟨size, sized, inside⟩ := inBounds _ last
      exact ⟨size, sized, (probe_lt_iff _ _ _ _).mp inside⟩
    · intro suits slot reached
      obtain ⟨size, sized, fits⟩ := suits hash entry rfl
      have upTo := ((mem_staticSlots _ _ _ _).mp reached).2
      exact ⟨size, sized, lt_of_le_of_lt upTo ((probe_lt_iff _ _ _ _).mpr fits)⟩

theorem search_exact_iff (started : hnatStarts soc answers ppeNum (Priv.probe soc tbCfg) = some s)
    (ppeIndex hash : Nat) :
    (Walk.hnatFlowEntrySearch ppeIndex hash).Exact soc ppeNum s ↔
      (Walk.hnatFlowEntrySearch ppeIndex hash).Suits soc answers ppeNum s := by
  simp only [Walk.Exact, Walk.Suits, hnatFlowEntrySearch]
  split_ifs with checked
  · obtain ⟨below, hashed⟩ := checked
    obtain ⟨size, cfg, halvings, table, flow, sized, kept⟩ := table_size started below
    rw [inBounds_single]
    constructor
    · rintro ⟨quarter, quartered, inside⟩ _
      obtain rfl : size / 4 = quarter := Option.some.inj (flow.symm.trans quartered)
      exact ⟨size, table, by omega⟩
    · intro fits
      obtain ⟨size', table', large⟩ := fits ⟨below, hashed⟩
      obtain rfl : size' = size := Option.some.inj (table'.symm.trans table)
      obtain ⟨buckets, rfl⟩ : 2 ^ 2 ∣ size' := pow_dvd_size sized large
      exact ⟨_, flow, by omega⟩
  · constructor
    · intro _ checked'
      exact absurd checked' checked
    · intro _ access impossible
      cases impossible

end

/-! ## All walks -/

/-- A walk is exact exactly if the allocations that its limit depends on succeeded in the first
round and, where it looks at chosen entries, those are in the table; `hnat_start` itself always
walks the tables that it has allocated. -/
theorem walks_exact_iff_suits (soc : Soc) (answers : Nat → Answers) (tbCfg : Nat → Reg)
    (ppeNum : Nat) (s : Priv)
    (started : hnatStarts soc answers ppeNum (Priv.probe soc tbCfg) = some s) :
    (∀ walk : Walk, walk.Exact soc ppeNum s ↔ walk.Suits soc answers ppeNum s) ∧
      ∀ ppe < ppeNum, ∀ behind,
        hnatStarts soc answers (ppe + 1) (Priv.probe soc tbCfg) = some behind →
          ∀ loop ∈ TableWalks.hnatStart ppe, loop.Exact soc behind := by
  constructor
  · intro walk
    cases walk with
    | whole walk => exact whole_exact_iff started walk
    | excludeBoundaryEntry ppeId => exact boundary_exact_iff started ppeId
    | hnatStaticEntryWrite call => exact static_exact_iff soc answers ppeNum s call
    | hnatFlowEntrySearch ppeIndex hash => exact search_exact_iff started ppeIndex hash
  · intro ppe _ behind mapped loop listed
    have last : loop.ppes = [ppe] ∧ ∃ kind, loop = ⟨kind, .foeEtryNum, [ppe]⟩ := by
      simp only [TableWalks.hnatStart, List.mem_cons, List.not_mem_nil, or_false] at listed
      obtain rfl | rfl := listed
      · exact ⟨rfl, _, rfl⟩
      · exact ⟨rfl, _, rfl⟩
    obtain ⟨ppes, kind, rfl⟩ := last
    have inside : ∀ i ∈ [ppe], i < ppe + 1 := by
      intro i member
      rw [List.mem_singleton.mp member]
      exact Nat.lt_succ_self ppe
    apply (loop_exact_iff mapped _ inside).mpr
    intro i member
    refine ⟨inside i member, .inl ?_⟩
    intro later behind' below
    rw [List.mem_singleton.mp member] at behind'
    omega

theorem walks_exact_bothAtOnce :
    ∃ s, hnatStarts mt7988 (secondFrom 5) 2 (Priv.probe mt7988 fun _ => 0) = some s ∧
      (∀ walk : Walk,
        walk.Exact mt7988 2 s ↔ walk.Suits mt7988 (secondFrom 5) 2 s) ∧
      ∀ ppe < 2, ∀ behind,
        hnatStarts mt7988 (secondFrom 5) (ppe + 1) (Priv.probe mt7988 fun _ => 0) = some behind →
          ∀ loop ∈ TableWalks.hnatStart ppe, loop.Exact mt7988 behind :=
  ⟨_, rfl, walks_exact_iff_suits mt7988 (secondFrom 5) (fun _ => 0) 2 _ rfl⟩

/-- The table of the second PPE has 16384 entries and `entry_delete_by_mac` walks 32768. -/
theorem walks_leave_halved_table :
    ¬ ∀ s, hnatStarts mt7988 (secondFrom 4) 2 (Priv.probe mt7988 fun _ => 0) = some s →
      ∀ walk : Walk, walk.Exact mt7988 2 s := by
  intro exact'
  obtain ⟨s, started, table⟩ : ∃ s,
      hnatStarts mt7988 (secondFrom 4) 2 (Priv.probe mt7988 fun _ => 0) = some s ∧
        entries s ⟨.foeTableCpu, 1⟩ = some 16384 := ⟨_, rfl, rfl⟩
  obtain ⟨inBounds, -⟩ := exact' s started (.whole .entryDeleteByMac) _ (List.mem_singleton_self _)
  have second : (⟨.foeTableCpu, 1⟩ : Table) ∈
      Loop.tables ⟨.foeTableCpu, .defEtryNum, List.range 2⟩ := by decide
  have below : 16384 < DEF_ETRY_NUM mt7988 := by decide
  obtain ⟨size, sized, inside⟩ := inBounds ⟨⟨.foeTableCpu, 1⟩, 16384⟩
    (mem_walks.mpr ⟨second, below⟩)
  obtain rfl : size = 16384 := Option.some.inj (sized.symm.trans table)
  exact Nat.lt_irrefl _ inside

end OpenwrtSource.Hnat.TableWalks
