import Mathlib.Algebra.BigOperators.Group.Finset.Basic
import Mathlib.Algebra.Order.BigOperators.Group.Finset
import OpenwrtSource.Hnat.Register

/-!
# Sizing of the FOE tables

`hnat_start` maps the table of one PPE.  It halves the size until the
allocation succeeds, but it keeps the size in `hnat_priv->foe_etry_num`, which
all PPEs share, while the register value starts from the default for each PPE.
-/

namespace OpenwrtSource.Hnat.TableSizing

open Hnat.Register

/-- The driver's version numbers of the hardware. -/
inductive Version where
  | v1_1
  | v1_2
  | v1_3
  | v2
  | v3
  deriving DecidableEq

/-- The build, the hardware and the option of per-flow accounting. -/
structure Soc where
  netsysV2OrV3 : Bool
  version : Version
  perFlowAccounting : Bool

def DEF_ETRY_NUM (soc : Soc) : Nat := if soc.netsysV2OrV3 then 32768 else 8192

def DEF_ETRY_NUM_CFG (soc : Soc) : Nat := if soc.netsysV2OrV3 then 5 else 3

structure Priv where
  foeEtryNum : Nat
  etryNumCfg : Nat
  /-- the number of entries of each mapped FOE table -/
  foeTable : Nat → Option Nat
  foeFlow : Nat → Option Nat
  tbCfg : Nat → Reg

/-- How the allocator answers `hnat_start`, by the `etry_num_cfg` of the round. -/
structure Answers where
  dma : Nat → Bool
  flow : Nat → Bool
  mib : Bool
  acct : Bool

def TB_ETRY_NUM : Reg := 0x7

/-- The writes of `hnat_hw_init` to PPE_TB_CFG, in order. -/
def tbCfgWrites (version : Version) (etryNumCfg : Nat) : List FieldWrite :=
  [⟨TB_ETRY_NUM, BitVec.ofNat 32 etryNumCfg⟩,
   ⟨0x3 <<< 14, 1⟩,                                                  -- HASH_MODE
   ⟨0x3 <<< 18, 0⟩,                                                  -- XMODE
   ⟨0x1 <<< 3, if version = .v3 then 0 else 1⟩,                      -- TB_ENTRY_SIZE
   ⟨0x3 <<< 4, 3⟩,                                                   -- SMA
   ⟨0x1 <<< 7, 1⟩, ⟨0x1 <<< 8, 1⟩,                                   -- NTU_AGE, UNBD_AGE
   ⟨0x1 <<< 9, 1⟩, ⟨0x1 <<< 10, 1⟩, ⟨0x1 <<< 11, 1⟩,                 -- TCP, UDP, FIN_AGE
   ⟨0x3 <<< 12, 0⟩, ⟨0x3 <<< 16, 2⟩, ⟨0x3 <<< 12, 3⟩,                -- KA_CFG, SCAN_MODE
   ⟨0x1 <<< 24, 0⟩] ++                                               -- TICK_SEL
  if version = .v3 then [⟨0x1 <<< 26, 1⟩] else []                    -- IS_SP_TAG_EN

def hnatHwInit (soc : Soc) (ppe : Nat) (s : Priv) : Priv :=
  let reg := crSetFields (tbCfgWrites soc.version s.etryNumCfg) (s.tbCfg ppe)
  { s with tbCfg := Function.update s.tbCfg ppe reg }

/-- The allocation loop of `hnat_start`, from `etry_num_cfg` one below the first
argument down to 0.  It answers the `etry_num_cfg` that it leaves with. -/
def mapFoeTable (answers : Answers) (ppe : Nat) : Nat → Priv → Option Nat × Priv
  | 0, s => (none, s)
  | etryNumCfg + 1, s =>
    if answers.dma etryNumCfg then
      if answers.flow etryNumCfg then
        (some etryNumCfg,
          { s with
            foeTable := Function.update s.foeTable ppe (some s.foeEtryNum)
            foeFlow := Function.update s.foeFlow ppe (some (s.foeEtryNum / 4)) })
      else
        mapFoeTable answers ppe etryNumCfg
          { s with
            foeTable := Function.update s.foeTable ppe none
            foeFlow := Function.update s.foeFlow ppe none
            foeEtryNum := s.foeEtryNum / 2 }
    else
      mapFoeTable answers ppe etryNumCfg
        { s with
          foeTable := Function.update s.foeTable ppe none
          foeEtryNum := s.foeEtryNum / 2 }

/-- `none` stands for the return value -1. -/
def hnatStart (soc : Soc) (answers : Answers) (ppe : Nat) (s : Priv) : Option Priv :=
  match mapFoeTable answers ppe (DEF_ETRY_NUM_CFG soc + 1) s with
  | (none, _) => none
  | (some etryNumCfg, s) =>
    if soc.perFlowAccounting && !(answers.mib && answers.acct) then none
    else some (hnatHwInit soc ppe { s with etryNumCfg := etryNumCfg })

/-- The loop of `hnat_probe` over the PPEs, the first `ppeNum` of them. -/
def hnatStarts (soc : Soc) (answers : Nat → Answers) : Nat → Priv → Option Priv
  | 0, s => some s
  | ppeNum + 1, s => (hnatStarts soc answers ppeNum s).bind (hnatStart soc (answers ppeNum) ppeNum)

/-- The driver's data at the start of `hnat_probe`; the registers hold anything. -/
def Priv.probe (soc : Soc) (tbCfg : Nat → Reg) : Priv :=
  { foeEtryNum := DEF_ETRY_NUM soc
    etryNumCfg := 0
    foeTable := fun _ => none
    foeFlow := fun _ => none
    tbCfg := tbCfg }

def programmed (s : Priv) (ppe : Nat) : Nat :=
  1024 <<< (fieldGet TB_ETRY_NUM (s.tbCfg ppe)).toNat

/-- The hardware, the memory and the driver agree on the size of the table. -/
def Sized (s : Priv) (ppe : Nat) : Prop :=
  programmed s ppe = s.foeEtryNum ∧ s.foeTable ppe = some s.foeEtryNum

/-- The allocations for the table succeed in the first round. -/
def AtOnce (soc : Soc) (answers : Answers) : Prop :=
  answers.dma (DEF_ETRY_NUM_CFG soc) = true ∧ answers.flow (DEF_ETRY_NUM_CFG soc) = true

theorem DEF_ETRY_NUM_eq (soc : Soc) : DEF_ETRY_NUM soc = 1024 * 2 ^ DEF_ETRY_NUM_CFG soc := by
  unfold DEF_ETRY_NUM DEF_ETRY_NUM_CFG
  split <;> rfl

theorem DEF_ETRY_NUM_CFG_le (soc : Soc) : DEF_ETRY_NUM_CFG soc ≤ 5 := by
  unfold DEF_ETRY_NUM_CFG
  split <;> omega

variable {etryNumCfg : Nat} {answers : Answers} {ppe : Nat} {s after : Priv} {soc : Soc}

theorem fieldGet_tbCfgWrites (version : Version) (small : etryNumCfg ≤ 5) (reg : Reg) :
    (fieldGet TB_ETRY_NUM (crSetFields (tbCfgWrites version etryNumCfg) reg)).toNat =
      etryNumCfg := by
  have others : ∀ w ∈ (tbCfgWrites version etryNumCfg).tail,
      w.field &&& TB_ETRY_NUM = 0 ∧ w.bits &&& TB_ETRY_NUM = 0 := by
    cases version <;>
      simp only [tbCfgWrites, reduceCtorEq, if_true, if_false, List.cons_append, List.nil_append,
        List.append_nil, List.tail_cons, List.forall_mem_cons, List.not_mem_nil,
        false_imp_iff, implies_true, and_true] <;>
      decide
  have masked : crSetFields (tbCfgWrites version etryNumCfg) reg &&& TB_ETRY_NUM =
      BitVec.ofNat 32 etryNumCfg := by
    have within : ∀ cfg ≤ 5,
        (BitVec.ofNat 32 cfg <<< (ffs TB_ETRY_NUM - 1)) &&& ~~~TB_ETRY_NUM = 0 ∧
          BitVec.ofNat 32 cfg <<< (ffs TB_ETRY_NUM - 1) = BitVec.ofNat 32 cfg := by decide
    calc crSetFields (tbCfgWrites version etryNumCfg) reg &&& TB_ETRY_NUM
        = crSetFields (tbCfgWrites version etryNumCfg).tail
            (crSetField TB_ETRY_NUM (BitVec.ofNat 32 etryNumCfg) reg) &&& TB_ETRY_NUM := rfl
      _ = crSetField TB_ETRY_NUM (BitVec.ofNat 32 etryNumCfg) reg &&& TB_ETRY_NUM :=
          crSetFields_and_other _ others _
      _ = BitVec.ofNat 32 etryNumCfg <<< (ffs TB_ETRY_NUM - 1) :=
          crSetField_and_self _ (within etryNumCfg small).1
      _ = BitVec.ofNat 32 etryNumCfg := (within etryNumCfg small).2
  have lowest : ffs TB_ETRY_NUM - 1 = 0 := by decide
  rw [fieldGet, masked, lowest, BitVec.ushiftRight_zero, BitVec.toNat_ofNat]
  omega

theorem mapFoeTable_spec {rounds : Nat}
    (mapped : mapFoeTable answers ppe rounds s = (some etryNumCfg, after)) :
    ∃ failed, etryNumCfg + failed + 1 = rounds ∧
      after.foeEtryNum = s.foeEtryNum / 2 ^ failed ∧
      after.foeTable = Function.update s.foeTable ppe (some after.foeEtryNum) ∧
      after.tbCfg = s.tbCfg ∧
      (failed = 0 ↔ answers.dma (rounds - 1) = true ∧ answers.flow (rounds - 1) = true) := by
  induction rounds generalizing s with
  | zero => simp [mapFoeTable] at mapped
  | succ cfg ih =>
    by_cases success : answers.dma cfg = true ∧ answers.flow cfg = true
    · simp only [mapFoeTable, success.1, success.2, if_true, Prod.mk.injEq,
        Option.some.injEq] at mapped
      obtain ⟨rfl, rfl⟩ := mapped
      exact ⟨0, rfl, by simp, rfl, rfl, by simpa using success⟩
    · -- a failed round: the tables of the other PPEs stay, the size is halved
      obtain ⟨halved, rest, num, table, reg⟩ : ∃ halved : Priv,
          mapFoeTable answers ppe cfg halved = (some etryNumCfg, after) ∧
          halved.foeEtryNum = s.foeEtryNum / 2 ∧
          halved.foeTable = Function.update s.foeTable ppe none ∧ halved.tbCfg = s.tbCfg := by
        unfold mapFoeTable at mapped
        split at mapped
        · rename_i dma
          have noFlow : ¬ answers.flow cfg = true := fun flow => success ⟨dma, flow⟩
          rw [if_neg noFlow] at mapped
          exact ⟨_, mapped, rfl, rfl, rfl⟩
        · exact ⟨_, mapped, rfl, rfl, rfl⟩
      obtain ⟨failed, count, size, mappedTable, sameReg, -⟩ := ih rest
      refine ⟨failed + 1, by omega, ?_, ?_, sameReg.trans reg, by simpa using success⟩
      · rw [size, num, Nat.div_div_eq_div_mul, pow_succ, Nat.mul_comm]
      · rw [mappedTable, table, Function.update_idem]

theorem hnatStart_spec (started : hnatStart soc answers ppe s = some after) :
    ∃ failed ≤ DEF_ETRY_NUM_CFG soc,
      after.foeEtryNum = s.foeEtryNum / 2 ^ failed ∧
      after.foeTable = Function.update s.foeTable ppe (some after.foeEtryNum) ∧
      programmed after ppe = 1024 * 2 ^ (DEF_ETRY_NUM_CFG soc - failed) ∧
      (∀ other, other ≠ ppe → after.tbCfg other = s.tbCfg other) ∧
      (failed = 0 ↔ AtOnce soc answers) := by
  unfold hnatStart at started
  split at started
  · cases started
  · rename_i etryNumCfg mapped eq
    split at started
    · cases started
    · obtain ⟨failed, count, size, table, reg, first⟩ := mapFoeTable_spec eq
      have bound := DEF_ETRY_NUM_CFG_le soc
      have cfg : etryNumCfg = DEF_ETRY_NUM_CFG soc - failed := by omega
      cases started
      refine ⟨failed, by omega, size, table, ?_, ?_, first⟩
      · simp only [programmed, hnatHwInit, Function.update_self]
        rw [fieldGet_tbCfgWrites soc.version (by omega), Nat.shiftLeft_eq, cfg]
      · intro other apart
        simp only [hnatHwInit, Function.update_of_ne apart, reg]

theorem hnatStarts_spec {answers : Nat → Answers} {tbCfg : Nat → Reg} {ppeNum : Nat}
    (started : hnatStarts soc answers ppeNum (Priv.probe soc tbCfg) = some s) :
    ∃ failed : Nat → Nat,
      s.foeEtryNum = DEF_ETRY_NUM soc / 2 ^ (∑ i ∈ Finset.range ppeNum, failed i) ∧
      ∀ ppe < ppeNum, failed ppe ≤ DEF_ETRY_NUM_CFG soc ∧
        s.foeTable ppe =
          some (DEF_ETRY_NUM soc / 2 ^ (∑ i ∈ Finset.range (ppe + 1), failed i)) ∧
        programmed s ppe = 1024 * 2 ^ (DEF_ETRY_NUM_CFG soc - failed ppe) ∧
        (failed ppe = 0 ↔ AtOnce soc (answers ppe)) := by
  induction ppeNum generalizing s with
  | zero =>
    cases started
    exact ⟨fun _ => 0, by simp [Priv.probe], by simp⟩
  | succ last ih =>
    obtain ⟨before, earlier, starts⟩ := Option.bind_eq_some_iff.mp started
    obtain ⟨failed, total, each⟩ := ih earlier
    obtain ⟨failedLast, bound, num, table, reg, regs, first⟩ := hnatStart_spec starts
    have sums : ∀ n ≤ last,
        ∑ i ∈ Finset.range n, Function.update failed last failedLast i =
          ∑ i ∈ Finset.range n, failed i := by
      intro n below
      apply Finset.sum_congr rfl
      intro i member
      have apart : i ≠ last := by
        have := Finset.mem_range.mp member
        omega
      exact Function.update_of_ne apart _ _
    have size : s.foeEtryNum = DEF_ETRY_NUM soc /
        2 ^ (∑ i ∈ Finset.range (last + 1), Function.update failed last failedLast i) := by
      rw [Finset.sum_range_succ, sums last le_rfl, Function.update_self, num, total,
        Nat.div_div_eq_div_mul, pow_add]
    refine ⟨Function.update failed last failedLast, size, ?_⟩
    intro ppe below
    by_cases own : ppe = last
    · subst own
      rw [Function.update_self, ← size, table, Function.update_self]
      exact ⟨bound, rfl, reg, first⟩
    · obtain ⟨boundPpe, tablePpe, regPpe, firstPpe⟩ := each ppe (by omega)
      rw [Function.update_of_ne own, sums (ppe + 1) (by omega), table,
        Function.update_of_ne own]
      refine ⟨boundPpe, tablePpe, ?_, firstPpe⟩
      rw [programmed, regs ppe own]
      exact regPpe

theorem mapFoeTable_flow {rounds : Nat}
    (mapped : mapFoeTable answers ppe rounds s = (some etryNumCfg, after)) :
    after.foeFlow ppe = some (after.foeEtryNum / 4) ∧
      ∀ other, other ≠ ppe → after.foeFlow other = s.foeFlow other := by
  induction rounds generalizing s with
  | zero => simp [mapFoeTable] at mapped
  | succ cfg ih =>
    unfold mapFoeTable at mapped
    split at mapped
    · split at mapped
      · simp only [Prod.mk.injEq] at mapped
        obtain ⟨-, rfl⟩ := mapped
        refine ⟨Function.update_self _ _ _, ?_⟩
        intro other apart
        exact Function.update_of_ne apart _ _
      · obtain ⟨own, others⟩ := ih mapped
        refine ⟨own, ?_⟩
        intro other apart
        exact (others other apart).trans (Function.update_of_ne apart _ _)
    · -- only the FOE table of the round is given up
      obtain ⟨own, others⟩ := ih mapped
      exact ⟨own, others⟩

theorem hnatStart_flow (started : hnatStart soc answers ppe s = some after) :
    after.foeFlow ppe = some (after.foeEtryNum / 4) ∧
      ∀ other, other ≠ ppe → after.foeFlow other = s.foeFlow other := by
  unfold hnatStart at started
  split at started
  · cases started
  · rename_i etryNumCfg mapped eq
    split at started
    · cases started
    · obtain ⟨own, others⟩ := mapFoeTable_flow eq
      cases started
      exact ⟨own, others⟩

theorem hnatStarts_flow {answers : Nat → Answers} {tbCfg : Nat → Reg} {ppeNum : Nat}
    (started : hnatStarts soc answers ppeNum (Priv.probe soc tbCfg) = some s) :
    ∀ ppe < ppeNum, s.foeFlow ppe = (s.foeTable ppe).map (· / 4) := by
  induction ppeNum generalizing s with
  | zero => simp
  | succ last ih =>
    obtain ⟨before, earlier, starts⟩ := Option.bind_eq_some_iff.mp started
    obtain ⟨-, -, -, table, -⟩ := hnatStart_spec starts
    obtain ⟨own, others⟩ := hnatStart_flow starts
    intro ppe below
    rw [table]
    by_cases here : ppe = last
    · subst here
      rw [own, Function.update_self, Option.map_some]
    · rw [others ppe here, Function.update_of_ne here]
      exact ih earlier ppe (by omega)

theorem halvings_inj {cfg few many : Nat} (room : few ≤ cfg)
    (same : 1024 * 2 ^ cfg / 2 ^ many = 1024 * 2 ^ (cfg - few)) : many = few := by
  have fewer : 1024 * 2 ^ cfg / 2 ^ few = 1024 * 2 ^ (cfg - few) := by
    rw [Nat.mul_div_assoc _ (Nat.pow_dvd_pow 2 room), Nat.pow_div room (by omega)]
  have positive : 0 < 2 ^ (cfg - few) := Nat.two_pow_pos _
  by_contra differ
  rcases Nat.lt_or_gt_of_ne differ with less | more
  · -- with fewer halvings the size is at least twice as large
    have split : 1024 * 2 ^ cfg / 2 ^ many = 1024 * 2 ^ (cfg - few) * 2 ^ (few - many) := by
      rw [Nat.mul_div_assoc _ (Nat.pow_dvd_pow 2 (by omega)), Nat.pow_div (by omega) (by omega),
        Nat.mul_assoc, ← Nat.pow_add]
      congr 2
      omega
    have twice : 2 ^ 1 ≤ 2 ^ (few - many) := Nat.pow_le_pow_right (by omega) (by omega)
    rw [split] at same
    have grows := Nat.mul_le_mul_left (1024 * 2 ^ (cfg - few)) twice
    omega
  · have split : 1024 * 2 ^ cfg / 2 ^ many = 1024 * 2 ^ (cfg - few) / 2 ^ (many - few) := by
      rw [← fewer, Nat.div_div_eq_div_mul, ← Nat.pow_add]
      congr 2
      omega
    have twice : 2 ^ 1 ≤ 2 ^ (many - few) := Nat.pow_le_pow_right (by omega) (by omega)
    have shrinks : 1024 * 2 ^ (cfg - few) / 2 ^ (many - few) ≤ 1024 * 2 ^ (cfg - few) / 2 ^ 1 :=
      Nat.div_le_div_left twice (by omega)
    rw [split] at same
    omega

/-- All tables are sized alike exactly when there is one PPE at most, or no
allocation for a table failed. -/
theorem tables_sized_iff (soc : Soc) (answers : Nat → Answers) (tbCfg : Nat → Reg)
    (ppeNum : Nat) (s : Priv)
    (started : hnatStarts soc answers ppeNum (Priv.probe soc tbCfg) = some s) :
    (∀ ppe < ppeNum, Sized s ppe) ↔
      ppeNum ≤ 1 ∨ ∀ ppe < ppeNum, AtOnce soc (answers ppe) := by
  obtain ⟨failed, total, each⟩ := hnatStarts_spec started
  constructor
  · intro sized
    by_cases single : ppeNum ≤ 1
    · exact .inl single
    · right
      -- the hardware was told the halvings of one PPE, the driver keeps those of all
      have all : ∀ ppe < ppeNum, ∑ i ∈ Finset.range ppeNum, failed i = failed ppe := by
        intro ppe below
        obtain ⟨bound, -, told, -⟩ := each ppe below
        have same := (sized ppe below).1
        rw [told, total, DEF_ETRY_NUM_eq] at same
        exact halvings_inj bound same.symm
      have two : failed 0 + failed 1 ≤ ∑ i ∈ Finset.range ppeNum, failed i := by
        have within : Finset.range 2 ⊆ Finset.range ppeNum := by
          apply Finset.range_subset_range.mpr
          omega
        calc failed 0 + failed 1 = ∑ i ∈ Finset.range 2, failed i := by
              simp [Finset.sum_range_succ]
          _ ≤ ∑ i ∈ Finset.range ppeNum, failed i :=
              Finset.sum_le_sum_of_subset within
      have none_failed : ∑ i ∈ Finset.range ppeNum, failed i = 0 := by
        have first := all 0 (by omega)
        have second := all 1 (by omega)
        omega
      intro ppe below
      rw [← (each ppe below).2.2.2, ← all ppe below]
      exact none_failed
  · intro good ppe below
    obtain ⟨bound, table, told, -⟩ := each ppe below
    have halved : ∑ i ∈ Finset.range (ppe + 1), failed i = failed ppe ∧
        ∑ i ∈ Finset.range ppeNum, failed i = failed ppe := by
      rcases good with single | atOnce
      · have first : ppe = 0 := by omega
        have one : ppeNum = 1 := by omega
        subst first one
        simp
      · have zero : ∀ n ≤ ppeNum, ∑ i ∈ Finset.range n, failed i = 0 := by
          intro n within
          apply Finset.sum_eq_zero
          intro i member
          have inside : i < ppeNum := lt_of_lt_of_le (Finset.mem_range.mp member) within
          exact (each i inside).2.2.2.mpr (atOnce i inside)
        have own := (each ppe below).2.2.2.mpr (atOnce ppe below)
        exact ⟨(zero (ppe + 1) below).trans own.symm, (zero ppeNum le_rfl).trans own.symm⟩
    have size : s.foeEtryNum = 1024 * 2 ^ (DEF_ETRY_NUM_CFG soc - failed ppe) := by
      rw [total, halved.2, DEF_ETRY_NUM_eq, Nat.mul_div_assoc _ (Nat.pow_dvd_pow 2 bound),
        Nat.pow_div bound (by omega)]
    refine ⟨told.trans size.symm, ?_⟩
    rw [table, total, halved.1, halved.2]

def mt7988 : Soc := { netsysV2OrV3 := true, version := .v3, perFlowAccounting := true }

/-- The first PPE gets its table at once, the second one in the given round. -/
def secondFrom (etryNumCfg : Nat) (ppe : Nat) : Answers :=
  { dma := fun cfg => ppe = 0 || decide (cfg ≤ etryNumCfg)
    flow := fun _ => true
    mib := true
    acct := true }

theorem tables_sized_bothAtOnce :
    ∃ s, hnatStarts mt7988 (secondFrom 5) 2 (Priv.probe mt7988 fun _ => 0) = some s ∧
      ((∀ ppe < 2, Sized s ppe) ↔ 2 ≤ 1 ∨ ∀ ppe < 2, AtOnce mt7988 (secondFrom 5 ppe)) :=
  ⟨_, rfl, tables_sized_iff mt7988 (secondFrom 5) (fun _ => 0) 2 _ rfl⟩

/-- The second PPE has to halve its table: the first one is then told twice the
number of entries that the driver checks against. -/
theorem not_sized_secondHalved :
    ¬ ∀ s, hnatStarts mt7988 (secondFrom 4) 2 (Priv.probe mt7988 fun _ => 0) = some s →
      ∀ ppe < 2, Sized s ppe := by
  intro sized
  obtain ⟨s, started, size, table⟩ : ∃ s,
      hnatStarts mt7988 (secondFrom 4) 2 (Priv.probe mt7988 fun _ => 0) = some s ∧
      s.foeEtryNum = 16384 ∧ s.foeTable 0 = some 32768 := ⟨_, rfl, rfl, rfl⟩
  have first := (sized s started 0 (by decide)).2
  rw [size, table] at first
  exact absurd first (by decide)

end OpenwrtSource.Hnat.TableSizing
