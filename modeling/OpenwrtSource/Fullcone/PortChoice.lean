import Mathlib.Algebra.Group.Nat.Defs
import OpenwrtSource.Fullcone.LinuxKernel

/-!
# The port that the search returns

What a caller of `find_appropriate_port` expects of the port it gets and of the
tables it finds afterwards, and when it gets it.  The window of all 65536 ports
has a `range_size` of 0: the walk is empty, and the remainder that starts it at a
random port divides by zero.
-/

namespace OpenwrtSource.Fullcone.PortChoice

open Fullcone.Tuple Fullcone.L3Family Fullcone.Mapping Fullcone.TableEffects Fullcone.PortSearch
open Fullcone.LinuxKernel

variable {A : Type} [DecidableEq A] {k : Kernel} {fam : Family A}

/-- The divisors of the loop of step 2, one for each round that it makes. -/
def walkDivisors (k : Kernel) (find : CtTuple → Bool) (extIp : A)
    (min size start : BitVec 16) : Nat → Nat → Tables A → List (BitVec 16)
  | 0, _, _ => []
  | rounds + 1, i, t =>
    let mapping := getMappingByExtPort k find (selectedPort min size start i) extIp t
    match mapping.1 with
    | none => [size]
    | some _ => size :: walkDivisors k find extIp min size start rounds (i + 1) mapping.2

/-- The divisors of `find_appropriate_port`: the start at a random port, and the
walk. -/
def divisors (k : Kernel) (find : CtTuple → Bool) (random : BitVec 32)
    (originalPort : BitVec 16) (extIp : A) (range : NatRange A) (t : Tables A) :
    List (BitVec 16) :=
  let min := (portWindow range).1
  let size := (portWindow range).2
  let start := startPort range random
  let walk := walkDivisors k find extIp min size start size.toNat 0
  (if isRandom range then [size] else []) ++
    if triesOriginal range originalPort then
      let mapping := getMappingByExtPort k find originalPort extIp t
      match mapping.1 with
      | none => []
      | some _ => walk mapping.2
    else walk t

theorem walkDivisors_size (find : CtTuple → Bool) (extIp : A) (min size start : BitVec 16)
    (rounds i : Nat) (t : Tables A) (divisor : BitVec 16)
    (member : divisor ∈ walkDivisors k find extIp min size start rounds i t) :
    0 < rounds ∧ divisor = size := by
  induction rounds generalizing i t with
  | zero => simp [walkDivisors] at member
  | succ rounds ih =>
    refine ⟨Nat.succ_pos _, ?_⟩
    simp only [walkDivisors] at member
    split at member
    · simpa using member
    · rcases List.mem_cons.mp member with same | later
      · exact same
      · exact (ih _ _ later).2

theorem zero_not_mem_walkDivisors (find : CtTuple → Bool) (extIp : A) (min size start : BitVec 16)
    (t : Tables A) : 0 ∉ walkDivisors k find extIp min size start size.toNat 0 t := by
  intro member
  obtain ⟨positive, zero⟩ := walkDivisors_size find extIp min size start _ _ t 0 member
  rw [← zero] at positive
  exact absurd positive (by decide)

theorem zero_mem_divisors (find : CtTuple → Bool) (random : BitVec 32)
    (originalPort : BitVec 16) (extIp : A) (range : NatRange A) (t : Tables A) :
    0 ∈ divisors k find random originalPort extIp range t ↔
      isRandom range = true ∧ (portWindow range).2 = 0 := by
  have walk := zero_not_mem_walkDivisors (k := k) find extIp (portWindow range).1
    (portWindow range).2 (startPort range random)
  have rest : 0 ∉ (if triesOriginal range originalPort then
      match (getMappingByExtPort k find originalPort extIp t).1 with
      | none => []
      | some _ => walkDivisors k find extIp (portWindow range).1 (portWindow range).2
          (startPort range random) (portWindow range).2.toNat 0
          (getMappingByExtPort k find originalPort extIp t).2
    else walkDivisors k find extIp (portWindow range).1 (portWindow range).2
      (startPort range random) (portWindow range).2.toNat 0 t) := by
    split
    · split
      · simp
      · exact walk _
    · exact walk t
  simp only [divisors, List.mem_append]
  constructor
  · rintro (start | later)
    · split at start
      · rename_i random
        exact ⟨random, (List.mem_singleton.mp start).symm⟩
      · simp at start
    · exact absurd later rest
  · rintro ⟨random, zero⟩
    left
    rw [if_pos random, zero]
    simp

/-- The ports of the range: the specified ones, or all from 1024 on. -/
def InRange (range : NatRange A) (port : BitVec 16) : Prop :=
  if hasFlag range.flags NF_NAT_RANGE_PROTO_SPECIFIED then
    be16ToCpu range.minProto ≤ port ∧ port ≤ be16ToCpu range.maxProto
  else 1024 ≤ port

def Ordered (range : NatRange A) : Prop :=
  hasFlag range.flags NF_NAT_RANGE_PROTO_SPECIFIED = true →
    be16ToCpu range.minProto ≤ be16ToCpu range.maxProto

theorem size_toNat {low high : BitVec 16} (ordered : low ≤ high) :
    (high - low + 1).toNat = (high.toNat - low.toNat + 1) % 2 ^ 16 := by
  rw [BitVec.toNat_add, BitVec.toNat_sub_of_le ordered]
  rfl

variable {range : NatRange A} {find : CtTuple → Bool} {port : BitVec 16} {extIp : A} {t : Tables A}
  {victim : BitVec 16} {result : BitVec 16 × Tables A}

omit [DecidableEq A] in
theorem inRange_iff_window (ordered : Ordered range) (narrow : (portWindow range).2 ≠ 0)
    (port : BitVec 16) :
    InRange range port ↔ (portWindow range).1.toNat ≤ port.toNat ∧
      port.toNat < (portWindow range).1.toNat + (portWindow range).2.toNat := by
  unfold InRange
  unfold portWindow at narrow ⊢
  by_cases specified : hasFlag range.flags NF_NAT_RANGE_PROTO_SPECIFIED = true
  · have le := ordered specified
    simp only [if_pos specified] at narrow ⊢
    have below := (be16ToCpu range.maxProto).isLt
    have size := size_toNat le
    have some : (be16ToCpu range.maxProto - be16ToCpu range.minProto + 1).toNat ≠ 0 :=
      fun zero => narrow (BitVec.eq_of_toNat_eq zero)
    simp only [BitVec.le_def] at le ⊢
    rw [size] at some ⊢
    omega
  · simp only [if_neg specified, BitVec.le_def]
    have below := port.isLt
    have size : (65535 - 1024 + 1 : BitVec 16).toNat = 64512 := by decide
    have low : (1024 : BitVec 16).toNat = 1024 := by decide
    rw [size, low]
    omega

omit [DecidableEq A] in
theorem window_empty (ordered : Ordered range) (empty : (portWindow range).2 = 0) :
    hasFlag range.flags NF_NAT_RANGE_PROTO_SPECIFIED = true ∧ (portWindow range).1 = 0 ∧
      ∀ port, InRange range port := by
  unfold portWindow at empty ⊢
  by_cases specified : hasFlag range.flags NF_NAT_RANGE_PROTO_SPECIFIED = true
  · have le := ordered specified
    simp only [if_pos specified] at empty ⊢
    have below := (be16ToCpu range.maxProto).isLt
    have size := size_toNat le
    rw [empty] at size
    have zero : (0 : BitVec 16).toNat = 0 := rfl
    simp only [BitVec.le_def] at le
    have low : (be16ToCpu range.minProto).toNat = 0 := by omega
    have high : (be16ToCpu range.maxProto).toNat = 65535 := by omega
    refine ⟨specified, BitVec.eq_of_toNat_eq low, fun port => ?_⟩
    have bound := port.isLt
    simp only [InRange, if_pos specified, BitVec.le_def]
    omega
  · simp only [if_neg specified] at empty
    exact absurd empty (by decide)

omit [DecidableEq A] in
theorem startPort_lt (range : NatRange A) (random : BitVec 32) (narrow : (portWindow range).2 ≠ 0) :
    (startPort range random).toNat < (portWindow range).2.toNat := by
  have positive : 0 < (portWindow range).2.toNat :=
    Nat.pos_of_ne_zero fun zero => narrow (BitVec.eq_of_toNat_eq zero)
  have bound := (portWindow range).2.isLt
  unfold startPort
  split
  · have below := Nat.mod_lt random.toNat positive
    rw [BitVec.toNat_ofNat, Nat.mod_eq_of_lt (by omega)]
    exact below
  · simpa using positive

omit [DecidableEq A] in
theorem window_fits (ordered : Ordered range) :
    (portWindow range).1.toNat + (portWindow range).2.toNat ≤ 2 ^ 16 := by
  unfold portWindow
  by_cases specified : hasFlag range.flags NF_NAT_RANGE_PROTO_SPECIFIED = true
  · have le := ordered specified
    have below := (be16ToCpu range.maxProto).isLt
    simp only [if_pos specified, size_toNat le]
    simp only [BitVec.le_def] at le
    omega
  · simp only [if_neg specified]
    decide

theorem selectedPort_toNat {min size : BitVec 16} (start : BitVec 16) (i : Nat)
    (some : size ≠ 0) (fits : min.toNat + size.toNat ≤ 2 ^ 16) :
    (selectedPort min size start i).toNat = min.toNat + (start.toNat + i) % size.toNat := by
  have positive : 0 < size.toNat :=
    Nat.pos_of_ne_zero fun zero => some (BitVec.eq_of_toNat_eq zero)
  have below := Nat.mod_lt (start.toNat + i) positive
  rw [selectedPort, BitVec.toNat_ofNat, Nat.mod_eq_of_lt (by omega)]

theorem selectedPort_surjective {min size start : BitVec 16} (fits : min.toNat + size.toNat ≤ 2 ^ 16)
    (started : start.toNat < size.toNat) (port : BitVec 16) (low : min.toNat ≤ port.toNat)
    (high : port.toNat < min.toNat + size.toNat) :
    ∃ i, i < size.toNat ∧ selectedPort min size start i = port := by
  have some : size ≠ 0 := by
    intro zero
    rw [zero] at started
    exact Nat.not_lt_zero _ started
  refine ⟨(port.toNat - min.toNat + size.toNat - start.toNat) % size.toNat,
    Nat.mod_lt _ (by omega), BitVec.eq_of_toNat_eq ?_⟩
  rw [selectedPort_toNat start _ some fits, Nat.add_mod_mod]
  have around : start.toNat + (port.toNat - min.toNat + size.toNat - start.toNat) =
      port.toNat - min.toNat + size.toNat := by omega
  rw [around, Nat.add_mod_right, Nat.mod_eq_of_lt (by omega)]
  omega

theorem active_iff (find : CtTuple → Bool) (tuples : List CtTuple) :
    tuples.any find = true ↔ tuples.filter find ≠ [] := by
  simp [List.filter_eq_nil_iff]

theorem active_of_sublist {left before : List CtTuple} (list : left.Sublist before)
    (active : left.any find = true) : before.any find = true := by
  obtain ⟨tuple, member, live⟩ := List.any_eq_true.mp active
  exact List.any_eq_true.mpr ⟨tuple, list.subset member, live⟩

omit [DecidableEq A] in
theorem taken_of_spares {before after : Tables A} (taken : Taken find before port extIp)
    (spares : Spares find before after) : Taken find after port extIp := by
  obtain ⟨id, mapping, found, samePort, sameAddr, active⟩ := taken
  obtain ⟨left, leftFound, key, list⟩ := spares id mapping found ((active_iff _ _).mp active)
  have ports : left.port = mapping.port := congrArg Endpoints.port key
  have addrs : left.addr = mapping.addr := congrArg Endpoints.addr key
  refine ⟨id, left, leftFound, ports.trans samePort, addrs.trans sameAddr, ?_⟩
  rw [active_iff, list, ← active_iff]
  exact active

theorem getMappingByExtPort_taken (wf : WellFormed k fam t) (taken : Taken find t port extIp) :
    ∃ hit, (getMappingByExtPort k find port extIp t).1 = some hit := by
  cases looked : (getMappingByExtPort k find port extIp t).1 with
  | some hit => exact ⟨hit, rfl⟩
  | none =>
    have spec := getMappingByExtPort_spec wf find port extIp
    obtain ⟨id, left, found, samePort, sameAddr, -⟩ := taken_of_spares taken spec.spares
    exact absurd ⟨samePort, sameAddr⟩
      (getMappingByExtPort_none wf find port extIp looked id left found)

theorem searchPorts_selected (find : CtTuple → Bool) (extIp : A) (min size start : BitVec 16)
    (rounds i : Nat) (t : Tables A) (port : BitVec 16)
    (selected : (searchPorts k find extIp min size start rounds i t).1 = some port) :
    ∃ j, i ≤ j ∧ j < i + rounds ∧ port = selectedPort min size start j := by
  induction rounds generalizing i t with
  | zero => simp [searchPorts] at selected
  | succ rounds ih =>
    simp only [searchPorts] at selected
    split at selected
    · exact ⟨i, Nat.le_refl i, by omega, (Option.some.inj selected).symm⟩
    · obtain ⟨j, low, high, same⟩ := ih (i + 1) _ selected
      exact ⟨j, by omega, by omega, same⟩

/-- The search stopped at a port that it left without a mapping. -/
structure Found (find : CtTuple → Bool) (extIp : A) (offered : BitVec 16 → Prop)
    (t : Tables A) (result : BitVec 16 × Tables A) : Prop where
  offered : offered result.1
  spares : Spares find t result.2
  absent : ∀ id mapping, result.2.heap id = some mapping →
    ¬ (mapping.port = result.1 ∧ mapping.addr = extIp)

/-- The search ended with the override, in the tables that the walk has left. -/
def Overridden (k : Kernel) (fam : Family A) (find : CtTuple → Bool) (extIp : A)
    (victim : BitVec 16) (t : Tables A) (result : BitVec 16 × Tables A) : Prop :=
  ∃ walked, WellFormed k fam walked ∧ Shrinks t walked ∧ Spares find t walked ∧
    result = (victim, killMapping (getMappingByExtPort k find victim extIp walked).1
      (getMappingByExtPort k find victim extIp walked).2)

def Walked (range : NatRange A) (random : BitVec 32) (port : BitVec 16) : Prop :=
  ∃ i, i < (portWindow range).2.toNat ∧
    port = selectedPort (portWindow range).1 (portWindow range).2 (startPort range random) i

/-- The ports of a search, in which a free one is looked for. -/
def Offered (range : NatRange A) (random : BitVec 32) (originalPort port : BitVec 16) : Prop :=
  (triesOriginal range originalPort = true ∧ port = originalPort) ∨ Walked range random port

def victimPort (range : NatRange A) (random : BitVec 32) : BitVec 16 :=
  (portWindow range).1 + startPort range random

theorem searchFrom_ends (wf : WellFormed k fam t) (find : CtTuple → Bool) (random : BitVec 32)
    (extIp : A) (range : NatRange A) :
    let result := searchFrom k find extIp (portWindow range).1 (portWindow range).2
      (startPort range random) t
    Found find extIp (Walked range random) t result ∨
      ((∀ port, Walked range random port → Taken find t port extIp) ∧
        Overridden k fam find extIp (victimPort range random) t result) := by
  obtain ⟨wellFormed, shrinks, spares, -, free, taken⟩ :=
    searchPorts_spec find extIp (portWindow range).1 (portWindow range).2
      (startPort range random) (portWindow range).2.toNat 0 t wf
  dsimp only
  cases searched : (searchPorts k find extIp (portWindow range).1 (portWindow range).2
      (startPort range random) (portWindow range).2.toNat 0 t).1 with
  | some selected =>
    left
    obtain ⟨j, -, high, same⟩ := searchPorts_selected find extIp _ _ _ _ _ t selected searched
    simp only [searchFrom, searched]
    exact ⟨⟨j, by omega, same⟩, spares, free selected searched⟩
  | none =>
    right
    refine ⟨?_, _, wellFormed, shrinks, spares, ?_⟩
    · rintro port ⟨i, bound, rfl⟩
      exact taken searched i (Nat.zero_le i) (by omega)
    · simp only [searchFrom, searched, victimPort]

theorem findAppropriatePort_ends (wf : WellFormed k fam t) (find : CtTuple → Bool)
    (random : BitVec 32) (originalPort : BitVec 16) (extIp : A) (range : NatRange A) :
    let result := findAppropriatePort k find random originalPort extIp range t
    Found find extIp (Offered range random originalPort) t result ∨
      ((∀ port, Offered range random originalPort port → Taken find t port extIp) ∧
        Overridden k fam find extIp (victimPort range random) t result) := by
  dsimp only
  by_cases original : triesOriginal range originalPort = true
  · have spec := getMappingByExtPort_spec wf find originalPort extIp
    cases looked : (getMappingByExtPort k find originalPort extIp t).1 with
    | none =>
      left
      simp only [findAppropriatePort, original, if_true, looked]
      exact ⟨Or.inl ⟨original, rfl⟩, spec.spares,
        getMappingByExtPort_none wf find originalPort extIp looked⟩
    | some hit =>
      obtain ⟨mapping, found, samePort, sameAddr, active, -⟩ := spec.hit hit looked
      have taken : Taken find t originalPort extIp :=
        ⟨hit, mapping, found, samePort, sameAddr, active⟩
      simp only [findAppropriatePort, original, if_true, looked]
      rcases searchFrom_ends spec.wellFormed find random extIp range with
        free | ⟨exhausted, walked, wellFormed, shrinks, spares, same⟩
      · exact Or.inl ⟨Or.inr free.offered, spec.spares.trans free.spares, free.absent⟩
      · refine Or.inr ⟨?_, walked, wellFormed, spec.shrinks.trans shrinks,
          spec.spares.trans spares, same⟩
        rintro port (⟨-, rfl⟩ | offered)
        · exact taken
        · exact (exhausted port offered).of_shrinks spec.shrinks
  · simp only [findAppropriatePort, original, if_false, Bool.false_eq_true]
    rcases searchFrom_ends wf find random extIp range with free | ⟨exhausted, overridden⟩
    · exact Or.inl ⟨Or.inr free.offered, free.spares, free.absent⟩
    · refine Or.inr ⟨?_, overridden⟩
      rintro port (⟨tried, -⟩ | offered)
      · exact absurd tried original
      · exact exhausted port offered

/-- No division by zero, a port of the range or the original one where no range is
specified, no live mapping at the endpoint, and none destroyed unless all ports
of the range were taken. -/
structure Delivers (k : Kernel) (find : CtTuple → Bool) (random : BitVec 32)
    (originalPort : BitVec 16) (extIp : A) (range : NatRange A) (t : Tables A) : Prop where
  divides : 0 ∉ divisors k find random originalPort extIp range t
  usable : InRange range (findAppropriatePort k find random originalPort extIp range t).1 ∨
    (hasFlag range.flags NF_NAT_RANGE_PROTO_SPECIFIED = false ∧
      (findAppropriatePort k find random originalPort extIp range t).1 = originalPort)
  free : ¬ Taken find (findAppropriatePort k find random originalPort extIp range t).2
    (findAppropriatePort k find random originalPort extIp range t).1 extIp
  spared : ∀ id mapping, t.heap id = some mapping →
    mapping.originalTupleList.any find = true →
      (findAppropriatePort k find random originalPort extIp range t).2.heap id = none →
        ∀ port, InRange range port → Taken find t port extIp

def HeldOnce (find : CtTuple → Bool) (t : Tables A) (port : BitVec 16) (extIp : A) : Prop :=
  ∀ first second left right, t.heap first = some left → t.heap second = some right →
    (left.port = port ∧ left.addr = extIp ∧ left.originalTupleList.any find = true) →
      (right.port = port ∧ right.addr = extIp ∧ right.originalTupleList.any find = true) →
        first = second

/-- The start is not random in a window of all ports, where port 0 is free or all
ports are taken; and where no offered port is free, one live mapping holds the
port that is given up. -/
structure Deliverable (find : CtTuple → Bool) (random : BitVec 32)
    (originalPort : BitVec 16) (extIp : A) (range : NatRange A) (t : Tables A) : Prop where
  start : (portWindow range).2 = 0 → isRandom range = false
  zeroPort : (portWindow range).2 = 0 → Taken find t 0 extIp → ∀ port, Taken find t port extIp
  once : (∀ port, Offered range random originalPort port → Taken find t port extIp) →
    HeldOnce find t (victimPort range random) extIp

omit [DecidableEq A] in
theorem offered_usable (ordered : Ordered range) (random : BitVec 32) (originalPort : BitVec 16)
    (offered : Offered range random originalPort port) :
    InRange range port ∨
      (hasFlag range.flags NF_NAT_RANGE_PROTO_SPECIFIED = false ∧ port = originalPort) := by
  by_cases empty : (portWindow range).2 = 0
  · exact Or.inl ((window_empty ordered empty).2.2 port)
  · rcases offered with ⟨tried, rfl⟩ | ⟨i, bound, rfl⟩
    · simp only [triesOriginal, Bool.and_eq_true, Bool.or_eq_true, decide_eq_true_eq,
        Bool.not_eq_true'] at tried
      rcases tried.2 with ⟨low, high⟩ | unspecified
      · left
        rw [inRange_iff_window ordered empty]
        rw [BitVec.le_def] at low
        exact ⟨low, by omega⟩
      · exact Or.inr ⟨unspecified, rfl⟩
    · left
      have fits := window_fits ordered
      have positive : 0 < (portWindow range).2.toNat := by omega
      have below := Nat.mod_lt ((startPort range random).toNat + i) positive
      rw [inRange_iff_window ordered empty, selectedPort_toNat _ _ empty fits]
      omega

omit [DecidableEq A] in
theorem victimPort_inRange (ordered : Ordered range) (random : BitVec 32) :
    InRange range (victimPort range random) := by
  by_cases empty : (portWindow range).2 = 0
  · exact (window_empty ordered empty).2.2 _
  · have fits := window_fits ordered
    have started := startPort_lt range random empty
    rw [inRange_iff_window ordered empty, victimPort, BitVec.toNat_add,
      Nat.mod_eq_of_lt (by omega)]
    omega

omit [DecidableEq A] in
theorem inRange_taken (ordered : Ordered range) (some : (portWindow range).2 ≠ 0)
    {random : BitVec 32} {originalPort : BitVec 16}
    (exhausted : ∀ port, Offered range random originalPort port → Taken find t port extIp)
    (port : BitVec 16) (inRange : InRange range port) : Taken find t port extIp := by
  rw [inRange_iff_window ordered some] at inRange
  obtain ⟨i, bound, same⟩ := selectedPort_surjective (window_fits ordered)
    (startPort_lt range random some) port inRange.1 inRange.2
  exact exhausted port (Or.inr ⟨i, bound, same.symm⟩)

omit [DecidableEq A] in
theorem emptyWindow (ordered : Ordered range) (empty : (portWindow range).2 = 0)
    (random : BitVec 32) (originalPort : BitVec 16) :
    (∀ port, ¬ Offered range random originalPort port) ∧
      (isRandom range = false → victimPort range random = 0) := by
  obtain ⟨specified, low, -⟩ := window_empty ordered empty
  constructor
  · rintro port (⟨tried, -⟩ | ⟨i, bound, -⟩)
    · simp only [triesOriginal, specified, low, empty, Bool.not_true, Bool.or_false,
        Bool.and_eq_true, decide_eq_true_eq] at tried
      have high := tried.2.2
      have zero : (0 : BitVec 16).toNat = 0 := rfl
      rw [zero] at high
      omega
    · rw [empty] at bound
      exact absurd bound (by simp)
  · intro still
    simp [victimPort, startPort, still, low]

theorem overridden_victim (overridden : Overridden k fam find extIp victim t result) (id : Nat)
    (mapping : NatMapping A) (found : t.heap id = some mapping)
    (active : mapping.originalTupleList.any find = true) (gone : result.2.heap id = none) :
    mapping.port = victim ∧ mapping.addr = extIp := by
  obtain ⟨walked, wf, shrinks, spares, rfl⟩ := overridden
  have spec := getMappingByExtPort_spec wf find victim extIp
  obtain ⟨left, leftFound, -⟩ :=
    spares.trans spec.spares id mapping found ((active_iff _ _).mp active)
  cases looked : (getMappingByExtPort k find victim extIp walked).1 with
  | none =>
    rw [looked] at gone
    exact absurd (leftFound.symm.trans gone) (fun same => nomatch same)
  | some hit =>
    obtain ⟨candidate, candidateFound, samePort, sameAddr, -⟩ := spec.hit hit looked
    by_cases same : id = hit
    · subst hit
      obtain ⟨before, beforeFound, key, -⟩ := shrinks.survivor id candidate candidateFound
      rw [found, Option.some.injEq] at beforeFound
      subst before
      have ports : candidate.port = mapping.port := congrArg Endpoints.port key
      have addrs : candidate.addr = mapping.addr := congrArg Endpoints.addr key
      exact ⟨ports.symm.trans samePort, addrs.symm.trans sameAddr⟩
    · rw [looked] at gone
      simp [killMapping, same, leftFound] at gone

theorem overridden_hit (overridden : Overridden k fam find extIp victim t result)
    (taken : Taken find t victim extIp) :
    ∃ hit mapping, t.heap hit = some mapping ∧ mapping.port = victim ∧ mapping.addr = extIp ∧
      mapping.originalTupleList.any find = true ∧ result.2.heap hit = none ∧
        ∀ id left, id ≠ hit → t.heap id = some left → left.originalTupleList.any find = true →
          left.port = victim → left.addr = extIp → Taken find result.2 victim extIp := by
  obtain ⟨walked, wf, shrinks, spares, rfl⟩ := overridden
  have spec := getMappingByExtPort_spec wf find victim extIp
  obtain ⟨hit, looked⟩ := getMappingByExtPort_taken wf (taken_of_spares taken spares)
  obtain ⟨candidate, candidateFound, samePort, sameAddr, active, -⟩ := spec.hit hit looked
  obtain ⟨mapping, mappingFound, key, list⟩ := shrinks.survivor hit candidate candidateFound
  have ports : candidate.port = mapping.port := congrArg Endpoints.port key
  have addrs : candidate.addr = mapping.addr := congrArg Endpoints.addr key
  refine ⟨hit, mapping, mappingFound, ports.symm.trans samePort, addrs.symm.trans sameAddr,
    active_of_sublist list active, by simp [looked, killMapping], ?_⟩
  intro id left differs leftFound leftActive leftPort leftAddr
  obtain ⟨after, afterFound, afterKey, afterList⟩ :=
    spares.trans spec.spares id left leftFound ((active_iff _ _).mp leftActive)
  have afterPorts : after.port = left.port := congrArg Endpoints.port afterKey
  have afterAddrs : after.addr = left.addr := congrArg Endpoints.addr afterKey
  refine ⟨id, after, by simpa [looked, killMapping, differs] using afterFound,
    afterPorts.trans leftPort, afterAddrs.trans leftAddr, ?_⟩
  rw [active_iff, afterList, ← active_iff]
  exact leftActive

theorem overridden_free (overridden : Overridden k fam find extIp victim t result)
    (once : HeldOnce find t victim extIp) : ¬ Taken find result.2 result.1 extIp := by
  have shrinks : Shrinks t result.2 := by
    obtain ⟨walked, wf, shrinks, -, rfl⟩ := overridden
    exact shrinks.trans ((getMappingByExtPort_spec wf find victim extIp).shrinks.trans
      (shrinks_kill _ _))
  have returned : result.1 = victim := by
    obtain ⟨walked, -, -, -, rfl⟩ := overridden
    rfl
  rw [returned]
  rintro ⟨id, left, found, samePort, sameAddr, active⟩
  obtain ⟨before, beforeFound, key, list⟩ := shrinks.survivor id left found
  have ports : left.port = before.port := congrArg Endpoints.port key
  have addrs : left.addr = before.addr := congrArg Endpoints.addr key
  have beforeKey := And.intro (ports.symm.trans samePort)
    (And.intro (addrs.symm.trans sameAddr) (active_of_sublist list active))
  obtain ⟨hit, mapping, mappingFound, hitPort, hitAddr, hitActive, gone, -⟩ :=
    overridden_hit overridden ⟨id, before, beforeFound, beforeKey⟩
  have same := once id hit before mapping beforeFound mappingFound beforeKey
    ⟨hitPort, hitAddr, hitActive⟩
  rw [same, gone] at found
  cases found

def allPorts (flags : BitVec 32) : NatRange Be32 :=
  ⟨NF_NAT_RANGE_PROTO_SPECIFIED ||| flags, 0, 0, cpuToBe16 0, cpuToBe16 65535⟩

def zeroTaken : Tables Be32 :=
  addOriginalTupleToMapping true 0 (udpTuple host 0 peer 53)
    (allocateMapping linuxKernel ipv4 true host 0 0 wan Tables.empty).2

end OpenwrtSource.Fullcone.PortChoice
