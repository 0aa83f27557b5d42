import Mathlib.Data.BitVec
import Mathlib.Data.List.FinRange

/-!
# Teardown of a tunnel's flows

`mtk_flow_offload_teardown_by_tnl` goes through all entries of all PPEs and has the flow
of each bound entry with the id torn down.  The flow's tuple is rebuilt from the entry, by
a packet type that is read in one place for all generations.
-/

namespace OpenwrtSource.PpeOffload.TunnelTeardown

/-- `struct mtk_foe_entry`: `ib1` and the words behind it. -/
structure FoeEntry where
  ib1 : BitVec 32
  data : Nat → BitVec 32

def MTK_PPE_ENTRIES : Nat := 16384
def MTK_FOE_STATE_BIND : Nat := 2
def MTK_FOE_NPU_DEL : Nat := 0
def MTK_FOE_CRYPTO_DEL : Nat := 1
def MTK_FOE_DEL_MAX : Nat := 2
def MTK_PPE_PKT_TYPE_IPV4_HNAPT : Nat := 0
def MTK_PPE_PKT_TYPE_IPV4_ROUTE : Nat := 1
def MTK_PPE_PKT_TYPE_IPV4_DSLITE : Nat := 3
def MTK_PPE_PKT_TYPE_IPV6_ROUTE_3T : Nat := 4
def MTK_PPE_PKT_TYPE_IPV6_ROUTE_5T : Nat := 5
def MTK_PPE_PKT_TYPE_IPV6_6RD : Nat := 7

abbrev Ppe := Fin MTK_PPE_ENTRIES → FoeEntry

/-- `v2` is `mtk_is_netsys_v2_or_greater`; a PPE that is absent is a null pointer.  `tinfo` is
that of the entry's `mtk_foe_entry_l2`. -/
structure MtkEth where
  v2 : Bool
  ppe : List (Option Ppe)
  tinfo : FoeEntry → BitVec 16

inductive L3proto where
  | ipv4
  | ipv6
deriving DecidableEq

inductive L4proto where
  | tcp
  | udp
deriving DecidableEq

/-- `struct flow_offload_tuple`, the numbers in network order by their values.  An IPv4 address
is the first word of the union. -/
@[ext] structure Tuple where
  l3proto : L3proto
  l4proto : L4proto
  srcPort : BitVec 16
  dstPort : BitVec 16
  src : Fin 4 → BitVec 32
  dst : Fin 4 → BitVec 32

/-- `MTK_FOE_IB1_STATE`. -/
def stateOf (entry : FoeEntry) : Nat := (entry.ib1.extractLsb' 28 2).toNat

/-- `MTK_FOE_IB1_UDP`. -/
def l4protoOf (entry : FoeEntry) : L4proto := if entry.ib1.getLsbD 30 then .udp else .tcp

/-- `MTK_FOE_TOPS_ENTRY` or `MTK_FOE_CDRT_IDX` of `l2->tinfo`; `mode` is below
`MTK_FOE_DEL_MAX`. -/
def fieldOf (eth : MtkEth) (mode : Nat) (entry : FoeEntry) : Nat :=
  if mode = MTK_FOE_NPU_DEL then ((eth.tinfo entry).extractLsb' 8 6).toNat
  else ((eth.tinfo entry).extractLsb' 0 8).toNat

/-- The tuple of `entry->ipv6`. -/
def ipv6Tuple (entry : FoeEntry) : Tuple where
  l3proto := .ipv6
  l4proto := l4protoOf entry
  srcPort := (entry.data 8).extractLsb' 16 16
  dstPort := (entry.data 8).extractLsb' 0 16
  src := fun k => entry.data k
  dst := fun k => entry.data (4 + k)

/-- The tuple of `entry->ipv4.orig`. -/
def ipv4Tuple (entry : FoeEntry) : Tuple where
  l3proto := .ipv4
  l4proto := l4protoOf entry
  srcPort := (entry.data 2).extractLsb' 16 16
  dstPort := (entry.data 2).extractLsb' 0 16
  src := fun k => if k = 0 then entry.data 0 else 0
  dst := fun k => if k = 0 then entry.data 1 else 0

/-- `MTK_FOE_IB1_PACKET_TYPE`, bits 27:25. -/
def packetType (entry : FoeEntry) : Nat := (entry.ib1.extractLsb' 25 3).toNat

def tupleOf (entry : FoeEntry) : Tuple :=
  if packetType entry > MTK_PPE_PKT_TYPE_IPV4_DSLITE then ipv6Tuple entry else ipv4Tuple entry

/-- The body of the loop over the entries: the tuple that is torn down. -/
def teardownEntry (eth : MtkEth) (mode : Nat) (id : Int) (entry : FoeEntry) : Option Tuple :=
  if stateOf entry ≠ MTK_FOE_STATE_BIND then none
  else if (fieldOf eth mode entry : Int) ≠ id then none
  else some (tupleOf entry)

/-- The loop over the PPEs; the first entry of an absent PPE is read through a null pointer. -/
def teardownPpes (eth : MtkEth) (mode : Nat) (id : Int) : List (Option Ppe) → Option (List Tuple)
  | [] => some []
  | none :: _ => none
  | some ppe :: rest =>
    (teardownPpes eth mode id rest).map fun calls =>
      (List.finRange MTK_PPE_ENTRIES).filterMap (fun j => teardownEntry eth mode id (ppe j)) ++
        calls

/-- The calls of `flow_offload_teardown_by_tuple`, or none at all where the walk does not come to
its end. -/
def mtkFlowOffloadTeardownByTnl (eth : Option MtkEth) (mode : Nat) (id : Int) :
    Option (List Tuple) :=
  match eth with
  | none => some []
  | some eth => if mode ≥ MTK_FOE_DEL_MAX then some [] else teardownPpes eth mode id eth.ppe

/-- The packet type by generation: bits 27:25 of `ib1`, from NETSYS v2 on bits 27:23. -/
def typeOf (eth : MtkEth) (entry : FoeEntry) : Nat :=
  if eth.v2 then (entry.ib1.extractLsb' 23 5).toNat else (entry.ib1.extractLsb' 25 3).toNat

def ipv4Types : List Nat :=
  [MTK_PPE_PKT_TYPE_IPV4_HNAPT, MTK_PPE_PKT_TYPE_IPV4_ROUTE, MTK_PPE_PKT_TYPE_IPV4_DSLITE]

def ipv6Types : List Nat :=
  [MTK_PPE_PKT_TYPE_IPV6_ROUTE_3T, MTK_PPE_PKT_TYPE_IPV6_ROUTE_5T, MTK_PPE_PKT_TYPE_IPV6_6RD]

def flowOf (eth : MtkEth) (entry : FoeEntry) : Tuple :=
  if typeOf eth entry ∈ ipv6Types then ipv6Tuple entry else ipv4Tuple entry

/-- A bound entry whose id, of the kind that the mode names, is `id`. -/
def Matches (eth : MtkEth) (mode : Nat) (id : Int) (entry : FoeEntry) : Prop :=
  mode < MTK_FOE_DEL_MAX ∧ stateOf entry = MTK_FOE_STATE_BIND ∧
    (fieldOf eth mode entry : Int) = id

instance (eth : MtkEth) (mode : Nat) (id : Int) (entry : FoeEntry) :
    Decidable (Matches eth mode id entry) := inferInstanceAs (Decidable (_ ∧ _ ∧ _))

/-- The tuples of the matching entries of the PPEs that are there. -/
def flows (tuple : FoeEntry → Tuple) (eth : MtkEth) (mode : Nat) (id : Int) :
    List (Option Ppe) → List Tuple
  | [] => []
  | none :: rest => flows tuple eth mode id rest
  | some ppe :: rest =>
    ((List.finRange MTK_PPE_ENTRIES).filter fun j => decide (Matches eth mode id (ppe j))).map
        (fun j => tuple (ppe j)) ++
      flows tuple eth mode id rest

/-- The flows of the matching entries are torn down, each once, and no other. -/
def TearsDown (eth : MtkEth) (mode : Nat) (id : Int) : Prop :=
  ∃ calls, mtkFlowOffloadTeardownByTnl (some eth) mode id = some calls ∧
    calls.Perm (flows (flowOf eth) eth mode id eth.ppe)

/-- The bound entries are of the types that the driver binds. -/
def Listed (eth : MtkEth) : Prop :=
  ∀ ppe, some ppe ∈ eth.ppe → ∀ j, stateOf (ppe j) = MTK_FOE_STATE_BIND →
    typeOf eth (ppe j) ∈ ipv4Types ∨ typeOf eth (ppe j) ∈ ipv6Types

/-- No PPE is absent, and from NETSYS v2 on no matching entry is of an IPv6 type. -/
structure Reachable (eth : MtkEth) (mode : Nat) (id : Int) : Prop where
  present : none ∉ eth.ppe
  ipv4 : eth.v2 = true → ∀ ppe, some ppe ∈ eth.ppe → ∀ j, Matches eth mode id (ppe j) →
    typeOf eth (ppe j) ∉ ipv6Types

variable {eth : MtkEth} {entry : FoeEntry}

theorem tupleOf_v1 (v1 : eth.v2 = false)
    (listed : typeOf eth entry ∈ ipv4Types ∨ typeOf eth entry ∈ ipv6Types) :
    tupleOf entry = flowOf eth entry := by
  have same : typeOf eth entry = packetType entry := by
    unfold typeOf packetType
    rw [v1]
    rfl
  have split : packetType entry > MTK_PPE_PKT_TYPE_IPV4_DSLITE ↔ typeOf eth entry ∈ ipv6Types := by
    rw [← same]
    constructor
    · intro above
      refine listed.resolve_left fun small => ?_
      revert above small
      generalize typeOf eth entry = type
      unfold ipv4Types MTK_PPE_PKT_TYPE_IPV4_HNAPT MTK_PPE_PKT_TYPE_IPV4_ROUTE
        MTK_PPE_PKT_TYPE_IPV4_DSLITE
      simp only [List.mem_cons, List.not_mem_nil, or_false]
      omega
    · generalize typeOf eth entry = type
      unfold ipv6Types MTK_PPE_PKT_TYPE_IPV6_ROUTE_3T MTK_PPE_PKT_TYPE_IPV6_ROUTE_5T
        MTK_PPE_PKT_TYPE_IPV6_6RD MTK_PPE_PKT_TYPE_IPV4_DSLITE
      simp only [List.mem_cons, List.not_mem_nil, or_false]
      omega
  unfold tupleOf flowOf
  simp only [split]

theorem packetType_v2 (v2 : eth.v2 = true) (entry : FoeEntry) :
    packetType entry = typeOf eth entry / 4 := by
  unfold typeOf packetType
  rw [v2, if_pos rfl, BitVec.extractLsb'_toNat, BitVec.extractLsb'_toNat,
    Nat.shiftRight_eq_div_pow, Nat.shiftRight_eq_div_pow]
  omega

theorem tupleOf_v2 (v2 : eth.v2 = true)
    (listed : typeOf eth entry ∈ ipv4Types ∨ typeOf eth entry ∈ ipv6Types) :
    tupleOf entry = ipv4Tuple entry := by
  unfold tupleOf
  rw [if_neg]
  rw [packetType_v2 v2]
  revert listed
  generalize typeOf eth entry = type
  unfold ipv4Types ipv6Types MTK_PPE_PKT_TYPE_IPV4_HNAPT MTK_PPE_PKT_TYPE_IPV4_ROUTE
    MTK_PPE_PKT_TYPE_IPV4_DSLITE MTK_PPE_PKT_TYPE_IPV6_ROUTE_3T MTK_PPE_PKT_TYPE_IPV6_ROUTE_5T
    MTK_PPE_PKT_TYPE_IPV6_6RD
  simp only [List.mem_cons, List.not_mem_nil, or_false]
  omega

section Walk

variable {eth : MtkEth} {mode : Nat} {id : Int}

theorem teardownEntry_eq (valid : mode < MTK_FOE_DEL_MAX) (entry : FoeEntry) :
    teardownEntry eth mode id entry =
      if Matches eth mode id entry then some (tupleOf entry) else none := by
  unfold teardownEntry
  by_cases bind : stateOf entry = MTK_FOE_STATE_BIND
  · by_cases field : (fieldOf eth mode entry : Int) = id
    · have has : Matches eth mode id entry := ⟨valid, bind, field⟩
      rw [if_neg (not_not.mpr bind), if_neg (not_not.mpr field), if_pos has]
    · have other : ¬ Matches eth mode id entry := fun all => field all.2.2
      rw [if_neg (not_not.mpr bind), if_pos field, if_neg other]
  · have free : ¬ Matches eth mode id entry := fun all => bind all.2.1
    rw [if_pos bind, if_neg free]

theorem filterMap_teardownEntry (valid : mode < MTK_FOE_DEL_MAX) (ppe : Ppe)
    (entries : List (Fin MTK_PPE_ENTRIES)) :
    entries.filterMap (fun j => teardownEntry eth mode id (ppe j)) =
      (entries.filter fun j => decide (Matches eth mode id (ppe j))).map
        fun j => tupleOf (ppe j) := by
  induction entries with
  | nil => rfl
  | cons j rest ih =>
    have this : teardownEntry eth mode id (ppe j) =
        if Matches eth mode id (ppe j) then some (tupleOf (ppe j)) else none :=
      teardownEntry_eq valid (ppe j)
    by_cases has : Matches eth mode id (ppe j)
    · rw [if_pos has] at this
      rw [List.filter_cons_of_pos (by simpa using has), List.map_cons, ← ih]
      exact List.filterMap_cons_some this
    · rw [if_neg has] at this
      rw [List.filter_cons_of_neg (by simpa using has), ← ih]
      exact List.filterMap_cons_none this

variable {ppes : List (Option Ppe)} {left right : FoeEntry → Tuple}

theorem teardownPpes_of_present (valid : mode < MTK_FOE_DEL_MAX) (present : none ∉ ppes) :
    teardownPpes eth mode id ppes = some (flows tupleOf eth mode id ppes) := by
  induction ppes with
  | nil => rfl
  | cons ppe rest ih =>
    cases ppe with
    | none => exact absurd List.mem_cons_self present
    | some ppe =>
      unfold teardownPpes flows
      rw [ih fun absent => present (List.mem_cons_of_mem _ absent),
        filterMap_teardownEntry valid]
      rfl

theorem teardownPpes_of_absent (absent : none ∈ ppes) : teardownPpes eth mode id ppes = none := by
  induction ppes with
  | nil => cases absent
  | cons ppe rest ih =>
    cases ppe with
    | none => rfl
    | some ppe =>
      unfold teardownPpes
      rw [ih ((List.mem_cons.mp absent).resolve_left nofun)]
      rfl

theorem mem_flows {tuple : FoeEntry → Tuple} {flow : Tuple} :
    flow ∈ flows tuple eth mode id ppes ↔
      ∃ ppe, some ppe ∈ ppes ∧ ∃ j, Matches eth mode id (ppe j) ∧ tuple (ppe j) = flow := by
  induction ppes with
  | nil => exact iff_of_false nofun fun ⟨_, listed, _⟩ => nomatch listed
  | cons ppe rest ih =>
    cases ppe with
    | none =>
      unfold flows
      rw [ih]
      simp only [List.mem_cons, reduceCtorEq, false_or]
    | some ppe =>
      unfold flows
      rw [List.mem_append, ih]
      simp only [List.mem_map, List.mem_filter, List.mem_finRange, true_and,
        decide_eq_true_eq, List.mem_cons, Option.some.injEq, exists_eq_or_imp]

theorem map_filter_congr {ppe : Ppe}
    (same : ∀ j, Matches eth mode id (ppe j) → left (ppe j) = right (ppe j))
    (entries : List (Fin MTK_PPE_ENTRIES)) :
    (entries.filter fun j => decide (Matches eth mode id (ppe j))).map (fun j => left (ppe j)) =
      (entries.filter fun j => decide (Matches eth mode id (ppe j))).map
        fun j => right (ppe j) := by
  refine List.map_congr_left fun j kept => same j ?_
  have has := List.of_mem_filter kept
  exact of_decide_eq_true has

theorem flows_congr (same : ∀ ppe, some ppe ∈ ppes → ∀ j, Matches eth mode id (ppe j) →
      left (ppe j) = right (ppe j)) :
    flows left eth mode id ppes = flows right eth mode id ppes := by
  induction ppes with
  | nil => rfl
  | cons ppe rest ih =>
    have others := ih fun other listed => same other (List.mem_cons_of_mem _ listed)
    cases ppe with
    | none => exact others
    | some ppe =>
      unfold flows
      rw [others, map_filter_congr (same ppe List.mem_cons_self)]

theorem flows_of_no_mode (invalid : MTK_FOE_DEL_MAX ≤ mode) (tuple : FoeEntry → Tuple)
    (ppes : List (Option Ppe)) : flows tuple eth mode id ppes = [] := by
  refine List.eq_nil_iff_forall_not_mem.mpr fun flow listed => ?_
  obtain ⟨ppe, -, j, has, -⟩ := mem_flows.mp listed
  exact Nat.not_le.mpr has.1 invalid

theorem reachable_of_tearsDown (listed : Listed eth) (valid : mode < MTK_FOE_DEL_MAX)
    (tearsDown : TearsDown eth mode id) : Reachable eth mode id := by
  obtain ⟨calls, done, perm⟩ := tearsDown
  unfold mtkFlowOffloadTeardownByTnl at done
  simp only [if_neg (Nat.not_le.mpr valid)] at done
  have present : none ∉ eth.ppe := by
    intro absent
    rw [teardownPpes_of_absent absent] at done
    cases done
  rw [teardownPpes_of_present valid present, Option.some.injEq] at done
  refine ⟨present, fun v2 ppe there j has ipv6 => ?_⟩
  have flow : ipv6Tuple (ppe j) ∈ flows (flowOf eth) eth mode id eth.ppe :=
    mem_flows.mpr ⟨ppe, there, j, has, if_pos ipv6⟩
  -- the flow is IPv6, and every tuple that is torn down is IPv4
  rw [← perm.mem_iff, ← done] at flow
  obtain ⟨other, otherThere, k, otherHas, same⟩ := mem_flows.mp flow
  rw [tupleOf_v2 v2 (listed other otherThere k otherHas.2.1)] at same
  exact absurd (congrArg Tuple.l3proto same) nofun

theorem tearsDown_of_reachable (listed : Listed eth) (valid : mode < MTK_FOE_DEL_MAX)
    (reachable : Reachable eth mode id) : TearsDown eth mode id := by
  unfold TearsDown mtkFlowOffloadTeardownByTnl
  simp only [if_neg (Nat.not_le.mpr valid)]
  refine ⟨_, teardownPpes_of_present valid reachable.present, ?_⟩
  rw [flows_congr]
  intro ppe there j has
  have known := listed ppe there j has.2.1
  cases generation : eth.v2 with
  | false => exact tupleOf_v1 generation known
  | true =>
    rw [tupleOf_v2 generation known]
    exact (if_neg (reachable.ipv4 generation ppe there j has)).symm

end Walk

/-- The teardown reaches the flows exactly if there is nothing to do, or no PPE is absent and
all matching entries are of types that are read right. -/
theorem teardown_iff (eth : MtkEth) (listed : Listed eth) (mode : Nat) (id : Int) :
    TearsDown eth mode id ↔ MTK_FOE_DEL_MAX ≤ mode ∨ Reachable eth mode id := by
  rcases Nat.lt_or_ge mode MTK_FOE_DEL_MAX with valid | invalid
  · rw [or_iff_right (Nat.not_le.mpr valid)]
    exact ⟨reachable_of_tearsDown listed valid, tearsDown_of_reachable listed valid⟩
  · refine iff_of_true ⟨[], if_pos invalid, ?_⟩ (.inl invalid)
    rw [flows_of_no_mode invalid]

/-- One PPE, all entries of which have the same `ib1` and the crypto id 7. -/
def ethOf (v2 : Bool) (ib1 : BitVec 32) : MtkEth :=
  ⟨v2, [some fun _ => ⟨ib1, fun _ => 0⟩], fun _ => 7⟩

theorem listed_ethOf {v2 : Bool} {ib1 : BitVec 32}
    (known : typeOf (ethOf v2 ib1) ⟨ib1, fun _ => 0⟩ ∈ ipv6Types) : Listed (ethOf v2 ib1) := by
  intro ppe there j _
  have same : ppe = fun _ => ⟨ib1, fun _ => 0⟩ := by simpa [ethOf] using there
  rw [same]
  exact .inr known

/-- The type IPV6_ROUTE_5T where it is before NETSYS v2. -/
theorem ipv6_flow_v1 : TearsDown (ethOf false 0x2A000000) MTK_FOE_CRYPTO_DEL 7 :=
  (teardown_iff (ethOf false 0x2A000000) (listed_ethOf (by decide)) MTK_FOE_CRYPTO_DEL 7).mpr
    (.inr ⟨by simp [ethOf], nofun⟩)

/-- And where it is from NETSYS v2 on: the flow is taken for an IPv4 one. -/
theorem ipv6_flow_v2_stays : ¬ TearsDown (ethOf true 0x22800000) MTK_FOE_CRYPTO_DEL 7 := by
  intro tearsDown
  have reachable := reachable_of_tearsDown (listed_ethOf (by decide)) (by decide) tearsDown
  exact reachable.ipv4 rfl _ List.mem_cons_self ⟨0, by decide⟩ (by decide) (by decide)

end OpenwrtSource.PpeOffload.TunnelTeardown
