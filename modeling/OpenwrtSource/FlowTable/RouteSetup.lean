import Mathlib.Algebra.Order.BigOperators.Group.List
import Mathlib.Algebra.Order.Group.Int
import Mathlib.Algebra.Ring.Int.Defs
import OpenwrtSource.Lib.Ownership

/-!
# The references of a route under set-up

A flow is offloaded over one `dst` for each direction.  A routed set-up takes them
from the packet and a lookup, a bridged one allocates them, and both then resolve
the forward paths, which may fail.  The two modules that do this are modelled as
the patches that add bridging leave them and as the whole series leaves them,
where the path of a tunnel takes a reference of its own.
-/

namespace OpenwrtSource.FlowTable.RouteSetup

open Lib.Holders

/-- The patches that have been applied: up to bridging support, or all. -/
inductive Stage
  | bridging
  | series
  deriving DecidableEq, Repr

/-- `nft_flow_offload` or `xt_FLOWOFFLOAD`. -/
inductive Module
  | nft
  | xt
  deriving DecidableEq, Repr

variable {D : Type}

/-- What one walk over a forward path does: the references that the devices on it take
in `path->tunnel.dst`, the one that ends up in `info.dst`, and whether an ingress device
of the flow table is found. -/
structure Resolution (D : Type) where
  taken : List D
  dst : Option D
  found : Bool
  dst_taken : ∀ d, dst = some d → d ∈ taken

structure Outcomes (D : Type) where
  /-- the packet comes over a bridge port and its destination is in the table -/
  isBridging : Bool
  port : Bool
  alloc : Bool → Option D
  /-- this dst and the other one, held once each, unless the lookup fails -/
  routed : Option (D × D)
  /-- `nf_xmit_type` of the dst is `FLOW_OFFLOAD_XMIT_NEIGH` -/
  neigh : D → Bool
  path : Bool → Resolution D

/-- The members of `route->tuple[dir]` that point to a dst. -/
structure Tuple (D : Type) where
  dst : Option D
  npu : Option D

structure State (D : Type) where
  refs : D → Int
  tuple : Bool → Tuple D

def ENOENT : Int := 2

theorem neg_ENOENT : -ENOENT < 0 := by decide

section
variable [DecidableEq D]

def dstRelease (dst : Option D) (s : State D) : State D :=
  match dst with
  | some d => { s with refs := put d s.refs }
  | none => s

def defaultForwardPath (dst : D) (dir : Bool) (s : State D) : State D :=
  { s with tuple := Function.update s.tuple dir { s.tuple dir with dst := some dst } }

def recordNpu (dst : Option D) (dir : Bool) (s : State D) : State D :=
  { s with tuple := Function.update s.tuple dir { s.tuple dir with npu := dst } }

/-- `nft_dev_forward_path` and `nf_dev_forward_path`. -/
def devForwardPath (stage : Stage) (m : Module) (o : Outcomes D) (dir : Bool) (s : State D) :
    State D × Int :=
  match stage with
  | .bridging => (s, if (o.path dir).found then 0 else -ENOENT)
  | .series =>
    let s := { s with refs := holdAll (o.path dir).taken s.refs }
    if (o.path dir).found then
      match m with
      | .nft => (recordNpu (o.path dir).dst dir s, 0)
      | .xt => (s, 0)
    else (s, -ENOENT)

/-- The paths of both directions, the second only after the first. -/
def forwardPaths (stage : Stage) (m : Module) (o : Outcomes D) (dir : Bool) (s : State D) :
    State D × Int :=
  let first := devForwardPath stage m o dir s
  if first.2 ≠ 0 then first else devForwardPath stage m o (!dir) first.1

/-- The paths are resolved, and where they fail both dsts are given back. -/
def forwardPathsOrRelease (stage : Stage) (m : Module) (o : Outcomes D) (dir : Bool)
    (s : State D) : State D × Int :=
  let paths := forwardPaths stage m o dir s
  if paths.2 ≠ 0 then
    (dstRelease (paths.1.tuple (!dir)).dst (dstRelease (paths.1.tuple dir).dst paths.1), -ENOENT)
  else (paths.1, 0)

def routeRouting (stage : Stage) (m : Module) (o : Outcomes D) (dir : Bool) (s : State D) :
    State D × Int :=
  match o.routed with
  | none => (s, -ENOENT)
  | some (this, other) =>
    let s := { s with refs := hold other (hold this s.refs) }
    let s := defaultForwardPath other (!dir) (defaultForwardPath this dir s)
    match stage with
    | .bridging =>
      if o.neigh this ∧ o.neigh other then
        let paths := forwardPaths stage m o dir s
        if paths.2 ≠ 0 then (paths.1, -ENOENT) else (paths.1, 0)
      else (s, 0)
    | .series => forwardPathsOrRelease stage m o dir s

/-- The minimal dsts that are anchored to the bridge, `IP_CT_DIR_ORIGINAL` first. -/
def allocDsts (o : Outcomes D) (s : State D) : State D :=
  { s with refs := holdAll ((o.alloc false).toList ++ (o.alloc true).toList) s.refs }

def routeBridging (stage : Stage) (m : Module) (o : Outcomes D) (dir : Bool) (s : State D) :
    State D × Int :=
  if o.port then
    let s := allocDsts o s
    match o.alloc dir, o.alloc (!dir) with
    | some this, some other =>
      let s := defaultForwardPath other (!dir) (defaultForwardPath this dir s)
      if o.neigh this ∧ o.neigh other then forwardPathsOrRelease stage m o dir s else (s, 0)
    | this, other => (dstRelease other (dstRelease this s), -ENOENT)
  else (s, -ENOENT)

def nftFlowRouteRouting (stage : Stage) (o : Outcomes D) (dir : Bool) (s : State D) :
    State D × Int :=
  routeRouting stage .nft o dir s

def xtFlowoffloadRouteRouting (stage : Stage) (o : Outcomes D) (dir : Bool) (s : State D) :
    State D × Int :=
  routeRouting stage .xt o dir s

def nftFlowRouteBridging (stage : Stage) (o : Outcomes D) (dir : Bool) (s : State D) :
    State D × Int :=
  routeBridging stage .nft o dir s

def xtFlowoffloadRouteBridging (stage : Stage) (o : Outcomes D) (dir : Bool) (s : State D) :
    State D × Int :=
  routeBridging stage .xt o dir s

/-- The exit of a set-up that failed, beside clearing `IPS_OFFLOAD`. -/
def errFlowRoute (stage : Stage) (m : Module) (dir : Bool) (s : State D) : State D :=
  match stage, m with
  | .series, .nft => dstRelease (s.tuple (!dir)).npu (dstRelease (s.tuple dir).npu s)
  | _, _ => s

def orErrFlowRoute (stage : Stage) (m : Module) (dir : Bool) (route : State D × Int) :
    State D × Int :=
  if route.2 < 0 then (errFlowRoute stage m dir route.1, route.2) else route

def cleared (refs : D → Int) : State D :=
  { refs := refs, tuple := fun _ => { dst := none, npu := none } }

/-- The part of `nft_flow_offload_eval` and `flowoffload_tg` that sets up the route, from
a `route` that is cleared. -/
def setUp (stage : Stage) (m : Module) (o : Outcomes D) (dir : Bool) (refs : D → Int) :
    State D × Int :=
  let s := cleared refs
  orErrFlowRoute stage m dir <|
    match m, o.isBridging with
    | .nft, true => nftFlowRouteBridging stage o dir s
    | .nft, false => nftFlowRouteRouting stage o dir s
    | .xt, true => xtFlowoffloadRouteBridging stage o dir s
    | .xt, false => xtFlowoffloadRouteRouting stage o dir s

/-! ## Whose the references are -/

def held (s : State D) : List (Option D) :=
  [(s.tuple false).dst, (s.tuple true).dst, (s.tuple false).npu, (s.tuple true).npu]

/-- A set-up that fails leaves every count as it was; after one that succeeds there is a
`dst` for each direction and the new references are those of the route. -/
def Balanced (before : D → Int) (result : State D × Int) : Prop :=
  if result.2 < 0 then ∀ d, result.1.refs d = before d
  else (∀ dir, (result.1.tuple dir).dst.isSome) ∧
    ∀ d, result.1.refs d = before d + ((held result.1).count (some d) : Int)

/-- `Balanced` but for the references in `extra`, which nobody gives back. -/
def Accounts (before extra : D → Int) (result : State D × Int) : Prop :=
  if result.2 < 0 then ∀ d, result.1.refs d = before d + extra d
  else (∀ dir, (result.1.tuple dir).dst.isSome) ∧
    ∀ d, result.1.refs d = before d + ((held result.1).count (some d) : Int) + extra d

theorem balanced_iff {before extra : D → Int} {result : State D × Int}
    (accounts : Accounts before extra result) : Balanced before result ↔ ∀ d, extra d = 0 := by
  unfold Accounts at accounts
  unfold Balanced
  by_cases failed : result.2 < 0
  · rw [if_pos failed] at accounts ⊢
    refine forall_congr' fun d => ?_
    have count := accounts d
    omega
  · rw [if_neg failed] at accounts ⊢
    obtain ⟨dsts, counts⟩ := accounts
    rw [and_iff_right dsts]
    refine forall_congr' fun d => ?_
    have count := counts d
    omega

def recorded (m : Module) (p : Resolution D) : Option D :=
  if m = .nft ∧ p.found then p.dst else none

/-- The references of a resolution that the route does not record. -/
def surplus (m : Module) (p : Resolution D) (d : D) : Int :=
  (p.taken.count d : Int) - ((recorded m p).toList.count d : Int)

theorem surplus_nonneg (m : Module) (p : Resolution D) (d : D) : 0 ≤ surplus m p d := by
  have enough : (recorded m p).toList.count d ≤ p.taken.count d := by
    cases kept : recorded m p with
    | none => simp
    | some e =>
      have isDst : p.dst = some e := by
        unfold recorded at kept
        split at kept
        · exact kept
        · exact nomatch kept
      by_cases same : e = d
      · subst same
        have positive := List.count_pos_iff.mpr (p.dst_taken e isDst)
        simpa using positive
      · simp [same]
  unfold surplus
  omega

theorem surplus_zero_iff (m : Module) (p : Resolution D) :
    (∀ d, surplus m p d = 0) ↔ p.taken = (recorded m p).toList := by
  have perm : (∀ d, surplus m p d = 0) ↔ p.taken.Perm (recorded m p).toList := by
    rw [List.perm_iff_count]
    refine forall_congr' fun d => ?_
    unfold surplus
    omega
  rw [perm]
  cases recorded m p with
  | none => exact List.perm_nil
  | some e => exact List.perm_singleton

def ran (o : Outcomes D) (dir : Bool) : List Bool :=
  if (o.path dir).found then [dir, !dir] else [dir]

/-- What one resolution leaves over: the devices on a path take references only in the
whole series. -/
def leftOver (stage : Stage) (m : Module) (p : Resolution D) (d : D) : Int :=
  match stage with
  | .bridging => 0
  | .series => surplus m p d

def excess (stage : Stage) (m : Module) (o : Outcomes D) (dir : Bool) (d : D) : Int :=
  ((ran o dir).map fun e => leftOver stage m (o.path e) d).sum

theorem excess_eq (stage : Stage) (m : Module) (o : Outcomes D) (dir : Bool) (d : D) :
    excess stage m o dir d = if (o.path dir).found
      then leftOver stage m (o.path dir) d + leftOver stage m (o.path (!dir)) d
      else leftOver stage m (o.path dir) d := by
  unfold excess ran
  by_cases found : (o.path dir).found
  · simp [found]
  · simp [found]

theorem excess_bridging (m : Module) (o : Outcomes D) (dir : Bool) (d : D) :
    excess .bridging m o dir d = 0 := by
  rw [excess_eq]
  split
  · rfl
  · rfl

theorem excess_series_zero_iff (m : Module) (o : Outcomes D) (dir : Bool) :
    (∀ d, excess .series m o dir d = 0) ↔
      ∀ e ∈ ran o dir, (o.path e).taken = (recorded m (o.path e)).toList := by
  constructor
  · intro zero e member
    rw [← surplus_zero_iff]
    intro d
    refine List.all_zero_of_le_zero_le_of_sum_eq_zero ?_ (zero d)
      (List.mem_map_of_mem member)
    intro x isSurplus
    obtain ⟨_, _, rfl⟩ := List.mem_map.mp isSurplus
    exact surplus_nonneg m _ d
  · intro settled d
    refine List.sum_eq_zero fun x isSurplus => ?_
    obtain ⟨e, member, rfl⟩ := List.mem_map.mp isSurplus
    exact (surplus_zero_iff m (o.path e)).mpr (settled e member) d

/-! ## The account of each set-up -/

def isSlot (slot : Option D) (d : D) : Int := if slot = some d then 1 else 0

theorem count_toList (slot : Option D) (d : D) : (slot.toList.count d : Int) = isSlot slot d := by
  cases slot with
  | none => simp [isSlot]
  | some e =>
    rw [Option.toList_some, List.count_cons, isSlot]
    by_cases same : e = d
    · simp [same]
    · simp [same]

theorem count_slot (slot : Option D) (slots : List (Option D)) (d : D) :
    ((slot :: slots).count (some d) : Int) = isSlot slot d + (slots.count (some d) : Int) := by
  rw [List.count_cons, isSlot]
  by_cases same : slot = some d
  · simp [same]
    omega
  · simp [same]

theorem held_count (dir : Bool) (s : State D) (d : D) :
    ((held s).count (some d) : Int) =
      isSlot (s.tuple dir).dst d + isSlot (s.tuple (!dir)).dst d +
        isSlot (s.tuple dir).npu d + isSlot (s.tuple (!dir)).npu d := by
  have either : ((held s).count (some d) : Int) =
      isSlot (s.tuple false).dst d + isSlot (s.tuple true).dst d +
        isSlot (s.tuple false).npu d + isSlot (s.tuple true).npu d := by
    rw [held, count_slot, count_slot, count_slot, count_slot, List.count_nil]
    omega
  rw [either]
  cases dir with
  | false => rfl
  | true =>
    simp only [Bool.not_true]
    omega

theorem dstRelease_refs (dst : Option D) (s : State D) (d : D) :
    (dstRelease dst s).refs d = s.refs d - isSlot dst d := by
  cases dst with
  | none => simp [dstRelease, isSlot]
  | some e => simp [dstRelease, isSlot, put_apply]

@[simp] theorem dstRelease_tuple (dst : Option D) (s : State D) :
    (dstRelease dst s).tuple = s.tuple := by
  cases dst with
  | none => rfl
  | some e => rfl

/-- Both dsts are in place, and the counts are those before with the references of the
route and some in `extra`. -/
structure Standing (before : D → Int) (dir : Bool) (this other : D) (npu npuOther : Option D)
    (extra : D → Int) (s : State D) : Prop where
  here : s.tuple dir = { dst := some this, npu := npu }
  there : s.tuple (!dir) = { dst := some other, npu := npuOther }
  counts : ∀ d, s.refs d = before d + isSlot (some this) d + isSlot (some other) d +
    isSlot npu d + isSlot npuOther d + extra d

variable {before extra : D → Int} {dir : Bool} {this other : D} {npu npuOther : Option D}
  {s : State D}

theorem Standing.swap (standing : Standing before dir this other npu npuOther extra s) :
    Standing before (!dir) other this npuOther npu extra s := by
  refine ⟨standing.there, by rw [Bool.not_not]; exact standing.here, fun d => ?_⟩
  have count := standing.counts d
  omega

def recordedAt (stage : Stage) (m : Module) (p : Resolution D) : Option D :=
  match stage with
  | .bridging => none
  | .series => recorded m p

theorem devForwardPath_err (stage : Stage) (m : Module) (o : Outcomes D) (dir : Bool)
    (s : State D) :
    (devForwardPath stage m o dir s).2 = if (o.path dir).found then 0 else -ENOENT := by
  unfold devForwardPath
  cases stage with
  | bridging => rfl
  | series =>
    by_cases found : (o.path dir).found
    · cases m with
      | nft => simp [found]
      | xt => simp [found]
    · simp [found]

theorem Standing.devForwardPath (stage : Stage) (m : Module) (o : Outcomes D)
    (standing : Standing before dir this other none npuOther extra s) :
    Standing before dir this other (recordedAt stage m (o.path dir)) npuOther
      (fun d => extra d + leftOver stage m (o.path dir) d)
      (devForwardPath stage m o dir s).1 := by
  obtain ⟨here, there, counts⟩ := standing
  cases stage with
  | bridging =>
    refine ⟨here, there, ?_⟩
    simpa [leftOver, recordedAt, RouteSetup.devForwardPath] using counts
  | series =>
    have taken : ∀ d, holdAll (o.path dir).taken s.refs d =
        before d + isSlot (some this) d + isSlot (some other) d +
          isSlot (recorded m (o.path dir)) d + isSlot npuOther d +
          (extra d + surplus m (o.path dir) d) := by
      intro d
      have count := counts d
      have none : isSlot (none : Option D) d = 0 := by simp [isSlot]
      have slot := count_toList (recorded m (o.path dir)) d
      rw [holdAll_apply, surplus]
      omega
    unfold RouteSetup.devForwardPath
    by_cases found : (o.path dir).found
    · cases m with
      | nft =>
        have kept : recordedAt .series .nft (o.path dir) = (o.path dir).dst := by
          simp [recordedAt, recorded, found]
        refine ⟨?_, ?_, ?_⟩
        · simp [found, recordNpu, here, kept]
        · simp [found, recordNpu, there]
        · simpa [found, recordNpu, recordedAt, leftOver] using taken
      | xt =>
        refine ⟨?_, ?_, ?_⟩
        · simp [found, here, recordedAt, recorded]
        · simp [found, there]
        · simpa [found, recordedAt, leftOver] using taken
    · refine ⟨?_, ?_, ?_⟩
      · simp [found, here, recordedAt, recorded]
      · simp [found, there]
      · simpa [found, recordedAt, leftOver] using taken

theorem Standing.forwardPaths (stage : Stage) (m : Module) (o : Outcomes D)
    (standing : Standing before dir this other none none extra s) :
    Standing before dir this other (recordedAt stage m (o.path dir))
      (if (o.path dir).found then recordedAt stage m (o.path (!dir)) else none)
      (fun d => extra d + excess stage m o dir d) (forwardPaths stage m o dir s).1 := by
  have first := standing.devForwardPath stage m o
  have err := devForwardPath_err stage m o dir s
  unfold RouteSetup.forwardPaths
  by_cases found : (o.path dir).found
  · have second := (first.swap.devForwardPath stage m o).swap
    simp only [found, if_true] at err
    simpa [err, found, excess_eq, add_assoc] using second
  · simp only [found] at err
    simpa [err, ENOENT, found, excess_eq] using first

theorem forwardPaths_err (stage : Stage) (m : Module) (o : Outcomes D) (dir : Bool) (s : State D) :
    (forwardPaths stage m o dir s).2 =
      if (o.path dir).found ∧ (o.path (!dir)).found then 0 else -ENOENT := by
  have first := devForwardPath_err stage m o dir s
  unfold forwardPaths
  by_cases found : (o.path dir).found
  · simp only [found, if_true] at first
    simp [first, found, devForwardPath_err]
  · simp only [found] at first
    simp [first, found, ENOENT]

theorem Standing.accounts (standing : Standing before dir this other npu npuOther extra s) :
    Accounts before extra (s, 0) := by
  obtain ⟨here, there, counts⟩ := standing
  rw [Accounts, if_neg (lt_irrefl 0)]
  constructor
  · intro e
    rcases Bool.eq_or_eq_not e dir with rfl | rfl
    · rw [here]
      rfl
    · rw [there]
      rfl
  · intro d
    simp only [held_count dir s d, here, there, counts d]
    omega

theorem Standing.released (stage : Stage) (m : Module)
    (standing : Standing before dir this other npu npuOther extra s)
    (given : stage = .series ∧ m = .nft ∨ npu = none ∧ npuOther = none) :
    Accounts before extra (orErrFlowRoute stage m dir
      (dstRelease (s.tuple (!dir)).dst (dstRelease (s.tuple dir).dst s), -ENOENT)) := by
  obtain ⟨here, there, counts⟩ := standing
  simp only [orErrFlowRoute, Accounts, neg_ENOENT, if_true]
  intro d
  have count := counts d
  have none : isSlot (none : Option D) d = 0 := by simp [isSlot]
  rcases given with ⟨rfl, rfl⟩ | ⟨rfl, rfl⟩
  · simp only [errFlowRoute, dstRelease_refs, dstRelease_tuple, here, there]
    omega
  · have same : (errFlowRoute stage m dir
        (dstRelease (s.tuple (!dir)).dst (dstRelease (s.tuple dir).dst s))).refs d =
        s.refs d - isSlot (s.tuple dir).dst d - isSlot (s.tuple (!dir)).dst d := by
      unfold errFlowRoute
      split
      · simp only [dstRelease_refs, dstRelease_tuple, here, there]
        omega
      · simp only [dstRelease_refs]
    rw [same]
    simp only [here, there]
    omega

theorem Standing.forwardPathsOrRelease (stage : Stage) (m : Module) (o : Outcomes D)
    (standing : Standing before dir this other none none extra s) :
    Accounts before (fun d => extra d + excess stage m o dir d)
      (orErrFlowRoute stage m dir (forwardPathsOrRelease stage m o dir s)) := by
  have paths := standing.forwardPaths stage m o
  have err := forwardPaths_err stage m o dir s
  unfold RouteSetup.forwardPathsOrRelease
  by_cases found : (o.path dir).found ∧ (o.path (!dir)).found
  · rw [if_pos found] at err
    simp only [err]
    exact paths.accounts
  · rw [if_neg found] at err
    have failed : ¬ (-ENOENT = 0) := by decide
    simp only [err, ne_eq, failed, not_false_iff, if_true]
    refine paths.released stage m ?_
    cases stage with
    | bridging =>
      right
      refine ⟨rfl, ?_⟩
      split
      · rfl
      · rfl
    | series =>
      cases m with
      | nft => exact Or.inl ⟨rfl, rfl⟩
      | xt =>
        right
        simp [recordedAt, recorded]

theorem standing_filled (before : D → Int) (dir : Bool) (this other : D) (s : State D)
    (unrecorded : ∀ e, (s.tuple e).npu = none)
    (counts : ∀ d, s.refs d = before d + isSlot (some this) d + isSlot (some other) d) :
    Standing before dir this other none none (fun _ => 0)
      (defaultForwardPath other (!dir) (defaultForwardPath this dir s)) := by
  refine ⟨?_, ?_, ?_⟩
  · simp [defaultForwardPath, unrecorded]
  · simp [defaultForwardPath, unrecorded]
  · intro d
    have none : isSlot (none : Option D) d = 0 := by simp [isSlot]
    have count := counts d
    simp only [defaultForwardPath]
    omega

theorem failed_balanced (stage : Stage) (m : Module) (dir : Bool) (before : D → Int)
    (s : State D) (unrecorded : ∀ e, (s.tuple e).npu = none) (counts : ∀ d, s.refs d = before d) :
    Balanced before (orErrFlowRoute stage m dir (s, -ENOENT)) := by
  simp only [orErrFlowRoute, Balanced, neg_ENOENT, if_true]
  intro d
  rw [← counts d]
  unfold errFlowRoute
  split
  · rw [unrecorded dir, unrecorded (!dir)]
    rfl
  · rfl

def reached (stage : Stage) (o : Outcomes D) (dir : Bool) : Bool :=
  if o.isBridging then
    match o.port, o.alloc dir, o.alloc (!dir) with
    | true, some this, some other => o.neigh this && o.neigh other
    | _, _, _ => false
  else
    match o.routed with
    | some (this, other) => stage = .series ∨ o.neigh this ∧ o.neigh other
    | none => false

/-- Up to bridging support: no routed set-up fails over a forward path.  In the whole
series: a path takes no reference but the one that its resolution records. -/
def Releases (stage : Stage) (m : Module) (o : Outcomes D) (dir : Bool) : Prop :=
  reached stage o dir = true →
    match stage with
    | .bridging => o.isBridging = false → (o.path dir).found ∧ (o.path (!dir)).found
    | .series => ∀ e ∈ ran o dir, (o.path e).taken = (recorded m (o.path e)).toList

theorem Standing.balanced (stage : Stage) (m : Module)
    (standing : Standing before dir this other none none (fun _ => 0) s) :
    Balanced before (orErrFlowRoute stage m dir (s, 0)) :=
  (balanced_iff standing.accounts).mpr fun _ => rfl

theorem Standing.balanced_unreleased_iff (m : Module) (o : Outcomes D)
    (standing : Standing before dir this other none none (fun _ => 0) s) :
    Balanced before (orErrFlowRoute .bridging m dir
        (if (RouteSetup.forwardPaths .bridging m o dir s).2 ≠ 0
          then ((RouteSetup.forwardPaths .bridging m o dir s).1, -ENOENT)
          else ((RouteSetup.forwardPaths .bridging m o dir s).1, 0))) ↔
      (o.path dir).found ∧ (o.path (!dir)).found := by
  have paths := standing.forwardPaths .bridging m o
  have err := forwardPaths_err .bridging m o dir s
  simp only [excess_bridging, add_zero, recordedAt, ite_self] at paths
  by_cases found : (o.path dir).found ∧ (o.path (!dir)).found
  · rw [if_pos found] at err
    simp only [err, found, and_self, iff_true]
    exact paths.balanced .bridging m
  · rw [if_neg found] at err
    have failed : ¬ (-ENOENT = 0) := by decide
    simp only [err, ne_eq, failed, not_false_iff, if_true, found, iff_false]
    simp only [orErrFlowRoute, neg_ENOENT, if_true, Balanced, errFlowRoute]
    intro released
    have count := paths.counts this
    have same := released this
    have one : isSlot (some this) this = 1 := by simp [isSlot]
    have none : isSlot (none : Option D) this = 0 := by simp [isSlot]
    have atLeast : 0 ≤ isSlot (some other) this := by
      unfold isSlot
      split
      · decide
      · decide
    omega

theorem routeRouting_balanced_iff (stage : Stage) (m : Module) (o : Outcomes D) (dir : Bool)
    (refs : D → Int) (routing : o.isBridging = false) :
    Balanced refs (orErrFlowRoute stage m dir (routeRouting stage m o dir (cleared refs))) ↔
      Releases stage m o dir := by
  unfold routeRouting Releases reached
  simp only [routing, Bool.false_eq_true, if_false]
  cases o.routed with
  | none =>
    simp only [Bool.false_eq_true, false_imp_iff, iff_true]
    exact failed_balanced stage m dir refs _ (fun _ => rfl) fun _ => rfl
  | some pair =>
    obtain ⟨this, other⟩ := pair
    have standing : Standing refs dir this other none none (fun _ => 0)
        (defaultForwardPath other (!dir) (defaultForwardPath this dir
          { cleared refs with refs := hold other (hold this (cleared refs).refs) })) := by
      refine standing_filled refs dir this other _ (fun _ => rfl) fun d => ?_
      simp [hold_apply, isSlot, cleared]
    cases stage with
    | bridging =>
      by_cases neigh : o.neigh this ∧ o.neigh other
      · simpa [neigh] using standing.balanced_unreleased_iff m o
      · simpa [neigh] using standing.balanced .bridging m
    | series =>
      have accounts := standing.forwardPathsOrRelease .series m o
      simp only [zero_add] at accounts
      simpa using (balanced_iff accounts).trans (excess_series_zero_iff m o dir)

theorem allocDsts_refs (o : Outcomes D) (dir : Bool) (s : State D) (d : D) :
    (allocDsts o s).refs d =
      s.refs d + isSlot (o.alloc dir) d + isSlot (o.alloc (!dir)) d := by
  have slot : ∀ e, ((o.alloc e).toList.count d : Int) = isSlot (o.alloc e) d :=
    fun e => count_toList (o.alloc e) d
  have first := slot false
  have second := slot true
  simp only [allocDsts, holdAll_apply, List.count_append]
  cases dir with
  | false =>
    simp only [Bool.not_false]
    omega
  | true =>
    simp only [Bool.not_true]
    omega

theorem routeBridging_balanced_iff (stage : Stage) (m : Module) (o : Outcomes D) (dir : Bool)
    (refs : D → Int) (bridging : o.isBridging = true) :
    Balanced refs (orErrFlowRoute stage m dir (routeBridging stage m o dir (cleared refs))) ↔
      Releases stage m o dir := by
  unfold routeBridging Releases reached
  simp only [bridging, if_true]
  cases o.port with
  | false =>
    simp only [Bool.false_eq_true, if_false, false_imp_iff, iff_true]
    exact failed_balanced stage m dir refs _ (fun _ => rfl) fun _ => rfl
  | true =>
    simp only [if_true]
    have allocated := allocDsts_refs o dir (cleared refs)
    cases hereAlloc : o.alloc dir with
    | none =>
      simp only [Bool.false_eq_true, false_imp_iff, iff_true]
      refine failed_balanced stage m dir refs _ (fun e => ?_) fun d => ?_
      · rw [dstRelease_tuple, dstRelease_tuple]
        rfl
      · have count := allocated d
        rw [dstRelease_refs, dstRelease_refs, count, hereAlloc]
        simp only [cleared]
        omega
    | some this =>
      cases thereAlloc : o.alloc (!dir) with
      | none =>
        simp only [Bool.false_eq_true, false_imp_iff, iff_true]
        refine failed_balanced stage m dir refs _ (fun e => ?_) fun d => ?_
        · rw [dstRelease_tuple, dstRelease_tuple]
          rfl
        · have count := allocated d
          rw [dstRelease_refs, dstRelease_refs, count, hereAlloc, thereAlloc]
          simp only [cleared]
          omega
      | some other =>
        have standing := standing_filled refs dir this other (allocDsts o (cleared refs))
          (fun _ => rfl) fun d => by rw [allocated d, hereAlloc, thereAlloc]; rfl
        have accounts := standing.forwardPathsOrRelease stage m o
        simp only [zero_add] at accounts
        by_cases neigh : o.neigh this ∧ o.neigh other
        · simp only [neigh, and_self, if_true, Bool.and_self, true_imp_iff]
          rw [balanced_iff accounts]
          cases stage with
          | bridging => simp [excess_bridging]
          | series => exact excess_series_zero_iff m o dir
        · simpa [neigh] using standing.balanced stage m

/-- Route set-up accounts for every reference just in the outcomes that `Releases` names. -/
theorem setUp_balanced_iff (stage : Stage) (m : Module) (o : Outcomes D) (dir : Bool)
    (refs : D → Int) :
    Balanced refs (setUp stage m o dir refs) ↔ Releases stage m o dir := by
  cases routing : o.isBridging with
  | false =>
    rw [← routeRouting_balanced_iff stage m o dir refs routing]
    unfold setUp
    cases m with
    | nft => simp only [routing, nftFlowRouteRouting]
    | xt => simp only [routing, xtFlowoffloadRouteRouting]
  | true =>
    rw [← routeBridging_balanced_iff stage m o dir refs routing]
    unfold setUp
    cases m with
    | nft => simp only [routing, nftFlowRouteBridging]
    | xt => simp only [routing, xtFlowoffloadRouteBridging]

/-! ## Two set-ups that lose a reference -/

theorem not_balanced {result : State D × Int} (failed : result.2 < 0) (d : D)
    (differs : result.1.refs d ≠ before d) : ¬ Balanced before result := by
  rw [Balanced, if_pos failed]
  exact fun same => differs (same d)

end

/-- A routed packet whose first forward path ends on no device of the flow table. -/
def ingressMissing : Outcomes Nat where
  isBridging := false
  port := false
  alloc := fun _ => none
  routed := some (0, 1)
  neigh := fun _ => true
  path := fun _ => { taken := [], dst := none, found := false, dst_taken := nofun }

/-- The path of an L2TP tunnel inside IPsec, which holds the `dst` of the tunnel. -/
def tunnelPath : Resolution Nat where
  taken := [2]
  dst := some 2
  found := false
  dst_taken := by
    intro d isDst
    cases isDst
    exact List.mem_singleton_self 2

def tunnelIngressMissing : Outcomes Nat where
  isBridging := false
  port := false
  alloc := fun _ => none
  routed := some (0, 1)
  neigh := fun _ => true
  path := fun _ => tunnelPath

/-- With the patches up to bridging support both dsts of the route stay held, and with the
whole series the `dst` of the tunnel does. -/
theorem setUp_leaks :
    (∀ m, ¬ Balanced (fun _ => 1) (setUp .bridging m ingressMissing false fun _ => 1)) ∧
      ∀ m, ¬ Balanced (fun _ => 1) (setUp .series m tunnelIngressMissing false fun _ => 1) := by
  constructor
  · intro m
    cases m with
    | nft => exact not_balanced (by decide) 0 (by decide)
    | xt => exact not_balanced (by decide) 0 (by decide)
  · intro m
    cases m with
    | nft => exact not_balanced (by decide) 2 (by decide)
    | xt => exact not_balanced (by decide) 2 (by decide)

end OpenwrtSource.FlowTable.RouteSetup
