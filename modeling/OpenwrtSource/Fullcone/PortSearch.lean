import OpenwrtSource.Fullcone.TableEffects

/-!
# The port search

`find_appropriate_port` tries to keep the original port, then walks the port
window from a start, and at last overrides the mapping at the start port.  The
specification says which mappings the search may touch, that the selected
endpoint is free afterwards, and that live mappings are spared unless the
window has no free port.
-/

namespace OpenwrtSource.Fullcone.PortSearch

open Fullcone.Tuple Fullcone.L3Family Fullcone.Mapping Fullcone.TableEffects

variable {A : Type} [DecidableEq A]

/-- `min` and `range_size`, in `uint16_t` arithmetic. -/
def portWindow (range : NatRange A) : BitVec 16 × BitVec 16 :=
  if hasFlag range.flags NF_NAT_RANGE_PROTO_SPECIFIED then
    (be16ToCpu range.minProto, be16ToCpu range.maxProto - be16ToCpu range.minProto + 1)
  else (1024, 65535 - 1024 + 1)

/-- `min + ((start + i) % range_size)`: an `int`, truncated to `uint16_t`. -/
def selectedPort (min size start : BitVec 16) (i : Nat) : BitVec 16 :=
  BitVec.ofNat 16 (min.toNat + (start.toNat + i) % size.toNat)

/-- The loop of step 2, with the number of rounds left and `i`. -/
def searchPorts (k : Kernel) (find : CtTuple → Bool) (extIp : A)
    (min size start : BitVec 16) :
    Nat → Nat → Tables A → Option (BitVec 16) × Tables A
  | 0, _, t => (none, t)
  | rounds + 1, i, t =>
    let selected := selectedPort min size start i
    let mapping := getMappingByExtPort k find selected extIp t
    match mapping.1 with
    | none => (some selected, mapping.2)
    | some _ => searchPorts k find extIp min size start rounds (i + 1) mapping.2

/-- Steps 2 and 3: the loop, and the override of the mapping at the start. -/
def searchFrom (k : Kernel) (find : CtTuple → Bool) (extIp : A)
    (min size start : BitVec 16) (t : Tables A) : BitVec 16 × Tables A :=
  let searched := searchPorts k find extIp min size start size.toNat 0 t
  match searched.1 with
  | some selected => (selected, searched.2)
  | none =>
    let selected := min + start
    let mapping := getMappingByExtPort k find selected extIp searched.2
    (selected, killMapping mapping.1 mapping.2)

def isRandom (range : NatRange A) : Bool :=
  hasFlag range.flags NF_NAT_RANGE_PROTO_RANDOM ||
    hasFlag range.flags NF_NAT_RANGE_PROTO_RANDOM_FULLY

/-- The start of the walk; `random` is the result of `get_random_u32`.  For a
`range_size` of 0 the remainder is the dividend, as on the target's cores. -/
def startPort (range : NatRange A) (random : BitVec 32) : BitVec 16 :=
  if isRandom range then BitVec.ofNat 16 (random.toNat % (portWindow range).2.toNat) else 0

/-- Whether step 1 is taken; the bound is compared as an `int`. -/
def triesOriginal (range : NatRange A) (originalPort : BitVec 16) : Bool :=
  !isRandom range &&
    (((portWindow range).1 ≤ originalPort &&
        (originalPort.toNat : Int) ≤
          (portWindow range).1.toNat + (portWindow range).2.toNat - 1) ||
      !hasFlag range.flags NF_NAT_RANGE_PROTO_SPECIFIED)

/-- `find_appropriate_port`, `find_appropriate_port6`. -/
def findAppropriatePort (k : Kernel) (find : CtTuple → Bool) (random : BitVec 32)
    (originalPort : BitVec 16) (extIp : A) (range : NatRange A) (t : Tables A) :
    BitVec 16 × Tables A :=
  let min := (portWindow range).1
  let size := (portWindow range).2
  let start := startPort range random
  if triesOriginal range originalPort then
    let mapping := getMappingByExtPort k find originalPort extIp t
    match mapping.1 with
    | none => (originalPort, mapping.2)
    | some _ => searchFrom k find extIp min size start mapping.2
  else searchFrom k find extIp min size start t

def ExternalUnique (t : Tables A) : Prop :=
  UniqueBy (fun endpoints => (endpoints.addr, endpoints.port)) t

/-- A mapping with a live conntrack holds the external endpoint. -/
def Taken (find : CtTuple → Bool) (t : Tables A) (port : BitVec 16) (extIp : A) : Prop :=
  ∃ id mapping, t.heap id = some mapping ∧ mapping.port = port ∧ mapping.addr = extIp ∧
    mapping.originalTupleList.any find = true

/-- The endpoint that the walk overrides: the one at the start, when every port of
the walk is taken. -/
def WalkOverrides (find : CtTuple → Bool) (extIp : A) (min size start : BitVec 16)
    (t : Tables A) (endpoints : Endpoints A) : Prop :=
  (∀ i, i < size.toNat → Taken find t (selectedPort min size start i) extIp) ∧
    endpoints.port = min + start ∧ endpoints.addr = extIp

/-- The endpoint that the search overrides: the original port was not tried or is
taken, too. -/
def SearchOverrides (find : CtTuple → Bool) (random : BitVec 32) (originalPort : BitVec 16)
    (extIp : A) (range : NatRange A) (t : Tables A) (endpoints : Endpoints A) : Prop :=
  (triesOriginal range originalPort = true → Taken find t originalPort extIp) ∧
    WalkOverrides find extIp (portWindow range).1 (portWindow range).2 (startPort range random) t
      endpoints

/-- The ports that the walk from a start looks up: each one whose predecessors are
taken, and the start once more when all are. -/
def Walks (find : CtTuple → Bool) (extIp : A) (min size start : BitVec 16) (t : Tables A)
    (port : BitVec 16) : Prop :=
  (∃ i, i < size.toNat ∧ (∀ j, j < i → Taken find t (selectedPort min size start j) extIp) ∧
      port = selectedPort min size start i) ∨
    ((∀ j, j < size.toNat → Taken find t (selectedPort min size start j) extIp) ∧
      port = min + start)

def Tries (find : CtTuple → Bool) (random : BitVec 32) (originalPort : BitVec 16) (extIp : A)
    (range : NatRange A) (t : Tables A) (port : BitVec 16) : Prop :=
  (triesOriginal range originalPort = true ∧ port = originalPort) ∨
    ((triesOriginal range originalPort = true → Taken find t originalPort extIp) ∧
      Walks find extIp (portWindow range).1 (portWindow range).2 (startPort range random) t port)

variable {find : CtTuple → Bool} {before after : Tables A} {port : BitVec 16} {extIp : A}
  {k : Kernel} {fam : Family A}

omit [DecidableEq A] in
theorem Taken.of_shrinks (taken : Taken find after port extIp) (shrinks : Shrinks before after) :
    Taken find before port extIp := by
  obtain ⟨id, left, found, samePort, sameAddr, active⟩ := taken
  obtain ⟨mapping, mappingFound, key, list⟩ := shrinks.survivor id left found
  have ports : left.port = mapping.port := congrArg Endpoints.port key
  have addrs : left.addr = mapping.addr := congrArg Endpoints.addr key
  refine ⟨id, mapping, mappingFound, ports ▸ samePort, addrs ▸ sameAddr, ?_⟩
  obtain ⟨tuple, member, live⟩ := List.any_eq_true.mp active
  exact List.any_eq_true.mpr ⟨tuple, list.subset member, live⟩

variable {min size start : BitVec 16} {endpoints : Endpoints A} {random : BitVec 32}
  {originalPort : BitVec 16} {range : NatRange A}

omit [DecidableEq A] in
theorem Walks.of_shrinks (walks : Walks find extIp min size start after port)
    (shrinks : Shrinks before after) : Walks find extIp min size start before port := by
  rcases walks with ⟨i, bound, earlier, same⟩ | ⟨all, same⟩
  · exact Or.inl ⟨i, bound, fun j before => (earlier j before).of_shrinks shrinks, same⟩
  · exact Or.inr ⟨fun j before => (all j before).of_shrinks shrinks, same⟩

omit [DecidableEq A] in
theorem WalkOverrides.of_shrinks
    (overrides : WalkOverrides find extIp min size start after endpoints)
    (shrinks : Shrinks before after) : WalkOverrides find extIp min size start before endpoints :=
  ⟨fun i bound => (overrides.1 i bound).of_shrinks shrinks, overrides.2⟩

omit [DecidableEq A] in
theorem SearchOverrides.of_shrinks
    (overrides : SearchOverrides find random originalPort extIp range after endpoints)
    (shrinks : Shrinks before after) :
    SearchOverrides find random originalPort extIp range before endpoints :=
  ⟨fun tried => (overrides.1 tried).of_shrinks shrinks, overrides.2.of_shrinks shrinks⟩

omit [DecidableEq A] in
theorem Tries.of_shrinks (tries : Tries find random originalPort extIp range after port)
    (shrinks : Shrinks before after) : Tries find random originalPort extIp range before port := by
  rcases tries with original | ⟨taken, walks⟩
  · exact Or.inl original
  · exact Or.inr ⟨fun tried => (taken tried).of_shrinks shrinks, walks.of_shrinks shrinks⟩

/-- All that a port search does, for the ports in `tried`. -/
structure SearchSpec (k : Kernel) (fam : Family A) (find : CtTuple → Bool) (extIp : A)
    (tried : BitVec 16 → Prop) (overridden : Endpoints A → Prop) (t : Tables A)
    (result : BitVec 16 × Tables A) : Prop where
  wellFormed : WellFormed k fam result.2
  shrinks : Shrinks t result.2
  frame : ∀ id mapping, t.heap id = some mapping → ¬ tried mapping.port →
    result.2.heap id = some mapping
  free : ExternalUnique t → ∀ id mapping, result.2.heap id = some mapping →
    ¬ (mapping.port = result.1 ∧ mapping.addr = extIp)
  spares : ∀ id tuple, find tuple = true →
    (∀ mapping, t.heap id = some mapping → ¬ overridden mapping.endpoints) →
      Retains id tuple t result.2

theorem searchPorts_spec (find : CtTuple → Bool) (extIp : A) (min size start : BitVec 16)
    (rounds i : Nat) (t : Tables A) (wf : WellFormed k fam t) :
    let searched := searchPorts k find extIp min size start rounds i t
    WellFormed k fam searched.2 ∧ Shrinks t searched.2 ∧ Spares find t searched.2 ∧
      (∀ id mapping, t.heap id = some mapping →
        (∀ j, i ≤ j → j < i + rounds →
          (∀ m, i ≤ m → m < j → Taken find t (selectedPort min size start m) extIp) →
            mapping.port ≠ selectedPort min size start j) →
          searched.2.heap id = some mapping) ∧
      (∀ selected, searched.1 = some selected → ∀ id mapping,
        searched.2.heap id = some mapping →
          ¬ (mapping.port = selected ∧ mapping.addr = extIp)) ∧
      (searched.1 = none → ∀ j, i ≤ j → j < i + rounds →
        Taken find t (selectedPort min size start j) extIp) := by
  induction rounds generalizing i t with
  | zero =>
    refine ⟨wf, Shrinks.refl t, Spares.refl find t, fun _ _ found _ => found, ?_, ?_⟩
    · intro selected hit
      simp [searchPorts] at hit
    · intro _ j low high
      omega
  | succ rounds ih =>
    have spec := getMappingByExtPort_spec wf find (selectedPort min size start i) extIp
    cases result : (getMappingByExtPort k find (selectedPort min size start i) extIp t).1 with
    | none =>
      have stopped : searchPorts k find extIp min size start (rounds + 1) i t =
          (some (selectedPort min size start i),
            (getMappingByExtPort k find (selectedPort min size start i) extIp t).2) := by
        simp only [searchPorts, result]
      simp only [stopped]
      refine ⟨spec.wellFormed, spec.shrinks, spec.spares, ?_, ?_, fun missed => nomatch missed⟩
      · intro id mapping found outside
        exact spec.frame id mapping found
          (outside i (Nat.le_refl i) (by omega) (by omega))
      · intro selected hit id mapping found
        cases hit
        exact getMappingByExtPort_none wf find _ extIp result id mapping found
    | some hit =>
      have continued : searchPorts k find extIp min size start (rounds + 1) i t =
          searchPorts k find extIp min size start rounds (i + 1)
            (getMappingByExtPort k find (selectedPort min size start i) extIp t).2 := by
        simp only [searchPorts, result]
      simp only [continued]
      obtain ⟨wellFormed, shrinks, spares, frame, free, taken⟩ :=
        ih (i + 1) _ spec.wellFormed
      have first : Taken find t (selectedPort min size start i) extIp := by
        obtain ⟨mapping, found, samePort, sameAddr, active, -⟩ := spec.hit hit result
        exact ⟨hit, mapping, found, samePort, sameAddr, active⟩
      refine ⟨wellFormed, spec.shrinks.trans shrinks, spec.spares.trans spares, ?_, free, ?_⟩
      · intro id mapping found outside
        have kept := spec.frame id mapping found
          (outside i (Nat.le_refl i) (by omega) (by omega))
        refine frame id mapping kept fun j low high earlier => ?_
        refine outside j (by omega) (by omega) fun m mLow mHigh => ?_
        by_cases same : m = i
        · rw [same]
          exact first
        · exact (earlier m (by omega) mHigh).of_shrinks spec.shrinks
      · intro missed j low high
        by_cases same : j = i
        · rw [same]
          exact first
        · exact (taken missed j (by omega) (by omega)).of_shrinks spec.shrinks

theorem searchFrom_spec (find : CtTuple → Bool) (extIp : A) (min size start : BitVec 16)
    (t : Tables A) (wf : WellFormed k fam t) :
    SearchSpec k fam find extIp (Walks find extIp min size start t)
      (WalkOverrides find extIp min size start t) t
      (searchFrom k find extIp min size start t) := by
  obtain ⟨wellFormed, shrinks, spares, frame, free, taken⟩ :=
    searchPorts_spec find extIp min size start size.toNat 0 t wf
  have walkFrame : ∀ id mapping, t.heap id = some mapping →
      ¬ Walks find extIp min size start t mapping.port →
      (searchPorts k find extIp min size start size.toNat 0 t).2.heap id = some mapping := by
    intro id mapping found untried
    refine frame id mapping found fun j _ high earlier same => untried (Or.inl ?_)
    exact ⟨j, by omega, fun m before => earlier m (Nat.zero_le m) before, same⟩
  cases result : (searchPorts k find extIp min size start size.toNat 0 t).1 with
  | some selected =>
    have stopped : searchFrom k find extIp min size start t =
        (selected, (searchPorts k find extIp min size start size.toNat 0 t).2) := by
      simp only [searchFrom, result]
    rw [stopped]
    exact ⟨wellFormed, shrinks, walkFrame, fun _ => free selected result,
      fun id tuple live _ => spares.keeps id tuple live⟩
  | none =>
    have spec := getMappingByExtPort_spec wellFormed find (min + start) extIp
    have overridden : searchFrom k find extIp min size start t =
        (min + start,
          killMapping
            (getMappingByExtPort k find (min + start) extIp
              (searchPorts k find extIp min size start size.toNat 0 t).2).1
            (getMappingByExtPort k find (min + start) extIp
              (searchPorts k find extIp min size start size.toNat 0 t).2).2) := by
      simp only [searchFrom, result]
    rw [overridden]
    refine ⟨spec.wellFormed.kill _,
      shrinks.trans (spec.shrinks.trans (shrinks_kill _ _)), ?_, ?_, ?_⟩
    · intro id mapping found untried
      have all : ∀ j, j < size.toNat → Taken find t (selectedPort min size start j) extIp :=
        fun j high => taken result j (Nat.zero_le j) (by omega)
      have kept := spec.frame id mapping (walkFrame id mapping found untried)
        (fun same => untried (Or.inr ⟨all, same⟩))
      cases victim : (getMappingByExtPort k find (min + start) extIp
          (searchPorts k find extIp min size start size.toNat 0 t).2).1 with
      | none => exact kept
      | some other =>
        obtain ⟨before, -, victimPort, -, -, victimFound⟩ := spec.hit other victim
        have differs : id ≠ other := by
          intro same
          subst other
          rw [kept, Option.some.injEq] at victimFound
          refine untried (Or.inr ⟨all, ?_⟩)
          rw [victimFound]
          exact victimPort
        simpa [killMapping, differs] using kept
    · intro unique id mapping found matched
      -- the only mapping at the endpoint is the one that is overridden
      cases victim : (getMappingByExtPort k find (min + start) extIp
          (searchPorts k find extIp min size start size.toNat 0 t).2).1 with
      | none =>
        rw [victim] at found
        exact getMappingByExtPort_none wellFormed find _ extIp victim id mapping found matched
      | some other =>
        obtain ⟨before, -, victimPort, victimAddr, -, victimFound⟩ := spec.hit other victim
        rw [victim] at found
        have differs : id ≠ other := by
          intro same
          simp [killMapping, same] at found
        have stillThere : (getMappingByExtPort k find (min + start) extIp
            (searchPorts k find extIp min size start size.toNat 0 t).2).2.heap id =
              some mapping := by
          simpa [killMapping, differs] using found
        have uniqueNow := UniqueBy.of_carries unique (shrinks.trans spec.shrinks).carries
        refine differs (uniqueNow id other mapping _ stillThere victimFound ?_)
        exact Prod.ext (matched.2.trans victimAddr.symm) (matched.1.trans victimPort.symm)
    · intro id tuple live notOverridden
      refine (spares.keeps id tuple live).trans ((spec.spares.keeps id tuple live).trans ?_)
      cases victim : (getMappingByExtPort k find (min + start) extIp
          (searchPorts k find extIp min size start size.toNat 0 t).2).1 with
      | none => exact Retains.refl id tuple _
      | some other =>
        obtain ⟨before, beforeFound, victimPort, victimAddr, -⟩ := spec.hit other victim
        obtain ⟨mapping, mappingFound, key, -⟩ := shrinks.survivor other before beforeFound
        have differs : id ≠ other := by
          intro same
          subst other
          refine notOverridden mapping mappingFound ⟨fun i bound => ?_, ?_⟩
          · exact taken result i (Nat.zero_le i) (by omega)
          · rw [← key]
            exact ⟨victimPort, victimAddr⟩
        exact retains_of_same tuple fun left leftFound => by
          simpa [killMapping, differs] using leftFound

theorem findAppropriatePort_spec {t : Tables A} (wf : WellFormed k fam t) (find : CtTuple → Bool)
    (random : BitVec 32) (originalPort : BitVec 16) (extIp : A) (range : NatRange A) :
    SearchSpec k fam find extIp (Tries find random originalPort extIp range t)
      (SearchOverrides find random originalPort extIp range t) t
      (findAppropriatePort k find random originalPort extIp range t) := by
  by_cases original : triesOriginal range originalPort = true
  · have spec := getMappingByExtPort_spec wf find originalPort extIp
    cases result : (getMappingByExtPort k find originalPort extIp t).1 with
    | none =>
      have preserved : findAppropriatePort k find random originalPort extIp range t =
          (originalPort, (getMappingByExtPort k find originalPort extIp t).2) := by
        simp only [findAppropriatePort, original, if_true, result]
      rw [preserved]
      refine ⟨spec.wellFormed, spec.shrinks, ?_, ?_,
        fun id tuple live _ => spec.spares.keeps id tuple live⟩
      · intro id mapping found untried
        exact spec.frame id mapping found fun same => untried (Or.inl ⟨original, same⟩)
      · intro _ id mapping found
        exact getMappingByExtPort_none wf find originalPort extIp result id mapping found
    | some hit =>
      have continued : findAppropriatePort k find random originalPort extIp range t =
          searchFrom k find extIp (portWindow range).1 (portWindow range).2
            (startPort range random) (getMappingByExtPort k find originalPort extIp t).2 := by
        simp only [findAppropriatePort, original, if_true, result]
      rw [continued]
      have rest := searchFrom_spec find extIp (portWindow range).1 (portWindow range).2
        (startPort range random) _ spec.wellFormed
      have originalTaken : Taken find t originalPort extIp := by
        obtain ⟨candidate, candidateFound, samePort, sameAddr, active, -⟩ := spec.hit hit result
        exact ⟨hit, candidate, candidateFound, samePort, sameAddr, active⟩
      refine ⟨rest.wellFormed, spec.shrinks.trans rest.shrinks, ?_, ?_, ?_⟩
      · intro id mapping found untried
        have kept := spec.frame id mapping found fun same => untried (Or.inl ⟨original, same⟩)
        refine rest.frame id mapping kept fun walks => untried (Or.inr ⟨fun _ => originalTaken, ?_⟩)
        exact walks.of_shrinks spec.shrinks
      · exact fun unique => rest.free (UniqueBy.of_carries unique spec.shrinks.carries)
      · intro id tuple live notOverridden
        refine (spec.spares.keeps id tuple live).trans (rest.spares id tuple live ?_)
        intro left leftFound overridden
        obtain ⟨mapping, mappingFound, key, -⟩ := spec.shrinks.survivor id left leftFound
        rw [key] at overridden
        exact notOverridden mapping mappingFound
          ⟨fun _ => originalTaken, overridden.of_shrinks spec.shrinks⟩
  · have walked : findAppropriatePort k find random originalPort extIp range t =
        searchFrom k find extIp (portWindow range).1 (portWindow range).2
          (startPort range random) t := by
      simp only [findAppropriatePort, original, if_false, Bool.false_eq_true]
    rw [walked]
    have spec := searchFrom_spec find extIp (portWindow range).1 (portWindow range).2
      (startPort range random) t wf
    exact ⟨spec.wellFormed, spec.shrinks,
      fun id mapping found untried => spec.frame id mapping found fun walks =>
        untried (Or.inr ⟨fun tried => absurd tried original, walks⟩),
      spec.free,
      fun id tuple live notOverridden => spec.spares id tuple live
        fun mapping found overridden => notOverridden mapping found
          ⟨fun tried => absurd tried original, overridden⟩⟩

end OpenwrtSource.Fullcone.PortSearch
