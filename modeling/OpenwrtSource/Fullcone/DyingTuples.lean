import OpenwrtSource.Fullcone.LinuxKernel

/-!
# What the gc leaves of dying tuples

A round of `handle_dying_tuples` takes the tuple of one entry out of the mapping
that the entry's keys lead to, as an outbound flow or else as an inbound one.  A
tuple that is recorded in two mappings, as that of a flow from a LAN host to the
router's own address is, stays in the other one.
-/

namespace OpenwrtSource.Fullcone.DyingTuples

open Lib.Run Fullcone.Tuple Fullcone.L3Family Fullcone.Mapping Fullcone.TableEffects
open Fullcone.EventSystem Fullcone.LinuxKernel

variable {A : Type} [DecidableEq A] {k : Kernel} {fam : Family A}

def Lists (t : Tables A) (id : Nat) (tuple : CtTuple) : Prop :=
  ∃ mapping, t.heap id = some mapping ∧ tuple ∈ mapping.originalTupleList

def Bare (t : Tables A) (id : Nat) : Prop :=
  ∃ mapping, t.heap id = some mapping ∧ mapping.originalTupleList = []

variable {t : Tables A}

theorem collectTuple_heap (wf : WellFormed k fam t) (item : TupleList) (id : Nat) :
    (collectTuple k fam item t).heap id =
      if dyingMapping k fam item t = some id then
        (t.heap id).bind fun mapping =>
          if mapping.originalTupleList.filter (fun tuple => tuple != item.tupleOriginal) = [] then
            none
          else some (pruned (fun tuple => tuple != item.tupleOriginal) mapping)
      else t.heap id := by
  unfold collectTuple
  cases looked : dyingMapping k fam item t with
  | none => simp
  | some target =>
    by_cases same : target = id
    · subst target
      dsimp only
      cases found : t.heap id with
      | none => simp [pruneMapping, found]
      | some mapping =>
        by_cases last : mapping.originalTupleList.filter
            (fun tuple => tuple != item.tupleOriginal) = []
        · rw [pruneMapping_killed wf _ id mapping found last, if_pos rfl, Option.bind_some,
            if_pos last]
          simp [killMapping]
        · rw [pruneMapping_kept wf _ id mapping found last, if_pos rfl, Option.bind_some,
            if_neg last]
          simp
    · have frame := (pruneMapping_spec wf (fun tuple => tuple != item.tupleOriginal) target).frame
      simp only [frame id (Ne.symm same), Option.some.injEq, same, if_false]

theorem collectTuple_lists (wf : WellFormed k fam t) (item : TupleList) (id : Nat)
    (tuple : CtTuple) :
    Lists (collectTuple k fam item t) id tuple ↔ Lists t id tuple ∧
      ¬ (item.tupleOriginal = tuple ∧ dyingMapping k fam item t = some id) := by
  have heap := collectTuple_heap wf item id
  by_cases looked : dyingMapping k fam item t = some id
  · rw [if_pos looked] at heap
    cases found : t.heap id with
    | none => simp [Lists, heap, found]
    | some mapping =>
      rw [found, Option.bind_some] at heap
      have kept : tuple ∈ mapping.originalTupleList.filter
          (fun candidate => candidate != item.tupleOriginal) ↔
            tuple ∈ mapping.originalTupleList ∧ ¬ item.tupleOriginal = tuple := by
        simp only [List.mem_filter, bne_iff_ne, ne_eq]
        exact and_congr_right fun _ => not_congr eq_comm
      split at heap
      · rename_i last
        rw [last] at kept
        simpa [Lists, heap, found, looked] using kept
      · simpa [Lists, heap, found, looked, pruned] using kept
  · rw [if_neg looked] at heap
    simp [Lists, heap, looked]

theorem collectTuple_bare (wf : WellFormed k fam t) (item : TupleList) (id : Nat) :
    Bare (collectTuple k fam item t) id ↔ Bare t id ∧ dyingMapping k fam item t ≠ some id := by
  have heap := collectTuple_heap wf item id
  by_cases looked : dyingMapping k fam item t = some id
  · rw [if_pos looked] at heap
    cases found : t.heap id with
    | none => simp [Bare, heap, found]
    | some mapping =>
      rw [found, Option.bind_some] at heap
      split at heap
      · simp [Bare, heap, looked]
      · rename_i left
        simpa [Bare, heap, looked, pruned] using left
  · rw [if_neg looked] at heap
    simp [Bare, heap, looked]

def collectTuples (k : Kernel) (fam : Family A) (items : List TupleList) (t : Tables A) :
    Tables A :=
  items.foldl (fun tables item => collectTuple k fam item tables) t

/-- In its round, an entry that is `wanted` leads to the mapping. -/
def Reached (k : Kernel) (fam : Family A) (wanted : TupleList → Prop) (id : Nat) :
    List TupleList → Tables A → Prop
  | [], _ => False
  | item :: rest, t =>
    (wanted item ∧ dyingMapping k fam item t = some id) ∨
      Reached k fam wanted id rest (collectTuple k fam item t)

theorem collectTuples_wellFormed (items : List TupleList) (wf : WellFormed k fam t) :
    WellFormed k fam (collectTuples k fam items t) := by
  induction items generalizing t with
  | nil => exact wf
  | cons item rest ih => exact ih (collectTuple_effects wf item).1

theorem collectTuples_lists (items : List TupleList) (wf : WellFormed k fam t) (id : Nat)
    (tuple : CtTuple) :
    Lists (collectTuples k fam items t) id tuple ↔ Lists t id tuple ∧
      ¬ Reached k fam (fun item => item.tupleOriginal = tuple) id items t := by
  induction items generalizing t with
  | nil => simp [collectTuples, Reached]
  | cons item rest ih =>
    have later := ih (collectTuple_effects wf item).1
    rw [collectTuple_lists wf item id tuple] at later
    rw [Reached, not_or, ← and_assoc]
    exact later

theorem collectTuples_bare (items : List TupleList) (wf : WellFormed k fam t) (id : Nat) :
    Bare (collectTuples k fam items t) id ↔ Bare t id ∧
      ¬ Reached k fam (fun _ => True) id items t := by
  induction items generalizing t with
  | nil => simp [collectTuples, Reached]
  | cons item rest ih =>
    have later := ih (collectTuple_effects wf item).1
    rw [collectTuple_bare wf item id] at later
    rw [Reached, true_and, not_or, ← and_assoc]
    exact later

theorem handleDyingTuples_half (half : Half A) (s : State) :
    half.tables (handleDyingTuples k s) =
      collectTuples k half.fam (s.dying.filter half.owns) (half.tables s) := by
  have folded : ∀ (items : List TupleList) (before : State),
      half.tables (items.foldl (collectItem k) before) =
        collectTuples k half.fam (items.filter half.owns) (half.tables before) := by
    intro items
    induction items with
    | nil => exact fun _ => rfl
    | cons item rest ih =>
      intro before
      rw [List.foldl_cons, ih, half.collect, List.filter_cons]
      split <;> rfl
  rw [handleDyingTuples, half.drained, folded]

/-- The list is empty, no mapping lists the tuple of an entry, and every mapping
that is linked has tuples. -/
structure Collected (half : Half A) (s after : State) : Prop where
  drained : after.dying = []
  unlisted : ∀ item ∈ s.dying, ∀ id mapping, (half.tables after).heap id = some mapping →
    item.tupleOriginal ∉ mapping.originalTupleList
  linked : ∀ b id, id ∈ (half.tables after).byExtPort b ∨ id ∈ (half.tables after).byIntSrc b →
    ∃ mapping, (half.tables after).heap id = some mapping ∧ mapping.originalTupleList ≠ []

/-- Each mapping that lists the tuple of an entry is one that an entry with this
tuple leads to, and each mapping without tuples is one that some entry leads to. -/
structure Collectable (k : Kernel) (half : Half A) (s : State) : Prop where
  listed : ∀ item ∈ s.dying, ∀ id, Lists (half.tables s) id item.tupleOriginal →
    Reached k half.fam (fun other => other.tupleOriginal = item.tupleOriginal) id
      (s.dying.filter half.owns) (half.tables s)
  bare : ∀ id, Bare (half.tables s) id →
    Reached k half.fam (fun _ => True) id (s.dying.filter half.owns) (half.tables s)

theorem collected_iff_collectable (half : Half A) (s : State)
    (wf : WellFormed k half.fam (half.tables s)) :
    Collected half s (handleDyingTuples k s) ↔ Collectable k half s := by
  have tables := handleDyingTuples_half (k := k) half s
  have after := collectTuples_wellFormed (s.dying.filter half.owns) wf
  have lists := collectTuples_lists (s.dying.filter half.owns) wf
  have bare := collectTuples_bare (s.dying.filter half.owns) wf
  rw [← tables] at after lists bare
  constructor
  · intro collected
    refine ⟨fun item member id listed => ?_, fun id isBare => ?_⟩
    · by_contra unreached
      obtain ⟨mapping, found, recorded⟩ :=
        (lists id item.tupleOriginal).mpr ⟨listed, unreached⟩
      exact collected.unlisted item member id mapping found recorded
    · by_contra unreached
      obtain ⟨mapping, found, none⟩ := (bare id).mpr ⟨isBare, unreached⟩
      have linked := (after.ext.mem_iff id (mapping.extBucket k)).mpr ⟨mapping, found, rfl⟩
      obtain ⟨same, sameFound, some⟩ := collected.linked _ id (Or.inl linked)
      rw [found, Option.some.injEq] at sameFound
      exact some (sameFound ▸ none)
  · intro collectable
    refine ⟨rfl, fun item member id mapping found recorded => ?_, fun b id linked => ?_⟩
    · obtain ⟨listed, unreached⟩ := (lists id item.tupleOriginal).mp ⟨mapping, found, recorded⟩
      exact unreached (collectable.listed item member id listed)
    · have present : ∃ mapping, (half.tables (handleDyingTuples k s)).heap id = some mapping := by
        rcases linked with ext | int
        · obtain ⟨mapping, found, -⟩ := (after.ext.mem_iff id b).mp ext
          exact ⟨mapping, found⟩
        · obtain ⟨mapping, found, -⟩ := (after.int.mem_iff id b).mp int
          exact ⟨mapping, found⟩
      obtain ⟨mapping, found⟩ := present
      refine ⟨mapping, found, fun none => ?_⟩
      obtain ⟨isBare, unreached⟩ := (bare id).mp ⟨mapping, found, none⟩
      exact unreached (collectable.bare id isBare)

/-- In every state of every run, with any dying list, the gc collects exactly when
the keys of the entries lead to all mappings concerned. -/
theorem dying_tuples_collected_iff (k : Kernel) (half : Half A) (events : List Event)
    (dying : List TupleList) :
    Collected half { run (step k) State.init events with dying := dying }
        (handleDyingTuples k { run (step k) State.init events with dying := dying }) ↔
      Collectable k half { run (step k) State.init events with dying := dying } := by
  have wf := reachable_wellFormed (k := k) half events
  have same := half.drained { run (step k) State.init events with dying := dying }
  have drained := half.drained (run (step k) State.init events)
  refine collected_iff_collectable half _ ?_
  rw [← same, drained]
  exact wf

def lan : Be32 := 0x0101a8c0

def hairpin : CtTuple := udpTuple host 5000 wan 6000

def hairpinConn : Conn :=
  ⟨mainScope, hairpin,
    ⟨ipv4Addr otherHost, cpuToBe16 6000, PF_INET, ipv4Addr lan, cpuToBe16 5000, IPPROTO_UDP⟩, true⟩

def hairpinRun : List Event :=
  [.ipv4 (.postrouting (outbound (udpTuple otherHost 6000 peer 53) wan)),
    .conntrack [flowConn (udpTuple otherHost 6000 peer 53) wan 6000 true],
    .ipv4 (.prerouting (inbound hairpin)),
    .ipv4 (.postrouting (outbound hairpin lan))]

def bareRun : List Event :=
  [.ipv4 (.postrouting { outbound (flowTo peer) wan with kmallocTuple := false })]

/-- The gc leaves the tuple of the flow in the mapping that it came in through, and
the mapping without tuples in the tables. -/
theorem hairpin_tuple_uncollected :
    ¬ Collected half4
        { run (step linuxKernel) State.init hairpinRun with
          dying := [⟨hairpin, hairpinConn.reply⟩] }
        (handleDyingTuples linuxKernel
          { run (step linuxKernel) State.init hairpinRun with
            dying := [⟨hairpin, hairpinConn.reply⟩] }) ∧
      ¬ Collected half4 (run (step linuxKernel) State.init bareRun)
        (handleDyingTuples linuxKernel (run (step linuxKernel) State.init bareRun)) := by
  constructor
  · intro collected
    exact collected.unlisted ⟨hairpin, hairpinConn.reply⟩ (by decide) 0
      ⟨6000, wan, otherHost, 6000, 2, [hairpin, udpTuple otherHost 6000 peer 53]⟩ (by decide)
      (by decide)
  · intro collected
    obtain ⟨mapping, found, some⟩ :=
      collected.linked (extPortBucket linuxKernel 5000) 0 (Or.inl (by decide))
    have bare : (handleDyingTuples linuxKernel
        (run (step linuxKernel) State.init bareRun)).ipv4.heap 0 =
          Option.some ⟨5000, wan, host, 5000, 0, []⟩ := by decide
    have same : half4.tables (handleDyingTuples linuxKernel
        (run (step linuxKernel) State.init bareRun)) =
          (handleDyingTuples linuxKernel (run (step linuxKernel) State.init bareRun)).ipv4 := rfl
    rw [same, bare, Option.some.injEq] at found
    exact some (by rw [← found])

end OpenwrtSource.Fullcone.DyingTuples
