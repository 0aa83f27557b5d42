import OpenwrtSource.Fullcone.EventSystem
import OpenwrtSource.Fullcone.LinuxKernel

/-!
# What keeps a tuple recorded

For one mapping and one tuple recorded in it, the condition on a step under
which the mapping is left and the tuple stays recorded: a call leaves the
mapping alone or finds the conntrack and does not override, and the gc has no
dying conntrack of the mapping with this original tuple.
-/

namespace OpenwrtSource.Fullcone.Retention

open Lib.Run Fullcone.Tuple Fullcone.L3Family Fullcone.Mapping Fullcone.TableEffects
open Fullcone.HookEffects Fullcone.EventSystem

variable {A : Type} [DecidableEq A] {k : Kernel}

/-- A step that does not take the tuple away from the mapping `id`, whose
endpoints are given. -/
def Undisturbed (k : Kernel) (half : Half A) (id : Nat) (endpoints : Endpoints A)
    (tuple : CtTuple) (s : State) (event : Event) : Prop :=
  match half.call event with
  | some call =>
    let find := nfConntrackFindGet s.conntrack call.scope
    ¬ call.Consults k half.fam find (half.tables s) id endpoints ∨
      (find tuple = true ∧ ¬ call.Overrides k half.fam find (half.tables s) endpoints)
  | none =>
    match event with
    | .gc => ∀ item ∈ s.dying, half.owns item = true →
        TupleList.Matches half.fam item endpoints → item.tupleOriginal ≠ tuple
    | .destroyMappings => False
    | _ => True

theorem collectTuple_retains {fam : Family A} {t : Tables A} (wf : WellFormed k fam t)
    (item : TupleList) (id : Nat) (tuple : CtTuple) (safe : ∀ mapping, t.heap id = some mapping →
      TupleList.Matches fam item mapping.endpoints → item.tupleOriginal ≠ tuple) :
    Retains id tuple t (collectTuple k fam item t) := by
  unfold collectTuple
  cases looked : dyingMapping k fam item t with
  | none => exact Retains.refl id tuple t
  | some target =>
    obtain ⟨mapping, found, owned⟩ := dyingMapping_some looked
    refine pruneMapping_retains wf _ target id tuple fun same => ?_
    rw [same] at found
    simpa [bne_iff_ne, ne_comm] using safe mapping found owned

theorem collectItems_retains (half : Half A) (items : List TupleList) (s : State)
    (wf : WellFormed k half.fam (half.tables s)) (id : Nat) (tuple : CtTuple)
    (safe : ∀ item ∈ items, half.owns item = true → ∀ mapping,
      (half.tables s).heap id = some mapping →
        TupleList.Matches half.fam item mapping.endpoints → item.tupleOriginal ≠ tuple) :
    Retains id tuple (half.tables s) (half.tables (items.foldl (collectItem k) s)) := by
  induction items generalizing s with
  | nil => exact Retains.refl id tuple _
  | cons item rest ih =>
    have tables := half.collect k s item
    have headRetains : Retains id tuple (half.tables s) (half.tables (collectItem k s item)) := by
      rw [tables]
      split
      · rename_i own
        exact collectTuple_retains wf item id tuple (safe item (by simp) own)
      · exact Retains.refl id tuple _
    have head : WellFormed k half.fam (half.tables (collectItem k s item)) ∧
        Shrinks (half.tables s) (half.tables (collectItem k s item)) := by
      rw [tables]
      split
      · exact collectTuple_effects wf item
      · exact ⟨wf, Shrinks.refl _⟩
    refine headRetains.trans (ih (collectItem k s item) head.1 ?_)
    intro other member own mapping found owned
    obtain ⟨before, beforeFound, key, -⟩ := head.2.survivor id mapping found
    rw [key] at owned
    exact safe other (by simp [member]) own before beforeFound owned

theorem step_retains (half : Half A) (s : State) (event : Event)
    (wf : WellFormed k half.fam (half.tables s)) (id : Nat) (tuple : CtTuple)
    (undisturbed : ∀ mapping, (half.tables s).heap id = some mapping →
      Undisturbed k half id mapping.endpoints tuple s event) :
    Retains id tuple (half.tables s) (half.tables (step k s event)) := by
  intro mapping found recorded
  have safe := undisturbed mapping found
  unfold Undisturbed at safe
  cases called : half.call event with
  | some call =>
    rw [called] at safe
    rw [(half.call_eq event call).mp called, half.exec]
    rcases safe with unconsulted | ⟨confirmed, spared⟩
    · exact ⟨mapping, call_frame wf _ call id mapping found unconsulted, rfl, recorded⟩
    · refine call_retains wf _ call id tuple confirmed (fun other otherFound => ?_) mapping found
        recorded
      rw [found, Option.some.injEq] at otherFound
      rw [← otherFound]
      exact spared
  | none =>
    rw [called] at safe
    cases event with
    | gc =>
      have retained := collectItems_retains half s.dying s wf id tuple
        fun item member own other otherFound owned => by
          rw [found, Option.some.injEq] at otherFound
          subst other
          exact safe item member own owned
      have drained := half.drained (s.dying.foldl (collectItem k) s)
      exact (drained ▸ retained) mapping found recorded
    | destroyMappings => exact safe.elim
    | _ =>
      rw [half.frame k s _ called (by simp) (by simp)]
      exact ⟨mapping, found, rfl, recorded⟩

end OpenwrtSource.Fullcone.Retention

/-!
# The gc and live flows

A dying item names a flow by the value of its tuple.  The gc takes a live
conntrack's tuple away only when it was created again with the tuple of a dying
one, in a mapping of the same endpoints.
-/

namespace OpenwrtSource.Fullcone.Collection

open Lib.Run Fullcone.Tuple Fullcone.L3Family Fullcone.Mapping Fullcone.TableEffects
open Fullcone.EventSystem Fullcone.Retention Fullcone.LinuxKernel

variable {A : Type} [DecidableEq A] {k : Kernel}

/-- A gc removes no tuple of an existing conntrack from a mapping, and destroys no
mapping with such a tuple. -/
def SparesLive (k : Kernel) (s : State) (event : Event) : Prop :=
  event = .gc →
    Keeps (alive s.conntrack) s.ipv4 (step k s event).ipv4 ∧
      Keeps (alive s.conntrack) s.ipv6 (step k s event).ipv6

/-- No conntrack exists again under the original tuple of a dying one, with that
tuple recorded in a mapping of the dying one's endpoints. -/
def NoneRevived (half : Half A) (s : State) : Prop :=
  ∀ item ∈ s.dying, half.owns item = true → alive s.conntrack item.tupleOriginal = true →
    ∀ id mapping, (half.tables s).heap id = some mapping →
      TupleList.Matches half.fam item mapping.endpoints →
        item.tupleOriginal ∉ mapping.originalTupleList

def gcGuard (s : State) (event : Event) : Prop :=
  event = .gc → NoneRevived half4 s ∧ NoneRevived half6 s

theorem gc_keeps_alive (half : Half A) (s : State)
    (wf : WellFormed k half.fam (half.tables s)) (none : NoneRevived half s) :
    Keeps (alive s.conntrack) (half.tables s) (half.tables (step k s .gc)) := by
  intro id tuple living mapping found recorded
  have drained := half.drained (s.dying.foldl (collectItem k) s)
  have retained := collectItems_retains (k := k) half s.dying s wf id tuple
    fun item member own other otherFound owned same => by
      rw [found, Option.some.injEq] at otherFound
      subst other
      rw [← same] at living recorded
      exact none item member own living id mapping found owned recorded
  exact (drained ▸ retained) mapping found recorded

/-- In every run, every gc at which no dying tuple is revived spares the live
flows. -/
theorem gc_spares_live_flows (k : Kernel) (events : List Event)
    (guarded : Along (step k) gcGuard State.init events) :
    Along (step k) (SparesLive k) State.init events := by
  refine along_of_invariant (step k) gcGuard (SparesLive k)
    (fun s => WellFormed k ipv4 s.ipv4 ∧ WellFormed k ipv6 s.ipv6)
    (fun s event wf _ => step_wellFormed s event wf) ?_ State.init events
    ⟨wellFormed_empty k _, wellFormed_empty k _⟩ guarded
  intro s event wf guard isGc
  obtain ⟨none4, none6⟩ := guard isGc
  subst event
  exact ⟨gc_keeps_alive half4 s wf.1 none4, gc_keeps_alive half6 s wf.2 none6⟩

theorem noneRevived_of_dead (half : Half A) (s : State)
    (dead : ∀ item ∈ s.dying, alive s.conntrack item.tupleOriginal = false) :
    NoneRevived half s := by
  intro item member _ living
  rw [dead item member] at living
  cases living

def collectingRun : List Event :=
  [.ipv4 (.postrouting (outbound (flowTo peer) wan)),
    .conntrack [flowConn (flowTo peer) wan 5000 true],
    .ipv4 (.postrouting (outbound (flowTo otherPeer) wan)),
    .conntrack [flowConn (flowTo otherPeer) wan 5000 true],
    .ctEvent 4 (some (flowConn (flowTo peer) wan 5000 true)) true,
    .gc]

theorem gc_spares_live_flows_collectingRun :
    Along (step linuxKernel) (SparesLive linuxKernel) State.init collectingRun := by
  apply gc_spares_live_flows linuxKernel collectingRun
  simp only [collectingRun, Along, gcGuard, reduceCtorEq, false_implies, true_and, and_true,
    true_implies]
  exact ⟨noneRevived_of_dead half4 _ (by decide),
    noneRevived_of_dead half6 _ (by decide)⟩

/-- The flow is destroyed and set up again, with the same tuple, before the gc. -/
def revivingRun : List Event :=
  [.ipv4 (.postrouting (outbound (flowTo peer) wan)),
    .conntrack [flowConn (flowTo peer) wan 5000 true],
    .ctEvent 4 (some (flowConn (flowTo peer) wan 5000 true)) true,
    .conntrack [],
    .ipv4 (.postrouting (outbound (flowTo peer) wan)),
    .conntrack [flowConn (flowTo peer) wan 5000 true],
    .gc]

theorem revivingRun_collects_live :
    ¬ Along (step linuxKernel) (SparesLive linuxKernel) State.init revivingRun := by
  intro along
  obtain ⟨-, -, -, -, -, -, atGc, -⟩ := along
  obtain ⟨left, leftFound, -⟩ := (atGc rfl).1 1 (flowTo peer) (by decide)
    ⟨5000, wan, host, 5000, 1, [flowTo peer]⟩ (by decide) (by decide)
  have destroyed : (run (step linuxKernel) State.init revivingRun).ipv4.heap 1 = none := by
    decide
  exact absurd (leftFound.symm.trans destroyed) (fun same => nomatch same)

end OpenwrtSource.Fullcone.Collection
