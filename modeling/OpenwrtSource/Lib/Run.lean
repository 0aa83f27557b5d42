import Mathlib.Data.List.Basic

/-!
# Runs of a deterministic event system

A system is a step function; the nondeterminism of its environment is in the
events.  `run` replays a list of events, `Along` states a guard of every event
at the state in which it is taken, and `run_invariant` is the one induction
over runs that every safety theorem below uses.
-/

namespace OpenwrtSource.Lib.Run

universe u v
variable {S : Type u} {E : Type v}

def run (step : S → E → S) (state : S) (events : List E) : S :=
  events.foldl step state

@[simp] theorem run_nil (step : S → E → S) (state : S) : run step state [] = state := rfl

@[simp] theorem run_cons (step : S → E → S) (state : S) (event : E) (rest : List E) :
    run step state (event :: rest) = run step (step state event) rest := rfl

theorem run_append (step : S → E → S) (state : S) (first second : List E) :
    run step state (first ++ second) = run step (run step state first) second :=
  List.foldl_append

/-- `guard` holds of each event of the run, in the state it is taken in. -/
def Along (step : S → E → S) (guard : S → E → Prop) : S → List E → Prop
  | _, [] => True
  | state, event :: rest => guard state event ∧ Along step guard (step state event) rest

instance decidableAlong (step : S → E → S) (guard : S → E → Prop)
    [∀ state event, Decidable (guard state event)] :
    ∀ (state : S) (events : List E), Decidable (Along step guard state events)
  | _, [] => isTrue trivial
  | state, event :: rest =>
    have := decidableAlong step guard (step state event) rest
    inferInstanceAs (Decidable (guard state event ∧ _))

theorem along_append (step : S → E → S) (guard : S → E → Prop) (state : S) (first second : List E) :
    Along step guard state (first ++ second) ↔
      Along step guard state first ∧ Along step guard (run step state first) second := by
  induction first generalizing state with
  | nil => simp [Along]
  | cons event rest ih =>
    simp only [List.cons_append, Along, run_cons, ih]
    exact and_assoc.symm

theorem along_of_forall (step : S → E → S) (guard : S → E → Prop) (state : S) (events : List E)
    (every : ∀ s, ∀ event ∈ events, guard s event) : Along step guard state events := by
  induction events generalizing state with
  | nil => trivial
  | cons event rest ih =>
    refine ⟨every state event (by simp), ih (step state event) ?_⟩
    intro s tail member
    exact every s tail (by simp [member])

theorem along_iff_forall (step : S → E → S) (guard : E → Prop) (state : S) (events : List E) :
    Along step (fun _ event => guard event) state events ↔ ∀ event ∈ events, guard event := by
  induction events generalizing state with
  | nil => simp [Along]
  | cons event rest ih => rw [Along, ih, List.forall_mem_cons]

theorem along_and {step : S → E → S} {left right : S → E → Prop} {state : S} {events : List E}
    (first : Along step left state events) (second : Along step right state events) :
    Along step (fun s event => left s event ∧ right s event) state events := by
  induction events generalizing state with
  | nil => trivial
  | cons event rest ih => exact ⟨⟨first.1, second.1⟩, ih first.2 second.2⟩

theorem along_mono {step : S → E → S} {strong weak : S → E → Prop} {state : S} {events : List E}
    (holds : Along step strong state events) (implies : ∀ s event, strong s event → weak s event) :
    Along step weak state events := by
  induction events generalizing state with
  | nil => trivial
  | cons event rest ih => exact ⟨implies state event holds.1, ih holds.2⟩

theorem run_invariant (step : S → E → S) (guard : S → E → Prop) (inv : S → Prop)
    (preserved : ∀ state event, inv state → guard state event → inv (step state event)) (state : S)
    (events : List E) (initially : inv state) (guarded : Along step guard state events) :
    inv (run step state events) := by
  induction events generalizing state with
  | nil => exact initially
  | cons event rest ih =>
    exact ih (step state event) (preserved state event initially guarded.1) guarded.2

theorem along_of_invariant (step : S → E → S) (guard meets : S → E → Prop) (inv : S → Prop)
    (preserved : ∀ state event, inv state → guard state event → inv (step state event))
    (gives : ∀ state event, inv state → guard state event → meets state event) (state : S)
    (events : List E) (initially : inv state) (guarded : Along step guard state events) :
    Along step meets state events := by
  induction events generalizing state with
  | nil => trivial
  | cons event rest ih =>
    exact ⟨gives state event initially guarded.1,
      ih (step state event) (preserved state event initially guarded.1) guarded.2⟩

theorem along_iff_along (step : S → E → S) (guard meets : S → E → Prop) (inv : S → Prop)
    (preserved : ∀ state event, inv state → guard state event → inv (step state event))
    (gives : ∀ state event, inv state → guard state event → meets state event)
    (lost : ∀ state event, inv state → ¬ guard state event → ¬ meets state event)
    (state : S) (events : List E) (initially : inv state) :
    Along step meets state events ↔ Along step guard state events := by
  constructor
  · intro good
    induction events generalizing state with
    | nil => trivial
    | cons event rest ih =>
      have guarded : guard state event := by
        by_contra outside
        exact lost state event initially outside good.1
      exact ⟨guarded, ih _ (preserved state event initially guarded) good.2⟩
  · exact along_of_invariant step guard meets inv preserved gives state events initially

theorem always_iff_along_within (step : S → E → S) (lawful guard : S → E → Prop)
    (inv meets : S → Prop) (gives : ∀ state, inv state → meets state)
    (preserved : ∀ state event, inv state → lawful state event → guard state event →
      inv (step state event))
    (lost : ∀ state event, inv state → lawful state event → ¬ guard state event →
      ¬ meets (step state event)) (state : S) (events : List E) (initially : inv state)
    (within : Along step lawful state events) :
    (∀ n, meets (run step state (events.take n))) ↔ Along step guard state events := by
  induction events generalizing state with
  | nil => exact iff_of_true (fun _ => by simpa using gives state initially) trivial
  | cons event rest ih =>
    constructor
    · intro always
      have guarded : guard state event := by
        by_contra unguarded
        exact lost state event initially within.1 unguarded (by simpa using always 1)
      refine ⟨guarded,
        (ih _ (preserved state event initially within.1 guarded) within.2).mp fun n => ?_⟩
      simpa using always (n + 1)
    · rintro ⟨guarded, others⟩ n
      cases n with
      | zero => exact gives state initially
      | succ n =>
        exact (ih _ (preserved state event initially within.1 guarded) within.2).mpr others n

theorem always_iff_along (step : S → E → S) (guard : S → E → Prop) (inv meets : S → Prop)
    (gives : ∀ state, inv state → meets state)
    (preserved : ∀ state event, inv state → guard state event → inv (step state event))
    (lost : ∀ state event, inv state → ¬ guard state event → ¬ meets (step state event))
    (state : S) (events : List E) (initially : inv state) :
    (∀ n, meets (run step state (events.take n))) ↔ Along step guard state events :=
  always_iff_along_within step (fun _ _ => True) guard inv meets gives
    (fun state event holds _ => preserved state event holds)
    (fun state event holds _ => lost state event holds) state events initially
    (along_of_forall step _ state events fun _ _ _ => trivial)

theorem along_of_doomed (step : S → E → S) (lawful guard meets : S → E → Prop)
    (inv doomed : S → Prop)
    (preserved : ∀ state event, inv state → lawful state event → guard state event →
      inv (step state event))
    (dooms : ∀ state event, inv state → lawful state event → ¬ guard state event →
      doomed (step state event))
    (stays : ∀ state event, doomed state → lawful state event → meets state event →
      doomed (step state event)) (state : S) (events : List E) (initially : inv state)
    (within : Along step lawful state events) (good : Along step meets state events)
    (safe : ¬ doomed (run step state events)) : Along step guard state events := by
  induction events generalizing state with
  | nil => trivial
  | cons event rest ih =>
    have guarded : guard state event := by
      by_contra outside
      exact safe (run_invariant step (fun s e => lawful s e ∧ meets s e) doomed
        (fun s e bad both => stays s e bad both.1 both.2) _ rest
        (dooms state event initially within.1 outside) (along_and within.2 good.2))
    exact ⟨guarded, ih _ (preserved state event initially within.1 guarded) within.2 good.2 safe⟩

theorem run_relates (step : S → E → S) (guard : S → E → Prop) (rel : S → S → Prop)
    (reflexive : ∀ state, rel state state) (transitive : ∀ a b c, rel a b → rel b c → rel a c)
    (single : ∀ state event, guard state event → rel state (step state event)) (state : S)
    (events : List E) (guarded : Along step guard state events) :
    rel state (run step state events) := by
  induction events generalizing state with
  | nil => exact reflexive state
  | cons event rest ih =>
    exact transitive _ _ _ (single state event guarded.1) (ih _ guarded.2)

theorem fact_run_iff (step : S → E → S) (lawful makes keeps : S → E → Prop) (fact : S → Prop)
    (single : ∀ state event, lawful state event →
      (fact (step state event) ↔ makes state event ∨ fact state ∧ keeps state event))
    (state : S) (events : List E) (within : Along step lawful state events) :
    fact (run step state events) ↔
      fact state ∧ Along step keeps state events ∨
        ∃ before event since, events = before ++ event :: since ∧
          makes (run step state before) event ∧
            Along step keeps (run step state (before ++ [event])) since := by
  induction events generalizing state with
  | nil => simp [Along]
  | cons event rest ih =>
    rw [run_cons, ih _ within.2, single state event within.1]
    constructor
    · rintro (⟨made | ⟨held, kept⟩, still⟩ | ⟨before, maker, since, rfl, made, still⟩)
      · exact .inr ⟨[], event, rest, rfl, made, still⟩
      · exact .inl ⟨held, kept, still⟩
      · exact .inr ⟨event :: before, maker, since, rfl, made, still⟩
    · rintro (⟨held, kept, still⟩ | ⟨before, maker, since, split, made, still⟩)
      · exact .inl ⟨.inr ⟨held, kept⟩, still⟩
      · cases before with
        | nil =>
          cases split
          exact .inl ⟨.inl made, still⟩
        | cons first before =>
          cases split
          exact .inr ⟨before, maker, since, rfl, made, still⟩

end OpenwrtSource.Lib.Run
