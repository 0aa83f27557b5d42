import OpenwrtSource.Lib.Run

/-!
# Settings that an initialisation overwrites

A setting is set by its user and set to a default by every initialisation.  What was
last set is in place exactly when no initialisation has come since, or when it is what
is in place anyway.
-/

namespace OpenwrtSource.Lib.Defaults

open Lib.Run

universe u
variable {α : Type u}

inductive Action (α : Type u)
  | set (value : α)
  | initialise
  | keep

def act (default held : α) : Action α → α
  | .set value => value
  | .initialise => default
  | .keep => held

/-- What has been done to a setting: the value last set, whether no initialisation has come
since, and whether there has been one at all. -/
structure Past (α : Type u) where
  told : Option α
  since : Bool
  initialised : Bool

def Past.none : Past α := ⟨Option.none, false, false⟩

def note (past : Past α) : Action α → Past α
  | .set value => { past with told := some value, since := true }
  | .initialise => { past with since := false, initialised := true }
  | .keep => past

/-- What is in place: the value last set if it has been set since the last initialisation, else
what that has left. -/
def Past.place (default initial : α) (past : Past α) : α :=
  if past.since then past.told.getD initial
  else if past.initialised then default else initial

theorem place_note (default initial : α) (past : Past α) (action : Action α) :
    (note past action).place default initial = act default (past.place default initial) action := by
  cases action <;> rfl

theorem run_act (default initial : α) (past : Past α) (actions : List (Action α)) :
    run (act default) (past.place default initial) actions =
      (run note past actions).place default initial := by
  induction actions generalizing past with
  | nil => rfl
  | cons action rest ih => rw [run_cons, run_cons, ← place_note, ih]

/-- What is in place by the user has been set, and nothing else has before an initialisation. -/
structure Past.Sound (past : Past α) : Prop where
  told : past.since = true → past.told.isSome = true
  untold : past.since = false → past.initialised = false → past.told = Option.none

theorem sound_none : (Past.none : Past α).Sound :=
  ⟨fun never => absurd never Bool.false_ne_true, fun _ _ => rfl⟩

theorem sound_note {past : Past α} (sound : past.Sound) (action : Action α) :
    (note past action).Sound := by
  cases action with
  | set value => exact ⟨fun _ => rfl, nofun⟩
  | initialise => exact ⟨nofun, fun _ never => nomatch never⟩
  | keep => exact sound

theorem sound_run {past : Past α} (sound : past.Sound) (actions : List (Action α)) :
    (run note past actions).Sound := by
  induction actions generalizing past with
  | nil => exact sound
  | cons action rest ih => exact ih (sound_note sound action)

/-- Set since the last initialisation, or the same as the default that the last one has left. -/
def Past.Stands (default : α) (past : Past α) : Prop :=
  past.since = true ∨ past.initialised = true ∧ past.told.getD default = default

theorem place_eq_told_iff {default initial : α} (fresh : initial ≠ default) {past : Past α}
    (sound : past.Sound) :
    past.place default initial = past.told.getD default ↔ past.Stands default := by
  unfold Past.place Past.Stands
  cases since : past.since with
  | true =>
    obtain ⟨value, told⟩ := Option.isSome_iff_exists.mp (sound.told since)
    rw [told]
    exact iff_of_true rfl (.inl rfl)
  | false =>
    cases initialised : past.initialised with
    | true => simp [eq_comm]
    | false =>
      rw [sound.untold since initialised]
      exact iff_of_false fresh (by simp)

theorem run_act_eq_told_iff {default initial : α} (fresh : initial ≠ default)
    (actions : List (Action α)) :
    run (act default) initial actions = (run note Past.none actions).told.getD default ↔
      (run note Past.none actions).Stands default := by
  have placed : run (act default) initial actions =
      (run note Past.none actions).place default initial :=
    run_act default initial Past.none actions
  rw [placed]
  exact place_eq_told_iff fresh (sound_run sound_none actions)

theorem view_run {S E : Type} {step : S → E → S} (view : S → α) {action : E → Action α}
    {default : α} (follows : ∀ s event, view (step s event) = act default (view s) (action event))
    (s : S) (events : List E) :
    view (run step s events) = run (act default) (view s) (events.map action) := by
  induction events generalizing s with
  | nil => rfl
  | cons event rest ih => rw [run_cons, ih, follows, List.map_cons, run_cons]

end OpenwrtSource.Lib.Defaults
