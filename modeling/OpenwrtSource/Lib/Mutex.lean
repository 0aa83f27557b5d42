import Mathlib.Logic.Function.Basic

/-!
# Threads around one mutex

A thread is the program that it has still to run: a tree that branches on what it reads
and on the answers to its accesses to a device.  A program follows the discipline if it
ends with the mutex free, takes it only when it is free of it, and, after an answer that
is not good, holds it and never gives it back.
-/

namespace OpenwrtSource.Lib.Mutex

/-- `M` is the memory that the threads share, `A` an access and `R` an answer; `schedule` is the
command that has the work of the system done once more. -/
inductive Prog (M A R : Type)
  | done
  | lock (next : Prog M A R)
  | unlock (next : Prog M A R)
  | access (a : A) (next : R → Prog M A R)
  | update (change : M → M) (next : Prog M A R)
  | read (next : M → Prog M A R)
  | schedule (next : Prog M A R)

variable {M A R T : Type}

/-- Accesses whose answers nobody looks at. -/
def Prog.ignoring (accesses : List A) (next : Prog M A R) : Prog M A R :=
  accesses.foldr (fun a next => .access a fun _ => next) next

structure System (M A R T : Type) where
  mem : M
  lock : Option T
  scheduled : Bool
  prog : T → Prog M A R

section Threads

variable [DecidableEq T]

def System.put (s : System M A R T) (t : T) (p : Prog M A R) : System M A R T :=
  { s with prog := Function.update s.prog t p }

/-- One command of a thread; it waits where the mutex is taken. -/
def go (t : T) (answer : R) (s : System M A R T) : System M A R T :=
  match s.prog t with
  | .done => s
  | .lock next => if s.lock.isNone then { s with lock := some t }.put t next else s
  | .unlock next => { s with lock := none }.put t next
  | .access _ next => s.put t (next answer)
  | .update change next => { s with mem := change s.mem }.put t next
  | .read next => s.put t (next s.mem)
  | .schedule next => { s with scheduled := true }.put t next

@[simp] theorem put_self (s : System M A R T) (t : T) (p : Prog M A R) :
    (s.put t p).prog t = p := by
  simp [System.put]

theorem put_other (s : System M A R T) {t u : T} (other : u ≠ t) (p : Prog M A R) :
    (s.put t p).prog u = s.prog u := by
  simp [System.put, other]

end Threads

/-- The mutex is not given back before the program ends or waits for it. -/
def Sticks : Prog M A R → Prop
  | .done | .lock _ => True
  | .unlock _ => False
  | .access _ next => ∀ answer, Sticks (next answer)
  | .update _ next | .schedule next => Sticks next
  | .read next => ∀ m, Sticks (next m)

/-- The discipline, of a program that holds the mutex or does not. -/
def Follows (good : A → R → Prop) : Bool → Prog M A R → Prop
  | held, .done => held = false
  | held, .lock next => held = false ∧ Follows good true next
  | held, .unlock next => held = true ∧ Follows good false next
  | held, .access a next => ∀ answer,
      (good a answer → Follows good held (next answer)) ∧
        (¬ good a answer → held = true ∧ Sticks (next answer))
  | held, .update _ next | held, .schedule next => Follows good held next
  | held, .read next => ∀ m, Follows good held (next m)

/-- The program has at most so many commands left. -/
def Within : Nat → Prog M A R → Prop
  | _, .done => True
  | 0, _ => False
  | n + 1, .lock next | n + 1, .unlock next | n + 1, .update _ next | n + 1, .schedule next =>
    Within n next
  | n + 1, .access _ next => ∀ answer, Within n (next answer)
  | n + 1, .read next => ∀ m, Within n (next m)

/-- On every way through the program the work is scheduled. -/
def Schedules : Prog M A R → Prop
  | .done => False
  | .schedule _ => True
  | .lock next | .unlock next | .update _ next => Schedules next
  | .access _ next => ∀ answer, Schedules (next answer)
  | .read next => ∀ m, Schedules (next m)

variable {good : A → R → Prop} {p next : Prog M A R} {n : Nat} {t : T}

theorem sticks_of_follows (follows : Follows good false p) : Sticks p := by
  induction p with
  | done | lock => trivial
  | unlock => exact Bool.false_ne_true follows.1
  | access a next ih =>
    intro answer
    by_cases fine : good a answer
    · exact ih answer ((follows answer).1 fine)
    · exact ((follows answer).2 fine).2
  | update change next ih | schedule next ih => exact ih follows
  | read next ih => exact fun m => ih m (follows m)

theorem follows_ignoring {held : Bool} (follows : Follows good held next) (accesses : List A)
    (fine : ∀ a ∈ accesses, ∀ answer, good a answer) :
    Follows good held (Prog.ignoring accesses next) := by
  induction accesses with
  | nil => exact follows
  | cons a rest ih =>
    rw [List.forall_mem_cons] at fine
    exact fun answer => ⟨fun _ => ih fine.2, fun bad => absurd (fine.1 answer) bad⟩

theorem within_ignoring (within : Within n next) (accesses : List A) :
    Within (n + accesses.length) (Prog.ignoring accesses next) := by
  induction accesses with
  | nil => exact within
  | cons a rest ih => exact fun _ => ih

theorem schedules_ignoring (schedules : Schedules next) (accesses : List A) :
    Schedules (Prog.ignoring accesses next) := by
  induction accesses with
  | nil => exact schedules
  | cons a rest ih => exact fun _ => ih

theorem within_mono {m : Nat} (le : n ≤ m) (within : Within n p) : Within m p := by
  induction p generalizing n m with
  | done => cases m <;> trivial
  | lock next ih | unlock next ih | update change next ih | schedule next ih =>
    cases n with
    | zero => exact within.elim
    | succ n =>
      cases m with
      | zero => exact absurd le (Nat.not_succ_le_zero n)
      | succ m => exact ih (Nat.le_of_succ_le_succ le) within
  | access a next ih | read next ih =>
    cases n with
    | zero => exact within.elim
    | succ n =>
      cases m with
      | zero => exact absurd le (Nat.not_succ_le_zero n)
      | succ m => exact fun x => ih x (Nat.le_of_succ_le_succ le) (within x)

/-- Every thread follows the discipline, and the mutex is with the one that thinks so. -/
def Disciplined (good : A → R → Prop) (s : System M A R T) : Prop :=
  ∀ t, ∃ held, (held = true ↔ s.lock = some t) ∧ Follows good held (s.prog t)

/-- The thread has the mutex and will not give it back; the others follow the discipline. -/
structure Doomed (good : A → R → Prop) (t : T) (s : System M A R T) : Prop where
  holds : s.lock = some t
  sticks : Sticks (s.prog t)
  others : ∀ u, u ≠ t → Follows good false (s.prog u)

/-- The answer is good, if the thread's next command is an access. -/
def Fine (good : A → R → Prop) (s : System M A R T) (t : T) (answer : R) : Prop :=
  match s.prog t with
  | .access a _ => good a answer
  | _ => True

section Steps

variable [DecidableEq T] {good : A → R → Prop} {s : System M A R T} {t : T}

variable {p : Prog M A R}

theorem disciplined_put (disciplined : Disciplined good s) {held : Bool}
    (holds : held = true ↔ s.lock = some t) (follows : Follows good held p) :
    Disciplined good (s.put t p) := by
  intro u
  by_cases same : u = t
  · subst same
    exact ⟨held, holds, by rwa [put_self]⟩
  · obtain ⟨held, holds, follows⟩ := disciplined u
    exact ⟨held, holds, by rwa [put_other s same]⟩

theorem disciplined_go (disciplined : Disciplined good s) (answer : R)
    (fine : Fine good s t answer) : Disciplined good (go t answer s) := by
  obtain ⟨held, holds, follows⟩ := disciplined t
  unfold go
  unfold Fine at fine
  cases here : s.prog t with
  | done => exact disciplined
  | lock next =>
    rw [here] at follows
    dsimp only
    split
    · rename_i free
      intro u
      by_cases same : u = t
      · subst same
        exact ⟨true, by simp [System.put], by rw [put_self]; exact follows.2⟩
      · obtain ⟨heldToo, holdsToo, followsToo⟩ := disciplined u
        have unlocked : s.lock = none := Option.isNone_iff_eq_none.mp free
        refine ⟨heldToo, ?_, by rwa [put_other _ same]⟩
        rw [holdsToo, unlocked]
        exact iff_of_false nofun fun taken => same (Option.some.inj taken).symm
    · exact disciplined
  | unlock next =>
    rw [here] at follows
    intro u
    by_cases same : u = t
    · subst same
      exact ⟨false, by simp [System.put], by rw [put_self]; exact follows.2⟩
    · obtain ⟨heldToo, holdsToo, followsToo⟩ := disciplined u
      have mine : s.lock = some t := holds.mp follows.1
      refine ⟨heldToo, ?_, by rwa [put_other _ same]⟩
      rw [holdsToo, mine]
      exact iff_of_false (fun taken => same (Option.some.inj taken).symm) nofun
  | access a next =>
    rw [here] at follows fine
    exact disciplined_put disciplined holds ((follows answer).1 fine)
  | update change next =>
    rw [here] at follows
    exact disciplined_put (s := { s with mem := change s.mem }) disciplined holds follows
  | read next =>
    rw [here] at follows
    exact disciplined_put disciplined holds (follows s.mem)
  | schedule next =>
    rw [here] at follows
    exact disciplined_put (s := { s with scheduled := true }) disciplined holds follows

theorem disciplined_start (disciplined : Disciplined good s) (idle : s.prog t = .done)
    (follows : Follows good false p) : Disciplined good (s.put t p) := by
  obtain ⟨held, holds, follows'⟩ := disciplined t
  rw [idle] at follows'
  refine disciplined_put disciplined ?_ follows
  rw [← holds, show held = false from follows']

theorem doomed_of_not_fine (disciplined : Disciplined good s) {answer : R}
    (bad : ¬ Fine good s t answer) : Doomed good t (go t answer s) := by
  obtain ⟨held, holds, follows⟩ := disciplined t
  unfold Fine at bad
  cases here : s.prog t with
  | access a next =>
    rw [here] at bad follows
    obtain ⟨taken, sticks⟩ := (follows answer).2 bad
    have mine : s.lock = some t := holds.mp taken
    have step : go t answer s = s.put t (next answer) := by rw [go, here]
    rw [step]
    refine ⟨mine, by rwa [put_self], fun u other => ?_⟩
    obtain ⟨heldToo, holdsToo, followsToo⟩ := disciplined u
    have free : heldToo = false := by
      rw [← Bool.not_eq_true, holdsToo, mine]
      exact fun taken => other (Option.some.inj taken).symm
    rw [put_other s other]
    exact free ▸ followsToo
  | done | lock | unlock | update | read | schedule =>
    rw [here] at bad
    exact absurd trivial bad

theorem doomed_put (doomed : Doomed good t s) {u : T} (sticks : u = t → Sticks p)
    (follows : u ≠ t → Follows good false p) : Doomed good t (s.put u p) := by
  refine ⟨doomed.holds, ?_, fun v other => ?_⟩
  · by_cases same : t = u
    · subst same
      rw [put_self]
      exact sticks rfl
    · rw [put_other s same]
      exact doomed.sticks
  · by_cases same : v = u
    · subst same
      rw [put_self]
      exact follows other
    · rw [put_other s same]
      exact doomed.others v other

theorem doomed_start (doomed : Doomed good t s) (u : T) (follows : Follows good false p) :
    Doomed good t (s.put u p) :=
  doomed_put doomed (fun _ => sticks_of_follows follows) fun _ => follows

theorem doomed_go (doomed : Doomed good t s) (u : T) (answer : R) :
    Doomed good t (go u answer s) := by
  have sticks : u = t → Sticks (s.prog u) := fun same => same ▸ doomed.sticks
  have follows : u ≠ t → Follows good false (s.prog u) := doomed.others u
  unfold go
  cases here : s.prog u with
  | done => exact doomed
  | lock next =>
    have taken : s.lock.isNone = false := by rw [doomed.holds]; rfl
    dsimp only
    rw [taken]
    exact doomed
  | unlock next =>
    rw [here] at sticks follows
    by_cases same : u = t
    · exact (sticks same).elim
    · exact absurd (follows same).1 Bool.false_ne_true
  | access a next =>
    rw [here] at sticks follows
    refine doomed_put doomed (fun same => sticks same answer) fun other => ?_
    by_cases fine : good a answer
    · exact (follows other answer).1 fine
    · exact absurd ((follows other answer).2 fine).1 Bool.false_ne_true
  | update change next =>
    rw [here] at sticks follows
    have changed : Doomed good t { s with mem := change s.mem } :=
      ⟨doomed.holds, doomed.sticks, doomed.others⟩
    exact doomed_put changed sticks follows
  | read next =>
    rw [here] at sticks follows
    exact doomed_put doomed (fun same => sticks same s.mem) fun other => follows other s.mem
  | schedule next =>
    rw [here] at sticks follows
    have scheduled : Doomed good t { s with scheduled := true } :=
      ⟨doomed.holds, doomed.sticks, doomed.others⟩
    exact doomed_put scheduled sticks follows

end Steps

def Ending (s : System M A R T) : Prop := ∀ t, ∃ n, Within n (s.prog t)

/-- The work is scheduled, or this thread is going to. -/
def WillSchedule (t : T) (s : System M A R T) : Prop := s.scheduled = true ∨ Schedules (s.prog t)

section Done

variable [DecidableEq T] {s : System M A R T} {t : T}

variable {p : Prog M A R}

theorem ending_put (ending : Ending s) {n : Nat} (within : Within n p) : Ending (s.put t p) := by
  intro u
  by_cases same : u = t
  · subst same
    exact ⟨n, by rwa [put_self]⟩
  · rw [put_other s same]
    exact ending u

theorem ending_go (ending : Ending s) (answer : R) : Ending (go t answer s) := by
  obtain ⟨n, within⟩ := ending t
  unfold go
  cases here : s.prog t with
  | done => exact ending
  | lock next =>
    rw [here] at within
    cases n with
    | zero => exact within.elim
    | succ n =>
      dsimp only
      split
      · exact ending_put (s := { s with lock := some t }) ending within
      · exact ending
  | unlock next =>
    rw [here] at within
    cases n with
    | zero => exact within.elim
    | succ n => exact ending_put (s := { s with lock := none }) ending within
  | access a next =>
    rw [here] at within
    cases n with
    | zero => exact within.elim
    | succ n => exact ending_put ending (within answer)
  | update change next =>
    rw [here] at within
    cases n with
    | zero => exact within.elim
    | succ n => exact ending_put (s := { s with mem := change s.mem }) ending within
  | read next =>
    rw [here] at within
    cases n with
    | zero => exact within.elim
    | succ n => exact ending_put ending (within s.mem)
  | schedule next =>
    rw [here] at within
    cases n with
    | zero => exact within.elim
    | succ n => exact ending_put (s := { s with scheduled := true }) ending within

theorem willSchedule_put {u : T} (will : WillSchedule t s)
    (same : u = t → Schedules (s.prog u) → Schedules p) : WillSchedule t (s.put u p) := by
  refine will.imp id fun schedules => ?_
  by_cases mine : t = u
  · subst mine
    rw [put_self]
    exact same rfl schedules
  · rwa [put_other s mine]

theorem willSchedule_go (will : WillSchedule t s) (u : T) (answer : R) :
    WillSchedule t (go u answer s) := by
  unfold go
  cases here : s.prog u with
  | done => exact will
  | lock next =>
    dsimp only
    split
    · refine willSchedule_put (s := { s with lock := some u }) will fun _ schedules => ?_
      rwa [show s.prog u = _ from here] at schedules
    · exact will
  | unlock next =>
    refine willSchedule_put (s := { s with lock := none }) will fun _ schedules => ?_
    rwa [show s.prog u = _ from here] at schedules
  | access a next =>
    refine willSchedule_put will fun _ schedules => ?_
    rw [here] at schedules
    exact schedules answer
  | update change next =>
    refine willSchedule_put (s := { s with mem := change s.mem }) will fun _ schedules => ?_
    rwa [show s.prog u = _ from here] at schedules
  | read next =>
    refine willSchedule_put will fun _ schedules => ?_
    rw [here] at schedules
    exact schedules s.mem
  | schedule next => exact .inl rfl

end Done

/-- The thread is in a program, and does not wait for the mutex. -/
def CanGo (s : System M A R T) (t : T) : Prop :=
  match s.prog t with
  | .done => False
  | .lock _ => s.lock = none
  | _ => True

def AtRest (s : System M A R T) : Prop := ∀ t, ¬ CanGo s t

def Idle (s : System M A R T) : Prop := ∀ t, s.prog t = .done

/-- The mutex is with no one who is not in a program, and whoever waits for it waits for one who
can go on. -/
structure Available (s : System M A R T) : Prop where
  free : Idle s → s.lock = none
  awaited : ∀ t, s.prog t ≠ .done → ¬ CanGo s t → ∃ u, s.lock = some u ∧ CanGo s u

variable {good : A → R → Prop} {s : System M A R T}

theorem canGo_of_holds (disciplined : Disciplined good s) (holds : s.lock = some t) :
    CanGo s t := by
  obtain ⟨held, mine, follows⟩ := disciplined t
  have taken : held = true := mine.mpr holds
  rw [taken] at follows
  unfold CanGo
  cases here : s.prog t with
  | done =>
    rw [here] at follows
    exact absurd follows.symm Bool.false_ne_true
  | lock next =>
    rw [here] at follows
    exact absurd follows.1.symm Bool.false_ne_true
  | unlock | access | update | read | schedule => trivial

theorem available_of_disciplined (disciplined : Disciplined good s) : Available s := by
  constructor
  · intro idle
    cases locked : s.lock with
    | none => rfl
    | some t =>
      have can := canGo_of_holds disciplined locked
      rw [CanGo, idle t] at can
      exact can.elim
  · intro t busy waits
    unfold CanGo at waits
    cases here : s.prog t with
    | done => exact absurd here busy
    | lock next =>
      rw [here] at waits
      obtain ⟨u, holds⟩ := Option.ne_none_iff_exists'.mp waits
      exact ⟨u, holds, canGo_of_holds disciplined holds⟩
    | unlock | access | update | read | schedule =>
      rw [here] at waits
      exact absurd trivial waits

theorem not_available_of_doomed (doomed : Doomed good t s) (rest : AtRest s) : ¬ Available s := by
  intro available
  have idle : Idle s := by
    intro u
    by_contra busy
    obtain ⟨v, -, can⟩ := available.awaited u busy (rest u)
    exact rest v can
  have taken := doomed.holds
  rw [available.free idle] at taken
  cases taken

end OpenwrtSource.Lib.Mutex
