import Mathlib.Data.List.Count
import OpenwrtSource.Lib.Run

/-!
# Registration of the conntrack event callback

The expression module counts its expressions in one global counter and
registers its callback in the namespace in which the counter leaves zero.  The
ecache of conntrack has one callback pointer for each namespace, or a chain of
callbacks when the kernel is built with CONFIG_NF_CONNTRACK_CHAIN_EVENTS.
-/

namespace OpenwrtSource.Fullcone.NotifierLifeCycle

open Lib.Run

variable {Net : Type} [DecidableEq Net]

structure Config where
  chainEvents : Bool

/-- Where the module's callback and where a callback of somebody else is registered. -/
structure Ecache (Net : Type) where
  ours : Net → Bool
  foreign : Net → Bool

/-- `exprs` lists the namespaces of the expressions that exist. -/
structure State (Net : Type) where
  ecache : Ecache Net
  moduleReferCount : Int
  ctEventNotifierRegistered : Bool
  exprs : List Net

def EEXIST : Int := 17

/-- The chain refuses a notifier that it has; a single pointer is overwritten. -/
def registerNotifier (config : Config) (net : Net) (e : Ecache Net) : Int × Ecache Net :=
  if config.chainEvents then
    if e.ours net then (-EEXIST, e)
    else (0, { e with ours := Function.update e.ours net true })
  else
    (0, { ours := Function.update e.ours net true
          foreign := Function.update e.foreign net false })

def unregisterNotifier (config : Config) (net : Net) (e : Ecache Net) : Ecache Net :=
  if config.chainEvents then { e with ours := Function.update e.ours net false }
  else
    { ours := Function.update e.ours net false
      foreign := Function.update e.foreign net false }

/-- `nft_fullcone_init`; `err` is the answer of `nf_ct_netns_get`, and it is returned. -/
def nftFullconeInit (config : Config) (net : Net) (err : Int) (s : State Net) :
    Int × State Net :=
  let s : State Net := { s with moduleReferCount := s.moduleReferCount + 1 }
  if s.moduleReferCount = 1 then
    let (ret, ecache) :=
      if config.chainEvents then registerNotifier config net s.ecache
      else if !(s.ecache.ours net || s.ecache.foreign net) then
        registerNotifier config net s.ecache
      else (0, s.ecache)
    if ret ≠ 0 then (err, { s with ecache := ecache })
    else (err, { s with ecache := ecache, ctEventNotifierRegistered := true })
  else (err, s)

def nftFullconeCommonDestroy (config : Config) (net : Net) (s : State Net) : State Net :=
  let s : State Net := { s with moduleReferCount := s.moduleReferCount - 1 }
  if s.moduleReferCount = 0 then
    if s.ctEventNotifierRegistered then
      { s with
        ecache := unregisterNotifier config net s.ecache
        ctEventNotifierRegistered := false }
    else s
  else s

inductive Event (Net : Type) where
  | init (net : Net) (err : Int)
  | destroy (net : Net)
  | foreignRegisters (net : Net)
  | foreignUnregisters (net : Net)

/-- nf_tables keeps an expression when its `init` did not fail, and destroys
only an expression that it has. -/
def step (config : Config) (s : State Net) : Event Net → State Net
  | .init net err =>
    let (ret, s) := nftFullconeInit config net err s
    if ret < 0 then s else { s with exprs := net :: s.exprs }
  | .destroy net =>
    if net ∈ s.exprs then
      { nftFullconeCommonDestroy config net s with exprs := s.exprs.erase net }
    else s
  | .foreignRegisters net =>
    { s with ecache :=
      { ours := if config.chainEvents then s.ecache.ours
          else Function.update s.ecache.ours net false
        foreign := Function.update s.ecache.foreign net true } }
  | .foreignUnregisters net =>
    { s with ecache :=
      { ours := if config.chainEvents then s.ecache.ours
          else Function.update s.ecache.ours net false
        foreign := Function.update s.ecache.foreign net false } }

/-- The module is loaded while others may have their callbacks registered. -/
def State.loaded (foreign : Net → Bool) : State Net :=
  { ecache := { ours := fun _ => false, foreign := foreign }
    moduleReferCount := 0
    ctEventNotifierRegistered := false
    exprs := [] }

/-- A foreign callback keeps the module's one out, which a chain never does. -/
def Ecache.Occupied (config : Config) (e : Ecache Net) (net : Net) : Prop :=
  config.chainEvents = false ∧ e.foreign net = true

instance (config : Config) (e : Ecache Net) (net : Net) : Decidable (e.Occupied config net) :=
  inferInstanceAs (Decidable (_ ∧ _))

/-- The callback is registered where an expression is and nobody else is, and
nowhere when there is no expression. -/
def Follows (config : Config) (s : State Net) : Prop :=
  (∀ net, s.ecache.ours net = true ↔ net ∈ s.exprs ∧ ¬ s.ecache.Occupied config net) ∧
    (s.exprs = [] → ∀ net, s.ecache.ours net = false)

/-- An init goes well when it is the first call of all or when its namespace is
served already, and fails well when the counter had left zero before; a destroy
goes well when it brings the counter to zero or another expression of its
namespace stays. -/
def Kept (config : Config) (s : State Net) : Event Net → Prop
  | .init net err =>
    if err < 0 then s.moduleReferCount ≠ 0 ∨ s.ecache.Occupied config net
    else s.moduleReferCount = 0 ∨ net ∈ s.exprs ∨ s.ecache.Occupied config net
  | .destroy net =>
    s.moduleReferCount = 1 ∨ s.exprs.count net ≠ 1 ∨ s.ecache.Occupied config net
  | .foreignRegisters _ => True
  | .foreignUnregisters net => config.chainEvents = true ∨ net ∉ s.exprs

structure Inv (config : Config) (s : State Net) : Prop where
  counted : (s.exprs.length : Int) ≤ s.moduleReferCount
  registered : s.ctEventNotifierRegistered = true ↔ 0 < s.moduleReferCount
  follows : Follows config s

variable (config : Config) (s : State Net)

omit [DecidableEq Net] in
theorem follows_iff :
    Follows config s ↔
      ∀ net, s.ecache.ours net = true ↔ net ∈ s.exprs ∧ ¬ s.ecache.Occupied config net := by
  constructor
  · exact fun follows => follows.1
  · intro each
    refine ⟨each, ?_⟩
    intro none_left net
    rw [← Bool.not_eq_true, each net, none_left]
    simp

theorem init_counted (net : Net) (err : Int) (s : State Net) (counted : s.moduleReferCount ≠ 0) :
    nftFullconeInit config net err s =
      (err, { s with moduleReferCount := s.moduleReferCount + 1 }) := by
  have later : s.moduleReferCount + 1 ≠ 1 := by omega
  simp only [nftFullconeInit, later, if_false]

theorem init_first (net : Net) (err : Int) (s : State Net) (first : s.moduleReferCount = 0)
    (absent : s.ecache.ours net = false) :
    nftFullconeInit config net err s =
      (err, { s with
        ecache := { s.ecache with
          ours := if s.ecache.Occupied config net then s.ecache.ours
            else Function.update s.ecache.ours net true }
        moduleReferCount := 1
        ctEventNotifierRegistered := true }) := by
  cases chain : config.chainEvents with
  | true =>
    simp [nftFullconeInit, first, registerNotifier, chain, absent, Ecache.Occupied]
  | false =>
    cases other : s.ecache.foreign net with
    | true =>
      simp [nftFullconeInit, first, chain, absent, other, Ecache.Occupied]
    | false =>
      have same : Function.update s.ecache.foreign net false = s.ecache.foreign := by
        rw [← other]
        exact Function.update_eq_self net s.ecache.foreign
      simp [nftFullconeInit, first, registerNotifier, chain, absent, other,
        Ecache.Occupied, same]

theorem destroy_counted (net : Net) (s : State Net) (counted : s.moduleReferCount ≠ 1) :
    nftFullconeCommonDestroy config net s =
      { s with moduleReferCount := s.moduleReferCount - 1 } := by
  have later : s.moduleReferCount - 1 ≠ 0 := by omega
  simp only [nftFullconeCommonDestroy, later, if_false]

theorem destroy_last (net : Net) (s : State Net) (last : s.moduleReferCount = 1)
    (registered : s.ctEventNotifierRegistered = true) :
    nftFullconeCommonDestroy config net s =
      { s with
        ecache := unregisterNotifier config net s.ecache
        moduleReferCount := 0
        ctEventNotifierRegistered := false } := by
  simp [nftFullconeCommonDestroy, last, registered]

@[simp] theorem unregisterNotifier_ours (net : Net) (e : Ecache Net) :
    (unregisterNotifier config net e).ours = Function.update e.ours net false := by
  unfold unregisterNotifier
  split <;> rfl

section Steps

variable {config : Config} {s : State Net}

omit [DecidableEq Net] in
theorem Inv.idle (inv : Inv config s) (zero : s.moduleReferCount = 0) :
    s.exprs = [] ∧ ∀ net, s.ecache.ours net = false := by
  have none_left : s.exprs = [] := by
    have counted := inv.counted
    rw [← List.length_eq_zero_iff]
    omega
  exact ⟨none_left, inv.follows.2 none_left⟩

omit [DecidableEq Net] in
theorem Inv.ours_iff (inv : Inv config s) (net : Net) :
    s.ecache.ours net = true ↔ net ∈ s.exprs ∧ ¬ s.ecache.Occupied config net :=
  inv.follows.1 net

theorem Inv.step_init (inv : Inv config s) (net : Net) (err : Int) :
    step config s (.init net err) =
      { ecache := if s.moduleReferCount = 0 then
            { s.ecache with
              ours := if s.ecache.Occupied config net then s.ecache.ours
                else Function.update s.ecache.ours net true }
          else s.ecache
        moduleReferCount := s.moduleReferCount + 1
        ctEventNotifierRegistered := true
        exprs := if err < 0 then s.exprs else net :: s.exprs } := by
  by_cases first : s.moduleReferCount = 0
  · simp only [step, init_first config net err s first ((inv.idle first).2 net), first, if_true]
    split <;> simp
  · have registered : s.ctEventNotifierRegistered = true := by
      have counted := inv.counted
      rw [inv.registered]
      omega
    simp only [step, init_counted config net err s first, first, if_false, registered]
    split <;> simp

theorem Inv.step_destroy (inv : Inv config s) {net : Net} (exists_ : net ∈ s.exprs) :
    step config s (.destroy net) =
      { ecache := if s.moduleReferCount = 1 then unregisterNotifier config net s.ecache
          else s.ecache
        moduleReferCount := s.moduleReferCount - 1
        ctEventNotifierRegistered := decide (s.moduleReferCount ≠ 1)
        exprs := s.exprs.erase net } := by
  have positive := List.length_pos_of_mem exists_
  have counted := inv.counted
  have registered : s.ctEventNotifierRegistered = true := by
    rw [inv.registered]
    omega
  by_cases last : s.moduleReferCount = 1
  · simp [step, exists_, destroy_last config net s last registered, last]
  · simp [step, exists_, destroy_counted config net s last, last, registered]

theorem mem_erase_of_count {net : Net} (exprs : List Net) :
    net ∈ exprs.erase net ↔ 2 ≤ exprs.count net := by
  rw [← List.count_pos_iff, List.count_erase_self]
  omega

theorem Inv.follows_init (inv : Inv config s) (net : Net) (err : Int) :
    Follows config (step config s (.init net err)) ↔ Kept config s (.init net err) := by
  rw [follows_iff, inv.step_init]
  simp only [Kept]
  by_cases first : s.moduleReferCount = 0
  · obtain ⟨none_left, nowhere⟩ := inv.idle first
    simp only [first, if_true, none_left, ne_eq, not_true_eq_false, false_or, true_or]
    by_cases occupied : s.ecache.Occupied config net
    · simp only [occupied, if_true, nowhere]
      split
      · simp
      · refine iff_of_true ?_ trivial
        intro n
        simp only [Bool.false_eq_true, List.mem_singleton, false_iff, not_and, not_not]
        rintro rfl
        exact occupied
    · simp only [occupied, if_false]
      split
      · refine iff_of_false ?_ not_false
        intro each
        have here := (each net).mp (by simp)
        exact absurd here.1 (by simp)
      · refine iff_of_true ?_ trivial
        intro n
        by_cases own : n = net
        · subst own
          simpa [Ecache.Occupied] using occupied
        · simp [nowhere, own]
  · simp only [first, if_false, ne_eq, not_false_eq_true, true_or, false_or]
    split
    · exact iff_of_true inv.ours_iff trivial
    · constructor
      · intro each
        by_contra unserved
        simp only [not_or] at unserved
        exact unserved.1 ((inv.ours_iff net).mp ((each net).mpr ⟨by simp, unserved.2⟩)).1
      · intro served n
        rw [inv.ours_iff n]
        by_cases own : n = net
        · subst own
          simp only [List.mem_cons, true_or, true_and, and_iff_right_iff_imp]
          exact served.resolve_right
        · simp [own]

theorem Inv.follows_destroy (inv : Inv config s) (net : Net) :
    Follows config (step config s (.destroy net)) ↔ Kept config s (.destroy net) := by
  by_cases member : net ∈ s.exprs
  · rw [follows_iff, inv.step_destroy member]
    simp only [Kept]
    by_cases last : s.moduleReferCount = 1
    · have alone : s.exprs = [net] := by
        have counted := inv.counted
        have one : s.exprs.length = 1 := by
          have positive := List.length_pos_of_mem member
          omega
        obtain ⟨other, list⟩ := List.length_eq_one_iff.mp one
        rw [list, List.mem_singleton] at member
        rw [list, member]
      refine iff_of_true ?_ (.inl last)
      intro n
      simp only [last, if_true, unregisterNotifier_ours, alone, List.erase_cons_head,
        List.not_mem_nil, false_and, iff_false, Bool.not_eq_true]
      by_cases own : n = net
      · rw [own, Function.update_self]
      · rw [Function.update_of_ne own, ← Bool.not_eq_true, inv.ours_iff n, alone]
        simp [own]
    · simp only [last, if_false, false_or]
      have here : 0 < s.exprs.count net := List.count_pos_iff.mpr member
      constructor
      · intro each
        by_contra lost
        simp only [not_or, not_not] at lost
        have kept := ((each net).mp ((inv.ours_iff net).mpr ⟨member, lost.2⟩)).1
        rw [mem_erase_of_count] at kept
        omega
      · intro served n
        rw [inv.ours_iff n]
        by_cases own : n = net
        · subst own
          rw [mem_erase_of_count]
          constructor
          · rintro ⟨-, free⟩
            have others := served.resolve_right free
            exact ⟨by omega, free⟩
          · rintro ⟨-, free⟩
            exact ⟨member, free⟩
        · rw [List.mem_erase_of_ne own]
  · have absent : s.exprs.count net ≠ 1 := by
      rw [List.count_eq_zero_of_not_mem member]
      decide
    refine iff_of_true ?_ (.inr (.inl absent))
    simpa only [step, member, if_false] using inv.follows

theorem Inv.follows_foreign (inv : Inv config s) (net : Net) :
    Follows config (step config s (.foreignRegisters net)) ∧
      (Follows config (step config s (.foreignUnregisters net)) ↔
        Kept config s (.foreignUnregisters net)) := by
  have each := inv.ours_iff
  rw [follows_iff, follows_iff]
  cases chain : config.chainEvents with
  | true =>
    simp only [Ecache.Occupied, chain, Bool.true_eq_false, false_and, not_false_eq_true,
      and_true] at each
    simp only [step, chain, if_true, Ecache.Occupied, Bool.true_eq_false, false_and,
      not_false_eq_true, and_true, Kept, true_or, iff_true]
    exact ⟨each, each⟩
  | false =>
    simp only [Ecache.Occupied, chain, true_and] at each
    simp only [step, chain, Bool.false_eq_true, if_false, Ecache.Occupied, true_and, Kept,
      false_or]
    refine ⟨?_, ?_⟩
    · intro n
      by_cases own : n = net
      · subst own
        simp
      · simpa [Function.update_of_ne own] using each n
    · constructor
      · intro after member
        simpa [member] using after net
      · intro absent n
        by_cases own : n = net
        · subst own
          simpa using absent
        · simpa [Function.update_of_ne own] using each n

theorem Inv.follows_step (inv : Inv config s) (event : Event Net) :
    Follows config (step config s event) ↔ Kept config s event := by
  cases event with
  | init net err => exact inv.follows_init net err
  | destroy net => exact inv.follows_destroy net
  | foreignRegisters net => exact iff_of_true (inv.follows_foreign net).1 trivial
  | foreignUnregisters net => exact (inv.follows_foreign net).2

theorem Inv.counted_step (inv : Inv config s) (event : Event Net) :
    ((step config s event).exprs.length : Int) ≤ (step config s event).moduleReferCount ∧
      ((step config s event).ctEventNotifierRegistered = true ↔
        0 < (step config s event).moduleReferCount) := by
  have counted := inv.counted
  cases event with
  | init net err =>
    rw [inv.step_init]
    have room : (if err < 0 then s.exprs else net :: s.exprs).length ≤ s.exprs.length + 1 := by
      split <;> simp
    simp only [true_iff]
    omega
  | destroy net =>
    by_cases member : net ∈ s.exprs
    · have positive := List.length_pos_of_mem member
      rw [inv.step_destroy member]
      simp only [List.length_erase_of_mem member, decide_eq_true_eq]
      omega
    · simp only [step, member, if_false]
      exact ⟨counted, inv.registered⟩
  | foreignRegisters net => exact ⟨counted, inv.registered⟩
  | foreignUnregisters net => exact ⟨counted, inv.registered⟩

theorem Inv.step (inv : Inv config s) {event : Event Net} (kept : Kept config s event) :
    Inv config (step config s event) :=
  ⟨(inv.counted_step event).1, (inv.counted_step event).2, (inv.follows_step event).mpr kept⟩

end Steps

omit [DecidableEq Net] in
theorem inv_loaded (foreign : Net → Bool) : Inv config (State.loaded foreign) := by
  refine ⟨by simp [State.loaded], by simp [State.loaded], ?_⟩
  rw [follows_iff]
  simp [State.loaded]

/-- The callback follows the expressions in every state of a run exactly when
every call of the run is a good one. -/
theorem notifier_follows_iff (config : Config) (foreign : Net → Bool)
    (events : List (Event Net)) :
    (∀ n, Follows config (run (step config) (State.loaded foreign) (events.take n))) ↔
      Along (step config) (Kept config) (State.loaded foreign) events := by
  apply always_iff_along (step config) (Kept config) (Inv config) (Follows config)
  · intro state inv
    exact inv.follows
  · intro state event inv kept
    exact inv.step kept
  · intro state event inv lost follows
    exact lost ((inv.follows_step event).mp follows)
  · exact inv_loaded config foreign

/-- Two namespaces with an expression each: the second has no callback. -/
theorem notifier_lost_secondNet :
    ¬ ∀ config n, Follows config (run (step config) (State.loaded fun _ => false)
      (([.init 0 0, .init 1 0] : List (Event Nat)).take n)) := by
  intro always
  have here := (always { chainEvents := false } 2).1 1
  simp [run, step, nftFullconeInit, registerNotifier, State.loaded, Ecache.Occupied] at here

end OpenwrtSource.Fullcone.NotifierLifeCycle

/-!
# An expression init that fails

`nft_fullcone_init` asks conntrack for its hooks first, and looks at the answer
only to return it: the module's counter and, where it leaves zero, the
registration of the callback are behind the answer, whatever it is.
-/

namespace OpenwrtSource.Fullcone.FailedInit

open Fullcone.NotifierLifeCycle

abbrev NfProto := BitVec 8

def NFPROTO_IPV4 : NfProto := 2

/-- What an init may change: the module's globals and the usage counters of
conntrack, which only conntrack itself looks into. -/
structure Globals (Net Usage : Type) where
  module : State Net
  usage : Usage

/-- `nf_ct_netns_get`, of conntrack. -/
abbrev NfCtNetnsGet (Net Usage : Type) := Net → NfProto → Usage → Int × Usage

def Failed (ret : Int) : Prop := ret < 0

instance (ret : Int) : Decidable (Failed ret) := inferInstanceAs (Decidable (_ < _))

section

variable {Net Usage : Type} [DecidableEq Net]

def exprInit (nfCtNetnsGet : NfCtNetnsGet Net Usage) (config : Config) (net : Net)
    (family : NfProto) (g : Globals Net Usage) : Int × Globals Net Usage :=
  let (err, usage) := nfCtNetnsGet net family g.usage
  let (ret, module) := nftFullconeInit config net err g.module
  (ret, { module, usage })

/-- The registration as conntrack has it and as the module remembers it. -/
def Globals.notifier (g : Globals Net Usage) : Ecache Net × Bool :=
  (g.module.ecache, g.module.ctEventNotifierRegistered)

variable (nfCtNetnsGet : NfCtNetnsGet Net Usage) (config : Config) (net : Net) (family : NfProto)
  (g : Globals Net Usage)

theorem exprInit_ret : (exprInit nfCtNetnsGet config net family g).1 =
    (nfCtNetnsGet net family g.usage).1 := by
  unfold exprInit nftFullconeInit
  dsimp only
  repeat' split
  all_goals rfl

theorem exprInit_counts : (exprInit nfCtNetnsGet config net family g).2.module.moduleReferCount =
    g.module.moduleReferCount + 1 := by
  unfold exprInit nftFullconeInit
  dsimp only
  repeat' split
  all_goals rfl

/-- Counter, registration and usage as before the call. -/
structure Unchanged (before after : Globals Net Usage) : Prop where
  counter : after.module.moduleReferCount = before.module.moduleReferCount
  notifier : after.notifier = before.notifier
  usage : after.usage = before.usage

/-- An init is atomic exactly when conntrack does not let it fail. -/
theorem init_atomic_iff :
    (Failed (exprInit nfCtNetnsGet config net family g).1 →
        Unchanged g (exprInit nfCtNetnsGet config net family g).2) ↔
      ¬ Failed (nfCtNetnsGet net family g.usage).1 := by
  rw [exprInit_ret]
  constructor
  · intro atomic failed
    have kept := (atomic failed).counter
    rw [exprInit_counts] at kept
    omega
  · intro succeeded failed
    exact absurd failed succeeded

end

def ENOMEM : Int := 12

def noMemory : NfCtNetnsGet Unit Nat := fun _ _ usage => (-ENOMEM, usage)

/-- The first init of all fails, and leaves the counter at one. -/
theorem init_not_atomic_noMemory : ¬
    (Failed (exprInit noMemory ⟨false⟩ () NFPROTO_IPV4 ⟨State.loaded fun _ => false, 0⟩).1 →
      Unchanged ⟨State.loaded fun _ => false, 0⟩
        (exprInit noMemory ⟨false⟩ () NFPROTO_IPV4 ⟨State.loaded fun _ => false, 0⟩).2) := by
  intro atomic
  have kept := (atomic (by decide)).counter
  exact absurd kept (by decide)

end OpenwrtSource.Fullcone.FailedInit
