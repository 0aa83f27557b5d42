import Mathlib.Data.List.Basic
import Mathlib.Data.List.Count
import Mathlib.Data.List.Perm.Basic
import Mathlib.Logic.Function.Basic

/-!
# Slots owned by the members of a list

A table of slots is shared by a list of owners.  The slots in use are accounted
for when each of them is held by an owner and no slot is held by two.  An
operation on one owner keeps the account if it is a transfer: it takes free
slots only, frees what it gives up and touches no other slot.
-/

namespace OpenwrtSource.Lib.Ownership

universe u v w
variable {O : Type u} {S : Type v} {σ : Type w}

structure Accounted (owns : O → S → Prop) (live : S → Prop) (owners : List O) : Prop where
  owned : ∀ slot, live slot ↔ ∃ owner ∈ owners, owns owner slot
  exclusive : owners.Pairwise fun a b => ∀ slot, owns a slot → ¬ owns b slot

/-- One owner's operation: what it held and holds, and what was and is live. -/
structure Transfer (live live' held held' : S → Prop) : Prop where
  takes : ∀ slot, held' slot → live' slot ∧ (held slot ∨ ¬ live slot)
  frees : ∀ slot, held slot → ¬ held' slot → ¬ live' slot
  frame : ∀ slot, ¬ held slot → ¬ held' slot → (live' slot ↔ live slot)

variable {live live' held held' : S → Prop} {owners : List O} {owner : O} {before : List O}
  {passes : O → Bool} {visit : O → σ → Option O × σ} {state : σ}

theorem Transfer.of_same (sameLive : live' = live) (sameHeld : held' = held)
    (holds : ∀ slot, held slot → live slot) : Transfer live live' held held' := by
  subst sameLive sameHeld
  exact ⟨fun slot holding => ⟨holds slot holding, Or.inl holding⟩,
    fun _ holding gone => absurd holding gone, fun _ _ _ => Iff.rfl⟩

theorem Transfer.trans {live'' held'' : S → Prop} (first : Transfer live live' held held')
    (second : Transfer live' live'' held' held'') : Transfer live live'' held held'' where
  takes := by
    intro slot holding
    obtain ⟨nowLive, before⟩ := second.takes slot holding
    refine ⟨nowLive, ?_⟩
    by_cases middle : held' slot
    · exact (first.takes slot middle).2
    · by_cases start : held slot
      · exact Or.inl start
      · have free := before.resolve_left middle
        exact Or.inr (fun wasLive => free ((first.frame slot start middle).mpr wasLive))
  frees := by
    intro slot start gone
    by_cases middle : held' slot
    · exact second.frees slot middle gone
    · have free := first.frees slot start middle
      exact fun nowLive => free ((second.frame slot middle gone).mp nowLive)
  frame := by
    intro slot start gone
    by_cases middle : held' slot
    · have wasFree := (first.takes slot middle).2.resolve_left start
      have nowFree := second.frees slot middle gone
      exact ⟨fun nowLive => absurd nowLive nowFree, fun wasLive => absurd wasLive wasFree⟩
    · exact (second.frame slot middle gone).trans (first.frame slot start middle)

theorem Transfer.congr_held {held'' : S → Prop} (transfer : Transfer live live' held held')
    (same : ∀ slot, held'' slot ↔ held' slot) : Transfer live live' held held'' := by
  obtain rfl : held'' = held' := funext fun slot => propext (same slot)
  exact transfer

variable {owns : O → S → Prop}

theorem Accounted.nil (unused : ∀ slot, ¬ live slot) : Accounted owns live [] where
  owned := by simpa using unused
  exclusive := List.Pairwise.nil

theorem Accounted.perm {owners' : List O} (accounted : Accounted owns live owners)
    (same : owners.Perm owners') : Accounted owns live owners' where
  owned := by
    intro slot
    rw [accounted.owned slot]
    exact ⟨fun ⟨owner, listed, holds⟩ => ⟨owner, same.mem_iff.mp listed, holds⟩,
      fun ⟨owner, listed, holds⟩ => ⟨owner, same.mem_iff.mpr listed, holds⟩⟩
  exclusive := by
    refine (same.pairwise_iff ?_).mp accounted.exclusive
    intro a b apart slot holdsB holdsA
    exact apart slot holdsA holdsB

theorem Accounted.live_of_owns (accounted : Accounted owns live owners) (listed : owner ∈ owners)
    {slot : S} (holds : owns owner slot) : live slot :=
  (accounted.owned slot).mpr ⟨owner, listed, holds⟩

theorem Accounted.cons_iff {rest : List O} :
    Accounted owns live (owner :: rest) ↔
      (∀ slot, live slot ↔ owns owner slot ∨ ∃ other ∈ rest, owns other slot) ∧
      (∀ other ∈ rest, ∀ slot, owns owner slot → ¬ owns other slot) ∧
      rest.Pairwise fun a b => ∀ slot, owns a slot → ¬ owns b slot := by
  constructor
  · intro accounted
    obtain ⟨apart, pairwise⟩ := List.pairwise_cons.mp accounted.exclusive
    exact ⟨fun slot => by simpa using accounted.owned slot, apart, pairwise⟩
  · rintro ⟨owned, apart, pairwise⟩
    exact ⟨fun slot => by simpa using owned slot, List.pairwise_cons.mpr ⟨apart, pairwise⟩⟩

theorem Accounted.replace_head {kept : Option O} {rest : List O}
    (accounted : Accounted owns live (owner :: rest))
    (transfer : Transfer live live' (owns owner) fun slot => ∃ o ∈ kept, owns o slot) :
    Accounted owns live' (kept.toList ++ rest) := by
  obtain ⟨owned, apart, pairwise⟩ := Accounted.cons_iff.mp accounted
  have others : ∀ slot, (∃ o ∈ kept, owns o slot) → ∀ other ∈ rest, ¬ owns other slot := by
    intro slot holding other listed holds
    obtain before | free := (transfer.takes slot holding).2
    · exact apart other listed slot before holds
    · exact free ((owned slot).mpr (Or.inr ⟨other, listed, holds⟩))
  have account : ∀ slot, live' slot ↔
      (∃ o ∈ kept, owns o slot) ∨ ∃ other ∈ rest, owns other slot := by
    intro slot
    by_cases now : ∃ o ∈ kept, owns o slot
    · exact ⟨fun _ => Or.inl now, fun _ => (transfer.takes slot now).1⟩
    · by_cases before : owns owner slot
      · have free := transfer.frees slot before now
        refine ⟨fun live => absurd live free, ?_⟩
        rintro (holding | ⟨other, listed, holds⟩)
        · exact absurd holding now
        · exact absurd holds (apart other listed slot before)
      · rw [transfer.frame slot before now, owned slot]
        exact or_congr (iff_of_false before now) Iff.rfl
  cases kept with
  | none => exact ⟨fun slot => by simpa using account slot, pairwise⟩
  | some owner' =>
    refine Accounted.cons_iff.mpr ⟨fun slot => by simpa using account slot, ?_, pairwise⟩
    intro other listed slot holds
    exact others slot ⟨owner', rfl, holds⟩ other listed

theorem Accounted.replace {after : List O} {kept : Option O}
    (accounted : Accounted owns live (before ++ owner :: after))
    (transfer : Transfer live live' (owns owner) fun slot => ∃ o ∈ kept, owns o slot) :
    Accounted owns live' (before ++ (kept.toList ++ after)) := by
  have front := accounted.perm List.perm_middle
  have replaced := front.replace_head transfer
  refine replaced.perm ?_
  rw [← List.append_assoc, ← List.append_assoc]
  exact List.Perm.append_right after List.perm_append_comm

theorem Accounted.enter (accounted : Accounted owns live owners)
    (idle : ∀ slot, ¬ owns owner slot) : Accounted owns live (owners ++ [owner]) := by
  refine Accounted.perm ?_ (List.perm_append_singleton owner owners).symm
  refine Accounted.cons_iff.mpr ⟨?_, fun _ _ slot holds => absurd holds (idle slot),
    accounted.exclusive⟩
  intro slot
  rw [accounted.owned slot]
  exact ⟨Or.inr, fun holds => holds.resolve_left (idle slot)⟩

/-- Every owner is visited once, in order, with a state threaded through. -/
def visitAll (visit : O → σ → O × σ) : List O → σ → List O × σ
  | [], state => ([], state)
  | owner :: rest, state =>
    let visited := visit owner state
    let others := visitAll visit rest visited.2
    (visited.1 :: others.1, others.2)

/-- The first owner that passes is visited, and leaves the list where the visit
returns none; without one there is no result. -/
def visitFirst (passes : O → Bool) (visit : O → σ → Option O × σ) :
    List O → σ → Option (List O × σ)
  | [], _ => none
  | owner :: rest, state =>
    if passes owner then
      let visited := visit owner state
      some (visited.1.toList ++ rest, visited.2)
    else (visitFirst passes visit rest state).map fun result => (owner :: result.1, result.2)

theorem visitFirst_some {owners' : List O} {state' : σ}
    (visited : visitFirst passes visit owners state = some (owners', state')) :
    ∃ before owner after, owners = before ++ owner :: after ∧
      owners.find? passes = some owner ∧
      owners' = before ++ ((visit owner state).1.toList ++ after) ∧
      state' = (visit owner state).2 := by
  induction owners generalizing owners' with
  | nil => cases visited
  | cons owner rest ih =>
    by_cases first : passes owner
    · simp only [visitFirst, first, if_true, Option.some.injEq, Prod.mk.injEq] at visited
      obtain ⟨rfl, rfl⟩ := visited
      exact ⟨[], owner, rest, rfl, by simp [first], rfl, rfl⟩
    · simp only [visitFirst, first, Bool.false_eq_true, if_false, Option.map_eq_some_iff,
        Prod.mk.injEq, Prod.exists] at visited
      obtain ⟨tail, last, found, rfl, rfl⟩ := visited
      obtain ⟨before, chosen, after, rfl, isFirst, rfl, rfl⟩ := ih found
      exact ⟨owner :: before, chosen, after, rfl, by simpa [first] using isFirst, rfl, rfl⟩

theorem visitFirst_none (missed : visitFirst passes visit owners state = none) :
    owners.find? passes = none := by
  induction owners with
  | nil => rfl
  | cons owner rest ih =>
    by_cases first : passes owner
    · simp [visitFirst, first] at missed
    · simp only [visitFirst, first, Bool.false_eq_true, if_false, Option.map_eq_none_iff] at missed
      simpa [first] using ih missed

theorem visitFirst_append (skipped : ∀ other ∈ before, passes other = false)
    (passed : passes owner = true) (after : List O) (state : σ) :
    visitFirst passes visit (before ++ owner :: after) state =
      some (before ++ ((visit owner state).1.toList ++ after), (visit owner state).2) := by
  induction before with
  | nil => simp [visitFirst, passed]
  | cons first rest ih =>
    have passedOver := skipped first (by simp)
    simp [visitFirst, passedOver, ih fun other listed => skipped other (by simp [listed])]

theorem visitFirst_eq_none (skipped : ∀ other ∈ owners, passes other = false) (state : σ) :
    visitFirst passes visit owners state = none := by
  induction owners with
  | nil => rfl
  | cons first rest ih =>
    have passedOver := skipped first (by simp)
    simp [visitFirst, passedOver, ih fun other listed => skipped other (by simp [listed])]

theorem mem_visitAll {visit : O → σ → O × σ} (member : owner ∈ (visitAll visit owners state).1) :
    ∃ before ∈ owners, ∃ state', owner = (visit before state').1 := by
  induction owners generalizing state with
  | nil => cases member
  | cons first rest ih =>
    obtain rfl | tail := List.mem_cons.mp member
    · exact ⟨first, by simp, state, rfl⟩
    · obtain ⟨before, listed, state', rfl⟩ := ih tail
      exact ⟨before, by simp [listed], state', rfl⟩

theorem getElem?_visitAll (visit : O → σ → O × σ) (owners : List O) (i : Nat) (state : σ) :
    (visitAll visit owners state).1[i]? =
      owners[i]?.map fun owner => (visit owner (visitAll visit (owners.take i) state).2).1 := by
  induction owners generalizing i state with
  | nil => rfl
  | cons owner rest ih =>
    cases i with
    | zero => rfl
    | succ i => exact ih i (visit owner state).2

theorem Accounted.apart {after : List O} {other : O}
    (accounted : Accounted owns live (before ++ owner :: after)) (listed : other ∈ before ++ after)
    {slot : S} (holds : owns other slot) : ¬ owns owner slot := by
  obtain ⟨_, apart, _⟩ := Accounted.cons_iff.mp (accounted.perm List.perm_middle)
  exact fun own => apart other listed slot own holds

theorem visitAll_focus {inv : List O → σ → Prop} {visit : O → σ → O × σ}
    (focus : ∀ owner ∈ owners, ∀ before after state, inv (before ++ owner :: after) state →
      inv (before ++ (visit owner state).1 :: after) (visit owner state).2) (done : List O)
    (state : σ) (holds : inv (done ++ owners) state) :
    inv (done ++ (visitAll visit owners state).1) (visitAll visit owners state).2 := by
  induction owners generalizing done state with
  | nil => exact holds
  | cons owner rest ih =>
    have first := focus owner (by simp) done rest state holds
    have visited := ih (fun other tail => focus other (by simp [tail]))
      (done ++ [(visit owner state).1]) (visit owner state).2 (by simpa using first)
    simpa [visitAll] using visited

end OpenwrtSource.Lib.Ownership

/-!
# Counted references and the slots that hold them

An object is kept alive by a count.  The account is right when the count of
every object is the number of slots that point to it: it stays so when a slot
is filled under a new reference, cleared with one given back, added or removed
while empty.
-/

namespace OpenwrtSource.Lib.Holders

universe u
variable {D : Type u} [DecidableEq D]

def hold (d : D) (refs : D → Int) : D → Int := Function.update refs d (refs d + 1)

def put (d : D) (refs : D → Int) : D → Int := Function.update refs d (refs d - 1)

theorem hold_apply (d other : D) (refs : D → Int) :
    hold d refs other = refs other + if d = other then 1 else 0 := by
  by_cases same : other = d
  · subst other
    simp [hold]
  · simp [hold, same, Ne.symm same]

theorem put_apply (d other : D) (refs : D → Int) :
    put d refs other = refs other - if d = other then 1 else 0 := by
  by_cases same : other = d
  · subst other
    simp [put]
  · simp [put, same, Ne.symm same]

def holdAll (ds : List D) (refs : D → Int) : D → Int := ds.foldr hold refs

theorem holdAll_apply (ds : List D) (refs : D → Int) (other : D) :
    holdAll ds refs other = refs other + (ds.count other : Int) := by
  induction ds with
  | nil => simp [holdAll]
  | cons d rest ih =>
    have later : (rest.foldr hold refs) other = refs other + (rest.count other : Int) := ih
    rw [holdAll, List.foldr_cons, hold_apply, later, List.count_cons]
    by_cases same : d = other
    · simp [same]
      omega
    · simp [same]

/-- Every count is the number of slots that point to the object. -/
def Counted (refs : D → Int) (slots : List (Option D)) : Prop :=
  ∀ d, refs d = (slots.count (some d) : Int)

theorem count_slot (before after : List (Option D)) (slot : Option D) (d : D) :
    (before ++ slot :: after).count (some d) =
      (before ++ after).count (some d) + if slot = some d then 1 else 0 := by
  rw [List.count_append, List.count_append, List.count_cons]
  by_cases same : slot = some d
  · simp [same]
    omega
  · simp [same]

variable {refs : D → Int} {before after : List (Option D)}

theorem counted_empty_slot :
    Counted refs (before ++ none :: after) ↔ Counted refs (before ++ after) := by
  simp [Counted]

theorem Counted.add (counted : Counted refs (before ++ after)) (d : D) :
    Counted (hold d refs) (before ++ some d :: after) := by
  intro other
  rw [count_slot]
  by_cases same : other = d
  · subst other
    simp [hold, counted d]
  · simp [hold, same, Ne.symm same, counted other]

theorem Counted.fill (counted : Counted refs (before ++ none :: after)) (d : D) :
    Counted (hold d refs) (before ++ some d :: after) :=
  (counted_empty_slot.mp counted).add d

theorem Counted.clear {d : D} (counted : Counted refs (before ++ some d :: after)) :
    Counted (put d refs) (before ++ none :: after) := by
  rw [counted_empty_slot]
  intro other
  have held := counted other
  rw [count_slot] at held
  by_cases same : other = d
  · subst other
    simp [put, held]
  · simpa [put, same, Ne.symm same] using held

theorem counted_none (slots : List (Option D)) (empty : ∀ slot ∈ slots, slot = none) :
    Counted (fun _ => 0) slots := by
  intro d
  have zero : slots.count (some d) = 0 := by
    rw [List.count_eq_zero]
    intro member
    exact nomatch empty _ member
  simp [zero]

section
variable {E : Type u}

def modifyFirst (test : E → Bool) (change : E → E) : List E → List E
  | [] => []
  | e :: rest => if test e then change e :: rest else e :: modifyFirst test change rest

theorem modifyFirst_cases (test : E → Bool) (change : E → E) (list : List E) :
    ((∀ e ∈ list, test e = false) ∧ modifyFirst test change list = list) ∨
      ∃ before e after, list = before ++ e :: after ∧ (∀ other ∈ before, test other = false) ∧
        test e = true ∧ modifyFirst test change list = before ++ change e :: after := by
  induction list with
  | nil => exact Or.inl ⟨fun _ member => (nomatch member), rfl⟩
  | cons head rest ih =>
    cases passes : test head with
    | true => exact Or.inr ⟨[], head, rest, rfl, fun _ member => (nomatch member), passes,
        by simp [modifyFirst, passes]⟩
    | false =>
      rcases ih with ⟨none, same⟩ | ⟨before, e, after, split, earlier, found, same⟩
      · left
        refine ⟨fun e member => ?_, by simp [modifyFirst, passes, same]⟩
        rcases List.mem_cons.mp member with isHead | later
        · rw [isHead, passes]
        · exact none e later
      · right
        refine ⟨head :: before, e, after, by simp [split], fun other member => ?_, found,
          by simp [modifyFirst, passes, same]⟩
        rcases List.mem_cons.mp member with isHead | later
        · rw [isHead, passes]
        · exact earlier other later

end

end OpenwrtSource.Lib.Holders

/-!
# The uses of buffers

A function that works on buffers is known by the uses it makes of them, in
order: it obtains one, touches one, or gives one up (frees it or hands it on).
A sequence of uses is sound when nothing is used behind being given up.
-/

namespace OpenwrtSource.Lib.BufferUse

universe u
variable {B : Type u}

inductive Use (B : Type u)
  | acquire (buffer : B)
  | touch (buffer : B)
  | release (buffer : B)
  deriving DecidableEq

namespace Use

def buffer : Use B → B
  | acquire buffer => buffer
  | touch buffer => buffer
  | release buffer => buffer

end Use

/-- Behind a `release` the buffer is not used. -/
def Sound : List (Use B) → Prop
  | [] => True
  | .release buffer :: rest => (∀ use ∈ rest, use.buffer ≠ buffer) ∧ Sound rest
  | .acquire _ :: rest => Sound rest
  | .touch _ :: rest => Sound rest

section Counts

variable [DecidableEq B]

def releases (buffer : B) (uses : List (Use B)) : Nat := uses.count (.release buffer)

@[simp] theorem releases_nil (buffer : B) : releases buffer [] = 0 := rfl

@[simp] theorem releases_append (buffer : B) (first second : List (Use B)) :
    releases buffer (first ++ second) = releases buffer first + releases buffer second :=
  List.count_append

instance decidableSound : (uses : List (Use B)) → Decidable (Sound uses)
  | [] => .isTrue trivial
  | .release buffer :: rest =>
    have := decidableSound rest
    inferInstanceAs (Decidable ((∀ use ∈ rest, use.buffer ≠ buffer) ∧ _))
  | .acquire _ :: rest => decidableSound rest
  | .touch _ :: rest => decidableSound rest

theorem sound_append {first second : List (Use B)} :
    Sound (first ++ second) ↔
      Sound first ∧ Sound second ∧
        ∀ use ∈ second, releases use.buffer first = 0 := by
  induction first with
  | nil => simp [Sound]
  | cons use rest ih =>
    cases use with
    | acquire buffer => simpa [Sound, releases] using ih
    | touch buffer => simpa [Sound, releases] using ih
    | release buffer =>
      simp only [List.cons_append, Sound, List.mem_append, ih, releases, List.count_cons,
        beq_iff_eq, Use.release.injEq]
      constructor
      · rintro ⟨apart, sound, sound', unused⟩
        refine ⟨⟨fun use member => apart use (.inl member), sound⟩, sound', ?_⟩
        intro use member
        rw [unused use member, if_neg (Ne.symm (apart use (.inr member)))]
      · rintro ⟨⟨apart, sound⟩, sound', unused⟩
        refine ⟨?_, sound, sound', fun use member => by have := unused use member; omega⟩
        rintro use (member | member)
        · exact apart use member
        · intro same
          have none_ := unused use member
          rw [same, if_pos rfl] at none_
          omega

theorem sound_touch {uses : List (Use B)} {buffer : B} :
    Sound (uses ++ [.touch buffer]) ↔ Sound uses ∧ releases buffer uses = 0 := by
  rw [sound_append]
  simp [Sound, Use.buffer]

end Counts

end OpenwrtSource.Lib.BufferUse
