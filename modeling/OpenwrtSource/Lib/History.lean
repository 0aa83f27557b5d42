import Mathlib.Data.List.Basic

/-!
# History variables

A system that writes a log of what it does, newest record last.  `Open` says
that a record still counts, because nothing logged since then ended it, and
`Followed` that a second record came while the first still counted.  Both are
settled one record at a time.
-/

namespace OpenwrtSource.Lib.History

universe u
variable {R : Type u}

def Open (keeps : R → Prop) (log : List R) (a : R) : Prop :=
  ∃ before since, log = before ++ a :: since ∧ ∀ r ∈ since, keeps r

def Followed (keeps : R → Prop) (log : List R) (a b : R) : Prop :=
  ∃ before between after, log = before ++ a :: between ++ b :: after ∧
    ∀ r ∈ between, keeps r

@[simp] theorem not_open_nil (keeps : R → Prop) (a : R) : ¬ Open keeps [] a := by
  rintro ⟨before, since, split, -⟩
  simp at split

@[simp] theorem not_followed_nil (keeps : R → Prop) (a b : R) : ¬ Followed keeps [] a b := by
  rintro ⟨before, between, after, split, -⟩
  simp at split

theorem open_concat (keeps : R → Prop) (log : List R) (r a : R) :
    Open keeps (log ++ [r]) a ↔ r = a ∨ (Open keeps log a ∧ keeps r) := by
  constructor
  · rintro ⟨before, since, split, kept⟩
    rcases List.eq_nil_or_concat since with rfl | ⟨earlier, last, rfl⟩
    · have parts := List.append_inj' split rfl
      exact .inl (by simpa using parts.2)
    · right
      have ends : log = before ++ a :: earlier ∧ r = last := by
        rw [List.concat_eq_append, ← List.cons_append, ← List.append_assoc] at split
        have parts := List.append_inj' split rfl
        exact ⟨parts.1, by simpa using parts.2⟩
      refine ⟨⟨before, earlier, ends.1, ?_⟩, ?_⟩
      · intro s member
        exact kept s (by simp [member])
      · rw [ends.2]
        exact kept last (by simp)
  · rintro (rfl | ⟨⟨before, since, rfl, kept⟩, last⟩)
    · exact ⟨log, [], rfl, by simp⟩
    · refine ⟨before, since ++ [r], by simp, ?_⟩
      intro s member
      rcases List.mem_append.mp member with old | new
      · exact kept s old
      · rw [List.mem_singleton.mp new]
        exact last

theorem followed_concat (keeps : R → Prop) (log : List R) (r a b : R) :
    Followed keeps (log ++ [r]) a b ↔
      Followed keeps log a b ∨ (r = b ∧ Open keeps log a) := by
  constructor
  · rintro ⟨before, between, after, split, kept⟩
    rcases List.eq_nil_or_concat after with rfl | ⟨earlier, last, rfl⟩
    · have parts := List.append_inj' split rfl
      exact .inr ⟨by simpa using parts.2, before, between, parts.1, kept⟩
    · rw [List.concat_eq_append, ← List.cons_append, ← List.append_assoc] at split
      have parts := List.append_inj' split rfl
      exact .inl ⟨before, between, earlier, parts.1, kept⟩
  · rintro (⟨before, between, after, rfl, kept⟩ | ⟨rfl, before, between, rfl, kept⟩)
    · exact ⟨before, between, after ++ [r], by simp, kept⟩
    · exact ⟨before, between, [], by simp, kept⟩

end OpenwrtSource.Lib.History

/-!
# Streaks of a condition on successive samples

A condition relates a sample to the one before it.  `Held n` says that it held
on the last `n` samples; before the first sample stands `blank`.
-/

namespace OpenwrtSource.Lib.Streak

universe u
variable {S : Type u} (holds : S → S → Prop) (blank : S)

def Held : Nat → List S → Prop
  | 0, _ => True
  | _ + 1, [] => False
  | n + 1, now :: older => holds (older.headD blank) now ∧ Held n older

variable {holds blank}

theorem held_of_succ : ∀ {n : Nat} {samples : List S}, Held holds blank (n + 1) samples →
    Held holds blank n samples
  | 0, _, _ => trivial
  | _ + 1, [], held => held.elim
  | _ + 1, _ :: _, held => ⟨held.1, held_of_succ held.2⟩

theorem held_cons {n : Nat} {now : S} {older : List S} (held : Held holds blank n older)
    (meets : n ≠ 0 → holds (older.headD blank) now) : Held holds blank n (now :: older) := by
  cases n with
  | zero => trivial
  | succ n => exact ⟨meets (Nat.succ_ne_zero n), held_of_succ held⟩

end OpenwrtSource.Lib.Streak

/-!
# Where bytes come from

A routine that only moves bytes works over any type of bytes.  Run on `Origin`
it tells for each byte of the result from which address it comes, or that it
was filled in.  Two such results are equal whatever is stored exactly when
their origins are.
-/

namespace OpenwrtSource.Lib.Provenance

universe u v
variable {A : Type u} {α : Type v}

inductive Origin (A : Type u) where
  | fill
  | stored (address : A)
  deriving DecidableEq

/-- The byte of an origin, for what is stored and the byte that is filled in. -/
def Origin.eval (fill : α) (content : A → α) : Origin A → α
  | .fill => fill
  | .stored address => content address

theorem eval_inj [DecidableEq A] {fill other : α} (differ : other ≠ fill) {left right : Origin A}
    (same : ∀ content : A → α, left.eval fill content = right.eval fill content) :
    left = right := by
  cases left with
  | fill =>
    cases right with
    | fill => rfl
    | stored address => exact absurd (same fun _ => other).symm differ
  | stored address =>
    cases right with
    | fill => exact absurd (same fun _ => other) differ
    | stored address' =>
      -- one address holds another byte than all the rest
      have probe := same fun a => if a = address then other else fill
      simp only [Origin.eval, if_true] at probe
      by_cases here : address' = address
      · rw [here]
      · rw [if_neg here] at probe
        exact absurd probe differ

theorem map_eval_inj [DecidableEq A] {fill other : α} (differ : other ≠ fill)
    {left right : List (Origin A)} (same : ∀ content : A → α,
      left.map (Origin.eval fill content) = right.map (Origin.eval fill content)) :
    left = right := by
  have lengths : left.length = right.length := by
    simpa using congrArg List.length (same fun _ => fill)
  apply List.ext_getElem lengths
  intro i inLeft inRight
  apply eval_inj differ
  intro content
  have at_ := congrArg (·[i]?) (same content)
  simpa [inLeft, inRight] using at_

end OpenwrtSource.Lib.Provenance
