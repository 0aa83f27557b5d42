import Mathlib.Data.List.Basic
import Mathlib.Data.List.FinRange
import Mathlib.Data.List.Nodup
import Mathlib.Logic.Function.Basic

/-!
# Folds that write a table

A loop that writes one cell of a table for each item.  When the cells are distinct
each of them is written once; when a write may be repeated, once is enough.
-/

namespace OpenwrtSource.Lib.TableFold

universe u v w x
variable {K : Type u} {V : Type v} {ι : Type w} [DecidableEq K]

def writeCell (key : ι → K) (write : ι → V → V) (table : K → V) (i : ι) : K → V :=
  Function.update table (key i) (write i (table (key i)))

theorem foldl_writeCell_other (key : ι → K) (write : ι → V → V) (items : List ι) (table : K → V)
    {k : K} (missed : ∀ i ∈ items, key i ≠ k) :
    items.foldl (writeCell key write) table k = table k := by
  induction items generalizing table with
  | nil => rfl
  | cons i rest ih =>
    rw [List.foldl_cons, ih _ fun j member => missed j (List.mem_cons_of_mem _ member)]
    exact Function.update_of_ne (Ne.symm (missed i List.mem_cons_self)) _ _

variable {items : List ι} {i : ι} {S : Type x} {T : Type v}

theorem foldl_writeCell (key : ι → K) (write : ι → V → V) (table : K → V) (once : items.Nodup)
    (injective : ∀ i ∈ items, ∀ j ∈ items, key i = key j → i = j) (member : i ∈ items) :
    items.foldl (writeCell key write) table (key i) = write i (table (key i)) := by
  induction items generalizing table with
  | nil => cases member
  | cons j rest ih =>
    rw [List.nodup_cons] at once
    rw [List.foldl_cons]
    by_cases here : i = j
    · subst here
      rw [foldl_writeCell_other key write rest _ ?_]
      · exact Function.update_self _ _ _
      · intro j inside same
        have twice := injective j (List.mem_cons_of_mem _ inside) i List.mem_cons_self same
        exact once.1 (twice ▸ inside)
    · have inside : i ∈ rest := (List.mem_cons.mp member).resolve_left here
      have apart : key i ≠ key j := fun same =>
        here (injective i member j List.mem_cons_self same)
      rw [ih _ once.2 (fun a inA b inB => injective a (List.mem_cons_of_mem _ inA) b
        (List.mem_cons_of_mem _ inB)) inside]
      simp only [writeCell, Function.update_of_ne apart]

theorem foldl_frame (field : S → T) (body : S → ι → S) (frame : ∀ s i, field (body s i) = field s)
    (items : List ι) (s : S) : field (items.foldl body s) = field s := by
  induction items generalizing s with
  | nil => rfl
  | cons i rest ih => rw [List.foldl_cons, ih, frame]

theorem foldl_table (table : S → K → V) (key : ι → K) (write : ι → V → V) (body : S → ι → S)
    (cells : ∀ s i, table (body s i) = writeCell key write (table s) i) (items : List ι) (s : S) :
    table (items.foldl body s) = items.foldl (writeCell key write) (table s) :=
  (List.foldl_hom table fun s i => (cells s i).symm).symm

theorem foldl_bank {n : Nat} (bank : S → Fin n → V) (write : Fin n → V → V) (body : S → Fin n → S)
    (rows : ∀ s i, bank (body s i) = writeCell id write (bank s) i) (s : S) (i : Fin n) :
    bank ((List.finRange n).foldl body s) i = write i (bank s i) := by
  rw [foldl_table bank id write body rows]
  exact foldl_writeCell id write _ (List.nodup_finRange n) (fun _ _ _ _ same => same)
    (List.mem_finRange i)

theorem foldl_idempotent (acts : ι → Prop) [DecidablePred acts] (change : T → T)
    (idempotent : ∀ t, change (change t) = change t) (step : T → ι → T)
    (steps : ∀ t i, step t i = if acts i then change t else t) (member : i ∈ items) (does : acts i)
    (t : T) : items.foldl step t = change t := by
  have settled : ∀ (rest : List ι) (t : T), rest.foldl step (change t) = change t := by
    intro rest t
    induction rest with
    | nil => rfl
    | cons j rest ih =>
      rw [List.foldl_cons, steps]
      split_ifs
      · rw [idempotent, ih]
      · exact ih
  induction items generalizing t with
  | nil => cases member
  | cons j rest ih =>
    rw [List.foldl_cons, steps]
    split_ifs with acted
    · exact settled rest t
    · have inside : i ∈ rest := by
        refine (List.mem_cons.mp member).resolve_left ?_
        rintro rfl
        exact acted does
      exact ih inside t

end OpenwrtSource.Lib.TableFold

/-!
# Walks over tables

A loop over the entries of tables is known by the accesses it makes, in order.
It is sound when it stays inside the tables, and it covers a table when it
reaches each of its entries.
-/

namespace OpenwrtSource.Lib.TableWalk

open Lib.TableFold

universe u v
variable {K : Type u}

structure Access (K : Type u) where
  table : K
  index : Nat
  deriving DecidableEq

/-- `for (index = 0; index < count; index++)` over one table. -/
def walk (count : Nat) (table : K) : List (Access K) := (List.range count).map (Access.mk table)

/-- The same loop over each table of a list. -/
def walks (count : Nat) (tables : List K) : List (Access K) := tables.flatMap (walk count)

variable {tables : List K}

theorem mem_walks {count : Nat} {access : Access K} :
    access ∈ walks count tables ↔ access.table ∈ tables ∧ access.index < count := by
  unfold walks walk
  rw [List.mem_flatMap]
  constructor
  · rintro ⟨table, listed, reached⟩
    obtain ⟨index, below, rfl⟩ := List.mem_map.mp reached
    exact ⟨listed, List.mem_range.mp below⟩
  · rintro ⟨listed, below⟩
    exact ⟨access.table, listed, List.mem_map.mpr ⟨access.index, List.mem_range.mpr below, rfl⟩⟩

section

variable (entries : K → Option Nat)

/-- Every access is to an entry of a table that exists. -/
def InBounds (accesses : List (Access K)) : Prop :=
  ∀ access ∈ accesses, ∃ size, entries access.table = some size ∧ access.index < size

def Covers (accesses : List (Access K)) (table : K) : Prop :=
  ∀ size, entries table = some size → ∀ index, index < size → ⟨table, index⟩ ∈ accesses

theorem inBounds_single (table : K) (index : Nat) :
    InBounds entries [⟨table, index⟩] ↔ ∃ size, entries table = some size ∧ index < size :=
  List.forall_mem_singleton

theorem walks_exact_iff (count : Nat) (tables : List K)
    (mapped : ∀ table ∈ tables, entries table ≠ none) :
    (InBounds entries (walks count tables) ∧
        ∀ table ∈ tables, Covers entries (walks count tables) table) ↔
      ∀ table ∈ tables, entries table = some count := by
  constructor
  · rintro ⟨inBounds, covers⟩ table listed
    obtain ⟨size, sized⟩ := Option.ne_none_iff_exists'.mp (mapped table listed)
    have atMost : count ≤ size := by
      apply Nat.le_of_not_lt
      intro more
      obtain ⟨size', sized', below⟩ := inBounds ⟨table, size⟩ (mem_walks.mpr ⟨listed, more⟩)
      obtain rfl : size' = size := Option.some.inj (sized'.symm.trans sized)
      exact Nat.lt_irrefl _ below
    have atLeast : size ≤ count := by
      apply Nat.le_of_not_lt
      intro fewer
      exact Nat.lt_irrefl _ (mem_walks.mp (covers table listed size sized count fewer)).2
    rw [sized, Nat.le_antisymm atMost atLeast]
  · intro exact'
    refine ⟨?_, ?_⟩
    · intro access reached
      obtain ⟨listed, below⟩ := mem_walks.mp reached
      exact ⟨count, exact' _ listed, below⟩
    · intro table listed size sized index below
      obtain rfl : size = count := Option.some.inj (sized.symm.trans (exact' table listed))
      exact mem_walks.mpr ⟨listed, below⟩

end

end OpenwrtSource.Lib.TableWalk

/-!
# A store under patches

A patch gives some of the addresses a new content.  After a list of patches an
address holds what the latest patch that covers it put there, or what it held
before all of them.
-/

namespace OpenwrtSource.Lib.Patches

universe u v w
variable {A : Type u} {β : Type v} {γ : Type w}

abbrev Patch (A : Type u) (β : Type v) := A → Option β

def apply (store : A → β) (patch : Patch A β) : A → β :=
  fun a => (patch a).getD (store a)

/-- What the latest patch that covers an address put there. -/
def latest (patches : List (Patch A β)) (a : A) : Option β :=
  patches.reverse.findSome? fun patch => patch a

@[simp] theorem latest_nil (a : A) : latest ([] : List (Patch A β)) a = none := rfl

theorem latest_cons (patch : Patch A β) (rest : List (Patch A β)) (a : A) :
    latest (patch :: rest) a = (latest rest a).or (patch a) := by
  unfold latest
  rw [List.reverse_cons, List.findSome?_append, List.findSome?_cons, List.findSome?_nil]
  cases patch a <;> rfl

theorem foldl_apply (store : A → β) (patches : List (Patch A β)) (a : A) :
    patches.foldl apply store a = (latest patches a).getD (store a) := by
  induction patches generalizing store with
  | nil => rfl
  | cons patch rest ih =>
    rw [List.foldl_cons, ih, latest_cons]
    cases latest rest a <;> rfl

theorem latest_map (f : β → γ) (patches : List (Patch A β)) (a : A) :
    latest (patches.map fun patch b => (patch b).map f) a = (latest patches a).map f := by
  induction patches with
  | nil => rfl
  | cons patch rest ih =>
    rw [List.map_cons, latest_cons, latest_cons, ih]
    cases latest rest a <;> rfl

theorem getD_map_eq_iff (f g : β → γ) (held : Option β) (initially : γ) :
    (held.map f).getD initially = (held.map g).getD initially ↔ ∀ x ∈ held, f x = g x := by
  cases held <;> simp

end OpenwrtSource.Lib.Patches
