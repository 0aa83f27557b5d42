import Mathlib.Algebra.Order.Group.Int
import Mathlib.Algebra.Order.Ring.Abs
import Mathlib.Algebra.Order.Ring.Int
import Mathlib.Tactic.Ring

/-!
# Signed 64-bit arithmetic with its accidents

A computation yields the value that the machine gets and says whether a result left the
signed 64-bit range on the way and whether something was divided by zero.  A division by
zero gives zero.
-/

namespace OpenwrtSource.Lib.TracedArith

universe u v

structure Traced (α : Type u) where
  value : α
  wrapped : Bool
  zeroDivisor : Bool

instance : Monad Traced where
  pure x := { value := x, wrapped := false, zeroDivisor := false }
  bind x next :=
    { value := (next x.value).value
      wrapped := x.wrapped || (next x.value).wrapped
      zeroDivisor := x.zeroDivisor || (next x.value).zeroDivisor }

variable {α β : Type u}

@[simp] theorem pure_value (x : α) : (pure x : Traced α).value = x := rfl
@[simp] theorem pure_wrapped (x : α) : (pure x : Traced α).wrapped = false := rfl
@[simp] theorem pure_zeroDivisor (x : α) : (pure x : Traced α).zeroDivisor = false := rfl

@[simp] theorem bind_value (x : Traced α) (next : α → Traced β) :
    (x >>= next).value = (next x.value).value := rfl
@[simp] theorem bind_wrapped (x : Traced α) (next : α → Traced β) :
    (x >>= next).wrapped = (x.wrapped || (next x.value).wrapped) := rfl
@[simp] theorem bind_zeroDivisor (x : Traced α) (next : α → Traced β) :
    (x >>= next).zeroDivisor = (x.zeroDivisor || (next x.value).zeroDivisor) := rfl

def Fits (x : Int) : Prop := -2 ^ 63 ≤ x ∧ x < 2 ^ 63

instance (x : Int) : Decidable (Fits x) := inferInstanceAs (Decidable (_ ∧ _))

def s64 (x : Int) : Int := x.bmod (2 ^ 64)

def u64 (x : Int) : Nat := (x % 2 ^ 64).toNat

theorem s64_of_fits {x : Int} (fits : Fits x) : s64 x = x := by
  obtain ⟨low, high⟩ := fits
  unfold s64
  rw [Int.bmod_eq_of_le]
  · omega
  · omega

theorem fits_of_abs {x : Int} (small : |x| ≤ 2 ^ 62) : Fits x := by
  obtain ⟨low, high⟩ := abs_le.mp small
  constructor
  · omega
  · omega

/-- The machine's result for the exact one. -/
def exactly (x : Int) : Traced Int where
  value := s64 x
  wrapped := !decide (Fits x)
  zeroDivisor := false

@[simp] theorem exactly_zeroDivisor (x : Int) : (exactly x).zeroDivisor = false := rfl

def mul (a b : Int) : Traced Int := exactly (a * b)
def add (a b : Int) : Traced Int := exactly (a + b)
def sub (a b : Int) : Traced Int := exactly (a - b)
def neg (a : Int) : Traced Int := exactly (-a)

def div (a b : Int) : Traced Int where
  value := s64 (a.tdiv b)
  wrapped := !decide (Fits (a.tdiv b))
  zeroDivisor := decide (b = 0)

/-- Quotient and remainder of the operands as unsigned numbers. -/
def divRem (a b : Int) : Traced (Nat × Nat) where
  value := (u64 a / u64 b, u64 a % u64 b)
  wrapped := false
  zeroDivisor := decide (u64 b = 0)

theorem mul_value {a b : Int} (fits : Fits (a * b)) : (mul a b).value = a * b := s64_of_fits fits
theorem add_value {a b : Int} (fits : Fits (a + b)) : (add a b).value = a + b := s64_of_fits fits
theorem div_value {a b : Int} (fits : Fits (a.tdiv b)) : (div a b).value = a.tdiv b :=
  s64_of_fits fits

@[simp] theorem mul_zeroDivisor (a b : Int) : (mul a b).zeroDivisor = false := rfl
@[simp] theorem add_zeroDivisor (a b : Int) : (add a b).zeroDivisor = false := rfl
@[simp] theorem sub_zeroDivisor (a b : Int) : (sub a b).zeroDivisor = false := rfl
@[simp] theorem neg_zeroDivisor (a : Int) : (neg a).zeroDivisor = false := rfl
@[simp] theorem div_zeroDivisor (a b : Int) : (div a b).zeroDivisor = decide (b = 0) := rfl
@[simp] theorem divRem_zeroDivisor (a b : Int) :
    (divRem a b).zeroDivisor = decide (u64 b = 0) := rfl

/-- A product of several factors, from the left. -/
def product : List Int → Traced Int
  | [] => pure 1
  | factor :: rest => rest.foldlM mul factor

def products : List (List Int) → Traced (List Int)
  | [] => pure []
  | factors :: rest => do
    let first ← product factors
    let others ← products rest
    pure (first :: others)

section
variable {σ : Type} {ε : Type v}

theorem foldlM_zeroDivisor (step : σ → ε → Traced σ) (bad : ε → Bool)
    (single : ∀ state e, (step state e).zeroDivisor = bad e) (state : σ) (list : List ε) :
    (list.foldlM step state).zeroDivisor = list.any bad := by
  induction list generalizing state with
  | nil => rfl
  | cons e rest ih =>
    rw [List.foldlM_cons, bind_zeroDivisor, single, ih, List.any_cons]

end

theorem product_zeroDivisor (factors : List Int) : (product factors).zeroDivisor = false := by
  cases factors with
  | nil => rfl
  | cons factor rest =>
    rw [product, foldlM_zeroDivisor mul (fun _ => false) mul_zeroDivisor]
    simp

theorem products_zeroDivisor (list : List (List Int)) : (products list).zeroDivisor = false := by
  induction list with
  | nil => rfl
  | cons factors rest ih =>
    simp [products, product_zeroDivisor, ih]

theorem products_length (list : List (List Int)) : (products list).value.length = list.length := by
  induction list with
  | nil => rfl
  | cons factors rest ih =>
    simp [products, ih]

theorem any_zip_snd {γ δ : Type} (left : List γ) (right : List δ) (bad : δ → Bool)
    (enough : right.length ≤ left.length) :
    ((left.zip right).any fun pair => bad pair.2) = right.any bad := by
  have seconds := List.map_snd_zip enough
  calc ((left.zip right).any fun pair => bad pair.2)
      = ((left.zip right).map Prod.snd).any bad := by rw [List.any_map]; rfl
    _ = right.any bad := by rw [seconds]

theorem tdiv_bounds (a : Int) {b : Int} (positive : 0 < b) :
    a.tdiv b * b < a + b ∧ a - b < a.tdiv b * b := by
  have split := Int.mul_tdiv_add_tmod a b
  have below := Int.tmod_lt_of_pos a positive
  have above := Int.lt_tmod_of_pos a positive
  rw [Int.mul_comm] at split
  constructor
  · omega
  · omega

theorem tdiv_neg_iff (a : Int) {b : Int} (positive : 0 < b) : a.tdiv b < 0 ↔ a ≤ -b := by
  obtain nonneg | negative := le_or_gt 0 a
  · have quotient := Int.tdiv_nonneg nonneg (Int.le_of_lt positive)
    omega
  · have flip : a.tdiv b = -((-a) / b) := by
      rw [← Int.tdiv_eq_ediv_of_nonneg (by omega), Int.neg_tdiv, Int.neg_neg]
    have one := Int.le_ediv_iff_mul_le (a := 1) (b := -a) positive
    omega

end OpenwrtSource.Lib.TracedArith
