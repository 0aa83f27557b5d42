import Mathlib.Data.BitVec

/-!
# Fields of a PPE register

`cr_set_field` reads a register, clears the bits of the field mask and ORs the
value in at the lowest bit of the mask.  It does not cut the value to the mask.
-/

namespace OpenwrtSource.Hnat.Register

abbrev Reg := BitVec 32

/-- One more than the lowest set bit, and 0 for an empty word. -/
def ffs (word : Reg) : Nat :=
  match (List.range 32).find? fun i => word.getLsbD i with
  | some i => i + 1
  | none => 0

def crSetField (field val reg : Reg) : Reg :=
  (reg &&& ~~~field) ||| (val <<< (ffs field - 1))

/-- A write of a value to a field, as an argument list of `cr_set_field`. -/
structure FieldWrite where
  field : Reg
  val : Reg

def FieldWrite.bits (w : FieldWrite) : Reg := w.val <<< (ffs w.field - 1)

def crSetFields (writes : List FieldWrite) (reg : Reg) : Reg :=
  writes.foldl (fun reg w => crSetField w.field w.val reg) reg

def fieldGet (field reg : Reg) : Reg := (reg &&& field) >>> (ffs field - 1)

theorem crSetField_and_other {field val mask : Reg} (reg : Reg) (apart : field &&& mask = 0)
    (within : (val <<< (ffs field - 1)) &&& mask = 0) :
    crSetField field val reg &&& mask = reg &&& mask := by
  apply BitVec.eq_of_getLsbD_eq
  intro i inWord
  have fieldBit := congrArg (·.getLsbD i) apart
  have valueBit := congrArg (·.getLsbD i) within
  simp only [BitVec.getLsbD_and, BitVec.ofNat_eq_ofNat, BitVec.getLsbD_zero] at fieldBit valueBit
  simp only [crSetField, BitVec.getLsbD_and, BitVec.getLsbD_or, BitVec.getLsbD_not, inWord,
    decide_true, Bool.true_and]
  cases masked : mask.getLsbD i with
  | false => simp
  | true => simp_all

theorem crSetField_and_self {field val : Reg} (reg : Reg)
    (within : (val <<< (ffs field - 1)) &&& ~~~field = 0) :
    crSetField field val reg &&& field = val <<< (ffs field - 1) := by
  apply BitVec.eq_of_getLsbD_eq
  intro i inWord
  have valueBit := congrArg (·.getLsbD i) within
  simp only [BitVec.getLsbD_and, BitVec.getLsbD_not, inWord, decide_true, Bool.true_and,
    BitVec.ofNat_eq_ofNat, BitVec.getLsbD_zero] at valueBit
  simp only [crSetField, BitVec.getLsbD_and, BitVec.getLsbD_or, BitVec.getLsbD_not, inWord,
    decide_true, Bool.true_and]
  cases masked : field.getLsbD i with
  | false => simp_all
  | true => simp

theorem crSetFields_and_other {mask : Reg} (writes : List FieldWrite)
    (apart : ∀ w ∈ writes, w.field &&& mask = 0 ∧ w.bits &&& mask = 0) (reg : Reg) :
    crSetFields writes reg &&& mask = reg &&& mask := by
  induction writes generalizing reg with
  | nil => rfl
  | cons w rest ih =>
    have first := apart w (by simp)
    have others : ∀ w ∈ rest, w.field &&& mask = 0 ∧ w.bits &&& mask = 0 := by
      intro other member
      exact apart other (by simp [member])
    calc crSetFields (w :: rest) reg &&& mask
        = crSetFields rest (crSetField w.field w.val reg) &&& mask := rfl
      _ = crSetField w.field w.val reg &&& mask := ih others _
      _ = reg &&& mask := crSetField_and_other reg first.1 first.2

end OpenwrtSource.Hnat.Register
