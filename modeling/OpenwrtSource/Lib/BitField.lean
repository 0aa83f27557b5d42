import Mathlib.Data.BitVec
import Mathlib.Data.List.FinRange

/-!
# Bit fields of a word array

A hardware descriptor is an array of 32-bit words; a C bit field names a run of
bits of one word.  `get` and `set` are the field accesses a compiler emits, and
two layouts of one array (a C union) are two families of fields.
-/

namespace OpenwrtSource.Lib.BitField

abbrev Words (n : Nat) := Fin n → BitVec 32

structure Field (n width : Nat) where
  word : Fin n
  shift : Nat
  fits : shift + width ≤ 32 := by decide

variable {n width width' : Nat}

def Field.get (field : Field n width) (words : Words n) : BitVec width :=
  (words field.word).extractLsb' field.shift width

def Field.mask (field : Field n width) : BitVec 32 :=
  (BitVec.allOnes width).setWidth 32 <<< field.shift

def Field.set (field : Field n width) (value : BitVec width) (words : Words n) : Words n :=
  fun word =>
    if word = field.word then
      (words word &&& ~~~ field.mask) ||| (value.setWidth 32 <<< field.shift)
    else words word

def Field.Apart (left : Field n width) (right : Field n width') : Prop :=
  left.word ≠ right.word ∨ left.shift + width ≤ right.shift ∨
    right.shift + width' ≤ left.shift

instance (left : Field n width) (right : Field n width') : Decidable (left.Apart right) :=
  inferInstanceAs (Decidable (_ ∨ _ ∨ _))

variable (field : Field n width) (value : BitVec width)

theorem Field.getLsbD_mask (i : Nat) (inWord : i < 32) :
    field.mask.getLsbD i = decide (field.shift ≤ i ∧ i < field.shift + width) := by
  simp only [mask, BitVec.getLsbD_shiftLeft, BitVec.getLsbD_setWidth, BitVec.getLsbD_allOnes,
    inWord, decide_true, Bool.true_and]
  by_cases below : i < field.shift
  · simp [below, Nat.not_le.mpr below]
  · have := field.fits
    grind

theorem Field.set_other (words : Words n) (word : Fin n) (other : word ≠ field.word) :
    field.set value words word = words word := by
  simp [set, other]

@[simp] theorem Field.get_set (words : Words n) : field.get (field.set value words) = value := by
  apply BitVec.eq_of_getLsbD_eq
  intro i inField
  have fits := field.fits
  have inWord : field.shift + i < 32 := by omega
  simp only [get, set, if_true, BitVec.getLsbD_extractLsb', BitVec.getLsbD_or, BitVec.getLsbD_and,
    BitVec.getLsbD_not, BitVec.getLsbD_shiftLeft, BitVec.getLsbD_setWidth,
    field.getLsbD_mask _ inWord, inField, inWord, decide_true, Bool.true_and]
  have masked : field.shift ≤ field.shift + i ∧ field.shift + i < field.shift + width := by omega
  simp [masked, show i < 32 by omega]

theorem Field.get_set_of_apart (written : Field n width) (read : Field n width')
    (value : BitVec width) (words : Words n) (apart : written.Apart read) :
    read.get (written.set value words) = read.get words := by
  by_cases sameWord : read.word = written.word
  · apply BitVec.eq_of_getLsbD_eq
    intro i inField
    have inWord : read.shift + i < 32 := by have := read.fits; omega
    have outside : read.shift + i < written.shift ∨ written.shift + width ≤ read.shift + i := by
      obtain differ | before | after := apart
      · exact absurd sameWord.symm differ
      · right; omega
      · left; omega
    simp only [get, set, sameWord, if_true, BitVec.getLsbD_extractLsb', BitVec.getLsbD_or,
      BitVec.getLsbD_and, BitVec.getLsbD_not, BitVec.getLsbD_shiftLeft, BitVec.getLsbD_setWidth,
      written.getLsbD_mask _ inWord, inField, inWord, decide_true, Bool.true_and]
    have unmasked : ¬ (written.shift ≤ read.shift + i ∧ read.shift + i < written.shift + width) := by
      omega
    obtain before | after := outside
    · simp [unmasked, before]
    · simp only [unmasked, decide_false, Bool.not_false, Bool.and_true]
      have beyond : value.getLsbD (read.shift + i - written.shift) = false :=
        BitVec.getLsbD_of_ge _ _ (by omega)
      simp [beyond]
  · simp [get, set_other _ _ _ _ sameWord]

/-- A write that happens only where the condition holds. -/
def Field.setIf (condition : Bool) (field : Field n width) (value : BitVec width)
    (words : Words n) : Words n :=
  if condition then field.set value words else words

theorem Field.get_setIf (condition : Bool) (field : Field n width) (value : BitVec width)
    (words : Words n) :
    field.get (field.setIf condition value words) =
      if condition then value else field.get words := by
  unfold setIf
  split
  · exact field.get_set value words
  · rfl

theorem Field.get_setIf_of_apart (condition : Bool) (written : Field n width)
    (read : Field n width') (value : BitVec width) (words : Words n) (apart : written.Apart read) :
    read.get (written.setIf condition value words) = read.get words := by
  unfold setIf
  split
  · exact written.get_set_of_apart read value words apart
  · rfl

theorem Field.getLsbD_set (words : Words n) (i : Nat) (inWord : i < 32) :
    (field.set value words field.word).getLsbD i =
      if field.shift ≤ i ∧ i < field.shift + width then value.getLsbD (i - field.shift)
      else (words field.word).getLsbD i := by
  simp only [set, if_true, BitVec.getLsbD_or, BitVec.getLsbD_and, BitVec.getLsbD_not,
    BitVec.getLsbD_shiftLeft, BitVec.getLsbD_setWidth, field.getLsbD_mask i inWord, inWord,
    decide_true, Bool.true_and]
  by_cases masked : field.shift ≤ i ∧ i < field.shift + width
  · simp [masked, Nat.not_lt.mpr masked.1, show i - field.shift < 32 by omega]
  · have beyond : ¬ i < field.shift → value.getLsbD (i - field.shift) = false := fun above =>
      BitVec.getLsbD_of_ge _ _ (by omega)
    by_cases below : i < field.shift
    · simp [below, Nat.not_le.mpr below]
    · simp [masked, below, beyond below]

theorem Field.set_eq_self_iff (words : Words n) :
    field.set value words = words ↔ field.get words = value := by
  constructor
  · intro unchanged
    rw [← unchanged, field.get_set]
  · rintro rfl
    funext word
    by_cases own : word = field.word
    · subst own
      apply BitVec.eq_of_getLsbD_eq
      intro i inWord
      rw [field.getLsbD_set _ _ i inWord]
      split
      · rename_i masked
        simp [get, show i - field.shift < width by omega,
          show field.shift + (i - field.shift) = i by omega]
      · rfl
    · exact field.set_other _ _ _ own

theorem Field.set_set (value' : BitVec width) (words : Words n) :
    field.set value (field.set value' words) = field.set value words := by
  funext word
  by_cases own : word = field.word
  · subst own
    apply BitVec.eq_of_getLsbD_eq
    intro i inWord
    rw [field.getLsbD_set _ _ i inWord, field.getLsbD_set _ _ i inWord,
      field.getLsbD_set _ _ i inWord]
    split <;> rfl
  · rw [field.set_other _ _ _ own, field.set_other _ _ _ own, field.set_other _ _ _ own]

theorem Field.set_comm (left : Field n width) (right : Field n width') (value : BitVec width)
    (value' : BitVec width') (words : Words n) (apart : left.Apart right) :
    left.set value (right.set value' words) = right.set value' (left.set value words) := by
  funext word
  by_cases ofLeft : word = left.word
  · subst ofLeft
    by_cases ofRight : left.word = right.word
    · apply BitVec.eq_of_getLsbD_eq
      intro i inWord
      have outside : left.word ≠ right.word ∨ left.shift + width ≤ right.shift ∨
          right.shift + width' ≤ left.shift := apart
      rw [left.getLsbD_set _ _ i inWord, ofRight, right.getLsbD_set _ _ i inWord,
        right.getLsbD_set _ _ i inWord, ← ofRight, left.getLsbD_set _ _ i inWord]
      split
      · rw [if_neg (by omega)]
      · rfl
    · rw [right.set_other _ _ _ ofRight]
      simp [set, ofRight]
  · by_cases ofRight : word = right.word
    · subst ofRight
      rw [left.set_other _ _ _ ofLeft]
      simp [set, ofLeft]
    · rw [left.set_other _ _ _ ofLeft, right.set_other _ _ _ ofRight,
        right.set_other _ _ _ ofRight, left.set_other _ _ _ ofLeft]

/-- The bits of `kept` are the same in both arrays. -/
def KeepsBits (kept before after : Words n) : Prop :=
  ∀ word, after word &&& kept word = before word &&& kept word

def Field.Spares (field : Field n width) (kept : Words n) : Prop :=
  field.mask &&& kept field.word = 0

def Field.Within (field : Field n width) (kept : Words n) : Prop :=
  field.mask &&& kept field.word = field.mask

instance (field : Field n width) (kept : Words n) : Decidable (field.Spares kept) :=
  inferInstanceAs (Decidable (_ = _))

instance (field : Field n width) (kept : Words n) : Decidable (field.Within kept) :=
  inferInstanceAs (Decidable (_ = _))

theorem KeepsBits.refl (kept words : Words n) : KeepsBits kept words words :=
  fun _ => rfl

variable {kept before after : Words n}

theorem KeepsBits.trans {first second third : Words n} (left : KeepsBits kept first second)
    (right : KeepsBits kept second third) : KeepsBits kept first third :=
  fun word => (right word).trans (left word)

theorem KeepsBits.mono {fewer : Words n} (keeps : KeepsBits kept before after)
    (sub : ∀ word, kept word &&& fewer word = fewer word) : KeepsBits fewer before after := by
  intro word
  rw [← sub word, ← BitVec.and_assoc, ← BitVec.and_assoc, keeps word]

theorem KeepsBits.get (keeps : KeepsBits kept before after) (field : Field n width)
    (within : field.Within kept) : field.get after = field.get before := by
  apply BitVec.eq_of_getLsbD_eq
  intro i inField
  have inWord : field.shift + i < 32 := by have := field.fits; omega
  have keptBit : (kept field.word).getLsbD (field.shift + i) = true := by
    have masked := congrArg (fun bits => bits.getLsbD (field.shift + i)) within
    simpa [field.getLsbD_mask _ inWord, inField] using masked
  have sameBit := congrArg (fun bits => bits.getLsbD (field.shift + i)) (keeps field.word)
  simpa [Field.get, inField, keptBit] using sameBit

theorem Field.keepsBits_set (words : Words n) (spares : field.Spares kept) :
    KeepsBits kept words (field.set value words) := by
  intro word
  by_cases own : word = field.word
  · subst own
    apply BitVec.eq_of_getLsbD_eq
    intro i inWord
    rw [BitVec.getLsbD_and, BitVec.getLsbD_and, field.getLsbD_set _ _ i inWord]
    split
    · rename_i masked
      have bit := congrArg (fun bits => bits.getLsbD i) spares
      have outside : (kept field.word).getLsbD i = false := by
        simpa [field.getLsbD_mask i inWord, masked] using bit
      simp [outside]
    · rfl
  · rw [field.set_other value words word own]

theorem KeepsBits.mark (keeps : KeepsBits kept before after) (field : Field n width)
    (same : field.get after = field.get before) :
    KeepsBits (field.set (BitVec.allOnes width) kept) before after := by
  intro word
  by_cases own : word = field.word
  · subst own
    apply BitVec.eq_of_getLsbD_eq
    intro i inWord
    rw [BitVec.getLsbD_and, BitVec.getLsbD_and, field.getLsbD_set _ _ i inWord]
    split
    · rename_i masked
      have bit := congrArg (fun value => value.getLsbD (i - field.shift)) same
      have inField : i - field.shift < width := by omega
      simpa [Field.get, inField, Nat.add_sub_of_le masked.1] using bit
    · have bit := congrArg (fun bits => bits.getLsbD i) (keeps field.word)
      simpa using bit
  · rw [field.set_other _ _ _ own]
    exact keeps word

theorem KeepsBits.set_both (keeps : KeepsBits kept before after) (field : Field n width)
    (value : BitVec width) : KeepsBits kept (field.set value before) (field.set value after) := by
  intro word
  by_cases own : word = field.word
  · subst own
    apply BitVec.eq_of_getLsbD_eq
    intro i inWord
    have bit := congrArg (fun bits => bits.getLsbD i) (keeps field.word)
    simp only [BitVec.getLsbD_and] at bit ⊢
    rw [field.getLsbD_set _ _ i inWord, field.getLsbD_set _ _ i inWord]
    split
    · rfl
    · exact bit
  · rw [field.set_other value after word own, field.set_other value before word own, keeps word]

end OpenwrtSource.Lib.BitField

/-!
# Bytes of a word array

The words lie in memory least significant byte first, so a comparison of bytes
that starts and ends between words is one of words.
-/

namespace OpenwrtSource.Lib.WordBytes

open Lib.BitField

variable {n : Nat} [NeZero n]

def byteAt (words : Words n) (i : Nat) : BitVec 8 :=
  (words (Fin.ofNat n (i / 4))).extractLsb' (8 * (i % 4)) 8

/-- `memcmp` of two arrays from the same byte on: whether it finds no difference. -/
def memcmp (left right : Words n) (start len : Nat) : Bool :=
  (List.range len).all fun i => byteAt left (start + i) == byteAt right (start + i)

theorem memcmp_iff (left right : Words n) (start len : Nat) :
    memcmp left right start len = true ↔
      ∀ i, start ≤ i → i < start + len → byteAt left i = byteAt right i := by
  unfold memcmp
  simp only [List.all_eq_true, List.mem_range, beq_iff_eq]
  constructor
  · intro same i from_ below
    have here := same (i - start) (by omega)
    rwa [Nat.add_sub_cancel' from_] at here
  · intro same i below
    exact same (start + i) (Nat.le_add_right _ _) (by omega)

theorem word_eq_iff (left right : Words n) (word : Nat) :
    left (Fin.ofNat n word) = right (Fin.ofNat n word) ↔
      ∀ i, i < 4 → byteAt left (4 * word + i) = byteAt right (4 * word + i) := by
  have index : ∀ i, i < 4 → (4 * word + i) / 4 = word ∧ (4 * word + i) % 4 = i := by omega
  constructor
  · intro same i inWord
    unfold byteAt
    rw [(index i inWord).1, same]
  · intro same
    apply BitVec.eq_of_getLsbD_eq
    intro bit inWord
    have byte := congrArg (fun b => BitVec.getLsbD b (bit % 8)) (same (bit / 8) (by omega))
    obtain ⟨quotient, remainder⟩ := index (bit / 8) (by omega)
    simp only [byteAt, quotient, remainder, BitVec.getLsbD_extractLsb',
      Nat.mod_lt bit (show 0 < 8 by omega), decide_true, Bool.true_and, Nat.div_add_mod] at byte
    exact byte

theorem memcmp_words (left right : Words n) (first count : Nat) :
    memcmp left right (4 * first) (4 * count) = true ↔
      ∀ word, first ≤ word → word < first + count →
        left (Fin.ofNat n word) = right (Fin.ofNat n word) := by
  rw [memcmp_iff]
  constructor
  · intro same word after before
    rw [word_eq_iff]
    intro i inWord
    exact same (4 * word + i) (by omega) (by omega)
  · intro same i after before
    have word := (word_eq_iff left right (i / 4)).mp (same (i / 4) (by omega) (by omega))
    have byte := word (i % 4) (Nat.mod_lt i (by omega))
    rwa [Nat.div_add_mod] at byte

end OpenwrtSource.Lib.WordBytes

/-!
# Fields packed into a word

Words that are or-ed together, and fields of one width that are shifted to their
places one after the other.
-/

namespace OpenwrtSource.Lib.Packed

universe u
variable {ι : Type u} {w : Nat}

theorem getLsbD_foldl_or (word : ι → BitVec w) (items : List ι) (val : BitVec w) (b : Nat) :
    (items.foldl (fun val i => val ||| word i) val).getLsbD b =
      (val.getLsbD b || items.any fun i => (word i).getLsbD b) := by
  induction items generalizing val with
  | nil => simp
  | cons i rest ih => rw [List.foldl_cons, ih, BitVec.getLsbD_or, List.any_cons, Bool.or_assoc]

/-- `n` entries of `width` bits, the first of them lowest. -/
def packed (width : Nat) {n : Nat} (entries : Fin n → BitVec w) : BitVec w :=
  (List.finRange n).foldl (fun val i => val ||| entries i <<< (width * i.val)) 0

variable {width n : Nat} {entries : Fin n → BitVec w}

theorem getLsbD_shifted (fits : width * n ≤ w) (small : ∀ i, (entries i).toNat < 2 ^ width)
    (i j : Fin n) {b : Nat} (inside : b < width) :
    (entries j <<< (width * j.val)).getLsbD (width * i.val + b) = true ↔
      j = i ∧ (entries i).getLsbD b = true := by
  have last : width * i.val + width ≤ w := by
    rw [← Nat.mul_succ]
    exact (Nat.mul_le_mul_left width i.isLt).trans fits
  have inWord : width * i.val + b < w := by omega
  rw [BitVec.getLsbD_shiftLeft, decide_eq_true inWord, Bool.true_and, Bool.and_eq_true,
    Bool.not_eq_true', decide_eq_false_iff_not, not_lt]
  rcases Nat.lt_trichotomy j.val i.val with below | same | above
  · have beyond : width ≤ width * i.val + b - width * j.val := by
      have steps := Nat.mul_le_mul_left width (Nat.succ_le_of_lt below)
      rw [Nat.mul_succ] at steps
      omega
    have high : (entries j).getLsbD (width * i.val + b - width * j.val) = false :=
      Nat.testBit_lt_two_pow ((small j).trans_le (Nat.pow_le_pow_right (by decide) beyond))
    rw [high]
    refine iff_of_false (fun both => Bool.false_ne_true both.2) ?_
    rintro ⟨rfl, -⟩
    exact lt_irrefl _ below
  · have eq : j = i := Fin.ext same
    subst eq
    rw [Nat.add_sub_cancel_left]
    exact ⟨fun both => ⟨rfl, both.2⟩, fun both => ⟨Nat.le_add_right _ _, both.2⟩⟩
  · have before := Nat.mul_le_mul_left width (Nat.succ_le_of_lt above)
    rw [Nat.mul_succ] at before
    refine iff_of_false (fun both => by omega) ?_
    rintro ⟨rfl, -⟩
    exact lt_irrefl _ above

theorem extract_packed (fits : width * n ≤ w) (small : ∀ i, (entries i).toNat < 2 ^ width)
    (i : Fin n) :
    (packed width entries).extractLsb' (width * i.val) width = (entries i).setWidth width := by
  apply BitVec.eq_of_getLsbD_eq
  intro b inside
  rw [BitVec.getLsbD_extractLsb', BitVec.getLsbD_setWidth, decide_eq_true inside, Bool.true_and,
    Bool.true_and, Bool.eq_iff_iff, packed, getLsbD_foldl_or, Bool.or_eq_true, List.any_eq_true]
  simp only [List.mem_finRange, true_and, getLsbD_shifted fits small i _ inside]
  constructor
  · rintro (never | ⟨j, rfl, bit⟩)
    · simp at never
    · exact bit
  · exact fun bit => .inr ⟨i, rfl, bit⟩

end OpenwrtSource.Lib.Packed
