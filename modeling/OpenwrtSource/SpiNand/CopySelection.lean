import Mathlib.Data.List.FinRange
import OpenwrtSource.Lib.Selection
import OpenwrtSource.SpiNand.Casn

/-!
# The choice of a copy

`spinand_check_casn` takes the first copy that passes and otherwise tries to recover
the page from the majority of the copies.  All CRCs are compared with the one that
copy 0 stored at the start, and the page that is tested after a recovery is the one
behind the copies.
-/

namespace OpenwrtSource.SpiNand.CopySelection

open Lib.Majority SpiNand.Casn

@[instance] theorem neZeroCopies : NeZero 3 := ⟨by decide⟩

/-- `casn[CASN_PAGE_V1_COPIES]`. -/
abbrev Copies := Fin 3 → NandCasn

/-- What the loop finds about a copy; `crc` is that of copy 0. -/
def copyRet (crc : BitVec 16) (copy : NandCasn) : Int :=
  if copy.signature ≠ CASN_SIGNATURE then -EINVAL
  else if crc ≠ crcCompute copy then -EBADMSG
  else spinandCheckCasnValidity copy

/-- The loop: the copy it breaks at, and `ret`. -/
def tryCopies (crc : BitVec 16) (casn : Copies) : List (Fin 3) → Int → Option (Fin 3) × Int
  | [], ret => (none, ret)
  | i :: rest, _ =>
    if copyRet crc (casn i) < 0 then tryCopies crc casn rest (copyRet crc (casn i))
    else (some i, copyRet crc (casn i))

/-- The return value, `*sel` and the buffer of the copies. -/
structure Checked where
  ret : Int
  sel : Fin 3
  casn : Copies

/-- The recovery: the majority is written over copy 0.  `behind` is what memory has after the
three copies, at `casn + i` once `i` has passed them. -/
def recover (crc : BitVec 16) (casn : Copies) (behind : NandCasn) (sel : Fin 3) : Checked :=
  let page := nanddevBitWiseMajority ((List.finRange 3).map casn)
  let casn := Function.update casn 0 page
  if crcCompute page ≠ crc then ⟨-EBADMSG, sel, casn⟩
  else if spinandCheckCasnValidity behind < 0 then ⟨spinandCheckCasnValidity behind, sel, casn⟩
  else ⟨spinandCheckCasnValidity behind, 0, casn⟩

def spinandCheckCasn (casn : Copies) (behind : NandCasn) (sel : Fin 3) : Checked :=
  match tryCopies (casn 0).crc casn (List.finRange 3) 0 with
  | (some i, ret) => ⟨ret, i, casn⟩
  | (none, ret) =>
    if ret = -EBADMSG then recover (casn 0).crc casn behind sel else ⟨ret, sel, casn⟩

/-- The right signature, the CRC of the page itself and valid parameters. -/
structure Intact (page : NandCasn) : Prop where
  signature : page.signature = CASN_SIGNATURE
  crc : crcCompute page = page.crc
  valid : spinandCheckCasnValidity page = 0

def majorityPage (casn : Copies) : NandCasn := fun i =>
  (casn 0 i &&& casn 1 i) ||| (casn 0 i &&& casn 2 i) ||| (casn 1 i &&& casn 2 i)

structure SelectsIntact (casn : Copies) (done : Checked) : Prop where
  copy : (∃ i, Intact (casn i)) →
    done.ret = 0 ∧ ∃ i, Intact (casn i) ∧ done.casn done.sel = casn i
  recovery : (∀ i, ¬ Intact (casn i)) →
    (done.ret = 0 ↔ Intact (majorityPage casn)) ∧
      (done.ret = 0 → done.casn done.sel = majorityPage casn)

/-- The copy passes with the CRC of copy 0 in the place of its own. -/
def Passes (casn : Copies) (i : Fin 3) : Prop := copyRet (casn 0).crc (casn i) = 0

instance (casn : Copies) (i : Fin 3) : Decidable (Passes casn i) :=
  inferInstanceAs (Decidable (_ = _))

structure Recovers (casn : Copies) (behind : NandCasn) : Prop where
  tried : copyRet (casn 0).crc (casn 2) = -EBADMSG
  crc : crcCompute (majorityPage casn) = (casn 0).crc
  behind : spinandCheckCasnValidity behind = 0

/-- The first copy that passes stores the CRC that it was compared with.  If none passes,
none is intact, and the recovery is accepted if and only if the majority is intact. -/
def OneCrc (casn : Copies) (behind : NandCasn) : Prop :=
  match (List.finRange 3).find? fun i => decide (Passes casn i) with
  | some i => (casn i).crc = (casn 0).crc
  | none => (∀ i, ¬ Intact (casn i)) ∧ (Recovers casn behind ↔ Intact (majorityPage casn))

theorem copyRet_cases (crc : BitVec 16) (copy : NandCasn) :
    copyRet crc copy = 0 ∨ copyRet crc copy < 0 := by
  have small : (-EINVAL : Int) < 0 ∧ (-EBADMSG : Int) < 0 := by decide
  unfold copyRet
  split_ifs
  · exact .inr small.1
  · exact .inr small.2
  · refine (validity_cases copy).imp_right fun refused => ?_
    rw [refused]
    exact small.1

theorem copyRet_eq_zero_iff (crc : BitVec 16) (copy : NandCasn) :
    copyRet crc copy = 0 ↔
      copy.signature = CASN_SIGNATURE ∧ crc = crcCompute copy ∧
        spinandCheckCasnValidity copy = 0 := by
  have small : (-EINVAL : Int) ≠ 0 ∧ (-EBADMSG : Int) ≠ 0 := by decide
  unfold copyRet
  split_ifs with signature crc'
  · exact iff_of_false small.1 fun passed => signature passed.1
  · exact iff_of_false small.2 fun passed => crc' passed.2.1
  · rw [and_iff_right (not_not.mp signature), and_iff_right (not_not.mp crc')]

variable {casn : Copies} {i : Fin 3}

theorem intact_iff_of_passes (passes : Passes casn i) :
    Intact (casn i) ↔ (casn i).crc = (casn 0).crc := by
  obtain ⟨signature, crc, valid⟩ := (copyRet_eq_zero_iff _ _).mp passes
  constructor
  · intro intact
    rw [← intact.crc, crc]
  · intro same
    exact ⟨signature, by rw [same, crc], valid⟩

theorem passes_of_intact (intact : Intact (casn i)) (crc : crcCompute (casn i) = (casn 0).crc) :
    Passes casn i :=
  (copyRet_eq_zero_iff _ _).mpr ⟨intact.signature, crc.symm, intact.valid⟩

theorem tryCopies_eq (casn : Copies) (copies : List (Fin 3)) (ret : Int) :
    tryCopies (casn 0).crc casn copies ret =
      match copies.find? fun i => decide (Passes casn i) with
      | some i => (some i, 0)
      | none => (none, (copies.getLast?.map fun i => copyRet (casn 0).crc (casn i)).getD ret) := by
  induction copies generalizing ret with
  | nil => rfl
  | cons i rest ih =>
    unfold tryCopies
    rcases copyRet_cases (casn 0).crc (casn i) with passed | failed
    · have passes : Passes casn i := passed
      rw [if_neg (by omega), List.find?_cons_of_pos (by simpa using passes), passed]
    · have fails : ¬ Passes casn i := fun passed => by
        unfold Passes at passed
        omega
      rw [if_pos failed, ih, List.find?_cons_of_neg (by simpa using fails)]
      cases rest with
      | nil => rfl
      | cons next rest => rw [List.getLast?_cons_cons]; rfl

theorem majorityByte_eq (bytes : List (BitVec 8)) : majorityByte bytes = majority bytes := by
  unfold majorityByte majority collect
  simp only [decide_eq_true_eq]

theorem majority_eq_and_or (a b c : BitVec 8) :
    majority [a, b, c] = (a &&& b) ||| (a &&& c) ||| (b &&& c) := by
  apply BitVec.eq_of_getLsbD_eq
  intro k inside
  rw [getLsbD_majority _ inside]
  simp only [List.countP_cons, List.countP_nil, List.length_cons, List.length_nil,
    BitVec.getLsbD_or, BitVec.getLsbD_and]
  cases a.getLsbD k <;> cases b.getLsbD k <;> cases c.getLsbD k <;> rfl

theorem nanddevBitWiseMajority_copies (casn : Copies) :
    nanddevBitWiseMajority ((List.finRange 3).map casn) = majorityPage casn := by
  funext i
  unfold nanddevBitWiseMajority majorityPage
  rw [majorityByte_eq]
  exact majority_eq_and_or (casn 0 i) (casn 1 i) (casn 2 i)

theorem spinandCheckCasn_some
    (first : (List.finRange 3).find? (fun i => decide (Passes casn i)) = some i) (behind : NandCasn)
    (sel : Fin 3) : spinandCheckCasn casn behind sel = ⟨0, i, casn⟩ := by
  unfold spinandCheckCasn
  rw [tryCopies_eq, first]

theorem spinandCheckCasn_none
    (failed : (List.finRange 3).find? (fun i => decide (Passes casn i)) = none) (behind : NandCasn)
    (sel : Fin 3) :
    spinandCheckCasn casn behind sel =
      if copyRet (casn 0).crc (casn 2) = -EBADMSG then recover (casn 0).crc casn behind sel
      else ⟨copyRet (casn 0).crc (casn 2), sel, casn⟩ := by
  unfold spinandCheckCasn
  rw [tryCopies_eq, failed]
  rfl

theorem recover_spec (crc : BitVec 16) (casn : Copies) (behind : NandCasn) (sel : Fin 3) :
    ((recover crc casn behind sel).ret = 0 ↔
        crcCompute (majorityPage casn) = crc ∧ spinandCheckCasnValidity behind = 0) ∧
      ((recover crc casn behind sel).ret = 0 →
        (recover crc casn behind sel).casn (recover crc casn behind sel).sel =
          majorityPage casn) := by
  have small : (-EINVAL : Int) < 0 ∧ (-EBADMSG : Int) ≠ 0 := by decide
  unfold recover
  simp only [nanddevBitWiseMajority_copies]
  split_ifs with other refused
  · exact ⟨iff_of_false small.2 fun accepted => other accepted.1, fun done => absurd done small.2⟩
  · have bad : spinandCheckCasnValidity behind ≠ 0 := ne_of_lt refused
    exact ⟨iff_of_false bad fun accepted => bad accepted.2, fun done => absurd done bad⟩
  · have good : spinandCheckCasnValidity behind = 0 := by
      refine (validity_cases behind).resolve_right fun bad => refused ?_
      rw [bad]
      exact small.1
    refine ⟨iff_of_true good ⟨not_not.mp other, good⟩, fun _ => ?_⟩
    exact Function.update_self (0 : Fin 3) (majorityPage casn) casn

theorem spinandCheckCasn_recovers
    (failed : (List.finRange 3).find? (fun i => decide (Passes casn i)) = none) (behind : NandCasn)
    (sel : Fin 3) :
    ((spinandCheckCasn casn behind sel).ret = 0 ↔ Recovers casn behind) ∧
      ((spinandCheckCasn casn behind sel).ret = 0 →
        (spinandCheckCasn casn behind sel).casn (spinandCheckCasn casn behind sel).sel =
          majorityPage casn) := by
  have last : copyRet (casn 0).crc (casn 2) ≠ 0 := fun passes =>
    List.find?_eq_none.mp failed 2 (List.mem_finRange 2) (decide_eq_true passes)
  obtain ⟨accepts, page⟩ := recover_spec (casn 0).crc casn behind sel
  rw [spinandCheckCasn_none failed]
  by_cases tried : copyRet (casn 0).crc (casn 2) = -EBADMSG
  · rw [if_pos tried]
    refine ⟨accepts.trans ⟨fun accepted => ⟨tried, accepted.1, accepted.2⟩, ?_⟩, page⟩
    exact fun recovers => ⟨recovers.crc, recovers.behind⟩
  · rw [if_neg tried]
    exact ⟨iff_of_false last fun recovers => tried recovers.tried, fun done => absurd done last⟩

/-- The copies are handled as they should be exactly when the CRC of copy 0 serves for all. -/
theorem selects_intact_iff (casn : Copies) (behind : NandCasn) (sel : Fin 3) :
    SelectsIntact casn (spinandCheckCasn casn behind sel) ↔ OneCrc casn behind := by
  unfold OneCrc
  cases first : (List.finRange 3).find? fun i => decide (Passes casn i) with
  | some i =>
    have passes : Passes casn i := by simpa using List.find?_some first
    have chosen := spinandCheckCasn_some first behind sel
    simp only [← intact_iff_of_passes passes]
    constructor
    · intro selects
      by_cases some_intact : ∃ j, Intact (casn j)
      · obtain ⟨-, j, intact, same⟩ := selects.copy some_intact
        have same : casn i = casn j := by rw [← same, chosen]
        rw [same]
        exact intact
      · obtain ⟨accepts, page⟩ := selects.recovery (not_exists.mp some_intact)
        rw [chosen] at accepts page
        have same : casn i = majorityPage casn := page rfl
        rw [same]
        exact accepts.mp rfl
    · intro intact
      rw [chosen]
      exact ⟨fun _ => ⟨rfl, i, intact, rfl⟩, fun none_intact => absurd intact (none_intact i)⟩
  | none =>
    obtain ⟨accepts, page⟩ := spinandCheckCasn_recovers first behind sel
    simp only
    constructor
    · intro selects
      have none_intact : ∀ i, ¬ Intact (casn i) := by
        intro i intact
        obtain ⟨done, j, intact, same⟩ := selects.copy ⟨i, intact⟩
        -- the recovered page has the CRC of copy 0, so the copy that it equals passes
        have crc := (accepts.mp done).crc
        rw [← page done, same] at crc
        have fails := List.find?_eq_none.mp first j (List.mem_finRange j)
        exact fails (decide_eq_true (passes_of_intact intact crc))
      exact ⟨none_intact, accepts.symm.trans (selects.recovery none_intact).1⟩
    · rintro ⟨none_intact, same⟩
      exact ⟨fun ⟨i, intact⟩ => absurd intact (none_intact i),
        fun _ => ⟨accepts.trans same, page⟩⟩

theorem majorityPage_of_agree {page : NandCasn} (one : casn 1 = page) (two : casn 2 = page) :
    majorityPage casn = page := by
  funext i
  unfold majorityPage
  rw [one, two, ← majority_eq_and_or]
  apply majority_eq_of_count
  rw [List.countP_cons, List.countP_cons_of_pos (by simp), List.countP_cons_of_pos (by simp)]
  simp only [List.length_cons, List.length_nil, List.countP_nil]
  omega

def storedPage : NandCasn := pageOf (plainBytes ++ [(254, 0xF0), (255, 0xE6)])

theorem crcCompute_storedPage : crcCompute storedPage = 0xF0E6 := by decide +kernel

theorem intact_storedPage : Intact storedPage :=
  ⟨by decide +kernel, crcCompute_storedPage, by decide +kernel⟩

def lostCrc : Copies := fun i => if i = 0 then pageOf plainBytes else storedPage

theorem crcCompute_lostCrc (i : Fin 3) : crcCompute (lostCrc i) = 0xF0E6 := by
  unfold lostCrc
  by_cases first : i = 0
  · rw [if_pos first]
    decide +kernel
  · rw [if_neg first]
    exact crcCompute_storedPage

theorem lostCrc_not_selected :
    ¬ SelectsIntact lostCrc (spinandCheckCasn lostCrc storedPage 0) := by
  intro selects
  have majority : majorityPage lostCrc = storedPage := majorityPage_of_agree rfl rfl
  have other : (lostCrc 0).crc ≠ 0xF0E6 := by decide
  have failed : (List.finRange 3).find? (fun i => decide (Passes lostCrc i)) = none := by
    refine List.find?_eq_none.mpr fun i _ passes => other ?_
    rw [← crcCompute_lostCrc i]
    exact ((copyRet_eq_zero_iff _ _).mp (of_decide_eq_true passes)).2.1
  have done := (selects.copy ⟨1, intact_storedPage⟩).1
  have recovers := (spinandCheckCasn_recovers failed storedPage 0).1.mp done
  have crc := recovers.crc
  rw [majority, crcCompute_storedPage] at crc
  exact other crc.symm

end OpenwrtSource.SpiNand.CopySelection
