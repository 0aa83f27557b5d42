import OpenwrtSource.Lib.Spans
import OpenwrtSource.SpiNand.Casn

/-!
# The layout of the spare area

`spinand_casn_ooblayout_free` and `spinand_casn_ooblayout_ecc` give the free and the
ECC bytes of a section from seven numbers of the page.  None of the seven is tested
beyond the kind of the layout.
-/

namespace OpenwrtSource.SpiNand.OobLayout

open Lib.Spans SpiNand.Casn

/-- `struct mtd_oob_region`. -/
structure Region where
  offset : Nat
  length : BitVec 32

/-- What the functions say in place of a region. -/
inductive Fault where
  | divideByZero
  | erange

/-- `sectionp`; `memorg.pagesize` comes from the page, `ecc_step_size` from `struct mtd_info`. -/
def sectionp (casn : NandCasn) (eccStepSize : BitVec 32) : Except Fault Nat :=
  if eccStepSize = 0 then .error .divideByZero
  else .ok (casn.bytesPerPage.toNat / eccStepSize.toNat)

/-- An unknown kind of layout leaves `region->offset` as it was. -/
def spinandCasnOoblayoutEcc (casn : NandCasn) (eccStepSize : BitVec 32) (section' : Nat)
    (region : Region) : Except Fault Region := do
  let co := casn.casnOob
  let sections ← sectionp casn eccStepSize
  if section' ≥ sections then .error .erange
  let offset :=
    if co.layoutType = OOB_DISCRETE then
      co.eccParityStart.toNat + (co.freeLength.toNat + co.eccParitySpace.toNat) * section'
    else if co.layoutType = OOB_CONTINUOUS then
      co.eccParityStart.toNat + co.eccParitySpace.toNat * section'
    else region.offset
  return ⟨offset, co.eccParityRealLength.setWidth 32⟩

def spinandCasnOoblayoutFree (casn : NandCasn) (eccStepSize : BitVec 32) (section' : Nat)
    (region : Region) : Except Fault Region := do
  let co := casn.casnOob
  let sections ← sectionp casn eccStepSize
  if section' ≥ sections then .error .erange
  if section' = 0 then
    return ⟨co.freeStart.toNat + co.bbmLength.toNat,
      co.freeLength.setWidth 32 - co.bbmLength.setWidth 32⟩
  let offset :=
    if co.layoutType = OOB_DISCRETE then
      co.freeStart.toNat + (co.freeLength.toNat + co.eccParitySpace.toNat) * section'
    else if co.layoutType = OOB_CONTINUOUS then
      co.freeStart.toNat + co.freeLength.toNat * section'
    else region.offset
  return ⟨offset, co.freeLength.setWidth 32⟩

def Region.span (region : Region) : Span := ⟨region.offset, region.length.toNat⟩

def bbm (casn : NandCasn) : Span := ⟨casn.casnOob.freeStart.toNat, casn.casnOob.bbmLength.toNat⟩

/-- The calls for section `s` give a region whatever is in the one that is passed. -/
def IsFree (casn : NandCasn) (eccStepSize : BitVec 32) (s : Nat) (region : Region) : Prop :=
  ∃ before, spinandCasnOoblayoutFree casn eccStepSize s before = .ok region

def IsEcc (casn : NandCasn) (eccStepSize : BitVec 32) (s : Nat) (region : Region) : Prop :=
  ∃ before, spinandCasnOoblayoutEcc casn eccStepSize s before = .ok region

structure Sound (casn : NandCasn) (eccStepSize : BitVec 32) : Prop where
  divides : ∀ s before,
    spinandCasnOoblayoutFree casn eccStepSize s before ≠ .error .divideByZero ∧
      spinandCasnOoblayoutEcc casn eccStepSize s before ≠ .error .divideByZero
  length : ∀ region, IsFree casn eccStepSize 0 region →
    (region.length.toNat : Int) = casn.casnOob.freeLength.toNat - casn.casnOob.bbmLength.toNat
  inside : ∀ s region, IsFree casn eccStepSize s region ∨ IsEcc casn eccStepSize s region →
    region.span.EndsBy casn.spareBytesPerPage.toNat
  free : ∀ s t, s ≠ t → ∀ first second, IsFree casn eccStepSize s first →
    IsFree casn eccStepSize t second → Apart first.span second.span
  ecc : ∀ s t, s ≠ t → ∀ first second, IsEcc casn eccStepSize s first →
    IsEcc casn eccStepSize t second → Apart first.span second.span
  freeEcc : ∀ s t first second, IsFree casn eccStepSize s first →
    IsEcc casn eccStepSize t second → Apart first.span second.span
  bbm : ∀ s region, IsFree casn eccStepSize s region ∨ IsEcc casn eccStepSize s region →
    Apart (bbm casn) region.span

section Numbers

variable (casn : NandCasn)

def freeStart : Nat := casn.casnOob.freeStart.toNat
def freeLength : Nat := casn.casnOob.freeLength.toNat
def bbmLength : Nat := casn.casnOob.bbmLength.toNat
def eccStart : Nat := casn.casnOob.eccParityStart.toNat
def eccLength : Nat := casn.casnOob.eccParityRealLength.toNat
def eccSpace : Nat := casn.casnOob.eccParitySpace.toNat

def freeStep : Nat :=
  if casn.casnOob.layoutType = OOB_DISCRETE then freeLength casn + eccSpace casn
  else freeLength casn

def eccStep : Nat :=
  if casn.casnOob.layoutType = OOB_DISCRETE then freeLength casn + eccSpace casn
  else eccSpace casn

/-- The free bytes lie in the gaps of the ECC bytes: in a discrete layout those of the last
section in a gap of the ECC bytes continued, in a continuous one all together in one gap. -/
def FreeInGap (n : Nat) : Prop :=
  if casn.casnOob.layoutType = OOB_DISCRETE then
    InGap ⟨freeStart casn + freeStep casn * (n - 1), freeLength casn⟩ (eccStart casn)
      (eccStep casn) (eccLength casn) (2 * n - 1)
  else
    InGap ⟨freeStart casn, freeLength casn * n⟩ (eccStart casn) (eccStep casn)
      (eccLength casn) n

/-- The seven numbers go together for `n` sections. -/
structure Fits (n : Nat) : Prop where
  bbm : bbmLength casn ≤ freeLength casn
  freeEnd : freeStart casn + freeStep casn * (n - 1) + freeLength casn ≤
    casn.spareBytesPerPage.toNat
  eccEnd : eccStart casn + eccStep casn * (n - 1) + eccLength casn ≤ casn.spareBytesPerPage.toNat
  eccStep : n = 1 ∨ eccLength casn ≤ eccStep casn
  gap : freeLength casn = 0 ∨ eccLength casn = 0 ∨ FreeInGap casn n

/-- The free bytes of a section, before the marker's bytes are left out. -/
def block (s : Nat) : Span := spaced (freeStart casn) (freeStep casn) (freeLength casn) s

def eccSpan (s : Nat) : Span := spaced (eccStart casn) (eccStep casn) (eccLength casn) s

def freeRegion (s : Nat) : Region :=
  if s = 0 then
    ⟨freeStart casn + bbmLength casn,
      casn.casnOob.freeLength.setWidth 32 - casn.casnOob.bbmLength.setWidth 32⟩
  else ⟨freeStart casn + freeStep casn * s, casn.casnOob.freeLength.setWidth 32⟩

def eccRegion (s : Nat) : Region :=
  ⟨eccStart casn + eccStep casn * s, casn.casnOob.eccParityRealLength.setWidth 32⟩

end Numbers

variable {casn : NandCasn} {eccStepSize : BitVec 32}

theorem sectionp_ok (divides : eccStepSize ≠ 0) :
    sectionp casn eccStepSize = .ok (casn.bytesPerPage.toNat / eccStepSize.toNat) :=
  if_neg divides

theorem free_eq (accepted : Accepted casn) (divides : eccStepSize ≠ 0) (s : Nat) (before : Region) :
    spinandCasnOoblayoutFree casn eccStepSize s before =
      if s < casn.bytesPerPage.toNat / eccStepSize.toNat then .ok (freeRegion casn s)
      else .error .erange := by
  unfold spinandCasnOoblayoutFree freeRegion freeStep
  rw [sectionp_ok divides]
  simp only [bind, Except.bind, pure, Except.pure]
  by_cases inside : s < casn.bytesPerPage.toNat / eccStepSize.toNat
  · rw [if_neg (Nat.not_le.mpr inside), if_pos inside]
    by_cases first : s = 0
    · rw [if_pos first, if_pos first]
      rfl
    · rw [if_neg first, if_neg first]
      rcases accepted.layoutType with layout | layout
      · rw [layout]
        rfl
      · rw [layout]
        rfl
  · rw [if_pos (Nat.not_lt.mp inside), if_neg inside]

theorem ecc_eq (accepted : Accepted casn) (divides : eccStepSize ≠ 0) (s : Nat) (before : Region) :
    spinandCasnOoblayoutEcc casn eccStepSize s before =
      if s < casn.bytesPerPage.toNat / eccStepSize.toNat then .ok (eccRegion casn s)
      else .error .erange := by
  unfold spinandCasnOoblayoutEcc eccRegion eccStep
  rw [sectionp_ok divides]
  simp only [bind, Except.bind, pure, Except.pure]
  by_cases inside : s < casn.bytesPerPage.toNat / eccStepSize.toNat
  · rw [if_neg (Nat.not_le.mpr inside), if_pos inside]
    rcases accepted.layoutType with layout | layout
    · rw [layout]
      rfl
    · rw [layout]
      rfl
  · rw [if_pos (Nat.not_lt.mp inside), if_neg inside]

theorem given_iff {call : Region → Except Fault Region} {inside : Prop} [Decidable inside]
    {found region : Region}
    (calls : ∀ before, call before = if inside then .ok found else .error .erange) :
    (∃ before, call before = .ok region) ↔ inside ∧ region = found := by
  constructor
  · rintro ⟨before, given⟩
    rw [calls] at given
    by_cases here : inside
    · rw [if_pos here] at given
      exact ⟨here, (Except.ok.inj given).symm⟩
    · rw [if_neg here] at given
      cases given
  · rintro ⟨here, rfl⟩
    exact ⟨region, by rw [calls, if_pos here]⟩

theorem isFree_iff (accepted : Accepted casn) (divides : eccStepSize ≠ 0) (s : Nat)
    (region : Region) :
    IsFree casn eccStepSize s region ↔
      s < casn.bytesPerPage.toNat / eccStepSize.toNat ∧ region = freeRegion casn s :=
  given_iff (free_eq accepted divides s)

theorem isEcc_iff (accepted : Accepted casn) (divides : eccStepSize ≠ 0) (s : Nat)
    (region : Region) :
    IsEcc casn eccStepSize s region ↔
      s < casn.bytesPerPage.toNat / eccStepSize.toNat ∧ region = eccRegion casn s :=
  given_iff (ecc_eq accepted divides s)

theorem toNat_byte (byte : BitVec 8) : (byte.setWidth 32).toNat = byte.toNat :=
  BitVec.toNat_setWidth_of_le (by decide)

theorem eccRegion_span (s : Nat) : (eccRegion casn s).span = eccSpan casn s := by
  unfold eccRegion Region.span
  rw [toNat_byte]
  rfl

theorem free_length_iff :
    ((freeRegion casn 0).length.toNat : Int) =
        casn.casnOob.freeLength.toNat - casn.casnOob.bbmLength.toNat ↔
      bbmLength casn ≤ freeLength casn := by
  have length : (freeRegion casn 0).length.toNat =
      (2 ^ 32 - casn.casnOob.bbmLength.toNat + casn.casnOob.freeLength.toNat) % 2 ^ 32 := by
    unfold freeRegion
    rw [if_pos rfl, BitVec.toNat_sub, toNat_byte, toNat_byte]
  have free : casn.casnOob.freeLength.toNat < 2 ^ 8 := casn.casnOob.freeLength.isLt
  have marker : casn.casnOob.bbmLength.toNat < 2 ^ 8 := casn.casnOob.bbmLength.isLt
  rw [length]
  unfold bbmLength freeLength
  omega

theorem freeRegion_length_zero (room : bbmLength casn ≤ freeLength casn) :
    (freeRegion casn 0).length.toNat = freeLength casn - bbmLength casn := by
  have length := free_length_iff.mpr room
  unfold freeLength bbmLength at *
  omega

theorem apart_block_iff (room : bbmLength casn ≤ freeLength casn) (s : Nat) (other : Span) :
    Apart (block casn s) other ↔
      Apart (freeRegion casn s).span other ∧ (s = 0 → Apart (bbm casn) other) := by
  have free : (casn.casnOob.freeLength.setWidth 32).toNat = freeLength casn := toNat_byte _
  by_cases first : s = 0
  · rw [and_comm, first, eq_self, true_imp_iff]
    refine apart_union_iff fun x => ?_
    unfold Span.Has block spaced Region.span bbm
    rw [freeRegion_length_zero room]
    unfold freeRegion
    rw [if_pos rfl]
    unfold freeStart freeLength bbmLength at *
    simp only
    omega
  · unfold freeRegion Region.span
    rw [if_neg first, and_iff_left fun zero => absurd zero first]
    simp only [free]
    exact Iff.rfl

theorem freeRegion_endsBy_iff (room : bbmLength casn ≤ freeLength casn) (s limit : Nat) :
    (freeRegion casn s).span.EndsBy limit ↔
      freeStart casn + freeStep casn * s + freeLength casn ≤ limit := by
  unfold Span.EndsBy Region.span
  by_cases first : s = 0
  · rw [first, freeRegion_length_zero room]
    unfold freeRegion
    rw [if_pos rfl]
    simp only
    omega
  · unfold freeRegion
    rw [if_neg first, toNat_byte]
    exact Iff.rfl

theorem freeLength_le_freeStep : freeLength casn ≤ freeStep casn := by
  unfold freeStep
  split_ifs
  · exact Nat.le_add_right _ _
  · exact Nat.le_refl _

theorem block_apart_ecc_iff {n : Nat} (nonempty : 0 < n) :
    (∀ s < n, ∀ t < n, Apart (block casn s) (eccSpan casn t)) ↔
      freeLength casn = 0 ∨ eccLength casn = 0 ∨ FreeInGap casn n := by
  unfold block eccSpan FreeInGap
  by_cases discrete : casn.casnOob.layoutType = OOB_DISCRETE
  · have same : eccStep casn = freeStep casn := by
      unfold eccStep freeStep
      rw [if_pos discrete, if_pos discrete]
    rw [if_pos discrete, same]
    exact spaced_apart_spaced_iff _ _ _ _ _ n nonempty
  · have step : freeStep casn = freeLength casn := if_neg discrete
    have swapped : (∀ s < n, ∀ t < n, Apart (spaced (freeStart casn) (freeStep casn)
          (freeLength casn) s) (spaced (eccStart casn) (eccStep casn) (eccLength casn) t)) ↔
        ∀ t < n, Apart ⟨freeStart casn, freeLength casn * n⟩
          (spaced (eccStart casn) (eccStep casn) (eccLength casn) t) := by
      rw [step]
      constructor
      · intro apart t inside
        exact (contiguous_apart_iff _ _ _ _).mp fun s bound => apart s bound t inside
      · intro apart s bound t inside
        exact (contiguous_apart_iff _ _ _ _).mpr (apart t inside) s bound
    have none : freeLength casn * n = 0 ↔ freeLength casn = 0 := by
      rw [Nat.mul_eq_zero]
      omega
    rw [if_neg discrete, swapped, apart_spaced_iff, none]

theorem free_apart (room : bbmLength casn ≤ freeLength casn) {s : Nat} {other : Span}
    (apart : Apart (block casn s) other) : Apart (freeRegion casn s).span other :=
  ((apart_block_iff room s other).mp apart).1

theorem bbm_apart (room : bbmLength casn ≤ freeLength casn) {other : Span}
    (apart : Apart (block casn 0) other) : Apart (bbm casn) other :=
  ((apart_block_iff room 0 other).mp apart).2 rfl

theorem blocks_apart (casn : NandCasn) {s t : Nat} (other : s ≠ t) :
    Apart (block casn s) (block casn t) :=
  (spaced_pairwise_iff _ _ _ (max s t + 1)).mpr (.inr freeLength_le_freeStep) s (by omega) t
    (by omega) other

theorem bbm_apart_free (room : bbmLength casn ≤ freeLength casn) (s : Nat) :
    Apart (bbm casn) (freeRegion casn s).span := by
  by_cases first : s = 0
  · refine Apart.of_le ?_
    unfold freeRegion
    rw [if_pos first]
    exact Nat.le_refl _
  · exact (free_apart room (bbm_apart room (blocks_apart casn (Ne.symm first))).symm).symm

theorem sound_of_fits (accepted : Accepted casn) (divides : eccStepSize ≠ 0) {n : Nat}
    (sections : n = casn.bytesPerPage.toNat / eccStepSize.toNat)
    (fits : 0 < n → Fits casn n) : Sound casn eccStepSize := by
  have free {s : Nat} {region : Region} (given : IsFree casn eccStepSize s region) :
      s < n ∧ region = freeRegion casn s :=
    sections ▸ (isFree_iff accepted divides s region).mp given
  have ecc {s : Nat} {region : Region} (given : IsEcc casn eccStepSize s region) :
      s < n ∧ region = eccRegion casn s := sections ▸ (isEcc_iff accepted divides s region).mp given
  have apart {s t : Nat} (inS : s < n) (inT : t < n) : Apart (block casn s) (eccSpan casn t) := by
    have nonempty : 0 < n := Nat.zero_lt_of_lt inS
    exact (block_apart_ecc_iff nonempty).mpr (fits nonempty).gap s inS t inT
  constructor
  · intro s before
    rw [free_eq accepted divides, ecc_eq accepted divides]
    split_ifs <;> exact ⟨nofun, nofun⟩
  · intro region given
    obtain ⟨inside, rfl⟩ := free given
    exact free_length_iff.mpr (fits inside).bbm
  · rintro s region (given | given)
    · obtain ⟨inside, rfl⟩ := free given
      have known := fits (Nat.zero_lt_of_lt inside)
      have before := Nat.mul_le_mul_left (freeStep casn) (Nat.le_sub_one_of_lt inside)
      exact (freeRegion_endsBy_iff known.bbm s _).mpr (by have := known.freeEnd; omega)
    · obtain ⟨inside, rfl⟩ := ecc given
      have known := fits (Nat.zero_lt_of_lt inside)
      have before := Nat.mul_le_mul_left (eccStep casn) (Nat.le_sub_one_of_lt inside)
      have last := known.eccEnd
      rw [eccRegion_span]
      unfold Span.EndsBy eccSpan spaced
      simp only
      omega
  · intro s t other first second givenS givenT
    obtain ⟨inS, rfl⟩ := free givenS
    obtain ⟨inT, rfl⟩ := free givenT
    have room := (fits (Nat.zero_lt_of_lt inS)).bbm
    exact (free_apart room (free_apart room (blocks_apart casn other)).symm).symm
  · intro s t other first second givenS givenT
    obtain ⟨inS, rfl⟩ := ecc givenS
    obtain ⟨inT, rfl⟩ := ecc givenT
    have known := fits (Nat.zero_lt_of_lt inS)
    rw [eccRegion_span, eccRegion_span]
    exact (spaced_pairwise_iff _ _ _ n).mpr (known.eccStep.imp_left Nat.le_of_eq) s inS t inT other
  · intro s t first second givenS givenT
    obtain ⟨inS, rfl⟩ := free givenS
    obtain ⟨inT, rfl⟩ := ecc givenT
    rw [eccRegion_span]
    exact free_apart (fits (Nat.zero_lt_of_lt inS)).bbm (apart inS inT)
  · rintro s region (given | given)
    · obtain ⟨inside, rfl⟩ := free given
      exact bbm_apart_free (fits (Nat.zero_lt_of_lt inside)).bbm s
    · obtain ⟨inside, rfl⟩ := ecc given
      have nonempty : 0 < n := Nat.zero_lt_of_lt inside
      rw [eccRegion_span]
      exact bbm_apart (fits nonempty).bbm (apart nonempty inside)

theorem fits_of_sound (accepted : Accepted casn) (divides : eccStepSize ≠ 0)
    (sound : Sound casn eccStepSize) {n : Nat}
    (sections : n = casn.bytesPerPage.toNat / eccStepSize.toNat) (nonempty : 0 < n) :
    Fits casn n := by
  have isFree (s : Nat) (inside : s < n) : IsFree casn eccStepSize s (freeRegion casn s) :=
    (isFree_iff accepted divides s _).mpr ⟨sections ▸ inside, rfl⟩
  have isEcc (s : Nat) (inside : s < n) : IsEcc casn eccStepSize s (eccRegion casn s) :=
    (isEcc_iff accepted divides s _).mpr ⟨sections ▸ inside, rfl⟩
  have last : n - 1 < n := Nat.sub_lt nonempty Nat.one_pos
  have room := free_length_iff.mp (sound.length _ (isFree 0 nonempty))
  refine ⟨room, ?_, ?_, ?_, ?_⟩
  · exact (freeRegion_endsBy_iff room _ _).mp (sound.inside _ _ (.inl (isFree _ last)))
  · have inside := sound.inside _ _ (.inr (isEcc _ last))
    rw [eccRegion_span] at inside
    exact inside
  · have pairwise := (spaced_pairwise_iff (eccStart casn) (eccStep casn) (eccLength casn) n).mp
      fun s inS t inT other => by
        have apart := sound.ecc s t other _ _ (isEcc s inS) (isEcc t inT)
        rw [eccRegion_span, eccRegion_span] at apart
        exact apart
    exact pairwise.imp_left fun few => Nat.le_antisymm few nonempty
  · refine (block_apart_ecc_iff nonempty).mp fun s inS t inT => ?_
    rw [← eccRegion_span]
    exact (apart_block_iff room s _).mpr ⟨sound.freeEcc s t _ _ (isFree s inS) (isEcc t inT),
      fun _ => sound.bbm t _ (.inr (isEcc t inT))⟩

/-- Accepted pages have a sound layout exactly if the step divides and the numbers go together
for the sections that there are. -/
theorem ooblayout_sound_iff (casn : NandCasn) (valid : spinandCheckCasnValidity casn = 0)
    (eccStepSize : BitVec 32) :
    Sound casn eccStepSize ↔
      eccStepSize ≠ 0 ∧
        (casn.bytesPerPage.toNat / eccStepSize.toNat = 0 ∨
          Fits casn (casn.bytesPerPage.toNat / eccStepSize.toNat)) := by
  have accepted := (accepted_iff casn).mp valid
  constructor
  · intro sound
    have divides : eccStepSize ≠ 0 := by
      rintro rfl
      exact (sound.divides 0 ⟨0, 0⟩).1 rfl
    refine ⟨divides, (Nat.eq_zero_or_pos _).imp_right fun nonempty => ?_⟩
    exact fits_of_sound accepted divides sound rfl nonempty
  · rintro ⟨divides, fits⟩
    exact sound_of_fits accepted divides rfl fun nonempty => fits.resolve_left nonempty.ne'

/-- Eight free and eight ECC bytes in turn, the first two free bytes for the marker. -/
def oobPage : NandCasn :=
  pageOf (plainBytes ++ [(218, 8), (219, 2), (220, 8), (221, 8), (222, 8)])

theorem oobPage_sound : Sound oobPage 512 := by
  refine (ooblayout_sound_iff oobPage (by decide +kernel) 512).mpr ⟨by decide, .inr ?_⟩
  have sections : oobPage.bytesPerPage.toNat / (512 : BitVec 32).toNat = 4 := by decide
  rw [sections]
  refine ⟨by decide, by decide, by decide, by decide, .inr (.inr ?_)⟩
  exact (if_pos (by decide)).mpr ⟨3, by decide, fun _ => by decide, fun _ => by decide⟩

/-- A marker of two bytes in a free area of none: the length of section 0 is 4294967294. -/
theorem marker_without_room :
    Accepted (pageOf (plainBytes ++ [(219, 2)])) ∧
      ¬ Sound (pageOf (plainBytes ++ [(219, 2)])) 512 := by
  have accepted := (accepted_iff (pageOf (plainBytes ++ [(219, 2)]))).mp (by decide +kernel)
  refine ⟨accepted, fun sound => ?_⟩
  have room := (fits_of_sound accepted (by decide) sound rfl (by decide)).bbm
  revert room
  decide

end OpenwrtSource.SpiNand.OobLayout
