import OpenwrtSource.Lib.ShiftRegister
import OpenwrtSource.SpiNand.CopySelection

/-!
# Errors that the CRC of a CASN page notices

Two pages that differ, but only within two adjacent bytes in front of the stored CRC,
never have the same CRC.  So whatever single burst each of the three copies has
suffered, a check that succeeds has selected the page as it was written.
-/

namespace OpenwrtSource.SpiNand.ErrorBursts

open Lib.ShiftRegister Lib.Majority SpiNand.Casn SpiNand.CopySelection

theorem crcShift_eq : crcShift = shift 0x8005 := by
  funext crc
  have top : crc &&& 0x8000 ≠ 0 ↔ crc.msb = true := by
    have mask : (0x8000 : BitVec 16) = BitVec.twoPow 16 15 := by decide
    rw [mask, BitVec.and_twoPow, BitVec.msb_eq_getLsbD_last]
    cases crc.getLsbD 15 <;> simp
  unfold crcShift shift
  simp only [top]

theorem crcByte_xor (a b : BitVec 16) (x y : BitVec 8) :
    crcByte (a ^^^ b) (x ^^^ y) = crcByte a x ^^^ crcByte b y := by
  unfold crcByte
  have mixed : (a ^^^ b) ^^^ (x ^^^ y).setWidth 16 <<< 8 =
      (a ^^^ x.setWidth 16 <<< 8) ^^^ (b ^^^ y.setWidth 16 <<< 8) := by
    rw [BitVec.setWidth_xor, BitVec.shiftLeft_xor_distrib]
    ac_rfl
  rw [mixed, crcShift_eq]
  exact iterate_linear (shift_linear _) 8 _ _

theorem crcByte_zero (crc : BitVec 16) : crcByte crc 0 = crcShift^[8] crc := by simp [crcByte]

theorem eq_zero_of_crcByte {crc : BitVec 16} (dead : crcByte crc 0 = 0) : crc = 0 := by
  rw [crcByte_zero, crcShift_eq] at dead
  exact eq_zero_of_iterate (fun _ => eq_zero_of_shift (by decide)) 8 dead

theorem nanddevCrc16_cons (crc : BitVec 16) (byte : BitVec 8) (rest : List (BitVec 8)) :
    nanddevCrc16 crc (byte :: rest) = nanddevCrc16 (crcByte crc byte) rest := rfl

theorem nanddevCrc16_append (crc : BitVec 16) (p q : List (BitVec 8)) :
    nanddevCrc16 crc (p ++ q) = nanddevCrc16 (nanddevCrc16 crc p) q := List.foldl_append

theorem nanddevCrc16_xor (a b : BitVec 16) (left right : Fin 256 → BitVec 8)
    (places : List (Fin 256)) :
    nanddevCrc16 (a ^^^ b) (places.map fun i => left i ^^^ right i) =
      nanddevCrc16 a (places.map left) ^^^ nanddevCrc16 b (places.map right) := by
  induction places generalizing a b with
  | nil => rfl
  | cons i rest ih =>
    simp only [List.map_cons, nanddevCrc16_cons]
    rw [crcByte_xor, ih]

theorem eq_zero_of_nanddevCrc16 {crc : BitVec 16} {after : List (BitVec 8)}
    (quiet : ∀ byte ∈ after, byte = 0) (dead : nanddevCrc16 crc after = 0) : crc = 0 := by
  induction after generalizing crc with
  | nil => exact dead
  | cons byte rest ih =>
    obtain rfl := quiet byte List.mem_cons_self
    exact eq_zero_of_crcByte (ih (fun byte inRest => quiet byte (.tail _ inRest)) dead)

theorem nanddevCrc16_quiet {before : List (BitVec 8)} (quiet : ∀ byte ∈ before, byte = 0) :
    nanddevCrc16 0 before = 0 := by
  induction before with
  | nil => rfl
  | cons byte rest ih =>
    obtain rfl := quiet byte List.mem_cons_self
    rw [nanddevCrc16_cons, crcByte_zero, crcShift_eq, Function.iterate_fixed (shift_zero _)]
    exact ih fun byte inRest => quiet byte (.tail _ inRest)

theorem eq_zero_of_pair {first second : BitVec 8}
    (dead : crcByte (crcByte 0 first) second = 0) : first = 0 ∧ second = 0 := by
  have small : second.toNat * 2 ^ 8 < 2 ^ 16 := by have := second.isLt; omega
  have moved : second.setWidth 16 <<< 8 = (shift 0x8005)^[8] (second.setWidth 16) := by
    refine (iterate_shift_small _ _ 8 ?_).symm
    rwa [BitVec.toNat_setWidth_of_le (by decide)]
  unfold crcByte at dead
  simp only [BitVec.ofNat_eq_ofNat, BitVec.zero_xor] at dead
  rw [crcShift_eq, moved, ← iterate_linear (shift_linear _) 8] at dead
  have alive := fun a (dead : (shift (0x8005 : BitVec 16))^[8] a = 0) =>
    eq_zero_of_iterate (fun _ => eq_zero_of_shift (by decide)) 8 dead
  have both := alive _ (alive _ dead)
  constructor
  · apply BitVec.eq_of_getLsbD_eq
    intro i inByte
    have bit := congrArg (fun word : BitVec 16 => word.getLsbD (8 + i)) both
    simpa [BitVec.getLsbD_setWidth, BitVec.getLsbD_shiftLeft, inByte,
      show 8 + i < 16 by omega] using bit
  · apply BitVec.eq_of_getLsbD_eq
    intro i inByte
    have bit := congrArg (fun word : BitVec 16 => word.getLsbD i) both
    simpa [BitVec.getLsbD_setWidth, BitVec.getLsbD_shiftLeft, inByte,
      show i < 16 by omega] using bit

theorem take_254_split {k : Nat} (inside : k + 1 < 254) :
    (List.finRange 256).take 254 = (List.finRange 256).take k ++
      ⟨k, by omega⟩ :: ⟨k + 1, by omega⟩ :: ((List.finRange 256).drop (k + 2)).take (252 - k) := by
  apply List.ext_getElem
  · simp
    omega
  · intro i _ _
    simp only [List.getElem_take, List.getElem_finRange, List.getElem_append, List.length_take,
      List.length_finRange, List.getElem_cons, List.getElem_drop]
    apply Fin.ext
    split_ifs <;> simp <;> omega

theorem eq_zero_of_burst {k : Nat} {error : NandCasn} (inside : k + 1 < 254)
    (quiet : ∀ b : Fin 256, b.val ≠ k → b.val ≠ k + 1 → error b = 0)
    (dead : nanddevCrc16 0 (((List.finRange 256).take 254).map error) = 0) (b : Fin 256) :
    error b = 0 := by
  have before : nanddevCrc16 0 (((List.finRange 256).take k).map error) = 0 := by
    apply nanddevCrc16_quiet
    intro byte early
    obtain ⟨b, inTake, rfl⟩ := List.mem_map.mp early
    obtain ⟨i, small, rfl⟩ := List.mem_take_iff_getElem.mp inTake
    simp only [List.length_finRange, List.getElem_finRange] at small ⊢
    exact quiet _ (by simp; omega) (by simp; omega)
  have after : ∀ byte ∈ (((List.finRange 256).drop (k + 2)).take (252 - k)).map error,
      byte = 0 := by
    intro byte late
    obtain ⟨b, inTake, rfl⟩ := List.mem_map.mp late
    obtain ⟨i, small, rfl⟩ := List.mem_take_iff_getElem.mp inTake
    simp only [List.getElem_drop, List.getElem_finRange]
    exact quiet _ (by simp; omega) (by simp; omega)
  rw [take_254_split inside, List.map_append, nanddevCrc16_append, before, List.map_cons,
    List.map_cons, nanddevCrc16_cons, nanddevCrc16_cons] at dead
  obtain ⟨first, second⟩ := eq_zero_of_pair (eq_zero_of_nanddevCrc16 after dead)
  by_cases atFirst : b.val = k
  · exact (congrArg error (Fin.ext atFirst)).trans first
  · by_cases atSecond : b.val = k + 1
    · exact (congrArg error (Fin.ext atSecond)).trans second
    · exact quiet b atFirst atSecond

/-- The copy has kept the page but for two adjacent bytes in front of the CRC. -/
def Within (k : Nat) (page copy : NandCasn) : Prop :=
  k + 1 < 254 ∧ ∀ b : Fin 256, copy b ≠ page b → b.val = k ∨ b.val = k + 1

theorem eq_of_within {k : Nat} {page copy : NandCasn} (within : Within k page copy)
    (same : crcCompute copy = crcCompute page) : copy = page := by
  obtain ⟨inside, elsewhere⟩ := within
  have quiet : ∀ b : Fin 256, b.val ≠ k → b.val ≠ k + 1 → copy b ^^^ page b = 0 := by
    intro b first second
    refine BitVec.xor_eq_zero_iff.mpr ?_
    by_contra differs
    exact (elsewhere b differs).elim first second
  have dead := nanddevCrc16_xor CASN_CRC_BASE CASN_CRC_BASE copy page
    ((List.finRange 256).take 254)
  change _ = crcCompute copy ^^^ crcCompute page at dead
  rw [same, BitVec.xor_self, BitVec.xor_self] at dead
  funext b
  exact BitVec.xor_eq_zero_iff.mp (eq_zero_of_burst inside quiet dead b)

theorem crc_of_within {k : Nat} {page copy : NandCasn} (within : Within k page copy) :
    copy.crc = page.crc := by
  obtain ⟨inside, elsewhere⟩ := within
  have kept : ∀ b : Fin 256, 254 ≤ b.val → copy b = page b := by
    intro b late
    by_contra differs
    have := elsewhere b differs
    omega
  unfold NandCasn.crc be16
  rw [kept _ (by decide), kept _ (by decide)]

theorem majority_of_two {a b c byte : BitVec 8}
    (two : a = byte ∧ b = byte ∨ a = byte ∧ c = byte ∨ b = byte ∧ c = byte) :
    (a &&& b) ||| (a &&& c) ||| (b &&& c) = byte := by
  apply BitVec.eq_of_getLsbD_eq
  intro k _
  simp only [BitVec.getLsbD_or, BitVec.getLsbD_and]
  rcases two with ⟨first, second⟩ | ⟨first, second⟩ | ⟨first, second⟩ <;>
    rw [first, second] <;> cases byte.getLsbD k <;> simp

theorem within_majorityPage {start : Fin 3 → Nat} {page : NandCasn} {casn : Copies}
    (bursts : ∀ i, Within (start i) page (casn i)) : ∃ k, Within k page (majorityPage casn) := by
  have first := bursts 0
  have second := bursts 1
  have third := bursts 2
  refine ⟨max (min (start 0) (start 1)) (min (max (start 0) (start 1)) (start 2)), ?_, ?_⟩
  · have := first.1
    have := second.1
    omega
  · intro b differs
    have := first.2 b
    have := second.2 b
    have := third.2 b
    have two := mt (majority_of_two (a := casn 0 b) (b := casn 1 b) (c := casn 2 b)) differs
    by_cases casn 0 b = page b <;> by_cases casn 1 b = page b <;> by_cases casn 2 b = page b <;>
      simp_all <;> omega

theorem copyRet_eq_EBADMSG_iff (crc : BitVec 16) (copy : NandCasn) :
    copyRet crc copy = -EBADMSG ↔ copy.signature = CASN_SIGNATURE ∧ crc ≠ crcCompute copy := by
  have apart : (0 : Int) ≠ -EBADMSG ∧ (-EINVAL : Int) ≠ -EBADMSG := by decide
  unfold copyRet
  split_ifs with signature other
  · exact iff_of_false apart.2 fun tried => signature tried.1
  · exact iff_of_true rfl ⟨not_not.mp signature, other⟩
  · refine iff_of_false ?_ fun tried => other tried.2
    rcases validity_cases copy with valid | refused
    · rw [valid]
      exact apart.1
    · rw [refused]
      exact apart.2

section Bursts

variable {start : Fin 3 → Nat} {page : NandCasn} {casn : Copies}
  (bursts : ∀ i, Within (start i) page (casn i)) (written : crcCompute page = page.crc)
include bursts written

theorem crcCompute_eq_iff (i : Fin 3) : crcCompute (casn i) = (casn 0).crc ↔ casn i = page := by
  rw [crc_of_within (bursts 0), ← written]
  exact ⟨eq_of_within (bursts i), fun same => by rw [same]⟩

theorem passes_iff (i : Fin 3) : Passes casn i ↔ Intact page ∧ casn i = page := by
  unfold Passes
  rw [copyRet_eq_zero_iff, eq_comm (a := (casn 0).crc), crcCompute_eq_iff bursts written]
  constructor
  · rintro ⟨signature, rfl, valid⟩
    exact ⟨⟨signature, written, valid⟩, rfl⟩
  · rintro ⟨intact, same⟩
    rw [same]
    exact ⟨intact.signature, rfl, intact.valid⟩

theorem recovers_iff (behind : NandCasn) :
    Recovers casn behind ↔ majorityPage casn = page ∧ casn 2 ≠ page ∧
      (casn 2).signature = CASN_SIGNATURE ∧ spinandCheckCasnValidity behind = 0 := by
  obtain ⟨k, within⟩ := within_majorityPage bursts
  have majority : crcCompute (majorityPage casn) = (casn 0).crc ↔ majorityPage casn = page := by
    rw [crc_of_within (bursts 0), ← written]
    exact ⟨eq_of_within within, fun same => by rw [same]⟩
  have tried := copyRet_eq_EBADMSG_iff (casn 0).crc (casn 2)
  rw [ne_comm, Ne, crcCompute_eq_iff bursts written] at tried
  constructor
  · intro recovers
    obtain ⟨signature, other⟩ := tried.mp recovers.tried
    exact ⟨majority.mp recovers.crc, other, signature, recovers.behind⟩
  · rintro ⟨same, other, signature, valid⟩
    exact ⟨tried.mpr ⟨signature, other⟩, majority.mpr same, valid⟩

/-- Whatever is selected after one burst in each copy is the page that was written. -/
theorem spinandCheckCasn_bursts (behind : NandCasn) (sel : Fin 3) :
    ((spinandCheckCasn casn behind sel).ret = 0 ↔
        (Intact page ∧ ∃ i, casn i = page) ∨
          majorityPage casn = page ∧ casn 2 ≠ page ∧ (casn 2).signature = CASN_SIGNATURE ∧
            spinandCheckCasnValidity behind = 0) ∧
      ((spinandCheckCasn casn behind sel).ret = 0 →
        (spinandCheckCasn casn behind sel).casn (spinandCheckCasn casn behind sel).sel = page) := by
  cases first : (List.finRange 3).find? fun i => decide (Passes casn i) with
  | some i =>
    have passes : Passes casn i := by simpa using List.find?_some first
    obtain ⟨intact, same⟩ := (passes_iff bursts written i).mp passes
    rw [spinandCheckCasn_some first]
    exact ⟨iff_of_true rfl (.inl ⟨intact, i, same⟩), fun _ => same⟩
  | none =>
    have fails : ¬ (Intact page ∧ ∃ i, casn i = page) := by
      rintro ⟨intact, i, same⟩
      have passes := (passes_iff bursts written i).mpr ⟨intact, same⟩
      exact List.find?_eq_none.mp first i (List.mem_finRange i) (decide_eq_true passes)
    obtain ⟨accepts, selected⟩ := spinandCheckCasn_recovers first behind sel
    rw [recovers_iff bursts written] at accepts
    rw [or_iff_right fails]
    exact ⟨accepts, fun done => (selected done).trans (accepts.mp done).1⟩

end Bursts

/-- Each copy has lost another byte, copy 0 one of its signature. -/
def worn : Copies := fun i => Function.update storedPage ⟨20 * i + 2, by omega⟩ 0xFF

theorem worn_of_ne {i : Fin 3} {b : Fin 256} (other : b.val ≠ 20 * i + 2) :
    worn i b = storedPage b :=
  Function.update_of_ne (fun same => other (congrArg Fin.val same)) _ _

theorem within_worn (i : Fin 3) : Within (20 * i + 2) storedPage (worn i) := by
  refine ⟨by omega, fun b differs => .inl ?_⟩
  by_contra other
  exact differs (worn_of_ne other)

theorem majorityPage_worn : majorityPage worn = storedPage := by
  funext b
  apply majority_of_two
  by_cases first : b.val = 2
  · exact .inr (.inr ⟨worn_of_ne (by simp; omega), worn_of_ne (by simp; omega)⟩)
  · by_cases second : b.val = 22
    · exact .inr (.inl ⟨worn_of_ne (by simp; omega), worn_of_ne (by simp; omega)⟩)
    · exact .inl ⟨worn_of_ne (by simp; omega), worn_of_ne (by simp; omega)⟩

theorem worn_recovered : (spinandCheckCasn worn storedPage 2).ret = 0 ∧
    (spinandCheckCasn worn storedPage 2).casn (spinandCheckCasn worn storedPage 2).sel =
      storedPage := by
  have bursts := spinandCheckCasn_bursts within_worn intact_storedPage.crc storedPage 2
  have done := bursts.1.mpr
    (.inr ⟨majorityPage_worn, ?_, by decide +kernel, intact_storedPage.valid⟩)
  · exact ⟨done, bursts.2 done⟩
  · intro same
    have byte := congrFun same ⟨42, by omega⟩
    revert byte
    decide +kernel

end OpenwrtSource.SpiNand.ErrorBursts
