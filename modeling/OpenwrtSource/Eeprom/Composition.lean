import OpenwrtSource.Eeprom.Origins

/-!
# Reads that are split

When two reads, one behind the other, give the bytes of one long read: this
depends on the back end, on where the requests begin and on the length of the
first.
-/

namespace OpenwrtSource.Eeprom.Composition

open Lib.Provenance
open Eeprom.WifiUtility Eeprom.Origins
open Eeprom.BackendOrigins

/-- Both requests, of `a` bytes from `start` and of `b` bytes behind them, are
normalised alike, and no 16-bit word is split. -/
def SplitsAt (backend : Backend) (start a b : Nat) : Prop :=
  match backend with
  | .eepromData size base =>
    b = 0 ∨ base ≤ start ∨ (start + a : Nat) < base ∨ base + size ≤ (start + a : Nat)
  | .mtdEeprom _ mtdOfs bigEndian =>
    b = 0 ∨ ((mtdOfs ≤ start ∨ start + a < mtdOfs) ∧ (bigEndian = true → a % 2 = 0))
  | .nvmem _ _ => True
  | .raw _ => True

/-- For every content, a long read and its two parts that the same back end serves agree. -/
def ReadsCompose (dev : Device) (dt : DeviceTree) (start a b : Nat) : Prop :=
  ∀ (content : Content Byte) (backend : Backend) (long first second : List Byte),
    mtEepromRead dev dt 0 content start (a + b : Nat) = .ok (backend, long) →
    mtEepromRead dev dt 0 content start a = .ok (backend, first) →
    mtEepromRead dev dt 0 content (start + a : Nat) b = .ok (backend, second) →
      long = first ++ second

section Parts

variable {dev : Device} {start a b i : Nat}

theorem swapIdx_first (even : a % 2 = 0) (inside : i < a) : swapIdx (a + b) i = swapIdx a i := by
  unfold swapIdx
  split_ifs <;> omega

theorem swapIdx_second (even : a % 2 = 0) : swapIdx (a + b) (a + i) = a + swapIdx b i := by
  unfold swapIdx
  split_ifs <;> omega

theorem swapIdx_odd (odd : a % 2 = 1) (more : b ≠ 0) :
    swapIdx (a + b) (a - 1) ≠ swapIdx a (a - 1) := by
  unfold swapIdx
  split_ifs <;> omega

theorem mtdStart_add {mtdOfs : Nat} :
    mtdStart mtdOfs (start + a) = mtdStart mtdOfs start + a ↔
      mtdOfs ≤ start ∨ start + a < mtdOfs := by
  unfold mtdStart
  split_ifs <;> omega

def FirstAgrees (dev : Device) (backend : Backend) (start a b : Nat) : Prop :=
  ∀ i < a, backendOrigin dev backend start (a + b) i = backendOrigin dev backend start a i

/-- The rest of the long read and the read that starts there. -/
def SecondAgrees (dev : Device) (backend : Backend) (start a b : Nat) : Prop :=
  ∀ i < b, backendOrigin dev backend start (a + b) (a + i) =
    backendOrigin dev backend (start + a) b i

theorem eepromData_agrees {size : Nat} {base : Int} :
    SecondAgrees dev (.eepromData size base) start a b ↔
      SplitsAt (.eepromData size base) start a b := by
  simp only [SecondAgrees, SplitsAt, backendOrigin, normalizeOffset]
  constructor
  · intro agrees
    by_contra split
    have first := agrees 0 (by omega)
    split_ifs at first <;> simp_all <;> omega
  · intro split i inside
    split_ifs <;> simp_all <;> omega

theorem mtdEeprom_second {part : Name} {mtdOfs : Nat} {bigEndian : Bool}
    (even : bigEndian = true → a % 2 = 0) :
    SecondAgrees dev (.mtdEeprom part mtdOfs bigEndian) start a b ↔
      b = 0 ∨ mtdOfs ≤ start ∨ start + a < mtdOfs := by
  have shifted : ∀ i, (if bigEndian then swapIdx (a + b) (a + i) else a + i) =
      a + if bigEndian then swapIdx b i else i := by
    intro i
    cases bigEndian with
    | true => exact swapIdx_second (even rfl)
    | false => rfl
  simp only [SecondAgrees, backendOrigin, shifted, Origin.stored.injEq, Prod.mk.injEq, true_and,
    ← Nat.add_assoc, Nat.add_right_cancel_iff, eq_comm (a := mtdStart mtdOfs start + a),
    mtdStart_add]
  constructor
  · intro agrees
    by_cases empty : b = 0
    · exact .inl empty
    · exact .inr (agrees 0 (by omega))
  · rintro (rfl | apart) i inside
    · omega
    · exact apart

theorem mtdEeprom_agrees {part : Name} {mtdOfs : Nat} {bigEndian : Bool} :
    FirstAgrees dev (.mtdEeprom part mtdOfs bigEndian) start a b ∧
        SecondAgrees dev (.mtdEeprom part mtdOfs bigEndian) start a b ↔
      SplitsAt (.mtdEeprom part mtdOfs bigEndian) start a b := by
  constructor
  · rintro ⟨first, second⟩
    by_cases empty : b = 0
    · exact .inl empty
    · have even : bigEndian = true → a % 2 = 0 := by
        rintro rfl
        by_contra odd
        -- the last byte of the first read has its partner in the second
        have last := first (a - 1) (by omega)
        simp only [backendOrigin, if_true, Origin.stored.injEq, Prod.mk.injEq, true_and,
          Nat.add_left_cancel_iff] at last
        exact swapIdx_odd (by omega) empty last
      exact .inr ⟨((mtdEeprom_second even).mp second).resolve_left empty, even⟩
  · rintro (rfl | ⟨apart, even⟩)
    · exact ⟨fun i _ => rfl, fun i inside => absurd inside (by omega)⟩
    · refine ⟨fun i inside => ?_, (mtdEeprom_second even).mpr (.inr apart)⟩
      cases bigEndian with
      | true => simp only [backendOrigin, swapIdx_first (even rfl) inside]
      | false => rfl

theorem agrees_iff (dev : Device) {backend : Backend} :
    FirstAgrees dev backend start a b ∧ SecondAgrees dev backend start a b ↔
      SplitsAt backend start a b := by
  have regroup : ∀ i, start + (a + i) = start + a + i := fun i => (Nat.add_assoc start a i).symm
  cases backend with
  | eepromData size base =>
    rw [eepromData_agrees]
    exact and_iff_right fun i _ => rfl
  | mtdEeprom part mtdOfs bigEndian => exact mtdEeprom_agrees
  | nvmem eeprom precal =>
    refine iff_of_true ⟨fun i _ => rfl, fun i _ => ?_⟩ trivial
    simp only [backendOrigin, regroup]
  | raw name =>
    refine iff_of_true ⟨fun i _ => rfl, fun i _ => ?_⟩ trivial
    simp only [backendOrigin, regroup]

theorem map_range_split {β : Type} {long first second : Nat → β} :
    (List.range (a + b)).map long = (List.range a).map first ++ (List.range b).map second ↔
      (∀ i < a, long i = first i) ∧ ∀ i < b, long (a + i) = second i := by
  rw [List.range_add, List.map_append, List.map_map]
  constructor
  · intro same
    obtain ⟨left, right⟩ := List.append_inj same (by simp)
    exact ⟨by simpa [List.map_inj_left] using left, by simpa [List.map_inj_left] using right⟩
  · rintro ⟨left, right⟩
    congr 1
    · simpa [List.map_inj_left] using left
    · simpa [List.map_inj_left] using right

end Parts

/-- Served by one back end, the reads compose exactly where the split is none for it. -/
theorem reads_compose_iff {dev : Device} {dt : DeviceTree} {start a b : Nat}
    {backend : Backend} {probe : Content Byte} {long first second : List Byte}
    (offset : start < 2 ^ 63) (length : a + b < 2 ^ 63)
    (servedLong : mtEepromRead dev dt 0 probe start (a + b : Nat) = .ok (backend, long))
    (servedFirst : mtEepromRead dev dt 0 probe start a = .ok (backend, first))
    (servedSecond : mtEepromRead dev dt 0 probe (start + a : Nat) b = .ok (backend, second)) :
    ReadsCompose dev dt start a b ↔ SplitsAt backend start a b := by
  have readLong := mtEepromRead_ok (by omega) servedLong
  have readFirst := mtEepromRead_ok (by omega) servedFirst
  have readSecond := mtEepromRead_ok (by omega) servedSecond
  rw [← agrees_iff dev]
  constructor
  · intro compose
    have origins : (List.range (a + b)).map (backendOrigin dev backend start (a + b)) =
        (List.range a).map (backendOrigin dev backend start a) ++
          (List.range b).map (backendOrigin dev backend (start + a) b) := by
      apply map_eval_inj (show (1 : Byte) ≠ 0 by decide)
      intro content
      have same := compose (fun store address => content (store, address)) backend _ _ _
        (readLong _) (readFirst _) (readSecond _)
      simpa [evalAt, Function.comp_def] using same
    exact map_range_split.mp origins
  · rintro ⟨agreesFirst, agreesSecond⟩ content backend' long' first' second' h1 h2 h3
    rw [readLong content] at h1
    rw [readFirst content] at h2
    rw [readSecond content] at h3
    cases h1
    cases h2
    cases h3
    apply map_range_split.mpr
    exact ⟨fun i inside => by rw [agreesFirst i inside],
      fun i inside => by rw [agreesSecond i inside]⟩

section Calibration

/-- A device whose only partition is `Factory` and whose calls all succeed. -/
def factoryDevice (size erasesize : Nat) : Device where
  partitions name := if name = Factory then some { size, erasesize } else none
  getMtdDevice _ := 0
  mtdRead _ _ len := (0, len)
  kmalloc := true
  mtdErase _ := 0
  mtdWrite _ := (0, erasesize)
  nvmemCellRead _ := 0

/-- `mediatek,mtd-eeprom` at the offset of `Factory`, for one MT7986 node. -/
def factoryTree (mtdOfs : Nat) (bigEndian : Bool) : DeviceTree where
  allNodes := [{
    available := true
    compatible := [.mt7986Wmac]
    eepromData := none
    mtdEeprom := some [1, mtdOfs]
    bigEndian := bigEndian
    eepromCell := none
    precalCell := none }]
  findNodeByPhandle phandle := if phandle = 1 then some { label := Factory, name := [] } else none

def ascending : Content Byte := fun _ address => BitVec.ofNat 8 address

end Calibration

/-- Two bytes of a big-endian word, at once and one after the other. -/
theorem split_bigEndian : ¬ ∀ (dev : Device) (dt : DeviceTree) (start a b : Nat),
    start < 2 ^ 63 → a + b < 2 ^ 63 → ReadsCompose dev dt start a b := by
  intro compose
  have same := compose (factoryDevice 0x100000 0x20000) (factoryTree 0 true) 0 1 1
    (by decide) (by decide) ascending (.mtdEeprom Factory 0 true) [1, 0] [0] [1] rfl rfl rfl
  revert same
  decide

/-- Behind the offset of the partition no request is moved. -/
theorem reads_compose_behindOffset :
    (ReadsCompose (factoryDevice 0x100000 0x20000) (factoryTree 4 false) 4 1 2 ↔
      SplitsAt (.mtdEeprom Factory 4 false) 4 1 2) ∧
    SplitsAt (.mtdEeprom Factory 4 false) 4 1 2 := by
  let dev := factoryDevice 0x100000 0x20000
  let dt := factoryTree 4 false
  have long : mtEepromRead dev dt 0 ascending (4 : Nat) (1 + 2 : Nat) =
      .ok (.mtdEeprom Factory 4 false, [4, 5, 6]) := rfl
  have first : mtEepromRead dev dt 0 ascending (4 : Nat) 1 =
      .ok (.mtdEeprom Factory 4 false, [4]) := rfl
  have second : mtEepromRead dev dt 0 ascending (4 + 1 : Nat) 2 =
      .ok (.mtdEeprom Factory 4 false, [5, 6]) := rfl
  exact ⟨reads_compose_iff (by decide) (by decide) long first second,
    .inr ⟨.inl (by decide), by simp⟩⟩

end OpenwrtSource.Eeprom.Composition
