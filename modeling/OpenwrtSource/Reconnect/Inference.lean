import OpenwrtSource.Reconnect.Config

/-!
# The interface that is inferred, and its parent

For a section without `ifname`, `load_sta_configs` takes the client interface of
the 5 GHz radio or the other one, and `resolve_parent` then looks for the parent
by the same options of the radio.
-/

namespace OpenwrtSource.Reconnect.Inference

open Reconnect.Config

def apclix0 : Text := ['a', 'p', 'c', 'l', 'i', 'x', '0']
def apcli0 : Text := ['a', 'p', 'c', 'l', 'i', '0']

/-- The client interface and the parent belong to the same radio. -/
def SameRadio (ifname parent : Text) : Prop :=
  (ifname = apclix0 ↔ parent = rax0) ∧ (ifname = apcli0 ↔ parent = ra0)

/-- The radio has a band that `resolve_parent` does not know, and the mode of a 5 GHz radio. -/
def ModeOverrulesBand (pkg : UciPackage) (devname : Text) : Prop :=
  ∃ dsec, uciLookupSection pkg devname = some dsec ∧
    (∃ band, uciLookupOption dsec ['b', 'a', 'n', 'd'] = some band ∧ band ≠ ['5', 'g'] ∧
      band ≠ ['2', 'g']) ∧
    uciLookupOption dsec ['h', 'w', 'm', 'o', 'd', 'e'] = some ['1', '1', 'a']

theorem resolveIfname_none (pkg : UciPackage) (devname : Text) :
    resolveIfname pkg none devname = if is5g pkg devname then apclix0 else apcli0 := by
  simp only [resolveIfname]
  cases is5g pkg devname with
  | true => rfl
  | false => rfl

theorem resolveParent_inferred (pkg : UciPackage) (devname : Text) (five : Bool) :
    resolveParent pkg devname (if five then apclix0 else apcli0) =
      match (uciLookupSection pkg devname).bind fun dsec =>
          (parentOfBand dsec).or (parentOfHwmode dsec) with
      | some parent => safeCopy ifNamSiz parent
      | none => if five then rax0 else ra0 := by
  unfold resolveParent
  cases uciLookupSection pkg devname with
  | none => cases five <;> rfl
  | some dsec =>
    simp only [Option.bind_some]
    cases (parentOfBand dsec).or (parentOfHwmode dsec) with
    | none => cases five <;> rfl
    | some parent => rfl

theorem sameRadio_iff (five six : Bool) :
    SameRadio (if five then apclix0 else apcli0) (if six then rax0 else ra0) ↔ five = six := by
  cases five <;> cases six <;> simp [SameRadio, apclix0, apcli0, rax0, ra0]

theorem parentOfHwmode_cases (dsec : UciSection) :
    (uciLookupOption dsec ['h', 'w', 'm', 'o', 'd', 'e'] = some ['1', '1', 'a'] ∧
        parentOfHwmode dsec = some rax0) ∨
      (uciLookupOption dsec ['h', 'w', 'm', 'o', 'd', 'e'] ≠ some ['1', '1', 'a'] ∧
        (parentOfHwmode dsec = some ra0 ∨ parentOfHwmode dsec = none)) := by
  unfold parentOfHwmode
  cases found : uciLookupOption dsec ['h', 'w', 'm', 'o', 'd', 'e'] with
  | none => right; simp
  | some hwmode =>
    by_cases five : hwmode = ['1', '1', 'a']
    · left; simp [five]
    · right
      refine ⟨by simpa using five, ?_⟩
      simp only [if_neg five]
      split
      · exact Or.inl rfl
      · exact Or.inr rfl

/-- Whether the options of a radio make it the 5 GHz one for `resolve_parent`. -/
def parentIs5g (dsec : UciSection) : Bool :=
  match uciLookupOption dsec ['b', 'a', 'n', 'd'] with
  | some band =>
    band = ['5', 'g'] ∨ (band ≠ ['2', 'g'] ∧
      uciLookupOption dsec ['h', 'w', 'm', 'o', 'd', 'e'] = some ['1', '1', 'a'])
  | none => uciLookupOption dsec ['h', 'w', 'm', 'o', 'd', 'e'] = some ['1', '1', 'a']

section

variable {pkg : UciPackage} {devname : Text} {dsec : UciSection}

theorem is5g_of_band {band : Text} (radio : uciLookupSection pkg devname = some dsec)
    (given : uciLookupOption dsec ['b', 'a', 'n', 'd'] = some band) :
    is5g pkg devname = decide (band = ['5', 'g']) := by
  simp only [is5g, radio, given]

theorem is5g_of_mode (radio : uciLookupSection pkg devname = some dsec)
    (noBand : uciLookupOption dsec ['b', 'a', 'n', 'd'] = none) :
    is5g pkg devname =
      decide (uciLookupOption dsec ['h', 'w', 'm', 'o', 'd', 'e'] = some ['1', '1', 'a']) := by
  simp only [is5g, radio, noBand]

theorem parent_of_mode (dsec : UciSection) :
    (match parentOfHwmode dsec with
      | some parent => safeCopy ifNamSiz parent
      | none => ra0) =
      if uciLookupOption dsec ['h', 'w', 'm', 'o', 'd', 'e'] = some ['1', '1', 'a'] then rax0
      else ra0 := by
  obtain ⟨modeA, names⟩ | ⟨otherMode, names | silent⟩ := parentOfHwmode_cases dsec
  · rw [if_pos modeA, names]
    rfl
  · rw [if_neg otherMode, names]
    rfl
  · rw [if_neg otherMode, silent]

theorem resolveParent_of_radio (radio : uciLookupSection pkg devname = some dsec) :
    resolveParent pkg devname (if is5g pkg devname then apclix0 else apcli0) =
      if parentIs5g dsec then rax0 else ra0 := by
  rw [resolveParent_inferred]
  simp only [radio, Option.bind_some]
  unfold parentIs5g
  cases given : uciLookupOption dsec ['b', 'a', 'n', 'd'] with
  | none =>
    have silent : parentOfBand dsec = none := by simp only [parentOfBand, given]
    have byMode := parent_of_mode dsec
    rw [silent, Option.none_or, is5g_of_mode radio given]
    obtain ⟨modeA, names⟩ | ⟨otherMode, -⟩ := parentOfHwmode_cases dsec
    · simp [names, modeA, safeCopy, rax0, ifNamSiz]
    · simp only [otherMode, decide_false, Bool.false_eq_true, if_false] at byMode ⊢
      exact byMode
  | some band =>
    rw [is5g_of_band radio given]
    by_cases five : band = ['5', 'g']
    · have names : parentOfBand dsec = some rax0 := by
        simp only [parentOfBand, given, if_pos five]
      simp [names, five, safeCopy, rax0, ifNamSiz]
    · by_cases two : band = ['2', 'g']
      · have names : parentOfBand dsec = some ra0 := by
          simp only [parentOfBand, given, if_neg five, if_pos two]
        simp [names, two, safeCopy, ra0, ifNamSiz]
      · have silent : parentOfBand dsec = none := by
          simp only [parentOfBand, given, if_neg five, if_neg two]
        have byMode := parent_of_mode dsec
        rw [silent, Option.none_or]
        simp only [five, two, decide_false, Bool.false_eq_true, if_false, false_or, ne_eq,
          not_false_eq_true, true_and, decide_eq_true_eq]
        exact byMode

theorem is5g_eq_parentIs5g_iff (radio : uciLookupSection pkg devname = some dsec) :
    is5g pkg devname = parentIs5g dsec ↔ ¬ ModeOverrulesBand pkg devname := by
  unfold ModeOverrulesBand parentIs5g
  rw [radio]
  cases given : uciLookupOption dsec ['b', 'a', 'n', 'd'] with
  | none =>
    rw [is5g_of_mode radio given]
    simp [given]
  | some band =>
    rw [is5g_of_band radio given]
    by_cases five : band = ['5', 'g']
    · simp [given, five]
    · simp [given, five]

end

/-- A section without `ifname` gets the interface and the parent of one radio exactly if the mode
of the radio does not overrule its band. -/
theorem inferred_same_radio_iff (pkg : UciPackage) (s : UciSection) (dev ssid : Text)
    (unnamed : uciLookupOption s ['i', 'f', 'n', 'a', 'm', 'e'] = none) :
    let ifname := (newProfile pkg s dev ssid).ifname
    SameRadio ifname (resolveParent pkg dev ifname) ↔ ¬ ModeOverrulesBand pkg dev := by
  intro ifname
  have inferred : ifname = if is5g pkg dev then apclix0 else apcli0 := by
    rw [← resolveIfname_none, ← unnamed]
    rfl
  rw [inferred]
  cases radio : uciLookupSection pkg dev with
  | none =>
    have parent := resolveParent_inferred pkg dev (is5g pkg dev)
    simp only [radio, Option.bind_none] at parent
    rw [parent, sameRadio_iff]
    simp [ModeOverrulesBand, radio]
  | some dsec =>
    rw [resolveParent_of_radio radio, sameRadio_iff]
    exact is5g_eq_parentIs5g_iff radio

def radio0 : Text := ['r', 'a', 'd', 'i', 'o', '0']
def home : Text := ['h', 'o', 'm', 'e']
def sta : Text := ['s', 't', 'a']

def station : UciSection :=
  { type := ['w', 'i', 'f', 'i', '-', 'i', 'f', 'a', 'c', 'e']
    name := ['u', 'p']
    options :=
      [⟨['m', 'o', 'd', 'e'], sta, by decide⟩,
        ⟨['d', 'e', 'v', 'i', 'c', 'e'], radio0, by decide⟩,
        ⟨['s', 's', 'i', 'd'], home, by decide⟩] }

/-- The station on a radio of the given band with the mode of a 5 GHz radio. -/
def stationOn (band : Text) (stored : band ≠ []) : UciPackage :=
  { sections :=
      [{ type := ['w', 'i', 'f', 'i', '-', 'd', 'e', 'v', 'i', 'c', 'e']
         name := radio0
         options :=
           [⟨['b', 'a', 'n', 'd'], band, stored⟩,
            ⟨['h', 'w', 'm', 'o', 'd', 'e'], ['1', '1', 'a'], by decide⟩] },
        station] }

theorem inferred_same_radio_iff_5g :
    let pkg := stationOn ['5', 'g'] (by decide)
    let ifname := (newProfile pkg station radio0 home).ifname
    ifname = apclix0 ∧ SameRadio ifname (resolveParent pkg radio0 ifname) := by
  refine ⟨by decide, ?_⟩
  apply (inferred_same_radio_iff _ station radio0 home (by decide)).mpr
  rintro ⟨dsec, radio, ⟨band, given, notFive, -⟩, -⟩
  obtain rfl := Option.some.inj radio
  exact notFive (Option.some.inj given).symm

/-- On a radio of band `6g` the station is `apcli0` under `rax0`. -/
theorem six_apart :
    let pkg := stationOn ['6', 'g'] (by decide)
    let ifname := (newProfile pkg station radio0 home).ifname
    ifname = apcli0 ∧ resolveParent pkg radio0 ifname = rax0 ∧
      ¬ SameRadio ifname (resolveParent pkg radio0 ifname) := by
  have inferred : (newProfile (stationOn ['6', 'g'] (by decide)) station radio0 home).ifname =
      apcli0 := by decide
  have parent : resolveParent (stationOn ['6', 'g'] (by decide)) radio0 apcli0 = rax0 := by decide
  have different : ¬ SameRadio apcli0 rax0 := (sameRadio_iff false true).not.mpr (by decide)
  simp only [inferred, parent]
  exact ⟨trivial, trivial, different⟩

end OpenwrtSource.Reconnect.Inference
