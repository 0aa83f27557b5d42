import OpenwrtSource.Lib.Run
import OpenwrtSource.Lib.TableFold
import OpenwrtSource.Swconfig.Config

/-!
# What the switch is to hold

A driver of two words a table entry, as the calls of swconfig see it: the configuration,
the registers and what they say.  The two loops over the VLAN table are the same in both
drivers up to the write of an entry.
-/

namespace OpenwrtSource.Swconfig.VlanTable

open Lib.Run Lib.TableFold
open Swconfig.Config

abbrev Row := BitVec 32 × BitVec 32

variable {ports : Nat} {Hw : Type}

structure Reading (ports : Nat) (Hw : Type) where
  row : Hw → BitVec 12 → Row
  valid : Row → Bool
  member : Row → Fin ports → Bool
  egress : Row → Fin ports → BitVec 2
  pvid : Hw → Fin ports → BitVec 12
  portVlan : Hw → Fin ports → BitVec 2
  matrix : Hw → Fin ports → Fin ports → Bool

def Carries (gsw : Gsw ports) (i : Fin NUM_VLANS) (v : BitVec 12) : Prop :=
  (gsw.vlanEntries i).vid.toNat = v.toNat ∧ ∃ p, (gsw.vlanEntries i).Has p

instance (gsw : Gsw ports) (i : Fin NUM_VLANS) (v : BitVec 12) : Decidable (Carries gsw i v) :=
  inferInstanceAs (Decidable (_ ∧ _))

def Distinct (gsw : Gsw ports) : Prop :=
  ∀ i j v, Carries gsw i v → Carries gsw j v → i = j

/-- A valid entry with these members and their modes. -/
structure Holds (r : Reading ports Hw) (row : Row) (set : PortSet ports) : Prop where
  valid : r.valid row = true
  member : ∀ p, r.member row p = true ↔ set.Has p
  egress : ∀ p, set.Has p → r.egress row p = if set.etags.getLsbD p = true then 2 else 0

/-- The VID of the VLAN that the port's PVID names, 0 if that has no members. -/
structure PvidIs (gsw : Gsw ports) (port : Fin ports) (v : BitVec 12) : Prop where
  vid : ∀ i, i.val = (gsw.portPvid port).toNat → (∃ p, (gsw.vlanEntries i).Has p) →
    v.toNat = (gsw.vlanEntries i).vid.toNat
  zero : (∀ i, i.val = (gsw.portPvid port).toNat → ¬ ∃ p, (gsw.vlanEntries i).Has p) → v = 0

/-- The switch serves the configured VLANs, and no others. -/
structure Applied (r : Reading ports Hw) (gsw : Gsw ports) (hw : Hw) : Prop where
  carried : ∀ i v, Carries gsw i v → Holds r (r.row hw v) (gsw.vlanEntries i).toPortSet
  vacant : ∀ v, (∀ i, ¬ Carries gsw i v) → r.valid (r.row hw v) = false
  pvid : ∀ p, PvidIs gsw p (r.pvid hw p)

/-- `PORT_MATRIX_MODE`, with the CPU port as the only other port. -/
structure Isolated (r : Reading ports Hw) (gsw : Gsw ports) (hw : Hw) : Prop where
  mode : ∀ p, p ≠ gsw.cpuPort → r.portVlan hw p = 0
  matrix : ∀ p, p ≠ gsw.cpuPort → ∀ q, r.matrix hw p q = true ↔ q = gsw.cpuPort

theorem vid_eq_iff (entry : VlanEntry ports) (v : BitVec 12) :
    entry.vid.setWidth 12 = v ↔ entry.vid.toNat = v.toNat := by
  have le := entry.vid_le
  rw [MAX_VID] at le
  rw [← BitVec.toNat_inj, BitVec.toNat_setWidth, Nat.mod_eq_of_lt (by omega)]

theorem pvidIs_pvidOf (gsw : Gsw ports) (port : Fin ports) :
    PvidIs gsw port ((pvidOf gsw port).setWidth 12) := by
  constructor
  · intro i here has
    have vlan : (gsw.portPvid port).toNat < NUM_VLANS := here ▸ i.isLt
    have same : (⟨_, vlan⟩ : Fin NUM_VLANS) = i := Fin.ext here.symm
    have member := (gsw.vlanEntries i).member_ne_zero_iff.mpr has
    rw [pvidOf, dif_pos vlan, same, if_pos member]
    exact (((vid_eq_iff _ _).mp rfl).symm)
  · intro none
    unfold pvidOf
    split
    · rename_i vlan
      rw [if_neg]
      · rfl
      · rw [PortSet.member_ne_zero_iff]
        exact none ⟨_, vlan⟩ rfl
    · rfl

/-- `an8855_clear_all_vlan`, and the loop of `mt753x_apply_vlan_config`. -/
def clearAllVlan (write : BitVec 16 → BitVec 8 → BitVec 8 → Hw → Hw) (hw : Hw) : Hw :=
  vlanIndices.foldl (fun hw (i : Fin NUM_VLANS) =>
    write (BitVec.ofNat 16 i.val) 0 0 hw) hw

def programVlans (write : BitVec 16 → BitVec 8 → BitVec 8 → Hw → Hw) (gsw : Gsw ports)
    (hw : Hw) : Hw :=
  vlanIndices.foldl (fun hw i =>
    let entry := gsw.vlanEntries i
    if entry.member ≠ 0 then write entry.vid entry.member entry.etags hw else hw) hw

section Loops

variable {write : BitVec 16 → BitVec 8 → BitVec 8 → Hw → Hw}

theorem clearAllVlan_frame {T : Type} (field : Hw → T)
    (frame : ∀ vid member etags hw, field (write vid member etags hw) = field hw) (hw : Hw) :
    field (clearAllVlan write hw) = field hw := by
  unfold clearAllVlan
  exact foldl_frame field _ (fun hw _ => frame _ _ _ hw) _ hw

theorem programVlans_frame {T : Type} (field : Hw → T)
    (frame : ∀ vid member etags hw, field (write vid member etags hw) = field hw)
    (gsw : Gsw ports) (hw : Hw) : field (programVlans write gsw hw) = field hw := by
  unfold programVlans
  refine foldl_frame field _ (fun hw i => ?_) _ hw
  dsimp only
  split
  · exact frame _ _ _ hw
  · rfl

variable {table : Hw → BitVec 12 → Row} {row : BitVec 8 → BitVec 8 → Row}
  (writes : ∀ vid member etags hw, table (write vid member etags hw) =
    Function.update (table hw) (vid.setWidth 12) (row member etags))

include writes

theorem table_clearAllVlan (hw : Hw) (v : BitVec 12) :
    table (clearAllVlan write hw) v =
      if v.toNat < NUM_VLANS then row 0 0 else table hw v := by
  have key : ∀ i : Fin NUM_VLANS, ((BitVec.ofNat 16 i.val).setWidth 12).toNat = i.val := by
    intro i
    have small : i.val < 4095 := i.isLt
    rw [BitVec.toNat_setWidth, BitVec.toNat_ofNat]
    omega
  rw [clearAllVlan, foldl_table table (fun i : Fin NUM_VLANS => (BitVec.ofNat 16 i.val).setWidth 12)
    (fun _ _ => row 0 0) _ fun hw i => writes _ 0 0 hw]
  split_ifs with small
  · have here : v = (BitVec.ofNat 16 v.toNat).setWidth 12 := by
      rw [← BitVec.toNat_inj]
      exact (key ⟨_, small⟩).symm
    have cleared := foldl_writeCell (fun i : Fin NUM_VLANS => (BitVec.ofNat 16 i.val).setWidth 12)
      (fun _ (_ : Row) => row 0 0) (table hw) nodup_vlanIndices
      (fun i _ j _ same => Fin.ext (by rw [← key i, ← key j, same]))
      (mem_vlanIndices ⟨v.toNat, small⟩)
    rw [here]
    exact cleared
  · refine foldl_writeCell_other _ _ _ _ fun i _ same => small ?_
    rw [← same, key]
    exact i.isLt

theorem table_programVlans (gsw : Gsw ports) (hw : Hw) :
    table (programVlans write gsw hw) =
      (vlanIndices.filter fun i => decide ((gsw.vlanEntries i).member ≠ 0)).foldl
        (writeCell (fun i => (gsw.vlanEntries i).vid.setWidth 12) fun i _ =>
          row (gsw.vlanEntries i).member (gsw.vlanEntries i).etags) (table hw) := by
  rw [← foldl_table table _ _ (fun hw i => write (gsw.vlanEntries i).vid
    (gsw.vlanEntries i).member (gsw.vlanEntries i).etags hw) fun hw i => writes _ _ _ hw]
  simp only [programVlans, List.foldl_filter, decide_eq_true_eq]

theorem programVlans_carried {gsw : Gsw ports} (distinct : Distinct gsw) (hw : Hw)
    {i : Fin NUM_VLANS} {v : BitVec 12} (carries : Carries gsw i v) :
    table (programVlans write gsw hw) v =
      row (gsw.vlanEntries i).member (gsw.vlanEntries i).etags := by
  have programmed : ∀ j, j ∈ vlanIndices.filter
      (fun i => decide ((gsw.vlanEntries i).member ≠ 0)) ↔ ∃ p, (gsw.vlanEntries j).Has p := by
    intro j
    simp only [List.mem_filter, mem_vlanIndices, true_and, decide_eq_true_eq]
    exact (gsw.vlanEntries j).member_ne_zero_iff
  have key := (vid_eq_iff (gsw.vlanEntries i) v).mpr carries.1
  rw [table_programVlans writes, ← key]
  refine foldl_writeCell _ (fun i _ => row (gsw.vlanEntries i).member (gsw.vlanEntries i).etags)
    _ (nodup_vlanIndices.filter _) ?_ ((programmed i).mpr carries.2)
  intro a inA b inB same
  exact distinct a b _ ⟨(vid_eq_iff _ _).mp rfl, (programmed a).mp inA⟩
    ⟨(vid_eq_iff _ _).mp same.symm, (programmed b).mp inB⟩

theorem programVlans_vacant {gsw : Gsw ports} (hw : Hw) {v : BitVec 12}
    (vacant : ∀ i, ¬ Carries gsw i v) : table (programVlans write gsw hw) v = table hw v := by
  rw [table_programVlans writes]
  refine foldl_writeCell_other _ _ _ _ fun i member same => vacant i ⟨(vid_eq_iff _ _).mp same, ?_⟩
  rw [List.mem_filter, decide_eq_true_eq] at member
  exact (gsw.vlanEntries i).member_ne_zero_iff.mp member.2

end Loops

theorem applied_iff {r : Reading ports Hw} {gsw : Gsw ports} {hw : Hw} (base : BitVec 12 → Row)
    (carried : ∀ i v, Carries gsw i v → Holds r (r.row hw v) (gsw.vlanEntries i).toPortSet)
    (vacant : ∀ v, (∀ i, ¬ Carries gsw i v) → r.row hw v = base v)
    (pvid : ∀ p, r.pvid hw p = (pvidOf gsw p).setWidth 12) :
    Applied r gsw hw ↔ ∀ v, r.valid (base v) = true → ∃ i, Carries gsw i v := by
  constructor
  · intro applied v stale
    by_contra none
    have free : ∀ i, ¬ Carries gsw i v := not_exists.mp none
    have invalid := applied.vacant v free
    rw [vacant v free, stale] at invalid
    cases invalid
  · intro served
    refine ⟨carried, ?_, fun p => pvid p ▸ pvidIs_pvidOf gsw p⟩
    intro v free
    rw [vacant v free, ← Bool.not_eq_true]
    exact fun stale => (not_exists.mpr free) (served v stale)

structure Driver (ports : Nat) (Hw : Type) where
  applyVlanConfig : Gsw ports → Hw → Hw
  portIsolation : Gsw ports → Hw → Hw
  /-- What `reset_switch` does besides. -/
  resetHw : Hw → Hw

structure State (ports : Nat) (Hw : Type) where
  gsw : Gsw ports
  hw : Hw

/-- `mt753x_apply_config`, `an8855_apply_config`. -/
def applyConfig (d : Driver ports Hw) (s : State ports Hw) : State ports Hw :=
  if s.gsw.globalVlanEnable = false then { s with hw := d.portIsolation s.gsw s.hw }
  else { s with hw := d.applyVlanConfig s.gsw s.hw }

/-- `mt753x_reset_switch`, `an8855_reset_switch`. -/
def resetSwitch (d : Driver ports Hw) (s : State ports Hw) : State ports Hw :=
  { gsw := resetConfig s.gsw, hw := d.resetHw s.hw }

inductive Event
  | setVid (portVlan : Nat) (value : BitVec 32)
  | setVlanPorts (portVlan : Nat) (value : List SwitchPort)
  | setPortPvid (port : Nat) (pvid : Int)
  | setVlanEnable (value : BitVec 32)
  | resetSwitch
  | applyConfig

def step (d : Driver ports Hw) (s : State ports Hw) : Event → State ports Hw
  | .setVid portVlan value => { s with gsw := (setVid s.gsw portVlan value).getD s.gsw }
  | .setVlanPorts portVlan value =>
    { s with gsw := (setVlanPorts s.gsw portVlan value).getD s.gsw }
  | .setPortPvid port pvid => { s with gsw := (setPortPvid s.gsw port pvid).getD s.gsw }
  | .setVlanEnable value => { s with gsw := setVlanEnable s.gsw value }
  | .resetSwitch => resetSwitch d s
  | .applyConfig => applyConfig d s

/-- What an `apply_config` is to leave. -/
structure Meets (r : Reading ports Hw) (s : State ports Hw) : Prop where
  enabled : s.gsw.globalVlanEnable = true → Applied r s.gsw s.hw
  disabled : s.gsw.globalVlanEnable = false → Isolated r s.gsw s.hw

/-- No two VLANs with members share a VID where the table is programmed. -/
def Lawful (s : State ports Hw) (event : Event) : Prop :=
  event = .applyConfig → s.gsw.globalVlanEnable = true → Distinct s.gsw

def Programs (v : BitVec 12) (s : State ports Hw) (event : Event) : Prop :=
  event = .applyConfig ∧ s.gsw.globalVlanEnable = true ∧ ∃ i, Carries s.gsw i v

/-- A step of the run for which this holds, and no event after it that ends it. -/
def Since (d : Driver ports Hw) (makes : State ports Hw → Event → Prop) (keeps : Event → Prop)
    (s : State ports Hw) (events : List Event) : Prop :=
  ∃ before event since, events = before ++ event :: since ∧
    makes (run (step d) s before) event ∧ ∀ event ∈ since, keeps event

theorem fact_iff_since {d : Driver ports Hw} {makes : State ports Hw → Event → Prop}
    {keeps : Event → Prop} (fact : State ports Hw → Prop) (single : ∀ s event, Lawful s event →
      (fact (step d s event) ↔ makes s event ∨ fact s ∧ keeps event)) (s : State ports Hw)
    (events : List Event) (lawful : Along (step d) Lawful s events) :
    fact (run (step d) s events) ↔
      fact s ∧ (∀ event ∈ events, keeps event) ∨ Since d makes keeps s events := by
  rw [fact_run_iff (step d) Lawful makes (fun _ event => keeps event) fact single s events lawful]
  simp only [along_iff_forall]
  rfl

theorem applyConfig_enabled (d : Driver ports Hw) {s : State ports Hw}
    (enabled : s.gsw.globalVlanEnable = true) :
    applyConfig d s = { s with hw := d.applyVlanConfig s.gsw s.hw } :=
  if_neg (by simp [enabled])

theorem applyConfig_disabled (d : Driver ports Hw) {s : State ports Hw}
    (disabled : s.gsw.globalVlanEnable = false) :
    applyConfig d s = { s with hw := d.portIsolation s.gsw s.hw } :=
  if_pos disabled

theorem valid_applyConfig_iff {d : Driver ports Hw} (valid : Hw → Prop) {s : State ports Hw}
    {v : BitVec 12} (lawful : Lawful s .applyConfig)
    (isolation : valid (d.portIsolation s.gsw s.hw) ↔ valid s.hw)
    (carried : Distinct s.gsw → ∀ i, Carries s.gsw i v →
      valid (d.applyVlanConfig s.gsw s.hw)) (vacant : (∀ i, ¬ Carries s.gsw i v) →
      (valid (d.applyVlanConfig s.gsw s.hw) ↔ valid s.hw)) :
    valid (applyConfig d s).hw ↔ Programs v s .applyConfig ∨ valid s.hw := by
  cases enable : s.gsw.globalVlanEnable with
  | false =>
    rw [applyConfig_disabled d enable]
    refine isolation.trans (or_iff_right ?_).symm
    exact fun made => absurd (enable.symm.trans made.2.1) Bool.false_ne_true
  | true =>
    rw [applyConfig_enabled d enable]
    by_cases programmed : ∃ i, Carries s.gsw i v
    · obtain ⟨i, carries⟩ := programmed
      exact iff_of_true (carried (lawful rfl enable) i carries) (.inl ⟨rfl, enable, i, carries⟩)
    · refine (vacant (not_exists.mp programmed)).trans (or_iff_right ?_).symm
      exact fun made => programmed made.2.2

theorem meets_applyConfig_iff {d : Driver ports Hw} {r : Reading ports Hw} {s : State ports Hw}
    {fitsTable fitsPorts : Prop} (table : s.gsw.globalVlanEnable = true →
      (Applied r s.gsw (d.applyVlanConfig s.gsw s.hw) ↔ fitsTable))
    (isolation : s.gsw.globalVlanEnable = false →
      (Isolated r s.gsw (d.portIsolation s.gsw s.hw) ↔ fitsPorts)) :
    Meets r (applyConfig d s) ↔
      (s.gsw.globalVlanEnable = true → fitsTable) ∧
        (s.gsw.globalVlanEnable = false → fitsPorts) := by
  cases enable : s.gsw.globalVlanEnable with
  | false =>
    rw [applyConfig_disabled d enable, ← isolation enable]
    constructor
    · exact fun meets => ⟨fun never => (nomatch never), fun _ => meets.disabled enable⟩
    · rintro ⟨-, isolated⟩
      exact ⟨fun never => absurd (enable.symm.trans never) Bool.false_ne_true,
        fun _ => isolated rfl⟩
  | true =>
    rw [applyConfig_enabled d enable, ← table enable]
    constructor
    · exact fun meets => ⟨fun _ => meets.enabled enable, fun never => (nomatch never)⟩
    · rintro ⟨applied, -⟩
      exact ⟨fun _ => applied rfl,
        fun never => absurd (never.symm.trans enable) Bool.false_ne_true⟩

/-- Every `apply_config` of the run leaves what it is to leave. -/
def AlwaysMeets (d : Driver ports Hw) (r : Reading ports Hw) (s : State ports Hw)
    (events : List Event) : Prop :=
  Along (step d) (fun s event => event = .applyConfig → Meets r (step d s event)) s events

/-- Every `apply_config` of the run starts from such a state. -/
def AlwaysFits (d : Driver ports Hw) (fits : State ports Hw → Prop) (s : State ports Hw)
    (events : List Event) : Prop :=
  Along (step d) (fun s event => event = .applyConfig → fits s) s events

theorem alwaysMeets_iff {d : Driver ports Hw} {r : Reading ports Hw} {fits : State ports Hw → Prop}
    (single : ∀ s, Lawful s .applyConfig → (Meets r (applyConfig d s) ↔ fits s))
    (s : State ports Hw) (events : List Event) (lawful : Along (step d) Lawful s events) :
    AlwaysMeets d r s events ↔ AlwaysFits d fits s events := by
  constructor
  · intro meets
    refine along_mono (along_and lawful meets) ?_
    rintro s event ⟨lawful, meets⟩ rfl
    exact (single s lawful).mp (meets rfl)
  · intro fitting
    refine along_mono (along_and lawful fitting) ?_
    rintro s event ⟨lawful, fitting⟩ rfl
    exact (single s lawful).mpr (fitting rfl)

end OpenwrtSource.Swconfig.VlanTable
