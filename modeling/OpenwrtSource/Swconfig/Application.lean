import OpenwrtSource.Swconfig.An8855
import OpenwrtSource.Swconfig.Mt753x

/-!
# Applying a configuration

Both drivers program the VLANs with members and the PVIDs as configured.  What an
earlier configuration has left is where they fail: an entry of VID 4095 for the MT753x,
any entry and the security mode for the AN8855.
-/

namespace OpenwrtSource.Swconfig.Application

open Lib.Run
open Swconfig.Config Swconfig.VlanTable
open Swconfig.Mt753x (mt753x)
open Swconfig.An8855 (an8855)

/-- In every run of calls, an `apply_config` leaves the switch as configured exactly when
nothing is left over that it does not write. -/
theorem applyConfig_exact_iff (s : State Mt753x.NUM_PORTS Mt753x.Hw) (events : List Event)
    (lawful : Along (step mt753x) Lawful s events) (t : State An8855.NUM_PORTS An8855.Hw)
    (calls : List Event) (lawfulCalls : Along (step an8855) Lawful t calls) :
    (AlwaysMeets mt753x Mt753x.reading s events ↔ AlwaysFits mt753x Mt753x.Fits s events) ∧
      (AlwaysMeets an8855 An8855.reading t calls ↔ AlwaysFits an8855 An8855.Fits t calls) :=
  ⟨alwaysMeets_iff Mt753x.meets_iff_fits s events lawful,
    alwaysMeets_iff An8855.meets_iff_fits t calls lawfulCalls⟩

section

variable {ports : Nat} {Hw : Type}

def vlan1 : Fin NUM_VLANS := ⟨1, by decide⟩

/-- VLAN 1 as configured, the others as `devm_kzalloc` leaves them. -/
def oneVlan (cpuPort : Fin ports) (enabled : Bool) (entry : VlanEntry ports) : Gsw ports where
  cpuPort := cpuPort
  port5Stag := false
  port6Stag := false
  globalVlanEnable := enabled
  vlanEntries := Function.update
    (fun _ => { PortSet.empty with vid := 0, vid_le := by decide }) vlan1 entry
  portPvid := fun _ => 0

def noEntry : VlanEntry ports := { PortSet.empty with vid := 0, vid_le := by decide }

theorem carries_oneVlan {cpuPort : Fin ports} {enabled : Bool} {entry : VlanEntry ports}
    {i : Fin NUM_VLANS} {v : BitVec 12} (carries : Carries (oneVlan cpuPort enabled entry) i v) :
    i = vlan1 ∧ entry.vid.toNat = v.toNat ∧ ∃ p, entry.Has p := by
  by_cases here : i = vlan1
  · subst here
    simp only [Carries, oneVlan, Function.update_self] at carries
    exact ⟨rfl, carries⟩
  · obtain ⟨-, p, has⟩ := carries
    simp only [oneVlan, Function.update_of_ne here] at has
    simp [PortSet.Has, PortSet.empty] at has

theorem oneVlan_carries (cpuPort : Fin ports) (enabled : Bool) {entry : VlanEntry ports}
    {v : BitVec 12} (vid : entry.vid.toNat = v.toNat) (has : ∃ p, entry.Has p) :
    Carries (oneVlan cpuPort enabled entry) vlan1 v := by
  simp only [Carries, oneVlan, Function.update_self]
  exact ⟨vid, has⟩

theorem distinct_oneVlan (cpuPort : Fin ports) (enabled : Bool) (entry : VlanEntry ports) :
    Distinct (oneVlan cpuPort enabled entry) := by
  intro i j v first second
  rw [(carries_oneVlan first).1, (carries_oneVlan second).1]

variable {vid : BitVec 32} (d : Driver ports Hw)

theorem setVid_oneVlan (cpuPort : Fin ports) (enabled : Bool) (entry : VlanEntry ports) (hw : Hw)
    (value : BitVec 32) (le : (value.setWidth 16).toNat ≤ MAX_VID) :
    step d ⟨oneVlan cpuPort enabled entry, hw⟩ (.setVid 1 value) =
      ⟨oneVlan cpuPort enabled { entry with vid := value.setWidth 16, vid_le := le }, hw⟩ := by
  have vlan : 1 < NUM_VLANS := by decide
  simp only [step, setVid, dif_pos vlan, dif_pos le, Option.getD_some, oneVlan, vlan1,
    Function.update_self, Function.update_idem]

theorem setVlanPorts_oneVlan (cpuPort : Fin ports) (enabled : Bool) (entry : VlanEntry ports)
    (hw : Hw) {value : List SwitchPort} {set : PortSet ports} (fits : value.length ≤ ports)
    (added : addPorts value PortSet.empty = some set) :
    step d ⟨oneVlan cpuPort enabled entry, hw⟩ (.setVlanPorts 1 value) =
      ⟨oneVlan cpuPort enabled { entry with toPortSet := set }, hw⟩ := by
  have vlan : 1 < NUM_VLANS := by decide
  simp only [step, setVlanPorts, dif_pos vlan, if_pos fits, added, Option.getD_some, oneVlan,
    vlan1, Function.update_self, Function.update_idem]

theorem setVlanEnable_oneVlan (cpuPort : Fin ports) (enabled : Bool) (entry : VlanEntry ports)
    (hw : Hw) :
    step d ⟨oneVlan cpuPort enabled entry, hw⟩ (.setVlanEnable 1) =
      ⟨oneVlan cpuPort true entry, hw⟩ :=
  rfl

def untagged (vid : BitVec 32) (le : (vid.setWidth 16).toNat ≤ MAX_VID) (ports_pos : 0 < ports) :
    VlanEntry ports :=
  { PortSet.empty.add ⟨0, false⟩ ports_pos with vid := vid.setWidth 16, vid_le := le }

theorem has_untagged (le : (vid.setWidth 16).toNat ≤ MAX_VID) (ports_pos : 0 < ports) :
    (untagged vid le ports_pos).Has ⟨0, ports_pos⟩ := by
  simp [PortSet.Has, untagged, PortSet.add, PortSet.empty, BIT]

/-- The driver as it comes out of its probe without a port map. -/
def probed (cpuPort : Fin ports) (hw : Hw) : State ports Hw := ⟨oneVlan cpuPort false noEntry, hw⟩

def configure (vid : BitVec 32) : List Event :=
  [.setVid 1 vid, .setVlanPorts 1 [⟨0, false⟩], .setVlanEnable 1]

theorem run_configure (cpuPort : Fin ports) (hw : Hw) (le : (vid.setWidth 16).toNat ≤ MAX_VID)
    (ports_pos : 0 < ports) :
    run (step d) (probed cpuPort hw) (configure vid) =
      ⟨oneVlan cpuPort true (untagged vid le ports_pos), hw⟩ := by
  have added : addPorts [⟨0, false⟩] PortSet.empty =
      some ((PortSet.empty : PortSet ports).add ⟨0, false⟩ ports_pos) :=
    dif_pos ports_pos
  rw [configure, run_cons, run_cons, run_cons, run_nil, probed, setVid_oneVlan d _ _ _ _ _ le,
    setVlanPorts_oneVlan d _ _ _ _ (by exact ports_pos) added, setVlanEnable_oneVlan]
  rfl

theorem along_configure (cpuPort : Fin ports) (hw : Hw) (le : (vid.setWidth 16).toNat ≤ MAX_VID)
    (ports_pos : 0 < ports) (guard : State ports Hw → Event → Prop)
    (free : ∀ s event, event ≠ .applyConfig → guard s event) (rest : List Event) :
    Along (step d) guard (probed cpuPort hw) (configure vid ++ rest) ↔
      Along (step d) guard ⟨oneVlan cpuPort true (untagged vid le ports_pos), hw⟩ rest := by
  rw [along_append, run_configure d cpuPort hw le ports_pos, and_iff_right]
  apply along_of_forall
  intro s event member
  apply free
  rintro rfl
  simp [configure] at member

theorem along_change (cpuPort : Fin ports) (hw : Hw) {entry changed : VlanEntry ports}
    {change : Event} (changes : ∀ hw, step d ⟨oneVlan cpuPort true entry, hw⟩ change =
      ⟨oneVlan cpuPort true changed, hw⟩) (guard : State ports Hw → Event → Prop) :
    Along (step d) guard ⟨oneVlan cpuPort true entry, hw⟩
        [.applyConfig, change, .applyConfig] ↔
      guard ⟨oneVlan cpuPort true entry, hw⟩ .applyConfig ∧
        guard ⟨oneVlan cpuPort true entry,
          d.applyVlanConfig (oneVlan cpuPort true entry) hw⟩ change ∧
        guard ⟨oneVlan cpuPort true changed,
          d.applyVlanConfig (oneVlan cpuPort true entry) hw⟩ .applyConfig := by
  have applied : step d ⟨oneVlan cpuPort true entry, hw⟩ .applyConfig =
      ⟨oneVlan cpuPort true entry, d.applyVlanConfig (oneVlan cpuPort true entry) hw⟩ :=
    applyConfig_enabled d rfl
  simp only [Along, applied, changes, and_true]

theorem lawful_oneVlan (cpuPort : Fin ports) (enabled : Bool) (entry : VlanEntry ports)
    (hw : Hw) (event : Event) : Lawful ⟨oneVlan cpuPort enabled entry, hw⟩ event :=
  fun _ _ => distinct_oneVlan cpuPort enabled entry

end

def hw753x : Mt753x.Hw where
  pcr := fun _ => 0
  pvc := fun _ => 0
  ppbv1 := fun _ => 0
  vawd1 := 0
  vawd2 := 0
  vlanTable := fun _ => (0, 0)

def hw8855 : An8855.Hw where
  pcr := fun _ => 0
  pvc := fun _ => 0
  portMatrix := fun _ => 0
  pvid := fun _ => 0
  vawd0 := 0
  vawd1 := 0
  vlanTable := fun _ => (0, 0)

theorem lawful_of_ne {ports : Nat} {Hw : Type} (s : State ports Hw) (event : Event)
    (other : event ≠ .applyConfig) : Lawful s event :=
  fun same => absurd same other

def start753x : State Mt753x.NUM_PORTS Mt753x.Hw := probed Mt753x.DFL_CPU_PORT hw753x

def start8855 : State An8855.NUM_PORTS An8855.Hw := probed An8855.DFL_CPU_PORT hw8855

theorem vid5_le : ((5 : BitVec 32).setWidth 16).toNat ≤ MAX_VID := by decide

theorem vid4095_le : ((4095 : BitVec 32).setWidth 16).toNat ≤ MAX_VID := by decide

/-- The first configuration leaves both switches as configured. -/
theorem applyConfig_exact_iff_first :
    AlwaysMeets mt753x Mt753x.reading start753x (configure 5 ++ [.applyConfig]) ∧
      AlwaysMeets an8855 An8855.reading start8855 (configure 5 ++ [.applyConfig]) := by
  have exact := applyConfig_exact_iff start753x (configure 5 ++ [.applyConfig])
    ((along_configure mt753x _ hw753x vid5_le (by decide) Lawful lawful_of_ne _).mpr
      ⟨lawful_oneVlan _ _ _ _ _, trivial⟩)
    start8855 (configure 5 ++ [.applyConfig])
    ((along_configure an8855 _ hw8855 vid5_le (by decide) Lawful lawful_of_ne _).mpr
      ⟨lawful_oneVlan _ _ _ _ _, trivial⟩)
  constructor
  · refine exact.1.mpr ((along_configure mt753x _ hw753x vid5_le (by decide) _ ?_ _).mpr
      ⟨?_, trivial⟩)
    · exact fun _ _ other same => absurd same other
    · have clear : Mt753x.reading.valid (0, 0) = false := by decide
      exact fun _ => ⟨fun _ stale => absurd (clear.symm.trans stale) Bool.false_ne_true⟩
  · refine exact.2.mpr ((along_configure an8855 _ hw8855 vid5_le (by decide) _ ?_ _).mpr
      ⟨?_, trivial⟩)
    · exact fun _ _ other same => absurd same other
    · have clear : An8855.reading.valid (0, 0) = false := by decide
      exact fun _ => ⟨fun _ _ stale => absurd (clear.symm.trans stale) Bool.false_ne_true,
        fun disabled => absurd disabled.symm Bool.false_ne_true⟩

def lastVidRun : List Event :=
  configure 4095 ++ [.applyConfig, .setVid 1 5, .applyConfig]

def emptiedRun : List Event :=
  configure 5 ++ [.applyConfig, .setVlanPorts 1 [], .applyConfig]

/-- The MT753x leaves the old entry of VID 4095, and the AN8855 that of VID 5. -/
theorem stale_entries :
    ¬ (∀ (s : State Mt753x.NUM_PORTS Mt753x.Hw) (events : List Event),
        Along (step mt753x) Lawful s events → AlwaysMeets mt753x Mt753x.reading s events) ∧
      ¬ ∀ (s : State An8855.NUM_PORTS An8855.Hw) (events : List Event),
        Along (step an8855) Lawful s events → AlwaysMeets an8855 An8855.reading s events := by
  constructor
  · intro always
    have changes := fun hw => setVid_oneVlan mt753x Mt753x.DFL_CPU_PORT true
      (untagged 4095 vid4095_le (by decide)) hw 5 vid5_le
    have lawful : Along (step mt753x) Lawful start753x lastVidRun :=
      (along_configure mt753x _ hw753x vid4095_le (by decide) Lawful lawful_of_ne _).mpr
        ((along_change mt753x _ hw753x changes Lawful).mpr
          ⟨lawful_oneVlan _ _ _ _ _, lawful_oneVlan _ _ _ _ _, lawful_oneVlan _ _ _ _ _⟩)
    have fits := (alwaysMeets_iff Mt753x.meets_iff_fits _ _ lawful).mp (always _ _ lawful)
    obtain ⟨-, -, second⟩ := (along_change mt753x _ hw753x changes _).mp
      ((along_configure mt753x _ hw753x vid4095_le (by decide) _
        (fun _ _ other same => absurd same other) _).mp fits)
    have holds := Mt753x.holds_applyVlanConfig (distinct_oneVlan _ _ _) hw753x
      (oneVlan_carries Mt753x.DFL_CPU_PORT true (v := 4095) rfl
        ⟨_, has_untagged vid4095_le (by decide)⟩)
    obtain ⟨i, carries⟩ := (second rfl).last rfl holds.valid
    exact absurd (carries_oneVlan carries).2.1 (by decide)
  · intro always
    have none : ([] : List SwitchPort).length ≤ An8855.NUM_PORTS := Nat.zero_le _
    have changes := fun hw => setVlanPorts_oneVlan an8855 An8855.DFL_CPU_PORT true
      (untagged 5 vid5_le (by decide)) hw none rfl
    have lawful : Along (step an8855) Lawful start8855 emptiedRun :=
      (along_configure an8855 _ hw8855 vid5_le (by decide) Lawful lawful_of_ne _).mpr
        ((along_change an8855 _ hw8855 changes Lawful).mpr
          ⟨lawful_oneVlan _ _ _ _ _, lawful_oneVlan _ _ _ _ _, lawful_oneVlan _ _ _ _ _⟩)
    have fits := (alwaysMeets_iff An8855.meets_iff_fits _ _ lawful).mp (always _ _ lawful)
    obtain ⟨-, -, second⟩ := (along_change an8855 _ hw8855 changes _).mp
      ((along_configure an8855 _ hw8855 vid5_le (by decide) _
        (fun _ _ other same => absurd same other) _).mp fits)
    have holds := An8855.holds_applyVlanConfig (distinct_oneVlan _ _ _) hw8855
      (oneVlan_carries An8855.DFL_CPU_PORT true (v := 5) rfl ⟨_, has_untagged vid5_le (by decide)⟩)
    obtain ⟨i, carries⟩ := (second rfl).table rfl 5 holds.valid
    obtain ⟨-, -, p, has⟩ := carries_oneVlan carries
    simp [PortSet.Has, PortSet.empty] at has

/-- What stays in the switches over whole runs: for the MT753x an entry of VID 4095 once it has
been programmed, for the AN8855 every entry until a reset, and VLAN mode. -/
theorem leftovers_run_iff (s : State Mt753x.NUM_PORTS Mt753x.Hw) (events : List Event)
    (lawful : Along (step mt753x) Lawful s events) (t : State An8855.NUM_PORTS An8855.Hw)
    (calls : List Event) (lawfulCalls : Along (step an8855) Lawful t calls) (v : BitVec 12)
    (p : An8855.Port) :
    (Mt753x.reading.valid ((run (step mt753x) s events).hw.vlanTable 4095) = true ↔
        Mt753x.reading.valid (s.hw.vlanTable 4095) = true ∨
          Since mt753x (Programs 4095) (fun _ => True) s events) ∧
      (An8855.reading.valid ((run (step an8855) t calls).hw.vlanTable v) = true ↔
        An8855.reading.valid (t.hw.vlanTable v) = true ∧
            (∀ event ∈ calls, An8855.KeepsEntry v event) ∨
          Since an8855 (Programs v) (An8855.KeepsEntry v) t calls) ∧
      (An8855.reading.portVlan (run (step an8855) t calls).hw p ≠ 0 ↔
        An8855.reading.portVlan t.hw p ≠ 0 ∨
          Since an8855 An8855.Enables (fun _ => True) t calls) :=
  ⟨Mt753x.valid_run_iff s events lawful, An8855.valid_run_iff v t calls lawfulCalls,
    An8855.mode_run_iff p t calls lawfulCalls⟩

theorem leftovers_run_iff_lastVid :
    Mt753x.reading.valid ((run (step mt753x) start753x lastVidRun).hw.vlanTable 4095) = true ↔
      Mt753x.reading.valid (start753x.hw.vlanTable 4095) = true ∨
        Since mt753x (Programs 4095) (fun _ => True) start753x lastVidRun :=
  (leftovers_run_iff start753x lastVidRun ((along_configure mt753x _ hw753x vid4095_le (by decide)
    Lawful lawful_of_ne _).mpr ((along_change mt753x _ hw753x (fun hw => setVid_oneVlan mt753x
      Mt753x.DFL_CPU_PORT true (untagged 4095 vid4095_le (by decide)) hw 5 vid5_le) Lawful).mpr
    ⟨lawful_oneVlan _ _ _ _ _, lawful_oneVlan _ _ _ _ _, lawful_oneVlan _ _ _ _ _⟩))
    start8855 [] trivial 5 ⟨0, by decide⟩).1

end OpenwrtSource.Swconfig.Application
