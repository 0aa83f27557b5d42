import OpenwrtSource.Swconfig.VlanTable

/-!
# The MT753x under swconfig

The driver clears the VLAN table before it programs it, up to the last VID but one, and
writes the whole `PCR` of a port in both modes.
-/

namespace OpenwrtSource.Swconfig.Mt753x

open Lib.Run Lib.TableFold
open Swconfig.Config Swconfig.VlanTable

def NUM_PORTS : Nat := 7

abbrev Port := Fin NUM_PORTS

def DFL_CPU_PORT : Port := ⟨6, by decide⟩

structure Hw where
  pcr : Port → BitVec 32
  pvc : Port → BitVec 32
  ppbv1 : Port → BitVec 32
  vawd1 : BitVec 32
  vawd2 : BitVec 32
  vlanTable : BitVec 12 → Row

def VTAG_EN : BitVec 32 := BIT 32 28
def IVL_MAC : BitVec 32 := BIT 32 30
def VENTRY_VALID : BitVec 32 := BIT 32 0
def PORT_MEM_S : Nat := 16
def PORT_MEM_M : BitVec 32 := 0xff0000
def PORT_MATRIX_S : Nat := 16
def PORT_MATRIX_M : BitVec 32 := 0xff0000
def SECURITY_MODE : BitVec 32 := 3
def STAG_VPID_S : Nat := 16
def VLAN_ATTR_S : Nat := 6
def VA_TRANSPARENT_PORT : BitVec 32 := 3
def PVC_PORT_STAG : BitVec 32 := BIT 32 5

def reading : Reading NUM_PORTS Hw where
  row := Hw.vlanTable
  valid row := row.1.getLsbD 0
  member row p := row.1.getLsbD (PORT_MEM_S + p.val)
  egress row p := row.2.extractLsb' (p.val * 2 + 0) 2
  pvid hw p := (hw.ppbv1 p).setWidth 12
  portVlan hw p := (hw.pcr p).setWidth 2
  matrix hw p q := (hw.pcr p).getLsbD (PORT_MATRIX_S + q.val)

/-- `mt753x_vlan_ctrl` with `VTCR_WRITE_VLAN_ENTRY`, which the switch carries out. -/
def vlanCtrl (vid : BitVec 16) (hw : Hw) : Hw :=
  { hw with vlanTable := Function.update hw.vlanTable (vid.setWidth 12) (hw.vawd1, hw.vawd2) }

/-- `VAWD1` for these members. -/
def memberWord (ports : BitVec 8) : BitVec 32 :=
  if ports ≠ 0 then
    IVL_MAC ||| VTAG_EN ||| VENTRY_VALID ||| ((ports.setWidth 32 <<< PORT_MEM_S) &&& PORT_MEM_M)
  else 0

/-- `mt753x_write_vlan_entry`. -/
def writeVlanEntry (vid : BitVec 16) (ports etags : BitVec 8) (hw : Hw) : Hw :=
  vlanCtrl vid { hw with vawd1 := memberWord ports, vawd2 := egressModes NUM_PORTS 0 etags 0 }

def stagOn (gsw : Gsw NUM_PORTS) (i : Port) : Bool :=
  (gsw.port5Stag && decide (i.val = 5)) || (gsw.port6Stag && decide (i.val = 6))

def pvcMode (gsw : Gsw NUM_PORTS) (i : Port) : BitVec 32 :=
  let (tagPorts, untagPorts) := egressPorts gsw
  let mode : BitVec 32 := 0x8100 <<< STAG_VPID_S
  let mode := if untagPorts.getLsbD i && !tagPorts.getLsbD i then
    (0x8100 <<< STAG_VPID_S) ||| (VA_TRANSPARENT_PORT <<< VLAN_ATTR_S) else mode
  if stagOn gsw i then (0x8100 <<< STAG_VPID_S) ||| PVC_PORT_STAG else mode

def setSecurityMode (hw : Hw) : Hw :=
  (List.finRange NUM_PORTS).foldl (fun hw i =>
    { hw with pcr := Function.update hw.pcr i (PORT_MATRIX_M ||| SECURITY_MODE) }) hw

def setPvcModes (gsw : Gsw NUM_PORTS) (hw : Hw) : Hw :=
  (List.finRange NUM_PORTS).foldl (fun hw i =>
    { hw with pvc := Function.update hw.pvc i (pvcMode gsw i) }) hw

def setPvids (gsw : Gsw NUM_PORTS) (hw : Hw) : Hw :=
  (List.finRange NUM_PORTS).foldl (fun hw i =>
    { hw with ppbv1 := Function.update hw.ppbv1 i (pvidWord (pvidOf gsw i) (hw.ppbv1 i)) }) hw

/-- `mt753x_apply_vlan_config`. -/
def applyVlanConfig (gsw : Gsw NUM_PORTS) (hw : Hw) : Hw :=
  let hw := setSecurityMode hw
  let hw := setPvcModes gsw hw
  let hw := clearAllVlan writeVlanEntry hw
  let hw := programVlans writeVlanEntry gsw hw
  setPvids gsw hw

def isolatedPvcMode (gsw : Gsw NUM_PORTS) (i : Port) : BitVec 32 :=
  let mode : BitVec 32 := 0x8100 <<< STAG_VPID_S
  if stagOn gsw i then mode ||| PVC_PORT_STAG
  else mode ||| (VA_TRANSPARENT_PORT <<< VLAN_ATTR_S)

/-- `mt753x_port_isolation`. -/
def portIsolation (gsw : Gsw NUM_PORTS) (hw : Hw) : Hw :=
  let hw := (List.finRange NUM_PORTS).foldl (fun hw i =>
    { hw with pcr := Function.update hw.pcr i (BIT 32 gsw.cpuPort <<< PORT_MATRIX_S) }) hw
  let hw := { hw with pcr := Function.update hw.pcr gsw.cpuPort PORT_MATRIX_M }
  (List.finRange NUM_PORTS).foldl (fun hw i =>
    { hw with pvc := Function.update hw.pvc i (isolatedPvcMode gsw i) }) hw

/-- `reset_switch` writes nothing to the switch. -/
def mt753x : Driver NUM_PORTS Hw where
  applyVlanConfig := applyVlanConfig
  portIsolation := portIsolation
  resetHw hw := hw

theorem getLsbD_memberWord {ports : BitVec 8} (some : ports ≠ 0) (p : Port) :
    (memberWord ports).getLsbD (PORT_MEM_S + p.val) = ports.getLsbD p := by
  have flags : ∀ p : Port,
      (IVL_MAC ||| VTAG_EN ||| VENTRY_VALID).getLsbD (PORT_MEM_S + p.val) = false := by decide
  have mask : ∀ p : Port, PORT_MEM_M.getLsbD (PORT_MEM_S + p.val) = true := by decide
  have small : PORT_MEM_S + p.val < 32 := by
    have := p.isLt
    simp only [PORT_MEM_S, NUM_PORTS] at *
    omega
  rw [memberWord, if_pos some, BitVec.getLsbD_or, flags, BitVec.getLsbD_and, mask,
    BitVec.getLsbD_shiftLeft, Nat.add_sub_cancel_left, BitVec.getLsbD_setWidth]
  simp [small, show p.val < 32 by omega]

theorem holds_row {set : PortSet NUM_PORTS} (some : ∃ p, set.Has p) :
    Holds reading (memberWord set.member, egressModes NUM_PORTS 0 set.etags 0) set := by
  have nonzero := set.member_ne_zero_iff.mpr some
  refine ⟨?_, ?_, ?_⟩
  · show (memberWord set.member).getLsbD 0 = true
    rw [memberWord, if_pos nonzero, BitVec.getLsbD_or]
    rfl
  · intro p
    show (memberWord set.member).getLsbD (PORT_MEM_S + p.val) = true ↔ _
    rw [getLsbD_memberWord nonzero]
    rfl
  · intro p _
    exact extract_egressModes (by decide) set.etags p (by simp)

theorem vlanTable_writeVlanEntry (vid : BitVec 16) (ports etags : BitVec 8) (hw : Hw) :
    (writeVlanEntry vid ports etags hw).vlanTable = Function.update hw.vlanTable
      (vid.setWidth 12) (memberWord ports, egressModes NUM_PORTS 0 etags 0) :=
  rfl

/-- The entries that `mt753x_apply_vlan_config` starts from. -/
def cleared (hw : Hw) (v : BitVec 12) : Row :=
  if v.toNat < NUM_VLANS then (memberWord 0, egressModes NUM_PORTS 0 0 0) else hw.vlanTable v

section

variable (gsw : Gsw NUM_PORTS) (hw : Hw)

theorem vlanTable_setSecurityMode : (setSecurityMode hw).vlanTable = hw.vlanTable := by
  refine foldl_frame Hw.vlanTable _ ?_ _ hw
  exact fun _ _ => rfl

theorem setPvcModes_frame {T : Type} (field : Hw → T)
    (frame : ∀ hw pvc, field { hw with pvc := pvc } = field hw) :
    field (setPvcModes gsw hw) = field hw :=
  foldl_frame field _ (fun hw _ => frame hw _) _ hw

theorem setPvids_frame {T : Type} (field : Hw → T)
    (frame : ∀ hw ppbv1, field { hw with ppbv1 := ppbv1 } = field hw) :
    field (setPvids gsw hw) = field hw :=
  foldl_frame field _ (fun hw _ => frame hw _) _ hw

theorem ppbv1_setPvids (p : Port) :
    (setPvids gsw hw).ppbv1 p = pvidWord (pvidOf gsw p) (hw.ppbv1 p) :=
  foldl_bank Hw.ppbv1 (fun i => pvidWord (pvidOf gsw i)) _ (fun _ _ => rfl) hw p

theorem vlanTable_cleared (v : BitVec 12) :
    (clearAllVlan writeVlanEntry (setPvcModes gsw (setSecurityMode hw))).vlanTable v =
      cleared hw v := by
  rw [table_clearAllVlan vlanTable_writeVlanEntry,
    setPvcModes_frame gsw _ Hw.vlanTable fun _ _ => rfl, vlanTable_setSecurityMode]
  rfl

theorem pvid_applyVlanConfig (p : Port) :
    reading.pvid (applyVlanConfig gsw hw) p = (pvidOf gsw p).setWidth 12 := by
  show ((setPvids gsw _).ppbv1 p).setWidth 12 = _
  rw [ppbv1_setPvids, setWidth_pvidWord]

end

theorem holds_applyVlanConfig {gsw : Gsw NUM_PORTS} (distinct : Distinct gsw) (hw : Hw)
    {i : Fin NUM_VLANS} {v : BitVec 12} (carries : Carries gsw i v) :
    Holds reading ((applyVlanConfig gsw hw).vlanTable v) (gsw.vlanEntries i).toPortSet := by
  show Holds reading ((setPvids gsw _).vlanTable v) _
  rw [setPvids_frame gsw _ Hw.vlanTable fun _ _ => rfl,
    programVlans_carried vlanTable_writeVlanEntry distinct _ carries]
  exact holds_row carries.2

theorem vlanTable_applyVlanConfig {gsw : Gsw NUM_PORTS} (hw : Hw) {v : BitVec 12}
    (vacant : ∀ i, ¬ Carries gsw i v) : (applyVlanConfig gsw hw).vlanTable v = cleared hw v := by
  show (setPvids gsw _).vlanTable v = _
  rw [setPvids_frame gsw _ Hw.vlanTable fun _ _ => rfl,
    programVlans_vacant vlanTable_writeVlanEntry _ vacant, vlanTable_cleared]

theorem valid_cleared_iff (hw : Hw) (v : BitVec 12) :
    reading.valid (cleared hw v) = true ↔
      v = 4095 ∧ reading.valid (hw.vlanTable 4095) = true := by
  have last : v = 4095 ↔ ¬ v.toNat < NUM_VLANS := by
    have := v.isLt
    rw [← BitVec.toNat_inj, NUM_VLANS]
    show v.toNat = 4095 ↔ _
    omega
  unfold cleared
  split_ifs with early
  · exact iff_of_false (by decide) fun ⟨late, _⟩ => last.mp late early
  · rw [last.mpr early]
    exact (and_iff_right rfl).symm

theorem applied_applyVlanConfig_iff {gsw : Gsw NUM_PORTS} (distinct : Distinct gsw) (hw : Hw) :
    Applied reading gsw (applyVlanConfig gsw hw) ↔
      (reading.valid (hw.vlanTable 4095) = true → ∃ i, Carries gsw i 4095) := by
  have served : Applied reading gsw (applyVlanConfig gsw hw) ↔
      ∀ v, reading.valid (cleared hw v) = true → ∃ i, Carries gsw i v := by
    refine applied_iff (cleared hw) ?_ ?_ (pvid_applyVlanConfig gsw hw)
    · exact fun _ _ carries => holds_applyVlanConfig distinct hw carries
    · exact fun _ vacant => vlanTable_applyVlanConfig hw vacant
  rw [served]
  simp only [valid_cleared_iff, and_imp, forall_eq]

theorem isolated_portIsolation (gsw : Gsw NUM_PORTS) (hw : Hw) :
    Isolated reading gsw (portIsolation gsw hw) := by
  have pcr : ∀ p, p ≠ gsw.cpuPort →
      (portIsolation gsw hw).pcr p = BIT 32 gsw.cpuPort <<< PORT_MATRIX_S := by
    intro p other
    unfold portIsolation
    dsimp only
    rw [foldl_frame Hw.pcr]
    · dsimp only
      rw [Function.update_of_ne other]
      exact foldl_bank Hw.pcr (fun _ _ => BIT 32 gsw.cpuPort <<< PORT_MATRIX_S) _
        (fun _ _ => rfl) hw p
    · exact fun _ _ => rfl
  have mode : ∀ c : Port, (BIT 32 c <<< PORT_MATRIX_S).setWidth 2 = 0 := by decide
  have matrix : ∀ c q : Port,
      (BIT 32 c <<< PORT_MATRIX_S).getLsbD (PORT_MATRIX_S + q.val) = true ↔ q = c := by decide
  constructor
  · intro p other
    show ((portIsolation gsw hw).pcr p).setWidth 2 = 0
    rw [pcr p other]
    exact mode gsw.cpuPort
  · intro p other q
    show ((portIsolation gsw hw).pcr p).getLsbD _ = true ↔ _
    rw [pcr p other]
    exact matrix gsw.cpuPort q

/-- An entry of the last VID is one of a VLAN that has it now. -/
structure Fits (s : State NUM_PORTS Hw) : Prop where
  last : s.gsw.globalVlanEnable = true → reading.valid (s.hw.vlanTable 4095) = true →
    ∃ i, Carries s.gsw i 4095

theorem meets_iff_fits (s : State NUM_PORTS Hw) (lawful : Lawful s .applyConfig) :
    Meets reading (applyConfig mt753x s) ↔ Fits s := by
  have table : s.gsw.globalVlanEnable = true →
      (Applied reading s.gsw (mt753x.applyVlanConfig s.gsw s.hw) ↔
        (reading.valid (s.hw.vlanTable 4095) = true → ∃ i, Carries s.gsw i 4095)) :=
    fun enabled => applied_applyVlanConfig_iff (lawful rfl enabled) s.hw
  have isolation : s.gsw.globalVlanEnable = false →
      (Isolated reading s.gsw (mt753x.portIsolation s.gsw s.hw) ↔ True) :=
    fun _ => iff_of_true (isolated_portIsolation s.gsw s.hw) trivial
  rw [meets_applyConfig_iff table isolation]
  exact ⟨fun both => ⟨both.1⟩, fun fits => ⟨fits.last, fun _ => trivial⟩⟩

theorem vlanTable_portIsolation (gsw : Gsw NUM_PORTS) (hw : Hw) :
    (portIsolation gsw hw).vlanTable = hw.vlanTable := by
  unfold portIsolation
  dsimp only
  rw [foldl_frame Hw.vlanTable]
  · refine foldl_frame Hw.vlanTable _ ?_ _ hw
    exact fun _ _ => rfl
  · exact fun _ _ => rfl

theorem valid_step_iff (s : State NUM_PORTS Hw) (event : Event) (lawful : Lawful s event) :
    reading.valid ((step mt753x s event).hw.vlanTable 4095) = true ↔
      Programs 4095 s event ∨ reading.valid (s.hw.vlanTable 4095) = true ∧ True := by
  rw [and_true]
  cases event with
  | setVid | setVlanPorts | setPortPvid | setVlanEnable => simp [step, Programs]
  | resetSwitch => simp [step, resetSwitch, mt753x, Programs]
  | applyConfig =>
    refine valid_applyConfig_iff (fun hw => reading.valid (hw.vlanTable 4095) = true) lawful
      ?_ ?_ ?_
    · show reading.valid ((portIsolation s.gsw s.hw).vlanTable 4095) = true ↔ _
      rw [vlanTable_portIsolation]
    · exact fun distinct i carries => (holds_applyVlanConfig distinct s.hw carries).valid
    · intro vacant
      show reading.valid ((applyVlanConfig s.gsw s.hw).vlanTable 4095) = true ↔ _
      rw [vlanTable_applyVlanConfig s.hw vacant, valid_cleared_iff]
      exact and_iff_right rfl

theorem valid_run_iff (s : State NUM_PORTS Hw) (events : List Event)
    (lawful : Along (step mt753x) Lawful s events) :
    reading.valid ((run (step mt753x) s events).hw.vlanTable 4095) = true ↔
      reading.valid (s.hw.vlanTable 4095) = true ∨
        Since mt753x (Programs 4095) (fun _ => True) s events := by
  rw [fact_iff_since (fun s => reading.valid (s.hw.vlanTable 4095) = true) valid_step_iff s events
    lawful]
  simp

end OpenwrtSource.Swconfig.Mt753x
