import OpenwrtSource.Swconfig.VlanTable

/-!
# The AN8855 under swconfig

The driver clears the VLAN table on a reset only, and sets the security mode of a port
without ever taking it back.
-/

namespace OpenwrtSource.Swconfig.An8855

open Lib.Run Lib.TableFold
open Swconfig.Config Swconfig.VlanTable

def NUM_PORTS : Nat := 6

abbrev Port := Fin NUM_PORTS

def DFL_CPU_PORT : Port := ⟨5, by decide⟩

structure Hw where
  pcr : Port → BitVec 32
  pvc : Port → BitVec 32
  portMatrix : Port → BitVec 32
  pvid : Port → BitVec 32
  vawd0 : BitVec 32
  vawd1 : BitVec 32
  vlanTable : BitVec 12 → Row

def IVL_MAC : BitVec 32 := BIT 32 5
def VTAG_EN : BitVec 32 := BIT 32 10
def VENTRY_VALID : BitVec 32 := BIT 32 0
def PORT_MEM_S : Nat := 26
def PORT_MEM_M : BitVec 32 := 0xfc000000
def PORT_ETAG_BASE : Nat := 12
def PORT_MATRIX_M : BitVec 32 := (1 <<< NUM_PORTS) - 1
def SECURITY_MODE : BitVec 32 := 3
def STAG_VPID_S : Nat := 16
def VLAN_ATTR_S : Nat := 6
def VA_TRANSPARENT_PORT : BitVec 32 := 3
def PVC_PORT_STAG : BitVec 32 := BIT 32 5
def PVC_STAG_REPLACE : BitVec 32 := BIT 32 11

def reading : Reading NUM_PORTS Hw where
  row := Hw.vlanTable
  valid row := row.1.getLsbD 0
  member row p := row.1.getLsbD (PORT_MEM_S + p.val)
  egress row p := row.1.extractLsb' (p.val * 2 + PORT_ETAG_BASE) 2
  pvid hw p := (hw.pvid p).setWidth 12
  portVlan hw p := (hw.pcr p).setWidth 2
  matrix hw p q := (hw.portMatrix p).getLsbD q

/-- `an8855_vlan_ctrl` with `VTCR_WRITE_VLAN_ENTRY`, which the switch carries out. -/
def vlanCtrl (vid : BitVec 16) (hw : Hw) : Hw :=
  { hw with vlanTable := Function.update hw.vlanTable (vid.setWidth 12) (hw.vawd0, hw.vawd1) }

def memberWord (ports : BitVec 8) : BitVec 32 :=
  IVL_MAC ||| VTAG_EN ||| VENTRY_VALID ||| ((ports.setWidth 32 <<< PORT_MEM_S) &&& PORT_MEM_M)

/-- `VAWD0` for these members. -/
def entryWord (ports etags : BitVec 8) : BitVec 32 :=
  if ports ≠ 0 then egressModes NUM_PORTS PORT_ETAG_BASE etags (memberWord ports) else 0

/-- `VAWD1`. -/
def seventhPort (ports : BitVec 8) : BitVec 32 :=
  if ports &&& 0x40 ≠ 0 then 1 else 0

/-- `an8855_write_vlan_entry`. -/
def writeVlanEntry (vid : BitVec 16) (ports etags : BitVec 8) (hw : Hw) : Hw :=
  vlanCtrl vid { hw with vawd0 := entryWord ports etags, vawd1 := seventhPort ports }

def stagOn (gsw : Gsw NUM_PORTS) (i : Port) : Bool := gsw.port5Stag && decide (i.val = 5)

def pvcMode (gsw : Gsw NUM_PORTS) (i : Port) : BitVec 32 :=
  let (tagPorts, untagPorts) := egressPorts gsw
  let mode : BitVec 32 := 0x9100 <<< STAG_VPID_S
  let mode := if untagPorts.getLsbD i && !tagPorts.getLsbD i then
    (0x9100 <<< STAG_VPID_S) ||| (VA_TRANSPARENT_PORT <<< VLAN_ATTR_S) else mode
  if stagOn gsw i then (0x9100 <<< STAG_VPID_S) ||| PVC_PORT_STAG ||| PVC_STAG_REPLACE else mode

def setSecurityMode (hw : Hw) : Hw :=
  (List.finRange NUM_PORTS).foldl (fun hw i =>
    { hw with
      pcr := Function.update hw.pcr i (hw.pcr i ||| SECURITY_MODE)
      portMatrix := Function.update hw.portMatrix i PORT_MATRIX_M }) hw

def setPvcModes (gsw : Gsw NUM_PORTS) (hw : Hw) : Hw :=
  (List.finRange NUM_PORTS).foldl (fun hw i =>
    { hw with pvc := Function.update hw.pvc i (pvcMode gsw i) }) hw

def setPvids (gsw : Gsw NUM_PORTS) (hw : Hw) : Hw :=
  (List.finRange NUM_PORTS).foldl (fun hw i =>
    { hw with pvid := Function.update hw.pvid i (pvidWord (pvidOf gsw i) (hw.pvid i)) }) hw

/-- `an8855_apply_vlan_config`; it does not clear the table. -/
def applyVlanConfig (gsw : Gsw NUM_PORTS) (hw : Hw) : Hw :=
  let hw := setSecurityMode hw
  let hw := setPvcModes gsw hw
  let hw := programVlans writeVlanEntry gsw hw
  setPvids gsw hw

def isolatedPvcMode (gsw : Gsw NUM_PORTS) (i : Port) : BitVec 32 :=
  let mode : BitVec 32 := 0x9100 <<< STAG_VPID_S
  if stagOn gsw i then mode ||| (PVC_PORT_STAG ||| PVC_STAG_REPLACE)
  else mode ||| (VA_TRANSPARENT_PORT <<< VLAN_ATTR_S)

/-- `an8855_port_isolation`; it does not write `PCR`. -/
def portIsolation (gsw : Gsw NUM_PORTS) (hw : Hw) : Hw :=
  let hw := (List.finRange NUM_PORTS).foldl (fun hw i =>
    { hw with portMatrix := Function.update hw.portMatrix i (BIT 32 gsw.cpuPort) }) hw
  let hw := { hw with portMatrix := Function.update hw.portMatrix gsw.cpuPort PORT_MATRIX_M }
  (List.finRange NUM_PORTS).foldl (fun hw i =>
    { hw with pvc := Function.update hw.pvc i (isolatedPvcMode gsw i) }) hw

def an8855 : Driver NUM_PORTS Hw where
  applyVlanConfig := applyVlanConfig
  portIsolation := portIsolation
  resetHw := clearAllVlan writeVlanEntry

theorem getLsbD_memberWord (ports : BitVec 8) (p : Port) :
    (memberWord ports).getLsbD (PORT_MEM_S + p.val) = ports.getLsbD p := by
  have flags : ∀ p : Port,
      (IVL_MAC ||| VTAG_EN ||| VENTRY_VALID).getLsbD (PORT_MEM_S + p.val) = false := by decide
  have mask : ∀ p : Port, PORT_MEM_M.getLsbD (PORT_MEM_S + p.val) = true := by decide
  have small : PORT_MEM_S + p.val < 32 := by
    have := p.isLt
    simp only [PORT_MEM_S, NUM_PORTS] at *
    omega
  rw [memberWord, BitVec.getLsbD_or, flags, BitVec.getLsbD_and, mask,
    BitVec.getLsbD_shiftLeft, Nat.add_sub_cancel_left, BitVec.getLsbD_setWidth]
  simp [small, show p.val < 32 by omega]

theorem memberWord_clear (ports : BitVec 8) (b : Nat) (from12 : PORT_ETAG_BASE ≤ b)
    (to24 : b < NUM_PORTS * 2 + PORT_ETAG_BASE) : (memberWord ports).getLsbD b = false := by
  have flags : ∀ b : Fin 24, 12 ≤ b.val →
      (IVL_MAC ||| VTAG_EN ||| VENTRY_VALID).getLsbD b.val = false := by decide
  have small : b < 24 := to24
  have below : b < PORT_MEM_S := small.trans (by decide)
  rw [memberWord, BitVec.getLsbD_or, flags ⟨b, small⟩ from12, BitVec.getLsbD_and,
    BitVec.getLsbD_shiftLeft, decide_eq_true below]
  simp

theorem holds_row {set : PortSet NUM_PORTS} (some : ∃ p, set.Has p) :
    Holds reading (entryWord set.member set.etags, seventhPort set.member) set := by
  have word : entryWord set.member set.etags =
      egressModes NUM_PORTS PORT_ETAG_BASE set.etags (memberWord set.member) :=
    if_pos (set.member_ne_zero_iff.mpr some)
  rw [word]
  refine ⟨?_, ?_, ?_⟩
  · show (egressModes _ _ _ _).getLsbD 0 = true
    rw [getLsbD_egressModes, memberWord, BitVec.getLsbD_or]
    exact .inl rfl
  · intro p
    show (egressModes _ _ _ _).getLsbD (PORT_MEM_S + p.val) = true ↔ _
    rw [getLsbD_egressModes, getLsbD_memberWord, PortSet.Has]
    refine or_iff_left ?_
    rintro ⟨-, port, -, here⟩
    have small := port.isLt
    simp only [PORT_MEM_S, PORT_ETAG_BASE, NUM_PORTS] at here small
    omega
  · intro p _
    exact extract_egressModes (by decide) set.etags p (memberWord_clear set.member)

theorem pcr_writeVlanEntry (vid : BitVec 16) (ports etags : BitVec 8) (hw : Hw) :
    (writeVlanEntry vid ports etags hw).pcr = hw.pcr :=
  rfl

theorem vlanTable_writeVlanEntry (vid : BitVec 16) (ports etags : BitVec 8) (hw : Hw) :
    (writeVlanEntry vid ports etags hw).vlanTable = Function.update hw.vlanTable
      (vid.setWidth 12) (entryWord ports etags, seventhPort ports) :=
  rfl

section

variable (gsw : Gsw NUM_PORTS) (hw : Hw)

theorem vlanTable_setSecurityMode : (setSecurityMode hw).vlanTable = hw.vlanTable := by
  refine foldl_frame Hw.vlanTable _ ?_ _ hw
  exact fun _ _ => rfl

theorem setPvcModes_frame {T : Type} (field : Hw → T)
    (frame : ∀ hw pvc, field { hw with pvc := pvc } = field hw) :
    field (setPvcModes gsw hw) = field hw :=
  foldl_frame field _ (fun hw _ => frame hw _) _ hw

theorem setPvids_frame {T : Type} (field : Hw → T)
    (frame : ∀ hw pvid, field { hw with pvid := pvid } = field hw) :
    field (setPvids gsw hw) = field hw :=
  foldl_frame field _ (fun hw _ => frame hw _) _ hw

theorem pvid_setPvids (p : Port) : (setPvids gsw hw).pvid p = pvidWord (pvidOf gsw p) (hw.pvid p) :=
  foldl_bank Hw.pvid (fun i => pvidWord (pvidOf gsw i)) _ (fun _ _ => rfl) hw p

theorem pvid_applyVlanConfig (p : Port) :
    reading.pvid (applyVlanConfig gsw hw) p = (pvidOf gsw p).setWidth 12 := by
  show ((setPvids gsw _).pvid p).setWidth 12 = _
  rw [pvid_setPvids, setWidth_pvidWord]

end

theorem holds_applyVlanConfig {gsw : Gsw NUM_PORTS} (distinct : Distinct gsw) (hw : Hw)
    {i : Fin NUM_VLANS} {v : BitVec 12} (carries : Carries gsw i v) :
    Holds reading ((applyVlanConfig gsw hw).vlanTable v) (gsw.vlanEntries i).toPortSet := by
  show Holds reading ((setPvids gsw _).vlanTable v) _
  rw [setPvids_frame gsw _ Hw.vlanTable fun _ _ => rfl,
    programVlans_carried vlanTable_writeVlanEntry distinct _ carries]
  exact holds_row carries.2

theorem vlanTable_applyVlanConfig {gsw : Gsw NUM_PORTS} (hw : Hw) {v : BitVec 12}
    (vacant : ∀ i, ¬ Carries gsw i v) : (applyVlanConfig gsw hw).vlanTable v = hw.vlanTable v := by
  show (setPvids gsw _).vlanTable v = _
  rw [setPvids_frame gsw _ Hw.vlanTable fun _ _ => rfl,
    programVlans_vacant vlanTable_writeVlanEntry _ vacant,
    setPvcModes_frame gsw _ Hw.vlanTable fun _ _ => rfl, vlanTable_setSecurityMode]

theorem applied_applyVlanConfig_iff {gsw : Gsw NUM_PORTS} (distinct : Distinct gsw) (hw : Hw) :
    Applied reading gsw (applyVlanConfig gsw hw) ↔
      ∀ v, reading.valid (hw.vlanTable v) = true → ∃ i, Carries gsw i v := by
  refine applied_iff hw.vlanTable ?_ ?_ (pvid_applyVlanConfig gsw hw)
  · exact fun _ _ carries => holds_applyVlanConfig distinct hw carries
  · exact fun _ vacant => vlanTable_applyVlanConfig hw vacant

theorem portIsolation_frame {T : Type} (field : Hw → T)
    (matrix : ∀ hw portMatrix, field { hw with portMatrix := portMatrix } = field hw)
    (attr : ∀ hw pvc, field { hw with pvc := pvc } = field hw) (gsw : Gsw NUM_PORTS) (hw : Hw) :
    field (portIsolation gsw hw) = field hw := by
  unfold portIsolation
  dsimp only
  rw [foldl_frame field _ fun hw _ => attr hw _, matrix,
    foldl_frame field _ fun hw _ => matrix hw _]

theorem pcr_portIsolation (gsw : Gsw NUM_PORTS) (hw : Hw) : (portIsolation gsw hw).pcr = hw.pcr :=
  portIsolation_frame Hw.pcr (fun _ _ => rfl) (fun _ _ => rfl) gsw hw

theorem vlanTable_portIsolation (gsw : Gsw NUM_PORTS) (hw : Hw) :
    (portIsolation gsw hw).vlanTable = hw.vlanTable :=
  portIsolation_frame Hw.vlanTable (fun _ _ => rfl) (fun _ _ => rfl) gsw hw

theorem isolated_portIsolation_iff (gsw : Gsw NUM_PORTS) (hw : Hw) :
    Isolated reading gsw (portIsolation gsw hw) ↔
      ∀ p, p ≠ gsw.cpuPort → reading.portVlan hw p = 0 := by
  have portMatrix : ∀ p, p ≠ gsw.cpuPort →
      (portIsolation gsw hw).portMatrix p = BIT 32 gsw.cpuPort := by
    intro p other
    unfold portIsolation
    dsimp only
    rw [foldl_frame Hw.portMatrix]
    · dsimp only
      rw [Function.update_of_ne other]
      exact foldl_bank Hw.portMatrix (fun _ _ => BIT 32 gsw.cpuPort) _ (fun _ _ => rfl) hw p
    · exact fun _ _ => rfl
  have matrix : ∀ c q : Port, (BIT 32 c).getLsbD q = true ↔ q = c := by decide
  have mode : ∀ p, reading.portVlan (portIsolation gsw hw) p = reading.portVlan hw p := by
    intro p
    show ((portIsolation gsw hw).pcr p).setWidth 2 = _
    rw [pcr_portIsolation]
    rfl
  constructor
  · intro isolated p other
    rw [← mode]
    exact isolated.mode p other
  · intro free
    refine ⟨fun p other => (mode p).trans (free p other), ?_⟩
    intro p other q
    show ((portIsolation gsw hw).portMatrix p).getLsbD q = true ↔ _
    rw [portMatrix p other]
    exact matrix gsw.cpuPort q

/-- Nothing that an `apply_config` leaves alone is wrong. -/
structure Fits (s : State NUM_PORTS Hw) : Prop where
  table : s.gsw.globalVlanEnable = true →
    ∀ v, reading.valid (s.hw.vlanTable v) = true → ∃ i, Carries s.gsw i v
  mode : s.gsw.globalVlanEnable = false →
    ∀ p, p ≠ s.gsw.cpuPort → reading.portVlan s.hw p = 0

theorem meets_iff_fits (s : State NUM_PORTS Hw) (lawful : Lawful s .applyConfig) :
    Meets reading (applyConfig an8855 s) ↔ Fits s := by
  have table : s.gsw.globalVlanEnable = true →
      (Applied reading s.gsw (an8855.applyVlanConfig s.gsw s.hw) ↔
        ∀ v, reading.valid (s.hw.vlanTable v) = true → ∃ i, Carries s.gsw i v) :=
    fun enabled => applied_applyVlanConfig_iff (lawful rfl enabled) s.hw
  rw [meets_applyConfig_iff table fun _ => isolated_portIsolation_iff s.gsw s.hw]
  exact ⟨fun both => ⟨both.1, both.2⟩, fun fits => ⟨fits.table, fits.mode⟩⟩

/-- Only a reset invalidates an entry, and not that of the last VID. -/
def KeepsEntry (v : BitVec 12) (event : Event) : Prop := event = .resetSwitch → v = 4095

theorem valid_step_iff (v : BitVec 12) (s : State NUM_PORTS Hw) (event : Event)
    (lawful : Lawful s event) :
    reading.valid ((step an8855 s event).hw.vlanTable v) = true ↔
      Programs v s event ∨ reading.valid (s.hw.vlanTable v) = true ∧ KeepsEntry v event := by
  cases event with
  | setVid | setVlanPorts | setPortPvid | setVlanEnable =>
    simp [step, Programs, KeepsEntry]
  | resetSwitch =>
    have cleared : (step an8855 s .resetSwitch).hw.vlanTable v =
        if v.toNat < NUM_VLANS then (entryWord 0 0, seventhPort 0) else s.hw.vlanTable v :=
      table_clearAllVlan vlanTable_writeVlanEntry s.hw v
    rw [cleared]
    have last : v = 4095 ↔ ¬ v.toNat < NUM_VLANS := by
      have := v.isLt
      rw [← BitVec.toNat_inj, NUM_VLANS]
      show v.toNat = 4095 ↔ _
      omega
    simp only [Programs, KeepsEntry, reduceCtorEq, false_and, false_or, true_implies, last]
    split_ifs with early
    · exact iff_of_false (by decide) fun ⟨_, late⟩ => late early
    · simp [early]
  | applyConfig =>
    have keeps : KeepsEntry v .applyConfig := fun never => nomatch never
    simp only [keeps, and_true]
    refine valid_applyConfig_iff (fun hw => reading.valid (hw.vlanTable v) = true) lawful
      ?_ ?_ ?_
    · show reading.valid ((portIsolation s.gsw s.hw).vlanTable v) = true ↔ _
      rw [vlanTable_portIsolation]
    · exact fun distinct i carries => (holds_applyVlanConfig distinct s.hw carries).valid
    · intro vacant
      show reading.valid ((applyVlanConfig s.gsw s.hw).vlanTable v) = true ↔ _
      rw [vlanTable_applyVlanConfig s.hw vacant]

/-- An entry is valid if it has been programmed since the last reset, however the
configuration has changed. -/
theorem valid_run_iff (v : BitVec 12) (s : State NUM_PORTS Hw) (events : List Event)
    (lawful : Along (step an8855) Lawful s events) :
    reading.valid ((run (step an8855) s events).hw.vlanTable v) = true ↔
      reading.valid (s.hw.vlanTable v) = true ∧ (∀ event ∈ events, KeepsEntry v event) ∨
        Since an8855 (Programs v) (KeepsEntry v) s events :=
  fact_iff_since (fun s => reading.valid (s.hw.vlanTable v) = true) (valid_step_iff v) s events
    lawful

def Enables (s : State NUM_PORTS Hw) (event : Event) : Prop :=
  event = .applyConfig ∧ s.gsw.globalVlanEnable = true

theorem pcr_applyVlanConfig (gsw : Gsw NUM_PORTS) (hw : Hw) (p : Port) :
    (applyVlanConfig gsw hw).pcr p = hw.pcr p ||| SECURITY_MODE := by
  show (setPvids gsw _).pcr p = _
  rw [setPvids_frame gsw _ Hw.pcr fun _ _ => rfl, programVlans_frame Hw.pcr pcr_writeVlanEntry,
    setPvcModes_frame gsw _ Hw.pcr fun _ _ => rfl]
  exact foldl_bank Hw.pcr (fun _ val => val ||| SECURITY_MODE) _ (fun _ _ => rfl) hw p

theorem mode_step_iff (p : Port) (s : State NUM_PORTS Hw) (event : Event) :
    reading.portVlan (step an8855 s event).hw p ≠ 0 ↔
      Enables s event ∨ reading.portVlan s.hw p ≠ 0 ∧ True := by
  rw [and_true]
  cases event with
  | setVid | setVlanPorts | setPortPvid | setVlanEnable => simp [step, Enables]
  | resetSwitch =>
    have same : (step an8855 s .resetSwitch).hw.pcr = s.hw.pcr :=
      clearAllVlan_frame Hw.pcr pcr_writeVlanEntry s.hw
    show ((step an8855 s .resetSwitch).hw.pcr p).setWidth 2 ≠ 0 ↔ _
    rw [same]
    simp [Enables, reading]
  | applyConfig =>
    show reading.portVlan (applyConfig an8855 s).hw p ≠ 0 ↔ _
    cases enable : s.gsw.globalVlanEnable with
    | false =>
      rw [applyConfig_disabled an8855 enable]
      show ((portIsolation s.gsw s.hw).pcr p).setWidth 2 ≠ 0 ↔ _
      rw [pcr_portIsolation]
      simp [Enables, enable, reading]
    | true =>
      rw [applyConfig_enabled an8855 enable]
      show ((applyVlanConfig s.gsw s.hw).pcr p).setWidth 2 ≠ 0 ↔ _
      refine iff_of_true ?_ (.inl ⟨rfl, enable⟩)
      have bit : (((applyVlanConfig s.gsw s.hw).pcr p).setWidth 2).getLsbD 0 = true := by
        rw [pcr_applyVlanConfig, BitVec.getLsbD_setWidth, BitVec.getLsbD_or]
        simp [SECURITY_MODE]
      intro zero
      rw [zero] at bit
      cases bit

/-- A port has left the port matrix mode for good with the first configuration that was
applied with VLANs enabled. -/
theorem mode_run_iff (p : Port) (s : State NUM_PORTS Hw) (events : List Event)
    (lawful : Along (step an8855) Lawful s events) :
    reading.portVlan (run (step an8855) s events).hw p ≠ 0 ↔
      reading.portVlan s.hw p ≠ 0 ∨ Since an8855 Enables (fun _ => True) s events := by
  rw [fact_iff_since (fun s => reading.portVlan s.hw p ≠ 0)
    (fun s event _ => mode_step_iff p s event) s events lawful]
  simp

end OpenwrtSource.Swconfig.An8855
