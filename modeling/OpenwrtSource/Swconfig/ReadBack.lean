import OpenwrtSource.Swconfig.Application

/-!
# Reading the configuration back

The setters write records that are numbered by VLAN; the getters read the switch, whose
VLAN table is numbered by VID and whose ports hold VIDs, and take the number they are
asked about for the VID.  So a VLAN is read back as it was set exactly where the VID is
the number, and, for the AN8855, where no older entry is left under that number.
-/

namespace OpenwrtSource.Swconfig.ReadBack

open Lib.Run
open Swconfig.Config Swconfig.VlanTable
open Swconfig.Mt753x (mt753x)
open Swconfig.An8855 (an8855)
open Swconfig.Application

variable {ports : Nat} {Hw : Type}

/-- `mt753x_get_vid`, `an8855_get_vid`. -/
def getVid (portVlan : Nat) : Nat := portVlan

/-- The port of a table entry, with `SWITCH_PORT_FLAG_TAGGED` for `ETAG_CTRL_TAG`. -/
def rowFlags (r : Reading ports Hw) (row : Row) (p : Fin ports) : Option Bool :=
  if r.member row p = true then some (decide (r.egress row p = 2)) else none

/-- The ports of `val->value.ports`, whose flags are clear before the call. -/
def portsOf (flags : Fin ports → Option Bool) : List SwitchPort :=
  (List.finRange ports).filterMap fun p => (flags p).map fun tagged => ⟨p.val, tagged⟩

/-- `mt753x_get_vlan_ports`, `an8855_get_vlan_ports`: the switch is asked for the entry whose
VID is the number of the VLAN. -/
def getVlanPorts (r : Reading ports Hw) (hw : Hw) (portVlan : Nat) : Option (List SwitchPort) :=
  if portVlan < NUM_VLANS then
    some (portsOf (rowFlags r (r.row hw (BitVec.ofNat 12 portVlan))))
  else none

/-- `mt753x_get_port_pvid`, `an8855_get_port_pvid`, of a port that is not negative. -/
def getPortPvid (r : Reading ports Hw) (hw : Hw) (port : Nat) : Option Nat :=
  if small : port < ports then some (r.pvid hw ⟨port, small⟩).toNat else none

theorem mem_portsOf_iff (flags : Fin ports → Option Bool) (p : Fin ports) (tagged : Bool) :
    ⟨p.val, tagged⟩ ∈ portsOf flags ↔ flags p = some tagged := by
  simp only [portsOf, List.mem_filterMap, List.mem_finRange, true_and, Option.map_eq_some_iff,
    SwitchPort.mk.injEq]
  constructor
  · rintro ⟨q, found, flag, same, rfl⟩
    rw [← Fin.ext same]
    exact flag
  · intro flag
    exact ⟨p, tagged, flag, rfl, rfl⟩

theorem portsOf_inj {flags others : Fin ports → Option Bool} :
    portsOf flags = portsOf others ↔ flags = others := by
  constructor
  · intro same
    funext p
    apply Option.ext
    intro tagged
    rw [← mem_portsOf_iff, same, mem_portsOf_iff]
  · exact congrArg portsOf

/-- What was last set, if it was: the VID of a VLAN, its ports with their tag flags, and the
VLAN of a port's PVID. -/
structure Told (ports : Nat) where
  vid : Fin NUM_VLANS → Option Nat
  flags : Fin NUM_VLANS → Option (Fin ports → Option Bool)
  pvid : Fin ports → Option Nat

def untold : Told ports where
  vid := fun _ => none
  flags := fun _ => none
  pvid := fun _ => none

/-- The flag that a list of ports gives this one; one tagged mention is enough. -/
def flagOf (value : List SwitchPort) (p : Fin ports) : Option Bool :=
  if value.any (fun q => decide (q.id = p.val)) then
    some (value.any fun q => decide (q.id = p.val) && q.tagged)
  else none

/-- The calls as they are meant.  A call with a bad argument sets nothing; `reset_switch` sets
the VLANs to their own numbers without ports, and the PVIDs to VLAN 0. -/
def tell (told : Told ports) : Event → Told ports
  | .setVid portVlan value =>
    if (value.setWidth 16).toNat ≤ MAX_VID then
      { told with
        vid := fun i => if i.val = portVlan then some (value.setWidth 16).toNat else told.vid i }
    else told
  | .setVlanPorts portVlan value =>
    if value.length ≤ ports ∧ ∀ q ∈ value, q.id < ports then
      { told with
        flags := fun i => if i.val = portVlan then some (flagOf value) else told.flags i }
    else told
  | .setPortPvid port pvid =>
    if MIN_VID ≤ pvid ∧ pvid ≤ MAX_VID then
      { told with pvid := fun p => if p.val = port then some pvid.toNat else told.pvid p }
    else told
  | .resetSwitch =>
    { vid := fun i => some i.val
      flags := fun _ => some fun _ => none
      pvid := fun _ => some 0 }
  | .setVlanEnable _ | .applyConfig => told

def flagsOf (set : PortSet ports) (p : Fin ports) : Option Bool :=
  if set.Has p then some (set.etags.getLsbD p) else none

def recordedVid (entry : VlanEntry ports) : Nat := entry.vid.toNat

def recordedFlags (entry : VlanEntry ports) : Fin ports → Option Bool := flagsOf entry.toPortSet

theorem addPorts_eq_some_iff (value : List SwitchPort) (set : PortSet ports) :
    (∃ added, addPorts value set = some added) ↔ ∀ q ∈ value, q.id < ports := by
  induction value generalizing set with
  | nil => simp [addPorts]
  | cons q rest ih =>
    rw [addPorts, List.forall_mem_cons]
    by_cases small : q.id < ports
    · rw [dif_pos small, ih, and_iff_right small]
    · rw [dif_neg small]
      exact iff_of_false nofun fun all => small all.1

theorem getLsbD_add (byte : ports ≤ 8) (set : PortSet ports) (q : SwitchPort)
    (small : q.id < ports) (p : Fin ports) :
    (set.add q small).member.getLsbD p = (decide (q.id = p.val) || set.member.getLsbD p) ∧
      (set.add q small).etags.getLsbD p =
        (decide (q.id = p.val) && q.tagged || set.etags.getLsbD p) := by
  have inside : q.id < 8 := small.trans_le byte
  have bit : (BIT 8 q.id).getLsbD p = decide (q.id = p.val) := by
    rw [BIT, BitVec.getLsbD_twoPow, decide_eq_true inside, Bool.true_and]
  constructor
  · show (set.member ||| BIT 8 q.id).getLsbD p = _
    rw [BitVec.getLsbD_or, bit, Bool.or_comm]
  · show (if q.tagged = true then set.etags ||| BIT 8 q.id else set.etags).getLsbD p = _
    cases q.tagged with
    | false => simp
    | true => rw [if_pos rfl, BitVec.getLsbD_or, bit, Bool.and_true, Bool.or_comm]

variable {set added : PortSet ports} {s : State ports Hw}

theorem getLsbD_addPorts (byte : ports ≤ 8) (value : List SwitchPort)
    (run : addPorts value set = some added) (p : Fin ports) :
    added.member.getLsbD p =
        (value.any (fun q => decide (q.id = p.val)) || set.member.getLsbD p) ∧
      added.etags.getLsbD p =
        ((value.any fun q => decide (q.id = p.val) && q.tagged) || set.etags.getLsbD p) := by
  induction value generalizing set with
  | nil =>
    cases run
    simp
  | cons q rest ih =>
    rw [addPorts] at run
    by_cases small : q.id < ports
    · rw [dif_pos small] at run
      obtain ⟨member, etags⟩ := ih run
      obtain ⟨addMember, addEtags⟩ := getLsbD_add byte set q small p
      rw [member, etags, addMember, addEtags, List.any_cons, List.any_cons]
      constructor
      · rw [Bool.or_left_comm, Bool.or_assoc]
      · rw [Bool.or_left_comm, Bool.or_assoc]
    · rw [dif_neg small] at run
      cases run

theorem flagsOf_addPorts (byte : ports ≤ 8) {value : List SwitchPort}
    (run : addPorts value PortSet.empty = some added) : flagsOf added = flagOf value := by
  funext p
  obtain ⟨member, etags⟩ := getLsbD_addPorts byte value run p
  simp only [PortSet.empty, BitVec.ofNat_eq_ofNat, BitVec.getLsbD_zero, Bool.or_false]
    at member etags
  show (if added.member.getLsbD p = true then _ else _) = _
  rw [member, etags]
  rfl

structure Agrees (told : Told ports) (gsw : Gsw ports) : Prop where
  vid : ∀ i v, told.vid i = some v → recordedVid (gsw.vlanEntries i) = v
  flags : ∀ i flags, told.flags i = some flags → recordedFlags (gsw.vlanEntries i) = flags
  pvid : ∀ p v, told.pvid p = some v → (gsw.portPvid p).toNat = v

theorem agrees_untold (gsw : Gsw ports) : Agrees untold gsw := ⟨nofun, nofun, nofun⟩

section Records

variable {α β : Type} {n : Nat} (view : α → β) {said : Fin n → Option β} {held : Fin n → α}

variable {k : Nat} {value : β} {record : α}

theorem agreed_update (agreed : ∀ i v, said i = some v → view (held i) = v) (small : k < n)
    (same : view record = value) (i : Fin n) (v : β)
    (told : (if i.val = k then some value else said i) = some v) :
    view (Function.update held ⟨k, small⟩ record i) = v := by
  by_cases here : i = ⟨k, small⟩
  · subst here
    rw [if_pos rfl] at told
    rw [Function.update_self, same]
    exact Option.some.inj told
  · rw [if_neg fun eq => here (Fin.ext eq)] at told
    rw [Function.update_of_ne here]
    exact agreed i v told

theorem agreed_beyond (agreed : ∀ i v, said i = some v → view (held i) = v) (beyond : ¬ k < n)
    (i : Fin n) (v : β) (told : (if i.val = k then some value else said i) = some v) :
    view (held i) = v := by
  rw [if_neg fun (same : i.val = k) => beyond (same ▸ i.isLt)] at told
  exact agreed i v told

theorem agreed_unseen (agreed : ∀ i v, said i = some v → view (held i) = v) {k : Fin n}
    (same : view record = view (held k)) (i : Fin n) (v : β) (told : said i = some v) :
    view (Function.update held k record i) = v := by
  rw [← agreed i v told]
  by_cases here : i = k
  · rw [here, Function.update_self, same]
  · rw [Function.update_of_ne here]

end Records

variable {told : Told ports} {gsw : Gsw ports} {r : Reading ports Hw} {vid : BitVec 32}

theorem agrees_setVid (agrees : Agrees told gsw) (portVlan : Nat) (value : BitVec 32) :
    Agrees (tell told (.setVid portVlan value)) ((setVid gsw portVlan value).getD gsw) := by
  rw [tell, setVid]
  by_cases le : (value.setWidth 16).toNat ≤ MAX_VID
  · rw [if_pos le]
    by_cases vlan : portVlan < NUM_VLANS
    · rw [dif_pos vlan, dif_pos le]
      refine ⟨?_, ?_, agrees.pvid⟩
      · exact agreed_update recordedVid agrees.vid vlan rfl
      · exact agreed_unseen recordedFlags agrees.flags rfl
    · rw [dif_neg vlan]
      exact ⟨agreed_beyond recordedVid agrees.vid vlan, agrees.flags, agrees.pvid⟩
  · rw [if_neg le]
    split_ifs
    · exact agrees
    · exact agrees

theorem agrees_setVlanPorts (byte : ports ≤ 8) (agrees : Agrees told gsw) (portVlan : Nat)
    (value : List SwitchPort) :
    Agrees (tell told (.setVlanPorts portVlan value))
      ((setVlanPorts gsw portVlan value).getD gsw) := by
  rw [tell, setVlanPorts]
  by_cases good : value.length ≤ ports ∧ ∀ q ∈ value, q.id < ports
  · obtain ⟨set, added⟩ := (addPorts_eq_some_iff value PortSet.empty).mpr good.2
    rw [if_pos good]
    by_cases vlan : portVlan < NUM_VLANS
    · rw [dif_pos vlan, if_pos good.1, added]
      refine ⟨?_, ?_, agrees.pvid⟩
      · exact agreed_unseen recordedVid agrees.vid rfl
      · exact agreed_update recordedFlags agrees.flags vlan (flagsOf_addPorts byte added)
    · rw [dif_neg vlan]
      exact ⟨agrees.vid, agreed_beyond recordedFlags agrees.flags vlan, agrees.pvid⟩
  · rw [if_neg good]
    have failed : value.length ≤ ports → addPorts value (PortSet.empty : PortSet ports) = none := by
      intro fits
      rw [← Option.not_isSome_iff_eq_none, Option.isSome_iff_exists, addPorts_eq_some_iff]
      exact fun all => good ⟨fits, all⟩
    split_ifs with vlan fits
    · rw [failed fits]
      exact agrees
    · exact agrees
    · exact agrees

theorem agrees_setPortPvid (agrees : Agrees told gsw) (port : Nat) (pvid : Int) :
    Agrees (tell told (.setPortPvid port pvid)) ((setPortPvid gsw port pvid).getD gsw) := by
  rw [tell, setPortPvid]
  by_cases good : MIN_VID ≤ pvid ∧ pvid ≤ MAX_VID
  · have word : (BitVec.ofInt 16 pvid).toNat = pvid.toNat := by
      rw [MIN_VID, MAX_VID] at good
      rw [BitVec.toNat_ofInt]
      omega
    rw [if_pos good]
    by_cases small : port < ports
    · rw [dif_pos small, if_pos good]
      exact ⟨agrees.vid, agrees.flags, agreed_update BitVec.toNat agrees.pvid small word⟩
    · rw [dif_neg small]
      exact ⟨agrees.vid, agrees.flags, agreed_beyond BitVec.toNat agrees.pvid small⟩
  · rw [if_neg good]
    split_ifs
    · exact agrees
    · exact agrees

theorem agrees_resetConfig (told : Told ports) (gsw : Gsw ports) :
    Agrees (tell told .resetSwitch) (resetConfig gsw) := by
  constructor
  · rintro i v ⟨⟩
    have small : i.val < 4095 := i.isLt
    show (BitVec.ofNat 16 i.val).toNat = i.val
    rw [BitVec.toNat_ofNat, Nat.mod_eq_of_lt (by omega)]
  · rintro i flags ⟨⟩
    funext p
    exact if_neg (by simp [PortSet.Has, resetConfig, PortSet.empty])
  · rintro p v ⟨⟩
    rfl

theorem agrees_step (byte : ports ≤ 8) (d : Driver ports Hw) (agrees : Agrees told s.gsw)
    (event : Event) : Agrees (tell told event) (step d s event).gsw := by
  cases event with
  | setVid portVlan value => exact agrees_setVid agrees portVlan value
  | setVlanPorts portVlan value => exact agrees_setVlanPorts byte agrees portVlan value
  | setPortPvid port pvid => exact agrees_setPortPvid agrees port pvid
  | setVlanEnable value => exact ⟨agrees.vid, agrees.flags, agrees.pvid⟩
  | resetSwitch => exact agrees_resetConfig told s.gsw
  | applyConfig =>
    have same : (step d s .applyConfig).gsw = s.gsw := by
      show (applyConfig d s).gsw = s.gsw
      unfold applyConfig
      split <;> rfl
    rw [same]
    exact agrees

theorem agrees_run (byte : ports ≤ 8) (d : Driver ports Hw) (agrees : Agrees told s.gsw)
    (events : List Event) : Agrees (run tell told events) (run (step d) s events).gsw := by
  induction events generalizing told s with
  | nil => exact agrees
  | cons event rest ih => exact ih (agrees_step byte d agrees event)

structure ReadsBack (r : Reading ports Hw) (told : Told ports) (s : State ports Hw) : Prop where
  vid : ∀ i v, told.vid i = some v → getVid i.val = v
  vlanPorts : ∀ i flags, told.flags i = some flags →
    getVlanPorts r s.hw i.val = some (portsOf flags)
  portPvid : ∀ p (i : Fin NUM_VLANS), told.pvid p = some i.val →
    (∃ q, (s.gsw.vlanEntries i).Has q) → getPortPvid r s.hw p.val = some i.val

def asVid (i : Fin NUM_VLANS) : BitVec 12 := BitVec.ofNat 12 i.val

/-- The VIDs are the numbers of their VLANs: those that were set, those of the VLANs that a PVID
names, and those under which the table has the ports of a VLAN.  `left` is what is left there
of earlier configurations. -/
structure Aligned (left : Fin NUM_VLANS → Fin ports → Option Bool) (told : Told ports)
    (gsw : Gsw ports) : Prop where
  vid : ∀ i v, told.vid i = some v → v = i.val
  carried : ∀ i flags, told.flags i = some flags →
    ∀ j, Carries gsw j (asVid i) → recordedFlags (gsw.vlanEntries j) = flags
  vacant : ∀ i flags, told.flags i = some flags →
    (∀ j, ¬ Carries gsw j (asVid i)) → left i = flags
  pvid : ∀ p (i : Fin NUM_VLANS), told.pvid p = some i.val →
    (∃ q, (gsw.vlanEntries i).Has q) → recordedVid (gsw.vlanEntries i) = i.val

theorem rowFlags_of_holds {row : Row} (holds : Holds r row set) : rowFlags r row = flagsOf set := by
  funext p
  unfold rowFlags flagsOf
  by_cases has : set.Has p
  · rw [if_pos ((holds.member p).mpr has), if_pos has, holds.egress p has]
    cases set.etags.getLsbD p with
    | false => rfl
    | true => rfl
  · rw [if_neg fun member => has ((holds.member p).mp member), if_neg has]

theorem getVlanPorts_eq_iff (r : Reading ports Hw) (hw : Hw) (i : Fin NUM_VLANS)
    (flags : Fin ports → Option Bool) :
    getVlanPorts r hw i.val = some (portsOf flags) ↔
      rowFlags r (r.row hw (asVid i)) = flags := by
  rw [getVlanPorts, if_pos i.isLt, Option.some.injEq, portsOf_inj]
  rfl

theorem getPortPvid_eq {hw : Hw} (pvid : ∀ p, r.pvid hw p = (pvidOf gsw p).setWidth 12)
    {p : Fin ports} {i : Fin NUM_VLANS} (names : (gsw.portPvid p).toNat = i.val)
    (has : ∃ q, (gsw.vlanEntries i).Has q) :
    getPortPvid r hw p.val = some (recordedVid (gsw.vlanEntries i)) := by
  have said := (pvidIs_pvidOf gsw p).vid i names.symm has
  rw [getPortPvid, dif_pos p.isLt, pvid, said]
  rfl

theorem readsBack_iff {hw : Hw} (left : Fin NUM_VLANS → Fin ports → Option Bool)
    (agrees : Agrees told gsw)
    (carried : ∀ i v, Carries gsw i v → Holds r (r.row hw v) (gsw.vlanEntries i).toPortSet)
    (vacant : ∀ i, (∀ j, ¬ Carries gsw j (asVid i)) →
      rowFlags r (r.row hw (asVid i)) = left i)
    (pvid : ∀ p, r.pvid hw p = (pvidOf gsw p).setWidth 12) :
    ReadsBack r told ⟨gsw, hw⟩ ↔ Aligned left told gsw := by
  constructor
  · intro reads
    refine ⟨?_, ?_, ?_, ?_⟩
    · exact fun i v set => (reads.vid i v set).symm
    · intro i flags set j carries
      rw [← (getVlanPorts_eq_iff r hw i flags).mp (reads.vlanPorts i flags set)]
      exact (rowFlags_of_holds (carried j _ carries)).symm
    · intro i flags set free
      rw [← vacant i free]
      exact (getVlanPorts_eq_iff r hw i flags).mp (reads.vlanPorts i flags set)
    · intro p i set has
      have read := reads.portPvid p i set has
      rw [getPortPvid_eq pvid (agrees.pvid p _ set) has] at read
      exact Option.some.inj read
  · intro aligned
    refine ⟨?_, ?_, ?_⟩
    · exact fun i v set => (aligned.vid i v set).symm
    · intro i flags set
      rw [getVlanPorts_eq_iff]
      by_cases programmed : ∃ j, Carries gsw j (asVid i)
      · obtain ⟨j, carries⟩ := programmed
        rw [rowFlags_of_holds (carried j _ carries)]
        exact aligned.carried i flags set j carries
      · have free := not_exists.mp programmed
        rw [vacant i free]
        exact aligned.vacant i flags set free
    · intro p i set has
      rw [getPortPvid_eq pvid (agrees.pvid p _ set) has, aligned.pvid p i set has]

theorem rowFlags_cleared (hw : Mt753x.Hw) (i : Fin NUM_VLANS) :
    rowFlags Mt753x.reading (Mt753x.cleared hw (asVid i)) = fun _ => none := by
  have number : (asVid i).toNat = i.val := by
    have small : i.val < 4095 := i.isLt
    rw [asVid, BitVec.toNat_ofNat, Nat.mod_eq_of_lt (by omega)]
  have empty : ∀ p, Mt753x.reading.member
      (Mt753x.memberWord 0, egressModes Mt753x.NUM_PORTS 0 0 0) p = false := by decide
  funext p
  rw [Mt753x.cleared, if_pos (number ▸ i.isLt), rowFlags, empty]
  rfl

def leftBy (s : State An8855.NUM_PORTS An8855.Hw) (i : Fin NUM_VLANS) :
    An8855.Port → Option Bool :=
  rowFlags An8855.reading (s.hw.vlanTable (asVid i))

/-- After any calls and an `apply_config` with VLANs enabled, what was last set is read back
exactly when the VIDs are the numbers of their VLANs, and, of a VLAN that is not in the table,
when nothing else has been left there. -/
theorem applyConfig_readsBack_iff (s : State Mt753x.NUM_PORTS Mt753x.Hw) (events : List Event)
    (enabled : (run (step mt753x) s events).gsw.globalVlanEnable = true)
    (distinct : Distinct (run (step mt753x) s events).gsw)
    (t : State An8855.NUM_PORTS An8855.Hw) (calls : List Event)
    (enabledToo : (run (step an8855) t calls).gsw.globalVlanEnable = true)
    (distinctToo : Distinct (run (step an8855) t calls).gsw) :
    (ReadsBack Mt753x.reading (run tell untold events)
        (run (step mt753x) s (events ++ [.applyConfig])) ↔
      Aligned (fun _ _ => none) (run tell untold events) (run (step mt753x) s events).gsw) ∧
    (ReadsBack An8855.reading (run tell untold calls)
        (run (step an8855) t (calls ++ [.applyConfig])) ↔
      Aligned (leftBy (run (step an8855) t calls)) (run tell untold calls)
        (run (step an8855) t calls).gsw) := by
  constructor
  · have applied : step mt753x (run (step mt753x) s events) .applyConfig = _ :=
      applyConfig_enabled mt753x enabled
    rw [run_append, run_cons, run_nil, applied]
    refine readsBack_iff _ (agrees_run (by decide) mt753x (agrees_untold s.gsw) events) ?_ ?_
      (Mt753x.pvid_applyVlanConfig _ _)
    · exact fun _ _ carries => Mt753x.holds_applyVlanConfig distinct _ carries
    · intro i free
      rw [← rowFlags_cleared (run (step mt753x) s events).hw i]
      exact congrArg _ (Mt753x.vlanTable_applyVlanConfig _ free)
  · have applied : step an8855 (run (step an8855) t calls) .applyConfig = _ :=
      applyConfig_enabled an8855 enabledToo
    rw [run_append, run_cons, run_nil, applied]
    refine readsBack_iff _ (agrees_run (by decide) an8855 (agrees_untold t.gsw) calls) ?_ ?_
      (An8855.pvid_applyVlanConfig _ _)
    · exact fun _ _ carries => An8855.holds_applyVlanConfig distinctToo _ carries
    · intro i free
      exact congrArg _ (An8855.vlanTable_applyVlanConfig _ free)

variable (d : Driver ports Hw) (cpuPort : Fin ports)

theorem enabled_configure (hw : Hw) (le : (vid.setWidth 16).toNat ≤ MAX_VID)
    (ports_pos : 0 < ports) :
    (run (step d) (probed cpuPort hw) (configure vid)).gsw.globalVlanEnable = true := by
  rw [run_configure d cpuPort hw le ports_pos]
  rfl

theorem distinct_configure (hw : Hw) (le : (vid.setWidth 16).toNat ≤ MAX_VID)
    (ports_pos : 0 < ports) : Distinct (run (step d) (probed cpuPort hw) (configure vid)).gsw := by
  rw [run_configure d cpuPort hw le ports_pos]
  exact distinct_oneVlan _ _ _

def toldVlan1 (vid : Nat) : Told ports where
  vid := fun i => if i.val = 1 then some vid else none
  flags := fun i => if i.val = 1 then some (flagOf [⟨0, false⟩]) else none
  pvid := fun _ => none

theorem told_configure (le : (vid.setWidth 16).toNat ≤ MAX_VID) (ports_pos : 0 < ports) :
    run tell (untold : Told ports) (configure vid) = toldVlan1 (vid.setWidth 16).toNat := by
  have good : ([⟨0, false⟩] : List SwitchPort).length ≤ ports ∧
      ∀ q ∈ ([⟨0, false⟩] : List SwitchPort), q.id < ports := by
    refine ⟨ports_pos, ?_⟩
    simpa using ports_pos
  rw [configure, run_cons, run_cons, run_cons, run_nil, tell, if_pos le, tell, if_pos good]
  rfl

theorem vid1_le : ((1 : BitVec 32).setWidth 16).toNat ≤ MAX_VID := by decide

theorem aligned_configure (hw : Hw) (d : Driver ports Hw) (ports_pos : 0 < ports) (byte : ports ≤ 8)
    (left : Fin NUM_VLANS → Fin ports → Option Bool) :
    Aligned left (run tell untold (configure 1))
      (run (step d) (probed cpuPort hw) (configure 1)).gsw := by
  have agrees := agrees_run byte d (agrees_untold (probed cpuPort hw).gsw) (configure 1)
  have flags := agrees.flags
  rw [told_configure vid1_le ports_pos] at flags ⊢
  rw [run_configure d cpuPort hw vid1_le ports_pos] at flags ⊢
  have only : ∀ (i : Fin NUM_VLANS) (f g : Fin ports → Option Bool),
      (if i.val = 1 then some g else none) = some f → i = vlan1 := by
    intro i f g set
    by_contra other
    have unlike : ¬ i.val = 1 := fun same => other (Fin.ext same)
    rw [if_neg unlike] at set
    cases set
  have carries : Carries (oneVlan cpuPort true (untagged 1 vid1_le ports_pos)) vlan1
      (asVid vlan1) :=
    oneVlan_carries cpuPort true rfl ⟨_, has_untagged vid1_le ports_pos⟩
  refine ⟨?_, ?_, ?_, ?_⟩
  · intro i v set
    by_cases here : i.val = 1
    · rw [toldVlan1] at set
      simp only [here, if_true, Option.some.injEq] at set
      rw [here, ← set]
      rfl
    · simp only [toldVlan1, if_neg here] at set
      cases set
  · intro i f set j other
    have named := only i f _ set
    subst named
    rw [(carries_oneVlan other).1]
    exact flags vlan1 f set
  · intro i f set free
    have named := only i f _ set
    subst named
    exact absurd carries (free vlan1)
  · exact fun p i never => nomatch never

/-- VLAN 1 with VID 1 is read back from both switches. -/
theorem applyConfig_readsBack_iff_vid1 :
    ReadsBack Mt753x.reading (run tell untold (configure 1))
        (run (step mt753x) start753x (configure 1 ++ [.applyConfig])) ∧
      ReadsBack An8855.reading (run tell untold (configure 1))
        (run (step an8855) start8855 (configure 1 ++ [.applyConfig])) := by
  have both := applyConfig_readsBack_iff start753x (configure 1)
    (enabled_configure _ _ _ vid1_le (by decide)) (distinct_configure _ _ _ vid1_le (by decide))
    start8855 (configure 1)
    (enabled_configure _ _ _ vid1_le (by decide)) (distinct_configure _ _ _ vid1_le (by decide))
  constructor
  · exact both.1.mpr (aligned_configure _ _ _ (by decide) (by decide) _)
  · exact both.2.mpr (aligned_configure _ _ _ (by decide) (by decide) _)

/-- VLAN 1 with VID 5 is not: its VID is read back as 1. -/
theorem vid5_reads_back_1 :
    ¬ (∀ (s : State Mt753x.NUM_PORTS Mt753x.Hw) (events : List Event),
        (run (step mt753x) s events).gsw.globalVlanEnable = true →
        Distinct (run (step mt753x) s events).gsw →
        ReadsBack Mt753x.reading (run tell untold events)
          (run (step mt753x) s (events ++ [.applyConfig]))) ∧
      ¬ ∀ (s : State An8855.NUM_PORTS An8855.Hw) (events : List Event),
        (run (step an8855) s events).gsw.globalVlanEnable = true →
        Distinct (run (step an8855) s events).gsw →
        ReadsBack An8855.reading (run tell untold events)
          (run (step an8855) s (events ++ [.applyConfig])) := by
  constructor
  · intro always
    have reads := (always start753x (configure 5) (enabled_configure _ _ _ vid5_le (by decide))
      (distinct_configure _ _ _ vid5_le (by decide))).vid vlan1 5
    rw [told_configure vid5_le (by decide)] at reads
    exact absurd (reads rfl) (by decide)
  · intro always
    have reads := (always start8855 (configure 5) (enabled_configure _ _ _ vid5_le (by decide))
      (distinct_configure _ _ _ vid5_le (by decide))).vid vlan1 5
    rw [told_configure vid5_le (by decide)] at reads
    exact absurd (reads rfl) (by decide)

end OpenwrtSource.Swconfig.ReadBack
