import Mathlib.Data.BitVec
import Mathlib.Logic.Function.Basic
import OpenwrtSource.Lib.Run

/-!
# Learning a connection's traffic class

The FLOWOFFLOAD target counts the packets of each direction in an extension of the
connection and keeps the last traffic class.  The flow gets both classes when it is set up,
and the flow table's forward path writes them into the packets.
-/

namespace OpenwrtSource.FlowTable.DscpLearning

/-- The kernel's access to the traffic class of IPv4 or of IPv6 headers: `iph->tos` and
`ipv4_change_dsfield`, or `ipv6_get_dsfield` and `ipv6_change_dsfield`. -/
structure Dsfield (H : Type) where
  get : H → BitVec 8
  change : BitVec 8 → BitVec 8 → H → H
  get_change : ∀ mask value header, get (change mask value header) = (get header &&& mask) ||| value

def ecn (tos : BitVec 8) : BitVec 8 := tos &&& 3

def dscp (tos : BitVec 8) : BitVec 8 := tos >>> 2

inductive Dir where
  | original
  | reply
deriving DecidableEq

structure NfConnTos where
  value : BitVec 8
  counter : Nat
deriving DecidableEq

abbrev NfConnQos := Dir → NfConnTos

def NfConnQos.zero : NfConnQos := fun _ => ⟨0, 0⟩

/-- The extension of a new connection; `allocated` says that `nf_ct_ext_add` has found room.
Without it the area behind a null pointer is cleared, which is `none`. -/
def nfCtQosExtAdd (sysctlQos : Nat) (allocated : Bool) : Option (Option NfConnQos) :=
  if sysctlQos = 0 then some none
  else if allocated then some (some NfConnQos.zero)
  else none

def nfCtQosClear (qos : Option NfConnQos) : Option NfConnQos := qos.map fun _ => NfConnQos.zero

/-- A connection: its extension, `IPS_OFFLOAD_BIT`, and the `tos` of both tuples of its flow. -/
structure Conn where
  qos : Option NfConnQos
  offload : Bool
  flow : Option (Dir → BitVec 8)

/-- What else decides about a packet at the target: the checks in front of the extension, the
devices, the route, the flow's memory, and the flow table's answer. -/
structure Path where
  eligible : Bool
  devices : Bool
  routed : Bool
  allocated : Bool
  added : Bool
deriving DecidableEq

def xtFlowoffloadDscpInit (qos : Option NfConnQos) : Dir → BitVec 8 :=
  match qos with
  | some qos => fun dir => (qos dir).value
  | none => fun _ => 0

def learn (qos : NfConnQos) (dir : Dir) (tos : BitVec 8) : NfConnQos :=
  Function.update qos dir ⟨tos, (qos dir).counter + 1⟩

/-- `flowoffload_tg` from the devices on. -/
def setUp (conn : Conn) (path : Path) : Conn :=
  if path.devices = false then conn
  else if conn.offload then conn
  else if path.routed && path.allocated && path.added then
    { conn with offload := true, flow := some (xtFlowoffloadDscpInit conn.qos) }
  else conn

section Paths

variable {H : Type}

def flowoffloadTg (ops : Dsfield H) (sysctlQos : Nat) (conn : Conn) (dir : Dir) (header : H)
    (path : Path) : Conn :=
  if path.eligible = false then conn
  else match conn.qos with
    | none => setUp conn path
    | some qos =>
      let qos := learn qos dir (ops.get header)
      let conn := { conn with qos := some qos }
      if (qos dir).counter < sysctlQos then conn else setUp conn path

def flowOffloadTeardown (conn : Conn) : Conn :=
  match conn.flow with
  | none => conn
  | some _ => { qos := nfCtQosClear conn.qos, offload := false, flow := none }

/-- What both forward paths do to the header of a packet of a flow. -/
def changeClass (ops : Dsfield H) (sysctlQos : Nat) (tos : BitVec 8) (header : H) : H :=
  if sysctlQos ≠ 0 then ops.change 0 tos header else header

/-- The header that leaves, with `iph->tos` and `ipv4_change_dsfield`. -/
def nfFlowOffloadForward (ops : Dsfield H) (sysctlQos : Nat) (tos : BitVec 8) (iph : H) : H :=
  changeClass ops sysctlQos tos iph

/-- The header that leaves, with `ipv6_get_dsfield` and `ipv6_change_dsfield`. -/
def nfFlowOffloadIpv6Forward (ops : Dsfield H) (sysctlQos : Nat) (tos : BitVec 8) (ip6h : H) : H :=
  changeClass ops sysctlQos tos ip6h

end Paths

inductive Family where
  | ipv4
  | ipv6
deriving DecidableEq

def forwardPath {H : Type} (family : Family) (ops : Dsfield H) (sysctlQos : Nat)
    (tos : BitVec 8) (header : H) : H :=
  match family with
  | .ipv4 => nfFlowOffloadForward ops sysctlQos tos header
  | .ipv6 => nfFlowOffloadIpv6Forward ops sysctlQos tos header

/-- A packet at the target, in the forward path, or the end of the flow. -/
inductive Event (H : Type) where
  | target (dir : Dir) (header : H) (path : Path)
  | forward (dir : Dir) (header : H)
  | teardown

def learned (qos : Option NfConnQos) (dir : Dir) (tos : BitVec 8) : Option NfConnQos :=
  qos.map fun qos => learn qos dir tos

theorem setUp_cases (conn : Conn) (path : Path) :
    setUp conn path = conn ∨ conn.offload = false ∧
      setUp conn path =
        { conn with offload := true, flow := some (xtFlowoffloadDscpInit conn.qos) } := by
  unfold setUp
  by_cases devices : path.devices = false
  · exact .inl (if_pos devices)
  · rw [if_neg devices]
    cases offload : conn.offload with
    | true => exact .inl (if_pos rfl)
    | false =>
      rw [if_neg Bool.false_ne_true]
      split
      · exact .inr ⟨rfl, rfl⟩
      · exact .inl rfl

section Steps

variable {H : Type} {ops : Dsfield H} {sysctlQos : Nat} {conn : Conn} {dir : Dir} {header : H}
variable {path : Path}

theorem target_cases (ops : Dsfield H) (sysctlQos : Nat) (conn : Conn) (dir : Dir) (header : H)
    (eligible : path.eligible = true) :
    flowoffloadTg ops sysctlQos conn dir header path =
        { conn with qos := learned conn.qos dir (ops.get header) } ∨
      conn.offload = false ∧ flowoffloadTg ops sysctlQos conn dir header path =
        { qos := learned conn.qos dir (ops.get header)
          offload := true
          flow := some (xtFlowoffloadDscpInit (learned conn.qos dir (ops.get header))) } := by
  unfold flowoffloadTg
  rw [if_neg (ne_false_of_eq_true eligible)]
  cases found : conn.qos with
  | none =>
    rcases setUp_cases conn path with same | ⟨free, made⟩
    · left
      dsimp only
      rw [same]
      cases conn
      cases found
      rfl
    · right
      refine ⟨free, ?_⟩
      dsimp only
      rw [made, found]
      rfl
  | some qos =>
    dsimp only
    split
    · exact .inl rfl
    · rcases setUp_cases { conn with qos := some (learn qos dir (ops.get header)) } path with
        same | ⟨free, made⟩
      · exact .inl same
      · exact .inr ⟨free, made⟩

theorem get_forwardPath (family : Family) (positive : 0 < sysctlQos) (tos : BitVec 8) :
    ops.get (forwardPath family ops sysctlQos tos header) = tos := by
  have changed : ops.get (changeClass ops sysctlQos tos header) = tos := by
    unfold changeClass
    rw [if_pos (Nat.pos_iff_ne_zero.mp positive), ops.get_change]
    simp
  cases family with
  | ipv4 => exact changed
  | ipv6 => exact changed

end Steps

end OpenwrtSource.FlowTable.DscpLearning

/-!
# The traffic class of forwarded packets

The flow table is to leave the congestion bits of a packet alone, and to change its DSCP only to
one that has been learned in the packet's own direction.
-/

namespace OpenwrtSource.FlowTable.TrafficClass

open Lib.Run FlowTable.DscpLearning

/-- What had been seen when the flow was set up: `seen` holds the classes of all packets that the
target has looked at, newest first; `known` the last of each direction that the extension
remembers, since it was cleared. -/
structure Setup where
  seen : Dir → List (BitVec 8)
  known : Dir → Option (BitVec 8)

structure World where
  conn : Conn
  seen : Dir → List (BitVec 8)
  known : Dir → Option (BitVec 8)
  setup : Option Setup

def start (qos : Option NfConnQos) : World where
  conn := { qos := qos, offload := false, flow := none }
  seen := fun _ => []
  known := fun _ => none
  setup := none

section Runs

variable {H : Type} (ops : Dsfield H) (sysctlQos : Nat)

def watchTarget (w : World) (dir : Dir) (header : H) (path : Path) : World :=
  if path.eligible = false then w
  else
    let conn := flowoffloadTg ops sysctlQos w.conn dir header path
    let seen := Function.update w.seen dir (ops.get header :: w.seen dir)
    let known :=
      if w.conn.qos.isSome then Function.update w.known dir (some (ops.get header)) else w.known
    { conn := conn
      seen := seen
      known := known
      setup := if w.conn.offload = false ∧ conn.offload = true then some ⟨seen, known⟩
        else w.setup }

def watch (w : World) : Event H → World
  | .target dir header path => watchTarget ops sysctlQos w dir header path
  | .forward _ _ => w
  | .teardown =>
    match w.conn.flow with
    | none => w
    | some _ =>
      { w with conn := flowOffloadTeardown w.conn, known := fun _ => none, setup := none }

/-- A packet that the flow table forwards keeps its congestion bits, and its DSCP unless it gets
that of a packet of its direction, of at least `nf_conntrack_qos` that had been seen. -/
def Keeps (family : Family) (w : World) : Event H → Prop
  | .forward dir header => ∀ tos, w.conn.flow = some tos →
      let out := ops.get (forwardPath family ops sysctlQos (tos dir) header)
      ecn out = ecn (ops.get header) ∧
        (dscp out = dscp (ops.get header) ∨ ∃ setup, w.setup = some setup ∧
          sysctlQos ≤ (setup.seen dir).length ∧ ∃ v ∈ setup.seen dir, dscp v = dscp out)
  | _ => True

/-- How a connection begins: the setting then, and whether there is room for the extension. -/
structure Birth where
  sysctlQos : Nat
  allocated : Bool

/-- The extension is set up in memory that is there, and every packet of the run is kept. -/
def RunKeeps (family : Family) (birth : Birth) (events : List (Event H)) : Prop :=
  ∃ qos, nfCtQosExtAdd birth.sysctlQos birth.allocated = some qos ∧
    Along (watch ops sysctlQos) (Keeps ops sysctlQos family) (start qos) events

/-- The last class that the extension remembered of the direction, or zero. -/
def Setup.lastClass (setup : Setup) (dir : Dir) : BitVec 8 := (setup.known dir).getD 0

/-- The direction had been learned: enough of its packets had been seen, and one of them since the
extension was cleared, or one without a DSCP. -/
def Setup.Learned (sysctlQos : Nat) (setup : Setup) (dir : Dir) : Prop :=
  sysctlQos ≤ (setup.seen dir).length ∧
    ((setup.known dir).isSome = true ∨ ∃ v ∈ setup.seen dir, dscp v = 0)

/-- A forwarded packet has the congestion bits of the class that was remembered, and its DSCP
too unless the direction had been learned. -/
def Fits (w : World) : Event H → Prop
  | .forward dir header => ∀ setup, w.setup = some setup →
      ecn (ops.get header) = ecn (setup.lastClass dir) ∧
        (dscp (ops.get header) = dscp (setup.lastClass dir) ∨ setup.Learned sysctlQos dir)
  | _ => True

def Birth.Fits (birth : Birth) : Prop := birth.sysctlQos = 0 ∨ birth.allocated = true

def Birth.qos (birth : Birth) : Option NfConnQos :=
  if birth.sysctlQos = 0 then none else some NfConnQos.zero

end Runs

structure Inv (w : World) : Prop where
  offload : w.conn.offload = w.conn.flow.isSome
  flow : ∀ tos, w.conn.flow = some tos → ∃ setup, w.setup = some setup ∧
    ∀ dir, tos dir = setup.lastClass dir
  setup : w.conn.flow = none → w.setup = none
  qos : ∀ dir, xtFlowoffloadDscpInit w.conn.qos dir = (w.known dir).getD 0
  missing : w.conn.qos = none → ∀ dir, w.known dir = none
  known : ∀ dir v, w.known dir = some v → v ∈ w.seen dir
  remembered : ∀ setup, w.setup = some setup → ∀ dir v, setup.known dir = some v →
    v ∈ setup.seen dir

theorem inv_start (birth : Birth) : Inv (start birth.qos) where
  offload := rfl
  flow := by
    intro tos flow
    cases flow
  setup := fun _ => rfl
  qos := by
    intro dir
    unfold Birth.qos
    split <;> rfl
  missing := fun _ _ => rfl
  known := by
    intro dir v known
    cases known
  remembered := by
    intro setup made
    cases made

section Steps

variable {H : Type} {ops : Dsfield H} {sysctlQos : Nat} {w : World} {dir : Dir} {header : H}
variable {path : Path}

theorem learned_qos (inv : Inv w) (tos : BitVec 8) :
    ∀ other, xtFlowoffloadDscpInit (learned w.conn.qos dir tos) other =
      ((if w.conn.qos.isSome then Function.update w.known dir (some tos) else w.known)
        other).getD 0 := by
  intro other
  have held := inv.qos other
  cases found : w.conn.qos with
  | none =>
    rw [found] at held
    exact held
  | some qos =>
    rw [found] at held
    unfold learned learn xtFlowoffloadDscpInit
    by_cases here : other = dir
    · subst here
      simp
    · simp only [Option.map_some, Option.isSome_some, if_true, Function.update_of_ne here]
      exact held

theorem known_seen (inv : Inv w) (tos : BitVec 8) :
    ∀ other v, (if w.conn.qos.isSome then Function.update w.known dir (some tos) else w.known)
        other = some v → v ∈ Function.update w.seen dir (tos :: w.seen dir) other := by
  intro other v known
  by_cases here : other = dir
  · subst here
    rw [Function.update_self]
    split at known
    · rw [Function.update_self] at known
      cases known
      exact List.mem_cons_self
    · exact List.mem_cons_of_mem _ (inv.known other v known)
  · rw [Function.update_of_ne here]
    split at known
    · rw [Function.update_of_ne here] at known
      exact inv.known other v known
    · exact inv.known other v known

theorem inv_target (inv : Inv w) : Inv (watchTarget ops sysctlQos w dir header path) := by
  unfold watchTarget
  by_cases ineligible : path.eligible = false
  · rw [if_pos ineligible]
    exact inv
  · rw [if_neg ineligible]
    have missing : learned w.conn.qos dir (ops.get header) = none → ∀ other,
        (if w.conn.qos.isSome then Function.update w.known dir (some (ops.get header))
          else w.known) other = none := by
      intro gone other
      have absent := Option.map_eq_none_iff.mp gone
      rw [absent]
      exact inv.missing absent other
    rcases target_cases ops sysctlQos w.conn dir header (eq_true_of_ne_false ineligible) with
      same | ⟨free, made⟩
    · dsimp only
      rw [same]
      have unmade : ¬ (w.conn.offload = false ∧ w.conn.offload = true) := by
        rintro ⟨off, on⟩
        rw [off] at on
        cases on
      rw [if_neg unmade]
      exact ⟨inv.offload, inv.flow, inv.setup, learned_qos inv _, missing, known_seen inv _,
        inv.remembered⟩
    · dsimp only
      have both : w.conn.offload = false ∧ true = true := ⟨free, rfl⟩
      rw [made]
      dsimp only
      rw [if_pos both]
      refine ⟨rfl, ?_, ?_, learned_qos inv _, missing, known_seen inv _, ?_⟩
      · intro tos flow
        cases flow
        exact ⟨_, rfl, learned_qos inv _⟩
      · intro none
        cases none
      · intro setup taken
        cases taken
        exact known_seen inv _

theorem inv_step (inv : Inv w) (event : Event H) : Inv (watch ops sysctlQos w event) := by
  cases event with
  | target dir header path => exact inv_target inv
  | forward dir header => exact inv
  | teardown =>
    unfold watch
    cases found : w.conn.flow with
    | none => exact inv
    | some tos =>
      dsimp only
      unfold flowOffloadTeardown
      rw [found]
      refine ⟨rfl, ?_, fun _ => rfl, ?_, fun _ _ => rfl, ?_, ?_⟩
      · intro tos flow
        cases flow
      · intro dir
        unfold nfCtQosClear
        cases w.conn.qos <;> rfl
      · intro dir v known
        cases known
      · intro setup made
        cases made

theorem keeps_iff_fits (positive : 0 < sysctlQos) (family : Family) (inv : Inv w)
    (event : Event H) : Keeps ops sysctlQos family w event ↔ Fits ops sysctlQos w event := by
  cases event with
  | target dir header path => exact Iff.rfl
  | teardown => exact Iff.rfl
  | forward dir header =>
    unfold Keeps Fits
    dsimp only
    cases found : w.conn.flow with
    | none =>
      rw [inv.setup found]
      exact iff_of_true (fun _ flow => by cases flow) (fun _ made => by cases made)
    | some tos =>
      obtain ⟨setup, made, carried⟩ := inv.flow tos found
      have taken : (∃ v ∈ setup.seen dir, dscp v = dscp (setup.lastClass dir)) ↔
          ((setup.known dir).isSome = true ∨ ∃ v ∈ setup.seen dir, dscp v = 0) := by
        unfold Setup.lastClass
        cases remembered : setup.known dir with
        | none => simp [dscp]
        | some v =>
          exact iff_of_true ⟨v, inv.remembered setup made dir v remembered, rfl⟩ (.inl rfl)
      have learned : (∃ other, w.setup = some other ∧
            sysctlQos ≤ (other.seen dir).length ∧
              ∃ v ∈ other.seen dir, dscp v = dscp (setup.lastClass dir)) ↔
          setup.Learned sysctlQos dir := by
        unfold Setup.Learned
        rw [← taken, made]
        constructor
        · rintro ⟨other, same, rest⟩
          cases same
          exact rest
        · intro rest
          exact ⟨setup, rfl, rest⟩
      constructor
      · intro keeps other also
        rw [made] at also
        cases also
        obtain ⟨bits, class_⟩ := keeps tos rfl
        rw [get_forwardPath family positive, carried] at bits class_
        exact ⟨bits.symm, class_.imp Eq.symm learned.mp⟩
      · intro fits _ same
        cases same
        obtain ⟨bits, class_⟩ := fits setup made
        rw [get_forwardPath family positive, carried]
        exact ⟨bits.symm, class_.imp Eq.symm learned.mpr⟩

end Steps

theorem qosExtAdd_iff (birth : Birth) (qos : Option NfConnQos) :
    nfCtQosExtAdd birth.sysctlQos birth.allocated = some qos ↔ birth.Fits ∧ qos = birth.qos := by
  unfold nfCtQosExtAdd Birth.Fits Birth.qos
  by_cases off : birth.sysctlQos = 0
  · rw [if_pos off, if_pos off, Option.some_inj]
    constructor
    · rintro rfl
      exact ⟨.inl off, rfl⟩
    · rintro ⟨-, rfl⟩
      rfl
  · rw [if_neg off, if_neg off]
    cases allocated : birth.allocated with
    | false =>
      constructor
      · intro added
        cases added
      · rintro ⟨zero | found, -⟩
        · exact absurd zero off
        · cases found
    | true =>
      rw [if_pos rfl, Option.some_inj]
      constructor
      · rintro rfl
        exact ⟨.inr rfl, rfl⟩
      · rintro ⟨-, rfl⟩
        rfl

/-- In every run the forwarded packets keep their class, and the extension is set up in memory that
is there, exactly if the memory is found and every forwarded packet fits. -/
theorem run_keeps_iff {H : Type} (ops : Dsfield H) (sysctlQos : Nat) (family : Family)
    (birth : Birth) (events : List (Event H)) (positive : 0 < sysctlQos) :
    RunKeeps ops sysctlQos family birth events ↔
      birth.Fits ∧ Along (watch ops sysctlQos) (Fits ops sysctlQos) (start birth.qos) events := by
  have along : Along (watch ops sysctlQos) (Keeps ops sysctlQos family) (start birth.qos) events ↔
      Along (watch ops sysctlQos) (Fits ops sysctlQos) (start birth.qos) events := by
    have everywhere : Along (watch ops sysctlQos) (fun _ _ => True) (start birth.qos) events :=
      along_of_forall _ _ _ _ fun _ _ _ => trivial
    have sound := along_of_invariant (watch ops sysctlQos) (fun _ _ => True)
      (fun w event => Keeps ops sysctlQos family w event ↔ Fits ops sysctlQos w event) Inv
      (fun _ event inv _ => inv_step inv event)
      (fun _ event inv _ => keeps_iff_fits positive family inv event)
      (start birth.qos) events (inv_start birth) everywhere
    constructor
    · intro keeps
      exact along_mono (along_and sound keeps) fun _ _ both => both.1.mp both.2
    · intro fits
      exact along_mono (along_and sound fits) fun _ _ both => both.1.mpr both.2
  unfold RunKeeps
  simp only [qosExtAdd_iff]
  constructor
  · rintro ⟨_, ⟨fits, rfl⟩, keeps⟩
    exact ⟨fits, along.mp keeps⟩
  · rintro ⟨fits, guarded⟩
    exact ⟨birth.qos, ⟨fits, rfl⟩, along.mpr guarded⟩

def plainDsfield : Dsfield (BitVec 8) where
  get := id
  change := fun mask value header => (header &&& mask) ||| value
  get_change := fun _ _ _ => rfl

def freePath : Path := ⟨true, true, true, true, true⟩

def learnedRun : List (Event (BitVec 8)) :=
  [.target .original 0xb8 freePath, .target .original 0xb8 freePath,
    .target .original 0xb8 freePath, .forward .original 0x00]

theorem run_keeps_iff_learned :
    RunKeeps plainDsfield 3 .ipv4 ⟨3, true⟩ learnedRun ↔
      Birth.Fits ⟨3, true⟩ ∧
        Along (watch plainDsfield 3) (Fits plainDsfield 3) (start (Birth.qos ⟨3, true⟩))
          learnedRun :=
  run_keeps_iff plainDsfield 3 .ipv4 ⟨3, true⟩ learnedRun (by decide)

/-- Three packets of the original direction are seen and none of the reply; then a reply with
expedited forwarding comes over the flow table. -/
def unlearnedRun : List (Event (BitVec 8)) :=
  [.target .original 0x00 freePath, .target .original 0x00 freePath,
    .target .original 0x00 freePath, .forward .reply 0xb8]

theorem replyUnlearned : ¬ ∀ (H : Type) (ops : Dsfield H) (sysctlQos : Nat) (family : Family)
    (birth : Birth) (events : List (Event H)), 0 < sysctlQos →
      RunKeeps ops sysctlQos family birth events := by
  intro always
  obtain ⟨qos, added, -, -, -, forwarded, -⟩ :=
    always (BitVec 8) plainDsfield 3 .ipv4 ⟨3, true⟩ unlearnedRun (by decide)
  cases added
  obtain ⟨-, same | ⟨setup, made, enough, -⟩⟩ := forwarded _ rfl
  · revert same
    decide
  · cases made
    revert enough
    decide

end OpenwrtSource.FlowTable.TrafficClass
