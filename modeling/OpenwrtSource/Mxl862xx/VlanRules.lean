import Mathlib.Data.List.Basic
import Mathlib.Data.Nat.Find

/-!
# The rules of an extended VLAN block

A rule filters on the two outermost tags and says what happens to the frame.  A
block is an array of rules, and the first rule that matches is applied.
-/

namespace OpenwrtSource.Mxl862xx.VlanRules

/-- `enum mxl862xx_extended_vlan_filter_type`. -/
inductive FilterType
  | normal
  | noFilter
  | default
  | noTag
  deriving DecidableEq

structure FilterVlan where
  type : FilterType := .normal
  priorityEnable : Bool := false
  priorityVal : Nat := 0
  vidEnable : Bool := false
  vidVal : Nat := 0
  deriving DecidableEq

inductive RemoveTag
  | notRemoveTag
  | remove1Tag
  | remove2Tag
  | discardUpstream
  deriving DecidableEq

inductive TreatmentPriority
  | priorityVal
  | innerPriority
  | outerPriority
  | dscp
  deriving DecidableEq

inductive TreatmentVid
  | vidVal
  | innerVid
  | outerVid
  deriving DecidableEq

inductive TreatmentTpid
  | innerTpid
  | outerTpid
  | vtetype
  | dot1q
  deriving DecidableEq

inductive TreatmentDei
  | innerDei
  | outerDei
  | dei0
  | dei1
  deriving DecidableEq

structure TreatmentVlan where
  priorityMode : TreatmentPriority := .priorityVal
  priorityVal : Nat := 0
  vidMode : TreatmentVid := .vidVal
  vidVal : Nat := 0
  tpid : TreatmentTpid := .innerTpid
  dei : TreatmentDei := .innerDei
  deriving DecidableEq

structure Treatment where
  removeTag : RemoveTag := .notRemoveTag
  addOuterVlan : Bool := false
  outerVlan : TreatmentVlan := {}
  addInnerVlan : Bool := false
  innerVlan : TreatmentVlan := {}
  reassignBridgePort : Bool := false
  newBridgePortId : Nat := 0
  deriving DecidableEq

/-- One entry; the defaults are what `memset` leaves. -/
structure Rule where
  outerVlan : FilterVlan := {}
  innerVlan : FilterVlan := {}
  treatment : Treatment := {}
  deriving DecidableEq

/-- The rule of `deactivate_vlan_filter_entry`, which is also the reset value. -/
def deactivated : Rule where
  outerVlan := { type := .normal, priorityEnable := true, vidEnable := true }
  innerVlan := { type := .normal, priorityEnable := true, vidEnable := true }
  treatment := { addOuterVlan := true, addInnerVlan := true }

def ofType (type : FilterType) : FilterVlan := { type := type }

def ofVid (vid : Nat) : FilterVlan := { type := .normal, vidEnable := true, vidVal := vid }

def discard (outer inner : FilterType) : Rule where
  outerVlan := ofType outer
  innerVlan := ofType inner
  treatment := { removeTag := .discardUpstream }

def remove (outer inner : FilterVlan) (tags : RemoveTag) : Rule where
  outerVlan := outer
  innerVlan := inner
  treatment := { removeTag := tags }

/-- The tag that the builders push: fixed VID, 0x8100, priority 0, DEI 0. -/
def tagOf (vid : Nat) : TreatmentVlan where
  vidVal := vid
  tpid := .dot1q
  dei := .dei0

def push (outer inner : FilterVlan) (vid : Nat) : Rule where
  outerVlan := outer
  innerVlan := inner
  treatment := { addOuterVlan := true, outerVlan := tagOf vid }

def pushBoth (outer inner : FilterVlan) (outerVid innerVid : Nat) : Rule where
  outerVlan := outer
  innerVlan := inner
  treatment := { addOuterVlan := true, outerVlan := tagOf outerVid,
                 addInnerVlan := true, innerVlan := tagOf innerVid }

structure Tag where
  vid : Nat
  priority : Nat
  deriving DecidableEq

inductive Frame
  | untagged
  | tagged (outer : Tag)
  | doubleTagged (outer inner : Tag)

def Frame.outer : Frame → Option Tag
  | .untagged => none
  | .tagged tag => some tag
  | .doubleTagged tag _ => some tag

def Frame.inner : Frame → Option Tag
  | .untagged => none
  | .tagged _ => none
  | .doubleTagged _ tag => some tag

def FilterVlan.admits (filter : FilterVlan) (tag : Option Tag) : Bool :=
  match filter.type, tag with
  | .noFilter, _ => true
  | .default, _ => true
  | .noTag, tag => tag.isNone
  | .normal, none => false
  | .normal, some tag =>
    (!filter.priorityEnable || tag.priority == filter.priorityVal) &&
      (!filter.vidEnable || tag.vid == filter.vidVal)

def Rule.isDefault (rule : Rule) : Bool :=
  decide (rule.outerVlan.type = .default ∨ rule.innerVlan.type = .default)

/-- A deactivated rule takes no frame, whatever its filters say. -/
def Rule.takes (rule : Rule) (frame : Frame) : Bool :=
  decide (rule ≠ deactivated) && rule.outerVlan.admits frame.outer &&
    rule.innerVlan.admits frame.inner

/-- The first rule below `size` that takes the frame.  A default rule is for the
frames that no other rule takes. -/
def applied (rules : Nat → Rule) (size : Nat) (frame : Frame) : Option Rule :=
  match (List.range size).find? fun k => !(rules k).isDefault && (rules k).takes frame with
  | some k => some (rules k)
  | none =>
    ((List.range size).find? fun k => (rules k).isDefault && (rules k).takes frame).map rules

def treatment (rules : Nat → Rule) (size : Nat) (frame : Frame) : Treatment :=
  ((applied rules size frame).map Rule.treatment).getD {}

theorem applied_of_first {rules : Nat → Rule} (size : Nat) {k : Nat} {frame : Frame} (below : k < size)
    (plain : (rules k).isDefault = false) (takes : (rules k).takes frame = true)
    (earlier : ∀ j < k, (rules j).takes frame = false) :
    applied rules size frame = some (rules k) := by
  have found : (List.range size).find?
      (fun k => !(rules k).isDefault && (rules k).takes frame) = some k := by
    rw [List.find?_range_eq_some]
    refine ⟨by simp [plain, takes], by simpa using below, ?_⟩
    intro j smaller
    simp [earlier j smaller]
  simp [applied, found]

theorem treatment_of_parts (rules : Nat → Rule) {size split last : Nat} (frame : Frame)
    (agreed : Treatment) (order : split ≤ last) (below : last < size)
    (agree : ∀ k < split, (rules k).takes frame = true →
      (rules k).isDefault = false ∧ (rules k).treatment = agreed)
    (plain : (rules last).isDefault = false) (takes : (rules last).takes frame = true)
    (between : ∀ k, split ≤ k → k < last → (rules k).takes frame = false) :
    treatment rules size frame =
      if ∃ k < split, (rules k).takes frame = true then agreed else (rules last).treatment := by
  by_cases found : ∃ k < split, (rules k).takes frame = true
  · rw [if_pos found]
    obtain ⟨inside, taken⟩ := Nat.find_spec found
    have first := applied_of_first size (k := Nat.find found) (by omega)
      (agree _ inside taken).1 taken (by
        intro j smaller
        have missed := Nat.find_min found smaller
        rw [not_and] at missed
        simpa using missed (by omega))
    simp [treatment, first, (agree _ inside taken).2]
  · rw [if_neg found]
    have first := applied_of_first size below plain takes (by
      intro j smaller
      by_cases inside : j < split
      · simpa using fun taken => found ⟨j, inside, taken⟩
      · exact between j (by omega) smaller)
    simp [treatment, first]

@[simp] theorem deactivated_takes (frame : Frame) : deactivated.takes frame = false := by
  simp [Rule.takes]

@[simp] theorem ofType_type (type : FilterType) : (ofType type).type = type := rfl

@[simp] theorem ofVid_type (vid : Nat) : (ofVid vid).type = .normal := rfl

@[simp] theorem ofVid_admits (vid : Nat) (tag : Option Tag) :
    (ofVid vid).admits tag = tag.any (·.vid == vid) := by
  cases tag <;> simp [FilterVlan.admits, ofVid]

@[simp] theorem ofType_noTag_admits (tag : Option Tag) :
    (ofType .noTag).admits tag = tag.isNone := by
  cases tag <;> rfl

@[simp] theorem ofType_normal_admits (tag : Option Tag) :
    (ofType .normal).admits tag = tag.isSome := by
  cases tag <;> rfl

theorem discard_takes (outer inner : FilterType) (frame : Frame) :
    (discard outer inner).takes frame =
      ((ofType outer).admits frame.outer && (ofType inner).admits frame.inner) := by
  have active : discard outer inner ≠ deactivated := by
    intro same
    have removed := congrArg (·.treatment.removeTag) same
    simp [discard, deactivated] at removed
  rw [Rule.takes, decide_eq_true active]
  rfl

end OpenwrtSource.Mxl862xx.VlanRules
