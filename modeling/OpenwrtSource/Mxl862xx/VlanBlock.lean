import Mathlib.Logic.Function.Basic
import OpenwrtSource.Mxl862xx.VlanRules

/-!
# Extended VLAN blocks

The driver keeps, for each block, which rule indexes belong to which VLAN and
which are free for reuse.  Rules of a VLAN come from its record, from the
recycled inventory or from a counter; the final rules sit at the block's end.
-/

namespace OpenwrtSource.Mxl862xx.VlanBlock

open Mxl862xx.VlanRules

def maxVlansArray : Nat := 100

def idxInval : Int := -1

inductive Errno
  | inval
  | nospc
  deriving DecidableEq

/-- `filters_idx[VID_RULES]`. -/
structure FilterIds where
  filter0 : Int := 0
  filter1 : Int := 0
  deriving DecidableEq

/-- `struct mxl862xx_vlan`. -/
structure Vlan where
  used : Bool := false
  vid : Nat := 0
  filtersIdx : FilterIds := {}
  untagged : Bool := false
  deriving DecidableEq

/-- `struct mxl862xx_filter_ids`. -/
structure Recycled where
  filtersIdx : FilterIds := {}
  valid : Bool := false
  deriving DecidableEq

/-- `struct mxl862xx_extended_vlan_block_info`. -/
structure BlockInfo where
  allocated : Bool := false
  vidFiltersIdx : Nat := 0
  finalFiltersIdx : Nat := 0
  filtersMax : Nat := 0
  entriesPerVlan : Nat := 0
  blockId : Nat := 0
  vlans : Nat → Vlan := fun _ => {}
  recycled : Nat → Recycled := fun _ => {}

/-- A block as a rule builder sees it: the driver's records and the switch's rules. -/
structure Block where
  info : BlockInfo
  rules : Nat → Rule

def BlockInfo.setVlan (info : BlockInfo) (idx : Nat) (vlan : Vlan) : BlockInfo :=
  { info with vlans := Function.update info.vlans idx vlan }

def BlockInfo.setRecycled (info : BlockInfo) (x : Nat) (entry : Recycled) : BlockInfo :=
  { info with recycled := Function.update info.recycled x entry }

/-- `MXL862XX_EXTENDEDVLAN_SET`. -/
def Block.set (block : Block) (idx : Nat) (rule : Rule) : Block :=
  { block with rules := Function.update block.rules idx rule }

/-- A rule `back` places before the end, which `final_filters_idx` then points at. -/
def Block.setFinal (block : Block) (back : Nat) (rule : Rule) : Block where
  info := { block.info with finalFiltersIdx := block.info.filtersMax - back }
  rules := Function.update block.rules (block.info.filtersMax - back) rule

/-- `filter >= 0 ? filter : vid_filters_idx++`. -/
def Block.takeIdx (block : Block) (filter : Int) : Block × Nat :=
  if 0 ≤ filter then (block, filter.toNat)
  else ({ block with info := { block.info with vidFiltersIdx := block.info.vidFiltersIdx + 1 } },
    block.info.vidFiltersIdx)

def BlockInfo.findVid (info : BlockInfo) (vid : Nat) : Option Nat :=
  (List.range maxVlansArray).find? fun i => (info.vlans i).vid == vid

def BlockInfo.findUsed (info : BlockInfo) (vid : Nat) : Option Nat :=
  (List.range maxVlansArray).find? fun i => (info.vlans i).vid == vid && (info.vlans i).used

def BlockInfo.findRecycled (info : BlockInfo) : Option Nat :=
  (List.range maxVlansArray).find? fun x => (info.recycled x).valid

def BlockInfo.findUnrecycled (info : BlockInfo) : Option Nat :=
  (List.range maxVlansArray).find? fun x => !(info.recycled x).valid

/-- The search of an empty slot.  When all records are used and `max_vlans` is above
the size of the array, the loop ends behind the array without an error. -/
def freeSlot (maxVlans : Nat) (vlans : Nat → Vlan) : List Nat → Except Errno Nat
  | [] => .ok maxVlansArray
  | i :: rest =>
    if (vlans i).used = false then .ok i
    else if i + 1 = maxVlans then .error .nospc
    else freeSlot maxVlans vlans rest

/-- What `get_vlan_vid_filters_idx` does when the VID's record gives no index.  `known`
is whether `ret` is 0 already. -/
def newFilters (maxVlans : Nat) (known : Bool) (ids : FilterIds) (info : BlockInfo) :
    BlockInfo × Except Errno (FilterIds × Nat) :=
  let taken : BlockInfo × FilterIds × Bool := match info.findRecycled with
    | some x => (info.setRecycled x { info.recycled x with valid := false },
        (info.recycled x).filtersIdx, true)
    | none => (info, ids, known)
  match freeSlot maxVlans taken.1.vlans (List.range maxVlansArray) with
  | .error e => (taken.1, .error e)
  | .ok i =>
    if i < maxVlansArray ∨ taken.2.2 = true then (taken.1, .ok (taken.2.1, i))
    else (taken.1, .error .inval)

def getVlanVidFiltersIdx (maxVlans vid : Nat) (info : BlockInfo) :
    BlockInfo × Except Errno (FilterIds × Nat) :=
  match info.findVid vid with
  | some i =>
    if (info.vlans i).filtersIdx.filter0 < 0 ∧ (info.vlans i).filtersIdx.filter1 < 0 then
      newFilters maxVlans true (info.vlans i).filtersIdx info
    else (info, .ok ((info.vlans i).filtersIdx, i))
  | none => newFilters maxVlans false { filter0 := -1, filter1 := -1 } info

def deactivateVlanFilterEntry (block : Block) (idx : Nat) : Block :=
  block.set idx deactivated

/-! ## The rules of one VLAN

Five builders write two rules for a VID and three write one.  Egress builders also
note whether the VLAN is untagged. -/

def Vlan.record (vlan : Vlan) (ids : FilterIds) (vid : Nat) (untagged : Option Bool) : Vlan where
  used := true
  vid := vid
  filtersIdx := ids
  untagged := untagged.getD vlan.untagged

def writePair (vid : Nat) (untagged : Option Bool) (first second : Rule) (ids : FilterIds)
    (idx : Nat) (block : Block) : Block :=
  let (block, entry0) := block.takeIdx ids.filter0
  let block := block.set entry0 first
  let (block, entry1) := block.takeIdx ids.filter1
  let block := block.set entry1 second
  let ids := { filter0 := entry0, filter1 := entry1 }
  { block with info := block.info.setVlan idx ((block.info.vlans idx).record ids vid untagged) }

def writeSingle (vid : Nat) (untagged : Option Bool) (rule : Rule) (ids : FilterIds)
    (idx : Nat) (block : Block) : Block :=
  let (block, entry) := block.takeIdx ids.filter0
  let block := block.set entry rule
  let ids := { filter0 := entry, filter1 := idxInval }
  { block with info := block.info.setVlan idx ((block.info.vlans idx).record ids vid untagged) }

abbrev Built := Block × Option Errno

/-- `get_vlan_vid_filters_idx`, and what follows when it returns 0. -/
def withFilters (maxVlans vid : Nat) (block : Block)
    (write : FilterIds → Nat → Block → Block) : Built :=
  match getVlanVidFiltersIdx maxVlans vid block.info with
  | (info, .error e) => ({ block with info := info }, some e)
  | (info, .ok (ids, idx)) => (write ids idx { block with info := info }, none)

def untag (untagged : Bool) : RemoveTag := if untagged then .remove1Tag else .notRemoveTag

def untagSpTag (untagged : Bool) : RemoveTag := if untagged then .remove2Tag else .remove1Tag

def prepareVlanEgressFiltersOffSpTagNoVid (block : Block) : Block :=
  let block := block.setFinal 2 (remove (ofType .noFilter) (ofType .noFilter) .remove1Tag)
  block.setFinal 1 (remove (ofType .noFilter) (ofType .noTag) .remove1Tag)

/-- The entry before the last is written twice, the second time over the first. -/
def prepareVlanEgressFiltersOffSpTag (maxVlans vid : Nat) (untagged : Bool) (block : Block) :
    Built :=
  withFilters maxVlans vid block fun ids idx block =>
    let block := writeSingle vid (some untagged)
      (remove (ofType .normal) (ofVid vid) (untagSpTag untagged)) ids idx block
    let block := block.setFinal 2 (remove (ofType .noFilter) (ofType .noFilter) .remove1Tag)
    let block := block.setFinal 2 (remove (ofType .noFilter) (ofType .noTag) .remove1Tag)
    block.setFinal 1 (remove (ofType .noFilter) (ofType .noTag) .remove1Tag)

def prepareVlanEgressFiltersOff (maxVlans vid : Nat) (untagged : Bool) (block : Block) : Built :=
  withFilters maxVlans vid block <| writePair vid (some untagged)
    (remove (ofType .noFilter) (ofVid vid) (untag untagged))
    (remove (ofType .noFilter) { type := .noTag, vidEnable := true, vidVal := vid }
      (untag untagged))

def prepareVlanEgressFilters (maxVlans vid : Nat) (untagged : Bool) (block : Block) : Built :=
  let block := block.setFinal 1 (discard .noTag .noTag)
  let block := block.setFinal 2 (discard .normal .noTag)
  let block := block.setFinal 3 (discard .normal .normal)
  withFilters maxVlans vid block <| writePair vid (some untagged)
    (remove (ofVid vid) (ofType .normal) (untag untagged))
    (remove (ofVid vid) (ofType .noTag) (untag untagged))

def prepareVlanEgressFiltersSpTag (maxVlans vid : Nat) (untagged : Bool) (block : Block) :
    Built :=
  let block := if untagged then block.setFinal 1 (discard .normal .noTag) else block
  let block := block.setFinal 2 (discard .normal .normal)
  let block := block.setFinal 3 (remove (ofType .normal) (ofType .noTag) .remove1Tag)
  withFilters maxVlans vid block <| writeSingle vid (some untagged)
    (remove (ofType .normal) (ofVid vid) (untagSpTag untagged))

def prepareVlanEgressFiltersOffSpTagCpu (block : Block) : Block :=
  let block := block.setFinal 2 (remove (ofType .noFilter) (ofType .noFilter) .notRemoveTag)
  block.setFinal 1 (remove (ofType .noFilter) (ofType .noTag) .notRemoveTag)

/-- An untagged member's inner tag is taken off by removing both tags and pushing the
outer one again. -/
def spTagCpuRule (vid : Nat) (untagged : Bool) : Rule where
  outerVlan := ofType .noFilter
  innerVlan := ofVid vid
  treatment :=
    if untagged then
      { removeTag := .remove2Tag, addOuterVlan := true,
        outerVlan := { vidMode := .outerVid, tpid := .dot1q, priorityMode := .outerPriority,
                       dei := .innerDei } }
    else { removeTag := .notRemoveTag }

def prepareVlanEgressFiltersSpTagCpu (maxVlans vid : Nat) (untagged : Bool) (block : Block) :
    Built :=
  withFilters maxVlans vid block <| writeSingle vid (some untagged) (spTagCpuRule vid untagged)

/-! ## Ingress builders

`spVid` is the standalone VID that `tag_8021q` gives the port. -/

def prepareVlanIngressFiltersOffSpTagNoVid (spVid : Nat) (block : Block) : Block :=
  let block := block.setFinal 3 (push (ofType .noTag) (ofType .noTag) spVid)
  let block := block.setFinal 2 (push (ofType .noFilter) (ofType .noTag) spVid)
  block.setFinal 1 (push (ofType .noFilter) (ofType .noFilter) spVid)

/-- The rule of the PVID is always entry 0 and its record always slot 0. -/
def prepareVlanIngressFiltersOffSpTag (spVid pvid vid : Nat) (block : Block) : Block :=
  let vlan := block.info.vlans 0
  let block :=
    if pvid ≠ 0 then
      let block := block.set 0 (pushBoth (ofType .noTag) (ofType .noTag) spVid pvid)
      let vlan := vlan.record { filter0 := 0, filter1 := idxInval } vid none
      { block with info := block.info.setVlan 0 vlan }
    else
      let block :=
        if vlan.vid ≠ 0 then
          let block := deactivateVlanFilterEntry block vlan.filtersIdx.filter0.toNat
          { block with info := block.info.setVlan 0 { vlan with vid := 0, used := false } }
        else block
      block.setFinal 3 (push (ofType .noTag) (ofType .noTag) spVid)
  let block := block.setFinal 2 (push (ofType .noFilter) (ofType .noTag) spVid)
  block.setFinal 1 (push (ofType .noFilter) (ofType .noFilter) spVid)

/-- Neither the record nor the inventory gets an index: the record keeps what its slot
held, and a recycled pair is dropped.  On the CPU port `final_filters_idx` stays. -/
def prepareVlanIngressFiltersOff (maxVlans pvid vid : Nat) (isCpu : Bool) (block : Block) :
    Built :=
  let rule : Rule :=
    if pvid ≠ 0 then push (ofType .noTag) (ofType .noTag) pvid
    else { outerVlan := ofType .noTag, innerVlan := ofType .noTag }
  let block := if isCpu then block.set (block.info.filtersMax - 1) rule else block.setFinal 1 rule
  withFilters maxVlans vid block fun _ idx block =>
    let vlan := block.info.vlans idx
    { block with info := block.info.setVlan idx (vlan.record vlan.filtersIdx vid none) }

def pvidRule (pvid : Nat) (tagged : Rule) : Rule :=
  if pvid = 0 then discard .noTag .noTag else tagged

/-- The final rules that both ingress builders with filtering share. -/
def ingressFinals (untaggedRule : Rule) (block : Block) : Block :=
  let block := block.setFinal 1 (discard .default .noTag)
  let block := block.setFinal 2 (discard .default .normal)
  let block := block.setFinal 3 untaggedRule
  let block := block.setFinal 4 (discard .normal .noTag)
  block.setFinal 5 (discard .normal .normal)

def prepareVlanIngressFiltersSpTag (maxVlans spVid pvid vid : Nat) (block : Block) : Built :=
  let block := ingressFinals
    (pvidRule pvid (pushBoth (ofType .noTag) (ofType .noTag) spVid pvid)) block
  withFilters maxVlans vid block <| writePair vid none
    (push (ofVid vid) (ofType .normal) spVid) (push (ofVid vid) (ofType .noTag) spVid)

def reassign (outer inner : FilterVlan) (bridgePort : Nat) : Rule where
  outerVlan := outer
  innerVlan := inner
  treatment := { reassignBridgePort := true, newBridgePortId := bridgePort }

/-- On the CPU port's block; the VID is the user port's standalone VID. -/
def prepareVlanIngressFiltersSpTagCpu (maxVlans spVid bridgePortCpu : Nat) (block : Block) :
    Built :=
  withFilters maxVlans spVid block <| writePair spVid none
    (reassign (ofVid spVid) (ofType .normal) bridgePortCpu)
    (reassign (ofVid spVid) (ofType .noTag) bridgePortCpu)

def prepareVlanIngressFilters (maxVlans pvid vid : Nat) (block : Block) : Built :=
  let block := ingressFinals (pvidRule pvid (push (ofType .noTag) (ofType .noTag) pvid)) block
  withFilters maxVlans vid block <| writePair vid none
    (remove (ofVid vid) (ofType .normal) .notRemoveTag)
    (remove (ofVid vid) (ofType .noTag) .notRemoveTag)

/-- The loop over `filters_idx[x]` of a record that goes away. -/
def deactivateRecord (ids : FilterIds) (block : Block) : Block :=
  let block :=
    if ids.filter0 ≠ idxInval then deactivateVlanFilterEntry block ids.filter0.toNat else block
  if ids.filter1 ≠ idxInval then deactivateVlanFilterEntry block ids.filter1.toNat else block

def deactivateFrom (start stop : Nat) (block : Block) : Block :=
  { block with rules := fun k => if start ≤ k ∧ k < stop then deactivated else block.rules k }

/-- `static_rules_cleanup`, reached with `last_vlan` only. -/
def staticRulesCleanup (block : Block) : Block :=
  if block.info.blockId = 0xffff then block
  else
    let block := deactivateFrom block.info.finalFiltersIdx block.info.filtersMax block
    { block with info := { block.info with finalFiltersIdx := block.info.filtersMax - 1 } }

/-- One direction of `mxl862xx_port_vlan_del`.  `last_vlan` is set when the search gets
to the end of the array, so above all when the VLAN is not there. -/
def vlanDelDirection (vid : Nat) (block : Block) : Built :=
  match block.info.findUsed vid with
  | none => (staticRulesCleanup block, none)
  | some i =>
    let ids := (block.info.vlans i).filtersIdx
    let block := deactivateRecord ids block
    let vlan := { block.info.vlans i with vid := 0, used := false }
    match block.info.findUnrecycled with
    | none => ({ block with info := block.info.setVlan i vlan }, some .nospc)
    | some x =>
      let info := block.info.setVlan i
        { vlan with filtersIdx := { filter0 := idxInval, filter1 := idxInval } }
      let block := { block with info := info.setRecycled x { filtersIdx := ids, valid := true } }
      (if i = maxVlansArray - 1 then staticRulesCleanup block else block, none)

/-- The loop of `mxl862xx_deisolate_port` over one block. -/
def clearStaticRules (block : Block) : Block :=
  let block := deactivateFrom block.info.finalFiltersIdx block.info.filtersMax block
  { block with info := { block.info with
      finalFiltersIdx := max block.info.finalFiltersIdx block.info.filtersMax } }

end OpenwrtSource.Mxl862xx.VlanBlock
