import OpenwrtSource.Lib.Run
import Mathlib.Data.List.Chain

/-!
# The passive multiplexer of a SerDes path

A poll compares the channel that the SFP cage asks for with the active one.  A
switch stops the device, replaces the `phylink` of the MAC, opens the device again
and turns the GPIO.  It holds the rtnl lock for the stop and for the open only, so
the device may be opened and stopped between its steps.
-/

namespace OpenwrtSource.EthMux.Switching

open Lib.Run

def MTK_MUX_CHANNELS_MAX : Nat := 2

/-- The node of the device tree: its channels are those that `mtk_add_mux_channel` takes. -/
structure Node where
  sfpConnectedChannel : Nat
  valid : sfpConnectedChannel < MTK_MUX_CHANNELS_MAX

inductive Call
  | stop
  | open
  deriving DecidableEq, Repr

/-- What a poll does next, and the channel it switches to. -/
inductive Phase
  | idle
  | stopping (channel : Nat)
  | destroying (channel : Nat)
  | creating (channel : Nat)
  | opening (channel : Nat)
  deriving DecidableEq, Repr

structure State where
  /-- the value of `mod_def0_gpio` -/
  sfpConnected : Bool
  running : Bool
  /-- the last call of `mtk_open` and `mtk_stop`, whoever made it, was `mtk_open` -/
  opened : Bool
  /-- the channel that `mac->phylink` was created for -/
  phylink : Option Nat
  activeChannel : Nat
  /-- the level of `chan_sel_gpio` -/
  chanSel : Nat
  phase : Phase
  /-- the calls that the mux has made, the last one first -/
  calls : List Call
  /-- a phylink that is not there has been dereferenced, under the rtnl lock -/
  faulted : Bool
  deriving DecidableEq, Repr

inductive Event
  | insert
  | remove
  | ndoOpen
  | ndoStop
  /-- the mux goes on to its next step; the argument is the success of `phylink_create` -/
  | mux (created : Bool)
  deriving DecidableEq, Repr

def cNot (x : Nat) : Nat := if x = 0 then 1 else 0

/-- `gpiod_set_value_cansleep` takes every value but zero as one. -/
def level (x : Nat) : Nat := if x = 0 then 0 else 1

def mtkStop (s : State) : State :=
  if s.phylink = none then { s with faulted := true } else { s with opened := false }

def mtkOpen (s : State) : State :=
  if s.phylink = none then { s with faulted := true } else { s with opened := true }

def newChannel (node : Node) (s : State) : Nat :=
  if s.sfpConnected then node.sfpConnectedChannel else cNot node.sfpConnectedChannel

/-- `mux_poll` up to the call of `mtk_mux_switch_channel`. -/
def muxPoll (node : Node) (s : State) : State :=
  if s.activeChannel = newChannel node s ∨ s.running = false then s
  else { s with phase := .stopping (newChannel node s) }

def mtkMuxCreatePhylink (channel : Nat) (created : Bool) (s : State) : State × Bool :=
  if created then ({ s with phylink := some channel }, true) else (s, false)

def mtkMuxDestroyPhylink (s : State) : State := { s with phylink := none }

/-- One step of `mtk_mux_switch_channel`, or of the poll around it. -/
def mtkMux (node : Node) (created : Bool) (s : State) : State :=
  match s.phase with
  | .idle => muxPoll node s
  | .stopping channel =>
    mtkStop { s with calls := .stop :: s.calls, phase := .destroying channel }
  | .destroying channel => mtkMuxDestroyPhylink { s with phase := .creating channel }
  | .creating channel =>
    let result := mtkMuxCreatePhylink channel created s
    if result.2 then { result.1 with phase := .opening channel }
    else { result.1 with phase := .idle }
  | .opening channel =>
    mtkOpen { s with calls := .open :: s.calls, phase := .idle, chanSel := level channel,
                     activeChannel := channel }

def step (node : Node) (s : State) (event : Event) : State :=
  if s.faulted then s
  else
    match event with
    | .insert => { s with sfpConnected := true }
    | .remove => { s with sfpConnected := false }
    | .ndoOpen => if s.running then s else mtkOpen { s with running := true }
    | .ndoStop => if s.running then mtkStop { s with running := false } else s
    | .mux created => mtkMux node created s

/-- `mtk_add_mux`: the default is the channel of the 10G PHY, for which the node of the
MAC has its phylink. -/
def start (node : Node) (sfpConnected : Bool) : State where
  sfpConnected := sfpConnected
  running := false
  opened := false
  phylink := some (cNot node.sfpConnectedChannel)
  activeChannel := cNot node.sfpConnectedChannel
  chanSel := level (cNot node.sfpConnectedChannel)
  phase := .idle
  calls := []
  faulted := false

/-- Between polls the three records of the channel agree, a running device is open, and
the calls of the mux alternate up to an open; at no time has a missing phylink been used. -/
structure Consistent (s : State) : Prop where
  phylink : s.phase = .idle → s.phylink = some s.activeChannel
  gpio : s.phase = .idle → s.chanSel = s.activeChannel
  running : s.phase = .idle → s.running = true → s.opened = true
  alternate : s.calls.IsChain (· ≠ ·)
  reopened : s.phase = .idle → s.calls.head? ≠ some .stop
  sound : s.faulted = false

/-- The step at which `phylink_create` fails. -/
def CreationFails (s : State) : Event → Prop
  | .mux created => (∃ channel, s.phase = .creating channel) ∧ created = false
  | _ => False

/-- A failed switch ends with the channel in use that was active before it. -/
def Meets (node : Node) (s : State) (event : Event) : Prop :=
  Consistent (step node s event) ∧
    (CreationFails s event → (step node s event).phase = .idle ∧
      (step node s event).phylink = some s.activeChannel ∧
      (step node s event).activeChannel = s.activeChannel)

/-- No `phylink_create` fails, and the device is neither opened nor stopped while a switch
has destroyed the old phylink and not yet created the new one. -/
def Spared (s : State) : Event → Prop
  | .mux created => (∃ channel, s.phase = .creating channel) → created = true
  | .ndoOpen => s.running = false → ∀ channel, s.phase ≠ .creating channel
  | .ndoStop => s.running = true → ∀ channel, s.phase ≠ .creating channel
  | _ => True

/-- What each phase has done so far to the phylink and with the calls. -/
def Place (s : State) : Prop :=
  match s.phase with
  | .idle => s.phylink = some s.activeChannel ∧ (s.running = true → s.opened = true) ∧
      s.calls.head? ≠ some .stop
  | .stopping channel => channel < MTK_MUX_CHANNELS_MAX ∧ s.phylink = some s.activeChannel ∧
      (s.running = true → s.opened = true) ∧ s.calls.head? ≠ some .stop
  | .destroying channel => channel < MTK_MUX_CHANNELS_MAX ∧ s.phylink = some s.activeChannel ∧
      s.calls.head? = some .stop
  | .creating channel => channel < MTK_MUX_CHANNELS_MAX ∧ s.phylink = none ∧
      s.calls.head? = some .stop
  | .opening channel => channel < MTK_MUX_CHANNELS_MAX ∧ s.phylink = some channel ∧
      s.calls.head? = some .stop

structure Inv (s : State) : Prop where
  sound : s.faulted = false
  gpio : s.chanSel = s.activeChannel
  alternate : s.calls.IsChain (· ≠ ·)
  place : Place s

theorem cNot_lt (x : Nat) : cNot x < MTK_MUX_CHANNELS_MAX := by
  unfold cNot
  split
  · decide
  · decide

theorem level_eq (x : Nat) (valid : x < MTK_MUX_CHANNELS_MAX) : level x = x := by
  unfold level MTK_MUX_CHANNELS_MAX at *
  split
  · omega
  · omega

theorem newChannel_lt (node : Node) (s : State) : newChannel node s < MTK_MUX_CHANNELS_MAX := by
  unfold newChannel
  split
  · exact node.valid
  · exact cNot_lt _

theorem inv_start (node : Node) (sfpConnected : Bool) : Inv (start node sfpConnected) := by
  refine ⟨rfl, level_eq _ (cNot_lt _), List.isChain_nil, rfl, ?_, ?_⟩
  · intro running
    exact nomatch running
  · exact nofun

variable {s : State} {node : Node} {event : Event}

theorem Inv.consistent (inv : Inv s) : Consistent s := by
  have idle : s.phase = .idle → s.phylink = some s.activeChannel ∧
      (s.running = true → s.opened = true) ∧ s.calls.head? ≠ some .stop := by
    intro isIdle
    have place := inv.place
    unfold Place at place
    rwa [isIdle] at place
  exact ⟨fun isIdle => (idle isIdle).1, fun _ => inv.gpio, fun isIdle => (idle isIdle).2.1,
    inv.alternate, fun isIdle => (idle isIdle).2.2, inv.sound⟩

theorem Place.phylink (place : Place s) (present : ∀ channel, s.phase ≠ .creating channel) :
    s.phylink ≠ none := by
  unfold Place at place
  cases phase : s.phase with
  | idle =>
    rw [phase] at place
    simp [place.1]
  | stopping channel =>
    rw [phase] at place
    simp [place.2.1]
  | destroying channel =>
    rw [phase] at place
    simp [place.2.1]
  | creating channel => exact absurd phase (present channel)
  | opening channel =>
    rw [phase] at place
    simp [place.2.1]

theorem Inv.ndoOpen (inv : Inv s) (present : ∀ channel, s.phase ≠ .creating channel) :
    Inv (mtkOpen { s with running := true }) := by
  have phylink := inv.place.phylink present
  rw [mtkOpen, if_neg phylink]
  refine ⟨inv.sound, inv.gpio, inv.alternate, ?_⟩
  have place := inv.place
  unfold Place at place ⊢
  cases phase : s.phase with
  | idle =>
    simp only [phase] at place ⊢
    exact ⟨place.1, fun _ => trivial, place.2.2⟩
  | stopping channel =>
    simp only [phase] at place ⊢
    exact ⟨place.1, place.2.1, fun _ => trivial, place.2.2.2⟩
  | destroying channel => simpa only [phase] using place
  | creating channel => simpa only [phase] using place
  | opening channel => simpa only [phase] using place

theorem Inv.ndoStop (inv : Inv s) (present : ∀ channel, s.phase ≠ .creating channel) :
    Inv (mtkStop { s with running := false }) := by
  have phylink := inv.place.phylink present
  rw [mtkStop, if_neg phylink]
  refine ⟨inv.sound, inv.gpio, inv.alternate, ?_⟩
  have place := inv.place
  unfold Place at place ⊢
  cases phase : s.phase with
  | idle =>
    simp only [phase] at place ⊢
    exact ⟨place.1, nofun, place.2.2⟩
  | stopping channel =>
    simp only [phase] at place ⊢
    exact ⟨place.1, place.2.1, nofun, place.2.2.2⟩
  | destroying channel => simpa only [phase] using place
  | creating channel => simpa only [phase] using place
  | opening channel => simpa only [phase] using place

theorem Inv.mux {created : Bool} (inv : Inv s)
    (creates : (∃ channel, s.phase = .creating channel) → created = true) :
    Inv (mtkMux node created s) := by
  have place := inv.place
  unfold Place at place
  unfold mtkMux
  cases phase : s.phase with
  | idle =>
    simp only [phase] at place ⊢
    unfold muxPoll
    split
    · exact inv
    · exact ⟨inv.sound, inv.gpio, inv.alternate, newChannel_lt node s, place⟩
  | stopping channel =>
    simp only [phase] at place ⊢
    obtain ⟨valid, phylink, -, reopened⟩ := place
    have present : s.phylink ≠ none := by simp [phylink]
    rw [mtkStop, if_neg present]
    refine ⟨inv.sound, inv.gpio, ?_, valid, phylink, rfl⟩
    rw [List.isChain_cons]
    refine ⟨?_, inv.alternate⟩
    rintro call isHead rfl
    exact reopened isHead
  | destroying channel =>
    simp only [phase] at place ⊢
    obtain ⟨valid, -, stopped⟩ := place
    exact ⟨inv.sound, inv.gpio, inv.alternate, valid, rfl, stopped⟩
  | creating channel =>
    simp only [phase] at place ⊢
    obtain ⟨valid, -, stopped⟩ := place
    have succeeds := creates ⟨channel, phase⟩
    simp only [mtkMuxCreatePhylink, succeeds, if_true]
    exact ⟨inv.sound, inv.gpio, inv.alternate, valid, rfl, stopped⟩
  | opening channel =>
    simp only [phase] at place ⊢
    obtain ⟨valid, phylink, stopped⟩ := place
    have present : s.phylink ≠ none := by simp [phylink]
    rw [mtkOpen, if_neg present]
    refine ⟨inv.sound, level_eq channel valid, ?_, phylink, fun _ => rfl, nofun⟩
    rw [List.isChain_cons]
    refine ⟨?_, inv.alternate⟩
    intro call isHead
    rw [stopped] at isHead
    cases isHead
    exact nofun

theorem Inv.step (inv : Inv s) (spared : Spared s event) : Inv (step node s event) := by
  rw [Switching.step.eq_def, if_neg (by simp [inv.sound])]
  cases event with
  | insert => exact ⟨inv.sound, inv.gpio, inv.alternate, inv.place⟩
  | remove => exact ⟨inv.sound, inv.gpio, inv.alternate, inv.place⟩
  | ndoOpen =>
    cases running : s.running with
    | true => simpa [running] using inv
    | false => simpa [running] using inv.ndoOpen (spared running)
  | ndoStop =>
    cases running : s.running with
    | true => simpa [running] using inv.ndoStop (spared running)
    | false => simpa [running] using inv
  | mux created => exact inv.mux spared

theorem meets_of_spared (inv : Inv s) (spared : Spared s event) : Meets node s event := by
  refine ⟨(inv.step spared).consistent, fun fails => ?_⟩
  cases event with
  | mux created =>
    obtain ⟨creating, failed⟩ := fails
    exact absurd (spared creating) (by simp [failed])
  | insert => exact fails.elim
  | remove => exact fails.elim
  | ndoOpen => exact fails.elim
  | ndoStop => exact fails.elim

theorem Inv.creating {channel : Nat} (inv : Inv s) (creating : s.phase = .creating channel) :
    s.phylink = none := by
  have place := inv.place
  unfold Place at place
  rw [creating] at place
  exact place.2.1

theorem not_meets_of_not_spared (inv : Inv s) (unspared : ¬ Spared s event) :
    ¬ Meets node s event := by
  intro meets
  have consistent := meets.1
  rw [Switching.step.eq_def, if_neg (by simp [inv.sound])] at consistent
  cases event with
  | insert => exact unspared trivial
  | remove => exact unspared trivial
  | ndoOpen =>
    simp only [Spared, not_forall, not_not] at unspared
    obtain ⟨stopped, channel, creating⟩ := unspared
    have sound := consistent.sound
    simp [stopped, mtkOpen, inv.creating creating] at sound
  | ndoStop =>
    simp only [Spared, not_forall, not_not] at unspared
    obtain ⟨running, channel, creating⟩ := unspared
    have sound := consistent.sound
    simp [running, mtkStop, inv.creating creating] at sound
  | mux created =>
    simp only [Spared, not_forall] at unspared
    obtain ⟨⟨channel, creating⟩, failed⟩ := unspared
    have kept := consistent.phylink
    simp [mtkMux, creating, mtkMuxCreatePhylink, failed, inv.creating creating] at kept

/-- In every run of insertions, removals, opens, stops and steps of the polls, from the
start on: all steps keep the mux consistent just when all are spared. -/
theorem meets_iff_spared (node : Node) (sfpConnected : Bool) (events : List Event) :
    Consistent (start node sfpConnected) ∧
        Along (step node) (Meets node) (start node sfpConnected) events ↔
      Along (step node) Spared (start node sfpConnected) events := by
  have initially := inv_start node sfpConnected
  rw [and_iff_right initially.consistent]
  exact along_iff_along (step node) Spared (Meets node) Inv
    (fun s event inv spared => inv.step spared) (fun s event => meets_of_spared)
    (fun s event => not_meets_of_not_spared) _ events initially

/-- A module is inserted while the device runs, and the creation of its phylink fails. -/
theorem failed_switch_strands :
    ¬ (Consistent (start { sfpConnectedChannel := 1, valid := by decide } false) ∧
      Along (step { sfpConnectedChannel := 1, valid := by decide })
        (Meets { sfpConnectedChannel := 1, valid := by decide })
        (start { sfpConnectedChannel := 1, valid := by decide } false)
        [.ndoOpen, .insert, .mux true, .mux true, .mux true, .mux false]) := by
  intro ⟨_, along⟩
  obtain ⟨-, -, -, -, -, last, -⟩ := along
  exact nomatch last.1.phylink rfl

end OpenwrtSource.EthMux.Switching
