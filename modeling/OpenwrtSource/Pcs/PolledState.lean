import OpenwrtSource.Pcs.LinkPoll

/-!
# A polled state against a decoded one

`get_state` used to decode the registers into phylink's state itself.  Now `link_poll`
decodes them into a copy of the cache, `store` takes four fields and the link of that to
the cache, and `load` takes them on to phylink.  What the decode writes to `pause` and
`lp_advertising` goes no further than the copy.
-/

namespace OpenwrtSource.Pcs.PolledState

open Pcs.LinkPoll (PhyInterface)

variable {Adv : Type}

/-- `struct phylink_link_state`. -/
structure LinkState (Adv : Type) where
  advertising : Adv
  lpAdvertising : Adv
  interface : PhyInterface
  speed : Int
  duplex : Int
  pause : Int
  link : Bool
  anComplete : Bool

/-- `struct mtk_pcs_lynxi`, without what only its lock and its accesses are about. -/
structure Mpcs (Adv : Type) where
  interface : PhyInterface
  negMode : Int
  poll : Bool
  state : LinkState Adv

structure Regs where
  pcsControl1 : BitVec 32
  pcsAdvertise : BitVec 32

/-- `FIELD_GET(SGMII_BMSR, bm)`. -/
def Regs.bmsr (regs : Regs) : BitVec 16 := regs.pcsControl1.extractLsb' 16 16

/-- `FIELD_GET(SGMII_LPA, adv)`. -/
def Regs.lpa (regs : Regs) : BitVec 16 := regs.pcsAdvertise.extractLsb' 16 16

/-- `mtk_pcs_lynxi_link_status`. -/
def linkStatus (regs : Regs) : Bool := regs.pcsControl1.getLsbD 18

/-- `mtk_pcs_lynxi_store_mpcs_state`. -/
def storeMpcsState (mpcs : Mpcs Adv) (state : LinkState Adv) : Mpcs Adv :=
  { mpcs with
    state := { mpcs.state with
      speed := state.speed
      duplex := state.duplex
      interface := state.interface
      anComplete := state.anComplete
      link := state.link } }

/-- `mtk_pcs_lynxi_load_mpcs_state`. -/
def loadMpcsState (mpcs : Mpcs Adv) (state : LinkState Adv) : LinkState Adv :=
  if mpcs.state.interface = .na then { state with link := false }
  else
    { state with
      link := mpcs.state.link
      speed := mpcs.state.speed
      duplex := mpcs.state.duplex
      interface := mpcs.state.interface
      anComplete := mpcs.state.anComplete }

section Driver

variable (linkmodeEmpty : Adv → Bool)
  (decodeState : LinkState Adv → Int → BitVec 16 → BitVec 16 → LinkState Adv)

/-- `mtk_pcs_lynxi_update_state`, of registers that can be read. -/
def updateState (regs : Regs) (mpcs : Mpcs Adv) : Mpcs Adv :=
  let state := mpcs.state
  if linkmodeEmpty state.advertising then mpcs
  else
    let state := decodeState state mpcs.negMode regs.bmsr regs.lpa
    let state := { state with interface := mpcs.interface }
    storeMpcsState mpcs state

/-- `mtk_pcs_lynxi_get_state`: the PCS and phylink's state behind it. -/
def getState (mpcs : Mpcs Adv) (state : LinkState Adv) : Mpcs Adv × LinkState Adv :=
  let mpcs := { mpcs with
    state := { mpcs.state with
      advertising := state.advertising
      lpAdvertising := state.lpAdvertising } }
  (mpcs, loadMpcsState mpcs state)

def polled : List PhyInterface := [.sgmii, .base1000x, .base2500x]

/-- `mtk_pcs_lynxi_link_poll`; the `config` behind a link that is down sets the mode that is
set already. -/
def linkPoll (regs : Regs) (mpcs : Mpcs Adv) : Mpcs Adv :=
  if mpcs.interface ∉ polled ∨ mpcs.poll = false then mpcs
  else if linkStatus regs then updateState linkmodeEmpty decodeState regs mpcs
  else { mpcs with state := { mpcs.state with link := false } }

/-- `get_state`, `link_poll` and `get_state` again, with the state as phylink prepares it for
each of the two. -/
def polledState (regs : Regs) (mpcs : Mpcs Adv) (state : LinkState Adv) : LinkState Adv :=
  let mpcs := (getState mpcs state).1
  let mpcs := linkPoll linkmodeEmpty decodeState regs mpcs
  (getState mpcs state).2

end Driver

/-- The same link, speed, duplex and end of the autonegotiation. -/
structure SameLink (a b : LinkState Adv) : Prop where
  link : a.link = b.link
  speed : a.speed = b.speed
  duplex : a.duplex = b.duplex
  anComplete : a.anComplete = b.anComplete

/-- The same of everything that the decode may write. -/
structure SameState (a b : LinkState Adv) : Prop extends SameLink a b where
  pause : a.pause = b.pause
  lpAdvertising : a.lpAdvertising = b.lpAdvertising

theorem SameLink.symm {a b : LinkState Adv} (same : SameLink a b) : SameLink b a :=
  ⟨same.link.symm, same.speed.symm, same.duplex.symm, same.anComplete.symm⟩

theorem SameLink.trans {a b c : LinkState Adv} (first : SameLink a b) (second : SameLink b c) :
    SameLink a c :=
  ⟨first.link.trans second.link, first.speed.trans second.speed,
    first.duplex.trans second.duplex, first.anComplete.trans second.anComplete⟩

/-- `link_poll` gets to decode. -/
def Decodes (linkmodeEmpty : Adv → Bool) (mpcs : Mpcs Adv) (state : LinkState Adv) : Prop :=
  mpcs.interface ∈ polled ∧ mpcs.poll = true ∧ linkmodeEmpty state.advertising = false

instance (linkmodeEmpty : Adv → Bool) (mpcs : Mpcs Adv) (state : LinkState Adv) :
    Decidable (Decodes linkmodeEmpty mpcs state) :=
  inferInstanceAs (Decidable (_ ∧ _))

/-- The copy that `link_poll` decodes into: the cache with phylink's advertisements. -/
def cachedCopy (mpcs : Mpcs Adv) (state : LinkState Adv) : LinkState Adv :=
  { mpcs.state with
    advertising := state.advertising
    lpAdvertising := state.lpAdvertising }

/-- The decode writes no more than is passed on, and comes to the same for the cached copy as for
phylink's state; where `link_poll` does not decode, the cache has what a decode gives. -/
structure PassedOn (linkmodeEmpty : Adv → Bool) (mpcs : Mpcs Adv)
    (decode : LinkState Adv → LinkState Adv) (state : LinkState Adv) : Prop where
  pause : (decode state).pause = state.pause
  lpAdvertising : (decode state).lpAdvertising = state.lpAdvertising
  decoded : Decodes linkmodeEmpty mpcs state →
    SameLink (decode (cachedCopy mpcs state)) (decode state)
  cached : ¬ Decodes linkmodeEmpty mpcs state → mpcs.state.interface ≠ .na →
    SameLink mpcs.state (decode state)
  uncached : ¬ Decodes linkmodeEmpty mpcs state → mpcs.state.interface = .na →
    SameLink { state with link := false } (decode state)

section

variable (linkmodeEmpty : Adv → Bool)
  (decodeState : LinkState Adv → Int → BitVec 16 → BitVec 16 → LinkState Adv)
  {regs : Regs} (mpcs : Mpcs Adv) (state : LinkState Adv)

theorem loadMpcsState_kept :
    (loadMpcsState mpcs state).pause = state.pause ∧
      (loadMpcsState mpcs state).lpAdvertising = state.lpAdvertising := by
  unfold loadMpcsState
  split
  · exact ⟨rfl, rfl⟩
  · exact ⟨rfl, rfl⟩

theorem sameLink_load (known : mpcs.state.interface ≠ .na) :
    SameLink (loadMpcsState mpcs state) mpcs.state := by
  rw [loadMpcsState, if_neg known]
  exact ⟨rfl, rfl, rfl, rfl⟩

theorem sameLink_load_na (unknown : mpcs.state.interface = .na) :
    SameLink (loadMpcsState mpcs state) { state with link := false } := by
  rw [loadMpcsState, if_pos unknown]
  exact ⟨rfl, rfl, rfl, rfl⟩

/-- What `link_poll` stores of the decoded copy. -/
def stored (regs : Regs) : Mpcs Adv :=
  storeMpcsState (getState mpcs state).1
    { decodeState (cachedCopy mpcs state) mpcs.negMode regs.bmsr regs.lpa with
      interface := mpcs.interface }

theorem linkPoll_of_decodes (up : linkStatus regs = true)
    (decodes : Decodes linkmodeEmpty mpcs state) :
    linkPoll linkmodeEmpty decodeState regs (getState mpcs state).1 =
      stored decodeState mpcs state regs := by
  obtain ⟨served, on, some⟩ := decodes
  have goes : ¬ ((getState mpcs state).1.interface ∉ polled ∨
      (getState mpcs state).1.poll = false) := by
    rintro (other | off)
    · exact other served
    · exact Bool.false_ne_true (off.symm.trans on)
  have advertises : ¬ linkmodeEmpty (getState mpcs state).1.state.advertising = true := by
    show ¬ linkmodeEmpty state.advertising = true
    rw [some]
    exact Bool.false_ne_true
  rw [linkPoll, if_neg goes, if_pos up, updateState, if_neg advertises]
  rfl

theorem linkPoll_of_not_decodes (up : linkStatus regs = true)
    (skips : ¬ Decodes linkmodeEmpty mpcs state) :
    linkPoll linkmodeEmpty decodeState regs (getState mpcs state).1 = (getState mpcs state).1 := by
  by_cases goes : (getState mpcs state).1.interface ∉ polled ∨
      (getState mpcs state).1.poll = false
  · exact if_pos goes
  · rw [linkPoll, if_neg goes, if_pos up, updateState, if_pos]
    by_contra some
    obtain ⟨served, on⟩ := not_or.mp goes
    exact skips
      ⟨not_not.mp served, (Bool.not_eq_false _).mp on, Bool.eq_false_of_not_eq_true some⟩

theorem polledState_kept (regs : Regs) :
    (polledState linkmodeEmpty decodeState regs mpcs state).pause = state.pause ∧
      (polledState linkmodeEmpty decodeState regs mpcs state).lpAdvertising =
        state.lpAdvertising :=
  loadMpcsState_kept _ _

theorem sameLink_of_decodes (up : linkStatus regs = true)
    (decodes : Decodes linkmodeEmpty mpcs state) :
    SameLink (polledState linkmodeEmpty decodeState regs mpcs state)
      (decodeState (cachedCopy mpcs state) mpcs.negMode regs.bmsr regs.lpa) := by
  have known : mpcs.interface ≠ .na := by
    intro unknown
    have served := decodes.1
    rw [unknown] at served
    exact absurd served (by decide)
  have loaded : polledState linkmodeEmpty decodeState regs mpcs state =
      loadMpcsState (getState (stored decodeState mpcs state regs) state).1 state := by
    rw [← linkPoll_of_decodes linkmodeEmpty decodeState mpcs state up decodes]
    rfl
  have same := sameLink_load (getState (stored decodeState mpcs state regs) state).1 state known
  rw [loaded]
  exact ⟨same.link, same.speed, same.duplex, same.anComplete⟩

theorem polledState_of_not_decodes (up : linkStatus regs = true)
    (skips : ¬ Decodes linkmodeEmpty mpcs state) :
    polledState linkmodeEmpty decodeState regs mpcs state =
      loadMpcsState (getState (getState mpcs state).1 state).1 state := by
  rw [← linkPoll_of_not_decodes linkmodeEmpty decodeState mpcs state up skips]
  rfl

theorem sameLink_of_not_decodes (up : linkStatus regs = true)
    (skips : ¬ Decodes linkmodeEmpty mpcs state) (known : mpcs.state.interface ≠ .na) :
    SameLink (polledState linkmodeEmpty decodeState regs mpcs state) mpcs.state := by
  rw [polledState_of_not_decodes linkmodeEmpty decodeState mpcs state up skips]
  have same := sameLink_load (getState (getState mpcs state).1 state).1 state known
  exact ⟨same.link, same.speed, same.duplex, same.anComplete⟩

theorem sameLink_of_unknown (up : linkStatus regs = true)
    (skips : ¬ Decodes linkmodeEmpty mpcs state) (unknown : mpcs.state.interface = .na) :
    SameLink (polledState linkmodeEmpty decodeState regs mpcs state)
      { state with link := false } := by
  rw [polledState_of_not_decodes linkmodeEmpty decodeState mpcs state up skips]
  exact sameLink_load_na (getState (getState mpcs state).1 state).1 state unknown

/-- With the link up, the second `get_state` gives what the decode of phylink's state gives
exactly when all that the decode writes is passed on. -/
theorem polledState_same_iff (regs : Regs) (up : linkStatus regs = true) :
    SameState (polledState linkmodeEmpty decodeState regs mpcs state)
        (decodeState state mpcs.negMode regs.bmsr regs.lpa) ↔
      PassedOn linkmodeEmpty mpcs
        (fun state => decodeState state mpcs.negMode regs.bmsr regs.lpa) state := by
  obtain ⟨pause, lpAdvertising⟩ := polledState_kept linkmodeEmpty decodeState mpcs state regs
  have decoded := sameLink_of_decodes linkmodeEmpty decodeState mpcs state up
  have cached := sameLink_of_not_decodes linkmodeEmpty decodeState mpcs state up
  have uncached := sameLink_of_unknown linkmodeEmpty decodeState mpcs state up
  constructor
  · intro same
    refine ⟨?_, ?_, ?_, ?_, ?_⟩
    · rw [← pause, same.pause]
    · rw [← lpAdvertising, same.lpAdvertising]
    · exact fun decodes => (decoded decodes).symm.trans same.toSameLink
    · exact fun skips known => (cached skips known).symm.trans same.toSameLink
    · exact fun skips unknown => (uncached skips unknown).symm.trans same.toSameLink
  · intro passed
    refine ⟨?_, ?_, ?_⟩
    · by_cases decodes : Decodes linkmodeEmpty mpcs state
      · exact (decoded decodes).trans (passed.decoded decodes)
      · by_cases unknown : mpcs.state.interface = .na
        · exact (uncached decodes unknown).trans (passed.uncached decodes unknown)
        · exact (cached decodes unknown).trans (passed.cached decodes unknown)
    · rw [pause, passed.pause]
    · rw [lpAdvertising, passed.lpAdvertising]

end

/-- `linkStatus` of it is set, and the autonegotiation complete. -/
def upRegs : Regs := ⟨0x00240000, 0x98000000⟩

/-- The PCS behind its first `config`. -/
def configuredAs (interface : PhyInterface) : Mpcs Bool where
  interface := interface
  negMode := 0x50
  poll := true
  state := ⟨false, false, .na, 0, 0, 0, false, false⟩

/-- What phylink prepares: something advertised, nothing known of the link. -/
def prepared (interface : PhyInterface) : LinkState Bool :=
  ⟨true, false, interface, -1, 255, 0, true, false⟩

def decodeSgmii (state : LinkState Bool) (_ : Int) (bmsr lpa : BitVec 16) : LinkState Bool :=
  { state with
    link := bmsr.getLsbD 2
    anComplete := bmsr.getLsbD 5
    speed := if lpa.extractLsb' 10 2 = 2 then 1000 else 100
    duplex := if lpa.getLsbD 12 then 1 else 0 }

/-- The decode of a 1000BASE-X word, which has the partner's advertisement and a pause mode. -/
def decodeBaseX (state : LinkState Bool) (negMode : Int) (bmsr lpa : BitVec 16) :
    LinkState Bool :=
  { decodeSgmii state negMode bmsr lpa with
    speed := 1000
    duplex := 1
    lpAdvertising := true
    pause := 3 }

theorem polledState_same_iff_sgmii :
    SameState (polledState (fun advertising => !advertising) decodeSgmii upRegs
        (configuredAs .sgmii) (prepared .sgmii))
      (decodeSgmii (prepared .sgmii) 0x50 upRegs.bmsr upRegs.lpa) := by
  have decodes : Decodes (fun advertising => !advertising) (configuredAs .sgmii)
      (prepared .sgmii) := by decide
  refine (polledState_same_iff (fun advertising => !advertising) decodeSgmii
    (configuredAs .sgmii) (prepared .sgmii) upRegs (by decide)).mpr ⟨rfl, rfl, ?_, ?_, ?_⟩
  · exact fun _ => ⟨rfl, rfl, rfl, rfl⟩
  · exact fun skips => absurd decodes skips
  · exact fun skips => absurd decodes skips

/-- Of a 1000BASE-X link the pause mode is not passed on. -/
theorem pause_not_passed_on :
    ¬ ∀ (decodeState : LinkState Bool → Int → BitVec 16 → BitVec 16 → LinkState Bool)
      (mpcs : Mpcs Bool) (state : LinkState Bool),
      SameState (polledState (fun advertising => !advertising) decodeState upRegs mpcs state)
        (decodeState state mpcs.negMode upRegs.bmsr upRegs.lpa) := by
  intro always
  have same := (always decodeBaseX (configuredAs .base1000x) (prepared .base1000x)).pause
  exact absurd same (by decide)

end OpenwrtSource.Pcs.PolledState
