import Mathlib.Order.Bounds.Basic
import OpenwrtSource.Lib.Run

/-!
# The RX buffer length

`mtk_change_mtu` stores the new MTU, takes the greatest MTU of all ports and sets the
buffer length from it.  The length is tested against the limit of an XDP program after
the MTU has been stored.
-/

namespace OpenwrtSource.EthRings.RxBuffer

open Lib.Run

/-- `VLAN_ETH_HLEN + VLAN_HLEN + ETH_FCS_LEN`. -/
def MTK_RX_ETH_HLEN : Nat := 26
def MTK_MAX_RX_LENGTH : Nat := 1536
def MTK_MAX_RX_LENGTH_UNIT : Nat := 1024
def EINVAL : Int := 22

variable {Port : Type} [DecidableEq Port]

/-- The MTUs of the ports that exist.  The network core lets pass no MTU above a port's
`max_mtu`, so that the sums stay far below the limits of `int`. -/
structure Eth (Port : Type) where
  mtu : Port → Nat
  rxBufLen : Nat

/-- What is not in the sources at hand: the limit for XDP and `mtk_max_gmac_mtu`. -/
structure Kernel (Port : Type) where
  mtkPpMaxBufSize : Nat
  mtkMaxGmacMtu : (Port → Nat) → Nat

/-- A call, with the program and the DMA as it meets them. -/
structure Call (Port : Type) where
  dev : Port
  newMtu : Nat
  prog : Bool
  dmaRefcnt : Nat

structure Done (Port : Type) where
  ret : Int
  restart : Bool
  eth : Eth Port

def divRoundUp (n unit : Nat) : Nat := (n + unit - 1) / unit

/-- The buffer length for frames of `length` bytes. -/
def bufLenFor (length : Nat) : Nat :=
  if length ≤ MTK_MAX_RX_LENGTH then MTK_MAX_RX_LENGTH
  else divRoundUp length MTK_MAX_RX_LENGTH_UNIT * MTK_MAX_RX_LENGTH_UNIT

def mtkChangeMtu (kernel : Kernel Port) (eth : Eth Port) (call : Call Port) : Done Port :=
  let stored := { eth with mtu := Function.update eth.mtu call.dev call.newMtu }
  let length := kernel.mtkMaxGmacMtu stored.mtu + MTK_RX_ETH_HLEN
  if call.prog ∧ length > kernel.mtkPpMaxBufSize then ⟨-EINVAL, false, stored⟩
  else
    let changed := { stored with rxBufLen := bufLenFor length }
    ⟨0, decide (changed.rxBufLen ≠ eth.rxBufLen ∧ call.dmaRefcnt > 0), changed⟩

def step (kernel : Kernel Port) (eth : Eth Port) (call : Call Port) : Eth Port :=
  (mtkChangeMtu kernel eth call).eth

def IsMaxMtu (kernel : Kernel Port) : Prop :=
  ∀ mtu, IsGreatest (Set.range mtu) (kernel.mtkMaxGmacMtu mtu)

/-- The buffers have room for the frames of every port. -/
structure Covers (eth : Eth Port) : Prop where
  ports : ∀ port, eth.mtu port + MTK_RX_ETH_HLEN ≤ eth.rxBufLen
  least : MTK_MAX_RX_LENGTH ≤ eth.rxBufLen

structure CallGood (kernel : Kernel Port) (eth : Eth Port) (call : Call Port) : Prop where
  covers : Covers (step kernel eth call)
  restart : (step kernel eth call).rxBufLen ≠ eth.rxBufLen → call.dmaRefcnt > 0 →
    (mtkChangeMtu kernel eth call).restart = true
  refused : (mtkChangeMtu kernel eth call).ret ≠ 0 →
    (step kernel eth call).mtu call.dev = eth.mtu call.dev ∧
      (step kernel eth call).rxBufLen = eth.rxBufLen

/-- With a program attached the frames of the ports, the new MTU among them, fit its buffers, or
the MTU is the one that the port has. -/
def Fits (kernel : Kernel Port) (eth : Eth Port) (call : Call Port) : Prop :=
  call.prog = true →
    kernel.mtkMaxGmacMtu (Function.update eth.mtu call.dev call.newMtu) + MTK_RX_ETH_HLEN ≤
        kernel.mtkPpMaxBufSize ∨
      call.newMtu = eth.mtu call.dev

theorem le_bufLenFor (length : Nat) : length ≤ bufLenFor length := by
  unfold bufLenFor divRoundUp MTK_MAX_RX_LENGTH MTK_MAX_RX_LENGTH_UNIT
  split_ifs <;> omega

theorem MTK_MAX_RX_LENGTH_le_bufLenFor (length : Nat) : MTK_MAX_RX_LENGTH ≤ bufLenFor length := by
  unfold bufLenFor divRoundUp MTK_MAX_RX_LENGTH MTK_MAX_RX_LENGTH_UNIT
  split_ifs <;> omega

variable {kernel : Kernel Port} {eth : Eth Port} {call : Call Port}

theorem mtkChangeMtu_cases (kernel : Kernel Port) (eth : Eth Port) (call : Call Port) :
    let mtu := Function.update eth.mtu call.dev call.newMtu
    let length := kernel.mtkMaxGmacMtu mtu + MTK_RX_ETH_HLEN
    ((call.prog = true ∧ kernel.mtkPpMaxBufSize < length) ∧
        mtkChangeMtu kernel eth call = ⟨-EINVAL, false, ⟨mtu, eth.rxBufLen⟩⟩) ∨
      (¬ (call.prog = true ∧ kernel.mtkPpMaxBufSize < length) ∧
        mtkChangeMtu kernel eth call =
          ⟨0, decide (bufLenFor length ≠ eth.rxBufLen ∧ call.dmaRefcnt > 0),
            ⟨mtu, bufLenFor length⟩⟩) := by
  intro mtu length
  by_cases refused : call.prog = true ∧ kernel.mtkPpMaxBufSize < length
  · exact .inl ⟨refused, if_pos refused⟩
  · exact .inr ⟨refused, if_neg refused⟩

omit [DecidableEq Port] in
theorem covers_bufLenFor (isMax : IsMaxMtu kernel) (mtu : Port → Nat) :
    Covers ⟨mtu, bufLenFor (kernel.mtkMaxGmacMtu mtu + MTK_RX_ETH_HLEN)⟩ := by
  refine ⟨fun port => ?_, MTK_MAX_RX_LENGTH_le_bufLenFor _⟩
  have greatest : mtu port ≤ kernel.mtkMaxGmacMtu mtu := (isMax mtu).2 ⟨port, rfl⟩
  exact Nat.le_trans (Nat.add_le_add_right greatest _) (le_bufLenFor _)

theorem callGood_iff (isMax : IsMaxMtu kernel) (before : Covers eth) :
    CallGood kernel eth call ↔ Fits kernel eth call := by
  have refusal : (-EINVAL : Int) ≠ 0 := by decide
  unfold Fits
  rcases mtkChangeMtu_cases kernel eth call with ⟨refused, done⟩ | ⟨accepted, done⟩
  · have fits : (call.prog = true →
        kernel.mtkMaxGmacMtu (Function.update eth.mtu call.dev call.newMtu) + MTK_RX_ETH_HLEN ≤
            kernel.mtkPpMaxBufSize ∨ call.newMtu = eth.mtu call.dev) ↔
          call.newMtu = eth.mtu call.dev := by
      rw [forall_prop_of_true refused.1, or_iff_right (Nat.not_le.mpr refused.2)]
    rw [fits]
    constructor
    · intro good
      have kept := (good.refused (by rw [done]; exact refusal)).1
      unfold step at kept
      rw [done] at kept
      simpa using kept
    · intro same
      have unchanged : step kernel eth call = eth := by
        unfold step
        rw [done, same, Function.update_eq_self]
      constructor
      · rw [unchanged]
        exact before
      · rw [unchanged]
        exact fun other => absurd rfl other
      · rw [unchanged]
        exact fun _ => ⟨rfl, rfl⟩
  · refine iff_of_true ⟨?_, ?_, ?_⟩ fun prog => .inl ?_
    · unfold step
      rw [done]
      exact covers_bufLenFor isMax _
    · unfold step
      rw [done]
      exact fun changed used => decide_eq_true ⟨changed, used⟩
    · rw [done]
      exact fun failed => absurd rfl failed
    · exact Nat.not_lt.mp fun more => accepted ⟨prog, more⟩

/-- In a sequence of calls every one does as it should exactly if every one fits. -/
theorem calls_good_iff (kernel : Kernel Port) (isMax : IsMaxMtu kernel) (eth : Eth Port)
    (covers : Covers eth) (calls : List (Call Port)) :
    Along (step kernel) (CallGood kernel) eth calls ↔
      Along (step kernel) (Fits kernel) eth calls := by
  constructor
  · intro good
    induction calls generalizing eth with
    | nil => trivial
    | cons call rest ih =>
      exact ⟨(callGood_iff isMax covers).mp good.1, ih _ good.1.covers good.2⟩
  · exact along_of_invariant (step kernel) (Fits kernel) (CallGood kernel) Covers
      (fun _ _ before fits => ((callGood_iff isMax before).mpr fits).covers)
      (fun _ _ before fits => (callGood_iff isMax before).mpr fits) eth calls covers

omit [DecidableEq Port] in
theorem covers_probed : Covers (⟨fun _ => 1500, MTK_MAX_RX_LENGTH⟩ : Eth Port) :=
  ⟨fun _ => (by decide : 1500 + MTK_RX_ETH_HLEN ≤ MTK_MAX_RX_LENGTH), Nat.le_refl _⟩

def twoPorts : Kernel Bool := ⟨3520, fun mtu => max (mtu false) (mtu true)⟩

theorem isMaxMtu_twoPorts : IsMaxMtu twoPorts := by
  intro mtu
  constructor
  · rcases Nat.le_total (mtu false) (mtu true) with less | less
    · exact ⟨true, (Nat.max_eq_right less).symm⟩
    · exact ⟨false, (Nat.max_eq_left less).symm⟩
  · rintro _ ⟨port, rfl⟩
    match port with
    | false => exact Nat.le_max_left _ _
    | true => exact Nat.le_max_right _ _

theorem two_calls_good :
    Along (step twoPorts) (CallGood twoPorts) ⟨fun _ => 1500, MTK_MAX_RX_LENGTH⟩
      [⟨false, 2000, false, 1⟩, ⟨true, 1800, true, 1⟩] := by
  refine (calls_good_iff twoPorts isMaxMtu_twoPorts _ covers_probed _).mpr ⟨nofun, ?_, trivial⟩
  exact fun _ => .inl (by decide)

/-- A jumbo MTU with a program attached is refused and stays. -/
theorem refused_mtu_stays :
    ¬ Along (step twoPorts) (CallGood twoPorts) ⟨fun _ => 1500, MTK_MAX_RX_LENGTH⟩
      [⟨false, 9000, true, 1⟩] := by
  intro good
  have kept := (good.1.refused (by decide)).1
  revert kept
  decide

end OpenwrtSource.EthRings.RxBuffer
