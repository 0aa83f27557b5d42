import OpenwrtSource.Lib.Spans
import Mathlib.Data.BitVec

/-!
# The descriptor rings in the SRAM

Each of the FQ, TX and RX rings is placed in the SRAM if its own range passes
`mtk_validate_sram_range`, and in coherent memory otherwise.
-/

namespace OpenwrtSource.EthRings.SramLayout

open Lib.Spans

/-- What probing and the SoC data set.  The SRAM is not empty and lies in the lower half of the
address space, and the rings' descriptor offsets, index times size, have 32 bits. -/
structure MtkEth where
  capsSram : Bool
  physSramBase : BitVec 64
  sramSize : BitVec 64
  txDescSize : BitVec 32
  rxDescSize : BitVec 32
  fqDmaSize : BitVec 32
  txDmaSize : BitVec 32
  rxDmaSize : BitVec 32
  rxRingNum : Nat
  sramSize_pos : 0 < sramSize.toNat
  sram_end : physSramBase.toNat + sramSize.toNat ≤ 2 ^ 63
  fq_fits : fqDmaSize.toNat * txDescSize.toNat < 2 ^ 32
  tx_fits : txDmaSize.toNat * txDescSize.toNat < 2 ^ 32
  rx_fits : rxDmaSize.toNat * rxRingNum * rxDescSize.toNat < 2 ^ 32

/-- The addresses that `dma_alloc_coherent` gives for the rings, all above the SRAM. -/
structure Coherent (eth : MtkEth) where
  fq : BitVec 64
  tx : BitVec 64
  rx : Nat → BitVec 64
  fq_above : eth.physSramBase.toNat + eth.sramSize.toNat ≤ fq.toNat
  tx_above : eth.physSramBase.toNat + eth.sramSize.toNat ≤ tx.toNat
  rx_above : ∀ k, eth.physSramBase.toNat + eth.sramSize.toNat ≤ (rx k).toNat
  tx_end : tx.toNat < 2 ^ 63

structure Ring where
  phys : BitVec 64
  inSram : Bool

def mtkValidateSramRange (eth : MtkEth) (offset size : BitVec 64) : Bool :=
  let start := eth.physSramBase
  let last := eth.physSramBase + eth.sramSize - 1
  decide (offset ≥ start ∧ offset + size - 1 ≤ last)

def txDescOfs (eth : MtkEth) (n : BitVec 32) : BitVec 64 := (n * eth.txDescSize).setWidth 64

def rxDescOfs (eth : MtkEth) (n : BitVec 32) : BitVec 64 := (n * eth.rxDescSize).setWidth 64

def mtkInitFqDma (eth : MtkEth) (coherent : Coherent eth) : Ring :=
  if eth.capsSram ∧ mtkValidateSramRange eth eth.physSramBase (txDescOfs eth eth.fqDmaSize) then
    ⟨eth.physSramBase, true⟩
  else ⟨coherent.fq, false⟩

/-- `ring_size` is `tx.dma_size`, `sz` is `tx.desc_size`. -/
def mtkTxAlloc (eth : MtkEth) (coherent : Coherent eth) : Ring :=
  if eth.capsSram ∧ mtkValidateSramRange eth
      (eth.physSramBase + (eth.fqDmaSize * eth.txDescSize).setWidth 64)
      ((eth.txDmaSize * eth.txDescSize).setWidth 64) then
    ⟨eth.physSramBase + (eth.fqDmaSize * eth.txDescSize).setWidth 64, true⟩
  else ⟨coherent.tx, false⟩

/-- `offset`. -/
def rxOffset (eth : MtkEth) (ringNo : Nat) : BitVec 64 :=
  txDescOfs eth eth.txDmaSize + rxDescOfs eth (eth.rxDmaSize * BitVec.ofNat 32 ringNo)

/-- `normal` says that `rx_flag` is `MTK_RX_FLAGS_NORMAL`. -/
def mtkRxAlloc (eth : MtkEth) (coherent : Coherent eth) (txRing : Ring) (ringNo : Nat)
    (normal : Bool) : Ring :=
  if ¬ eth.capsSram ∨ ¬ normal ∨
      ¬ mtkValidateSramRange eth (txRing.phys + rxOffset eth ringNo)
        (rxDescOfs eth eth.rxDmaSize) then
    ⟨coherent.rx ringNo, false⟩
  else ⟨txRing.phys + rxOffset eth ringNo, true⟩

inductive RingId where
  | fq
  | tx
  | rx (ringNo : Nat)

def RingId.Exists (eth : MtkEth) : RingId → Prop
  | .fq => True
  | .tx => True
  | .rx ringNo => ringNo < eth.rxRingNum

variable {eth : MtkEth}

def Ring.span (ring : Ring) (len : BitVec 64) : Span := ⟨ring.phys.toNat, len.toNat⟩

/-- The ring that the three functions make, with the length that they ask for. -/
def placed (coherent : Coherent eth) (normal : Nat → Bool) : RingId → Ring × BitVec 64
  | .fq => (mtkInitFqDma eth coherent, txDescOfs eth eth.fqDmaSize)
  | .tx => (mtkTxAlloc eth coherent, txDescOfs eth eth.txDmaSize)
  | .rx ringNo =>
    (mtkRxAlloc eth coherent (mtkTxAlloc eth coherent) ringNo (normal ringNo),
      rxDescOfs eth eth.rxDmaSize)

def InSram (coherent : Coherent eth) (normal : Nat → Bool) (ring : RingId) : Prop :=
  ring.Exists eth ∧ (placed coherent normal ring).1.inSram = true

def ringSpan (coherent : Coherent eth) (normal : Nat → Bool) (ring : RingId) : Span :=
  (placed coherent normal ring).1.span (placed coherent normal ring).2

def WithinSram (eth : MtkEth) (span : Span) : Prop :=
  eth.physSramBase.toNat ≤ span.start ∧
    span.EndsBy (eth.physSramBase.toNat + eth.sramSize.toNat)

theorem within_of_valid {offset size : BitVec 64} (room : offset.toNat + size.toNat < 2 ^ 64)
    (valid : mtkValidateSramRange eth offset size = true) :
    WithinSram eth ⟨offset.toNat, size.toNat⟩ := by
  obtain ⟨start, last⟩ := of_decide_eq_true valid
  have start : eth.physSramBase.toNat ≤ offset.toNat := start
  have last : (offset + size - 1).toNat ≤ (eth.physSramBase + eth.sramSize - 1).toNat := last
  have positive := eth.sramSize_pos
  have sramEnd := eth.sram_end
  have one : (1 : BitVec 64).toNat = 1 := rfl
  rw [BitVec.toNat_sub, BitVec.toNat_sub, BitVec.toNat_add, BitVec.toNat_add, one] at last
  refine ⟨start, ?_⟩
  unfold Span.EndsBy
  simp only
  omega

theorem toNat_txDescOfs {n : BitVec 32} (fits : n.toNat * eth.txDescSize.toNat < 2 ^ 32) :
    (txDescOfs eth n).toNat = n.toNat * eth.txDescSize.toNat := by
  unfold txDescOfs
  rw [BitVec.toNat_setWidth_of_le (by decide), BitVec.toNat_mul, Nat.mod_eq_of_lt fits]

variable {ringNo : Nat} {coherent : Coherent eth} {normal : Nat → Bool}

theorem rx_offset_lt (known : ringNo < eth.rxRingNum) :
    eth.rxDmaSize.toNat * ringNo * eth.rxDescSize.toNat +
      eth.rxDmaSize.toNat * eth.rxDescSize.toNat < 2 ^ 32 := by
  have next : eth.rxDmaSize.toNat * (ringNo + 1) ≤ eth.rxDmaSize.toNat * eth.rxRingNum :=
    Nat.mul_le_mul_left _ known
  have bytes := Nat.mul_le_mul_right eth.rxDescSize.toNat next
  rw [Nat.mul_add, Nat.mul_one, Nat.add_mul] at bytes
  have fits := eth.rx_fits
  omega

theorem toNat_rxDescOfs (known : ringNo < eth.rxRingNum) :
    (rxDescOfs eth (eth.rxDmaSize * BitVec.ofNat 32 ringNo)).toNat =
        eth.rxDmaSize.toNat * eth.rxDescSize.toNat * ringNo ∧
      (rxDescOfs eth eth.rxDmaSize).toNat = eth.rxDmaSize.toNat * eth.rxDescSize.toNat := by
  have bound := rx_offset_lt known
  unfold rxDescOfs
  constructor
  · rw [BitVec.toNat_setWidth_of_le (by decide), BitVec.toNat_mul, BitVec.toNat_mul,
      BitVec.toNat_ofNat, Nat.mul_mod_mod, Nat.mod_mul_mod, Nat.mod_eq_of_lt (by omega)]
    exact Nat.mul_right_comm _ _ _
  · rw [BitVec.toNat_setWidth_of_le (by decide), BitVec.toNat_mul, Nat.mod_eq_of_lt (by omega)]

/-- The bytes of the FQ ring, of the TX ring and of one RX ring. -/
def fqLen (eth : MtkEth) : Nat := eth.fqDmaSize.toNat * eth.txDescSize.toNat
def txLen (eth : MtkEth) : Nat := eth.txDmaSize.toNat * eth.txDescSize.toNat
def rxLen (eth : MtkEth) : Nat := eth.rxDmaSize.toNat * eth.rxDescSize.toNat

theorem mtkInitFqDma_inSram (inSram : (mtkInitFqDma eth coherent).inSram = true) :
    (mtkInitFqDma eth coherent).phys = eth.physSramBase ∧
      mtkValidateSramRange eth eth.physSramBase (txDescOfs eth eth.fqDmaSize) = true := by
  unfold mtkInitFqDma at *
  split_ifs at inSram ⊢ with valid
  exact ⟨rfl, valid.2⟩

theorem mtkTxAlloc_cases (coherent : Coherent eth) :
    ((mtkTxAlloc eth coherent).inSram = true ∧
        (mtkTxAlloc eth coherent).phys = eth.physSramBase + txDescOfs eth eth.fqDmaSize ∧
        mtkValidateSramRange eth (eth.physSramBase + txDescOfs eth eth.fqDmaSize)
          (txDescOfs eth eth.txDmaSize) = true) ∨
      (mtkTxAlloc eth coherent).inSram = false ∧
        (mtkTxAlloc eth coherent).phys = coherent.tx := by
  unfold mtkTxAlloc
  split_ifs with valid
  · exact .inl ⟨rfl, rfl, valid.2⟩
  · exact .inr ⟨rfl, rfl⟩

theorem mtkRxAlloc_inSram {txRing : Ring} {normal : Bool}
    (inSram : (mtkRxAlloc eth coherent txRing ringNo normal).inSram = true) :
    (mtkRxAlloc eth coherent txRing ringNo normal).phys = txRing.phys + rxOffset eth ringNo ∧
      mtkValidateSramRange eth (txRing.phys + rxOffset eth ringNo)
        (rxDescOfs eth eth.rxDmaSize) = true := by
  unfold mtkRxAlloc at *
  split_ifs at inSram ⊢ with invalid
  exact ⟨rfl, not_not.mp (not_or.mp (not_or.mp invalid).2).2⟩

theorem tx_phys (coherent : Coherent eth) :
    let txRing := mtkTxAlloc eth coherent
    (txRing.inSram = true ∧ txRing.phys.toNat = eth.physSramBase.toNat + fqLen eth ∨
        txRing.inSram = false ∧
          eth.physSramBase.toNat + eth.sramSize.toNat ≤ txRing.phys.toNat) ∧
      txRing.phys.toNat < 2 ^ 63 + 2 ^ 32 := by
  have fq := toNat_txDescOfs eth.fq_fits
  have fits := eth.fq_fits
  have sramEnd := eth.sram_end
  rcases mtkTxAlloc_cases coherent with ⟨inSram, phys, -⟩ | ⟨outside, phys⟩
  · have sum : (mtkTxAlloc eth coherent).phys.toNat = eth.physSramBase.toNat + fqLen eth := by
      unfold fqLen
      rw [phys, BitVec.toNat_add, fq]
      omega
    refine ⟨.inl ⟨inSram, sum⟩, ?_⟩
    unfold fqLen at sum
    omega
  · have above := coherent.tx_above
    have below := coherent.tx_end
    rw [← phys] at above below
    exact ⟨.inr ⟨outside, above⟩, by omega⟩

theorem fq_placed (inSram : InSram coherent normal .fq) :
    ringSpan coherent normal .fq = ⟨eth.physSramBase.toNat, fqLen eth⟩ ∧
      WithinSram eth (ringSpan coherent normal .fq) := by
  obtain ⟨phys, valid⟩ := mtkInitFqDma_inSram inSram.2
  have len : (txDescOfs eth eth.fqDmaSize).toNat = fqLen eth := toNat_txDescOfs eth.fq_fits
  have fits : fqLen eth < 2 ^ 32 := eth.fq_fits
  have sramEnd := eth.sram_end
  have same : ringSpan coherent normal .fq = ⟨eth.physSramBase.toNat, fqLen eth⟩ := by
    unfold ringSpan Ring.span placed
    rw [phys, len]
  have within := within_of_valid (by omega) valid
  rw [len] at within
  exact ⟨same, same ▸ within⟩

theorem tx_placed (inSram : InSram coherent normal .tx) :
    ringSpan coherent normal .tx = ⟨(mtkTxAlloc eth coherent).phys.toNat, txLen eth⟩ ∧
      WithinSram eth (ringSpan coherent normal .tx) := by
  have len : (txDescOfs eth eth.txDmaSize).toNat = txLen eth := toNat_txDescOfs eth.tx_fits
  have fits : txLen eth < 2 ^ 32 := eth.tx_fits
  have bound := (tx_phys coherent).2
  have same : ringSpan coherent normal .tx =
      ⟨(mtkTxAlloc eth coherent).phys.toNat, txLen eth⟩ := by
    unfold ringSpan Ring.span placed
    rw [len]
  rcases mtkTxAlloc_cases coherent with ⟨-, phys, valid⟩ | ⟨outside, -⟩
  · rw [← phys] at valid
    have within := within_of_valid (by omega) valid
    rw [len] at within
    exact ⟨same, same ▸ within⟩
  · have inside : (mtkTxAlloc eth coherent).inSram = true := inSram.2
    rw [outside] at inside
    cases inside

theorem rx_placed (inSram : InSram coherent normal (.rx ringNo)) :
    ringSpan coherent normal (.rx ringNo) =
        spaced ((mtkTxAlloc eth coherent).phys.toNat + txLen eth) (rxLen eth) (rxLen eth) ringNo ∧
      WithinSram eth (ringSpan coherent normal (.rx ringNo)) := by
  obtain ⟨known, inside⟩ := inSram
  obtain ⟨phys, valid⟩ := mtkRxAlloc_inSram inside
  obtain ⟨offset, len⟩ := toNat_rxDescOfs known
  have tx : (txDescOfs eth eth.txDmaSize).toNat = txLen eth := toNat_txDescOfs eth.tx_fits
  have txFits : txLen eth < 2 ^ 32 := eth.tx_fits
  have rxFits : rxLen eth * ringNo + rxLen eth < 2 ^ 32 := by
    have bound := rx_offset_lt known
    rw [Nat.mul_right_comm] at bound
    exact bound
  have bound := (tx_phys coherent).2
  have sum : ((mtkTxAlloc eth coherent).phys + rxOffset eth ringNo).toNat =
      (mtkTxAlloc eth coherent).phys.toNat + txLen eth + rxLen eth * ringNo := by
    unfold rxOffset
    rw [BitVec.toNat_add, BitVec.toNat_add, tx, offset]
    unfold rxLen at *
    omega
  have same : ringSpan coherent normal (.rx ringNo) =
      spaced ((mtkTxAlloc eth coherent).phys.toNat + txLen eth) (rxLen eth) (rxLen eth)
        ringNo := by
    unfold ringSpan Ring.span placed spaced
    rw [phys, sum, len]
    rfl
  have within := within_of_valid (by rw [sum, len]; unfold rxLen at *; omega) valid
  rw [sum, len] at within
  exact ⟨same, same ▸ within⟩

theorem rings_within (coherent : Coherent eth) (normal : Nat → Bool) {ring : RingId}
    (inSram : InSram coherent normal ring) : WithinSram eth (ringSpan coherent normal ring) := by
  cases ring with
  | fq => exact (fq_placed inSram).2
  | tx => exact (tx_placed inSram).2
  | rx ringNo => exact (rx_placed inSram).2

theorem fq_apart (fq : InSram coherent normal .fq) {other : Span}
    (after : (mtkTxAlloc eth coherent).phys.toNat ≤ other.start) :
    Apart (ringSpan coherent normal .fq) other := by
  obtain ⟨same, within⟩ := fq_placed fq
  have ends := within.2
  rw [same] at ends ⊢
  refine Apart.of_le ?_
  unfold Span.EndsBy at ends
  simp only at ends ⊢
  rcases (tx_phys coherent).1 with ⟨-, phys⟩ | ⟨-, above⟩ <;> omega

theorem tx_apart_rx (tx : InSram coherent normal .tx) (rx : InSram coherent normal (.rx ringNo)) :
    Apart (ringSpan coherent normal .tx) (ringSpan coherent normal (.rx ringNo)) := by
  rw [(tx_placed tx).1, (rx_placed rx).1]
  exact Apart.of_le (Nat.le_add_right _ _)

theorem rx_apart_rx {k l : Nat} (other : k ≠ l) (first : InSram coherent normal (.rx k))
    (second : InSram coherent normal (.rx l)) :
    Apart (ringSpan coherent normal (.rx k)) (ringSpan coherent normal (.rx l)) := by
  rw [(rx_placed first).1, (rx_placed second).1]
  exact (spaced_pairwise_iff _ _ _ eth.rxRingNum).mpr (.inr (Nat.le_refl _)) k first.1 l second.1
    other

/-- In 256 KiB a TX ring of 8192 descriptors has no room behind the FQ ring, and the RX rings go
with it. -/
example : ∃ (eth : MtkEth) (coherent : Coherent eth),
    InSram coherent (fun _ => true) .fq ∧ ¬ InSram coherent (fun _ => true) .tx ∧
      ¬ InSram coherent (fun _ => true) (.rx 0) :=
  ⟨⟨true, 0x15400000, 0x40000, 32, 32, 4096, 8192, 512, 4, by decide, by decide, by decide,
      by decide, by decide⟩,
    ⟨0x40000000, 0x40100000, fun _ => 0x40200000, by decide, by decide, fun _ => by decide,
      by decide⟩,
    ⟨trivial, by decide⟩, fun tx => absurd tx.2 (by decide), fun rx => absurd rx.2 (by decide)⟩

end OpenwrtSource.EthRings.SramLayout
