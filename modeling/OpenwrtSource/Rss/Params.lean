import OpenwrtSource.Lib.Defaults
import OpenwrtSource.Lib.BitField
import OpenwrtSource.Lib.TableFold

/-!
# The RSS parameters of the ethernet driver

`rss_params` hold the hash key and the indirection table.  `mtk_set_rxfh` and
`mtk_rss_init` write them and the registers; the second starts from its defaults.
-/

namespace OpenwrtSource.Rss.Params

open Lib.Packed Lib.TableFold

def HASH_KEYSIZE : Nat := 40

/-- The words of `hash_key`. -/
def KEY_WORDS : Nat := 10

def MAX_INDIRECTION_TABLE : Nat := 128

/-- `rss_num` of every SoC with `MTK_RSS`. -/
def RSS_NUM : Nat := 4

abbrev Key := Fin KEY_WORDS → BitVec 32

/-- `struct mtk_rss_params`. -/
structure RssParams where
  hashKey : Key
  indirectionTable : Fin MAX_INDIRECTION_TABLE → BitVec 8

structure Regs where
  rssGloCfg : BitVec 32
  hashKeyDw : Key
  indrTableDw : Fin 8 → BitVec 32
  lroCtrlDw0 : BitVec 32
  lroCtrlDw2 : Fin 5 → BitVec 32
  intGrp : Fin 2 → BitVec 32
  intGrp3 : BitVec 32

structure State where
  params : RssParams
  regs : Regs

/-- What `mtk_rss_init` reads of the SoC: whether it is a NETSYS v3, and whether its receive
descriptors have the size of `struct mtk_rx_dma`. -/
structure Soc where
  netsysV3 : Bool
  rxDescV1 : Bool

def RSS_EN : BitVec 32 := BitVec.twoPow 32 0
def RSS_CFG_REQ : BitVec 32 := BitVec.twoPow 32 2
def RSS_IPV6_STATIC_HASH : BitVec 32 := 0x7 <<< 8
def RSS_IPV4_STATIC_HASH : BitVec 32 := 0x7 <<< 12
def RING_PSE_MODE : BitVec 32 := 1 <<< 6
def NON_LRO_MULTI_EN : BitVec 32 := BitVec.twoPow 32 2
def LRO_DLY_INT_EN : BitVec 32 := BitVec.twoPow 32 5

/-- `MTK_HW_LRO_RING_NUM`. -/
def HW_LRO_RING_NUM (soc : Soc) : Nat := if soc.netsysV3 then 4 else 3

/-- `MTK_RX_DONE_INT` of a ring that is not 0. -/
def RX_DONE_INT (ring : Nat) : BitVec 32 := BitVec.twoPow 32 (24 + ring)

/-- `mtk_m32` with the same mask and value. -/
def setBits (bits val : BitVec 32) : BitVec 32 := (val &&& ~~~ bits) ||| bits

def entryAt (index : Fin 8) (k : Fin 16) : Fin MAX_INDIRECTION_TABLE :=
  ⟨16 * index.val + k.val, by
    have first := index.isLt
    have second := k.isLt
    rw [MAX_INDIRECTION_TABLE]
    omega⟩

/-- `mtk_rss_indr_table`. -/
def rssIndrTable (params : RssParams) (index : Fin 8) : BitVec 32 :=
  (List.finRange 16).foldl (fun val k =>
    let i := entryAt index k
    val ||| (params.indirectionTable i).setWidth 32 <<< (2 * (i.val % 16))) 0

def writeHashKey (params : RssParams) (regs : Regs) : Regs :=
  (List.finRange KEY_WORDS).foldl (fun regs i =>
    { regs with hashKeyDw := Function.update regs.hashKeyDw i (params.hashKey i) }) regs

def writeIndrTable (params : RssParams) (regs : Regs) : Regs :=
  (List.finRange 8).foldl (fun regs i =>
    { regs with indrTableDw := Function.update regs.indrTableDw i (rssIndrTable params i) }) regs

/-- `hash_key` of `mtk_rss_init`. -/
def defaultBytes : List (BitVec 8) :=
  [0xfa, 0x01, 0xac, 0xbe, 0x3b, 0xb7, 0x42, 0x6a,
   0x0c, 0xf2, 0x30, 0x80, 0xa3, 0x2d, 0xcb, 0x77,
   0xb4, 0x30, 0x7b, 0xae, 0xcb, 0x2b, 0xca, 0xd0,
   0xb0, 0x8f, 0xa3, 0x43, 0x3d, 0x25, 0x67, 0x41,
   0xc2, 0x0e, 0x5b, 0x25, 0xda, 0x56, 0x5a, 0x6d]

/-- The `memcpy` of the bytes into the words of a little-endian machine. -/
def defaultKey (i : Fin KEY_WORDS) : BitVec 32 :=
  let byte k := defaultBytes.getD (4 * i.val + k) 0
  byte 3 ++ byte 2 ++ byte 1 ++ byte 0

def defaultParams : RssParams where
  hashKey := defaultKey
  indirectionTable := fun i => BitVec.ofNat 8 (i.val % RSS_NUM)

def setPseModes (soc : Soc) (regs : Regs) : Regs :=
  let regs := (List.finRange 5).foldl (fun regs i =>
    if 1 ≤ i.val ∧ i.val ≤ HW_LRO_RING_NUM soc then
      let val := regs.lroCtrlDw2 i ||| RING_PSE_MODE
      { regs with lroCtrlDw2 := Function.update regs.lroCtrlDw2 i val }
    else regs) regs
  let val := regs.lroCtrlDw0 ||| NON_LRO_MULTI_EN
  let regs := { regs with lroCtrlDw0 := val }
  { regs with lroCtrlDw0 := val ||| LRO_DLY_INT_EN }

def setGroupInts (regs : Regs) : Regs :=
  { regs with
    intGrp := fun i =>
      if i.val = 0 then setBits (RX_DONE_INT 1) (regs.intGrp i)
      else setBits (RX_DONE_INT 2) (regs.intGrp i)
    intGrp3 := setBits (RX_DONE_INT 3) regs.intGrp3 }

/-- `mtk_rss_init`. -/
def rssInit (soc : Soc) (s : State) : State :=
  let params := defaultParams
  let regs := if soc.rxDescV1 then setPseModes soc s.regs else s.regs
  let val := regs.rssGloCfg ||| RSS_IPV4_STATIC_HASH ||| RSS_IPV6_STATIC_HASH
  let regs := { regs with rssGloCfg := val }
  let regs := writeHashKey params regs
  let regs := writeIndrTable params regs
  let val := val ||| RSS_CFG_REQ
  let regs := { regs with rssGloCfg := val }
  let val := val ||| RSS_EN
  let regs := { regs with rssGloCfg := val }
  let val := val &&& ~~~ RSS_CFG_REQ
  let regs := { regs with rssGloCfg := val }
  { params := params, regs := setGroupInts regs }

/-- `mtk_rss_uninit`. -/
def rssUninit (s : State) : State :=
  let val := s.regs.rssGloCfg ||| RSS_CFG_REQ
  let val := val &&& ~~~ RSS_EN
  let val := val &&& ~~~ RSS_CFG_REQ
  { s with regs := { s.regs with rssGloCfg := val } }

/-- `mtk_dma_init`, which gets to `mtk_rss_init` if its allocations have not failed. -/
def dmaInit (soc : Soc) (allocated : Bool) (s : State) : State :=
  if allocated then rssInit soc s else s

def ETH_RSS_HASH_NO_CHANGE : BitVec 8 := 0
def ETH_RSS_HASH_TOP : BitVec 8 := 1

/-- An indirection table as it comes from `ethtool`. -/
structure Table where
  entry : Fin MAX_INDIRECTION_TABLE → BitVec 32
  entry_lt : ∀ i, (entry i).toNat < RSS_NUM

/-- `struct ethtool_rxfh_param`; the key and the table may be absent. -/
structure RxfhParam where
  hfunc : BitVec 8
  key : Option Key
  indir : Option Table

def setKey (key : Key) (s : State) : State :=
  let params := { s.params with hashKey := key }
  { params := params, regs := writeHashKey params s.regs }

def setIndir (indir : Table) (s : State) : State :=
  let params := { s.params with indirectionTable := fun i => (indir.entry i).setWidth 8 }
  { params := params, regs := writeIndrTable params s.regs }

/-- `mtk_set_rxfh`; `none` is `-EOPNOTSUPP`. -/
def setRxfh (rxfh : RxfhParam) (s : State) : Option State :=
  if rxfh.hfunc ≠ ETH_RSS_HASH_NO_CHANGE ∧ rxfh.hfunc ≠ ETH_RSS_HASH_TOP then none
  else
    let s := match rxfh.key with
      | some key => setKey key s
      | none => s
    let s := match rxfh.indir with
      | some indir => setIndir indir s
      | none => s
    some s

/-- What `mtk_get_rxfh` fills in. -/
structure Rxfh where
  hfunc : BitVec 8
  key : Option Key
  indir : Option (Fin MAX_INDIRECTION_TABLE → BitVec 32)

/-- `mtk_get_rxfh`, which is asked for the key, for the table or for both. -/
def getRxfh (wantKey wantIndir : Bool) (s : State) : Rxfh where
  hfunc := ETH_RSS_HASH_TOP
  key := if wantKey then some s.params.hashKey else none
  indir := if wantIndir then some fun i => (s.params.indirectionTable i).setWidth 32 else none

theorem writeHashKey_hashKeyDw (params : RssParams) (regs : Regs) :
    (writeHashKey params regs).hashKeyDw = params.hashKey := by
  funext i
  exact foldl_bank Regs.hashKeyDw (fun i _ => params.hashKey i) _ (fun _ _ => rfl) regs i

theorem writeIndrTable_indrTableDw (params : RssParams) (regs : Regs) :
    (writeIndrTable params regs).indrTableDw = rssIndrTable params := by
  funext i
  exact foldl_bank Regs.indrTableDw (fun i _ => rssIndrTable params i) _ (fun _ _ => rfl) regs i

theorem writeHashKey_indrTableDw (params : RssParams) (regs : Regs) :
    (writeHashKey params regs).indrTableDw = regs.indrTableDw := by
  refine foldl_frame Regs.indrTableDw _ ?_ _ regs
  exact fun _ _ => rfl

theorem writeIndrTable_hashKeyDw (params : RssParams) (regs : Regs) :
    (writeIndrTable params regs).hashKeyDw = regs.hashKeyDw := by
  refine foldl_frame Regs.hashKeyDw _ ?_ _ regs
  exact fun _ _ => rfl

structure Regs.Holds (regs : Regs) (params : RssParams) : Prop where
  key : regs.hashKeyDw = params.hashKey
  table : regs.indrTableDw = rssIndrTable params

theorem holds_rssInit (soc : Soc) (s : State) :
    (rssInit soc s).regs.Holds (rssInit soc s).params := by
  constructor
  · show (writeIndrTable defaultParams (writeHashKey defaultParams _)).hashKeyDw = _
    rw [writeIndrTable_hashKeyDw, writeHashKey_hashKeyDw]
    rfl
  · show (writeIndrTable defaultParams _).indrTableDw = _
    rw [writeIndrTable_indrTableDw]
    rfl

theorem holds_setKey {s : State} (holds : s.regs.Holds s.params) (key : Key) :
    (setKey key s).regs.Holds (setKey key s).params :=
  ⟨writeHashKey_hashKeyDw _ _, (writeHashKey_indrTableDw _ _).trans holds.table⟩

theorem holds_setIndir {s : State} (holds : s.regs.Holds s.params) (indir : Table) :
    (setIndir indir s).regs.Holds (setIndir indir s).params :=
  ⟨(writeIndrTable_hashKeyDw _ _).trans holds.key, writeIndrTable_indrTableDw _ _⟩

theorem extract_rssIndrTable {params : RssParams}
    (small : ∀ i, (params.indirectionTable i).toNat < 4) (index : Fin 8) (k : Fin 16) :
    (rssIndrTable params index).extractLsb' (2 * k.val) 2 =
      (params.indirectionTable (entryAt index k)).setWidth 2 := by
  have word : rssIndrTable params index = packed 2 fun k : Fin 16 =>
      (params.indirectionTable (entryAt index k)).setWidth 32 := by
    have place : ∀ k : Fin 16, (entryAt index k).val % 16 = k.val := by
      intro k
      show (16 * index.val + k.val) % 16 = k.val
      omega
    simp only [rssIndrTable, packed, place]
  have below : ∀ k : Fin 16,
      ((params.indirectionTable (entryAt index k)).setWidth 32).toNat < 2 ^ 2 := by
    intro k
    rw [BitVec.toNat_setWidth]
    exact (Nat.mod_le _ _).trans_lt (small _)
  rw [word, extract_packed (by decide) below, BitVec.setWidth_setWidth_of_le _ (by decide)]

end OpenwrtSource.Rss.Params
