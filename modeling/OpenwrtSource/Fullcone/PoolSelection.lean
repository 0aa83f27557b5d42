import Mathlib.Algebra.Group.Nat.Defs
import OpenwrtSource.Fullcone.LinuxKernel

/-!
# Address selection in a pool

`find_leastused_ip` and `find_leastused_ip6` scale a hash of the packet into
the pool.  The hash is masked to the number of hash buckets first, and the
scaling keeps the high half of a 64-bit product, so the IPv4 choice never leaves
the first address of a pool of this size.  The IPv6 choice is free in every word
after the first one that is not the largest, above and below.
-/

namespace OpenwrtSource.Fullcone.PoolSelection

open Fullcone.Tuple Fullcone.L3Family Fullcone.LinuxKernel

theorem reciprocalScale_toNat (value limit : BitVec 32) :
    (reciprocalScale value limit).toNat = value.toNat * limit.toNat / 2 ^ 32 := by
  have valueLt := value.isLt
  have limitLt := limit.isLt
  have product : value.toNat * limit.toNat < 2 ^ 32 * 2 ^ 32 :=
    Nat.mul_lt_mul'' valueLt limitLt
  have quotient : value.toNat * limit.toNat / 2 ^ 32 < 2 ^ 32 :=
    Nat.div_lt_of_lt_mul product
  have small : value.toNat * limit.toNat < 2 ^ 64 := by omega
  have wide : ∀ word : BitVec 32, (word.setWidth 64).toNat = word.toNat := by
    intro word
    rw [BitVec.toNat_setWidth]
    exact Nat.mod_eq_of_lt (by omega)
  rw [reciprocalScale, BitVec.toNat_setWidth, BitVec.toNat_ushiftRight, BitVec.toNat_mul, wide,
    wide, Nat.mod_eq_of_lt small, Nat.shiftRight_eq_div_pow, Nat.mod_eq_of_lt quotient]

theorem fullconeHkey_lt (k : Kernel) (data : List Be32) (initval : BitVec 32) :
    (fullconeHkey k data initval).toNat < 1024 := by
  have mask : ((1 <<< HASHTABLE_BUCKET_BITS : BitVec 32) - 1).toNat = 1023 := by decide
  rw [fullconeHkey, BitVec.toNat_and, mask]
  exact Nat.lt_of_le_of_lt Nat.and_le_right (by decide)

theorem reciprocalScale_masked (hash limit : BitVec 32) (masked : hash.toNat < 1024)
    (small : limit.toNat ≤ 2 ^ 22) : reciprocalScale hash limit = 0 := by
  apply BitVec.eq_of_toNat_eq
  rw [reciprocalScale_toNat]
  have product : hash.toNat * limit.toNat < 2 ^ 32 := by
    calc hash.toNat * limit.toNat ≤ 1023 * 2 ^ 22 := Nat.mul_le_mul (by omega) small
      _ < 2 ^ 32 := by decide
  simpa using Nat.div_eq_of_lt product

theorem reciprocalScale_lt (value limit : BitVec 32) (some : limit ≠ 0) :
    (reciprocalScale value limit).toNat < limit.toNat := by
  have positive : 0 < limit.toNat := by
    rcases Nat.eq_zero_or_pos limit.toNat with zero | positive
    · exact absurd (BitVec.eq_of_toNat_eq zero) some
    · exact positive
  rw [reciprocalScale_toNat, Nat.div_lt_iff_lt_mul (by decide), Nat.mul_comm]
  exact Nat.mul_lt_mul_of_pos_left value.isLt positive

@[simp] theorem reciprocalScale_zero_left (limit : BitVec 32) :
    reciprocalScale 0#32 limit = 0#32 := by
  apply BitVec.eq_of_toNat_eq
  rw [reciprocalScale_toNat]
  simp

@[simp] theorem reciprocalScale_zero_right (value : BitVec 32) :
    reciprocalScale value 0#32 = 0#32 := by
  apply BitVec.eq_of_toNat_eq
  rw [reciprocalScale_toNat]
  simp

theorem htonl_ntohl (word : Be32) : htonl (ntohl word) = word := ntohl_htonl word

theorem ntohl_injective : Function.Injective ntohl := by
  intro left right same
  rw [← htonl_ntohl left, same, htonl_ntohl]

/-- The kernel's scaling, under a `jhash2` with one value. -/
def hashing (hash : BitVec 32) : Kernel := { linuxKernel with jhash2 := fun _ _ => hash }

def InPool (range : NatRange Be32) (addr : Be32) : Prop :=
  (ntohl range.minAddr).toNat ≤ (ntohl addr).toNat ∧
    (ntohl addr).toNat ≤ (ntohl range.maxAddr).toNat

/-- Each address of the pool is the choice under some hash. -/
def Covered (zoneId : BitVec 16) (range : NatRange Be32) (src dst : Be32) : Prop :=
  ∀ addr, InPool range addr → ∃ hash, findLeastusedIp (hashing hash) zoneId range src dst = addr

theorem findLeastusedIp_first (hash : BitVec 32) (zoneId : BitVec 16) (range : NatRange Be32)
    (src dst : Be32) (small : (ntohl range.maxAddr).toNat - (ntohl range.minAddr).toNat < 2 ^ 22)
    (ordered : (ntohl range.minAddr).toNat ≤ (ntohl range.maxAddr).toNat) :
    findLeastusedIp (hashing hash) zoneId range src dst = range.minAddr := by
  have dist : (ntohl range.maxAddr - ntohl range.minAddr + 1).toNat ≤ 2 ^ 22 := by
    have below := (ntohl range.maxAddr).isLt
    rw [BitVec.toNat_add, BitVec.toNat_sub_of_le ordered]
    have one : (1 : BitVec 32).toNat = 1 := rfl
    rw [one, Nat.mod_eq_of_lt (by omega)]
    omega
  have scaled := reciprocalScale_masked
    (fullconeHkey (hashing hash) [src]
      (if hasFlag range.flags NF_NAT_RANGE_PERSISTENT then 0 else dst ^^^ zoneId.setWidth 32))
    _ (fullconeHkey_lt _ _ _) dist
  have kernelScale : (hashing hash).reciprocalScale = reciprocalScale := rfl
  have unmoved : ntohl range.minAddr + 0 = ntohl range.minAddr := BitVec.add_zero _
  simp only [findLeastusedIp, kernelScale, scaled]
  rw [unmoved, htonl_ntohl]

/-- A pool of at most 1024 addresses is covered when it has one address, and in no
other case. -/
theorem covered_iff_single (zoneId : BitVec 16) (range : NatRange Be32) (src dst : Be32)
    (ordered : (ntohl range.minAddr).toNat ≤ (ntohl range.maxAddr).toNat)
    (size : (ntohl range.maxAddr).toNat - (ntohl range.minAddr).toNat + 1 ≤ 1024) :
    Covered zoneId range src dst ↔ range.minAddr = range.maxAddr := by
  have first := fun hash =>
    findLeastusedIp_first hash zoneId range src dst (by omega) ordered
  constructor
  · intro covered
    obtain ⟨hash, chosen⟩ := covered range.maxAddr ⟨ordered, Nat.le_refl _⟩
    rw [← chosen, first hash]
  · intro single addr inPool
    have same : (ntohl addr).toNat = (ntohl range.minAddr).toNat := by
      have upper := inPool.2
      rw [← single] at upper
      exact Nat.le_antisymm upper inPool.1
    have isMin : addr = range.minAddr := ntohl_injective (BitVec.eq_of_toNat_eq same)
    exact ⟨0, by rw [first 0, isMin]⟩

def onePool : NatRange Be32 := ⟨NF_NAT_RANGE_MAP_IPS, wan, wan, 0, 0⟩
def twoPool : NatRange Be32 := ⟨NF_NAT_RANGE_MAP_IPS, wan, 0x020200c0, 0, 0⟩

theorem covered_iff_single_onePool : Covered 0 onePool host peer :=
  (covered_iff_single 0 onePool host peer (by decide) (by decide)).mpr rfl

theorem twoPool_uncovered : ¬ Covered 0 twoPool host peer := by
  intro covered
  obtain ⟨hash, chosen⟩ := covered twoPool.maxAddr ⟨by decide, by decide⟩
  rw [findLeastusedIp_first hash 0 twoPool host peer (by decide) (by decide)] at chosen
  exact absurd chosen (by decide)

def value : List Be32 → Nat
  | [] => 0
  | word :: rest => (ntohl word).toNat * 2 ^ (32 * rest.length) + value rest

theorem value_lt (words : List Be32) : value words < 2 ^ (32 * words.length) := by
  induction words with
  | nil => simp [value]
  | cons word rest ih =>
    have below := (ntohl word).isLt
    have shifted : 2 ^ (32 * (word :: rest).length) =
        2 ^ 32 * 2 ^ (32 * rest.length) := by
      rw [← Nat.pow_add, List.length_cons]
      congr 1
      omega
    have product : ((ntohl word).toNat + 1) * 2 ^ (32 * rest.length) ≤
        2 ^ 32 * 2 ^ (32 * rest.length) := Nat.mul_le_mul_right _ below
    rw [Nat.add_one_mul] at product
    rw [value, shifted]
    omega

theorem value_lt_of_head {word other : Be32} {rest others : List Be32}
    (lengths : rest.length = others.length) (less : (ntohl word).toNat < (ntohl other).toNat) :
    value (word :: rest) < value (other :: others) := by
  have below := value_lt rest
  have product : ((ntohl word).toNat + 1) * 2 ^ (32 * rest.length) ≤
      (ntohl other).toNat * 2 ^ (32 * rest.length) := Nat.mul_le_mul_right _ less
  rw [Nat.add_one_mul] at product
  rw [value, value, ← lengths]
  omega

theorem value_le_of_tail {word : Be32} {rest others : List Be32}
    (lengths : rest.length = others.length) :
    value (word :: rest) ≤ value (word :: others) ↔ value rest ≤ value others := by
  rw [value, value, lengths]
  omega

theorem value_zeros {words : List Be32} (zeros : ∀ word ∈ words, word = 0) : value words = 0 := by
  induction words with
  | nil => rfl
  | cons word rest ih =>
    have head : word = 0 := zeros word (by simp)
    have zero : (ntohl 0).toNat = 0 := by decide
    rw [value, ih fun other member => zeros other (by simp [member]), head, zero]
    simp

theorem zeros_of_value {words : List Be32} (zero : value words = 0) : ∀ word ∈ words, word = 0 := by
  induction words with
  | nil => exact fun _ member => nomatch member
  | cons word rest ih =>
    rw [value, Nat.add_eq_zero_iff] at zero
    have head : (ntohl word).toNat = 0 := by
      rcases Nat.mul_eq_zero.mp zero.1 with none | power
      · exact none
      · exact absurd power (Nat.pos_iff_ne_zero.mp (Nat.two_pow_pos _))
    have isZero : word = 0 := ntohl_injective (BitVec.eq_of_toNat_eq (by rw [head]; decide))
    intro other member
    rcases List.mem_cons.mp member with same | later
    · rw [same, isZero]
    · exact ih zero.2 other later

/-- The minimum, maximum and destination words of one round. -/
structure Round where
  minWord : Be32
  maxWord : Be32
  dstWord : Be32

def chosenWords (k : Kernel) (flags : BitVec 32) : List Round → Bool → BitVec 32 → List Be32
  | [], _, _ => []
  | round :: rest, fullRange, j =>
    let word := leastusedWord k flags round.minWord round.maxWord round.dstWord fullRange j
    word.1 :: chosenWords k flags rest word.2.1 word.2.2

def rounds (low high dst : InetAddr) : List Round :=
  [⟨low.all0, high.all0, dst.all0⟩, ⟨low.all1, high.all1, dst.all1⟩,
    ⟨low.all2, high.all2, dst.all2⟩, ⟨low.all3, high.all3, dst.all3⟩]

theorem findLeastusedIp6_words (k : Kernel) (zoneId : BitVec 16) (range : NatRange InetAddr)
    (src dst : InetAddr) :
    (findLeastusedIp6 k zoneId range src dst).words =
      chosenWords k range.flags (rounds range.minAddr range.maxAddr dst) false
        (fullconeHkey k src.words
          (if hasFlag range.flags NF_NAT_RANGE_PERSISTENT then 0
            else dst.all3 ^^^ zoneId.setWidth 32)) := rfl

theorem chosenWords_length (k : Kernel) (flags : BitVec 32) (list : List Round) (fullRange : Bool)
    (j : BitVec 32) : (chosenWords k flags list fullRange j).length = list.length := by
  induction list generalizing fullRange j with
  | nil => rfl
  | cons round rest ih => simp [chosenWords, ih]

theorem boundedWord_between (flags : BitVec 32) (minWord maxWord dstWord : Be32) (j : BitVec 32)
    (ordered : (ntohl minWord).toNat ≤ (ntohl maxWord).toNat) :
    let word := (leastusedWord linuxKernel flags minWord maxWord dstWord false j).1
    (ntohl minWord).toNat ≤ (ntohl word).toNat ∧ (ntohl word).toNat ≤ (ntohl maxWord).toNat := by
  have below := (ntohl maxWord).isLt
  have kernelScale : linuxKernel.reciprocalScale = reciprocalScale := rfl
  simp only [leastusedWord, kernelScale, Bool.false_eq_true, if_false, ntohl_htonl]
  have dist : (ntohl maxWord - ntohl minWord + 1).toNat =
      ((ntohl maxWord).toNat - (ntohl minWord).toNat + 1) % 2 ^ 32 := by
    rw [BitVec.toNat_add, BitVec.toNat_sub_of_le ordered]
    rfl
  have scaled : (reciprocalScale j (ntohl maxWord - ntohl minWord + 1)).toNat ≤
      (ntohl maxWord).toNat - (ntohl minWord).toNat := by
    by_cases wraps : ntohl maxWord - ntohl minWord + 1 = 0
    · have nothing : reciprocalScale j 0 = 0 := reciprocalScale_zero_right j
      rw [wraps, nothing]
      exact Nat.zero_le _
    · have less := reciprocalScale_lt j _ wraps
      rw [dist] at less
      have bound := Nat.mod_le ((ntohl maxWord).toNat - (ntohl minWord).toNat + 1) (2 ^ 32)
      omega
  rw [BitVec.toNat_add, Nat.mod_eq_of_lt (by omega)]
  omega

theorem boundedWord_fixed (flags : BitVec 32) (word dstWord : Be32) (j : BitVec 32) :
    (leastusedWord linuxKernel flags word word dstWord false j).1 = word ∧
      (leastusedWord linuxKernel flags word word dstWord false j).2.1 = false := by
  have between := boundedWord_between flags word word dstWord j (Nat.le_refl _)
  have same : (leastusedWord linuxKernel flags word word dstWord false j).1 = word :=
    ntohl_injective (BitVec.eq_of_toNat_eq (Nat.le_antisymm between.2 between.1))
  refine ⟨same, ?_⟩
  have flag : (leastusedWord linuxKernel flags word word dstWord false j).2.1 =
      (false || (leastusedWord linuxKernel flags word word dstWord false j).1 != word) := rfl
  rw [flag, same]
  simp

theorem chosenWords_upper (flags : BitVec 32) (round : Round) (rest : List Round) (j : BitVec 32)
    (ordered : (ntohl round.minWord).toNat ≤ (ntohl round.maxWord).toNat)
    (zeros : ∀ word ∈ rest.map Round.minWord, word = 0) :
    value (chosenWords linuxKernel flags (round :: rest) false j) ≤
      value ((round :: rest).map Round.maxWord) := by
  induction rest generalizing round j with
  | nil =>
    have between := boundedWord_between flags round.minWord round.maxWord round.dstWord j ordered
    simpa [chosenWords, value] using between.2
  | cons next later ih =>
    have between := boundedWord_between flags round.minWord round.maxWord round.dstWord j ordered
    rw [chosenWords, List.map_cons]
    by_cases largest : (leastusedWord linuxKernel flags round.minWord round.maxWord
        round.dstWord false j).1 = round.maxWord
    · have bounded : (leastusedWord linuxKernel flags round.minWord round.maxWord
          round.dstWord false j).2.1 = false := by
        simpa [leastusedWord] using largest
      rw [largest, bounded, value_le_of_tail (by simp [chosenWords_length])]
      have head : next.minWord = 0 := zeros next.minWord (by simp)
      refine ih next _ ?_ fun word member => zeros word (by simp [member])
      rw [head]
      exact Nat.zero_le _
    · have differs : (ntohl (leastusedWord linuxKernel flags round.minWord round.maxWord
          round.dstWord false j).1).toNat ≠ (ntohl round.maxWord).toNat :=
        fun same => largest (ntohl_injective (BitVec.eq_of_toNat_eq same))
      have less := Nat.lt_of_le_of_ne between.2 differs
      exact Nat.le_of_lt (value_lt_of_head (by simp [chosenWords_length]) less)

/-- After the first word in which they differ, the minimum has no word but zero. -/
def LowestAfterPrefix : List Be32 → List Be32 → Prop
  | minWord :: minRest, maxWord :: maxRest =>
    if minWord = maxWord then LowestAfterPrefix minRest maxRest
    else ∀ word ∈ minRest, word = 0
  | _, _ => True

instance decidableLowest : ∀ lows highs : List Be32, Decidable (LowestAfterPrefix lows highs)
  | [], _ => .isTrue trivial
  | _ :: _, [] => .isTrue trivial
  | minWord :: minRest, maxWord :: maxRest =>
    if same : minWord = maxWord then
      have := decidableLowest minRest maxRest
      decidable_of_iff (LowestAfterPrefix minRest maxRest)
        (by rw [LowestAfterPrefix, if_pos same])
    else
      decidable_of_iff (minRest.all (· = 0) = true)
        (by simp [LowestAfterPrefix, if_neg same])

theorem chosenWords_between (flags : BitVec 32) (list : List Round) (j : BitVec 32)
    (ordered : value (list.map Round.minWord) ≤ value (list.map Round.maxWord))
    (lowest : LowestAfterPrefix (list.map Round.minWord) (list.map Round.maxWord)) :
    value (list.map Round.minWord) ≤ value (chosenWords linuxKernel flags list false j) ∧
      value (chosenWords linuxKernel flags list false j) ≤ value (list.map Round.maxWord) := by
  induction list generalizing j with
  | nil => exact ⟨Nat.le_refl _, Nat.le_refl _⟩
  | cons round rest ih =>
    have lengths : ∀ fullRange hash,
        (chosenWords linuxKernel flags rest fullRange hash).length = rest.length :=
      fun _ _ => chosenWords_length _ _ _ _ _
    by_cases same : round.minWord = round.maxWord
    · -- no choice in this word: the rest decides
      have fixed := boundedWord_fixed flags round.maxWord round.dstWord j
      simp only [List.map_cons, same] at ordered lowest ⊢
      rw [LowestAfterPrefix, if_pos rfl] at lowest
      rw [value_le_of_tail (by simp)] at ordered
      rw [chosenWords, same, fixed.1, fixed.2, value_le_of_tail (by simp [lengths]),
        value_le_of_tail (by simp [lengths])]
      exact ih _ ordered lowest
    · simp only [List.map_cons, LowestAfterPrefix, if_neg same] at lowest
      have less : (ntohl round.minWord).toNat < (ntohl round.maxWord).toNat := by
        by_contra above
        have differs : (ntohl round.maxWord).toNat ≠ (ntohl round.minWord).toNat :=
          fun equal => same (ntohl_injective (BitVec.eq_of_toNat_eq equal)).symm
        have reversed : value (List.map Round.maxWord (round :: rest)) <
            value (List.map Round.minWord (round :: rest)) :=
          value_lt_of_head (by simp) (by omega)
        omega
      have between := (boundedWord_between flags round.minWord round.maxWord round.dstWord j
        (Nat.le_of_lt less))
      constructor
      · rw [List.map_cons, value, value_zeros lowest, chosenWords, value, List.length_map,
          lengths]
        have product := Nat.mul_le_mul_right (2 ^ (32 * rest.length)) between.1
        omega
      · exact chosenWords_upper flags round rest j (Nat.le_of_lt less) lowest

theorem freeWords_zeroHash (flags : BitVec 32) (list : List Round)
    (still : ∀ round ∈ list, round.dstWord = 0) :
    ∀ word ∈ chosenWords linuxKernel flags list true 0, word = 0 := by
  have kernelScale : linuxKernel.reciprocalScale = reciprocalScale := rfl
  induction list with
  | nil => exact fun _ member => nomatch member
  | cons round rest ih =>
    have head : round.dstWord = 0 := still round (by simp)
    have word : leastusedWord linuxKernel flags round.minWord round.maxWord 0 true 0 =
        (0, true, 0) := by
      simp [leastusedWord, kernelScale]
      decide
    intro other member
    rw [chosenWords, head, word] at member
    rcases List.mem_cons.mp member with same | later
    · exact same
    · exact ih (fun candidate listed => still candidate (by simp [listed])) other later

theorem chosenWords_zeroHash (flags : BitVec 32) (list : List Round)
    (still : ∀ round ∈ list, round.dstWord = 0)
    (above : value (list.map Round.minWord) ≤ value (chosenWords linuxKernel flags list false 0)) :
    LowestAfterPrefix (list.map Round.minWord) (list.map Round.maxWord) := by
  have kernelScale : linuxKernel.reciprocalScale = reciprocalScale := rfl
  induction list with
  | nil => trivial
  | cons round rest ih =>
    have head : round.dstWord = 0 := still round (by simp)
    have later : ∀ other ∈ rest, other.dstWord = 0 :=
      fun other member => still other (by simp [member])
    have word : leastusedWord linuxKernel flags round.minWord round.maxWord 0 false 0 =
        (round.minWord, round.minWord != round.maxWord, 0) := by
      simp [leastusedWord, kernelScale, htonl_ntohl]
    simp only [List.map_cons, chosenWords, head, word] at above ⊢
    rw [value_le_of_tail (by simp [chosenWords_length])] at above
    by_cases same : round.minWord = round.maxWord
    · rw [LowestAfterPrefix, if_pos same]
      refine ih later ?_
      simpa [same] using above
    · rw [LowestAfterPrefix, if_neg same]
      have free : (round.minWord != round.maxWord) = true := by simpa using same
      rw [free, value_zeros (freeWords_zeroHash flags rest later)] at above
      exact zeros_of_value (Nat.le_zero.mp above)

def InPool6 (range : NatRange InetAddr) (addr : InetAddr) : Prop :=
  value range.minAddr.words ≤ value addr.words ∧ value addr.words ≤ value range.maxAddr.words

def zeroHashSource : InetAddr := ⟨0xb80d0120, 0, 0, 0x32000000⟩

theorem zeroHashSource_hkey : fullconeHkey linuxKernel zeroHashSource.words 0 = 0 := by decide

/-- The choice is in the pool for every packet when the minimum is the lowest
address of its prefix, and in no other case. -/
theorem inPool6_iff_lowest (range : NatRange InetAddr)
    (ordered : value range.minAddr.words ≤ value range.maxAddr.words) :
    (∀ zoneId src dst, InPool6 range (findLeastusedIp6 linuxKernel zoneId range src dst)) ↔
      LowestAfterPrefix range.minAddr.words range.maxAddr.words := by
  constructor
  · intro inPool
    have above := (inPool 0 zeroHashSource ⟨0, 0, 0, 0⟩).1
    have seed : (if hasFlag range.flags NF_NAT_RANGE_PERSISTENT then 0
        else (⟨0, 0, 0, 0⟩ : InetAddr).all3 ^^^ (0 : BitVec 16).setWidth 32) = 0 := by
      split
      · rfl
      · decide
    rw [findLeastusedIp6_words, seed, zeroHashSource_hkey] at above
    exact chosenWords_zeroHash range.flags (rounds range.minAddr range.maxAddr ⟨0, 0, 0, 0⟩)
      (by simp [rounds]) above
  · intro lowest zoneId src dst
    have between := chosenWords_between range.flags (rounds range.minAddr range.maxAddr dst)
      (fullconeHkey linuxKernel src.words
        (if hasFlag range.flags NF_NAT_RANGE_PERSISTENT then 0
          else dst.all3 ^^^ zoneId.setWidth 32)) ordered lowest
    rw [← findLeastusedIp6_words linuxKernel zoneId range src dst] at between
    exact between

/-- 2001:db8:: up to 2001:db8::1:0:0, and the same pool without its first address. -/
def wholePool6 : NatRange InetAddr :=
  ⟨NF_NAT_RANGE_MAP_IPS ||| NF_NAT_RANGE_PERSISTENT, ⟨0xb80d0120, 0, 0, 0⟩,
    ⟨0xb80d0120, 0, 0x01000000, 0⟩, 0, 0⟩

def upperPool6 : NatRange InetAddr := { wholePool6 with minAddr := ⟨0xb80d0120, 0, 0, 0x01000000⟩ }

theorem inPool6_iff_lowest_wholePool6 :
    InPool6 wholePool6 (findLeastusedIp6 linuxKernel 0 wholePool6 zeroHashSource
      ⟨0x60480120, 0x00006048, 0, 0x88880000⟩) :=
  (inPool6_iff_lowest wholePool6 (by decide)).mpr (by decide) 0 zeroHashSource _

/-- A packet to 2001:4860:4860::8888 leaves from below the pool. -/
theorem upperPool6_undercut :
    ¬ InPool6 upperPool6 (findLeastusedIp6 linuxKernel 0 upperPool6 zeroHashSource
      ⟨0x60480120, 0x00006048, 0, 0x88880000⟩) := by
  intro inPool
  exact absurd inPool.1 (by decide)

end OpenwrtSource.Fullcone.PoolSelection
