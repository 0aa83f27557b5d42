import OpenwrtSource.Hnat.BindFill
import OpenwrtSource.Lib.OnesComplement

/-!
# The checksum base of a tunnel header

The engine puts an IPv4 header of its own before the packets of a 6RD flow.  The
driver gives it the sum of the words that stay, without adding them: it takes
the words that change out of the checksum that the stack has computed.
-/

namespace OpenwrtSource.Hnat.ChecksumBase

open Hnat.BindPacket Lib.OnesComplement

inductive MtkHnatVersion
  | MTK_HNAT_V1_1
  | MTK_HNAT_V1_2
  | MTK_HNAT_V1_3
  | MTK_HNAT_V2
  | MTK_HNAT_V3
  deriving DecidableEq

def MtkHnatVersion.newerThanV2 : MtkHnatVersion → Bool
  | .MTK_HNAT_V3 => true
  | _ => false

def chkbaseSum (version : MtkHnatVersion) (iph : Iphdr) : BitVec 32 :=
  let chksumTmp : BitVec 16 := ~~~ iph.check
  let totLenTmp : BitVec 16 := ~~~ iph.totLen
  let idTmp : BitVec 16 := ~~~ iph.id
  if version.newerThanV2 then
    let dscpEcnTmp : BitVec 16 := ~~~ iph.tos.setWidth 16
    chksumTmp.setWidth 32 + totLenTmp.setWidth 32 + idTmp.setWidth 32 + dscpEcnTmp.setWidth 32
  else chksumTmp.setWidth 32 + totLenTmp.setWidth 32 + idTmp.setWidth 32

def chkbaseFold (tmp : BitVec 32) : BitVec 32 := (tmp >>> 16 &&& 0x7#32) + (tmp &&& 0xFFFF#32)

def ppeGetChkbaseOf (version : MtkHnatVersion) (iph : Iphdr) : BitVec 16 :=
  (chkbaseFold (chkbaseFold (chkbaseSum version iph))).setWidth 16

structure Ipv4Header where
  iph : Iphdr
  options : List (BitVec 16)

def Ipv4Header.words (hdr : Ipv4Header) : List (BitVec 16) :=
  [0x4#4 ++ hdr.iph.ihl ++ hdr.iph.tos, hdr.iph.totLen, hdr.iph.id, hdr.iph.fragOff,
    hdr.iph.ttl ++ hdr.iph.protocol, hdr.iph.check,
    hdr.iph.saddr.extractLsb' 16 16, hdr.iph.saddr.setWidth 16,
    hdr.iph.daddr.extractLsb' 16 16, hdr.iph.daddr.setWidth 16] ++ hdr.options

structure Replacement where
  totLen : BitVec 16
  id : BitVec 16
  tos : BitVec 8

def Replacement.words (version : MtkHnatVersion) (fields : Replacement) : List (BitVec 16) :=
  if version.newerThanV2 then [fields.totLen, fields.id, fields.tos.setWidth 16]
  else [fields.totLen, fields.id]

def fieldsOf (iph : Iphdr) : Replacement := ⟨iph.totLen, iph.id, iph.tos⟩

def rewritten (version : MtkHnatVersion) (new : Replacement) (hdr : Ipv4Header) : Ipv4Header :=
  let tos := if version.newerThanV2 then new.tos else hdr.iph.tos
  { hdr with iph := { hdr.iph with totLen := new.totLen, id := new.id, tos := tos } }

/-- The checksum from scratch, of the header with a zero in the place of its checksum. -/
def ipFastCsum (hdr : Ipv4Header) : BitVec 16 :=
  checksum { hdr with iph := { hdr.iph with check := 0 } }.words

/-- The checksum of the engine: the fields are added to the base. -/
def completed (version : MtkHnatVersion) (base : BitVec 16) (new : Replacement) : BitVec 16 :=
  finish 16 (base.toNat + total (new.words version))

/-- The words that stay, the TOS taken out where the engine fills it in. -/
def Ipv4Header.rest (version : MtkHnatVersion) (hdr : Ipv4Header) : List (BitVec 16) :=
  let tos := if version.newerThanV2 then 0#8 else hdr.iph.tos
  [0x4#4 ++ hdr.iph.ihl ++ tos, hdr.iph.fragOff, hdr.iph.ttl ++ hdr.iph.protocol,
    hdr.iph.saddr.extractLsb' 16 16, hdr.iph.saddr.setWidth 16,
    hdr.iph.daddr.extractLsb' 16 16, hdr.iph.daddr.setWidth 16] ++ hdr.options

theorem toNat_append_byte {w : Nat} (high : BitVec w) (low : BitVec 8) :
    (high ++ low).toNat = high.toNat <<< 8 + low.toNat := by
  rw [BitVec.toNat_append, Nat.shiftLeft_add_eq_or_of_lt low.isLt]

theorem toNat_firstWord (ihl : BitVec 4) (tos : BitVec 8) :
    (0x4#4 ++ ihl ++ tos).toNat = (0x4#4 ++ ihl ++ 0#8).toNat + (tos.setWidth 16).toNat := by
  have fits := tos.isLt
  rw [toNat_append_byte, toNat_append_byte (0x4#4 ++ ihl) 0#8, BitVec.toNat_setWidth,
    Nat.mod_eq_of_lt (by omega)]
  rfl

theorem total_words (version : MtkHnatVersion) (hdr : Ipv4Header) :
    total hdr.words =
      total (hdr.iph.check :: (fieldsOf hdr.iph).words version) + total (hdr.rest version) := by
  unfold Ipv4Header.words Ipv4Header.rest Replacement.words fieldsOf
  cases version.newerThanV2
  · simp only [Bool.false_eq_true, if_false, total_append, total_cons, total_nil]
    omega
  · simp only [if_true, total_append, total_cons, total_nil]
    have first := toNat_firstWord hdr.iph.ihl hdr.iph.tos
    rw [first]
    omega

theorem ipFastCsum_rewritten (version : MtkHnatVersion) (new : Replacement) (hdr : Ipv4Header) :
    ipFastCsum (rewritten version new hdr) =
      checksum (hdr.rest version ++ new.words version) := by
  have whole := total_words version
    { rewritten version new hdr with iph := { (rewritten version new hdr).iph with check := 0 } }
  unfold ipFastCsum checksum
  rw [whole]
  unfold rewritten fieldsOf Ipv4Header.rest Replacement.words
  cases version.newerThanV2
  · simp only [Bool.false_eq_true, if_false, total_append, total_cons, total_nil,
      BitVec.toNat_zero, BitVec.ofNat_eq_ofNat]
    congr 1
    omega
  · simp only [if_true, total_append, total_cons, total_nil, BitVec.toNat_zero,
      BitVec.ofNat_eq_ofNat]
    congr 1
    omega

def summands (version : MtkHnatVersion) (iph : Iphdr) : Nat :=
  total ((iph.check :: (fieldsOf iph).words version).map fun word => ~~~ word)

/-- No bit is lost: the sum fits, the mask takes no carry away, and the base is stored whole. -/
structure Fits (version : MtkHnatVersion) (iph : Iphdr) : Prop where
  sum : (chkbaseSum version iph).toNat = summands version iph
  carries : chkbaseSum version iph >>> 16 &&& 0x7#32 = chkbaseSum version iph >>> 16
  refolded : chkbaseFold (chkbaseSum version iph) >>> 16 &&& 0x7#32 =
    chkbaseFold (chkbaseSum version iph) >>> 16
  stored : (chkbaseFold (chkbaseFold (chkbaseSum version iph))).toNat < 2 ^ 16

theorem toNat_chkbaseSum (version : MtkHnatVersion) (iph : Iphdr) :
    (chkbaseSum version iph).toNat = summands version iph ∧ summands version iph < 2 ^ 18 := by
  have check := (~~~ iph.check).isLt
  have totLen := (~~~ iph.totLen).isLt
  have id := (~~~ iph.id).isLt
  have tos := (~~~ iph.tos.setWidth 16).isLt
  unfold chkbaseSum summands Replacement.words fieldsOf
  cases version.newerThanV2
  · simp only [Bool.false_eq_true, if_false, List.map_cons, List.map_nil, total_cons,
      total_nil, BitVec.toNat_add, BitVec.toNat_setWidth]
    omega
  · simp only [if_true, List.map_cons, List.map_nil, total_cons, total_nil,
      BitVec.toNat_add, BitVec.toNat_setWidth]
    omega

theorem carries_kept {tmp : BitVec 32} (fits : tmp.toNat < 2 ^ 19) :
    tmp >>> 16 &&& 0x7#32 = tmp >>> 16 := by
  apply BitVec.eq_of_toNat_eq
  have mask : (0x7#32).toNat = 2 ^ 3 - 1 := rfl
  rw [BitVec.toNat_and, BitVec.toNat_ushiftRight, mask, Nat.and_two_pow_sub_one_eq_mod,
    Nat.shiftRight_eq_div_pow]
  exact Nat.mod_eq_of_lt (by omega)

theorem toNat_chkbaseFold {tmp : BitVec 32} (fits : tmp.toNat < 2 ^ 19) :
    (chkbaseFold tmp).toNat = foldOnce 16 tmp.toNat := by
  have mask : (0xFFFF#32).toNat = 2 ^ 16 - 1 := rfl
  unfold chkbaseFold foldOnce
  rw [carries_kept fits, BitVec.toNat_add, BitVec.toNat_and, BitVec.toNat_ushiftRight, mask,
    Nat.and_two_pow_sub_one_eq_mod, Nat.shiftRight_eq_div_pow]
  omega

section

variable (version : MtkHnatVersion) (iph : Iphdr)

theorem chkbaseFold_lt : (chkbaseFold (chkbaseSum version iph)).toNat < 2 ^ 17 := by
  obtain ⟨sum, bound⟩ := toNat_chkbaseSum version iph
  rw [toNat_chkbaseFold (by omega), foldOnce]
  omega

theorem toNat_chkbaseFold_twice :
    (chkbaseFold (chkbaseFold (chkbaseSum version iph))).toNat =
      foldOnce 16 (foldOnce 16 (summands version iph)) := by
  obtain ⟨sum, bound⟩ := toNat_chkbaseSum version iph
  have folded := chkbaseFold_lt version iph
  rw [toNat_chkbaseFold (by omega), toNat_chkbaseFold (by omega), sum]

theorem chkbase_fits : Fits version iph where
  sum := (toNat_chkbaseSum version iph).1
  carries := carries_kept (by have := toNat_chkbaseSum version iph; omega)
  refolded := carries_kept (by have := chkbaseFold_lt version iph; omega)
  stored := by
    have bound := (toNat_chkbaseSum version iph).2
    rw [toNat_chkbaseFold_twice]
    exact foldOnce_foldOnce_lt (by omega)

theorem toNat_ppeGetChkbaseOf :
    (ppeGetChkbaseOf version iph).toNat = foldOnce 16 (foldOnce 16 (summands version iph)) := by
  have stored := (chkbase_fits version iph).stored
  rw [ppeGetChkbaseOf, BitVec.toNat_setWidth, Nat.mod_eq_of_lt stored, toNat_chkbaseFold_twice]

theorem ppeGetChkbaseOf_base :
    Base (ppeGetChkbaseOf version iph).toNat iph.check ((fieldsOf iph).words version) := by
  have folded : (ppeGetChkbaseOf version iph).toNat ≡ summands version iph [MOD 2 ^ 16 - 1] := by
    rw [toNat_ppeGetChkbaseOf]
    exact (foldOnce_modEq 16 _).trans (foldOnce_modEq 16 _)
  exact (Nat.ModEq.add_right _ folded).trans (total_not_add_modEq _)

end

section

variable (version : MtkHnatVersion) (hdr : Ipv4Header) (new : Replacement)

theorem firstWord_pos : ∀ ihl : BitVec 4, 0 < (0x4#4 ++ ihl ++ 0#8).toNat := by decide

theorem total_words_pos : 0 < total hdr.words := by
  have first := firstWord_pos hdr.iph.ihl
  rw [Ipv4Header.words, List.cons_append, total_cons, toNat_firstWord]
  omega

theorem verifies_words_iff :
    Verifies hdr.words ↔
      total (hdr.iph.check :: (fieldsOf hdr.iph).words version) + total (hdr.rest version) ≡
        0 [MOD 2 ^ 16 - 1] := by
  rw [verifies_iff (by omega), ← total_words version hdr]
  exact and_iff_right (total_words_pos hdr)

theorem completed_same_iff :
    Same (completed version (ppeGetChkbaseOf version hdr.iph) new)
        (ipFastCsum (rewritten version new hdr)) ↔
      Verifies hdr.words := by
  rw [ipFastCsum_rewritten, verifies_words_iff version]
  exact same_replaced_iff (by omega) (ppeGetChkbaseOf_base version hdr.iph) _ _

/-- The completed base is the checksum of the rewritten header exactly when the checksum
of the header was right. -/
theorem ppeGetChkbaseOf_completes_iff :
    Fits version hdr.iph ∧
      (Same (completed version (ppeGetChkbaseOf version hdr.iph) new)
          (ipFastCsum (rewritten version new hdr)) ↔
        Verifies hdr.words) :=
  ⟨chkbase_fits version hdr.iph, completed_same_iff version hdr new⟩

end

def uncheckedHeader : Ipv4Header where
  iph :=
    { ihl := 5, tos := 0, totLen := 84, id := 1, fragOff := 0, ttl := 64, protocol := 41,
      check := 0, saddr := 0xC0A80001, daddr := 0xC0A80002 }
  options := []

theorem uncheckedHeader_completes_wrong :
    ¬ Same
      (completed .MTK_HNAT_V3 (ppeGetChkbaseOf .MTK_HNAT_V3 uncheckedHeader.iph) ⟨120, 2, 0⟩)
      (ipFastCsum (rewritten .MTK_HNAT_V3 ⟨120, 2, 0⟩ uncheckedHeader)) := by
  rw [completed_same_iff, verifies_iff (by omega)]
  rintro ⟨_, multiple⟩
  revert multiple
  decide

end OpenwrtSource.Hnat.ChecksumBase
