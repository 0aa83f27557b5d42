import OpenwrtSource.Fullcone.Tuple

/-!
# The fullcone expression between userland and kernel

The build and parse functions of libnftnl, the attribute table that the kernel
reads a message into, and the init, dump and eval of the kernel's expression.
Each side numbers the attributes by its own enum.
-/

namespace OpenwrtSource.Fullcone.Expression

open Fullcone.Tuple Fullcone.L3Family

/-- A netlink attribute with a `NLA_U32` payload. -/
structure Nlattr where
  type : Nat
  payload : Be32
deriving DecidableEq, Repr

/-- The table of attributes that `nla_parse` and `mnl_attr_parse_nested` fill:
types above `max` are skipped, and the last attribute of a type stays. -/
def attributeTable (max : Nat) (attrs : List Nlattr) (type : Nat) : Option Be32 :=
  if type ≤ max then (attrs.findRev? fun attr => attr.type = type).map Nlattr.payload
  else none

namespace Libnftnl

def NFTA_FULLCONE_FLAGS : Nat := 1
def NFTA_FULLCONE_REG_PROTO_MIN : Nat := 2
def NFTA_FULLCONE_REG_PROTO_MAX : Nat := 3
def NFTA_FULLCONE_MAX : Nat := 3

end Libnftnl

/-- `struct nftnl_expr_fullcone` with the bits of `e->flags` that say which fields
are set. -/
structure NftnlExprFullcone where
  flags : Option (BitVec 32)
  sregProtoMin : Option (BitVec 32)
  sregProtoMax : Option (BitVec 32)
deriving DecidableEq, Repr

/-- `mnl_attr_put_u32(nlh, type, htobe32(value))`, for a field that is set. -/
def putField (type : Nat) (field : Option (BitVec 32)) : List Nlattr :=
  match field with
  | none => []
  | some value => [⟨type, htonl value⟩]

def nftnlExprFullconeBuild (e : NftnlExprFullcone) : List Nlattr :=
  putField Libnftnl.NFTA_FULLCONE_FLAGS e.flags ++
    putField Libnftnl.NFTA_FULLCONE_REG_PROTO_MIN e.sregProtoMin ++
      putField Libnftnl.NFTA_FULLCONE_REG_PROTO_MAX e.sregProtoMax

/-- `nftnl_expr_fullcone_parse`, into a new expression. -/
def nftnlExprFullconeParse (attrs : List Nlattr) : NftnlExprFullcone :=
  let tb := attributeTable Libnftnl.NFTA_FULLCONE_MAX attrs
  { flags := (tb Libnftnl.NFTA_FULLCONE_FLAGS).map ntohl
    sregProtoMin := (tb Libnftnl.NFTA_FULLCONE_REG_PROTO_MIN).map ntohl
    sregProtoMax := (tb Libnftnl.NFTA_FULLCONE_REG_PROTO_MAX).map ntohl }

namespace NftExt

def NFTA_FULLCONE_REG_PROTO_MIN : Nat := 1
def NFTA_FULLCONE_REG_PROTO_MAX : Nat := 2
def NFTA_FULLCONE_FLAGS : Nat := 3
def NFTA_FULLCONE_MAX : Nat := 3

end NftExt

structure NftFullcone where
  flags : BitVec 32
  sregProtoMin : BitVec 8
  sregProtoMax : BitVec 8
deriving DecidableEq, Repr

structure ModuleState where
  moduleReferCount : Int
  ctEventNotifierRegistered : Bool
deriving DecidableEq, Repr

/-- What the expression takes from nf_tables: the conversion between register
numbers of the netlink interface and indices into `regs->data`. -/
structure Registers where
  parse : BitVec 32 → BitVec 8
  dump : BitVec 8 → BitVec 32

/-- `nft_fullcone_init`: its error code, the private data and the module afterwards.
The attribute table is an argument of it that it does not read. -/
def nftFullconeInit (netnsGet registerNotifier : Int) (_tb : Nat → Option Be32)
    (priv : NftFullcone) (m : ModuleState) : Int × NftFullcone × ModuleState :=
  let count := m.moduleReferCount + 1
  let registered :=
    if count = 1 then
      if registerNotifier ≠ 0 then m.ctEventNotifierRegistered else true
    else m.ctEventNotifierRegistered
  (netnsGet, priv, ⟨count, registered⟩)

/-- `nla_put_be32`, into a message with room for a number of attributes. -/
def nlaPutBe32 (room : Nat) (skb : List Nlattr) (type : Nat) (value : Be32) :
    Option (List Nlattr) :=
  if skb.length < room then some (skb ++ [⟨type, value⟩]) else none

def nftFullconeDump (registers : Registers) (room : Nat) (priv : NftFullcone) :
    Option (List Nlattr) := do
  let skb ←
    if priv.flags ≠ 0 then nlaPutBe32 room [] NftExt.NFTA_FULLCONE_FLAGS (htonl priv.flags)
    else some []
  if priv.sregProtoMin ≠ 0 then
    let skb ← nlaPutBe32 room skb NftExt.NFTA_FULLCONE_REG_PROTO_MIN
      (htonl (registers.dump priv.sregProtoMin))
    nlaPutBe32 room skb NftExt.NFTA_FULLCONE_REG_PROTO_MAX
      (htonl (registers.dump priv.sregProtoMax))
  else some skb

/-- `nft_fullcone_set_regs` on the zeroed range of an eval function; `data` is
`regs->data`, of which `nft_reg_load16` takes the low half. -/
def nftFullconeSetRegs (priv : NftFullcone) (data : BitVec 8 → BitVec 32) : NatRange Be32 :=
  { flags := priv.flags
    minAddr := 0
    maxAddr := 0
    minProto := if priv.sregProtoMin ≠ 0 then (data priv.sregProtoMin).setWidth 16 else 0
    maxProto := if priv.sregProtoMin ≠ 0 then (data priv.sregProtoMax).setWidth 16 else 0 }

/-- The range that a packet is to be evaluated with under an expression. -/
def configuredRange (registers : Registers) (e : NftnlExprFullcone)
    (data : BitVec 8 → BitVec 32) : NatRange Be32 :=
  { flags := e.flags.getD 0
    minAddr := 0
    maxAddr := 0
    minProto := match e.sregProtoMin with
      | some reg => (data (registers.parse reg)).setWidth 16
      | none => 0
    maxProto := match e.sregProtoMax with
      | some reg => (data (registers.parse reg)).setWidth 16
      | none => 0 }

/-- Build, init, dump and parse give the expression back, and packets are evaluated
with its configuration. -/
def RoundTrips (registers : Registers) (netnsGet registerNotifier : Int) (priv : NftFullcone)
    (m : ModuleState) (room : Nat) (e : NftnlExprFullcone) : Prop :=
  let tb := attributeTable NftExt.NFTA_FULLCONE_MAX (nftnlExprFullconeBuild e)
  let initialised := nftFullconeInit netnsGet registerNotifier tb priv m
  initialised.1 = 0 ∧
    (nftFullconeDump registers room initialised.2.1).map nftnlExprFullconeParse = some e ∧
    ∀ data, nftFullconeSetRegs initialised.2.1 data = configuredRange registers e data

theorem nftFullconeDump_zeroed (registers : Registers) (room : Nat) :
    nftFullconeDump registers room ⟨0, 0, 0⟩ = some [] := by
  simp [nftFullconeDump]

theorem nftnlExprFullconeParse_nil : nftnlExprFullconeParse [] = ⟨none, none, none⟩ := by
  simp [nftnlExprFullconeParse, attributeTable]

/-- The configuration arrives exactly when it is empty.  nf_tables zeroes the
private data before init, and takes the reference on conntrack. -/
theorem configuration_round_trips_iff (registers : Registers)
    (netnsGet registerNotifier : Int) (priv : NftFullcone) (m : ModuleState) (room : Nat)
    (e : NftnlExprFullcone) (accepted : netnsGet = 0) (zeroed : priv = ⟨0, 0, 0⟩) :
    RoundTrips registers netnsGet registerNotifier priv m room e ↔
      e.flags = none ∧ e.sregProtoMin = none ∧ e.sregProtoMax = none := by
  subst accepted zeroed
  constructor
  · rintro ⟨-, returned, -⟩
    simp only [nftFullconeInit, nftFullconeDump_zeroed, Option.map_some,
      nftnlExprFullconeParse_nil, Option.some.injEq] at returned
    rw [← returned]
    exact ⟨rfl, rfl, rfl⟩
  · rintro ⟨noFlags, noMin, noMax⟩
    obtain ⟨flags, sregProtoMin, sregProtoMax⟩ := e
    simp only at noFlags noMin noMax
    subst noFlags noMin noMax
    refine ⟨rfl, ?_, fun data => ?_⟩
    · simp only [nftFullconeInit, nftFullconeDump_zeroed, Option.map_some,
        nftnlExprFullconeParse_nil]
    · simp [nftFullconeInit, nftFullconeSetRegs, configuredRange]

/-- `nft_parse_register` and `nft_dump_register`: the 128-bit registers 1 to 4 are
four words each, the 32-bit registers from 8 on are the same words. -/
def nftRegisters : Registers where
  parse reg := if reg ≤ 4 then (4 * reg).setWidth 8 else (reg + 4 - 8).setWidth 8
  dump reg := if reg % 4 = 0 then (reg / 4).setWidth 32 else (reg - 4).setWidth 32 + 8

/-- `fullcone random` loses its flag. -/
def randomExpr : NftnlExprFullcone := ⟨some NF_NAT_RANGE_PROTO_RANDOM, none, none⟩

theorem configuration_round_trips_iff_randomExpr :
    RoundTrips nftRegisters 0 0 ⟨0, 0, 0⟩ ⟨0, false⟩ 8 randomExpr ↔
      randomExpr.flags = none ∧ randomExpr.sregProtoMin = none ∧
        randomExpr.sregProtoMax = none :=
  configuration_round_trips_iff nftRegisters 0 0 ⟨0, 0, 0⟩ ⟨0, false⟩ 8 randomExpr rfl rfl

theorem randomExpr_lost :
    ¬ RoundTrips nftRegisters 0 0 ⟨0, 0, 0⟩ ⟨0, false⟩ 8 randomExpr := by
  rintro ⟨-, returned, -⟩
  exact absurd returned (by decide)

end OpenwrtSource.Fullcone.Expression
