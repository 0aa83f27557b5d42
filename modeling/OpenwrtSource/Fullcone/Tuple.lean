import Mathlib.Data.List.Basic

/-!
# Addresses, tuples and the conntrack table

The data that the full-cone library reads from the kernel: raw network-order
words as a little-endian host loads them, `union nf_inet_addr`, conntrack
tuples, and the table that `nf_conntrack_find_get` searches.
-/

namespace OpenwrtSource.Fullcone.Tuple

/-- `__be32` and `__be16`, as the raw word a little-endian host loads. -/
abbrev Be32 := BitVec 32
abbrev Be16 := BitVec 16

def Be32.bytes (word : Be32) : List (BitVec 8) :=
  [word.extractLsb' 0 8, word.extractLsb' 8 8, word.extractLsb' 16 8, word.extractLsb' 24 8]

def ntohl (word : Be32) : BitVec 32 :=
  word.extractLsb' 0 8 ++ word.extractLsb' 8 8 ++ word.extractLsb' 16 8 ++
    word.extractLsb' 24 8

def htonl (word : BitVec 32) : Be32 := ntohl word

@[simp] theorem ntohl_htonl (word : BitVec 32) : ntohl (htonl word) = word := by
  unfold htonl ntohl
  apply BitVec.eq_of_getLsbD_eq
  intro i bound
  simp only [BitVec.getLsbD_append, BitVec.getLsbD_extractLsb']
  -- the byte that the bit stands in
  by_cases first : i < 8
  · have last : ¬ 24 + i < 24 := by omega
    grind
  · by_cases second : i < 16
    · grind
    · by_cases third : i < 24
      · grind
      · grind

def be16ToCpu (half : Be16) : BitVec 16 :=
  half.extractLsb' 0 8 ++ half.extractLsb' 8 8

def cpuToBe16 (half : BitVec 16) : Be16 := be16ToCpu half

@[simp] theorem be16ToCpu_cpuToBe16 (half : BitVec 16) : be16ToCpu (cpuToBe16 half) = half := by
  unfold cpuToBe16 be16ToCpu
  apply BitVec.eq_of_getLsbD_eq
  intro i bound
  simp only [BitVec.getLsbD_append, BitVec.getLsbD_extractLsb']
  by_cases low : i < 8
  · have outside : ¬ 8 + i < 8 := by omega
    simp [low, outside]
  · have high : i - 8 < 8 := by omega
    have back : 8 + (i - 8) = i := by omega
    simp [low, back, high]

/-- `memcmp` over two byte strings of the same length. -/
def memcmp : List (BitVec 8) → List (BitVec 8) → Int
  | left :: lefts, right :: rights =>
    if left = right then memcmp lefts rights else (left.toNat : Int) - right.toNat
  | _, _ => 0

/-- `union nf_inet_addr`, by its `all` view; the `ip` view is the first word. -/
structure InetAddr where
  all0 : Be32
  all1 : Be32
  all2 : Be32
  all3 : Be32
deriving DecidableEq, Repr

def InetAddr.words (addr : InetAddr) : List Be32 :=
  [addr.all0, addr.all1, addr.all2, addr.all3]

/-- The members of `struct nf_conntrack_tuple` that `nf_ct_tuple_equal` compares. -/
structure CtTuple where
  srcU3 : InetAddr
  srcPort : Be16
  srcL3num : BitVec 16
  dstU3 : InetAddr
  dstPort : Be16
  dstProtonum : BitVec 8
deriving DecidableEq, Repr

def PF_INET : BitVec 16 := 2
def PF_INET6 : BitVec 16 := 10
def IPPROTO_UDP : BitVec 8 := 17

/-- A network namespace together with a conntrack zone of it: the two arguments
that scope every `nf_conntrack_find_get`. -/
structure Scope where
  net : Nat
  zone : BitVec 16
deriving DecidableEq, Repr

/-- A conntrack that exists: from its creation for a new flow until its
destruction.  Confirmation puts it into the conntrack hash table. -/
structure Conn where
  scope : Scope
  original : CtTuple
  reply : CtTuple
  confirmed : Bool
deriving DecidableEq, Repr

/-- `nf_conntrack_find_get(net, zone, tuple) != NULL`: a confirmed conntrack of
the namespace and zone has the tuple in one of its two directions. -/
def nfConntrackFindGet (conntrack : List Conn) (scope : Scope) (tuple : CtTuple) : Bool :=
  conntrack.any fun ct =>
    ct.confirmed && ct.scope = scope && (ct.original = tuple || ct.reply = tuple)

/-- Some conntrack with this original tuple exists, confirmed or not. -/
def alive (conntrack : List Conn) (tuple : CtTuple) : Bool :=
  conntrack.any fun ct => ct.original = tuple

/-- `struct tuple_list`: the two tuples of a destroyed conntrack. -/
structure TupleList where
  tupleOriginal : CtTuple
  tupleReply : CtTuple
deriving DecidableEq, Repr

end OpenwrtSource.Fullcone.Tuple

/-!
# The two L3 protocols of the library

The IPv4 and the IPv6 half of `nf_nat_fullcone.c` are the same code over
`__be32` and `union nf_inet_addr`.  A `Family` holds what differs: the words
that are hashed, the member of `union nf_inet_addr` that is read, the bytes
that `memcmp` compares and the address choice in a pool.
-/

namespace OpenwrtSource.Fullcone.L3Family

open Fullcone.Tuple

/-- Kernel functions used by the library: `jhash2`, the bucket choice of
`hash_add` in a table of 2^10 buckets, and `reciprocal_scale`. -/
structure Kernel where
  jhash2 : List (BitVec 32) → BitVec 32 → BitVec 32
  hashMin : BitVec 32 → Fin 1024
  reciprocalScale : BitVec 32 → BitVec 32 → BitVec 32

def HASHTABLE_BUCKET_BITS : Nat := 10

/-- `FULLCONE_HKEY` at `HASHTABLE_BUCKET_BITS`. -/
def fullconeHkey (k : Kernel) (data : List Be32) (initval : BitVec 32) : BitVec 32 :=
  k.jhash2 data initval &&& ((1 <<< HASHTABLE_BUCKET_BITS) - 1)

def NF_NAT_RANGE_MAP_IPS : BitVec 32 := 1 <<< 0
def NF_NAT_RANGE_PROTO_SPECIFIED : BitVec 32 := 1 <<< 1
def NF_NAT_RANGE_PROTO_RANDOM : BitVec 32 := 1 <<< 2
def NF_NAT_RANGE_PERSISTENT : BitVec 32 := 1 <<< 3
def NF_NAT_RANGE_PROTO_RANDOM_FULLY : BitVec 32 := 1 <<< 4

def hasFlag (flags flag : BitVec 32) : Bool := flags &&& flag != 0

/-- `struct nf_nat_range2`; `base_proto` is only ever cleared. -/
structure NatRange (A : Type) where
  flags : BitVec 32
  minAddr : A
  maxAddr : A
  minProto : Be16
  maxProto : Be16
deriving DecidableEq, Repr

def findLeastusedIp (k : Kernel) (zoneId : BitVec 16) (range : NatRange Be32)
    (src dst : Be32) : Be32 :=
  let j := fullconeHkey k [src]
    (if hasFlag range.flags NF_NAT_RANGE_PERSISTENT then 0 else dst ^^^ zoneId.setWidth 32)
  let minip := ntohl range.minAddr
  let maxip := ntohl range.maxAddr
  let dist := maxip - minip + 1
  htonl (minip + k.reciprocalScale j dist)

/-- One word of the loop in `find_leastused_ip6`, from and to `full_range` and
the hash `j`. -/
def leastusedWord (k : Kernel) (flags : BitVec 32) (minWord maxWord dstWord : Be32)
    (fullRange : Bool) (j : BitVec 32) : Be32 × Bool × BitVec 32 :=
  let minip := if fullRange then 0 else ntohl minWord
  let dist := if fullRange then ~~~0 else ntohl maxWord - ntohl minWord + 1
  let word := htonl (minip + k.reciprocalScale j dist)
  (word, fullRange || word != maxWord,
    if hasFlag flags NF_NAT_RANGE_PERSISTENT then j else j ^^^ dstWord)

def findLeastusedIp6 (k : Kernel) (zoneId : BitVec 16) (range : NatRange InetAddr)
    (src dst : InetAddr) : InetAddr :=
  let j := fullconeHkey k src.words
    (if hasFlag range.flags NF_NAT_RANGE_PERSISTENT then 0
      else dst.all3 ^^^ zoneId.setWidth 32)
  let lo := range.minAddr
  let hi := range.maxAddr
  let w0 := leastusedWord k range.flags lo.all0 hi.all0 dst.all0 false j
  let w1 := leastusedWord k range.flags lo.all1 hi.all1 dst.all1 w0.2.1 w0.2.2
  let w2 := leastusedWord k range.flags lo.all2 hi.all2 dst.all2 w1.2.1 w1.2.2
  let w3 := leastusedWord k range.flags lo.all3 hi.all3 dst.all3 w2.2.1 w2.2.2
  ⟨w0.1, w1.1, w2.1, w3.1⟩

structure Family (A : Type) where
  words : A → List Be32
  u3 : InetAddr → A
  bytes : A → List (BitVec 8)
  findLeastused : Kernel → BitVec 16 → NatRange A → A → A → A

def ipv4 : Family Be32 where
  words addr := [addr]
  u3 addr := addr.all0
  bytes addr := addr.bytes
  findLeastused := findLeastusedIp

def ipv6 : Family InetAddr where
  words addr := addr.words
  u3 addr := addr
  bytes addr := addr.words.flatMap Be32.bytes
  findLeastused := findLeastusedIp6

end OpenwrtSource.Fullcone.L3Family
