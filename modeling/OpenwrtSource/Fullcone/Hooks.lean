import OpenwrtSource.Fullcone.PortSearch

/-!
# The two NAT hooks

`nf_nat_handle_prerouting` and `nf_nat_handle_postrouting` as one definition
over a family.  A packet carries what the hooks read from the kernel: the
original tuple of its conntrack, the outcome of `nf_nat_setup_info` for any
range, the source address the interface would use and the `kmalloc` outcomes.
Postrouting is cut where the code says "do SNAT now": `selectMapping` fixes the
range, `saveMapping` records the result.
-/

namespace OpenwrtSource.Fullcone.Hooks

open Lib.Index Fullcone.Tuple Fullcone.L3Family Fullcone.Mapping Fullcone.TableEffects
open Fullcone.PortSearch

variable {A : Type} [DecidableEq A]

inductive Verdict where
  | NF_DROP
  | NF_ACCEPT
  | NFT_CONTINUE
  | other (code : BitVec 32)
deriving DecidableEq, Repr

structure PreroutingPacket (A : Type) where
  scope : Scope
  original : CtTuple
  setupInfo : NatRange A → Verdict
  kmalloc : Bool

/-- `saddr` is the address of `inet_select_addr` or `nat_ipv6_dev_get_saddr`,
`none` when there is none; `setupInfo` returns the verdict and the reply tuple
that the conntrack has afterwards. -/
structure PostroutingPacket (A : Type) where
  scope : Scope
  original : CtTuple
  range : NatRange A
  saddr : Option A
  random : BitVec 32
  setupInfo : NatRange A → Verdict × CtTuple
  kmallocMapping : Bool
  kmallocTuple : Bool

/-- The range of a translation to one endpoint, as both hooks build it. -/
def singleRange (addr : A) (port : BitVec 16) : NatRange A :=
  ⟨NF_NAT_RANGE_MAP_IPS ||| NF_NAT_RANGE_PROTO_SPECIFIED, addr, addr,
    cpuToBe16 port, cpuToBe16 port⟩

def PreroutingPacket.extAddr (fam : Family A) (packet : PreroutingPacket A) : A :=
  fam.u3 packet.original.dstU3

def PreroutingPacket.extPort (packet : PreroutingPacket A) : BitVec 16 :=
  be16ToCpu packet.original.dstPort

def PostroutingPacket.intAddr (fam : Family A) (packet : PostroutingPacket A) : A :=
  fam.u3 packet.original.srcU3

def PostroutingPacket.intPort (packet : PostroutingPacket A) : BitVec 16 :=
  be16ToCpu packet.original.srcPort

def nfNatHandlePrerouting (k : Kernel) (fam : Family A) (find : CtTuple → Bool)
    (packet : PreroutingPacket A) (t : Tables A) : Verdict × Tables A :=
  if packet.original.dstProtonum ≠ IPPROTO_UDP then (.NFT_CONTINUE, t)
  else
    let looked := getMappingByExtPort k find packet.extPort (packet.extAddr fam) t
    match looked.1 with
    | none => (.NFT_CONTINUE, looked.2)
    | some id =>
      match looked.2.heap id with
      | none => (.NFT_CONTINUE, looked.2)
      | some mapping =>
        let ret := packet.setupInfo (singleRange mapping.intAddr mapping.intPort)
        if ret = .NF_ACCEPT then
          (ret, addOriginalTupleToMapping packet.kmalloc id packet.original looked.2)
        else (ret, looked.2)

/-- The address part of `newrange`, `none` where the hook drops the packet. -/
def PostroutingPacket.addresses (packet : PostroutingPacket A) : Option (A × A) :=
  if hasFlag packet.range.flags NF_NAT_RANGE_MAP_IPS then
    some (packet.range.minAddr, packet.range.maxAddr)
  else packet.saddr.map fun newsrc => (newsrc, newsrc)

/-- `src_mapping` as it is first looked up. -/
def sourceMapping (k : Kernel) (fam : Family A) (packet : PostroutingPacket A)
    (minAddr maxAddr : A) (t : Tables A) : Option Nat :=
  if minAddr ≠ maxAddr then
    getMappingByIntSrcInrange k fam (packet.intAddr fam) packet.intPort minAddr maxAddr t
  else getMappingByIntSrc k fam (packet.intAddr fam) packet.intPort minAddr t

def chosenAddress (k : Kernel) (fam : Family A) (packet : PostroutingPacket A)
    (minAddr maxAddr : A) : A :=
  if minAddr ≠ maxAddr then
    fam.findLeastused k packet.scope.zone packet.range (packet.intAddr fam)
      (fam.u3 packet.original.dstU3)
  else minAddr

/-- `newrange`, `src_mapping` and the tables when SNAT is about to be done. -/
structure Selection (A : Type) where
  newrange : NatRange A
  srcMapping : Option Nat
  tables : Tables A

def selectMapping (k : Kernel) (fam : Family A) (find : CtTuple → Bool)
    (packet : PostroutingPacket A) (minAddr maxAddr : A) (t : Tables A) : Selection A :=
  let srcMapping := sourceMapping k fam packet minAddr maxAddr t
  let checked : Bool × Tables A :=
    match srcMapping with
    | none => (false, t)
    | some id => checkMapping find id t
  match checked.1, srcMapping.bind checked.2.heap with
  | true, some mapping =>
    -- outbound nat: a previously established mapping is reused
    let addr := if minAddr ≠ maxAddr then mapping.addr else minAddr
    ⟨singleRange addr mapping.port, srcMapping, checked.2⟩
  | _, _ =>
    let addr := chosenAddress k fam packet minAddr maxAddr
    let searched := findAppropriatePort k find packet.random packet.intPort addr
      packet.range checked.2
    ⟨singleRange addr searched.1, none, searched.2⟩

/-- "save the mapping information into our mapping table". -/
def saveMapping (k : Kernel) (fam : Family A) (packet : PostroutingPacket A)
    (srcMapping : Option Nat) (reply : CtTuple) (t : Tables A) : Tables A :=
  let saved : Option Nat × Tables A :=
    match srcMapping with
    | some id => (some id, t)
    | none =>
      allocateMapping k fam packet.kmallocMapping (packet.intAddr fam) packet.intPort
        (be16ToCpu reply.dstPort) (fam.u3 reply.dstU3) t
  match saved.1 with
  | none => saved.2
  | some id => addOriginalTupleToMapping packet.kmallocTuple id packet.original saved.2

def nfNatHandlePostrouting (k : Kernel) (fam : Family A) (find : CtTuple → Bool)
    (packet : PostroutingPacket A) (t : Tables A) : Verdict × Tables A :=
  match packet.addresses with
  | none => (.NF_DROP, t)
  | some (minAddr, maxAddr) =>
    if packet.original.dstProtonum ≠ IPPROTO_UDP then
      ((packet.setupInfo ⟨packet.range.flags ||| NF_NAT_RANGE_MAP_IPS, minAddr, maxAddr,
        packet.range.minProto, packet.range.maxProto⟩).1, t)
    else
      let selected := selectMapping k fam find packet minAddr maxAddr t
      let ret := packet.setupInfo selected.newrange
      if ret.1 ≠ .NF_ACCEPT then (ret.1, selected.tables)
      else (ret.1, saveMapping k fam packet selected.srcMapping ret.2 selected.tables)

/-- What `nf_nat_setup_info` guarantees for a range of one address and port:
when it accepts, the reply tuple is addressed to them. -/
def SetupHonest (fam : Family A) (packet : PostroutingPacket A) : Prop :=
  ∀ addr port, (packet.setupInfo (singleRange addr port)).1 = .NF_ACCEPT →
    fam.u3 (packet.setupInfo (singleRange addr port)).2.dstU3 = addr ∧
      be16ToCpu (packet.setupInfo (singleRange addr port)).2.dstPort = port

/-- The ranges that the hooks pass to `nf_nat_setup_info`. -/
def inboundRange (k : Kernel) (fam : Family A) (find : CtTuple → Bool)
    (packet : PreroutingPacket A) (t : Tables A) : Option (NatRange A) :=
  if packet.original.dstProtonum ≠ IPPROTO_UDP then none
  else
    let looked := getMappingByExtPort k find packet.extPort (packet.extAddr fam) t
    (looked.1.bind looked.2.heap).map fun mapping =>
      singleRange mapping.intAddr mapping.intPort

def outboundRange (k : Kernel) (fam : Family A) (find : CtTuple → Bool)
    (packet : PostroutingPacket A) (t : Tables A) : Option (NatRange A) :=
  packet.addresses.map fun (minAddr, maxAddr) =>
    if packet.original.dstProtonum ≠ IPPROTO_UDP then
      ⟨packet.range.flags ||| NF_NAT_RANGE_MAP_IPS, minAddr, maxAddr,
        packet.range.minProto, packet.range.maxProto⟩
    else (selectMapping k fam find packet minAddr maxAddr t).newrange

/-- The source mapping that was looked up has a live conntrack. -/
def SourceActive (k : Kernel) (fam : Family A) (find : CtTuple → Bool)
    (packet : PostroutingPacket A) (minAddr maxAddr : A) (t : Tables A) : Prop :=
  ∃ id mapping, sourceMapping k fam packet minAddr maxAddr t = some id ∧
    t.heap id = some mapping ∧ mapping.originalTupleList.any find = true

/-- Two mappings never share an internal endpoint and an external address. -/
def InternalUnique (t : Tables A) : Prop :=
  UniqueBy (fun endpoints => (endpoints.intAddr, endpoints.intPort, endpoints.addr)) t

/-- A call into the tables of one L3 protocol: one of the two hooks, or the
lookup by external port on its own. -/
inductive Call (A : Type) where
  | prerouting (packet : PreroutingPacket A)
  | postrouting (packet : PostroutingPacket A)
  | lookup (scope : Scope) (port : BitVec 16) (extIp : A)

def Call.scope : Call A → Scope
  | .prerouting packet => packet.scope
  | .postrouting packet => packet.scope
  | .lookup scope _ _ => scope

/-- A call, with the conntrack lookup of its namespace and zone. -/
def Call.exec (k : Kernel) (fam : Family A) (find : CtTuple → Bool) (t : Tables A) :
    Call A → Tables A
  | .prerouting packet => (nfNatHandlePrerouting k fam find packet t).2
  | .postrouting packet => (nfNatHandlePostrouting k fam find packet t).2
  | .lookup _ port extIp => (getMappingByExtPort k find port extIp t).2

/-- The mappings that a call may check, and so prune, kill or translate by: `id`
is the mapping, with its endpoints. -/
def Call.Consults (k : Kernel) (fam : Family A) (find : CtTuple → Bool) (t : Tables A)
    (id : Nat) (endpoints : Endpoints A) : Call A → Prop
  | .prerouting packet =>
    packet.original.dstProtonum = IPPROTO_UDP ∧ endpoints.port = packet.extPort
  | .postrouting packet =>
    packet.original.dstProtonum = IPPROTO_UDP ∧ ∃ minAddr maxAddr,
      packet.addresses = some (minAddr, maxAddr) ∧
        (sourceMapping k fam packet minAddr maxAddr t = some id ∨
          (¬ SourceActive k fam find packet minAddr maxAddr t ∧
            Tries find packet.random packet.intPort
              (chosenAddress k fam packet minAddr maxAddr) packet.range t endpoints.port))
  | .lookup _ port _ => endpoints.port = port

/-- A call that finds every port taken and overrides the mapping with these
endpoints. -/
def Call.Overrides (k : Kernel) (fam : Family A) (find : CtTuple → Bool) (t : Tables A)
    (endpoints : Endpoints A) : Call A → Prop
  | .postrouting packet =>
    packet.original.dstProtonum = IPPROTO_UDP ∧ ∃ minAddr maxAddr,
      packet.addresses = some (minAddr, maxAddr) ∧
        ¬ SourceActive k fam find packet minAddr maxAddr t ∧
          SearchOverrides find packet.random packet.intPort
            (chosenAddress k fam packet minAddr maxAddr) packet.range t endpoints
  | _ => False

end OpenwrtSource.Fullcone.Hooks
