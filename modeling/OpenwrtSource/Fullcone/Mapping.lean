import OpenwrtSource.Lib.Index
import OpenwrtSource.Fullcone.Tuple

/-!
# Mapping tables of the full-cone library

`nf_nat_fullcone.c` keeps every mapping of an L3 protocol in two hash tables,
by external port and by internal source.  A definition over a `Family` stands
for both of its halves: `checkMapping` is `check_mapping` and `check_mapping6`.

A mapping is an object of a heap and its address is a number that is never
used again.  `kmalloc` outcomes are arguments.
-/

namespace OpenwrtSource.Fullcone.Mapping

open Lib.Index Fullcone.Tuple Fullcone.L3Family

variable {A : Type} [DecidableEq A]

/-- `struct nat_mapping`.  `refer_count` counts kmalloc'ed list nodes and
cannot reach the bound of a C `int`. -/
structure NatMapping (A : Type) where
  port : BitVec 16
  addr : A
  intAddr : A
  intPort : BitVec 16
  referCount : Int
  originalTupleList : List CtTuple
deriving DecidableEq, Repr

/-- The external and the internal endpoint of a mapping. -/
structure Endpoints (A : Type) where
  addr : A
  port : BitVec 16
  intAddr : A
  intPort : BitVec 16
deriving DecidableEq, Repr

def NatMapping.endpoints (mapping : NatMapping A) : Endpoints A :=
  ⟨mapping.addr, mapping.port, mapping.intAddr, mapping.intPort⟩

/-- The two hash tables of one L3 protocol and the mappings they link. -/
structure Tables (A : Type) where
  heap : Nat → Option (NatMapping A)
  fresh : Nat
  byExtPort : Fin 1024 → List Nat
  byIntSrc : Fin 1024 → List Nat

def Tables.empty : Tables A := ⟨fun _ => none, 0, fun _ => [], fun _ => []⟩

/-- Bucket of `hash_add(mapping_table_by_ext_port, …, port)`. -/
def extPortBucket (k : Kernel) (port : BitVec 16) : Fin 1024 := k.hashMin (port.setWidth 32)

/-- Bucket of `hash_add(mapping_table_by_int_src, …, hash_src)`. -/
def intSrcBucket (k : Kernel) (fam : Family A) (addr : A) (port : BitVec 16) : Fin 1024 :=
  k.hashMin (fullconeHkey k (fam.words addr) (port.setWidth 32))

def NatMapping.extBucket (k : Kernel) (mapping : NatMapping A) : Fin 1024 :=
  extPortBucket k mapping.port

def NatMapping.intBucket (k : Kernel) (fam : Family A) (mapping : NatMapping A) : Fin 1024 :=
  intSrcBucket k fam mapping.intAddr mapping.intPort

/-- `allocate_mapping`, `allocate_mapping6`. -/
def allocateMapping (k : Kernel) (fam : Family A) (kmalloc : Bool) (intAddr : A)
    (intPort port : BitVec 16) (addr : A) (t : Tables A) : Option Nat × Tables A :=
  if kmalloc then
    let pNew : NatMapping A := ⟨port, addr, intAddr, intPort, 0, []⟩
    (some t.fresh,
      { heap := Function.update t.heap t.fresh (some pNew)
        fresh := t.fresh + 1
        byExtPort := link t.byExtPort (extPortBucket k port) t.fresh
        byIntSrc := link t.byIntSrc (intSrcBucket k fam intAddr intPort) t.fresh })
  else (none, t)

/-- `add_original_tuple_to_mapping`, `add_original_tuple_to_mapping6`. -/
def addOriginalTupleToMapping (kmalloc : Bool) (id : Nat) (tuple : CtTuple) (t : Tables A) :
    Tables A :=
  match t.heap id with
  | none => t
  | some mapping =>
    if kmalloc then
      { t with
        heap := Function.update t.heap id
          (some { mapping with
            originalTupleList := tuple :: mapping.originalTupleList
            referCount := mapping.referCount + 1 }) }
    else t

/-- `get_mapping_by_int_src`, `get_mapping6_by_int_src`. -/
def getMappingByIntSrc (k : Kernel) (fam : Family A) (srcIp : A) (srcPort : BitVec 16)
    (extIp : A) (t : Tables A) : Option Nat :=
  lookup t.heap t.byIntSrc (intSrcBucket k fam srcIp srcPort) fun mapping =>
    mapping.intAddr = srcIp && mapping.intPort = srcPort && mapping.addr = extIp

/-- `get_mapping_by_int_src_inrange`, `get_mapping6_by_int_src_inrange`. -/
def getMappingByIntSrcInrange (k : Kernel) (fam : Family A) (srcIp : A) (srcPort : BitVec 16)
    (minIp maxIp : A) (t : Tables A) : Option Nat :=
  lookup t.heap t.byIntSrc (intSrcBucket k fam srcIp srcPort) fun mapping =>
    mapping.intAddr = srcIp && mapping.intPort = srcPort &&
      memcmp (fam.bytes mapping.addr) (fam.bytes minIp) ≥ 0 &&
      memcmp (fam.bytes mapping.addr) (fam.bytes maxIp) ≤ 0

/-- `kill_mapping`, `kill_mapping6`: the list nodes go with the mapping. -/
def killMapping (mapping : Option Nat) (t : Tables A) : Tables A :=
  match mapping with
  | none => t
  | some id =>
    { heap := Function.update t.heap id none
      fresh := t.fresh
      byExtPort := unlink t.byExtPort id
      byIntSrc := unlink t.byIntSrc id }

/-- The walk over `original_tuple_list` in `check_mapping` and in
`handle_dying_tuples`: a node whose tuple fails `keep` is unlinked and freed,
and `refer_count` goes down by one. -/
def unlinkTuples (keep : CtTuple → Bool) : List CtTuple → Int → List CtTuple × Int
  | [], refer => ([], refer)
  | tuple :: rest, refer =>
    if keep tuple then
      let walked := unlinkTuples keep rest refer
      (tuple :: walked.1, walked.2)
    else unlinkTuples keep rest (refer - 1)

/-- The walk, and then the kill when no reference is left; the result says
whether the mapping may still be used. -/
def pruneMapping (keep : CtTuple → Bool) (id : Nat) (t : Tables A) : Bool × Tables A :=
  match t.heap id with
  | none => (false, t)
  | some mapping =>
    let walked := unlinkTuples keep mapping.originalTupleList mapping.referCount
    let pruned : Tables A :=
      { t with
        heap := Function.update t.heap id
          (some { mapping with originalTupleList := walked.1, referCount := walked.2 }) }
    if walked.2 ≤ 0 then (false, killMapping (some id) pruned) else (true, pruned)

/-- `check_mapping`, `check_mapping6`; `find` is the conntrack lookup in the
caller's namespace and zone. -/
def checkMapping (find : CtTuple → Bool) (id : Nat) (t : Tables A) : Bool × Tables A :=
  pruneMapping find id t

/-- The bucket walk of `get_mapping_by_ext_port`.  It is a safe iteration:
`check_mapping` frees at most the node the walk stands on. -/
def scanExtPort (find : CtTuple → Bool) (port : BitVec 16) (extIp : A) :
    List Nat → Tables A → Option Nat × Tables A
  | [], t => (none, t)
  | id :: rest, t =>
    match t.heap id with
    | none => scanExtPort find port extIp rest t
    | some mapping =>
      if mapping.port = port then
        let checked := checkMapping find id t
        if checked.1 && mapping.addr = extIp then (some id, checked.2)
        else scanExtPort find port extIp rest checked.2
      else scanExtPort find port extIp rest t

/-- `get_mapping_by_ext_port`, `get_mapping6_by_ext_port`. -/
def getMappingByExtPort (k : Kernel) (find : CtTuple → Bool) (port : BitVec 16) (extIp : A)
    (t : Tables A) : Option Nat × Tables A :=
  scanExtPort find port extIp (t.byExtPort (extPortBucket k port)) t

/-- One bucket of the `hash_for_each_safe` in `nf_nat_fullcone_destroy_mappings`. -/
def destroyBucket (ids : List Nat) (t : Tables A) : Tables A :=
  ids.foldl (fun tables id => killMapping (some id) tables) t

/-- One L3 protocol of `nf_nat_fullcone_destroy_mappings`. -/
@[irreducible] def destroyMappings (t : Tables A) : Tables A :=
  (List.finRange 1024).foldl (fun tables b => destroyBucket (tables.byExtPort b) tables) t

end OpenwrtSource.Fullcone.Mapping
