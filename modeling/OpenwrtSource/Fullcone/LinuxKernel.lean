import OpenwrtSource.Fullcone.EventSystem

/-!
# A kernel under the library

The hash functions as Linux defines them, and a `nf_nat_setup_info` that grants
the endpoint it is asked for: an instance of what the library takes from the
kernel.  The flows of one LAN host that the concrete runs replay are built here
too.
-/

namespace OpenwrtSource.Fullcone.LinuxKernel

open Fullcone.Tuple Fullcone.L3Family Fullcone.Hooks Fullcone.EventSystem

def jhashMix (a b c : BitVec 32) : BitVec 32 × BitVec 32 × BitVec 32 :=
  let a := (a - c) ^^^ c.rotateLeft 4
  let c := c + b
  let b := (b - a) ^^^ a.rotateLeft 6
  let a := a + c
  let c := (c - b) ^^^ b.rotateLeft 8
  let b := b + a
  let a := (a - c) ^^^ c.rotateLeft 16
  let c := c + b
  let b := (b - a) ^^^ a.rotateLeft 19
  let a := a + c
  let c := (c - b) ^^^ b.rotateLeft 4
  let b := b + a
  (a, b, c)

def jhashFinal (a b c : BitVec 32) : BitVec 32 :=
  let c := (c ^^^ b) - b.rotateLeft 14
  let a := (a ^^^ c) - c.rotateLeft 11
  let b := (b ^^^ a) - a.rotateLeft 25
  let c := (c ^^^ b) - b.rotateLeft 16
  let a := (a ^^^ c) - c.rotateLeft 4
  let b := (b ^^^ a) - a.rotateLeft 14
  (c ^^^ b) - b.rotateLeft 24

def jhashWords : List (BitVec 32) → BitVec 32 → BitVec 32 → BitVec 32 → BitVec 32
  | [], _, _, c => c
  | [w0], a, b, c => jhashFinal (a + w0) b c
  | [w0, w1], a, b, c => jhashFinal (a + w0) (b + w1) c
  | [w0, w1, w2], a, b, c => jhashFinal (a + w0) (b + w1) (c + w2)
  | w0 :: w1 :: w2 :: rest, a, b, c =>
    let mixed := jhashMix (a + w0) (b + w1) (c + w2)
    jhashWords rest mixed.1 mixed.2.1 mixed.2.2

def JHASH_INITVAL : BitVec 32 := 0xdeadbeef

def jhash2 (data : List (BitVec 32)) (initval : BitVec 32) : BitVec 32 :=
  let seed := JHASH_INITVAL + BitVec.ofNat 32 (4 * data.length) + initval
  jhashWords data seed seed seed

def GOLDEN_RATIO_32 : BitVec 32 := 0x61C88647

/-- `hash_32(val, HASHTABLE_BUCKET_BITS)`, which `hash_min` is for these keys. -/
def hash32 (val : BitVec 32) : Fin 1024 :=
  Fin.ofNat 1024 ((val * GOLDEN_RATIO_32) >>> (32 - HASHTABLE_BUCKET_BITS)).toNat

def reciprocalScale (val epRo : BitVec 32) : BitVec 32 :=
  ((val.setWidth 64 * epRo.setWidth 64) >>> 32).setWidth 32

def linuxKernel : Kernel := ⟨jhash2, hash32, reciprocalScale⟩

def ipv4Addr (word : Be32) : InetAddr := ⟨word, 0, 0, 0⟩

def udpTuple (src : Be32) (srcPort : BitVec 16) (dst : Be32) (dstPort : BitVec 16) : CtTuple :=
  ⟨ipv4Addr src, cpuToBe16 srcPort, PF_INET, ipv4Addr dst, cpuToBe16 dstPort, IPPROTO_UDP⟩

/-- The tuple of the answers to a flow that leaves from an external endpoint. -/
def replyTuple (original : CtTuple) (addr : Be32) (port : Be16) : CtTuple :=
  ⟨original.dstU3, original.dstPort, original.srcL3num, ipv4Addr addr, port,
    original.dstProtonum⟩

/-- A `nf_nat_setup_info` that grants the first endpoint of the range. -/
def grantRange (original : CtTuple) (range : NatRange Be32) : Verdict × CtTuple :=
  (.NF_ACCEPT, replyTuple original range.minAddr range.minProto)

def mainScope : Scope := ⟨0, 0⟩

/-- A flow out of the interface with address `saddr`, masqueraded. -/
def outbound (original : CtTuple) (saddr : Be32) : PostroutingPacket Be32 where
  scope := mainScope
  original := original
  range := ⟨0, 0, 0, 0, 0⟩
  saddr := some saddr
  random := 0
  setupInfo := grantRange original
  kmallocMapping := true
  kmallocTuple := true

/-- A packet from outside, whose destination is translated without objection. -/
def inbound (original : CtTuple) : PreroutingPacket Be32 where
  scope := mainScope
  original := original
  setupInfo _ := .NF_ACCEPT
  kmalloc := true

theorem grantRange_honest (packet : PostroutingPacket Be32)
    (granted : packet.setupInfo = grantRange packet.original) : SetupHonest ipv4 packet := by
  intro addr port _
  rw [granted]
  exact ⟨rfl, be16ToCpu_cpuToBe16 port⟩

theorem outbound_honest (original : CtTuple) (saddr : Be32) :
    SetupHonest ipv4 (outbound original saddr) :=
  grantRange_honest _ rfl

def host : Be32 := 0x0201a8c0
def otherHost : Be32 := 0x0301a8c0
def peer : Be32 := 0x08080808
def otherPeer : Be32 := 0x01010101
def thirdPeer : Be32 := 0x09090909
def wan : Be32 := 0x010200c0
def otherWan : Be32 := 0x020200c0

def flowTo (dst : Be32) : CtTuple := udpTuple host 5000 dst 53

/-- The conntrack of a flow that left from an external endpoint. -/
def flowConn (original : CtTuple) (addr : Be32) (port : BitVec 16) (confirmed : Bool) : Conn :=
  ⟨mainScope, original, replyTuple original addr (cpuToBe16 port), confirmed⟩

def oneFlow : List Event :=
  [.ipv4 (.postrouting (outbound (flowTo peer) wan)),
    .conntrack [flowConn (flowTo peer) wan 5000 true]]

end OpenwrtSource.Fullcone.LinuxKernel
