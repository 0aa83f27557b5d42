import OpenwrtSource.Hnat.Translation
import OpenwrtSource.Hnat.McastTable

/-!
# What a bind reads

The packet at the post-routing hook with its headers and its descriptor, the
device it leaves through, the path that the device has filled in, and the
switches of the driver.
-/

namespace OpenwrtSource.Hnat.BindPacket

open Hnat.Foe Hnat.McastTable Hnat.Translation

def ETH_P_IP : BitVec 16 := 0x0800
def ETH_P_8021Q : BitVec 16 := 0x8100
def ETH_P_IPV6 : BitVec 16 := 0x86DD
def ETH_P_PPP_SES : BitVec 16 := 0x8864
def PPP_IP : BitVec 16 := 0x21
def PPP_IPV6 : BitVec 16 := 0x57

def IPPROTO_IPIP : BitVec 8 := 4
def IPPROTO_TCP : BitVec 8 := 6
def IPPROTO_UDP : BitVec 8 := 17
def IPPROTO_IPV6 : BitVec 8 := 41

def IPVERSION_V4 : BitVec 4 := 4
def IPVERSION_V6 : BitVec 4 := 6

/-- `htons` of the little-endian processors that have this engine. -/
def htons (value : BitVec 16) : BitVec 16 :=
  value.extractLsb' 0 8 ++ value.extractLsb' 8 8

structure Iphdr where
  ihl : BitVec 4
  tos : BitVec 8
  totLen : BitVec 16
  id : BitVec 16
  fragOff : BitVec 16
  ttl : BitVec 8
  protocol : BitVec 8
  check : BitVec 16
  saddr : BitVec 32
  daddr : BitVec 32

def ipIsFragment (iph : Iphdr) : Bool := iph.fragOff &&& 0x3fff ≠ 0

structure Ipv6hdr where
  priority : BitVec 4
  flowLbl0 : BitVec 8
  flowLbl1 : BitVec 8
  flowLbl2 : BitVec 8
  payloadLen : BitVec 16
  nexthdr : BitVec 8
  hopLimit : BitVec 8
  saddr : BitVec 128
  daddr : BitVec 128

def isTcpUdp (protocol : BitVec 8) : Bool := protocol == IPPROTO_TCP || protocol == IPPROTO_UDP

def FOE_MAGIC_GE_LAN : BitVec 8 := 0x1
def FOE_MAGIC_GE_WAN : BitVec 8 := 0x2
def FOE_MAGIC_EXT : BitVec 8 := 0x3
def FOE_MAGIC_GE_VIRTUAL : BitVec 8 := 0x4
def FOE_MAGIC_GE_PPD : BitVec 8 := 0x5
def FOE_MAGIC_GE_LAN2 : BitVec 8 := 0x6
def FOE_MAGIC_WED0 : BitVec 8 := 0x78
def FOE_MAGIC_WED1 : BitVec 8 := 0x79
def FOE_MAGIC_WED2 : BitVec 8 := 0x7A

/-- What a bind reads of `struct hnat_desc`, the descriptor in the headroom. -/
structure HnatDesc where
  ppe : Nat
  entry : Nat
  iface : BitVec 8
  sport : PsePort
  tops : BitVec 6
  isDecap : Bool
  cdrt : BitVec 8
  isDecrypt : Bool

def HnatDesc.fromGeLan (desc : HnatDesc) : Bool := desc.iface == FOE_MAGIC_GE_LAN

def HnatDesc.fromGeLanGrp (desc : HnatDesc) : Bool :=
  desc.iface == FOE_MAGIC_GE_LAN || desc.iface == FOE_MAGIC_GE_LAN2

def HnatDesc.fromGeWan (desc : HnatDesc) : Bool := desc.iface == FOE_MAGIC_GE_WAN

def HnatDesc.fromGeVirtual (desc : HnatDesc) : Bool := desc.iface == FOE_MAGIC_GE_VIRTUAL

def HnatDesc.fromGePpd (desc : HnatDesc) : Bool := desc.iface == FOE_MAGIC_GE_PPD

def HnatDesc.fromExt (desc : HnatDesc) : Bool := desc.iface == FOE_MAGIC_EXT

def HnatDesc.fromWed (desc : HnatDesc) : Bool :=
  desc.iface == FOE_MAGIC_WED0 || desc.iface == FOE_MAGIC_WED1 || desc.iface == FOE_MAGIC_WED2

/-- The packet.  `iph` and `ip6h` are the two readings of the bytes behind the
network header, past a PPPoE header if there is one, and `innerIph` and
`innerIp6h` those of the packet that a tunnel carries. -/
structure Skb where
  ethProto : BitVec 16
  hDest : Mac
  protocol : BitVec 16
  pppoeSid : BitVec 16
  /-- The PPP protocol, if the header can be read. -/
  pppProto : Option (BitVec 16)
  ipVersion : BitVec 4
  iph : Iphdr
  ip6h : Ipv6hdr
  /-- The ports behind the network header, if they can be read. -/
  ports : Option Ports
  tcpHdrlen : BitVec 32
  innerIph : Iphdr
  innerIp6h : Ipv6hdr
  innerPorts : Option Ports
  vlanTci : Option (BitVec 16)
  mark : BitVec 32
  desc : HnatDesc
  /-- `skb_dst(skb) && dst_xfrm(skb_dst(skb))`. -/
  dstXfrm : Bool
  ifindex : Nat

def hnatGetHdrProtocol (skb : Skb) : Option (BitVec 16) :=
  if skb.protocol = ETH_P_PPP_SES then
    match skb.pppProto with
    | none => none
    | some proto =>
      if proto = PPP_IP then some ETH_P_IP
      else if proto = PPP_IPV6 then some ETH_P_IPV6
      else none
  else some skb.protocol

def Skb.hProto (skb : Skb) : Option (BitVec 16) :=
  if skb.ethProto = ETH_P_PPP_SES then hnatGetHdrProtocol skb
  else if skb.ipVersion = IPVERSION_V4 then some ETH_P_IP
  else if skb.ipVersion = IPVERSION_V6 then some ETH_P_IPV6
  else none

def portsOf (protocol : BitVec 8) (ports : Option Ports) : Option Ports :=
  if isTcpUdp protocol then ports else none

def Skb.tuple4 (skb : Skb) : Option (Tuple 32) :=
  if skb.hProto = some ETH_P_IP then
    some ⟨skb.iph.saddr, skb.iph.daddr, skb.iph.protocol, portsOf skb.iph.protocol skb.ports⟩
  else if skb.hProto = some ETH_P_IPV6 ∧ skb.ip6h.nexthdr = IPPROTO_IPIP then
    some ⟨skb.innerIph.saddr, skb.innerIph.daddr, skb.innerIph.protocol,
      portsOf skb.innerIph.protocol skb.innerPorts⟩
  else none

def Skb.tuple6 (skb : Skb) : Option (Tuple 128) :=
  if skb.hProto = some ETH_P_IPV6 then
    some ⟨skb.ip6h.saddr, skb.ip6h.daddr, skb.ip6h.nexthdr, portsOf skb.ip6h.nexthdr skb.ports⟩
  else if skb.hProto = some ETH_P_IP ∧ skb.iph.protocol = IPPROTO_IPV6 then
    some ⟨skb.innerIp6h.saddr, skb.innerIp6h.daddr, skb.innerIp6h.nexthdr,
      portsOf skb.innerIp6h.nexthdr skb.innerPorts⟩
  else none

def Skb.tuple : (family : Family) → Skb → Option (Tuple family.width)
  | .ipv4 => Skb.tuple4
  | .ipv6 => Skb.tuple6

/-- Module parameters, debugfs switches and platform data. -/
structure HnatConfig where
  l2brToggle : Bool
  mapeToggle : Bool
  tnlToggle : Bool
  l4sToggle : Bool
  qosToggle : Nat
  qosDlToggle : Bool
  qosUlToggle : Bool
  perFlowAccounting : Bool
  whnat : Bool
  gmacNum : Nat
  /-- The device names of the device tree. -/
  wan : List Char
  lan : List Char
  lan2 : List Char

/-- `IS_GMAC1_MODE`. -/
def HnatConfig.gmac1Mode (cfg : HnatConfig) : Bool := cfg.gmacNum == 1

def HnatConfig.hqosMode (cfg : HnatConfig) : Bool := cfg.qosToggle == 1

def HnatConfig.pppqMode (cfg : HnatConfig) : Bool := cfg.qosToggle == 2

structure DsaPort where
  index : Nat
  tagProto8021q : Bool

/-- The ids of `mtk_mac`. -/
def MTK_GMAC1_ID : Nat := 0
def MTK_GMAC2_ID : Nat := 1
def MTK_GMAC3_ID : Nat := 2
def MTK_GMAC_ID_MAX : Nat := 3

structure EgressDev where
  name : List Char
  ifindex : BitVec 32
  /-- Whether the device is one of `ext_if`, and of `wifi_hook_if`. -/
  extIf : Bool
  wifiHookIf : Bool
  /-- `dsa_port_from_netdev` and the `reg` property of the device node. -/
  dsaPort : Option DsaPort
  reg : Option Nat
  /-- The id of its MAC, or of the MAC of its conduit. -/
  macId : Nat
  usesDsa : Bool
  speed : Nat

def EgressDev.isWan (cfg : HnatConfig) (dev : EgressDev) : Bool := cfg.wan.isPrefixOf dev.name

def EgressDev.isLanGrp (cfg : HnatConfig) (dev : EgressDev) : Bool :=
  cfg.lan.isPrefixOf dev.name || cfg.lan2.isPrefixOf dev.name ||
    ['b', 'o', 'n', 'd'].isPrefixOf dev.name

def EgressDev.isEthGrp (cfg : HnatConfig) (dev : EgressDev) : Bool :=
  dev.isLanGrp cfg || dev.isWan cfg

def EgressDev.isWhnat (cfg : HnatConfig) (dev : EgressDev) : Bool := cfg.whnat && dev.wifiHookIf

def EgressDev.isDsaLan (dev : EgressDev) : Bool := ['l', 'a', 'n'].isPrefixOf dev.name

def EgressDev.isDsa1gLan (dev : EgressDev) : Bool :=
  dev.isDsaLan && dev.name != ['l', 'a', 'n', '5']

def EgressDev.isDsaWan (dev : EgressDev) : Bool := ['w', 'a', 'n'].isPrefixOf dev.name

/-- `is_eth_dev_speed_under`. -/
def EgressDev.speedUnder (cfg : HnatConfig) (dev : EgressDev) (speed : Nat) : Bool :=
  dev.isEthGrp cfg && !dev.usesDsa && decide (dev.speed ≤ speed)

/-- `HNAT_GMAC_FP` of the MAC of the device. -/
def hnatGmacFp (cfg : HnatConfig) (macId : Nat) : Option PsePort :=
  if cfg.gmac1Mode || macId == MTK_GMAC1_ID then some NR_GMAC1_PORT
  else if macId = MTK_GMAC2_ID then some NR_GMAC2_PORT
  else if macId = MTK_GMAC3_ID then some NR_GMAC3_PORT
  else none

def isPppqPath (cfg : HnatConfig) (dev : EgressDev) (desc : HnatDesc) : Bool :=
  dev.isDsa1gLan || dev.isDsaWan || (dev.isEthGrp cfg && dev.speedUnder cfg 1000) ||
    (desc.fromWed && (dev.isDsaLan || dev.speedUnder cfg 2500))

def MAX_SWITCH_PORT_NUM : BitVec 32 := 6
def MAX_PPPQ_QUEUE_NUM : BitVec 32 := 2 * MAX_SWITCH_PORT_NUM + 2
def MTK_QDMA_NUM_QUEUES : Nat := 64
def MTK_QDMA_QUEUE_MASK : BitVec 32 := 0xffff

def hqosFlag (cfg : HnatConfig) (dev : EgressDev) (desc : HnatDesc) (qid : BitVec 32) : Bool :=
  (cfg.hqosMode && cfg.qosUlToggle && dev.isWan cfg) ||
    (cfg.hqosMode && cfg.qosDlToggle && dev.isLanGrp cfg) ||
    (cfg.pppqMode && (isPppqPath cfg dev desc || decide (MAX_PPPQ_QUEUE_NUM ≤ qid)))

/-- `struct flow_offload_hw_path`. -/
structure HwPath where
  ethSrc : Mac
  ethDest : Mac
  vlanId : BitVec 16
  pppoeSid : BitVec 16
  pathPppoe : Bool
  pathVlan : Bool
  pathTnl : Bool
  /-- The address of `virt_dev`. -/
  virtDevAddr : Mac
  /-- The address of the bridge that `virt_dev` is a port of. -/
  brDevAddr : Option Mac

def hnatIsHwPathBridging (hwPath : HwPath) : Bool :=
  match hwPath.brDevAddr with
  | none => false
  | some brDevAddr => hwPath.ethSrc != brDevAddr && hwPath.ethSrc != hwPath.virtDevAddr

end OpenwrtSource.Hnat.BindPacket
