import OpenwrtSource.Lib.Ownership
import OpenwrtSource.Lib.Run

/-!
# The net devices that HNAT refers to

The WAN device, the two ping-pong devices, the table of extension devices and
the table of the Wi-Fi hook: the slots of `struct mtk_hnat` that point to a net
device, with the functions that fill, clear and search them.  Each of them
holds a reference.
-/

namespace OpenwrtSource.Hnat.ExtDevices

open Lib.Holders

abbrev Name := List Char

def IFNAMSIZ : Nat := 16
def MAX_EXT_DEVS : Nat := 0x3f
def MAX_IF_NUM : Nat := 64

/-- `struct net_device`: `id` is its address, and `ethMac` says that its node is
compatible with `mediatek,eth-mac`. -/
structure NetDev where
  id : Nat
  name : Name
  ifindex : BitVec 32
  ethMac : Bool
  fits : name.length < IFNAMSIZ
deriving DecidableEq

structure ExtdevEntry where
  name : Name
  dev : Option NetDev
deriving DecidableEq

structure Names where
  ppd : Name
  wan : Name
  rxPpd : Name
  extIfPrefix : List Name

/-- The device slots of `struct mtk_hnat`, with `g_rx_ppdev`.  The tables are listed
up to their first NULL (`extIf`) and from their slot 1 on (`wifiHookIf`); `strays`
are the entries that were allocated and that no slot points to; `refs` counts what
`dev_hold` and `dev_get_by_name` have taken and `dev_put` has given back. -/
structure MtkHnat where
  gPpdev : Option NetDev
  gWandev : Option NetDev
  gRxPpdev : Option NetDev
  extIf : List ExtdevEntry
  strays : List ExtdevEntry
  wifiHookIf : List (Option NetDev)
  refs : NetDev → Int

/-- The table of the names in the device tree, before any device is there. -/
def MtkHnat.probe (extDevices : List Name) : MtkHnat where
  gPpdev := none
  gWandev := none
  gRxPpdev := none
  extIf := (extDevices.take MAX_EXT_DEVS).map fun name => ⟨name.take (IFNAMSIZ - 1), none⟩
  strays := []
  wifiHookIf := List.replicate (MAX_IF_NUM - 1) none
  refs _ := 0

def findExtifFromDevname (s : MtkHnat) (name : Name) : Bool :=
  s.extIf.any fun entry => entry.name = name

def getWifiHookIf (s : MtkHnat) (dev : NetDev) : Bool := some dev ∈ s.wifiHookIf

/-- `get_index_from_dev`, whose 0 says that the device is not in the table. -/
def getIndexFromDev (s : MtkHnat) (dev : NetDev) : BitVec 32 :=
  match s.extIf.find? fun entry => entry.dev = some dev with
  | some _ => dev.ifindex
  | none => 0

def getDevFromIndex (s : MtkHnat) (index : BitVec 32) : Option NetDev :=
  (s.extIf.filterMap ExtdevEntry.dev).find? fun dev => index = dev.ifindex

/-- `ext_if_add`: an entry for which the table has no room is kept by nobody. -/
def extIfAdd (entry : ExtdevEntry) (s : MtkHnat) : MtkHnat :=
  if s.extIf.length < MAX_EXT_DEVS then { s with extIf := s.extIf ++ [entry] }
  else { s with strays := entry :: s.strays }

def extifPrefixMatch (names : Names) (name : Name) : Bool :=
  names.extIfPrefix.any fun pattern => pattern.length ≠ 0 && pattern.isPrefixOf name

def extifSetDev (names : Names) (kzalloc : Bool) (dev : NetDev) (s : MtkHnat) : MtkHnat :=
  -- find from existing ext_if first
  match s.extIf.find? fun entry => entry.name = dev.name with
  | some entry =>
    if entry.dev.isSome then s
    else
      { s with
        extIf := modifyFirst (fun entry => entry.name = dev.name)
          (fun entry => { entry with dev := some dev }) s.extIf
        refs := hold dev s.refs }
  | none =>
    -- fallback to match rules, which filter GMACs
    if extifPrefixMatch names dev.name && !dev.ethMac && kzalloc then
      extIfAdd ⟨dev.name.take (IFNAMSIZ - 1), some dev⟩ { s with refs := hold dev s.refs }
    else s

def extifPutDev (dev : NetDev) (s : MtkHnat) : MtkHnat :=
  if s.extIf.any fun entry => entry.dev = some dev then
    { s with
      extIf := modifyFirst (fun entry => entry.dev = some dev)
        (fun entry => { entry with dev := none }) s.extIf
      refs := put dev s.refs }
  else s

/-- From the label `add_wifi_hook_if` on. -/
def addWifiHookIf (dev : NetDev) (s : MtkHnat) : MtkHnat :=
  { s with
    wifiHookIf := modifyFirst (fun slot => slot = none) (fun _ => some dev) s.wifiHookIf
    refs := hold dev s.refs }

def mtkPpeDevRegisterHook (names : Names) (kzalloc : Bool) (dev : NetDev) (s : MtkHnat) :
    MtkHnat :=
  if some dev ∈ s.wifiHookIf then s
  else if none ∈ s.wifiHookIf then
    if findExtifFromDevname s dev.name then addWifiHookIf dev (extifSetDev names kzalloc dev s)
    else if MAX_EXT_DEVS ≤ s.extIf.length then s
    else if kzalloc then
      addWifiHookIf dev
        (extIfAdd ⟨dev.name.take (IFNAMSIZ - 1), some dev⟩ { s with refs := hold dev s.refs })
    else s
  else s

def mtkPpeDevUnregisterHook (dev : NetDev) (s : MtkHnat) : MtkHnat :=
  extifPutDev dev
    (if some dev ∈ s.wifiHookIf then
      { s with
        wifiHookIf := modifyFirst (fun slot => slot = some dev) (fun _ => none) s.wifiHookIf
        refs := put dev s.refs }
    else s)

/-- A slot and the references, when the device of a name registers: `found` is what
`dev_get_by_name` returns. -/
def registerSlot (named : Bool) (found slot : Option NetDev) (refs : NetDev → Int) :
    Option NetDev × (NetDev → Int) :=
  if named && slot.isNone then (found, found.elim refs fun dev => hold dev refs) else (slot, refs)

def unregisterSlot (dev : NetDev) (slot : Option NetDev) (refs : NetDev → Int) :
    Option NetDev × (NetDev → Int) :=
  if slot = some dev then (none, put dev refs) else (slot, refs)

/-- `dev_get_by_name` in the namespace of HNAT. -/
def devGetByName (registered : List NetDev) (name : Name) : Option NetDev :=
  registered.find? fun dev => dev.name = name

/-- `NETDEV_REGISTER`; `IS_WAN` compares the first characters only. -/
def netdevRegister (names : Names) (registered : List NetDev) (dev : NetDev) (s : MtkHnat) :
    MtkHnat :=
  let ppd := registerSlot (dev.name = names.ppd) (devGetByName registered names.ppd) s.gPpdev s.refs
  let wan := registerSlot (names.wan.isPrefixOf dev.name) (devGetByName registered names.wan)
    s.gWandev ppd.2
  let rx := registerSlot (dev.name = names.rxPpd) (devGetByName registered names.rxPpd)
    s.gRxPpdev wan.2
  { s with gPpdev := ppd.1, gWandev := wan.1, gRxPpdev := rx.1, refs := rx.2 }

def netdevUnregister (dev : NetDev) (s : MtkHnat) : MtkHnat :=
  let ppd := unregisterSlot dev s.gPpdev s.refs
  let wan := unregisterSlot dev s.gWandev ppd.2
  let rx := unregisterSlot dev s.gRxPpdev wan.2
  { s with gPpdev := ppd.1, gWandev := wan.1, gRxPpdev := rx.1, refs := rx.2 }

def netdevGoingDown (dev : NetDev) (s : MtkHnat) : MtkHnat :=
  if getWifiHookIf s dev then s else extifPutDev dev s

inductive Event where
  | register (dev : NetDev)
  | up (dev : NetDev) (kzalloc : Bool)
  | goingDown (dev : NetDev)
  | unregister (dev : NetDev)
  | registerHook (dev : NetDev) (kzalloc : Bool)
  | unregisterHook (dev : NetDev)

/-- HNAT and the devices around it: those that `dev_get_by_name` finds, those that
are up, and those whose `NETDEV_UNREGISTER` was handled and that have not been
registered again. -/
structure World where
  hnat : MtkHnat
  registered : List NetDev
  running : List NetDev
  gone : List NetDev

def World.init (extDevices : List Name) : World := ⟨MtkHnat.probe extDevices, [], [], []⟩

def step (names : Names) (w : World) : Event → World
  | .register dev =>
    { w with
      hnat := netdevRegister names (dev :: w.registered) dev w.hnat
      registered := dev :: w.registered
      gone := w.gone.filter fun other => other ≠ dev }
  | .up dev kzalloc =>
    { w with
      hnat := extifSetDev names kzalloc dev w.hnat
      running := dev :: w.running }
  | .goingDown dev =>
    { w with
      hnat := netdevGoingDown dev w.hnat
      running := w.running.filter fun other => other ≠ dev }
  | .unregister dev =>
    { w with
      hnat := netdevUnregister dev w.hnat
      registered := w.registered.filter fun other => other ≠ dev
      gone := dev :: w.gone }
  | .registerHook dev kzalloc => { w with hnat := mtkPpeDevRegisterHook names kzalloc dev w.hnat }
  | .unregisterHook dev => { w with hnat := mtkPpeDevUnregisterHook dev w.hnat }

end OpenwrtSource.Hnat.ExtDevices
