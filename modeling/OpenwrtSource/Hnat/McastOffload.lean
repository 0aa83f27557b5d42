import OpenwrtSource.Hnat.McastTable

/-!
# Hardware offload of one multicast group

The handlers of `hnat_mcast.c` that change one group together with the
hardware: slot set-up and teardown, the NPU client calls, and the update of a
group whose egress ports have changed.
-/

namespace OpenwrtSource.Hnat.McastOffload

open Hnat.Foe Hnat.McastTable

def RTM_NEWMDB : Nat := 84
def RTM_DELMDB : Nat := 85

def EEXIST : Int := 17
def EINVAL : Int := 22

/-- `struct mcast_offload_info`; the port is `INVLD_IDX`, cut to 8 bits, where
none was found. -/
structure McastOffloadInfo where
  dst : GroupIp
  daddr : Mac
  dsaPort : BitVec 8

structure NpuReply where
  ret : Int
  npuGrpIdx : BitVec 32

/-- `struct npu_hnat_mcast_ops`: the answers of the NPU driver, which is not
part of the repository. -/
structure NpuOps where
  clientInsert : Option (McastOffloadInfo → NpuReply)
  clientDelete : Option (McastOffloadInfo → Int)

inductive NpuCall where
  | insert (info : McastOffloadInfo) (reply : NpuReply)
  | delete (info : McastOffloadInfo) (ret : Int)

structure Platform where
  ppeNum : Nat
  foeEtryNum : Nat
  maxEntry : Nat

/-- What a handler asks of the kernel while it runs. -/
structure Env where
  devs : DevTable
  /-- `hnat_mcast_is_mtk_dsa("eth0")`. -/
  mtkDsa : Bool
  /-- `hnat_mc_ops`, once the NPU driver has registered. -/
  hnatMcOps : Option NpuOps
  foeTimestamp : BitVec 8

structure Hw where
  slots : SlotTable
  foeTable : Nat → Nat → FoeEntry
  /-- The calls to the NPU driver, in order. -/
  npuCalls : List NpuCall
  /-- The PPE and the index of the calls to `entry_delete`, in order. -/
  entryDeletes : List (Option Nat × Option Nat)

/-- A group under a handler.  `entry` is the entry that a bind is about to
commit, which is not in the table yet. -/
structure Ctx where
  group : Group
  hw : Hw
  entry : FoeEntry

/-- The `struct foe_entry *` that a handler is given. -/
inductive FoePtr where
  | table (ppe idx : Nat)
  | entry

def Ctx.readFoe (c : Ctx) : FoePtr → FoeEntry
  | .table ppe idx => c.hw.foeTable ppe idx
  | .entry => c.entry

def Hw.writeFoe (hw : Hw) (ppe idx : Nat) (foe : FoeEntry) : Hw :=
  { hw with foeTable := fun p i => if p = ppe ∧ i = idx then foe else hw.foeTable p i }

def Ctx.writeFoe (c : Ctx) (foe : FoeEntry) : FoePtr → Ctx
  | .table ppe idx => { c with hw := c.hw.writeFoe ppe idx foe }
  | .entry => { c with entry := foe }

def Ctx.updateFoe (c : Ctx) (ptr : FoePtr) (f : FoeEntry → FoeEntry) : Ctx :=
  c.writeFoe (f (c.readFoe ptr)) ptr

def Ctx.npuCall (c : Ctx) (call : NpuCall) : Ctx :=
  { c with hw := { c.hw with npuCalls := c.hw.npuCalls ++ [call] } }

/-- `entry_delete`.  The PPE number is unsigned there, so `INVLD_IDX` is too
large for it; the index `-1` stands for every entry of the PPE. -/
def entryDelete (plat : Platform) (env : Env) (ppeId index : Option Nat) (hw : Hw) : Hw :=
  match ppeId with
  | none => hw
  | some ppe =>
    if ppe ≥ plat.ppeNum then hw
    else
      match index with
      | none =>
        { hw with
          foeTable := fun p i =>
            if p = ppe ∧ i < plat.foeEtryNum then
              entryInvalidate env.foeTimestamp (hw.foeTable p i)
            else hw.foeTable p i }
      | some idx =>
        if idx ≥ plat.foeEtryNum then hw
        else hw.writeFoe ppe idx (entryInvalidate env.foeTimestamp (hw.foeTable ppe idx))

def Ctx.entryDelete (plat : Platform) (env : Env) (c : Ctx) : Ctx :=
  let hw := { c.hw with entryDeletes := c.hw.entryDeletes ++ [(c.group.ppeId, c.group.foeIdx)] }
  { c with hw := McastOffload.entryDelete plat env c.group.ppeId c.group.foeIdx hw }

def hnatMcastGetHwFoe (group : Group) : Option FoePtr :=
  match group.ppeId, group.foeIdx with
  | some ppe, some idx => some (.table ppe idx)
  | _, _ => none

def hnatMcastMtblSetup (plat : Platform) (pseBmp : PseBmp) (ptr : FoePtr) (toNpu : Bool)
    (c : Ctx) : Int × Ctx :=
  match c.group.ppeId with
  | none => (-1, c) -- `ppe_base[-1]`; every caller has bound the group
  | some ppe =>
    let allocated :=
      match c.group.mtblIdx with
      | some idx => some idx
      | none => hnatMcastAllocMtblEntry plat.maxEntry (c.hw.slots ppe)
    match allocated with
    | none =>
      let c := c.writeFoe FoeEntry.zero ptr
      (-1, { c with group := { c.group with mtblIdx := none, ppeId := none, foeIdx := none } })
    | some idx =>
      let bmp := if toNpu then (pseBmp &&& ~~~ MCAST_TO_GDMA1) ||| MCAST_TO_TDMA else pseBmp
      (0, { c with
        group := { c.group with mtblIdx := some idx }
        hw := { c.hw with slots := setHnatMtbl c.group.mac idx ppe bmp c.hw.slots } })

def hnatMcastMtblTeardown (c : Ctx) : Ctx :=
  match c.group.mtblIdx, c.group.ppeId with
  | some idx, some ppe =>
    { c with
      group := { c.group with mtblIdx := none }
      hw := { c.hw with slots := clrHnatMtbl ppe idx c.hw.slots } }
  | _, _ => c

def hnatMcastPrepareOffloadInfo (group : Group) (foe : FoeEntry) : McastOffloadInfo where
  dst := (foeGroupIp foe).getD (.ipv4 0)
  daddr := group.mac
  dsaPort := 0

def hnatMcastNpuDeleteSingle (env : Env) (info : McastOffloadInfo) (c : Ctx) : Int × Ctx :=
  match env.hnatMcOps.bind NpuOps.clientDelete with
  | none => (0, c)
  | some delete => (delete info, c.npuCall (.delete info (delete info)))

/-- The ports of the loops over `port_bit`. -/
def stagPorts (stag : BitVec 32) : List Nat := (List.range 8).filter stag.getLsbD

/-- Returns the result of the last call, as the source does. -/
def hnatMcastNpuDeleteMulti (env : Env) (info : McastOffloadInfo) (stag : BitVec 32) (c : Ctx) :
    Int × Ctx :=
  (stagPorts stag).foldl (fun (result : Int × Ctx) port =>
    hnatMcastNpuDeleteSingle env { info with dsaPort := BitVec.ofNat 8 port } result.2) (0, c)

def hnatMcastNpuDeleteStations (env : Env) (info : McastOffloadInfo) (stag : BitVec 32)
    (isDsa : Bool) (c : Ctx) : Int × Ctx :=
  if isDsa then hnatMcastNpuDeleteSingle env info c else hnatMcastNpuDeleteMulti env info stag c

/-- What an answer of `npu_mcast_client_insert` means for the group. -/
def Ctx.npuInserted (c : Ctx) (ret : Int) (npuGrpIdx : BitVec 32) : Ctx :=
  if ret = 0 then { c with group := { c.group with npuGrpIdx := npuGrpIdx } }
  else { c with group := { c.group with offload := false } }

def hnatMcastNpuAddMulti (insert : McastOffloadInfo → NpuReply) (info : McastOffloadInfo)
    (stag : BitVec 32) (c : Ctx) : Int × Ctx :=
  (stagPorts stag).foldl (fun (result : Int × Ctx) port =>
    let info := { info with dsaPort := BitVec.ofNat 8 port }
    let reply := insert info
    (reply.ret, (result.2.npuCall (.insert info reply)).npuInserted reply.ret reply.npuGrpIdx))
    (0, c)

def hnatMcastNpuAddStations (env : Env) (info : McastOffloadInfo) (stag : BitVec 32)
    (isDsa : Bool) (pseBmp : PseBmp) (c : Ctx) : Int × Ctx :=
  match env.hnatMcOps.bind NpuOps.clientInsert with
  | none => (0, c)
  | some insert =>
    if isDsa then
      let reply := insert info
      -- the client of an active join is added again when its stream resumes
      let ret := if reply.ret = -EEXIST then 0 else reply.ret
      (ret, (c.npuCall (.insert info reply)).npuInserted ret reply.npuGrpIdx)
    else if bmpIsSinglePort pseBmp then (0, c)
    else hnatMcastNpuAddMulti insert info stag c

def hnatMcastGroupTeardownNpu (env : Env) (c : Ctx) : Ctx :=
  match hnatMcastGetHwFoe c.group with
  | none => c
  | some ptr =>
    let info := hnatMcastPrepareOffloadInfo c.group (c.readFoe ptr)
    let stag := (hnatMcastGetPseTxBmp env.devs c.group.members).stag
    let c := (hnatMcastNpuDeleteStations env info stag false c).2
    { c with group := { c.group with psebmp := 0 } }

def hnatMcastNpuUpdate (env : Env) (info : McastOffloadInfo) (stag : BitVec 32) (pseBmp : PseBmp)
    (type : Nat) (isDsa : Bool) (c : Ctx) : Int × Ctx :=
  let gdma1InCur := bmpHas pseBmp MCAST_TO_GDMA1
  let gdma1InPre := bmpHas c.group.psebmp MCAST_TO_GDMA1
  let preBmpMulti := !bmpIsSinglePort c.group.psebmp && c.group.psebmp != 0
  let curBmpMulti := !bmpIsSinglePort pseBmp && pseBmp != 0
  if type = RTM_NEWMDB then
    if gdma1InCur && curBmpMulti then
      if gdma1InPre && preBmpMulti && !isDsa then (0, c)
      else hnatMcastNpuAddStations env info stag isDsa pseBmp c
    else (0, c)
  else if type = RTM_DELMDB then
    if bmpIsSinglePort pseBmp then
      if gdma1InPre && preBmpMulti then hnatMcastNpuDeleteStations env info stag isDsa c
      else (0, c)
    else if isDsa && (gdma1InCur || gdma1InPre) then hnatMcastNpuDeleteSingle env info c
    else (0, c)
  else (0, c)

/-- `hnat_mcast_foe_mtbl_update`, and the same steps in
`hnat_mcast_npu_gsw_handle`, which does not send the group to the NPU. -/
def foeMtblUpdate (plat : Platform) (pseBmp : PseBmp) (ptr : FoePtr) (toNpu : Bool) (c : Ctx) :
    Ctx :=
  if bmpIsSinglePort pseBmp then
    hnatMcastMtblTeardown (c.updateFoe ptr (hnatMcastFoeMcDisable pseBmp))
  else
    let (ret, c) := hnatMcastMtblSetup plat pseBmp ptr toNpu c
    if ret = 0 then c.updateFoe ptr (hnatMcastFoeMcEnable toNpu) else c

def Ctx.setPsebmp (c : Ctx) (pseBmp : PseBmp) : Ctx :=
  { c with group := { c.group with psebmp := pseBmp } }

def hnatMcastNoNpuTeardownGroup (plat : Platform) (env : Env) (c : Ctx) : Int × Ctx :=
  let c := hnatMcastMtblTeardown (c.entryDelete plat env)
  (-1, { c with group := { c.group.unbind with psebmp := 0 } })

def hnatMcastNoNpuGswMultiEth (plat : Platform) (pseBmp : PseBmp) (ptr : FoePtr) (c : Ctx) :
    Int × Ctx :=
  let (ret, c) := hnatMcastMtblSetup plat pseBmp ptr false c
  let c := if ret = 0 then c.updateFoe ptr (hnatMcastFoeMcEnable false) else c
  (0, c.setPsebmp pseBmp)

def hnatMcastNoNpuSingleGdma (stag : BitVec 8) (pseBmp : PseBmp) (ptr : FoePtr) (c : Ctx) :
    Int × Ctx :=
  let c := c.updateFoe ptr (hnatMcastFoeStagUpdate stag)
  let c := c.updateFoe ptr (hnatMcastFoeMcDisable pseBmp)
  (0, (hnatMcastMtblTeardown c).setPsebmp pseBmp)

def hnatMcastNoNpuMultiHandle (plat : Platform) (env : Env) (pseBmp : PseBmp) (isMultiEth : Bool)
    (ptr : FoePtr) (c : Ctx) : Int × Ctx :=
  if env.mtkDsa then hnatMcastNoNpuTeardownGroup plat env c
  else if isMultiEth then hnatMcastNoNpuGswMultiEth plat pseBmp ptr c
  else hnatMcastNoNpuTeardownGroup plat env c

/-- The body of `hnat_mcast_no_npu_handle` past its test of `hnat_mc_ops`. -/
def hnatMcastNoNpuHandle (plat : Platform) (env : Env) (stag : BitVec 8) (pseBmp : PseBmp)
    (ptr : FoePtr) (c : Ctx) : Int × Ctx :=
  let isSingle := bmpIsSinglePort pseBmp
  let isWifiOnly := isSingle && bmpHas pseBmp MCAST_TO_TDMA
  let isGdmaOnly := isSingle && !isWifiOnly
  let isMulti := !isSingle && pseBmp != 0
  let isMultiEth := isMulti && !bmpHas pseBmp MCAST_TO_TDMA
  if isWifiOnly || isMulti then hnatMcastNoNpuMultiHandle plat env pseBmp isMultiEth ptr c
  else if isGdmaOnly then hnatMcastNoNpuSingleGdma stag pseBmp ptr c
  else (0, c)

def hnatMcastNpuDsaHandle (plat : Platform) (env : Env) (stag : BitVec 8) (pseBmp : PseBmp)
    (type ifindex : Nat) (ptr : FoePtr) (c : Ctx) : Int × Ctx :=
  let c := c.updateFoe ptr (hnatMcastFoeStagUpdate stag)
  let dsaport := hnatMcastGetDsaPort env.devs ifindex
  let info :=
    { hnatMcastPrepareOffloadInfo c.group (c.readFoe ptr) with
      dsaPort := (dsaport.map (BitVec.ofNat 8)).getD (-1) }
  let (ret, c) :=
    hnatMcastNpuUpdate env info (stag.setWidth 32) pseBmp type dsaport.isSome c
  (ret, (foeMtblUpdate plat pseBmp ptr true c).setPsebmp pseBmp)

def hnatMcastNpuGswHandle (plat : Platform) (pseBmp : PseBmp) (ptr : FoePtr) (c : Ctx) :
    Int × Ctx :=
  (0, (foeMtblUpdate plat pseBmp ptr false c).setPsebmp pseBmp)

def hnatMcastHwUpdate (plat : Platform) (env : Env) (egress : Egress) (type ifindex : Nat)
    (ptr : FoePtr) (c : Ctx) : Int × Ctx :=
  let stag := egress.stag.setWidth 8
  if env.hnatMcOps.isNone then hnatMcastNoNpuHandle plat env stag egress.pseBmp ptr c
  else if env.mtkDsa then
    hnatMcastNpuDsaHandle plat env stag egress.pseBmp type ifindex ptr c
  else hnatMcastNpuGswHandle plat egress.pseBmp ptr c

/-- A join or leave that reaches a group which is bound in hardware. -/
def hnatMcastEventHwHandle (plat : Platform) (env : Env) (type ifindex : Nat) (c : Ctx) : Ctx :=
  match hnatMcastGetHwFoe c.group with
  | none => c
  | some ptr =>
    if (foeGroupIp (c.readFoe ptr)).isNone then c
    else
      let egress := hnatMcastGetPseTxBmp env.devs c.group.members
      if egress.pseBmp ≠ 0 then (hnatMcastHwUpdate plat env egress type ifindex ptr c).2
      else
        -- the slot of the group, if it has one, is not released here
        let c := c.entryDelete plat env
        { c with group := { c.group.unbind with psebmp := 0 } }

def hnatMcastNoNpuTeardown (env : Env) (group : Group) : Bool :=
  let preBmp := (hnatMcastGetPseTxBmp env.devs group.members).pseBmp
  let preSingle := bmpIsSinglePort preBmp
  let preWifiOnly := preSingle && bmpHas preBmp MCAST_TO_TDMA
  let preMulti := !preSingle && preBmp != 0
  env.hnatMcOps.isNone && (preWifiOnly || preMulti) && group.foeIdx.isNone && group.ppeId.isNone

/-- The indices and the source address that a bind gives to the group. -/
def Group.bindTo (group : Group) (ppe foeIdx : Nat) (entry : FoeEntry) : Group :=
  let group := { group with ppeId := some ppe, foeIdx := some foeIdx }
  if isIpv4Grp (pktTypeOf entry) then { group with sip := Ipv4Hnapt.sip.get entry }
  else { group with sip6 := Ipv65tRoute.ipv6Sip.get entry }

/-- `hnat_mcast_foe_bind_handle` once it has found the group of the entry. -/
def hnatMcastFoeBindGroup (plat : Platform) (env : Env) (ppe foeIdx ifindex : Nat) (c : Ctx) :
    Int × Ctx :=
  if !c.group.offload then (-1, c)
  else if hnatMcastNoNpuTeardown env c.group then (-1, c)
  else
    let c := { c with group := Group.bindTo c.group ppe foeIdx c.entry }
    let egress := hnatMcastGetPseTxBmp env.devs c.group.members
    let (ret, c) :=
      if egress.pseBmp ≠ 0 then hnatMcastHwUpdate plat env egress RTM_NEWMDB ifindex .entry c
      else (0, c)
    if ret < 0 then (-1, c) else if !c.group.offload then (-1, c) else (0, c)

/-- One round of the loop of `hnat_mcast_ifdown_handle`. -/
def hnatMcastIfdownGroup (plat : Platform) (env : Env) (ifindex : Nat) (c : Ctx) : Ctx :=
  if !c.group.members.contains ifindex then c
  else
    match hnatMcastGetHwFoe c.group with
    | none => c
    | some ptr =>
      let downBmp := hnatMcastGetSingleDevPseBit env.devs ifindex
      if c.group.psebmp &&& ~~~ downBmp ≠ 0 then
        let egress := hnatMcastGetPseTxBmp env.devs c.group.members
        (hnatMcastHwUpdate plat env egress RTM_DELMDB ifindex ptr c).2
      else
        let c := hnatMcastMtblTeardown (c.entryDelete plat env)
        { c with group := { c.group.unbind with psebmp := 0 } }

/-- What a path switch to software, a new blacklist entry and a disabled offload
do to a group: the FOE entry goes, the slot stays. -/
def dropGroup (plat : Platform) (env : Env) (c : Ctx) : Ctx :=
  let c := c.entryDelete plat env
  { c with group := { c.group.unbind with psebmp := 0 } }

def hnatMcastGroupHandle (plat : Platform) (env : Env) (enable : Bool) (c : Ctx) : Ctx :=
  match hnatMcastGetHwFoe c.group with
  | none => c
  | some ptr =>
    if enable then c
    else
      let info := hnatMcastPrepareOffloadInfo c.group (c.readFoe ptr)
      let stag := (hnatMcastGetPseTxBmp env.devs c.group.members).stag
      (hnatMcastNpuDeleteStations env info stag false (dropGroup plat env c)).2

/-- The group that `hnat_mcast_group_path_switch` has found. -/
def pathSwitchGroup (plat : Platform) (env : Env) (hwPath : Bool) (c : Ctx) : Ctx :=
  let c := { c with group := { c.group with offload := hwPath } }
  if hwPath then c else dropGroup plat env c

/-- The group under the loop of `hnat_mcast_ser_handle`. -/
def hnatMcastSerGroup (group : Group) : Group :=
  { group.unbind with psebmp := 0, mtblIdx := none }

end OpenwrtSource.Hnat.McastOffload
