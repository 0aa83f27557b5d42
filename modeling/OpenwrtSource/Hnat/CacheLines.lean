import OpenwrtSource.Lib.BitField
import OpenwrtSource.Lib.Run
import OpenwrtSource.Lib.TableFold

/-!
# The cache of a PPE

Software reaches a word of the cache over registers: it gives the line and the offset,
and requests a command that the engine answers.  Learning, the scan of the table and the
cache are stopped for it, and put back as they were.
-/

namespace OpenwrtSource.Hnat.CacheLines

open Lib.BitField Lib.Run Lib.TableFold

/-- `PPE_FLOW_CFG`, `TB_CFG`, `CAH_CTRL`, `CAH_TAG_SRH`, `CAH_LINE_RW`, `CAH_WDATA` and
`CAH_RDATA`. -/
abbrev Regs := Words 7

theorem fits_0_32 : 0 + 32 ≤ 32 := by decide
theorem fits_16_2 : 16 + 2 ≤ 32 := by decide
theorem fits_0_1 : 0 + 1 ≤ 32 := by decide
theorem fits_8_1 : 8 + 1 ≤ 32 := by decide
theorem fits_9_1 : 9 + 1 ≤ 32 := by decide
theorem fits_12_2 : 12 + 2 ≤ 32 := by decide
theorem fits_18_2 : 18 + 2 ≤ 32 := by decide
theorem fits_0_16 : 0 + 16 ≤ 32 := by decide
theorem fits_16_8 : 16 + 8 ≤ 32 := by decide

def FLOW_CFG : Field 7 32 := ⟨0, 0, fits_0_32⟩
def TB_CFG : Field 7 32 := ⟨1, 0, fits_0_32⟩
def SCAN_MODE : Field 7 2 := ⟨1, 16, fits_16_2⟩
def CAH_EN : Field 7 1 := ⟨2, 0, fits_0_1⟩
def CAH_REQ : Field 7 1 := ⟨2, 8, fits_8_1⟩
def CAH_X_MODE : Field 7 1 := ⟨2, 9, fits_9_1⟩
def CAH_CMD : Field 7 2 := ⟨2, 12, fits_12_2⟩
def CAH_DATA_SEL : Field 7 2 := ⟨2, 18, fits_18_2⟩
def TAG_SRH : Field 7 16 := ⟨3, 0, fits_0_16⟩
def CAH_TAG_SRH : Field 7 32 := ⟨3, 0, fits_0_32⟩
def LINE_RW : Field 7 16 := ⟨4, 0, fits_0_16⟩
def OFFSET_RW : Field 7 8 := ⟨4, 16, fits_16_8⟩
def CAH_WDATA : Field 7 32 := ⟨5, 0, fits_0_32⟩
def CAH_RDATA : Field 7 32 := ⟨6, 0, fits_0_32⟩

inductive Netsys
  | v1 | v2 | v3
  deriving DecidableEq

/-- `sizeof(struct foe_entry) / 4`. -/
def Netsys.entryWords : Netsys → Nat
  | .v1 => 20
  | .v2 => 24
  | .v3 => 32

def Netsys.MAX_PPE_CACHE_NUM : Netsys → Nat
  | .v1 => 32
  | .v2 | .v3 => 128

/-- The line, the offset and the selected word. -/
abbrev Place := BitVec 16 × BitVec 8 × BitVec 2

abbrev Cells := Place → BitVec 32

structure Answer where
  finished : Bool
  tagSrh : BitVec 32
  rdata : BitVec 32
  cells : Cells

structure Ppe where
  regs : Regs
  cells : Cells
  /-- the registers at each request -/
  requests : List Regs

/-- What a request does, after the earlier ones. -/
abbrev Engine := List Regs → Regs → Cells → Answer

variable {width : Nat} (sys : Netsys) (engine : Engine)

def Ppe.set (field : Field 7 width) (value : BitVec width) (p : Ppe) : Ppe :=
  { p with regs := field.set value p.regs }

/-- `CAH_CMD`, `CAH_REQ` and `is_cah_ctrl_request_done`. -/
def request (cmd : BitVec 2) (p : Ppe) : Ppe × Bool :=
  let regs := CAH_REQ.set 1 (CAH_CMD.set cmd p.regs)
  let answer := engine p.requests regs p.cells
  let done := CAH_REQ.set (if answer.finished then 0 else 1) regs
  (⟨CAH_RDATA.set answer.rdata (CAH_TAG_SRH.set answer.tagSrh done), answer.cells,
    p.requests ++ [regs]⟩, answer.finished)

def atTag (line : Nat) (p : Ppe) : Ppe :=
  ((p.set LINE_RW (.ofNat 16 line)).set OFFSET_RW 0x1F).set CAH_DATA_SEL 0

def atWord (line i : Nat) (p : Ppe) : Ppe :=
  let p := p.set LINE_RW (.ofNat 16 line)
  if sys = .v3 then (p.set OFFSET_RW (.ofNat 8 (i / 4))).set CAH_DATA_SEL (.ofNat 2 (i % 4))
  else p.set OFFSET_RW (.ofNat 8 i)

/-- `__hnat_write_cache_line`. -/
def writeLine (line : Nat) (tag state : BitVec 32) (data : Option (Nat → BitVec 32)) (p : Ppe) :
    Ppe :=
  if line ≥ sys.MAX_PPE_CACHE_NUM ∨ state > 3 then p
  else
    let p := match data with
      | none => p
      | some data => (List.range sys.entryWords).foldl (fun p i =>
        (request engine 3 ((atWord sys line i p).set CAH_WDATA (data i))).1) p
    (request engine 3 ((atTag line p).set CAH_WDATA (state <<< 16 ||| tag))).1

/-- The scan and the cache are off while `body` runs. -/
def paused {α : Type} (body : Ppe → Ppe × α) (p : Ppe) : Ppe × α :=
  let done := body ((p.set SCAN_MODE 0).set CAH_EN 0)
  ((done.1.set CAH_EN (CAH_EN.get p.regs)).set SCAN_MODE (SCAN_MODE.get p.regs), done.2)

/-- `hnat_write_cache_line`: `none` is `-EINVAL`. -/
def hnatWriteCacheLine (line : Int) (tag state : BitVec 32) (data : Option (Nat → BitVec 32))
    (p : Ppe) : Option Ppe :=
  if line ≥ sys.MAX_PPE_CACHE_NUM ∨ state > 3 then none
  else
    let lines := if line < 0 then List.range sys.MAX_PPE_CACHE_NUM else [line.toNat]
    let body := fun p => (lines.foldl (fun p i => writeLine sys engine i tag state data p) p, ())
    some ((paused body (p.set FLOW_CFG 0)).1.set FLOW_CFG (FLOW_CFG.get p.regs))

structure Line where
  tag : BitVec 16
  status : BitVec 2
  data : List (BitVec 32)

def readWord (line : Nat) (filled : Ppe × (Nat → BitVec 32)) (i : Nat) :
    Ppe × (Nat → BitVec 32) :=
  let read := request engine 2 (atWord sys line i filled.1)
  (read.1, if read.2 then Function.update filled.2 i (CAH_RDATA.get read.1.regs) else filled.2)

/-- `__hnat_dump_cache_entry`, with what it prints unless it returns an error. -/
def dumpLine (line : Nat) (p : Ppe) : Ppe × Option (Nat × Line) :=
  if line ≥ sys.MAX_PPE_CACHE_NUM then (p, none)
  else
    let tagged := request engine 2 (atTag line p)
    if !tagged.2 then (tagged.1, none)
    else
      let rdata := CAH_RDATA.get tagged.1.regs
      let filled := (List.range sys.entryWords).foldl (readWord sys engine line)
        (tagged.1, fun _ => 0)
      (filled.1, some (line, ⟨rdata.setWidth 16, rdata.extractLsb' 16 2,
        (List.range 32).map filled.2⟩))

/-- `hnat_search_cache_line`; `none` for a negative result. -/
def hnatSearchCacheLine (foeEtryNum tag : Nat) (p : Ppe) : Ppe × Option Nat :=
  if tag ≥ foeEtryNum then (p, none)
  else
    let found := request engine 0 (p.set TAG_SRH (.ofNat 16 tag))
    let srh := CAH_TAG_SRH.get found.1.regs
    (found.1, if found.2 && srh.getLsbD 31 then some (srh.extractLsb' 16 7).toNat else none)

def dumpNext (printed : Ppe × List (Option (Nat × Line))) (line : Nat) :
    Ppe × List (Option (Nat × Line)) :=
  let dump := dumpLine sys engine line printed.1
  (dump.1, printed.2 ++ [dump.2])

/-- `hnat_dump_cache_entry`, with what is printed of each line. -/
def hnatDumpCacheEntry (foeEtryNum : Nat) (hash : Int) (p : Ppe) :
    Ppe × List (Option (Nat × Line)) :=
  paused (fun p =>
    if hash < 0 then
      (List.range sys.MAX_PPE_CACHE_NUM).foldl (dumpNext sys engine) (p, [])
    else
      let found := hnatSearchCacheLine engine foeEtryNum hash.toNat p
      match found.2 with
      | none => (found.1, [])
      | some line => dumpNext sys engine (found.1, []) line) p

/-- The bits of `PPE_FLOW_CFG` that `__hnat_cache_clr` leaves. -/
def clrMask : BitVec 32 := 0x621B000F

/-- `busy` are the bits of `PPE_CAH_DBG`, by retry and read. -/
def cacheIdle (busy : Nat → Nat → Bool) : Bool :=
  (List.range 10).any fun retry => (List.range 3).all fun i => !busy retry i

def invalidateLines (p : Ppe) : Ppe :=
  let tag := if sys = .v1 then 0x3FFF else 0x7FFF
  writeLine sys engine 0 tag 3 none ((p.set CAH_X_MODE 1).set CAH_X_MODE 0)

def hnatCacheClr (busy : Nat → Nat → Bool) (p : Ppe) : Ppe :=
  let masked := p.set FLOW_CFG (FLOW_CFG.get p.regs &&& clrMask)
  (if cacheIdle busy then (paused (fun p => (invalidateLines sys engine p, ())) masked).1
    else masked).set FLOW_CFG (FLOW_CFG.get p.regs)

def hnatCacheEbl (busy : Nat → Nat → Bool) (enable : Bool) (p : Ppe) : Ppe :=
  (if enable then hnatCacheClr sys engine busy p else p).set CAH_EN (.ofBool enable)

inductive Call
  | write (line : Int) (tag state : BitVec 32) (data : Option (Nat → BitVec 32))
  | dump (hash : Int)
  | clr (busy : Nat → Nat → Bool)
  | ebl (busy : Nat → Nat → Bool) (enable : Bool)

def step (foeEtryNum : Nat) (p : Ppe) : Call → Ppe
  | .write line tag state data => (hnatWriteCacheLine sys engine line tag state data p).getD p
  | .dump hash => (hnatDumpCacheEntry sys engine foeEtryNum hash p).1
  | .clr busy => hnatCacheClr sys engine busy p
  | .ebl busy enable => hnatCacheEbl sys engine busy enable p

/-- What the body of a call leaves alone: learning, the scan and the cache. -/
def settings : Regs := fun word =>
  if word.val < 2 then .allOnes 32 else if word.val = 2 then 1 else 0

/-- A stretch of a body, which requests these commands. -/
structure Frame (cmds : List (BitVec 2)) (p p' : Ppe) : Prop where
  regs : KeepsBits settings p.regs p'.regs
  requests : ∀ regs ∈ p'.requests,
    regs ∈ p.requests ∨ KeepsBits settings p.regs regs ∧ CAH_CMD.get regs ∈ cmds

variable {cmds : List (BitVec 2)} {p p' p'' : Ppe}

theorem Frame.refl (p : Ppe) : Frame cmds p p := ⟨.refl _ _, fun _ => .inl⟩

theorem Frame.trans (first : Frame cmds p p') (second : Frame cmds p' p'') : Frame cmds p p'' := by
  refine ⟨first.regs.trans second.regs, fun regs issued => ?_⟩
  rcases second.requests regs issued with earlier | ⟨kept, cmd⟩
  · exact first.requests regs earlier
  · exact .inr ⟨first.regs.trans kept, cmd⟩

theorem Frame.set (frame : Frame cmds p p') (field : Field 7 width) (value : BitVec width)
    (spares : field.Spares settings) : Frame cmds p (p'.set field value) :=
  frame.trans ⟨field.keepsBits_set value _ spares, fun _ => .inl⟩

theorem Frame.request (frame : Frame cmds p p') {cmd : BitVec 2} (listed : cmd ∈ cmds) :
    Frame cmds p (request engine cmd p').1 := by
  have issued : KeepsBits settings p'.regs (CAH_REQ.set 1 (CAH_CMD.set cmd p'.regs)) :=
    (CAH_CMD.keepsBits_set cmd _ (by decide)).trans (CAH_REQ.keepsBits_set 1 _ (by decide))
  refine frame.trans ⟨?_, fun regs inLog => ?_⟩
  · exact ((issued.trans (CAH_REQ.keepsBits_set _ _ (by decide))).trans
      (CAH_TAG_SRH.keepsBits_set _ _ (by decide))).trans (CAH_RDATA.keepsBits_set _ _ (by decide))
  · refine (List.mem_append.mp inLog).imp_right fun last => ?_
    rw [List.mem_singleton.mp last]
    refine ⟨issued, ?_⟩
    rwa [Field.get_set_of_apart _ _ _ _ (by decide), Field.get_set]

theorem Frame.foldl {S ι : Type} (ppe : S → Ppe) (body : S → ι → S)
    (each : ∀ s i, Frame cmds (ppe s) (ppe (body s i))) (items : List ι) (s : S) :
    Frame cmds (ppe s) (ppe (items.foldl body s)) := by
  induction items generalizing s with
  | nil => exact .refl _
  | cons i rest ih => exact (each s i).trans (ih (body s i))

theorem frame_atTag (line : Nat) (p : Ppe) : Frame cmds p (atTag line p) :=
  (((Frame.refl p).set LINE_RW _ (by decide)).set OFFSET_RW _ (by decide)).set CAH_DATA_SEL _
    (by decide)

theorem frame_atWord (line i : Nat) (p : Ppe) : Frame cmds p (atWord sys line i p) := by
  have start : Frame cmds p p := .refl p
  have atLine := start.set LINE_RW (.ofNat 16 line) (by decide)
  unfold atWord
  split
  · exact (atLine.set OFFSET_RW _ (by decide)).set CAH_DATA_SEL _ (by decide)
  · exact atLine.set OFFSET_RW _ (by decide)

theorem frame_writeLine (line : Nat) (tag state : BitVec 32) (data : Option (Nat → BitVec 32))
    (p : Ppe) : Frame [3] p (writeLine sys engine line tag state data p) := by
  have tagged := fun p => (((frame_atTag line p).set CAH_WDATA (state <<< 16 ||| tag)
    (by decide)).request engine List.mem_cons_self : Frame [3] p _)
  unfold writeLine
  split
  · exact .refl p
  · cases data with
    | none => exact tagged p
    | some data =>
      refine Frame.trans (Frame.foldl id _ (fun p i => ?_) _ p) (tagged _)
      exact ((frame_atWord sys line i p).set CAH_WDATA _ (by decide)).request engine
        List.mem_cons_self

theorem frame_dumpLine (line : Nat) (p : Ppe) : Frame [0, 2] p (dumpLine sys engine line p).1 := by
  have reads : (2 : BitVec 2) ∈ [0, (2 : BitVec 2)] := by decide
  have tagged := (frame_atTag line p).request engine reads
  unfold dumpLine
  split
  · exact .refl p
  · simp only
    split
    · exact tagged
    · refine tagged.trans ?_
      refine Frame.foldl Prod.fst (readWord sys engine line) (fun filled i => ?_) _ (_, fun _ => 0)
      exact (frame_atWord sys line i filled.1).request engine reads

theorem frame_search (foeEtryNum tag : Nat) (p : Ppe) :
    Frame [0, 2] p (hnatSearchCacheLine engine foeEtryNum tag p).1 := by
  unfold hnatSearchCacheLine
  split
  · exact .refl p
  · exact ((Frame.refl p).set TAG_SRH _ (by decide)).request engine List.mem_cons_self

/-- The scan and the cache are off, and learning too where the cache is written. -/
structure Safe (regs : Regs) : Prop where
  scanMode : SCAN_MODE.get regs = 0
  cahEn : CAH_EN.get regs = 0
  learning : CAH_CMD.get regs = 3 → FLOW_CFG.get regs &&& ~~~clrMask = 0

structure Restores (p p' : Ppe) : Prop where
  regs : KeepsBits settings p.regs p'.regs
  requests : ∀ regs ∈ p'.requests, regs ∈ p.requests ∨ Safe regs

theorem Restores.refl (p : Ppe) : Restores p p := ⟨.refl _ _, fun _ => .inl⟩

theorem restores_paused {α : Type} {body : Ppe → Ppe × α} (cmds : List (BitVec 2))
    (frame : ∀ p, Frame cmds p (body p).1)
    (learning : 3 ∈ cmds → FLOW_CFG.get p.regs &&& ~~~clrMask = 0) :
    Restores p (paused body p).1 := by
  let off := (p.set SCAN_MODE 0).set CAH_EN 0
  have inside := frame off
  have scan : SCAN_MODE.get off.regs = 0 := by
    simp [off, Ppe.set, Field.get_set_of_apart _ _ _ _ (show CAH_EN.Apart SCAN_MODE by decide)]
  have cache : CAH_EN.get off.regs = 0 := Field.get_set ..
  constructor
  · let kept := SCAN_MODE.set 0 (CAH_EN.set 0 settings)
    have body_keeps : KeepsBits kept off.regs (body off).1.regs := inside.regs.mono (by decide)
    have keeps : KeepsBits kept p.regs (body off).1.regs :=
      ((SCAN_MODE.keepsBits_set 0 _ (by decide)).trans
        (CAH_EN.keepsBits_set 0 _ (by decide))).trans body_keeps
    have enabled := (keeps.trans (CAH_EN.keepsBits_set (CAH_EN.get p.regs) _ (by decide))).mark
      CAH_EN (Field.get_set ..)
    have scanned := (enabled.trans (SCAN_MODE.keepsBits_set (SCAN_MODE.get p.regs) _
      (by decide))).mark SCAN_MODE (Field.get_set ..)
    exact scanned.mono (by decide)
  · intro regs issued
    refine (inside.requests regs issued).imp_right fun ⟨keeps, cmd⟩ => ?_
    refine ⟨?_, ?_, fun writes => ?_⟩
    · exact (keeps.get SCAN_MODE (by decide)).trans scan
    · exact (keeps.get CAH_EN (by decide)).trans cache
    · have same : FLOW_CFG.get regs = FLOW_CFG.get p.regs := by
        rw [keeps.get FLOW_CFG (by decide)]
        simp (disch := decide) only [off, Ppe.set, Field.get_set_of_apart]
      rw [same]
      exact learning (writes ▸ cmd)

theorem Restores.flowCfg {value : BitVec 32} {inner : Ppe}
    (restores : Restores (p.set FLOW_CFG value) inner) :
    Restores p (inner.set FLOW_CFG (FLOW_CFG.get p.regs)) := by
  let kept := FLOW_CFG.set 0 settings
  have keeps : KeepsBits kept p.regs inner.regs :=
    (FLOW_CFG.keepsBits_set value _ (by decide)).trans (restores.regs.mono (by decide))
  have put := (keeps.trans (FLOW_CFG.keepsBits_set (FLOW_CFG.get p.regs) _ (by decide))).mark
    FLOW_CFG (Field.get_set ..)
  exact ⟨put.mono (by decide), restores.requests⟩

theorem restores_write (line : Int) (tag state : BitVec 32) (data : Option (Nat → BitVec 32))
    (p p' : Ppe) (written : hnatWriteCacheLine sys engine line tag state data p = some p') :
    Restores p p' := by
  unfold hnatWriteCacheLine at written
  split at written
  · cases written
  · cases written
    refine (restores_paused [3] (fun p => ?_) fun _ => ?_).flowCfg
    · exact Frame.foldl id _ (fun p i => frame_writeLine sys engine i tag state data p) _ p
    · simp [Ppe.set]

theorem restores_dump (foeEtryNum : Nat) (hash : Int) (p : Ppe) :
    Restores p (hnatDumpCacheEntry sys engine foeEtryNum hash p).1 := by
  refine restores_paused [0, 2] (fun p => ?_) fun writes => absurd writes (by decide)
  split
  · exact Frame.foldl Prod.fst (dumpNext sys engine)
      (fun printed i => frame_dumpLine sys engine i printed.1) _ (p, [])
  · have found := frame_search engine foeEtryNum hash.toNat p
    dsimp only
    split
    · exact found
    · exact found.trans (frame_dumpLine sys engine _ _)

theorem frame_invalidateLines (p : Ppe) : Frame [3] p (invalidateLines sys engine p) := by
  have toggled : Frame [3] p _ :=
    ((Frame.refl p).set CAH_X_MODE 1 (by decide)).set CAH_X_MODE 0 (by decide)
  unfold invalidateLines
  exact toggled.trans (frame_writeLine sys engine 0 _ 3 none _)

theorem restores_clr (busy : Nat → Nat → Bool) (p : Ppe) :
    Restores p (hnatCacheClr sys engine busy p) := by
  let masked := p.set FLOW_CFG (FLOW_CFG.get p.regs &&& clrMask)
  have learning : FLOW_CFG.get masked.regs &&& ~~~clrMask = 0 := by
    change FLOW_CFG.get (FLOW_CFG.set _ p.regs) &&& ~~~clrMask = 0
    rw [Field.get_set, BitVec.and_assoc, BitVec.and_not_self]
    exact BitVec.and_zero
  have cleared : Restores masked (paused (fun p => (invalidateLines sys engine p, ())) masked).1 :=
    restores_paused [3] (frame_invalidateLines sys engine) fun _ => learning
  unfold hnatCacheClr
  cases cacheIdle busy with
  | true => exact cleared.flowCfg
  | false => exact (Restores.refl masked).flowCfg

/-- What `CAH_EN` is after a call. -/
def enabled (cahEn : BitVec 1) : Call → BitVec 1
  | .ebl _ enable => .ofBool enable
  | _ => cahEn

structure Holds (start p : Ppe) (cahEn : BitVec 1) : Prop where
  flowCfg : FLOW_CFG.get p.regs = FLOW_CFG.get start.regs
  tbCfg : TB_CFG.get p.regs = TB_CFG.get start.regs
  cahEn : CAH_EN.get p.regs = cahEn
  requests : ∀ regs ∈ p.requests, regs ∈ start.requests ∨ Safe regs

theorem Holds.restores {start : Ppe} {cahEn : BitVec 1} (holds : Holds start p cahEn)
    (restores : Restores p p') : Holds start p' cahEn := by
  refine ⟨?_, ?_, ?_, fun regs issued => ?_⟩
  · exact (restores.regs.get FLOW_CFG (by decide)).trans holds.flowCfg
  · exact (restores.regs.get TB_CFG (by decide)).trans holds.tbCfg
  · exact (restores.regs.get CAH_EN (by decide)).trans holds.cahEn
  · exact (restores.requests regs issued).elim (holds.requests regs) .inr

theorem holds_step (foeEtryNum : Nat) {start : Ppe} {cahEn : BitVec 1} (holds : Holds start p cahEn)
    (call : Call) : Holds start (step sys engine foeEtryNum p call) (enabled cahEn call) := by
  cases call with
  | write line tag state data =>
    rw [step]
    cases written : hnatWriteCacheLine sys engine line tag state data p with
    | none => exact holds
    | some p' => exact holds.restores (restores_write sys engine line tag state data p p' written)
  | dump hash => exact holds.restores (restores_dump sys engine foeEtryNum hash p)
  | clr busy => exact holds.restores (restores_clr sys engine busy p)
  | ebl busy enable =>
    have before : Holds start (if enable then hnatCacheClr sys engine busy p else p) cahEn := by
      cases enable with
      | true => exact holds.restores (restores_clr sys engine busy p)
      | false => exact holds
    refine ⟨?_, ?_, Field.get_set .., before.requests⟩
    · exact (Field.get_set_of_apart _ _ _ _ (by decide)).trans before.flowCfg
    · exact (Field.get_set_of_apart _ _ _ _ (by decide)).trans before.tbCfg

/-- Whatever the engine answers, and when: calls leave the settings as they found them, but for
`CAH_EN`, and the cache is only accessed while it is off. -/
theorem calls_hold (foeEtryNum : Nat) (p : Ppe) (calls : List Call) :
    Holds p (run (step sys engine foeEtryNum) p calls) (run enabled (CAH_EN.get p.regs) calls) := by
  suffices kept : ∀ (q : Ppe) (cahEn : BitVec 1), Holds p q cahEn →
      Holds p (run (step sys engine foeEtryNum) q calls) (run enabled cahEn calls) from
    kept p _ ⟨rfl, rfl, rfl, fun _ => .inl⟩
  induction calls with
  | nil => exact fun _ _ holds => holds
  | cons call rest ih => exact fun q cahEn holds => ih _ _ (holds_step sys engine _ holds call)

/-! ## An engine that does what it is told -/

/-- Where the registers point; the selected word only counts on NETSYS v3. -/
def pointed (regs : Regs) : Place :=
  (LINE_RW.get regs, OFFSET_RW.get regs, if sys = .v3 then CAH_DATA_SEL.get regs else 0)

structure Obeys : Prop where
  finished : ∀ earlier regs cells, (engine earlier regs cells).finished = true
  reads : ∀ earlier regs cells, CAH_CMD.get regs = 2 →
    (engine earlier regs cells).cells = cells ∧
      (engine earlier regs cells).rdata = cells (pointed sys regs)
  writes : ∀ earlier regs cells, CAH_CMD.get regs = 3 →
    (engine earlier regs cells).cells =
      Function.update cells (pointed sys regs) (CAH_WDATA.get regs)

def tagPlace (line : Nat) : Place := (.ofNat 16 line, 0x1F, 0)

def wordPlace (line i : Nat) : Place :=
  (.ofNat 16 line, if sys = .v3 then (.ofNat 8 (i / 4), .ofNat 2 (i % 4)) else (.ofNat 8 i, 0))

/-- What a line holds. -/
def lineOf (cells : Cells) (line : Nat) : Line where
  tag := (cells (tagPlace line)).setWidth 16
  status := (cells (tagPlace line)).extractLsb' 16 2
  data := (List.range 32).map fun i =>
    if i < sys.entryWords then cells (wordPlace sys line i) else 0

def written (tag state : BitVec 32) (data : Option (Nat → BitVec 32)) (before : Line) : Line where
  tag := tag.setWidth 16
  status := state.setWidth 2
  data := match data with
    | none => before.data
    | some data => (List.range 32).map fun i => if i < sys.entryWords then data i else 0

theorem pointed_atTag (line : Nat) (p : Ppe) : pointed sys (atTag line p).regs = tagPlace line := by
  unfold pointed atTag tagPlace Ppe.set
  simp (disch := decide) only [Field.get_set, Field.get_set_of_apart, ite_self]

theorem pointed_atWord (line i : Nat) (p : Ppe) :
    pointed sys (atWord sys line i p).regs = wordPlace sys line i := by
  unfold pointed atWord wordPlace Ppe.set
  split <;> simp (disch := decide) only [Field.get_set, Field.get_set_of_apart]

section Obeying

variable {sys engine} (obeys : Obeys sys engine)
include obeys

theorem request_write (p : Ppe) : (request engine 3 p).1.cells =
    Function.update p.cells (pointed sys p.regs) (CAH_WDATA.get p.regs) := by
  have issued := obeys.writes p.requests (CAH_REQ.set 1 (CAH_CMD.set 3 p.regs)) p.cells
    (by simp (disch := decide) only [Field.get_set, Field.get_set_of_apart])
  refine issued.trans ?_
  unfold pointed
  simp (disch := decide) only [Field.get_set_of_apart]

theorem request_read (p : Ppe) : (request engine 2 p).1.cells = p.cells ∧
    (request engine 2 p).2 = true ∧
      CAH_RDATA.get (request engine 2 p).1.regs = p.cells (pointed sys p.regs) := by
  obtain ⟨same, rdata⟩ := obeys.reads p.requests (CAH_REQ.set 1 (CAH_CMD.set 2 p.regs)) p.cells
    (by simp (disch := decide) only [Field.get_set, Field.get_set_of_apart])
  refine ⟨same, obeys.finished .., (Field.get_set ..).trans (rdata.trans ?_)⟩
  unfold pointed
  simp (disch := decide) only [Field.get_set_of_apart]

theorem request_write_at (p : Ppe) (value : BitVec 32) :
    (request engine 3 (p.set CAH_WDATA value)).1.cells =
      Function.update p.cells (pointed sys p.regs) value := by
  rw [request_write obeys]
  unfold pointed Ppe.set
  simp (disch := decide) only [Field.get_set, Field.get_set_of_apart]

theorem writeLine_cells {line : Nat} (inside : line < sys.MAX_PPE_CACHE_NUM)
    (tag : BitVec 32) {state : BitVec 32} (valid : state ≤ 3) (data : Option (Nat → BitVec 32))
    (p : Ppe) : (writeLine sys engine line tag state data p).cells =
      Function.update (match data with
        | none => p.cells
        | some data => (List.range sys.entryWords).foldl
            (writeCell (wordPlace sys line) fun i _ => data i) p.cells)
        (tagPlace line) (state <<< 16 ||| tag) := by
  have accepted : ¬ (line ≥ sys.MAX_PPE_CACHE_NUM ∨ state > 3) := by
    rw [not_or]
    exact ⟨Nat.not_le.mpr inside, BitVec.not_lt.mpr valid⟩
  unfold writeLine
  rw [if_neg accepted]
  cases data with
  | none => rw [request_write_at obeys, pointed_atTag]; rfl
  | some data =>
    rw [request_write_at obeys, pointed_atTag]
    refine congrArg (Function.update · _ _) (foldl_table Ppe.cells _ _ _ (fun p i => ?_) _ p)
    rw [request_write_at obeys, pointed_atWord]
    unfold atWord
    split <;> rfl

end Obeying

theorem entryWords_le : sys.entryWords ≤ 32 := by cases sys <;> decide

theorem MAX_PPE_CACHE_NUM_le : sys.MAX_PPE_CACHE_NUM ≤ 128 := by cases sys <;> decide

theorem wordPlace_ne_tagPlace (line other : Nat) {i : Nat} (small : i < sys.entryWords) :
    wordPlace sys line i ≠ tagPlace other := by
  intro same
  have := entryWords_le sys
  have offset := congrArg (fun place : Place => place.2.1.toNat) same
  cases sys <;> simp [wordPlace, tagPlace, Netsys.entryWords] at offset small <;> omega

theorem wordPlace_inj (line : Nat) {i j : Nat} (small : i < sys.entryWords)
    (small' : j < sys.entryWords) (same : wordPlace sys line i = wordPlace sys line j) : i = j := by
  have offset := congrArg (fun place : Place => place.2.1.toNat) same
  have word := congrArg (fun place : Place => place.2.2.toNat) same
  cases sys <;> simp [wordPlace, Netsys.entryWords] at offset word small small' <;> omega

theorem ofNat_ne_of_inside {line other : Nat} (inside : line < sys.MAX_PPE_CACHE_NUM)
    (inside' : other < sys.MAX_PPE_CACHE_NUM) (differ : line ≠ other) :
    BitVec.ofNat 16 line ≠ BitVec.ofNat 16 other := by
  intro same
  have := MAX_PPE_CACHE_NUM_le sys
  have := congrArg BitVec.toNat same
  simp at this
  omega

theorem getLsbD_tagWord (tag state : BitVec 32) {i : Nat} (inWord : i < 32) :
    (state <<< 16 ||| tag).getLsbD i =
      (decide (16 ≤ i) && state.getLsbD (i - 16) || tag.getLsbD i) := by
  by_cases low : i < 16
  · simp only [BitVec.getLsbD_or, BitVec.getLsbD_shiftLeft, low, show ¬ 16 ≤ i by omega]
    simp
  · simp only [BitVec.getLsbD_or, BitVec.getLsbD_shiftLeft, low, show 16 ≤ i by omega, inWord]
    simp

theorem tag_tagWord (tag state : BitVec 32) :
    (state <<< 16 ||| tag).setWidth 16 = tag.setWidth 16 := by
  apply BitVec.eq_of_getLsbD_eq
  intro i inTag
  rw [BitVec.getLsbD_setWidth, BitVec.getLsbD_setWidth, getLsbD_tagWord _ _ (by omega),
    decide_eq_false (show ¬ 16 ≤ i by omega), Bool.false_and, Bool.false_or]

theorem status_tagWord {tag : BitVec 32} (state : BitVec 32) (small : tag.toNat < 2 ^ 16) :
    (state <<< 16 ||| tag).extractLsb' 16 2 = state.setWidth 2 := by
  apply BitVec.eq_of_getLsbD_eq
  intro i inStatus
  have clear : tag.getLsbD (16 + i) = false :=
    Nat.testBit_lt_two_pow (lt_of_lt_of_le small (Nat.pow_le_pow_right (by decide) (by omega)))
  rw [BitVec.getLsbD_extractLsb', getLsbD_tagWord _ _ (by omega), clear, BitVec.getLsbD_setWidth,
    decide_eq_true (show 16 ≤ 16 + i by omega), Nat.add_sub_cancel_left, Bool.true_and,
    Bool.or_false]

theorem lineOf_writeLine (obeys : Obeys sys engine) {line other : Nat}
    (inside : line < sys.MAX_PPE_CACHE_NUM) (inside' : other < sys.MAX_PPE_CACHE_NUM)
    {tag state : BitVec 32} (small : tag.toNat < 2 ^ 16) (valid : state ≤ 3)
    (data : Option (Nat → BitVec 32)) (p : Ppe) :
    lineOf sys (writeLine sys engine line tag state data p).cells other =
      if other = line then written sys tag state data (lineOf sys p.cells other)
      else lineOf sys p.cells other := by
  rw [writeLine_cells obeys inside tag valid data p]
  by_cases same : other = line
  · subst same
    rw [if_pos rfl]
    unfold lineOf written
    rw [Function.update_self, tag_tagWord, status_tagWord _ small]
    congr 1
    have other_cell := fun i (word : i < sys.entryWords) (cells : Cells) =>
      Function.update_of_ne (wordPlace_ne_tagPlace sys other other word)
        (state <<< 16 ||| tag) cells
    cases data with
    | none =>
      dsimp only
      refine List.map_congr_left fun i _ => ?_
      split
      · exact other_cell i (by assumption) _
      · rfl
    | some data =>
      refine List.map_congr_left fun i _ => ?_
      split
      · rename_i word
        refine (other_cell i word _).trans ?_
        exact foldl_writeCell (wordPlace sys other) (fun i _ => data i) _ List.nodup_range
          (fun i inRange j inRange' => wordPlace_inj sys other (List.mem_range.mp inRange)
            (List.mem_range.mp inRange')) (List.mem_range.mpr word)
      · rfl
  · rw [if_neg same]
    have apart := ofNat_ne_of_inside sys inside' inside same
    have elsewhere : ∀ rest, Function.update (match data with
        | none => p.cells
        | some data => (List.range sys.entryWords).foldl
            (writeCell (wordPlace sys line) fun i _ => data i) p.cells)
        (tagPlace line) (state <<< 16 ||| tag) (.ofNat 16 other, rest) =
          p.cells (.ofNat 16 other, rest) := by
      intro rest
      rw [Function.update_of_ne fun place => apart (congrArg Prod.fst place)]
      cases data with
      | none => rfl
      | some data =>
        exact foldl_writeCell_other _ _ _ _ fun i _ place => apart (congrArg Prod.fst place).symm
    unfold lineOf wordPlace tagPlace at *
    simp only [elsewhere]

section RoundTrip

variable {sys engine} (obeys : Obeys sys engine)
include obeys

theorem lineOf_foldl {tag state : BitVec 32} (small : tag.toNat < 2 ^ 16) (valid : state ≤ 3)
    (data : Option (Nat → BitVec 32)) {line : Nat} (inside : line < sys.MAX_PPE_CACHE_NUM)
    {lines : List Nat} (all_inside : ∀ i ∈ lines, i < sys.MAX_PPE_CACHE_NUM) (p : Ppe) :
    lineOf sys (lines.foldl (fun p i => writeLine sys engine i tag state data p) p).cells line =
      if line ∈ lines then written sys tag state data (lineOf sys p.cells line)
      else lineOf sys p.cells line := by
  induction lines generalizing p with
  | nil => rfl
  | cons i rest ih =>
    have twice : ∀ before, written sys tag state data (written sys tag state data before) =
        written sys tag state data before := by
      intro before
      cases data <;> rfl
    rw [List.foldl_cons, ih fun j later => all_inside j (.tail _ later),
      lineOf_writeLine sys engine obeys (all_inside i List.mem_cons_self) inside small valid]
    by_cases here : line = i <;> by_cases later : line ∈ rest <;> simp [here, later, twice]

theorem readWord_eq (line : Nat) (filled : Ppe × (Nat → BitVec 32)) (i : Nat) :
    (readWord sys engine line filled i).1.cells = filled.1.cells ∧
      (readWord sys engine line filled i).2 =
        Function.update filled.2 i (filled.1.cells (wordPlace sys line i)) := by
  obtain ⟨same, finished, rdata⟩ := request_read obeys (atWord sys line i filled.1)
  have kept : (atWord sys line i filled.1).cells = filled.1.cells := by
    unfold atWord
    split <;> rfl
  unfold readWord
  rw [pointed_atWord, kept] at rdata
  exact ⟨same.trans kept, by simp only [finished, if_true, rdata]⟩

theorem foldl_readWord (line : Nat) (items : List Nat) (filled : Ppe × (Nat → BitVec 32)) :
    (items.foldl (readWord sys engine line) filled).1.cells = filled.1.cells ∧
      ∀ i, (items.foldl (readWord sys engine line) filled).2 i =
        if i ∈ items then filled.1.cells (wordPlace sys line i) else filled.2 i := by
  induction items generalizing filled with
  | nil => exact ⟨rfl, fun _ => rfl⟩
  | cons j rest ih =>
    obtain ⟨cells, data⟩ := readWord_eq obeys line filled j
    obtain ⟨after, read⟩ := ih (readWord sys engine line filled j)
    refine ⟨after.trans cells, fun i => ?_⟩
    rw [List.foldl_cons, read, cells, data]
    by_cases here : i = j <;> by_cases later : i ∈ rest <;> simp [here, later]

theorem dumpLine_eq {line : Nat} (inside : line < sys.MAX_PPE_CACHE_NUM) (p : Ppe) :
    (dumpLine sys engine line p).1.cells = p.cells ∧
      (dumpLine sys engine line p).2 = some (line, lineOf sys p.cells line) := by
  obtain ⟨same, finished, rdata⟩ := request_read obeys (atTag line p)
  have kept : (atTag line p).cells = p.cells := rfl
  rw [pointed_atTag, kept] at rdata
  obtain ⟨after, read⟩ := foldl_readWord obeys line (List.range sys.entryWords)
    ((request engine 2 (atTag line p)).1, fun _ => 0)
  unfold dumpLine
  rw [if_neg (Nat.not_le.mpr inside)]
  simp only [finished, Bool.not_true, Bool.false_eq_true, if_false, rdata]
  refine ⟨after.trans same, congrArg (fun line' => some (line, line')) ?_⟩
  unfold lineOf
  congr 1
  refine List.map_congr_left fun i _ => ?_
  rw [read, same, kept]
  simp only [List.mem_range]

theorem foldl_dumpNext {lines : List Nat} (inside : ∀ i ∈ lines, i < sys.MAX_PPE_CACHE_NUM)
    (printed : Ppe × List (Option (Nat × Line))) :
    (lines.foldl (dumpNext sys engine) printed).2 =
      printed.2 ++ lines.map fun i => some (i, lineOf sys printed.1.cells i) := by
  induction lines generalizing printed with
  | nil => simp
  | cons i rest ih =>
    obtain ⟨cells, shown⟩ := dumpLine_eq obeys (inside i List.mem_cons_self) printed.1
    rw [List.foldl_cons, ih fun j later => inside j (.tail _ later)]
    simp only [dumpNext, cells, shown, List.map_cons, List.append_assoc, List.singleton_append]

end RoundTrip

def obedient : Engine := fun _ regs cells =>
  { finished := true, tagSrh := 0, rdata := cells (pointed sys regs),
    cells := if CAH_CMD.get regs = 3 then
      Function.update cells (pointed sys regs) (CAH_WDATA.get regs) else cells }

theorem obeys_obedient : Obeys sys (obedient sys) where
  finished _ _ _ := rfl
  reads _ regs _ cmd := ⟨if_neg (by rw [cmd]; decide), rfl⟩
  writes _ _ _ cmd := if_pos cmd

end OpenwrtSource.Hnat.CacheLines
