import OpenwrtSource.Hnat.Register
import OpenwrtSource.Lib.KernelText
import OpenwrtSource.Lib.Run

/-!
# The protocol table of 3-tuple offload

The driver checks a protocol against its own table, the PPE against registers
that `hnat_hw_set_prot_3t` packs from that table.  The `proto_3tuple` file of
debugfs replaces the table, or only the enable bits of IPv4 or IPv6.
-/

namespace OpenwrtSource.Hnat.Prot3Tuple

open Lib.Run Lib.KernelText Hnat.Register

/-- `struct hnat_prot_3t_cfg`. -/
structure Prot3tCfg where
  ipv4Chk : BitVec 16
  ipv6Chk : BitVec 16
  proto : Nat → BitVec 8
  num : Nat
  blist : Bool
  bounded : num ≤ 16

/-- The registers of one PPE that the protocol check uses. -/
structure PpeRegs where
  flowCfg : Reg
  ipProtChk : Reg
  ipProt : Nat → Reg

structure Ppe where
  cfg : Prot3tCfg
  regs : PpeRegs

inductive Family where
  | ipv4
  | ipv6
  deriving DecidableEq

def Prot3tCfg.chk (cfg : Prot3tCfg) : Family → BitVec 16
  | .ipv4 => cfg.ipv4Chk
  | .ipv6 => cfg.ipv6Chk

def hnatProt3tSupport (cfg : Prot3tCfg) (chk : BitVec 16) (protocol : BitVec 8) : Bool :=
  let protChk := (List.range cfg.num).any fun i => chk.getLsbD i && protocol == cfg.proto i
  cfg.blist != protChk

def BIT_IP_PROT_CHK_BLIST : Reg := 1 <<< 16

/-- The registers PPE_IP_PROT_0 to PPE_IP_PROT_3 for the first `num` protocols. -/
def protRegs (proto : Nat → BitVec 8) (num : Nat) : Nat → Reg :=
  (List.range num).foldl (fun regs i =>
    Function.update regs (i / 4) (regs (i / 4) ||| (proto i).setWidth 32 <<< (i % 4 * 8)))
    fun _ => 0

def hnatHwSetProt3t (ppe : Ppe) : Ppe :=
  { ppe with regs :=
    { flowCfg := crSetField BIT_IP_PROT_CHK_BLIST (if ppe.cfg.blist then 1 else 0)
        ppe.regs.flowCfg
      ipProtChk := ppe.cfg.ipv4Chk.setWidth 32 ||| (ppe.cfg.ipv6Chk.setWidth 32 <<< 16)
      ipProt := protRegs ppe.cfg.proto ppe.cfg.num } }

def PpeRegs.enabled (regs : PpeRegs) (family : Family) (slot : Nat) : Bool :=
  match family with
  | .ipv4 => regs.ipProtChk.getLsbD slot
  | .ipv6 => (regs.ipProtChk >>> 16).getLsbD slot

def PpeRegs.protByte (regs : PpeRegs) (slot : Nat) : BitVec 8 :=
  (regs.ipProt (slot / 4) >>> (slot % 4 * 8)).setWidth 8

def PpeRegs.blist (regs : PpeRegs) : Bool :=
  fieldGet BIT_IP_PROT_CHK_BLIST regs.flowCfg != 0

def PpeRegs.accepts (regs : PpeRegs) (family : Family) (protocol : BitVec 8) : Bool :=
  regs.blist !=
    (List.range 16).any fun j => regs.enabled family j && protocol == regs.protByte j

/-- What a well-formed write asks for, of the PPEs from `first` to below `last`. -/
inductive Request where
  | setChk (family : Family) (chk : BitVec 16)
  | setAll (blist : Bool) (protoList : List (BitVec 8))

structure Command where
  first : Nat
  last : Nat
  request : Request

/-- The protocols of a full command: at most `room` of them, further text is not read. -/
def parseProtos : Nat → Option Text → Option (List (BitVec 8))
  | 0, _ => some []
  | room + 1, text =>
    match strsep [' ', '\t'] text with
    | none => some []
    | some (token, rest) => do
        let proto ← kstrtou32 10 token
        let others ← parseProtos room rest
        some (BitVec.ofNat 8 proto :: others)

def parseRequest (text : Option Text) : Option Request := do
  let (token, rest) ← strsep [' ', '\t'] text
  if ['i', 'p', 'v', '4'].isPrefixOf token || ['i', 'p', 'v', '6'].isPrefixOf token then
    let family := if ['i', 'p', 'v', '4'].isPrefixOf token then Family.ipv4 else Family.ipv6
    let (token, _) ← strsep [' ', '\t'] rest
    let chk ← kstrtou32 0 token
    some (.setChk family (BitVec.ofNat 16 chk))
  else
    let blist ← kstrtou32 10 token
    if blist > 1 then none
    else
      let protoList ← parseProtos 16 rest
      some (.setAll (decide (blist = 1)) protoList)

/-- `none` stands for an error that the write returns. -/
def parseCommand (ppeNum : Nat) (input : Text) : Option Command := do
  if input.length ≥ 256 then none
  else
    let buf := input.takeWhile (· ≠ Char.ofNat 0)
    let (token, rest) ← strsep [' ', '\t'] (some buf)
    let ppeId ← kstrtoint 10 token
    if ppeId < -1 ∨ ppeId ≥ ppeNum then none
    else
      let request ← parseRequest rest
      some
        { first := if ppeId = -1 then 0 else ppeId.toNat
          last := if ppeId = -1 then ppeNum else ppeId.toNat + 1
          request := request }

/-- The enable bits of a full command, one for each protocol read. -/
def fullChk (num : Nat) : BitVec 16 :=
  (List.range num).foldl (fun chk i => chk ||| (1#16 <<< i)) 0

def Request.toCfg (request : Request) (cfg : Prot3tCfg) : Prot3tCfg :=
  match request with
  | .setChk .ipv4 chk => { cfg with ipv4Chk := chk }
  | .setChk .ipv6 chk => { cfg with ipv6Chk := chk }
  | .setAll blist protoList =>
    let protoList := protoList.take 16
    { ipv4Chk := fullChk protoList.length
      ipv6Chk := fullChk protoList.length
      proto := fun i => protoList.getD i 0
      num := protoList.length
      blist := blist
      bounded := by simp [protoList] }

def Request.apply (request : Request) (ppe : Ppe) : Ppe :=
  hnatHwSetProt3t { ppe with cfg := request.toCfg ppe.cfg }

def Command.apply (command : Command) (s : Nat → Ppe) : Nat → Ppe :=
  (List.range' command.first (command.last - command.first)).foldl
    (fun s i => Function.update s i (command.request.apply (s i))) s

/-- A write to the file; `copied` tells whether the text could be read from user space. -/
structure Write where
  input : Text
  copied : Bool

def hnatProto3tupleWrite (ppeNum : Nat) (s : Nat → Ppe) (write : Write) : Nat → Ppe :=
  if write.copied then
    match parseCommand ppeNum write.input with
    | none => s
    | some command => command.apply s
  else s

def emptyCfg : Prot3tCfg :=
  { ipv4Chk := 0, ipv6Chk := 0, proto := fun _ => 0, num := 0, blist := false,
    bounded := by omega }

/-- After the probe: the table is zero and programmed over whatever the registers held. -/
def probed (regs : Nat → PpeRegs) : Nat → Ppe :=
  fun i => hnatHwSetProt3t { cfg := emptyCfg, regs := regs i }

theorem byte_or (left right : Reg) (shift : Nat) :
    ((left ||| right) >>> shift).setWidth 8 =
      (left >>> shift).setWidth 8 ||| (right >>> shift).setWidth 8 := by
  rw [BitVec.ushiftRight_or_distrib, BitVec.setWidth_or]

theorem byte_of_packed (byte : BitVec 8) {written read : Nat} (inWord : written < 4)
    (within : read < 4) :
    ((byte.setWidth 32 <<< (written * 8)) >>> (read * 8)).setWidth 8 =
      if written = read then byte else 0 := by
  apply BitVec.eq_of_getLsbD_eq
  intro i inByte
  simp only [BitVec.getLsbD_setWidth, BitVec.getLsbD_ushiftRight, BitVec.getLsbD_shiftLeft,
    inByte, decide_true, Bool.true_and]
  split
  · rename_i same
    subst same
    have lower : ¬ written * 8 + i < written * 8 := by omega
    have inside : written * 8 + i < 32 := by omega
    have offset : written * 8 + i - written * 8 = i := by omega
    have small : i < 32 := by omega
    simp [lower, inside, offset, small]
  · rename_i apart
    rcases Nat.lt_or_gt_of_ne apart with below | above
    · have beyond : byte.getLsbD (read * 8 + i - written * 8) = false :=
        BitVec.getLsbD_of_ge _ _ (by omega)
      simp [beyond]
    · have lower : read * 8 + i < written * 8 := by omega
      simp [lower]

theorem protRegs_byte (proto : Nat → BitVec 8) (num slot : Nat) :
    ((protRegs proto num (slot / 4)) >>> (slot % 4 * 8)).setWidth 8 =
      if slot < num then proto slot else 0 := by
  induction num with
  | zero => simp [protRegs]
  | succ n ih =>
    have unfolds : protRegs proto (n + 1) =
        Function.update (protRegs proto n) (n / 4)
          (protRegs proto n (n / 4) ||| (proto n).setWidth 32 <<< (n % 4 * 8)) := by
      simp only [protRegs, List.range_succ, List.foldl_append, List.foldl_cons, List.foldl_nil]
    rw [unfolds]
    by_cases word : slot / 4 = n / 4
    · rw [word, Function.update_self, byte_or, ← word, ih,
        byte_of_packed (proto n) (Nat.mod_lt n (by omega)) (Nat.mod_lt slot (by omega))]
      by_cases own : slot = n
      · subst own
        simp
      · have places : n % 4 ≠ slot % 4 := by omega
        simp [places, show slot < n + 1 ↔ slot < n by omega]
    · rw [Function.update_of_ne word, ih]
      have apart : slot ≠ n := by
        rintro rfl
        exact word rfl
      simp only [show slot < n + 1 ↔ slot < n by omega]

structure Programmed (ppe : Ppe) : Prop where
  blist : ppe.regs.blist = ppe.cfg.blist
  enabled : ∀ family, ∀ slot < 16,
    ppe.regs.enabled family slot = (ppe.cfg.chk family).getLsbD slot
  protByte : ∀ slot < 16,
    ppe.regs.protByte slot = if slot < ppe.cfg.num then ppe.cfg.proto slot else 0

theorem programmed_hnatHwSetProt3t (ppe : Ppe) : Programmed (hnatHwSetProt3t ppe) := by
  refine ⟨?_, ?_, ?_⟩
  · have written : ∀ blist : Bool,
        ((if blist then (1 : Reg) else 0) <<< (ffs BIT_IP_PROT_CHK_BLIST - 1)) &&&
          ~~~BIT_IP_PROT_CHK_BLIST = 0 := by decide
    have read : ∀ blist : Bool,
        (((if blist then (1 : Reg) else 0) <<< (ffs BIT_IP_PROT_CHK_BLIST - 1)) >>>
          (ffs BIT_IP_PROT_CHK_BLIST - 1) != 0) = blist := by decide
    simp only [PpeRegs.blist, fieldGet, hnatHwSetProt3t]
    rw [crSetField_and_self _ (written ppe.cfg.blist)]
    exact read ppe.cfg.blist
  · intro family slot inTable
    have small : slot < 32 := by omega
    cases family with
    | ipv4 =>
      simp [PpeRegs.enabled, hnatHwSetProt3t, Prot3tCfg.chk, inTable, small]
    | ipv6 =>
      have inside : 16 + slot < 32 := by omega
      simp [PpeRegs.enabled, hnatHwSetProt3t, Prot3tCfg.chk, small, inside]
  · intro slot _
    exact protRegs_byte ppe.cfg.proto ppe.cfg.num slot

/-- An enabled slot behind the table matches protocol 0 in hardware only; this
shows unless a slot of the table enables protocol 0 too. -/
def Covered (cfg : Prot3tCfg) (chk : BitVec 16) : Prop :=
  (∃ slot < cfg.num, chk.getLsbD slot = true ∧ cfg.proto slot = 0) ∨
    ∀ slot < 16, chk.getLsbD slot = true → slot < cfg.num

def AgreeOn (ppe : Ppe) (family : Family) : Prop :=
  ∀ protocol, hnatProt3tSupport ppe.cfg (ppe.cfg.chk family) protocol =
    ppe.regs.accepts family protocol

theorem support_match_iff (cfg : Prot3tCfg) (chk : BitVec 16) (protocol : BitVec 8) :
    ((List.range cfg.num).any fun i => chk.getLsbD i && protocol == cfg.proto i) = true ↔
      ∃ slot < cfg.num, chk.getLsbD slot = true ∧ cfg.proto slot = protocol := by
  simp only [List.any_eq_true, List.mem_range, Bool.and_eq_true, beq_iff_eq]
  constructor
  · rintro ⟨slot, inside, on, same⟩
    exact ⟨slot, inside, on, same.symm⟩
  · rintro ⟨slot, inside, on, same⟩
    exact ⟨slot, inside, on, same.symm⟩

theorem accepts_match_iff {ppe : Ppe} (programmed : Programmed ppe) (family : Family)
    (protocol : BitVec 8) :
    ((List.range 16).any fun j => ppe.regs.enabled family j &&
        protocol == ppe.regs.protByte j) = true ↔
      (∃ slot < ppe.cfg.num, (ppe.cfg.chk family).getLsbD slot = true ∧
        ppe.cfg.proto slot = protocol) ∨
      (protocol = 0 ∧ ∃ slot < 16, (ppe.cfg.chk family).getLsbD slot = true ∧
        ppe.cfg.num ≤ slot) := by
  simp only [List.any_eq_true, List.mem_range, Bool.and_eq_true, beq_iff_eq]
  constructor
  · rintro ⟨slot, inTable, on, same⟩
    rw [programmed.enabled family slot inTable] at on
    rw [programmed.protByte slot inTable] at same
    split at same
    · rename_i inside
      exact .inl ⟨slot, inside, on, same.symm⟩
    · rename_i outside
      exact .inr ⟨same, slot, inTable, on, by omega⟩
  · have bounded := ppe.cfg.bounded
    rintro (⟨slot, inside, on, same⟩ | ⟨zero, slot, inTable, on, outside⟩)
    · have inTable : slot < 16 := by omega
      refine ⟨slot, inTable, (programmed.enabled family slot inTable).trans on, ?_⟩
      rw [programmed.protByte slot inTable, if_pos inside, same]
    · refine ⟨slot, inTable, (programmed.enabled family slot inTable).trans on, ?_⟩
      rw [programmed.protByte slot inTable, if_neg (by omega), zero]

theorem agreeOn_iff {ppe : Ppe} (programmed : Programmed ppe) (family : Family) :
    AgreeOn ppe family ↔ Covered ppe.cfg (ppe.cfg.chk family) := by
  have software := support_match_iff ppe.cfg (ppe.cfg.chk family)
  have hardware := accepts_match_iff programmed family
  constructor
  · intro agree
    by_cases zero : ∃ slot < ppe.cfg.num, (ppe.cfg.chk family).getLsbD slot = true ∧
        ppe.cfg.proto slot = 0
    · exact .inl zero
    · right
      intro slot inTable on
      by_contra outside
      have matched := (hardware 0).mpr (.inr ⟨rfl, slot, inTable, on, by omega⟩)
      have missed := Bool.eq_false_iff.mpr (mt (software 0).mp zero)
      have same := agree 0
      simp only [hnatProt3tSupport, PpeRegs.accepts, programmed.blist, matched, missed] at same
      cases blist : ppe.cfg.blist <;> simp [blist] at same
  · intro covered protocol
    have same : ((List.range ppe.cfg.num).any fun i => (ppe.cfg.chk family).getLsbD i &&
          protocol == ppe.cfg.proto i) =
        (List.range 16).any fun j => ppe.regs.enabled family j &&
          protocol == ppe.regs.protByte j := by
      rw [Bool.eq_iff_iff, software, hardware]
      constructor
      · exact .inl
      · rintro (matched | ⟨rfl, slot, inTable, on, outside⟩)
        · exact matched
        · rcases covered with zero | inside
          · exact zero
          · have := inside slot inTable on
            omega
    simp only [hnatProt3tSupport, PpeRegs.accepts, programmed.blist, same]

def Agree (ppeNum : Nat) (s : Nat → Ppe) : Prop :=
  ∀ ppe < ppeNum, ∀ family, AgreeOn (s ppe) family

/-- A write of enable bits leaves no bit on behind the table of a PPE that it
is for, or protocol 0 is enabled in that table anyway. -/
def Fits (ppeNum : Nat) (s : Nat → Ppe) (write : Write) : Prop :=
  write.copied = true → ∀ command, parseCommand ppeNum write.input = some command →
    ∀ family chk, command.request = .setChk family chk →
      ∀ ppe, command.first ≤ ppe → ppe < command.last → Covered (s ppe).cfg chk

theorem parseCommand_last {ppeNum : Nat} {input : Text} {command : Command}
    (parsed : parseCommand ppeNum input = some command) : command.last ≤ ppeNum := by
  unfold parseCommand at parsed
  split at parsed
  · cases parsed
  · simp only [Option.bind_eq_bind, Option.bind_eq_some_iff] at parsed
    obtain ⟨⟨token, rest⟩, -, ppeId, -, parsed⟩ := parsed
    split at parsed
    · cases parsed
    · rename_i inRange
      simp only [Option.bind_eq_some_iff, Option.some.injEq] at parsed
      obtain ⟨request, -, rfl⟩ := parsed
      simp only
      split <;> omega

theorem apply_loop (command : Command) (s : Nat → Ppe) (ppe : Nat) :
    command.apply s ppe =
      if command.first ≤ ppe ∧ ppe < command.last then command.request.apply (s ppe)
      else s ppe := by
  have loop : ∀ (count first : Nat) (s : Nat → Ppe),
      (List.range' first count).foldl
          (fun s i => Function.update s i (command.request.apply (s i))) s ppe =
        if first ≤ ppe ∧ ppe < first + count then command.request.apply (s ppe) else s ppe := by
    intro count
    induction count with
    | zero =>
      intro first s
      simp
    | succ count ih =>
      intro first s
      rw [List.range'_succ, List.foldl_cons, ih]
      by_cases own : ppe = first
      · subst own
        have later : ¬ (ppe + 1 ≤ ppe ∧ ppe < ppe + 1 + count) := by omega
        have here : ppe ≤ ppe ∧ ppe < ppe + (count + 1) := by omega
        rw [if_neg later, if_pos here, Function.update_self]
      · rw [Function.update_of_ne own]
        have same : (first + 1 ≤ ppe ∧ ppe < first + 1 + count) ↔
            (first ≤ ppe ∧ ppe < first + (count + 1)) := by omega
        simp only [same]
  have range : (command.first ≤ ppe ∧
      ppe < command.first + (command.last - command.first)) ↔
      (command.first ≤ ppe ∧ ppe < command.last) := by omega
  simp only [Command.apply, loop, range]

theorem fullChk_below (num : Nat) {slot : Nat} (on : (fullChk num).getLsbD slot = true) :
    slot < num := by
  induction num with
  | zero => simp [fullChk] at on
  | succ n ih =>
    have unfolds : fullChk (n + 1) = fullChk n ||| (1#16 <<< n) := by
      simp only [fullChk, List.range_succ, List.foldl_append, List.foldl_cons, List.foldl_nil]
    rw [unfolds, BitVec.getLsbD_or, Bool.or_eq_true] at on
    rcases on with before | new
    · have := ih before
      omega
    · simp only [BitVec.getLsbD_shiftLeft, Bool.and_eq_true, Bool.not_eq_true',
        decide_eq_false_iff_not] at new
      have one : slot - n = 0 := by
        have bit := new.2
        simpa using bit
      omega

theorem covered_toCfg (request : Request) (cfg : Prot3tCfg)
    (before : ∀ family, Covered cfg (cfg.chk family)) :
    (∀ family, Covered (request.toCfg cfg) ((request.toCfg cfg).chk family)) ↔
      ∀ family chk, request = .setChk family chk → Covered cfg chk := by
  cases request with
  | setChk family chk =>
    cases family with
    | ipv4 =>
      constructor
      · intro after family chk' same
        cases same
        exact after .ipv4
      · intro fits family
        cases family with
        | ipv4 => exact fits .ipv4 chk rfl
        | ipv6 => exact before .ipv6
    | ipv6 =>
      constructor
      · intro after family chk' same
        cases same
        exact after .ipv6
      · intro fits family
        cases family with
        | ipv4 => exact before .ipv4
        | ipv6 => exact fits .ipv6 chk rfl
  | setAll blist protoList =>
    refine iff_of_true ?_ (fun _ _ same => by cases same)
    intro family
    right
    intro slot inTable on
    cases family with
    | ipv4 => exact fullChk_below _ on
    | ipv6 => exact fullChk_below _ on

structure Inv (ppeNum : Nat) (s : Nat → Ppe) : Prop where
  programmed : ∀ ppe < ppeNum, Programmed (s ppe)
  agree : Agree ppeNum s

theorem programmed_write {ppeNum : Nat} {s : Nat → Ppe} (write : Write)
    (before : ∀ ppe < ppeNum, Programmed (s ppe)) :
    ∀ ppe < ppeNum, Programmed (hnatProto3tupleWrite ppeNum s write ppe) := by
  intro ppe below
  unfold hnatProto3tupleWrite
  split
  · cases parseCommand ppeNum write.input with
    | none => exact before ppe below
    | some command =>
      simp only [apply_loop]
      split
      · exact programmed_hnatHwSetProt3t _
      · exact before ppe below
  · exact before ppe below

theorem agree_write_iff {ppeNum : Nat} {s : Nat → Ppe} (inv : Inv ppeNum s) (write : Write) :
    Agree ppeNum (hnatProto3tupleWrite ppeNum s write) ↔ Fits ppeNum s write := by
  unfold hnatProto3tupleWrite Fits
  split
  · rename_i copied
    split
    · rename_i failed
      exact iff_of_true inv.agree (by simp [failed])
    · rename_i command parsed
      have last := parseCommand_last parsed
      have covered : ∀ ppe < ppeNum, ∀ family,
          Covered (s ppe).cfg ((s ppe).cfg.chk family) := by
        intro ppe below family
        exact (agreeOn_iff (inv.programmed ppe below) family).mp (inv.agree ppe below family)
      -- the PPEs of the command decide, the others are as they were
      have each : ∀ ppe < ppeNum, (∀ family, AgreeOn (command.apply s ppe) family) ↔
          (command.first ≤ ppe → ppe < command.last → ∀ family chk,
            command.request = .setChk family chk → Covered (s ppe).cfg chk) := by
        intro ppe below
        rw [apply_loop]
        split
        · rename_i inside
          have after := programmed_hnatHwSetProt3t
            { (s ppe) with cfg := command.request.toCfg (s ppe).cfg }
          have changes := covered_toCfg command.request (s ppe).cfg (covered ppe below)
          simp only [Request.apply, agreeOn_iff after]
          constructor
          · intro all _ _
            exact changes.mp all
          · intro fits
            exact changes.mpr (fits inside.1 inside.2)
        · rename_i outside
          refine iff_of_true (inv.agree ppe below) ?_
          intro lower upper
          exact absurd ⟨lower, upper⟩ outside
      constructor
      · intro agree _ other same family chk request ppe lower upper
        cases parsed.symm.trans same
        exact (each ppe (by omega)).mp (agree ppe (by omega)) lower upper family chk request
      · intro fits ppe below
        rw [each ppe below]
        intro lower upper family chk request
        exact fits copied command parsed family chk request ppe lower upper
  · rename_i unread
    exact iff_of_true inv.agree (fun copied => absurd copied unread)

theorem inv_probed (ppeNum : Nat) (regs : Nat → PpeRegs) : Inv ppeNum (probed regs) := by
  have programmed : ∀ ppe, Programmed (probed regs ppe) :=
    fun _ => programmed_hnatHwSetProt3t _
  refine ⟨fun ppe _ => programmed ppe, ?_⟩
  intro ppe _ family
  rw [agreeOn_iff (programmed ppe)]
  right
  intro slot _ on
  cases family <;> simp [probed, hnatHwSetProt3t, emptyCfg, Prot3tCfg.chk] at on

/-- The driver and the hardware accept the same protocols after every write of a
run exactly when each write fits the table that it finds. -/
theorem prot_3t_agree_iff (ppeNum : Nat) (regs : Nat → PpeRegs) (writes : List Write) :
    (∀ n, Agree ppeNum (run (hnatProto3tupleWrite ppeNum) (probed regs) (writes.take n))) ↔
      Along (hnatProto3tupleWrite ppeNum) (Fits ppeNum) (probed regs) writes := by
  apply always_iff_along (hnatProto3tupleWrite ppeNum) (Fits ppeNum) (Inv ppeNum) (Agree ppeNum)
  · intro s inv
    exact inv.agree
  · intro s write inv fits
    exact ⟨programmed_write write inv.programmed, (agree_write_iff inv write).mpr fits⟩
  · intro s write inv lost agree
    exact lost ((agree_write_iff inv write).mp agree)
  · exact inv_probed ppeNum regs

/-- `echo 0 ipv4 1` after boot: the hardware takes the empty slot for protocol 0. -/
theorem prot_3t_emptySlot :
    ¬ ∀ n, Agree 1 (run (hnatProto3tupleWrite 1) (probed fun _ => ⟨0, 0, fun _ => 0⟩)
      ([⟨['0', ' ', 'i', 'p', 'v', '4', ' ', '1', '\n'], true⟩].take n)) := by
  intro agree
  have same := agree 1 0 (by decide) .ipv4 0
  exact absurd same (by decide)

end OpenwrtSource.Hnat.Prot3Tuple
