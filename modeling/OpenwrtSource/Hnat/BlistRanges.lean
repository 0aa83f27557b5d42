import OpenwrtSource.Lib.ListedSet
import OpenwrtSource.Hnat.BlistMatch
import OpenwrtSource.Hnat.SlotOwnership

/-!
# What the multicast blacklist enforces

The ranges that were added and not removed since, beside the state of the
offload.  The blacklist holds these ranges, and no group in one of them is bound,
as long as every write is one that the code gets right: a length that
`hnat_mcast_blist_handle` keeps in the mask, and a debugfs command that finds the
whole address listed.
-/

namespace OpenwrtSource.Hnat.BlistRanges

open Lib.Run Lib.LeadingBits Lib.ListedSet Lib.Ownership Hnat.Foe Hnat.McastTable Hnat.McastOffload
open Hnat.McastEvents Hnat.McastEffects Hnat.McastSteps Hnat.McastVisits
open Hnat.SlotOwnership (settings_mdb settings_bind settings_goingDown
  settings_pathSwitch board twoPorts join streamIp streamEntry)
open Hnat.BlistMatch

/-! ## Ranges -/

/-- An address and the number of its leading bits. -/
structure Range where
  ip : GroupIp
  length : Nat
  deriving DecidableEq

/-- The address is of the family of the range and agrees with its prefix. -/
def Range.Covers (range : Range) (addr : GroupIp) : Prop :=
  match range.ip, addr with
  | .ipv4 ip, .ipv4 addr => AgreeOn range.length addr ip
  | .ipv6 ip, .ipv6 addr => AgreeOn range.length addr ip
  | _, _ => False

instance (range : Range) (addr : GroupIp) : Decidable (range.Covers addr) := by
  unfold Range.Covers
  split <;> infer_instance

/-- The entry holds the range.  The mask of an IPv4 entry is one of leading bits,
and `hnat_mcast_ip_match_blist` takes that of an IPv6 entry for a length. -/
def Holds (m : McastBlistData) (range : Range) : Prop :=
  match range.ip with
  | .ipv4 ip =>
    m.isIpv4 = true ∧ m.ipv4 = ip ∧ range.length ≤ 32 ∧ m.mask = leadingMask 32 range.length
  | .ipv6 ip => m.isIpv4 = false ∧ m.ipv6 = ip ∧ range.length = min m.mask.toNat 128

instance (m : McastBlistData) (range : Range) : Decidable (Holds m range) := by
  unfold Holds
  split <;> infer_instance

theorem holds_functional (m : McastBlistData) (a b : Range) (first : Holds m a)
    (second : Holds m b) : a = b := by
  obtain ⟨ipA, lengthA⟩ := a
  obtain ⟨ipB, lengthB⟩ := b
  cases ipA with
  | ipv4 ipA =>
    obtain ⟨v4, rfl, fitsA, maskA⟩ := first
    cases ipB with
    | ipv4 ipB =>
      obtain ⟨_, rfl, fitsB, maskB⟩ := second
      obtain rfl : lengthA = lengthB := leadingMask_inj fitsA fitsB (maskA.symm.trans maskB)
      rfl
    | ipv6 ipB => exact absurd (v4.symm.trans second.1) (by decide)
  | ipv6 ipA =>
    obtain ⟨v6, rfl, lengthIsA⟩ := first
    cases ipB with
    | ipv4 ipB => exact absurd (v6.symm.trans second.1) (by decide)
    | ipv6 ipB =>
      obtain ⟨_, rfl, lengthIsB⟩ := second
      obtain rfl : lengthA = lengthB := lengthIsA.trans lengthIsB.symm
      rfl

/-! ## Writes -/

def finds : BlistWriter → McastBlistData → Bool
  | .handle ip mask, m => hnatMcastBlistEntryMatch m ip mask
  | .debugfs (.ipv4 ip), m => m.ipv4 == ip
  | .debugfs (.ipv6 ip), m => m.ipv6 == ip

def rangeOf : BlistWriter → Range
  | .handle ip mask => ⟨ip, mask.toNat⟩
  | .debugfs ip => ⟨ip, width ip⟩

def Exact : BlistWriter → Prop
  | .handle (.ipv4 _) mask => 0 < mask.toNat ∧ mask.toNat ≤ 32
  | .handle (.ipv6 _) mask => mask.toNat = 128
  | .debugfs _ => False

inductive Write where
  | add (writer : BlistWriter) (kzalloc : Bool)
  | del (writer : BlistWriter)

def writeOf : Event → Option Write
  | .blist _ ip mask add kzalloc =>
    some (if add then .add (.handle ip mask) kzalloc else .del (.handle ip mask))
  | .blistWrite (.ipv4Add ip) kzalloc => some (.add (.debugfs (.ipv4 ip)) kzalloc)
  | .blistWrite (.ipv6Add ip) kzalloc => some (.add (.debugfs (.ipv6 ip)) kzalloc)
  | .blistWrite (.ipv4Del ip) _ => some (.del (.debugfs (.ipv4 ip)))
  | .blistWrite (.ipv6Del ip) _ => some (.del (.debugfs (.ipv6 ip)))
  | _ => none

def added (writer : BlistWriter) (kzalloc : Bool) (blist : List McastBlistData) :
    List McastBlistData :=
  if blist.any (finds writer) then blist else if kzalloc then writer.entry :: blist else blist

def written (blist : List McastBlistData) : Option Write → List McastBlistData
  | some (.add writer kzalloc) => added writer kzalloc blist
  | some (.del writer) => blist.eraseP (finds writer)
  | none => blist

theorem step_mcastBlistList (plat : Platform) (s : State) (event : Event) :
    (step plat s event).mcastBlistList = written s.mcastBlistList (writeOf event) := by
  cases event with
  | mdb => exact congrArg Prod.snd (settings_mdb plat s _ _ _ _ _)
  | bind => exact congrArg Prod.snd (settings_bind plat s _ _ _ _ _ _ _)
  | goingDown => exact congrArg Prod.snd (settings_goingDown plat s _ _)
  | pathSwitch => exact congrArg Prod.snd (settings_pathSwitch plat s _ _ _ _)
  | blist env ip mask add kzalloc =>
    simp only [step, hnatMcastBlistHandle, writeOf, written]
    cases add with
    | true =>
      have same : (s.mcastBlistList.any fun m => hnatMcastBlistEntryMatch m ip mask) =
          s.mcastBlistList.any (finds (.handle ip mask)) := rfl
      simp only [if_true, added, same]
      cases s.mcastBlistList.any (finds (.handle ip mask)) <;> cases kzalloc <;> rfl
    | false => rfl
  | blistWrite command kzalloc => cases command <;> rfl
  | offload | warmInit | foeWrite => rfl

/-! ## The ranges beside the state -/

structure Tracked where
  state : State
  ranges : Finset Range

def Tracked.init : Tracked := ⟨State.init, ∅⟩

/-- The ranges after a write; an addition that is answered with `-ENOMEM` adds none. -/
def rangesAfter (blist : List McastBlistData) (ranges : Finset Range) :
    Option Write → Finset Range
  | some (.add writer kzalloc) =>
    if blist.any (finds writer) || kzalloc then insert (rangeOf writer) ranges else ranges
  | some (.del writer) => ranges.erase (rangeOf writer)
  | none => ranges

def trackedStep (plat : Platform) (t : Tracked) (event : Event) : Tracked where
  state := step plat t.state event
  ranges := rangesAfter t.state.mcastBlistList t.ranges (writeOf event)

def Bound (group : Group) : Prop := group.ppeId.isSome ∧ group.foeIdx.isSome

instance (group : Group) : Decidable (Bound group) := inferInstanceAs (Decidable (_ ∧ _))

def Unblocked (ranges : Finset Range) (groups : List Group) : Prop :=
  ∀ group ∈ groups, Bound group → ∀ range ∈ ranges, ¬ range.Covers group.ip

/-- The blacklist is the ranges, each once, and no group in one of them is bound. -/
structure Enforced (t : Tracked) : Prop where
  represents : Represents Holds t.state.mcastBlistList t.ranges
  unblocked : Unblocked t.ranges t.state.groups

/-- The code gets the write right: the length is exact, or nothing is found and
the memory is out, or nothing is found to delete; in debugfs the entry that the
address finds is that of the whole address. -/
def KeepsRanges (blist : List McastBlistData) : Option Write → Prop
  | some (.add (.handle ip mask) kzalloc) =>
    Exact (.handle ip mask) ∨ blist.any (finds (.handle ip mask)) = false ∧ kzalloc = false
  | some (.add (.debugfs ip) kzalloc) =>
    (∃ m ∈ blist, Holds m ⟨ip, width ip⟩) ∨
      blist.any (finds (.debugfs ip)) = false ∧ kzalloc = false
  | some (.del (.handle ip mask)) =>
    Exact (.handle ip mask) ∨ blist.any (finds (.handle ip mask)) = false
  | some (.del (.debugfs ip)) =>
    ∀ m ∈ blist.find? (finds (.debugfs ip)), Holds m ⟨ip, width ip⟩
  | none => True

/-! ## The entries of exact writes -/

variable {ip : GroupIp} {mask : BitVec 32} {m : McastBlistData} {blist : List McastBlistData}
  {ranges : Finset Range}

theorem holds_created (exact : Exact (.handle ip mask)) :
    Holds (hnatMcastBlistCreateEntry ip mask) ⟨ip, mask.toNat⟩ := by
  cases ip with
  | ipv4 ip =>
    obtain ⟨pos, fits⟩ := exact
    have nonzero : mask ≠ 0 := by
      rintro rfl
      exact absurd pos (by decide)
    exact ⟨rfl, rfl, fits, blistMask_of_pos nonzero fits⟩
  | ipv6 ip =>
    have long := le_blistMask mask
    have length : mask.toNat = 128 := exact
    refine ⟨rfl, rfl, ?_⟩
    simp only [hnatMcastBlistCreateEntry]
    omega

theorem exact_of_holds_created
    (holds : Holds (hnatMcastBlistCreateEntry ip mask) ⟨ip, mask.toNat⟩) :
    Exact (.handle ip mask) := by
  cases ip with
  | ipv4 ip =>
    obtain ⟨_, _, fits, kept⟩ := holds
    refine ⟨Nat.pos_of_ne_zero fun zero => ?_, fits⟩
    obtain rfl : mask = 0 := BitVec.eq_of_toNat_eq zero
    exact absurd kept (by decide : blistMask 0 ≠ leadingMask 32 0)
  | ipv6 ip =>
    have long := le_blistMask mask
    obtain ⟨_, _, length⟩ := holds
    simp only [hnatMcastBlistCreateEntry] at length
    show mask.toNat = 128
    omega

theorem not_holds_debugfsEntry (ip : GroupIp) : ¬ Holds (debugfsEntry ip) ⟨ip, width ip⟩ := by
  cases ip with
  | ipv4 ip =>
    rintro ⟨_, _, _, kept⟩
    exact absurd kept (by decide : (0 : BitVec 32) ≠ leadingMask 32 32)
  | ipv6 ip =>
    rintro ⟨_, _, length⟩
    exact absurd length (by decide : (128 : Nat) ≠ min (0 : BitVec 32).toNat 128)

theorem finds_of_holds (holds : Holds m ⟨ip, width ip⟩) : finds (.debugfs ip) m = true := by
  cases ip with
  | ipv4 ip => simpa [finds] using holds.2.1
  | ipv6 ip => simpa [finds] using holds.2.1

def Made (blist : List McastBlistData) : Prop :=
  ∀ m ∈ blist, ∃ ip mask, Exact (.handle ip mask) ∧ m = hnatMcastBlistCreateEntry ip mask

theorem finds_iff_holds (made : Made blist) (listed : m ∈ blist) (exact : Exact (.handle ip mask)) :
    finds (.handle ip mask) m = true ↔ Holds m ⟨ip, mask.toNat⟩ := by
  obtain ⟨other, length, made, rfl⟩ := made m listed
  constructor
  · intro found
    suffices same : other = ip ∧ length = mask by
      obtain ⟨rfl, rfl⟩ := same
      exact holds_created exact
    cases ip with
    | ipv4 ip =>
      cases other with
      | ipv6 other => simp [finds, hnatMcastBlistEntryMatch, hnatMcastBlistCreateEntry] at found
      | ipv4 other =>
        simp only [finds, hnatMcastBlistEntryMatch, hnatMcastBlistCreateEntry, Bool.true_and,
          Bool.and_eq_true, beq_iff_eq] at found
        obtain ⟨rfl, masks⟩ := found
        obtain ⟨_, _, fits, kept⟩ := holds_created exact
        obtain ⟨_, _, fits', kept'⟩ := holds_created made
        exact ⟨rfl, BitVec.eq_of_toNat_eq
          (leadingMask_inj fits' fits (kept'.symm.trans (masks.trans kept)))⟩
    | ipv6 ip =>
      cases other with
      | ipv4 other => simp [finds, hnatMcastBlistEntryMatch, hnatMcastBlistCreateEntry] at found
      | ipv6 other =>
        simp only [finds, hnatMcastBlistEntryMatch, hnatMcastBlistCreateEntry, Bool.not_false,
          Bool.true_and, Bool.and_eq_true, beq_iff_eq] at found
        have whole : length.toNat = 128 := made
        exact ⟨by rw [found.1], BitVec.eq_of_toNat_eq (whole.trans (Eq.symm exact))⟩
  · intro holds
    have same := holds_functional _ _ _ (holds_created made) holds
    simp only [Range.mk.injEq] at same
    obtain ⟨rfl, lengths⟩ := same
    obtain rfl := BitVec.eq_of_toNat_eq lengths
    cases other <;> simp [finds, hnatMcastBlistEntryMatch, hnatMcastBlistCreateEntry]

theorem exact_of_holds (made : Made blist) (listed : m ∈ blist) (holds : Holds m ⟨ip, mask.toNat⟩) :
    Exact (.handle ip mask) := by
  obtain ⟨other, length, made, rfl⟩ := made m listed
  have same := holds_functional _ _ _ (holds_created made) holds
  simp only [Range.mk.injEq] at same
  obtain ⟨rfl, lengths⟩ := same
  obtain rfl := BitVec.eq_of_toNat_eq lengths
  exact made

/-! ## One write -/

section

variable {blist : List McastBlistData} {ranges : Finset Range}
  (rep : Represents Holds blist ranges)

include rep in
theorem any_finds_iff (made : Made blist) {ip : GroupIp} {mask : BitVec 32}
    (exact : Exact (.handle ip mask)) :
    blist.any (finds (.handle ip mask)) = true ↔ ⟨ip, mask.toNat⟩ ∈ ranges := by
  rw [List.any_eq_true, rep.listed]
  refine exists_congr fun m => and_congr_right fun listed => ?_
  exact finds_iff_holds made listed exact

include rep in
theorem exact_of_mem (made : Made blist) {ip : GroupIp} {mask : BitVec 32}
    (member : ⟨ip, mask.toNat⟩ ∈ ranges) : Exact (.handle ip mask) := by
  obtain ⟨m, listed, holds⟩ := (rep.listed _).mp member
  exact exact_of_holds made listed holds

include rep in
theorem represents_added_iff (writer : BlistWriter) (kzalloc : Bool) :
    Represents Holds (added writer kzalloc blist)
        (rangesAfter blist ranges (some (.add writer kzalloc))) ↔
      if blist.any (finds writer) then rangeOf writer ∈ ranges
      else kzalloc = true → Holds writer.entry (rangeOf writer) ∧ rangeOf writer ∉ ranges := by
  simp only [added, rangesAfter]
  cases found : blist.any (finds writer) with
  | true => simpa using rep.insert_iff (rangeOf writer)
  | false =>
    cases kzalloc with
    | true => simpa using rep.cons_insert_iff holds_functional writer.entry (rangeOf writer)
    | false => simpa using rep

include rep in
theorem represents_deleted_iff (writer : BlistWriter) :
    Represents Holds (blist.eraseP (finds writer)) (ranges.erase (rangeOf writer)) ↔
      match blist.find? (finds writer) with
      | some m => Holds m (rangeOf writer)
      | none => rangeOf writer ∉ ranges := by
  cases found : blist.find? (finds writer) with
  | some m => exact rep.eraseP_erase_iff holds_functional found (rangeOf writer)
  | none =>
    rw [List.eraseP_of_forall_not (by simpa using found)]
    exact rep.erase_iff (rangeOf writer)

theorem any_eq_false_of_find? {writer : BlistWriter} (missed : blist.find? (finds writer) = none) :
    blist.any (finds writer) = false := by
  simpa using missed

theorem any_of_find? {writer : BlistWriter} {m : McastBlistData}
    (found : blist.find? (finds writer) = some m) : blist.any (finds writer) = true :=
  List.any_eq_true.mpr ⟨m, List.mem_of_find?_eq_some found, List.find?_some found⟩

include rep in
theorem represents_written_iff (made : Made blist) (write : Option Write) :
    Represents Holds (written blist write) (rangesAfter blist ranges write) ↔
      KeepsRanges blist write := by
  match write with
  | none => exact iff_of_true rep trivial
  | some (.add (.handle ip mask) kzalloc) =>
    refine (represents_added_iff rep (.handle ip mask) kzalloc).trans ?_
    cases found : blist.any (finds (.handle ip mask)) with
    | true =>
      simp only [if_true, KeepsRanges, found, Bool.true_eq_false, false_and, or_false]
      exact ⟨exact_of_mem rep made, fun exact => (any_finds_iff rep made exact).mp found⟩
    | false =>
      simp only [Bool.false_eq_true, if_false, KeepsRanges, found, true_and]
      cases kzalloc with
      | false => simp
      | true =>
        simp only [true_implies, Bool.true_eq_false, or_false]
        refine ⟨fun kept => exact_of_holds_created kept.1, fun exact => ?_⟩
        refine ⟨holds_created exact, fun member => ?_⟩
        simp [(any_finds_iff rep made exact).mpr member] at found
  | some (.add (.debugfs ip) kzalloc) =>
    refine (represents_added_iff rep (.debugfs ip) kzalloc).trans ?_
    cases found : blist.any (finds (.debugfs ip)) with
    | true =>
      simp only [if_true, KeepsRanges, found, Bool.true_eq_false, false_and, or_false]
      exact rep.listed _
    | false =>
      have absent : ¬ ∃ m ∈ blist, Holds m ⟨ip, width ip⟩ := by
        rintro ⟨m, listed, holds⟩
        simp [List.any_eq_true.mpr ⟨m, listed, finds_of_holds holds⟩] at found
      simp only [Bool.false_eq_true, if_false, KeepsRanges, found, true_and, absent, false_or]
      cases kzalloc with
      | false => simp
      | true =>
        refine iff_of_false (fun kept => ?_) (by decide)
        exact not_holds_debugfsEntry ip (kept rfl).1
  | some (.del (.handle ip mask)) =>
    refine (represents_deleted_iff rep (.handle ip mask)).trans ?_
    cases found : blist.find? (finds (.handle ip mask)) with
    | some m =>
      have listed := List.mem_of_find?_eq_some found
      simp only [KeepsRanges, any_of_find? found, Bool.true_eq_false, or_false]
      refine ⟨exact_of_holds made listed, fun exact => ?_⟩
      exact (finds_iff_holds made listed exact).mp (List.find?_some found)
    | none =>
      have missed := any_eq_false_of_find? found
      refine iff_of_true (fun member => ?_) (.inr missed)
      have exact := exact_of_mem rep made member
      simp [(any_finds_iff rep made exact).mpr member] at missed
  | some (.del (.debugfs ip)) =>
    refine (represents_deleted_iff rep (.debugfs ip)).trans ?_
    cases found : blist.find? (finds (.debugfs ip)) with
    | some m => simp [KeepsRanges, found, rangeOf]
    | none =>
      have missed := any_eq_false_of_find? found
      refine iff_of_true (fun member => ?_) (by simp [KeepsRanges, found])
      obtain ⟨m, listed, holds⟩ := (rep.listed _).mp member
      simp [List.any_eq_true.mpr ⟨m, listed, finds_of_holds holds⟩] at missed

theorem made_written (made : Made blist) {write : Option Write}
    (keeps : KeepsRanges blist write) : Made (written blist write) := by
  match write with
  | none => exact made
  | some (.del writer) => exact fun m listed => made m (List.mem_of_mem_eraseP listed)
  | some (.add writer kzalloc) =>
    intro m listed
    simp only [written, added] at listed
    split at listed
    · exact made m listed
    next missed =>
      split at listed
      next allocated =>
        obtain rfl | old := List.mem_cons.mp listed
        · subst allocated
          cases writer with
          | handle ip mask =>
            obtain exact | ⟨_, impossible⟩ := keeps
            · exact ⟨ip, mask, exact, rfl⟩
            · cases impossible
          | debugfs ip =>
            obtain ⟨m, listed, holds⟩ | ⟨_, impossible⟩ := keeps
            · exact absurd (List.any_eq_true.mpr ⟨m, listed, finds_of_holds holds⟩) missed
            · cases impossible
        · exact made m old
      · exact made m listed

end

/-! ## The groups -/

/-- A visit keeps the address of its group and does not bind it. -/
structure Follows (group kept : Group) : Prop where
  ip : kept.ip = group.ip
  bound : Bound kept → Bound group

theorem Follows.refl (group : Group) : Follows group group := ⟨rfl, id⟩

theorem Follows.trans {a b c : Group} (first : Follows a b) (second : Follows b c) : Follows a c :=
  ⟨second.ip.trans first.ip, fun bound => first.bound (second.bound bound)⟩

theorem follows_step {plat : Platform} {env : Env} {c c' : Ctx} (step : Step plat env c c') :
    Follows c.group c'.group := by
  cases step with
  | foe ptr f => cases ptr <;> exact .refl _
  | unbind => exact ⟨rfl, fun bound => by simp [Bound, Group.unbind] at bound⟩
  | note | delete | setSlot | clearSlot => exact ⟨rfl, id⟩

theorem follows_steps {plat : Platform} {env : Env} {c c' : Ctx} (steps : Steps plat env c c') :
    Follows c.group c'.group :=
  steps.relates (fun c => .refl c.group) (fun _ _ _ => .trans) fun _ _ => follows_step

theorem follows_onGroup {plat : Platform} {env : Env} {f : Ctx → Ctx}
    (steps : ∀ c, Steps plat env c (f c)) (group : Group) (hw : Hw) :
    Follows group (onGroup f group hw).1 :=
  follows_steps (steps ⟨group, hw, FoeEntry.zero⟩)

theorem follows_groupUpdate (plat : Platform) (env : Env) (type ifindex : Nat)
    (toggle memberAlloc fresh : Bool) (group : Group) (hw : Hw) :
    ∀ kept ∈ (groupUpdate plat env type ifindex toggle memberAlloc fresh group hw).1,
      Follows group kept := by
  intro kept member
  have stationed : Follows group (updateStation type ifindex group) := by
    unfold updateStation
    split <;> exact ⟨rfl, id⟩
  have left : ∀ group', Follows group group' →
      kept ∈ (if group'.members.isEmpty then none else some group') → Follows group kept := by
    intro group' follows member
    split at member
    · cases member
    · obtain rfl := Option.some.inj member
      exact follows
  unfold groupUpdate at member
  split at member
  · split at member
    · cases member
    · obtain rfl := Option.some.inj member
      exact .refl group
  · cases toggle with
    | true =>
      exact left _ (stationed.trans
        (follows_onGroup (steps_eventHwHandle plat env type ifindex) _ hw)) member
    | false => exact left _ stationed member

theorem follows_blistDropGroup (plat : Platform) (env : Env) (m : McastBlistData) (group : Group)
    (hw : Hw) : Follows group (blistDropGroup plat env m group hw).1 := by
  unfold blistDropGroup
  split
  · exact follows_steps ((steps_teardownNpu plat env ⟨group, hw, FoeEntry.zero⟩).trans
      (steps_dropGroup plat env _))
  · exact .refl group

theorem foeBindGroup_ip (plat : Platform) (env : Env) (ppe foeIdx ifindex : Nat) (c : Ctx) :
    (hnatMcastFoeBindGroup plat env ppe foeIdx ifindex c).2.group.ip = c.group.ip := by
  obtain same | steps := steps_foeBindGroup plat env ppe foeIdx ifindex c
  · rw [same]
  · exact (follows_steps steps).ip.trans (bindTo_facts c.group ppe foeIdx c.entry).2.1

theorem picked_of_covers (exact : Exact (.handle ip mask)) {addr : GroupIp}
    (covers : Range.Covers ⟨ip, mask.toNat⟩ addr) :
    (BlistWriter.handle ip mask).Proper ∧ (BlistWriter.handle ip mask).PicksGroup addr ∧
      (BlistWriter.handle ip mask).PicksPacket addr := by
  cases ip with
  | ipv4 ip =>
    cases addr with
    | ipv6 addr => exact covers.elim
    | ipv4 addr =>
      have nonzero : mask ≠ 0 := by
        rintro rfl
        exact absurd exact.1 (by decide)
      have agree : AgreeOn mask.toNat addr ip := covers
      have picks : if mask = 0 then addr = ip else AgreeOn mask.toNat addr ip := by
        rwa [if_neg nonzero]
      exact ⟨exact.2, picks, picks⟩
  | ipv6 ip =>
    cases addr with
    | ipv4 addr => exact covers.elim
    | ipv6 addr =>
      have length : mask.toNat = 128 := exact
      have same : addr = ip := (agreeOn_full length.ge addr ip).mp covers
      exact ⟨length.le, same, same⟩

theorem chkBlist_of_mem (listed : m ∈ blist) {entry : FoeEntry}
    (picked : hnatMcastChkBlist [m] entry = true) : hnatMcastChkBlist blist entry = true := by
  unfold hnatMcastChkBlist at picked ⊢
  cases flow : foeGroupIp entry with
  | none => simp [flow] at picked
  | some ip =>
    cases ip with
    | ipv4 ip => exact List.any_eq_true.mpr ⟨m, listed, by simpa [flow] using picked⟩
    | ipv6 ip => exact List.any_eq_true.mpr ⟨m, listed, by simpa [flow] using picked⟩

section

variable {blist : List McastBlistData} {ranges : Finset Range} (made : Made blist)
  (rep : Represents Holds blist ranges)

include made rep in
theorem not_covers_of_chkBlist {entry : FoeEntry} {addr : GroupIp}
    (flow : foeGroupIp entry = some addr) (allowed : hnatMcastChkBlist blist entry = false)
    {range : Range} (member : range ∈ ranges) : ¬ range.Covers addr := by
  intro covers
  obtain ⟨m, listed, holds⟩ := (rep.listed range).mp member
  obtain ⟨ip, mask, exact, rfl⟩ := made m listed
  obtain rfl := holds_functional _ _ _ holds (holds_created exact)
  obtain ⟨proper, _, picks⟩ := picked_of_covers exact covers
  have picked := (chkBlist_entry entry addr flow (.handle ip mask) proper).mpr picks
  simp [chkBlist_of_mem listed picked] at allowed

include made rep in
theorem unblocked_visited {plat : Platform} {s : State} {event : Event} {group : Group}
    {hw hw' : Hw} {kept : Option Group} (blisted : s.mcastBlistList = blist)
    (visited : Visited plat s event group hw kept hw')
    (unblocked : Bound group → ∀ range ∈ ranges, ¬ range.Covers group.ip) :
    ∀ o ∈ kept, Bound o → ∀ range ∈ ranges, ¬ range.Covers o.ip := by
  have follows : ∀ {o}, Follows group o → Bound o → ∀ range ∈ ranges, ¬ range.Covers o.ip := by
    intro o follows bound
    rw [follows.ip]
    exact unblocked (follows.bound bound)
  intro o member
  cases visited with
  | known addressed typed found => exact follows (follows_groupUpdate plat _ _ _ _ _ _ _ _ o member)
  | created addressed typed unknown =>
    exact follows (follows_groupUpdate plat _ _ _ _ _ _ _ _ o member)
  | @bind env hDest ppe foeIdx entry ifindex locked ip group enabled multicast allowed flow found =>
    obtain rfl := Option.some.inj member
    intro _ range listed
    rw [foeBindGroup_ip]
    have address : group.ip = ip := by simpa using List.find?_some found
    rw [address]
    exact not_covers_of_chkBlist made rep flow (blisted ▸ allowed) listed
  | goingDown hw enabled listed =>
    obtain rfl := Option.some.inj member
    exact follows (follows_onGroup (steps_ifdownGroup plat _ _) _ _)
  | blist hw absent listed =>
    obtain rfl := Option.some.inj member
    exact follows (follows_blistDropGroup plat _ _ _ _)
  | offload hw listed =>
    obtain rfl := Option.some.inj member
    exact follows (follows_onGroup (steps_groupHandle plat _ _) _ _)
  | pathSwitch switched =>
    obtain rfl := Option.some.inj member
    exact follows (follows_onGroup (steps_pathSwitchGroup plat _ _) _ _)

end

theorem unblocked_replace {before after : List Group} {group : Group} {kept : Option Group}
    (unblocked : Unblocked ranges (before ++ group :: after))
    (visited : ∀ o ∈ kept, Bound o → ∀ range ∈ ranges, ¬ range.Covers o.ip) :
    Unblocked ranges (before ++ (kept.toList ++ after)) := by
  intro other member
  simp only [List.mem_append, Option.mem_toList] at member
  obtain front | new | back := member
  · exact unblocked other (by simp [front])
  · exact visited other new
  · exact unblocked other (by simp [back])

theorem unblocked_step (plat : Platform) (s : State) (event : Event) (made : Made s.mcastBlistList)
    (rep : Represents Holds s.mcastBlistList ranges) (unblocked : Unblocked ranges s.groups) :
    Unblocked ranges (step plat s event).groups := by
  by_cases cold : ∀ ppeReset, event ≠ .warmInit ppeReset
  · refine @step_preserves plat s event (fun groups _ => Unblocked ranges groups) unblocked ?_ ?_ ?_
      cold
    · intro ip kept hw' _ visited
      have unbound : ¬ Bound (createdGroup ip) := by simp [Bound, createdGroup, hnatMcastCreateGroup]
      have entered : Unblocked ranges (s.groups ++ [createdGroup ip]) := by
        intro group member
        obtain old | new := List.mem_append.mp member
        · exact unblocked group old
        · exact List.mem_singleton.mp new ▸ fun bound => absurd bound unbound
      simpa using unblocked_replace entered
        (unblocked_visited made rep rfl visited fun bound => absurd bound unbound)
    · intro before group after hw kept hw' visited midway
      exact unblocked_replace midway
        (unblocked_visited made rep rfl visited (midway group (by simp)))
    · intro groups hw ppe idx entry _ midway
      exact midway
  · push Not at cold
    obtain ⟨ppeReset, rfl⟩ := cold
    intro group listed bound
    obtain ⟨old, _, rfl⟩ := List.mem_map.mp listed
    simp [Bound, hnatMcastSerGroup, Group.unbind] at bound

theorem unbound_of_blist (plat : Platform) (env : Env) (exact : Exact (.handle ip mask)) {s : State}
    (absent : s.mcastBlistList.any (finds (.handle ip mask)) = false) {group : Group}
    (listed : group ∈ (step plat s (.blist env ip mask true true)).groups)
    (covers : Range.Covers ⟨ip, mask.toNat⟩ group.ip) : ¬ Bound group := by
  have missed : (s.mcastBlistList.any fun m => hnatMcastBlistEntryMatch m ip mask) = false := absent
  simp only [step, hnatMcastBlistHandle, if_true, missed, Bool.false_eq_true, if_false,
    Bool.not_true] at listed
  obtain ⟨old, _, hw, rfl⟩ := mem_visitAll listed
  rw [(follows_blistDropGroup plat env _ old hw).ip] at covers
  obtain ⟨proper, picks, _⟩ := picked_of_covers exact covers
  have hit : hnatMcastIpMatchBlist old (hnatMcastBlistCreateEntry ip mask) = true :=
    (ipMatchBlist_entry old (.handle ip mask) proper).mpr picks
  simp [blistDropGroup, hit, onGroup, dropGroup, Bound, Group.unbind]

theorem unbound_of_new (plat : Platform) (s : State) (event : Event) {range : Range}
    (rep : Represents Holds s.mcastBlistList ranges) (made : Made s.mcastBlistList)
    (keeps : KeepsRanges s.mcastBlistList (writeOf event)) (old : range ∉ ranges)
    (after : range ∈ rangesAfter s.mcastBlistList ranges (writeOf event)) {group : Group}
    (member : group ∈ (step plat s event).groups) (covers : range.Covers group.ip) :
    ¬ Bound group := by
  have inserted : ∀ {writer kzalloc}, range ∈ rangesAfter s.mcastBlistList ranges
      (some (.add writer kzalloc)) → range = rangeOf writer ∧
        (s.mcastBlistList.any (finds writer) = true ∨ kzalloc = true) := by
    intro writer kzalloc after
    simp only [rangesAfter] at after
    split at after
    next present =>
      refine ⟨(Finset.mem_insert.mp after).resolve_right old, ?_⟩
      simpa using present
    · exact absurd after old
  have erased : ∀ {writer}, range ∉ rangesAfter s.mcastBlistList ranges (some (.del writer)) :=
    fun after => old (Finset.mem_of_mem_erase after)
  have debugfs : ∀ {ip kzalloc}, KeepsRanges s.mcastBlistList (some (.add (.debugfs ip) kzalloc)) →
      range ∉ rangesAfter s.mcastBlistList ranges (some (.add (.debugfs ip) kzalloc)) := by
    intro ip kzalloc keeps after
    obtain ⟨rfl, present⟩ := inserted after
    obtain whole | ⟨absent, failed⟩ := keeps
    · exact old ((rep.listed _).mpr whole)
    · simp [absent, failed] at present
  cases event with
  | blist env ip mask add kzalloc =>
    cases add with
    | false => exact absurd after erased
    | true =>
      obtain ⟨rfl, present⟩ := inserted after
      obtain exact | ⟨absent, failed⟩ := keeps
      · have absent : s.mcastBlistList.any (finds (.handle ip mask)) = false := by
          by_contra found
          exact old ((any_finds_iff rep made exact).mp (by simpa using found))
        obtain rfl : kzalloc = true := by simpa [absent] using present
        exact unbound_of_blist plat env exact absent member covers
      · simp [absent, failed] at present
  | blistWrite command kzalloc =>
    cases command with
    | ipv4Add ip => exact absurd after (debugfs keeps)
    | ipv6Add ip => exact absurd after (debugfs keeps)
    | ipv4Del ip => exact absurd after erased
    | ipv6Del ip => exact absurd after erased
  | mdb | bind | goingDown | offload | pathSwitch | warmInit | foeWrite => exact absurd after old

/-! ## One step -/

/-- What holds along a run whose writes the code gets right. -/
structure Inv (t : Tracked) : Prop where
  enforced : Enforced t
  made : Made t.state.mcastBlistList

theorem inv_init : Inv Tracked.init where
  enforced := ⟨.nil, by simp [Unblocked, Tracked.init, State.init]⟩
  made := by simp [Made, Tracked.init, State.init]

theorem inv_step (plat : Platform) (t : Tracked) (event : Event) (inv : Inv t)
    (keeps : KeepsRanges t.state.mcastBlistList (writeOf event)) : Inv (trackedStep plat t event) := by
  obtain ⟨⟨rep, unblocked⟩, made⟩ := inv
  have stepped := unblocked_step plat t.state event made rep unblocked
  have listed := step_mcastBlistList plat t.state event
  refine ⟨⟨?_, ?_⟩, ?_⟩
  · rw [trackedStep, listed]
    exact (represents_written_iff rep made (writeOf event)).mpr keeps
  · intro group member bound range after
    by_cases old : range ∈ t.ranges
    · exact stepped group member bound range old
    · exact fun covers =>
        unbound_of_new plat t.state event rep made keeps old after member covers bound
  · rw [trackedStep, listed]
    exact made_written made keeps

/-- In every run, the blacklist holds exactly the ranges that were added and not
removed since, each once, and no group of one of them is bound, in every state
reached, if and only if the code gets every write of the run right. -/
theorem blist_enforced_iff (plat : Platform) (events : List Event) :
    (∀ n, Enforced (run (trackedStep plat) Tracked.init (events.take n))) ↔
      Along (trackedStep plat)
        (fun t event => KeepsRanges t.state.mcastBlistList (writeOf event)) Tracked.init events := by
  refine always_iff_along (trackedStep plat) _ Inv Enforced (fun _ inv => inv.enforced)
    (inv_step plat) ?_ Tracked.init events inv_init
  intro t event inv wrong enforced
  have represented := enforced.represents
  rw [trackedStep, step_mcastBlistList] at represented
  exact wrong ((represents_written_iff inv.enforced.represents inv.made (writeOf event)).mp
    represented)

/-! ## A group that is blocked while it is bound -/

/-- The stream of the group is bound, and its address is added in debugfs. -/
def blockingRun : List Event :=
  [.offload twoPorts true, join 1, .foeWrite 0 7 streamEntry,
    .bind twoPorts 0x01005e010203 0 7 streamEntry 1 true, .blistWrite (.ipv4Add streamIp) true]

/-- The address is listed without a mask, and its group stays bound. -/
theorem blockingRun_not_enforced :
    let t := run (trackedStep board) Tracked.init blockingRun
    ¬ Represents Holds t.state.mcastBlistList t.ranges ∧ ¬ Unblocked t.ranges t.state.groups := by
  have listed : ⟨.ipv4 streamIp, 32⟩ ∈ (run (trackedStep board) Tracked.init blockingRun).ranges := by
    decide
  have unheld : ∀ m ∈ (run (trackedStep board) Tracked.init blockingRun).state.mcastBlistList,
      ¬ Holds m ⟨.ipv4 streamIp, 32⟩ := by decide
  have bound : ∃ group ∈ (run (trackedStep board) Tracked.init blockingRun).state.groups,
      Bound group ∧ Range.Covers ⟨.ipv4 streamIp, 32⟩ group.ip := by decide
  refine ⟨fun represents => ?_, fun unblocked => ?_⟩
  · obtain ⟨m, member, holds⟩ := (represents.listed _).mp listed
    exact unheld m member holds
  · obtain ⟨group, member, isBound, covers⟩ := bound
    exact unblocked group member isBound _ listed covers

end OpenwrtSource.Hnat.BlistRanges
