import Mathlib.Data.List.Nodup
import OpenwrtSource.Hnat.DeviceRefs

/-!
# Teardown of the extension interfaces

`hnat_release_netdev` and the error path of `hnat_probe` walk `ext_if[]` by
index and delete the entry that they are at, while `ext_if_del` moves the
entries behind it one slot down.
-/

namespace OpenwrtSource.Hnat.ExtTeardown

open Lib.Holders Lib.Run Hnat.ExtDevices Hnat.DeviceRefs

/-- A `struct extdev_entry *`, with what it points to. -/
structure ExtPtr where
  addr : Nat
  entry : ExtdevEntry

/-- `hnat_priv->ext_if`, of `MAX_EXT_DEVS` pointers. -/
abbrev ExtIf := Nat → Option ExtPtr

/-- The inner loop of `ext_if_del` from `j` on: where it stops, and the array then. -/
def extIfShift : Nat → Nat → ExtIf → Nat × ExtIf
  | 0, j, extIf => (j, extIf)
  | left + 1, j, extIf =>
    if (extIf j).isSome ∧ j < MAX_EXT_DEVS - 1 then
      extIfShift left (j + 1) (Function.update extIf j (extIf (j + 1)))
    else (j, extIf)

def extIfDel (extEntry : ExtPtr) (extIf : ExtIf) : ExtIf :=
  match (List.range MAX_EXT_DEVS).find? fun i =>
      decide ((extIf i).map ExtPtr.addr = some extEntry.addr) with
  | none => extIf
  | some i =>
    let (j, extIf) := extIfShift MAX_EXT_DEVS i extIf
    Function.update extIf j none

def putSlot (slot : Option NetDev) (refs : NetDev → Int) : NetDev → Int :=
  slot.elim refs fun dev => put dev refs

/-- The loop of both functions, at index `i` with `left` indices to go: only one of them gives
the devices back. -/
def teardown (puts : Bool) : Nat → Nat → ExtIf → (NetDev → Int) → ExtIf × (NetDev → Int)
  | 0, _, extIf, refs => (extIf, refs)
  | left + 1, i, extIf, refs =>
    match extIf i with
    | none => (extIf, refs)
    | some extEntry =>
      teardown puts left (i + 1) (extIfDel extEntry extIf)
        (if puts then putSlot extEntry.entry.dev refs else refs)

def pointers (entries : List ExtdevEntry) : List ExtPtr :=
  entries.zipIdx.map fun numbered => ⟨numbered.2, numbered.1⟩

def entries (extIf : ExtIf) : List ExtdevEntry :=
  (((List.range MAX_EXT_DEVS).map extIf).takeWhile Option.isSome).filterMap
    fun slot => slot.map ExtPtr.entry

def hnatReleaseNetdev (s : MtkHnat) : MtkHnat :=
  let (extIf, refs) := teardown true MAX_EXT_DEVS 0 (fun i => (pointers s.extIf)[i]?) s.refs
  { s with extIf := entries extIf, refs := putSlot s.gWandev (putSlot s.gPpdev refs) }

/-- `hnat_probe` from the label `err_out1` on. -/
def hnatProbeErrOut1 (s : MtkHnat) : MtkHnat :=
  let (extIf, refs) := teardown false MAX_EXT_DEVS 0 (fun i => (pointers s.extIf)[i]?) s.refs
  { s with extIf := entries extIf, refs }

section

universe u v
variable {α : Type u} {β : Type v}

def taken : List α → List α
  | [] => []
  | [a] => [a]
  | a :: _ :: rest => a :: taken rest

def spared : List α → List α
  | [] => []
  | [_] => []
  | _ :: b :: rest => b :: spared rest

theorem taken_map (f : α → β) (list : List α) : taken (list.map f) = (taken list).map f := by
  induction list using taken.induct with
  | case1 => rfl
  | case2 a => rfl
  | case3 a b rest ih =>
    simp only [List.map_cons, taken]
    rw [ih]

theorem spared_map (f : α → β) (list : List α) : spared (list.map f) = (spared list).map f := by
  induction list using spared.induct with
  | case1 => rfl
  | case2 a => rfl
  | case3 a b rest ih =>
    simp only [List.map_cons, spared]
    rw [ih]

theorem spared_eq_nil_iff (list : List α) : spared list = [] ↔ list.length ≤ 1 := by
  match list with
  | [] => simp [spared]
  | [_] => simp [spared]
  | _ :: _ :: _ => simp [spared]

theorem taken_of_short {list : List α} (short : list.length ≤ 1) : taken list = list := by
  match list with
  | [] => rfl
  | [_] => rfl
  | _ :: _ :: _ => simp at short

end

/-- The array holds the pointers of the list, and NULL behind them. -/
structure Lists (extIf : ExtIf) (list : List ExtPtr) : Prop where
  slot : ∀ i, i < MAX_EXT_DEVS → extIf i = list[i]?
  fits : list.length ≤ MAX_EXT_DEVS
  distinct : (list.map ExtPtr.addr).Nodup

variable (left : Nat) (puts : Bool) (s : MtkHnat)

theorem extIfShift_eq (j stop : Nat) (extIf : ExtIf) (ahead : j ≤ stop) (enough : stop - j ≤ left)
    (moves : ∀ k, j ≤ k → k < stop → (extIf k).isSome ∧ k < MAX_EXT_DEVS - 1)
    (stops : ¬ ((extIf stop).isSome ∧ stop < MAX_EXT_DEVS - 1)) :
    extIfShift left j extIf =
      (stop, fun k => if j ≤ k ∧ k < stop then extIf (k + 1) else extIf k) := by
  have still : ∀ table : ExtIf,
      (fun k => if stop ≤ k ∧ k < stop then table (k + 1) else table k) = table := by
    intro table
    funext k
    exact if_neg (by omega)
  induction left generalizing j extIf with
  | zero =>
    obtain rfl : j = stop := by omega
    rw [still]
    rfl
  | succ left ih =>
    unfold extIfShift
    by_cases done : j = stop
    · rw [done, if_neg stops, still]
    · rw [if_pos (moves j (Nat.le_refl j) (by omega))]
      have later : ∀ k, k ≠ j →
          Function.update extIf j (extIf (j + 1)) k = extIf k := by
        intro k other
        exact Function.update_of_ne other _ _
      rw [ih (j + 1) _ (by omega) (by omega)]
      · congr 1
        funext k
        by_cases here : k = j
        · rw [here, if_neg (by omega), if_pos (by omega), Function.update_self]
        · by_cases moved : j + 1 ≤ k ∧ k < stop
          · rw [if_pos moved, if_pos (by omega), later (k + 1) (by omega)]
          · rw [if_neg moved, if_neg (by omega), later k here]
      · intro k after before
        rw [later k (by omega)]
        exact moves k (by omega) before
      · rw [later stop (by omega)]
        exact stops

theorem extIfDel_lists {extIf : ExtIf} {before after : List ExtPtr} {extEntry : ExtPtr}
    (lists : Lists extIf (before ++ extEntry :: after)) :
    Lists (extIfDel extEntry extIf) (before ++ after) := by
  have fits := lists.fits
  rw [List.length_append, List.length_cons] at fits
  have inside : before.length < MAX_EXT_DEVS := by omega
  have slots : ∀ k, k < MAX_EXT_DEVS →
      extIf k =
      if k < before.length then before[k]? else (extEntry :: after)[k - before.length]? := by
    intro k inTable
    rw [lists.slot k inTable, List.getElem?_append]
  have distinct := lists.distinct
  rw [List.map_append, List.map_cons, List.nodup_middle, List.nodup_cons, ← List.map_append]
    at distinct
  have found : (List.range MAX_EXT_DEVS).find? (fun i =>
      decide ((extIf i).map ExtPtr.addr = some extEntry.addr)) = some before.length := by
    rw [List.find?_range_eq_some]
    refine ⟨?_, List.mem_range.mpr inside, ?_⟩
    · rw [slots before.length inside]
      simp
    · intro k earlier
      rw [slots k (by omega), if_pos earlier, List.getElem?_eq_getElem earlier]
      simp only [Option.map_some, Option.some.injEq, Bool.not_eq_eq_eq_not, Bool.not_true,
        decide_eq_false_iff_not]
      intro same
      apply distinct.1
      rw [← same]
      exact List.mem_map_of_mem (List.mem_append_left _ (List.getElem_mem earlier))
  -- the loop stops at the first NULL or at the last slot
  have stop := extIfShift_eq MAX_EXT_DEVS before.length
    (min (before.length + after.length + 1) (MAX_EXT_DEVS - 1)) extIf (by omega) (by omega)
    (by
      intro k from_gap below
      refine ⟨?_, by omega⟩
      rw [slots k (by omega), if_neg (by omega), List.getElem?_eq_getElem]
      · rfl
      · rw [List.length_cons]
        omega)
    (by
      rintro ⟨used, below⟩
      rw [slots _ (by omega), if_neg (by omega), List.getElem?_eq_none] at used
      · exact absurd used Bool.false_ne_true
      · rw [List.length_cons]
        omega)
  refine ⟨?_, ?_, distinct.2⟩
  · intro k inTable
    unfold extIfDel
    rw [found]
    simp only [stop]
    rw [List.getElem?_append]
    by_cases last : k = min (before.length + after.length + 1) (MAX_EXT_DEVS - 1)
    · rw [last, Function.update_self, if_neg (by omega), List.getElem?_eq_none (by omega)]
    · rw [Function.update_of_ne last]
      by_cases kept : k < before.length
      · rw [if_neg (by omega), if_pos kept, slots k inTable, if_pos kept]
      · rw [if_neg kept]
        by_cases moved : k < min (before.length + after.length + 1) (MAX_EXT_DEVS - 1)
        · have behind : k + 1 - before.length = k - before.length + 1 := by omega
          rw [if_pos (by omega), slots (k + 1) (by omega), if_neg (by omega), behind,
            List.getElem?_cons_succ]
        · rw [if_neg (by omega), slots k inTable, if_neg kept, List.getElem?_eq_none,
            List.getElem?_eq_none (by omega)]
          rw [List.length_cons]
          omega
  · rw [List.length_append]
    omega

theorem entries_of_lists {extIf : ExtIf} {list : List ExtPtr} (lists : Lists extIf list) :
    entries extIf = list.map ExtPtr.entry := by
  have fits := lists.fits
  have slots : (List.range MAX_EXT_DEVS).map extIf =
      list.map some ++ List.replicate (MAX_EXT_DEVS - list.length) none := by
    apply List.ext_getElem?
    intro i
    rw [List.getElem?_map, List.getElem?_append, List.length_map, List.getElem?_map,
      List.getElem?_replicate]
    by_cases inTable : i < MAX_EXT_DEVS
    · rw [List.getElem?_range inTable, Option.map_some, lists.slot i inTable]
      by_cases used : i < list.length
      · rw [if_pos used, List.getElem?_eq_getElem used, Option.map_some]
      · rw [if_neg used, if_pos (by omega), List.getElem?_eq_none (by omega)]
    · rw [List.getElem?_eq_none, if_neg (by omega), if_neg (by omega), Option.map_none]
      rw [List.length_range]
      omega
  have used : ∀ slot ∈ list.map some, slot.isSome = true := by
    intro slot member
    obtain ⟨extEntry, -, rfl⟩ := List.mem_map.mp member
    rfl
  have unused : (List.replicate (MAX_EXT_DEVS - list.length) (none : Option ExtPtr)).takeWhile
      Option.isSome = [] := by
    cases MAX_EXT_DEVS - list.length with
    | zero => rfl
    | succ n => rfl
  unfold entries
  rw [slots, List.takeWhile_append_of_pos used, unused, List.append_nil, List.filterMap_map]
  exact congrFun List.filterMap_eq_map' list

/-- What `dev_put` for each of the slots makes of the references. -/
def putEach (slots : List (Option NetDev)) (refs : NetDev → Int) : NetDev → Int :=
  slots.foldl (fun refs slot => putSlot slot refs) refs

theorem putSlot_apply (slot : Option NetDev) (refs : NetDev → Int) (dev : NetDev) :
    putSlot slot refs dev = refs dev - if slot = some dev then 1 else 0 := by
  unfold putSlot
  cases slot with
  | none => simp
  | some held =>
    by_cases same : dev = held
    · rw [same]
      simp [put]
    · simp [put, same, Ne.symm same]

theorem putEach_apply (slots : List (Option NetDev)) (refs : NetDev → Int) (dev : NetDev) :
    putEach slots refs dev = refs dev - (slots.count (some dev) : Int) := by
  induction slots generalizing refs with
  | nil => simp [putEach]
  | cons slot rest ih =>
    have later : putEach (slot :: rest) refs dev = putEach rest (putSlot slot refs) dev := rfl
    rw [later, ih, putSlot_apply, List.count_cons]
    by_cases same : slot = some dev
    · simp [same]
      omega
    · simp [same]

/-- The references that the loop gives back for the entries it takes. -/
def givenBack (puts : Bool) (list : List ExtPtr) (refs : NetDev → Int) : NetDev → Int :=
  if puts then putEach (list.map fun extEntry => extEntry.entry.dev) refs else refs

theorem teardown_past (left i : Nat) (extIf : ExtIf) (refs : NetDev → Int)
    (past : left = 0 ∨ extIf i = none) : teardown puts left i extIf refs = (extIf, refs) := by
  cases left with
  | zero => rfl
  | succ left =>
    obtain impossible | empty := past
    · exact absurd impossible (Nat.succ_ne_zero left)
    · unfold teardown
      rw [empty]

theorem teardown_step (left i : Nat) (extIf : ExtIf) (refs : NetDev → Int) {extEntry : ExtPtr}
    (here : extIf i = some extEntry) :
    teardown puts (left + 1) i extIf refs =
      teardown puts left (i + 1) (extIfDel extEntry extIf)
        (if puts then putSlot extEntry.entry.dev refs else refs) := by
  rw [teardown, here]

theorem teardown_lists (rest : List ExtPtr) :
    ∀ (kept : List ExtPtr) (left : Nat) (extIf : ExtIf) (refs : NetDev → Int),
      Lists extIf (kept ++ rest) → kept.length + left = MAX_EXT_DEVS →
      ∃ after, teardown puts left kept.length extIf refs =
          (after, givenBack puts (taken rest) refs) ∧ Lists after (kept ++ spared rest) := by
  induction rest using taken.induct with
  | case1 =>
    intro kept left extIf refs lists reach
    refine ⟨extIf, ?_, lists⟩
    have unchanged : givenBack puts (taken []) refs = refs := by
      unfold givenBack
      split <;> rfl
    rw [unchanged]
    apply teardown_past
    by_cases done : left = 0
    · exact Or.inl done
    · right
      rw [lists.slot _ (by omega), List.append_nil]
      exact List.getElem?_eq_none (Nat.le_refl _)
  | case2 extEntry =>
    intro kept left extIf refs lists reach
    have fits := lists.fits
    rw [List.length_append, List.length_singleton] at fits
    have here : extIf kept.length = some extEntry := by
      rw [lists.slot _ (by omega), List.getElem?_append_right (Nat.le_refl _), Nat.sub_self]
      rfl
    have deleted := extIfDel_lists lists
    obtain ⟨left, rfl⟩ : ∃ more, left = more + 1 := ⟨left - 1, by omega⟩
    rw [teardown_step puts left _ _ refs here]
    refine ⟨extIfDel extEntry extIf, ?_, deleted⟩
    apply teardown_past
    by_cases done : left = 0
    · exact Or.inl done
    · right
      rw [deleted.slot _ (by omega), List.append_nil]
      exact List.getElem?_eq_none (Nat.le_succ _)
  | case3 extEntry next rest ih =>
    intro kept left extIf refs lists reach
    have fits := lists.fits
    rw [List.length_append, List.length_cons, List.length_cons] at fits
    have here : extIf kept.length = some extEntry := by
      rw [lists.slot _ (by omega), List.getElem?_append_right (Nat.le_refl _), Nat.sub_self]
      rfl
    have deleted := extIfDel_lists lists
    obtain ⟨left, rfl⟩ : ∃ more, left = more + 1 := ⟨left - 1, by omega⟩
    rw [teardown_step puts left _ _ refs here]
    -- the next entry is now at the index that the loop has left behind
    have moved : kept ++ next :: rest = kept ++ [next] ++ rest := by simp
    rw [moved] at deleted
    have index : kept.length + 1 = (kept ++ [next]).length := by simp
    rw [index]
    obtain ⟨after, finished, listed⟩ := ih (kept ++ [next]) left _
      (if puts then putSlot extEntry.entry.dev refs else refs) deleted (by rw [← index]; omega)
    refine ⟨after, ?_, ?_⟩
    · rw [finished]
      congr 1
      unfold givenBack
      cases puts with
      | false => rfl
      | true => rfl
    · rw [List.append_assoc] at listed
      exact listed

section

variable (list : List ExtdevEntry)

theorem pointers_entry : (pointers list).map ExtPtr.entry = list := by
  unfold pointers
  rw [List.map_map]
  exact List.zipIdx_map_fst 0 list

theorem pointers_addr : (pointers list).map ExtPtr.addr = List.range' 0 list.length := by
  unfold pointers
  rw [List.map_map]
  exact List.zipIdx_map_snd 0 list

theorem pointers_lists (fits : list.length ≤ MAX_EXT_DEVS) :
    Lists (fun i => (pointers list)[i]?) (pointers list) := by
  refine ⟨fun i inTable => rfl, ?_, ?_⟩
  · rw [← List.length_map ExtPtr.entry, pointers_entry]
    exact fits
  · rw [pointers_addr]
    exact List.nodup_range'

theorem pointers_dev :
    ((pointers list).map fun extEntry => extEntry.entry.dev) = list.map ExtdevEntry.dev := by
  rw [← pointers_entry list, List.map_map, pointers_entry]
  rfl

theorem teardown_table (puts : Bool) (refs : NetDev → Int) (fits : list.length ≤ MAX_EXT_DEVS) :
    ∃ after, teardown puts MAX_EXT_DEVS 0 (fun i => (pointers list)[i]?) refs =
        (after, if puts then putEach ((taken list).map ExtdevEntry.dev) refs else refs) ∧
      entries after = spared list := by
  obtain ⟨after, finished, listed⟩ := teardown_lists puts (pointers list) [] MAX_EXT_DEVS _ refs
    (pointers_lists list fits) (Nat.zero_add _)
  refine ⟨after, ?_, ?_⟩
  · have devices : (taken (pointers list)).map (fun extEntry => extEntry.entry.dev) =
        (taken list).map ExtdevEntry.dev := by
      rw [← taken_map, pointers_dev, taken_map]
    unfold givenBack at finished
    rw [devices] at finished
    exact finished
  · rw [entries_of_lists listed, List.nil_append, ← spared_map, pointers_entry]

end

theorem hnatReleaseNetdev_eq (fits : s.extIf.length ≤ MAX_EXT_DEVS) :
    hnatReleaseNetdev s =
      { s with
        extIf := spared s.extIf
        refs := putSlot s.gWandev (putSlot s.gPpdev
          (putEach ((taken s.extIf).map ExtdevEntry.dev) s.refs)) } := by
  obtain ⟨after, finished, left⟩ := teardown_table s.extIf true s.refs fits
  unfold hnatReleaseNetdev
  simp only [finished, left]
  rfl

theorem hnatProbeErrOut1_eq (fits : s.extIf.length ≤ MAX_EXT_DEVS) :
    hnatProbeErrOut1 s = { s with extIf := spared s.extIf } := by
  obtain ⟨after, finished, left⟩ := teardown_table s.extIf false s.refs fits
  unfold hnatProbeErrOut1
  simp only [finished, left]
  rfl

/-- The table is empty, and every slot of the list has given back what it held. -/
def TornDown (slots : List (Option NetDev)) (before after : MtkHnat) : Prop :=
  after.extIf = [] ∧ ∀ dev, after.refs dev = before.refs dev - (slots.count (some dev) : Int)

/-- The slots that `hnat_release_netdev` goes through. -/
def releasedSlots (s : MtkHnat) : List (Option NetDev) := extSlots s ++ [s.gPpdev, s.gWandev]

theorem release_tornDown_iff (fits : s.extIf.length ≤ MAX_EXT_DEVS) :
    TornDown (releasedSlots s) s (hnatReleaseNetdev s) ↔ s.extIf.length ≤ 1 := by
  rw [hnatReleaseNetdev_eq s fits]
  unfold TornDown
  rw [spared_eq_nil_iff]
  constructor
  · rintro ⟨short, -⟩
    exact short
  · intro short
    refine ⟨short, ?_⟩
    intro dev
    simp only [taken_of_short short, putSlot_apply, putEach_apply]
    unfold releasedSlots extSlots
    rw [List.count_append, List.count_cons, List.count_singleton]
    simp only [beq_iff_eq]
    split_ifs <;> omega

theorem errOut1_tornDown_iff (fits : s.extIf.length ≤ MAX_EXT_DEVS) :
    TornDown (extSlots s) s (hnatProbeErrOut1 s) ↔
      s.extIf.length ≤ 1 ∧ ∀ entry ∈ s.extIf, entry.dev = none := by
  rw [hnatProbeErrOut1_eq s fits]
  unfold TornDown
  rw [spared_eq_nil_iff]
  apply and_congr_right
  intro short
  constructor
  · intro same entry member
    cases held : entry.dev with
    | none => rfl
    | some dev =>
      have counted : 0 < (extSlots s).count (some dev) := by
        rw [List.count_pos_iff]
        unfold extSlots
        rw [← held]
        exact List.mem_map_of_mem member
      have unchanged := same dev
      simp only at unchanged
      omega
  · intro empty dev
    have absent : (extSlots s).count (some dev) = 0 := by
      rw [List.count_eq_zero]
      intro member
      obtain ⟨entry, inTable, holds⟩ := List.mem_map.mp member
      rw [empty entry inTable] at holds
      exact absurd holds nofun
    rw [absent]
    simp

theorem modifyFirst_length (test : ExtdevEntry → Bool) (change : ExtdevEntry → ExtdevEntry)
    (list : List ExtdevEntry) : (modifyFirst test change list).length = list.length := by
  obtain ⟨-, same⟩ | ⟨before, entry, after, split, -, -, changed⟩ :=
    modifyFirst_cases test change list
  · rw [same]
  · rw [changed, split]
    simp

section

variable {s : MtkHnat}

theorem extIfAdd_fits (entry : ExtdevEntry) (fits : s.extIf.length ≤ MAX_EXT_DEVS) :
    (extIfAdd entry s).extIf.length ≤ MAX_EXT_DEVS := by
  unfold extIfAdd
  split
  · rw [List.length_append, List.length_singleton]
    omega
  · exact fits

theorem extifSetDev_fits (names : Names) (kzalloc : Bool) (dev : NetDev)
    (fits : s.extIf.length ≤ MAX_EXT_DEVS) :
    (extifSetDev names kzalloc dev s).extIf.length ≤ MAX_EXT_DEVS := by
  unfold extifSetDev
  split
  · split
    · exact fits
    · rw [modifyFirst_length]
      exact fits
  · split
    · exact extIfAdd_fits _ fits
    · exact fits

variable (dev : NetDev)

theorem extifPutDev_fits (fits : s.extIf.length ≤ MAX_EXT_DEVS) :
    (extifPutDev dev s).extIf.length ≤ MAX_EXT_DEVS := by
  unfold extifPutDev
  split
  · rw [modifyFirst_length]
    exact fits
  · exact fits

theorem registerHook_fits (names : Names) (kzalloc : Bool) (dev : NetDev)
    (fits : s.extIf.length ≤ MAX_EXT_DEVS) :
    (mtkPpeDevRegisterHook names kzalloc dev s).extIf.length ≤ MAX_EXT_DEVS := by
  unfold mtkPpeDevRegisterHook
  split_ifs
  · exact fits
  · exact extifSetDev_fits names kzalloc dev fits
  · exact fits
  · exact extIfAdd_fits _ fits
  · exact fits
  · exact fits

theorem unregisterHook_fits (fits : s.extIf.length ≤ MAX_EXT_DEVS) :
    (mtkPpeDevUnregisterHook dev s).extIf.length ≤ MAX_EXT_DEVS := by
  unfold mtkPpeDevUnregisterHook
  apply extifPutDev_fits
  split <;> exact fits

end

theorem step_fits (names : Names) (w : World) (event : Event)
    (fits : w.hnat.extIf.length ≤ MAX_EXT_DEVS) :
    (step names w event).hnat.extIf.length ≤ MAX_EXT_DEVS := by
  cases event with
  | register dev => exact fits
  | up dev kzalloc => exact extifSetDev_fits names kzalloc dev fits
  | goingDown dev =>
    simp only [step, netdevGoingDown]
    split
    · exact fits
    · exact extifPutDev_fits dev fits
  | unregister dev => exact fits
  | registerHook dev kzalloc => exact registerHook_fits names kzalloc dev fits
  | unregisterHook dev => exact unregisterHook_fits dev fits

theorem run_fits (names : Names) (extDevices : List Name) (events : List Event) :
    (run (step names) (World.init extDevices) events).hnat.extIf.length ≤ MAX_EXT_DEVS := by
  apply run_invariant (step names) (fun _ _ => True)
    (fun w => w.hnat.extIf.length ≤ MAX_EXT_DEVS)
    (fun w event fits _ => step_fits names w event fits)
  · simp only [World.init, MtkHnat.probe]
    rw [List.length_map, List.length_take]
    exact Nat.min_le_left _ _
  · exact along_of_forall _ _ _ _ fun _ _ _ => trivial

/-- After any run, each of the two walks empties the table exactly if at most one interface is in
it; the one of the error path gives no device back. -/
theorem teardown_complete_iff (names : Names) (extDevices : List Name) (events : List Event) :
    let s := (run (step names) (World.init extDevices) events).hnat
    (TornDown (releasedSlots s) s (hnatReleaseNetdev s) ↔ s.extIf.length ≤ 1) ∧
      (TornDown (extSlots s) s (hnatProbeErrOut1 s) ↔
        s.extIf.length ≤ 1 ∧ ∀ entry ∈ s.extIf, entry.dev = none) := by
  intro s
  have fits := run_fits names extDevices events
  exact ⟨release_tornDown_iff s fits, errOut1_tornDown_iff s fits⟩

/-- Of two interfaces of the device tree the second stays in the table. -/
theorem second_interface_stays :
    let s := (run (step raNames) (World.init [['r', 'a', '0'], ['r', 'a', 'x', '0']]) []).hnat
    (hnatReleaseNetdev s).extIf.map ExtdevEntry.name = [['r', 'a', 'x', '0']] ∧
      ¬ TornDown (releasedSlots s) s (hnatReleaseNetdev s) ∧
        ¬ TornDown (extSlots s) s (hnatProbeErrOut1 s) := by
  intro s
  have fits := run_fits raNames [['r', 'a', '0'], ['r', 'a', 'x', '0']] []
  have two : ¬ s.extIf.length ≤ 1 := by decide
  refine ⟨?_, ?_, ?_⟩
  · rw [hnatReleaseNetdev_eq s fits]
    rfl
  · rw [release_tornDown_iff s fits]
    exact two
  · rw [errOut1_tornDown_iff s fits]
    exact fun complete => two complete.1

end OpenwrtSource.Hnat.ExtTeardown
