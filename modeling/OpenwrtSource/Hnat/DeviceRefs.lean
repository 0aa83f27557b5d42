import OpenwrtSource.Hnat.ExtDevices

/-!
# References on net devices

Every slot of HNAT that points to a net device holds one reference on it, and no
slot outlives its device.  The account is lost when a device matches a prefix
while the extension table is full, and a slot outlives its device when the Wi-Fi
hook of the device is still registered at `NETDEV_UNREGISTER`.
-/

namespace OpenwrtSource.Hnat.DeviceRefs

open Lib.Run Lib.Holders Hnat.ExtDevices

/-! ## The account -/

def extSlots (s : MtkHnat) : List (Option NetDev) := s.extIf.map ExtdevEntry.dev

def globals (s : MtkHnat) : List (Option NetDev) := [s.gPpdev, s.gWandev, s.gRxPpdev]

def slots (s : MtkHnat) : List (Option NetDev) := globals s ++ extSlots s ++ s.wifiHookIf

/-- References and slots agree, an entry with a device is in the table, and no slot
points to a device that is gone. -/
structure Referenced (w : World) : Prop where
  counted : Counted w.hnat.refs (slots w.hnat)
  listed : ∀ entry ∈ w.hnat.strays, entry.dev = none
  alive : ∀ dev ∈ w.gone, some dev ∉ slots w.hnat

/-- The slots are right by themselves: an entry with a device bears its name and is
the first of the name, and the hook table has a device once. -/
structure Sound (s : MtkHnat) : Prop where
  counted : Counted s.refs (slots s)
  listed : s.strays = []
  keyed : ∀ entry ∈ s.extIf, ∀ dev, entry.dev = some dev → entry.name = dev.name
  first : s.extIf.Pairwise fun earlier later => later.dev ≠ none → earlier.name ≠ later.name
  hooked : ∀ dev, s.wifiHookIf.count (some dev) ≤ 1

structure Inv (w : World) : Prop where
  sound : Sound w.hnat
  alive : ∀ dev ∈ w.gone, some dev ∉ slots w.hnat
  running : ∀ dev, some dev ∈ extSlots w.hnat → some dev ∈ w.hnat.wifiHookIf ∨ dev ∈ w.running
  known : ∀ dev ∈ w.registered, dev ∉ w.gone

/-- `extif_set_dev` finds an entry of the name, without a device. -/
def FillsEntry (dev : NetDev) (s : MtkHnat) : Prop :=
  ∃ entry, (s.extIf.find? fun entry => entry.name = dev.name) = some entry ∧ entry.dev = none

/-- `extif_set_dev` allocates an entry for a prefix. -/
def AddsEntry (names : Names) (kzalloc : Bool) (dev : NetDev) (s : MtkHnat) : Prop :=
  findExtifFromDevname s dev.name = false ∧ extifPrefixMatch names dev.name = true ∧
    dev.ethMac = false ∧ kzalloc = true

def TakesHook (kzalloc : Bool) (dev : NetDev) (s : MtkHnat) : Prop :=
  some dev ∉ s.wifiHookIf ∧ none ∈ s.wifiHookIf ∧
    (findExtifFromDevname s dev.name = true ∨ (s.extIf.length < MAX_EXT_DEVS ∧ kzalloc = true))

/-- The table has room for the entry of a prefix, a device is unhooked before it is
unregistered, and a device that is gone is given no slot. -/
def StepOk (names : Names) (w : World) : Event → Prop
  | .up dev kzalloc =>
    (AddsEntry names kzalloc dev w.hnat → w.hnat.extIf.length < MAX_EXT_DEVS) ∧
      (dev ∈ w.gone → ¬ FillsEntry dev w.hnat ∧ ¬ AddsEntry names kzalloc dev w.hnat)
  | .registerHook dev kzalloc => dev ∈ w.gone → ¬ TakesHook kzalloc dev w.hnat
  | .unregister dev => some dev ∉ w.hnat.wifiHookIf
  | _ => True

/-- A device that is up goes down before it is unregistered. -/
def DownFirst (w : World) : Event → Prop
  | .unregister dev => dev ∉ w.running
  | _ => True

/-! ## One entry of the table -/

theorem name_take (dev : NetDev) : dev.name.take (IFNAMSIZ - 1) = dev.name :=
  List.take_of_length_le (Nat.le_pred_of_lt dev.fits)

variable {s : MtkHnat} {before after : List ExtdevEntry} {entry : ExtdevEntry} {refs : NetDev → Int}
  {slot : Option NetDev}

theorem Sound.once (sound : Sound s) {dev : NetDev} (split : s.extIf = before ++ entry :: after)
    (held : entry.dev = some dev) : ∀ other ∈ before ++ after, other.dev ≠ some dev := by
  have first := sound.first
  have keyed := sound.keyed
  rw [split, List.pairwise_append, List.pairwise_cons] at first
  rw [split] at keyed
  obtain ⟨-, ⟨later, -⟩, earlier⟩ := first
  have name := keyed entry (by simp) dev held
  intro other member otherHeld
  have otherName := keyed other (by grind) dev otherHeld
  rcases List.mem_append.mp member with inBefore | inAfter
  · exact earlier other inBefore entry (by simp) (by simp [held]) (otherName.trans name.symm)
  · exact later other inAfter (by simp [otherHeld]) (name.trans otherName.symm)

theorem slots_split (split : s.extIf = before ++ entry :: after) :
    slots s = (globals s ++ before.map ExtdevEntry.dev) ++
      entry.dev :: (after.map ExtdevEntry.dev ++ s.wifiHookIf) := by
  simp [slots, extSlots, split]

theorem Sound.setEntry (sound : Sound s) (split : s.extIf = before ++ entry :: after)
    (dev : Option NetDev) (refs : NetDev → Int)
    (counted : Counted refs ((globals s ++ before.map ExtdevEntry.dev) ++
      dev :: (after.map ExtdevEntry.dev ++ s.wifiHookIf)))
    (keyed : ∀ d, dev = some d → entry.name = d.name)
    (first : ∀ other ∈ before, dev ≠ none → other.name ≠ entry.name) :
    Sound { s with extIf := before ++ { entry with dev := dev } :: after, refs := refs } := by
  have oldKeyed := sound.keyed
  have oldFirst := sound.first
  rw [split] at oldKeyed
  rw [split, List.pairwise_append, List.pairwise_cons] at oldFirst
  obtain ⟨heads, ⟨later, tails⟩, earlier⟩ := oldFirst
  refine ⟨?_, sound.listed, ?_, ?_, sound.hooked⟩
  · rw [slots_split
      (s := { s with extIf := before ++ { entry with dev := dev } :: after, refs := refs }) rfl]
    exact counted
  · intro other member d held
    rcases List.mem_append.mp member with inBefore | rest
    · exact oldKeyed other (by simp [inBefore]) d held
    · rcases List.mem_cons.mp rest with same | inAfter
      · rw [same] at held ⊢
        exact keyed d held
      · exact oldKeyed other (by simp [inAfter]) d held
  · show (before ++ { entry with dev := dev } :: after).Pairwise _
    rw [List.pairwise_append, List.pairwise_cons]
    refine ⟨heads, ⟨later, tails⟩, fun other inBefore next rest => ?_⟩
    rcases List.mem_cons.mp rest with same | inAfter
    · rw [same]
      exact first other inBefore
    · exact earlier other inBefore next (by simp [inAfter])

/-- What an operation on the table of extension devices does: the globals and the
hook table stay, and `holds` says which devices the table has afterwards. -/
structure TableEffect (s after : MtkHnat) (holds : NetDev → Prop) : Prop where
  sound : Sound after
  globals : globals after = globals s
  hook : after.wifiHookIf = s.wifiHookIf
  ext : ∀ dev, some dev ∈ extSlots after ↔ holds dev

theorem extifPutDev_effect (sound : Sound s) (dev : NetDev) :
    TableEffect s (extifPutDev dev s) fun other => some other ∈ extSlots s ∧ other ≠ dev := by
  rcases modifyFirst_cases (fun entry : ExtdevEntry => entry.dev = some dev)
      (fun entry => { entry with dev := none }) s.extIf with
    ⟨absent, -⟩ | ⟨before, entry, after, split, -, held, changed⟩
  · have unchanged : extifPutDev dev s = s := by
      rw [extifPutDev, if_neg]
      simpa using absent
    rw [unchanged]
    refine ⟨sound, rfl, rfl, fun other => ⟨fun member => ⟨member, ?_⟩, And.left⟩⟩
    rintro rfl
    simp only [extSlots, List.mem_map] at member
    obtain ⟨entry, listed, same⟩ := member
    simpa [same] using absent entry listed
  · have isHeld : entry.dev = some dev := by simpa using held
    have result : extifPutDev dev s =
        { s with extIf := before ++ { entry with dev := none } :: after, refs := put dev s.refs } := by
      rw [extifPutDev, if_pos, changed]
      rw [List.any_eq_true]
      exact ⟨entry, by simp [split], by simp [isHeld]⟩
    have counted := sound.counted
    rw [slots_split split, isHeld] at counted
    have once := sound.once split isHeld
    rw [result]
    refine ⟨sound.setEntry split none _ counted.clear (fun _ none => nomatch none)
      fun _ _ some => absurd rfl some, rfl, rfl, fun other => ?_⟩
    simp only [extSlots, split, List.map_append, List.map_cons, List.mem_append, List.mem_cons,
      isHeld, List.mem_map]
    grind

theorem addEntry_effect (sound : Sound s) (dev : NetDev)
    (unnamed : findExtifFromDevname s dev.name = false) (room : s.extIf.length < MAX_EXT_DEVS) :
    TableEffect s
      (extIfAdd ⟨dev.name.take (IFNAMSIZ - 1), some dev⟩ { s with refs := hold dev s.refs })
      fun other => some other ∈ extSlots s ∨ other = dev := by
  have absent : ∀ entry ∈ s.extIf, entry.name ≠ dev.name := by
    simpa [findExtifFromDevname] using unnamed
  rw [extIfAdd, if_pos room, name_take]
  have counted := sound.counted
  have split : slots s = (globals s ++ extSlots s) ++ s.wifiHookIf := rfl
  rw [split] at counted
  refine ⟨⟨?_, sound.listed, ?_, ?_, sound.hooked⟩, rfl, rfl, fun other => ?_⟩
  · have added := counted.add dev
    simpa [slots, globals, extSlots] using added
  · intro entry member d held
    rcases List.mem_append.mp member with old | new
    · exact sound.keyed entry old d held
    · rw [List.mem_singleton.mp new] at held ⊢
      rw [Option.some.inj held]
  · show (s.extIf ++ [(⟨dev.name, some dev⟩ : ExtdevEntry)]).Pairwise _
    rw [List.pairwise_append]
    refine ⟨sound.first, List.pairwise_singleton _ _, fun entry old other new => ?_⟩
    rw [List.mem_singleton.mp new]
    exact fun _ => absent entry old
  · simp [extSlots, eq_comm]

theorem fillEntry_effect (sound : Sound s) (dev : NetDev) (fills : FillsEntry dev s) (names : Names)
    (kzalloc : Bool) :
    TableEffect s (extifSetDev names kzalloc dev s)
      fun other => some other ∈ extSlots s ∨ other = dev := by
  obtain ⟨entry, found, free⟩ := fills
  have named : entry.name = dev.name := by simpa using List.find?_some found
  rcases modifyFirst_cases (fun entry : ExtdevEntry => entry.name = dev.name)
      (fun entry => { entry with dev := some dev }) s.extIf with
    ⟨absent, -⟩ | ⟨before, first, after, split, earlier, isNamed, changed⟩
  · have none := absent entry (List.mem_of_find?_eq_some found)
    simp [named] at none
  · have same : first = entry := by
      have skipped : before.find? (fun entry => entry.name = dev.name) = none := by
        simpa using earlier
      rw [split, List.find?_append, skipped, Option.none_or] at found
      simp only [List.find?_cons, isNamed, Option.some.injEq] at found
      exact found
    subst first
    have result : extifSetDev names kzalloc dev s =
        { s with
          extIf := before ++ { entry with dev := some dev } :: after
          refs := hold dev s.refs } := by
      simp only [extifSetDev, found, free, Option.isSome_none, Bool.false_eq_true, if_false,
        changed]
    have counted := sound.counted
    rw [slots_split split, free] at counted
    rw [result]
    refine ⟨sound.setEntry split (some dev) _ (counted.fill dev) ?_ ?_, rfl, rfl, fun other => ?_⟩
    · rintro d ⟨⟩
      exact named
    · intro other inBefore _
      rw [named]
      simpa using earlier other inBefore
    · simp only [extSlots, split, List.map_append, List.map_cons, List.mem_append, List.mem_cons,
        free, Option.some.injEq, reduceCtorEq, false_or]
      grind

theorem extifSetDev_effect (sound : Sound s) (names : Names) (kzalloc : Bool) (dev : NetDev)
    (room : AddsEntry names kzalloc dev s → s.extIf.length < MAX_EXT_DEVS) :
    TableEffect s (extifSetDev names kzalloc dev s) fun other => some other ∈ extSlots s ∨
      (other = dev ∧ (FillsEntry dev s ∨ AddsEntry names kzalloc dev s)) := by
  by_cases fills : FillsEntry dev s
  · have effect := fillEntry_effect sound dev fills names kzalloc
    simpa [fills] using effect
  · by_cases adds : AddsEntry names kzalloc dev s
    · have effect := addEntry_effect sound dev adds.1 (room adds)
      have absent : (s.extIf.find? fun entry => entry.name = dev.name) = none := by
        simpa [findExtifFromDevname] using adds.1
      have result : extifSetDev names kzalloc dev s =
          extIfAdd ⟨dev.name.take (IFNAMSIZ - 1), some dev⟩
            { s with refs := hold dev s.refs } := by
        simp only [extifSetDev, absent, adds.2.1, adds.2.2.1, adds.2.2.2, Bool.not_false,
          Bool.and_self, if_true]
      rw [result]
      simpa [adds] using effect
    · have unchanged : extifSetDev names kzalloc dev s = s := by
        unfold extifSetDev
        split
        · rename_i entry found
          split
          · rfl
          · rename_i free
            exact absurd ⟨entry, found, by simpa using free⟩ fills
        · rename_i absent
          split
          · rename_i matches'
            simp only [Bool.and_eq_true, Bool.not_eq_true'] at matches'
            have unnamed : findExtifFromDevname s dev.name = false := by
              simpa [findExtifFromDevname] using absent
            exact absurd ⟨unnamed, matches'.1.1, matches'.1.2, matches'.2⟩ adds
          · rfl
      rw [unchanged]
      exact ⟨sound, rfl, rfl, by simp [fills, adds]⟩

/-! ## The hook table -/

/-- What a call of the Wi-Fi hook does: the globals stay, `ext` and `hook` say which
devices the two tables have afterwards. -/
structure HookEffect (s after : MtkHnat) (ext hook : NetDev → Prop) : Prop where
  sound : Sound after
  globals : globals after = globals s
  ext : ∀ dev, some dev ∈ extSlots after ↔ ext dev
  hook : ∀ dev, some dev ∈ after.wifiHookIf ↔ hook dev

theorem addWifiHookIf_effect (sound : Sound s) (dev : NetDev) (absent : some dev ∉ s.wifiHookIf)
    (free : none ∈ s.wifiHookIf) :
    HookEffect s (addWifiHookIf dev s) (fun other => some other ∈ extSlots s)
      fun other => some other ∈ s.wifiHookIf ∨ other = dev := by
  rcases modifyFirst_cases (fun slot : Option NetDev => slot = none) (fun _ => some dev)
      s.wifiHookIf with ⟨full, -⟩ | ⟨before, slot, after, split, -, isFree, changed⟩
  · simpa using full none free
  · have isNone : slot = none := by simpa using isFree
    subst slot
    have counted := sound.counted
    have slotsSplit : slots s = (globals s ++ extSlots s ++ before) ++ none :: after := by
      simp [slots, split]
    rw [slotsSplit] at counted
    have hooked := sound.hooked
    rw [split] at hooked absent
    rw [addWifiHookIf, changed]
    refine ⟨⟨?_, sound.listed, sound.keyed, sound.first, fun other => ?_⟩, rfl, fun _ => Iff.rfl,
      fun other => ?_⟩
    · have filled := counted.fill dev
      simpa [slots, globals, extSlots] using filled
    · have once := hooked other
      rw [count_slot] at once ⊢
      by_cases same : dev = other
      · subst other
        have zero : (before ++ after).count (some dev) = 0 := by
          rw [List.count_eq_zero]
          intro member
          exact absent (by grind)
        simp [zero]
      · simpa [same] using once
    · simp only [split, List.mem_append, List.mem_cons, Option.some.injEq, reduceCtorEq, false_or]
      grind

theorem mtkPpeDevRegisterHook_effect (sound : Sound s) (names : Names) (kzalloc : Bool)
    (dev : NetDev) :
    HookEffect s (mtkPpeDevRegisterHook names kzalloc dev s)
      (fun other => some other ∈ extSlots s ∨ (other = dev ∧ TakesHook kzalloc dev s ∧
        (findExtifFromDevname s dev.name = true → FillsEntry dev s)))
      fun other => some other ∈ s.wifiHookIf ∨ (other = dev ∧ TakesHook kzalloc dev s) := by
  have idle : ¬ TakesHook kzalloc dev s → HookEffect s s
      (fun other => some other ∈ extSlots s ∨ (other = dev ∧ TakesHook kzalloc dev s ∧
        (findExtifFromDevname s dev.name = true → FillsEntry dev s)))
      fun other => some other ∈ s.wifiHookIf ∨ (other = dev ∧ TakesHook kzalloc dev s) := by
    intro rests
    exact ⟨sound, rfl, by simp [rests], by simp [rests]⟩
  by_cases hooked : some dev ∈ s.wifiHookIf
  · rw [mtkPpeDevRegisterHook, if_pos hooked]
    exact idle fun takes => takes.1 hooked
  rw [mtkPpeDevRegisterHook, if_neg hooked]
  by_cases free : none ∈ s.wifiHookIf
  · rw [if_pos free]
    by_cases named : findExtifFromDevname s dev.name = true
    · rw [if_pos named]
      have notAdded : ¬ AddsEntry names kzalloc dev s := by
        intro adds
        rw [adds.1] at named
        cases named
      have set := extifSetDev_effect sound names kzalloc dev fun adds => absurd adds notAdded
      have added := addWifiHookIf_effect set.sound dev (by rw [set.hook]; exact hooked)
        (by rw [set.hook]; exact free)
      have takes : TakesHook kzalloc dev s := ⟨hooked, free, Or.inl named⟩
      refine ⟨added.sound, added.globals.trans set.globals, fun other => ?_, fun other => ?_⟩
      · rw [added.ext, set.ext]
        simp [notAdded, takes, named]
      · rw [added.hook, set.hook]
        simp [takes]
    · rw [if_neg named]
      have unnamed : findExtifFromDevname s dev.name = false := by simpa using named
      by_cases full : MAX_EXT_DEVS ≤ s.extIf.length
      · rw [if_pos full]
        refine idle ?_
        rintro ⟨-, -, isNamed | ⟨room, -⟩⟩
        · exact named isNamed
        · omega
      · rw [if_neg full]
        cases kzalloc with
        | false =>
          refine idle ?_
          rintro ⟨-, -, isNamed | ⟨-, failed⟩⟩
          · exact named isNamed
          · cases failed
        | true =>
          rw [if_pos rfl]
          have set := addEntry_effect sound dev unnamed (by omega)
          have added := addWifiHookIf_effect set.sound dev (by rw [set.hook]; exact hooked)
            (by rw [set.hook]; exact free)
          have takes : TakesHook true dev s := ⟨hooked, free, Or.inr ⟨by omega, rfl⟩⟩
          refine ⟨added.sound, added.globals.trans set.globals, fun other => ?_,
            fun other => ?_⟩
          · rw [added.ext, set.ext]
            simp [takes, unnamed]
          · rw [added.hook, set.hook]
            simp [takes]
  · rw [if_neg free]
    exact idle fun takes => free takes.2.1

theorem mtkPpeDevUnregisterHook_effect (sound : Sound s) (dev : NetDev) :
    HookEffect s (mtkPpeDevUnregisterHook dev s)
      (fun other => some other ∈ extSlots s ∧ other ≠ dev)
      fun other => some other ∈ s.wifiHookIf ∧ other ≠ dev := by
  rcases modifyFirst_cases (fun slot : Option NetDev => slot = some dev) (fun _ => none)
      s.wifiHookIf with ⟨absent, -⟩ | ⟨before, slot, after, split, -, isDev, changed⟩
  · have unhooked : some dev ∉ s.wifiHookIf := by
      intro member
      simpa using absent (some dev) member
    have put := extifPutDev_effect sound dev
    rw [mtkPpeDevUnregisterHook, if_neg unhooked]
    refine ⟨put.sound, put.globals, put.ext, fun other => ?_⟩
    rw [put.hook]
    refine ⟨fun member => ⟨member, ?_⟩, And.left⟩
    rintro rfl
    exact unhooked member
  · have isSome : slot = some dev := by simpa using isDev
    subst slot
    have counted := sound.counted
    have slotsSplit : slots s = (globals s ++ extSlots s ++ before) ++ some dev :: after := by
      simp [slots, split]
    rw [slotsSplit] at counted
    have hooked := sound.hooked
    rw [split] at hooked
    have none' : (before ++ after).count (some dev) = 0 := by
      have once := hooked dev
      rw [count_slot] at once
      simp only [if_true] at once
      omega
    rw [List.count_eq_zero] at none'
    have cleared : Sound { s with wifiHookIf := before ++ none :: after, refs := put dev s.refs } := by
      refine ⟨?_, sound.listed, sound.keyed, sound.first, fun other => ?_⟩
      · simpa [slots, globals, extSlots] using counted.clear
      · have once := hooked other
        rw [count_slot] at once ⊢
        simp only [reduceCtorEq, if_false]
        omega
    have put := extifPutDev_effect cleared dev
    rw [mtkPpeDevUnregisterHook, if_pos (by simp [split]), changed]
    refine ⟨put.sound, put.globals, put.ext, fun other => ?_⟩
    rw [put.hook]
    simp only [split, List.mem_append, List.mem_cons, Option.some.injEq, reduceCtorEq, false_or]
    grind

/-! ## The devices that are known by name -/

theorem counted_registerSlot (before after : List (Option NetDev))
    (counted : Counted refs (before ++ slot :: after)) (named : Bool) (found : Option NetDev) :
    Counted (registerSlot named found slot refs).2
      (before ++ (registerSlot named found slot refs).1 :: after) := by
  unfold registerSlot
  split
  · rename_i taken
    simp only [Bool.and_eq_true, Option.isNone_iff_eq_none] at taken
    rw [taken.2] at counted
    cases found with
    | none => exact counted
    | some dev => exact counted.fill dev
  · exact counted

theorem counted_unregisterSlot (before after : List (Option NetDev))
    (counted : Counted refs (before ++ slot :: after)) (dev : NetDev) :
    Counted (unregisterSlot dev slot refs).2
      (before ++ (unregisterSlot dev slot refs).1 :: after) := by
  unfold unregisterSlot
  split
  · rename_i held
    rw [held] at counted
    exact counted.clear
  · exact counted

theorem registerSlot_mem {named : Bool} {found : Option NetDev} {dev : NetDev}
    (held : (registerSlot named found slot refs).1 = some dev) :
    slot = some dev ∨ found = some dev := by
  unfold registerSlot at held
  split at held
  · exact Or.inr held
  · exact Or.inl held

theorem unregisterSlot_mem (slot : Option NetDev) (refs : NetDev → Int) (dev other : NetDev) :
    (unregisterSlot dev slot refs).1 = some other ↔ slot = some other ∧ other ≠ dev := by
  unfold unregisterSlot
  split
  · rename_i held
    simp [held, eq_comm]
  · rename_i differs
    refine ⟨fun held => ⟨held, ?_⟩, And.left⟩
    rintro rfl
    exact differs held

theorem mem_globals (s : MtkHnat) (slot : Option NetDev) :
    slot ∈ globals s ↔ slot = s.gPpdev ∨ slot = s.gWandev ∨ slot = s.gRxPpdev := by
  simp [globals]

theorem netdevRegister_sound (sound : Sound s) (names : Names) (registered : List NetDev)
    (dev : NetDev) : Sound (netdevRegister names registered dev s) := by
  have counted : Counted s.refs ([] ++ s.gPpdev :: ([s.gWandev, s.gRxPpdev] ++ extSlots s ++
      s.wifiHookIf)) := sound.counted
  have ppd := counted_registerSlot [] _ counted (dev.name = names.ppd)
    (devGetByName registered names.ppd)
  have wan := counted_registerSlot [_] ([s.gRxPpdev] ++ extSlots s ++ s.wifiHookIf) ppd
    (names.wan.isPrefixOf dev.name) (devGetByName registered names.wan)
  have rx := counted_registerSlot [_, _] (extSlots s ++ s.wifiHookIf) wan
    (dev.name = names.rxPpd) (devGetByName registered names.rxPpd)
  exact ⟨rx, sound.listed, sound.keyed, sound.first, sound.hooked⟩

theorem netdevUnregister_sound (sound : Sound s) (dev : NetDev) :
    Sound (netdevUnregister dev s) := by
  have counted : Counted s.refs ([] ++ s.gPpdev :: ([s.gWandev, s.gRxPpdev] ++ extSlots s ++
      s.wifiHookIf)) := sound.counted
  have ppd := counted_unregisterSlot [] _ counted dev
  have wan := counted_unregisterSlot [_] ([s.gRxPpdev] ++ extSlots s ++ s.wifiHookIf) ppd dev
  have rx := counted_unregisterSlot [_, _] (extSlots s ++ s.wifiHookIf) wan dev
  exact ⟨rx, sound.listed, sound.keyed, sound.first, sound.hooked⟩

theorem netdevRegister_globals (names : Names) (registered : List NetDev) (dev : NetDev)
    (s : MtkHnat) (other : NetDev)
    (held : some other ∈ globals (netdevRegister names registered dev s)) :
    some other ∈ globals s ∨ other ∈ registered := by
  have byName : ∀ name, devGetByName registered name = some other → other ∈ registered :=
    fun _ found => List.mem_of_find?_eq_some found
  rw [mem_globals] at held ⊢
  rcases held with ppd | wan | rx
  · rcases registerSlot_mem ppd.symm with old | found
    · exact Or.inl (Or.inl old.symm)
    · exact Or.inr (byName _ found)
  · rcases registerSlot_mem wan.symm with old | found
    · exact Or.inl (Or.inr (Or.inl old.symm))
    · exact Or.inr (byName _ found)
  · rcases registerSlot_mem rx.symm with old | found
    · exact Or.inl (Or.inr (Or.inr old.symm))
    · exact Or.inr (byName _ found)

theorem netdevUnregister_globals (dev : NetDev) (s : MtkHnat) (other : NetDev) :
    some other ∈ globals (netdevUnregister dev s) ↔ some other ∈ globals s ∧ other ≠ dev := by
  have each := fun slot refs => unregisterSlot_mem slot refs dev other
  simp only [mem_globals, netdevUnregister, eq_comm (a := some other), each]
  grind

/-! ## Steps -/

theorem mem_slots (s : MtkHnat) (slot : Option NetDev) :
    slot ∈ slots s ↔ slot ∈ globals s ∨ slot ∈ extSlots s ∨ slot ∈ s.wifiHookIf := by
  simp [slots]

theorem inv_init (extDevices : List Name) : Inv (World.init extDevices) := by
  have empty : ∀ slot ∈ slots (MtkHnat.probe extDevices), slot = none := by
    intro slot member
    simp only [mem_slots, mem_globals, extSlots, MtkHnat.probe, List.mem_map,
      List.mem_replicate] at member
    grind
  have free : ∀ entry ∈ (MtkHnat.probe extDevices).extIf, entry.dev = none := by
    intro entry member
    exact empty entry.dev ((mem_slots _ _).mpr (Or.inr (Or.inl (List.mem_map_of_mem member))))
  refine ⟨⟨counted_none _ empty, rfl, ?_, ?_, ?_⟩, fun _ gone => (nomatch gone), ?_,
    fun _ known => (nomatch known)⟩
  · intro entry member dev held
    rw [free entry member] at held
    cases held
  · exact List.pairwise_of_forall_mem_list fun _ _ later member some =>
      absurd (free later member) some
  · intro dev
    simp [World.init, MtkHnat.probe, List.count_replicate]
  · intro dev member
    obtain ⟨entry, listed, held⟩ := List.mem_map.mp member
    rw [free entry listed] at held
    cases held

theorem step_inv (names : Names) (w : World) (event : Event) (inv : Inv w)
    (lawful : DownFirst w event) (ok : StepOk names w event) : Inv (step names w event) := by
  obtain ⟨sound, alive, running, known⟩ := inv
  have aliveGlobals := fun dev gone member =>
    alive dev gone ((mem_slots w.hnat (some dev)).mpr (Or.inl member))
  have aliveExt := fun dev gone member =>
    alive dev gone ((mem_slots w.hnat (some dev)).mpr (Or.inr (Or.inl member)))
  have aliveHook := fun dev gone member =>
    alive dev gone ((mem_slots w.hnat (some dev)).mpr (Or.inr (Or.inr member)))
  cases event with
  | register dev =>
    refine ⟨netdevRegister_sound sound names _ dev, fun other gone member => ?_, running,
      fun other member gone => ?_⟩
    · obtain ⟨wasGone, differs⟩ := List.mem_filter.mp gone
      rcases (mem_slots _ _).mp member with held | ext | hook
      · rcases netdevRegister_globals _ _ _ _ _ held with old | found
        · exact aliveGlobals other wasGone old
        · rcases List.mem_cons.mp found with same | registered
          · simp [same] at differs
          · exact known other registered wasGone
      · exact aliveExt other wasGone ext
      · exact aliveHook other wasGone hook
    · obtain ⟨wasGone, differs⟩ := List.mem_filter.mp gone
      rcases List.mem_cons.mp member with same | registered
      · simp [same] at differs
      · exact known other registered wasGone
  | up dev kzalloc =>
    have effect := extifSetDev_effect sound names kzalloc dev ok.1
    refine ⟨effect.sound, fun other gone member => ?_, fun other member => ?_, known⟩
    · rcases (mem_slots _ _).mp member with held | ext | hook
      · exact aliveGlobals other gone (effect.globals ▸ held)
      · rcases (effect.ext other).mp ext with old | ⟨rfl, fills | adds⟩
        · exact aliveExt other gone old
        · exact (ok.2 gone).1 fills
        · exact (ok.2 gone).2 adds
      · exact aliveHook other gone (effect.hook ▸ hook)
    · rcases (effect.ext other).mp member with old | ⟨rfl, -⟩
      · rcases running other old with hook | up
        · exact Or.inl (effect.hook.symm ▸ hook)
        · exact Or.inr (List.mem_cons_of_mem _ up)
      · exact Or.inr List.mem_cons_self
  | goingDown dev =>
    by_cases hooked : some dev ∈ w.hnat.wifiHookIf
    · have same : netdevGoingDown dev w.hnat = w.hnat := by
        rw [netdevGoingDown, getWifiHookIf, if_pos (by simpa using hooked)]
      simp only [step, same]
      refine ⟨sound, alive, fun other member => ?_, known⟩
      rcases running other member with hook | up
      · exact Or.inl hook
      · by_cases isDev : other = dev
        · exact Or.inl (isDev ▸ hooked)
        · exact Or.inr (List.mem_filter.mpr ⟨up, by simpa using isDev⟩)
    · have put : netdevGoingDown dev w.hnat = extifPutDev dev w.hnat := by
        rw [netdevGoingDown, getWifiHookIf, if_neg (by simpa using hooked)]
      have effect := extifPutDev_effect sound dev
      simp only [step, put]
      refine ⟨effect.sound, fun other gone member => ?_, fun other member => ?_, known⟩
      · rcases (mem_slots _ _).mp member with held | ext | hook
        · exact aliveGlobals other gone (effect.globals ▸ held)
        · exact aliveExt other gone ((effect.ext other).mp ext).1
        · exact aliveHook other gone (effect.hook ▸ hook)
      · obtain ⟨old, differs⟩ := (effect.ext other).mp member
        rcases running other old with hook | up
        · exact Or.inl (effect.hook.symm ▸ hook)
        · exact Or.inr (List.mem_filter.mpr ⟨up, by simpa using differs⟩)
  | unregister dev =>
    refine ⟨netdevUnregister_sound sound dev, fun other gone member => ?_, running,
      fun other member gone => ?_⟩
    · rcases (mem_slots _ _).mp member with held | ext | hook
      · obtain ⟨old, differs⟩ := (netdevUnregister_globals dev w.hnat other).mp held
        exact aliveGlobals other ((List.mem_cons.mp gone).resolve_left differs) old
      · rcases List.mem_cons.mp gone with rfl | wasGone
        · rcases running other ext with hook | up
          · exact ok hook
          · exact lawful up
        · exact aliveExt other wasGone ext
      · rcases List.mem_cons.mp gone with rfl | wasGone
        · exact ok hook
        · exact aliveHook other wasGone hook
    · obtain ⟨registered, differs⟩ := List.mem_filter.mp member
      rcases List.mem_cons.mp gone with same | wasGone
      · simp [same] at differs
      · exact known other registered wasGone
  | registerHook dev kzalloc =>
    have effect := mtkPpeDevRegisterHook_effect sound names kzalloc dev
    refine ⟨effect.sound, fun other gone member => ?_, fun other member => ?_, known⟩
    · rcases (mem_slots _ _).mp member with held | ext | hook
      · exact aliveGlobals other gone (effect.globals ▸ held)
      · rcases (effect.ext other).mp ext with old | ⟨rfl, takes, -⟩
        · exact aliveExt other gone old
        · exact ok gone takes
      · rcases (effect.hook other).mp hook with old | ⟨rfl, takes⟩
        · exact aliveHook other gone old
        · exact ok gone takes
    · rcases (effect.ext other).mp member with old | ⟨rfl, takes, -⟩
      · exact (running other old).imp_left fun hook => (effect.hook other).mpr (Or.inl hook)
      · exact Or.inl ((effect.hook other).mpr (Or.inr ⟨rfl, takes⟩))
  | unregisterHook dev =>
    have effect := mtkPpeDevUnregisterHook_effect sound dev
    refine ⟨effect.sound, fun other gone member => ?_, fun other member => ?_, known⟩
    · rcases (mem_slots _ _).mp member with held | ext | hook
      · exact aliveGlobals other gone (effect.globals ▸ held)
      · exact aliveExt other gone ((effect.ext other).mp ext).1
      · exact aliveHook other gone ((effect.hook other).mp hook).1
    · obtain ⟨old, differs⟩ := (effect.ext other).mp member
      exact (running other old).imp_left fun hook => (effect.hook other).mpr ⟨hook, differs⟩

theorem step_lost (names : Names) (w : World) (event : Event) (inv : Inv w)
    (bad : ¬ StepOk names w event) : ¬ Referenced (step names w event) := by
  obtain ⟨sound, alive, running, known⟩ := inv
  intro referenced
  cases event with
  | up dev kzalloc =>
    apply bad
    have room : AddsEntry names kzalloc dev w.hnat → w.hnat.extIf.length < MAX_EXT_DEVS := by
      intro adds
      by_contra full
      have absent : (w.hnat.extIf.find? fun entry => entry.name = dev.name) = none := by
        simpa [findExtifFromDevname] using adds.1
      have stray : (step names w (.up dev kzalloc)).hnat.strays =
          ⟨dev.name.take (IFNAMSIZ - 1), some dev⟩ :: w.hnat.strays := by
        simp only [step, extifSetDev, absent, adds.2.1, adds.2.2.1, adds.2.2.2, Bool.not_false,
          Bool.and_self, if_true, extIfAdd, if_neg full]
      have lost := referenced.listed ⟨dev.name.take (IFNAMSIZ - 1), some dev⟩ (by simp [stray])
      cases lost
    have effect := extifSetDev_effect sound names kzalloc dev room
    refine ⟨room, fun gone => ⟨fun fills => ?_, fun adds => ?_⟩⟩
    · exact referenced.alive dev gone ((mem_slots _ _).mpr
        (Or.inr (Or.inl ((effect.ext dev).mpr (Or.inr ⟨rfl, Or.inl fills⟩)))))
    · exact referenced.alive dev gone ((mem_slots _ _).mpr
        (Or.inr (Or.inl ((effect.ext dev).mpr (Or.inr ⟨rfl, Or.inr adds⟩)))))
  | registerHook dev kzalloc =>
    have effect := mtkPpeDevRegisterHook_effect sound names kzalloc dev
    refine bad fun gone takes => referenced.alive dev gone ((mem_slots _ _).mpr ?_)
    exact Or.inr (Or.inr ((effect.hook dev).mpr (Or.inr ⟨rfl, takes⟩)))
  | unregister dev =>
    refine bad fun hooked => ?_
    exact referenced.alive dev List.mem_cons_self
      ((mem_slots _ _).mpr (Or.inr (Or.inr hooked)))
  | register dev => exact bad trivial
  | goingDown dev => exact bad trivial
  | unregisterHook dev => exact bad trivial

theorem referenced_of_inv (w : World) (inv : Inv w) : Referenced w := by
  refine ⟨inv.sound.counted, fun entry member => ?_, inv.alive⟩
  rw [inv.sound.listed] at member
  cases member

/-- In every run in which devices go down before they are unregistered, references
and slots agree in all states exactly when every step meets the condition. -/
theorem referenced_iff_steps_ok (names : Names) (extDevices : List Name) (events : List Event)
    (lawful : Along (step names) DownFirst (World.init extDevices) events) :
    (∀ n, Referenced (run (step names) (World.init extDevices) (events.take n))) ↔
      Along (step names) (StepOk names) (World.init extDevices) events :=
  always_iff_along_within (step names) DownFirst (StepOk names) Inv Referenced referenced_of_inv
    (step_inv names) (fun w event inv _ bad => step_lost names w event inv bad) _ events
    (inv_init extDevices) lawful

def ra0 : NetDev := ⟨1, ['r', 'a', '0'], 7, false, by decide⟩
def raNames : Names := ⟨['e', 't', 'h', '0'], ['w', 'a', 'n'], ['r', 'x', 'p', 'p', 'd'], [['r', 'a']]⟩

def ra0Run : List Event :=
  [.register ra0, .up ra0 true, .registerHook ra0 true, .goingDown ra0, .unregisterHook ra0,
    .unregister ra0]

theorem referenced_iff_steps_ok_ra0 :
    Referenced (run (step raNames) (World.init []) (ra0Run.take 6)) := by
  have down : ra0 ∉ (run (step raNames) (World.init []) (ra0Run.take 5)).running := by decide
  have unhooked : some ra0 ∉
      (run (step raNames) (World.init []) (ra0Run.take 5)).hnat.wifiHookIf := by decide
  exact (referenced_iff_steps_ok raNames [] ra0Run
    ⟨trivial, trivial, trivial, trivial, trivial, down, trivial⟩).mpr
      ⟨trivial, ⟨fun _ => by decide, fun gone => absurd gone (by decide)⟩,
        fun gone => absurd gone (by decide), trivial, trivial, unhooked, trivial⟩ 6

/-- A device that matches the prefix while the table is full of other names, and a
device that is unregistered with its hook. -/
theorem full_table_and_hooked_device_unreferenced :
    ¬ Referenced (run (step raNames) (World.init (List.replicate MAX_EXT_DEVS ['x']))
        [.register ra0, .up ra0 true]) ∧
      ¬ Referenced (run (step raNames) (World.init [])
        [.register ra0, .registerHook ra0 true, .unregister ra0]) := by
  constructor
  · intro referenced
    have lost := referenced.listed ⟨['r', 'a', '0'], some ra0⟩ (by decide)
    cases lost
  · intro referenced
    exact referenced.alive ra0 (by decide) (by decide)

end OpenwrtSource.Hnat.DeviceRefs
