import OpenwrtSource.Reconnect.MainLoop

/-!
# When the retry state is reset

A link counts as stable once it was up for eight ticks in a row, a reload
starting the count anew, and the back-off of the profile has run out.  Only
then the failure counter and the time of the next attempt go back to zero.
-/

namespace OpenwrtSource.Reconnect.Stability

open Lib.Run
open Reconnect.Config Reconnect.MainLoop

/-- The reload reads the configuration; one without a context leaves all as it is. -/
def Reload.Loads : Reload → Prop
  | .load _ => True
  | _ => False

/-- The ticks end with `n` ticks that found slot `i` connected, with no reload after the first of
them had begun to poll. -/
def EndsConnected (i n : Nat) (ticks : List Tick) : Prop :=
  ∃ earlier last, ticks = earlier ++ last ∧ last.length = n ∧
    (∀ tick ∈ last, tick.link i = true) ∧ ∀ tick ∈ last.tail, ¬ Reload.Loads tick.reload

/-- A poll, or a reload, takes back the failure counter or the time of the next attempt. -/
def Resets (before after : StaInterface) : Prop :=
  after.failCount < before.failCount ∨ after.nextTry < before.nextTry

structure Confirmed (i : Nat) (ticks : List Tick) (now : Int) (before after : StaInterface) :
    Prop where
  stable : ∃ n, 8 ≤ n ∧ EndsConnected i n ticks
  due : before.nextTry ≤ now
  failCount : after.failCount = 0
  nextTry : after.nextTry = 0

def OneStreak (iface : StaInterface) : Prop :=
  iface.connectedStreak = 0 ∨ iface.disconnStreak = 0

theorem endsConnected_zero (i : Nat) (ticks : List Tick) : EndsConnected i 0 ticks :=
  ⟨ticks, [], (List.append_nil ticks).symm, rfl, by simp, by simp⟩

variable {i : Nat} {ticks : List Tick} {d : Daemon}

theorem EndsConnected.concat {n : Nat} {tick : Tick} (streak : EndsConnected i n ticks)
    (connected : tick.link i = true) (begins : n = 0 ∨ ¬ Reload.Loads tick.reload) :
    EndsConnected i (n + 1) (ticks ++ [tick]) := by
  obtain ⟨earlier, last, rfl, rfl, linked, undisturbed⟩ := streak
  refine ⟨earlier, last ++ [tick], List.append_assoc .., ?_, ?_, ?_⟩
  · rw [List.length_append, List.length_singleton]
  · intro other member
    rcases List.mem_append.mp member with old | new
    · exact linked other old
    · rw [List.mem_singleton.mp new]
      exact connected
  · intro other member
    cases last with
    | nil => exact absurd member (by simp)
    | cons first rest =>
      rw [List.cons_append, List.tail_cons] at member
      rcases List.mem_append.mp member with old | new
      · exact undisturbed other old
      · rw [List.mem_singleton.mp new]
        exact begins.resolve_left (by simp)

section

variable (iface : StaInterface) (now : Int) (conn : Bool) (rand : Nat)

theorem poll_connectedStreak :
    (poll iface now conn rand).1.connectedStreak =
      if conn then iface.connectedStreak + 1 else 0 := by
  cases conn with
  | true =>
    simp only [poll, if_true]
    split <;> rfl
  | false =>
    simp only [poll, Bool.false_eq_true, if_false]
    split <;> rfl

theorem poll_oneStreak : OneStreak (poll iface now conn rand).1 := by
  cases conn with
  | true =>
    right
    simp only [poll, if_true]
    split <;> rfl
  | false =>
    left
    rw [poll_connectedStreak]
    rfl

theorem poll_resets (resets : Resets iface (poll iface now conn rand).1) :
    conn = true ∧ 8 ≤ iface.connectedStreak + 1 ∧ iface.nextTry ≤ now ∧
      (poll iface now conn rand).1.failCount = 0 ∧ (poll iface now conn rand).1.nextTry = 0 := by
  unfold Resets at resets
  cases conn with
  | true =>
    simp only [poll, if_true] at resets ⊢
    split at resets
    · rename_i stable
      rw [if_pos stable]
      exact ⟨trivial, stable.1, stable.2, rfl, rfl⟩
    · simp at resets
  | false =>
    simp only [poll, Bool.false_eq_true, if_false] at resets
    split at resets
    · rename_i due
      have cooldown := nextCooldown_nonneg (iface.failCount + 1)
      simp only [doConnectTransaction, recordFailure] at resets due
      omega
    · simp at resets

end

section

variable (tick : Tick) (d : Daemon)

theorem pollAt_slot (i j : Nat) :
    (d.pollAt tick j).ifaces[i]? = d.ifaces[i]?.map fun iface =>
      if i = j then (poll iface tick.now (tick.link i) (tick.rand i)).1 else iface := by
  unfold Daemon.pollAt
  by_cases same : i = j
  · rw [same]
    cases found : d.ifaces[j]? with
    | none => simp [found]
    | some iface =>
      have inside := (List.getElem?_eq_some_iff.mp found).1
      simp [List.getElem?_set_self inside]
  · simp only [if_neg same, Option.map_id']
    cases found : d.ifaces[j]? with
    | none => rfl
    | some iface => exact List.getElem?_set_ne (Ne.symm same)

theorem polls_slot (k i : Nat) :
    ((List.range k).foldl (Daemon.pollAt tick) d).ifaces[i]? = d.ifaces[i]?.map fun iface =>
      if i < k then (poll iface tick.now (tick.link i) (tick.rand i)).1 else iface := by
  induction k with
  | zero => simp
  | succ k ih =>
    rw [List.range_succ, List.foldl_append, List.foldl_cons, List.foldl_nil, pollAt_slot, ih,
      Option.map_map]
    congr 1
    funext iface
    simp only [Function.comp_apply]
    by_cases here : i = k
    · rw [if_pos here, if_neg (by omega), if_pos (by omega)]
    · rw [if_neg here]
      by_cases before : i < k
      · rw [if_pos before, if_pos (by omega)]
      · rw [if_neg before, if_neg (by omega)]

theorem tick_slot (i : Nat) :
    (d.tick tick).ifaces[i]? = (d.reload tick.now tick.reload).ifaces[i]?.map fun iface =>
      (poll iface tick.now (tick.link i) (tick.rand i)).1 := by
  unfold Daemon.tick
  rw [polls_slot]
  cases found : (d.reload tick.now tick.reload).ifaces[i]? with
  | none => rfl
  | some iface =>
    have inside := (List.getElem?_eq_some_iff.mp found).1
    simp [inside]

variable {reload : Reload}

theorem reload_unloaded (now : Int) (keeps : ¬ Reload.Loads reload) : d.reload now reload = d := by
  cases reload with
  | idle => rfl
  | noContext => rfl
  | load answer => exact absurd trivial keeps

theorem reload_streaks (now : Int) (loads : Reload.Loads reload) :
    ∀ iface ∈ (d.reload now reload).ifaces,
      iface.connectedStreak = 0 ∧ iface.disconnStreak = 0 := by
  intro iface member
  cases reload with
  | idle => exact loads.elim
  | noContext => exact loads.elim
  | load answer =>
    obtain ⟨i, bound, rfl⟩ := List.mem_mapIdx.mp member
    exact ⟨rfl, rfl⟩

theorem reload_keeps (now : Int) (reload : Reload) {iface : StaInterface}
    (member : iface ∈ (d.reload now reload).ifaces) (known : iface.pair ∈ d.ifaces.map (·.pair)) :
    ∃ prior ∈ d.ifaces, prior.pair = iface.pair ∧ ¬ Resets prior iface := by
  have unchanged : ∀ same : StaInterface, ¬ Resets same same := by
    intro same resets
    unfold Resets at resets
    omega
  cases reload with
  | idle => exact ⟨iface, member, rfl, unchanged iface⟩
  | noContext => exact ⟨iface, member, rfl, unchanged iface⟩
  | load answer =>
    obtain ⟨i, bound, rfl⟩ := List.mem_mapIdx.mp member
    have listed := List.getElem_mem bound
    have named := Backoff.loadStaConfigs_named answer d.ifaces _ listed
    generalize (loadStaConfigs answer d.ifaces)[i] = fresh at listed named known ⊢
    have later := le_reschedule_nextTry now i fresh
    cases answer with
    | none =>
      refine ⟨fresh, List.mem_of_mem_filter listed, rfl, ?_⟩
      simp only [Resets, reschedule] at later ⊢
      omega
    | some pkg =>
      simp only [loadStaConfigs, List.mem_map] at listed
      obtain ⟨profile, -, rfl⟩ := listed
      rw [reschedule_pair, restore_pair] at known
      rw [restore_ssid] at named
      obtain ⟨old, inTable, samePair⟩ := List.mem_map.mp known
      have sameSsid : old.ssid = profile.ssid := congrArg Prod.snd samePair
      have backedUp : profile.pair ∈ (d.ifaces.filter fun iface => iface.ssid ≠ []).map
          (·.pair) := by
        refine List.mem_map.mpr ⟨old, List.mem_filter.mpr ⟨inTable, ?_⟩, samePair⟩
        rw [sameSsid]
        exact decide_eq_true named
      obtain ⟨prior, among, same, sameTry, sameCount⟩ := restore_spec backedUp
      refine ⟨prior, List.mem_of_mem_filter among, ?_, ?_⟩
      · rw [reschedule_pair, restore_pair]
        exact same
      · simp only [Resets, reschedule] at later ⊢
        omega

end

/-- The streak of every slot is made of the last ticks, and at most one streak is running. -/
structure Inv (ticks : List Tick) (d : Daemon) : Prop where
  streak : ∀ i iface, d.ifaces[i]? = some iface → EndsConnected i iface.connectedStreak ticks
  one : ∀ iface ∈ d.ifaces, OneStreak iface

theorem inv_start (answer : Option UciPackage) (monoNow : Nat → Int) :
    Inv [] (Daemon.start answer monoNow) := by
  have fresh : ∀ iface ∈ loadStaConfigs answer [],
      iface.connectedStreak = 0 ∧ iface.disconnStreak = 0 := by
    intro iface member
    cases answer with
    | none => exact absurd member (by simp [loadStaConfigs])
    | some pkg =>
      simp only [loadStaConfigs, List.mem_map] at member
      obtain ⟨profile, listed, rfl⟩ := member
      have zero : ∀ profile ∈ profilesOf pkg,
          profile.connectedStreak = 0 ∧ profile.disconnStreak = 0 := by
        apply profilesOf_all
        intro s dev ssid given
        exact ⟨rfl, rfl⟩
      -- nothing was there to restore
      exact zero profile listed
  have start : ∀ iface ∈ (Daemon.start answer monoNow).ifaces,
      iface.connectedStreak = 0 ∧ iface.disconnStreak = 0 := by
    intro iface member
    obtain ⟨i, bound, rfl⟩ := List.mem_mapIdx.mp member
    have counters := fresh _ (List.getElem_mem bound)
    exact counters
  refine ⟨?_, ?_⟩
  · intro i iface found
    rw [(start iface (List.mem_of_getElem? found)).1]
    exact endsConnected_zero i []
  · intro iface member
    exact Or.inl (start iface member).1

theorem reload_inv (inv : Inv ticks d) (now : Int) (reload : Reload) :
    (∀ i iface, (d.reload now reload).ifaces[i]? = some iface →
      EndsConnected i iface.connectedStreak ticks ∧
        (iface.connectedStreak = 0 ∨ ¬ Reload.Loads reload)) ∧
      ∀ iface ∈ (d.reload now reload).ifaces, OneStreak iface := by
  by_cases loads : Reload.Loads reload
  · have none_runs := reload_streaks d now loads
    constructor
    · intro i iface found
      have stopped := (none_runs iface (List.mem_of_getElem? found)).1
      rw [stopped]
      exact ⟨endsConnected_zero i ticks, Or.inl rfl⟩
    · intro iface member
      exact Or.inl (none_runs iface member).1
  · rw [reload_unloaded d now loads]
    exact ⟨fun i iface found => ⟨inv.streak i iface found, Or.inr loads⟩, inv.one⟩

theorem polls_one (tick : Tick) (d : Daemon) (one : ∀ iface ∈ d.ifaces, OneStreak iface)
    (k : Nat) : ∀ iface ∈ ((List.range k).foldl (Daemon.pollAt tick) d).ifaces,
      OneStreak iface := by
  intro iface member
  obtain ⟨i, found⟩ := List.mem_iff_getElem?.mp member
  rw [polls_slot, Option.map_eq_some_iff] at found
  obtain ⟨before, there, rfl⟩ := found
  split
  · exact poll_oneStreak before _ _ _
  · exact one before (List.mem_of_getElem? there)

theorem inv_tick (inv : Inv ticks d) (tick : Tick) : Inv (ticks ++ [tick]) (d.tick tick) := by
  obtain ⟨streaks, one⟩ := reload_inv inv tick.now tick.reload
  refine ⟨?_, polls_one tick _ one _⟩
  intro i after found
  rw [tick_slot, Option.map_eq_some_iff] at found
  obtain ⟨iface, there, rfl⟩ := found
  obtain ⟨streak, begins⟩ := streaks i iface there
  rw [poll_connectedStreak]
  split
  · rename_i connected
    exact streak.concat connected begins
  · exact endsConnected_zero i _

theorem inv_run (answer : Option UciPackage) (monoNow : Nat → Int) (ticks : List Tick) :
    Inv ticks (run Daemon.tick (Daemon.start answer monoNow) ticks) := by
  induction ticks using List.reverseRecOn with
  | nil => exact inv_start answer monoNow
  | append_singleton ticks tick ih =>
    rw [run_append]
    exact inv_tick ih tick

theorem tick_confirmed (inv : Inv ticks d) (tick : Tick) {before after : StaInterface}
    (there : (d.reload tick.now tick.reload).ifaces[i]? = some before)
    (found : (d.tick tick).ifaces[i]? = some after) (resets : Resets before after) :
    Confirmed i (ticks ++ [tick]) tick.now before after := by
  rw [tick_slot, there, Option.map_some, Option.some.injEq] at found
  rw [← found] at resets
  obtain ⟨connected, stable, due, failCount, nextTry⟩ := poll_resets _ _ _ _ resets
  obtain ⟨streak, begins⟩ := (reload_inv inv tick.now tick.reload).1 i before there
  rw [found] at failCount nextTry
  exact ⟨⟨_, stable, streak.concat connected begins⟩, due, failCount, nextTry⟩

def upAt (now : Int) : Tick :=
  { now := now, reload := .idle, link := fun _ => true, rand := fun _ => 0 }

/-- The profile of `homeWifi` while its first attempt is not due before 5. -/
def homeIface (nextTry : Int) (connectedStreak : Nat) : StaInterface :=
  { ifname := Backoff.homePair.1
    parent := ra0
    ssid := Backoff.homePair.2
    key := []
    auth := ['W', 'P', 'A', '2', 'P', 'S', 'K']
    enc := ['A', 'E', 'S']
    nextTry
    failCount := 0
    disconnStreak := 0
    connectedStreak
    lastConnected := true }

end OpenwrtSource.Reconnect.Stability
