import Mathlib.Algebra.Group.Int.Defs
import OpenwrtSource.Lib.History
import OpenwrtSource.Lib.Run
import OpenwrtSource.Reconnect.Config

/-!
# The main loop of mtkreconnect

One tick handles a pending SIGHUP and then polls the profiles in order.  All of
a tick runs on the clock that it read at its start.  `log` is a history of what
the loop did: the reloads, the confirmed links and the connect transactions.
-/

namespace OpenwrtSource.Reconnect.MainLoop

open Reconnect.Config

def reconnectCooldown : Int := 45
def maxBackoffShift : Int := 4
def reconnectJitter : Nat := 5
def connectConfirmTicks : Nat := 8

/-- What a connect transaction asks of the driver.  A command that fails is
counted for a message and changes nothing. -/
inductive Command where
  | setIfUp (ifname : Text)
  | apCliEnable (on : Bool)
  | apCliAuthMode (auth : Text)
  | apCliEncrypType (enc : Text)
  | apCliWpaPsk (key : Text)
  | apCliSsid (ssid : Text)
  | apCliAutoConnect
  deriving DecidableEq

/-- A connect transaction; `failCount` is the counter that it leaves. -/
structure Transaction where
  pair : Pair
  now : Int
  failCount : Int
  commands : List Command
  deriving DecidableEq

inductive Record where
  | reloaded (pairs : List Pair)
  | confirmed (pair : Pair)
  | transaction (done : Transaction)
  deriving DecidableEq

structure Daemon where
  ifaces : List StaInterface
  log : List Record
  deriving DecidableEq

def nextCooldown (failCount : Int) : Int :=
  let shift := failCount - 1
  let shift := if shift < 0 then 0 else shift
  let shift := if shift > maxBackoffShift then maxBackoffShift else shift
  reconnectCooldown * 2 ^ shift.toNat

def recordFailure (iface : StaInterface) (now : Int) (rand : Nat) : StaInterface :=
  { iface with
    failCount := iface.failCount + 1
    nextTry := now + nextCooldown (iface.failCount + 1) + (rand % reconnectJitter : Nat) }

def connectCommands (iface : StaInterface) : List Command :=
  [.setIfUp iface.parent, .setIfUp iface.ifname] ++
    (if iface.failCount ≥ 1 then [.apCliEnable false] else []) ++
    [.apCliAuthMode iface.auth, .apCliEncrypType iface.enc] ++
    (if iface.key.length > 0 then [.apCliWpaPsk iface.key] else []) ++
    [.apCliSsid iface.ssid, .apCliAutoConnect, .apCliEnable true]

def doConnectTransaction (iface : StaInterface) (now : Int) (rand : Nat) :
    StaInterface × List Record :=
  let after := recordFailure iface now rand
  (after, [.transaction ⟨iface.pair, now, after.failCount, connectCommands iface⟩])

/-- One turn of the polling loop, for a profile whose link is up or down. -/
def poll (iface : StaInterface) (now : Int) (conn : Bool) (rand : Nat) :
    StaInterface × List Record :=
  let iface := { iface with lastConnected := conn }
  if conn then
    let iface := { iface with connectedStreak := iface.connectedStreak + 1 }
    if iface.connectedStreak ≥ connectConfirmTicks ∧ now ≥ iface.nextTry then
      ({ iface with nextTry := 0, failCount := 0, disconnStreak := 0 },
        [.confirmed iface.pair])
    else
      ({ iface with disconnStreak := 0 }, [])
  else
    let iface :=
      { iface with connectedStreak := 0, disconnStreak := iface.disconnStreak + 1 }
    if iface.disconnStreak ≥ 2 ∧ now ≥ iface.nextTry then
      let done := doConnectTransaction iface now rand
      ({ done.1 with disconnStreak := 0 }, done.2)
    else
      (iface, [])

inductive Reload where
  | idle
  | noContext
  | load (answer : Option UciPackage)

structure Tick where
  now : Int
  reload : Reload
  /-- the answer of `is_connected` for the profile of each slot -/
  link : Nat → Bool
  rand : Nat → Nat

/-- A profile whose time has come is scheduled anew after a reload. -/
def reschedule (now : Int) (i : Nat) (iface : StaInterface) : StaInterface :=
  { iface with
    nextTry := if now ≥ iface.nextTry then now + 5 + i * 10 else iface.nextTry
    disconnStreak := 0
    connectedStreak := 0 }

def Daemon.reload (d : Daemon) (now : Int) : Reload → Daemon
  | .idle => d
  | .noContext => d
  | .load answer =>
    let ifaces := (loadStaConfigs answer d.ifaces).mapIdx (reschedule now)
    { ifaces := ifaces, log := d.log ++ [.reloaded (ifaces.map (·.pair))] }

def Daemon.pollAt (tick : Tick) (d : Daemon) (i : Nat) : Daemon :=
  match d.ifaces[i]? with
  | none => d
  | some iface =>
    let done := poll iface tick.now (tick.link i) (tick.rand i)
    { ifaces := d.ifaces.set i done.1, log := d.log ++ done.2 }

def Daemon.tick (d : Daemon) (tick : Tick) : Daemon :=
  let d := d.reload tick.now tick.reload
  (List.range d.ifaces.length).foldl (Daemon.pollAt tick) d

/-- The state before the loop; `monoNow i` is the clock when profile `i` is scheduled. -/
def Daemon.start (answer : Option UciPackage) (monoNow : Nat → Int) : Daemon :=
  { ifaces := (loadStaConfigs answer []).mapIdx fun i iface =>
      { iface with nextTry := monoNow i + i * 15 }
    log := [] }

@[simp] theorem reschedule_pair (now : Int) (i : Nat) (iface : StaInterface) :
    (reschedule now i iface).pair = iface.pair := rfl

theorem le_reschedule_nextTry (now : Int) (i : Nat) (iface : StaInterface) :
    iface.nextTry ≤ (reschedule now i iface).nextTry := by
  simp only [reschedule]
  split <;> omega

theorem nextCooldown_nonneg (failCount : Int) : 0 ≤ nextCooldown failCount := by
  have power : (0 : Int) ≤ 2 ^ (if (if failCount - 1 < 0 then 0 else failCount - 1) >
      maxBackoffShift then maxBackoffShift
      else if failCount - 1 < 0 then 0 else failCount - 1).toNat := Int.pow_nonneg (by omega)
  simp only [nextCooldown, reconnectCooldown]
  omega

theorem nextCooldown_eq (failCount : Int) :
    nextCooldown failCount = 45 * 2 ^ (min (failCount - 1) 4).toNat := by
  have shifts : (if (if failCount - 1 < 0 then 0 else failCount - 1) > maxBackoffShift then
      maxBackoffShift else if failCount - 1 < 0 then 0 else failCount - 1).toNat =
      (min (failCount - 1) 4).toNat := by
    simp only [maxBackoffShift]
    split <;> split <;> omega
  simp only [nextCooldown, reconnectCooldown, shifts]

theorem poll_cases (iface : StaInterface) (now : Int) (conn : Bool) (rand : Nat) :
    (poll iface now conn rand).1.pair = iface.pair ∧
      (poll iface now conn rand).1.ssid = iface.ssid ∧
      (((poll iface now conn rand).2 = [] ∧
          (poll iface now conn rand).1.nextTry = iface.nextTry) ∨
        (poll iface now conn rand).2 = [.confirmed iface.pair] ∨
        (iface.nextTry ≤ now ∧
          (∃ commands, (poll iface now conn rand).2 =
            [.transaction ⟨iface.pair, now, iface.failCount + 1, commands⟩]) ∧
          now + nextCooldown (iface.failCount + 1) ≤ (poll iface now conn rand).1.nextTry)) := by
  cases conn with
  | true =>
    simp only [poll, if_true]
    split
    · exact ⟨rfl, rfl, .inr (.inl rfl)⟩
    · exact ⟨rfl, rfl, .inl ⟨rfl, rfl⟩⟩
  | false =>
    simp only [poll, Bool.false_eq_true, if_false]
    split
    · rename_i due
      refine ⟨rfl, rfl, .inr (.inr ⟨due.2, ⟨_, rfl⟩, ?_⟩)⟩
      simp only [doConnectTransaction, recordFailure]
      omega
    · exact ⟨rfl, rfl, .inl ⟨rfl, rfl⟩⟩

end OpenwrtSource.Reconnect.MainLoop

/-!
# The back-off between connect transactions

A transaction stays open for its profile until the link is confirmed or a
reload loses the profile.  While it is open, the profile is in the table and
its next attempt is not due before the cooldown of that transaction has passed:
reloads hand the time on and later transactions only move it forward.
-/

namespace OpenwrtSource.Reconnect.Backoff

open Lib.History Lib.Run
open Reconnect.Config Reconnect.MainLoop

/-- The record neither resets the counter of the profile nor drops the profile. -/
def Undisturbed (pair : Pair) : Record → Prop
  | .reloaded pairs => pair ∈ pairs
  | .confirmed other => other ≠ pair
  | .transaction _ => True

/-- The profile is in the table and waits for at least the cooldown of `done`. -/
def Waits (ifaces : List StaInterface) (done : Transaction) : Prop :=
  done.pair ∈ ifaces.map (·.pair) ∧
    ∀ iface ∈ ifaces, iface.pair = done.pair →
      done.now + nextCooldown done.failCount ≤ iface.nextTry

structure Inv (d : Daemon) : Prop where
  named : ∀ iface ∈ d.ifaces, iface.ssid ≠ []
  once : (d.ifaces.map (·.pair)).Nodup
  waits : ∀ done, Open (Undisturbed done.pair) d.log (.transaction done) → Waits d.ifaces done
  spaced : ∀ first second,
    Followed (Undisturbed first.pair) d.log (.transaction first) (.transaction second) →
      first.pair = second.pair → first.now + nextCooldown first.failCount ≤ second.now

def Reload.ListsOnce : Reload → Prop
  | .load (some pkg) => Config.ListsOnce pkg
  | _ => True

theorem loadStaConfigs_named (answer : Option UciPackage) (list : List StaInterface) :
    ∀ iface ∈ loadStaConfigs answer list, iface.ssid ≠ [] := by
  intro iface member
  cases answer with
  | none => simpa using (List.mem_filter.mp member).2
  | some pkg =>
    simp only [loadStaConfigs, List.mem_map] at member
    obtain ⟨fresh, listed, rfl⟩ := member
    rw [restore_ssid]
    exact profilesOf_ssid_ne_nil pkg fresh listed

variable {list : List StaInterface} {d : Daemon}

theorem filter_named (named : ∀ iface ∈ list, iface.ssid ≠ []) :
    (list.filter fun iface => iface.ssid ≠ []) = list := by
  rw [List.filter_eq_self]
  intro iface member
  simpa using named iface member

theorem loadStaConfigs_once {answer : Option UciPackage} (named : ∀ iface ∈ list, iface.ssid ≠ [])
    (once : (list.map (·.pair)).Nodup) (listed : Reload.ListsOnce (.load answer)) :
    ((loadStaConfigs answer list).map (·.pair)).Nodup := by
  cases answer with
  | none => simpa only [loadStaConfigs, filter_named named] using once
  | some pkg =>
    have same : (loadStaConfigs (some pkg) list).map (·.pair) =
        (profilesOf pkg).map (·.pair) := by
      simp [loadStaConfigs, Function.comp_def]
    rw [same]
    exact listed

theorem loadStaConfigs_waits {answer : Option UciPackage} {done : Transaction}
    (named : ∀ iface ∈ list, iface.ssid ≠ []) (before : Waits list done)
    (present : done.pair ∈ (loadStaConfigs answer list).map (·.pair)) :
    Waits (loadStaConfigs answer list) done := by
  refine ⟨present, ?_⟩
  intro iface member same
  cases answer with
  | none =>
    simp only [loadStaConfigs, filter_named named] at member
    exact before.2 iface member same
  | some pkg =>
    simp only [loadStaConfigs, filter_named named, List.mem_map] at member
    obtain ⟨fresh, -, rfl⟩ := member
    rw [restore_pair] at same
    have known : fresh.pair ∈ list.map (·.pair) := same ▸ before.1
    obtain ⟨prior, priorMember, priorPair, kept, -⟩ := restore_spec known
    rw [kept]
    exact before.2 prior priorMember (priorPair.trans same)

@[simp] theorem map_pair_reschedule (now : Int) (list : List StaInterface) :
    (list.mapIdx (reschedule now)).map (·.pair) = list.map (·.pair) := by
  apply List.ext_getElem
  · simp
  · intro i left right
    simp

theorem reschedule_waits {done : Transaction} (now : Int) (before : Waits list done) :
    Waits (list.mapIdx (reschedule now)) done := by
  refine ⟨by simpa using before.1, ?_⟩
  intro iface member same
  obtain ⟨i, bound, rfl⟩ := List.mem_mapIdx.mp member
  rw [reschedule_pair] at same
  exact Int.le_trans (before.2 _ (List.getElem_mem bound) same) (le_reschedule_nextTry now i _)

theorem inv_reload {reload : Reload} (inv : Inv d) (now : Int) (listed : Reload.ListsOnce reload) :
    Inv (d.reload now reload) := by
  cases reload with
  | idle => exact inv
  | noContext => exact inv
  | load answer =>
    refine ⟨?_, ?_, ?_, ?_⟩
    · intro iface member
      obtain ⟨i, bound, rfl⟩ := List.mem_mapIdx.mp member
      have named := loadStaConfigs_named answer d.ifaces _ (List.getElem_mem bound)
      exact named
    · simp only [Daemon.reload, map_pair_reschedule]
      exact loadStaConfigs_once inv.named inv.once listed
    · intro done stillOpen
      simp only [Daemon.reload, open_concat, reduceCtorEq, false_or, Undisturbed,
        map_pair_reschedule] at stillOpen
      have waits := inv.waits done stillOpen.1
      exact reschedule_waits now (loadStaConfigs_waits inv.named waits stillOpen.2)
    · intro first second followed same
      simp only [Daemon.reload, followed_concat, reduceCtorEq, false_and, or_false] at followed
      exact inv.spaced first second followed same

theorem map_pair_set {i : Nat} {iface after : StaInterface} (found : list[i]? = some iface)
    (same : after.pair = iface.pair) : (list.set i after).map (·.pair) = list.map (·.pair) := by
  rw [List.map_set, same]
  apply List.ext_getElem?
  intro j
  rw [List.getElem?_set]
  split
  · rename_i eq
    subst eq
    simp only [List.length_map, List.getElem?_map, found, Option.map_some]
    split
    · rfl
    · rename_i out
      simp [List.getElem?_eq_none (by omega : list.length ≤ i)] at found
  · rfl

theorem mem_set_cases {i : Nat} {iface after other : StaInterface}
    (once : (list.map (·.pair)).Nodup) (found : list[i]? = some iface)
    (member : other ∈ list.set i after) :
    other = after ∨ (other ∈ list ∧ other.pair ≠ iface.pair) := by
  obtain ⟨j, atJ⟩ := List.mem_iff_getElem?.mp member
  rw [List.getElem?_set] at atJ
  split at atJ
  · split at atJ
    · exact .inl (Option.some.inj atJ).symm
    · cases atJ
  · rename_i apart
    refine .inr ⟨List.mem_iff_getElem?.mpr ⟨j, atJ⟩, ?_⟩
    intro same
    apply apart
    have bound : i < (list.map (·.pair)).length := by
      rw [List.length_map]
      exact (List.getElem?_eq_some_iff.mp found).1
    refine (List.getElem?_inj bound once).mp ?_
    simp only [List.getElem?_map, found, atJ, Option.map_some, same]

theorem inv_pollAt (tick : Tick) (i : Nat) (inv : Inv d) : Inv (d.pollAt tick i) := by
  unfold Daemon.pollAt
  split
  · exact inv
  · rename_i iface found
    obtain ⟨samePair, sameSsid, outcome⟩ := poll_cases iface tick.now (tick.link i) (tick.rand i)
    generalize poll iface tick.now (tick.link i) (tick.rand i) = done at *
    have member := List.mem_of_getElem? found
    have pairs := map_pair_set found samePair
    have named : ∀ other ∈ d.ifaces.set i done.1, other.ssid ≠ [] := by
      intro other mem
      rcases mem_set_cases inv.once found mem with rfl | ⟨old, -⟩
      · exact sameSsid ▸ inv.named iface member
      · exact inv.named other old
    have once : ((d.ifaces.set i done.1).map (·.pair)).Nodup := pairs ▸ inv.once
    -- the wait of a transaction of another profile is not touched
    have others : ∀ past, Waits d.ifaces past →
        (past.pair = iface.pair → past.now + nextCooldown past.failCount ≤ done.1.nextTry) →
          Waits (d.ifaces.set i done.1) past := by
      intro past waits own
      refine ⟨pairs ▸ waits.1, ?_⟩
      intro other mem same
      rcases mem_set_cases inv.once found mem with rfl | ⟨old, -⟩
      · exact own (by rw [← same, samePair])
      · exact waits.2 other old same
    rcases outcome with ⟨silent, kept⟩ | confirms | ⟨due, ⟨commands, connects⟩, later⟩
    · simp only [silent, List.append_nil]
      refine ⟨named, once, ?_, inv.spaced⟩
      intro past stillOpen
      have waits := inv.waits past stillOpen
      refine others past waits ?_
      intro same
      rw [kept]
      exact waits.2 iface member same.symm
    · simp only [confirms]
      refine ⟨named, once, ?_, ?_⟩
      · intro past stillOpen
        simp only [open_concat, reduceCtorEq, false_or, Undisturbed] at stillOpen
        refine others past (inv.waits past stillOpen.1) ?_
        intro same
        exact absurd same.symm stillOpen.2
      · intro first second followed same
        simp only [followed_concat, reduceCtorEq, false_and, or_false] at followed
        exact inv.spaced first second followed same
    · simp only [connects]
      refine ⟨named, once, ?_, ?_⟩
      · intro past stillOpen
        rw [open_concat] at stillOpen
        rcases stillOpen with new | ⟨old, -⟩
        · cases new
          refine ⟨pairs ▸ List.mem_map_of_mem member, ?_⟩
          intro other mem same
          rcases mem_set_cases inv.once found mem with rfl | ⟨-, apart⟩
          · exact later
          · exact absurd same apart
        · have waits := inv.waits past old
          refine others past waits ?_
          intro same
          have before := waits.2 iface member same.symm
          have grows := nextCooldown_nonneg (iface.failCount + 1)
          omega
      · intro first second followed same
        rw [followed_concat] at followed
        rcases followed with old | ⟨new, opened⟩
        · exact inv.spaced first second old same
        · cases new
          exact Int.le_trans ((inv.waits first opened).2 iface member same.symm) due

theorem inv_tick (tick : Tick) (inv : Inv d) (listed : Reload.ListsOnce tick.reload) :
    Inv (d.tick tick) := by
  have polls : ∀ (slots : List Nat) (d : Daemon), Inv d →
      Inv (slots.foldl (Daemon.pollAt tick) d) := by
    intro slots
    induction slots with
    | nil => intro d inv; exact inv
    | cons i rest ih =>
      intro d inv
      exact ih _ (inv_pollAt tick i inv)
  exact polls _ _ (inv_reload inv tick.now listed)

theorem inv_start (answer : Option UciPackage) (monoNow : Nat → Int)
    (listed : Reload.ListsOnce (.load answer)) : Inv (Daemon.start answer monoNow) := by
  refine ⟨?_, ?_, by simp [Daemon.start], by simp [Daemon.start]⟩
  · intro iface member
    obtain ⟨i, bound, rfl⟩ := List.mem_mapIdx.mp member
    have named := loadStaConfigs_named answer [] _ (List.getElem_mem bound)
    exact named
  · have same : (Daemon.start answer monoNow).ifaces.map (·.pair) =
        (loadStaConfigs answer []).map (·.pair) := by
      apply List.ext_getElem
      · simp [Daemon.start]
      · intro i left right
        simp [Daemon.start, StaInterface.pair]
    rw [same]
    exact loadStaConfigs_once (by simp) (by simp) listed

theorem inv_run (answer : Option UciPackage) (monoNow : Nat → Int) (ticks : List Tick)
    (atStart : Reload.ListsOnce (.load answer))
    (listed : ∀ tick ∈ ticks, Reload.ListsOnce tick.reload) :
    Inv (run Daemon.tick (Daemon.start answer monoNow) ticks) := by
  apply run_invariant Daemon.tick (fun _ tick => Reload.ListsOnce tick.reload) Inv
  · intro d tick inv listed
    exact inv_tick tick inv listed
  · exact inv_start answer monoNow atStart
  · exact along_of_forall _ _ _ _ fun _ tick member => listed tick member

/-- Two connect transactions of a profile, with no confirmed link of the profile
and no reload without it in between, are a cooldown of the first apart. -/
theorem transactions_backOff (answer : Option UciPackage) (monoNow : Nat → Int)
    (ticks : List Tick) (atStart : Reload.ListsOnce (.load answer))
    (listed : ∀ tick ∈ ticks, Reload.ListsOnce tick.reload) (first second : Transaction)
    (same : first.pair = second.pair)
    (followed : Followed (Undisturbed first.pair)
      (run Daemon.tick (Daemon.start answer monoNow) ticks).log
      (.transaction first) (.transaction second)) :
    first.now + 45 * 2 ^ (min (first.failCount - 1) 4).toNat ≤ second.now := by
  rw [← nextCooldown_eq]
  exact (inv_run answer monoNow ticks atStart listed).spaced first second followed same

/-- One open network on the 2.4 GHz radio, with the interface left to its default. -/
def homeWifi : UciPackage :=
  { sections :=
      [{ type := ['w', 'i', 'f', 'i', '-', 'i', 'f', 'a', 'c', 'e']
         name := ['u', 'p']
         options :=
           [⟨['m', 'o', 'd', 'e'], ['s', 't', 'a'], by decide⟩,
            ⟨['d', 'e', 'v', 'i', 'c', 'e'], ['r', 'a', 'd', 'i', 'o', '0'], by decide⟩,
            ⟨['s', 's', 'i', 'd'], ['h', 'o', 'm', 'e'], by decide⟩] }] }

def homePair : Pair := (['a', 'p', 'c', 'l', 'i', '0'], ['h', 'o', 'm', 'e'])

def downAt (now : Int) (reload : Reload) : Tick :=
  { now := now, reload := reload, link := fun _ => false, rand := fun _ => 5 }

/-- The link is down all the time, and the same configuration is loaded again in between. -/
def outage : List Tick :=
  [downAt 100 .idle, downAt 105 .idle, downAt 110 (.load (some homeWifi)), downAt 155 .idle]

def connectHome (now failCount : Int) (again : List Command) : Transaction :=
  { pair := homePair
    now := now
    failCount := failCount
    commands := [.setIfUp ra0, .setIfUp homePair.1] ++ again ++
      [.apCliAuthMode ['W', 'P', 'A', '2', 'P', 'S', 'K'], .apCliEncrypType ['A', 'E', 'S'],
        .apCliSsid homePair.2, .apCliAutoConnect, .apCliEnable true] }

theorem outage_log :
    (run Daemon.tick (Daemon.start (some homeWifi) fun _ => 0) outage).log =
      [.transaction (connectHome 105 1 []), .reloaded [homePair],
        .transaction (connectHome 155 2 [.apCliEnable false])] := by
  decide

theorem transactions_backOff_outage :
    (connectHome 105 1 []).now + 45 * 2 ^ (min ((connectHome 105 1 []).failCount - 1) 4).toNat ≤
      (connectHome 155 2 [.apCliEnable false]).now := by
  refine transactions_backOff (some homeWifi) (fun _ => 0) outage ?_ ?_
    (connectHome 105 1 []) (connectHome 155 2 [.apCliEnable false]) rfl ?_
  · exact (by decide : Config.ListsOnce homeWifi)
  · have once : Config.ListsOnce homeWifi := by decide
    simp only [outage, downAt, List.forall_mem_cons, List.not_mem_nil, false_imp_iff,
      implies_true, and_true]
    exact ⟨trivial, trivial, once, trivial⟩
  · rw [outage_log]
    exact ⟨[], [.reloaded [homePair]], [], rfl, by simp [Undisturbed, connectHome]⟩

end OpenwrtSource.Reconnect.Backoff
