import OpenwrtSource.Fullcone.LinuxKernel
import OpenwrtSource.Fullcone.Retention

/-!
# Namespaces and zones

The tables and the dying list are shared by all network namespaces and zones,
and nothing in them says whose a mapping is.  `Owned` adds that to a state: the
scope of the packet that made each mapping, and the scope of each dying
conntrack.  One scope then disturbs another only through a mapping that its
packet consults, or that matches one of its dying conntracks.
-/

namespace OpenwrtSource.Fullcone.Noninterference

open Lib.Run Fullcone.Tuple Fullcone.L3Family Fullcone.Mapping Fullcone.TableEffects Fullcone.Hooks
open Fullcone.HookEffects Fullcone.EventSystem Fullcone.Retention Fullcone.LinuxKernel

variable {A : Type} [DecidableEq A] {k : Kernel}

/-- A state, with the scope in which each mapping of one L3 protocol was created
and the scopes of the dying conntracks. -/
structure Owned where
  state : State
  creator : Nat → Option Scope
  dying : List (Scope × TupleList)

def Owned.init : Owned := ⟨State.init, fun _ => none, []⟩

def ownedStep (k : Kernel) (half : Half A) (g : Owned) (event : Event) : Owned :=
  let next := step k g.state event
  { state := next
    creator := match half.call event with
      | some call => fun id =>
        if (half.tables g.state).fresh ≤ id ∧ id < (half.tables next).fresh then
          some call.scope
        else g.creator id
      | none => g.creator
    dying := match event with
      | .ctEvent events (some ct) kmalloc =>
        (ctEventCb events (some ct) kmalloc []).map (fun item => (ct.scope, item)) ++ g.dying
      | .gc => []
      | _ => g.dying }

/-- A conntrack of the scope with this original tuple exists. -/
def aliveIn (conntrack : List Conn) (scope : Scope) (tuple : CtTuple) : Bool :=
  conntrack.any fun ct => ct.scope = scope && ct.original = tuple

/-- The call passes its packet through the mapping `id`. -/
def TranslatesBy (k : Kernel) (fam : Family A) (find : CtTuple → Bool) (t : Tables A)
    (id : Nat) : Call A → Prop
  | .prerouting packet =>
    packet.original.dstProtonum = IPPROTO_UDP ∧
      (getMappingByExtPort k find packet.extPort (packet.extAddr fam) t).1 = some id
  | .postrouting packet =>
    packet.original.dstProtonum = IPPROTO_UDP ∧ ∃ minAddr maxAddr,
      packet.addresses = some (minAddr, maxAddr) ∧
        (selectMapping k fam find packet minAddr maxAddr t).srcMapping = some id
  | .lookup _ _ _ => False

/-- A step on behalf of a scope takes nothing from a mapping that another scope
created, as far as its conntracks are alive there, and does not use it. -/
def NonInterfering (k : Kernel) (half : Half A) (g : Owned) (event : Event) : Prop :=
  ∀ id mapping owner, g.creator id = some owner →
    (half.tables g.state).heap id = some mapping →
      match half.call event with
      | some call => owner ≠ call.scope →
          (∀ tuple ∈ mapping.originalTupleList, aliveIn g.state.conntrack owner tuple = true →
            Retains id tuple (half.tables g.state) (half.tables (step k g.state event))) ∧
          ¬ TranslatesBy k half.fam (nfConntrackFindGet g.state.conntrack call.scope)
            (half.tables g.state) id call
      | none => event ≠ .destroyMappings →
          ∀ tuple ∈ mapping.originalTupleList, aliveIn g.state.conntrack owner tuple = true →
            (event = .gc → ∀ entry ∈ g.dying, entry.1 = owner →
              entry.2.tupleOriginal ≠ tuple) →
              Retains id tuple (half.tables g.state) (half.tables (step k g.state event))

/-- A packet consults no mapping of another scope that is alive there or has a tuple
of the packet's scope; no dying conntrack matches one of another scope and
has a tuple that is alive there. -/
def Separate (k : Kernel) (half : Half A) (g : Owned) (event : Event) : Prop :=
  ∀ id mapping owner, g.creator id = some owner →
    (half.tables g.state).heap id = some mapping →
      match half.call event with
      | some call =>
        let find := nfConntrackFindGet g.state.conntrack call.scope
        owner ≠ call.scope →
          call.Consults k half.fam find (half.tables g.state) id mapping.endpoints →
            ∀ tuple ∈ mapping.originalTupleList,
              aliveIn g.state.conntrack owner tuple = false ∧ find tuple = false
      | none => event = .gc → ∀ entry ∈ g.dying, entry.1 ≠ owner →
          half.owns entry.2 = true → TupleList.Matches half.fam entry.2 mapping.endpoints →
            entry.2.tupleOriginal ∈ mapping.originalTupleList →
              aliveIn g.state.conntrack owner entry.2.tupleOriginal = false

theorem ctEventCb_append (events : BitVec 32) (ct : Option Conn) (kmalloc : Bool)
    (dying : List TupleList) :
    ctEventCb events ct kmalloc dying = ctEventCb events ct kmalloc [] ++ dying := by
  unfold ctEventCb
  cases ct with
  | none => rfl
  | some ct =>
    dsimp only
    repeat' split
    all_goals rfl

/-- The dying conntracks of the bookkeeping are those of the library, and the
tables are well formed. -/
def OwnedInvariant (k : Kernel) (g : Owned) : Prop :=
  (WellFormed k ipv4 g.state.ipv4 ∧ WellFormed k ipv6 g.state.ipv6) ∧
    g.dying.map Prod.snd = g.state.dying

theorem ownedInvariant_step (half : Half A) (g : Owned) (event : Event)
    (invariant : OwnedInvariant k g) : OwnedInvariant k (ownedStep k half g event) := by
  refine ⟨step_wellFormed g.state event invariant.1, ?_⟩
  obtain ⟨⟨tables4, tables6, pending, conntrack⟩, creator, dying⟩ := g
  have same : dying.map Prod.snd = pending := invariant.2
  cases event with
  | ctEvent events ct kmalloc =>
    cases ct with
    | none => exact same
    | some ct =>
      simp only [ownedStep, step, List.map_append, List.map_map, same]
      rw [ctEventCb_append events (some ct) kmalloc pending]
      simp [Function.comp_def]
  | gc => rfl
  | _ => exact same

theorem consults_of_translates {fam : Family A} {t : Tables A} (wf : WellFormed k fam t)
    (find : CtTuple → Bool) (call : Call A) (id : Nat) (mapping : NatMapping A)
    (found : t.heap id = some mapping) (translates : TranslatesBy k fam find t id call) :
    call.Consults k fam find t id mapping.endpoints ∧
      mapping.originalTupleList.any find = true := by
  cases call with
  | prerouting packet =>
    obtain ⟨udp, looked⟩ := translates
    have spec := getMappingByExtPort_spec wf find packet.extPort (packet.extAddr fam)
    obtain ⟨candidate, candidateFound, port, -, active, -⟩ := spec.hit id looked
    rw [found, Option.some.injEq] at candidateFound
    subst candidate
    exact ⟨⟨udp, port⟩, active⟩
  | postrouting packet =>
    obtain ⟨udp, minAddr, maxAddr, addresses, reused⟩ := translates
    have spec := selectMapping_spec wf find packet minAddr maxAddr
    obtain ⟨candidate, candidateFound, looked, active, -⟩ := spec.reused id reused
    rw [found, Option.some.injEq] at candidateFound
    subst candidate
    exact ⟨⟨udp, minAddr, maxAddr, addresses, Or.inl looked⟩, active⟩
  | lookup scope port extIp => exact translates.elim

theorem nonInterfering_of_separate (half : Half A) (g : Owned) (event : Event)
    (invariant : OwnedInvariant k g) (separate : Separate k half g event) :
    NonInterfering k half g event := by
  have wf : WellFormed k half.fam (half.tables g.state) :=
    half.project (fun A _ fam _ after => WellFormed k fam after) g.state g.state invariant.1
  intro id mapping owner created found
  have apart := separate id mapping owner created found
  cases called : half.call event with
  | some call =>
    rw [called] at apart
    intro foreign
    constructor
    · intro tuple recorded living
      rw [(half.call_eq event call).mp called, half.exec]
      refine retains_of_same tuple fun candidate candidateFound => ?_
      rw [found, Option.some.injEq] at candidateFound
      subst candidate
      refine call_frame wf _ call id mapping found fun consults => ?_
      have dead := (apart foreign consults tuple recorded).1
      rw [living] at dead
      cases dead
    · intro translates
      obtain ⟨consults, active⟩ := consults_of_translates wf _ call id mapping found translates
      obtain ⟨tuple, recorded, held⟩ := List.any_eq_true.mp active
      have absent := (apart foreign consults tuple recorded).2
      rw [held] at absent
      cases absent
  | none =>
    rw [called] at apart
    intro notDestroy tuple recorded living notOwn
    apply step_retains half g.state event wf id tuple
    intro candidate candidateFound
    rw [found, Option.some.injEq] at candidateFound
    subst candidate
    unfold Undisturbed
    rw [called]
    cases event with
    | gc =>
      intro item member own owned same
      rw [← invariant.2] at member
      obtain ⟨entry, entryMember, rfl⟩ := List.mem_map.mp member
      by_cases ownEntry : entry.1 = owner
      · exact notOwn rfl entry entryMember ownEntry same
      · have dead := apart rfl entry entryMember ownEntry own owned (by rw [same]; exact recorded)
        rw [same, living] at dead
        cases dead
    | destroyMappings => exact absurd rfl notDestroy
    | _ => trivial

/-- In every run whose steps keep the scopes separate, no step interferes with the
mappings of another scope. -/
theorem scopes_do_not_interfere (k : Kernel) (half : Half A) (events : List Event)
    (separate : Along (ownedStep k half) (Separate k half) Owned.init events) :
    Along (ownedStep k half) (NonInterfering k half) Owned.init events :=
  along_of_invariant (ownedStep k half) (Separate k half) (NonInterfering k half)
    (OwnedInvariant k)
    (fun g event invariant _ => ownedInvariant_step half g event invariant)
    (fun g event invariant separate => nonInterfering_of_separate half g event invariant separate)
    Owned.init events ⟨⟨wellFormed_empty k _, wellFormed_empty k _⟩, rfl⟩ separate

def guestScope : Scope := ⟨1, 0⟩

def guestPacket (port : BitVec 16) : PreroutingPacket Be32 :=
  { inbound (udpTuple thirdPeer 53 otherWan port) with scope := guestScope }

def separateRun : List Event := oneFlow ++ [.ipv4 (.prerouting (guestPacket 6000))]

theorem scopes_do_not_interfere_separateRun :
    Along (ownedStep linuxKernel half4) (NonInterfering linuxKernel half4) Owned.init
      separateRun := by
  apply scopes_do_not_interfere linuxKernel half4 separateRun
  refine ⟨fun _ _ _ created => (nomatch created), fun _ _ _ _ _ isGc => (nomatch isGc), ?_,
    trivial⟩
  intro id mapping owner _ found
  have allocated : id < 1 := (reachable_wellFormed (k := linuxKernel) half4 oneFlow).allocated_lt found
  obtain rfl : id = 0 := by omega
  have only : ((run (step linuxKernel) State.init oneFlow).ipv4.heap 0).map NatMapping.port =
      some 5000 := by decide
  have hostFound : (run (step linuxKernel) State.init oneFlow).ipv4.heap 0 = some mapping := found
  rw [hostFound, Option.map_some, Option.some.injEq] at only
  rintro - ⟨-, same⟩
  have ports : mapping.port = 6000 := same.trans (be16ToCpu_cpuToBe16 6000)
  exact absurd (only.symm.trans ports) (by decide)

/-- The guest's packet goes to a port that the host has, at another address. -/
def interferingRun : List Event := oneFlow ++ [.ipv4 (.prerouting (guestPacket 5000))]

theorem interferingRun_destroys :
    ¬ Along (ownedStep linuxKernel half4) (NonInterfering linuxKernel half4) Owned.init
      interferingRun := by
  intro along
  obtain ⟨-, -, atGuest, -⟩ := along
  let mapping : NatMapping Be32 := ⟨5000, wan, host, 5000, 1, [flowTo peer]⟩
  have recorded : (run (step linuxKernel) State.init oneFlow).ipv4.heap 0 = some mapping := by
    decide
  have kept := (atGuest 0 mapping mainScope (by decide) recorded (by decide)).1
    (flowTo peer) (by decide) (by decide)
  obtain ⟨left, leftFound, -⟩ := kept mapping recorded (by decide)
  have destroyed : (run (step linuxKernel) State.init interferingRun).ipv4.heap 0 = none := by
    decide
  exact absurd (leftFound.symm.trans destroyed) (fun same => nomatch same)

end OpenwrtSource.Fullcone.Noninterference
