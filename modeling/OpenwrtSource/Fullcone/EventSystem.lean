import OpenwrtSource.Lib.Run
import OpenwrtSource.Fullcone.HookEffects

/-!
# Runs of the full-cone NAT

The whole library as an event system: packets of both L3 protocols, the
conntrack destroy callback, the gc worker and the final removal of all
mappings.  Each of them runs under the table lock, so a step is one call.  The
conntrack subsystem is not part of the library; between two steps its table
may change in any way.
-/

namespace OpenwrtSource.Fullcone.EventSystem

open Lib.Run Lib.Index Fullcone.Tuple Fullcone.L3Family Fullcone.Mapping Fullcone.TableEffects
open Fullcone.Hooks Fullcone.HookEffects

variable {A : Type} [DecidableEq A]

/-- The mapping that `handle_dying_tuples` finds for a dying conntrack, which it
tries as an outbound one first and then as an inbound one. -/
def dyingMapping (k : Kernel) (fam : Family A) (item : TupleList) (t : Tables A) : Option Nat :=
  match getMappingByIntSrc k fam (fam.u3 item.tupleOriginal.srcU3)
      (be16ToCpu item.tupleOriginal.srcPort) (fam.u3 item.tupleReply.dstU3) t with
  | some id => some id
  | none =>
    getMappingByIntSrc k fam (fam.u3 item.tupleReply.srcU3)
      (be16ToCpu item.tupleReply.srcPort) (fam.u3 item.tupleOriginal.dstU3) t

/-- A destroyed conntrack was a flow of the mapping, outbound or inbound. -/
def TupleList.Matches (fam : Family A) (item : TupleList) (endpoints : Endpoints A) : Prop :=
  (endpoints.intAddr = fam.u3 item.tupleOriginal.srcU3 ∧
      endpoints.intPort = be16ToCpu item.tupleOriginal.srcPort ∧
      endpoints.addr = fam.u3 item.tupleReply.dstU3) ∨
    (endpoints.intAddr = fam.u3 item.tupleReply.srcU3 ∧
      endpoints.intPort = be16ToCpu item.tupleReply.srcPort ∧
      endpoints.addr = fam.u3 item.tupleOriginal.dstU3)

variable {fam : Family A} {t : Tables A}

theorem getMappingByIntSrc_some {k : Kernel} {srcIp : A} {srcPort : BitVec 16} {extIp : A}
    {id : Nat} (looked : getMappingByIntSrc k fam srcIp srcPort extIp t = some id) :
    ∃ mapping, t.heap id = some mapping ∧ mapping.intAddr = srcIp ∧
      mapping.intPort = srcPort ∧ mapping.addr = extIp := by
  obtain ⟨mapping, found, passed⟩ := lookup_some looked
  simp only [Bool.and_eq_true, decide_eq_true_eq] at passed
  exact ⟨mapping, found, passed.1.1, passed.1.2, passed.2⟩

theorem dyingMapping_some {k : Kernel} {item : TupleList} {id : Nat}
    (looked : dyingMapping k fam item t = some id) :
    ∃ mapping, t.heap id = some mapping ∧ TupleList.Matches fam item mapping.endpoints := by
  unfold dyingMapping at looked
  split at looked
  · rename_i outbound
    rw [looked] at outbound
    obtain ⟨mapping, found, key⟩ := getMappingByIntSrc_some outbound
    exact ⟨mapping, found, Or.inl key⟩
  · obtain ⟨mapping, found, key⟩ := getMappingByIntSrc_some looked
    exact ⟨mapping, found, Or.inr key⟩

/-- One round of the loop of `handle_dying_tuples`, for one L3 protocol. -/
def collectTuple (k : Kernel) (fam : Family A) (item : TupleList) (t : Tables A) : Tables A :=
  match dyingMapping k fam item t with
  | none => t
  | some id => (pruneMapping (fun tuple => tuple != item.tupleOriginal) id t).2

structure State where
  ipv4 : Tables Be32
  ipv6 : Tables InetAddr
  dying : List TupleList
  conntrack : List Conn

def State.init : State := ⟨Tables.empty, Tables.empty, [], []⟩

def IPCT_DESTROY : Nat := 2

/-- `ct_event_cb`: the tuples of a destroyed UDP conntrack go to the head of
the dying list. -/
def ctEventCb (events : BitVec 32) (ct : Option Conn) (kmalloc : Bool)
    (dying : List TupleList) : List TupleList :=
  match ct with
  | none => dying
  | some ct =>
    if events &&& (1 <<< IPCT_DESTROY) = 0 then dying
    else if ct.original.dstProtonum ≠ IPPROTO_UDP then dying
    else if kmalloc then ⟨ct.original, ct.reply⟩ :: dying
    else dying

/-- One item of the dying list, in the tables of its L3 protocol. -/
def collectItem (k : Kernel) (s : State) (item : TupleList) : State :=
  if item.tupleOriginal.srcL3num = PF_INET6 then
    { s with ipv6 := collectTuple k L3Family.ipv6 item s.ipv6 }
  else if item.tupleOriginal.srcL3num = PF_INET then
    { s with ipv4 := collectTuple k L3Family.ipv4 item s.ipv4 }
  else s

/-- `nf_nat_fullcone_handle_dying_tuples`, the body of `gc_worker`. -/
def handleDyingTuples (k : Kernel) (s : State) : State :=
  { s.dying.foldl (collectItem k) s with dying := [] }

inductive Event where
  | ipv4 (call : Call Be32)
  | ipv6 (call : Call InetAddr)
  | ctEvent (events : BitVec 32) (ct : Option Conn) (kmalloc : Bool)
  | gc
  | destroyMappings
  | conntrack (table : List Conn)

/-- In a packet event, an accepted SNAT gives the conntrack the endpoint it was
asked for. -/
def Event.Honest : Event → Prop
  | .ipv4 (.postrouting packet) => SetupHonest L3Family.ipv4 packet
  | .ipv6 (.postrouting packet) => SetupHonest L3Family.ipv6 packet
  | _ => True

def step (k : Kernel) (s : State) : Event → State
  | .ipv4 call =>
    let find := nfConntrackFindGet s.conntrack call.scope
    { s with ipv4 := call.exec k L3Family.ipv4 find s.ipv4 }
  | .ipv6 call =>
    let find := nfConntrackFindGet s.conntrack call.scope
    { s with ipv6 := call.exec k L3Family.ipv6 find s.ipv6 }
  | .ctEvent events ct kmalloc => { s with dying := ctEventCb events ct kmalloc s.dying }
  | .gc => handleDyingTuples k s
  | .destroyMappings =>
    { s with ipv4 := destroyMappings s.ipv4, ipv6 := destroyMappings s.ipv6 }
  | .conntrack table => { s with conntrack := table }

def callGuard (ok : (A : Type) → [DecidableEq A] → Family A → (CtTuple → Bool) → Call A →
    Tables A → Prop) (s : State) : Event → Prop
  | .ipv4 call => ok Be32 L3Family.ipv4 (nfConntrackFindGet s.conntrack call.scope) call s.ipv4
  | .ipv6 call =>
    ok InetAddr L3Family.ipv6 (nfConntrackFindGet s.conntrack call.scope) call s.ipv6
  | _ => True

/-- A relation between the tables of one L3 protocol that every operation meets. -/
structure TableRelation (k : Kernel)
    (ok : (A : Type) → [DecidableEq A] → Family A → (CtTuple → Bool) → Call A → Tables A → Prop)
    (rel : (A : Type) → [DecidableEq A] → Family A → Tables A → Tables A → Prop) : Prop where
  refl : ∀ (A : Type) [DecidableEq A] (fam : Family A) (t : Tables A), rel A fam t t
  trans : ∀ (A : Type) [DecidableEq A] (fam : Family A) (first second third : Tables A),
    rel A fam first second → rel A fam second third → rel A fam first third
  call : ∀ (A : Type) [DecidableEq A] (fam : Family A) (find : CtTuple → Bool)
    (call : Call A) (t : Tables A), ok A fam find call t → rel A fam t (call.exec k fam find t)
  collect : ∀ (A : Type) [DecidableEq A] (fam : Family A) (item : TupleList) (t : Tables A),
    rel A fam t (collectTuple k fam item t)
  destroy : ∀ (A : Type) [DecidableEq A] (fam : Family A) (t : Tables A),
    rel A fam t (destroyMappings t)

/-- A property of the tables of one L3 protocol that every operation keeps. -/
structure TableInvariant (k : Kernel)
    (ok : (A : Type) → [DecidableEq A] → Family A → (CtTuple → Bool) → Call A → Tables A → Prop)
    (inv : (A : Type) → [DecidableEq A] → Family A → Tables A → Prop) : Prop where
  empty : ∀ (A : Type) [DecidableEq A] (fam : Family A), inv A fam Tables.empty
  call : ∀ (A : Type) [DecidableEq A] (fam : Family A) (find : CtTuple → Bool)
    (call : Call A) (t : Tables A), inv A fam t → ok A fam find call t →
      inv A fam (call.exec k fam find t)
  collect : ∀ (A : Type) [DecidableEq A] (fam : Family A) (item : TupleList) (t : Tables A),
    inv A fam t → inv A fam (collectTuple k fam item t)
  destroy : ∀ (A : Type) [DecidableEq A] (fam : Family A) (t : Tables A),
    inv A fam t → inv A fam (destroyMappings t)

variable {k : Kernel}
  {ok : (A : Type) → [DecidableEq A] → Family A → (CtTuple → Bool) → Call A → Tables A → Prop}
  {rel : (A : Type) → [DecidableEq A] → Family A → Tables A → Tables A → Prop}
  {inv : (A : Type) → [DecidableEq A] → Family A → Tables A → Prop}

theorem TableRelation.collectItems (relation : TableRelation k ok rel)
    (items : List TupleList) (s : State) :
    rel Be32 L3Family.ipv4 s.ipv4 (items.foldl (collectItem k) s).ipv4 ∧
      rel InetAddr L3Family.ipv6 s.ipv6 (items.foldl (collectItem k) s).ipv6 := by
  induction items generalizing s with
  | nil => exact ⟨relation.refl _ _ _, relation.refl _ _ _⟩
  | cons item rest ih =>
    obtain ⟨rest4, rest6⟩ := ih (collectItem k s item)
    refine ⟨relation.trans _ _ _ _ _ ?_ rest4, relation.trans _ _ _ _ _ ?_ rest6⟩
    · unfold collectItem
      split
      · exact relation.refl _ _ _
      · split
        · exact relation.collect _ _ item _
        · exact relation.refl _ _ _
    · unfold collectItem
      split
      · exact relation.collect _ _ item _
      · split <;> exact relation.refl _ _ _

theorem TableRelation.step (relation : TableRelation k ok rel) (s : State) (event : Event)
    (guarded : callGuard ok s event) :
    rel Be32 L3Family.ipv4 s.ipv4 (step k s event).ipv4 ∧
      rel InetAddr L3Family.ipv6 s.ipv6 (step k s event).ipv6 := by
  cases event with
  | ipv4 call => exact ⟨relation.call _ _ _ call _ guarded, relation.refl _ _ _⟩
  | ipv6 call => exact ⟨relation.refl _ _ _, relation.call _ _ _ call _ guarded⟩
  | ctEvent events ct kmalloc => exact ⟨relation.refl _ _ _, relation.refl _ _ _⟩
  | gc => exact relation.collectItems s.dying s
  | destroyMappings => exact ⟨relation.destroy _ _ _, relation.destroy _ _ _⟩
  | conntrack table => exact ⟨relation.refl _ _ _, relation.refl _ _ _⟩

theorem TableRelation.run (relation : TableRelation k ok rel) (s : State) (events : List Event)
    (guarded : Along (EventSystem.step k) (callGuard ok) s events) :
    rel Be32 L3Family.ipv4 s.ipv4 (run (EventSystem.step k) s events).ipv4 ∧
      rel InetAddr L3Family.ipv6 s.ipv6 (run (EventSystem.step k) s events).ipv6 :=
  run_relates (EventSystem.step k) (callGuard ok)
    (fun before after => rel Be32 L3Family.ipv4 before.ipv4 after.ipv4 ∧
      rel InetAddr L3Family.ipv6 before.ipv6 after.ipv6)
    (fun _ => ⟨relation.refl _ _ _, relation.refl _ _ _⟩)
    (fun _ _ _ head tail => ⟨relation.trans _ _ _ _ _ head.1 tail.1,
      relation.trans _ _ _ _ _ head.2 tail.2⟩)
    relation.step s events guarded

theorem TableInvariant.relation (invariant : TableInvariant k ok inv) :
    TableRelation k (fun A _ fam find call t => inv A fam t → ok A fam find call t)
      fun A _ fam before after => inv A fam before → inv A fam after where
  refl _ _ _ _ := id
  trans _ _ _ _ _ _ head tail := tail ∘ head
  call _ _ _ find call _ guarded holds := invariant.call _ _ find call _ holds (guarded holds)
  collect _ _ _ item _ := invariant.collect _ _ item _
  destroy _ _ _ _ := invariant.destroy _ _ _

theorem TableInvariant.runFrom (invariant : TableInvariant k ok inv) (s : State)
    (events : List Event) (guarded : Along (EventSystem.step k) (callGuard ok) s events)
    (holds : inv Be32 L3Family.ipv4 s.ipv4 ∧ inv InetAddr L3Family.ipv6 s.ipv6) :
    inv Be32 L3Family.ipv4 (run (EventSystem.step k) s events).ipv4 ∧
      inv InetAddr L3Family.ipv6 (run (EventSystem.step k) s events).ipv6 := by
  have implied : Along (EventSystem.step k)
      (callGuard fun A _ fam find call t => inv A fam t → ok A fam find call t) s events := by
    refine along_mono guarded fun state event meets => ?_
    cases event with
    | ipv4 call => exact fun _ => meets
    | ipv6 call => exact fun _ => meets
    | _ => trivial
  obtain ⟨after4, after6⟩ := invariant.relation.run s events implied
  exact ⟨after4 holds.1, after6 holds.2⟩

theorem TableInvariant.run (invariant : TableInvariant k ok inv) (events : List Event)
    (guarded : Along (EventSystem.step k) (callGuard ok) State.init events) :
    inv Be32 L3Family.ipv4 (run (EventSystem.step k) State.init events).ipv4 ∧
      inv InetAddr L3Family.ipv6 (run (EventSystem.step k) State.init events).ipv6 :=
  invariant.runFrom State.init events guarded ⟨invariant.empty _ _, invariant.empty _ _⟩

/-- One L3 protocol of the library: its tables in a state, its calls as events,
and the dying conntracks that are its own. -/
structure Half (A : Type) [DecidableEq A] where
  fam : Family A
  tables : State → Tables A
  event : Call A → Event
  call : Event → Option (Call A)
  owns : TupleList → Bool
  call_eq : ∀ event' c, call event' = some c ↔ event' = event c
  exec : ∀ (k : Kernel) (s : State) (c : Call A),
    tables (EventSystem.step k s (event c)) =
      c.exec k fam (nfConntrackFindGet s.conntrack c.scope) (tables s)
  frame : ∀ (k : Kernel) (s : State) (event' : Event), call event' = none →
    event' ≠ .gc → event' ≠ .destroyMappings →
      tables (EventSystem.step k s event') = tables s
  collect : ∀ (k : Kernel) (s : State) (item : TupleList),
    tables (collectItem k s item) =
      if owns item then collectTuple k fam item (tables s) else tables s
  drained : ∀ (s : State), tables { s with dying := [] } = tables s
  project : ∀ (rel : (A : Type) → [DecidableEq A] → Family A → Tables A → Tables A → Prop)
    (before after : State),
    rel Be32 L3Family.ipv4 before.ipv4 after.ipv4 ∧
      rel InetAddr L3Family.ipv6 before.ipv6 after.ipv6 →
        rel A fam (tables before) (tables after)
  honest : ∀ packet : PostroutingPacket A, SetupHonest fam packet →
    (event (.postrouting packet)).Honest

def half4 : Half Be32 where
  fam := L3Family.ipv4
  tables := State.ipv4
  event := .ipv4
  call
    | .ipv4 c => some c
    | _ => none
  owns item := item.tupleOriginal.srcL3num = PF_INET
  call_eq event' c := by cases event' <;> simp
  exec _ _ _ := rfl
  frame k s event' other notGc notDestroy := by cases event' <;> simp_all [EventSystem.step]
  collect k s item := by
    unfold collectItem
    split
    · rename_i six
      simp [six, PF_INET, PF_INET6]
    · split <;> simp_all
  drained _ := rfl
  project _ _ _ both := both.1
  honest _ granted := granted

def half6 : Half InetAddr where
  fam := L3Family.ipv6
  tables := State.ipv6
  event := .ipv6
  call
    | .ipv6 c => some c
    | _ => none
  owns item := item.tupleOriginal.srcL3num = PF_INET6
  call_eq event' c := by cases event' <;> simp
  exec _ _ _ := rfl
  frame k s event' other notGc notDestroy := by cases event' <;> simp_all [EventSystem.step]
  collect k s item := by
    unfold collectItem
    split
    · simp_all
    · split <;> simp_all
  drained _ := rfl
  project _ _ _ both := both.2
  honest _ granted := granted

theorem collectTuple_effects (wf : WellFormed k fam t) (item : TupleList) :
    WellFormed k fam (collectTuple k fam item t) ∧ Shrinks t (collectTuple k fam item t) := by
  unfold collectTuple
  split
  · exact ⟨wf, Shrinks.refl t⟩
  · have spec := pruneMapping_spec wf (fun tuple => tuple != item.tupleOriginal)
    exact ⟨(spec _).wellFormed, (spec _).shrinks⟩

omit [DecidableEq A] in
theorem destroyBucket_effects (ids : List Nat) (wf : WellFormed k fam t) :
    WellFormed k fam (destroyBucket ids t) ∧ Shrinks t (destroyBucket ids t) ∧
      ∀ id ∈ ids, (destroyBucket ids t).heap id = none := by
  induction ids generalizing t with
  | nil => exact ⟨wf, Shrinks.refl t, fun _ member => nomatch member⟩
  | cons head rest ih =>
    obtain ⟨wellFormed, shrinks, gone⟩ := ih (wf.kill (some head))
    refine ⟨wellFormed, (shrinks_kill (some head) t).trans shrinks, ?_⟩
    intro id member
    rcases List.mem_cons.mp member with same | later
    · subst id
      cases left : (destroyBucket (head :: rest) t).heap head with
      | none => rfl
      | some mapping =>
        obtain ⟨before, found, -⟩ := shrinks.survivor head mapping left
        simp [killMapping] at found
    · exact gone id later

omit [DecidableEq A] in
theorem destroyBuckets_effects (buckets : List (Fin 1024)) (wf : WellFormed k fam t) :
    let after := buckets.foldl
      (fun tables b => destroyBucket (tables.byExtPort b) tables) t
    WellFormed k fam after ∧ Shrinks t after ∧
      ∀ id mapping, after.heap id = some mapping → mapping.extBucket k ∉ buckets := by
  induction buckets generalizing t with
  | nil => exact ⟨wf, Shrinks.refl t, fun _ _ _ member => nomatch member⟩
  | cons head rest ih =>
    obtain ⟨headWf, headShrinks, headGone⟩ := destroyBucket_effects (t.byExtPort head) wf
    obtain ⟨wellFormed, shrinks, gone⟩ := ih headWf
    refine ⟨wellFormed, headShrinks.trans shrinks, ?_⟩
    intro id mapping found member
    rcases List.mem_cons.mp member with same | later
    · obtain ⟨middle, middleFound, middleKey, -⟩ := shrinks.survivor id mapping found
      obtain ⟨before, beforeFound, key, -⟩ := headShrinks.survivor id middle middleFound
      have ports : mapping.port = before.port :=
        congrArg Endpoints.port (middleKey.trans key)
      have linked : id ∈ t.byExtPort head := by
        apply (wf.ext.mem_iff id head).mpr
        exact ⟨before, beforeFound, by rw [← same, NatMapping.extBucket, ← ports]; rfl⟩
      rw [headGone id linked] at middleFound
      cases middleFound
    · exact gone id mapping found later

omit [DecidableEq A] in
theorem destroyMappings_effects (wf : WellFormed k fam t) :
    WellFormed k fam (destroyMappings t) ∧ Shrinks t (destroyMappings t) ∧
      ∀ id, (destroyMappings t).heap id = none := by
  unfold destroyMappings
  obtain ⟨wellFormed, shrinks, gone⟩ := destroyBuckets_effects (List.finRange 1024) wf
  refine ⟨wellFormed, shrinks, ?_⟩
  intro id
  cases left : ((List.finRange 1024).foldl
      (fun tables b => destroyBucket (tables.byExtPort b) tables) t).heap id with
  | none => rfl
  | some mapping => exact absurd (List.mem_finRange _) (gone id mapping left)

/-- The conntrack of an accepted packet is addressed as it was asked for. -/
def honestCall (A : Type) [DecidableEq A] (fam : Family A) (_ : CtTuple → Bool) (call : Call A)
    (_ : Tables A) : Prop :=
  match call with
  | .postrouting packet => SetupHonest fam packet
  | _ => True

theorem along_honest (events : List Event) (honest : ∀ event ∈ events, event.Honest) (s : State) :
    Along (EventSystem.step k) (callGuard honestCall) s events := by
  apply along_of_forall
  intro s event member
  have meets := honest event member
  rcases event with call | call | _ | _ | _ | _
  · cases call <;> trivial
  · cases call <;> trivial
  all_goals trivial

theorem along_callGuard_and
    {left right : (A : Type) → [DecidableEq A] → Family A → (CtTuple → Bool) → Call A →
      Tables A → Prop} {s : State} {events : List Event}
    (first : Along (EventSystem.step k) (callGuard left) s events)
    (second : Along (EventSystem.step k) (callGuard right) s events) :
    Along (EventSystem.step k)
      (callGuard fun A _ fam find call t => left A fam find call t ∧ right A fam find call t)
      s events := by
  refine along_mono (along_and first second) ?_
  intro state event both
  cases event with
  | ipv4 call => exact both
  | ipv6 call => exact both
  | _ => trivial

def anyCall (A : Type) [DecidableEq A] (_ : Family A) (_ : CtTuple → Bool) (_ : Call A)
    (_ : Tables A) : Prop := True

theorem wellFormed_invariant (k : Kernel) :
    TableInvariant k anyCall fun _ _ fam t => WellFormed k fam t where
  empty _ _ fam := wellFormed_empty k fam
  call _ _ _ find call _ wf _ := call_wellFormed wf find call
  collect _ _ _ item _ wf := (collectTuple_effects wf item).1
  destroy _ _ _ _ wf := (destroyMappings_effects wf).1

theorem later_relation (k : Kernel) :
    TableRelation k anyCall fun _ _ fam before after =>
      WellFormed k fam before → WellFormed k fam after ∧ Later before after where
  refl _ _ _ t wf := ⟨wf, Later.refl t⟩
  trans _ _ _ _ _ _ head tail wf :=
    have first := head wf
    have second := tail first.1
    ⟨second.1, first.2.trans second.2⟩
  call _ _ _ find call _ _ wf := ⟨call_wellFormed wf find call, call_later wf find call⟩
  collect _ _ _ item _ wf :=
    have effects := collectTuple_effects wf item
    ⟨effects.1, later_of_carries effects.2.carries (Nat.le_of_eq effects.2.fresh.symm)⟩
  destroy _ _ _ _ wf :=
    have effects := destroyMappings_effects wf
    ⟨effects.1, later_of_carries effects.2.1.carries (Nat.le_of_eq effects.2.1.fresh.symm)⟩

theorem along_anyCall (s : State) (events : List Event) :
    Along (EventSystem.step k) (callGuard anyCall) s events :=
  along_of_forall _ _ _ _ fun state event _ => by cases event <;> trivial

theorem TableRelation.half (relation : TableRelation k ok rel) (half : Half A) (s : State)
    (events : List Event) (guarded : Along (EventSystem.step k) (callGuard ok) s events) :
    rel A half.fam (half.tables s) (half.tables (Lib.Run.run (EventSystem.step k) s events)) :=
  half.project rel s _ (relation.run s events guarded)

theorem TableInvariant.half (invariant : TableInvariant k ok inv) (half : Half A)
    (events : List Event) (guarded : Along (EventSystem.step k) (callGuard ok) State.init events) :
    inv A half.fam (half.tables (Lib.Run.run (EventSystem.step k) State.init events)) :=
  half.project (fun A _ fam _ after => inv A fam after) State.init _
    (invariant.run events guarded)

theorem step_wellFormed (s : State) (event : Event)
    (wf : WellFormed k L3Family.ipv4 s.ipv4 ∧ WellFormed k L3Family.ipv6 s.ipv6) :
    WellFormed k L3Family.ipv4 (EventSystem.step k s event).ipv4 ∧
      WellFormed k L3Family.ipv6 (EventSystem.step k s event).ipv6 :=
  (wellFormed_invariant k).runFrom s [event] (along_anyCall s [event]) wf

theorem reachable_wellFormed (half : Half A) (events : List Event) :
    WellFormed k half.fam (half.tables (Lib.Run.run (EventSystem.step k) State.init events)) :=
  (wellFormed_invariant k).half half events (along_anyCall _ _)

end OpenwrtSource.Fullcone.EventSystem
