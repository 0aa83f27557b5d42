import Mathlib.Data.Fintype.Card
import OpenwrtSource.Mxl862xx.BridgeMaps

/-!
# What the bridges keep

The ports that are attached hold the allocated bridge ids, two of them the same id exactly
in one bridge, and each software map lists the ports of its id.  A port is detached
before it is attached again.
-/

namespace OpenwrtSource.Mxl862xx.BridgeLedger

open Mxl862xx.Driver Mxl862xx.BridgeMaps

variable {β : Type}

def SameBridge (s : Switching β) (p q : Port) : Prop :=
  ∃ b, (s.port p).bridge = some b ∧ (s.port q).bridge = some b

/-- The ports that a map has for an id: the CPU port and those that carry the id. -/
def Lists (dsa : Dsa) (on : Port → Prop) (s : Switching β) (id k : Nat) : Prop :=
  k = mxlPort dsa.cpuPort ∨ ∃ p, on p ∧ (s.port p).bridgeId = id ∧ k = mxlPort p

/-- `on` says which ports are attached. -/
structure Inv (dsa : Dsa) (on : Port → Prop) (s : Switching β) : Prop where
  users : ∀ p, on p → dsa.user p = true
  cpu : (s.port dsa.cpuPort).bridge = none
  own : ∀ p, on p → (s.port p).bridgeId ∈ s.bridges
  ids : ∀ id ∈ s.bridges, 0 < id ∧ id < maxBridges
  nodup : s.bridges.Nodup
  used : ∀ id ∈ s.bridges, ∃ p, on p ∧ (s.port p).bridgeId = id
  same : ∀ p q, p ≠ q → on p → on q →
    ((s.port p).bridgeId = (s.port q).bridgeId ↔ SameBridge s p q)
  members : ∀ id, 0 < id → id < maxBridges → ∀ k,
    ((s.portmap id).getLsbD k = true ↔ Lists dsa on s id k)
  switchId : ∀ p, on p → (s.port p).switchId = (s.port p).bridgeId
  maps : ∀ p, on p →
    (s.port p).map = s.portmap (s.port p).bridgeId &&& ~~~ bit (mxlPort p)
  higher : ∀ p, dsa.user p = true → (s.port p).higher = 0
  standalone : ∀ p, on p → (s.port p).bridge = none → (s.port p).learningOff = true

/-- Everything but the map and the learning of a port that is not the call's. -/
structure SamePort (v v' : PortView β) : Prop where
  bridgeId : v'.bridgeId = v.bridgeId
  bridge : v'.bridge = v.bridge
  isolated : v'.isolated = v.isolated
  switchId : v'.switchId = v.switchId
  higher : v'.higher = v.higher

theorem SamePort.refl (v : PortView β) : SamePort v v := ⟨rfl, rfl, rfl, rfl, rfl⟩

/-- A port takes the id of its bridge, or a new one where nobody is in its bridge. -/
structure Attaches (dsa : Dsa) (on : Port → Prop) (port : Port) (s s' : Switching β) : Prop where
  kept : ∀ i, i ≠ port → SamePort (s.port i) (s'.port i)
  portmap : s'.portmap = Function.update s.portmap (s'.port port).bridgeId
    (s.portmap (s'.port port).bridgeId ||| bit (mxlPort port))
  maps : ∀ i, i = port ∨ on i →
    (s'.port i).map = s'.portmap (s'.port i).bridgeId &&& ~~~ bit (mxlPort i)
  switchId : (s'.port port).switchId = (s'.port port).bridgeId
  higher : (s'.port port).higher = 0
  standalone : ∀ i, i = port ∨ on i → (s'.port i).bridge = none → (s'.port i).learningOff = true
  id : (s'.bridges = s.bridges ∧ ∃ q b, on q ∧ (s.port q).bridge = some b ∧
      (s'.port port).bridge = some b ∧ (s.port q).bridgeId = (s'.port port).bridgeId) ∨
    (s'.bridges = (s'.port port).bridgeId :: s.bridges ∧
      (s'.port port).bridgeId ∉ s.bridges ∧
      (0 < (s'.port port).bridgeId ∧ (s'.port port).bridgeId < maxBridges) ∧
      ∀ q b, on q → (s'.port port).bridge = some b → (s.port q).bridge ≠ some b)

/-- A port leaves its id, which is freed when nobody else has it. -/
structure Detaches (on : Port → Prop) (port : Port) (s s' : Switching β) : Prop where
  kept : ∀ i, i ≠ port → SamePort (s.port i) (s'.port i)
  portmap : s'.portmap = Function.update s.portmap (s.port port).bridgeId
    (s.portmap (s.port port).bridgeId &&& ~~~ bit (mxlPort port))
  maps : ∀ i, i ≠ port → on i →
    (s'.port i).map = s'.portmap (s'.port i).bridgeId &&& ~~~ bit (mxlPort i)
  higher : (s'.port port).higher = (s.port port).higher
  standalone : ∀ i, i ≠ port → on i → (s'.port i).bridge = none →
    (s'.port i).learningOff = true
  freed : (∃ q, q ≠ port ∧ on q ∧ (s.port q).bridgeId = (s.port port).bridgeId) →
    s'.bridges = s.bridges
  unused : (¬ ∃ q, q ≠ port ∧ on q ∧ (s.port q).bridgeId = (s.port port).bridgeId) →
    s'.bridges = s.bridges.filter (· ≠ (s.port port).bridgeId)

section Steps

variable {dsa : Dsa} {on : Port → Prop} {port : Port} {s s' : Switching β}

theorem getLsbD_or_bit (map : BitVec 16) (p : Port) (k : Nat) :
    (map ||| bit (mxlPort p)).getLsbD k = true ↔ map.getLsbD k = true ∨ k = mxlPort p := by
  rw [BitVec.getLsbD_or, getLsbD_bit (mxlPort_lt p)]
  simp

theorem getLsbD_and_not_bit (map : BitVec 16) (p : Port) (k : Nat) :
    (map &&& ~~~ bit (mxlPort p)).getLsbD k = true ↔ map.getLsbD k = true ∧ k ≠ mxlPort p := by
  rw [BitVec.getLsbD_and, BitVec.getLsbD_not, getLsbD_bit (mxlPort_lt p)]
  have inside : map.getLsbD k = true → k < 16 := fun set => BitVec.lt_of_getLsbD set
  constructor
  · intro both
    simp only [Bool.and_eq_true, decide_eq_true_eq, Bool.not_eq_true', decide_eq_false_iff_not]
      at both
    exact ⟨both.1, both.2.2⟩
  · rintro ⟨set, apart⟩
    simp [set, apart, inside set]

theorem cpu_apart (user : dsa.user port = true) : mxlPort port ≠ mxlPort dsa.cpuPort := by
  intro same
  rw [mxlPort_injective same, dsa.cpuNotUser] at user
  cases user

theorem Inv.attach (inv : Inv dsa on s) (user : dsa.user port = true) (off : ¬ on port)
    (attaches : Attaches dsa on port s s') : Inv dsa (fun p => p = port ∨ on p) s' := by
  have other : ∀ {i}, on i → i ≠ port := fun here same => off (same ▸ here)
  have ids : ∀ {i}, on i → (s'.port i).bridgeId = (s.port i).bridgeId :=
    fun here => (attaches.kept _ (other here)).bridgeId
  have bridges : ∀ {i}, on i → (s'.port i).bridge = (s.port i).bridge :=
    fun here => (attaches.kept _ (other here)).bridge
  have listed : (s'.port port).bridgeId ∈ s'.bridges ∧ ∀ id ∈ s.bridges, id ∈ s'.bridges := by
    obtain ⟨same, q, b, here, -, -, idQ⟩ | ⟨more, -⟩ := attaches.id
    · rw [same, ← idQ]
      exact ⟨inv.own q here, fun _ member => member⟩
    · rw [more]
      exact ⟨List.mem_cons_self, fun _ member => List.mem_cons_of_mem _ member⟩
  have withPort : ∀ q, on q →
      ((s'.port port).bridgeId = (s'.port q).bridgeId ↔ SameBridge s' port q) := by
    intro q here
    rw [SameBridge, ids here, bridges here]
    obtain ⟨-, r, b, hereR, bridgeR, bridge, idR⟩ | ⟨-, new, -, nobody⟩ := attaches.id
    · rw [bridge, ← idR]
      by_cases sameR : r = q
      · subst sameR
        exact ⟨fun _ => ⟨b, rfl, bridgeR⟩, fun _ => rfl⟩
      · rw [inv.same r q sameR hereR here, SameBridge, bridgeR]
    · constructor
      · intro sameId
        exact absurd (inv.own q here) (sameId ▸ new)
      · rintro ⟨b, bridge, bridgeQ⟩
        exact absurd bridgeQ (nobody q b here bridge)
  have idRange : 0 < (s'.port port).bridgeId ∧ (s'.port port).bridgeId < maxBridges := by
    obtain ⟨-, q, b, here, -, -, idQ⟩ | ⟨-, -, range, -⟩ := attaches.id
    · rw [← idQ]
      exact inv.ids _ (inv.own q here)
    · exact range
  refine ⟨?_, ?_, ?_, ?_, ?_, ?_, ?_, ?_, ?_, attaches.maps, ?_, attaches.standalone⟩
  · rintro p (rfl | here)
    · exact user
    · exact inv.users p here
  · have apart : dsa.cpuPort ≠ port := by
      rintro rfl
      rw [dsa.cpuNotUser] at user
      cases user
    rw [(attaches.kept _ apart).bridge]
    exact inv.cpu
  · rintro p (rfl | here)
    · exact listed.1
    · rw [ids here]
      exact listed.2 _ (inv.own p here)
  · intro id member
    obtain ⟨same, -⟩ | ⟨more, -⟩ := attaches.id
    · exact inv.ids id (same ▸ member)
    · rw [more, List.mem_cons] at member
      obtain rfl | old := member
      · exact idRange
      · exact inv.ids id old
  · obtain ⟨same, -⟩ | ⟨more, new, -⟩ := attaches.id
    · rw [same]
      exact inv.nodup
    · rw [more]
      exact List.nodup_cons.mpr ⟨new, inv.nodup⟩
  · intro id member
    have old : id ∈ s.bridges → ∃ p, (p = port ∨ on p) ∧ (s'.port p).bridgeId = id := by
      intro before
      obtain ⟨p, here, idP⟩ := inv.used id before
      exact ⟨p, Or.inr here, (ids here).trans idP⟩
    obtain ⟨same, -⟩ | ⟨more, -⟩ := attaches.id
    · exact old (same ▸ member)
    · rw [more, List.mem_cons] at member
      obtain rfl | before := member
      · exact ⟨port, Or.inl rfl, rfl⟩
      · exact old before
  · rintro p q apart (rfl | here) (rfl | here')
    · exact absurd rfl apart
    · exact withPort q here'
    · rw [eq_comm, withPort p here]
      exact ⟨fun ⟨b, first, second⟩ => ⟨b, second, first⟩,
        fun ⟨b, first, second⟩ => ⟨b, second, first⟩⟩
    · rw [SameBridge, ids here, ids here', bridges here, bridges here']
      exact inv.same p q apart here here'
  · intro id positive below k
    have before := inv.members id positive below k
    rw [attaches.portmap]
    by_cases own : id = (s'.port port).bridgeId
    · subst own
      rw [Function.update_self, getLsbD_or_bit, before]
      constructor
      · rintro ((cpu | ⟨p, here, idP, place⟩) | self)
        · exact Or.inl cpu
        · exact Or.inr ⟨p, Or.inr here, (ids here).trans idP, place⟩
        · exact Or.inr ⟨port, Or.inl rfl, rfl, self⟩
      · rintro (cpu | ⟨p, rfl | here, idP, place⟩)
        · exact Or.inl (Or.inl cpu)
        · exact Or.inr place
        · exact Or.inl (Or.inr ⟨p, here, (ids here).symm.trans idP, place⟩)
    · rw [Function.update_of_ne own, before]
      constructor
      · rintro (cpu | ⟨p, here, idP, place⟩)
        · exact Or.inl cpu
        · exact Or.inr ⟨p, Or.inr here, (ids here).trans idP, place⟩
      · rintro (cpu | ⟨p, rfl | here, idP, place⟩)
        · exact Or.inl cpu
        · exact absurd idP.symm own
        · exact Or.inr ⟨p, here, (ids here).symm.trans idP, place⟩
  · rintro p (rfl | here)
    · exact attaches.switchId
    · rw [(attaches.kept p (other here)).switchId, ids here]
      exact inv.switchId p here
  · intro p userP
    by_cases same : p = port
    · subst same
      exact attaches.higher
    · rw [(attaches.kept p same).higher]
      exact inv.higher p userP

theorem Inv.detach (inv : Inv dsa on s) (here : on port) (detaches : Detaches on port s s') :
    Inv dsa (fun p => p ≠ port ∧ on p) s' := by
  have ids : ∀ {i}, i ≠ port → (s'.port i).bridgeId = (s.port i).bridgeId :=
    fun other => (detaches.kept _ other).bridgeId
  have bridges : ∀ {i}, i ≠ port → (s'.port i).bridge = (s.port i).bridge :=
    fun other => (detaches.kept _ other).bridge
  have fewer : ∀ id, id ∈ s'.bridges ↔
      id ∈ s.bridges ∧ (id = (s.port port).bridgeId →
        ∃ q, q ≠ port ∧ on q ∧ (s.port q).bridgeId = (s.port port).bridgeId) := by
    intro id
    by_cases shared : ∃ q, q ≠ port ∧ on q ∧ (s.port q).bridgeId = (s.port port).bridgeId
    · rw [detaches.freed shared]
      exact ⟨fun member => ⟨member, fun _ => shared⟩, fun both => both.1⟩
    · rw [detaches.unused shared]
      simp only [List.mem_filter, decide_eq_true_eq, shared, imp_false]
  have userPort := inv.users port here
  refine ⟨fun p both => inv.users p both.2, ?_, ?_, ?_, ?_, ?_, ?_, ?_, ?_,
    fun p both => detaches.maps p both.1 both.2, ?_,
    fun p both => detaches.standalone p both.1 both.2⟩
  · have apart : dsa.cpuPort ≠ port := by
      rintro rfl
      rw [dsa.cpuNotUser] at userPort
      cases userPort
    rw [bridges apart]
    exact inv.cpu
  · rintro p ⟨other, hereP⟩
    rw [ids other, fewer]
    exact ⟨inv.own p hereP, fun same => ⟨p, other, hereP, same⟩⟩
  · intro id member
    exact inv.ids id ((fewer id).mp member).1
  · by_cases shared : ∃ q, q ≠ port ∧ on q ∧ (s.port q).bridgeId = (s.port port).bridgeId
    · rw [detaches.freed shared]
      exact inv.nodup
    · rw [detaches.unused shared]
      exact inv.nodup.filter _
  · intro id member
    obtain ⟨before, shared⟩ := (fewer id).mp member
    obtain ⟨p, hereP, idP⟩ := inv.used id before
    by_cases same : p = port
    · subst same
      obtain ⟨q, other, hereQ, idQ⟩ := shared idP.symm
      exact ⟨q, ⟨other, hereQ⟩, (ids other).trans (idQ.trans idP)⟩
    · exact ⟨p, ⟨same, hereP⟩, (ids same).trans idP⟩
  · rintro p q apart ⟨otherP, hereP⟩ ⟨otherQ, hereQ⟩
    rw [SameBridge, ids otherP, ids otherQ, bridges otherP, bridges otherQ]
    exact inv.same p q apart hereP hereQ
  · intro id positive below k
    have before := inv.members id positive below k
    rw [detaches.portmap]
    by_cases own : id = (s.port port).bridgeId
    · subst own
      rw [Function.update_self, getLsbD_and_not_bit, before]
      constructor
      · rintro ⟨cpu | ⟨p, hereP, idP, place⟩, apart⟩
        · exact Or.inl cpu
        · have other : p ≠ port := by
            rintro rfl
            exact apart place
          exact Or.inr ⟨p, ⟨other, hereP⟩, (ids other).trans idP, place⟩
      · rintro (cpu | ⟨p, ⟨other, hereP⟩, idP, place⟩)
        · refine ⟨Or.inl cpu, ?_⟩
          rw [cpu]
          exact (cpu_apart userPort).symm
        · refine ⟨Or.inr ⟨p, hereP, (ids other).symm.trans idP, place⟩, ?_⟩
          rw [place]
          exact fun same => other (mxlPort_injective same)
    · rw [Function.update_of_ne own, before]
      constructor
      · rintro (cpu | ⟨p, hereP, idP, place⟩)
        · exact Or.inl cpu
        · have other : p ≠ port := by
            rintro rfl
            exact own idP.symm
          exact Or.inr ⟨p, ⟨other, hereP⟩, (ids other).trans idP, place⟩
      · rintro (cpu | ⟨p, ⟨other, hereP⟩, idP, place⟩)
        · exact Or.inl cpu
        · exact Or.inr ⟨p, hereP, (ids other).symm.trans idP, place⟩
  · rintro p ⟨other, hereP⟩
    rw [(detaches.kept p other).switchId, ids other]
    exact inv.switchId p hereP
  · intro p userP
    by_cases same : p = port
    · subst same
      rw [detaches.higher]
      exact inv.higher p userP
    · rw [(detaches.kept p same).higher]
      exact inv.higher p userP

theorem Inv.few (inv : Inv dsa on s) : s.bridges.length < 16 := by
  classical
  have listed : s.bridges.toFinset ⊆ Finset.univ.image fun p => (s.port p).bridgeId := by
    intro id member
    obtain ⟨p, -, idP⟩ := inv.used id (List.mem_toFinset.mp member)
    exact Finset.mem_image.mpr ⟨p, Finset.mem_univ p, idP⟩
  have counted := (Finset.card_le_card listed).trans Finset.card_image_le
  rw [List.toFinset_card_of_nodup inv.nodup, Finset.card_univ, Fintype.card_fin] at counted
  exact Nat.lt_succ_of_le counted

end Steps

end OpenwrtSource.Mxl862xx.BridgeLedger
