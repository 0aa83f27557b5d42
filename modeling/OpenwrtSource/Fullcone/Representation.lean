import OpenwrtSource.Fullcone.EventSystem

/-!
# Representation of the mapping tables

What `WellFormed` says, spelled out on the two tables, for every state that a
run from empty tables reaches, and for the tables that the final
`nf_nat_fullcone_destroy_mappings` leaves.
-/

namespace OpenwrtSource.Fullcone.Representation

open Lib.Run Fullcone.L3Family Fullcone.Mapping Fullcone.TableEffects Fullcone.EventSystem

variable {A : Type}

/-- Each mapping is linked once in each table, in the bucket of its external
port and of its internal endpoint, and counts its tuples; a linked node is a
mapping. -/
structure Represented (k : Kernel) (fam : Family A) (t : Tables A) : Prop where
  ext : ∀ id mapping, t.heap id = some mapping → ∀ b,
    (t.byExtPort b).count id = if b = extPortBucket k mapping.port then 1 else 0
  int : ∀ id mapping, t.heap id = some mapping → ∀ b,
    (t.byIntSrc b).count id =
      if b = intSrcBucket k fam mapping.intAddr mapping.intPort then 1 else 0
  refer : ∀ id mapping, t.heap id = some mapping →
    mapping.referCount = mapping.originalTupleList.length
  extLinked : ∀ b, ∀ id ∈ t.byExtPort b, (t.heap id).isSome = true
  intLinked : ∀ b, ∀ id ∈ t.byIntSrc b, (t.heap id).isSome = true

def TablesEmpty (t : Tables A) : Prop := ∀ b, t.byExtPort b = [] ∧ t.byIntSrc b = []

theorem represented_of_wellFormed {k : Kernel} {fam : Family A} {t : Tables A}
    (wf : WellFormed k fam t) : Represented k fam t := by
  refine ⟨?_, ?_, wf.refer, ?_, ?_⟩
  · intro id mapping found b
    rw [wf.ext id b, found]
    exact if_congr eq_comm rfl rfl
  · intro id mapping found b
    rw [wf.int id b, found]
    exact if_congr eq_comm rfl rfl
  · intro b id member
    obtain ⟨mapping, found, -⟩ := (wf.ext.mem_iff id b).mp member
    simp [found]
  · intro b id member
    obtain ⟨mapping, found, -⟩ := (wf.int.mem_iff id b).mp member
    simp [found]

theorem destroyMappings_empty {k : Kernel} {fam : Family A} {t : Tables A}
    (wf : WellFormed k fam t) : TablesEmpty (destroyMappings t) := by
  obtain ⟨wellFormed, -, gone⟩ := destroyMappings_effects wf
  have represented := represented_of_wellFormed wellFormed
  intro b
  constructor
  · refine List.eq_nil_iff_forall_not_mem.mpr fun id member => ?_
    have linked := represented.extLinked b id member
    simp [gone id] at linked
  · refine List.eq_nil_iff_forall_not_mem.mpr fun id member => ?_
    have linked := represented.intLinked b id member
    simp [gone id] at linked

/-- Every run keeps the representation of both protocols, and the final
destruction empties both tables of both. -/
theorem mapping_tables_represented (k : Kernel) (events : List Event) :
    let s := run (EventSystem.step k) State.init events
    let final := EventSystem.step k s .destroyMappings
    Represented k ipv4 s.ipv4 ∧ Represented k ipv6 s.ipv6 ∧
      TablesEmpty final.ipv4 ∧ TablesEmpty final.ipv6 := by
  have wf4 := reachable_wellFormed half4 (k := k) events
  have wf6 := reachable_wellFormed half6 (k := k) events
  exact ⟨represented_of_wellFormed wf4, represented_of_wellFormed wf6,
    destroyMappings_empty wf4, destroyMappings_empty wf6⟩

end OpenwrtSource.Fullcone.Representation
