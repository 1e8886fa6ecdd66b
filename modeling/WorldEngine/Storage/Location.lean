import WorldEngine.Storage.Archetype
import Mathlib.Data.Finset.Basic

/-! The entity-location index over the archetype storage: a side table from each entity to its
`(ArchetypeIndex, slot)`, kept in step with `PushEntity` and `SwapRemove`. -/

namespace WorldEngine

structure EntityLocation where
  archetypeIndex : ArchetypeIndex
  slot : Nat
deriving DecidableEq, Repr

/-- Modelled from the spec: the entity-location index is not in the sources. The store is
the archetype storage with the side table beside it. -/
structure Store where
  archetypes : ArchetypeStorage
  locations : Entity → Option EntityLocation

def Store.empty : Store :=
  ⟨newArchetypeAccessor, fun _ => none⟩

def Store.createArchetype (store : Store) (layout : Layout) : Store :=
  { store with archetypes := store.archetypes.pushArchetype store.archetypes.count layout }

/-- Modelled from the spec: entity creation is not in the sources. The entity's location is
the archetype's next slot, then `PushEntity` appends it. -/
def Store.createEntity (store : Store) (entity : Entity) (archetypeIndex : ArchetypeIndex) :
    Option Store := do
  let archetype ← store.archetypes.archetype archetypeIndex
  pure { archetypes := store.archetypes.setArchetype archetypeIndex (archetype.pushEntity entity)
         locations := Function.update store.locations entity
           (some ⟨archetypeIndex, archetype.count⟩) }

/-- Modelled from the spec: entity removal is not in the sources. `SwapRemove` empties the
entity's slot, its location is erased, and the entity moved into the slot, if any, is
re-indexed there. -/
def Store.removeEntity (store : Store) (entity : Entity) : Option (Entity × Store) := do
  let location ← store.locations entity
  let archetype ← store.archetypes.archetype location.archetypeIndex
  let (removed, archetype') ← archetype.swapRemove location.slot
  let locations := Function.update store.locations entity none
  let locations :=
    if slotBound : location.slot < archetype'.entities.length then
      Function.update locations archetype'.entities[location.slot] (some location)
    else locations
  pure (removed, { archetypes := store.archetypes.setArchetype location.archetypeIndex archetype'
                   locations })

@[simp] theorem createArchetype_archs (store : Store) (layout : Layout) :
    (store.createArchetype layout).archetypes.archs =
      store.archetypes.archs ++ [newArchetype store.archetypes.count layout] := rfl

@[simp] theorem createArchetype_locations (store : Store) (layout : Layout) :
    (store.createArchetype layout).locations = store.locations := rfl

theorem createEntity_eq_some {store store' : Store} {entity : Entity}
    {archetypeIndex : ArchetypeIndex} :
    store.createEntity entity archetypeIndex = some store' ↔
      ∃ archetype, store.archetypes.archetype archetypeIndex = some archetype ∧
        store' = { archetypes := store.archetypes.setArchetype archetypeIndex
                     (archetype.pushEntity entity)
                   locations := Function.update store.locations entity
                     (some ⟨archetypeIndex, archetype.count⟩) } := by
  simp only [Store.createEntity, Option.bind_eq_bind, Option.bind_eq_some, Option.pure_def,
    Option.some.injEq]
  constructor <;> rintro ⟨archetype, found, rfl⟩ <;> exact ⟨archetype, found, rfl⟩

theorem createEntity_isSome_iff (store : Store) (entity : Entity)
    (archetypeIndex : ArchetypeIndex) :
    (store.createEntity entity archetypeIndex).isSome ↔ archetypeIndex < store.archetypes.count := by
  rw [← archetype_isSome_iff, Store.createEntity]
  cases store.archetypes.archetype archetypeIndex <;> rfl

theorem removeEntity_eq_some {store store' : Store} {entity removed : Entity} :
    store.removeEntity entity = some (removed, store') ↔
      ∃ location archetype archetype', store.locations entity = some location ∧
        store.archetypes.archetype location.archetypeIndex = some archetype ∧
        archetype.swapRemove location.slot = some (removed, archetype') ∧
        store' = { archetypes := store.archetypes.setArchetype location.archetypeIndex archetype'
                   locations := fun other =>
                     if archetype'.entities[location.slot]? = some other then some location
                     else if other = entity then none else store.locations other } := by
  have normalized : ∀ (location : EntityLocation) (archetype' : Archetype),
      (if slotBound : location.slot < archetype'.entities.length then
        Function.update (Function.update store.locations entity none)
          archetype'.entities[location.slot] (some location)
      else Function.update store.locations entity none) = fun other =>
        if archetype'.entities[location.slot]? = some other then some location
        else if other = entity then none else store.locations other := by
    intro location archetype'
    funext other
    split
    · rename_i slotBound
      simp only [Function.update_apply, List.getElem?_eq_getElem slotBound, Option.some.injEq,
        eq_comm (a := other)]
    · rename_i slotBound
      simp [Function.update_apply, List.getElem?_eq_none (Nat.le_of_not_lt slotBound)]
  simp only [Store.removeEntity, Option.bind_eq_bind, Option.bind_eq_some, normalized]
  constructor
  · rintro ⟨location, located, archetype, found, ⟨_, archetype'⟩, removedAt, same⟩
    simp only [Option.pure_def, Option.some.injEq, Prod.mk.injEq] at same
    obtain ⟨rfl, rfl⟩ := same
    exact ⟨location, archetype, archetype', located, found, removedAt, rfl⟩
  · rintro ⟨location, archetype, archetype', located, found, removedAt, rfl⟩
    exact ⟨location, located, archetype, found, (removed, archetype'), removedAt, rfl⟩

theorem layouts_createEntity {store store' : Store} {entity : Entity}
    {archetypeIndex : ArchetypeIndex} (created : store.createEntity entity archetypeIndex = some store') :
    store'.archetypes.archs.map Archetype.layout = store.archetypes.archs.map Archetype.layout := by
  obtain ⟨archetype, found, rfl⟩ := createEntity_eq_some.mp created
  exact layouts_setArchetype found (pushEntity_layout archetype entity)

theorem layouts_removeEntity {store store' : Store} {entity removed : Entity}
    (removedAt : store.removeEntity entity = some (removed, store')) :
    store'.archetypes.archs.map Archetype.layout = store.archetypes.archs.map Archetype.layout := by
  obtain ⟨location, archetype, archetype', -, found, swapped, rfl⟩ := removeEntity_eq_some.mp removedAt
  exact layouts_setArchetype found (swapRemove_layout swapped)

/-! The invariant, over the ghost set `live` of the entities created and not yet removed. -/

structure LocationInvariant (store : Store) (live : Finset Entity) : Prop where
  stored : (store.archetypes.entities : Multiset Entity) = live.val
  located : ∀ entity, (store.locations entity).isSome ↔ entity ∈ live
  locatedAt : ∀ entity location, store.locations entity = some location →
    ∃ archetype, store.archetypes.archetype location.archetypeIndex = some archetype ∧
      archetype.entities[location.slot]? = some entity

section Invariant

variable {store : Store} {live : Finset Entity}

theorem LocationInvariant.entities_nodup (invariant : LocationInvariant store live) :
    store.archetypes.entities.Nodup :=
  Multiset.coe_nodup.mp (invariant.stored ▸ live.nodup)

theorem LocationInvariant.archetype_unique (invariant : LocationInvariant store live)
    {index index' : ArchetypeIndex} {archetype archetype' : Archetype} {entity : Entity}
    (found : store.archetypes.archetype index = some archetype)
    (found' : store.archetypes.archetype index' = some archetype')
    (member : entity ∈ archetype.entities) (member' : entity ∈ archetype'.entities) :
    index = index' := by
  have disjoint := (List.nodup_flatMap.mp invariant.entities_nodup).2
  obtain ⟨bound, rfl⟩ := List.getElem?_eq_some_iff.mp found
  obtain ⟨bound', rfl⟩ := List.getElem?_eq_some_iff.mp found'
  by_contra distinct
  rcases Nat.lt_or_gt_of_ne distinct with before | after
  · exact List.pairwise_iff_getElem.mp disjoint _ _ bound bound' before member member'
  · exact List.pairwise_iff_getElem.mp disjoint _ _ bound' bound after member' member

theorem locationInvariant_empty : LocationInvariant Store.empty ∅ where
  stored := rfl
  located _ := by simp [Store.empty]
  locatedAt _ _ absent := by simp [Store.empty] at absent

theorem LocationInvariant.createArchetype (invariant : LocationInvariant store live)
    (layout : Layout) : LocationInvariant (store.createArchetype layout) live where
  stored := by simpa [ArchetypeStorage.entities, newArchetype] using invariant.stored
  located := invariant.located
  locatedAt entity location located := by
    obtain ⟨archetype, found, slotted⟩ := invariant.locatedAt entity location located
    exact ⟨archetype, archetype_pushArchetype _ layout found, slotted⟩

theorem LocationInvariant.createEntity (invariant : LocationInvariant store live)
    {store' : Store} {entity : Entity} {archetypeIndex : ArchetypeIndex} (fresh : entity ∉ live)
    (created : store.createEntity entity archetypeIndex = some store') :
    LocationInvariant store' (insert entity live) := by
  obtain ⟨archetype, found, rfl⟩ := createEntity_eq_some.mp created
  refine ⟨?_, fun other => ?_, fun other location located => ?_⟩
  · rw [Finset.insert_val_of_not_mem fresh, ← invariant.stored]
    apply add_right_cancel (b := (archetype.entities : Multiset Entity))
    rw [entities_setArchetype_add found, pushEntity_entities, ← Multiset.coe_add, ← Multiset.singleton_add,
      Multiset.coe_singleton]
    ac_rfl
  · dsimp only
    by_cases same : other = entity
    · subst same
      simp
    · simp [Function.update_noteq same, same, invariant.located other]
  · dsimp only at located ⊢
    by_cases same : other = entity
    · subst same
      simp only [Function.update_same, Option.some.injEq] at located
      subst located
      exact ⟨_, archetype_setArchetype_self _ found, pushEntity_getElem?_count _ _⟩
    · rw [Function.update_noteq same] at located
      obtain ⟨archetype', found', slotted⟩ := invariant.locatedAt other location located
      by_cases here : location.archetypeIndex = archetypeIndex
      · rw [here, found, Option.some.injEq] at found'
        subst found'
        refine ⟨_, by rw [here]; exact archetype_setArchetype_self _ found, ?_⟩
        rw [pushEntity_entities, List.getElem?_append_left (List.getElem?_eq_some_iff.mp slotted).1]
        exact slotted
      · exact ⟨archetype', (archetype_setArchetype_ne _ _ (Ne.symm here)).trans found', slotted⟩

theorem LocationInvariant.removeEntity (invariant : LocationInvariant store live)
    {store' : Store} {entity removed : Entity}
    (removedAt : store.removeEntity entity = some (removed, store')) :
    removed = entity ∧ LocationInvariant store' (live.erase entity) := by
  obtain ⟨location, archetype, archetype', located, found, swapped, rfl⟩ :=
    removeEntity_eq_some.mp removedAt
  obtain ⟨archetypeAt, foundAt, slotted⟩ := invariant.locatedAt entity location located
  rw [found, Option.some.injEq] at foundAt
  subst foundAt
  have returned : removed = entity := by
    simpa [slotted] using (swapRemove_removed swapped).symm
  subst returned
  have found' := archetype_setArchetype_self archetype' found
  have stored : ((store.archetypes.setArchetype location.archetypeIndex archetype').entities :
      Multiset Entity) = (live.erase removed).val := by
    have moved := entities_setArchetype_add found archetype'
    rw [Multiset.coe_eq_coe.mpr (swapRemove_perm swapped), ← Multiset.cons_coe,
      Multiset.add_cons, ← Multiset.cons_add] at moved
    rw [Finset.erase_val, ← invariant.stored, ← add_right_cancel moved, Multiset.erase_cons_head]
  refine ⟨rfl, stored, fun other => ?located, fun other otherLocation otherLocated => ?locatedAt⟩
  case located =>
    dsimp only
    split_ifs with movedHere same
    · simp only [Option.isSome_some, true_iff, Finset.mem_def, ← stored, Multiset.mem_coe]
      exact mem_entities found' (List.mem_iff_getElem?.mpr ⟨_, movedHere⟩)
    · subst same
      simp
    · rw [Finset.mem_erase, ← invariant.located other]
      exact ⟨fun isSome => ⟨same, isSome⟩, And.right⟩
  case locatedAt =>
    dsimp only at otherLocated ⊢
    split_ifs at otherLocated with movedHere same
    · cases otherLocated
      exact ⟨archetype', found', movedHere⟩
    obtain ⟨archetypeAt, foundAt, slottedAt⟩ := invariant.locatedAt other otherLocation otherLocated
    by_cases here : otherLocation.archetypeIndex = location.archetypeIndex
    · rw [here, found, Option.some.injEq] at foundAt
      subst foundAt
      exact ⟨archetype', here ▸ found',
        (swapRemove_moved swapped slottedAt same).resolve_right movedHere⟩
    · exact ⟨archetypeAt, (archetype_setArchetype_ne _ _ (Ne.symm here)).trans foundAt, slottedAt⟩

theorem LocationInvariant.removeEntity_isSome (invariant : LocationInvariant store live)
    {entity : Entity} (member : entity ∈ live) :
    ∃ store', store.removeEntity entity = some (entity, store') := by
  obtain ⟨location, located⟩ := Option.isSome_iff_exists.mp ((invariant.located entity).mpr member)
  obtain ⟨archetype, found, slotted⟩ := invariant.locatedAt entity location located
  obtain ⟨⟨removed, archetype'⟩, swapped⟩ := Option.isSome_iff_exists.mp
    (swapRemove_isSome_iff.mpr (List.getElem?_eq_some_iff.mp slotted).1)
  have removedAt := removeEntity_eq_some.mpr ⟨location, archetype, archetype', located, found,
    swapped, rfl⟩
  rw [(invariant.removeEntity removedAt).1] at removedAt
  exact ⟨_, removedAt⟩

end Invariant

inductive Reachable : Store → Finset Entity → Prop
  | empty : Reachable Store.empty ∅
  | createArchetype {store live} (layout : Layout) :
      Reachable store live → Reachable (store.createArchetype layout) live
  | createEntity {store store' live entity archetypeIndex} :
      Reachable store live → entity ∉ live →
      store.createEntity entity archetypeIndex = some store' →
      Reachable store' (insert entity live)
  | removeEntity {store store' live entity removed} :
      Reachable store live → entity ∈ live →
      store.removeEntity entity = some (removed, store') →
      Reachable store' (live.erase entity)

theorem Reachable.locationInvariant {store : Store} {live : Finset Entity}
    (reachable : Reachable store live) : LocationInvariant store live := by
  induction reachable with
  | empty => exact locationInvariant_empty
  | createArchetype layout _ invariant => exact invariant.createArchetype layout
  | createEntity _ fresh created invariant => exact invariant.createEntity fresh created
  | removeEntity _ _ removedAt invariant => exact (invariant.removeEntity removedAt).2

/-- Over every run, removal returns the entity removed, each live entity is stored exactly
once over all archetypes and no other entity is, and the side table locates exactly the live
entities, each at a slot of an existing archetype that holds it. -/
theorem reachable_locations_consistent {store : Store} {live : Finset Entity}
    (reachable : Reachable store live) :
    (∀ entity ∈ live, ∃ store', store.removeEntity entity = some (entity, store')) ∧
    (∀ entity, store.archetypes.entities.count entity = if entity ∈ live then 1 else 0) ∧
    (∀ entity, (store.locations entity).isSome ↔ entity ∈ live) ∧
    (∀ entity location, store.locations entity = some location →
      ∃ archetype, store.archetypes.archetype location.archetypeIndex = some archetype ∧
        location.slot < archetype.count ∧ archetype.entities[location.slot]? = some entity) := by
  have invariant := reachable.locationInvariant
  refine ⟨fun _ member => invariant.removeEntity_isSome member, fun entity => ?_,
    invariant.located, fun entity location located => ?_⟩
  · rw [← Multiset.coe_count, invariant.stored, Multiset.count_eq_of_nodup live.nodup]
    rfl
  · obtain ⟨archetype, found, slotted⟩ := invariant.locatedAt entity location located
    exact ⟨archetype, found, (List.getElem?_eq_some_iff.mp slotted).1, slotted⟩

theorem reachable_swapRemove_run :
    ∃ store live, Reachable store live ∧ live = {8, 9} ∧
      store.archetypes = ⟨[⟨0, [9, 8], ⟨[0], List.nodup_singleton 0⟩⟩]⟩ ∧
      store.locations 9 = some ⟨0, 0⟩ ∧ store.locations 8 = some ⟨0, 1⟩ ∧
      store.locations 7 = none :=
  ⟨_, _, @Reachable.removeEntity _ _ _ 7 _ (@Reachable.createEntity _ _ _ 9 0
      (@Reachable.createEntity _ _ _ 8 0 (@Reachable.createEntity _ _ _ 7 0
        (.createArchetype ⟨[0], List.nodup_singleton 0⟩ .empty) (Finset.not_mem_empty 7) rfl)
        (by decide) rfl) (by decide) rfl) (by decide) rfl, by decide, rfl, rfl, rfl, rfl⟩

theorem reachable_locations_consistent_swapRemove :
    ∃ store live, Reachable store live ∧ live = {8, 9} ∧
      store.archetypes = ⟨[⟨0, [9, 8], ⟨[0], List.nodup_singleton 0⟩⟩]⟩ ∧
      store.locations 9 = some ⟨0, 0⟩ ∧ store.locations 7 = none ∧
      ((∀ entity ∈ live, ∃ store', store.removeEntity entity = some (entity, store')) ∧
        (∀ entity, store.archetypes.entities.count entity = if entity ∈ live then 1 else 0) ∧
        (∀ entity, (store.locations entity).isSome ↔ entity ∈ live) ∧
        (∀ entity location, store.locations entity = some location →
          ∃ archetype, store.archetypes.archetype location.archetypeIndex = some archetype ∧
            location.slot < archetype.count ∧ archetype.entities[location.slot]? = some entity)) :=
  let ⟨store, live, reachable, alive, archetypes, moved, _, removed⟩ := reachable_swapRemove_run
  ⟨store, live, reachable, alive, archetypes, moved, removed,
    reachable_locations_consistent reachable⟩

/-- Over every run, the archetype at each index records that index: archetypes are only ever
pushed at index `Count()`, and entity operations keep an archetype where it is. -/
theorem reachable_archetype_index {store : Store} {live : Finset Entity}
    (reachable : Reachable store live) :
    ∀ (index : Nat) archetype, store.archetypes.archetype index = some archetype →
      archetype.index = index := by
  induction reachable with
  | empty => intro index archetype found; cases found
  | createArchetype layout _ indexed =>
      exact ArchetypeStorage.Indexed.pushArchetype indexed layout
  | createEntity _ _ created indexed =>
      obtain ⟨archetype, found, rfl⟩ := createEntity_eq_some.mp created
      exact ArchetypeStorage.Indexed.setArchetype indexed found rfl
  | removeEntity _ _ removedAt indexed =>
      obtain ⟨_, _, _, -, found, swapped, rfl⟩ := removeEntity_eq_some.mp removedAt
      exact ArchetypeStorage.Indexed.setArchetype indexed found (swapRemove_index swapped)

theorem reachable_archetype_index_swapRemove :
    ∃ store live, Reachable store live ∧ live = {8, 9} ∧
      store.archetypes = ⟨[⟨0, [9, 8], ⟨[0], List.nodup_singleton 0⟩⟩]⟩ ∧
      ∀ (index : Nat) archetype, store.archetypes.archetype index = some archetype →
        archetype.index = index :=
  let ⟨store, live, reachable, alive, archetypes, _⟩ := reachable_swapRemove_run
  ⟨store, live, reachable, alive, archetypes, reachable_archetype_index reachable⟩

end WorldEngine
