import WorldEngine.Query.Semantics
import WorldEngine.Query.Filter

/-! Entity creation from a set of component types, and entity removal, for one world: the spec's
contract over the archetype storage of the sources. Creation looks the layout up with
`Archetype.LayoutMatches` and appends an archetype when none has it. -/

namespace WorldEngine

def Layout.SameComponents (layout other : Layout) : Prop :=
  ∀ componentType, componentType ∈ layout.components ↔ componentType ∈ other.components

def ArchetypeStorage.LayoutsDistinct (storage : ArchetypeStorage) : Prop :=
  (storage.archs.map Archetype.layout).Pairwise fun layout other => ¬ layout.SameComponents other

/-- Modelled from the spec: the first archetype whose layout matches the components. -/
def ArchetypeStorage.findArchetype (storage : ArchetypeStorage) (components : List ComponentType) :
    Option ArchetypeIndex :=
  storage.archs.findIdx? fun archetype => archetype.layoutMatches components

/-- Modelled from the spec: the archetype of a layout. When no archetype has the layout, one is
appended at the next index and the layout registered in the index. -/
def World.archetypeFor (world : World) (layout : Layout) : World × ArchetypeIndex :=
  match world.store.archetypes.findArchetype layout.components with
  | some archetypeIndex => (world, archetypeIndex)
  | none => (world.pushArchetype layout, world.store.archetypes.count)

/-- Modelled from the spec: a world, and the counter its entity ids are taken from. -/
structure EntityWorld where
  world : World
  nextEntity : Entity

def EntityWorld.empty (id : WorldId) : EntityWorld :=
  ⟨⟨id, ⟨[]⟩, Store.empty⟩, 0⟩

/-- Modelled from the spec: `createEntity(components...)`, which returns the new id. -/
def EntityWorld.createEntity (state : EntityWorld) (layout : Layout) :
    Option (EntityWorld × Entity) :=
  let (world, archetypeIndex) := state.world.archetypeFor layout
  (world.createEntity state.nextEntity archetypeIndex).map fun world' =>
    (⟨world', state.nextEntity + 1⟩, state.nextEntity)

/-- Modelled from the spec: `removeEntity(id)`. -/
def EntityWorld.removeEntity (state : EntityWorld) (entity : Entity) : Option EntityWorld :=
  (state.world.removeEntity entity).map fun world => { state with world }

inductive EntityWorld.Operation
  | createEntity (layout : Layout)
  | removeEntity (entity : Entity)

def EntityWorld.apply (state : EntityWorld) : EntityWorld.Operation → EntityWorld
  | .createEntity layout => ((state.createEntity layout).map Prod.fst).getD state
  | .removeEntity entity => (state.removeEntity entity).getD state

def EntityWorld.run (state : EntityWorld) (operations : List EntityWorld.Operation) :
    EntityWorld :=
  operations.foldl EntityWorld.apply state

/-! The archetype lookup. With a layout's components, which have no repeats, `LayoutMatches`
is equality of layouts, so the lookup finds the archetype of the layout when there is one. -/

theorem Layout.SameComponents.symm {layout other : Layout} (same : layout.SameComponents other) :
    other.SameComponents layout :=
  fun componentType => (same componentType).symm

theorem findArchetype_eq_some {storage : ArchetypeStorage} {layout : Layout}
    {archetypeIndex : ArchetypeIndex}
    (found : storage.findArchetype layout.components = some archetypeIndex) :
    ∃ archetype, storage.archetype archetypeIndex = some archetype ∧
      archetype.layout.SameComponents layout := by
  obtain ⟨bound, matched, -⟩ := List.findIdx?_eq_some_iff_getElem.mp found
  exact ⟨_, List.getElem?_eq_getElem bound, fun componentType =>
    ((layoutMatches_eq_true_of_nodup _ layout.nodup).mp matched componentType).symm⟩

theorem findArchetype_eq_none {storage : ArchetypeStorage} {layout : Layout}
    (missing : storage.findArchetype layout.components = none) :
    ∀ archetype ∈ storage.archs, ¬ archetype.layout.SameComponents layout :=
  fun archetype member same =>
    Bool.eq_false_iff.mp (List.findIdx?_eq_none_iff.mp missing archetype member)
      ((layoutMatches_eq_true_of_nodup archetype layout.nodup).mpr fun componentType =>
        (same componentType).symm)

theorem archetypeFor_eq (world : World) (layout : Layout) :
    (∃ archetypeIndex archetype, world.archetypeFor layout = (world, archetypeIndex) ∧
      world.store.archetypes.archetype archetypeIndex = some archetype ∧
      archetype.layout.SameComponents layout) ∨
    (world.archetypeFor layout = (world.pushArchetype layout, world.store.archetypes.count) ∧
      ∀ archetype ∈ world.store.archetypes.archs, ¬ archetype.layout.SameComponents layout) := by
  unfold World.archetypeFor
  split
  · rename_i archetypeIndex found
    obtain ⟨archetype, located, same⟩ := findArchetype_eq_some found
    exact .inl ⟨archetypeIndex, archetype, rfl, located, same⟩
  · rename_i missing
    exact .inr ⟨rfl, findArchetype_eq_none missing⟩

theorem archetypeFor_found (world : World) (layout : Layout) :
    ∃ archetype, (world.archetypeFor layout).1.store.archetypes.archetype
        (world.archetypeFor layout).2 = some archetype ∧ archetype.layout.SameComponents layout ∧
      archetype.entities = ((world.store.archetypes.archetype
        (world.archetypeFor layout).2).map Archetype.entities).getD [] := by
  rcases archetypeFor_eq world layout with ⟨archetypeIndex, archetype, chosen, found, same⟩ |
    ⟨chosen, -⟩
  · rw [chosen]
    exact ⟨archetype, found, same, by rw [found]; rfl⟩
  · rw [chosen]
    exact ⟨newArchetype _ layout, List.getElem?_concat_length _ _, fun _ => Iff.rfl,
      by simp [ArchetypeStorage.archetype, ArchetypeStorage.count, newArchetype]⟩

theorem EntityWorld.createEntity_eq_some {state state' : EntityWorld} {layout : Layout}
    {entity : Entity} :
    state.createEntity layout = some (state', entity) ↔
      entity = state.nextEntity ∧ ∃ store', (state.world.archetypeFor layout).1.store.createEntity
          state.nextEntity (state.world.archetypeFor layout).2 = some store' ∧
        state' = ⟨{ (state.world.archetypeFor layout).1 with store := store' },
          state.nextEntity + 1⟩ := by
  simp only [EntityWorld.createEntity, World.createEntity, Option.map_map, Option.map_eq_some',
    Function.comp_apply, Prod.mk.injEq]
  constructor
  · rintro ⟨store', created, rfl, rfl⟩
    exact ⟨rfl, store', created, rfl⟩
  · rintro ⟨rfl, store', created, rfl⟩
    exact ⟨store', created, rfl, rfl⟩

/-- Creation always succeeds: the entity gets the next id and is appended at the last slot of an
archetype whose layout has exactly the requested component types, after the entities the
archetype held before. -/
theorem entityWorld_createEntity_located (state : EntityWorld) (layout : Layout) :
    ∃ state', state.createEntity layout = some (state', state.nextEntity) ∧
      state'.nextEntity = state.nextEntity + 1 ∧
      ∃ location archetype, state'.world.store.locations state.nextEntity = some location ∧
        state'.world.store.archetypes.archetype location.archetypeIndex = some archetype ∧
        archetype.layout.SameComponents layout ∧
        archetype.entities = ((state.world.store.archetypes.archetype
          location.archetypeIndex).map Archetype.entities).getD [] ++ [state.nextEntity] ∧
        location.slot + 1 = archetype.entities.length := by
  obtain ⟨archetype, found, same, before⟩ := archetypeFor_found state.world layout
  obtain ⟨store', created⟩ := Option.isSome_iff_exists.mp
    ((createEntity_isSome_iff _ _ _).mpr ((archetype_isSome_iff _ _).mp (by rw [found]; rfl)))
  obtain ⟨archetype', found', rfl⟩ := createEntity_eq_some.mp created
  rw [found, Option.some.injEq] at found'
  subst found'
  refine ⟨_, EntityWorld.createEntity_eq_some.mpr ⟨rfl, _, created, rfl⟩, rfl,
    ⟨_, archetype.count⟩, archetype.pushEntity state.nextEntity, Function.update_same _ _ _,
    archetype_setArchetype_self _ found, same, by rw [pushEntity_entities, ← before], ?_⟩
  simp [Archetype.count]

/-! The invariant of a world's runs, over the ghost set `live` of its live entities. -/

theorem ArchetypeStorage.LayoutsDistinct.of_layouts {storage storage' : ArchetypeStorage}
    (distinct : storage.LayoutsDistinct)
    (layouts : storage'.archs.map Archetype.layout = storage.archs.map Archetype.layout) :
    storage'.LayoutsDistinct := by
  unfold ArchetypeStorage.LayoutsDistinct
  rw [layouts]
  exact distinct

theorem ArchetypeStorage.LayoutsDistinct.pushArchetype {storage : ArchetypeStorage}
    (distinct : storage.LayoutsDistinct) (index : ArchetypeIndex) {layout : Layout}
    (missing : ∀ archetype ∈ storage.archs, ¬ archetype.layout.SameComponents layout) :
    (storage.pushArchetype index layout).LayoutsDistinct := by
  unfold ArchetypeStorage.LayoutsDistinct
  simp only [pushArchetype_archs, List.map_append, List.map_singleton, List.pairwise_append,
    List.pairwise_singleton, List.mem_singleton, List.mem_map]
  refine ⟨distinct, trivial, ?_⟩
  rintro _ ⟨archetype, member, rfl⟩ _ rfl
  exact missing archetype member

theorem ArchetypeStorage.LayoutsDistinct.index_eq {storage : ArchetypeStorage}
    (distinct : storage.LayoutsDistinct) {index index' : ArchetypeIndex}
    {archetype archetype' : Archetype} (found : storage.archetype index = some archetype)
    (found' : storage.archetype index' = some archetype')
    (same : archetype.layout.SameComponents archetype'.layout) : index = index' := by
  have apart := List.pairwise_iff_getElem.mp distinct
  simp only [List.length_map, List.getElem_map] at apart
  obtain ⟨bound, rfl⟩ := List.getElem?_eq_some_iff.mp found
  obtain ⟨bound', rfl⟩ := List.getElem?_eq_some_iff.mp found'
  rcases Nat.lt_trichotomy index index' with before | equal | after
  · exact absurd same (apart index index' bound bound' before)
  · exact equal
  · exact absurd same.symm (apart index' index bound' bound after)

structure EntityWorld.Invariant (state : EntityWorld) (live : Finset Entity) : Prop where
  reachable : Reachable state.world.store live
  consistent : state.world.Consistent
  distinct : state.world.store.archetypes.LayoutsDistinct
  fresh : ∀ entity ∈ live, entity < state.nextEntity

theorem entityWorld_invariant_empty (id : WorldId) : (EntityWorld.empty id).Invariant ∅ where
  reachable := .empty
  consistent := rfl
  distinct := List.Pairwise.nil
  fresh := fun _ absent => absurd absent (Finset.not_mem_empty _)

section Step

variable {state : EntityWorld} {live : Finset Entity}

theorem EntityWorld.Invariant.archetypeFor (invariant : state.Invariant live) (layout : Layout) :
    EntityWorld.Invariant ⟨(state.world.archetypeFor layout).1, state.nextEntity⟩ live := by
  rcases archetypeFor_eq state.world layout with ⟨_, _, chosen, -, -⟩ | ⟨chosen, missing⟩
  · rw [chosen]
    exact invariant
  · rw [chosen]
    exact ⟨Reachable.createArchetype layout invariant.reachable,
      invariant.consistent.pushArchetype layout, invariant.distinct.pushArchetype _ missing,
      invariant.fresh⟩

theorem EntityWorld.Invariant.createEntity (invariant : state.Invariant live) {layout : Layout}
    {state' : EntityWorld} {entity : Entity}
    (created : state.createEntity layout = some (state', entity)) :
    state'.Invariant (insert entity live) := by
  obtain ⟨rfl, store', storeCreated, rfl⟩ := EntityWorld.createEntity_eq_some.mp created
  have chosen := invariant.archetypeFor layout
  refine ⟨chosen.reachable.createEntity (fun member => lt_irrefl _ (invariant.fresh _ member))
    storeCreated, chosen.consistent.of_layouts (layouts_createEntity storeCreated),
    chosen.distinct.of_layouts (layouts_createEntity storeCreated), fun other member => ?_⟩
  rcases Finset.mem_insert.mp member with rfl | old
  · exact Nat.lt_succ_self _
  · exact Nat.lt_succ_of_lt (invariant.fresh other old)

theorem EntityWorld.Invariant.removeEntity (invariant : state.Invariant live) {entity : Entity}
    {state' : EntityWorld} (removed : state.removeEntity entity = some state') :
    state'.Invariant (live.erase entity) := by
  obtain ⟨world', removedWorld, rfl⟩ := Option.map_eq_some'.mp removed
  obtain ⟨⟨_, store'⟩, removedAt, rfl⟩ := Option.map_eq_some'.mp removedWorld
  obtain ⟨location, -, -, located, -⟩ := removeEntity_eq_some.mp removedAt
  have member := (invariant.reachable.locationInvariant.located entity).mp
    (Option.isSome_iff_exists.mpr ⟨location, located⟩)
  exact ⟨invariant.reachable.removeEntity member removedAt,
    invariant.consistent.of_layouts (layouts_removeEntity removedAt),
    invariant.distinct.of_layouts (layouts_removeEntity removedAt),
    fun other kept => invariant.fresh other (Finset.mem_of_mem_erase kept)⟩

theorem EntityWorld.Invariant.apply (invariant : state.Invariant live)
    (operation : EntityWorld.Operation) : ∃ live', (state.apply operation).Invariant live' := by
  cases operation with
  | createEntity layout =>
      cases created : state.createEntity layout with
      | none => exact ⟨live, by simpa only [EntityWorld.apply, created] using invariant⟩
      | some result =>
          exact ⟨insert result.2 live, by
            simpa only [EntityWorld.apply, created] using invariant.createEntity created⟩
  | removeEntity entity =>
      cases removed : state.removeEntity entity with
      | none => exact ⟨live, by simpa only [EntityWorld.apply, removed] using invariant⟩
      | some state' =>
          exact ⟨live.erase entity, by
            simpa only [EntityWorld.apply, removed] using invariant.removeEntity removed⟩

theorem EntityWorld.Invariant.run (invariant : state.Invariant live)
    (operations : List EntityWorld.Operation) :
    ∃ live', (state.run operations).Invariant live' := by
  induction operations generalizing state live with
  | nil => exact ⟨live, invariant⟩
  | cons operation rest ih =>
      obtain ⟨live', invariant'⟩ := invariant.apply operation
      exact ih invariant'

end Step

/-- Whatever entities a world creates and removes, its runs are runs of the entity-location
store, every live id is below the counter, so that the next id is fresh, and the index keeps
the layout of each archetype at its index. -/
theorem entityWorld_run_reachable (id : WorldId) (operations : List EntityWorld.Operation) :
    let state := (EntityWorld.empty id).run operations
    (∃ live, Reachable state.world.store live ∧ ∀ entity ∈ live, entity < state.nextEntity) ∧
      state.world.Consistent := by
  obtain ⟨live, invariant⟩ := (entityWorld_invariant_empty id).run operations
  exact ⟨⟨live, invariant.reachable, invariant.fresh⟩, invariant.consistent⟩

/-- Whatever entities a world creates and removes, no two of its archetypes have the same
layout. -/
theorem entityWorld_layouts_distinct (id : WorldId) (operations : List EntityWorld.Operation)
    {index index' : ArchetypeIndex} {archetype archetype' : Archetype}
    (found : ((EntityWorld.empty id).run operations).world.store.archetypes.archetype index =
      some archetype)
    (found' : ((EntityWorld.empty id).run operations).world.store.archetypes.archetype index' =
      some archetype')
    (same : archetype.layout.SameComponents archetype'.layout) : index = index' := by
  obtain ⟨live, invariant⟩ := (entityWorld_invariant_empty id).run operations
  exact invariant.distinct.index_eq found found' same

theorem entityWorld_layouts_distinct_reordered :
    let layout : Layout := ⟨[0, 1], by decide⟩
    let operations : List EntityWorld.Operation :=
      [.createEntity layout, .createEntity ⟨[1, 0], by decide⟩]
    let archetypes := ((EntityWorld.empty 0).run operations).world.store.archetypes
    archetypes.archetype 0 = some ⟨0, [0, 1], layout⟩ ∧ archetypes.archetype 1 = none ∧
      layout.SameComponents layout ∧ 0 = 0 :=
  ⟨rfl, rfl, fun _ => Iff.rfl,
    @entityWorld_layouts_distinct 0
      [.createEntity ⟨[0, 1], by decide⟩, .createEntity ⟨[1, 0], by decide⟩] 0 0
      ⟨0, [0, 1], ⟨[0, 1], by decide⟩⟩ ⟨0, [0, 1], ⟨[0, 1], by decide⟩⟩ rfl rfl fun _ => Iff.rfl⟩

/-! An `EXACT` query in a world built by entity creation: since no two archetypes share a
layout, the component index finds at most one archetype for it, and the entity a creation adds
is found by the query of its layout's component types and by no other, while a removed entity is
found by no query. -/

theorem searchFrom_exact_unique {world : World} (consistent : world.Consistent)
    (distinct : world.store.archetypes.LayoutsDistinct) {components : List ComponentType}
    {index index' : Nat}
    (found : index ∈ world.index.searchFrom (FilterTree.exact components).toLayoutFilter 0)
    (found' : index' ∈ world.index.searchFrom (FilterTree.exact components).toLayoutFilter 0) :
    index = index' := by
  have located : ∀ {index}, index ∈ world.index.searchFrom
      (FilterTree.exact components).toLayoutFilter 0 →
      ∃ archetype, world.store.archetypes.archetype index = some archetype ∧
        ∀ componentType, componentType ∈ components ↔
          componentType ∈ archetype.layout.components := by
    intro index member
    obtain ⟨-, layout, found, matched⟩ := (mem_searchFrom _ _).mp member
    rw [consistent, List.getElem?_map, Option.map_eq_some'] at found
    obtain ⟨archetype, stored, rfl⟩ := found
    exact ⟨archetype, stored, (matchesLayout_exact _ _).mp matched⟩
  obtain ⟨archetype, stored, same⟩ := located found
  obtain ⟨archetype', stored', same'⟩ := located found'
  exact distinct.index_eq stored stored' fun componentType =>
    (same componentType).symm.trans (same' componentType)

/-- In a world built by any run of entity creations and removals, an evaluation of an `EXACT`
query returns at most one archetype, whatever cache the query holds. -/
theorem entityWorld_exact_query_unique (id : WorldId) (operations : List EntityWorld.Operation)
    (components : List ComponentType) {query : Query}
    (exactFilter : query.filter = (FilterTree.exact components).toLayoutFilter)
    (cached : query.CacheInvariant ((EntityWorld.empty id).run operations).world) :
    ((query.evaluateQuery ((EntityWorld.empty id).run operations).world
      ((EntityWorld.empty id).run operations).world.storageAccessor).2).length ≤ 1 := by
  obtain ⟨live, invariant⟩ := (entityWorld_invariant_empty id).run operations
  rw [evaluateQuery_eq cached, exactFilter]
  have sorted := searchFrom_sorted ((EntityWorld.empty id).run operations).world.index
    (FilterTree.exact components).toLayoutFilter 0
  match found : ((EntityWorld.empty id).run operations).world.index.searchFrom
      (FilterTree.exact components).toLayoutFilter 0, sorted with
  | [], _ | [_], _ => simp
  | first :: second :: _, sorted =>
      have same := searchFrom_exact_unique invariant.consistent invariant.distinct
        (found ▸ List.mem_cons_self first _) (found ▸ List.mem_cons_of_mem _ (List.mem_cons_self second _))
      have ordered := List.rel_of_sorted_cons sorted second (List.mem_cons_self _ _)
      subst same
      exact absurd ordered (Nat.lt_irrefl _)

theorem entityWorld_exact_query_unique_reordered :
    let operations : List EntityWorld.Operation :=
      [.createEntity ⟨[1, 0], by decide⟩, .createEntity ⟨[0], by decide⟩,
        .createEntity ⟨[0, 1], by decide⟩]
    let world := ((EntityWorld.empty 0).run operations).world
    let query := newQuery (FilterTree.exact [0, 1]).toLayoutFilter
    query.filter = (FilterTree.exact [0, 1]).toLayoutFilter ∧ query.CacheInvariant world ∧
      (query.evaluateQuery world world.storageAccessor).2 = [0] ∧
      (query.evaluateQuery world world.storageAccessor).2.length ≤ 1 := by
  intro operations world query
  have cached : query.CacheInvariant world := fun _ absent => by simp [query, newQuery] at absent
  exact ⟨rfl, cached, by decide, entityWorld_exact_query_unique 0 operations [0, 1] rfl cached⟩

theorem createEntity_locates_layout {state state' : EntityWorld} {layout : Layout}
    {entity : Entity} (created : state.createEntity layout = some (state', entity)) :
    ∃ location archetype, state'.world.store.locations entity = some location ∧
      state'.world.store.archetypes.archetype location.archetypeIndex = some archetype ∧
      archetype.layout.SameComponents layout := by
  obtain ⟨rfl, store', storeCreated, rfl⟩ := EntityWorld.createEntity_eq_some.mp created
  obtain ⟨archetype, found, rfl⟩ := createEntity_eq_some.mp storeCreated
  obtain ⟨archetype', found', same, -⟩ := archetypeFor_found state.world layout
  rw [found, Option.some.injEq] at found'
  subst found'
  exact ⟨_, archetype.pushEntity state.nextEntity, Function.update_same _ _ _,
    archetype_setArchetype_self _ found, same⟩

/-- In a world built by any run of creations and removals, `Each` of an `EXACT` query, whatever
valid cache it holds, visits the entity a creation adds exactly when the query lists the
component types of the entity's layout. -/
theorem entityWorld_createEntity_exact_query (id : WorldId)
    (operations : List EntityWorld.Operation) (layout : Layout) {state' : EntityWorld}
    {entity : Entity}
    (created : ((EntityWorld.empty id).run operations).createEntity layout = some (state', entity))
    (components : List ComponentType) {query : Query}
    (exactFilter : query.filter = (FilterTree.exact components).toLayoutFilter)
    (cached : query.CacheInvariant state'.world) {σ : Type} (callback : σ → Entry → σ)
    (state : σ) :
    ∃ visited : List Entry,
      query.each state'.world callback state =
        some ((query.evaluateQuery state'.world state'.world.storageAccessor).1,
          visited.foldl callback state) ∧
      (state'.world.entry entity ∈ visited ↔
        ∀ componentType, componentType ∈ components ↔ componentType ∈ layout.components) := by
  obtain ⟨live, invariant⟩ := (entityWorld_invariant_empty id).run operations
  have invariant' := invariant.createEntity created
  obtain ⟨location, archetype, located, found, same⟩ := createEntity_locates_layout created
  refine ⟨(state'.world.matchingEntities query.filter).map state'.world.entry,
    each_eq_matchingEntities invariant'.consistent cached callback state, ?_⟩
  rw [List.mem_map_of_injective state'.world.entry_injective,
    (matchingEntities_located invariant'.reachable.locationInvariant _).2, exactFilter]
  constructor
  · rintro ⟨location', archetype', located', found', matched⟩
    rw [located, Option.some.injEq] at located'
    subst located'
    rw [found, Option.some.injEq] at found'
    subst found'
    exact fun componentType =>
      ((matchesLayout_exact _ _).mp matched componentType).trans (same componentType)
  · intro listed
    exact ⟨location, archetype, located, found, (matchesLayout_exact _ _).mpr fun componentType =>
      (listed componentType).trans (same componentType).symm⟩

theorem entityWorld_createEntity_exact_query_reordered :
    ∃ visited : List Entry,
      (newQuery (FilterTree.exact [1, 0]).toLayoutFilter).each
          ((EntityWorld.empty 0).run [.createEntity ⟨[1, 0], by decide⟩,
            .createEntity ⟨[0, 1], by decide⟩]).world (fun count _ => count + 1) 0 =
        some (((newQuery (FilterTree.exact [1, 0]).toLayoutFilter).evaluateQuery
            ((EntityWorld.empty 0).run [.createEntity ⟨[1, 0], by decide⟩,
              .createEntity ⟨[0, 1], by decide⟩]).world
            ((EntityWorld.empty 0).run [.createEntity ⟨[1, 0], by decide⟩,
              .createEntity ⟨[0, 1], by decide⟩]).world.storageAccessor).1,
          visited.foldl (fun count _ => count + 1) 0) ∧
      (((EntityWorld.empty 0).run [.createEntity ⟨[1, 0], by decide⟩,
          .createEntity ⟨[0, 1], by decide⟩]).world.entry 1 ∈ visited ↔
        ∀ componentType, componentType ∈ [1, 0] ↔ componentType ∈ [0, 1]) :=
  entityWorld_createEntity_exact_query 0 [.createEntity ⟨[1, 0], by decide⟩] ⟨[0, 1], by decide⟩
    rfl [1, 0] rfl (fun _ absent => by simp [newQuery] at absent) (fun count _ => count + 1) 0

/-- In a world built by any run of creations and removals, once an entity is removed, `Each` of
any query, whatever valid cache it holds, does not visit it. -/
theorem entityWorld_removeEntity_not_visited (id : WorldId)
    (operations : List EntityWorld.Operation) {entity : Entity} {state' : EntityWorld}
    (removed : ((EntityWorld.empty id).run operations).removeEntity entity = some state')
    {query : Query} (cached : query.CacheInvariant state'.world) {σ : Type}
    (callback : σ → Entry → σ) (state : σ) :
    ∃ visited : List Entry,
      query.each state'.world callback state =
        some ((query.evaluateQuery state'.world state'.world.storageAccessor).1,
          visited.foldl callback state) ∧
      state'.world.entry entity ∉ visited := by
  obtain ⟨live, invariant⟩ := (entityWorld_invariant_empty id).run operations
  have invariant' := invariant.removeEntity removed
  refine ⟨(state'.world.matchingEntities query.filter).map state'.world.entry,
    each_eq_matchingEntities invariant'.consistent cached callback state, ?_⟩
  rw [List.mem_map_of_injective state'.world.entry_injective,
    (matchingEntities_located invariant'.reachable.locationInvariant _).2]
  rintro ⟨location, -, located, -⟩
  exact Finset.not_mem_erase entity live
    ((invariant'.reachable.locationInvariant.located entity).mp (by rw [located]; rfl))

theorem entityWorld_removeEntity_not_visited_first :
    let layout : Layout := ⟨[0], List.nodup_singleton 0⟩
    let world := ((EntityWorld.empty 0).run
      [.createEntity layout, .createEntity layout, .removeEntity 0]).world
    let query := newQuery ⟨fun _ => true⟩
    ∃ visited : List Entry,
      query.each world (fun count _ => count + 1) 0 =
        some ((query.evaluateQuery world world.storageAccessor).1,
          visited.foldl (fun count _ => count + 1) 0) ∧
      world.entry 0 ∉ visited :=
  @entityWorld_removeEntity_not_visited 0
    [.createEntity ⟨[0], List.nodup_singleton 0⟩, .createEntity ⟨[0], List.nodup_singleton 0⟩] 0
    ((EntityWorld.empty 0).run [.createEntity ⟨[0], List.nodup_singleton 0⟩,
      .createEntity ⟨[0], List.nodup_singleton 0⟩, .removeEntity 0]) rfl (newQuery ⟨fun _ => true⟩)
    (fun _ absent => by simp [newQuery] at absent) Nat (fun count _ => count + 1) 0

end WorldEngine
