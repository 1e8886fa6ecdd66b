import WorldEngine.Query.Iterate

/-! What a query means, without caches or iterators: the entities of the archetypes whose
layout matches the filter, in storage order. -/

namespace WorldEngine

def World.matchingEntities (world : World) (filter : LayoutFilter) : List Entity :=
  (world.store.archetypes.archs.filter fun archetype =>
    filter.matchesLayout archetype.layout.components).flatMap Archetype.entities

theorem flatMap_filter_range {α β : Type} (items : List α) (keep : α → Bool)
    (part : α → List β) :
    ((List.range items.length).filter fun position => (items[position]?.map keep).getD false).flatMap
        (fun position => (items[position]?.map part).getD []) =
      (items.filter keep).flatMap part := by
  induction items using List.reverseRecOn with
  | nil => rfl
  | append_singleton front last ih =>
      have before : ∀ position ∈ List.range front.length,
          (front ++ [last])[position]? = front[position]? := fun position member =>
        List.getElem?_append_left (List.mem_range.mp member)
      rw [List.length_append, List.length_singleton, List.range_succ, List.filter_append,
        List.flatMap_append, List.filter_congr (fun position member => by rw [before position member]),
        List.flatMap_def, List.map_congr_left (fun position member => by
          rw [before position (List.mem_of_mem_filter member)]), ← List.flatMap_def, ih]
      cases keeping : keep last <;> simp [keeping, List.filter_cons]

section Consistent

variable {world : World} (consistent : world.Consistent)
include consistent

theorem searchFrom_zero (filter : LayoutFilter) :
    world.index.searchFrom filter 0 =
      (List.range world.store.archetypes.archs.length).filter fun position =>
        (world.store.archetypes.archs[position]?.map fun archetype =>
          filter.matchesLayout archetype.layout.components).getD false := by
  unfold ArchetypeComponentIndex.searchFrom
  rw [consistent, List.length_map, Nat.sub_zero, ← List.range_eq_range']
  apply List.filter_congr
  intro position _
  rw [List.getElem?_map]
  cases world.store.archetypes.archs[position]? <;> rfl

theorem entitiesAt_searchFrom (filter : LayoutFilter) :
    world.store.archetypes.entitiesAt (world.index.searchFrom filter 0) =
      world.matchingEntities filter := by
  rw [searchFrom_zero consistent]
  exact flatMap_filter_range _ _ _

theorem each_eq_matchingEntities {σ : Type} {query : Query}
    (cached : query.CacheInvariant world) (callback : σ → Entry → σ) (state : σ) :
    query.each world callback state =
      some ((query.evaluateQuery world world.storageAccessor).1,
        ((world.matchingEntities query.filter).map world.entry).foldl callback state) := by
  rw [each_eq_some consistent cached, evaluateQuery_eq cached, entitiesAt_searchFrom consistent]

/-- `Each`, `Count` and `First` on a consistent world, whatever cache the query holds: `Each`
folds the callback over the matching entities in storage order, `Count` is their number and
`First` is the first of them. -/
theorem query_refines_matchingEntities {σ : Type} {query : Query}
    (cached : query.CacheInvariant world) (callback : σ → Entry → σ) (state : σ) :
    let query' := (query.evaluateQuery world world.storageAccessor).1
    query.each world callback state =
        some (query', ((world.matchingEntities query.filter).map world.entry).foldl callback state) ∧
      query.count world = some (query', (world.matchingEntities query.filter).length) ∧
      query.first world = some (query', (world.matchingEntities query.filter).head?.map world.entry) := by
  refine ⟨each_eq_matchingEntities consistent cached callback state, ?_, ?_⟩
  · rw [count_eq_some consistent cached, evaluateQuery_eq cached, entitiesAt_searchFrom consistent]
  · rw [first_eq_some consistent cached, evaluateQuery_eq cached, entitiesAt_searchFrom consistent]

end Consistent

theorem query_refines_matchingEntities_twoArchetypes :
    let health : Layout := ⟨[0], by decide⟩
    let healthAttack : Layout := ⟨[0, 1], by decide⟩
    let world : World := ⟨0, ⟨[health, healthAttack]⟩,
      ⟨⟨[⟨0, [5], health⟩, ⟨1, [6, 8], healthAttack⟩]⟩, fun _ => none⟩⟩
    let query := newQuery ⟨fun components => 1 ∈ components⟩
    let query' := (query.evaluateQuery world world.storageAccessor).1
    world.Consistent ∧ query.CacheInvariant world ∧
      (query.each world (fun trace entry => trace ++ [entry]) [] =
          some (query', ((world.matchingEntities query.filter).map world.entry).foldl
            (fun trace entry => trace ++ [entry]) []) ∧
        query.count world = some (query', (world.matchingEntities query.filter).length) ∧
        query.first world =
          some (query', (world.matchingEntities query.filter).head?.map world.entry)) := by
  intro health healthAttack world query query'
  have consistent : world.Consistent := rfl
  have cached : query.CacheInvariant world := fun _ absent => by simp [query, newQuery] at absent
  exact ⟨consistent, cached, query_refines_matchingEntities consistent cached _ _⟩

theorem matchingEntities_located {world : World} {live : Finset Entity}
    (invariant : LocationInvariant world.store live) (filter : LayoutFilter) :
    (world.matchingEntities filter).Nodup ∧
      ∀ entity, entity ∈ world.matchingEntities filter ↔
        ∃ location archetype, world.store.locations entity = some location ∧
          world.store.archetypes.archetype location.archetypeIndex = some archetype ∧
          filter.matchesLayout archetype.layout.components = true := by
  have stored := List.nodup_flatMap.mp invariant.entities_nodup
  refine ⟨List.nodup_flatMap.mpr ⟨fun archetype member => stored.1 archetype
    (List.mem_of_mem_filter member), stored.2.sublist (List.filter_sublist _)⟩, fun entity => ?_⟩
  simp only [World.matchingEntities, List.mem_flatMap, List.mem_filter]
  constructor
  · rintro ⟨archetype, ⟨member, matched⟩, held⟩
    obtain ⟨index, found⟩ := List.mem_iff_getElem?.mp member
    change world.store.archetypes.archetype index = some archetype at found
    have live : entity ∈ live := by
      rw [Finset.mem_def, ← invariant.stored, Multiset.mem_coe]
      exact mem_entities found held
    obtain ⟨location, located⟩ := Option.isSome_iff_exists.mp ((invariant.located entity).mpr live)
    obtain ⟨archetype', found', slotted⟩ := invariant.locatedAt entity location located
    have same := invariant.archetype_unique found found' held
      (List.mem_iff_getElem?.mpr ⟨_, slotted⟩)
    rw [← same, found] at found'
    cases found'
    exact ⟨location, archetype, located, same ▸ found, matched⟩
  · rintro ⟨location, archetype, located, found, matched⟩
    obtain ⟨archetype', found', slotted⟩ := invariant.locatedAt entity location located
    rw [found, Option.some.injEq] at found'
    subst found'
    exact ⟨archetype, ⟨archetype_mem found, matched⟩, List.mem_iff_getElem?.mpr ⟨_, slotted⟩⟩

theorem World.entry_injective (world : World) : Function.Injective world.entry :=
  fun _ _ same => Entry.mk.inj same

/-- On a consistent world whose store a run reached, `Each` folds the callback over a list of
entries without repeats whose entities are exactly those located in an archetype whose layout
matches the filter. -/
theorem each_visits_matching_once {σ : Type} {query : Query} {world : World}
    {live : Finset Entity} (reachable : Reachable world.store live)
    (consistent : world.Consistent) (cached : query.CacheInvariant world)
    (callback : σ → Entry → σ) (state : σ) :
    ∃ visited : List Entry, visited.Nodup ∧
      (∀ entity, world.entry entity ∈ visited ↔
        ∃ location archetype, world.store.locations entity = some location ∧
          world.store.archetypes.archetype location.archetypeIndex = some archetype ∧
          query.filter.matchesLayout archetype.layout.components = true) ∧
      query.each world callback state =
        some ((query.evaluateQuery world world.storageAccessor).1, visited.foldl callback state) := by
  obtain ⟨distinct, located⟩ := matchingEntities_located reachable.locationInvariant query.filter
  refine ⟨(world.matchingEntities query.filter).map world.entry,
    distinct.map world.entry_injective, fun entity => ?_,
    each_eq_matchingEntities consistent cached callback state⟩
  rw [List.mem_map_of_injective world.entry_injective, located]

theorem each_visits_matching_once_swapRemove :
    ∃ store live, Reachable store live ∧ live = {8, 9} ∧
      store.archetypes = ⟨[⟨0, [9, 8], ⟨[0], List.nodup_singleton 0⟩⟩]⟩ ∧
      store.locations 9 = some ⟨0, 0⟩ ∧ store.locations 7 = none ∧
      let world : World := ⟨0, ⟨[⟨[0], List.nodup_singleton 0⟩]⟩, store⟩
      let query := newQuery ⟨fun _ => true⟩
      world.Consistent ∧ query.CacheInvariant world ∧
      ∃ visited : List Entry, visited.Nodup ∧
        (∀ entity, world.entry entity ∈ visited ↔
          ∃ location archetype, world.store.locations entity = some location ∧
            world.store.archetypes.archetype location.archetypeIndex = some archetype ∧
            query.filter.matchesLayout archetype.layout.components = true) ∧
        query.each world (fun trace entry => trace ++ [entry]) [] =
          some ((query.evaluateQuery world world.storageAccessor).1,
            visited.foldl (fun trace entry => trace ++ [entry]) []) := by
  obtain ⟨store, live, reachable, alive, archetypes, moved, -, removed⟩ := reachable_swapRemove_run
  refine ⟨store, live, reachable, alive, archetypes, moved, removed, ?_⟩
  intro world query
  have consistent : world.Consistent := by
    show [_] = store.archetypes.archs.map Archetype.layout
    rw [archetypes]
    rfl
  have cached : query.CacheInvariant world := fun _ absent => by simp [query, newQuery] at absent
  exact ⟨consistent, cached, each_visits_matching_once reachable consistent cached _ _⟩

end WorldEngine
