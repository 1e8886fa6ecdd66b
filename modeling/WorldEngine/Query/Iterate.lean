import WorldEngine.Query.Cache

/-! `Query.Each`, `Query.Count` and `Query.First` (`cardinal/query.go`): each evaluates the
query, then walks the matching archetypes with an entity iterator. -/

namespace WorldEngine

/-- Modelled from the spec: `Entry` is not in the sources; it is the handle of one entity. -/
structure Entry where
  entity : Entity
deriving DecidableEq, Repr

/-- Modelled from the spec: `World.Entry`, the handle of an entity. -/
def World.entry (_world : World) (entity : Entity) : Entry :=
  ⟨entity⟩

/-- Modelled from the spec: `storage.EntityIterator` is not in the sources. It visits the
archetype indices in order, and `Next` returns the entities of the archetype at the next one,
panicking where `Archetype(index)` does. Here it holds the indices still to visit. -/
structure EntityIterator where
  archetypes : ArchetypeStorage
  indices : List ArchetypeIndex

def newEntityIterator (current : Nat) (archetypes : ArchetypeStorage)
    (indices : List ArchetypeIndex) : EntityIterator :=
  ⟨archetypes, indices.drop current⟩

def EntityIterator.hasNext (iterator : EntityIterator) : Bool :=
  !iterator.indices.isEmpty

def EntityIterator.forEach {σ : Type} (iterator : EntityIterator) (body : σ → List Entity → σ)
    (state : σ) : Option σ :=
  walk iterator.indices state
where
  walk : List ArchetypeIndex → σ → Option σ
    | [], state => some state
    | index :: rest, state => do
        let archetype ← iterator.archetypes.archetype index
        walk rest (body state archetype.entities)

def EntityIterator.first (iterator : EntityIterator) : Option (Option Entity) :=
  walk iterator.indices
where
  walk : List ArchetypeIndex → Option (Option Entity)
    | [] => some none
    | index :: rest => do
        let archetype ← iterator.archetypes.archetype index
        match archetype.entities with
        | entity :: _ => some (some entity)
        | [] => walk rest

def Query.each {σ : Type} (query : Query) (world : World) (callback : σ → Entry → σ)
    (state : σ) : Option (Query × σ) :=
  let accessor := world.storageAccessor
  let (query', result) := query.evaluateQuery world accessor
  let iter := newEntityIterator 0 accessor.archetypes result
  let visit := fun state (entities : List Entity) =>
    entities.foldl (fun state entity => callback state (world.entry entity)) state
  (iter.forEach visit state).map fun state => (query', state)

def Query.count (query : Query) (world : World) : Option (Query × Nat) :=
  let accessor := world.storageAccessor
  let (query', result) := query.evaluateQuery world accessor
  let iter := newEntityIterator 0 accessor.archetypes result
  (iter.forEach (fun ret entities => ret + entities.length) 0).map fun ret => (query', ret)

/-- `Query.First`: `none` for `(nil, false)`. -/
def Query.first (query : Query) (world : World) : Option (Query × Option Entry) :=
  let accessor := world.storageAccessor
  let (query', result) := query.evaluateQuery world accessor
  let iter := newEntityIterator 0 accessor.archetypes result
  if !iter.hasNext then some (query', none)
  else iter.first.map fun first => (query', first.map world.entry)

def ArchetypeStorage.entitiesOf (archetypes : ArchetypeStorage) (index : ArchetypeIndex) :
    List Entity :=
  ((archetypes.archetype index).map Archetype.entities).getD []

def ArchetypeStorage.entitiesAt (archetypes : ArchetypeStorage)
    (indices : List ArchetypeIndex) : List Entity :=
  indices.flatMap archetypes.entitiesOf

theorem entitiesOf_of_archetype {archetypes : ArchetypeStorage} {index : ArchetypeIndex}
    {archetype : Archetype} (found : archetypes.archetype index = some archetype) :
    archetypes.entitiesOf index = archetype.entities := by
  simp [ArchetypeStorage.entitiesOf, found]

theorem archetype_of_lt {archetypes : ArchetypeStorage} {index : ArchetypeIndex}
    (bound : index < archetypes.count) :
    ∃ archetype, archetypes.archetype index = some archetype :=
  Option.isSome_iff_exists.mp ((archetype_isSome_iff archetypes index).mpr bound)

section Walk

variable {archetypes : ArchetypeStorage} (remaining : List ArchetypeIndex)

theorem forEach_walk_eq {σ : Type} (body : σ → List Entity → σ) {indices : List ArchetypeIndex}
    (inRange : ∀ index ∈ indices, index < archetypes.count) (state : σ) :
    EntityIterator.forEach.walk ⟨archetypes, remaining⟩ body indices state =
      some ((indices.map archetypes.entitiesOf).foldl body state) := by
  induction indices generalizing state with
  | nil => rfl
  | cons index rest ih =>
      obtain ⟨archetype, found⟩ := archetype_of_lt (inRange index (List.mem_cons_self _ _))
      simp only [EntityIterator.forEach.walk, found, Option.bind_eq_bind, Option.some_bind,
        List.map_cons, List.foldl_cons, entitiesOf_of_archetype found]
      exact ih (fun other member => inRange other (List.mem_cons_of_mem _ member)) _

theorem first_walk_eq {indices : List ArchetypeIndex}
    (inRange : ∀ index ∈ indices, index < archetypes.count) :
    EntityIterator.first.walk ⟨archetypes, remaining⟩ indices =
      some (archetypes.entitiesAt indices).head? := by
  induction indices with
  | nil => rfl
  | cons index rest ih =>
      obtain ⟨archetype, found⟩ := archetype_of_lt (inRange index (List.mem_cons_self _ _))
      simp only [EntityIterator.first.walk, found, Option.bind_eq_bind, Option.some_bind,
        ArchetypeStorage.entitiesAt, List.flatMap_cons, entitiesOf_of_archetype found]
      cases archetype.entities with
      | nil => exact ih (fun other member => inRange other (List.mem_cons_of_mem _ member))
      | cons entity _ => rfl

end Walk

theorem foldl_add_length (lists : List (List Entity)) (total : Nat) :
    lists.foldl (fun ret entities => ret + entities.length) total = total + lists.flatten.length := by
  induction lists generalizing total with
  | nil => rfl
  | cons entities rest ih =>
      simp only [List.foldl_cons, ih, List.flatten_cons, List.length_append]
      omega

section Agree

variable {query : Query} {world : World} (consistent : world.Consistent)
  (cached : query.CacheInvariant world)
include consistent cached

theorem evaluateQuery_inRange :
    ∀ index ∈ (query.evaluateQuery world world.storageAccessor).2,
      index < world.store.archetypes.count := by
  rw [evaluateQuery_eq cached, consistent.count_eq]
  exact fun index member => searchFrom_lt _ _ member

theorem each_eq_some {σ : Type} (callback : σ → Entry → σ) (state : σ) :
    query.each world callback state =
      some ((query.evaluateQuery world world.storageAccessor).1,
        ((world.store.archetypes.entitiesAt (query.evaluateQuery world world.storageAccessor).2).map
          world.entry).foldl callback state) := by
  simp only [Query.each, EntityIterator.forEach, newEntityIterator, List.drop_zero,
    storageAccessor_archetypes, forEach_walk_eq _ _ (evaluateQuery_inRange consistent cached),
    Option.map_some', ArchetypeStorage.entitiesAt, List.flatMap_def, List.foldl_flatten,
    List.foldl_map]

theorem count_eq_some :
    query.count world =
      some ((query.evaluateQuery world world.storageAccessor).1,
        (world.store.archetypes.entitiesAt (query.evaluateQuery world world.storageAccessor).2).length) := by
  simp only [Query.count, EntityIterator.forEach, newEntityIterator, List.drop_zero,
    storageAccessor_archetypes, forEach_walk_eq _ _ (evaluateQuery_inRange consistent cached),
    Option.map_some', ArchetypeStorage.entitiesAt, List.flatMap_def, foldl_add_length,
    Nat.zero_add]

theorem first_eq_some :
    query.first world =
      some ((query.evaluateQuery world world.storageAccessor).1,
        (world.store.archetypes.entitiesAt
          (query.evaluateQuery world world.storageAccessor).2).head?.map world.entry) := by
  simp only [Query.first, EntityIterator.first, newEntityIterator, List.drop_zero,
    EntityIterator.hasNext, storageAccessor_archetypes,
    first_walk_eq _ (evaluateQuery_inRange consistent cached), Option.map_some']
  split
  · rename_i empty
    simp only [Bool.not_eq_true', Bool.not_eq_false', List.isEmpty_iff] at empty
    simp [empty, ArchetypeStorage.entitiesAt]
  · rfl

end Agree

/-- Each, Count and First agree: the entries `Each` folds over are those of the entities of the
archetypes the evaluation returns, concatenated in order; `Count` is their number; `First` is
the first of them, or `(nil, false)` when there is none. -/
theorem each_count_first_agree {σ : Type} (query : Query) (world : World)
    (consistent : world.Consistent) (cached : query.CacheInvariant world)
    (callback : σ → Entry → σ) (state : σ) :
    let evaluated := query.evaluateQuery world world.storageAccessor
    let visited := world.store.archetypes.entitiesAt evaluated.2
    query.each world callback state =
        some (evaluated.1, (visited.map world.entry).foldl callback state) ∧
      query.count world = some (evaluated.1, visited.length) ∧
      query.first world = some (evaluated.1, visited.head?.map world.entry) :=
  ⟨each_eq_some consistent cached callback state, count_eq_some consistent cached,
    first_eq_some consistent cached⟩

theorem each_count_first_agree_twoEntities :
    let layout : Layout := ⟨[0], by decide⟩
    let world : World := ⟨0, ⟨[layout]⟩, ⟨⟨[⟨0, [5, 6], layout⟩]⟩, fun _ => none⟩⟩
    let query := newQuery ⟨fun _ => true⟩
    let evaluated := query.evaluateQuery world world.storageAccessor
    let visited := world.store.archetypes.entitiesAt evaluated.2
    world.Consistent ∧ query.CacheInvariant world ∧
      (query.each world (fun trace entry => trace ++ [entry]) [] =
          some (evaluated.1, (visited.map world.entry).foldl (fun trace entry => trace ++ [entry]) []) ∧
        query.count world = some (evaluated.1, visited.length) ∧
        query.first world = some (evaluated.1, visited.head?.map world.entry)) := by
  intro layout world query evaluated visited
  have consistent : world.Consistent := rfl
  have cached : query.CacheInvariant world := fun _ absent => by simp [query, newQuery] at absent
  exact ⟨consistent, cached, each_count_first_agree query world consistent cached _ _⟩

end WorldEngine
