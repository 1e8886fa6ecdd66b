import WorldEngine.Storage.Index
import WorldEngine.Storage.Location

/-! The per-world cache of a query (`cardinal/query.go`): the matching archetype indices found
so far and the mark `seen` of archetypes already tested. -/

namespace WorldEngine

abbrev WorldId := Nat

structure Cache where
  archetypes : List ArchetypeIndex
  seen : Nat

structure Query where
  layoutMatches : WorldId → Option Cache
  filter : LayoutFilter

def newQuery (filter : LayoutFilter) : Query :=
  ⟨fun _ => none, filter⟩

/-- Modelled from the spec: `StorageAccessor` is not in the sources; a query reads the index
and the archetypes from it. -/
structure StorageAccessor where
  index : ArchetypeComponentIndex
  archetypes : ArchetypeStorage

/-- Modelled from the spec: `World` is not in the sources. A world has an id, the component
index, and the store of archetypes and entity locations. -/
structure World where
  id : WorldId
  index : ArchetypeComponentIndex
  store : Store

def World.storageAccessor (world : World) : StorageAccessor :=
  ⟨world.index, world.store.archetypes⟩

@[simp] theorem storageAccessor_archetypes (world : World) :
    world.storageAccessor.archetypes = world.store.archetypes := rfl

def World.pushArchetype (world : World) (layout : Layout) : World :=
  { world with index := world.index.push layout, store := world.store.createArchetype layout }

def Query.evaluateQuery (query : Query) (world : World) (accessor : StorageAccessor) :
    Query × List ArchetypeIndex :=
  let w := world.id
  let cache := (query.layoutMatches w).getD ⟨[], 0⟩
  let archetypes := cache.archetypes ++ accessor.index.searchFrom query.filter cache.seen
  ({ query with
      layoutMatches := Function.update query.layoutMatches w
        (some ⟨archetypes, accessor.archetypes.count⟩) },
    archetypes)

@[simp] theorem evaluateQuery_filter (query : Query) (world : World) (accessor : StorageAccessor) :
    (query.evaluateQuery world accessor).1.filter = query.filter := rfl

def World.Consistent (world : World) : Prop :=
  world.index.layouts = world.store.archetypes.archs.map Archetype.layout

def Query.CacheInvariant (query : Query) (world : World) : Prop :=
  ∀ cache, query.layoutMatches world.id = some cache →
    cache.seen ≤ world.index.layouts.length ∧
      cache.archetypes ++ world.index.searchFrom query.filter cache.seen =
        world.index.searchFrom query.filter 0

section Evaluate

variable {query : Query} {world : World}

theorem World.Consistent.count_eq (consistent : world.Consistent) :
    world.store.archetypes.count = world.index.layouts.length := by
  rw [consistent, List.length_map, ArchetypeStorage.count]

theorem World.Consistent.pushArchetype (consistent : world.Consistent) (layout : Layout) :
    (world.pushArchetype layout).Consistent := by
  unfold World.Consistent at consistent ⊢
  simp [World.pushArchetype, consistent, newArchetype]

theorem evaluateQuery_eq (cached : query.CacheInvariant world) :
    query.evaluateQuery world world.storageAccessor =
      ({ query with
          layoutMatches := Function.update query.layoutMatches world.id
            (some ⟨world.index.searchFrom query.filter 0, world.store.archetypes.count⟩) },
        world.index.searchFrom query.filter 0) := by
  have completed : ((query.layoutMatches world.id).getD ⟨[], 0⟩).archetypes ++
      world.index.searchFrom query.filter ((query.layoutMatches world.id).getD ⟨[], 0⟩).seen =
        world.index.searchFrom query.filter 0 := by
    cases found : query.layoutMatches world.id with
    | none => rfl
    | some cache => exact (cached cache found).2
  simp only [Query.evaluateQuery, World.storageAccessor, completed]

theorem Query.CacheInvariant.evaluateQuery (consistent : world.Consistent)
    (cached : query.CacheInvariant world) :
    (query.evaluateQuery world world.storageAccessor).1.CacheInvariant world := by
  rw [evaluateQuery_eq cached]
  intro cache found
  simp only [Function.update_same, Option.some.injEq] at found
  subst found
  simp [consistent.count_eq, searchFrom_length]

theorem Query.CacheInvariant.evaluateQuery_other {other : World}
    (cached : query.CacheInvariant world) (cachedOther : query.CacheInvariant other)
    (distinct : other.id ≠ world.id) :
    (query.evaluateQuery world world.storageAccessor).1.CacheInvariant other := by
  rw [evaluateQuery_eq cached]
  intro cache found
  dsimp only at found ⊢
  rw [Function.update_noteq distinct] at found
  exact cachedOther cache found

theorem Query.CacheInvariant.pushArchetype (cached : query.CacheInvariant world) (layout : Layout) :
    query.CacheInvariant (world.pushArchetype layout) := by
  intro cache found
  obtain ⟨lower, completed⟩ := cached cache found
  simp only [World.pushArchetype, push_layouts, List.length_append, List.length_singleton]
  refine ⟨by omega, ?_⟩
  rw [searchFrom_push _ _ _ lower, searchFrom_push _ _ _ (Nat.zero_le _), ← completed,
    List.append_assoc]

end Evaluate

/-! One query shared by several worlds, under every interleaving of archetype creations,
entity creations and removals, and evaluations. -/

def World.createEntity (world : World) (entity : Entity) (archetypeIndex : ArchetypeIndex) :
    Option World :=
  (world.store.createEntity entity archetypeIndex).map fun store => { world with store }

def World.removeEntity (world : World) (entity : Entity) : Option World :=
  (world.store.removeEntity entity).map fun removed => { world with store := removed.2 }

structure SharedQuery where
  worlds : List World
  query : Query

inductive SharedQuery.Operation
  | pushArchetype (position : Nat) (layout : Layout)
  | createEntity (position : Nat) (entity : Entity) (archetypeIndex : ArchetypeIndex)
  | removeEntity (position : Nat) (entity : Entity)
  | evaluate (position : Nat)

def SharedQuery.update (system : SharedQuery) (position : Nat) (change : World → Option World) :
    SharedQuery :=
  match system.worlds[position]? >>= change with
  | some world' => { system with worlds := system.worlds.set position world' }
  | none => system

def SharedQuery.apply (system : SharedQuery) : SharedQuery.Operation → SharedQuery
  | .pushArchetype position layout =>
      system.update position fun world => some (world.pushArchetype layout)
  | .createEntity position entity archetypeIndex =>
      system.update position fun world => world.createEntity entity archetypeIndex
  | .removeEntity position entity =>
      system.update position fun world => world.removeEntity entity
  | .evaluate position =>
      match system.worlds[position]? with
      | some world =>
          { system with query := (system.query.evaluateQuery world world.storageAccessor).1 }
      | none => system

def SharedQuery.run (system : SharedQuery) (operations : List SharedQuery.Operation) :
    SharedQuery :=
  operations.foldl SharedQuery.apply system

structure SharedQuery.Invariant (system : SharedQuery) : Prop where
  distinct : (system.worlds.map World.id).Nodup
  consistent : ∀ world ∈ system.worlds, world.Consistent
  cached : ∀ world ∈ system.worlds, system.query.CacheInvariant world

theorem SharedQuery.Invariant.update {system : SharedQuery} (invariant : system.Invariant)
    (position : Nat) (change : World → Option World)
    (keeps : ∀ world world', change world = some world' → world.Consistent →
      system.query.CacheInvariant world →
        world'.id = world.id ∧ world'.Consistent ∧ system.query.CacheInvariant world') :
    (system.update position change).Invariant := by
  unfold SharedQuery.update
  split
  · rename_i world' changed
    obtain ⟨world, found, changed⟩ := Option.bind_eq_some.mp changed
    have member := List.mem_iff_getElem?.mpr ⟨_, found⟩
    obtain ⟨same, consistent', cached'⟩ := keeps world world' changed
      (invariant.consistent world member) (invariant.cached world member)
    refine ⟨(map_set_of_eq World.id found same).symm ▸ invariant.distinct,
      fun other member' => ?_, fun other member' => ?_⟩
    · rcases List.mem_or_eq_of_mem_set member' with old | rfl
      · exact invariant.consistent other old
      · exact consistent'
    · rcases List.mem_or_eq_of_mem_set member' with old | rfl
      · exact invariant.cached other old
      · exact cached'
  · exact invariant

theorem World.Consistent.of_layouts {world : World} {store : Store} (consistent : world.Consistent)
    (layouts : store.archetypes.archs.map Archetype.layout =
      world.store.archetypes.archs.map Archetype.layout) :
    ({ world with store } : World).Consistent :=
  consistent.trans layouts.symm

theorem SharedQuery.Invariant.apply {system : SharedQuery} (invariant : system.Invariant)
    (operation : SharedQuery.Operation) : (system.apply operation).Invariant := by
  cases operation with
  | pushArchetype position layout =>
      refine invariant.update position _ fun world world' changed consistent cached => ?_
      cases changed
      exact ⟨rfl, consistent.pushArchetype layout, cached.pushArchetype layout⟩
  | createEntity position entity archetypeIndex =>
      refine invariant.update position _ fun world world' changed consistent cached => ?_
      obtain ⟨store, created, rfl⟩ := Option.map_eq_some'.mp changed
      exact ⟨rfl, consistent.of_layouts (layouts_createEntity created), cached⟩
  | removeEntity position entity =>
      refine invariant.update position _ fun world world' changed consistent cached => ?_
      obtain ⟨⟨removed, store⟩, removedAt, rfl⟩ := Option.map_eq_some'.mp changed
      exact ⟨rfl, consistent.of_layouts (layouts_removeEntity removedAt), cached⟩
  | evaluate position =>
      cases found : system.worlds[position]? with
      | none => simpa only [SharedQuery.apply, found] using invariant
      | some world =>
          simp only [SharedQuery.apply, found]
          have member := List.mem_iff_getElem?.mpr ⟨_, found⟩
          refine ⟨invariant.distinct, invariant.consistent, fun world' member' => ?_⟩
          by_cases same : world'.id = world.id
          · rw [List.inj_on_of_nodup_map invariant.distinct member' member same]
            exact (invariant.cached world member).evaluateQuery (invariant.consistent world member)
          · exact (invariant.cached world member).evaluateQuery_other
              (invariant.cached world' member') same

theorem SharedQuery.Invariant.run {system : SharedQuery} (invariant : system.Invariant)
    (operations : List SharedQuery.Operation) : (system.run operations).Invariant := by
  induction operations generalizing system with
  | nil => exact invariant
  | cons operation rest ih => exact ih (invariant.apply operation)

@[simp] theorem SharedQuery.run_filter (system : SharedQuery)
    (operations : List SharedQuery.Operation) :
    (system.run operations).query.filter = system.query.filter := by
  induction operations generalizing system with
  | nil => rfl
  | cons operation rest ih =>
      refine (ih _).trans ?_
      cases operation <;> simp only [SharedQuery.apply, SharedQuery.update] <;> split <;> rfl

/-- Worlds with distinct ids, each index agreeing with its archetypes, and a query with no
cache for any of them: after every interleaving of archetype creations, entity creations and
removals, and evaluations, an evaluation on any of the worlds returns the full scan from 0
(increasing, every index below the world's archetype count) and marks the world's cache at the
archetype count, so that a second evaluation tests no archetype: it returns the same, and
returns the cached list whatever filter it is given. -/
theorem sharedQuery_evaluateQuery_refines {worlds : List World} {query : Query}
    (distinct : (worlds.map World.id).Nodup) (consistent : ∀ world ∈ worlds, world.Consistent)
    (fresh : ∀ world ∈ worlds, query.layoutMatches world.id = none)
    (operations : List SharedQuery.Operation) {world : World}
    (member : world ∈ ((⟨worlds, query⟩ : SharedQuery).run operations).worlds) :
    let evaluated := ((⟨worlds, query⟩ : SharedQuery).run operations).query.evaluateQuery world
      world.storageAccessor
    evaluated.2 = world.index.searchFrom query.filter 0 ∧ evaluated.2.Sorted (· < ·) ∧
      (∀ index ∈ evaluated.2, index < world.store.archetypes.count) ∧
      evaluated.1.layoutMatches world.id = some ⟨evaluated.2, world.store.archetypes.count⟩ ∧
      evaluated.1.evaluateQuery world world.storageAccessor = evaluated ∧
      ∀ filter : LayoutFilter,
        (({ evaluated.1 with filter } : Query).evaluateQuery world world.storageAccessor).2 =
          evaluated.2 := by
  have start : (⟨worlds, query⟩ : SharedQuery).Invariant :=
    ⟨distinct, consistent, fun world member cache found => by simp [fresh world member] at found⟩
  have invariant := start.run operations
  have cached := invariant.cached world member
  have counted := (invariant.consistent world member).count_eq
  have cached' := cached.evaluateQuery (invariant.consistent world member)
  dsimp only
  rw [evaluateQuery_eq cached] at cached' ⊢
  refine ⟨by simp, searchFrom_sorted _ _ _, fun index found => ?_, by simp, ?_, fun filter => ?_⟩
  · exact counted ▸ searchFrom_lt _ _ found
  · rw [evaluateQuery_eq cached']
    simp
  · simp [Query.evaluateQuery, World.storageAccessor, counted, searchFrom_length]

theorem sharedQuery_evaluateQuery_refines_single :
    let world : World := ⟨0, ⟨[]⟩, Store.empty⟩
    let pushed := world.pushArchetype ⟨[0], List.nodup_singleton 0⟩
    let evaluated := ((⟨[world], newQuery ⟨fun _ => true⟩⟩ : SharedQuery).run
      [.pushArchetype 0 ⟨[0], List.nodup_singleton 0⟩, .evaluate 0]).query.evaluateQuery pushed
        pushed.storageAccessor
    evaluated.2 = pushed.index.searchFrom ⟨fun _ => true⟩ 0 ∧ evaluated.2.Sorted (· < ·) ∧
      (∀ index ∈ evaluated.2, index < pushed.store.archetypes.count) ∧
      evaluated.1.layoutMatches pushed.id = some ⟨evaluated.2, pushed.store.archetypes.count⟩ ∧
      evaluated.1.evaluateQuery pushed pushed.storageAccessor = evaluated ∧
      ∀ filter : LayoutFilter,
        (({ evaluated.1 with filter } : Query).evaluateQuery pushed pushed.storageAccessor).2 =
          evaluated.2 :=
  @sharedQuery_evaluateQuery_refines [⟨0, ⟨[]⟩, Store.empty⟩] (newQuery ⟨fun _ => true⟩)
    (List.nodup_singleton 0)
    (fun world member => by
      rw [List.mem_singleton.mp member]
      rfl)
    (fun world member => by
      rw [List.mem_singleton.mp member]
      rfl)
    [.pushArchetype 0 ⟨[0], List.nodup_singleton 0⟩, .evaluate 0] _ (List.mem_singleton.mpr rfl)

end WorldEngine
