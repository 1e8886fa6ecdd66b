import Mathlib.Data.List.Perm.Subperm
import Mathlib.Data.Multiset.Basic

/-! Archetypes and the archetype storage of `cardinal/internal/storage/archetype.go`. A Go
slice index that panics out of range is an `Option` here. -/

namespace WorldEngine

abbrev ComponentType := Nat

abbrev Entity := Nat

abbrev ArchetypeIndex := Nat

/-- Modelled from the spec: `storage.Layout` is not in the sources. A layout is an
ordered, deduplicated set of component types. -/
structure Layout where
  componentTypes : List ComponentType
  nodup : componentTypes.Nodup

def Layout.components (layout : Layout) : List ComponentType :=
  layout.componentTypes

def Layout.hasComponent (layout : Layout) (componentType : ComponentType) : Bool :=
  componentType ∈ layout.componentTypes

structure Archetype where
  index : ArchetypeIndex
  entities : List Entity
  layout : Layout

def newArchetype (index : ArchetypeIndex) (layout : Layout) : Archetype :=
  { index, entities := [], layout }

def Archetype.swapRemove (archetype : Archetype) (entityIndex : Nat) :
    Option (Entity × Archetype) := do
  let removed ← archetype.entities[entityIndex]?
  let last ← archetype.entities[archetype.entities.length - 1]?
  pure (removed, { archetype with
    entities := (archetype.entities.set entityIndex last).take (archetype.entities.length - 1) })

def Archetype.layoutMatches (archetype : Archetype) (components : List ComponentType) : Bool :=
  if archetype.layout.components.length ≠ components.length then false
  else components.all archetype.layout.hasComponent

def Archetype.pushEntity (archetype : Archetype) (entity : Entity) : Archetype :=
  { archetype with entities := archetype.entities ++ [entity] }

def Archetype.count (archetype : Archetype) : Nat :=
  archetype.entities.length

structure ArchetypeStorage where
  archs : List Archetype

def newArchetypeAccessor : ArchetypeStorage :=
  ⟨[]⟩

def ArchetypeStorage.pushArchetype (storage : ArchetypeStorage) (index : ArchetypeIndex)
    (layout : Layout) : ArchetypeStorage :=
  ⟨storage.archs ++ [newArchetype index layout]⟩

def ArchetypeStorage.count (storage : ArchetypeStorage) : Nat :=
  storage.archs.length

def ArchetypeStorage.archetype (storage : ArchetypeStorage) (index : ArchetypeIndex) :
    Option Archetype :=
  storage.archs[index]?

def ArchetypeStorage.entities (storage : ArchetypeStorage) : List Entity :=
  storage.archs.flatMap Archetype.entities

def ArchetypeStorage.setArchetype (storage : ArchetypeStorage) (index : ArchetypeIndex)
    (archetype : Archetype) : ArchetypeStorage :=
  ⟨storage.archs.set index archetype⟩

@[simp] theorem pushEntity_entities (archetype : Archetype) (entity : Entity) :
    (archetype.pushEntity entity).entities = archetype.entities ++ [entity] := rfl

@[simp] theorem pushEntity_layout (archetype : Archetype) (entity : Entity) :
    (archetype.pushEntity entity).layout = archetype.layout := rfl

@[simp] theorem pushEntity_count (archetype : Archetype) (entity : Entity) :
    (archetype.pushEntity entity).count = archetype.count + 1 := by
  simp [Archetype.count]

@[simp] theorem pushEntity_getElem?_count (archetype : Archetype) (entity : Entity) :
    (archetype.pushEntity entity).entities[archetype.count]? = some entity :=
  List.getElem?_concat_length _ _

@[simp] theorem pushArchetype_archs (storage : ArchetypeStorage) (index : ArchetypeIndex)
    (layout : Layout) :
    (storage.pushArchetype index layout).archs = storage.archs ++ [newArchetype index layout] :=
  rfl

@[simp] theorem pushArchetype_count (storage : ArchetypeStorage) (index : ArchetypeIndex)
    (layout : Layout) : (storage.pushArchetype index layout).count = storage.count + 1 := by
  simp [ArchetypeStorage.count]

@[simp] theorem setArchetype_archs (storage : ArchetypeStorage) (index : ArchetypeIndex)
    (archetype : Archetype) :
    (storage.setArchetype index archetype).archs = storage.archs.set index archetype := rfl

@[simp] theorem setArchetype_count (storage : ArchetypeStorage) (index : ArchetypeIndex)
    (archetype : Archetype) : (storage.setArchetype index archetype).count = storage.count := by
  simp [ArchetypeStorage.count]

theorem archetype_setArchetype_self {storage : ArchetypeStorage} {index : ArchetypeIndex}
    {archetype : Archetype} (archetype' : Archetype) (found : storage.archetype index = some archetype) :
    (storage.setArchetype index archetype').archetype index = some archetype' := by
  simp [ArchetypeStorage.archetype, (List.getElem?_eq_some_iff.mp found).1]

theorem archetype_setArchetype_ne (storage : ArchetypeStorage) {index other : ArchetypeIndex}
    (archetype : Archetype) (distinct : index ≠ other) :
    (storage.setArchetype index archetype).archetype other = storage.archetype other := by
  simp [ArchetypeStorage.archetype, List.getElem?_set_ne distinct]

theorem map_set_of_eq {α β : Type} {items : List α} {position : Nat} {item item' : α}
    (f : α → β) (found : items[position]? = some item) (same : f item' = f item) :
    (items.set position item').map f = items.map f := by
  apply List.ext_getElem?
  intro other
  simp only [List.getElem?_map, List.getElem?_set]
  split
  · rename_i here
    subst here
    simp [found, (List.getElem?_eq_some_iff.mp found).1, same]
  · rfl

theorem layouts_setArchetype {storage : ArchetypeStorage} {index : ArchetypeIndex}
    {archetype archetype' : Archetype} (found : storage.archetype index = some archetype)
    (same : archetype'.layout = archetype.layout) :
    (storage.setArchetype index archetype').archs.map Archetype.layout =
      storage.archs.map Archetype.layout :=
  map_set_of_eq _ found same

theorem archetype_pushArchetype {storage : ArchetypeStorage} {index : ArchetypeIndex}
    {archetype : Archetype} (pushedIndex : ArchetypeIndex) (layout : Layout)
    (found : storage.archetype index = some archetype) :
    (storage.pushArchetype pushedIndex layout).archetype index = some archetype := by
  have bound : index < storage.archs.length := (List.getElem?_eq_some_iff.mp found).1
  simpa [ArchetypeStorage.archetype, List.getElem?_append_left bound] using found

theorem archetype_mem {storage : ArchetypeStorage} {index : ArchetypeIndex}
    {archetype : Archetype} (found : storage.archetype index = some archetype) :
    archetype ∈ storage.archs := by
  obtain ⟨bound, rfl⟩ := List.getElem?_eq_some_iff.mp found
  exact List.getElem_mem bound

theorem mem_entities {storage : ArchetypeStorage} {index : ArchetypeIndex}
    {archetype : Archetype} {entity : Entity} (found : storage.archetype index = some archetype)
    (member : entity ∈ archetype.entities) : entity ∈ storage.entities :=
  List.mem_flatMap.mpr ⟨archetype, archetype_mem found, member⟩

theorem flatMap_set_add (archs : List Archetype) (index : Nat) (archetype archetype' : Archetype)
    (found : archs[index]? = some archetype) :
    (((archs.set index archetype').flatMap Archetype.entities : List Entity) : Multiset Entity) +
        archetype.entities =
      ((archs.flatMap Archetype.entities : List Entity) : Multiset Entity) + archetype'.entities := by
  induction archs generalizing index with
  | nil => simp at found
  | cons head rest ih =>
      cases index with
      | zero =>
          simp only [List.getElem?_cons_zero, Option.some.injEq] at found
          subst found
          simp only [List.set_cons_zero, List.flatMap_cons, ← Multiset.coe_add]
          ac_rfl
      | succ index =>
          simp only [List.getElem?_cons_succ] at found
          simp only [List.set_cons_succ, List.flatMap_cons, ← Multiset.coe_add, add_assoc,
            ih index found]

theorem entities_setArchetype_add {storage : ArchetypeStorage} {index : ArchetypeIndex}
    {archetype : Archetype} (found : storage.archetype index = some archetype)
    (archetype' : Archetype) :
    ((storage.setArchetype index archetype').entities : Multiset Entity) + archetype.entities =
      (storage.entities : Multiset Entity) + archetype'.entities :=
  flatMap_set_add storage.archs index archetype archetype' found

theorem archetype_lt {storage : ArchetypeStorage} {index : ArchetypeIndex} {archetype : Archetype}
    (found : storage.archetype index = some archetype) : index < storage.count :=
  (List.getElem?_eq_some_iff.mp found).1

theorem archetype_isSome_iff (storage : ArchetypeStorage) (index : ArchetypeIndex) :
    (storage.archetype index).isSome ↔ index < storage.count := by
  simp only [ArchetypeStorage.archetype, ArchetypeStorage.count, Option.isSome_iff_exists,
    List.getElem?_eq_some_iff]
  exact ⟨fun ⟨_, bound, _⟩ => bound, fun bound => ⟨_, bound, rfl⟩⟩

def ArchetypeStorage.Indexed (storage : ArchetypeStorage) : Prop :=
  ∀ (index : Nat) archetype, storage.archetype index = some archetype → archetype.index = index

theorem ArchetypeStorage.Indexed.pushArchetype {storage : ArchetypeStorage}
    (indexed : storage.Indexed) (layout : Layout) :
    (storage.pushArchetype storage.count layout).Indexed := by
  intro index archetype found
  by_cases old : index < storage.count
  · rw [ArchetypeStorage.archetype, pushArchetype_archs, List.getElem?_append_left old] at found
    exact indexed index archetype found
  · rw [ArchetypeStorage.archetype, pushArchetype_archs,
      List.getElem?_append_right (Nat.le_of_not_lt old)] at found
    obtain ⟨bound, rfl⟩ := List.getElem?_eq_some_iff.mp found
    simp only [List.length_singleton, ArchetypeStorage.count] at bound old
    simp only [List.getElem_singleton, newArchetype, ArchetypeStorage.count]
    exact Nat.le_antisymm (Nat.le_of_not_lt old) (by omega)

theorem ArchetypeStorage.Indexed.setArchetype {storage : ArchetypeStorage}
    (indexed : storage.Indexed) {index : ArchetypeIndex} {archetype archetype' : Archetype}
    (found : storage.archetype index = some archetype) (same : archetype'.index = archetype.index) :
    (storage.setArchetype index archetype').Indexed := by
  intro other written foundWritten
  by_cases here : index = other
  · subst here
    rw [archetype_setArchetype_self _ found, Option.some.injEq] at foundWritten
    subst foundWritten
    exact same.trans (indexed index archetype found)
  · rw [archetype_setArchetype_ne _ _ here] at foundWritten
    exact indexed other written foundWritten

/-! `SwapRemove`: what it returns and what the archetype holds afterwards. -/

theorem perm_swap_take (entities : List Entity) (slot : Nat) (slotBound : slot < entities.length) :
    entities.Perm (entities[slot] ::
      (entities.set slot entities[entities.length - 1]).take (entities.length - 1)) := by
  obtain ⟨front, back, split, frontLength⟩ :
      ∃ front back, entities = front ++ entities[slot] :: back ∧ front.length = slot :=
    ⟨entities.take slot, entities.drop (slot + 1), by simp, by simp; omega⟩
  generalize entities[slot] = removed at split ⊢
  subst split frontLength
  rcases back.eq_nil_or_concat with rfl | ⟨rest, last, rfl⟩
  · simp [List.take_append_of_le_length]
  · simp only [List.concat_eq_append, List.length_append, List.length_cons, List.length_singleton]
    simp [List.set_append_right, List.getElem_append_right, List.take_append]
    exact List.perm_middle.trans (((List.perm_append_singleton last rest).append_left front).cons removed)

section SwapRemove

variable {archetype archetype' : Archetype} {slot : Nat} {removed : Entity}

theorem swapRemove_eq_some :
    archetype.swapRemove slot = some (removed, archetype') ↔
      ∃ slotBound : slot < archetype.entities.length, archetype.entities[slot] = removed ∧
        archetype' = { archetype with
          entities := (archetype.entities.set slot
            archetype.entities[archetype.entities.length - 1]).take
              (archetype.entities.length - 1) } := by
  simp only [Archetype.swapRemove]
  constructor
  · intro found
    simp only [Option.bind_eq_bind, Option.bind_eq_some, List.getElem?_eq_some_iff] at found
    obtain ⟨_, ⟨slotBound, rfl⟩, _, ⟨lastBound, rfl⟩, same⟩ := found
    simp only [Option.pure_def, Option.some.injEq, Prod.mk.injEq] at same
    exact ⟨slotBound, same.1, same.2.symm⟩
  · rintro ⟨slotBound, rfl, rfl⟩
    have lastBound : archetype.entities.length - 1 < archetype.entities.length := by omega
    simp [List.getElem?_eq_getElem slotBound, List.getElem?_eq_getElem lastBound]

theorem swapRemove_isSome_iff : (archetype.swapRemove slot).isSome ↔ slot < archetype.count := by
  constructor
  · intro found
    obtain ⟨⟨removed, archetype'⟩, found⟩ := Option.isSome_iff_exists.mp found
    exact (swapRemove_eq_some.mp found).1
  · intro slotBound
    exact Option.isSome_iff_exists.mpr ⟨_, swapRemove_eq_some.mpr ⟨slotBound, rfl, rfl⟩⟩

variable (removedAt : archetype.swapRemove slot = some (removed, archetype'))
include removedAt

theorem swapRemove_removed : archetype.entities[slot]? = some removed := by
  obtain ⟨slotBound, rfl, -⟩ := swapRemove_eq_some.mp removedAt
  exact List.getElem?_eq_getElem slotBound

theorem swapRemove_layout : archetype'.layout = archetype.layout := by
  obtain ⟨-, -, rfl⟩ := swapRemove_eq_some.mp removedAt
  rfl

theorem swapRemove_index : archetype'.index = archetype.index := by
  obtain ⟨-, -, rfl⟩ := swapRemove_eq_some.mp removedAt
  rfl

theorem swapRemove_count : archetype'.count + 1 = archetype.count := by
  obtain ⟨slotBound, -, rfl⟩ := swapRemove_eq_some.mp removedAt
  simp only [Archetype.count, List.length_take, List.length_set]
  omega

theorem swapRemove_perm : archetype.entities.Perm (removed :: archetype'.entities) := by
  obtain ⟨slotBound, rfl, rfl⟩ := swapRemove_eq_some.mp removedAt
  exact perm_swap_take archetype.entities slot slotBound

theorem swapRemove_getElem? (other : Nat) :
    archetype'.entities[other]? =
      if other < archetype'.count then
        (if slot = other then archetype.entities[archetype'.count]? else archetype.entities[other]?)
      else none := by
  obtain ⟨slotBound, -, rfl⟩ := swapRemove_eq_some.mp removedAt
  have lastBound : archetype.entities.length - 1 < archetype.entities.length := by omega
  have shortened : min (archetype.entities.length - 1) archetype.entities.length =
      archetype.entities.length - 1 := by omega
  simp only [Archetype.count, List.getElem?_take, List.getElem?_set, List.length_take,
    List.length_set, shortened, slotBound, if_true, List.getElem?_eq_getElem lastBound]

theorem swapRemove_moved {entity : Entity} {other : Nat}
    (held : archetype.entities[other]? = some entity) (distinct : entity ≠ removed) :
    archetype'.entities[other]? = some entity ∨ archetype'.entities[slot]? = some entity := by
  have counted := swapRemove_count removedAt
  have slotted := swapRemove_removed removedAt
  have otherBound := (List.getElem?_eq_some_iff.mp held).1
  have slotBound := (List.getElem?_eq_some_iff.mp slotted).1
  have slotDistinct : slot ≠ other := by
    rintro rfl
    rw [held, Option.some.injEq] at slotted
    exact distinct slotted
  rw [swapRemove_getElem? removedAt, swapRemove_getElem? removedAt]
  unfold Archetype.count at counted ⊢
  by_cases below : other < archetype'.entities.length
  · exact .inl (by simp [below, slotDistinct, held])
  · have wasLast : other = archetype'.entities.length := by omega
    have slotBefore : slot < other := by omega
    exact .inr (by simp [slotBefore, ← wasLast, held])

end SwapRemove

/-! `LayoutMatches` compares lengths, then tests membership one way. -/

theorem layoutMatches_eq_true (archetype : Archetype) (components : List ComponentType) :
    archetype.layoutMatches components = true ↔
      components.length = archetype.layout.components.length ∧
        ∀ componentType ∈ components, componentType ∈ archetype.layout.components := by
  unfold Archetype.layoutMatches
  split
  · rename_i lengths
    simp only [Bool.false_eq_true, false_iff, not_and]
    exact fun same => absurd same.symm lengths
  · simp_all [Layout.hasComponent, Layout.components]

theorem layoutMatches_eq_true_of_nodup (archetype : Archetype) {components : List ComponentType}
    (distinct : components.Nodup) :
    archetype.layoutMatches components = true ↔
      ∀ componentType, componentType ∈ components ↔ componentType ∈ archetype.layout.components := by
  have layoutDistinct : archetype.layout.components.Nodup := archetype.layout.nodup
  rw [layoutMatches_eq_true, ← List.perm_ext_iff_of_nodup distinct layoutDistinct]
  constructor
  · rintro ⟨lengths, included⟩
    exact (distinct.subperm included).perm_of_length_le lengths.ge
  · intro permuted
    exact ⟨permuted.length_eq, fun _ member => permuted.subset member⟩

theorem layoutMatches_repeated_component :
    ¬ ∀ (archetype : Archetype) (components : List ComponentType),
      archetype.layoutMatches components = true ↔
        ∀ componentType, componentType ∈ components ↔
          componentType ∈ archetype.layout.components := by
  intro matchesIffSameSet
  have sameSet := (matchesIffSameSet ⟨0, [], ⟨[0, 1], by decide⟩⟩ [0, 0]).mp (by decide)
  exact absurd ((sameSet 1).mpr (by decide)) (by decide)

/-- `LayoutMatches` accepts exactly the lists as long as the layout whose entries all lie in
it; on a list without repeats that is set equality with the layout. -/
theorem layoutMatches_spec (archetype : Archetype) (components : List ComponentType) :
    (archetype.layoutMatches components = true ↔
      components.length = archetype.layout.components.length ∧
        ∀ componentType ∈ components, componentType ∈ archetype.layout.components) ∧
    (components.Nodup → (archetype.layoutMatches components = true ↔
      ∀ componentType, componentType ∈ components ↔
        componentType ∈ archetype.layout.components)) :=
  ⟨layoutMatches_eq_true archetype components,
    fun distinct => layoutMatches_eq_true_of_nodup archetype distinct⟩

end WorldEngine
