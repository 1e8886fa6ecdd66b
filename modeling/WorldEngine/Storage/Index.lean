import WorldEngine.Storage.Archetype
import Mathlib.Data.List.Sort

/-! The archetype component index: the layout of every archetype at the archetype's index,
searched with a layout filter from a start position. -/

namespace WorldEngine

structure LayoutFilter where
  matchesLayout : List ComponentType → Bool

/-- Modelled from the spec: `storage.ArchetypeComponentIndex` is not in the sources. It holds
the layouts of the archetypes, in the order they were created. -/
structure ArchetypeComponentIndex where
  layouts : List Layout

/-- Modelled from the spec: registers the layout of a new archetype. -/
def ArchetypeComponentIndex.push (index : ArchetypeComponentIndex) (layout : Layout) :
    ArchetypeComponentIndex :=
  ⟨index.layouts ++ [layout]⟩

/-- Modelled from the spec: `SearchFrom(filter, start)` yields, in increasing order, every
index `i` with `start ≤ i < len(layouts)` whose layout matches the filter. -/
def ArchetypeComponentIndex.searchFrom (index : ArchetypeComponentIndex) (filter : LayoutFilter)
    (start : Nat) : List ArchetypeIndex :=
  (List.range' start (index.layouts.length - start)).filter fun position =>
    match index.layouts[position]? with
    | some layout => filter.matchesLayout layout.components
    | none => false

@[simp] theorem push_layouts (index : ArchetypeComponentIndex) (layout : Layout) :
    (index.push layout).layouts = index.layouts ++ [layout] := rfl

section Search

variable (index : ArchetypeComponentIndex) (filter : LayoutFilter)

theorem mem_searchFrom {start position : Nat} :
    position ∈ index.searchFrom filter start ↔
      start ≤ position ∧ ∃ layout, index.layouts[position]? = some layout ∧
        filter.matchesLayout layout.components = true := by
  simp only [ArchetypeComponentIndex.searchFrom, List.mem_filter, List.mem_range'_1]
  constructor
  · rintro ⟨⟨lower, upper⟩, matched⟩
    rw [List.getElem?_eq_getElem (by omega)] at matched ⊢
    exact ⟨lower, _, rfl, matched⟩
  · rintro ⟨lower, layout, found, matched⟩
    have upper := (List.getElem?_eq_some_iff.mp found).1
    exact ⟨⟨lower, by omega⟩, by rw [found]; exact matched⟩

theorem searchFrom_lt {start position : Nat} (member : position ∈ index.searchFrom filter start) :
    position < index.layouts.length := by
  obtain ⟨-, _, found, -⟩ := (mem_searchFrom index filter).mp member
  exact (List.getElem?_eq_some_iff.mp found).1

theorem searchFrom_sorted (start : Nat) : (index.searchFrom filter start).Sorted (· < ·) := by
  unfold ArchetypeComponentIndex.searchFrom
  exact (List.pairwise_lt_range' start _).filter _

theorem searchFrom_length : index.searchFrom filter index.layouts.length = [] := by
  simp [ArchetypeComponentIndex.searchFrom]

theorem searchFrom_push (layout : Layout) {start : Nat} (lower : start ≤ index.layouts.length) :
    (index.push layout).searchFrom filter start =
      index.searchFrom filter start ++
        (if filter.matchesLayout layout.components then [index.layouts.length] else []) := by
  have grown : index.layouts.length + 1 - start = (index.layouts.length - start) + 1 := by omega
  simp only [ArchetypeComponentIndex.searchFrom, push_layouts, List.length_append,
    List.length_singleton, grown, List.range'_concat, List.filter_append]
  congr 1
  · apply List.filter_congr
    intro position member
    rw [List.mem_range'_1] at member
    rw [List.getElem?_append_left (by omega)]
  · have last : start + (index.layouts.length - start) = index.layouts.length := by omega
    simp [last, List.filter_cons]

end Search

end WorldEngine
