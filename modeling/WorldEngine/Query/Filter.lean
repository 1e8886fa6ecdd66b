import WorldEngine.Storage.Index

/-! The layout filters a query holds, as the tagged variant of the spec, generic in its leaves:
component types for a `LayoutFilter`, component names for what CQL parses. -/

namespace WorldEngine

/-- Modelled from the spec: the filter tree. `exact` and `contains` list the components. -/
inductive FilterTree (α : Type)
  | exact (components : List α)
  | contains (components : List α)
  | not (filter : FilterTree α)
  | and (left right : FilterTree α)
  | or (left right : FilterTree α)
deriving DecidableEq, Repr

/-- Modelled from the spec: `MatchesLayout` of each variant. `EXACT` holds when the layout is
set-equal to the components, `CONTAINS` when the layout holds every one of them. -/
def FilterTree.matchesLayout : FilterTree ComponentType → List ComponentType → Bool
  | .exact components, layout =>
      (components.all fun componentType => componentType ∈ layout) &&
        layout.all fun componentType => componentType ∈ components
  | .contains components, layout => components.all fun componentType => componentType ∈ layout
  | .not filter, layout => !filter.matchesLayout layout
  | .and left right, layout => left.matchesLayout layout && right.matchesLayout layout
  | .or left right, layout => left.matchesLayout layout || right.matchesLayout layout

def FilterTree.toLayoutFilter (filter : FilterTree ComponentType) : LayoutFilter :=
  ⟨filter.matchesLayout⟩

def FilterTree.leaves {α : Type} : FilterTree α → List α
  | .exact components | .contains components => components
  | .not filter => filter.leaves
  | .and left right | .or left right => left.leaves ++ right.leaves

def FilterTree.map {α β : Type} (f : α → β) : FilterTree α → FilterTree β
  | .exact components => .exact (components.map f)
  | .contains components => .contains (components.map f)
  | .not filter => .not (filter.map f)
  | .and left right => .and (left.map f) (right.map f)
  | .or left right => .or (left.map f) (right.map f)

theorem matchesLayout_exact (components layout : List ComponentType) :
    (FilterTree.exact components).matchesLayout layout = true ↔
      ∀ componentType, componentType ∈ components ↔ componentType ∈ layout := by
  simp only [FilterTree.matchesLayout, Bool.and_eq_true, List.all_eq_true, decide_eq_true_eq]
  exact ⟨fun ⟨into, back⟩ componentType => ⟨into componentType, back componentType⟩,
    fun same => ⟨fun componentType => (same componentType).mp,
      fun componentType => (same componentType).mpr⟩⟩

end WorldEngine
