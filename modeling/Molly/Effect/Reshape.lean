import Molly.Effect.Tree

/-! Changes of trees that keep their shape. A node may change with the nodes above it and with what it
holds; its children change one by one, so the places of the changed tree are the changed places. -/
namespace Effect

/-- The change of a tree in a context, and the context its children are in. -/
structure Reshape (γ α β : Type) where
  tree : γ → RoseTree α → RoseTree β
  inside : γ → RoseTree α → γ
  children_tree : ∀ c t, (tree c t).children = t.children.map (tree (inside c t))

namespace Reshape
variable {γ α β : Type} (r : Reshape γ α β) (base : γ)

/-- The context of the children of a place. -/
def context : Place α → γ
  | [] => base
  | s :: up => r.inside (context up) s.tree

def place : Place α → Place β
  | [] => []
  | s :: up => ⟨s.index, r.tree (r.context base up) s.tree⟩ :: place up

@[simp] theorem length_place (p : Place α) : (r.place base p).length = p.length := by
  induction p with
  | nil => rfl
  | cons s up ih => rw [place, List.length_cons, List.length_cons, ih]

@[simp] theorem keys_place (p : Place α) : (r.place base p).keys = p.keys := by
  induction p with
  | nil => rfl
  | cons s up ih => exact congrArg (s.index :: ·) ih

theorem tail_place (p : Place α) : (r.place base p).tail = r.place base p.tail := by
  cases p <;> rfl

theorem place_eq_nil {p : Place α} : r.place base p = [] ↔ p = [] := by
  cases p <;> simp [place]

mutual
theorem placesFrom_place (up : Place α) (i : Nat) : ∀ t : RoseTree α,
    (r.tree (r.context base up) t).placesFrom (r.place base up) i = (t.placesFrom up i).map (r.place base)
  | .node label children => by
    have changed : (r.tree (r.context base up) (.node label children)).children =
        children.map (r.tree (r.context base (⟨i, .node label children⟩ :: up))) := r.children_tree _ _
    have first : (⟨i, r.tree (r.context base up) (.node label children)⟩ :: r.place base up : Place β) =
        r.place base (⟨i, .node label children⟩ :: up) := rfl
    cases whole : r.tree (r.context base up) (.node label children) with
    | node label' children' =>
      rw [whole] at changed first
      obtain rfl : children' = _ := changed
      rw [RoseTree.placesFrom, RoseTree.placesFrom, List.map_cons, first]
      exact congrArg _ (placesOfChildren_place _ 0 children)

theorem placesOfChildren_place (up : Place α) (i : Nat) : ∀ ts : List (RoseTree α),
    RoseTree.placesOfChildren (r.place base up) i (ts.map (r.tree (r.context base up))) =
      (RoseTree.placesOfChildren up i ts).map (r.place base)
  | [] => rfl
  | t :: ts => by
    rw [List.map_cons, RoseTree.placesOfChildren, RoseTree.placesOfChildren, List.map_append, placesFrom_place up i t,
      placesOfChildren_place up (i + 1) ts]
end

/-- The places of the changed tree are the changed places of the tree. -/
theorem iter_place (p : Place α) : (r.place base p).iter = p.iter.map (r.place base) := by
  cases p with
  | nil => rfl
  | cons s up => exact r.placesFrom_place base up s.index s.tree

variable [Inhabited α] [Inhabited β]

theorem tree_place {p : Place α} (filled : p ≠ []) : (r.place base p).tree = r.tree (r.context base p.tail) p.tree := by
  cases p with
  | nil => exact absurd rfl filled
  | cons s up => rfl

/-- The change of every label by itself. -/
def relabel (f : α → β) : Reshape Unit α β := ⟨fun _ t => t.map f, fun _ _ => (), fun _ t => RoseTree.children_map f t⟩

end Reshape
end Effect
