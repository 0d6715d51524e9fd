import Mathlib.Data.List.Basic
import Mathlib.Data.List.Nodup

/-! Ordered trees, and their places: a node with the nodes above it. The places of a tree are listed
in document order, and a place is known by the positions on the way to it. -/
namespace Effect

inductive RoseTree (α : Type) where
  | node (label : α) (children : List (RoseTree α))

namespace RoseTree

def label : RoseTree α → α
  | .node label _ => label

def children : RoseTree α → List (RoseTree α)
  | .node _ children => children

mutual
def map (f : α → β) : RoseTree α → RoseTree β
  | .node label children => .node (f label) (mapAll f children)

def mapAll (f : α → β) : List (RoseTree α) → List (RoseTree β)
  | [] => []
  | t :: ts => map f t :: mapAll f ts
end

theorem mapAll_eq (f : α → β) (ts : List (RoseTree α)) : mapAll f ts = ts.map (map f) := by
  induction ts with
  | nil => rfl
  | cons t ts ih => rw [mapAll, ih, List.map_cons]

@[simp] theorem label_map (f : α → β) (t : RoseTree α) : (t.map f).label = f t.label := by
  cases t
  rfl

@[simp] theorem children_map (f : α → β) (t : RoseTree α) : (t.map f).children = t.children.map (map f) := by
  cases t
  exact mapAll_eq f _

end RoseTree

mutual
/-- Every label of the tree is such. -/
def RoseTree.Every (P : α → Prop) : RoseTree α → Prop
  | .node label children => P label ∧ RoseTree.EveryOf P children

def RoseTree.EveryOf (P : α → Prop) : List (RoseTree α) → Prop
  | [] => True
  | t :: ts => t.Every P ∧ RoseTree.EveryOf P ts
end

theorem RoseTree.everyOf_iff {P : α → Prop} {ts : List (RoseTree α)} : RoseTree.EveryOf P ts ↔ ∀ t ∈ ts, t.Every P := by
  induction ts with
  | nil => simp [RoseTree.EveryOf]
  | cons t ts ih => simp [RoseTree.EveryOf, ih]

theorem RoseTree.every_iff {P : α → Prop} {t : RoseTree α} : t.Every P ↔ P t.label ∧ ∀ u ∈ t.children, u.Every P := by
  cases t
  rw [RoseTree.Every, RoseTree.everyOf_iff]
  rfl

/-- A node, with its position among its parent's children. -/
structure Step (α : Type) where
  index : Nat
  tree : RoseTree α

/-- A node first, then the nodes above it, up to the root. -/
abbrev Place (α : Type) := List (Step α)

namespace Place

/-- What tells a place from the others. -/
def keys (p : Place α) : List Nat := p.map Step.index

/-- The node at the place. -/
def tree [Inhabited α] : Place α → RoseTree α
  | [] => .node default []
  | s :: _ => s.tree

def label [Inhabited α] (p : Place α) : α := p.tree.label

/-- The place is reached from the base by going down to children. -/
inductive Under (base : Place α) : Place α → Prop where
  | here : Under base base
  | down {s : Step α} {up : Place α} {i : Nat} {t : RoseTree α} (above : Under base (s :: up))
      (child : s.tree.children[i]? = some t) : Under base (⟨i, t⟩ :: s :: up)

namespace Under

theorem suffix {base p : Place α} (under : Under base p) : base <:+ p := by
  induction under with
  | here => exact List.suffix_refl _
  | down _ _ ih => exact ih.trans (List.suffix_cons _ _)

theorem trans {base mid p : Place α} (first : Under base mid) (second : Under mid p) : Under base p := by
  induction second with
  | here => exact first
  | down _ child ih => exact ih.down child

/-- Two places with the same positions are one. -/
theorem unique {base p q : Place α} (left : Under base p) : Under base q → p.keys = q.keys → p = q := by
  induction left generalizing q with
  | here =>
    intro right same
    have lengths := congrArg List.length same
    simp only [keys, List.length_map] at lengths
    exact right.suffix.eq_of_length lengths
  | @down s up i t above child ih =>
    intro right same
    cases right with
    | here =>
      have lengths := congrArg List.length same
      have short := above.suffix.length_le
      simp only [keys, List.length_map, List.length_cons] at lengths short
      omega
    | @down s' up' j u above' child' =>
      simp only [keys, List.map_cons, List.cons.injEq] at same
      obtain ⟨rfl, rest⟩ := same
      have tails := ih above' (by simpa [keys] using rest)
      obtain ⟨rfl, rfl⟩ := List.cons.inj tails
      rw [child] at child'
      cases child'
      rfl

/-- What holds of every label of the base holds of the labels below it. -/
theorem every {P : α → Prop} {base p : Place α} (under : Under base p) (all : ∀ s ∈ base.head?, s.tree.Every P) :
    ∀ s ∈ p.head?, s.tree.Every P := by
  induction under with
  | here => exact all
  | @down s up i t _ child ih =>
    intro s' same
    obtain rfl := Option.mem_some_iff.mp same
    exact (RoseTree.every_iff.mp (ih s rfl)).2 t (List.mem_of_getElem? child)

theorem ne_nil {base p : Place α} (under : Under base p) (filled : base ≠ []) : p ≠ [] := by
  cases under with
  | here => exact filled
  | down _ _ => simp

/-- A place under the base stands under each of the places above it. -/
theorem of_suffix {base p q : Place α} (under : Under base p) (below : base <:+ q) (above : q <:+ p) : Under q p := by
  induction under with
  | here =>
    have same : q = base := above.eq_of_length (Nat.le_antisymm above.length_le below.length_le)
    rw [same]
    exact .here
  | @down s up i t inner child ih =>
    rcases List.suffix_cons_iff.mp above with rfl | above
    · exact .here
    · exact (ih above).down child

/-- The places above a place are under the base, if they are not above the base. -/
theorem of_above {base p q : Place α} (under : Under base p) (below : base <:+ q) (above : q <:+ p) : Under base q := by
  induction under with
  | here =>
    have same : q = base := above.eq_of_length (Nat.le_antisymm above.length_le below.length_le)
    rw [same]
    exact .here
  | @down s up i t inner child ih =>
    rcases List.suffix_cons_iff.mp above with rfl | above
    · exact inner.down child
    · exact ih above

end Under
end Place

mutual
/-- The places of a tree whose root stands at a position below others, in document order. -/
def RoseTree.placesFrom (up : Place α) (i : Nat) : RoseTree α → List (Place α)
  | .node label children => (⟨i, .node label children⟩ :: up) :: RoseTree.placesOfChildren (⟨i, .node label children⟩ :: up) 0 children

def RoseTree.placesOfChildren (up : Place α) (i : Nat) : List (RoseTree α) → List (Place α)
  | [] => []
  | t :: ts => RoseTree.placesFrom up i t ++ RoseTree.placesOfChildren up (i + 1) ts
end

/-- The places at and under a place, in document order. -/
def Place.iter : Place α → List (Place α)
  | [] => []
  | s :: up => s.tree.placesFrom up s.index

def RoseTree.places (t : RoseTree α) : List (Place α) := Place.iter [⟨0, t⟩]

namespace Place

mutual
theorem under_placesFrom (up : Place α) (i : Nat) : ∀ t : RoseTree α, ∀ p ∈ t.placesFrom up i, Under (⟨i, t⟩ :: up) p
  | .node label children, p, member => by
    rw [RoseTree.placesFrom] at member
    rcases List.mem_cons.mp member with rfl | member
    · exact .here
    · obtain ⟨j, t, child, under⟩ := under_placesOfChildren _ 0 children p member
      have first : Under (⟨i, .node label children⟩ :: up) (⟨j, t⟩ :: ⟨i, .node label children⟩ :: up) := by
        exact .down .here (by simpa only [RoseTree.children] using child)
      simp only [Nat.zero_add] at under
      exact first.trans under

theorem under_placesOfChildren (up : Place α) (i : Nat) : ∀ ts : List (RoseTree α), ∀ p ∈ RoseTree.placesOfChildren up i ts,
    ∃ j t, ts[j]? = some t ∧ Under (⟨i + j, t⟩ :: up) p
  | t :: ts, p, member => by
    rw [RoseTree.placesOfChildren] at member
    rcases List.mem_append.mp member with first | rest
    · exact ⟨0, t, rfl, under_placesFrom up i t p first⟩
    · obtain ⟨j, u, child, under⟩ := under_placesOfChildren up (i + 1) ts p rest
      have shift : i + (j + 1) = i + 1 + j := by omega
      refine ⟨j + 1, u, by simpa using child, ?_⟩
      rw [shift]
      exact under
end

theorem self_mem_placesFrom (up : Place α) (i : Nat) (t : RoseTree α) : (⟨i, t⟩ :: up) ∈ t.placesFrom up i := by
  cases t
  rw [RoseTree.placesFrom]
  exact List.mem_cons_self

theorem mem_placesOfChildren (up : Place α) {ts : List (RoseTree α)} {p : Place α} :
    ∀ {i j : Nat} {t : RoseTree α}, ts[j]? = some t → p ∈ t.placesFrom up (i + j) → p ∈ RoseTree.placesOfChildren up i ts := by
  induction ts with
  | nil =>
    intro i j t child
    simp at child
  | cons u ts ih =>
    intro i j t child member
    rw [RoseTree.placesOfChildren]
    cases j with
    | zero =>
      simp only [List.getElem?_cons_zero, Option.some.injEq] at child
      subst child
      exact List.mem_append_left _ member
    | succ j =>
      refine List.mem_append_right _ (ih (by simpa using child) ?_)
      have shift : i + 1 + j = i + (j + 1) := by omega
      rwa [shift]

mutual
/-- A listed place is followed by the places under it. -/
theorem placesFrom_closed (up : Place α) (i : Nat) : ∀ t : RoseTree α, ∀ {s : Step α} {q : Place α} {j : Nat} {u : RoseTree α},
    (s :: q) ∈ t.placesFrom up i → s.tree.children[j]? = some u → (⟨j, u⟩ :: s :: q) ∈ t.placesFrom up i
  | .node label children, s, q, j, u, member, child => by
    rw [RoseTree.placesFrom] at member ⊢
    rcases List.mem_cons.mp member with here | member
    · obtain ⟨rfl, rfl⟩ := List.cons.inj here
      refine List.mem_cons_of_mem _ (mem_placesOfChildren _ (i := 0) (j := j) (t := u) (by simpa only [RoseTree.children] using child) ?_)
      rw [Nat.zero_add]
      exact self_mem_placesFrom _ _ _
    · exact List.mem_cons_of_mem _ (placesOfChildren_closed _ 0 children member child)

theorem placesOfChildren_closed (up : Place α) (i : Nat) : ∀ ts : List (RoseTree α), ∀ {s : Step α} {q : Place α} {j : Nat}
    {u : RoseTree α}, (s :: q) ∈ RoseTree.placesOfChildren up i ts → s.tree.children[j]? = some u →
      (⟨j, u⟩ :: s :: q) ∈ RoseTree.placesOfChildren up i ts
  | t :: ts, s, q, j, u, member, child => by
    rw [RoseTree.placesOfChildren] at member ⊢
    rcases List.mem_append.mp member with first | rest
    · exact List.mem_append_left _ (placesFrom_closed up i t first child)
    · exact List.mem_append_right _ (placesOfChildren_closed up (i + 1) ts rest child)
end

theorem placesFrom_sublist (up : Place α) {ts : List (RoseTree α)} {j : Nat} {t : RoseTree α} :
    ∀ {i : Nat}, ts[j]? = some t → (t.placesFrom up (i + j)).Sublist (RoseTree.placesOfChildren up i ts) := by
  induction ts generalizing j with
  | nil =>
    intro i child
    simp at child
  | cons u ts ih =>
    intro i child
    rw [RoseTree.placesOfChildren]
    cases j with
    | zero =>
      cases child
      exact List.sublist_append_left _ _
    | succ j =>
      have shift : i + 1 + j = i + (j + 1) := by omega
      have rest := ih (i := i + 1) child
      rw [shift] at rest
      exact rest.trans (List.sublist_append_right _ _)

/-- The places under a place are listed among those under a place above it, in the same order. -/
theorem Under.iter_sublist {base p : Place α} (under : Under base p) : p.iter.Sublist base.iter := by
  induction under with
  | here => exact List.Sublist.refl _
  | @down s up i t _ child ih =>
    obtain ⟨k, label, children⟩ := s
    have step := placesFrom_sublist (⟨k, .node label children⟩ :: up) (i := 0) child
    rw [Nat.zero_add] at step
    refine List.Sublist.trans ?_ ih
    rw [iter, iter, RoseTree.placesFrom]
    exact step.cons _

mutual
/-- A place is listed before the places under it. -/
theorem placesFrom_descends (up : Place α) (i : Nat) : ∀ t : RoseTree α, (t.placesFrom up i).Pairwise fun a b => ¬b <:+ a.tail
  | .node label children => by
    rw [RoseTree.placesFrom]
    refine List.pairwise_cons.mpr ⟨fun p member above => ?_, placesOfChildren_descends _ 0 children⟩
    obtain ⟨j, t, _, under⟩ := under_placesOfChildren _ 0 children p member
    have short := above.length_le
    have long := under.suffix.length_le
    simp only [List.length_cons, List.tail_cons] at short long
    omega

theorem placesOfChildren_descends (up : Place α) (i : Nat) : ∀ ts : List (RoseTree α),
    (RoseTree.placesOfChildren up i ts).Pairwise fun a b => ¬b <:+ a.tail
  | [] => by
    rw [RoseTree.placesOfChildren]
    exact .nil
  | t :: ts => by
    rw [RoseTree.placesOfChildren]
    refine List.pairwise_append.mpr ⟨placesFrom_descends up i t, placesOfChildren_descends up (i + 1) ts, fun a first b rest above => ?_⟩
    have left := (under_placesFrom up i t a first).suffix
    obtain ⟨j, u, _, under⟩ := under_placesOfChildren up (i + 1) ts b rest
    have right := under.suffix.trans (above.trans (List.tail_suffix a))
    have same := (List.suffix_of_suffix_length_le left right (by simp)).eq_of_length (by simp)
    have index := congrArg Step.index (List.cons.inj same).1
    simp only at index
    omega
end

theorem iter_descends : ∀ base : Place α, base.iter.Pairwise fun a b => ¬b <:+ a.tail
  | [] => .nil
  | s :: up => placesFrom_descends up s.index s.tree

/-- The listed places are those that are reached by going down. -/
theorem mem_iter {base p : Place α} (filled : base ≠ []) : p ∈ base.iter ↔ Under base p := by
  obtain ⟨s, up, rfl⟩ := List.exists_cons_of_ne_nil filled
  constructor
  · intro member
    exact under_placesFrom up s.index s.tree p member
  · intro under
    induction under with
    | here => exact self_mem_placesFrom up s.index s.tree
    | down _ child ih => exact placesFrom_closed up s.index s.tree ih child

end Place

theorem RoseTree.mem_places {t : RoseTree α} {p : Place α} : p ∈ t.places ↔ Place.Under [⟨0, t⟩] p := Place.mem_iter (by simp)

end Effect
