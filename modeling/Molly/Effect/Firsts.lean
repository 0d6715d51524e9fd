import Mathlib.Data.List.Nodup
import Mathlib.Data.List.Infix

/-! The first entry of each key of a list, in the order of the list. -/
namespace Effect

variable {α κ : Type} [DecidableEq κ] (key : α → κ)

/-- One more entry, unless its key is there already. -/
def addFirst (kept : List α) (x : α) : List α := if kept.any (fun y => key y = key x) then kept else kept ++ [x]

/-- The first entry of each key. -/
def firsts (xs : List α) : List α := xs.foldl (addFirst key) []

variable {key}

theorem any_key {kept : List α} {x : α} : (kept.any fun y => key y = key x) = true ↔ key x ∈ kept.map key := by
  simp only [List.any_eq_true, decide_eq_true_eq, List.mem_map]

theorem addFirst_old {kept : List α} {x : α} (old : key x ∈ kept.map key) : addFirst key kept x = kept :=
  if_pos (any_key.mpr old)

theorem addFirst_new {kept : List α} {x : α} (fresh : key x ∉ kept.map key) : addFirst key kept x = kept ++ [x] :=
  if_neg fun old => fresh (any_key.mp old)

@[simp] theorem firsts_nil : firsts key [] = [] := rfl

theorem firsts_concat (xs : List α) (x : α) : firsts key (xs ++ [x]) = addFirst key (firsts key xs) x := by
  rw [firsts, List.foldl_append]
  rfl

/-- No key is lost, and none is made. -/
theorem firsts_keys (xs : List α) (k : κ) : k ∈ (firsts key xs).map key ↔ k ∈ xs.map key := by
  induction xs using List.reverseRecOn with
  | nil => rfl
  | append_singleton xs x ih =>
    rw [firsts_concat, List.map_append, List.mem_append, ← ih]
    by_cases old : key x ∈ (firsts key xs).map key
    · rw [addFirst_old old]
      constructor
      · exact .inl
      · intro either
        rcases either with found | last
        · exact found
        · rwa [List.mem_singleton.mp last]
    · rw [addFirst_new old, List.map_append, List.mem_append]

theorem firsts_old {xs : List α} {x : α} (old : key x ∈ xs.map key) : firsts key (xs ++ [x]) = firsts key xs := by
  rw [firsts_concat, addFirst_old ((firsts_keys xs _).mpr old)]

theorem firsts_new {xs : List α} {x : α} (fresh : key x ∉ xs.map key) : firsts key (xs ++ [x]) = firsts key xs ++ [x] := by
  rw [firsts_concat, addFirst_new fun old => fresh ((firsts_keys xs _).mp old)]

theorem firsts_nodup (xs : List α) : ((firsts key xs).map key).Nodup := by
  induction xs using List.reverseRecOn with
  | nil => exact List.nodup_nil
  | append_singleton xs x ih =>
    by_cases old : key x ∈ xs.map key
    · rwa [firsts_old old]
    · rw [firsts_new old, List.map_append, List.map_singleton, List.nodup_append]
      refine ⟨ih, List.nodup_singleton _, ?_⟩
      intro k found k' last same
      rw [List.mem_singleton.mp last] at same
      exact old ((firsts_keys xs _).mp (same ▸ found))

theorem firsts_sublist (xs : List α) : (firsts key xs).Sublist xs := by
  induction xs using List.reverseRecOn with
  | nil => exact List.Sublist.slnil
  | append_singleton xs x ih =>
    by_cases old : key x ∈ xs.map key
    · rw [firsts_old old]
      exact ih.trans (List.sublist_append_left xs [x])
    · rw [firsts_new old]
      exact ih.append (List.Sublist.refl [x])

/-- What follows a list adds to its first entries, and takes none away. -/
theorem firsts_grow (xs ys : List α) : firsts key xs <+: firsts key (xs ++ ys) := by
  induction ys using List.reverseRecOn with
  | nil => rw [List.append_nil]
  | append_singleton ys y ih =>
    rw [← List.append_assoc]
    by_cases old : key y ∈ (xs ++ ys).map key
    · rwa [firsts_old old]
    · rw [firsts_new old]
      exact ih.trans (List.prefix_append _ _)

/-- An entry is kept when no entry before it has its key. -/
theorem mem_firsts {xs : List α} {x : α} :
    x ∈ firsts key xs ↔ ∃ before after, xs = before ++ x :: after ∧ key x ∉ before.map key := by
  induction xs using List.reverseRecOn with
  | nil =>
    constructor
    · intro found
      cases found
    · intro parts
      obtain ⟨before, after, parts, _⟩ := parts
      exact absurd parts.symm (by simp)
  | append_singleton xs y ih =>
    constructor
    · intro found
      by_cases old : key y ∈ xs.map key
      · rw [firsts_old old] at found
        obtain ⟨before, after, rfl, fresh⟩ := ih.mp found
        exact ⟨before, after ++ [y], by simp, fresh⟩
      · rw [firsts_new old, List.mem_append, List.mem_singleton] at found
        rcases found with found | rfl
        · obtain ⟨before, after, rfl, fresh⟩ := ih.mp found
          exact ⟨before, after ++ [y], by simp, fresh⟩
        · exact ⟨xs, [], rfl, old⟩
    · intro parts
      obtain ⟨before, after, parts, fresh⟩ := parts
      rcases List.eq_nil_or_concat after with rfl | ⟨after, last, rfl⟩
      · obtain ⟨rfl, same⟩ := List.append_inj' parts rfl
        obtain rfl := List.cons.inj same |>.1
        rw [firsts_new fresh]
        exact List.mem_append_right _ List.mem_cons_self
      · have halves : xs ++ [y] = (before ++ x :: after) ++ [last] := by simpa using parts
        obtain ⟨rfl, _⟩ := List.append_inj' halves rfl
        exact (firsts_grow _ [y]).subset (ih.mpr ⟨before, after, rfl, fresh⟩)

end Effect
