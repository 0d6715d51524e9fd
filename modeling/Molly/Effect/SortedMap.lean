import Mathlib.Data.List.Basic

/-! Association lists kept in the order of their keys. -/
namespace Effect.SortedMap

/-- A strict total order on keys, as a test. -/
structure Ordering (κ : Type) where
  lt : κ → κ → Bool
  irrefl : ∀ a, lt a a = false
  trans : ∀ {a b c}, lt a b = true → lt b c = true → lt a c = true
  total : ∀ {a b}, a ≠ b → lt a b = true ∨ lt b a = true

variable {κ ν : Type} [DecidableEq κ] (order : Ordering κ)

/-- Put a key's value in its place, replacing the key's own value. -/
def insert (key : κ) (value : ν) : List (κ × ν) → List (κ × ν)
  | [] => [(key, value)]
  | (k, v) :: rest =>
    if order.lt key k then (key, value) :: (k, v) :: rest
    else if key = k then (key, value) :: rest
    else (k, v) :: insert key value rest

/-- Sort; of several values of one key the first stays. -/
def sort : List (κ × ν) → List (κ × ν)
  | [] => []
  | (key, value) :: fields => insert order key value (sort fields)

def Sorted (fields : List (κ × ν)) : Prop := fields.Pairwise fun a b => order.lt a.1 b.1 = true

variable {order} {key query : κ} {value : ν} {fields : List (κ × ν)}

theorem mem_insert {f : κ × ν} (found : f ∈ insert order key value fields) :
    f = (key, value) ∨ f ∈ fields := by
  induction fields with
  | nil => simpa [insert] using found
  | cons field rest ih =>
    obtain ⟨k, v⟩ := field
    simp only [insert] at found
    split at found
    · simpa using found
    · split at found
      · rcases List.mem_cons.mp found with rfl | member
        · exact Or.inl rfl
        · exact Or.inr (List.mem_cons_of_mem _ member)
      · rcases List.mem_cons.mp found with rfl | member
        · exact Or.inr List.mem_cons_self
        · rcases ih member with same | member
          · exact Or.inl same
          · exact Or.inr (List.mem_cons_of_mem _ member)

theorem insert_sorted (sorted : Sorted order fields) : Sorted order (insert order key value fields) := by
  induction fields with
  | nil => simp [insert, Sorted]
  | cons field rest ih =>
    obtain ⟨k, v⟩ := field
    obtain ⟨above, tail⟩ := List.pairwise_cons.mp sorted
    simp only [insert]
    by_cases lt : order.lt key k = true
    · simp only [lt, ↓reduceIte]
      refine List.pairwise_cons.mpr ⟨?_, sorted⟩
      intro f member
      rcases List.mem_cons.mp member with rfl | member
      · exact lt
      · exact order.trans lt (above f member)
    · by_cases same : key = k
      · subst same
        simp only [lt, Bool.false_eq_true, ↓reduceIte]
        exact List.pairwise_cons.mpr ⟨above, tail⟩
      · simp only [lt, same, Bool.false_eq_true, ↓reduceIte]
        refine List.pairwise_cons.mpr ⟨?_, ih tail⟩
        intro f member
        rcases mem_insert member with rfl | member
        · exact (order.total same).resolve_left lt
        · exact above f member

theorem sort_sorted : ∀ fields : List (κ × ν), Sorted order (sort order fields)
  | [] => List.Pairwise.nil
  | (_, _) :: fields => insert_sorted (sort_sorted fields)

/-- A field below all others is inserted at the head. -/
theorem insert_below (below : ∀ f ∈ fields, order.lt key f.1 = true) :
    insert order key value fields = (key, value) :: fields := by
  cases fields with
  | nil => rfl
  | cons field rest => simp [insert, below field List.mem_cons_self]

theorem sort_of_sorted (sorted : Sorted order fields) : sort order fields = fields := by
  induction fields with
  | nil => rfl
  | cons field rest ih =>
    obtain ⟨above, tail⟩ := List.pairwise_cons.mp sorted
    rw [sort, ih tail]
    exact insert_below above

omit [DecidableEq κ] in
theorem Sorted.nodup (sorted : Sorted order fields) : (fields.map Prod.fst).Nodup := by
  have apart : fields.Pairwise fun a b => a.1 ≠ b.1 := List.Pairwise.imp (fun {a b} lt same => by
    rw [same, order.irrefl] at lt
    contradiction) sorted
  exact List.pairwise_map.mpr apart

/-! ### Lookups -/

section
variable [BEq κ] [LawfulBEq κ]

theorem lookup_cons (query key : κ) (value : ν) (rest : List (κ × ν)) :
    ((key, value) :: rest).lookup query = if query = key then some value else rest.lookup query := by
  by_cases same : query = key
  · simp [same]
  · have apart : (query == key) = false := by simpa using same
    simp [List.lookup_cons, apart, same]

theorem lookup_insert : (insert order key value fields).lookup query =
    if query = key then some value else fields.lookup query := by
  induction fields with
  | nil => simp only [insert, lookup_cons]
  | cons field rest ih =>
    obtain ⟨k, v⟩ := field
    simp only [insert]
    split
    · simp only [lookup_cons]
    · split
      · rename_i same
        subst same
        simp only [lookup_cons]
        split <;> rfl
      · rename_i different
        simp only [lookup_cons, ih]
        by_cases asked : query = k
        · subst asked
          have apart : query ≠ key := fun same => different same.symm
          simp [apart]
        · simp [asked]

theorem lookup_sort : ∀ fields : List (κ × ν), (sort order fields).lookup query = fields.lookup query
  | [] => rfl
  | (key, value) :: fields => by rw [sort, lookup_insert, lookup_sort fields, lookup_cons]

end

omit [DecidableEq κ] in
/-- A key below all others is not among them. -/
theorem lookup_below [BEq κ] [LawfulBEq κ] (below : ∀ f ∈ fields, order.lt query f.1 = true) :
    fields.lookup query = none := by
  rw [List.lookup_eq_none_iff]
  intro f member
  have lt := below f member
  have apart : query ≠ f.1 := fun same => by
    rw [← same, order.irrefl] at lt
    contradiction
  simpa using apart

/-- Sorted lists that answer every lookup alike are the same. -/
theorem ext_lookup [BEq κ] [LawfulBEq κ] : ∀ {a b : List (κ × ν)}, Sorted order a → Sorted order b →
    (∀ query, a.lookup query = b.lookup query) → a = b
  | [], [], _, _, _ => rfl
  | [], (k, v) :: b, _, _, same => by simpa [lookup_cons] using same k
  | (k, v) :: a, [], _, _, same => by simpa [lookup_cons] using same k
  | (k, v) :: a, (l, w) :: b, sorted, sorted', same => by
    obtain ⟨above, tail⟩ := List.pairwise_cons.mp sorted
    obtain ⟨above', tail'⟩ := List.pairwise_cons.mp sorted'
    -- the smaller of two different heads would be missing on the other side
    have keys : k = l := by
      by_cases equal : k = l
      · exact equal
      rcases order.total equal with lt | lt
      · have absent := lookup_below fun f member => order.trans lt (above' f member)
        have here := same k
        simp [lookup_cons, equal, absent] at here
      · have absent := lookup_below fun f member => order.trans lt (above f member)
        have here := same l
        simp [lookup_cons, Ne.symm equal, absent] at here
    subst keys
    have values : v = w := by simpa [lookup_cons] using same k
    subst values
    rw [ext_lookup tail tail' fun query => ?_]
    by_cases asked : query = k
    · subst asked
      rw [lookup_below above, lookup_below above']
    · simpa [lookup_cons, asked] using same query

/-! ### Filters -/

variable {ν' : Type}

/-- Change or drop values, key by key. -/
def filterValues (change : κ → ν → Option ν') : List (κ × ν) → List (κ × ν')
  | [] => []
  | (key, value) :: rest =>
    match change key value with
    | none => filterValues change rest
    | some value => (key, value) :: filterValues change rest

omit [DecidableEq κ] in
theorem filterValues_eq (change : κ → ν → Option ν') : ∀ fields : List (κ × ν),
    filterValues change fields = fields.filterMap fun f => (change f.1 f.2).map fun v => (f.1, v)
  | [] => rfl
  | (key, value) :: rest => by
    rw [filterValues, List.filterMap_cons, filterValues_eq change rest]
    cases change key value <;> rfl

omit [DecidableEq κ] in
theorem filterValues_sorted {change : κ → ν → Option ν'} (sorted : Sorted order fields) :
    Sorted order (filterValues change fields) := by
  induction fields with
  | nil => exact List.Pairwise.nil
  | cons field rest ih =>
    obtain ⟨above, tail⟩ := List.pairwise_cons.mp sorted
    rw [filterValues]
    split
    · exact ih tail
    · refine List.pairwise_cons.mpr ⟨?_, ih tail⟩
      intro f member
      rw [filterValues_eq] at member
      obtain ⟨g, among, shown⟩ := List.mem_filterMap.mp member
      obtain ⟨w, -, rfl⟩ := Option.map_eq_some_iff.mp shown
      exact above g among

theorem lookup_filterValues [BEq κ] [LawfulBEq κ] {change : κ → ν → Option ν'} (sorted : Sorted order fields) :
    (filterValues change fields).lookup query = (fields.lookup query).bind (change query) := by
  induction fields with
  | nil => rfl
  | cons field rest ih =>
    obtain ⟨k, v⟩ := field
    obtain ⟨above, tail⟩ := List.pairwise_cons.mp sorted
    have later := ih tail
    rw [filterValues, lookup_cons]
    by_cases asked : query = k
    · subst asked
      rw [lookup_below above] at later
      split
      · rename_i dropped
        simp [later, dropped]
      · rename_i w kept
        simp [lookup_cons, kept]
    · split
      · simp [later, asked]
      · simp [lookup_cons, later, asked]

theorem key_mem_sort : ∀ {fields : List (κ × ν)} {f : κ × ν}, f ∈ sort order fields → f ∈ fields
  | (_, _) :: _, _, found => by
    rcases mem_insert found with rfl | member
    · exact List.mem_cons_self
    · exact List.mem_cons_of_mem _ (key_mem_sort member)

end Effect.SortedMap
