import Mathlib.Algebra.GroupWithZero.Nat
import Mathlib.Data.List.Induction
import Molly.Effect.SortedMap

/-! Insertion-ordered dictionaries as lists of entries: an assignment replaces the value of a key in
place, or adds an entry at the end. -/
namespace Effect.Dict
open SortedMap (lookup_cons)

variable {κ ν : Type} [DecidableEq κ]

/-- `dict[key] = value`. -/
def put (key : κ) (value : ν) : List (κ × ν) → List (κ × ν)
  | [] => [(key, value)]
  | entry :: rest => if entry.1 = key then (key, value) :: rest else entry :: put key value rest

/-- `dict.setdefault(key, value)`. -/
def setDefault (key : κ) (value : ν) (dict : List (κ × ν)) : List (κ × ν) :=
  if (dict.lookup key).isSome then dict else put key value dict

/-- `dict[key] = dict.get(key, 0) + 1`. -/
def tally (key : κ) (dict : List (κ × Nat)) : List (κ × Nat) := put key ((dict.lookup key).getD 0 + 1) dict

/-- Assignments to an empty dict, in order. -/
def assign (pairs : List (κ × ν)) : List (κ × ν) := pairs.foldl (fun dict p => put p.1 p.2 dict) []

theorem lookup_put (query key : κ) (value : ν) (dict : List (κ × ν)) :
    (put key value dict).lookup query = if query = key then some value else dict.lookup query := by
  induction dict with
  | nil => exact lookup_cons query key value []
  | cons entry rest ih =>
    obtain ⟨other, kept⟩ := entry
    by_cases here : other = key
    · subst here
      rw [put, if_pos rfl, lookup_cons, lookup_cons]
      by_cases same : query = other <;> simp [same]
    · rw [put, if_neg here, lookup_cons, lookup_cons, ih]
      by_cases same : query = other
      · have apart : query ≠ key := fun equal => here (same.symm.trans equal)
        rw [if_pos same, if_neg apart, if_pos same]
      · rw [if_neg same, if_neg same]

theorem lookup_setDefault (query key : κ) (value : ν) (dict : List (κ × ν)) :
    (setDefault key value dict).lookup query = (dict.lookup query).or (if query = key then some value else none) := by
  unfold setDefault
  by_cases same : query = key
  · subst same
    cases found : dict.lookup query with
    | none => simp [lookup_put]
    | some kept => simp [found]
  · by_cases known : (dict.lookup key).isSome
    · simp [known, same]
    · simp [known, same, lookup_put]

/-- A put changes the total by what it adds to the value it replaces. -/
theorem sum_put (key : κ) (value : Nat) (dict : List (κ × Nat)) :
    ((put key value dict).map Prod.snd).sum + (dict.lookup key).getD 0 = (dict.map Prod.snd).sum + value := by
  induction dict with
  | nil => simp [put]
  | cons entry rest ih =>
    obtain ⟨other, kept⟩ := entry
    by_cases here : other = key
    · subst here
      rw [put, if_pos rfl, lookup_cons, if_pos rfl, List.map_cons, List.map_cons, List.sum_cons, List.sum_cons, Option.getD_some]
      omega
    · have apart : key ≠ other := fun same => here same.symm
      rw [put, if_neg here, lookup_cons, if_neg apart, List.map_cons, List.map_cons, List.sum_cons, List.sum_cons]
      omega

/-- A tally counts one more. -/
theorem sum_tally (key : κ) (dict : List (κ × Nat)) : ((tally key dict).map Prod.snd).sum = (dict.map Prod.snd).sum + 1 := by
  have total := sum_put key ((dict.lookup key).getD 0 + 1) dict
  unfold tally
  omega

/-- What is read is what was assigned last. -/
theorem lookup_assign (query : κ) (pairs : List (κ × ν)) : (assign pairs).lookup query = pairs.reverse.lookup query := by
  induction pairs using List.reverseRecOn with
  | nil => rfl
  | append_singleton pairs pair ih =>
    have split : assign (pairs ++ [pair]) = put pair.1 pair.2 (assign pairs) := by
      rw [assign, List.foldl_append]
      rfl
    rw [split, lookup_put, ih, List.reverse_append, List.reverse_singleton, List.singleton_append, lookup_cons]

/-- A dict filled from a list has the last value of each key. -/
theorem lookup_last {α : Type} {key : α → Option κ} {value : α → ν} (query : κ) (xs : List α) :
    (xs.filterMap fun x => (key x).map fun k => (k, value x)).reverse.lookup query =
      (xs.filter fun x => key x = some query).getLast?.map value := by
  induction xs using List.reverseRecOn with
  | nil => rfl
  | append_singleton xs x ih =>
    rw [List.filterMap_append, List.reverse_append, List.filter_append]
    cases at_x : key x with
    | none => simp [at_x, ih]
    | some k =>
      by_cases same : k = query
      · simp [at_x, same]
      · have apart : query ≠ k := fun equal => same equal.symm
        have last : (xs.filter fun y => key y = some query) ++ [x].filter (fun y => key y = some query) =
            xs.filter fun y => key y = some query := by simp [at_x, same]
        rw [last, ← ih]
        simp [at_x, lookup_cons, apart]

omit [DecidableEq κ] in
/-- A dict that holds each key once is what it maps the keys to. -/
theorem lookup_iff_mem [BEq κ] [LawfulBEq κ] {dict : List (κ × ν)} (distinct : (dict.map Prod.fst).Nodup) {key : κ} {value : ν} :
    dict.lookup key = some value ↔ (key, value) ∈ dict := by
  induction dict with
  | nil => simp
  | cons entry rest ih =>
    obtain ⟨k, v⟩ := entry
    rw [List.map_cons, List.nodup_cons] at distinct
    rw [List.lookup_cons, List.mem_cons, Prod.mk.injEq]
    by_cases here : key = k
    · subst here
      have fresh : (key, value) ∉ rest := fun later => distinct.1 (List.mem_map.mpr ⟨_, later, rfl⟩)
      simp [fresh, eq_comm]
    · have apart : (key == k) = false := by simpa using here
      simp [apart, here, ih distinct.2]

theorem mem_put {entry : κ × ν} {key : κ} {value : ν} {dict : List (κ × ν)} (member : entry ∈ put key value dict) :
    entry = (key, value) ∨ entry ∈ dict := by
  induction dict with
  | nil => exact .inl (List.mem_singleton.mp member)
  | cons other rest ih =>
    rw [put] at member
    split at member
    · rcases List.mem_cons.mp member with same | kept
      · exact .inl same
      · exact .inr (List.mem_cons_of_mem _ kept)
    · rcases List.mem_cons.mp member with same | kept
      · exact .inr (same ▸ List.mem_cons_self)
      · exact (ih kept).imp_right (List.mem_cons_of_mem _)

/-- Every entry was assigned. -/
theorem mem_assign {entry : κ × ν} {pairs : List (κ × ν)} (member : entry ∈ assign pairs) : entry ∈ pairs := by
  induction pairs using List.reverseRecOn with
  | nil => cases member
  | append_singleton pairs pair ih =>
    rw [assign, List.foldl_append] at member
    rcases mem_put member with same | kept
    · exact List.mem_append_right _ (List.mem_singleton.mpr same)
    · exact List.mem_append_left _ (ih kept)

theorem put_new {key : κ} {value : ν} : ∀ {dict : List (κ × ν)}, key ∉ dict.map Prod.fst → put key value dict = dict ++ [(key, value)]
  | [], _ => rfl
  | entry :: rest, new => by
    rw [List.map_cons, List.mem_cons, not_or] at new
    rw [put, if_neg (Ne.symm new.1), put_new new.2]
    rfl

/-- Entries with distinct keys are the dictionary. -/
theorem assign_distinct {pairs : List (κ × ν)} (distinct : (pairs.map Prod.fst).Nodup) : assign pairs = pairs := by
  induction pairs using List.reverseRecOn with
  | nil => rfl
  | append_singleton pairs pair ih =>
    rw [List.map_append, List.nodup_append] at distinct
    obtain ⟨before, _, apart⟩ := distinct
    have new : pair.1 ∉ pairs.map Prod.fst := fun inside => apart _ inside _ (by simp) rfl
    have earlier : pairs.foldl (fun dict p => put p.1 p.2 dict) [] = pairs := ih before
    rw [assign, List.foldl_append, earlier]
    exact put_new new

end Effect.Dict
