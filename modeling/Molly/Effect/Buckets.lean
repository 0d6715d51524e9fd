import Mathlib.Data.List.Perm.Basic
import Mathlib.Data.List.Nodup

/-! Lists split into buckets by a key. -/
namespace Effect.Buckets

variable {α κ : Type} [DecidableEq κ]

/-- The elements with a key, in their order. -/
def bucket (key : α → κ) (xs : List α) (k : κ) : List α := xs.filter fun x => key x = k

theorem mem_bucket {key : α → κ} {xs : List α} {k : κ} {x : α} : x ∈ bucket key xs k ↔ x ∈ xs ∧ key x = k := by
  simp [bucket]

/-- The buckets of distinct keys make up the elements that have one of these keys. -/
theorem flatMap_bucket_perm (key : α → κ) (xs : List α) : ∀ {keys : List κ}, keys.Nodup →
    (keys.flatMap (bucket key xs)).Perm (xs.filter fun x => key x ∈ keys)
  | [], _ => by simp
  | k :: keys, distinct => by
    obtain ⟨new, distinct⟩ := List.nodup_cons.mp distinct
    have here : (xs.filter fun x => key x ∈ k :: keys).filter (fun x => key x = k) = bucket key xs k := by
      rw [List.filter_filter, bucket]
      apply List.filter_congr
      intro x _
      by_cases same : key x = k <;> simp [same]
    have others : (xs.filter fun x => key x ∈ k :: keys).filter (fun x => !decide (key x = k)) =
        xs.filter fun x => key x ∈ keys := by
      rw [List.filter_filter]
      apply List.filter_congr
      intro x _
      by_cases same : key x = k
      · simp [same, new]
      · simp [same]
    have split := List.filter_append_perm (fun x => decide (key x = k)) (xs.filter fun x => key x ∈ k :: keys)
    rw [here, others] at split
    rw [List.flatMap_cons]
    exact ((flatMap_bucket_perm key xs distinct).append_left _).trans split

/-- Every element is in exactly one bucket, when the distinct keys cover the list. -/
theorem flatMap_bucket_perm_self {key : α → κ} {xs : List α} {keys : List κ} (distinct : keys.Nodup)
    (covered : ∀ x ∈ xs, key x ∈ keys) : (keys.flatMap (bucket key xs)).Perm xs := by
  have all : (xs.filter fun x => key x ∈ keys) = xs := by
    rw [List.filter_eq_self]
    intro x member
    simpa using covered x member
  have perm := flatMap_bucket_perm key xs distinct
  rwa [all] at perm

end Effect.Buckets
