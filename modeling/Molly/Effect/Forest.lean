import Mathlib.Data.List.Nodup
import Mathlib.Data.List.Perm.Subperm
import Mathlib.Logic.Relation

/-! Nodes with at most one parent each. A walk over the parents that remembers where it has been tells
the nodes from which a root is reached from those that lead into a cycle. -/
namespace Effect

/-- A root is reached from the node in so many steps. -/
inductive Climbs (up : α → Option α) : Nat → α → Prop where
  | root : up a = none → Climbs up 0 a
  | step : up a = some b → Climbs up n b → Climbs up (n + 1) a

namespace Climbs
variable {up : α → Option α}

theorem unique {a : α} (one : Climbs up n a) : ∀ {m : Nat}, Climbs up m a → n = m := by
  induction one with
  | root top =>
    intro m other
    cases other with
    | root => rfl
    | step parent _ =>
      rw [top] at parent
      cases parent
  | step parent _ ih =>
    intro m other
    cases other with
    | root top =>
      rw [top] at parent
      cases parent
    | step parent' rest =>
      obtain rfl := Option.some.inj (parent.symm.trans parent')
      rw [ih rest]

/-- The nodes on the way are nearer to the root. -/
theorem shorter {a b : α} (above : Relation.TransGen (fun x y => up x = some y) a b) (climbs : Climbs up n a) :
    ∃ m < n, Climbs up m b := by
  induction above with
  | single parent =>
    cases climbs with
    | root top =>
      rw [top] at parent
      cases parent
    | step parent' rest =>
      obtain rfl := Option.some.inj (parent.symm.trans parent')
      exact ⟨_, Nat.lt_succ_self _, rest⟩
  | tail _ parent ih =>
    obtain ⟨m, less, climbs⟩ := ih
    cases climbs with
    | root top =>
      rw [top] at parent
      cases parent
    | step parent' rest =>
      obtain rfl := Option.some.inj (parent.symm.trans parent')
      exact ⟨_, by omega, rest⟩

/-- No root is reached from a node above itself. -/
theorem acyclic {a : α} (climbs : Climbs up n a) : ¬Relation.TransGen (fun x y => up x = some y) a a := by
  intro cycle
  obtain ⟨m, less, again⟩ := shorter cycle climbs
  exact absurd (climbs.unique again) (by omega)

end Climbs

section
variable [DecidableEq κ] (key : α → κ) (up : α → Option α)

/-- The walk, for a number of steps: no result when they are not enough. -/
def walk : Nat → List κ → α → Option Bool
  | 0, _, _ => none
  | steps + 1, seen, a =>
    match up a with
    | none => some true
    | some b => if key a ∈ seen then some false else walk steps (key a :: seen) b

variable {key up}

theorem walk_true : ∀ {steps : Nat} {seen : List κ} {a : α}, walk key up steps seen a = some true → ∃ n, Climbs up n a
  | steps + 1, seen, a, done => by
    unfold walk at done
    cases parent : up a with
    | none => exact ⟨0, .root parent⟩
    | some b =>
      rw [parent] at done
      dsimp only at done
      split at done
      · cases done
      · obtain ⟨n, climbs⟩ := walk_true done
        exact ⟨n + 1, .step parent climbs⟩

/-- The walk stops only where it has been before. -/
theorem walk_false {nodes : List α} (closed : ∀ a ∈ nodes, ∀ b, up a = some b → b ∈ nodes)
    (distinct : ∀ a ∈ nodes, ∀ b ∈ nodes, key a = key b → a = b) : ∀ {steps : Nat} {seen : List κ} {a : α}, a ∈ nodes →
    (∀ k ∈ seen, ∃ x ∈ nodes, key x = k ∧ Relation.TransGen (fun x y => up x = some y) x a) →
    walk key up steps seen a = some false → ¬∃ n, Climbs up n a
  | steps + 1, seen, a, known, passed, done => by
    rintro ⟨n, climbs⟩
    unfold walk at done
    cases parent : up a with
    | none =>
      rw [parent] at done
      cases done
    | some b =>
      rw [parent] at done
      dsimp only at done
      by_cases again : key a ∈ seen
      · obtain ⟨x, among, same, above⟩ := passed _ again
        rw [distinct x among a known same] at above
        exact climbs.acyclic above
      · rw [if_neg again] at done
        cases climbs with
        | root top =>
          rw [top] at parent
          cases parent
        | @step _ c m parent' rest =>
          obtain rfl := Option.some.inj (parent.symm.trans parent')
          refine walk_false closed distinct (closed a known b parent) ?_ done ⟨m, rest⟩
          intro k member
          rcases List.mem_cons.mp member with rfl | earlier
          · exact ⟨a, known, rfl, .single parent⟩
          · obtain ⟨x, among, same, above⟩ := passed k earlier
            exact ⟨x, among, same, above.tail parent⟩

/-- With more steps than nodes the walk has a result. -/
theorem walk_isSome {nodes : List α} (closed : ∀ a ∈ nodes, ∀ b, up a = some b → b ∈ nodes) :
    ∀ {steps : Nat} {seen : List κ} {a : α}, a ∈ nodes → seen.Nodup → seen ⊆ nodes.map key → nodes.length < steps + seen.length →
    (walk key up steps seen a).isSome = true
  | 0, seen, a, _, fresh, inside, many => by
    have few := (fresh.subperm inside).length_le
    rw [List.length_map] at few
    omega
  | steps + 1, seen, a, known, fresh, inside, many => by
    unfold walk
    cases parent : up a with
    | none => rfl
    | some b =>
      dsimp only
      by_cases again : key a ∈ seen
      · rw [if_pos again]
        rfl
      · rw [if_neg again]
        refine walk_isSome closed (closed a known b parent) (List.nodup_cons.mpr ⟨again, fresh⟩) ?_ (by rw [List.length_cons]; omega)
        intro k member
        rcases List.mem_cons.mp member with rfl | earlier
        · exact List.mem_map_of_mem known
        · exact inside earlier

/-- The walk with one step more than there are nodes decides whether a root is reached. -/
theorem walk_decides {nodes : List α} (closed : ∀ a ∈ nodes, ∀ b, up a = some b → b ∈ nodes)
    (distinct : ∀ a ∈ nodes, ∀ b ∈ nodes, key a = key b → a = b) {a : α} (known : a ∈ nodes) :
    ∃ reached, walk key up (nodes.length + 1) [] a = some reached ∧ (reached = true ↔ ∃ n, Climbs up n a) := by
  have result : (walk key up (nodes.length + 1) [] a).isSome = true :=
    walk_isSome closed known List.nodup_nil (List.nil_subset _) (by simp)
  obtain ⟨reached, done⟩ := Option.isSome_iff_exists.mp result
  refine ⟨reached, done, fun yes => walk_true (yes ▸ done), fun climbs => ?_⟩
  cases reached with
  | true => rfl
  | false => exact absurd climbs (walk_false closed distinct known (fun k member => (List.not_mem_nil member).elim) done)

end

/-- Where each node's parent stands before it, a root is reached from every node. -/
theorem climbs_of_ordered {up : α → Option α} {nodes : List α}
    (ordered : ∀ (i : Nat) a, nodes[i]? = some a → ∀ b, up a = some b → ∃ j < i, nodes[j]? = some b) :
    ∀ (i : Nat) a, nodes[i]? = some a → ∃ n, Climbs up n a := by
  intro i
  induction i using Nat.strongRecOn with
  | ind i ih =>
    intro a here
    cases parent : up a with
    | none => exact ⟨0, .root parent⟩
    | some b =>
      obtain ⟨j, before, there⟩ := ordered i a here b parent
      obtain ⟨n, climbs⟩ := ih j before b there
      exact ⟨n + 1, .step parent climbs⟩

end Effect
