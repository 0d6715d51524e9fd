import Molly.Effect.Program

/-! Two programs over one state, each to its end, their requests interleaved in any order. -/
namespace Effect

inductive Side where
  | left | right
  deriving DecidableEq

def Side.other : Side → Side
  | .left => .right
  | .right => .left

/-- A whole run of both, with the requests in the order they were made. -/
inductive Both (M : Machine S σ) : Prog S α → Prog S β → σ → List (Side × S.Op) → α → β → σ → Prop where
  | done : Both M (.ret a) (.ret b) s [] a b s
  | left : M.act op s reply t → Both M (next reply) q t moves a b u →
      Both M (.call op next) q s ((.left, op) :: moves) a b u
  | right : M.act op s reply t → Both M p (next reply) t moves a b u →
      Both M p (.call op next) s ((.right, op) :: moves) a b u

namespace Both
variable {M : Machine S σ}

/-- The same run, seen from the other side. -/
theorem swap {p : Prog S α} {q : Prog S β} (both : Both M p q s moves a b t) :
    Both M q p s (moves.map fun move => (move.1.other, move.2)) b a t := by
  induction both with
  | done => exact .done
  | left acted _ ih => exact .right acted ih
  | right acted _ ih => exact .left acted ih

/-- Once one program has returned, the other runs alone. -/
theorem alone {q : Prog S β} (both : Both M (.ret a' : Prog S α) q s moves a b t) :
    a = a' ∧ Steps M q s (.ret b) t ∧ ∀ move ∈ moves, move.1 = .right := by
  generalize ended : (.ret a' : Prog S α) = p at both
  induction both with
  | done =>
    cases ended
    exact ⟨rfl, .refl, by simp⟩
  | left => cases ended
  | right acted _ ih =>
    obtain ⟨same, steps, right⟩ := ih ended
    exact ⟨same, .step acted steps, by simpa using right⟩

end Both
end Effect
