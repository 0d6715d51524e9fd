import Molly.Effect.Program

/-! Machines that keep a log: what is said of a run can then name the replies it got. -/
namespace Effect

/-- The machine with a log of what its replies tell. -/
def Machine.logged {S : Signature} (M : Machine S σ) (told : (op : S.Op) → S.Reply op → σ → List τ) : Machine S (σ × List τ) where
  act op s reply t := M.act op s.1 reply t.1 ∧ t.2 = s.2 ++ told op reply t.1

/-- Every run can be logged. -/
theorem logged_of_steps {S : Signature} {M : Machine S σ} {told : (op : S.Op) → S.Reply op → σ → List τ} {p q : Prog S α}
    (steps : Steps M p s q t) (log : List τ) : ∃ more, Steps (M.logged told) p (s, log) q (t, log ++ more) := by
  induction steps generalizing log with
  | refl => exact ⟨[], by rw [List.append_nil]; exact .refl⟩
  | @step op s reply u _ _ _ acted _ ih =>
    obtain ⟨more, rest⟩ := ih (log ++ told op reply u)
    rw [List.append_assoc] at rest
    exact ⟨_, .step ⟨acted, rfl⟩ rest⟩

namespace Discipline
variable {S : Signature} (D : Discipline S σ) (told : (op : S.Op) → S.Reply op → σ → List τ)

def logged : Discipline S (σ × List τ) :=
  { D.toMachine.logged told with inv := fun s => D.inv s.1, may := fun op s => D.may op s.1 }

/-- A request whose replies leave no trace in the log. -/
def Silent (op : S.Op) : Prop := ∀ reply t, told op reply t = []

variable {D told}

theorem keeps_logged {post : α → σ → Prop} {log : List τ} : ∀ {p : Prog S α} {s : σ}, p.Only (Silent told) → D.Keeps post p s →
    (D.logged told).Keeps (fun value t => post value t.1 ∧ t.2 = log) p (s, log)
  | .ret _, _, _, kept => ⟨kept, rfl⟩
  | .call op next, s, silent, kept => by
    refine ⟨kept.1, fun reply t acted => ?_⟩
    obtain ⟨u, log'⟩ := t
    obtain ⟨moved, same⟩ := acted
    obtain ⟨holds, rest⟩ := kept.2 reply u moved
    have unchanged : log' = log := by
      rw [show log' = log ++ told op reply u from same, silent.1 reply u, List.append_nil]
    subst unchanged
    exact ⟨holds, keeps_logged (silent.2 reply) rest⟩

theorem runs_logged {ensures : β → μ → σ → Prop} {raises : ε → μ → σ → Prop} {m : Task S μ ε β} {memory : μ} {s : σ}
    {log : List τ} (silent : m.Only (Silent told)) (kept : D.Runs ensures raises m memory s) :
    (D.logged told).Runs (fun value memory t => ensures value memory t.1 ∧ t.2 = log)
      (fun error memory t => raises error memory t.1 ∧ t.2 = log) m memory (s, log) := by
  refine keeps_mono _ ?_ (keeps_logged (silent memory) kept)
  rintro ⟨error | value, memory⟩ t ⟨done, same⟩
  · exact ⟨done, same⟩
  · exact ⟨done, same⟩

end Discipline
end Effect
