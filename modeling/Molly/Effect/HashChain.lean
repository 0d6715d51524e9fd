import Mathlib.Data.List.Induction

/-! Lists whose elements each carry the digest of the element before. -/
namespace Effect.HashChain

variable {α δ : Type} (digest : α → δ) (previous : α → Option δ)

/-- Each element names the digest of its predecessor; the first one names `start`. -/
def LinkedFrom (start : Option δ) : List α → Prop
  | [] => True
  | x :: xs => previous x = start ∧ LinkedFrom (some (digest x)) xs

/-- The digest at the end of a chain that began with `start`. -/
def tip (start : Option δ) (xs : List α) : Option δ :=
  match xs.getLast? with
  | some x => some (digest x)
  | none => start

variable {digest previous}

theorem tip_cons (start : Option δ) (x : α) (xs : List α) : tip digest start (x :: xs) = tip digest (some (digest x)) xs := by
  cases xs with
  | nil => rfl
  | cons y ys =>
    simp only [tip, List.getLast?_cons_cons]
    cases last : (y :: ys).getLast? with
    | none => simp at last
    | some z => rfl

theorem linkedFrom_snoc {x : α} : ∀ {xs : List α} {start : Option δ}, LinkedFrom digest previous start (xs ++ [x]) ↔
    LinkedFrom digest previous start xs ∧ previous x = tip digest start xs
  | [], start => by simp [LinkedFrom, tip]
  | y :: ys, start => by
    rw [List.cons_append, LinkedFrom, linkedFrom_snoc, LinkedFrom, tip_cons, and_assoc]

/-- Two chains that end in the same digest are equal, when no digest in them collides. -/
theorem eq_of_tip {xs ys : List α} (linked : LinkedFrom digest previous none xs)
    (linked' : LinkedFrom digest previous none ys) (same : tip digest none xs = tip digest none ys)
    (free : ∀ x ∈ xs, ∀ y ∈ ys, digest x = digest y → x = y) : xs = ys := by
  induction xs using List.reverseRecOn generalizing ys with
  | nil =>
    rcases List.eq_nil_or_concat ys with rfl | ⟨init, last, rfl⟩
    · rfl
    · simp [tip] at same
  | append_singleton xs x ih =>
    rcases List.eq_nil_or_concat ys with rfl | ⟨init, last, rfl⟩
    · simp [tip] at same
    · rw [List.concat_eq_append] at linked' same free ⊢
      obtain ⟨start, link⟩ := linkedFrom_snoc.mp linked
      obtain ⟨start', link'⟩ := linkedFrom_snoc.mp linked'
      have digests : digest x = digest last := by simpa [tip] using same
      obtain rfl := free x (by simp) last (by simp) digests
      have before := ih start start' (link.symm.trans link') fun a member b found =>
        free a (List.mem_append_left _ member) b (List.mem_append_left _ found)
      rw [before]

end Effect.HashChain
