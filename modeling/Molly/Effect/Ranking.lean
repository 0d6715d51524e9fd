import Mathlib.Data.List.Sort
import Molly.Effect.SortedMap

/-! The first few of a list in a strict order: what a sort that is cut keeps, and what it leaves out. -/
namespace Effect

/-- A strict weak order, as a test; two that it does not put apart are tied. -/
structure Precedence (α : Type) where
  before : α → α → Bool
  irrefl : ∀ a, before a a = false
  between : ∀ {a c} b, before a c = true → before a b = true ∨ before b c = true
  asymm : ∀ {a b}, before a b = true → before b a = false

namespace Precedence

variable {α β : Type}

/-- A total order of keys leaves no ties. -/
def ofOrdering (order : SortedMap.Ordering α) : Precedence α where
  before := order.lt
  irrefl := order.irrefl
  between := by
    classical
    intro a c b first
    by_cases same : a = b
    · exact .inr (same ▸ first)
    · rcases order.total same with left | back
      · exact .inl left
      · exact .inr (order.trans back first)
  asymm := by
    intro a b first
    by_contra back
    have loop := order.trans first (by simpa using back)
    rw [order.irrefl] at loop
    cases loop

/-- The order of what a function shows. -/
def pull (p : Precedence β) (show' : α → β) : Precedence α where
  before a b := p.before (show' a) (show' b)
  irrefl a := p.irrefl (show' a)
  between b := p.between (show' b)
  asymm := p.asymm

/-- Ties of the first order are broken by the second. -/
def lex (p q : Precedence α) : Precedence α where
  before a b := p.before a b || (!p.before b a && q.before a b)
  irrefl a := by simp [p.irrefl a, q.irrefl a]
  between := by
    intro a c b first
    simp only [Bool.or_eq_true, Bool.and_eq_true, Bool.not_eq_true'] at first ⊢
    rcases first with less | ⟨tied, less⟩
    · rcases p.between b less with left | right
      · exact .inl (.inl left)
      · exact .inr (.inl right)
    · by_cases left : p.before a b = true
      · exact .inl (.inl left)
      · by_cases right : p.before b c = true
        · exact .inr (.inl right)
        · -- all three are tied in the first order
          have back : p.before b a = false := by
            rcases back : p.before b a with _ | _
            · rfl
            · rcases p.between c back with up | down
              · exact absurd up right
              · rw [tied] at down
                cases down
          have forth : p.before c b = false := by
            rcases forth : p.before c b with _ | _
            · rfl
            · rcases p.between a forth with up | down
              · rw [tied] at up
                cases up
              · exact absurd down left
          rcases q.between b less with left' | right'
          · exact .inl (.inr ⟨back, left'⟩)
          · exact .inr (.inr ⟨forth, right'⟩)
  asymm := by
    intro a b first
    simp only [Bool.or_eq_true, Bool.and_eq_true, Bool.not_eq_true', Bool.or_eq_false_iff] at first ⊢
    rcases first with less | ⟨tied, less⟩
    · exact ⟨p.asymm less, by simp [less]⟩
    · exact ⟨tied, by simp [q.asymm less]⟩

/-- The order tells any two of a list apart. -/
def Decides (p : Precedence α) (xs : List α) : Prop :=
  ∀ a ∈ xs, ∀ b ∈ xs, a ≠ b → p.before a b = true ∨ p.before b a = true

/-- A stable sort. -/
def sorted (p : Precedence α) (xs : List α) : List α := xs.insertionSort fun a b => p.before b a = false

/-- The first `n` of the sort. -/
def top (p : Precedence α) (n : Nat) (xs : List α) : List α := (p.sorted xs).take n

variable {p : Precedence α} {xs ys : List α}

theorem sorted_perm (p : Precedence α) (xs : List α) : (p.sorted xs).Perm xs := List.perm_insertionSort _ xs

theorem mem_sorted {a : α} : a ∈ p.sorted xs ↔ a ∈ xs := (p.sorted_perm xs).mem_iff

theorem sorted_pairwise (p : Precedence α) (xs : List α) : (p.sorted xs).Pairwise fun a b => p.before b a = false := by
  have total : Std.Total fun a b : α => p.before b a = false := ⟨by
    intro a b
    rcases up : p.before b a with _ | _
    · exact .inl rfl
    · exact .inr (p.asymm up)⟩
  have trans : IsTrans α fun a b : α => p.before b a = false := ⟨by
    intro a b c low high
    rcases up : p.before c a with _ | _
    · rfl
    · rcases p.between b up with left | right
      · rw [high] at left
        cases left
      · rw [low] at right
        cases right⟩
  exact List.pairwise_insertionSort _ xs

/-- A list that the order decides is sorted in one way, however it was given. -/
theorem sorted_of_perm (same : xs.Perm ys) (decides : p.Decides xs) : p.sorted xs = p.sorted ys := by
  have perm : (p.sorted xs).Perm (p.sorted ys) := ((p.sorted_perm xs).trans same).trans (p.sorted_perm ys).symm
  refine perm.eq_of_pairwise ?_ (p.sorted_pairwise xs) (p.sorted_pairwise ys)
  intro a b left right low high
  by_contra differ
  rcases decides a (mem_sorted.mp left) b (same.mem_iff.mpr (mem_sorted.mp right)) differ with up | up
  · rw [high] at up
    cases up
  · rw [low] at up
    cases up

theorem top_of_perm (same : xs.Perm ys) (decides : p.Decides xs) (n : Nat) : p.top n xs = p.top n ys := by
  rw [top, top, sorted_of_perm same decides]

theorem length_top (p : Precedence α) (n : Nat) (xs : List α) : (p.top n xs).length = min n xs.length := by
  rw [top, List.length_take, (p.sorted_perm xs).length_eq]

theorem mem_of_top {a : α} {n : Nat} (member : a ∈ p.top n xs) : a ∈ xs := mem_sorted.mp (List.mem_of_mem_take member)

theorem nodup_top (distinct : xs.Nodup) (n : Nat) : (p.top n xs).Nodup :=
  ((p.sorted_perm xs).nodup_iff.mpr distinct).sublist (List.take_sublist _ _)

theorem top_pairwise (p : Precedence α) (n : Nat) (xs : List α) : (p.top n xs).Pairwise fun a b => p.before b a = false :=
  (p.sorted_pairwise xs).sublist (List.take_sublist _ _)

/-- Nothing that is left out comes before something that is kept. -/
theorem top_excluded {a b : α} {n : Nat} (kept : a ∈ p.top n xs) (given : b ∈ xs) (left : b ∉ p.top n xs) :
    p.before b a = false := by
  have split : p.sorted xs = p.top n xs ++ (p.sorted xs).drop n := (List.take_append_drop n _).symm
  have pairs := p.sorted_pairwise xs
  rw [split, List.pairwise_append] at pairs
  have there : b ∈ p.top n xs ++ (p.sorted xs).drop n := by
    rw [← split]
    exact mem_sorted.mpr given
  exact pairs.2.2 a kept b ((List.mem_append.mp there).resolve_left left)

/-! ### The first of a sort -/

/-- What the sort puts first is in the list, and nothing comes before it. -/
theorem sorted_first {a : α} {rest : List α} (first : p.sorted xs = a :: rest) : a ∈ xs ∧ ∀ b ∈ xs, p.before b a = false := by
  refine ⟨mem_sorted.mp (first ▸ List.mem_cons_self), fun b given => ?_⟩
  have pairs := p.sorted_pairwise xs
  rw [first] at pairs
  have placed : b ∈ a :: rest := first ▸ mem_sorted.mpr given
  rcases List.mem_cons.mp placed with rfl | later
  · exact p.irrefl b
  · exact (List.pairwise_cons.mp pairs).1 b later

/-- Two that the order does not put apart. -/
def Tied (p : Precedence α) (a b : α) : Prop := p.before a b = false ∧ p.before b a = false

/-- The firsts of two orders of one list are tied. -/
theorem firsts_tied (same : xs.Perm ys) {a b : α} {rest others : List α} (first : p.sorted xs = a :: rest)
    (first' : p.sorted ys = b :: others) : p.Tied a b :=
  ⟨(sorted_first first').2 a (same.mem_iff.mp (sorted_first first).1), (sorted_first first).2 b (same.mem_iff.mpr (sorted_first first').1)⟩

theorem tied_lex {p q : Precedence α} {a b : α} : (p.lex q).Tied a b ↔ p.Tied a b ∧ q.Tied a b := by
  simp only [Tied, lex, Bool.or_eq_false_iff, Bool.and_eq_false_iff, Bool.not_eq_false']
  constructor
  · rintro ⟨⟨forth, rest⟩, back, rest'⟩
    rw [forth] at rest'
    rw [back] at rest
    exact ⟨⟨forth, back⟩, by simpa using rest, by simpa using rest'⟩
  · rintro ⟨⟨forth, back⟩, forth', back'⟩
    exact ⟨⟨forth, .inr forth'⟩, back, .inr back'⟩

theorem tied_ofOrdering {order : SortedMap.Ordering β} {show' : α → β} {a b : α} :
    ((ofOrdering order).pull show').Tied a b ↔ show' a = show' b := by
  constructor
  · rintro ⟨forth, back⟩
    by_contra differ
    rcases order.total differ with up | up
    · exact absurd (forth.symm.trans up) Bool.false_ne_true
    · exact absurd (back.symm.trans up) Bool.false_ne_true
  · intro same
    change order.lt (show' a) (show' b) = false ∧ order.lt (show' b) (show' a) = false
    rw [same]
    exact ⟨order.irrefl _, order.irrefl _⟩

end Precedence
end Effect
