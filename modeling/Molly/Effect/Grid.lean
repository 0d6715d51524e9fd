import Mathlib.Data.List.Nodup
import Mathlib.Data.List.Perm.Subperm
import Mathlib.Data.Set.Operations
import Mathlib.Order.Bounds.Defs

/-! Rectangles laid out on a grid row by row: each takes the first free columns of its row, and all
of them stay disjoint. -/
namespace Effect

/-- A rectangle: its first row and column, and how many of each it takes. -/
structure Span where
  row : Nat
  column : Nat
  rows : Nat
  columns : Nat
  deriving DecidableEq

namespace Span

def Covers (s : Span) (p : Nat × Nat) : Prop :=
  (s.row ≤ p.1 ∧ p.1 < s.row + s.rows) ∧ s.column ≤ p.2 ∧ p.2 < s.column + s.columns

instance (s : Span) (p : Nat × Nat) : Decidable (s.Covers p) := inferInstanceAs (Decidable (_ ∧ _))

def Apart (s t : Span) : Prop := ∀ p, ¬(s.Covers p ∧ t.Covers p)

/-- The positions of a rectangle, row by row. -/
def positions (s : Span) : List (Nat × Nat) :=
  (List.range s.rows).flatMap fun i => (List.range s.columns).map fun j => (s.row + i, s.column + j)

theorem mem_positions {s : Span} {p : Nat × Nat} : p ∈ s.positions ↔ s.Covers p := by
  obtain ⟨r, c⟩ := p
  simp only [positions, List.mem_flatMap, List.mem_range, List.mem_map, Prod.mk.injEq, Covers]
  constructor
  · rintro ⟨i, below, j, under, rfl, rfl⟩
    omega
  · intro inside
    exact ⟨r - s.row, by omega, c - s.column, by omega, by omega, by omega⟩

theorem Apart.symm {s t : Span} (apart : s.Apart t) : t.Apart s := fun p both => apart p ⟨both.2, both.1⟩

/-- Two rectangles with positions in them are apart when one ends before the other begins. -/
theorem apart_iff {s t : Span} (left : 0 < s.rows ∧ 0 < s.columns) (right : 0 < t.rows ∧ 0 < t.columns) :
    s.Apart t ↔ s.row + s.rows ≤ t.row ∨ t.row + t.rows ≤ s.row ∨ s.column + s.columns ≤ t.column ∨ t.column + t.columns ≤ s.column := by
  constructor
  · intro apart
    by_contra near
    have shared := apart (max s.row t.row, max s.column t.column)
    simp only [Covers] at shared
    omega
  · rintro far ⟨r, c⟩ both
    simp only [Covers] at both
    omega

end Span

namespace Grid

/-- Take the positions one by one; none of them may be taken. -/
def occupy (occupied : List (Nat × Nat)) : List (Nat × Nat) → Option (List (Nat × Nat))
  | [] => some occupied
  | p :: rest => if p ∈ occupied then none else occupy (p :: occupied) rest

/-- The first free column of a row, from a column on. -/
def advance (occupied : List (Nat × Nat)) (row : Nat) : Nat → Nat → Nat
  | 0, column => column
  | fuel + 1, column => if (row, column) ∈ occupied then advance occupied row fuel (column + 1) else column

/-- Each occupied position is passed at most once. -/
def firstFree (occupied : List (Nat × Nat)) (row column : Nat) : Nat := advance occupied row occupied.length column

attribute [local simp] occupy advance

theorem occupy_mem {occupied next rest : List (Nat × Nat)} (taken : occupy occupied rest = some next) (p : Nat × Nat) :
    p ∈ next ↔ p ∈ occupied ∨ p ∈ rest := by
  induction rest generalizing occupied with
  | nil =>
    cases taken
    simp
  | cons q rest ih =>
    rw [occupy] at taken
    split at taken
    · cases taken
    · rw [ih taken, List.mem_cons, List.mem_cons]
      tauto

theorem occupy_free {occupied next rest : List (Nat × Nat)} (taken : occupy occupied rest = some next) :
    ∀ p ∈ rest, p ∉ occupied := by
  induction rest generalizing occupied with
  | nil => simp
  | cons q rest ih =>
    rw [occupy] at taken
    split at taken
    · cases taken
    · rename_i free
      intro p member
      rcases List.mem_cons.mp member with rfl | member
      · exact free
      · exact fun inside => ih taken p member (List.mem_cons_of_mem _ inside)

theorem advance_passed {occupied : List (Nat × Nat)} {row : Nat} : ∀ {fuel column c : Nat}, column ≤ c →
    c < advance occupied row fuel column → (row, c) ∈ occupied
  | 0, column, c, above, below => by
    rw [advance] at below
    omega
  | fuel + 1, column, c, above, below => by
    rw [advance] at below
    split at below
    · rename_i taken
      by_cases here : c = column
      · rw [here]
        exact taken
      · exact advance_passed (by omega) below
    · omega

theorem le_advance {occupied : List (Nat × Nat)} {row : Nat} : ∀ {fuel column : Nat}, column ≤ advance occupied row fuel column
  | 0, _ => Nat.le_refl _
  | fuel + 1, column => by
    rw [advance]
    split
    · exact Nat.le_trans (Nat.le_succ _) le_advance
    · exact Nat.le_refl _

/-- The search stops early, at a free column, or it has passed as many columns as it may. -/
theorem advance_free {occupied : List (Nat × Nat)} {row : Nat} : ∀ {fuel column : Nat},
    (row, advance occupied row fuel column) ∉ occupied ∨ advance occupied row fuel column = column + fuel
  | 0, _ => .inr rfl
  | fuel + 1, column => by
    rw [advance]
    split
    · have rest : (row, advance occupied row fuel (column + 1)) ∉ occupied ∨
          advance occupied row fuel (column + 1) = column + 1 + fuel := advance_free
      rcases rest with free | far
      · exact .inl free
      · right
        omega
    · rename_i free
      exact .inl free

theorem firstFree_free (occupied : List (Nat × Nat)) (row column : Nat) : (row, firstFree occupied row column) ∉ occupied := by
  have stopped : (row, advance occupied row occupied.length column) ∉ occupied ∨
      advance occupied row occupied.length column = column + occupied.length := advance_free
  rcases stopped with free | far
  · exact free
  · intro taken
    -- one position more than there are would be taken
    have all : ∀ p ∈ (List.range (occupied.length + 1)).map fun i => (row, column + i), p ∈ occupied := by
      intro p member
      obtain ⟨i, below, rfl⟩ := List.mem_map.mp member
      rw [List.mem_range] at below
      by_cases last : i = occupied.length
      · rw [last, ← far]
        exact taken
      · exact advance_passed (Nat.le_add_right _ _) (by rw [far]; omega)
    have once : ((List.range (occupied.length + 1)).map fun i => (row, column + i)).Nodup := by
      refine List.Nodup.map ?_ List.nodup_range
      intro i j same
      simpa using same
    have short := (List.Nodup.subperm once all).length_le
    simp only [List.length_map, List.length_range] at short
    omega

theorem firstFree_least (occupied : List (Nat × Nat)) (row column : Nat) :
    IsLeast {c | column ≤ c ∧ (row, c) ∉ occupied} (firstFree occupied row column) := by
  refine ⟨⟨le_advance, firstFree_free occupied row column⟩, ?_⟩
  rintro c ⟨above, free⟩
  by_contra below
  exact free (advance_passed above (by simpa [firstFree] using below))

/-! ### A layout -/

/-- Where the last rectangle that begins in a row ends. -/
def rowEnd (placed : List Span) (row : Nat) : Nat :=
  match (placed.filter fun s => s.row = row).getLast? with
  | some s => s.column + s.columns
  | none => 0

/-- The columns a next rectangle of a row may begin at. -/
def Free (placed : List Span) (row : Nat) : Set Nat :=
  {c | rowEnd placed row ≤ c ∧ ∀ s ∈ placed, ¬s.Covers (row, c)}

/-- Every rectangle begins at the first free column after the one before it in its row. -/
def FirstFit (spans : List Span) : Prop :=
  ∀ init s rest, spans = init ++ s :: rest → IsLeast (Free init s.row) s.column

/-- The taken positions are those of the rectangles, which are apart and begin as early as they can. -/
structure Laid (placed : List Span) (occupied : List (Nat × Nat)) : Prop where
  covered : ∀ p, p ∈ occupied ↔ ∃ s ∈ placed, s.Covers p
  apart : placed.Pairwise Span.Apart
  fitted : FirstFit placed

theorem Laid.nil : Laid [] [] := ⟨by simp, .nil, by simp [FirstFit]⟩

theorem FirstFit.snoc {spans : List Span} {s : Span} (fitted : FirstFit spans) (least : IsLeast (Free spans s.row) s.column) :
    FirstFit (spans ++ [s]) := by
  intro init t rest split
  rcases List.eq_nil_or_concat rest with rfl | ⟨more, last, rfl⟩
  · obtain ⟨rfl, same⟩ := List.append_inj' split rfl
    cases same
    exact least
  · have shift : spans ++ [s] = (init ++ t :: more) ++ [last] := by simpa using split
    obtain ⟨earlier, -⟩ := List.append_inj' shift rfl
    exact fitted init t more earlier

theorem rowEnd_snoc (placed : List Span) (s : Span) (row : Nat) :
    rowEnd (placed ++ [s]) row = if s.row = row then s.column + s.columns else rowEnd placed row := by
  unfold rowEnd
  by_cases here : s.row = row <;> simp [List.filter_append, here]

/-- One rectangle more, at the first free column of its row. -/
theorem Laid.place {placed : List Span} {occupied next : List (Nat × Nat)} {s : Span} (laid : Laid placed occupied)
    (first : s.column = firstFree occupied s.row (rowEnd placed s.row)) (taken : occupy occupied s.positions = some next) :
    Laid (placed ++ [s]) next := by
  refine ⟨fun p => ?_, ?_, laid.fitted.snoc ?_⟩
  · rw [occupy_mem taken, laid.covered, Span.mem_positions]
    constructor
    · rintro (⟨t, member, covers⟩ | covers)
      · exact ⟨t, List.mem_append_left _ member, covers⟩
      · exact ⟨s, by simp, covers⟩
    · rintro ⟨t, member, covers⟩
      rcases List.mem_append.mp member with member | member
      · exact .inl ⟨t, member, covers⟩
      · obtain rfl := List.mem_singleton.mp member
        exact .inr covers
  · refine List.pairwise_append.mpr ⟨laid.apart, List.pairwise_singleton _ _, fun t member u same p both => ?_⟩
    obtain rfl := List.mem_singleton.mp same
    exact occupy_free taken p (Span.mem_positions.mpr both.2) ((laid.covered p).mpr ⟨t, member, both.1⟩)
  · rw [first]
    have same : Free placed s.row = {c | rowEnd placed s.row ≤ c ∧ (s.row, c) ∉ occupied} := by
      ext c
      simp only [Free, Set.mem_ofPred_eq, laid.covered, not_exists, not_and]
    rw [same]
    exact firstFree_least occupied s.row _

end Grid
end Effect
