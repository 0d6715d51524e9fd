import Mathlib.Data.List.Induction
import Mathlib.Data.List.Infix
import Mathlib.Data.List.TakeWhile

/-! Searching an escaped text for a text as it stands. Escaping puts a mark before some
items, among them the mark itself; which texts are still found wherever they stood? -/
namespace Effect.Escape
variable {α : Type _}

/-- A mark, and the items that are written behind one. -/
structure Escaping (α : Type _) where
  mark : α
  marked : α → Bool
  own : marked mark = true

theorem snoc_suffix_snoc {s t : List α} {a b : α} : s ++ [a] <:+ t ++ [b] ↔ a = b ∧ s <:+ t := by
  rw [← List.reverse_prefix, List.reverse_append, List.reverse_append, List.reverse_singleton, List.reverse_singleton,
    List.singleton_append, List.singleton_append, List.cons_prefix_cons, List.reverse_prefix]

namespace Escaping
variable (e : Escaping α)

def item (a : α) : List α := if e.marked a then [e.mark, a] else [a]

def write (s : List α) : List α := s.flatMap e.item

@[simp] theorem write_nil : e.write [] = [] := rfl

theorem write_cons (a : α) (s : List α) : e.write (a :: s) = e.item a ++ e.write s := List.flatMap_cons

theorem write_append (s t : List α) : e.write (s ++ t) = e.write s ++ e.write t := List.flatMap_append

theorem item_marked {a : α} (marked : e.marked a = true) : e.item a = [e.mark, a] := if_pos marked

theorem item_plain {a : α} (plain : e.marked a = false) : e.item a = [a] := by simp [item, plain]

theorem write_plain {s : List α} (plain : ∀ a ∈ s, e.marked a = false) : e.write s = s := by
  induction s with
  | nil => rfl
  | cons a s ih =>
    rw [write_cons, e.item_plain (plain a List.mem_cons_self), ih fun b member => plain b (List.mem_cons_of_mem _ member)]
    rfl

theorem write_marks (n : Nat) : e.write (List.replicate n e.mark) = List.replicate (n + n) e.mark := by
  induction n with
  | zero => rfl
  | succ n ih =>
    have double : n + 1 + (n + 1) = n + n + 1 + 1 := by omega
    rw [List.replicate_succ, write_cons, ih, e.item_marked e.own, double, List.replicate_succ, List.replicate_succ]
    rfl

/-- Writing adds one mark for every marked item. -/
theorem length_write (s : List α) : (e.write s).length = s.length + s.countP e.marked := by
  induction s with
  | nil => rfl
  | cons a s ih =>
    rw [write_cons, List.length_append, ih]
    cases marked : e.marked a with
    | false =>
      rw [e.item_plain marked, List.countP_cons_of_neg (by simp [marked])]
      simp only [List.length_cons, List.length_nil]
      omega
    | true =>
      rw [e.item_marked marked, List.countP_cons_of_pos marked]
      simp only [List.length_cons, List.length_nil]
      omega

/-! ### Where a text stands in its own writing -/

/-- The marks before a place grow by at most one an item, so they take on every value up to
their number in the whole text. -/
theorem place_of_offset {before after : List α} {offset : Nat} (past : before.countP e.marked ≤ offset)
    (short : offset ≤ (before ++ after).countP e.marked) :
    ∃ x y, before ++ after = x ++ y ∧ x.countP e.marked = offset := by
  induction after generalizing before with
  | nil =>
    rw [List.append_nil] at short ⊢
    exact ⟨before, [], (List.append_nil _).symm, by omega⟩
  | cons a after ih =>
    by_cases here : before.countP e.marked = offset
    · exact ⟨before, a :: after, rfl, here⟩
    · have one : [a].countP e.marked ≤ 1 := List.countP_le_length
      have step : ∃ x y, before ++ [a] ++ after = x ++ y ∧ x.countP e.marked = offset := by
        apply ih
        · rw [List.countP_append]
          omega
        · simpa using short
      simpa using step

/-- A text that stands in its own writing is a text that ends its own writing, followed by one
that begins its own. -/
theorem splits {s : List α} (occurs : s <:+: e.write s) : ∃ x y, s = x ++ y ∧ x <:+ e.write x ∧ y <+: e.write y := by
  obtain ⟨front, back, whole⟩ := occurs
  have sizes := congrArg List.length whole
  simp only [List.length_append, length_write] at sizes
  have placed : ∃ x y, [] ++ s = x ++ y ∧ x.countP e.marked = front.length := by
    apply e.place_of_offset
    · simp
    · rw [List.nil_append]
      omega
  obtain ⟨x, y, cut, offset⟩ := placed
  rw [List.nil_append] at cut
  rw [cut, write_append, ← List.append_assoc, List.append_assoc] at whole
  have lengths : (front ++ x).length = (e.write x).length := by
    rw [List.length_append, length_write]
    omega
  obtain ⟨left, right⟩ := List.append_inj whole lengths
  exact ⟨x, y, cut, ⟨front, left⟩, ⟨back, right⟩⟩

theorem marks_of_begin {s : List α} : ∀ {n : Nat}, s <+: List.replicate (n + 1) e.mark ++ e.write s →
    s = List.replicate s.length e.mark := by
  induction s with
  | nil => simp
  | cons a s ih =>
    intro n begins
    rw [List.replicate_succ, List.cons_append, List.cons_prefix_cons] at begins
    obtain ⟨rfl, begins⟩ := begins
    rw [write_cons, e.item_marked e.own] at begins
    have more : s <+: List.replicate (n + 1 + 1) e.mark ++ e.write s := by
      simpa [List.replicate_succ', List.append_assoc] using begins
    rw [List.length_cons, List.replicate_succ, ← ih more]

theorem marks_of_end {s : List α} : ∀ {n : Nat}, s <:+ e.write s ++ List.replicate (n + 1) e.mark →
    s = List.replicate s.length e.mark := by
  induction s using List.reverseRecOn with
  | nil => simp
  | append_singleton s a ih =>
    intro n ends
    rw [List.replicate_succ', ← List.append_assoc, snoc_suffix_snoc] at ends
    obtain ⟨rfl, ends⟩ := ends
    rw [write_append, write_cons, e.item_marked e.own, write_nil, List.append_nil, List.append_assoc] at ends
    have more : s <:+ e.write s ++ List.replicate (n + 1 + 1) e.mark := by
      simpa [List.replicate_succ] using ends
    rw [List.length_append, List.length_singleton, List.replicate_succ', ← ih more]

/-- A text that begins its own writing: plain items, and marks behind them. -/
theorem begin_shape {s : List α} (begins : s <+: e.write s) :
    ∃ plain k, s = plain ++ List.replicate k e.mark ∧ ∀ a ∈ plain, e.marked a = false := by
  induction s with
  | nil => exact ⟨[], 0, rfl, by simp⟩
  | cons a s ih =>
    cases marked : e.marked a with
    | false =>
      rw [write_cons, e.item_plain marked, List.singleton_append, List.cons_prefix_cons] at begins
      obtain ⟨plain, k, rfl, all⟩ := ih begins.2
      exact ⟨a :: plain, k, rfl, List.forall_mem_cons.mpr ⟨marked, all⟩⟩
    | true =>
      rw [write_cons, e.item_marked marked, List.cons_append, List.cons_prefix_cons] at begins
      obtain ⟨rfl, begins⟩ := begins
      have marks := e.marks_of_begin (n := 0) begins
      exact ⟨[], s.length + 1, by rw [List.replicate_succ, ← marks]; rfl, by simp⟩

/-- A text that ends its own writing: marks, perhaps one more marked item, and plain items. -/
theorem end_shape {s : List α} (ends : s <:+ e.write s) :
    ∃ k one plain, s = List.replicate k e.mark ++ one ++ plain ∧ one.length ≤ 1 ∧ ∀ a ∈ plain, e.marked a = false := by
  induction s using List.reverseRecOn with
  | nil => exact ⟨0, [], [], rfl, by simp, by simp⟩
  | append_singleton s a ih =>
    rw [write_append, write_cons, write_nil, List.append_nil] at ends
    cases marked : e.marked a with
    | false =>
      rw [e.item_plain marked, snoc_suffix_snoc] at ends
      obtain ⟨k, one, plain, shape, single, all⟩ := ih ends.2
      refine ⟨k, one, plain ++ [a], by rw [shape, List.append_assoc], single, ?_⟩
      intro b member
      rcases List.mem_append.mp member with member | member
      · exact all b member
      · rwa [List.mem_singleton.mp member]
    | true =>
      rw [e.item_marked marked, show [e.mark, a] = [e.mark] ++ [a] from rfl, ← List.append_assoc, snoc_suffix_snoc] at ends
      have marks := e.marks_of_end (n := 0) ends.2
      exact ⟨s.length, [a], [], by rw [← marks, List.append_nil], by simp, by simp⟩

/-! ### Texts that are found wherever they stand -/

/-- Marks, at most one more item, plain items, and marks. -/
def Readable (s : List α) : Prop := ∃ k one plain l,
  s = List.replicate k e.mark ++ one ++ plain ++ List.replicate l e.mark ∧ one.length ≤ 1 ∧ ∀ a ∈ plain, e.marked a = false

/-- What stands in its own writing is readable. -/
theorem readable_of_occurs {s : List α} (occurs : s <:+: e.write s) : e.Readable s := by
  obtain ⟨x, y, rfl, ends, begins⟩ := e.splits occurs
  obtain ⟨k, one, plain, rfl, single, left⟩ := e.end_shape ends
  obtain ⟨more, l, rfl, right⟩ := e.begin_shape begins
  refine ⟨k, one, plain ++ more, l, by simp only [List.append_assoc], single, fun a member => ?_⟩
  rcases List.mem_append.mp member with member | member
  · exact left a member
  · exact right a member

/-- The writing of one item ends with the item. -/
theorem item_ends (a : α) : ∃ marks, e.item a = marks ++ [a] ∧ marks = List.replicate marks.length e.mark := by
  cases marked : e.marked a with
  | false => exact ⟨[], e.item_plain marked, rfl⟩
  | true => exact ⟨[e.mark], e.item_marked marked, rfl⟩

/-- What is readable stands in its own writing. -/
theorem Readable.occurs {s : List α} (readable : e.Readable s) : s <:+: e.write s := by
  obtain ⟨k, one, plain, l, rfl, single, all⟩ := readable
  have first : List.replicate k e.mark ++ one <:+ e.write (List.replicate k e.mark ++ one) := by
    rw [write_append, write_marks]
    cases one with
    | nil =>
      rw [write_nil, List.append_nil, List.append_nil, List.replicate_add]
      exact List.suffix_append _ _
    | cons a rest =>
      obtain rfl : rest = [] := List.length_eq_zero_iff.mp (by simpa using single)
      obtain ⟨marks, shape, same⟩ := e.item_ends a
      rw [write_cons, write_nil, List.append_nil, shape, same, ← List.append_assoc, ← List.replicate_add]
      refine snoc_suffix_snoc.mpr ⟨rfl, ?_⟩
      rw [show k + k + marks.length = k + marks.length + k by omega, List.replicate_add]
      exact List.suffix_append _ _
  obtain ⟨front, first⟩ := first
  rw [write_append, write_append, e.write_plain all, write_marks, ← first]
  refine ⟨front, List.replicate l e.mark, ?_⟩
  rw [List.replicate_add]
  simp only [List.append_assoc]

theorem readable_of_short {s : List α} (short : s.length ≤ 1) : e.Readable s := ⟨0, s, [], 0, by simp, short, by simp⟩

section
variable [DecidableEq α]

/-- Whether a text is readable: behind its first marks, one item and the plain items there are only marks. -/
def reads (s : List α) : Bool :=
  (((s.dropWhile (· = e.mark)).drop 1).dropWhile fun a => !e.marked a).all (· = e.mark)

theorem reads_plain {plain : List α} (all : ∀ a ∈ plain, e.marked a = false) (l : Nat) :
    ((plain ++ List.replicate l e.mark).dropWhile fun a => !e.marked a).all (· = e.mark) = true := by
  rw [List.dropWhile_append_of_pos fun a member => by simp [all a member]]
  cases l with
  | zero => rfl
  | succ l =>
    rw [List.replicate_succ, List.dropWhile_cons_of_neg (by simp [e.own])]
    simp

theorem reads_marks (k : Nat) (s : List α) : e.reads (List.replicate k e.mark ++ s) = e.reads s := by
  unfold reads
  rw [List.dropWhile_append_of_pos fun a member => by simp [List.eq_of_mem_replicate member]]

theorem reads_iff {s : List α} : e.reads s = true ↔ e.Readable s := by
  constructor
  · intro reads
    have marks := List.eq_replicate_of_mem fun a member => of_decide_eq_true (List.all_eq_true.mp reads a member)
    have heads : ∀ a ∈ s.takeWhile (· = e.mark), a = e.mark := by
      intro a member
      simpa using List.mem_takeWhile_imp member
    have shape : s = List.replicate (s.takeWhile (· = e.mark)).length e.mark ++ (s.dropWhile (· = e.mark)).take 1 ++
        ((s.dropWhile (· = e.mark)).drop 1).takeWhile (fun a => !e.marked a) ++
        List.replicate (((s.dropWhile (· = e.mark)).drop 1).dropWhile fun a => !e.marked a).length e.mark := by
      rw [← List.eq_replicate_of_mem heads, ← marks, List.append_assoc, List.append_assoc, List.takeWhile_append_dropWhile,
        List.take_append_drop, List.takeWhile_append_dropWhile]
    refine ⟨_, _, _, _, shape, List.length_take_le _ _, ?_⟩
    intro a member
    simpa using List.mem_takeWhile_imp member
  · rintro ⟨k, one, plain, l, rfl, single, all⟩
    rw [List.append_assoc, List.append_assoc, reads_marks]
    have behind (a : α) (other : a ≠ e.mark) {rest : List α} (all : ∀ a ∈ rest, e.marked a = false) :
        e.reads (a :: (rest ++ List.replicate l e.mark)) = true := by
      unfold reads
      rw [List.dropWhile_cons_of_neg (by simpa using other)]
      exact e.reads_plain all l
    have plainly {plain : List α} (all : ∀ a ∈ plain, e.marked a = false) :
        e.reads (plain ++ List.replicate l e.mark) = true := by
      cases plain with
      | nil =>
        rw [List.nil_append, ← List.append_nil (List.replicate l e.mark), reads_marks]
        rfl
      | cons a rest =>
        refine behind a ?_ fun b member => all b (List.mem_cons_of_mem _ member)
        rintro rfl
        have plain := all _ List.mem_cons_self
        rw [e.own] at plain
        contradiction
    cases one with
    | nil => exact plainly all
    | cons a rest =>
      obtain rfl : rest = [] := List.length_eq_zero_iff.mp (by simpa using single)
      by_cases same : a = e.mark
      · rw [same, show [e.mark] = List.replicate 1 e.mark from rfl, reads_marks]
        exact plainly all
      · exact behind a same all

end

end Escaping

/-! ### Texts in a frame -/

/-- A text that does not begin with a pad stands behind the pad. -/
theorem inside_of_front {s body : List α} {frame pad : α} (long : 2 ≤ s.length) (apart : pad ∉ s.take 2)
    (occurs : s <:+: frame :: pad :: body) : s <:+: body := by
  match s, long with
  | a :: b :: rest, _ =>
    simp only [List.take_succ_cons, List.take_zero, List.mem_cons, List.not_mem_nil, or_false, not_or] at apart
    rcases List.infix_cons_iff.mp occurs with here | later
    · rw [List.cons_prefix_cons, List.cons_prefix_cons] at here
      exact absurd here.2.1.symm apart.2
    rcases List.infix_cons_iff.mp later with here | later
    · rw [List.cons_prefix_cons] at here
      exact absurd here.1.symm apart.1
    · exact later

theorem inside_of_back {s body : List α} {frame pad : α} (long : 2 ≤ s.length) (apart : pad ∉ s.reverse.take 2)
    (occurs : s <:+: body ++ [pad, frame]) : s <:+: body := by
  rw [← List.reverse_infix] at occurs ⊢
  rw [List.reverse_append] at occurs
  exact inside_of_front (by rwa [List.length_reverse]) apart occurs

/-- A text that is found in its own writing, padded on both sides and framed, is readable. -/
theorem Escaping.readable_of_framed (e : Escaping α) {s : List α} {frame pad : α} (long : 2 ≤ s.length)
    (plain : e.marked pad = false) (front : pad ∉ s.take 2) (back : pad ∉ s.reverse.take 2)
    (occurs : s <:+: frame :: e.write (pad :: s ++ [pad]) ++ [frame]) : e.Readable s := by
  have written : e.write (pad :: s ++ [pad]) = pad :: e.write s ++ [pad] := by
    rw [e.write_append, e.write_cons, e.write_cons, e.item_plain plain]
    rfl
  have occurs : s <:+: frame :: pad :: (e.write s ++ [pad, frame]) := by
    rw [written] at occurs
    simpa using occurs
  exact e.readable_of_occurs (inside_of_back long back (inside_of_front long front occurs))

end Effect.Escape
