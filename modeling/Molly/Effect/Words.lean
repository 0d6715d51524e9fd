import Mathlib.Data.List.Basic
import Mathlib.Data.List.TakeWhile

/-! The words of a text, over any alphabet with blanks: how they survive joining, squeezing and
trimming, and how two texts put together merge at most one pair of them. -/
namespace Effect

variable {α : Type} {blank : α → Bool} {sep : α}

/-- The maximal runs that hold no blank. -/
def words (blank : α → Bool) (text : List α) : List (List α) := (text.splitOnP blank).filter fun w => !w.isEmpty

/-- The parts, with a separator between them. -/
def spaced (sep : α) : List (List α) → List α
  | [] => []
  | [part] => part
  | part :: parts => part ++ sep :: spaced sep parts

/-- Every run of blanks made one separator; a run that stands after a blank is dropped. -/
def squeeze (blank : α → Bool) (sep : α) : Bool → List α → List α
  | _, [] => []
  | after, a :: rest =>
    if blank a then (if after then squeeze blank sep true rest else sep :: squeeze blank sep true rest)
    else a :: squeeze blank sep false rest

/-- The text without its outer blanks. -/
def trim (blank : α → Bool) (text : List α) : List α := ((text.dropWhile blank).reverse.dropWhile blank).reverse

/-! ### Words of an appended text -/

@[simp] theorem words_nil : words blank [] = [] := rfl

theorem words_append_blank (xs ys : List α) {b : α} (isBlank : blank b = true) :
    words blank (xs ++ b :: ys) = words blank xs ++ words blank ys := by
  rw [words, List.splitOnP_append_cons xs ys isBlank, List.filter_append]
  rfl

theorem words_cons_blank (ys : List α) {b : α} (isBlank : blank b = true) : words blank (b :: ys) = words blank ys := by
  simpa using words_append_blank [] ys isBlank

theorem words_append_cons (xs ys : List α) {b : α} (isBlank : blank b = true) :
    words blank (xs ++ b :: ys) = words blank xs ++ words blank (b :: ys) := by
  rw [words_append_blank xs ys isBlank, words_cons_blank ys isBlank]

theorem words_of_solid {w : List α} (filled : w ≠ []) (solid : ∀ a ∈ w, blank a = false) : words blank w = [w] := by
  rw [words, List.splitOnP_eq_singleton solid]
  simp [filled]

theorem words_cons_solid {a : α} (solid : blank a = false) (rest : List α) :
    (words blank (a :: rest) = [a] :: words blank rest ∧ (rest = [] ∨ ∃ b tail, rest = b :: tail ∧ blank b = true)) ∨
    ∃ b tail w ws, rest = b :: tail ∧ blank b = false ∧ words blank rest = w :: ws ∧ words blank (a :: rest) = (a :: w) :: ws := by
  rcases rest with _ | ⟨b, tail⟩
  · left
    exact ⟨words_of_solid (by simp) (by simpa using solid), .inl rfl⟩
  · cases next : blank b
    · right
      have shape : (b :: tail).splitOnP blank = (tail.splitOnP blank).modifyHead (List.cons b) := by
        rw [List.splitOnP_cons_eq_if_modifyHead, if_neg (by simp [next])]
      have outer : (a :: b :: tail).splitOnP blank = ((b :: tail).splitOnP blank).modifyHead (List.cons a) := by
        rw [List.splitOnP_cons_eq_if_modifyHead, if_neg (by simp [solid])]
      obtain ⟨first, more, split⟩ := List.exists_cons_of_ne_nil (List.splitOnP_ne_nil blank tail)
      refine ⟨b, tail, b :: first, more.filter fun w => !w.isEmpty, rfl, next, ?_, ?_⟩
      · rw [words, shape, split]
        simp
      · rw [words, outer, shape, split]
        simp
    · left
      refine ⟨?_, .inr ⟨b, tail, rfl, next⟩⟩
      have apart := words_append_blank [a] tail next
      rw [List.cons_append, List.nil_append, words_of_solid (w := [a]) (by simp) (by simpa using solid)] at apart
      rw [apart, words_cons_blank tail next]
      rfl

/-- Words are not empty and hold no blank. -/
theorem mem_words {text w : List α} (member : w ∈ words blank text) : w ≠ [] ∧ ∀ a ∈ w, blank a = false := by
  induction text generalizing w with
  | nil => cases member
  | cons a rest ih =>
    cases solid : blank a
    · rcases words_cons_solid solid rest with ⟨split, -⟩ | ⟨b, tail, u, us, -, -, inner, split⟩
      · rw [split] at member
        rcases List.mem_cons.mp member with rfl | member
        · exact ⟨by simp, by simpa using solid⟩
        · exact ih member
      · rw [split] at member
        rcases List.mem_cons.mp member with rfl | member
        · refine ⟨by simp, fun c inside => ?_⟩
          rcases List.mem_cons.mp inside with rfl | inside
          · exact solid
          · exact (ih (inner ▸ List.mem_cons_self)).2 c inside
        · exact ih (inner ▸ List.mem_cons_of_mem _ member)
    · rw [words_cons_blank rest solid] at member
      exact ih member

theorem words_eq_nil {text : List α} : words blank text = [] ↔ ∀ a ∈ text, blank a = true := by
  induction text with
  | nil => simp
  | cons a rest ih =>
    cases solid : blank a
    · rcases words_cons_solid solid rest with ⟨split, -⟩ | ⟨b, tail, u, us, -, -, -, split⟩ <;> simp [split, solid]
    · simp [words_cons_blank rest solid, ih, solid]

/-- Two texts put together have the words of both, unless the last word of one meets the first of the other. -/
theorem words_append (xs ys : List α) :
    words blank (xs ++ ys) = words blank xs ++ words blank ys ∨
    ∃ init last first rest, words blank xs = init ++ [last] ∧ words blank ys = first :: rest ∧
      words blank (xs ++ ys) = init ++ (last ++ first) :: rest := by
  induction xs with
  | nil => exact .inl rfl
  | cons a xs ih =>
    cases solid : blank a
    · have shared := words_cons_solid solid xs
      have outer := words_cons_solid solid (xs ++ ys)
      rw [List.cons_append]
      rcases xs with _ | ⟨c, xs⟩
      · -- the text is one solid character: it meets what follows or not
        rw [words_of_solid (w := [a]) (by simp) (by simpa using solid)]
        rw [List.nil_append] at outer ⊢
        rcases outer with ⟨split, -⟩ | ⟨b, tail, w, ws, -, -, inner, split⟩
        · left
          rw [split]
          rfl
        · right
          exact ⟨[], [a], w, ws, rfl, inner, split⟩
      · cases next : blank c
        · rcases shared with ⟨-, ends⟩ | ⟨b, tail, w, ws, same, -, inner, split⟩
          · rcases ends with ends | ⟨b, tail, same, isBlank⟩
            · cases ends
            · cases same
              rw [next] at isBlank
              cases isBlank
          · rcases outer with ⟨-, ends⟩ | ⟨b', tail', w', ws', same', -, inner', split'⟩
            · rcases ends with ends | ⟨b', tail', same', isBlank⟩
              · cases ends
              · cases same'
                rw [next] at isBlank
                cases isBlank
            · rw [split, split']
              rcases ih with apart | ⟨init, last, first, rest, one, other, whole⟩
              · left
                rw [inner, inner', List.cons_append] at apart
                obtain ⟨rfl, rfl⟩ := List.cons.inj apart
                rfl
              · right
                rw [inner] at one
                rw [inner'] at whole
                rcases init with _ | ⟨i, init⟩
                · obtain ⟨rfl, rfl⟩ := List.cons.inj one
                  obtain ⟨rfl, rfl⟩ := List.cons.inj whole
                  exact ⟨[], a :: w, first, ws', rfl, other, rfl⟩
                · obtain ⟨rfl, rfl⟩ := List.cons.inj one
                  obtain ⟨rfl, rfl⟩ := List.cons.inj whole
                  exact ⟨(a :: w') :: init, last, first, rest, rfl, other, rfl⟩
        · have one := words_append_blank [a] xs next
          have both := words_append_blank [a] (xs ++ ys) next
          rw [List.singleton_append] at one both
          rw [one, List.cons_append, both]
          rw [List.cons_append, words_cons_blank _ next, words_cons_blank _ next] at ih
          rcases ih with apart | ⟨init, last, first, rest, left, right, whole⟩
          · left
            rw [apart, List.append_assoc]
          · right
            refine ⟨words blank [a] ++ init, last, first, rest, ?_, right, ?_⟩
            · rw [left, List.append_assoc]
            · rw [whole, List.append_assoc]
    · rw [List.cons_append, words_cons_blank _ solid, words_cons_blank _ solid]
      exact ih

/-- A word is its only word. -/
theorem flatMap_words (text : List α) : (words blank text).flatMap (words blank) = words blank text := by
  have each : ∀ w ∈ words blank text, words blank w = [w] := fun w member =>
    words_of_solid (mem_words member).1 (mem_words member).2
  rw [List.flatMap_congr each]
  exact List.flatMap_singleton' _

/-- The words of joined parts are those of the parts. -/
theorem words_spaced (isBlank : blank sep = true) (parts : List (List α)) :
    words blank (spaced sep parts) = parts.flatMap (words blank) := by
  induction parts with
  | nil => rfl
  | cons part parts ih =>
    rcases parts with _ | ⟨next, parts⟩
    · simp [spaced]
    · rw [spaced, words_append_blank _ _ isBlank, ih, ← List.flatMap_cons]
      exact List.cons_ne_nil _ _

/-! ### Squeezing and trimming -/

theorem spaced_cons (w : List α) {ws : List (List α)} (more : ws ≠ []) : spaced sep (w :: ws) = w ++ sep :: spaced sep ws := by
  rcases ws with _ | ⟨v, ws⟩
  · exact absurd rfl more
  · rfl

theorem spaced_head (a : α) (w : List α) (ws : List (List α)) : spaced sep ((a :: w) :: ws) = a :: spaced sep (w :: ws) := by
  rcases ws with _ | ⟨v, ws⟩ <;> rfl

/-- A squeezed text is its words joined, with a separator where outer blanks were. -/
theorem squeeze_eq (text : List α) :
    (∃ tail, squeeze blank sep true text = spaced sep (words blank text) ++ tail ∧ (tail = [] ∨ tail = [sep]) ∧
      (words blank text = [] → tail = [])) ∧
    ∃ lead tail, squeeze blank sep false text = lead ++ spaced sep (words blank text) ++ tail ∧
      (lead = [] ∨ lead = [sep]) ∧ (tail = [] ∨ tail = [sep]) ∧
      (∀ a rest, text = a :: rest → blank a = false → lead = []) ∧
      (∀ a rest, text = a :: rest → blank a = true → lead = [sep] ∧ (words blank text = [] → tail = [])) := by
  induction text with
  | nil => exact ⟨⟨[], rfl, .inl rfl, fun _ => rfl⟩, [], [], rfl, .inl rfl, .inl rfl, by simp, by simp⟩
  | cons a rest ih =>
    obtain ⟨⟨tail, after, ends, empty⟩, lead', tail', start, leads', ends', open', shut'⟩ := ih
    cases solid : blank a
    · -- a solid character begins or continues the first word
      have step (flag : Bool) : squeeze blank sep flag (a :: rest) = a :: squeeze blank sep false rest := by
        rw [squeeze, if_neg (by simp [solid])]
      have whole : ∃ t, a :: squeeze blank sep false rest = spaced sep (words blank (a :: rest)) ++ t ∧ (t = [] ∨ t = [sep]) := by
        rcases words_cons_solid solid rest with ⟨split, apart⟩ | ⟨b, more, w, ws, same, next, inner, split⟩
        · rcases apart with rfl | ⟨b, more, same, next⟩
          · exact ⟨[], by simp [split, squeeze, spaced], .inl rfl⟩
          · obtain ⟨rfl, shut⟩ := shut' b more same next
            by_cases none : words blank rest = []
            · refine ⟨[sep], ?_, .inr rfl⟩
              rw [start, split, none, shut none]
              rfl
            · refine ⟨tail', ?_, ends'⟩
              rw [start, split, spaced_cons _ none]
              simp
        · refine ⟨tail', ?_, ends'⟩
          rw [start, split, open' b more same next, inner, spaced_head]
          simp
      obtain ⟨t, shown, last⟩ := whole
      refine ⟨⟨t, by rw [step, shown], last, fun none => ?_⟩, [], t, by rw [step, shown]; rfl, .inl rfl, last, ?_, ?_⟩
      · rcases words_cons_solid solid rest with ⟨split, -⟩ | ⟨b, more, w, ws, -, -, -, split⟩ <;> simp [split] at none
      · intros
        rfl
      · intro b more same isBlank'
        cases same
        rw [solid] at isBlank'
        cases isBlank'
    · rw [words_cons_blank rest solid]
      refine ⟨⟨tail, by rw [squeeze, if_pos solid, if_pos rfl, after], ends, empty⟩, [sep], tail, ?_, .inr rfl, ends, ?_, ?_⟩
      · rw [squeeze, if_pos solid, if_neg (by simp), after]
        rfl
      · intro b more same kept
        cases same
        rw [solid] at kept
        cases kept
      · intros
        exact ⟨rfl, empty⟩

/-- Squeezing keeps the words. -/
theorem words_squeeze (isBlank : blank sep = true) (text : List α) :
    words blank (squeeze blank sep false text) = words blank text := by
  obtain ⟨-, lead, tail, shown, leads, ends, -, -⟩ := squeeze_eq text
  have each : (words blank text).flatMap (words blank) = words blank text := flatMap_words text
  have inner : words blank (spaced sep (words blank text)) = words blank text := (words_spaced isBlank _).trans each
  have open' : words blank (lead ++ spaced sep (words blank text)) = words blank text := by
    rcases leads with rfl | rfl
    · exact inner
    · exact (words_cons_blank _ isBlank).trans inner
  rw [shown]
  rcases ends with rfl | rfl
  · rw [List.append_nil, open']
  · rw [words_append_blank _ _ isBlank, open', words_nil, List.append_nil]

theorem spaced_solid_ends {w : List α} {ws : List (List α)} (solid : ∀ v ∈ w :: ws, v ≠ [] ∧ ∀ a ∈ v, blank a = false) :
    (∃ a rest, spaced sep (w :: ws) = a :: rest ∧ blank a = false) ∧
    ∃ init z, spaced sep (w :: ws) = init ++ [z] ∧ blank z = false := by
  induction ws generalizing w with
  | nil =>
    obtain ⟨filled, each⟩ := solid w List.mem_cons_self
    obtain ⟨a, rest, rfl⟩ := List.exists_cons_of_ne_nil filled
    refine ⟨⟨a, rest, rfl, each a List.mem_cons_self⟩, (a :: rest).dropLast, (a :: rest).getLast filled, ?_, ?_⟩
    · exact (List.dropLast_append_getLast filled).symm
    · exact each _ (List.getLast_mem filled)
  | cons v ws ih =>
    obtain ⟨-, init, z, ends, isSolid⟩ := ih fun u member => solid u (List.mem_cons_of_mem _ member)
    obtain ⟨filled, each⟩ := solid w List.mem_cons_self
    obtain ⟨a, rest, rfl⟩ := List.exists_cons_of_ne_nil filled
    refine ⟨⟨a, rest ++ sep :: spaced sep (v :: ws), rfl, each a List.mem_cons_self⟩, (a :: rest) ++ sep :: init, z, ?_, isSolid⟩
    rw [spaced, ends]
    · simp
    · exact List.cons_ne_nil _ _

theorem trim_between {lead tail mid : List α} (before : ∀ a ∈ lead, blank a = true) (behind : ∀ a ∈ tail, blank a = true)
    (opens : ∃ a rest, mid = a :: rest ∧ blank a = false) (closes : ∃ init z, mid = init ++ [z] ∧ blank z = false) :
    trim blank (lead ++ mid ++ tail) = mid := by
  obtain ⟨a, rest, first, solid⟩ := opens
  obtain ⟨init, z, last, solid'⟩ := closes
  have front : (lead ++ mid ++ tail).dropWhile blank = mid ++ tail := by
    rw [List.append_assoc, List.dropWhile_append_of_pos before, first, List.cons_append, List.dropWhile_cons_of_neg (by simp [solid])]
  have back : (mid ++ tail).reverse.dropWhile blank = mid.reverse := by
    rw [List.reverse_append, List.dropWhile_append_of_pos (by simpa using behind), last, List.reverse_append]
    simp [solid']
  rw [trim, front, back, List.reverse_reverse]

/-- Squeezing and trimming leave the words, one separator between them. -/
theorem trim_squeeze (isBlank : blank sep = true) (text : List α) :
    trim blank (squeeze blank sep false text) = spaced sep (words blank text) := by
  obtain ⟨-, lead, tail, shown, leads, ends, -, -⟩ := squeeze_eq text
  have blanks {t : List α} (one : t = [] ∨ t = [sep]) : ∀ a ∈ t, blank a = true := by
    rcases one with rfl | rfl
    · simp
    · simpa using isBlank
  rw [shown]
  cases each : words blank text with
  | nil =>
    have outer : ∀ a ∈ lead ++ spaced sep [] ++ tail, blank a = true := by
      intro a member
      rcases List.mem_append.mp member with member | member
      · rcases List.mem_append.mp member with member | member
        · exact blanks leads a member
        · cases member
      · exact blanks ends a member
    rw [trim, List.dropWhile_eq_nil_iff.2 outer]
    rfl
  | cons w ws =>
    have solid : ∀ v ∈ w :: ws, v ≠ [] ∧ ∀ a ∈ v, blank a = false := fun v member => mem_words (each ▸ member)
    exact trim_between (blanks leads) (blanks ends) (spaced_solid_ends solid).1 (spaced_solid_ends solid).2

/-- Solid words joined are the words of what they make. -/
theorem words_spaced_solid (isBlank : blank sep = true) {ws : List (List α)} (solid : ∀ w ∈ ws, words blank w = [w]) :
    words blank (spaced sep ws) = ws := by
  rw [words_spaced isBlank, List.flatMap_congr solid]
  exact List.flatMap_singleton' _

end Effect
