import Molly.Document.Common

/-! What the queries for ancestors and for text say of the places above and below a place. -/
namespace Molly
open Effect (RoseTree Step Place)

section
variable [CaseText]

/-! ### Ancestors -/

/-- The nearest place with a name is at or above the place, and has the name. -/
theorem nearestFrom_ok {names : List String} : ∀ {p up : Place Element}, nearestFrom names p = some up →
    up <:+ p ∧ up ≠ [] ∧ oneOf names up.label.name = true
  | s :: above, up, found => by
    rw [nearestFrom] at found
    split at found
    · rename_i named
      cases found
      exact ⟨List.suffix_refl _, by simp, named⟩
    · obtain ⟨suffix, filled, named⟩ := nearestFrom_ok found
      exact ⟨suffix.trans (List.suffix_cons _ _), filled, named⟩

/-- There is none exactly when no place at or above the place has the name. -/
theorem nearestFrom_none {names : List String} : ∀ {p : Place Element}, nearestFrom names p = none ↔
    ∀ s ∈ p, oneOf names s.tree.label.name = false
  | [] => by simp [nearestFrom]
  | s :: above => by
    rw [nearestFrom]
    by_cases named : oneOf names s.tree.label.name = true
    · simp [named]
    · simp [named, nearestFrom_none (p := above)]

/-- A place above the nearest one with a name is above it. -/
theorem nearestFrom_suffix {names : List String} : ∀ {p up q : Place Element}, nearestFrom names p = some up → q <:+ p → q ≠ [] →
    oneOf names q.label.name = true → q <:+ up
  | s :: above, up, q, found, suffix, filled, named => by
    rw [nearestFrom] at found
    split at found
    · cases found
      exact suffix
    · rename_i other
      rcases List.suffix_cons_iff.mp suffix with rfl | suffix
      · exact absurd named other
      · exact nearestFrom_suffix found suffix filled named

theorem nearestAncestor_ok {names : List String} {p up : Place Element} (found : nearestAncestor names p = some up) :
    up <:+ p.tail ∧ up ≠ [] ∧ oneOf names up.label.name = true := nearestFrom_ok found

omit [CaseText] in
/-- Places above one place with the same positions are one. -/
theorem suffix_unique {p q r : Place Element} (left : q <:+ p) (right : r <:+ p) (same : q.keys = r.keys) : q = r := by
  have lengths := congrArg List.length same
  simp only [Place.keys, List.length_map] at lengths
  rcases List.suffix_or_suffix_of_suffix left right with inside | inside
  · exact inside.eq_of_length lengths
  · exact (inside.eq_of_length lengths.symm).symm

theorem nearestIs_iff {names : List String} {p other : Place Element} (above : other <:+ p) :
    nearestIs names p other = true ↔ nearestAncestor names p = some other := by
  unfold nearestIs
  cases found : nearestAncestor names p with
  | none => simp
  | some up =>
    have suffix := (nearestAncestor_ok found).1.trans (List.tail_suffix p)
    simp only [Option.any_some, decide_eq_true_eq, Option.some.injEq]
    exact ⟨suffix_unique suffix above, fun same => congrArg Place.keys same⟩

omit [CaseText] in
/-- A place strictly above another has other positions. -/
theorem keys_ne {p up : Place Element} (above : up <:+ p.tail) (filled : p ≠ []) : p.keys ≠ up.keys := by
  intro same
  have lengths := congrArg List.length same
  have short := above.length_le
  have long := List.length_pos_of_ne_nil filled
  simp only [Place.keys, List.length_map, List.length_tail] at lengths short
  omega

/-! ### Texts -/

theorem textParts_child {skip : List String} {t : RoseTree Element} : ∀ {ts : List (RoseTree Element)}, t ∈ ts →
    textParts skip t <:+: textPartsOfAll skip ts
  | u :: ts, member => by
    rw [textPartsOfAll, List.append_assoc]
    rcases List.mem_cons.mp member with rfl | member
    · exact (List.prefix_append _ _).isInfix
    · exact (textParts_child member).trans
        (((List.suffix_append _ _).trans (List.suffix_append _ _)).isInfix)

/-- The text of an element is a part of the text of the elements above it. -/
theorem textParts_infix {p q : Place Element} (under : Place.Under p q) : textParts [] q.tree <:+: textParts [] p.tree := by
  induction under with
  | here => exact List.infix_rfl
  | @down s up i t above child ih =>
    refine List.IsInfix.trans ?_ ih
    change textParts [] t <:+: textParts [] s.tree
    obtain ⟨index, label, children⟩ := s
    have inner : textParts [] t <:+: textPartsOfAll [] children := textParts_child (List.mem_of_getElem? child)
    change textParts [] t <:+: textParts [] (.node label children)
    rw [textParts, if_neg (by simp [oneOf])]
    exact inner.trans (List.suffix_append _ _).isInfix

end
end Molly
