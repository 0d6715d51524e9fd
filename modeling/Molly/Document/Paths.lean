import Molly.Document.Common

/-! Structural paths identify elements: two places under one root have the same path only when they are
the same place, if no name holds a slash. -/
namespace Molly
open Effect (RoseTree Step Place)

/-! ### Texts -/

/-- What stands before and behind the last mark is known by the text. -/
theorem split_last {mark : α} {before before' after after' : List α} (plain : mark ∉ after) (plain' : mark ∉ after')
    (same : before ++ mark :: after = before' ++ mark :: after') : before = before' ∧ after = after' := by
  rcases List.append_eq_append_iff.mp same with ⟨middle, shown, rest⟩ | ⟨middle, shown, rest⟩
  · cases middle with
    | nil =>
      obtain ⟨-, rfl⟩ := List.cons.inj rest
      exact ⟨by simpa using shown.symm, rfl⟩
    | cons m middle =>
      obtain ⟨-, rfl⟩ := List.cons.inj rest
      exact absurd (by simp) plain
  · cases middle with
    | nil =>
      obtain ⟨-, rfl⟩ := List.cons.inj rest
      exact ⟨by simpa using shown, rfl⟩
    | cons m middle =>
      obtain ⟨-, rfl⟩ := List.cons.inj rest
      exact absurd (by simp) plain'

theorem natText_injective {m n : Nat} (same : natText m = natText n) : m = n := by
  have digits : Nat.toDigits 10 m = Nat.toDigits 10 n := List.map_injective_iff.mpr (fun _ _ => CodePoint.ofChar_injective) same
  have left := Nat.ofDigitChars_ten_toDigits (n := m)
  rw [digits, Nat.ofDigitChars_ten_toDigits] at left
  exact left.symm

/-- A decimal number holds digits only. -/
theorem natText_digits {n : Nat} {p : CodePoint} (member : p ∈ natText n) : 48 ≤ p.val ∧ p.val ≤ 57 := by
  obtain ⟨c, digit, rfl⟩ := List.mem_map.mp member
  have isDigit := Nat.isDigit_of_mem_toDigits (by decide) (by decide) digit
  simp only [Char.isDigit, Bool.and_eq_true, decide_eq_true_eq, ge_iff_le, UInt32.le_iff_toNat_le] at isDigit
  exact isDigit

theorem pathStep_injective {name name' : PyText} {i j : Nat} (same : pathStep name i = pathStep name' j) : name = name' ∧ i = j := by
  have bare (n : Nat) : (91 : CodePoint) ∉ natText n ++ [93] := by
    intro member
    rcases List.mem_append.mp member with digit | last
    · have low := (natText_digits digit).2
      exact absurd low (by decide)
    · exact absurd last (by decide)
  simp only [pathStep, List.cons_append, List.append_assoc, List.cons.injEq, true_and] at same
  obtain ⟨names, indices⟩ := split_last (bare i) (bare j) same
  exact ⟨names, natText_injective (List.append_cancel_right indices)⟩

section
variable [CaseText]

/-- No name at or under the root holds a slash. -/
def PlainNames (root : Place Element) : Prop := ∀ p, Place.Under root p → ∀ s ∈ p.head?, (47 : CodePoint) ∉ s.tree.label.name

omit [CaseText] in
/-- The part of a path behind its last slash. -/
theorem pathStep_tail (name : PyText) (i : Nat) : pathStep name i = 47 :: (name ++ 91 :: natText i ++ [93]) := by
  simp [pathStep]

omit [CaseText] in
theorem pathStep_plain {name : PyText} (plain : (47 : CodePoint) ∉ name) (i : Nat) :
    (47 : CodePoint) ∉ name ++ 91 :: natText i ++ [93] := by
  intro member
  simp only [List.mem_append, List.mem_cons, List.not_mem_nil, or_false] at member
  rcases member with (inside | bracket | digit) | bracket
  · exact plain inside
  · exact absurd bracket (by decide)
  · have high := (natText_digits digit).1
    exact absurd high (by decide)
  · exact absurd bracket (by decide)

/-! ### Siblings -/

theorem siblingIndex_lt {ts : List (RoseTree Element)} {i j : Nat} {t u : RoseTree Element} (at_j : ts[j]? = some u) (before : i < j)
    (same : t.label.name = u.label.name) : siblingIndex ⟨i, t⟩ ts < siblingIndex ⟨j, u⟩ ts := by
  simp only [siblingIndex, same]
  obtain ⟨bound, value⟩ := List.getElem?_eq_some_iff.mp at_j
  have last : ts.take (j + 1) = ts.take j ++ [u] := by rw [List.take_add_one, at_j]; rfl
  have fewer : (ts.take (i + 1)).Sublist (ts.take j) := by
    have cut : ts.take (i + 1) = (ts.take j).take (i + 1) := by rw [List.take_take, Nat.min_eq_left (by omega)]
    rw [cut]
    exact List.take_sublist _ _
  rw [last, List.filter_append, List.length_append]
  have one : (List.filter (fun t => decide (t.label.name = u.label.name)) [u]).length = 1 := by simp
  have less := (fewer.filter fun t => decide (t.label.name = u.label.name)).length_le
  omega

/-- Siblings of one name and one index are one. -/
theorem siblingIndex_unique {ts : List (RoseTree Element)} {i j : Nat} {t u : RoseTree Element} (at_i : ts[i]? = some t)
    (at_j : ts[j]? = some u) (name : t.label.name = u.label.name) (index : siblingIndex ⟨i, t⟩ ts = siblingIndex ⟨j, u⟩ ts) :
    i = j := by
  rcases Nat.lt_trichotomy i j with before | same | after
  · have less := siblingIndex_lt at_j before name
    omega
  · exact same
  · have less := siblingIndex_lt at_i after name.symm
    omega

/-! ### Paths -/

theorem structuralPath_root {s : Step Element} {up : Place Element} : structuralPath (s :: up).length (s :: up) =
    pathStep (if s.tree.label.name = [] then PyText.ofString "document" else s.tree.label.name) 1 := by
  rw [structuralPath.eq_def]
  dsimp only
  rw [if_pos (by simp)]

theorem structuralPath_child {depth i : Nat} {t : RoseTree Element} {s : Step Element} {up : Place Element}
    (below : depth ≤ (s :: up).length) : structuralPath depth (⟨i, t⟩ :: s :: up) =
      structuralPath depth (s :: up) ++ pathStep t.label.name (siblingIndex ⟨i, t⟩ s.tree.children) := by
  conv_lhs => rw [structuralPath.eq_def]
  dsimp only
  rw [if_neg (by omega)]

theorem structuralPath_ne_nil {root p : Place Element} (filled : root ≠ []) (under : Place.Under root p) :
    structuralPath root.length p ≠ [] := by
  cases under with
  | here =>
    obtain ⟨s, up, rfl⟩ := List.exists_cons_of_ne_nil filled
    rw [structuralPath_root, pathStep_tail]
    exact List.cons_ne_nil _ _
  | down above child =>
    rw [structuralPath_child above.suffix.length_le, pathStep_tail]
    simp

omit [CaseText] in
/-- The name a root's path shows. -/
theorem rootName_plain {name : PyText} (plain : (47 : CodePoint) ∉ name) :
    (47 : CodePoint) ∉ (if name = [] then PyText.ofString "document" else name) := by
  split
  · decide
  · exact plain

/-- Two places under a root with the same path are one. -/
theorem structuralPath_injective {root : Place Element} (filled : root ≠ []) (plain : PlainNames root) {p q : Place Element}
    (left : Place.Under root p) (right : Place.Under root q)
    (same : structuralPath root.length p = structuralPath root.length q) : p = q := by
  obtain ⟨r, above, rfl⟩ := List.exists_cons_of_ne_nil filled
  have rootPlain := rootName_plain (plain _ .here r rfl)
  -- the root's path has no step above it
  have apart {s : Step Element} {up : Place Element} {i : Nat} {t : RoseTree Element} (under : Place.Under (r :: above) (s :: up))
      (child : s.tree.children[i]? = some t) (same : structuralPath (r :: above).length (r :: above) =
        structuralPath (r :: above).length (⟨i, t⟩ :: s :: up)) : False := by
    rw [structuralPath_root, structuralPath_child under.suffix.length_le, pathStep_tail, pathStep_tail] at same
    have namePlain := plain _ (under.down child) ⟨i, t⟩ rfl
    rw [← List.nil_append (47 :: _)] at same
    obtain ⟨bare, -⟩ := split_last (pathStep_plain rootPlain 1) (pathStep_plain namePlain _) same
    exact structuralPath_ne_nil filled under bare.symm
  induction left generalizing q with
  | here =>
    cases right with
    | here => rfl
    | down under child => exact (apart under child same).elim
  | @down s up i t under child ih =>
    cases right with
    | here => exact (apart under child same.symm).elim
    | @down s' up' j u under' child' =>
      have left' := plain _ (under.down child) ⟨i, t⟩ rfl
      have right' := plain _ (under'.down child') ⟨j, u⟩ rfl
      rw [structuralPath_child under.suffix.length_le, structuralPath_child under'.suffix.length_le, pathStep_tail,
        pathStep_tail] at same
      obtain ⟨parents, steps⟩ := split_last (pathStep_plain left' _) (pathStep_plain right' _) same
      obtain ⟨rfl, rfl⟩ := List.cons.inj (ih under' parents)
      have step : pathStep t.label.name (siblingIndex ⟨i, t⟩ s.tree.children) =
          pathStep u.label.name (siblingIndex ⟨j, u⟩ s.tree.children) := by
        rw [pathStep_tail, pathStep_tail, steps]
      obtain ⟨name, index⟩ := pathStep_injective step
      obtain rfl := siblingIndex_unique child child' name index
      cases child.symm.trans child'
      rfl

end
end Molly
