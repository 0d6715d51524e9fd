import Molly.Acquisition.Sanitize

/-! What a split reads in a URL that was put together from the parts of a split. -/
namespace Molly
namespace Urls

/-! ### Parts and checks -/

/-- The parts of a URL, whatever its authority. -/
def parts (url : PyText) : SplitResult :=
  let (scheme, rest) := splitScheme (cleanUrl url)
  let (netloc, rest) := splitNetloc rest
  let (body, fragment) := partition 35 rest
  let (path, query) := partition 63 body
  ⟨scheme, netloc, path, query.getD [], fragment.getD []⟩

def isBlank (p : CodePoint) : Bool := p = 9 || p = 13 || p = 10

/-- A URL in which nothing is dropped. -/
structure Clean (url : PyText) : Prop where
  head : ∀ p, url.head? = some p → 32 < p.val
  safe : ∀ p ∈ url, isBlank p = false

theorem Clean.cleanUrl {url : PyText} (clean : Clean url) : cleanUrl url = url := by
  have kept : url.filter (fun p => p ∉ ([9, 13, 10] : List CodePoint)) = url := by
    rw [List.filter_eq_self]
    intro p member
    have safe := clean.safe p member
    simpa [isBlank, and_assoc] using safe
  unfold Urls.cleanUrl
  cases url with
  | nil => rfl
  | cons p rest =>
    have visible := clean.head p rfl
    rw [List.dropWhile_cons_of_neg (by simpa using visible)]
    exact kept

/-- A scheme as a split leaves it. -/
structure IsScheme (scheme : PyText) : Prop where
  first : scheme.head?.any isLetter = true
  chars : scheme.all isSchemeChar = true
  lower : scheme.map asciiLower = scheme

theorem isSchemeChar_bounds {p : CodePoint} (char : isSchemeChar p = true) : 32 < p.val ∧ p ≠ 58 ∧ isBlank p = false := by
  have marks : (43 : CodePoint).val = 43 ∧ (45 : CodePoint).val = 45 ∧ (46 : CodePoint).val = 46 ∧ (58 : CodePoint).val = 58 ∧
      (9 : CodePoint).val = 9 ∧ (13 : CodePoint).val = 13 ∧ (10 : CodePoint).val = 10 := by decide
  simp only [isSchemeChar, isLetter, isDigit, Bool.or_eq_true, Bool.and_eq_true, decide_eq_true_eq, Fin.ext_iff] at char
  simp only [isBlank, Bool.or_eq_false_iff, decide_eq_false_iff_not, ne_eq, Fin.ext_iff]
  omega

/-- The scheme before a rest, with its mark. -/
def schemeHead (scheme : PyText) : PyText := if scheme = [] then [] else scheme ++ [58]

theorem IsScheme.split {scheme : PyText} (valid : IsScheme scheme) (rest : PyText) :
    splitScheme (schemeHead scheme ++ rest) = (scheme, rest) := by
  have filled : scheme ≠ [] := by
    rintro rfl
    have first := valid.first
    contradiction
  have unmarked : (58 : CodePoint) ∉ scheme := fun member =>
    (isSchemeChar_bounds (List.all_eq_true.mp valid.chars 58 member)).2.1 rfl
  rw [schemeHead, if_neg filled, List.append_assoc, List.singleton_append, splitScheme, partition_append unmarked]
  dsimp only
  rw [valid.first, valid.chars, valid.lower]
  rfl

/-- Whether a path behind an empty authority reads as an authority of its own. -/
def Doubled (s : SplitResult) : Prop := s.netloc = [] ∧ ([47, 47] : PyText) <+: s.path

instance (s : SplitResult) : Decidable (Doubled s) := inferInstanceAs (Decidable (_ ∧ _))

end Urls
end Molly
