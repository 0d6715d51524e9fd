import Mathlib.Data.List.Infix
import Molly.Acquisition.Canonical
import Molly.Disk.Linearize

/-! DOIs: which texts are normalized to one, and when that is normalized to itself. -/
namespace Molly

section
variable [CaseText] [LowerText] [CompatText] [DecimalText]

/-- A character that `\d` matches. -/
def isDecimal (p : CodePoint) : Bool := Urls.isDigit p || (127 < p.val && (DecimalText.digit p).isSome)

/-- A character of `[-._;()/:a-z0-9]`. -/
def isDoiMark (p : CodePoint) : Bool :=
  p ∈ ([45, 46, 95, 59, 40, 41, 47, 58] : List CodePoint) || (97 ≤ p.val && p.val ≤ 122) || Urls.isDigit p

/-- Full match of `10\.\d{4,9}/[-._;()/:a-z0-9]+`. -/
def matchesDoi (text : PyText) : Bool :=
  match text with
  | 49 :: 48 :: 46 :: rest =>
    match Urls.partition 47 rest with
    | (registrant, some suffix) =>
      4 ≤ registrant.length && registrant.length ≤ 9 && registrant.all isDecimal && suffix ≠ [] && suffix.all isDoiMark
    | (_, none) => false
  | _ => false

/-- The text behind the prefix of a DOI, or the path of its URL. -/
def doiBody (candidate : PyText) : Except PyError PyText :=
  if (PyText.ofString "doi:").isPrefixOf candidate.casefold then .ok (candidate.drop 4)
  else if (PyText.ofString "https://doi.org/").isPrefixOf candidate.casefold then do
    let parsed ← Urls.urlsplit candidate
    ensure (!parsed.netloc.contains 64 && parsed.fragment = []) (policyError "DOI URL contains forbidden authority or fragment data")
    ensure (parsed.hostname.casefold = PyText.ofString "doi.org") (policyError "DOI URL must use the exact doi.org host")
    let port ← parsed.port
    ensure (port.all (· = 443)) (policyError "DOI URL uses an alternate port")
    ensure (parsed.query = []) (policyError "DOI URL must not contain a query")
    return parsed.path.dropWhile (· = 47)
  else do
    ensure (!decide (PyText.ofString "://" <:+: candidate)) (policyError "only the canonical HTTPS DOI URL form is accepted")
    return candidate

/-- `normalize_doi`. -/
def normalizeDoi (value : PyText) : Except PyError PyText := do
  let candidate := value.strip
  ensure (candidate.length ≤ 512 && candidate ≠ [] && candidate.all fun p => !isSpace p.toChar)
    (policyError "DOI is empty, too long, or contains whitespace")
  ensure (candidate.all fun p => 32 ≤ p.val && p.val ≠ 127) (policyError "DOI contains a control character")
  let body ← doiBody candidate
  let doi := body.strip.casefold
  ensure (matchesDoi doi) (policyError "value is not a bounded DOI")
  ensure (!(doi.splitOn 47).contains [46, 46] && !doi.contains 35 && !doi.contains 63)
    (policyError "DOI contains a forbidden path/query component")
  return doi

/-- What a normalized DOI is said to be. -/
structure IsDoi (doi : PyText) : Prop where
  ascii : ∀ p ∈ doi, p.val < 128
  form : ∃ registrant suffix, doi = 49 :: 48 :: 46 :: (registrant ++ 47 :: suffix) ∧ 4 ≤ registrant.length ∧ registrant.length ≤ 9 ∧
    (∀ p ∈ registrant, Urls.isDigit p = true) ∧ suffix ≠ [] ∧ ∀ p ∈ suffix, isDoiMark p = true
  descends : [46, 46] ∉ doi.splitOn 47

/-- Behind its prefix, a DOI has ASCII digits, does not look like a URL, and is short also when it is folded. -/
def PlainBody (value : PyText) : Prop := ∀ body, doiBody value.strip = .ok body →
  (∀ p ∈ body, ∀ q ∈ CaseText.fold p, 127 < q.val → DecimalText.digit q = none) ∧
    ¬PyText.ofString "://" <:+: body.casefold ∧ body.casefold.length ≤ 512

/-! ### The first normalization -/

omit [DecimalText] in
theorem doiBody_sublist {candidate body : PyText} (made : doiBody candidate = .ok body) : body.Sublist candidate := by
  unfold doiBody at made
  split at made
  · cases made
    exact List.drop_sublist 4 candidate
  · split at made
    · simp only [bind_ok, ensure_ok, exists_const] at made
      obtain ⟨parsed, split, _, _, _, _, _, _, path⟩ := made
      cases path
      exact (List.dropWhile_sublist _).trans (urlsplit_path split).1
    · simp only [bind_ok, ensure_ok, exists_const] at made
      obtain ⟨_, same⟩ := made
      cases same
      exact List.Sublist.refl _

omit [CaseText] [LowerText] [CompatText] in
theorem matchesDoi_iff {text : PyText} : matchesDoi text = true ↔
    ∃ registrant suffix, text = 49 :: 48 :: 46 :: (registrant ++ 47 :: suffix) ∧ (47 : CodePoint) ∉ registrant ∧
      4 ≤ registrant.length ∧ registrant.length ≤ 9 ∧ (∀ p ∈ registrant, isDecimal p = true) ∧ suffix ≠ [] ∧
      ∀ p ∈ suffix, isDoiMark p = true := by
  constructor
  · intro matched
    unfold matchesDoi at matched
    split at matched
    · rename_i rest
      split at matched
      · rename_i registrant suffix cuts
        have whole := Urls.partition_some cuts
        simp only [Bool.and_eq_true, decide_eq_true_eq, List.all_eq_true] at matched
        obtain ⟨⟨⟨⟨low, high⟩, digits⟩, some⟩, chars⟩ := matched
        exact ⟨registrant, suffix, by rw [whole], by simpa [cuts] using (Urls.partition_parts 47 rest).1, low, high, digits, some, chars⟩
      · cases matched
    · cases matched
  · rintro ⟨registrant, suffix, rfl, plain, low, high, digits, some, chars⟩
    simp only [matchesDoi, Urls.partition_append plain, Bool.and_eq_true, decide_eq_true_eq, List.all_eq_true]
    exact ⟨⟨⟨⟨low, high⟩, digits⟩, some⟩, chars⟩

/-- The result is the folded body. -/
theorem normalizeDoi_ok {value doi : PyText} (made : normalizeDoi value = .ok doi) :
    ∃ body, doiBody value.strip = .ok body ∧ doi = body.casefold ∧ matchesDoi doi = true ∧ [46, 46] ∉ doi.splitOn 47 := by
  simp only [normalizeDoi, bind_ok, ensure_ok, exists_const, Bool.and_eq_true, decide_eq_true_eq] at made
  obtain ⟨⟨_, spaceless⟩, _, body, behind, matched, ⟨⟨descends, _⟩, _⟩, same⟩ := made
  cases same
  have plain : ∀ p ∈ body, isSpace p.toChar = false := fun p member => by
    simpa using List.all_eq_true.mp spaceless p ((doiBody_sublist behind).mem member)
  refine ⟨body, behind, by rw [PyText.strip_plain plain], matched, ?_⟩
  simpa using descends

/-! ### The second normalization -/

omit [DecimalText] [CaseText] [LowerText] [CompatText] in
theorem isDoiMark_low {p : CodePoint} (char : isDoiMark p = true) : 32 < p.val ∧ p.val < 127 ∧ ¬(65 ≤ p.val ∧ p.val ≤ 90) := by
  simp only [isDoiMark, Urls.isDigit, Bool.or_eq_true, Bool.and_eq_true, decide_eq_true_eq] at char
  rcases char with (marks | letter) | digit
  · simp only [List.mem_cons, List.not_mem_nil, or_false] at marks
    rcases marks with rfl | rfl | rfl | rfl | rfl | rfl | rfl | rfl <;> decide
  · omega
  · omega

namespace IsDoi

omit [DecimalText] [CaseText] [LowerText] [CompatText] in
theorem chars {doi : PyText} (is : IsDoi doi) : ∀ p ∈ doi, isDoiMark p = true := by
  obtain ⟨registrant, suffix, rfl, _, _, digits, _, marks⟩ := is.form
  intro p member
  simp only [List.mem_cons, List.mem_append] at member
  rcases member with rfl | rfl | rfl | inside | rfl | behind
  · rfl
  · rfl
  · rfl
  · simp [isDoiMark, digits p inside]
  · rfl
  · exact marks p behind

omit [DecimalText] [LowerText] [CompatText] in
theorem casefold {doi : PyText} (is : IsDoi doi) : doi.casefold = doi := by
  refine PyText.casefold_ascii (List.all_eq_true.mpr fun p member => ?_)
  have low := isDoiMark_low (is.chars p member)
  simp only [Bool.and_eq_true, decide_eq_true_eq, Bool.not_eq_true', Bool.and_eq_false_iff, decide_eq_false_iff_not]
  omega

omit [DecimalText] [CaseText] [LowerText] [CompatText] in
theorem visible {doi : PyText} (is : IsDoi doi) : ∀ p ∈ doi, isSpace p.toChar = false := fun p member =>
  (visible_ascii (isDoiMark_low (is.chars p member)).1 (isDoiMark_low (is.chars p member)).2.1).1

omit [DecimalText] in
/-- A DOI has no prefix that is dropped. -/
theorem body {doi : PyText} (is : IsDoi doi) : doiBody doi =
    if PyText.ofString "://" <:+: doi then .error (policyError "only the canonical HTTPS DOI URL form is accepted") else .ok doi := by
  obtain ⟨registrant, suffix, same, _⟩ := is.form
  have named : (PyText.ofString "doi:").isPrefixOf doi.casefold = false := by
    rw [is.casefold, same]
    rfl
  have linked : (PyText.ofString "https://doi.org/").isPrefixOf doi.casefold = false := by
    rw [is.casefold, same]
    rfl
  rw [doiBody, named, linked, if_neg (by decide), if_neg (by decide)]
  by_cases url : PyText.ofString "://" <:+: doi
  · simp [url, ensure, bind, Except.bind]
  · simp [url, ensure, bind, Except.bind, pure, Except.pure]

omit [CaseText] [LowerText] [CompatText] in
theorem matched {doi : PyText} (is : IsDoi doi) : matchesDoi doi = true := by
  obtain ⟨registrant, suffix, same, low, high, digits, some, marks⟩ := is.form
  refine matchesDoi_iff.mpr ⟨registrant, suffix, same, fun slash => ?_, low, high, fun p member => ?_, some, marks⟩
  · exact absurd (digits 47 slash) (by decide)
  · rw [isDecimal, digits p member]
    rfl

/-- A DOI is normalized to itself when it is short and does not look like a URL. -/
theorem stable_iff {doi : PyText} (is : IsDoi doi) :
    normalizeDoi doi = .ok doi ↔ ¬PyText.ofString "://" <:+: doi ∧ doi.length ≤ 512 := by
  have stripped : doi.strip = doi := PyText.strip_plain is.visible
  simp only [normalizeDoi, stripped, is.body, bind_ok, ensure_ok, exists_const, Bool.and_eq_true, decide_eq_true_eq]
  constructor
  · rintro ⟨⟨⟨short, _⟩, _⟩, _, body, behind, _⟩
    refine ⟨fun url => ?_, short⟩
    rw [if_pos url] at behind
    cases behind
  · rintro ⟨plain, short⟩
    have apart (p : CodePoint) (other : isDoiMark p = false) : doi.contains p = false := by
      rw [List.contains_eq_mem, decide_eq_false_iff_not]
      intro member
      rw [is.chars p member] at other
      cases other
    refine ⟨⟨⟨short, ?_⟩, ?_⟩, ?_, doi, if_neg plain, ?_, ⟨?_, ?_⟩, ?_⟩
    · intro none
      have matched := is.matched
      rw [none] at matched
      cases matched
    · exact List.all_eq_true.mpr fun p member => by rw [is.visible p member]; rfl
    · refine List.all_eq_true.mpr fun p member => ?_
      have low := isDoiMark_low (is.chars p member)
      simp only [Bool.and_eq_true, decide_eq_true_eq]
      omega
    · rw [stripped, is.casefold]
      exact is.matched
    · rw [stripped, is.casefold, apart 35 rfl]
      simpa using is.descends
    · rw [stripped, is.casefold, apart 63 rfl]
      rfl
    · rw [stripped, is.casefold]
      rfl

end IsDoi

/-- What is returned is a DOI that is normalized to itself exactly when the text behind the prefix is plain. -/
theorem normalizeDoi_projects {value doi : PyText} (made : normalizeDoi value = .ok doi) :
    IsDoi doi ∧ normalizeDoi doi = .ok doi ↔ PlainBody value := by
  obtain ⟨body, behind, folded, matched, descends⟩ := normalizeDoi_ok made
  constructor
  · rintro ⟨is, stable⟩ body' behind'
    obtain rfl := Except.ok.inj (behind.symm.trans behind')
    obtain ⟨plain, short⟩ := is.stable_iff.mp stable
    refine ⟨fun p member q unfolds high => ?_, folded ▸ plain, folded ▸ short⟩
    have inside : q ∈ doi := folded ▸ List.mem_flatMap.mpr ⟨p, member, unfolds⟩
    have low := is.ascii q inside
    omega
  · intro plainBody
    obtain ⟨digits, plain, short⟩ := plainBody body behind
    obtain ⟨registrant, suffix, same, _, low, high, decimals, some, marks⟩ := matchesDoi_iff.mp matched
    have ascii : ∀ p ∈ registrant, Urls.isDigit p = true := by
      intro p member
      have decimal := decimals p member
      simp only [isDecimal, Bool.or_eq_true, Bool.and_eq_true, decide_eq_true_eq] at decimal
      rcases decimal with digit | ⟨beyond, decimal⟩
      · exact digit
      · have inside : p ∈ body.casefold := folded ▸ same ▸ by simp [member]
        obtain ⟨c, unfolded, made⟩ := List.mem_flatMap.mp inside
        rw [digits c unfolded p made beyond] at decimal
        cases decimal
    have form : ∃ registrant suffix, doi = 49 :: 48 :: 46 :: (registrant ++ 47 :: suffix) ∧ 4 ≤ registrant.length ∧
        registrant.length ≤ 9 ∧ (∀ p ∈ registrant, Urls.isDigit p = true) ∧ suffix ≠ [] ∧ ∀ p ∈ suffix, isDoiMark p = true :=
      ⟨registrant, suffix, same, low, high, ascii, some, marks⟩
    have chars : ∀ p ∈ doi, p.val < 128 := by
      intro p member
      rw [same] at member
      simp only [List.mem_cons, List.mem_append] at member
      rcases member with rfl | rfl | rfl | inside | rfl | after
      · decide
      · decide
      · decide
      · have digit := ascii p inside
        simp only [Urls.isDigit, Bool.and_eq_true, decide_eq_true_eq] at digit
        omega
      · decide
      · have mark := isDoiMark_low (marks p after)
        omega
    have is : IsDoi doi := ⟨chars, form, descends⟩
    exact ⟨is, is.stable_iff.mpr ⟨folded ▸ plain, folded ▸ short⟩⟩

end

/-! ### Texts that are normalized once -/

namespace Sample

attribute [local instance] asciiCase asciiLowerText asciiCompat asciiDecimal

theorem normalizeDoi_projects_plain : IsDoi (PyText.ofString "10.1234/a(1);b") ∧
    normalizeDoi (PyText.ofString "10.1234/a(1);b") = .ok (PyText.ofString "10.1234/a(1);b") := by
  have made : normalizeDoi (PyText.ofString " DOI:10.1234/A(1);b") = .ok (PyText.ofString "10.1234/a(1);b") := by decide +kernel
  refine (normalizeDoi_projects made).mpr fun body behind => ?_
  have cut : doiBody (PyText.ofString " DOI:10.1234/A(1);b").strip = .ok (PyText.ofString "10.1234/A(1);b") := by decide +kernel
  obtain rfl := Except.ok.inj (cut.symm.trans behind)
  refine ⟨fun p member q unfolds beyond => ?_, by decide +kernel, by decide +kernel⟩
  have low : ((PyText.ofString "10.1234/A(1);b").all fun p => (CaseText.fold p).all fun q => q.val ≤ 127) = true := by decide +kernel
  have small := List.all_eq_true.mp (List.all_eq_true.mp low p member) q unfolds
  simp only [decide_eq_true_eq] at small
  omega

/-- The suffix of a DOI may hold `://`, and the result of the first normalization is refused by the second. -/
theorem normalizeDoi_fails : ∃ doi, normalizeDoi (PyText.ofString "doi:10.1234/a://b") = .ok doi ∧
    ¬(IsDoi doi ∧ normalizeDoi doi = .ok doi) := by
  have made : normalizeDoi (PyText.ofString "doi:10.1234/a://b") = .ok (PyText.ofString "10.1234/a://b") := by decide +kernel
  refine ⟨_, made, fun both => ?_⟩
  have again : normalizeDoi (PyText.ofString "10.1234/a://b") ≠ .ok (PyText.ofString "10.1234/a://b") := by decide +kernel
  exact again both.2

end Sample
end Molly
