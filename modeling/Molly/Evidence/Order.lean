import Mathlib.Data.List.Nodup
import Mathlib.Data.List.Pairwise
import Molly.Evidence.Leakage

/-! Validation looks at whole groups: the report depends on the set of records, not on the order in
which they are given. -/
namespace Molly

/-! ### One order -/

theorem sortedBy_pairwise (key : α → PyText) (xs : List α) :
    (sortedBy key xs).Pairwise fun a b => PyText.lt (key b) (key a) = false := by
  have total : ∀ a b : α, PyText.lt (key b) (key a) = false ∨ PyText.lt (key a) (key b) = false := by
    intro a b
    by_cases before : PyText.lt (key b) (key a) = true
    · right
      by_contra after
      rw [Bool.not_eq_false] at after
      have cycle := PyText.lt_trans before after
      rw [PyText.lt_irrefl] at cycle
      cases cycle
    · exact Or.inl (Bool.eq_false_iff.mpr before)
  have trans : ∀ a b c : α, PyText.lt (key b) (key a) = false → PyText.lt (key c) (key b) = false →
      PyText.lt (key c) (key a) = false := by
    intro a b c ab bc
    by_contra after
    rw [Bool.not_eq_false] at after
    by_cases same : key b = key c
    · rw [same, after] at ab
      cases ab
    · rcases PyText.lt_total same with below | above
      · have cycle := PyText.lt_trans below after
        rw [ab] at cycle
        cases cycle
      · rw [bc] at above
        cases above
  have : Std.Total fun a b : α => PyText.lt (key b) (key a) = false := ⟨total⟩
  have : IsTrans α fun a b : α => PyText.lt (key b) (key a) = false := ⟨trans⟩
  exact List.pairwise_insertionSort _ xs

/-- Values whose keys differ are sorted in one way. -/
theorem sortedBy_of_perm {key : α → PyText} {xs ys : List α} (same : xs.Perm ys) (distinct : (xs.map key).Nodup) :
    sortedBy key xs = sortedBy key ys := by
  have perm : (sortedBy key xs).Perm (sortedBy key ys) :=
    ((sortedBy_perm key xs).trans same).trans (sortedBy_perm key ys).symm
  refine perm.eq_of_pairwise ?_ (sortedBy_pairwise key xs) (sortedBy_pairwise key ys)
  intro a b left right ab ba
  have keys : key a = key b := by
    by_contra apart
    rcases PyText.lt_total apart with below | above
    · rw [ba] at below
      cases below
    · rw [ab] at above
      cases above
  exact List.inj_on_of_nodup_map distinct (mem_sortedBy.mp left) (same.mem_iff.mpr (mem_sortedBy.mp right)) keys

/-! ### Groups as sets -/

theorem Decimal_abs_sub (a b : Effect.Decimal) : (a.sub b).abs = (b.sub a).abs := by
  rw [Effect.Decimal.sub, Effect.Decimal.sub, min_comm b.exponent]
  simp only [Effect.Decimal.abs, Effect.Decimal.ofInt, Effect.Decimal.mk.injEq, true_and, and_true]
  omega

theorem agreeIn_symm (arithmetic : Arithmetic) (tolerance : FiniteFloat) (a b : Option PyNumber) :
    agreeIn arithmetic tolerance a b = agreeIn arithmetic tolerance b a := by
  cases arithmetic with
  | exact =>
    cases a with
    | none => cases b <;> rfl
    | some a =>
      cases b with
      | none => rfl
      | some b => simp only [agreeIn, abs_sub_comm a.toRat]
  | rounded =>
    cases a with
    | none => cases b <;> rfl
    | some a =>
      cases b with
      | none => rfl
      | some b =>
        simp only [agreeIn, agree]
        cases a.toFloat with
        | error e => cases b.toFloat <;> rfl
        | ok x =>
          cases b.toFloat with
          | error e => rfl
          | ok y => simp only [FiniteFloat.within, Decimal_abs_sub x.exact]

theorem eq_of_few {xs : List α} (few : ¬1 < xs.length) {a b : α} (left : a ∈ xs) (right : b ∈ xs) : a = b := by
  match xs, few with
  | [x], _ => rw [List.mem_singleton.mp left, List.mem_singleton.mp right]
  | [], _ => cases left
  | x :: y :: rest, few => exact absurd (by simp) few

theorem consistentIn_iff {arithmetic : Arithmetic} {tolerance : FiniteFloat} {values : List (Option PyNumber)} :
    consistentIn arithmetic tolerance values = true ↔ values.Pairwise fun a b => agreeIn arithmetic tolerance a b = true := by
  induction values with
  | nil => simp [consistentIn]
  | cons a rest ih => rw [consistentIn, Bool.and_eq_true, List.all_eq_true, ih, List.pairwise_cons]

section
variable [CaseText] [Sha256]

/-- The values of every two records with the key agree. -/
def Agreeing (arithmetic : Arithmetic) (config : OledValidationConfig) (records : List OledRecord) (key : Digest) : Prop :=
  ∀ a ∈ records, ∀ b ∈ records, a.comparisonKey = key → b.comparisonKey = key → a ≠ b →
    agreeIn arithmetic config.duplicateTolerance a.property.value b.property.value = true

theorem conflictsIn_iff {arithmetic : Arithmetic} {config : OledValidationConfig} {values : List OledRecord} {key : Digest}
    (distinct : values.Nodup) : conflictsIn arithmetic config values key = false ↔ Agreeing arithmetic config values key := by
  have member {r : OledRecord} : r ∈ groupWith values key ↔ r ∈ values ∧ r.comparisonKey = key := by
    simp [groupWith]
  have pairs : consistentIn arithmetic config.duplicateTolerance ((groupWith values key).map fun r => r.property.value) = true ↔
      Agreeing arithmetic config values key := by
    rw [consistentIn_iff, List.pairwise_map]
    constructor
    · intro each a ina b inb keyA keyB apart
      have : Std.Symm fun a b : OledRecord =>
          agreeIn arithmetic config.duplicateTolerance a.property.value b.property.value = true := by
        refine ⟨fun x y near => ?_⟩
        rwa [agreeIn_symm]
      exact each.forall (member.mpr ⟨ina, keyA⟩) (member.mpr ⟨inb, keyB⟩) apart
    · intro agreeing
      refine (distinct.filter _).pairwise_of_forall_ne fun a ina b inb apart => ?_
      obtain ⟨ina, keyA⟩ := member.mp ina
      obtain ⟨inb, keyB⟩ := member.mp inb
      exact agreeing a ina b inb keyA keyB apart
  rw [conflictsIn, Bool.and_eq_false_iff, Bool.not_eq_false', pairs, decide_eq_false_iff_not]
  constructor
  · intro either
    rcases either with few | agreeing
    · intro a ina b inb keyA keyB apart
      exact absurd (eq_of_few few (member.mpr ⟨ina, keyA⟩) (member.mpr ⟨inb, keyB⟩)) apart
    · exact agreeing
  · exact Or.inr

omit [Sha256] [CaseText] in
theorem OledValidationReport.create_parts {bundleId mappingId : ArtifactId} {records : List OledRecord}
    {results : List ValidationResult} {groups : List DuplicateGroup} {found : List PyText} {digest : Digest}
    {report : OledValidationReport} (made : create bundleId mappingId records results groups found digest = .ok report) :
    report.records = records ∧ report.validationResults = results ∧ report.duplicateGroups = groups ∧
      report.blockingIssues = sortedSet found := by
  unfold create at made
  split at made
  · split at made
    · split at made
      · cases made
        exact ⟨rfl, rfl, rfl, rfl⟩
      · cases made
    · cases made
  · cases made

omit [Sha256] [CaseText] in
theorem classify_ids (first other : DuplicateClassification) (members : List OledRecord) :
    (classify first other members).map Prod.fst = members.map OledRecord.recordId := by
  cases members with
  | nil => rfl
  | cons r rest => simp [classify, Function.comp_def]

omit [Sha256] [CaseText] in
theorem DuplicateGroup.create_ok {groupId : Identifier} {key : Digest} {members : List (Identifier × DuplicateClassification)}
    {status : ValidationStatus} {g : DuplicateGroup} (made : create groupId key members status = .ok g) :
    g.groupId = groupId ∧ g.members = members := by
  unfold create at made
  split at made
  · cases made
    exact ⟨rfl, rfl⟩
  · cases made

/-- The group of a key holds the records with the key. -/
theorem groupIn_ok {arithmetic : Arithmetic} {config : OledValidationConfig} {evidence : List ArtifactId}
    {values : List OledRecord} {key : Digest} {made : DuplicateGroup × List ValidationResult}
    (grouped : groupIn arithmetic config evidence values key = .ok made) :
    made.1.groupId = groupIdOf values key ∧ made.1.recordIds = (groupWith values key).map OledRecord.recordId := by
  rw [groupIn] at grouped
  split at grouped
  · obtain ⟨_, _, grouped⟩ := bind_ok.mp grouped
    obtain ⟨g, created, grouped⟩ := bind_ok.mp grouped
    cases grouped
    obtain ⟨same, members⟩ := DuplicateGroup.create_ok created
    exact ⟨same, by rw [DuplicateGroup.recordIds, members, classify_ids]⟩
  · obtain ⟨g, created, grouped⟩ := bind_ok.mp grouped
    cases grouped
    obtain ⟨same, members⟩ := DuplicateGroup.create_ok created
    exact ⟨same, by rw [DuplicateGroup.recordIds, members, classify_ids]⟩

/-- The comparison keys of the records, each one once and in order. -/
def keysOf (values : List OledRecord) : List Digest :=
  sortedBy (fun d => PyText.ofString d.text) (values.map OledRecord.comparisonKey).eraseDups

theorem mem_keysOf {values : List OledRecord} {key : Digest} : key ∈ keysOf values ↔ ∃ r ∈ values, r.comparisonKey = key := by
  simp [keysOf]

/-- What a report is made of. -/
theorem validateRecordsIn_ok {arithmetic : Arithmetic} {leakage : LeakageGroups} {records : List OledRecord}
    {bundleId mappingId : ArtifactId} {config : OledValidationConfig} {report : OledValidationReport}
    (made : validateRecordsIn arithmetic leakage records bundleId mappingId config = .ok report) :
    let values := sortedBy (fun r => r.recordId.pyText) records
    ∃ groups leaked, (keysOf values).mapM (groupIn arithmetic config [bundleId, mappingId] values) = .ok groups ∧
      detectLeakage config [bundleId, mappingId] values leakage = .ok leaked ∧
      report.records = values.map (fun r =>
        r.revised (statusOfRecord arithmetic config values r) (groupIdOf values r.comparisonKey)) ∧
      (∀ l ∈ leaked, l.2 ∈ report.validationResults) ∧
      (∀ g, g ∈ report.duplicateGroups ↔ g ∈ groups.map Prod.fst) ∧
      report.blockingIssues = sortedSet ((values.filterMap fun r => (recordIssue r).map fun issue => PyText.ofString issue.1) ++
        (((keysOf values).filter (conflictsIn arithmetic config values)).map fun key =>
          PyText.ofString ("duplicate_conflict:" ++ key.text)) ++ leaked.map fun l => PyText.ofString ("leakage:" ++ l.1)) := by
  intro values
  unfold validateRecordsIn at made
  obtain ⟨verdicts, _, made⟩ := bind_ok.mp made
  obtain ⟨groups, grouped, made⟩ := bind_ok.mp made
  obtain ⟨leaked, detected, made⟩ := bind_ok.mp made
  obtain ⟨recorded, reported, held, issues⟩ := OledValidationReport.create_parts made
  refine ⟨groups, leaked, grouped, detected, recorded, fun l member => ?_, fun g => ?_, issues⟩
  · rw [reported]
    exact List.mem_append_right _ (List.mem_map_of_mem member)
  · rw [held, mem_sortedBy]

omit [CaseText] [Sha256] in
theorem sortedSet_nil {values : List PyText} : sortedSet values = [] ↔ values = [] := by
  constructor
  · intro empty
    cases values with
    | nil => rfl
    | cons t rest =>
      have member : t ∈ sortedSet (t :: rest) := by simp [sortedSet]
      rw [empty] at member
      cases member
  · rintro rfl
    rfl

theorem statusOfRecord_pass {arithmetic : Arithmetic} {config : OledValidationConfig} {values : List OledRecord} {r : OledRecord}
    (distinct : values.Nodup) : statusOfRecord arithmetic config values r = .pass ↔
      recordIssue r = none ∧ Agreeing arithmetic config values r.comparisonKey := by
  rw [← conflictsIn_iff distinct]
  unfold statusOfRecord
  split <;> rename_i verdict <;> simpa [Option.isNone_iff_eq_none] using verdict

/-- The report of validation: it does not depend on the order of the records, it passes exactly the records that
nothing holds back and whose values agree, it puts each record in one group, and nothing blocks exactly when every
record passes and nothing leaks. -/
theorem validation_by_groups (arithmetic : Arithmetic) (leakage : LeakageGroups) (bundleId mappingId : ArtifactId)
    (config : OledValidationConfig) (records : List OledRecord) (ids : (records.map OledRecord.recordId).Nodup) :
    (∀ others, others.Perm records →
      validateRecordsIn arithmetic leakage others bundleId mappingId config =
        validateRecordsIn arithmetic leakage records bundleId mappingId config) ∧
    ∀ report, validateRecordsIn arithmetic leakage records bundleId mappingId config = .ok report →
      (report.records.map OledRecord.recordId).Perm (records.map OledRecord.recordId) ∧
      (∀ r ∈ records, ∀ s ∈ report.records, s.recordId = r.recordId →
        (s.validationStatus = .pass ↔ recordIssue r = none ∧ Agreeing arithmetic config records r.comparisonKey)) ∧
      (∀ r ∈ records, ∃! g, g ∈ report.duplicateGroups ∧ r.recordId ∈ g.recordIds) ∧
      ∃ leaked, detectLeakage config [bundleId, mappingId] (sortedBy (fun r => r.recordId.pyText) records) leakage = .ok leaked ∧
        (∀ l ∈ leaked, l.2 ∈ report.validationResults) ∧
        (report.blockingIssues = [] ↔ (∀ s ∈ report.records, s.validationStatus = .pass) ∧ leaked = []) := by
  have texts : (records.map fun r => r.recordId.pyText).Nodup := by
    have injective : Function.Injective Identifier.pyText := fun a b same => Identifier.ext (PyText.ofString_injective same)
    have mapped := ids.map injective
    rwa [List.map_map] at mapped
  constructor
  · intro others same
    have sorted := sortedBy_of_perm same.symm texts
    rw [validateRecordsIn, validateRecordsIn, ← sorted]
  · intro report made
    obtain ⟨groups, leaked, grouped, detected, recorded, reported, held, issues⟩ := validateRecordsIn_ok made
    have distinct : (sortedBy (fun r => r.recordId.pyText) records).Nodup :=
      (sortedBy_perm _ records).nodup_iff.mpr ids.of_map
    have agreeing (key : Digest) : Agreeing arithmetic config (sortedBy (fun r => r.recordId.pyText) records) key ↔
        Agreeing arithmetic config records key := by simp [Agreeing]
    have one {a b : OledRecord} (left : a ∈ records) (right : b ∈ records) (same : a.recordId = b.recordId) : a = b :=
      List.inj_on_of_nodup_map ids left right same
    refine ⟨?_, ?_, ?_, leaked, detected, reported, ?_⟩
    · rw [recorded, List.map_map]
      exact (sortedBy_perm _ records).map OledRecord.recordId
    · intro r member s found same
      rw [recorded] at found
      obtain ⟨t, listed, rfl⟩ := List.mem_map.mp found
      obtain rfl : t = r := one (mem_sortedBy.mp listed) member same
      rw [← agreeing, ← statusOfRecord_pass distinct]
      rfl
    · intro r member
      have keyed : r.comparisonKey ∈ keysOf (sortedBy (fun r => r.recordId.pyText) records) :=
        mem_keysOf.mpr ⟨r, mem_sortedBy.mpr member, rfl⟩
      obtain ⟨own, placed, ran⟩ := forall₂_left (mapM_ok.mp grouped) keyed
      refine ⟨own.1, ⟨(held _).mpr (List.mem_map_of_mem placed), ?_⟩, ?_⟩
      · rw [(groupIn_ok ran).2]
        exact List.mem_map_of_mem (List.mem_filter.mpr ⟨mem_sortedBy.mpr member, by simp⟩)
      · rintro g ⟨listed, inside⟩
        obtain ⟨other, found, rfl⟩ := List.mem_map.mp ((held _).mp listed)
        obtain ⟨key, _, made⟩ := forall₂_right (mapM_ok.mp grouped) found
        rw [(groupIn_ok made).2] at inside
        obtain ⟨t, kept, same⟩ := List.mem_map.mp inside
        obtain ⟨listed, shared⟩ := List.mem_filter.mp kept
        obtain rfl : t = r := one (mem_sortedBy.mp listed) member same
        rw [decide_eq_true_eq] at shared
        rw [← shared, ran] at made
        cases made
        rfl
    · rw [issues, sortedSet_nil, List.append_eq_nil_iff, List.append_eq_nil_iff, List.map_eq_nil_iff, List.map_eq_nil_iff,
        recorded]
      refine and_congr_left fun _ => ?_
      constructor
      · rintro ⟨unheld, apart⟩ s found
        obtain ⟨r, listed, rfl⟩ := List.mem_map.mp found
        refine (statusOfRecord_pass distinct).mpr ⟨?_, ?_⟩
        · have clear := List.filterMap_eq_nil_iff.mp unheld r listed
          rwa [Option.map_eq_none_iff] at clear
        · refine (conflictsIn_iff distinct).mp ?_
          have clear := List.filter_eq_nil_iff.mp apart _ (mem_keysOf.mpr ⟨r, listed, rfl⟩)
          rwa [Bool.not_eq_true] at clear
      · intro passes
        have each (r : OledRecord) (listed : r ∈ sortedBy (fun r => r.recordId.pyText) records) :=
          (statusOfRecord_pass distinct).mp (passes _ (List.mem_map_of_mem listed))
        constructor
        · refine List.filterMap_eq_nil_iff.mpr fun r listed => ?_
          rw [(each r listed).1]
          rfl
        · refine List.filter_eq_nil_iff.mpr fun key keyed => ?_
          obtain ⟨r, listed, rfl⟩ := mem_keysOf.mp keyed
          rw [(conflictsIn_iff distinct).mpr (each r listed).2]
          decide

end

namespace Sample
attribute [local instance] standardSha256 asciiPrintable asciiCase

def emptySource : ArtifactId := ⟨sha256Bytes []⟩

def ethanol : MoleculeIdentity := ⟨some (PyText.ofString "CCO"), none, none, none, .resolved, fun _ => Or.inl rfl⟩

def yieldOf (value : Int) : NormalizedProperty := ⟨.plqy, some (.int value), none, none, none, .unresolved, nofun⟩

def secondPage : SourceLocator := ⟨emptySource, .pdfPage, none, some 2, none, none, rfl⟩

def unitEvidence : OledEvidenceRef :=
  ⟨⟨"unit", by decide +kernel⟩, ⟨"candidate_unit", by decide +kernel⟩, secondPage⟩

/-- A measurement whose unit is not known. -/
def measurement (id : Identifier) (value : Int) : OledRecord where
  recordId := id
  canonicalDocumentArtifactId := emptySource
  sourceArtifactId := emptySource
  moleculeIdentity := ethanol
  property := yieldOf value
  measurementCondition := ⟨PyText.ofString "EXPLICIT", none, none, none, none, none⟩
  evidence := [unitEvidence]
  claimLevel := .sourceReported
  validationStatus := .review
  candidateBundleArtifactId := none
  mappingArtifactId := none
  mappingRequestDigest := none
  duplicateGroup := none
  relation := none
  evident := by simp
  sourced := by simp [OledEvidenceRef.sourceArtifactId, unitEvidence, secondPage]

def firstMeasurement : OledRecord := measurement ⟨"r1", by decide⟩ 0
def secondMeasurement : OledRecord := measurement ⟨"r2", by decide⟩ 1

def exactConfig : OledValidationConfig :=
  ⟨⟨"validator", by decide +kernel⟩, ⟨"1", isIdentifier_one⟩, ⟨"0.01", by decide +kernel⟩, ⟨"1", isIdentifier_one⟩, by decide +kernel⟩

/-- Two measurements of one molecule, in either order. -/
theorem validation_by_groups_two :
    validateRecordsIn .exact .absent [secondMeasurement, firstMeasurement] emptySource emptySource exactConfig =
      validateRecordsIn .exact .absent [firstMeasurement, secondMeasurement] emptySource emptySource exactConfig :=
  (validation_by_groups .exact .absent emptySource emptySource exactConfig [firstMeasurement, secondMeasurement]
    (by decide +kernel)).1 _ (.swap _ _ _)

end Sample
end Molly
