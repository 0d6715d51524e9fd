import Molly.Effect.Rational
import Molly.Evidence.Validation

/-! `validate_records` with the groups of a dataset split: a molecule or a paper whose records stand in
several groups is reported. The comparison of values is a parameter: the rounded difference that the
interpreter computes, or the exact one. -/
namespace Molly

namespace PyNumber

/-- The number itself. -/
def toRat : PyNumber → ℚ
  | .int n => n
  | .float x => x.exact.toRat

end PyNumber

/-- How two values are compared. -/
inductive Arithmetic where
  | rounded | exact
  deriving DecidableEq

/-- Two values are close enough. -/
def agreeIn : Arithmetic → FiniteFloat → Option PyNumber → Option PyNumber → Bool
  | .rounded, tolerance, a, b => agree tolerance a b
  | .exact, tolerance, some a, some b => |a.toRat - b.toRat| ≤ tolerance.exact.toRat
  | .exact, _, _, _ => false

def consistentIn (arithmetic : Arithmetic) (tolerance : FiniteFloat) : List (Option PyNumber) → Bool
  | [] => true
  | a :: rest => rest.all (agreeIn arithmetic tolerance a) && consistentIn arithmetic tolerance rest

/-- The groups that records are assigned to, by their identities; a mapping that is not given is empty. -/
structure LeakageGroups where
  dataset : List (PyText × PyText)
  paper : List (PyText × PyText)
  scaffold : List (PyText × PyText)

/-- No groups are given. -/
def LeakageGroups.absent : LeakageGroups := ⟨[], [], []⟩

section
variable [CaseText] [Sha256]

/-- `group_specs`. -/
def LeakageGroups.specs (g : LeakageGroups) : List (String × List (PyText × PyText) × (OledRecord → PyText)) :=
  [("exact_identity", g.dataset, fun r => r.moleculeIdentity.identityKey),
    ("paper_source", g.paper, fun r => PyText.ofString r.sourceArtifactId.text),
    ("scaffold", g.scaffold, fun r => r.moleculeIdentity.identityKey)]

/-- The records that have a group, with one key. -/
def bucketOf (values : List OledRecord) (groups : List (PyText × PyText)) (key : OledRecord → PyText) (k : PyText) :
    List OledRecord :=
  values.filter fun r => (groups.lookup r.recordId.pyText).isSome && key r = k

/-- The records of a bucket stand in more than one group. -/
def leaks (groups : List (PyText × PyText)) (bucket : List OledRecord) : Bool :=
  1 < bucket.length && 1 < (bucket.filterMap fun r => groups.lookup r.recordId.pyText).eraseDups.length

/-- The leakage of one kind of group. -/
def leakageOf (config : OledValidationConfig) (evidence : List ArtifactId) (values : List OledRecord) (code : String)
    (groups : List (PyText × PyText)) (key : OledRecord → PyText) : Except PyError (List ValidationResult) :=
  if groups = [] then .ok []
  else
    let keys := sortedSet ((values.filter fun r => (groups.lookup r.recordId.pyText).isSome).map key)
    (keys.filter fun k => leaks groups (bucketOf values groups key k)).mapM fun k =>
      validation config (sortedBy Identifier.pyText ((bucketOf values groups key k).map OledRecord.recordId)) .review
        (PyText.ofString (code ++ " leakage across explicit groups")) evidence
        ((bucketOf values groups key k).flatMap OledRecord.candidates)
        [("issue_code", .str (PyText.ofString ("leakage:" ++ code))), ("identity_key", .str k)]

/-- `detect_leakage`: each result with the code of its kind. -/
def detectLeakage (config : OledValidationConfig) (evidence : List ArtifactId) (values : List OledRecord)
    (groups : LeakageGroups) : Except PyError (List (String × ValidationResult)) := do
  let found ← groups.specs.mapM fun spec => do
    let results ← leakageOf config evidence values spec.1 spec.2.1 spec.2.2
    return results.map fun r => (spec.1, r)
  return found.flatten

/-- Several records share the key, and their values do not agree. -/
def conflictsIn (arithmetic : Arithmetic) (config : OledValidationConfig) (values : List OledRecord) (key : Digest) : Bool :=
  1 < (groupWith values key).length &&
    !consistentIn arithmetic config.duplicateTolerance ((groupWith values key).map fun r => r.property.value)

def statusOfRecord (arithmetic : Arithmetic) (config : OledValidationConfig) (values : List OledRecord) (r : OledRecord) :
    OledValidationStatus :=
  if (recordIssue r).isNone && !conflictsIn arithmetic config values r.comparisonKey then .pass else .review

/-- The group of a key, and the result that reports its conflict. -/
def groupIn (arithmetic : Arithmetic) (config : OledValidationConfig) (evidence : List ArtifactId) (values : List OledRecord)
    (key : Digest) : Except PyError (DuplicateGroup × List ValidationResult) := do
  let members := groupWith values key
  if conflictsIn arithmetic config values key then
    let result ← validation config (members.map OledRecord.recordId) .review
      (PyText.ofString "same identity/property/condition has conflicting values") evidence
      (members.flatMap OledRecord.candidates)
      [("comparison_key", .str (PyText.ofString key.text)), ("duplicate_conflict", .bool true)]
    let group ← DuplicateGroup.create (groupIdOf values key) key
      (classify .conflictCandidate .conflictingDuplicateCandidate members) .review
    return (group, [result])
  else
    let group ← DuplicateGroup.create (groupIdOf values key) key
      (classify .primary .consistentDuplicateCandidate members) .pass
    return (group, [])

/-- `validate_records`. -/
def validateRecordsIn (arithmetic : Arithmetic) (leakage : LeakageGroups) (records : List OledRecord)
    (bundleId mappingId : ArtifactId) (config : OledValidationConfig) : Except PyError OledValidationReport := do
  let values := sortedBy (fun r => r.recordId.pyText) records
  let keys := sortedBy (fun d => PyText.ofString d.text) (values.map OledRecord.comparisonKey).eraseDups
  let verdicts ← values.mapM (judge config [bundleId, mappingId])
  let groups ← keys.mapM (groupIn arithmetic config [bundleId, mappingId] values)
  let leaked ← detectLeakage config [bundleId, mappingId] values leakage
  let issues := (values.filterMap fun r => (recordIssue r).map fun issue => PyText.ofString issue.1) ++
    ((keys.filter (conflictsIn arithmetic config values)).map fun key => PyText.ofString ("duplicate_conflict:" ++ key.text)) ++
    leaked.map fun l => PyText.ofString ("leakage:" ++ l.1)
  OledValidationReport.create bundleId mappingId
    (values.map fun r => r.revised (statusOfRecord arithmetic config values r) (groupIdOf values r.comparisonKey))
    (verdicts ++ groups.flatMap Prod.snd ++ leaked.map Prod.snd) (sortedBy (fun g => g.groupId.pyText) (groups.map Prod.fst))
    issues config.digest

omit [CaseText] [Sha256] in
theorem consistentIn_rounded (tolerance : FiniteFloat) (values : List (Option PyNumber)) :
    consistentIn .rounded tolerance values = consistent tolerance values := by
  induction values with
  | nil => rfl
  | cons a rest ih => rw [consistentIn, consistent, ih]; rfl

theorem conflictsIn_rounded (config : OledValidationConfig) (values : List OledRecord) :
    conflictsIn .rounded config values = conflicts config values := by
  funext key
  rw [conflictsIn, conflicts, consistentIn_rounded]

theorem groupIn_rounded (config : OledValidationConfig) (evidence : List ArtifactId) (values : List OledRecord) :
    groupIn .rounded config evidence values = groupOf config evidence values := by
  funext key
  rw [groupIn, groupOf, conflictsIn_rounded]

omit [Sha256] in
theorem detectLeakage_absent (config : OledValidationConfig) (evidence : List ArtifactId) (values : List OledRecord) :
    detectLeakage config evidence values .absent = .ok [] := by
  rfl

/-- The tools give no groups, and the interpreter computes rounded differences. -/
theorem validateRecordsIn_tools (records : List OledRecord) (bundleId mappingId : ArtifactId) (config : OledValidationConfig) :
    validateRecordsIn .rounded .absent records bundleId mappingId config = validateRecords records bundleId mappingId config := by
  have status (values : List OledRecord) : statusOfRecord .rounded config values = statusIn config values := by
    funext r
    rw [statusOfRecord, statusIn, conflictsIn_rounded]
  rw [validateRecordsIn, validateRecords, groupIn_rounded, conflictsIn_rounded, status, detectLeakage_absent]
  simp only [bind, Except.bind, List.map_nil, List.append_nil]

end
end Molly
