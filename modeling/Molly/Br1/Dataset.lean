import Molly.Evidence.Dataset

/-! The dataset gate of the inverse design workflow: what it reads of the three kinds of datasets
that it accepts. -/
namespace Molly

/-- `finite_number`. -/
def finiteNumber (field : String) : PyValue → Except PyError FiniteFloat
  | .int n => (PyNumber.int n).toFloat
  | .float x => .ok x
  | _ => .error ⟨.br1, field ++ " must be a finite number"⟩

structure DatasetRow where
  rowId : PyText
  smiles : PyText
  targetProperty : PyText
  targetValue : FiniteFloat
  condition : PyText
  sourceReference : PyText
  references : ∀ text ∈ [rowId, targetProperty, sourceReference], referenceFault text.display = none
  drawn : smiles ≠ [] ∧ smiles.hasNul = false
  bounded : condition.length ≤ 4096 ∧ condition.hasNul = false

namespace DatasetRow

/-- `validate_reference` on a text that is kept. -/
def referenceOf (field : String) (text : PyText) : Except PyError { t : PyText // t = text ∧ referenceFault t.display = none } :=
  match fault : referenceFault text.display with
  | some (cls, words) => .error ⟨cls, field ++ words⟩
  | none => .ok ⟨text, rfl, fault⟩

theorem hasNul_strip {text : PyText} (clean : text.hasNul = false) : text.strip.hasNul = false := by
  rw [PyText.hasNul, decide_eq_false_iff_not] at clean ⊢
  exact fun member => clean (text.strip_sublist.subset member)

/-- The constructor. -/
def create (rowId smiles targetProperty : PyText) (targetValue : PyValue) (condition sourceReference : PyText) :
    Except PyError DatasetRow := do
  let row ← referenceOf "row_id" rowId
  let property ← referenceOf "target_property" targetProperty
  let source ← referenceOf "source_reference" sourceReference
  if drawn : smiles.strip ≠ [] ∧ smiles.length ≤ 4096 ∧ smiles.hasNul = false then
    if bounded : condition.length ≤ 4096 ∧ condition.hasNul = false then
      let value ← finiteNumber "dataset target" targetValue
      return ⟨row, smiles.strip, property, value, condition, source, by simp [row.2.2, property.2.2, source.2.2],
        ⟨drawn.1, hasNul_strip drawn.2.2⟩, bounded⟩
    else throw ⟨.br1Integrity, "dataset row condition is outside the bounded contract"⟩
  else throw ⟨.br1Integrity, "dataset row has no bounded SMILES string"⟩

/-- Each field of a row is the argument of its name; the SMILES is stripped. -/
theorem create_ok {rowId smiles targetProperty condition sourceReference : PyText} {d : DatasetRow}
    (made : create rowId smiles targetProperty value condition sourceReference = .ok d) :
    d.rowId = rowId ∧ d.smiles = smiles.strip ∧ d.targetProperty = targetProperty ∧
      finiteNumber "dataset target" value = .ok d.targetValue ∧ d.condition = condition ∧
      d.sourceReference = sourceReference := by
  unfold create at made
  obtain ⟨row, _, made⟩ := bind_ok.mp made
  obtain ⟨property, _, made⟩ := bind_ok.mp made
  obtain ⟨source, _, made⟩ := bind_ok.mp made
  split at made
  · split at made
    · obtain ⟨number, finite, made⟩ := bind_ok.mp made
      cases made
      exact ⟨row.2.1, rfl, property.2.1, finite, rfl, source.2.1⟩
    · cases made
  · cases made

end DatasetRow

structure DatasetInspection where
  artifactId : ArtifactId
  schemaName : PyText
  schemaVersion : PyText
  reviewStatus : String
  reviewBasis : PyText
  rows : List DatasetRow
  sourceContentDigest : Option Digest
  transformationDigest : Option Digest
  filled : rows ≠ []

/-- `rows_for`. -/
def DatasetInspection.rowsFor [PrintableText] (inspection : DatasetInspection) (target : PyText) :
    Except PyError (List DatasetRow) :=
  match inspection.rows.filter (·.targetProperty = target) with
  | [] => .error ⟨.br1Integrity, "dataset has no rows for target property " ++ (reprText target).display⟩
  | selected => .ok selected

namespace DatasetGate
variable [PrintableText]

/-- `_json`. -/
def jsonOf (payload : Bytes) : Except PyError PyFields :=
  match decodeUtf8 payload with
  | none => .error ⟨.br1Integrity, "reviewed dataset is not canonical UTF-8 JSON"⟩
  | some text =>
    match loads text with
    | .error .decode => .error ⟨.br1Integrity, "reviewed dataset is not canonical UTF-8 JSON"⟩
    | .error .digits => .error ⟨.valueError, "Exceeds the limit for integer string conversion"⟩
    | .ok (.obj fields) => .ok fields
    | .ok _ => .error ⟨.br1Integrity, "reviewed dataset must be a JSON object"⟩

/-- `value.get(key) == text`. -/
def states (value : PyFields) (key text : String) : Bool :=
  (pyGet value key .null).equal (.str (PyText.ofString text))

def rowItems (value : PyFields) (message : String) : Except PyError (List PyValue) :=
  match pyGet value "rows" .null with
  | .arr items => .ok items
  | _ => .error ⟨.br1Integrity, message⟩

/-- One row of a reviewed dataset. -/
def core05Row (reviewBundleId : PyText) : PyValue → Except PyError DatasetRow
  | .obj raw => do
    ensure ((pyGet raw "review_bundle_artifact_id" .null).equal (.str reviewBundleId))
      ⟨.br1Integrity, "CORE-05 row review binding is inconsistent"⟩
    match pyGet raw "molecule_identity" .null with
    | .obj identity =>
      match pyGet identity "smiles" .null with
      | .str smiles =>
        match pyGet raw "measurement_condition" .null with
        | .obj condition =>
          orMalformed (do
            let condition ← (PyValue.obj condition).jsonText
            let rowId ← pyItem raw "row_id"
            let property ← pyItem raw "property_id"
            let value ← pyItem raw "value"
            let source ← pyItem raw "source_artifact_id"
            DatasetRow.create rowId.toText smiles property.toText value condition source.toText)
            .br1Integrity "CORE-05 dataset row is malformed"
        | _ => throw ⟨.br1Integrity, "CORE-05 row lacks measurement condition"⟩
      | _ => throw ⟨.br1Integrity, "CORE-05 row lacks explicit SMILES identity"⟩
    | _ => throw ⟨.br1Integrity, "CORE-05 row lacks explicit SMILES identity"⟩
  | _ => .error ⟨.br1Integrity, "CORE-05 dataset row is not an object"⟩

/-- `_core05_rows`. -/
def core05Rows (value : PyFields) : Except PyError (List DatasetRow) := do
  ensure (states value "schema_name" "molly.evidence.reviewed-dataset" && states value "schema_version" "1")
    ⟨.br1Integrity, "unsupported CORE-05 dataset schema"⟩
  match pyGet value "review_bundle_artifact_id" .null with
  | .str reviewBundleId =>
    let _ ← validateArtifactId "artifact_id" reviewBundleId.display
    let _ ← validateDigestReference "review_digest" (pyGet value "review_digest" .null).toText.display
    let items ← rowItems value "CORE-05 dataset rows must be a JSON array"
    items.mapM (core05Row reviewBundleId)
  | _ => throw ⟨.br1Integrity, "CORE-05 dataset is missing review bundle binding"⟩

/-- One row of a migrated or cleaned dataset. -/
def plainRow (kind : String) : PyValue → Except PyError DatasetRow
  | .obj raw =>
    orMalformed (do
      let rowId ← pyItem raw "row_id"
      let smiles ← pyItem raw "smiles"
      let property ← pyItem raw "target_property"
      let value ← pyItem raw "target_value"
      let source ← pyItem raw "source_reference"
      DatasetRow.create rowId.toText smiles.toText property.toText value
        (pyGet raw "condition" (.str (PyText.ofString "UNSPECIFIED"))).toText source.toText)
      .br1Integrity (kind ++ " dataset row is malformed")
  | _ => .error ⟨.br1Integrity, kind ++ " dataset row is not an object"⟩

def isFilled : PyValue → Bool
  | .str text => text.strip ≠ []
  | _ => false

def isFalse : PyValue → Bool
  | .bool false => true
  | _ => false

/-- `_migrated_rows`. -/
def migratedRows (value : PyFields) : Except PyError (List DatasetRow) := do
  ensure (states value "schema_name" "molly.br1.migrated-reviewed-dataset" && states value "schema_version" "1")
    ⟨.br1Integrity, "unsupported migrated BR1 dataset schema"⟩
  ensure (states value "review_status" "MIGRATED_ACCEPTED_REAL_DATASET")
    ⟨.br1Integrity, "migrated dataset does not carry the accepted-real status"⟩
  ensure (isFilled (pyGet value "historical_acceptance_id" .null) && isFilled (pyGet value "historical_review_basis" .null))
    ⟨.br1Integrity, "migrated dataset lacks historical review basis"⟩
  ensure (isFalse (pyGet value "review_record_recreated" .null))
    ⟨.br1Integrity, "migrated dataset must not fabricate a new ReviewRecord"⟩
  let items ← rowItems value "migrated dataset rows must be a JSON array"
  items.mapM (plainRow "migrated")

/-- `_cleaned_rows`. -/
def cleanedRows (value : PyFields) : Except PyError (List DatasetRow) := do
  ensure (states value "schema_name" "molly.br1.cleaned-dataset" && states value "schema_version" "1")
    ⟨.br1Integrity, "unsupported cleaned BR1 dataset schema"⟩
  ensure (states value "review_status" "CLEANED_DATASET")
    ⟨.br1Integrity, "cleaned dataset does not carry the cleaning status"⟩
  ensure (isFalse (pyGet value "review_record_recreated" .null))
    ⟨.br1Integrity, "cleaned dataset must not fabricate a ReviewRecord"⟩
  let items ← rowItems value "cleaned dataset rows must be a JSON array"
  items.mapM (plainRow "cleaned")

/-- The two digests of a dataset that was not reviewed here. -/
def provenance (value : PyFields) : Except PyError (Digest × Digest) := do
  let source ← pyItem value "source_content_digest"
  let source ← validateDigestReference "source_content_digest" source.toText.display
  let transformation ← pyItem value "transformation_digest"
  let transformation ← validateDigestReference "transformation_digest" transformation.toText.display
  return (source, transformation)

/-- The rows that a dataset of each schema has, and what they rest on. -/
def rowsOf (schemaName : Option String) (value : PyFields) :
    Except PyError (List DatasetRow × String × PyText × Option (Digest × Digest)) :=
  if schemaName = some "molly.evidence.reviewed-dataset" then do
    let rows ← core05Rows value
    return (rows, "APPROVED_REVIEWED_DATASET",
      PyText.ofString "CORE-05 exact ReviewBundle/ReviewRecord export binding", none)
  else if schemaName = some "molly.br1.migrated-reviewed-dataset" then do
    let rows ← migratedRows value
    let basis ← pyItem value "historical_review_basis"
    let digests ← provenance value
    return (rows, "MIGRATED_ACCEPTED_REAL_DATASET", basis.toText, some digests)
  else if schemaName = some "molly.br1.cleaned-dataset" then do
    let rows ← cleanedRows value
    let digests ← provenance value
    return (rows, "CLEANED_DATASET", PyText.ofString "operator-approved BR1 cleaning occurrence", some digests)
  else .error ⟨.br1Integrity, "dataset artifact schema is not accepted by BR1"⟩

/-- `inspect`, of an artifact whose record in the store has this schema name and whose verified bytes
are these. -/
def inspect (artifactId : ArtifactId) (schemaName : Option String) (payload : Bytes) (target : Option PyText) :
    Except PyError DatasetInspection := do
  let value ← jsonOf payload
  let (rows, status, basis, digests) ← rowsOf schemaName value
  ensure (target.all fun target => rows.any (·.targetProperty = target))
    ⟨.br1Integrity, "dataset has no rows for target property " ++ ((target.map reprText).getD []).display⟩
  if filled : rows ≠ [] then
    return ⟨artifactId, (pyGet value "schema_name" .null).toText, (pyGet value "schema_version" .null).toText, status, basis,
      rows, digests.map Prod.fst, digests.map Prod.snd, filled⟩
  else throw ⟨.br1Integrity, "reviewed dataset contains no usable rows"⟩

end DatasetGate
end Molly
