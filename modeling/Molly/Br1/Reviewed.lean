import Molly.Br1.Dataset
import Molly.Evidence.Passed
import Molly.File.Joined

/-! What the gate reads of an exported dataset, and which targets it has rows for. -/
namespace Molly

/-- The targets that `Br1PluginConfig` supports by default. -/
def defaultTargetProperties : List String := ["quantum_yield", "homo_lumo_gap"]

/-- The schema of a published export. -/
def reviewedSchema : Option String := some "molly.evidence.reviewed-dataset"

section
variable [PrintableText]

/-- A row of the gate carries the ID, the SMILES and the value of an exported row. -/
structure Carries (row : List (String × PyValue)) (d : DatasetRow) : Prop where
  rowId : row.lookup "row_id" = some (.str d.rowId)
  smiles : ∃ identity, row.lookup "molecule_identity" = some (.named identity) ∧
    identity.lookup "smiles" = some (.str d.smiles)
  value : ∃ v, row.lookup "value" = some v ∧ finiteNumber "dataset target" v = .ok d.targetValue

/-- The gate reads every exported row, and has rows for some target that is supported by default. -/
def UsableByBr1 [Sha256] (out : DatasetExport) : Prop :=
  ∃ inspection, DatasetGate.inspect ⟨sha256Bytes out.json⟩ reviewedSchema out.json none = .ok inspection ∧
    List.Forall₂ Carries out.rows inspection.rows ∧
    ∃ target ∈ defaultTargetProperties, ∃ rows, inspection.rowsFor (PyText.ofString target) = .ok rows

/-! ### The keys of an export -/

omit [PrintableText] in
@[simp] theorem keyed_pyTextOrNull (text : Option PyText) : (pyTextOrNull text).Keyed := by
  cases text <;> simp [pyTextOrNull]

omit [PrintableText] in
@[simp] theorem readBack_pyTextOrNull (text : Option PyText) :
    (pyTextOrNull text).readBack = pyTextOrNull (text.map PyText.joined) := by
  cases text <;> simp [pyTextOrNull]

omit [PrintableText] in
@[simp] theorem SourceLocator.keyed (l : SourceLocator) : l.toDict.Keyed := by
  rw [toDict, PyValue.keyed_named]
  intro f member
  simp only [entries, List.mem_cons, List.not_mem_nil, or_false] at member
  rcases member with rfl | rfl | rfl | rfl | rfl | rfl <;> dsimp only
  · exact PyValue.keyed_str _
  · exact PyValue.keyed_str _
  · exact keyed_pyTextOrNull _
  · cases l.pageNumber <;> simp [natValue]
  · cases l.elementIndex <;> simp [natValue]
  · cases l.bbox <;> simp [bboxValue]

omit [PrintableText] in
theorem keyed_rowOf (r : OledRecord) (bundleId : ArtifactId) : (PyValue.named (rowOf r bundleId)).Keyed := by
  have number (n : Option PyNumber) : ((n.map PyNumber.toValue).getD .null).Keyed := by
    rcases n with _ | n | x <;> simp [PyNumber.toValue]
  have scalar (s : Option PyScalar) : ((s.map PyScalar.toValue).getD .null).Keyed := by
    rcases s with _ | (n | x) | t <;> simp [PyScalar.toValue, PyNumber.toValue]
  rw [PyValue.keyed_named]
  intro f member
  simp only [rowOf, List.mem_cons, List.not_mem_nil, or_false] at member
  rcases member with rfl | rfl | rfl | rfl | rfl | rfl | rfl | rfl | rfl | rfl | rfl | rfl | rfl | rfl | rfl | rfl <;>
    dsimp only
  · exact PyValue.keyed_str _
  · simp [MoleculeIdentity.toDict, MoleculeIdentity.entries]
  · exact PyValue.keyed_str _
  · exact number _
  · exact keyed_pyTextOrNull _
  · exact scalar _
  · exact keyed_pyTextOrNull _
  · simp [MeasurementCondition.toDict, MeasurementCondition.entries]
  · exact PyValue.keyed_str _
  · exact PyValue.keyed_str _
  · simp
  · simp
  · exact PyValue.keyed_optional _ _
  · exact PyValue.keyed_optional _ _
  · exact PyValue.keyed_str _
  · exact PyValue.keyed_str _

/-! ### What is read of an export -/

/-- A row that is read of a record's exported row. -/
structure ReadOf (r : OledRecord) (d : DatasetRow) : Prop where
  rowId : d.rowId = r.recordId.pyText
  smiles : ∃ text, r.moleculeIdentity.smiles = some text ∧ d.smiles = text.joined.strip
  targetProperty : d.targetProperty = PyText.ofString r.property.propertyId.text
  value : ∃ n, r.property.value = some n ∧ n.toFloat = .ok d.targetValue

theorem core05Row_rowOf {r : OledRecord} {bundleId : ArtifactId} {named : PyText} {d : DatasetRow}
    (read : DatasetGate.core05Row named (PyValue.named (rowOf r bundleId)).readBack = .ok d) : ReadOf r d := by
  have field (key : String) (default : PyValue) :
      pyGet (PyValue.readFields ((rowOf r bundleId).map fun f => (PyText.ofString f.1, f.2))) key default =
        (((rowOf r bundleId).lookup key).map PyValue.readBack).getD default := PyValue.pyGet_readFields _ _ _
  have item (key : String) {v : PyValue}
      (found : pyItem (PyValue.readFields ((rowOf r bundleId).map fun f => (PyText.ofString f.1, f.2))) key = .ok v) :
      ((rowOf r bundleId).lookup key).map PyValue.readBack = some v := by
    rw [pyItem, PyValue.lookup_readFields] at found
    split at found <;> cases found
    assumption
  have identity : (rowOf r bundleId).lookup "molecule_identity" = some r.moleculeIdentity.toDict := rfl
  have condition : (rowOf r bundleId).lookup "measurement_condition" = some r.measurementCondition.toDict := rfl
  have smiles : r.moleculeIdentity.entries.lookup "smiles" = some (pyTextOrNull r.moleculeIdentity.smiles) := rfl
  rw [PyValue.readBack_obj, DatasetGate.core05Row] at read
  obtain ⟨_, _, read⟩ := bind_ok.mp read
  rw [field, identity, Option.map_some, Option.getD_some, MoleculeIdentity.toDict, PyValue.readBack_obj] at read
  dsimp only at read
  rw [PyValue.pyGet_readFields, smiles, Option.map_some, Option.getD_some, readBack_pyTextOrNull] at read
  cases drawn : r.moleculeIdentity.smiles with
  | none =>
    rw [drawn] at read
    cases read
  | some text =>
    rw [drawn, Option.map_some, pyTextOrNull] at read
    dsimp only at read
    rw [field, condition, Option.map_some, Option.getD_some, MeasurementCondition.toDict, PyValue.readBack_obj] at read
    dsimp only at read
    rw [orMalformed_eq_ok] at read
    obtain ⟨shown, _, read⟩ := bind_ok.mp read
    obtain ⟨rowId, named, read⟩ := bind_ok.mp read
    obtain ⟨property, propertied, read⟩ := bind_ok.mp read
    obtain ⟨value, valued, read⟩ := bind_ok.mp read
    obtain ⟨source, _, read⟩ := bind_ok.mp read
    obtain ⟨sameId, sameSmiles, sameProperty, finite, _⟩ := DatasetRow.create_ok read
    have first := item _ named
    have second := item _ propertied
    have third := item _ valued
    have names : (rowOf r bundleId).lookup "row_id" = some (.str r.recordId.pyText) ∧
        (rowOf r bundleId).lookup "property_id" = some (.str (PyText.ofString r.property.propertyId.text)) ∧
        (rowOf r bundleId).lookup "value" = some ((r.property.value.map PyNumber.toValue).getD .null) := ⟨rfl, rfl, rfl⟩
    rw [names.1, Option.map_some, Option.some.injEq, PyValue.readBack_str, Identifier.pyText, PyText.joined_ofString] at first
    rw [names.2.1, Option.map_some, Option.some.injEq, PyValue.readBack_str, PyText.joined_ofString] at second
    rw [names.2.2, Option.map_some, Option.some.injEq] at third
    subst first second third
    refine ⟨sameId, ⟨text, drawn, sameSmiles⟩, sameProperty, ?_⟩
    rcases measured : r.property.value with _ | n | x <;> rw [measured] at finite
    · cases finite
    · exact ⟨_, rfl, finite⟩
    · exact ⟨_, rfl, finite⟩

variable [Sha256] {config : DatasetExportConfig} {bundle : ReviewBundle} {review : ReviewRecord} {out : DatasetExport}

/-- The gate's inspection of an export has one row for each exported one, in order. -/
theorem inspect_export {artifactId : ArtifactId} {inspection : DatasetInspection}
    (exported : exportDataset config bundle review declaredId declaredSha = .ok out)
    (inspected : DatasetGate.inspect artifactId reviewedSchema out.json target = .ok inspection) :
    List.Forall₂ ReadOf (sortedBy (fun r => r.recordId.pyText) bundle.records) inspection.rows := by
  obtain ⟨_, _, rows, written⟩ := exportDataset_ok exported
  have keyed : (PyValue.named (exportBody out.reviewBundleArtifactId out.reviewDigest out.exportConfigDigest out.rows)).Keyed := by
    simp only [PyValue.named, PyValue.keyed_named, exportBody, List.mem_cons, List.not_mem_nil, or_false]
    rintro f (rfl | rfl | rfl | rfl | rfl | rfl) <;> simp only [PyValue.keyed_str, PyValue.keyed_arr, rows]
    intro v member
    simp only [List.map_map, List.mem_map, Function.comp_apply] at member
    obtain ⟨r, _, rfl⟩ := member
    exact keyed_rowOf r _
  obtain ⟨text, decoded, parsed⟩ := loads_canonical written keyed
  unfold DatasetGate.inspect at inspected
  obtain ⟨value, read, inspected⟩ := bind_ok.mp inspected
  obtain ⟨found, sorted, inspected⟩ := bind_ok.mp inspected
  rw [DatasetGate.jsonOf, decoded] at read
  simp only [parsed, PyValue.readBack_obj, Except.ok.injEq] at read
  subst read
  rw [DatasetGate.rowsOf, reviewedSchema, if_pos rfl] at sorted
  obtain ⟨ds, gated, sorted⟩ := bind_ok.mp sorted
  cases sorted
  dsimp only at inspected
  obtain ⟨_, _, inspected⟩ := bind_ok.mp inspected
  split at inspected
  · cases inspected
    dsimp only
    unfold DatasetGate.core05Rows at gated
    obtain ⟨_, _, gated⟩ := bind_ok.mp gated
    split at gated
    · obtain ⟨_, _, gated⟩ := bind_ok.mp gated
      obtain ⟨_, _, gated⟩ := bind_ok.mp gated
      obtain ⟨items, listed, gated⟩ := bind_ok.mp gated
      have own : (exportBody out.reviewBundleArtifactId out.reviewDigest out.exportConfigDigest out.rows).lookup "rows" =
        some (.arr (out.rows.map PyValue.named)) := rfl
      rw [DatasetGate.rowItems, PyValue.pyGet_readFields, own, Option.map_some, Option.getD_some, PyValue.readBack_arr,
        rows, List.map_map, List.map_map] at listed
      cases listed
      have each := mapM_ok.mp gated
      rw [List.forall₂_map_left_iff] at each
      exact each.imp fun r d read => core05Row_rowOf read
    · cases gated
  · cases inspected

/-- No export has rows for a default target: its rows are all of the one property of the vocabulary,
which BR1 does not call by that name. -/
theorem rowsFor_default {artifactId : ArtifactId} {inspection : DatasetInspection}
    (exported : exportDataset config bundle review declaredId declaredSha = .ok out)
    (inspected : DatasetGate.inspect artifactId reviewedSchema out.json none = .ok inspection) {target : String}
    (default : target ∈ defaultTargetProperties) (rows : List DatasetRow) :
    inspection.rowsFor (PyText.ofString target) ≠ .ok rows := by
  have each := inspect_export exported inspected
  have apart : ∀ d ∈ inspection.rows, d.targetProperty ≠ PyText.ofString target := by
    intro d member same
    obtain ⟨r, _, read⟩ := forall₂_right each member
    rw [read.targetProperty, PyText.ofString_inj] at same
    cases property : r.property.propertyId
    rw [property] at same
    subst same
    simp [defaultTargetProperties, OledProperty.text] at default
  have empty : inspection.rows.filter (·.targetProperty = PyText.ofString target) = [] := by
    simpa [List.filter_eq_nil_iff] using apart
  intro found
  rw [DatasetInspection.rowsFor, empty] at found
  cases found

/-- No reviewed dataset is usable. -/
theorem dataset_unusable (exported : exportDataset config bundle review declaredId declaredSha = .ok out) :
    ¬UsableByBr1 out := by
  rintro ⟨inspection, inspected, _, target, default, rows, found⟩
  exact rowsFor_default exported inspected default rows found

end

/-! ### The export of one approved record -/

namespace Sample
attribute [local instance] standardSha256 asciiPrintable asciiCase

/-- A review bundle of the records that validation leaves. -/
def reviewed (records : List OledRecord) : Except PyError ReviewBundle :=
  ReviewBundle.create [paper] [paper] [paper] paper records [] [] [] []

def approvedReview (subject : ArtifactId) : ReviewRecord :=
  ⟨word "review_1", subject, .approved, PyText.ofString "reviewer", [], validationTimestamp, word "1" isIdentifier_one, by decide +kernel⟩

def exportConfig : DatasetExportConfig := ⟨15, by decide⟩

/-- The mapped record is validated, reviewed and exported. -/
def published : Except PyError (ReviewBundle × ReviewRecord × DatasetExport) := do
  let intake ← intake "MAPPED"
  let bundle ← reviewed intake.2.2.records
  let subject ← bundle.artifactId
  let out ← exportDataset exportConfig bundle (approvedReview subject) none none
  return (bundle, approvedReview subject, out)

theorem published_ok {made : ReviewBundle × ReviewRecord × DatasetExport} (ran : published = .ok made) :
    exportDataset exportConfig made.1 made.2.1 none none = .ok made.2.2 := by
  obtain ⟨_, _, ran⟩ := bind_ok.mp ran
  obtain ⟨bundle, _, ran⟩ := bind_ok.mp ran
  obtain ⟨subject, _, ran⟩ := bind_ok.mp ran
  obtain ⟨out, exported, ran⟩ := bind_ok.mp ran
  cases ran
  exact exported

theorem published_filled : ∃ made, published = .ok made ∧ made.1.records ≠ [] := by
  have ran : (published.toOption.map fun made => made.1.records.isEmpty) = some false := by decide +kernel
  cases taken : published with
  | error e =>
    rw [taken] at ran
    cases ran
  | ok made =>
    refine ⟨made, rfl, fun empty => ?_⟩
    rw [taken] at ran
    simp [Except.toOption, empty] at ran

theorem dataset_unusable_published : ∃ bundle review out, bundle.records ≠ [] ∧
    exportDataset exportConfig bundle review none none = .ok out ∧ ¬UsableByBr1 out := by
  obtain ⟨made, ran, filled⟩ := published_filled
  have exported := published_ok ran
  exact ⟨_, _, _, filled, exported, dataset_unusable exported⟩

/-- The only record is approved and exported, and no default target has a row. -/
theorem dataset_usable_fails : ¬∀ (config : DatasetExportConfig) (bundle : ReviewBundle) (review : ReviewRecord)
    (declaredId declaredSha : Option PyText) (out : DatasetExport), bundle.records ≠ [] →
    exportDataset config bundle review declaredId declaredSha = .ok out → UsableByBr1 out := by
  intro always
  obtain ⟨made, ran, filled⟩ := published_filled
  have exported := published_ok ran
  obtain ⟨inspection, inspected, _, target, default, rows, found⟩ := always _ _ _ _ _ _ filled exported
  exact rowsFor_default exported inspected default rows found

end Sample
end Molly
