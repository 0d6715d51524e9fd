import Molly.Oled.Units

/-! The OLED records: molecule identities, measurement conditions, source locators and evidence. -/
namespace Molly
open Effect (chars)

section
variable [CaseText] [PrintableText]

/-- `enum_type(candidate.strip().upper())` of an enumeration with these texts. -/
def enumOf (text : α → String) (all : List α) (candidate : PyText) : Option α :=
  all.find? fun a => PyText.ofString (text a) = candidate.strip.upper

/-! ### Molecule identities -/

inductive IdentityStatus where
  | resolved | unresolved | reviewRequired
  deriving DecidableEq

def IdentityStatus.text : IdentityStatus → String
  | .resolved => "RESOLVED"
  | .unresolved => "UNRESOLVED"
  | .reviewRequired => "REVIEW_REQUIRED"

def IdentityStatus.all : List IdentityStatus := [.resolved, .unresolved, .reviewRequired]

structure MoleculeIdentity where
  smiles : Option PyText
  inchikey : Option PyText
  name : Option PyText
  identityBasis : Option PyText
  normalizationStatus : IdentityStatus
  explicit : normalizationStatus = .resolved → smiles.isSome = true ∨ inchikey.isSome = true

namespace MoleculeIdentity

/-- The constructor. -/
def create (smiles inchikey name identityBasis status : PyValue) : Except PyError MoleculeIdentity := do
  let smiles ← optionalTextOf .coreContract "smiles" 1024 smiles
  let inchikey ← optionalTextOf .coreContract "inchikey" 256 inchikey
  let name ← optionalTextOf .coreContract "molecule name" 1024 name
  let basis ← optionalTextOf .coreContract "identity_basis" 256 identityBasis
  match status with
  | .str text =>
    match enumOf IdentityStatus.text IdentityStatus.all text with
    | none => throw ⟨.coreContract, "unknown identity status: " ++ (reprText text).display⟩
    | some .resolved =>
      if explicit : smiles.isSome = true ∨ inchikey.isSome = true then
        return ⟨smiles, inchikey, name, basis.orElse fun _ => some (PyText.ofString "EXACT_STRING"), .resolved, fun _ => explicit⟩
      else throw ⟨.coreContract, "resolved identity requires an explicit SMILES or InChIKey"⟩
    | some .unresolved => return ⟨smiles, inchikey, name, basis, .unresolved, nofun⟩
    | some .reviewRequired =>
      if smiles.isSome || inchikey.isSome || name.isSome then return ⟨smiles, inchikey, name, basis, .reviewRequired, nofun⟩
      else return ⟨smiles, inchikey, name, basis, .unresolved, nofun⟩
  | _ => throw ⟨.coreContract, "identity status must be text"⟩

def resolved (m : MoleculeIdentity) : Bool := m.normalizationStatus = .resolved

/-- `identity_key`. -/
def identityKey (m : MoleculeIdentity) : PyText :=
  match m.inchikey, m.smiles, m.name with
  | some key, _, _ => PyText.ofString "inchikey:" ++ key.casefold
  | none, some smiles, _ => PyText.ofString "smiles:" ++ smiles
  | none, none, some name => PyText.ofString "name:" ++ name.casefold
  | none, none, none => PyText.ofString "UNRESOLVED"

def entries (m : MoleculeIdentity) : List (String × PyValue) :=
  [("smiles", pyTextOrNull m.smiles), ("inchikey", pyTextOrNull m.inchikey), ("name", pyTextOrNull m.name),
    ("identity_basis", pyTextOrNull m.identityBasis),
    ("normalization_status", .str (PyText.ofString m.normalizationStatus.text))]

def toDict (m : MoleculeIdentity) : PyValue := .named m.entries

/-- `from_mapping`. -/
def fromMapping : PyValue → Except PyError MoleculeIdentity
  | .null => create .null .null .null .null (.str (PyText.ofString "UNRESOLVED"))
  | .str smiles =>
    create (.str smiles) .null .null (.str (PyText.ofString "explicit_string")) (.str (PyText.ofString "RESOLVED"))
  | .obj value =>
    if hasUnknown value ["smiles", "inchikey", "name", "identity_basis", "normalization_status", "status"] then
      .error ⟨.coreContract, "molecule_identity has unknown fields"⟩
    else
      let smiles := pyGet value "smiles" .null
      let inchikey := pyGet value "inchikey" .null
      let status := match pyGet value "normalization_status" (pyGet value "status" .null) with
        | .null => .str (PyText.ofString (if smiles.truthy || inchikey.truthy then "RESOLVED" else "UNRESOLVED"))
        | status => status
      create smiles inchikey (pyGet value "name" .null) (pyGet value "identity_basis" .null) status
  | _ => .error ⟨.coreContract, "molecule_identity must be an object or string"⟩

end MoleculeIdentity

/-! ### Measurement conditions -/

structure MeasurementCondition where
  conditionStatus : PyText
  medium : Option PyText
  host : Option PyText
  dopantConcentration : Option PyText
  temperature : Option PyText
  measurementEnvironment : Option PyText
  deriving DecidableEq

namespace MeasurementCondition

/-- The constructor. -/
def create (status medium host dopant temperature environment : PyValue) : Except PyError MeasurementCondition := do
  match ← optionalTextOf .coreContract "condition_status" 64 status with
  | none => throw ⟨.coreContract, "condition_status is required"⟩
  | some status =>
    let medium ← optionalTextOf .coreContract "medium" 512 medium
    let host ← optionalTextOf .coreContract "host" 512 host
    let dopant ← optionalTextOf .coreContract "dopant_concentration" 512 dopant
    let temperature ← optionalTextOf .coreContract "temperature" 512 temperature
    let environment ← optionalTextOf .coreContract "measurement_environment" 512 environment
    return ⟨status.upper, medium, host, dopant, temperature, environment⟩

def entries (c : MeasurementCondition) : List (String × PyValue) :=
  [("condition_status", .str c.conditionStatus), ("medium", pyTextOrNull c.medium), ("host", pyTextOrNull c.host),
    ("dopant_concentration", pyTextOrNull c.dopantConcentration), ("temperature", pyTextOrNull c.temperature),
    ("measurement_environment", pyTextOrNull c.measurementEnvironment)]

def toDict (c : MeasurementCondition) : PyValue := .named c.entries

/-- `from_mapping`. -/
def fromMapping : PyValue → Except PyError MeasurementCondition
  | .null => create (.str (PyText.ofString "UNSPECIFIED")) .null .null .null .null .null
  | .obj value =>
    if hasUnknown value ["condition_status", "status", "medium", "host", "dopant_concentration", "temperature",
        "measurement_environment"] then
      .error ⟨.coreContract, "measurement_condition has unknown fields"⟩
    else
      create (pyGet value "condition_status" (pyGet value "status" (.str (PyText.ofString "EXPLICIT"))))
        (pyGet value "medium" .null) (pyGet value "host" .null) (pyGet value "dopant_concentration" .null)
        (pyGet value "temperature" .null) (pyGet value "measurement_environment" .null)
  | _ => .error ⟨.coreContract, "measurement_condition must be an object"⟩

/-- The condition says nothing of the measurement. -/
def unresolved (c : MeasurementCondition) : Bool :=
  c.conditionStatus ∈ ["UNSPECIFIED", "UNKNOWN"].map PyText.ofString

end MeasurementCondition

/-! ### Source locators -/

inductive SourceLocatorKind where
  | xmlElement | htmlElement | pdfPage | pdfRegion | mineruElement
  deriving DecidableEq

def SourceLocatorKind.text : SourceLocatorKind → String
  | .xmlElement => "XML_ELEMENT"
  | .htmlElement => "HTML_ELEMENT"
  | .pdfPage => "PDF_PAGE"
  | .pdfRegion => "PDF_REGION"
  | .mineruElement => "MINERU_ELEMENT"

def SourceLocatorKind.all : List SourceLocatorKind := [.xmlElement, .htmlElement, .pdfPage, .pdfRegion, .mineruElement]

def isNameStart (c : Char) : Bool := c.isAlpha || c = '_'
def isNameChar (c : Char) : Bool := c.isAlphanum || c ∈ ['_', '.', ':', '-']

/-- `name[index]`, the index counted from one. -/
def isStructuralSegment (cs : List Char) : Bool :=
  match cs with
  | c :: rest =>
    isNameStart c &&
      (match rest.dropWhile isNameChar with
      | '[' :: d :: digits => d.isDigit && d ≠ '0' && digits.dropWhile Char.isDigit = [']']
      | _ => false)
  | [] => false

/-- `_STRUCTURAL_PATH_RE`: a slash before every segment. -/
def isStructuralPath (path : PyText) : Bool :=
  match slashParts (path.map CodePoint.toChar) with
  | [] :: segment :: segments => (segment :: segments).all isStructuralSegment
  | _ => false

/-- Left, top, right and bottom, in order. -/
structure BoundingBox where
  left : FiniteFloat
  top : FiniteFloat
  right : FiniteFloat
  bottom : FiniteFloat
  ordered : left.le right = true ∧ top.le bottom = true
  deriving DecidableEq

/-- What a locator of each kind has and has not. -/
def locatorShape (kind : SourceLocatorKind) (path : Option PyText) (page index : Option Nat) (bbox : Option BoundingBox) :
    Except PyError Unit :=
  let require (holds : Bool) (message : String) : Except PyError Unit :=
    if holds then .ok () else .error ⟨.coreContract, message⟩
  match kind with
  | .xmlElement | .htmlElement => do
    match path with
    | none => throw ⟨.coreContract, "XML/HTML locator requires a bounded structural path"⟩
    | some path =>
      require (path.length ≤ 2048) "XML/HTML locator requires a bounded structural path"
      require (isStructuralPath path) "locator path is not a deterministic structural element path"
      require (page.isNone && index.isNone && bbox.isNone) "XML/HTML locators cannot contain page coordinates"
  | .pdfPage => do
    require (page.isSome && path.isNone && index.isNone) "PDF_PAGE locator requires only a page identity"
    require bbox.isNone "PDF_PAGE locator cannot contain a region bbox"
  | .pdfRegion =>
    require (page.isSome && bbox.isSome && path.isNone && index.isNone) "PDF_REGION locator requires page_number and bbox"
  | .mineruElement =>
    require (page.isSome && index.isSome && path.isNone) "MINERU_ELEMENT locator requires page_number and element_index"

structure SourceLocator where
  sourceArtifactId : ArtifactId
  kind : SourceLocatorKind
  path : Option PyText
  pageNumber : Option Nat
  elementIndex : Option Nat
  bbox : Option BoundingBox
  shaped : locatorShape kind path pageNumber elementIndex bbox = .ok ()

namespace SourceLocator

/-- `_bounded_page` and `_bounded_index`. -/
def boundedNat (low high : Nat) (message : String) : PyValue → Except PyError (Option Nat)
  | .null => .ok none
  | .int n => if (low : Int) ≤ n ∧ n ≤ high then .ok (some n.toNat) else .error ⟨.coreContract, message⟩
  | _ => .error ⟨.coreContract, message⟩

/-- One coordinate of `_bbox`: a bounded number, rounded to six places. -/
def coordinate : PyValue → Except PyError FiniteFloat := fun value => do
  let outside : PyError := ⟨.coreContract, "bbox coordinates are outside the bounded finite range"⟩
  let number ← match value with
    | .int n => (PyNumber.int n).toFloat
    | .float x => pure x
    | .nonFinite _ => throw outside
    | _ => throw ⟨.coreContract, "bbox coordinates must be finite numbers"⟩
  if number.exact.abs.le (Effect.Decimal.ofInt 1000000000 0) then
    if number.isInt 0 then (PyNumber.int 0).toFloat
    else
      match FiniteFloat.ofDecimal (number.exact.toPlaces 6) with
      | some x => return x
      | none => throw ⟨.overflowError, "no rounding of a bounded number is out of range"⟩
  else throw outside

/-- `_bbox` of a tuple. -/
def bboxOf (values : List PyValue) : Except PyError BoundingBox := do
  match values with
  | [left, top, right, bottom] =>
    let left ← coordinate left
    let top ← coordinate top
    let right ← coordinate right
    let bottom ← coordinate bottom
    if ordered : left.le right = true ∧ top.le bottom = true then return ⟨left, top, right, bottom, ordered⟩
    else throw ⟨.coreContract, "bbox coordinates must be ordered left/top to right/bottom"⟩
  | _ => throw ⟨.coreContract, "bbox must contain exactly four finite coordinates"⟩

/-- The constructor. -/
def create (source : PyText) (kind : PyValue) (path : Option PyText) (page index : PyValue) (bbox : Option (List PyValue)) :
    Except PyError SourceLocator := do
  let source ← validateArtifactId "artifact_id" source.display
  match kind with
  | .str text =>
    match enumOf SourceLocatorKind.text SourceLocatorKind.all text with
    | none => throw ⟨.coreContract, "unknown source locator kind: " ++ (reprText text).display⟩
    | some kind =>
      let page ← boundedNat 1 100000 "page_number must be a 1-based bounded page number" page
      let index ← boundedNat 0 10000000 "element_index must be a bounded non-negative index" index
      let bbox ← match bbox with
        | none => pure none
        | some values => some <$> bboxOf values
      match shaped : locatorShape kind path page index bbox with
      | .error e => throw e
      | .ok () => return ⟨source, kind, path, page, index, bbox, shaped⟩
  | _ => throw ⟨.coreContract, "source locator kind must be text"⟩

def bboxValue : Option BoundingBox → PyValue
  | none => .null
  | some b => .arr [.float b.left, .float b.top, .float b.right, .float b.bottom]

def natValue : Option Nat → PyValue
  | none => .null
  | some n => .int n

def entries (l : SourceLocator) : List (String × PyValue) :=
  [("source_artifact_id", .str (PyText.ofString l.sourceArtifactId.text)), ("kind", .str (PyText.ofString l.kind.text)),
    ("path", pyTextOrNull l.path), ("page_number", natValue l.pageNumber), ("element_index", natValue l.elementIndex),
    ("bbox", bboxValue l.bbox)]

def toDict (l : SourceLocator) : PyValue := .named l.entries

/-- `from_dict`. -/
def fromDict : PyValue → Except PyError SourceLocator
  | .obj value =>
    if hasUnknown value ["source_artifact_id", "kind", "path", "page_number", "element_index", "bbox"] then
      .error ⟨.coreContract, "locator has unknown fields"⟩
    else orMalformed (do
      let source ← pyItem value "source_artifact_id"
      let kind ← pyItem value "kind"
      let bbox ← match pyGet value "bbox" .null with
        | .null => pure none
        | bbox => some <$> bbox.iterate
      create source.toText kind (pyOptional value "path") (pyGet value "page_number" .null) (pyGet value "element_index" .null)
        bbox) .coreContract "locator is malformed"
  | _ => .error ⟨.coreContract, "locator must be a JSON object"⟩

end SourceLocator

/-! ### Evidence -/

structure OledEvidenceRef where
  fieldName : Identifier
  candidateId : Identifier
  sourceLocator : SourceLocator

namespace OledEvidenceRef

/-- A reference's source is that of its locator. -/
def sourceArtifactId (e : OledEvidenceRef) : ArtifactId := e.sourceLocator.sourceArtifactId

/-- `from_dict`. -/
def fromDict : PyValue → Except PyError OledEvidenceRef
  | .obj value =>
    if hasUnknown value ["field_name", "field", "candidate_id", "source_artifact_id", "source_locator", "locator"] then
      .error ⟨.coreContract, "evidence reference has unknown fields"⟩
    else do
      let fieldName := (pyGet value "field_name" (pyGet value "field" .null)).toText
      let candidateId ← pyItem value "candidate_id"
      let source ← pyItem value "source_artifact_id"
      let locator ← SourceLocator.fromDict (pyGet value "source_locator" (pyGet value "locator" .null))
      let fieldName ← validateIdentifier "evidence field_name" fieldName.display
      let candidateId ← validateIdentifier "evidence candidate_id" candidateId.toText.display
      let source ← validateArtifactId "artifact_id" source.toText.display
      if locator.sourceArtifactId = source then return ⟨fieldName, candidateId, locator⟩
      else throw ⟨.coreContract, "evidence locator source does not match source_artifact_id"⟩
  | _ => .error ⟨.coreContract, "evidence reference must be an object"⟩

def entries (e : OledEvidenceRef) : List (String × PyValue) :=
  [("field_name", .str (PyText.ofString e.fieldName.text)), ("candidate_id", .str (PyText.ofString e.candidateId.text)),
    ("source_artifact_id", .str (PyText.ofString e.sourceArtifactId.text)), ("source_locator", e.sourceLocator.toDict)]

def toDict (e : OledEvidenceRef) : PyValue := .named e.entries

end OledEvidenceRef

/-! ### Records -/

inductive ClaimLevel where
  | sourceReported | derivedNormalization | syntheticContractOnly
  deriving DecidableEq

def ClaimLevel.text : ClaimLevel → String
  | .sourceReported => "SOURCE_REPORTED"
  | .derivedNormalization => "DERIVED_NORMALIZATION"
  | .syntheticContractOnly => "SYNTHETIC_CONTRACT_ONLY"

def ClaimLevel.all : List ClaimLevel := [.sourceReported, .derivedNormalization, .syntheticContractOnly]

inductive OledValidationStatus where
  | unvalidated | pass | fail | review
  deriving DecidableEq

def OledValidationStatus.text : OledValidationStatus → String
  | .unvalidated => "UNVALIDATED"
  | .pass => "PASS"
  | .fail => "FAIL"
  | .review => "REVIEW"

structure OledRecord where
  recordId : Identifier
  canonicalDocumentArtifactId : ArtifactId
  sourceArtifactId : ArtifactId
  moleculeIdentity : MoleculeIdentity
  property : NormalizedProperty
  measurementCondition : MeasurementCondition
  evidence : List OledEvidenceRef
  claimLevel : ClaimLevel
  validationStatus : OledValidationStatus
  candidateBundleArtifactId : Option ArtifactId
  mappingArtifactId : Option ArtifactId
  mappingRequestDigest : Option Digest
  duplicateGroup : Option PyText
  relation : Option PyText
  evident : evidence ≠ []
  sourced : ∀ e ∈ evidence, e.sourceArtifactId = sourceArtifactId

def MeasurementCondition.conditionKey [Sha256] (c : MeasurementCondition) : Digest := sha256Bytes c.toDict.encode

namespace OledRecord

/-- `comparison_key`: records with the same identity, property, unit and condition are compared. -/
def comparisonKey [Sha256] (r : OledRecord) : Digest :=
  sha256Bytes (PyValue.named [("identity", .str r.moleculeIdentity.identityKey),
    ("property_id", .str (PyText.ofString r.property.propertyId.text)), ("unit", pyTextOrNull r.property.unit),
    ("condition", .str (PyText.ofString r.measurementCondition.conditionKey.text))]).encode

def entries (r : OledRecord) : List (String × PyValue) :=
  [("record_id", .str r.recordId.pyText),
    ("canonical_document_artifact_id", .str (PyText.ofString r.canonicalDocumentArtifactId.text)),
    ("source_artifact_id", .str (PyText.ofString r.sourceArtifactId.text)),
    ("molecule_identity", r.moleculeIdentity.toDict), ("property", r.property.toDict),
    ("measurement_condition", r.measurementCondition.toDict), ("evidence", .arr (r.evidence.map OledEvidenceRef.toDict)),
    ("claim_level", .str (PyText.ofString r.claimLevel.text)),
    ("validation_status", .str (PyText.ofString r.validationStatus.text)),
    ("candidate_bundle_artifact_id", pyOptionalText ArtifactId.text r.candidateBundleArtifactId),
    ("mapping_artifact_id", pyOptionalText ArtifactId.text r.mappingArtifactId),
    ("mapping_request_digest", pyOptionalText Digest.text r.mappingRequestDigest),
    ("duplicate_group", pyTextOrNull r.duplicateGroup), ("relation", pyTextOrNull r.relation)]

def toDict (r : OledRecord) : PyValue := .named r.entries

end OledRecord
end
end Molly
