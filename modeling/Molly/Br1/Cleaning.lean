import Molly.Br1.Dataset
import Molly.Br1.Intent
import Molly.Br1.Source
import Molly.Oled.Floats

/-! The cleaning of a raw dataset: which rows are kept, and what is recorded of the others. -/
namespace Molly

/-- `hashlib.sha512(source).hexdigest()`. -/
class Sha512 where
  sha512Hex : Bytes → String

/-- `x - y`, whose only negative zero is `-0.0 - 0.0`. -/
def FiniteFloat.sub (x y : FiniteFloat) : PyFloat :=
  if x.repr = "-0.0" ∧ y.repr = "0.0" then .finite x else PyFloat.ofDecimal (x.exact.sub y.exact)

namespace Cleaning

/-- The finite number of a value that `float` takes. -/
def finiteOf [DecimalText] (value : PyValue) : Option FiniteFloat :=
  match value.toFloat with
  | .ok (.finite x) => some x
  | _ => none

/-- The numbers of a list, when all of its items are finite ones. -/
def numbersOf [DecimalText] : PyValue → List FiniteFloat
  | .arr items => (items.mapM finiteOf).getD []
  | _ => []

/-- `_number_array`; a text is parsed first, and one with too long an integer raises. -/
def numberArray [DecimalText] : PyValue → Except PyError (List FiniteFloat)
  | .str text =>
    match loads (text.map CodePoint.toChar) with
    | .error .decode => .ok []
    | .error .digits => .error ⟨.valueError, "Exceeds the limit for integer string conversion"⟩
    | .ok value => .ok (numbersOf value)
  | value => .ok (numbersOf value)

section
variable [CaseText] [DecimalText] [PrintableText]

def columnNamed (record : PyFields) (names : List String) : PyValue := column record (names.map PyText.ofString)

/-- `str(value or "").strip()`. -/
def cellText (value : PyValue) : PyText := if value.truthy then value.toText.strip else []

def smilesOf (record : PyFields) : PyText := cellText (columnNamed record ["canonical_smiles", "smiles", "SMILES", "chromophore"])

def refcodeOf (record : PyFields) : PyText := cellText (columnNamed record ["refcode_csd", "refcode", "id", "molecule_id"])

/-- The target of a record: the variables that are assigned on the way, and the value or the reason
of the rejection. -/
structure Target where
  formula : String
  unit : String
  condition : String
  outcome : Except String FiniteFloat

/-- The last test of a target. -/
def finiteTarget : PyFloat → Except String FiniteFloat
  | .finite x => .ok x
  | .nonFinite _ => .error "non_finite_target"

def columnFormula : String := "source target column"
def gapFormula : String := "source homo_lumo_gap column"
def orbitalFormula : String := "first(energies_unocc_pbe0_vac_tier2) - last(energies_occ_pbe0_vac_tier2)"

/-- The branch of the target `homo_lumo_gap`. -/
def gapTarget (record : PyFields) : Except PyError Target := do
  let occupied ← numberArray (columnNamed record ["energies_occ_pbe0_vac_tier2"])
  let unoccupied ← numberArray (columnNamed record ["energies_unocc_pbe0_vac_tier2"])
  match occupied.getLast?, unoccupied.head? with
  | some last, some first => return ⟨orbitalFormula, "eV", "PBE0_vacuum_tier2", finiteTarget (first.sub last)⟩
  | _, _ =>
    match (columnNamed record ["homo_lumo_gap", "target_value", "target"]).toFloat with
    | .ok x => return ⟨gapFormula, "eV", "PBE0_vacuum_tier2", finiteTarget x⟩
    | .error _ => return ⟨columnFormula, "", "UNSPECIFIED", .error "missing_or_malformed_orbital_energies"⟩

/-- The branch of any other target. -/
def columnTarget (target : PyText) (record : PyFields) : Target :=
  match (column record (target :: ["target_value", "target", "quantum yield", "quantum_yield"].map PyText.ofString)).toFloat with
  | .ok x => ⟨columnFormula, "", "UNSPECIFIED", finiteTarget x⟩
  | .error _ => ⟨columnFormula, "", "UNSPECIFIED", .error "missing_or_malformed_target"⟩

def isGap (target : PyText) : Bool := target = PyText.ofString "homo_lumo_gap"

def targetOf (target : PyText) (record : PyFields) : Except PyError Target :=
  if isGap target then gapTarget record else .ok (columnTarget target record)

/-- A row of the cleaned dataset. -/
structure CleanRow where
  rowId : PyText
  smiles : PyText
  targetProperty : PyText
  targetValue : FiniteFloat
  condition : String
  sourceReference : PyText

def CleanRow.entries (row : CleanRow) : List (String × PyValue) :=
  [("row_id", .str row.rowId), ("smiles", .str row.smiles), ("target_property", .str row.targetProperty),
    ("target_value", .float row.targetValue), ("condition", .str (PyText.ofString row.condition)),
    ("source_reference", .str row.sourceReference)]

/-- `f"{position:05d}"`. -/
def paddedPosition (position : Nat) : PyText :=
  let digits := PyText.ofString (toString position)
  List.replicate (5 - digits.length) 48 ++ digits

/-- What a source is cleaned with. -/
structure CleaningArguments where
  source : Bytes
  targetProperty : PyText
  sourceDataset : PyText
  sourceSubset : PyText
  sourceFormat : PyText
  maxRows : BoundedInt 1 100000

/-- The arguments that are not named by a caller have these values. -/
def CleaningArguments.standard (source : Bytes) (targetProperty sourceFormat : PyText) (maxRows : BoundedInt 1 100000) :
    CleaningArguments :=
  ⟨source, targetProperty, PyText.ofString "OE62", PyText.ofString "df_5k", sourceFormat, maxRows⟩

def rowIdOf (a : CleaningArguments) (position : Nat) : PyText :=
  a.sourceDataset.casefold ++ 95 :: a.sourceSubset ++ 95 :: paddedPosition position

def referenceOf (a : CleaningArguments) (refcode : PyText) (position : Nat) : PyText :=
  a.sourceDataset ++ 58 :: a.sourceSubset ++ 58 ::
    (if refcode = [] then PyText.ofString ("source-row-" ++ toString position) else refcode)

/-- The variables of the loop. The formula and the unit are those that the last record assigned. -/
structure CleaningState where
  reasonCounts : List (PyText × Nat)
  rows : List CleanRow
  seenSmiles : List PyText
  duplicateCount : Nat
  formula : String
  targetUnit : String

def CleaningState.start : CleaningState := ⟨[], [], [], 0, "", ""⟩

/-- `rejected`. -/
def CleaningState.rejected (s : CleaningState) (reason : String) : CleaningState :=
  { s with reasonCounts := Effect.Dict.tally (PyText.ofString reason) s.reasonCounts }

/-- The body of the loop. -/
def cleanRecord (a : CleaningArguments) (target : PyText) (s : CleaningState) (position : Nat) (record : PyFields) :
    Except PyError CleaningState :=
  if (record.lookup invalidRowKey).isSome then .ok (s.rejected "row_shape")
  else
    let smiles := smilesOf record
    if smiles = [] then .ok (s.rejected "missing_smiles")
    else do
      let taken ← targetOf target record
      let s := { s with formula := taken.formula, targetUnit := taken.unit }
      match taken.outcome with
      | .error reason => return s.rejected reason
      | .ok value =>
        if smiles ∈ s.seenSmiles then return { s with duplicateCount := s.duplicateCount + 1 }
        else
          return { s with
            seenSmiles := smiles :: s.seenSmiles
            rows := s.rows ++ [⟨rowIdOf a position, smiles, target, value, taken.condition,
              referenceOf a (refcodeOf record) position⟩] }

/-- The loop over the records from a position on. -/
def cleanRecords (a : CleaningArguments) (target : PyText) : CleaningState → Nat → List PyFields → Except PyError CleaningState
  | s, _, [] => .ok s
  | s, position, record :: rest => do
    let s ← cleanRecord a target s position record
    cleanRecords a target s (position + 1) rest

/-- What the loop leaves, and the source it went over. -/
structure Cleaned where
  target : PyText
  records : List PyFields
  sourceFormat : String
  final : CleaningState

end

end Cleaning

structure PreparedDataset where
  content : Bytes
  report : Bytes
  sourceContentDigest : Digest
  transformationDigest : Digest
  rowCount : Nat
  sourceRowCount : Nat
  invalidRowCount : Nat
  duplicateRowCount : Nat
  sourceFormat : String

namespace Cleaning

section
variable [CaseText] [DecimalText] [PrintableText]

/-- `records[:max_rows]`. -/
def considered (a : CleaningArguments) (records : List PyFields) : List PyFields := records.take a.maxRows.1.toNat

def text (s : String) : PyValue := .str (PyText.ofString s)

def Cleaned.invalidCount (c : Cleaned) : Nat := (c.final.reasonCounts.map Prod.snd).sum

def Cleaned.unit (c : Cleaned) : String := if c.final.targetUnit = "" then "unspecified" else c.final.targetUnit

def Cleaned.transformation (c : Cleaned) (a : CleaningArguments) : List (String × PyValue) :=
  [("name", text "molly.br1.raw-dataset-cleaning"), ("version", text "1"), ("source_dataset", .str a.sourceDataset.strip),
    ("source_subset", .str a.sourceSubset.strip), ("target_property", .str c.target), ("target_unit", text c.unit),
    ("condition", text (if isGap c.target then "PBE0_vacuum_tier2" else "source_condition_or_unspecified")),
    ("formula", text c.final.formula), ("smiles_normalization", text "strip surrounding whitespace only"),
    ("duplicate_policy", text "first occurrence in source order"), ("max_rows", .int a.maxRows.1),
    ("source_format", text c.sourceFormat)]

variable [Sha256] [Sha512]

def Cleaned.report (c : Cleaned) (a : CleaningArguments) (transformationDigest : Digest) : List (String × PyValue) :=
  let count := (considered a c.records).length
  [("schema_name", text "molly.br1.dataset-cleaning-report"), ("schema_version", text "1"),
    ("status", text "READY_FOR_OPERATOR_CONFIRMATION"), ("source_content_digest", text (sha256Bytes a.source).text),
    ("source_content_sha512", text (Sha512.sha512Hex a.source)), ("source_format", text c.sourceFormat),
    ("source_row_count", .int c.records.length), ("considered_row_count", .int count),
    ("transformed_row_count", .int c.final.rows.length), ("invalid_row_count", .int c.invalidCount),
    ("duplicate_row_count", .int c.final.duplicateCount),
    ("truncated_row_count", .int (max 0 ((c.records.length : Int) - count))),
    ("rejection_reasons", .obj (c.final.reasonCounts.map fun f => (f.1, .int f.2))), ("target_property", .str c.target),
    ("target_unit", text c.unit), ("transformation_digest", text transformationDigest.text),
    ("claim_boundary", text "COMPUTATIONAL_ONLY")]

def Cleaned.body (c : Cleaned) (a : CleaningArguments) (transformationDigest : Digest) : List (String × PyValue) :=
  [("schema_name", text "molly.br1.cleaned-dataset"), ("schema_version", text "1"), ("review_status", text "CLEANED_DATASET"),
    ("review_record_recreated", .bool false), ("source_dataset", .str a.sourceDataset.strip),
    ("source_subset", .str a.sourceSubset.strip), ("source_content_digest", text (sha256Bytes a.source).text),
    ("source_content_sha512", text (Sha512.sha512Hex a.source)), ("transformation_digest", text transformationDigest.text),
    ("transformation", .named (c.transformation a)), ("target_property", .str c.target), ("target_unit", text c.unit),
    ("row_count", .int c.final.rows.length), ("source_row_count", .int c.records.length),
    ("invalid_row_count", .int c.invalidCount), ("duplicate_row_count", .int c.final.duplicateCount),
    ("cleaning_report", .named (c.report a transformationDigest)),
    ("rows", .arr (c.final.rows.map fun row => .named row.entries))]

/-- A name of the source: not blank, on one line. -/
def isSourceName (name : PyText) : Bool := name.strip ≠ [] && name.all fun p => p ∉ ([0, 13, 10] : List CodePoint)

/-- The checks of the arguments, the records of the source, and the loop over those considered. -/
def clean (a : CleaningArguments) : Except PyError Cleaned := do
  let target ← DatasetRow.referenceOf "target_property" a.targetProperty.strip
  ensure (target.1 ≠ []) ⟨.br1, "target_property is required"⟩
  ensure (isSourceName a.sourceDataset) ⟨.br1, "source_dataset is required"⟩
  ensure (isSourceName a.sourceSubset) ⟨.br1, "source_subset is required"⟩
  let (records, detected) ← sourceRecords a.source a.sourceFormat
  let final ← cleanRecords a target.1 .start 0 (considered a records)
  ensure (final.rows ≠ []) ⟨.br1Integrity, "raw dataset cleaning produced no usable rows"⟩
  return ⟨target.1, records, detected, final⟩

/-- `prepare_raw_dataset`. -/
def prepareRawDataset (a : CleaningArguments) : Except PyError PreparedDataset := do
  let c ← clean a
  let transformationDigest ← (PyValue.named (c.transformation a)).digest
  let content ← (PyValue.named (c.body a transformationDigest)).canonicalBytes
  let report ← (PyValue.named (c.report a transformationDigest)).canonicalBytes
  return ⟨content, report, sha256Bytes a.source, transformationDigest, c.final.rows.length, c.records.length, c.invalidCount,
    c.final.duplicateCount, c.sourceFormat⟩

end

end Cleaning

end Molly
