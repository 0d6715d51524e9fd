import Mathlib.Data.List.Perm.Basic
import Molly.Br1.Intent
import Molly.Effect.Ranking
import Molly.Effect.Rational

/-! The computational Top-N evaluation: the two packages that it joins, and the ranking it publishes. -/
namespace Molly
open Effect (Precedence)

/-! ### Packages -/

/-- `_object`, of the bytes that the store has read. -/
def packageObject (label : String) (payload : Bytes) : Except PyError PyFields :=
  match decodeUtf8 payload with
  | none => .error ⟨.br1Integrity, label ++ " is not valid UTF-8 JSON"⟩
  | some text =>
    match loads text with
    | .error .decode => .error ⟨.br1Integrity, label ++ " is not valid UTF-8 JSON"⟩
    | .error .digits => .error ⟨.valueError, "Exceeds the limit for integer string conversion"⟩
    | .ok (.obj fields) => .ok fields
    | .ok _ => .error ⟨.br1Integrity, label ++ " must be a JSON object"⟩

/-- The rows of a package as a dict: each row has a key of its own. -/
def keyedRows (read : PyValue → Except PyError (PyText × α)) (duplicate : PyError) (result : List (PyText × α)) :
    List PyValue → Except PyError (List (PyText × α))
  | [] => .ok result
  | raw :: rest => do
    let row ← read raw
    ensure (row.1 ∉ result.map Prod.fst) duplicate
    keyedRows read duplicate (result ++ [row]) rest

/-- What `_candidate_rows` and `_prediction_rows` share: the header, the rows, and that there are some. -/
def packageRows (kind schemaName duplicate empty : String) (read : PyValue → Except PyError (PyText × α)) (value : PyFields) :
    Except PyError (List (PyText × α)) := do
  ensure (DatasetGate.states value "schema_name" schemaName && DatasetGate.states value "schema_version" "1")
    ⟨.br1Integrity, kind ++ " package has an unsupported schema"⟩
  ensure (DatasetGate.states value "claim_boundary" "COMPUTATIONAL_ONLY")
    ⟨.br1Integrity, kind ++ " package has an invalid claim boundary"⟩
  let items ← DatasetGate.rowItems value (kind ++ " rows must be an array")
  let rows ← keyedRows read ⟨.br1Integrity, duplicate⟩ [] items
  ensure (rows ≠ []) ⟨.br1Integrity, empty⟩
  return rows

/-- One row of a candidate package: its ID and SMILES. -/
def candidateRow : PyValue → Except PyError (PyText × PyText)
  | .obj raw =>
    match pyGet raw "candidate_id" .null, pyGet raw "smiles" (pyGet raw "SMILES" .null) with
    | .str candidateId, .str smiles =>
      if candidateId.strip ≠ [] ∧ smiles.strip ≠ [] then .ok (candidateId, smiles)
      else .error ⟨.br1Integrity, "candidate row lacks identity or SMILES"⟩
    | _, _ => .error ⟨.br1Integrity, "candidate row lacks identity or SMILES"⟩
  | _ => .error ⟨.br1Integrity, "candidate row is malformed"⟩

/-- `_candidate_rows`. -/
def candidateRows : PyFields → Except PyError (List (PyText × PyText)) :=
  packageRows "candidate" "molly.br1.candidate-package" "candidate package contains duplicate candidate IDs"
    "candidate package contains no candidates" candidateRow

/-- One row of a prediction package: the ID of its candidate, and the value. -/
def predictionRow : PyValue → Except PyError (PyText × FiniteFloat)
  | .obj raw =>
    match pyGet raw "candidate_id" .null with
    | .str candidateId => do
      let value ← finiteNumber "predicted value"
        (pyGet raw "predicted_value" (pyGet raw "predicted_property" (pyGet raw "prediction" .null)))
      return (candidateId, value)
    | _ => .error ⟨.br1Integrity, "prediction row is malformed"⟩
  | _ => .error ⟨.br1Integrity, "prediction row is malformed"⟩

/-- `_prediction_rows`. -/
def predictionRows : PyFields → Except PyError (List (PyText × FiniteFloat)) :=
  packageRows "prediction" "molly.br1.prediction-package" "prediction package contains duplicate candidate IDs"
    "prediction package contains no rows" predictionRow

/-! ### Ranking -/

structure EvaluationConfig where
  topN : BoundedInt 1 1024
  direction : RunDirection

namespace EvaluationConfig

/-- The constructor, with the other fields as they are by default. -/
def create [CaseText] (topN direction : PyValue) : Except PyError EvaluationConfig := do
  let topN ← boundedInt "top_n" 1 1024 topN
  let direction ← choiceOf RunDirection.value [.max, .min] ⟨.br1, "evaluation direction must be MAX or MIN"⟩
    (fun text => text.strip.upper) direction
  return ⟨topN, direction⟩

def toDict (c : EvaluationConfig) : PyValue :=
  .named [("top_n", .int c.topN), ("direction", .str (PyText.ofString c.direction.value)),
    ("schema_version", .str (PyText.ofString "1")),
    ("parameters", .named [("validity", .str (PyText.ofString "nonempty_smiles")),
      ("proxy_utility", .str (PyText.ofString "predicted_property"))]),
    ("claim_boundary", .str (PyText.ofString "COMPUTATIONAL_ONLY"))]

def digest [Sha256] (c : EvaluationConfig) : Except PyError Digest := c.toDict.digest

end EvaluationConfig

/-- Texts in the order of their code points. -/
def PyText.precedence : Precedence PyText := .ofOrdering keyOrder

/-- A candidate with its prediction. -/
structure EvaluationRow where
  candidateId : PyText
  smiles : PyText
  predictedProperty : FiniteFloat
  deriving DecidableEq

namespace EvaluationRow

def toDict (r : EvaluationRow) (rank : Nat) : PyValue :=
  .named [("candidate_id", .str r.candidateId), ("smiles", .str r.smiles), ("validity", .bool true),
    ("predicted_property", .float r.predictedProperty), ("proxy_utility", .float r.predictedProperty), ("rank", .int rank)]

/-- What a row is sorted by first: its value, negated where the greatest comes first. -/
def key (direction : RunDirection) (r : EvaluationRow) : Effect.Decimal :=
  match direction with
  | .max => r.predictedProperty.exact.neg
  | .min => r.predictedProperty.exact

/-- The order of the sort: by key, and then by ID. -/
def precedence (direction : RunDirection) : Precedence EvaluationRow :=
  (Effect.Decimal.precedence.pull (key direction)).lex (PyText.precedence.pull candidateId)

end EvaluationRow

/-- Each candidate with its prediction. -/
def joinRows (predictions : List (PyText × FiniteFloat)) : List (PyText × PyText) → Except PyError (List EvaluationRow) :=
  List.mapM fun candidate =>
    match predictions.lookup candidate.1 with
    | some predicted => .ok ⟨candidate.1, candidate.2, predicted⟩
    | none => .error ⟨.keyError, candidate.1.display⟩

/-- The rows that are kept, each with its rank. -/
def ranking (config : EvaluationConfig) (rows : List EvaluationRow) : List (EvaluationRow × Nat) :=
  ((EvaluationRow.precedence config.direction).top config.topN.1.toNat rows).zipIdx 1

/-! ### The service -/

/-- `successful_output_event`. -/
def successfulOutputEvent (events : List LedgerEvent) (runId : Identifier) (toolName : String) (artifactId : ArtifactId)
    (requiredInputs : List ArtifactId) : Except PyError LedgerEvent :=
  let found := (RunLedger.forRun runId events).filter fun event =>
    event.eventType = .toolExecutionSucceeded ∧ event.toolName.map Identifier.text = some toolName ∧
      artifactId ∈ event.outputArtifactIds.ids ∧ ∀ item ∈ requiredInputs, item ∈ event.inputArtifactIds.ids
  match found.getLast? with
  | some event => .ok event
  | none => .error ⟨.br1Binding, "artifact " ++ artifactId.text ++ " is not a successful " ++ toolName ++
      " output in the current run"⟩

/-- `json_draft`. -/
def jsonDraft (value : PyValue) (schemaName : Identifier) : Except PyError ArtifactDraft := do
  let content ← value.canonicalBytes
  return ⟨content, "application/json", some schemaName, some ⟨"1", isIdentifier_one⟩⟩

structure EvaluationOutcome where
  topNDraft : ArtifactDraft
  reportDraft : ArtifactDraft
  summary : PyValue

namespace TopNEvaluationService
variable [Sha256]

def text (s : String) : PyValue := .str (PyText.ofString s)

def topNBody (candidateId predictionId : ArtifactId) (target : PyText) (configDigest : Digest)
    (ranked : List (EvaluationRow × Nat)) : PyValue :=
  .named [("schema_name", text "molly.br1.computational-top-n"), ("schema_version", text "1"),
    ("claim_boundary", text "COMPUTATIONAL_ONLY"), ("candidate_artifact_id", text candidateId.text),
    ("prediction_artifact_id", text predictionId.text), ("target_property", .str target),
    ("evaluation_config_digest", text configDigest.text), ("rows", .arr (ranked.map fun r => r.1.toDict r.2))]

def reportBody (candidateId predictionId : ArtifactId) (target : PyText) (configDigest : Digest) (count kept : Nat) : PyValue :=
  .named [("schema_name", text "molly.br1.evaluation-report"), ("schema_version", text "1"), ("status", text "SUCCEEDED"),
    ("candidate_artifact_id", text candidateId.text), ("prediction_artifact_id", text predictionId.text),
    ("evaluation_config_digest", text configDigest.text), ("target_property", .str target),
    ("candidate_count", .int count), ("top_n", .int kept), ("valid_count", .int count),
    ("claim_boundary", text "COMPUTATIONAL_ONLY")]

/-- `run`; the store reads an artifact's verified bytes. -/
def run [CaseText] (read : ArtifactId → Except PyError Bytes) (events : List LedgerEvent) (candidateId predictionId : ArtifactId)
    (topN : PyValue) (target : PyText) (direction : PyValue) (runId stepId : Identifier) : Except PyError EvaluationOutcome := do
  let _ ← successfulOutputEvent events runId "br1_generate_reinvent4" candidateId []
  let _ ← successfulOutputEvent events runId "br1_predict_unimol" predictionId [candidateId]
  let candidateBody ← packageObject "candidate package" (← read candidateId)
  let predictionBody ← packageObject "prediction package" (← read predictionId)
  let candidates ← candidateRows candidateBody
  let predictions ← predictionRows predictionBody
  let config ← EvaluationConfig.create topN direction
  ensure ((pyGet predictionBody "candidate_artifact_id" .null).equal (text candidateId.text))
    ⟨.br1Binding, "prediction package is not bound to the exact candidate artifact"⟩
  ensure ((pyGet predictionBody "target_property" .null).equal (.str target))
    ⟨.br1Binding, "prediction package target does not match evaluation target"⟩
  ensure (predictions.all (·.1 ∈ candidates.map Prod.fst) && candidates.all (·.1 ∈ predictions.map Prod.fst))
    ⟨.br1Binding, "prediction candidates do not exactly match generated candidates"⟩
  let rows ← joinRows predictions candidates
  let ranked := ranking config rows
  let configDigest ← config.digest
  let topNDraft ← jsonDraft (topNBody candidateId predictionId target configDigest ranked)
    ⟨"molly.br1.computational-top-n", by decide⟩
  let reportDraft ← jsonDraft (reportBody candidateId predictionId target configDigest rows.length ranked.length)
    ⟨"molly.br1.evaluation-report", by decide⟩
  let summary := .named [("status", text "EVALUATED"), ("candidate_artifact_id", text candidateId.text),
    ("prediction_artifact_id", text predictionId.text),
    ("top_n_artifact_id", text (ArtifactId.mk (sha256Bytes topNDraft.content)).text),
    ("evaluation_report_artifact_id", text (ArtifactId.mk (sha256Bytes reportDraft.content)).text),
    ("evaluation_config_digest", text configDigest.text), ("target_property", .str target),
    ("claim_boundary", text "COMPUTATIONAL_ONLY"), ("deterministic_for_fixed_inputs", .bool true),
    ("run_id", text runId.text), ("step_id", text stepId.text)]
  return ⟨topNDraft, reportDraft, summary⟩

end TopNEvaluationService
end Molly
