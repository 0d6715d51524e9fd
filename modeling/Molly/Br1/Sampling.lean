import Molly.Br1.Intent
import Molly.Oled.Floats

/-! The sampling script of the inverse design workflow: it runs the sampler until there are as many
molecules as were asked for, or until the attempts are used up. -/
namespace Molly

/-- The canonical SMILES of the molecule that a text draws, if it draws one. -/
class Chemistry where
  canonical : PyText → Option String

namespace GenerationScript

/-! ### The script -/

/-- How the script ends early: an error that it raises itself, a sampler that exits with a status, or
an error of what it calls. -/
inductive ScriptError where
  | runtime (message : String)
  | calledProcess
  | raised (error : PyError)
  deriving DecidableEq

/-- One row of a sampling file: its cells under the headers that are read. -/
structure SampleRow where
  smiles : Option PyText
  smilesState : Option PyText
  nll : Option PyText

/-- What a run of the sampler leaves: an exit status, no file, or a file that is read row by row, up to
its end or up to a fault in it. -/
inductive SamplerOutput where
  | failed
  | missing
  | sampled (rows : List SampleRow) (fault : Option PyError)

structure SamplerRun where
  seed : Int
  batchSize : Nat

structure Candidate where
  candidateId : String
  smiles : PyText
  smilesState : PyText
  nll : Option PyFloat

/-- What the script is called with, apart from its paths. -/
structure SamplingArguments where
  modelArtifactId : String
  configDigest : String
  runId : String
  stepId : String
  candidateCount : Nat
  seed : BoundedInt 0 (2 ^ 63 - 1)
  taskDigest : String
  parameters : PyValue
  /-- The server has the prior that the parameters name. -/
  priorAvailable : Bool

/-- The molecules written, and what the report counts. -/
structure Generated where
  rows : List Candidate
  attempts : Nat
  samples : Nat

/-- The sampler runs that were started, and how the script ended. -/
structure Outcome where
  runs : List SamplerRun
  result : Except ScriptError Generated

def maxAttempts : Nat := 8

def requireThat (holds : Bool) (message : String) : Except ScriptError Unit :=
  if holds then .ok () else .error (.runtime message)

def expectedParameters : List String := ["unique_molecules", "randomize_smiles", "temperature", "device", "prior_model_ref"]

def isBool : PyValue → Bool
  | .bool _ => true
  | _ => false

/-- The checks of the generation parameters, in their order. -/
def checkParameters : PyValue → Except ScriptError Unit
  | .obj fields => do
    requireThat (!hasUnknown fields expectedParameters && expectedParameters.all fun key => (fields.lookup (PyText.ofString key)).isSome)
      "generation parameters are not the server-owned supported set"
    requireThat (isBool (pyGet fields "unique_molecules" .null) && isBool (pyGet fields "randomize_smiles" .null))
      "generation boolean parameters are malformed"
    match pyGet fields "temperature" .null with
    | .float _ => pure ()
    | .int n =>
      match (PyNumber.int n).toFloat with
      | .ok _ => pure ()
      | .error e => .error (.raised e)
    | _ => .error (.runtime "generation temperature is malformed")
    match pyGet fields "device" .null with
    | .str device => requireThat (device.strip ≠ []) "generation device is malformed"
    | _ => .error (.runtime "generation device is malformed")
    requireThat ((pyGet fields "prior_model_ref" .null).equal (.str (PyText.ofString "reinvent.prior")))
      "generation prior reference is not server-owned"
  | _ => .error (.runtime "generation parameters are not the server-owned supported set")

namespace SampleRow

/-- `str(row.get("SMILES") or "").strip()`. -/
def text (row : SampleRow) : PyText := (row.smiles.getD []).strip

/-- The canonical SMILES of a row; an empty cell is not parsed. -/
def molecule [Chemistry] (row : SampleRow) : Option String := if row.text = [] then none else Chemistry.canonical row.text

def nllValue [DecimalText] (row : SampleRow) : Except PyError (Option PyFloat) :=
  match row.nll with
  | none => .ok none
  | some [] => .ok none
  | some text => some <$> (PyValue.str text).toFloat

end SampleRow

def label (taskDigest : String) (index : Nat) (canonical : String) : String :=
  taskDigest ++ ":" ++ toString index ++ ":" ++ canonical

section
variable [Sha256] [DecimalText] [Chemistry]

/-- The first 24 hexadecimal digits of the hash of a text. -/
def shortHash (text : String) : String :=
  String.ofList ((sha256Bytes (text.toList.flatMap String.utf8EncodeChar)).text.toList.take 24)

def candidateId (taskDigest : String) (index : Nat) (canonical : String) : String :=
  "candidate_" ++ shortHash (label taskDigest index canonical)

/-- The molecules found so far, each under its canonical SMILES, and the rows read. -/
structure Progress where
  unique : List (String × Candidate)
  samples : Nat

/-- The molecule that a row adds, if it adds one. -/
def readRow (taskDigest : String) (unique : List (String × Candidate)) (row : SampleRow) :
    Except PyError (Option (String × Candidate)) :=
  match row.molecule with
  | none => .ok none
  | some canonical =>
    if canonical ∈ unique.map Prod.fst then .ok none
    else do
      let nll ← row.nllValue
      let smilesState := (row.smilesState.bind PyText.orNone).getD (PyText.ofString "VALID")
      return some (canonical, ⟨candidateId taskDigest (unique.length + 1) canonical, row.text, smilesState, nll⟩)

/-- The rows of one file, until there are enough molecules. -/
def readRows (taskDigest : String) (count : Nat) : List SampleRow → Option PyError → Progress → Except PyError Progress
  | [], none, p => .ok p
  | [], some fault, _ => .error fault
  | row :: rows, fault, p =>
    match readRow taskDigest p.unique row with
    | .error e => .error e
    | .ok none => readRows taskDigest count rows fault { p with samples := p.samples + 1 }
    | .ok (some entry) =>
      let found : Progress := ⟨p.unique ++ [entry], p.samples + 1⟩
      if count ≤ found.unique.length then .ok found else readRows taskDigest count rows fault found

/-- What the script makes of one run of the sampler. -/
def readOutput (taskDigest : String) (count : Nat) (p : Progress) : SamplerOutput → Except ScriptError Progress
  | .failed => .error .calledProcess
  | .missing => .error (.runtime "REINVENT4 did not produce a sampling CSV")
  | .sampled rows fault =>
    match readRows taskDigest count rows fault p with
    | .ok found => .ok found
    | .error e => .error (.raised e)

def finish (count : Nat) (attempts : Nat) (p : Progress) : Except ScriptError Generated :=
  if p.unique.length < count then
    .error (.runtime ("REINVENT4 produced only " ++ toString p.unique.length ++ " valid unique molecules; requested " ++
      toString count))
  else .ok ⟨(p.unique.map Prod.snd).take count, attempts, p.samples⟩

/-- The attempts: `outputs i` is what the sampler leaves in the attempt after `i` others. A batch is
`max(needed, int(needed * 1.25) + 8)`, whose product is exact for every count up to `2 ^ 50`. -/
def sample (a : SamplingArguments) (outputs : Nat → SamplerOutput) (attempts : Nat) (runs : List SamplerRun) (p : Progress) : Outcome :=
  if p.unique.length < a.candidateCount ∧ attempts < maxAttempts then
    let needed := a.candidateCount - p.unique.length
    let started := runs ++ [⟨a.seed.1 + (attempts + 1 : Nat) - 1, max needed (needed * 5 / 4 + 8)⟩]
    match readOutput a.taskDigest a.candidateCount p (outputs attempts) with
    | .error e => ⟨started, .error e⟩
    | .ok found => sample a outputs (attempts + 1) started found
  else ⟨runs, finish a.candidateCount attempts p⟩
termination_by maxAttempts - attempts

def ready (a : SamplingArguments) : Except ScriptError Unit := do
  checkParameters a.parameters
  requireThat a.priorAvailable "server-owned REINVENT4 prior is unavailable"

/-- The script. -/
def main (a : SamplingArguments) (outputs : Nat → SamplerOutput) : Outcome :=
  match ready a with
  | .error e => ⟨[], .error e⟩
  | .ok () => sample a outputs 0 [] ⟨[], 0⟩

end

def Candidate.toValue (c : Candidate) : PyValue :=
  .named [("candidate_id", .str (PyText.ofString c.candidateId)), ("smiles", .str c.smiles),
    ("reinvent_smiles_state", .str c.smilesState), ("nll", (c.nll.map PyFloat.toValue).getD .null)]

/-- The candidate package that is written. -/
def Generated.package (a : SamplingArguments) (g : Generated) : PyValue :=
  let text s := PyValue.str (PyText.ofString s)
  .named [("schema_name", text "molly.br1.candidate-package"), ("schema_version", text "1"),
    ("claim_boundary", text "COMPUTATIONAL_ONLY"), ("runtime_kind", text "reinvent4"),
    ("model_artifact_id", text a.modelArtifactId), ("generation_config_digest", text a.configDigest),
    ("run_id", text a.runId), ("step_id", text a.stepId), ("fresh_generation", .bool true), ("historical_reuse", .bool false),
    ("rows", .arr (g.rows.map Candidate.toValue))]

end GenerationScript

end Molly
