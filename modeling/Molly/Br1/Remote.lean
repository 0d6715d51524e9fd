import Molly.Acquisition.Split
import Molly.Br1.CsvFile
import Molly.Disk.Compute
import Molly.Effect.Shell

/-! The remote runner of the three scientific operations: the processes that it starts on this host, and the
one command that the remote shell reads of each. -/
namespace Molly
open Effect Effect.Shell

/-! ### The remote shell -/

/-- The characters that `shlex.quote` leaves bare. -/
def isSafe (p : CodePoint) : Bool :=
  (48 ≤ p.val && p.val ≤ 57) || (65 ≤ p.val && p.val ≤ 90) || (97 ≤ p.val && p.val ≤ 122) ||
    p.val ∈ [95, 64, 37, 43, 61, 58, 44, 46, 47, 45]

def endsWord (p : CodePoint) : Bool := p = 32 || p = 9

/-- The characters that stand for themselves between double quotation marks. -/
def isLiteral (p : CodePoint) : Bool := p.val ∉ [34, 36, 96, 92, 33]

theorem isSafe_word (p : CodePoint) (safe : isSafe p = true) : endsWord p = false ∧ p ≠ 39 ∧ p ≠ 34 := by
  have shown : p.val ≠ 32 ∧ p.val ≠ 9 ∧ p.val ≠ 39 ∧ p.val ≠ 34 := by
    simp only [isSafe, Bool.or_eq_true, Bool.and_eq_true, decide_eq_true_eq, List.mem_cons, List.not_mem_nil, or_false] at safe
    omega
  obtain ⟨space, tab, apostrophe, mark⟩ := shown
  have other {q : CodePoint} (apart : p.val ≠ q.val) : p ≠ q := fun same => apart (congrArg Fin.val same)
  simp [endsWord, other (q := 32) space, other (q := 9) tab, other (q := 39) apostrophe, other (q := 34) mark]

theorem apostrophe_solid : endsWord 39 = false := by decide
theorem mark_solid : endsWord 34 = false := by decide
theorem marks_apart : (39 : CodePoint) ≠ 34 := by decide
theorem apostrophe_literal : isLiteral 39 = true := by decide

/-- A POSIX shell, of which only arguments that mean nothing else are read. -/
def posix : Lexicon CodePoint where
  blank := endsWord
  plain := isSafe
  literal := isLiteral
  apostrophe := 39
  mark := 34
  plain_word := isSafe_word
  apostrophe_word := apostrophe_solid
  mark_word := mark_solid
  apart := marks_apart
  literal_apostrophe := apostrophe_literal

/-! ### The configuration -/

/-- `Br1RemoteError`. -/
def remoteError (message : String) : PyError := ⟨.br1Runtime, message⟩

/-- `_bounded_seconds`. -/
def boundedSeconds (constraints : PyFields) (name : String) (default minimum maximum : Nat) : Except PyError Nat :=
  let refused := remoteError (name ++ " must be an integer in [" ++ toString minimum ++ ", " ++ toString maximum ++ "]")
  match pyGet constraints name (.int default) with
  | .int n => if minimum ≤ n ∧ n ≤ maximum then .ok n.toNat else .error refused
  | _ => .error refused

def isConfigured (text : PyText) : Bool := text.strip ≠ [] && text.all fun p => p.val ∉ [0, 13, 10]

/-- `Br1RemoteHost`, with the two constraints that the commands use. -/
structure Br1RemoteHost where
  sshTarget : PyText
  remoteRoot : PyText
  unimolPython : PyText
  reinventPython : PyText
  reinventRepository : PyText
  walltimeSec : Nat
  connectTimeoutSec : Nat

/-- The constructor, on texts. -/
def Br1RemoteHost.create (sshTarget remoteRoot unimolPython reinventPython reinventRepository hostIdentity workerRef
    credentialRef : PyText) (constraints : PyFields) : Except PyError Br1RemoteHost := do
  [(sshTarget, "ssh_target"), (remoteRoot, "remote_root"), (unimolPython, "unimol_python"), (reinventPython, "reinvent_python"),
    (reinventRepository, "reinvent_repository"), (hostIdentity, "host_identity"), (workerRef, "worker_ref"),
    (credentialRef, "credential_ref")].forM fun setting =>
      ensure (isConfigured setting.1) ⟨.br1Runtime, setting.2 ++ " is not configured"⟩
  ensure ([remoteRoot, unimolPython, reinventPython, reinventRepository].all fun path => path.head? = some 47)
    ⟨.br1Runtime, "remote paths must be absolute server-owned paths"⟩
  let walltime ← boundedSeconds constraints "walltime_sec" 7200 60 604800
  let connect ← boundedSeconds constraints "connect_timeout_sec" 15 1 300
  return ⟨sshTarget, remoteRoot, unimolPython, reinventPython, reinventRepository, walltime, connect⟩

/-! ### Processes -/

/-- An output of an operation, and the file that holds it. -/
structure RemoteOutput where
  name : String
  file : String
  mediaType : String
  schemaName : String

/-- The constructor of an output. -/
def ComputeOutput.create (name : String) (content : Bytes) (mediaType : PyText) (schemaName schemaVersion : Option String) :
    Except PyError ComputeOutput := do
  let name ← validateIdentifier "output name" name
  ensure (mediaType.strip ≠ [] && mediaType.all fun p => p.val ∉ [13, 10, 0])
    ⟨.compute, "compute output media_type is invalid"⟩
  let schemaName ← schemaName.mapM (validateIdentifier "schema_name")
  let schemaVersion ← schemaVersion.mapM (validateIdentifier "schema_version")
  return ⟨name, content, mediaType.strip, schemaName, schemaVersion⟩

/-- The operations of the runner, each with its script. -/
inductive RemoteOperation where
  | train | generate | predict
  deriving DecidableEq

namespace RemoteOperation

def read (text : PyText) : Option RemoteOperation :=
  if text = PyText.ofString "br1_train_unimol" then some .train
  else if text = PyText.ofString "br1_generate_reinvent4" then some .generate
  else if text = PyText.ofString "br1_predict_unimol" then some .predict
  else none

def script : RemoteOperation → String
  | .train => "train.py"
  | .generate => "generate.py"
  | .predict => "predict.py"

/-- What is copied to the remote host behind the script. -/
def uploads : RemoteOperation → List String
  | .train => ["training-input.csv"]
  | .generate => []
  | .predict => ["model-package.tar.gz", "candidate-package.json"]

/-- What the script is told to read and write, in the order of its arguments. -/
def files : RemoteOperation → List String
  | .train => ["training-input.csv", "model", "model-package.tar.gz", "training-report.json"]
  | .generate => ["sampling.toml", "sampling.csv", "candidate-package.json", "generation-report.json"]
  | .predict =>
    ["model-package.tar.gz", "candidate-package.json", "prediction-model", "prediction-package.json", "prediction-report.json"]

/-- What is copied back first. -/
def package : RemoteOperation → RemoteOutput
  | .train => ⟨"model_package", "model-package.tar.gz", "application/gzip", "molly.br1.model-package"⟩
  | .generate => ⟨"candidate_package", "candidate-package.json", "application/json", "molly.br1.candidate-package"⟩
  | .predict => ⟨"prediction_package", "prediction-package.json", "application/json", "molly.br1.prediction-package"⟩

/-- What is copied back behind the package. -/
def report : RemoteOperation → RemoteOutput
  | .train => ⟨"training_report", "training-report.json", "application/json", "molly.br1.training-report"⟩
  | .generate => ⟨"generation_report", "generation-report.json", "application/json", "molly.br1.generation-report"⟩
  | .predict => ⟨"prediction_report", "prediction-report.json", "application/json", "molly.br1.prediction-report"⟩

end RemoteOperation

/-- How a child process ends for `_run_checked`: with status zero, with another status or beyond its time, or not
at all, because its arguments start no process. -/
inductive ProcessEnd where
  | done
  | failed
  | refused (error : PyError)

/-- What the runner asks of this host: processes, its working directory, and the store. -/
inductive RemoteOp where
  | start (argv : List PyText) (timeoutSec : Nat)
  | writeScript (operation : RemoteOperation)
  | writeFile (name : String) (content : Bytes)
  | readFile (name : String)
  | read (artifactId : PyText)
  | verify (artifactId : PyText)

def RemoteOp.Reply : RemoteOp → Type
  | .start _ _ => ProcessEnd
  | .writeScript _ | .writeFile _ _ | .verify _ => Except PyError Unit
  | .readFile _ | .read _ => Except PyError Bytes

def remoteOps : Signature := ⟨RemoteOp, RemoteOp.Reply⟩

abbrev Remote (α : Type) : Type := Task remoteOps Unit PyError α

namespace Remote

/-- `_run_checked`. -/
def start (argv : List PyText) (operation : String) (timeoutSec : Nat) : Remote Unit := do
  match ← Task.ask (S := remoteOps) (.start argv timeoutSec) with
  | .done => return ()
  | .failed => throw (remoteError ("server-owned " ++ operation ++ " failed"))
  | .refused error => throw error

def writeScript (operation : RemoteOperation) : Remote Unit := do
  Task.ofExcept (← Task.ask (S := remoteOps) (.writeScript operation))

def writeFile (name : String) (content : Bytes) : Remote Unit := do
  Task.ofExcept (← Task.ask (S := remoteOps) (.writeFile name content))

def readFile (name : String) : Remote Bytes := do Task.ofExcept (← Task.ask (S := remoteOps) (.readFile name))
def read (artifactId : PyText) : Remote Bytes := do Task.ofExcept (← Task.ask (S := remoteOps) (.read artifactId))
def verify (artifactId : PyText) : Remote Unit := do Task.ofExcept (← Task.ask (S := remoteOps) (.verify artifactId))

end Remote

/-! ### Command lines -/

def remoteKillGraceSec : Nat := 30

/-- `_render_remote_command`. -/
def renderRemoteCommand (command : List PyText) (walltimeSec : Nat) : PyText :=
  PyText.ofString "timeout --signal=TERM --kill-after=" ++ PyText.ofString (toString remoteKillGraceSec) ++ PyText.ofString "s " ++
    posix.quote (PyText.ofString (toString walltimeSec)) ++ PyText.ofString "s " ++ posix.join 32 command

/-- `_remote_child`. -/
def remoteChild (root : PyText) (name : String) : PyText :=
  (root.reverse.dropWhile (· = 47)).reverse ++ 47 :: PyText.ofString name

/-- `workdir / name`, of a directory that is not the root. -/
def localFile (workdir : PyText) (name : String) : PyText := workdir ++ 47 :: PyText.ofString name

namespace Br1RemoteHost
variable (host : Br1RemoteHost)

/-- `_subprocess_timeout_sec`. -/
def subprocessTimeoutSec : Nat := host.walltimeSec + host.connectTimeoutSec + remoteKillGraceSec + 5

/-- `_connection_options`. -/
def connectionOptions : List PyText :=
  ["-o", "BatchMode=yes", "-o", "RequestTTY=no", "-o", "ConnectTimeout=" ++ toString host.connectTimeoutSec, "-o",
    "ConnectionAttempts=1", "-o", "ServerAliveInterval=15", "-o", "ServerAliveCountMax=3"].map PyText.ofString

def sshArgv (command : List PyText) : List PyText :=
  PyText.ofString "ssh" :: PyText.ofString "-T" :: host.connectionOptions ++
    [host.sshTarget, PyText.ofString "--", renderRemoteCommand command host.walltimeSec]

/-- A path of the remote host, as `scp` takes it. -/
def remotePath (path : PyText) : PyText := host.sshTarget ++ 58 :: path

def scpArgv (source target : PyText) : List PyText := PyText.ofString "scp" :: host.connectionOptions ++ [source, target]

/-- `_ssh`. -/
def ssh (command : List PyText) : Remote Unit := Remote.start (host.sshArgv command) "remote command" host.subprocessTimeoutSec

/-- `_scp`. -/
def scp (source target : PyText) : Remote Unit :=
  Remote.start (host.scpArgv source (host.remotePath target)) "artifact transfer" host.subprocessTimeoutSec

/-- `_scp_from_remote`. -/
def scpFromRemote (source target : PyText) : Remote Unit :=
  Remote.start (host.scpArgv (host.remotePath source) target) "artifact download" host.subprocessTimeoutSec

def interpreter : RemoteOperation → PyText
  | .train | .predict => host.unimolPython
  | .generate => host.reinventPython

end Br1RemoteHost

/-! ### The runner -/

section
variable [Sha256] [PrintableText]

/-- A value as a CSV writer takes it for a cell. -/
def Csv.cellOf : PyValue → PyText
  | .null => []
  | value => value.toText

/-- The columns of the training file. -/
def trainingColumns (stage : PyFields) : Except PyError (PyText × PyText) :=
  let malformed := remoteError "training column parameters are malformed"
  match pyGet stage "smiles_col" .null, pyGet stage "target_cols" .null with
  | .str smiles, .arr [.str target] =>
    if smiles.strip ≠ [] ∧ target.strip ≠ [] ∧ (smiles ++ target).all (fun p => p ≠ 13 && p ≠ 10) then .ok (smiles, target)
    else .error malformed
  | _, _ => .error malformed

/-- A row of the training file; where the columns have one name, both cells are the target. -/
def trainingRow (columns : PyText × PyText) : PyValue → Except PyError (List PyText)
  | .obj row => do
    let smiles ← pyItem row "smiles"
    let target ← pyItem row "target_value"
    return [Csv.cellOf (if columns.1 = columns.2 then target else smiles), Csv.cellOf target]
  | _ => throw (remoteError "training dataset row is malformed")

/-- The rows of the dataset, which the store holds as JSON. -/
def trainingRows (content : Bytes) : Except PyError (List PyValue) :=
  let invalid := remoteError "training dataset is not valid JSON"
  let none := remoteError "training dataset has no rows"
  match decodeUtf8 content with
  | .none => .error invalid
  | some text =>
    match loads text with
    | .error .decode => .error invalid
    | .error .digits => .error ⟨.valueError, "Exceeds the limit for integer string conversion"⟩
    | .ok (.obj dataset) =>
      match pyGet dataset "rows" .null with
      | .arr (row :: rows) => .ok (row :: rows)
      | _ => .error none
    | .ok _ => .error none

/-- A line of the training file, which ends in `\r\n`. -/
def trainingLine (texts : List PyText) : Except PyError Bytes := (Csv.row ⟨true, true⟩ texts).encodeUtf8

def trainingFile (content : Bytes) (stage : PyFields) : Except PyError Bytes := do
  let rows ← trainingRows content
  let columns ← trainingColumns stage
  let header ← trainingLine [columns.1, columns.2]
  let lines ← rows.mapM fun row => do trainingLine (← trainingRow columns row)
  return header ++ lines.flatten

/-- A task as the runner reads it. -/
structure RemoteTask where
  fields : PyFields
  digest : Digest
  inputIds : List PyText
  parameters : PyFields
  stage : PyFields
  /-- The parameters of the stage as JSON text. -/
  serialized : PyText

/-- A mapping, or the error for any other value. -/
def PyValue.mappingOr (error : PyError) : PyValue → Except PyError PyFields
  | .obj fields => .ok fields
  | _ => .error error

namespace RemoteTask

/-- What is read of a task when its directory is there. -/
def read (fields : PyFields) (digest : Digest) : Except PyError RemoteTask := do
  let ids ← (pyGet fields "input_artifact_ids" (.arr [])).iterate
  let parameters ← (pyGet fields "parameters" .null).mappingOr (remoteError "BR1 task parameters are malformed")
  let stage ← (pyGet parameters "parameters" (.obj [])).mappingOr (remoteError "BR1 stage parameters are malformed")
  ensure (PyValue.obj stage).fits (remoteError "BR1 stage parameters are not JSON serializable")
  return ⟨fields, digest, ids.map PyValue.toText, parameters, stage, (PyValue.obj stage).canon.dumps.map CodePoint.ofChar⟩

variable (task : RemoteTask)

/-- `str(task[key])`. -/
def field (key : String) : Except PyError PyText := PyValue.toText <$> pyItem task.fields key

/-- `str(parameters[key])`. -/
def parameter (key : String) : Except PyError PyText := PyValue.toText <$> pyItem task.parameters key

/-- The arguments of a script that name no file, in the order in which they are read and passed. -/
def data : RemoteOperation → Except PyError (List PyText)
  | .train => do
    let named ← ["config_digest", "run_id", "step_id"].mapM task.field
    let chosen ← ["target_property", "seed", "model_name", "model_size"].mapM task.parameter
    return task.inputIds ++ named ++ chosen ++ [task.serialized]
  | .generate => do
    let named ← ["config_digest", "run_id", "step_id"].mapM task.field
    let chosen ← ["candidate_count", "seed"].mapM task.parameter
    return task.inputIds ++ named ++ chosen ++ [PyText.ofString task.digest.text, task.serialized]
  | .predict => do
    let config ← task.field "config_digest"
    let target ← task.parameter "target_property"
    let named ← ["run_id", "step_id"].mapM task.field
    return task.inputIds ++ [config, target] ++ named ++ [task.serialized]

end RemoteTask

/-- What the inputs of an operation are, and the files that are made of them before the script is copied. -/
def prepareInputs (operation : RemoteOperation) (task : RemoteTask) : Remote Unit :=
  match operation, task.inputIds with
  | .train, [dataset] => do
    let content ← Remote.read dataset
    let file ← Task.ofExcept (trainingFile content task.stage)
    Remote.writeFile "training-input.csv" file
  | .generate, [model] => Remote.verify model
  | .predict, [model, candidates] => do
    Remote.writeFile "model-package.tar.gz" (← Remote.read model)
    Remote.writeFile "candidate-package.json" (← Remote.read candidates)
  | .train, _ => throw (remoteError "training task has the wrong input count")
  | .generate, _ => throw (remoteError "generation task has the wrong input count")
  | .predict, _ => throw (remoteError "prediction task has the wrong input count")

namespace Br1RemoteHost
variable (host : Br1RemoteHost) (workdir : PyText)

/-- The directory of a task on the remote host. -/
def remoteDir (digest : Digest) : PyText := remoteChild host.remoteRoot ("molly-br1-" ++ String.ofList (digest.text.toList.take 32))

/-- What the generation script is told before its files. -/
def software : RemoteOperation → List PyText
  | .train | .predict => []
  | .generate => [host.reinventRepository, host.reinventPython]

/-- The command that runs a script on the remote host. -/
def scriptCommand (operation : RemoteOperation) (task : RemoteTask) : Except PyError (List PyText) := do
  let dir := host.remoteDir task.digest
  let data ← task.data operation
  return host.interpreter operation :: remoteChild dir operation.script :: host.software operation ++
    operation.files.map (remoteChild dir) ++ data

def upload (dir : PyText) (name : String) : Remote Unit := host.scp (localFile workdir name) (remoteChild dir name)

/-- `_upload_script`. -/
def uploadScript (dir : PyText) (operation : RemoteOperation) : Remote Unit := do
  Remote.writeScript operation
  host.upload workdir dir operation.script

/-- `_fetch`. -/
def fetch (dir : PyText) (name : String) : Remote Bytes := do
  host.scpFromRemote (remoteChild dir name) (localFile workdir name)
  Remote.readFile name

def collect (dir : PyText) (o : RemoteOutput) : Remote ComputeOutput := do
  let content ← host.fetch workdir dir o.file
  Task.ofExcept (ComputeOutput.create o.name content (PyText.ofString o.mediaType) (some o.schemaName) (some "1"))

/-- The operation of a task: `str(task.get("operation") or "")`. -/
def operationOf (fields : PyFields) : Option RemoteOperation :=
  let given := pyGet fields "operation" .null
  RemoteOperation.read (if given.truthy then given.toText else [])

/-- `ServerOwnedBr1RemoteRunner.__call__`. -/
def call (fields : PyFields) : Remote (List ComputeOutput) := do
  match operationOf fields with
  | none => throw (remoteError "unknown BR1 remote operation")
  | some operation =>
    let digest ← Task.ofExcept (sha256Bytes <$> (PyValue.obj fields).canonicalBytes)
    let dir := host.remoteDir digest
    host.ssh [PyText.ofString "mkdir", PyText.ofString "-p", dir]
    let task ← Task.ofExcept (RemoteTask.read fields digest)
    prepareInputs operation task
    host.uploadScript workdir dir operation
    forM operation.uploads (host.upload workdir dir)
    host.ssh (← Task.ofExcept (host.scriptCommand operation task))
    let package ← host.collect workdir dir operation.package
    let report ← host.collect workdir dir operation.report
    return [package, report]

/-! ### What is started -/

end Br1RemoteHost
end

/-- The requests that start no process. -/
def RemoteOp.Quiet : RemoteOp → Prop
  | .start _ _ => False
  | _ => True

theorem read_quiet {artifactId : PyText} : (Remote.read artifactId).Only RemoteOp.Quiet :=
  Task.only_bind (Task.only_ask trivial) fun _ => Task.only_ofExcept _

theorem verify_quiet {artifactId : PyText} : (Remote.verify artifactId).Only RemoteOp.Quiet :=
  Task.only_bind (Task.only_ask trivial) fun _ => Task.only_ofExcept _

section
variable {plan before rest : List (List PyText)} {memory : Unit}

end

section
variable (host : Br1RemoteHost) (workdir dir : PyText) {plan before rest : List (List PyText)} {memory : Unit}

end

section
variable [Sha256] [PrintableText] (host : Br1RemoteHost) (workdir : PyText) {fields : PyFields}

end

/-! ### A run -/

namespace Sample
open Effect

attribute [local instance] standardSha256 asciiPrintable

end Sample
end Molly
