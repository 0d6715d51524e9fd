import Molly.Br1.Dataset
import Molly.File.Persisted

/-! The intent of an inverse design run: the bounded fields that a provider extracted from the goal,
the dict that the ledger keeps of them, and its reader. -/
namespace Molly
open Effect (chars_eq)

/-- A number in the range that `_bounded_int` checks. -/
abbrev BoundedInt (minimum maximum : Int) := { n : Int // minimum ≤ n ∧ n ≤ maximum }

/-- `_bounded_int`. -/
def boundedInt (field : String) (minimum maximum : Int) (value : PyValue) : Except PyError (BoundedInt minimum maximum) :=
  let fault : PyError :=
    ⟨.br1, field ++ " must be an integer in [" ++ toString minimum ++ ", " ++ toString maximum ++ "]"⟩
  match value with
  | .int n => if within : minimum ≤ n ∧ n ≤ maximum then .ok ⟨n, within⟩ else .error fault
  | _ => .error fault

/-- `_nonempty_identifier`. -/
def nonemptyIdentifier (field : String) : PyValue → Except PyError Identifier
  | .str text =>
    if text.strip = [] then .error ⟨.br1, field ++ " is required"⟩
    else validateIdentifier field text.strip.display
  | _ => .error ⟨.br1, field ++ " is required"⟩

/-- A profile reference, as it was written. -/
structure ProfileRef where
  text : PyText
  valid : referenceFault text.display = none

def ProfileRef.of (field : String) (text : PyText) : Except PyError ProfileRef :=
  match fault : referenceFault text.display with
  | some (cls, words) => .error ⟨cls, field ++ words⟩
  | none => .ok ⟨text, fault⟩

/-- `_profile_ref`. -/
def profileRef (field : String) : PyValue → Except PyError ProfileRef
  | .str text =>
    if text.strip = [] then .error ⟨.br1, field ++ " is required"⟩
    else ProfileRef.of field text.strip
  | _ => .error ⟨.br1, field ++ " is required"⟩

inductive RunDirection where
  | min | max
  deriving DecidableEq

def RunDirection.value : RunDirection → String
  | .min => "MIN"
  | .max => "MAX"

inductive HostPreference where
  | auto | local | workstation1 | workstation2
  deriving DecidableEq

def HostPreference.value : HostPreference → String
  | .auto => "auto"
  | .local => "local"
  | .workstation1 => "workstation1"
  | .workstation2 => "workstation2"

inductive SourceFormat where
  | auto | oe62Json | csv | json
  deriving DecidableEq

def SourceFormat.value : SourceFormat → String
  | .auto => "auto"
  | .oe62Json => "oe62_json"
  | .csv => "csv"
  | .json => "json"

/-- The member of an enumeration that a normalized text spells. -/
def choiceOf (value : α → String) (members : List α) (fault : PyError) (normal : PyText → PyText) :
    PyValue → Except PyError α
  | .str text =>
    match members.find? fun m => PyText.ofString (value m) = normal text with
    | some m => .ok m
    | none => .error fault
  | _ => .error fault

structure Br1RunSpec where
  targetProperty : Identifier
  direction : RunDirection
  candidateCount : BoundedInt 1 1024
  topN : BoundedInt 1 1024
  seed : BoundedInt 0 (2 ^ 63 - 1)
  hostPreference : HostPreference
  cpuThreads : BoundedInt 1 256
  gpuCount : BoundedInt 0 8
  walltimeSec : BoundedInt 60 604800
  llmProfileRef : Option ProfileRef
  sourceFormat : SourceFormat
  ranked : topN.1 ≤ candidateCount.1

namespace Br1RunSpec

section
variable [CaseText]

def directionOf : PyValue → Except PyError RunDirection :=
  choiceOf RunDirection.value [.min, .max] ⟨.br1, "BR1 run direction must be MIN or MAX"⟩ fun text => text.strip.upper

/-- The one scaffold constraint is that there is none. -/
def checkScaffold : PyValue → Except PyError Unit
  | .str text => do
    ensure (text.strip ≠ []) ⟨.br1, "scaffold_constraint is required"⟩
    ensure (text.strip.upper ∈ [PyText.ofString "NONE", PyText.ofString "UNRESTRICTED"])
      ⟨.br1, "only an unrestricted scaffold constraint is enabled by BR1"⟩
  | _ => .error ⟨.br1, "scaffold_constraint is required"⟩

def hostOf : PyValue → Except PyError HostPreference :=
  choiceOf HostPreference.value [.auto, .local, .workstation1, .workstation2]
    ⟨.br1, "host_preference must be auto, local, or a registered workstation"⟩ fun text => text.strip.casefold

def profileOf : PyValue → Except PyError (Option ProfileRef)
  | .null => .ok none
  | value => some <$> profileRef "llm_profile_ref" value

def formatOf : PyValue → Except PyError SourceFormat :=
  choiceOf SourceFormat.value [.auto, .oe62Json, .csv, .json] ⟨.br1, "source_format is not supported"⟩
    fun text => text.strip.casefold

/-- The constructor. -/
def create (targetProperty direction candidateCount topN scaffold seed host cpuThreads gpuCount walltime profile
    format : PyValue) : Except PyError Br1RunSpec := do
  let target ← nonemptyIdentifier "target_property" targetProperty
  let direction ← directionOf direction
  let candidates ← boundedInt "candidate_count" 1 1024 candidateCount
  let top ← boundedInt "top_n" 1 1024 topN
  if ranked : top.1 ≤ candidates.1 then
    checkScaffold scaffold
    let seed ← boundedInt "seed" 0 (2 ^ 63 - 1) seed
    let host ← hostOf host
    let threads ← boundedInt "cpu_threads" 1 256 cpuThreads
    let gpus ← boundedInt "gpu_count" 0 8 gpuCount
    let walltime ← boundedInt "walltime_sec" 60 604800 walltime
    let profile ← profileOf profile
    let format ← formatOf format
    return ⟨target, direction, candidates, top, seed, host, threads, gpus, walltime, profile, format, ranked⟩
  else throw ⟨.br1, "top_n cannot exceed candidate_count"⟩

def fieldNames : List String :=
  ["target_property", "direction", "candidate_count", "top_n", "scaffold_constraint", "seed", "host_preference",
    "cpu_threads", "gpu_count", "walltime_sec", "llm_profile_ref", "source_format"]

/-- `spec_values`: the fields of a persisted spec without the two of its schema. -/
def keywords (raw : PyFields) : PyFields :=
  raw.filter fun f => !(["schema_name", "schema_version"].map PyText.ofString).contains f.1

/-- `Br1RunSpec(**values)`, with the defaults of the fields. -/
def ofKeywords (values : PyFields) : Except PyError Br1RunSpec :=
  let field key default := pyGet values key default
  if hasUnknown values fieldNames then
    .error ⟨.typeError, "Br1RunSpec.__init__() got an unexpected keyword argument"⟩
  else if (values.lookup (PyText.ofString "target_property")).isNone then
    .error ⟨.typeError, "Br1RunSpec.__init__() missing 1 required positional argument: 'target_property'"⟩
  else create (field "target_property" .null) (field "direction" (.str (PyText.ofString "MIN")))
    (field "candidate_count" (.int 1000)) (field "top_n" (.int 5))
    (field "scaffold_constraint" (.str (PyText.ofString "NONE"))) (field "seed" (.int 42))
    (field "host_preference" (.str (PyText.ofString "auto"))) (field "cpu_threads" (.int 8)) (field "gpu_count" (.int 1))
    (field "walltime_sec" (.int 7200)) (field "llm_profile_ref" .null)
    (field "source_format" (.str (PyText.ofString "auto")))

end

/-- The fields of `to_dict` apart from its schema. -/
def fields (s : Br1RunSpec) : List (String × PyValue) :=
  [("target_property", .str s.targetProperty.pyText), ("direction", .str (PyText.ofString s.direction.value)),
    ("candidate_count", .int s.candidateCount.1), ("top_n", .int s.topN.1),
    ("scaffold_constraint", .str (PyText.ofString "NONE")), ("seed", .int s.seed.1),
    ("host_preference", .str (PyText.ofString s.hostPreference.value)), ("cpu_threads", .int s.cpuThreads.1),
    ("gpu_count", .int s.gpuCount.1), ("walltime_sec", .int s.walltimeSec.1),
    ("llm_profile_ref", pyTextOrNull (s.llmProfileRef.map ProfileRef.text)),
    ("source_format", .str (PyText.ofString s.sourceFormat.value))]

def entries (s : Br1RunSpec) : List (String × PyValue) :=
  ("schema_name", .str (PyText.ofString "molly.br1.run-spec")) :: ("schema_version", .str (PyText.ofString "1")) :: s.fields

def toDict (s : Br1RunSpec) : PyValue := .named s.entries

/-- A spec has texts and bounded numbers only, whose canonical bytes are always defined. -/
def digest [Sha256] (s : Br1RunSpec) : Digest := sha256Bytes s.toDict.encode

end Br1RunSpec

/-- The texts of an annotation. -/
def annotationOf (field : String) (items : List PyValue) : Except PyError { texts : List PyText // ∀ t ∈ texts, t ≠ [] } :=
  match items with
  | [] => .ok ⟨[], by simp⟩
  | .str t :: rest =>
    if filled : t ≠ [] then do
      let texts ← annotationOf field rest
      return ⟨t :: texts.1, List.forall_mem_cons.mpr ⟨filled, texts.2⟩⟩
    else .error ⟨.br1, "BR1 intent " ++ field ++ " must contain text values"⟩
  | _ => .error ⟨.br1, "BR1 intent " ++ field ++ " must contain text values"⟩

structure Br1Intent where
  spec : Br1RunSpec
  matchedFields : List PyText
  warnings : List PyText
  matched : ∀ t ∈ matchedFields, t ≠ []
  warned : ∀ t ∈ warnings, t ≠ []

/-- `except Exception as exc: raise Br1Error(message) from exc`. -/
def asBr1 (value : Except PyError α) (message : String) : Except PyError α :=
  match value with
  | .ok a => .ok a
  | .error _ => .error ⟨.br1, message⟩

theorem asBr1_eq_ok {value : Except PyError α} {a : α} {message : String} : asBr1 value message = .ok a ↔ value = .ok a := by
  cases value <;> simp [asBr1]

namespace Br1Intent

def listed (texts : List PyText) : PyValue := .arr (texts.map .str)

section
variable [Sha256]

/-- `_digest_payload`. -/
def payload (i : Br1Intent) : List (String × PyValue) :=
  [("schema_name", .str (PyText.ofString "molly.br1.intent")), ("schema_version", .str (PyText.ofString "1")),
    ("spec", i.spec.toDict), ("spec_digest", .str (PyText.ofString i.spec.digest.text)),
    ("matched_fields", listed i.matchedFields), ("warnings", listed i.warnings)]

def digest (i : Br1Intent) : Digest := sha256Bytes (PyValue.named i.payload).encode

def entries (i : Br1Intent) : List (String × PyValue) :=
  i.payload ++ [("intent_digest", .str (PyText.ofString i.digest.text))]

def toDict (i : Br1Intent) : PyValue := .named i.entries

variable [CaseText] [PrintableText]

/-- The constructor. -/
def create (spec : Br1RunSpec) (matched warnings : List PyValue) : Except PyError Br1Intent := do
  let matched ← annotationOf "matched_fields" matched
  let warnings ← annotationOf "warnings" warnings
  return ⟨spec, matched.1, warnings.1, matched.2, warnings.2⟩

/-- The spec of a persisted intent, with the digest it names. -/
def specOf (value raw : PyFields) : Except PyError (Br1RunSpec × Digest) := do
  ensure (DatasetGate.states raw "schema_name" "molly.br1.run-spec")
    ⟨.br1, "persisted BR1 intent spec schema is unsupported"⟩
  ensure (DatasetGate.states raw "schema_version" "1") ⟨.br1, "persisted BR1 intent spec version is unsupported"⟩
  let spec ← Br1RunSpec.ofKeywords (Br1RunSpec.keywords raw)
  let digest ← validateDigestReference "BR1 intent spec digest" (pyGet value "spec_digest" (.str [])).toText.display
  return (spec, digest)

/-- `value.get(key, ())`, a list. -/
def annotations (value : PyFields) (key : String) : Except PyError (List PyValue) :=
  match pyGet value key (.arr []) with
  | .arr items => .ok items
  | _ => .error ⟨.br1, "persisted BR1 intent annotations are malformed"⟩

/-- The intent of a spec and annotations, with the digest it names. -/
def intentOf (value : PyFields) (spec : Br1RunSpec) (matched warnings : List PyValue) :
    Except PyError (Br1Intent × Digest) := do
  let intent ← create spec matched warnings
  let digest ← validateDigestReference "BR1 intent digest" (pyGet value "intent_digest" (.str [])).toText.display
  return (intent, digest)

/-- `from_dict`. -/
def fromDict : PyValue → Except PyError Br1Intent
  | .obj value => do
    ensure (DatasetGate.states value "schema_name" "molly.br1.intent") ⟨.br1, "persisted BR1 intent schema is unsupported"⟩
    ensure (DatasetGate.states value "schema_version" "1") ⟨.br1, "persisted BR1 intent version is unsupported"⟩
    match pyGet value "spec" .null with
    | .obj raw =>
      let (spec, specDigest) ← asBr1 (specOf value raw) "persisted BR1 intent spec is malformed"
      ensure (spec.digest = specDigest) ⟨.br1, "persisted BR1 intent spec digest does not match"⟩
      let matched ← annotations value "matched_fields"
      let warnings ← annotations value "warnings"
      let (intent, intentDigest) ← asBr1 (intentOf value spec matched warnings) "persisted BR1 intent is malformed"
      ensure (intent.digest = intentDigest) ⟨.br1, "persisted BR1 intent digest does not match"⟩
      return intent
    | _ => throw ⟨.br1, "persisted BR1 intent is missing its spec"⟩
  | _ => .error ⟨.br1, "persisted BR1 intent must be an object"⟩

end
end Br1Intent

/-! ### Reading back -/

theorem nonemptyIdentifier_own (field : String) (id : Identifier) : nonemptyIdentifier field (.str id.pyText) = .ok id := by
  have plain : ∀ p ∈ id.pyText, isSpace p.toChar = false := by
    intro p member
    have shown : p.toChar ∈ id.text.toList := by
      have listed : id.pyText.display.toList = id.text.toList := by rw [Identifier.pyText, PyText.display_ofString]
      rw [← listed, PyText.display, String.toList_ofList]
      exact List.mem_map_of_mem member
    have checked := id.valid
    rw [isIdentifier, chars_eq] at checked
    split at checked
    · cases checked
    · rename_i c cs spelled
      rw [spelled] at shown
      simp only [Bool.and_eq_true, List.all_eq_true] at checked
      rcases List.mem_cons.mp shown with head | tail
      · rw [head]
        exact (identifierChar_plain (by simp [isIdentifierChar, checked.1.1])).1
      · exact (identifierChar_plain (checked.2 _ tail)).1
  have filled : id.pyText ≠ [] := by
    intro empty
    have text : id.text = "" := by
      rw [← PyText.display_ofString id.text]
      exact congrArg PyText.display empty
    have checked := id.valid
    rw [text] at checked
    cases checked
  rw [nonemptyIdentifier, PyText.strip_plain plain, if_neg filled, Identifier.pyText, PyText.display_ofString,
    validateIdentifier_text]

theorem profileRef_own (field : String) (ref : ProfileRef) : profileRef field (.str ref.text) = .ok ref := by
  obtain ⟨⟨filled, _⟩, plain, _⟩ := PyText.referenceFault_display.mp ref.valid
  rw [profileRef, PyText.strip_plain fun p member => (plain p member).1, if_neg filled]
  unfold ProfileRef.of
  split
  · rename_i fault
    rw [ref.valid] at fault
    cases fault
  · rfl

theorem boundedInt_own (field : String) (n : BoundedInt minimum maximum) : boundedInt field minimum maximum (.int n.1) = .ok n := by
  rw [boundedInt]
  exact dif_pos n.2

/-- The member of an enumeration whose text is normal and no other's. -/
theorem choiceOf_own {value : α → String} {members : List α} {fault : PyError} {normal : PyText → PyText} {m : α}
    (found : (members.find? fun other => PyText.ofString (value other) = PyText.ofString (value m)) = some m)
    (kept : normal (PyText.ofString (value m)) = PyText.ofString (value m)) :
    choiceOf value members fault normal (.str (PyText.ofString (value m))) = .ok m := by
  rw [choiceOf, kept, found]

def ProfileRef.joined (ref : ProfileRef) : ProfileRef := ⟨ref.text.joined, PyText.referenceFault_joined ref.valid⟩

namespace Br1RunSpec

def joined (s : Br1RunSpec) : Br1RunSpec := { s with llmProfileRef := s.llmProfileRef.map ProfileRef.joined }

theorem entries_joined (s : Br1RunSpec) : s.joined.entries = s.entries.map fun f => (f.1, f.2.readBack) := by
  cases profile : s.llmProfileRef <;> simp [entries, fields, joined, Identifier.pyText, pyTextOrNull, ProfileRef.joined, profile]

/-- The joined spec has the dict that is read. -/
theorem toDict_joined (s : Br1RunSpec) : s.joined.toDict.canon = s.toDict.readBack :=
  PyValue.canon_named_readBack s.entries_joined

theorem digest_joined [Sha256] (s : Br1RunSpec) : s.joined.digest = s.digest := by
  rw [digest, digest, PyValue.encode_eq_readBack s.toDict_joined]

section
variable [CaseText]

theorem directionOf_own (d : RunDirection) : directionOf (.str (PyText.ofString d.value)) = .ok d := by
  have shape : ∀ word ∈ ["MIN", "MAX"], (PyText.ofString word).strip = PyText.ofString word ∧
      ((PyText.ofString word).all fun p => p.val < 128 && !(97 ≤ p.val && p.val ≤ 122)) = true := by decide +kernel
  have member : d.value ∈ ["MIN", "MAX"] := by cases d <;> decide
  obtain ⟨stripped, plain⟩ := shape _ member
  exact choiceOf_own (by cases d <;> simp [RunDirection.value]) (by rw [stripped, PyText.upper_ascii plain])

theorem folded_own {word : String} (member : word ∈ ["auto", "local", "workstation1", "workstation2", "oe62_json", "csv", "json"]) :
    (PyText.ofString word).strip.casefold = PyText.ofString word := by
  have shape : ∀ word ∈ ["auto", "local", "workstation1", "workstation2", "oe62_json", "csv", "json"],
      (PyText.ofString word).strip = PyText.ofString word ∧
        ((PyText.ofString word).all fun p => p.val < 128 && !(65 ≤ p.val && p.val ≤ 90)) = true := by decide +kernel
  obtain ⟨stripped, plain⟩ := shape word member
  rw [stripped, PyText.casefold_ascii plain]

theorem hostOf_own (h : HostPreference) : hostOf (.str (PyText.ofString h.value)) = .ok h :=
  choiceOf_own (by cases h <;> simp [HostPreference.value]) (folded_own (by cases h <;> decide))

theorem formatOf_own (f : SourceFormat) : formatOf (.str (PyText.ofString f.value)) = .ok f :=
  choiceOf_own (by cases f <;> simp [SourceFormat.value]) (folded_own (by cases f <;> decide))

omit [CaseText] in
theorem profileOf_own (ref : Option ProfileRef) : profileOf (pyTextOrNull (ref.map ProfileRef.text)) = .ok ref := by
  cases ref with
  | none => rfl
  | some ref =>
    rw [Option.map_some, pyTextOrNull, profileOf, profileRef_own]
    · rfl
    · simp

theorem checkScaffold_none : checkScaffold (.str (PyText.ofString "NONE")) = .ok () := by
  have shape : (PyText.ofString "NONE").strip = PyText.ofString "NONE" ∧ PyText.ofString "NONE" ≠ [] ∧
      ((PyText.ofString "NONE").all fun p => p.val < 128 && !(97 ≤ p.val && p.val ≤ 122)) = true := by decide +kernel
  obtain ⟨stripped, filled, plain⟩ := shape
  rw [checkScaffold, stripped, PyText.upper_ascii plain]
  exact ok_bind (a := ()) (ensure_ok.mpr (decide_eq_true filled)) (ensure_ok.mpr (by simp))

/-- The constructor makes a spec of its own parts. -/
theorem create_own (s : Br1RunSpec) :
    create (.str s.targetProperty.pyText) (.str (PyText.ofString s.direction.value)) (.int s.candidateCount.1) (.int s.topN.1)
      (.str (PyText.ofString "NONE")) (.int s.seed.1) (.str (PyText.ofString s.hostPreference.value)) (.int s.cpuThreads.1)
      (.int s.gpuCount.1) (.int s.walltimeSec.1) (pyTextOrNull (s.llmProfileRef.map ProfileRef.text))
      (.str (PyText.ofString s.sourceFormat.value)) = .ok s := by
  unfold create
  refine ok_bind (nonemptyIdentifier_own _ _) (ok_bind (directionOf_own _) ?_)
  refine ok_bind (boundedInt_own _ _) (ok_bind (boundedInt_own _ _) ?_)
  rw [dif_pos s.ranked]
  refine ok_bind checkScaffold_none (ok_bind (boundedInt_own _ _) (ok_bind (hostOf_own _) ?_))
  refine ok_bind (boundedInt_own _ _) (ok_bind (boundedInt_own _ _) (ok_bind (boundedInt_own _ _) ?_))
  exact ok_bind (profileOf_own _) (ok_bind (formatOf_own _) rfl)

omit [CaseText] in
/-- The keys of the schema are taken out before the fields are read. -/
theorem lookup_keywords {raw : PyFields} {key : String} (own : key ∉ ["schema_name", "schema_version"]) :
    (keywords raw).lookup (PyText.ofString key) = raw.lookup (PyText.ofString key) := by
  have kept : PyText.ofString key ∉ ["schema_name", "schema_version"].map PyText.ofString := by simpa using own
  rw [keywords]
  induction raw with
  | nil => rfl
  | cons field fields ih =>
    obtain ⟨name, value⟩ := field
    by_cases out : (["schema_name", "schema_version"].map PyText.ofString).contains name = true
    · have apart : (PyText.ofString key == name) = false := by
        rw [beq_eq_false_iff_ne]
        rintro rfl
        exact kept (List.contains_iff_mem.mp out)
      rw [List.filter_cons_of_neg (by rw [out]; decide), ih, List.lookup_cons, apart]
    · rw [List.filter_cons_of_pos (by rw [Bool.not_eq_true] at out; rw [out]; rfl), List.lookup_cons, List.lookup_cons, ih]

omit [CaseText] in
theorem hasUnknown_keywords {raw : PyFields}
    (all : hasUnknown raw (["schema_name", "schema_version"] ++ fieldNames) = false) :
    hasUnknown (keywords raw) fieldNames = false := by
  rw [hasUnknown, List.any_eq_false] at all ⊢
  intro f member
  rw [keywords] at member
  obtain ⟨found, own⟩ := List.mem_filter.mp member
  have named := all f found
  simp only [List.map_append, List.contains_eq_mem, Bool.not_eq_true', decide_eq_false_iff_not, not_not,
    List.mem_append] at named own ⊢
  exact named.resolve_left own

/-- The dict of a spec is read back as the spec, with its texts joined. -/
theorem ofKeywords_readBack (s : Br1RunSpec) :
    ofKeywords (keywords (PyValue.readFields (s.entries.map fun f => (PyText.ofString f.1, f.2)))) = .ok s.joined := by
  have known : hasUnknown (keywords (PyValue.readFields (s.entries.map fun f => (PyText.ofString f.1, f.2)))) fieldNames = false :=
    hasUnknown_keywords (hasUnknown_readFields (by simp [entries, fields, fieldNames]))
  have field (key : String) (default : PyValue) {v : PyValue} (own : key ∉ ["schema_name", "schema_version"])
      (listed : s.entries.lookup key = some v) :
      pyGet (keywords (PyValue.readFields (s.entries.map fun f => (PyText.ofString f.1, f.2)))) key default = v.readBack := by
    rw [pyGet, lookup_keywords own]
    exact pyGet_listed s.entries key default listed
  have present : ((keywords (PyValue.readFields (s.entries.map fun f => (PyText.ofString f.1, f.2)))).lookup
      (PyText.ofString "target_property")).isNone = false := by
    rw [lookup_keywords (by simp), PyValue.lookup_readFields]
    rfl
  have profile : (pyTextOrNull (s.llmProfileRef.map ProfileRef.text)).readBack =
      pyTextOrNull (s.joined.llmProfileRef.map ProfileRef.text) := by
    cases ref : s.llmProfileRef <;> simp [joined, ref, pyTextOrNull, ProfileRef.joined]
  rw [ofKeywords]
  dsimp only
  rw [known, present, if_neg (by decide), if_neg (by decide), field "target_property" _ (by simp) rfl,
    field "direction" _ (by simp) rfl, field "candidate_count" _ (by simp) rfl, field "top_n" _ (by simp) rfl,
    field "scaffold_constraint" _ (by simp) rfl, field "seed" _ (by simp) rfl, field "host_preference" _ (by simp) rfl,
    field "cpu_threads" _ (by simp) rfl, field "gpu_count" _ (by simp) rfl, field "walltime_sec" _ (by simp) rfl,
    field "llm_profile_ref" _ (by simp) rfl, field "source_format" _ (by simp) rfl, profile]
  simp only [PyValue.readBack_str, PyValue.readBack_int, PyText.joined_ofString, Identifier.pyText]
  exact s.joined.create_own

end
end Br1RunSpec

theorem annotationOf_own (field : String) : ∀ (texts : List PyText) (filled : ∀ t ∈ texts, t ≠ []),
    annotationOf field (texts.map .str) = .ok ⟨texts, filled⟩
  | [], _ => rfl
  | t :: texts, filled => by
    obtain ⟨head, tail⟩ := List.forall_mem_cons.mp filled
    rw [List.map_cons, annotationOf, dif_pos head]
    exact ok_bind (annotationOf_own field texts tail) rfl

theorem joined_filled {texts : List PyText} (filled : ∀ t ∈ texts, t ≠ []) : ∀ t ∈ texts.map PyText.joined, t ≠ [] := by
  intro t member
  obtain ⟨own, found, rfl⟩ := List.mem_map.mp member
  exact PyText.joined_ne_nil (filled own found)

namespace Br1Intent

@[simp] theorem readBack_listed (texts : List PyText) : (listed texts).readBack = listed (texts.map PyText.joined) := by
  simp [listed, Function.comp_def]

@[simp] theorem canon_listed (texts : List PyText) : (listed texts).canon = listed texts := by
  rw [listed, PyValue.canon]
  congr 1
  induction texts with
  | nil => rfl
  | cons t texts ih => rw [List.map_cons, PyValue.canonItems, ih, PyValue.canon]

def joined (i : Br1Intent) : Br1Intent :=
  ⟨i.spec.joined, i.matchedFields.map PyText.joined, i.warnings.map PyText.joined, joined_filled i.matched, joined_filled i.warned⟩

section
variable [Sha256]

/-- The joined intent has the dict that is read. -/
theorem payload_joined (i : Br1Intent) : (PyValue.named i.joined.payload).canon = (PyValue.named i.payload).readBack := by
  refine PyValue.canon_named ?_
  simp [payload, joined, PyValue.canon, i.spec.toDict_joined, i.spec.digest_joined]

theorem digest_joined (i : Br1Intent) : i.joined.digest = i.digest := by
  rw [digest, digest, PyValue.encode_eq_readBack i.payload_joined]

theorem toDict_joined (i : Br1Intent) : i.joined.toDict.canon = i.toDict.readBack := by
  refine PyValue.canon_named ?_
  rw [entries, entries, digest_joined]
  simp [payload, joined, PyValue.canon, i.spec.toDict_joined, i.spec.digest_joined]

omit [Sha256] in
/-- The constructor makes an intent of its own parts. -/
theorem create_own (i : Br1Intent) : create i.spec (i.matchedFields.map .str) (i.warnings.map .str) = .ok i := by
  rw [create]
  exact ok_bind (annotationOf_own _ _ i.matched) (ok_bind (annotationOf_own _ _ i.warned) rfl)

variable [CaseText] [PrintableText]

/-- The dict of an intent is read back as the intent, with its texts joined. -/
theorem fromDict_readBack (i : Br1Intent) : fromDict i.toDict.readBack = .ok i.joined := by
  have own (key : String) (default : PyValue) {v : PyValue} := pyGet_listed i.entries key default (v := v)
  have states {entries : List (String × PyValue)} {key text : String}
      (listed : entries.lookup key = some (.str (PyText.ofString text))) :
      DatasetGate.states (PyValue.readFields (entries.map fun f => (PyText.ofString f.1, f.2))) key text = true := by
    rw [DatasetGate.states, pyGet_listed entries key .null listed]
    simp [PyValue.equal]
  have digestOf {key : String} {d : Digest} (field : String)
      (listed : i.entries.lookup key = some (.str (PyText.ofString d.text))) :
      validateDigestReference field (pyGet (PyValue.readFields (i.entries.map fun f => (PyText.ofString f.1, f.2))) key
        (.str [])).toText.display = .ok d := by
    rw [own key _ listed, PyValue.readBack_str, PyText.joined_ofString, PyValue.toText, PyText.display_ofString,
      validateDigestReference_text]
  have spec := own "spec" .null (v := i.spec.toDict) rfl
  rw [Br1RunSpec.toDict, PyValue.named, PyValue.readBack_obj] at spec
  have specified : specOf (PyValue.readFields (i.entries.map fun f => (PyText.ofString f.1, f.2)))
      (PyValue.readFields (i.spec.entries.map fun f => (PyText.ofString f.1, f.2))) = .ok (i.spec.joined, i.spec.digest) := by
    rw [specOf]
    refine ok_bind (a := ()) (ensure_ok.mpr (states rfl)) (ok_bind (a := ()) (ensure_ok.mpr (states rfl)) ?_)
    exact ok_bind i.spec.ofKeywords_readBack (ok_bind (digestOf _ rfl) rfl)
  have matched := own "matched_fields" (.arr []) (v := listed i.matchedFields) rfl
  have warned := own "warnings" (.arr []) (v := listed i.warnings) rfl
  rw [readBack_listed] at matched warned
  rw [toDict, PyValue.named, PyValue.readBack_obj, fromDict]
  refine ok_bind (a := ()) (ensure_ok.mpr (states rfl)) (ok_bind (a := ()) (ensure_ok.mpr (states rfl)) ?_)
  rw [spec]
  refine ok_bind (asBr1_eq_ok.mpr specified) ?_
  refine ok_bind (a := ()) (ensure_ok.mpr (decide_eq_true i.spec.digest_joined)) ?_
  refine ok_bind (a := (i.matchedFields.map PyText.joined).map .str) (by rw [annotations, matched, listed]) ?_
  refine ok_bind (a := (i.warnings.map PyText.joined).map .str) (by rw [annotations, warned, listed]) ?_
  have made : intentOf (PyValue.readFields (i.entries.map fun f => (PyText.ofString f.1, f.2))) i.spec.joined
      ((i.matchedFields.map PyText.joined).map .str) ((i.warnings.map PyText.joined).map .str) = .ok (i.joined, i.digest) := by
    rw [intentOf]
    exact ok_bind i.joined.create_own (ok_bind (digestOf _ rfl) rfl)
  refine ok_bind (asBr1_eq_ok.mpr made) ?_
  exact ok_bind (a := ()) (ensure_ok.mpr (decide_eq_true i.digest_joined)) rfl

end
end Br1Intent
end Molly
