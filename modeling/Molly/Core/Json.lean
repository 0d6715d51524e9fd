import Molly.Effect.Decimal
import Molly.Effect.Text

/-! JSON values of the records, their frozen form and their canonical bytes. -/
namespace Molly
open Effect (chars)

/-- The exception classes raised by the modelled code. -/
inductive ErrorClass where
  | coreContract | pathSecurity | artifactNotFound | artifactIntegrity | artifactConflict
  | ledger | ledgerCorruption | lineage | runBinding | runState | toolContract
  | schemaValidation | toolAccess | toolPolicy | approval | action | reconciliation
  | inspection | inspectionIntegrity | keyError | typeError | valueError | overflowError | osError
  | acquisitionConfiguration | acquisitionPolicy | acquisitionTransport | acquisitionTimeout | acquisitionCache
  | acquisitionIntegrity | credentialLeak | compute | computeConflict | computeIntegrity
  | computeExecution | br1 | br1Runtime | br1Integrity | br1Binding | evidenceContract | evidenceIntegrity
  | validation | review | reviewBinding | documentContract | unsupportedDocument | malformedDocument
  | documentLimit | parserUnavailable | parserQuality | documentIntegrity
  deriving DecidableEq, Repr

def ErrorClass.parent : ErrorClass → Option ErrorClass
  | .pathSecurity => some .coreContract
  | .ledgerCorruption => some .ledger
  | .schemaValidation | .toolAccess | .toolPolicy => some .toolContract
  | .inspectionIntegrity => some .inspection
  | .acquisitionTimeout => some .acquisitionTransport
  | .credentialLeak => some .acquisitionIntegrity
  | .computeConflict | .computeIntegrity | .computeExecution => some .compute
  | .br1Runtime | .br1Integrity | .br1Binding => some .br1
  | .evidenceIntegrity => some .evidenceContract
  | .reviewBinding => some .review
  | .unsupportedDocument | .malformedDocument | .documentLimit | .parserUnavailable | .parserQuality
  | .documentIntegrity => some .documentContract
  | .compute | .br1 | .evidenceContract | .documentContract => some .coreContract
  | _ => none

/-- `isinstance(exc, class)` for the error classes that a handler names. -/
def ErrorClass.isInstance (cls base : ErrorClass) : Bool := cls = base || cls.parent = some base

def ErrorClass.name : ErrorClass → String
  | .coreContract => "CoreContractError"
  | .pathSecurity => "PathSecurityError"
  | .artifactNotFound => "ArtifactNotFoundError"
  | .artifactIntegrity => "ArtifactIntegrityError"
  | .artifactConflict => "ArtifactConflictError"
  | .ledger => "LedgerError"
  | .ledgerCorruption => "LedgerCorruptionError"
  | .lineage => "LineageError"
  | .runBinding => "RunBindingError"
  | .runState => "RunStateError"
  | .toolContract => "ToolContractError"
  | .schemaValidation => "SchemaValidationError"
  | .toolAccess => "ToolAccessError"
  | .toolPolicy => "ToolPolicyError"
  | .approval => "ApprovalError"
  | .action => "ActionError"
  | .reconciliation => "ReconciliationError"
  | .inspection => "InspectionError"
  | .inspectionIntegrity => "InspectionIntegrityError"
  | .keyError => "KeyError"
  | .typeError => "TypeError"
  | .valueError => "ValueError"
  | .overflowError => "OverflowError"
  | .osError => "OSError"
  | .acquisitionConfiguration => "AcquisitionConfigurationError"
  | .acquisitionPolicy => "AcquisitionPolicyError"
  | .acquisitionTransport => "AcquisitionTransportError"
  | .acquisitionTimeout => "AcquisitionTimeoutError"
  | .acquisitionCache => "AcquisitionCacheError"
  | .acquisitionIntegrity => "AcquisitionIntegrityError"
  | .credentialLeak => "CredentialLeakError"
  | .compute => "ComputeError"
  | .computeConflict => "ComputeConflictError"
  | .computeIntegrity => "ComputeIntegrityError"
  | .computeExecution => "ComputeExecutionError"
  | .br1 => "Br1Error"
  | .br1Runtime => "Br1RuntimeError"
  | .br1Integrity => "Br1IntegrityError"
  | .br1Binding => "Br1BindingError"
  | .evidenceContract => "EvidenceContractError"
  | .evidenceIntegrity => "EvidenceIntegrityError"
  | .validation => "ValidationContractError"
  | .review => "ReviewError"
  | .reviewBinding => "ReviewBindingError"
  | .documentContract => "DocumentContractError"
  | .unsupportedDocument => "UnsupportedDocumentError"
  | .malformedDocument => "MalformedDocumentError"
  | .documentLimit => "DocumentLimitError"
  | .parserUnavailable => "ParserUnavailableError"
  | .parserQuality => "ParserQualityError"
  | .documentIntegrity => "DocumentIntegrityError"

structure PyError where
  cls : ErrorClass
  message : String
  deriving DecidableEq, Repr

/-- `except Exception as exc: raise cls(message) from exc`. -/
def orRaise (value : Except PyError α) (cls : ErrorClass) (message : String) : Except PyError α :=
  match value with
  | .ok a => .ok a
  | .error _ => .error ⟨cls, message⟩

@[simp] theorem orRaise_ok : orRaise (.ok a : Except PyError α) cls message = .ok a := rfl
@[simp] theorem orRaise_error :
    orRaise (.error e : Except PyError α) cls message = .error ⟨cls, message⟩ := rfl

/-- The texts `repr` gives to finite floats. -/
def isFloatRepr (text : String) : Bool := Effect.isShortest (chars text)

/-- A finite binary64 number, carried as its shortest `repr` text. -/
structure FiniteFloat where
  repr : String
  finite : isFloatRepr repr = true
  deriving DecidableEq, Repr

/-- `int(value)`: the number without its fraction. -/
def FiniteFloat.truncate (x : FiniteFloat) : Int :=
  match Effect.readDecimal (chars x.repr) with
  | none => 0
  | some b => Effect.signed b.negative
      (if 0 ≤ b.exponent then b.mantissa * 2 ^ b.exponent.toNat else b.mantissa / 2 ^ (-b.exponent).toNat)

/-- `n == x`. -/
def FiniteFloat.isInt (x : FiniteFloat) (n : Int) : Bool :=
  match Effect.readDecimal (chars x.repr) with
  | none => n == 0
  | some b =>
    x.truncate == n && (decide (0 ≤ b.exponent) || b.mantissa % 2 ^ (-b.exponent).toNat == 0)

/-- `float(text)` of a decimal number; nothing when it overflows to an infinity. -/
def FiniteFloat.ofDecimal (d : Effect.Decimal) : Option FiniteFloat :=
  match d.round with
  | none => none
  | some x =>
    match shown : x.repr with
    | none => none
    | some text => some ⟨String.ofList text, by
        rw [isFloatRepr, Effect.chars_eq, String.toList_ofList]
        exact Effect.isShortest_repr shown⟩

/-- A float's text is one number token, which names that float. -/
theorem FiniteFloat.scanned (x : FiniteFloat) :
    ∃ d, Effect.scanNumber x.repr.toList = some (.decimal d, []) ∧ ofDecimal d = some x := by
  obtain ⟨text, finite⟩ := x
  rw [isFloatRepr, Effect.chars_eq, Effect.isShortest] at finite
  split at finite
  · rename_i b reads
    simp only [decide_eq_true_eq] at finite
    rw [Effect.readDecimal] at reads
    split at reads
    · rename_i d scanned
      refine ⟨d, scanned, ?_⟩
      unfold ofDecimal
      simp only [reads]
      split
      · rename_i none
        cases none.symm.trans finite
      · rename_i text' shown
        cases shown.symm.trans finite
        simp
    · contradiction
  · contradiction

/-- JSON-compatible Python values. A list and a tuple are both `arr`; the pairs of an
`obj` are the items of a dict, the first pair of a key being its item. -/
inductive Json where
  | null
  | bool (value : Bool)
  | int (value : Int)
  | float (value : FiniteFloat)
  | str (value : String)
  | arr (items : List Json)
  | obj (fields : List (String × Json))
  deriving Repr

abbrev Fields := List (String × Json)

mutual
def Json.decEq : (a b : Json) → Decidable (a = b)
  | .null, .null => isTrue rfl
  | .bool a, .bool b => decidable_of_iff (a = b) (by simp)
  | .int a, .int b => decidable_of_iff (a = b) (by simp)
  | .float a, .float b => decidable_of_iff (a = b) (by simp)
  | .str a, .str b => decidable_of_iff (a = b) (by simp)
  | .arr a, .arr b => @decidable_of_iff _ (a = b) (by simp) (Json.decEqItems a b)
  | .obj a, .obj b => @decidable_of_iff _ (a = b) (by simp) (Json.decEqFields a b)
  | .null, .bool _ | .null, .int _ | .null, .float _ | .null, .str _ | .null, .arr _
  | .null, .obj _ | .bool _, .null | .bool _, .int _ | .bool _, .float _ | .bool _, .str _
  | .bool _, .arr _ | .bool _, .obj _ | .int _, .null | .int _, .bool _ | .int _, .float _
  | .int _, .str _ | .int _, .arr _ | .int _, .obj _ | .float _, .null | .float _, .bool _
  | .float _, .int _ | .float _, .str _ | .float _, .arr _ | .float _, .obj _ | .str _, .null
  | .str _, .bool _ | .str _, .int _ | .str _, .float _ | .str _, .arr _ | .str _, .obj _
  | .arr _, .null | .arr _, .bool _ | .arr _, .int _ | .arr _, .float _ | .arr _, .str _
  | .arr _, .obj _ | .obj _, .null | .obj _, .bool _ | .obj _, .int _ | .obj _, .float _
  | .obj _, .str _ | .obj _, .arr _ => isFalse (by simp)

def Json.decEqItems : (a b : List Json) → Decidable (a = b)
  | [], [] => isTrue rfl
  | [], _ :: _ | _ :: _, [] => isFalse (by simp)
  | a :: as, b :: bs =>
    match Json.decEq a b, Json.decEqItems as bs with
    | isTrue h, isTrue t => isTrue (by rw [h, t])
    | isFalse h, _ => isFalse (fun e => h (List.cons.inj e).1)
    | _, isFalse t => isFalse (fun e => t (List.cons.inj e).2)

def Json.decEqFields : (a b : List (String × Json)) → Decidable (a = b)
  | [], [] => isTrue rfl
  | [], _ :: _ | _ :: _, [] => isFalse (by simp)
  | (k, a) :: as, (l, b) :: bs =>
    if same : k = l then
      match Json.decEq a b, Json.decEqFields as bs with
      | isTrue h, isTrue t => isTrue (by rw [same, h, t])
      | isFalse h, _ => isFalse (fun e => h (Prod.mk.inj (List.cons.inj e).1).2)
      | _, isFalse t => isFalse (fun e => t (List.cons.inj e).2)
    else isFalse (fun e => same (Prod.mk.inj (List.cons.inj e).1).1)
end

instance : DecidableEq Json := Json.decEq

/-! ### Credential-like keys -/

/-- `str.casefold` on one character, exact on every character whose folding contains
an ASCII letter or digit; the other characters fold to themselves here. -/
def casefold (c : Char) : List Char :=
  if c.isUpper then [c.toLower] else
  match c.toNat with
  | 0x00DF | 0x1E9E => ['s', 's']
  | 0x0130 => ['i', '\u0307']
  | 0x0149 => ['\u02BC', 'n']
  | 0x017F => ['s']
  | 0x01F0 => ['j', '\u030C']
  | 0x1E96 => ['h', '\u0331']
  | 0x1E97 => ['t', '\u0308']
  | 0x1E98 => ['w', '\u030A']
  | 0x1E99 => ['y', '\u030A']
  | 0x1E9A => ['a', '\u02BE']
  | 0x212A => ['k']
  | 0xFB00 => ['f', 'f']
  | 0xFB01 => ['f', 'i']
  | 0xFB02 => ['f', 'l']
  | 0xFB03 => ['f', 'f', 'i']
  | 0xFB04 => ['f', 'f', 'l']
  | 0xFB05 | 0xFB06 => ['s', 't']
  | _ => [c]

def isWordChar (c : Char) : Bool := c.isLower || c.isDigit

/-- The maximal runs of word characters, in order. -/
def splitWords : List Char → List (List Char)
  | [] => []
  | c :: cs =>
    if isWordChar c then
      match cs, splitWords cs with
      | d :: _, word :: words => if isWordChar d then (c :: word) :: words else [c] :: word :: words
      | _, words => [c] :: words
    else splitWords cs

def sensitiveKeyParts : List String :=
  ["access_key", "api_key", "apikey", "authorization", "cookie", "credential", "password",
    "passwd", "private_key", "secret", "token"]

/-- `_sensitive_key`: the words of the folded key, joined by underscores. -/
def sensitiveKey (key : String) : Bool :=
  let words := (splitWords ((chars key).flatMap casefold)).map String.ofList
  "_".intercalate words ∈ sensitiveKeyParts || words.any (· ∈ sensitiveKeyParts)

/-! ### Freezing -/

mutual
/-- The checks `_freeze_json` makes, in its order, with its field paths. -/
def Json.check (field : String) : Json → Except PyError Unit
  | .arr items => Json.checkItems field items
  | .obj fields => Json.checkFields field fields
  | _ => .ok ()

def Json.checkItems (field : String) : List Json → Except PyError Unit
  | [] => .ok ()
  | item :: items =>
    match Json.check field item with
    | .error e => .error e
    | .ok () => Json.checkItems field items

def Json.checkFields (field : String) : List (String × Json) → Except PyError Unit
  | [] => .ok ()
  | (key, item) :: fields =>
    if key = "" then
      .error ⟨.coreContract, field ++ " object keys must be non-empty strings"⟩
    else if sensitiveKey key then
      .error ⟨.coreContract, field ++ " cannot store credential-like key '" ++ key ++ "'"⟩
    else
      match Json.check (field ++ "." ++ key) item with
      | .error e => .error e
      | .ok () => Json.checkFields field fields
end

/-- Strings are ordered by their code points. -/
def codeLt : List Char → List Char → Bool
  | [], [] | _ :: _, [] => false
  | [], _ :: _ => true
  | a :: as, b :: bs => decide (a.toNat < b.toNat) || (a = b && codeLt as bs)

def keyLt (a b : String) : Bool := codeLt (chars a) (chars b)

/-- Insert an item into a mapping kept in key order, replacing the key's own item. -/
def insertField (key : String) (item : Json) : Fields → Fields
  | [] => [(key, item)]
  | (k, v) :: rest =>
    if keyLt key k then (key, item) :: (k, v) :: rest
    else if key = k then (key, item) :: rest
    else (k, v) :: insertField key item rest

mutual
/-- The frozen form of a value. A mapping is kept in key order, since Python's `==` is blind to it. -/
def Json.canon : Json → Json
  | .arr items => .arr (Json.canonItems items)
  | .obj fields => .obj (Json.canonFields fields)
  | .null => .null
  | .bool b => .bool b
  | .int n => .int n
  | .float x => .float x
  | .str s => .str s

def Json.canonItems : List Json → List Json
  | [] => []
  | item :: items => item.canon :: Json.canonItems items

def Json.canonFields : List (String × Json) → List (String × Json)
  | [] => []
  | (key, item) :: fields => insertField key item.canon (Json.canonFields fields)
end

mutual
/-- A frozen value with one form for the numbers that Python's `==` identifies: `a == b` holds of
two frozen values exactly when these forms are the same. -/
def Json.identified : Json → Json
  | .bool b => .int (if b then 1 else 0)
  | .float x => if x.isInt x.truncate then .int x.truncate else .float x
  | .arr items => .arr (Json.identifiedItems items)
  | .obj fields => .obj (Json.identifiedFields fields)
  | .null => .null
  | .int n => .int n
  | .str s => .str s

def Json.identifiedItems : List Json → List Json
  | [] => []
  | item :: items => item.identified :: Json.identifiedItems items

def Json.identifiedFields : List (String × Json) → List (String × Json)
  | [] => []
  | (key, item) :: fields => (key, item.identified) :: Json.identifiedFields fields
end

/-- `value.get(key)` on a mapping. -/
def Json.get (key : String) : Json → Option Json
  | .obj fields => fields.lookup key
  | _ => none

/-! ### Canonical bytes -/

def hexDigit (n : Nat) : Char := if n < 10 then Char.ofNat (48 + n) else Char.ofNat (87 + n)

def unicodeEscape (n : Nat) : List Char :=
  ['\\', 'u', hexDigit (n / 4096 % 16), hexDigit (n / 256 % 16), hexDigit (n / 16 % 16), hexDigit (n % 16)]

/-- `json.dumps` with `ensure_ascii`: everything outside the printable ASCII range is
escaped, a character beyond the basic plane as a surrogate pair. -/
def escapeChar (c : Char) : List Char :=
  if c = '"' then ['\\', '"']
  else if c = '\\' then ['\\', '\\']
  else if c = '\n' then ['\\', 'n']
  else if c = '\r' then ['\\', 'r']
  else if c = '\t' then ['\\', 't']
  else if c.toNat = 8 then ['\\', 'b']
  else if c.toNat = 12 then ['\\', 'f']
  else if 32 ≤ c.toNat ∧ c.toNat ≤ 126 then [c]
  else if c.toNat < 65536 then unicodeEscape c.toNat
  else unicodeEscape (55296 + (c.toNat - 65536) / 1024) ++ unicodeEscape (56320 + (c.toNat - 65536) % 1024)

def quote (s : String) : List Char := '"' :: (chars s).flatMap escapeChar ++ ['"']

mutual
/-- `json.dumps(value, separators=(",", ":"))` of a value in key order. -/
def Json.dumps : Json → List Char
  | .null => chars "null"
  | .bool b => chars (if b then "true" else "false")
  | .int n => chars (toString n)
  | .float x => chars x.repr
  | .str s => quote s
  | .arr items => '[' :: Json.dumpsItems items ++ [']']
  | .obj fields => '{' :: Json.dumpsFields fields ++ ['}']

def Json.dumpsItems : List Json → List Char
  | [] => []
  | [item] => item.dumps
  | item :: rest => item.dumps ++ ',' :: Json.dumpsItems rest

def Json.dumpsFields : List (String × Json) → List Char
  | [] => []
  | [(key, item)] => quote key ++ ':' :: item.dumps
  | (key, item) :: rest => quote key ++ ':' :: item.dumps ++ ',' :: Json.dumpsFields rest
end

abbrev Bytes := List UInt8

/-- The canonical text holds ASCII characters only, one byte each in UTF-8. -/
def Json.encode (value : Json) : Bytes := value.canon.dumps.map fun c => c.toNat.toUInt8

def canonicalJsonBytes (value : Json) : Except PyError Bytes :=
  match value.check "canonical JSON" with
  | .error _ => .error ⟨.coreContract, "value is not canonical JSON"⟩
  | .ok () => .ok value.encode

end Molly
