import Molly.Core.Frozen
import Molly.Effect.Sha256

/-! Identifiers, digests, artifact identities, references and timestamps. Each is a
type of the values its validator returns, so that a record cannot hold another one. -/
namespace Molly
open Effect (chars chars_eq)

def isIdentifierChar (c : Char) : Bool := c.isAlphanum || c ∈ ['.', '_', ':', '-']

/-- Full match of `^[A-Za-z0-9][A-Za-z0-9._:-]{0,127}$`. -/
def isIdentifier (text : String) : Bool :=
  match chars text with
  | [] => false
  | c :: cs => c.isAlphanum && cs.length ≤ 127 && cs.all isIdentifierChar

structure Identifier where
  text : String
  valid : isIdentifier text = true
  deriving DecidableEq, Repr

theorem isIdentifier_one : isIdentifier "1" = true := by decide

def validateIdentifier (field : String) (value : String) : Except PyError Identifier :=
  if valid : isIdentifier value = true then .ok ⟨value, valid⟩
  else .error ⟨.coreContract, field ++
    " must match ^[A-Za-z0-9][A-Za-z0-9._:-]\x7b0,127\x7d$ and contain no path separators"⟩

@[simp] theorem validateIdentifier_text (id : Identifier) (field : String) :
    validateIdentifier field id.text = .ok id := by
  simp [validateIdentifier, id.valid]

@[ext] theorem Identifier.ext {a b : Identifier} (same : a.text = b.text) : a = b := by
  cases a; cases b; cases same; rfl

/-! ### Digests -/

def isHexChar (c : Char) : Bool := c.isDigit || c ∈ ['a', 'b', 'c', 'd', 'e', 'f']

/-- Full match of `^[0-9a-f]{64}$`. -/
def isSha256 (text : String) : Bool := (chars text).length = 64 && (chars text).all isHexChar

structure Digest where
  text : String
  valid : isSha256 text = true
  deriving DecidableEq, Repr

@[ext] theorem Digest.ext {a b : Digest} (same : a.text = b.text) : a = b := by
  cases a; cases b; cases same; rfl

/-- `hashlib.sha256(value).hexdigest()`. The results hold for every hash function. -/
class Sha256 where
  sha256Bytes : Bytes → Digest

/-- The standard one, on which the examples are evaluated. -/
@[reducible] def standardSha256 : Sha256 where
  sha256Bytes bytes := ⟨String.ofList (Effect.Sha256.hexDigest bytes), by
    have hex : (Effect.Sha256.hexDigest bytes).all isHexChar = true := by
      rw [List.all_eq_true]
      intro c member
      obtain ⟨n, rfl⟩ := Effect.Sha256.mem_hexDigest member
      unfold Effect.Sha256.hexDigit
      split <;> rfl
    simp [isSha256, hex]⟩

export Sha256 (sha256Bytes)

def validateSha256 (field : String) (value : String) : Except PyError Digest :=
  if valid : isSha256 value = true then .ok ⟨value, valid⟩
  else .error ⟨.coreContract, field ++ " must be a lowercase 64-character SHA-256 digest"⟩

@[simp] theorem validateSha256_text (d : Digest) (field : String) :
    validateSha256 field d.text = .ok d := by
  simp [validateSha256, d.valid]

/-- What follows the prefix `sha256:`. -/
def removeSha256Prefix : List Char → Option (List Char)
  | 's' :: 'h' :: 'a' :: '2' :: '5' :: '6' :: ':' :: rest => some rest
  | _ => none

def validateDigestReference (field : String) (value : String) : Except PyError Digest :=
  match removeSha256Prefix (chars value) with
  | some rest => validateSha256 field (String.ofList rest)
  | none => validateSha256 field value

/-- No hexadecimal text begins with the prefix, so a bare digest is read as it is. -/
theorem removeSha256Prefix_digest (d : Digest) : removeSha256Prefix d.text.toList = none := by
  have valid := d.valid
  unfold removeSha256Prefix
  split
  · rename_i rest eq
    simp only [isSha256, chars_eq, eq, Bool.and_eq_true] at valid
    exact absurd valid.2 (by simp [isHexChar])
  · rfl

@[simp] theorem validateDigestReference_text (d : Digest) (field : String) :
    validateDigestReference field d.text = .ok d := by
  simp [validateDigestReference, removeSha256Prefix_digest]

/-! ### Artifact identities -/

/-- An artifact is named by the digest of its exact bytes. -/
structure ArtifactId where
  digest : Digest
  deriving DecidableEq, Repr

def ArtifactId.text (id : ArtifactId) : String :=
  String.ofList ('s' :: 'h' :: 'a' :: '2' :: '5' :: '6' :: ':' :: chars id.digest.text)

theorem ArtifactId.text_injective {a b : ArtifactId} (same : a.text = b.text) : a = b := by
  have letters := congrArg String.toList same
  simp only [ArtifactId.text, String.toList_ofList, chars_eq, List.cons.injEq, true_and] at letters
  have digests : a.digest = b.digest := Digest.ext (String.toList_injective letters)
  cases a; cases b; simpa using digests

/-- `validate_artifact_id` on text. -/
def validateArtifactId (field : String) (value : String) : Except PyError ArtifactId :=
  match removeSha256Prefix (chars value) with
  | none => .error ⟨.coreContract, field ++ " must use the sha256:<digest> form"⟩
  | some rest =>
    match validateSha256 (field ++ " digest") (String.ofList rest) with
    | .error e => .error e
    | .ok digest => .ok ⟨digest⟩

@[simp] theorem validateArtifactId_text (id : ArtifactId) (field : String) :
    validateArtifactId field id.text = .ok id := by
  simp [validateArtifactId, ArtifactId.text, removeSha256Prefix]

/-- An ordered, duplicate-free tuple of artifact IDs. -/
structure ArtifactIds where
  ids : List ArtifactId
  nodup : ids.Nodup
  deriving DecidableEq, Repr

def ArtifactIds.none : ArtifactIds := ⟨[], List.nodup_nil⟩

/-- The last check of `validate_artifact_ids`. -/
def uniqueArtifactIds (field : String) (ids : List ArtifactId) : Except PyError ArtifactIds :=
  if nodup : ids.Nodup then .ok ⟨ids, nodup⟩
  else .error ⟨.coreContract, field ++ " must not contain duplicate artifact IDs"⟩

@[simp] theorem uniqueArtifactIds_ids (a : ArtifactIds) (field : String) :
    uniqueArtifactIds field a.ids = .ok a := by
  simp [uniqueArtifactIds, a.nodup]

theorem uniqueArtifactIds_ok {ids : List ArtifactId} :
    uniqueArtifactIds field ids = .ok a ↔ a.ids = ids := by
  constructor
  · intro h
    unfold uniqueArtifactIds at h
    split at h
    · cases h; rfl
    · contradiction
  · rintro rfl; simp

/-! ### References -/

/-- `str.isspace` on one character. -/
def isSpace (c : Char) : Bool :=
  let n := c.toNat
  (9 ≤ n && n ≤ 13) || (28 ≤ n && n ≤ 32) || n = 0x85 || n = 0xA0 || n = 0x1680 ||
    (0x2000 ≤ n && n ≤ 0x200A) || n = 0x2028 || n = 0x2029 || n = 0x202F || n = 0x205F || n = 0x3000

/-- `value.split("/")`. -/
def slashParts : List Char → List (List Char)
  | [] => [[]]
  | c :: cs =>
    if c = '/' then [] :: slashParts cs
    else match slashParts cs with
      | part :: parts => (c :: part) :: parts
      | [] => [[c]]

/-- The first fault `validate_reference` reports, with the words after the field. -/
def referenceFault (value : String) : Option (ErrorClass × String) :=
  let chars := chars value
  if chars.length = 0 || chars.length > 512 then
    some (.coreContract, " must be a non-empty reference of at most 512 characters")
  else if chars.any isSpace || chars.any (·.toNat = 0) then
    some (.coreContract, " must not contain whitespace or NUL")
  else if chars.head?.any (· ∈ ['/', '\\', '~']) || chars.any (· = '\\') then
    some (.pathSecurity, " cannot be an absolute or platform path")
  else if (slashParts chars).any (· = ['.', '.']) then
    some (.pathSecurity, " cannot contain parent traversal")
  else none

structure Reference where
  text : String
  valid : referenceFault text = none
  deriving DecidableEq, Repr

@[ext] theorem Reference.ext {a b : Reference} (same : a.text = b.text) : a = b := by
  cases a; cases b; cases same; rfl

def validateReference (field : String) (value : String) : Except PyError Reference :=
  match valid : referenceFault value with
  | some (cls, words) => .error ⟨cls, field ++ words⟩
  | none => .ok ⟨value, valid⟩

@[simp] theorem validateReference_text (r : Reference) (field : String) :
    validateReference field r.text = .ok r := by
  unfold validateReference
  split
  · rename_i eq
    simp [r.valid] at eq
  · rfl

theorem slashParts_plain : ∀ {chars : List Char}, (∀ c ∈ chars, c ≠ '/') → slashParts chars = [chars]
  | [], _ => rfl
  | c :: cs, plain => by
    have tail := slashParts_plain fun d member => plain d (List.mem_cons_of_mem _ member)
    simp [slashParts, plain c List.mem_cons_self, tail]

/-- The characters of identifiers and digests need no further check in a reference. -/
theorem identifierChar_plain {c : Char} (h : isIdentifierChar c = true) :
    isSpace c = false ∧ c.toNat ≠ 0 ∧ c ≠ '/' ∧ c ≠ '\\' ∧ c ≠ '~' := by
  have range : 45 ≤ c.toNat ∧ c.toNat ≤ 122 ∧ c.toNat ≠ 47 ∧ c.toNat ≠ 92 := by
    have classes : c.isAlphanum =
        ((decide (c.val ≥ 65 ∧ c.val ≤ 90) || (c.val ≥ 97 && c.val ≤ 122)) || (c.val ≥ 48 && c.val ≤ 57)) := rfl
    simp only [isIdentifierChar, classes, Bool.or_eq_true, Bool.and_eq_true, decide_eq_true_eq, List.mem_cons,
      List.not_mem_nil, or_false, UInt32.le_iff_toNat_le, ge_iff_le] at h
    change 45 ≤ c.val.toNat ∧ c.val.toNat ≤ 122 ∧ c.val.toNat ≠ 47 ∧ c.val.toNat ≠ 92
    rcases h with ((⟨lo, hi⟩ | ⟨lo, hi⟩) | ⟨lo, hi⟩) | rfl | rfl | rfl | rfl
    all_goals first
      | decide
      | (simp only [UInt32.reduceToNat] at lo hi; omega)
  have distinct (d : Char) (ne : c.toNat ≠ d.toNat) : c ≠ d := fun e => ne (e ▸ rfl)
  refine ⟨?_, by omega, distinct _ ?_, distinct _ ?_, distinct _ ?_⟩
  · simp only [isSpace, Bool.or_eq_false_iff, Bool.and_eq_false_iff, decide_eq_false_iff_not]
    omega
  · have := range.2.2.1; simpa using this
  · have := range.2.2.2; simpa using this
  · have : c.toNat ≤ 122 := range.2.1
    intro e; rw [e] at this; exact absurd this (by decide)

theorem referenceFault_plain {text : String} (bounded : text.toList.length ≤ 512)
    (first : ∃ c cs, text.toList = c :: cs ∧ c ≠ '.')
    (plain : ∀ c ∈ text.toList, isIdentifierChar c = true) : referenceFault text = none := by
  obtain ⟨c, cs, eq, dot⟩ := first
  have clean := fun d member => identifierChar_plain (plain d member)
  have parts := slashParts_plain fun d member => (clean d member).2.2.1
  simp only [referenceFault, chars_eq, parts]
  rw [if_neg, if_neg, if_neg, if_neg]
  · simp [eq, dot]
  · simp only [Bool.or_eq_true, not_or, List.any_eq_true, not_exists, not_and]
    refine ⟨?_, fun d member => by simpa using (clean d member).2.2.2.1⟩
    have head := clean c (by simp [eq])
    simp [eq, head.2.2]
  · simp only [Bool.or_eq_true, not_or, List.any_eq_true, not_exists, not_and, Bool.not_eq_true]
    exact ⟨fun d member => (clean d member).1, fun d member => by simpa using (clean d member).2.1⟩
  · simp [eq] at bounded ⊢
    omega

theorem isIdentifier_chars {text : String} (valid : isIdentifier text = true) :
    ∀ c ∈ text.toList, isIdentifierChar c = true := by
  unfold isIdentifier at valid
  rw [chars_eq] at valid
  split at valid
  · contradiction
  · rename_i head tail shown
    simp only [Bool.and_eq_true, decide_eq_true_eq] at valid
    intro c member
    rw [shown] at member
    rcases List.mem_cons.mp member with rfl | member
    · simp [isIdentifierChar, valid.1.1]
    · exact List.all_eq_true.mp valid.2 c member

/-- A step identifier is a lineage identity. -/
def Identifier.reference (id : Identifier) : Reference :=
  ⟨id.text, by
    have valid := id.valid
    unfold isIdentifier at valid
    rw [chars_eq] at valid
    split at valid
    · contradiction
    · rename_i c cs eq
      simp only [Bool.and_eq_true, decide_eq_true_eq] at valid
      obtain ⟨⟨head, bounded⟩, tail⟩ := valid
      refine referenceFault_plain (by simp [eq]; omega) ⟨c, cs, eq, ?_⟩ ?_
      · rintro rfl
        exact absurd head (by decide)
      · intro d member
        rw [eq] at member
        rcases List.mem_cons.mp member with rfl | member
        · simp [isIdentifierChar, head]
        · exact List.all_eq_true.mp tail d member⟩

theorem hexChar_identifierChar {c : Char} (h : isHexChar c = true) : isIdentifierChar c = true := by
  simp only [isHexChar, Bool.or_eq_true, decide_eq_true_eq, List.mem_cons, List.not_mem_nil,
    or_false] at h
  rcases h with digit | rfl | rfl | rfl | rfl | rfl | rfl
  · simp [isIdentifierChar, Char.isAlphanum, digit]
  all_goals decide

/-- A short mark before a digest is an identity. -/
theorem markedId_valid {mark : String} (d : Digest) (plain : isIdentifier mark = true) (short : mark.toList.length ≤ 64) :
    isIdentifier (mark ++ d.text) = true := by
  have valid := d.valid
  simp only [isSha256, chars_eq, Bool.and_eq_true, decide_eq_true_eq] at valid
  have tail : d.text.toList.all isIdentifierChar = true := by
    rw [List.all_eq_true]
    intro c member
    exact hexChar_identifierChar (List.all_eq_true.mp valid.2 c member)
  simp only [isIdentifier, chars_eq, String.toList_append] at plain ⊢
  cases letters : mark.toList with
  | nil => simp [letters] at plain
  | cons c cs =>
    rw [letters, List.length_cons] at short
    simp only [letters, Bool.and_eq_true, decide_eq_true_eq] at plain
    simp only [List.cons_append, List.length_append, List.all_append, Bool.and_eq_true, decide_eq_true_eq, valid.1]
    exact ⟨⟨plain.1.1, by omega⟩, plain.2, tail⟩

/-- The identity of a relation derived from a digest. -/
theorem relationId_valid (d : Digest) : isIdentifier ("rel_exec_" ++ d.text) = true :=
  markedId_valid d (by decide) (by decide)

/-- An artifact ID is a lineage identity. -/
def ArtifactId.reference (id : ArtifactId) : Reference :=
  ⟨id.text, by
    have valid := id.digest.valid
    simp only [isSha256, chars_eq, Bool.and_eq_true, decide_eq_true_eq] at valid
    have letters : id.text.toList =
        's' :: 'h' :: 'a' :: '2' :: '5' :: '6' :: ':' :: id.digest.text.toList := by simp [ArtifactId.text]
    refine referenceFault_plain (by simp [letters, valid.1]) ⟨_, _, letters, by decide⟩ ?_
    intro d member
    rw [letters] at member
    simp only [List.mem_cons] at member
    rcases member with rfl | rfl | rfl | rfl | rfl | rfl | rfl | member
    all_goals first
      | decide
      | exact hexChar_identifierChar (List.all_eq_true.mp valid.2 d member)⟩

@[simp] theorem Identifier.reference_text (id : Identifier) : id.reference.text = id.text := rfl
@[simp] theorem ArtifactId.reference_text (id : ArtifactId) : id.reference.text = id.text := rfl

/-! ### Python conversions -/

/-- `repr` of a text, every character beyond ASCII taken as printable. -/
def pyQuote (s : String) : String :=
  let cs := chars s
  let mark := if '\'' ∈ cs ∧ '"' ∉ cs then '"' else '\''
  let escape (c : Char) : List Char :=
    if c = mark ∨ c = '\\' then ['\\', c]
    else if c = '\n' then ['\\', 'n']
    else if c = '\r' then ['\\', 'r']
    else if c = '\t' then ['\\', 't']
    else if c.toNat < 32 ∨ c.toNat = 127 then ['\\', 'x', hexDigit (c.toNat / 16), hexDigit (c.toNat % 16)]
    else [c]
  String.ofList (mark :: cs.flatMap escape ++ [mark])

mutual
/-- `repr(value)`. -/
def pyRepr : Json → String
  | .null => "None"
  | .bool b => if b then "True" else "False"
  | .int n => toString n
  | .float x => x.repr
  | .str s => pyQuote s
  | .arr items => "[" ++ pyReprItems items ++ "]"
  | .obj fields => "\x7b" ++ pyReprFields fields ++ "\x7d"

def pyReprItems : List Json → String
  | [] => ""
  | [item] => pyRepr item
  | item :: rest => pyRepr item ++ ", " ++ pyReprItems rest

def pyReprFields : List (String × Json) → String
  | [] => ""
  | [(key, item)] => pyQuote key ++ ": " ++ pyRepr item
  | (key, item) :: rest => pyQuote key ++ ": " ++ pyRepr item ++ ", " ++ pyReprFields rest
end

/-- `str(value)`. -/
def pyStr : Json → String
  | .str s => s
  | value => pyRepr value

/-- `tuple(value)`. -/
def pyTuple : Json → Except PyError (List Json)
  | .arr items => .ok items
  | .str s => .ok (s.toList.map fun c => .str (String.ofList [c]))
  | .obj fields => .ok (fields.map fun f => .str f.1)
  | _ => .error ⟨.typeError, "object is not iterable"⟩

/-- `dict(value)` for the mappings the records hold. -/
def pyDict : Json → Except PyError Fields
  | .obj fields => .ok fields
  | .arr [] => .ok []
  | _ => .error ⟨.typeError, "object is not a mapping"⟩

/-- `value[key]`. -/
def item (fields : Fields) (key : String) : Except PyError Json :=
  match fields.lookup key with
  | some value => .ok value
  | none => .error ⟨.keyError, key⟩

/-- `validate_artifact_id` on any Python value. -/
def artifactIdOfJson (field : String) : Json → Except PyError ArtifactId
  | .str s => validateArtifactId field s
  | _ => .error ⟨.coreContract, field ++ " must use the sha256:<digest> form"⟩

/-- `validate_artifact_ids`. -/
def validateArtifactIds (field : String) (values : List Json) : Except PyError ArtifactIds := do
  uniqueArtifactIds field (← values.mapM (artifactIdOfJson field))

def ArtifactIds.toJson (a : ArtifactIds) : Json := .arr (a.ids.map fun id => .str id.text)

@[simp] theorem pyDict_object (m : JsonObject) : pyDict m.toJson = .ok m.fields := rfl

@[simp] theorem pyTuple_artifactIds (a : ArtifactIds) :
    pyTuple a.toJson = .ok (a.ids.map fun id => .str id.text) := rfl

theorem artifactIds_mapM (ids : List ArtifactId) (field : String) :
    (ids.map fun id => Json.str id.text).mapM (artifactIdOfJson field) = .ok ids := by
  induction ids with
  | nil => rfl
  | cons id ids ih =>
    simp only [List.map_cons, List.mapM_cons, ih, artifactIdOfJson, validateArtifactId_text]
    rfl

@[simp] theorem validateArtifactIds_toJson (a : ArtifactIds) (field : String) :
    validateArtifactIds field (a.ids.map fun id => Json.str id.text) = .ok a := by
  simp only [validateArtifactIds, artifactIds_mapM]
  exact uniqueArtifactIds_ids a field

@[simp] theorem canon_artifactIds (a : ArtifactIds) : a.toJson.canon = a.toJson := by
  have items : ∀ ids : List ArtifactId, Json.canonItems (ids.map fun id => Json.str id.text) =
      ids.map fun id => Json.str id.text := by
    intro ids
    induction ids with
    | nil => rfl
    | cons id ids ih => simp [Json.canonItems, Json.canon, ih]
  simp [ArtifactIds.toJson, Json.canon, items]

@[simp] theorem accepted_artifactIds (a : ArtifactIds) : a.toJson.accepted = true := by
  have items : ∀ ids : List ArtifactId,
      Json.acceptedItems (ids.map fun id => Json.str id.text) = true := by
    intro ids
    induction ids with
    | nil => rfl
    | cons id ids ih => simp [Json.acceptedItems, Json.accepted, ih]
  simp [ArtifactIds.toJson, Json.accepted, items]

end Molly
