import Molly.File.Tamper

/-! The lineage file: relations in the line format of the ledger, each bound to the line
before it, read by an instance that may know some identities only. -/
namespace Molly

/-! ### References -/

/-- A text that `validate_reference` returns; it may hold surrogates. -/
structure StoredReference where
  text : PyText
  valid : referenceFault text.display = none

theorem StoredReference.ext {a b : StoredReference} (same : a.text = b.text) : a = b := by
  cases a; cases b; cases same; rfl

def validateStoredReference (field : String) (text : PyText) : Except PyError StoredReference :=
  match valid : referenceFault text.display with
  | some (cls, words) => .error ⟨cls, field ++ words⟩
  | none => .ok ⟨text, valid⟩

@[simp] theorem validateStoredReference_text (r : StoredReference) (field : String) :
    validateStoredReference field r.text = .ok r := by
  unfold validateStoredReference
  split
  · rename_i fault
    cases r.valid.symm.trans fault
  · rfl

theorem validateStoredReference_ok {text : PyText} {r : StoredReference}
    (made : validateStoredReference field text = .ok r) : r.text = text := by
  unfold validateStoredReference at made
  split at made
  · cases made
  · cases made
    rfl

/-! ### Relation types -/

/-- `str.upper` on one character, exact on every character whose uppercase is one ASCII letter. -/
def upperChar (c : Char) : Char :=
  if c.isLower then c.toUpper
  else if c = '\u0131' then 'I'
  else if c = '\u017F' then 'S'
  else c

def relationTypes : List RelationType := [.consumedBy, .producedBy, .derivedFrom, .supportedBy]

/-- `_relation_value`. -/
def relationValue [PrintableText] : PyValue → Except PyError RelationType
  | .str text =>
    let normalized := String.ofList ((strip text.display.toList).map upperChar)
    match relationTypes.find? (·.value = normalized) with
    | some relationType => .ok relationType
    | none => .error ⟨.lineage, "unknown lineage relation: " ++ (reprText text).display⟩
  | _ => .error ⟨.lineage, "relation type must be a string"⟩

@[simp] theorem relationValue_value [PrintableText] (t : RelationType) :
    relationValue (.str (PyText.ofString t.value)) = .ok t := by
  have named : relationTypes.find? (·.value = String.ofList ((strip t.value.toList).map upperChar)) = some t := by
    cases t <;> decide
  simp only [relationValue, PyText.display_ofString, named]

/-! ### Relations -/

/-- A `LineageRelation` as its file holds it. -/
structure StoredRelation where
  relationType : RelationType
  subjectId : StoredReference
  objectId : StoredReference
  relationId : Identifier
  createdAt : Timestamp
  metadata : PyMapping
  previousRelationSha256 : Option Digest
  relationSha256 : Option Digest

namespace StoredRelation

def entries (r : StoredRelation) : List (String × PyValue) :=
  [("relation_type", .str (PyText.ofString r.relationType.value)), ("subject_id", .str r.subjectId.text),
    ("object_id", .str r.objectId.text), ("relation_id", .str (PyText.ofString r.relationId.text)),
    ("created_at", .str (PyText.ofString r.createdAt.text)), ("metadata", r.metadata.toValue),
    ("previous_relation_sha256", pyOptionalText Digest.text r.previousRelationSha256)]

def digestEntry (r : StoredRelation) : String × PyValue :=
  ("relation_sha256", pyOptionalText Digest.text r.relationSha256)

/-- `to_dict`. -/
def toDict (r : StoredRelation) (includeDigest : Bool) : PyFields :=
  (r.entries ++ if includeDigest then [r.digestEntry] else []).map fun f => (PyText.ofString f.1, f.2)

/-- `computed_sha256`. -/
def computedSha256 [Sha256] (r : StoredRelation) : Except PyError Digest :=
  match (PyValue.obj (r.toDict false)).canonicalBytes with
  | .error error => .error error
  | .ok bytes => .ok (sha256Bytes bytes)

def withDigest (r : StoredRelation) (digest : Option Digest) : StoredRelation := { r with relationSha256 := digest }

/-- The guarded part of `from_dict`: the arguments, then the checks of the constructor. -/
def parse [PrintableText] (value : PyFields) : Except PyError StoredRelation := do
  let text key := PyValue.toText <$> pyItem value key
  let relationType ← pyItem value "relation_type"
  let subjectId ← text "subject_id"
  let objectId ← text "object_id"
  let relationId ← text "relation_id"
  let createdAt ← text "created_at"
  let metadata ← (pyGet value "metadata" (.obj [])).toDict
  let relationType ← relationValue relationType
  let relationId ← validateIdentifier "relation_id" relationId.display
  let subjectId ← validateStoredReference "subject_id" subjectId
  let objectId ← validateStoredReference "object_id" objectId
  let createdAt ← normalizeTimestamp "created_at" createdAt.display
  let metadata ← freezePyFields "lineage metadata" metadata
  let previousRelationSha256 ← optionally (validateSha256 "previous_relation_sha256")
    (pyOptional value "previous_relation_sha256")
  let relationSha256 ← optionally (validateSha256 "relation_sha256") (pyOptional value "relation_sha256")
  return ⟨relationType, subjectId, objectId, relationId, createdAt, metadata, previousRelationSha256, relationSha256⟩

/-- `from_dict`. -/
def fromDict [Sha256] [PrintableText] : PyValue → Except PyError StoredRelation
  | .obj value => do
    let relation ← orMalformed (parse value) .lineage "lineage record is malformed"
    match relation.relationSha256 with
    | none => throw ⟨.lineage, "persisted lineage record has no digest"⟩
    | some digest =>
      let computed ← relation.computedSha256
      if computed ≠ digest then throw ⟨.lineage, "lineage record digest mismatch"⟩
      else return relation
  | _ => throw ⟨.lineage, "lineage record must be a JSON object"⟩

end StoredRelation

namespace ArtifactLineage
variable [Sha256] [PrintableText]

/-- One line of `_read_relations`. -/
def readLine (number : Nat) (raw : Bytes) : Except PyError StoredRelation :=
  if raw.getLast? ≠ some 10 then .error ⟨.lineage, "lineage line " ++ toString number ++ " is truncated"⟩
  else
    let invalid : PyError := ⟨.lineage, "lineage line " ++ toString number ++ " is invalid JSON"⟩
    match decodeUtf8 raw.dropLast with
    | none => .error invalid
    | some text =>
      match loads text with
      | .error .decode => .error invalid
      | .error .digits => .error ⟨.valueError, "Exceeds the limit for integer string conversion"⟩
      | .ok value => StoredRelation.fromDict value

/-- The loop of `_read_relations`, by an instance with these known identities. -/
def readLines (strict : Bool) (known : List PyText) (number : Nat) (previous : Option Digest) (seen : List Identifier) :
    List Bytes → Except PyError (List StoredRelation)
  | [] => .ok []
  | raw :: lines =>
    match readLine number raw with
    | .error e => .error e
    | .ok relation =>
      if relation.relationId ∈ seen then .error ⟨.lineage, "lineage contains a duplicate relation ID"⟩
      else if relation.previousRelationSha256 ≠ previous then
        .error ⟨.lineage, "lineage relation chain is discontinuous"⟩
      else if strict = true ∧ (relation.subjectId.text ∉ known ∨ relation.objectId.text ∉ known) then
        .error ⟨.lineage, "lineage relation references an unknown identity"⟩
      else
        match readLines strict known (number + 1) relation.relationSha256 (relation.relationId :: seen) lines with
        | .error e => .error e
        | .ok relations => .ok (relation :: relations)

/-- `_read_relations`, on the bytes of the file; no file reads as an empty one. -/
def readFile (strict : Bool) (known : List PyText) (file : Bytes) : Except PyError (List StoredRelation) :=
  readLines strict known 1 none [] (rawLines file)

end ArtifactLineage

namespace StoredRelation

/-! ### A relation is read back from its dict -/

theorem lookup_toDict (r : StoredRelation) (included : Bool) (key : String) :
    (PyValue.canonFields (r.toDict included)).lookup (PyText.ofString key) =
      ((r.entries ++ if included then [r.digestEntry] else []).lookup key).map PyValue.canon := by
  rw [lookup_pyCanonFields, toDict, StoredEvent.lookup_named]

/-- The body of a relation determines everything but its stored digest. -/
theorem parse_body [PrintableText] (r : StoredRelation) :
    parse (PyValue.canonFields (r.toDict false)) = .ok (r.withDigest none) := by
  have named (key : String) {v : PyValue} (listed : r.entries.lookup key = some v) (frozen : v.canon = v) :
      (PyValue.canonFields (r.toDict false)).lookup (PyText.ofString key) = some v := by
    rw [lookup_toDict]
    simp [listed, frozen]
  have relationType := named "relation_type" rfl rfl
  have subjectId := named "subject_id" rfl rfl
  have objectId := named "object_id" rfl rfl
  have relationId := named "relation_id" rfl rfl
  have createdAt := named "created_at" rfl rfl
  have metadata := named "metadata" rfl (PyMapping.canon_toValue _)
  have previous := StoredEvent.optionally_pyOptional (validateSha256_text · "previous_relation_sha256")
    (named "previous_relation_sha256" rfl (StoredEvent.canon_pyOptionalText _ _))
  have absent : (PyValue.canonFields (r.toDict false)).lookup (PyText.ofString "relation_sha256") = none := by
    rw [lookup_toDict]
    rfl
  have stored : optionally (validateSha256 "relation_sha256")
      (pyOptional (PyValue.canonFields (r.toDict false)) "relation_sha256") = .ok none := by
    simp [pyOptional, absent, optionally]
  simp [parse, pyItem, pyGet, relationType, subjectId, objectId, relationId, createdAt, metadata, previous, stored,
    PyMapping.toValue, PyValue.toDict, withDigest, bind, Except.bind, Functor.map, Except.map, pure, Except.pure]

/-! ### The texts that `str` makes -/

theorem scalar_append {a b : PyText} (first : a.Scalar) (second : b.Scalar) : PyText.Scalar (a ++ b) := by
  intro p member
  rcases List.mem_append.mp member with member | member
  · exact first p member
  · exact second p member

theorem hexPoints_scalar (width n : Nat) : (hexPoints width n).Scalar := by
  intro p member
  obtain ⟨c, _, rfl⟩ := List.mem_map.mp member
  exact CodePoint.ofChar_scalar c

/-- `repr` never leaves a surrogate standing: it is not printable. -/
theorem reprPoint_scalar [PrintableText] {mark : CodePoint} (plain : mark.isSurrogate = false) (p : CodePoint) :
    (reprPoint mark p).Scalar := by
  have literal (s : String) : (PyText.ofString s).Scalar := PyText.ofString_scalar s
  have escaped (s : String) (width : Nat) : PyText.Scalar (PyText.ofString s ++ hexPoints width p.val) :=
    scalar_append (literal s) (hexPoints_scalar width p.val)
  unfold reprPoint
  split
  · rename_i special
    have back : CodePoint.isSurrogate 92 = false := by decide
    intro q member
    rcases List.mem_cons.mp member with rfl | member
    · exact back
    · obtain rfl : q = p := by simpa using member
      rcases special with rfl | rfl
      · exact plain
      · exact back
  · split
    · exact literal _
    · split
      · exact literal _
      · split
        · exact literal _
        · split
          · exact escaped _ _
          · split
            · rename_i shown
              intro q member
              obtain rfl : q = p := by simpa using member
              by_cases surrogate : q.isSurrogate = true
              · rcases shown with small | printable
                · simp only [CodePoint.isSurrogate, CodePoint.isHigh, CodePoint.isLow, Bool.or_eq_true,
                    Bool.and_eq_true, decide_eq_true_eq] at surrogate
                  omega
                · rw [PrintableText.surrogate q surrogate] at printable
                  cases printable
              · simpa using surrogate
            · split
              · exact escaped _ _
              · split
                · exact escaped _ _
                · exact escaped _ _

theorem reprText_scalar [PrintableText] (text : PyText) : (reprText text).Scalar := by
  have marked (mark : CodePoint) (plain : mark.isSurrogate = false) :
      PyText.Scalar (mark :: text.flatMap (reprPoint mark) ++ [mark]) := by
    intro p member
    simp only [List.cons_append, List.mem_cons, List.mem_append, List.mem_flatMap, List.not_mem_nil, or_false] at member
    rcases member with rfl | ⟨q, _, found⟩ | rfl
    · exact plain
    · exact reprPoint_scalar plain q p found
    · exact plain
  unfold reprText
  split
  · exact marked 34 (by decide)
  · exact marked 39 (by decide)

mutual
theorem repr_scalar [PrintableText] : ∀ v : PyValue, v.repr.Scalar
  | .null | .bool _ | .int _ | .float _ | .nonFinite _ => by
    simp only [PyValue.repr]
    exact PyText.ofString_scalar _
  | .str text => by
    simp only [PyValue.repr]
    exact reprText_scalar text
  | .arr items => by
    simp only [PyValue.repr]
    exact scalar_append (scalar_append (PyText.ofString_scalar _) (reprItems_scalar items)) (PyText.ofString_scalar _)
  | .obj fields => by
    simp only [PyValue.repr]
    exact scalar_append (scalar_append (PyText.ofString_scalar _) (reprFields_scalar fields)) (PyText.ofString_scalar _)

theorem reprItems_scalar [PrintableText] : ∀ items : List PyValue, (PyValue.reprItems items).Scalar
  | [] => by simp [PyValue.reprItems, PyText.Scalar]
  | [item] => by
    simp only [PyValue.reprItems]
    exact repr_scalar item
  | item :: next :: rest => by
    rw [PyValue.reprItems]
    · exact scalar_append (scalar_append (repr_scalar item) (PyText.ofString_scalar _)) (reprItems_scalar (next :: rest))
    · simp

theorem reprFields_scalar [PrintableText] : ∀ fields : PyFields, (PyValue.reprFields fields).Scalar
  | [] => by simp [PyValue.reprFields, PyText.Scalar]
  | [(key, item)] => by
    simp only [PyValue.reprFields]
    exact scalar_append (scalar_append (reprText_scalar key) (PyText.ofString_scalar _)) (repr_scalar item)
  | (key, item) :: next :: rest => by
    rw [PyValue.reprFields]
    · exact scalar_append (scalar_append (scalar_append (scalar_append (reprText_scalar key)
        (PyText.ofString_scalar _)) (repr_scalar item)) (PyText.ofString_scalar _)) (reprFields_scalar (next :: rest))
    · simp
end

theorem toText_unpaired [PrintableText] {v : PyValue} (clean : v.Clean) : v.toText.Unpaired := by
  cases v with
  | str text => exact clean.2
  | _ => exact (repr_scalar _).unpaired

/-! ### The canonical bytes of a relation -/

/-- The metadata has a text, and no surrogate pair stands in the strings of the relation. -/
structure Settled (r : StoredRelation) : Prop where
  subjectId : r.subjectId.text.Unpaired
  objectId : r.objectId.text.Unpaired
  metadata : CleanFields r.metadata.fields

theorem entry_value (r : StoredRelation) : ∀ f ∈ r.entries,
    f.1 ∈ ["relation_type", "subject_id", "object_id", "relation_id", "created_at", "metadata",
      "previous_relation_sha256"] ∧ f.2.accepted = true ∧ (r.Settled → f.2.Clean) := by
  have text (s : String) : (PyValue.str (PyText.ofString s)).Clean := ⟨rfl, (PyText.ofString_scalar s).unpaired⟩
  intro f member
  simp only [entries, List.mem_cons, List.not_mem_nil, or_false] at member
  rcases member with rfl | rfl | rfl | rfl | rfl | rfl | rfl
  · exact ⟨by simp, rfl, fun _ => text _⟩
  · exact ⟨by simp, rfl, fun settled => ⟨rfl, settled.subjectId⟩⟩
  · exact ⟨by simp, rfl, fun settled => ⟨rfl, settled.objectId⟩⟩
  · exact ⟨by simp, rfl, fun _ => text _⟩
  · exact ⟨by simp, rfl, fun _ => text _⟩
  · exact ⟨by simp, r.metadata.accepted_toValue, fun settled => clean_obj.mpr settled.metadata⟩
  · refine ⟨by simp, ?_⟩
    cases r.previousRelationSha256 with
    | none => exact ⟨rfl, fun _ => ⟨rfl, trivial⟩⟩
    | some digest => exact ⟨rfl, fun _ => text _⟩

theorem toDict_accepted (r : StoredRelation) : (PyValue.obj (r.toDict false)).accepted = true := by
  refine acceptedFields_iff.mpr fun f member => ?_
  obtain ⟨entry, found, rfl⟩ := List.mem_map.mp member
  rw [if_neg (by simp), List.append_nil] at found
  obtain ⟨named, accepted, _⟩ := r.entry_value entry found
  have plain : entry.1 ≠ "" ∧ sensitiveKey entry.1 = false := by
    have all : ∀ key ∈ ["relation_type", "subject_id", "object_id", "relation_id", "created_at", "metadata",
        "previous_relation_sha256"], key ≠ "" ∧ sensitiveKey key = false := by decide +kernel
    exact all _ named
  refine ⟨?_, by rw [PyText.display_ofString]; exact plain.2, accepted⟩
  intro empty
  exact plain.1 (PyText.ofString_injective (empty.trans (by simp [PyText.ofString])))

theorem toDict_clean {r : StoredRelation} (settled : r.Settled) : (PyValue.obj (r.toDict false)).Clean := by
  refine clean_obj.mpr fun f member => ?_
  obtain ⟨entry, found, rfl⟩ := List.mem_map.mp member
  rw [if_neg (by simp), List.append_nil] at found
  exact ⟨(PyText.ofString_scalar _).unpaired, (r.entry_value entry found).2.2 settled⟩

section
variable [Sha256]

/-- The bytes whose digest a relation carries. -/
def body (r : StoredRelation) : Bytes := (PyValue.obj (r.toDict false)).encode

/-- The relation's stored digest is the one of its body. -/
def Sealed (r : StoredRelation) : Prop := r.relationSha256 = some (sha256Bytes r.body)

theorem computedSha256_ok {r : StoredRelation} {digest : Digest} (computed : r.computedSha256 = .ok digest) :
    digest = sha256Bytes r.body := by
  unfold computedSha256 at computed
  split at computed
  · cases computed
  · rename_i bytes encoded
    obtain ⟨_, rfl⟩ := (StoredEvent.canonicalBytes_ok r.toDict_accepted).mp encoded
    cases computed
    rfl

variable [PrintableText]

omit [Sha256] in
/-- What the guarded part read of the relation's texts and its metadata. -/
theorem parse_settled {value : PyFields} {r : StoredRelation} (clean : CleanFields value)
    (parsed : parse value = .ok r) : r.Settled := by
  simp only [parse, bind_ok, pure, Except.pure, Except.ok.injEq] at parsed
  obtain ⟨_, _, subjectText, subjectFound, objectText, objectFound, _, _, _, _, fields, metadata, _, _, _, _,
    subjectId, subject, objectId, object, _, _, frozen, frozenMeta, _, _, _, _, rfl⟩ := parsed
  have item (key : String) {v : PyValue} (found : pyItem value key = .ok v) : v.Clean := by
    unfold pyItem at found
    split at found
    · rename_i v listed
      cases found
      obtain ⟨before, after, split, _⟩ := List.lookup_eq_some_iff.mp listed
      exact (clean (PyText.ofString key, v) (by simp [split])).2
    · cases found
  have text (key : String) {t : PyText} (found : PyValue.toText <$> pyItem value key = .ok t) : t.Unpaired := by
    cases read : pyItem value key with
    | error e => simp [read, Functor.map, Except.map] at found
    | ok v =>
      obtain rfl : v.toText = t := by simpa [read, Functor.map, Except.map] using found
      exact toText_unpaired (item key read)
  have kept : (pyGet value "metadata" (.obj [])).Clean :=
    clean_pyGet clean (clean_obj.mpr (by simp [CleanFields])) "metadata"
  constructor
  · simpa [validateStoredReference_ok subject] using text _ subjectFound
  · simpa [validateStoredReference_ok object] using text _ objectFound
  · exact clean_freezePyFields (clean_toDict kept metadata) frozenMeta

/-- An accepted object is a relation in the form it is written in. -/
theorem fromDict_ok {value : PyValue} {r : StoredRelation} (clean : value.Clean) (read : fromDict value = .ok r) :
    r.Settled ∧ r.Sealed := by
  cases value with
  | obj fields =>
    simp only [fromDict, bind_ok, orMalformed_eq_ok] at read
    obtain ⟨relation, parsed, checked⟩ := read
    split at checked
    · cases checked
    · rename_i digest stored
      obtain ⟨computed, made, checked⟩ := bind_ok.mp checked
      split at checked
      · cases checked
      · rename_i same
        cases checked
        rw [ne_eq, Decidable.not_not] at same
        subst same
        exact ⟨parse_settled (clean_obj.mp clean) parsed, stored.trans (congrArg some (computedSha256_ok made))⟩
  | _ => cases read

/-- Relations with equal bodies are equal. -/
theorem eq_of_body {r s : StoredRelation} (settled : r.Settled) (settled' : s.Settled) (sealed : r.Sealed)
    (sealed' : s.Sealed) (same : r.body = s.body) : r = s := by
  have clean := toDict_clean settled
  have clean' := toDict_clean settled'
  have frozen := encode_injective (canon_settled _ r.toDict_accepted clean.1 clean.2)
    (canon_settled _ s.toDict_accepted clean'.1 clean'.2) same
  simp only [PyValue.canon, PyValue.obj.injEq] at frozen
  have first := parse_body r
  rw [frozen, parse_body s, Except.ok.injEq] at first
  have stored : r.relationSha256 = s.relationSha256 := by rw [sealed, sealed', same]
  have whole := congrArg (fun x => x.withDigest r.relationSha256) first
  calc r = (r.withDigest none).withDigest r.relationSha256 := rfl
    _ = (s.withDigest none).withDigest r.relationSha256 := whole.symm
    _ = s := by rw [stored]; rfl

end
end StoredRelation

namespace ArtifactLineage
variable [Sha256] [PrintableText]

theorem readLine_ok {number : Nat} {raw : Bytes} {r : StoredRelation} (read : readLine number raw = .ok r) :
    r.Settled ∧ r.Sealed := by
  unfold readLine at read
  split at read
  · cases read
  · dsimp only at read
    split at read
    · cases read
    · split at read
      · cases read
      · cases read
      · rename_i value loaded
        exact StoredRelation.fromDict_ok (loads_clean loaded) read

/-- The digest of the body, which is the stored one. -/
def bodyDigest (r : StoredRelation) : Digest := sha256Bytes r.body

/-- The relations of a readable file, in their written form and linked by their digests. -/
theorem readLines_ok {strict : Bool} {known : List PyText} : ∀ {lines : List Bytes} {number : Nat}
    {previous : Option Digest} {seen : List Identifier} {relations : List StoredRelation},
    readLines strict known number previous seen lines = .ok relations →
    (∀ r ∈ relations, r.Settled ∧ r.Sealed) ∧
      Effect.HashChain.LinkedFrom bodyDigest StoredRelation.previousRelationSha256 previous relations
  | [], _, _, _, _, read => by
    cases read
    simp [Effect.HashChain.LinkedFrom]
  | raw :: lines, number, previous, seen, relations, read => by
    unfold readLines at read
    split at read
    · cases read
    · rename_i relation head
      have written := readLine_ok head
      split at read
      · cases read
      · split at read
        · cases read
        · rename_i linked
          rw [ne_eq, Decidable.not_not] at linked
          split at read
          · cases read
          · split at read
            · cases read
            · rename_i more tail
              cases read
              have stored : relation.relationSha256 = some (bodyDigest relation) := written.2
              rw [stored] at tail
              obtain ⟨each, chained⟩ := readLines_ok tail
              exact ⟨by simpa [written] using each, linked, chained⟩

theorem relations_eq_of_tip {strict strict' : Bool} {known known' : List PyText} {file file' : Bytes}
    {relations relations' : List StoredRelation} {last last' : StoredRelation}
    (read : readFile strict known file = .ok relations) (read' : readFile strict' known' file' = .ok relations')
    (ends : relations.getLast? = some last) (ends' : relations'.getLast? = some last')
    (same : last.relationSha256 = last'.relationSha256)
    (free : CollisionFree (relations.map (·.body) ++ relations'.map (·.body))) : relations = relations' := by
  obtain ⟨written, linked⟩ := readLines_ok read
  obtain ⟨written', linked'⟩ := readLines_ok read'
  apply Effect.HashChain.eq_of_tip linked linked'
  · have sealed : last.relationSha256 = some (bodyDigest last) := (written last (List.mem_of_getLast? ends)).2
    have sealed' : last'.relationSha256 = some (bodyDigest last') := (written' last' (List.mem_of_getLast? ends')).2
    simp only [Effect.HashChain.tip, ends, ends']
    rw [← sealed, ← sealed', same]
  · intro r member s member' hashes
    obtain ⟨settled, sealed⟩ := written r member
    obtain ⟨settled', sealed'⟩ := written' s member'
    have bodies := free r.body (List.mem_append_left _ (List.mem_map_of_mem member)) s.body
      (List.mem_append_right _ (List.mem_map_of_mem member')) hashes
    exact StoredRelation.eq_of_body settled settled' sealed sealed' bodies

end ArtifactLineage
/-- Of two readable ledger files, or of two readable lineage files, that end in the same
digest, one holds what the other holds. -/
theorem tamper_evident [Sha256] [PrintableText] (file file' : Bytes) :
    (∀ events events' last last', RunLedger.readEvents file = .ok events → RunLedger.readEvents file' = .ok events' →
      events.getLast? = some last → events'.getLast? = some last' → last.eventSha256 = last'.eventSha256 →
      CollisionFree (events.map (·.body) ++ events'.map (·.body)) → events = events') ∧
    (∀ strict strict' known known' relations relations' last last',
      ArtifactLineage.readFile strict known file = .ok relations →
      ArtifactLineage.readFile strict' known' file' = .ok relations' →
      relations.getLast? = some last → relations'.getLast? = some last' → last.relationSha256 = last'.relationSha256 →
      CollisionFree (relations.map (·.body) ++ relations'.map (·.body)) → relations = relations') := by
  constructor
  · intro events events' last last' read read' ends ends' same free
    exact RunLedger.events_eq_of_tip read read' ends ends' same free
  · intro strict strict' known known' relations relations' last last' read read' ends ends' same free
    exact ArtifactLineage.relations_eq_of_tip read read' ends ends' same free

/-! ### A file with a space added -/

namespace Sample
attribute [local instance] standardSha256 asciiPrintable

def line : Bytes :=
  match RunLedger.appendLine [] (entry "evt_line") with
  | .ok (_, line) => line
  | .error _ => []

/-- A space after the opening brace. -/
def spaced (file : Bytes) : Bytes := file.take 1 ++ 32 :: file.drop 1

def relation : StoredRelation :=
  ⟨.derivedFrom, ⟨PyText.ofString "a", by decide +kernel⟩, ⟨PyText.ofString "b", by decide +kernel⟩,
    ⟨"rel_line", by decide +kernel⟩, ⟨2026, 1, 2, 12, 0, 0, 0, by decide⟩, remark, none, none⟩

def relationLine : Bytes :=
  (PyValue.obj ((relation.withDigest (some (sha256Bytes relation.body))).toDict true)).encode ++ [10]

instance (inputs : List Bytes) : Decidable (CollisionFree inputs) := by
  unfold CollisionFree
  infer_instance

/-- Both files read as one event, with the digest of the same body. -/
def agree (read read' : Except PyError (List α)) (digest : α → Option β) [DecidableEq β] (body : α → Bytes) : Bool :=
  match read, read' with
  | .ok [e], .ok [f] => digest e = digest f && decide (CollisionFree [body e, body f])
  | _, _ => false

theorem agree_ok [DecidableEq β] {read read' : Except PyError (List α)} {digest : α → Option β} {body : α → Bytes}
    (agreed : agree read read' digest body = true) : ∃ e f, read = .ok [e] ∧ read' = .ok [f] ∧ digest e = digest f ∧
      CollisionFree [body e, body f] := by
  unfold agree at agreed
  split at agreed
  · simp only [Bool.and_eq_true, decide_eq_true_eq] at agreed
    exact ⟨_, _, rfl, rfl, agreed⟩
  · cases agreed

theorem tamper_evident_spaced : (∃ events, line ≠ spaced line ∧ RunLedger.readEvents line = .ok events ∧
    RunLedger.readEvents (spaced line) = .ok events) ∧ ∃ relations, relationLine ≠ spaced relationLine ∧
    ArtifactLineage.readFile false [] relationLine = .ok relations ∧
    ArtifactLineage.readFile false [] (spaced relationLine) = .ok relations := by
  obtain ⟨e, f, read, read', digests, free⟩ := agree_ok
    (show agree (RunLedger.readEvents line) (RunLedger.readEvents (spaced line)) StoredEvent.eventSha256
      StoredEvent.body = true by decide +kernel)
  have events := (tamper_evident line (spaced line)).1 [e] [f] e f read read' rfl rfl digests free
  obtain ⟨r, s, found, found', sealed, apart⟩ := agree_ok
    (show agree (ArtifactLineage.readFile false [] relationLine) (ArtifactLineage.readFile false [] (spaced relationLine))
      StoredRelation.relationSha256 StoredRelation.body = true by decide +kernel)
  have relations := (tamper_evident relationLine (spaced relationLine)).2 false false [] [] [r] [s] r s found found' rfl
    rfl sealed apart
  exact ⟨⟨_, by decide +kernel, read, events ▸ read'⟩, _, by decide +kernel, found, relations ▸ found'⟩

end Sample
end Molly
