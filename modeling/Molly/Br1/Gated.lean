import Molly.Br1.Formula
import Molly.Br1.SourceTexts
import Molly.Br1.Upload
import Molly.File.Joined
import Molly.File.Persisted
import Mathlib.Data.List.DropRight

/-! The dataset gate on what the cleaning publishes. -/
namespace Molly

namespace PyText

theorem unpaired_of_append : ∀ {s t : PyText}, (s ++ t).Unpaired → s.Unpaired ∧ t.Unpaired
  | [], _, whole => ⟨trivial, whole⟩
  | [p], [], _ => ⟨trivial, trivial⟩
  | [p], q :: rest, whole => ⟨trivial, whole.2⟩
  | p :: q :: rest, t, whole => by
    have later := unpaired_of_append (s := q :: rest) whole.2
    exact ⟨⟨whole.1, later.1⟩, later.2⟩

/-- What follows scalar values stays without pairs. -/
theorem unpaired_after : ∀ {s t : PyText}, s.Scalar → t.Unpaired → (s ++ t).Unpaired
  | [], _, _, unpaired => unpaired
  | [p], [], _, _ => trivial
  | [p], q :: rest, scalar, unpaired => by
    refine ⟨fun pair => ?_, unpaired⟩
    have plain := scalar p List.mem_cons_self
    rw [CodePoint.isSurrogate, pair.1] at plain
    cases plain
  | p :: q :: rest, t, scalar, unpaired => by
    refine ⟨fun pair => ?_, unpaired_after (s := q :: rest) (fun r member => scalar r (List.mem_cons_of_mem _ member)) unpaired⟩
    have plain := scalar p List.mem_cons_self
    rw [CodePoint.isSurrogate, pair.1] at plain
    cases plain

theorem strip_infix (text : PyText) : ∃ before after, text = before ++ text.strip ++ after := by
  obtain ⟨before, first⟩ := List.dropWhile_suffix (fun p => isSpace (CodePoint.toChar p)) (l := text)
  obtain ⟨after, second⟩ := List.dropWhile_suffix (fun p => isSpace (CodePoint.toChar p))
    (l := (text.dropWhile fun p => isSpace p.toChar).reverse)
  refine ⟨before, after.reverse, ?_⟩
  rw [List.append_assoc, strip, ← List.reverse_append, second, List.reverse_reverse, first]

theorem strip_unpaired {text : PyText} (unpaired : text.Unpaired) : text.strip.Unpaired := by
  obtain ⟨before, after, split⟩ := text.strip_infix
  rw [split] at unpaired
  exact (unpaired_of_append (unpaired_of_append unpaired).1).2

/-- A text is stripped once. -/
theorem strip_strip (text : PyText) : text.strip.strip = text.strip := by
  have front : text.strip.dropWhile (fun p => isSpace p.toChar) = text.strip := by
    cases shown : text.strip with
    | nil => rfl
    | cons p rest =>
      obtain ⟨after, split⟩ := List.rdropWhile_prefix (fun p => isSpace (CodePoint.toChar p))
        (text.dropWhile fun p => isSpace p.toChar)
      have begins : text.dropWhile (fun p => isSpace p.toChar) = p :: (rest ++ after) := by
        rw [← split]
        exact congrArg (· ++ after) shown
      have head := List.head_dropWhile_not (fun p : CodePoint => isSpace p.toChar) (l := text) (by rw [begins]; exact List.cons_ne_nil _ _)
      simp only [begins, List.head_cons] at head
      rw [List.dropWhile_cons_of_neg (by simp [head])]
  have back := List.rdropWhile_idempotent (fun p => isSpace (CodePoint.toChar p)) (text.dropWhile fun p => isSpace p.toChar)
  calc text.strip.strip = List.rdropWhile (fun p => isSpace (CodePoint.toChar p)) (text.strip.dropWhile fun p => isSpace p.toChar) := rfl
    _ = List.rdropWhile (fun p => isSpace (CodePoint.toChar p)) text.strip := by rw [front]
    _ = text.strip := back

end PyText

namespace DatasetRow

/-- A row is made of texts that are references, a molecule that is drawn, and a bounded condition. -/
theorem create_iff {rowId smiles property condition source : PyText} {x : FiniteFloat} :
    (∃ d, create rowId smiles property (.float x) condition source = .ok d) ↔
      (referenceFault rowId.display = none ∧ referenceFault property.display = none ∧ referenceFault source.display = none) ∧
        (smiles.strip ≠ [] ∧ smiles.length ≤ 4096 ∧ smiles.hasNul = false) ∧ condition.length ≤ 4096 ∧ condition.hasNul = false := by
  have passes (field : String) {text : PyText} (valid : referenceFault text.display = none) :
      ∃ t, referenceOf field text = .ok t := by
    unfold referenceOf
    split
    · rename_i fault
      rw [valid] at fault
      cases fault
    · exact ⟨_, rfl⟩
  constructor
  · intro made
    obtain ⟨d, made⟩ := made
    unfold create at made
    obtain ⟨row, _, made⟩ := bind_ok.mp made
    obtain ⟨property', _, made⟩ := bind_ok.mp made
    obtain ⟨source', _, made⟩ := bind_ok.mp made
    split at made
    · rename_i drawn
      split at made
      · rename_i bounded
        exact ⟨⟨row.2.1 ▸ row.2.2, property'.2.1 ▸ property'.2.2, source'.2.1 ▸ source'.2.2⟩, drawn, bounded⟩
      · cases made
    · cases made
  · intro conditions
    obtain ⟨⟨row, property', source'⟩, drawn, bounded⟩ := conditions
    obtain ⟨_, row⟩ := passes "row_id" row
    obtain ⟨_, property'⟩ := passes "target_property" property'
    obtain ⟨_, source'⟩ := passes "source_reference" source'
    unfold create
    rw [row, property', source']
    dsimp only [bind, Except.bind]
    rw [dif_pos drawn, dif_pos bounded]
    exact ⟨_, rfl⟩

end DatasetRow

namespace Cleaning
open Effect (firsts firsts_sublist)

/-! ### The keys of what is published -/

theorem keyed_text (s : String) : (text s).Keyed := PyValue.keyed_str _

theorem keyed_counts {counts : List (PyText × Nat)} (known : ∀ f ∈ counts, f.1.Unpaired) :
    (PyValue.obj (counts.map fun f => (f.1, .int f.2))).Keyed := by
  rw [PyValue.Keyed, PyValue.joined, joinedFields_eq, PyValue.Unpaired, unpairedFields_iff, List.map_map]
  intro f member
  obtain ⟨count, there, rfl⟩ := List.mem_map.mp member
  exact ⟨known count there, trivial⟩

theorem CleanRow.keyed (row : CleanRow) : (PyValue.named row.entries).Keyed := by
  rw [PyValue.named, PyValue.keyed_named]
  intro f member
  simp only [CleanRow.entries, List.mem_cons, List.not_mem_nil, or_false] at member
  rcases member with rfl | rfl | rfl | rfl | rfl | rfl <;> simp

section
variable {a : CleaningArguments} {c : Cleaned}

theorem Cleaned.transformation_keyed (c : Cleaned) (a : CleaningArguments) : (PyValue.named (c.transformation a)).Keyed := by
  rw [PyValue.named, PyValue.keyed_named]
  intro f member
  simp only [Cleaned.transformation, List.mem_cons, List.not_mem_nil, or_false] at member
  rcases member with rfl | rfl | rfl | rfl | rfl | rfl | rfl | rfl | rfl | rfl | rfl | rfl <;> simp [keyed_text]

variable [Sha256] [Sha512]

theorem Cleaned.report_keyed (known : ∀ f ∈ c.final.reasonCounts, f.1.Unpaired) (digest : Digest) :
    (PyValue.named (c.report a digest)).Keyed := by
  rw [PyValue.named, PyValue.keyed_named]
  intro f member
  simp only [Cleaned.report, List.mem_cons, List.not_mem_nil, or_false] at member
  rcases member with rfl | rfl | rfl | rfl | rfl | rfl | rfl | rfl | rfl | rfl | rfl | rfl | rfl | rfl | rfl | rfl | rfl <;>
    dsimp only
  all_goals first
    | exact PyValue.keyed_str _
    | exact PyValue.keyed_int _
    | exact keyed_text _
    | exact keyed_counts known

theorem Cleaned.body_keyed (known : ∀ f ∈ c.final.reasonCounts, f.1.Unpaired) (digest : Digest) :
    (PyValue.named (c.body a digest)).Keyed := by
  have rows : (PyValue.arr (c.final.rows.map fun row => .named row.entries)).Keyed := by
    rw [PyValue.keyed_arr]
    intro v there
    obtain ⟨row, _, rfl⟩ := List.mem_map.mp there
    exact row.keyed
  rw [PyValue.named, PyValue.keyed_named]
  intro f member
  simp only [Cleaned.body, List.mem_cons, List.not_mem_nil, or_false] at member
  rcases member with rfl | rfl | rfl | rfl | rfl | rfl | rfl | rfl | rfl | rfl | rfl | rfl | rfl | rfl | rfl | rfl | rfl | rfl <;>
    dsimp only
  all_goals first
    | exact PyValue.keyed_str _
    | exact PyValue.keyed_int _
    | exact PyValue.keyed_bool _
    | exact keyed_text _
    | exact c.transformation_keyed a
    | exact Cleaned.report_keyed known digest
    | exact rows

end

/-! ### The gate on the published content -/

theorem states_readFields {entries : List (String × PyValue)} {key value : String} (found : entries.lookup key = some (text value)) :
    DatasetGate.states (PyValue.readFields (entries.map fun f => (PyText.ofString f.1, f.2))) key value = true := by
  rw [DatasetGate.states, PyValue.pyGet_readFields, found, Option.map_some, Option.getD_some, text, PyValue.readBack_str,
    PyText.joined_ofString]
  simp [PyValue.equal]

theorem pyItem_readFields {entries : List (String × PyValue)} {key : String} {value : PyText} (unpaired : value.Unpaired)
    (found : entries.lookup key = some (.str value)) :
    pyItem (PyValue.readFields (entries.map fun f => (PyText.ofString f.1, f.2))) key = .ok (.str value) := by
  rw [pyItem, PyValue.lookup_readFields, found, Option.map_some, PyValue.readBack_str, PyText.joined_of_unpaired unpaired]

def cleanedSchema : Option String := some "molly.br1.cleaned-dataset"

section
variable {a : CleaningArguments} {c : Cleaned} [PrintableText] [Sha256] [Sha512]

/-- What the gate makes of a published row. -/
def gateRow (row : CleanRow) : Except PyError DatasetRow := DatasetGate.plainRow "cleaned" (PyValue.named row.entries).readBack

/-- The rows of the content are read one by one. -/
theorem cleanedRows_body (digest : Digest) :
    DatasetGate.cleanedRows (PyValue.readFields ((c.body a digest).map fun f => (PyText.ofString f.1, f.2))) =
      c.final.rows.mapM gateRow := by
  have recreated : (c.body a digest).lookup "review_record_recreated" = some (.bool false) := rfl
  have listed : (c.body a digest).lookup "rows" = some (.arr (c.final.rows.map fun row => .named row.entries)) := rfl
  have named : (c.body a digest).lookup "schema_name" = some (text "molly.br1.cleaned-dataset") := rfl
  have versioned : (c.body a digest).lookup "schema_version" = some (text "1") := rfl
  have status : (c.body a digest).lookup "review_status" = some (text "CLEANED_DATASET") := rfl
  rw [DatasetGate.cleanedRows, states_readFields named, states_readFields versioned, states_readFields status,
    PyValue.pyGet_readFields, recreated, DatasetGate.rowItems, PyValue.pyGet_readFields, listed]
  simp only [Option.map_some, Option.getD_some, PyValue.readBack_arr, PyValue.readBack_bool, DatasetGate.isFalse,
    Bool.and_self, ensure, if_true, bind, Except.bind, List.map_map, List.mapM_map]
  rfl

theorem rowsOf_body (digest : Digest) :
    DatasetGate.rowsOf cleanedSchema (PyValue.readFields ((c.body a digest).map fun f => (PyText.ofString f.1, f.2))) = (do
      let rows ← c.final.rows.mapM gateRow
      return (rows, "CLEANED_DATASET", PyText.ofString "operator-approved BR1 cleaning occurrence",
        some (sha256Bytes a.source, digest))) := by
  have source : (c.body a digest).lookup "source_content_digest" = some (.str (PyText.ofString (sha256Bytes a.source).text)) := rfl
  have transformation : (c.body a digest).lookup "transformation_digest" = some (.str (PyText.ofString digest.text)) := rfl
  have plain (s : String) : (PyText.ofString s).Unpaired := (PyText.ofString_scalar s).unpaired
  have digests : DatasetGate.provenance (PyValue.readFields ((c.body a digest).map fun f => (PyText.ofString f.1, f.2))) =
      .ok (sha256Bytes a.source, digest) := by
    rw [DatasetGate.provenance, pyItem_readFields (plain _) source, pyItem_readFields (plain _) transformation]
    simp only [bind, Except.bind, StoredEvent.toText_str, PyText.display_ofString, validateDigestReference_text]
    rfl
  rw [DatasetGate.rowsOf, cleanedRows_body, digests]
  rfl

/-- The content is read as a dataset whose rows are those that the gate makes of the published ones. -/
theorem content_read {digest : Digest} {content : Bytes} (known : ∀ f ∈ c.final.reasonCounts, f.1.Unpaired)
    (written : (PyValue.named (c.body a digest)).canonicalBytes = .ok content) :
    ∃ fields, DatasetGate.jsonOf content = .ok fields ∧ DatasetGate.rowsOf cleanedSchema fields = (do
      let rows ← c.final.rows.mapM gateRow
      return (rows, "CLEANED_DATASET", PyText.ofString "operator-approved BR1 cleaning occurrence",
        some (sha256Bytes a.source, digest))) := by
  obtain ⟨shown, decoded, parsed⟩ := loads_canonical written (Cleaned.body_keyed known digest)
  refine ⟨_, ?_, rowsOf_body digest⟩
  rw [DatasetGate.jsonOf, decoded]
  dsimp only
  rw [parsed, PyValue.named, PyValue.readBack_obj]

theorem inspect_rows {digest : Digest} {content : Bytes} (known : ∀ f ∈ c.final.reasonCounts, f.1.Unpaired)
    (written : (PyValue.named (c.body a digest)).canonicalBytes = .ok content) {id : ArtifactId} {requested : Option PyText}
    {inspection : DatasetInspection} (inspected : DatasetGate.inspect id cleanedSchema content requested = .ok inspection) :
    c.final.rows.mapM gateRow = .ok inspection.rows := by
  obtain ⟨fields, value, sorted⟩ := content_read known written
  rw [DatasetGate.inspect, value] at inspected
  obtain ⟨_, same, inspected⟩ := bind_ok.mp inspected
  cases same
  obtain ⟨found, read, inspected⟩ := bind_ok.mp inspected
  rw [sorted] at read
  obtain ⟨rows, gated, read⟩ := bind_ok.mp read
  cases read
  dsimp only at inspected
  obtain ⟨_, _, inspected⟩ := bind_ok.mp inspected
  split at inspected
  · cases inspected
    exact gated
  · cases inspected

theorem inspect_passes {digest : Digest} {content : Bytes} (known : ∀ f ∈ c.final.reasonCounts, f.1.Unpaired)
    (written : (PyValue.named (c.body a digest)).canonicalBytes = .ok content) (id : ArtifactId) (requested : Option PyText)
    {ds : List DatasetRow} (rows : c.final.rows.mapM gateRow = .ok ds) (filled : ds ≠ [])
    (targeted : requested.all fun target => ds.any (·.targetProperty = target)) :
    ∃ inspection, DatasetGate.inspect id cleanedSchema content requested = .ok inspection ∧ inspection.rows = ds := by
  obtain ⟨fields, value, sorted⟩ := content_read known written
  rw [DatasetGate.inspect, value]
  dsimp only [bind, Except.bind]
  rw [sorted, rows]
  dsimp only [bind, Except.bind, pure, Except.pure]
  rw [ensure, if_pos targeted]
  dsimp only
  rw [dif_pos filled]
  exact ⟨_, rfl, rfl⟩

/-- No surrogate pair stands in the texts of the row. -/
structure CleanRow.Unpaired (row : CleanRow) : Prop where
  rowId : row.rowId.Unpaired
  smiles : row.smiles.Unpaired
  targetProperty : row.targetProperty.Unpaired
  sourceReference : row.sourceReference.Unpaired

/-- The gate's row is the published one. -/
structure SameRow (row : CleanRow) (d : DatasetRow) : Prop where
  rowId : d.rowId = row.rowId
  smiles : d.smiles = row.smiles
  targetProperty : d.targetProperty = row.targetProperty
  targetValue : d.targetValue = row.targetValue
  condition : d.condition = PyText.ofString row.condition
  sourceReference : d.sourceReference = row.sourceReference

omit [Sha256] [Sha512] in
theorem gateRow_eq_ok {row : CleanRow} (unpaired : row.Unpaired) {d : DatasetRow} : gateRow row = .ok d ↔
    DatasetRow.create row.rowId row.smiles row.targetProperty (.float row.targetValue) (PyText.ofString row.condition)
      row.sourceReference = .ok d := by
  have condition : row.entries.lookup "condition" = some (text row.condition) := rfl
  have value : pyItem (PyValue.readFields (row.entries.map fun f => (PyText.ofString f.1, f.2))) "target_value" =
      .ok (.float row.targetValue) := by
    have own : row.entries.lookup "target_value" = some (.float row.targetValue) := rfl
    rw [pyItem, PyValue.lookup_readFields, own, Option.map_some, PyValue.readBack_float]
  rw [gateRow, PyValue.named, PyValue.readBack_obj, DatasetGate.plainRow, orMalformed_eq_ok,
    pyItem_readFields unpaired.rowId rfl, pyItem_readFields unpaired.smiles rfl, pyItem_readFields unpaired.targetProperty rfl,
    value, pyItem_readFields unpaired.sourceReference rfl, PyValue.pyGet_readFields, condition, Option.map_some, Option.getD_some,
    text, PyValue.readBack_str, PyText.joined_ofString]
  rfl

/-- A published row passes where its texts are within the gate's bounds, and it comes back as it was. -/
structure Passes (row : CleanRow) : Prop where
  rowId : referenceFault row.rowId.display = none
  targetProperty : referenceFault row.targetProperty.display = none
  sourceReference : referenceFault row.sourceReference.display = none
  smiles : row.smiles ≠ [] ∧ row.smiles.length ≤ 4096 ∧ row.smiles.hasNul = false
  condition : (PyText.ofString row.condition).length ≤ 4096 ∧ (PyText.ofString row.condition).hasNul = false

end

section
variable [CaseText] [DecimalText] [PrintableText]

/-- The reasons of rejections are texts without pairs. -/
theorem cleanRecords_reasons {a : CleaningArguments} {target : PyText} {records : List PyFields} {s s' : CleaningState} {position : Nat}
    (known : ∀ f ∈ s.reasonCounts, f.1.Unpaired) (ran : cleanRecords a target s position records = .ok s') :
    ∀ f ∈ s'.reasonCounts, f.1.Unpaired := by
  induction records generalizing s position with
  | nil =>
    cases ran
    exact known
  | cons record rest ih =>
    obtain ⟨next, stepped, ran⟩ := bind_ok.mp ran
    refine ih ?_ ran
    have counted (reason : String) : ∀ f ∈ Effect.Dict.tally (PyText.ofString reason) s.reasonCounts, f.1.Unpaired := by
      intro f member
      rcases Effect.Dict.mem_put member with rfl | old
      · exact (PyText.ofString_scalar reason).unpaired
      · exact known f old
    rcases cleanRecord_cases stepped with ⟨_, reason, rfl⟩ | ⟨_, taken, _, ⟨reason, _, rfl⟩ | ⟨u, _, rfl⟩⟩
    · exact counted reason
    · exact counted reason
    · unfold CleaningState.take
      split <;> exact known

variable [Sha256] [Sha512]

omit [CaseText] [DecimalText] [Sha256] [Sha512] in
/-- The gate makes a row of a published one exactly where its texts are within its bounds. -/
theorem gateRow_iff {row : CleanRow} (unpaired : row.Unpaired) (stripped : row.smiles.strip = row.smiles) :
    (∃ d, gateRow row = .ok d) ↔ Passes row := by
  simp only [gateRow_eq_ok unpaired, DatasetRow.create_iff, stripped]
  constructor
  · intro parts
    obtain ⟨⟨rowId, property, source⟩, smiles, condition⟩ := parts
    exact ⟨rowId, property, source, smiles, condition⟩
  · intro passes
    exact ⟨⟨passes.rowId, passes.targetProperty, passes.sourceReference⟩, passes.smiles, passes.condition⟩

omit [CaseText] [DecimalText] [Sha256] [Sha512] in
theorem gateRow_same {row : CleanRow} (unpaired : row.Unpaired) (stripped : row.smiles.strip = row.smiles) {d : DatasetRow}
    (made : gateRow row = .ok d) : SameRow row d := by
  obtain ⟨rowId, smiles, property, value, condition, source⟩ := DatasetRow.create_ok ((gateRow_eq_ok unpaired).mp made)
  exact ⟨rowId, smiles.trans stripped, property, (Except.ok.inj value).symm, condition, source⟩

/-! ### Kept rows -/

omit [DecimalText] [PrintableText] [Sha256] [Sha512] in
theorem columnNamed_clean {record : PyFields} (clean : CleanCells record) (names : List String) : (columnNamed record names).Clean := by
  rcases column_cases record (names.map PyText.ofString) with null | ⟨f, member, same, _⟩
  · rw [columnNamed, null]
    exact ⟨rfl, trivial⟩
  · rw [columnNamed, same]
    exact clean f member

omit [CaseText] [DecimalText] [Sha256] [Sha512] in
theorem cellText_unpaired {value : PyValue} (clean : value.Clean) : (cellText value).Unpaired := by
  unfold cellText
  split
  · exact PyText.strip_unpaired (StoredRelation.toText_unpaired clean)
  · trivial

omit [CaseText] [DecimalText] [Sha256] [Sha512] in
theorem cellText_strip (value : PyValue) : (cellText value).strip = cellText value := by
  unfold cellText
  split
  · exact PyText.strip_strip _
  · rfl

/-- The texts that a row has of its source are within the bounds of the gate. -/
structure WithinBounds (a : CleaningArguments) (u : Usable) : Prop where
  smiles : u.smiles.length ≤ 4096 ∧ u.smiles.hasNul = false
  sourceReference : referenceFault (referenceOf a (refcodeOf u.record) u.position).display = none

def nameFront : List Char := ['o', 'e', '6', '2', '_', 'd', 'f', '_', '5', 'k', '_']

/-- The characters of a row's name. -/
def nameChars (position : Nat) : List Char := nameFront ++ paddedDigits position

omit [DecimalText] [PrintableText] [Sha256] [Sha512] in
theorem rowIdOf_standard (source : Bytes) (target format : PyText) (maxRows : BoundedInt 1 100000) (position : Nat) :
    rowIdOf (.standard source target format maxRows) position = (nameChars position).map CodePoint.ofChar := by
  have folded : (PyText.ofString "OE62").casefold = PyText.ofString "oe62" := by
    rw [PyText.casefold_lower (by decide +kernel)]
    decide +kernel
  have front : PyText.ofString "oe62" ++ 95 :: PyText.ofString "df_5k" ++ [95] = nameFront.map CodePoint.ofChar := by
    decide +kernel
  rw [rowIdOf, CleaningArguments.standard]
  dsimp only
  rw [folded, paddedPosition_eq, nameChars, List.map_append, ← front, List.append_assoc, List.append_assoc]
  rfl

omit [CaseText] [DecimalText] [PrintableText] [Sha256] [Sha512] in
theorem nameChars_plain {position : Nat} (early : position < 100000) :
    referenceFault (PyText.display ((nameChars position).map CodePoint.ofChar)) = none := by
  have shown : (PyText.display ((nameChars position).map CodePoint.ofChar)).toList = nameChars position := by
    have same : CodePoint.toChar ∘ CodePoint.ofChar = id := funext CodePoint.toChar_ofChar
    rw [PyText.display, String.toList_ofList, List.map_map, same, List.map_id]
  apply referenceFault_plain
  · rw [shown, nameChars, paddedDigits]
    have digits : (Nat.toDigits 10 position).length ≤ 5 := (Nat.length_toDigits_le_iff (by decide) (by decide)).mpr early
    have front : nameFront.length = 11 := rfl
    simp only [List.length_append, List.length_replicate]
    omega
  · exact ⟨'o', _, by rw [shown, nameChars, nameFront, List.cons_append], by decide⟩
  · rw [shown]
    intro ch member
    rcases List.mem_append.mp member with fixed | counted
    · have plain : nameFront.all isIdentifierChar = true := by decide
      exact List.all_eq_true.mp plain ch fixed
    · have digit : ch.isDigit = true := by
        rcases List.mem_append.mp counted with zero | place
        · rw [(List.mem_replicate.mp zero).2]
          rfl
        · exact Nat.isDigit_of_mem_toDigits (by decide) (by decide) place
      simp [isIdentifierChar, Char.isAlphanum, digit]

omit [PrintableText] [Sha256] [Sha512] in
/-- The texts that the cleaning chooses are within the bounds. -/
theorem targetOf_condition {target : PyText} {record : PyFields} {taken : Target} (found : targetOf target record = .ok taken) :
    taken.condition = "PBE0_vacuum_tier2" ∨ taken.condition = "UNSPECIFIED" := by
  unfold targetOf at found
  split at found
  · unfold gapTarget at found
    obtain ⟨_, _, found⟩ := bind_ok.mp found
    obtain ⟨_, _, found⟩ := bind_ok.mp found
    split at found
    · cases found
      exact .inl rfl
    · split at found <;> cases found
      · exact .inl rfl
      · exact .inr rfl
  · cases found
    unfold columnTarget
    split <;> exact .inr rfl

omit [CaseText] [DecimalText] [PrintableText] [Sha256] [Sha512] in
theorem referenceOf_unpaired {source : Bytes} {target format : PyText} {maxRows : BoundedInt 1 100000} {refcode : PyText}
    (unpaired : refcode.Unpaired) (position : Nat) : (referenceOf (.standard source target format maxRows) refcode position).Unpaired := by
  have split : referenceOf (.standard source target format maxRows) refcode position = PyText.ofString "OE62:df_5k:" ++
      (if refcode = [] then PyText.ofString ("source-row-" ++ toString position) else refcode) := by
    have front : PyText.ofString "OE62:df_5k:" = PyText.ofString "OE62" ++ 58 :: PyText.ofString "df_5k" ++ [58] := by decide +kernel
    rw [front, List.append_assoc, List.append_assoc]
    rfl
  rw [split]
  apply PyText.unpaired_after (PyText.ofString_scalar _)
  split
  · exact (PyText.ofString_scalar _).unpaired
  · exact unpaired

/-- What a kept row of a source is like, before its texts are measured. -/
structure KeptRow (a : CleaningArguments) (target : PyText) (u : Usable) : Prop where
  unpaired : (u.row a target).Unpaired
  stripped : u.smiles.strip = u.smiles
  passes : Passes (u.row a target) ↔ WithinBounds a u

omit [Sha256] [Sha512] in
theorem keptRow {source : Bytes} {target format : PyText} {maxRows : BoundedInt 1 100000} {records : List PyFields}
    (clean : ∀ record ∈ records, CleanCells record) {property : PyText} (plain : property.Unpaired)
    (reference : referenceFault property.display = none) {u : Usable}
    (used : u ∈ usableRows property (considered (.standard source target format maxRows) records)) :
    KeptRow (.standard source target format maxRows) property u := by
  obtain ⟨there, reached, taken, found, _, _, condition⟩ := usable_mem used
  have cells := clean u.record (List.mem_of_mem_take there)
  have drawn : smilesOf u.record ≠ [] := by simpa [reaches] using (Bool.and_eq_true_iff.mp reached).2
  have early : u.position < 100000 := by
    have place := (usableRows_positions property _).subset (List.mem_map_of_mem used)
    rw [List.mem_range, considered, List.length_take] at place
    have most := maxRows.2
    simp only [CleaningArguments.standard] at place
    omega
  have name := rowIdOf_standard source target format maxRows u.position
  have bounded : (PyText.ofString u.condition).length ≤ 4096 ∧ (PyText.ofString u.condition).hasNul = false := by
    rw [condition]
    rcases targetOf_condition found with same | same <;> rw [same] <;> decide +kernel
  constructor
  · constructor
    · show (rowIdOf _ u.position).Unpaired
      rw [name]
      apply PyText.Scalar.unpaired
      intro p member
      obtain ⟨ch, _, rfl⟩ := List.mem_map.mp member
      exact CodePoint.ofChar_scalar ch
    · exact cellText_unpaired (columnNamed_clean cells _)
    · exact plain
    · exact referenceOf_unpaired (cellText_unpaired (columnNamed_clean cells _)) u.position
  · exact cellText_strip _
  · constructor
    · intro passes
      exact ⟨passes.smiles.2, passes.sourceReference⟩
    · intro within
      refine ⟨?_, reference, within.sourceReference, ⟨drawn, within.smiles⟩, bounded⟩
      show referenceFault (rowIdOf _ u.position).display = none
      rw [name]
      exact nameChars_plain early

/-- The gate reads the published content, recorded with the schema of cleaned datasets, and its rows are the
published ones. -/
def ReadsBack (a : CleaningArguments) (p : PreparedDataset) (requested : Option PyText) : Prop :=
  ∃ c inspection, clean a = .ok c ∧
    DatasetGate.inspect ⟨sha256Bytes p.content⟩ cleanedSchema p.content requested = .ok inspection ∧
    List.Forall₂ SameRow c.final.rows inspection.rows

omit [DecimalText] [Sha256] [Sha512] in
/-- The gate reads all the rows exactly where each is within its bounds. -/
theorem mapM_gateRow {a : CleaningArguments} {target : PyText} : ∀ {kept : List Usable}, (∀ u ∈ kept, KeptRow a target u) →
    ((∃ ds, (kept.map (Usable.row a target)).mapM gateRow = .ok ds) ↔ ∀ u ∈ kept, WithinBounds a u)
  | [], _ => ⟨fun _ u member => (by cases member), fun _ => ⟨[], rfl⟩⟩
  | u :: rest, each => by
    have later : (∃ ds, (rest.map (Usable.row a target)).mapM gateRow = .ok ds) ↔ ∀ u ∈ rest, WithinBounds a u :=
      mapM_gateRow fun v member => each v (List.mem_cons_of_mem _ member)
    have own := each u List.mem_cons_self
    rw [List.forall_mem_cons, ← later, ← own.passes, ← gateRow_iff own.unpaired own.stripped, List.map_cons]
    simp only [mapM_ok]
    constructor
    · intro made
      obtain ⟨_, made⟩ := made
      cases made with
      | cons first others => exact ⟨⟨_, first⟩, _, others⟩
    · intro made
      obtain ⟨⟨d, first⟩, ds, others⟩ := made
      exact ⟨d :: ds, .cons first others⟩

omit [DecimalText] [Sha256] [Sha512] in
theorem mapM_gateRow_same {a : CleaningArguments} {target : PyText} : ∀ {kept : List Usable}, (∀ u ∈ kept, KeptRow a target u) →
    ∀ {ds}, (kept.map (Usable.row a target)).mapM gateRow = .ok ds → List.Forall₂ SameRow (kept.map (Usable.row a target)) ds
  | [], _, _, made => by
    cases made
    exact .nil
  | u :: rest, each, ds, made => by
    have own := each u List.mem_cons_self
    rw [List.map_cons] at made ⊢
    cases mapM_ok.mp made with
    | cons first others =>
      exact .cons (gateRow_same own.unpaired own.stripped first)
        (mapM_gateRow_same (fun v member => each v (List.mem_cons_of_mem _ member)) (mapM_ok.mpr others))

end

end Cleaning

open Cleaning

/-- The gate reads back what the cleaning publishes exactly where the molecules and the references of the kept
rows are within its bounds. -/
theorem inspection_reads [CaseText] [DecimalText] [PrintableText] [Sha256] [Sha512] (source : Bytes)
    (target sourceFormat : PyText) (maxRows : BoundedInt 1 100000) (supported : IsSupported target.strip)
    {p : PreparedDataset} (prepared : prepareRawDataset (.standard source target sourceFormat maxRows) = .ok p)
    (requested : Option PyText) (asked : ∀ text, requested = some text → text = target.strip) :
    ReadsBack (.standard source target sourceFormat maxRows) p requested ↔
      ∀ records format, sourceRecords source sourceFormat = .ok (records, format) →
        ∀ u ∈ keptOf target.strip (considered (.standard source target sourceFormat maxRows) records),
          WithinBounds (.standard source target sourceFormat maxRows) u := by
  obtain ⟨c, cleaned, digest, written, _⟩ := prepareRawDataset_ok prepared
  have cleans := clean_ok cleaned
  have read : sourceRecords source sourceFormat = .ok (c.records, c.sourceFormat) := cleans.read
  have property : c.target = target.strip := cleans.target
  have known : ∀ f ∈ c.final.reasonCounts, f.1.Unpaired := cleanRecords_reasons (fun f member => (by cases member)) cleans.ran
  have plain : target.strip.Unpaired := by
    rcases supported with same | same <;> rw [same] <;> exact (PyText.ofString_scalar _).unpaired
  have rows := cleans.accounts.rows
  rw [property] at rows
  have each : ∀ u ∈ keptOf target.strip (considered (.standard source target sourceFormat maxRows) c.records),
      KeptRow (.standard source target sourceFormat maxRows) target.strip u := fun u kept =>
    keptRow (sourceRecords_clean read) plain (property ▸ cleans.reference) (keptOf_mem kept)
  have gate := mapM_gateRow each
  rw [keptOf, ← rows] at gate
  have same (ds : List DatasetRow) (gated : _ = Except.ok ds) := mapM_gateRow_same each gated
  rw [keptOf, ← rows] at same
  constructor
  · intro reads records format read'
    rw [read, Except.ok.injEq, Prod.mk.injEq] at read'
    rw [← read'.1]
    obtain ⟨c', inspection, cleaned', inspected, _⟩ := reads
    rw [cleaned, Except.ok.injEq] at cleaned'
    exact gate.mp ⟨_, inspect_rows known written inspected⟩
  · intro within
    obtain ⟨ds, made⟩ := gate.mpr (within _ _ read)
    have related := same ds made
    have filled : ds ≠ [] := by
      intro empty
      rw [empty] at related
      exact cleans.filled (List.forall₂_nil_right_iff.mp related)
    have targeted : requested.all fun target => ds.any (·.targetProperty = target) := by
      obtain ⟨row, listed⟩ := List.exists_mem_of_ne_nil _ cleans.filled
      obtain ⟨d, found, equal⟩ := forall₂_left related listed
      have named : row.targetProperty = target.strip := by
        rw [rows] at listed
        obtain ⟨u, _, rfl⟩ := List.mem_map.mp listed
        rfl
      cases requested with
      | none => rfl
      | some text =>
        rw [asked text rfl]
        exact List.any_eq_true.mpr ⟨d, found, decide_eq_true (equal.targetProperty.trans named)⟩
    obtain ⟨inspection, inspected, rfl⟩ := inspect_passes known written ⟨sha256Bytes p.content⟩ requested made filled targeted
    exact ⟨c, inspection, cleaned, inspected, related⟩

example : (referenceFault "two words").isSome = true := by decide +kernel

namespace Sample

attribute [local instance] standardSha256 asciiPrintable asciiDecimal asciiCase

section
attribute [local instance] yieldSha512

theorem inspection_reads_yield : ∃ p, prepareRawDataset yieldCleaning = .ok p ∧
    ReadsBack yieldCleaning p (some (PyText.ofString "quantum_yield")) := by
  obtain ⟨p, prepared⟩ := yieldCleaning_prepared
  have stripped : (PyText.ofString "quantum_yield").strip = PyText.ofString "quantum_yield" := by decide +kernel
  refine ⟨p, prepared, (inspection_reads yieldSource (PyText.ofString "quantum_yield") (PyText.ofString "auto") ⟨100000, by decide⟩
    (.inl stripped) prepared _ (fun text asked => by rw [stripped, Option.some.inj asked])).mpr fun records format read u kept => ?_⟩
  have within : ((sourceRecords yieldSource (PyText.ofString "auto")).toOption.any fun found =>
      (keptOf (PyText.ofString "quantum_yield").strip (considered yieldCleaning found.1)).all fun u =>
        u.smiles.length ≤ 4096 && !u.smiles.hasNul &&
          (referenceFault (referenceOf yieldCleaning (refcodeOf u.record) u.position).display).isNone) = true := by
    decide +kernel
  rw [read] at within
  have at_u := List.all_eq_true.mp within u kept
  simp only [Bool.and_eq_true, decide_eq_true_eq, Bool.not_eq_true', Option.isNone_iff_eq_none] at at_u
  exact ⟨at_u.1, at_u.2⟩

end

/-- The reference of the second row has a blank. -/
def spacedSource : Bytes := asciiBytes "smiles,quantum_yield,id\nC,0.5,A1\nN,0.7,two words\n"

def spacedCleaning : CleaningArguments :=
  .standard spacedSource (PyText.ofString "quantum_yield") (PyText.ofString "auto") ⟨100000, rows_bounded⟩

@[reducible] def spacedSha512 : Sha512 := sha512Is
  ("fafc3a5c0b44943c99bd6828916d7822f9c9ee2fa62127d5be47e9f5a90db13d" ++
    "7780914248863cbefd42c7d7789b1bcdc7eedeffddc18352c16c211406c53c81")

section
attribute [local instance] spacedSha512

theorem inspection_reads_fails : ∃ p, prepareRawDataset spacedCleaning = .ok p ∧ ¬ReadsBack spacedCleaning p none := by
  obtain ⟨p, prepared⟩ : ∃ p, prepareRawDataset spacedCleaning = .ok p := ok_of_some (by decide +kernel)
  refine ⟨p, prepared, fun reads => ?_⟩
  obtain ⟨c, inspection, cleaned, inspected, _⟩ := reads
  have refused : (DatasetGate.inspect ⟨sha256Bytes p.content⟩ cleanedSchema p.content none).toOption.isNone = true := by
    have all : ((prepareRawDataset spacedCleaning).toOption.any fun p =>
        (DatasetGate.inspect ⟨sha256Bytes p.content⟩ cleanedSchema p.content none).toOption.isNone) = true := by decide +kernel
    rwa [prepared] at all
  rw [inspected] at refused
  cases refused

end

end Sample

end Molly
