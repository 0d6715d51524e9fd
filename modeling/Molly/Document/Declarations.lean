import Molly.Document.Grids
import Molly.Effect.Encoding

/-! When the XML parsers refuse a source that declares a document type or an entity: the filter looks at
bytes, and the XML library reads characters. -/
namespace Molly
open Effect (RoseTree Step Place Encoding)

/-! ### Declarations in a text -/

def isXmlBlank (c : Char) : Bool := c = ' ' || c = '\t' || c = '\n' || c = '\r'

/-- What may stand in a prolog in front of a declaration: blanks, comments and processing instructions,
which the XML declaration looks like. -/
inductive Prolog : List Char → Prop where
  | start : Prolog []
  | blank {front : List Char} {c : Char} : Prolog front → isXmlBlank c = true → Prolog (front ++ [c])
  | comment {front : List Char} (inside : List Char) : Prolog front → Prolog (front ++ ("<!--".toList ++ inside ++ "-->".toList))
  | instruction {front : List Char} (inside : List Char) : Prolog front → Prolog (front ++ ("<?".toList ++ inside ++ "?>".toList))

/-- The text declares a document type or an entity in its prolog. An entity declaration inside a document
type declaration stands behind the latter. -/
def DeclaresType (text : List Char) : Prop :=
  ∃ front mark blank rest, Prolog front ∧ mark ∈ ["<!DOCTYPE", "<!ENTITY"] ∧ isXmlBlank blank = true ∧
    text = front ++ (mark.toList ++ blank :: rest)

namespace XmlParser

theorem dangerous_append {bytes : Bytes} (front : Bytes) (found : dangerous bytes = true) : dangerous (front ++ bytes) = true := by
  induction front with
  | nil => exact found
  | cons b front ih => simp [dangerous, ih]

/-- The filter sees a declaration that is written in ASCII. -/
theorem dangerous_declaration {mark : String} (isMark : mark ∈ ["<!DOCTYPE", "<!ENTITY"]) {blank : Char}
    (isBlank : isXmlBlank blank = true) (rest : Bytes) :
    dangerous (mark.toList.map (fun c => c.toNat.toUInt8) ++ blank.toNat.toUInt8 :: rest) = true := by
  have blanks : blank = ' ' ∨ blank = '\t' ∨ blank = '\n' ∨ blank = '\r' := by
    simpa [isXmlBlank, or_assoc] using isBlank
  simp only [List.mem_cons, List.not_mem_nil, or_false] at isMark
  rcases isMark with rfl | rfl <;> rcases blanks with rfl | rfl | rfl | rfl <;> rfl

theorem dangerous_of_keepsAscii {e : Encoding} {text : List Char} {bytes : Bytes} (keeps : e.KeepsAscii) (declares : DeclaresType text)
    (written : e.encode text = some bytes) : dangerous bytes = true := by
  obtain ⟨front, mark, blank, rest, -, isMark, isBlank, rfl⟩ := declares
  obtain ⟨all, ofAll, rfl⟩ := Option.map_eq_some_iff.mp written
  obtain ⟨before, others, -, ofOthers, rfl⟩ := Encoding.chars_append ofAll
  obtain ⟨marked, tail, ofMark, ofTail, rfl⟩ := Encoding.chars_append ofOthers
  have plain : ∀ c ∈ mark.toList, c.toNat < 128 := by
    have tested : mark.toList.all (fun c => c.toNat < 128) = true := by
      simp only [List.mem_cons, List.not_mem_nil, or_false] at isMark
      rcases isMark with rfl | rfl <;> rfl
    simpa using tested
  have small : blank.toNat < 128 := by
    have blanks : blank = ' ' ∨ blank = '\t' ∨ blank = '\n' ∨ blank = '\r' := by
      simpa [isXmlBlank, or_assoc] using isBlank
    rcases blanks with rfl | rfl | rfl | rfl <;> decide
  rw [← List.singleton_append] at ofTail
  obtain ⟨first, last, ofBlank, -, rfl⟩ := Encoding.chars_append ofTail
  cases (Encoding.chars_ascii keeps plain).symm.trans ofMark
  have shown : e.chars [blank] = some [blank.toNat.toUInt8] := Encoding.chars_ascii keeps (by simpa using small)
  cases shown.symm.trans ofBlank
  exact dangerous_append e.mark (dangerous_append before (dangerous_declaration isMark isBlank last))

end XmlParser

/-! ### What is refused behind the filter -/

section
variable [CaseText] [NormalText]

/-- The counts of a tree are within the limits, and an element of it includes another document. -/
def XmlParser.Included (config : DocumentParserConfig) (tree : RoseTree Element) : Prop :=
  ensureCounts config [⟨0, tree⟩] = .ok () ∧ (Place.iter [⟨0, tree⟩]).any (fun p => includes p.label) = true

/-- A tree is malformed for nothing else than the inclusion of another document. -/
theorem XmlParser.rootOf_malformed {config : DocumentParserConfig} {tree : RoseTree Element} :
    (∃ message, rootOf config tree = .error ⟨.malformedDocument, message⟩) ↔ Included config tree := by
  constructor
  · rintro ⟨message, failed⟩
    rw [rootOf] at failed
    rcases bind_error.mp failed with counts | ⟨_, counted, failed⟩
    · obtain ⟨⟨p, n⟩, -, failed⟩ := forM_error counts
      rcases bind_error.mp failed with nodes | ⟨_, -, deep⟩
      · cases (ensure_error.mp nodes).2
      · cases (ensure_error.mp deep).2
    · rcases bind_error.mp failed with included | ⟨_, -, failed⟩
      · exact ⟨counted, by simpa using (ensure_error.mp included).1⟩
      · rcases bind_error.mp failed with deep | ⟨_, -, failed⟩
        · cases (ensure_error.mp deep).2
        · rcases bind_error.mp failed with long | ⟨text, -, failed⟩
          · rw [normalizeText] at long
            split at long
            · cases long
            · cases long
          · rcases bind_error.mp failed with surrogate | ⟨size, -, failed⟩
            · rw [utf8Size] at surrogate
              split at surrogate
              · cases surrogate
              · cases surrogate
            · rcases bind_error.mp failed with large | ⟨_, -, failed⟩
              · cases (ensure_error.mp large).2
              · cases failed
  · rintro ⟨counted, included⟩
    refine ⟨"XML XInclude is not permitted", ?_⟩
    rw [rootOf]
    exact bind_error.mpr (.inr ⟨(), counted, bind_error.mpr (.inl (ensure_error.mpr ⟨by simpa using included, rfl⟩))⟩)

variable [XmlLibrary]

/-- The library expands no entity of the source, and it refuses the source or reads a tree that is refused. -/
def XmlParser.RefusedBehind (config : DocumentParserConfig) (source : Bytes) : Prop :=
  XmlLibrary.expands source = false ∧
    match XmlLibrary.parse source with
    | .error .refused => True
    | .error (.other e) => e.cls = .malformedDocument
    | .ok tree => Included config tree

/-- Refused as malformed, and no entity was expanded on the way. -/
def Refused (result : Except PyError α × Bool) : Prop := ∃ message, result = (.error ⟨.malformedDocument, message⟩, false)

theorem XmlParser.treeDetails_refused {config : DocumentParserConfig} {source : Bytes} :
    Refused (treeDetails config source) ↔
      source.length ≤ config.maxSourceBytes ∧ (dangerous source = true ∨ RefusedBehind config source) := by
  unfold treeDetails
  by_cases long : config.maxSourceBytes < source.length
  · rw [if_pos long]
    constructor
    · rintro ⟨message, same⟩
      cases same
    · intro fits
      omega
  · rw [if_neg long]
    by_cases found : dangerous source = true
    · rw [if_pos found]
      exact ⟨fun _ => ⟨Nat.le_of_not_lt long, .inl found⟩, fun _ => ⟨_, rfl⟩⟩
    · rw [if_neg found]
      simp only [Refused, RefusedBehind, Prod.mk.injEq, exists_and_right, found, Bool.false_eq_true, false_or, Nat.le_of_not_lt long, true_and]
      rw [and_comm, and_congr_right_iff]
      rintro -
      rcases XmlLibrary.parse source with (_ | e) | tree
      · simp [malformedError]
      · constructor
        · rintro ⟨message, same⟩
          cases same
          rfl
        · intro same
          exact ⟨e.message, congrArg Except.error (congrArg (PyError.mk · e.message) same)⟩
      · exact rootOf_malformed

end

/-! ### The two parsers and the classification -/

section
variable [CaseText] [NormalText] [PrintableText] [DecimalText] [WordText] [Sha256] [XmlLibrary]

/-- The XML parser, the JATS parser and the classification refuse the source. -/
def XmlParser.RefusedByAll (config : DocumentParserConfig) (source mediaType : PyText) (bytes : Bytes) : Prop :=
  (∀ jats, Refused (parse config source mediaType jats bytes)) ∧ Refused (isJats config bytes)

theorem XmlParser.refusedByAll_iff {config : DocumentParserConfig} {source mediaType : PyText} {bytes : Bytes} :
    RefusedByAll config source mediaType bytes ↔ Refused (treeDetails config bytes) := by
  constructor
  · rintro ⟨-, message, same⟩
    refine ⟨message, Prod.ext ?_ (congrArg Prod.snd same :)⟩
    have failed : isJatsRoot <$> (treeDetails config bytes).1 = .error ⟨.malformedDocument, message⟩ := congrArg Prod.fst same
    cases tree : (treeDetails config bytes).1 with
    | error e =>
      rw [tree] at failed
      exact congrArg _ (Except.error.inj failed)
    | ok root =>
      rw [tree] at failed
      cases failed
  · rintro ⟨message, same⟩
    refine ⟨fun jats => ⟨message, ?_⟩, message, ?_⟩
    · rw [parse, same]
      rfl
    · rw [isJats, same]
      rfl

/-- A source with a declaration is refused, before any entity is expanded, exactly when it is within the
limit and its encoding keeps ASCII, or the filter finds its pattern in the bytes all the same, or the
library refuses it. -/
theorem declarations_refused {config : DocumentParserConfig} {source mediaType : PyText} {encoding : Encoding} {text : List Char}
    {bytes : Bytes} (declares : DeclaresType text) (written : encoding.encode text = some bytes) :
    XmlParser.RefusedByAll config source mediaType bytes ↔ bytes.length ≤ config.maxSourceBytes ∧
      (encoding.KeepsAscii ∨ XmlParser.dangerous bytes = true ∨ XmlParser.RefusedBehind config bytes) := by
  rw [XmlParser.refusedByAll_iff, XmlParser.treeDetails_refused]
  constructor
  · rintro ⟨fits, refused⟩
    exact ⟨fits, .inr refused⟩
  · rintro ⟨fits, keeps | refused⟩
    · exact ⟨fits, .inl (XmlParser.dangerous_of_keepsAscii keeps declares written)⟩
    · exact ⟨fits, refused⟩

end

/-! ### A source in UTF-16 -/

namespace Sample
attribute [local instance] standardSha256 asciiPrintable asciiDecimal asciiCase asciiNormal asciiWords

def entityText : List Char := "<!DOCTYPE p [<!ENTITY e \"x\">]><p>&e;</p>".toList

theorem entityText_declares : DeclaresType entityText :=
  ⟨[], "<!DOCTYPE", ' ', "p [<!ENTITY e \"x\">]><p>&e;</p>".toList, .start, by simp, rfl, by decide⟩

def entitySource : Bytes := asciiBytes "<!DOCTYPE p [<!ENTITY e \"x\">]><p>&e;</p>"

def wideSource : Bytes := 255 :: 254 :: entityText.flatMap fun c => [c.toNat.toUInt8, 0]

/-- The library on these sources. -/
@[reducible] def entityLibrary : XmlLibrary where
  parse source := if source = entitySource ∨ source = wideSource then .ok (.node ⟨PyText.ofString "p", [], PyText.ofString "x", []⟩ [])
    else .error .refused
  expands source := source = entitySource ∨ source = wideSource

attribute [local instance] entityLibrary

theorem entitySource_written : Encoding.utf8.encode entityText = some entitySource := by decide +kernel

/-- An XML declaration stands in front. -/
def latinText : List Char := "<?xml version=\"1.0\" encoding=\"latin-1\"?>\n<!DOCTYPE p [<!ENTITY e \"é\">]><p>&e;</p>".toList

theorem latinText_declares : DeclaresType latinText :=
  ⟨"<?xml version=\"1.0\" encoding=\"latin-1\"?>\n".toList, "<!DOCTYPE", ' ', "p [<!ENTITY e \"é\">]><p>&e;</p>".toList,
    .blank (.instruction "xml version=\"1.0\" encoding=\"latin-1\"".toList .start) rfl, by simp, rfl, by decide⟩

theorem declarations_refused_ascii :
    XmlParser.RefusedByAll parserConfig sourceId (PyText.ofString "application/xml") entitySource ∧
      ∃ bytes, Encoding.latin1.encode latinText = some bytes ∧
        XmlParser.RefusedByAll parserConfig sourceId (PyText.ofString "application/xml") bytes := by
  have fits : ((Encoding.latin1.encode latinText).any fun bytes => bytes.length ≤ 26214400) = true := by decide +kernel
  obtain ⟨bytes, written, short⟩ := (Option.any_eq_true _ _).mp fits
  exact ⟨(declarations_refused entityText_declares entitySource_written).mpr ⟨by decide, .inl Encoding.utf8_keepsAscii⟩, bytes, written,
    (declarations_refused latinText_declares written).mpr ⟨of_decide_eq_true short, .inl Encoding.latin1_keepsAscii⟩⟩

/-- The same text in UTF-16 becomes a document, its entity expanded. -/
theorem declaration_accepted_utf16 :
    DeclaresType entityText ∧ (Encoding.utf16 false).encode entityText = some wideSource ∧
      (∃ document, XmlParser.parse parserConfig sourceId (PyText.ofString "application/xml") false wideSource = (.ok document, true)) ∧
      ¬XmlParser.RefusedByAll parserConfig sourceId (PyText.ofString "application/xml") wideSource := by
  obtain ⟨document, returned⟩ : ∃ document,
      (XmlParser.parse parserConfig sourceId (PyText.ofString "application/xml") false wideSource).1 = .ok document :=
    ok_of_some (by decide +kernel)
  have expanded : (XmlParser.parse parserConfig sourceId (PyText.ofString "application/xml") false wideSource).2 = true := by
    decide +kernel
  refine ⟨entityText_declares, by decide +kernel, ⟨document, Prod.ext returned expanded⟩, fun refused => ?_⟩
  obtain ⟨message, same⟩ := refused.1 false
  rw [same] at expanded
  cases expanded

end Sample
end Molly
