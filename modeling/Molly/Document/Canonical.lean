import Molly.Document.Text
import Molly.Oled.Schema

/-! The canonical document: sections, blocks, tables, figures and references, each with a locator into
its source. Every record is a type of the values its constructor accepts. -/
namespace Molly
open Effect (chars chars_eq)

/-- What `_bounded_text` accepts of a text. -/
def TextWithin (maximum : Nat) (text : PyText) : Prop := text.length ≤ maximum ∧ text.hasNul = false

instance (maximum : Nat) (text : PyText) : Decidable (TextWithin maximum text) := inferInstanceAs (Decidable (_ ∧ _))

def maxDocumentStringChars : Nat := 1000000

def outsideText (field : String) : PyError := ⟨.coreContract, field ++ " is outside the bounded text contract"⟩

/-! ### Object identities -/

inductive ObjectKind where
  | section | table | figure | reference | block
  deriving DecidableEq

/-- What the identities of a kind begin with. -/
def ObjectKind.mark : ObjectKind → String
  | .section => "sec"
  | .table => "tbl"
  | .figure => "fig"
  | .reference => "ref"
  | .block => "blk"

theorem objectId_valid (kind : ObjectKind) (d : Digest) : isIdentifier (kind.mark ++ "_" ++ d.text) = true :=
  markedId_valid d (by cases kind <;> decide) (by cases kind <;> decide)

section
variable [CaseText] [PrintableText] [Sha256]

omit [CaseText] [PrintableText] in
/-- `deterministic_object_id`: the identity is made of the source's structure. -/
def deterministicObjectId (kind : ObjectKind) (source : PyText) (entityType : String) (ordinal : Nat) (locator : SourceLocator) :
    Except PyError Identifier := do
  let source ← validateArtifactId "artifact_id" source.display
  ensure (locator.sourceArtifactId = source) ⟨.coreContract, "object locator source does not match object source artifact"⟩
  return ⟨kind.mark ++ "_" ++ (sha256Bytes (PyValue.named
    [("source_artifact_id", .str (PyText.ofString source.text)), ("entity_type", .str (PyText.ofString entityType)),
      ("ordinal", .int ordinal), ("locator", locator.toDict)]).encode).text, objectId_valid _ _⟩

end

/-! ### Sections and blocks -/

structure CanonicalSection where
  sectionId : Identifier
  title : PyText
  level : Nat
  parentSectionId : Option Identifier
  locator : SourceLocator
  titled : TextWithin maxDocumentStringChars title
  levelled : 1 ≤ level ∧ level ≤ 100

namespace CanonicalSection

/-- The constructor. -/
def create (sectionId : Identifier) (title : PyText) (level : Nat) (parent : Option Identifier) (locator : SourceLocator) :
    Except PyError CanonicalSection :=
  if titled : TextWithin maxDocumentStringChars title then
    if levelled : 1 ≤ level ∧ level ≤ 100 then .ok ⟨sectionId, title, level, parent, locator, titled, levelled⟩
    else .error ⟨.coreContract, "section level must be between 1 and 100"⟩
  else .error (outsideText "section title")

def entries (s : CanonicalSection) : List (String × PyValue) :=
  [("section_id", .str s.sectionId.pyText), ("title", .str s.title), ("level", .int s.level),
    ("parent_section_id", pyOptionalText Identifier.text s.parentSectionId), ("locator", s.locator.toDict)]

end CanonicalSection

inductive CanonicalBlockKind where
  | title | abstractText | heading | paragraph | listItem | caption | otherText
  deriving DecidableEq

def CanonicalBlockKind.text : CanonicalBlockKind → String
  | .title => "TITLE"
  | .abstractText => "ABSTRACT"
  | .heading => "HEADING"
  | .paragraph => "PARAGRAPH"
  | .listItem => "LIST_ITEM"
  | .caption => "CAPTION"
  | .otherText => "OTHER_TEXT"

structure CanonicalBlock where
  blockId : Identifier
  kind : CanonicalBlockKind
  text : PyText
  sectionId : Option Identifier
  locator : SourceLocator
  written : TextWithin maxDocumentStringChars text

namespace CanonicalBlock

/-- The constructor. -/
def create (blockId : Identifier) (kind : CanonicalBlockKind) (text : PyText) (sectionId : Option Identifier)
    (locator : SourceLocator) : Except PyError CanonicalBlock :=
  if written : TextWithin maxDocumentStringChars text then .ok ⟨blockId, kind, text, sectionId, locator, written⟩
  else .error (outsideText "block text")

def entries (b : CanonicalBlock) : List (String × PyValue) :=
  [("block_id", .str b.blockId.pyText), ("kind", .str (PyText.ofString b.kind.text)), ("text", .str b.text),
    ("section_id", pyOptionalText Identifier.text b.sectionId), ("locator", b.locator.toDict)]

end CanonicalBlock

/-! ### Tables -/

structure CanonicalCell where
  rowIndex : Nat
  columnIndex : Nat
  rowSpan : Nat
  columnSpan : Nat
  isHeader : Bool
  text : PyText
  locator : SourceLocator
  indexed : rowIndex ≤ 100000 ∧ columnIndex ≤ 100000
  spanned : (1 ≤ rowSpan ∧ rowSpan ≤ 10000) ∧ 1 ≤ columnSpan ∧ columnSpan ≤ 10000
  written : TextWithin maxDocumentStringChars text

namespace CanonicalCell

/-- The constructor. -/
def create (rowIndex columnIndex rowSpan columnSpan : Nat) (isHeader : Bool) (text : PyText) (locator : SourceLocator) :
    Except PyError CanonicalCell :=
  if indexed : rowIndex ≤ 100000 ∧ columnIndex ≤ 100000 then
    if spanned : (1 ≤ rowSpan ∧ rowSpan ≤ 10000) ∧ 1 ≤ columnSpan ∧ columnSpan ≤ 10000 then
      if written : TextWithin maxDocumentStringChars text then
        .ok ⟨rowIndex, columnIndex, rowSpan, columnSpan, isHeader, text, locator, indexed, spanned, written⟩
      else .error (outsideText "table cell text")
    else .error ⟨.coreContract,
      (if 1 ≤ rowSpan ∧ rowSpan ≤ 10000 then "column_span" else "row_span") ++ " must be a bounded positive integer"⟩
  else .error ⟨.coreContract, (if rowIndex ≤ 100000 then "column_index" else "row_index") ++ " must be a bounded non-negative integer"⟩

def entries (c : CanonicalCell) : List (String × PyValue) :=
  [("row_index", .int c.rowIndex), ("column_index", .int c.columnIndex), ("row_span", .int c.rowSpan),
    ("column_span", .int c.columnSpan), ("is_header", .bool c.isHeader), ("text", .str c.text), ("locator", c.locator.toDict)]

def toDict (c : CanonicalCell) : PyValue := .named c.entries

def position (c : CanonicalCell) : Nat × Nat := (c.rowIndex, c.columnIndex)

end CanonicalCell

structure CanonicalTable where
  tableId : Identifier
  caption : Option PyText
  sectionId : Option Identifier
  locator : SourceLocator
  cells : List CanonicalCell
  captioned : ∀ text ∈ caption, TextWithin maxDocumentStringChars text
  few : cells.length ≤ 100000
  distinct : (cells.map CanonicalCell.position).Nodup

namespace CanonicalTable

/-- The constructor. -/
def create (tableId : Identifier) (caption : Option PyText) (sectionId : Option Identifier) (locator : SourceLocator)
    (cells : List CanonicalCell) : Except PyError CanonicalTable :=
  if captioned : ∀ text ∈ caption, TextWithin maxDocumentStringChars text then
    if placed : cells.length ≤ 100000 ∧ (cells.map CanonicalCell.position).Nodup then
      .ok ⟨tableId, caption, sectionId, locator, cells, captioned, placed.1, placed.2⟩
    else .error ⟨.coreContract, "table cells must be bounded and have unique coordinates"⟩
  else .error (outsideText "table caption")

def entries (t : CanonicalTable) : List (String × PyValue) :=
  [("table_id", .str t.tableId.pyText), ("caption", pyTextOrNull t.caption),
    ("section_id", pyOptionalText Identifier.text t.sectionId), ("locator", t.locator.toDict),
    ("cells", .arr (t.cells.map CanonicalCell.toDict))]

end CanonicalTable

/-! ### Figures and references -/

structure CanonicalFigure where
  figureId : Identifier
  label : Option PyText
  caption : Option PyText
  locator : SourceLocator
  labelled : ∀ text ∈ label, TextWithin 512 text
  captioned : ∀ text ∈ caption, TextWithin maxDocumentStringChars text

namespace CanonicalFigure

/-- The constructor. -/
def create (figureId : Identifier) (label caption : Option PyText) (locator : SourceLocator) : Except PyError CanonicalFigure :=
  if labelled : ∀ text ∈ label, TextWithin 512 text then
    if captioned : ∀ text ∈ caption, TextWithin maxDocumentStringChars text then
      .ok ⟨figureId, label, caption, locator, labelled, captioned⟩
    else .error (outsideText "figure caption")
  else .error (outsideText "figure label")

def entries (f : CanonicalFigure) : List (String × PyValue) :=
  [("figure_id", .str f.figureId.pyText), ("label", pyTextOrNull f.label), ("caption", pyTextOrNull f.caption),
    ("locator", f.locator.toDict)]

end CanonicalFigure

structure CanonicalReference where
  referenceId : Identifier
  citationText : PyText
  identifier : Option PyText
  locator : SourceLocator
  cited : citationText.strip ≠ [] ∧ TextWithin maxDocumentStringChars citationText
  identified : ∀ text ∈ identifier, TextWithin 512 text

namespace CanonicalReference

/-- The constructor. -/
def create (referenceId : Identifier) (citationText : PyText) (identifier : Option PyText) (locator : SourceLocator) :
    Except PyError CanonicalReference :=
  if cited : citationText.strip ≠ [] ∧ TextWithin maxDocumentStringChars citationText then
    if identified : ∀ text ∈ identifier, TextWithin 512 text then
      .ok ⟨referenceId, citationText, identifier, locator, cited, identified⟩
    else .error (outsideText "reference identifier")
  else if citationText.strip = [] then .error ⟨.coreContract, "citation text is required"⟩
  else .error (outsideText "citation text")

def entries (r : CanonicalReference) : List (String × PyValue) :=
  [("reference_id", .str r.referenceId.pyText), ("citation_text", .str r.citationText),
    ("identifier", pyTextOrNull r.identifier), ("locator", r.locator.toDict)]

end CanonicalReference

/-! ### Parser quality -/

inductive ParserQualityStatus where
  | good | degraded | insufficient
  deriving DecidableEq

def ParserQualityStatus.text : ParserQualityStatus → String
  | .good => "GOOD"
  | .degraded => "DEGRADED"
  | .insufficient => "INSUFFICIENT"

structure ParserQuality where
  status : ParserQualityStatus
  textCharCount : Nat
  blockCount : Nat
  tableCount : Nat
  pageCount : Nat
  pagesWithText : List Nat
  warningCodes : List Identifier
  counted : textCharCount ≤ 10000000 ∧ blockCount ≤ 10000000 ∧ tableCount ≤ 10000000 ∧ pageCount ≤ 10000000
  paged : pagesWithText.Nodup ∧ ∀ page ∈ pagesWithText, 1 ≤ page ∧ page ≤ 100000 ∧ (pageCount ≠ 0 → page ≤ pageCount)
  warned : warningCodes.Nodup

namespace ParserQuality

/-- The constructor. -/
def create (status : ParserQualityStatus) (textCharCount blockCount tableCount pageCount : Nat) (pagesWithText : List Nat)
    (warningCodes : List Identifier) : Except PyError ParserQuality :=
  let negative (field : String) : Except PyError ParserQuality :=
    .error ⟨.coreContract, field ++ " must be a bounded non-negative integer"⟩
  if counted : textCharCount ≤ 10000000 ∧ blockCount ≤ 10000000 ∧ tableCount ≤ 10000000 ∧ pageCount ≤ 10000000 then
    if paged : pagesWithText.Nodup ∧ ∀ page ∈ pagesWithText, 1 ≤ page ∧ page ≤ 100000 ∧ (pageCount ≠ 0 → page ≤ pageCount) then
      if warned : warningCodes.Nodup then
        .ok ⟨status, textCharCount, blockCount, tableCount, pageCount, pagesWithText, warningCodes, counted, paged, warned⟩
      else .error ⟨.coreContract, "parser warning codes must be unique"⟩
    else if pagesWithText.any (100000 < ·) then negative "pages_with_text"
    else if !pagesWithText.Nodup || pagesWithText.any (· < 1) then
      .error ⟨.coreContract, "pages_with_text must be unique 1-based page numbers"⟩
    else .error ⟨.coreContract, "pages_with_text exceeds page_count"⟩
  else if 10000000 < textCharCount then negative "text_char_count"
  else if 10000000 < blockCount then negative "block_count"
  else if 10000000 < tableCount then negative "table_count"
  else negative "page_count"

def entries (q : ParserQuality) : List (String × PyValue) :=
  [("status", .str (PyText.ofString q.status.text)), ("text_char_count", .int q.textCharCount),
    ("block_count", .int q.blockCount), ("table_count", .int q.tableCount), ("page_count", .int q.pageCount),
    ("pages_with_text", .arr (q.pagesWithText.map fun n => .int n)),
    ("warning_codes", .arr (q.warningCodes.map fun c => .str c.pyText))]

end ParserQuality

/-! ### Documents -/

inductive DocumentFamily where
  | xml | html | pdf
  deriving DecidableEq

def DocumentFamily.text : DocumentFamily → String
  | .xml => "xml"
  | .html => "html"
  | .pdf => "pdf"

inductive DocumentMediaType where
  | applicationXml | textXml | textHtml | applicationPdf
  deriving DecidableEq

namespace DocumentMediaType

def text : DocumentMediaType → String
  | .applicationXml => "application/xml"
  | .textXml => "text/xml"
  | .textHtml => "text/html"
  | .applicationPdf => "application/pdf"

def all : List DocumentMediaType := [.applicationXml, .textXml, .textHtml, .applicationPdf]

def family : DocumentMediaType → DocumentFamily
  | .applicationXml | .textXml => .xml
  | .textHtml => .html
  | .applicationPdf => .pdf

/-- The media type a document is given, without its parameters. -/
def read [CaseText] [PrintableText] (value : PyText) : Except PyError DocumentMediaType :=
  if value.strip = [] then .error ⟨.coreContract, "source_media_type is required"⟩
  else if ¬TextWithin 128 value then .error (outsideText "source_media_type")
  else
    let bare := PyText.strip (value.casefold.takeWhile (· ≠ 59))
    match all.find? fun m => PyText.ofString m.text = bare with
    | some m => .ok m
    | none => .error ⟨.coreContract, "unsupported source media type: " ++ (reprText bare).display⟩

end DocumentMediaType

inductive ParserId where
  | jats | xml | html | pdfText | mineru
  deriving DecidableEq

namespace ParserId

def text : ParserId → String
  | .jats => "jats"
  | .xml => "xml"
  | .html => "html"
  | .pdfText => "pdf_text"
  | .mineru => "mineru"

/-- The content family a parser reports. -/
def family : ParserId → DocumentFamily
  | .jats | .xml => .xml
  | .html => .html
  | .pdfText | .mineru => .pdf

end ParserId

/-- The fields of a document whose schema and parser versions are "1". -/
structure DocumentBody where
  sourceArtifactId : ArtifactId
  sourceMediaType : DocumentMediaType
  parserId : ParserId
  parserConfigDigest : Digest
  language : Option PyText
  title : Option PyText
  identifiers : List PyText
  sections : List CanonicalSection
  blocks : List CanonicalBlock
  tables : List CanonicalTable
  figures : List CanonicalFigure
  references : List CanonicalReference
  parserQuality : ParserQuality

namespace DocumentBody

def sectionIds (d : DocumentBody) : List Identifier := d.sections.map CanonicalSection.sectionId

def objectIds (d : DocumentBody) : List Identifier :=
  d.sectionIds ++ d.blocks.map CanonicalBlock.blockId ++ d.tables.map CanonicalTable.tableId ++
    d.figures.map CanonicalFigure.figureId ++ d.references.map CanonicalReference.referenceId

/-- The walk from a section over its parents meets no section twice; it is over when a section has no parent. -/
def climbs (sections : List CanonicalSection) : Nat → List Identifier → CanonicalSection → Bool
  | 0, _, _ => true
  | fuel + 1, seen, s =>
    match s.parentSectionId with
    | none => true
    | some parent =>
      !seen.contains s.sectionId &&
        match sections.find? fun up => up.sectionId = parent with
        | some up => climbs sections fuel (s.sectionId :: seen) up
        | none => true

/-- The identities, and what the objects say of each other. -/
def checkObjects (d : DocumentBody) : Except PyError Unit := do
  let unique (ids : List Identifier) (field : String) : Except PyError Unit :=
    ensure ids.Nodup ⟨.coreContract, field ++ " must not contain duplicate IDs"⟩
  let sourced (locator : SourceLocator) (field : String) : Except PyError Unit :=
    ensure (locator.sourceArtifactId = d.sourceArtifactId) ⟨.coreContract, field ++ " locator source does not match document source"⟩
  let known (sectionId : Option Identifier) (message : String) : Except PyError Unit :=
    ensure (∀ id ∈ sectionId, id ∈ d.sectionIds) ⟨.coreContract, message⟩
  unique d.sectionIds "section IDs"
  unique (d.blocks.map CanonicalBlock.blockId) "block IDs"
  unique (d.tables.map CanonicalTable.tableId) "table IDs"
  unique (d.figures.map CanonicalFigure.figureId) "figure IDs"
  unique (d.references.map CanonicalReference.referenceId) "reference IDs"
  unique d.objectIds "canonical object IDs"
  d.sections.forM fun s => do
    known s.parentSectionId "section references an unknown parent"
    sourced s.locator "section"
  ensure (d.sections.all fun s => climbs d.sections (d.sections.length + 1) [] s)
    ⟨.coreContract, "section hierarchy contains a cycle"⟩
  d.blocks.forM fun b => do
    known b.sectionId "block references an unknown section"
    sourced b.locator "block"
  d.tables.forM fun t => do
    known t.sectionId "table references an unknown section"
    sourced t.locator "table"
    t.cells.forM fun c => sourced c.locator "cell"
  d.figures.forM fun f => sourced f.locator "figure"
  d.references.forM fun r => sourced r.locator "reference"

/-- The checks of the constructor before the objects', and after them. -/
def check (d : DocumentBody) : Except PyError Unit := do
  ensure (d.sourceMediaType.family = d.parserId.family) ⟨.coreContract, "source media type and content family disagree"⟩
  ensure (∀ text ∈ d.language, TextWithin 64 text) (outsideText "language")
  ensure (∀ text ∈ d.title, TextWithin maxDocumentStringChars text) (outsideText "title")
  d.identifiers.forM fun text => do
    ensure (text.strip ≠ []) ⟨.coreContract, "document identifier is required"⟩
    ensure (TextWithin 512 text) (outsideText "document identifier")
  ensure (d.identifiers.length ≤ 256) ⟨.coreContract, "document identifiers exceed the bounded limit"⟩
  ensure d.identifiers.Nodup ⟨.coreContract, "document identifiers must not contain duplicate IDs"⟩
  ensure (d.sections.length ≤ 10000 ∧ d.blocks.length ≤ 50000 ∧ d.tables.length ≤ 2000)
    ⟨.coreContract, "canonical document collection limit exceeded"⟩
  ensure ((d.tables.map fun t => t.cells.length).sum ≤ 100000) ⟨.coreContract, "canonical document table-cell limit exceeded"⟩
  ensure (d.figures.length ≤ 10000 ∧ d.references.length ≤ 20000) ⟨.coreContract, "canonical document collection limit exceeded"⟩
  d.checkObjects
  ensure (d.parserQuality.blockCount = d.blocks.length ∧ d.parserQuality.tableCount = d.tables.length)
    ⟨.coreContract, "parser quality counts do not match canonical objects"⟩

def entries (d : DocumentBody) : List (String × PyValue) :=
  [("schema_version", .str (PyText.ofString "1")), ("source_artifact_id", .str (PyText.ofString d.sourceArtifactId.text)),
    ("source_media_type", .str (PyText.ofString d.sourceMediaType.text)),
    ("source_content_family", .str (PyText.ofString d.parserId.family.text)),
    ("parser_id", .str (PyText.ofString d.parserId.text)), ("parser_version", .str (PyText.ofString "1")),
    ("parser_config_digest", .str (PyText.ofString d.parserConfigDigest.text)), ("language", pyTextOrNull d.language),
    ("title", pyTextOrNull d.title), ("identifiers", .arr (d.identifiers.map .str)),
    ("sections", .arr (d.sections.map fun s => .named s.entries)), ("blocks", .arr (d.blocks.map fun b => .named b.entries)),
    ("tables", .arr (d.tables.map fun t => .named t.entries)), ("figures", .arr (d.figures.map fun f => .named f.entries)),
    ("references", .arr (d.references.map fun r => .named r.entries)), ("parser_quality", .named d.parserQuality.entries)]

def canonicalBytes (d : DocumentBody) : Bytes := (PyValue.named d.entries).encode

end DocumentBody

/-- A document whose checks passed, of at most 25 MiB of canonical bytes. -/
structure CanonicalDocument extends DocumentBody where
  checked : toDocumentBody.check = .ok ()
  small : toDocumentBody.canonicalBytes.length ≤ 26214400

namespace CanonicalDocument

/-- The constructor. -/
def create (body : DocumentBody) : Except PyError CanonicalDocument :=
  match checked : body.check with
  | .error e => .error e
  | .ok () =>
    if small : body.canonicalBytes.length ≤ 26214400 then .ok ⟨body, checked, small⟩
    else .error ⟨.coreContract, "canonical document exceeds the bounded serialized size"⟩

theorem create_ok {body : DocumentBody} {document : CanonicalDocument} (made : create body = .ok document) :
    document.toDocumentBody = body := by
  unfold create at made
  split at made
  · cases made
  · split at made
    · cases made
      rfl
    · cases made

def artifactId [Sha256] (d : CanonicalDocument) : ArtifactId := ⟨sha256Bytes d.canonicalBytes⟩

/-- No two objects of a document have the same identity. -/
theorem objectIds_nodup (d : CanonicalDocument) : d.objectIds.Nodup := by
  have checked := d.checked
  simp only [DocumentBody.check, bind_ok, ensure_ok, decide_eq_true_eq, exists_const] at checked
  obtain ⟨-, -, -, -, -, -, -, -, -, -, ⟨_, objects, -⟩⟩ := checked
  simp only [DocumentBody.checkObjects, bind_ok, ensure_ok, decide_eq_true_eq, exists_const] at objects
  exact objects.2.2.2.2.2.1

/-- The identity of a table names it. -/
theorem table_unique (document : CanonicalDocument) {first second : CanonicalTable} (one : first ∈ document.tables)
    (two : second ∈ document.tables) (same : first.tableId = second.tableId) : first = second := by
  have ids := document.objectIds_nodup
  unfold DocumentBody.objectIds at ids
  rw [List.nodup_append, List.nodup_append, List.nodup_append] at ids
  exact List.inj_on_of_nodup_map ids.1.1.2.1 one two same

end CanonicalDocument
end Molly
