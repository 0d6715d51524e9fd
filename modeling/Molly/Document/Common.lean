import Molly.Document.Canonical
import Molly.Effect.Grid
import Molly.Effect.Tree

/-! What the parsers share: the parser configuration, elements and their places, bounded loops, table
cells, and the assembly of the document. -/
namespace Molly
open Effect (RoseTree Step Place)

/-! ### Configuration -/

structure DocumentLimits where
  maxSourceBytes : Nat
  maxNodeCount : Nat
  maxNestingDepth : Nat
  maxSections : Nat
  maxBlocks : Nat
  maxTables : Nat
  maxTableCells : Nat
  maxFigures : Nat
  maxReferences : Nat
  maxTextChars : Nat
  maxNormalizedTextBytes : Nat
  maxPageCount : Nat
  pdfMinTextChars : Nat

/-- Every limit, with the most it may be. -/
def DocumentLimits.entries (l : DocumentLimits) : List (String × Nat × Nat) :=
  [("max_source_bytes", l.maxSourceBytes, 26214400), ("max_node_count", l.maxNodeCount, 10000000),
    ("max_nesting_depth", l.maxNestingDepth, 10000), ("max_sections", l.maxSections, 1000000),
    ("max_blocks", l.maxBlocks, 1000000), ("max_tables", l.maxTables, 100000),
    ("max_table_cells", l.maxTableCells, 2000000), ("max_figures", l.maxFigures, 1000000),
    ("max_references", l.maxReferences, 1000000), ("max_text_chars", l.maxTextChars, 25000000),
    ("max_normalized_text_bytes", l.maxNormalizedTextBytes, 26214400), ("max_page_count", l.maxPageCount, 100000),
    ("pdf_min_text_chars", l.pdfMinTextChars, 1000000)]

structure DocumentParserConfig extends DocumentLimits where
  parserVersions : PyMapping
  routingPriority : List Identifier
  mineruEnabled : Bool
  mineruProfileRef : Option Identifier
  bounded : ∀ l ∈ toDocumentLimits.entries, 1 ≤ l.2.1 ∧ l.2.1 ≤ l.2.2
  normalized : maxNormalizedTextBytes ≤ maxSourceBytes
  routed : routingPriority ≠ [] ∧ routingPriority.Nodup ∧
    ∀ id ∈ routingPriority, (parserVersions.fields.lookup id.pyText).isSome = true

namespace DocumentParserConfig

def entries (c : DocumentParserConfig) : List (String × PyValue) :=
  let texts (items : List String) : PyValue := .arr (items.map fun t => .str (PyText.ofString t))
  [("canonical_schema_version", .str (PyText.ofString "1")), ("parser_versions", c.parserVersions.toValue),
    ("routing_priority", .arr (c.routingPriority.map fun id => .str id.pyText)),
    ("normalization_policy", .named [("unicode_normal_form", .str (PyText.ofString "NFC")),
      ("line_endings", .str (PyText.ofString "LF")), ("whitespace", .str (PyText.ofString "collapse-and-trim")),
      ("html_non_content", texts ["noscript", "script", "style"]),
      ("xml_entities", .str (PyText.ofString "standard-parser-resolved-without-external-resolution"))]),
    ("limits", .named (c.toDocumentLimits.entries.map fun l => (l.1, .int l.2.1))),
    ("pdf_fallback", .named [("mineru_enabled", .bool c.mineruEnabled),
      ("mineru_profile_ref", pyOptionalText Identifier.text c.mineruProfileRef)])]

def digest [Sha256] (c : DocumentParserConfig) : Digest := sha256Bytes (PyValue.named c.entries).encode

end DocumentParserConfig

namespace Sample

/-- The limits and the parsers a configuration has when nothing else is asked for. -/
def parserConfig : DocumentParserConfig where
  maxSourceBytes := 26214400
  maxNodeCount := 100000
  maxNestingDepth := 100
  maxSections := 10000
  maxBlocks := 50000
  maxTables := 2000
  maxTableCells := 100000
  maxFigures := 10000
  maxReferences := 20000
  maxTextChars := 1000000
  maxNormalizedTextBytes := 5242880
  maxPageCount := 10000
  pdfMinTextChars := 32
  parserVersions := ⟨["html", "jats", "mineru", "pdf_text", "xml"].map fun id =>
    (PyText.ofString id, .str (PyText.ofString "1")), by decide +kernel, rfl⟩
  routingPriority := [⟨"jats", by decide⟩, ⟨"xml", by decide⟩, ⟨"html", by decide⟩, ⟨"pdf_text", by decide⟩, ⟨"mineru", by decide⟩]
  mineruEnabled := true
  mineruProfileRef := some ⟨"mineru-fallback", by decide⟩
  bounded := by decide +kernel
  normalized := by decide
  routed := by decide +kernel

/-- The identity of a source artifact. -/
def sourceId : PyText := PyText.ofString "sha256:" ++ List.replicate 64 48

end Sample

def limitError (message : String) : PyError := ⟨.documentLimit, message⟩

def malformedError (message : String) : PyError := ⟨.malformedDocument, message⟩

/-- `ensure_source_limit` of so many bytes. -/
def ensureSourceLimit (config : DocumentParserConfig) (size : Nat) : Except PyError Unit :=
  ensure (size ≤ config.maxSourceBytes) (limitError "document source exceeds the configured byte limit")

/-! ### Elements -/

/-- A node of the HTML tree or of the XML tree; `text` stands before its children, `tail` after it. -/
structure Element where
  tag : PyText
  attrs : List (PyText × PyText)
  text : PyText
  tail : PyText
  deriving DecidableEq, Inhabited

/-- The tag is one of these. -/
def oneOf (tags : List String) (tag : PyText) : Bool := (tags.map PyText.ofString).contains tag

section
variable [CaseText]

/-- `local_name`: what follows the last brace, folded. -/
def localName (tag : PyText) : PyText := PyText.casefold (tag.reverse.takeWhile (· ≠ 125)).reverse

def Element.name (e : Element) : PyText := localName e.tag

mutual
/-- The texts `element_text` joins. -/
def textParts (skip : List String) : RoseTree Element → List PyText
  | .node e children =>
    if oneOf skip e.name then [] else (if e.text = [] then [] else [e.text]) ++ textPartsOfAll skip children

def textPartsOfAll (skip : List String) : List (RoseTree Element) → List PyText
  | [] => []
  | t :: ts => textParts skip t ++ (if t.label.tail = [] then [] else [t.label.tail]) ++ textPartsOfAll skip ts
end

/-- `element_text`. -/
def elementText [NormalText] (skip : List String) (t : RoseTree Element) : Except PyError PyText :=
  normalizeText "source text" 1000000 (PyText.joinSpaced (textParts skip t))

/-- `_safe_text` of an element, the subtrees with these names left out. -/
def safeTextSkipping [NormalText] (skip : List String) (config : DocumentParserConfig) (field : String) (required : Bool)
    (t : RoseTree Element) : Except PyError PyText := do
  let value ← elementText skip t
  ensure (!required || value ≠ []) (malformedError (field ++ " is empty"))
  ensure (value.length ≤ config.maxTextChars) (limitError (field ++ " exceeds the configured text limit"))
  return value

/-- `_safe_text` of an element that may be missing. -/
def safeOptional [NormalText] (skip : List String) (config : DocumentParserConfig) (field : String) :
    Option (RoseTree Element) → Except PyError (Option PyText)
  | none => .ok none
  | some t => some <$> safeTextSkipping skip config field false t

/-- The first place with one of these names, from a place upwards. -/
def nearestFrom (names : List String) : Place Element → Option (Place Element)
  | [] => none
  | s :: up => if oneOf names s.tree.label.name then some (s :: up) else nearestFrom names up

/-- `nearest_ancestor`. -/
def nearestAncestor (names : List String) (p : Place Element) : Option (Place Element) := nearestFrom names p.tail

/-- `is_inside`. -/
def isInside (names : List String) (p : Place Element) : Bool := (nearestAncestor names p).isSome

/-- `nearest_ancestor(...) is other`. -/
def nearestIs (names : List String) (p other : Place Element) : Bool :=
  (nearestAncestor names p).any fun up => up.keys = other.keys

/-- How many children of the parent, up to this one, have the child's name. -/
def siblingIndex (s : Step Element) (siblings : List (RoseTree Element)) : Nat :=
  ((siblings.take (s.index + 1)).filter fun t => t.label.name = s.tree.label.name).length

/-- `str(n)`. -/
def natText (n : Nat) : PyText := (Nat.toDigits 10 n).map CodePoint.ofChar

/-- `/name[index]`. -/
def pathStep (name : PyText) (index : Nat) : PyText := 47 :: name ++ 91 :: natText index ++ [93]

/-- The path `structural_paths` gives to a place; the walk begins at the place of this length. -/
def structuralPath (depth : Nat) : Place Element → PyText
  | [] => []
  | s :: up =>
    if up.length < depth then
      pathStep (if s.tree.label.name = [] then PyText.ofString "document" else s.tree.label.name) 1
    else structuralPath depth up ++
      pathStep s.tree.label.name (siblingIndex s (match up with
        | parent :: _ => parent.tree.children
        | [] => []))

/-- The depth check of `structural_paths`. -/
def ensureDepth (config : DocumentParserConfig) (root : Place Element) : Except PyError Unit :=
  ensure (root.iter.all fun p => p.length < root.length + config.maxNestingDepth)
    (limitError "document nesting depth exceeds the configured limit")

/-- The body of `parse_positive_int` and `parse_nonnegative_int`. -/
def parseBoundedInt [DecimalText] (low default : Nat) (field : String) (maximum : Nat) : Option PyText → Except PyError Nat
  | none => .ok default
  | some value =>
    if value.strip = [] then .ok default
    else
      match intOfText value with
      | none => .error ⟨.coreContract, field ++ " must be an integer"⟩
      | some n =>
        if (low : Int) ≤ n ∧ n ≤ maximum then .ok n.toNat
        else .error (limitError (field ++ " is outside the bounded range"))

def parsePositiveInt [DecimalText] : String → Nat → Option PyText → Except PyError Nat := parseBoundedInt 1 1

def parseNonnegativeInt [DecimalText] : String → Nat → Option PyText → Except PyError Nat := parseBoundedInt 0 0

/-- `len(text.encode("utf-8"))`. -/
def utf8Size (text : PyText) : Except PyError Nat :=
  if text.any CodePoint.isSurrogate then .error ⟨.valueError, "surrogates not allowed"⟩
  else .ok (text.map fun p => if p.val < 128 then 1 else if p.val < 2048 then 2 else if p.val < 65536 then 3 else 4).sum

/-! ### Citations -/

/-- Word characters of the interpreter's Unicode database, `\w`, and those of `str.isdigit`. -/
class WordText where
  isWord : CodePoint → Bool
  isDigit : CodePoint → Bool

/-- The letters, digits and the underscore of ASCII; the examples use no others. -/
@[reducible] def asciiWords : WordText := ⟨fun p => p.toChar.isAlphanum || p = 95, fun p => p.toChar.isDigit⟩

variable [DecimalText] [WordText]

/-- `[-._;()/:A-Z0-9]` without regard to case, which adds four letters outside ASCII. -/
def isDoiChar (p : CodePoint) : Bool :=
  p.toChar.isAlphanum || p.toChar ∈ ['-', '.', '_', ';', '(', ')', '/', ':'] || p.val ∈ [0x130, 0x131, 0x17F, 0x212A]

/-- `lower()` of a character of an identifier. -/
def lowerDoi (p : CodePoint) : PyText :=
  if p.val = 0x130 then [105, 0x307] else if p.val = 0x212A then [107]
  else if 65 ≤ p.val ∧ p.val ≤ 90 then [p + 32] else [p]

/-- The longest start of the text that ends at a word boundary, of characters that match; `last` is the character before. -/
def doiTail (last : CodePoint) : PyText → Option PyText
  | [] => if WordText.isWord last then some [] else none
  | p :: rest =>
    match if isDoiChar p then doiTail p rest else none with
    | some tail => some (p :: tail)
    | none => if WordText.isWord last ≠ WordText.isWord p then some [] else none

/-- A match of `_DOI_RE` at the start of the text, a word boundary before it. -/
def doiAt (text : PyText) : Option PyText :=
  match text.map CodePoint.toChar with
  | '1' :: '0' :: '.' :: _ =>
    let rest := text.drop 3
    let digits := rest.takeWhile fun p => (DecimalText.digit p).isSome
    match rest.drop digits.length with
    | slash :: q :: more =>
      if 4 ≤ digits.length ∧ digits.length ≤ 9 ∧ slash.toChar = '/' ∧ isDoiChar q then
        (doiTail q more).map fun tail => text.take (3 + digits.length) ++ slash :: q :: tail
      else none
    | _ => none
  | _ => none

/-- `_DOI_RE.search`; told whether a word character stands before. -/
def doiSearch : Bool → PyText → Option PyText
  | _, [] => none
  | after, p :: rest => ((if after then none else doiAt (p :: rest)).orElse fun _ => doiSearch (WordText.isWord p) rest)

/-- `citation_identifier`. -/
def citationIdentifier (text : PyText) : Option PyText :=
  (doiSearch false text).map fun doi =>
    ((doi.reverse.dropWhile fun p => p.toChar ∈ ['.', ',', ';']).reverse).flatMap lowerDoi

end

/-! ### Bounded loops -/

/-- Make an object of each item, or none, and stop past the limit. -/
def gather (limit : Nat) (fault : PyError) (make : Nat → α → Except PyError (Option β)) :
    Nat → List β → List α → Except PyError (List β)
  | _, made, [] => .ok made
  | n, made, a :: rest => do
    match ← make n a with
    | none => gather limit fault make (n + 1) made rest
    | some b =>
      ensure (made.length < limit) fault
      gather limit fault make (n + 1) (made ++ [b]) rest

/-- What each item gave, in order. -/
theorem gather_ok {limit : Nat} {fault : PyError} {make : Nat → α → Except PyError (Option β)} {items : List α} :
    ∀ {n : Nat} {made all : List β}, gather limit fault make n made items = .ok all →
      ∃ given : List (Option β), all = made ++ given.filterMap id ∧
        List.Forall₂ (fun item o => make item.2 item.1 = .ok o) (items.zipIdx n) given := by
  induction items with
  | nil =>
    intro n made all done
    cases done
    exact ⟨[], by simp, .nil⟩
  | cons a rest ih =>
    intro n made all done
    rw [gather] at done
    obtain ⟨o, first, done⟩ := bind_ok.mp done
    cases o with
    | none =>
      obtain ⟨given, shown, each⟩ := ih done
      exact ⟨none :: given, by simpa using shown, .cons first each⟩
    | some b =>
      obtain ⟨_, -, done⟩ := bind_ok.mp done
      obtain ⟨given, shown, each⟩ := ih done
      exact ⟨some b :: given, by simpa using shown, .cons first each⟩

/-- The error of a loop that makes too many objects. -/
def countError (field : String) : PyError := limitError (field ++ " count exceeds the configured limit")

/-! ### Table cells -/

section
variable [CaseText] [PrintableText] [DecimalText]

/-- What the cells of HTML and of XML tables are made with. -/
structure CellRules where
  locate : Place Element → Except PyError SourceLocator
  attr : Element → String → Option PyText
  isHeader : Element → Bool
  text : RoseTree Element → Except PyError PyText
  overlap : PyError

/-- The positions taken, and the cells made. -/
structure CellGrid where
  occupied : List (Nat × Nat)
  cells : List CanonicalCell

/-- One turn of the loop over the cells of a row: the column behind the cell, and the grid. -/
def placeCell (config : DocumentParserConfig) (rules : CellRules) (rowIndex columnIndex : Nat) (grid : CellGrid)
    (cell : Place Element) : Except PyError (Nat × CellGrid) := do
  let columnIndex := Effect.Grid.firstFree grid.occupied rowIndex columnIndex
  let rowSpan ← parsePositiveInt "table row span" 10000 (rules.attr cell.label "rowspan")
  let columnSpan ← parsePositiveInt "table column span" 10000 (rules.attr cell.label "colspan")
  let locator ← rules.locate cell
  match Effect.Grid.occupy grid.occupied (Effect.Span.positions ⟨rowIndex, columnIndex, rowSpan, columnSpan⟩) with
  | none => throw rules.overlap
  | some occupied =>
    let text ← rules.text cell.tree
    let made ← CanonicalCell.create rowIndex columnIndex rowSpan columnSpan (rules.isHeader cell.label) text locator
    ensure (grid.cells.length < config.maxTableCells) (limitError "table cell count exceeds the configured limit")
    return (columnIndex + columnSpan, ⟨occupied, grid.cells ++ [made]⟩)

def placeRow (config : DocumentParserConfig) (rules : CellRules) (rowIndex : Nat) :
    Nat → CellGrid → List (Place Element) → Except PyError CellGrid
  | _, grid, [] => .ok grid
  | columnIndex, grid, cell :: rest => do
    let (columnIndex, grid) ← placeCell config rules rowIndex columnIndex grid cell
    placeRow config rules rowIndex columnIndex grid rest

/-- The loop fault the rows, each with its cells. -/
def placeRows (config : DocumentParserConfig) (rules : CellRules) :
    Nat → CellGrid → List (List (Place Element)) → Except PyError CellGrid
  | _, grid, [] => .ok grid
  | rowIndex, grid, cells :: rest => do
    let grid ← placeRow config rules rowIndex 0 grid cells
    placeRows config rules (rowIndex + 1) grid rest

end

/-! ### Locators and sections -/

section
variable [CaseText] [PrintableText]

/-- The locator of a place under a root. -/
def locateAt (kind : SourceLocatorKind) (source : PyText) (root p : Place Element) : Except PyError SourceLocator :=
  SourceLocator.create source (.str (PyText.ofString kind.text)) (some (structuralPath root.length p)) .null .null none

/-- The sections made so far, each with its element. -/
abbrev SectionIds := List (List Nat × CanonicalSection)

/-- `_nearest_section_id`. -/
def nearestSectionId (made : SectionIds) : Place Element → Option Identifier
  | [] => none
  | s :: up =>
    match made.lookup (Place.keys (s :: up)) with
    | some found => some found.sectionId
    | none => nearestSectionId made up

end

/-! ### The document -/

section
variable [CaseText] [PrintableText] [Sha256]

/-- What a parser has found. -/
structure Extraction where
  language : Option PyText
  title : Option PyText
  identifiers : List PyText
  sections : List CanonicalSection
  blocks : List CanonicalBlock
  tables : List CanonicalTable
  figures : List CanonicalFigure
  references : List CanonicalReference

namespace Extraction

def cellCount (e : Extraction) : Nat := (e.tables.map fun t => t.cells.length).sum

/-- The characters of the blocks and of the table cells. -/
def textCharCount (e : Extraction) : Nat :=
  (e.blocks.map fun b => b.text.length).sum + (e.tables.map fun t => (t.cells.map fun c => c.text.length).sum).sum

end Extraction

/-- `build_document`. -/
def buildDocument (config : DocumentParserConfig) (source mediaType : PyText) (parser : ParserId) (found : Extraction)
    (quality : ParserQuality) : Except PyError CanonicalDocument := do
  let limited (length maximum : Nat) (field : String) : Except PyError Unit :=
    ensure (length ≤ maximum) (limitError (field ++ " exceeds the configured limit"))
  limited found.sections.length config.maxSections "sections"
  limited found.blocks.length config.maxBlocks "blocks"
  limited found.tables.length config.maxTables "tables"
  limited found.cellCount config.maxTableCells "table cells"
  limited found.figures.length config.maxFigures "figures"
  limited found.references.length config.maxReferences "references"
  let source ← validateArtifactId "artifact_id" source.display
  let mediaType ← DocumentMediaType.read mediaType
  CanonicalDocument.create ⟨source, mediaType, parser, config.digest, found.language, found.title,
    found.identifiers.eraseDups, found.sections, found.blocks, found.tables, found.figures, found.references, quality⟩

/-- An assembled document holds what was found. -/
theorem buildDocument_ok {config : DocumentParserConfig} {source mediaType : PyText} {parser : ParserId} {found : Extraction}
    {quality : ParserQuality} {document : CanonicalDocument}
    (built : buildDocument config source mediaType parser found quality = .ok document) :
    document.language = found.language ∧ document.title = found.title ∧ document.identifiers = found.identifiers.eraseDups ∧
      document.sections = found.sections ∧ document.blocks = found.blocks ∧ document.tables = found.tables ∧
      document.figures = found.figures ∧ document.references = found.references := by
  simp only [buildDocument, bind_ok, ensure_ok] at built
  obtain ⟨_, -, _, -, _, -, _, -, _, -, _, -, id, -, media, -, made⟩ := built
  have body := CanonicalDocument.create_ok made
  rw [body]
  exact ⟨rfl, rfl, rfl, rfl, rfl, rfl, rfl, rfl⟩

end
end Molly
