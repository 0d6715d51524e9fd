import Molly.Document.Common

/-! The JATS and the generic XML parser: the guards before and behind the XML library, and the document
extracted from its tree. -/
namespace Molly
open Effect (RoseTree Step Place)

/-- Why the XML library gives no tree: an error that the parser catches, or another one. -/
inductive XmlFailure where
  | refused
  | other (error : PyError)

/-- `ET.fromstring(data, parser=ET.XMLParser())`: its tree, and whether it expands an entity of the source. -/
class XmlLibrary where
  parse : Bytes → Except XmlFailure (RoseTree Element)
  expands : Bytes → Bool

namespace XmlParser

def sectionTags : List String := ["sec", "section", "section-group"]
def paragraphTags : List String := ["p", "para", "paragraph"]
def headingTags : List String := ["title", "head", "heading", "section-title"]
def listItemTags : List String := ["list-item", "li", "item"]
def tableContainerTags : List String := ["table-wrap", "table"]
def figureTags : List String := ["fig", "figure"]
def referenceTags : List String := ["ref", "reference"]

/-- What no block of running text and no section lies in. -/
def apartTags : List String := tableContainerTags ++ figureTags ++ referenceTags

/-! ### Declarations -/

def isByteBlank (b : UInt8) : Bool := b = 32 || (9 ≤ b && b ≤ 13)

/-- A byte without regard to the case of ASCII letters. -/
def lowerByte (b : UInt8) : UInt8 := if 65 ≤ b && b ≤ 90 then b + 32 else b

def isByteWord (b : UInt8) : Bool :=
  (97 ≤ lowerByte b && lowerByte b ≤ 122) || (48 ≤ b && b ≤ 57) || b = 95

/-- The word at the start of the bytes, in any case, a word boundary after it. -/
def byteWord : Bytes → Bytes → Bool
  | [], rest => !(rest.head?.any isByteWord)
  | w :: word, b :: rest => lowerByte b = w && byteWord word rest
  | _ :: _, [] => false

def doctypeBytes : Bytes := [100, 111, 99, 116, 121, 112, 101]
def entityBytes : Bytes := [101, 110, 116, 105, 116, 121]

/-- A match of `<!\s*(?:doctype|entity)\b` at the start of the bytes. -/
def declaresHere : Bytes → Bool
  | 60 :: 33 :: rest =>
    let rest := rest.dropWhile isByteBlank
    byteWord doctypeBytes rest || byteWord entityBytes rest
  | _ => false

/-- `_XML_DANGEROUS_RE.search`. -/
def dangerous : Bytes → Bool
  | [] => false
  | b :: rest => declaresHere (b :: rest) || dangerous rest

/-! ### The tree -/

section
variable [CaseText]

/-- The counts of the nested `visit`, in document order. -/
def ensureCounts (config : DocumentParserConfig) (root : Place Element) : Except PyError Unit :=
  (root.iter.zipIdx 1).forM fun (p, n) => do
    ensure (n ≤ config.maxNodeCount) (limitError "XML node count exceeds the configured limit")
    ensure (p.length ≤ config.maxNestingDepth) (limitError "XML nesting depth exceeds the configured limit")

def includes (e : Element) : Bool :=
  oneOf ["include"] e.name && e.tag.tails.any fun t => (PyText.ofString "http://www.w3.org/2001/XInclude").isPrefixOf t

/-- The checks of `_tree_details` on the tree. -/
def rootOf [NormalText] (config : DocumentParserConfig) (tree : RoseTree Element) : Except PyError (Place Element) := do
  let root : Place Element := [⟨0, tree⟩]
  ensureCounts config root
  ensure (!root.iter.any fun p => includes p.label) (malformedError "XML XInclude is not permitted")
  ensureDepth config root
  let text ← normalizeText "XML normalized text" 1000000 (PyText.joinSpaced (textParts [] tree))
  let size ← utf8Size text
  ensure (size ≤ config.maxNormalizedTextBytes) (limitError "XML normalized text exceeds the configured limit")
  return root

/-- `_tree_details`: the place of the root, and whether an entity of the source was expanded on the way. -/
def treeDetails [NormalText] [XmlLibrary] (config : DocumentParserConfig) (source : Bytes) :
    Except PyError (Place Element) × Bool :=
  if config.maxSourceBytes < source.length then
    (.error (limitError "document source exceeds the configured byte limit"), false)
  else if dangerous source then (.error (malformedError "XML external declaration is not permitted"), false)
  else
    (match XmlLibrary.parse source with
    | .error .refused => .error (malformedError "XML source is malformed")
    | .error (.other e) => .error e
    | .ok tree => rootOf config tree, XmlLibrary.expands source)

/-! ### Queries -/

/-- `attr_by_local_name`. -/
def attrByLocalName (e : Element) (name : String) : Option PyText :=
  (e.attrs.find? fun a => localName a.1 = PyText.ofString name).map Prod.snd

def named (tags : List String) (p : Place Element) : Bool := oneOf tags p.label.name

/-- The first child with one of these names. -/
def childNamed (tags : List String) (p : Place Element) : Option (RoseTree Element) :=
  p.tree.children.find? fun t => oneOf tags t.label.name

/-- `_section_elements`. -/
def sectionElements (root : Place Element) : List (Place Element) :=
  root.iter.filter fun p => named sectionTags p && !isInside apartTags p

/-- `_table_elements`: the wraps, and the tables outside them. -/
def tableElements (root : Place Element) : List (Place Element) :=
  root.iter.filter fun p => named ["table-wrap"] p || (named ["table"] p && (nearestAncestor ["table-wrap"] p).isNone)

/-- The table of a container: the first one in it, else the container. -/
def tableIn (container : Place Element) : Place Element := (container.iter.find? (named ["table"])).getD container

/-- The rows of `_make_table`. -/
def tableRows (table : Place Element) : List (Place Element) :=
  table.iter.filter fun p => named ["tr"] p && nearestIs ["table"] p table

/-- `_row_cells`. -/
def rowCells (row : Place Element) : List (Place Element) :=
  row.iter.filter fun p => p.keys ≠ row.keys && named ["th", "td"] p && nearestIs ["tr"] p row

end

/-! ### Extraction -/

section
variable [CaseText] [NormalText] [PrintableText] [DecimalText] [WordText] [Sha256]

omit [PrintableText] [DecimalText] [WordText] [Sha256] in
/-- `_safe_text`. -/
def safeText (config : DocumentParserConfig) : String → Bool → RoseTree Element → Except PyError PyText := safeTextSkipping [] config

def locate (source : PyText) (root p : Place Element) : Except PyError SourceLocator := locateAt .xmlElement source root p

/-- The parent of a section element. -/
def parentOf (made : SectionIds) (element : Place Element) : Except PyError (Option Identifier) :=
  match nearestAncestor sectionTags element with
  | none => .ok none
  | some parent =>
    match made.lookup parent.keys with
    | some found => .ok (some found.sectionId)
    | none => .error (malformedError "section hierarchy cannot be normalized")

/-- One turn of the loop of `_make_sections`; the level counts the sections above. -/
def sectionOf (config : DocumentParserConfig) (source : PyText) (root : Place Element) (made : SectionIds)
    (element : Place Element) : Except PyError CanonicalSection := do
  let locator ← locate source root element
  let sectionId ← deterministicObjectId .section source "section" made.length locator
  let parent ← parentOf made element
  let title ← safeOptional [] config "section title" (childNamed headingTags element)
  let level := 1 + (element.tail.filter fun s => oneOf sectionTags s.tree.label.name).length
  CanonicalSection.create sectionId (title.getD []) level parent locator

/-- `_make_sections`. -/
def makeSections (config : DocumentParserConfig) (source : PyText) (root : Place Element) :
    SectionIds → List (Place Element) → Except PyError SectionIds
  | made, [] => .ok made
  | made, element :: rest => do
    let found ← sectionOf config source root made element
    makeSections config source root (made ++ [(element.keys, found)]) rest

def cellRules (config : DocumentParserConfig) (source : PyText) (root : Place Element) : CellRules where
  locate := locate source root
  attr := attrByLocalName
  isHeader e := oneOf ["th"] e.name
  text := safeText config "table cell" false
  overlap := malformedError "table spans overlap existing cells"

/-- `_make_table`. -/
def tableOf (config : DocumentParserConfig) (source : PyText) (root : Place Element) (sections : SectionIds)
    (container : Place Element) (ordinal : Nat) : Except PyError CanonicalTable := do
  let locator ← locate source root container
  let caption ← safeOptional [] config "table caption" (childNamed ["caption", "title"] container)
  let grid ← placeRows config (cellRules config source root) 0 ⟨[], []⟩ ((tableRows (tableIn container)).map rowCells)
  let tableId ← deterministicObjectId .table source "table" ordinal locator
  CanonicalTable.create tableId caption (nearestSectionId sections container) locator grid.cells

/-- The tables of the document. -/
def makeTables (config : DocumentParserConfig) (source : PyText) (root : Place Element) (sections : SectionIds) :
    Except PyError (List CanonicalTable) :=
  (tableElements root).zipIdx.mapM fun (container, ordinal) => tableOf config source root sections container ordinal

/-- One turn of the loop of `_make_figures`. -/
def figureOf (config : DocumentParserConfig) (source : PyText) (root : Place Element) (ordinal : Nat) (figure : Place Element) :
    Except PyError CanonicalFigure := do
  let locator ← locate source root figure
  let figureId ← deterministicObjectId .figure source "figure" ordinal locator
  let label ← safeOptional [] config "figure label" (childNamed ["label"] figure)
  let caption ← safeOptional [] config "figure caption" (childNamed ["caption", "title"] figure)
  CanonicalFigure.create figureId label caption locator

def figureElements (root : Place Element) : List (Place Element) := root.iter.filter (named figureTags)

/-- `_make_figures`. -/
def makeFigures (config : DocumentParserConfig) (source : PyText) (root : Place Element) : Except PyError (List CanonicalFigure) :=
  gather config.maxFigures (countError "figure") (fun n p => some <$> figureOf config source root n p) 0 [] (figureElements root)

/-- One turn of the loop of `_make_references`. -/
def referenceOf (config : DocumentParserConfig) (source : PyText) (root : Place Element) (ordinal : Nat) (element : Place Element) :
    Except PyError CanonicalReference := do
  let text ← safeText config "reference citation" true element.tree
  let locator ← locate source root element
  let referenceId ← deterministicObjectId .reference source "reference" ordinal locator
  CanonicalReference.create referenceId text (citationIdentifier text) locator

def referenceElements (root : Place Element) : List (Place Element) :=
  root.iter.filter fun p => named referenceTags p && isInside ["ref-list", "references", "bibliography"] p

/-- `_make_references`. -/
def makeReferences (config : DocumentParserConfig) (source : PyText) (root : Place Element) :
    Except PyError (List CanonicalReference) :=
  gather config.maxReferences (countError "reference") (fun n p => some <$> referenceOf config source root n p) 0 [] (referenceElements root)

omit [NormalText] [PrintableText] [DecimalText] [Sha256] in
/-- The tag of an HTML heading: an h and a digit. -/
def isHeadingLetter (tag : PyText) : Bool :=
  match tag with
  | [h, digit] => h.toChar = 'h' && WordText.isDigit digit
  | _ => false

omit [NormalText] [PrintableText] [DecimalText] [Sha256] in
/-- The kind of the block an element makes, if it makes one. -/
def blockKind (title : Option (Place Element)) (abstracts : List (List Nat)) (p : Place Element) : Option CanonicalBlockKind :=
  if abstracts.contains p.keys then
    if named paragraphTags p || named ["abstract", "summary"] p then some .abstractText else none
  else if title.any fun t => t.keys = p.keys then none
  else if isInside apartTags p then
    if named ["caption", "figcaption"] p then some .caption
    else if named headingTags p && isInside (figureTags ++ tableContainerTags) p then some .caption
    else none
  else if named paragraphTags p then
    if isInside ("abstract" :: listItemTags) p then none else some .paragraph
  else if named listItemTags p then some .listItem
  else if named headingTags p then if isInside sectionTags p then some .heading else none
  else if isHeadingLetter p.label.name then some .heading
  else if named ["caption", "figcaption"] p then some .caption
  else none

/-- The calls of the nested `add`: a block is counted when it is made. -/
def addBlocks (config : DocumentParserConfig) (source : PyText) (root : Place Element) (sections : SectionIds) :
    List CanonicalBlock → List (CanonicalBlockKind × Place Element) → Except PyError (List CanonicalBlock)
  | made, [] => .ok made
  | made, (kind, p) :: rest => do
    let text ← safeText config "canonical block" false p.tree
    if text = [] then addBlocks config source root sections made rest
    else
      let locator ← locate source root p
      let blockId ← deterministicObjectId .block source "block" made.length locator
      let block ← CanonicalBlock.create blockId kind text (nearestSectionId sections p) locator
      ensure (made.length < config.maxBlocks) (limitError "block count exceeds the configured limit")
      addBlocks config source root sections (made ++ [block]) rest

/-- `_make_blocks`: the title first, then the elements in document order. -/
def makeBlocks (config : DocumentParserConfig) (source : PyText) (root : Place Element) (sections : SectionIds)
    (title : Option (Place Element)) (abstracts : List (List Nat)) : Except PyError (List CanonicalBlock) :=
  addBlocks config source root sections [] (title.toList.map (.title, ·) ++
    root.iter.filterMap fun p => (blockKind title abstracts p).map (·, p))

/-- The title element of `extract_xml_document`. -/
def titleElement (jats : Bool) (root : Place Element) : Option (Place Element) :=
  if jats then root.iter.find? (named ["article-title"])
  else root.iter.find? fun p => named ["title", "document-title", "article-title"] p && !isInside (sectionTags ++ apartTags) p

def identifierElements (jats : Bool) (root : Place Element) : List (Place Element) :=
  root.iter.filter (named (if jats then ["article-id"] else ["article-id", "identifier", "doi"]))

/-- The paragraphs of the abstracts, else the abstracts. -/
def abstractElements (jats : Bool) (root : Place Element) : List (List Nat) :=
  let roots := root.iter.filter (named (if jats then ["abstract"] else ["abstract", "summary"]))
  let paragraphs := roots.flatMap fun a => a.iter.filter (named paragraphTags)
  (if paragraphs = [] then roots else paragraphs).map Place.keys

omit [PrintableText] [DecimalText] [WordText] [Sha256] in
/-- The language the root declares. -/
def languageOf (e : Element) : Except PyError (Option PyText) :=
  match attrByLocalName e "lang" with
  | none => .ok none
  | some language => some <$> normalizeText "document language" 64 language

def isJatsRoot (root : Place Element) : Bool := named ["article"] root && root.iter.any (named ["article-meta"])

/-- The body of `extract_xml_document` behind the tree. -/
def extract (config : DocumentParserConfig) (source : PyText) (jats : Bool) (root : Place Element) : Except PyError Extraction := do
  let titled := titleElement jats root
  let title ← safeOptional [] config "document title" (titled.map Place.tree)
  let identifiers ← (identifierElements jats root).mapM fun p => safeText config "document identifier" false p.tree
  let language ← languageOf root.label
  let sections ← makeSections config source root [] (sectionElements root)
  let tables ← makeTables config source root sections
  let figures ← makeFigures config source root
  let references ← makeReferences config source root
  let blocks ← makeBlocks config source root sections titled (abstractElements jats root)
  return ⟨language, title, identifiers.filter (· ≠ []), sections.map Prod.snd, blocks, tables, figures, references⟩

/-- The document of a tree. -/
def documentOf (config : DocumentParserConfig) (source mediaType : PyText) (jats : Bool) (root : Place Element) :
    Except PyError CanonicalDocument := do
  ensure (!jats || named ["article"] root) ⟨.unsupportedDocument, "source is not a JATS article"⟩
  ensure (!jats || isJatsRoot root) ⟨.unsupportedDocument, "source does not contain JATS article metadata"⟩
  let found ← extract config source jats root
  let quality ← ParserQuality.create .good found.textCharCount found.blocks.length found.tables.length 0 [] []
  buildDocument config source mediaType (if jats then .jats else .xml) found quality

/-- `extract_xml_document`. -/
def parse [XmlLibrary] (config : DocumentParserConfig) (source mediaType : PyText) (jats : Bool) (bytes : Bytes) :
    Except PyError CanonicalDocument × Bool :=
  let (tree, expanded) := treeDetails config bytes
  (do
    let root ← tree
    documentOf config source mediaType jats root, expanded)

omit [PrintableText] [DecimalText] [WordText] [Sha256] in
/-- `JatsParser.is_jats`. -/
def isJats [XmlLibrary] (config : DocumentParserConfig) (bytes : Bytes) : Except PyError Bool × Bool :=
  let (tree, expanded) := treeDetails config bytes
  (isJatsRoot <$> tree, expanded)

end
end XmlParser
end Molly
