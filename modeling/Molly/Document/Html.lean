import Molly.Document.Common
import Molly.File.Loads

/-! The HTML parser: the tree built of the events that `html.parser` hands over, and the document
extracted from it. -/
namespace Molly
open Effect (RoseTree Step Place)

/-- The calls of the handlers; with `convert_charrefs` the references come as data. -/
inductive HtmlEvent where
  | start (tag : PyText) (attrs : List (PyText × Option PyText))
  | startEnd (tag : PyText) (attrs : List (PyText × Option PyText))
  | close (tag : PyText)
  | data (text : PyText)

/-- `feed` and `close` of `html.parser.HTMLParser`: the calls in document order, and whether an exception ends them. -/
class HtmlLibrary where
  events : PyText → List HtmlEvent
  raises : PyText → Bool

namespace HtmlParser

def voidTags : List String :=
  ["area", "base", "br", "col", "embed", "hr", "img", "input", "link", "meta", "param", "source", "track", "wbr"]

def skipTags : List String := ["script", "style", "noscript"]
def sectionTags : List String := ["section", "article"]
def paragraphTags : List String := ["p", "paragraph"]
def headingTags : List String := ["h1", "h2", "h3", "h4", "h5", "h6"]
def referenceHints : List String := ["reference", "references", "bibliography", "refs"]

/-! ### The tree -/

/-- An element whose end has not been met, with its children so far. -/
structure OpenNode where
  label : Element
  children : List (RoseTree Element)

namespace OpenNode

def toTree (n : OpenNode) : RoseTree Element := .node n.label n.children

def add (n : OpenNode) (child : RoseTree Element) : OpenNode := ⟨n.label, n.children ++ [child]⟩

/-- `node.text += data`. -/
def addText (n : OpenNode) (data : PyText) : OpenNode := ⟨{ n.label with text := n.label.text ++ data }, n.children⟩

end OpenNode

/-- `_TreeParser`: the stack, from the innermost element out to the document. -/
structure TreeParser where
  innermost : OpenNode
  outer : List OpenNode
  nodeCount : Nat

section
variable [CaseText]

/-- `attrs[key] = value`. -/
def setAttr (attrs : List (PyText × PyText)) (key value : PyText) : List (PyText × PyText) :=
  if attrs.any fun a => a.1 = key then attrs.map fun a => if a.1 = key then (key, value) else a
  else attrs ++ [(key, value)]

/-- The node `_add` makes. -/
def nodeOf (tag : PyText) (attrs : List (PyText × Option PyText)) : Element :=
  ⟨tag.casefold, attrs.foldl (fun made a => setAttr made a.1.casefold (a.2.getD [])) [], [], []⟩

namespace TreeParser

def initial : TreeParser := ⟨⟨⟨PyText.ofString "document", [], [], []⟩, []⟩, [], 0⟩

/-- Close so many elements. -/
def closing : Nat → OpenNode → List OpenNode → OpenNode × List OpenNode
  | n + 1, inner, next :: rest => closing n (next.add inner.toTree) rest
  | _, inner, rest => (inner, rest)

/-- How many elements an end tag closes: those down to the innermost one with its tag, which is not the document. -/
def closed (p : TreeParser) (wanted : PyText) : Nat :=
  match (p.innermost :: p.outer).dropLast.findIdx? fun n => n.label.tag = wanted with
  | some i => i + 1
  | none => 0

/-- The handler of an event. -/
def step (config : DocumentParserConfig) (p : TreeParser) : HtmlEvent → Except PyError TreeParser
  | .start tag attrs => do
    ensure (p.nodeCount < config.maxNodeCount) (limitError "HTML node count exceeds the configured limit")
    if oneOf voidTags (nodeOf tag attrs).tag then
      return ⟨p.innermost.add (.node (nodeOf tag attrs) []), p.outer, p.nodeCount + 1⟩
    else
      ensure (p.outer.length < config.maxNestingDepth) (limitError "HTML nesting depth exceeds the configured limit")
      return ⟨⟨nodeOf tag attrs, []⟩, p.innermost :: p.outer, p.nodeCount + 1⟩
  | .startEnd tag attrs => do
    ensure (p.nodeCount < config.maxNodeCount) (limitError "HTML node count exceeds the configured limit")
    return ⟨p.innermost.add (.node (nodeOf tag attrs) []), p.outer, p.nodeCount + 1⟩
  | .close tag =>
    let (innermost, outer) := closing (p.closed tag.casefold) p.innermost p.outer
    .ok ⟨innermost, outer, p.nodeCount⟩
  | .data text => .ok ⟨p.innermost.addText text, p.outer, p.nodeCount⟩

def feed (config : DocumentParserConfig) (p : TreeParser) (events : List HtmlEvent) : Except PyError TreeParser :=
  events.foldlM (step config) p

/-- The root, its open descendants with what they hold. -/
def root (p : TreeParser) : RoseTree Element := (closing p.outer.length p.innermost p.outer).1.toTree

end TreeParser

/-- The element the document is extracted from: the only child of the root apart from those to skip, else the root. -/
def extractionRoot (document : RoseTree Element) : Place Element :=
  match document.children.zipIdx.filter fun c => !oneOf skipTags c.1.label.tag with
  | [(t, i)] => [⟨i, t⟩, ⟨0, document⟩]
  | _ => [⟨0, document⟩]

/-- The checks of `_tree_details` on the tree. -/
def rootOf [NormalText] (config : DocumentParserConfig) (document : RoseTree Element) : Except PyError (Place Element) := do
  let root := extractionRoot document
  ensureDepth config root
  let texts := root.iter.map fun p => p.label.text
  let text ← normalizeText "HTML normalized text" 1000000 (root.label.text ++ 32 :: PyText.joinSpaced texts)
  let size ← utf8Size text
  ensure (size ≤ config.maxNormalizedTextBytes) (limitError "HTML normalized text exceeds the configured limit")
  return root

/-- The tree of a source text. -/
def treeOf [HtmlLibrary] (config : DocumentParserConfig) (text : PyText) : Except PyError (RoseTree Element) := do
  let parser ← TreeParser.feed config TreeParser.initial (HtmlLibrary.events text)
  ensure (!HtmlLibrary.raises text) (malformedError "HTML source is malformed")
  return parser.root

/-- `_tree_details`: the place of the root. -/
def treeDetails [NormalText] [HtmlLibrary] (config : DocumentParserConfig) (source : Bytes) : Except PyError (Place Element) := do
  ensureSourceLimit config source.length
  match decodeUtf8 source with
  | none => throw (malformedError "HTML source is not valid UTF-8")
  | some text =>
    let document ← treeOf config (text.map CodePoint.ofChar)
    rootOf config document

/-! ### Queries -/

/-- `_elements`: the places under the root, apart from those to skip. -/
def elements (root : Place Element) : List (Place Element) := root.iter.filter fun p => !oneOf skipTags p.label.tag

/-- `attrs.get(key, default)`. -/
def getAttr (e : Element) (key : String) (default : PyText) : PyText := (e.attrs.lookup (PyText.ofString key)).getD default

/-- `_class_or_id_hint`, split at blanks. -/
def hintWords (e : Element) : List PyText :=
  (PyText.joinSpaced (["id", "class", "role"].map fun key => (getAttr e key []).casefold)).words

def isHinted (e : Element) : Bool := (hintWords e).any fun w => oneOf referenceHints w

/-- `_table_rows`. -/
def tableRows (table : Place Element) : List (Place Element) :=
  table.iter.filter fun p => p.keys ≠ table.keys && oneOf ["tr"] p.label.tag && nearestIs ["table"] p table

/-- `_row_cells`. -/
def rowCells (row : Place Element) : List (Place Element) :=
  row.iter.filter fun p => p.keys ≠ row.keys && oneOf ["th", "td"] p.label.tag && nearestIs ["tr"] p row

/-- The first child with one of these tags. -/
def childWith (tags : List String) (p : Place Element) : Option (RoseTree Element) :=
  p.tree.children.find? fun t => oneOf tags t.label.tag

end

/-! ### Extraction -/

section
variable [CaseText] [NormalText] [PrintableText] [DecimalText] [WordText] [Sha256]

omit [PrintableText] [DecimalText] [WordText] [Sha256] in
/-- `_safe_text`. -/
def safeText (config : DocumentParserConfig) : String → Bool → RoseTree Element → Except PyError PyText := safeTextSkipping skipTags config

def locate (source : PyText) (root p : Place Element) : Except PyError SourceLocator := locateAt .htmlElement source root p

/-- The parent and the level of a section element. -/
def explicitParent (made : SectionIds) (element : Place Element) : Except PyError (Option Identifier × Nat) :=
  match nearestAncestor sectionTags element with
  | none => .ok (none, 1)
  | some parent =>
    match made.lookup parent.keys with
    | none => .error (malformedError "HTML section hierarchy cannot be normalized")
    | some found =>
      match made.find? fun m => m.2.sectionId = found.sectionId with
      | some first => .ok (some found.sectionId, first.2.level + 1)
      | none => .ok (some found.sectionId, 1)  -- not met: the section found is one of them

/-- `int(element.tag[1])`. -/
def headingLevel (e : Element) : Nat :=
  match headingTags.findIdx? fun tag => PyText.ofString tag = e.tag with
  | some i => i + 1
  | none => 0

/-- The parent and the level of a heading: the last section of a smaller level. -/
def headingParent (made : SectionIds) (element : Place Element) : Option Identifier × Nat :=
  let level := headingLevel element.label
  ((made.reverse.find? fun m => m.2.level < level).map fun m => m.2.sectionId, level)

/-- One turn of the loop of `_make_sections`. -/
def sectionOf (config : DocumentParserConfig) (source : PyText) (root : Place Element) (explicit : Bool) (made : SectionIds)
    (element : Place Element) : Except PyError CanonicalSection := do
  let locator ← locate source root element
  let (parent, level) ← if explicit then explicitParent made element else .ok (headingParent made element)
  let sectionId ← deterministicObjectId .section source "section" made.length locator
  let title ← safeOptional skipTags config "section title" (childWith ("title" :: headingTags) element)
  CanonicalSection.create sectionId (title.getD []) level parent locator

def sectionsFrom (config : DocumentParserConfig) (source : PyText) (root : Place Element) (explicit : Bool) :
    SectionIds → List (Place Element) → Except PyError SectionIds
  | made, [] => .ok made
  | made, element :: rest => do
    let found ← sectionOf config source root explicit made element
    ensure (made.length < config.maxSections) (limitError "section count exceeds the configured limit")
    sectionsFrom config source root explicit (made ++ [(element.keys, found)]) rest

def sectionElements (root : Place Element) : List (Place Element) := (elements root).filter fun p => oneOf sectionTags p.label.tag

def headingElements (root : Place Element) : List (Place Element) := (elements root).filter fun p => oneOf headingTags p.label.tag

/-- `_make_sections`: of the section elements, or of the headings when there are none. -/
def makeSections (config : DocumentParserConfig) (source : PyText) (root : Place Element) : Except PyError SectionIds :=
  if sectionElements root = [] then sectionsFrom config source root false [] (headingElements root)
  else sectionsFrom config source root true [] (sectionElements root)

def cellRules (config : DocumentParserConfig) (source : PyText) (root : Place Element) : CellRules where
  locate := locate source root
  attr e name := e.attrs.lookup (PyText.ofString name)
  isHeader e := oneOf ["th"] e.tag
  text := safeText config "table cell" false
  overlap := malformedError "HTML table spans overlap existing cells"

/-- One turn of the loop of `_make_tables`. -/
def tableOf (config : DocumentParserConfig) (source : PyText) (root : Place Element) (sections : SectionIds) (ordinal : Nat)
    (table : Place Element) : Except PyError CanonicalTable := do
  let locator ← locate source root table
  let caption ← safeOptional skipTags config "table caption" (childWith ["caption"] table)
  let grid ← placeRows config (cellRules config source root) 0 ⟨[], []⟩ ((tableRows table).map rowCells)
  let tableId ← deterministicObjectId .table source "table" ordinal locator
  CanonicalTable.create tableId caption (nearestSectionId sections table) locator grid.cells

def tableElements (root : Place Element) : List (Place Element) := (elements root).filter fun p => oneOf ["table"] p.label.tag

/-- `_make_tables`. -/
def makeTables (config : DocumentParserConfig) (source : PyText) (root : Place Element) (sections : SectionIds) :
    Except PyError (List CanonicalTable) :=
  gather config.maxTables (countError "table") (fun n p => some <$> tableOf config source root sections n p) 0 [] (tableElements root)

/-- One turn of the loop of `_make_figures`. -/
def figureOf (config : DocumentParserConfig) (source : PyText) (root : Place Element) (ordinal : Nat) (figure : Place Element) :
    Except PyError CanonicalFigure := do
  let locator ← locate source root figure
  let figureId ← deterministicObjectId .figure source "figure" ordinal locator
  let caption ← safeOptional skipTags config "figure caption" (childWith ["figcaption"] figure)
  CanonicalFigure.create figureId (getAttr figure.label "aria-label" []).orNone caption locator

def figureElements (root : Place Element) : List (Place Element) := (elements root).filter fun p => oneOf ["figure"] p.label.tag

/-- `_make_figures`. -/
def makeFigures (config : DocumentParserConfig) (source : PyText) (root : Place Element) : Except PyError (List CanonicalFigure) :=
  gather config.maxFigures (countError "figure") (fun n p => some <$> figureOf config source root n p) 0 [] (figureElements root)

/-- One turn of the loop of `_make_references`: a list item inside a list with a hint above it. -/
def referenceOf (config : DocumentParserConfig) (source : PyText) (root : Place Element) (ordinal : Nat) (item : Place Element) :
    Except PyError (Option CanonicalReference) := do
  if isInside ["ol", "ul", "div", "section"] item && item.tail.any fun s => isHinted s.tree.label then
    let text ← safeText config "reference citation" true item.tree
    let locator ← locate source root item
    let referenceId ← deterministicObjectId .reference source "reference" ordinal locator
    let made ← CanonicalReference.create referenceId text (citationIdentifier text) locator
    return some made
  else return none

def itemElements (root : Place Element) : List (Place Element) := (elements root).filter fun p => oneOf ["li"] p.label.tag

/-- `_make_references`. -/
def makeReferences (config : DocumentParserConfig) (source : PyText) (root : Place Element) :
    Except PyError (List CanonicalReference) :=
  gather config.maxReferences (countError "reference") (referenceOf config source root) 0 [] (itemElements root)

omit [NormalText] [PrintableText] [DecimalText] [WordText] [Sha256] in
/-- The kind of the block an element makes, if it makes one. -/
def blockKind (title : Option (Place Element)) (p : Place Element) : Option CanonicalBlockKind :=
  if isInside skipTags p then none
  else if title.any fun t => t.keys = p.keys then some .title
  else if oneOf headingTags p.label.tag then some .heading
  else if oneOf paragraphTags p.label.tag then
    if isInside ["li", "td", "th", "caption", "figcaption"] p then none else some .paragraph
  else if oneOf ["li"] p.label.tag then some .listItem
  else if oneOf ["caption", "figcaption"] p.label.tag then some .caption
  else none

/-- One turn of the loop of `_make_blocks`. -/
def blockOf (config : DocumentParserConfig) (source : PyText) (root : Place Element) (sections : SectionIds)
    (title : Option (Place Element)) (ordinal : Nat) (p : Place Element) : Except PyError (Option CanonicalBlock) :=
  match blockKind title p with
  | none => .ok none
  | some kind => do
    let text ← safeText config "HTML block" false p.tree
    if text = [] then return none
    else
      let locator ← locate source root p
      let blockId ← deterministicObjectId .block source "block" ordinal locator
      let made ← CanonicalBlock.create blockId kind text (nearestSectionId sections p) locator
      return some made

/-- `_make_blocks`. -/
def makeBlocks (config : DocumentParserConfig) (source : PyText) (root : Place Element) (sections : SectionIds)
    (title : Option (Place Element)) : Except PyError (List CanonicalBlock) :=
  gather config.maxBlocks (countError "block") (blockOf config source root sections title) 0 [] (elements root)

/-- The title element: the first `title`, else the first `h1`. -/
def titleElement (root : Place Element) : Option (Place Element) :=
  ((elements root).find? fun p => oneOf ["title"] p.label.tag).orElse fun _ =>
    (elements root).find? fun p => oneOf ["h1"] p.label.tag

omit [PrintableText] [DecimalText] [WordText] [Sha256] in
/-- The identifier a `meta` element declares. -/
def identifierOf (e : Element) : Except PyError (Option PyText) :=
  if oneOf ["meta"] e.tag &&
      oneOf ["doi", "citation_doi", "identifier", "citation_pdf_url"] (getAttr e "name" (getAttr e "property" [])).casefold then
    PyText.orNone <$> normalizeText "document identifier" 512 (getAttr e "content" [])
  else .ok none

/-- The body of `parse` behind the tree. The nodes have no `attrib`, so no language is found. -/
def extract (config : DocumentParserConfig) (source : PyText) (root : Place Element) : Except PyError Extraction := do
  let titled := titleElement root
  let title ← safeOptional skipTags config "document title" (titled.map Place.tree)
  let identifiers ← (elements root).mapM fun p => identifierOf p.label
  let sections ← makeSections config source root
  let tables ← makeTables config source root sections
  let figures ← makeFigures config source root
  let references ← makeReferences config source root
  let blocks ← makeBlocks config source root sections titled
  return ⟨none, title, identifiers.filterMap id, sections.map Prod.snd, blocks, tables, figures, references⟩

/-- The document of an extraction root. -/
def documentOf (config : DocumentParserConfig) (source mediaType : PyText) (root : Place Element) : Except PyError CanonicalDocument := do
  let found ← extract config source root
  let quality ← ParserQuality.create .good found.textCharCount found.blocks.length found.tables.length 0 [] []
  buildDocument config source mediaType .html found quality

/-- `HtmlParser.parse`. -/
def parse [HtmlLibrary] (config : DocumentParserConfig) (source mediaType : PyText) (bytes : Bytes) :
    Except PyError CanonicalDocument := do
  let root ← treeDetails config bytes
  documentOf config source mediaType root

end
end HtmlParser
end Molly
