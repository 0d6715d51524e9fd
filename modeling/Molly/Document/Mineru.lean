import Molly.Document.Common

/-! The MinerU fallback: the elements a backend hands over, checked, and the document made of them. -/
namespace Molly

/-- `backend.parse(source_bytes)` of a configured backend. -/
structure MineruBackend where
  parse : Bytes → Except PyError PyValue

/-- The coordinates of a bounding box, rounded to six places. -/
abbrev BoxCoordinates := List FiniteFloat

structure MineruCell where
  rowIndex : Nat
  columnIndex : Nat
  text : PyText
  isHeader : Bool
  rowSpan : Nat
  columnSpan : Nat

structure MineruElement where
  pageNumber : Nat
  elementIndex : Nat
  elementType : PyText
  text : PyText
  bbox : Option BoxCoordinates
  cells : List MineruCell

namespace MineruParser

/-- One coordinate of `_bounded_bbox`. -/
def coordinateOf (value : PyValue) : Except PyError FiniteFloat := do
  let unbounded : PyError := malformedError "MinerU bbox is not finite"
  let x ← match value with
    | .int n => (PyNumber.int n).toFloat
    | .float x => pure x
    | _ => throw unbounded
  match FiniteFloat.ofDecimal (x.exact.toPlaces 6) with
  | some x => return x
  | none => throw unbounded

/-- `_bounded_bbox`. -/
def boundedBbox : PyValue → Except PyError (Option BoxCoordinates)
  | .null => .ok none
  | .arr [a, b, c, d] => some <$> [a, b, c, d].mapM coordinateOf
  | _ => .error (malformedError "MinerU bbox is malformed")

section
variable [NormalText] [PrintableText] [DecimalText]

/-- `MinerUCell.from_value`. -/
def cellFrom : PyValue → Except PyError MineruCell
  | .obj value => do
    let malformed : PyError := malformedError "MinerU table cell is malformed"
    ensure (!hasUnknown value ["row_index", "column_index", "text", "is_header", "row_span", "column_span"])
      (malformedError "MinerU table cell has unsupported fields")
    let isHeader ← match pyGet value "is_header" (.bool false) with
      | .bool b => pure b
      | _ => throw (malformedError "MinerU table header flag is malformed")
    orMalformed (do
      let text ← normalizeText "MinerU table cell" 1000000 (pyGet value "text" (.str [])).toText
      let rowIndex ← parseNonnegativeInt "MinerU row index" 100000 (some (pyGet value "row_index" (.int 0)).toText)
      let columnIndex ← parseNonnegativeInt "MinerU column index" 100000 (some (pyGet value "column_index" (.int 0)).toText)
      let rowSpan ← parsePositiveInt "MinerU row span" 10000 (some (pyGet value "row_span" (.int 1)).toText)
      let columnSpan ← parsePositiveInt "MinerU column span" 10000 (some (pyGet value "column_span" (.int 1)).toText)
      return ⟨rowIndex, columnIndex, text, isHeader, rowSpan, columnSpan⟩) malformed.cls malformed.message
  | _ => .error (malformedError "MinerU table cell is malformed")

/-- The folded type of an element, of small letters, hyphens and underscores. -/
def elementTypeOf [CaseText] : PyValue → Except PyError PyText
  | .str raw =>
    let folded := raw.strip.casefold
    if raw.strip = [] || 64 < folded.length || folded.any fun p => !(97 ≤ p.val && p.val ≤ 122 || p = 95 || p = 45) then
      .error (malformedError "MinerU element type is malformed")
    else .ok folded
  | _ => .error (malformedError "MinerU element type is malformed")

/-- An integer field that is no boolean. -/
def integerOf (message : String) : PyValue → Except PyError Int
  | .int n => .ok n
  | _ => .error (malformedError message)

/-- `MinerUElement.from_value`. -/
def elementFrom [CaseText] (config : DocumentParserConfig) : PyValue → Except PyError MineruElement
  | .obj value => do
    ensure (!hasUnknown value ["page_number", "element_index", "type", "kind", "text", "bbox", "cells"])
      (malformedError "MinerU element has unsupported fields")
    match value.lookup (PyText.ofString "page_number"), value.lookup (PyText.ofString "element_index") with
    | some page, some index =>
      let _ ← integerOf "MinerU page number is malformed" page
      let _ ← integerOf "MinerU element index is malformed" index
      let elementType ← elementTypeOf (pyGet value "type" (pyGet value "kind" (.str (PyText.ofString "text"))))
      let (pageNumber, elementIndex, text, cells) ← orMalformed (do
        let pageNumber ← parsePositiveInt "MinerU page number" config.maxPageCount (some page.toText)
        let elementIndex ← parseNonnegativeInt "MinerU element index" 10000000 (some index.toText)
        let text ← normalizeText "MinerU element text" 1000000 (pyGet value "text" (.str [])).toText
        let items ← (pyGet value "cells" (.arr [])).iterate
        let cells ← items.mapM cellFrom
        return (pageNumber, elementIndex, text, cells)) .malformedDocument "MinerU element is malformed"
      ensure (cells.length ≤ config.maxTableCells) (malformedError "MinerU table cell count exceeds the configured limit")
      let bbox ← boundedBbox (pyGet value "bbox" .null)
      return ⟨pageNumber, elementIndex, elementType, text, bbox, cells⟩
    | _, _ => throw (malformedError "MinerU element requires page_number and element_index")
  | _ => .error (malformedError "MinerU element is malformed")

end

section
variable [CaseText] [PrintableText] [Sha256]

omit [Sha256] in
/-- The locator of an element, or of a cell of it, by its number. -/
def locate (source : PyText) (e : MineruElement) (number : Nat) : Except PyError SourceLocator :=
  SourceLocator.create source (.str (PyText.ofString "MINERU_ELEMENT")) none (.int e.pageNumber) (.int number)
    (e.bbox.map fun box => box.map .float)

/-- The number of a cell's locator. -/
def cellNumber (e : MineruElement) (cellIndex : Nat) : Nat := e.elementIndex * 1000 + cellIndex

omit [Sha256] in
/-- One turn of the loop over the cells. -/
def cellOf (source : PyText) (e : MineruElement) (cell : MineruCell) (cellIndex : Nat) : Except PyError CanonicalCell := do
  ensure (cellNumber e cellIndex ≤ 10000000) (malformedError "MinerU cell locator index exceeds the limit")
  let locator ← locate source e (cellNumber e cellIndex)
  CanonicalCell.create cell.rowIndex cell.columnIndex cell.rowSpan cell.columnSpan cell.isHeader cell.text locator

/-- What an element becomes. -/
inductive MineruObject where
  | table (made : CanonicalTable)
  | figure (made : CanonicalFigure)
  | block (made : CanonicalBlock)
  | nothing

namespace MineruObject

def table? : MineruObject → Option CanonicalTable
  | .table made => some made
  | _ => none

def figure? : MineruObject → Option CanonicalFigure
  | .figure made => some made
  | _ => none

def block? : MineruObject → Option CanonicalBlock
  | .block made => some made
  | _ => none

end MineruObject

/-- The kind of the block of an element type. -/
def blockKind (elementType : PyText) : CanonicalBlockKind :=
  if oneOf ["title"] elementType then .title
  else if oneOf ["heading"] elementType then .heading
  else if oneOf ["paragraph"] elementType then .paragraph
  else if oneOf ["list_item"] elementType then .listItem
  else if oneOf ["caption"] elementType then .caption
  else .otherText

/-- One turn of the loop of `parse`. -/
def objectOf (source : PyText) (e : MineruElement) (ordinal : Nat) : Except PyError MineruObject := do
  let locator ← locate source e e.elementIndex
  if oneOf ["table"] e.elementType then
    let cells ← e.cells.zipIdx.mapM fun (cell, cellIndex) => cellOf source e cell cellIndex
    let tableId ← deterministicObjectId .table source "mineru_table" ordinal locator
    let made ← CanonicalTable.create tableId e.text.orNone none locator cells
    return .table made
  else if oneOf ["figure", "image"] e.elementType then
    let figureId ← deterministicObjectId .figure source "mineru_figure" ordinal locator
    let made ← CanonicalFigure.create figureId none e.text.orNone locator
    return .figure made
  else if e.text = [] then return .nothing
  else
    let blockId ← deterministicObjectId .block source "mineru_block" ordinal locator
    let made ← CanonicalBlock.create blockId (blockKind e.elementType) e.text none locator
    return .block made

/-- The objects of the elements, and the text of the first title. -/
def extract (source : PyText) (elements : List MineruElement) : Except PyError Extraction := do
  let objects ← elements.zipIdx.mapM fun (e, ordinal) => objectOf source e ordinal
  let blocks := objects.filterMap MineruObject.block?
  let title := (blocks.find? fun b => b.kind = .title).map CanonicalBlock.text
  return ⟨none, title, [], [], blocks, objects.filterMap MineruObject.table?, objects.filterMap MineruObject.figure?, []⟩

/-- The pages that have text, in order. -/
def pagesWithText (elements : List MineruElement) : List Nat :=
  ((elements.filter fun e => e.text ≠ []).map MineruElement.pageNumber).eraseDups.insertionSort (· ≤ ·)

/-- The document of the checked elements. -/
def documentOf (config : DocumentParserConfig) (source mediaType : PyText) (elements : List MineruElement) :
    Except PyError CanonicalDocument := do
  let found ← extract source elements
  let quality ← ParserQuality.create .good found.textCharCount found.blocks.length found.tables.length
    ((elements.map MineruElement.pageNumber).foldl max 0) (pagesWithText elements) [⟨"MINERU_FALLBACK", by decide⟩]
  buildDocument config source mediaType .mineru found quality

variable [NormalText] [DecimalText]

omit [Sha256] in
/-- The backend's elements, each checked. -/
def elementsOf (config : DocumentParserConfig) : PyValue → Except PyError (List MineruElement)
  | .arr raw => do
    ensure (raw.length ≤ config.maxNodeCount) (malformedError "MinerU element count exceeds the configured limit")
    raw.mapM (elementFrom config)
  | _ => .error (malformedError "MinerU fallback returned an invalid element sequence")

/-- `MinerUFallbackParser.parse`; no backend may be configured. -/
def parse (backend : Option MineruBackend) (config : DocumentParserConfig) (source mediaType : PyText) (bytes : Bytes) :
    Except PyError CanonicalDocument := do
  ensureSourceLimit config bytes.length
  match backend with
  | none => throw ⟨.parserUnavailable, "MinerU fallback is not configured"⟩
  | some backend =>
    match backend.parse bytes with
    | .error e => throw (if e.cls = .parserUnavailable then e else malformedError "MinerU fallback failed")
    | .ok raw =>
      let elements ← elementsOf config raw
      documentOf config source mediaType elements

end
end MineruParser
end Molly
