import Molly.Disk.Linearize
import Molly.Document.Extracted

/-! The grids of tables: the cells of HTML and XML tables are laid out row by row, each at the first free
column; those of MinerU tables stand where the backend put them. -/
namespace Molly
open Effect (Place Span)
open Effect.Grid (Laid FirstFit rowEnd)

section
variable [CaseText] [PrintableText] [DecimalText]

/-- The cells placed so far are laid out, and none begins below the row under way. -/
structure CellGrid.InRow (grid : CellGrid) (row column : Nat) : Prop where
  laid : Laid (grid.cells.map CanonicalCell.span) grid.occupied
  behind : column = rowEnd (grid.cells.map CanonicalCell.span) row
  above : ∀ c ∈ grid.cells, c.rowIndex ≤ row

omit [CaseText] [PrintableText] in
/-- The step: one cell more. -/
theorem CellGrid.InRow.place {config : DocumentParserConfig} {rules : CellRules} {row column column' : Nat}
    {grid grid' : CellGrid} {p : Place Element} (inRow : grid.InRow row column)
    (placed : placeCell config rules row column grid p = .ok (column', grid')) : grid'.InRow row column' := by
  obtain ⟨c, occupied, rfl, -, atRow, atColumn, taken, rfl⟩ := placeCell_ok placed
  have spanRow : c.span.row = row := atRow
  refine ⟨?_, ?_, fun d member => ?_⟩
  · rw [List.map_append, List.map_singleton]
    refine inRow.laid.place ?_ taken
    rw [spanRow, ← inRow.behind]
    exact atColumn
  · rw [List.map_append, List.map_singleton, Effect.Grid.rowEnd_snoc, if_pos spanRow]
    rfl
  · rcases List.mem_append.mp member with member | member
    · exact inRow.above d member
    · obtain rfl := List.mem_singleton.mp member
      exact Nat.le_of_eq atRow

omit [CaseText] [PrintableText] [DecimalText] in
/-- No cell begins in the next row yet. -/
theorem CellGrid.InRow.next {grid : CellGrid} {row column : Nat} (inRow : grid.InRow row column) : grid.InRow (row + 1) 0 := by
  refine ⟨inRow.laid, ?_, fun c member => Nat.le_succ_of_le (inRow.above c member)⟩
  have none : (grid.cells.map CanonicalCell.span).filter (fun s => s.row = row + 1) = [] := by
    rw [List.filter_eq_nil_iff]
    intro s member
    obtain ⟨c, found, rfl⟩ := List.mem_map.mp member
    have low := inRow.above c found
    have other : c.span.row ≠ row + 1 := by
      change c.rowIndex ≠ row + 1
      omega
    simpa using other
  rw [rowEnd, none]
  rfl

omit [CaseText] [PrintableText] in
theorem placeRow_inRow {config : DocumentParserConfig} {rules : CellRules} {row : Nat} : ∀ {cells : List (Place Element)}
    {column : Nat} {grid grid' : CellGrid}, grid.InRow row column → placeRow config rules row column grid cells = .ok grid' →
      ∃ column', grid'.InRow row column' := by
  intro cells
  induction cells with
  | nil =>
    intro column grid grid' inRow placed
    cases placed
    exact ⟨column, inRow⟩
  | cons p rest ih =>
    intro column grid grid' inRow placed
    rw [placeRow] at placed
    obtain ⟨⟨column', between⟩, first, placed⟩ := bind_ok.mp placed
    exact ih (inRow.place first) placed

omit [CaseText] [PrintableText] in
/-- The run over all rows lays the cells out. -/
theorem placeRows_laid {config : DocumentParserConfig} {rules : CellRules} : ∀ {rows : List (List (Place Element))}
    {row : Nat} {grid grid' : CellGrid}, grid.InRow row 0 → placeRows config rules row grid rows = .ok grid' →
      Laid (grid'.cells.map CanonicalCell.span) grid'.occupied := by
  intro rows
  induction rows with
  | nil =>
    intro row grid grid' inRow placed
    cases placed
    exact inRow.laid
  | cons cells rest ih =>
    intro row grid grid' inRow placed
    rw [placeRows] at placed
    obtain ⟨between, first, placed⟩ := bind_ok.mp placed
    obtain ⟨column, inRow⟩ := placeRow_inRow inRow first
    exact ih inRow.next placed

end

/-- The rectangles of the cells. -/
def CanonicalTable.spans (t : CanonicalTable) : List Span := t.cells.map CanonicalCell.span

section
variable [CaseText] [NormalText] [PrintableText] [DecimalText] [WordText] [Sha256]

omit [CaseText] [NormalText] [PrintableText] [WordText] [Sha256] in
theorem TableMade.laid {config : DocumentParserConfig} {source : PyText} {root p : Place Element} {sections : SectionIds}
    {rules : CellRules} {rows : List (List (Place Element))} {caption : Except PyError (Option PyText)} {t : CanonicalTable}
    (made : TableMade config source root sections rules rows caption p t) :
    t.spans.Pairwise Span.Apart ∧ FirstFit t.spans := by
  obtain ⟨occupied, placed⟩ := made.placed
  have start : CellGrid.InRow ⟨[], []⟩ 0 0 := ⟨Laid.nil, rfl, by simp⟩
  have laid := placeRows_laid start placed
  exact ⟨laid.apart, laid.fitted⟩

/-- A call of one of the parsers. -/
inductive ParserCall where
  | html
  | xml (jats : Bool)
  | pdf
  | mineru (backend : Option MineruBackend)

namespace ParserCall
variable [HtmlLibrary] [XmlLibrary] [PdfLibrary]

/-- What the call gives on a source. -/
def run (config : DocumentParserConfig) (source mediaType : PyText) (bytes : Bytes) : ParserCall → Except PyError CanonicalDocument
  | .html => HtmlParser.parse config source mediaType bytes
  | .xml jats => (XmlParser.parse config source mediaType jats bytes).1
  | .pdf => PdfParser.parse config source mediaType bytes
  | .mineru backend => MineruParser.parse backend config source mediaType bytes

/-- The parser places the cells itself. -/
def PlacesCells : ParserCall → Prop
  | .html | .xml _ => True
  | .pdf | .mineru _ => False

/-- The cells of each table a MinerU backend hands over are apart. -/
def CellsApart (config : DocumentParserConfig) (bytes : Bytes) : ParserCall → Prop
  | .mineru (some backend) => ∀ raw elements, backend.parse bytes = .ok raw → MineruParser.elementsOf config raw = .ok elements →
      ∀ e ∈ elements, oneOf ["table"] e.elementType = true → (e.cells.map MineruParser.MineruCell.span).Pairwise Span.Apart
  | _ => True

end ParserCall

/-- The cells of every table are apart, and those the parser places stand as far left as they can. -/
def GridsConsistent (call : ParserCall) (document : CanonicalDocument) : Prop :=
  ∀ t ∈ document.tables, t.spans.Pairwise Span.Apart ∧ (call.PlacesCells → FirstFit t.spans)

omit [NormalText] [DecimalText] [WordText] [Sha256] in
/-- The table of a MinerU element has the rectangles the backend gave. -/
theorem MineruParser.Makes.spans {source : PyText} {e : MineruElement} {t : CanonicalTable}
    (made : MineruParser.Makes source e (.table t)) : t.spans = e.cells.map MineruParser.MineruCell.span := by
  have bare : e.cells.zipIdx.map Prod.fst = e.cells := List.zipIdx_map_fst ..
  have general : ∀ {cells : List (MineruCell × Nat)} {all : List CanonicalCell},
      List.Forall₂ (fun cell c => c.span = MineruParser.MineruCell.span cell.1) cells all →
        all.map CanonicalCell.span = (cells.map Prod.fst).map MineruParser.MineruCell.span := by
    intro cells all each
    induction each with
    | nil => rfl
    | cons same _ ih =>
      rw [List.map_cons, same, ih]
      rfl
  have shown := general (made.2.2.imp fun _ _ one => one.1)
  rw [bare] at shown
  exact shown

variable [HtmlLibrary] [XmlLibrary] [PdfLibrary]

/-- The grids of a document are consistent when the cells were apart that a backend handed over. -/
theorem grids_consistent {config : DocumentParserConfig} {source mediaType : PyText} {bytes : Bytes} {call : ParserCall}
    {document : CanonicalDocument} (returned : call.run config source mediaType bytes = .ok document) :
    GridsConsistent call document ↔ call.CellsApart config bytes := by
  cases call with
  | html =>
    obtain ⟨root, sections, -, extracted⟩ := HtmlParser.parse_ok returned
    refine iff_of_true (fun t member => ?_) trivial
    obtain ⟨p, -, made⟩ := forall₂_right (HtmlParser.tables_ok extracted) member
    exact ⟨made.laid.1, fun _ => made.laid.2⟩
  | xml jats =>
    obtain ⟨root, sections, -, extracted⟩ := XmlParser.parse_ok returned
    refine iff_of_true (fun t member => ?_) trivial
    obtain ⟨p, -, made⟩ := forall₂_right (XmlParser.tables_ok extracted) member
    exact ⟨made.laid.1, fun _ => made.laid.2⟩
  | pdf =>
    obtain ⟨none, -⟩ := PdfParser.parse_ok returned
    refine iff_of_true (fun t member => ?_) trivial
    rw [none] at member
    cases member
  | mineru backend =>
    obtain ⟨b, raw, elements, objects, rfl, handed, checked, turns, tables, -⟩ := MineruParser.parse_ok returned
    have each := turns.imp fun _ _ ⟨_, made⟩ => MineruParser.objectOf_ok made
    constructor
    · intro consistent raw' elements' handed' checked' e member isTable
      cases handed.symm.trans handed'
      cases checked.symm.trans checked'
      obtain ⟨o, found, made⟩ := forall₂_left each member
      -- an element of this type becomes a table, which has its cells
      cases o with
      | table t =>
        rw [← made.spans]
        exact (consistent t (by rw [tables]; exact List.mem_filterMap.mpr ⟨_, found, rfl⟩)).1
      | figure f => cases made.1.symm.trans isTable
      | block b => cases made.1.symm.trans isTable
      | nothing => cases made.1.symm.trans isTable
    · intro apart t member
      rw [tables] at member
      obtain ⟨o, found, isTable⟩ := List.mem_filterMap.mp member
      obtain ⟨e, given, made⟩ := forall₂_right each found
      cases o with
      | table t' =>
        cases isTable
        refine ⟨?_, fun no => no.elim⟩
        rw [made.spans]
        exact apart raw elements handed checked e given made.1
      | figure f => cases isTable
      | block b => cases isTable
      | nothing => cases isTable

end

/-! ### A table whose cells overlap -/

namespace Sample
attribute [local instance] standardSha256 asciiPrintable asciiDecimal asciiCase asciiNormal asciiWords

/-- No source is read by these. -/
@[reducible] def noHtml : HtmlLibrary := ⟨fun _ => [], fun _ => false⟩
@[reducible] def noXml : XmlLibrary := ⟨fun _ => .error .refused, fun _ => false⟩
@[reducible] def noPdf : PdfLibrary := ⟨false, fun _ => none⟩

attribute [local instance] noHtml noXml noPdf

/-- A cell that begins at a row and a column and takes so many rows and columns. -/
def rawCell (row column span : Int) : PyValue :=
  .named [("row_index", .int row), ("column_index", .int column), ("row_span", .int span), ("column_span", .int span)]

/-- The second cell begins inside the first. -/
def overlapping : MineruBackend := ⟨fun _ => .ok (.arr [.named [("page_number", .int 1), ("element_index", .int 7),
  ("type", .str (PyText.ofString "table")), ("cells", .arr [rawCell 0 0 2, rawCell 1 1 1])]])⟩

def overlappingDocument : Except PyError CanonicalDocument :=
  ParserCall.run parserConfig sourceId (PyText.ofString "application/pdf") [] (.mineru (some overlapping))

theorem overlappingDocument_spans : ∃ document, overlappingDocument = .ok document ∧
    decide (document.tables.map CanonicalTable.spans = [[⟨0, 0, 2, 2⟩, ⟨1, 1, 1, 1⟩]]) = true := ok_of_any (by decide +kernel)

theorem grids_consistent_overlapping : ∃ document, overlappingDocument = .ok document ∧
    (GridsConsistent (.mineru (some overlapping)) document ↔ ParserCall.CellsApart parserConfig [] (.mineru (some overlapping))) := by
  obtain ⟨document, returned, -⟩ := overlappingDocument_spans
  exact ⟨document, returned, grids_consistent returned⟩

/-- Only the first positions of the cells are compared. -/
theorem grids_overlap : ∃ document, overlappingDocument = .ok document ∧ ¬GridsConsistent (.mineru (some overlapping)) document := by
  obtain ⟨document, returned, spans⟩ := overlappingDocument_spans
  refine ⟨document, returned, fun consistent => ?_⟩
  rw [decide_eq_true_eq] at spans
  obtain ⟨t, member, same⟩ : ∃ t ∈ document.tables, t.spans = [⟨0, 0, 2, 2⟩, ⟨1, 1, 1, 1⟩] := by
    have listed : [⟨0, 0, 2, 2⟩, ⟨1, 1, 1, 1⟩] ∈ document.tables.map CanonicalTable.spans := by simp [spans]
    exact List.mem_map.mp listed
  have apart := (consistent t member).1
  rw [same] at apart
  have pair : Span.Apart ⟨0, 0, 2, 2⟩ ⟨1, 1, 1, 1⟩ := (List.pairwise_cons.mp apart).1 _ (by simp)
  exact pair (1, 1) (by decide)

end Sample
end Molly
