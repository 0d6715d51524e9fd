import Molly.Document.Html
import Molly.Document.Mineru
import Molly.Document.Pdf
import Molly.Document.Xml

/-! What an accepted document says of its source: each list of objects is made of the elements it is
about, in order. -/
namespace Molly
open Effect (RoseTree Step Place Span)

/-! ### Loops -/

/-- A loop that makes an object of every item. -/
theorem gather_some_ok {limit : Nat} {fault : PyError} {make : Nat → α → Except PyError β} {items : List α} {all : List β}
    (done : gather limit fault (fun n a => some <$> make n a) 0 [] items = .ok all) :
    List.Forall₂ (fun a b => ∃ n, make n a = .ok b) items all := by
  have general : ∀ {items : List α} {n : Nat} {made all : List β},
      gather limit fault (fun n a => some <$> make n a) n made items = .ok all →
        ∃ rest, all = made ++ rest ∧ List.Forall₂ (fun a b => ∃ n, make n a = .ok b) items rest := by
    intro items
    induction items with
    | nil =>
      intro n made all done
      cases done
      exact ⟨[], by simp, .nil⟩
    | cons a rest ih =>
      intro n made all done
      rw [gather] at done
      obtain ⟨o, first, done⟩ := bind_ok.mp done
      cases one : make n a with
      | error e =>
        rw [one] at first
        cases first
      | ok b =>
        rw [one] at first
        cases first
        obtain ⟨_, -, done⟩ := bind_ok.mp done
        obtain ⟨more, shown, each⟩ := ih done
        exact ⟨b :: more, by simpa using shown, .cons ⟨n, one⟩ each⟩
  obtain ⟨rest, rfl, each⟩ := general done
  exact each

/-- Every object of a loop is made of an item. -/
theorem gather_made {limit : Nat} {fault : PyError} {make : Nat → α → Except PyError (Option β)} {items : List α} {all : List β}
    (done : gather limit fault make 0 [] items = .ok all) : ∀ b ∈ all, ∃ a ∈ items, ∃ n, make n a = .ok (some b) := by
  obtain ⟨given, rfl, each⟩ := gather_ok done
  intro b member
  simp only [List.nil_append, List.mem_filterMap, id_eq, exists_eq_right] at member
  obtain ⟨item, found, made⟩ := forall₂_right each member
  exact ⟨item.1, List.fst_mem_of_mem_zipIdx found, item.2, made⟩

/-- Every item of a loop makes an object of it, or none. -/
theorem gather_each {limit : Nat} {fault : PyError} {make : Nat → α → Except PyError (Option β)} {items : List α} {all : List β}
    (done : gather limit fault make 0 [] items = .ok all) : ∀ a ∈ items, ∃ n o, make n a = .ok o ∧ ∀ b ∈ o, b ∈ all := by
  obtain ⟨given, rfl, each⟩ := gather_ok done
  intro a member
  obtain ⟨n, found⟩ := List.mem_iff_getElem?.mp member
  obtain ⟨o, given', made⟩ := forall₂_left each (List.mem_zipIdx_iff_getElem?.mpr found : (a, n) ∈ items.zipIdx 0)
  refine ⟨n, o, made, fun b some => ?_⟩
  obtain rfl := Option.mem_def.mp some
  simpa using given'

/-! ### Cells -/

section
variable [CaseText] [PrintableText] [DecimalText]

def CanonicalCell.span (c : CanonicalCell) : Span := ⟨c.rowIndex, c.columnIndex, c.rowSpan, c.columnSpan⟩

/-- The cell is made of the element at a place. -/
structure CellRules.Makes (rules : CellRules) (p : Place Element) (c : CanonicalCell) : Prop where
  located : rules.locate p = .ok c.locator
  written : rules.text p.tree = .ok c.text
  header : c.isHeader = rules.isHeader p.label
  rows : parsePositiveInt "table row span" 10000 (rules.attr p.label "rowspan") = .ok c.rowSpan
  columns : parsePositiveInt "table column span" 10000 (rules.attr p.label "colspan") = .ok c.columnSpan

omit [CaseText] [PrintableText] [DecimalText] in
theorem CanonicalCell.create_ok {row column rows columns : Nat} {header : Bool} {text : PyText} {locator : SourceLocator}
    {c : CanonicalCell} (made : CanonicalCell.create row column rows columns header text locator = .ok c) :
    c.span = ⟨row, column, rows, columns⟩ ∧ c.isHeader = header ∧ c.text = text ∧ c.locator = locator := by
  unfold CanonicalCell.create at made
  split at made
  · split at made
    · split at made
      · cases made
        exact ⟨rfl, rfl, rfl, rfl⟩
      · cases made
    · cases made
  · cases made

omit [CaseText] [PrintableText] in
/-- What one turn of the loop over the cells does. -/
theorem placeCell_ok {config : DocumentParserConfig} {rules : CellRules} {row column column' : Nat} {grid grid' : CellGrid}
    {p : Place Element} (placed : placeCell config rules row column grid p = .ok (column', grid')) :
    ∃ c occupied, grid' = ⟨occupied, grid.cells ++ [c]⟩ ∧ rules.Makes p c ∧ c.rowIndex = row ∧
      c.columnIndex = Effect.Grid.firstFree grid.occupied row column ∧ Effect.Grid.occupy grid.occupied c.span.positions = some occupied ∧
      column' = c.columnIndex + c.columnSpan := by
  unfold placeCell at placed
  simp only [bind_ok] at placed
  obtain ⟨rows, rowsRead, columns, columnsRead, locator, located, placed⟩ := placed
  split at placed
  · cases placed
  · rename_i occupied taken
    simp only [bind_ok] at placed
    obtain ⟨text, written, c, made, _, -, done⟩ := placed
    obtain ⟨span, header, text', locator'⟩ := CanonicalCell.create_ok made
    simp only [CanonicalCell.span, Span.mk.injEq] at span
    obtain ⟨atRow, atColumn, rows', columns'⟩ := span
    cases done
    subst text' locator' rows' columns'
    refine ⟨c, occupied, rfl, ⟨located, written, header, rowsRead, columnsRead⟩, atRow, atColumn, ?_, ?_⟩
    · rw [CanonicalCell.span, atRow, atColumn]
      exact taken
    · rw [atColumn]

omit [CaseText] [PrintableText] in
/-- The cells are made of the elements of the rows, in order. -/
theorem placeRow_ok {config : DocumentParserConfig} {rules : CellRules} {row : Nat} : ∀ {cells : List (Place Element)}
    {column : Nat} {grid grid' : CellGrid}, placeRow config rules row column grid cells = .ok grid' →
      ∃ made, grid'.cells = grid.cells ++ made ∧ List.Forall₂ rules.Makes cells made := by
  intro cells
  induction cells with
  | nil =>
    intro column grid grid' placed
    cases placed
    exact ⟨[], by simp, .nil⟩
  | cons p rest ih =>
    intro column grid grid' placed
    rw [placeRow] at placed
    obtain ⟨⟨column', between⟩, first, placed⟩ := bind_ok.mp placed
    obtain ⟨c, occupied, rfl, makes, -⟩ := placeCell_ok first
    obtain ⟨made, shown, each⟩ := ih placed
    exact ⟨c :: made, by simpa using shown, .cons makes each⟩

omit [CaseText] [PrintableText] in
theorem placeRows_ok {config : DocumentParserConfig} {rules : CellRules} : ∀ {rows : List (List (Place Element))}
    {row : Nat} {grid grid' : CellGrid}, placeRows config rules row grid rows = .ok grid' →
      ∃ made, grid'.cells = grid.cells ++ made ∧ List.Forall₂ rules.Makes rows.flatten made := by
  intro rows
  induction rows with
  | nil =>
    intro row grid grid' placed
    cases placed
    exact ⟨[], by simp, .nil⟩
  | cons cells rest ih =>
    intro row grid grid' placed
    rw [placeRows] at placed
    obtain ⟨between, first, placed⟩ := bind_ok.mp placed
    obtain ⟨made, shown, each⟩ := placeRow_ok first
    obtain ⟨more, shown', each'⟩ := ih placed
    refine ⟨made ++ more, by rw [shown', shown, List.append_assoc], ?_⟩
    rw [List.flatten_cons]
    exact List.rel_append each each'

end

/-! ### Documents -/

section
variable [CaseText] [NormalText] [PrintableText] [DecimalText] [WordText] [Sha256]

/-- The objects of an HTML document are made of the elements under its root. -/
structure HtmlParser.Extracted (config : DocumentParserConfig) (source : PyText) (root : Place Element) (made : SectionIds)
    (document : CanonicalDocument) : Prop where
  title : safeOptional skipTags config "document title" ((titleElement root).map Place.tree) = .ok document.title
  identifiers : ∃ found, (elements root).mapM (fun p => identifierOf p.label) = .ok found ∧
    document.identifiers = (found.filterMap id).eraseDups
  sections : makeSections config source root = .ok made
  listed : document.sections = made.map Prod.snd
  tables : makeTables config source root made = .ok document.tables
  figures : makeFigures config source root = .ok document.figures
  references : makeReferences config source root = .ok document.references
  blocks : makeBlocks config source root made (titleElement root) = .ok document.blocks

theorem HtmlParser.documentOf_ok {config : DocumentParserConfig} {source mediaType : PyText} {root : Place Element}
    {document : CanonicalDocument} (made : documentOf config source mediaType root = .ok document) :
    ∃ sections, Extracted config source root sections document := by
  simp only [documentOf, bind_ok] at made
  obtain ⟨found, extracted, _, -, built⟩ := made
  simp only [extract, bind_ok] at extracted
  obtain ⟨title, titled, ids, identified, sections, sectioned, tables, tabled, figures, figured, references, referenced,
    blocks, blocked, done⟩ := extracted
  cases done
  obtain ⟨-, title', ids', sections', blocks', tables', figures', references'⟩ := buildDocument_ok built
  exact ⟨sections, by rw [title']; exact titled, ⟨ids, identified, ids'⟩, sectioned, sections', by rw [tables']; exact tabled,
    by rw [figures']; exact figured, by rw [references']; exact referenced, by rw [blocks']; exact blocked⟩

/-- What is behind an accepted HTML source. -/
theorem HtmlParser.parse_ok [HtmlLibrary] {config : DocumentParserConfig} {source mediaType : PyText} {bytes : Bytes}
    {document : CanonicalDocument} (parsed : parse config source mediaType bytes = .ok document) :
    ∃ root sections, treeDetails config bytes = .ok root ∧ Extracted config source root sections document := by
  obtain ⟨root, tree, made⟩ := bind_ok.mp parsed
  obtain ⟨sections, extracted⟩ := documentOf_ok made
  exact ⟨root, sections, tree, extracted⟩

/-- The objects of an XML document are made of the elements of its tree. -/
structure XmlParser.Extracted (config : DocumentParserConfig) (source : PyText) (jats : Bool) (root : Place Element)
    (made : SectionIds) (document : CanonicalDocument) : Prop where
  title : safeOptional [] config "document title" ((titleElement jats root).map Place.tree) = .ok document.title
  sections : makeSections config source root [] (sectionElements root) = .ok made
  listed : document.sections = made.map Prod.snd
  tables : makeTables config source root made = .ok document.tables
  figures : makeFigures config source root = .ok document.figures
  references : makeReferences config source root = .ok document.references
  blocks : makeBlocks config source root made (titleElement jats root) (abstractElements jats root) = .ok document.blocks

/-- What is behind an accepted XML source. -/
theorem XmlParser.parse_ok [XmlLibrary] {config : DocumentParserConfig} {source mediaType : PyText} {jats : Bool} {bytes : Bytes}
    {document : CanonicalDocument} (parsed : (parse config source mediaType jats bytes).1 = .ok document) :
    ∃ root sections, (treeDetails config bytes).1 = .ok root ∧ Extracted config source jats root sections document := by
  obtain ⟨root, tree, made⟩ := bind_ok.mp parsed
  simp only [documentOf, bind_ok] at made
  obtain ⟨_, -, _, -, found, extracted, _, -, built⟩ := made
  simp only [extract, bind_ok] at extracted
  obtain ⟨title, titled, ids, -, language, -, sections, sectioned, tables, tabled, figures, figured, references, referenced,
    blocks, blocked, done⟩ := extracted
  cases done
  obtain ⟨-, title', -, sections', blocks', tables', figures', references'⟩ := buildDocument_ok built
  exact ⟨root, sections, tree, by rw [title']; exact titled, sectioned, sections', by rw [tables']; exact tabled,
    by rw [figures']; exact figured, by rw [references']; exact referenced, by rw [blocks']; exact blocked⟩

/-! ### Tables -/

omit [CaseText] [NormalText] [PrintableText] [DecimalText] [WordText] [Sha256] in
theorem CanonicalTable.create_ok {id : Identifier} {caption : Option PyText} {sectionId : Option Identifier}
    {locator : SourceLocator} {cells : List CanonicalCell} {t : CanonicalTable}
    (made : CanonicalTable.create id caption sectionId locator cells = .ok t) :
    t.tableId = id ∧ t.caption = caption ∧ t.sectionId = sectionId ∧ t.locator = locator ∧ t.cells = cells := by
  unfold CanonicalTable.create at made
  split at made
  · split at made
    · cases made
      exact ⟨rfl, rfl, rfl, rfl, rfl⟩
    · cases made
  · cases made

/-- The table of a container, its rows chosen by the parser. -/
structure TableMade (config : DocumentParserConfig) (source : PyText) (root : Place Element) (sections : SectionIds)
    (rules : CellRules) (rows : List (List (Place Element))) (caption : Except PyError (Option PyText)) (p : Place Element)
    (t : CanonicalTable) : Prop where
  located : rules.locate p = .ok t.locator
  captioned : caption = .ok t.caption
  placed : ∃ occupied, placeRows config rules 0 ⟨[], []⟩ rows = .ok ⟨occupied, t.cells⟩
  sectioned : t.sectionId = nearestSectionId sections p

namespace HtmlParser

omit [WordText] in
theorem tableOf_ok {config : DocumentParserConfig} {source : PyText} {root p : Place Element} {sections : SectionIds} {n : Nat}
    {t : CanonicalTable} (made : tableOf config source root sections n p = .ok t) :
    TableMade config source root sections (cellRules config source root) ((tableRows p).map rowCells)
      (safeOptional skipTags config "table caption" (childWith ["caption"] p)) p t := by
  simp only [tableOf, bind_ok] at made
  obtain ⟨locator, located, caption, captioned, grid, placed, id, -, created⟩ := made
  obtain ⟨-, caption', sectionId', locator', cells'⟩ := CanonicalTable.create_ok created
  refine ⟨?_, ?_, ⟨grid.occupied, ?_⟩, sectionId'⟩
  · rw [locator']
    exact located
  · rw [caption']
    exact captioned
  · rw [cells']
    exact placed

theorem tables_ok {config : DocumentParserConfig} {source : PyText} {root : Place Element} {made : SectionIds}
    {document : CanonicalDocument} (extracted : Extracted config source root made document) :
    List.Forall₂ (fun p t => TableMade config source root made (cellRules config source root) ((tableRows p).map rowCells)
      (safeOptional skipTags config "table caption" (childWith ["caption"] p)) p t) (tableElements root) document.tables :=
  (gather_some_ok extracted.tables).imp fun _ _ ⟨_, made⟩ => tableOf_ok made

end HtmlParser

namespace XmlParser

omit [WordText] in
theorem tableOf_ok {config : DocumentParserConfig} {source : PyText} {root p : Place Element} {sections : SectionIds} {n : Nat}
    {t : CanonicalTable} (made : tableOf config source root sections p n = .ok t) :
    TableMade config source root sections (cellRules config source root) ((tableRows (tableIn p)).map rowCells)
      (safeOptional [] config "table caption" (childNamed ["caption", "title"] p)) p t := by
  simp only [tableOf, bind_ok] at made
  obtain ⟨locator, located, caption, captioned, grid, placed, id, -, created⟩ := made
  obtain ⟨-, caption', sectionId', locator', cells'⟩ := CanonicalTable.create_ok created
  refine ⟨?_, ?_, ⟨grid.occupied, ?_⟩, sectionId'⟩
  · rw [locator']
    exact located
  · rw [caption']
    exact captioned
  · rw [cells']
    exact placed

theorem tables_ok {config : DocumentParserConfig} {source : PyText} {jats : Bool} {root : Place Element} {made : SectionIds}
    {document : CanonicalDocument} (extracted : Extracted config source jats root made document) :
    List.Forall₂ (fun p t => TableMade config source root made (cellRules config source root)
      ((tableRows (tableIn p)).map rowCells) (safeOptional [] config "table caption" (childNamed ["caption", "title"] p)) p t)
      (tableElements root) document.tables := by
  have each := mapM_ok.mp extracted.tables
  have bare : (tableElements root).zipIdx.map Prod.fst = tableElements root := List.zipIdx_map_fst ..
  rw [← bare]
  exact List.forall₂_map_left_iff.mpr (each.imp fun _ _ made => tableOf_ok made)

end XmlParser

/-! ### MinerU and PDF -/

namespace MineruParser

def MineruCell.span (c : MineruCell) : Span := ⟨c.rowIndex, c.columnIndex, c.rowSpan, c.columnSpan⟩

/-- What is made of an element. -/
def Makes (source : PyText) (e : MineruElement) : MineruObject → Prop
  | .table t => oneOf ["table"] e.elementType = true ∧ locate source e e.elementIndex = .ok t.locator ∧
      List.Forall₂ (fun (cell : MineruCell × Nat) c => c.span = MineruCell.span cell.1 ∧
        cellNumber e cell.2 ≤ 10000000 ∧ locate source e (cellNumber e cell.2) = .ok c.locator) e.cells.zipIdx t.cells
  | .figure f => oneOf ["table"] e.elementType = false ∧ locate source e e.elementIndex = .ok f.locator
  | .block b => oneOf ["table"] e.elementType = false ∧ locate source e e.elementIndex = .ok b.locator
  | .nothing => oneOf ["table"] e.elementType = false ∧ ∃ l, locate source e e.elementIndex = .ok l

omit [NormalText] [DecimalText] [WordText] in
theorem objectOf_ok {source : PyText} {e : MineruElement} {n : Nat} {o : MineruObject} (made : objectOf source e n = .ok o) :
    Makes source e o := by
  unfold objectOf at made
  obtain ⟨locator, located, made⟩ := bind_ok.mp made
  split at made
  · rename_i isTable
    simp only [bind_ok] at made
    obtain ⟨cells, celled, id, -, t, created, done⟩ := made
    cases done
    obtain ⟨-, -, -, locator', cells'⟩ := CanonicalTable.create_ok created
    refine ⟨isTable, by rw [locator']; exact located, ?_⟩
    rw [cells']
    refine (mapM_ok.mp celled).imp fun cell c one => ?_
    obtain ⟨_, low, one⟩ := bind_ok.mp one
    obtain ⟨place, found, one⟩ := bind_ok.mp one
    obtain ⟨span, -, -, locator'⟩ := CanonicalCell.create_ok one
    rw [ensure_ok, decide_eq_true_eq] at low
    exact ⟨span, low, by rw [locator']; exact found⟩
  · rename_i other
    rw [Bool.not_eq_true] at other
    split at made
    · simp only [bind_ok] at made
      obtain ⟨id, -, f, created, done⟩ := made
      cases done
      unfold CanonicalFigure.create at created
      split at created
      · split at created
        · cases created
          exact ⟨other, located⟩
        · cases created
      · cases created
    · split at made
      · cases made
        exact ⟨other, locator, located⟩
      · simp only [bind_ok] at made
        obtain ⟨id, -, b, created, done⟩ := made
        cases done
        unfold CanonicalBlock.create at created
        split at created
        · cases created
          exact ⟨other, located⟩
        · cases created

omit [WordText] in
/-- What is behind an accepted MinerU document. -/
theorem parse_ok {backend : Option MineruBackend} {config : DocumentParserConfig} {source mediaType : PyText} {bytes : Bytes}
    {document : CanonicalDocument} (parsed : parse backend config source mediaType bytes = .ok document) :
    ∃ b raw elements objects, backend = some b ∧ b.parse bytes = .ok raw ∧ elementsOf config raw = .ok elements ∧
      List.Forall₂ (fun e o => ∃ n, objectOf source e n = .ok o) elements objects ∧ document.tables = objects.filterMap MineruObject.table? ∧
      document.figures = objects.filterMap MineruObject.figure? ∧ document.blocks = objects.filterMap MineruObject.block? ∧
      document.references = [] := by
  unfold parse at parsed
  obtain ⟨_, -, parsed⟩ := bind_ok.mp parsed
  cases backend with
  | none => cases parsed
  | some b =>
    dsimp only at parsed
    split at parsed
    · cases parsed
    · rename_i raw handed
      obtain ⟨elements, checked, made⟩ := bind_ok.mp parsed
      simp only [documentOf, bind_ok] at made
      obtain ⟨found, extracted, _, -, built⟩ := made
      obtain ⟨objects, each, done⟩ := bind_ok.mp extracted
      cases done
      obtain ⟨-, -, -, -, blocks, tables, figures, references⟩ := buildDocument_ok built
      refine ⟨b, raw, elements, objects, rfl, handed, checked, ?_, tables, figures, blocks, references⟩
      have made := mapM_ok.mp each
      have bare : elements.zipIdx.map Prod.fst = elements := List.zipIdx_map_fst ..
      rw [← bare]
      exact List.forall₂_map_left_iff.mpr (made.imp fun item _ one => ⟨item.2, one⟩)

end MineruParser

omit [DecimalText] [WordText] in
/-- The blocks of a PDF document are its pages with text. -/
theorem PdfParser.parse_ok [PdfLibrary] {config : DocumentParserConfig} {source mediaType : PyText} {bytes : Bytes}
    {document : CanonicalDocument} (parsed : parse config source mediaType bytes = .ok document) :
    document.tables = [] ∧ document.figures = [] ∧ document.references = [] ∧
      ∃ pages, PdfLibrary.pages bytes = some pages ∧ ∃ fault,
        gather config.maxBlocks fault (pageOf source) 0 [] pages = .ok document.blocks := by
  simp only [parse, bind_ok] at parsed
  obtain ⟨_, -, _, -, ⟨blocks, count⟩, read, _, -, built⟩ := parsed
  obtain ⟨-, -, -, -, blocks', tables', figures', references'⟩ := buildDocument_ok built
  refine ⟨tables', figures', references', ?_⟩
  unfold blocksOf at read
  dsimp only at read
  split at read
  · cases read
  · rename_i pages opened
    split at read
    · cases read
    · split at read
      · cases read
      · rename_i all gathered
        cases read
        exact ⟨pages, opened, _, by rw [blocks']; exact gathered⟩

end
end Molly
