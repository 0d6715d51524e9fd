import Molly.Document.Grids
import Molly.Document.Names

/-! Where the objects of a document come from: the element, the page or the cell that one turn of a
parser's loop makes an object of. -/
namespace Molly
open Effect (RoseTree Step Place)

/-! ### Objects and their origins -/

inductive DocumentObject where
  | block (made : CanonicalBlock)
  | table (made : CanonicalTable)
  | figure (made : CanonicalFigure)
  | reference (made : CanonicalReference)
  | cell (made : CanonicalCell)

def DocumentObject.locator : DocumentObject → SourceLocator
  | .block made => made.locator
  | .table made => made.locator
  | .figure made => made.locator
  | .reference made => made.locator
  | .cell made => made.locator

def CanonicalDocument.objects (d : CanonicalDocument) : List DocumentObject :=
  d.blocks.map .block ++ d.tables.map .table ++ d.figures.map .figure ++ d.references.map .reference ++
    (d.tables.flatMap CanonicalTable.cells).map .cell

theorem mem_objects {document : CanonicalDocument} {o : DocumentObject} : o ∈ document.objects ↔ (∃ b ∈ document.blocks, o = .block b) ∨
    (∃ t ∈ document.tables, o = .table t) ∨ (∃ f ∈ document.figures, o = .figure f) ∨
    (∃ r ∈ document.references, o = .reference r) ∨ ∃ t ∈ document.tables, ∃ c ∈ t.cells, o = .cell c := by
  unfold CanonicalDocument.objects
  simp only [List.mem_append, List.mem_map, List.mem_flatMap, or_assoc, eq_comm (b := o)]
  constructor
  · rintro (h | h | h | h | ⟨c, ⟨t, known, member⟩, rfl⟩)
    · exact .inl h
    · exact .inr (.inl h)
    · exact .inr (.inr (.inl h))
    · exact .inr (.inr (.inr (.inl h)))
    · exact .inr (.inr (.inr (.inr ⟨t, known, c, member, rfl⟩)))
  · rintro (h | h | h | h | ⟨t, known, c, member, rfl⟩)
    · exact .inl h
    · exact .inr (.inl h)
    · exact .inr (.inr (.inl h))
    · exact .inr (.inr (.inr (.inl h)))
    · exact .inr (.inr (.inr (.inr ⟨c, ⟨t, known, member⟩, rfl⟩)))

/-- An element of a tree, a page, an element of a MinerU page, or a cell of one. -/
inductive SourceElement where
  | place (p : Place Element)
  | page (index : Nat)
  | element (page index : Nat)
  | cell (page index number : Nat)

/-! ### Locators -/

/-- What a locator keeps of the arguments it is made of. -/
theorem SourceLocator.create_ok [CaseText] [PrintableText] {source : PyText} {kind : PyValue} {path : Option PyText} {page index : PyValue}
    {bbox : Option (List PyValue)} {l : SourceLocator} (made : create source kind path page index bbox = .ok l) :
    (validateArtifactId "artifact_id" source.display = .ok l.sourceArtifactId ∧
        ∃ text, kind = .str text ∧ enumOf SourceLocatorKind.text SourceLocatorKind.all text = some l.kind) ∧
      l.path = path ∧ (∃ message, boundedNat 1 100000 message page = .ok l.pageNumber) ∧
      (∃ message, boundedNat 0 10000000 message index = .ok l.elementIndex) ∧
      (∀ values ∈ bbox, ∃ b, bboxOf values = .ok b) ∧ l.bbox = bbox.bind fun values => (bboxOf values).toOption := by
  unfold create at made
  obtain ⟨id, sourced, made⟩ := bind_ok.mp made
  cases kind with
  | str text =>
    dsimp only at made
    split at made
    · cases made
    · rename_i kind kinded
      obtain ⟨pageNumber, paged, made⟩ := bind_ok.mp made
      obtain ⟨elementIndex, indexed, made⟩ := bind_ok.mp made
      cases bbox with
      | none =>
        obtain ⟨box, boxed, made⟩ := bind_ok.mp made
        cases boxed
        split at made
        · cases made
        · cases made
          exact ⟨⟨sourced, text, rfl, kinded⟩, rfl, ⟨_, paged⟩, ⟨_, indexed⟩, nofun, rfl⟩
      | some values =>
        obtain ⟨box, boxed, made⟩ := bind_ok.mp made
        obtain ⟨b, read, rfl⟩ := map_ok.mp boxed
        split at made
        · cases made
        · cases made
          refine ⟨⟨sourced, text, rfl, kinded⟩, rfl, ⟨_, paged⟩, ⟨_, indexed⟩, fun given same => ?_, ?_⟩
          · obtain rfl := Option.mem_some_iff.mp same
            exact ⟨b, read⟩
          · rw [Option.bind_some, read]
            rfl
  | _ => cases made

section
variable [CaseText] [PrintableText]

theorem locateAt_path {kind : SourceLocatorKind} {source : PyText} {root p : Place Element} {l : SourceLocator}
    (located : locateAt kind source root p = .ok l) : l.path = some (structuralPath root.length p) :=
  (SourceLocator.create_ok located).2.1

end

/-! ### Places of objects -/

theorem HtmlParser.under_elements {root p : Place Element} (filled : root ≠ []) (member : p ∈ elements root) : Place.Under root p :=
  (Place.mem_iter filled).mp (List.mem_of_mem_filter member)

section
variable [CaseText]

/-- The cells of a table lie under it. -/
theorem HtmlParser.under_cells {table p : Place Element} (filled : table ≠ [])
    (member : p ∈ ((tableRows table).map rowCells).flatten) : Place.Under table p := by
  obtain ⟨cells, among, inRow⟩ := List.mem_flatten.mp member
  obtain ⟨row, inTable, rfl⟩ := List.mem_map.mp among
  have below := (Place.mem_iter filled).mp (List.mem_of_mem_filter inTable)
  exact below.trans ((Place.mem_iter (below.ne_nil filled)).mp (List.mem_of_mem_filter inRow))

theorem XmlParser.under_cells {container p : Place Element} (filled : container ≠ [])
    (member : p ∈ ((tableRows (tableIn container)).map rowCells).flatten) : Place.Under container p := by
  have inside : Place.Under container (tableIn container) := by
    unfold tableIn
    cases found : container.iter.find? (named ["table"]) with
    | none => exact .here
    | some table => exact (Place.mem_iter filled).mp (List.mem_of_find?_eq_some found)
  obtain ⟨cells, among, inRow⟩ := List.mem_flatten.mp member
  obtain ⟨row, inTable, rfl⟩ := List.mem_map.mp among
  have below := inside.trans ((Place.mem_iter (inside.ne_nil filled)).mp (List.mem_of_mem_filter inTable))
  exact below.trans ((Place.mem_iter (below.ne_nil filled)).mp (List.mem_of_mem_filter inRow))

omit [CaseText] in
/-- The cells of a table are made of the elements of its rows. -/
theorem TableMade.cells_made [PrintableText] [DecimalText] {config : DocumentParserConfig} {source : PyText} {root p : Place Element}
    {sections : SectionIds} {rules : CellRules} {rows : List (List (Place Element))} {caption : Except PyError (Option PyText)}
    {t : CanonicalTable} (made : TableMade config source root sections rules rows caption p t) :
    List.Forall₂ rules.Makes rows.flatten t.cells := by
  obtain ⟨occupied, placed⟩ := made.placed
  obtain ⟨cells, shown, each⟩ := placeRows_ok placed
  rw [List.nil_append] at shown
  dsimp only at shown
  rwa [shown]

end

/-! ### Turns -/

section
variable [CaseText] [NormalText] [PrintableText] [DecimalText] [WordText] [Sha256]

/-- What a turn of the HTML parser's loops makes of an element. -/
def HtmlParser.Turn (config : DocumentParserConfig) (source : PyText) (root : Place Element) (sections : SectionIds)
    (p : Place Element) : DocumentObject → Prop
  | .block b => ∃ n, blockOf config source root sections (titleElement root) n p = .ok (some b)
  | .table t => ∃ n, tableOf config source root sections n p = .ok t
  | .figure f => ∃ n, figureOf config source root n p = .ok f
  | .reference r => ∃ n, referenceOf config source root n p = .ok (some r)
  | .cell c => (cellRules config source root).Makes p c

/-- What a turn of the XML parsers' loops makes of an element. -/
def XmlParser.Turn (config : DocumentParserConfig) (source : PyText) (root : Place Element) (sections : SectionIds)
    (p : Place Element) : DocumentObject → Prop
  | .block b => safeText config "canonical block" false p.tree = .ok b.text ∧ locate source root p = .ok b.locator ∧
      b.sectionId = nearestSectionId sections p
  | .table t => ∃ n, tableOf config source root sections p n = .ok t
  | .figure f => ∃ n, figureOf config source root n p = .ok f
  | .reference r => ∃ n, referenceOf config source root n p = .ok r
  | .cell c => (cellRules config source root).Makes p c

/-- What the MinerU parser makes of an element. -/
def MineruParser.Turn (source : PyText) (e : MineruElement) : DocumentObject → Prop
  | .block b => ∃ n, objectOf source e n = .ok (.block b)
  | .table t => ∃ n, objectOf source e n = .ok (.table t)
  | .figure f => ∃ n, objectOf source e n = .ok (.figure f)
  | .reference _ | .cell _ => False

variable [HtmlLibrary] [XmlLibrary] [PdfLibrary]

/-- The object comes from the source element in a parser's run. -/
def ParserCall.Comes (config : DocumentParserConfig) (source : PyText) (bytes : Bytes) :
    ParserCall → DocumentObject → SourceElement → Prop
  | .html, o, .place p => ∃ root sections, HtmlParser.treeDetails config bytes = .ok root ∧
      HtmlParser.makeSections config source root = .ok sections ∧ Place.Under root p ∧ HtmlParser.Turn config source root sections p o
  | .xml _, o, .place p => ∃ root sections, (XmlParser.treeDetails config bytes).1 = .ok root ∧
      XmlParser.makeSections config source root [] (XmlParser.sectionElements root) = .ok sections ∧ Place.Under root p ∧
      XmlParser.Turn config source root sections p o
  | .pdf, .block b, .page i => ∃ pages text, PdfLibrary.pages bytes = some pages ∧ pages[i]? = some text ∧
      PdfParser.pageOf source i text = .ok (some b)
  | .mineru (some backend), o, .element page i => ∃ raw elements, backend.parse bytes = .ok raw ∧
      MineruParser.elementsOf config raw = .ok elements ∧
      ∃ e ∈ elements, e.pageNumber = page ∧ e.elementIndex = i ∧ MineruParser.Turn source e o
  | .mineru (some backend), .cell c, .cell page i k => ∃ raw elements, backend.parse bytes = .ok raw ∧
      MineruParser.elementsOf config raw = .ok elements ∧
      ∃ e ∈ elements, e.pageNumber = page ∧ e.elementIndex = i ∧ oneOf ["table"] e.elementType = true ∧
      ∃ cell, e.cells[k]? = some cell ∧ MineruParser.cellOf source e cell k = .ok c
  | _, _, _ => False

/-- Every object comes from somewhere, and objects that come from different source elements have different locators. -/
def LocatorsIdentify (config : DocumentParserConfig) (source : PyText) (bytes : Bytes) (call : ParserCall)
    (document : CanonicalDocument) : Prop :=
  (∀ o ∈ document.objects, ∃ e, call.Comes config source bytes o e) ∧
    ∀ o ∈ document.objects, ∀ o' ∈ document.objects, ∀ e e', call.Comes config source bytes o e →
      call.Comes config source bytes o' e' → e ≠ e' → o.locator ≠ o'.locator

/-! ### Every object has an origin -/

section
variable {config : DocumentParserConfig} {source mediaType : PyText} {root : Place Element} {sections : SectionIds}
  {document : CanonicalDocument}

omit [HtmlLibrary] [XmlLibrary] [PdfLibrary] in
theorem HtmlParser.turn_of_object (extracted : Extracted config source root sections document) (filled : root ≠ [])
    {o : DocumentObject} (member : o ∈ document.objects) : ∃ p, Place.Under root p ∧ Turn config source root sections p o := by
  rcases mem_objects.mp member with ⟨b, known, rfl⟩ | ⟨t, known, rfl⟩ | ⟨f, known, rfl⟩ | ⟨r, known, rfl⟩ | ⟨t, known, c, inTable, rfl⟩
  · obtain ⟨p, given, turn⟩ := gather_made extracted.blocks b known
    exact ⟨p, under_elements filled given, turn⟩
  · obtain ⟨p, given, turn⟩ := forall₂_right (gather_some_ok extracted.tables) known
    exact ⟨p, under_elements filled (List.mem_of_mem_filter given), turn⟩
  · obtain ⟨p, given, turn⟩ := forall₂_right (gather_some_ok extracted.figures) known
    exact ⟨p, under_elements filled (List.mem_of_mem_filter given), turn⟩
  · obtain ⟨p, given, turn⟩ := gather_made extracted.references r known
    exact ⟨p, under_elements filled (List.mem_of_mem_filter given), turn⟩
  · obtain ⟨table, given, made⟩ := forall₂_right (tables_ok extracted) known
    obtain ⟨p, inRows, makes⟩ := forall₂_right made.cells_made inTable
    have below := under_elements filled (List.mem_of_mem_filter given)
    exact ⟨p, below.trans (under_cells (below.ne_nil filled) inRows), makes⟩

omit [DecimalText] [WordText] [HtmlLibrary] [XmlLibrary] [PdfLibrary] in
/-- Every block the loop adds is made of one of the elements. -/
theorem XmlParser.addBlocks_ok : ∀ {items : List (CanonicalBlockKind × Place Element)} {made all : List CanonicalBlock},
    addBlocks config source root sections made items = .ok all → ∀ b ∈ all, b ∈ made ∨ ∃ item ∈ items,
      safeText config "canonical block" false item.2.tree = .ok b.text ∧ locate source root item.2 = .ok b.locator ∧
        b.sectionId = nearestSectionId sections item.2 := by
  intro items
  induction items with
  | nil =>
    intro made all done b member
    cases done
    exact .inl member
  | cons item rest ih =>
    intro made all done b member
    obtain ⟨kind, p⟩ := item
    rw [addBlocks] at done
    obtain ⟨text, written, done⟩ := bind_ok.mp done
    have later (found : ∃ item ∈ rest, safeText config "canonical block" false item.2.tree = .ok b.text ∧
        locate source root item.2 = .ok b.locator ∧ b.sectionId = nearestSectionId sections item.2) :
        b ∈ made ∨ ∃ item ∈ (kind, p) :: rest, safeText config "canonical block" false item.2.tree = .ok b.text ∧
          locate source root item.2 = .ok b.locator ∧ b.sectionId = nearestSectionId sections item.2 := by
      obtain ⟨item, given, turn⟩ := found
      exact .inr ⟨item, List.mem_cons_of_mem _ given, turn⟩
    split at done
    · rcases ih done b member with before | found
      · exact .inl before
      · exact later found
    · obtain ⟨locator, located, done⟩ := bind_ok.mp done
      obtain ⟨id, -, done⟩ := bind_ok.mp done
      obtain ⟨block, created, done⟩ := bind_ok.mp done
      obtain ⟨_, -, done⟩ := bind_ok.mp done
      rcases ih done b member with before | found
      · rcases List.mem_append.mp before with before | last
        · exact .inl before
        · obtain rfl := List.mem_singleton.mp last
          unfold CanonicalBlock.create at created
          split at created
          · cases created
            exact .inr ⟨(kind, p), List.mem_cons_self, written, located, rfl⟩
          · cases created
      · exact later found

omit [HtmlLibrary] [XmlLibrary] [PdfLibrary] in
theorem XmlParser.turn_of_object {jats : Bool} (extracted : Extracted config source jats root sections document) (filled : root ≠ [])
    {o : DocumentObject} (member : o ∈ document.objects) : ∃ p, Place.Under root p ∧ Turn config source root sections p o := by
  have under {p : Place Element} {test : Place Element → Bool} (given : p ∈ root.iter.filter test) : Place.Under root p :=
    (Place.mem_iter filled).mp (List.mem_of_mem_filter given)
  have bare : (tableElements root).zipIdx.map Prod.fst = tableElements root := List.zipIdx_map_fst ..
  rcases mem_objects.mp member with ⟨b, known, rfl⟩ | ⟨t, known, rfl⟩ | ⟨f, known, rfl⟩ | ⟨r, known, rfl⟩ | ⟨t, known, c, inTable, rfl⟩
  · rcases addBlocks_ok extracted.blocks b known with none | ⟨item, given, turn⟩
    · cases none
    · refine ⟨item.2, (Place.mem_iter filled).mp ?_, turn⟩
      rcases List.mem_append.mp given with titled | inBody
      · obtain ⟨p, found, rfl⟩ := List.mem_map.mp titled
        rw [Option.mem_toList] at found
        unfold titleElement at found
        split at found
        · exact List.mem_of_find?_eq_some found
        · exact List.mem_of_find?_eq_some found
      · obtain ⟨p, found, same⟩ := List.mem_filterMap.mp inBody
        obtain ⟨kind, -, rfl⟩ := Option.map_eq_some_iff.mp same
        exact found
  · obtain ⟨item, given, turn⟩ := forall₂_right (mapM_ok.mp extracted.tables) known
    exact ⟨item.1, under (List.fst_mem_of_mem_zipIdx given), item.2, turn⟩
  · obtain ⟨p, given, turn⟩ := forall₂_right (gather_some_ok extracted.figures) known
    exact ⟨p, under given, turn⟩
  · obtain ⟨p, given, turn⟩ := forall₂_right (gather_some_ok extracted.references) known
    exact ⟨p, under given, turn⟩
  · obtain ⟨container, given, made⟩ := forall₂_right (tables_ok extracted) known
    obtain ⟨p, inRows, makes⟩ := forall₂_right made.cells_made inTable
    have below := under given
    exact ⟨p, below.trans (under_cells (below.ne_nil filled) inRows), makes⟩

end
end
end Molly
