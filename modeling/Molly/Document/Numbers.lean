import Molly.Document.Locators

/-! The numbers of MinerU locators: those of the elements of a page, and those of the cells of its tables. -/
namespace Molly

section
variable [CaseText] [NormalText] [PrintableText] [DecimalText] [WordText] [Sha256]

/-! ### MinerU numbers -/

namespace MineruParser

/-- The box that the locators of an element have. -/
def box (e : MineruElement) : Option BoundingBox :=
  e.bbox.bind fun box => (SourceLocator.bboxOf (box.map .float)).toOption

/-- The source elements an element gives a locator, each with its number. -/
def numbered (e : MineruElement) : List (SourceElement × Nat) :=
  if oneOf ["table"] e.elementType then
    (.element e.pageNumber e.elementIndex, e.elementIndex) ::
      (List.range e.cells.length).map fun k => (.cell e.pageNumber e.elementIndex k, cellNumber e k)
  else if oneOf ["figure", "image"] e.elementType || e.text ≠ [] then [(.element e.pageNumber e.elementIndex, e.elementIndex)]
  else []

/-- Different source elements of a page do not share a number, unless their boxes tell them apart. -/
def NumbersApart (elements : List MineruElement) : Prop :=
  ∀ e ∈ elements, ∀ f ∈ elements, ∀ a ∈ numbered e, ∀ b ∈ numbered f, a.1 ≠ b.1 → e.pageNumber = f.pageNumber → box e = box f →
    a.2 ≠ b.2

/-- What `cellOf` gives a cell for a locator. -/
def cellLocator (source : PyText) (e : MineruElement) (cellIndex : Nat) : Except PyError SourceLocator := do
  ensure (cellNumber e cellIndex ≤ 10000000) (malformedError "MinerU cell locator index exceeds the limit")
  locate source e (cellNumber e cellIndex)

/-- The element and, in a table, each of its cells are given a locator. -/
def Assigned (source : PyText) (e : MineruElement) : Prop :=
  (∃ l, locate source e e.elementIndex = .ok l) ∧
    (oneOf ["table"] e.elementType = true → ∀ k < e.cells.length, ∃ l, cellLocator source e k = .ok l)

/-- The numbers of a table's cells are no larger than an element index may be. -/
def CellsInRange (e : MineruElement) : Prop :=
  oneOf ["table"] e.elementType = true → ∀ k < e.cells.length, cellNumber e k ≤ 10000000

/-- The box of the element, if it has one, is one a locator may have. -/
def Boxed (e : MineruElement) : Prop := e.bbox.isSome = true → (box e).isSome = true

omit [NormalText] [DecimalText] [WordText] [Sha256] in
theorem locate_ok {source : PyText} {e : MineruElement} {n : Nat} {l : SourceLocator} (located : locate source e n = .ok l) :
    l.pageNumber = some e.pageNumber ∧ l.elementIndex = some n ∧ Boxed e ∧ l.bbox = box e := by
  obtain ⟨-, -, ⟨_, paged⟩, ⟨_, indexed⟩, read, boxed⟩ := SourceLocator.create_ok located
  refine ⟨SourceLocator.boundedNat_nat paged, SourceLocator.boundedNat_nat indexed, fun has => ?_, ?_⟩
  · obtain ⟨values, shown⟩ := Option.isSome_iff_exists.mp has
    obtain ⟨b, made⟩ := read (values.map .float) (by rw [shown]; rfl)
    rw [box, shown, Option.bind_some, made]
    rfl
  · rw [boxed, Option.bind_map]
    rfl

omit [NormalText] [DecimalText] [WordText] [Sha256] in
/-- Locators with the same page, number and box are one. -/
theorem locate_same {source : PyText} {e f : MineruElement} {n : Nat} {l m : SourceLocator} (located : locate source e n = .ok l)
    (located' : locate source f n = .ok m) (page : e.pageNumber = f.pageNumber) (boxes : box e = box f) : l = m := by
  obtain ⟨⟨sourced, text, named, kinded⟩, path, -⟩ := SourceLocator.create_ok located
  obtain ⟨⟨sourced', text', named', kinded'⟩, path', -⟩ := SourceLocator.create_ok located'
  obtain ⟨pageNumber, elementIndex, -, bbox⟩ := locate_ok located
  obtain ⟨pageNumber', elementIndex', -, bbox'⟩ := locate_ok located'
  cases named.symm.trans named'
  rw [page] at pageNumber
  rw [boxes] at bbox
  cases l
  cases m
  cases sourced.symm.trans sourced'
  cases kinded.symm.trans kinded'
  cases path.trans path'.symm
  cases pageNumber.trans pageNumber'.symm
  cases elementIndex.trans elementIndex'.symm
  cases bbox.trans bbox'.symm
  rfl

omit [NormalText] [DecimalText] [WordText] [Sha256] in
/-- A number in range, on a page in range, makes a locator. -/
theorem locate_of {source : PyText} {id : ArtifactId} {e : MineruElement} {n : Nat}
    (sourced : validateArtifactId "artifact_id" source.display = .ok id) (page : 1 ≤ e.pageNumber ∧ e.pageNumber ≤ 100000)
    (boxed : Boxed e) (low : n ≤ 10000000) : ∃ l, locate source e n = .ok l := by
  have kinded : enumOf SourceLocatorKind.text SourceLocatorKind.all (PyText.ofString "MINERU_ELEMENT") = some .mineruElement := by
    have upper : (PyText.ofString "MINERU_ELEMENT").strip.upper = PyText.ofString "MINERU_ELEMENT" :=
      PyText.upper_ascii (by decide)
    unfold enumOf
    rw [upper]
    decide
  have paged : SourceLocator.boundedNat 1 100000 "page_number must be a 1-based bounded page number" (.int e.pageNumber) =
      .ok (some e.pageNumber) := by
    simp only [SourceLocator.boundedNat]
    rw [if_pos (by omega), Int.toNat_natCast]
  have indexed : SourceLocator.boundedNat 0 10000000 "element_index must be a bounded non-negative index" (.int n) =
      .ok (some n) := by
    simp only [SourceLocator.boundedNat]
    rw [if_pos (by omega), Int.toNat_natCast]
  unfold locate SourceLocator.create
  rw [sourced]
  have written : e.bbox = none ∨ ∃ values b, e.bbox = some values ∧ SourceLocator.bboxOf (values.map .float) = .ok b := by
    cases has : e.bbox with
    | none => exact .inl rfl
    | some values =>
      have made := boxed (by rw [has]; rfl)
      rw [box, has, Option.bind_some] at made
      cases read : SourceLocator.bboxOf (values.map .float) with
      | error error =>
        rw [read] at made
        cases made
      | ok b => exact .inr ⟨values, b, rfl, read⟩
  rcases written with none | ⟨values, b, some, read⟩
  · rw [none]
    simp only [bind, Except.bind, kinded, paged, indexed, Option.map_none, pure, Except.pure]
    split
    · rename_i shaped
      cases shaped
    · exact ⟨_, rfl⟩
  · rw [some]
    simp only [bind, Except.bind, kinded, paged, indexed, Option.map_some, read, Functor.map, Except.map, pure, Except.pure]
    split
    · rename_i shaped
      cases shaped
    · exact ⟨_, rfl⟩

omit [NormalText] [DecimalText] [WordText] [Sha256] in
/-- An element in range has its locators exactly when its box is in order and the numbers of its cells are in range. -/
theorem assigned_iff {source : PyText} {id : ArtifactId} {e : MineruElement}
    (sourced : validateArtifactId "artifact_id" source.display = .ok id) (page : 1 ≤ e.pageNumber ∧ e.pageNumber ≤ 100000)
    (index : e.elementIndex ≤ 10000000) : Assigned source e ↔ Boxed e ∧ CellsInRange e := by
  constructor
  · rintro ⟨⟨l, located⟩, cells⟩
    refine ⟨(locate_ok located).2.2.1, fun isTable k known => ?_⟩
    obtain ⟨l, located⟩ := cells isTable k known
    obtain ⟨_, low, -⟩ := bind_ok.mp located
    rwa [ensure_ok, decide_eq_true_eq] at low
  · rintro ⟨boxed, low⟩
    refine ⟨locate_of sourced page boxed index, fun isTable k known => ?_⟩
    obtain ⟨l, located⟩ := locate_of sourced page boxed (low isTable k known)
    exact ⟨l, bind_ok.mpr ⟨(), ensure_ok.mpr (decide_eq_true (low isTable k known)), located⟩⟩

omit [CaseText] [NormalText] [PrintableText] [WordText] [Sha256] in
theorem parseBoundedInt_ok {low default maximum n : Nat} {field : String} {value : Option PyText}
    (read : parseBoundedInt low default field maximum value = .ok n) : n = default ∨ low ≤ n ∧ n ≤ maximum := by
  unfold parseBoundedInt at read
  split at read
  · cases read
    exact .inl rfl
  · split at read
    · cases read
      exact .inl rfl
    · split at read
      · cases read
      · split at read
        · rename_i inRange
          cases read
          omega
        · cases read

omit [Sha256] [WordText] in
/-- A checked element is on a page of the document, and its index is in range. -/
theorem elementFrom_ok {config : DocumentParserConfig} {value : PyValue} {e : MineruElement}
    (checked : elementFrom config value = .ok e) :
    (1 ≤ e.pageNumber ∧ e.pageNumber ≤ 100000) ∧ e.elementIndex ≤ 10000000 := by
  have pages := config.bounded ("max_page_count", config.maxPageCount, 100000) (by simp [DocumentLimits.entries])
  dsimp only at pages
  cases value with
  | obj fields =>
    unfold elementFrom at checked
    obtain ⟨_, -, checked⟩ := bind_ok.mp checked
    split at checked
    · obtain ⟨_, -, checked⟩ := bind_ok.mp checked
      obtain ⟨_, -, checked⟩ := bind_ok.mp checked
      obtain ⟨_, -, checked⟩ := bind_ok.mp checked
      obtain ⟨⟨pageNumber, elementIndex, text, cells⟩, read, checked⟩ := bind_ok.mp checked
      obtain ⟨_, -, checked⟩ := bind_ok.mp checked
      obtain ⟨_, -, checked⟩ := bind_ok.mp checked
      cases checked
      rw [orMalformed_eq_ok] at read
      simp only [bind_ok] at read
      obtain ⟨page, paged, index, indexed, _, -, _, -, _, -, done⟩ := read
      cases done
      have inPages := parseBoundedInt_ok paged
      have inRange := parseBoundedInt_ok indexed
      dsimp only
      omega
    · cases checked
  | _ => cases checked

omit [Sha256] [WordText] in
theorem elementsOf_ok {config : DocumentParserConfig} {raw : PyValue} {elements : List MineruElement}
    (checked : elementsOf config raw = .ok elements) {e : MineruElement} (member : e ∈ elements) :
    (1 ≤ e.pageNumber ∧ e.pageNumber ≤ 100000) ∧ e.elementIndex ≤ 10000000 := by
  cases raw with
  | arr items =>
    obtain ⟨_, -, checked⟩ := bind_ok.mp checked
    obtain ⟨value, -, made⟩ := forall₂_right (mapM_ok.mp checked) member
    exact elementFrom_ok made
  | _ => cases checked

/-! ### The objects of the elements -/

omit [NormalText] [DecimalText] [WordText] in
/-- The object of an element has its locator. -/
theorem Turn.located {source : PyText} {e : MineruElement} {o : DocumentObject} (turn : Turn source e o) :
    locate source e e.elementIndex = .ok o.locator := by
  cases o with
  | block b =>
    obtain ⟨n, made⟩ := turn
    exact (objectOf_ok made).2
  | table t =>
    obtain ⟨n, made⟩ := turn
    exact (objectOf_ok made).2.1
  | figure f =>
    obtain ⟨n, made⟩ := turn
    exact (objectOf_ok made).2
  | reference r => cases turn
  | cell c => cases turn

omit [NormalText] [DecimalText] [WordText] [Sha256] in
theorem cellOf_ok {source : PyText} {e : MineruElement} {cell : MineruCell} {k : Nat} {c : CanonicalCell}
    (made : cellOf source e cell k = .ok c) : locate source e (cellNumber e k) = .ok c.locator := by
  obtain ⟨_, -, made⟩ := bind_ok.mp made
  obtain ⟨locator, located, made⟩ := bind_ok.mp made
  rw [(CanonicalCell.create_ok made).2.2.2]
  exact located

omit [NormalText] [DecimalText] [WordText] in
/-- An element of which something else than a table is made gives its own number; one of which nothing is made gives none. -/
theorem objectOf_numbered {source : PyText} {e : MineruElement} {n : Nat} {o : MineruObject} (made : objectOf source e n = .ok o)
    (other : ∀ t, o ≠ .table t) : (o = .nothing → numbered e = []) ∧
      (o ≠ .nothing → numbered e = [(.element e.pageNumber e.elementIndex, e.elementIndex)]) := by
  unfold objectOf at made
  obtain ⟨locator, -, made⟩ := bind_ok.mp made
  split at made
  · simp only [bind_ok] at made
    obtain ⟨_, -, _, -, t, -, done⟩ := made
    cases done
    exact absurd rfl (other t)
  · rename_i noTable
    rw [numbered, if_neg noTable]
    split at made
    · rename_i isFigure
      simp only [bind_ok] at made
      obtain ⟨_, -, _, -, done⟩ := made
      cases done
      exact ⟨nofun, fun _ => by simp [isFigure]⟩
    · rename_i noFigure
      split at made
      · rename_i silent
        cases made
        exact ⟨fun _ => by simp [noFigure, silent], fun no => absurd rfl no⟩
      · rename_i speaks
        simp only [bind_ok] at made
        obtain ⟨_, -, _, -, done⟩ := made
        cases done
        exact ⟨nofun, fun _ => by simp [speaks]⟩

omit [NormalText] [DecimalText] [WordText] in
/-- A table has a cell for each number behind its own. -/
theorem objectOf_cells {source : PyText} {e : MineruElement} {n : Nat} {t : CanonicalTable}
    (made : objectOf source e n = .ok (.table t)) : oneOf ["table"] e.elementType = true ∧
      List.Forall₂ (fun (cell : MineruCell × Nat) c => cellOf source e cell.1 cell.2 = .ok c) e.cells.zipIdx t.cells := by
  unfold objectOf at made
  obtain ⟨locator, -, made⟩ := bind_ok.mp made
  split at made
  · rename_i isTable
    simp only [bind_ok] at made
    obtain ⟨cells, celled, _, -, t', created, done⟩ := made
    cases done
    rw [(CanonicalTable.create_ok created).2.2.2.2]
    exact ⟨isTable, mapM_ok.mp celled⟩
  · split at made
    · simp only [bind_ok] at made
      obtain ⟨_, -, _, -, done⟩ := made
      cases done
    · split at made
      · cases made
      · simp only [bind_ok] at made
        obtain ⟨_, -, _, -, done⟩ := made
        cases done

omit [CaseText] [NormalText] [PrintableText] [DecimalText] [WordText] [Sha256] in
theorem numbered_table {e : MineruElement} (isTable : oneOf ["table"] e.elementType = true) :
    numbered e = (.element e.pageNumber e.elementIndex, e.elementIndex) ::
      (List.range e.cells.length).map fun k => (.cell e.pageNumber e.elementIndex k, cellNumber e k) := if_pos isTable

end MineruParser

/-! ### Locators identify elements and cells -/

section
variable [HtmlLibrary] [XmlLibrary] [PdfLibrary]

/-- The numbers of the elements a MinerU backend hands over, and of their cells, are apart. -/
def ParserCall.NumbersApart (config : DocumentParserConfig) (bytes : Bytes) : ParserCall → Prop
  | .mineru (some backend) => ∀ raw elements, backend.parse bytes = .ok raw → MineruParser.elementsOf config raw = .ok elements →
      MineruParser.NumbersApart elements
  | _ => True

section
variable {config : DocumentParserConfig} {source mediaType : PyText} {bytes : Bytes} {document : CanonicalDocument}
  {backend : MineruBackend} {raw : PyValue} {elements : List MineruElement}

namespace MineruParser

/-- What comes from an element, or from a cell, has one of its numbers. -/
theorem numbered_of_comes (handed : backend.parse bytes = .ok raw) (checked : elementsOf config raw = .ok elements)
    {o : DocumentObject} {origin : SourceElement}
    (comes : ParserCall.Comes config source bytes (.mineru (some backend)) o origin) :
    ∃ e ∈ elements, ∃ n, (origin, n) ∈ numbered e ∧ locate source e n = .ok o.locator := by
  cases origin with
  | element page i =>
    obtain ⟨raw', elements', handed', checked', e, member, rfl, rfl, turn⟩ := comes
    cases handed.symm.trans handed'
    cases checked.symm.trans checked'
    refine ⟨e, member, e.elementIndex, ?_, turn.located⟩
    cases o with
    | block b =>
      obtain ⟨n, made⟩ := turn
      rw [(objectOf_numbered made (by simp)).2 (by simp)]
      exact List.mem_singleton.mpr rfl
    | table t =>
      obtain ⟨n, made⟩ := turn
      rw [numbered_table (objectOf_cells made).1]
      exact List.mem_cons_self
    | figure f =>
      obtain ⟨n, made⟩ := turn
      rw [(objectOf_numbered made (by simp)).2 (by simp)]
      exact List.mem_singleton.mpr rfl
    | reference r => cases turn
    | cell c => cases turn
  | cell page i k =>
    cases o with
    | cell c =>
      obtain ⟨raw', elements', handed', checked', e, member, rfl, rfl, isTable, cell, found, made⟩ := comes
      cases handed.symm.trans handed'
      cases checked.symm.trans checked'
      obtain ⟨bound, -⟩ := List.getElem?_eq_some_iff.mp found
      refine ⟨e, member, cellNumber e k, ?_, cellOf_ok made⟩
      rw [numbered_table isTable]
      exact List.mem_cons_of_mem _ (List.mem_map.mpr ⟨k, List.mem_range.mpr bound, rfl⟩)
    | _ => cases comes
  | place p => cases o <;> cases comes
  | page i => cases o <;> cases comes

/-- Every number of an element is that of an object which comes from it, or from its cell. -/
theorem object_of_numbered (parsed : parse (some backend) config source mediaType bytes = .ok document)
    (handed : backend.parse bytes = .ok raw) (checked : elementsOf config raw = .ok elements) {e : MineruElement}
    (member : e ∈ elements) {origin : SourceElement} {n : Nat} (numbers : (origin, n) ∈ numbered e) :
    ∃ o ∈ document.objects, ParserCall.Comes config source bytes (.mineru (some backend)) o origin ∧
      locate source e n = .ok o.locator := by
  obtain ⟨b, raw', elements', objects, same, handed', checked', each, tables, figures, blocks, -⟩ := parse_ok parsed
  cases same
  cases handed.symm.trans handed'
  cases checked.symm.trans checked'
  obtain ⟨object, listed, m, made⟩ := forall₂_left each member
  have own (o : DocumentObject) (turn : Turn source e o) (inDocument : o ∈ document.objects)
      (one : (origin, n) = (.element e.pageNumber e.elementIndex, e.elementIndex)) : ∃ o ∈ document.objects,
      ParserCall.Comes config source bytes (.mineru (some backend)) o origin ∧ locate source e n = .ok o.locator := by
    cases one
    exact ⟨o, inDocument, ⟨raw, elements, handed, checked, e, member, rfl, rfl, turn⟩, turn.located⟩
  cases object with
  | nothing =>
    rw [(objectOf_numbered made (by simp)).1 rfl] at numbers
    cases numbers
  | block b =>
    rw [(objectOf_numbered made (by simp)).2 (by simp)] at numbers
    have known : b ∈ document.blocks := by
      rw [blocks]
      exact List.mem_filterMap.mpr ⟨_, listed, rfl⟩
    exact own (.block b) ⟨m, made⟩ (mem_objects.mpr (.inl ⟨b, known, rfl⟩)) (List.mem_singleton.mp numbers)
  | figure f =>
    rw [(objectOf_numbered made (by simp)).2 (by simp)] at numbers
    have known : f ∈ document.figures := by
      rw [figures]
      exact List.mem_filterMap.mpr ⟨_, listed, rfl⟩
    exact own (.figure f) ⟨m, made⟩ (mem_objects.mpr (.inr (.inr (.inl ⟨f, known, rfl⟩)))) (List.mem_singleton.mp numbers)
  | table t =>
    obtain ⟨isTable, cells⟩ := objectOf_cells made
    have known : t ∈ document.tables := by
      rw [tables]
      exact List.mem_filterMap.mpr ⟨_, listed, rfl⟩
    rw [numbered_table isTable] at numbers
    rcases List.mem_cons.mp numbers with one | numbers
    · exact own (.table t) ⟨m, made⟩ (mem_objects.mpr (.inr (.inl ⟨t, known, rfl⟩))) one
    · obtain ⟨k, inRange, shown⟩ := List.mem_map.mp numbers
      cases shown
      have bound := List.mem_range.mp inRange
      have found : e.cells[k]? = some e.cells[k] := List.getElem?_eq_getElem bound
      have inCells : (e.cells[k], k) ∈ e.cells.zipIdx := List.mem_zipIdx_iff_getElem?.mpr found
      obtain ⟨c, inTable, celled⟩ := forall₂_left cells inCells
      refine ⟨.cell c, mem_objects.mpr (.inr (.inr (.inr (.inr ⟨t, known, c, inTable, rfl⟩)))), ?_, cellOf_ok celled⟩
      exact ⟨raw, elements, handed, checked, e, member, rfl, rfl, isTable, _, found, celled⟩

/-- Every object comes from an element or a cell. -/
theorem object_comes (parsed : parse (some backend) config source mediaType bytes = .ok document) {o : DocumentObject}
    (member : o ∈ document.objects) : ∃ origin, ParserCall.Comes config source bytes (.mineru (some backend)) o origin := by
  obtain ⟨b, raw, elements, objects, same, handed, checked, each, tables, figures, blocks, references⟩ := parse_ok parsed
  cases same
  have turn (o : DocumentObject) (object : MineruObject) (listed : object ∈ objects)
      (turn : ∀ e n, objectOf source e n = .ok object → Turn source e o) :
      ∃ origin, ParserCall.Comes config source bytes (.mineru (some backend)) o origin := by
    obtain ⟨e, inElements, n, made⟩ := forall₂_right each listed
    exact ⟨.element e.pageNumber e.elementIndex, raw, elements, handed, checked, e, inElements, rfl, rfl, turn e n made⟩
  rcases mem_objects.mp member with ⟨b, known, rfl⟩ | ⟨t, known, rfl⟩ | ⟨f, known, rfl⟩ | ⟨r, known, -⟩ | ⟨t, known, c, inTable, rfl⟩
  · rw [blocks] at known
    obtain ⟨object, listed, shown⟩ := List.mem_filterMap.mp known
    refine turn _ object listed fun e n made => ⟨n, ?_⟩
    cases object <;> cases shown
    exact made
  · rw [tables] at known
    obtain ⟨object, listed, shown⟩ := List.mem_filterMap.mp known
    refine turn _ object listed fun e n made => ⟨n, ?_⟩
    cases object <;> cases shown
    exact made
  · rw [figures] at known
    obtain ⟨object, listed, shown⟩ := List.mem_filterMap.mp known
    refine turn _ object listed fun e n made => ⟨n, ?_⟩
    cases object <;> cases shown
    exact made
  · rw [references] at known
    cases known
  · rw [tables] at known
    obtain ⟨object, listed, shown⟩ := List.mem_filterMap.mp known
    obtain ⟨e, inElements, n, made⟩ := forall₂_right each listed
    cases object <;> cases shown
    obtain ⟨isTable, cells⟩ := objectOf_cells made
    obtain ⟨⟨cell, k⟩, found, celled⟩ := forall₂_right cells inTable
    exact ⟨.cell e.pageNumber e.elementIndex k, raw, elements, handed, checked, e, inElements, rfl, rfl, isTable, cell,
      List.mem_zipIdx_iff_getElem?.mp found, celled⟩

/-- The locators identify elements and cells exactly when their numbers are apart. -/
theorem identify_iff (parsed : parse (some backend) config source mediaType bytes = .ok document) :
    LocatorsIdentify config source bytes (.mineru (some backend)) document ↔
      ParserCall.NumbersApart config bytes (.mineru (some backend)) := by
  constructor
  · intro identify raw elements handed checked e given f given' a inE b inF apart page boxes same
    obtain ⟨o, known, comes, located⟩ := object_of_numbered parsed handed checked given inE
    obtain ⟨o', known', comes', located'⟩ := object_of_numbered parsed handed checked given' inF
    rw [same] at located
    exact identify.2 o known o' known' a.1 b.1 comes comes' apart (locate_same located located' page boxes)
  · intro numbers
    refine ⟨fun o member => object_comes parsed member, fun o _ o' _ origin origin' comes comes' apart same => ?_⟩
    obtain ⟨_, raw, elements, _, isBackend, handed, checked, -⟩ := parse_ok parsed
    cases isBackend
    obtain ⟨e, given, n, inE, located⟩ := numbered_of_comes handed checked comes
    obtain ⟨f, given', m, inF, located'⟩ := numbered_of_comes handed checked comes'
    obtain ⟨page, index, -, boxed⟩ := locate_ok located
    obtain ⟨page', index', -, boxed'⟩ := locate_ok located'
    rw [same] at page index boxed
    exact numbers raw elements handed checked e given f given' _ inE _ inF apart (Option.some.inj (page.symm.trans page'))
      (boxed.symm.trans boxed') (Option.some.inj (index.symm.trans index'))

end MineruParser

/-- The locators of a document identify source elements when the numbers of a MinerU result are apart; and the MinerU
parser gives an element, and each cell of a table, a locator when the box is in order and the cells' numbers are in range. -/
theorem locators_identify {call : ParserCall} (folds : FoldsSlash) (plain : call.PlainTags bytes) :
    (∀ document, call.run config source mediaType bytes = .ok document →
      (LocatorsIdentify config source bytes call document ↔ call.NumbersApart config bytes)) ∧
    ∀ backend raw elements id, call = .mineru (some backend) → backend.parse bytes = .ok raw →
      MineruParser.elementsOf config raw = .ok elements → validateArtifactId "artifact_id" source.display = .ok id →
      ∀ e ∈ elements, MineruParser.Assigned source e ↔ MineruParser.Boxed e ∧ MineruParser.CellsInRange e := by
  constructor
  · intro document returned
    cases call with
    | html => exact iff_of_true (HtmlParser.identify folds plain returned) trivial
    | xml jats => exact iff_of_true (XmlParser.identify folds plain returned) trivial
    | pdf => exact iff_of_true (PdfParser.identify returned) trivial
    | mineru backend =>
      obtain ⟨b, _, _, _, rfl, -⟩ := MineruParser.parse_ok returned
      exact MineruParser.identify_iff returned
  · intro backend raw elements id _ handed checked sourced e member
    obtain ⟨page, index⟩ := MineruParser.elementsOf_ok checked member
    exact MineruParser.assigned_iff sourced page index

end
end
end

/-! ### Numbers that meet -/

namespace Sample
attribute [local instance] standardSha256 asciiPrintable asciiDecimal asciiCase asciiNormal asciiWords noHtml noXml noPdf

/-- A table of one cell, the element of the page with this index. -/
def tableAt (index : Int) : PyValue := .arr [.named [("page_number", .int 1), ("element_index", .int index),
  ("type", .str (PyText.ofString "table")), ("cells", .arr [rawCell 0 0 1])]]

def tableBackend (index : Int) : MineruBackend := ⟨fun _ => .ok (tableAt index)⟩

def tableDocument (index : Int) : Except PyError CanonicalDocument :=
  ParserCall.run parserConfig sourceId (PyText.ofString "application/pdf") [] (.mineru (some (tableBackend index)))

/-- The elements are that table. -/
def isTableAt (index : Nat) : List MineruElement → Bool
  | [e] => e.pageNumber = 1 && e.elementIndex = index && oneOf ["table"] e.elementType && e.cells.length = 1
  | _ => false

theorem isTableAt_ok {index : Nat} {elements : List MineruElement} (holds : isTableAt index elements = true) :
    ∃ e, elements = [e] ∧ MineruParser.numbered e = [(.element 1 index, index), (.cell 1 index 0, index * 1000)] ∧
      oneOf ["table"] e.elementType = true ∧ e.elementIndex = index ∧ e.cells.length = 1 := by
  unfold isTableAt at holds
  split at holds
  · rename_i e
    simp only [Bool.and_eq_true, decide_eq_true_eq] at holds
    obtain ⟨⟨⟨page, at_index⟩, isTable⟩, one⟩ := holds
    refine ⟨e, rfl, ?_, isTable, at_index, one⟩
    rw [MineruParser.numbered_table isTable, page, at_index, one]
    simp [MineruParser.cellNumber, at_index]
  · cases holds

theorem tableAt_checked (index : Nat) (passes : (MineruParser.elementsOf parserConfig (tableAt index)).toOption.any (isTableAt index) = true) :
    ∃ e, MineruParser.elementsOf parserConfig (tableAt index) = .ok [e] ∧
      MineruParser.numbered e = [(.element 1 index, index), (.cell 1 index 0, index * 1000)] ∧
      oneOf ["table"] e.elementType = true ∧ e.elementIndex = index ∧ e.cells.length = 1 := by
  obtain ⟨elements, checked, shown⟩ := ok_of_any passes
  obtain ⟨e, rfl, facts⟩ := isTableAt_ok shown
  exact ⟨e, checked, facts⟩

theorem locators_identify_table : ∃ document e id, tableDocument 7 = .ok document ∧
    MineruParser.elementsOf parserConfig (tableAt 7) = .ok [e] ∧ validateArtifactId "artifact_id" sourceId.display = .ok id ∧
    (LocatorsIdentify parserConfig sourceId [] (.mineru (some (tableBackend 7))) document ↔
      ParserCall.NumbersApart parserConfig [] (.mineru (some (tableBackend 7)))) ∧
    (MineruParser.Assigned sourceId e ↔ MineruParser.Boxed e ∧ MineruParser.CellsInRange e) := by
  obtain ⟨document, returned⟩ : ∃ document, tableDocument 7 = .ok document := ok_of_some (by decide +kernel)
  obtain ⟨e, checked, -⟩ := tableAt_checked 7 (by decide +kernel)
  obtain ⟨id, sourced⟩ : ∃ id, validateArtifactId "artifact_id" sourceId.display = .ok id := ok_of_some (by decide +kernel)
  have plain : ParserCall.PlainTags [] (.mineru (some (tableBackend 7))) := trivial
  obtain ⟨identify, assigned⟩ : (∀ document, tableDocument 7 = .ok document → _) ∧ _ := locators_identify asciiCase_slash plain
  exact ⟨document, e, id, returned, checked, sourced, identify document returned,
    assigned _ _ _ id rfl rfl checked sourced e (List.mem_singleton.mpr rfl)⟩

/-- The first element is a table: its first cell has its number. And the cells of a table far behind have none. -/
theorem locators_meet : (∃ document, tableDocument 0 = .ok document ∧
      ¬LocatorsIdentify parserConfig sourceId [] (.mineru (some (tableBackend 0))) document) ∧
    ∃ e, MineruParser.elementsOf parserConfig (tableAt 10001) = .ok [e] ∧ ¬MineruParser.Assigned sourceId e := by
  constructor
  · obtain ⟨document, returned⟩ : ∃ document, tableDocument 0 = .ok document := ok_of_some (by decide +kernel)
    obtain ⟨e, checked, numbers, -⟩ := tableAt_checked 0 (by decide +kernel)
    refine ⟨document, returned, fun identify => ?_⟩
    rw [tableDocument, ParserCall.run] at returned
    have given : e ∈ [e] := List.mem_singleton.mpr rfl
    have apart := (MineruParser.identify_iff returned).mp identify (tableAt 0) [e] rfl checked e given e given
    rw [numbers] at apart
    exact apart (.element 1 0, 0) (by simp) (.cell 1 0 0, 0) (by simp) (by simp) rfl rfl rfl
  · obtain ⟨e, checked, -, isTable, index, one⟩ := tableAt_checked 10001 (by decide +kernel)
    refine ⟨e, checked, fun assigned => ?_⟩
    obtain ⟨l, located⟩ := assigned.2 isTable 0 (by omega)
    obtain ⟨_, low, -⟩ := bind_ok.mp located
    rw [ensure_ok, decide_eq_true_eq, MineruParser.cellNumber, index] at low
    omega

end Sample
end Molly
