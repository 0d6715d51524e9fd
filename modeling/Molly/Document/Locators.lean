import Molly.Document.Origins

/-! Locators and the source elements they stand for. -/
namespace Molly
open Effect (RoseTree Step Place)

section
variable [CaseText] [NormalText] [PrintableText] [DecimalText] [WordText] [Sha256]

/-! ### The locator of an object is that of its element -/

section
variable {config : DocumentParserConfig} {source : PyText} {root p q : Place Element} {sections : SectionIds}

omit [CaseText] [NormalText] [DecimalText] [WordText] [Sha256] [PrintableText] in
theorem CanonicalBlock.create_ok {id : Identifier} {kind : CanonicalBlockKind} {text : PyText} {sectionId : Option Identifier}
    {locator : SourceLocator} {b : CanonicalBlock} (made : CanonicalBlock.create id kind text sectionId locator = .ok b) :
    b.kind = kind ∧ b.text = text ∧ b.sectionId = sectionId ∧ b.locator = locator := by
  unfold CanonicalBlock.create at made
  split at made
  · cases made
    exact ⟨rfl, rfl, rfl, rfl⟩
  · cases made

omit [CaseText] [NormalText] [DecimalText] [WordText] [Sha256] [PrintableText] in
theorem CanonicalFigure.create_ok {id : Identifier} {label caption : Option PyText} {locator : SourceLocator} {f : CanonicalFigure}
    (made : CanonicalFigure.create id label caption locator = .ok f) : f.locator = locator := by
  unfold CanonicalFigure.create at made
  split at made
  · split at made
    · cases made
      rfl
    · cases made
  · cases made

omit [CaseText] [NormalText] [DecimalText] [WordText] [Sha256] [PrintableText] in
theorem CanonicalReference.create_ok {id : Identifier} {text : PyText} {identifier : Option PyText} {locator : SourceLocator}
    {r : CanonicalReference} (made : CanonicalReference.create id text identifier locator = .ok r) : r.locator = locator := by
  unfold CanonicalReference.create at made
  split at made
  · split at made
    · cases made
      rfl
    · cases made
  · split at made <;> cases made

omit [DecimalText] [WordText] in
/-- What a turn of the loop over the elements makes. -/
theorem HtmlParser.blockOf_ok {title : Option (Place Element)} {n : Nat} {b : CanonicalBlock}
    (made : blockOf config source root sections title n p = .ok (some b)) :
    blockKind title p = some b.kind ∧ safeText config "HTML block" false p.tree = .ok b.text ∧
      locate source root p = .ok b.locator ∧ b.sectionId = nearestSectionId sections p := by
  unfold blockOf at made
  cases kinded : blockKind title p with
  | none =>
    rw [kinded] at made
    cases made
  | some kind =>
    rw [kinded] at made
    obtain ⟨text, written, made⟩ := bind_ok.mp made
    split at made
    · cases made
    · obtain ⟨locator, located, made⟩ := bind_ok.mp made
      obtain ⟨id, -, made⟩ := bind_ok.mp made
      obtain ⟨b', created, made⟩ := bind_ok.mp made
      cases made
      obtain ⟨kind', text', section', locator'⟩ := CanonicalBlock.create_ok created
      rw [kind', text', section', locator']
      exact ⟨rfl, written, located, rfl⟩

theorem HtmlParser.Turn.located {o : DocumentObject} (turn : HtmlParser.Turn config source root sections p o) :
    locateAt .htmlElement source root p = .ok o.locator := by
  cases o with
  | block b =>
    obtain ⟨n, made⟩ := turn
    exact (blockOf_ok made).2.2.1
  | table t =>
    obtain ⟨n, made⟩ := turn
    exact (tableOf_ok made).located
  | figure f =>
    obtain ⟨n, made⟩ := turn
    obtain ⟨locator, located, made⟩ := bind_ok.mp made
    obtain ⟨_, -, made⟩ := bind_ok.mp made
    obtain ⟨_, -, made⟩ := bind_ok.mp made
    rw [DocumentObject.locator, CanonicalFigure.create_ok made]
    exact located
  | reference r =>
    obtain ⟨n, made⟩ := turn
    unfold referenceOf at made
    split at made
    · obtain ⟨_, -, made⟩ := bind_ok.mp made
      obtain ⟨locator, located, made⟩ := bind_ok.mp made
      obtain ⟨_, -, made⟩ := bind_ok.mp made
      obtain ⟨r', created, made⟩ := bind_ok.mp made
      cases made
      rw [DocumentObject.locator, CanonicalReference.create_ok created]
      exact located
    · cases made
  | cell c => exact CellRules.Makes.located turn

theorem XmlParser.Turn.located {o : DocumentObject} (turn : XmlParser.Turn config source root sections p o) :
    locateAt .xmlElement source root p = .ok o.locator := by
  cases o with
  | block b => exact turn.2.1
  | table t =>
    obtain ⟨n, made⟩ := turn
    exact (tableOf_ok made).located
  | figure f =>
    obtain ⟨n, made⟩ := turn
    obtain ⟨locator, located, made⟩ := bind_ok.mp made
    obtain ⟨_, -, made⟩ := bind_ok.mp made
    obtain ⟨_, -, made⟩ := bind_ok.mp made
    obtain ⟨_, -, made⟩ := bind_ok.mp made
    rw [DocumentObject.locator, CanonicalFigure.create_ok made]
    exact located
  | reference r =>
    obtain ⟨n, made⟩ := turn
    obtain ⟨_, -, made⟩ := bind_ok.mp made
    obtain ⟨locator, located, made⟩ := bind_ok.mp made
    obtain ⟨_, -, made⟩ := bind_ok.mp made
    rw [DocumentObject.locator, CanonicalReference.create_ok made]
    exact located
  | cell c => exact CellRules.Makes.located turn

omit [NormalText] [DecimalText] [WordText] [Sha256] in
/-- The locators of different places differ. -/
theorem locateAt_injective {kind : SourceLocatorKind} {l : SourceLocator} (filled : root ≠ []) (plain : PlainNames root)
    (left : Place.Under root p) (right : Place.Under root q) (located : locateAt kind source root p = .ok l)
    (located' : locateAt kind source root q = .ok l) : p = q := by
  have same := (locateAt_path located).symm.trans (locateAt_path located')
  exact structuralPath_injective filled plain left right (Option.some.inj same)

end

omit [NormalText] [DecimalText] [WordText] [Sha256] [CaseText] [PrintableText] in
theorem SourceLocator.boundedNat_nat {low high n : Nat} {message : String} {found : Option Nat}
    (read : boundedNat low high message (.int n) = .ok found) : found = some n := by
  unfold boundedNat at read
  dsimp only at read
  split at read
  · rw [Except.ok.injEq] at read
    rw [← read, Int.toNat_natCast]
  · cases read

/-! ### Locators identify source elements -/

section
variable [HtmlLibrary] [XmlLibrary] [PdfLibrary]

/-- The names the library reports hold no slash. -/
def ParserCall.PlainTags (bytes : Bytes) : ParserCall → Prop
  | .html => ∀ text, HtmlLibrary.PlainTags text
  | .xml _ => XmlLibrary.PlainTags bytes
  | .pdf | .mineru _ => True

section
variable {config : DocumentParserConfig} {source mediaType : PyText} {bytes : Bytes} {document : CanonicalDocument}

/-- Objects whose locators are the paths of their elements are told apart by them. -/
theorem identify_of_places {call : ParserCall} (kind : SourceLocatorKind) {root : Place Element} (filled : root ≠ [])
    (names : PlainNames root) (each : ∀ o ∈ document.objects, ∃ e, call.Comes config source bytes o e)
    (located : ∀ o e, call.Comes config source bytes o e →
      ∃ p, e = .place p ∧ Place.Under root p ∧ locateAt kind source root p = .ok o.locator) :
    LocatorsIdentify config source bytes call document := by
  refine ⟨each, fun o _ o' _ e e' comes comes' apart same => ?_⟩
  obtain ⟨p, rfl, under, found⟩ := located o e comes
  obtain ⟨q, rfl, under', found'⟩ := located o' e' comes'
  rw [same] at found
  exact apart (congrArg _ (locateAt_injective filled names under under' found found'))

theorem HtmlParser.identify (folds : FoldsSlash) (plain : ∀ text, HtmlLibrary.PlainTags text)
    (parsed : parse config source mediaType bytes = .ok document) : LocatorsIdentify config source bytes .html document := by
  obtain ⟨root, sections, tree, extracted⟩ := parse_ok parsed
  obtain ⟨filled, names⟩ := plainNames folds plain tree
  refine identify_of_places .htmlElement filled names (fun o member => ?_) fun o e comes => ?_
  · obtain ⟨p, under, turn⟩ := turn_of_object extracted filled member
    exact ⟨.place p, root, sections, tree, extracted.sections, under, turn⟩
  · cases e with
    | place p =>
      obtain ⟨_, _, tree', _, under, turn⟩ := comes
      cases tree.symm.trans tree'
      exact ⟨p, rfl, under, turn.located⟩
    | _ => cases comes

theorem XmlParser.identify {jats : Bool} (folds : FoldsSlash) (plain : XmlLibrary.PlainTags bytes)
    (parsed : (parse config source mediaType jats bytes).1 = .ok document) :
    LocatorsIdentify config source bytes (.xml jats) document := by
  obtain ⟨root, sections, tree, extracted⟩ := parse_ok parsed
  obtain ⟨filled, names⟩ := plainNames folds plain tree
  refine identify_of_places .xmlElement filled names (fun o member => ?_) fun o e comes => ?_
  · obtain ⟨p, under, turn⟩ := turn_of_object extracted filled member
    exact ⟨.place p, root, sections, tree, extracted.sections, under, turn⟩
  · cases e with
    | place p =>
      obtain ⟨_, _, tree', _, under, turn⟩ := comes
      cases tree.symm.trans tree'
      exact ⟨p, rfl, under, turn.located⟩
    | _ => cases comes

omit [DecimalText] [WordText] [HtmlLibrary] [XmlLibrary] [PdfLibrary] in
theorem PdfParser.pageOf_ok {i : Nat} {text : Option PyText} {b : CanonicalBlock} (made : pageOf source i text = .ok (some b)) :
    b.locator.pageNumber = some (i + 1) := by
  cases text with
  | none => cases made
  | some text =>
    obtain ⟨normal, -, made⟩ := bind_ok.mp made
    split at made
    · cases made
    · obtain ⟨locator, located, made⟩ := bind_ok.mp made
      obtain ⟨_, -, made⟩ := bind_ok.mp made
      obtain ⟨b', created, made⟩ := bind_ok.mp made
      cases made
      rw [(CanonicalBlock.create_ok created).2.2.2]
      obtain ⟨-, -, ⟨_, paged⟩, -⟩ := SourceLocator.create_ok located
      exact SourceLocator.boundedNat_nat paged

theorem PdfParser.identify (parsed : parse config source mediaType bytes = .ok document) :
    LocatorsIdentify config source bytes .pdf document := by
  obtain ⟨tables, figures, references, pages, opened, fault, gathered⟩ := parse_ok parsed
  constructor
  · intro o member
    rcases mem_objects.mp member with ⟨b, known, rfl⟩ | ⟨t, known, -⟩ | ⟨f, known, -⟩ | ⟨r, known, -⟩ | ⟨t, known, -⟩
    · obtain ⟨given, shown, each⟩ := gather_ok gathered
      have listed : some b ∈ given := by simpa [shown] using known
      obtain ⟨item, inPages, made⟩ := forall₂_right each listed
      exact ⟨.page item.2, pages, item.1, opened, List.mem_zipIdx_iff_getElem?.mp inPages, made⟩
    · rw [tables] at known
      cases known
    · rw [figures] at known
      cases known
    · rw [references] at known
      cases known
    · rw [tables] at known
      cases known
  · intro o _ o' _ e e' comes comes' apart same
    cases e with
    | page i =>
      cases e' with
      | page j =>
        cases o with
        | block b =>
          cases o' with
          | block b' =>
            obtain ⟨_, text, -, -, made⟩ := comes
            obtain ⟨_, text', -, -, made'⟩ := comes'
            have number := pageOf_ok made
            have locators : b.locator = b'.locator := same
            rw [locators, pageOf_ok made'] at number
            have equal : j = i := by simpa using number
            exact apart (congrArg SourceElement.page equal.symm)
          | _ => cases comes'
        | _ => cases comes
      | _ => cases o' <;> cases comes'
    | _ => cases o <;> cases comes

end
end
end
end Molly
