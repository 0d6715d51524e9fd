import Molly.Document.Common

/-! The PDF text parser: one block for each page with text. -/
namespace Molly

/-- `pdfplumber`, when it is installed: the texts of the pages of a file it opens; no text for a page whose
extraction raises. -/
class PdfLibrary where
  available : Bool
  pages : Bytes → Option (List (Option PyText))

namespace PdfParser
variable [CaseText] [NormalText] [PrintableText] [Sha256]

/-- One turn of the loop over the pages. -/
def pageOf (source : PyText) (index : Nat) : Option PyText → Except PyError (Option CanonicalBlock)
  | none => .error ⟨.valueError, "the text of a page cannot be extracted"⟩
  | some extracted => do
    let text ← normalizeText "PDF page text" 1000000 extracted
    if text = [] then return none
    else
      let locator ← SourceLocator.create source (.str (PyText.ofString "PDF_PAGE")) none (.int (index + 1 : Nat)) .null none
      let blockId ← deterministicObjectId .block source "pdf_page" index locator
      let made ← CanonicalBlock.create blockId .otherText text none locator
      return some made

/-- The guarded block: the blocks, and how many pages there are. -/
def blocksOf [PdfLibrary] (config : DocumentParserConfig) (source : PyText) (bytes : Bytes) :
    Except PyError (List CanonicalBlock × Nat) :=
  let failed : PyError := malformedError "PDF text extraction failed"
  match PdfLibrary.pages bytes with
  | none => .error failed
  | some pages =>
    if config.maxPageCount < pages.length then .error (malformedError "PDF page count exceeds the configured limit")
    else
      match gather config.maxBlocks (malformedError "PDF block count exceeds the configured limit") (pageOf source) 0 [] pages with
      | .error e => .error (if e.cls = .malformedDocument then e else failed)
      | .ok blocks => .ok (blocks, pages.length)

/-- `PdfTextParser.parse`. -/
def parse [PdfLibrary] (config : DocumentParserConfig) (source mediaType : PyText) (bytes : Bytes) :
    Except PyError CanonicalDocument := do
  ensureSourceLimit config bytes.length
  ensure PdfLibrary.available ⟨.parserUnavailable, "the optional PDF text parser is unavailable"⟩
  let (blocks, pageCount) ← blocksOf config source bytes
  let chars := (blocks.map fun b => b.text.length).sum
  let enough := config.pdfMinTextChars ≤ chars
  let quality ← ParserQuality.create (if enough then .good else .insufficient) chars blocks.length 0 pageCount
    (blocks.filterMap fun b => b.locator.pageNumber) (if enough then [] else [⟨"TEXT_BELOW_THRESHOLD", by decide⟩])
  buildDocument config source mediaType .pdfText ⟨none, none, [], [], blocks, [], [], []⟩ quality

end PdfParser
end Molly
