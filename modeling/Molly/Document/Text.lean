import Molly.Effect.Words
import Molly.Oled.Texts

/-! The normalization of source text: line ends, canonical composition, and blanks. -/
namespace Molly
open Effect (spaced squeeze)

/-- `str.isspace` on one code point. -/
def isBlank (p : CodePoint) : Bool := isSpace p.toChar

/-- `unicodedata.normalize("NFC", text)`. A blank composes with nothing, so the words are composed one by one. -/
class NormalText where
  nfc : PyText → PyText
  words_nfc : ∀ text, Effect.words isBlank (nfc text) = (Effect.words isBlank text).map nfc

export NormalText (nfc)

/-- ASCII text is composed already; the examples use no other characters. -/
@[reducible] def asciiNormal : NormalText := ⟨id, fun _ => (List.map_id _).symm⟩

namespace PyText

def words (text : PyText) : List PyText := Effect.words isBlank text

/-- `value.replace("\r\n", "\n").replace("\r", "\n")`, told whether a carriage return stands before. -/
def lineFeeds : Bool → PyText → PyText
  | _, [] => []
  | after, p :: rest =>
    if p = 13 then 10 :: lineFeeds true rest
    else if after && p = 10 then lineFeeds false rest
    else p :: lineFeeds false rest

/-- `re.sub(r"\s+", " ", value)`. -/
def collapse (text : PyText) : PyText := squeeze isBlank 32 false text

/-- `" ".join(parts)`. -/
def joinSpaced (parts : List PyText) : PyText := spaced 32 parts

theorem isBlank_space : isBlank 32 = true := by decide

theorem squeeze_lineFeeds (text : PyText) : (∀ flag, squeeze isBlank 32 flag (lineFeeds false text) = squeeze isBlank 32 flag text) ∧
    squeeze isBlank 32 true (lineFeeds true text) = squeeze isBlank 32 true text := by
  have carriage : isBlank 13 = true := by decide
  have feed : isBlank 10 = true := by decide
  induction text with
  | nil => exact ⟨fun _ => rfl, rfl⟩
  | cons p rest ih =>
    obtain ⟨fresh, after⟩ := ih
    by_cases isReturn : p = 13
    · subst isReturn
      constructor
      · intro flag
        rw [lineFeeds, if_pos rfl, squeeze, squeeze, if_pos feed, if_pos carriage, after]
      · rw [lineFeeds, if_pos rfl, squeeze, squeeze, if_pos feed, if_pos carriage, after]
    · constructor
      · intro flag
        rw [lineFeeds, if_neg isReturn, if_neg (by simp), squeeze, squeeze, fresh, fresh]
      · rw [lineFeeds, if_neg isReturn]
        by_cases isFeed : p = 10
        · subst isFeed
          rw [if_pos (by simp), squeeze, if_pos feed, if_pos rfl, fresh]
        · rw [if_neg (by simp [isFeed]), squeeze, squeeze, fresh, fresh]

@[simp] theorem words_lineFeeds (text : PyText) : (lineFeeds false text).words = text.words := by
  have same := congrArg (Effect.words isBlank) ((squeeze_lineFeeds text).1 false)
  rwa [Effect.words_squeeze isBlank_space, Effect.words_squeeze isBlank_space] at same

@[simp] theorem words_joinSpaced (parts : List PyText) : (joinSpaced parts).words = parts.flatMap words :=
  Effect.words_spaced isBlank_space parts

theorem strip_collapse (text : PyText) : (collapse text).strip = joinSpaced text.words :=
  Effect.trim_squeeze isBlank_space text

end PyText

section
variable [NormalText]

/-- `normalize_text`. -/
def normalizeText (field : String) (maximum : Nat) (value : PyText) : Except PyError PyText :=
  let value := (nfc (value.lineFeeds false)).collapse.strip
  if value.hasNul || maximum < value.length then .error ⟨.documentLimit, field ++ " exceeds the normalized text limit"⟩
  else .ok value

/-- The composed words of a text, which its normal form holds and which make it up. -/
def normalWords (value : PyText) : List PyText := value.words.map nfc

theorem normalWords_eq (value : PyText) : normalWords value = (nfc (value.lineFeeds false)).words := by
  rw [PyText.words, NormalText.words_nfc]
  exact congrArg (List.map nfc) (PyText.words_lineFeeds value).symm

theorem normalWords_solid {value w : PyText} (member : w ∈ normalWords value) : w.words = [w] := by
  rw [normalWords_eq] at member
  exact Effect.words_of_solid (Effect.mem_words member).1 (Effect.mem_words member).2

@[simp] theorem normalWords_joinSpaced (parts : List PyText) :
    normalWords (PyText.joinSpaced parts) = parts.flatMap normalWords := by
  rw [normalWords, PyText.words_joinSpaced, List.map_flatMap]
  rfl

/-- A normal form is the composed words, one space between them. -/
theorem normalizeText_ok {field : String} {maximum : Nat} {value text : PyText}
    (normal : normalizeText field maximum value = .ok text) : text = PyText.joinSpaced (normalWords value) := by
  rw [normalizeText, PyText.strip_collapse, ← normalWords_eq] at normal
  split at normal
  · cases normal
  · exact (Except.ok.inj normal).symm

/-- Texts made of the same words are normalized alike. -/
theorem normalizeText_congr {field : String} {maximum : Nat} {value value' : PyText} (same : normalWords value = normalWords value') :
    normalizeText field maximum value = normalizeText field maximum value' := by
  simp only [normalizeText, PyText.strip_collapse, ← normalWords_eq, same]

theorem normalizeText_fits {field : String} {maximum : Nat} {value text : PyText}
    (normal : normalizeText field maximum value = .ok text) : text.length ≤ maximum ∧ text.hasNul = false := by
  rw [normalizeText] at normal
  split at normal
  · cases normal
  · rename_i fits
    obtain rfl := Except.ok.inj normal
    simp only [Bool.or_eq_true, decide_eq_true_eq, not_or, Bool.not_eq_true, Nat.not_lt] at fits
    exact ⟨fits.2, fits.1⟩

theorem words_normalizeText {field : String} {maximum : Nat} {value text : PyText}
    (normal : normalizeText field maximum value = .ok text) : text.words = normalWords value := by
  rw [normalizeText_ok normal]
  exact Effect.words_spaced_solid PyText.isBlank_space fun _ member => normalWords_solid member

/-- Two normal forms are equal when they are made of the same words. -/
theorem normalizeText_eq_iff {field field' : String} {maximum maximum' : Nat} {value value' text text' : PyText}
    (one : normalizeText field maximum value = .ok text) (other : normalizeText field' maximum' value' = .ok text') :
    text = text' ↔ normalWords value = normalWords value' := by
  constructor
  · rintro rfl
    rw [← words_normalizeText one, words_normalizeText other]
  · intro same
    rw [normalizeText_ok one, normalizeText_ok other, same]

/-- A normal form is empty when the text has no word. -/
theorem normalizeText_eq_nil {field : String} {maximum : Nat} {value text : PyText}
    (normal : normalizeText field maximum value = .ok text) : text = [] ↔ normalWords value = [] := by
  rw [← words_normalizeText normal]
  constructor
  · rintro rfl
    rfl
  · intro none
    rw [normalizeText_ok normal, ← words_normalizeText normal, none]
    rfl

end
end Molly
