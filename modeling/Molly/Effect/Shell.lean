import Mathlib.Data.List.Basic

/-! The words that a POSIX shell makes of a line, and quoting, which makes one word of any text. -/
namespace Effect.Shell

/-- How a shell takes characters: blanks end words, plain ones stand for themselves everywhere,
literal ones at least between double marks. Whatever could mean more is none of these. -/
structure Lexicon (α : Type) where
  blank : α → Bool
  plain : α → Bool
  literal : α → Bool
  apostrophe : α
  mark : α
  plain_word : ∀ c, plain c = true → blank c = false ∧ c ≠ apostrophe ∧ c ≠ mark
  apostrophe_word : blank apostrophe = false
  mark_word : blank mark = false
  apart : apostrophe ≠ mark
  literal_apostrophe : literal apostrophe = true

/-- Where a reader is: between words, in one, or in a quotation inside of one. -/
inductive Place (α : Type) where
  | between
  | word (read : List α)
  | single (read : List α)
  | double (read : List α)

structure Reader (α : Type) where
  words : List (List α)
  place : Place α

def Reader.start : Reader α := ⟨[], .between⟩

def Reader.finish (r : Reader α) : Option (List (List α)) :=
  match r.place with
  | .between => some r.words
  | .word read => some (r.words ++ [read])
  | .single _ | .double _ => none

namespace Lexicon
variable {α : Type} [DecidableEq α] (x : Lexicon α)

/-- A character of a word, outside of quotations. -/
def enter (words : List (List α)) (read : List α) (c : α) : Option (Reader α) :=
  if c = x.apostrophe then some ⟨words, .single read⟩
  else if c = x.mark then some ⟨words, .double read⟩
  else if x.plain c then some ⟨words, .word (read ++ [c])⟩
  else none

def step (r : Reader α) (c : α) : Option (Reader α) :=
  match r.place with
  | .between => if x.blank c then some r else x.enter r.words [] c
  | .word read => if x.blank c then some ⟨r.words ++ [read], .between⟩ else x.enter r.words read c
  | .single read =>
    if c = x.apostrophe then some ⟨r.words, .word read⟩ else some ⟨r.words, .single (read ++ [c])⟩
  | .double read =>
    if c = x.mark then some ⟨r.words, .word read⟩
    else if x.literal c then some ⟨r.words, .double (read ++ [c])⟩
    else none

/-- The words of a line; nothing where the shell would do more than split it. -/
def split (line : List α) : Option (List (List α)) := (line.foldlM x.step .start).bind Reader.finish

/-- A character of a quoted text: an apostrophe leaves the quotation and stands between marks. -/
def escape (c : α) : List α :=
  if c = x.apostrophe then [x.apostrophe, x.mark, x.apostrophe, x.mark, x.apostrophe] else [c]

def quote (text : List α) : List α :=
  if text ≠ [] ∧ text.all x.plain = true then text
  else [x.apostrophe] ++ text.flatMap x.escape ++ [x.apostrophe]

/-- Quoted texts, separated by a character. -/
def join (separator : α) (texts : List (List α)) : List α := List.intercalate [separator] (texts.map x.quote)

theorem quote_plain {text : List α} (filled : text ≠ []) (plain : text.all x.plain = true) : x.quote text = text :=
  if_pos ⟨filled, plain⟩

end Lexicon
end Effect.Shell
