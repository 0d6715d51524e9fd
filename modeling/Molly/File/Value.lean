import Molly.Core.Lineage
import Molly.Effect.SortedMap

/-! Values as `json.loads` makes them from the bytes of a file. Their texts are sequences
of code points, which an escape can make a surrogate; a record's own strings have none. -/
namespace Molly
open Effect (chars)

abbrev CodePoint := Fin 1114112

instance neZero_codePoints : NeZero 1114112 := ⟨by decide⟩

abbrev PyText := List CodePoint

instance : LawfulBEq CodePoint := inferInstance

instance : LawfulBEq PyText := inferInstance

namespace CodePoint

def ofChar (c : Char) : CodePoint := ⟨c.toNat, by
  have valid := c.valid
  simp only [UInt32.isValidChar, Nat.isValidChar] at valid
  have same : c.toNat = c.val.toNat := rfl
  omega⟩

def isHigh (p : CodePoint) : Bool := 0xD800 ≤ p.val && p.val ≤ 0xDBFF
def isLow (p : CodePoint) : Bool := 0xDC00 ≤ p.val && p.val ≤ 0xDFFF
def isSurrogate (p : CodePoint) : Bool := p.isHigh || p.isLow

/-- The character of a code point; no check of a record tells a surrogate from `U+FFFD`. -/
def toChar (p : CodePoint) : Char := if p.isSurrogate then '\uFFFD' else Char.ofNat p.val

theorem ofChar_scalar (c : Char) : (ofChar c).isSurrogate = false := by
  have valid := c.valid
  simp only [UInt32.isValidChar, Nat.isValidChar] at valid
  have same : (ofChar c).val = c.val.toNat := rfl
  simp only [isSurrogate, isHigh, isLow, same, Bool.or_eq_false_iff, Bool.and_eq_false_iff, decide_eq_false_iff_not]
  omega

@[simp] theorem toChar_ofChar (c : Char) : (ofChar c).toChar = c := by
  have same : Char.ofNat (ofChar c).val = c := Char.ofNat_toNat c
  simp [toChar, ofChar_scalar, same]

theorem toNat_ofNat {n : Nat} (valid : n.isValidChar) : (Char.ofNat n).toNat = n := by
  rw [Char.ofNat, dif_pos valid]
  rfl

theorem ofChar_injective {c d : Char} (same : ofChar c = ofChar d) : c = d := by
  rw [← toChar_ofChar c, same, toChar_ofChar]

end CodePoint

namespace PyText

def ofString (s : String) : PyText := (chars s).map CodePoint.ofChar

def display (text : PyText) : String := String.ofList (text.map CodePoint.toChar)

@[simp] theorem display_ofString (s : String) : (ofString s).display = s := by
  have same : CodePoint.toChar ∘ CodePoint.ofChar = id := funext CodePoint.toChar_ofChar
  simp [ofString, display, same]

/-- A text that shows no replacement character is the text it shows. -/
theorem ofString_display {text : PyText} (shown : ∀ c ∈ text.display.toList, c ≠ '\uFFFD') : ofString text.display = text := by
  have point (p : CodePoint) (member : p ∈ text) : CodePoint.ofChar p.toChar = p := by
    have visible : p.toChar ≠ '\uFFFD' := shown _ (by
      rw [display, String.toList_ofList]
      exact List.mem_map_of_mem member)
    unfold CodePoint.toChar at visible ⊢
    split
    · rename_i surrogate
      rw [if_pos surrogate] at visible
      exact absurd rfl visible
    · rename_i scalar
      have valid : Nat.isValidChar p.val := by
        simp only [CodePoint.isSurrogate, CodePoint.isHigh, CodePoint.isLow, Bool.or_eq_true, Bool.and_eq_true,
          decide_eq_true_eq] at scalar
        have bound := p.isLt
        simp only [Nat.isValidChar]
        omega
      apply Fin.ext
      simp [CodePoint.ofChar, CodePoint.toNat_ofNat, valid]
  rw [ofString, display, Effect.chars_eq, String.toList_ofList, List.map_map]
  exact (List.map_congr_left point).trans (List.map_id text)

theorem ofString_injective {s t : String} (same : ofString s = ofString t) : s = t := by
  rw [← display_ofString s, same, display_ofString]

@[simp] theorem ofString_inj {s t : String} : ofString s = ofString t ↔ s = t :=
  ⟨ofString_injective, congrArg ofString⟩

/-- No surrogate pair stands in the text as two code points, as is so of every text a
reader makes, which joins the pairs it meets. -/
def Unpaired : PyText → Prop
  | p :: q :: rest => ¬(p.isHigh = true ∧ q.isLow = true) ∧ Unpaired (q :: rest)
  | _ => True

/-- A sequence of Unicode scalar values. -/
def Scalar (text : PyText) : Prop := ∀ p ∈ text, p.isSurrogate = false

theorem Scalar.unpaired : ∀ {text : PyText}, text.Scalar → text.Unpaired
  | [], _ => trivial
  | [_], _ => trivial
  | p :: q :: rest, scalar => by
    refine ⟨?_, Scalar.unpaired fun r member => scalar r (List.mem_cons_of_mem _ member)⟩
    rintro ⟨high, _⟩
    have plain := scalar p List.mem_cons_self
    simp [CodePoint.isSurrogate, high] at plain

theorem ofString_scalar (s : String) : (ofString s).Scalar := by
  intro p member
  obtain ⟨c, _, rfl⟩ := List.mem_map.mp member
  exact CodePoint.ofChar_scalar c

/-- Texts are ordered by their code points. -/
def lt : PyText → PyText → Bool
  | [], [] | _ :: _, [] => false
  | [], _ :: _ => true
  | a :: as, b :: bs => decide (a.val < b.val) || (a = b && lt as bs)

theorem lt_irrefl : ∀ a : PyText, lt a a = false
  | [] => rfl
  | a :: as => by simp [lt, lt_irrefl as]

theorem lt_trans : ∀ {a b c : PyText}, lt a b = true → lt b c = true → lt a c = true
  | [], _ :: _, _ :: _, _, _ => rfl
  | a :: as, b :: bs, c :: cs, first, second => by
    simp only [lt, Bool.or_eq_true, decide_eq_true_eq, Bool.and_eq_true] at first second ⊢
    rcases first with less | ⟨rfl, less⟩ <;> rcases second with less' | ⟨rfl, less'⟩
    · exact Or.inl (Nat.lt_trans less less')
    · exact Or.inl less
    · exact Or.inl less'
    · exact Or.inr ⟨rfl, lt_trans less less'⟩

theorem lt_total : ∀ {a b : PyText}, a ≠ b → lt a b = true ∨ lt b a = true
  | [], [], different => absurd rfl different
  | [], _ :: _, _ => Or.inl rfl
  | _ :: _, [], _ => Or.inr rfl
  | a :: as, b :: bs, different => by
    simp only [lt, Bool.or_eq_true, decide_eq_true_eq, Bool.and_eq_true]
    rcases Nat.lt_trichotomy a.val b.val with less | same | less
    · exact Or.inl (Or.inl less)
    · obtain rfl := Fin.ext same
      have apart : as ≠ bs := fun same => different (by rw [same])
      rcases lt_total apart with less | less
      · exact Or.inl (Or.inr ⟨rfl, less⟩)
      · exact Or.inr (Or.inr ⟨rfl, less⟩)
    · exact Or.inr (Or.inl less)

end PyText

def keyOrder : Effect.SortedMap.Ordering PyText := ⟨PyText.lt, PyText.lt_irrefl, PyText.lt_trans, PyText.lt_total⟩

/-! ### Values -/

inductive NonFinite where
  | nan | infinity | negativeInfinity
  deriving DecidableEq

inductive PyValue where
  | null
  | bool (value : Bool)
  | int (value : Int)
  | float (value : FiniteFloat)
  | nonFinite (value : NonFinite)
  | str (text : PyText)
  | arr (items : List PyValue)
  | obj (fields : List (PyText × PyValue))

abbrev PyFields := List (PyText × PyValue)

mutual
/-- A record's value as a Python value. -/
def PyValue.ofJson : Json → PyValue
  | .null => .null
  | .bool b => .bool b
  | .int n => .int n
  | .float x => .float x
  | .str s => .str (PyText.ofString s)
  | .arr items => .arr (PyValue.ofItems items)
  | .obj fields => .obj (PyValue.ofFields fields)

def PyValue.ofItems : List Json → List PyValue
  | [] => []
  | item :: items => PyValue.ofJson item :: PyValue.ofItems items

def PyValue.ofFields : Fields → PyFields
  | [] => []
  | (key, item) :: fields => (PyText.ofString key, PyValue.ofJson item) :: PyValue.ofFields fields
end

/-! ### Freezing and canonical bytes -/

mutual
/-- The checks of `_freeze_json`, in its order, with its field paths. -/
def PyValue.check (field : String) : PyValue → Except PyError Unit
  | .nonFinite _ => .error ⟨.coreContract, field ++ " cannot contain NaN or infinity"⟩
  | .arr items => PyValue.checkItems field items
  | .obj fields => PyValue.checkFields field fields
  | _ => .ok ()

def PyValue.checkItems (field : String) : List PyValue → Except PyError Unit
  | [] => .ok ()
  | item :: items =>
    match PyValue.check field item with
    | .error e => .error e
    | .ok () => PyValue.checkItems field items

def PyValue.checkFields (field : String) : PyFields → Except PyError Unit
  | [] => .ok ()
  | (key, item) :: fields =>
    if key = [] then .error ⟨.coreContract, field ++ " object keys must be non-empty strings"⟩
    else if sensitiveKey key.display then
      .error ⟨.coreContract, field ++ " cannot store credential-like key " ++ pyQuote key.display⟩
    else
      match PyValue.check (field ++ "." ++ key.display) item with
      | .error e => .error e
      | .ok () => PyValue.checkFields field fields
end

mutual
/-- The values on which `_freeze_json` raises nothing. -/
def PyValue.accepted : PyValue → Bool
  | .nonFinite _ => false
  | .arr items => PyValue.acceptedItems items
  | .obj fields => PyValue.acceptedFields fields
  | .null | .bool _ | .int _ | .float _ | .str _ => true

def PyValue.acceptedItems : List PyValue → Bool
  | [] => true
  | item :: items => item.accepted && PyValue.acceptedItems items

def PyValue.acceptedFields : PyFields → Bool
  | [] => true
  | (key, item) :: fields => key ≠ [] && !sensitiveKey key.display && item.accepted && PyValue.acceptedFields fields
end

mutual
/-- The frozen form, its mappings in key order. -/
def PyValue.canon : PyValue → PyValue
  | .arr items => .arr (PyValue.canonItems items)
  | .obj fields => .obj (PyValue.canonFields fields)
  | .null => .null
  | .bool b => .bool b
  | .int n => .int n
  | .float x => .float x
  | .nonFinite x => .nonFinite x
  | .str s => .str s

def PyValue.canonItems : List PyValue → List PyValue
  | [] => []
  | item :: items => item.canon :: PyValue.canonItems items

def PyValue.canonFields : PyFields → PyFields
  | [] => []
  | (key, item) :: fields => Effect.SortedMap.insert keyOrder key item.canon (PyValue.canonFields fields)
end

/-- `sys.get_int_max_str_digits()`: integers of more digits have no decimal text. -/
def maxStrDigits : Nat := 4300

@[irreducible] def intFits (n : Int) : Bool := n.natAbs < 10 ^ maxStrDigits

mutual
/-- Every integer of the value has a decimal text. -/
def PyValue.fits : PyValue → Bool
  | .int n => intFits n
  | .arr items => PyValue.fitsItems items
  | .obj fields => PyValue.fitsFields fields
  | _ => true

def PyValue.fitsItems : List PyValue → Bool
  | [] => true
  | item :: items => item.fits && PyValue.fitsItems items

def PyValue.fitsFields : PyFields → Bool
  | [] => true
  | (_, item) :: fields => item.fits && PyValue.fitsFields fields
end

/-- `json.dumps` with `ensure_ascii` on one code point. -/
def escapePoint (p : CodePoint) : List Char :=
  if p.val = 34 then ['\\', '"']
  else if p.val = 92 then ['\\', '\\']
  else if p.val = 10 then ['\\', 'n']
  else if p.val = 13 then ['\\', 'r']
  else if p.val = 9 then ['\\', 't']
  else if p.val = 8 then ['\\', 'b']
  else if p.val = 12 then ['\\', 'f']
  else if 32 ≤ p.val ∧ p.val ≤ 126 then [Char.ofNat p.val]
  else if p.val < 65536 then unicodeEscape p.val
  else unicodeEscape (55296 + (p.val - 65536) / 1024) ++ unicodeEscape (56320 + (p.val - 65536) % 1024)

def PyText.quote (text : PyText) : List Char := '"' :: text.flatMap escapePoint ++ ['"']

mutual
/-- `json.dumps(value, separators=(",", ":"))` of a value in key order. -/
def PyValue.dumps : PyValue → List Char
  | .null => chars "null"
  | .bool b => chars (if b then "true" else "false")
  | .int n => chars (toString n)
  | .float x => chars x.repr
  | .nonFinite .nan => chars "NaN"
  | .nonFinite .infinity => chars "Infinity"
  | .nonFinite .negativeInfinity => chars "-Infinity"
  | .str text => text.quote
  | .arr items => '[' :: PyValue.dumpsItems items ++ [']']
  | .obj fields => '{' :: PyValue.dumpsFields fields ++ ['}']

def PyValue.dumpsItems : List PyValue → List Char
  | [] => []
  | [item] => item.dumps
  | item :: rest => item.dumps ++ ',' :: PyValue.dumpsItems rest

def PyValue.dumpsFields : PyFields → List Char
  | [] => []
  | [(key, item)] => key.quote ++ ':' :: item.dumps
  | (key, item) :: rest => key.quote ++ ':' :: item.dumps ++ ',' :: PyValue.dumpsFields rest
end

/-- The canonical text holds ASCII characters only, one byte each in UTF-8. -/
def PyValue.encode (value : PyValue) : Bytes := value.canon.dumps.map fun c => c.toNat.toUInt8

/-- `canonical_json_bytes`. -/
def PyValue.canonicalBytes (value : PyValue) : Except PyError Bytes :=
  match value.check "canonical JSON" with
  | .error _ => .error ⟨.coreContract, "value is not canonical JSON"⟩
  | .ok () =>
    if value.fits then .ok value.encode else .error ⟨.coreContract, "value is not canonical JSON"⟩

/-! ### Frozen mappings -/

mutual
theorem pyCheck_iff : ∀ (v : PyValue) (field : String), v.check field = .ok () ↔ v.accepted = true
  | .null, _ | .bool _, _ | .int _, _ | .float _, _ | .str _, _ | .nonFinite _, _ => by
    simp [PyValue.check, PyValue.accepted]
  | .arr items, field => by simpa [PyValue.check, PyValue.accepted] using pyCheckItems_iff items field
  | .obj fields, field => by simpa [PyValue.check, PyValue.accepted] using pyCheckFields_iff fields field

theorem pyCheckItems_iff : ∀ (items : List PyValue) (field : String),
    PyValue.checkItems field items = .ok () ↔ PyValue.acceptedItems items = true
  | [], _ => by simp [PyValue.checkItems, PyValue.acceptedItems]
  | item :: items, field => by
    have head := pyCheck_iff item field
    have tail := pyCheckItems_iff items field
    cases checked : item.check field with
    | error e => simp_all [PyValue.checkItems, PyValue.acceptedItems]
    | ok => simp_all [PyValue.checkItems, PyValue.acceptedItems]

theorem pyCheckFields_iff : ∀ (fields : PyFields) (field : String),
    PyValue.checkFields field fields = .ok () ↔ PyValue.acceptedFields fields = true
  | [], _ => by simp [PyValue.checkFields, PyValue.acceptedFields]
  | (key, item) :: fields, field => by
    have head := pyCheck_iff item (field ++ "." ++ key.display)
    have tail := pyCheckFields_iff fields field
    by_cases empty : key = []
    · simp [PyValue.checkFields, PyValue.acceptedFields, empty]
    by_cases sensitive : sensitiveKey key.display = true
    · simp [PyValue.checkFields, PyValue.acceptedFields, empty, sensitive]
    cases checked : item.check (field ++ "." ++ key.display) with
    | error e => simp_all [PyValue.checkFields, PyValue.acceptedFields]
    | ok => simp_all [PyValue.checkFields, PyValue.acceptedFields]
end

theorem pyCanonItems_eq (items : List PyValue) : PyValue.canonItems items = items.map PyValue.canon := by
  induction items with
  | nil => rfl
  | cons first rest ih => rw [PyValue.canonItems, ih, List.map_cons]

/-- The items of a mapping, frozen one by one. -/
def PyValue.canonEach (fields : PyFields) : PyFields := fields.map fun f => (f.1, f.2.canon)

theorem pyCanonFields_eq (fields : PyFields) :
    PyValue.canonFields fields = Effect.SortedMap.sort keyOrder (PyValue.canonEach fields) := by
  induction fields with
  | nil => rfl
  | cons field fields ih =>
    obtain ⟨key, item⟩ := field
    simp [PyValue.canonFields, PyValue.canonEach, Effect.SortedMap.sort, ih]

theorem pyCanonFields_sorted (fields : PyFields) : Effect.SortedMap.Sorted keyOrder (PyValue.canonFields fields) := by
  rw [pyCanonFields_eq]
  exact Effect.SortedMap.sort_sorted _

theorem lookup_canonEach (query : PyText) (fields : PyFields) :
    (PyValue.canonEach fields).lookup query = (fields.lookup query).map PyValue.canon := by
  induction fields with
  | nil => rfl
  | cons field fields ih =>
    obtain ⟨key, item⟩ := field
    have split : PyValue.canonEach ((key, item) :: fields) = (key, item.canon) :: PyValue.canonEach fields := rfl
    rw [split, Effect.SortedMap.lookup_cons, Effect.SortedMap.lookup_cons, ih]
    split <;> rfl

theorem lookup_pyCanonFields (query : PyText) (fields : PyFields) :
    (PyValue.canonFields fields).lookup query = (fields.lookup query).map PyValue.canon := by
  rw [pyCanonFields_eq, Effect.SortedMap.lookup_sort, lookup_canonEach]

/-- A field of a sorted mapping is a field of the mapping, its value in frozen form. -/
theorem mem_pyCanonFields {fields : PyFields} {f : PyText × PyValue} (member : f ∈ PyValue.canonFields fields) :
    ∃ g ∈ fields, f = (g.1, g.2.canon) := by
  rw [pyCanonFields_eq] at member
  obtain ⟨g, found, same⟩ := List.mem_map.mp (Effect.SortedMap.key_mem_sort member)
  exact ⟨g, found, same.symm⟩

theorem acceptedFields_iff {fields : PyFields} : PyValue.acceptedFields fields = true ↔
    ∀ f ∈ fields, f.1 ≠ [] ∧ sensitiveKey f.1.display = false ∧ f.2.accepted = true := by
  induction fields with
  | nil => simp [PyValue.acceptedFields]
  | cons field fields ih =>
    obtain ⟨key, item⟩ := field
    simp [PyValue.acceptedFields, ih, and_assoc]

theorem fitsFields_iff {fields : PyFields} : PyValue.fitsFields fields = true ↔ ∀ f ∈ fields, f.2.fits = true := by
  induction fields with
  | nil => simp [PyValue.fitsFields]
  | cons field fields ih =>
    obtain ⟨key, item⟩ := field
    simp [PyValue.fitsFields, ih]

mutual
/-- Freezing a value again changes nothing. -/
theorem pyCanon_canon : ∀ v : PyValue, v.canon.canon = v.canon
  | .null | .bool _ | .int _ | .float _ | .str _ | .nonFinite _ => by simp [PyValue.canon]
  | .arr items => by simp [PyValue.canon, pyCanonItems_canonItems items]
  | .obj fields => by simp [PyValue.canon, pyCanonFields_canonFields fields]

theorem pyCanonItems_canonItems : ∀ items : List PyValue,
    PyValue.canonItems (PyValue.canonItems items) = PyValue.canonItems items
  | [] => rfl
  | item :: items => by simp [PyValue.canonItems, pyCanon_canon item, pyCanonItems_canonItems items]

theorem pyCanonEach_canonEach : ∀ fields : PyFields, ∀ f ∈ fields, f.2.canon.canon = f.2.canon
  | (_, item) :: fields, f, member => by
    rcases List.mem_cons.mp member with rfl | member
    · exact pyCanon_canon item
    · exact pyCanonEach_canonEach fields f member

theorem pyCanonFields_canonFields : ∀ fields : PyFields,
    PyValue.canonFields (PyValue.canonFields fields) = PyValue.canonFields fields
  | fields => by
    have each : PyValue.canonEach (PyValue.canonFields fields) = PyValue.canonFields fields := by
      refine (List.map_congr_left fun f member => ?_).trans (List.map_id _)
      obtain ⟨g, found, rfl⟩ := mem_pyCanonFields member
      simp only [pyCanonEach_canonEach fields g found, id_eq]
    rw [pyCanonFields_eq (PyValue.canonFields fields), each]
    exact Effect.SortedMap.sort_of_sorted (pyCanonFields_sorted fields)
end

end Molly
