import Molly.File.Loads

/-! Canonical texts are read back: `json.loads` inverts `canonical_json_bytes` on frozen
values, so these bytes determine the value. -/
namespace Molly
open Effect (chars chars_eq)

theorem ofNat_val (p : CodePoint) : CodePoint.ofNat p.val = p := by
  simp [CodePoint.ofNat]

theorem val_ofNat {n : Nat} (small : n < 1114112) : (CodePoint.ofNat n).val = n := by
  simp [CodePoint.ofNat, Nat.mod_eq_of_lt small]

/-- The UTF-16 units of a code point, one for each of its escapes. -/
def CodePoint.units (p : CodePoint) : PyText :=
  if p.val < 65536 then [p]
  else [CodePoint.ofNat (55296 + (p.val - 65536) / 1024), CodePoint.ofNat (56320 + (p.val - 65536) % 1024)]

theorem hexValue_hexDigit : ∀ k < 16, hexValue (hexDigit k) = some k := by decide

theorem printable_toNat : ∀ n < 127, 32 ≤ n → (Char.ofNat n).toNat = n := by decide

theorem scanUnits_quote (cs : List Char) : scanUnits ('"' :: cs) = some ([], cs) := by
  unfold scanUnits
  simp

theorem scanUnits_plain {c : Char} (cs : List Char) (notQuote : c ≠ '"') (notBackslash : c ≠ '\\')
    (printable : 32 ≤ c.toNat) : scanUnits (c :: cs) = pushUnit (CodePoint.ofChar c) (scanUnits cs) := by
  have notControl : ¬c.toNat < 32 := by omega
  conv =>
    lhs
    unfold scanUnits
  simp only [notQuote, notBackslash, notControl, if_false]

theorem scanUnits_simple {e : Char} {k : CodePoint} (cs : List Char) (escapes : simpleEscape e = some k)
    (short : e ≠ 'u') : scanUnits ('\\' :: e :: cs) = pushUnit k (scanUnits cs) := by
  have marks : ('\\' = '"') = False ∧ ('\\' = '\\') = True := by simp
  conv =>
    lhs
    unfold scanUnits
  simp only [marks, if_false, if_true]
  split
  · simp_all
  · simp_all
  · simp_all

theorem scanUnits_unicodeEscape (n : Nat) (small : n < 65536) (cs : List Char) :
    scanUnits (unicodeEscape n ++ cs) = pushUnit (CodePoint.ofNat n) (scanUnits cs) := by
  have whole : ((n / 4096 % 16 * 16 + n / 256 % 16) * 16 + n / 16 % 16) * 16 + n % 16 = n := by omega
  have value : hexValues [hexDigit (n / 4096 % 16), hexDigit (n / 256 % 16), hexDigit (n / 16 % 16),
      hexDigit (n % 16)] = some (CodePoint.ofNat n) := by
    simp only [hexValues, hexValue_hexDigit _ (Nat.mod_lt _ (by decide : 0 < 16)), whole]
  have marks : ('\\' = '"') = False ∧ ('\\' = '\\') = True := by simp
  simp only [unicodeEscape, List.cons_append, List.nil_append, scanUnits, marks, if_false, if_true, value]

theorem scanUnits_escapePoint (p : CodePoint) (cs : List Char) :
    scanUnits (escapePoint p ++ cs) = p.units.foldr pushUnit (scanUnits cs) := by
  have bound := p.isLt
  have short {k : Nat} {e : Char} (same : p.val = k) (small : k < 65536)
      (escapes : simpleEscape e = some (CodePoint.ofNat k)) (apart : e ≠ 'u') :
      scanUnits ('\\' :: e :: cs) = p.units.foldr pushUnit (scanUnits cs) := by
    subst same
    have own : p.units = [p] := by simp [CodePoint.units, small]
    rw [ofNat_val] at escapes
    rw [own]
    exact scanUnits_simple cs escapes apart
  unfold escapePoint
  by_cases quote : p.val = 34
  · simpa [quote] using short quote (by decide) rfl (by decide)
  by_cases backslash : p.val = 92
  · simpa [backslash] using short backslash (by decide) rfl (by decide)
  by_cases newline : p.val = 10
  · simpa [newline] using short newline (by decide) rfl (by decide)
  by_cases carriage : p.val = 13
  · simpa [carriage] using short carriage (by decide) rfl (by decide)
  by_cases tab : p.val = 9
  · simpa [tab] using short tab (by decide) rfl (by decide)
  by_cases backspace : p.val = 8
  · simpa [backspace] using short backspace (by decide) rfl (by decide)
  by_cases feed : p.val = 12
  · simpa [feed] using short feed (by decide) rfl (by decide)
  unfold CodePoint.units
  by_cases printable : 32 ≤ p.val ∧ p.val ≤ 126
  · have shown := printable_toNat p.val (by omega) printable.1
    have notQuote : Char.ofNat p.val ≠ '"' := fun same => quote (by rw [← shown, same]; rfl)
    have notBackslash : Char.ofNat p.val ≠ '\\' := fun same => backslash (by rw [← shown, same]; rfl)
    have small : p.val < 65536 := by omega
    have read := scanUnits_plain cs notQuote notBackslash (by omega)
    have own : CodePoint.ofChar (Char.ofNat p.val) = p := Fin.ext shown
    rw [own] at read
    simpa [quote, backslash, newline, carriage, tab, backspace, feed, printable, small] using read
  by_cases basic : p.val < 65536
  · simp only [quote, backslash, newline, carriage, tab, backspace, feed, printable, basic, if_false, if_true,
      scanUnits_unicodeEscape _ basic, List.foldr, ofNat_val]
  · simp only [quote, backslash, newline, carriage, tab, backspace, feed, printable, basic, if_false,
      List.append_assoc, List.foldr]
    rw [scanUnits_unicodeEscape _ (by omega), scanUnits_unicodeEscape _ (by omega)]

theorem scanUnits_text (text : PyText) (cs : List Char) :
    scanUnits (text.flatMap escapePoint ++ '"' :: cs) = some (text.flatMap CodePoint.units, cs) := by
  induction text with
  | nil => exact scanUnits_quote cs
  | cons p text ih =>
    rw [List.flatMap_cons, List.append_assoc, scanUnits_escapePoint, ih, List.flatMap_cons]
    unfold CodePoint.units
    split <;> rfl

theorem units_basic {p : CodePoint} (basic : p.val < 65536) : p.units = [p] := by
  simp [CodePoint.units, basic]

theorem isHigh_iff {p : CodePoint} : p.isHigh = true ↔ 55296 ≤ p.val ∧ p.val ≤ 56319 := by
  simp [CodePoint.isHigh]

theorem isLow_iff {p : CodePoint} : p.isLow = true ↔ 56320 ≤ p.val ∧ p.val ≤ 57343 := by
  simp [CodePoint.isLow]

/-- The pair of units of a code point beyond the basic plane is joined again. -/
theorem joinUnits_pair {p : CodePoint} (beyond : ¬p.val < 65536) (units : PyText) :
    joinUnits (p.units ++ units) = p :: joinUnits units := by
  have bound := p.isLt
  have high := val_ofNat (n := 55296 + (p.val - 65536) / 1024) (by omega)
  have low := val_ofNat (n := 56320 + (p.val - 65536) % 1024) (by omega)
  have pair : (CodePoint.ofNat (55296 + (p.val - 65536) / 1024)).isHigh = true ∧
      (CodePoint.ofNat (56320 + (p.val - 65536) % 1024)).isLow = true := by
    rw [isHigh_iff, isLow_iff, high, low]
    omega
  have joined : joinSurrogates (CodePoint.ofNat (55296 + (p.val - 65536) / 1024))
      (CodePoint.ofNat (56320 + (p.val - 65536) % 1024)) = p := by
    unfold joinSurrogates
    rw [high, low]
    apply Fin.ext
    rw [val_ofNat (by omega)]
    omega
  simp [CodePoint.units, beyond, joinUnits, pair, joined]

/-- The first unit of a text is low only when its first code point is. -/
theorem head_units (q : CodePoint) (rest : PyText) :
    ∃ unit units, List.flatMap CodePoint.units (q :: rest) = unit :: units ∧ (unit.isLow = true → q.isLow = true) := by
  have bound := q.isLt
  rw [List.flatMap_cons]
  by_cases basic : q.val < 65536
  · rw [units_basic basic]
    exact ⟨q, _, rfl, id⟩
  · simp only [CodePoint.units, basic, if_false]
    refine ⟨_, _, rfl, ?_⟩
    intro low
    rw [isLow_iff, val_ofNat (by omega)] at low
    omega

/-- Joining the units of a text gives the text, when no surrogate pair stands in it. -/
theorem joinUnits_text : ∀ {text : PyText}, text.Unpaired → joinUnits (text.flatMap CodePoint.units) = text
  | [], _ => rfl
  | [p], _ => by
    by_cases basic : p.val < 65536
    · simp [units_basic basic, joinUnits]
    · simpa [joinUnits] using joinUnits_pair basic []
  | p :: q :: rest, unpaired => by
    have ih := joinUnits_text unpaired.2
    rw [List.flatMap_cons]
    by_cases basic : p.val < 65536
    · obtain ⟨unit, units, split, low⟩ := head_units q rest
      have apart : (p.isHigh && unit.isLow) = false := by
        rw [Bool.eq_false_iff, ne_eq, Bool.and_eq_true]
        exact fun both => unpaired.1 ⟨both.1, low both.2⟩
      rw [split] at ih ⊢
      simp [units_basic basic, joinUnits, apart, ih]
    · rw [joinUnits_pair basic, ih]

theorem scanString_quote {text : PyText} (unpaired : text.Unpaired) (cs : List Char) :
    scanString (text.flatMap escapePoint ++ '"' :: cs) = .ok (text, cs) := by
  simp [scanString, scanUnits_text, joinUnits_text unpaired]

/-- No text a reader makes has a surrogate pair in it, and its first code point is low
only when the first unit is. -/
theorem joinUnits_unpaired : ∀ units : PyText, (joinUnits units).Unpaired ∧
    ∀ p ∈ (joinUnits units).head?, p.isLow = true → p ∈ units.head?
  | [] => ⟨trivial, by simp [joinUnits]⟩
  | [_] => ⟨trivial, by simp [joinUnits]⟩
  | high :: low :: rest => by
    by_cases pair : (high.isHigh && low.isLow) = true
    · obtain ⟨ih, _⟩ := joinUnits_unpaired rest
      simp only [joinUnits, pair, if_true]
      rw [Bool.and_eq_true, isHigh_iff, isLow_iff] at pair
      have joined : (joinSurrogates high low).val = 65536 + (high.val - 55296) * 1024 + (low.val - 56320) :=
        val_ofNat (by omega)
      refine ⟨?_, ?_⟩
      · cases shown : joinUnits rest with
        | nil => trivial
        | cons q more =>
          rw [shown] at ih
          refine ⟨?_, ih⟩
          rintro ⟨isHigh, _⟩
          rw [isHigh_iff, joined] at isHigh
          omega
      · intro p first isLow
        obtain rfl : joinSurrogates high low = p := by simpa using first
        rw [isLow_iff, joined] at isLow
        omega
    · obtain ⟨ih, first⟩ := joinUnits_unpaired (low :: rest)
      simp only [joinUnits, pair]
      refine ⟨?_, by simp⟩
      cases shown : joinUnits (low :: rest) with
      | nil => trivial
      | cons q more =>
        rw [shown] at ih first
        refine ⟨?_, ih⟩
        rintro ⟨isHigh, isLow⟩
        have same := first q (by simp) isLow
        obtain rfl : low = q := by simpa using same
        rw [isHigh, isLow] at pair
        contradiction

/-! ### Numbers and words -/

/-- A number begins with a digit, or with a minus sign before one. -/
def StartsNumber : List Char → Prop
  | c :: rest => c.isDigit = true ∨ (c = '-' ∧ ∃ d more, rest = d :: more ∧ d.isDigit = true)
  | [] => False

theorem scanUnsigned_starts {cs : List Char} (scanned : Effect.scanUnsigned negative cs = some found) :
    ∃ d more, cs = d :: more ∧ d.isDigit = true := by
  cases cs with
  | nil => simp [Effect.scanUnsigned, Effect.scanWhole] at scanned
  | cons c cs =>
    refine ⟨c, cs, rfl, ?_⟩
    by_contra other
    have nonzero : c ≠ '0' := by
      rintro rfl
      exact other rfl
    simp [Effect.scanUnsigned, Effect.scanWhole, nonzero, other] at scanned

theorem scanNumber_starts {cs : List Char} (scanned : Effect.scanNumber cs = some found) : StartsNumber cs := by
  cases cs with
  | nil => simp [Effect.scanNumber] at scanned
  | cons c cs =>
    simp only [Effect.scanNumber] at scanned
    by_cases minus : c = '-'
    · simp only [minus, if_true] at scanned
      exact Or.inr ⟨minus, scanUnsigned_starts scanned⟩
    · simp only [minus, if_false] at scanned
      obtain ⟨d, more, same, digit⟩ := scanUnsigned_starts scanned
      obtain ⟨rfl, rfl⟩ := List.cons.inj same
      exact Or.inl digit

theorem digit_plain {c : Char} (digit : c.isDigit = true) :
    c ≠ '"' ∧ c ≠ '{' ∧ c ≠ '[' ∧ c ≠ 'n' ∧ c ≠ 't' ∧ c ≠ 'f' ∧ c ≠ 'N' ∧ c ≠ 'I' ∧ c ≠ '-' ∧ c ≠ ']' ∧ c ≠ '}' ∧
      isWhitespace c = false := by
  have apart {d : Char} (other : d.isDigit = false) : c ≠ d := by
    rintro rfl
    rw [digit] at other
    contradiction
  refine ⟨apart rfl, apart rfl, apart rfl, apart rfl, apart rfl, apart rfl, apart rfl, apart rfl, apart rfl, apart rfl,
    apart rfl, ?_⟩
  have space := apart (d := ' ') rfl
  have tab := apart (d := '\t') rfl
  have newline := apart (d := '\n') rfl
  have carriage := apart (d := '\r') rfl
  simp [isWhitespace, space, tab, newline, carriage]

theorem scanWord_number {cs : List Char} (starts : StartsNumber cs) : scanWord cs = none := by
  cases cs with
  | nil => contradiction
  | cons c cs =>
    rcases starts with digit | ⟨rfl, d, more, rfl, digit⟩
    · obtain ⟨_, _, _, n, t, f, bigN, bigI, minus, _⟩ := digit_plain digit
      simp [scanWord, words, afterWord, Ne.symm n, Ne.symm t, Ne.symm f, Ne.symm bigN, Ne.symm bigI, Ne.symm minus]
    · obtain ⟨_, _, _, _, _, _, _, bigI, _⟩ := digit_plain digit
      simp [scanWord, words, afterWord, Ne.symm bigI]

theorem scanOnce_number {cs : List Char} (starts : StartsNumber cs) (fuel : Nat) :
    scanOnce (fuel + 1) cs = scanNumberValue cs := by
  have word := scanWord_number starts
  cases cs with
  | nil => contradiction
  | cons c cs =>
    have plain : c ≠ '"' ∧ c ≠ '{' ∧ c ≠ '[' := by
      rcases starts with digit | ⟨rfl, _⟩
      · exact ⟨(digit_plain digit).1, (digit_plain digit).2.1, (digit_plain digit).2.2.1⟩
      · decide
    simp [scanOnce, plain, word]

theorem starts_append {cs : List Char} (starts : StartsNumber cs) (rest : List Char) : StartsNumber (cs ++ rest) := by
  cases cs with
  | nil => contradiction
  | cons c cs =>
    rcases starts with digit | ⟨rfl, d, more, rfl, digit⟩
    · exact Or.inl digit
    · exact Or.inr ⟨rfl, d, more ++ rest, rfl, digit⟩

/-! ### Values that are read back -/

mutual
/-- Texts without surrogate pairs. -/
def PyValue.Unpaired : PyValue → Prop
  | .str text => text.Unpaired
  | .arr items => PyValue.UnpairedItems items
  | .obj fields => PyValue.UnpairedFields fields
  | _ => True

def PyValue.UnpairedItems : List PyValue → Prop
  | [] => True
  | item :: items => item.Unpaired ∧ PyValue.UnpairedItems items

def PyValue.UnpairedFields : PyFields → Prop
  | [] => True
  | (key, item) :: fields => key.Unpaired ∧ item.Unpaired ∧ PyValue.UnpairedFields fields
end

mutual
/-- Texts of Unicode scalar values. -/
def PyValue.Scalar : PyValue → Prop
  | .str text => text.Scalar
  | .arr items => PyValue.ScalarItems items
  | .obj fields => PyValue.ScalarFields fields
  | _ => True

def PyValue.ScalarItems : List PyValue → Prop
  | [] => True
  | item :: items => item.Scalar ∧ PyValue.ScalarItems items

def PyValue.ScalarFields : PyFields → Prop
  | [] => True
  | (key, item) :: fields => key.Scalar ∧ item.Scalar ∧ PyValue.ScalarFields fields
end

mutual
theorem PyValue.Scalar.unpaired : ∀ {v : PyValue}, v.Scalar → v.Unpaired
  | .str _, scalar => PyText.Scalar.unpaired scalar
  | .arr items, scalar => unpairedItems_of_scalar items scalar
  | .obj fields, scalar => unpairedFields_of_scalar fields scalar
  | .null, _ | .bool _, _ | .int _, _ | .float _, _ | .nonFinite _, _ => trivial

theorem unpairedItems_of_scalar : ∀ items : List PyValue, PyValue.ScalarItems items → PyValue.UnpairedItems items
  | [], _ => trivial
  | _ :: items, scalar => ⟨scalar.1.unpaired, unpairedItems_of_scalar items scalar.2⟩

theorem unpairedFields_of_scalar : ∀ fields : PyFields, PyValue.ScalarFields fields → PyValue.UnpairedFields fields
  | [], _ => trivial
  | (_, _) :: fields, scalar => ⟨PyText.Scalar.unpaired scalar.1, scalar.2.1.unpaired,
      unpairedFields_of_scalar fields scalar.2.2⟩
end

mutual
/-- A value whose text can be read: its texts have no surrogate pairs, and its numbers are finite and not too long. -/
def PyValue.Legible : PyValue → Prop
  | .str text => text.Unpaired
  | .int n => intFits n = true
  | .nonFinite _ => False
  | .arr items => PyValue.LegibleItems items
  | .obj fields => PyValue.LegibleFields fields
  | .null | .bool _ | .float _ => True

def PyValue.LegibleItems : List PyValue → Prop
  | [] => True
  | item :: items => item.Legible ∧ PyValue.LegibleItems items

def PyValue.LegibleFields : PyFields → Prop
  | [] => True
  | (key, item) :: fields => key.Unpaired ∧ item.Legible ∧ PyValue.LegibleFields fields
end

mutual
/-- What is read of the text of a value: of a key that stands in it twice, the last item. -/
def PyValue.loaded : PyValue → PyValue
  | .arr items => .arr (PyValue.loadedItems items)
  | .obj fields => .obj (PyValue.loadedFields [] fields)
  | v => v

def PyValue.loadedItems : List PyValue → List PyValue
  | [] => []
  | item :: items => item.loaded :: PyValue.loadedItems items

def PyValue.loadedFields (acc : PyFields) : PyFields → PyFields
  | [] => acc
  | (key, item) :: fields => PyValue.loadedFields (setItem acc key item.loaded) fields
end

mutual
/-- A value in the form its canonical text is read back in. -/
def PyValue.Settled : PyValue → Prop
  | .str text => text.Unpaired
  | .int n => intFits n = true
  | .nonFinite _ => False
  | .arr items => PyValue.SettledItems items
  | .obj fields => Effect.SortedMap.Sorted keyOrder fields ∧ PyValue.SettledFields fields
  | .null | .bool _ | .float _ => True

def PyValue.SettledItems : List PyValue → Prop
  | [] => True
  | item :: items => item.Settled ∧ PyValue.SettledItems items

def PyValue.SettledFields : PyFields → Prop
  | [] => True
  | (key, item) :: fields => key.Unpaired ∧ item.Settled ∧ PyValue.SettledFields fields
end

theorem scanned_float (x : FiniteFloat) (rest : List Char) (ends : Effect.EndsNumber rest) :
    StartsNumber x.repr.toList ∧ scanNumberValue (x.repr.toList ++ rest) = .ok (.float x, rest) := by
  obtain ⟨d, scanned, back⟩ := x.scanned
  have extended := Effect.scanNumber_append ends scanned
  refine ⟨scanNumber_starts scanned, ?_⟩
  simp [scanNumberValue, extended, back]

theorem scanned_int {n : Int} (small : intFits n = true) (rest : List Char) (ends : Effect.EndsNumber rest) :
    StartsNumber (toString n).toList ∧ scanNumberValue ((toString n).toList ++ rest) = .ok (.int n, rest) := by
  have scanned := Effect.scanNumber_int n
  have extended := Effect.scanNumber_append ends scanned
  refine ⟨scanNumber_starts scanned, ?_⟩
  simp only [scanNumberValue, extended, small, if_true, List.nil_append]

/-- The text of a value does not begin with whitespace or a closing bracket. -/
def Opens (cs : List Char) : Prop := ∃ c rest, cs = c :: rest ∧ isWhitespace c = false ∧ c ≠ ']' ∧ c ≠ '}'

theorem opens_number {cs : List Char} (starts : StartsNumber cs) : Opens cs := by
  cases cs with
  | nil => contradiction
  | cons c cs =>
    rcases starts with digit | ⟨rfl, _⟩
    · obtain ⟨_, _, _, _, _, _, _, _, _, bracket, brace, space⟩ := digit_plain digit
      exact ⟨c, cs, rfl, space, bracket, brace⟩
    · exact ⟨'-', cs, rfl, by decide, by decide, by decide⟩

theorem ends_nil : Effect.EndsNumber [] := by
  intro c member
  contradiction

theorem dumps_opens : ∀ {v : PyValue}, v.Legible → Opens v.dumps
  | .null, _ => ⟨'n', _, rfl, by decide, by decide, by decide⟩
  | .bool true, _ => ⟨'t', _, rfl, by decide, by decide, by decide⟩
  | .bool false, _ => ⟨'f', _, rfl, by decide, by decide, by decide⟩
  | .int n, legible => by
    have starts := (scanned_int legible [] ends_nil).1
    simpa [PyValue.dumps] using opens_number starts
  | .float x, _ => by
    have starts := (scanned_float x [] ends_nil).1
    simpa [PyValue.dumps] using opens_number starts
  | .str text, _ => ⟨'"', _, rfl, by decide, by decide, by decide⟩
  | .arr items, _ => ⟨'[', _, rfl, by decide, by decide, by decide⟩
  | .obj fields, _ => ⟨'{', _, rfl, by decide, by decide, by decide⟩

theorem Opens.skip {cs : List Char} (opens : Opens cs) (rest : List Char) :
    skipWhitespace (cs ++ rest) = cs ++ rest := by
  obtain ⟨c, more, rfl, space, _⟩ := opens
  simp [skipWhitespace, space]

theorem ends_cons {c : Char} (cs : List Char) (mark : c = ',' ∨ c = ']' ∨ c = '}') : Effect.EndsNumber (c :: cs) := by
  intro d first
  obtain rfl : c = d := by simpa using first
  rcases mark with rfl | rfl | rfl <;> decide

theorem skip_mark {c : Char} (cs : List Char) (mark : c = ',' ∨ c = ']' ∨ c = '}' ∨ c = ':') :
    skipWhitespace (c :: cs) = c :: cs := by
  have plain : isWhitespace c = false := by
    rcases mark with rfl | rfl | rfl | rfl <;> decide
  simp [skipWhitespace, plain]

theorem setItem_fresh {fields : PyFields} {key : PyText} (fresh : key ∉ fields.map Prod.fst) (item : PyValue) :
    setItem fields key item = fields ++ [(key, item)] := by
  simp only [setItem, fresh, if_false]

theorem dumpsItems_opens {item : PyValue} (items : List PyValue) (legible : item.Legible) :
    Opens (PyValue.dumpsItems (item :: items)) := by
  obtain ⟨c, more, shown, plain⟩ := dumps_opens legible
  cases items with
  | nil => exact ⟨c, more, shown, plain⟩
  | cons next items => exact ⟨c, more ++ ',' :: PyValue.dumpsItems (next :: items), by simp [PyValue.dumpsItems, shown], plain⟩

theorem dumpsFields_quote (key : PyText) (item : PyValue) (fields : PyFields) :
    ∃ more, PyValue.dumpsFields ((key, item) :: fields) = key.quote ++ ':' :: item.dumps ++ more ∧
      more = match fields with
        | [] => []
        | _ :: _ => ',' :: PyValue.dumpsFields fields := by
  cases fields with
  | nil => exact ⟨[], by simp [PyValue.dumpsFields], rfl⟩
  | cons next fields => exact ⟨_, by simp [PyValue.dumpsFields], rfl⟩

mutual
/-- The text of a legible value is read, whatever follows it. -/
theorem scanOnce_dumps : ∀ (v : PyValue) (rest : List Char) (fuel : Nat), v.Legible → Effect.EndsNumber rest →
    v.dumps.length ≤ fuel → scanOnce fuel (v.dumps ++ rest) = .ok (v.loaded, rest)
  | v, rest, 0, legible, _, enough => by
    obtain ⟨c, more, shown, _⟩ := dumps_opens legible
    simp [shown] at enough
  | .null, rest, fuel + 1, _, _, _ => by
    simp [PyValue.dumps, PyValue.loaded, scanOnce, scanWord, words, afterWord]
  | .bool true, rest, fuel + 1, _, _, _ => by
    simp [PyValue.dumps, PyValue.loaded, scanOnce, scanWord, words, afterWord]
  | .bool false, rest, fuel + 1, _, _, _ => by
    simp [PyValue.dumps, PyValue.loaded, scanOnce, scanWord, words, afterWord]
  | .int n, rest, fuel + 1, legible, ends, _ => by
    obtain ⟨starts, read⟩ := scanned_int legible rest ends
    simp only [PyValue.dumps, PyValue.loaded, chars_eq]
    rw [scanOnce_number (starts_append starts rest), read]
  | .float x, rest, fuel + 1, _, ends, _ => by
    obtain ⟨starts, read⟩ := scanned_float x rest ends
    simp only [PyValue.dumps, PyValue.loaded, chars_eq]
    rw [scanOnce_number (starts_append starts rest), read]
  | .str text, rest, fuel + 1, legible, _, _ => by
    simp [PyValue.dumps, PyValue.loaded, PyText.quote, scanOnce, scanString_quote legible]
  | .arr [], rest, fuel + 1, _, _, _ => by
    simp [PyValue.dumps, PyValue.dumpsItems, PyValue.loaded, PyValue.loadedItems, scanOnce, skip_mark]
  | .arr (item :: items), rest, fuel + 1, legible, _, enough => by
    have read := scanItems_dumps item items [] rest fuel legible (by simp [PyValue.dumps] at enough; omega)
    obtain ⟨c, more, shown, space, bracket, _⟩ := dumpsItems_opens items legible.1
    have skipped : skipWhitespace (PyValue.dumpsItems (item :: items) ++ ']' :: rest) =
        c :: (more ++ ']' :: rest) := by simp [shown, skipWhitespace, space]
    rw [shown, List.nil_append, List.cons_append] at read
    simp only [PyValue.dumps, PyValue.loaded, scanOnce, List.cons_append, List.append_assoc, List.nil_append, skipped]
    simp [bracket, read]
  | .obj [], rest, fuel + 1, _, _, _ => by
    simp [PyValue.dumps, PyValue.dumpsFields, PyValue.loaded, PyValue.loadedFields, scanOnce, skip_mark]
  | .obj ((key, item) :: fields), rest, fuel + 1, legible, _, enough => by
    have read := scanMembers_dumps key item fields [] rest fuel legible (by simp [PyValue.dumps] at enough; omega)
    obtain ⟨more, shown, _⟩ := dumpsFields_quote key item fields
    simp only [PyText.quote, List.cons_append, List.append_assoc] at shown
    rw [shown, List.cons_append] at read
    simp only [PyValue.dumps, PyValue.loaded, scanOnce, List.cons_append, List.append_assoc, List.nil_append, shown]
    simpa [skipWhitespace, isWhitespace] using read

theorem scanItems_dumps : ∀ (item : PyValue) (items acc : List PyValue) (rest : List Char) (fuel : Nat),
    PyValue.LegibleItems (item :: items) → (PyValue.dumpsItems (item :: items)).length + 1 ≤ fuel →
      scanItems fuel acc (PyValue.dumpsItems (item :: items) ++ ']' :: rest) =
        .ok (.arr (acc ++ PyValue.loadedItems (item :: items)), rest)
  | item, [], acc, rest, fuel + 1, legible, enough => by
    have read := scanOnce_dumps item (']' :: rest) fuel legible.1 (ends_cons _ (by simp))
      (by simp [PyValue.dumpsItems] at enough; omega)
    simp [PyValue.dumpsItems, PyValue.loadedItems, scanItems, read, skip_mark]
  | item, next :: items, acc, rest, fuel + 1, legible, enough => by
    have longer := enough
    simp only [PyValue.dumpsItems, List.length_append, List.length_cons] at longer
    have read := scanOnce_dumps item (',' :: PyValue.dumpsItems (next :: items) ++ ']' :: rest) fuel legible.1
      (ends_cons _ (by simp)) (by omega)
    have more := scanItems_dumps next items (acc ++ [item.loaded]) rest fuel legible.2 (by omega)
    have skipped := (dumpsItems_opens items legible.2.1).skip (']' :: rest)
    simp only [PyValue.dumpsItems, PyValue.loadedItems, List.append_assoc, List.cons_append] at read more ⊢
    simp [scanItems, read, skip_mark, skipped, more]

theorem scanMembers_dumps : ∀ (key : PyText) (item : PyValue) (fields acc : PyFields) (rest : List Char) (fuel : Nat),
    PyValue.LegibleFields ((key, item) :: fields) → (PyValue.dumpsFields ((key, item) :: fields)).length + 1 ≤ fuel →
      scanMembers fuel acc (PyValue.dumpsFields ((key, item) :: fields) ++ '}' :: rest) =
        .ok (.obj (PyValue.loadedFields acc ((key, item) :: fields)), rest)
  | key, item, [], acc, rest, fuel + 1, legible, enough => by
    have longer := enough
    simp only [PyValue.dumpsFields, List.length_append, List.length_cons] at longer
    have read := scanOnce_dumps item ('}' :: rest) fuel legible.2.1 (ends_cons _ (by simp)) (by omega)
    have string := scanString_quote legible.1 (':' :: (item.dumps ++ '}' :: rest))
    have skipped := (dumps_opens legible.2.1).skip ('}' :: rest)
    simp only [PyValue.dumpsFields, PyValue.loadedFields, PyText.quote, List.cons_append, List.append_assoc, List.nil_append,
      scanMembers, string, skip_mark _ (show ':' = ',' ∨ ':' = ']' ∨ ':' = '}' ∨ ':' = ':' by simp), skipped, read,
      skip_mark _ (show '}' = ',' ∨ '}' = ']' ∨ '}' = '}' ∨ '}' = ':' by simp)]
  | key, item, (next, value) :: fields, acc, rest, fuel + 1, legible, enough => by
    have longer := enough
    simp only [PyValue.dumpsFields, List.length_append, List.length_cons] at longer
    have read := scanOnce_dumps item (',' :: (PyValue.dumpsFields ((next, value) :: fields) ++ '}' :: rest)) fuel
      legible.2.1 (ends_cons _ (by simp)) (by omega)
    have string := scanString_quote legible.1
      (':' :: (item.dumps ++ ',' :: (PyValue.dumpsFields ((next, value) :: fields) ++ '}' :: rest)))
    have skipped := (dumps_opens legible.2.1).skip
      (',' :: (PyValue.dumpsFields ((next, value) :: fields) ++ '}' :: rest))
    have more := scanMembers_dumps next value fields (setItem acc key item.loaded) rest fuel legible.2.2 (by omega)
    obtain ⟨tail, shown, _⟩ := dumpsFields_quote next value fields
    have quoted : skipWhitespace (PyValue.dumpsFields ((next, value) :: fields) ++ '}' :: rest) =
        PyValue.dumpsFields ((next, value) :: fields) ++ '}' :: rest := by
      simp [shown, PyText.quote, skipWhitespace, isWhitespace]
    rw [PyValue.loadedFields]
    simp only [PyValue.dumpsFields, PyText.quote, List.cons_append, List.append_assoc, List.nil_append, scanMembers,
      string, skip_mark _ (show ':' = ',' ∨ ':' = ']' ∨ ':' = '}' ∨ ':' = ':' by simp), skipped, read,
      skip_mark _ (show ',' = ',' ∨ ',' = ']' ∨ ',' = '}' ∨ ',' = ':' by simp), quoted, more]
end

/-- What is read of fields with different keys. -/
theorem loadedFields_fresh : ∀ (fields acc : PyFields), ((acc ++ fields).map Prod.fst).Nodup →
    PyValue.loadedFields acc fields = acc ++ fields.map fun f => (f.1, f.2.loaded)
  | [], acc, _ => by simp [PyValue.loadedFields]
  | (key, item) :: fields, acc, apart => by
    have fresh : key ∉ acc.map Prod.fst := by
      simp only [List.map_append, List.map_cons] at apart
      exact fun member => (List.nodup_append.mp apart).2.2 key member key (by simp) rfl
    rw [PyValue.loadedFields, setItem_fresh fresh, loadedFields_fresh fields _ (by simpa using apart)]
    simp

mutual
/-- A settled value is read back as it is. -/
theorem PyValue.Settled.loaded : ∀ {v : PyValue}, v.Settled → v.Legible ∧ v.loaded = v
  | .null, _ | .bool _, _ | .float _, _ => ⟨trivial, by rw [PyValue.loaded]; all_goals simp⟩
  | .int _, settled => ⟨settled, by rw [PyValue.loaded]; all_goals simp⟩
  | .str _, settled => ⟨settled, by rw [PyValue.loaded]; all_goals simp⟩
  | .arr items, settled => by
    obtain ⟨legible, same⟩ := loadedItems_of_settled items settled
    exact ⟨legible, by rw [PyValue.loaded, same]⟩
  | .obj fields, settled => by
    obtain ⟨legible, same⟩ := loadedFields_of_settled fields settled.2
    refine ⟨legible, ?_⟩
    rw [PyValue.loaded, loadedFields_fresh fields [] settled.1.nodup, List.nil_append, same]

theorem loadedItems_of_settled : ∀ items : List PyValue, PyValue.SettledItems items →
    PyValue.LegibleItems items ∧ PyValue.loadedItems items = items
  | [], _ => ⟨trivial, rfl⟩
  | item :: items, settled => by
    obtain ⟨legible, same⟩ := settled.1.loaded
    obtain ⟨rest, others⟩ := loadedItems_of_settled items settled.2
    exact ⟨⟨legible, rest⟩, by rw [PyValue.loadedItems, same, others]⟩

theorem loadedFields_of_settled : ∀ fields : PyFields, PyValue.SettledFields fields →
    PyValue.LegibleFields fields ∧ (fields.map fun f => (f.1, f.2.loaded)) = fields
  | [], _ => ⟨trivial, rfl⟩
  | (key, item) :: fields, settled => by
    obtain ⟨legible, same⟩ := settled.2.1.loaded
    obtain ⟨rest, others⟩ := loadedFields_of_settled fields settled.2.2
    exact ⟨⟨settled.1, legible, rest⟩, by rw [List.map_cons, same, others]⟩
end

theorem legibleFields_iff {fields : PyFields} : PyValue.LegibleFields fields ↔
    ∀ f ∈ fields, f.1.Unpaired ∧ f.2.Legible := by
  induction fields with
  | nil => simp [PyValue.LegibleFields]
  | cons field fields ih =>
    obtain ⟨key, item⟩ := field
    simp [PyValue.LegibleFields, ih, and_assoc]

theorem settledFields_iff {fields : PyFields} : PyValue.SettledFields fields ↔
    ∀ f ∈ fields, f.1.Unpaired ∧ f.2.Settled := by
  induction fields with
  | nil => simp [PyValue.SettledFields]
  | cons field fields ih =>
    obtain ⟨key, item⟩ := field
    simp [PyValue.SettledFields, ih, and_assoc]

theorem unpairedFields_iff {fields : PyFields} : PyValue.UnpairedFields fields ↔
    ∀ f ∈ fields, f.1.Unpaired ∧ f.2.Unpaired := by
  induction fields with
  | nil => simp [PyValue.UnpairedFields]
  | cons field fields ih =>
    obtain ⟨key, item⟩ := field
    simp [PyValue.UnpairedFields, ih, and_assoc]

mutual
/-- What is frozen, and has a text, is read back in its frozen form. -/
theorem canon_settled : ∀ v : PyValue, v.accepted = true → v.fits = true → v.Unpaired → v.canon.Settled
  | .null, _, _, _ | .bool _, _, _, _ | .float _, _, _, _ => by simp only [PyValue.canon, PyValue.Settled]
  | .nonFinite _, accepted, _, _ => by simp [PyValue.accepted] at accepted
  | .int n, _, fits, _ => by simpa only [PyValue.canon, PyValue.Settled, PyValue.fits] using fits
  | .str text, _, _, unpaired => by simpa only [PyValue.canon, PyValue.Settled, PyValue.Unpaired] using unpaired
  | .arr items, accepted, fits, unpaired => canonItems_settled items accepted fits unpaired
  | .obj fields, accepted, fits, unpaired => by
    refine ⟨pyCanonFields_sorted fields, settledFields_iff.mpr ?_⟩
    intro f member
    obtain ⟨g, found, rfl⟩ := mem_pyCanonFields member
    exact canonEach_settled fields accepted fits unpaired g found

theorem canonItems_settled : ∀ items : List PyValue, PyValue.acceptedItems items = true →
    PyValue.fitsItems items = true → PyValue.UnpairedItems items → PyValue.SettledItems (PyValue.canonItems items)
  | [], _, _, _ => trivial
  | item :: items, accepted, fits, unpaired => by
    simp only [PyValue.acceptedItems, PyValue.fitsItems, Bool.and_eq_true] at accepted fits
    exact ⟨canon_settled item accepted.1 fits.1 unpaired.1, canonItems_settled items accepted.2 fits.2 unpaired.2⟩

theorem canonEach_settled : ∀ fields : PyFields, PyValue.acceptedFields fields = true →
    PyValue.fitsFields fields = true → PyValue.UnpairedFields fields →
    ∀ f ∈ fields, f.1.Unpaired ∧ f.2.canon.Settled
  | (key, item) :: fields, accepted, fits, unpaired, f, member => by
    simp only [PyValue.acceptedFields, PyValue.fitsFields, Bool.and_eq_true] at accepted fits
    rcases List.mem_cons.mp member with rfl | member
    · exact ⟨unpaired.1, canon_settled item accepted.1.2 fits.1 unpaired.2.1⟩
    · exact canonEach_settled fields accepted.2 fits.2 unpaired.2.2 f member
end

/-! ### Canonical texts are lines of ASCII -/

def isPlain (c : Char) : Bool := 32 ≤ c.toNat && c.toNat ≤ 126

theorem numberChar_plain {c : Char} (number : Effect.isNumberChar c = true) : isPlain c = true := by
  simp only [Effect.isNumberChar, Bool.or_eq_true, decide_eq_true_eq] at number
  rcases number with ((((digit | rfl) | rfl) | rfl) | rfl) | rfl
  · simp only [Char.isDigit, Bool.and_eq_true, decide_eq_true_eq, UInt32.le_iff_toNat_le] at digit
    have same : c.toNat = c.val.toNat := rfl
    have bounds : 48 ≤ c.val.toNat ∧ c.val.toNat ≤ 57 := digit
    simp only [isPlain, same, Bool.and_eq_true, decide_eq_true_eq]
    omega
  all_goals decide

theorem unicodeEscape_plain (n : Nat) : ∀ c ∈ unicodeEscape n, isPlain c = true := by
  have hex : ∀ k < 16, isPlain (hexDigit k) = true := by decide
  intro c member
  simp only [unicodeEscape, List.mem_cons, List.not_mem_nil, or_false] at member
  rcases member with rfl | rfl | rfl | rfl | rfl | rfl
  · decide
  · decide
  all_goals exact hex _ (Nat.mod_lt _ (by decide))

theorem escapePoint_plain (p : CodePoint) : ∀ c ∈ escapePoint p, isPlain c = true := by
  intro c member
  have pair (d : Char) (plain : isPlain d = true) (among : c ∈ ['\\', d]) : isPlain c = true := by
    simp only [List.mem_cons, List.not_mem_nil, or_false] at among
    rcases among with rfl | rfl
    · decide
    · exact plain
  unfold escapePoint at member
  split at member; · exact pair _ (by decide) member
  split at member; · exact pair _ (by decide) member
  split at member; · exact pair _ (by decide) member
  split at member; · exact pair _ (by decide) member
  split at member; · exact pair _ (by decide) member
  split at member; · exact pair _ (by decide) member
  split at member; · exact pair _ (by decide) member
  split at member
  · rename_i printable
    obtain rfl : c = Char.ofNat p.val := by simpa using member
    simp only [isPlain, printable_toNat p.val (by omega) printable.1, Bool.and_eq_true, decide_eq_true_eq]
    exact printable
  split at member
  · exact unicodeEscape_plain _ c member
  · rcases List.mem_append.mp member with member | member
    · exact unicodeEscape_plain _ c member
    · exact unicodeEscape_plain _ c member

theorem quote_plain (text : PyText) : ∀ c ∈ text.quote, isPlain c = true := by
  intro c member
  simp only [PyText.quote, List.mem_cons, List.mem_append, List.mem_flatMap, List.not_mem_nil, or_false] at member
  rcases member with (rfl | ⟨p, _, member⟩) | rfl
  · decide
  · exact escapePoint_plain p c member
  · decide

mutual
theorem dumps_plain : ∀ (v : PyValue), ∀ c ∈ v.dumps, isPlain c = true
  | .null | .bool true | .bool false | .nonFinite .nan | .nonFinite .infinity | .nonFinite .negativeInfinity => by
    simp [PyValue.dumps, isPlain]
  | .int n => by
    intro c member
    rw [PyValue.dumps, chars_eq] at member
    exact numberChar_plain (Effect.scanNumber_chars (Effect.scanNumber_int n) c member)
  | .float x => by
    intro c member
    obtain ⟨d, scanned, _⟩ := x.scanned
    rw [PyValue.dumps, chars_eq] at member
    exact numberChar_plain (Effect.scanNumber_chars scanned c member)
  | .str text => quote_plain text
  | .arr items => by
    intro c member
    simp only [PyValue.dumps, List.cons_append, List.mem_cons, List.mem_append, List.not_mem_nil, or_false] at member
    rcases member with rfl | member | rfl
    · decide
    · exact dumpsItems_plain items c member
    · decide
  | .obj fields => by
    intro c member
    simp only [PyValue.dumps, List.cons_append, List.mem_cons, List.mem_append, List.not_mem_nil, or_false] at member
    rcases member with rfl | member | rfl
    · decide
    · exact dumpsFields_plain fields c member
    · decide

theorem dumpsItems_plain : ∀ (items : List PyValue), ∀ c ∈ PyValue.dumpsItems items, isPlain c = true
  | [] => by simp [PyValue.dumpsItems]
  | [item] => by simpa [PyValue.dumpsItems] using dumps_plain item
  | item :: next :: items => by
    intro c member
    simp only [PyValue.dumpsItems, List.mem_append, List.mem_cons] at member
    rcases member with member | rfl | member
    · exact dumps_plain item c member
    · decide
    · exact dumpsItems_plain (next :: items) c (by simpa [PyValue.dumpsItems] using member)

theorem dumpsFields_plain : ∀ (fields : PyFields), ∀ c ∈ PyValue.dumpsFields fields, isPlain c = true
  | [] => by simp [PyValue.dumpsFields]
  | [(key, item)] => by
    intro c member
    simp only [PyValue.dumpsFields, List.mem_append, List.mem_cons] at member
    rcases member with member | rfl | member
    · exact quote_plain key c member
    · decide
    · exact dumps_plain item c member
  | (key, item) :: next :: fields => by
    intro c member
    simp only [PyValue.dumpsFields, List.append_assoc, List.cons_append, List.mem_append, List.mem_cons] at member
    rcases member with member | rfl | member | rfl | member
    · exact quote_plain key c member
    · decide
    · exact dumps_plain item c member
    · decide
    · exact dumpsFields_plain (next :: fields) c (by simpa [PyValue.dumpsFields] using member)
end

/-- The text of a legible value is read. -/
theorem loads_legible {v : PyValue} (legible : v.Legible) : loads v.dumps = .ok v.loaded := by
  have read := scanOnce_dumps v [] (2 * v.dumps.length + 1) legible ends_nil (by omega)
  have skipped := (dumps_opens legible).skip []
  simp only [List.append_nil] at read skipped
  have unmarked : v.dumps.head? ≠ some '\uFEFF' := by
    intro marked
    have plain := dumps_plain v '\uFEFF' (List.mem_of_mem_head? marked)
    contradiction
  unfold loads
  rw [if_neg unmarked, skipped, read]
  rfl

/-- The canonical text of a settled value is read back as that value. -/
theorem loads_dumps {v : PyValue} (settled : v.Settled) : loads v.dumps = .ok v := by
  obtain ⟨legible, same⟩ := settled.loaded
  rw [loads_legible legible, same]

/-! ### Canonical bytes -/

theorem ascii_plain : ∀ {cs : List Char}, (∀ c ∈ cs, isPlain c = true) →
    Effect.ascii (cs.map fun c => c.toNat.toUInt8) = some cs
  | [], _ => rfl
  | c :: cs, plain => by
    have head := plain c List.mem_cons_self
    simp only [isPlain, Bool.and_eq_true, decide_eq_true_eq] at head
    have byte : c.toNat.toUInt8.toNat = c.toNat := by
      simp only [Nat.toUInt8, UInt8.toNat_ofNat']
      omega
    have below : Nat.blt c.toNat 128 = true := by
      rw [Nat.blt_eq]
      omega
    have tail := ascii_plain fun d member => plain d (List.mem_cons_of_mem _ member)
    simp [Effect.ascii, byte, below, tail]

/-- The canonical bytes of a value decode to its frozen form. -/
theorem loads_encode {v : PyValue} (settled : v.canon.Settled) :
    decodeUtf8 v.encode = some v.canon.dumps ∧ loads v.canon.dumps = .ok v.canon := by
  have ascii := ascii_plain (dumps_plain v.canon)
  refine ⟨?_, loads_dumps settled⟩
  simp only [decodeUtf8, PyValue.encode, ascii]

/-- Values with the same canonical bytes have the same frozen form. -/
theorem encode_injective {v w : PyValue} (settled : v.canon.Settled) (settled' : w.canon.Settled)
    (same : v.encode = w.encode) : v.canon = w.canon := by
  have first := loads_encode settled
  have second := loads_encode settled'
  rw [same, second.1, Option.some.injEq] at first
  rw [first.1, first.2, Except.ok.injEq] at second
  exact second.2

theorem newline_free (v : PyValue) : (10 : UInt8) ∉ v.encode := by
  intro member
  obtain ⟨c, found, same⟩ := List.mem_map.mp member
  have plain := dumps_plain v.canon c found
  simp only [isPlain, Bool.and_eq_true, decide_eq_true_eq] at plain
  have value := congrArg UInt8.toNat same
  simp only [Nat.toUInt8, UInt8.toNat_ofNat', UInt8.reduceToNat] at value
  omega

end Molly
