import Molly.File.Reading

/-! The conversions a record makes of the values it is read from: `str`, `dict`, `tuple`
and the frozen mappings. -/
namespace Molly
open Effect (chars)

/-! ### `str` -/

/-- The characters the interpreter's Unicode database calls printable. -/
class PrintableText where
  isPrintable : CodePoint → Bool
  surrogate : ∀ p : CodePoint, p.isSurrogate = true → isPrintable p = false

def hexPoints (width n : Nat) : PyText :=
  ((List.range width).map fun k => hexDigit (n / 16 ^ (width - 1 - k) % 16)).map CodePoint.ofChar

/-- `repr` of a text, one code point at a time. -/
def reprPoint [PrintableText] (mark p : CodePoint) : PyText :=
  if p = mark ∨ p = 92 then [92, p]
  else if p = 10 then PyText.ofString "\\n"
  else if p = 13 then PyText.ofString "\\r"
  else if p = 9 then PyText.ofString "\\t"
  else if p.val < 32 ∨ p.val = 127 then PyText.ofString "\\x" ++ hexPoints 2 p.val
  else if p.val < 127 ∨ PrintableText.isPrintable p = true then [p]
  else if p.val < 256 then PyText.ofString "\\x" ++ hexPoints 2 p.val
  else if p.val < 65536 then PyText.ofString "\\u" ++ hexPoints 4 p.val
  else PyText.ofString "\\U" ++ hexPoints 8 p.val

/-- Single quotes, unless the text holds one and no double quote. -/
def reprText [PrintableText] (text : PyText) : PyText :=
  let mark : CodePoint := if (39 : CodePoint) ∈ text ∧ (34 : CodePoint) ∉ text then 34 else 39
  mark :: text.flatMap (reprPoint mark) ++ [mark]

def NonFinite.repr : NonFinite → String
  | .nan => "nan"
  | .infinity => "inf"
  | .negativeInfinity => "-inf"

mutual
/-- `repr(value)`. -/
def PyValue.repr [PrintableText] : PyValue → PyText
  | .null => PyText.ofString "None"
  | .bool b => PyText.ofString (if b then "True" else "False")
  | .int n => PyText.ofString (toString n)
  | .float x => PyText.ofString x.repr
  | .nonFinite x => PyText.ofString x.repr
  | .str text => reprText text
  | .arr items => PyText.ofString "[" ++ PyValue.reprItems items ++ PyText.ofString "]"
  | .obj fields => PyText.ofString "\x7b" ++ PyValue.reprFields fields ++ PyText.ofString "\x7d"

def PyValue.reprItems [PrintableText] : List PyValue → PyText
  | [] => []
  | [item] => item.repr
  | item :: rest => item.repr ++ PyText.ofString ", " ++ PyValue.reprItems rest

def PyValue.reprFields [PrintableText] : PyFields → PyText
  | [] => []
  | [(key, item)] => reprText key ++ PyText.ofString ": " ++ item.repr
  | (key, item) :: rest =>
    reprText key ++ PyText.ofString ": " ++ item.repr ++ PyText.ofString ", " ++ PyValue.reprFields rest
end

/-- `str(value)`. -/
def PyValue.toText [PrintableText] : PyValue → PyText
  | .str text => text
  | value => value.repr

/-! ### `dict` and `tuple` -/

/-- The items an iteration over a value gives; a mapping gives its keys. -/
def PyValue.iterate : PyValue → Except PyError (List PyValue)
  | .arr items => .ok items
  | .str text => .ok (text.map fun p => .str [p])
  | .obj fields => .ok (fields.map fun f => .str f.1)
  | _ => .error ⟨.typeError, "object is not iterable"⟩

/-- One element of the sequence `dict` takes; a key that is no text is refused later. -/
def pairOf (value : PyValue) : Except PyError (PyText × PyValue) :=
  match value.iterate with
  | .error e => .error e
  | .ok [.str key, item] => .ok (key, item)
  | .ok [_, _] => .error ⟨.coreContract, "object keys must be non-empty strings"⟩
  | .ok _ => .error ⟨.valueError, "dictionary update sequence element has a wrong length"⟩

def pairsOf : List PyValue → Except PyError (List (PyText × PyValue))
  | [] => .ok []
  | value :: values =>
    match pairOf value with
    | .error e => .error e
    | .ok pair =>
      match pairsOf values with
      | .error e => .error e
      | .ok pairs => .ok (pair :: pairs)

/-- `dict(value)`. -/
def PyValue.toDict : PyValue → Except PyError PyFields
  | .obj fields => .ok fields
  | value =>
    match value.iterate with
    | .error e => .error e
    | .ok items =>
      match pairsOf items with
      | .error e => .error e
      | .ok pairs => .ok (pairs.foldl (fun fields pair => setItem fields pair.1 pair.2) [])

/-! ### Frozen mappings -/

/-- A mapping that `freeze_json_mapping` returns. -/
structure PyMapping where
  fields : PyFields
  accepted : PyValue.acceptedFields fields = true
  frozen : PyValue.canonFields fields = fields

namespace PyMapping

def toValue (m : PyMapping) : PyValue := .obj m.fields

theorem ext {a b : PyMapping} (same : a.fields = b.fields) : a = b := by
  cases a; cases b; cases same; rfl

@[simp] theorem canon_toValue (m : PyMapping) : m.toValue.canon = m.toValue := by
  simp [toValue, PyValue.canon, m.frozen]

@[simp] theorem accepted_toValue (m : PyMapping) : m.toValue.accepted = true := by
  simpa [toValue, PyValue.accepted] using m.accepted

end PyMapping

mutual
theorem accepted_pyCanon : ∀ v : PyValue, v.accepted = true → v.canon.accepted = true
  | .null, _ | .bool _, _ | .int _, _ | .float _, _ | .str _, _ => by simp [PyValue.canon, PyValue.accepted]
  | .arr items, kept => by
    simpa [PyValue.canon, PyValue.accepted] using acceptedItems_pyCanon items kept
  | .obj fields, kept => by
    simp only [PyValue.canon, PyValue.accepted]
    refine acceptedFields_iff.mpr fun f member => ?_
    obtain ⟨g, found, rfl⟩ := mem_pyCanonFields member
    exact acceptedEach_pyCanon fields kept g found

theorem acceptedItems_pyCanon : ∀ items : List PyValue, PyValue.acceptedItems items = true →
    PyValue.acceptedItems (PyValue.canonItems items) = true
  | [], _ => rfl
  | item :: items, kept => by
    simp only [PyValue.acceptedItems, Bool.and_eq_true] at kept
    simp [PyValue.canonItems, PyValue.acceptedItems, accepted_pyCanon item kept.1, acceptedItems_pyCanon items kept.2]

theorem acceptedEach_pyCanon : ∀ fields : PyFields, PyValue.acceptedFields fields = true →
    ∀ f ∈ fields, f.1 ≠ [] ∧ sensitiveKey f.1.display = false ∧ f.2.canon.accepted = true
  | (key, item) :: fields, kept, f, member => by
    rcases List.mem_cons.mp member with rfl | member
    · obtain ⟨named, plain, kept⟩ := acceptedFields_iff.mp kept _ List.mem_cons_self
      exact ⟨named, plain, accepted_pyCanon item kept⟩
    · refine acceptedEach_pyCanon fields ?_ f member
      exact acceptedFields_iff.mpr fun g found => acceptedFields_iff.mp kept g (List.mem_cons_of_mem _ found)
end

theorem acceptedFields_pyCanon {fields : PyFields} (kept : PyValue.acceptedFields fields = true) :
    PyValue.acceptedFields (PyValue.canonFields fields) = true := by
  refine acceptedFields_iff.mpr fun f member => ?_
  obtain ⟨g, found, rfl⟩ := mem_pyCanonFields member
  exact acceptedEach_pyCanon fields kept g found

/-- `freeze_json_mapping` on the items of a dict. -/
def freezePyFields (field : String) (fields : PyFields) : Except PyError PyMapping :=
  match checked : PyValue.checkFields field fields with
  | .error e => .error e
  | .ok () => .ok ⟨PyValue.canonFields fields, acceptedFields_pyCanon ((pyCheckFields_iff fields field).mp checked),
      pyCanonFields_canonFields fields⟩

theorem freezePyFields_ok {field : String} {fields : PyFields} {m : PyMapping} :
    freezePyFields field fields = .ok m ↔
      PyValue.acceptedFields fields = true ∧ m.fields = PyValue.canonFields fields := by
  rw [← pyCheckFields_iff fields field]
  unfold freezePyFields
  split
  · rename_i checked
    simp [checked]
  · rename_i checked
    simp only [checked, true_and, Except.ok.injEq]
    constructor
    · rintro rfl; rfl
    · exact fun same => PyMapping.ext same.symm

@[simp] theorem freezePyFields_mapping (m : PyMapping) (field : String) :
    freezePyFields field m.fields = .ok m :=
  freezePyFields_ok.mpr ⟨m.accepted, m.frozen.symm⟩

/-! ### Conversions keep values clean -/

theorem clean_iterate {v : PyValue} (clean : v.Clean) (made : v.iterate = .ok items) : ∀ i ∈ items, PyValue.Clean i := by
  cases v with
  | arr values =>
    cases made
    exact clean_arr.mp clean
  | str text =>
    cases made
    intro i member
    obtain ⟨p, _, rfl⟩ := List.mem_map.mp member
    exact ⟨rfl, trivial⟩
  | obj fields =>
    cases made
    intro i member
    obtain ⟨f, found, rfl⟩ := List.mem_map.mp member
    exact ⟨rfl, (clean_obj.mp clean f found).1⟩
  | _ => cases made

theorem clean_pairOf {v : PyValue} (clean : v.Clean) (made : pairOf v = .ok pair) :
    pair.1.Unpaired ∧ pair.2.Clean := by
  unfold pairOf at made
  split at made
  · cases made
  · rename_i key item iterated
    cases made
    have each := clean_iterate clean iterated
    exact ⟨(each (.str key) (by simp)).2, each item (by simp)⟩
  · cases made
  · cases made

theorem clean_pairsOf : ∀ {values : List PyValue} {pairs : List (PyText × PyValue)}, (∀ v ∈ values, PyValue.Clean v) →
    pairsOf values = .ok pairs → CleanFields pairs
  | [], pairs, _, made => by
    cases made
    simp [CleanFields]
  | value :: values, pairs, clean, made => by
    unfold pairsOf at made
    split at made
    · cases made
    · rename_i pair one
      split at made
      · cases made
      · rename_i rest more
        cases made
        intro f member
        rcases List.mem_cons.mp member with rfl | member
        · exact clean_pairOf (clean value List.mem_cons_self) one
        · exact clean_pairsOf (fun v found => clean v (List.mem_cons_of_mem _ found)) more f member

theorem clean_foldl_setItem : ∀ {pairs fields : PyFields}, CleanFields pairs → CleanFields fields →
    CleanFields (pairs.foldl (fun fields pair => setItem fields pair.1 pair.2) fields)
  | [], _, _, clean => clean
  | pair :: pairs, fields, added, clean => by
    have first := added pair List.mem_cons_self
    have more : CleanFields pairs := fun f member => added f (List.mem_cons_of_mem _ member)
    rw [List.foldl_cons]
    exact clean_foldl_setItem more (clean_setItem clean first.1 first.2)

theorem clean_toDict {v : PyValue} (clean : v.Clean) (made : v.toDict = .ok fields) : CleanFields fields := by
  unfold PyValue.toDict at made
  split at made
  · cases made
    exact clean_obj.mp clean
  · split at made
    · cases made
    · rename_i items iterated
      split at made
      · cases made
      · rename_i pairs paired
        cases made
        exact clean_foldl_setItem (clean_pairsOf (clean_iterate clean iterated) paired) (by simp [CleanFields])

theorem clean_freezePyFields {fields : PyFields} (clean : CleanFields fields)
    (made : freezePyFields field fields = .ok m) : CleanFields m.fields := by
  rw [(freezePyFields_ok.mp made).2]
  exact clean_canonFields clean

/-! ### Reading the fields of a record -/

theorem bind_ok {x : Except PyError α} {f : α → Except PyError β} :
    (x >>= f) = .ok b ↔ ∃ a, x = .ok a ∧ f a = .ok b := by
  cases x <;> simp [bind, Except.bind]

theorem bind_error {x : Except PyError α} {f : α → Except PyError β} {e : PyError} :
    x >>= f = .error e ↔ x = .error e ∨ ∃ a, x = .ok a ∧ f a = .error e := by
  cases x with
  | error e' => simp [Bind.bind, Except.bind]
  | ok a => simp [Bind.bind, Except.bind]

/-- `value[key]`. -/
def pyItem (fields : PyFields) (key : String) : Except PyError PyValue :=
  match fields.lookup (PyText.ofString key) with
  | some value => .ok value
  | none => .error ⟨.keyError, key⟩

/-- `value.get(key, default)`. -/
def pyGet (fields : PyFields) (key : String) (default : PyValue) : PyValue :=
  (fields.lookup (PyText.ofString key)).getD default

theorem clean_pyGet {fields : PyFields} {default : PyValue} (clean : CleanFields fields) (fallback : default.Clean)
    (key : String) : (pyGet fields key default).Clean := by
  unfold pyGet
  cases found : fields.lookup (PyText.ofString key) with
  | none => exact fallback
  | some v =>
    obtain ⟨before, after, split, _⟩ := List.lookup_eq_some_iff.mp found
    exact (clean (PyText.ofString key, v) (by simp [split])).2

/-- `None if value.get(key) is None else str(value[key])`. -/
def pyOptional [PrintableText] (fields : PyFields) (key : String) : Option PyText :=
  match fields.lookup (PyText.ofString key) with
  | some .null | none => none
  | some value => some value.toText

def artifactIdOfValue (field : String) : PyValue → Except PyError ArtifactId
  | .str text => validateArtifactId field text.display
  | _ => .error ⟨.coreContract, field ++ " must use the sha256:<digest> form"⟩

/-- `validate_artifact_ids` over `tuple(value)`. -/
def artifactIdsOfValue (field : String) (value : PyValue) : Except PyError ArtifactIds := do
  uniqueArtifactIds field (← (← value.iterate).mapM (artifactIdOfValue field))

/-- `validate_digest_reference`, keeping the value as it was written. -/
def validateDigestText (field : String) (value : String) : Except PyError DigestReference :=
  if valid : isSha256 (String.ofList ((removeSha256Prefix value.toList).getD value.toList)) = true then
    .ok ⟨value, valid⟩
  else .error ⟨.coreContract, field ++ " must be a lowercase 64-character SHA-256 digest"⟩

@[simp] theorem validateDigestText_text (d : DigestReference) (field : String) :
    validateDigestText field d.text = .ok d := by
  simp [validateDigestText, d.valid]

/-- A validator over an optional value. -/
def optionally (validate : String → Except PyError α) : Option PyText → Except PyError (Option α)
  | none => .ok none
  | some text =>
    match validate text.display with
    | .error e => .error e
    | .ok value => .ok (some value)

/-- `except (KeyError, TypeError, ValueError) as exc: raise cls(message) from exc`; the
`OverflowError` of a moment outside the calendar is none of them. -/
def orMalformed (value : Except PyError α) (cls : ErrorClass) (message : String) : Except PyError α :=
  match value with
  | .ok a => .ok a
  | .error e => .error (if e.cls = .overflowError then e else ⟨cls, message⟩)

@[simp] theorem orMalformed_ok {a : α} {cls : ErrorClass} {message : String} :
    orMalformed (.ok a : Except PyError α) cls message = .ok a := rfl

theorem orMalformed_eq_ok {value : Except PyError α} {a : α} {cls : ErrorClass} {message : String} :
    orMalformed value cls message = .ok a ↔ value = .ok a := by
  cases value <;> simp [orMalformed]

/-! ### `int` -/

/-- The decimal digits of the interpreter's Unicode database. -/
class DecimalText where
  digit : CodePoint → Option Nat

/-- Digits, with single underscores between them. -/
def digitGroups : Bool → List Char → Option (List Char)
  | after, [] => if after then some [] else none
  | true, '_' :: cs => digitGroups false cs
  | _, c :: cs => if c.isDigit then (digitGroups true cs).map (c :: ·) else none

/-- `int(text)`. -/
def intOfText [DecimalText] (text : PyText) : Option Int :=
  let plain p := match DecimalText.digit p with
    | some n => hexDigit (n % 10)
    | none => p.toChar
  let unsigned negative cs :=
    match digitGroups false cs with
    | some digits => if digits.length ≤ maxStrDigits then some (Effect.signed negative (Effect.valueOf digits)) else none
    | none => none
  match strip (text.map plain) with
  | '+' :: cs => unsigned false cs
  | '-' :: cs => unsigned true cs
  | cs => unsigned false cs

/-- `int(value)`. -/
def PyValue.toInt [DecimalText] : PyValue → Except PyError Int
  | .int n => .ok n
  | .bool b => .ok (if b then 1 else 0)
  | .float x => .ok x.truncate
  | .nonFinite .nan => .error ⟨.valueError, "cannot convert float NaN to integer"⟩
  | .nonFinite _ => .error ⟨.overflowError, "cannot convert float infinity to integer"⟩
  | .str text =>
    match intOfText text with
    | some n => .ok n
    | none => .error ⟨.valueError, "invalid literal for int() with base 10"⟩
  | _ => .error ⟨.typeError, "int() argument must be a string, a bytes-like object or a real number"⟩

/-! ### Equality -/

/-- A number that equals an integer. -/
def PyValue.asInt : PyValue → Option Int
  | .int n => some n
  | .bool b => some (if b then 1 else 0)
  | _ => none

mutual
/-- `a == b`. -/
def PyValue.equal : PyValue → PyValue → Bool
  | .null, .null => true
  | .str a, .str b => a == b
  | .float x, .float y => x == y || (x.isInt 0 && y.isInt 0)
  | .float x, b => b.asInt.any x.isInt
  | .nonFinite x, .nonFinite y => x == y && x != .nan
  | .int n, .float y => y.isInt n
  | .int n, b => b.asInt == some n
  | .bool t, .float y => y.isInt (if t then 1 else 0)
  | .bool t, b => b.asInt == some (if t then 1 else 0)
  | .arr as, .arr bs => PyValue.equalItems as bs
  | .obj as, .obj bs => as.length == bs.length && PyValue.equalFields as bs
  | _, _ => false

def PyValue.equalItems : List PyValue → List PyValue → Bool
  | [], [] => true
  | a :: as, b :: bs => a.equal b && PyValue.equalItems as bs
  | _, _ => false

/-- Every item is the other's. -/
def PyValue.equalFields : PyFields → PyFields → Bool
  | [], _ => true
  | (key, a) :: as, bs => (bs.lookup key).any a.equal && PyValue.equalFields as bs
end

/-! ### Fields of a dict -/

def pyOptionalText (text : α → String) : Option α → PyValue
  | none => .null
  | some value => .str (PyText.ofString (text value))

def pyArtifactIds (a : ArtifactIds) : PyValue := .arr (a.ids.map fun id => .str (PyText.ofString id.text))

end Molly
