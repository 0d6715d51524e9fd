import Molly.File.Written

/-! Texts with surrogate pairs: the escapes of a pair are those of the code point it stands for,
so canonical bytes are read back with every pair joined. -/
namespace Molly

theorem escapePoint_surrogate {p : CodePoint} (surrogate : 55296 ≤ p.val ∧ p.val < 57344) :
    escapePoint p = unicodeEscape p.val := by
  have basic : p.val < 65536 := by omega
  unfold escapePoint
  iterate 8 rw [if_neg (by omega)]
  rw [if_pos basic]

theorem joinSurrogates_val {high low : CodePoint} (pair : (high.isHigh && low.isLow) = true) :
    (joinSurrogates high low).val = 65536 + (high.val - 55296) * 1024 + (low.val - 56320) := by
  rw [Bool.and_eq_true, isHigh_iff, isLow_iff] at pair
  exact val_ofNat (by omega)

theorem escapePoint_beyond {p : CodePoint} (beyond : ¬p.val < 65536) : escapePoint p =
    unicodeEscape (55296 + (p.val - 65536) / 1024) ++ unicodeEscape (56320 + (p.val - 65536) % 1024) := by
  unfold escapePoint
  iterate 8 rw [if_neg (by omega)]
  rw [if_neg beyond]

/-- A pair is escaped as the code point it is joined to. -/
theorem escapePoint_joined {high low : CodePoint} (pair : (high.isHigh && low.isLow) = true) :
    escapePoint (joinSurrogates high low) = escapePoint high ++ escapePoint low := by
  have joined := joinSurrogates_val pair
  rw [Bool.and_eq_true, isHigh_iff, isLow_iff] at pair
  have first : 55296 + ((joinSurrogates high low).val - 65536) / 1024 = high.val := by omega
  have second : 56320 + ((joinSurrogates high low).val - 65536) % 1024 = low.val := by omega
  rw [escapePoint_beyond (by omega), first, second, escapePoint_surrogate (p := high) (by omega),
    escapePoint_surrogate (p := low) (by omega)]

theorem escapes_joinUnits : ∀ units : PyText, (joinUnits units).flatMap escapePoint = units.flatMap escapePoint
  | [] | [_] => rfl
  | high :: low :: rest => by
    by_cases pair : (high.isHigh && low.isLow) = true
    · have joined : joinUnits (high :: low :: rest) = joinSurrogates high low :: joinUnits rest := by
        rw [joinUnits, if_pos pair]
      rw [joined, List.flatMap_cons, escapePoint_joined pair, escapes_joinUnits rest, List.append_assoc]
      rfl
    · have apart : joinUnits (high :: low :: rest) = high :: joinUnits (low :: rest) := by rw [joinUnits, if_neg pair]
      rw [apart, List.flatMap_cons, escapes_joinUnits (low :: rest)]
      rfl

namespace PyText

/-- What a reader makes of the text. -/
def joined (text : PyText) : PyText := joinUnits text

theorem joined_unpaired (text : PyText) : text.joined.Unpaired := (joinUnits_unpaired _).1

theorem joined_of_unpaired : ∀ {text : PyText}, text.Unpaired → text.joined = text
  | [], _ | [_], _ => rfl
  | p :: q :: rest, unpaired => by
    have apart : ¬(p.isHigh && q.isLow) = true := by
      rw [Bool.and_eq_true]
      exact unpaired.1
    have tail : joinUnits (q :: rest) = q :: rest := joined_of_unpaired unpaired.2
    rw [joined, joinUnits, if_neg apart, tail]

@[simp] theorem joined_ofString (s : String) : (ofString s).joined = ofString s :=
  joined_of_unpaired (ofString_scalar s).unpaired

@[simp] theorem joined_joined (text : PyText) : text.joined.joined = text.joined := joined_of_unpaired text.joined_unpaired

@[simp] theorem joined_quote (text : PyText) : text.joined.quote = text.quote := by
  rw [quote, quote, joined, escapes_joinUnits]

/-- The steps of joining: a pair is joined, any other code point stays. -/
theorem joined_pair {p q : CodePoint} (pair : (p.isHigh && q.isLow) = true) (rest : PyText) :
    joined (p :: q :: rest) = joinSurrogates p q :: joined rest := by
  rw [joined, joinUnits, if_pos pair]
  rfl

theorem joined_apart {p q : CodePoint} (apart : ¬(p.isHigh && q.isLow) = true) (rest : PyText) :
    joined (p :: q :: rest) = p :: joined (q :: rest) := by
  rw [joined, joinUnits, if_neg apart]
  rfl

/-- Joined code points are beyond the basic plane; the others stand in the text. -/
theorem mem_joined : ∀ {text : PyText} {p : CodePoint}, p ∈ text.joined → p ∈ text ∨ 65536 ≤ p.val
  | [], _, member | [_], _, member => Or.inl member
  | p :: q :: rest, r, member => by
    by_cases pair : (p.isHigh && q.isLow) = true
    · rw [joined_pair pair] at member
      rcases List.mem_cons.mp member with rfl | member
      · right
        rw [joinSurrogates_val pair]
        omega
      · rcases mem_joined member with found | beyond
        · exact Or.inl (List.mem_cons_of_mem _ (List.mem_cons_of_mem _ found))
        · exact Or.inr beyond
    · rw [joined_apart pair] at member
      rcases List.mem_cons.mp member with rfl | member
      · exact Or.inl List.mem_cons_self
      · rcases mem_joined member with found | beyond
        · exact Or.inl (List.mem_cons_of_mem _ found)
        · exact Or.inr beyond

/-- A code point of the text stays, or is joined to one beyond the basic plane. -/
theorem joined_mem : ∀ {text : PyText} {p : CodePoint}, p ∈ text → p ∈ text.joined ∨ ∃ q ∈ text.joined, 65536 ≤ q.val
  | [], _, member | [_], _, member => Or.inl member
  | p :: q :: rest, r, member => by
    by_cases pair : (p.isHigh && q.isLow) = true
    · rw [joined_pair pair]
      refine Or.inr ⟨_, List.mem_cons_self, ?_⟩
      rw [joinSurrogates_val pair]
      omega
    · rw [joined_apart pair]
      rcases List.mem_cons.mp member with rfl | member
      · exact Or.inl List.mem_cons_self
      · rcases joined_mem member with found | ⟨s, found, beyond⟩
        · exact Or.inl (List.mem_cons_of_mem _ found)
        · exact Or.inr ⟨s, List.mem_cons_of_mem _ found, beyond⟩

theorem joined_length : ∀ text : PyText, text.joined.length ≤ text.length
  | [] | [_] => Nat.le_refl _
  | p :: q :: rest => by
    by_cases pair : (p.isHigh && q.isLow) = true
    · have shorter := joined_length rest
      rw [joined_pair pair]
      simp only [List.length_cons]
      omega
    · have shorter := joined_length (q :: rest)
      rw [joined_apart pair]
      simp only [List.length_cons] at shorter ⊢
      omega

theorem joined_ne_nil {text : PyText} (filled : text ≠ []) : text.joined ≠ [] := by
  obtain ⟨p, member⟩ := List.exists_mem_of_ne_nil text filled
  rcases joined_mem member with found | ⟨q, found, _⟩
  · exact List.ne_nil_of_mem found
  · exact List.ne_nil_of_mem found

/-- What is no space, or is beyond the basic plane, is no space when it is joined. -/
theorem toChar_beyond {p : CodePoint} (beyond : 65536 ≤ p.val) : p.toChar.toNat = p.val := by
  have bound := p.isLt
  have scalar : p.isSurrogate = false := by
    simp only [CodePoint.isSurrogate, CodePoint.isHigh, CodePoint.isLow, Bool.or_eq_false_iff, Bool.and_eq_false_iff,
      decide_eq_false_iff_not]
    omega
  have valid : p.val.isValidChar := by
    simp only [Nat.isValidChar]
    omega
  simp [CodePoint.toChar, scalar, CodePoint.toNat_ofNat, valid]

theorem toChar_surrogate {p : CodePoint} (surrogate : p.isHigh = true ∨ p.isLow = true) : p.toChar = '\uFFFD' := by
  have marked : p.isSurrogate = true := by
    rw [CodePoint.isSurrogate, Bool.or_eq_true]
    exact surrogate
  rw [CodePoint.toChar, if_pos marked]

/-- A check of single characters that refuses nothing beyond the basic plane holds of the joined text. -/
theorem joined_all {ok : Char → Bool} (beyond : ∀ p : CodePoint, 65536 ≤ p.val → ok p.toChar = true) {text : PyText}
    (each : ∀ p ∈ text, ok p.toChar = true) : ∀ p ∈ text.joined, ok p.toChar = true := by
  intro p member
  rcases mem_joined member with found | high
  · exact each p found
  · exact beyond p high

theorem isSpace_beyond {p : CodePoint} (beyond : 65536 ≤ p.val) : isSpace p.toChar = false := by
  have shown := toChar_beyond beyond
  simp only [isSpace, shown, Bool.or_eq_false_iff, Bool.and_eq_false_iff, decide_eq_false_iff_not]
  omega

end PyText

mutual
/-- The value with its texts joined; the keys stay. -/
def PyValue.joined : PyValue → PyValue
  | .str text => .str text.joined
  | .arr items => .arr (PyValue.joinedItems items)
  | .obj fields => .obj (PyValue.joinedFields fields)
  | .null => .null
  | .bool b => .bool b
  | .int n => .int n
  | .float x => .float x
  | .nonFinite x => .nonFinite x

def PyValue.joinedItems : List PyValue → List PyValue
  | [] => []
  | item :: items => item.joined :: PyValue.joinedItems items

def PyValue.joinedFields : PyFields → PyFields
  | [] => []
  | (key, item) :: fields => (key, item.joined) :: PyValue.joinedFields fields
end

theorem joinedItems_eq (items : List PyValue) : PyValue.joinedItems items = items.map PyValue.joined := by
  induction items with
  | nil => rfl
  | cons item items ih => rw [PyValue.joinedItems, ih, List.map_cons]

theorem joinedFields_eq (fields : PyFields) : PyValue.joinedFields fields = fields.map fun f => (f.1, f.2.joined) := by
  induction fields with
  | nil => rfl
  | cons field fields ih =>
    obtain ⟨key, item⟩ := field
    rw [PyValue.joinedFields, ih, List.map_cons]

mutual
theorem joined_dumps : ∀ v : PyValue, v.joined.dumps = v.dumps
  | .null | .bool _ | .int _ | .float _ | .nonFinite _ => by rw [PyValue.joined]
  | .str text => by rw [PyValue.joined, PyValue.dumps, PyValue.dumps, PyText.joined_quote]
  | .arr items => by rw [PyValue.joined, PyValue.dumps, PyValue.dumps, joinedItems_dumps items]
  | .obj fields => by rw [PyValue.joined, PyValue.dumps, PyValue.dumps, joinedFields_dumps fields]

theorem joinedItems_dumps : ∀ items : List PyValue, PyValue.dumpsItems (PyValue.joinedItems items) = PyValue.dumpsItems items
  | [] => rfl
  | [item] => by simp [PyValue.joinedItems, PyValue.dumpsItems, joined_dumps item]
  | item :: next :: items => by
    have rest := joinedItems_dumps (next :: items)
    simp only [PyValue.joinedItems] at rest
    simp only [PyValue.joinedItems, PyValue.dumpsItems, joined_dumps item, rest]

theorem joinedFields_dumps : ∀ fields : PyFields, PyValue.dumpsFields (PyValue.joinedFields fields) = PyValue.dumpsFields fields
  | [] => rfl
  | [(key, item)] => by simp [PyValue.joinedFields, PyValue.dumpsFields, joined_dumps item]
  | (key, item) :: (next, value) :: fields => by
    have rest := joinedFields_dumps ((next, value) :: fields)
    simp only [PyValue.joinedFields] at rest
    simp only [PyValue.joinedFields, PyValue.dumpsFields, joined_dumps item, rest]
end

mutual
theorem joined_accepted : ∀ v : PyValue, v.joined.accepted = v.accepted
  | .null | .bool _ | .int _ | .float _ | .nonFinite _ | .str _ => by simp only [PyValue.joined, PyValue.accepted]
  | .arr items => by simp only [PyValue.joined, PyValue.accepted, joinedItems_accepted items]
  | .obj fields => by simp only [PyValue.joined, PyValue.accepted, joinedFields_accepted fields]

theorem joinedItems_accepted : ∀ items : List PyValue,
    PyValue.acceptedItems (PyValue.joinedItems items) = PyValue.acceptedItems items
  | [] => rfl
  | item :: items => by simp only [PyValue.joinedItems, PyValue.acceptedItems, joined_accepted item, joinedItems_accepted items]

theorem joinedFields_accepted : ∀ fields : PyFields,
    PyValue.acceptedFields (PyValue.joinedFields fields) = PyValue.acceptedFields fields
  | [] => rfl
  | (_, item) :: fields => by
    simp only [PyValue.joinedFields, PyValue.acceptedFields, joined_accepted item, joinedFields_accepted fields]
end

mutual
theorem joined_fits : ∀ v : PyValue, v.joined.fits = v.fits
  | .null | .bool _ | .int _ | .float _ | .nonFinite _ | .str _ => by simp only [PyValue.joined, PyValue.fits]
  | .arr items => by simp only [PyValue.joined, PyValue.fits, joinedItems_fits items]
  | .obj fields => by simp only [PyValue.joined, PyValue.fits, joinedFields_fits fields]

theorem joinedItems_fits : ∀ items : List PyValue, PyValue.fitsItems (PyValue.joinedItems items) = PyValue.fitsItems items
  | [] => rfl
  | item :: items => by simp only [PyValue.joinedItems, PyValue.fitsItems, joined_fits item, joinedItems_fits items]

theorem joinedFields_fits : ∀ fields : PyFields, PyValue.fitsFields (PyValue.joinedFields fields) = PyValue.fitsFields fields
  | [] => rfl
  | (_, item) :: fields => by simp only [PyValue.joinedFields, PyValue.fitsFields, joined_fits item, joinedFields_fits fields]
end

theorem joinedFields_insert (key : PyText) (item : PyValue) (fields : PyFields) :
    PyValue.joinedFields (Effect.SortedMap.insert keyOrder key item fields) =
      Effect.SortedMap.insert keyOrder key item.joined (PyValue.joinedFields fields) := by
  induction fields with
  | nil => simp [PyValue.joinedFields, Effect.SortedMap.insert]
  | cons field fields ih =>
    obtain ⟨k, v⟩ := field
    simp only [PyValue.joinedFields, Effect.SortedMap.insert]
    split
    · simp only [PyValue.joinedFields]
    · split
      · simp only [PyValue.joinedFields]
      · simp only [PyValue.joinedFields, ih]

mutual
theorem canon_joined : ∀ v : PyValue, v.joined.canon = v.canon.joined
  | .null | .bool _ | .int _ | .float _ | .nonFinite _ | .str _ => by simp only [PyValue.joined, PyValue.canon]
  | .arr items => by simp only [PyValue.joined, PyValue.canon, canonItems_joined items]
  | .obj fields => by simp only [PyValue.joined, PyValue.canon, canonFields_joined fields]

theorem canonItems_joined : ∀ items : List PyValue,
    PyValue.canonItems (PyValue.joinedItems items) = PyValue.joinedItems (PyValue.canonItems items)
  | [] => rfl
  | item :: items => by simp only [PyValue.joinedItems, PyValue.canonItems, canon_joined item, canonItems_joined items]

theorem canonFields_joined : ∀ fields : PyFields,
    PyValue.canonFields (PyValue.joinedFields fields) = PyValue.joinedFields (PyValue.canonFields fields)
  | [] => rfl
  | (key, item) :: fields => by
    simp only [PyValue.joinedFields, PyValue.canonFields, canon_joined item, canonFields_joined fields, joinedFields_insert]
end

/-- Joining the texts of a value does not change its canonical bytes. -/
@[simp] theorem joined_encode (v : PyValue) : v.joined.encode = v.encode := by
  rw [PyValue.encode, PyValue.encode, canon_joined, joined_dumps]

/-! ### Reading back -/

/-- No key of the value holds a surrogate pair. -/
def PyValue.Keyed (v : PyValue) : Prop := v.joined.Unpaired

namespace PyValue

@[simp] theorem keyed_str (text : PyText) : (PyValue.str text).Keyed := by
  rw [Keyed, joined]
  exact text.joined_unpaired

@[simp] theorem keyed_null : PyValue.null.Keyed := trivial
@[simp] theorem keyed_bool (b : Bool) : (PyValue.bool b).Keyed := trivial
@[simp] theorem keyed_int (n : Int) : (PyValue.int n).Keyed := trivial
@[simp] theorem keyed_float (x : FiniteFloat) : (PyValue.float x).Keyed := trivial

@[simp] theorem keyed_arr (items : List PyValue) : (PyValue.arr items).Keyed ↔ ∀ v ∈ items, v.Keyed := by
  rw [Keyed, joined, joinedItems_eq, Unpaired]
  induction items with
  | nil => simp [UnpairedItems]
  | cons item items ih => simp [UnpairedItems, ih, Keyed]

@[simp] theorem keyed_named {entries : List (String × PyValue)} :
    (PyValue.obj (entries.map fun f => (PyText.ofString f.1, f.2))).Keyed ↔ ∀ f ∈ entries, f.2.Keyed := by
  rw [Keyed, joined, joinedFields_eq, Unpaired, unpairedFields_iff, List.map_map]
  constructor
  · intro each f member
    exact (each _ (List.mem_map_of_mem member)).2
  · intro each f member
    obtain ⟨g, found, rfl⟩ := List.mem_map.mp member
    exact ⟨(PyText.ofString_scalar _).unpaired, each g found⟩

@[simp] theorem keyed_optional (shown : α → String) (value : Option α) : (pyOptionalText shown value).Keyed := by
  cases value <;> simp [pyOptionalText]

/-- What a reader makes of the canonical bytes. -/
def readBack (v : PyValue) : PyValue := v.joined.canon

@[simp] theorem readBack_str (text : PyText) : (PyValue.str text).readBack = .str text.joined := by
  simp only [readBack, joined, canon]

@[simp] theorem readBack_null : PyValue.null.readBack = .null := by simp only [readBack, joined, canon]
@[simp] theorem readBack_bool (b : Bool) : (PyValue.bool b).readBack = .bool b := by simp only [readBack, joined, canon]
@[simp] theorem readBack_int (n : Int) : (PyValue.int n).readBack = .int n := by simp only [readBack, joined, canon]
@[simp] theorem readBack_float (x : FiniteFloat) : (PyValue.float x).readBack = .float x := by
  simp only [readBack, joined, canon]

@[simp] theorem readBack_arr (items : List PyValue) : (PyValue.arr items).readBack = .arr (items.map readBack) := by
  simp only [readBack, joined, canon, arr.injEq]
  induction items with
  | nil => rfl
  | cons item items ih => simp only [joinedItems, canonItems, ih, List.map_cons, readBack]

/-- The fields that are read back. -/
def readFields (fields : PyFields) : PyFields := PyValue.canonFields (PyValue.joinedFields fields)

@[simp] theorem readBack_obj (fields : PyFields) : (PyValue.obj fields).readBack = .obj (readFields fields) := by
  simp only [readBack, joined, canon, readFields]

@[simp] theorem lookup_readFields (entries : List (String × PyValue)) (key : String) :
    (readFields (entries.map fun f => (PyText.ofString f.1, f.2))).lookup (PyText.ofString key) =
      (entries.lookup key).map readBack := by
  have joined : joinedFields (entries.map fun f => (PyText.ofString f.1, f.2)) =
      (entries.map fun f => (f.1, f.2.joined)).map fun f => (PyText.ofString f.1, f.2) := by
    rw [joinedFields_eq, List.map_map, List.map_map]
    rfl
  have each : (entries.map fun f => (f.1, f.2.joined)).lookup key = (entries.lookup key).map PyValue.joined := by
    induction entries with
    | nil => rfl
    | cons f entries ih =>
      obtain ⟨name, value⟩ := f
      rw [List.map_cons, Effect.SortedMap.lookup_cons, Effect.SortedMap.lookup_cons]
      split
      · rfl
      · exact ih (by rw [joinedFields_eq, List.map_map, List.map_map]; rfl)
  rw [readFields, joined, canon_obj_entries, each, Option.map_map]
  rfl

theorem pyGet_readFields (entries : List (String × PyValue)) (key : String) (default : PyValue) :
    pyGet (readFields (entries.map fun f => (PyText.ofString f.1, f.2))) key default =
      ((entries.lookup key).map readBack).getD default := by
  rw [pyGet, lookup_readFields]

@[simp] theorem readBack_pyArtifactIds (a : ArtifactIds) : (pyArtifactIds a).readBack = pyArtifactIds a := by
  rw [pyArtifactIds, readBack_arr, List.map_map]
  congr 1
  exact List.map_congr_left fun id _ => by simp

@[simp] theorem readBack_optional (shown : α → String) (value : Option α) :
    (pyOptionalText shown value).readBack = pyOptionalText shown value := by
  cases value <;> simp [pyOptionalText]

@[simp] theorem canon_readBack (v : PyValue) : v.readBack.canon = v.readBack := by rw [readBack, pyCanon_canon]

/-- A value has the bytes of what is read of it. -/
theorem encode_eq_readBack {v w : PyValue} (same : w.canon = v.readBack) : w.encode = v.encode := by
  rw [← joined_encode v, encode, encode, same, readBack]

/-- A dict whose values are those that are read of another dict. -/
theorem canon_named {own entries : List (String × PyValue)}
    (each : (own.map fun f => (f.1, f.2.canon)) = entries.map fun f => (f.1, f.2.readBack)) :
    (PyValue.obj (own.map fun f => (PyText.ofString f.1, f.2))).canon =
      (PyValue.obj (entries.map fun f => (PyText.ofString f.1, f.2))).readBack := by
  have same : canonEach (own.map fun f => (PyText.ofString f.1, f.2)) =
      canonEach (joinedFields (entries.map fun f => (PyText.ofString f.1, f.2))) := by
    have keyed := congrArg (List.map fun f : String × PyValue => (PyText.ofString f.1, f.2)) each
    rw [canonEach, canonEach, joinedFields_eq]
    simpa only [List.map_map, Function.comp_def, readBack] using keyed
  simp only [readBack, joined, canon, pyCanonFields_eq, same]

theorem canon_named_readBack {own entries : List (String × PyValue)}
    (each : own = entries.map fun f => (f.1, f.2.readBack)) :
    (PyValue.obj (own.map fun f => (PyText.ofString f.1, f.2))).canon =
      (PyValue.obj (entries.map fun f => (PyText.ofString f.1, f.2))).readBack := by
  subst each
  exact canon_named (by simp)

mutual
/-- A value without pairs is what it was. -/
theorem joined_of_unpaired : ∀ {v : PyValue}, v.Unpaired → v.joined = v
  | .null, _ | .bool _, _ | .int _, _ | .float _, _ | .nonFinite _, _ => by rw [joined]
  | .str text, unpaired => by rw [joined, PyText.joined_of_unpaired unpaired]
  | .arr items, unpaired => by rw [joined, joinedItems_of_unpaired items unpaired]
  | .obj fields, unpaired => by rw [joined, joinedFields_of_unpaired fields unpaired]

theorem joinedItems_of_unpaired : ∀ items : List PyValue, UnpairedItems items → joinedItems items = items
  | [], _ => rfl
  | item :: items, unpaired => by
    rw [joinedItems, joined_of_unpaired unpaired.1, joinedItems_of_unpaired items unpaired.2]

theorem joinedFields_of_unpaired : ∀ fields : PyFields, UnpairedFields fields → joinedFields fields = fields
  | [], _ => rfl
  | (key, item) :: fields, unpaired => by
    rw [joinedFields, joined_of_unpaired unpaired.2.1, joinedFields_of_unpaired fields unpaired.2.2]
end

theorem readBack_of_unpaired {v : PyValue} (unpaired : v.Unpaired) : v.readBack = v.canon := by
  rw [readBack, joined_of_unpaired unpaired]

theorem keyed_of_unpaired {v : PyValue} (unpaired : v.Unpaired) : v.Keyed := by
  rwa [Keyed, joined_of_unpaired unpaired]

end PyValue

/-! ### Mappings -/

namespace PyMapping

/-- The mapping that is read back. -/
def joined (m : PyMapping) : PyMapping where
  fields := PyValue.readFields m.fields
  accepted := acceptedFields_pyCanon ((joinedFields_accepted m.fields).trans m.accepted)
  frozen := pyCanonFields_canonFields _

@[simp] theorem readBack_toValue (m : PyMapping) : m.toValue.readBack = m.joined.toValue := by
  rw [toValue, PyValue.readBack_obj]
  rfl

theorem joined_of_unpaired {m : PyMapping} (unpaired : m.toValue.Unpaired) : m.joined = m := by
  refine ext ?_
  show PyValue.canonFields (PyValue.joinedFields m.fields) = m.fields
  rw [PyValue.joinedFields_of_unpaired m.fields unpaired, m.frozen]

theorem fits_joined (m : PyMapping) : m.joined.toValue.fits = m.toValue.fits := by
  rw [← readBack_toValue, PyValue.readBack, canon_joined, canon_toValue, joined_fits]

end PyMapping

theorem canonicalBytes_eq_ok {v : PyValue} {bytes : Bytes} :
    v.canonicalBytes = .ok bytes ↔ v.accepted = true ∧ v.fits = true ∧ bytes = v.encode := by
  by_cases accepted : v.accepted = true
  · rw [StoredEvent.canonicalBytes_ok accepted]
    simp [accepted]
  · have refused : v.check "canonical JSON" ≠ .ok () := fun checked => accepted ((pyCheck_iff v _).mp checked)
    unfold PyValue.canonicalBytes
    split
    · simp [accepted]
    · contradiction

/-- Canonical bytes are read back as the frozen value, its texts joined, where no key holds a pair. -/
theorem loads_canonical {v : PyValue} {bytes : Bytes} (written : v.canonicalBytes = .ok bytes) (keyed : v.Keyed) :
    ∃ text, decodeUtf8 bytes = some text ∧ loads text = .ok v.readBack := by
  obtain ⟨accepted, fits, rfl⟩ := canonicalBytes_eq_ok.mp written
  have settled := canon_settled v.joined ((joined_accepted v).trans accepted) ((joined_fits v).trans fits) keyed
  have read := loads_encode settled
  rw [joined_encode] at read
  exact ⟨_, read⟩

end Molly
