import Molly.Acquisition.Coding
import Molly.Disk.Cache
import Molly.Effect.Escape
import Molly.Effect.Utf8
import Molly.File.Joined
import Molly.Oled.Texts

/-! The search for secrets in canonical JSON: which secrets it finds wherever a value holds them. -/
namespace Molly
open Effect.Escape

/-! ### The scan -/

namespace PyText

/-- `text.encode("utf-8")`; a surrogate has no encoding. -/
def encodeUtf8 (text : PyText) : Except PyError Bytes :=
  if text.any CodePoint.isSurrogate then .error ⟨.valueError, "surrogates not allowed"⟩
  else .ok (Effect.Utf8.encode (text.map CodePoint.toChar))

/-- Printable ASCII. -/
def Printable (text : PyText) : Prop := ∀ p ∈ text, 32 ≤ p.val ∧ p.val ≤ 126

instance (text : PyText) : Decidable text.Printable := inferInstanceAs (Decidable (∀ p ∈ text, 32 ≤ p.val ∧ p.val ≤ 126))

end PyText

def leakFound : PyError := ⟨.credentialLeak, "durable acquisition value contains access material"⟩

/-- The search for one secret. -/
def scanFor (value : Bytes) (secret : PyText) : Except PyError Unit := do
  let needle ← secret.encodeUtf8
  ensure (secret = [] || !containsBytes needle value) leakFound

/-- `assert_no_secret_values`, for secrets that are any texts. -/
def assertNoSecretTexts (value : Bytes) (secrets : List PyText) : Except PyError Unit := secrets.forM (scanFor value)

theorem encodeUtf8_ofString (s : String) : (PyText.ofString s).encodeUtf8 = .ok s.toUTF8.toList := by
  have scalar : (PyText.ofString s).any CodePoint.isSurrogate = false := by
    rw [List.any_eq_false]
    intro p member
    rw [PyText.ofString_scalar s p member]
    decide
  have back : (PyText.ofString s).map CodePoint.toChar = s.toList := by
    rw [PyText.ofString, Effect.chars_eq, List.map_map]
    exact (List.map_congr_left fun c _ => CodePoint.toChar_ofChar c).trans (List.map_id _)
  rw [PyText.encodeUtf8, scalar, if_neg Bool.false_ne_true, back, Effect.Utf8.toUTF8_toList]

/-- For strings, which have no surrogates, it is the scan of the cache. -/
theorem assertNoSecretTexts_strings (value : Bytes) (secrets : List String) :
    assertNoSecretTexts value (secrets.map PyText.ofString) = assertNoSecretValues value secrets := by
  unfold assertNoSecretTexts assertNoSecretValues
  induction secrets with
  | nil => rfl
  | cons secret rest ih =>
    have blank : PyText.ofString secret = [] ↔ secret = "" := PyText.ofString_inj (t := "")
    have one : scanFor value (PyText.ofString secret) =
        ensure (secret = "" || !containsBytes secret.toUTF8.toList value) leakFound := by
      simp only [scanFor, encodeUtf8_ofString, blank]
      rfl
    rw [List.map_cons, List.forM_eq_forM, List.forM_cons, one, List.any_cons]
    by_cases leaks : (decide (secret ≠ "") && containsBytes secret.toUTF8.toList value) = true
    · have caught : (decide (secret = "") || !containsBytes secret.toUTF8.toList value) = false := by
        simpa using leaks
      rw [caught, leaks, Bool.true_or]
      rfl
    · have passed : (decide (secret = "") || !containsBytes secret.toUTF8.toList value) = true := by
        simpa [or_iff_not_imp_left] using leaks
      rw [passed, Bool.eq_false_iff.mpr leaks, Bool.false_or]
      exact ih

theorem containsBytes_iff {needle bytes : Bytes} : containsBytes needle bytes = true ↔ needle <:+: bytes := by
  simp only [containsBytes, List.any_eq_true, List.mem_tails, List.isPrefixOf_iff_prefix, List.infix_iff_prefix_suffix]
  exact exists_congr fun _ => and_comm

namespace PyValue

/-- A text is held by a value: as a string or as a key, at any depth. -/
inductive Holds (text : PyText) : PyValue → Prop where
  | text : Holds text (.str text)
  | item {value : PyValue} : value ∈ items → Holds text value → Holds text (.arr items)
  | key {value : PyValue} : fields.lookup text = some value → Holds text (.obj fields)
  | entry {value : PyValue} : fields.lookup key = some value → Holds text value → Holds text (.obj fields)

end PyValue

/-! ### The texts in the bytes -/

/-- Quotes and backslashes stand behind a backslash. -/
def jsonEscaping : Escaping CodePoint := ⟨92, fun p => p = 34 || p = 92, by decide⟩

/-- The bytes of the escaped form of a text. -/
def PyText.escaped (text : PyText) : Bytes := (text.flatMap escapePoint).map fun c => c.toNat.toUInt8

theorem escaped_inside {s t : PyText} (inside : s <:+: t) : s.escaped <:+: t.escaped := by
  obtain ⟨front, back, rfl⟩ := inside
  simp only [PyText.escaped, List.flatMap_append, List.map_append]
  exact List.infix_append _ _ _

theorem dumpsItems_inside {item : PyValue} : ∀ {items : List PyValue}, item ∈ items → item.dumps <:+: PyValue.dumpsItems items
  | [only], member => by
    rw [List.mem_singleton.mp member]
    exact List.infix_refl _
  | first :: second :: rest, member => by
    simp only [PyValue.dumpsItems]
    rcases List.mem_cons.mp member with rfl | member
    · exact (List.prefix_append _ _).isInfix
    · exact (dumpsItems_inside member).trans ((List.suffix_cons _ _).trans (List.suffix_append _ _)).isInfix

theorem dumpsFields_inside {key : PyText} {item : PyValue} : ∀ {fields : PyFields}, (key, item) ∈ fields →
    key.quote ++ ':' :: item.dumps <:+: PyValue.dumpsFields fields
  | [only], member => by
    rw [← List.mem_singleton.mp member]
    exact List.infix_refl _
  | (k, v) :: second :: rest, member => by
    simp only [PyValue.dumpsFields]
    rcases List.mem_cons.mp member with same | member
    · cases same
      exact ⟨[], ',' :: PyValue.dumpsFields (second :: rest), by simp⟩
    · refine (dumpsFields_inside member).trans (List.IsSuffix.isInfix ⟨k.quote ++ ':' :: v.dumps ++ [','], ?_⟩)
      simp

theorem quote_inside (text : PyText) : text.flatMap escapePoint <:+: text.quote := ⟨['"'], ['"'], rfl⟩

theorem mem_of_lookup {key : PyText} {v : PyValue} {fields : PyFields} (found : fields.lookup key = some v) : (key, v) ∈ fields := by
  obtain ⟨before, after, rfl, _⟩ := List.lookup_eq_some_iff.mp found
  simp

/-- The canonical text of a value holds the escaped form of each text that the value holds. -/
theorem PyValue.Holds.dumped {text : PyText} {v : PyValue} (holds : PyValue.Holds text v) :
    text.flatMap escapePoint <:+: v.canon.dumps := by
  induction holds with
  | text =>
    rw [PyValue.canon, PyValue.dumps]
    exact quote_inside text
  | @item items item member _ ih =>
    have among : item.canon ∈ PyValue.canonItems items := by
      rw [pyCanonItems_eq]
      exact List.mem_map_of_mem member
    rw [PyValue.canon, PyValue.dumps]
    exact ih.trans ((dumpsItems_inside among).trans ⟨['['], [']'], rfl⟩)
  | @key fields item found =>
    have among := mem_of_lookup (show (PyValue.canonFields fields).lookup text = some item.canon by
      rw [lookup_pyCanonFields, found]
      rfl)
    rw [PyValue.canon, PyValue.dumps]
    refine (quote_inside text).trans (((List.prefix_append _ _).isInfix.trans (dumpsFields_inside among)).trans ⟨['\x7b'], ['\x7d'], rfl⟩)
  | @entry fields key item found _ ih =>
    have among := mem_of_lookup (show (PyValue.canonFields fields).lookup key = some item.canon by
      rw [lookup_pyCanonFields, found]
      rfl)
    rw [PyValue.canon, PyValue.dumps]
    refine ih.trans ((((List.suffix_cons _ _).trans (List.suffix_append _ _)).isInfix.trans (dumpsFields_inside among)).trans
      ⟨['\x7b'], ['\x7d'], rfl⟩)

theorem PyValue.Holds.encoded {text : PyText} {v : PyValue} {bytes : Bytes} (holds : PyValue.Holds text v)
    (made : v.canonicalBytes = .ok bytes) : text.escaped <:+: bytes := by
  obtain ⟨_, _, rfl⟩ := canonicalBytes_eq_ok.mp made
  exact holds.dumped.map _

/-! ### Printable ASCII -/

theorem toChar_toNat {p : CodePoint} (scalar : p.isSurrogate = false) : p.toChar.toNat = p.val :=
  congrArg Fin.val (Urls.ofChar_toChar scalar)

theorem scalar_of_ascii {p : CodePoint} (ascii : p.val < 128) : p.isSurrogate = false := by
  simp only [CodePoint.isSurrogate, CodePoint.isHigh, CodePoint.isLow, Bool.or_eq_false_iff, Bool.and_eq_false_iff,
    decide_eq_false_iff_not]
  omega

theorem charOfNat_toNat {p : CodePoint} (ascii : p.val < 128) : (Char.ofNat p.val).toNat = p.val := by
  have same := toChar_toNat (scalar_of_ascii ascii)
  rwa [CodePoint.toChar, scalar_of_ascii ascii] at same

theorem encodeChar_ascii {p : CodePoint} (ascii : p.val < 128) : String.utf8EncodeChar p.toChar = [Urls.toByte p] := by
  have value : p.toChar.val.toNat = p.val := toChar_toNat (scalar_of_ascii ascii)
  have small : p.val ≤ 0x7f := by omega
  simp only [String.utf8EncodeChar, value, small, ↓reduceIte]
  rfl

theorem encodeUtf8_printable {text : PyText} (printable : text.Printable) : text.encodeUtf8 = .ok (text.map Urls.toByte) := by
  have scalar : text.any CodePoint.isSurrogate = false := by
    rw [List.any_eq_false]
    intro p member
    have bound := printable p member
    rw [scalar_of_ascii (by omega)]
    decide
  rw [PyText.encodeUtf8, scalar, if_neg Bool.false_ne_true, Effect.Utf8.encode, List.flatMap_map, List.map_eq_flatMap]
  congr 1
  apply List.flatMap_congr
  intro p member
  have bound := printable p member
  exact encodeChar_ascii (by omega)

theorem escaped_printable {text : PyText} (printable : text.Printable) :
    text.escaped = (jsonEscaping.write text).map Urls.toByte := by
  rw [PyText.escaped, Escaping.write, List.map_flatMap, List.map_flatMap]
  apply List.flatMap_congr
  intro p member
  have bound := printable p member
  by_cases marked : p.val = 34 ∨ p.val = 92
  · rcases marked with quotes | slashes
    · rw [show p = 34 from Fin.ext quotes]
      rfl
    · rw [show p = 92 from Fin.ext slashes]
      rfl
  · have plain : jsonEscaping.marked p = false := by
      simpa [jsonEscaping, Fin.ext_iff] using marked
    have value : (Char.ofNat p.val).toNat = p.val := charOfNat_toNat (by omega)
    rw [jsonEscaping.item_plain plain]
    unfold escapePoint
    rw [if_neg (by omega), if_neg (by omega), if_neg (by omega), if_neg (by omega), if_neg (by omega), if_neg (by omega),
      if_neg (by omega), if_pos (by omega)]
    simp only [List.map_cons, List.map_nil, value]
    rfl

/-- Every byte of an escaped text is printable. -/
theorem escaped_bytes {text : PyText} : ∀ b ∈ text.escaped, 32 ≤ b ∧ b ≤ 126 := by
  intro b member
  obtain ⟨c, inside, rfl⟩ := List.mem_map.mp member
  obtain ⟨p, _, inside⟩ := List.mem_flatMap.mp inside
  have plain := escapePoint_plain p c inside
  have bound : 32 ≤ c.toNat ∧ c.toNat ≤ 126 := by simpa [isPlain] using plain
  have value : c.toNat.toUInt8.toNat = c.toNat := by
    rw [Nat.toUInt8, UInt8.toNat_ofNat']
    omega
  rw [UInt8.le_iff_toNat_le, UInt8.le_iff_toNat_le, value]
  exact bound

/-- A text whose encoding is printable is printable. -/
theorem printable_of_encoded {text : PyText} {needle : Bytes} (encoded : text.encodeUtf8 = .ok needle)
    (bytes : ∀ b ∈ needle, 32 ≤ b ∧ b ≤ 126) : text.Printable := by
  unfold PyText.encodeUtf8 at encoded
  split at encoded
  · contradiction
  · rename_i scalar
    cases encoded
    intro p member
    have value : p.toChar.val.toNat = p.val := toChar_toNat (by simpa using fun surrogate => scalar (List.any_eq_true.mpr ⟨p, member, surrogate⟩))
    have own : ∀ b ∈ String.utf8EncodeChar p.toChar, 32 ≤ b.toNat ∧ b.toNat ≤ 126 := fun b inside =>
      bytes b (List.mem_flatMap.mpr ⟨p.toChar, List.mem_map_of_mem member, inside⟩)
    simp only [String.utf8EncodeChar, value] at own
    split at own
    · have first := own _ List.mem_cons_self
      rw [UInt8.toNat_ofNat'] at first
      omega
    split at own
    · have first := own _ List.mem_cons_self
      rw [UInt8.toNat_ofNat'] at first
      omega
    split at own
    · have first := own _ List.mem_cons_self
      rw [UInt8.toNat_ofNat'] at first
      omega
    · have first := own _ List.mem_cons_self
      rw [UInt8.toNat_ofNat'] at first
      omega

/-! ### The secrets that are found -/

/-- The canonical bytes of a string value. -/
theorem canonicalBytes_str (text : PyText) : (PyValue.str text).canonicalBytes = .ok (34 :: text.escaped ++ [34]) := by
  refine canonicalBytes_eq_ok.mpr ⟨rfl, rfl, ?_⟩
  simp [PyValue.encode, PyValue.canon, PyValue.dumps, PyText.quote, PyText.escaped]

/-- A secret of printable ASCII that is readable behind backslashes. -/
def seenThrough (secret : PyText) : Bool := secret ≠ [] && decide secret.Printable && jsonEscaping.reads secret

theorem scan_leaks {bytes : Bytes} {secret : PyText} : assertNoSecretTexts bytes [secret] = .error leakFound ↔
    secret ≠ [] ∧ ∃ needle, secret.encodeUtf8 = .ok needle ∧ needle <:+: bytes := by
  have one : assertNoSecretTexts bytes [secret] = scanFor bytes secret := by
    simp [assertNoSecretTexts]
  have other : secret.encodeUtf8 ≠ .error leakFound := by
    unfold PyText.encodeUtf8
    split <;> simp [leakFound]
  rw [one, scanFor, bind_error]
  simp only [other, false_or, ensure_error, Bool.or_eq_false_iff, decide_eq_false_iff_not, Bool.not_eq_false',
    containsBytes_iff, and_true]
  constructor
  · rintro ⟨needle, encoded, some, inside⟩
    exact ⟨some, needle, encoded, inside⟩
  · rintro ⟨some, needle, encoded, inside⟩
    exact ⟨needle, encoded, some, inside⟩

/-- A printable secret in printable bytes is the secret in the text of the bytes. -/
theorem infix_of_bytes {s t : PyText} (left : s.Printable) (right : t.Printable) (inside : s.map Urls.toByte <:+: t.map Urls.toByte) :
    s <:+: t := by
  have back {text : PyText} (printable : text.Printable) : (text.map Urls.toByte).map Urls.ofByte = text := by
    rw [List.map_map]
    refine (List.map_congr_left fun p member => ?_).trans (List.map_id text)
    have bound := printable p member
    apply Fin.ext
    simp only [Function.comp, Urls.ofByte, Urls.toByte, Nat.toUInt8, UInt8.toNat_ofNat', id]
    omega
  have mapped := inside.map Urls.ofByte
  rwa [back left, back right] at mapped

theorem PyText.Printable.written {text : PyText} (printable : text.Printable) :
    ∀ p ∈ jsonEscaping.write text, 32 ≤ p.val ∧ p.val ≤ 126 := by
  intro p member
  obtain ⟨q, inside, member⟩ := List.mem_flatMap.mp member
  unfold Escaping.item at member
  split at member
  · rcases List.mem_cons.mp member with rfl | member
    · decide
    · rw [List.mem_singleton.mp member]
      exact printable q inside
  · rw [List.mem_singleton.mp member]
    exact printable q inside

/-- Some printable character is neither escaped nor among four given ones. -/
theorem exists_pad {avoid : PyText} (few : avoid.length ≤ 4) : ∃ pad : CodePoint, jsonEscaping.marked pad = false ∧
    (32 ≤ pad.val ∧ pad.val ≤ 126) ∧ pad ∉ avoid := by
  by_contra none
  have all : ([97, 98, 99, 100, 101] : PyText) ⊆ avoid := by
    intro p member
    by_contra apart
    have plain : ([97, 98, 99, 100, 101] : PyText).all (fun p =>
        !jsonEscaping.marked p && (decide (32 ≤ p.val) && decide (p.val ≤ 126))) = true := by decide +kernel
    have facts := List.all_eq_true.mp plain p member
    simp only [Bool.and_eq_true, Bool.not_eq_true', decide_eq_true_eq] at facts
    obtain ⟨unmarked, bound⟩ := facts
    exact none ⟨p, unmarked, bound, apart⟩
  have distinct : ([97, 98, 99, 100, 101] : PyText).Nodup := by decide
  have long := (List.subperm_of_subset distinct all).length_le
  simp only [List.length_cons, List.length_nil] at long
  omega

/-- The scan finds a secret wherever a value holds it exactly when the secret is seen through the escapes. -/
theorem secret_scan (secret : PyText) :
    (∀ (v : PyValue) (bytes : Bytes) (text : PyText), v.canonicalBytes = .ok bytes → PyValue.Holds text v → secret <:+: text →
      assertNoSecretTexts bytes [secret] = .error leakFound) ↔ seenThrough secret = true := by
  simp only [seenThrough, Bool.and_eq_true, decide_eq_true_eq, Escaping.reads_iff]
  constructor
  · intro found
    obtain ⟨some, needle, encoded, inside⟩ := scan_leaks.mp (found _ _ secret (canonicalBytes_str secret) .text (List.infix_refl _))
    have printable : secret.Printable := by
      refine printable_of_encoded encoded fun b member => ?_
      have among := inside.subset member
      simp only [List.mem_append, List.mem_cons, List.not_mem_nil, or_false] at among
      rcases among with (rfl | among) | rfl
      · decide
      · exact escaped_bytes b among
      · decide
    refine ⟨⟨some, printable⟩, ?_⟩
    by_cases long : 2 ≤ secret.length
    · obtain ⟨pad, plain, bound, apart⟩ : ∃ pad : CodePoint, jsonEscaping.marked pad = false ∧ (32 ≤ pad.val ∧ pad.val ≤ 126) ∧
          pad ∉ secret.take 2 ++ secret.reverse.take 2 := by
        refine exists_pad ?_
        simp only [List.length_append, List.length_take]
        omega
      obtain ⟨front, back⟩ := not_or.mp (mt List.mem_append.mpr apart)
      have padded : PyText.Printable (pad :: secret ++ [pad]) := by
        intro p member
        simp only [List.mem_append, List.mem_cons, List.not_mem_nil, or_false] at member
        rcases member with (rfl | member) | rfl
        · exact bound
        · exact printable p member
        · exact bound
      have holds := found _ _ _ (canonicalBytes_str (pad :: secret ++ [pad])) .text (List.infix_append [pad] secret [pad])
      obtain ⟨_, needle, encoded, inside⟩ := scan_leaks.mp holds
      rw [encodeUtf8_printable printable, Except.ok.injEq] at encoded
      rw [escaped_printable padded, ← encoded] at inside
      have inside : secret <:+: 34 :: jsonEscaping.write (pad :: secret ++ [pad]) ++ [34] := by
        have inside : secret.map Urls.toByte <:+:
            (34 :: jsonEscaping.write (pad :: secret ++ [pad]) ++ [34] : PyText).map Urls.toByte := by
          rw [List.map_append, List.map_cons]
          exact inside
        refine infix_of_bytes printable ?_ inside
        intro p member
        simp only [List.mem_append, List.mem_cons, List.not_mem_nil, or_false] at member
        rcases member with (rfl | member) | rfl
        · decide
        · exact padded.written p member
        · decide
      exact jsonEscaping.readable_of_framed long plain front back inside
    · exact jsonEscaping.readable_of_short (by omega)
  · rintro ⟨⟨some, printable⟩, readable⟩ v bytes text made holds inside
    refine scan_leaks.mpr ⟨some, _, encodeUtf8_printable printable, ?_⟩
    have written := (readable.occurs).map Urls.toByte
    rw [← escaped_printable printable] at written
    exact written.trans ((escaped_inside inside).trans (holds.encoded made))

namespace Sample

/-- A password with a quote in it. -/
def quotedSecret : PyText := PyText.ofString "p\"w"

/-- The scan of a value that is the password finds nothing. -/
theorem secret_scan_fails : ¬ ∀ (secret : PyText) (v : PyValue) (bytes : Bytes) (text : PyText), secret ≠ [] →
    v.canonicalBytes = .ok bytes → PyValue.Holds text v → secret <:+: text →
      assertNoSecretTexts bytes [secret] = .error leakFound := by
  intro always
  have found := always quotedSecret _ _ quotedSecret (by decide) (canonicalBytes_str quotedSecret) .text (List.infix_refl _)
  have silent : (assertNoSecretTexts (34 :: quotedSecret.escaped ++ [34]) [quotedSecret]).isOk = true := by decide +kernel
  rw [found] at silent
  contradiction

end Sample
end Molly
