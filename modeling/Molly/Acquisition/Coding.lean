import Mathlib.Data.List.TakeWhile
import Molly.Acquisition.Urls

/-! Cuts at marks, and the coding of query fields: what is encoded is read back. -/
namespace Molly

namespace Urls

/-! ### Cuts -/

theorem cut_append {mark : CodePoint → Bool} {head : PyText} {m : CodePoint} (plain : ∀ p ∈ head, mark p = false)
    (marked : mark m = true) (rest : PyText) : cut mark (head ++ m :: rest) = (head, m :: rest) := by
  have unmarked : ∀ p ∈ head, (!mark p) = true := fun p member => by rw [plain p member]; rfl
  rw [cut, List.takeWhile_append_of_pos unmarked, List.dropWhile_append_of_pos unmarked]
  simp [marked]

theorem cut_plain {mark : CodePoint → Bool} {text : PyText} (plain : ∀ p ∈ text, mark p = false) : cut mark text = (text, []) := by
  have unmarked : ∀ p ∈ text, (!mark p) = true := fun p member => by rw [plain p member]; rfl
  rw [cut, List.takeWhile_eq_self_iff.mpr unmarked, List.dropWhile_eq_nil_iff.mpr unmarked]

theorem partition_append {mark : CodePoint} {head : PyText} (plain : mark ∉ head) (rest : PyText) :
    partition mark (head ++ mark :: rest) = (head, some rest) := by
  have unmarked : ∀ p ∈ head, decide (p = mark) = false := fun p member => by
    simpa using fun same : p = mark => plain (same ▸ member)
  rw [partition, cut_append unmarked (by simp)]

theorem partition_plain {mark : CodePoint} {text : PyText} (plain : mark ∉ text) : partition mark text = (text, none) := by
  have unmarked : ∀ p ∈ text, decide (p = mark) = false := fun p member => by
    simpa using fun same : p = mark => plain (same ▸ member)
  rw [partition, cut_plain unmarked]

/-- The parts around a mark make up the text. -/
theorem partition_some {mark : CodePoint} {text head rest : PyText} (cuts : partition mark text = (head, some rest)) :
    text = head ++ mark :: rest := by
  have plain := List.takeWhile_append_dropWhile (p := fun p => !decide (p = mark)) (l := text)
  unfold partition cut at cuts
  cases tail : text.dropWhile fun p => !decide (p = mark) with
  | nil =>
    rw [tail] at cuts
    cases cuts
  | cons m others =>
    rw [tail] at cuts
    cases cuts
    have marked : m = mark := by
      have here := List.head?_dropWhile_not (fun p => !decide (p = mark)) text
      rw [tail] at here
      simpa using here
    rw [tail, marked] at plain
    exact plain.symm

/-- What stands before a mark holds no mark, and both parts are parts of the text. -/
theorem partition_parts (mark : CodePoint) (text : PyText) :
    mark ∉ (partition mark text).1 ∧ (partition mark text).1.Sublist text ∧
      ∀ rest, (partition mark text).2 = some rest → rest.Sublist text := by
  have head : mark ∉ text.takeWhile (fun p => !decide (p = mark)) := by
    intro member
    have shown := List.mem_takeWhile_imp member
    simp at shown
  unfold partition cut
  cases tail : text.dropWhile fun p => !decide (p = mark) with
  | nil => exact ⟨head, List.takeWhile_sublist _, fun rest none => by cases none⟩
  | cons m rest =>
    refine ⟨head, List.takeWhile_sublist _, fun rest' found => ?_⟩
    cases found
    have whole : (m :: rest).Sublist text := tail ▸ List.dropWhile_sublist _
    exact (List.sublist_cons_self m rest).trans whole

theorem afterLast_plain {mark : CodePoint} {text : PyText} (plain : mark ∉ text) : afterLast mark text = text := by
  have unmarked : ∀ p ∈ text.reverse, decide (p ≠ mark) = true := fun p member => by
    simpa using fun same : p = mark => plain (same ▸ List.mem_reverse.mp member)
  rw [afterLast, List.takeWhile_eq_self_iff.mpr unmarked, List.reverse_reverse]

/-! ### Query fields -/

theorem toByte_ofByte (b : UInt8) : toByte (ofByte b) = b := by
  simp [toByte, ofByte]

theorem unquoteFrom_ascii : ∀ {text : PyText} (run : List UInt8), (∀ p ∈ text, p.val < 128) →
    unquoteFrom run text = decodeRun (run ++ text.map toByte)
  | [], run, _ => by rw [List.map_nil, List.append_nil, unquoteFrom]
  | p :: text, run, ascii => by
    rw [unquoteFrom, if_pos (ascii p List.mem_cons_self),
      unquoteFrom_ascii (run ++ [toByte p]) fun q member => ascii q (List.mem_cons_of_mem _ member)]
    simp

theorem ofChar_toChar {p : CodePoint} (scalar : p.isSurrogate = false) : CodePoint.ofChar p.toChar = p := by
  have valid : Nat.isValidChar p.val := by
    simp only [CodePoint.isSurrogate, CodePoint.isHigh, CodePoint.isLow, Bool.or_eq_false_iff, Bool.and_eq_false_iff,
      decide_eq_false_iff_not] at scalar
    have bound := p.isLt
    simp only [Nat.isValidChar]
    omega
  apply Fin.ext
  simp [CodePoint.ofChar, CodePoint.toChar, scalar, CodePoint.toNat_ofNat, valid]

/-- The code points of a quoted text. -/
def isQuoted (p : CodePoint) : Bool := isLetter p || isDigit p || p ∈ ([95, 46, 45, 126, 37, 43] : List CodePoint)

theorem isQuoted_ofByte {b : UInt8} (kept : Effect.Percent.plain b = true ∨ b = 37 ∨ b = 43) : isQuoted (ofByte b) = true := by
  have all : ∀ b : UInt8, Effect.Percent.plain b = true ∨ b = 37 ∨ b = 43 → isQuoted (ofByte b) = true :=
    Effect.Percent.each_byte (by decide +kernel)
  exact all b kept

theorem isQuoted_bounds {p : CodePoint} (quoted : isQuoted p = true) :
    32 < p.val ∧ p.val < 127 ∧ p ∉ ([35, 38, 47, 58, 61, 63, 64] : List CodePoint) := by
  simp only [isQuoted, isLetter, isDigit, Bool.or_eq_true, Bool.and_eq_true, decide_eq_true_eq, List.mem_cons, List.not_mem_nil,
    or_false, Fin.ext_iff] at quoted ⊢
  have values : ((95 : CodePoint).val = 95 ∧ (46 : CodePoint).val = 46 ∧ (45 : CodePoint).val = 45 ∧ (126 : CodePoint).val = 126) ∧
      (37 : CodePoint).val = 37 ∧ (43 : CodePoint).val = 43 ∧ (35 : CodePoint).val = 35 ∧ (38 : CodePoint).val = 38 ∧
      (47 : CodePoint).val = 47 ∧ (58 : CodePoint).val = 58 ∧ (61 : CodePoint).val = 61 ∧ (63 : CodePoint).val = 63 ∧
      (64 : CodePoint).val = 64 := by decide
  omega

theorem mem_quotePlus {text quoted : PyText} (made : quotePlus text = .ok quoted) : ∀ p ∈ quoted, isQuoted p = true := by
  unfold quotePlus at made
  split at made
  · cases made
  · cases made
    intro p member
    obtain ⟨b, inside, rfl⟩ := List.mem_map.mp member
    exact isQuoted_ofByte (Effect.Percent.mem_quotePlus inside)

/-- What `quote_plus` writes, `unquote_plus` reads back. -/
theorem unquotePlus_quotePlus {text quoted : PyText} (made : quotePlus text = .ok quoted) : unquotePlus quoted = text := by
  have marks := mem_quotePlus made
  unfold quotePlus at made
  split at made
  · cases made
  · rename_i scalar
    cases made
    generalize shown : Effect.Percent.quotePlus (Effect.Utf8.encode (text.map CodePoint.toChar)) = bytes at marks
    have spaces : ((bytes.map ofByte).map fun p => if p = 43 then 32 else p) = (Effect.Percent.spaced bytes).map ofByte := by
      have one : ∀ b : UInt8, (if ofByte b = 43 then 32 else ofByte b) = ofByte (if b = 43 then 32 else b) :=
        Effect.Percent.each_byte (by decide +kernel)
      rw [List.map_map, Effect.Percent.spaced, List.map_map]
      exact List.map_congr_left fun b _ => one b
    have ascii : ∀ p ∈ (Effect.Percent.spaced bytes).map ofByte, p.val < 128 := by
      rw [← spaces]
      intro p member
      obtain ⟨q, inside, rfl⟩ := List.mem_map.mp member
      split
      · decide
      · have bounds := isQuoted_bounds (marks q inside)
        omega
    have back : ((Effect.Percent.spaced bytes).map ofByte).map toByte = Effect.Percent.spaced bytes := by
      rw [List.map_map]
      exact (List.map_congr_left fun b _ => toByte_ofByte b).trans (List.map_id _)
    rw [unquotePlus, spaces, unquote, unquoteFrom_ascii [] ascii, back, List.nil_append, decodeRun, ← shown,
      Effect.Percent.unquote_quotePlus, Effect.Utf8.decodeReplace_encode, List.map_map]
    have same : ∀ p ∈ text, (CodePoint.ofChar ∘ CodePoint.toChar) p = id p := by
      intro p member
      refine ofChar_toChar ?_
      simp only [List.any_eq_true, not_exists, not_and] at scalar
      simpa using scalar p member
    exact (List.map_congr_left same).trans (List.map_id _)

/-- The code points of an encoded query. -/
def isEncoded (p : CodePoint) : Bool := isQuoted p || p = 61 || p = 38

theorem encodeField_ok {field : PyText × PyText} {part : PyText} (made : encodeField field = .ok part) :
    ∃ name value, quotePlus field.1 = .ok name ∧ quotePlus field.2 = .ok value ∧ part = name ++ 61 :: value := by
  obtain ⟨name, named, made⟩ := bind_ok.mp made
  obtain ⟨value, valued, made⟩ := bind_ok.mp made
  exact ⟨name, value, named, valued, (Except.ok.inj made).symm⟩

/-- A field is read back, and no part of it is a mark between fields. -/
theorem parseField_encodeField {field : PyText × PyText} {part : PyText} (made : encodeField field = .ok part) :
    parseField part = .ok field ∧ (38 : CodePoint) ∉ part ∧ part ≠ [] ∧ ∀ p ∈ part, isEncoded p = true := by
  obtain ⟨name, value, named, valued, rfl⟩ := encodeField_ok made
  have bare {text quoted : PyText} (made : quotePlus text = .ok quoted) {m : CodePoint}
      (mark : m ∈ ([35, 38, 47, 58, 61, 63, 64] : List CodePoint)) : m ∉ quoted := fun member =>
    (isQuoted_bounds (mem_quotePlus made m member)).2.2 mark
  refine ⟨?_, ?_, by simp, ?_⟩
  · have unmarked : (61 : CodePoint) ∉ name := bare named (by decide)
    simp only [parseField, partition_append unmarked, unquotePlus_quotePlus named, unquotePlus_quotePlus valued]
  · intro member
    rcases List.mem_append.mp member with left | right
    · exact bare named (by decide) left
    · rcases List.mem_cons.mp right with mark | right
      · exact absurd mark (by decide)
      · exact bare valued (by decide) right
  · intro p member
    rcases List.mem_append.mp member with left | right
    · simp [isEncoded, mem_quotePlus named p left]
    · rcases List.mem_cons.mp right with rfl | right
      · decide
      · simp [isEncoded, mem_quotePlus valued p right]

theorem mem_intercalate {mark : CodePoint} {p : CodePoint} : ∀ {parts : List PyText}, p ∈ List.intercalate [mark] parts →
    p = mark ∨ ∃ part ∈ parts, p ∈ part
  | [], member => by simp [List.intercalate] at member
  | [part], member => .inr ⟨part, List.mem_cons_self, by simpa [List.intercalate] using member⟩
  | part :: next :: parts, member => by
    have shape : List.intercalate [mark] (part :: next :: parts) = part ++ mark :: List.intercalate [mark] (next :: parts) := by
      simp [List.intercalate]
    rw [shape, List.mem_append, List.mem_cons] at member
    rcases member with here | rfl | later
    · exact .inr ⟨part, List.mem_cons_self, here⟩
    · exact .inl rfl
    · rcases mem_intercalate later with same | ⟨other, inside, found⟩
      · exact .inl same
      · exact .inr ⟨other, List.mem_cons_of_mem _ inside, found⟩

/-- What `urlencode` writes, `parse_qsl` reads back. -/
theorem parseQsl_urlencode {fields : List (PyText × PyText)} {query : PyText} (made : urlencode fields = .ok query) :
    parseQsl query = .ok fields ∧ (∀ p ∈ query, isEncoded p = true) ∧ (query = [] ↔ fields = []) := by
  obtain ⟨parts, each, made⟩ := bind_ok.mp made
  obtain rfl := Except.ok.inj made
  have read := mapM_ok.mp each
  cases read with
  | nil => exact ⟨rfl, fun p member => by simp [List.intercalate] at member, by simp [List.intercalate]⟩
  | @cons field part fields parts one rest =>
    have all : List.Forall₂ (fun f p => encodeField f = .ok p) (field :: fields) (part :: parts) := .cons one rest
    have filled : List.intercalate [38] (part :: parts) ≠ [] := by
      intro empty
      have nonempty := (parseField_encodeField one).2.2.1
      cases parts <;> simp [List.intercalate, nonempty] at empty
    refine ⟨?_, ?_, ⟨fun empty => absurd empty filled, fun none => by cases none⟩⟩
    · have plain : ∀ l ∈ part :: parts, (38 : CodePoint) ∉ l := by
        intro l member
        obtain ⟨f, _, coded⟩ := forall₂_right all member
        exact (parseField_encodeField coded).2.1
      rw [parseQsl, if_neg filled, List.splitOn_intercalate _ plain (by simp)]
      exact mapM_ok.mpr ((all.imp fun f p coded => (parseField_encodeField coded).1).flip)
    · intro p member
      rcases mem_intercalate member with rfl | ⟨l, inside, found⟩
      · decide
      · obtain ⟨f, _, coded⟩ := forall₂_right all inside
        exact (parseField_encodeField coded).2.2.2 p found

end Urls

end Molly
