import Mathlib.Data.List.Basic

/-! The characters of a string, read so that the kernel can evaluate them. -/
namespace Effect

/-- The characters of bytes that are all ASCII. -/
def ascii : List UInt8 → Option (List Char)
  | [] => some []
  | b :: bs =>
    if Nat.blt b.toNat 128 then
      match ascii bs with
      | some cs => some (Char.ofNat b.toNat :: cs)
      | none => none
    else none

theorem ascii_append : ∀ {first second : List UInt8} {cs ds : List Char}, ascii first = some cs → ascii second = some ds →
    ascii (first ++ second) = some (cs ++ ds)
  | [], _, _, _, one, other => by
    cases one
    exact other
  | b :: bs, _, _, _, one, other => by
    rw [ascii] at one
    split at one
    · rename_i below
      split at one
      · rename_i cs read
        cases one
        rw [List.cons_append, ascii, if_pos below, ascii_append read other]
        rfl
      · cases one
    · cases one

/-- `s.toList`, without decoding an ASCII string character by character. -/
def chars (s : String) : List Char :=
  match ascii s.toByteArray.data.toList with
  | some cs => cs
  | none => s.toList

/-- The encoding of a character is ASCII only when it is one byte. -/
theorem ascii_encodeChar (c : Char) (more : List UInt8) (read : ascii (String.utf8EncodeChar c ++ more) = some cs) :
    ∃ rest, cs = c :: rest ∧ ascii more = some rest := by
  have byte (n : Nat) (small : n < 256) : (UInt8.ofNat n).toNat = n := by
    simp only [UInt8.toNat_ofNat', Nat.reducePow]
    omega
  have back : Char.ofNat c.val.toNat = c := Char.ofNat_toNat c
  have far (n : Nat) (small : n < 256) (high : 128 ≤ n) (tail : List UInt8) :
      ascii (UInt8.ofNat n :: tail) = none := by
    have above : Nat.blt n 128 = false := by
      rw [Bool.eq_false_iff, ne_eq, Nat.blt_eq]
      omega
    simp [ascii, byte n small, above]
  unfold String.utf8EncodeChar at read
  generalize code : c.val.toNat = v at read back
  dsimp only at read
  by_cases one : v ≤ 0x7f
  · have small := byte v (by omega)
    have below : Nat.blt v 128 = true := by
      rw [Nat.blt_eq]
      omega
    simp only [one, ↓reduceIte, List.cons_append, List.nil_append, ascii, small, below, back] at read
    cases rest : ascii more with
    | none => simp [rest] at read
    | some tail =>
      simp only [rest, Option.some.injEq] at read
      exact ⟨tail, read.symm, rfl⟩
  · by_cases two : v ≤ 0x7ff
    · simp only [one, two, ↓reduceIte, List.cons_append] at read
      cases read.symm.trans (far (v / 64 % 0x20 + 0xc0) (by omega) (by omega) _)
    by_cases three : v ≤ 0xffff
    · simp only [one, two, three, ↓reduceIte, List.cons_append] at read
      cases read.symm.trans (far (v / 4096 % 0x10 + 0xe0) (by omega) (by omega) _)
    · simp only [one, two, three, ↓reduceIte, List.cons_append] at read
      cases read.symm.trans (far (v / 262144 % 0x08 + 0xf0) (by omega) (by omega) _)

theorem ascii_encode {text : List Char} (read : ascii (text.flatMap String.utf8EncodeChar) = some cs) : cs = text := by
  induction text generalizing cs with
  | nil =>
    cases read
    rfl
  | cons c rest ih =>
    rw [List.flatMap_cons] at read
    obtain ⟨tail, rfl, later⟩ := ascii_encodeChar c _ read
    rw [ih later]

@[simp] theorem chars_eq (s : String) : chars s = s.toList := by
  have bytes : s.toByteArray.data.toList = s.toList.flatMap String.utf8EncodeChar := by
    rw [← String.utf8Encode_toList]
    simp [List.utf8Encode]
  unfold chars
  split
  · rename_i read
    rw [bytes] at read
    exact ascii_encode read
  · rfl

end Effect
