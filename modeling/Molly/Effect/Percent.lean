import Mathlib.Data.List.Basic
import Mathlib.Data.Char

/-! Percent-coding of bytes, as in the fields of a URL's query. -/
namespace Effect.Percent

/-- The bytes that stand for themselves: letters, digits and `_.-~`. -/
def plain (b : UInt8) : Bool :=
  (48 ≤ b && b ≤ 57) || (65 ≤ b && b ≤ 90) || (97 ≤ b && b ≤ 122) || b = 95 || b = 46 || b = 45 || b = 126

/-- A hexadecimal digit, as a byte of ASCII. -/
def hexDigit (n : UInt8) : UInt8 := if n < 10 then 48 + n else 55 + n

def hexValue (b : UInt8) : Option UInt8 :=
  if 48 ≤ b && b ≤ 57 then some (b - 48)
  else if 65 ≤ b && b ≤ 70 then some (b - 55)
  else if 97 ≤ b && b ≤ 102 then some (b - 87)
  else none

def quoteByte (b : UInt8) : List UInt8 :=
  if plain b then [b] else if b = 32 then [43] else [37, hexDigit (b / 16), hexDigit (b % 16)]

/-- `quote_plus(bytes)`: a space becomes a plus sign, any other byte that does not stand for itself two digits. -/
def quotePlus (bytes : List UInt8) : List UInt8 := bytes.flatMap quoteByte

/-- `unquote_to_bytes(bytes)`: a percent sign without two digits behind it stays. -/
def unquote : List UInt8 → List UInt8
  | b :: high :: low :: rest =>
    if b = 37 then
      match hexValue high, hexValue low with
      | some h, some l => (16 * h + l) :: unquote rest
      | _, _ => b :: unquote (high :: low :: rest)
    else b :: unquote (high :: low :: rest)
  | bytes => bytes

/-- A plus sign stands for a space. -/
def spaced (bytes : List UInt8) : List UInt8 := bytes.map fun b => if b = 43 then 32 else b

/-- A property of all bytes, checked for one after another. -/
theorem each_byte {P : UInt8 → Prop} (all : ∀ n : Fin 256, P (UInt8.ofFin n)) (b : UInt8) : P b :=
  UInt8.ofFin_toFin b ▸ all b.toFin

theorem hexDigit_ok : ∀ n : UInt8, n < 16 → hexValue (hexDigit n) = some n ∧ hexDigit n ≠ 43 ∧ plain (hexDigit n) = true :=
  each_byte (by decide +kernel)

theorem halves : ∀ b : UInt8, b / 16 < 16 ∧ b % 16 < 16 ∧ 16 * (b / 16) + b % 16 = b := each_byte (by decide +kernel)

theorem unquote_cons {b : UInt8} (other : b ≠ 37) (rest : List UInt8) : unquote (b :: rest) = b :: unquote rest := by
  match rest with
  | [] => rfl
  | [_] => rfl
  | _ :: _ :: _ => rw [unquote, if_neg other]

/-- One byte is read back, whatever follows. -/
theorem unquote_quoteByte (b : UInt8) (rest : List UInt8) :
    unquote (spaced (quoteByte b) ++ rest) = b :: unquote rest := by
  unfold quoteByte
  by_cases kept : plain b = true
  · have marks : b ≠ 43 ∧ b ≠ 37 := by
      constructor
      · rintro rfl
        exact absurd kept (by decide)
      · rintro rfl
        exact absurd kept (by decide)
    rw [if_pos kept]
    simp only [spaced, List.map_cons, List.map_nil, if_neg marks.1]
    exact unquote_cons marks.2 rest
  · rw [if_neg kept]
    by_cases space : b = 32
    · subst space
      exact unquote_cons (by decide) rest
    · rw [if_neg space]
      obtain ⟨high, low, whole⟩ := halves b
      obtain ⟨readHigh, plainHigh, _⟩ := hexDigit_ok _ high
      obtain ⟨readLow, plainLow, _⟩ := hexDigit_ok _ low
      have mark : (37 : UInt8) ≠ 43 := by decide
      simp only [spaced, List.map_cons, List.map_nil, if_neg mark, if_neg plainHigh, if_neg plainLow, List.cons_append,
        List.nil_append, unquote, if_true, readHigh, readLow, whole]

/-- What was quoted is read back. -/
theorem unquote_quotePlus : ∀ bytes : List UInt8, unquote (spaced (quotePlus bytes)) = bytes
  | [] => rfl
  | b :: bytes => by
    have parts : spaced (quotePlus (b :: bytes)) = spaced (quoteByte b) ++ spaced (quotePlus bytes) := by
      simp only [quotePlus, List.flatMap_cons, spaced, List.map_append]
    rw [parts, unquote_quoteByte, unquote_quotePlus bytes]

/-- A quoted text holds letters, digits and `_.-~%+` only. -/
theorem mem_quotePlus {bytes : List UInt8} {b : UInt8} (member : b ∈ quotePlus bytes) : plain b = true ∨ b = 37 ∨ b = 43 := by
  obtain ⟨source, _, inside⟩ := List.mem_flatMap.mp member
  obtain ⟨high, low, _⟩ := halves source
  unfold quoteByte at inside
  split at inside
  · rename_i kept
    rw [List.mem_singleton.mp inside]
    exact .inl kept
  · split at inside
    · exact .inr (.inr (List.mem_singleton.mp inside))
    · simp only [List.mem_cons, List.not_mem_nil, or_false] at inside
      rcases inside with rfl | rfl | rfl
      · exact .inr (.inl rfl)
      · exact .inl (hexDigit_ok _ high).2.2
      · exact .inl (hexDigit_ok _ low).2.2

end Effect.Percent
