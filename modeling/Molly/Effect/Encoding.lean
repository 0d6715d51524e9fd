import Mathlib.Data.List.Basic

/-! Character encodings: the bytes of a text, and the encodings that write ASCII characters as they are. -/
namespace Effect

/-- The bytes in front of a text, and the bytes of each character that the encoding has. -/
structure Encoding where
  mark : List UInt8
  char : Char → Option (List UInt8)

namespace Encoding

variable {e : Encoding} {cs ds : List Char} {bytes : List UInt8}

def chars (e : Encoding) : List Char → Option (List UInt8)
  | [] => some []
  | c :: cs =>
    match e.char c, e.chars cs with
    | some first, some rest => some (first ++ rest)
    | _, _ => none

def encode (e : Encoding) (text : List Char) : Option (List UInt8) := (e.chars text).map (e.mark ++ ·)

/-- Every ASCII character is written as its own byte. -/
def KeepsAscii (e : Encoding) : Prop := ∀ c, c.toNat < 128 → e.char c = some [c.toNat.toUInt8]

theorem chars_append (written : e.chars (cs ++ ds) = some bytes) :
    ∃ front back, e.chars cs = some front ∧ e.chars ds = some back ∧ bytes = front ++ back := by
  induction cs generalizing bytes with
  | nil => exact ⟨[], bytes, rfl, written, rfl⟩
  | cons c cs ih =>
    rw [List.cons_append, chars] at written
    split at written
    · rename_i first rest one others
      obtain ⟨front, back, ofFront, ofBack, rfl⟩ := ih others
      cases written
      exact ⟨first ++ front, back, by simp [chars, one, ofFront], ofBack, (List.append_assoc ..).symm⟩
    · cases written

theorem chars_ascii (keeps : e.KeepsAscii) (ascii : ∀ c ∈ cs, c.toNat < 128) :
    e.chars cs = some (cs.map fun c => c.toNat.toUInt8) := by
  induction cs with
  | nil => rfl
  | cons c cs ih =>
    have rest := ih fun d inRest => ascii d (List.mem_cons_of_mem c inRest)
    simp [chars, keeps c (ascii c List.mem_cons_self), rest]

/-! ### Encodings -/

def utf8 : Encoding := ⟨[], fun c => some (String.utf8EncodeChar c)⟩

/-- One byte a character. -/
def single (table : Char → Option UInt8) : Encoding := ⟨[], fun c => (table c).map fun b => [b]⟩

def latin1 : Encoding := single fun c => if c.toNat < 256 then some c.toNat.toUInt8 else none

/-- The two bytes of a unit. -/
def unitBytes (bigEndian : Bool) (unit : Nat) : List UInt8 :=
  if bigEndian then [(unit / 256).toUInt8, (unit % 256).toUInt8] else [(unit % 256).toUInt8, (unit / 256).toUInt8]

/-- The unit of a character, or its two surrogates. -/
def units (c : Char) : List Nat :=
  if c.toNat < 0x10000 then [c.toNat]
  else [0xD800 + (c.toNat - 0x10000) / 0x400, 0xDC00 + (c.toNat - 0x10000) % 0x400]

/-- A byte order mark, then the units. -/
def utf16 (bigEndian : Bool) : Encoding :=
  ⟨unitBytes bigEndian 0xFEFF, fun c => some ((units c).flatMap (unitBytes bigEndian))⟩

theorem utf8_keepsAscii : utf8.KeepsAscii := by
  intro c ascii
  have small : c.val.toNat ≤ 127 := Nat.le_of_lt_succ ascii
  simp only [utf8, String.utf8EncodeChar, if_pos small]
  rfl

theorem single_keepsAscii {table : Char → Option UInt8} (keeps : ∀ c, c.toNat < 128 → table c = some c.toNat.toUInt8) :
    (single table).KeepsAscii := by
  intro c ascii
  simp [single, keeps c ascii]

theorem latin1_keepsAscii : latin1.KeepsAscii :=
  single_keepsAscii fun _ ascii => if_pos (by omega)

end Encoding
end Effect
