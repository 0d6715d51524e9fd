import Mathlib.Data.List.Basic
import Mathlib.Data.String.Basic

/-! Decoding UTF-8 with a replacement for what is malformed. -/
namespace Effect.Utf8

/-- A byte that may follow a lead byte of three or four. -/
def follows (lead next : UInt8) : Bool :=
  (if lead = 0xE0 then 0xA0 else if lead = 0xF0 then 0x90 else 0x80) ≤ next &&
    next ≤ (if lead = 0xED then 0x9F else if lead = 0xF4 then 0x8F else 0xBF)

def continues (byte : UInt8) : Bool := 0x80 ≤ byte && byte ≤ 0xBF

/-- How many bytes at the head of a malformed text stand for one replacement: as many as begin a
character, and at least one. -/
def malformed : List UInt8 → Nat
  | lead :: next :: third :: _ =>
    if 0xE0 ≤ lead && lead ≤ 0xF4 && follows lead next then (if 0xF0 ≤ lead && continues third then 3 else 2) else 1
  | lead :: next :: _ => if 0xE0 ≤ lead && lead ≤ 0xF4 && follows lead next then 2 else 1
  | _ => 1

/-- The characters of at most so many steps. -/
def decodeSteps : Nat → List UInt8 → List Char
  | 0, _ => []
  | _, [] => []
  | steps + 1, bytes =>
    match ByteArray.utf8DecodeChar? bytes.toByteArray 0 with
    | some c => c :: decodeSteps steps (bytes.drop c.utf8Size)
    | none => '\uFFFD' :: decodeSteps steps (bytes.drop (malformed bytes))

/-- `bytes.decode("utf-8", "replace")`. -/
def decodeReplace (bytes : List UInt8) : List Char := decodeSteps bytes.length bytes

/-- `text.encode("utf-8")`. -/
def encode (text : List Char) : List UInt8 := text.flatMap String.utf8EncodeChar

theorem encode_cons (c : Char) (cs : List Char) : encode (c :: cs) = String.utf8EncodeChar c ++ encode cs := List.flatMap_cons

theorem decodeSteps_encode : ∀ (text : List Char) (steps : Nat), text.length ≤ steps → decodeSteps steps (encode text) = text
  | [], 0, _ => rfl
  | [], _ + 1, _ => rfl
  | c :: cs, steps + 1, enough => by
    have head : ByteArray.utf8DecodeChar? (encode (c :: cs)).toByteArray 0 = some c := by
      rw [encode_cons, List.toByteArray_append]
      exact ByteArray.utf8DecodeChar?_utf8EncodeChar_append
    have rest : (encode (c :: cs)).drop c.utf8Size = encode cs := by
      rw [encode_cons, ← String.length_utf8EncodeChar c, List.drop_left]
    have later := decodeSteps_encode cs steps (Nat.le_of_succ_le_succ enough)
    cases shown : encode (c :: cs) with
    | nil =>
      have length := congrArg List.length shown
      rw [encode_cons, List.length_append, String.length_utf8EncodeChar] at length
      have size := Char.utf8Size_pos c
      simp only [List.length_nil] at length
      omega
    | cons b bs =>
      rw [shown] at head rest
      simp only [decodeSteps, head, rest, later]

theorem length_encode : ∀ text : List Char, text.length ≤ (encode text).length
  | [] => Nat.zero_le _
  | c :: cs => by
    rw [encode_cons, List.length_append, String.length_utf8EncodeChar, List.length_cons]
    have tail := length_encode cs
    have size := Char.utf8Size_pos c
    omega

/-- What was encoded is decoded. -/
theorem decodeReplace_encode (text : List Char) : decodeReplace (encode text) = text :=
  decodeSteps_encode text _ (length_encode text)

/-! ### Byte arrays -/

theorem toList_loop (bytes : ByteArray) : ∀ (steps i : Nat) (done : List UInt8), bytes.size - i = steps →
    ByteArray.toList.loop bytes i done = done.reverse ++ bytes.data.toList.drop i := by
  intro steps
  induction steps with
  | zero =>
    intro i done left
    have size : bytes.data.toList.length = bytes.size := rfl
    rw [ByteArray.toList.loop, if_neg (by omega), List.drop_eq_nil_of_le (by omega), List.append_nil]
  | succ steps ih =>
    intro i done left
    have inside : i < bytes.size := by omega
    have size : bytes.data.toList.length = bytes.size := rfl
    have byte : bytes.get! i = bytes.data.toList[i] := by
      simp [ByteArray.get!, inside]
    rw [ByteArray.toList.loop, if_pos inside, ih _ _ (by omega), byte, List.reverse_cons, List.append_assoc, List.singleton_append,
      List.getElem_cons_drop]

/-- The bytes of an array in order. -/
theorem toList_eq (bytes : ByteArray) : bytes.toList = bytes.data.toList := by
  rw [ByteArray.toList, toList_loop bytes _ 0 [] rfl]
  rfl

theorem toUTF8_toList (s : String) : s.toUTF8.toList = encode s.toList := by
  rw [toList_eq, String.toUTF8, ← String.ofList_toList (s := s), String.toByteArray_ofList, List.utf8Encode, List.toList_data_toByteArray,
    String.toList_ofList]
  rfl

end Effect.Utf8
