import Mathlib.Algebra.Group.Nat.Defs
import Mathlib.Data.List.Basic

/-! SHA-256 (FIPS 180-4) over words kept as natural numbers below `2 ^ 32`. -/
namespace Effect.Sha256

def modulus : Nat := 4294967296

def rotr (x n : Nat) : Nat := Nat.lor (Nat.shiftRight x n) (Nat.mod (Nat.shiftLeft x (Nat.sub 32 n)) modulus)

/-- Evaluate a number before it is passed on. -/
def strict (n : Nat) (next : Nat → α) : α :=
  match n with
  | 0 => next 0
  | n + 1 => next (Nat.succ n)

def constants : List Nat := [
  0x428a2f98, 0x71374491, 0xb5c0fbcf, 0xe9b5dba5, 0x3956c25b, 0x59f111f1, 0x923f82a4, 0xab1c5ed5,
  0xd807aa98, 0x12835b01, 0x243185be, 0x550c7dc3, 0x72be5d74, 0x80deb1fe, 0x9bdc06a7, 0xc19bf174,
  0xe49b69c1, 0xefbe4786, 0x0fc19dc6, 0x240ca1cc, 0x2de92c6f, 0x4a7484aa, 0x5cb0a9dc, 0x76f988da,
  0x983e5152, 0xa831c66d, 0xb00327c8, 0xbf597fc7, 0xc6e00bf3, 0xd5a79147, 0x06ca6351, 0x14292967,
  0x27b70a85, 0x2e1b2138, 0x4d2c6dfc, 0x53380d13, 0x650a7354, 0x766a0abb, 0x81c2c92e, 0x92722c85,
  0xa2bfe8a1, 0xa81a664b, 0xc24b8b70, 0xc76c51a3, 0xd192e819, 0xd6990624, 0xf40e3585, 0x106aa070,
  0x19a4c116, 0x1e376c08, 0x2748774c, 0x34b0bcb5, 0x391c0cb3, 0x4ed8aa4a, 0x5b9cca4f, 0x682e6ff3,
  0x748f82ee, 0x78a5636f, 0x84c87814, 0x8cc70208, 0x90befffa, 0xa4506ceb, 0xbef9a3f7, 0xc67178f2]

structure Registers where
  a : Nat
  b : Nat
  c : Nat
  d : Nat
  e : Nat
  f : Nat
  g : Nat
  h : Nat

def initial : Registers :=
  ⟨0x6a09e667, 0xbb67ae85, 0x3c6ef372, 0xa54ff53a, 0x510e527f, 0x9b05688c, 0x1f83d9ab, 0x5be0cd19⟩

def smallSigma0 (x : Nat) : Nat := Nat.xor (Nat.xor (rotr x 7) (rotr x 18)) (Nat.shiftRight x 3)
def smallSigma1 (x : Nat) : Nat := Nat.xor (Nat.xor (rotr x 17) (rotr x 19)) (Nat.shiftRight x 10)
def bigSigma0 (x : Nat) : Nat := Nat.xor (Nat.xor (rotr x 2) (rotr x 13)) (rotr x 22)
def bigSigma1 (x : Nat) : Nat := Nat.xor (Nat.xor (rotr x 6) (rotr x 11)) (rotr x 25)
def choose (x y z : Nat) : Nat := Nat.xor (Nat.land x y) (Nat.land (Nat.xor x 4294967295) z)
def majority (x y z : Nat) : Nat := Nat.xor (Nat.xor (Nat.land x y) (Nat.land x z)) (Nat.land y z)

def add32 (x y : Nat) : Nat := Nat.mod (Nat.add x y) modulus

/-- The rounds of one block, one for each constant; the schedule is a window of the
last sixteen words, oldest first. -/
def rounds : List Nat → (w₀ w₁ w₂ w₃ w₄ w₅ w₆ w₇ w₈ w₉ w₁₀ w₁₁ w₁₂ w₁₃ w₁₄ w₁₅ : Nat) → Registers → Registers
  | [], _, _, _, _, _, _, _, _, _, _, _, _, _, _, _, _, r => r
  | k :: ks, w₀, w₁, w₂, w₃, w₄, w₅, w₆, w₇, w₈, w₉, w₁₀, w₁₁, w₁₂, w₁₃, w₁₄, w₁₅, ⟨a, b, c, d, e, f, g, h⟩ =>
    strict (add32 (Nat.add (smallSigma1 w₁₄) w₉) (Nat.add (smallSigma0 w₁) w₀)) fun next =>
    strict (Nat.add (Nat.add (Nat.add h (bigSigma1 e)) (choose e f g)) (Nat.add k w₀)) fun t =>
    strict (add32 t (Nat.add (bigSigma0 a) (majority a b c))) fun first =>
    strict (add32 d t) fun fifth =>
    rounds ks w₁ w₂ w₃ w₄ w₅ w₆ w₇ w₈ w₉ w₁₀ w₁₁ w₁₂ w₁₃ w₁₄ w₁₅ next ⟨first, a, b, c, fifth, e, f, g⟩

def Registers.add : Registers → Registers → Registers
  | ⟨a, b, c, d, e, f, g, h⟩, ⟨a', b', c', d', e', f', g', h'⟩ =>
    strict (add32 a a') fun a => strict (add32 b b') fun b => strict (add32 c c') fun c =>
    strict (add32 d d') fun d => strict (add32 e e') fun e => strict (add32 f f') fun f =>
    strict (add32 g g') fun g => strict (add32 h h') fun h => ⟨a, b, c, d, e, f, g, h⟩

/-- Big-endian words. -/
def words : List Nat → List Nat
  | a :: b :: c :: d :: rest => (((a * 256 + b) * 256 + c) * 256 + d) :: words rest
  | _ => []

/-- One bit, zeros, and the length in bits: a whole number of blocks. -/
def pad (message : List Nat) : List Nat :=
  let size := message.length
  message ++ 128 :: List.replicate ((119 - size % 64) % 64) 0 ++
    (List.range 8).map fun i => size * 8 / 256 ^ (7 - i) % 256

/-- Compress the blocks of sixteen words in turn. -/
def blocks : Nat → List Nat → Registers → Registers
  | n + 1, w₀ :: w₁ :: w₂ :: w₃ :: w₄ :: w₅ :: w₆ :: w₇ :: w₈ :: w₉ :: w₁₀ :: w₁₁ :: w₁₂ :: w₁₃ :: w₁₄ :: w₁₅ :: ws, r =>
    strict w₀ fun w₀ => strict w₁ fun w₁ => strict w₂ fun w₂ => strict w₃ fun w₃ =>
    strict w₄ fun w₄ => strict w₅ fun w₅ => strict w₆ fun w₆ => strict w₇ fun w₇ =>
    strict w₈ fun w₈ => strict w₉ fun w₉ => strict w₁₀ fun w₁₀ => strict w₁₁ fun w₁₁ =>
    strict w₁₂ fun w₁₂ => strict w₁₃ fun w₁₃ => strict w₁₄ fun w₁₄ => strict w₁₅ fun w₁₅ =>
    blocks n ws (r.add (rounds constants w₀ w₁ w₂ w₃ w₄ w₅ w₆ w₇ w₈ w₉ w₁₀ w₁₁ w₁₂ w₁₃ w₁₄ w₁₅ r))
  | _, _, r => r

def hexDigit (n : Nat) : Char :=
  match n % 16 with
  | 0 => '0' | 1 => '1' | 2 => '2' | 3 => '3' | 4 => '4' | 5 => '5' | 6 => '6' | 7 => '7'
  | 8 => '8' | 9 => '9' | 10 => 'a' | 11 => 'b' | 12 => 'c' | 13 => 'd' | 14 => 'e' | _ => 'f'

def hexWord (n : Nat) : List Char :=
  [hexDigit (n / 268435456), hexDigit (n / 16777216), hexDigit (n / 1048576), hexDigit (n / 65536),
    hexDigit (n / 4096), hexDigit (n / 256), hexDigit (n / 16), hexDigit n]

def Registers.hex : Registers → List Char
  | ⟨a, b, c, d, e, f, g, h⟩ => hexWord a ++ hexWord b ++ hexWord c ++ hexWord d ++ hexWord e ++ hexWord f ++
    hexWord g ++ hexWord h

/-- The lowercase hexadecimal digest. -/
def hexDigest (message : List UInt8) : List Char :=
  let ws := words (pad (message.map UInt8.toNat))
  (blocks (ws.length / 16) ws initial).hex

@[simp] theorem hexDigest_length (message : List UInt8) : (hexDigest message).length = 64 := by
  simp [hexDigest, Registers.hex, hexWord]

theorem mem_hexDigest {message : List UInt8} (member : c ∈ hexDigest message) : ∃ n, c = hexDigit n := by
  simp only [hexDigest, Registers.hex, hexWord, List.mem_append, List.mem_cons, List.not_mem_nil, or_false] at member
  rcases member with ((((((h | h) | h) | h) | h) | h) | h) | h
  all_goals rcases h with h | h | h | h | h | h | h | h <;> exact ⟨_, h⟩

end Effect.Sha256
