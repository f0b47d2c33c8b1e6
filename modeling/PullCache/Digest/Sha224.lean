import PullCache.Text.Digit

/-!
# SHA-224

The hash that shortens container names too long for an annotation key. The message is padded to
blocks of sixteen words, and each block is mixed into a state of eight words; the digest is the
first seven of them. `length_hex` says that a digest is written with 56 hexadecimal digits.
-/

namespace PullCache.Sha224

open Text (hexDigit)

/-- The state between two blocks. -/
structure State where
  (a b c d e f g h : UInt32)
deriving DecidableEq, Repr

/-- The state before the first block. -/
def State.initial : State :=
  ⟨0xc1059ed8, 0x367cd507, 0x3070dd17, 0xf70e5939, 0xffc00b31, 0x68581511, 0x64f98fa7, 0xbefa4fa4⟩

/-- The constant of each of the 64 rounds. -/
def roundConstants : List UInt32 :=
  [0x428a2f98, 0x71374491, 0xb5c0fbcf, 0xe9b5dba5, 0x3956c25b, 0x59f111f1, 0x923f82a4, 0xab1c5ed5,
   0xd807aa98, 0x12835b01, 0x243185be, 0x550c7dc3, 0x72be5d74, 0x80deb1fe, 0x9bdc06a7, 0xc19bf174,
   0xe49b69c1, 0xefbe4786, 0x0fc19dc6, 0x240ca1cc, 0x2de92c6f, 0x4a7484aa, 0x5cb0a9dc, 0x76f988da,
   0x983e5152, 0xa831c66d, 0xb00327c8, 0xbf597fc7, 0xc6e00bf3, 0xd5a79147, 0x06ca6351, 0x14292967,
   0x27b70a85, 0x2e1b2138, 0x4d2c6dfc, 0x53380d13, 0x650a7354, 0x766a0abb, 0x81c2c92e, 0x92722c85,
   0xa2bfe8a1, 0xa81a664b, 0xc24b8b70, 0xc76c51a3, 0xd192e819, 0xd6990624, 0xf40e3585, 0x106aa070,
   0x19a4c116, 0x1e376c08, 0x2748774c, 0x34b0bcb5, 0x391c0cb3, 0x4ed8aa4a, 0x5b9cca4f, 0x682e6ff3,
   0x748f82ee, 0x78a5636f, 0x84c87814, 0x8cc70208, 0x90befffa, 0xa4506ceb, 0xbef9a3f7, 0xc67178f2]

/-- Turns a word to the right by the given number of bits. -/
def rotateRight (w : UInt32) (n : UInt32) : UInt32 :=
  (w >>> n) ||| (w <<< (32 - n))

/-- A number as so many bytes, the highest first. -/
def bigEndian (n : Nat) : Nat → List UInt8
  | 0 => []
  | size + 1 => UInt8.ofNat (n / Nat.pow 256 size) :: bigEndian n size

/-- The word that four bytes make, the first the highest. -/
def word (b₃ b₂ b₁ b₀ : UInt8) : UInt32 :=
  (b₃.toUInt32 <<< 24) ||| (b₂.toUInt32 <<< 16) ||| (b₁.toUInt32 <<< 8) ||| b₀.toUInt32

/-- Reads bytes as words. -/
def words : List UInt8 → List UInt32
  | b₃ :: b₂ :: b₁ :: b₀ :: rest => word b₃ b₂ b₁ b₀ :: words rest
  | _ => []

/-- Fills the message up to whole blocks: a one bit, zeros, and the message's length in bits. -/
def pad (message : List UInt8) : List UInt8 :=
  message ++ 0x80 :: List.replicate ((119 - message.length % 64) % 64) 0 ++
    bigEndian (8 * message.length) 8

/-- The blocks of a padded message. -/
def blocks (message : List UInt32) : List (List UInt32) :=
  (List.range (message.length / 16)).map fun i ↦ (message.drop (16 * i)).take 16

/-- Adds so many words to a schedule that is kept newest first. -/
def extendSchedule : Nat → List UInt32 → List UInt32
  | 0, newest => newest
  | n + 1, newest =>
    let w₂ := newest.getD 1 0
    let w₁₅ := newest.getD 14 0
    let s₀ := rotateRight w₁₅ 7 ^^^ rotateRight w₁₅ 18 ^^^ (w₁₅ >>> 3)
    let s₁ := rotateRight w₂ 17 ^^^ rotateRight w₂ 19 ^^^ (w₂ >>> 10)
    extendSchedule n ((newest.getD 15 0 + s₀ + newest.getD 6 0 + s₁) :: newest)

/-- The words that the 64 rounds of a block take in, one each. -/
def schedule (block : List UInt32) : List UInt32 :=
  (extendSchedule 48 block.reverse).reverse

/-- One round. -/
def round (s : State) (constant w : UInt32) : State :=
  let s₁ := rotateRight s.e 6 ^^^ rotateRight s.e 11 ^^^ rotateRight s.e 25
  let choice := (s.e &&& s.f) ^^^ (~~~s.e &&& s.g)
  let t₁ := s.h + s₁ + choice + constant + w
  let s₀ := rotateRight s.a 2 ^^^ rotateRight s.a 13 ^^^ rotateRight s.a 22
  let majority := (s.a &&& s.b) ^^^ (s.a &&& s.c) ^^^ (s.b &&& s.c)
  ⟨t₁ + (s₀ + majority), s.a, s.b, s.c, s.d + t₁, s.e, s.f, s.g⟩

/-- Mixes a block into the state. -/
def compress (s : State) (block : List UInt32) : State :=
  let t := (roundConstants.zip (schedule block)).foldl (fun t kw ↦ round t kw.1 kw.2) s
  ⟨s.a + t.a, s.b + t.b, s.c + t.c, s.d + t.d, s.e + t.e, s.f + t.f, s.g + t.g, s.h + t.h⟩

/-- The 28 bytes of the digest. -/
def digest (message : List UInt8) : List UInt8 :=
  let s := (blocks (words (pad message))).foldl compress .initial
  [s.a, s.b, s.c, s.d, s.e, s.f, s.g].flatMap fun w ↦ bigEndian w.toNat 4

/-- Two hexadecimal digits for each byte. -/
def hexOfBytes (bytes : List UInt8) : List Char :=
  bytes.flatMap fun b ↦ [hexDigit (b.toNat / 16), hexDigit (b.toNat % 16)]

/-- The digest of a text's UTF-8 bytes, in lower-case hexadecimal. -/
def hex (text : String) : List Char :=
  hexOfBytes (digest text.toUTF8.data.toList)

/-! ### Lengths -/

@[simp] theorem length_bigEndian (n size : Nat) : (bigEndian n size).length = size := by
  induction size with
  | zero => rfl
  | succ size ih => simp [bigEndian, ih]

@[simp] theorem length_digest (message : List UInt8) : (digest message).length = 28 := by
  simp [digest, List.flatMap]

@[simp] theorem length_hexOfBytes (bytes : List UInt8) :
    (hexOfBytes bytes).length = 2 * bytes.length := by
  induction bytes with
  | nil => rfl
  | cons b bytes ih =>
    rw [hexOfBytes, List.flatMap_cons, ← hexOfBytes, List.length_append, ih, List.length_cons]
    simp only [List.length_cons, List.length_nil]
    omega

/-- A digest is written with 56 hexadecimal digits. -/
@[simp] theorem length_hex (text : String) : (hex text).length = 56 := by
  simp [hex]

end PullCache.Sha224
