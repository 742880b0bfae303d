import RouteAtlas.Text.Literal

/-! # Content digests

The SHA-256 digest of a text, as lower-case hexadecimal digits of its UTF-8 bytes' digest.
-/

namespace RouteAtlas.Text.Digest

def rotate (word by_ : UInt32) : UInt32 :=
  (word >>> by_) ||| (word <<< (32 - by_))

structure Words where
  a : UInt32
  b : UInt32
  c : UInt32
  d : UInt32
  e : UInt32
  f : UInt32
  g : UInt32
  h : UInt32

namespace Words

/-- Add two groups of words, place by place. -/
def add (x y : Words) : Words :=
  ⟨x.a + y.a, x.b + y.b, x.c + y.c, x.d + y.d, x.e + y.e, x.f + y.f, x.g + y.g, x.h + y.h⟩

def toList (x : Words) : List UInt32 :=
  [x.a, x.b, x.c, x.d, x.e, x.f, x.g, x.h]

end Words

/-- The words that a digest starts from. -/
def initial : Words :=
  ⟨0x6a09e667, 0xbb67ae85, 0x3c6ef372, 0xa54ff53a, 0x510e527f, 0x9b05688c, 0x1f83d9ab, 0x5be0cd19⟩

/-- The constants of the sixty-four rounds. -/
def constants : List UInt32 :=
  [0x428a2f98, 0x71374491, 0xb5c0fbcf, 0xe9b5dba5, 0x3956c25b, 0x59f111f1, 0x923f82a4, 0xab1c5ed5,
    0xd807aa98, 0x12835b01, 0x243185be, 0x550c7dc3, 0x72be5d74, 0x80deb1fe, 0x9bdc06a7, 0xc19bf174,
    0xe49b69c1, 0xefbe4786, 0x0fc19dc6, 0x240ca1cc, 0x2de92c6f, 0x4a7484aa, 0x5cb0a9dc, 0x76f988da,
    0x983e5152, 0xa831c66d, 0xb00327c8, 0xbf597fc7, 0xc6e00bf3, 0xd5a79147, 0x06ca6351, 0x14292967,
    0x27b70a85, 0x2e1b2138, 0x4d2c6dfc, 0x53380d13, 0x650a7354, 0x766a0abb, 0x81c2c92e, 0x92722c85,
    0xa2bfe8a1, 0xa81a664b, 0xc24b8b70, 0xc76c51a3, 0xd192e819, 0xd6990624, 0xf40e3585, 0x106aa070,
    0x19a4c116, 0x1e376c08, 0x2748774c, 0x34b0bcb5, 0x391c0cb3, 0x4ed8aa4a, 0x5b9cca4f, 0x682e6ff3,
    0x748f82ee, 0x78a5636f, 0x84c87814, 0x8cc70208, 0x90befffa, 0xa4506ceb, 0xbef9a3f7, 0xc67178f2]

/-- The `count` bytes of a number, the highest first. -/
def bytesOf : Nat → Nat → List UInt8
  | 0, _ => []
  | count + 1, n => bytesOf count (n / 256) ++ [UInt8.ofNat n]

/-- Fill a message up to whole blocks: a set bit, zeros, and the length in bits. -/
def pad (message : List UInt8) : List UInt8 :=
  let zeros := (119 - message.length % 64) % 64
  message ++ 0x80 :: List.replicate zeros 0 ++ bytesOf 8 (8 * message.length)

/-- Read words of four bytes, the highest byte first. -/
def words : List UInt8 → List UInt32
  | a :: b :: c :: d :: rest =>
    ((a.toUInt32 <<< 24) ||| (b.toUInt32 <<< 16) ||| (c.toUInt32 <<< 8) ||| d.toUInt32)
      :: words rest
  | _ => []

/-- Prepend the next `count` words of the schedule to those so far, latest first. -/
def schedule : Nat → List UInt32 → List UInt32
  | 0, latest => latest
  | count + 1, latest =>
    let x := latest.getD 14 0
    let y := latest.getD 1 0
    let low := rotate x 7 ^^^ rotate x 18 ^^^ (x >>> 3)
    let high := rotate y 17 ^^^ rotate y 19 ^^^ (y >>> 10)
    schedule count ((latest.getD 15 0 + low + latest.getD 6 0 + high) :: latest)

/-- One round on the working words, with a constant and a word of the schedule. -/
def round (s : Words) (input : UInt32 × UInt32) : Words :=
  let sum := rotate s.e 6 ^^^ rotate s.e 11 ^^^ rotate s.e 25
  let choice := (s.e &&& s.f) ^^^ (~~~s.e &&& s.g)
  let first := s.h + sum + choice + input.1 + input.2
  let sum' := rotate s.a 2 ^^^ rotate s.a 13 ^^^ rotate s.a 22
  let majority := (s.a &&& s.b) ^^^ (s.a &&& s.c) ^^^ (s.b &&& s.c)
  ⟨first + sum' + majority, s.a, s.b, s.c, s.d + first, s.e, s.f, s.g⟩

/-- Take one block of sixteen words into the digest. -/
def block (s : Words) (message : List UInt32) : Words :=
  s.add ((constants.zip (schedule 48 message.reverse).reverse).foldl round s)

/-- Take `count` blocks of sixteen words into the digest. -/
def blocks : Nat → Words → List UInt32 → Words
  | 0, s, _ => s
  | count + 1, s, message => blocks count (block s (message.take 16)) (message.drop 16)

def ofBytes (message : List UInt8) : List UInt8 :=
  let padded := pad message
  (blocks (padded.length / 64) initial (words padded)).toList.flatMap fun word =>
    bytesOf 4 word.toNat

/-- Digest of a text as sixty-four lower-case hexadecimal digits. -/
def ofText (text : String) : String :=
  String.ofList ((ofBytes text.toUTF8.toList).flatMap fun byte =>
    [hexDigit (byte.toNat / 16), hexDigit (byte.toNat % 16)])

end RouteAtlas.Text.Digest
