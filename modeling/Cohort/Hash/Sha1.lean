/-! # SHA-1

The hash of FIPS 180-4 over lists of bytes, in words of thirty-two bits. -/

namespace Cohort.Hash.Sha1

/-- The five words of the hash. -/
structure State where
  a : UInt32
  b : UInt32
  c : UInt32
  d : UInt32
  e : UInt32
deriving Repr, DecidableEq

/-- The state before the first block. -/
def initial : State :=
  ⟨0x67452301, 0xefcdab89, 0x98badcfe, 0x10325476, 0xc3d2e1f0⟩

/-- Turns a word left by so many bits. -/
def rotate (w : UInt32) (n : UInt32) : UInt32 :=
  (w <<< n) ||| (w >>> (32 - n))

/-- The eight bytes of a length, the highest first. -/
def lengthBytes (n : Nat) : List UInt8 :=
  [56, 48, 40, 32, 24, 16, 8, 0].map fun shift => (n >>> shift).toUInt8

/-- The message with a one bit, zeros and its length in bits behind, up to a whole block. -/
def padded (bytes : List UInt8) : List UInt8 :=
  let zeros := (119 - bytes.length % 64) % 64
  bytes ++ 0x80 :: List.replicate zeros 0 ++ lengthBytes (8 * bytes.length)

/-- Four bytes to a word, the highest first. -/
def words : List UInt8 → List UInt32
  | a :: b :: c :: d :: rest =>
      ((a.toUInt32 <<< 24) ||| (b.toUInt32 <<< 16) ||| (c.toUInt32 <<< 8) ||| d.toUInt32) ::
        words rest
  | _ => []

/-- So many words more: each is made of four of the sixteen before it. The words are in reverse
order. -/
def extend : Nat → List UInt32 → List UInt32
  | 0, ws => ws
  | n + 1, ws =>
      let w := (ws.getD 2 0) ^^^ (ws.getD 7 0) ^^^ (ws.getD 13 0) ^^^ (ws.getD 15 0)
      extend n (rotate w 1 :: ws)

/-- The function and the constant of a round. -/
def mix (round : Nat) (s : State) : UInt32 × UInt32 :=
  if round < 20 then ((s.b &&& s.c) ||| (~~~s.b &&& s.d), 0x5a827999)
  else if round < 40 then (s.b ^^^ s.c ^^^ s.d, 0x6ed9eba1)
  else if round < 60 then ((s.b &&& s.c) ||| (s.b &&& s.d) ||| (s.c &&& s.d), 0x8f1bbcdc)
  else (s.b ^^^ s.c ^^^ s.d, 0xca62c1d6)

/-- The rounds from a number on, one for each word. -/
def rounds : Nat → State → List UInt32 → State
  | _, s, [] => s
  | n, s, w :: ws =>
      let (f, k) := mix n s
      rounds (n + 1) ⟨rotate s.a 5 + f + s.e + k + w, s.a, rotate s.b 30, s.c, s.d⟩ ws

/-- One block of sixteen words. -/
def block (s : State) (ws : List UInt32) : State :=
  let t := rounds 0 s (extend 64 ws.reverse).reverse
  ⟨s.a + t.a, s.b + t.b, s.c + t.c, s.d + t.d, s.e + t.e⟩

/-- So many blocks of a message. -/
def blocks : Nat → State → List UInt32 → State
  | 0, s, _ => s
  | n + 1, s, ws => blocks n (block s (ws.take 16)) (ws.drop 16)

/-- The hash of a message. -/
def digest (bytes : List UInt8) : State :=
  let ws := words (padded bytes)
  blocks (ws.length / 16) initial ws

end Cohort.Hash.Sha1
