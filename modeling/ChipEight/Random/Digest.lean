/-!
# The digest of a text seed

A text that seeds a generator is followed by its SHA-512 digest: eight words, stirred in eighty
rounds by every block of 128 bytes. The constants are the first fractional bits of the square roots
and the cube roots of the first primes.

## Main definitions

- `Digest`: eight words.
- `Digest.compress`: a digest stirred by one block.
- `Digest.ofBytes`: the digest of a list of bytes.
-/

namespace ChipEight

/-- Eight words that are being stirred. -/
structure Digest where
  a : UInt64
  b : UInt64
  c : UInt64
  d : UInt64
  e : UInt64
  f : UInt64
  g : UInt64
  h : UInt64
  deriving DecidableEq, Repr

namespace Digest

/-- Whether a number has no divisor but one and itself. -/
def isPrime (n : Nat) : Bool :=
  decide (2 ≤ n) && (List.range n).all fun k => k < 2 || n % k != 0

/-- The first eighty primes. -/
def primes : List Nat :=
  (List.range 410).filter isPrime

/-- The largest number below `2 ^ bits` whose `k`-th power is at most `n`. -/
def root (k n : Nat) : Nat → Nat
  | 0 => 0
  | bits + 1 => go (bits + 1) 0
where
  /-- The root with its higher bits found and so many bits to be found. -/
  go : Nat → Nat → Nat
    | 0, r => r
    | bits + 1, r =>
      let higher := r + Nat.pow 2 bits
      if Nat.pow higher k ≤ n then go bits higher else go bits r

/-- The first 64 fractional bits of the `k`-th root of a number below `2 ^ 9`. -/
def fraction (k n : Nat) : UInt64 :=
  UInt64.ofNat (root k (n * Nat.pow 2 (64 * k)) 73)

/-- The constants of the eighty rounds. -/
def constants : List UInt64 :=
  primes.map (fraction 3)

/-- The digest before the first block. -/
def start : Digest where
  a := fraction 2 2
  b := fraction 2 3
  c := fraction 2 5
  d := fraction 2 7
  e := fraction 2 11
  f := fraction 2 13
  g := fraction 2 17
  h := fraction 2 19

/-- A word turned to the right. -/
def turn (w : UInt64) (n : UInt64) : UInt64 :=
  (w >>> n) ||| (w <<< (64 - n))

/-- The word of eight bytes, the most significant one first. -/
def wordOf (bs : List UInt8) : UInt64 :=
  bs.foldl (fun w b => (w <<< 8) ||| b.toUInt64) 0

/-- The bytes of a word, the most significant one first. -/
def bytesOf (w : UInt64) : List UInt8 :=
  (List.range 8).map fun k => (w >>> UInt64.ofNat (56 - 8 * k)).toUInt8

/-- The next word of the schedule, from the sixteen words before it. -/
def scheduled (last : Array UInt64) : UInt64 :=
  let n := last.size
  let x := last.getD (n - 15) 0
  let y := last.getD (n - 2) 0
  last.getD (n - 16) 0 + (turn x 1 ^^^ turn x 8 ^^^ (x >>> 7)) + last.getD (n - 7) 0 +
    (turn y 19 ^^^ turn y 61 ^^^ (y >>> 6))

/-- The eighty words that a block is spread over. -/
def schedule (block : List UInt8) : List UInt64 :=
  let first := (List.range 16).map fun k => wordOf ((block.drop (8 * k)).take 8)
  ((List.range 64).foldl (fun ws _ => ws.push (scheduled ws)) first.toArray).toList

/-- One round with a constant and a word of the schedule. -/
def round (s : Digest) (constant word : UInt64) : Digest :=
  let choice := (s.e &&& s.f) ^^^ (~~~s.e &&& s.g)
  let majority := (s.a &&& s.b) ^^^ (s.a &&& s.c) ^^^ (s.b &&& s.c)
  let first := s.h + (turn s.e 14 ^^^ turn s.e 18 ^^^ turn s.e 41) + choice + constant + word
  let second := (turn s.a 28 ^^^ turn s.a 34 ^^^ turn s.a 39) + majority
  { a := first + second, b := s.a, c := s.b, d := s.c, e := s.d + first, f := s.e, g := s.f,
    h := s.g }

/-- The sum of two digests, word by word. -/
def add (s t : Digest) : Digest where
  a := s.a + t.a
  b := s.b + t.b
  c := s.c + t.c
  d := s.d + t.d
  e := s.e + t.e
  f := s.f + t.f
  g := s.g + t.g
  h := s.h + t.h

/-- A digest stirred by one block. -/
def compress (s : Digest) (block : List UInt8) : Digest :=
  s.add ((constants.zip (schedule block)).foldl (fun s step => s.round step.1 step.2) s)

/-- Bytes filled up to whole blocks: a set bit, zeros, and the number of bits in sixteen bytes. -/
def padded (bs : List UInt8) : List UInt8 :=
  let zeros := (111 + 128 - bs.length % 128) % 128
  let bits := (List.range 16).map fun k => UInt8.ofNat (8 * bs.length / Nat.pow 256 (15 - k))
  bs ++ [0x80] ++ List.replicate zeros 0 ++ bits

/-- The digest of a list of bytes. -/
def ofBytes (bs : List UInt8) : Digest :=
  let whole := padded bs
  (List.range (whole.length / 128)).foldl
    (fun s k => s.compress ((whole.drop (128 * k)).take 128)) start

/-- The bytes of a digest in order. -/
def bytes (s : Digest) : List UInt8 :=
  [s.a, s.b, s.c, s.d, s.e, s.f, s.g, s.h].flatMap bytesOf

end Digest

end ChipEight
