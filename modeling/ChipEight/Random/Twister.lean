/-!
# The Mersenne twister

The generator MT19937: a state of 624 words, renewed all at once when it is used up, each word
tempered on its way out. A seed is an integer; its absolute value, cut into 32-bit words, is the key
that the state is stirred with.

## Main definitions

- `Twister`: the state and the place of the next word in it.
- `Twister.seed`: the state for an integer seed.
- `Twister.next`: the next 32-bit word.
- `Twister.nextByte`: the next byte, drawn by rejection from nine-bit numbers.
-/

namespace ChipEight

/-- The state of the generator and how many of its words are used up. -/
structure Twister where
  words : Vector UInt32 624
  used : Nat

namespace Twister

/-- The word at a place, places taken modulo the length of the state. -/
def word (s : Vector UInt32 624) (i : Nat) : UInt32 :=
  s[Fin.ofNat 624 i]

/-- The state with one word replaced, places taken modulo its length. -/
def put (s : Vector UInt32 624) (i : Nat) (w : UInt32) : Vector UInt32 624 :=
  s.set (Fin.ofNat 624 i).val w (Fin.ofNat 624 i).isLt

/-- A word with its two highest bits mixed into its lowest ones. -/
def fold30 (w : UInt32) : UInt32 :=
  w ^^^ (w >>> 30)

/-- The linear filling of the state from one word. -/
def fill (w : UInt32) : Vector UInt32 624 :=
  (List.range 623).foldl
    (fun s k => put s (k + 1) (1812433253 * fold30 (word s k) + UInt32.ofNat (k + 1)))
    (put (Vector.replicate 624 0) 0 w)

/-- A state that is being stirred, and the place that comes next. -/
structure Stir where
  words : Vector UInt32 624
  place : Nat

/-- One stirring step: the word at the place is replaced, and the place moves on. Past the end the
last word is copied to the front, which is skipped. -/
def Stir.step (s : Stir) (multiplier : UInt32) (add : UInt32 → UInt32) : Stir :=
  let mixed := word s.words s.place ^^^ (fold30 (word s.words (s.place - 1)) * multiplier)
  let words := put s.words s.place (add mixed)
  if 624 ≤ s.place + 1 then ⟨put words 0 (word words 623), 1⟩ else ⟨words, s.place + 1⟩

/-- The state stirred with a key. -/
def ofKey (key : Array UInt32) : Twister :=
  let start : Stir := ⟨fill 19650218, 1⟩
  let keyed := (List.range (max 624 key.size)).foldl
    (fun s t =>
      let j := t % key.size
      s.step 1664525 fun w => w + key.getD j 0 + UInt32.ofNat j)
    start
  let settled := (List.range 623).foldl
    (fun s _ => s.step 1566083941 fun w => w - UInt32.ofNat s.place)
    keyed
  ⟨put settled.words 0 0x80000000, 624⟩

/-- The 32-bit words of a number, least significant first; none for zero. -/
def wordsOf (n : Nat) : List UInt32 :=
  if h : n = 0 then [] else UInt32.ofNat (n % 4294967296) :: wordsOf (n / 4294967296)
termination_by n
decreasing_by omega

/-- The key of an integer seed: the words of its absolute value, at least one. -/
def keyOf (n : Int) : Array UInt32 :=
  if n = 0 then #[0] else (wordsOf n.natAbs).toArray

/-- The generator for an integer seed. -/
def seed (n : Int) : Twister :=
  ofKey (keyOf n)

/-- The state renewed: each word from its neighbour and from the word 397 places on. -/
def renew (s : Vector UInt32 624) : Vector UInt32 624 :=
  (List.range 624).foldl
    (fun s k =>
      let y := (word s k &&& 0x80000000) ||| (word s (k + 1) &&& 0x7FFFFFFF)
      let twist : UInt32 := if y &&& 1 = 0 then 0 else 0x9908B0DF
      put s k (word s (k + 397) ^^^ (y >>> 1) ^^^ twist))
    s

/-- The tempering of a word on its way out. -/
def temper (w : UInt32) : UInt32 :=
  let a := w ^^^ (w >>> 11)
  let b := a ^^^ ((a <<< 7) &&& 0x9D2C5680)
  let c := b ^^^ ((b <<< 15) &&& 0xEFC60000)
  c ^^^ (c >>> 18)

/-- The next word and the generator after it. -/
def next (t : Twister) : UInt32 × Twister :=
  let ready : Twister := if 624 ≤ t.used then ⟨renew t.words, 0⟩ else t
  (temper (word ready.words ready.used), { ready with used := ready.used + 1 })

/-- How often a byte is drawn anew before the low eight bits of a draw are taken as they are. The
state has 19937 bits, and half of all draws are accepted, so that no seed comes near the limit. -/
def patience : Nat := 20000

/-- The next byte: nine-bit numbers are drawn until one of them is below 256. -/
def nextByte (t : Twister) : UInt8 × Twister :=
  go patience t
where
  /-- Drawing with a given number of draws left. -/
  go : Nat → Twister → UInt8 × Twister
    | 0, t =>
      let (w, t) := t.next
      (UInt8.ofNat (w >>> 23).toNat, t)
    | tries + 1, t =>
      let (w, t) := t.next
      if w >>> 23 < 256 then (UInt8.ofNat (w >>> 23).toNat, t) else go tries t

end Twister

end ChipEight
