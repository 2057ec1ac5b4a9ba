import ChipEight.Datum.Basic
import ChipEight.Random.Digest
import ChipEight.Random.Source

/-!
# Seeds

A random source is seeded by a value. Every value that can be a seed stands for a number: an integer
for itself, a text for its bytes with their digest behind them, and a real for its residue modulo
the prime `2 ^ 61 - 1`.

## Main definitions

- `Datum.seedNumber?`: the number that a value stands for as a seed.
- `RandomSource.ofSeed`: the source for a seed.
- `RandomSource.ofDatum`: the source for a seed or for values.
-/

namespace ChipEight

/-- The prime modulo which reals are seeds. -/
def seedPrime : Nat := Nat.pow 2 61 - 1

/-- The number of 64 bits that a residue with its sign stands for. The residue minus one is taken
for minus two. -/
def signedResidue (negative : Bool) (n : Nat) : Nat :=
  if negative && n != 0 then Nat.pow 2 64 - (if n = 1 then 2 else n) else n

/-- The number that a real stands for as a seed. Powers of two repeat modulo the prime after 61
doublings. -/
def Real64.seedNumber : Real64 → Nat
  | .nan => 0
  | .infinite negative => signedResidue negative 314159
  | .finite negative m e => signedResidue negative (m * Nat.pow 2 (e % 61).toNat % seedPrime)

/-- The number of a list of bytes, the most significant one first. -/
def natOfBigEndian (bs : List UInt8) : Nat :=
  bs.foldl (fun n b => 256 * n + b.toNat) 0

/-- The number that bytes stand for as a seed: they are followed by their digest. -/
def bytesSeedNumber (bs : List UInt8) : Nat :=
  natOfBigEndian (bs ++ (Digest.ofBytes bs).bytes)

/-- The number that a value stands for as a seed. A list and a record are no seeds, and neither is
nothing. -/
def Datum.seedNumber? : Datum → Option Nat
  | .flag b => some b.toNat
  | .int k => some k.natAbs
  | .real x => some (Real64.ofFloat x).seedNumber
  | .text s => some (bytesSeedNumber s.toUTF8.toList)
  | .bytes bs => some (bytesSeedNumber bs)
  | .null => none
  | .list _ => none
  | .record _ => none

namespace RandomSource

/-- The source for a seed. Without one it is the source of an unseeded machine, whatever the host
takes for that. -/
def ofSeed (unseeded : RandomSource) (d : Datum) : Except OperandFault RandomSource :=
  match d, d.seedNumber? with
  | .null, _ => .ok unseeded
  | _, some n => .ok (.seeded n)
  | _, none => .error .noSeed

/-- The source that a value describes by a seed or by values: a seed counts first, and one of the
two is needed. -/
def ofDatum (unseeded : RandomSource) (d : Datum) : Except OperandFault RandomSource := do
  match ← d.member? "seed" with
  | some seed => ofSeed unseeded seed
  | none => return scripted (← d.member "values")

end RandomSource

end ChipEight
