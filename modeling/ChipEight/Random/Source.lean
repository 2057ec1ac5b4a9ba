import ChipEight.Datum.Operand
import ChipEight.Random.Twister

/-!
# Random sources

A machine takes its random bytes one by one from a source. The two kinds of sources are an endless
tape of draws, which covers every source whatever its make, and the Mersenne twister. A host may
write what it likes on a tape, so that a draw may fail.

## Main definitions

- `RandomSource`: the kinds.
- `RandomSource.next`: the next draw and the source after it.
- `RandomSource.scripted`: a tape that repeats a list of values for ever.
-/

namespace ChipEight

/-- Where random bytes come from. -/
inductive RandomSource where
  /-- The draws of an endless tape, of which some are made already. -/
  | tape (draws : Nat → Except OperandFault UInt8) (taken : Nat)
  /-- The bytes of a seeded generator. -/
  | twister (state : Twister)

/-- The byte that a value on a tape stands for: the lowest eight bits of an integer. -/
def Datum.randomByte (d : Datum) : Except OperandFault UInt8 :=
  (d.bits "&").map UInt8.ofInt

namespace RandomSource

/-- The source that yields the same byte for ever. -/
def constant (b : UInt8) : RandomSource :=
  .tape (fun _ => .ok b) 0

/-- The source from which every draw fails. -/
def failing (e : OperandFault) : RandomSource :=
  .tape (fun _ => .error e) 0

/-- The source that yields the values of a list over and over. Nothing can be drawn from an empty
list. -/
def cycling (values : Array Datum) : RandomSource :=
  if values.isEmpty then failing .zeroModulus
  else .tape (fun k => (values.getD (k % values.size) .null).randomByte) 0

/-- The source that yields the elements of a value over and over. A value without elements is found
out at the first draw. -/
def scripted (d : Datum) : RandomSource :=
  match d with
  | .list ds => cycling ds.toArray
  | .text s => cycling (s.toList.map fun c => .text (String.ofList [c])).toArray
  | .record [] => cycling #[]
  | .record _ => failing (.noEntry "0")
  | d => failing (.noLength d.typeName)

/-- The source for an integer seed. -/
def seeded (n : Int) : RandomSource :=
  .twister (.seed n)

/-- The next draw and the source after it. -/
def next : RandomSource → Except OperandFault UInt8 × RandomSource
  | .tape draws taken => (draws taken, .tape draws (taken + 1))
  | .twister state =>
    let (b, state) := state.nextByte
    (.ok b, .twister state)

end RandomSource

end ChipEight
