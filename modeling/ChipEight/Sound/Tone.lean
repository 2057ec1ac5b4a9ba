import ChipEight.Datum.Operand
import ChipEight.Sound.Shape

/-!
# The tone of the beeper

The beeper sounds a square wave: in each period a run of high samples and then a run of low ones. An
array holds a whole number of periods, so that it can be looped.

The arrays are made by a library: a new one for a period, whose samples are then set in two runs, and
one of as many copies of it as there are periods. A wave is made over any such library.

## Main definitions

- `ToneFault`: why no wave can be made.
- `SampleArray`: an array of samples.
- `SampleLibrary`: what is asked of a library of such arrays.
- `period`: the number of samples in a period: the sample rate over the frequency, rounded as a
  floating-point quotient, but at least two.
- `squareWave`: the wave of a frequency at a sample rate.
-/

namespace ChipEight

/-- Why no wave can be made. -/
inductive ToneFault where
  /-- A value is of no use where it is needed: a frequency of zero, or a quotient of rate and
  frequency beyond all floating-point numbers. -/
  | operand (e : OperandFault)
  /-- A number of copies is written in a text that is no numeral. -/
  | noNumeral (text : String)
  /-- A value of this kind is no number of copies. -/
  | noNumber (typeName : String)
  /-- For so many rows, as many other numbers of copies are given. -/
  | unlikeRows (rows given : Nat)
  /-- One of several numbers of copies is negative. -/
  | negativeCopies
  /-- The samples cannot be laid out like this. -/
  | shape (e : ShapeFault)
  /-- There is no room for the samples. -/
  | room (e : RoomFault)
  deriving DecidableEq, Repr

/-- The text of the complaint. -/
def ToneFault.message : ToneFault → String
  | .operand e => e.message
  | .noNumeral s => "invalid literal for int() with base 10: " ++ Text.quote s
  | .noNumber t =>
    "int() argument must be a string, a bytes-like object or a real number, not '" ++ t ++ "'"
  | .unlikeRows rows given =>
    "operands could not be broadcast together with shape (" ++ toString rows ++ ",) (" ++
      toString given ++ ",)"
  | .negativeCopies => "repeats may not contain negative values."
  | .shape e => e.message
  | .room e => e.message

/-- The kind of the complaint. -/
def ToneFault.kind : ToneFault → FaultKind
  | .operand e => e.kind
  | .noNumber _ => .unfit
  | .noNumeral _ | .unlikeRows _ _ | .negativeCopies | .shape _ => .senseless
  | .room e => e.kind

instance : IsFault ToneFault := ⟨ToneFault.kind, ToneFault.message⟩

/-! ### Arrays -/

/-- An array of samples. -/
structure SampleArray where
  /-- The lengths of its sides, from the outside in. -/
  sides : List Nat
  /-- Its samples, one row of the innermost side behind the other. -/
  samples : List Int
  deriving DecidableEq, Repr

/-- Samples along one side. -/
def SampleArray.row (samples : List Int) : SampleArray :=
  ⟨[samples.length], samples⟩

/-- What is asked of a library of sample arrays. What it is given has one side, and so has what it
makes, but for copies, which may be laid out along several sides. -/
structure SampleLibrary where
  /-- So many new samples, whatever they are. -/
  empty : Nat → Except ToneFault (List Int)
  /-- The samples, of which those from one place up to another are set to a level. -/
  fill : List Int → Nat → Nat → Int → List Int
  /-- Copies of the samples, as many as a value says. -/
  tile : List Int → Datum → Except ToneFault SampleArray
  /-- The samples, each of them as many times in succession as a value says. -/
  repeatEach : List Int → Datum → Except ToneFault (List Int)

/-! ### Waves -/

/-- The level of the high samples; the low ones have its opposite. -/
def amplitude : Int := 8000

/-- The number of periods in a buffer unless told otherwise. -/
def defaultPeriods : Datum := .int 20

/-- The number of samples in a period: the quotient of rate and frequency, rounded, but at least
two. -/
def period (tone rate : Datum) : Except ToneFault Nat := do
  let quotient ← (rate.dividedBy tone).mapError .operand
  let samples ← quotient.rounded.mapError .operand
  return max 2 samples.toNat

/-- The wave of a frequency at a sample rate: first one period, of which one half is high and the
other low, then copies of it. -/
def squareWave (lib : SampleLibrary) (tone rate periods : Datum) :
    Except ToneFault SampleArray := do
  let p ← period tone rate
  let half := p / 2
  let fresh ← lib.empty p
  let high := lib.fill fresh 0 half amplitude
  let cycle := lib.fill high half p (-amplitude)
  lib.tile cycle periods

end ChipEight
