import ChipEight.Fault
import ChipEight.Memory
import ChipEight.Program.View

/-!
# What is offered as a program

A machine takes a sequence of bytes that fits behind the program base and refuses everything else.
Raw bytes are taken as they are, packed or not; the elements of any other sequence are looked at one
by one. There are packed elements that cannot be looked at.

## Main definitions

- `Offer`: what a host may offer.
- `View.toOffer`, `View.toGrid`: packed data as an offer, in a row and in a grid.
- `Offer.length`: how long it says it is.
- `Offer.accept`: the bytes to load, or the reason for refusing the offer. The kind of the offer is
  looked at first, then its length, then its dimensions, then its elements in order.
-/

namespace ChipEight

/-- What a host may offer as a program. -/
inductive Offer where
  /-- Something that is no sequence, such as a text or a set; the name of its kind is reported. -/
  | other (typeName : String)
  /-- Raw bytes. -/
  | raw (bytes : List UInt8)
  /-- A sequence of arbitrary values. -/
  | items (values : List Datum)
  /-- The integers from `start` on, by steps, as long as they stay before `stop`. -/
  | progression (start stop step : Int)
  /-- A view of packed elements that are no characters. -/
  | packed (row : PackedRow) (isLegible : row.format ≠ .letter)
  /-- A view of so many packed elements, none of which can be looked at. -/
  | sealed (format : SealedFormat) (count : Nat)
  /-- A view with several dimensions or none; the length of the first dimension. -/
  | grid (dimensions length : Nat) (isNoRow : dimensions ≠ 1)
  /-- A view that was given back. -/
  | released

namespace Offer

/-- The number of integers in a progression. -/
def progressionLength (start stop step : Int) : Nat :=
  if 0 < step then ((stop - start + step - 1) / step).toNat
  else if step < 0 then ((start - stop - step - 1) / -step).toNat
  else 0

/-- How long an offer says it is. -/
def length : Offer → Nat
  | .other _ => 0
  | .raw bytes => bytes.length
  | .items values => values.length
  | .progression start stop step => progressionLength start stop step
  | .packed row _ => row.cells.length
  | .sealed _ n => n
  | .grid _ n _ => n
  | .released => 0

/-- The values of a sequence as bytes; the first value that is no byte is refused. -/
def bytesFrom (offset : Nat) : List Datum → Except Fault (List UInt8)
  | [] => .ok []
  | d :: ds =>
    match d.byte? with
    | some b => (bytesFrom (offset + 1) ds).map fun bs => b :: bs
    | none => .error (.invalidByte offset d)

/-- The bytes of an offer whose length has been found to fit. -/
def contents : Offer → Except Fault (List UInt8)
  | .other typeName => .error (.notBytes (.kind typeName))
  | .raw bytes => .ok bytes
  | .items values => bytesFrom 0 values
  | .progression start stop step =>
    bytesFrom 0 ((List.range (progressionLength start stop step)).map fun (k : Nat) =>
      .int (start + step * k))
  | .packed row _ => if row.format = .raw then .ok row.bytes else bytesFrom 0 row.elements
  | .sealed format n =>
    if format.single?.isSome ∧ n = 0 then .ok [] else .error (.unreadable format)
  | .grid n _ _ => .error (.notBytes (.dimensions n))
  | .released => .error .released

/-- Whether the length of an offer can be told: a progression may have more elements than 63 bits
can count. -/
def countable : Offer → Bool
  | .progression start stop step => decide (progressionLength start stop step < Nat.pow 2 63)
  | _ => true

/-- The bytes that an offer loads, or the reason for refusing it. What is no sequence has length
zero, so that its kind is what it is refused for, and so has a view that was given back. -/
def accept (o : Offer) : Except Fault (List UInt8) :=
  if !o.countable then .error .uncountable
  else if Memory.programCapacity < o.length then
    .error (.tooLarge o.length Memory.programCapacity)
  else o.contents

/-- What a single value is as an offer: bytes and lists are sequences, all other values are not. -/
def ofDatum : Datum → Offer
  | .bytes bs => .raw bs
  | .list ds => .items ds
  | d => .other d.typeName

end Offer

namespace View

/-- A view as an offer. Packed characters cannot be looked at. -/
def toOffer (v : View) : Offer :=
  if h : v.format = .letter then .sealed .letters v.cells.length else .packed v.toPackedRow h

/-- The bytes of a view as an offer, arranged in a grid with the given sides. The single byte of a
grid without dimensions counts as length one. -/
def toGrid (v : View) (shape : Datum) : Except ViewFault Offer := do
  v.compact
  if v.cells.isEmpty then throw .emptyGrid
  match shape with
  | .list sides =>
    if 64 < sides.length then throw .tooDeep
    let size ← gridSize 1 sides
    if size ≠ v.bytes.length then throw .otherSize
    if h : sides.length = 1 then return .raw v.bytes
    else return .grid sides.length (((sides.head?.bind Datum.integer?).getD 1).toNat) h
  | _ => throw .noSides

end View

end ChipEight
