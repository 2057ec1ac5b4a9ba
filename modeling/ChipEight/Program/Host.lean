import ChipEight.Program.Offer

/-!
# Offers made from data

A host makes the things that it offers as programs from data: a set from its items, a progression
from its ends and its step, packed numbers from their format and their values, a view from bytes and
the ways of looking at them. Data that makes no such thing is refused before anything is offered.

## Main definitions

- `OfferFault`: why data makes no offer.
- `Offer.ofParts`, `Offer.ofSet`, `Offer.ofYield`: offers of the elements of a value.
- `Offer.ofProgression`, `Offer.ofPacked`: offers from their parts.
- `Look`, `Offer.ofView`: the ways of looking at packed data, in order, and the offer they lead to.
-/

namespace ChipEight

/-- Why data makes no offer. -/
inductive OfferFault where
  /-- A value is of no use where it is needed. -/
  | operand (e : OperandFault)
  /-- A progression is made from one to three values, and not from so many. -/
  | arguments (count : Nat)
  /-- A progression is made from the elements of a value, and a value of this kind has none. -/
  | noArguments (typeName : String)
  /-- A progression has no step of zero. -/
  | zeroStep
  /-- A step through a view is an integer. -/
  | noStep
  /-- The sign of a format is a text, and not a value of this kind. -/
  | noSign (typeName : String)
  /-- A text is packed as characters only, and not in the format of this sign. -/
  | packedText (sign : Char)
  /-- The sign of a format to read bytes in is a text, and not a value of this kind. -/
  | noCast (typeName : String)
  /-- Packed data cannot be looked at as asked for. -/
  | view (e : ViewFault)
  deriving DecidableEq, Repr

namespace OfferFault

/-- The text of the complaint. -/
def message : OfferFault → String
  | .operand e => e.message
  | .arguments 0 => "range expected at least 1 argument, got 0"
  | .arguments n => "range expected at most 3 arguments, got " ++ toString n
  | .noArguments t => "range() argument after * must be an iterable, not " ++ t
  | .zeroStep => "range() arg 3 must not be zero"
  | .noStep => "slice indices must be integers or None or have an __index__ method"
  | .noSign kind => "array() argument 1 must be a unicode character, not " ++ kind
  | .packedText sign =>
    "cannot use a str to initialize an array with typecode '" ++ String.ofList [sign] ++ "'"
  | .noCast kind => "cast() argument 'format' must be str, not " ++ kind
  | .view e => e.message

/-- The kind of the complaint. -/
def kind : OfferFault → FaultKind
  | .operand e => e.kind
  | .zeroStep => .senseless
  | .view e => e.kind
  | _ => .unfit

instance : IsFault OfferFault := ⟨kind, message⟩

end OfferFault

/-- One way of looking at packed data. -/
inductive Look where
  /-- By steps. -/
  | every (step : Datum)
  /-- In the format of another sign. -/
  | recast (sign : Datum)
  /-- In a grid. -/
  | grid (sides : Datum)

namespace Offer

/-- A row of the elements of a value as an offer. -/
def ofParts (d : Datum) : Except OfferFault Offer :=
  (d.parts.mapError .operand).map .items

/-- A set of some kind as an offer. -/
def ofSet (typeName : String) (d : Datum) : Except OfferFault Offer := do
  let ds ← d.parts.mapError .operand
  (ds.forM Datum.asKey).mapError .operand
  return .other typeName

/-- The elements of a value yet to come as an offer, under the name of what yields them. -/
def ofYield (typeName : String) (d : Datum) : Except OfferFault Offer :=
  (d.parts.mapError .operand).map fun _ => .other typeName

/-- The name of what yields the elements of a value one by one. -/
def walkerName : Datum → String
  | .text s =>
    if s.toList.all fun c => decide (c.toNat < 128) then "str_ascii_iterator" else "str_iterator"
  | .record _ => "dict_keyiterator"
  | d => d.typeName ++ "_iterator"

/-- A progression from its end, its two ends, or its two ends and its step. -/
def ofProgression (args : Datum) : Except OfferFault Offer := do
  let args ← args.parts.mapError fun _ => .noArguments args.typeName
  if args.length = 0 ∨ 3 < args.length then throw (.arguments args.length)
  match ← (args.mapM Datum.count).mapError .operand with
  | [stop] => return .progression 0 stop 1
  | [start, stop] => return .progression start stop 1
  | [start, stop, step] => if step = 0 then throw .zeroStep else return .progression start stop step
  | _ => throw (.arguments 0)

/-- The check that a text is packed as characters. -/
def checkText (sign : String) (d : Datum) : Except OfferFault Unit :=
  match sign.toList, d with
  | [c], .text _ => if c = 'u' then .ok () else .error (.packedText c)
  | [_], _ => .ok ()
  | _, _ => .error (.noSign "str")

/-- The view of the elements of a value packed in the format of a sign. -/
def pack (sign items : Datum) : Except OfferFault View :=
  match sign with
  | .text s => do
    checkText s items
    (packNumbers s (← items.parts.mapError .operand)).mapError .view
  | d => .error (.noSign (OperandFault.kindText d))

/-- The elements of a value packed in the format of a sign, as a sequence. -/
def ofPacked (sign items : Datum) : Except OfferFault Offer :=
  (pack sign items).map fun v => .items v.elements

/-- A view looked at in further ways, as an offer. A grid is looked at as it is. -/
def ofView (v : View) : List Look → Except OfferFault Offer
  | [] => .ok v.toOffer
  | .every .null :: looks => ofView v looks
  | .every step :: looks =>
    match step.integer? with
    | none => .error .noStep
    | some k => do ofView (← (v.every k).mapError .view) looks
  | .recast (.text sign) :: looks => do ofView (← (v.recast sign).mapError .view) looks
  | .recast d :: _ => .error (.noCast (OperandFault.kindText d))
  | .grid sides :: _ => (v.toGrid sides).mapError .view

end Offer

end ChipEight
