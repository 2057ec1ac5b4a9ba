import ChipEight.Datum.Basic
import ChipEight.Datum.Template
import ChipEight.FaultKind
import ChipEight.Number.Magnitude

/-!
# Data as operands

A host hands over values of any kind, and where a number is needed some of them will do. Truth
values count as one and zero everywhere. Reals have an order and a sum, but no bits, and they count
nothing. Texts and lists can be joined and repeated. What does not do is refused by the first
operation that it gets in the way of.

## Main definitions

- `OperandFault`: why a value is of no use where it is needed.
- `Datum.bits`, `Datum.count`, `Datum.plus`, `Datum.twice`, `Datum.hexText`: values as operands.
- `Datum.dividedBy`: the quotient of two values.
- `Datum.address`: a value as an address in memory.
- `Datum.isAbove`, `Datum.isBelow`, `Datum.reaches`, `Datum.isWithin`: values compared with
  integers.
- `Datum.parts`, `Datum.exactly`: the values that a value holds.
- `Datum.member?`, `Datum.field?`, `Datum.member`: the value of a name.
-/

namespace ChipEight

/-- Why a value is of no use where it is needed. -/
inductive OperandFault where
  /-- An operation takes no values of these kinds. -/
  | operands (sign left right : String)
  /-- An operation takes no single value of this kind. -/
  | operand (sign typeName : String)
  /-- Values of these kinds have no order. -/
  | order (sign left right : String)
  /-- A value of the first kind is joined with its like only. -/
  | join (left right : String)
  /-- A value of this kind is no integer. -/
  | noInteger (typeName : String)
  /-- A value of this kind is no index of a row of bytes. -/
  | noIndex (typeName : String)
  /-- A value of this kind is no text. -/
  | noText (place typeName : String)
  /-- The text at this index of a row is a value of this kind. -/
  | noTextAt (index : Nat) (typeName : String)
  /-- A value of this kind is looked for in a text. -/
  | notInText (typeName : String)
  /-- A value of this kind cannot be gone through. -/
  | notIterable (typeName : String)
  /-- A value of this kind cannot be taken apart. -/
  | notRow (typeName : String)
  /-- Fewer values than were expected. -/
  | tooFew (expected given : Nat)
  /-- More values than were expected. -/
  | tooMany (expected : Nat)
  /-- A value of this kind cannot be looked up in a table. -/
  | notKey (typeName : String)
  /-- A value of this kind has no length. -/
  | noLength (typeName : String)
  /-- A value of this kind has no form with this letter. -/
  | noForm (letter : Char) (typeName : String)
  /-- A value of this kind has no form with a width. -/
  | noWidth (typeName : String)
  /-- A value of this kind has no elements. -/
  | noElements (typeName : String)
  /-- A value of this kind has no element with this index. -/
  | noElement (typeName : String)
  /-- A table has no entry for a value, which is shown like this. -/
  | noEntry (shown : String)
  /-- A value of this kind has no part of this name. -/
  | noPart (typeName name : String)
  /-- A value is no seed. -/
  | noSeed
  /-- A value of this kind has no members. -/
  | noMembers (typeName : String)
  /-- The elements of a value of this kind have no names. -/
  | noNames (typeName : String)
  /-- A text is used as a template. -/
  | template (e : TemplateFault)
  /-- A remainder of a division by zero. -/
  | zeroModulus
  /-- A quotient of integers by zero. -/
  | zeroDivisor
  /-- A quotient of reals by zero. -/
  | zeroRealDivisor
  /-- A quotient of integers beyond all reals. -/
  | hugeQuotient
  /-- An integer beyond all reals. -/
  | hugeInteger
  /-- An infinite real taken for an integer. -/
  | infinite
  /-- An undefined real taken for an integer. -/
  | undefined
  deriving DecidableEq, Repr

namespace OperandFault

/-- The kind of a fault. -/
def kind : OperandFault → FaultKind
  | .tooFew _ _ | .tooMany _ | .noForm _ _ | .undefined => .senseless
  | .noElement _ => .place
  | .noEntry _ => .entry
  | .noPart _ _ => .part
  | .template .incomplete | .template .width | .template .precision
  | .template (.unknownForm _ _) => .senseless
  | .zeroModulus | .zeroDivisor | .zeroRealDivisor => .zero
  | .hugeQuotient | .hugeInteger | .infinite => .large
  | _ => .unfit

/-- The name of the kind of a value in a complaint about a text that is missing. -/
def kindText (d : Datum) : String :=
  match d with
  | .null => "None"
  | d => d.typeName

/-- The text of the complaint. -/
def message : OperandFault → String
  | .operands sign left right =>
    "unsupported operand type(s) for " ++ sign ++ ": '" ++ left ++ "' and '" ++ right ++ "'"
  | .operand sign t => "bad operand type for " ++ sign ++ ": '" ++ t ++ "'"
  | .order sign left right =>
    "'" ++ sign ++ "' not supported between instances of '" ++ left ++ "' and '" ++ right ++ "'"
  | .join left right =>
    "can only concatenate " ++ left ++ " (not \"" ++ right ++ "\") to " ++ left
  | .noInteger t => "'" ++ t ++ "' object cannot be interpreted as an integer"
  | .noIndex t => "bytearray indices must be integers or slices, not " ++ t
  | .noText place t => place ++ " must be str, not " ++ t
  | .noTextAt index t =>
    "sequence item " ++ toString index ++ ": expected str instance, " ++ t ++ " found"
  | .notInText t => "'in <string>' requires string as left operand, not " ++ t
  | .notIterable t => "'" ++ t ++ "' object is not iterable"
  | .notRow t => "cannot unpack non-iterable " ++ t ++ " object"
  | .tooFew expected given =>
    "not enough values to unpack (expected " ++ toString expected ++ ", got " ++ toString given ++
      ")"
  | .tooMany expected => "too many values to unpack (expected " ++ toString expected ++ ")"
  | .notKey t => Datum.notKeyMessage t
  | .noLength t => "object of type '" ++ t ++ "' has no len()"
  | .noForm letter t =>
    "Unknown format code '" ++ String.ofList [letter] ++ "' for object of type '" ++ t ++ "'"
  | .noWidth t => "unsupported format string passed to " ++ t ++ ".__format__"
  | .noElements t => "'" ++ t ++ "' object is not subscriptable"
  | .noElement "str" => "string index out of range"
  | .noElement t => t ++ " index out of range"
  | .noEntry shown => shown
  | .noPart t name => "'" ++ t ++ "' object has no attribute '" ++ name ++ "'"
  | .noSeed => "The only supported seed types are: None,\nint, float, str, bytes, and bytearray."
  | .noMembers t => "argument of type '" ++ t ++ "' is not iterable"
  | .noNames "str" => "string indices must be integers, not 'str'"
  | .noNames t => t ++ " indices must be integers or slices, not str"
  | .template e => e.message
  | .zeroModulus => "integer modulo by zero"
  | .zeroDivisor => "division by zero"
  | .zeroRealDivisor => "float division by zero"
  | .hugeQuotient => "integer division result too large for a float"
  | .hugeInteger => "int too large to convert to float"
  | .infinite => "cannot convert float infinity to integer"
  | .undefined => "cannot convert float NaN to integer"

instance : IsFault OperandFault := ⟨kind, message⟩

end OperandFault

/-- A real rounded to an integer, ties to even. -/
def Real64.rounded : Real64 → Except OperandFault Int
  | .nan => .error .undefined
  | .infinite _ => .error .infinite
  | .finite s m e => .ok (Real64.signed s (Dyadic.round ⟨m, e⟩))

namespace Datum

/-! ### Operations -/

/-- A value as an operand of an operation on bits. -/
def bits (sign : String) (d : Datum) : Except OperandFault Int :=
  match d.integer? with
  | some k => .ok k
  | none => .error (.operands sign d.typeName "int")

/-- A value as a count. -/
def count (d : Datum) : Except OperandFault Int :=
  match d.integer? with
  | some k => .ok k
  | none => .error (.noInteger d.typeName)

/-- A value with an integer added to it. -/
def plus (d : Datum) (k : Int) : Except OperandFault Datum :=
  match d, d.integer? with
  | _, some n => .ok (.int (n + k))
  | .real x, _ => .ok (.real (x + Float.ofInt k))
  | .text _, _ | .list _, _ => .error (.join d.typeName "int")
  | d, _ => .error (.operands "+" d.typeName "int")

/-- A value twice: a number doubled, a text or a list repeated. -/
def twice (d : Datum) : Except OperandFault Datum :=
  match d, d.integer? with
  | _, some n => .ok (.int (2 * n))
  | .real x, _ => .ok (.real (x * 2))
  | .text s, _ => .ok (.text (s ++ s))
  | .list ds, _ => .ok (.list (ds ++ ds))
  | d, _ => .error (.operands "*" d.typeName "int")

/-- A value as an address, of which the residue modulo the size of the memory is an index. The
residue of a real is a real. A text is taken for a template, and filled it is a text. -/
def address (d : Datum) : Except OperandFault Int :=
  match d, d.integer? with
  | _, some k => .ok k
  | .real _, _ => .error (.noIndex d.typeName)
  | .text s, _ =>
    match Template.fill s with
    | some e => .error (.template e)
    | none => .error (.noIndex d.typeName)
  | d, _ => .error (.operands "%" d.typeName "int")

/-- An integer as a real, unless it lies beyond all reals. -/
def asReal (k : Int) : Except OperandFault Real64 :=
  match Real64.ofRatio k 1 with
  | .infinite _ => .error .hugeInteger
  | x => .ok x

/-- The quotient of two values. -/
def dividedBy (a b : Datum) : Except OperandFault Real64 :=
  match a, a.integer?, b, b.integer? with
  | _, some m, _, some n =>
    if n = 0 then .error .zeroDivisor
    else
      match Real64.ofRatio (m * n.sign) n.natAbs with
      | .infinite _ => .error .hugeQuotient
      | x => .ok x
  | .real x, _, _, some n => do realOver (.ofFloat x) (← asReal n)
  | _, some m, .real y, _ => do realOver (← asReal m) (.ofFloat y)
  | .real x, _, .real y, _ => realOver (.ofFloat x) (.ofFloat y)
  | a, _, b, _ => .error (.operands "/" a.typeName b.typeName)
where
  /-- The quotient of two reals. -/
  realOver (x y : Real64) : Except OperandFault Real64 :=
    if y.isZero then .error .zeroRealDivisor else .ok (x.div y)

/-- A value in at least so many hexadecimal digits. -/
def hexText (width : Nat) (d : Datum) : Except OperandFault String :=
  match d, d.integer? with
  | _, some k => .ok (Text.hexInt width k)
  | .real _, _ | .text _, _ => .error (.noForm 'X' d.typeName)
  | d, _ => .error (.noWidth d.typeName)

/-! ### Comparisons -/

/-- Where a number stands on the number line. -/
def magnitude? : Datum → Option Magnitude
  | .real x => some (.ofReal (Real64.ofFloat x))
  | d => d.integer?.map .ofInt

/-- Whether two values are the same number. -/
def sameNumber (a b : Datum) : Bool :=
  match a.magnitude?, b.magnitude? with
  | some m, some n => m.same n
  | _, _ => false

/-- Whether a value is greater than an integer. -/
def isAbove (d : Datum) (k : Int) : Except OperandFault Bool :=
  match d.magnitude? with
  | some m => .ok ((Magnitude.ofInt k).lt m)
  | none => .error (.order ">" d.typeName "int")

/-- Whether a value is less than an integer. -/
def isBelow (d : Datum) (k : Int) : Except OperandFault Bool :=
  match d.magnitude? with
  | some m => .ok (m.lt (.ofInt k))
  | none => .error (.order "<" d.typeName "int")

/-- Whether a value is at least zero and less than a limit. -/
def isWithin (d : Datum) (limit : Nat) : Except OperandFault Bool :=
  match d.magnitude? with
  | some m => .ok ((Magnitude.ofInt 0).le m && m.lt (.ofInt limit))
  | none => .error (.order "<=" "int" d.typeName)

/-- The number of steps from zero on by which a value is reached. -/
def reaches (d : Datum) : Except OperandFault Nat :=
  match d.magnitude? with
  | some m => .ok m.ceiling
  | none => .error (.order "<" "int" d.typeName)

/-- A value, or one if it is not greater. -/
def atLeastOne (d : Datum) : Except OperandFault Datum :=
  (d.isAbove 1).map fun above => if above then d else .int 1

/-- The part of a number before the point. -/
def truncated (d : Datum) : Except OperandFault Int :=
  match d.magnitude? with
  | some (.fraction n e) => .ok (Int.tdiv n e)
  | some (.infinite _) => .error .infinite
  | some .undefined => .error .undefined
  | none => .error (.noInteger d.typeName)

/-! ### Parts -/

/-- The values that a value holds, if it can be gone through: the items of a list, the keys of a
record, the characters of a text. -/
def parts : Datum → Except OperandFault (List Datum)
  | .list ds => .ok ds
  | .record fs => .ok (fs.map fun f => .text f.1)
  | .text s => .ok (s.toList.map fun c => .text (String.ofList [c]))
  | .bytes bs => .ok (bs.map fun b => .int b.toNat)
  | d => .error (.notIterable d.typeName)

/-- The values that a value holds, if they are as many as expected. -/
def exactly (n : Nat) (d : Datum) : Except OperandFault (List Datum) :=
  match d.parts with
  | .error _ => .error (.notRow d.typeName)
  | .ok ds =>
    if ds.length < n then .error (.tooFew n ds.length)
    else if n < ds.length then .error (.tooMany n)
    else .ok ds

/-- The check that a value can be looked up in a table. -/
def asKey (d : Datum) : Except OperandFault Unit :=
  if d.isKey then .ok () else .error (.notKey d.typeName)

/-- The element of a value with an index. -/
def element (d : Datum) (k : Nat) : Except OperandFault Datum :=
  match d with
  | .list ds => (ds[k]?).elim (.error (.noElement d.typeName)) .ok
  | .text s => (s.toList[k]?).elim (.error (.noElement d.typeName)) fun c =>
      .ok (.text (String.ofList [c]))
  | .record _ => .error (.noEntry (toString k))
  | d => .error (.noElements d.typeName)

/-- The value of a name in a record, if there is one. A list and a text may hold the name, but under
a name they keep nothing. -/
def member? (d : Datum) (name : String) : Except OperandFault (Option Datum) :=
  match d with
  | .record fs => .ok (fs.lookup name)
  | .list ds => if ds.any (·.text? == some name) then .error (.noNames d.typeName) else .ok none
  | .text s => if (s.splitOn name).length = 1 then .ok none else .error (.noNames d.typeName)
  | d => .error (.noMembers d.typeName)

/-- The value of a name in a record, if there is one. What is no record cannot be asked. -/
def field? (d : Datum) (name : String) : Except OperandFault (Option Datum) :=
  match d with
  | .record fs => .ok (fs.lookup name)
  | d => .error (.noPart d.typeName "get")

/-- The value that has to stand under a name in a record. -/
def member (d : Datum) (name : String) : Except OperandFault Datum :=
  match d with
  | .record fs => (fs.lookup name).elim (.error (.noEntry (Text.quote name))) .ok
  | .list _ | .text _ => .error (.noNames d.typeName)
  | d => .error (.noElements d.typeName)

end Datum

end ChipEight
