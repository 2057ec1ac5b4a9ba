import ChipEight.Datum.Basic
import ChipEight.FaultKind

/-!
# Packed elements

A packed element is a value kept in a fixed number of bytes, the least significant byte first. Not
every value can be kept in every format: an integer format has a range, and each format says in its
own words what does not fit.

## Main definitions

- `IntegerFormat`, `ElementFormat`: how an element is packed.
- `ElementFormat.ofSign?`, `SealedFormat`: the format of a sign, and a sign without a format.
- `ElementFormat.write`, `ElementFormat.read`: the bytes of an element and back.
- `PackFault`: why a value is not packed.
- `ElementFormat.admit`: the check that a value can be packed.
-/

namespace ChipEight

/-- How an integer is packed. -/
inductive IntegerFormat where
  | signedByte
  | byte
  | signedShort
  | short
  | signedInt
  | int
  | signedLong
  | long
  | signedQuad
  | quad
  | signedSize
  | size
  | pointer
  deriving DecidableEq, Repr

namespace IntegerFormat

/-- The number of bytes of an element. -/
def width : IntegerFormat → Nat
  | .signedByte | .byte => 1
  | .signedShort | .short => 2
  | .signedInt | .int => 4
  | _ => 8

/-- Whether an element may be negative. -/
def signed : IntegerFormat → Bool
  | .signedByte | .signedShort | .signedInt | .signedLong | .signedQuad | .signedSize => true
  | _ => false

end IntegerFormat

/-- How an element is packed. -/
inductive ElementFormat where
  | integer (f : IntegerFormat)
  /-- A byte that stands for itself. -/
  | char
  /-- A byte that is a truth value. -/
  | flag
  /-- A character in four bytes. -/
  | letter
  /-- A real of four bytes. -/
  | single
  /-- A real of eight bytes. -/
  | double
  deriving DecidableEq, Repr

namespace ElementFormat

/-- Raw bytes. -/
def raw : ElementFormat :=
  .integer .byte

/-- The number of bytes of an element. -/
def width : ElementFormat → Nat
  | .integer f => f.width
  | .char => 1
  | .flag => 1
  | .letter => 4
  | .single => 4
  | .double => 8

/-- The formats in which numbers and characters can be packed, by their signs. -/
def packable : List (Char × ElementFormat) :=
  [('b', .integer .signedByte), ('B', .integer .byte), ('u', .letter),
    ('h', .integer .signedShort), ('H', .integer .short), ('i', .integer .signedInt),
    ('I', .integer .int), ('l', .integer .signedLong), ('L', .integer .long),
    ('q', .integer .signedQuad), ('Q', .integer .quad), ('f', .single), ('d', .double)]

/-- The formats in which bytes can be read, by their signs. -/
def readable : List (Char × ElementFormat) :=
  [('c', .char), ('b', .integer .signedByte), ('B', .integer .byte), ('?', .flag),
    ('h', .integer .signedShort), ('H', .integer .short), ('i', .integer .signedInt),
    ('I', .integer .int), ('l', .integer .signedLong), ('L', .integer .long),
    ('q', .integer .signedQuad), ('Q', .integer .quad), ('n', .integer .signedSize),
    ('N', .integer .size), ('f', .single), ('d', .double), ('P', .integer .pointer)]

/-- Whether the elements are single bytes, as numbers or as themselves. -/
def isBytewise : ElementFormat → Bool
  | .integer .signedByte | .integer .byte | .char => true
  | _ => false

/-- The format in which bytes can be read, by a sign that an at sign may precede. -/
def ofSign? : List Char → Option ElementFormat
  | [c] => readable.lookup c
  | ['@', c] => readable.lookup c
  | _ => none

end ElementFormat

/-- The sign of a format in which nothing can be read. -/
structure SealedFormat where
  sign : String
  isForeign : ElementFormat.ofSign? sign.toList = none
  deriving DecidableEq, Repr

namespace SealedFormat

/-- The sign under which packed characters are looked at. -/
def letters : SealedFormat :=
  ⟨"w", rfl⟩

/-- The single character of a sign, which an at sign may precede. Such a format is refused with the
first element only, all others at once. -/
def single? (f : SealedFormat) : Option Char :=
  match f.sign.toList with
  | [c] => some c
  | ['@', c] => some c
  | _ => none

/-- The text of the complaint. -/
def message (f : SealedFormat) : String :=
  match f.single? with
  | some c => "memoryview: format " ++ String.ofList [c] ++ " not supported"
  | none => "memoryview: unsupported format " ++ f.sign

end SealedFormat

/-! ### Bytes of an element -/

/-- The number of a row of bytes, the least significant one first. -/
def natOfBytes : List UInt8 → Nat
  | [] => 0
  | b :: bs => b.toNat + 256 * natOfBytes bs

/-- The lowest `w` bytes of a number, the least significant one first. -/
def bytesOfNat : Nat → Nat → List UInt8
  | 0, _ => []
  | w + 1, n => UInt8.ofNat n :: bytesOfNat w (n / 256)

/-- The element that a row of bytes holds. -/
def ElementFormat.read (f : ElementFormat) (bs : List UInt8) : Datum :=
  match f with
  | .integer f =>
    let n := natOfBytes bs
    .int (if f.signed && decide (Nat.pow 2 (8 * f.width - 1) ≤ n)
      then (n : Int) - Int.pow 2 (8 * f.width)
      else n)
  | .char => .bytes bs
  | .flag => .flag (bs.any fun b => b != 0)
  | .letter => .text (String.ofList [Char.ofNat (natOfBytes bs)])
  | .single => .real (Float32.ofBits (UInt32.ofNat (natOfBytes bs))).toFloat
  | .double => .real (Float.ofBits (UInt64.ofNat (natOfBytes bs)))

/-- The bytes that hold a value. -/
def ElementFormat.write (f : ElementFormat) (d : Datum) : List UInt8 :=
  match f, d with
  | .single, d => bytesOfNat 4 (d.real?.getD .zero).toFloat.toFloat32.toBits.toNat
  | .double, d => bytesOfNat 8 (d.real?.getD .zero).toFloat.toBits.toNat
  | .letter, .text s => bytesOfNat 4 ((s.toList.headD 'a').toNat)
  | .char, .bytes [b] => [b]
  | f, d => bytesOfNat f.width ((d.integer?.getD 0) % Int.pow 2 (8 * f.width)).toNat

theorem length_bytesOfNat (w n : Nat) : (bytesOfNat w n).length = w := by
  induction w generalizing n with
  | zero => rfl
  | succ w ih => rw [bytesOfNat, List.length_cons, ih]

/-- A value is written in as many bytes as the format says. -/
theorem ElementFormat.length_write (f : ElementFormat) (d : Datum) : (f.write d).length = f.width := by
  unfold write
  split
  all_goals first | rfl | exact length_bytesOfNat _ _

/-! ### What can be packed -/

/-- Why a value is not packed. -/
inductive PackFault where
  /-- The value is no integer; the name of its kind is reported. -/
  | noInteger (typeName : String)
  /-- The value is no number. -/
  | noReal (typeName : String)
  /-- The value is no single character. -/
  | noLetter
  /-- An integer lies below the range of a kind of integers. -/
  | below (kind : String)
  /-- An integer lies above the range of a kind of integers. -/
  | above (kind : String)
  /-- An integer has too many bits for a machine word. -/
  | tooLong (word : String)
  /-- A negative integer where there is no sign. -/
  | negative (kind : String)
  /-- An integer lies beyond all reals. -/
  | beyondReals
  deriving DecidableEq, Repr

/-- The text of the complaint. -/
def PackFault.message : PackFault → String
  | .noInteger typeName => "'" ++ typeName ++ "' object cannot be interpreted as an integer"
  | .noReal typeName => "must be real number, not " ++ typeName
  | .noLetter => "array item must be unicode character"
  | .below kind => kind ++ " is less than minimum"
  | .above kind => kind ++ " is greater than maximum"
  | .tooLong "" => "int too big to convert"
  | .tooLong word => "Python int too large to convert to C " ++ word
  | .negative kind => "can't convert negative " ++ kind
  | .beyondReals => "int too large to convert to float"

/-- The kind of the complaint. -/
def PackFault.kind : PackFault → FaultKind
  | .noInteger _ | .noReal _ | .noLetter => .unfit
  | _ => .large

/-- The check that an integer lies in a range. -/
def inRange (kind : String) (low high k : Int) : Except PackFault Unit :=
  if k < low then .error (.below kind) else if high < k then .error (.above kind) else .ok ()

/-- The check that an integer fits into a signed machine word. -/
def inSignedWord (word : String) (k : Int) : Except PackFault Unit :=
  if k < -Int.pow 2 63 ∨ Int.pow 2 63 ≤ k then .error (.tooLong word) else .ok ()

/-- The check that an integer fits into a machine word without a sign. -/
def inWord (word kind : String) (k : Int) : Except PackFault Unit :=
  if k < 0 then .error (.negative kind)
  else if Int.pow 2 64 ≤ k then .error (.tooLong word)
  else .ok ()

/-- The check that an integer can be packed. The ranges are tried from the widest to the format's
own. -/
def IntegerFormat.admit (f : IntegerFormat) (k : Int) : Except PackFault Unit := do
  let shorts := inRange "signed short integer" (-Int.pow 2 15) (Int.pow 2 15 - 1)
  let ints := inRange "signed integer" (-Int.pow 2 31) (Int.pow 2 31 - 1)
  match f with
  | .signedByte =>
    inSignedWord "long" k
    shorts k
    inRange "signed char" (-Int.pow 2 7) (Int.pow 2 7 - 1) k
  | .byte =>
    inSignedWord "long" k
    inRange "unsigned byte integer" 0 (Int.pow 2 8 - 1) k
  | .signedShort =>
    inSignedWord "long" k
    shorts k
  | .short =>
    inSignedWord "long" k
    ints k
    inRange "unsigned short" 0 (Int.pow 2 16 - 1) k
  | .signedInt =>
    inSignedWord "long" k
    ints k
  | .int =>
    inWord "unsigned long" "value to unsigned int" k
    inRange "unsigned int" 0 (Int.pow 2 32 - 1) k
  | .signedLong => inSignedWord "long" k
  | .long => inWord "unsigned long" "value to unsigned int" k
  | .signedQuad | .signedSize => inSignedWord "" k
  | .quad | .size | .pointer => inWord "" "int to unsigned" k

/-- The check that a value can be packed. -/
def ElementFormat.admit (f : ElementFormat) (d : Datum) : Except PackFault Unit :=
  match f with
  | .single | .double =>
    match d, d.real? with
    | _, none => .error (.noReal d.typeName)
    | .real _, _ => .ok ()
    | _, some (.infinite _) => .error .beyondReals
    | _, some _ => .ok ()
  | .letter =>
    match d with
    | .text s => if s.length = 1 then .ok () else .error .noLetter
    | _ => .error .noLetter
  | .integer f =>
    match d.integer? with
    | some k => f.admit k
    | none => .error (.noInteger d.typeName)
  | .char | .flag => .ok ()

end ChipEight
