/-!
# Templates

A text may be a template with one place for a value: a percent sign, perhaps flags, a width, a
precision and a letter for the size, and then the letter of a form. Two percent signs stand for one.
An asterisk in place of a width or a precision takes the value for it. A template is filled with one
integer; what matters is whether it can be.

## Main definitions

- `TemplateFault`: why a template cannot be filled.
- `Template.fill`: the first fault in filling a template with one integer.
-/

namespace ChipEight

/-- Why a template cannot be filled with one integer. -/
inductive TemplateFault where
  /-- There is no place for the integer. -/
  | unused
  /-- There are several places. -/
  | exhausted
  /-- A place asks for an entry of a table. -/
  | noTable
  /-- A place has no letter for its form. -/
  | incomplete
  /-- A width that is too large. -/
  | width
  /-- A precision that is too large. -/
  | precision
  /-- No form has this letter, which stands at this index. -/
  | unknownForm (letter : Char) (index : Nat)
  deriving DecidableEq, Repr

/-- The number of a character in lower-case hexadecimal digits. -/
def TemplateFault.number (c : Char) : String :=
  String.ofList (Nat.toDigits 16 c.toNat)

/-- The text of the complaint. -/
def TemplateFault.message : TemplateFault → String
  | .unused => "not all arguments converted during string formatting"
  | .exhausted => "not enough arguments for format string"
  | .noTable => "format requires a mapping"
  | .incomplete => "incomplete format"
  | .width => "width too big"
  | .precision => "precision too big"
  | .unknownForm c index =>
    let shown := if 31 ≤ c.toNat ∧ c.toNat < 127 then c else '?'
    "unsupported format character '" ++ String.ofList [shown] ++ "' (0x" ++ number c ++
      ") at index " ++ toString index

namespace Template

/-- How far a place of a template has been read. -/
inductive Phase where
  /-- Outside of all places. -/
  | outside
  /-- Right behind the percent sign. -/
  | opened
  | flags
  | width (n : Nat)
  /-- Behind the width. -/
  | sized
  /-- Right behind the point in front of the precision. -/
  | point
  | precision (n : Nat)
  /-- Behind the precision. -/
  | limited
  /-- Behind the letter for the size. -/
  | letter
  deriving DecidableEq, Repr

/-- The letters of the forms. -/
def forms : List Char :=
  "diouxXeEfFgGcrsa".toList

/-- The largest width. -/
def widthLimit : Nat := Nat.pow 2 63 - 1

/-- The largest precision. -/
def precisionLimit : Nat := Nat.pow 2 31 - 1

/-- The value taken, unless that was done before. -/
def take (used : Bool) : Except TemplateFault Bool :=
  if used then .error .exhausted else .ok true

/-- The end of a place with the letter of its form. -/
def close (used : Bool) (index : Nat) (c : Char) : Except TemplateFault (Phase × Bool) := do
  let used ← take used
  if forms.contains c then return (.outside, used) else throw (.unknownForm c index)

/-- The number with one more digit, if it stays within a limit. -/
def grow (limit n : Nat) (c : Char) (e : TemplateFault) : Except TemplateFault Nat :=
  let m := 10 * n + (c.toNat - 48)
  if limit < m then .error e else .ok m

/-- The rest of a place from the letter for the size on. -/
def closeSized (used : Bool) (index : Nat) (c : Char) : Except TemplateFault (Phase × Bool) :=
  if c = 'h' ∨ c = 'l' ∨ c = 'L' then .ok (.letter, used) else close used index c

/-- The rest of a place from the point on. -/
def closePointed (used : Bool) (index : Nat) (c : Char) : Except TemplateFault (Phase × Bool) :=
  if c = '.' then .ok (.point, used) else closeSized used index c

/-- One more character of a template. -/
def step (phase : Phase) (used : Bool) (index : Nat) (c : Char) :
    Except TemplateFault (Phase × Bool) :=
  match phase with
  | .outside => .ok (if c = '%' then .opened else .outside, used)
  | .opened | .flags =>
    if phase = .opened ∧ c = '%' then .ok (.outside, used)
    else if phase = .opened ∧ c = '(' then .error .noTable
    else if "-+ #0".contains c then .ok (.flags, used)
    else if c = '*' then (take used).map fun u => (.sized, u)
    else if c.isDigit then (grow widthLimit 0 c .width).map fun n => (.width n, used)
    else closePointed used index c
  | .width n =>
    if c.isDigit then (grow widthLimit n c .width).map fun m => (.width m, used)
    else closePointed used index c
  | .sized => closePointed used index c
  | .point =>
    if c = '*' then (take used).map fun u => (.limited, u)
    else if c.isDigit then (grow precisionLimit 0 c .precision).map fun n => (.precision n, used)
    else closeSized used index c
  | .precision n =>
    if c.isDigit then (grow precisionLimit n c .precision).map fun m => (.precision m, used)
    else closeSized used index c
  | .limited => closeSized used index c
  | .letter => close used index c

/-- The first fault in the characters of a template from an index on. -/
def fillFrom (phase : Phase) (used : Bool) (index : Nat) : List Char → Option TemplateFault
  | [] =>
    if phase ≠ .outside then some .incomplete else if used then none else some .unused
  | c :: cs =>
    match step phase used index c with
    | .error e => some e
    | .ok (phase, used) => fillFrom phase used (index + 1) cs

/-- The first fault in filling a template with one integer. -/
def fill (s : String) : Option TemplateFault :=
  fillFrom .outside false 0 s.toList

end Template

end ChipEight
