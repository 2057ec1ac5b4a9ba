import ChipEight.CommandLine.Usage
import ChipEight.Datum.Operand
import ChipEight.Number.Numeral
import ChipEight.Pacer

/-!
# Reading the command line

Options may stand anywhere, but for behind a `--`, which ends them. A long option may be shortened
as long as only one option fits, and takes its value from behind an equals sign or from the next
argument. Short options may be written together behind one dash, and the last of them may have its
value attached; an equals sign may follow the first of them. What looks like a negative number is a
plain argument.

An attached value of two dashes is dropped like the `--` that ends the options, and leaves the
option set to an empty list.

A host may hand over arguments that are no texts. Of these, what counts as false is a plain argument,
and of what else there is the first element is looked at, as that of a text is for a dash.

First all arguments are told apart; then they are read from left to right. The complaint about a
shortened option that fits several comes before all others; then the first complaint counts that
reading meets, and at the end a missing program comes before arguments that mean nothing.

## Main definitions

- `Request`: what a command line asks for.
- `Token`: an argument told apart.
- `Request.ofArgs`: reading a command line.
-/

namespace ChipEight

namespace CommandLine

/-- What a command line asks for. -/
structure Request where
  program : Option Datum := none
  preset : Datum := .null
  enable : List Datum := []
  disable : List Datum := []
  budget : Datum := .int Pacer.defaultBudget
  rate : Datum := .int 60
  seed : Datum := .null
  scale : Datum := .int 10
  silent : Bool := false
  info : Bool := false
  verbosity : Nat := 0

/-- An argument told apart. -/
inductive Token where
  /-- A plain argument. -/
  | word (d : Datum)
  /-- The argument that ends the options. -/
  | separator
  /-- An option with one or two dashes, and the text attached to it. -/
  | option (o : Opt) (long : Bool) (attached : Option String)
  /-- Something that looks like an option but is none. -/
  | unknown (s : String)

/-- Why reading ends before its end. -/
inductive Halt where
  /-- Help was asked for. -/
  | help
  | fault (f : UsageFault)
  /-- An argument is of no use as one. -/
  | broken (e : OperandFault)

/-! ### Telling arguments apart -/

/-- Whether a text is a negative number: a dash and digits, perhaps with a decimal point among
them. A line end after it does not matter. -/
def looksNegative (s : String) : Bool :=
  let cs := s.toList
  let cs := if cs.getLast? = some '\n' then cs.dropLast else cs
  match cs with
  | '-' :: body =>
    let rest := body.dropWhile Text.isDigit
    match rest with
    | [] => !body.isEmpty
    | '.' :: fraction => !fraction.isEmpty && fraction.all Text.isDigit
    | _ => false
  | _ => false

/-- A text before its first equals sign, and what stands behind the sign. -/
def splitEquals (s : String) : String × Option String :=
  let cs := s.toList
  let name := String.ofList (cs.takeWhile (· != '='))
  match cs.dropWhile (· != '=') with
  | [] => (name, none)
  | _ :: value => (name, some (String.ofList value))

/-- Whether a spelling begins with two dashes. -/
def isLong (spelling : String) : Bool :=
  spelling.startsWith "--"

/-- The spellings that an argument may be short for, each with the text attached to it. -/
def candidates (arg : String) : List (String × Opt × Option String) :=
  if isLong arg then
    let (name, value) := splitEquals arg
    (Opt.table.filter fun e => e.1.startsWith name).map fun e => (e.1, e.2, value)
  else
    let letter := String.ofList (arg.toList.take 2)
    let rest := String.ofList (arg.toList.drop 2)
    Opt.table.filterMap fun e =>
      if e.1 = letter then some (e.1, e.2, some rest)
      else if e.1.startsWith arg then some (e.1, e.2, none)
      else none

/-- An argument that begins with a dash, told apart. -/
def dashed (arg : String) : Except Halt Token :=
  let (name, value) := splitEquals arg
  match Opt.ofSpelling? arg, Opt.ofSpelling? name, value with
  | some o, _, _ => .ok (.option o (isLong arg) none)
  | none, some o, some v => .ok (.option o (isLong name) (some v))
  | _, _, _ =>
    if arg = "-" then .ok (.word (.text arg))
    else
      match candidates arg with
      | [(s, o, a)] => .ok (.option o (isLong s) a)
      | [] =>
        .ok (if looksNegative arg || arg.contains ' ' then .word (.text arg) else .unknown arg)
      | several => .error (.fault (.ambiguous arg (several.map fun e => e.1)))

/-- An argument that is no text, told apart: it is a plain one, unless its first element cannot be
told from a dash. -/
def foreign (d : Datum) : Except OperandFault Token := do
  if !d.holds then return .word d
  match ← d.element 0 with
  | .text s => if s = "" ∨ s = "-" then throw (.notKey d.typeName) else return .word d
  | first => throw (.notInText first.typeName)

/-- One argument told apart. -/
def token (d : Datum) : Except Halt Token :=
  match d with
  | .text arg => if arg.startsWith "-" then dashed arg else .ok (.word d)
  | d => (foreign d).mapError .broken

/-- The arguments told apart; behind a `--` all of them are plain. -/
def tokens : List Datum → Except Halt (List Token)
  | [] => .ok []
  | .text "--" :: args => .ok (.separator :: args.map .word)
  | d :: args => do
    let t ← token d
    let ts ← tokens args
    return t :: ts

/-! ### Reading from left to right -/

/-- The request after an option without a value. -/
def Request.flag (r : Request) : Opt → Except Halt Request
  | .help => .error .help
  | .silent => .ok { r with silent := true }
  | .info => .ok { r with info := true }
  | .verbose => .ok { r with verbosity := r.verbosity + 1 }
  | _ => .ok r

/-- The value text that is dropped. -/
def droppedText : String := "--"

/-- What an option is set to by a value that is dropped. -/
def dropped : Datum :=
  .list []

/-- The integer that a value stands for: that of a numeral, or a number without what stands behind
the point. -/
def intOf? : Datum → Option Int
  | .text s => readInt? s
  | d => d.truncated.toOption

/-- The integer that an option is set to. -/
def intSetting (o : Opt) (d : Datum) : Except Halt Datum :=
  if d.text? = some droppedText then .ok dropped
  else
    match intOf? d with
    | some k => .ok (.int k)
    | none => .error (.fault (.notAnInteger o d))

/-- The name that an option is set to, one of the option's choices. -/
def nameSetting (o : Opt) (d : Datum) : Except Halt Datum :=
  if d.text? = some droppedText then .ok dropped
  else
    match o.choices? with
    | none => .ok d
    | some names =>
      if d.text?.any names.contains then .ok d else .error (.fault (.notAChoice o d names))

/-- The request after an option with its value. -/
def Request.value (r : Request) (o : Opt) (d : Datum) : Except Halt Request :=
  match o with
  | .preset => (nameSetting o d).map fun v => { r with preset := v }
  | .enable => (nameSetting o d).map fun v => { r with enable := r.enable ++ [v] }
  | .disable => (nameSetting o d).map fun v => { r with disable := r.disable ++ [v] }
  | .budget => (intSetting o d).map fun v => { r with budget := v }
  | .rate => (intSetting o d).map fun v => { r with rate := v }
  | .seed => (intSetting o d).map fun v => { r with seed := v }
  | .scale => (intSetting o d).map fun v => { r with scale := v }
  | _ => .ok r

/-- A run of short options: those without a value, and the one that ends the run and takes a value,
with the text attached to it. -/
structure Cluster where
  flags : List Opt
  last : Option (Opt × Option String)

/-- The run that consists of one option without anything attached. -/
def Cluster.single (o : Opt) : Cluster :=
  if o.takesValue then ⟨[], some (o, none)⟩ else ⟨[o], none⟩

/-- The run that goes on with these letters behind an option without a value. A letter that is no
option makes all the letters from it on a value that the option before does not take. -/
def letters (o : Opt) : List Char → Except Halt Cluster
  | [] => .error (.fault (.ignoredValue o ""))
  | c :: cs =>
    match Opt.ofSpelling? (String.ofList ['-', c]) with
    | none => .error (.fault (.ignoredValue o (String.ofList (c :: cs))))
    | some next =>
      let tail : Except Halt Cluster :=
        match cs with
        | [] => .ok (.single next)
        | more =>
          if next.takesValue then .ok ⟨[], some (next, some (String.ofList more))⟩
          else letters next more
      tail.map fun t => { t with flags := o :: t.flags }

/-- The run of short options that begins with an option and the text attached to it. -/
def cluster (o : Opt) (long : Bool) (attached : Option String) : Except Halt Cluster :=
  match attached with
  | none => .ok (.single o)
  | some text =>
    if o.takesValue then .ok ⟨[], some (o, some text)⟩
    else if long then .error (.fault (.ignoredValue o text))
    else letters o text.toList

/-- The request after the options of a run that have no value. -/
def Request.flags (r : Request) (os : List Opt) : Except Halt Request :=
  os.foldlM Request.flag r

/-- A request being read, with the arguments that mean nothing. -/
structure Reading where
  request : Request
  extras : List Datum

/-- The reading with one more argument that means nothing. -/
def Reading.extra (r : Reading) (arg : Datum) : Reading :=
  { r with extras := r.extras ++ [arg] }

/-- Read arguments that have been told apart. The first plain argument names the program; a
separator next to it is passed over. -/
def readTokens (r : Reading) : List Token → Except Halt Reading
  | [] => .ok r
  | .word s :: ts =>
    if r.request.program.isSome then readTokens (r.extra s) ts
    else
      let named := { r with request := { r.request with program := some s } }
      match ts with
      | .separator :: rest => readTokens named rest
      | ts => readTokens named ts
  | .separator :: ts =>
    match r.request.program, ts with
    | none, .word s :: rest =>
      readTokens { r with request := { r.request with program := some s } } rest
    | _, ts => readTokens (r.extra (.text "--")) ts
  | .unknown s :: ts => readTokens (r.extra (.text s)) ts
  | .option o long attached :: ts =>
    match cluster o long attached with
    | .error h => .error h
    | .ok c =>
      match c.last, ts with
      | none, ts =>
        match r.request.flags c.flags with
        | .error h => .error h
        | .ok q => readTokens { r with request := q } ts
      | some (last, some v), ts =>
        match (r.request.flags c.flags).bind fun q => q.value last (.text v) with
        | .error h => .error h
        | .ok q => readTokens { r with request := q } ts
      | some (last, none), .word v :: rest =>
        match (r.request.flags c.flags).bind fun q => q.value last v with
        | .error h => .error h
        | .ok q => readTokens { r with request := q } rest
      | some (last, none), _ => .error (.fault (.missingValue last))

/-- The complaint about arguments that mean nothing. They are shown as texts. -/
def unrecognized (extras : List Datum) : Halt :=
  match extras.zipIdx.find? fun e => e.1.text?.isNone with
  | some (d, k) => .broken (.noTextAt k d.typeName)
  | none => .fault (.unrecognized (extras.filterMap Datum.text?))

/-- What a command line asks for. -/
def Request.ofArgs (args : List Datum) : Except Halt (Datum × Request) := do
  let ts ← tokens args
  let r ← readTokens ⟨{}, []⟩ ts
  match r.request.program with
  | none => .error (.fault .missingProgram)
  | some program =>
    if r.extras.isEmpty then return (program, r.request)
    else .error (unrecognized r.extras)

end CommandLine

end ChipEight
