import ChipEight.Console
import Mathlib.Data.Finset.Max
import Mathlib.Data.Int.Bitwise

/-!
# A loose machine

The types of a `Machine` hold it in bounds: a register is a byte because nothing else fits. A loose
machine has no such types. Its registers and addresses are integers, its arrays of bytes are lists
of integers of any length, and its keys are sets of integers. What holds it in bounds, if anything
does, are its operations: some mask what they store, an array refuses a store of what is no byte,
and the rest rely on what they are given.

An array that refuses a store stops the instruction halfway, as does an access beyond its end. So a
mask too few is not hidden here: the loose machine would stop, or leave its bounds.

## Main definitions

- `Loose`: the state.
- `Loose.Op`: operations that may stop halfway; what was done before stays done.
- `Loose.read`, `Loose.write`: arrays of bytes.
- `Loose.exec`, `Loose.cycle`: instructions and cycles.
- `Loose.perform`, `Loose.performAll`: what a host may ask for.
-/

namespace ChipEight

/-- The state of a loose machine. -/
structure Loose where
  dialect : Dialect
  source : RandomSource
  ram : List Int
  /-- The general registers. -/
  v : List Int
  pc : Int
  index : Int
  /-- The return addresses, the most recent one first. -/
  stack : List Int
  /-- The pixels, row by row. -/
  pixels : List Int
  dirty : Bool
  live : Finset Int
  last : Finset Int
  delay : Int
  sound : Int
  cycles : Nat

namespace Loose

/-- The memory at power-on: the font is laid over zeros. -/
def freshRam : List Int :=
  let zeros := List.replicate 4096 0
  zeros.take Memory.fontBase ++ (Memory.font.map fun b => (b.toNat : Int)) ++
    zeros.drop (Memory.fontBase + Memory.font.length)

/-- The loose machine at power-on. -/
def fresh (dialect : Dialect) (source : RandomSource) : Loose where
  dialect := dialect
  source := source
  ram := freshRam
  v := List.replicate 16 0
  pc := 0x200
  index := 0
  stack := []
  pixels := List.replicate 2048 0
  dirty := false
  live := ∅
  last := ∅
  delay := 0
  sound := 0
  cycles := 0

/-! ### Operations -/

/-- An operation changes the state and yields something, or is refused on the way. -/
def Op (α : Type) : Type :=
  Loose → Except Refusal α × Loose

instance : Monad Op where
  pure a := fun s => (.ok a, s)
  bind x f := fun s =>
    match x s with
    | (.ok a, t) => f a t
    | (.error e, t) => (.error e, t)

variable {α : Type}

/-- Look at the state. -/
def see (f : Loose → α) : Op α :=
  fun s => (.ok (f s), s)

/-- Change the state. -/
def change (f : Loose → Loose) : Op Unit :=
  fun s => (.ok (), f s)

/-- Stop here. -/
def refuse (e : Refusal) : Op α :=
  fun s => (.error e, s)

/-- Go on with a result, or stop here if there is none. -/
def demand : Except Refusal α → Op α
  | .ok a => pure a
  | .error e => refuse e

/-! ### Arrays of bytes -/

/-- The place of a number in an array of `n` places, counted from the end if negative. -/
def place? (n : Nat) (k : Int) : Option Nat :=
  if 0 ≤ k ∧ k < n then some k.toNat
  else if -n ≤ k ∧ k < 0 then some (k + n).toNat
  else none

/-- What an array holds at a place, if there is such a place. -/
def fetchAt (bs : List Int) (k : Int) : Except Refusal Int :=
  match (place? bs.length k).bind fun i => bs[i]? with
  | some b => .ok b
  | none => .error .noRegister

/-- An array with one place changed. The size of the number is looked at first, then the value, and
then whether there is such a place. -/
def storeAt (bs : List Int) (k b : Int) : Except Refusal (List Int) :=
  if k < -2 ^ 63 ∨ 2 ^ 63 ≤ k then .error .hugeNumber
  else if b < 0 ∨ 256 ≤ b then .error .noByte
  else
    match place? bs.length k with
    | some i => .ok (bs.set i b)
    | none => .error .noRegister

/-- The arrays of a loose machine. -/
inductive Bank where
  | ram
  | general
  | pixels

/-- An array of the machine. -/
def bank (s : Loose) : Bank → List Int
  | .ram => s.ram
  | .general => s.v
  | .pixels => s.pixels

/-- The machine with an array replaced. -/
def setBank (s : Loose) (bs : List Int) : Bank → Loose
  | .ram => { s with ram := bs }
  | .general => { s with v := bs }
  | .pixels => { s with pixels := bs }

/-- Read a place of an array. -/
def read (a : Bank) (k : Int) : Op Int := do
  demand (fetchAt (← see fun s => s.bank a) k)

/-- Write a place of an array. -/
def write (a : Bank) (k b : Int) : Op Unit := do
  let bs ← demand (storeAt (← see fun s => s.bank a) k b)
  change fun s => s.setBank bs a

/-! ### Memory -/

/-- Read a memory cell; the address is taken modulo the size of the memory. -/
def readCell (a : Int) : Op Int :=
  read .ram (a % 4096)

/-- Write the lowest eight bits of an integer to a memory cell. -/
def writeCell (a b : Int) : Op Unit :=
  write .ram (a % 4096) (b % 256)

/-- Write consecutive cells. -/
def writeBlock (a : Int) : List Int → Op Unit
  | [] => pure ()
  | b :: bs => do
    writeCell a b
    writeBlock (a + 1) bs

/-- Read consecutive cells. -/
def readBlock (a : Int) : Nat → Op (List Int)
  | 0 => pure []
  | n + 1 => do
    let b ← readCell a
    let bs ← readBlock (a + 1) n
    return b :: bs

/-- Read an element of a slice of memory. -/
def element (s : Slice) (k : Nat) : Op Datum := do
  let bs ← readBlock (s.address k) s.format.width
  return s.format.read (bs.map UInt8.ofInt)

/-- Read the first elements of a slice of memory. -/
def elements (s : Slice) : Nat → Op (List Datum)
  | 0 => pure []
  | n + 1 => do
    let ds ← elements s n
    let d ← element s n
    return ds ++ [d]

/-- Store the first elements of a slice of memory at the program base, each one as it is by then. -/
def copy (s : Slice) : Nat → Op Unit
  | 0 => pure ()
  | n + 1 => do
    copy s n
    let d ← element s n
    writeCell (Memory.programBase + n) (d.integer?.getD 0)

/-- Place a program at the program base. The elements of a slice of memory are looked at before the
first of them is stored. -/
def load : Program → Op Unit
  | .offer o =>
    match o.accept with
    | .ok bytes => writeBlock Memory.programBase (bytes.map fun b => (b.toNat : Int))
    | .error f => refuse (.fault f)
  | .own s => do
    match (Offer.items (← elements s s.count)).accept with
    | .ok _ => copy s s.count
    | .error f => refuse (.fault f)

/-! ### Registers -/

/-- Read a general register. -/
def reg (x : Int) : Op Int :=
  read .general x

/-- Write a general register, without a mask. -/
def setReg (x b : Int) : Op Unit :=
  write .general x b

/-- Write the lowest eight bits of an integer to the flag register. -/
def setFlag (b : Int) : Op Unit :=
  write .general 15 (b % 256)

/-- Replace the first `n` general registers by a block. Whatever has another length than the part
that it replaces changes the number of registers. -/
def splice (n : Nat) (bs : List Int) : Op Unit :=
  if ∀ b ∈ bs, 0 ≤ b ∧ b < 256 then change fun s => { s with v := bs ++ s.v.drop n }
  else refuse .noByte

/-- Set the program counter to the lowest sixteen bits of an integer. -/
def setPc (a : Int) : Op Unit :=
  change fun s => { s with pc := a % 65536 }

/-- Set the index register to the lowest sixteen bits of an integer. -/
def setIndex (a : Int) : Op Unit :=
  change fun s => { s with index := a % 65536 }

/-- Push the lowest sixteen bits of an integer. -/
def push (a : Int) : Op Unit :=
  change fun s => { s with stack := a % 65536 :: s.stack }

/-- Pop a return address. -/
def pop : Op Int := fun s =>
  match s.stack with
  | [] => (.error (.fault (.stackUnderflow s.pc.toNat)), s)
  | a :: rest => (.ok a, { s with stack := rest })

/-- Move the program counter on by one instruction if the condition holds. -/
def skipIf (c : Bool) : Op Unit := do
  if c then setPc ((← see pc) + 2)

/-! ### Two-register arithmetic -/

/-- Zero the flag register, in dialects that do so before a bitwise operation. -/
def resetFlag : Op Unit := do
  if ← see fun s => s.dialect.vfReset then setReg 15 0

/-- Combine two registers bit by bit, into the first. -/
def bitwise (f : Int → Int → Int) (x y : Int) : Op Unit := do
  resetFlag
  setReg x (f (← reg x) (← reg y))

/-- Copy `VY` into `VX`, in dialects whose shifts move `VY`. -/
def copySource (x y : Int) : Op Unit := do
  if !(← see fun s => s.dialect.shifting) then setReg x (← reg y)

/-- The integer that a shift moves. -/
def shiftSource (x y : Int) : Op Int := do
  copySource x y
  reg x

/-- The two-register operations. The flag is written after the result. -/
def operate (f : Alu) (x y : Int) : Op Unit :=
  match f with
  | .copy => do setReg x (← reg y)
  | .or => bitwise Int.lor x y
  | .and => bitwise Int.land x y
  | .xor => bitwise Int.xor x y
  | .add => do
    let total := (← reg x) + (← reg y)
    setReg x (total % 256)
    setReg 15 (if 255 < total then 1 else 0)
  | .sub => do
    let vx ← reg x
    let vy ← reg y
    setReg x ((vx - vy) % 256)
    setReg 15 (if vy ≤ vx then 1 else 0)
  | .subFrom => do
    let vx ← reg x
    let vy ← reg y
    setReg x ((vy - vx) % 256)
    setReg 15 (if vx ≤ vy then 1 else 0)
  | .shiftRight => do
    let b ← shiftSource x y
    setReg x (b / 2)
    setReg 15 (b % 2)
  | .shiftLeft => do
    let b ← shiftSource x y
    setReg x (b * 2 % 256)
    setReg 15 (b / 128)

/-- Draw a random byte. A draw that fails is made all the same. -/
def draw : Op Int := fun s =>
  match s.source.next with
  | (.ok b, source) => (.ok b.toNat, { s with source := source })
  | (.error e, source) => (.error (.fault (.operand e)), { s with source := source })

/-! ### The picture -/

/-- The place of a pixel, if the coordinates lie on the grid. -/
def offset (x y : Int) : Op Int :=
  if (0 ≤ x ∧ x < 64) ∧ (0 ≤ y ∧ y < 32) then pure (y * 64 + x) else refuse (.grid ⟨x, y⟩)

/-- Read a pixel. -/
def readPixel (x y : Int) : Op Int := do
  read .pixels (← offset x y)

/-- Store a pixel and raise the flag. -/
def storePixel (k b : Int) : Op Unit := do
  write .pixels k b
  change fun s => { s with dirty := true }

/-- Combine the lowest bit of an integer into a pixel, and tell whether that turned it off. -/
def xorPixel (x y bit : Int) : Op Bool := do
  let k ← offset x y
  if bit % 2 = 0 then return false
  let old ← read .pixels k
  storePixel k (Int.xor old 1)
  return old = 1

/-- Turn every pixel off. -/
def clear : Op Unit :=
  change fun s => { s with pixels := List.replicate 2048 0, dirty := true }

/-- The coordinate on an axis of `n` places: beyond the edge it is dropped when clipping and wraps
around otherwise. -/
def wrap? (clipping : Bool) (n p : Int) : Option Int :=
  if n ≤ p then if clipping then none else some (p % n) else some p

/-- Draw a column of a sprite row, and tell whether a lit pixel went off. -/
def drawColumn (clipping : Bool) (x y row : Int) (c : Nat) : Op Bool :=
  match wrap? clipping 64 (x + c) with
  | none => pure false
  | some px => if row / 2 ^ (7 - c) % 2 = 0 then pure false else xorPixel px y 1

/-- Draw columns of a sprite row in order, and tell whether a lit pixel went off. -/
def drawColumns (clipping : Bool) (x y row : Int) : List Nat → Op Bool
  | [] => pure false
  | c :: cs => do
    let hit ← drawColumn clipping x y row c
    let rest ← drawColumns clipping x y row cs
    return hit || rest

/-- Draw a row of a sprite, and tell whether a lit pixel went off. -/
def drawRow (clipping : Bool) (x y : Int) (k : Nat) : Op Bool := do
  let row ← readCell ((← see index) + k)
  match wrap? clipping 32 (y + k) with
  | none => pure false
  | some py => drawColumns clipping x py row (List.range 8)

/-- Draw rows of a sprite in order, and tell whether a lit pixel went off. -/
def drawRows (clipping : Bool) (x y : Int) : List Nat → Op Bool
  | [] => pure false
  | k :: ks => do
    let hit ← drawRow clipping x y k
    let rest ← drawRows clipping x y ks
    return hit || rest

/-- Draw a sprite of `n` rows. The flag is lowered first, and raised if a lit pixel went off. -/
def drawSprite (x y : Int) (n : Nat) : Op Unit := do
  let left := (← reg x) % 64
  let top := (← reg y) % 32
  setFlag 0
  if ← drawRows (← see fun s => s.dialect.clipping) left top (List.range n) then setFlag 1

/-! ### Keys -/

/-- Press or release the key of a code. -/
def setKey (code : Int) (down : Bool) : Op Unit :=
  if 0 ≤ code ∧ code < 16 then
    change fun s => { s with live := if down then insert code s.live else s.live.erase code }
  else refuse (.key ⟨code⟩)

/-- Remember the held keys. -/
def snapshot : Op Unit :=
  change fun s => { s with last := s.live }

/-- Store the least key that was let go, or move the program counter back. -/
def awaitKey (x : Int) : Op Unit := do
  let gone ← see fun s => s.last \ s.live
  if h : gone.Nonempty then setReg x (gone.min' h) else setPc ((← see pc) - 2)

/-! ### Timers -/

/-- Step both timers. -/
def tick : Op Unit :=
  change fun s =>
    { s with delay := Timers.countDown s.delay, sound := Timers.countDown s.sound }

/-! ### Instructions -/

/-- Move the index register behind a block of `n` bytes, in dialects that do so. -/
def passBlock (n : Int) : Op Unit := do
  if ← see fun s => s.dialect.memory then setIndex ((← see index) + n)

/-- Execute an instruction. -/
def exec : Instr → Op Unit
  | .unknown _ => pure ()
  | .clear => clear
  | .ret => do setPc (← pop)
  | .jump a => setPc a.val
  | .call a => do
    push (← see pc)
    setPc a.val
  | .skipEqImm x b => do skipIf ((← reg x.val) == b.toNat)
  | .skipNeImm x b => do skipIf ((← reg x.val) != b.toNat)
  | .skipEq x y => do skipIf ((← reg x.val) == (← reg y.val))
  | .loadImm x b => setReg x.val b.toNat
  | .addImm x b => do setReg x.val (((← reg x.val) + b.toNat) % 256)
  | .alu f x y => operate f x.val y.val
  | .skipNe x y => do skipIf ((← reg x.val) != (← reg y.val))
  | .loadIndex a => setIndex a.val
  | .jumpOffset a => do
    let x : Int := if ← see fun s => s.dialect.jumping then a.val / 256 else 0
    setPc (a.val + (← reg x))
  | .random x mask => do setReg x.val (Int.land (← draw) mask.toNat)
  | .draw x y n => drawSprite x.val y.val n.val
  | .skipKey x => do
    let code ← reg x.val
    skipIf (← see fun s => decide (code ∈ s.live))
  | .skipNoKey x => do
    let code ← reg x.val
    skipIf (!(← see fun s => decide (code ∈ s.live)))
  | .readDelay x => do setReg x.val ((← see delay) % 256)
  | .awaitKey x => awaitKey x.val
  | .setDelay x => do
    let t ← reg x.val
    change fun s => { s with delay := t }
  | .setSound x => do
    let t ← reg x.val
    change fun s => { s with sound := t }
  | .addIndex x => do setIndex ((← see index) + (← reg x.val))
  | .glyph x => do setIndex (Memory.glyphAddress (← reg x.val))
  | .decimal x => do
    let b ← reg x.val
    writeBlock (← see index) [b / 100, b / 10 % 10, b % 10]
  | .storeRegs x => do
    writeBlock (← see index) (← see fun s => s.v.take (x.val + 1))
    passBlock (x.val + 1)
  | .loadRegs x => do
    splice (x.val + 1) (← readBlock (← see index) (x.val + 1))
    passBlock (x.val + 1)

/-! ### Cycles -/

/-- Fetch the word at the program counter, its high byte first, and move behind it. -/
def fetch : Op Int := do
  let pc ← see pc
  let high ← readCell pc
  let low ← readCell (pc + 1)
  setPc (pc + 2)
  return Int.lor (high * 256) low

/-- The instruction of an integer. -/
def decoded (word : Int) : Op Instr :=
  demand ((decodeInt word).mapError .word)

/-- One cycle. -/
def cycle : Op Instr := do
  let instr ← decoded (← fetch)
  exec instr
  snapshot
  change fun s => { s with cycles := s.cycles + 1 }
  return instr

/-! ### Frames -/

/-- Up to `n` cycles; when told to wait for the display, none after one that leaves the picture
written to. -/
def burst (wait : Bool) : Nat → Op Unit
  | 0 => pure ()
  | n + 1 => do
    let _ ← cycle
    if wait && (← see dirty) then pure () else burst wait n

/-- A frame of so many cycles at most. The timers are stepped and the flag is lowered after them. -/
def frame (budget : Int) : Op Unit := do
  burst (← see fun s => s.dialect.displayWait) budget.toNat
  tick
  if ← see dirty then change fun s => { s with dirty := false }

/-! ### Commands -/

/-- One direct write. -/
def assign : Assignment → Op Unit
  | .pc a => setPc a
  | .index a => setIndex a
  | .flag b => setFlag b
  | .delay t => change fun s => { s with delay := t }
  | .sound t => change fun s => { s with sound := t }
  | .general k b => setReg k b

/-- Operations in order. -/
def inOrder : List (Op Unit) → Op Unit
  | [] => pure ()
  | x :: xs => do
    x
    inOrder xs

/-- One command, where a frame may take so many cycles. Questions leave the machine alone. -/
def perform (budget : Int) : Command → Op Unit
  | .load p => load p
  | .poke a data => writeBlock a data
  | .writeCell a b => writeCell a b
  | .readCell a => do let _ ← readCell a
  | .peek a n => do let _ ← readBlock a n.toNat
  | .assign writes => inOrder (writes.map assign)
  | .readFlag => do let _ ← reg 15
  | .push a => push a
  | .pop => do let _ ← pop
  | .fetch => do let _ ← fetch
  | .cycles n => inOrder (List.replicate n.toNat do let _ ← cycle)
  | .execute word => do exec (← decoded word)
  | .tick n => inOrder (List.replicate n.toNat tick)
  | .setKey code down => setKey code down
  | .releaseAll => change fun s => { s with live := ∅ }
  | .snapshot => snapshot
  | .xorPixel x y bit => do let _ ← xorPixel x y bit
  | .readPixel x y => do let _ ← readPixel x y
  | .clear => clear
  | .consume => change fun s => { s with dirty := false }
  | .frames n => inOrder (List.replicate n.toNat (frame budget))
  | .glyph _ | .isPressed _ | .releasedKey | .text | .describe | .hush | .setBudget _ | .pacing =>
    pure ()

/-- The most cycles that a frame may take after a command. -/
def budgetAfter (budget : Int) : Command → Int
  | .setBudget n => n
  | _ => budget

/-- Why an operation was refused, if it was. -/
def refusal? : Except Refusal α → Option Refusal
  | .ok _ => none
  | .error e => some e

/-- Commands in order, with their refusals; a refused one does not stop the next. -/
def performAll (budget : Int) (s : Loose) : List Command → Loose × List (Option Refusal)
  | [] => (s, [])
  | k :: ks =>
    let (result, next) := perform budget k s
    let (last, refusals) := performAll (budgetAfter budget k) next ks
    (last, refusal? result :: refusals)

end Loose

end ChipEight
