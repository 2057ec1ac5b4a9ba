import ChipEight.Text.Hex

/-!
# Memory

The machine owns 4096 byte cells. Every address, however large or negative, names the cell of its
residue modulo 4096, so no access can fail. The hexadecimal font stands at `0x050`, and programs are
placed at `0x200`.

## Main definitions

- `Memory`: the cells.
- `Memory.read`, `Memory.write`: one cell, by any integer address.
- `Memory.readBlock`, `Memory.writeBlock`: consecutive cells; a write that runs around the memory
  overwrites its own earlier bytes.
- `Memory.fresh`: all cells zero but for the font.

## Main statements

- `read_write`: a write is seen exactly at the addresses that name the written cell.
-/

namespace ChipEight

/-- The number of cells. -/
def Memory.size : Nat := 4096

/-- The 4096 byte cells of the machine. -/
@[ext] structure Memory where
  cells : Vector UInt8 4096

namespace Memory

/-- Where the font glyphs begin. -/
def fontBase : Nat := 0x050

/-- Where a program is placed. -/
def programBase : Nat := 0x200

/-- The number of bytes of one font glyph. -/
def glyphSize : Nat := 5

/-- The number of cells from the program base to the end of memory. -/
def programCapacity : Nat := size - programBase

/-- The sixteen font glyphs: five rows each, four pixels wide. -/
def font : List UInt8 :=
  [0xF0, 0x90, 0x90, 0x90, 0xF0,
    0x20, 0x60, 0x20, 0x20, 0x70,
    0xF0, 0x10, 0xF0, 0x80, 0xF0,
    0xF0, 0x10, 0xF0, 0x10, 0xF0,
    0x90, 0x90, 0xF0, 0x10, 0x10,
    0xF0, 0x80, 0xF0, 0x10, 0xF0,
    0xF0, 0x80, 0xF0, 0x90, 0xF0,
    0xF0, 0x10, 0x20, 0x40, 0x40,
    0xF0, 0x90, 0xF0, 0x90, 0xF0,
    0xF0, 0x90, 0xF0, 0x10, 0xF0,
    0xF0, 0x90, 0xF0, 0x90, 0x90,
    0xE0, 0x90, 0xE0, 0x90, 0xE0,
    0xF0, 0x80, 0x80, 0x80, 0xF0,
    0xE0, 0x90, 0x90, 0x90, 0xE0,
    0xF0, 0x80, 0xF0, 0x80, 0xF0,
    0xF0, 0x80, 0xF0, 0x80, 0x80]

/-- The cell that an address names. -/
def cell (a : Int) : Fin 4096 :=
  ⟨(a % 4096).toNat, by omega⟩

/-- The byte at an address. -/
def read (m : Memory) (a : Int) : UInt8 :=
  m.cells[cell a]

/-- The memory with one byte replaced. -/
def write (m : Memory) (a : Int) (b : UInt8) : Memory :=
  ⟨m.cells.set (cell a).val b (cell a).isLt⟩

/-- The memory with consecutive bytes replaced, the first one at `a`. -/
def writeBlock (m : Memory) (a : Int) : List UInt8 → Memory
  | [] => m
  | b :: bs => writeBlock (m.write a b) (a + 1) bs

/-- The bytes at `n` consecutive addresses, the first one at `a`; none for a negative length. -/
def readBlock (m : Memory) (a n : Int) : List UInt8 :=
  (List.range n.toNat).map fun (k : Nat) => m.read (a + k)

/-- Integers written as bytes: each keeps its lowest eight bits. -/
def poke (m : Memory) (a : Int) (data : List Int) : Memory :=
  m.writeBlock a (data.map UInt8.ofInt)

/-- The memory of a machine that has run nothing yet. -/
def fresh : Memory :=
  writeBlock ⟨Vector.replicate 4096 0⟩ fontBase font

/-- Where the glyph of the lowest hexadecimal digit of `d` begins. -/
def glyphAddress (d : Int) : Nat :=
  fontBase + (d % 16).toNat * glyphSize

/-- The one-line account of a memory: its fixed layout. -/
def describe (_ : Memory) : String :=
  "MemoryImage(size=" ++ toString size ++ ", font=$" ++ Text.hex 3 fontBase ++
    ", program=$" ++ Text.hex 3 programBase ++ ")"

/-! ### Reading what was written -/

theorem cell_eq_cell_iff {a c : Int} : cell a = cell c ↔ a % 4096 = c % 4096 := by
  simp only [cell, Fin.mk.injEq]
  omega

/-- A write is seen at the addresses that name the same cell, and nowhere else. -/
theorem read_write (m : Memory) (a c : Int) (b : UInt8) :
    (m.write a b).read c = if a % 4096 = c % 4096 then b else m.read c := by
  simp only [read, write, Fin.getElem_fin, Vector.getElem_set, Fin.val_inj, cell_eq_cell_iff]

@[simp] theorem length_readBlock (m : Memory) (a n : Int) :
    (m.readBlock a n).length = n.toNat := by
  simp [readBlock]

end Memory

end ChipEight
