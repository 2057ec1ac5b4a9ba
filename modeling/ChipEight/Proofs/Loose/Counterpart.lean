import ChipEight.Proofs.Loose.Machine
import ChipEight.Proofs.Machine.Bytes
import ChipEight.Proofs.Machine.KeyWait

/-!
# Loose counterparts

Every machine has a loose counterpart, which holds the same values as plain integers. Reading and
writing memory and registers does to the counterpart what it does to the machine. Memory masks what
is stored, a program counter and an index register are masked, and a general register is not: there
the value must be a byte to begin with.

## Main definitions

- `Machine.loose`: the loose counterpart of a machine.
- `Loose.Op.Does`: what an operation does to a counterpart.

## Main results

- `Loose.does_writeCell`, `Loose.does_readBlock`: memory.
- `Loose.does_setReg`, `Loose.does_setPc`: registers.
-/

namespace ChipEight

/-! ### Counterparts -/

/-- Bytes as integers. -/
def looseBytes (bs : List UInt8) : List Int :=
  bs.map fun b => (b.toNat : Int)

/-- The codes of the keys of a set. -/
def KeySet.codes (s : KeySet) : Finset Int :=
  (s.toList.map fun k => (k.val : Int)).toFinset

/-- The cell of a place, row by row. -/
def Cell.ofPlace (k : Nat) : Cell :=
  ⟨Fin.ofNat 64 k, Fin.ofNat 32 (k / 64)⟩

/-- The pixels as integers, row by row. -/
@[irreducible] def Display.loosePixels (d : Display) : List Int :=
  (List.range 2048).map fun k => ((d.pixel (.ofPlace k)).toNat : Int)

/-- The loose counterpart of a machine. -/
def Machine.loose (m : Machine) : Loose where
  dialect := m.dialect
  source := m.source
  ram := looseBytes m.memory.cells.toList
  v := looseBytes m.registers.v.toList
  pc := m.registers.pc.toNat
  index := m.registers.index.toNat
  stack := m.registers.stack.map fun a => (a.toNat : Int)
  pixels := m.display.loosePixels
  dirty := m.display.dirty
  live := m.keypad.live.codes
  last := m.keypad.last.codes
  delay := m.timers.delay
  sound := m.timers.sound
  cycles := m.cycles

/-! ### What an operation does to a counterpart -/

namespace Loose

variable {α β : Type} {m n k : Machine}

/-- On the counterpart of `m`, the operation comes out at `r` and leaves the counterpart of `n`. -/
def Op.Does (x : Op α) (m : Machine) (r : Except Refusal α) (n : Machine) : Prop :=
  x m.loose = (r, n.loose)

theorem does_pure (a : α) (m : Machine) : Op.Does (pure a) m (.ok a) m := rfl

theorem does_see (f : Loose → α) (m : Machine) : (see f).Does m (.ok (f m.loose)) m := rfl

theorem does_refuse (e : Refusal) (m : Machine) : Op.Does (refuse (α := α) e) m (.error e) m := rfl

theorem does_demand (r : Except Refusal α) (m : Machine) : (demand r).Does m r m := by
  cases r <;> rfl

/-- One operation after another. -/
theorem Op.Does.bind {x : Op α} {f : α → Op β} {a : α} {r : Except Refusal β}
    (hx : x.Does m (.ok a) n) (hf : (f a).Does n r k) : Op.Does (x >>= f) m r k := by
  rw [Op.Does] at hx hf ⊢
  simp only [Bind.bind, hx, hf]

/-- Nothing comes after a refusal. -/
theorem Op.Does.stop {x : Op α} {e : Refusal} (hx : x.Does m (.error e) n) (f : α → Op β) :
    Op.Does (x >>= f) m (.error e) n := by
  rw [Op.Does] at hx ⊢
  simp only [Bind.bind, hx]

/-! ### Arrays of bytes -/

theorem place?_natCast {n i : Nat} (h : i < n) : place? n i = some i := by
  rw [place?, if_pos (by omega), Int.toNat_natCast]

theorem fetchAt_natCast {bs : List Int} {i : Nat} (h : i < bs.length) :
    fetchAt bs i = .ok bs[i] := by
  simp only [fetchAt, place?_natCast h, Option.bind_some, List.getElem?_eq_getElem h]

/-- An array takes a byte at each of its places. -/
theorem storeAt_natCast {bs : List Int} {i : Nat} (h : i < bs.length) (hi : i < 2 ^ 63)
    (u : UInt8) : storeAt bs i u.toNat = .ok (bs.set i u.toNat) := by
  have hu := u.toNat_lt
  rw [storeAt, if_neg (by omega), if_neg (by omega), place?_natCast h]

theorem does_read {a : Bank} {i b : Int} (h : fetchAt (m.loose.bank a) i = .ok b) :
    (read a i).Does m (.ok b) m := by
  refine (does_see _ m).bind ?_
  rw [h]
  rfl

theorem does_write {a : Bank} {i b : Int} {bs : List Int}
    (h : storeAt (m.loose.bank a) i b = .ok bs) (hn : m.loose.setBank bs a = n.loose) :
    (write a i b).Does m (.ok ()) n := by
  have hbs : Op.Does (demand (storeAt (m.loose.bank a) i b)) m (.ok bs) m := by
    rw [h]
    rfl
  refine (does_see _ m).bind (hbs.bind ?_)
  rw [Op.Does, ← hn]
  rfl

/-- A place of a vector of bytes is found in its counterpart. -/
theorem fetchAt_looseBytes {size : Nat} (bytes : Vector UInt8 size) (i : Fin size) :
    fetchAt (looseBytes bytes.toList) i.val = .ok bytes[i].toNat := by
  have hlen : i.val < (looseBytes bytes.toList).length := by simp [looseBytes]
  rw [fetchAt_natCast hlen]
  simp [looseBytes]

/-- A place of a vector of bytes takes a byte in its counterpart. -/
theorem storeAt_looseBytes {size : Nat} (hsize : size < 2 ^ 63) (bytes : Vector UInt8 size)
    (i : Fin size) (u : UInt8) :
    storeAt (looseBytes bytes.toList) i.val u.toNat =
      .ok (looseBytes (bytes.set i.val u i.isLt).toList) := by
  have hlen : i.val < (looseBytes bytes.toList).length := by simp [looseBytes]
  rw [storeAt_natCast hlen (by omega)]
  simp only [looseBytes, Vector.toList_set, List.map_set]

/-! ### Memory -/

theorem emod_eq_cell (a : Int) : a % 4096 = ((Memory.cell a).val : Int) := by
  simp only [Memory.cell]
  omega

theorem does_readCell (m : Machine) (a : Int) :
    (readCell a).Does m (.ok (m.memory.read a).toNat) m := by
  apply does_read
  rw [emod_eq_cell]
  exact fetchAt_looseBytes m.memory.cells (Memory.cell a)

/-- A store to memory is masked, so it is never refused. -/
theorem does_writeCell (m : Machine) (a b : Int) :
    (writeCell a b).Does m (.ok ()) { m with memory := m.memory.write a (UInt8.ofInt b) } := by
  refine does_write ?_ rfl
  rw [emod_eq_cell, ← toNat_byte_ofInt]
  exact storeAt_looseBytes (by decide) m.memory.cells (Memory.cell a) _

theorem does_writeBlock (m : Machine) (a : Int) (bs : List Int) :
    (writeBlock a bs).Does m (.ok ()) { m with memory := m.memory.poke a bs } := by
  induction bs generalizing m a with
  | nil => exact does_pure () m
  | cons b bs ih => exact (does_writeCell m a b).bind (ih _ (a + 1))

/-- The numbers of bytes are those bytes. -/
theorem map_ofInt_looseBytes (us : List UInt8) : (looseBytes us).map UInt8.ofInt = us := by
  rw [looseBytes, List.map_map, List.map_congr_left (g := id), List.map_id]
  intro u _
  exact byte_ofInt_eq (by have := u.toNat_lt; simp; omega)

/-- Writing bytes by their numbers is writing the bytes. -/
theorem poke_looseBytes (memory : Memory) (a : Int) (us : List UInt8) :
    memory.poke a (looseBytes us) = memory.writeBlock a us := by
  rw [Memory.poke, map_ofInt_looseBytes]

theorem readBlock_succ (memory : Memory) (a : Int) (count : Nat) :
    memory.readBlock a (count + 1 : Nat) =
      memory.read a :: memory.readBlock (a + 1) count := by
  simp only [Memory.readBlock, Int.toNat_natCast, List.range_succ_eq_map, List.map_cons,
    List.map_map, Nat.cast_zero, add_zero]
  congr 2
  funext i
  simp only [Function.comp, Nat.succ_eq_add_one]
  congr 1
  omega

theorem does_readBlock (m : Machine) (a : Int) (count : Nat) :
    (readBlock a count).Does m (.ok (looseBytes (m.memory.readBlock a count))) m := by
  induction count generalizing a with
  | zero => exact does_pure [] m
  | succ count ih =>
    rw [readBlock_succ]
    exact (does_readCell m a).bind ((ih (a + 1)).bind (does_pure _ m))

theorem does_element (m : Machine) (s : Slice) (k : Nat) :
    (element s k).Does m (.ok (s.element m.memory k)) m := by
  refine (does_readBlock m (s.address k) s.format.width).bind ?_
  rw [map_ofInt_looseBytes]
  exact does_pure _ m

theorem does_elements (m : Machine) (s : Slice) (n : Nat) :
    (elements s n).Does m (.ok ((List.range n).map (s.element m.memory))) m := by
  induction n with
  | zero => exact does_pure [] m
  | succ n ih =>
    rw [List.range_succ, List.map_append]
    exact ih.bind ((does_element m s n).bind (does_pure _ m))

/-- Elements are stored one after another, and each is read behind the stores before it. -/
theorem does_copy (m : Machine) (s : Slice) (n : Nat) :
    (copy s n).Does m (.ok ()) { m with memory := m.memory.copy s n } := by
  induction n with
  | zero => exact does_pure () m
  | succ n ih =>
    refine ih.bind ((does_element _ s n).bind ?_)
    exact does_writeCell _ _ _

/-! ### Registers -/

theorem does_reg (m : Machine) (x : Reg) :
    (reg x.val).Does m (.ok (m.registers.get x).toNat) m :=
  does_read (fetchAt_looseBytes m.registers.v x)

/-- A general register takes what is a byte already. -/
theorem does_setReg (m : Machine) (x : Reg) {b : Int} {u : UInt8} (h : b = u.toNat) :
    (setReg x.val b).Does m (.ok ()) (m.onRegisters fun r => r.set x u) := by
  refine does_write ?_ rfl
  rw [h]
  exact storeAt_looseBytes (by decide) m.registers.v x u

theorem does_setFlag (m : Machine) {b : Int} {u : UInt8} (h : b % 256 = u.toNat) :
    (setFlag b).Does m (.ok ()) (m.onRegisters fun r => r.set flagReg u) :=
  does_setReg m flagReg h

theorem does_setPc (m : Machine) {a : Int} {u : UInt16} (h : a % 65536 = u.toNat) :
    (setPc a).Does m (.ok ()) (m.onRegisters fun r => r.goto u) := by
  rw [setPc, h]
  rfl

theorem does_setIndex (m : Machine) {a : Int} {u : UInt16} (h : a % 65536 = u.toNat) :
    (setIndex a).Does m (.ok ()) (m.onRegisters fun r => r.point u) := by
  rw [setIndex, h]
  rfl

theorem does_push (m : Machine) {a : Int} {u : UInt16} (h : a % 65536 = u.toNat) :
    (push a).Does m (.ok ()) (m.onRegisters fun r => r.push u) := by
  rw [push, h]
  rfl

theorem does_skipIf (m : Machine) (c : Bool) :
    (skipIf c).Does m (.ok ()) (m.onRegisters fun r => r.skipIf c) := by
  cases c with
  | true =>
    refine (does_see pc m).bind (does_setPc m (u := m.registers.pc + 2) ?_)
    show ((m.registers.pc.toNat : Int) + 2) % 65536 = _
    rw [UInt16.toNat_add]
    rfl
  | false => exact does_pure () m

end Loose

end ChipEight
