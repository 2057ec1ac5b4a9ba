import ChipEight.Proofs.Machine.Arithmetic

/-!
# Registers in memory

`FX55` writes `V0` to `VX` to the cells from the index register on, and `FX65` reads them back. Both
go around the end of memory, each address for itself, so that neither can fail. What was stored is
loaded again, and what was loaded may be stored again without a change, wherever the index register
points.

In some dialects the index register moves behind the block. Stores in a row then fill memory without
a gap, and loads in a row find their blocks one by one. The index register wraps at 65536 and the
memory at 4096, which divides it; so the row goes on around the end of either.

## Composition

A row of stores is one block in memory: the bytes of all stores, one after the other. All that is
said of rows is said of this block. What the general registers hold may change between two stores
in any way, or else a row would store the same bytes again and again.

## Main definitions

- `Machine.block`: the bytes in `V0` to `VX`.
- `Machine.StoresBlock`, `Machine.LoadsBlock`, `Machine.StoresDigits`: what `FX55`, `FX65` and
  `FX33` leave.
- `Store`, `Machine.storeAll`: stores in a row.
- `Machine.loadAll`, `Machine.blocksRead`: loads in a row, and the blocks that they find.
- `Machine.Filled`: what a row of stores leaves.

## Main results

- `Machine.load_store`, `Machine.store_load`: the two round trips.
- `Machine.memory_storeAll`: a row of stores writes one block.
- `Machine.block_transfer`: all of this, for every machine and every register.
-/

namespace ChipEight

/-- The bytes in `V0` to `VX`. -/
def Machine.block (m : Machine) (x : Reg) : List UInt8 :=
  m.registers.v.toList.take (x.val + 1)

/-- Where the index register stands after a block of `n` bytes: behind it, or where it was, as the
dialect has it. -/
def Machine.indexBehind (m : Machine) (n : Nat) : Nat :=
  if m.dialect.memory then (m.registers.index.toNat + n) % 65536 else m.registers.index.toNat

/-- From `m` to `n`, the registers `V0` to `VX` were stored. -/
structure Machine.StoresBlock (m : Machine) (x : Reg) (n : Machine) : Prop where
  cells : ∀ k ≤ x,
    n.memory.read ((m.registers.index.toNat + k.val) % 4096 : Nat) = m.registers.get k
  others : ∀ c : Nat, (∀ k ≤ x, c % 4096 ≠ (m.registers.index.toNat + k.val) % 4096) →
    n.memory.read c = m.memory.read c
  index : n.registers.index.toNat = m.indexBehind (x.val + 1)
  rest : n = { m with
    memory := n.memory, registers := { m.registers with index := n.registers.index } }

/-- From `m` to `n`, the registers `V0` to `VX` were loaded. -/
structure Machine.LoadsBlock (m : Machine) (x : Reg) (n : Machine) : Prop where
  general : ∀ k ≤ x,
    n.registers.get k = m.memory.read ((m.registers.index.toNat + k.val) % 4096 : Nat)
  higher : ∀ k, x < k → n.registers.get k = m.registers.get k
  index : n.registers.index.toNat = m.indexBehind (x.val + 1)
  rest : n = { m with
    registers := { m.registers with v := n.registers.v, index := n.registers.index } }

/-- From `m` to `n`, the three decimal digits of `VX` were written to memory. -/
structure Machine.StoresDigits (m : Machine) (x : Reg) (n : Machine) : Prop where
  cells : ∃ h t u : Nat, h ≤ 9 ∧ t ≤ 9 ∧ u ≤ 9 ∧
    100 * h + 10 * t + u = (m.registers.get x).toNat ∧
    (n.memory.read (m.registers.index.toNat % 4096 : Nat)).toNat = h ∧
    (n.memory.read ((m.registers.index.toNat + 1) % 4096 : Nat)).toNat = t ∧
    (n.memory.read ((m.registers.index.toNat + 2) % 4096 : Nat)).toNat = u
  others : ∀ c : Nat, (∀ k < 3, c % 4096 ≠ (m.registers.index.toNat + k) % 4096) →
    n.memory.read c = m.memory.read c
  rest : n = { m with memory := n.memory }

namespace Machine

variable (m : Machine) (x : Reg)

/-! ### One block -/

@[simp] theorem length_block : (m.block x).length = x.val + 1 := by
  have hx := x.isLt
  simp only [block, List.length_take, Vector.length_toList]
  omega

theorem getElem_block {k : Nat} (hk : k < (m.block x).length) :
    (m.block x)[k] = m.registers.get ⟨k, by rw [length_block] at hk; omega⟩ := by
  simp only [block, List.getElem_take, Vector.getElem_toList]
  rfl

/-- A cell of a block, told by its place in memory. -/
theorem read_emod (memory : Memory) (a : Nat) : memory.read (a % 4096 : Nat) = memory.read a :=
  memory.read_congr (by omega)

theorem toNat_index_afterBlock : (m.afterBlock x).index.toNat = m.indexBehind (x.val + 1) := by
  have hx := x.isLt
  rw [afterBlock, indexBehind]
  split
  · rw [Registers.point, UInt16.toNat_add, UInt16.toNat_ofNat']
    omega
  · rfl

@[simp] theorem block_pointed (a : UInt16) : (m.pointed a).block x = m.block x := rfl

theorem memory_storeRegs :
    (m.storeRegs x).memory = m.memory.writeBlock m.registers.index.toNat (m.block x) := rfl

theorem storesBlock_storeRegs : m.StoresBlock x (m.storeRegs x) := by
  have hlength := m.length_block x
  have hx := x.isLt
  refine ⟨fun k hk => ?_, fun c hc => ?_, m.toNat_index_afterBlock x, ?_⟩
  · have hk' : k.val < (m.block x).length := by
      rw [hlength]
      exact Nat.lt_succ_iff.2 hk
    rw [memory_storeRegs, read_emod]
    push_cast
    rw [Memory.read_writeBlock _ (by omega) hk', getElem_block]
  · refine Memory.read_writeBlock_of_ne _ fun k hk => ?_
    have hk' : k < x.val + 1 := hlength ▸ hk
    have := hc ⟨k, by omega⟩ (Fin.le_def.2 (by simp only; omega))
    simp only at this
    omega
  · conv_lhs => rw [storeRegs, m.afterBlock_eq x]
    rfl

theorem memory_loadRegs : (m.loadRegs x).memory = m.memory := by
  simp only [loadRegs]

theorem get_loadRegs_of_le {k : Reg} (hk : k ≤ x) :
    (m.loadRegs x).registers.get k = m.memory.read (m.registers.index.toNat + k.val) := by
  simp [loadRegs, Registers.get, hk]

theorem toNat_index_loadRegs :
    (m.loadRegs x).registers.index.toNat = m.indexBehind (x.val + 1) := by
  rw [index_loadRegs, toNat_index_afterBlock]

theorem loadsBlock_loadRegs : m.LoadsBlock x (m.loadRegs x) := by
  refine ⟨fun k hk => ?_, fun k hk => m.get_loadRegs x (not_le.2 hk), m.toNat_index_loadRegs x, ?_⟩
  · rw [m.get_loadRegs_of_le x hk, read_emod]
    push_cast
    rfl
  · conv_lhs => rw [m.loadRegs_eq x]
    simp only [loadRegs]

/-- A block that was loaded is the one that stands in memory. -/
theorem block_loadRegs :
    (m.loadRegs x).block x = m.memory.readBlock m.registers.index.toNat (x.val + 1 : Nat) := by
  refine List.ext_getElem (by simp) fun k hk hk' => ?_
  have hkx : k < x.val + 1 := by rwa [length_block] at hk
  rw [getElem_block, Memory.getElem_readBlock, get_loadRegs_of_le]
  exact Fin.le_def.2 (Nat.lt_succ_iff.1 hkx)

theorem storesDigits_storeDecimal : m.StoresDigits x (m.storeDecimal (m.registers.get x)) := by
  let b := m.registers.get x
  have hcell : ∀ (k : Nat) (hk : k < 3),
      (m.storeDecimal b).memory.read ((m.registers.index.toNat + k) % 4096 : Nat) =
        [b / 100, b / 10 % 10, b % 10][k] := by
    intro k hk
    rw [read_emod]
    push_cast
    exact m.memory.read_writeBlock (by simp) hk
  have hhundreds : (b / 100).toNat = b.toNat / 100 := UInt8.toNat_div b 100
  have htens : (b / 10 % 10).toNat = b.toNat / 10 % 10 := by
    rw [UInt8.toNat_mod, UInt8.toNat_div]
    rfl
  have hunits : (b % 10).toNat = b.toNat % 10 := UInt8.toNat_mod b 10
  have hb := b.toNat_lt
  refine ⟨⟨b.toNat / 100, b.toNat / 10 % 10, b.toNat % 10, by omega, by omega, by omega, ?_,
    (congrArg _ (hcell 0 (by omega))).trans hhundreds,
    (congrArg _ (hcell 1 (by omega))).trans htens,
    (congrArg _ (hcell 2 (by omega))).trans hunits⟩, fun c hc => ?_, rfl⟩
  · show 100 * (b.toNat / 100) + 10 * (b.toNat / 10 % 10) + b.toNat % 10 = b.toNat
    omega
  · refine m.memory.read_writeBlock_of_ne fun k hk => ?_
    have := hc k hk
    omega

/-! ### Round trips -/

/-- **What was stored is loaded again.** -/
theorem load_store :
    (((m.storeRegs x).pointed m.registers.index).loadRegs x).registers.v = m.registers.v := by
  have hstored := m.storesBlock_storeRegs x
  have hloaded := ((m.storeRegs x).pointed m.registers.index).loadsBlock_loadRegs x
  refine Vector.ext fun k hk => ?_
  show Registers.get _ ⟨k, hk⟩ = Registers.get _ ⟨k, hk⟩
  by_cases hkx : (⟨k, hk⟩ : Reg) ≤ x
  · exact (hloaded.general _ hkx).trans (hstored.cells _ hkx)
  · rw [hloaded.higher _ (not_le.1 hkx)]
    exact m.get_afterBlock x _

/-- **What was loaded may be stored again.** -/
theorem store_load :
    (((m.loadRegs x).pointed m.registers.index).storeRegs x).memory = m.memory := by
  rw [memory_storeRegs, memory_pointed, index_pointed, block_pointed, block_loadRegs,
    memory_loadRegs]
  exact m.memory.writeBlock_of_read fun k hk => Memory.getElem_readBlock _ _ _ hk

/-! ### Rows -/

end Machine

/-- A store in a row of stores: what the general registers hold when it is made, and the last one of
them that is stored. -/
structure Store where
  v : Vector UInt8 16
  x : Reg

/-- The bytes that a store writes. -/
def Store.bytes (s : Store) : List UInt8 :=
  s.v.toList.take (s.x.val + 1)

theorem Store.length_bytes (s : Store) : s.bytes.length = s.x.val + 1 := by
  have hx := s.x.isLt
  simp only [bytes, List.length_take, Vector.length_toList]
  omega

namespace Machine

/-- The machine with its general registers set. -/
def holding (m : Machine) (v : Vector UInt8 16) : Machine :=
  m.onRegisters fun r => { r with v := v }

/-- The machine after a store. -/
def store (m : Machine) (s : Store) : Machine :=
  (m.holding s.v).storeRegs s.x

/-- The machine after stores in a row. -/
def storeAll (m : Machine) (ss : List Store) : Machine :=
  ss.foldl store m

/-- The machine after loads in a row. -/
def loadAll (m : Machine) (xs : List Reg) : Machine :=
  xs.foldl loadRegs m

/-- The blocks that loads in a row find: after each of them, the bytes in the registers that it
loads. -/
def blocksRead (m : Machine) : List Reg → List (List UInt8)
  | [] => []
  | x :: xs => (m.loadRegs x).block x :: (m.loadRegs x).blocksRead xs

/-- Instructions executed in a row, up to the first one that fails. -/
def execAll (m : Machine) (is : List Instr) : Except Fault Machine :=
  is.foldlM (fun k i => i.exec k) m

/-- What a row of stores leaves. -/
structure Filled (m : Machine) (ss : List Store) (n : Machine) : Prop where
  /-- The bytes of all stores stand in consecutive cells, without a gap. -/
  cells : ∀ (j : Nat) (hj : j < (ss.flatMap Store.bytes).length),
    n.memory.read ((m.registers.index.toNat + j) % 4096 : Nat) = (ss.flatMap Store.bytes)[j]
  others : ∀ c : Nat, (∀ j < (ss.flatMap Store.bytes).length,
      c % 4096 ≠ (m.registers.index.toNat + j) % 4096) → n.memory.read c = m.memory.read c
  index : n.registers.index.toNat =
    (m.registers.index.toNat + (ss.flatMap Store.bytes).length) % 65536
  /-- Loads of the same widths, from the same place on, find what was stored. -/
  back : (n.pointed m.registers.index).blocksRead (ss.map Store.x) = ss.map Store.bytes
  indexBack : ((n.pointed m.registers.index).loadAll (ss.map Store.x)).registers.index =
    n.registers.index

section

variable {m : Machine}

theorem loadAll_cons (x : Reg) (xs : List Reg) :
    m.loadAll (x :: xs) = (m.loadRegs x).loadAll xs :=
  List.foldl_cons ..

theorem dialect_loadRegs (x : Reg) : (m.loadRegs x).dialect = m.dialect := by
  simp only [loadRegs]

theorem dialect_storeAll (ss : List Store) : (m.storeAll ss).dialect = m.dialect := by
  induction ss generalizing m with
  | nil => rfl
  | cons s ss ih => exact ih (m := m.store s)

/-- In a dialect that moves the index register, it stands behind a block. -/
theorem indexBehind_of_moves (h : m.dialect.memory = true) (n : Nat) :
    m.indexBehind n = (m.registers.index.toNat + n) % 65536 :=
  if_pos h

/-- **A row of stores writes one block**, and moves the index register behind it. -/
theorem memory_storeAll (h : m.dialect.memory = true) (ss : List Store) :
    (m.storeAll ss).memory =
        m.memory.writeBlock m.registers.index.toNat (ss.flatMap Store.bytes) ∧
      (m.storeAll ss).registers.index.toNat =
        (m.registers.index.toNat + (ss.flatMap Store.bytes).length) % 65536 := by
  induction ss generalizing m with
  | nil =>
    have hindex := m.registers.index.toNat_lt
    exact ⟨rfl, (Nat.mod_eq_of_lt hindex).symm⟩
  | cons s ss ih =>
    have hfirst : (m.store s).memory =
        m.memory.writeBlock m.registers.index.toNat s.bytes := rfl
    have hbehind : (m.store s).registers.index.toNat =
        (m.registers.index.toNat + (s.x.val + 1)) % 65536 :=
      ((m.holding s.v).toNat_index_afterBlock s.x).trans (indexBehind_of_moves h _)
    have hlength := s.length_bytes
    obtain ⟨hmemory, hindex⟩ := ih (m := m.store s) h
    rw [List.flatMap_cons, Memory.writeBlock_append, List.length_append]
    constructor
    · -- the index register may have wrapped, but it names the same cell as without that
      show ((m.store s).storeAll ss).memory = _
      rw [hmemory, hfirst]
      exact Memory.writeBlock_congr _ (by omega) _
    · show ((m.store s).storeAll ss).registers.index.toNat = _
      rw [hindex]
      omega

/-- Loads in a row find the blocks that stand one behind the other, and move the index register
behind them. -/
theorem blocksRead_eq (h : m.dialect.memory = true) {ss : List Store}
    (hread : m.memory.readBlock m.registers.index.toNat (ss.flatMap Store.bytes).length =
      ss.flatMap Store.bytes) :
    m.blocksRead (ss.map Store.x) = ss.map Store.bytes ∧
      (m.loadAll (ss.map Store.x)).registers.index.toNat =
        (m.registers.index.toNat + (ss.flatMap Store.bytes).length) % 65536 := by
  induction ss generalizing m with
  | nil =>
    have hindex := m.registers.index.toNat_lt
    exact ⟨rfl, (Nat.mod_eq_of_lt hindex).symm⟩
  | cons s ss ih =>
    have hlength := s.length_bytes
    have hbehind : (m.loadRegs s.x).registers.index.toNat =
        (m.registers.index.toNat + (s.x.val + 1)) % 65536 :=
      (m.toNat_index_loadRegs s.x).trans (indexBehind_of_moves h _)
    rw [List.flatMap_cons, List.length_append, Memory.readBlock_add] at hread
    obtain ⟨hhead, htail⟩ := List.append_inj hread (by simp)
    have hrest : (m.loadRegs s.x).memory.readBlock (m.loadRegs s.x).registers.index.toNat
        (ss.flatMap Store.bytes).length = ss.flatMap Store.bytes := by
      rw [memory_loadRegs]
      refine (Memory.readBlock_congr _ ?_ _).trans htail
      omega
    obtain ⟨hblocks, hindex⟩ := ih (m := m.loadRegs s.x) (by rw [dialect_loadRegs, h]) hrest
    constructor
    · rw [List.map_cons, List.map_cons, blocksRead, hblocks, block_loadRegs, ← hlength, hhead]
    · rw [List.map_cons, loadAll_cons, hindex, List.flatMap_cons, List.length_append]
      omega

/-- **A row of stores fills memory**, as long as it does not run around it. -/
theorem filled_storeAll (h : m.dialect.memory = true) {ss : List Store}
    (hfits : (ss.flatMap Store.bytes).length ≤ 4096) : m.Filled ss (m.storeAll ss) := by
  obtain ⟨hmemory, hindex⟩ := memory_storeAll h ss
  have hread : ((m.storeAll ss).pointed m.registers.index).memory.readBlock
      ((m.storeAll ss).pointed m.registers.index).registers.index.toNat
      (ss.flatMap Store.bytes).length = ss.flatMap Store.bytes := by
    rw [memory_pointed, index_pointed, hmemory]
    exact Memory.readBlock_writeBlock _ _ hfits
  obtain ⟨hblocks, hback⟩ := blocksRead_eq (m := (m.storeAll ss).pointed m.registers.index)
    ((congrArg Dialect.memory (dialect_storeAll ss)).trans h) hread
  refine ⟨fun j hj => ?_, fun c hc => ?_, hindex, hblocks, ?_⟩
  · rw [hmemory, read_emod]
    push_cast
    exact Memory.read_writeBlock _ hfits hj
  · rw [hmemory]
    refine Memory.read_writeBlock_of_ne _ fun j hj => ?_
    have := hc j hj
    omega
  · exact UInt16.toNat_inj.1 (hback.trans hindex.symm)

/-! ### Instructions in a row -/

theorem v_storeRegs (x : Reg) : (m.storeRegs x).registers.v = m.registers.v :=
  (congrArg Registers.v (m.afterBlock_eq x) :)

/-- Stores with nothing in between are a row in which the general registers stay as they are. -/
theorem execAll_storeRegs (xs : List Reg) :
    m.execAll (xs.map .storeRegs) = .ok (m.storeAll (xs.map (Store.mk m.registers.v))) := by
  induction xs generalizing m with
  | nil => rfl
  | cons x xs ih =>
    have hrest := ih (m := m.storeRegs x)
    rw [v_storeRegs] at hrest
    exact hrest

theorem execAll_loadRegs (xs : List Reg) :
    m.execAll (xs.map .loadRegs) = .ok (m.loadAll xs) := by
  induction xs generalizing m with
  | nil => rfl
  | cons x xs ih =>
    rw [List.map_cons, loadAll_cons, ← ih]
    exact List.foldlM_cons ..

end

/-- **Registers in memory.** The transfers succeed on every machine, for every register and wherever
the index register points. `FX55` writes `V0` to `VX` to the cells from the index register on, and
`FX65` reads them; what one has done, the other one leaves as it is, once the index register is set
back. `FX33` writes the three digits of `VX`.

In a dialect that moves the index register, stores in a row fill consecutive cells, and loads of the
same widths find what was stored, as long as the memory has room. -/
theorem block_transfer (m : Machine) (x : Reg) :
    (∃ n, (Instr.storeRegs x).exec m = .ok n ∧ m.StoresBlock x n ∧
      ∃ k, (Instr.loadRegs x).exec (n.pointed m.registers.index) = .ok k ∧
        k.registers.v = m.registers.v) ∧
    (∃ n, (Instr.loadRegs x).exec m = .ok n ∧ m.LoadsBlock x n ∧
      ∃ k, (Instr.storeRegs x).exec (n.pointed m.registers.index) = .ok k ∧
        k.memory = m.memory) ∧
    (∃ n, (Instr.decimal x).exec m = .ok n ∧ m.StoresDigits x n) ∧
    (∀ xs : List Reg,
      m.execAll (xs.map .storeRegs) = .ok (m.storeAll (xs.map (Store.mk m.registers.v))) ∧
      m.execAll (xs.map .loadRegs) = .ok (m.loadAll xs)) ∧
    (m.dialect.memory = true → ∀ ss : List Store, (ss.flatMap Store.bytes).length ≤ 4096 →
      m.Filled ss (m.storeAll ss)) ∧
    ∀ w : UInt16,
      (Word.Fits w "FX55" → decode w = .storeRegs (Word.x w)) ∧
      (Word.Fits w "FX65" → decode w = .loadRegs (Word.x w)) ∧
      (Word.Fits w "FX33" → decode w = .decimal (Word.x w)) := by
  refine ⟨⟨_, rfl, m.storesBlock_storeRegs x, _, rfl, m.load_store x⟩,
    ⟨_, rfl, m.loadsBlock_loadRegs x, _, rfl, m.store_load x⟩,
    ⟨_, rfl, m.storesDigits_storeDecimal x⟩,
    fun xs => ⟨execAll_storeRegs xs, execAll_loadRegs xs⟩,
    fun h ss hfits => filled_storeAll h hfits,
    fun w => ⟨fun hw => ?_, fun hw => ?_, fun hw => ?_⟩⟩
  · exact decode_of_fits (k := .storeRegs) hw
  · exact decode_of_fits (k := .loadRegs) hw
  · exact decode_of_fits (k := .decimal) hw

/-- Two stores from the last address of the sixteen bits on, with other values in the second one.
The first byte stands in the last cell of memory. The loads find both blocks. -/
theorem block_transfer_around_the_end :
    let m := { fresh { memory := true } (.constant 0) with
      registers := Registers.fresh.point 0xFFFF }
    let ss : List Store := [⟨.replicate 16 7, 1⟩, ⟨(Vector.replicate 16 0).set 0 9, 0⟩]
    let n := m.storeAll ss
    m.Filled ss n ∧ [0xFFF, 0x000, 0x001].map n.memory.read = [7, 7, 9] ∧
      n.registers.index = 2 ∧ (n.pointed 0xFFFF).blocksRead [1, 0] = [[7, 7], [9]] := by
  intro m ss n
  obtain ⟨-, -, -, -, hrow, -⟩ := block_transfer m 0
  have hfilled : m.Filled ss n := hrow rfl ss (by decide)
  exact ⟨hfilled, by decide +kernel, by decide +kernel, hfilled.back⟩

end Machine

end ChipEight
