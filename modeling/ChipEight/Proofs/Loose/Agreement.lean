import ChipEight.Proofs.Loose.Picture
import ChipEight.Proofs.Machine.KeyWait

/-!
# The loose machine agrees

Each instruction does to the loose counterpart of a machine what it does to the machine. So the
loose machine stops only where the machine fails, with the same fault, and never in an array: what
the instructions store without a mask is a byte already.

## Main results

- `Loose.does_operate`: the two-register operations agree.
- `Loose.does_awaitKey`, `Loose.does_loadRegs`: waiting for a key and reading a block agree.
- `Loose.does_exec_ok`, `Loose.does_exec_error`: each instruction agrees.
- `Loose.does_cycle`: so does each cycle.
-/

namespace ChipEight

namespace Loose

variable {m n : Machine}

/-! ### Two-register operations -/

theorem does_resetFlag (m : Machine) :
    resetFlag.Does m (.ok ()) (m.onRegisters fun r => r.forBitwise m.dialect) := by
  refine (does_see _ m).bind ?_
  show Op.Does (if m.dialect.vfReset = true then _ else _) m _ _
  simp only [Registers.forBitwise]
  cases m.dialect.vfReset with
  | true => exact does_setReg m flagReg (u := 0) rfl
  | false => exact does_pure () m

theorem does_bitwise (m : Machine) {f : Int → Int → Int} {g : UInt8 → UInt8 → UInt8}
    (h : ∀ a b : UInt8, f a.toNat b.toNat = (g a b).toNat) (x y : Reg) :
    (bitwise f x.val y.val).Does m (.ok ()) (m.onRegisters fun r =>
      let s := r.forBitwise m.dialect
      s.set x (g (s.get x) (s.get y))) := by
  refine (does_resetFlag m).bind ((does_reg _ x).bind ((does_reg _ y).bind ?_))
  exact does_setReg _ x (h _ _)

/-- A result and then a flag. -/
theorem does_setWithFlag (m : Machine) (x : Reg) {b flag : Int} {u : UInt8} {c : Bool}
    (hb : b = u.toNat) (hc : flag = if c then 1 else 0) :
    Op.Does (do setReg x.val b; setReg 15 flag) m (.ok ())
      (m.onRegisters fun r => r.setWithFlag x u c) := by
  refine (does_setReg m x hb).bind (does_setReg _ flagReg (u := if c then 1 else 0) ?_)
  rw [hc]
  cases c <;> rfl

theorem does_copySource (m : Machine) (x y : Reg) :
    (copySource x.val y.val).Does m (.ok ())
      (m.onRegisters fun r => r.set x (r.shiftSource m.dialect x y)) := by
  refine (does_see _ m).bind ?_
  show Op.Does (if (!m.dialect.shifting) = true then _ else _) m _ _
  simp only [Registers.shiftSource]
  cases m.dialect.shifting with
  | true =>
    have hm : m.onRegisters (fun r => r.set x (r.get x)) = m := by
      rw [Machine.onRegisters, Registers.set_get_self]
    show Op.Does (pure ()) m (.ok ()) (m.onRegisters fun r => r.set x (r.get x))
    rw [hm]
    exact does_pure () m
  | false => exact (does_reg m y).bind (does_setReg m x rfl)

/-- A shift begins with the byte that it moves in `VX`. -/
theorem does_shiftSource (m : Machine) (x y : Reg) :
    (shiftSource x.val y.val).Does m (.ok (m.registers.shiftSource m.dialect x y).toNat)
      (m.onRegisters fun r => r.set x (r.shiftSource m.dialect x y)) := by
  have hget : (m.registers.set x (m.registers.shiftSource m.dialect x y)).get x =
      m.registers.shiftSource m.dialect x y := by
    rw [Registers.get_set, if_pos rfl]
  refine (does_copySource m x y).bind ?_
  have hreg := does_reg (m.onRegisters fun r => r.set x (r.shiftSource m.dialect x y)) x
  rwa [show Registers.get (Machine.registers _) x = _ from hget] at hreg

/-- What is in the destination before a result is stored there does not matter. -/
theorem setWithFlag_set (r : Registers) (x : Reg) (b u : UInt8) (c : Bool) :
    (r.set x b).setWithFlag x u c = r.setWithFlag x u c := by
  simp only [Registers.setWithFlag, Registers.set, Vector.set_set]

/-- A shift stores a result and then the bit that falls off. -/
theorem does_shift (m : Machine) (x y : Reg) {f g : Int → Int} {u : UInt8} {c : Bool}
    (hf : f (m.registers.shiftSource m.dialect x y).toNat = u.toNat)
    (hg : g (m.registers.shiftSource m.dialect x y).toNat = if c then 1 else 0) :
    Op.Does (do
        let b ← shiftSource x.val y.val
        setReg x.val (f b)
        setReg 15 (g b)) m (.ok ()) (m.onRegisters fun r => r.setWithFlag x u c) := by
  have hm : m.onRegisters (fun r => r.setWithFlag x u c) =
      (m.onRegisters fun r => r.set x (r.shiftSource m.dialect x y)).onRegisters
        fun r => r.setWithFlag x u c := by
    simp only [Machine.onRegisters, setWithFlag_set]
  rw [hm]
  exact (does_shiftSource m x y).bind (does_setWithFlag _ x hf hg)

/-- The two-register operations store bytes only. -/
theorem does_operate (m : Machine) (f : Alu) (x y : Reg) :
    (operate f x.val y.val).Does m (.ok ())
      (m.onRegisters fun r => r.operate m.dialect f x y) := by
  have hx := does_reg m x
  have hy := does_reg m y
  have hlow := (m.registers.shiftSource m.dialect x y).toNat_lt
  cases f with
  | copy => exact hy.bind (does_setReg m x rfl)
  | or => exact does_bitwise m toNat_byte_or x y
  | and => exact does_bitwise m toNat_byte_and x y
  | xor => exact does_bitwise m toNat_byte_xor x y
  | add =>
    refine hx.bind (hy.bind (does_setWithFlag m x (toNat_byte_add _ _) ?_))
    simp only [decide_eq_true_eq]
    split <;> split <;> omega
  | sub =>
    refine hx.bind (hy.bind (does_setWithFlag m x (toNat_byte_sub _ _) ?_))
    simp only [decide_eq_true_eq, UInt8.le_iff_toNat_le, Int.ofNat_le]
  | subFrom =>
    refine hx.bind (hy.bind (does_setWithFlag m x (toNat_byte_sub _ _) ?_))
    simp only [decide_eq_true_eq, UInt8.le_iff_toNat_le, Int.ofNat_le]
  | shiftRight =>
    refine does_shift m x y (f := fun b => b / 2) (g := fun b => b % 2) (toNat_byte_half _) ?_
    simp only [decide_eq_true_eq]
    split <;> omega
  | shiftLeft =>
    refine does_shift m x y (f := fun b => b * 2 % 256) (g := fun b => b / 128)
      (toNat_byte_double _) ?_
    simp only [decide_eq_true_eq]
    split <;> omega

end Loose

/-! ### Keys by code -/

theorem KeySet.mem_codes {s : KeySet} {code : Int} :
    code ∈ s.codes ↔ ∃ k : Key, s.contains k = true ∧ (k.val : Int) = code := by
  simp only [codes, List.mem_toFinset, List.mem_map, mem_toList]

theorem Keypad.isPressed_eq (p : Keypad) (code : Int) :
    p.isPressed code = decide (code ∈ p.live.codes) := by
  rw [isPressed, Key.ofInt]
  split
  next k hk =>
    split at hk
    next hcode =>
      cases hk
      rw [Bool.eq_iff_iff, decide_eq_true_iff, KeySet.mem_codes]
      constructor
      · intro hlive
        exact ⟨_, hlive, by simp only; omega⟩
      · rintro ⟨j, hj, hval⟩
        have hjk : j = ⟨code.toNat, by omega⟩ := Fin.ext (by simp only; omega)
        rw [← hjk]
        exact hj
    next => cases hk
  next e he =>
    split at he
    next => cases he
    next hcode =>
      symm
      rw [decide_eq_false_iff_not, KeySet.mem_codes]
      rintro ⟨k, -, hval⟩
      have hk := k.isLt
      omega

/-- The codes that are in one set of keys and not in another. -/
theorem KeySet.mem_codes_sdiff {s t : KeySet} {code : Int} :
    code ∈ s.codes \ t.codes ↔ ∃ k : Key, s.LetGo t k ∧ (k.val : Int) = code := by
  simp only [Finset.mem_sdiff, mem_codes, LetGo]
  constructor
  · rintro ⟨⟨k, hs, rfl⟩, ht⟩
    refine ⟨k, ⟨hs, ?_⟩, rfl⟩
    rw [Bool.eq_false_iff]
    exact fun hk => ht ⟨k, hk, rfl⟩
  · rintro ⟨k, ⟨hs, ht⟩, rfl⟩
    refine ⟨⟨k, hs, rfl⟩, ?_⟩
    rintro ⟨j, hj, hval⟩
    have hjk : j = k := Fin.ext (by omega)
    rw [hjk, ht] at hj
    cases hj

namespace Loose

variable {m n : Machine}

/-! ### Keys -/

/-- The least code that was let go is that of the key that counts as released. -/
theorem does_awaitKey (m : Machine) (x : Reg) :
    (awaitKey x.val).Does m (.ok ()) (m.awaitKey x) := by
  refine (does_see _ m).bind ?_
  show Op.Does (if h : (m.keypad.last.codes \ m.keypad.live.codes).Nonempty then _ else _) m _ _
  rw [Machine.awaitKey]
  cases hr : m.keypad.released? with
  | none =>
    have hempty : ¬ (m.keypad.last.codes \ m.keypad.live.codes).Nonempty := by
      rintro ⟨code, hcode⟩
      obtain ⟨k, hk, -⟩ := KeySet.mem_codes_sdiff.1 hcode
      exact Keypad.released?_eq_none_iff.1 hr k hk
    rw [dif_neg hempty]
    refine (does_see pc m).bind (does_setPc m (u := m.registers.pc - 2) ?_)
    have hpc := m.registers.pc.toNat_lt
    show ((m.registers.pc.toNat : Int) - 2) % 65536 = _
    rw [UInt16.toNat_sub]
    show _ = (((2 ^ 16 - 2 + m.registers.pc.toNat) % 2 ^ 16 : Nat) : Int)
    omega
  | some k =>
    obtain ⟨hgo, hleast⟩ := Keypad.released?_eq_some_iff.1 hr
    have hmem : (k.val : Int) ∈ m.keypad.last.codes \ m.keypad.live.codes :=
      KeySet.mem_codes_sdiff.2 ⟨k, hgo, rfl⟩
    have hmin : ∀ code ∈ m.keypad.last.codes \ m.keypad.live.codes, (k.val : Int) ≤ code := by
      intro code hcode
      obtain ⟨j, hj, rfl⟩ := KeySet.mem_codes_sdiff.1 hcode
      have hkj : k.val ≤ j.val := hleast j hj
      omega
    have hk : (m.keypad.last.codes \ m.keypad.live.codes).min' ⟨_, hmem⟩ = (k.val : Int) :=
      (Finset.min'_eq_iff _ _ _).2 ⟨hmem, hmin⟩
    have hbyte : (k.val : Int) = (UInt8.ofNat k.val).toNat := by
      have hlt := k.isLt
      rw [UInt8.toNat_ofNat']
      omega
    rw [dif_pos ⟨_, hmem⟩]
    exact does_setReg m x (hk.trans hbyte)

/-! ### Blocks of registers -/

theorem word_ofNat (k : Nat) : (k : Int) % 65536 = (UInt16.ofNat k).toNat := by
  rw [UInt16.toNat_ofNat']
  omega

theorem word_add (a b : UInt16) : ((a.toNat : Int) + b.toNat) % 65536 = (a + b).toNat := by
  rw [UInt16.toNat_add]
  omega

theorem does_passBlock (m : Machine) (x : Reg) :
    (passBlock (x.val + 1)).Does m (.ok ()) { m with registers := m.afterBlock x } := by
  refine (does_see _ m).bind ?_
  show Op.Does (if m.dialect.memory = true then _ else _) m _ _
  rw [Machine.afterBlock]
  cases m.dialect.memory with
  | false => exact does_pure () m
  | true =>
    refine (does_see index m).bind (does_setIndex m ?_)
    have hx := x.isLt
    rw [← word_add, UInt16.toNat_ofNat', Nat.mod_eq_of_lt (by omega)]
    rfl

theorem does_storeRegs (m : Machine) (x : Reg) :
    (exec (.storeRegs x)).Does m (.ok ()) (m.storeRegs x) := by
  have hblock : m.loose.v.take (x.val + 1) =
      looseBytes (m.registers.v.toList.take (x.val + 1)) := by
    rw [looseBytes, List.map_take]
    rfl
  have hwrite := does_writeBlock m m.registers.index.toNat (m.loose.v.take (x.val + 1))
  rw [hblock, poke_looseBytes] at hwrite
  refine (does_see index m).bind ((does_see _ m).bind ?_)
  show Op.Does (do writeBlock m.registers.index.toNat (m.loose.v.take (x.val + 1)); _) m _ _
  rw [hblock]
  exact hwrite.bind (does_passBlock _ x)

/-- A block that is as long as the part that it replaces leaves sixteen registers. -/
theorem looseBytes_splice (m : Machine) (x : Reg) :
    looseBytes (m.memory.readBlock m.registers.index.toNat (x.val + 1 : Nat)) ++
        (looseBytes m.registers.v.toList).drop (x.val + 1) =
      looseBytes (m.loadRegs x).registers.v.toList := by
  have hx := x.isLt
  apply List.ext_getElem
  · simp only [looseBytes, List.length_append, List.length_map, List.length_drop,
      Memory.length_readBlock, Vector.length_toList, Int.toNat_natCast]
    omega
  intro k hk hk'
  simp only [looseBytes, List.length_map, Vector.length_toList] at hk'
  simp only [looseBytes, Memory.readBlock, Machine.loadRegs, Registers.get, List.getElem_append,
    List.getElem_map, List.getElem_drop, List.getElem_range, List.length_map, List.length_range,
    Vector.getElem_toList, Vector.getElem_ofFn, Int.toNat_natCast, Fin.getElem_fin]
  by_cases hkx : k < x.val + 1
  · rw [dif_pos hkx, if_pos (Fin.le_def.2 (by simp only; omega))]
  · have hle : ¬ ((⟨k, hk'⟩ : Reg) ≤ x) := by
      rw [Fin.le_def]
      simp only
      omega
    rw [dif_neg hkx, if_neg hle]
    congr 3
    omega

theorem does_splice (m : Machine) (x : Reg) :
    (splice (x.val + 1)
        (looseBytes (m.memory.readBlock m.registers.index.toNat (x.val + 1 : Nat)))).Does m (.ok ())
      { m with registers := { m.registers with v := (m.loadRegs x).registers.v } } := by
  have hbytes : ∀ us : List UInt8, ∀ b ∈ looseBytes us, 0 ≤ b ∧ b < 256 := by
    intro us b hb
    obtain ⟨u, -, rfl⟩ := List.mem_map.1 hb
    have hu := u.toNat_lt
    omega
  have hloose : { m.loose with
      v := looseBytes (m.memory.readBlock m.registers.index.toNat (x.val + 1 : Nat)) ++
        (looseBytes m.registers.v.toList).drop (x.val + 1) } =
      Machine.loose
        { m with registers := { m.registers with v := (m.loadRegs x).registers.v } } := by
    rw [looseBytes_splice]
    rfl
  rw [splice, if_pos (hbytes _)]
  exact congrArg (Prod.mk (Except.ok ())) hloose

theorem does_loadRegs (m : Machine) (x : Reg) :
    (exec (.loadRegs x)).Does m (.ok ()) (m.loadRegs x) := by
  have hpass := does_passBlock
    { m with registers := { m.registers with v := (m.loadRegs x).registers.v } } x
  have hregisters : Machine.afterBlock
      { m with registers := { m.registers with v := (m.loadRegs x).registers.v } } x =
      (m.loadRegs x).registers := by
    simp only [Machine.loadRegs, Machine.afterBlock, Registers.point]
    split <;> rfl
  rw [hregisters] at hpass
  exact (does_see index m).bind ((does_readBlock m _ _).bind ((does_splice m x).bind hpass))

/-! ### Instructions -/

theorem does_pop_some {a : UInt16} {r : Registers} (h : m.registers.pop? = some (a, r)) :
    pop.Does m (.ok a.toNat) { m with registers := r } := by
  rw [Registers.pop?] at h
  cases hs : m.registers.stack with
  | nil =>
    rw [hs] at h
    cases h
  | cons b rest =>
    rw [hs] at h
    cases h
    have hstack : m.loose.stack = (a.toNat : Int) :: rest.map fun a => (a.toNat : Int) := by
      show m.registers.stack.map _ = _
      rw [hs]
      rfl
    simp only [Op.Does, pop, hstack]
    rfl

theorem does_pop_none (h : m.registers.pop? = none) :
    pop.Does m (.error (.fault (.stackUnderflow m.registers.pc.toNat))) m := by
  rw [Registers.pop?] at h
  cases hs : m.registers.stack with
  | nil =>
    have hstack : m.loose.stack = [] := by
      show m.registers.stack.map _ = _
      rw [hs]
      rfl
    simp only [Op.Does, pop, hstack]
    rfl
  | cons b rest =>
    rw [hs] at h
    cases h

theorem does_draw_ok {b : UInt8} {source : RandomSource} (h : m.source.next = (.ok b, source)) :
    draw.Does m (.ok b.toNat) { m with source := source } := by
  have hloose : m.loose.source.next = _ := h
  simp only [Op.Does, draw, hloose]
  rfl

theorem does_draw_error {e : OperandFault} {source : RandomSource}
    (h : m.source.next = (.error e, source)) :
    draw.Does m (.error (.fault (.operand e))) { m with source := source } := by
  have hloose : m.loose.source.next = _ := h
  simp only [Op.Does, draw, hloose]
  rfl

theorem does_jumpOffset (m : Machine) (a : Address) :
    (exec (.jumpOffset a)).Does m (.ok ()) (m.onRegisters fun r =>
      r.goto (UInt16.ofNat a.val + (r.get (m.jumpRegister a)).toUInt16)) := by
  have hx : (if m.dialect.jumping then (a.val : Int) / 256 else 0) = (m.jumpRegister a).val := by
    rw [Machine.jumpRegister]
    cases m.dialect.jumping <;> rfl
  have hword : ((a.val : Int) + (m.registers.get (m.jumpRegister a)).toNat) % 65536 =
      (UInt16.ofNat a.val + (m.registers.get (m.jumpRegister a)).toUInt16).toNat := by
    have ha := a.isLt
    rw [← word_add, UInt16.toNat_ofNat', Nat.mod_eq_of_lt (by omega), UInt8.toNat_toUInt16]
  have hreg := does_reg m (m.jumpRegister a)
  rw [← hx] at hreg
  exact (does_see _ m).bind (hreg.bind (does_setPc m hword))

theorem does_decimal (m : Machine) (x : Reg) :
    (exec (.decimal x)).Does m (.ok ()) (m.storeDecimal (m.registers.get x)) := by
  have hdigits : ∀ b : UInt8, [(b.toNat : Int) / 100, b.toNat / 10 % 10, b.toNat % 10] =
      looseBytes [b / 100, b / 10 % 10, b % 10] := by
    intro b
    simp [looseBytes]
  have hwrite := does_writeBlock m m.registers.index.toNat
    [((m.registers.get x).toNat : Int) / 100, (m.registers.get x).toNat / 10 % 10,
      (m.registers.get x).toNat % 10]
  rw [hdigits, poke_looseBytes, ← hdigits] at hwrite
  exact (does_reg m x).bind ((does_see index m).bind hwrite)

/-- A skip over a comparison of numbers is the skip over the comparison of bytes. -/
theorem does_skipIf_of_eq {c d : Bool} (h : c = d) :
    (skipIf c).Does m (.ok ()) (m.onRegisters fun r => r.skipIf d) :=
  h ▸ does_skipIf m c

theorem does_skipBytes (m : Machine) (a b : UInt8) :
    (skipIf ((a.toNat : Int) == b.toNat)).Does m (.ok ())
        (m.onRegisters fun r => r.skipIf (a == b)) ∧
      (skipIf ((a.toNat : Int) != b.toNat)).Does m (.ok ())
        (m.onRegisters fun r => r.skipIf (a != b)) :=
  ⟨does_skipIf_of_eq (beq_toNat_byte a b),
    does_skipIf_of_eq (congrArg (fun c => !c) (beq_toNat_byte a b))⟩

/-- An instruction that succeeds does the same to the loose counterpart. -/
theorem does_exec_ok {i : Instr} (h : i.exec m = .ok n) : (exec i).Does m (.ok ()) n := by
  cases i with
  | ret =>
    simp only [Instr.exec, Machine.ret] at h
    split at h
    next a r hpop =>
      cases h
      have ha := a.toNat_lt
      exact (does_pop_some hpop).bind (does_setPc _ (by omega))
    next => cases h
  | random x mask =>
    simp only [Instr.exec, Machine.roll] at h
    split at h
    next b source hdraw =>
      cases h
      exact (does_draw_ok hdraw).bind (does_setReg _ x (toNat_byte_and b mask))
    next => cases h
  | unknown w =>
    cases h
    exact does_pure () m
  | clear =>
    cases h
    exact does_clear m
  | jump a =>
    cases h
    exact does_setPc m (word_ofNat a.val)
  | call a =>
    cases h
    have hpc := m.registers.pc.toNat_lt
    have hpush := does_push m (a := m.registers.pc.toNat) (u := m.registers.pc) (by omega)
    exact (does_see pc m).bind (hpush.bind (does_setPc _ (word_ofNat a.val)))
  | skipEqImm x b =>
    cases h
    exact (does_reg m x).bind (does_skipBytes m (m.registers.get x) b).1
  | skipNeImm x b =>
    cases h
    exact (does_reg m x).bind (does_skipBytes m (m.registers.get x) b).2
  | skipEq x y =>
    cases h
    exact (does_reg m x).bind ((does_reg m y).bind
      (does_skipBytes m (m.registers.get x) (m.registers.get y)).1)
  | skipNe x y =>
    cases h
    exact (does_reg m x).bind ((does_reg m y).bind
      (does_skipBytes m (m.registers.get x) (m.registers.get y)).2)
  | loadImm x b =>
    cases h
    exact does_setReg m x rfl
  | addImm x b =>
    cases h
    exact (does_reg m x).bind (does_setReg m x (toNat_byte_add _ _))
  | alu f x y =>
    cases h
    exact does_operate m f x y
  | loadIndex a =>
    cases h
    exact does_setIndex m (word_ofNat a.val)
  | jumpOffset a =>
    cases h
    exact does_jumpOffset m a
  | draw x y count =>
    cases h
    exact does_drawSprite m x y count.val
  | skipKey x =>
    cases h
    have hkey := (m.keypad.isPressed_eq (m.registers.get x).toNat).symm
    exact (does_reg m x).bind ((does_see _ m).bind (does_skipIf_of_eq hkey))
  | skipNoKey x =>
    cases h
    have hkey := (m.keypad.isPressed_eq (m.registers.get x).toNat).symm
    exact (does_reg m x).bind ((does_see _ m).bind
      (does_skipIf_of_eq (congrArg (fun c => !c) hkey)))
  | readDelay x =>
    cases h
    exact (does_see delay m).bind (does_setReg m x (toNat_byte_ofInt m.timers.delay).symm)
  | awaitKey x =>
    cases h
    exact does_awaitKey m x
  | setDelay x =>
    cases h
    exact (does_reg m x).bind rfl
  | setSound x =>
    cases h
    exact (does_reg m x).bind rfl
  | addIndex x =>
    cases h
    have hword := word_add m.registers.index (m.registers.get x).toUInt16
    rw [UInt8.toNat_toUInt16] at hword
    exact (does_see index m).bind ((does_reg m x).bind (does_setIndex m hword))
  | glyph x =>
    cases h
    exact (does_reg m x).bind (does_setIndex m (word_ofNat _))
  | decimal x =>
    cases h
    exact does_decimal m x
  | storeRegs x =>
    cases h
    exact does_storeRegs m x
  | loadRegs x =>
    cases h
    exact does_loadRegs m x

/-- An instruction that fails stops the loose machine with the same fault. -/
theorem does_exec_error {i : Instr} {f : Fault} (h : i.exec m = .error f) :
    (exec i).Does m (.error (.fault f)) (m.spent i) := by
  cases i with
  | ret =>
    simp only [Instr.exec, Machine.ret] at h
    split at h
    next => cases h
    next hpop =>
      cases h
      exact (does_pop_none hpop).stop _
  | random x mask =>
    simp only [Instr.exec, Machine.roll] at h
    split at h
    next => cases h
    next e source hdraw =>
      cases h
      have hspent : m.spent (.random x mask) = { m with source := source } := by
        rw [Machine.spent, hdraw]
      rw [hspent]
      exact (does_draw_error hdraw).stop _
  | _ => cases h

/-! ### Cycles -/

/-- The two bytes of a word do not overlap. -/
theorem lor_bytes (high low : UInt8) :
    Int.lor ((high.toNat : Int) * 256) low.toNat = (256 * high.toNat + low.toNat : Nat) := by
  have hlow := low.toNat_lt
  have hor : 2 ^ 8 * high.toNat ||| low.toNat = 2 ^ 8 * high.toNat + low.toNat :=
    (Nat.two_pow_add_eq_or_of_lt hlow high.toNat).symm
  have hcomm : (high.toNat : Int) * 256 = ((2 ^ 8 * high.toNat : Nat) : Int) := by
    push_cast
    omega
  rw [hcomm]
  exact congrArg Int.ofNat hor

theorem does_fetch (m : Machine) : fetch.Does m (.ok m.word.toNat) m.fetched := by
  have hpc : ((m.registers.pc.toNat : Int) + 2) % 65536 = (m.registers.pc + 2).toNat :=
    word_add m.registers.pc 2
  have hword : Int.lor (((m.memory.read m.registers.pc.toNat).toNat : Int) * 256)
      (m.memory.read (m.registers.pc.toNat + 1)).toNat = m.word.toNat := by
    have hhigh := (m.memory.read m.registers.pc.toNat).toNat_lt
    have hlow := (m.memory.read (m.registers.pc.toNat + 1)).toNat_lt
    rw [lor_bytes, Machine.word, UInt16.toNat_ofNat', Nat.mod_eq_of_lt (by omega)]
  rw [← hword]
  exact (does_see pc m).bind ((does_readCell m _).bind ((does_readCell m _).bind
    ((does_setPc m hpc).bind (does_pure _ _))))

theorem does_decoded (m : Machine) (w : UInt16) :
    (decoded w.toNat).Does m (.ok (decode w)) m := by
  have hlt := w.toNat_lt
  have hw : decodeInt w.toNat = .ok (decode w) := by
    rw [decodeInt, Word.ofInt, if_pos (by omega), Int.toNat_natCast, UInt16.ofNat_toNat]
    rfl
  rw [decoded, hw]
  exact does_pure _ m

/-- **A cycle agrees.** It comes to the same instruction or the same fault, and leaves the loose
counterpart of the machine that it leaves. -/
theorem does_cycle (m : Machine) :
    cycle.Does m (m.cycle.result.mapError .fault) m.step := by
  have hdecoded := does_decoded m.fetched m.word
  refine (does_fetch m).bind (hdecoded.bind ?_)
  cases h : (decode m.word).exec m.fetched with
  | error f =>
    rw [(Machine.cycle_of_exec_error h).1, (Machine.cycle_of_exec_error h).2]
    exact (does_exec_error h).stop _
  | ok n =>
    rw [(Machine.cycle_of_exec_ok h).1, (Machine.cycle_of_exec_ok h).2]
    have hsettled : Op.Does (do
        snapshot
        change fun s => { s with cycles := s.cycles + 1 }
        return decode m.word) n (.ok (decode m.word)) n.settled := rfl
    exact (does_exec_ok h).bind hsettled

end Loose

end ChipEight
