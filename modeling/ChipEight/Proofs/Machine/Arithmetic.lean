import ChipEight.Proofs.Machine.Bytes
import ChipEight.Proofs.Machine.Footprint

/-!
# Arithmetic on two registers

The arithmetic operations store a byte and a bit, and these two together are an exact account of the
operands: a sum is the byte and 256 for the carry, a difference is short of the byte by 256 for a
borrow, half of a byte and the bit that falls off it are the byte. So what is lost by calculating
modulo 256 is found in the flag register.

The two registers that an operation names may be the same one, and each of them may be the flag
register. Every operation reads both operands before it writes, and it writes the flag last. What
results from this is told by one equation for each operation, about the values before and after. In
the flag register itself there is room for the flag only.

The bitwise operations keep no account. In some dialects they zero the flag register, and they do so
before they read.

## Main definitions

- `Alu.Balances`: the equation of an arithmetic operation.
- `Registers.SameBut`: no register has changed, except for those of a list.
- `Registers.Accounted`, `Registers.Combined`: what the arithmetic and the bitwise operations leave.

## Main results

- `Alu.balances_unique`: the equation of an operation has a single solution.
- `Machine.arithmetic_exact`: all the operations, on every machine, with any two registers.
-/

namespace ChipEight

/-! ### Equations -/

/-- The operations that store a result and a flag. -/
def Alu.arithmetic : List Alu :=
  [.add, .sub, .subFrom, .shiftRight, .shiftLeft]

/-- The bitwise operations, and what they do to each bit. -/
def Alu.bitwise : List (Alu × (Bool → Bool → Bool)) :=
  [(.or, Bool.or), (.and, Bool.and), (.xor, Bool.xor)]

/-- The equation between the operands `a` in `VX` and `b` in `VY`, the result and the flag. -/
def Alu.Balances (d : Dialect) (a b result flag : Nat) : Alu → Prop
  | .add => 256 * flag + result = a + b
  | .sub => (result : Int) = a - b + 256 * (1 - flag)
  | .subFrom => (result : Int) = b - a + 256 * (1 - flag)
  | .shiftRight => 2 * result + flag = if d.shifting then a else b
  | .shiftLeft => 256 * flag + result = 2 * if d.shifting then a else b
  | .copy | .or | .and | .xor => False

/-- **The equation of an operation has a single solution**, for a byte and a bit. -/
theorem Alu.balances_unique {d : Dialect} {f : Alu} {a b v v' flag flag' : Nat} (hv : v < 256)
    (hv' : v' < 256) (hflag : flag ≤ 1) (hflag' : flag' ≤ 1) (h : f.Balances d a b v flag)
    (h' : f.Balances d a b v' flag') : v = v' ∧ flag = flag' := by
  cases f <;> simp only [Balances] at h h' <;> omega

/-- The bit of a condition. -/
theorem toNat_decide (p : Prop) [Decidable p] : (decide p).toNat = if p then 1 else 0 := by
  by_cases h : p <;> simp [h]

section

variable (a b : UInt8)

theorem carry_balance :
    256 * (decide (256 ≤ a.toNat + b.toNat)).toNat + (a + b).toNat = a.toNat + b.toNat := by
  have ha := a.toNat_lt
  have hb := b.toNat_lt
  have hsum := toNat_byte_add a b
  rw [toNat_decide]
  split <;> omega

theorem borrow_balance :
    ((a - b).toNat : Int) = a.toNat - b.toNat + 256 * (1 - (decide (b ≤ a)).toNat) := by
  have ha := a.toNat_lt
  have hb := b.toNat_lt
  have hdiff := toNat_byte_sub a b
  rw [toNat_decide]
  split
  next h =>
    have hle := UInt8.le_iff_toNat_le.1 h
    omega
  next h =>
    have hlt := UInt8.lt_iff_toNat_lt.1 (UInt8.not_le.1 h)
    omega

theorem half_balance : 2 * (b >>> 1).toNat + (decide (b.toNat % 2 = 1)).toNat = b.toNat := by
  have hhalf := toNat_byte_half b
  rw [toNat_decide]
  split <;> omega

theorem double_balance : 256 * (decide (128 ≤ b.toNat)).toNat + (b <<< 1).toNat = 2 * b.toNat := by
  have hb := b.toNat_lt
  have hdouble := toNat_byte_double b
  rw [toNat_decide]
  split <;> omega

end

/-! ### What is left in the registers -/

/-- From `r` to `t`, no register has changed, except for some of the general ones. -/
structure Registers.SameBut (written : List Reg) (r t : Registers) : Prop where
  general : ∀ z, z ∉ written → t.get z = r.get z
  /-- The program counter, the index register and the stack are what they were. -/
  rest : t = { r with v := t.v }

/-- What an arithmetic operation leaves. -/
structure Registers.Accounted (d : Dialect) (f : Alu) (x y : Reg) (r t : Registers) : Prop where
  flag_le : (t.get flagReg).toNat ≤ 1
  /-- The result and the flag balance the operands. -/
  balance : x ≠ flagReg →
    f.Balances d (r.get x).toNat (r.get y).toNat (t.get x).toNat (t.get flagReg).toNat
  /-- The flag register keeps the flag, and the result is lost. -/
  lost : x = flagReg →
    ∃ result < 256, f.Balances d (r.get x).toNat (r.get y).toNat result (t.get flagReg).toNat
  /-- No other flag balances the operands. -/
  forced : ∀ result flag, result < 256 → flag ≤ 1 →
    f.Balances d (r.get x).toNat (r.get y).toNat result flag → flag = (t.get flagReg).toNat
  same : r.SameBut [x, flagReg] t

/-- An operand of a bitwise operation, as the dialect has it: the flag register may be zeroed. -/
def Registers.operand (d : Dialect) (r : Registers) (z : Reg) : Nat :=
  if d.vfReset = true ∧ z = flagReg then 0 else (r.get z).toNat

/-- What a bitwise operation leaves. -/
structure Registers.Combined (d : Dialect) (g : Bool → Bool → Bool) (x y : Reg)
    (r t : Registers) : Prop where
  bits : ∀ k,
    (t.get x).toNat.testBit k = g ((r.operand d x).testBit k) ((r.operand d y).testBit k)
  flag : x ≠ flagReg → t.get flagReg = if d.vfReset then 0 else r.get flagReg
  same : r.SameBut [x, flagReg] t

namespace Registers

variable (r : Registers) (d : Dialect) (x y : Reg)

theorem sameBut_set (b : UInt8) : r.SameBut [x] (r.set x b) :=
  ⟨fun _ hz => r.get_set_of_ne b (List.ne_of_not_mem_cons hz), rfl⟩

/-! ### Arithmetic operations -/

section

variable (b : UInt8) (c : Bool)

theorem get_flagReg_setWithFlag : ((r.setWithFlag x b c).get flagReg).toNat = c.toNat := by
  rw [setWithFlag, get_set, if_pos rfl]
  cases c <;> rfl

theorem get_self_setWithFlag (h : x ≠ flagReg) : (r.setWithFlag x b c).get x = b := by
  rw [setWithFlag, get_set_of_ne _ _ h, get_set, if_pos rfl]

theorem sameBut_setWithFlag : r.SameBut [x, flagReg] (r.setWithFlag x b c) := by
  refine ⟨fun z hz => ?_, rfl⟩
  obtain ⟨hx, hflag⟩ : z ≠ x ∧ z ≠ flagReg := by simpa using hz
  exact r.get_setWithFlag b c hx hflag

variable {r d x y b c}

/-- A result and a flag that balance the operands are stored. -/
theorem accounted_setWithFlag {f : Alu}
    (h : f.Balances d (r.get x).toNat (r.get y).toNat b.toNat c.toNat) :
    r.Accounted d f x y (r.setWithFlag x b c) := by
  have hflag := r.get_flagReg_setWithFlag x b c
  have hc : c.toNat ≤ 1 := c.toNat_le
  refine ⟨hflag ▸ hc, fun hx => ?_, fun _ => ⟨b.toNat, b.toNat_lt, hflag ▸ h⟩, ?_,
    r.sameBut_setWithFlag x b c⟩
  · rw [hflag, r.get_self_setWithFlag x b c hx]
    exact h
  · intro result flag hresult hle hother
    rw [hflag]
    exact (Alu.balances_unique hresult b.toNat_lt hle hc hother h).2

end

/-- An arithmetic operation stores a result and a flag that balance its operands. -/
theorem operate_arithmetic {f : Alu} (hf : f ∈ Alu.arithmetic) :
    ∃ b c, r.operate d f x y = r.setWithFlag x b c ∧
      f.Balances d (r.get x).toNat (r.get y).toNat b.toNat c.toNat := by
  have hs : (r.shiftSource d x y).toNat =
      if d.shifting then (r.get x).toNat else (r.get y).toNat := by
    rw [shiftSource]
    split <;> rfl
  cases f with
  | copy | or | and | xor => simp [Alu.arithmetic] at hf
  | add => exact ⟨_, _, rfl, carry_balance (r.get x) (r.get y)⟩
  | sub => exact ⟨_, _, rfl, borrow_balance (r.get x) (r.get y)⟩
  | subFrom => exact ⟨_, _, rfl, borrow_balance (r.get y) (r.get x)⟩
  | shiftRight => exact ⟨_, _, rfl, (half_balance (r.shiftSource d x y)).trans hs⟩
  | shiftLeft =>
    exact ⟨_, _, rfl, (double_balance (r.shiftSource d x y)).trans (congrArg (2 * ·) hs)⟩

/-! ### Bitwise operations -/

variable {r d}

/-- The registers as a bitwise operation finds them hold its operands. -/
theorem toNat_get_forBitwise (z : Reg) : ((r.forBitwise d).get z).toNat = r.operand d z := by
  rw [forBitwise, operand]
  cases d.vfReset with
  | false => simp
  | true =>
    by_cases hz : z = flagReg
    · simp [get_set, hz]
    · simp [r.get_set_of_ne 0 hz, hz]

/-- What a bitwise operation stores is what it leaves. -/
theorem combined_set {g : Bool → Bool → Bool} {b : UInt8}
    (h : ∀ k, b.toNat.testBit k = g ((r.operand d x).testBit k) ((r.operand d y).testBit k)) :
    r.Combined d g x y ((r.forBitwise d).set x b) := by
  refine ⟨fun k => ?_, fun hx => ?_, fun z hz => ?_, ?_⟩
  · rw [get_set, if_pos rfl]
    exact h k
  · rw [get_set_of_ne _ _ hx.symm, forBitwise]
    split
    next => exact (r.get_set ..).trans (if_pos rfl)
    next => rfl
  · obtain ⟨hx, hflag⟩ : z ≠ x ∧ z ≠ flagReg := by simpa using hz
    rw [get_set_of_ne _ _ hx]
    exact r.get_forBitwise fun h => hflag h.1
  · rw [forBitwise]
    split <;> rfl

theorem combined_operate {f : Alu} {g : Bool → Bool → Bool} (h : (f, g) ∈ Alu.bitwise) :
    r.Combined d g x y (r.operate d f x y) := by
  have hx := toNat_get_forBitwise (r := r) (d := d) x
  have hy := toNat_get_forBitwise (r := r) (d := d) y
  simp only [Alu.bitwise, List.mem_cons, Prod.mk.injEq, List.not_mem_nil, or_false] at h
  obtain ⟨rfl, rfl⟩ | ⟨rfl, rfl⟩ | ⟨rfl, rfl⟩ := h
  · exact combined_set x y fun k => by rw [UInt8.toNat_or, Nat.testBit_or, hx, hy]
  · exact combined_set x y fun k => by rw [UInt8.toNat_and, Nat.testBit_and, hx, hy]
  · exact combined_set x y fun k => by rw [UInt8.toNat_xor, Nat.testBit_xor, hx, hy]

end Registers

/-! ### Machines -/

/-- **Two-register arithmetic is exact**, whichever registers are named, the same one twice and the
flag register among them. The instructions succeed on every machine and in every dialect, and they
change only registers. A sum, a difference or a shift leaves a byte and a bit that balance its
operands; the bit is what stays in the flag register. The bitwise operations see the flag register
zeroed in the dialects that reset it. A copy and the addition of a constant leave the flag register
alone, unless it is the one they are made for. -/
theorem Machine.arithmetic_exact (m : Machine) (x y : Reg) :
    (∀ f ∈ Alu.arithmetic, ∃ t, (Instr.alu f x y).exec m = .ok { m with registers := t } ∧
      m.registers.Accounted m.dialect f x y t) ∧
    (∀ p ∈ Alu.bitwise, ∃ t, (Instr.alu p.1 x y).exec m = .ok { m with registers := t } ∧
      m.registers.Combined m.dialect p.2 x y t) ∧
    (∃ t, (Instr.alu .copy x y).exec m = .ok { m with registers := t } ∧
      t.get x = m.registers.get y ∧ m.registers.SameBut [x] t) ∧
    (∀ b : UInt8, ∃ t, (Instr.addImm x b).exec m = .ok { m with registers := t } ∧
      (t.get x).toNat = ((m.registers.get x).toNat + b.toNat) % 256 ∧
      m.registers.SameBut [x] t) ∧
    ∀ w : UInt16,
      (∀ f, Word.Fits w (Op.alu f).pattern → decode w = .alu f (Word.x w) (Word.y w)) ∧
      (Word.Fits w Op.addImm.pattern → decode w = .addImm (Word.x w) (Word.nn w)) := by
  refine ⟨fun f hf => ?_, fun p hp => ?_, ?_, fun b => ?_, fun w => ?_⟩
  · obtain ⟨b, c, hstore, hbalance⟩ := m.registers.operate_arithmetic m.dialect x y hf
    refine ⟨_, rfl, ?_⟩
    show m.registers.Accounted m.dialect f x y (m.registers.operate m.dialect f x y)
    rw [hstore]
    exact Registers.accounted_setWithFlag hbalance
  · exact ⟨_, rfl, Registers.combined_operate x y hp⟩
  · refine ⟨_, rfl, ?_, m.registers.sameBut_set x _⟩
    exact (m.registers.get_set ..).trans (if_pos rfl)
  · refine ⟨_, rfl, ?_, m.registers.sameBut_set x _⟩
    rw [Registers.get_set, if_pos rfl, UInt8.toNat_add]
  · exact ⟨fun f hw => decode_of_fits_alu hw, fun hw => decode_of_fits_addImm hw⟩

/-- The flag register is doubled by adding itself, and keeps the carry of 256. It is then an operand
that the dialect zeroes before it is combined. -/
theorem Machine.arithmetic_exact_on_the_flag :
    let m := { fresh { vfReset := true } (.constant 0) with
      registers := (Registers.fresh.set flagReg 0x80).set 3 0x41 }
    let n := m.onRegisters fun r => r.operate m.dialect .add flagReg flagReg
    (∃ t, (Instr.alu .add flagReg flagReg).exec m = .ok { m with registers := t } ∧
      m.registers.Accounted m.dialect .add flagReg flagReg t ∧ t.get flagReg = 1) ∧
    (∃ t, (Instr.alu .or 3 flagReg).exec n = .ok { n with registers := t } ∧
      n.registers.Combined n.dialect Bool.or 3 flagReg t ∧
      t.get 3 = 0x41 ∧ t.get flagReg = 0) ∧
    decode 0x8FF4 = .alu .add flagReg flagReg ∧ decode 0x83F1 = .alu .or 3 flagReg := by
  intro m n
  obtain ⟨hadd, -, -, -, hword⟩ := arithmetic_exact m flagReg flagReg
  obtain ⟨-, hor, -, -, -⟩ := arithmetic_exact n 3 flagReg
  obtain ⟨t, hexec, hleft⟩ := hadd .add (by decide)
  obtain ⟨u, hexec', hleft'⟩ := hor (.or, Bool.or) (by simp [Alu.bitwise])
  cases hexec
  cases hexec'
  refine ⟨⟨_, rfl, hleft, by decide +kernel⟩, ⟨_, rfl, hleft', ?_, ?_⟩, ?_, ?_⟩
  · decide +kernel
  · decide +kernel
  · exact (hword 0x8FF4).1 .add (by simp [Word.Fits, Op.pattern, Text.hexAlphabet])
  · exact (hword 0x83F1).1 .or (by simp [Word.Fits, Op.pattern, Text.hexAlphabet])

end ChipEight
