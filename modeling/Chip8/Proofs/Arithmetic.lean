import Chip8.Proofs.Footprint

/-!
# Arithmetic on registers

What the operations on two registers compute, as equations between numbers (`Operation.Yields`), and
where result and flag are then found (`Cpu.execute_operation`). The operands may be one register, and
either of them may be the flag register. The flag is set before the result, so in the flag register
the result stands.
-/

namespace Chip8

namespace Operation

/-- The result and the flag that an operation yields on `vx` and `vy`, where `vf` is the flag
before. -/
def Yields (op : Operation) (vx vy vf result flag : Nat) : Prop :=
  match op with
  | copy => result = vy ∧ flag = vf
  | or => result = vx ||| vy ∧ flag = vf
  | and => result = vx &&& vy ∧ flag = vf
  | xor => result = vx ^^^ vy ∧ flag = vf
  | add => 256 * flag + result = vx + vy
  | subtract => (result : Int) = (vx - vy) % 256 ∧ flag ≤ 1 ∧ (flag = 1 ↔ vy < vx)
  | shiftRight => vx = 2 * result + flag ∧ flag ≤ 1
  | subtractFrom => (result : Int) = (vy - vx) % 256 ∧ flag ≤ 1 ∧ (flag = 1 ↔ vx < vy)
  | shiftLeft => 2 * vx = 256 * flag + result

/-- **The equations leave no choice**: only one byte and one flag satisfy them. -/
theorem Yields.unique {op : Operation} {vx vy vf flag other : Nat} {result second : UInt8}
    (one : op.Yields vx vy vf result.toNat flag) (two : op.Yields vx vy vf second.toNat other) :
    result = second ∧ flag = other := by
  have result_lt := result.toNat_lt
  have second_lt := second.toNat_lt
  rw [← UInt8.toNat_inj]
  cases op <;> simp only [Yields] at one two <;> omega

theorem toNat_flagOf (condition : Bool) : (flagOf condition).toNat = condition.toNat := by
  cases condition <;> rfl

/-- A difference of bytes, and the flag that compares them. -/
theorem toNat_difference (a b : UInt8) :
    let flag := (flagOf (decide (b < a))).toNat
    ((a - b).toNat : Int) = (a.toNat - b.toNat) % 256 ∧ flag ≤ 1 ∧
      (flag = 1 ↔ b.toNat < a.toNat) := by
  have a_lt := a.toNat_lt
  have b_lt := b.toNat_lt
  refine ⟨?_, ?_, ?_⟩
  · rw [UInt8.toNat_sub]
    omega
  · rw [toNat_flagOf]
    exact Bool.toNat_le _
  · rw [toNat_flagOf, Bool.toNat_eq_one, decide_eq_true_eq, UInt8.lt_iff_toNat_lt]

/-- A byte is twice its upper half and its last bit. -/
theorem toNat_halves (v : UInt8) :
    v.toNat = 2 * (v >>> 1).toNat + (v &&& 1).toNat ∧ (v &&& 1).toNat ≤ 1 := by
  have half : (v >>> 1).toNat = v.toNat / 2 := UInt8.toNat_shiftRight v 1
  have rest : (v &&& 1).toNat = v.toNat % 2 := by
    rw [UInt8.toNat_and]
    exact Nat.and_one_is_mod v.toNat
  omega

/-- Twice a byte is the byte shifted up, with its first bit in front. -/
theorem toNat_double (v : UInt8) : 2 * v.toNat = 256 * (v >>> 7).toNat + (v <<< 1).toNat := by
  have v_lt := v.toNat_lt
  have first : (v >>> 7).toNat = v.toNat / 128 := by
    rw [UInt8.toNat_shiftRight, Nat.shiftRight_eq_div_pow]
    rfl
  have shifted : (v <<< 1).toNat = v.toNat * 2 % 256 := by
    rw [UInt8.toNat_shiftLeft, Nat.shiftLeft_eq]
    rfl
  omega

/-- **The operations on bytes satisfy the equations.** -/
theorem yields_apply (op : Operation) (vx vy vf : UInt8) :
    op.Yields vx.toNat vy.toNat vf.toNat (op.apply vx vy vf).1.toNat
      (op.apply vx vy vf).2.toNat := by
  cases op with
  | copy => exact ⟨rfl, rfl⟩
  | or => exact ⟨UInt8.toNat_or vx vy, rfl⟩
  | and => exact ⟨UInt8.toNat_and vx vy, rfl⟩
  | xor => exact ⟨UInt8.toNat_xor vx vy, rfl⟩
  | add =>
    have vx_lt := vx.toNat_lt
    have vy_lt := vy.toNat_lt
    simp only [Yields, apply, toNat_flagOf, UInt8.toNat_add]
    by_cases carries : 255 < vx.toNat + vy.toNat
    · rw [decide_eq_true carries, Bool.toNat_true]
      omega
    · rw [decide_eq_false carries, Bool.toNat_false]
      omega
  | subtract => exact toNat_difference vx vy
  | shiftRight => exact toNat_halves vx
  | subtractFrom => exact toNat_difference vy vx
  | shiftLeft => exact toNat_double vx

end Operation

namespace Cpu

/-- The number in a register. -/
def valueOf (s : Cpu) (i : Register) : Nat := (s.registers.get i).toNat

/-- An operation leaves its result in the first register. The flag is set before the result, so it is
found if the first register is not the flag register. -/
theorem yields_effect_operate (bus : UInt8) (s : Cpu) (op : Operation) (x y : Register) :
    let t := (Instruction.operate op x y).effect bus s
    ∃ flag, op.Yields (s.valueOf x) (s.valueOf y) (s.valueOf 15) (t.valueOf x) flag ∧
      (x ≠ 15 → t.valueOf 15 = flag) := by
  intro t
  have computed := op.yields_apply (s.registers.get x) (s.registers.get y) (s.registers.get 15)
  generalize applied :
    op.apply (s.registers.get x) (s.registers.get y) (s.registers.get 15) = outcome at computed
  have written : t = (s.setRegister 15 outcome.2).setRegister x outcome.1 := by
    rw [← applied]
    rfl
  have result : t.valueOf x = outcome.1.toNat := by
    rw [written]
    exact congrArg UInt8.toNat (Vector.getElem_set_self ..)
  refine ⟨outcome.2.toNat, ?_, fun other => ?_⟩
  · rw [result]
    exact computed
  · rw [written, valueOf, Instruction.registers_setRegister _ other.symm]
    exact congrArg UInt8.toNat (Vector.getElem_set_self ..)

theorem notMem_footprint_operate {s : Cpu} {op : Operation} {x y : Register} {place : Place}
    (no_result : place ≠ .register x) (no_flag : place ≠ .register 15) :
    place ∉ (Instruction.operate op x y).footprint s := by
  rw [Instruction.footprint]
  split
  · exact no_result
  · exact not_or.mpr ⟨no_result, no_flag⟩

/-- **What an operation on registers does**, whichever registers they are. Result and flag satisfy the
equation of the operation; in the flag register the result stands in place of the flag. All else stays
as it was. A selector without an operation leaves the whole state as it was, unless the mode is
strict. -/
theorem execute_operation (s : Cpu) (x y : Register) :
    let word (n : Fin 16) : Int := (0x8000 + 0x100 * x.val + 0x10 * y.val + n.val : Nat)
    (∀ op : Operation,
      let t := s.execute (word op.nibble)
      let yields := op.Yields (s.valueOf x) (s.valueOf y) (s.valueOf 15) (t.valueOf x)
      (x ≠ 15 → yields (t.valueOf 15)) ∧
      (x = 15 → ∃ flag, yields flag) ∧
      ∀ place : Place, place ≠ .register x → place ≠ .register 15 → t.SameAt s place) ∧
    ∀ n : Fin 16, (8 ≤ n.val ∧ n.val ≤ 13) ∨ n.val = 15 → s.strict = false →
      s.execute (word n) = s := by
  intro word
  constructor
  · intro op t yields
    have performed : t = (Instruction.operate op x y).effect Memory.openBus s :=
      (execute_of_ofWord? (Instruction.ofWord?_operate op x y) rfl).2
    obtain ⟨flag, computed, found⟩ := yields_effect_operate Memory.openBus s op x y
    rw [← performed] at computed found
    refine ⟨?_, fun _ => ⟨flag, computed⟩, ?_⟩
    · intro other
      rw [found other]
      exact computed
    · intro place no_result no_flag
      rw [performed]
      exact Instruction.sameAt_effect place (notMem_footprint_operate no_result no_flag)
  · intro n unassigned lenient
    obtain ⟨group, _, _, digit⟩ := Instruction.ofWord_digits 8 x y n
    have same_n : (Fields.ofWord (word n)).n = n := digit
    have undefined : (Fields.ofWord (word n)).Undefined := by
      refine .inr (.inl ⟨group, ?_⟩)
      rw [same_n, ← Instruction.ofNibble?_eq_none_iff_mem, Operation.ofNibble?_eq_none_iff]
      exact unassigned
    exact execute_of_ofWord?_eq_none (Instruction.ofFields?_eq_none_iff.mpr undefined) lenient

/-- The flag register as the second operand, then as both, then with a selector that has no
operation. -/
theorem execute_operation_on_flag_register :
    let s : Cpu :=
      { create ⟨0, 0⟩ Font.standard false with
        registers := #v[100, 0, 0, 0, 0, 0, 0, 0, 0, 0, 0, 0, 0, 0, 0, 200] }
    ((0 : Register) ≠ 15 ∧ (s.execute 0x80F4).valueOf 0 = 44 ∧
      (s.execute 0x80F4).valueOf 15 = 1) ∧
    (s.execute 0x8FF4).valueOf 15 = 144 ∧ s.strict = false ∧ s.execute 0x8FFB = s := by
  intro s
  obtain ⟨first, _⟩ := execute_operation s 0 15
  obtain ⟨both, unassigned⟩ := execute_operation s 15 15
  have carried : 256 * (s.execute 0x80F4).valueOf 15 + (s.execute 0x80F4).valueOf 0 = 100 + 200 :=
    (first .add).1 (by decide)
  obtain ⟨flag, lost⟩ : ∃ flag, 256 * flag + (s.execute 0x8FF4).valueOf 15 = 200 + 200 :=
    (both .add).2.1 rfl
  have result_lt : (s.execute 0x80F4).valueOf 0 < 256 := UInt8.toNat_lt _
  have left_lt : (s.execute 0x8FF4).valueOf 15 < 256 := UInt8.toNat_lt _
  have kept : s.execute 0x8FFB = s := unassigned 11 (.inl ⟨by decide, by decide⟩) rfl
  exact ⟨⟨by decide, by omega, by omega⟩, by omega, rfl, kept⟩

end Cpu

end Chip8
