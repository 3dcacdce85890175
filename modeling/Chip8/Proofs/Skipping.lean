import Chip8.Proofs.Decode
import Chip8.Proofs.Invariant
import Mathlib.Logic.Basic

/-!
# Skips

The instructions that skip ask three questions, each of them both ways: whether a register is a byte,
whether two registers are equal, and whether a register names a key that is down. Of the two words that
ask a question exactly one skips (`Cpu.skips_complementary`). A skip moves the program counter past the
next word and changes nothing else, and a word that does not skip changes nothing at all.
-/

namespace Chip8

namespace Condition

variable {s : Cpu} {c : Condition}

/-- The condition that asks the same question the other way. -/
def complement : Condition → Condition
  | byteIs x nn => byteIsNot x nn
  | byteIsNot x nn => byteIs x nn
  | registersEqual x y => registersDiffer x y
  | registersDiffer x y => registersEqual x y
  | keyDown x => keyUp x
  | keyUp x => keyDown x

/-- The word that skips on a condition. Where two registers are compared its last digit is free. -/
def word (last : Fin 16) : Condition → Nat
  | byteIs x nn => 0x3000 + 0x100 * x.val + nn.toNat
  | byteIsNot x nn => 0x4000 + 0x100 * x.val + nn.toNat
  | registersEqual x y => 0x5000 + 0x100 * x.val + 0x10 * y.val + last.val
  | registersDiffer x y => 0x9000 + 0x100 * x.val + 0x10 * y.val + last.val
  | keyDown x => 0xE000 + 0x100 * x.val + 0x9E
  | keyUp x => 0xE000 + 0x100 * x.val + 0xA1

/-- What a condition asks for. A register above fifteen names no key. -/
def Met (s : Cpu) : Condition → Prop
  | byteIs x nn => s.registers.get x = nn
  | byteIsNot x nn => s.registers.get x ≠ nn
  | registersEqual x y => s.registers.get x = s.registers.get y
  | registersDiffer x y => s.registers.get x ≠ s.registers.get y
  | keyDown x => ∃ key : Key, (s.registers.get x).toNat = key.val ∧ s.keypad.down.get key = true
  | keyUp x => ¬∃ key : Key, (s.registers.get x).toNat = key.val ∧ s.keypad.down.get key = true

theorem met_complement : c.complement.Met s ↔ ¬c.Met s := by
  cases c with
  | byteIs x nn => exact Iff.rfl
  | byteIsNot x nn => exact not_not.symm
  | registersEqual x y => exact Iff.rfl
  | registersDiffer x y => exact not_not.symm
  | keyDown x => exact Iff.rfl
  | keyUp x => exact not_not.symm

end Condition

/-- A byte names a key that is down exactly if it is the number of one. -/
theorem Keypad.isDown_iff {k : Keypad} {byte : UInt8} :
    k.isDown byte = true ↔ ∃ key : Key, byte.toNat = key.val ∧ k.down.get key = true := by
  constructor
  · intro down
    have inside : byte.toNat < 16 := by
      by_contra outside
      rw [isDown_of_ge (Nat.le_of_not_lt outside)] at down
      cases down
    refine ⟨⟨byte.toNat, inside⟩, rfl, ?_⟩
    rw [isDown, Vector.getElem?_eq_getElem inside, Option.getD_some] at down
    exact down
  · rintro ⟨key, named, down⟩
    rw [isDown, named, Vector.getElem?_eq_getElem key.isLt, Option.getD_some]
    exact down

/-- The check of a condition is right. -/
theorem Condition.holds_iff {s : Cpu} {c : Condition} : c.holds s = true ↔ c.Met s := by
  cases c with
  | byteIs x nn => exact beq_iff_eq
  | byteIsNot x nn => exact bne_iff_ne
  | registersEqual x y => exact beq_iff_eq
  | registersDiffer x y => exact bne_iff_ne
  | keyDown x => exact Keypad.isDown_iff
  | keyUp x =>
    rw [holds, Bool.not_eq_true', ← Bool.not_eq_true]
    exact not_congr Keypad.isDown_iff

/-- The word of a condition selects the instruction that skips on it. -/
theorem Instruction.ofWord?_condition (c : Condition) (last : Fin 16) :
    ofWord? (c.word last) = some (skipIf c) := by
  cases c with
  | byteIs x nn =>
    obtain ⟨group, same_x, same_nn⟩ := ofWord_selector 3 x nn
    exact ofFields?_of_encodes group ⟨same_x.symm, same_nn.symm⟩
  | byteIsNot x nn =>
    obtain ⟨group, same_x, same_nn⟩ := ofWord_selector 4 x nn
    exact ofFields?_of_encodes group ⟨same_x.symm, same_nn.symm⟩
  | registersEqual x y =>
    obtain ⟨group, same_x, same_y, -⟩ := ofWord_digits 5 x y last
    exact ofFields?_of_encodes group ⟨same_x.symm, same_y.symm⟩
  | registersDiffer x y =>
    obtain ⟨group, same_x, same_y, -⟩ := ofWord_digits 9 x y last
    exact ofFields?_of_encodes group ⟨same_x.symm, same_y.symm⟩
  | keyDown x =>
    obtain ⟨group, same_x, selector⟩ := ofWord_selector 14 x 0x9E
    exact ofFields?_of_encodes group ⟨selector, same_x.symm⟩
  | keyUp x =>
    obtain ⟨group, same_x, selector⟩ := ofWord_selector 14 x 0xA1
    exact ofFields?_of_encodes group ⟨selector, same_x.symm⟩

namespace Cpu

variable {s : Cpu} {c : Condition} {last : Fin 16}

/-- The processor with the next word passed over, and all else as it was. -/
def skipped (s : Cpu) : Cpu := { s with pc := s.pc + 2 }

/-- A word makes the processor skip. -/
def SkipsBy (s : Cpu) (w : Int) : Prop := s.execute w = s.skipped

theorem toNat_pc_skipped (s : Cpu) : s.skipped.pc.toNat = (s.pc.toNat + 2) % 65536 :=
  UInt16.toNat_add s.pc 2

theorem skipped_ne (s : Cpu) : s.skipped ≠ s := by
  intro same
  have same_pc : s.skipped.pc.toNat = s.pc.toNat := by rw [same]
  have bound : s.pc.toNat < 65536 := s.pc.toNat_lt
  rw [toNat_pc_skipped] at same_pc
  omega

theorem execute_condition :
    s.execute (c.word last) = if c.holds s then s.skipped else s :=
  (execute_of_ofWord? (Instruction.ofWord?_condition c last) rfl).2

theorem execute_of_met (met : c.Met s) : s.execute (c.word last) = s.skipped := by
  rw [execute_condition, if_pos (Condition.holds_iff.mpr met)]

theorem execute_of_not_met (unmet : ¬c.Met s) : s.execute (c.word last) = s := by
  rw [execute_condition, if_neg (mt Condition.holds_iff.mp unmet)]

/-- A word skips exactly if its condition is met. -/
theorem skipsBy_iff : s.SkipsBy (c.word last) ↔ c.Met s := by
  refine ⟨fun skips => ?_, execute_of_met⟩
  by_contra unmet
  exact s.skipped_ne (skips.symm.trans (execute_of_not_met unmet))

/-- A step over a skip changes nothing but the program counter. -/
theorem step_of_condition (inside : s.pc.toNat < Memory.size)
    (fetched : s.nextWord.toNat = c.word last) : s.step = { s with pc := s.step.pc } := by
  have skip : s.step = if c.holds s.fetch.2 then s.fetch.2.skipped else s.fetch.2 := by
    rw [step_of_inside inside, fetched, execute_condition]
  rw [skip]
  split
  · rfl
  · rfl

theorem toNat_pc_step_of_condition (inside : s.pc.toNat < Memory.size)
    (fetched : s.nextWord.toNat = c.word last) :
    (c.Met s → s.step.pc.toNat = s.pc.toNat + 4) ∧
      (¬c.Met s → s.step.pc.toNat = s.pc.toNat + 2) := by
  have selected : Instruction.ofWord? s.nextWord.toNat = some (.skipIf c) := by
    rw [fetched, Instruction.ofWord?_condition]
  have moved := toNat_step_skip inside selected
  -- The program counter is past the word when the condition is asked, which does not look at it.
  have same : c.holds s.fetch.2 = c.holds s := Condition.holds_congr rfl rfl c
  rw [same] at moved
  constructor
  · intro met
    rw [moved, if_pos (Condition.holds_iff.mpr met)]
  · intro unmet
    rw [moved, if_neg (mt Condition.holds_iff.mp unmet)]

/-- **Of the two words that ask a question exactly one skips.** The word of a condition skips exactly if
the condition is met. A skip moves the program counter by two modulo 65536 and changes nothing else; a
word that does not skip changes nothing. Fetched from inside memory, the word leaves the program counter
four behind its own address or two, without a wrap, and all else as it was. -/
theorem skips_complementary (s : Cpu) (c : Condition) (last other : Fin 16) :
    (s.SkipsBy (c.word last) ↔ c.Met s) ∧
    Xor (s.SkipsBy (c.word last)) (s.SkipsBy (c.complement.word other)) ∧
    s.skipped.pc.toNat = (s.pc.toNat + 2) % 65536 ∧
    (¬s.SkipsBy (c.word last) → s.execute (c.word last) = s) ∧
    (s.pc.toNat < 0x1000 → s.nextWord.toNat = c.word last →
      (s.SkipsBy (c.word last) → s.step.pc.toNat = s.pc.toNat + 4) ∧
      (¬s.SkipsBy (c.word last) → s.step.pc.toNat = s.pc.toNat + 2) ∧
      s.step = { s with pc := s.step.pc }) := by
  refine ⟨skipsBy_iff, ?_, s.toNat_pc_skipped, ?_, ?_⟩
  · rw [skipsBy_iff, skipsBy_iff, Condition.met_complement, xor_iff_iff_not, not_not]
  · intro stays
    exact execute_of_not_met (mt skipsBy_iff.mpr stays)
  · intro inside fetched
    obtain ⟨taken, left⟩ := toNat_pc_step_of_condition inside fetched
    rw [skipsBy_iff]
    exact ⟨taken, left, step_of_condition inside fetched⟩

/-- With 19 in a register and key 3 down, the word that asks for a key that is down does not skip. The
one that asks for a key that is up does, from the last two bytes of memory past its end. -/
theorem skips_complementary_beyond_keys :
    let s : Cpu :=
      { create ⟨0, 0⟩ Font.standard false with
        memory := Memory.blank.write 0x0FFE [0xE2, 0xA1], pc := 0x0FFE
        registers := (Vector.replicate 16 0).set 2 19, keypad := Keypad.released.set 3 true }
    let c := Condition.keyUp 2
    ¬s.SkipsBy 0xE29E ∧ s.SkipsBy 0xE2A1 ∧ s.pc.toNat < 0x1000 ∧ s.nextWord.toNat = c.word 0 ∧
      s.step.pc.toNat = 0x1002 ∧ s.step = { s with pc := s.step.pc } := by
  intro s c
  have named : (s.registers.get 2).toNat = 19 := by decide
  have met : c.Met s := by
    rintro ⟨key, same, -⟩
    omega
  have inside : s.pc.toNat < 0x1000 := by decide
  have fetched : s.nextWord.toNat = c.word 0 := by decide +kernel
  obtain ⟨skips_iff, one_skips, -, -, steps⟩ := skips_complementary s c 0 0
  have skips : s.SkipsBy 0xE2A1 := skips_iff.mpr met
  have stays : ¬s.SkipsBy 0xE29E := fun down => (xor_iff_iff_not.mp one_skips).mp skips down
  obtain ⟨taken, -, kept⟩ := steps inside fetched
  exact ⟨stays, skips, inside, fetched, taken skips, kept⟩

end Cpu

end Chip8
