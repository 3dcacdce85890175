import Chip8.Proofs.Atomic
import Mathlib.Data.Set.Insert

/-!
# What a word can write

A processor is a set of places (`Place`), memory byte by byte and registers one by one. What a word
can write is read off its fields, place by place (`Cpu.MayWrite`), and a place that a word cannot
write holds the same before and after it (`Cpu.execute_writes`). Between the two stands the footprint
of an instruction (`Instruction.footprint`): an effect keeps to it, and a word that selects the
instruction can write all of it.
-/

namespace Chip8

/-- A part of a processor that can change while the others stay. -/
inductive Place where
  | byte (address : Fin 4096)
  | register (i : Register)
  | index
  | pc
  | stack
  | delayTimer
  | soundTimer
  | keypad
  | screen
  | waiting
  | keyRegister
  | drawn
  | fault
  | faultWord
  | random
  | strict

namespace Cpu

/-- Two processors hold the same at a place. -/
def SameAt (s t : Cpu) : Place → Prop
  | .byte address => s.memory.bytes.get address = t.memory.bytes.get address
  | .register i => s.registers.get i = t.registers.get i
  | .index => s.index = t.index
  | .pc => s.pc = t.pc
  | .stack => s.stack = t.stack
  | .delayTimer => s.delayTimer = t.delayTimer
  | .soundTimer => s.soundTimer = t.soundTimer
  | .keypad => s.keypad = t.keypad
  | .screen => s.screen = t.screen
  | .waiting => s.waiting = t.waiting
  | .keyRegister => s.keyRegister = t.keyRegister
  | .drawn => s.drawn = t.drawn
  | .fault => s.fault = t.fault
  | .faultWord => s.faultWord = t.faultWord
  | .random => s.random = t.random
  | .strict => s.strict = t.strict

theorem SameAt.refl (s : Cpu) (place : Place) : s.SameAt s place := by
  cases place <;> rfl

/-- The places are all there is of a processor. -/
theorem eq_of_sameAt {s t : Cpu} (same : ∀ place, s.SameAt t place) : s = t := by
  apply Cpu.ext
  case memory =>
    apply Memory.ext
    apply Vector.ext
    intro address inside
    exact same (.byte ⟨address, inside⟩)
  case registers =>
    apply Vector.ext
    intro i inside
    exact same (.register ⟨i, inside⟩)
  case index => exact same .index
  case pc => exact same .pc
  case stack => exact same .stack
  case delayTimer => exact same .delayTimer
  case soundTimer => exact same .soundTimer
  case keypad => exact same .keypad
  case screen => exact same .screen
  case waiting => exact same .waiting
  case keyRegister => exact same .keyRegister
  case drawn => exact same .drawn
  case fault => exact same .fault
  case faultWord => exact same .faultWord
  case random => exact same .random
  case strict => exact same .strict

end Cpu

/-! ## Footprints of instructions -/

/-- Whether an operation hands on the flag that was there. -/
def Operation.keepsFlag : Operation → Bool
  | copy | or | and | xor => true
  | add | subtract | shiftRight | subtractFrom | shiftLeft => false

theorem Operation.apply_snd_of_keepsFlag {op : Operation} (keeps : op.keepsFlag = true)
    (vx vy vf : UInt8) : (op.apply vx vy vf).2 = vf := by
  cases op <;> first | rfl | cases keeps

/-- The bytes of memory between two addresses, the second left out. -/
def bytesBetween (first past : Nat) : Set Place :=
  {place | ∃ address : Fin 4096, place = .byte address ∧ first ≤ address.val ∧ address.val < past}

namespace Instruction

/-- The places that an instruction writes when it is performed. -/
def footprint (s : Cpu) : Instruction → Set Place
  | clearScreen => {.screen, .drawn}
  | ret | call _ => {.stack, .pc}
  | jump _ | jumpFrom _ | skipIf _ => {.pc}
  | setByte x _ | addByte x _ | readDelay x => {.register x}
  | operate op x _ => if op.keepsFlag then {.register x} else {.register x, .register 15}
  | setIndex _ | addIndex _ | glyph _ => {.index}
  | random x _ => {.register x, .random}
  | draw _ _ _ => {.register 15, .screen, .drawn}
  | awaitKey _ => {.waiting, .keyRegister}
  | setDelay _ => {.delayTimer}
  | setSound _ => {.soundTimer}
  | decimal _ => bytesBetween s.index.toNat (s.index.toNat + 3)
  | store x => bytesBetween s.index.toNat (s.index.toNat + x.val + 1)
  | load x => {place | ∃ i ≤ x, place = .register i}

variable {bus : UInt8} {s : Cpu} {i : Instruction}

theorem registers_setRegister (s : Cpu) {x j : Register} (other : j ≠ x) (byte : UInt8) :
    (s.setRegister x byte).registers.get j = s.registers.get j := by
  have apart : x.val ≠ j.val := fun same => other (Fin.ext same.symm)
  exact Vector.getElem_set_ne x.isLt j.isLt apart

/-- Setting a register to what it holds changes nothing. -/
theorem setRegister_self (s : Cpu) (x : Register) : s.setRegister x (s.registers.get x) = s := by
  have same : s.registers.set x (s.registers.get x) = s.registers := Vector.set_getElem_self x.isLt
  rw [Cpu.setRegister, same]

/-- A byte outside a write keeps its value. -/
theorem bytes_write_of_outside (m : Memory) (start : Nat) (bytes : List UInt8)
    {address : Fin 4096} (outside : .byte address ∉ bytesBetween start (start + bytes.length)) :
    (m.write start bytes).bytes.get address = m.bytes.get address := by
  have apart : ¬(start ≤ address.val ∧ address.val < start + bytes.length) :=
    fun inside => outside ⟨address, rfl, inside⟩
  show (m.write start bytes).bytes[address.val] = m.bytes[address.val]
  rw [Memory.getElem_write]
  split
  · rw [List.getElem?_eq_none (by omega), Option.getD_none]
  · rfl

theorem sameAt_effect_byte {address : Fin 4096} (spared : .byte address ∉ i.footprint s) :
    (i.effect bus s).SameAt s (.byte address) := by
  cases i with
  | decimal x => exact bytes_write_of_outside _ _ _ spared
  | store x =>
    have count : (s.registers.toList.take (x.val + 1)).length = x.val + 1 := by
      simp only [List.length_take, Vector.length_toList]
      omega
    show ((store x).effect bus s).memory.bytes.get address = s.memory.bytes.get address
    rw [effect_memory]
    apply bytes_write_of_outside
    rw [count]
    exact spared
  | skipIf c => simp only [effect]; split <;> rfl
  | _ => rfl

theorem sameAt_operate {op : Operation} {x y j : Register}
    (spared : .register j ∉ (operate op x y).footprint s) :
    ((operate op x y).effect bus s).SameAt s (.register j) := by
  cases keeps : op.keepsFlag with
  | true =>
    simp only [footprint, keeps, if_true] at spared
    have other : j ≠ x := fun same => spared (congrArg Place.register same)
    -- The flag register is written with its own value.
    have flag := Operation.apply_snd_of_keepsFlag keeps s.registers[x] s.registers[y]
      (s.registers.get 15)
    have same_flag : s.setRegister 15 (s.registers.get 15) = s := setRegister_self s 15
    simp only [effect, flag, same_flag]
    exact registers_setRegister s other _
  | false =>
    simp only [footprint, keeps, Bool.false_eq_true, if_false] at spared
    have other : j ≠ x := fun same => spared (.inl (congrArg Place.register same))
    have no_flag : j ≠ 15 := fun same => spared (.inr (congrArg Place.register same))
    exact (registers_setRegister _ other _).trans (registers_setRegister s no_flag _)

theorem sameAt_effect_register {j : Register} (spared : .register j ∉ i.footprint s) :
    (i.effect bus s).SameAt s (.register j) := by
  cases i with
  | setByte x | addByte x | readDelay x =>
    have other : j ≠ x := fun same => spared (congrArg Place.register same)
    exact registers_setRegister s other _
  | random x nn =>
    have other : j ≠ x := fun same => spared (.inl (congrArg Place.register same))
    exact registers_setRegister s other _
  | draw x y n =>
    have no_flag : j ≠ 15 := fun same => spared (.inl (congrArg Place.register same))
    exact registers_setRegister s no_flag _
  | operate op x y => exact sameAt_operate spared
  | load x =>
    have beyond : ¬j ≤ x := fun loaded => spared ⟨j, loaded, rfl⟩
    show (Vector.ofFn _)[j.val] = s.registers[j.val]
    rw [Vector.getElem_ofFn]
    exact if_neg beyond
  | skipIf c => simp only [effect]; split <;> rfl
  | _ => simp only [Cpu.SameAt, effect]

/-- **An effect keeps to the footprint of its instruction.** -/
theorem sameAt_effect (place : Place) (spared : place ∉ i.footprint s) :
    (i.effect bus s).SameAt s place := by
  cases place with
  | byte address => exact sameAt_effect_byte spared
  | register j => exact sameAt_effect_register spared
  | _ =>
    -- Any other place is a field of its own, which the effect leaves alone or has in its footprint.
    cases i with
    | skipIf c =>
      simp only [effect]
      split <;> first | exact absurd rfl spared | rfl
    | _ => simp only [Cpu.SameAt, effect, Cpu.setRegister] <;> simp [footprint] at spared

end Instruction

/-! ## Words -/

namespace Fields

/-- The words that skip. -/
def Skips (f : Fields) : Prop :=
  f.group ∈ [3, 4, 5, 9] ∨ (f.group = 14 ∧ f.nn ∈ [0x9E, 0xA1])

/-- What a word can write. The record of a fault is written by a word that fails, and by no other;
the keypad and the mode are written by none. -/
def MayWrite (s : Cpu) (f : Fields) : Place → Prop
  | .byte address =>
    f.group = 15 ∧
      ((f.nn = 0x33 ∧ s.index.toNat ≤ address.val ∧ address.val < s.index.toNat + 3) ∨
        (f.nn = 0x55 ∧ s.index.toNat ≤ address.val ∧ address.val ≤ s.index.toNat + f.x.val))
  | .register i =>
    (f.group ∈ [6, 7, 12] ∧ i = f.x) ∨
      (f.group = 8 ∧ f.n ∈ [0, 1, 2, 3] ∧ i = f.x) ∨
      (f.group = 8 ∧ f.n ∈ [4, 5, 6, 7, 14] ∧ (i = f.x ∨ i = 15)) ∨
      (f.group = 13 ∧ i = 15) ∨
      (f.group = 15 ∧ f.nn = 0x07 ∧ i = f.x) ∨
      (f.group = 15 ∧ f.nn = 0x65 ∧ i ≤ f.x)
  | .index => f.group = 10 ∨ (f.group = 15 ∧ f.nn ∈ [0x1E, 0x29])
  | .pc => f.word = 0x00EE ∨ f.group ∈ [1, 2, 11] ∨ f.Skips
  | .stack => f.word = 0x00EE ∨ f.group = 2
  | .delayTimer => f.group = 15 ∧ f.nn = 0x15
  | .soundTimer => f.group = 15 ∧ f.nn = 0x18
  | .screen | .drawn => f.word = 0x00E0 ∨ f.group = 13
  | .waiting | .keyRegister => f.group = 15 ∧ f.nn = 0x0A
  | .random => f.group = 12
  | .fault | .faultWord => ∃ cause : Cause, cause.Applies s f.word
  | .keypad | .strict => False

end Fields

variable {s : Cpu} {f : Fields} {i : Instruction} {place : Place}

theorem Operation.nibble_mem (op : Operation) :
    op.nibble ∈ if op.keepsFlag then [0, 1, 2, 3] else [4, 5, 6, 7, 14] := by
  cases op <;> decide

/-- **A word can write the footprint of the instruction that it selects.** -/
theorem Fields.mayWrite_of_mem_footprint (selected : Instruction.ofFields? f = some i)
    (mem : place ∈ i.footprint s) : f.MayWrite s place := by
  obtain ⟨group, encodes⟩ := Instruction.ofFields?_eq_some_iff.mp selected
  cases i with
  | operate op x y =>
    obtain ⟨named, rfl, rfl⟩ := encodes
    have nibble := op.nibble_mem
    rw [← named] at nibble
    cases keeps : op.keepsFlag with
    | true =>
      simp only [Instruction.footprint, keeps, if_true] at mem nibble
      rcases mem with rfl
      exact .inr (.inl ⟨group, nibble, rfl⟩)
    | false =>
      simp only [Instruction.footprint, keeps, Bool.false_eq_true, if_false] at mem nibble
      rcases mem with rfl | rfl
      · exact .inr (.inr (.inl ⟨group, nibble, .inl rfl⟩))
      · exact .inr (.inr (.inl ⟨group, nibble, .inr rfl⟩))
  | decimal x =>
    obtain ⟨address, rfl, above, below⟩ := mem
    exact ⟨group, .inl ⟨encodes.1, above, below⟩⟩
  | store x =>
    obtain ⟨address, rfl, above, below⟩ := mem
    obtain ⟨selector, rfl⟩ := encodes
    exact ⟨group, .inr ⟨selector, above, Nat.le_of_lt_succ below⟩⟩
  | load x =>
    obtain ⟨j, loaded, rfl⟩ := mem
    obtain ⟨selector, rfl⟩ := encodes
    exact .inr (.inr (.inr (.inr (.inr ⟨group, selector, loaded⟩))))
  | skipIf c =>
    rcases mem with rfl
    cases c <;> simp_all [MayWrite, Skips, Instruction.group, Instruction.Encodes]
  | _ =>
    simp only [Instruction.footprint, Set.mem_insert_iff, Set.mem_singleton_iff] at mem
    rcases mem with rfl | rfl | rfl <;>
      simp_all [MayWrite, Instruction.group, Instruction.Encodes]

/-- A word that skips moves the program counter by two, if at all. -/
theorem Instruction.effect_pc_of_skips (bus : UInt8) (selected : Instruction.ofFields? f = some i)
    (skips : f.Skips) : (i.effect bus s).pc = s.pc ∨ (i.effect bus s).pc = s.pc + 2 := by
  have group := group_of_ofFields? selected
  rw [effect_pc]
  cases i with
  | skipIf c =>
    dsimp only
    split
    · exact .inr rfl
    · exact .inl rfl
  | ret | jump target | call target | jumpFrom target =>
    simp [Fields.Skips, group, Instruction.group] at skips
  | _ => exact .inl rfl

namespace Cpu

variable {w : Int}

theorem mayWrite_of_execute (bound : s.stack.pointer.toNat ≤ 16)
    (differs : ¬(s.execute w).SameAt s place) : (Fields.ofWord w).MayWrite s place := by
  have next := s.executesTo_execute w
  generalize s.execute w = t at next differs
  cases next with
  | halted fault cause =>
    obtain ⟨cause, applies, _⟩ := exists_applies_of_fault? bound cause
    cases place with
    | fault | faultWord => exact ⟨cause, applies⟩
    | _ => exact absurd rfl differs
  | ignored undefined lenient => exact absurd (SameAt.refl s place) differs
  | performed i selected allowed =>
    apply Fields.mayWrite_of_mem_footprint selected
    by_contra spared
    exact differs (Instruction.sameAt_effect place spared)

theorem pc_execute_of_skips (skips : (Fields.ofWord w).Skips) :
    (s.execute w).pc = s.pc ∨ (s.execute w).pc = s.pc + 2 := by
  have next := s.executesTo_execute w
  generalize s.execute w = t at next ⊢
  cases next with
  | performed i selected allowed => exact Instruction.effect_pc_of_skips _ selected skips
  | _ => exact .inl rfl

/-- **What a word writes.** Wherever a processor with at most sixteen live slots is changed by
executing a word, the word is one that can write there, and no processor is changed by a word that
can write nowhere. A word that skips changes the program counter by exactly two. -/
theorem execute_writes (s : Cpu) (w : Int) (bound : s.stack.pointer.toNat ≤ 16) :
    (∀ place, ¬(s.execute w).SameAt s place → (Fields.ofWord w).MayWrite s place) ∧
    ((∀ place, ¬(Fields.ofWord w).MayWrite s place) → s.execute w = s) ∧
    ((Fields.ofWord w).Skips → (s.execute w).pc = s.pc ∨ (s.execute w).pc = s.pc + 2) := by
  refine ⟨?_, ?_, pc_execute_of_skips⟩
  · intro place differs
    exact mayWrite_of_execute bound differs
  · intro nowhere
    apply eq_of_sameAt
    intro place
    by_contra differs
    exact nowhere place (mayWrite_of_execute bound differs)

/-- Four registers are stored from 0x300 on, and the last of the four bytes changes. A word that is
undefined in lenient mode changes nothing. A skip at the highest address wraps around. -/
theorem execute_writes_last_register :
    let s : Cpu :=
      { create ⟨0, 0⟩ Font.standard false with
        index := 0x300, registers := Vector.replicate 16 0xAB, pc := 0xFFFF }
    s.stack.pointer.toNat ≤ 16 ∧
      ¬(s.execute 0xF355).SameAt s (.byte ⟨0x303, by decide⟩) ∧
      (Fields.ofWord 0xF355).MayWrite s (.byte ⟨0x303, by decide⟩) ∧
      (∀ place, ¬(Fields.ofWord 0xF3FF).MayWrite s place) ∧ s.execute 0xF3FF = s ∧
      (Fields.ofWord 0x30AB).Skips ∧
      ((s.execute 0x30AB).pc = 0xFFFF ∨ (s.execute 0x30AB).pc = 0xFFFF + 2) := by
  intro s
  have bound : s.stack.pointer.toNat ≤ 16 := by decide
  have differs : ¬(s.execute 0xF355).SameAt s (.byte ⟨0x303, by decide⟩) := by
    unfold SameAt
    decide +kernel
  have nowhere : ∀ place, ¬(Fields.ofWord 0xF3FF).MayWrite s place := by
    intro place
    have group : (Fields.ofWord 0xF3FF).group = 15 := by decide
    have selector : (Fields.ofWord 0xF3FF).nn = 0xFF := by decide
    have word : (Fields.ofWord 0xF3FF).word = 0xF3FF := rfl
    have passes : ¬∃ cause : Cause, cause.Applies s 0xF3FF :=
      (fault?_eq_none_iff_applies bound).mp (by decide)
    cases place <;> simp [Fields.MayWrite, Fields.Skips, group, selector, word, passes]
  have skips : (Fields.ofWord 0x30AB).Skips := by unfold Fields.Skips; decide
  exact ⟨bound, differs, (execute_writes s 0xF355 bound).1 _ differs, nowhere,
    (execute_writes s 0xF3FF bound).2.1 nowhere, skips, (execute_writes s 0x30AB bound).2.2 skips⟩

end Cpu

end Chip8
