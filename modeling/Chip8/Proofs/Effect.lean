import Chip8.Cpu.Execute

/-!
# What a step does

The effect of an instruction field by field, the three ways a word can be executed
(`Cpu.executesTo_execute`: it is a fault, it is undefined and passed over, or it takes effect), and
the four ways a step can go (`Cpu.stepsTo_step`): one of these, or the program counter lies past the
end of memory. Later modules read a step only through these facts, so a change to one instruction is
met here.
-/

namespace Chip8

/-! ## What conditions and faults look at -/

section Congruence

variable {s t : Cpu}

/-- A condition looks at registers and keys only. -/
theorem Condition.holds_congr (registers : t.registers = s.registers) (keypad : t.keypad = s.keypad)
    (c : Condition) : c.holds t = c.holds s := by
  cases c <;> simp only [holds, registers, keypad]

/-- Whether an instruction can be performed depends on the stack and the index only. -/
theorem Instruction.fault?_congr (stack : t.stack = s.stack) (index : t.index = s.index)
    (i : Instruction) : i.fault? t = i.fault? s := by
  have overruns : t.overruns = s.overruns := by
    funext count
    rw [Cpu.overruns, Cpu.overruns, index]
  cases i <;> simp only [fault?, stack, overruns]

/-- Whether a word can be executed depends on the mode besides. -/
theorem Cpu.fault?_congr (stack : t.stack = s.stack) (index : t.index = s.index)
    (strict : t.strict = s.strict) (w : Int) : t.fault? w = s.fault? w := by
  unfold fault?
  rw [strict]
  cases Instruction.ofWord? w with
  | none => rfl
  | some i => exact i.fault?_congr stack index

end Congruence

/-- A block that is written back behind its first bytes is as good as those bytes alone. -/
theorem Memory.write_masked (bus : UInt8) (m : Memory) (address : Nat) (bytes : Vector UInt8 16)
    (x : Fin 16) :
    m.write address (List.ofFn fun i : Fin 16 =>
        if i.val ≤ x.val then bytes.get i else m.read bus (address + i.val)) =
      m.write address (bytes.toList.take (x.val + 1)) := by
  apply Memory.ext
  apply Vector.ext
  intro a inside
  rw [getElem_write _ _ _ inside, getElem_write _ _ _ inside]
  by_cases before : a < address
  · rw [if_neg (Nat.not_le_of_lt before), if_neg (Nat.not_le_of_lt before)]
  · obtain ⟨i, rfl⟩ := Nat.exists_eq_add_of_le (Nat.le_of_not_lt before)
    have offset : address + i - address = i := by omega
    rw [offset, List.getElem?_ofFn, List.getElem?_take]
    by_cases stored : i ≤ x.val
    · have block : i < 16 := by omega
      rw [dif_pos block, if_pos stored, if_pos (Nat.lt_succ_of_le stored), Vector.getElem?_toList,
        Vector.getElem?_eq_getElem block]
      rfl
    -- Behind `x` the byte is written that stands there, or none where the block has ended.
    · have behind : ¬i < x.val + 1 := by omega
      rw [if_neg behind]
      by_cases block : i < 16
      · rw [dif_pos block, if_neg stored, read_of_lt bus m inside]
        rfl
      · rw [dif_neg block]

namespace Instruction

variable (bus : UInt8) (s : Cpu)

/-! ## Fields that no effect touches -/

@[simp]
theorem effect_fault (i : Instruction) : (i.effect bus s).fault = s.fault := by
  cases i with
  | skipIf c => simp only [effect]; split <;> rfl
  | _ => simp only [effect, Cpu.setRegister]

@[simp]
theorem effect_faultWord (i : Instruction) : (i.effect bus s).faultWord = s.faultWord := by
  cases i with
  | skipIf c => simp only [effect]; split <;> rfl
  | _ => simp only [effect, Cpu.setRegister]

@[simp]
theorem effect_strict (i : Instruction) : (i.effect bus s).strict = s.strict := by
  cases i with
  | skipIf c => simp only [effect]; split <;> rfl
  | _ => simp only [effect, Cpu.setRegister]

@[simp]
theorem effect_keypad (i : Instruction) : (i.effect bus s).keypad = s.keypad := by
  cases i with
  | skipIf c => simp only [effect]; split <;> rfl
  | _ => simp only [effect, Cpu.setRegister]

/-! ## Fields that single instructions write -/

/-- The program counter is moved by jumps, calls, returns and skips that are taken. -/
theorem effect_pc (i : Instruction) :
    (i.effect bus s).pc =
      match i with
      | ret => s.stack.pop.1
      | jump target => UInt16.ofNat target.val
      | call target => UInt16.ofNat target.val
      | skipIf c => if c.holds s then s.pc + 2 else s.pc
      | jumpFrom target => UInt16.ofNat target.val + (s.registers.get 0).toUInt16
      | _ => s.pc := by
  cases i with
  | skipIf c => simp only [effect]; split <;> rfl
  | _ => simp only [effect, Cpu.setRegister]

/-- Calls push the program counter, which is already past the call. -/
theorem effect_stack (i : Instruction) :
    (i.effect bus s).stack =
      match i with
      | ret => s.stack.pop.2
      | call _ => s.stack.push s.pc
      | _ => s.stack := by
  cases i with
  | skipIf c => simp only [effect]; split <;> rfl
  | _ => simp only [effect, Cpu.setRegister]

theorem effect_waiting (i : Instruction) :
    (i.effect bus s).waiting =
      match i with
      | awaitKey _ => true
      | _ => s.waiting := by
  cases i with
  | skipIf c => simp only [effect]; split <;> rfl
  | _ => simp only [effect, Cpu.setRegister]

theorem effect_keyRegister (i : Instruction) :
    (i.effect bus s).keyRegister =
      match i with
      | awaitKey x => UInt8.ofNat x.val
      | _ => s.keyRegister := by
  cases i with
  | skipIf c => simp only [effect]; split <;> rfl
  | _ => simp only [effect, Cpu.setRegister]

theorem effect_delayTimer (i : Instruction) :
    (i.effect bus s).delayTimer =
      match i with
      | setDelay x => s.registers.get x
      | _ => s.delayTimer := by
  cases i with
  | skipIf c => simp only [effect]; split <;> rfl
  | setDelay x => rfl
  | _ => simp only [effect, Cpu.setRegister]

theorem effect_soundTimer (i : Instruction) :
    (i.effect bus s).soundTimer =
      match i with
      | setSound x => s.registers.get x
      | _ => s.soundTimer := by
  cases i with
  | skipIf c => simp only [effect]; split <;> rfl
  | setSound x => rfl
  | _ => simp only [effect, Cpu.setRegister]

/-- A random byte costs one split of the key. -/
theorem effect_random (i : Instruction) :
    (i.effect bus s).random =
      match i with
      | random _ _ => s.random.next
      | _ => s.random := by
  cases i with
  | skipIf c => simp only [effect]; split <;> rfl
  | _ => simp only [effect, Cpu.setRegister]

/-- Digits and registers are written from the index on. Behind the last register that is stored, the
block writes back what it read, and what falls past the end of memory is dropped. -/
theorem effect_memory (i : Instruction) :
    (i.effect bus s).memory =
      match i with
      | decimal x => s.memory.write s.index.toNat (decimalDigits (s.registers.get x))
      | store x => s.memory.write s.index.toNat (s.registers.toList.take (x.val + 1))
      | _ => s.memory := by
  cases i with
  | skipIf c => simp only [effect]; split <;> rfl
  | decimal x => rfl
  | store x => exact Memory.write_masked bus s.memory s.index.toNat s.registers x
  | _ => simp only [effect, Cpu.setRegister]

/-- A draw reads the rows of its sprite and no others. -/
theorem effect_draw (x y : Register) (n : Fin 16) :
    (draw x y n).effect bus s =
      let rows : Sprite := s.memory.readMany bus s.index.toNat n.val
      let sprite := rows.place (s.registers.get x) (s.registers.get y)
      { s.setRegister 15 (Operation.flagOf (s.screen.meets sprite)) with
        screen := s.screen.xor sprite, drawn := true } := by
  have rows : (s.memory.readMany bus s.index.toNat Sprite.maxHeight).take n.val = _ :=
    Memory.take_readMany bus s.memory s.index.toNat (Nat.le_of_lt_succ n.isLt)
  simp only [effect, rows]
  rfl

/-- The screen is cleared by one instruction and drawn on by one. -/
theorem effect_screen (i : Instruction) :
    (i.effect bus s).screen =
      match i with
      | clearScreen => .dark
      | draw x y n =>
        s.screen.xor (Sprite.place (s.memory.readMany bus s.index.toNat n.val)
          (s.registers.get x) (s.registers.get y))
      | _ => s.screen := by
  cases i with
  | skipIf c => simp only [effect]; split <;> rfl
  | draw x y n => rw [effect_draw]
  | _ => simp only [effect, Cpu.setRegister]

theorem effect_drawn (i : Instruction) :
    (i.effect bus s).drawn =
      match i with
      | clearScreen | draw _ _ _ => true
      | _ => s.drawn := by
  cases i with
  | skipIf c => simp only [effect]; split <;> rfl
  | _ => simp only [effect, Cpu.setRegister]

/-! ## Fault conditions -/

/-- A return faults on an empty stack, a call on a full one, and any other instruction where it
reaches past the end of memory. -/
theorem fault?_eq_some_iff {i : Instruction} {s : Cpu} {fault : Fault} :
    i.fault? s = some fault ↔
      (i = ret ∧ s.stack.isEmpty = true ∧ fault = .stackUnderflow) ∨
      (∃ target, i = call target ∧ s.stack.isFull = true ∧ fault = .stackOverflow) ∨
      (∃ count, i.reach? = some count ∧ s.overruns count = true ∧ fault = .outOfBounds) := by
  cases i <;> simp [fault?, reach?, eq_comm (b := fault)]

/-- A return that is no fault has an address to go back to. -/
theorem live_of_ret {s : Cpu} (allowed : ret.fault? s = none) : 0 < s.stack.pointer.toNat := by
  simp only [fault?, ite_eq_right_iff, reduceCtorEq, imp_false] at allowed
  exact Nat.pos_of_ne_zero fun empty => allowed (CallStack.isEmpty_iff.mpr empty)

/-- A call that is no fault has a slot to go to. -/
theorem room_of_call {s : Cpu} {target : Address} (allowed : (call target).fault? s = none) :
    s.stack.pointer.toNat < 16 := by
  simp only [fault?, ite_eq_right_iff, reduceCtorEq, imp_false] at allowed
  exact Nat.lt_of_not_le fun full => allowed (CallStack.isFull_iff.mpr full)

end Instruction

namespace Cpu

/-- A word is a fault when it is undefined in strict mode, or when the instruction that it selects
cannot be performed. -/
theorem fault?_eq_some_iff {s : Cpu} {w : Int} {fault : Fault} :
    s.fault? w = some fault ↔
      (Instruction.ofWord? w = none ∧ s.strict = true ∧ fault = .unknownOpcode) ∨
      (∃ i, Instruction.ofWord? w = some i ∧ i.fault? s = some fault) := by
  unfold fault?
  cases Instruction.ofWord? w with
  | none => simp [eq_comm (b := fault)]
  | some i => simp

/-- The four faults that a word can record. -/
theorem fault?_cases {s : Cpu} {w : Int} {fault : Fault} (cause : s.fault? w = some fault) :
    (fault = .unknownOpcode ∧ s.strict = true) ∨ fault = .stackUnderflow ∨
      fault = .stackOverflow ∨ fault = .outOfBounds := by
  rcases fault?_eq_some_iff.mp cause with ⟨_, strict, rfl⟩ | ⟨i, _, found⟩
  · exact .inl ⟨rfl, strict⟩
  · rcases Instruction.fault?_eq_some_iff.mp found with
      ⟨_, _, rfl⟩ | ⟨_, _, _, rfl⟩ | ⟨_, _, _, rfl⟩
    · exact .inr (.inl rfl)
    · exact .inr (.inr (.inl rfl))
    · exact .inr (.inr (.inr rfl))

/-- What executing a word leaves behind, by the way it went. -/
inductive ExecutesTo (s : Cpu) (w : Int) : Cpu → Prop
  /-- The word is a fault: only the record changes. -/
  | halted (fault : Fault) (cause : s.fault? w = some fault) : ExecutesTo s w (s.halt fault w)
  /-- The word is undefined and passed over. -/
  | ignored (undefined : Instruction.ofWord? w = none) (lenient : s.strict = false) :
      ExecutesTo s w s
  /-- The word selects an instruction that can be performed. -/
  | performed (i : Instruction) (selected : Instruction.ofWord? w = some i)
      (allowed : i.fault? s = none) : ExecutesTo s w (i.effect Memory.openBus s)

/-- **Every word is executed in one of the three ways.** -/
theorem executesTo_execute (s : Cpu) (w : Int) : s.ExecutesTo w (s.execute w) := by
  unfold execute executeOn
  cases cause : s.fault? w with
  | some fault => exact .halted fault cause
  | none =>
    unfold fault? at cause
    unfold effect
    cases selected : Instruction.ofWord? w with
    | none =>
      simp only [selected, ite_eq_right_iff, reduceCtorEq, imp_false, Bool.not_eq_true] at cause
      exact .ignored selected cause
    | some i =>
      simp only [selected] at cause
      exact .performed i selected cause

theorem execute_of_ofWord? {s : Cpu} {w : Int} {i : Instruction}
    (selected : Instruction.ofWord? w = some i) (allowed : i.fault? s = none) :
    s.fault? w = none ∧ s.execute w = i.effect Memory.openBus s := by
  have clear : s.fault? w = none := by
    rw [fault?, selected]
    exact allowed
  refine ⟨clear, ?_⟩
  rw [execute, executeOn, clear, effect, selected]

/-- A word that selects no instruction does nothing in lenient mode. -/
theorem execute_of_ofWord?_eq_none {s : Cpu} {w : Int} (unassigned : Instruction.ofWord? w = none)
    (lenient : s.strict = false) : s.execute w = s := by
  have clear : s.fault? w = none := by
    rw [fault?, unassigned]
    exact if_neg (Bool.eq_false_iff.mp lenient)
  rw [execute, executeOn, clear, effect, unassigned]

/-- Executes words one after the other. -/
def executeAll (s : Cpu) (words : List Int) : Cpu := words.foldl execute s

theorem executeAll_append (s : Cpu) (first second : List Int) :
    s.executeAll (first ++ second) = (s.executeAll first).executeAll second :=
  List.foldl_append

/-- What a step leaves behind, by the way it went. -/
inductive StepsTo (s : Cpu) : Cpu → Prop
  /-- Nothing is fetched from past the end of memory. -/
  | outOfRange (past : Memory.size ≤ s.pc.toNat) : StepsTo s { s with fault := some .pcOutOfRange }
  /-- The fetched word is a fault: only the program counter and the record change. -/
  | halted (fault : Fault) (inside : s.pc.toNat < Memory.size)
      (cause : s.fetch.2.fault? s.nextWord.toNat = some fault) :
      StepsTo s (s.fetch.2.halt fault s.nextWord.toNat)
  /-- The fetched word is undefined and passed over. -/
  | ignored (inside : s.pc.toNat < Memory.size)
      (undefined : Instruction.ofWord? s.nextWord.toNat = none) (lenient : s.strict = false) :
      StepsTo s s.fetch.2
  /-- The fetched word selects an instruction that can be performed. -/
  | performed (i : Instruction) (inside : s.pc.toNat < Memory.size)
      (selected : Instruction.ofWord? s.nextWord.toNat = some i)
      (allowed : i.fault? s.fetch.2 = none) :
      StepsTo s (i.effect Memory.openBus s.fetch.2)

/-- **Every step goes one of the four ways.** -/
theorem stepsTo_step (s : Cpu) : s.StepsTo s.step := by
  unfold step
  split
  · exact .outOfRange ‹_›
  · have inside : s.pc.toNat < Memory.size := by omega
    have next := s.fetch.2.executesTo_execute s.nextWord.toNat
    generalize s.fetch.2.execute s.nextWord.toNat = t at next ⊢
    cases next with
    | halted fault cause => exact .halted fault inside cause
    | ignored undefined lenient => exact .ignored inside undefined lenient
    | performed i selected allowed => exact .performed i inside selected allowed

theorem step_of_past {s : Cpu} (past : Memory.size ≤ s.pc.toNat) :
    s.step = { s with fault := some .pcOutOfRange } := by
  rw [step, if_pos past]

theorem step_of_inside {s : Cpu} (inside : s.pc.toNat < Memory.size) :
    s.step = s.fetch.2.execute s.nextWord.toNat := by
  rw [step, if_neg (Nat.not_le_of_lt inside)]

/-- The word at the program counter is the two bytes there, the first one in front. -/
theorem toNat_nextWord (s : Cpu) :
    s.nextWord.toNat =
      256 * (s.memory.read 0 s.pc.toNat).toNat + (s.memory.read 0 (s.pc.toNat + 1)).toNat := by
  have high := (s.memory.read 0 s.pc.toNat).toNat_lt
  have low := (s.memory.read 0 (s.pc.toNat + 1)).toNat_lt
  rw [nextWord, UInt16.toNat_ofNat_of_lt' (by simp only [UInt16.size]; omega)]

/-- The instruction that the next step comes to, if there is one. -/
def nextInstruction? (s : Cpu) : Option Instruction :=
  if s.pc.toNat < Memory.size then Instruction.ofWord? s.nextWord.toNat else none

theorem nextInstruction?_eq_some_iff {s : Cpu} {i : Instruction} :
    s.nextInstruction? = some i ↔
      s.pc.toNat < Memory.size ∧ Instruction.ofWord? s.nextWord.toNat = some i := by
  simp only [nextInstruction?, Option.ite_none_right_eq_some]

/-- An instruction that can be performed is performed. -/
theorem step_of_nextInstruction? {s : Cpu} {i : Instruction} (next : s.nextInstruction? = some i)
    (allowed : i.fault? s.fetch.2 = none) : s.step = i.effect Memory.openBus s.fetch.2 := by
  obtain ⟨inside, selected⟩ := nextInstruction?_eq_some_iff.mp next
  rw [step_of_inside inside]
  exact (execute_of_ofWord? selected allowed).2

/-- The instruction that the next step performs, if it performs one. -/
def performed? (s : Cpu) : Option Instruction :=
  s.nextInstruction?.filter fun i => (i.fault? s.fetch.2).isNone

theorem performed?_eq_some_iff {s : Cpu} {i : Instruction} :
    s.performed? = some i ↔ s.nextInstruction? = some i ∧ i.fault? s.fetch.2 = none := by
  simp only [performed?, Option.filter_eq_some_iff, Option.isNone_iff_eq_none]

theorem step_of_performed? {s : Cpu} {i : Instruction} (performs : s.performed? = some i) :
    s.step = i.effect Memory.openBus s.fetch.2 := by
  obtain ⟨next, allowed⟩ := performed?_eq_some_iff.mp performs
  exact step_of_nextInstruction? next allowed

/-- A step that performs no instruction moves the program counter and records a fault, at most. -/
theorem step_of_performed?_eq_none {s : Cpu} (idle : s.performed? = none) :
    ∃ pc fault word, s.step = { s with pc := pc, fault := fault, faultWord := word } := by
  have next := s.stepsTo_step
  generalize s.step = t at next ⊢
  cases next with
  | outOfRange past => exact ⟨_, _, _, rfl⟩
  | halted fault inside cause => exact ⟨_, _, _, rfl⟩
  | ignored inside undefined lenient => exact ⟨_, _, _, rfl⟩
  | performed i inside selected allowed =>
    have performs : s.performed? = some i :=
      performed?_eq_some_iff.mpr ⟨nextInstruction?_eq_some_iff.mpr ⟨inside, selected⟩, allowed⟩
    exact nomatch idle.symm.trans performs

/-- An instruction that is come to without a fault is performed. -/
theorem performed?_of_unfaulted {s : Cpu} {i : Instruction} (next : s.nextInstruction? = some i)
    (unfaulted : s.step.fault = none) : s.performed? = some i := by
  obtain ⟨inside, selected⟩ := nextInstruction?_eq_some_iff.mp next
  refine performed?_eq_some_iff.mpr ⟨next, ?_⟩
  cases cause : i.fault? s.fetch.2 with
  | none => rfl
  | some fault =>
    have found : s.fetch.2.fault? s.nextWord.toNat = some fault := by
      rw [fault?, selected]
      exact cause
    rw [step_of_inside inside, execute, executeOn, found] at unfaulted
    cases unfaulted

/-- **Two processors that fetch the same word and fail on it alike step alike.** A relation between
them carries over a step if it does over each of the four ways that both go together. -/
theorem step_related {R : Cpu → Cpu → Prop} {s t : Cpu} (same_pc : t.pc = s.pc)
    (same_word : t.nextWord = s.nextWord)
    (same_fault : t.fetch.2.fault? s.nextWord.toNat = s.fetch.2.fault? s.nextWord.toNat)
    (outOfRange : R { s with fault := some .pcOutOfRange } { t with fault := some .pcOutOfRange })
    (halted : ∀ fault,
      R (s.fetch.2.halt fault s.nextWord.toNat) (t.fetch.2.halt fault s.nextWord.toNat))
    (ignored : R s.fetch.2 t.fetch.2)
    (performed : ∀ i, s.nextInstruction? = some i →
      R (i.effect Memory.openBus s.fetch.2) (i.effect Memory.openBus t.fetch.2)) :
    R s.step t.step := by
  rcases Nat.lt_or_ge s.pc.toNat Memory.size with inside | past
  · rw [step_of_inside inside, step_of_inside (same_pc ▸ inside), same_word]
    unfold execute executeOn
    rw [same_fault]
    cases s.fetch.2.fault? s.nextWord.toNat with
    | some fault => exact halted fault
    | none =>
      unfold effect
      cases selected : Instruction.ofWord? s.nextWord.toNat with
      | none => exact ignored
      | some i => exact performed i (nextInstruction?_eq_some_iff.mpr ⟨inside, selected⟩)
  · rw [step_of_past past, step_of_past (same_pc ▸ past)]
    exact outOfRange

/-- A step never touches a key. -/
@[simp]
theorem keypad_step (s : Cpu) : s.step.keypad = s.keypad := by
  have next := s.stepsTo_step
  generalize s.step = t at next ⊢
  cases next with
  | performed i inside selected allowed => exact Instruction.effect_keypad ..
  | _ => rfl

/-- A step never switches the mode. -/
@[simp]
theorem strict_step (s : Cpu) : s.step.strict = s.strict := by
  have next := s.stepsTo_step
  generalize s.step = t at next ⊢
  cases next with
  | performed i inside selected allowed => exact Instruction.effect_strict ..
  | _ => rfl

end Cpu

end Chip8
