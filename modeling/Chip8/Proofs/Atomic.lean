import Chip8.Proofs.Cause
import Mathlib.Logic.Basic

/-!
# Faults are atomic

A word passes or it fails, and a failure leaves nothing of the instruction behind
(`Cpu.execute_atomic`). When it fails can be read off the word, the mode, the index and the pointer
of the stack before the word is executed (`Cause.Applies`). Execution asks for the condition once, in
front of every effect (`Cpu.executeOn`). A processor that has a guard in the handler of each
instruction does the same, as long as the guard stands in front of the whole effect. That the
conditions come to the four documented causes is `Cpu.fault?_eq_some_iff_applies`.

The outcome alone does not always tell the two apart. Where the fault of a word is on record already
and the word, now without a cause, changes nothing, recording the fault once more would come to the
same state (`Cpu.Repeats`, `Cpu.execute_zero_passes_and_fails`). There is no other such case.
-/

namespace Chip8

/-- The faults that a word can fail by. -/
def Fault.ofWords : List Fault := [unknownOpcode, outOfBounds, stackOverflow, stackUnderflow]

namespace Cause

/-- The fault that a cause is recorded as. -/
def fault : Cause → Fault
  | undefinedWord => .unknownOpcode
  | fullStack => .stackOverflow
  | emptyStack => .stackUnderflow
  | overrun => .outOfBounds

theorem fault_mem (cause : Cause) : cause.fault ∈ Fault.ofWords := by
  cases cause <;> decide

/-- When a word is going to fail by a cause. The end of an access is a sum of numbers, so it does
not wrap at 16 bits. -/
def Applies (s : Cpu) (w : Int) : Cause → Prop
  | undefinedWord => s.strict = true ∧ (Fields.ofWord w).Undefined
  | fullStack => (Fields.ofWord w).group = 2 ∧ s.stack.pointer.toNat = 16
  | emptyStack => w = 0x00EE ∧ s.stack.pointer.toNat = 0
  | overrun => ∃ size : Nat,
    (Fields.ofWord w).accessSize? = some size ∧ 0x1000 < s.index.toNat + size

end Cause

namespace Cpu

variable {s : Cpu} {w : Int} {fault : Fault} {cause : Cause}

/-! ## Conditions -/

theorem exists_applies_of_fault? (bound : s.stack.pointer.toNat ≤ 16)
    (found : s.fault? w = some fault) :
    ∃ cause : Cause, cause.Applies s w ∧ cause.fault = fault := by
  rcases fault?_eq_some_iff.mp found with ⟨undefined, strict, rfl⟩ | ⟨i, selected, found⟩
  · exact ⟨.undefinedWord, ⟨strict, Instruction.ofFields?_eq_none_iff.mp undefined⟩, rfl⟩
  · rcases Instruction.fault?_eq_some_iff.mp found with
      ⟨rfl, empty, rfl⟩ | ⟨target, rfl, full, rfl⟩ | ⟨size, reach, overruns, rfl⟩
    · have returns : w = 0x00EE := Instruction.ofWord?_eq_ret_iff.mp selected
      exact ⟨.emptyStack, ⟨returns, CallStack.isEmpty_iff.mp empty⟩, rfl⟩
    · have calls : (Fields.ofWord w).group = 2 := Instruction.exists_call_iff.mp ⟨target, selected⟩
      exact ⟨.fullStack, ⟨calls, Nat.le_antisymm bound (CallStack.isFull_iff.mp full)⟩, rfl⟩
    · have access : (Fields.ofWord w).accessSize? = some size :=
        Fields.accessSize?_eq_some_iff.mpr ⟨i, selected, reach⟩
      exact ⟨.overrun, ⟨size, access, of_decide_eq_true overruns⟩, rfl⟩

theorem fault?_of_applies (applies : cause.Applies s w) : s.fault? w = some cause.fault := by
  refine fault?_eq_some_iff.mpr ?_
  cases cause with
  | undefinedWord =>
    obtain ⟨strict, undefined⟩ := applies
    exact .inl ⟨Instruction.ofFields?_eq_none_iff.mpr undefined, strict, rfl⟩
  | fullStack =>
    obtain ⟨calls, full⟩ := applies
    obtain ⟨target, selected⟩ := Instruction.exists_call_iff.mpr calls
    have isFull : s.stack.isFull = true := CallStack.isFull_iff.mpr (Nat.le_of_eq full.symm)
    refine .inr ⟨_, selected, Instruction.fault?_eq_some_iff.mpr ?_⟩
    exact .inr (.inl ⟨target, rfl, isFull, rfl⟩)
  | emptyStack =>
    obtain ⟨returns, empty⟩ := applies
    have isEmpty : s.stack.isEmpty = true := CallStack.isEmpty_iff.mpr empty
    refine .inr ⟨_, Instruction.ofWord?_eq_ret_iff.mpr returns, ?_⟩
    exact Instruction.fault?_eq_some_iff.mpr (.inl ⟨rfl, isEmpty, rfl⟩)
  | overrun =>
    obtain ⟨size, access, past⟩ := applies
    obtain ⟨i, selected, reach⟩ := Fields.accessSize?_eq_some_iff.mp access
    refine .inr ⟨i, selected, Instruction.fault?_eq_some_iff.mpr ?_⟩
    exact .inr (.inr ⟨size, reach, decide_eq_true past, rfl⟩)

/-- **A word fails exactly by the documented causes.** -/
theorem fault?_eq_some_iff_applies (bound : s.stack.pointer.toNat ≤ 16) :
    s.fault? w = some fault ↔ ∃ cause : Cause, cause.Applies s w ∧ cause.fault = fault := by
  constructor
  · exact exists_applies_of_fault? bound
  · rintro ⟨cause, applies, rfl⟩
    exact fault?_of_applies applies

theorem fault?_eq_none_iff_applies (bound : s.stack.pointer.toNat ≤ 16) :
    s.fault? w = none ↔ ¬∃ cause : Cause, cause.Applies s w := by
  constructor
  · rintro clear ⟨cause, applies⟩
    exact nomatch clear.symm.trans (fault?_of_applies applies)
  · intro no_cause
    refine Option.eq_none_iff_forall_ne_some.mpr fun fault found => no_cause ?_
    obtain ⟨cause, applies, _⟩ := (fault?_eq_some_iff_applies bound).mp found
    exact ⟨cause, applies⟩

/-! ## Outcomes -/

/-- A word passes: nothing that it could fail by applies, and the record of faults stays. -/
structure Passes (s : Cpu) (w : Int) : Prop where
  no_cause : ¬∃ cause : Cause, cause.Applies s w
  same_fault : (s.execute w).fault = s.fault
  same_word : (s.execute w).faultWord = s.faultWord

/-- A word fails, to judge by its outcome: one of the four faults is on record with the word, and
all else is as it was. -/
def Fails (s : Cpu) (w : Int) : Prop :=
  ∃ fault ∈ Fault.ofWords,
    s.execute w = { s with fault := some fault, faultWord := UInt16.ofInt w }

/-- A word without a cause to fail by leaves a state as it is that has the fault on record already,
for the same word. -/
structure Repeats (s : Cpu) (w : Int) (fault : Fault) : Prop where
  no_cause : ¬∃ cause : Cause, cause.Applies s w
  fault_eq : s.fault = some fault
  faultWord_eq : s.faultWord = UInt16.ofInt w
  execute_eq : s.execute w = s

theorem execute_of_applies (applies : cause.Applies s w) : s.execute w = s.halt cause.fault w := by
  rw [execute, executeOn, fault?_of_applies applies]

theorem execute_record (clear : s.fault? w = none) :
    (s.execute w).fault = s.fault ∧ (s.execute w).faultWord = s.faultWord := by
  rw [execute, executeOn, clear]
  unfold effect
  cases Instruction.ofWord? w with
  | none => exact ⟨rfl, rfl⟩
  | some i => exact ⟨Instruction.effect_fault .., Instruction.effect_faultWord ..⟩

theorem passes_of_clear (bound : s.stack.pointer.toNat ≤ 16) (clear : s.fault? w = none) :
    s.Passes w :=
  ⟨(fault?_eq_none_iff_applies bound).mp clear, (execute_record clear).1, (execute_record clear).2⟩

theorem passes_of_no_cause (bound : s.stack.pointer.toNat ≤ 16)
    (no_cause : ¬∃ cause : Cause, cause.Applies s w) : s.Passes w :=
  passes_of_clear bound ((fault?_eq_none_iff_applies bound).mpr no_cause)

/-- What is on record already is recorded without a change. -/
theorem halt_eq_self (fault_eq : s.fault = some fault) (faultWord_eq : s.faultWord = UInt16.ofInt w) :
    s.halt fault w = s := by
  rw [halt, ← fault_eq, ← faultWord_eq]

/-- The outcome of a word is the record of a fault where a cause of this fault applies, and where the
record is repeated. -/
theorem execute_eq_halt_iff (bound : s.stack.pointer.toNat ≤ 16) :
    s.execute w = s.halt fault w ↔
      (∃ cause : Cause, cause.Applies s w ∧ cause.fault = fault) ∨ s.Repeats w fault := by
  constructor
  · intro halted
    cases found : s.fault? w with
    | none =>
      -- A word that passes keeps the record, so this record was there before.
      have passes := passes_of_clear bound found
      have fault_eq : s.fault = some fault := by rw [← passes.same_fault, halted]; rfl
      have faultWord_eq : s.faultWord = UInt16.ofInt w := by rw [← passes.same_word, halted]; rfl
      exact .inr ⟨passes.no_cause, fault_eq, faultWord_eq,
        halted.trans (halt_eq_self fault_eq faultWord_eq)⟩
    | some other =>
      rw [execute, executeOn, found] at halted
      have same : some other = some fault := congrArg Cpu.fault halted
      exact .inl ((fault?_eq_some_iff_applies bound).mp (found.trans same))
  · rintro (⟨cause, applies, rfl⟩ | repeats)
    · exact execute_of_applies applies
    · rw [repeats.execute_eq, halt_eq_self repeats.fault_eq repeats.faultWord_eq]

theorem passes_or_fails (bound : s.stack.pointer.toNat ≤ 16) : s.Passes w ∨ s.Fails w := by
  by_cases some_cause : ∃ cause : Cause, cause.Applies s w
  · obtain ⟨cause, applies⟩ := some_cause
    exact .inr ⟨cause.fault, cause.fault_mem, execute_of_applies applies⟩
  · exact .inl (passes_of_no_cause bound some_cause)

theorem passes_and_fails_iff (bound : s.stack.pointer.toNat ≤ 16) :
    s.Passes w ∧ s.Fails w ↔ ∃ fault ∈ Fault.ofWords, s.Repeats w fault := by
  constructor
  · rintro ⟨passes, fault, member, halted⟩
    rcases (execute_eq_halt_iff bound).mp halted with ⟨cause, applies, _⟩ | repeats
    · exact absurd ⟨cause, applies⟩ passes.no_cause
    · exact ⟨fault, member, repeats⟩
  · rintro ⟨fault, member, repeats⟩
    refine ⟨passes_of_no_cause bound repeats.no_cause, fault, member, ?_⟩
    exact (execute_eq_halt_iff bound).mpr (.inr repeats)

/-! ## Steps -/

/-- Fetching a word changes nothing that its fault depends on. -/
theorem fault?_fetch : s.fetch.2.fault? w = s.fault? w := fault?_congr rfl rfl rfl w

/-- A step that fetches a word to which a cause applies moves the program counter past the word and
records the fault. -/
theorem step_of_applies (inside : s.pc.toNat < Memory.size)
    (applies : cause.Applies s s.nextWord.toNat) :
    s.step = { s with pc := s.pc + 2, fault := some cause.fault, faultWord := s.nextWord } := by
  have found : s.fetch.2.fault? s.nextWord.toNat = some cause.fault := by
    rw [fault?_fetch, fault?_of_applies applies]
  rw [step_of_inside inside, execute, executeOn, found]
  dsimp only
  rw [halt, ofInt_toNat]
  rfl

theorem step_record (inside : s.pc.toNat < Memory.size)
    (clear : s.fault? s.nextWord.toNat = none) :
    s.step.fault = s.fault ∧ s.step.faultWord = s.faultWord := by
  rw [step_of_inside inside]
  exact execute_record (fault?_fetch.trans clear)

/-- **A fault is atomic.** In a state with at most sixteen live slots, whatever it carries or waits
for, a word passes or fails, and both only where it repeats the record. Its outcome is the record of
a fault, all else unchanged, exactly by the documented causes of the fault, such a repetition apart.
A step that records a fault has moved the program counter besides, or nothing if it was past the end
of memory. -/
theorem execute_atomic (s : Cpu) (w : Int) (bound : s.stack.pointer.toNat ≤ 16) :
    (s.Passes w ∨ s.Fails w) ∧
    (s.Passes w ∧ s.Fails w ↔ ∃ fault ∈ Fault.ofWords, s.Repeats w fault) ∧
    (∀ fault,
      s.execute w = { s with fault := some fault, faultWord := UInt16.ofInt w } ↔
        (∃ cause : Cause, cause.Applies s w ∧ cause.fault = fault) ∨ s.Repeats w fault) ∧
    (0x1000 ≤ s.pc.toNat → s.step = { s with fault := some .pcOutOfRange }) ∧
    (s.pc.toNat < 0x1000 →
      (∀ cause : Cause, cause.Applies s s.nextWord.toNat →
        s.step = { s with pc := s.pc + 2, fault := some cause.fault, faultWord := s.nextWord }) ∧
      ((¬∃ cause : Cause, cause.Applies s s.nextWord.toNat) →
        s.step.fault = s.fault ∧ s.step.faultWord = s.faultWord)) := by
  refine ⟨passes_or_fails bound, passes_and_fails_iff bound, fun fault => execute_eq_halt_iff bound,
    step_of_past, fun inside => ?_⟩
  constructor
  · intro cause applies
    exact step_of_applies inside applies
  · intro no_cause
    exact step_record inside ((fault?_eq_none_iff_applies bound).mpr no_cause)

/-- Loading two registers from the highest index: in 16 bits the end of the access would be 1. The
state waits for a key and carries another fault. -/
theorem execute_atomic_at_highest_index :
    let s : Cpu :=
      { create ⟨0, 0⟩ Font.standard false with
        index := 0xFFFF, waiting := true, fault := some .stackUnderflow, faultWord := 0x00EE }
    s.stack.pointer.toNat ≤ 16 ∧ Cause.overrun.Applies s 0xF165 ∧
      s.execute 0xF165 =
        { s with fault := some .outOfBounds, faultWord := UInt16.ofInt 0xF165 } := by
  intro s
  have bound : s.stack.pointer.toNat ≤ 16 := by decide
  have applies : Cause.overrun.Applies s 0xF165 := ⟨2, by decide, by decide⟩
  obtain ⟨_, _, halts_iff, _⟩ := execute_atomic s 0xF165 bound
  exact ⟨bound, applies, (halts_iff .outOfBounds).mpr (.inl ⟨.overrun, applies, rfl⟩)⟩

/-- Outside strict mode the word 0 does nothing, and no cause applies to it. Where an unknown opcode
0 is on record it has passed, and its outcome is that of a failure as well. -/
theorem execute_zero_passes_and_fails :
    let s : Cpu :=
      { create ⟨0, 0⟩ Font.standard false with fault := some .unknownOpcode, faultWord := 0 }
    s.stack.pointer.toNat ≤ 16 ∧ (¬∃ cause : Cause, cause.Applies s 0) ∧ s.Passes 0 ∧ s.Fails 0 ∧
      ¬Xor (s.Passes 0) (s.Fails 0) := by
  intro s
  have bound : s.stack.pointer.toNat ≤ 16 := by decide
  have passes : s.Passes 0 := passes_of_clear bound (by decide)
  have idle : s.execute 0 = s := execute_of_ofWord?_eq_none (by decide) rfl
  have fails : s.Fails 0 := ⟨.unknownOpcode, by decide, idle⟩
  refine ⟨bound, passes.no_cause, passes, fails, ?_⟩
  rintro (⟨_, no_failure⟩ | ⟨_, no_pass⟩)
  · exact no_failure fails
  · exact no_pass passes

end Cpu

end Chip8
