import Chip8.Proofs.Decode
import Chip8.Proofs.Invariant

/-!
# The cause of a fault

The error of a tick is put together after its run, from the record of the fault and from what the
run left in the state. It still names what went wrong (`Machine.tick_failure_explained`): a program
counter past the end of memory, or the word that the last step of the tick fetched, and then exactly
one of four causes.
-/

namespace Chip8

/-- What the instruction of a word can fail by. -/
inductive Cause where
  | undefinedWord
  | fullStack
  | emptyStack
  | overrun

namespace Cause

/-- What a cause says of the state after a fault and of the error made from it. -/
def Explains (s : Cpu) (error : ExecutionError) : Cause → Prop
  | undefinedWord =>
    error = .unknownOpcode s.faultWord.toNat ∧ s.strict = true ∧
      (Fields.ofWord s.faultWord.toNat).Undefined
  | fullStack =>
    error = .stackOverflow s.faultWord.toNat ∧ (Fields.ofWord s.faultWord.toNat).group = 2 ∧
      s.stack.pointer.toNat = 16
  | emptyStack =>
    error = .stackUnderflow s.faultWord.toNat ∧ s.faultWord = 0x00EE ∧ s.stack.pointer.toNat = 0
  | overrun => ∃ size : Nat,
    error = .outOfBounds s.index.toNat size ∧
      (Fields.ofWord s.faultWord.toNat).accessSize? = some size ∧ 0x1000 < s.index.toNat + size

/-- The cause that the kind of an error stands for. -/
def ofError? : ExecutionError → Option Cause
  | .unknownOpcode _ => some undefinedWord
  | .stackOverflow _ => some fullStack
  | .stackUnderflow _ => some emptyStack
  | .outOfBounds _ _ => some overrun
  | .pcOutOfRange _ => none
  | .other _ => none

theorem ofError?_of_explains {s : Cpu} {error : ExecutionError} {cause : Cause}
    (explains : cause.Explains s error) : ofError? error = some cause := by
  cases cause with
  | undefinedWord => obtain ⟨rfl, _⟩ := explains; rfl
  | fullStack => obtain ⟨rfl, _⟩ := explains; rfl
  | emptyStack => obtain ⟨rfl, _⟩ := explains; rfl
  | overrun => obtain ⟨size, rfl, _⟩ := explains; rfl

/-- No error has two causes. -/
theorem eq_of_explains {s : Cpu} {error : ExecutionError} {first second : Cause}
    (one : first.Explains s error) (other : second.Explains s error) : first = second :=
  Option.some.inj ((ofError?_of_explains one).symm.trans (ofError?_of_explains other))

end Cause

namespace Cpu

/-- An error blames the program counter, and no word is recorded. -/
structure BlamesPc (s : Cpu) (error : ExecutionError) : Prop where
  error_eq : error = .pcOutOfRange s.pc.toNat
  past : 0x1000 ≤ s.pc.toNat
  no_word : s.faultWord = 0

/-- An error blames the word that the last step fetched. It still stands in memory, just before the
program counter. -/
structure BlamesWord (s last : Cpu) (error : ExecutionError) : Prop where
  inside : last.pc.toNat < 0x1000
  passed : s.pc.toNat = last.pc.toNat + 2
  fetched : s.faultWord = last.nextWord
  word : s.faultWord.toNat =
    256 * (s.memory.read 0 last.pc.toNat).toNat + (s.memory.read 0 (last.pc.toNat + 1)).toNat
  one_cause : ∃! cause : Cause, cause.Explains s error

variable {s : Cpu}

/-! ## Single words -/

theorem ofInt_toNat (w : UInt16) : UInt16.ofInt w.toNat = w := by
  have bound := w.toNat_lt
  have same : ((w.toNat : Int) % 2 ^ 16).toNat = w.toNat := by omega
  rw [UInt16.ofInt, same, UInt16.ofNat_toNat]

/-- **The record of a fault explains the error made from it.** -/
theorem WellFormed.explains_halt (h : s.WellFormed) {w : UInt16} {fault : Fault}
    (cause : s.fault? w.toNat = some fault) :
    ∃ (error : ExecutionError) (cause : Cause),
      (s.halt fault w.toNat).error? = some error ∧
        cause.Explains (s.halt fault w.toNat) error := by
  have word : (s.halt fault w.toNat).faultWord = w := ofInt_toNat w
  rcases fault?_eq_some_iff.mp cause with ⟨undefined, strict, rfl⟩ | ⟨i, selected, cause⟩
  -- an undefined word in strict mode
  · refine ⟨_, .undefinedWord, rfl, rfl, strict, ?_⟩
    rw [word]
    exact Instruction.ofFields?_eq_none_iff.mp undefined
  · rcases Instruction.fault?_eq_some_iff.mp cause with
      ⟨rfl, empty, rfl⟩ | ⟨target, rfl, full, rfl⟩ | ⟨size, reach, overruns, rfl⟩
    -- a return, which only the word 00EE is
    · refine ⟨_, .emptyStack, rfl, rfl, ?_, CallStack.isEmpty_iff.mp empty⟩
      have same : (w.toNat : Int) = 0x00EE := Instruction.word_of_ret selected
      rw [word, ← UInt16.toNat_inj]
      exact Int.ofNat_inj.mp same
    -- a call; that the stack holds no more than sixteen addresses is the invariant's part
    · refine ⟨_, .fullStack, rfl, rfl, ?_, Nat.le_antisymm h.clean.1 (CallStack.isFull_iff.mp full)⟩
      rw [word]
      exact Instruction.group_of_ofFields? selected
    -- an access past the end of memory: the report takes its size from the word
    · have access : (Fields.ofWord w.toNat).accessSize? = some size :=
        Fields.accessSize?_eq_some_iff.mpr ⟨i, selected, reach⟩
      refine ⟨_, .overrun, rfl, size, ?_, ?_, of_decide_eq_true overruns⟩
      · rw [word, reachOfWord_of_accessSize? access]
      · rw [word]
        exact access

/-! ## Runs -/

/-- A step that records a fault leaves an error behind that blames the right thing. -/
theorem WellFormed.blames_step (h : s.WellFormed) (runnable : s.isRunnable = true)
    {error : ExecutionError} (failed : s.step.error? = some error) :
    s.step.BlamesPc error ∨ s.step.BlamesWord s error := by
  obtain ⟨_, unfaulted⟩ := isRunnable_iff.mp runnable
  have next := s.stepsTo_step
  generalize s.step = t at next failed ⊢
  cases next with
  | outOfRange past =>
    cases failed
    exact .inl ⟨rfl, past, h.no_word (.inl unfaulted)⟩
  | halted fault inside cause =>
    obtain ⟨named, cause, same, explains⟩ := h.fetch.explains_halt cause
    cases same.symm.trans failed
    refine .inr ⟨inside, toNat_fetch_pc inside, ofInt_toNat _, ?_, cause, explains, ?_⟩
    · exact (congrArg UInt16.toNat (ofInt_toNat s.nextWord)).trans (toNat_nextWord s)
    · intro other explains_too
      exact Cause.eq_of_explains explains_too explains
  | ignored inside undefined lenient =>
    exact nomatch (error?_of_unfaulted (s := s.fetch.2) unfaulted).symm.trans failed
  | performed i inside selected allowed =>
    have still_unfaulted := (Instruction.effect_fault Memory.openBus s.fetch.2 i).trans unfaulted
    exact nomatch (error?_of_unfaulted still_unfaulted).symm.trans failed

/-- The error of a tick blames the program counter or the word that its last step fetched. -/
theorem WellFormed.blames_tick (h : s.WellFormed) (runnable : s.isRunnable = true) {budget : Nat}
    {error : ExecutionError} (failed : (s.tick budget).error? = some error) :
    ∃ last, (s.tickTrail budget).getLast? = some last ∧
      ((s.tick budget).BlamesPc error ∨ (s.tick budget).BlamesWord last error) := by
  obtain ⟨fault, faulted⟩ := exists_fault_of_error? failed
  obtain ⟨last, ends, ready, final⟩ := getLast?_tickTrail runnable faulted
  have start : WellFormed { s with drawn := false } := h.congr rfl rfl rfl rfl rfl rfl
  have along := (runFor_keeps (fun _ ready h => WellFormed.step h ready) budget start).2
  rw [← final] at failed ⊢
  exact ⟨last, ends, (along last (List.mem_of_getLast? ends)).blames_step ready failed⟩

/-- A well formed processor has no error of no kind. -/
theorem WellFormed.error?_ne_other (h : s.WellFormed) (text : String) :
    s.error? ≠ some (.other text) := by
  intro failed
  obtain ⟨fault, faulted, same⟩ := Option.map_eq_some_iff.mp failed
  cases fault with
  | unrecognized code => exact h.recognized code faulted
  | _ => cases same

end Cpu

/-! ## Machines -/

namespace Machine

/-- **The record of a fault names its cause.** After any script, no tick fails with an error of no
kind. A tick that starts on a runnable processor and fails either refuses its budget, which leaves
the machine as it was, or ends in an error that blames the program counter or the word that the last
step of the tick fetched. -/
theorem tick_failure_explained (config : Config) (script : List Action) :
    let m := (start config).after script
    (∀ text, m.tick.failure ≠ some (.execution (.other text))) ∧
    (m.cpu.fault = none → m.cpu.waiting = false → ∀ failure, m.tick.failure = some failure →
      (failure = .budgetTooWide config.budget ∧ isInt32 config.budget = false ∧
        m.tick.machine = m) ∨
      ∃ error last, failure = .execution error ∧
        (m.cpu.tickTrail config.budget).getLast? = some last ∧
        (m.tick.machine.cpu.BlamesPc error ∨ m.tick.machine.cpu.BlamesWord last error)) := by
  intro m
  have wellFormed : m.cpu.WellFormed := wellFormed_after config script
  have configured : m.config = config := config_after (start config) script
  clear_value m
  subst configured
  constructor
  · intro text failed
    rw [failure_tick] at failed
    split_ifs at failed
    · obtain ⟨error, found, same⟩ := Option.map_eq_some_iff.mp failed
      cases same
      exact (wellFormed.tick m.config.budget).error?_ne_other text found
    · cases failed
  · intro unfaulted running failure failed
    have runnable := Cpu.isRunnable_iff.mpr ⟨running, unfaulted⟩
    rw [failure_tick, running, if_neg Bool.false_ne_true] at failed
    rw [machine_tick]
    by_cases narrow : isInt32 m.config.budget = true
    · rw [if_pos narrow] at failed
      rw [if_pos narrow]
      obtain ⟨error, found, same⟩ := Option.map_eq_some_iff.mp failed
      obtain ⟨last, ends, blames⟩ := wellFormed.blames_tick runnable found
      exact .inr ⟨error, last, same.symm, ends, blames⟩
    · rw [if_neg narrow] at failed
      rw [if_neg narrow]
      cases failed
      exact .inl ⟨rfl, Bool.eq_false_iff.mpr narrow, rfl⟩

/-- In strict mode a program of one defined word and nothing after it ends with the word past it. -/
theorem unknown_opcode_explained :
    let m := (start { Config.standard with strict := true }).after [.load [0x00, 0xE0]]
    m.cpu.fault = none ∧ m.cpu.waiting = false ∧
      m.tick.failure = some (.execution (.unknownOpcode 0)) ∧
      ∃ last, m.tick.machine.cpu.BlamesWord last (.unknownOpcode 0) := by
  have explained := tick_failure_explained { Config.standard with strict := true }
    [.load [0x00, 0xE0]]
  dsimp only at explained ⊢
  -- The machine is kept folded: only the kernel computes with it.
  generalize built : (start { Config.standard with strict := true }).after [.load [0x00, 0xE0]] = m
    at explained ⊢
  have unfaulted : m.cpu.fault = none := by rw [← built]; decide +kernel
  have running : m.cpu.waiting = false := by rw [← built]; decide +kernel
  have failed : m.tick.failure = some (.execution (.unknownOpcode 0)) := by
    rw [← built]
    decide +kernel
  refine ⟨unfaulted, running, failed, ?_⟩
  rcases explained.2 unfaulted running _ failed with ⟨wide, _, _⟩ | ⟨error, last, same, _, blames⟩
  · cases wide
  · cases same
    rcases blames with blames | blames
    · cases blames.error_eq
    · exact ⟨last, blames⟩

/-- A tick whose budget is refused fails on a runnable processor, but there is nothing to blame. -/
theorem wide_budget_unexplained :
    let m := (start
      { Config.standard with budget := 2147483648, budget_pos := by decide, strict := true }).after []
    m.cpu.fault = none ∧ m.cpu.waiting = false ∧
      m.tick.failure = some (.budgetTooWide 2147483648) ∧
      ¬∃ error last, m.tick.failure = some (.execution error) ∧
        (m.tick.machine.cpu.BlamesPc error ∨ m.tick.machine.cpu.BlamesWord last error) := by
  intro m
  have failed : m.tick.failure = some (.budgetTooWide 2147483648) := by decide +kernel
  refine ⟨rfl, rfl, failed, ?_⟩
  rintro ⟨error, last, raised, _⟩
  cases failed.symm.trans raised

end Machine

end Chip8
