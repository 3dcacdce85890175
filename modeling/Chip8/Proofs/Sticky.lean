import Chip8.Proofs.Effect
import Chip8.Proofs.Script

/-!
# Faults are sticky

A tick that ends in an error leaves a machine that no tick, program or key event can bring back
(`Machine.Halted`): until a reset or a move of the program counter, only key events reach the keypad
and only programs reach memory, and every tick fails as the first one did (`Session.fault_sticky`).
-/

namespace Chip8

namespace Action

/-- Whether an action is a tick, a program or a key event. -/
def isCalm : Action → Bool
  | .reset => false
  | .setPc _ => false
  | _ => true

/-- What an action other than a reset does to the keypad. -/
def onKeypad (keypad : Keypad) : Action → Keypad
  | .setKey number isDown =>
    match Key.ofInt? number with
    | none => keypad
    | some key => keypad.set key isDown
  | _ => keypad

/-- What an action does to the memory of a machine that has halted or waits. -/
def onMemory (memory : Memory) : Action → Memory
  | .load program =>
    match programBytes? program with
    | none => memory
    | some bytes =>
      if Memory.programCapacity < bytes.length then memory
      else memory.write Memory.programStart bytes
  | _ => memory

/-- No program reaches below its start. -/
theorem getElem?_onMemory (memory : Memory) (action : Action) {i : Nat}
    (below : i < Memory.programStart) :
    (action.onMemory memory).bytes[i]? = memory.bytes[i]? := by
  have inside : i < 4096 := Nat.lt_trans below (by decide)
  cases action with
  | load program =>
    unfold onMemory
    dsimp only
    split
    · rfl
    · split
      · rfl
      · rw [Vector.getElem?_eq_getElem inside, Vector.getElem?_eq_getElem inside,
          Memory.getElem_write _ _ _ inside, if_neg (Nat.not_le_of_lt below)]
  | _ => rfl

theorem getElem?_foldl_onMemory (memory : Memory) (script : List Action) {i : Nat}
    (below : i < Memory.programStart) :
    (script.foldl onMemory memory).bytes[i]? = memory.bytes[i]? := by
  induction script generalizing memory with
  | nil => rfl
  | cons action rest ih => rw [List.foldl_cons, ih, getElem?_onMemory memory action below]

end Action

namespace Cpu

variable {s : Cpu}

/-- A step that records a fault starts no wait. -/
theorem waiting_step_of_fault (runnable : s.isRunnable = true) {fault : Fault}
    (faulted : s.step.fault = some fault) : s.step.waiting = false := by
  obtain ⟨running, unfaulted⟩ := isRunnable_iff.mp runnable
  have next := s.stepsTo_step
  generalize s.step = t at next faulted ⊢
  cases next with
  | outOfRange past => exact running
  | halted fault inside cause => exact running
  | ignored inside undefined lenient => exact running
  | performed i inside selected allowed =>
    rw [Instruction.effect_fault] at faulted
    exact nomatch unfaulted.symm.trans faulted

/-- A tick that ends in a fault does not end in a wait. -/
theorem waiting_tick_of_fault (running : s.waiting = false) {budget : Nat} {fault : Fault}
    (faulted : (s.tick budget).fault = some fault) : (s.tick budget).waiting = false := by
  cases runnable : s.isRunnable with
  | false => rw [tick_of_not_runnable budget runnable, running]
  | true =>
    obtain ⟨last, _, ready, final⟩ := getLast?_tickTrail runnable faulted
    rw [← final] at faulted ⊢
    exact waiting_step_of_fault ready faulted

/-- Without a wait a key event reaches the keypad only. -/
theorem keyEvent_of_running (running : s.waiting = false) (key : Key) (isDown : Bool) :
    s.keyEvent key isDown = { s with keypad := s.keypad.set key isDown } := by
  unfold keyEvent
  rw [running, Bool.and_false]
  rfl

end Cpu

/-! ## Machines that have halted -/

namespace Machine

/-- Loading reaches the memory only, whatever state the machine is in. -/
theorem machine_load (m : Machine) (program : List Int) :
    (m.load program).machine =
      { m with cpu :=
        { m.cpu with memory := (Action.load program).onMemory m.cpu.memory } } := by
  simp only [load, Cpu.load, Cpu.loadBytes, Action.onMemory]
  cases programBytes? program with
  | none => rfl
  | some bytes =>
    by_cases tooLong : Memory.programCapacity < bytes.length
    · simp only [if_pos tooLong]
      rfl
    · simp only [if_neg tooLong]
      rfl

theorem setKey_of_none (m : Machine) {number : Int} (unknown : Key.ofInt? number = none)
    (isDown : Bool) : m.setKey number isDown = ⟨m, [], some (.keyOutOfRange number)⟩ := by
  rw [setKey, Cpu.setKey, unknown]
  rfl

theorem setKey_of_some (m : Machine) {number : Int} {key : Key} (known : Key.ofInt? number = some key)
    (isDown : Bool) :
    (m.setKey number isDown).machine = { m with cpu := m.cpu.keyEvent key isDown } ∧
      (m.setKey number isDown).failure = none := by
  rw [setKey, Cpu.setKey, known]
  exact ⟨rfl, rfl⟩

/-- A machine whose program has ended in an error. -/
structure Halted (m : Machine) (error : ExecutionError) : Prop where
  narrow : isInt32 m.config.budget = true
  running : m.cpu.waiting = false
  failed : m.cpu.error? = some error

variable {m : Machine} {error : ExecutionError}

/-- A tick that raises an error leaves a machine that has halted. -/
theorem halted_of_failure_tick (raised : m.tick.failure = some (.execution error)) :
    m.tick.machine.Halted error := by
  rw [failure_tick] at raised
  split_ifs at raised with waiting narrow
  · have running := Bool.eq_false_iff.mpr waiting
    obtain ⟨_, found, same⟩ := Option.map_eq_some_iff.mp raised
    cases same
    obtain ⟨fault, faulted⟩ := Cpu.exists_fault_of_error? found
    rw [machine_tick, if_pos narrow]
    exact ⟨narrow, Cpu.waiting_tick_of_fault running faulted, found⟩
  · cases raised

namespace Halted

/-- **A calm action leaves all but keypad and memory of a halted machine alone.** -/
theorem machine_perform (h : m.Halted error) {action : Action} (calm : action.isCalm = true) :
    (m.perform action).machine =
      { m with cpu :=
        { m.cpu with
          keypad := action.onKeypad m.cpu.keypad
          memory := action.onMemory m.cpu.memory } } := by
  cases action with
  | load program => exact machine_load m program
  | tick =>
    obtain ⟨fault, faulted⟩ := Cpu.exists_fault_of_error? h.failed
    simp only [perform, machine_tick]
    rw [Cpu.tick_of_not_runnable _ (Cpu.isRunnable_of_fault faulted), ite_self]
    rfl
  | setKey number isDown =>
    unfold perform Action.onKeypad Action.onMemory
    dsimp only
    cases known : Key.ofInt? number with
    | none => rw [m.setKey_of_none known]
    | some key => rw [(m.setKey_of_some known isDown).1, Cpu.keyEvent_of_running h.running]
  | reset => cases calm
  | setPc address => cases calm

/-- So it is still halted afterwards, and for the same reason. -/
theorem halted_perform (h : m.Halted error) {action : Action} (calm : action.isCalm = true) :
    (m.perform action).machine.Halted error := by
  rw [h.machine_perform calm]
  exact ⟨h.narrow, h.running, h.failed⟩

/-- A tick of a halted machine raises the error again and reports nothing. -/
theorem tick_eq (h : m.Halted error) : m.tick = ⟨m, [], some (.execution error)⟩ := by
  obtain ⟨fault, faulted⟩ := Cpu.exists_fault_of_error? h.failed
  have still : m.cpu.tick m.config.budget = m.cpu :=
    Cpu.tick_of_not_runnable _ (Cpu.isRunnable_of_fault faulted)
  rw [Machine.tick_eq, h.running, if_neg Bool.false_ne_true, if_pos h.narrow, still, settle]
  dsimp only
  rw [h.failed, faulted]
  rfl

/-- No calm action of a halted machine reports a halt. -/
theorem not_isHalt (h : m.Halted error) {action : Action} (calm : action.isCalm = true) :
    ∀ event ∈ (m.perform action).events, event.isHalt = false := by
  cases action with
  | load program =>
    simp only [perform, load]
    cases m.cpu.load program with
    | error failure => exact List.forall_mem_nil _
    | ok cpu => exact List.forall_mem_singleton.mpr rfl
  | tick =>
    rw [perform, h.tick_eq]
    exact List.forall_mem_nil _
  | setKey number isDown =>
    simp only [perform, setKey]
    cases m.cpu.setKey number isDown with
    | error failure => exact List.forall_mem_nil _
    | ok cpu =>
      simp only [h.running, Bool.false_and]
      exact List.forall_mem_nil _
  | reset => cases calm
  | setPc address => cases calm

end Halted

end Machine

/-! ## Journals and sessions -/

/-- A journal counts the halts among the events it records. -/
theorem Log.Journal.halts_recordAll (journal : Journal) (events : List Event) :
    (journal.recordAll events).2.halts = journal.halts + events.countP Event.isHalt := by
  induction events generalizing journal with
  | nil => rfl
  | cons event rest ih =>
    rw [recordAll]
    dsimp only
    rw [ih, record]
    dsimp only
    rw [List.countP_cons]
    split <;> omega

namespace Session

variable {s : Session} {error : ExecutionError}

/-- A tick of a session whose machine has halted prints nothing and raises the error again. -/
theorem reply_tick_of_halted (h : s.machine.Halted error) :
    (s.perform .tick).2 = ⟨[], some (.execution error)⟩ := by
  have again : s.machine.perform .tick = ⟨s.machine, [], some (.execution error)⟩ := h.tick_eq
  rw [perform, again]
  rfl

/-- **What calm actions do to a session whose machine has halted.** -/
theorem after_of_halted (h : s.machine.Halted error) {tail : List Action}
    (calm : ∀ action ∈ tail, action.isCalm = true) :
    (s.after tail).machine.Halted error ∧
    (s.after tail).journal.halts = s.journal.halts ∧
    (s.after tail).machine =
      { s.machine with cpu :=
        { s.machine.cpu with
          keypad := tail.foldl Action.onKeypad s.machine.cpu.keypad
          memory := tail.foldl Action.onMemory s.machine.cpu.memory } } := by
  induction tail generalizing s with
  | nil => exact ⟨h, rfl, rfl⟩
  | cons action rest ih =>
    obtain ⟨now, later⟩ := List.forall_mem_cons.mp calm
    have next : (s.perform action).1.machine = (s.machine.perform action).machine := rfl
    have same_halts : (s.perform action).1.journal.halts = s.journal.halts := by
      have silent : (s.machine.perform action).events.countP Log.Event.isHalt = 0 :=
        List.countP_eq_zero.mpr fun event member =>
          Bool.eq_false_iff.mp (h.not_isHalt now event member)
      have counted := s.journal.halts_recordAll (s.machine.perform action).events
      rw [silent, Nat.add_zero] at counted
      exact counted
    have halted : (s.perform action).1.machine.Halted error := h.halted_perform now
    obtain ⟨last, halts, frozen⟩ := ih halted later
    refine ⟨last, halts.trans same_halts, frozen.trans ?_⟩
    rw [next, h.machine_perform now]
    rfl

/-- **Faults are sticky.** Once a tick has raised an error, after any ticks, programs and key events
the next tick raises the same error and prints nothing, no such action reports another halt or has
one counted, and the machine is the one the first error left but for the keys and the bytes that the
actions themselves wrote. None of those bytes lies below 0x200. -/
theorem fault_sticky (raised : (s.perform .tick).2.failure = some (.execution error))
    {tail : List Action} (calm : ∀ action ∈ tail, action.isCalm = true) :
    let halted := (s.perform .tick).1
    let later := halted.after tail
    (later.perform .tick).2 = ⟨[], some (.execution error)⟩ ∧
    (∀ action, action.isCalm = true →
      ∀ event ∈ (later.machine.perform action).events, event.isHalt = false) ∧
    later.journal.halts = halted.journal.halts ∧
    later.machine =
      { halted.machine with cpu :=
        { halted.machine.cpu with
          keypad := tail.foldl Action.onKeypad halted.machine.cpu.keypad
          memory := tail.foldl Action.onMemory halted.machine.cpu.memory } } ∧
    ∀ address < 0x200,
      later.machine.cpu.memory.bytes[address]? = halted.machine.cpu.memory.bytes[address]? := by
  intro halted later
  have stopped : halted.machine.Halted error := Machine.halted_of_failure_tick raised
  obtain ⟨still, halts, frozen⟩ := after_of_halted stopped calm
  refine ⟨reply_tick_of_halted still, fun action calm => still.not_isHalt calm, halts, frozen,
    fun address below => ?_⟩
  rw [frozen]
  exact Action.getElem?_foldl_onMemory _ tail below

/-- A key event, a program that would run, a tick and a key that there is none of do not bring a
machine back. -/
theorem unknown_opcode_sticky :
    let s : Session :=
      ⟨Machine.start { Config.standard with strict := true },
        .ofLogger ⟨"chip8vm", .warning, false, false, 0, .still⟩⟩
    let tail := [.setKey 3 true, .load [0x12, 0x00], .tick, .setKey 99 true]
    (s.perform .tick).2.failure = some (.execution (.unknownOpcode 0)) ∧
      (∀ action ∈ tail, action.isCalm = true) ∧
      (((s.perform .tick).1.after tail).perform .tick).2 =
        ⟨[], some (.execution (.unknownOpcode 0))⟩ := by
  intro s tail
  have raised : (s.perform .tick).2.failure = some (.execution (.unknownOpcode 0)) := by
    decide +kernel
  have calm : ∀ action ∈ tail, action.isCalm = true := by decide
  exact ⟨raised, calm, (fault_sticky raised calm).1⟩

end Session

end Chip8
