import Chip8.Machine
import Chip8.Proofs.Run

/-!
# What an action does

How each action changes the processor of a machine (`Machine.actsTo_perform`), and what it does to
the rest: no action touches the configuration, and only a reset draws a new random key.
-/

namespace Chip8

/-- Whether an action moves the program counter by hand. An address that is refused moves
nothing. -/
def Action.movesPc : Action → Bool
  | .setPc address => (narrow? address).isSome
  | _ => false

/-! ## Input -/

namespace Cpu

variable {s : Cpu} {f : Cpu → Cpu}

/-- Loading a program commutes with a change that leaves the memory to it. -/
theorem load_map (writes : ∀ memory, f { s with memory := memory } = { f s with memory := memory })
    (program : List Int) : (f s).load program = (s.load program).map f := by
  have same_memory : (f s).memory = s.memory :=
    (congrArg memory (writes s.memory)).trans rfl
  unfold load loadBytes
  cases programBytes? program with
  | none => rfl
  | some bytes =>
    dsimp only
    split
    · rfl
    · rw [same_memory, ← writes]
      rfl

end Cpu

namespace Machine

/-! ## Ticks -/

/-- A tick in full: it does nothing while waiting, a budget that is too wide is refused, and what a
run left behind is settled. -/
theorem tick_eq (m : Machine) :
    m.tick =
      if m.cpu.waiting then m.succeed []
      else if isInt32 m.config.budget then m.settle (m.cpu.tick m.config.budget)
      else m.fail (.budgetTooWide m.config.budget) := by
  by_cases narrow : isInt32 m.config.budget = true
  · have done : m.cpu.checkedTick m.config.budget = .ok (m.cpu.tick m.config.budget) := by
      rw [Cpu.checkedTick, if_pos narrow, Int.toNat_natCast]
    rw [tick, done, if_pos narrow]
  · have refused : m.cpu.checkedTick m.config.budget = .error (.budgetTooWide m.config.budget) := by
      rw [Cpu.checkedTick, if_neg narrow]
    rw [tick, refused, if_neg narrow]

theorem machine_settle (m : Machine) (cpu : Cpu) : (m.settle cpu).machine = { m with cpu := cpu } := by
  unfold settle
  dsimp only
  split <;> rfl

/-- What a tick leaves behind settles as a failure exactly when it carries a fault. -/
theorem failure_settle (m : Machine) (cpu : Cpu) :
    (m.settle cpu).failure = cpu.error?.map .execution := by
  unfold settle
  dsimp only
  split <;> rename_i found <;> rw [found] <;> rfl

/-- The machine after a tick. A waiting processor does not tick, so the wait needs no case. -/
theorem machine_tick (m : Machine) :
    m.tick.machine =
      { m with cpu := if isInt32 m.config.budget then m.cpu.tick m.config.budget else m.cpu } := by
  rw [tick_eq]
  split
  · rename_i waiting
    rw [Cpu.tick_of_not_runnable _ (Cpu.isRunnable_of_waiting waiting), ite_self]
    rfl
  · split
    · exact machine_settle m _
    · rfl

/-- How a tick fails: by the budget, or by the fault that it leaves behind. -/
theorem failure_tick (m : Machine) :
    m.tick.failure =
      if m.cpu.waiting then none
      else if isInt32 m.config.budget then (m.cpu.tick m.config.budget).error?.map .execution
      else some (.budgetTooWide m.config.budget) := by
  rw [tick_eq]
  split
  · rfl
  · split
    · exact failure_settle ..
    · rfl

/-! ## Every action -/

/-- What an action leaves in place of the processor. -/
inductive ActsTo (m : Machine) : Action → Cpu → Prop
  /-- A refused call changes nothing. Only a program, a key or an address can be refused, or a
  budget. -/
  | refused {action : Action} (kept : action ≠ .reset) (still : action.movesPc = false) :
      ActsTo m action m.cpu
  | loaded (program : List Int) (bytes : List UInt8) (found : programBytes? program = some bytes)
      (fits : bytes.length ≤ Memory.programCapacity) :
      ActsTo m (.load program)
        { m.cpu with memory := m.cpu.memory.write Memory.programStart bytes }
  | ticked : ActsTo m .tick (m.cpu.tick m.config.budget)
  | keyed (number : Int) (isDown : Bool) (key : Key) (found : Key.ofInt? number = some key) :
      ActsTo m (.setKey number isDown) (m.cpu.keyEvent key isDown)
  | restarted : ActsTo m .reset (Cpu.create m.seedKey.spare m.config.font m.config.strict)
  | moved (address : Int) (pc : UInt16) (found : narrow? address = some pc) :
      ActsTo m (.setPc address) { m.cpu with pc := pc }

/-- **Every action acts in one of these ways.** -/
theorem actsTo_perform (m : Machine) (action : Action) :
    m.ActsTo action (m.perform action).machine.cpu := by
  cases action with
  | load program =>
    simp only [perform, load, Cpu.load, Cpu.loadBytes]
    cases found : programBytes? program with
    | none => exact .refused (by simp) rfl
    | some bytes =>
      by_cases tooLong : Memory.programCapacity < bytes.length
      · simp only [if_pos tooLong]
        exact .refused (by simp) rfl
      · simp only [if_neg tooLong]
        exact .loaded program bytes found (Nat.le_of_not_lt tooLong)
  | tick =>
    simp only [perform, machine_tick]
    cases isInt32 m.config.budget with
    | true => exact .ticked
    | false => exact .refused (by simp) rfl
  | setKey number isDown =>
    simp only [perform, setKey, Cpu.setKey]
    cases found : Key.ofInt? number with
    | none => exact .refused (by simp) rfl
    | some key => exact .keyed number isDown key found
  | reset => exact .restarted
  | setPc address =>
    simp only [perform, setPc]
    cases found : narrow? address with
    | none => exact .refused (by simp) (by rw [Action.movesPc, found]; rfl)
    | some pc => exact .moved address pc found

/-- No action touches the configuration. -/
@[simp]
theorem config_perform (m : Machine) (action : Action) :
    (m.perform action).machine.config = m.config := by
  cases action with
  | load program => simp only [perform, load]; split <;> rfl
  | tick => rw [perform, machine_tick]
  | setKey number isDown => simp only [perform, setKey]; split <;> rfl
  | reset => rfl
  | setPc address => simp only [perform, setPc]; split <;> rfl

/-- Only a reset draws a new key. -/
theorem seedKey_perform (m : Machine) (action : Action) :
    (m.perform action).machine.seedKey = if action = .reset then m.seedKey.next else m.seedKey := by
  cases action with
  | load program => simp only [perform, load]; split <;> rfl
  | tick => rw [perform, machine_tick]; rfl
  | setKey number isDown => simp only [perform, setKey]; split <;> rfl
  | reset => rfl
  | setPc address => simp only [perform, setPc]; split <;> rfl

end Machine

end Chip8
