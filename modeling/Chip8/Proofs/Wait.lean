import Chip8.Proofs.Invariant
import Chip8.Proofs.Sticky
import Chip8.Proofs.Tick

/-!
# Waiting for a key

A machine that waits for a key does so until a reset or a press: no tick, no program, no release and
no move of the program counter ends the wait, and no instruction is executed (`Machine.idle`). The
first press puts its key into the register that the instruction named, and no later one changes a
register before the next such instruction (`Machine.wait_for_key`). That the register exists is the
invariant's part.
-/

namespace Chip8

namespace Action

/-- Whether an action presses a key that there is. -/
def isPress : Action → Bool
  | .setKey number isDown => isDown && (Key.ofInt? number).isSome
  | _ => false

/-- What an action does to the program counter of a machine that runs no instructions. -/
def onPc (pc : UInt16) : Action → UInt16
  | .setPc address => (narrow? address).getD pc
  | _ => pc

end Action

namespace Cpu

variable {s : Cpu} {x : Register}

/-! ## Steps and ticks -/

/-- What the instruction that waits for a key does, whatever keys are down. -/
theorem step_of_awaitKey (waits : s.nextInstruction? = some (.awaitKey x)) :
    s.step = { s with pc := s.pc + 2, waiting := true, keyRegister := UInt8.ofNat x.val } := by
  have allowed : (Instruction.awaitKey x).fault? s.fetch.2 = none := rfl
  exact step_of_nextInstruction? waits allowed

/-- No other step touches the wait. -/
theorem waiting_step (others : ∀ x, s.nextInstruction? ≠ some (.awaitKey x)) :
    s.step.waiting = s.waiting := by
  have next := s.stepsTo_step
  generalize s.step = t at next ⊢
  cases next with
  | performed i inside selected allowed =>
    rw [Instruction.effect_waiting]
    cases i with
    | awaitKey x => exact absurd (nextInstruction?_eq_some_iff.mpr ⟨inside, selected⟩) (others x)
    | _ => rfl
  | _ => rfl

theorem waiting_tick (budget : Nat) (running : s.waiting = false)
    (others : ∀ t ∈ s.tickTrail budget, ∀ x, t.nextInstruction? ≠ some (.awaitKey x)) :
    (s.tick budget).waiting = false := by
  have last : (runFor budget { s with drawn := false }).waiting = false := by
    refine runFor_keeps_along (P := fun t => t.waiting = false) budget running ?_
    intro t member still
    exact (waiting_step (others t member)).trans still
  unfold tick
  dsimp only
  split
  · split <;> exact last
  · exact running

/-- A tick that executes a wait ends with it, and the timers are counted. -/
theorem tick_of_awaitKey {budget : Nat} {t : Cpu} (member : t ∈ s.tickTrail budget)
    (waits : t.nextInstruction? = some (.awaitKey x)) :
    s.tick budget =
      countDown { t with pc := t.pc + 2, waiting := true, keyRegister := UInt8.ofNat x.val } := by
  have runnable : s.isRunnable = true := by
    by_contra stuck
    rw [tickTrail_of_not_runnable budget (Bool.eq_false_iff.mpr stuck)] at member
    exact absurd member List.not_mem_nil
  have last := runFor_of_mem_trail member (not_runnable_step_of_awaitKey waits)
  obtain ⟨_, unfaulted⟩ := isRunnable_iff.mp (isRunnable_of_mem_trail member)
  rw [step_of_awaitKey waits] at last
  rw [tick, if_pos runnable, last]
  dsimp only
  rw [unfaulted]
  rfl

/-! ## Keys -/

theorem awaitedRegister?_eq_some_iff {byte : UInt8} :
    s.awaitedRegister? = some byte ↔ s.waiting = true ∧ s.keyRegister = byte := by
  simp only [awaitedRegister?, Option.ite_none_right_eq_some, Option.some.injEq]

theorem awaitedRegister?_eq_none_iff : s.awaitedRegister? = none ↔ s.waiting = false := by
  simp only [awaitedRegister?, ite_eq_right_iff, reduceCtorEq, imp_false, Bool.not_eq_true]

/-- The register that a processor waits for is one that there is. -/
theorem WellFormed.exists_awaitedRegister (h : s.WellFormed) (waiting : s.waiting = true) :
    ∃ r : Register, s.awaitedRegister? = some (UInt8.ofNat r.val) := by
  have below : s.keyRegister.toNat < 16 := Nat.lt_succ_of_le h.keyRegister_le
  refine ⟨⟨s.keyRegister.toNat, below⟩, ?_⟩
  exact awaitedRegister?_eq_some_iff.mpr ⟨waiting, UInt8.ofNat_toNat.symm⟩

theorem toNat_keyRegister {r : Register}
    (awaits : s.awaitedRegister? = some (UInt8.ofNat r.val)) : s.keyRegister.toNat = r.val := by
  rw [(awaitedRegister?_eq_some_iff.mp awaits).2]
  exact UInt8.toNat_ofNat_of_lt' (Nat.lt_of_lt_of_le r.isLt (by decide))

theorem awaitedRegister?_inj {r x : Register}
    (awaits : s.awaitedRegister? = some (UInt8.ofNat r.val))
    (also : s.awaitedRegister? = some (UInt8.ofNat x.val)) : r = x :=
  Fin.ext ((toNat_keyRegister awaits).symm.trans (toNat_keyRegister also))

/-- A press puts the key into the awaited register and ends the wait. -/
theorem keyEvent_press {r : Register} (awaits : s.awaitedRegister? = some (UInt8.ofNat r.val))
    (key : Key) :
    s.keyEvent key true =
      { s.setRegister r (UInt8.ofNat key.val) with
        keypad := s.keypad.set key true, waiting := false } := by
  obtain ⟨waiting, _⟩ := awaitedRegister?_eq_some_iff.mp awaits
  have index := toNat_keyRegister awaits
  have same : s.registers.setIfInBounds s.keyRegister.toNat (UInt8.ofNat key.val) =
      s.registers.set r (UInt8.ofNat key.val) := by
    apply Vector.ext
    intro i inside
    rw [Vector.getElem_setIfInBounds, Vector.getElem_set, index]
  unfold keyEvent
  rw [waiting, same]
  rfl

end Cpu

/-! ## Machines -/

namespace Machine

variable {m : Machine} {r : Register}

/-- What actions other than presses and resets make of a machine that waits. -/
def idle (m : Machine) (script : List Action) : Machine :=
  { m with cpu :=
    { m.cpu with
      keypad := script.foldl Action.onKeypad m.cpu.keypad
      memory := script.foldl Action.onMemory m.cpu.memory
      pc := script.foldl Action.onPc m.cpu.pc } }

theorem idle_cons (m : Machine) (action : Action) (rest : List Action) :
    m.idle (action :: rest) = (m.idle [action]).idle rest := rfl

/-- Moving the program counter reaches nothing else, whatever state the machine is in. -/
theorem machine_setPc (m : Machine) (address : Int) :
    (m.setPc address).machine = m.idle [.setPc address] := by
  unfold setPc idle
  simp only [List.foldl_cons, List.foldl_nil, Action.onKeypad, Action.onMemory, Action.onPc]
  cases narrow? address <;> rfl

theorem awaitedRegister?_idle (m : Machine) (script : List Action) :
    (m.idle script).cpu.awaitedRegister? = m.cpu.awaitedRegister? := rfl

theorem fault_idle (m : Machine) (script : List Action) :
    (m.idle script).cpu.fault = m.cpu.fault := rfl

theorem tick_of_waiting (waiting : m.cpu.waiting = true) : m.tick = ⟨m, [], none⟩ := by
  rw [tick_eq, if_pos waiting]
  rfl

theorem trail_of_waiting (waiting : m.cpu.waiting = true) (action : Action) :
    m.trail action = [] := by
  cases action with
  | tick =>
    unfold trail
    dsimp only
    rw [Cpu.tickTrail_of_not_runnable _ (Cpu.isRunnable_of_waiting waiting), ite_self]
  | _ => rfl

/-- **Without a press or a reset, all but keypad, memory and program counter of a waiting machine is
left alone.** -/
theorem perform_of_waiting (waiting : m.cpu.waiting = true) {action : Action}
    (kept : action ≠ .reset) (released : action.isPress = false) :
    (m.perform action).machine = m.idle [action] := by
  cases action with
  | load program => exact machine_load m program
  | tick => rw [perform, tick_of_waiting waiting]; rfl
  | setKey number isDown =>
    unfold perform idle
    simp only [List.foldl_cons, List.foldl_nil, Action.onKeypad, Action.onMemory, Action.onPc]
    cases known : Key.ofInt? number with
    | none => rw [m.setKey_of_none known]
    | some key =>
      have is_up : isDown = false := by
        rw [Action.isPress, known, Option.isSome_some, Bool.and_true] at released
        exact released
      rw [(m.setKey_of_some known isDown).1, is_up]
      rfl
  | reset => exact absurd rfl kept
  | setPc address => exact machine_setPc m address

/-- A wait outlasts every script without a press or a reset. -/
theorem after_of_waiting (waiting : m.cpu.waiting = true) {script : List Action}
    (calm : ∀ action ∈ script, action ≠ .reset ∧ action.isPress = false) :
    m.after script = m.idle script ∧ m.trailOf script = [] := by
  induction script generalizing m with
  | nil => exact ⟨rfl, rfl⟩
  | cons action rest ih =>
    obtain ⟨⟨kept, released⟩, later⟩ := List.forall_mem_cons.mp calm
    have next := perform_of_waiting waiting kept released
    have still : (m.perform action).machine.cpu.waiting = true := by
      rw [next]
      exact waiting
    obtain ⟨last, nothing⟩ := ih still later
    constructor
    · calc m.after (action :: rest)
          = (m.perform action).machine.after rest := rfl
        _ = (m.perform action).machine.idle rest := last
        _ = m.idle (action :: rest) := by rw [next, ← idle_cons]
    · rw [trailOf, trail_of_waiting waiting, nothing]
      rfl

/-- A press ends the wait of a machine at once. -/
theorem perform_press (unfaulted : m.cpu.fault = none)
    (awaits : m.cpu.awaitedRegister? = some (UInt8.ofNat r.val)) {number : Int} {key : Key}
    (known : Key.ofInt? number = some key) :
    (m.perform (.setKey number true)).failure = none ∧
    (m.perform (.setKey number true)).machine =
      { m with cpu :=
        { m.cpu.setRegister r (UInt8.ofNat key.val) with
          keypad := m.cpu.keypad.set key true, waiting := false } } ∧
    (m.perform (.setKey number true)).machine.cpu.isRunnable = true := by
  obtain ⟨same, succeeds⟩ := m.setKey_of_some known true
  rw [Cpu.keyEvent_press awaits] at same
  have resumed : (m.perform (.setKey number true)).machine = _ := same
  refine ⟨succeeds, resumed, ?_⟩
  rw [resumed]
  exact Cpu.isRunnable_iff.mpr ⟨rfl, unfaulted⟩

/-! ## After the wait -/

theorem waiting_perform (running : m.cpu.waiting = false) {action : Action}
    (others : ∀ t ∈ m.trail action, ∀ x, t.nextInstruction? ≠ some (.awaitKey x)) :
    (m.perform action).machine.cpu.waiting = false := by
  cases action with
  | tick =>
    unfold trail at others
    dsimp only at others
    rw [perform, machine_tick]
    by_cases narrow : isInt32 m.config.budget = true
    · rw [if_pos narrow] at others ⊢
      exact Cpu.waiting_tick _ running others
    · rw [if_neg narrow]
      exact running
  | load program =>
    rw [perform, machine_load]
    exact running
  | setKey number isDown =>
    rw [perform]
    cases known : Key.ofInt? number with
    | none =>
      rw [m.setKey_of_none known]
      exact running
    | some key =>
      rw [(m.setKey_of_some known isDown).1, Cpu.keyEvent_of_running running]
      exact running
  | reset => rfl
  | setPc address =>
    unfold perform setPc
    dsimp only
    cases narrow? address <;> exact running

theorem waiting_after (running : m.cpu.waiting = false) {script : List Action}
    (others : ∀ t ∈ m.trailOf script, ∀ x, t.nextInstruction? ≠ some (.awaitKey x)) :
    (m.after script).cpu.waiting = false := by
  induction script generalizing m with
  | nil => exact running
  | cons action rest ih =>
    rw [trailOf, List.forall_mem_append] at others
    exact ih (waiting_perform running others.1) others.2

theorem registers_setKey (running : m.cpu.waiting = false) (number : Int) (isDown : Bool) :
    (m.perform (.setKey number isDown)).machine.cpu.registers = m.cpu.registers := by
  rw [perform]
  cases known : Key.ofInt? number with
  | none => rw [m.setKey_of_none known]
  | some key => rw [(m.setKey_of_some known isDown).1, Cpu.keyEvent_of_running running]

theorem tick_of_awaitKey {t : Cpu} {x : Register} (member : t ∈ m.trail .tick)
    (waits : t.nextInstruction? = some (.awaitKey x)) :
    m.tick.failure = none ∧
    m.tick.machine =
      { m with
        cpu := (Cpu.countDown
          { t with pc := t.pc + 2, waiting := true, keyRegister := UInt8.ofNat x.val }) } := by
  unfold trail at member
  dsimp only at member
  by_cases narrow : isInt32 m.config.budget = true
  · rw [if_pos narrow] at member
    have last := Cpu.tick_of_awaitKey member waits
    obtain ⟨_, unfaulted⟩ := Cpu.isRunnable_iff.mp (Cpu.isRunnable_of_mem_trail member)
    have unfaulted_last : (m.cpu.tick m.config.budget).fault = none := by
      rw [last]
      exact unfaulted
    constructor
    · rw [failure_tick, if_pos narrow, Cpu.error?_of_unfaulted unfaulted_last]
      exact ite_self none
    · rw [machine_tick, if_pos narrow, last]
  · rw [if_neg narrow] at member
    exact absurd member List.not_mem_nil

/-- **The wait for a key.** A machine that waits does so for a register that there is. However it
is treated without a press or a reset, it stays in the wait for that register: only key releases,
programs and moves of the program counter leave a trace, no instruction is executed, and a tick
changes and reports nothing. The first press ends the wait in the same call and puts the key into
the register; from then on no key event changes a register until an instruction waits again. When an
instruction waits, the tick ends, and no key that is already down ends the wait. A key that there is
not is refused and changes nothing. -/
theorem wait_for_key (config : Config) (script : List Action) :
    let m := (start config).after script
    (m.cpu.waiting = true → ∃ r : Register, m.cpu.awaitedRegister? = some (UInt8.ofNat r.val)) ∧
    (∀ r : Register, m.cpu.awaitedRegister? = some (UInt8.ofNat r.val) →
      ∀ tail : List Action, (∀ action ∈ tail, action ≠ .reset ∧ action.isPress = false) →
        let later := m.after tail
        later = m.idle tail ∧
        later.cpu.awaitedRegister? = some (UInt8.ofNat r.val) ∧
        m.trailOf tail = [] ∧
        later.tick = ⟨later, [], none⟩ ∧
        ∀ number key, Key.ofInt? number = some key →
          let resumed := (later.perform (.setKey number true)).machine
          (later.perform (.setKey number true)).failure = none ∧
          resumed =
            { later with cpu :=
              { later.cpu.setRegister r (UInt8.ofNat key.val) with
                keypad := later.cpu.keypad.set key true, waiting := false } } ∧
          resumed.cpu.isRunnable = true ∧
          ∀ rest : List Action,
            (∀ t ∈ resumed.trailOf rest, ∀ x, t.nextInstruction? ≠ some (.awaitKey x)) →
            ∀ other isDown,
              ((resumed.after rest).perform (.setKey other isDown)).machine.cpu.registers =
                (resumed.after rest).cpu.registers) ∧
    (∀ t ∈ m.trail .tick, ∀ x : Register, t.nextInstruction? = some (.awaitKey x) →
      m.tick.failure = none ∧
      m.tick.machine.cpu =
        Cpu.countDown
          { t with pc := t.pc + 2, waiting := true, keyRegister := UInt8.ofNat x.val }) ∧
    ∀ number isDown, number < 0 ∨ 16 ≤ number →
      m.perform (.setKey number isDown) = ⟨m, [], some (.keyOutOfRange number)⟩ := by
  intro m
  have wellFormed : m.cpu.WellFormed := wellFormed_after config script
  clear_value m
  refine ⟨?_, ?_, ?_, ?_⟩
  · intro waiting
    exact wellFormed.exists_awaitedRegister waiting
  · intro r awaits tail calm later
    obtain ⟨waiting, _⟩ := Cpu.awaitedRegister?_eq_some_iff.mp awaits
    obtain ⟨idle, nothing⟩ := after_of_waiting waiting calm
    have still : later.cpu.awaitedRegister? = some (UInt8.ofNat r.val) := by
      show (m.after tail).cpu.awaitedRegister? = _
      rw [idle, awaitedRegister?_idle, awaits]
    have unfaulted : later.cpu.fault = none := by
      show (m.after tail).cpu.fault = none
      rw [idle, fault_idle, wellFormed.not_both waiting]
    have later_waiting := (Cpu.awaitedRegister?_eq_some_iff.mp still).1
    refine ⟨idle, still, nothing, tick_of_waiting later_waiting, ?_⟩
    intro number key known resumed
    obtain ⟨succeeds, same, runnable⟩ := perform_press unfaulted still known
    refine ⟨succeeds, same, runnable, ?_⟩
    intro rest others other isDown
    -- After the press only an instruction can start a wait, and without one no key counts.
    have running : resumed.cpu.waiting = false := (Cpu.isRunnable_iff.mp runnable).1
    exact registers_setKey (waiting_after running others) other isDown
  · intro t member x waits
    obtain ⟨succeeds, same⟩ := tick_of_awaitKey member waits
    exact ⟨succeeds, congrArg Machine.cpu same⟩
  · intro number isDown outside
    exact m.setKey_of_none (Key.ofInt?_eq_none_iff.mpr outside) isDown

/-- A key that is held while the wait is executed does not end it, nor do its release, a tick, a key
that there is not, a move of the program counter and a program. The next press does. -/
theorem wait_for_key_while_held :
    let m := (start .standard).after [.setKey 9 true, .load [0xF3, 0x0A], .tick]
    let tail := [.setKey 9 false, .tick, .setKey 16 true, .setPc 0x300, .load [0x00, 0xE0]]
    m.cpu.keypad.isDown 9 = true ∧
      m.cpu.awaitedRegister? = some (UInt8.ofNat (3 : Register).val) ∧
      (∀ action ∈ tail, action ≠ .reset ∧ action.isPress = false) ∧
      ((m.after tail).perform (.setKey 7 true)).machine.cpu.registers.get 3 = 7 := by
  intro m tail
  have held : m.cpu.keypad.isDown 9 = true := by decide +kernel
  have awaits : m.cpu.awaitedRegister? = some (UInt8.ofNat (3 : Register).val) := by
    decide +kernel
  have calm : ∀ action ∈ tail, action ≠ .reset ∧ action.isPress = false := by decide
  have known : Key.ofInt? 7 = some 7 := by decide
  obtain ⟨_, _, _, _, press⟩ := (wait_for_key .standard _).2.1 3 awaits tail calm
  obtain ⟨_, resumed, _⟩ := press 7 7 known
  refine ⟨held, awaits, calm, ?_⟩
  rw [resumed]
  exact Vector.getElem_set_self ..

end Machine

end Chip8
