import Chip8.Proofs.Invariant

/-!
# Strict and lenient mode

The mode is asked for in one place: when an undefined word is executed. So a lenient copy of a
processor (`Cpu.lenient`) takes the same steps as the strict one until that one records an unknown
opcode, and up to there whole machines cannot be told apart either (`Machine.lenient_agrees`).
-/

namespace Chip8

namespace Cpu

variable (s : Cpu)

/-- The same processor in lenient mode. -/
def lenient : Cpu := { s with strict := false }

/-- Whether the next step executes an undefined word. -/
def FetchesUndefined : Prop :=
  s.pc.toNat < Memory.size ∧ Instruction.ofWord? s.nextWord.toNat = none

/-! ## Instructions -/

theorem holds_lenient (c : Condition) : c.holds s.lenient = c.holds s :=
  c.holds_congr rfl rfl

theorem instruction_fault?_lenient (i : Instruction) : i.fault? s.lenient = i.fault? s :=
  i.fault?_congr rfl rfl

theorem effect_lenient (bus : UInt8) (i : Instruction) :
    i.effect bus s.lenient = (i.effect bus s).lenient := by
  cases i with
  | skipIf c =>
    simp only [Instruction.effect, holds_lenient]
    split <;> rfl
  | _ => simp only [Instruction.effect, setRegister, lenient]

/-! ## Steps -/

variable {s}

/-- An undefined word is recorded in strict mode and passed over in lenient mode. -/
theorem step_of_undefined (undefined : s.FetchesUndefined) :
    s.step = if s.strict then s.fetch.2.halt .unknownOpcode s.nextWord.toNat else s.fetch.2 := by
  obtain ⟨inside, undefined⟩ := undefined
  have strict : s.fetch.2.strict = s.strict := rfl
  rw [step, if_neg (Nat.not_le_of_lt inside), execute, executeOn, fault?, effect, undefined]
  simp only [strict]
  cases s.strict <;> rfl

/-- **A step that records no unknown opcode does not look at the mode.** -/
theorem step_lenient (quiet : s.step.fault ≠ some .unknownOpcode) :
    s.lenient.step = s.step.lenient := by
  by_cases undefined : s.FetchesUndefined
  · have lenient_undefined : s.lenient.FetchesUndefined := undefined
    rw [step_of_undefined undefined] at quiet ⊢
    rw [step_of_undefined lenient_undefined]
    cases strict : s.strict with
    | false => rfl
    | true => rw [strict] at quiet; exact absurd rfl quiet
  · have same_pc : s.lenient.pc = s.pc := rfl
    have same_word : s.lenient.nextWord = s.nextWord := rfl
    have same_fetch : s.lenient.fetch.2 = s.fetch.2.lenient := rfl
    unfold step
    rw [same_pc, same_word, same_fetch]
    by_cases past : Memory.size ≤ s.pc.toNat
    · rw [if_pos past, if_pos past]
      rfl
    · rw [if_neg past, if_neg past]
      unfold execute executeOn fault? effect
      cases selected : Instruction.ofWord? s.nextWord.toNat with
      | none => exact absurd ⟨Nat.lt_of_not_le past, selected⟩ undefined
      | some i =>
        dsimp only
        rw [instruction_fault?_lenient]
        cases i.fault? s.fetch.2 with
        | none => exact effect_lenient ..
        | some fault => rfl

/-- An unknown opcode is recorded for an undefined word only. -/
theorem undefined_of_unknown (unfaulted : s.fault = none)
    (unknown : s.step.fault = some .unknownOpcode) : s.FetchesUndefined := by
  have next := s.stepsTo_step
  generalize s.step = t at next unknown
  cases next with
  | outOfRange past => cases unknown
  | halted fault inside cause =>
    cases unknown
    rcases fault?_eq_some_iff.mp cause with ⟨undefined, _, _⟩ | ⟨i, _, found⟩
    · exact ⟨inside, undefined⟩
    · rcases Instruction.fault?_eq_some_iff.mp found with
        ⟨_, _, same⟩ | ⟨_, _, _, same⟩ | ⟨_, _, _, same⟩ <;> cases same
  | ignored inside undefined lenient => exact ⟨inside, undefined⟩
  | performed i inside selected allowed =>
    rw [Instruction.effect_fault] at unknown
    exact nomatch unfaulted.symm.trans unknown

/-- The step that records an unknown opcode is the lenient step with a record. -/
theorem step_of_unknown (unfaulted : s.fault = none)
    (unknown : s.step.fault = some .unknownOpcode) :
    s.lenient.step =
      { s.step with fault := none, faultWord := s.faultWord, strict := false } := by
  have undefined := undefined_of_unknown unfaulted unknown
  have lenient_undefined : s.lenient.FetchesUndefined := undefined
  rw [step_of_undefined undefined, step_of_undefined lenient_undefined, ← unfaulted]
  cases s.strict <;> rfl

/-- A step that records nothing leaves the recorded word alone. -/
theorem faultWord_step (unfaulted : s.step.fault = none) : s.step.faultWord = s.faultWord := by
  have next := s.stepsTo_step
  generalize s.step = t at next unfaulted ⊢
  cases next with
  | outOfRange past => rfl
  | halted fault inside cause => cases unfaulted
  | ignored inside undefined lenient => rfl
  | performed i inside selected allowed => exact Instruction.effect_faultWord ..

/-! ## Runs and ticks -/

/-- A run that does not end in an unknown opcode is the same in both modes. -/
theorem runFor_lenient : ∀ (budget : Nat) {s : Cpu},
    (runFor budget s).fault ≠ some .unknownOpcode →
    runFor budget s.lenient = (runFor budget s).lenient
  | 0, _, _ => rfl
  | budget + 1, s, quiet => by
    have same : s.lenient.isRunnable = s.isRunnable := rfl
    cases runnable : s.isRunnable with
    | false =>
      rw [runFor_of_not_runnable _ runnable, runFor_of_not_runnable _ (same.trans runnable)]
    | true =>
      rw [runFor_succ _ runnable] at quiet ⊢
      rw [runFor_succ _ (same.trans runnable)]
      have quiet_step : s.step.fault ≠ some .unknownOpcode := by
        -- A record stops the run at once, so the run would end with it.
        intro unknown
        rw [runFor_of_not_runnable _ (isRunnable_of_fault unknown)] at quiet
        exact quiet unknown
      rw [step_lenient quiet_step]
      exact runFor_lenient budget quiet

/-- **A run that ends in an unknown opcode is the lenient run with a record**: the lenient run takes
at least as many steps, and after that many it differs in the record and in the mode only. -/
theorem runFor_of_unknown : ∀ (budget : Nat) {s : Cpu}, s.fault = none →
    (runFor budget s).fault = some .unknownOpcode →
    (trail budget s).length ≤ (trail budget s.lenient).length ∧
      step^[(trail budget s).length] s.lenient =
        { runFor budget s with fault := none, faultWord := s.faultWord, strict := false }
  | 0, s, unfaulted, unknown => by
    rw [runFor, unfaulted] at unknown
    cases unknown
  | budget + 1, s, unfaulted, unknown => by
    have same : s.lenient.isRunnable = s.isRunnable := rfl
    cases runnable : s.isRunnable with
    | false =>
      rw [runFor_of_not_runnable _ runnable, unfaulted] at unknown
      cases unknown
    | true =>
      rw [runFor_succ _ runnable] at unknown ⊢
      rw [trail_succ _ runnable, trail_succ _ (same.trans runnable)]
      simp only [List.length_cons, Function.iterate_succ_apply, Nat.add_le_add_iff_right]
      cases next : s.step.fault with
      | none =>
        have quiet_step : s.step.fault ≠ some .unknownOpcode := by
          rw [next]
          exact (Option.some_ne_none _).symm
        rw [step_lenient quiet_step, ← faultWord_step next]
        exact runFor_of_unknown budget next unknown
      | some fault =>
        have stuck := isRunnable_of_fault next
        rw [runFor_of_not_runnable _ stuck] at unknown ⊢
        rw [trail_of_not_runnable _ stuck]
        exact ⟨Nat.zero_le _, step_of_unknown unfaulted unknown⟩

/-- A tick that does not end in an unknown opcode is the same in both modes. -/
theorem tick_lenient {budget : Nat} (quiet : (s.tick budget).fault ≠ some .unknownOpcode) :
    s.lenient.tick budget = (s.tick budget).lenient := by
  have same : s.lenient.isRunnable = s.isRunnable := rfl
  cases runnable : s.isRunnable with
  | false =>
    rw [tick_of_not_runnable _ runnable, tick_of_not_runnable _ (same.trans runnable)]
  | true =>
    have start : { s.lenient with drawn := false } = lenient { s with drawn := false } := rfl
    have quiet_run : (runFor budget { s with drawn := false }).fault ≠ some .unknownOpcode := by
      rw [← fault_tick budget runnable]
      exact quiet
    have same_run := runFor_lenient budget quiet_run
    have same_fault : (s.lenient.tick budget).fault = (s.tick budget).fault := by
      rw [fault_tick budget runnable, fault_tick budget (same.trans runnable), start, same_run]
      rfl
    cases record : (s.tick budget).fault with
    | none =>
      rw [tick_of_unfaulted runnable record,
        tick_of_unfaulted (same.trans runnable) (same_fault.trans record), start, same_run]
      rfl
    | some fault =>
      rw [tick_of_fault runnable record,
        tick_of_fault (same.trans runnable) (same_fault.trans record), start, same_run]

/-- The error of an unknown opcode names the recorded word. -/
theorem error?_of_unknown (unknown : s.fault = some .unknownOpcode) :
    s.error? = some (.unknownOpcode s.faultWord.toNat) := by
  rw [error?, unknown]
  rfl

theorem error?_lenient : s.lenient.error? = s.error? := rfl

theorem load_lenient (program : List Int) :
    s.lenient.load program = (s.load program).map lenient :=
  load_map (fun _ => rfl) program

theorem keyEvent_lenient (key : Key) (isDown : Bool) :
    s.lenient.keyEvent key isDown = (s.keyEvent key isDown).lenient := by
  have same : s.lenient.waiting = s.waiting := rfl
  unfold keyEvent
  rw [same]
  dsimp only
  split <;> rfl

end Cpu

/-! ## Machines -/

/-- The same settings in lenient mode. -/
def Config.lenient (config : Config) : Config := { config with strict := false }

namespace Machine

/-- The same machine in lenient mode. -/
def lenient (m : Machine) : Machine := ⟨m.config.lenient, m.seedKey, m.cpu.lenient⟩

variable {m : Machine}

theorem tick_lenient
    (quiet : ∀ opcode, m.tick.failure ≠ some (.execution (.unknownOpcode opcode))) :
    m.lenient.tick.machine = m.tick.machine.lenient ∧ m.lenient.tick.failure = m.tick.failure := by
  have same_budget : m.lenient.config.budget = m.config.budget := rfl
  have same_waiting : m.lenient.cpu.waiting = m.cpu.waiting := rfl
  have same_cpu : m.lenient.cpu = m.cpu.lenient := rfl
  rw [failure_tick] at quiet
  rw [tick_eq, tick_eq, same_budget, same_waiting, same_cpu]
  split
  · exact ⟨rfl, rfl⟩
  · rename_i running
    rw [if_neg running] at quiet
    split
    · rename_i narrow
      rw [if_pos narrow] at quiet
      have quiet_tick : (m.cpu.tick m.config.budget).fault ≠ some .unknownOpcode := by
        intro unknown
        rw [Cpu.error?_of_unknown unknown] at quiet
        exact quiet _ rfl
      rw [machine_settle, machine_settle, failure_settle, failure_settle,
        Cpu.tick_lenient quiet_tick, Cpu.error?_lenient]
      exact ⟨rfl, rfl⟩
    · exact ⟨rfl, rfl⟩

/-- **An action that raises no unknown opcode does the same in both modes.** -/
theorem perform_lenient {action : Action}
    (quiet : ∀ opcode, (m.perform action).failure ≠ some (.execution (.unknownOpcode opcode))) :
    (m.lenient.perform action).machine = (m.perform action).machine.lenient ∧
      (m.lenient.perform action).failure = (m.perform action).failure := by
  have same_cpu : m.lenient.cpu = m.cpu.lenient := rfl
  cases action with
  | load program =>
    simp only [perform, load, same_cpu, Cpu.load_lenient]
    cases m.cpu.load program with
    | error failure => exact ⟨rfl, rfl⟩
    | ok cpu => exact ⟨rfl, rfl⟩
  | tick =>
    simp only [perform] at quiet ⊢
    exact tick_lenient quiet
  | setKey number isDown =>
    simp only [perform, setKey, Cpu.setKey, same_cpu]
    cases Key.ofInt? number with
    | none => exact ⟨rfl, rfl⟩
    | some key =>
      simp only [Cpu.keyEvent_lenient]
      exact ⟨rfl, rfl⟩
  | reset => exact ⟨rfl, rfl⟩
  | setPc address =>
    simp only [perform, setPc]
    cases narrow? address with
    | none => exact ⟨rfl, rfl⟩
    | some pc => exact ⟨rfl, rfl⟩

/-- A whole script in both modes. -/
theorem after_lenient : ∀ {m : Machine} {script : List Action},
    (∀ opcode, some (.execution (.unknownOpcode opcode)) ∉ m.failures script) →
    m.lenient.after script = (m.after script).lenient ∧
      m.lenient.failures script = m.failures script
  | _, [], _ => ⟨rfl, rfl⟩
  | m, action :: rest, quiet => by
    simp only [failures, List.mem_cons, not_or] at quiet ⊢
    obtain ⟨same, same_failure⟩ :=
      perform_lenient (m := m) fun opcode failed => (quiet opcode).1 failed.symm
    obtain ⟨last, same_rest⟩ :=
      after_lenient (m := (m.perform action).machine) fun opcode => (quiet opcode).2
    rw [same_failure, same, same_rest]
    refine ⟨?_, rfl⟩
    calc m.lenient.after (action :: rest)
        = (m.lenient.perform action).machine.after rest := rfl
      _ = (m.perform action).machine.lenient.after rest := by rw [same]
      _ = (m.after (action :: rest)).lenient := last

/-- The settings and the key of the next reset do not depend on the mode, whatever was raised. -/
theorem seedKey_after_lenient (config : Config) (script : List Action) :
    ((start config.lenient).after script).seedKey = ((start config).after script).seedKey := by
  induction script using List.reverseRecOn with
  | nil => rfl
  | append_singleton script action ih =>
    rw [after_concat, after_concat, seedKey_perform, seedKey_perform, ih]

/-- At the start and right after a reset the modes differ in the mode only. -/
theorem after_fresh_lenient (config : Config) {before : List Action}
    (fresh : before = [] ∨ before.getLast? = some .reset) :
    (start config.lenient).after before = ((start config).after before).lenient := by
  rcases fresh with rfl | fresh
  · rfl
  · obtain ⟨earlier, rfl⟩ := List.getLast?_eq_some_iff.mp fresh
    have same := seedKey_after_lenient config earlier
    have configured := config_after (start config) earlier
    have lenient_configured := config_after (start config.lenient) earlier
    rw [after_concat, after_concat]
    simp only [perform, reset, succeed, boot, lenient, same, configured, lenient_configured]
    rfl

/-- **Strict and lenient machines cannot be told apart up to the first undefined opcode.**
A script is cut at a reset, or at the start. While the strict machine raises no unknown opcode from
there on, the two states differ in the mode only and all failures are the same. And in a tick that
ends in an unknown opcode after some number of steps, the lenient copy takes at least as many, and
after that many it is in the same state but for the record. -/
theorem lenient_agrees (config : Config) :
    (∀ before stretch : List Action, before = [] ∨ before.getLast? = some .reset →
      (∀ opcode, some (.execution (.unknownOpcode opcode)) ∉
        ((start config).after before).failures stretch) →
      ((start config.lenient).after (before ++ stretch)).cpu =
          { ((start config).after (before ++ stretch)).cpu with strict := false } ∧
        ((start config.lenient).after before).failures stretch =
          ((start config).after before).failures stretch) ∧
    ∀ (s : Cpu) (budget : Nat), s.waiting = false → s.fault = none →
      (s.tick budget).fault = some .unknownOpcode →
      (s.tickTrail budget).length ≤ (s.lenient.tickTrail budget).length ∧
        Cpu.step^[(s.tickTrail budget).length] { s.lenient with drawn := false } =
          { s.tick budget with fault := s.fault, faultWord := s.faultWord, strict := false } := by
  constructor
  · intro before stretch fresh quiet
    have same := after_fresh_lenient config fresh
    obtain ⟨last, same_failures⟩ := after_lenient quiet
    rw [after_append, after_append, same, last]
    exact ⟨rfl, same_failures⟩
  · intro s budget running unfaulted unknown
    have runnable := Cpu.isRunnable_iff.mpr ⟨running, unfaulted⟩
    have run_unknown := (Cpu.fault_tick budget runnable).symm.trans unknown
    obtain ⟨most, agrees⟩ :=
      Cpu.runFor_of_unknown budget (s := { s with drawn := false }) unfaulted run_unknown
    refine ⟨most, agrees.trans ?_⟩
    rw [Cpu.tick_of_fault runnable unknown, unfaulted]

/-- A stretch after an unknown opcode and a reset in which three calls fail alike in both modes, and
a tick that clears the screen before it meets an undefined word in its second step. -/
theorem lenient_agrees_after_reset :
    let config := { Config.standard with strict := true }
    let stretch := [.setPc 0x1000, .tick, .load [256], .setKey 16 true]
    let s := { Cpu.create ⟨0, 0⟩ [0x00, 0xE0] true with pc := 0 }
    ((start config).after [.tick, .reset]).failures stretch =
        [none, some (.execution (.pcOutOfRange 0x1000)), some .notBytes, some (.keyOutOfRange 16)] ∧
      ((start config.lenient).after [.tick, .reset]).failures stretch =
        ((start config).after [.tick, .reset]).failures stretch ∧
      (s.tick 10).fault = some .unknownOpcode ∧ (s.tickTrail 10).length = 2 ∧
      Cpu.step^[(s.tickTrail 10).length] { s.lenient with drawn := false } =
        { s.tick 10 with fault := none, faultWord := 0, strict := false } := by
  intro config stretch s
  have failures : ((start config).after [.tick, .reset]).failures stretch =
      [none, some (.execution (.pcOutOfRange 0x1000)), some .notBytes, some (.keyOutOfRange 16)] := by
    decide +kernel
  have unknown : (s.tick 10).fault = some .unknownOpcode := by decide +kernel
  have second : (s.tickTrail 10).length = 2 := by decide +kernel
  obtain ⟨scripts, ticks⟩ := lenient_agrees config
  refine ⟨failures, (scripts [.tick, .reset] stretch (.inr rfl) fun opcode raised => ?_).2, unknown,
    second, (ticks s 10 rfl rfl unknown).2⟩
  rw [failures] at raised
  simp at raised

end Machine

end Chip8
