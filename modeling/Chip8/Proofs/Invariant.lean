import Chip8.Proofs.CallStack
import Chip8.Proofs.Effect
import Chip8.Proofs.Script

/-!
# The states that a machine can reach

A processor is well formed (`Cpu.WellFormed`) when its stack holds return addresses below a pointer
in range and zeros above, the awaited register exists, and the record of a fault is one that an
instruction can leave. Creation gives a well formed processor, and every step, input and action keeps
it so. Return addresses and the program counter bound each other: a call pushes a counter that has
just passed a word in memory, and a return takes it back.

The bound on the program counter (`Cpu.pcLimit`) is lost when a driver moves it by hand, and is there
again after a reset.
-/

namespace Chip8

/-- An address that a fetch can leave in the program counter. -/
def IsReturnAddress (address : UInt16) : Prop := 0x0002 ≤ address.toNat ∧ address.toNat ≤ 0x1001

namespace Cpu

/-- The highest address that a program can move the program counter to: the highest target of a jump
plus the highest register. -/
def pcLimit : Nat := 0x10FE

/-- What holds of a processor whatever has been done to it. -/
structure WellFormed (s : Cpu) : Prop where
  clean : s.stack.Clean
  live : s.stack.Live IsReturnAddress
  keyRegister_le : s.keyRegister.toNat ≤ 15
  recognized : ∀ code, s.fault ≠ some (.unrecognized code)
  not_both : s.waiting = true → s.fault = none
  unknown_strict : s.fault = some .unknownOpcode → s.strict = true
  no_word : s.fault = none ∨ s.fault = some .pcOutOfRange → s.faultWord = 0

variable {s t : Cpu}

/-- The invariant looks at six fields only. -/
theorem WellFormed.congr (h : s.WellFormed) (stack : t.stack = s.stack)
    (keyRegister : t.keyRegister = s.keyRegister) (waiting : t.waiting = s.waiting)
    (fault : t.fault = s.fault) (faultWord : t.faultWord = s.faultWord)
    (strict : t.strict = s.strict) : t.WellFormed where
  clean := stack ▸ h.clean
  live := stack ▸ h.live
  keyRegister_le := keyRegister ▸ h.keyRegister_le
  recognized := fault ▸ h.recognized
  not_both := by rw [waiting, fault]; exact h.not_both
  unknown_strict := by rw [fault, strict]; exact h.unknown_strict
  no_word := by rw [fault, faultWord]; exact h.no_word

theorem wellFormed_create (random : Random.Key) (font : List UInt8) (strict : Bool) :
    (create random font strict).WellFormed where
  clean := CallStack.clean_empty
  live := CallStack.live_empty
  keyRegister_le := Nat.zero_le _
  recognized := fun _ h => nomatch h
  not_both := fun _ => rfl
  unknown_strict := fun h => nomatch h
  no_word := fun _ => rfl

theorem create_pc_le (random : Random.Key) (font : List UInt8) (strict : Bool) :
    (create random font strict).pc.toNat ≤ pcLimit := by
  change (UInt16.ofNat Memory.programStart).toNat ≤ pcLimit
  decide

/-! ## Steps -/

theorem WellFormed.fetch (h : s.WellFormed) : s.fetch.2.WellFormed :=
  h.congr rfl rfl rfl rfl rfl rfl

theorem toNat_fetch_pc (inside : s.pc.toNat < Memory.size) :
    s.fetch.2.pc.toNat = s.pc.toNat + 2 := by
  simp only [Memory.size] at inside
  simp only [fetch, UInt16.toNat_add]
  change (s.pc.toNat + 2) % 2 ^ 16 = s.pc.toNat + 2
  omega

theorem isReturnAddress_fetch_pc (inside : s.pc.toNat < Memory.size) :
    IsReturnAddress s.fetch.2.pc := by
  have passed := toNat_fetch_pc inside
  simp only [Memory.size] at inside
  constructor <;> omega

/-- The effect of an instruction that is no fault, executed after a fetch. -/
theorem WellFormed.effect (h : s.WellFormed) {i : Instruction} (bus : UInt8)
    (unfaulted : s.fault = none) (fetched : IsReturnAddress s.pc) (allowed : i.fault? s = none) :
    (i.effect bus s).WellFormed := by
  cases i with
  | ret =>
    have live := Instruction.live_of_ret allowed
    exact { h with clean := h.clean.pop live, live := h.live.pop live }
  | call target =>
    have room := Instruction.room_of_call allowed
    exact { h with clean := h.clean.push _ room, live := h.live.push fetched room }
  | awaitKey x =>
    have exists_register : (UInt8.ofNat x.val).toNat ≤ 15 := by
      rw [UInt8.toNat_ofNat_of_lt' (Nat.lt_of_lt_of_le x.isLt (by decide))]
      omega
    exact { h with keyRegister_le := exists_register, not_both := fun _ => unfaulted }
  | _ =>
    exact h.congr (Instruction.effect_stack ..) (Instruction.effect_keyRegister ..)
      (Instruction.effect_waiting ..) (Instruction.effect_fault ..)
      (Instruction.effect_faultWord ..) (Instruction.effect_strict ..)

/-- A fault that a word records is one of the four, with the word beside it. -/
theorem WellFormed.halt (h : s.WellFormed) (running : s.waiting = false) {fault : Fault} {w : Int}
    (cause : s.fault? w = some fault) : (s.halt fault w).WellFormed where
  clean := h.clean
  live := h.live
  keyRegister_le := h.keyRegister_le
  recognized := by
    rintro code record
    cases record
    rcases fault?_cases cause with ⟨same, _⟩ | same | same | same <;> cases same
  not_both := fun waiting => by
    change s.waiting = true at waiting
    rw [running] at waiting
    cases waiting
  unknown_strict := by
    rintro record
    cases record
    rcases fault?_cases cause with ⟨_, strict⟩ | same | same | same
    · exact strict
    all_goals cases same
  no_word := by
    rintro (record | record)
    · cases record
    · cases record
      rcases fault?_cases cause with ⟨same, _⟩ | same | same | same <;> cases same

/-- **A step keeps a processor well formed.** -/
theorem WellFormed.step (h : s.WellFormed) (runnable : s.isRunnable = true) :
    s.step.WellFormed := by
  obtain ⟨running, unfaulted⟩ := isRunnable_iff.mp runnable
  have next := s.stepsTo_step
  generalize s.step = t at next ⊢
  cases next with
  | outOfRange past =>
    exact
      { clean := h.clean
        live := h.live
        keyRegister_le := h.keyRegister_le
        recognized := fun _ record => nomatch record
        not_both := fun waiting => by rw [running] at waiting; cases waiting
        unknown_strict := fun record => nomatch record
        no_word := fun _ => h.no_word (.inl unfaulted) }
  | halted fault inside cause => exact h.fetch.halt running cause
  | ignored inside undefined lenient => exact h.fetch
  | performed i inside selected allowed =>
    exact h.fetch.effect _ unfaulted (isReturnAddress_fetch_pc inside) allowed

/-! ## The program counter -/

theorem toNat_jump (target : Address) : (UInt16.ofNat target.val).toNat = target.val :=
  UInt16.toNat_ofNat_of_lt' (Nat.lt_of_lt_of_le target.isLt (by decide))

/-- A jump plus a register does not wrap. -/
theorem toNat_jumpFrom (target : Address) (byte : UInt8) :
    (UInt16.ofNat target.val + byte.toUInt16).toNat = target.val + byte.toNat := by
  have bound := byte.toNat_lt
  rw [UInt16.toNat_add, toNat_jump, UInt8.toNat_toUInt16]
  omega

/-- A skip after a fetch does not wrap. -/
theorem toNat_skip {pc : UInt16} (fetched : IsReturnAddress pc) : (pc + 2).toNat = pc.toNat + 2 := by
  obtain ⟨_, bound⟩ := fetched
  rw [UInt16.toNat_add]
  change (pc.toNat + 2) % 2 ^ 16 = pc.toNat + 2
  omega

/-- The program counter after a step over a skip, taken or not. -/
theorem toNat_step_skip (inside : s.pc.toNat < Memory.size) {c : Condition}
    (selected : Instruction.ofWord? s.nextWord.toNat = some (.skipIf c)) :
    s.step.pc.toNat = s.pc.toNat + if c.holds s.fetch.2 then 4 else 2 := by
  have passed := toNat_fetch_pc inside
  have skipped := toNat_skip (isReturnAddress_fetch_pc inside)
  have next := s.stepsTo_step
  generalize s.step = t at next ⊢
  cases next with
  | outOfRange past => exact absurd inside (Nat.not_lt_of_le past)
  | halted fault _ cause =>
    simp only [fault?, selected, Instruction.fault?, Instruction.reach?, Option.bind_none,
      reduceCtorEq] at cause
  | ignored _ undefined lenient =>
    rw [selected] at undefined
    cases undefined
  | performed i _ chosen allowed =>
    rw [selected] at chosen
    cases chosen
    rw [Instruction.effect_pc]
    dsimp only
    split <;> omega

/-- No instruction moves the program counter past the limit: a return lands on a return address. -/
theorem WellFormed.effect_pc_le (h : s.WellFormed) {i : Instruction} (bus : UInt8)
    (fetched : IsReturnAddress s.pc) (allowed : i.fault? s = none) :
    (i.effect bus s).pc.toNat ≤ pcLimit := by
  have bound : s.pc.toNat ≤ 0x1001 := fetched.2
  rw [Instruction.effect_pc]
  unfold pcLimit
  cases i with
  | ret =>
    have live := Instruction.live_of_ret allowed
    have back : s.stack.pop.1.toNat ≤ 0x1001 := (h.live.pop_fst live h.clean.1).2
    dsimp only
    omega
  | jump target => rw [toNat_jump]; omega
  | call target => rw [toNat_jump]; omega
  | jumpFrom target =>
    have byte := (s.registers.get 0).toNat_lt
    rw [toNat_jumpFrom]
    omega
  | skipIf c =>
    have taken := toNat_skip fetched
    dsimp only
    split <;> omega
  | _ => dsimp only; omega

/-- **A step keeps the program counter within its limit.** Past the end of memory it stays where it
is. -/
theorem WellFormed.step_pc_le (h : s.WellFormed) (bound : s.pc.toNat ≤ pcLimit) :
    s.step.pc.toNat ≤ pcLimit := by
  have next := s.stepsTo_step
  generalize s.step = t at next ⊢
  cases next with
  | outOfRange past => exact bound
  | halted fault inside cause =>
    have passed := (isReturnAddress_fetch_pc inside).2
    exact Nat.le_trans passed (by decide)
  | ignored inside undefined lenient =>
    have passed := (isReturnAddress_fetch_pc inside).2
    exact Nat.le_trans passed (by decide)
  | performed i inside selected allowed =>
    exact h.fetch.effect_pc_le _ (isReturnAddress_fetch_pc inside) allowed

/-! ## Ticks and input -/

theorem WellFormed.tick (h : s.WellFormed) (budget : Nat) : (s.tick budget).WellFormed :=
  tick_keeps (fun _ h => h.congr rfl rfl rfl rfl rfl rfl) (fun _ h => h.congr rfl rfl rfl rfl rfl rfl)
    (fun _ runnable h => h.step runnable) budget h

theorem WellFormed.tick_pc_le (h : s.WellFormed) (bound : s.pc.toNat ≤ pcLimit) (budget : Nat) :
    (s.tick budget).pc.toNat ≤ pcLimit :=
  (tick_keeps (P := fun t => t.WellFormed ∧ t.pc.toNat ≤ pcLimit)
    (fun _ h => ⟨h.1.congr rfl rfl rfl rfl rfl rfl, h.2⟩)
    (fun _ h => ⟨h.1.congr rfl rfl rfl rfl rfl rfl, h.2⟩)
    (fun _ runnable h => ⟨h.1.step runnable, h.1.step_pc_le h.2⟩) budget ⟨h, bound⟩).2

theorem WellFormed.keyEvent (h : s.WellFormed) (key : Key) (isDown : Bool) :
    (s.keyEvent key isDown).WellFormed := by
  unfold Cpu.keyEvent
  dsimp only
  split
  · exact { h with not_both := fun waiting => nomatch waiting }
  · exact h.congr rfl rfl rfl rfl rfl rfl

theorem keyEvent_pc (key : Key) (isDown : Bool) : (s.keyEvent key isDown).pc = s.pc := by
  unfold Cpu.keyEvent
  dsimp only
  split <;> rfl

theorem keyEvent_fault (key : Key) (isDown : Bool) : (s.keyEvent key isDown).fault = s.fault := by
  unfold Cpu.keyEvent
  dsimp only
  split <;> rfl

theorem keyEvent_strict (key : Key) (isDown : Bool) :
    (s.keyEvent key isDown).strict = s.strict := by
  unfold Cpu.keyEvent
  dsimp only
  split <;> rfl

theorem strict_tick (budget : Nat) : (s.tick budget).strict = s.strict :=
  tick_keeps (P := fun t => t.strict = s.strict) (fun _ h => h) (fun _ h => h)
    (fun t _ h => (strict_step t).trans h) budget rfl

/-- A well formed record has one of six codes. -/
theorem WellFormed.code_le (h : s.WellFormed) : (Fault.codeOf s.fault).toNat ≤ 5 := by
  cases record : s.fault with
  | none => decide
  | some fault =>
    cases fault with
    | unrecognized code => exact absurd record (h.recognized code)
    | _ => decide

end Cpu

/-! ## Machines -/

namespace Machine

theorem wellFormed_perform {m : Machine} (h : m.cpu.WellFormed) (action : Action) :
    (m.perform action).machine.cpu.WellFormed := by
  have next := m.actsTo_perform action
  generalize (m.perform action).machine.cpu = t at next ⊢
  cases next with
  | refused kept still => exact h
  | loaded program bytes found fits => exact h.congr rfl rfl rfl rfl rfl rfl
  | ticked => exact h.tick _
  | keyed number isDown key found => exact h.keyEvent key isDown
  | restarted => exact Cpu.wellFormed_create ..
  | moved address pc found => exact h.congr rfl rfl rfl rfl rfl rfl

theorem wellFormed_after (config : Config) (script : List Action) :
    ((start config).after script).cpu.WellFormed :=
  after_keeps (P := fun m => m.cpu.WellFormed) (fun _ action h => wellFormed_perform h action)
    (Cpu.wellFormed_create ..) script

/-- Every action leaves the processor in the mode of the configuration. -/
theorem strict_perform {m : Machine} (same : m.cpu.strict = m.config.strict) (action : Action) :
    (m.perform action).machine.cpu.strict = (m.perform action).machine.config.strict := by
  rw [config_perform]
  have next := m.actsTo_perform action
  generalize (m.perform action).machine.cpu = t at next ⊢
  cases next with
  | ticked => exact (Cpu.strict_tick _).trans same
  | keyed number isDown key found => exact (Cpu.keyEvent_strict key isDown).trans same
  | restarted => rfl
  | _ => exact same

theorem strict_after (config : Config) (script : List Action) :
    ((start config).after script).cpu.strict = config.strict := by
  have same := after_keeps (P := fun m => m.cpu.strict = m.config.strict)
    (fun _ action same => strict_perform same action) (m := start config) rfl script
  rw [same, config_after]
  rfl

/-- The bound on the program counter, for as long as no driver has moved it since the latest
reset. -/
theorem pc_le_after (config : Config) (script : List Action)
    (unmoved : ∀ action ∈ sinceReset script, action.movesPc = false) :
    ((start config).after script).cpu.pc.toNat ≤ Cpu.pcLimit := by
  induction script using List.reverseRecOn with
  | nil => exact Cpu.create_pc_le ..
  | append_singleton script action ih =>
    rw [after_concat]
    rw [sinceReset_concat] at unmoved
    have next := ((start config).after script).actsTo_perform action
    generalize (((start config).after script).perform action).machine.cpu = t at next ⊢
    by_cases reset : action = .reset
    · subst reset
      cases next with
      | refused kept still => exact absurd rfl kept
      | restarted => exact Cpu.create_pc_le ..
    · rw [if_neg reset, List.forall_mem_append, List.forall_mem_singleton] at unmoved
      obtain ⟨before, still⟩ := unmoved
      have bound := ih before
      cases next with
      | refused _ _ => exact bound
      | loaded program bytes found fits => exact bound
      | ticked => exact (wellFormed_after config script).tick_pc_le bound _
      | keyed number isDown key found => rw [Cpu.keyEvent_pc]; exact bound
      | restarted => exact absurd rfl reset
      | moved address pc found =>
        rw [Action.movesPc, found] at still
        cases still

/-- **The invariant of a machine.** After any script a machine's processor is well formed: its stack
pointer is at most 16, slots from it on are zero, slots below it hold addresses between 0x0002 and
0x1001, the key register exists, a fault is one of the five, none while a key is awaited, an unknown
opcode only in strict mode, and a word is recorded only by a word. The program counter is at most
0x10FE unless it was moved by hand since the latest reset. No instruction that a tick of the script
executes wraps the program counter, neither when it is fetched nor when it skips. -/
theorem invariant_after (config : Config) (script : List Action) :
    ((start config).after script).cpu.WellFormed ∧
    (Fault.codeOf ((start config).after script).cpu.fault).toNat ≤ 5 ∧
    ((start config).after script).cpu.strict = config.strict ∧
    ((∀ action ∈ sinceReset script, action.movesPc = false) →
      ((start config).after script).cpu.pc.toNat ≤ 0x10FE) ∧
    ∀ t ∈ (start config).trailOf script, t.pc.toNat < 0x1000 →
      t.fetch.2.pc.toNat = t.pc.toNat + 2 ∧
      ∀ c, Instruction.ofWord? t.nextWord.toNat = some (.skipIf c) →
        t.step.pc.toNat = t.pc.toNat + if c.holds t.fetch.2 then 4 else 2 := by
  have wellFormed := wellFormed_after config script
  refine ⟨wellFormed, wellFormed.code_le, strict_after config script, pc_le_after config script,
    fun t _ inside => ⟨Cpu.toNat_fetch_pc inside, fun c selected => ?_⟩⟩
  exact Cpu.toNat_step_skip inside selected

/-- A program counter that was moved past the limit is back below it after a reset. -/
theorem pc_le_after_reset :
    (∀ action ∈ sinceReset [.setPc 0x2000, .reset, .tick], action.movesPc = false) ∧
      ((start .standard).after [.setPc 0x2000, .reset, .tick]).cpu.pc.toNat ≤ 0x10FE := by
  have unmoved : ∀ action ∈ sinceReset [.setPc 0x2000, .reset, .tick], action.movesPc = false := by
    decide
  exact ⟨unmoved, (invariant_after .standard _).2.2.2.1 unmoved⟩

end Machine

end Chip8
