import Chip8.Proofs.Decode
import Chip8.Proofs.Effect
import Chip8.Proofs.Script

/-!
# Redrawing

A driver may copy the screen after those ticks only that have drawn (`Machine.copyAfter`): its copy
is never stale (`Machine.copy_never_stale`). The screen is painted by the steps of a tick and by
nothing else but a reset, and a step that paints sets the flag (`Cpu.Paints`). A tick clears the flag
before its first step and no later one clears it again, so a tick that leaves it cleared has painted
nothing; a tick that takes no step leaves flag and screen as they were.
-/

namespace Chip8

/-- The instructions that paint the screen. -/
def Instruction.paints : Instruction → Bool
  | clearScreen => true
  | draw _ _ _ => true
  | _ => false

namespace Cpu

variable {s : Cpu}

/-- The next step paints the screen: it executes the word that clears it, or a word that draws a
sprite and does not fail. -/
def Paints (s : Cpu) : Prop :=
  s.pc.toNat < 0x1000 ∧
    (s.nextWord = 0x00E0 ∨ ((Fields.ofWord s.nextWord.toNat).group = 13 ∧ s.step.fault = none))

/-! ## Steps -/

theorem nextWord_eq_clear_iff :
    s.nextWord = 0x00E0 ↔ Instruction.ofWord? s.nextWord.toNat = some .clearScreen := by
  rw [Instruction.ofWord?_eq_clearScreen_iff, ← UInt16.toNat_inj]
  exact Int.ofNat_inj.symm

/-- A step paints exactly if it performs an instruction that does. -/
theorem paints_iff (unfaulted : s.fault = none) :
    s.Paints ↔ ∃ i, s.performed? = some i ∧ i.paints = true := by
  constructor
  · rintro ⟨inside, clears | ⟨draws, quiet⟩⟩
    · have next : s.nextInstruction? = some .clearScreen :=
        nextInstruction?_eq_some_iff.mpr ⟨inside, nextWord_eq_clear_iff.mp clears⟩
      exact ⟨_, performed?_eq_some_iff.mpr ⟨next, rfl⟩, rfl⟩
    · obtain ⟨x, y, n, selected⟩ := Instruction.exists_draw_iff.mpr draws
      have next : s.nextInstruction? = some (.draw x y n) :=
        nextInstruction?_eq_some_iff.mpr ⟨inside, selected⟩
      exact ⟨_, performed?_of_unfaulted next quiet, rfl⟩
  · rintro ⟨i, performs, paints⟩
    obtain ⟨inside, selected⟩ :=
      nextInstruction?_eq_some_iff.mp (performed?_eq_some_iff.mp performs).1
    refine ⟨inside, ?_⟩
    cases i with
    | clearScreen => exact .inl (nextWord_eq_clear_iff.mpr selected)
    | draw x y n =>
      refine .inr ⟨Instruction.exists_draw_iff.mp ⟨x, y, n, selected⟩, ?_⟩
      rw [step_of_performed? performs, Instruction.effect_fault]
      exact unfaulted
    | _ => cases paints

/-- A step sets the flag exactly if it paints, and never clears it. -/
theorem drawn_step (unfaulted : s.fault = none) :
    s.step.drawn = true ↔ s.drawn = true ∨ s.Paints := by
  rw [paints_iff unfaulted]
  cases performs : s.performed? with
  | none =>
    obtain ⟨pc, fault, word, same⟩ := step_of_performed?_eq_none performs
    rw [same]
    simp
  | some i =>
    rw [step_of_performed? performs, Instruction.effect_drawn]
    cases i <;> simp [Instruction.paints, fetch]

theorem screen_step (unfaulted : s.fault = none) (blank : ¬s.Paints) :
    s.step.screen = s.screen := by
  rw [paints_iff unfaulted] at blank
  cases performs : s.performed? with
  | none =>
    obtain ⟨pc, fault, word, same⟩ := step_of_performed?_eq_none performs
    rw [same]
  | some i =>
    rw [step_of_performed? performs, Instruction.effect_screen]
    cases i with
    | clearScreen | draw x y n => exact absurd ⟨_, performs, rfl⟩ blank
    | _ => rfl

/-! ## Runs and ticks -/

theorem drawn_runFor : ∀ (budget : Nat) (s : Cpu),
    (runFor budget s).drawn = true ↔ s.drawn = true ∨ ∃ t ∈ trail budget s, t.Paints
  | 0, s => by simp [runFor, trail]
  | budget + 1, s => by
    cases runnable : s.isRunnable with
    | false =>
      rw [runFor_of_not_runnable _ runnable, trail_of_not_runnable _ runnable]
      simp
    | true =>
      obtain ⟨_, unfaulted⟩ := isRunnable_iff.mp runnable
      rw [runFor_succ budget runnable, trail_succ budget runnable, drawn_runFor budget s.step,
        drawn_step unfaulted, or_assoc, List.exists_mem_cons_iff]

theorem screen_runFor (budget : Nat) (s : Cpu) (blank : ∀ t ∈ trail budget s, ¬t.Paints) :
    (runFor budget s).screen = s.screen := by
  refine runFor_keeps_along (P := fun t => t.screen = s.screen) budget rfl ?_
  intro t member same
  obtain ⟨_, unfaulted⟩ := isRunnable_iff.mp (isRunnable_of_mem_trail member)
  exact (screen_step unfaulted (blank t member)).trans same

/-- **A tick has drawn exactly if one of its steps paints.** -/
theorem drawn_tick (budget : Nat) (runnable : s.isRunnable = true) :
    (s.tick budget).drawn = true ↔ ∃ t ∈ s.tickTrail budget, t.Paints := by
  rw [field_tick Cpu.drawn (fun _ => rfl) budget runnable, drawn_runFor]
  exact or_iff_right Bool.false_ne_true

/-- A tick that has not drawn leaves the screen as it was. -/
theorem screen_tick (budget : Nat) (undrawn : (s.tick budget).drawn = false) :
    (s.tick budget).screen = s.screen := by
  cases runnable : s.isRunnable with
  | false => rw [tick_of_not_runnable budget runnable]
  | true =>
    rw [field_tick Cpu.screen (fun _ => rfl) budget runnable]
    refine screen_runFor budget _ fun t member paints => ?_
    have drawn := (drawn_tick budget runnable).mpr ⟨t, member, paints⟩
    exact nomatch undrawn.symm.trans drawn

end Cpu

/-! ## Machines -/

namespace Machine

/-- What a driver holds after an action, given what it held before: after a tick that has drawn it
copies the screen. -/
def copy (m : Machine) (held : Screen) (action : Action) : Screen :=
  let cpu := (m.perform action).machine.cpu
  if action = .tick ∧ cpu.drawn = true then cpu.screen else held

/-- What a driver holds after a script, given what it held before. -/
def copyAfter (m : Machine) (held : Screen) : List Action → Screen
  | [] => held
  | action :: rest => (m.perform action).machine.copyAfter (m.copy held action) rest

/-- An action that does not reset leaves a driver that holds the screen holding the screen. -/
theorem copy_screen (m : Machine) {action : Action} (kept : action ≠ .reset) :
    m.copy m.cpu.screen action = (m.perform action).machine.cpu.screen := by
  have acts := m.actsTo_perform action
  unfold copy
  generalize (m.perform action).machine.cpu = cpu at acts
  dsimp only
  split
  · rfl
  · rename_i blank
    cases acts with
    | ticked =>
      have undrawn : (m.cpu.tick m.config.budget).drawn = false :=
        Bool.eq_false_iff.mpr fun drawn => blank ⟨rfl, drawn⟩
      exact (Cpu.screen_tick _ undrawn).symm
    | keyed number isDown key found =>
      unfold Cpu.keyEvent
      dsimp only
      split <;> rfl
    | restarted => exact absurd rfl kept
    | _ => rfl

/-- Only ticks draw. -/
theorem drawn_perform {m : Machine} {action : Action} (other : action ≠ .tick)
    (undrawn : m.cpu.drawn = false) : (m.perform action).machine.cpu.drawn = false := by
  have acts := m.actsTo_perform action
  generalize (m.perform action).machine.cpu = cpu at acts ⊢
  cases acts with
  | ticked => exact absurd rfl other
  | keyed number isDown key found =>
    unfold Cpu.keyEvent
    dsimp only
    split <;> exact undrawn
  | restarted => rfl
  | _ => exact undrawn

/-- Nothing is ever drawn by a machine whose budget is refused. -/
theorem drawn_after_of_wide {config : Config} (wide : isInt32 config.budget = false)
    (script : List Action) : ((start config).after script).cpu.drawn = false := by
  induction script using List.reverseRecOn with
  | nil => rfl
  | append_singleton script action ih =>
    rw [after_concat]
    by_cases ticks : action = .tick
    · have same_config := config_after (start config) script
      have same_budget : ((start config).after script).config.budget = config.budget :=
        congrArg Config.budget same_config
      rw [ticks, perform, machine_tick, same_budget, wide]
      exact ih
    · exact drawn_perform ticks ih

/-- **A copy that is taken after each tick that has drawn is never stale.** It equals the screen
after every script without a reset, whatever the state of the machine that a driver starts from and
whichever calls fail. And after a tick of a machine that neither waits nor carries a fault, the flag
tells whether a step of that tick has painted, also where the tick fails. -/
theorem copy_never_stale :
    (∀ (m : Machine) (script : List Action), (∀ action ∈ script, action ≠ .reset) →
      m.copyAfter m.cpu.screen script = (m.after script).cpu.screen) ∧
    ∀ (config : Config) (past : List Action),
      let m := (start config).after past
      m.cpu.waiting = false → m.cpu.fault = none →
        (m.tick.machine.cpu.drawn = true ↔ ∃ t ∈ m.trail .tick, t.Paints) := by
  constructor
  · intro m script kept
    induction script generalizing m with
    | nil => rfl
    | cons action rest ih =>
      obtain ⟨kept_now, kept_later⟩ := List.forall_mem_cons.mp kept
      rw [copyAfter, m.copy_screen kept_now]
      exact ih _ kept_later
  · intro config past m running unfaulted
    have runnable := Cpu.isRunnable_iff.mpr ⟨running, unfaulted⟩
    have configured : m.config = config := config_after (start config) past
    rw [machine_tick, trail, configured]
    by_cases narrow : isInt32 config.budget = true
    · rw [if_pos narrow, if_pos narrow]
      exact Cpu.drawn_tick config.budget runnable
    · rw [if_neg narrow, if_neg narrow]
      have undrawn : m.cpu.drawn = false :=
        drawn_after_of_wide (Bool.eq_false_iff.mpr narrow) past
      simp [undrawn]

/-- A tick draws a glyph and then fails on a return. The driver has copied the glyph, and the ticks
that fail again, a key, a program and a move of the program counter make its copy no older. -/
theorem copy_never_stale_at_fault :
    let past := [.load [0xA0, 0x05, 0xD0, 0x05, 0x00, 0xEE]]
    let m := (start .standard).after past
    let script := [.tick, .setKey 7 true, .tick, .load [0x00, 0xE0], .setPc 0x200, .tick]
    (∀ action ∈ script, action ≠ Action.reset) ∧
      m.copyAfter m.cpu.screen script = (m.after script).cpu.screen ∧
      m.cpu.waiting = false ∧ m.cpu.fault = none ∧
      m.tick.failure = some (.execution (.stackUnderflow 0x00EE)) ∧
      ∃ t ∈ m.trail .tick, t.Paints := by
  obtain ⟨copies, draws⟩ := copy_never_stale
  have draws := draws .standard [.load [0xA0, 0x05, 0xD0, 0x05, 0x00, 0xEE]]
  dsimp only at draws ⊢
  generalize built : (start .standard).after [.load [0xA0, 0x05, 0xD0, 0x05, 0x00, 0xEE]] = m
    at draws ⊢
  have kept : ∀ action ∈ [Action.tick, .setKey 7 true, .tick, .load [0x00, 0xE0], .setPc 0x200,
      .tick], action ≠ Action.reset := by decide
  have running : m.cpu.waiting = false := by rw [← built]; decide +kernel
  have unfaulted : m.cpu.fault = none := by rw [← built]; decide +kernel
  have failed : m.tick.failure = some (.execution (.stackUnderflow 0x00EE)) := by
    rw [← built]
    decide +kernel
  have drawn : m.tick.machine.cpu.drawn = true := by rw [← built]; decide +kernel
  exact ⟨kept, copies m _ kept, running, unfaulted, failed,
    (draws running unfaulted).mp drawn⟩

end Machine

end Chip8
