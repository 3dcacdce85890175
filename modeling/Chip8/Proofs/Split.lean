import Chip8.Proofs.Tick

/-!
# Splitting a tick

A program that does not read the delay timer cannot tell one tick from two that share its budget
(`Cpu.checkedTick_split`). The boundary between two ticks touches both timers and the flag of
drawing, and no other instruction feeds these into anything else: with them set to zero
(`Cpu.tickless`) a step goes the same way. Two runs from states that are alike in this sense stay
alike, and what one of them draws the other one draws.
-/

namespace Chip8.Cpu

variable {s t : Cpu} {a b budget : Nat}

/-- The same processor without what the boundary of a tick touches: both timers at zero and nothing
drawn. -/
def tickless (s : Cpu) : Cpu := { s with delayTimer := 0, soundTimer := 0, drawn := false }

/-- The next step copies the delay timer to a register. -/
def ReadsDelay (s : Cpu) : Prop := ∃ x, s.nextInstruction? = some (.readDelay x)

theorem eq_of_tickless_eq (alike : s.tickless = t.tickless) :
    { s with delayTimer := t.delayTimer, soundTimer := t.soundTimer, drawn := t.drawn } = t := by
  calc { s with delayTimer := t.delayTimer, soundTimer := t.soundTimer, drawn := t.drawn }
      = { s.tickless with
          delayTimer := t.delayTimer, soundTimer := t.soundTimer, drawn := t.drawn } := rfl
    _ = { t.tickless with
          delayTimer := t.delayTimer, soundTimer := t.soundTimer, drawn := t.drawn } := by
        rw [alike]
    _ = t := rfl

/-! ## Instructions -/

theorem holds_tickless (c : Condition) : c.holds s.tickless = c.holds s :=
  c.holds_congr rfl rfl

theorem fault?_tickless (w : Int) : s.tickless.fault? w = s.fault? w :=
  fault?_congr rfl rfl rfl w

theorem nextInstruction?_tickless : s.tickless.nextInstruction? = s.nextInstruction? := rfl

/-- Every instruction but one treats the timers as write-only. -/
theorem effect_tickless (bus : UInt8) {i : Instruction} (blind : ∀ x, i ≠ .readDelay x) :
    (i.effect bus s.tickless).tickless = (i.effect bus s).tickless := by
  cases i with
  | readDelay x => exact absurd rfl (blind x)
  | skipIf c =>
    simp only [Instruction.effect, holds_tickless]
    split <;> rfl
  | _ => simp only [Instruction.effect, setRegister, tickless]

theorem effect_drawn (bus : UInt8) (i : Instruction) :
    (i.effect bus s).drawn = (s.drawn || (i.effect bus s.tickless).drawn) := by
  cases i with
  | skipIf c =>
    simp only [Instruction.effect, holds_tickless]
    split <;> simp only [tickless, Bool.or_false]
  | _ => simp only [Instruction.effect, setRegister, tickless, Bool.or_true, Bool.or_false]

/-! ## Steps -/

/-- Unless it reads the delay timer, a step takes nothing from what is zero here. -/
theorem step_tickless (blind : ¬s.ReadsDelay) : s.tickless.step.tickless = s.step.tickless := by
  apply step_related (R := fun u v => v.tickless = u.tickless)
  case same_pc => rfl
  case same_word => rfl
  case same_fault => exact fault?_tickless (s := s.fetch.2) _
  case outOfRange => rfl
  case halted => exact fun _ => rfl
  case ignored => rfl
  case performed =>
    intro i next
    refine effect_tickless (s := s.fetch.2) _ fun x reads => blind ⟨x, ?_⟩
    rw [next, reads]

theorem step_drawn (s : Cpu) : s.step.drawn = (s.drawn || s.tickless.step.drawn) := by
  apply step_related (R := fun u v => u.drawn = (s.drawn || v.drawn)) (t := s.tickless)
  case same_pc => rfl
  case same_word => rfl
  case same_fault => exact fault?_tickless (s := s.fetch.2) _
  case outOfRange => exact (Bool.or_false _).symm
  case halted => exact fun _ => (Bool.or_false _).symm
  case ignored => exact (Bool.or_false _).symm
  case performed => exact fun i _ => effect_drawn (s := s.fetch.2) _ i

/-- **States that are alike step alike**, and one step draws if and only if the other does. -/
theorem step_congr (alike : s.tickless = t.tickless) (blind : ¬s.ReadsDelay) :
    s.step.tickless = t.step.tickless ∧
      ∃ draws, s.step.drawn = (s.drawn || draws) ∧ t.step.drawn = (t.drawn || draws) := by
  have blind_too : ¬t.ReadsDelay := by
    rintro ⟨x, reads⟩
    rw [← nextInstruction?_tickless, ← alike, nextInstruction?_tickless] at reads
    exact blind ⟨x, reads⟩
  constructor
  · rw [← step_tickless blind, ← step_tickless blind_too, alike]
  · exact ⟨s.tickless.step.drawn, step_drawn s, alike ▸ step_drawn t⟩

/-! ## Runs -/

theorem isRunnable_congr (alike : s.tickless = t.tickless) : s.isRunnable = t.isRunnable := by
  calc s.isRunnable
      = s.tickless.isRunnable := rfl
    _ = t.tickless.isRunnable := by rw [alike]
    _ = t.isRunnable := rfl

/-- **Runs from states that are alike end in states that are alike**, and one draws if and only if
the other does. -/
theorem runFor_congr (budget : Nat) (alike : s.tickless = t.tickless)
    (blind : ∀ u ∈ trail budget s, ¬u.ReadsDelay) :
    (runFor budget s).tickless = (runFor budget t).tickless ∧
      ∃ draws, (runFor budget s).drawn = (s.drawn || draws) ∧
        (runFor budget t).drawn = (t.drawn || draws) := by
  refine runFor_related (P := fun u => ¬u.ReadsDelay)
    (R := fun u v => u.tickless = v.tickless ∧
      ∃ draws, u.drawn = (s.drawn || draws) ∧ v.drawn = (t.drawn || draws))
    ?ready ?carry budget ?start blind
  case ready => exact fun related => (isRunnable_congr related.1).symm
  case carry =>
    rintro u v ⟨alike, earlier, drawn_u, drawn_v⟩ blind_now
    obtain ⟨alike_next, now, next_u, next_v⟩ := step_congr alike blind_now
    refine ⟨alike_next, earlier || now, ?_, ?_⟩
    · rw [next_u, drawn_u, Bool.or_assoc]
    · rw [next_v, drawn_v, Bool.or_assoc]
  case start => exact ⟨alike, false, (Bool.or_false _).symm, (Bool.or_false _).symm⟩

/-! ## Ticks -/

theorem tick_alike (budget : Nat) (runnable : s.isRunnable = true) :
    (s.tick budget).tickless = (runFor budget { s with drawn := false }).tickless ∧
      (s.tick budget).drawn = (runFor budget { s with drawn := false }).drawn :=
  ⟨field_tick tickless (fun _ => rfl) budget runnable,
    field_tick Cpu.drawn (fun _ => rfl) budget runnable⟩

/-- **A tick is two ticks that share its budget**, for a program that does not read the delay
timer. -/
theorem tick_split (a b : Nat) (blind : ∀ u ∈ s.tickTrail (a + b), ¬u.ReadsDelay) :
    ((s.tick a).tick b).tickless = (s.tick (a + b)).tickless ∧
      (s.tick (a + b)).drawn = ((s.tick a).drawn || ((s.tick a).tick b).drawn) := by
  cases runnable : s.isRunnable with
  | false =>
    rw [tick_of_not_runnable (a + b) runnable, tick_of_not_runnable a runnable,
      tick_of_not_runnable b runnable, Bool.or_self]
    exact ⟨rfl, rfl⟩
  | true =>
    obtain ⟨whole, whole_drawn⟩ := tick_alike (a + b) runnable
    obtain ⟨first, first_drawn⟩ := tick_alike a runnable
    rw [runFor_add] at whole whole_drawn
    rw [tickTrail, trail_add] at blind
    obtain ⟨_, blind_later⟩ := List.forall_mem_append.mp blind
    generalize runFor a { s with drawn := false } = middle
      at whole whole_drawn first first_drawn blind_later
    have same : (s.tick a).isRunnable = middle.isRunnable := isRunnable_congr first
    cases goes_on : middle.isRunnable with
    | false =>
      -- The second tick finds the wait or the fault of the first.
      rw [runFor_of_not_runnable b goes_on] at whole whole_drawn
      rw [tick_of_not_runnable b (same.trans goes_on), whole, whole_drawn, first, first_drawn,
        Bool.or_self]
      exact ⟨rfl, rfl⟩
    | true =>
      -- The flag of drawing is cleared between the ticks, so the runs go on from states that are
      -- only alike.
      obtain ⟨second, second_drawn⟩ := tick_alike b (same.trans goes_on)
      have cleared : middle.tickless = tickless { s.tick a with drawn := false } := first.symm
      obtain ⟨last, draws, whole_draws, second_draws⟩ := runFor_congr b cleared blind_later
      constructor
      · rw [second, whole, last]
      · rw [whole_drawn, whole_draws, second_drawn, second_draws, first_drawn, Bool.false_or]

/-- **Budgets are transparent.** For budgets whose sum is below 2^31, if no step of the tick with
the whole budget reads the delay timer, two ticks that share the budget succeed as the one does, end
in the same state but for the timers and the flag of drawing, and draw if and only if it does. -/
theorem checkedTick_split (s : Cpu) (a b : Nat) (narrow : a + b < 0x80000000)
    (blind : ∀ u ∈ s.tickTrail (a + b), ∀ x, u.nextInstruction? ≠ some (.readDelay x)) :
    ∃ first second whole, s.checkedTick a = .ok first ∧ first.checkedTick b = .ok second ∧
      s.checkedTick (a + b : Nat) = .ok whole ∧
      { second with
        delayTimer := whole.delayTimer, soundTimer := whole.soundTimer, drawn := whole.drawn } =
        whole ∧
      whole.drawn = (first.drawn || second.drawn) := by
  have never_reads : ∀ u ∈ s.tickTrail (a + b), ¬u.ReadsDelay := by
    rintro u member ⟨x, reads⟩
    exact blind u member x reads
  obtain ⟨alike, drawn⟩ := tick_split a b never_reads
  refine ⟨s.tick a, (s.tick a).tick b, s.tick (a + b), ?_, ?_, ?_, ?_, drawn⟩
  · exact checkedTick_of_lt s (by omega)
  · exact checkedTick_of_lt _ (by omega)
  · exact checkedTick_of_lt s narrow
  · exact eq_of_tickless_eq alike

/-- A wait that falls into the second of two ticks. The sound timer, which is counted twice then,
shows why the timers are left out. -/
theorem checkedTick_split_at_wait :
    let s : Cpu :=
      { create ⟨0, 0⟩ [0x00, 0xE0, 0xF3, 0x0A, 0x00, 0xE0] false with pc := 0, soundTimer := 2 }
    (∀ u ∈ s.tickTrail (1 + 4), ∀ x, u.nextInstruction? ≠ some (.readDelay x)) ∧
      ((s.tick 1).tick 4).soundTimer = 0 ∧ (s.tick (1 + 4)).soundTimer = 1 ∧
      ∃ first second whole, s.checkedTick (1 : Nat) = .ok first ∧
        first.checkedTick (4 : Nat) = .ok second ∧ s.checkedTick (1 + 4 : Nat) = .ok whole ∧
        { second with
          delayTimer := whole.delayTimer, soundTimer := whole.soundTimer, drawn := whole.drawn } =
          whole ∧
        whole.drawn = (first.drawn || second.drawn) := by
  intro s
  have blind : ∀ u ∈ s.tickTrail (1 + 4), ∀ x, u.nextInstruction? ≠ some (.readDelay x) := by
    decide +kernel
  refine ⟨blind, by decide +kernel, by decide +kernel, ?_⟩
  exact checkedTick_split s 1 4 (by decide) blind

/-- Two budgets that fit may have a sum that does not. The tick with the whole budget then fails
even where the two ticks have nothing to do, and there is no state to compare. -/
theorem checkedTick_split_fails_on_wide_sum :
    let s : Cpu := { create ⟨0, 0⟩ Font.standard false with waiting := true }
    (∀ u ∈ s.tickTrail (0x40000000 + 0x40000000), ∀ x, u.nextInstruction? ≠ some (.readDelay x)) ∧
      s.checkedTick (0x40000000 : Nat) = .ok s ∧
      s.checkedTick (0x40000000 + 0x40000000 : Nat) = .error (.budgetTooWide 0x80000000) ∧
      ¬∃ whole, s.checkedTick (0x40000000 + 0x40000000 : Nat) = .ok whole := by
  intro s
  have stuck : s.isRunnable = false := rfl
  have refused := checkedTick_of_ge s (show 0x80000000 ≤ 0x40000000 + 0x40000000 by decide)
  refine ⟨?_, ?_, refused, ?_⟩
  · rw [tickTrail_of_not_runnable _ stuck]
    exact fun _ member => absurd member List.not_mem_nil
  · rw [checkedTick_of_lt s (by decide), tick_of_not_runnable _ stuck]
  · rintro ⟨whole, done⟩
    cases refused.symm.trans done

end Chip8.Cpu
