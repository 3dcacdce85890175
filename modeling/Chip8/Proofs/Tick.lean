import Chip8.Proofs.Effect
import Chip8.Proofs.Run

/-!
# Ticks step by step

How many steps a run takes is fixed by the states on its way (`Cpu.StopsAfter`): it goes on while
they are runnable and the budget lasts, and stops where either ends. A tick is such a run from the
state with the flag of drawing cleared, and then one count of the timers, which a fault leaves out
(`Cpu.checkedTick_steps`). The wait for a key and a fault may fall on the last step of the budget;
the count of the timers then asks for the fault alone.
-/

namespace Chip8.Cpu

variable {s : Cpu} {budget count : Nat}

/-- A run stops after a number of steps: every state up to there is runnable, and there the budget
is used up or the state is not runnable. -/
structure StopsAfter (budget : Nat) (s : Cpu) (count : Nat) : Prop where
  within : count ≤ budget
  runnable : ∀ i < count, (step^[i] s).isRunnable = true
  stopped : count = budget ∨ (step^[count] s).isRunnable = false

/-! ## The number of steps -/

theorem stopsAfter_zero_iff : StopsAfter 0 s count ↔ count = 0 := by
  constructor
  · intro stops
    exact Nat.le_zero.mp stops.within
  · rintro rfl
    exact ⟨Nat.le_refl 0, fun _ below => absurd below (Nat.not_lt_zero _), .inl rfl⟩

theorem stopsAfter_iff_of_not_runnable (stuck : s.isRunnable = false) :
    StopsAfter budget s count ↔ count = 0 := by
  constructor
  · intro stops
    by_contra moved
    have ready : s.isRunnable = true := stops.runnable 0 (Nat.pos_of_ne_zero moved)
    rw [stuck] at ready
    cases ready
  · rintro rfl
    exact ⟨Nat.zero_le budget, fun _ below => absurd below (Nat.not_lt_zero _), .inr stuck⟩

theorem not_stopsAfter_zero (runnable : s.isRunnable = true) : ¬StopsAfter (budget + 1) s 0 := by
  intro stops
  rcases stops.stopped with spent | stuck
  · cases spent
  · rw [Function.iterate_zero_apply, runnable] at stuck
    cases stuck

theorem stopsAfter_succ_iff (runnable : s.isRunnable = true) :
    StopsAfter (budget + 1) s (count + 1) ↔ StopsAfter budget s.step count := by
  constructor
  · intro stops
    refine ⟨Nat.le_of_succ_le_succ stops.within, ?_, ?_⟩
    · intro i below
      exact stops.runnable (i + 1) (Nat.succ_lt_succ below)
    · rcases stops.stopped with spent | stuck
      · exact .inl (Nat.succ.inj spent)
      · exact .inr stuck
  · intro stops
    refine ⟨Nat.succ_le_succ stops.within, ?_, ?_⟩
    · intro i below
      cases i with
      | zero => exact runnable
      | succ i => exact stops.runnable i (Nat.lt_of_succ_lt_succ below)
    · rcases stops.stopped with spent | stuck
      · exact .inl (congrArg Nat.succ spent)
      · exact .inr stuck

/-- **A run stops after as many steps as its trail is long, and after no other number.** -/
theorem stopsAfter_iff : ∀ {budget : Nat} {s : Cpu} {count : Nat},
    StopsAfter budget s count ↔ count = (trail budget s).length
  | 0, _, _ => stopsAfter_zero_iff
  | budget + 1, s, count => by
    cases runnable : s.isRunnable with
    | false =>
      rw [trail_of_not_runnable _ runnable]
      exact stopsAfter_iff_of_not_runnable runnable
    | true =>
      rw [trail_succ budget runnable, List.length_cons]
      -- With budget left a runnable state is no place to stop, so at least one step is taken.
      cases count with
      | zero =>
        exact iff_of_false (not_stopsAfter_zero runnable) (Nat.succ_ne_zero _).symm
      | succ count =>
        rw [stopsAfter_succ_iff runnable, stopsAfter_iff, Nat.add_right_cancel_iff]

/-- Only a budget of nothing is used up without a step. -/
theorem StopsAfter.eq_zero_iff (stops : StopsAfter budget s count)
    (runnable : s.isRunnable = true) : count = 0 ↔ budget = 0 := by
  constructor
  · rintro rfl
    rcases stops.stopped with spent | stuck
    · exact spent.symm
    · rw [Function.iterate_zero_apply, runnable] at stuck
      cases stuck
  · rintro rfl
    exact Nat.le_zero.mp stops.within

/-- A run takes no step from a state that is not runnable, so none after the one that led there. -/
theorem StopsAfter.eq_of_not_runnable (stops : StopsAfter budget s count) {i : Nat}
    (below : i < count) (stuck : (step^[i] s).step.isRunnable = false) : i + 1 = count := by
  refine Nat.le_antisymm below (Nat.le_of_not_lt fun further => ?_)
  have ready := stops.runnable (i + 1) further
  rw [Function.iterate_succ_apply', stuck] at ready
  cases ready

theorem not_runnable_step_of_awaitKey {x : Register}
    (waits : s.nextInstruction? = some (.awaitKey x)) : s.step.isRunnable = false := by
  have allowed : (Instruction.awaitKey x).fault? s.fetch.2 = none := rfl
  rw [step_of_nextInstruction? waits allowed]
  rfl

/-! ## Ticks -/

theorem tickTrail_of_not_runnable (budget : Nat) (stuck : s.isRunnable = false) :
    s.tickTrail budget = [] :=
  trail_of_not_runnable (s := { s with drawn := false }) budget stuck

theorem isInt32_natCast_iff {n : Nat} : isInt32 n = true ↔ n < 0x80000000 := by
  simp only [isInt32, decide_eq_true_eq]
  omega

theorem checkedTick_of_lt (s : Cpu) (narrow : budget < 0x80000000) :
    s.checkedTick budget = .ok (s.tick budget) := by
  rw [checkedTick, if_pos (isInt32_natCast_iff.mpr narrow), Int.toNat_natCast]

theorem checkedTick_of_ge (s : Cpu) (wide : 0x80000000 ≤ budget) :
    s.checkedTick budget = .error (.budgetTooWide budget) := by
  rw [checkedTick, if_neg fun narrow => Nat.not_lt_of_le wide (isInt32_natCast_iff.mp narrow)]

/-- A tick in steps: as many as the run from its first state takes, and then the timers. -/
theorem tick_of_stopsAfter (runnable : s.isRunnable = true)
    (stops : StopsAfter budget { s with drawn := false } count) :
    s.tick budget =
      if (step^[count] { s with drawn := false }).fault = none
      then (step^[count] { s with drawn := false }).countDown
      else step^[count] { s with drawn := false } := by
  have last : runFor budget { s with drawn := false } = step^[count] { s with drawn := false } := by
    rw [stopsAfter_iff.mp stops]
    exact runFor_eq_iterate budget _
  rw [tick, if_pos runnable, last]
  simp only [Option.isNone_iff_eq_none]

/-- **What a tick does.** A budget of 2^31 or more is refused. With any other, a processor that
waits or carries a fault stays as it is. From all other states a tick takes a number of steps that
is fixed by the states on the way, at most the budget and none only for a budget of nothing; then
the timers are counted unless the last step recorded a fault. The states that the steps are taken
from are the first ones of the sequence of steps, and the step that executes a wait for a key or
records a fault is the last. -/
theorem checkedTick_steps (s : Cpu) (budget : Nat) :
    (0x80000000 ≤ budget → s.checkedTick budget = .error (.budgetTooWide budget)) ∧
    (budget < 0x80000000 → s.waiting = true ∨ s.fault ≠ none → s.checkedTick budget = .ok s) ∧
    (budget < 0x80000000 → s.waiting = false → s.fault = none →
      let first : Cpu := { s with drawn := false }
      (∃! count, StopsAfter budget first count) ∧
      ∀ count, StopsAfter budget first count →
        s.checkedTick budget =
          .ok (if (step^[count] first).fault = none then (step^[count] first).countDown
            else step^[count] first) ∧
        (count = 0 ↔ budget = 0) ∧
        s.tickTrail budget = (List.range count).map (fun i => step^[i] first) ∧
        (s.tickTrail budget).length ≤ budget ∧
        ∀ i < count,
          (∃ x, (step^[i] first).nextInstruction? = some (.awaitKey x)) ∨
            (step^[i + 1] first).fault ≠ none →
          i + 1 = count) := by
  refine ⟨s.checkedTick_of_ge, ?_, ?_⟩
  · intro narrow stuck
    have not_runnable : s.isRunnable = false := by
      rcases stuck with waiting | faulted
      · exact isRunnable_of_waiting waiting
      · rw [isRunnable, Option.isNone_eq_false_iff.mpr (Option.isSome_iff_ne_none.mpr faulted),
          Bool.and_false]
    rw [checkedTick_of_lt s narrow, tick_of_not_runnable budget not_runnable]
  · intro narrow running unfaulted first
    have runnable : s.isRunnable = true := isRunnable_iff.mpr ⟨running, unfaulted⟩
    have first_runnable : first.isRunnable = true := runnable
    refine ⟨⟨_, stopsAfter_iff.mpr rfl, fun count stops => stopsAfter_iff.mp stops⟩, ?_⟩
    intro count stops
    have length : count = (trail budget first).length := stopsAfter_iff.mp stops
    refine ⟨?_, stops.eq_zero_iff first_runnable, ?_, ?_, ?_⟩
    · rw [checkedTick_of_lt s narrow, tick_of_stopsAfter runnable stops]
    · rw [length]
      exact trail_eq_map budget first
    · exact length ▸ stops.within
    · rintro i below (⟨x, waits⟩ | faulted)
      · exact stops.eq_of_not_runnable below (not_runnable_step_of_awaitKey waits)
      · obtain ⟨fault, record⟩ := Option.ne_none_iff_exists'.mp faulted
        rw [Function.iterate_succ_apply'] at record
        exact stops.eq_of_not_runnable below (isRunnable_of_fault record)

/-- The wait for a key falls on the last step of the budget, and the timers are still counted. -/
theorem checkedTick_wait_at_boundary :
    let s : Cpu :=
      { create ⟨0, 0⟩ [0x61, 0x07, 0xF2, 0x0A] false with pc := 0, delayTimer := 3, drawn := true }
    let first : Cpu := { s with drawn := false }
    s.waiting = false ∧ s.fault = none ∧ StopsAfter 2 first 2 ∧
      (step^[1] first).nextInstruction? = some (.awaitKey 2) ∧
      s.checkedTick 2 = .ok (step^[2] first).countDown := by
  intro s first
  have stops : StopsAfter 2 first 2 := ⟨Nat.le_refl 2, by decide +kernel, .inl rfl⟩
  have waits : (step^[1] first).nextInstruction? = some (.awaitKey 2) := by decide +kernel
  have unfaulted : (step^[2] first).fault = none := by decide +kernel
  have done := ((checkedTick_steps s 2).2.2 (by decide) rfl rfl).2 2 stops
  refine ⟨rfl, rfl, stops, waits, done.1.trans ?_⟩
  rw [if_pos unfaulted]

/-- The smallest budget that is refused is refused by a waiting processor too, which is not left
unchanged: there is no state at all. -/
theorem checkedTick_refuses_wide_budget :
    let s : Cpu := { create ⟨0, 0⟩ Font.standard false with waiting := true }
    s.waiting = true ∧ s.checkedTick 0x80000000 = .error (.budgetTooWide 0x80000000) ∧
      s.checkedTick 0x80000000 ≠ .ok s := by
  intro s
  have refused : s.checkedTick 0x80000000 = .error (.budgetTooWide 0x80000000) := rfl
  refine ⟨rfl, refused, ?_⟩
  rw [refused]
  exact nofun

end Chip8.Cpu
