import Chip8.Proofs.Effect
import Chip8.Proofs.Script
import Chip8.Proofs.Tick

/-!
# Timers

A timer counts the ticks that start on a runnable processor and do not fail (`Machine.counts`), down
to zero and never below. Nothing else moves it, but for the one instruction that sets it
(`Timer.setter`): over any span of actions without a reset it has lost as many as there were such
ticks, counted from the start of the span or from the tick that last set it
(`Machine.timers_count_ticks`).
-/

namespace Chip8

/-- The two timers. -/
inductive Timer where
  | delay
  | sound

namespace Timer

/-- What a timer stands at. -/
def value (s : Cpu) : Timer → UInt8
  | delay => s.delayTimer
  | sound => s.soundTimer

/-- The instruction that sets a timer from a register. -/
def setter (x : Register) : Timer → Instruction
  | delay => .setDelay x
  | sound => .setSound x

/-- None of the steps from some states sets a timer. -/
def Unset (timer : Timer) (states : List Cpu) : Prop :=
  ∀ t ∈ states, ∀ x, t.nextInstruction? ≠ some (timer.setter x)

variable {timer : Timer} {s t : Cpu} {x : Register} {budget : Nat}

/-! ## Steps and runs -/

theorem value_step_of_setter (sets : s.nextInstruction? = some (timer.setter x)) :
    timer.value s.step = s.registers.get x := by
  have allowed : (timer.setter x).fault? s.fetch.2 = none := by cases timer <;> rfl
  rw [Cpu.step_of_nextInstruction? sets allowed]
  cases timer <;> rfl

theorem value_step_of_unset (others : ∀ x, s.nextInstruction? ≠ some (timer.setter x)) :
    timer.value s.step = timer.value s := by
  have next := s.stepsTo_step
  generalize s.step = t at next ⊢
  cases next with
  | performed i inside selected allowed =>
    have come_to := Cpu.nextInstruction?_eq_some_iff.mpr ⟨inside, selected⟩
    cases timer with
    | delay =>
      rw [value, Instruction.effect_delayTimer]
      cases i with
      | setDelay x => exact absurd come_to (others x)
      | _ => rfl
    | sound =>
      rw [value, Instruction.effect_soundTimer]
      cases i with
      | setSound x => exact absurd come_to (others x)
      | _ => rfl
  | _ => cases timer <;> rfl

theorem value_runFor_of_unset (unset : timer.Unset (Cpu.trail budget s)) :
    timer.value (Cpu.runFor budget s) = timer.value s := by
  refine Cpu.runFor_keeps_along (P := fun t => timer.value t = timer.value s) budget rfl ?_
  intro t member same
  exact (value_step_of_unset (unset t member)).trans same

/-- A run leaves a timer at what the last of its steps that set it has set it to. -/
theorem value_runFor_of_setter {before later : List Cpu}
    (split : Cpu.trail budget s = before ++ t :: later)
    (sets : t.nextInstruction? = some (timer.setter x)) (unset : timer.Unset later) :
    timer.value (Cpu.runFor budget s) = t.registers.get x := by
  obtain ⟨rest, same, rfl⟩ := Cpu.runFor_of_trail_eq split
  rw [same, value_runFor_of_unset unset, value_step_of_setter sets]

/-- A count takes one, if there is one to take. -/
theorem toNat_value_countDown (timer : Timer) (s : Cpu) :
    (timer.value s.countDown).toNat = (timer.value s).toNat - 1 := by
  have count : ∀ byte : UInt8, (if byte = 0 then 0 else byte - 1).toNat = byte.toNat - 1 := by
    intro byte
    split
    · rename_i zero
      rw [zero]
      rfl
    · rename_i positive
      have least : 1 ≤ byte.toNat := by
        refine Nat.pos_of_ne_zero fun zero => positive ?_
        exact UInt8.toNat_inj.mp zero
      exact UInt8.toNat_sub_of_le byte 1 (UInt8.le_iff_toNat_le.mpr least)
  cases timer
  · exact count s.delayTimer
  · exact count s.soundTimer

end Timer

/-! ## Actions -/

namespace Machine

variable {m : Machine} {timer : Timer} {action : Action}

/-- Whether an action is a tick that counts: it starts on a processor that neither waits nor carries
a fault, and it does not fail. -/
def counts (m : Machine) (action : Action) : Bool :=
  decide (action = .tick) && m.cpu.isRunnable && (m.perform action).failure.isNone

/-- The number of ticks of a script that count. -/
def countedTicks (m : Machine) (script : List Action) : Nat :=
  (m.calls script).countP fun call => call.1.counts call.2

theorem countedTicks_cons (m : Machine) (action : Action) (rest : List Action) :
    m.countedTicks (action :: rest) =
      (if m.counts action then 1 else 0) + (m.perform action).machine.countedTicks rest := by
  rw [countedTicks, calls, List.countP_cons, Nat.add_comm]
  rfl

/-- A tick that runs instructions leaves a timer at what they have left it at, less one if the tick
counts. -/
theorem value_tick (timer : Timer) (runnable : m.cpu.isRunnable = true)
    (narrow : isInt32 m.config.budget = true) :
    (timer.value m.tick.machine.cpu).toNat =
      (timer.value (Cpu.runFor m.config.budget { m.cpu with drawn := false })).toNat -
        if m.counts .tick then 1 else 0 := by
  have ends := m.failure_tick
  rw [(Cpu.isRunnable_iff.mp runnable).1, if_neg Bool.false_ne_true, if_pos narrow] at ends
  have counted : m.counts .tick = (m.cpu.tick m.config.budget).fault.isNone := by
    rw [counts, runnable, perform, ends, Cpu.error?, Option.map_map, Option.isNone_map]
    rfl
  rw [machine_tick, if_pos narrow, counted]
  dsimp only
  cases faulted : (m.cpu.tick m.config.budget).fault with
  | none =>
    rw [Cpu.tick_of_unfaulted runnable faulted, Timer.toNat_value_countDown]
    rfl
  | some fault =>
    rw [Cpu.tick_of_fault runnable faulted]
    rfl

/-- A tick that does not run instructions, or whose budget is refused, leaves a machine as it is and
does not count. -/
theorem tick_of_idle (idle : ¬(m.cpu.isRunnable = true ∧ isInt32 m.config.budget = true)) :
    m.trail .tick = [] ∧ m.tick.machine = m ∧ m.counts .tick = false := by
  cases runnable : m.cpu.isRunnable with
  | false =>
    refine ⟨?_, ?_, ?_⟩
    · unfold trail
      dsimp only
      rw [Cpu.tickTrail_of_not_runnable _ runnable, ite_self]
    · rw [machine_tick, Cpu.tick_of_not_runnable _ runnable, ite_self]
    · rw [counts, runnable, Bool.and_false, Bool.false_and]
  | true =>
    have wide : ¬isInt32 m.config.budget = true := fun narrow => idle ⟨runnable, narrow⟩
    have running := (Cpu.isRunnable_iff.mp runnable).1
    refine ⟨?_, ?_, ?_⟩
    · rw [trail, if_neg wide]
    · rw [machine_tick, if_neg wide]
    · rw [counts, perform, failure_tick, running, if_neg Bool.false_ne_true, if_neg wide,
        Option.isNone_some, Bool.and_false]

/-- An action that is no tick and no reset touches no timer. -/
theorem value_perform_of_ne_tick (timer : Timer) (kept : action ≠ .reset) (other : action ≠ .tick) :
    timer.value (m.perform action).machine.cpu = timer.value m.cpu := by
  have next := m.actsTo_perform action
  generalize (m.perform action).machine.cpu = t at next ⊢
  cases next with
  | ticked => exact absurd rfl other
  | restarted => exact absurd rfl kept
  | keyed number isDown key found =>
    unfold Cpu.keyEvent
    dsimp only
    split <;> cases timer <;> rfl
  | _ => cases timer <;> rfl

/-- **An action in which no instruction sets a timer takes one from it if it is a tick that counts**,
and leaves it alone otherwise. -/
theorem value_perform_of_unset (kept : action ≠ .reset) (unset : timer.Unset (m.trail action)) :
    (timer.value (m.perform action).machine.cpu).toNat =
      (timer.value m.cpu).toNat - if m.counts action then 1 else 0 := by
  by_cases ticks : action = .tick
  · subst ticks
    by_cases runs : m.cpu.isRunnable = true ∧ isInt32 m.config.budget = true
    · have along : timer.Unset (m.cpu.tickTrail m.config.budget) := by
        rw [trail, if_pos runs.2] at unset
        exact unset
      have same := Timer.value_runFor_of_unset along
      rw [perform, value_tick timer runs.1 runs.2, same]
      cases timer <;> rfl
    · obtain ⟨_, still, uncounted⟩ := tick_of_idle runs
      rw [uncounted, perform, still]
      rfl
  · have uncounted : m.counts action = false := by
      rw [counts, decide_eq_false ticks, Bool.false_and, Bool.false_and]
    rw [value_perform_of_ne_tick timer kept ticks, uncounted]
    rfl

/-- A tick in which instructions set a timer leaves it at what the last of them has set it to, less
one if the tick counts. -/
theorem value_tick_of_setter {before later : List Cpu} {t : Cpu} {x : Register}
    (split : m.trail .tick = before ++ t :: later)
    (sets : t.nextInstruction? = some (timer.setter x)) (unset : timer.Unset later) :
    (timer.value m.tick.machine.cpu).toNat =
      (t.registers.get x).toNat - if m.counts .tick then 1 else 0 := by
  by_cases runs : m.cpu.isRunnable = true ∧ isInt32 m.config.budget = true
  · rw [trail, if_pos runs.2] at split
    rw [value_tick timer runs.1 runs.2, Timer.value_runFor_of_setter split sets unset]
  · rw [(tick_of_idle runs).1] at split
    cases before <;> cases split

/-! ## Spans -/

theorem value_after_of_unset {span : List Action} (kept : ∀ action ∈ span, action ≠ .reset)
    (unset : timer.Unset (m.trailOf span)) :
    (timer.value (m.after span).cpu).toNat = (timer.value m.cpu).toNat - m.countedTicks span := by
  induction span generalizing m with
  | nil => rfl
  | cons action rest ih =>
    obtain ⟨kept_now, kept_later⟩ := List.forall_mem_cons.mp kept
    obtain ⟨unset_now, unset_later⟩ := List.forall_mem_append.mp unset
    have now := value_perform_of_unset kept_now unset_now
    have later := ih kept_later unset_later
    rw [countedTicks_cons, ← Nat.sub_sub, ← now]
    exact later

/-- The last instruction of a span that sets a timer: the tick between `front` and `back` executes it
in the state `t`, and it takes the value of the register `x`. -/
structure LastSet (timer : Timer) (m : Machine) (span front back : List Action) (t : Cpu)
    (x : Register) : Prop where
  split : span = front ++ .tick :: back
  sets : t.nextInstruction? = some (timer.setter x)
  last : ∃ before later, (m.after front).trail .tick = before ++ t :: later ∧ timer.Unset later
  unset : timer.Unset ((m.after front).tick.machine.trailOf back)

/-- The last of the states from which a step sets a timer. -/
theorem exists_last_setter : ∀ {states : List Cpu}, ¬timer.Unset states →
    ∃ before t later x, states = before ++ t :: later ∧
      t.nextInstruction? = some (timer.setter x) ∧ timer.Unset later
  | [], some_set => absurd (fun _ member => absurd member List.not_mem_nil) some_set
  | t :: rest, some_set => by
    by_cases unset : timer.Unset rest
    · have first : ∃ x, t.nextInstruction? = some (timer.setter x) := by
        by_contra none_now
        exact some_set (List.forall_mem_cons.mpr ⟨not_exists.mp none_now, unset⟩)
      obtain ⟨x, sets⟩ := first
      exact ⟨[], t, rest, x, rfl, sets, unset⟩
    · obtain ⟨before, u, later, x, rfl, sets, unset_later⟩ := exists_last_setter unset
      exact ⟨t :: before, u, later, x, rfl, sets, unset_later⟩

theorem exists_lastSet : ∀ {span : List Action} {m : Machine}, ¬timer.Unset (m.trailOf span) →
    ∃ front back t x, LastSet timer m span front back t x
  | [], _, some_set => absurd (fun _ member => absurd member List.not_mem_nil) some_set
  | action :: rest, m, some_set => by
    by_cases unset : timer.Unset ((m.perform action).machine.trailOf rest)
    · have now : ¬timer.Unset (m.trail action) := fun unset_now =>
        some_set (List.forall_mem_append.mpr ⟨unset_now, unset⟩)
      obtain ⟨before, t, later, x, split, sets, unset_later⟩ := exists_last_setter now
      -- Only ticks have a trail.
      cases action with
      | tick => exact ⟨[], rest, t, x, rfl, sets, ⟨before, later, split, unset_later⟩, unset⟩
      | _ => cases before <;> cases split
    · obtain ⟨front, back, t, x, split, sets, last, unset_back⟩ := exists_lastSet unset
      exact ⟨action :: front, back, t, x, congrArg (List.cons action) split, sets, last, unset_back⟩

theorem value_after_of_lastSet {span front back : List Action} {t : Cpu} {x : Register}
    (kept : ∀ action ∈ span, action ≠ .reset) (last : LastSet timer m span front back t x) :
    (timer.value (m.after span).cpu).toNat =
      (t.registers.get x).toNat - (m.after front).countedTicks (.tick :: back) := by
  obtain ⟨rfl, sets, ⟨before, later, split, unset_later⟩, unset_back⟩ := last
  have kept_back : ∀ action ∈ back, action ≠ .reset := fun action member =>
    kept action (List.mem_append_right _ (List.mem_cons_of_mem _ member))
  have now := value_tick_of_setter split sets unset_later
  have after := value_after_of_unset kept_back unset_back
  rw [after_append, countedTicks_cons, ← Nat.sub_sub, ← now]
  exact after

/-- **Timers count ticks.** In a span of actions without a reset, from any machine on, let a tick count
if it starts on a processor that neither waits nor carries a fault and does not fail. If no
instruction sets a timer in the span, the timer ends at what it stood at less the number of ticks
that count, or at zero. Otherwise there is a last instruction that sets it, and the timer ends at
what that one has set it to less the number of ticks that count from the one that executed it on,
which is included, or at zero. -/
theorem timers_count_ticks (timer : Timer) (m : Machine) {span : List Action}
    (kept : ∀ action ∈ span, action ≠ .reset) :
    (timer.Unset (m.trailOf span) →
      (timer.value (m.after span).cpu).toNat =
        (timer.value m.cpu).toNat - m.countedTicks span) ∧
    (¬timer.Unset (m.trailOf span) → ∃ front back t x, LastSet timer m span front back t x) ∧
    ∀ front back t x, LastSet timer m span front back t x →
      (timer.value (m.after span).cpu).toNat =
        (t.registers.get x).toNat - (m.after front).countedTicks (.tick :: back) :=
  ⟨value_after_of_unset kept, exists_lastSet, fun _ _ _ _ => value_after_of_lastSet kept⟩

/-- The delay timer is set to five in the middle of a tick. That tick counts, and so does the next one,
which starts to wait for a key; ticks that wait, that fail and that fail again do not, nor does a key
that there is not. -/
theorem timers_count_ticks_around_wait :
    let m := start { Config.standard with budget := 2, budget_pos := by decide }
    let front := [.load [0x60, 0x05, 0xF0, 0x15, 0xF1, 0x0A, 0x00, 0xEE]]
    let back := [.tick, .setKey 16 true, .tick, .setKey 7 true, .tick, .tick]
    (∀ action ∈ front ++ .tick :: back, action ≠ .reset) ∧
      (∃ t, LastSet .delay m (front ++ .tick :: back) front back t 0 ∧ t.registers.get 0 = 5) ∧
      (m.after front).countedTicks (.tick :: back) = 2 ∧
      (Timer.delay.value (m.after (front ++ .tick :: back)).cpu).toNat = 3 := by
  intro m front back
  have kept : ∀ action ∈ front ++ .tick :: back, action ≠ .reset := by decide
  have two : ((m.after front).trail .tick).length = 2 := by decide +kernel
  have second : (((m.after front).trail .tick)[1]?.map fun t =>
      (t.nextInstruction?, t.registers.get 0)) = some (some (.setDelay 0), 5) := by decide +kernel
  have come_to : ∀ t ∈ (m.after front).tick.machine.trailOf back,
      t.nextInstruction? ∈ [some (.awaitKey 1), some .ret] := by decide +kernel
  have counted : (m.after front).countedTicks (.tick :: back) = 2 := by decide +kernel
  obtain ⟨t₀, t, split⟩ := List.length_eq_two.mp two
  rw [split] at second
  obtain ⟨sets, five⟩ := Prod.ext_iff.mp (Option.some.inj second)
  have unset : Timer.delay.Unset ((m.after front).tick.machine.trailOf back) := by
    intro u member x sets
    have listed := come_to u member
    rw [sets] at listed
    simp [Timer.setter] at listed
  have last : LastSet .delay m (front ++ .tick :: back) front back t 0 :=
    ⟨rfl, sets, ⟨[t₀], [], split, fun _ member => absurd member List.not_mem_nil⟩, unset⟩
  have ends := (timers_count_ticks .delay m kept).2.2 front back t 0 last
  have register : t.registers.get 0 = 5 := five
  rw [register, counted] at ends
  exact ⟨kept, ⟨t, last, register⟩, counted, ends⟩

end Machine

end Chip8
