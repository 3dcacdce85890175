import Chip8.CommandLine.Report
import Chip8.Proofs.Wait

/-!
# Watched runs

A watched run stops at the first tick that fails or that leaves the program waiting for a key, and
nobody can tell (`Session.watch_eq_ticks`): it ends in the machine that all the ticks would have led
to, and with the first of their failures. For after such a tick (`Machine.Stops`) the machine is at
rest (`Machine.AtRest`).
-/

namespace Chip8

namespace Machine

variable {m : Machine} {failure : Failure}

/-- The next tick fails, or leaves the program waiting for a key. -/
def Stops (m : Machine) : Prop := m.tick.failure.isSome = true ∨ m.tick.machine.cpu.waiting = true

/-- A tick leaves the machine as it is. -/
def AtRest (m : Machine) : Prop := m.tick.machine = m

theorem atRest_of_waiting (waiting : m.cpu.waiting = true) : m.AtRest := by
  rw [AtRest, tick_of_waiting waiting]

/-- A machine whose tick has failed is at rest, whether its program or its budget was to blame. -/
theorem atRest_of_failure (failed : m.tick.failure = some failure) : m.tick.machine.AtRest := by
  by_cases narrow : isInt32 m.config.budget = true
  · rw [failure_tick, if_pos narrow] at failed
    split_ifs at failed with waiting
    obtain ⟨error, found, _⟩ := Option.map_eq_some_iff.mp failed
    obtain ⟨fault, faulted⟩ := Cpu.exists_fault_of_error? found
    rw [AtRest, machine_tick, machine_tick, if_pos narrow, if_pos narrow,
      Cpu.tick_of_not_runnable _ (Cpu.isRunnable_of_fault faulted)]
  · rw [AtRest, machine_tick, machine_tick, if_neg narrow, if_neg narrow]

theorem after_ticks_of_atRest (rest : m.AtRest) (count : Nat) :
    m.after (List.replicate count .tick) = m := by
  induction count with
  | zero => rfl
  | succ count ih =>
    calc m.after (List.replicate (count + 1) .tick)
        = m.tick.machine.after (List.replicate count .tick) := rfl
      _ = m.after (List.replicate count .tick) := by rw [rest]
      _ = m := ih

/-- No tick of a waiting machine fails. -/
theorem failures_ticks_of_waiting (waiting : m.cpu.waiting = true) (count : Nat) :
    m.failures (List.replicate count .tick) = List.replicate count none := by
  induction count with
  | zero => rfl
  | succ count ih =>
    simp only [List.replicate_succ, failures, perform, tick_of_waiting waiting, ih]

/-- A tick whose budget is not refused fails by an error of the program only. -/
theorem execution_of_mem_failures (narrow : isInt32 m.config.budget = true) {count : Nat}
    (member : some failure ∈ m.failures (List.replicate count .tick)) :
    ∃ error, failure = .execution error := by
  induction count generalizing m with
  | zero => exact absurd member List.not_mem_nil
  | succ count ih =>
    rcases List.mem_cons.mp member with now | later
    · have failed : m.tick.failure = some failure := now.symm
      rw [failure_tick, if_pos narrow] at failed
      split_ifs at failed
      obtain ⟨error, _, rfl⟩ := Option.map_eq_some_iff.mp failed
      exact ⟨error, rfl⟩
    · refine ih ?_ later
      rw [config_perform]
      exact narrow

end Machine

namespace Session

variable {s : Session} {failure : Failure}

theorem watch_of_failure (failed : s.machine.tick.failure = some failure) (count : Nat) :
    s.watch (count + 1) = s.perform .tick := by
  have shown : (s.perform .tick).2.failure = some failure := failed
  simp [watch, shown]

/-- A run whose first tick leaves the program waiting ends with it. -/
theorem watch_of_waiting (succeeded : s.machine.tick.failure = none)
    (waiting : s.machine.tick.machine.cpu.waiting = true) (count : Nat) :
    s.watch (count + 1) = s.watch 1 ∧ (s.watch 1).1.machine = s.machine.tick.machine ∧
      (s.watch 1).2.failure = none := by
  have silent : (s.perform .tick).2.failure = none := succeeded
  have awaits : (s.perform .tick).1.machine.cpu.awaitedRegister? =
    some s.machine.tick.machine.cpu.keyRegister := if_pos waiting
  simp only [watch, silent, awaits, Option.isSome_none, Bool.false_eq_true, if_false, true_and,
    and_true]
  rfl

/-- A run whose first tick does neither goes on. -/
theorem watch_of_running (succeeded : s.machine.tick.failure = none)
    (running : s.machine.tick.machine.cpu.waiting = false) (count : Nat) :
    s.watch (count + 1) =
      let rest := (s.perform .tick).1.watch count
      (rest.1, ⟨(s.perform .tick).2.lines ++ rest.2.lines, rest.2.failure⟩) := by
  have silent : (s.perform .tick).2.failure = none := succeeded
  have awaits : (s.perform .tick).1.machine.cpu.awaitedRegister? = none :=
    if_neg (Bool.eq_false_iff.mp running)
  simp [watch, silent, awaits]

/-- A run that stops at its first tick looks at no later one. -/
theorem watch_of_stops (stops : s.machine.Stops) (count : Nat) :
    s.watch (count + 1) = s.watch 1 := by
  cases failed : s.machine.tick.failure with
  | some failure => rw [watch_of_failure failed, watch_of_failure failed]
  | none =>
    rcases stops with failing | waiting
    · rw [failed] at failing
      cases failing
    · exact (watch_of_waiting failed waiting count).1

/-- **A watched run stops early.** After a tick that fails or that leaves the program waiting it does
what it does when no ticks are left. -/
theorem watch_stops {first count : Nat} (within : first < count)
    (stops : (s.machine.after (List.replicate first .tick)).Stops) :
    s.watch count = s.watch (first + 1) := by
  obtain ⟨count, rfl⟩ := Nat.exists_eq_add_one.mpr (Nat.zero_lt_of_lt within)
  induction first generalizing s count with
  | zero => exact watch_of_stops stops count
  | succ first ih =>
    by_cases now : s.machine.Stops
    · exact (watch_of_stops now count).trans (watch_of_stops now (first + 1)).symm
    · have succeeded : s.machine.tick.failure = none :=
        Option.not_isSome_iff_eq_none.mp fun failing => now (.inl failing)
      have running : s.machine.tick.machine.cpu.waiting = false :=
        Bool.eq_false_iff.mpr fun waiting => now (.inr waiting)
      have within_rest : first < count := Nat.lt_of_succ_lt_succ within
      obtain ⟨later, rfl⟩ := Nat.exists_eq_add_one.mpr (Nat.zero_lt_of_lt within_rest)
      rw [watch_of_running succeeded running, watch_of_running succeeded running,
        ih (s := (s.perform .tick).1) stops later within_rest]

/-- **Nobody can tell that a watched run stops early.** It ends in the machine that all its ticks lead
to, and it fails as the first of them that does. -/
theorem watch_eq_ticks (s : Session) (count : Nat) :
    (s.watch count).1.machine = s.machine.after (List.replicate count .tick) ∧
      (s.watch count).2.failure =
        (s.machine.failures (List.replicate count .tick)).findSome? id := by
  induction count generalizing s with
  | zero => exact ⟨rfl, rfl⟩
  | succ count ih =>
    have ticked : s.machine.after (List.replicate (count + 1) .tick) =
        s.machine.tick.machine.after (List.replicate count .tick) := rfl
    have failures : s.machine.failures (List.replicate (count + 1) .tick) =
        s.machine.tick.failure :: s.machine.tick.machine.failures (List.replicate count .tick) := rfl
    rw [ticked, failures]
    cases failed : s.machine.tick.failure with
    | some failure =>
      rw [watch_of_failure failed, Machine.after_ticks_of_atRest (Machine.atRest_of_failure failed)]
      exact ⟨rfl, failed⟩
    | none =>
      rw [List.findSome?_cons_of_isNone rfl]
      cases waiting : s.machine.tick.machine.cpu.waiting with
      | true =>
        obtain ⟨stopped, last, succeeded⟩ := watch_of_waiting failed waiting count
        rw [stopped, last, succeeded,
          Machine.after_ticks_of_atRest (Machine.atRest_of_waiting waiting),
          Machine.failures_ticks_of_waiting waiting]
        refine ⟨rfl, ?_⟩
        symm
        rw [List.findSome?_eq_none_iff]
        intro found member
        exact List.eq_of_mem_replicate member
      | false =>
        rw [watch_of_running failed waiting]
        exact ih (s.perform .tick).1

end Session

end Chip8
