import Chip8.Cpu.Execute
import Mathlib.Logic.Function.Iterate

/-!
# Runs

A run takes steps while its budget lasts and the processor is runnable. Its trail (`Cpu.trail`) is
the list of states that it takes a step from, so the length of the trail is the number of steps, and
what every step keeps holds along the trail and at the end (`Cpu.runFor_keeps`).
-/

namespace Chip8.Cpu

/-- The states that a run takes a step from, in order. -/
def trail : Nat → Cpu → List Cpu
  | 0, _ => []
  | budget + 1, s => if s.isRunnable then s :: trail budget s.step else []

/-- The states that a tick takes a step from. The flag of drawing is cleared before the first. -/
def tickTrail (budget : Nat) (s : Cpu) : List Cpu := trail budget { s with drawn := false }

theorem isRunnable_iff {s : Cpu} : s.isRunnable = true ↔ s.waiting = false ∧ s.fault = none := by
  simp only [isRunnable, Bool.and_eq_true, Bool.not_eq_true', Option.isNone_iff_eq_none]

/-! ## Single steps of a run -/

theorem isRunnable_of_waiting {s : Cpu} (waiting : s.waiting = true) : s.isRunnable = false := by
  rw [isRunnable, waiting, Bool.not_true, Bool.false_and]

theorem isRunnable_of_fault {s : Cpu} {fault : Fault} (faulted : s.fault = some fault) :
    s.isRunnable = false := by
  rw [isRunnable, faulted, Option.isNone_some, Bool.and_false]

theorem runFor_succ {s : Cpu} (budget : Nat) (runnable : s.isRunnable = true) :
    runFor (budget + 1) s = runFor budget s.step := by
  rw [runFor, if_pos runnable]

theorem trail_succ {s : Cpu} (budget : Nat) (runnable : s.isRunnable = true) :
    trail (budget + 1) s = s :: trail budget s.step := by
  rw [trail, if_pos runnable]

theorem runFor_of_not_runnable {s : Cpu} (budget : Nat) (stuck : s.isRunnable = false) :
    runFor budget s = s := by
  cases budget with
  | zero => rfl
  | succ budget => rw [runFor, if_neg (Bool.eq_false_iff.mp stuck)]

theorem trail_of_not_runnable {s : Cpu} (budget : Nat) (stuck : s.isRunnable = false) :
    trail budget s = [] := by
  cases budget with
  | zero => rfl
  | succ budget => rw [trail, if_neg (Bool.eq_false_iff.mp stuck)]

/-! ## Whole runs -/

/-- **What every step keeps, a run keeps**: it holds at the end and in every state on the trail. -/
theorem runFor_keeps {P : Cpu → Prop} (keep : ∀ t, t.isRunnable = true → P t → P t.step) :
    ∀ (budget : Nat) {s : Cpu}, P s → P (runFor budget s) ∧ ∀ t ∈ trail budget s, P t
  | 0, _, start => ⟨start, fun _ member => absurd member List.not_mem_nil⟩
  | budget + 1, s, start => by
    cases runnable : s.isRunnable with
    | false =>
      rw [runFor_of_not_runnable _ runnable, trail_of_not_runnable _ runnable]
      exact ⟨start, fun _ member => absurd member List.not_mem_nil⟩
    | true =>
      obtain ⟨last, along⟩ := runFor_keeps keep budget (keep s runnable start)
      rw [runFor_succ budget runnable, trail_succ budget runnable]
      exact ⟨last, List.forall_mem_cons.mpr ⟨start, along⟩⟩

/-- What every step along the trail keeps, a run keeps. -/
theorem runFor_keeps_along {P : Cpu → Prop} : ∀ (budget : Nat) {s : Cpu}, P s →
    (∀ t ∈ trail budget s, P t → P t.step) → P (runFor budget s)
  | 0, _, start, _ => start
  | budget + 1, s, start, keep => by
    cases runnable : s.isRunnable with
    | false =>
      rw [runFor_of_not_runnable _ runnable]
      exact start
    | true =>
      rw [trail_succ budget runnable] at keep
      obtain ⟨now, later⟩ := List.forall_mem_cons.mp keep
      rw [runFor_succ budget runnable]
      exact runFor_keeps_along budget (now start) later

/-- Steps are taken from runnable states only. -/
theorem isRunnable_of_mem_trail : ∀ {budget : Nat} {s t : Cpu}, t ∈ trail budget s → t.isRunnable = true
  | 0, _, _, member => absurd member List.not_mem_nil
  | budget + 1, s, t, member => by
    cases runnable : s.isRunnable with
    | false =>
      rw [trail_of_not_runnable _ runnable] at member
      exact absurd member List.not_mem_nil
    | true =>
      rw [trail_succ budget runnable] at member
      rcases List.mem_cons.mp member with rfl | later
      · exact runnable
      · exact isRunnable_of_mem_trail later

/-- A run is as many steps as its trail is long. -/
theorem runFor_eq_iterate : ∀ (budget : Nat) (s : Cpu),
    runFor budget s = step^[(trail budget s).length] s
  | 0, _ => rfl
  | budget + 1, s => by
    cases runnable : s.isRunnable with
    | false => rw [runFor_of_not_runnable _ runnable, trail_of_not_runnable _ runnable]; rfl
    | true =>
      rw [runFor_succ budget runnable, trail_succ budget runnable, List.length_cons,
        Function.iterate_succ_apply]
      exact runFor_eq_iterate budget s.step

/-- The trail of a run is the states that its steps go through. -/
theorem trail_eq_map : ∀ (budget : Nat) (s : Cpu),
    trail budget s = (List.range (trail budget s).length).map fun i => step^[i] s
  | 0, _ => rfl
  | budget + 1, s => by
    cases runnable : s.isRunnable with
    | false =>
      rw [trail_of_not_runnable _ runnable]
      rfl
    | true =>
      rw [trail_succ budget runnable, List.length_cons, List.range_succ_eq_map, List.map_cons,
        List.map_map]
      exact congrArg (List.cons s) (trail_eq_map budget s.step)

/-- A run ends with the step that leads to a halt. -/
theorem runFor_of_mem_trail : ∀ {budget : Nat} {s t : Cpu}, t ∈ trail budget s →
    t.step.isRunnable = false → runFor budget s = t.step
  | 0, _, _, member, _ => absurd member List.not_mem_nil
  | budget + 1, s, t, member, stuck => by
    cases runnable : s.isRunnable with
    | false =>
      rw [trail_of_not_runnable _ runnable] at member
      exact absurd member List.not_mem_nil
    | true =>
      rw [trail_succ budget runnable] at member
      rw [runFor_succ budget runnable]
      rcases List.mem_cons.mp member with rfl | later
      · exact runFor_of_not_runnable budget stuck
      · exact runFor_of_mem_trail later stuck

/-- A run from any state on its trail takes the rest of the trail. -/
theorem runFor_of_trail_eq : ∀ {budget : Nat} {s t : Cpu} {before later : List Cpu},
    trail budget s = before ++ t :: later →
      ∃ rest, runFor budget s = runFor rest t.step ∧ trail rest t.step = later
  | 0, _, _, before, _, split => by
    cases before <;> cases split
  | budget + 1, s, t, before, later, split => by
    cases runnable : s.isRunnable with
    | false =>
      rw [trail_of_not_runnable _ runnable] at split
      cases before <;> cases split
    | true =>
      rw [trail_succ budget runnable] at split
      rw [runFor_succ budget runnable]
      cases before with
      | nil =>
        obtain ⟨rfl, rfl⟩ := List.cons.inj split
        exact ⟨budget, rfl, rfl⟩
      | cons u before =>
        exact runFor_of_trail_eq (List.cons.inj split).2

/-- A run that comes to a halt does so with the step from the last state of its trail. -/
theorem getLast?_trail : ∀ {budget : Nat} {s : Cpu}, s.isRunnable = true →
    (runFor budget s).isRunnable = false →
    ∃ t, (trail budget s).getLast? = some t ∧ t.isRunnable = true ∧ t.step = runFor budget s
  | 0, s, runnable, stuck => by
    rw [runFor, runnable] at stuck
    cases stuck
  | budget + 1, s, runnable, stuck => by
    rw [runFor_succ budget runnable] at stuck ⊢
    rw [trail_succ budget runnable]
    cases next : s.step.isRunnable with
    | false =>
      rw [trail_of_not_runnable _ next, runFor_of_not_runnable _ next]
      exact ⟨s, rfl, runnable, rfl⟩
    | true =>
      obtain ⟨t, last, ready, final⟩ := getLast?_trail next stuck
      refine ⟨t, ?_, ready, final⟩
      rw [List.getLast?_cons, last, Option.getD_some]

/-- A run in two parts. A first part that comes to a halt leaves nothing to the second. -/
theorem runFor_add : ∀ (a b : Nat) (s : Cpu), runFor (a + b) s = runFor b (runFor a s)
  | 0, b, s => by rw [Nat.zero_add]; rfl
  | a + 1, b, s => by
    rw [Nat.add_right_comm]
    cases runnable : s.isRunnable with
    | false =>
      rw [runFor_of_not_runnable _ runnable, runFor_of_not_runnable _ runnable,
        runFor_of_not_runnable _ runnable]
    | true =>
      rw [runFor_succ _ runnable, runFor_succ _ runnable]
      exact runFor_add a b s.step

theorem trail_add : ∀ (a b : Nat) (s : Cpu), trail (a + b) s = trail a s ++ trail b (runFor a s)
  | 0, b, s => by rw [Nat.zero_add]; rfl
  | a + 1, b, s => by
    rw [Nat.add_right_comm]
    cases runnable : s.isRunnable with
    | false =>
      rw [trail_of_not_runnable _ runnable, trail_of_not_runnable _ runnable,
        runFor_of_not_runnable _ runnable, trail_of_not_runnable _ runnable, List.append_nil]
    | true =>
      rw [trail_succ _ runnable, trail_succ _ runnable, runFor_succ _ runnable, List.cons_append,
        trail_add a b s.step]

/-- **A relation that steps carry over, runs carry over**, if it lets both processors run or neither.
`P` is what is known of every state that the first one takes a step from. -/
theorem runFor_related {R : Cpu → Cpu → Prop} {P : Cpu → Prop}
    (ready : ∀ {s t}, R s t → t.isRunnable = s.isRunnable)
    (carry : ∀ {s t}, R s t → P s → R s.step t.step) :
    ∀ (budget : Nat) {s t : Cpu}, R s t → (∀ u ∈ trail budget s, P u) →
      R (runFor budget s) (runFor budget t)
  | 0, _, _, related, _ => related
  | budget + 1, s, t, related, along => by
    have same := ready related
    cases runnable : s.isRunnable with
    | false =>
      rw [runFor_of_not_runnable _ runnable, runFor_of_not_runnable _ (same.trans runnable)]
      exact related
    | true =>
      rw [trail_succ budget runnable] at along
      obtain ⟨now, later⟩ := List.forall_mem_cons.mp along
      rw [runFor_succ budget runnable, runFor_succ budget (same.trans runnable)]
      exact runFor_related ready carry budget (carry related now) later

/-! ## Ticks -/

theorem tick_of_not_runnable {s : Cpu} (budget : Nat) (stuck : s.isRunnable = false) :
    s.tick budget = s := by
  rw [tick, if_neg (Bool.eq_false_iff.mp stuck)]

/-- What every step keeps, and also clearing the flag of drawing and counting the timers, a tick
keeps. -/
theorem tick_keeps {P : Cpu → Prop} (clear : ∀ t, P t → P { t with drawn := false })
    (count : ∀ t, P t → P t.countDown) (keep : ∀ t, t.isRunnable = true → P t → P t.step)
    (budget : Nat) {s : Cpu} (start : P s) : P (s.tick budget) := by
  unfold tick
  split
  · have last := (runFor_keeps keep budget (clear s start)).1
    dsimp only
    split
    · exact count _ last
    · exact last
  · exact start

/-- What counting the timers leaves alone is after a tick as it is after its run. -/
theorem field_tick {α : Type} (field : Cpu → α) (uncounted : ∀ t, field t.countDown = field t)
    {s : Cpu} (budget : Nat) (runnable : s.isRunnable = true) :
    field (s.tick budget) = field (runFor budget { s with drawn := false }) := by
  rw [tick, if_pos runnable]
  dsimp only
  split
  · exact uncounted _
  · rfl

/-- What relates two processors still relates them after a tick of both, if it also carries over the
boundaries of a tick and if a fault of one is a fault of the other. -/
theorem tick_related {R : Cpu → Cpu → Prop} {P : Cpu → Prop}
    (ready : ∀ {s t}, R s t → t.isRunnable = s.isRunnable)
    (same_fault : ∀ {s t}, R s t → t.fault = s.fault)
    (clear : ∀ {s t}, R s t → R { s with drawn := false } { t with drawn := false })
    (count : ∀ {s t}, R s t → R s.countDown t.countDown)
    (carry : ∀ {s t}, R s t → P s → R s.step t.step)
    (budget : Nat) {s t : Cpu} (related : R s t) (along : ∀ u ∈ s.tickTrail budget, P u) :
    R (s.tick budget) (t.tick budget) := by
  have same := ready related
  cases runnable : s.isRunnable with
  | false =>
    rw [tick_of_not_runnable _ runnable, tick_of_not_runnable _ (same.trans runnable)]
    exact related
  | true =>
    have last := runFor_related ready carry budget (clear related) along
    rw [tick, tick, if_pos runnable, if_pos (same.trans runnable)]
    dsimp only
    rw [same_fault last]
    split
    · exact count last
    · exact last

/-- Counting the timers touches no record of a fault. -/
theorem fault_tick {s : Cpu} (budget : Nat) (runnable : s.isRunnable = true) :
    (s.tick budget).fault = (runFor budget { s with drawn := false }).fault :=
  field_tick Cpu.fault (fun _ => rfl) budget runnable

theorem tick_of_unfaulted {s : Cpu} {budget : Nat} (runnable : s.isRunnable = true)
    (unfaulted : (s.tick budget).fault = none) :
    s.tick budget = (runFor budget { s with drawn := false }).countDown := by
  rw [fault_tick budget runnable] at unfaulted
  rw [tick, if_pos runnable]
  dsimp only
  rw [unfaulted, Option.isNone_none, if_pos rfl]

/-- A tick that ends in a fault ends where its run does: the timers are not counted. -/
theorem tick_of_fault {s : Cpu} {budget : Nat} {fault : Fault} (runnable : s.isRunnable = true)
    (faulted : (s.tick budget).fault = some fault) :
    s.tick budget = runFor budget { s with drawn := false } := by
  rw [fault_tick budget runnable] at faulted
  rw [tick, if_pos runnable]
  dsimp only
  rw [faulted, Option.isNone_some, if_neg Bool.false_ne_true]

/-- A tick that ends in a fault ends with the step from the last state of its trail. -/
theorem getLast?_tickTrail {s : Cpu} {budget : Nat} {fault : Fault} (runnable : s.isRunnable = true)
    (faulted : (s.tick budget).fault = some fault) :
    ∃ last, (s.tickTrail budget).getLast? = some last ∧ last.isRunnable = true ∧
      last.step = s.tick budget := by
  rw [tick_of_fault runnable faulted]
  rw [fault_tick budget runnable] at faulted
  exact getLast?_trail (s := { s with drawn := false }) runnable (isRunnable_of_fault faulted)

/-! ## Errors -/

theorem error?_of_unfaulted {s : Cpu} (unfaulted : s.fault = none) : s.error? = none := by
  rw [error?, unfaulted, Option.map_none]

theorem exists_fault_of_error? {s : Cpu} {error : ExecutionError} (failed : s.error? = some error) :
    ∃ fault, s.fault = some fault := by
  obtain ⟨fault, faulted, _⟩ := Option.map_eq_some_iff.mp failed
  exact ⟨fault, faulted⟩

end Chip8.Cpu
