import Chip8.Proofs.Wait

/-!
# Program counters that have left memory

A tick that fails to fetch a word fails with the address that it looked at. A later tick makes the
error anew, with the address that the program counter has by then: it is the same error as long as
nobody moves the program counter, or if the moves lead back to that address
(`Machine.stray_pc_reported`), and another one otherwise (`Machine.stray_pc_reported_after_move`).
-/

namespace Chip8

namespace Cpu

variable {s : Cpu} {p : Int}

theorem error?_eq_pcOutOfRange_iff :
    s.error? = some (.pcOutOfRange p) ↔ s.fault = some .pcOutOfRange ∧ (s.pc.toNat : Int) = p := by
  unfold error?
  cases s.fault with
  | none => simp
  | some fault => cases fault <;> simp

/-- Only a program counter past the end of memory makes a step record that it is out of range. -/
theorem step_of_stray (unfaulted : s.fault = none) (stray : s.step.fault = some .pcOutOfRange) :
    0x1000 ≤ s.pc.toNat ∧ s.step.pc = s.pc := by
  have next := s.stepsTo_step
  generalize s.step = t at next stray ⊢
  cases next with
  | outOfRange past => exact ⟨past, rfl⟩
  | halted fault inside cause =>
    cases stray
    rcases fault?_cases cause with ⟨same, _⟩ | same | same | same <;> cases same
  | ignored inside undefined lenient => exact nomatch unfaulted.symm.trans stray
  | performed i inside selected allowed =>
    rw [Instruction.effect_fault] at stray
    exact nomatch unfaulted.symm.trans stray

/-- A tick that ends with the program counter out of range leaves it where its last step found it. -/
theorem tick_of_stray {budget : Nat} (runnable : s.isRunnable = true)
    (stray : (s.tick budget).fault = some .pcOutOfRange) :
    ∃ last, (s.tickTrail budget).getLast? = some last ∧ 0x1000 ≤ last.pc.toNat ∧
      (s.tick budget).pc = last.pc := by
  obtain ⟨last, ends, ready, final⟩ := getLast?_tickTrail runnable stray
  rw [← final] at stray ⊢
  obtain ⟨past, still⟩ := step_of_stray (isRunnable_iff.mp ready).2 stray
  exact ⟨last, ends, past, still⟩

end Cpu

namespace Machine

variable {m : Machine} {action : Action} {p : Int}

/-! ## After the first error -/

/-- A machine whose program counter has been found out of range. -/
def Stray (m : Machine) : Prop := m.Halted (.pcOutOfRange m.cpu.pc.toNat)

theorem stray_of_failure_tick (raised : m.tick.failure = some (.execution (.pcOutOfRange p))) :
    m.tick.machine.Stray ∧ (m.tick.machine.cpu.pc.toNat : Int) = p := by
  have halted := halted_of_failure_tick raised
  obtain ⟨_, same⟩ := Cpu.error?_eq_pcOutOfRange_iff.mp halted.failed
  refine ⟨?_, same⟩
  rw [Stray, same]
  exact halted

theorem Stray.fault (h : m.Stray) : m.cpu.fault = some .pcOutOfRange :=
  (Cpu.error?_eq_pcOutOfRange_iff.mp h.failed).1

/-- An action that is no reset reaches keypad, memory and program counter only. -/
theorem Stray.machine_perform (h : m.Stray) (kept : action ≠ .reset) :
    (m.perform action).machine = m.idle [action] := by
  cases action with
  | reset => exact absurd rfl kept
  | setPc address => exact machine_setPc m address
  | _ => exact Halted.machine_perform h rfl

theorem Stray.idle (h : m.Stray) (script : List Action) : (m.idle script).Stray :=
  ⟨h.narrow, h.running, Cpu.error?_eq_pcOutOfRange_iff.mpr ⟨h.fault, rfl⟩⟩

/-- **A machine that has gone astray stays so until a reset**, with the program counter where it is
moved. -/
theorem Stray.after (h : m.Stray) {script : List Action} (kept : ∀ action ∈ script, action ≠ .reset) :
    m.after script = m.idle script := by
  induction script generalizing m with
  | nil => rfl
  | cons action rest ih =>
    obtain ⟨now, later⟩ := List.forall_mem_cons.mp kept
    have next := h.machine_perform now
    calc m.after (action :: rest)
        = (m.perform action).machine.after rest := rfl
      _ = (m.idle [action]).after rest := by rw [next]
      _ = (m.idle [action]).idle rest := ih (h.idle [action]) later
      _ = m.idle (action :: rest) := (m.idle_cons action rest).symm

/-- The next tick after a script names the address that the moves of the script have led to. -/
theorem Stray.failure_after (h : m.Stray) {script : List Action}
    (kept : ∀ action ∈ script, action ≠ .reset) :
    (m.after script).tick.failure =
      some (.execution (.pcOutOfRange (script.foldl Action.onPc m.cpu.pc).toNat)) := by
  rw [h.after kept, Halted.tick_eq (h.idle script)]
  rfl

/-! ## Before it -/

/-- Only a tick of a machine without a fault records that the program counter is out of range, and
it says so. -/
theorem tick_of_recorded (fresh : m.cpu.fault ≠ some .pcOutOfRange)
    (stray : (m.perform action).machine.cpu.fault = some .pcOutOfRange) :
    action = .tick ∧ m.cpu.fault = none ∧
      ∃ p, m.tick.failure = some (.execution (.pcOutOfRange p)) := by
  have ticks : action = .tick := by
    have acts := m.actsTo_perform action
    generalize (m.perform action).machine.cpu = s at acts stray
    cases acts with
    | ticked => rfl
    | keyed number isDown key found =>
      rw [Cpu.keyEvent_fault] at stray
      exact absurd stray fresh
    | restarted => cases stray
    | _ => exact absurd stray fresh
  subst ticks
  rw [perform, machine_tick] at stray
  by_cases narrow : isInt32 m.config.budget = true
  · rw [if_pos narrow] at stray
    cases runnable : m.cpu.isRunnable with
    | false =>
      rw [Cpu.tick_of_not_runnable _ runnable] at stray
      exact absurd stray fresh
    | true =>
      obtain ⟨running, unfaulted⟩ := Cpu.isRunnable_iff.mp runnable
      have error := Cpu.error?_eq_pcOutOfRange_iff.mpr ⟨stray, rfl⟩
      refine ⟨rfl, unfaulted, (m.cpu.tick m.config.budget).pc.toNat, ?_⟩
      rw [failure_tick, running, if_neg Bool.false_ne_true, if_pos narrow, error]
      rfl
  · rw [if_neg narrow] at stray
    exact absurd stray fresh

/-- The fault of a machine that has gone astray goes back to a tick that recorded it, with no reset
since. -/
theorem exists_origin (config : Config) (script : List Action)
    (stray : ((start config).after script).cpu.fault = some .pcOutOfRange) :
    ∃ past tail p, script = past ++ .tick :: tail ∧ (∀ action ∈ tail, action ≠ .reset) ∧
      ((start config).after past).cpu.fault = none ∧
      ((start config).after past).tick.failure = some (.execution (.pcOutOfRange p)) := by
  induction script using List.reverseRecOn with
  | nil => cases stray
  | append_singleton script action ih =>
    rw [after_concat] at stray
    by_cases before : ((start config).after script).cpu.fault = some .pcOutOfRange
    · obtain ⟨past, tail, p, rfl, kept, unfaulted, raised⟩ := ih before
      refine ⟨past, tail ++ [action], p, ?_, ?_, unfaulted, raised⟩
      · rw [List.append_assoc, List.cons_append]
      · refine List.forall_mem_append.mpr ⟨kept, List.forall_mem_singleton.mpr ?_⟩
        rintro rfl
        cases stray
    · obtain ⟨rfl, unfaulted, p, raised⟩ := tick_of_recorded before stray
      exact ⟨script, [], p, rfl, List.forall_mem_nil _, unfaulted, raised⟩

/-! ## The address that is reported -/

/-- The first error names the address that its tick fetched from. -/
theorem first_address_of_stray (unfaulted : m.cpu.fault = none)
    (raised : m.tick.failure = some (.execution (.pcOutOfRange p))) :
    0x1000 ≤ p ∧ ∃ last, (m.trail .tick).getLast? = some last ∧ (last.pc.toNat : Int) = p := by
  obtain ⟨stray, same⟩ := stray_of_failure_tick raised
  have narrow : isInt32 m.config.budget = true := by
    rw [← config_perform m .tick]
    exact stray.narrow
  rw [failure_tick] at raised
  cases waiting : m.cpu.waiting with
  | true =>
    rw [waiting, if_pos rfl] at raised
    cases raised
  | false =>
    have runnable : m.cpu.isRunnable = true := Cpu.isRunnable_iff.mpr ⟨waiting, unfaulted⟩
    have recorded := stray.fault
    rw [machine_tick, if_pos narrow] at recorded same
    obtain ⟨last, ends, past, still⟩ := Cpu.tick_of_stray runnable recorded
    rw [still] at same
    refine ⟨by omega, last, ?_, same⟩
    rw [trail, if_pos narrow, ends]

/-- A later error names the address that the program counter has by then. -/
theorem later_address_of_stray (faulted : m.cpu.fault ≠ none)
    (raised : m.tick.failure = some (.execution (.pcOutOfRange p))) :
    m.cpu.fault = some .pcOutOfRange ∧ (m.cpu.pc.toNat : Int) = p := by
  obtain ⟨fault, record⟩ := Option.ne_none_iff_exists'.mp faulted
  have still : m.tick.machine = m := by
    rw [machine_tick, Cpu.tick_of_not_runnable _ (Cpu.isRunnable_of_fault record), ite_self]
  have failed := (halted_of_failure_tick raised).failed
  rw [still] at failed
  exact Cpu.error?_eq_pcOutOfRange_iff.mp failed

/-- **A program counter out of range is reported where it is.** The tick that finds it past the end
of memory fails with the address that it could not fetch from. Up to the next reset every later tick
fails with the address that the moves of the program counter have led to since, which makes it the
same error exactly if they have led back. No other tick fails with such an error. -/
theorem stray_pc_reported (config : Config) (script : List Action) :
    let m := (start config).after script
    (∀ p, m.cpu.fault = none → m.tick.failure = some (.execution (.pcOutOfRange p)) →
      0x1000 ≤ p ∧
      (∃ last, (m.trail .tick).getLast? = some last ∧ (last.pc.toNat : Int) = p) ∧
      ∀ tail : List Action, (∀ action ∈ tail, action ≠ .reset) →
        let found := m.tick.machine.cpu.pc
        let moved := tail.foldl Action.onPc found
        let later := m.tick.machine.after tail
        later.tick.failure = some (.execution (.pcOutOfRange moved.toNat)) ∧
        (later.tick.failure = m.tick.failure ↔ moved = found)) ∧
    (∀ p, m.cpu.fault ≠ none → m.tick.failure = some (.execution (.pcOutOfRange p)) →
      ∃ past tail first,
        let origin := (start config).after past
        script = past ++ .tick :: tail ∧ (∀ action ∈ tail, action ≠ .reset) ∧
        origin.cpu.fault = none ∧
        origin.tick.failure = some (.execution (.pcOutOfRange first)) ∧
        (tail.foldl Action.onPc origin.tick.machine.cpu.pc).toNat = p) := by
  intro m
  constructor
  · intro p unfaulted raised
    obtain ⟨past, last⟩ := first_address_of_stray unfaulted raised
    obtain ⟨stray, same⟩ := stray_of_failure_tick raised
    refine ⟨past, last, ?_⟩
    intro tail kept found moved later
    have again : later.tick.failure = some (.execution (.pcOutOfRange moved.toNat)) :=
      stray.failure_after kept
    refine ⟨again, ?_⟩
    rw [again, raised, ← same, ← UInt16.toNat_inj, ← Int.natCast_inj]
    simp only [Option.some.injEq, Failure.execution.injEq, ExecutionError.pcOutOfRange.injEq]
    rfl
  · intro p faulted raised
    obtain ⟨recorded, same⟩ := later_address_of_stray faulted raised
    obtain ⟨past, tail, first, rfl, kept, unfaulted, failed⟩ := exists_origin config script recorded
    refine ⟨past, tail, first, rfl, kept, unfaulted, failed, ?_⟩
    have now : m = ((start config).after past).tick.machine.idle tail := by
      obtain ⟨stray, _⟩ := stray_of_failure_tick failed
      calc m
          = ((start config).after past).after (.tick :: tail) := after_append ..
        _ = ((start config).after past).tick.machine.idle tail := stray.after kept
    rw [← same, now]
    rfl

/-- Two moves that lead back to the address, modulo 65536, bring back the error. The error that one
of them makes of it on its own goes back to the same tick. -/
theorem stray_pc_reported_after_return :
    let m := (start .standard).after [.setPc 0x1000]
    let tail := [.setPc 0x200, .tick, .setPc 0x11000]
    let script := [.setPc 0x1000, .tick, .setPc 0x200]
    let moved := (start .standard).after script
    (m.cpu.fault = none ∧ m.tick.failure = some (.execution (.pcOutOfRange 0x1000)) ∧
      (∀ action ∈ tail, action ≠ .reset) ∧
      (m.tick.machine.after tail).tick.failure = m.tick.failure) ∧
    moved.cpu.fault ≠ none ∧ moved.tick.failure = some (.execution (.pcOutOfRange 0x200)) ∧
      ∃ past later first, script = past ++ .tick :: later ∧
        ((start .standard).after past).tick.failure = some (.execution (.pcOutOfRange first)) := by
  intro m tail script moved
  have unfaulted : m.cpu.fault = none := by decide +kernel
  have raised : m.tick.failure = some (.execution (.pcOutOfRange 0x1000)) := by decide +kernel
  have kept : ∀ action ∈ tail, action ≠ .reset := by decide
  have faulted : moved.cpu.fault ≠ none := by decide +kernel
  have raised_moved : moved.tick.failure = some (.execution (.pcOutOfRange 0x200)) := by
    decide +kernel
  obtain ⟨_, _, later⟩ := (stray_pc_reported .standard _).1 0x1000 unfaulted raised
  obtain ⟨past, rest, first, split, _, _, failed, _⟩ :=
    (stray_pc_reported .standard script).2 0x200 faulted raised_moved
  refine ⟨⟨unfaulted, raised, kept, (later tail kept).2.mpr ?_⟩, faulted, raised_moved, past, rest,
    first, split, failed⟩
  decide +kernel

/-- After a move into memory the error names an address that can be fetched from, and that no tick
has tried to. -/
theorem stray_pc_reported_after_move :
    let m := (start .standard).after [.setPc 0x1000, .tick, .setPc 0x200]
    m.tick.failure = some (.execution (.pcOutOfRange 0x200)) ∧
      ((start .standard).after [.setPc 0x1000]).tick.failure =
        some (.execution (.pcOutOfRange 0x1000)) ∧
      m.trail .tick = [] := by
  decide +kernel

end Machine

end Chip8
