import Chip8.Proofs.Atomic
import Chip8.Proofs.Sticky
import Mathlib.Order.Interval.Set.Defs

/-!
# Accesses past the end of memory

A word that goes to memory through the index touches the addresses from the index on, as many as its
fields say. It fails if one of them lies past the end of memory, and the error tells the index and
their number (`Machine.overrun_reported`). A sprite without rows touches nothing, and yet it fails
when the index lies past the end (`Machine.overrun_of_empty_sprite`): what is checked is the end of
the access and not its addresses.
-/

namespace Chip8

/-- An access fails if it ends past the end of memory. -/
theorem Instruction.fault?_of_reach? {i : Instruction} {size : Nat} (reach : i.reach? = some size)
    (s : Cpu) :
    i.fault? s = if 0x1000 < s.index.toNat + size then some .outOfBounds else none := by
  cases i with
  | draw x y n | decimal x | store x | load x =>
    cases reach
    simp only [fault?, reach?, Option.bind_some, Cpu.overruns, decide_eq_true_eq]
    rfl
  | _ => cases reach

namespace Cpu

/-- The addresses that an access of so many bytes touches, from the index on. -/
def touched (s : Cpu) (size : Nat) : Set Nat := Set.Ico s.index.toNat (s.index.toNat + size)

/-- A word records a fault: it leaves this one behind where there was none before. -/
def Records (s : Cpu) (w : Int) (fault : Fault) : Prop :=
  ({ s with fault := none }.execute w).fault = some fault

variable {s : Cpu} {w : Int} {size : Nat} {fault : Fault}

/-! ## Words -/

theorem records_iff : s.Records w fault ↔ s.fault? w = some fault := by
  have same : { s with fault := none }.fault? w = s.fault? w := fault?_congr rfl rfl rfl w
  constructor
  · intro recorded
    cases found : s.fault? w with
    | none =>
      have kept := (execute_record (same.trans found)).1
      exact nomatch kept.symm.trans recorded
    | some other =>
      rw [Records, execute, executeOn, same, found] at recorded
      exact recorded
  · intro found
    rw [Records, execute, executeOn, same, found]
    rfl

theorem fault?_of_accessSize? (access : (Fields.ofWord w).accessSize? = some size) :
    s.fault? w = if 0x1000 < s.index.toNat + size then some .outOfBounds else none := by
  obtain ⟨i, selected, reach⟩ := Fields.accessSize?_eq_some_iff.mp access
  have chosen : Instruction.ofWord? w = some i := selected
  rw [fault?, chosen]
  exact Instruction.fault?_of_reach? reach s

theorem records_overrun_iff (access : (Fields.ofWord w).accessSize? = some size) :
    s.Records w .outOfBounds ↔ 0x1000 < s.index.toNat + size := by
  rw [records_iff, fault?_of_accessSize? access, Option.ite_none_right_eq_some]
  exact and_iff_left rfl

/-- An access touches an address past the end of memory if it ends there and is not empty. -/
theorem exists_touched_past_iff :
    (∃ address ∈ s.touched size, 0x1000 ≤ address) ↔
      0 < size ∧ 0x1000 < s.index.toNat + size := by
  simp only [touched, Set.mem_Ico]
  constructor
  · rintro ⟨address, ⟨above, below⟩, past⟩
    omega
  · rintro ⟨filled, past⟩
    exact ⟨s.index.toNat + size - 1, by omega, by omega⟩

theorem toNat_ofInt (w : Int) : ((UInt16.ofInt w).toNat : Int) = w % 65536 := by
  rw [UInt16.ofInt, UInt16.toNat_ofNat']
  omega

/-- The recorded word asks for as many bytes as the word that was executed. -/
theorem accessSize?_ofInt (w : Int) :
    (Fields.ofWord (UInt16.ofInt w).toNat).accessSize? = (Fields.ofWord w).accessSize? := by
  rw [toNat_ofInt, Fields.ofWord_emod]
  rfl

/-- What an access that fails leaves behind, and the error made from it. -/
theorem execute_of_overrun (access : (Fields.ofWord w).accessSize? = some size)
    (past : 0x1000 < s.index.toNat + size) :
    s.execute w = { s with fault := some .outOfBounds, faultWord := UInt16.ofInt w } ∧
      (s.execute w).error? = some (.outOfBounds s.index.toNat size) := by
  have halted : s.execute w = s.halt .outOfBounds w := by
    rw [execute, executeOn, fault?_of_accessSize? access, if_pos past]
  have reported : reachOfWord (UInt16.ofInt w) = size :=
    reachOfWord_of_accessSize? ((accessSize?_ofInt w).trans access)
  refine ⟨halted, ?_⟩
  rw [halted]
  show some (ExecutionError.outOfBounds s.index.toNat (reachOfWord (UInt16.ofInt w))) = _
  rw [reported]

/-- Only a sprite without rows asks for no byte. -/
theorem accessSize?_eq_zero {f : Fields} (empty : f.accessSize? = some 0) :
    f.group = 13 ∧ f.n = 0 := by
  unfold Fields.accessSize? at empty
  split_ifs at empty with draws
  · exact ⟨draws, Fin.ext (Option.some.inj empty)⟩
  all_goals cases empty

/-! ## Runs -/

/-- A recorded overrun can be told from the recorded word and the index. -/
def OverrunKept (s : Cpu) : Prop :=
  s.fault = some .outOfBounds → ∃ size : Nat,
    (Fields.ofWord s.faultWord.toNat).accessSize? = some size ∧ 0x1000 < s.index.toNat + size

theorem OverrunKept.of_unfaulted (unfaulted : s.fault = none) : s.OverrunKept :=
  fun recorded => nomatch unfaulted.symm.trans recorded

theorem exists_overrun_of_fault? (found : s.fault? w = some .outOfBounds) :
    ∃ size : Nat, (Fields.ofWord w).accessSize? = some size ∧ 0x1000 < s.index.toNat + size := by
  rcases fault?_eq_some_iff.mp found with ⟨_, _, differs⟩ | ⟨i, selected, found⟩
  · cases differs
  · rcases Instruction.fault?_eq_some_iff.mp found with
      ⟨_, _, differs⟩ | ⟨_, _, _, differs⟩ | ⟨size, reach, past, _⟩
    · cases differs
    · cases differs
    · have access := Fields.accessSize?_eq_some_iff.mpr ⟨i, selected, reach⟩
      exact ⟨size, access, of_decide_eq_true past⟩

theorem overrunKept_step (runnable : s.isRunnable = true) : s.step.OverrunKept := by
  have unfaulted := (isRunnable_iff.mp runnable).2
  have next := s.stepsTo_step
  generalize s.step = t at next ⊢
  cases next with
  | outOfRange past => exact nofun
  | halted fault inside cause =>
    intro recorded
    cases recorded
    obtain ⟨size, access, past⟩ := exists_overrun_of_fault? cause
    exact ⟨size, (accessSize?_ofInt _).trans access, past⟩
  | ignored inside undefined lenient => exact .of_unfaulted unfaulted
  | performed i inside selected allowed =>
    exact .of_unfaulted ((Instruction.effect_fault Memory.openBus s.fetch.2 i).trans unfaulted)

theorem OverrunKept.tick (h : s.OverrunKept) (budget : Nat) : (s.tick budget).OverrunKept :=
  tick_keeps (fun _ h => h) (fun _ h => h) (fun _ runnable _ => overrunKept_step runnable) budget h

theorem OverrunKept.keyEvent (h : s.OverrunKept) (key : Key) (isDown : Bool) :
    (s.keyEvent key isDown).OverrunKept := by
  unfold Cpu.keyEvent
  dsimp only
  split <;> exact h

/-- The error of a recorded overrun. -/
theorem OverrunKept.error_eq (h : s.OverrunKept) {address reported : Int}
    (failed : s.error? = some (.outOfBounds address reported)) :
    ∃ size : Nat, (Fields.ofWord s.faultWord.toNat).accessSize? = some size ∧
      0x1000 < s.index.toNat + size ∧ address = s.index.toNat ∧ reported = size := by
  obtain ⟨fault, recorded, same⟩ := Option.map_eq_some_iff.mp failed
  cases fault with
  | outOfBounds =>
    obtain ⟨size, access, past⟩ := h recorded
    cases same
    exact ⟨size, access, past, rfl, congrArg Nat.cast (reachOfWord_of_accessSize? access)⟩
  | _ => cases same

end Cpu

namespace Machine

theorem overrunKept_perform {m : Machine} (h : m.cpu.OverrunKept) (action : Action) :
    (m.perform action).machine.cpu.OverrunKept := by
  have next := m.actsTo_perform action
  generalize (m.perform action).machine.cpu = t at next ⊢
  cases next with
  | ticked => exact h.tick _
  | keyed number isDown key found => exact h.keyEvent key isDown
  | restarted => exact .of_unfaulted rfl
  | _ => exact h

theorem overrunKept_after (config : Config) (script : List Action) :
    ((start config).after script).cpu.OverrunKept :=
  after_keeps (P := fun m => m.cpu.OverrunKept) (fun _ action h => overrunKept_perform h action)
    (m := start config) (.of_unfaulted rfl) script

/-- **Where an access is refused.** A word that asks for some bytes from the index on records that it
is out of bounds if it touches an address past the end of memory, or if it asks for no byte and the
index lies past the end. It then changes nothing but the record, and the error tells the index and
the number of bytes; any other such word leaves the record alone. After any script, an error of a
tick that tells of an access tells the index and what the recorded word asks for: at least one byte,
or none for a sprite without rows with the index past the end. -/
theorem overrun_reported (s : Cpu) (w : Int) {size : Nat}
    (access : (Fields.ofWord w).accessSize? = some size) :
    (s.Records w .outOfBounds ↔
      (∃ address ∈ s.touched size, 0x1000 ≤ address) ∨ (size = 0 ∧ 0x1000 < s.index.toNat)) ∧
    (s.Records w .outOfBounds →
      s.execute w = { s with fault := some .outOfBounds, faultWord := UInt16.ofInt w } ∧
      (s.execute w).error? = some (.outOfBounds s.index.toNat size)) ∧
    (¬s.Records w .outOfBounds →
      (s.execute w).fault = s.fault ∧ (s.execute w).faultWord = s.faultWord) ∧
    ∀ (config : Config) (script : List Action) (address reported : Int),
      let outcome := ((start config).after script).tick
      outcome.failure = some (.execution (.outOfBounds address reported)) →
      let t := outcome.machine.cpu
      let f := Fields.ofWord t.faultWord.toNat
      ∃ size : Nat, address = t.index.toNat ∧ reported = size ∧ f.accessSize? = some size ∧
        ((1 ≤ size ∧ ∃ address ∈ t.touched size, 0x1000 ≤ address) ∨
          (size = 0 ∧ f.group = 13 ∧ f.n = 0 ∧ 0x1000 < t.index.toNat)) := by
  have records_iff := Cpu.records_overrun_iff (s := s) access
  refine ⟨?_, ?_, ?_, ?_⟩
  · rw [records_iff, Cpu.exists_touched_past_iff]
    omega
  · intro recorded
    exact Cpu.execute_of_overrun access (records_iff.mp recorded)
  · intro unrecorded
    have clear : s.fault? w = none := by
      rw [Cpu.fault?_of_accessSize? access, if_neg (mt records_iff.mpr unrecorded)]
    exact Cpu.execute_record clear
  · intro config script address reported outcome raised t f
    have kept : t.OverrunKept := overrunKept_perform (overrunKept_after config script) .tick
    have failed := (halted_of_failure_tick raised).failed
    obtain ⟨size, access, past, rfl, rfl⟩ := kept.error_eq failed
    refine ⟨size, rfl, rfl, access, ?_⟩
    rcases Nat.eq_zero_or_pos size with rfl | filled
    · obtain ⟨draws, no_rows⟩ := Cpu.accessSize?_eq_zero access
      exact .inr ⟨rfl, draws, no_rows, past⟩
    · exact .inl ⟨filled, Cpu.exists_touched_past_iff.mpr ⟨filled, past⟩⟩

/-- At the last byte two registers are too many to load and one is not. A program that loads two there
ends in the error of the two bytes. -/
theorem overrun_reported_at_last_byte :
    let s : Cpu := { Cpu.create ⟨0, 0⟩ Font.standard false with index := 0x0FFF }
    let outcome := ((start .standard).after [.load [0xAF, 0xFF, 0xF1, 0x65]]).tick
    (Fields.ofWord 0xF165).accessSize? = some 2 ∧ s.Records 0xF165 .outOfBounds ∧
      (s.execute 0xF165).error? = some (.outOfBounds 0x0FFF 2) ∧
      (Fields.ofWord 0xF065).accessSize? = some 1 ∧ ¬s.Records 0xF065 .outOfBounds ∧
      (s.execute 0xF065).fault = none ∧
      outcome.failure = some (.execution (.outOfBounds 0x0FFF 2)) ∧
      (Fields.ofWord outcome.machine.cpu.faultWord.toNat).accessSize? = some 2 := by
  intro s
  have two_access : (Fields.ofWord 0xF165).accessSize? = some 2 := by decide
  have one_access : (Fields.ofWord 0xF065).accessSize? = some 1 := by decide
  obtain ⟨two_iff, two_bytes, _, runs⟩ := overrun_reported s 0xF165 two_access
  obtain ⟨one_iff, _, one_byte, _⟩ := overrun_reported s 0xF065 one_access
  have overruns : s.Records 0xF165 .outOfBounds :=
    two_iff.mpr (.inl ⟨0x1000, ⟨by decide, by decide⟩, by decide⟩)
  have fits : ¬s.Records 0xF065 .outOfBounds := by
    rw [one_iff]
    rintro (⟨address, ⟨_, below⟩, past⟩ | ⟨none_asked, _⟩)
    · have last : s.index.toNat = 0x0FFF := rfl
      omega
    · cases none_asked
  have run := runs .standard [.load [0xAF, 0xFF, 0xF1, 0x65]] 0x0FFF 2
  dsimp only at run
  -- The outcome is kept folded: only the kernel computes with it.
  generalize built : ((start .standard).after [.load [0xAF, 0xFF, 0xF1, 0x65]]).tick = outcome
    at run ⊢
  have raised : outcome.failure = some (.execution (.outOfBounds 0x0FFF 2)) := by
    rw [← built]
    decide +kernel
  obtain ⟨size, _, reported, access, _⟩ := run raised
  have two : 2 = size := Int.ofNat_inj.mp reported
  subst two
  exact ⟨two_access, overruns, (two_bytes overruns).2, one_access, fits, (one_byte fits).1, raised,
    access⟩

/-- A sprite without rows, drawn just past the end of memory: it touches no address, and it fails all
the same, by an access of no byte. -/
theorem overrun_of_empty_sprite :
    let outcome := ((start .standard).after
      [.load [0xAF, 0xFF, 0x60, 0x02, 0xF0, 0x1E, 0xD0, 0x00]]).tick
    outcome.failure = some (.execution (.outOfBounds 0x1001 0)) ∧
      (Fields.ofWord 0xD000).accessSize? = some 0 ∧
      outcome.machine.cpu.Records 0xD000 .outOfBounds ∧
      ¬∃ address ∈ outcome.machine.cpu.touched 0, 0x1000 ≤ address := by
  dsimp only
  have kept := overrunKept_perform
    (overrunKept_after .standard [.load [0xAF, 0xFF, 0x60, 0x02, 0xF0, 0x1E, 0xD0, 0x00]]) .tick
  rw [perform] at kept
  generalize built : ((start .standard).after
    [.load [0xAF, 0xFF, 0x60, 0x02, 0xF0, 0x1E, 0xD0, 0x00]]).tick = outcome at kept ⊢
  have raised : outcome.failure = some (.execution (.outOfBounds 0x1001 0)) := by
    rw [← built]
    decide +kernel
  have failed : outcome.machine.cpu.error? = some (.outOfBounds 0x1001 0) := by
    rw [← built] at raised ⊢
    exact (halted_of_failure_tick raised).failed
  obtain ⟨_, _, _, index, _⟩ := kept.error_eq failed
  have past : 0x1000 < outcome.machine.cpu.index.toNat := by omega
  have access : (Fields.ofWord 0xD000).accessSize? = some 0 := by decide
  have overruns : outcome.machine.cpu.Records 0xD000 .outOfBounds := by
    rw [Cpu.records_overrun_iff access, Nat.add_zero]
    exact past
  refine ⟨raised, access, overruns, ?_⟩
  rw [Cpu.exists_touched_past_iff]
  exact fun touches => Nat.lt_irrefl 0 touches.1

end Machine

end Chip8
