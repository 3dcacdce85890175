import Chip8.Proofs.Overrun

/-!
# Undefined words

Which words have no instruction, and what executing one does (`Cpu.execute_undefined`), for words of
any size and either sign. All fields of a word are cut from its lowest sixteen bits, so a word does
what its remainder modulo 65536 does. The exception are the two instructions of group 0: they are
selected by the whole word, and a longer word that ends like one of them is undefined
(`Instruction.undefined_of_longer`).
-/

namespace Chip8

namespace Instruction

variable {f : Fields} {w : Int}

/-- Outside group 0 a word is read by its fields only. -/
theorem ofFields?_of_group_ne_zero (outside : f.group ≠ 0) (word : Int) :
    ofFields? { f with word := word } = ofFields? f := by
  obtain ⟨_, group, x, y, n, nn, nnn⟩ := f
  fin_cases group
  case «0» => exact absurd rfl outside
  all_goals rfl

/-- A longer word that ends like one of the words of group 0 is undefined. -/
theorem undefined_of_longer (longer : w % 65536 ≠ w)
    (ends : w % 65536 = 0x00E0 ∨ w % 65536 = 0x00EE) : (Fields.ofWord w).Undefined := by
  have same_group : (Fields.ofWord (w % 65536)).group = (Fields.ofWord w).group := by
    rw [Fields.ofWord_emod]
  have system : (Fields.ofWord w).group = 0 := by
    rcases ends with clears | returns
    · rw [← same_group, clears]
      decide
    · rw [← same_group, returns]
      decide
  refine .inl ⟨system, ?_, ?_⟩
  · rintro (rfl : w = 0x00E0)
    exact longer rfl
  · rintro (rfl : w = 0x00EE)
    exact longer rfl

/-- **A word selects what its lowest sixteen bits select**, unless it is longer and ends like one of the
words of group 0. -/
theorem ofWord?_emod (ordinary : w % 65536 = w ∨ (w % 65536 ≠ 0x00E0 ∧ w % 65536 ≠ 0x00EE)) :
    ofWord? (w % 65536) = ofWord? w := by
  rcases ordinary with short | ⟨no_clear, no_return⟩
  · rw [short]
  · rw [ofWord?, Fields.ofWord_emod]
    by_cases system : (Fields.ofWord w).group = 0
    · have low_undefined : Fields.Undefined { Fields.ofWord w with word := w % 65536 } :=
        .inl ⟨system, no_clear, no_return⟩
      have undefined : (Fields.ofWord w).Undefined := by
        refine .inl ⟨system, ?_, ?_⟩
        · rintro (rfl : w = 0x00E0)
          exact no_clear rfl
        · rintro (rfl : w = 0x00EE)
          exact no_return rfl
      rw [ofWord?, ofFields?_eq_none_iff.mpr low_undefined, ofFields?_eq_none_iff.mpr undefined]
    · exact ofFields?_of_group_ne_zero system (w % 65536)

end Instruction

namespace Cpu

variable {s : Cpu} {w : Int}

/-- What a word without an instruction does: it is recorded in strict mode and passed over in lenient
mode. -/
theorem execute_of_undefined (unassigned : Instruction.ofWord? w = none) :
    s.execute w =
      if s.strict then { s with fault := some .unknownOpcode, faultWord := UInt16.ofInt w } else s := by
  split
  · rename_i strict
    have found : s.fault? w = some .unknownOpcode :=
      fault?_eq_some_iff.mpr (.inl ⟨unassigned, strict, rfl⟩)
    rw [execute, executeOn, found]
    rfl
  · rename_i lenient
    exact execute_of_ofWord?_eq_none unassigned (Bool.eq_false_iff.mpr lenient)

/-- A word that selects an instruction records no unknown opcode: where one is found afterwards, it
was there before. -/
theorem record_of_unknown (assigned : Instruction.ofWord? w ≠ none)
    (unknown : (s.execute w).fault = some .unknownOpcode) :
    s.fault = some .unknownOpcode ∧ (s.execute w).faultWord = s.faultWord := by
  have next := s.executesTo_execute w
  generalize s.execute w = t at next unknown ⊢
  cases next with
  | halted fault cause =>
    cases unknown
    rcases fault?_eq_some_iff.mp cause with ⟨unassigned, _⟩ | ⟨i, _, found⟩
    · exact absurd unassigned assigned
    · rcases Instruction.fault?_eq_some_iff.mp found with
        ⟨_, _, same⟩ | ⟨_, _, _, same⟩ | ⟨_, _, _, same⟩ <;> cases same
  | ignored unassigned lenient => exact absurd unassigned assigned
  | performed i selected allowed =>
    rw [Instruction.effect_fault] at unknown
    exact ⟨unknown, Instruction.effect_faultWord ..⟩

theorem ofInt_emod (w : Int) : UInt16.ofInt (w % 65536) = UInt16.ofInt w := by
  apply UInt16.toNat_inj.mp
  have low := toNat_ofInt (w % 65536)
  have whole := toNat_ofInt w
  omega

/-- Words that select the same and end alike are executed alike. -/
theorem execute_emod (same : Instruction.ofWord? (w % 65536) = Instruction.ofWord? w) :
    s.execute (w % 65536) = s.execute w := by
  unfold execute executeOn fault? effect halt
  rw [same, ofInt_emod]

/-- **The undefined words are the documented ones, and executing one has no effect but a record.** A
word of any size selects no instruction exactly if it is one of these; then nothing changes in lenient
mode, and in strict mode the record of faults gets the word modulo 65536. Any other word records no
unknown opcode, and it does what its lowest sixteen bits do. So does every word that does not end like
one of the two of group 0 or is no longer than these. -/
theorem execute_undefined (s : Cpu) (w : Int) :
    let low := w % 65536
    let undefined := (Fields.ofWord w).Undefined
    (Instruction.ofWord? w = none ↔ undefined) ∧
    (undefined → s.execute w =
      if s.strict then { s with fault := some .unknownOpcode, faultWord := UInt16.ofInt low } else s) ∧
    (¬undefined → s.execute w = s.execute low ∧
      ((s.execute w).fault = some .unknownOpcode →
        s.fault = some .unknownOpcode ∧ (s.execute w).faultWord = s.faultWord)) ∧
    (low = w ∨ (low ≠ 0x00E0 ∧ low ≠ 0x00EE) → s.execute w = s.execute low) := by
  intro low undefined
  have unassigned_iff : Instruction.ofWord? w = none ↔ undefined :=
    Instruction.ofFields?_eq_none_iff
  have alike : low = w ∨ (low ≠ 0x00E0 ∧ low ≠ 0x00EE) → s.execute w = s.execute low :=
    fun ordinary => (execute_emod (Instruction.ofWord?_emod ordinary)).symm
  refine ⟨unassigned_iff, ?_, ?_, alike⟩
  · intro documented
    rw [execute_of_undefined (unassigned_iff.mpr documented), ofInt_emod]
  · intro documented
    have assigned : Instruction.ofWord? w ≠ none := mt unassigned_iff.mp documented
    have ordinary : low = w ∨ (low ≠ 0x00E0 ∧ low ≠ 0x00EE) := by
      by_contra other
      rw [not_or, not_and_or, not_not, not_not] at other
      exact documented (Instruction.undefined_of_longer other.1 other.2)
    exact ⟨alike ordinary, record_of_unknown assigned⟩

/-- A negative word that is performed, a longer word that ends like the one that clears the screen and
does not clear it, and a negative undefined word in strict mode. -/
theorem execute_undefined_beyond_sixteen_bits :
    let s := create ⟨0, 0⟩ Font.standard false
    let strict := create ⟨0, 0⟩ Font.standard true
    ¬(Fields.ofWord (-0x7EDC)).Undefined ∧ s.execute (-0x7EDC) = s.execute 0x8124 ∧
      (Fields.ofWord 0x100E0).Undefined ∧ s.execute 0x100E0 = s ∧
      (s.execute 0x00E0).drawn = true ∧
      (Fields.ofWord (-1)).Undefined ∧
      strict.execute (-1) =
        { strict with fault := some .unknownOpcode, faultWord := UInt16.ofInt 0xFFFF } := by
  intro s strict
  have negative : ¬(Fields.ofWord (-0x7EDC)).Undefined := by decide
  have longer : (Fields.ofWord 0x100E0).Undefined := by decide
  have last : (Fields.ofWord (-1)).Undefined := by decide
  exact ⟨negative, ((execute_undefined s (-0x7EDC)).2.2.1 negative).1, longer,
    (execute_undefined s 0x100E0).2.1 longer, by decide, last,
    (execute_undefined strict (-1)).2.1 last⟩

end Cpu

end Chip8
