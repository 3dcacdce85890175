import Chip8.Proofs.Footprint
import Chip8.Proofs.Overrun

/-!
# What an access sees

Sprites and registers are moved in blocks, and near the end of memory a block runs past it. None of
that is seen: a word that is not refused has all the addresses that it touches inside memory, and it
depends on no byte beyond them and writes none (`Cpu.execute_keeps_to_window`). What a read past the
end of memory would answer makes no difference either.
-/

namespace Chip8

/-- A byte after a write depends on the byte before and on what is written only. -/
theorem Memory.get_write_congr {m other : Memory} {a : Fin 4096}
    (same : other.bytes.get a = m.bytes.get a) (address : Nat) (bytes : List UInt8) :
    (other.write address bytes).bytes.get a = (m.write address bytes).bytes.get a := by
  have same_byte : other.bytes[a.val] = m.bytes[a.val] := same
  show (other.write address bytes).bytes[a.val] = (m.write address bytes).bytes[a.val]
  rw [getElem_write, getElem_write, same_byte]

namespace Cpu

/-- The bytes of memory that an access of `size` bytes from the index on leaves out. -/
def beyond (s : Cpu) (size : Nat) : Set Place :=
  {place | ∃ address : Fin 4096, place = .byte address ∧ address.val ∉ s.touched size}

variable {s other : Cpu} {size : Nat} {place : Place}

theorem notMem_beyond_of_ne_byte (no_byte : ∀ address, place ≠ .byte address) :
    place ∉ s.beyond size := by
  rintro ⟨address, same, _⟩
  exact no_byte address same

theorem byte_notMem_beyond_iff {address : Fin 4096} :
    Place.byte address ∉ s.beyond size ↔ address.val ∈ s.touched size := by
  constructor
  · intro inside
    by_contra outside
    exact inside ⟨address, rfl, outside⟩
  · rintro inside ⟨_, same, outside⟩
    cases same
    exact outside inside

/-- A processor that agrees with another one but for bytes is the other one with its own memory. -/
theorem eq_of_agree (agree : ∀ place ∉ s.beyond size, other.SameAt s place) :
    other = { s with memory := other.memory } := by
  apply eq_of_sameAt
  intro place
  by_cases byte : ∃ address, place = .byte address
  · obtain ⟨address, rfl⟩ := byte
    rfl
  · have agreed := agree place (notMem_beyond_of_ne_byte (not_exists.mp byte))
    cases place with
    | byte address => exact absurd ⟨address, rfl⟩ byte
    | _ => exact agreed

/-- Processors that differ in memory only hold the same at every place that is no byte. -/
theorem sameAt_of_eq_but_memory {memory : Memory}
    (same : { other with memory := memory } = { s with memory := memory })
    (no_byte : ∀ address, place ≠ .byte address) : other.SameAt s place := by
  have held : { other with memory := memory }.SameAt { s with memory := memory } place := by
    rw [same]
    exact .refl _ place
  cases place with
  | byte address => exact absurd rfl (no_byte address)
  | _ => exact held

end Cpu

namespace Instruction

variable {i : Instruction} {size : Nat} {bus other : UInt8} {s : Cpu} {memory : Memory}

/-- **An access depends on the bytes that it reads only.** -/
theorem effect_of_reads (reach : i.reach? = some size)
    (reads : ∀ k < size,
      memory.read other (s.index.toNat + k) = s.memory.read bus (s.index.toNat + k)) :
    { i.effect other { s with memory := memory } with memory := s.memory } =
      { i.effect bus s with memory := s.memory } := by
  cases i with
  | draw x y n =>
    cases reach
    have rows : memory.readMany other s.index.toNat n.val =
        s.memory.readMany bus s.index.toNat n.val := by
      refine List.map_congr_left fun k below => ?_
      exact reads k (List.mem_range.mp below)
    simp only [effect_draw, rows]
    rfl
  | load x =>
    cases reach
    have loaded : (fun k : Fin 16 => if k.val ≤ x.val then
          memory.read other (s.index.toNat + k.val) else s.registers.get k) =
        fun k => if k.val ≤ x.val then s.memory.read bus (s.index.toNat + k.val)
          else s.registers.get k := by
      funext k
      by_cases inside : k.val ≤ x.val
      · rw [if_pos inside, if_pos inside, reads k.val (Nat.lt_succ_of_le inside)]
      · rw [if_neg inside, if_neg inside]
    simp only [effect, loaded]
  | decimal x | store x => rfl
  | _ => cases reach

/-- What stands at an address afterwards depends on what stood there before, and on no other byte. -/
theorem effect_byte_congr {a : Fin 4096} (same : memory.bytes.get a = s.memory.bytes.get a)
    (i : Instruction) :
    (i.effect other { s with memory := memory }).SameAt (i.effect bus s) (.byte a) := by
  show (i.effect other { s with memory := memory }).memory.bytes.get a =
    (i.effect bus s).memory.bytes.get a
  rw [effect_memory, effect_memory]
  cases i with
  | decimal x | store x => exact Memory.get_write_congr same _ _
  | _ => exact same

/-- An access writes no byte beyond those that it touches. -/
theorem notMem_footprint_of_beyond {place : Place} (reach : i.reach? = some size)
    (outside : place ∈ s.beyond size) : place ∉ i.footprint s := by
  obtain ⟨address, rfl, apart⟩ := outside
  cases i with
  | decimal x | store x =>
    cases reach
    rintro ⟨_, same, above, below⟩
    cases same
    exact apart ⟨above, below⟩
  | draw x y n =>
    rintro (same | same | same) <;> cases same
  | load x =>
    rintro ⟨_, _, same⟩
    cases same
  | _ => cases reach

end Instruction

namespace Cpu

variable {s : Cpu} {w : Int} {size : Nat}

/-- An access that fits into memory takes place. -/
theorem executeOn_of_fits {i : Instruction} (selected : Instruction.ofWord? w = some i)
    (reach : i.reach? = some size) (fits : s.index.toNat + size ≤ 0x1000) (bus : UInt8) :
    s.executeOn bus w = i.effect bus s := by
  have allowed : s.fault? w = none := by
    rw [fault?, selected]
    dsimp only
    rw [Instruction.fault?_of_reach? reach, if_neg (Nat.not_lt_of_le fits)]
  rw [executeOn, allowed, effect, selected]

/-- What the open bus answers is not seen. -/
theorem effect_of_bus {i : Instruction} (reach : i.reach? = some size)
    (fits : s.index.toNat + size ≤ 0x1000) (bus other : UInt8) :
    i.effect other s = i.effect bus s := by
  have reads : ∀ k < size,
      s.memory.read other (s.index.toNat + k) = s.memory.read bus (s.index.toNat + k) := by
    intro k below
    have inside : s.index.toNat + k < 4096 := by omega
    rw [Memory.read_of_lt other _ inside, Memory.read_of_lt bus _ inside]
  have same_memory : (i.effect other s).memory = (i.effect bus s).memory := by
    rw [Instruction.effect_memory, Instruction.effect_memory]
  calc i.effect other s
      = { { i.effect other s with memory := s.memory } with
          memory := (i.effect other s).memory } := rfl
    _ = { { i.effect bus s with memory := s.memory } with
          memory := (i.effect bus s).memory } := by
        rw [same_memory, Instruction.effect_of_reads reach reads]
    _ = i.effect bus s := rfl

/-- Where two memories agree on what an access touches, it leaves the same at all places but the bytes
beyond. -/
theorem effect_of_agree {i : Instruction} {memory : Memory} (reach : i.reach? = some size)
    (fits : s.index.toNat + size ≤ 0x1000)
    (agree : ∀ a : Fin 4096, a.val ∈ s.touched size → memory.bytes.get a = s.memory.bytes.get a)
    (bus : UInt8) {place : Place} (inside : place ∉ s.beyond size) :
    (i.effect bus { s with memory := memory }).SameAt (i.effect bus s) place := by
  by_cases byte : ∃ a, place = .byte a
  · obtain ⟨a, rfl⟩ := byte
    exact Instruction.effect_byte_congr (agree a (byte_notMem_beyond_iff.mp inside)) i
  · have reads : ∀ k < size,
        memory.read bus (s.index.toNat + k) = s.memory.read bus (s.index.toNat + k) := by
      intro k below
      have in_memory : s.index.toNat + k < 4096 := by omega
      rw [Memory.read_of_lt _ _ in_memory, Memory.read_of_lt _ _ in_memory]
      exact agree ⟨_, in_memory⟩ ⟨Nat.le_add_right .., Nat.add_lt_add_left below _⟩
    exact sameAt_of_eq_but_memory (Instruction.effect_of_reads reach reads) (not_exists.mp byte)

/-- **A word keeps to the bytes that it touches.** Let a word that goes to memory through the index
not be refused. Then all that it touches lies in memory. Executed on a processor that differs in bytes
beyond these only, it leaves the same at every other place, and beyond them it leaves each of the
two what it held. It makes no difference what a read past the end of memory would answer. -/
theorem execute_keeps_to_window (s : Cpu) (w : Int) {size : Nat}
    (access : (Fields.ofWord w).accessSize? = some size) (accepted : ¬s.Records w .outOfBounds) :
    s.index.toNat + size ≤ 0x1000 ∧
    (∀ other : Cpu, (∀ place ∉ s.beyond size, other.SameAt s place) →
      (∀ place ∉ s.beyond size, (other.execute w).SameAt (s.execute w) place) ∧
      ∀ place ∈ s.beyond size,
        (other.execute w).SameAt other place ∧ (s.execute w).SameAt s place) ∧
    ∀ bus, s.executeOn bus w = s.execute w := by
  have fits : s.index.toNat + size ≤ 0x1000 :=
    Nat.le_of_not_lt (mt (records_overrun_iff access).mpr accepted)
  obtain ⟨i, selected, reach⟩ := Fields.accessSize?_eq_some_iff.mp access
  have performs : s.execute w = i.effect Memory.openBus s :=
    executeOn_of_fits selected reach fits Memory.openBus
  refine ⟨fits, ?_, ?_⟩
  · intro other agree
    have differs := eq_of_agree agree
    generalize other.memory = memory at differs
    subst differs
    have other_performs : { s with memory := memory }.execute w =
        i.effect Memory.openBus { s with memory := memory } :=
      executeOn_of_fits (s := { s with memory := memory }) selected reach fits Memory.openBus
    have touched_same : ∀ a : Fin 4096, a.val ∈ s.touched size →
        memory.bytes.get a = s.memory.bytes.get a := fun a touched =>
      agree (.byte a) (byte_notMem_beyond_iff.mpr touched)
    rw [performs, other_performs]
    refine ⟨fun place => effect_of_agree reach fits touched_same Memory.openBus, ?_⟩
    intro place outside
    have spared : place ∉ i.footprint s := Instruction.notMem_footprint_of_beyond reach outside
    have other_spared : place ∉ i.footprint { s with memory := memory } :=
      Instruction.notMem_footprint_of_beyond reach outside
    exact ⟨Instruction.sameAt_effect place other_spared, Instruction.sameAt_effect place spared⟩
  · intro bus
    rw [performs, executeOn_of_fits selected reach fits bus]
    exact effect_of_bus reach fits Memory.openBus bus

/-- The last two bytes are loaded, and the byte in front of them is another one for another
processor. -/
theorem execute_keeps_to_window_at_last_bytes :
    let s : Cpu :=
      { create ⟨0, 0⟩ Font.standard false with
        index := 0x0FFE, memory := Memory.blank.write 0x0FFD [1, 2, 3] }
    let other : Cpu := { s with memory := s.memory.put 0x0FFD 9 }
    (Fields.ofWord 0xF165).accessSize? = some 2 ∧ ¬s.Records 0xF165 .outOfBounds ∧
      s.index.toNat + 2 ≤ 0x1000 ∧ ¬other.SameAt s (.byte 0x0FFD) ∧
      (∀ i, (other.execute 0xF165).SameAt (s.execute 0xF165) (.register i)) ∧
      (s.execute 0xF165).registers.get 1 = 3 ∧
      (other.execute 0xF165).SameAt other (.byte 0x0FFD) ∧
      s.executeOn 0xFF 0xF165 = s.execute 0xF165 := by
  intro s other
  have access : (Fields.ofWord 0xF165).accessSize? = some 2 := by decide
  have accepted : ¬s.Records 0xF165 .outOfBounds := by
    rw [records_overrun_iff access]
    decide
  have outside : Place.byte 0x0FFD ∈ s.beyond 2 :=
    ⟨0x0FFD, rfl, fun inside => absurd inside.1 (by decide)⟩
  obtain ⟨fits, congruent, bus⟩ := execute_keeps_to_window s 0xF165 access accepted
  have agree : ∀ place ∉ s.beyond 2, other.SameAt s place := by
    intro place inside
    cases place with
    | byte address =>
      have apart : address ≠ 0x0FFD := by
        rintro rfl
        exact inside outside
      have apart_val : 0x0FFD ≠ address.val := fun same => apart (Fin.ext same.symm)
      show (s.memory.put 0x0FFD 9).bytes[address.val] = s.memory.bytes[address.val]
      rw [Memory.getElem_put _ _ _ address.isLt, if_neg apart_val]
    | _ => rfl
  obtain ⟨same, kept⟩ := congruent other agree
  refine ⟨access, accepted, fits, ?_, ?_, ?_, (kept _ outside).1, bus 0xFF⟩
  · show ¬(s.memory.put 0x0FFD 9).bytes[0x0FFD] = s.memory.bytes[0x0FFD]
    rw [Memory.getElem_put, Memory.getElem_write, if_pos rfl, if_pos (Nat.le_refl _)]
    decide
  · intro i
    exact same _ (notMem_beyond_of_ne_byte (by simp))
  · decide +kernel

end Cpu

end Chip8
