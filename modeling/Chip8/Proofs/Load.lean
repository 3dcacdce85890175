import Chip8.Proofs.Action
import Chip8.Proofs.Effect

/-!
# Programs in memory

A program is loaded as a whole or not at all (`Cpu.load_all_or_nothing`). It is refused if one of its
elements is no byte, and otherwise if it is too long; a program that is neither (`IsProgram`) then
stands in memory from 0x200 on, and nothing else has changed (`Cpu.Loads`). A second program covers
the first as far as it reaches, and leaves the rest of it in place.
-/

namespace Chip8

/-- All elements of a program are bytes. -/
def AllBytes (program : List Int) : Prop := ∀ b ∈ program, 0 ≤ b ∧ b ≤ 255

/-- A program that can be loaded: all bytes, and no more of them than there is room for. -/
def IsProgram (program : List Int) : Prop := AllBytes program ∧ program.length ≤ 0xE00

section Bytes

variable {program : List Int}

theorem not_allBytes_iff : ¬AllBytes program ↔ ∃ b ∈ program, b < 0 ∨ 255 < b := by
  simp only [AllBytes, not_forall, not_and_or, Int.not_le, exists_prop]

theorem programBytes?_of_allBytes (bytes : AllBytes program) :
    programBytes? program = some (program.map UInt8.ofInt) := by
  refine if_pos (List.all_eq_true.mpr fun b member => decide_eq_true ?_)
  have range := bytes b member
  omega

theorem programBytes?_of_not_allBytes (stray : ¬AllBytes program) : programBytes? program = none := by
  refine if_neg fun all => stray fun b member => ?_
  have range := of_decide_eq_true (List.all_eq_true.mp all b member)
  omega

theorem toNat_byte {b : Int} (range : 0 ≤ b ∧ b ≤ 255) : ((UInt8.ofInt b).toNat : Int) = b := by
  have residue : (b % 2 ^ 8).toNat < 2 ^ 8 := by omega
  rw [UInt8.ofInt, UInt8.toNat_ofNat_of_lt' residue]
  omega

end Bytes

/-! ## Writing to memory -/

namespace Memory

variable {m : Memory} {start : Nat} {bytes : List UInt8}

theorem getElem?_write_of_outside (m : Memory) (bytes : List UInt8) {address : Nat}
    (outside : address < start ∨ start + bytes.length ≤ address) :
    (m.write start bytes).bytes[address]? = m.bytes[address]? := by
  rcases Nat.lt_or_ge address 4096 with inside | past
  · rw [Vector.getElem?_eq_getElem inside, Vector.getElem?_eq_getElem inside,
      getElem_write _ _ _ inside]
    split
    · rw [List.getElem?_eq_none (by omega), Option.getD_none]
    · rfl
  · rw [Vector.getElem?_eq_none past, Vector.getElem?_eq_none past]

/-- Bytes that fit are found where they were written. -/
theorem getElem?_write (m : Memory) (fits : start + bytes.length ≤ 4096) {i : Nat}
    (below : i < bytes.length) : (m.write start bytes).bytes[start + i]? = some bytes[i] := by
  have inside : start + i < 4096 := by omega
  have offset : start + i - start = i := by omega
  rw [Vector.getElem?_eq_getElem inside, getElem_write _ _ _ inside, if_pos (by omega), offset,
    List.getElem?_eq_getElem below, Option.getD_some]

/-- Reading behind the start of bytes that fit sees them first, and then what was there before. -/
theorem read_write (bus : UInt8) (m : Memory) (fits : start + bytes.length ≤ 4096) (i : Nat) :
    (m.write start bytes).read bus (start + i) = bytes[i]?.getD (m.read bus (start + i)) := by
  unfold read
  rcases Nat.lt_or_ge i bytes.length with below | past
  · rw [getElem?_write m fits below, List.getElem?_eq_getElem below]
    rfl
  · rw [getElem?_write_of_outside m bytes (by omega), List.getElem?_eq_none past]
    rfl

/-- **A second write covers the first** as far as it reaches. -/
theorem write_write (m : Memory) (start : Nat) (first second : List UInt8) :
    (m.write start first).write start second =
      m.write start (second ++ first.drop second.length) := by
  apply Memory.ext
  apply Vector.ext
  intro i inside
  simp only [getElem_write _ _ _ inside]
  split
  · rcases Nat.lt_or_ge (i - start) second.length with covered | rest
    · rw [List.getElem?_append_left covered, List.getElem?_eq_getElem covered]
      rfl
    · have place : second.length + (i - start - second.length) = i - start := by omega
      rw [List.getElem?_append_right rest, List.getElem?_eq_none rest, List.getElem?_drop, place]
      rfl
  · rfl

end Memory

/-! ## Loading -/

namespace Cpu

variable {s t : Cpu} {program other : List Int}

theorem load_of_not_allBytes (s : Cpu) (stray : ¬AllBytes program) :
    s.load program = .error .notBytes := by
  rw [load, programBytes?_of_not_allBytes stray]

theorem load_of_long (s : Cpu) (bytes : AllBytes program) (long : 0xE00 < program.length) :
    s.load program = .error (.execution (.outOfBounds 0x200 program.length)) := by
  have full : Memory.programCapacity < (program.map UInt8.ofInt).length := by
    rw [List.length_map]
    exact long
  rw [load, programBytes?_of_allBytes bytes]
  dsimp only
  rw [loadBytes, if_pos full, List.length_map]
  rfl

theorem load_of_isProgram (s : Cpu) (valid : IsProgram program) :
    s.load program =
      .ok { s with memory := s.memory.write 0x200 (program.map UInt8.ofInt) } := by
  have room : ¬Memory.programCapacity < (program.map UInt8.ofInt).length := by
    rw [List.length_map]
    exact Nat.not_lt_of_le valid.2
  rw [load, programBytes?_of_allBytes valid.1]
  dsimp only
  rw [loadBytes, if_neg room]
  rfl

theorem toNat_fetch_at (s : Cpu) {address : Nat} (small : address < 65536) :
    (fetch { s with pc := UInt16.ofNat address }).1.toNat =
      256 * (s.memory.read 0 address).toNat + (s.memory.read 0 (address + 1)).toNat := by
  have place : (UInt16.ofNat address).toNat = address := UInt16.toNat_ofNat_of_lt' small
  rw [fetch, toNat_nextWord]
  dsimp only
  rw [place]

/-- A processor with a program loaded: its bytes stand in memory from 0x200 on, and all else is as it
was. A word that is fetched from within the program is made of its bytes; behind the last one follows
the byte that was there before, or zero at the end of memory. -/
structure Loads (s t : Cpu) (program : List Int) : Prop where
  frame : t = { s with memory := t.memory }
  written : ∀ (i : Nat) (below : i < program.length),
    t.memory.bytes[0x200 + i]?.map (fun byte => (byte.toNat : Int)) = some program[i]
  kept : ∀ address, address < 0x200 ∨ 0x200 + program.length ≤ address →
    t.memory.bytes[address]? = s.memory.bytes[address]?
  fetched : ∀ (i : Nat) (below : i < program.length),
    ((fetch { t with pc := UInt16.ofNat (0x200 + i) }).1.toNat : Int) =
      256 * program[i] +
        program[i + 1]?.getD (s.memory.bytes[0x200 + i + 1]?.getD 0).toNat

/-- The bytes of a program as they are read back, each from its own place. -/
theorem read_written (valid : IsProgram program) (memory : Memory) (i : Nat) :
    (((memory.write 0x200 (program.map UInt8.ofInt)).read 0 (0x200 + i)).toNat : Int) =
      program[i]?.getD (memory.read 0 (0x200 + i)).toNat := by
  have fits : 0x200 + (program.map UInt8.ofInt).length ≤ 4096 := by
    rw [List.length_map]
    have room := valid.2
    omega
  rw [Memory.read_write 0 memory fits, List.getElem?_map]
  rcases Nat.lt_or_ge i program.length with below | past
  · rw [List.getElem?_eq_getElem below]
    exact toNat_byte (valid.1 _ (List.getElem_mem below))
  · rw [List.getElem?_eq_none past]
    rfl

theorem loads_write (s : Cpu) (valid : IsProgram program) :
    s.Loads { s with memory := s.memory.write 0x200 (program.map UInt8.ofInt) } program where
  frame := rfl
  written := by
    intro i below
    have fits : 0x200 + (program.map UInt8.ofInt).length ≤ 4096 := by
      rw [List.length_map]
      have room := valid.2
      omega
    have mapped : i < (program.map UInt8.ofInt).length := by
      rw [List.length_map]
      exact below
    rw [Memory.getElem?_write s.memory fits mapped, List.getElem_map, Option.map_some,
      toNat_byte (valid.1 _ (List.getElem_mem below))]
  kept := by
    intro address outside
    refine Memory.getElem?_write_of_outside s.memory _ ?_
    rw [List.length_map]
    exact outside
  fetched := by
    intro i below
    have room := valid.2
    have high := read_written valid s.memory i
    have low := read_written valid s.memory (i + 1)
    rw [List.getElem?_eq_getElem below, Option.getD_some] at high
    rw [toNat_fetch_at _ (by omega)]
    dsimp only
    rw [Nat.add_assoc 0x200 i 1]
    rw [Int.natCast_add, Int.natCast_mul, high, low]
    rfl

/-- Loading reaches the memory only. -/
theorem load_frame (loaded : s.load program = .ok t) : t = { s with memory := t.memory } := by
  unfold load loadBytes at loaded
  cases found : programBytes? program with
  | none =>
    rw [found] at loaded
    cases loaded
  | some bytes =>
    rw [found] at loaded
    dsimp only at loaded
    split at loaded
    · cases loaded
    · cases loaded
      rfl

/-- A program that covers another one and leaves the rest of it in place is a program as well. -/
theorem isProgram_append_drop (valid : IsProgram program) (other_valid : IsProgram other) :
    IsProgram (other ++ program.drop other.length) := by
  constructor
  · intro b member
    rcases List.mem_append.mp member with front | rest
    · exact other_valid.1 b front
    · exact valid.1 b (List.mem_of_mem_drop rest)
  · have room := valid.2
    have other_room := other_valid.2
    rw [List.length_append, List.length_drop]
    omega

/-- **One program over another is one program.** -/
theorem load_load (s : Cpu) (valid : IsProgram program) (other_valid : IsProgram other) :
    ((s.load program).bind fun t => t.load other) =
      s.load (other ++ program.drop other.length) := by
  rw [load_of_isProgram s valid, load_of_isProgram s (isProgram_append_drop valid other_valid),
    List.map_append, List.map_drop, ← List.length_map UInt8.ofInt, ← Memory.write_write]
  exact load_of_isProgram _ other_valid

end Cpu

/-! ## Machines -/

/-- A machine loads a program as its processor does. -/
theorem Machine.perform_load (m : Machine) (program : List Int) :
    (∀ failure, (m.perform (.load program)).failure = some failure ↔
      m.cpu.load program = .error failure) ∧
    ((m.perform (.load program)).failure ≠ none → (m.perform (.load program)).machine = m) ∧
    ∀ t, m.cpu.load program = .ok t → (m.perform (.load program)).machine = { m with cpu := t } := by
  unfold perform load
  dsimp only
  cases m.cpu.load program with
  | error failure => simp [fail]
  | ok t => simp [succeed]

namespace Cpu

/-- **A program is loaded as a whole or not at all.** It is refused as no bytes exactly if an element
is none, however long it is, and as out of bounds exactly if all are bytes and there are more than
3584 of them. Otherwise it is loaded: its bytes stand in memory from 0x200 on, every other byte and all
else is as it was, and a fetch from within it sees its bytes. A machine fails as its processor does
and keeps its whole state then. One program loaded over another leads to the same state as the two of
them joined, the later one in front and the rest of the earlier one behind. -/
theorem load_all_or_nothing (s : Cpu) (program : List Int) :
    (s.load program = .error .notBytes ↔ ∃ b ∈ program, b < 0 ∨ 255 < b) ∧
    (s.load program = .error (.execution (.outOfBounds 0x200 program.length)) ↔
      (∀ b ∈ program, 0 ≤ b ∧ b ≤ 255) ∧ 0xE00 < program.length) ∧
    ((∃ t, s.load program = .ok t ∧ s.Loads t program) ↔
      (∀ b ∈ program, 0 ≤ b ∧ b ≤ 255) ∧ program.length ≤ 0xE00) ∧
    (∀ m : Machine, m.cpu = s →
      (∀ failure, (m.perform (.load program)).failure = some failure ↔
        s.load program = .error failure) ∧
      ((m.perform (.load program)).failure ≠ none → (m.perform (.load program)).machine = m) ∧
      ∀ t, s.load program = .ok t → (m.perform (.load program)).machine = { m with cpu := t }) ∧
    ∀ other, IsProgram program → IsProgram other →
      ((s.load program).bind fun t => t.load other) =
        s.load (other ++ program.drop other.length) := by
  by_cases bytes : AllBytes program
  · have no_stray : ¬∃ b ∈ program, b < 0 ∨ 255 < b := fun stray => not_allBytes_iff.mpr stray bytes
    rcases Nat.lt_or_ge 0xE00 program.length with long | fits
    · have refused := load_of_long s bytes long
      refine ⟨?_, ?_, ?_, fun m same => same ▸ m.perform_load program, fun other => s.load_load⟩
      · exact iff_of_false (by rw [refused]; nofun) no_stray
      · exact iff_of_true refused ⟨bytes, long⟩
      · refine iff_of_false ?_ fun valid => Nat.not_lt_of_le valid.2 long
        rintro ⟨t, loaded, _⟩
        cases refused.symm.trans loaded
    · have loaded := load_of_isProgram s ⟨bytes, fits⟩
      refine ⟨?_, ?_, ?_, fun m same => same ▸ m.perform_load program, fun other => s.load_load⟩
      · exact iff_of_false (by rw [loaded]; nofun) no_stray
      · exact iff_of_false (by rw [loaded]; nofun) fun long => Nat.not_lt_of_le fits long.2
      · exact iff_of_true ⟨_, loaded, s.loads_write ⟨bytes, fits⟩⟩ ⟨bytes, fits⟩
  · have refused := load_of_not_allBytes s bytes
    refine ⟨?_, ?_, ?_, fun m same => same ▸ m.perform_load program, fun other => s.load_load⟩
    · exact iff_of_true refused (not_allBytes_iff.mp bytes)
    · exact iff_of_false (by rw [refused]; nofun) fun long => bytes long.1
    · refine iff_of_false ?_ fun valid => bytes valid.1
      rintro ⟨t, loaded, _⟩
      cases refused.symm.trans loaded

/-- A program that fills memory to the last byte, from which a fetch sees zero behind it, and one of
three bytes over it. -/
theorem load_all_or_nothing_at_capacity :
    let s := create ⟨0, 0⟩ Font.standard false
    let program : List Int := List.replicate 3584 7
    let other : List Int := [0x12, 0x34, 0x56]
    IsProgram program ∧ IsProgram other ∧
      (∃ t, s.load program = .ok t ∧
        (fetch { t with pc := UInt16.ofNat (0x200 + 3583) }).1.toNat = 0x0700) ∧
      ((s.load program).bind fun t => t.load other) = s.load (other ++ program.drop other.length) := by
  intro s program other
  have bytes : ∀ b ∈ program, 0 ≤ b ∧ b ≤ 255 := by
    intro b member
    rw [List.eq_of_mem_replicate member]
    decide
  have length : program.length = 3584 := List.length_replicate
  have valid : IsProgram program := ⟨bytes, Nat.le_of_eq length⟩
  have other_valid : IsProgram other := ⟨by unfold AllBytes; decide, by decide⟩
  obtain ⟨_, _, loads, _, covered⟩ := load_all_or_nothing s program
  obtain ⟨t, loaded, done⟩ := loads.mpr valid
  refine ⟨valid, other_valid, ⟨t, loaded, ?_⟩, covered other valid other_valid⟩
  have last : 3583 < program.length := by omega
  have word := done.fetched 3583 last
  have behind : program[3583 + 1]? = none := List.getElem?_eq_none (Nat.le_of_eq length)
  have past : s.memory.bytes[0x200 + 3583 + 1]? = none := Vector.getElem?_eq_none (Nat.le_refl 4096)
  have seven : program[3583] = 7 := List.getElem_replicate last
  rw [behind, past, seven] at word
  exact Int.ofNat_inj.mp word

end Cpu

end Chip8
