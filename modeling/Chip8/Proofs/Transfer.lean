import Chip8.Proofs.Arithmetic
import Chip8.Proofs.Load
import Chip8.Proofs.Window

/-!
# Registers to memory and back

A store and a load of the same registers at the same index undo each other, whichever is done first
(`Cpu.store_load_inverse`). Both move a block of sixteen bytes under a mask; where the registers asked
for lie in memory, only these are seen to move. The digits of a register are stored as three bytes,
and when they are loaded back the number is made of them again.
-/

namespace Chip8

/-- Writing bytes where they were read changes nothing. -/
theorem Memory.write_readMany (bus : UInt8) (m : Memory) (address count : Nat) :
    m.write address (m.readMany bus address count) = m := by
  apply Memory.ext
  apply Vector.ext
  intro a inside
  rw [getElem_write _ _ _ inside]
  split
  · rename_i behind
    have place : address + (a - address) = a := by omega
    rcases Nat.lt_or_ge (a - address) count with below | past
    · rw [getElem?_readMany bus m address below, place, read_of_lt bus m inside, Option.getD_some]
    · rw [List.getElem?_eq_none (by rw [length_readMany]; exact past), Option.getD_none]
  · rfl

namespace Cpu

variable (s : Cpu) (x : Register)

/-! ## Stores and loads -/

/-- The bytes that a store of the registers up to `x` writes. -/
def stored : List UInt8 := s.registers.toList.take (x.val + 1)

/-- The registers that a load of those up to `x` leaves behind. -/
def loaded : Vector UInt8 16 :=
  Vector.ofFn fun i =>
    if i.val ≤ x.val then s.memory.read Memory.openBus (s.index.toNat + i.val) else s.registers.get i

theorem length_stored : (s.stored x).length = x.val + 1 := by
  rw [stored, List.length_take, Vector.length_toList]
  omega

theorem getElem?_stored {i : Register} (inside : i ≤ x) :
    (s.stored x)[i.val]? = some (s.registers.get i) := by
  rw [stored, List.getElem?_take, if_pos (Nat.lt_succ_of_le inside), Vector.getElem?_toList,
    Vector.getElem?_eq_getElem i.isLt]
  rfl

theorem get_loaded (i : Register) :
    (s.loaded x).get i =
      if i ≤ x then s.memory.read Memory.openBus (s.index.toNat + i.val) else s.registers.get i :=
  Vector.getElem_ofFn i.isLt

/-- What is stored after a load is what was loaded. -/
theorem stored_loaded :
    stored { s with registers := s.loaded x } x =
      s.memory.readMany Memory.openBus s.index.toNat (x.val + 1) := by
  apply List.ext_getElem?
  intro i
  rcases Nat.lt_or_ge i (x.val + 1) with below | past
  · have inside : (⟨i, by omega⟩ : Register) ≤ x := Nat.le_of_lt_succ below
    have byte := getElem?_stored { s with registers := s.loaded x } x inside
    rw [get_loaded, if_pos inside] at byte
    rw [byte, Memory.getElem?_readMany _ _ _ below]
  · rw [List.getElem?_eq_none (by rw [length_stored]; exact past),
      List.getElem?_eq_none (by rw [Memory.length_readMany]; exact past)]

variable {s x}

theorem performs_store (fits : s.index.toNat + x.val + 1 ≤ 0x1000) :
    s.execute (0xF000 + 0x100 * x.val + 0x55 : Nat) =
      (Instruction.store x).effect Memory.openBus s :=
  executeOn_of_fits (Instruction.ofWord?_store x) rfl fits Memory.openBus

theorem execute_store (fits : s.index.toNat + x.val + 1 ≤ 0x1000) :
    s.execute (0xF000 + 0x100 * x.val + 0x55 : Nat) =
      { s with memory := s.memory.write s.index.toNat (s.stored x) } := by
  have memory : ((Instruction.store x).effect Memory.openBus s).memory =
      s.memory.write s.index.toNat (s.stored x) := Instruction.effect_memory ..
  rw [performs_store fits, ← memory]
  rfl

theorem execute_load (fits : s.index.toNat + x.val + 1 ≤ 0x1000) :
    s.execute (0xF000 + 0x100 * x.val + 0x65 : Nat) = { s with registers := s.loaded x } :=
  executeOn_of_fits (Instruction.ofWord?_load x) rfl fits Memory.openBus

/-! ## Digits -/

theorem execute_decimal (fits : s.index.toNat + 3 ≤ 0x1000) :
    s.execute (0xF000 + 0x100 * x.val + 0x33 : Nat) =
      { s with
        memory := s.memory.write s.index.toNat
          (Instruction.decimalDigits (s.registers.get x)) } :=
  executeOn_of_fits (Instruction.ofWord?_decimal x) rfl fits Memory.openBus

/-- The digits of a byte make up its number. -/
theorem toNat_decimalDigits (byte : UInt8) :
    (byte / 100).toNat ≤ 9 ∧ (byte / 10 % 10).toNat ≤ 9 ∧ (byte % 10).toNat ≤ 9 ∧
      100 * (byte / 100).toNat + 10 * (byte / 10 % 10).toNat + (byte % 10).toNat = byte.toNat := by
  have byte_lt := byte.toNat_lt
  have hundreds : (byte / 100).toNat = byte.toNat / 100 := UInt8.toNat_div ..
  have tens : (byte / 10 % 10).toNat = byte.toNat / 10 % 10 := by
    rw [UInt8.toNat_mod, UInt8.toNat_div]
    rfl
  have ones : (byte % 10).toNat = byte.toNat % 10 := UInt8.toNat_mod ..
  omega

/-- **Stores and loads undo each other.** Let the registers up to `x` fit into memory at the index.
A store puts them there and changes nothing else. A load after it brings them back, whatever the
registers hold by then, and leaves all but these as it is. A store after a load leaves memory as it
was. Three bytes that fit are the digits of a register, and a load of the first three registers makes
up its number of them, even if it is one of these. -/
theorem store_load_inverse (s : Cpu) (x : Register) :
    let storeWord : Int := (0xF000 + 0x100 * x.val + 0x55 : Nat)
    let loadWord : Int := (0xF000 + 0x100 * x.val + 0x65 : Nat)
    let decimalWord : Int := (0xF000 + 0x100 * x.val + 0x33 : Nat)
    (s.index.toNat + x.val + 1 ≤ 0x1000 →
      let t := s.execute storeWord
      (∀ i ≤ x, t.memory.bytes[s.index.toNat + i.val]? = some (s.registers.get i)) ∧
      (∀ place ∉ bytesBetween s.index.toNat (s.index.toNat + x.val + 1), t.SameAt s place) ∧
      (∀ registers : Vector UInt8 16,
        let u := { t with registers := registers }.execute loadWord
        (∀ i, u.registers.get i = if i ≤ x then s.registers.get i else registers.get i) ∧
        u = { t with registers := u.registers }) ∧
      ((s.execute loadWord).execute storeWord).memory = s.memory) ∧
    (s.index.toNat + 3 ≤ 0x1000 →
      let t := (s.execute decimalWord).execute 0xF265
      t.valueOf 0 ≤ 9 ∧ t.valueOf 1 ≤ 9 ∧ t.valueOf 2 ≤ 9 ∧
      100 * t.valueOf 0 + 10 * t.valueOf 1 + t.valueOf 2 = s.valueOf x ∧
      (∀ i > 2, t.registers.get i = s.registers.get i) ∧ t.index = s.index) := by
  intro storeWord loadWord decimalWord
  constructor
  · intro fits t
    have written : t = { s with memory := s.memory.write s.index.toNat (s.stored x) } :=
      execute_store fits
    have block : s.index.toNat + (s.stored x).length ≤ 4096 := by
      rw [length_stored]
      exact fits
    refine ⟨?_, ?_, ?_, ?_⟩
    · intro i inside
      have below : i.val < (s.stored x).length := by
        rw [length_stored]
        exact Nat.lt_succ_of_le inside
      rw [written, Memory.getElem?_write s.memory block below, ← getElem?_stored s x inside,
        List.getElem?_eq_getElem below]
    · intro place outside
      have performed : t = (Instruction.store x).effect Memory.openBus s := performs_store fits
      rw [performed]
      exact Instruction.sameAt_effect place outside
    · intro registers u
      have still : t.index.toNat + x.val + 1 ≤ 0x1000 := by
        rw [written]
        exact fits
      have brought : u = { t with registers := loaded { t with registers := registers } x } :=
        execute_load (s := { t with registers := registers }) still
      refine ⟨fun i => ?_, by rw [brought]⟩
      rw [brought, get_loaded]
      split
      · rename_i inside
        rw [written, Memory.read_write _ _ block, getElem?_stored s x inside, Option.getD_some]
      · rfl
    · have brought : s.execute loadWord = { s with registers := s.loaded x } := execute_load fits
      have put_back : ({ s with registers := s.loaded x }.execute storeWord).memory =
          s.memory.write s.index.toNat (stored { s with registers := s.loaded x } x) := by
        rw [execute_store (s := { s with registers := s.loaded x }) fits]
      rw [brought, put_back, stored_loaded, Memory.write_readMany]
  · intro fits t
    let digits := Instruction.decimalDigits (s.registers.get x)
    let u : Cpu := { s with memory := s.memory.write s.index.toNat digits }
    have converted : s.execute decimalWord = u := execute_decimal fits
    have brought : t = { u with registers := u.loaded 2 } := by
      rw [← execute_load (s := u) (x := 2) fits, ← converted]
      rfl
    have register (i : Register) : t.registers.get i =
        if i ≤ 2 then digits[i.val]?.getD (s.memory.read Memory.openBus (s.index.toNat + i.val))
        else s.registers.get i := by
      rw [brought, get_loaded]
      split
      · exact Memory.read_write _ _ fits _
      · rfl
    obtain ⟨hundreds, tens, ones, number⟩ := toNat_decimalDigits (s.registers.get x)
    rw [valueOf, valueOf, valueOf, register, register, register]
    refine ⟨hundreds, tens, ones, number, ?_, by rw [brought]⟩
    intro i behind
    rw [register, if_neg (Fin.not_le.mpr behind)]

/-- All registers at the last sixteen bytes, and the digits of one of the first three registers at the
last three. -/
theorem store_load_inverse_at_last_bytes :
    let s : Cpu :=
      { create ⟨0, 0⟩ Font.standard false with
        index := 0x0FF0, registers := #v[1, 2, 254, 4, 5, 6, 7, 8, 9, 10, 11, 12, 13, 14, 15, 16] }
    let cleared : Cpu := { s.execute 0xFF55 with registers := Vector.replicate 16 0 }
    let last : Cpu := { s with index := 0x0FFD }
    let t := (last.execute 0xF233).execute 0xF265
    s.index.toNat + (15 : Register).val + 1 ≤ 0x1000 ∧
      (s.execute 0xFF55).memory.bytes[0x0FFF]? = some 16 ∧
      (cleared.execute 0xFF65).registers.get 15 = 16 ∧
      ((s.execute 0xFF65).execute 0xFF55).memory = s.memory ∧
      last.index.toNat + 3 ≤ 0x1000 ∧
      100 * t.valueOf 0 + 10 * t.valueOf 1 + t.valueOf 2 = 254 ∧ t.registers.get 3 = 4 := by
  intro s cleared last t
  have fits : s.index.toNat + (15 : Register).val + 1 ≤ 0x1000 := by decide
  have digits_fit : last.index.toNat + 3 ≤ 0x1000 := by decide
  obtain ⟨written, _, brought, back⟩ := (store_load_inverse s 15).1 fits
  obtain ⟨_, _, _, number, kept, _⟩ := (store_load_inverse last 2).2 digits_fit
  exact ⟨fits, written 15 (by decide), (brought (Vector.replicate 16 0)).1 15, back, digits_fit,
    number, kept 3 (by decide)⟩

end Cpu

end Chip8
