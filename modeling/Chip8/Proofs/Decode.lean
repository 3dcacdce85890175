import Chip8.Cpu.Execute
import Mathlib.Data.Fintype.Basic
import Mathlib.Tactic.FinCases

/-!
# What a word selects

The undefined words (`Fields.Undefined`), the words of each instruction (`Instruction.Encodes`), the
words that call and return, and the size of the memory access that a word asks for
(`Fields.accessSize?`), each read off the fields of the word and not off the instruction that it
selects.
-/

namespace Chip8

namespace Fields

/-- The words that select no instruction: the unassigned ones of four groups. -/
def Undefined (f : Fields) : Prop :=
  (f.group = 0 ∧ f.word ≠ 0x00E0 ∧ f.word ≠ 0x00EE) ∨
  (f.group = 8 ∧ f.n ∈ [8, 9, 10, 11, 12, 13, 15]) ∨
  (f.group = 14 ∧ f.nn ∉ [0x9E, 0xA1]) ∨
  (f.group = 15 ∧ f.nn ∉ [0x07, 0x0A, 0x15, 0x18, 0x1E, 0x29, 0x33, 0x55, 0x65])

instance (f : Fields) : Decidable f.Undefined := by
  unfold Undefined
  infer_instance

/-- The bytes that a word goes to from the index on: the rows of a sprite, three digits, or the
registers up to `x`. -/
def accessSize? (f : Fields) : Option Nat :=
  if f.group = 13 then some f.n.val
  else if f.group = 15 then
    if f.nn = 0x33 then some 3
    else if f.nn = 0x55 ∨ f.nn = 0x65 then some (f.x.val + 1)
    else none
  else none

end Fields

theorem bitField_natCast (n low width : Nat) :
    bitField n low width = (n >>> low) % (1 <<< width) := rfl

/-- A field below the sixteenth bit is the same for a number and for its remainder modulo 65536. -/
theorem bitField_emod (w : Int) {low width : Nat} (inside : low + width ≤ 16) :
    bitField (w % 65536) low width = bitField w low width := by
  obtain ⟨rest, total⟩ := Nat.exists_eq_add_of_le inside
  have modulus : (65536 : Int) = (2 ^ low : Nat) * ((2 ^ width : Nat) * (2 ^ rest : Nat)) := by
    rw [← Int.natCast_mul, ← Int.natCast_mul, ← Nat.pow_add, ← Nat.pow_add, ← Nat.add_assoc, ← total]
    rfl
  have positive : ((2 ^ low : Nat) : Int) ≠ 0 :=
    Int.natCast_ne_zero.mpr (Nat.two_pow_pos low).ne'
  have shifted : w / (2 ^ low : Nat) =
      w % 65536 / (2 ^ low : Nat) + (2 ^ width : Nat) * ((2 ^ rest : Nat) * (w / 65536)) := by
    have whole := Int.emod_add_mul_ediv w 65536
    generalize w % 65536 = remainder, w / 65536 = quotient at whole ⊢
    rw [modulus, Int.mul_assoc, Int.mul_assoc] at whole
    rw [← whole, Int.add_mul_ediv_left _ _ positive]
  simp only [bitField, Int.shiftRight_eq_div_pow, Nat.one_shiftLeft, shifted,
    Int.add_mul_emod_self_left]

/-- All fields but the word itself are cut from its lowest sixteen bits. -/
theorem Fields.ofWord_emod (w : Int) :
    ofWord (w % 65536) = { ofWord w with word := w % 65536 } := by
  simp [ofWord, bitField_emod]

namespace Instruction

variable {f : Fields} {i : Instruction} {x : Register} {nn : UInt8} {w : Int}

/-! ## Undefined words -/

theorem ofSystemWord?_eq_none_iff : ofSystemWord? w = none ↔ w ≠ 0x00E0 ∧ w ≠ 0x00EE := by
  unfold ofSystemWord?
  split_ifs <;> simp_all

theorem ofNibble?_eq_none_iff_mem {n : Fin 16} :
    Operation.ofNibble? n = none ↔ n ∈ [8, 9, 10, 11, 12, 13, 15] := by
  revert n
  decide

theorem ofKeySelector?_eq_none_iff : ofKeySelector? x nn = none ↔ nn ∉ [0x9E, 0xA1] := by
  simp only [ofKeySelector?, List.mem_cons, List.not_mem_nil, or_false, ← UInt8.toNat_inj]
  split <;> simp_all

theorem ofMiscSelector?_eq_none_iff :
    ofMiscSelector? x nn = none ↔
      nn ∉ [0x07, 0x0A, 0x15, 0x18, 0x1E, 0x29, 0x33, 0x55, 0x65] := by
  simp only [ofMiscSelector?, List.mem_cons, List.not_mem_nil, or_false, ← UInt8.toNat_inj]
  split <;> simp_all

/-- **The undefined words are the documented ones.** -/
theorem ofFields?_eq_none_iff : ofFields? f = none ↔ f.Undefined := by
  obtain ⟨word, group, x, y, n, nn, nnn⟩ := f
  unfold ofFields? Fields.Undefined
  fin_cases group <;>
    simp [ofSystemWord?_eq_none_iff, ofNibble?_eq_none_iff_mem, ofKeySelector?_eq_none_iff,
      ofMiscSelector?_eq_none_iff]

/-! ## Groups -/

/-- The group of the words that select an instruction. -/
def group : Instruction → Fin 16
  | clearScreen | ret => 0
  | jump _ => 1
  | call _ => 2
  | skipIf (.byteIs _ _) => 3
  | skipIf (.byteIsNot _ _) => 4
  | skipIf (.registersEqual _ _) => 5
  | setByte _ _ => 6
  | addByte _ _ => 7
  | operate _ _ _ => 8
  | skipIf (.registersDiffer _ _) => 9
  | setIndex _ => 10
  | jumpFrom _ => 11
  | random _ _ => 12
  | draw _ _ _ => 13
  | skipIf (.keyDown _) | skipIf (.keyUp _) => 14
  | readDelay _ | awaitKey _ | setDelay _ | setSound _ | addIndex _ | glyph _ | decimal _ | store _
  | load _ => 15

theorem group_of_ofSystemWord? (selected : ofSystemWord? w = some i) : i.group = 0 := by
  unfold ofSystemWord? at selected
  split_ifs at selected <;> cases selected <;> rfl

theorem group_of_ofKeySelector? (selected : ofKeySelector? x nn = some i) : i.group = 14 := by
  unfold ofKeySelector? at selected
  split at selected <;> cases selected <;> rfl

theorem group_of_ofMiscSelector? (selected : ofMiscSelector? x nn = some i) : i.group = 15 := by
  unfold ofMiscSelector? at selected
  split at selected <;> cases selected <;> rfl

/-- A word selects an instruction of its own group. -/
theorem group_of_ofFields? (selected : ofFields? f = some i) : f.group = i.group := by
  obtain ⟨word, group, x, y, n, nn, nnn⟩ := f
  unfold ofFields? at selected
  fin_cases group
  case «0» => exact (group_of_ofSystemWord? selected).symm
  case «8» =>
    obtain ⟨op, _, rfl⟩ := Option.map_eq_some_iff.mp selected
    rfl
  case «14» => exact (group_of_ofKeySelector? selected).symm
  case «15» => exact (group_of_ofMiscSelector? selected).symm
  all_goals cases selected; rfl

/-- Only one word returns. -/
theorem word_of_ret (selected : ofFields? f = some ret) : f.word = 0x00EE := by
  have system : f.group.val = 0 := congrArg Fin.val (group_of_ofFields? selected)
  have same : ofFields? f = ofSystemWord? f.word := by simp only [ofFields?, system]
  rw [same, ofSystemWord?] at selected
  split_ifs at selected with clears returns
  · cases selected
  · exact returns

theorem ofWord?_eq_ret_iff : ofWord? w = some ret ↔ w = 0x00EE := by
  constructor
  · exact word_of_ret
  · rintro rfl
    decide

/-- The words that call are those of their group. -/
theorem exists_call_iff : (∃ target, ofFields? f = some (call target)) ↔ f.group = 2 := by
  constructor
  · rintro ⟨target, selected⟩
    exact group_of_ofFields? selected
  · intro calls
    have group : f.group.val = 2 := congrArg Fin.val calls
    exact ⟨f.nnn, by simp only [ofFields?, group]⟩

/-! ## Operands -/

/-- What a word of the right group holds where it selects an instruction: the selector and the
operands, each in its own field. -/
def Encodes (f : Fields) : Instruction → Prop
  | clearScreen => f.word = 0x00E0
  | ret => f.word = 0x00EE
  | jump target | call target | setIndex target | jumpFrom target => target = f.nnn
  | skipIf (.byteIs x nn) | skipIf (.byteIsNot x nn) => x = f.x ∧ nn = f.nn
  | skipIf (.registersEqual x y) | skipIf (.registersDiffer x y) => x = f.x ∧ y = f.y
  | skipIf (.keyDown x) => f.nn = 0x9E ∧ x = f.x
  | skipIf (.keyUp x) => f.nn = 0xA1 ∧ x = f.x
  | setByte x nn | addByte x nn | random x nn => x = f.x ∧ nn = f.nn
  | operate op x y => f.n = op.nibble ∧ x = f.x ∧ y = f.y
  | draw x y n => x = f.x ∧ y = f.y ∧ n = f.n
  | readDelay x => f.nn = 0x07 ∧ x = f.x
  | awaitKey x => f.nn = 0x0A ∧ x = f.x
  | setDelay x => f.nn = 0x15 ∧ x = f.x
  | setSound x => f.nn = 0x18 ∧ x = f.x
  | addIndex x => f.nn = 0x1E ∧ x = f.x
  | glyph x => f.nn = 0x29 ∧ x = f.x
  | decimal x => f.nn = 0x33 ∧ x = f.x
  | store x => f.nn = 0x55 ∧ x = f.x
  | load x => f.nn = 0x65 ∧ x = f.x

theorem encodes_of_ofSystemWord? (selected : ofSystemWord? f.word = some i) : i.Encodes f := by
  unfold ofSystemWord? at selected
  split_ifs at selected with clears returns <;> cases selected
  · exact clears
  · exact returns

theorem encodes_of_ofKeySelector? (selected : ofKeySelector? f.x f.nn = some i) :
    i.Encodes f := by
  unfold ofKeySelector? at selected
  split at selected <;> cases selected <;> exact ⟨UInt8.toNat_inj.mp ‹_›, rfl⟩

theorem encodes_of_ofMiscSelector? (selected : ofMiscSelector? f.x f.nn = some i) :
    i.Encodes f := by
  unfold ofMiscSelector? at selected
  split at selected <;> cases selected <;> exact ⟨UInt8.toNat_inj.mp ‹_›, rfl⟩

theorem encodes_of_ofFields? (selected : ofFields? f = some i) : i.Encodes f := by
  obtain ⟨word, group, x, y, n, nn, nnn⟩ := f
  unfold ofFields? at selected
  fin_cases group
  case «0» => exact encodes_of_ofSystemWord? selected
  case «8» =>
    obtain ⟨op, named, rfl⟩ := Option.map_eq_some_iff.mp selected
    exact ⟨Operation.ofNibble?_eq_some_iff.mp named, rfl, rfl⟩
  case «14» => exact encodes_of_ofKeySelector? selected
  case «15» => exact encodes_of_ofMiscSelector? selected
  all_goals
    cases selected
    simp only [Encodes, and_self]

theorem ofFields?_of_encodes (same : f.group = i.group) (encodes : i.Encodes f) :
    ofFields? f = some i := by
  obtain ⟨word, group, x, y, n, nn, nnn⟩ := f
  cases same
  cases i with
  | skipIf c => cases c <;> simp_all [ofFields?, Encodes, ofKeySelector?]
  | operate op _ _ =>
    obtain ⟨named, rfl, rfl⟩ := encodes
    have selected := Operation.ofNibble?_eq_some_iff.mpr named
    simp_all [ofFields?]
  | _ => simp_all [ofFields?, Encodes, ofSystemWord?, ofMiscSelector?]

/-- **A word selects the instruction of its group whose selector and operands it holds**, and no
other. -/
theorem ofFields?_eq_some_iff : ofFields? f = some i ↔ f.group = i.group ∧ i.Encodes f := by
  constructor
  · intro selected
    exact ⟨group_of_ofFields? selected, encodes_of_ofFields? selected⟩
  · rintro ⟨same, encodes⟩
    exact ofFields?_of_encodes same encodes

/-- Only one word clears the screen. -/
theorem ofWord?_eq_clearScreen_iff : ofWord? w = some clearScreen ↔ w = 0x00E0 := by
  constructor
  · intro selected
    exact (ofFields?_eq_some_iff.mp selected).2
  · rintro rfl
    decide

/-- The words that draw a sprite are those of their group. -/
theorem exists_draw_iff : (∃ x y n, ofFields? f = some (draw x y n)) ↔ f.group = 13 := by
  constructor
  · rintro ⟨x, y, n, selected⟩
    exact group_of_ofFields? selected
  · intro draws
    exact ⟨f.x, f.y, f.n, ofFields?_of_encodes draws ⟨rfl, rfl, rfl⟩⟩

/-- The word that sets the index to an address. -/
theorem ofWord?_setIndex (target : Address) :
    ofWord? (0xA000 + target.val : Nat) = some (setIndex target) := by
  refine ofFields?_of_encodes (Fin.ext ?_) (Fin.ext ?_)
  · show bitField (0xA000 + target.val : Nat) 12 4 = 10
    simp only [bitField_natCast, Nat.shiftRight_eq_div_pow, Nat.shiftLeft_eq]
    omega
  · show target.val = bitField (0xA000 + target.val : Nat) 0 12
    simp only [bitField_natCast, Nat.shiftRight_eq_div_pow, Nat.shiftLeft_eq]
    omega

/-- The digits of a word are its fields. -/
theorem ofWord_digits (group x y n : Fin 16) :
    let f := Fields.ofWord (0x1000 * group.val + 0x100 * x.val + 0x10 * y.val + n.val : Nat)
    f.group = group ∧ f.x = x ∧ f.y = y ∧ f.n = n := by
  refine ⟨Fin.ext ?_, Fin.ext ?_, Fin.ext ?_, Fin.ext ?_⟩ <;>
    simp only [Fields.ofWord, bitField_natCast, Nat.shiftRight_eq_div_pow, Nat.shiftLeft_eq] <;>
    omega

/-- The word that performs an operation on two registers. -/
theorem ofWord?_operate (op : Operation) (x y : Register) :
    ofWord? (0x8000 + 0x100 * x.val + 0x10 * y.val + op.nibble.val : Nat) =
      some (operate op x y) := by
  obtain ⟨group, same_x, same_y, same_n⟩ := ofWord_digits 8 x y op.nibble
  exact ofFields?_of_encodes group ⟨same_n, same_x.symm, same_y.symm⟩

/-- The word that draws a sprite of `n` rows. -/
theorem ofWord?_draw (x y : Register) (n : Fin 16) :
    ofWord? (0xD000 + 0x100 * x.val + 0x10 * y.val + n.val : Nat) = some (draw x y n) := by
  obtain ⟨group, same_x, same_y, same_n⟩ := ofWord_digits 13 x y n
  exact ofFields?_of_encodes group ⟨same_x.symm, same_y.symm, same_n.symm⟩

/-- A word of a group that is read as a register and a byte. -/
theorem ofWord_selector (group x : Fin 16) (nn : UInt8) :
    let f := Fields.ofWord (0x1000 * group.val + 0x100 * x.val + nn.toNat : Nat)
    f.group = group ∧ f.x = x ∧ f.nn = nn := by
  have byte := nn.toNat_lt
  refine ⟨Fin.ext ?_, Fin.ext ?_, UInt8.toNat_inj.mp ?_⟩
  case refine_3 =>
    rw [Fields.ofWord, UInt8.toNat_ofNat', bitField_natCast, Nat.shiftRight_zero, Nat.one_shiftLeft]
    omega
  all_goals
    simp only [Fields.ofWord, bitField_natCast, Nat.shiftRight_eq_div_pow, Nat.shiftLeft_eq]
    omega

/-- The word that draws a random byte. -/
theorem ofWord?_random (x : Register) (nn : UInt8) :
    ofWord? (0xC000 + 0x100 * x.val + nn.toNat : Nat) = some (random x nn) := by
  obtain ⟨group, same_x, same_nn⟩ := ofWord_selector 12 x nn
  exact ofFields?_of_encodes group ⟨same_x.symm, same_nn.symm⟩

/-- The word that stores the digits of a register. -/
theorem ofWord?_decimal (x : Register) :
    ofWord? (0xF000 + 0x100 * x.val + 0x33 : Nat) = some (decimal x) := by
  obtain ⟨group, same_x, selector⟩ := ofWord_selector 15 x 0x33
  exact ofFields?_of_encodes group ⟨selector, same_x.symm⟩

/-- The word that stores the registers up to `x`. -/
theorem ofWord?_store (x : Register) :
    ofWord? (0xF000 + 0x100 * x.val + 0x55 : Nat) = some (store x) := by
  obtain ⟨group, same_x, selector⟩ := ofWord_selector 15 x 0x55
  exact ofFields?_of_encodes group ⟨selector, same_x.symm⟩

/-- The word that loads the registers up to `x`. -/
theorem ofWord?_load (x : Register) :
    ofWord? (0xF000 + 0x100 * x.val + 0x65 : Nat) = some (load x) := by
  obtain ⟨group, same_x, selector⟩ := ofWord_selector 15 x 0x65
  exact ofFields?_of_encodes group ⟨selector, same_x.symm⟩

/-! ## Memory accesses -/

theorem reach?_ofSystemWord? : (ofSystemWord? w).bind reach? = none := by
  unfold ofSystemWord?
  split_ifs <;> rfl

theorem reach?_ofKeySelector? : (ofKeySelector? x nn).bind reach? = none := by
  unfold ofKeySelector?
  split <;> rfl

theorem reach?_ofMiscSelector? :
    (ofMiscSelector? x nn).bind reach? =
      if nn = 0x33 then some 3 else if nn = 0x55 ∨ nn = 0x65 then some (x.val + 1) else none := by
  simp only [ofMiscSelector?, ← UInt8.toNat_inj]
  split <;> simp_all [reach?]

/-- The instruction that a word selects reaches as far as the word says. -/
theorem reach?_ofFields? (f : Fields) : (ofFields? f).bind reach? = f.accessSize? := by
  obtain ⟨word, group, x, y, n, nn, nnn⟩ := f
  unfold ofFields? Fields.accessSize?
  fin_cases group
  case «0» => exact reach?_ofSystemWord?
  case «8» => cases Operation.ofNibble? n <;> rfl
  case «14» => exact reach?_ofKeySelector?
  case «15» => exact reach?_ofMiscSelector?
  all_goals rfl

end Instruction

/-- A word goes to memory through the index if it selects an instruction that does. -/
theorem Fields.accessSize?_eq_some_iff {f : Fields} {size : Nat} :
    f.accessSize? = some size ↔
      ∃ i, Instruction.ofFields? f = some i ∧ i.reach? = some size := by
  rw [← Instruction.reach?_ofFields?, Option.bind_eq_some_iff]

/-- The size in the report of a fault is the size of the access that the word asks for. -/
theorem Cpu.reachOfWord_of_accessSize? {w : UInt16} {size : Nat}
    (access : (Fields.ofWord w.toNat).accessSize? = some size) : Cpu.reachOfWord w = size := by
  unfold Fields.accessSize? at access
  unfold Cpu.reachOfWord
  dsimp only
  split_ifs at access ⊢ <;> simp_all

end Chip8
