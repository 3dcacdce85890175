import Chip8.Alu
import Chip8.Word

/-!
# Instructions

The instructions as an inductive type, and how a word selects one. Words that select none are
undefined (`ofWord?` gives `none`): most of group 0, and the unassigned selectors of groups 8, 14
and 15. The two instructions of group 0 are selected by the whole word, not by its lowest bits.
-/

namespace Chip8

/-- A register, by number. -/
abbrev Register := Fin 16

/-- An address of twelve bits, as it stands in an instruction. -/
abbrev Address := Fin 4096

/-- What a skip instruction asks of the machine. -/
inductive Condition where
  | byteIs (x : Register) (nn : UInt8)
  | byteIsNot (x : Register) (nn : UInt8)
  | registersEqual (x y : Register)
  | registersDiffer (x y : Register)
  | keyDown (x : Register)
  | keyUp (x : Register)
deriving DecidableEq

/-- An instruction with its operands. -/
inductive Instruction where
  /-- Makes every pixel dark. -/
  | clearScreen
  /-- Returns from a subroutine. -/
  | ret
  /-- Goes to an address. -/
  | jump (target : Address)
  /-- Calls the subroutine at an address. -/
  | call (target : Address)
  /-- Skips the next instruction if a condition holds. -/
  | skipIf (condition : Condition)
  /-- Sets a register to a byte. -/
  | setByte (x : Register) (nn : UInt8)
  /-- Adds a byte to a register. -/
  | addByte (x : Register) (nn : UInt8)
  /-- Performs an operation on two registers. -/
  | operate (op : Operation) (x y : Register)
  /-- Sets the index to an address. -/
  | setIndex (target : Address)
  /-- Goes to an address plus register 0. -/
  | jumpFrom (target : Address)
  /-- Sets a register to a random byte under a mask. -/
  | random (x : Register) (nn : UInt8)
  /-- Draws the sprite of `n` rows at the index. -/
  | draw (x y : Register) (n : Fin 16)
  /-- Copies the delay timer to a register. -/
  | readDelay (x : Register)
  /-- Waits for a key and puts it into a register. -/
  | awaitKey (x : Register)
  /-- Sets the delay timer. -/
  | setDelay (x : Register)
  /-- Sets the sound timer. -/
  | setSound (x : Register)
  /-- Adds a register to the index. -/
  | addIndex (x : Register)
  /-- Sets the index to the glyph of a digit. -/
  | glyph (x : Register)
  /-- Stores the three decimal digits of a register at the index. -/
  | decimal (x : Register)
  /-- Stores the registers up to `x` at the index. -/
  | store (x : Register)
  /-- Loads the registers up to `x` from the index. -/
  | load (x : Register)
deriving DecidableEq

namespace Instruction

/-- The bytes of an instruction word. -/
def size : Nat := 2

/-- The instruction of group 0 that a whole word selects. -/
def ofSystemWord? (w : Int) : Option Instruction :=
  if w = 0x00E0 then some clearScreen
  else if w = 0x00EE then some ret
  else none

/-- The key instruction that the last byte of a word of group 14 selects. -/
def ofKeySelector? (x : Register) (nn : UInt8) : Option Instruction :=
  match nn.toNat with
  | 0x9E => some (skipIf (.keyDown x))
  | 0xA1 => some (skipIf (.keyUp x))
  | _ => none

/-- The instruction that the last byte of a word of group 15 selects. -/
def ofMiscSelector? (x : Register) (nn : UInt8) : Option Instruction :=
  match nn.toNat with
  | 0x07 => some (readDelay x)
  | 0x0A => some (awaitKey x)
  | 0x15 => some (setDelay x)
  | 0x18 => some (setSound x)
  | 0x1E => some (addIndex x)
  | 0x29 => some (glyph x)
  | 0x33 => some (decimal x)
  | 0x55 => some (store x)
  | 0x65 => some (load x)
  | _ => none

/-- The instruction that a cut word selects, if it selects one. -/
def ofFields? (f : Fields) : Option Instruction :=
  match f.group.val with
  | 0 => ofSystemWord? f.word
  | 1 => some (jump f.nnn)
  | 2 => some (call f.nnn)
  | 3 => some (skipIf (.byteIs f.x f.nn))
  | 4 => some (skipIf (.byteIsNot f.x f.nn))
  | 5 => some (skipIf (.registersEqual f.x f.y))
  | 6 => some (setByte f.x f.nn)
  | 7 => some (addByte f.x f.nn)
  | 8 => (Operation.ofNibble? f.n).map fun op => operate op f.x f.y
  | 9 => some (skipIf (.registersDiffer f.x f.y))
  | 10 => some (setIndex f.nnn)
  | 11 => some (jumpFrom f.nnn)
  | 12 => some (random f.x f.nn)
  | 13 => some (draw f.x f.y f.n)
  | 14 => ofKeySelector? f.x f.nn
  | _ => ofMiscSelector? f.x f.nn

/-- The instruction that a word selects, if it selects one. -/
def ofWord? (w : Int) : Option Instruction := ofFields? (Fields.ofWord w)

/-- The number of bytes from the index on that an instruction reads or writes, if it goes to memory
through the index. -/
def reach? : Instruction → Option Nat
  | draw _ _ n => some n.val
  | decimal _ => some 3
  | store x => some (x.val + 1)
  | load x => some (x.val + 1)
  | _ => none

end Instruction

end Chip8
