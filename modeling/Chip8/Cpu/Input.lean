import Chip8.Cpu
import Chip8.Fault

/-!
# Input to the processor

Fonts, key events and programs. A processor is created with a font of any length that memory can hold.
A press while the processor waits also ends the wait; a release never does. A program is checked
before a byte of it is copied: first that its elements are bytes, then that it fits.
-/

namespace Chip8

/-- The bytes of a program given as integers, if they are bytes. -/
def programBytes? (program : List Int) : Option (List UInt8) :=
  if program.all fun b => decide (0 ≤ b ∧ b < 256) then some (program.map UInt8.ofInt) else none

namespace Cpu

/-- The processor before the first instruction, with a font that is yet to be checked. -/
def checkedCreate (random : Random.Key) (font : List UInt8) (strict : Bool) : Except Failure Cpu :=
  if Memory.size < font.length then .error (.fontTooLong font.length)
  else .ok (create random font strict)

/-- Records a key event. A press while waiting puts the key into the awaited register and ends the
wait. -/
def keyEvent (s : Cpu) (key : Key) (isDown : Bool) : Cpu :=
  let t := { s with keypad := s.keypad.set key isDown }
  if isDown && s.waiting then
    { t with
      registers := s.registers.setIfInBounds s.keyRegister.toNat (UInt8.ofNat key.val)
      waiting := false }
  else t

/-- Records a key event of the key with a number. -/
def setKey (s : Cpu) (number : Int) (isDown : Bool) : Except Failure Cpu :=
  match Key.ofInt? number with
  | none => .error (.keyOutOfRange number)
  | some key => .ok (s.keyEvent key isDown)

/-- Copies bytes to the start of a program, if they fit. -/
def loadBytes (s : Cpu) (bytes : List UInt8) : Except Failure Cpu :=
  if Memory.programCapacity < bytes.length then
    .error (.execution (.outOfBounds Memory.programStart bytes.length))
  else .ok { s with memory := s.memory.write Memory.programStart bytes }

/-- Loads a program. -/
def load (s : Cpu) (program : List Int) : Except Failure Cpu :=
  match programBytes? program with
  | none => .error .notBytes
  | some bytes => s.loadBytes bytes

end Cpu

end Chip8
