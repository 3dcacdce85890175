import Chip8.Memory
import Chip8.Text.Numeral

/-!
# Faults and failures

A fault is what the state of a processor records when an instruction cannot be performed: a cause,
kept as a code. An execution error is the same seen from outside, with the numbers that explain it
and a text (`ExecutionError.message`).

A call on a processor or a machine fails with such an error or for a reason of its own
(`Failure`). A failed call may have done part of its work only where it ran a program; all other
failures leave everything as it was.
-/

namespace Chip8

/-- Why an instruction was not performed. -/
inductive Fault where
  | pcOutOfRange
  | unknownOpcode
  | outOfBounds
  | stackOverflow
  | stackUnderflow
  /-- A code that no instruction records. -/
  | unrecognized (code : UInt8)
deriving DecidableEq

namespace Fault

/-- The code of a fault; zero is no fault. -/
def code : Fault → UInt8
  | pcOutOfRange => 1
  | unknownOpcode => 2
  | outOfBounds => 3
  | stackOverflow => 4
  | stackUnderflow => 5
  | unrecognized code => code

/-- The fault with a code, and none for zero. -/
def ofCode? (code : UInt8) : Option Fault :=
  match code.toNat with
  | 0 => none
  | 1 => some pcOutOfRange
  | 2 => some unknownOpcode
  | 3 => some outOfBounds
  | 4 => some stackOverflow
  | 5 => some stackUnderflow
  | _ => some (unrecognized code)

/-- The code of what a processor records, zero when it records nothing. -/
def codeOf : Option Fault → UInt8
  | none => 0
  | some fault => fault.code

end Fault

/-- An error that ends the run of a program. The numbers are of any size: an error can also be made
outside a machine. -/
inductive ExecutionError where
  | pcOutOfRange (pc : Int)
  | unknownOpcode (opcode : Int)
  | outOfBounds (address size : Int)
  | stackOverflow (opcode : Int)
  | stackUnderflow (opcode : Int)
  /-- An error of no kind of its own. -/
  | other (text : String)
deriving DecidableEq

/-- The text of an error. Addresses and opcodes have four hexadecimal digits. -/
def ExecutionError.message : ExecutionError → String
  | pcOutOfRange pc => "program counter out of range: 0x" ++ Text.hex 4 pc
  | unknownOpcode opcode => "unknown opcode: " ++ Text.hex 4 opcode
  | outOfBounds address size =>
    toString size ++ " byte(s) at 0x" ++ Text.hex 4 address ++ " exceed memory of 0x1000 bytes"
  | stackOverflow opcode => "stack overflow at opcode " ++ Text.hex 4 opcode
  | stackUnderflow opcode => "stack underflow at opcode " ++ Text.hex 4 opcode
  | other text => text

/-- A failed call. -/
inductive Failure where
  /-- The program ended in an error, or does not fit into memory. -/
  | execution (error : ExecutionError)
  /-- There is no key with this number. -/
  | keyOutOfRange (key : Int)
  /-- A program holds a number that is no byte. -/
  | notBytes
  /-- A font of so many bytes is larger than memory. -/
  | fontTooLong (count : Nat)
  /-- A number does not fit into 32 signed bits. -/
  | tooWide (value : Int)
  /-- The budget of a tick does not fit into 32 signed bits. -/
  | budgetTooWide (budget : Int)
deriving DecidableEq

/-- The text of a failure. -/
def Failure.message : Failure → String
  | execution error => error.message
  | keyOutOfRange key => "key must be in range 0-15, got " ++ toString key
  | notBytes => "bytes must be in range(0, 256)"
  | fontTooLong count =>
    "Incompatible types for broadcasting: input type=uint8[" ++ toString count
      ++ "] and requested type=uint8[" ++ toString Memory.size ++ "]"
  | tooWide value => "Python int " ++ toString value ++ " too large to convert to int32"
  | budgetTooWide budget =>
    "An overflow was encountered while parsing an argument to a jitted computation, whose argument "
      ++ "path is y. Got <class 'int'> with value " ++ toString budget

end Chip8
