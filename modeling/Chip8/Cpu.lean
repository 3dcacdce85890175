import Chip8.CallStack
import Chip8.Fault
import Chip8.Font
import Chip8.Keypad
import Chip8.Memory
import Chip8.Random
import Chip8.Screen

/-!
# The processor

The whole state of a running program. A processor that waits for a key or carries a fault is not
runnable (`Cpu.isRunnable`). Faults are recorded, with the word that caused them, and not thrown.
-/

namespace Chip8

/-- The state of a processor. -/
@[ext]
structure Cpu where
  memory : Memory
  registers : Vector UInt8 16
  /-- The index register, an address that may lie past the end of memory. -/
  index : UInt16
  /-- The address of the next instruction. -/
  pc : UInt16
  stack : CallStack
  delayTimer : UInt8
  soundTimer : UInt8
  keypad : Keypad
  screen : Screen
  /-- Whether the processor waits for a key. -/
  waiting : Bool
  /-- The register that the latest wait puts its key into. -/
  keyRegister : UInt8
  /-- Whether the screen was drawn on or cleared in the latest tick. -/
  drawn : Bool
  fault : Option Fault
  /-- The word whose instruction recorded the fault. -/
  faultWord : UInt16
  random : Random.Key
  /-- Whether an undefined word is a fault. -/
  strict : Bool
deriving DecidableEq

namespace Cpu

/-- The number of registers. -/
def registerCount : Nat := 16

/-- The processor before the first instruction: the font at the bottom of memory, the program
counter at the start of a program, and all else zero. -/
def create (random : Random.Key) (font : List UInt8) (strict : Bool) : Cpu where
  memory := Memory.blank.write Font.start font
  registers := Vector.replicate 16 0
  index := 0
  pc := UInt16.ofNat Memory.programStart
  stack := .empty
  delayTimer := 0
  soundTimer := 0
  keypad := .released
  screen := .dark
  waiting := false
  keyRegister := 0
  drawn := false
  fault := none
  faultWord := 0
  random := random
  strict := strict

/-- Whether the processor neither waits for a key nor carries a fault. -/
def isRunnable (s : Cpu) : Bool := !s.waiting && s.fault.isNone

/-- Whether a tone is heard. -/
def sounds (s : Cpu) : Bool := decide (0 < s.soundTimer)

/-- The register that waits for a key, while one does. -/
def awaitedRegister? (s : Cpu) : Option UInt8 := if s.waiting then some s.keyRegister else none

/-- Sets a register. -/
def setRegister (s : Cpu) (x : Fin 16) (byte : UInt8) : Cpu :=
  { s with registers := s.registers.set x byte }

/-- Records a fault and the word that caused it, and changes nothing else. -/
def halt (s : Cpu) (fault : Fault) (w : Int) : Cpu :=
  { s with fault := some fault, faultWord := UInt16.ofInt w }

end Cpu

end Chip8
