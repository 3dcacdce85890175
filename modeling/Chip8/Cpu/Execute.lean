import Chip8.Cpu
import Chip8.Instruction

/-!
# Execution

An instruction has a fault condition (`Instruction.fault?`) and an effect (`Instruction.effect`).
Executing a word asks for the condition first: if it holds, the fault is recorded and nothing else
happens; otherwise the effect takes place. So a fault never leaves an instruction half done.

The program counter already points past the instruction when it is executed. Every read through the
index goes past `Memory.read`, so what the open bus answers is a parameter of the effect. Sprites and
registers are moved in blocks of one size, under a mask: a block can run past the end of memory where
what the instruction asks for does not.

A tick is a budget of instructions followed by one count of the timers. It ends early when an
instruction starts to wait for a key or records a fault; a fault also stops the timers. A processor
that is not runnable does not tick at all. Instructions are counted in 32 signed bits, so a budget
that needs more is refused before anything is done (`Cpu.checkedTick`).
-/

namespace Chip8

/-- Whether a condition holds. -/
def Condition.holds (s : Cpu) : Condition → Bool
  | byteIs x nn => s.registers[x] == nn
  | byteIsNot x nn => s.registers[x] != nn
  | registersEqual x y => s.registers[x] == s.registers[y]
  | registersDiffer x y => s.registers[x] != s.registers[y]
  | keyDown x => s.keypad.isDown s.registers[x]
  | keyUp x => !s.keypad.isDown s.registers[x]

/-- Whether `count` bytes from the index on run past the end of memory. The sum does not wrap. -/
def Cpu.overruns (s : Cpu) (count : Nat) : Bool :=
  decide (Memory.size < s.index.toNat + count)

namespace Instruction

/-- Why an instruction cannot be performed in a state, if it cannot: a return needs a live slot, a
call a free one, and every byte from the index on must lie in memory. -/
def fault? (s : Cpu) (i : Instruction) : Option Fault :=
  match i with
  | ret => if s.stack.isEmpty then some .stackUnderflow else none
  | call _ => if s.stack.isFull then some .stackOverflow else none
  | _ => i.reach?.bind fun count => if s.overruns count then some .outOfBounds else none

/-- The three decimal digits of a byte, hundreds first. -/
def decimalDigits (byte : UInt8) : List UInt8 := [byte / 100, byte / 10 % 10, byte % 10]

/-- What an instruction does, where reads past the end of memory see `bus`. -/
def effect (bus : UInt8) (s : Cpu) : Instruction → Cpu
  | clearScreen => { s with screen := .dark, drawn := true }
  | ret => { s with stack := s.stack.pop.2, pc := s.stack.pop.1 }
  | jump target => { s with pc := UInt16.ofNat target.val }
  | call target => { s with stack := s.stack.push s.pc, pc := UInt16.ofNat target.val }
  | skipIf condition => if condition.holds s then { s with pc := s.pc + 2 } else s
  | setByte x nn => s.setRegister x nn
  | addByte x nn => s.setRegister x (s.registers[x] + nn)
  | operate op x y =>
    -- The flag is set first, so that a result in the flag register replaces it.
    let (result, flag) := op.apply s.registers[x] s.registers[y] (s.registers.get 15)
    (s.setRegister 15 flag).setRegister x result
  | setIndex target => { s with index := UInt16.ofNat target.val }
  | jumpFrom target => { s with pc := UInt16.ofNat target.val + (s.registers.get 0).toUInt16 }
  | random x nn =>
    { s.setRegister x (s.random.spare.byte &&& nn) with random := s.random.next }
  | draw x y n =>
    -- A whole block is read, and the rows below the sprite are masked.
    let rows : Sprite := (s.memory.readMany bus s.index.toNat Sprite.maxHeight).take n.val
    let sprite := rows.place s.registers[x] s.registers[y]
    { s.setRegister 15 (Operation.flagOf (s.screen.meets sprite)) with
      screen := s.screen.xor sprite, drawn := true }
  | readDelay x => s.setRegister x s.delayTimer
  | awaitKey x => { s with waiting := true, keyRegister := UInt8.ofNat x.val }
  | setDelay x => { s with delayTimer := s.registers[x] }
  | setSound x => { s with soundTimer := s.registers[x] }
  | addIndex x => { s with index := s.index + s.registers[x].toUInt16 }
  | glyph x =>
    { s with index := UInt16.ofNat Font.start
        + s.registers[x].toUInt16 * UInt16.ofNat Font.glyphHeight }
  | decimal x =>
    { s with memory := s.memory.write s.index.toNat (decimalDigits s.registers[x]) }
  | store x =>
    -- A byte for every register is written: behind `x` it is the one that was read there.
    { s with memory := s.memory.write s.index.toNat (List.ofFn fun i : Fin 16 =>
        if i.val ≤ x.val then s.registers.get i else s.memory.read bus (s.index.toNat + i.val)) }
  | load x =>
    { s with registers := Vector.ofFn fun i =>
        if i.val ≤ x.val then s.memory.read bus (s.index.toNat + i.val) else s.registers.get i }

end Instruction

namespace Cpu

/-- Why a word cannot be executed, if it cannot. An undefined word is a fault only in strict
mode. -/
def fault? (s : Cpu) (w : Int) : Option Fault :=
  match Instruction.ofWord? w with
  | none => if s.strict then some .unknownOpcode else none
  | some i => i.fault? s

/-- What a word does when it is no fault. An undefined word does nothing. -/
def effect (bus : UInt8) (s : Cpu) (w : Int) : Cpu :=
  match Instruction.ofWord? w with
  | none => s
  | some i => i.effect bus s

/-- Executes a word, where reads past the end of memory see `bus`. -/
def executeOn (bus : UInt8) (s : Cpu) (w : Int) : Cpu :=
  match s.fault? w with
  | some fault => s.halt fault w
  | none => s.effect bus w

/-- Executes a word. -/
def execute (s : Cpu) (w : Int) : Cpu := s.executeOn Memory.openBus w

/-- The word at the program counter; bytes past the end of memory count as zero, and the second
byte is never taken from address 0. -/
def nextWord (s : Cpu) : UInt16 :=
  UInt16.ofNat (256 * (s.memory.read 0 s.pc.toNat).toNat
    + (s.memory.read 0 (s.pc.toNat + 1)).toNat)

/-- The word at the program counter, and the state with the program counter past it. -/
def fetch (s : Cpu) : UInt16 × Cpu := (s.nextWord, { s with pc := s.pc + 2 })

/-- Fetches a word and executes it. A program counter past the end of memory is a fault that no
word causes. -/
def step (s : Cpu) : Cpu :=
  if Memory.size ≤ s.pc.toNat then { s with fault := some .pcOutOfRange }
  else s.fetch.2.execute s.nextWord.toNat

/-- The number of bytes that the word of a recorded fault reaches for. -/
def reachOfWord (w : UInt16) : Nat :=
  let f := Fields.ofWord w.toNat
  if f.group = 13 then f.n.val
  else if f.group = 15 ∧ f.nn = 0x33 then 3
  else f.x.val + 1

/-- The recorded fault as an error, with the numbers of the present state. -/
def error? (s : Cpu) : Option ExecutionError :=
  s.fault.map fun
    | .pcOutOfRange => .pcOutOfRange s.pc.toNat
    | .unknownOpcode => .unknownOpcode s.faultWord.toNat
    | .outOfBounds => .outOfBounds s.index.toNat (reachOfWord s.faultWord)
    | .stackOverflow => .stackOverflow s.faultWord.toNat
    | .stackUnderflow => .stackUnderflow s.faultWord.toNat
    | .unrecognized code => .other ("unrecognized fault code " ++ toString code.toNat)

/-! ## Ticks -/

/-- Counts both timers down by one, not below zero. -/
def countDown (s : Cpu) : Cpu :=
  { s with
    delayTimer := if s.delayTimer = 0 then 0 else s.delayTimer - 1
    soundTimer := if s.soundTimer = 0 then 0 else s.soundTimer - 1 }

/-- Steps until the budget is used up or the processor is no longer runnable. -/
def runFor : Nat → Cpu → Cpu
  | 0, s => s
  | budget + 1, s => if s.isRunnable then runFor budget s.step else s

/-- One tick with a budget of instructions. -/
def tick (budget : Nat) (s : Cpu) : Cpu :=
  if s.isRunnable then
    let last := runFor budget { s with drawn := false }
    if last.fault.isNone then last.countDown else last
  else s

/-- One tick with a budget that is yet to be checked, also by a processor that will not tick. A
negative budget counts as none. -/
def checkedTick (budget : Int) (s : Cpu) : Except Failure Cpu :=
  if isInt32 budget then .ok (s.tick budget.toNat) else .error (.budgetTooWide budget)

end Cpu

end Chip8
