import Chip8.Log.Logger
import Chip8.Text.Numeral

/-!
# Machine events

What a machine reports while it runs, each event with a severity and a message, and the journal that
logs them. The journal counts the halts it is told of, printed or not.
-/

namespace Chip8.Log

/-- An event in the life of a machine. -/
inductive Event where
  | reset (budget : Int) (strict : Bool)
  | loaded (size address : Int)
  | awaitingKey (register pc : Int)
  | keyStored (key register : Int)
  /-- A program ended in an error, at a program counter if one is known. -/
  | halted (error : String) (pc : Option Int)
deriving DecidableEq

/-- A truth value as it is written in a message. -/
def truth (b : Bool) : String := if b then "True" else "False"

namespace Event

/-- How severe an event is: a halt is an error, all else helps to follow a run. -/
def severity : Event → Level
  | halted _ _ => .error
  | _ => .debug

/-- The message of an event. -/
def message : Event → String
  | reset budget strict =>
    "Reset (instructions_per_tick=" ++ toString budget ++ ", strict=" ++ truth strict ++ ")"
  | loaded size address => "Loaded " ++ toString size ++ " byte(s) at 0x" ++ Text.hex 3 address
  | awaitingKey register pc =>
    "Waiting for key into V" ++ Text.hex 0 register ++ " (PC=0x" ++ Text.hex 3 pc ++ ")"
  | keyStored key register =>
    "Key " ++ Text.hex 0 key ++ " stored in V" ++ Text.hex 0 register ++ ", resuming"
  | halted error pc =>
    "Execution halted: " ++ error ++ match pc with
      | some pc => " (PC=0x" ++ Text.hex 3 pc ++ ")"
      | none => ""

/-- Whether an event is a halt. -/
def isHalt : Event → Bool
  | halted _ _ => true
  | _ => false

end Event

/-- A logger of machine events. -/
structure Journal where
  logger : Logger
  /-- The halts so far. -/
  halts : Nat
deriving DecidableEq

namespace Journal

/-- The journal that a logger starts. -/
def ofLogger (logger : Logger) : Journal := ⟨logger, 0⟩

/-- Logs a message that is no event. -/
def log (journal : Journal) (label message : String) : Option String × Journal :=
  let (line, logger) := journal.logger.log label message
  (line, { journal with logger := logger })

/-- Logs an event. -/
def record (journal : Journal) (event : Event) : Option String × Journal :=
  let (line, logger) := journal.logger.log event.severity.label event.message
  (line, ⟨logger, if event.isHalt then journal.halts + 1 else journal.halts⟩)

/-- Logs events in order and collects the lines that are printed. -/
def recordAll (journal : Journal) : List Event → List String × Journal
  | [] => ([], journal)
  | event :: rest =>
    let (line, next) := journal.record event
    let (lines, last) := next.recordAll rest
    (line.toList ++ lines, last)

end Journal

end Chip8.Log
