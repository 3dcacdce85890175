/-!
# Switches of the command line

A switch asks for help, sets a parameter to the value that follows it, or raises a flag. Each has one
spelling with two minuses; help has a short one besides.
-/

namespace Chip8.CommandLine

/-- A switch that takes a value. -/
inductive Parameter where
  | ticks
  | budget
  | seed
  | logLevel
deriving DecidableEq

/-- A switch that takes no value. -/
inductive Flag where
  | strict
  | screen
  | noProgress
deriving DecidableEq

/-- A switch. -/
inductive Switch where
  | help
  | parameter (which : Parameter)
  | flag (which : Flag)
deriving DecidableEq

/-- The spelling of a parameter. -/
def Parameter.spelling : Parameter → String
  | ticks => "--ticks"
  | budget => "--instructions-per-tick"
  | seed => "--seed"
  | logLevel => "--log-level"

/-- The spelling of a flag. -/
def Flag.spelling : Flag → String
  | strict => "--strict"
  | screen => "--show"
  | noProgress => "--no-progress"

namespace Switch

/-- The long spelling of a switch. -/
def spelling : Switch → String
  | help => "--help"
  | parameter which => which.spelling
  | flag which => which.spelling

/-- How an error message names a switch. -/
def title : Switch → String
  | help => "-h/--help"
  | parameter which => which.spelling
  | flag which => which.spelling

/-- All switches, in the order in which they are offered. -/
def all : List Switch :=
  [help, parameter .ticks, parameter .budget, parameter .seed, flag .strict, parameter .logLevel,
   flag .screen, flag .noProgress]

/-- The switch with a long spelling. -/
def ofSpelling? (text : String) : Option Switch := all.find? fun switch => switch.spelling = text

/-- The switches whose long spelling begins with a text. -/
def beginningWith (text : List Char) : List Switch :=
  all.filter fun switch => text.isPrefixOf switch.spelling.toList

/-- Every switch is offered. -/
theorem mem_all (switch : Switch) : switch ∈ all := by
  rcases switch with _ | (_ | _ | _ | _) | (_ | _ | _) <;> decide

/-- No two switches share a spelling. -/
theorem ofSpelling?_spelling (switch : Switch) : ofSpelling? switch.spelling = some switch := by
  rcases switch with _ | (_ | _ | _ | _) | (_ | _ | _) <;> decide

end Switch

end Chip8.CommandLine
