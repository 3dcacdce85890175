import Chip8.CommandLine.Switch
import Chip8.Text.Character

/-!
# Usage errors

What can be wrong with the words of a command line. An error that a switch is to blame for names the
switch first.
-/

namespace Chip8.CommandLine

/-- What is wrong with a command line. -/
inductive UsageError where
  /-- A word begins the spelling of more than one switch. -/
  | ambiguous (word : String) (candidates : List Switch)
  | missingValue (parameter : Parameter)
  | unwantedValue (switch : Switch) (value : String)
  | notInteger (parameter : Parameter) (value : String)
  | notLevel (value : String)
  | missingRom
  /-- Words that nothing takes. -/
  | leftOver (words : List String)
deriving DecidableEq

namespace UsageError

/-- A complaint about a switch. -/
def about (switch : Switch) (complaint : String) : String :=
  "argument " ++ switch.title ++ ": " ++ complaint

/-- The text of a usage error. -/
def message : UsageError → String
  | ambiguous word candidates =>
    "ambiguous option: " ++ word ++ " could match "
      ++ ", ".intercalate (candidates.map Switch.spelling)
  | missingValue parameter => about (.parameter parameter) "expected one argument"
  | unwantedValue switch value => about switch ("ignored explicit argument " ++ Text.quoted value)
  | notInteger parameter value =>
    about (.parameter parameter) ("invalid int value: " ++ Text.quoted value)
  | notLevel value =>
    about (.parameter .logLevel) ("invalid choice: " ++ Text.quoted value
      ++ " (choose from 'DEBUG', 'INFO', 'WARNING', 'ERROR', 'CRITICAL')")
  | missingRom => "the following arguments are required: rom"
  | leftOver words => "unrecognized arguments: " ++ " ".intercalate words

end UsageError

end Chip8.CommandLine
