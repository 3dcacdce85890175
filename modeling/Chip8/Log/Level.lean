/-!
# Log levels

Five levels in ascending severity. A label names a level in any letter case.
-/

namespace Chip8.Log

/-- How severe a message is. -/
inductive Level where
  | debug
  | info
  | warning
  | error
  | critical
deriving DecidableEq

/-- A letter in upper case. Two letters outside ASCII have an upper case inside it: the dotless i
and the long s. -/
def upperChar (c : Char) : Char :=
  if c = 'ı' then 'I' else if c = 'ſ' then 'S' else c.toUpper

/-- Whether two labels are the same but for letter case, the second one being in upper case. -/
def sameLabel (label upper : String) : Bool := label.toList.map upperChar == upper.toList

namespace Level

/-- The place of a level in ascending severity. -/
def rank : Level → Nat
  | debug => 0
  | info => 1
  | warning => 2
  | error => 3
  | critical => 4

/-- The label of a level. -/
def label : Level → String
  | debug => "DEBUG"
  | info => "INFO"
  | warning => "WARNING"
  | error => "ERROR"
  | critical => "CRITICAL"

/-- All levels, the least severe first. -/
def all : List Level := [debug, info, warning, error, critical]

/-- The level that a label names, if it names one. -/
def ofLabel? (text : String) : Option Level := all.find? fun level => sameLabel text level.label

/-- The severity of a label: an unknown one counts as information. -/
def ofLabel (text : String) : Level := (ofLabel? text).getD info

/-- No two levels share a label. -/
theorem ofLabel?_label (level : Level) : ofLabel? level.label = some level := by
  cases level <;> decide +kernel

theorem ofLabel_label (level : Level) : ofLabel level.label = level := by
  rw [ofLabel, ofLabel?_label, Option.getD_some]

end Level

end Chip8.Log
