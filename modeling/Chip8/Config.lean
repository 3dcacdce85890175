import Chip8.Font
import Chip8.Random

/-!
# Configuration

`Settings` are what a caller asks for; a `Config` is what a machine runs with. `Settings.validate`
turns one into the other and reports the first setting that is wrong, in the order budget, size of
the font, bytes of the font. It looks neither at the seed nor at the log level.
-/

namespace Chip8

/-- Why a machine or its logger cannot be set up. -/
inductive SetupError where
  | budgetNotPositive (budget : Int)
  | fontSize (size : Nat)
  | fontNotBytes
  | unknownLevel (label : String)
  | seedOutOfRange
deriving DecidableEq

/-- The text of a setup error. -/
def SetupError.message : SetupError → String
  | budgetNotPositive budget => "instructions_per_tick must be positive, got " ++ toString budget
  | fontSize size => "font must be 80 bytes, got " ++ toString size
  | fontNotBytes => "font bytes must be in range 0-255"
  | unknownLevel label =>
    "Unknown log level '" ++ label
      ++ "'. Available: ['DEBUG', 'INFO', 'WARNING', 'ERROR', 'CRITICAL']"
  | seedOutOfRange => "Python int too large to convert to C long"

/-- What a caller asks of a machine. -/
structure Settings where
  /-- The instructions of a tick. -/
  budget : Int := 10
  font : List Int := Font.standard.map fun byte => (byte.toNat : Int)
  seed : Int := 0
  strict : Bool := false
  logLevel : String := "WARNING"

/-- What a machine runs with. -/
structure Config where
  budget : Nat
  budget_pos : 0 < budget
  font : List UInt8
  length_font : font.length = Font.size
  seed : Int
  strict : Bool
  logLevel : String

/-- Checks settings. -/
def Settings.validate (settings : Settings) : Except SetupError Config :=
  if positive : 0 < settings.budget then
    if sized : settings.font.length = Font.size then
      if settings.font.all fun byte => decide (0 ≤ byte ∧ byte ≤ 255) then
        .ok
          { budget := settings.budget.toNat
            budget_pos := by omega
            font := settings.font.map UInt8.ofInt
            length_font := by rw [List.length_map, sized]
            seed := settings.seed
            strict := settings.strict
            logLevel := settings.logLevel }
      else .error .fontNotBytes
    else .error (.fontSize settings.font.length)
  else .error (.budgetNotPositive settings.budget)

/-- What the default settings give. -/
def Config.standard : Config where
  budget := 10
  budget_pos := by decide
  font := Font.standard
  length_font := Font.length_standard
  seed := 0
  strict := false
  logLevel := "WARNING"

-- The defaults pass their own check.
example : Settings.validate {} = .ok Config.standard := rfl

end Chip8
