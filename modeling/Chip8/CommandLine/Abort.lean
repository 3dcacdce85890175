import Chip8.CommandLine.Switch
import Chip8.Config
import Chip8.Fault

/-!
# Aborts

Why the run of a file ends without a report. A parameter without a value is no error as long as
nothing asks for it (`Parameter.required`), so where several things are wrong the first that the run
comes to decides.
-/

namespace Chip8.CommandLine

/-- Why a run ends without a report. -/
inductive Abort where
  /-- A parameter is needed that has no value. -/
  | noValue (parameter : Parameter)
  /-- The machine cannot be set up. -/
  | setup (error : SetupError)
  /-- The name of the file is no path. -/
  | noPath
  /-- The number of ticks does not fit into 64 signed bits. -/
  | tooManyTicks
  /-- An action of the machine fails for another reason than its program. -/
  | failure (failure : Failure)
deriving DecidableEq

namespace Abort

/-- The text for a parameter without a value. -/
def textOfNoValue : Parameter → String
  | .ticks => "'list' object cannot be interpreted as an integer"
  | .budget => "int() argument must be a string, a bytes-like object or a real number, not 'list'"
  | .seed =>
    "PRNGKey accepts a scalar seed, but was given an array of shape (0,) != (). "
      ++ "Use jax.vmap for batching"
  | .logLevel => "'list' object has no attribute 'upper'"

/-- The text of an abort. -/
def message : Abort → String
  | noValue parameter => textOfNoValue parameter
  | setup error => error.message
  | noPath => "embedded null byte"
  | tooManyTicks => "Python int too large to convert to C ssize_t"
  | failure cause => cause.message

end Abort

/-- The value of a parameter that is needed now. -/
def Parameter.required {α : Type} (parameter : Parameter) : Option α → Except Abort α
  | none => .error (.noValue parameter)
  | some value => .ok value

end Chip8.CommandLine
