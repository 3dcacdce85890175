import Chip8.Config
import Chip8.Log.Clock
import Chip8.Log.Level

/-!
# Loggers

A logger turns a label and a message into a line, or into nothing when the label is less severe than
the logger's level. A line is a time stamp, the label, the name of the logger and the message; the
label can be coloured for a terminal. A reading of the clock is taken for each stamp and for nothing
else.
-/

namespace Chip8.Log

/-- What a caller asks of a logger. -/
structure LoggerSettings where
  name : String := "chip8vm"
  level : String := "INFO"
  colored : Bool := true
  stamped : Bool := true

/-- A logger and what is left of its clock. -/
structure Logger where
  name : String
  level : Level
  colored : Bool
  stamped : Bool
  /-- The reading of the clock when the logger was made. -/
  start : Int
  clock : Clock
deriving DecidableEq

/-- The sequence that ends a colour on a terminal. -/
def plainInk : String := "\x1b[0m"

/-- The sequence that starts the colour of a level on a terminal. -/
def Level.ink : Level → String
  | debug => "\x1b[36m"
  | info => "\x1b[32m"
  | warning => "\x1b[33m"
  | error => "\x1b[31m"
  | critical => "\x1b[35m"

/-- The sequence in front of a coloured label. A label that names no level has none, but for the
label `RESET`, which ends a colour. -/
def inkOfLabel (label : String) : String :=
  match Level.ofLabel? label with
  | some level => level.ink
  | none => if sameLabel label "RESET" then plainInk else ""

/-- A label in brackets, eight characters wide. -/
def labelField (label : String) : String :=
  "[" ++ String.ofList (padLeft 8 label.toList) ++ "]"

namespace Logger

/-- Makes a logger, which takes the first reading of the clock. Colours need a terminal. -/
def create (settings : LoggerSettings) (terminal : Bool) (clock : Clock) :
    Except SetupError Logger :=
  match Level.ofLabel? settings.level with
  | none => .error (.unknownLevel settings.level)
  | some level =>
    let (start, rest) := clock.read
    .ok
      { name := settings.name
        level := level
        colored := settings.colored && terminal
        stamped := settings.stamped
        start := start
        clock := rest }

/-- Whether messages of a severity are printed. -/
def shows (logger : Logger) (severity : Level) : Bool :=
  decide (logger.level.rank ≤ severity.rank)

/-- The label as it stands in a line. -/
def paint (logger : Logger) (label : String) : String :=
  if logger.colored then inkOfLabel label ++ labelField label ++ plainInk else labelField label

/-- A line without its stamp. -/
def body (logger : Logger) (label message : String) : String :=
  logger.paint label ++ "[" ++ logger.name ++ "] " ++ message

/-- The line of a message, if it is printed, and the logger afterwards. -/
def log (logger : Logger) (label message : String) : Option String × Logger :=
  if logger.shows (Level.ofLabel label) then
    if logger.stamped then
      let (now, rest) := logger.clock.read
      let stamp := "[" ++ seconds (now - logger.start) ++ "s]"
      (some (stamp ++ logger.body label message), { logger with clock := rest })
    else (some (logger.body label message), logger)
  else (none, logger)

end Logger

end Chip8.Log
