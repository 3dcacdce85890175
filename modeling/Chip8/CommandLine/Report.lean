import Chip8.CommandLine.Abort
import Chip8.CommandLine.Options
import Chip8.FileTree
import Chip8.Picture
import Chip8.Session

/-!
# Reports

What a command line leads to: an exit status, lines of output and lines of errors. The status is zero
when all ticks ran or the program waits for a key, one when the program ended in an error, and two
when it never started.

The run stops at the first tick that fails or that leaves the program waiting. Later ticks would
change nothing.

Of what can be wrong with a run, execution errors, errors of the file system and a budget that is not
positive are reported. Anything else ends the run with an abort in place of a report.
-/

namespace Chip8.CommandLine

/-- What a program that has ended leaves behind. -/
structure Report where
  status : Nat
  out : List String
  err : List String
deriving DecidableEq

namespace Report

/-- The name of the program. -/
def program : String := "chip8vm"

/-- A line of errors. -/
def errorLine (message : String) : String := "error: " ++ message

/-- A report after some lines of output. -/
def after (lines : List String) (report : Report) : Report :=
  { report with out := lines ++ report.out }

/-- The report of a run that never started, after some lines of output. -/
def refused (out : List String) (message : String) : Report := ⟨2, out, [errorLine message]⟩

/-- The report of a usage error. -/
def misused (error : UsageError) : Report :=
  ⟨2, [], [program ++ ": " ++ errorLine error.message]⟩

/-- The report of a call for help: the spellings of all switches. -/
def helped : Report :=
  ⟨0, ("usage: " ++ program ++ " [switches] rom") :: Switch.all.map (fun switch =>
    "  " ++ switch.spelling), []⟩

end Report

end Chip8.CommandLine

namespace Chip8.Session

open CommandLine (Abort Options Parameter Report)

/-- Runs ticks, up to a number of them, the first that fails, or the first that leaves the program
waiting for a key, which is noted. -/
def watch : Nat → Session → Session × Reply
  | 0, s => (s, ⟨[], none⟩)
  | count + 1, s =>
    let (next, reply) := s.perform .tick
    if reply.failure.isSome then (next, reply)
    else
      match next.machine.cpu.awaitedRegister? with
      | some register =>
        let (last, lines) := next.note .info
          ("Program is waiting for a key (V" ++ Text.hex 0 register.toNat ++ "), stopping")
        (last, ⟨reply.lines ++ lines, none⟩)
      | none =>
        let (last, rest) := next.watch count
        (last, ⟨reply.lines ++ rest.lines, rest.failure⟩)

/-- The lines of the screen. -/
def screenLines (s : Session) : List String := s.machine.cpu.screen.picture.lines {}

/-- The largest number of ticks that a run counts. -/
def maxTicks : Int := 0x7FFFFFFFFFFFFFFF

/-- Runs the loaded file named `rom` for a number of ticks. -/
def runTicks (s : Session) (rom : String) (ticks : Int) (options : Options) : Except Abort Report :=
  let (started, heading) := s.note .info
    ("Running " ++ rom ++ " for " ++ toString ticks ++ " ticks")
  let (last, reply) := started.watch ticks.toNat
  let out := heading ++ reply.lines ++ if options.screen then last.screenLines else []
  match reply.failure with
  | none => .ok ⟨0, out, []⟩
  | some (.execution error) => .ok ⟨1, out, [Report.errorLine error.message]⟩
  | some failure => .error (.failure failure)

/-- Runs the loaded file named `rom`. -/
def runLoaded (s : Session) (rom : String) (options : Options) : Except Abort Report := do
  let ticks ← Parameter.ticks.required options.ticks
  if maxTicks < ticks then .error .tooManyTicks
  else s.runTicks rom ticks options

/-- Loads the file named `rom` and runs it. -/
def runFile (s : Session) (rom : String) (file : Except FileError (List UInt8))
    (options : Options) : Except Abort Report :=
  match file with
  | .error error => .ok (.refused [] (error.message rom))
  | .ok bytes =>
    let (loaded, reply) := s.perform (.load (bytes.map fun byte => (byte.toNat : Int)))
    match reply.failure with
    | none => (loaded.runLoaded rom options).map (Report.after reply.lines)
    | some (.execution error) => .ok (.refused reply.lines error.message)
    | some failure => .error (.failure failure)

end Chip8.Session

namespace Chip8.CommandLine

namespace Options

/-- Starts the session of a run with a budget. The log level is needed before the seed. -/
def start (options : Options) (budget : Int) (clock : Log.Clock) :
    Except Abort (Session × List String) := do
  let level ← Parameter.logLevel.required options.logLevel
  let seed ← Parameter.seed.required options.seed
  let settings : Settings :=
    { budget := budget, seed := seed, strict := options.strict, logLevel := level.label }
  (Session.start settings true clock).mapError .setup

/-- Runs a file under options. A budget that is not positive is reported before anything else is
looked at, and the file is opened once the machine is set up. -/
def run (options : Options) (rom : String) (file : Except FileError (List UInt8))
    (clock : Log.Clock) : Except Abort Report := do
  let budget ← Parameter.budget.required options.budget
  match Settings.validate { budget := budget } with
  | .error error => .ok (.refused [] error.message)
  | .ok _ =>
    let (session, opening) ← options.start budget clock
    if FileTree.isPath rom then (session.runFile rom file options).map (Report.after opening)
    else .error .noPath

end Options

/-- The report of a command line, in the directory at the top of a file tree. -/
def run (tree : FileTree) (clock : Log.Clock) (words : List String) : Except Abort Report :=
  match request words with
  | .error error => .ok (.misused error)
  | .ok .help => .ok .helped
  | .ok (.run rom options) => options.run rom (tree.read rom) clock

end Chip8.CommandLine
