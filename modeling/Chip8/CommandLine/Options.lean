import Chip8.CommandLine.Argument
import Chip8.Log.Level

/-!
# Options

What a command line asks for: help, or the run of a file under options. Arguments are taken from left
to right; of a parameter given twice the last value counts. The first value that no parameter takes
is the file to run, and every further one is left over. That the file is missing is reported before
words that are left over, and both only when nothing else is wrong.

A lone separator that is attached to a parameter takes its value away; a run then ends where it needs
the value.
-/

namespace Chip8.CommandLine

/-- How a file is run. A parameter is `none` when its value was taken away. -/
structure Options where
  /-- The number of ticks; a negative one counts as none. -/
  ticks : Option Int := some 600
  /-- The instructions of a tick. -/
  budget : Option Int := some 10
  seed : Option Int := some 0
  strict : Bool := false
  logLevel : Option Log.Level := some .warning
  /-- Whether the screen is shown at the end. -/
  screen : Bool := false
  /-- Whether progress may be shown while the file runs; it is no part of a report. -/
  progress : Bool := true
deriving DecidableEq

namespace Options

/-- The value of a parameter that is an integer. -/
def integer (parameter : Parameter) (text : String) : Except UsageError Int :=
  match Text.integer? text with
  | some number => .ok number
  | none => .error (.notInteger parameter text)

/-- The value of the parameter for the log level: a label in upper case. -/
def level (text : String) : Except UsageError Log.Level :=
  match Log.Level.all.find? fun level => level.label = text with
  | some level => .ok level
  | none => .error (.notLevel text)

/-- Sets a parameter. -/
def assign (options : Options) (parameter : Parameter) (text : String) :
    Except UsageError Options :=
  match parameter with
  | .ticks => (integer .ticks text).map fun ticks => { options with ticks := some ticks }
  | .budget => (integer .budget text).map fun budget => { options with budget := some budget }
  | .seed => (integer .seed text).map fun seed => { options with seed := some seed }
  | .logLevel => (level text).map fun level => { options with logLevel := some level }

/-- Takes the value of a parameter away. -/
def clear (options : Options) : Parameter → Options
  | .ticks => { options with ticks := none }
  | .budget => { options with budget := none }
  | .seed => { options with seed := none }
  | .logLevel => { options with logLevel := none }

/-- Sets a parameter to a value that is attached to it. -/
def attach (options : Options) (parameter : Parameter) (text : String) :
    Except UsageError Options :=
  if text = "--" then .ok (options.clear parameter) else options.assign parameter text

/-- Raises a flag. -/
def raise (options : Options) : Flag → Options
  | .strict => { options with strict := true }
  | .screen => { options with screen := true }
  | .noProgress => { options with progress := false }

end Options

/-- What a command line asks for. -/
inductive Request where
  | help
  | run (rom : String) (options : Options)
deriving DecidableEq

/-- What has been read of a command line. -/
structure Reading where
  rom : Option String := none
  options : Options := {}
  /-- The words that nothing took, in order. -/
  leftOver : List String := []

namespace Reading

/-- Leaves a word over. -/
def leave (reading : Reading) (word : String) : Reading :=
  { reading with leftOver := reading.leftOver ++ [word] }

/-- Takes a value as the file to run, or leaves it over. -/
def take (reading : Reading) (text : String) : Reading :=
  match reading.rom with
  | none => { reading with rom := some text }
  | some _ => reading.leave text

/-- The request of a command line that has been read to its end. -/
def finish (reading : Reading) : Except UsageError Request :=
  match reading.rom, reading.leftOver with
  | none, _ => .error .missingRom
  | some rom, [] => .ok (.run rom reading.options)
  | some _, words => .error (.leftOver words)

/-- Reads arguments. A separator next to the file to run is dropped, any other is left over. -/
def readAll (reading : Reading) : List Argument → Except UsageError Request
  | [] => reading.finish
  | .switch switch (some text) :: rest =>
    match switch with
    | .parameter parameter => do
      let options ← reading.options.attach parameter text
      { reading with options := options }.readAll rest
    | _ => .error (.unwantedValue switch text)
  | .switch .help none :: _ => .ok .help
  | .switch (.flag flag) none :: rest =>
    { reading with options := reading.options.raise flag }.readAll rest
  | .switch (.parameter parameter) none :: .value text :: rest => do
    let options ← reading.options.assign parameter text
    { reading with options := options }.readAll rest
  | .switch (.parameter parameter) none :: _ => .error (.missingValue parameter)
  | .unknown text :: rest => (reading.leave text).readAll rest
  | .separator :: .value text :: rest =>
    if reading.rom.isNone then (reading.take text).readAll rest
    else ((reading.leave "--").leave text).readAll rest
  | .separator :: rest => (reading.leave "--").readAll rest
  | .value text :: .separator :: rest =>
    if reading.rom.isNone then (reading.take text).readAll rest
    else ((reading.leave text).leave "--").readAll rest
  | .value text :: rest => (reading.take text).readAll rest

end Reading

/-- What the words of a command line ask for. -/
def request (words : List String) : Except UsageError Request := do
  Reading.readAll {} (← Argument.ofWords words)

end Chip8.CommandLine
