import Chip8.Machine

/-!
# Sessions

A session is a machine together with the journal of its events. The machine never looks at the
journal, so what is logged has no influence on what is run.
-/

namespace Chip8

/-- A machine and its journal. -/
structure Session where
  machine : Machine
  journal : Log.Journal

/-- What an action of a session shows: the lines that were printed and a failure. -/
structure Reply where
  lines : List String
  failure : Option Failure

namespace Session

/-- Starts a session on output that is no terminal. The log level is checked before the other
settings, and the seed last. -/
def start (settings : Settings) (stamped : Bool) (clock : Log.Clock) :
    Except SetupError (Session × List String) := do
  let logger ← Log.Logger.create
    { level := settings.logLevel, stamped := stamped } false clock
  let config ← settings.validate
  if Random.isSeed config.seed then
    let (lines, journal) :=
      (Log.Journal.ofLogger logger).recordAll [Machine.resetEvent config]
    return (⟨Machine.start config, journal⟩, lines)
  else throw .seedOutOfRange

/-- Performs an action and logs its events. -/
def perform (s : Session) (action : Action) : Session × Reply :=
  let outcome := s.machine.perform action
  let (lines, journal) := s.journal.recordAll outcome.events
  (⟨outcome.machine, journal⟩, ⟨lines, outcome.failure⟩)

/-- Logs a message that is no event. -/
def note (s : Session) (level : Log.Level) (message : String) : Session × List String :=
  let (line, journal) := s.journal.log level.label message
  ({ s with journal := journal }, line.toList)

/-- Runs ticks, up to a number of them or the first that fails. -/
def ticks : Nat → Session → Session × Reply
  | 0, s => (s, ⟨[], none⟩)
  | count + 1, s =>
    let (next, reply) := s.perform .tick
    if reply.failure.isSome then (next, reply)
    else
      let (last, rest) := next.ticks count
      (last, ⟨reply.lines ++ rest.lines, rest.failure⟩)

end Session

end Chip8
