import Chip8.CommandLine.Report

/-!
# The program

Reads the file that the command line names and prints the report of its run. Lines are printed once
the run has ended, so the clock of their stamps stands still.
-/

namespace Chip8.CommandLine

/-- What an error of the file system is to a reader of files. A directory is opened and then fails to
be read, so its error alone names no file. -/
def fileError : IO.Error → FileError
  | .inappropriateType none _ _ => .isDirectory
  | .inappropriateType (some _) _ _ => .notDirectory
  | .invalidArgument .. => .nameTooLong
  | .permissionDenied .. => .accessDenied
  | _ => .notFound

/-- The bytes of the file at a path. -/
def readFile (path : String) : IO (Except FileError (List UInt8)) := do
  try
    let bytes ← IO.FS.readBinFile path
    return .ok bytes.toList
  catch error =>
    return .error (fileError error)

/-- Prints a report and answers with its status. -/
def Report.print (report : Report) : IO UInt32 := do
  for line in report.out do
    IO.println line
  for line in report.err do
    IO.eprintln line
  return UInt32.ofNat report.status

/-- Runs a command line. -/
def runWords (words : List String) : IO UInt32 := do
  match request words with
  | .error error => (Report.misused error).print
  | .ok .help => Report.helped.print
  | .ok (.run rom options) =>
    match options.run rom (← readFile rom) .still with
    | .error abort => throw (IO.userError abort.message)
    | .ok report => report.print

end Chip8.CommandLine

/-- The program. -/
def main (words : List String) : IO UInt32 := Chip8.CommandLine.runWords words
