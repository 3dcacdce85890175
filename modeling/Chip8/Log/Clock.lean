/-!
# The clock of a logger

A clock gives readings in eighths of a second, one after the other; the last reading repeats. The
time since a logger was made is shown in seconds with two places. An eighth is 12.5 hundredths, so an
odd number of eighths lies halfway between two hundredths; it goes to the even one.
-/

namespace Chip8.Log

/-- The readings of a clock that are still to come. -/
structure Clock where
  now : Int
  later : List Int
deriving DecidableEq

namespace Clock

/-- A clock that stands still. -/
def still : Clock := ⟨0, []⟩

/-- The clock with given readings. -/
def ofReadings : List Int → Clock
  | [] => still
  | now :: later => ⟨now, later⟩

/-- Takes a reading. -/
def read (clock : Clock) : Int × Clock :=
  (clock.now, match clock.later with
    | [] => clock
    | now :: later => ⟨now, later⟩)

end Clock

/-- A number of eighths in hundredths, halves to the even neighbour. -/
def hundredths (eighths : Nat) : Nat :=
  let halves := 25 * eighths
  if halves % 2 = 0 then halves / 2
  else if halves / 2 % 2 = 0 then halves / 2
  else halves / 2 + 1

/-- A text with blanks in front, at least `width` characters long. -/
def padLeft (width : Nat) (cs : List Char) : List Char :=
  List.replicate (width - cs.length) ' ' ++ cs

/-- A time in eighths of a second as seconds with two places, eight characters wide. -/
def seconds (eighths : Int) : String :=
  let places := hundredths eighths.natAbs
  let sign := if eighths < 0 then ['-'] else []
  let fraction := Nat.toDigits 10 (places % 100)
  String.ofList (padLeft 8 (sign ++ Nat.toDigits 10 (places / 100)
    ++ '.' :: List.replicate (2 - fraction.length) '0' ++ fraction))

example : seconds 1 = "    0.12" ∧ seconds (-3) = "   -0.38" := by
  constructor <;> decide +kernel

end Chip8.Log
