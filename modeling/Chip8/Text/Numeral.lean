import Chip8.Text.Character

/-!
# Numerals

Integers are written in base sixteen, with upper case digits, a minus in front of a negative one, and
zeros between the sign and the digits up to a least width, in which the sign counts.

Integers are read in base ten: an optional sign and decimal digits of any script, with single
underscores allowed between two digits and blanks around the whole. A numeral that is read has at
most `maxDigits` digits.
-/

namespace Chip8.Text

/-! ## Writing -/

/-- The digits of a natural number in base sixteen, most significant first, in upper case. -/
def hexDigits (n : Nat) : List Char :=
  (Nat.toDigits 16 n).map Char.toUpper

/-- The characters of a hexadecimal numeral: the sign, zeros up to the width, the digits. -/
def hexChars (width : Nat) (n : Int) : List Char :=
  let sign := if n < 0 then ['-'] else []
  let digits := hexDigits n.natAbs
  sign ++ List.replicate (width - sign.length - digits.length) '0' ++ digits

/-- An integer as a hexadecimal numeral of at least `width` characters. -/
def hex (width : Nat) (n : Int) : String :=
  String.ofList (hexChars width n)

example : hexChars 4 (-5) = ['-', '0', '0', '5'] := by decide +kernel

/-! ## Reading -/

/-- A text without the blanks at its two ends. -/
def trimBlank (cs : List Char) : List Char :=
  ((cs.dropWhile isBlank).reverse.dropWhile isBlank).reverse

/-- The longest numeral that is read, in digits. -/
def maxDigits : Nat := 4300

/-- Digits with single underscores between them; `value` and `count` are those of the digits read
so far. -/
def digitsFrom? (value count : Nat) : List Char → Option (Nat × Nat)
  | [] => some (value, count)
  | '_' :: c :: rest => do
    let digit ← digitValue? c
    digitsFrom? (10 * value + digit) (count + 1) rest
  | c :: rest => do
    let digit ← digitValue? c
    digitsFrom? (10 * value + digit) (count + 1) rest

/-- An unsigned numeral: a digit first, at most `maxDigits` of them. -/
def natural? : List Char → Option Nat
  | [] => none
  | c :: rest => do
    let digit ← digitValue? c
    let (value, count) ← digitsFrom? digit 1 rest
    if count ≤ maxDigits then some value else none

/-- The integer that a text denotes, if it is a numeral. -/
def integer? (text : String) : Option Int :=
  match trimBlank text.toList with
  | '+' :: digits => (natural? digits).map Int.ofNat
  | '-' :: digits => (natural? digits).map fun n => -(n : Int)
  | digits => (natural? digits).map Int.ofNat

example : integer? "1_000" = some 1000 ∧ integer? "1_" = none := by
  constructor <;> decide +kernel

/-- Whether a text looks like a negative number, integral or with a point: a minus and digits, or a
minus, digits, a point and at least one digit. One line break may end it. -/
def looksNegative (text : String) : Bool :=
  let isDigit := fun c => (digitValue? c).isSome
  let body := if text.toList.getLast? = some '\n' then text.toList.dropLast else text.toList
  match body with
  | '-' :: rest =>
    let whole := rest.takeWhile isDigit
    match rest.dropWhile isDigit with
    | [] => !whole.isEmpty
    | '.' :: places => !places.isEmpty && places.all isDigit
    | _ => false
  | _ => false

end Chip8.Text
