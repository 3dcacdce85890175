import Chip8.CommandLine.UsageError
import Chip8.Text.Numeral

/-!
# Arguments

What each word of a command line is, before anything is done with it: a value, a switch with or
without a value attached, a word that looks like a switch and is none, or the separator `--`, after
which every word is a value. A switch may be shortened as long as it stays the only one that begins
so.

A word with a minus in front is a value all the same if it is a lone minus, a negative number, or
holds a space and begins no switch.
-/

namespace Chip8.CommandLine

/-- A word of a command line, understood. -/
inductive Argument where
  | value (text : String)
  | switch (switch : Switch) (attached : Option String)
  | unknown (text : String)
  | separator
deriving DecidableEq

namespace Argument

/-- A text before its first equals sign, and the text after it if there is one. -/
def cutAtEquals (cs : List Char) : List Char × Option String :=
  match cs.dropWhile (· != '=') with
  | [] => (cs, none)
  | _ :: text => (cs.takeWhile (· != '='), some (String.ofList text))

/-- The value that the rest of a word attaches to the short switch for help. The letter of the switch
may be repeated; whatever follows the last one is the value. -/
def behindHelp : List Char → Option String
  | [] => none
  | 'h' :: rest => behindHelp rest
  | text => some (String.ofList text)

/-- The value attached to the short switch for help, given what follows it in its word. An equals sign
right behind the switch is no part of the value, and shows that there is one if nothing follows. -/
def attachedToHelp : List Char → Option String
  | ['='] => some ""
  | '=' :: rest => behindHelp rest
  | rest => behindHelp rest

/-- A word with two minuses in front: it names the switches that its part before an equals sign
begins. A full spelling wins over a longer one that it begins. -/
def ofLong (word : String) (cs : List Char) : Except UsageError (Option Argument) :=
  let (name, attached) := cutAtEquals cs
  match Switch.ofSpelling? (String.ofList name) with
  | some named => .ok (some (switch named attached))
  | none =>
    match Switch.beginningWith name with
    | [] => .ok none
    | [only] => .ok (some (switch only attached))
    | candidates => .error (.ambiguous word candidates)

/-- A word that begins no switch, although a minus stands in front. -/
def ofStray (word : String) : Argument :=
  if Text.looksNegative word || word.toList.contains ' ' then value word else unknown word

/-- What a word is that is no separator. -/
def ofWord (word : String) : Except UsageError Argument :=
  match word.toList with
  | ['-'] => .ok (value word)
  | '-' :: '-' :: rest =>
    (ofLong word ('-' :: '-' :: rest)).map fun found => found.getD (ofStray word)
  | '-' :: 'h' :: rest => .ok (switch .help (attachedToHelp rest))
  | '-' :: _ => .ok (ofStray word)
  | _ => .ok (value word)

/-- What the words of a command line are. The first word that is ambiguous is an error. -/
def ofWords : List String → Except UsageError (List Argument)
  | [] => .ok []
  | word :: rest =>
    if word = "--" then .ok (separator :: rest.map value)
    else do
      let first ← ofWord word
      let others ← ofWords rest
      return first :: others

end Argument

end Chip8.CommandLine
