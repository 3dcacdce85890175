/-!
# Random bytes

A generator without hidden state: a key is split into two keys, one to keep and one to draw a byte
from. Splitting enciphers the counters 0 and 1 under the key with a block cipher on two 32-bit words
that only adds, rotates and takes exclusive or (the Threefry construction, twenty rounds).
-/

namespace Chip8.Random

/-- Two 32-bit words: a key, and also a block that is enciphered under one. -/
@[ext]
structure Key where
  first : UInt32
  second : UInt32
deriving DecidableEq

/-- Rotates a word to the left by an amount between 1 and 31. -/
def rotateLeft (word amount : UInt32) : UInt32 :=
  (word <<< amount) ||| (word >>> (32 - amount))

/-- One round: the second word is added to the first, rotated, and combined with the sum. -/
def mix (amount : UInt32) (x : Key) : Key :=
  let sum := x.first + x.second
  ⟨sum, rotateLeft x.second amount ^^^ sum⟩

/-- The rotations of the four rounds of a stage; even and odd stages take turns. -/
def rotations (stage : Nat) : List UInt32 :=
  if stage % 2 = 0 then [13, 15, 26, 6] else [17, 29, 16, 24]

/-- The words that are added between stages, in a cycle of three: the key's two words and their
combination with a constant. -/
def schedule (key : Key) (i : Nat) : UInt32 :=
  match i % 3 with
  | 0 => key.first
  | 1 => key.second
  | _ => key.first ^^^ key.second ^^^ 0x1BD11BDA

/-- Adds the scheduled words after a stage; the second also counts the stage. -/
def inject (key : Key) (stage : Nat) (x : Key) : Key :=
  ⟨x.first + schedule key (stage + 1),
   x.second + (schedule key (stage + 2) + UInt32.ofNat (stage + 1))⟩

/-- Four rounds and an injection. -/
def runStage (key : Key) (x : Key) (stage : Nat) : Key :=
  inject key stage ((rotations stage).foldl (fun y amount => mix amount y) x)

/-- Enciphers a block under a key: five stages after the key is added to the block. -/
def encipher (key x : Key) : Key :=
  (List.range 5).foldl (runStage key) ⟨x.first + key.first, x.second + key.second⟩

namespace Key

/-- The key of a seed: its value modulo 2^32, a negative seed in two's complement. -/
def ofSeed (seed : Int) : Key := ⟨0, UInt32.ofInt seed⟩

/-- The key to keep after a split. -/
def next (key : Key) : Key := encipher key ⟨0, 0⟩

/-- The key to use up after a split. -/
def spare (key : Key) : Key := encipher key ⟨0, 1⟩

/-- The byte that a key yields. -/
def byte (key : Key) : UInt8 :=
  let block := encipher key.spare ⟨0, 0⟩
  (block.first ^^^ block.second).toUInt8

end Key

/-- The seeds that a machine accepts: integers of 64 bits. -/
def isSeed (seed : Int) : Bool := decide (-0x8000000000000000 ≤ seed ∧ seed < 0x8000000000000000)

/-- The key of a seed that a machine accepts. -/
def Key.ofSeed? (seed : Int) : Option Key :=
  if isSeed seed then some (Key.ofSeed seed) else none

end Chip8.Random
