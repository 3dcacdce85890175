/-!
# Instruction words

An instruction word is sixteen bits wide. Its fields are defined for every integer, by the sixteen
lowest bits of its two's complement: a group of four bits that selects the kind of instruction, and
operands that overlap in the other twelve.

* `x`, `y` and `n` are the second, third and last four bits;
* `nn` is the last eight bits, so it is `y` and `n` together;
* `nnn` is the last twelve bits, so it is `x`, `y` and `n` together.
-/

namespace Chip8

/-- The bits of an integer from bit `low` up, `width` of them, as a number. -/
def bitField (w : Int) (low width : Nat) : Nat :=
  ((w >>> low) % (1 <<< width : Nat)).toNat

theorem bitField_lt (w : Int) (low width : Nat) : bitField w low width < 1 <<< width := by
  have positive : 0 < 1 <<< width := by
    rw [Nat.one_shiftLeft]
    exact Nat.two_pow_pos width
  have upper := Int.emod_lt_of_pos (w >>> low) (Int.natCast_pos.mpr positive)
  have lower := Int.emod_nonneg (w >>> low) (Int.ne_of_gt (Int.natCast_pos.mpr positive))
  simp only [bitField]
  omega

/-- The fields of an instruction word. -/
structure Fields where
  word : Int
  group : Fin 16
  x : Fin 16
  y : Fin 16
  n : Fin 16
  nn : UInt8
  nnn : Fin 4096
deriving DecidableEq

/-- Cuts a word into its fields. -/
def Fields.ofWord (w : Int) : Fields where
  word := w
  group := ⟨bitField w 12 4, bitField_lt w 12 4⟩
  x := ⟨bitField w 8 4, bitField_lt w 8 4⟩
  y := ⟨bitField w 4 4, bitField_lt w 4 4⟩
  n := ⟨bitField w 0 4, bitField_lt w 0 4⟩
  nn := UInt8.ofNat (bitField w 0 8)
  nnn := ⟨bitField w 0 12, bitField_lt w 0 12⟩

/-- Whether an integer fits into 32 signed bits. -/
def isInt32 (value : Int) : Bool := decide (-0x80000000 ≤ value ∧ value < 0x80000000)

/-- A 32-bit signed integer as a 16-bit word, modulo 65536. -/
def narrow? (value : Int) : Option UInt16 :=
  if isInt32 value then some (UInt16.ofInt value) else none

end Chip8
