/-!
# Keypad

Sixteen keys, each down or up, named by the hexadecimal digits.
-/

namespace Chip8

/-- A key of the keypad. -/
abbrev Key := Fin 16

/-- Numerals stand for keys, as for all numbers of four bits. -/
instance neZero_sixteen : @NeZero Nat Zero.ofOfNat0 16 := ⟨by decide⟩

namespace Key

/-- The key with a given number, if there is one. -/
def ofInt? (number : Int) : Option Key :=
  if h : 0 ≤ number ∧ number < 16 then some ⟨number.toNat, by omega⟩ else none

/-- The keyboard letter that stands for each key: four rows of four on the left of a keyboard. -/
def letters : List (Char × Key) :=
  [('1', 0x1), ('2', 0x2), ('3', 0x3), ('4', 0xC),
   ('q', 0x4), ('w', 0x5), ('e', 0x6), ('r', 0xD),
   ('a', 0x7), ('s', 0x8), ('d', 0x9), ('f', 0xE),
   ('z', 0xA), ('x', 0x0), ('c', 0xB), ('v', 0xF)]

theorem ofInt?_eq_none_iff {number : Int} : ofInt? number = none ↔ number < 0 ∨ 16 ≤ number := by
  simp only [ofInt?]
  split
  · simp only [reduceCtorEq, false_iff]; omega
  · simp only [true_iff]; omega

theorem ofInt?_eq_some_iff {number : Int} {key : Key} :
    ofInt? number = some key ↔ number = key.val := by
  simp only [ofInt?]
  split
  · rw [Option.some.injEq, Fin.ext_iff]; dsimp only; omega
  · simp only [reduceCtorEq, false_iff]; omega

end Key

/-- Which keys are down. -/
@[ext]
structure Keypad where
  down : Vector Bool 16
deriving DecidableEq

namespace Keypad

/-- The number of keys. -/
def size : Nat := 16

/-- The keypad with every key up. -/
def released : Keypad := ⟨Vector.replicate 16 false⟩

/-- Puts a key down or up. -/
def set (k : Keypad) (key : Key) (isDown : Bool) : Keypad := ⟨k.down.set key isDown⟩

/-- Whether a byte names a key that is down. A byte above fifteen names no key. -/
def isDown (k : Keypad) (byte : UInt8) : Bool := k.down[byte.toNat]?.getD false

/-- A key event moves its own key only. -/
theorem getElem_set (k : Keypad) (key : Key) (isDown : Bool) {i : Nat} (inside : i < 16) :
    (k.set key isDown).down[i] = if key.val = i then isDown else k.down[i] := by
  simp only [set, Vector.getElem_set]

/-- A keypad is its keys. -/
theorem ext_get {k l : Keypad} (same : ∀ key : Key, k.down.get key = l.down.get key) : k = l := by
  apply Keypad.ext
  apply Vector.ext
  intro i inside
  exact same ⟨i, inside⟩

theorem isDown_of_ge {k : Keypad} {byte : UInt8} (outside : 16 ≤ byte.toNat) :
    k.isDown byte = false := by
  simp only [isDown, Vector.getElem?_eq_none outside, Option.getD_none]

end Keypad

end Chip8
