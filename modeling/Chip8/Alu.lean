/-!
# Arithmetic and logic

The nine operations on two registers. Each yields a result and a flag; the logic operations hand on
the flag that was there. Subtraction sets the flag when the first operand is strictly greater, so
equal operands clear it.
-/

namespace Chip8

/-- An operation on two registers. -/
inductive Operation where
  | copy
  | or
  | and
  | xor
  | add
  | subtract
  | shiftRight
  | subtractFrom
  | shiftLeft
deriving DecidableEq

namespace Operation

/-- The operation that a four-bit number selects, if it selects one. -/
def ofNibble? (n : Fin 16) : Option Operation :=
  match n.val with
  | 0 => some copy
  | 1 => some or
  | 2 => some and
  | 3 => some xor
  | 4 => some add
  | 5 => some subtract
  | 6 => some shiftRight
  | 7 => some subtractFrom
  | 14 => some shiftLeft
  | _ => none

/-- The four-bit number that selects an operation. -/
def nibble : Operation → Fin 16
  | copy => 0
  | or => 1
  | and => 2
  | xor => 3
  | add => 4
  | subtract => 5
  | shiftRight => 6
  | subtractFrom => 7
  | shiftLeft => 14

/-- A condition as a flag. -/
def flagOf (condition : Bool) : UInt8 := if condition then 1 else 0

/-- The result and the flag of an operation on `vx` and `vy`, where `vf` is the flag before. The
shifts ignore `vy`. -/
def apply (op : Operation) (vx vy vf : UInt8) : UInt8 × UInt8 :=
  match op with
  | copy => (vy, vf)
  | or => (vx ||| vy, vf)
  | and => (vx &&& vy, vf)
  | xor => (vx ^^^ vy, vf)
  | add => (vx + vy, flagOf (decide (255 < vx.toNat + vy.toNat)))
  | subtract => (vx - vy, flagOf (decide (vy < vx)))
  | shiftRight => (vx >>> 1, vx &&& 1)
  | subtractFrom => (vy - vx, flagOf (decide (vx < vy)))
  | shiftLeft => (vx <<< 1, vx >>> 7)

/-- An operation is selected by its own number and by no other. -/
theorem ofNibble?_eq_some_iff {n : Fin 16} {op : Operation} :
    ofNibble? n = some op ↔ n = op.nibble := by
  revert n
  cases op <;> decide

theorem ofNibble?_eq_none_iff {n : Fin 16} :
    ofNibble? n = none ↔ (8 ≤ n.val ∧ n.val ≤ 13) ∨ n.val = 15 := by
  revert n
  decide

end Operation

end Chip8
