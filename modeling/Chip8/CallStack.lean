import Chip8.Fault
import Chip8.Word

/-!
# Call stack

Return addresses of subroutines in sixteen slots, and a pointer to the first free slot. The view of
a stack is the list of its live slots, oldest first (`CallStack.toList`). A popped slot is cleared,
so a stack that only `push` and `pop` have made holds zero above its pointer (`CallStack.Clean`).
-/

namespace Chip8

/-- The slots of a call stack and the number of live ones. -/
@[ext]
structure CallStack where
  slots : Vector UInt16 16
  pointer : UInt8
deriving DecidableEq

namespace CallStack

/-- The number of slots. -/
def capacity : Nat := 16

/-- The stack without a live slot, all slots zero. -/
def empty : CallStack := ⟨Vector.replicate 16 0, 0⟩

/-- Whether no slot is live. -/
def isEmpty (s : CallStack) : Bool := s.pointer == 0

/-- Whether no slot is free. -/
def isFull (s : CallStack) : Bool := decide (capacity ≤ s.pointer.toNat)

/-- Puts an address into the first free slot. A full stack has no such slot: then the pointer alone
moves. -/
def push (s : CallStack) (address : UInt16) : CallStack :=
  ⟨s.slots.setIfInBounds s.pointer.toNat address, s.pointer + 1⟩

/-- Pushes an address given as an integer, modulo 65536. -/
def checkedPush (s : CallStack) (address : Int) : Except Failure CallStack :=
  match narrow? address with
  | none => .error (.tooWide address)
  | some word => .ok (s.push word)

/-- Takes the address out of the last live slot and clears the slot. A pointer past the last slot
reads that slot and clears none. -/
def pop (s : CallStack) : UInt16 × CallStack :=
  let top := (s.pointer - 1).toNat
  (s.slots[min top 15], ⟨s.slots.setIfInBounds top 0, s.pointer - 1⟩)

/-- The live addresses, oldest first. -/
def toList (s : CallStack) : List UInt16 := s.slots.toList.take s.pointer.toNat

/-- The pointer is in range and every slot from the pointer on is zero. -/
def Clean (s : CallStack) : Prop :=
  s.pointer.toNat ≤ 16 ∧ ∀ (i : Nat) (inside : i < 16), s.pointer.toNat ≤ i → s.slots[i] = 0

theorem clean_empty : empty.Clean := by
  refine ⟨by decide, fun i inside _ => ?_⟩
  simp only [empty, Vector.getElem_replicate]

theorem isFull_iff {s : CallStack} : s.isFull = true ↔ 16 ≤ s.pointer.toNat :=
  decide_eq_true_iff

theorem isEmpty_iff {s : CallStack} : s.isEmpty = true ↔ s.pointer.toNat = 0 := by
  simp only [isEmpty, beq_iff_eq, ← UInt8.toNat_inj, UInt8.toNat_zero]

/-- An address is pushed if it fits into 32 signed bits. -/
theorem checkedPush_eq (s : CallStack) (address : Int) :
    s.checkedPush address =
      if -0x80000000 ≤ address ∧ address < 0x80000000 then .ok (s.push (UInt16.ofInt address))
      else .error (.tooWide address) := by
  unfold checkedPush narrow? isInt32
  by_cases narrow : -0x80000000 ≤ address ∧ address < 0x80000000
  · rw [decide_eq_true narrow, if_pos rfl, if_pos narrow]
  · rw [decide_eq_false narrow, if_neg Bool.false_ne_true, if_neg narrow]

theorem pointer_push {s : CallStack} (address : UInt16) (room : s.pointer.toNat < 16) :
    (s.push address).pointer.toNat = s.pointer.toNat + 1 := by
  simp only [push, UInt8.toNat_add, UInt8.toNat_one]
  omega

theorem pointer_pop {s : CallStack} (live : 0 < s.pointer.toNat) :
    s.pop.2.pointer.toNat = s.pointer.toNat - 1 := by
  have bound := s.pointer.toNat_lt
  simp only [pop, UInt8.toNat_sub, UInt8.toNat_one]
  omega

end CallStack

end Chip8
