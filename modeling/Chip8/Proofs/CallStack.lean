import Chip8.CallStack

/-!
# Slots of a call stack

What `push` and `pop` do to every slot and to the list of live addresses, and two properties that they
keep: free slots hold zero (`CallStack.Clean`), and live slots hold addresses of a given kind
(`CallStack.Live`). A clean stack is told by its list, and `pop` undoes `push` in all its slots.
-/

namespace Chip8.CallStack

variable {s t : CallStack} {P : UInt16 → Prop}

/-- Every live slot holds an address with a property. -/
def Live (P : UInt16 → Prop) (s : CallStack) : Prop :=
  ∀ (i : Nat) (inside : i < 16), i < s.pointer.toNat → P s.slots[i]

theorem live_empty : Live P empty := fun _ _ below => absurd below (Nat.not_lt_zero _)

theorem getElem_push (address : UInt16) {i : Nat} (inside : i < 16) :
    (s.push address).slots[i] = if s.pointer.toNat = i then address else s.slots[i] := by
  simp only [push, Vector.getElem_setIfInBounds inside]

/-- The slot of the last live address, while there is one. -/
theorem top_eq (live : 0 < s.pointer.toNat) : (s.pointer - 1).toNat = s.pointer.toNat - 1 := by
  have pointer := pointer_pop live
  simpa only [pop] using pointer

theorem getElem_pop (live : 0 < s.pointer.toNat) {i : Nat} (inside : i < 16) :
    s.pop.2.slots[i] = if s.pointer.toNat - 1 = i then 0 else s.slots[i] := by
  simp only [pop, Vector.getElem_setIfInBounds inside, top_eq live]

/-- What is popped is the last live address. -/
theorem pop_fst (live : 0 < s.pointer.toNat) (bound : s.pointer.toNat ≤ 16) :
    s.pop.1 = s.slots[s.pointer.toNat - 1] := by
  simp only [pop, top_eq live]
  congr 1
  omega

/-! ## The live addresses as a list -/

theorem length_toList (bound : s.pointer.toNat ≤ 16) : s.toList.length = s.pointer.toNat := by
  rw [toList, List.length_take, Vector.length_toList, Nat.min_eq_left bound]

/-- A push appends to the list. -/
theorem toList_push (address : UInt16) (room : s.pointer.toNat < 16) :
    (s.push address).toList = s.toList ++ [address] := by
  have written : (s.push address).slots.toList = s.slots.toList.set s.pointer.toNat address :=
    Vector.toList_setIfInBounds
  rw [toList, pointer_push address room, written, List.take_add_one,
    List.take_set_of_le (Nat.le_refl _), List.getElem?_set_self (by rwa [Vector.length_toList]),
    Option.toList_some]
  rfl

/-- A pop takes the last address of the list. -/
theorem toList_pop (live : 0 < s.pointer.toNat) (bound : s.pointer.toNat ≤ 16) :
    s.toList.getLast? = some s.pop.1 ∧ s.pop.2.toList = s.toList.dropLast := by
  have below : s.pointer.toNat - 1 < 16 := by omega
  constructor
  · rw [toList, List.getLast?_take, if_neg (by omega), pop_fst live bound, Vector.getElem?_toList,
      Vector.getElem?_eq_getElem below, Option.some_or]
  · have cleared : s.pop.2.slots.toList = s.slots.toList.set (s.pointer.toNat - 1) 0 := by
      rw [← top_eq live]
      exact Vector.toList_setIfInBounds
    rw [toList, pointer_pop live, cleared, List.take_set_of_le (Nat.le_refl _),
      List.dropLast_eq_take, length_toList bound, toList, List.take_take,
      Nat.min_eq_left (Nat.sub_le ..)]

/-! ## Free slots -/

theorem Clean.push (clean : s.Clean) (address : UInt16) (room : s.pointer.toNat < 16) :
    (s.push address).Clean := by
  obtain ⟨_, zero⟩ := clean
  have pointer := pointer_push address room
  refine ⟨by omega, fun i inside free => ?_⟩
  rw [getElem_push address inside, if_neg (by omega)]
  exact zero i inside (by omega)

theorem Clean.pop (clean : s.Clean) (live : 0 < s.pointer.toNat) : s.pop.2.Clean := by
  obtain ⟨bound, zero⟩ := clean
  have pointer := pointer_pop live
  refine ⟨by omega, fun i inside free => ?_⟩
  rw [getElem_pop live inside]
  split
  · rfl
  · exact zero i inside (by omega)

/-- Clean stacks are told apart by their pointers and their live slots. -/
theorem Clean.eq (clean : s.Clean) (other : t.Clean) (pointer : s.pointer = t.pointer)
    (live : ∀ (i : Nat) (inside : i < 16), i < s.pointer.toNat → s.slots[i] = t.slots[i]) :
    s = t := by
  apply CallStack.ext
  · apply Vector.ext
    intro i inside
    by_cases below : i < s.pointer.toNat
    · exact live i inside below
    · rw [clean.2 i inside (by omega), other.2 i inside (by rw [← pointer]; omega)]
  · exact pointer

/-- Clean stacks are told apart by their lists. -/
theorem Clean.eq_of_toList (clean : s.Clean) (other : t.Clean) (same : s.toList = t.toList) :
    s = t := by
  have pointer : s.pointer.toNat = t.pointer.toNat := by
    rw [← length_toList clean.1, ← length_toList other.1, same]
  refine clean.eq other (UInt8.toNat_inj.mp pointer) fun i inside below => ?_
  have slot := congrArg (fun l => l[i]?) same
  simp only [toList, List.getElem?_take_of_lt below, List.getElem?_take_of_lt (pointer ▸ below),
    Vector.getElem?_toList, Vector.getElem?_eq_getElem inside] at slot
  exact Option.some.inj slot

/-- What is pushed is popped next, and then the stack is as it was. -/
theorem Clean.pop_push (clean : s.Clean) (address : UInt16) (room : s.pointer.toNat < 16) :
    (s.push address).pop = (address, s) := by
  have pushed := pointer_push address room
  have live : 0 < (s.push address).pointer.toNat := by omega
  have popped := pointer_pop live
  apply Prod.ext
  · have top : (s.push address).pointer.toNat - 1 < 16 := by omega
    rw [CallStack.pop_fst live (by omega), getElem_push address top, if_pos (by omega)]
  · show (s.push address).pop.2 = s
    apply ((clean.push address room).pop live).eq clean
    · rw [← UInt8.toNat_inj]
      omega
    · intro i inside below
      rw [getElem_pop live inside, if_neg (by omega), getElem_push address inside,
        if_neg (by omega)]

/-! ## Live slots -/

theorem Live.push (all : s.Live P) {address : UInt16} (new : P address)
    (room : s.pointer.toNat < 16) : (s.push address).Live P := by
  have pointer := pointer_push address room
  intro i inside below
  rw [getElem_push address inside]
  split
  · exact new
  · exact all i inside (by omega)

theorem Live.pop (all : s.Live P) (live : 0 < s.pointer.toNat) : s.pop.2.Live P := by
  have pointer := pointer_pop live
  intro i inside below
  rw [getElem_pop live inside, if_neg (by omega)]
  exact all i inside (by omega)

theorem Live.pop_fst (all : s.Live P) (live : 0 < s.pointer.toNat) (bound : s.pointer.toNat ≤ 16) :
    P s.pop.1 := by
  rw [CallStack.pop_fst live bound]
  exact all _ (by omega) (by omega)

end Chip8.CallStack
