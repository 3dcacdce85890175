import Chip8.Proofs.CallStack

/-!
# Call stacks as bounded lists

To its callers a call stack is the list of its live addresses: a push appends to the list and a pop
takes the last address off, as long as callers ask for a free or a live slot first
(`StackCall.allFit`). The list and the stack answer alike and go on alike
(`CallStack.Represents.run`), and nothing of the stack is left out of the list, so equal lists mean
equal stacks in all sixteen slots (`CallStack.calls_follow_list`). An address that needs more than 32
signed bits is refused and not cut down (`CallStack.wide_address_refused`).
-/

namespace Chip8

/-- A call of a stack. The address of a push is any integer. -/
inductive StackCall where
  | push (address : Int)
  | pop
deriving DecidableEq

/-- What a call answers. A list may have nothing to pop. -/
inductive StackAnswer where
  | pushed
  | popped (address : Option UInt16)
  | refused (failure : Failure)
deriving DecidableEq

namespace StackCall

/-- What a call does to a list of addresses, oldest first: a push appends its address modulo 65536,
unless the address does not fit into 32 signed bits, and a pop takes the last address off. -/
def onList (l : List UInt16) : StackCall → StackAnswer × List UInt16
  | push address =>
    if -0x80000000 ≤ address ∧ address < 0x80000000 then (.pushed, l ++ [UInt16.ofInt address])
    else (.refused (.tooWide address), l)
  | pop => (.popped l.getLast?, l.dropLast)

/-- What a call does to a stack. A push that is refused leaves the stack as it is. -/
def onStack (s : CallStack) : StackCall → StackAnswer × CallStack
  | push address =>
    match s.checkedPush address with
    | .error failure => (.refused failure, s)
    | .ok next => (.pushed, next)
  | pop => (.popped (some s.pop.1), s.pop.2)

/-- Whether a stack has the slot that a call needs. -/
def fits (s : CallStack) : StackCall → Bool
  | push _ => !s.isFull
  | pop => !s.isEmpty

/-- Makes calls one after the other, where `make` makes one, and collects the answers. -/
def run {σ : Type} (make : σ → StackCall → StackAnswer × σ) (state : σ) :
    List StackCall → List StackAnswer × σ
  | [] => ([], state)
  | call :: rest =>
    let (answer, next) := make state call
    let (answers, last) := run make next rest
    (answer :: answers, last)

/-- Whether each call of a sequence finds the slot that it needs. -/
def allFit (s : CallStack) : List StackCall → Bool
  | [] => true
  | call :: rest => call.fits s && allFit (call.onStack s).2 rest

end StackCall

namespace CallStack

open StackCall

variable {s t : CallStack} {l : List UInt16}

/-- A stack stands for a list: the list is that of its live addresses, and its free slots are zero. -/
def Represents (s : CallStack) (l : List UInt16) : Prop := s.Clean ∧ s.toList = l

namespace Represents

theorem pointer_eq (h : s.Represents l) : s.pointer.toNat = l.length := by
  rw [← h.2, length_toList h.1.1]

theorem isEmpty_iff (h : s.Represents l) : s.isEmpty = true ↔ l = [] := by
  rw [CallStack.isEmpty_iff, h.pointer_eq, List.length_eq_zero_iff]

/-- A list never outgrows the stack that stands for it. -/
theorem length_le (h : s.Represents l) : l.length ≤ 16 := by
  rw [← h.pointer_eq]
  exact h.1.1

theorem isFull_iff (h : s.Represents l) : s.isFull = true ↔ l.length = 16 := by
  have bound := h.length_le
  rw [CallStack.isFull_iff, h.pointer_eq]
  omega

/-- The list tells the stack. -/
theorem unique (h : s.Represents l) (other : t.Represents l) : s = t :=
  h.1.eq_of_toList other.1 (h.2.trans other.2.symm)

/-- **A call does to a stack what it does to the list**, if there is a slot for it. -/
theorem call (h : s.Represents l) {call : StackCall} (fits : call.fits s = true) :
    (call.onStack s).1 = (call.onList l).1 ∧
      (call.onStack s).2.Represents (call.onList l).2 := by
  obtain ⟨clean, rfl⟩ := h
  cases call with
  | push address =>
    have room : s.pointer.toNat < 16 := by
      rw [StackCall.fits, Bool.not_eq_true', Bool.eq_false_iff] at fits
      exact Nat.lt_of_not_le fun full => fits (CallStack.isFull_iff.mpr full)
    simp only [onStack, onList, checkedPush_eq]
    by_cases narrow : -0x80000000 ≤ address ∧ address < 0x80000000
    · simp only [if_pos narrow]
      exact ⟨trivial, clean.push _ room, toList_push _ room⟩
    · simp only [if_neg narrow]
      exact ⟨trivial, clean, rfl⟩
  | pop =>
    have live : 0 < s.pointer.toNat := by
      rw [StackCall.fits, Bool.not_eq_true', Bool.eq_false_iff] at fits
      exact Nat.pos_of_ne_zero fun none_left => fits (CallStack.isEmpty_iff.mpr none_left)
    obtain ⟨last, others⟩ := toList_pop live clean.1
    simp only [onStack, onList, last]
    exact ⟨trivial, clean.pop live, others⟩

/-- Calls that fit answer for the stack as for the list, and lead to a stack and its list. -/
theorem run (h : s.Represents l) {calls : List StackCall} (fit : allFit s calls = true) :
    (StackCall.run onStack s calls).1 = (StackCall.run onList l calls).1 ∧
      (StackCall.run onStack s calls).2.Represents (StackCall.run onList l calls).2 := by
  induction calls generalizing s l with
  | nil => exact ⟨rfl, h⟩
  | cons call rest ih =>
    rw [allFit, Bool.and_eq_true] at fit
    obtain ⟨same_answer, next⟩ := h.call fit.1
    obtain ⟨same_answers, last⟩ := ih next fit.2
    refine ⟨?_, last⟩
    simp only [StackCall.run, same_answer, same_answers]

end Represents

theorem represents_empty : empty.Represents [] := ⟨clean_empty, rfl⟩

/-- **A call stack is a bounded list.** Let calls that find the slots that they need be made on the
empty stack. They answer as they do on the empty list: addresses are appended modulo 65536 and the
last one is popped, and an address that does not fit into 32 signed bits is refused and changes
nothing. Then the live addresses are the list, the stack is empty exactly if the list is and full
exactly if the list has sixteen addresses, the pointer is the length of the list, and every slot from
the pointer on is zero. So other calls that lead to the same list lead to the same stack. -/
theorem calls_follow_list (calls : List StackCall) (fit : allFit empty calls = true) :
    let s := (StackCall.run onStack empty calls).2
    let l := (StackCall.run onList [] calls).2
    (StackCall.run onStack empty calls).1 = (StackCall.run onList [] calls).1 ∧
    s.toList = l ∧
    (s.isEmpty = true ↔ l = []) ∧
    (s.isFull = true ↔ l.length = 16) ∧
    s.pointer.toNat = l.length ∧ l.length ≤ 16 ∧
    (∀ (i : Nat) (inside : i < 16), s.pointer.toNat ≤ i → s.slots[i] = 0) ∧
    ∀ others, allFit empty others = true → (StackCall.run onList [] others).2 = l →
      (StackCall.run onStack empty others).2 = s := by
  intro s l
  obtain ⟨same_answers, represents⟩ := represents_empty.run fit
  refine ⟨same_answers, represents.2, represents.isEmpty_iff, represents.isFull_iff,
    represents.pointer_eq, represents.length_le, represents.1.2, ?_⟩
  intro others others_fit same_list
  have also := (represents_empty.run others_fit).2
  rw [same_list] at also
  exact also.unique represents

/-- Sixteen addresses are pushed, the last one is popped, a wide address is refused and a negative one
takes the slot. Pushing the sixteen that are left leads to the same stack, which is full. -/
theorem calls_follow_list_to_the_last_slot :
    let first := (List.range 15).map fun i : Nat => StackCall.push (0x10200 + 2 * i)
    let calls := first ++ [.push 0x300, .pop, .push 0x80000000, .push (-2)]
    let others := first ++ [.push 0xFFFE]
    allFit empty calls = true ∧ allFit empty others = true ∧
      (StackCall.run onStack empty calls).2.isFull = true ∧
      (StackCall.run onStack empty others).2 = (StackCall.run onStack empty calls).2 := by
  intro first calls others
  have fit : allFit empty calls = true := by decide +kernel
  have others_fit : allFit empty others = true := by decide +kernel
  have same_list : (StackCall.run onList [] others).2 = (StackCall.run onList [] calls).2 := by
    decide +kernel
  have sixteen : (StackCall.run onList [] calls).2.length = 16 := by decide +kernel
  obtain ⟨_, _, _, full_iff, _, _, _, unique⟩ := calls_follow_list calls fit
  exact ⟨fit, others_fit, full_iff.mpr sixteen, unique others others_fit same_list⟩

/-- There is a free slot, and still no stack on which the address stands modulo 65536. -/
theorem wide_address_refused :
    empty.isFull = false ∧ empty.checkedPush 0x80000000 = .error (.tooWide 0x80000000) ∧
      ¬∃ s, empty.checkedPush 0x80000000 = .ok s ∧ s.toList = [UInt16.ofInt 0x80000000] := by
  have refused : empty.checkedPush 0x80000000 = .error (.tooWide 0x80000000) := rfl
  refine ⟨rfl, refused, ?_⟩
  rintro ⟨s, pushed, _⟩
  cases refused.symm.trans pushed

end CallStack

end Chip8
