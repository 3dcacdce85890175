import Chip8.Proofs.Atomic
import Chip8.Proofs.CallStack

/-!
# Well nested calls

A sequence of words in which every return closes an earlier call, and every call is closed, is given
by a grammar (`WellNested`), which also counts how deep the calls go. Executed word by word, whatever
the other words do, each return goes back to where its call was executed and in the end the whole
stack is as it was, as long as there is room for the depth; otherwise the first call without room is
the first to fail (`Cpu.executeAll_balanced`).

The proof follows the level of the stack pointer, which calls raise and returns lower. Well nested
words keep it between the level that they start at and their depth above it (`Nesting.Within`), and
while it stays between two bounds the slots below the lower one are not touched.
-/

namespace Chip8

/-- The words that call a subroutine. -/
def IsCall (w : Int) : Prop := (Fields.ofWord w).group = 2

instance (w : Int) : Decidable (IsCall w) := by
  unfold IsCall
  infer_instance

/-- The words that call a subroutine or return from one. -/
def IsCallOrReturn (w : Int) : Prop := IsCall w ∨ w = 0x00EE

theorem not_isCall_ret : ¬IsCall 0x00EE := by decide

/-- Sequences of words in which calls and returns are well nested, with the depth of the nesting. -/
inductive WellNested : List Int → Nat → Prop
  | nil : WellNested [] 0
  | other {w : Int} {rest : List Int} {depth : Nat} (neither : ¬IsCallOrReturn w)
      (nested : WellNested rest depth) : WellNested (w :: rest) depth
  | block {call : Int} {body rest : List Int} {inner outer : Nat} (calls : IsCall call)
      (inside : WellNested body inner) (nested : WellNested rest outer) :
      WellNested (call :: (body ++ 0x00EE :: rest)) (max (inner + 1) outer)

/-- The return that comes after `front` closes `call`, executed after `before`: what lies between
them is well nested. -/
structure Closes (front before : List Int) (call : Int) (body : List Int) : Prop where
  split : front = before ++ call :: body
  calls : IsCall call
  nested : ∃ depth, WellNested body depth

namespace Nesting

/-- How a word moves the level of the stack. -/
def rise (w : Int) : Int := if IsCall w then 1 else if w = 0x00EE then -1 else 0

/-- How a sequence of words moves the level of the stack. -/
def height : List Int → Int
  | [] => 0
  | w :: rest => rise w + height rest

/-- The level stays between two bounds, before the first word and after every word. -/
def Within (low high : Int) : Int → List Int → Prop
  | level, [] => low ≤ level ∧ level ≤ high
  | level, w :: rest => (low ≤ level ∧ level ≤ high) ∧ Within low high (level + rise w) rest

variable {w call : Int} {words first second front back : List Int} {depth : Nat}
  {low high level : Int}

theorem rise_of_isCall (calls : IsCall w) : rise w = 1 := if_pos calls

theorem rise_ret : rise 0x00EE = -1 := by decide

theorem rise_of_neither (neither : ¬IsCallOrReturn w) : rise w = 0 := by
  unfold rise
  rw [if_neg fun calls => neither (.inl calls), if_neg fun returns => neither (.inr returns)]

theorem isCall_of_rise_pos (rises : 0 < rise w) : IsCall w ∧ rise w = 1 := by
  unfold rise at rises ⊢
  split_ifs at rises ⊢ with calls
  · exact ⟨calls, rfl⟩
  · omega
  · omega

theorem Within.bounds (within : Within low high level words) : low ≤ level ∧ level ≤ high := by
  cases words with
  | nil => exact within
  | cons w rest => exact within.1

theorem within_append :
    Within low high level (first ++ second) ↔
      Within low high level first ∧ Within low high (level + height first) second := by
  induction first generalizing level with
  | nil =>
    rw [List.nil_append, height, Int.add_zero]
    exact ⟨fun within => ⟨within.bounds, within⟩, fun within => within.2⟩
  | cons w rest ih =>
    rw [List.cons_append, height, ← Int.add_assoc]
    simp only [Within, ih, and_assoc]

/-! ## Well nested words -/

theorem height_append : height (first ++ second) = height first + height second := by
  induction first with
  | nil => rw [List.nil_append, height, Int.zero_add]
  | cons w rest ih => rw [List.cons_append, height, height, ih, Int.add_assoc]

/-- Well nested words end on the level that they start at. -/
theorem height_eq_zero (nested : WellNested words depth) : height words = 0 := by
  induction nested with
  | nil => rfl
  | other neither nested ih => rw [height, rise_of_neither neither, ih, Int.add_zero]
  | block calls inside nested ih_inside ih =>
    rw [height, height_append, height, rise_of_isCall calls, rise_ret, ih_inside, ih]
    rfl

/-- Well nested words stay between the level that they start at and their depth above it. -/
theorem within_of_wellNested (nested : WellNested words depth) (above : low ≤ level)
    (below : level + depth ≤ high) : Within low high level words := by
  induction nested generalizing level with
  | nil => exact ⟨above, by omega⟩
  | other neither nested ih =>
    refine ⟨⟨above, by omega⟩, ?_⟩
    rw [rise_of_neither neither, Int.add_zero]
    exact ih above below
  | block calls inside nested ih_inside ih =>
    refine ⟨⟨above, by omega⟩, ?_⟩
    rw [rise_of_isCall calls]
    refine within_append.mpr ⟨ih_inside (by omega) (by omega), ?_⟩
    rw [height_eq_zero inside, Int.add_zero]
    refine ⟨⟨by omega, by omega⟩, ?_⟩
    rw [rise_ret, Int.add_neg_cancel_right]
    exact ih above (by omega)

/-- The bound that well nested words stay below leaves room for their depth. -/
theorem depth_le_of_within (nested : WellNested words depth)
    (within : Within low high level words) : level + depth ≤ high := by
  induction nested generalizing level with
  | nil =>
    have := within.bounds.2
    omega
  | other neither nested ih =>
    have later := within.2
    rw [rise_of_neither neither, Int.add_zero] at later
    exact ih later
  | block calls inside nested ih_inside ih =>
    have later := within.2
    rw [rise_of_isCall calls, within_append, height_eq_zero inside, Int.add_zero] at later
    obtain ⟨within_body, _, within_rest⟩ := later
    rw [rise_ret, Int.add_neg_cancel_right] at within_rest
    have deep_body := ih_inside within_body
    have deep_rest := ih within_rest
    omega

/-- Where the words rise above a bound, the first to do so is a call on the level of the bound. -/
theorem exists_first_above {peak : Int} (bounded : Within low peak level words)
    (start : level ≤ high) (exceeds : ¬Within low high level words) :
    ∃ before call back, words = before ++ call :: back ∧ IsCall call ∧
      Within low high level before ∧ level + height before = high := by
  induction words generalizing level with
  | nil => exact absurd ⟨bounded.1, start⟩ exceeds
  | cons w rest ih =>
    obtain ⟨⟨above, _⟩, later⟩ := bounded
    by_cases stays : level + rise w ≤ high
    · have exceeds_later : ¬Within low high (level + rise w) rest :=
        fun within => exceeds ⟨⟨above, start⟩, within⟩
      obtain ⟨before, call, back, rfl, calls, within, top⟩ := ih later stays exceeds_later
      refine ⟨w :: before, call, back, rfl, calls, ⟨⟨above, start⟩, within⟩, ?_⟩
      rw [height]
      omega
    · obtain ⟨calls, one⟩ := isCall_of_rise_pos (w := w) (by omega)
      refine ⟨[], w, rest, rfl, calls, ⟨above, start⟩, ?_⟩
      rw [height]
      omega

end Nesting

/-! ## Matching calls -/

theorem Closes.append {front before body : List Int} {call : Int}
    (closes : Closes front before call body) (first : List Int) :
    Closes (first ++ front) (first ++ before) call body where
  split := by rw [closes.split, List.append_assoc]
  calls := closes.calls
  nested := closes.nested

/-- Every return in well nested words closes a call. -/
theorem WellNested.exists_closes {words : List Int} {depth : Nat} (nested : WellNested words depth)
    {front back : List Int} (split : words = front ++ 0x00EE :: back) :
    ∃ before call body, Closes front before call body := by
  induction nested generalizing front back with
  | nil => simp at split
  | @other w rest depth neither nested ih =>
    cases front with
    | nil =>
      cases split
      exact absurd (.inr rfl) neither
    | cons w front =>
      cases split
      obtain ⟨before, call, body, closes⟩ := ih rfl
      exact ⟨w :: before, call, body, closes.append [w]⟩
  | @block call body rest inner outer calls inside nested ih_inside ih =>
    cases front with
    | nil =>
      cases split
      exact absurd calls not_isCall_ret
    | cons w front =>
      obtain ⟨rfl, same⟩ := List.cons.inj split
      -- The return lies in the body, or is the one after it, or comes later.
      rcases List.append_eq_append_iff.mp same with ⟨extra, rfl, tail⟩ | ⟨extra, rfl, tail⟩
      · cases extra with
        | nil =>
          rw [List.append_nil]
          exact ⟨[], call, body, rfl, calls, inner, inside⟩
        | cons x extra =>
          obtain ⟨rfl, rfl⟩ := List.cons.inj tail
          obtain ⟨before, other, block, closes⟩ := ih rfl
          have shifted := closes.append (call :: (body ++ [0x00EE]))
          simp only [List.cons_append, List.append_assoc, List.nil_append] at shifted
          exact ⟨_, other, block, shifted⟩
      · cases extra with
        | nil =>
          rw [List.append_nil] at inside
          exact ⟨[], call, front, rfl, calls, inner, inside⟩
        | cons x extra =>
          obtain ⟨rfl, rfl⟩ := List.cons.inj tail
          obtain ⟨before, other, block, closes⟩ := ih_inside rfl
          exact ⟨call :: before, other, block, closes.append [call]⟩

namespace Cpu

open Nesting

variable {s t : Cpu} {w call : Int} {words front back : List Int} {depth low : Nat} {level : Int}

/-! ## Single words -/

theorem stack_execute_of_neither (neither : ¬IsCallOrReturn w) :
    (s.execute w).stack = s.stack := by
  have next := s.executesTo_execute w
  generalize s.execute w = t at next ⊢
  cases next with
  | performed i selected allowed =>
    rw [Instruction.effect_stack]
    cases i with
    | ret => exact absurd (.inr (Instruction.ofWord?_eq_ret_iff.mp selected)) neither
    | call target => exact absurd (.inl (Instruction.exists_call_iff.mp ⟨target, selected⟩)) neither
    | _ => rfl
  | _ => rfl

theorem execute_call (calls : IsCall w) (room : s.stack.pointer.toNat < 16) :
    s.fault? w = none ∧ (s.execute w).stack = s.stack.push s.pc := by
  obtain ⟨target, selected⟩ := Instruction.exists_call_iff.mpr calls
  have allowed : (Instruction.call target).fault? s = none := by
    have free : ¬s.stack.isFull = true := fun full =>
      Nat.not_le_of_lt room (CallStack.isFull_iff.mp full)
    exact if_neg free
  obtain ⟨clear, done⟩ := execute_of_ofWord? selected allowed
  exact ⟨clear, by rw [done]; rfl⟩

theorem execute_ret (live : 0 < s.stack.pointer.toNat) :
    s.fault? 0x00EE = none ∧ (s.execute 0x00EE).stack = s.stack.pop.2 ∧
      (s.execute 0x00EE).pc = s.stack.pop.1 := by
  have selected : Instruction.ofWord? 0x00EE = some .ret := Instruction.ofWord?_eq_ret_iff.mpr rfl
  have allowed : Instruction.ret.fault? s = none := by
    have occupied : ¬s.stack.isEmpty = true := fun empty =>
      Nat.ne_of_gt live (CallStack.isEmpty_iff.mp empty)
    exact if_neg occupied
  obtain ⟨clear, done⟩ := execute_of_ofWord? selected allowed
  exact ⟨clear, by rw [done]; rfl, by rw [done]; rfl⟩

/-! ## Sequences of words -/

/-- A processor on a level of the stack that holds what another one holds below a bound. -/
structure OnLevel (low : Nat) (level : Int) (s t : Cpu) : Prop where
  clean : t.stack.Clean
  pointer : t.stack.pointer.toNat = level
  below : ∀ (i : Nat) (inside : i < 16), i < low → t.stack.slots[i] = s.stack.slots[i]

/-- While the level stays between the bounds, a word moves it as it says and touches no slot below
the lower one. -/
theorem OnLevel.execute (on : OnLevel low level s t) (start : low ≤ level)
    (above : low ≤ level + rise w) (room : level + rise w ≤ 16) :
    OnLevel low (level + rise w) s (t.execute w) := by
  obtain ⟨clean, pointer, below⟩ := on
  by_cases calls : IsCall w
  · rw [rise_of_isCall calls] at above room ⊢
    have free : t.stack.pointer.toNat < 16 := by omega
    have pushed := CallStack.pointer_push t.pc free
    constructor <;> rw [(execute_call calls free).2]
    · exact clean.push t.pc free
    · omega
    · intro i inside lower
      rw [CallStack.getElem_push t.pc inside, if_neg (by omega)]
      exact below i inside lower
  · by_cases returns : w = 0x00EE
    · subst returns
      rw [rise_ret] at above room ⊢
      have live : 0 < t.stack.pointer.toNat := by omega
      have popped := CallStack.pointer_pop live
      constructor <;> rw [(execute_ret live).2.1]
      · exact clean.pop live
      · omega
      · intro i inside lower
        rw [CallStack.getElem_pop live inside, if_neg (by omega)]
        exact below i inside lower
    · have neither : ¬IsCallOrReturn w := by
        rintro (yes | yes)
        · exact calls yes
        · exact returns yes
      rw [rise_of_neither neither, Int.add_zero]
      constructor <;> rw [stack_execute_of_neither neither]
      · exact clean
      · exact pointer
      · exact below

/-- **Words that stay between the bounds lead to the level that they say**, and leave the slots below
the lower bound alone. -/
theorem OnLevel.executeAll (on : OnLevel low level s t) (within : Within low 16 level words) :
    OnLevel low (level + height words) s (t.executeAll words) := by
  induction words generalizing t level with
  | nil =>
    rw [height, Int.add_zero]
    exact on
  | cons w rest ih =>
    have later := within.2
    rw [height, ← Int.add_assoc]
    exact ih (on.execute within.1.1 later.bounds.1 later.bounds.2) later

theorem OnLevel.passes (on : OnLevel low level s t) (above : low ≤ level + rise w)
    (room : level + rise w ≤ 16) (moves : IsCallOrReturn w) : t.Passes w := by
  obtain ⟨clean, pointer, _⟩ := on
  apply passes_of_clear clean.1
  rcases moves with calls | rfl
  · rw [rise_of_isCall calls] at above room
    exact (execute_call calls (by omega)).1
  · rw [rise_ret] at above room
    exact (execute_ret (by omega)).1

/-- A processor is on the level of its own stack pointer. -/
theorem onLevel_self (clean : s.stack.Clean) :
    OnLevel s.stack.pointer.toNat s.stack.pointer.toNat s s :=
  ⟨clean, rfl, fun _ _ _ => rfl⟩

/-- Calls and returns within the bounds pass. -/
theorem passes_of_within (clean : s.stack.Clean)
    (within : Within s.stack.pointer.toNat 16 s.stack.pointer.toNat words)
    (split : words = front ++ w :: back) (moves : IsCallOrReturn w) :
    (s.executeAll front).Passes w := by
  rw [split, within_append] at within
  obtain ⟨within_front, _, later⟩ := within
  exact ((onLevel_self clean).executeAll within_front).passes later.bounds.1 later.bounds.2 moves

/-- **Well nested words leave the stack as it was**, where there is room for their depth. -/
theorem stack_executeAll (clean : s.stack.Clean) (nested : WellNested words depth)
    (room : s.stack.pointer.toNat + depth ≤ 16) : (s.executeAll words).stack = s.stack := by
  have within : Within s.stack.pointer.toNat 16 s.stack.pointer.toNat words :=
    within_of_wellNested nested (Int.le_refl _) (by omega)
  have on := (onLevel_self clean).executeAll within
  rw [height_eq_zero nested, Int.add_zero] at on
  have same : (s.executeAll words).stack.pointer.toNat = s.stack.pointer.toNat :=
    Int.ofNat_inj.mp on.pointer
  apply on.clean.eq clean (UInt8.toNat_inj.mp same)
  intro i inside live
  exact on.below i inside (same ▸ live)

/-- A return goes back to where the call that it closes was executed. -/
theorem pc_of_closes (clean : s.stack.Clean)
    (within : Within s.stack.pointer.toNat 16 s.stack.pointer.toNat front)
    {before body : List Int} (closes : Closes front before call body) :
    (s.executeAll (front ++ [0x00EE])).pc = (s.executeAll before).pc := by
  obtain ⟨rfl, calls, inner, inside⟩ := closes
  obtain ⟨within_before, _, within_body⟩ := within_append.mp within
  rw [rise_of_isCall calls] at within_body
  have deep := depth_le_of_within inside within_body
  have on := (onLevel_self clean).executeAll within_before
  generalize reached : s.executeAll before = t at on
  have pointer := on.pointer
  have free : t.stack.pointer.toNat < 16 := by omega
  have pushed := CallStack.pointer_push t.pc free
  -- The call pushes the program counter, and the body leaves it on top.
  have called : (t.execute call).stack = t.stack.push t.pc := (execute_call calls free).2
  have kept : ((t.execute call).executeAll body).stack = t.stack.push t.pc := by
    rw [← called]
    apply stack_executeAll _ inside
    · rw [called]
      omega
    · rw [called]
      exact on.clean.push t.pc free
  have live : 0 < ((t.execute call).executeAll body).stack.pointer.toNat := by
    rw [kept]
    omega
  calc (s.executeAll (before ++ call :: body ++ [0x00EE])).pc
      = (((t.execute call).executeAll body).execute 0x00EE).pc := by
        rw [executeAll_append, executeAll_append, reached]
        rfl
    _ = ((t.execute call).executeAll body).stack.pop.1 := (execute_ret live).2.2
    _ = t.pc := by rw [kept, on.clean.pop_push t.pc free]

/-- Without room for the depth a call finds sixteen live slots, and up to there the level stays
within them. -/
theorem exists_overflow (clean : s.stack.Clean) (nested : WellNested words depth)
    (full : 16 < s.stack.pointer.toNat + depth) :
    ∃ before call back, words = before ++ call :: back ∧ IsCall call ∧
      Within s.stack.pointer.toNat 16 s.stack.pointer.toNat before ∧
      (s.executeAll before).stack.pointer.toNat = 16 := by
  have bounded := within_of_wellNested nested (Int.le_refl s.stack.pointer.toNat) (Int.le_refl _)
  have start : (s.stack.pointer.toNat : Int) ≤ 16 := Int.ofNat_le.mpr clean.1
  have exceeds : ¬Within s.stack.pointer.toNat 16 s.stack.pointer.toNat words := by
    intro within
    have deep := depth_le_of_within nested within
    omega
  obtain ⟨before, call, back, split, calls, within, top⟩ := exists_first_above bounded start exceeds
  have pointer := ((onLevel_self clean).executeAll within).pointer
  rw [top] at pointer
  exact ⟨before, call, back, split, calls, within, Int.ofNat_inj.mp pointer⟩

/-- **Balanced calls return to where they came from.** Let the free slots of a processor hold zero,
and let words be executed in which calls and returns are well nested. With room for the depth of the
nesting every call and every return passes, each return closes a call and goes back to where that
call was executed, and in the end the whole stack is as it was. Without room, all calls and returns
pass up to the first call that finds sixteen live slots; that call records an overflow of the stack
and changes nothing else. -/
theorem executeAll_balanced (clean : s.stack.Clean) (nested : WellNested words depth) :
    (s.stack.pointer.toNat + depth ≤ 16 →
      (∀ front w back, words = front ++ w :: back → IsCallOrReturn w →
        (s.executeAll front).Passes w) ∧
      (∀ front back, words = front ++ 0x00EE :: back →
        (∃ before call body, Closes front before call body) ∧
        ∀ before call body, Closes front before call body →
          (s.executeAll (front ++ [0x00EE])).pc = (s.executeAll before).pc) ∧
      (s.executeAll words).stack = s.stack) ∧
    (16 < s.stack.pointer.toNat + depth →
      ∃ before call back, words = before ++ call :: back ∧ IsCall call ∧
        (s.executeAll before).stack.pointer.toNat = 16 ∧
        (∀ front w rest, before = front ++ w :: rest → IsCallOrReturn w →
          (s.executeAll front).Passes w ∧
          (IsCall w → (s.executeAll front).stack.pointer.toNat ≠ 16)) ∧
        (s.executeAll before).execute call =
          { s.executeAll before with
            fault := some .stackOverflow, faultWord := UInt16.ofInt call }) := by
  constructor
  · intro room
    have within : Within s.stack.pointer.toNat 16 s.stack.pointer.toNat words :=
      within_of_wellNested nested (Int.le_refl _) (by omega)
    refine ⟨?_, ?_, stack_executeAll clean nested room⟩
    · intro front w back split moves
      exact passes_of_within clean within split moves
    · intro front back split
      refine ⟨nested.exists_closes split, ?_⟩
      intro before call body closes
      rw [split, within_append] at within
      exact pc_of_closes clean within.1 closes
  · intro full
    obtain ⟨before, call, back, split, calls, within, pointer⟩ := exists_overflow clean nested full
    refine ⟨before, call, back, split, calls, pointer, ?_, ?_⟩
    · intro front w rest earlier moves
      have passes := passes_of_within clean within earlier moves
      exact ⟨passes, fun calls top => passes.no_cause ⟨.fullStack, calls, top⟩⟩
    · have applies : Cause.fullStack.Applies (s.executeAll before) call := ⟨calls, pointer⟩
      exact execute_of_applies applies

/-- Two nested calls with jumps between them, from fourteen and from fifteen live slots. -/
theorem executeAll_balanced_at_capacity :
    let words := [0x2300, 0xB200, 0x2400, 0x1555, 0x00EE, 0x7001, 0x00EE]
    let fits : Cpu :=
      { create ⟨0, 0⟩ Font.standard true with
        stack := (List.replicate 14 0x0456).foldl CallStack.push .empty, pc := 0x0ABC }
    let full : Cpu := { fits with stack := fits.stack.push 0x0789 }
    WellNested words 2 ∧ fits.stack.Clean ∧ full.stack.Clean ∧
      fits.stack.pointer.toNat + 2 ≤ 16 ∧ (fits.executeAll words).stack = fits.stack ∧
      (fits.executeAll words).pc = 0x0ABC ∧
      16 < full.stack.pointer.toNat + 2 ∧
      ∃ before call back, words = before ++ call :: back ∧
        (full.executeAll before).execute call =
          { full.executeAll before with
            fault := some .stackOverflow, faultWord := UInt16.ofInt call } := by
  intro words fits full
  have neither : ∀ w ∈ [0xB200, 0x1555, 0x7001], ¬IsCallOrReturn w := by
    unfold IsCallOrReturn
    decide
  have jump : WellNested [0x1555] 0 := .other (neither _ (by decide)) .nil
  have add : WellNested [0x7001] 0 := .other (neither _ (by decide)) .nil
  have inner : WellNested [0x2400, 0x1555, 0x00EE, 0x7001] 1 := .block (by decide) jump add
  have body : WellNested [0xB200, 0x2400, 0x1555, 0x00EE, 0x7001] 1 :=
    .other (neither _ (by decide)) inner
  have nested : WellNested words 2 := .block (by decide) body .nil
  have clean : fits.stack.Clean := by
    unfold CallStack.Clean
    decide
  have clean_full : full.stack.Clean := by
    unfold CallStack.Clean
    decide
  have room : fits.stack.pointer.toNat + 2 ≤ 16 := by decide
  have no_room : 16 < full.stack.pointer.toNat + 2 := by decide
  obtain ⟨_, returns, same⟩ := (executeAll_balanced clean nested).1 room
  obtain ⟨before, call, back, split, _, _, _, halts⟩ :=
    (executeAll_balanced clean_full nested).2 no_room
  have closes : Closes [0x2300, 0xB200, 0x2400, 0x1555, 0x00EE, 0x7001] [] 0x2300
      [0xB200, 0x2400, 0x1555, 0x00EE, 0x7001] :=
    ⟨rfl, by decide, 1, body⟩
  have home : (fits.executeAll words).pc = (fits.executeAll []).pc :=
    (returns [0x2300, 0xB200, 0x2400, 0x1555, 0x00EE, 0x7001] [] rfl).2 [] 0x2300 _ closes
  exact ⟨nested, clean, clean_full, room, same, home, no_room, before, call, back, split, halts⟩

end Cpu

end Chip8
