import Chip8.Proofs.Script

/-!
# Resets

A reset leaves nothing behind but the number of resets. The start of a machine counts as one, so a
script that is empty or ends in a reset has just reset its machine (`EndsInReset`). What the machine
is then depends on the configuration and on the number of resets alone
(`Machine.after_of_endsInReset`): the processor is one to which nothing has happened
(`Cpu.Untouched`), with a random key of its own, and the key for the next reset is as many splits
away from the seed.
-/

namespace Chip8

/-- A script after which its machine has just been reset or started. -/
def EndsInReset (script : List Action) : Prop := script = [] ∨ script.getLast? = some .reset

/-- A script up to and with its latest reset. -/
def upToReset (script : List Action) : List Action := script.rdropWhile fun action => action ≠ .reset

theorem upToReset_append_sinceReset (script : List Action) :
    upToReset script ++ sinceReset script = script :=
  List.rdropWhile_append_rtakeWhile

theorem ne_reset_of_mem_sinceReset {script : List Action} {action : Action}
    (member : action ∈ sinceReset script) : action ≠ .reset :=
  of_decide_eq_true
    (List.mem_rtakeWhile_imp (p := fun action : Action => decide (action ≠ .reset)) member)

theorem endsInReset_upToReset (script : List Action) : EndsInReset (upToReset script) := by
  by_cases empty : upToReset script = []
  · exact .inl empty
  · have last : ¬decide ((upToReset script).getLast empty ≠ .reset) = true :=
      List.rdropWhile_last_not _ script empty
    rw [decide_eq_true_eq, not_not] at last
    exact .inr (List.getLast?_eq_some_getLast empty ▸ congrArg some last)

theorem count_upToReset (script : List Action) :
    (upToReset script).count .reset = script.count .reset := by
  have none_later : (sinceReset script).count .reset = 0 :=
    List.count_eq_zero.mpr fun member => ne_reset_of_mem_sinceReset member rfl
  calc (upToReset script).count .reset
      = (upToReset script ++ sinceReset script).count .reset := by
        rw [List.count_append, none_later, Nat.add_zero]
    _ = script.count .reset := by rw [upToReset_append_sinceReset]

/-- The random key of the processor of a machine that has been reset a number of times since its
start: the seed's key is split each time, and the processor gets the part that is not kept. -/
def Random.Key.root (seed : Int) (resets : Nat) : Random.Key :=
  (Random.Key.next^[resets] (Random.Key.ofSeed seed)).spare

/-! ## Processors to which nothing has happened -/

/-- Nothing has happened to a processor: memory holds the font and zeros, the program counter is at
the start of a program, and all else is zero. -/
structure Cpu.Untouched (random : Random.Key) (font : List UInt8) (strict : Bool) (s : Cpu) :
    Prop where
  memory : s.memory.bytes.toList = font ++ List.replicate 4016 0
  registers : ∀ i, s.registers.get i = 0
  index : s.index = 0
  pc : s.pc = 0x200
  slots : ∀ (i : Nat) (inside : i < 16), s.stack.slots[i] = 0
  pointer : s.stack.pointer = 0
  delayTimer : s.delayTimer = 0
  soundTimer : s.soundTimer = 0
  keys : ∀ key, s.keypad.down.get key = false
  pixels : ∀ x y, s.screen.lit x y = false
  running : s.waiting = false
  keyRegister : s.keyRegister = 0
  undrawn : s.drawn = false
  unfaulted : s.fault = none
  no_word : s.faultWord = 0
  random : s.random = random
  strict : s.strict = strict

/-- Memory of a fresh processor: the font, and zeros up to the end. -/
theorem toList_write_font {font : List UInt8} (length : font.length = 80) :
    (Memory.blank.write Font.start font).bytes.toList = font ++ List.replicate 4016 0 := by
  apply List.ext_getElem
  · rw [Vector.length_toList, List.length_append, List.length_replicate, length]
  · intro i inside _
    rw [Vector.length_toList] at inside
    have above : Font.start ≤ i := Nat.zero_le i
    have same : i - Font.start = i := Nat.sub_zero i
    have blank : Memory.blank.bytes[i] = 0 := Vector.getElem_replicate inside
    rw [Vector.getElem_toList, Memory.getElem_write font Memory.blank Font.start inside,
      if_pos above, same, blank, List.getElem_append]
    split
    · rename_i low
      rw [List.getElem?_eq_getElem low, Option.getD_some]
    · rename_i high
      rw [List.getElem?_eq_none (Nat.le_of_not_lt high), Option.getD_none, List.getElem_replicate]

/-- A processor is untouched exactly if it has just been created. -/
theorem Cpu.untouched_iff {random : Random.Key} {font : List UInt8} {strict : Bool}
    (length : font.length = 80) {s : Cpu} :
    s.Untouched random font strict ↔ s = create random font strict := by
  constructor
  · intro untouched
    apply Cpu.ext
    case memory =>
      apply Memory.ext
      rw [← Vector.toList_inj, untouched.memory]
      exact (toList_write_font length).symm
    case registers =>
      apply Vector.ext
      intro i inside
      exact (untouched.registers ⟨i, inside⟩).trans (Vector.getElem_replicate inside).symm
    case stack =>
      apply CallStack.ext
      · apply Vector.ext
        intro i inside
        exact (untouched.slots i inside).trans (Vector.getElem_replicate inside).symm
      · exact untouched.pointer
    case keypad =>
      apply Keypad.ext
      apply Vector.ext
      intro i inside
      exact (untouched.keys ⟨i, inside⟩).trans (Vector.getElem_replicate inside).symm
    case screen =>
      apply Screen.ext_lit
      intro x y
      exact (untouched.pixels x y).trans (Screen.lit_dark x y).symm
    case index => exact untouched.index
    case pc => exact untouched.pc
    case delayTimer => exact untouched.delayTimer
    case soundTimer => exact untouched.soundTimer
    case waiting => exact untouched.running
    case keyRegister => exact untouched.keyRegister
    case drawn => exact untouched.undrawn
    case fault => exact untouched.unfaulted
    case faultWord => exact untouched.no_word
    case random => exact untouched.random
    case strict => exact untouched.strict
  · rintro rfl
    exact
      { memory := toList_write_font length
        registers := fun i => Vector.getElem_replicate i.isLt
        index := rfl
        pc := rfl
        slots := fun i inside => Vector.getElem_replicate inside
        pointer := rfl
        delayTimer := rfl
        soundTimer := rfl
        keys := fun key => Vector.getElem_replicate key.isLt
        pixels := Screen.lit_dark
        running := rfl
        keyRegister := rfl
        undrawn := rfl
        unfaulted := rfl
        no_word := rfl
        random := rfl
        strict := rfl }

/-! ## Machines -/

namespace Machine

open Chip8.Random

/-- The key that is kept for the next reset depends on the number of resets only. -/
theorem seedKey_after (m : Machine) (script : List Action) :
    (m.after script).seedKey = Key.next^[script.count .reset] m.seedKey := by
  induction script using List.reverseRecOn with
  | nil => rfl
  | append_singleton script action ih =>
    rw [after_concat, seedKey_perform, ih, List.count_append, List.count_singleton]
    by_cases reset : action = .reset
    · rw [if_pos reset, if_pos (beq_iff_eq.mpr reset), Function.iterate_succ_apply']
    · rw [if_neg reset, if_neg (mt beq_iff_eq.mp reset), Nat.add_zero]

theorem seedKey_after_start (config : Config) (script : List Action) :
    ((start config).after script).seedKey =
      Key.next^[script.count .reset + 1] (Key.ofSeed config.seed) := by
  rw [seedKey_after, Function.iterate_succ_apply]
  rfl

/-- **A machine that has just been reset.** -/
theorem after_of_endsInReset (config : Config) {past : List Action} (fresh : EndsInReset past) :
    (start config).after past =
      { config := config
        seedKey := Key.next^[past.count .reset + 1] (Key.ofSeed config.seed)
        cpu := Cpu.create (Key.root config.seed (past.count .reset)) config.font config.strict } := by
  rcases fresh with rfl | fresh
  · rfl
  · obtain ⟨earlier, rfl⟩ := List.getLast?_eq_some_iff.mp fresh
    have configured := config_after (start config) earlier
    have key := seedKey_after_start config earlier
    have count : (earlier ++ [Action.reset]).count .reset = earlier.count .reset + 1 := by
      rw [List.count_append, List.count_singleton_self]
    rw [after_concat, count, Key.root, Function.iterate_succ_apply', ← key]
    show boot _ _ = _
    rw [configured]
    rfl

/-- **A reset erases history.** Right after a reset, whatever was done before, the processor is the
one that the font, the mode and a key derived from the seed by the number of resets create: nothing
has happened to it, and the configuration and the key for the next reset depend on nothing else
either. So two histories that end in a reset and have as many resets cannot be told apart from there
on: the same script leads to the same machine and fails in the same places. No reset fails. -/
theorem reset_erases_history (config : Config) {past : List Action} (fresh : EndsInReset past) :
    let m := (start config).after past
    let root := Key.root config.seed (past.count .reset)
    m.cpu = Cpu.create root config.font config.strict ∧
    m.cpu.Untouched root config.font config.strict ∧
    m.config = config ∧
    m.seedKey = Key.next^[past.count .reset + 1] (Key.ofSeed config.seed) ∧
    (∀ other, EndsInReset other → other.count .reset = past.count .reset → ∀ script,
      ((start config).after other).after script = m.after script ∧
      ((start config).after other).failures script = m.failures script) ∧
    ∀ script, ((m.after script).perform .reset).failure = none := by
  intro m root
  have reached : m = _ := after_of_endsInReset config fresh
  have created : m.cpu = Cpu.create root config.font config.strict := by rw [reached]
  refine ⟨created, (Cpu.untouched_iff config.length_font).mpr created, ?_, ?_, ?_, fun _ => rfl⟩
  · rw [reached]
  · rw [reached]
  · intro other other_fresh same script
    have alike : (start config).after other = m := by
      rw [reached, after_of_endsInReset config other_fresh, same]
    rw [alike]
    exact ⟨rfl, rfl⟩

/-- A history with a program, random bytes, a fault, a wait and a moved program counter, and one with
resets only. -/
theorem reset_erases_history_of_fault :
    let config := { Config.standard with strict := true }
    let past := [.load [0xC0, 0xFF, 0xF5, 0x0A], .tick, .setPc 0x1000, .setKey 3 true, .tick,
      .reset, .tick, .load [256], .reset]
    let other := [.reset, .reset]
    let script := [.load [0xC1, 0xFF], .tick, .reset, .tick]
    EndsInReset past ∧ EndsInReset other ∧
      other.count Action.reset = past.count Action.reset ∧
      ((start config).after past).failures [.tick] =
        [some (.execution (.unknownOpcode 0))] ∧
      ((start config).after other).after script = ((start config).after past).after script := by
  intro config past other script
  have fresh : EndsInReset past := .inr rfl
  have other_fresh : EndsInReset other := .inr rfl
  have same : other.count Action.reset = past.count Action.reset := by decide
  obtain ⟨_, _, _, _, alike, _⟩ := reset_erases_history config fresh
  refine ⟨fresh, other_fresh, same, ?_, (alike other other_fresh same script).1⟩
  rw [← (alike other other_fresh same [.tick]).2]
  decide +kernel

end Machine

end Chip8
