import Chip8.Proofs.Decode
import Chip8.Proofs.Reset
import Chip8.Proofs.Sticky

/-!
# Random bytes

The bytes that a machine draws are a sequence fixed by its seed and the number of its resets
(`Machine.draws_determined`). The random key is threaded through the steps of a run
(`Random.Threads`): a step that draws a byte splits the key and keeps one part, and nothing else
that happens between two resets, no other instruction, fault, program, key event or timer, touches
it.
-/

namespace Chip8

namespace Cpu

variable {s : Cpu}

/-- Whether the next step executes a word that draws a random byte. -/
def draws (s : Cpu) : Bool :=
  decide (s.pc.toNat < 0x1000 ∧ (Fields.ofWord s.nextWord.toNat).group = 12)

/-- The byte that a step draws if it draws one, before it is masked. -/
def drawnByte (s : Cpu) : UInt8 := s.random.spare.byte

/-- A step that draws a byte puts it, masked, into the register that the word names. -/
theorem step_of_draws (draws : s.draws = true) :
    s.step.registers = s.registers.set (Fields.ofWord s.nextWord.toNat).x
        (s.drawnByte &&& (Fields.ofWord s.nextWord.toNat).nn) ∧
      s.step.random = s.random.next := by
  obtain ⟨inside, group⟩ := of_decide_eq_true draws
  have selected : s.nextInstruction? = some (.random (Fields.ofWord s.nextWord.toNat).x
      (Fields.ofWord s.nextWord.toNat).nn) := by
    refine nextInstruction?_eq_some_iff.mpr ⟨inside, ?_⟩
    exact Instruction.ofFields?_of_encodes group ⟨rfl, rfl⟩
  rw [step_of_nextInstruction? selected rfl]
  exact ⟨rfl, rfl⟩

/-- **A step splits the random key if it draws a byte, and leaves it alone otherwise.** -/
theorem random_step (s : Cpu) : s.step.random = if s.draws then s.random.next else s.random := by
  split
  · rename_i draws
    exact (step_of_draws draws).2
  · rename_i other
    have next := s.stepsTo_step
    generalize s.step = t at next ⊢
    cases next with
    | performed i inside selected allowed =>
      rw [Instruction.effect_random]
      cases i with
      | random x nn =>
        have group := Instruction.group_of_ofFields? selected
        exact absurd (decide_eq_true ⟨inside, group⟩) other
      | _ => rfl
    | _ => rfl

theorem random_tick (budget : Nat) (runnable : s.isRunnable = true) :
    (s.tick budget).random = (runFor budget { s with drawn := false }).random :=
  field_tick Cpu.random (fun _ => rfl) budget runnable

end Cpu

namespace Random

/-- Steps that lead the random key from one value to another: each finds it as the steps before have
left it. -/
def Threads : Key → List Cpu → Key → Prop
  | first, [], last => last = first
  | first, t :: rest, last =>
    t.random = first ∧ Threads (if t.draws then first.next else first) rest last

variable {first middle last : Key} {steps rest : List Cpu}

theorem Threads.nil (key : Key) : Threads key [] key := rfl

theorem Threads.append (one : Threads first steps middle) (two : Threads middle rest last) :
    Threads first (steps ++ rest) last := by
  induction steps generalizing first with
  | nil =>
    cases one
    exact two
  | cons t more ih => exact ⟨one.1, ih one.2⟩

/-- The key is split once for every byte that is drawn: in the end for all of them, and where a byte
is drawn for those before it. -/
theorem Threads.iterate (threads : Threads first steps last) :
    last = Key.next^[(steps.filter Cpu.draws).length] first ∧
      ∀ (i : Nat) (t : Cpu), (steps.filter Cpu.draws)[i]? = some t →
        t.random = Key.next^[i] first := by
  induction steps generalizing first with
  | nil => exact ⟨threads, fun _ _ nth => nomatch nth⟩
  | cons u rest ih =>
    obtain ⟨found, later⟩ := threads
    cases drawing : u.draws with
    | true =>
      rw [if_pos drawing] at later
      obtain ⟨final, each⟩ := ih later
      rw [List.filter_cons_of_pos drawing, List.length_cons, Function.iterate_succ_apply]
      refine ⟨final, ?_⟩
      intro i t nth
      cases i with
      | zero =>
        cases nth
        exact found
      | succ i =>
        rw [Function.iterate_succ_apply]
        exact each i t nth
    | false =>
      have silent : ¬u.draws = true := Bool.eq_false_iff.mp drawing
      rw [if_neg silent] at later
      rw [List.filter_cons_of_neg silent]
      exact ih later

/-- Only the lowest 32 bits of a seed count. -/
theorem Key.ofSeed_congr {a b : Int} (same : a % 0x100000000 = b % 0x100000000) :
    ofSeed a = ofSeed b := by
  have residue : a % 2 ^ 32 = b % 2 ^ 32 := same
  rw [ofSeed, ofSeed, UInt32.ofInt, UInt32.ofInt, residue]

end Random

open Chip8.Random

/-! ## Runs and ticks -/

namespace Cpu

theorem threads_runFor : ∀ (budget : Nat) (s : Cpu),
    Threads s.random (trail budget s) (runFor budget s).random
  | 0, _ => rfl
  | budget + 1, s => by
    cases runnable : s.isRunnable with
    | false =>
      rw [trail_of_not_runnable _ runnable, runFor_of_not_runnable _ runnable]
      rfl
    | true =>
      rw [trail_succ budget runnable, runFor_succ budget runnable]
      refine ⟨rfl, ?_⟩
      rw [← random_step]
      exact threads_runFor budget s.step

theorem threads_tick (budget : Nat) (s : Cpu) :
    Threads s.random (s.tickTrail budget) (s.tick budget).random := by
  cases runnable : s.isRunnable with
  | false =>
    rw [tick_of_not_runnable budget runnable]
    have stuck : Cpu.isRunnable { s with drawn := false } = false := runnable
    rw [tickTrail, trail_of_not_runnable budget stuck]
    rfl
  | true =>
    rw [random_tick budget runnable]
    exact threads_runFor budget { s with drawn := false }

end Cpu

/-! ## Machines -/

namespace Machine

/-- Between two resets only the steps of ticks touch the random key. -/
theorem threads_perform (m : Machine) {action : Action} (kept : action ≠ .reset) :
    Threads m.cpu.random (m.trail action) (m.perform action).machine.cpu.random := by
  cases action with
  | load program =>
    rw [perform, machine_load]
    rfl
  | tick =>
    rw [trail, perform, machine_tick]
    cases narrow : isInt32 m.config.budget with
    | true => exact Cpu.threads_tick m.config.budget m.cpu
    | false => exact Threads.nil _
  | setKey number isDown =>
    rw [perform]
    cases known : Key.ofInt? number with
    | none =>
      rw [m.setKey_of_none known]
      rfl
    | some key =>
      rw [(m.setKey_of_some known isDown).1]
      unfold Cpu.keyEvent
      dsimp only
      split <;> rfl
  | reset => exact absurd rfl kept
  | setPc address =>
    unfold perform setPc
    dsimp only
    cases narrow? address <;> rfl

theorem threads_after (m : Machine) {script : List Action}
    (kept : ∀ action ∈ script, action ≠ .reset) :
    Threads m.cpu.random (m.trailOf script) (m.after script).cpu.random := by
  induction script generalizing m with
  | nil => rfl
  | cons action rest ih =>
    obtain ⟨now, later⟩ := List.forall_mem_cons.mp kept
    exact (m.threads_perform now).append (ih _ later)

/-- The states that a script takes a step from after its latest reset. -/
def recentTrail (m : Machine) (script : List Action) : List Cpu :=
  (m.after (upToReset script)).trailOf (sinceReset script)

/-- The states that a script draws a byte from after its latest reset. -/
def recentDraws (m : Machine) (script : List Action) : List Cpu :=
  (m.recentTrail script).filter Cpu.draws

/-- The random key since the latest reset. -/
theorem threads_recentTrail (config : Config) (script : List Action) :
    Threads (Key.root config.seed (script.count .reset)) ((start config).recentTrail script)
      ((start config).after script).cpu.random := by
  have reached := after_of_endsInReset config (endsInReset_upToReset script)
  have kept : ∀ action ∈ sinceReset script, action ≠ .reset :=
    fun _ member => ne_reset_of_mem_sinceReset member
  have threads := ((start config).after (upToReset script)).threads_after kept
  rw [← after_append, upToReset_append_sinceReset] at threads
  rw [reached, count_upToReset] at threads
  unfold recentTrail
  rw [reached, count_upToReset]
  exact threads

/-- The byte that is drawn as number `i`, from 0, since the latest reset. -/
theorem drawnByte_eq {config : Config} {script : List Action} {i : Nat} {t : Cpu}
    (nth : ((start config).recentDraws script)[i]? = some t) :
    t.drawnByte = (Key.next^[i] (Key.root config.seed (script.count .reset))).spare.byte := by
  rw [Cpu.drawnByte, (threads_recentTrail config script).iterate.2 i t nth]

/-- **The seed and the number of resets determine the random bytes.** The key that the latest reset
left is split once for every byte drawn since. The byte drawn as number `i`, from 0, is the one that
the key yields after `i` splits, and the step that draws it puts it, masked, into the register that
its word names. So machines whose seeds agree modulo 2^32 and that have been reset equally often draw
the same bytes in the same order, whatever else they are configured with and whatever is done to
them. -/
theorem draws_determined (config : Config) (script : List Action) :
    let root := Key.root config.seed (script.count .reset)
    let draws := (start config).recentDraws script
    ((start config).after script).cpu.random = Key.next^[draws.length] root ∧
    (∀ (i : Nat) (t : Cpu), draws[i]? = some t →
      let fields := Fields.ofWord t.nextWord.toNat
      t.drawnByte = (Key.next^[i] root).spare.byte ∧
      t.step.registers = t.registers.set fields.x (t.drawnByte &&& fields.nn)) ∧
    ∀ (other : Config) (history : List Action),
      other.seed % 0x100000000 = config.seed % 0x100000000 →
      history.count .reset = script.count .reset →
      ∀ (i : Nat) (t u : Cpu), draws[i]? = some t →
        ((start other).recentDraws history)[i]? = some u → u.drawnByte = t.drawnByte := by
  intro root draws
  refine ⟨(threads_recentTrail config script).iterate.1, ?_, ?_⟩
  · intro i t nth fields
    have drawing : t.draws = true := (List.mem_filter.mp (List.mem_of_getElem? nth)).2
    exact ⟨drawnByte_eq nth, (Cpu.step_of_draws drawing).1⟩
  · intro other history seed resets i t u nth other_nth
    have roots : Key.root other.seed (history.count .reset) = root := by
      rw [Key.root, Key.ofSeed_congr seed, resets]
      rfl
    rw [drawnByte_eq nth, drawnByte_eq other_nth, roots]

/-- Seeds that differ by 2^32, with other programs, budgets and modes: the third bytes agree. -/
theorem draws_determined_modulo_seed :
    let config := { Config.standard with seed := 5, budget := 4, budget_pos := by decide }
    let other := { Config.standard with
      seed := 0x100000005, strict := true, budget := 2, budget_pos := by decide }
    let script := [.load [0xC3, 0xFF], .tick, .reset,
      .load [0xC0, 0xFF, 0xC1, 0x0F, 0x12, 0x00], .tick]
    let history := [.reset, .load [0xC2, 0x0F, 0xF3, 0x0A, 0xC4, 0xAA, 0xC5, 0xFF],
      .tick, .setKey 1 true, .tick]
    ∃ t u, ((start config).recentDraws script)[2]? = some t ∧
      ((start other).recentDraws history)[2]? = some u ∧ u.drawnByte = t.drawnByte ∧
      ((start other).after history).cpu.random = Key.next^[3] (Key.root other.seed 1) := by
  intro config other script history
  have many : 2 < ((start config).recentDraws script).length := by decide +kernel
  have three : ((start other).recentDraws history).length = 3 := by decide +kernel
  have enough : 2 < ((start other).recentDraws history).length := by omega
  have third := List.getElem?_eq_getElem many
  have other_third := List.getElem?_eq_getElem enough
  obtain ⟨_, _, alike⟩ := draws_determined config script
  obtain ⟨random, _, _⟩ := draws_determined other history
  rw [three] at random
  exact ⟨_, _, third, other_third,
    alike other history (by decide) (by decide) 2 _ _ third other_third, random⟩

end Machine

end Chip8
