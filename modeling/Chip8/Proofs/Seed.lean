import Chip8.Proofs.Effect
import Chip8.Proofs.Script

/-!
# The seed

The seed of a machine shows in a run only where a random byte is drawn under a mask that is not zero
(`Session.seed_invisible`). A draw is the one thing that looks at the random key, and under the mask
zero it puts zero into its register whatever the key is. So a processor that is given another key
(`Cpu.rekeyed`) goes the same way up to its key, and a session whose machine is given another seed
(`Session.reseeded`) answers every action alike.
-/

namespace Chip8

namespace Cpu

variable {s : Cpu}

/-- The same processor with another random key. -/
def rekeyed (s : Cpu) (key : Random.Key) : Cpu := { s with random := key }

/-- The next step draws a random byte and keeps some of its bits. -/
def ShowsKey (s : Cpu) : Prop := ∃ x nn, s.nextInstruction? = some (.random x nn) ∧ nn ≠ 0

/-! ## Instructions -/

theorem holds_rekeyed (c : Condition) (key : Random.Key) : c.holds (s.rekeyed key) = c.holds s :=
  c.holds_congr rfl rfl

theorem fault?_rekeyed (w : Int) (key : Random.Key) : (s.rekeyed key).fault? w = s.fault? w :=
  fault?_congr rfl rfl rfl w

/-- An effect with another key is the same effect but for the key, if no random bit is kept. -/
theorem effect_rekeyed (bus : UInt8) {i : Instruction} (masked : ∀ x nn, i = .random x nn → nn = 0)
    (key : Random.Key) : ∃ next, i.effect bus (s.rekeyed key) = (i.effect bus s).rekeyed next := by
  cases i with
  | random x nn =>
    refine ⟨key.next, ?_⟩
    simp only [masked x nn rfl, Instruction.effect, setRegister, rekeyed, UInt8.and_zero]
  | skipIf c =>
    refine ⟨key, ?_⟩
    simp only [Instruction.effect, holds_rekeyed]
    split <;> rfl
  | _ => exact ⟨key, rfl⟩

/-! ## Steps, ticks and input -/

/-- **A step with another key is the same step but for the key**, unless it lets a random bit
through. -/
theorem step_rekeyed (hidden : ¬s.ShowsKey) (key : Random.Key) :
    ∃ next, (s.rekeyed key).step = s.step.rekeyed next := by
  apply step_related (R := fun u v => ∃ next, v = u.rekeyed next) (t := s.rekeyed key)
  case same_pc => rfl
  case same_word => rfl
  case same_fault => exact fault?_rekeyed (s := s.fetch.2) _ key
  case outOfRange => exact ⟨key, rfl⟩
  case halted => exact fun _ => ⟨key, rfl⟩
  case ignored => exact ⟨key, rfl⟩
  case performed =>
    intro i selected
    refine effect_rekeyed (s := s.fetch.2) _ ?_ key
    rintro x nn rfl
    by_contra shown
    exact hidden ⟨x, nn, selected, shown⟩

theorem tick_rekeyed (budget : Nat) (hidden : ∀ u ∈ s.tickTrail budget, ¬u.ShowsKey)
    (key : Random.Key) :
    ∃ next, (s.rekeyed key).tick budget = (s.tick budget).rekeyed next := by
  refine tick_related (R := fun u v => ∃ next, v = u.rekeyed next) (P := fun u => ¬u.ShowsKey)
    ?ready ?same_fault ?clear ?count ?carry budget ⟨key, rfl⟩ hidden
  case ready => rintro u _ ⟨next, rfl⟩; rfl
  case same_fault => rintro u _ ⟨next, rfl⟩; rfl
  case clear => rintro u _ ⟨next, rfl⟩; exact ⟨next, rfl⟩
  case count => rintro u _ ⟨next, rfl⟩; exact ⟨next, rfl⟩
  case carry => rintro u _ ⟨next, rfl⟩ hidden_now; exact step_rekeyed hidden_now next

theorem load_rekeyed (program : List Int) (key : Random.Key) :
    (s.rekeyed key).load program = (s.load program).map fun t => t.rekeyed key :=
  load_map (f := fun t => t.rekeyed key) (fun _ => rfl) program

theorem keyEvent_rekeyed (pressed : Key) (isDown : Bool) (key : Random.Key) :
    (s.rekeyed key).keyEvent pressed isDown = (s.keyEvent pressed isDown).rekeyed key := by
  have same : (s.rekeyed key).waiting = s.waiting := rfl
  unfold keyEvent
  rw [same]
  dsimp only
  split <;> rfl

end Cpu

/-! ## Machines -/

namespace Machine

/-- The same machine with another seed, and with other keys to be split by the next reset and by the
next draw. -/
def reseeded (m : Machine) (seed : Int) (seedKey random : Random.Key) : Machine :=
  ⟨{ m.config with seed := seed }, seedKey, m.cpu.rekeyed random⟩

end Machine

/-- An outcome that is the same but for the seed of the machine. -/
def Outcome.reseeded (outcome : Outcome) (seed : Int) (seedKey random : Random.Key) : Outcome :=
  { outcome with machine := outcome.machine.reseeded seed seedKey random }

namespace Machine

theorem settle_reseeded (m : Machine) (seed : Int) (seedKey random next : Random.Key) (cpu : Cpu) :
    (m.reseeded seed seedKey random).settle (cpu.rekeyed next) =
      (m.settle cpu).reseeded seed seedKey next := by
  have same_error : (cpu.rekeyed next).error? = cpu.error? := rfl
  unfold settle
  rw [same_error]
  dsimp only
  split <;> rfl

/-- **An action of a machine with another seed has the same outcome but for the seed and the keys**,
unless a step of it lets a random bit through. -/
theorem perform_reseeded (m : Machine) (seed : Int) (seedKey random : Random.Key) {action : Action}
    (hidden : ∀ t ∈ m.trail action, ¬t.ShowsKey) :
    ∃ nextSeedKey next, (m.reseeded seed seedKey random).perform action =
      (m.perform action).reseeded seed nextSeedKey next := by
  have same_cpu : (m.reseeded seed seedKey random).cpu = m.cpu.rekeyed random := rfl
  cases action with
  | load program =>
    refine ⟨seedKey, random, ?_⟩
    simp only [perform, load, same_cpu, Cpu.load_rekeyed]
    cases m.cpu.load program <;> rfl
  | tick =>
    have same_waiting : (m.reseeded seed seedKey random).cpu.waiting = m.cpu.waiting := rfl
    have same_budget : (m.reseeded seed seedKey random).config.budget = m.config.budget := rfl
    simp only [perform, tick_eq, same_waiting, same_budget]
    split_ifs with waiting narrow
    · exact ⟨seedKey, random, rfl⟩
    · rw [trail, if_pos narrow] at hidden
      obtain ⟨next, ticked⟩ := Cpu.tick_rekeyed m.config.budget hidden random
      refine ⟨seedKey, next, ?_⟩
      rw [same_cpu, ticked]
      exact m.settle_reseeded ..
    · exact ⟨seedKey, random, rfl⟩
  | setKey number isDown =>
    refine ⟨seedKey, random, ?_⟩
    simp only [perform, setKey, Cpu.setKey, same_cpu]
    cases Key.ofInt? number with
    | none => rfl
    | some pressed =>
      simp only [Cpu.keyEvent_rekeyed]
      rfl
  | reset => exact ⟨seedKey.next, seedKey.spare, rfl⟩
  | setPc address =>
    refine ⟨seedKey, random, ?_⟩
    simp only [perform, setPc]
    cases narrow? address <;> rfl

end Machine

/-! ## Sessions -/

/-- Settings with another seed pass the same checks. -/
theorem Settings.validate_reseeded (settings : Settings) (seed : Int) :
    { settings with seed := seed }.validate =
      settings.validate.map fun config => { config with seed := seed } := by
  unfold validate
  dsimp only
  split_ifs <;> rfl

theorem Settings.seed_of_validate {settings : Settings} {config : Config}
    (valid : settings.validate = .ok config) : config.seed = settings.seed := by
  unfold validate at valid
  split_ifs at valid
  cases valid
  rfl

namespace Session

/-- The same session with another seed. -/
def reseeded (s : Session) (seed : Int) (seedKey random : Random.Key) : Session :=
  { s with machine := s.machine.reseeded seed seedKey random }

/-- What the actions of a script show. -/
def replies (s : Session) : List Action → List Reply
  | [] => []
  | action :: rest => (s.perform action).2 :: (s.perform action).1.replies rest

/-- The seed decides neither whether a session starts nor what it shows at the start. -/
theorem start_reseeded (settings : Settings) (seed : Int) (stamped : Bool) (clock : Log.Clock)
    (accepted : Random.isSeed settings.seed = true) (other_accepted : Random.isSeed seed = true) :
    (∃ error, start settings stamped clock = .error error ∧
      start { settings with seed := seed } stamped clock = .error error) ∨
    ∃ s lines seedKey random, start settings stamped clock = .ok (s, lines) ∧
      start { settings with seed := seed } stamped clock =
        .ok (s.reseeded seed seedKey random, lines) := by
  have other_valid := settings.validate_reseeded seed
  cases labelled :
      Log.Logger.create { level := settings.logLevel, stamped := stamped } false clock with
  | error error =>
    refine .inl ⟨error, ?_, ?_⟩
    · rw [start, labelled]; rfl
    · rw [start, labelled]; rfl
  | ok logger =>
    cases valid : settings.validate with
    | error error =>
      rw [valid] at other_valid
      refine .inl ⟨error, ?_, ?_⟩
      · rw [start, labelled, valid]; rfl
      · rw [start, labelled, other_valid]; rfl
    | ok config =>
      rw [valid] at other_valid
      rw [← Settings.seed_of_validate valid] at accepted
      exact .inr ⟨_, _, (Random.Key.ofSeed seed).next, (Random.Key.ofSeed seed).spare,
        start_of_valid labelled valid accepted, start_of_valid labelled other_valid other_accepted⟩

theorem perform_reseeded (s : Session) (seed : Int) (seedKey random : Random.Key) {action : Action}
    (hidden : ∀ t ∈ s.machine.trail action, ¬t.ShowsKey) :
    ∃ nextSeedKey next, (s.reseeded seed seedKey random).perform action =
      ((s.perform action).1.reseeded seed nextSeedKey next, (s.perform action).2) := by
  obtain ⟨nextSeedKey, next, same⟩ := s.machine.perform_reseeded seed seedKey random hidden
  refine ⟨nextSeedKey, next, ?_⟩
  unfold perform reseeded
  rw [same]
  rfl

theorem after_reseeded (s : Session) (seed : Int) (seedKey random : Random.Key) {script : List Action}
    (hidden : ∀ t ∈ s.machine.trailOf script, ¬t.ShowsKey) :
    ∃ lastSeedKey last,
      (s.reseeded seed seedKey random).after script =
        (s.after script).reseeded seed lastSeedKey last ∧
      (s.reseeded seed seedKey random).replies script = s.replies script := by
  induction script generalizing s seedKey random with
  | nil => exact ⟨seedKey, random, rfl, rfl⟩
  | cons action rest ih =>
    obtain ⟨hidden_now, hidden_later⟩ := List.forall_mem_append.mp hidden
    obtain ⟨nextSeedKey, next, same⟩ := s.perform_reseeded seed seedKey random hidden_now
    obtain ⟨lastSeedKey, last, same_end, same_replies⟩ :=
      ih (s.perform action).1 nextSeedKey next hidden_later
    refine ⟨lastSeedKey, last, ?_, ?_⟩
    · rw [after, List.foldl_cons, same]
      exact same_end
    · rw [replies, replies, same]
      exact congrArg _ same_replies

/-- **The seed shows in a run only through the random bytes of which a bit is kept.** Two sessions
that are started with settings that differ only in an accepted seed fail to start with the same
error, or both start and print the same lines. And in a script in which the first one never draws a
random byte under a mask other than zero, after every action the two processors are equal but for the
random key, and the actions print the same lines and fail alike. -/
theorem seed_invisible (settings : Settings) (seed : Int) (stamped : Bool) (clock : Log.Clock)
    (accepted : Random.isSeed settings.seed = true) (other_accepted : Random.isSeed seed = true) :
    (∃ error, start settings stamped clock = .error error ∧
      start { settings with seed := seed } stamped clock = .error error) ∨
    ∃ one two lines, start settings stamped clock = .ok (one, lines) ∧
      start { settings with seed := seed } stamped clock = .ok (two, lines) ∧
      ∀ script : List Action,
        (∀ t ∈ one.machine.trailOf script,
          ∀ x nn, t.nextInstruction? = some (.random x nn) → nn = 0) →
        (∀ past, past <+: script →
          (two.after past).machine.cpu =
            { (one.after past).machine.cpu with
              random := (two.after past).machine.cpu.random }) ∧
        two.replies script = one.replies script := by
  rcases start_reseeded settings seed stamped clock accepted other_accepted with
    refused | ⟨s, lines, seedKey, random, started, other_started⟩
  · exact .inl refused
  · refine .inr ⟨s, s.reseeded seed seedKey random, lines, started, other_started, ?_⟩
    intro script masked
    have hidden : ∀ t ∈ s.machine.trailOf script, ¬t.ShowsKey := by
      rintro t member ⟨x, nn, selected, shown⟩
      exact shown (masked t member x nn selected)
    constructor
    · rintro past ⟨rest, rfl⟩
      rw [Machine.trailOf_append, List.forall_mem_append] at hidden
      obtain ⟨_, _, same, _⟩ := s.after_reseeded seed seedKey random hidden.1
      rw [same]
      rfl
    · obtain ⟨_, _, _, same⟩ := s.after_reseeded seed seedKey random hidden
      exact same

/-- A draw under the mask zero, a wait, a key that ends it, an undefined word and a reset, from the
lowest seed and from the highest: the keys differ in the end. -/
theorem seed_invisible_under_zero_mask :
    let settings : Settings :=
      { seed := -0x8000000000000000, strict := true, logLevel := "DEBUG" }
    let seed := 0x7FFFFFFFFFFFFFFF
    let script := [.load [0xC5, 0x00, 0xF3, 0x0A, 0x00, 0x00], .tick, .setKey 7 true, .tick, .reset]
    Random.isSeed settings.seed = true ∧ Random.isSeed seed = true ∧
    ∃ one two lines, start settings false .still = .ok (one, lines) ∧
      start { settings with seed := seed } false .still = .ok (two, lines) ∧
      (∀ t ∈ one.machine.trailOf script,
        ∀ x nn, t.nextInstruction? = some (.random x nn) → nn = 0) ∧
      (one.after script).machine.cpu.random ≠ (two.after script).machine.cpu.random ∧
      two.replies script = one.replies script := by
  intro settings seed script
  have accepted : Random.isSeed settings.seed = true := by decide
  have other_accepted : Random.isSeed seed = true := by decide
  let config := { Config.standard with seed := settings.seed, strict := true, logLevel := "DEBUG" }
  let other := { Config.standard with seed := seed, strict := true, logLevel := "DEBUG" }
  have labelled : Log.Logger.create { level := "DEBUG", stamped := false } false .still =
      .ok ⟨"chip8vm", .debug, false, false, 0, .still⟩ := by rfl
  have valid : settings.validate = .ok config := rfl
  have other_valid : { settings with seed := seed }.validate = .ok other := rfl
  have started := start_of_valid labelled valid accepted
  have other_started := start_of_valid labelled other_valid other_accepted
  rcases seed_invisible settings seed false .still accepted other_accepted with
    ⟨_, refused, _⟩ | ⟨one, two, lines, one_started, two_started, alike⟩
  · cases started.symm.trans refused
  · have one_machine : one.machine = Machine.start config := by
      injection one_started.symm.trans started with same
      injection same with same
      rw [same]
    have two_machine : two.machine = Machine.start other := by
      injection two_started.symm.trans other_started with same
      injection same with same
      rw [same]
    have come_to : ∀ t ∈ (Machine.start config).trailOf script,
        t.nextInstruction? ∈ [some (.random 5 0), some (.awaitKey 3), none] := by
      decide +kernel
    have masked : ∀ t ∈ one.machine.trailOf script,
        ∀ x nn, t.nextInstruction? = some (.random x nn) → nn = 0 := by
      intro t member x nn selected
      have listed := come_to t (one_machine ▸ member)
      rw [selected] at listed
      simp only [List.mem_cons, List.not_mem_nil, Option.some.injEq, Instruction.random.injEq,
        reduceCtorEq, or_false] at listed
      exact listed.2
    refine ⟨accepted, other_accepted, one, two, lines, one_started, two_started, masked, ?_,
      (alike script masked).2⟩
    rw [machine_after, machine_after, one_machine, two_machine]
    decide +kernel

end Session

end Chip8
