import Chip8.Proofs.Answer

/-!
# Transcripts

The transcript of a session is the lines that its actions print. If nothing is left out and no line
is stamped, a reader can follow the machine in it (`Session.log_tells`): there is a line when the
machine is reset, when a tick leaves it waiting, when a key ends the wait and when a tick halts it,
and no other line can be taken for one of these. So waits and resumptions take turns from one reset to
the next, and there is one halt at most.
-/

namespace Chip8

open Log (Standing)

namespace Machine

variable {m : Machine} {action : Action}

/-! ## Halts -/

/-- Whether a call is a tick that raises an error of the program. -/
def raises (call : Machine × Action) : Bool :=
  match call.2, (call.1.perform call.2).failure with
  | .tick, some (.execution _) => true
  | _, _ => false

theorem raises_iff : raises (m, action) = true ↔
    action = .tick ∧ ∃ error, (m.perform action).failure = some (.execution error) := by
  unfold raises
  cases action with
  | tick =>
    cases (m.perform .tick).failure with
    | none => simp
    | some failure => cases failure <;> simp
  | _ => simp

/-- The calls of a script, in stretches from one reset to the next. -/
def stretches (m : Machine) (script : List Action) : List (List (Machine × Action)) :=
  (m.calls script).splitOnP fun call => call.2 = .reset

theorem stretches_nil (m : Machine) : m.stretches [] = [[]] := List.splitOnP_nil

theorem stretches_cons_reset (m : Machine) (rest : List Action) :
    m.stretches (.reset :: rest) = [] :: (m.perform .reset).machine.stretches rest := by
  rw [stretches, calls, List.splitOnP_cons_eq_if_modifyHead]
  exact if_pos (decide_eq_true rfl)

/-- An action that is no reset belongs to the first stretch. -/
theorem stretches_cons (kept : action ≠ .reset) (rest : List Action) :
    ∃ first others, (m.perform action).machine.stretches rest = first :: others ∧
      m.stretches (action :: rest) = ((m, action) :: first) :: others := by
  obtain ⟨first, others, split⟩ :=
    List.exists_cons_of_ne_nil (List.splitOnP_ne_nil (fun call : Machine × Action =>
      decide (call.2 = .reset)) ((m.perform action).machine.calls rest))
  refine ⟨first, others, split, ?_⟩
  rw [stretches, calls, List.splitOnP_cons_eq_if_modifyHead, split]
  exact if_neg (mt of_decide_eq_true kept)

/-- The halts that a script adds: one for each stretch in which a tick raises an error. What the first
stretch raises for an old fault is no new halt. -/
def halts (m : Machine) (script : List Action) : Nat :=
  (if m.cpu.fault = none then m.stretches script else (m.stretches script).tail).countP
    fun stretch => stretch.any raises

theorem halts_nil (m : Machine) : m.halts [] = 0 := by
  rw [halts, stretches_nil]
  split <;> rfl

theorem halts_cons_reset (m : Machine) (rest : List Action) :
    m.halts (.reset :: rest) = (m.perform .reset).machine.halts rest := by
  have fresh : (m.perform .reset).machine.cpu.fault = none := rfl
  rw [halts, halts, stretches_cons_reset, if_pos fresh]
  split <;> rfl

/-- A stretch that starts with a halt counts, whatever the rest of it raises. -/
theorem halts_cons_of_raises (unfaulted : m.cpu.fault = none)
    (faulted : (m.perform action).machine.cpu.fault ≠ none) (counts : raises (m, action) = true)
    (rest : List Action) : m.halts (action :: rest) = (m.perform action).machine.halts rest + 1 := by
  have kept : action ≠ .reset := fun resets => by rw [resets] at faulted; exact faulted rfl
  obtain ⟨first, others, split_rest, split_all⟩ := stretches_cons (m := m) kept rest
  rw [halts, halts, split_rest, split_all, if_pos unfaulted, if_neg faulted, List.tail_cons,
    List.countP_cons_of_pos]
  rw [List.any_cons, counts, Bool.true_or]

/-- An action that neither raises an error nor changes whether there is a fault adds nothing. -/
theorem halts_cons_of_unfaulted (kept : action ≠ .reset) (unfaulted : m.cpu.fault = none)
    (still : (m.perform action).machine.cpu.fault = none) (silent : raises (m, action) = false)
    (rest : List Action) : m.halts (action :: rest) = (m.perform action).machine.halts rest := by
  obtain ⟨first, others, split_rest, split_all⟩ := stretches_cons (m := m) kept rest
  rw [halts, halts, split_rest, split_all, if_pos unfaulted, if_pos still, List.countP_cons,
    List.countP_cons, List.any_cons, silent, Bool.false_or]

/-- After a fault nothing in the first stretch counts. -/
theorem halts_cons_of_fault (kept : action ≠ .reset) (faulted : m.cpu.fault ≠ none)
    (still : (m.perform action).machine.cpu.fault ≠ none) (rest : List Action) :
    m.halts (action :: rest) = (m.perform action).machine.halts rest := by
  obtain ⟨first, others, split_rest, split_all⟩ := stretches_cons (m := m) kept rest
  rw [halts, halts, split_rest, split_all, if_neg faulted, if_neg still, List.tail_cons,
    List.tail_cons]

/-- **An action adds the halts that it reports.** -/
theorem halts_cons (h : m.cpu.WellFormed) (action : Action) (rest : List Action) :
    m.halts (action :: rest) =
      (m.perform action).machine.halts rest +
        (m.perform action).events.countP Log.Event.isHalt := by
  obtain ⟨brought, answers⟩ := exists_answers h action
  obtain ⟨one_halt, no_halt⟩ := answers.countP_isHalt
  have halts_iff : m.Makes action .halts ↔ brought = some .halts := makes_iff answers
  by_cases kept : action = .reset
  · subst kept
    exact halts_cons_reset m rest
  have unfaulted_iff := answers.unfaulted_iff kept
  by_cases unfaulted : m.cpu.fault = none
  · by_cases halts : brought = some .halts
    · obtain ⟨ticks, _, raised⟩ := halts_iff.mpr halts
      have faulted : (m.perform action).machine.cpu.fault ≠ none := fun none_left =>
        (unfaulted_iff.mp none_left).2 halts
      rw [one_halt halts]
      exact halts_cons_of_raises unfaulted faulted (raises_iff.mpr ⟨ticks, raised⟩) rest
    · have still := unfaulted_iff.mpr ⟨unfaulted, halts⟩
      have silent : raises (m, action) = false := by
        refine Bool.eq_false_iff.mpr fun counts => halts ?_
        obtain ⟨ticks, raised⟩ := raises_iff.mp counts
        exact halts_iff.mp ⟨ticks, unfaulted, raised⟩
      rw [no_halt halts]
      exact halts_cons_of_unfaulted kept unfaulted still silent rest
  · have other : brought ≠ some .halts := fun halts => unfaulted (halts_iff.mpr halts).2.1
    have still : (m.perform action).machine.cpu.fault ≠ none := fun none_left =>
      unfaulted (unfaulted_iff.mp none_left).1
    rw [no_halt other]
    exact halts_cons_of_fault kept unfaulted still rest

end Machine

/-! ## Sessions -/

namespace Session

variable {s : Session} {logger : Log.Logger}

/-- A session at its start, as `start_of_valid` has it, with any logger. -/
def opened (config : Config) (logger : Log.Logger) : Session :=
  ⟨Machine.start config,
    ((Log.Journal.ofLogger logger).recordAll [Machine.resetEvent config]).2⟩

/-- The lines that the actions of a script print. -/
def transcript (s : Session) : List Action → List String
  | [] => []
  | action :: rest => (s.perform action).2.lines ++ (s.perform action).1.transcript rest

/-- What the log tells of an action: all news that the action makes, and no other. -/
structure Chronicles (logger : Log.Logger) (s : Session) (action : Action) : Prop where
  said_iff : ∀ news, (∃ line ∈ (s.perform action).2.lines, logger.Says line news) ↔
    s.machine.Makes action news
  single : (s.perform action).2.lines.length ≤ 1
  stored : ∀ key r, s.machine.Makes action (.resumes key r) →
    (s.perform action).1.machine.cpu.registers.get r = UInt8.ofNat key.val
  counted : s.machine.Makes action .halts →
    (s.perform action).1.journal.halts = s.journal.halts + 1
  uncounted : ¬s.machine.Makes action .halts →
    (s.perform action).1.journal.halts = s.journal.halts
  refused : ∀ failure, (s.perform action).2.failure = some failure →
    (s.perform action).2.lines = [] ∨ s.machine.Makes action .halts

theorem lines_perform (same : s.journal.logger = logger) (debug : logger.level = .debug)
    (plain : logger.stamped = false) (action : Action) :
    (s.perform action).2.lines = (s.machine.perform action).events.map logger.line ∧
      (s.perform action).1.journal.logger = logger :=
  Log.Journal.recordAll_of_plain same debug plain _

theorem logger_after (same : s.journal.logger = logger) (debug : logger.level = .debug)
    (plain : logger.stamped = false) (script : List Action) :
    (s.after script).journal.logger = logger := by
  induction script generalizing s with
  | nil => exact same
  | cons action rest ih => exact ih (lines_perform same debug plain action).2

theorem halts_perform (s : Session) (action : Action) :
    (s.perform action).1.journal.halts =
      s.journal.halts + (s.machine.perform action).events.countP Log.Event.isHalt :=
  s.journal.halts_recordAll _

/-- **The log tells of every action what it does to the state that the machine runs in.** -/
theorem chronicles (h : s.machine.cpu.WellFormed) (same : s.journal.logger = logger)
    (debug : logger.level = .debug) (plain : logger.stamped = false) (action : Action) :
    s.Chronicles logger action := by
  obtain ⟨brought, answers⟩ := Machine.exists_answers h action
  obtain ⟨lines, _⟩ := lines_perform same debug plain action
  have makes_iff {news : Log.News} : s.machine.Makes action news ↔ brought = some news :=
    Machine.makes_iff answers
  refine ⟨?_, ?_, ?_, ?_, ?_, ?_⟩
  · intro news
    rw [lines, makes_iff]
    rcases answers.events_eq with ⟨none_reported, rfl⟩ | ⟨event, reported, brings⟩
    · simp [none_reported]
    · rw [reported, List.map_singleton]
      simp only [List.mem_singleton, exists_eq_left]
      exact Log.Logger.says_line_iff brings
  · rw [lines]
    rcases answers.events_eq with ⟨none_reported, _⟩ | ⟨event, reported, _⟩
    · rw [none_reported]
      exact Nat.zero_le 1
    · rw [reported]
      exact Nat.le_refl 1
  · intro key r makes
    rw [makes_iff.mp makes] at answers
    exact answers.stored
  · intro makes
    rw [halts_perform, answers.countP_isHalt.1 (makes_iff.mp makes)]
  · intro other
    rw [halts_perform, answers.countP_isHalt.2 fun halts => other (makes_iff.mpr halts), Nat.add_zero]
  · intro failure failed
    rw [lines]
    rcases answers.failure_eq failed with none_reported | halts
    · rw [none_reported]
      exact .inl rfl
    · exact .inr (makes_iff.mpr halts)

/-- The lines of an action lead a reader from what the machine is before it to what it is after it. -/
theorem reads_perform (h : s.machine.cpu.WellFormed) (same : s.journal.logger = logger)
    (debug : logger.level = .debug) (plain : logger.stamped = false) (action : Action)
    {rest : List String} {last : Standing}
    (later : logger.Reads (s.perform action).1.machine.cpu.standing rest last) :
    logger.Reads s.machine.cpu.standing ((s.perform action).2.lines ++ rest) last := by
  obtain ⟨brought, answers⟩ := Machine.exists_answers h action
  obtain ⟨still, turns⟩ := answers.standing
  rw [(lines_perform same debug plain action).1]
  rcases answers.events_eq with ⟨none_reported, rfl⟩ | ⟨event, reported, brings⟩
  · rw [none_reported, ← still rfl]
    exact later
  · rw [reported]
    cases brought with
    | none =>
      rw [← still rfl]
      refine .passed ?_ later
      intro news said
      cases (Log.Logger.says_line_iff brings).mp said
    | some news => exact .told ((Log.Logger.says_line_iff brings).mpr rfl) (turns news rfl) later

/-- **A reader of the transcript knows what state the machine runs in.** -/
theorem reads_transcript (h : s.machine.cpu.WellFormed) (same : s.journal.logger = logger)
    (debug : logger.level = .debug) (plain : logger.stamped = false) (script : List Action) :
    logger.Reads s.machine.cpu.standing (s.transcript script)
      (s.after script).machine.cpu.standing := by
  induction script generalizing s with
  | nil => exact .nil _
  | cons action rest ih =>
    have next : (s.perform action).1.machine.cpu.WellFormed := Machine.wellFormed_perform h action
    exact reads_perform h same debug plain action
      (ih next (lines_perform same debug plain action).2)

theorem halts_after (h : s.machine.cpu.WellFormed) (script : List Action) :
    (s.after script).journal.halts = s.journal.halts + s.machine.halts script := by
  induction script generalizing s with
  | nil => rw [Machine.halts_nil]; rfl
  | cons action rest ih =>
    have next : (s.perform action).1.machine.cpu.WellFormed := Machine.wellFormed_perform h action
    calc (s.after (action :: rest)).journal.halts
        = (s.perform action).1.journal.halts + (s.perform action).1.machine.halts rest := ih next
      _ = s.journal.halts + s.machine.halts (action :: rest) := by
        rw [halts_perform, Machine.halts_cons h, Nat.add_assoc, Nat.add_comm (List.countP ..)]
        rfl

/-- **The log tells the history of a machine.** Let a logger print everything and stamp nothing.
After any script, the lines of the next action say exactly what the action does to the state that the
machine runs in, a key that ends a wait is in the register that is named, the halts are counted as
they are printed, and a call that fails without a halt prints nothing. Reading all the lines so far
leads from a running machine to the state that the machine is in and to no other, so waits and
resumptions take turns after each reset, the latter with the register of the former, and at most one
halt follows it. The halts are as many as the stretches between resets in which a tick raised an
error. -/
theorem log_tells (config : Config) {logger : Log.Logger} (debug : logger.level = .debug)
    (plain : logger.stamped = false) (script : List Action) :
    let first := opened config logger
    let s := first.after script
    (∀ action, s.Chronicles logger action) ∧
    (∀ standing, logger.Reads .running (first.transcript script) standing ↔
      standing = s.machine.cpu.standing) ∧
    s.journal.halts =
      ((Machine.start config).stretches script).countP fun stretch => stretch.any Machine.raises := by
  intro first s
  have same : first.journal.logger = logger :=
    (Log.Journal.recordAll_of_plain rfl debug plain [Machine.resetEvent config]).2
  have fresh : first.machine.cpu.WellFormed := Machine.wellFormed_after config []
  refine ⟨?_, ?_, ?_⟩
  · have well : s.machine.cpu.WellFormed := by
      rw [machine_after]
      exact Machine.wellFormed_after config script
    exact chronicles well (logger_after same debug plain script) debug plain
  · have reads := reads_transcript fresh same debug plain script
    intro standing
    constructor
    · intro also
      exact also.unique reads
    · rintro rfl
      exact reads
  · exact (halts_after fresh script).trans (Nat.zero_add _)

/-- A wait, its end, a halt that two ticks raise, and after a reset another halt. -/
theorem log_tells_two_halts :
    let logger : Log.Logger := ⟨"chip8vm", .debug, false, false, 0, .still⟩
    let script : List Action :=
      [.load [0xF3, 0x0A, 0x00, 0xEE], .tick, .setKey 7 true, .tick, .tick, .reset,
        .load [0x00, 0xEE], .tick]
    logger.level = .debug ∧ logger.stamped = false ∧
      ((opened .standard logger).after script).journal.halts = 2 ∧
      logger.Reads .running ((opened .standard logger).transcript script) .halted := by
  intro logger script
  obtain ⟨_, reads, halts⟩ := @log_tells .standard logger rfl rfl script
  have two : ((Machine.start .standard).stretches script).countP
      (fun stretch => stretch.any Machine.raises) = 2 := by
    decide +kernel
  have halted : ((opened .standard logger).after script).machine.cpu.standing = .halted := by
    decide +kernel
  rw [two] at halts
  exact ⟨rfl, rfl, halts, (reads .halted).mpr halted.symm⟩

/-- A tick whose budget is refused fails on a machine without a fault, and the log does not tell. -/
theorem log_silent_on_wide_budget :
    let logger : Log.Logger := ⟨"chip8vm", .debug, false, false, 0, .still⟩
    let s := opened { Config.standard with budget := 0x80000000, budget_pos := by decide } logger
    s.machine.cpu.fault = none ∧
      (s.perform .tick).2.failure = some (.budgetTooWide 0x80000000) ∧
      (s.perform .tick).2.lines = [] ∧ (s.perform .tick).1.journal.halts = s.journal.halts := by
  decide +kernel

end Session

end Chip8
