import Chip8.Proofs.Transcript

/-!
# Verbosity

A log level decides which lines are printed and nothing else (`Session.level_only_filters`). Of two
loggers that differ in their level and in the time at which they were made, and that stamp nothing,
the less verbose one prints the lines of the other one that are severe enough
(`Log.Logger.Narrows`). Under two such loggers a machine runs in the same way, whatever level its
configuration names.
-/

namespace Chip8

namespace Log

/-! ## Labels -/

namespace Level

variable {text : String} {level : Level}

/-- A text is the label of a level in some letter case. -/
def Names (text : String) (level : Level) : Prop :=
  text.toList.map upperChar = level.label.toList

instance (text : String) (level : Level) : Decidable (Names text level) :=
  inferInstanceAs (Decidable (_ = _))

/-- How a label ranks: as the level that it names, and as information if it names none. -/
inductive Ranks (text : String) : Level → Prop
  | named {level : Level} (names : Names text level) : Ranks text level
  | unknown (nameless : ∀ level, ¬Names text level) : Ranks text .info

theorem ofLabel?_eq_some_iff : ofLabel? text = some level ↔ Names text level := by
  have same_label : ∀ level, sameLabel text level.label = true ↔ Names text level :=
    fun level => beq_iff_eq
  constructor
  · intro found
    have same := List.find?_some found
    exact (same_label level).mp same
  · intro names
    -- A label in some letter case is looked up as the label itself.
    have label_upper : level.label.toList.map upperChar = level.label.toList := by
      cases level <;> decide +kernel
    have as_label : sameLabel text = sameLabel level.label := by
      funext upper
      rw [sameLabel, sameLabel, names, label_upper]
    rw [ofLabel?, as_label]
    exact ofLabel?_label level

theorem ofLabel_eq_iff : ofLabel text = level ↔ Ranks text level := by
  rw [ofLabel]
  constructor
  · rintro rfl
    cases named : ofLabel? text with
    | none =>
      refine .unknown fun level names => ?_
      rw [ofLabel?_eq_some_iff.mpr names] at named
      cases named
    | some level => exact .named (ofLabel?_eq_some_iff.mp named)
  · rintro (names | nameless)
    · rw [ofLabel?_eq_some_iff.mpr names, Option.getD_some]
    · rw [Option.eq_none_iff_forall_ne_some.mpr fun level named =>
        nameless level (ofLabel?_eq_some_iff.mp named), Option.getD_none]

end Level

/-! ## Loggers -/

/-- A call of a logger's method: one that is named after a level, or the one that takes a label. -/
inductive Call where
  | say (level : Level) (message : String)
  | log (label message : String)
deriving DecidableEq

namespace Call

def label : Call → String
  | say level _ => level.label
  | log label _ => label

def message : Call → String
  | say _ message => message
  | log _ message => message

/-- How severe a call is. -/
def severity (call : Call) : Level := Level.ofLabel call.label

end Call

namespace Logger

variable {wide narrow logger : Logger} {least : Level}

/-- The calls that are printed, each with its line. -/
def printed (logger : Logger) : List Call → List (Call × String)
  | [] => []
  | call :: rest =>
    let (line, next) := logger.log call.label call.message
    (line.toList.map fun line => (call, line)) ++ next.printed rest

/-- The level of an unstamped line, if it is the line of a level. -/
def severity? (logger : Logger) (line : String) : Option Level :=
  Level.all.find? fun level => (logger.body level.label "").toList.isPrefixOf line.toList

/-- Whether an unstamped line is at least as severe as a level. -/
def severe (logger : Logger) (least : Level) (line : String) : Bool :=
  (logger.severity? line).any fun level => decide (least.rank ≤ level.rank)

/-- One logger differs from another one in its level, `least`, which is the more severe one, and in
its clock. Neither stamps its lines. -/
structure Narrows (least : Level) (wide narrow : Logger) : Prop where
  level : narrow.level = least
  le : wide.level.rank ≤ least.rank
  name : narrow.name = wide.name
  colored : narrow.colored = wide.colored
  plain : wide.stamped = false
  narrow_plain : narrow.stamped = false

theorem body_eq_append (logger : Logger) (label message : String) :
    logger.body label message = logger.body label "" ++ message := by
  simp only [body, String.append_assoc, String.empty_append]

/-- A line tells its level. -/
theorem severity?_body (logger : Logger) (level : Level) (message : String) :
    logger.severity? (logger.body level.label message) = some level := by
  have begins_iff : ∀ other : Level, (logger.body other.label "").toList.isPrefixOf
      (logger.body level.label message).toList = true ↔ other = level := by
    intro other
    rw [List.isPrefixOf_iff_prefix]
    constructor
    · rintro ⟨rest, same⟩
      have same_line : logger.body other.label (String.ofList rest) =
          logger.body level.label message := by
        apply String.toList_inj.mp
        rw [body_eq_append, String.toList_append, String.toList_ofList, same]
      exact (body_inj same_line).1
    · rintro rfl
      rw [logger.body_eq_append other.label message, String.toList_append]
      exact List.prefix_append ..
  have found : (logger.severity? (logger.body level.label message)).isSome = true :=
    List.find?_isSome.mpr ⟨level, level.mem_all, (begins_iff level).mpr rfl⟩
  obtain ⟨other, is_other⟩ := Option.isSome_iff_exists.mp found
  have begins := List.find?_some is_other
  rw [is_other, (begins_iff other).mp begins]

theorem severe_line (logger : Logger) (least : Level) (event : Event) :
    logger.severe least (logger.line event) = decide (least.rank ≤ event.severity.rank) := by
  rw [severe, line, severity?_body, Option.any_some]

namespace Narrows

theorem body_eq (h : Narrows least wide narrow) (label message : String) :
    narrow.body label message = wide.body label message := by
  rw [body, body, paint, paint, h.name, h.colored]

theorem line_eq (h : Narrows least wide narrow) (event : Event) :
    narrow.line event = wide.line event :=
  h.body_eq ..

/-- **Of what one logger shows, the less verbose one shows what is severe enough.** -/
theorem filter_shows {α : Type} (h : Narrows least wide narrow) (severity : α → Level)
    (items : List α) :
    (items.filter fun item => narrow.shows (severity item)) =
      (items.filter fun item => wide.shows (severity item)).filter fun item =>
        decide (least.rank ≤ (severity item).rank) := by
  rw [List.filter_filter]
  refine List.filter_congr fun item _ => ?_
  have ordered := h.le
  rw [shows, shows, h.level, ← Bool.decide_and, decide_eq_decide]
  omega

/-- The law of events. -/
theorem filter_lines (h : Narrows least wide narrow) (events : List Event) :
    (events.filter fun event => narrow.shows event.severity).map narrow.line =
      ((events.filter fun event => wide.shows event.severity).map wide.line).filter
        (wide.severe least) := by
  have same_lines : narrow.line = wide.line := funext h.line_eq
  have severe_lines : wide.severe least ∘ wide.line =
      fun event : Event => decide (least.rank ≤ event.severity.rank) :=
    funext fun event => wide.severe_line least event
  rw [List.filter_map, severe_lines, h.filter_shows Event.severity, same_lines]

end Narrows

/-- A logger without stamps prints the calls that are severe enough. -/
theorem printed_of_unstamped (plain : logger.stamped = false) (calls : List Call) :
    logger.printed calls =
      (calls.filter fun call => logger.shows call.severity).map fun call =>
        (call, logger.body call.label call.message) := by
  induction calls with
  | nil => rfl
  | cons call rest ih =>
    have severity_eq : Level.ofLabel call.label = call.severity := rfl
    rw [printed, log_of_unstamped plain]
    dsimp only
    rw [ih, List.filter_cons, severity_eq]
    split <;> rfl

/-- A logger without stamps prints one line for each call that is severe enough, in order. -/
theorem map_fst_printed (plain : logger.stamped = false) (calls : List Call) :
    (logger.printed calls).map Prod.fst =
      calls.filter fun call => decide (logger.level.rank ≤ call.severity.rank) := by
  rw [printed_of_unstamped plain, List.map_map]
  exact List.map_id _

/-- The law of calls. -/
theorem Narrows.printed_eq (h : Narrows least wide narrow) (calls : List Call) :
    narrow.printed calls =
      (wide.printed calls).filter fun entry => decide (least.rank ≤ entry.1.severity.rank) := by
  have same_entries : (fun call : Call => (call, narrow.body call.label call.message)) =
      fun call => (call, wide.body call.label call.message) :=
    funext fun call => by rw [h.body_eq]
  rw [printed_of_unstamped h.narrow_plain, printed_of_unstamped h.plain, List.filter_map,
    h.filter_shows Call.severity, same_entries]
  rfl

/-- How a logger is made at a level that is named in any letter case. -/
theorem create_of_names {settings : LoggerSettings} {level : Level}
    (names : Level.Names settings.level level) (terminal : Bool) (clock : Clock) :
    create settings terminal clock =
      .ok ⟨settings.name, level, settings.colored && terminal, settings.stamped, clock.read.1,
        clock.read.2⟩ := by
  rw [create, Level.ofLabel?_eq_some_iff.mpr names]

end Logger

end Log

/-! ## Machines -/

namespace Machine

/-- The same machine with another log level in its configuration. -/
def relabelled (m : Machine) (text : String) : Machine :=
  { m with config := { m.config with logLevel := text } }

end Machine

/-- An outcome that is the same but for the log level of the machine. -/
def Outcome.relabelled (outcome : Outcome) (text : String) : Outcome :=
  { outcome with machine := outcome.machine.relabelled text }

namespace Machine

theorem settle_relabelled (m : Machine) (text : String) (cpu : Cpu) :
    (m.relabelled text).settle cpu = (m.settle cpu).relabelled text := by
  unfold settle
  dsimp only
  split <;> rfl

/-- **No action looks at the log level.** -/
theorem perform_relabelled (m : Machine) (text : String) (action : Action) :
    (m.relabelled text).perform action = (m.perform action).relabelled text := by
  have same_cpu : (m.relabelled text).cpu = m.cpu := rfl
  cases action with
  | load program =>
    simp only [perform, load, same_cpu]
    cases m.cpu.load program <;> rfl
  | tick =>
    have same_budget : (m.relabelled text).config.budget = m.config.budget := rfl
    simp only [perform, tick, same_cpu, same_budget]
    split
    · rfl
    · cases m.cpu.checkedTick m.config.budget with
      | error failure => rfl
      | ok cpu => exact m.settle_relabelled text cpu
  | setKey number isDown =>
    simp only [perform, setKey, same_cpu]
    cases m.cpu.setKey number isDown <;> rfl
  | reset => rfl
  | setPc address =>
    simp only [perform, setPc]
    cases narrow? address <;> rfl

end Machine

/-! ## Sessions -/

namespace Session

variable {least : Log.Level} {wide narrow : Session} {text : String}

/-- Two sessions have the same machine but for the log level that its configuration names, and the
same count of halts, and the logger of the second one is the less verbose one. -/
structure Narrows (least : Log.Level) (text : String) (wide narrow : Session) : Prop where
  machine : narrow.machine = wide.machine.relabelled text
  halts : narrow.journal.halts = wide.journal.halts
  logger : wide.journal.logger.Narrows least narrow.journal.logger

/-- A session keeps its logger if this stamps nothing. -/
theorem logger_perform (plain : wide.journal.logger.stamped = false) (action : Action) :
    (wide.perform action).1.journal.logger = wide.journal.logger :=
  (Log.Journal.recordAll_of_unstamped rfl plain _).2

theorem lines_perform_eq_filter (plain : wide.journal.logger.stamped = false) (action : Action) :
    (wide.perform action).2.lines =
      ((wide.machine.perform action).events.filter fun event =>
        wide.journal.logger.shows event.severity).map wide.journal.logger.line :=
  (Log.Journal.recordAll_of_unstamped rfl plain _).1

namespace Narrows

theorem perform_machine (h : Narrows least text wide narrow) (action : Action) :
    narrow.machine.perform action = (wide.machine.perform action).relabelled text := by
  rw [h.machine, Machine.perform_relabelled]

theorem events_eq (h : Narrows least text wide narrow) (action : Action) :
    (narrow.machine.perform action).events = (wide.machine.perform action).events := by
  rw [h.perform_machine]
  rfl

/-- **An action leaves the two sessions in the same relation.** -/
theorem perform (h : Narrows least text wide narrow) (action : Action) :
    Narrows least text (wide.perform action).1 (narrow.perform action).1 where
  machine := congrArg Outcome.machine (h.perform_machine action)
  halts := by rw [halts_perform, halts_perform, h.halts, h.events_eq]
  logger := by
    rw [logger_perform h.logger.plain, logger_perform h.logger.narrow_plain]
    exact h.logger

theorem after (h : Narrows least text wide narrow) (script : List Action) :
    Narrows least text (wide.after script) (narrow.after script) := by
  induction script generalizing wide narrow with
  | nil => exact h
  | cons action rest ih => exact ih (h.perform action)

/-- **An action fails alike in the two sessions, and the second one prints the lines that are severe
enough.** -/
theorem reply_eq (h : Narrows least text wide narrow) (action : Action) :
    (narrow.perform action).2 =
      ⟨(wide.perform action).2.lines.filter (wide.journal.logger.severe least),
        (wide.perform action).2.failure⟩ := by
  have same_lines : (narrow.perform action).2.lines =
      (wide.perform action).2.lines.filter (wide.journal.logger.severe least) := by
    rw [lines_perform_eq_filter h.logger.narrow_plain, lines_perform_eq_filter h.logger.plain,
      h.events_eq]
    exact h.logger.filter_lines _
  have same_failure : (narrow.machine.perform action).failure =
      (wide.machine.perform action).failure := by
    rw [h.perform_machine]
    rfl
  exact congrArg₂ Reply.mk same_lines same_failure

end Narrows

/-- One session runs as another one does, whatever is done to the two, and of the lines that the other
one prints it prints those that are severe enough. -/
def Mutes (least : Log.Level) (loud quiet : Session) : Prop :=
  ∀ (script : List Action) (action : Action),
    let s := loud.after script
    let t := quiet.after script
    t.machine.cpu = s.machine.cpu ∧ t.machine.seedKey = s.machine.seedKey ∧
    t.journal.halts = s.journal.halts ∧
    (t.perform action).2 =
      ⟨(s.perform action).2.lines.filter (s.journal.logger.severe least),
        (s.perform action).2.failure⟩

theorem Narrows.mutes (h : Narrows least text wide narrow) : Mutes least wide narrow := by
  intro script action s t
  have related : Narrows least text s t := h.after script
  refine ⟨?_, ?_, related.halts, related.reply_eq action⟩
  · rw [related.machine]
    rfl
  · rw [related.machine]
    rfl

/-- The lines that are printed when a session starts. -/
def openingLines (config : Config) (logger : Log.Logger) : List String :=
  ((Log.Journal.ofLogger logger).recordAll [Machine.resetEvent config]).1

theorem start_eq_opened {settings : Settings} {stamped : Bool} {clock : Log.Clock}
    {logger : Log.Logger} {config : Config}
    (labelled : Log.Logger.create { level := settings.logLevel, stamped := stamped } false clock =
      .ok logger)
    (valid : settings.validate = .ok config) (accepted : Random.isSeed config.seed = true) :
    start settings stamped clock = .ok (opened config logger, openingLines config logger) :=
  start_of_valid labelled valid accepted

variable {one two : Log.Logger}

theorem logger_opened (plain : one.stamped = false) (config : Config) :
    (opened config one).journal.logger = one :=
  (Log.Journal.recordAll_of_unstamped rfl plain _).2

theorem openingLines_narrow (h : one.Narrows least two) (config : Config) (text other : String) :
    openingLines { config with logLevel := other } two =
      (openingLines { config with logLevel := text } one).filter (one.severe least) := by
  rw [openingLines, openingLines, (Log.Journal.recordAll_of_unstamped rfl h.narrow_plain _).1,
    (Log.Journal.recordAll_of_unstamped rfl h.plain _).1]
  exact h.filter_lines _

theorem mutes_opened (h : one.Narrows least two) (config : Config) (text other : String) :
    Mutes least (opened { config with logLevel := text } one)
      (opened { config with logLevel := other } two) := by
  have related : Narrows least other (opened { config with logLevel := text } one)
      (opened { config with logLevel := other } two) := by
    refine ⟨rfl, rfl, ?_⟩
    rw [logger_opened h.plain, logger_opened h.narrow_plain]
    exact h
  exact related.mutes

end Session

/-- Settings with another log level pass the same checks. -/
theorem Settings.validate_relabelled (settings : Settings) (text : String) :
    { settings with logLevel := text }.validate =
      settings.validate.map fun config => { config with logLevel := text } := by
  unfold validate
  dsimp only
  split_ifs <;> rfl

namespace Session

variable {text other : String} {low high : Log.Level}

/-- The loggers that are made at two levels. -/
theorem create_narrows (ordered : low.rank ≤ high.rank) (low_named : Log.Level.Names text low)
    (high_named : Log.Level.Names other high) (settings : Log.LoggerSettings) (terminal : Bool)
    (clock later : Log.Clock) (plain : settings.stamped = false) :
    ∃ one two : Log.Logger,
      Log.Logger.create { settings with level := text } terminal clock = .ok one ∧
      Log.Logger.create { settings with level := other } terminal later = .ok two ∧
      one.level = low ∧ one.Narrows high two := by
  refine ⟨_, _, Log.Logger.create_of_names low_named terminal clock,
    Log.Logger.create_of_names high_named terminal later, rfl, ?_⟩
  exact ⟨rfl, ordered, rfl, rfl, plain, plain⟩

/-- The level decides neither whether a session starts nor what it does then. -/
theorem start_narrows (ordered : low.rank ≤ high.rank) (low_named : Log.Level.Names text low)
    (high_named : Log.Level.Names other high) (settings : Settings) (clock later : Log.Clock) :
    (∃ error, start { settings with logLevel := text } false clock = .error error ∧
      start { settings with logLevel := other } false later = .error error) ∨
    ∃ s t lines, start { settings with logLevel := text } false clock = .ok (s, lines) ∧
      start { settings with logLevel := other } false later =
        .ok (t, lines.filter (s.journal.logger.severe high)) ∧
      Mutes high s t := by
  obtain ⟨one, two, one_made, two_made, _, narrows⟩ :=
    create_narrows ordered low_named high_named { stamped := false } false clock later rfl
  cases valid : settings.validate with
  | error error =>
    have refused : ∀ text, { settings with logLevel := text }.validate = .error error := by
      intro text
      rw [settings.validate_relabelled, valid]
      rfl
    refine .inl ⟨error, ?_, ?_⟩
    · rw [start, one_made, refused]; rfl
    · rw [start, two_made, refused]; rfl
  | ok config =>
    have passed : ∀ text, { settings with logLevel := text }.validate =
        .ok { config with logLevel := text } := by
      intro text
      rw [settings.validate_relabelled, valid]
      rfl
    by_cases accepted : Random.isSeed config.seed = true
    · refine .inr ⟨opened { config with logLevel := text } one,
        opened { config with logLevel := other } two, openingLines { config with logLevel := text } one,
        start_eq_opened one_made (passed text) accepted, ?_, mutes_opened narrows config text other⟩
      rw [logger_opened narrows.plain, ← openingLines_narrow narrows config text other]
      exact start_eq_opened two_made (passed other) accepted
    · refine .inl ⟨.seedOutOfRange, ?_, ?_⟩
      · rw [start, one_made, passed]
        exact if_neg accepted
      · rw [start, two_made, passed]
        exact if_neg accepted

/-- **The log level decides what is printed and nothing else.** Let two texts name levels in any
letter case, the first level at most as severe as the second one, and let nothing be stamped. Of two
loggers that are made at these levels, whenever they are made, the first one prints a line for each
call that is severe enough for it, and the second one prints those of these lines that are severe
enough for the second one, where a label counts as the level that it names and as information if it
names none. A machine under the one logger and a machine under the other one, with configurations
that differ in the log level at most, are in the same state with the same count of halts after every
script, every action fails alike on them, and under the second logger it prints the lines that it
prints under the first one and that are severe enough. So do sessions that are started with settings
that differ in the log level at most, unless they fail to start with the same error. -/
theorem level_only_filters (ordered : low.rank ≤ high.rank)
    (low_named : Log.Level.Names text low) (high_named : Log.Level.Names other high) :
    (∀ (call : Log.Call) (level : Log.Level),
      call.severity = level ↔ Log.Level.Ranks call.label level) ∧
    (∀ (settings : Log.LoggerSettings) (terminal : Bool) (clock later : Log.Clock),
      settings.stamped = false →
      ∃ one two : Log.Logger,
        Log.Logger.create { settings with level := text } terminal clock = .ok one ∧
        Log.Logger.create { settings with level := other } terminal later = .ok two ∧
        (∀ calls : List Log.Call,
          (one.printed calls).map Prod.fst =
            calls.filter (fun call => decide (low.rank ≤ call.severity.rank)) ∧
          two.printed calls =
            (one.printed calls).filter fun entry => decide (high.rank ≤ entry.1.severity.rank)) ∧
        ∀ config : Config,
          openingLines { config with logLevel := other } two =
            (openingLines { config with logLevel := text } one).filter (one.severe high) ∧
          Mutes high (opened { config with logLevel := text } one)
            (opened { config with logLevel := other } two)) ∧
    ∀ (settings : Settings) (clock later : Log.Clock),
      (∃ error, start { settings with logLevel := text } false clock = .error error ∧
        start { settings with logLevel := other } false later = .error error) ∨
      ∃ s t lines, start { settings with logLevel := text } false clock = .ok (s, lines) ∧
        start { settings with logLevel := other } false later =
          .ok (t, lines.filter (s.journal.logger.severe high)) ∧
        Mutes high s t := by
  refine ⟨fun call level => Log.Level.ofLabel_eq_iff, ?_,
    start_narrows ordered low_named high_named⟩
  intro settings terminal clock later plain
  obtain ⟨one, two, one_made, two_made, rfl, narrows⟩ :=
    create_narrows ordered low_named high_named settings terminal clock later plain
  refine ⟨one, two, one_made, two_made, ?_, ?_⟩
  · intro calls
    exact ⟨Log.Logger.map_fst_printed narrows.plain calls, narrows.printed_eq calls⟩
  · intro config
    exact ⟨openingLines_narrow narrows config text other, mutes_opened narrows config text other⟩

/-- A label that names nothing ranks below a warning. A program is loaded, which the first logger alone
tells, and halts at once, which both tell. -/
theorem level_only_filters_load_and_halt :
    let settings : Log.LoggerSettings := { stamped := false }
    let calls : List Log.Call := [.say .info "a", .log "verbose" "b", .log "eRRor" "c"]
    let script : List Action := [.load [0x00, 0xEE], .tick]
    let halt := "[   ERROR][chip8vm] Execution halted: stack underflow at opcode 00EE (PC=0x202)"
    Log.Level.debug.rank ≤ Log.Level.warning.rank ∧
    Log.Level.Names "dEbUg" .debug ∧ Log.Level.Names "Warning" .warning ∧
    settings.stamped = false ∧
    ∃ one two : Log.Logger,
      Log.Logger.create { settings with level := "dEbUg" } false .still = .ok one ∧
      Log.Logger.create { settings with level := "Warning" } false .still = .ok two ∧
      (one.printed calls).map Prod.fst = calls ∧
      two.printed calls = [(.log "eRRor" "c", "[   eRRor][chip8vm] c")] ∧
      (opened { Config.standard with logLevel := "dEbUg" } one).transcript script =
        ["[   DEBUG][chip8vm] Loaded 2 byte(s) at 0x200", halt] ∧
      (opened { Config.standard with logLevel := "Warning" } two).transcript script = [halt] := by
  intro settings calls script halt
  have ordered : Log.Level.debug.rank ≤ Log.Level.warning.rank := by decide
  have low_named : Log.Level.Names "dEbUg" .debug := by decide +kernel
  have high_named : Log.Level.Names "Warning" .warning := by decide +kernel
  obtain ⟨_, loggers, _⟩ := level_only_filters ordered low_named high_named
  obtain ⟨one, two, one_made, two_made, printed, sessions⟩ :=
    loggers settings false .still .still rfl
  have is_one : one = ⟨"chip8vm", .debug, false, false, 0, .still⟩ :=
    Except.ok.inj (one_made.symm.trans (Log.Logger.create_of_names low_named false .still))
  subst is_one
  obtain ⟨counted, filtered⟩ := printed calls
  have all_severe : calls.filter
      (fun call => decide (Log.Level.debug.rank ≤ call.severity.rank)) = calls := by
    decide +kernel
  refine ⟨ordered, low_named, high_named, rfl, _, two, one_made, two_made,
    counted.trans all_severe, ?_, by decide +kernel, ?_⟩
  · rw [filtered]
    decide +kernel
  · have muted := (sessions .standard).2
    obtain ⟨_, _, _, loaded⟩ := muted [] (.load [0x00, 0xEE])
    obtain ⟨_, _, _, halted⟩ := muted [.load [0x00, 0xEE]] .tick
    have nothing := congrArg Reply.lines loaded
    have told := congrArg Reply.lines halted
    have split : ∀ s : Session, s.transcript script =
        ((s.after []).perform (.load [0x00, 0xEE])).2.lines ++
          (((s.after [.load [0x00, 0xEE]]).perform .tick).2.lines ++ []) := fun _ => rfl
    rw [split, nothing, told]
    decide +kernel

end Session

end Chip8
