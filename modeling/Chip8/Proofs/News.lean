import Chip8.Instruction
import Chip8.Keypad
import Chip8.Log.Event

/-!
# News

What the lines of a log say of the state in which a machine runs (`Log.News`). A message brings its
news in its first characters, and no such opening begins with another one. So a line says one thing at
most, whatever the name of the logger is and whether or not it colours its labels, and reading a log
line by line leads to one state of the machine at most (`Log.Logger.Reads.unique`).
-/

namespace Chip8.Log

/-- News of the state in which a machine runs. -/
inductive News where
  | restarts
  | waits (r : Register)
  | resumes (key : Key) (r : Register)
  | halts

namespace News

/-- How severe a message is that brings the news. -/
def severity : News → Level
  | halts => .error
  | _ => .debug

/-- How a message begins that brings the news. -/
def opening : News → String
  | restarts => "Reset ("
  | waits r => "Waiting for key into V" ++ Text.hex 0 r.val
  | resumes key r => "Key " ++ Text.hex 0 key.val ++ " stored in V" ++ Text.hex 0 r.val
  | halts => "Execution halted: "

/-- The character that an opening begins with. -/
def initial : News → Char
  | restarts => 'R'
  | waits _ => 'W'
  | resumes _ _ => 'K'
  | halts => 'E'

end News

/-- What news a machine's event brings, if any. -/
inductive Event.Brings : Event → Option News → Prop
  | reset (budget : Int) (strict : Bool) : Brings (.reset budget strict) (some .restarts)
  | loaded (size address : Int) : Brings (.loaded size address) none
  | awaitingKey (r : Register) (pc : Int) : Brings (.awaitingKey r.val pc) (some (.waits r))
  | keyStored (key : Key) (r : Register) :
      Brings (.keyStored key.val r.val) (some (.resumes key r))
  | halted (error : String) (pc : Option Int) : Brings (.halted error pc) (some .halts)

namespace Logger

/-- The line of an event, without a stamp. -/
def line (logger : Logger) (event : Event) : String :=
  logger.body event.severity.label event.message

/-- Whether a line says some news. -/
def Says (logger : Logger) (line : String) (news : News) : Prop :=
  ∃ rest, line = logger.body news.severity.label (news.opening ++ rest)

end Logger

/-! ## Reading -/

/-- What a reader of a log takes a machine for. -/
inductive Standing where
  | running
  | awaiting (register : UInt8)
  | halted
deriving DecidableEq

/-- How news changes what a reader takes a machine for. The key that ends a wait is stored in the
register that the wait was for. -/
inductive News.Turns : News → Standing → Standing → Prop
  | restarts (before : Standing) : Turns .restarts before .running
  | waits (r : Register) : Turns (.waits r) .running (.awaiting (UInt8.ofNat r.val))
  | resumes (key : Key) (r : Register) :
      Turns (.resumes key r) (.awaiting (UInt8.ofNat r.val)) .running
  | halts : Turns .halts .running .halted

theorem News.Turns.unique {news : News} {before next other : Standing}
    (turns : news.Turns before next) (also : news.Turns before other) : next = other := by
  cases turns <;> cases also <;> rfl

/-- Reading lines, from what a reader takes a machine for at first to what it is taken for in the end.
Lines without news are passed over. -/
inductive Logger.Reads (logger : Logger) : Standing → List String → Standing → Prop
  | nil (standing : Standing) : Reads logger standing [] standing
  | told {before next last : Standing} {news : News} {line : String} {rest : List String}
      (said : logger.Says line news) (turns : news.Turns before next)
      (later : Reads logger next rest last) : Reads logger before (line :: rest) last
  | passed {before last : Standing} {line : String} {rest : List String}
      (silent : ∀ news, ¬logger.Says line news)
      (later : Reads logger before rest last) : Reads logger before (line :: rest) last

/-! ## Openings -/

/-- A number of four bits has one digit, which tells the number. -/
theorem hex_append_inj {m n : Fin 16} {x y : String}
    (same : Text.hex 0 m.val ++ x = Text.hex 0 n.val ++ y) : m = n ∧ x = y := by
  have single : ∀ n : Fin 16, (Text.hex 0 n.val).toList.length = 1 := by decide +kernel
  have distinct : ∀ m n : Fin 16,
      (Text.hex 0 m.val).toList = (Text.hex 0 n.val).toList → m = n := by
    decide +kernel
  have chars := congrArg String.toList same
  rw [String.toList_append, String.toList_append] at chars
  obtain ⟨digits, rest⟩ := List.append_inj chars ((single m).trans (single n).symm)
  exact ⟨distinct m n digits, String.toList_inj.mp rest⟩

namespace News

variable {a b : News} {x y : String}

theorem opening_waits (r : Register) :
    (waits r).opening = "Waiting for key into V" ++ Text.hex 0 r.val := rfl

theorem opening_resumes (key : Key) (r : Register) :
    (resumes key r).opening =
      "Key " ++ Text.hex 0 key.val ++ " stored in V" ++ Text.hex 0 r.val := rfl

theorem head?_opening_append (news : News) (rest : String) :
    (news.opening ++ rest).toList.head? = some news.initial := by
  rw [String.toList_append, List.head?_append]
  cases news with
  | restarts => rfl
  | waits r =>
    rw [opening_waits, String.toList_append]
    rfl
  | resumes key r =>
    rw [opening_resumes, String.toList_append, String.toList_append, String.toList_append]
    rfl
  | halts => rfl

/-- **No opening begins with another one.** -/
theorem eq_of_opening_append (same : a.opening ++ x = b.opening ++ y) : a = b := by
  have initials : a.initial = b.initial := by
    have heads := congrArg (fun text => text.toList.head?) same
    simp only [head?_opening_append] at heads
    exact Option.some.inj heads
  cases a with
  | restarts => cases b with
    | restarts => rfl
    | _ => cases initials
  | waits r => cases b with
    | waits s =>
      simp only [opening_waits, String.append_assoc, String.append_right_inj] at same
      rw [(hex_append_inj same).1]
    | _ => cases initials
  | resumes key r => cases b with
    | resumes other s =>
      simp only [opening_resumes, String.append_assoc, String.append_right_inj] at same
      obtain ⟨rfl, registers⟩ := hex_append_inj same
      rw [String.append_right_inj] at registers
      rw [(hex_append_inj registers).1]
    | _ => cases initials
  | halts => cases b with
    | halts => rfl
    | _ => cases initials

end News

/-- The message of an event begins as the news does that it brings. -/
theorem Event.Brings.message_eq {event : Event} {told : News} (brings : event.Brings (some told)) :
    event.severity = told.severity ∧ ∃ rest, event.message = told.opening ++ rest := by
  cases brings with
  | reset budget strict =>
    have text : (Event.reset budget strict).message =
        "Reset (" ++ "instructions_per_tick=" ++ toString budget ++ ", strict=" ++ truth strict
          ++ ")" := rfl
    simp only [String.append_assoc] at text
    exact ⟨rfl, _, text⟩
  | awaitingKey r pc =>
    have text : (Event.awaitingKey r.val pc).message =
        (News.waits r).opening ++ " (PC=0x" ++ Text.hex 3 pc ++ ")" := rfl
    simp only [String.append_assoc] at text
    exact ⟨rfl, _, text⟩
  | keyStored key r => exact ⟨rfl, ", resuming", rfl⟩
  | halted error pc =>
    have text : (Event.halted error pc).message = News.halts.opening ++ error ++ _ := rfl
    rw [String.append_assoc] at text
    exact ⟨rfl, _, text⟩

theorem Event.Brings.isHalt_iff {event : Event} {brought : Option News}
    (brings : event.Brings brought) : event.isHalt = true ↔ brought = some .halts := by
  cases brings <;> simp [isHalt]

/-- The message of a program that was loaded begins with none of these. -/
theorem head?_message_loaded (size address : Int) :
    (Event.loaded size address).message.toList.head? = some 'L' := by
  have text : (Event.loaded size address).message =
      "Loaded " ++ toString size ++ " byte(s) at 0x" ++ Text.hex 3 address := rfl
  rw [text, String.append_assoc, String.append_assoc, String.toList_append]
  rfl

/-! ## Lines -/

theorem Level.mem_all (level : Level) : level ∈ all := by
  cases level <;> decide

namespace Logger

variable {logger : Logger} {a b : Level} {x y : String}

theorem length_paint (logger : Logger) (level : Level) :
    (logger.paint level.label).toList.length = if logger.colored then 19 else 10 := by
  have every : ∀ colored : Bool, ∀ level ∈ Level.all,
      (if colored then inkOfLabel level.label ++ labelField level.label ++ plainInk
        else labelField level.label).toList.length = if colored then 19 else 10 := by
    decide +kernel
  exact every logger.colored level level.mem_all

theorem paint_inj (same : logger.paint a.label = logger.paint b.label) : a = b := by
  have distinct : ∀ colored : Bool, ∀ a ∈ Level.all, ∀ b ∈ Level.all,
      (if colored then inkOfLabel a.label ++ labelField a.label ++ plainInk
        else labelField a.label) =
      (if colored then inkOfLabel b.label ++ labelField b.label ++ plainInk
        else labelField b.label) → a = b := by
    decide +kernel
  exact distinct logger.colored a a.mem_all b b.mem_all same

/-- A line tells the severity and the message. -/
theorem body_inj (same : logger.body a.label x = logger.body b.label y) : a = b ∧ x = y := by
  have chars := congrArg String.toList same
  simp only [body, String.append_assoc, String.toList_append] at chars
  obtain ⟨labels, rest⟩ :=
    List.append_inj chars ((logger.length_paint a).trans (logger.length_paint b).symm)
  obtain rfl := paint_inj (String.toList_inj.mp labels)
  simp only [body, String.append_right_inj] at same
  exact ⟨rfl, same⟩

/-- **A line says one thing at most.** -/
theorem Says.unique {line : String} {told other : News} (said : logger.Says line told)
    (also : logger.Says line other) : told = other := by
  obtain ⟨rest, rfl⟩ := said
  obtain ⟨_, same⟩ := also
  exact News.eq_of_opening_append (body_inj same).2

/-- The line of an event says what the event brings and nothing else. -/
theorem says_line_iff {event : Event} {brought : Option News} (brings : event.Brings brought)
    {news : News} : logger.Says (logger.line event) news ↔ brought = some news := by
  cases brought with
  | none =>
    cases brings with
    | loaded size address =>
      simp only [reduceCtorEq, iff_false]
      rintro ⟨rest, same⟩
      have heads := congrArg (fun text => text.toList.head?) (body_inj same).2
      simp only [News.head?_opening_append, head?_message_loaded] at heads
      cases news <;> cases heads
  | some told =>
    have said : logger.Says (logger.line event) told := by
      obtain ⟨severe, rest, begins⟩ := brings.message_eq
      exact ⟨rest, by rw [line, severe, begins]⟩
    rw [Option.some.injEq]
    constructor
    · exact said.unique
    · rintro rfl
      exact said

/-- Reading leads to one end at most. -/
theorem Reads.unique {before last other : Standing} {lines : List String}
    (reads : logger.Reads before lines last) (also : logger.Reads before lines other) :
    last = other := by
  induction reads with
  | nil standing =>
    cases also
    rfl
  | told said turns later ih =>
    cases also with
    | told also_said also_turns also_later =>
      obtain rfl := said.unique also_said
      obtain rfl := turns.unique also_turns
      exact ih also_later
    | passed silent _ => exact absurd said (silent _)
  | passed silent later ih =>
    cases also with
    | told said _ _ => exact absurd said (silent _)
    | passed _ also_later => exact ih also_later

end Logger

/-! ## Journals -/

/-- A logger without stamps stays as it is. -/
theorem Logger.log_of_unstamped {logger : Logger} (plain : logger.stamped = false)
    (label message : String) :
    logger.log label message =
      (if logger.shows (Level.ofLabel label) then some (logger.body label message) else none,
        logger) := by
  rw [log]
  split
  · rw [plain, if_neg Bool.false_ne_true]
  · rfl

theorem Logger.shows_of_debug {logger : Logger} (debug : logger.level = .debug) (severity : Level) :
    logger.shows severity = true := by
  rw [shows, debug]
  exact decide_eq_true (Nat.zero_le _)

namespace Journal

variable {journal : Journal} {logger : Logger}

theorem record_of_unstamped (same : journal.logger = logger) (plain : logger.stamped = false)
    (event : Event) :
    (journal.record event).1 =
        (if logger.shows event.severity then some (logger.line event) else none) ∧
      (journal.record event).2.logger = logger := by
  rw [record, same, Logger.log_of_unstamped plain, Level.ofLabel_label]
  exact ⟨rfl, rfl⟩

/-- A logger without stamps prints a line for each event that is severe enough. -/
theorem recordAll_of_unstamped (same : journal.logger = logger) (plain : logger.stamped = false)
    (events : List Event) :
    (journal.recordAll events).1 =
        (events.filter fun event => logger.shows event.severity).map logger.line ∧
      (journal.recordAll events).2.logger = logger := by
  induction events generalizing journal with
  | nil => exact ⟨rfl, same⟩
  | cons event rest ih =>
    obtain ⟨printed, still⟩ := record_of_unstamped same plain event
    obtain ⟨lines, last⟩ := ih still
    rw [recordAll]
    dsimp only
    rw [printed, lines, List.filter_cons]
    split <;> exact ⟨rfl, last⟩

/-- A logger without stamps that leaves out nothing prints a line for each event. -/
theorem recordAll_of_plain (same : journal.logger = logger) (debug : logger.level = .debug)
    (plain : logger.stamped = false) (events : List Event) :
    (journal.recordAll events).1 = events.map logger.line ∧
      (journal.recordAll events).2.logger = logger := by
  obtain ⟨printed, still⟩ := recordAll_of_unstamped same plain events
  rw [List.filter_eq_self.mpr fun event _ => Logger.shows_of_debug debug event.severity] at printed
  exact ⟨printed, still⟩

end Journal

end Chip8.Log
