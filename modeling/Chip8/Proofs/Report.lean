import Chip8.Proofs.Load
import Chip8.Proofs.Watch

/-!
# Reports of runs

What the command line reports of the run of a file is what the ticks of the run, all of them and one
by one, show of the machine (`CommandLine.run_tells`), although the run stops at the first that fails
or that leaves the program waiting: the status tells whether one of them raises an error of the
program, the error is the first of these, and the screen is the one that all of them lead to
(`CommandLine.Report.Tells`).
-/

namespace Chip8

/-! ## Programs from files -/

/-- The bytes of a file as a program. -/
def programOf (bytes : List UInt8) : List Int := bytes.map fun byte => (byte.toNat : Int)

theorem length_programOf (bytes : List UInt8) : (programOf bytes).length = bytes.length :=
  List.length_map ..

theorem allBytes_programOf (bytes : List UInt8) : AllBytes (programOf bytes) := by
  intro b member
  obtain ⟨byte, _, rfl⟩ := List.mem_map.mp member
  have bound := byte.toNat_lt
  omega

namespace Machine

variable {bytes : List UInt8}

theorem failure_load_programOf (m : Machine) (fits : bytes.length ≤ 0xE00) :
    (m.load (programOf bytes)).failure = none := by
  have valid : IsProgram (programOf bytes) := by
    refine ⟨allBytes_programOf bytes, ?_⟩
    rw [length_programOf]
    exact fits
  rw [load, m.cpu.load_of_isProgram valid]
  rfl

theorem load_programOf_of_long (m : Machine) (long : 0xE00 < bytes.length) :
    m.load (programOf bytes) = m.fail (.execution (.outOfBounds 0x200 bytes.length)) := by
  rw [← length_programOf bytes] at long ⊢
  rw [load, m.cpu.load_of_long (allBytes_programOf bytes) long]

end Machine

/-! ## What a report tells -/

theorem Screen.length_lines (shown : Screen) : (shown.picture.lines {}).length = 32 := by
  rw [Picture.lines, List.length_map, Picture.length_rows]
  rfl

namespace CommandLine

/-- A report tells how a machine fares in a number of ticks: the status is one if and only if one of
them raises an error of the program, and otherwise it is zero and nothing is reported as an error; the
first failure, if there is one, is the one error that is reported; and the last lines are the screen
in the end, if it is to be shown. -/
structure Report.Tells (report : Report) (m : Machine) (count : Nat) (screen : Bool) : Prop where
  status_iff : report.status = 1 ↔
    ∃ error, some (.execution error) ∈ m.failures (List.replicate count .tick)
  success : report.status ≠ 1 → report.status = 0 ∧ report.err = []
  first : ∀ failure, (m.failures (List.replicate count .tick)).findSome? id = some failure →
    report.err = ["error: " ++ failure.message]
  shown : screen = true → report.out.rtake 32 =
    (m.after (List.replicate count .tick)).cpu.screen.picture.lines {}

theorem rtake_append_lines (lines : List String) (shown : Screen) :
    (lines ++ shown.picture.lines {}).rtake 32 = shown.picture.lines {} := by
  rw [List.rtake, List.length_append, shown.length_lines, Nat.add_sub_cancel, List.drop_left]

/-- Lines of output in front change nothing that a report tells. -/
theorem Report.Tells.after {report : Report} {m : Machine} {count : Nat} {screen : Bool}
    (tells : report.Tells m count screen) (lines : List String) :
    (report.after lines).Tells m count screen where
  status_iff := tells.status_iff
  success := tells.success
  first := tells.first
  shown := by
    intro asked
    have whole : report.out.rdrop 32 ++ report.out.rtake 32 = report.out :=
      List.take_append_drop ..
    rw [tells.shown asked] at whole
    rw [Report.after]
    dsimp only
    rw [← whole, ← List.append_assoc]
    exact rtake_append_lines ..

/-- How a run ends after some output, by the failure that it came to. -/
def conclude (out : List String) : Option Failure → Except Abort Report
  | none => .ok ⟨0, out, []⟩
  | some (.execution error) => .ok ⟨1, out, [Report.errorLine error.message]⟩
  | some failure => .error (.failure failure)

end CommandLine

open CommandLine

namespace Session

variable {s : Session} {rom : String} {ticks : Int} {options : Options} {bytes : List UInt8}

/-- **A run ends as all its ticks would make it end**: with the screen that they lead to, and by the
first of their failures. -/
theorem runTicks_eq (s : Session) (rom : String) (ticks : Int) (options : Options) :
    ∃ lines, s.runTicks rom ticks options =
      let calls := List.replicate ticks.toNat .tick
      conclude
        (lines ++ if options.screen then (s.machine.after calls).cpu.screen.picture.lines {} else [])
        ((s.machine.failures calls).findSome? id) := by
  have started : (s.note .info
    ("Running " ++ rom ++ " for " ++ toString ticks ++ " ticks")).1.machine = s.machine := rfl
  unfold runTicks
  generalize s.note .info ("Running " ++ rom ++ " for " ++ toString ticks ++ " ticks") = noted
    at started ⊢
  obtain ⟨noting, heading⟩ := noted
  obtain ⟨ended, failed⟩ := noting.watch_eq_ticks ticks.toNat
  rw [show noting.machine = s.machine from started] at ended failed
  refine ⟨heading ++ (noting.watch ticks.toNat).2.lines, ?_⟩
  dsimp only
  rw [← failed, ← ended]
  rfl

/-- A run whose ticks fail by errors of the program only ends with a report that tells how they
fare. -/
theorem runTicks_tells (rom : String) (options : Options)
    (executes : ∀ failure, some failure ∈ s.machine.failures (List.replicate ticks.toNat .tick) →
      ∃ error, failure = .execution error) :
    ∃ report, s.runTicks rom ticks options = .ok report ∧
      report.Tells s.machine ticks.toNat options.screen := by
  obtain ⟨lines, ended⟩ := s.runTicks_eq rom ticks options
  have shown : options.screen = true →
      (lines ++ if options.screen then
        (s.machine.after (List.replicate ticks.toNat .tick)).cpu.screen.picture.lines {}
        else []).rtake 32 =
      (s.machine.after (List.replicate ticks.toNat .tick)).cpu.screen.picture.lines {} := by
    intro asked
    rw [if_pos asked]
    exact rtake_append_lines ..
  cases first : (s.machine.failures (List.replicate ticks.toNat .tick)).findSome? id with
  | none =>
    have silent := List.findSome?_eq_none_iff.mp first
    simp only [first] at ended
    refine ⟨_, ended, ?_, ?_, ?_, shown⟩
    · refine ⟨nofun, ?_⟩
      rintro ⟨error, member⟩
      cases silent _ member
    · exact fun _ => ⟨rfl, rfl⟩
    · intro failure found
      cases first.symm.trans found
  | some failure =>
    obtain ⟨raised, member, same⟩ := List.exists_of_findSome?_eq_some first
    obtain rfl : raised = some failure := same
    obtain ⟨error, rfl⟩ := executes failure member
    simp only [first] at ended
    refine ⟨_, ended, ?_, ?_, ?_, shown⟩
    · exact ⟨fun _ => ⟨error, member⟩, fun _ => rfl⟩
    · exact fun other => absurd rfl other
    · intro failure found
      cases first.symm.trans found
      rfl

/-- A run whose budget is refused ends without a report, unless it has no ticks. -/
theorem runTicks_of_wide (rom : String) (wide : isInt32 s.machine.config.budget = false)
    (running : s.machine.cpu.waiting = false) (some_ticks : 0 < ticks) :
    s.runTicks rom ticks options = .error (.failure (.budgetTooWide s.machine.config.budget)) := by
  obtain ⟨count, same_count⟩ : ∃ count, ticks.toNat = count + 1 := ⟨ticks.toNat - 1, by omega⟩
  have refused : (s.machine.perform .tick).failure =
      some (.budgetTooWide s.machine.config.budget) := by
    simp [Machine.perform, Machine.failure_tick, running, wide]
  obtain ⟨lines, ended⟩ := s.runTicks_eq rom ticks options
  rw [ended, same_count]
  simp only [List.replicate_succ, Machine.failures, refused, List.findSome?_cons, id, conclude]

theorem runLoaded_of_few (rom : String) (given : options.ticks = some ticks)
    (few : ticks < 0x8000000000000000) :
    s.runLoaded rom options = s.runTicks rom ticks options := by
  have counted : ¬maxTicks < ticks := by unfold maxTicks; omega
  rw [runLoaded, given]
  exact if_neg counted

theorem runLoaded_of_many (rom : String) (given : options.ticks = some ticks)
    (many : 0x8000000000000000 ≤ ticks) :
    s.runLoaded rom options = .error .tooManyTicks := by
  have uncounted : maxTicks < ticks := by unfold maxTicks; omega
  rw [runLoaded, given]
  exact if_pos uncounted

theorem runFile_of_fits (s : Session) (rom : String) (options : Options)
    (fits : bytes.length ≤ 0xE00) :
    s.runFile rom (.ok bytes) options =
      ((s.perform (.load (programOf bytes))).1.runLoaded rom options).map
        (Report.after (s.perform (.load (programOf bytes))).2.lines) := by
  have loads : (s.perform (.load (programOf bytes))).2.failure = none :=
    s.machine.failure_load_programOf fits
  rw [programOf] at loads ⊢
  simp only [runFile, loads]

theorem runFile_of_long (s : Session) (rom : String) (options : Options)
    (long : 0xE00 < bytes.length) :
    s.runFile rom (.ok bytes) options =
      .ok (.refused [] (ExecutionError.outOfBounds 0x200 bytes.length).message) := by
  have fails : s.machine.perform (.load (programOf bytes)) =
      s.machine.fail (.execution (.outOfBounds 0x200 bytes.length)) :=
    s.machine.load_programOf_of_long long
  rw [programOf] at fails
  simp only [runFile, perform, fails]
  rfl

end Session

/-! ## Command lines -/

/-- Settings with the standard font are checked for their budget only. -/
theorem Settings.validate_standard {budget : Nat} (positive : 0 < budget) (seed : Int)
    (strict : Bool) (logLevel : String) :
    Settings.validate { budget := budget, seed := seed, strict := strict, logLevel := logLevel } =
      .ok { Config.standard with
        budget := budget, budget_pos := positive, seed := seed, strict := strict,
        logLevel := logLevel } := by
  have positive_setting : (0 : Int) < budget := Int.natCast_pos.mpr positive
  rw [validate, dif_pos positive_setting]
  rfl

namespace CommandLine

/-- A run that can be set up runs its file. -/
theorem Options.run_of_start {options : Options} {rom : String} {budget : Int} {config : Config}
    {clock : Log.Clock} {s : Session} {opening : List String}
    (given : options.budget = some budget) (valid : Settings.validate { budget := budget } = .ok config)
    (started : options.start budget clock = .ok (s, opening))
    (path : FileTree.isPath rom = true) (file : Except FileError (List UInt8)) :
    options.run rom file clock = (s.runFile rom file options).map (Report.after opening) := by
  simp only [run, given, Parameter.required, bind, Except.bind, valid, started, path, if_true]

/-- The run of a file without progress, as a command line asks for it that gives each parameter a
value which is accepted. -/
structure Invocation where
  rom : String
  isPath_rom : FileTree.isPath rom = true
  ticks : Int
  budget : Nat
  budget_pos : 0 < budget
  seed : Int
  isSeed_seed : Random.isSeed seed = true
  strict : Bool
  level : Log.Level
  screen : Bool

namespace Invocation

variable (call : Invocation)

/-- The options of an invocation. -/
def options : Options where
  ticks := some call.ticks
  budget := some call.budget
  seed := some call.seed
  strict := call.strict
  logLevel := some call.level
  screen := call.screen
  progress := false

/-- What an invocation asks of a machine. -/
def settings : Settings where
  budget := call.budget
  seed := call.seed
  strict := call.strict
  logLevel := call.level.label

/-- What the machine of an invocation runs with. -/
def config : Config :=
  { Config.standard with
    budget := call.budget
    budget_pos := call.budget_pos
    seed := call.seed
    strict := call.strict
    logLevel := call.level.label }

/-- The machine of an invocation comes to run its file. -/
theorem run_options (file : Except FileError (List UInt8)) (clock : Log.Clock) :
    ∃ s opening, Session.start call.settings true clock = .ok (s, opening) ∧
      s.machine = Machine.start call.config ∧
      call.options.run call.rom file clock =
        (s.runFile call.rom file call.options).map (Report.after opening) := by
  obtain ⟨logger, labelled⟩ : ∃ logger,
      Log.Logger.create { level := call.settings.logLevel, stamped := true } false clock =
        .ok logger := by
    have named : Log.Level.ofLabel? call.settings.logLevel = some call.level :=
      Log.Level.ofLabel?_label call.level
    rw [Log.Logger.create, named]
    exact ⟨_, rfl⟩
  have valid : call.settings.validate = .ok call.config :=
    Settings.validate_standard call.budget_pos ..
  have started := Session.start_of_valid labelled valid call.isSeed_seed
  have opened : call.options.start call.budget clock = .ok _ :=
    congrArg (Except.mapError Abort.setup) started
  refine ⟨_, _, started, rfl, ?_⟩
  exact Options.run_of_start rfl (Settings.validate_standard call.budget_pos 0 false "WARNING")
    opened call.isPath_rom file

end Invocation

/-- **The early stop cannot be told.** The run of a file that fits into memory, for fewer than 2^63
ticks, with a budget below 2^31 or without ticks, ends with a report that tells how all its ticks
fare, given one after the other to the machine that has loaded the file. With a larger budget the
first tick is refused, and more ticks cannot be counted: there is no report then. A file that does
not fit is reported as such, whatever the number of ticks, the budget and the rest, and nothing is
printed but what setting up the machine prints. Yet the run does stop early: once a tick has failed
or left the program waiting, it goes on as if no ticks were left. -/
theorem run_tells (tree : FileTree) (clock : Log.Clock) (words : List String) (call : Invocation)
    (bytes : List UInt8) (asked : request words = .ok (.run call.rom call.options))
    (found : tree.read call.rom = .ok bytes) :
    (bytes.length ≤ 0xE00 →
      let m := (Machine.start call.config).after [.load (programOf bytes)]
      (call.ticks < 0x8000000000000000 → call.ticks ≤ 0 ∨ call.budget < 0x80000000 →
        ∃ report, run tree clock words = .ok report ∧
          report.Tells m call.ticks.toNat call.screen) ∧
      (call.ticks < 0x8000000000000000 → 0 < call.ticks → 0x80000000 ≤ call.budget →
        run tree clock words = .error (.failure (.budgetTooWide call.budget))) ∧
      (0x8000000000000000 ≤ call.ticks → run tree clock words = .error .tooManyTicks)) ∧
    (0xE00 < bytes.length → ∃ s opening,
      Session.start call.settings true clock = .ok (s, opening) ∧
      run tree clock words =
        .ok ⟨2, opening, ["error: " ++ (ExecutionError.outOfBounds 0x200 bytes.length).message]⟩) ∧
    ∀ (s : Session) (first count : Nat), first < count →
      (s.machine.after (List.replicate first .tick)).Stops →
      s.watch count = s.watch (first + 1) := by
  obtain ⟨s, opening, started, fresh, ran⟩ := call.run_options (.ok bytes) clock
  have same_run : run tree clock words =
      (s.runFile call.rom (.ok bytes) call.options).map (Report.after opening) := by
    rw [run, asked, ← ran, ← found]
  refine ⟨?_, ?_, fun s first count => Session.watch_stops⟩
  · intro fits m
    have loaded : (s.perform (.load (programOf bytes))).1.machine = m := by
      rw [Session.perform, fresh]
      rfl
    rw [Session.runFile_of_fits s call.rom call.options fits] at same_run
    generalize (s.perform (.load (programOf bytes))).1 = ready at loaded same_run
    have configured : m.config.budget = call.budget := by rw [Machine.config_after]; rfl
    refine ⟨?_, ?_, ?_⟩
    · intro few calm
      have executes : ∀ failure,
          some failure ∈ ready.machine.failures (List.replicate call.ticks.toNat .tick) →
          ∃ error, failure = .execution error := by
        intro failure member
        rcases calm with no_ticks | narrow
        · rw [Int.toNat_of_nonpos no_ticks] at member
          exact absurd member List.not_mem_nil
        · refine Machine.execution_of_mem_failures ?_ member
          rw [loaded, configured]
          exact Cpu.isInt32_natCast_iff.mpr narrow
      obtain ⟨report, told, tells⟩ := Session.runTicks_tells call.rom call.options executes
      rw [Session.runLoaded_of_few call.rom rfl few, told] at same_run
      rw [loaded] at tells
      exact ⟨_, same_run, (tells.after _).after _⟩
    · intro few some_ticks wide
      have refused : isInt32 ready.machine.config.budget = false := by
        rw [loaded, configured]
        exact Bool.eq_false_iff.mpr fun narrow =>
          Nat.not_lt_of_le wide (Cpu.isInt32_natCast_iff.mp narrow)
      have running : ready.machine.cpu.waiting = false := by
        have only_memory := (Machine.start call.config).machine_load (programOf bytes)
        rw [loaded]
        exact congrArg (fun m => m.cpu.waiting) only_memory
      rw [Session.runLoaded_of_few call.rom rfl few,
        Session.runTicks_of_wide call.rom refused running some_ticks, loaded, configured] at same_run
      exact same_run
    · intro many
      rw [Session.runLoaded_of_many call.rom rfl many] at same_run
      exact same_run
  · intro long
    refine ⟨s, opening, started, ?_⟩
    rw [same_run, Session.runFile_of_long s call.rom call.options long]
    simp [Except.map, Report.after, Report.refused, Report.errorLine]

/-- The second of five ticks comes to a return without a call. The later ones raise the same error, and
it is reported once. -/
theorem run_tells_second_tick :
    let call : Invocation :=
      { rom := "game.ch8", isPath_rom := by decide, ticks := 5, budget := 1
        budget_pos := by decide, seed := -7, isSeed_seed := by decide, strict := true
        level := .warning, screen := true }
    let bytes := [0x60, 0x01, 0x00, 0xEE]
    let tree := FileTree.directory [("game.ch8", .file bytes)]
    let words := ["game.ch8", "--ticks", "5", "--instructions-per-tick", "1", "--seed", "-7",
      "--strict", "--show", "--no-progress"]
    let m := (Machine.start call.config).after [.load (programOf bytes)]
    let raised := some (.execution (.stackUnderflow 0x00EE))
    request words = .ok (.run call.rom call.options) ∧ tree.read call.rom = .ok bytes ∧
      m.failures (List.replicate 5 .tick) = [none, raised, raised, raised, raised] ∧
      ∃ report, run tree .still words = .ok report ∧ report.status = 1 ∧
        report.err = ["error: " ++ (ExecutionError.stackUnderflow 0x00EE).message] ∧
        report.out.rtake 32 =
          (m.after (List.replicate 5 .tick)).cpu.screen.picture.lines {} := by
  intro call bytes tree words m raised
  have asked : request words = .ok (.run call.rom call.options) := by decide +kernel
  have found : tree.read call.rom = .ok bytes := by decide +kernel
  have failures : m.failures (List.replicate 5 .tick) = [none, raised, raised, raised, raised] := by
    decide +kernel
  obtain ⟨fitting, _⟩ := run_tells tree .still words call bytes asked found
  obtain ⟨report, told, tells⟩ := (fitting (by decide)).1 (by decide) (.inr (by decide))
  have tells : report.Tells m 5 true := tells
  refine ⟨asked, found, failures, report, told, ?_, ?_, tells.shown rfl⟩
  · refine tells.status_iff.mpr ⟨.stackUnderflow 0x00EE, ?_⟩
    rw [failures]
    simp [raised]
  · refine tells.first (.execution (.stackUnderflow 0x00EE)) ?_
    rw [failures]
    rfl

/-- A program that waits for a key raises no error in any of two ticks. With the smallest budget that
is refused, or for the smallest number of ticks that is not counted, its run ends without a
report. -/
theorem run_without_report :
    let bytes := [0x60, 0x01, 0xF0, 0x0A]
    let tree := FileTree.directory [("game.ch8", .file bytes)]
    let config := { Config.standard with budget := 0x80000000, budget_pos := by decide }
    let m := (Machine.start config).after [.load (programOf bytes)]
    let wide := ["game.ch8", "--no-progress", "--ticks", "2",
      "--instructions-per-tick", "2147483648"]
    let long := ["game.ch8", "--no-progress", "--ticks", "9223372036854775808"]
    request wide = .ok (.run "game.ch8"
        { ticks := some 2, budget := some 0x80000000, progress := false }) ∧
      (∀ error, some (.execution error) ∉ m.failures (List.replicate 2 .tick)) ∧
      run tree .still wide = .error (.failure (.budgetTooWide 0x80000000)) ∧
      request long = .ok (.run "game.ch8"
        { ticks := some 0x8000000000000000, progress := false }) ∧
      run tree .still long = .error .tooManyTicks := by
  intro bytes tree config m wide long
  have failures : m.failures (List.replicate 2 .tick) =
      [some (.budgetTooWide 0x80000000), some (.budgetTooWide 0x80000000)] := by
    decide +kernel
  refine ⟨by decide +kernel, ?_, by decide +kernel, by decide +kernel, by decide +kernel⟩
  intro error
  rw [failures]
  simp

end CommandLine

end Chip8
