import Chip8.Proofs.Invariant
import Chip8.Proofs.Load
import Chip8.Proofs.News
import Chip8.Proofs.Wait

/-!
# Answers

An action answers with one event at most, and the event is what becomes of the state that the machine
runs in (`Machine.makes_iff`): a reset, a tick that leaves the machine waiting, a key that ends the
wait and a tick that ends in a fault are reported each time and nowhere else. All other actions leave
the machine running, waiting or halted as it was.
-/

namespace Chip8

open Log (News Standing)

namespace Cpu

/-- What the machine of a processor is rightly taken for. -/
def standing (s : Cpu) : Standing :=
  match s.awaitedRegister? with
  | some register => .awaiting register
  | none => if s.fault.isSome then .halted else .running

variable {s t : Cpu}

theorem standing_congr (same_wait : s.awaitedRegister? = t.awaitedRegister?)
    (same_fault : s.fault = t.fault) : s.standing = t.standing := by
  unfold standing
  rw [same_wait, same_fault]

theorem standing_of_awaits {register : UInt8} (awaits : s.awaitedRegister? = some register) :
    s.standing = .awaiting register := by
  unfold standing
  rw [awaits]

theorem standing_of_unfaulted (awake : s.waiting = false) (unfaulted : s.fault = none) :
    s.standing = .running := by
  unfold standing
  rw [awaitedRegister?_eq_none_iff.mpr awake, unfaulted]
  rfl

theorem standing_of_fault {fault : Fault} (awake : s.waiting = false)
    (faulted : s.fault = some fault) : s.standing = .halted := by
  unfold standing
  rw [awaitedRegister?_eq_none_iff.mpr awake, faulted]
  rfl

end Cpu

/-! ## What actions answer -/

namespace Machine

/-- What the answer of an action to a machine makes known: the call changes the state in which the
machine runs in the way that the news is about. -/
def Makes (m : Machine) (action : Action) : News → Prop
  | .restarts => action = .reset
  | .waits r => action = .tick ∧ m.cpu.waiting = false ∧
      (m.perform action).machine.cpu.awaitedRegister? = some (UInt8.ofNat r.val)
  | .resumes key r =>
      (∃ number isDown, action = .setKey number isDown ∧ Key.ofInt? number = some key) ∧
      m.cpu.awaitedRegister? = some (UInt8.ofNat r.val) ∧
      (m.perform action).machine.cpu.waiting = false
  | .halts => action = .tick ∧ m.cpu.fault = none ∧
      ∃ error, (m.perform action).failure = some (.execution error)

/-- How an action can answer, and the news in it. -/
inductive Answers (m : Machine) : Action → Outcome → Option News → Prop
  /-- Without an event the machine goes on in the state that it was in. -/
  | silent {action : Action} {cpu : Cpu} {failure : Option Failure} (kept : action ≠ .reset)
      (same_wait : cpu.awaitedRegister? = m.cpu.awaitedRegister?)
      (same_fault : cpu.fault = m.cpu.fault)
      (again : ∀ error, action = .tick → failure = some (.execution error) → m.cpu.fault ≠ none) :
      Answers m action ⟨{ m with cpu := cpu }, [], failure⟩ none
  | loaded (program : List Int) {cpu : Cpu}
      (same_wait : cpu.awaitedRegister? = m.cpu.awaitedRegister?)
      (same_fault : cpu.fault = m.cpu.fault) :
      Answers m (.load program)
        ⟨{ m with cpu := cpu }, [.loaded program.length Memory.programStart], none⟩ none
  | restarted : Answers m .reset m.reset (some .restarts)
  | waited {cpu : Cpu} (awake : m.cpu.waiting = false) (unfaulted : m.cpu.fault = none)
      (r : Register) (awaits : cpu.awaitedRegister? = some (UInt8.ofNat r.val))
      (still : cpu.fault = none) (pc : Int) :
      Answers m .tick ⟨{ m with cpu := cpu }, [.awaitingKey r.val pc], none⟩ (some (.waits r))
  | resumed {cpu : Cpu} {key : Key} {r : Register} {number : Int}
      (known : Key.ofInt? number = some key)
      (awaits : m.cpu.awaitedRegister? = some (UInt8.ofNat r.val)) (unfaulted : m.cpu.fault = none)
      (awake : cpu.waiting = false) (still : cpu.fault = none)
      (stored : cpu.registers.get r = UInt8.ofNat key.val) :
      Answers m (.setKey number true)
        ⟨{ m with cpu := cpu }, [.keyStored key.val r.val], none⟩ (some (.resumes key r))
  | halted {cpu : Cpu} {fault : Fault} {error : ExecutionError} (awake : m.cpu.waiting = false)
      (unfaulted : m.cpu.fault = none) (still : cpu.waiting = false)
      (faulted : cpu.fault = some fault) (pc : Option Int) :
      Answers m .tick
        ⟨{ m with cpu := cpu }, [.halted error.message pc], some (.execution error)⟩
        (some .halts)

variable {m : Machine} {action : Action} {outcome : Outcome} {brought : Option News}

theorem answers_load (program : List Int) :
    ∃ brought, m.Answers (.load program) (m.load program) brought := by
  refine ⟨none, ?_⟩
  unfold load
  cases loaded : m.cpu.load program with
  | error failure => exact .silent nofun rfl rfl nofun
  | ok cpu =>
    have frame := Cpu.load_frame loaded
    exact .loaded program (by rw [frame]; rfl) (by rw [frame])

theorem answers_setKey (h : m.cpu.WellFormed) (number : Int) (isDown : Bool) :
    ∃ brought, m.Answers (.setKey number isDown) (m.setKey number isDown) brought := by
  unfold setKey Cpu.setKey
  cases known : Key.ofInt? number with
  | none => exact ⟨none, .silent nofun rfl rfl nofun⟩
  | some key =>
    dsimp only
    cases waiting : m.cpu.waiting with
    | false =>
      rw [Cpu.keyEvent_of_running waiting, Bool.false_and, if_neg Bool.false_ne_true]
      exact ⟨none, .silent nofun rfl rfl nofun⟩
    | true =>
      cases isDown with
      | false =>
        have released : m.cpu.keyEvent key false =
            { m.cpu with keypad := m.cpu.keypad.set key false } := rfl
        rw [released, waiting]
        exact ⟨none, .silent nofun rfl rfl nofun⟩
      | true =>
        obtain ⟨r, awaits⟩ := h.exists_awaitedRegister waiting
        obtain rfl := Key.ofInt?_eq_some_iff.mp known
        rw [Cpu.keyEvent_press awaits, Cpu.toNat_keyRegister awaits]
        have unfaulted := h.not_both waiting
        exact ⟨_, .resumed known awaits unfaulted rfl unfaulted (Vector.getElem_set_self ..)⟩

/-- What a tick that is run leaves behind. -/
theorem answers_settle (h : m.cpu.WellFormed) (awake : m.cpu.waiting = false) (budget : Nat) :
    ∃ brought, m.Answers .tick (m.settle (m.cpu.tick budget)) brought := by
  unfold settle
  dsimp only
  cases record : m.cpu.fault with
  | some fault =>
    -- The fault is an old one, and so is the error that is raised for it.
    rw [Cpu.tick_of_not_runnable budget (Cpu.isRunnable_of_fault record)]
    refine ⟨none, ?_⟩
    split
    · refine .silent nofun rfl rfl ?_
      intro error _ _
      rw [record]
      exact Option.some_ne_none fault
    · rw [awake]
      exact .silent nofun rfl rfl nofun
  | none =>
    have after := h.tick budget
    cases failed : (m.cpu.tick budget).error? with
    | some error =>
      obtain ⟨fault, faulted⟩ := Cpu.exists_fault_of_error? failed
      exact ⟨_, .halted awake record (Cpu.waiting_tick_of_fault awake faulted) faulted _⟩
    | none =>
      have unfaulted : (m.cpu.tick budget).fault = none := Option.map_eq_none_iff.mp failed
      cases waiting : (m.cpu.tick budget).waiting with
      | true =>
        obtain ⟨r, awaits⟩ := after.exists_awaitedRegister waiting
        rw [Cpu.toNat_keyRegister awaits]
        exact ⟨_, .waited awake record r awaits unfaulted _⟩
      | false =>
        have same_wait : (m.cpu.tick budget).awaitedRegister? = m.cpu.awaitedRegister? := by
          rw [Cpu.awaitedRegister?_eq_none_iff.mpr waiting,
            Cpu.awaitedRegister?_eq_none_iff.mpr awake]
        exact ⟨none, .silent nofun same_wait (unfaulted.trans record.symm) nofun⟩

theorem answers_tick (h : m.cpu.WellFormed) :
    ∃ brought, m.Answers .tick m.tick brought := by
  rw [tick_eq]
  by_cases waiting : m.cpu.waiting = true
  · rw [if_pos waiting]
    exact ⟨none, .silent nofun rfl rfl nofun⟩
  rw [if_neg waiting]
  by_cases narrow : isInt32 m.config.budget = true
  · rw [if_pos narrow]
    exact answers_settle h (Bool.eq_false_iff.mpr waiting) m.config.budget
  · rw [if_neg narrow]
    exact ⟨none, .silent nofun rfl rfl nofun⟩

/-- **Every action answers in one of these ways.** -/
theorem exists_answers (h : m.cpu.WellFormed) (action : Action) :
    ∃ brought, m.Answers action (m.perform action) brought := by
  cases action with
  | load program => exact answers_load program
  | tick => exact answers_tick h
  | setKey number isDown => exact answers_setKey h number isDown
  | reset => exact ⟨_, .restarted⟩
  | setPc address =>
    unfold perform setPc
    dsimp only
    refine ⟨none, ?_⟩
    cases narrow? address with
    | none => exact .silent nofun rfl rfl nofun
    | some pc => exact .silent nofun rfl rfl nofun

/-! ## What the answers tell -/

/-- There is one event at most, and it brings the news. -/
theorem Answers.events_eq (answers : m.Answers action outcome brought) :
    outcome.events = [] ∧ brought = none ∨
      ∃ event, outcome.events = [event] ∧ event.Brings brought := by
  cases answers with
  | silent => exact .inl ⟨rfl, rfl⟩
  | loaded => exact .inr ⟨_, rfl, .loaded ..⟩
  | restarted => exact .inr ⟨_, rfl, .reset ..⟩
  | waited => exact .inr ⟨_, rfl, .awaitingKey ..⟩
  | resumed => exact .inr ⟨_, rfl, .keyStored ..⟩
  | halted => exact .inr ⟨_, rfl, .halted ..⟩

/-- The halts among the events are the one that is news. -/
theorem Answers.countP_isHalt (answers : m.Answers action outcome brought) :
    (brought = some .halts → outcome.events.countP Log.Event.isHalt = 1) ∧
      (brought ≠ some .halts → outcome.events.countP Log.Event.isHalt = 0) := by
  rcases answers.events_eq with ⟨none_reported, rfl⟩ | ⟨event, reported, brings⟩
  · rw [none_reported]
    exact ⟨nofun, fun _ => rfl⟩
  · rw [reported, List.countP_singleton]
    exact ⟨fun halts => if_pos (brings.isHalt_iff.mpr halts),
      fun other => if_neg (mt brings.isHalt_iff.mp other)⟩

/-- The key that a resumption is about is in its register. -/
theorem Answers.stored {key : Key} {r : Register}
    (answers : m.Answers action outcome (some (.resumes key r))) :
    outcome.machine.cpu.registers.get r = UInt8.ofNat key.val := by
  cases answers with
  | resumed known awaits unfaulted awake still stored => exact stored

/-- A call that fails has no news but a halt. -/
theorem Answers.failure_eq (answers : m.Answers action outcome brought) {failure : Failure}
    (failed : outcome.failure = some failure) : outcome.events = [] ∨ brought = some .halts := by
  cases answers with
  | silent => exact .inl rfl
  | halted => exact .inr rfl
  | _ => cases failed

/-- The news is what becomes of the state that the machine runs in. -/
theorem Answers.standing (answers : m.Answers action outcome brought) :
    (brought = none → outcome.machine.cpu.standing = m.cpu.standing) ∧
      ∀ news, brought = some news → news.Turns m.cpu.standing outcome.machine.cpu.standing := by
  cases answers with
  | silent kept same_wait same_fault again =>
    exact ⟨fun _ => Cpu.standing_congr same_wait same_fault, nofun⟩
  | loaded program same_wait same_fault =>
    exact ⟨fun _ => Cpu.standing_congr same_wait same_fault, nofun⟩
  | restarted =>
    refine ⟨nofun, ?_⟩
    rintro _ ⟨⟩
    exact .restarts _
  | waited awake unfaulted r awaits still pc =>
    refine ⟨nofun, ?_⟩
    rintro _ ⟨⟩
    rw [Cpu.standing_of_unfaulted awake unfaulted, Cpu.standing_of_awaits awaits]
    exact .waits r
  | resumed known awaits unfaulted awake still stored =>
    refine ⟨nofun, ?_⟩
    rintro _ ⟨⟩
    rw [Cpu.standing_of_awaits awaits, Cpu.standing_of_unfaulted awake still]
    exact .resumes _ _
  | halted awake unfaulted still faulted pc =>
    refine ⟨nofun, ?_⟩
    rintro _ ⟨⟩
    rw [Cpu.standing_of_unfaulted awake unfaulted, Cpu.standing_of_fault still faulted]
    exact .halts

/-- Only a halt puts a fault where there was none, and only a reset takes one away. -/
theorem Answers.unfaulted_iff (answers : m.Answers action outcome brought)
    (kept : action ≠ .reset) :
    outcome.machine.cpu.fault = none ↔ m.cpu.fault = none ∧ brought ≠ some .halts := by
  cases answers with
  | silent _ _ same_fault _ => simp [same_fault]
  | loaded _ _ same_fault => simp [same_fault]
  | restarted => exact absurd rfl kept
  | waited _ unfaulted _ _ still _ => simp [unfaulted, still]
  | resumed _ _ unfaulted _ still _ => simp [unfaulted, still]
  | halted _ _ _ faulted _ => simp [faulted]

/-- **An action makes the news that its answer brings**, and no other. -/
theorem makes_iff (answers : m.Answers action (m.perform action) brought) {news : News} :
    m.Makes action news ↔ brought = some news := by
  unfold Makes
  generalize m.perform action = outcome at answers ⊢
  cases answers with
  | silent kept same_wait same_fault again =>
    simp only [reduceCtorEq, iff_false]
    cases news with
    | restarts => exact kept
    | waits r =>
      rintro ⟨_, awake, awaits⟩
      rw [same_wait, Cpu.awaitedRegister?_eq_none_iff.mpr awake] at awaits
      cases awaits
    | resumes key r =>
      rintro ⟨_, awaits, awake⟩
      rw [← same_wait, Cpu.awaitedRegister?_eq_none_iff.mpr awake] at awaits
      cases awaits
    | halts =>
      rintro ⟨ticks, unfaulted, error, raised⟩
      exact again error ticks raised unfaulted
  | loaded => cases news <;> simp
  | restarted => cases news <;> simp
  | waited awake unfaulted r awaits still pc =>
    cases news with
    | waits x =>
      constructor
      · rintro ⟨_, _, also⟩
        rw [Cpu.awaitedRegister?_inj awaits also]
      · rintro ⟨⟩
        exact ⟨rfl, awake, awaits⟩
    | _ => simp
  | resumed known awaits unfaulted awake still stored =>
    cases news with
    | resumes key x =>
      constructor
      · rintro ⟨⟨number, isDown, ⟨⟩, also_known⟩, also, _⟩
        cases known.symm.trans also_known
        rw [Cpu.awaitedRegister?_inj awaits also]
      · rintro ⟨⟩
        exact ⟨⟨_, _, rfl, known⟩, awaits, awake⟩
    | _ => simp
  | halted awake unfaulted still faulted pc =>
    cases news with
    | waits x => simp [Cpu.awaitedRegister?_eq_none_iff.mpr still]
    | halts => simp [unfaulted]
    | _ => simp

end Machine

end Chip8
