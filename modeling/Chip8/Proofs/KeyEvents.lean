import Chip8.Proofs.Reset
import Chip8.Proofs.Sticky

/-!
# Key events

The keypad is what the key events since the latest reset say: a key is where its last event has put
it, and up if it has had none (`lastEvent?`). No program, tick, failed call or wait has a part in it
(`Machine.keypad_perform`). While a machine does not wait, its key events reach nothing but the
keypad (`Machine.after_keyActions`), so those of different keys may change places
(`Machine.keypad_tells_last_events`). A machine that waits takes the first press for an answer, and
there the order counts.
-/

namespace Chip8

namespace Action

/-- Where an action puts a key, if it is an event of that key. -/
def eventOf (key : Key) : Action → Option Bool
  | .setKey number isDown => if number = key.val then some isDown else none
  | _ => none

/-- An action puts a key where its event says and leaves the others where they are. -/
theorem get_onKeypad (keypad : Keypad) (action : Action) (key : Key) :
    (action.onKeypad keypad).down.get key = (action.eventOf key).getD (keypad.down.get key) := by
  cases action with
  | setKey number isDown =>
    unfold onKeypad eventOf
    dsimp only
    cases known : Key.ofInt? number with
    | none =>
      have other : number ≠ key.val := fun same => by
        rw [Key.ofInt?_eq_some_iff.mpr same] at known
        cases known
      rw [if_neg other, Option.getD_none]
    | some pressed =>
      obtain rfl := Key.ofInt?_eq_some_iff.mp known
      show (keypad.set pressed isDown).down[key.val] = _
      rw [Keypad.getElem_set]
      by_cases same : pressed.val = key.val
      · rw [if_pos same, if_pos (congrArg Nat.cast same), Option.getD_some]
      · rw [if_neg same, if_neg (mt Int.ofNat_inj.mp same), Option.getD_none]
        rfl
  | _ => rfl

/-- **The last event of a key decides**; a key without one stays where it is. -/
theorem get_foldl_onKeypad (keypad : Keypad) (script : List Action) (key : Key) :
    (script.foldl onKeypad keypad).down.get key =
      (script.reverse.findSome? (eventOf key)).getD (keypad.down.get key) := by
  induction script generalizing keypad with
  | nil => rfl
  | cons action rest ih =>
    rw [List.foldl_cons, ih, get_onKeypad, List.reverse_cons, List.findSome?_append]
    cases rest.reverse.findSome? (eventOf key) with
    | none => rw [Option.none_or, List.findSome?_singleton, Option.getD_none]
    | some isDown => rfl

end Action

/-- What the last event of a key since the latest reset says. -/
def lastEvent? (script : List Action) (key : Key) : Option Bool :=
  (sinceReset script).reverse.findSome? (Action.eventOf key)

/-! ## What reaches the keypad -/

namespace Cpu

theorem keypad_tick (budget : Nat) (s : Cpu) : (s.tick budget).keypad = s.keypad := by
  apply tick_keeps (P := fun t => t.keypad = s.keypad)
  case clear => exact fun _ same => same
  case count => exact fun _ same => same
  case keep => exact fun t _ same => t.keypad_step.trans same
  case start => rfl

/-- A key event puts its key down or up, whether or not it ends a wait. -/
theorem keypad_keyEvent (s : Cpu) (key : Key) (isDown : Bool) :
    (s.keyEvent key isDown).keypad = s.keypad.set key isDown := by
  unfold keyEvent
  dsimp only
  split <;> rfl

end Cpu

namespace Machine

variable {m : Machine}

/-- **Only key events and resets reach the keypad.** -/
theorem keypad_perform (m : Machine) {action : Action} (kept : action ≠ .reset) :
    (m.perform action).machine.cpu.keypad = action.onKeypad m.cpu.keypad := by
  cases action with
  | load program => rw [perform, machine_load]; rfl
  | tick =>
    rw [perform, machine_tick]
    dsimp only
    split
    · exact Cpu.keypad_tick ..
    · rfl
  | setKey number isDown =>
    unfold perform Action.onKeypad
    dsimp only
    cases known : Key.ofInt? number with
    | none => rw [m.setKey_of_none known]
    | some key =>
      rw [(m.setKey_of_some known isDown).1]
      exact Cpu.keypad_keyEvent ..
  | reset => exact absurd rfl kept
  | setPc address =>
    unfold perform setPc
    dsimp only
    cases narrow? address <;> rfl

theorem keypad_after {script : List Action} (kept : ∀ action ∈ script, action ≠ .reset) :
    (m.after script).cpu.keypad = script.foldl Action.onKeypad m.cpu.keypad := by
  induction script generalizing m with
  | nil => rfl
  | cons action rest ih =>
    obtain ⟨kept_now, kept_later⟩ := List.forall_mem_cons.mp kept
    calc (m.after (action :: rest)).cpu.keypad
        = rest.foldl Action.onKeypad (m.perform action).machine.cpu.keypad := ih kept_later
      _ = (action :: rest).foldl Action.onKeypad m.cpu.keypad := by
        rw [keypad_perform m kept_now, List.foldl_cons]

/-- What was done before the latest reset is forgotten. -/
theorem get_keypad_after_start (config : Config) (script : List Action) (key : Key) :
    ((start config).after script).cpu.keypad.down.get key = (lastEvent? script key).getD false := by
  have fresh : ((start config).after (upToReset script)).cpu.keypad.down.get key = false := by
    rw [after_of_endsInReset config (endsInReset_upToReset script)]
    exact Vector.getElem_replicate key.isLt
  calc ((start config).after script).cpu.keypad.down.get key
      = (((start config).after (upToReset script)).after (sinceReset script)).cpu.keypad.down.get
          key := by
        rw [← after_append, upToReset_append_sinceReset]
    _ = (lastEvent? script key).getD false := by
      rw [keypad_after fun _ => ne_reset_of_mem_sinceReset, Action.get_foldl_onKeypad, fresh]
      rfl

/-! ## Key events in a row -/

/-- Key events as actions, each with the number of its key. -/
def keyActions (events : List (Int × Bool)) : List Action :=
  events.map fun event => .setKey event.1 event.2

/-- While a machine does not wait, key events reach its keypad only. -/
theorem after_keyActions (running : m.cpu.waiting = false) (events : List (Int × Bool)) :
    m.after (keyActions events) =
      { m with cpu :=
        { m.cpu with keypad := (keyActions events).foldl Action.onKeypad m.cpu.keypad } } := by
  induction events generalizing m with
  | nil => rfl
  | cons event rest ih =>
    have next : (m.perform (.setKey event.1 event.2)).machine =
        { m with cpu :=
          { m.cpu with
            keypad := (Action.setKey event.1 event.2).onKeypad m.cpu.keypad } } := by
      unfold perform Action.onKeypad
      dsimp only
      cases known : Key.ofInt? event.1 with
      | none => rw [m.setKey_of_none known]
      | some key => rw [(m.setKey_of_some known event.2).1, Cpu.keyEvent_of_running running]
    have still : (m.perform (.setKey event.1 event.2)).machine.cpu.waiting = false := by
      rw [next]
      exact running
    calc m.after (keyActions (event :: rest))
        = (m.perform (.setKey event.1 event.2)).machine.after (keyActions rest) := rfl
      _ = _ := by
        rw [ih still, next]
        rfl

/-- The last event of a key is told by the events of that key alone. -/
theorem findSome?_keyActions (events : List (Int × Bool)) (key : Key) :
    (keyActions events).reverse.findSome? (Action.eventOf key) =
      ((events.filter fun event => event.1 = (key.val : Int)).getLast?).map Prod.snd := by
  induction events using List.reverseRecOn with
  | nil => rfl
  | append_singleton events event ih =>
    have split : (keyActions (events ++ [event])).reverse =
        .setKey event.1 event.2 :: (keyActions events).reverse := by
      rw [keyActions, List.map_append, List.reverse_append]
      rfl
    have told : (Action.setKey event.1 event.2).eventOf key =
        if event.1 = (key.val : Int) then some event.2 else none := rfl
    rw [split, List.findSome?_cons, told, List.filter_append, List.filter_singleton]
    by_cases same : event.1 = (key.val : Int)
    · rw [if_pos same, decide_eq_true same, cond_true, List.getLast?_concat]
      rfl
    · rw [if_neg same, decide_eq_false same, cond_false, List.append_nil]
      exact ih

/-- **The keypad is what the last key events say.** After any script, a key is where its last event
since the latest reset has put it, and up if it has had none. An action that is neither a reset nor
an event of a key that there is leaves the keypad alone, whatever it runs and however it fails. And
from a machine that does not wait, two rows of key events that are the same for each key lead to the
same machine, however the events of different keys lie between each other and whatever calls for
keys that there are not lie between them. -/
theorem keypad_tells_last_events :
    (∀ (config : Config) (script : List Action) (key : Key),
      ((start config).after script).cpu.keypad.down.get key =
        (lastEvent? script key).getD false) ∧
    (∀ (m : Machine) (action : Action), action ≠ .reset →
      (∀ (key : Key) (isDown : Bool), action ≠ .setKey key.val isDown) →
        (m.perform action).machine.cpu.keypad = m.cpu.keypad) ∧
    ∀ m : Machine, m.cpu.waiting = false → ∀ first second : List (Int × Bool),
      (∀ key : Key, first.filter (fun event => event.1 = (key.val : Int)) =
        second.filter fun event => event.1 = (key.val : Int)) →
      m.after (keyActions first) = m.after (keyActions second) := by
  refine ⟨get_keypad_after_start, ?_, ?_⟩
  · intro m action kept no_event
    rw [keypad_perform m kept]
    apply Keypad.ext_get
    intro key
    have silent : action.eventOf key = none := by
      cases action with
      | setKey number isDown =>
        refine if_neg ?_
        rintro rfl
        exact no_event key isDown rfl
      | _ => rfl
    rw [action.get_onKeypad, silent, Option.getD_none]
  · intro m running first second alike
    have same_keypad : (keyActions first).foldl Action.onKeypad m.cpu.keypad =
        (keyActions second).foldl Action.onKeypad m.cpu.keypad := by
      apply Keypad.ext_get
      intro key
      rw [Action.get_foldl_onKeypad, Action.get_foldl_onKeypad, findSome?_keyActions,
        findSome?_keyActions, alike]
    rw [after_keyActions running, after_keyActions running, same_keypad]

/-- A key is pressed, a program waits for a key and is answered, another one fails, and a key is
released after a call for a key that there is not. On the running machine the events of three keys
change places; on the waiting one two presses may not. -/
theorem keypad_tells_last_events_around_wait :
    let m := (start .standard).after [.setKey 3 true, .load [0xF5, 0x0A, 0x00, 0xEE]]
    let script := [.setKey 3 true, .load [0xF5, 0x0A, 0x00, 0xEE], .tick, .setKey 9 true, .tick,
      .setKey 16 true, .setKey 3 false]
    let first := [(1, true), (2, true), (-1, true), (1, false), (4, true)]
    let second := [(2, true), (4, true), (1, true), (1, false)]
    (((start .standard).after script).cpu.keypad.down.get 9 = true ∧
      ((start .standard).after script).cpu.keypad.down.get 3 = false ∧
      ((start .standard).after script).tick.failure =
        some (.execution (.stackUnderflow 0x00EE))) ∧
    (∀ (key : Key) (isDown : Bool), Action.tick ≠ .setKey key.val isDown) ∧
      m.tick.machine.cpu.keypad = m.cpu.keypad ∧
    m.cpu.waiting = false ∧
      (∀ key : Key, first.filter (fun event => event.1 = (key.val : Int)) =
        second.filter fun event => event.1 = (key.val : Int)) ∧
      m.after (keyActions first) = m.after (keyActions second) ∧
      (m.tick.machine.after (keyActions [(1, true), (2, true)])).cpu.registers.get 5 ≠
        (m.tick.machine.after (keyActions [(2, true), (1, true)])).cpu.registers.get 5 := by
  intro m script first second
  obtain ⟨last, silent, reorder⟩ := keypad_tells_last_events
  have failed : ((start .standard).after script).tick.failure =
      some (.execution (.stackUnderflow 0x00EE)) := by
    decide +kernel
  have no_event : ∀ (key : Key) (isDown : Bool), Action.tick ≠ .setKey key.val isDown := nofun
  have running : m.cpu.waiting = false := by decide +kernel
  have alike : ∀ key : Key, first.filter (fun event => event.1 = (key.val : Int)) =
      second.filter fun event => event.1 = (key.val : Int) := by
    decide +kernel
  have ordered : (m.tick.machine.after (keyActions [(1, true), (2, true)])).cpu.registers.get 5 ≠
      (m.tick.machine.after (keyActions [(2, true), (1, true)])).cpu.registers.get 5 := by
    decide +kernel
  clear_value m
  refine ⟨⟨(last .standard script 9).trans ?_, (last .standard script 3).trans ?_, failed⟩,
    no_event, silent m .tick nofun no_event, running, alike, reorder m running first second alike,
    ordered⟩
  · decide +kernel
  · decide +kernel

end Machine

end Chip8
