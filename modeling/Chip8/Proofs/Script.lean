import Chip8.Proofs.Action
import Chip8.Session
import Mathlib.Data.List.DropRight

/-!
# Scripts

A script is a history of actions. Besides the machine after it, a script has the failures of its
actions, the states that its ticks take a step from, and a last stretch: the actions since the
latest reset.
-/

namespace Chip8

/-- The actions of a script after its latest reset; all of them if there is none. -/
def sinceReset (script : List Action) : List Action := script.rtakeWhile fun action => action ≠ .reset

theorem sinceReset_concat (script : List Action) (action : Action) :
    sinceReset (script ++ [action]) =
      if action = .reset then [] else sinceReset script ++ [action] := by
  simp only [sinceReset, List.rtakeWhile_concat, decide_eq_true_eq]
  split <;> simp_all

namespace Machine

/-- The actions of a script, each with the machine that it is performed on. -/
def calls (m : Machine) : List Action → List (Machine × Action)
  | [] => []
  | action :: rest => (m, action) :: (m.perform action).machine.calls rest

/-- How each action of a script failed, if it did. -/
def failures (m : Machine) : List Action → List (Option Failure)
  | [] => []
  | action :: rest => (m.perform action).failure :: (m.perform action).machine.failures rest

/-- The states that an action takes a step from. Only ticks take steps, and none when their budget is
refused. -/
def trail (m : Machine) : Action → List Cpu
  | .tick => if isInt32 m.config.budget then m.cpu.tickTrail m.config.budget else []
  | _ => []

/-- The states that the actions of a script take a step from, in order. -/
def trailOf (m : Machine) : List Action → List Cpu
  | [] => []
  | action :: rest => m.trail action ++ (m.perform action).machine.trailOf rest

theorem after_append (m : Machine) (first second : List Action) :
    m.after (first ++ second) = (m.after first).after second := by
  rw [after, after, after, List.foldl_append]

theorem after_concat (m : Machine) (script : List Action) (action : Action) :
    m.after (script ++ [action]) = ((m.after script).perform action).machine := by
  rw [after_append]
  rfl

theorem trailOf_append (m : Machine) (first second : List Action) :
    m.trailOf (first ++ second) = m.trailOf first ++ (m.after first).trailOf second := by
  induction first generalizing m with
  | nil => rfl
  | cons action rest ih =>
    rw [List.cons_append, trailOf, trailOf, ih, List.append_assoc]
    rfl

/-- **What every action keeps, a script keeps.** -/
theorem after_keeps {P : Machine → Prop} (keep : ∀ m action, P m → P (m.perform action).machine)
    {m : Machine} (start : P m) (script : List Action) : P (m.after script) := by
  induction script generalizing m with
  | nil => exact start
  | cons action rest ih => exact ih (keep m action start)

/-- A script leaves the configuration as it was. -/
@[simp]
theorem config_after (m : Machine) (script : List Action) : (m.after script).config = m.config :=
  after_keeps (P := fun t => t.config = m.config)
    (fun t action same => (config_perform t action).trans same) rfl script

end Machine

namespace Session

/-- How a session starts when its settings pass all checks. -/
theorem start_of_valid {settings : Settings} {stamped : Bool} {clock : Log.Clock}
    {logger : Log.Logger} {config : Config}
    (labelled : Log.Logger.create { level := settings.logLevel, stamped := stamped } false clock =
      .ok logger)
    (valid : settings.validate = .ok config) (accepted : Random.isSeed config.seed = true) :
    let logged := (Log.Journal.ofLogger logger).recordAll [Machine.resetEvent config]
    start settings stamped clock = .ok (⟨Machine.start config, logged.2⟩, logged.1) := by
  unfold start
  rw [labelled, valid]
  exact if_pos accepted

/-- The session after a script of actions, whether they fail or not. -/
def after (s : Session) (script : List Action) : Session :=
  script.foldl (fun s action => (s.perform action).1) s

/-- A session runs its machine as the machine alone would run. -/
theorem machine_after (s : Session) (script : List Action) :
    (s.after script).machine = s.machine.after script := by
  induction script generalizing s with
  | nil => rfl
  | cons action rest ih => exact ih (s.perform action).1

end Session

end Chip8
