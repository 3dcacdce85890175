import Chip8.Config
import Chip8.Cpu.Input
import Chip8.Cpu.Execute
import Chip8.Log.Event
import Chip8.Word

/-!
# The machine

A machine is a processor under a configuration, driven from outside by actions: load a program, run
a tick, press or release a key, reset, move the program counter. An action answers with the machine
afterwards, the events it reports and a failure if it fails (`Machine.perform`).

A fault is reported once; every later tick fails with it again and changes nothing.
-/

namespace Chip8

/-- A machine. -/
structure Machine where
  config : Config
  /-- The random key that the next reset splits. -/
  seedKey : Random.Key
  cpu : Cpu

/-- What a driver does to a machine. -/
inductive Action where
  | load (program : List Int)
  | tick
  | setKey (key : Int) (isDown : Bool)
  | reset
  | setPc (address : Int)
deriving DecidableEq

/-- What an action leads to. -/
structure Outcome where
  machine : Machine
  events : List Log.Event
  failure : Option Failure

namespace Machine

/-- An outcome of an action that succeeds. -/
def succeed (m : Machine) (events : List Log.Event) : Outcome := ⟨m, events, none⟩

/-- An outcome of an action that fails before it does anything. -/
def fail (m : Machine) (failure : Failure) : Outcome := ⟨m, [], some failure⟩

/-- A machine with a fresh processor; the key is split between the two. -/
def boot (config : Config) (key : Random.Key) : Machine :=
  ⟨config, key.next, Cpu.create key.spare config.font config.strict⟩

/-- The event of a reset. -/
def resetEvent (config : Config) : Log.Event := .reset config.budget config.strict

/-- The machine at the start. -/
def start (config : Config) : Machine := boot config (Random.Key.ofSeed config.seed)

/-- Starts the machine again with the next random key. -/
def reset (m : Machine) : Outcome := (boot m.config m.seedKey).succeed [resetEvent m.config]

/-- Loads a program; all else is left as it is. -/
def load (m : Machine) (program : List Int) : Outcome :=
  match m.cpu.load program with
  | .error failure => m.fail failure
  | .ok cpu => { m with cpu := cpu }.succeed [.loaded program.length Memory.programStart]

/-- Records a key event. -/
def setKey (m : Machine) (key : Int) (isDown : Bool) : Outcome :=
  match m.cpu.setKey key isDown with
  | .error failure => m.fail failure
  | .ok cpu =>
    { m with cpu := cpu }.succeed <|
      if m.cpu.waiting && !cpu.waiting then [.keyStored key m.cpu.keyRegister.toNat] else []

/-- What a tick that left behind the processor `cpu` leads to. -/
def settle (m : Machine) (cpu : Cpu) : Outcome :=
  let next := { m with cpu := cpu }
  match cpu.error? with
  | some error =>
    let report := .halted error.message (some cpu.pc.toNat)
    ⟨next, if m.cpu.fault.isSome then [] else [report], some (.execution error)⟩
  | none =>
    next.succeed <|
      if cpu.waiting then [.awaitingKey cpu.keyRegister.toNat cpu.pc.toNat] else []

/-- Runs one tick. A machine that waits for a key does nothing. -/
def tick (m : Machine) : Outcome :=
  if m.cpu.waiting then m.succeed []
  else
    match m.cpu.checkedTick m.config.budget with
    | .error failure => m.fail failure
    | .ok cpu => m.settle cpu

/-- Moves the program counter to an address modulo 65536. -/
def setPc (m : Machine) (address : Int) : Outcome :=
  match narrow? address with
  | none => m.fail (.tooWide address)
  | some pc => { m with cpu := { m.cpu with pc := pc } }.succeed []

/-- Performs an action. -/
def perform (m : Machine) : Action → Outcome
  | .load program => m.load program
  | .tick => m.tick
  | .setKey key isDown => m.setKey key isDown
  | .reset => m.reset
  | .setPc address => m.setPc address

/-- The machine after a script of actions, whether they fail or not. -/
def after (m : Machine) (script : List Action) : Machine :=
  script.foldl (fun m action => (m.perform action).machine) m

end Machine

end Chip8
