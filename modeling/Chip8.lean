import Chip8.Alu
import Chip8.CallStack
import Chip8.CommandLine.Abort
import Chip8.CommandLine.Argument
import Chip8.CommandLine.Options
import Chip8.CommandLine.Report
import Chip8.CommandLine.Switch
import Chip8.CommandLine.UsageError
import Chip8.Config
import Chip8.Cpu
import Chip8.Cpu.Execute
import Chip8.Cpu.Input
import Chip8.Fault
import Chip8.FileTree
import Chip8.Font
import Chip8.Instruction
import Chip8.Keypad
import Chip8.Log.Clock
import Chip8.Log.Event
import Chip8.Log.Level
import Chip8.Log.Logger
import Chip8.Machine
import Chip8.Main
import Chip8.Memory
import Chip8.Picture
import Chip8.Picture.Frame
import Chip8.Proofs.Action
import Chip8.Proofs.Arithmetic
import Chip8.Proofs.Atomic
import Chip8.Proofs.CallStack
import Chip8.Proofs.Cause
import Chip8.Proofs.Cipher
import Chip8.Proofs.Conservation
import Chip8.Proofs.Decode
import Chip8.Proofs.Drawing
import Chip8.Proofs.Draws
import Chip8.Proofs.Effect
import Chip8.Proofs.Footprint
import Chip8.Proofs.Invariant
import Chip8.Proofs.KeyEvents
import Chip8.Proofs.Legible
import Chip8.Proofs.Load
import Chip8.Proofs.Mode
import Chip8.Proofs.Nesting
import Chip8.Proofs.News
import Chip8.Proofs.Overrun
import Chip8.Proofs.Pixels
import Chip8.Proofs.Reassembly
import Chip8.Proofs.Redraw
import Chip8.Proofs.Rendering
import Chip8.Proofs.Report
import Chip8.Proofs.Run
import Chip8.Proofs.Script
import Chip8.Proofs.Seed
import Chip8.Proofs.Skipping
import Chip8.Proofs.Split
import Chip8.Proofs.StackCalls
import Chip8.Proofs.Sticky
import Chip8.Proofs.Stray
import Chip8.Proofs.Tick
import Chip8.Proofs.Timers
import Chip8.Proofs.Transcript
import Chip8.Proofs.Transfer
import Chip8.Proofs.Undefined
import Chip8.Proofs.Verbosity
import Chip8.Proofs.Wait
import Chip8.Proofs.Watch
import Chip8.Proofs.Window
import Chip8.Random
import Chip8.Screen
import Chip8.Session
import Chip8.Text.Character
import Chip8.Text.Numeral
import Chip8.Text.Pieces
import Chip8.Word
