import QuadPort.Bench
import QuadPort.Board.Kernel
import QuadPort.Board.Line
import QuadPort.Board.Spi
import QuadPort.Board.Wiring
import QuadPort.Channel
import QuadPort.Checksum
import QuadPort.CommandLine
import QuadPort.Config
import QuadPort.Device
import QuadPort.Device.Channels
import QuadPort.Device.Lifecycle
import QuadPort.Device.Operation
import QuadPort.Device.Snapshot
import QuadPort.Error
import QuadPort.Frame
import QuadPort.Link
import QuadPort.Log
import QuadPort.Log.Condition
import QuadPort.Log.Daily
import QuadPort.Log.Filter
import QuadPort.Log.Pattern
import QuadPort.Log.Pattern.Atom
import QuadPort.Log.Pattern.CharacterSet
import QuadPort.Monitor
import QuadPort.Number.Binary64
import QuadPort.Number.Shortest
import QuadPort.Proofs.Board.Interchange
import QuadPort.Proofs.Board.Pin
import QuadPort.Proofs.Checksum.Linear
import QuadPort.Proofs.Checksum.Remainder
import QuadPort.Proofs.Checksum.Residue
import QuadPort.Proofs.Checksum.Window
import QuadPort.Proofs.Config.Rules
import QuadPort.Proofs.Conversation
import QuadPort.Proofs.Lifecycle
import QuadPort.Proofs.Lifecycle.Moves
import QuadPort.Proofs.Lifecycle.Release
import QuadPort.Proofs.Monitor
import QuadPort.Proofs.Program
import QuadPort.Proofs.Program.DeadBus
import QuadPort.Proofs.Program.Legible
import QuadPort.Proofs.Program.Life
import QuadPort.Proofs.Program.Refused
import QuadPort.Proofs.Program.Turn
import QuadPort.Proofs.Register.Bit
import QuadPort.Proofs.Script
import QuadPort.Proofs.Script.Exact
import QuadPort.Proofs.Script.Look
import QuadPort.Proofs.Script.Opening
import QuadPort.Proofs.Script.Operation
import QuadPort.Proofs.Script.Task
import QuadPort.Proofs.Simulator.Access
import QuadPort.Proofs.Simulator.BringUp
import QuadPort.Proofs.Simulator.Cable
import QuadPort.Proofs.Simulator.Change
import QuadPort.Proofs.Simulator.Channels
import QuadPort.Proofs.Simulator.Disrupted
import QuadPort.Proofs.Simulator.Dropped
import QuadPort.Proofs.Simulator.Faults
import QuadPort.Proofs.Simulator.Flip
import QuadPort.Proofs.Simulator.FlippedUpdate
import QuadPort.Proofs.Simulator.Impaired
import QuadPort.Proofs.Simulator.Indexed
import QuadPort.Proofs.Simulator.Levels
import QuadPort.Proofs.Simulator.Limited
import QuadPort.Proofs.Simulator.Operation
import QuadPort.Proofs.Simulator.Panel
import QuadPort.Proofs.Simulator.Quiet
import QuadPort.Proofs.Simulator.QuietLife
import QuadPort.Proofs.Simulator.RegisterFile
import QuadPort.Proofs.Simulator.Registers
import QuadPort.Proofs.Simulator.Script
import QuadPort.Proofs.Simulator.Tasks
import QuadPort.Proofs.Simulator.Traffic
import QuadPort.Proofs.Simulator.Wired
import QuadPort.Proofs.Trace
import QuadPort.Proofs.Trace.Played
import QuadPort.Proofs.Trace.Twin
import QuadPort.Proofs.Wire.Access
import QuadPort.Proofs.Wire.Damage
import QuadPort.Proofs.Wire.Frames
import QuadPort.Proofs.Wire.Legible
import QuadPort.Register.Field
import QuadPort.Register.Map
import QuadPort.Simulator
import QuadPort.SystemError
import QuadPort.Text.CodePoints
import QuadPort.Text.Hex
import QuadPort.Text.Letter
import QuadPort.Text.Quoted
import QuadPort.Text.Space
import QuadPort.Text.Visible
import QuadPort.Toml.Decode
import QuadPort.Toml.Document
import QuadPort.Toml.Excerpt
import QuadPort.Toml.Lexeme
import QuadPort.Toml.Literal
import QuadPort.Toml.Statement
import QuadPort.Toml.Value
import QuadPort.Main
import QuadPort.Proofs.Simulator.SetUp
import QuadPort.Proofs.Monitor.Accepted
import QuadPort.Proofs.Config.Spelling
