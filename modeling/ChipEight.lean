import ChipEight.CallStack
import ChipEight.Console.Controls
import ChipEight.Console.Exchange
import ChipEight.Console.Keypad
import ChipEight.Console.Script
import ChipEight.Engine.Advance
import ChipEight.Engine.Basic
import ChipEight.Engine.Clock
import ChipEight.Engine.Session
import ChipEight.Engine.Step
import ChipEight.Fault
import ChipEight.Font
import ChipEight.Frame.Basic
import ChipEight.Frame.Rgb
import ChipEight.Host.Key
import ChipEight.Host.Screen
import ChipEight.Host.Seat
import ChipEight.Host.Show
import ChipEight.Instruction.Basic
import ChipEight.Instruction.Encoding
import ChipEight.Instruction.Mnemonic
import ChipEight.Instruction.RoundTrip
import ChipEight.Listing
import ChipEight.Log.Filter
import ChipEight.Log.Level
import ChipEight.Log.Record
import ChipEight.Log.Remark
import ChipEight.Machine.Basic
import ChipEight.Machine.Execute
import ChipEight.Main
import ChipEight.Memory
import ChipEight.Pattern.Basic
import ChipEight.Pattern.Bracket
import ChipEight.Pattern.CodeSet
import ChipEight.Pattern.Complaint
import ChipEight.Pattern.Cursor
import ChipEight.Pattern.Encoded
import ChipEight.Pattern.Escape
import ChipEight.Pattern.Finder
import ChipEight.Pattern.Group
import ChipEight.Pattern.Interval
import ChipEight.Pattern.Meaning
import ChipEight.Pattern.Property
import ChipEight.Pattern.Reader
import ChipEight.Pattern.Search
import ChipEight.Pattern.Shape
import ChipEight.Pattern.Size
import ChipEight.Pattern.Span
import ChipEight.Processor
import ChipEight.Program.Arguments
import ChipEight.Program.Launch
import ChipEight.Proofs.Checked.Clock
import ChipEight.Proofs.Checked.Frame
import ChipEight.Proofs.Checked.Machine
import ChipEight.Proofs.Checked.Register
import ChipEight.Proofs.Checked.RegisterFile
import ChipEight.Proofs.Checked.Session
import ChipEight.Proofs.Checked.Texture
import ChipEight.Proofs.Console.Conversation
import ChipEight.Proofs.Console.Keypad
import ChipEight.Proofs.Console.Picture
import ChipEight.Proofs.Console.Tone
import ChipEight.Proofs.Console.Wait
import ChipEight.Proofs.Host.Account
import ChipEight.Proofs.Host.Failures
import ChipEight.Proofs.Host.Feed
import ChipEight.Proofs.Host.History
import ChipEight.Proofs.Host.Keyboard
import ChipEight.Proofs.Host.Opening
import ChipEight.Proofs.Host.Quit
import ChipEight.Proofs.Host.Turns
import ChipEight.Proofs.Host.WindDown
import ChipEight.Proofs.Host.Window
import ChipEight.Proofs.Instruction.Assembly
import ChipEight.Proofs.Instruction.Fields
import ChipEight.Proofs.Instruction.Forms
import ChipEight.Proofs.Machine.Arithmetic
import ChipEight.Proofs.Machine.Destination
import ChipEight.Proofs.Machine.Effects
import ChipEight.Proofs.Machine.Footprint
import ChipEight.Proofs.Machine.Latest
import ChipEight.Proofs.Machine.Listing
import ChipEight.Proofs.Machine.Requests
import ChipEight.Proofs.Machine.Saving
import ChipEight.Proofs.Machine.Stores
import ChipEight.Proofs.Picture.Overlay
import ChipEight.Proofs.Picture.Raster
import ChipEight.Proofs.Picture.Sprite
import ChipEight.Proofs.Picture.Texture
import ChipEight.Proofs.Schedule.Accuracy
import ChipEight.Proofs.Schedule.Beats
import ChipEight.Proofs.Schedule.Due
import ChipEight.Proofs.Schedule.Lapse
import ChipEight.Proofs.Schedule.Rounds
import ChipEight.Proofs.Schedule.Timetable
import ChipEight.Proofs.Session.Accounts
import ChipEight.Proofs.Session.Atomicity
import ChipEight.Proofs.Session.Calls
import ChipEight.Proofs.Session.Causes
import ChipEight.Proofs.Session.Clocks
import ChipEight.Proofs.Session.Destination
import ChipEight.Proofs.Session.Faults
import ChipEight.Proofs.Session.Footprint
import ChipEight.Proofs.Session.Halted
import ChipEight.Proofs.Session.Ledger
import ChipEight.Proofs.Session.Loading
import ChipEight.Proofs.Session.Moves
import ChipEight.Proofs.Session.Outcome
import ChipEight.Proofs.Session.Randomness
import ChipEight.Proofs.Session.Reachable
import ChipEight.Proofs.Session.Reassembly
import ChipEight.Proofs.Session.Report
import ChipEight.Proofs.Session.Run
import ChipEight.Proofs.Session.Setting
import ChipEight.Proofs.Session.Storing
import ChipEight.Proofs.Session.Talk
import ChipEight.Proofs.Session.Telling
import ChipEight.Proofs.Session.Trace
import ChipEight.Proofs.Snapshot.Report
import ChipEight.Proofs.Snapshot.Window
import ChipEight.Proofs.Text.Hex
import ChipEight.Proofs.Text.Lines
import ChipEight.Random.Block
import ChipEight.Random.Generator
import ChipEight.Random.Seed
import ChipEight.Snapshot
import ChipEight.Text.Blank
import ChipEight.Text.Hex
import ChipEight.Text.Letter
import ChipEight.Timers
