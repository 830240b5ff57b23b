import LaptopDriver.Program.Basic
import LaptopDriver.Program.Execution
import LaptopDriver.Log.Record
import LaptopDriver.Controller.Register
import LaptopDriver.Controller.Request
import LaptopDriver.Chipset.Request
import LaptopDriver.Hotkey.Event
import LaptopDriver.Request
import LaptopDriver.Thermal.FanMode
import LaptopDriver.Routine
import LaptopDriver.Display.Output
import LaptopDriver.Display.Backlight
import LaptopDriver.InterruptLine
import LaptopDriver.Hotkey.Keymap
import LaptopDriver.Thermal.Fan
import LaptopDriver.Supply.Battery
import LaptopDriver.Hotkey.History
import LaptopDriver.Hotkey.Response
import LaptopDriver.Laptop.Basic
import LaptopDriver.Laptop.Reading
import LaptopDriver.Laptop.Run
import LaptopDriver.MachineCode.Basic
import LaptopDriver.MachineCode.Condensed
import LaptopDriver.MachineCode.Library
import LaptopDriver.Machine.Basic
import LaptopDriver.Machine.Change
import LaptopDriver.Proofs.Program.Asks
import LaptopDriver.Proofs.Input.ReportUnit
import LaptopDriver.Proofs.Topic.Basic
import LaptopDriver.Proofs.Phase
import LaptopDriver.Proofs.Topic.Routines
import LaptopDriver.Proofs.Machine.Frame
import LaptopDriver.Proofs.Trace
import LaptopDriver.Proofs.Transition
import LaptopDriver.Proofs.Hotkey.Serve
import LaptopDriver.Proofs.Hotkey.Verdict
import LaptopDriver.Proofs.Hotkey.Course
import LaptopDriver.Proofs.Hotkey.Accounting
import LaptopDriver.Proofs.Hotkey.Stale
import LaptopDriver.Proofs.Display.Command
import LaptopDriver.Proofs.Display.Switching
import LaptopDriver.Proofs.Display.LastCommand
import LaptopDriver.Proofs.Display.Independence
import LaptopDriver.Proofs.Hotkey.Report
import LaptopDriver.Proofs.Hotkey.Notification
import LaptopDriver.Proofs.Display.Port
import LaptopDriver.Proofs.Hotkey.Level
import LaptopDriver.Proofs.Display.Rotation
import LaptopDriver.Proofs.Controller.FirmwareOrder
import LaptopDriver.Proofs.Display.FirmwareGate
import LaptopDriver.Proofs.Machine.Register
import LaptopDriver.Proofs.Hotkey.BrightnessKey
import LaptopDriver.Proofs.Program.Moment
import LaptopDriver.Proofs.Machine.Permit
import LaptopDriver.Proofs.Machine.Envelope
import LaptopDriver.Proofs.CriticalSection.Discipline
import LaptopDriver.Proofs.InterruptLine.Agreement
import LaptopDriver.Proofs.InterruptLine.Failure
import LaptopDriver.Proofs.Machine.Modify
import LaptopDriver.Proofs.Sleep.Held
import LaptopDriver.Proofs.Sleep.Absorption
import LaptopDriver.Proofs.MachineCode.Execution
import LaptopDriver.Proofs.MachineCode.Linking
import LaptopDriver.Proofs.Reading.Interleaving
import LaptopDriver.Proofs.Machine.Writing
import LaptopDriver.Proofs.Display.Brightness
import LaptopDriver.Proofs.Loading.Footprint
import LaptopDriver.Proofs.InterruptLine.Routing
import LaptopDriver.Proofs.Reading.Contents
import LaptopDriver.Proofs.Supply.Arithmetic
import LaptopDriver.Proofs.Supply.Figures
import LaptopDriver.Proofs.Supply.Verdict
import LaptopDriver.Proofs.Supply.Presence
import LaptopDriver.Proofs.Thermal.Mode
import LaptopDriver.Proofs.Thermal.Running
import LaptopDriver.Proofs.Supply.Condition
import LaptopDriver.Proofs.Program.Budget
import LaptopDriver.Proofs.Hotkey.Promptness
import LaptopDriver.Proofs.MachineCode.RegisterWord
