import LaptopDriver.Routine

/-!
# The interrupt line of the embedded controller

The controller signals an event on a general-purpose pin of the chipset. Before the pin can raise an
interrupt it has to be routed: three model-specific registers select the interrupt group of the
pin's virtual line, and three control ports make the pin an inverted input that signals events. The
chipset forgets all this when the machine is suspended.

The model-specific registers are shared with other code, so they are changed with interrupts off.

* `flush` takes one event out of the controller, so that one from before is not mistaken for new.
* `route` routes the line, given the address of the pin's control ports; `routeAtBase` looks that
  address up first.
* `arm` does all of it: it looks the address up, flushes, lets the controller settle, and routes.
* `rearm` does the same after a sleep. It waits one millisecond at a time, so that whoever else
  needs the driver never waits for the whole delay, and it looks the address up last.

Arming fails only when the flush does, and then routes nothing.
-/

namespace LaptopDriver.InterruptLine

open Controller Chipset

/-! ### Routing registers -/

/-- The offset of the base address register of the general-purpose pins. -/
def baseAddressOffset : MsrNumber := 0x0C

/-- The register that holds the base address of the general-purpose pins' control ports. -/
def baseAddress : MsrNumber := 0x51400000 ||| baseAddressOffset

/-- The primary routing of the virtual lines. -/
def primaryRouting : MsrNumber := 0x80000024

/-- The routing of the virtual lines to the low-pin-count bus. -/
def busRouting : MsrNumber := 0x80000025

/-- The interrupt group of the virtual lines. -/
def groupSelect : MsrNumber := 0x80000023

/-- The bit of the virtual line onto which the controller's pin is mapped, bit 10. -/
def virtualLine : UInt32 := 0x400

/-- The interrupt group to which the line is routed. -/
def interruptGroup : UInt32 := 0x0A

/-! ### Pin control ports -/

/-- The bit of the controller's pin in a control port, bit 11. -/
def pin : UInt32 := 0x800

/-- The control port that makes pins inputs, relative to the base address. -/
def inputEnable : Port := 0xA0

/-- The control port that inverts inputs, relative to the base address. -/
def inputInvert : Port := 0xA4

/-- The control port that makes inputs signal events, relative to the base address. -/
def eventEnable : Port := 0xB8

/-- The address of the control ports, from the contents of the base address register. -/
def portBase (contents : MsrContents) : Port :=
  (contents.low &&& 0xFF00).toUInt16

/-! ### Routines -/

/-- The delay between flushing and routing when nothing else is asked for, in milliseconds. -/
def defaultSettleTime : Nat := 20

/-- Look up the address of the pins' control ports. -/
def lookUpBase : Routine Port := do
  let contents ← Routine.readMsr baseAddress
  pure (portBase contents)

/-- Route the line, given the address of the pins' control ports. -/
def route (base : Port) : Routine Unit := do
  Routine.withoutInterrupts do
    Routine.modifyMsr primaryRouting (·.clearLow virtualLine)
    Routine.modifyMsr busRouting (·.clearLow virtualLine)
    Routine.modifyMsr groupSelect (·.setLow interruptGroup)
  Routine.writePortWide (base ||| inputEnable) pin
  Routine.writePortWide (base ||| inputInvert) pin
  Routine.writePortWide (base ||| eventEnable) pin
  Routine.log (.lineRouted base)

/-- Look up the address of the pins' control ports and route the line. -/
def routeAtBase : Routine Unit := do
  let base ← lookUpBase
  route base

/-- Take one event out of the controller. -/
def flush : Routine (Except Fault Unit) :=
  Routine.query

/-- Make the line ready to raise interrupts when the driver is loaded; `settleTime` is in
milliseconds. -/
def arm (settleTime : Nat) : Routine (Except Fault Unit) := do
  let base ← lookUpBase
  match ← flush with
  | .error fault => pure (.error fault)
  | .ok () =>
    Routine.delay settleTime
    route base
    pure (.ok ())

/-- Make the line ready to raise interrupts after a sleep; `settleTime` is in milliseconds. -/
def rearm (settleTime : Nat) : Routine (Except Fault Unit) := do
  match ← flush with
  | .error fault => pure (.error fault)
  | .ok () =>
    Program.times settleTime (Routine.delay 1)
    routeAtBase
    pure (.ok ())

end LaptopDriver.InterruptLine
