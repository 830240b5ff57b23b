import LaptopDriver.Proofs.Phase
import LaptopDriver.Proofs.Topic.Basic

/-!
# What the routines of the driver are about

One fact for every routine of the driver: the topics it is within. A routine that is made of others
gets its topics from theirs, so that a routine that changes is looked into once. Two boundaries of
the design can be read off:

* only arming the interrupt line is about the routing of interrupts, and only arming and the
  interrupt handler are about the queue of events;
* a reading only reads registers (`Reading.within_take`), and responding to an event is never
  about the queue or the routing (`Hotkey.within_respond`).
-/

namespace LaptopDriver

open Routine

/-! ### Single questions -/

namespace Routine

theorem within_read (register : Controller.Register) :
    Within [.reading] (Routine.read register) := by
  simp [Program.send]

theorem within_olderThan (version : Controller.FirmwareVersion) :
    Within [.firmware] (olderThan version) := by
  simp [olderThan]

theorem within_suppliesRegistered : Within [.supply] suppliesRegistered := by
  simp [Program.send]

theorem within_delay (milliseconds : Nat) : Within [.routing] (delay milliseconds) := by
  simp [Program.send]

theorem within_log (record : Log.Record) : Within [.dispatch, .note] (log record) := by
  cases record <;> simp [Program.send]

end Routine

/-! ### Fan -/

namespace Thermal

theorem Fan.within_setMode (mode : FanMode) : Within [.writing] (Fan.setMode mode) := by
  cases mode <;> simp [Fan.setMode, Program.send]

theorem Fan.within_setLevel (request : Nat) :
    Within [.reading, .writing, .note] (Fan.setLevel request) := by
  simp [Fan.setLevel, Program.send]

theorem Fan.within_mode : Within [.reading] Fan.mode := by
  simp [Fan.mode]

theorem Fan.within_level : Within [.reading] Fan.level :=
  within_read _

theorem Fan.within_speed : Within [.reading] Fan.speed := by
  simp [Fan.speed, readPair, Program.send]

theorem within_processorTemperature : Within [.reading] processorTemperature := by
  simp [processorTemperature]

theorem within_batteryAlarm : Within [.reading] batteryAlarm := by
  simp [batteryAlarm]

end Thermal

/-! ### Backlight and video outputs -/

namespace Display

theorem Backlight.within_currentLevel : Within [.reading] Backlight.currentLevel :=
  within_read _

theorem Backlight.within_update (backlight : Backlight) (request : BrightnessRequest) :
    Within [.reading, .writing, .note] (backlight.update request) := by
  simp [Backlight.update, Backlight.currentLevel]

theorem Backlight.within_adopt : Within [.reading, .writing, .note] Backlight.adopt :=
  (within_currentLevel.mono (by simp)).bind fun _ ↦ within_update _ _

theorem Output.within_switch (output : Output) (on : Bool) : Within [.port] (output.switch on) := by
  simp [Output.switch, Program.send]

theorem Outputs.within_switch (outputs : Outputs) : Within [.port] outputs.switch :=
  (Output.within_switch _ _).bind fun _ ↦ Output.within_switch _ _

end Display

/-! ### Interrupt line -/

namespace InterruptLine

theorem within_lookUpBase : Within [.routing] lookUpBase := by
  simp [lookUpBase]

theorem within_route (base : Chipset.Port) : Within [.routing, .note] (route base) := by
  simp [route, withoutInterrupts, Program.between, modifyMsr, Program.send]

theorem within_routeAtBase : Within [.routing, .note] routeAtBase :=
  (within_lookUpBase.mono (by simp)).bind within_route

theorem within_arm (settleTime : Nat) : Within [.queue, .routing, .note] (arm settleTime) := by
  refine (within_lookUpBase.mono (by simp)).bind fun base ↦ ?_
  refine Within.bind (by simp [flush, Program.send]) fun answer ↦ ?_
  cases answer with
  | error fault => trivial
  | ok =>
    refine Within.bind ((within_delay settleTime).mono (by simp)) fun _ ↦ ?_
    exact ((within_route base).mono (by simp)).bind fun _ ↦ trivial

theorem within_rearm (settleTime : Nat) : Within [.queue, .routing, .note] (rearm settleTime) := by
  refine Within.bind (by simp [flush, Program.send]) fun answer ↦ ?_
  cases answer with
  | error fault => trivial
  | ok =>
    refine (((within_delay 1).times settleTime).mono (by simp)).bind fun _ ↦ ?_
    exact (within_routeAtBase.mono (by simp)).bind fun _ ↦ trivial

end InterruptLine

/-! ### Input -/

namespace Input

theorem within_tap (key : Key) : Within [.input] (tap key) := by
  simp [tap, Program.send]

theorem within_reportLid (status : Int) : Within [.input] (reportLid status) := by
  simp [reportLid, Program.send]

end Input

/-! ### Readings -/

namespace Supply

theorem within_mainsOnline : Within [.reading] mainsOnline := by
  simp [mainsOnline]

theorem within_batteryPresent : Within [.reading] batteryPresent := by
  simp [batteryPresent, batteryStatus]

theorem within_quantity (pair : Controller.RegisterPair) : Within [.reading] (quantity pair) := by
  simp [quantity, readPair]

theorem within_batteryCurrent : Within [.reading] batteryCurrent := by
  simp [batteryCurrent, readPair]

theorem within_batteryTemperature : Within [.reading] batteryTemperature :=
  (within_quantity _).bind fun _ ↦ trivial

theorem within_whilePresent {reading : Routine Int32} (h : Within [.reading] reading) :
    Within [.reading] (whilePresent reading) := by
  refine within_batteryPresent.bind fun present ↦ ?_
  cases present
  · trivial
  · exact h

theorem within_thousandfold {reading : Routine Int32} (h : Within [.reading] reading) :
    Within [.reading] (thousandfold reading) :=
  h.bind fun _ ↦ trivial

theorem within_health : Within [.reading] health := by
  refine within_batteryPresent.bind fun present ↦ ?_
  cases present
  · trivial
  · simp [batteryStatus]

theorem within_capacityLevel : Within [.reading] capacityLevel := by
  refine within_batteryPresent.bind fun present ↦ ?_
  cases present
  · trivial
  · simp [batteryStatus, quantity, readPair]

theorem within_chargeNow : Within [.reading] chargeNow := by
  simp [chargeNow, readPair]

theorem MainsProperty.within_get (property : MainsProperty) : Within [.reading] property.get :=
  within_mainsOnline.bind fun _ ↦ trivial

theorem BatteryProperty.within_get (property : BatteryProperty) :
    Within [.reading] property.get := by
  cases property with
  | status => simp [BatteryProperty.get]
  | present => exact within_batteryPresent.map _
  | voltageMaxDesign => exact (within_thousandfold (within_quantity _)).map _
  | chargeFullDesign => exact (within_thousandfold (within_quantity _)).map _
  | chargeFull => exact (within_thousandfold (within_quantity _)).map _
  | chargeNow => exact within_chargeNow.map _
  | currentNow => exact (within_whilePresent (within_thousandfold within_batteryCurrent)).map _
  | voltageNow => exact (within_whilePresent (within_thousandfold (within_quantity _))).map _
  | health => exact within_health.map _
  | timeToEmptyNow => exact (within_whilePresent ((within_quantity _).map _)).map _
  | capacity => exact (within_whilePresent (within_quantity _)).map _
  | capacityLevel => exact within_capacityLevel.map _
  | temperature => exact (within_whilePresent within_batteryTemperature).map _
  | manufacturer => simp [BatteryProperty.get]

end Supply

/-- A reading only reads registers. -/
theorem Reading.within_take (reading : Reading) : Within [.reading] reading.take := by
  cases reading with
  | brightness => exact Display.Backlight.within_currentLevel.map _
  | mainsProperty property => exact property.within_get.map _
  | batteryProperty property => exact property.within_get.map _
  | mainsOnline => exact Supply.within_mainsOnline.map _
  | batteryPresent => exact Supply.within_batteryPresent.map _
  | batteryCurrent => exact Supply.within_batteryCurrent.map _
  | batteryVoltage => exact (Supply.within_quantity _).map _
  | batteryTemperature => exact Supply.within_batteryTemperature.map _
  | batteryAlarm => exact Thermal.within_batteryAlarm.map _
  | fanMode => exact Thermal.Fan.within_mode.map _
  | fanLevel => exact Thermal.Fan.within_level.map _
  | fanSpeed => exact Thermal.Fan.within_speed.map fun speed ↦ Value.number speed
  | processorTemperature => exact Thermal.within_processorTemperature.map _
  | processorLimit => trivial

/-! ### Events -/

namespace Hotkey

theorem Event.within_value (event : Event) : Within [.reading] event.value := by
  rw [Event.value]
  split <;> simp

theorem within_rotateOutputs (history : History) :
    Within [.reading, .port] (rotateOutputs history) := by
  refine ((within_read _).mono (by simp)).bind fun detected ↦ ?_
  split
  · exact ((Display.Outputs.within_switch _).mono (by simp)).bind fun _ ↦ trivial
  · trivial

/-- What acting by a policy is about. -/
def Policy.topics : Policy → List Topic
  | rotateOutputs => [.reading, .port]
  | followMonitor => [.port]
  | disableCamera => [.reading, .writing]
  | noteOverCurrent _ => [.note]
  | switchPanel => [.firmware, .port]
  | announceSupplies => [.supply]

theorem Policy.within_apply (policy : Policy) (value : Int) (history : History) :
    Within policy.topics (policy.apply value history) := by
  cases policy with
  | rotateOutputs => exact within_rotateOutputs history
  | followMonitor => exact (Display.Outputs.within_switch _).bind fun _ ↦ trivial
  | disableCamera => simp [Policy.apply, Policy.topics]
  | noteOverCurrent port => simp [Policy.apply, Policy.topics]
  | switchPanel =>
    refine ((within_olderThan _).mono (by simp [Policy.topics])).bind fun older ↦ ?_
    split
    · have hswitch := Display.Output.within_switch .lcd (decide (value ≠ 0))
      exact (hswitch.mono (by simp [Policy.topics])).bind fun _ ↦ trivial
    · trivial
  | announceSupplies =>
    refine within_suppliesRegistered.bind fun registered ↦ ?_
    split <;> simp

/-- What evaluating an event is about: reading its register, and what its policy is about. -/
def Event.topics (event : Event) : List Topic :=
  match event.policy? with
  | some policy => .reading :: policy.topics
  | none => [.reading]

theorem Event.within_evaluate (event : Event) (history : History) :
    Within event.topics (event.evaluate history) := by
  unfold Event.evaluate Event.topics
  cases event.policy? with
  | some policy =>
    refine (event.within_value.mono (by simp)).bind fun value ↦ ?_
    exact (policy.within_apply value history).mono (List.subset_cons_self _ _)
  | none => exact event.within_value.bind fun _ ↦ trivial

/-- Evaluating an event is not about the queue, the routing of interrupts, the input layer or
dispatching. -/
theorem Event.topics_subset (event : Event) :
    event.topics ⊆ [.reading, .writing, .firmware, .port, .supply, .note] := by
  have hall : ∀ event ∈ Event.all,
      event.topics ⊆ [.reading, .writing, .firmware, .port, .supply, .note] := by
    decide
  exact hall event event.mem_all

theorem KeyEntry.within_report (entry : KeyEntry) (status : Int) :
    Within [.input] (entry.report status) := by
  rw [KeyEntry.report]
  split
  · exact Input.within_tap _
  · exact Input.within_reportLid _

theorem Event.within_report (event : Event) (status : Int) (history : History) :
    Within [.input] (event.report status history) := by
  rw [Event.report]
  split
  · exact KeyEntry.within_report _ _
  · trivial

/-- Responding to an event is neither about the queue nor about the routing of interrupts. -/
theorem within_respond (event : Event) (history : History) :
    Within [.reading, .writing, .firmware, .port, .supply, .note, .dispatch, .input]
      (respond event history) := by
  rw [respond_eq]
  have hevaluate := (event.within_evaluate history).mono event.topics_subset
  refine (hevaluate.mono (by simp)).bind fun evaluation ↦ ?_
  refine ((within_log _).mono (by simp)).bind fun _ ↦ ?_
  exact ((event.within_report _ _).mono (by simp)).bind fun _ ↦ trivial

theorem within_serve (code : UInt8) (history : History) :
    Within [.reading, .writing, .firmware, .port, .supply, .note, .dispatch, .input]
      (serve code history) := by
  rw [serve]
  split
  · split
    · exact (within_respond _ _).bind fun _ ↦ trivial
    · simp
  · simp

/-- Handling an interrupt is never about the routing of interrupts. -/
theorem within_interrupt (number : Nat) (history : History) :
    Within [.queue, .reading, .writing, .firmware, .port, .supply, .note, .dispatch, .input]
      (interrupt number history) := by
  rw [interrupt]
  split
  · refine Within.bind (by simp [Program.send]) fun answer ↦ ?_
    cases answer with
    | error fault => simp
    | ok =>
      refine Within.bind (by simp [Program.send]) fun code ↦ ?_
      exact (within_serve code history).mono (by simp)
  · trivial

end Hotkey

/-! ### The driver -/

namespace Laptop

theorem within_switchWireless (on : Bool) : Within [.writing] (switchWireless on) := by
  simp [switchWireless, Program.send]

theorem within_switchUsbPorts (on : Bool) : Within [.writing] (switchUsbPorts on) := by
  simp [switchUsbPorts, Program.send]

theorem within_switchPanel (on : Bool) : Within [.firmware, .port] (switchPanel on) := by
  refine ((within_olderThan _).mono (by simp)).bind fun older ↦ ?_
  split
  · exact (Display.Output.within_switch _ _).mono (by simp)
  · trivial

theorem within_switchDevices (on : Bool) :
    Within [.firmware, .port, .writing] (switchDevices on) := by
  refine ((within_switchPanel on).mono (by simp)).bind fun _ ↦ ?_
  refine ((Display.Output.within_switch _ _).mono (by simp)).bind fun _ ↦ ?_
  refine ((within_switchUsbPorts on).mono (by simp)).bind fun _ ↦ ?_
  exact (within_switchWireless on).mono (by simp)

theorem within_prepare (settings : Settings) :
    Within [.reading, .writing, .note] (prepare settings) := by
  refine Within.bind (by simp [Program.send]) fun _ ↦ ?_
  refine (Display.Backlight.within_adopt).bind fun backlight ↦ ?_
  refine ((Thermal.Fan.within_setMode _).mono (by simp)).bind fun _ ↦ ?_
  split
  · exact ((within_switchWireless true).mono (by simp)).bind fun _ ↦ trivial
  · trivial

theorem within_start (settings : Settings) (backlight : Display.Backlight) :
    Within [.queue, .routing, .note, .input] (start settings backlight) := by
  refine ((InterruptLine.within_arm _).mono (by simp)).bind fun answer ↦ ?_
  cases answer with
  | error fault => simp
  | ok => exact ((Input.within_reportLid 1).mono (by simp)).bind fun _ ↦ trivial

theorem within_load (settings : Settings) :
    Within [.reading, .writing, .note, .queue, .routing, .input] (load settings) := by
  rw [load_eq]
  refine ((within_prepare settings).mono (by simp)).bind fun backlight ↦ ?_
  exact (within_start settings backlight).mono (by simp)

theorem within_unload : Within [.note] unload := by
  simp [unload, Program.send]

theorem within_setFanMode (number : Nat) : Within [.writing, .note] (setFanMode number) := by
  rw [setFanMode]
  split
  · simp
  · exact ((Thermal.Fan.within_setMode _).mono (by simp)).bind fun _ ↦ trivial

theorem within_resume (settleTime : Nat) :
    Within [.firmware, .port, .writing, .queue, .routing, .note] (resume settleTime) := by
  refine ((within_switchDevices true).mono (by simp)).bind fun _ ↦ ?_
  refine ((InterruptLine.within_rearm settleTime).mono (by simp)).bind fun answer ↦ ?_
  cases answer <;> simp

end Laptop

/-! ### Operations -/

namespace Operation

/-- What an operation is about. -/
@[simp]
def topics : Operation → List Topic
  | load _ => [.reading, .writing, .note, .queue, .routing, .input]
  | unload => [.note]
  | interrupt _ =>
    [.queue, .reading, .writing, .firmware, .port, .supply, .note, .dispatch, .input]
  | reportLid _ => [.input]
  | suspend => [.firmware, .port, .writing]
  | resume => [.firmware, .port, .writing, .queue, .routing, .note]
  | setBrightness _ => [.reading, .writing, .note]
  | setFanMode _ => [.writing, .note]
  | setFanLevel _ => [.reading, .writing, .note]
  | read _ => [.reading]

/-- Whatever is loaded, an operation is about its topics only. -/
theorem within_perform (operation : Operation) (laptop : Option Laptop) :
    Within operation.topics (operation.perform laptop) := by
  cases laptop with
  | none =>
    cases operation with
    | load settings =>
      exact (Laptop.within_load settings).bind fun answer ↦ by cases answer <;> trivial
    | _ => trivial
  | some laptop =>
    cases operation with
    | load settings => trivial
    | unload => exact Laptop.within_unload.bind fun _ ↦ trivial
    | interrupt number => exact (Hotkey.within_interrupt number _).bind fun _ ↦ trivial
    | reportLid status => exact (Input.within_reportLid status).bind fun _ ↦ trivial
    | suspend => exact (Laptop.within_switchDevices false).bind fun _ ↦ trivial
    | resume =>
      exact (Laptop.within_resume _).bind fun answer ↦ by cases answer <;> trivial
    | setBrightness request =>
      exact (laptop.backlight.within_update request).bind fun _ ↦ trivial
    | setFanMode number => exact (Laptop.within_setFanMode number).bind fun _ ↦ trivial
    | setFanLevel level => exact (Thermal.Fan.within_setLevel level).bind fun _ ↦ trivial
    | read reading => exact reading.within_take.bind fun _ ↦ trivial

end Operation

end LaptopDriver
