import LaptopDriver.Request

/-!
# Units of input and the device behind them

The driver reports input in complete units: a key that goes down and up again, or a position of the
lid, each with the syncs that make it take effect. A `Device` is what user space has seen of a
stream of reports so far: which keys are down, and whether anything was reported since the last
sync. A stream that is made of complete units leaves a device at rest as it was
(`acceptAll_flatMap_reports`), whichever units these are and in whichever order they come.
-/

namespace LaptopDriver.Input

/-- A unit of input. -/
inductive ReportUnit where
  /-- A key is pressed and released. -/
  | tap (key : Key)
  /-- The lid is closed or not. -/
  | lid (closed : Bool)
  deriving DecidableEq, Repr

/-- The reports that make up a unit. -/
def ReportUnit.reports : ReportUnit → List Report
  | tap key => [.key key true, .sync, .key key false, .sync]
  | lid closed => [.switch .lid closed, .sync]

/-- An input device as user space sees it. -/
structure Device where
  /-- The keys that are down, the last one that was pressed first. -/
  held : List Key := []
  /-- Whether something was reported that has not taken effect. -/
  unsynced : Bool := false
  deriving DecidableEq, Repr

namespace Device

/-- The device after a report. -/
def accept (device : Device) : Report → Device
  | .key key true => { held := key :: device.held, unsynced := true }
  | .key key false => { held := device.held.erase key, unsynced := true }
  | .switch _ _ => { device with unsynced := true }
  | .sync => { device with unsynced := false }

/-- The device after a stream of reports. -/
def acceptAll (device : Device) (reports : List Report) : Device :=
  reports.foldl accept device

/-- A device on which no key is down and which waits for no sync. -/
def atRest : Device := { }

@[simp]
theorem acceptAll_append (device : Device) (first second : List Report) :
    device.acceptAll (first ++ second) = (device.acceptAll first).acceptAll second :=
  List.foldl_append

/-- Where nothing waits for a sync, a unit leaves the device as it was. -/
theorem acceptAll_reports (unit : ReportUnit) {device : Device} (h : device.unsynced = false) :
    device.acceptAll unit.reports = device := by
  obtain ⟨held, unsynced⟩ := device
  obtain rfl : unsynced = false := h
  cases unit with
  | tap key => simp [ReportUnit.reports, acceptAll, accept]
  | lid closed => rfl

/-- Complete units leave a device at rest. -/
theorem acceptAll_flatMap_reports (units : List ReportUnit) :
    atRest.acceptAll (units.flatMap ReportUnit.reports) = atRest := by
  induction units with
  | nil => rfl
  | cons unit units ih =>
    rw [List.flatMap_cons, acceptAll_append, acceptAll_reports unit rfl]
    exact ih

end Device

end LaptopDriver.Input
