import LaptopDriver.Proofs.Machine.Permit
import LaptopDriver.Proofs.Machine.Register
import LaptopDriver.Proofs.Transition

/-!
# Nothing but permitted writes

On a machine whose registers keep what is written to them, the driver makes none but the writes
that `Machine.Permits` lists, in every run of operations, whatever their arguments are and whatever
happens to the machine in between (`permits_run`).

`Routine.Safe` is what is proved of every routine: started on such a machine, at any time, it makes
none but permitted requests. A routine that is not about writing, ports or the routing of interrupts
is safe because of what it is about (`Within.safe`); a routine that is made of safe ones is safe
(`Safe.bind`). That leaves the few routines that do write, and only those look at the state of the
machine.
-/

namespace LaptopDriver

open Chipset Controller Display Hotkey InterruptLine Program Thermal

/-- Every register shows what it holds, and so keeps what is written to it. -/
def Machine.Faithful (machine : Machine) : Prop :=
  ∀ register, machine.script register = []

theorem Machine.Faithful.execute {α : Type} {machine : Machine} (h : machine.Faithful)
    (routine : Routine α) : (routine.execute Machine.respond machine).state.Faithful :=
  fun register ↦ Machine.script_execute routine (h register)

namespace Routine

variable {α β : Type}

/-- Started on a faithful machine at any time, the routine makes none but permitted requests. -/
def Safe (routine : Routine α) : Prop :=
  ∀ past machine, Machine.Faithful machine →
    routine.Obeys Machine.respond Moment.Permitted past machine

/-! ### Along the construction of a routine -/

theorem safe_done (value : α) : Safe (.done value) :=
  fun _ _ _ ↦ obeys_done value

theorem Safe.bind {routine : Routine α} {next : α → Routine β} (h : Safe routine)
    (hnext : ∀ value, Safe (next value)) : Safe (routine >>= next) :=
  fun past machine hmachine ↦
    (h past machine hmachine).bind (hnext _ _ _ (hmachine.execute routine))

theorem Safe.times {routine : Routine Unit} (h : Safe routine) (n : Nat) :
    Safe (Program.times n routine) := by
  induction n with
  | zero => exact safe_done _
  | succ n ih => exact h.bind fun _ ↦ ih

/-- A routine that is not about writing, ports or the routing of interrupts is safe. -/
theorem Within.safe {topics : List Topic} {routine : Routine α} (h : Within topics routine)
    (hoff : ∀ topic ∈ topics, topic ∉ [Topic.writing, .port, .routing]) : Safe routine :=
  fun past machine _ ↦ Asks.obeys h
    (fun _ hmem ↦ .noWrite fun hwrite ↦ hoff _ hmem (Request.topic_of_isWrite hwrite)) past machine

/-- A request that writes nothing is safe. -/
theorem safe_send {request : LaptopDriver.Request Chipset.Request} (h : ¬request.IsWrite) :
    Safe (.send request) :=
  fun _ _ _ ↦ obeys_send.2 (.noWrite h)

theorem safe_read (register : Register) : Safe (Routine.read register) :=
  safe_send id

theorem safe_log (record : Log.Record) : Safe (Routine.log record) :=
  safe_send id

/-- A write that is always permitted is safe. -/
theorem safe_write {register : Register} {value : UInt8}
    (h : ∀ (machine : Machine) past, machine.Permits past (.controller (.write register value))) :
    Safe (Routine.write register value) :=
  fun past machine _ ↦ obeys_send.2 (h machine past)

/-! ### Request by request -/

section Request

variable {past : Past} {machine : Machine}

theorem obeys_read {register : Register} {next : UInt8 → Routine α}
    (hscript : machine.script register = [])
    (h : (next (machine.registers register)).Obeys Machine.respond Moment.Permitted
      (⟨.controller (.read register), machine.registers register⟩ :: past) machine) :
    (Routine.read register >>= next).Obeys Machine.respond Moment.Permitted past machine := by
  have hread : Machine.respond (.controller (.read register)) machine =
      (machine.registers register, machine) := Machine.readRegister_of_script hscript
  refine obeys_ask.2 ⟨.noWrite id, ?_⟩
  rw [hread]
  exact h

theorem obeys_write {register : Register} {value : UInt8} {next : Unit → Routine α}
    (hwrite : machine.Permits past (.controller (.write register value)))
    (h : (next ()).Obeys Machine.respond Moment.Permitted
      (⟨.controller (.write register value), ()⟩ :: past)
      { machine with registers := machine.registers.write register value }) :
    (Routine.write register value >>= next).Obeys Machine.respond Moment.Permitted past machine :=
  obeys_ask.2 ⟨hwrite, h⟩

end Request

end Routine

open Routine

/-! ### Fan, backlight and video outputs -/

/-- Setting the mode of the fan is safe: its level is only set once it was taken over. -/
theorem Thermal.Fan.safe_setMode (mode : FanMode) : Safe (Fan.setMode mode) := by
  cases mode with
  | fullSpeed =>
    intro past machine _
    have hmanual : machine.registers.write .fanManual 1 .fanManual = 1 := Memory.write_same _ _ _
    exact obeys_write (.fanManual (.inr rfl)) (obeys_send.2 (.fanLevel (by decide) hmanual))
  | manual => exact safe_write fun _ _ ↦ .fanManual (.inr rfl)
  | automatic => exact safe_write fun _ _ ↦ .fanManual (.inl rfl)

/-- Setting the level of the fan is safe: it is limited, and it is only set while the fan is driven
by hand. -/
theorem Thermal.Fan.safe_setLevel (request : Nat) : Safe (Fan.setLevel request) := by
  intro past machine hmachine
  refine obeys_read (hmachine _) ?_
  have hlimit : UInt8.ofNat (min request maxFanLevel.toNat) ≤ 3 := ofNat_min_le maxFanLevel request
  by_cases hmanual : machine.registers .fanManual = 1
  · rw [if_pos hmanual]
    by_cases hzero : 0 < UInt8.ofNat (min request maxFanLevel.toNat)
    · -- Setting the fan going does not hand it back.
      have hstill : machine.registers.write .fanControl 1 .fanManual = 1 :=
        (Memory.write_of_ne _ _ (by decide)).trans hmanual
      simp only [if_pos hzero]
      exact obeys_write .fanControl (obeys_send.2 (.fanLevel hlimit hstill))
    · simp only [if_neg hzero]
      exact obeys_send.2 (.fanLevel hlimit hmanual)
  · rw [if_neg hmanual]
    exact obeys_send.2 (.noWrite id)

theorem Display.Backlight.safe_update (backlight : Backlight) (request : BrightnessRequest) :
    Safe (backlight.update request) := by
  have hlevel : request.level ≤ 8 := ofNat_min_le 8 _
  rw [Backlight.update]
  split
  · exact safe_done _
  · refine (safe_read _).bind fun current ↦ ?_
    by_cases hcurrent : current = backlight.remembered
    · simp only [if_pos hcurrent]
      exact (safe_write fun _ _ ↦ .brightness hlevel).bind fun _ ↦ safe_done _
    · simp only [if_neg hcurrent]
      exact (safe_log _).bind fun _ ↦ safe_done _

theorem Display.Backlight.safe_adopt : Safe Backlight.adopt :=
  (safe_read _).bind fun _ ↦ Backlight.safe_update _ _

/-- Switching an output is safe: its register is selected before it is written. -/
theorem Display.Output.safe_switch (output : Output) (on : Bool) : Safe (output.switch on) := by
  intro past machine _
  have hregister : output.register = 0x31 ∨ output.register = 0x21 := by
    cases output
    · exact .inl rfl
    · exact .inr rfl
  refine obeys_ask.2 ⟨.sequencerIndex hregister, obeys_ask.2 ⟨.noWrite id, ?_⟩⟩
  refine obeys_ask.2 ⟨.sequencerIndex hregister, obeys_send.2 ?_⟩
  exact .sequencerData hregister

theorem Display.Outputs.safe_switch (outputs : Outputs) : Safe outputs.switch :=
  (Output.safe_switch _ _).bind fun _ ↦ Output.safe_switch _ _

/-! ### Interrupt line -/

namespace InterruptLine

/-- Changing a model-specific register is safe if the write is permitted right after the read. -/
theorem safe_modifyMsr {number : MsrNumber} {change : MsrContents → MsrContents}
    (h : ∀ (machine : Machine) (past : Past),
      past.head? = some ⟨.chipset (.readMsr number), machine.msrs number⟩ →
      machine.Permits past (.chipset (.writeMsr number (change (machine.msrs number))))) :
    Safe (modifyMsr number change) :=
  fun _ machine _ ↦ obeys_ask.2 ⟨.noWrite id, obeys_send.2 (h machine _ rfl)⟩

theorem safe_clearLine {number : MsrNumber} (h : number = 0x80000024 ∨ number = 0x80000025) :
    Safe (modifyMsr number (·.clearLow virtualLine)) :=
  safe_modifyMsr fun _ _ hread ↦
    .routing h rfl hread rfl (clearsBits_and_not hasBits_virtualLine _)

theorem safe_selectGroup : Safe (modifyMsr groupSelect (·.setLow interruptGroup)) := by
  refine safe_modifyMsr fun machine past hread ↦ .group rfl hread rfl ?_
  have hlow : ((machine.msrs groupSelect).setLow interruptGroup).low.toNat =
      (machine.msrs groupSelect).low.toNat ||| interruptGroup.toNat := UInt32.toNat_or _ _
  rw [hlow]
  exact setsBits_or hasBits_interruptGroup _

/-- Setting the pin is permitted above the address that the base address register holds. -/
theorem permits_pin {machine : Machine} {base : Port}
    (hbase : base = portBase (machine.msrs baseAddress)) (past : Past) {offset : Port}
    (hoffset : offset.toNat ∈ [0xA0, 0xA4, 0xB8]) :
    machine.Permits past (.chipset (.writePortWide (base ||| offset) pin)) := by
  have hlt : offset.toNat < 256 := by
    simp only [List.mem_cons, List.not_mem_nil, or_false] at hoffset
    omega
  refine .pinControl hoffset ?_
  rw [hbase]
  exact toNat_portBase_or _ hlt

theorem safe_routeRegisters : Safe routeRegisters := by
  refine (safe_send id).bind fun _ ↦ Safe.bind ?_ fun _ ↦ (safe_send id).bind fun _ ↦ safe_done _
  refine (safe_clearLine (.inl rfl)).bind fun _ ↦ ?_
  exact (safe_clearLine (.inr rfl)).bind fun _ ↦ safe_selectGroup

/-- The base address register is none of those that routing changes. -/
theorem msrs_routeRegisters (machine : Machine) :
    (routeRegisters.execute Machine.respond machine).state.msrs baseAddress =
      machine.msrs baseAddress :=
  rfl

/-- Routing the line is safe at the address that the base address register holds. -/
theorem obeys_route {past : Past} {machine : Machine} (hmachine : machine.Faithful) {base : Port}
    (hbase : base = portBase (machine.msrs baseAddress)) :
    (route base).Obeys Machine.respond Moment.Permitted past machine := by
  refine (safe_routeRegisters past machine hmachine).bind ?_
  have hafter := hbase.trans (congrArg portBase (msrs_routeRegisters machine).symm)
  refine obeys_ask.2 ⟨permits_pin hafter _ (by decide), ?_⟩
  refine obeys_ask.2 ⟨permits_pin hafter _ (by decide), ?_⟩
  refine obeys_ask.2 ⟨permits_pin hafter _ (by decide), ?_⟩
  exact obeys_send.2 (.noWrite id)

/-- Routing the line is safe once its address was looked up. -/
theorem safe_routeAtBase : Safe routeAtBase :=
  fun _ _ hmachine ↦ obeys_ask.2 ⟨.noWrite id, obeys_route hmachine rfl⟩

/-- Arming is safe: what it does between looking up the address and routing the line does not touch
the base address register. -/
theorem safe_arm (settleTime : Nat) : Safe (arm settleTime) := by
  intro past machine hmachine
  let queried := Machine.respond (.controller .query) machine
  have hbase : portBase (machine.msrs baseAddress) = portBase (queried.2.msrs baseAddress) := by
    rw [show queried.2.msrs = machine.msrs from Machine.msrs_query machine]
  have hfaithful : queried.2.Faithful := hmachine.execute Routine.query
  refine obeys_ask.2 ⟨.noWrite id, obeys_ask.2 ⟨.noWrite id, ?_⟩⟩
  show Program.Obeys _ _ (match queried.1 with | .error _ => _ | .ok () => _) _ queried.2
  cases queried.1 with
  | error fault => exact obeys_done _
  | ok =>
    exact obeys_ask.2 ⟨.noWrite id, (obeys_route hfaithful hbase).bind (obeys_done _)⟩

theorem safe_rearm (settleTime : Nat) : Safe (rearm settleTime) := by
  refine Safe.bind (safe_send id) fun answer ↦ ?_
  cases answer with
  | error fault => exact safe_done _
  | ok =>
    refine Safe.bind ?_ fun _ ↦ safe_routeAtBase.bind fun _ ↦ safe_done _
    exact Safe.times (safe_send id) settleTime

end InterruptLine

/-! ### Events -/

namespace Hotkey

/-- Switching the camera off is safe: the bit is set in what the register holds. -/
theorem safe_disableCamera (value : Int) (history : History) :
    Safe (Policy.disableCamera.apply value history) := by
  intro past machine hmachine
  have hbits : SetsBits [1] (machine.registers .cameraControl).toNat
      (machine.registers .cameraControl ||| cameraOffBit).toNat := by
    rw [UInt8.toNat_or]
    exact setsBits_or (hasBits_shiftLeft 1) _
  exact obeys_read (hmachine _) (obeys_write (.camera hbits) (obeys_done _))

theorem Policy.safe_apply (policy : Policy) (value : Int) (history : History) :
    Safe (policy.apply value history) := by
  cases policy with
  | rotateOutputs =>
    refine (safe_read _).bind fun detected ↦ ?_
    split
    · exact (Outputs.safe_switch _).bind fun _ ↦ safe_done _
    · exact safe_done _
  | followMonitor => exact (Outputs.safe_switch _).bind fun _ ↦ safe_done _
  | disableCamera => exact safe_disableCamera value history
  | noteOverCurrent port =>
    have hwithin : Within [.note] _ := Policy.within_apply (.noteOverCurrent port) value history
    exact hwithin.safe (by decide)
  | switchPanel =>
    refine ((within_olderThan _).safe (by decide)).bind fun older ↦ ?_
    split
    · exact (Output.safe_switch _ _).bind fun _ ↦ safe_done _
    · exact safe_done _
  | announceSupplies =>
    have hwithin : Within [.supply] _ := Policy.within_apply .announceSupplies value history
    exact hwithin.safe (by decide)

theorem Event.safe_evaluate (event : Event) (history : History) :
    Safe (event.evaluate history) := by
  refine (event.within_value.safe (by decide)).bind fun value ↦ ?_
  cases event.policy? with
  | some policy => exact policy.safe_apply value history
  | none => exact safe_done _

theorem safe_respond (event : Event) (history : History) : Safe (respond event history) := by
  rw [respond_eq]
  refine (event.safe_evaluate history).bind fun evaluation ↦ ?_
  refine (safe_log _).bind fun _ ↦ ?_
  exact ((event.within_report _ _).safe (by decide)).bind fun _ ↦ safe_done _

theorem safe_serve (code : UInt8) (history : History) : Safe (serve code history) := by
  rw [serve]
  split
  · split
    · exact (safe_respond _ _).bind fun _ ↦ safe_done _
    · exact (safe_log _).bind fun _ ↦ safe_done _
  · exact (safe_log _).bind fun _ ↦ safe_done _

theorem safe_interrupt (number : Nat) (history : History) : Safe (interrupt number history) := by
  rw [interrupt]
  split
  · refine (safe_send id).bind fun answer ↦ ?_
    cases answer with
    | error fault => exact (safe_log _).bind fun _ ↦ safe_done _
    | ok => exact (safe_send id).bind fun code ↦ safe_serve code history
  · exact safe_done _

end Hotkey

/-! ### The driver -/

namespace Laptop

theorem switchValue_eq (on : Bool) : switchValue on = 0 ∨ switchValue on = 1 := by
  cases on
  · exact .inl rfl
  · exact .inr rfl

/-- Switching a device is safe. -/
theorem safe_switchDevice {register : Register}
    (h : register ∈ [Register.wlan, .usb0Flag, .usb1Flag, .usb2Flag]) (on : Bool) :
    Safe (Routine.write register (switchValue on)) :=
  safe_write fun _ _ ↦ .device h (switchValue_eq on)

theorem safe_switchUsbPorts (on : Bool) : Safe (switchUsbPorts on) := by
  refine (safe_switchDevice (by decide) on).bind fun _ ↦ ?_
  exact (safe_switchDevice (by decide) on).bind fun _ ↦ safe_switchDevice (by decide) on

theorem safe_switchPanel (on : Bool) : Safe (switchPanel on) := by
  refine ((within_olderThan _).safe (by decide)).bind fun older ↦ ?_
  split
  · exact Output.safe_switch _ _
  · exact safe_done _

theorem safe_switchDevices (on : Bool) : Safe (switchDevices on) := by
  refine (safe_switchPanel on).bind fun _ ↦ (Output.safe_switch _ _).bind fun _ ↦ ?_
  exact (safe_switchUsbPorts on).bind fun _ ↦ safe_switchDevice (by decide) on

theorem safe_prepare (settings : Settings) : Safe (prepare settings) := by
  refine (safe_log _).bind fun _ ↦ Backlight.safe_adopt.bind fun backlight ↦ ?_
  refine (Fan.safe_setMode _).bind fun _ ↦ ?_
  split
  · exact (safe_switchDevice (by decide) true).bind fun _ ↦ safe_done _
  · exact safe_done _

theorem safe_load (settings : Settings) : Safe (load settings) := by
  rw [load_eq]
  refine (safe_prepare settings).bind fun backlight ↦ (safe_arm _).bind fun answer ↦ ?_
  cases answer with
  | error fault => exact (safe_log _).bind fun _ ↦ safe_done _
  | ok => exact ((Input.within_reportLid 1).safe (by decide)).bind fun _ ↦ safe_done _

theorem safe_resume (settleTime : Nat) : Safe (resume settleTime) := by
  refine (safe_switchDevices true).bind fun _ ↦ (safe_rearm settleTime).bind fun answer ↦ ?_
  cases answer with
  | error fault => exact (safe_log _).bind fun _ ↦ safe_done _
  | ok => exact safe_done _

theorem safe_setFanMode (number : Nat) : Safe (setFanMode number) := by
  rw [setFanMode]
  split
  · exact (safe_log _).bind fun _ ↦ safe_done _
  · exact (Fan.safe_setMode _).bind fun _ ↦ safe_done _

end Laptop

/-- Every operation is safe, whatever is loaded. -/
theorem Operation.safe_perform (operation : Operation) (laptop : Option Laptop) :
    Safe (operation.perform laptop) := by
  cases laptop with
  | none =>
    cases operation with
    | load settings =>
      refine (Laptop.safe_load settings).bind fun answer ↦ ?_
      cases answer <;> exact safe_done _
    | _ => exact safe_done _
  | some laptop =>
    cases operation with
    | load settings => exact safe_done _
    | unload => exact (Laptop.within_unload.safe (by decide)).bind fun _ ↦ safe_done _
    | interrupt number => exact (safe_interrupt number _).bind fun _ ↦ safe_done _
    | reportLid status =>
      exact ((Input.within_reportLid status).safe (by decide)).bind fun _ ↦ safe_done _
    | suspend => exact (Laptop.safe_switchDevices false).bind fun _ ↦ safe_done _
    | resume =>
      refine (Laptop.safe_resume _).bind fun answer ↦ ?_
      cases answer <;> exact safe_done _
    | setBrightness request =>
      exact (laptop.backlight.safe_update request).bind fun _ ↦ safe_done _
    | setFanMode number => exact (Laptop.safe_setFanMode number).bind fun _ ↦ safe_done _
    | setFanLevel level => exact (Fan.safe_setLevel level).bind fun _ ↦ safe_done _
    | read reading => exact (reading.within_take.safe (by decide)).bind fun _ ↦ safe_done _

/-! ### Runs -/

/-- The moments of a transition. -/
def Transition.moments (transition : Transition (Request.Answer Chipset.Request.Answer) Machine) :
    List (Moment (Request.Answer Chipset.Request.Answer) Machine) :=
  (transition.step.operation.perform transition.laptop).moments Machine.respond []
    transition.started

/-- A machine that keeps what is written to it still does when the operation of the step starts. -/
def Step.KeepsFaith (step : Step Machine) : Prop :=
  ∀ machine, Machine.Faithful machine → (step.change machine).Faithful

/-- On a machine that keeps what is written to it, every request of every run is permitted when it
is made: the moments of a step are those of its requests, one by one, and at each of them the
machine permits the request. -/
theorem permits_run {steps : List (Step Machine)} (hsteps : ∀ step ∈ steps, step.KeepsFaith)
    (laptop : Option Laptop) {machine : Machine} (hmachine : machine.Faithful) :
    ∀ transition ∈ transitions Machine.executor steps laptop machine,
      transition.moments.map (·.exchange) = transition.stage.trace ∧
        ∀ moment ∈ transition.moments,
          moment.state.Permits moment.past moment.exchange.op := by
  induction steps generalizing laptop machine with
  | nil => exact List.forall_mem_nil _
  | cons step steps ih =>
    obtain ⟨hstep, hrest⟩ := List.forall_mem_cons.1 hsteps
    have hstarted : (step.change machine).Faithful := hstep machine hmachine
    rw [transitions_cons]
    refine List.forall_mem_cons.2 ⟨⟨?_, ?_⟩, ?_⟩
    · exact map_exchange_moments Machine.respond _ _ _
    · exact step.operation.safe_perform laptop [] _ hstarted
    · exact ih hrest _ (hstarted.execute _)

/-- A camera key, on a machine whose camera has another control bit set: that bit is kept in the
write. -/
theorem permits_run_camera_key :
    let machine : Machine :=
      { registers := Memory.write (fun _ ↦ 0) .cameraControl 0x40, pending := [.ok 0x28] }
    let laptop : Laptop := { settings := { }, backlight := { } }
    let steps : List (Step Machine) := [⟨id, .interrupt 10⟩]
    machine.Faithful ∧ (∀ step ∈ steps, step.KeepsFaith) ∧
      ∃ transition ∈ transitions Machine.executor steps (some laptop) machine,
        ∃ moment ∈ transition.moments,
          moment.exchange.op = .controller (.write .cameraControl 0x42) ∧
            moment.state.Permits moment.past moment.exchange.op := by
  intro machine laptop steps
  have hmachine : machine.Faithful := fun _ ↦ rfl
  have hsteps : ∀ step ∈ steps, step.KeepsFaith := by
    intro step hmem
    rw [List.mem_singleton.1 hmem]
    exact fun _ h ↦ h
  let press := Step.transition Machine.executor ⟨id, .interrupt 10⟩ (some laptop) machine
  have hpress : press ∈ transitions Machine.executor steps (some laptop) machine :=
    List.mem_singleton.2 rfl
  have hwritten : .controller (.write .cameraControl 0x42) ∈
      press.moments.map (·.exchange.op) := by
    decide +kernel
  obtain ⟨moment, hmoment, hop⟩ := List.mem_map.1 hwritten
  have hpermits := (permits_run hsteps (some laptop) hmachine press hpress).2 moment hmoment
  exact ⟨hmachine, hsteps, press, hpress, moment, hmoment, hop, hpermits⟩

end LaptopDriver
