import LaptopDriver.Proofs.Display.FirmwareGate
import LaptopDriver.Proofs.Machine.Writing
import LaptopDriver.Proofs.Program.Budget

/-!
# Handling an interrupt is prompt

The line of the controller stays masked while an interrupt is handled, and the controller drops its
next event unless the handler is done within a few milliseconds. So the handler must neither wait
nor try again, and what it asks of the hardware must be bounded, whatever the hardware answers.
`Trace.IsPrompt` says what that comes to, and `isPrompt_interrupt` that every interrupt is handled
so. It rests on:

* a budget for each policy, from which every interrupt gets one and the same budget
  (`spends_interrupt`);
* the commands to the video outputs being all that is asked of the chipset
  (`isSequencer_of_interrupt`);
* the course of the camera key, the only event that writes: it reads its own register and the one
  that it is about to write, and then it writes (`before_write_interrupt`).
-/

namespace LaptopDriver

open Controller Display Hotkey Trace

/-! ### Budgets -/

namespace Routine

theorem spends_read (register : Register) :
    (Routine.read register).Spends Request.topic {.reading} :=
  Program.spends_send rfl

theorem spends_write (register : Register) (value : UInt8) :
    (Routine.write register value).Spends Request.topic {.writing} :=
  Program.spends_send rfl

theorem spends_log {record : Log.Record} {topic : Topic}
    (h : (Request.log record : Request Chipset.Request).topic = topic) :
    (Routine.log record).Spends Request.topic {topic} :=
  Program.spends_send h

theorem spends_olderThan (version : FirmwareVersion) :
    (olderThan version).Spends Request.topic {.firmware} :=
  Program.spends_ask rfl fun _ ↦ Program.spends_done _

end Routine

open Program Routine

namespace Display

/-- Switching an output takes four accesses to the ports. -/
theorem Output.spends_switch (output : Output) (on : Bool) :
    (output.switch on).Spends Request.topic (.replicate 4 .port) := by
  refine spends_ask_replicate rfl fun _ ↦ spends_ask_replicate rfl fun contents ↦ ?_
  exact spends_ask_replicate rfl fun _ ↦ spends_ask_replicate rfl fun _ ↦ spends_done _

theorem Outputs.spends_switch (outputs : Outputs) :
    outputs.switch.Spends Request.topic (.replicate 8 .port) := by
  rw [Multiset.replicate_add 4 4]
  exact (Output.spends_switch .lcd outputs.lcd).bind fun _ ↦ Output.spends_switch .crt outputs.crt

end Display

namespace Input

theorem spends_tap (key : Key) : (tap key).Spends Request.topic (.replicate 4 .input) := by
  refine spends_ask_replicate rfl fun _ ↦ spends_ask_replicate rfl fun _ ↦ ?_
  exact spends_ask_replicate rfl fun _ ↦ spends_ask_replicate rfl fun _ ↦ spends_done _

theorem spends_reportLid (status : Int) :
    (reportLid status).Spends Request.topic (.replicate 2 .input) :=
  spends_ask_replicate rfl fun _ ↦ spends_ask_replicate rfl fun _ ↦ spends_done _

end Input

namespace Hotkey

/-- What acting by a policy costs at most. -/
def Policy.budget : Policy → Multiset Topic
  | rotateOutputs => {.reading} + .replicate 8 .port
  | followMonitor => .replicate 8 .port
  | disableCamera => {.reading} + {.writing}
  | noteOverCurrent _ => {.note}
  | switchPanel => {.firmware} + .replicate 4 .port
  | announceSupplies => .replicate 3 .supply

/-- What acting by any policy costs at most. -/
def policyBudget : Multiset Topic :=
  {.reading, .writing, .firmware, .note} + .replicate 8 .port + .replicate 3 .supply

theorem Policy.budget_le (policy : Policy) : policy.budget ≤ policyBudget := by
  cases policy with
  | noteOverCurrent port => exact Multiset.singleton_le.2 (by decide)
  | _ => decide

theorem Policy.spends_apply (policy : Policy) (value : Int) (history : History) :
    (policy.apply value history).Spends Request.topic policy.budget := by
  cases policy with
  | rotateOutputs =>
    refine (spends_read .crtDetect).bind fun detected ↦ ?_
    split
    · exact (Outputs.spends_switch _).bind_done _
    · exact spends_done _
  | followMonitor => exact (Outputs.spends_switch _).bind_done _
  | disableCamera =>
    refine (spends_read .cameraControl).bind fun control ↦ ?_
    exact (spends_write .cameraControl _).bind_done _
  | noteOverCurrent port => exact (spends_log rfl).bind_done _
  | switchPanel =>
    refine (spends_olderThan .switchesPanelOnKey).bind fun older ↦ ?_
    split
    · exact (Output.spends_switch _ _).bind_done _
    · exact spends_done _
  | announceSupplies =>
    refine spends_ask_replicate rfl fun registered ↦ ?_
    cases registered
    · exact spends_done _
    · exact spends_ask_replicate rfl fun _ ↦ spends_ask_replicate rfl fun _ ↦ spends_done _

theorem Event.spends_value (event : Event) :
    event.value.Spends Request.topic {.reading} := by
  rw [Event.value]
  split
  · exact (spends_read _).bind_done _
  · exact spends_done _

/-- Evaluating an event costs reading its register, and what a policy costs. -/
theorem Event.spends_evaluate (event : Event) (history : History) :
    (event.evaluate history).Spends Request.topic ({.reading} + policyBudget) := by
  refine event.spends_value.bind fun value ↦ ?_
  cases event.policy? with
  | some policy => exact (policy.spends_apply value history).mono policy.budget_le
  | none => exact spends_done _

theorem KeyEntry.spends_report (entry : KeyEntry) (status : Int) :
    (entry.report status).Spends Request.topic (.replicate 4 .input) := by
  rw [KeyEntry.report]
  split
  · exact Input.spends_tap _
  · exact (Input.spends_reportLid _).mono (by decide)

theorem Event.spends_report (event : Event) (status : Int) (history : History) :
    (event.report status history).Spends Request.topic (.replicate 4 .input) := by
  rw [Event.report]
  split
  · exact KeyEntry.spends_report _ _
  · exact spends_done _

/-- What serving an event number costs at most. -/
def serveBudget : Multiset Topic :=
  {.reading} + policyBudget + ({.dispatch} + .replicate 4 .input)

theorem spends_respond (event : Event) (history : History) :
    (respond event history).Spends Request.topic serveBudget := by
  rw [respond_eq]
  refine (event.spends_evaluate history).bind fun evaluation ↦ ?_
  refine (spends_log rfl).bind fun _ ↦ ?_
  exact (event.spends_report _ _).bind_done _

theorem spends_serve (code : UInt8) (history : History) :
    (serve code history).Spends Request.topic serveBudget := by
  have hnote : {.note} ≤ serveBudget := by decide
  rw [serve]
  split
  · split
    · exact (spends_respond _ _).bind_done _
    · exact ((spends_log rfl).bind_done _).mono hnote
  · exact ((spends_log rfl).bind_done _).mono hnote

/-- What handling an interrupt costs at most: a query, a look at the latch, and serving a
number. -/
def interruptBudget : Multiset Topic :=
  .queue ::ₘ .queue ::ₘ serveBudget

/-- The cost of an interrupt is bounded, whatever is answered and remembered. -/
theorem spends_interrupt (number : Nat) (history : History) :
    (interrupt number history).Spends Request.topic interruptBudget := by
  rw [interrupt]
  split
  · refine spends_ask rfl fun answer ↦ ?_
    cases answer with
    | error fault => exact ((spends_log rfl).bind_done _).mono (by decide)
    | ok => exact spends_ask rfl fun code ↦ spends_serve code history
  · exact spends_done _

end Hotkey

/-! ### What is asked of the chipset -/

/-- What a command exchanges goes over the ports of the sequencer. -/
theorem Display.Command.isSequencer_of_mem {command : Command} {contents : UInt8}
    {exchange : Exchange (Request.Answer Chipset.Request.Answer)}
    (h : exchange ∈ command.exchanges contents) : exchange.op.IsSequencer := by
  revert exchange
  simp [Command.exchanges, Request.IsSequencer]

/-- Where commands are all that a trace carries, it goes over no port but those of the
sequencer. -/
theorem Trace.Carries.isSequencer {commands : List Command} {trace : Trace}
    (h : Carries commands trace) {exchange : Exchange (Request.Answer Chipset.Request.Answer)}
    (hmem : exchange ∈ trace) (htopic : exchange.op.topic = .port) : exchange.op.IsSequencer := by
  obtain ⟨shown, -, hports⟩ := h
  have hport : exchange ∈ ports trace := mem_ports.2 ⟨hmem, htopic⟩
  rw [hports] at hport
  obtain ⟨entry, -, hexchange⟩ := List.mem_flatMap.1 hport
  exact Command.isSequencer_of_mem hexchange

/-- What is asked of the chipset is about the ports or about the routing of interrupts. -/
theorem Request.topic_chipset (request : Chipset.Request) :
    (Request.chipset request).topic = .port ∨ (Request.chipset request).topic = .routing := by
  cases request <;> simp

namespace Hotkey

variable {σ : Type} (respond : Responder (Request.Answer Chipset.Request.Answer) σ)

theorem isSequencer_of_interrupt (number : Nat) (history : History) (state : σ) :
    ∀ exchange ∈ ((interrupt number history).execute respond state).trace,
      ∀ request, exchange.op = .chipset request → exchange.op.IsSequencer := by
  intro exchange hmem request hop
  have htopics := (within_interrupt number history).topic_mem respond state exchange hmem
  have hport : exchange.op.topic = .port := by
    rw [hop] at htopics ⊢
    refine (Request.topic_chipset request).resolve_right fun hrouting ↦ ?_
    rw [hrouting] at htopics
    exact absurd htopics (by decide)
  rcases interrupt_cases respond number history state with
    ⟨haside, -⟩ | ⟨event, served, hserves⟩
  · rcases haside exchange hmem with h | h <;> cases hport.symm.trans h
  · exact hserves.carries.isSequencer hmem hport

/-! ### Queries -/

/-- The controller is queried once, or not at all. -/
theorem length_queries_interrupt (number : Nat) (history : History) (state : σ) :
    (queries ((interrupt number history).execute respond state).trace).length ≤ 1 := by
  by_cases hnumber : number = interruptNumber
  · subst hnumber
    cases hqueried : (respond (.controller .query) state).1 with
    | error fault =>
      rw [execute_interrupt_error hqueried]
      exact le_rfl
    | ok =>
      rw [execute_interrupt_ok hqueried]
      generalize respond (.controller .latched) (respond (.controller .query) state).2 = latched
      -- Serving a number is not about the queue any more.
      have hserve := (within_serve latched.1 history).queries_eq_nil respond (by simp) latched.2
      show (Except.ok () :: queries _).length ≤ 1
      exact (congrArg (List.length ∘ (Except.ok () :: ·)) hserve).le
  · rw [interrupt_of_ne hnumber]
    exact Nat.zero_le 1

/-! ### What comes before a write -/

/-- Only the camera key is about writing. -/
theorem Event.writing_not_mem_topics {event : Event} (h : event ≠ .camera) :
    Topic.writing ∉ event.topics := by
  have hall : ∀ event ∈ Event.all, event ≠ .camera → Topic.writing ∉ event.topics := by decide
  exact hall event event.mem_all h

/-- The camera key reads its own register and the control bits of the camera, and writes the control
bits back. -/
theorem trace_evaluate_camera (history : History) (state : σ) :
    let status := respond (.controller (.read .cameraStatus)) state
    let control := respond (.controller (.read .cameraControl)) status.2
    ((Event.camera.evaluate history).execute respond state).trace =
      [⟨.controller (.read .cameraStatus), status.1⟩,
        ⟨.controller (.read .cameraControl), control.1⟩] ++
      [⟨.controller (.write .cameraControl (control.1 ||| cameraOffBit)), ()⟩] :=
  rfl

variable {respond} {before after : Trace} {register : Register} {value : UInt8}

/-- What an event reads before it writes, and what it writes. -/
theorem before_write_evaluate {event : Event} {history : History} {state : σ}
    (h : ((event.evaluate history).execute respond state).trace =
      before ++ ⟨.controller (.write register value), ()⟩ :: after) :
    event = .camera ∧ ∃ status control : UInt8,
      before = [⟨.controller (.read .cameraStatus), status⟩,
        ⟨.controller (.read .cameraControl), control⟩] ∧
      register = .cameraControl ∧ value = control ||| cameraOffBit := by
  by_cases hevent : event = .camera
  · subst hevent
    rw [trace_evaluate_camera] at h
    obtain ⟨rest, hbefore, hwrite⟩ := eq_append_cons_of_notMem_left h (by simp)
    cases rest with
    | nil =>
      obtain ⟨⟨rfl, rfl⟩, -⟩ := by simpa using hwrite
      exact ⟨rfl, _, _, hbefore, rfl, rfl⟩
    | cons exchange rest => simp at hwrite
  · have hmem := mem_of_eq_append_cons h
    have htopic := (event.within_evaluate history).topic_mem respond state _ hmem
    exact absurd htopic (Event.writing_not_mem_topics hevent)

/-- Once an event is evaluated, nothing is written any more. -/
theorem before_write_respond {event : Event} {history : History} {state : σ}
    (h : ((Hotkey.respond event history).execute respond state).trace =
      before ++ ⟨.controller (.write register value), ()⟩ :: after) :
    ∃ rest, ((event.evaluate history).execute respond state).trace =
      before ++ ⟨.controller (.write register value), ()⟩ :: rest := by
  have hwithin (evaluation : Evaluation) : Within [.dispatch, .note, .input] (do
      Routine.log (.dispatched event evaluation.status)
      event.report evaluation.status evaluation.history
      pure (event.remembered evaluation.status evaluation.history)) := by
    refine ((within_log _).mono (by simp)).bind fun _ ↦ ?_
    exact ((event.within_report _ _).mono (by simp)).bind fun _ ↦ trivial
  rw [respond_eq, Program.execute_bind] at h
  obtain ⟨rest, hevaluate, -⟩ := eq_append_cons_of_notMem_right h fun hmem ↦
    absurd ((hwithin _).topic_mem respond _ _ hmem) (by simp)
  exact ⟨rest, hevaluate⟩

/-- What an interrupt reads before it writes, and what it writes. -/
theorem before_write_interrupt {number : Nat} {history : History} {state : σ}
    (h : ((interrupt number history).execute respond state).trace =
      before ++ ⟨.controller (.write register value), ()⟩ :: after) :
    dispatched ((interrupt number history).execute respond state).trace = [.camera] ∧
      ∃ status control : UInt8,
        before = [⟨.controller .query, .ok ()⟩, ⟨.controller .latched, Event.camera.code⟩,
          ⟨.controller (.read .cameraStatus), status⟩,
          ⟨.controller (.read .cameraControl), control⟩] ∧
        register = .cameraControl ∧ value = control ||| cameraOffBit := by
  rcases interrupt_cases respond number history state with
    ⟨haside, -⟩ | ⟨event, served, hserves⟩
  · rcases haside _ (mem_of_eq_append_cons h) with h | h <;> cases h
  · have hdispatched := Transition.dispatched_of_serves hserves
    have hplace : [⟨.controller .query, .ok ()⟩, ⟨.controller .latched, event.code⟩] ++
        ((Hotkey.respond event history).execute respond served).trace = _ := hserves.1.symm.trans h
    obtain ⟨rest, hbefore, hrespond⟩ := eq_append_cons_of_notMem_left hplace (by simp)
    obtain ⟨after, hevaluate⟩ := before_write_respond hrespond
    obtain ⟨rfl, status, control, rfl, hwrite⟩ := before_write_evaluate hevaluate
    exact ⟨hdispatched, status, control, hbefore, hwrite⟩

end Hotkey

/-! ### Promptness -/

/-- What is asked in the trace is what a handler of interrupts may ask for. -/
structure Trace.IsPrompt (trace : Trace) : Prop where
  /-- The controller is queried once at most. -/
  queries : (queries trace).length ≤ 1
  /-- The chipset is asked for nothing but byte-wide accesses to the ports of the sequencer: there
  is no delay, no model-specific register and no critical section. -/
  sequencer : ∀ exchange ∈ trace, ∀ request, exchange.op = .chipset request →
    exchange.op.IsSequencer
  /-- There are eight accesses to the ports at most. -/
  ports : trace.countP (·.op.topic = .port) ≤ 8
  /-- Two registers of the controller are read at most. -/
  readings : trace.countP (·.op.topic = .reading) ≤ 2
  /-- One register of the controller is written at most. -/
  writings : trace.countP (·.op.topic = .writing) ≤ 1
  /-- What is written is the control register of the camera. By then the register of the event that
  is served was read, and so was the register that is written. -/
  written : ∀ {before after : Trace} {register : Register} {value : UInt8},
    trace = before ++ ⟨.controller (.write register value), ()⟩ :: after →
      register = .cameraControl ∧ ∃ event bound status control,
        dispatched trace = [event] ∧ event.register? = some bound ∧
          shown bound before = [status] ∧ shown register before = [control] ∧
          value = control ||| cameraOffBit

/-- Every interrupt is handled promptly: whatever its number, whatever the hardware answers, and
whatever is remembered. -/
theorem Hotkey.isPrompt_interrupt {σ : Type}
    (respond : Responder (Request.Answer Chipset.Request.Answer) σ) (number : Nat)
    (history : History) (state : σ) :
    IsPrompt ((interrupt number history).execute respond state).trace := by
  have hspends := spends_interrupt number history
  have hcount (topic : Topic) := hspends.countP_le respond topic state
  exact {
    queries := length_queries_interrupt respond number history state
    sequencer := isSequencer_of_interrupt respond number history state
    ports := (hcount .port).trans (by decide)
    readings := (hcount .reading).trans (by decide)
    writings := (hcount .writing).trans (by decide)
    written := fun h ↦ by
      obtain ⟨hdispatched, status, control, rfl, rfl, hvalue⟩ := before_write_interrupt h
      exact ⟨rfl, .camera, .cameraStatus, status, control, hdispatched, rfl, rfl, rfl, hvalue⟩ }

/-- The bounds on registers are attained by the camera key, and the bound on ports by a monitor that
was plugged in. -/
example :
    let camera := (interrupt 10 { }).execute Machine.respond { pending := [.ok 0x28] }
    let monitor := (interrupt 10 { }).execute Machine.respond { pending := [.ok 0x27] }
    camera.trace.countP (·.op.topic = .reading) = 2 ∧
      camera.trace.countP (·.op.topic = .writing) = 1 ∧
      monitor.trace.countP (·.op.topic = .port) = 8 := by
  decide

end LaptopDriver
