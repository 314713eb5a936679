import VyuhHmi.Batch.Tracking
import VyuhHmi.Device.Clients
import VyuhHmi.Device.Steps

/-!
# The polling loop and its client

The body of `start_device_polling`: the protocol client that the task owns, what the loop makes of
each reading, and how both drive the phases of the task.  The device runtime leaves the outcome of
every call to the environment; here only what the libraries answer is left to it, and the outcome
follows from the client's own code.
-/

namespace VyuhHmi

open DeviceRuntime (TaskEvent)

/-- The phases in which the loop has its connection. -/
def TaskPhase.isOpen : TaskPhase → Bool
  | .polling | .writing _ _ | .reading => true
  | _ => false

/-- Whether the loop has its connection after an event. -/
def DeviceRuntime.TaskEvent.opens (before : Bool) : TaskEvent → Bool
  | .connected => true
  | .writeFailed _ open_ | .readFailed open_ => open_
  | _ => before

/-! ## Readings -/

/-- The addresses that the loop gives to the values of a poll, up to the first that overflows, and
whether none does. -/
def labelFrom (overflowChecks : Bool) (start : UInt16) : ℕ → List UInt16 →
    List (UInt16 × UInt16) × Bool
  | _, [] => ([], true)
  | i, value :: values =>
      match addU16 overflowChecks start (UInt16.ofNat i) with
      | none => ([], false)
      | some register =>
          let rest := labelFrom overflowChecks start (i + 1) values
          ((register, value) :: rest.1, rest.2)

/-- The batch phase is published here. -/
def batchRegister : UInt16 := 1032

/-- A polling task's own state.  `sent` are the readings that it has saved and broadcast. -/
structure TaskLocals where
  client : ProtocolClient
  call : ClientCall
  tracking : BatchTracking
  sent : List PlcData
  panicked : Bool

/-- What happens to a polling task, with the answers of the client's library. -/
inductive ClientEvent
  | connect (outcome : Except String Bool)
  | slept
  | receive
  | accept
  | write (answer : Except String (Except String Unit))
  | tick
  | deliver (items : List NodeValue)
  | read (answer : ReadAnswer) (times : ℕ → Rfc3339.Instant)
  | stop

namespace TaskLocals

/-- A fresh task. -/
def start (config : DeviceConfig) : TaskLocals where
  client := .newFor config.protocol
  call := .idle
  tracking := ⟨none, 0⟩
  sent := []
  panicked := false

/-- The readings of one poll. -/
def readings (overflowChecks : Bool) (config : DeviceConfig) (values : List UInt16)
    (times : ℕ → Rfc3339.Instant) : List PlcData :=
  (labelFrom overflowChecks config.registerStart 0 values).1.mapIdx fun i (register, value) ↦
    ⟨config.id, register, value.toNat, times i⟩

/-- `reg_map`. -/
def regMap (labelled : List (UInt16 × UInt16)) : UInt16 → Option UInt16 :=
  EventMap.after Prod.fst (fun reading ↦ some reading.2) labelled

/-- The batch block of a poll. -/
def trackBatch (overflowChecks : Bool) (tracking : BatchTracking)
    (labelled : List (UInt16 × UInt16)) : Option BatchTracking :=
  match regMap labelled batchRegister with
  | some batchState => tracking.poll overflowChecks batchState
  | none => some tracking

/-- What the loop does with the values of a poll. -/
def process (overflowChecks : Bool) (config : DeviceConfig) (locals : TaskLocals)
    (values : List UInt16) (times : ℕ → Rfc3339.Instant) : TaskLocals × TaskEvent :=
  let labelled := labelFrom overflowChecks config.registerStart 0 values
  let sending := { locals with sent := locals.sent ++ readings overflowChecks config values times }
  let tracked :=
    if labelled.2 then trackBatch overflowChecks locals.tracking labelled.1 else none
  match tracked with
  | some tracking => ({ sending with tracking := tracking }, .readDone)
  | none => ({ sending with panicked := true }, .readPanicked)

section process

variable (overflowChecks : Bool) (config : DeviceConfig) (locals : TaskLocals)
  (values : List UInt16) (times : ℕ → Rfc3339.Instant)

@[simp] theorem client_process :
    (locals.process overflowChecks config values times).1.client = locals.client := by
  unfold process
  dsimp only
  split <;> rfl

@[simp] theorem call_process :
    (locals.process overflowChecks config values times).1.call = locals.call := by
  unfold process
  dsimp only
  split <;> rfl

/-- The readings of a poll go out whatever the batch block does after them. -/
@[simp] theorem sent_process : (locals.process overflowChecks config values times).1.sent =
    locals.sent ++ readings overflowChecks config values times := by
  unfold process
  dsimp only
  split <;> rfl

end process

/-- One event of a polling task: its state after it, and what the event is to the device runtime.
`tokio::time::interval` panics on a zero poll rate. -/
def step (overflowChecks : Bool) (config : DeviceConfig) (locals : TaskLocals) :
    ClientEvent → Option (TaskLocals × Option TaskEvent)
  | .connect outcome =>
      let connected := { locals with client := locals.client.connect outcome }
      match outcome with
      | .ok _ =>
          some ({ connected with panicked := locals.panicked || config.pollRateMs == 0 },
            some .connected)
      | .error _ => some (connected, some .connectFailed)
  | .slept => some (locals, some .slept)
  | .receive => some (locals, some .receive)
  | .accept => some (locals, some .accept)
  | .write answer =>
      let result := locals.client.writeRegister answer
      let written := { locals with client := result.1 }
      match result.2 with
      | .ok () => some (written, some .written)
      | .error e => some (written, some (.writeFailed e result.1.isConnected))
  | .tick =>
      let begun := locals.client.beginRead config.registerStart config.registerCount
      some ({ locals with client := begun.1, call := begun.2 }, some .tick)
  | .deliver items =>
      (locals.client.deliver items).map fun client ↦ ({ locals with client := client }, none)
  | .read answer times =>
      (locals.client.finishRead overflowChecks locals.call answer).map fun result ↦
        let answered := { locals with client := result.1, call := .idle }
        match result.2 with
        | .values values =>
            let processed := answered.process overflowChecks config values times
            (processed.1, some processed.2)
        | .error _ => (answered, some (.readFailed result.1.isConnected))
        | .panicked => ({ answered with panicked := true }, some .readPanicked)
  | .stop => some (locals, some .stop)

end TaskLocals

/-! ## The system -/

/-- The device runtime with the own state of each polling task. -/
structure PollingSystem where
  server : DeviceRuntime
  locals : List TaskLocals

namespace PollingSystem

/-- A step of the server's other parts, or an event of a polling task. -/
inductive Label
  | server (label : DeviceRuntime.Label)
  | task (task : ℕ) (event : ClientEvent)

def init (configured deviceTable : List DeviceConfig) : PollingSystem where
  server := .init configured deviceTable
  locals := []

/-- The server goes on to another state; the tasks it has started there are fresh. -/
def after (s : PollingSystem) (t : DeviceRuntime) : PollingSystem where
  server := t
  locals := s.locals ++ (t.tasks.drop s.locals.length).map fun task ↦ .start task.config

/-- Everything that is not an event of a polling task. -/
def stepServer (socketAddr : String → Bool) (overflowChecks : Bool) (s : PollingSystem) :
    DeviceRuntime.Label → Option PollingSystem
  | .poll _ _ => none
  | label => (DeviceRuntime.step socketAddr overflowChecks s.server label).map s.after

/-- An event of a polling task. -/
def stepTask (overflowChecks : Bool) (s : PollingSystem) (task : ℕ) (event : ClientEvent) :
    Option PollingSystem :=
  s.server.tasks[task]?.bind fun t ↦ s.locals[task]?.bind fun locals ↦
    (locals.step overflowChecks t.config event).bind fun result ↦
      let stepped := s.locals.set task result.1
      match result.2 with
      | some taskEvent =>
          (s.server.pollTask overflowChecks task taskEvent).map fun server ↦ ⟨server, stepped⟩
      | none => some { s with locals := stepped }

def step (socketAddr : String → Bool) (overflowChecks : Bool) (s : PollingSystem) :
    Label → Option PollingSystem
  | .server label => s.stepServer socketAddr overflowChecks label
  | .task task event => s.stepTask overflowChecks task event

end PollingSystem

/-! ## What a step can do -/

/-- The phase of a task and the device that it polls. -/
def PollingTask.stage (task : PollingTask) : TaskPhase × DeviceConfig := (task.phase, task.config)

namespace DeviceRuntime

variable {socketAddr : String → Bool} {overflowChecks : Bool} {s t : DeviceRuntime} {i : ℕ}
  {task : PollingTask}

/-- The stages of all tasks. -/
def stages (s : DeviceRuntime) : List (TaskPhase × DeviceConfig) := s.tasks.map PollingTask.stage

theorem getElem?_stages : s.stages[i]? = s.tasks[i]?.map PollingTask.stage := List.getElem?_map

/-- Handlers and start-up leave the tasks at their stages, and start new ones. -/
theorem stages_of_effect {label : Label} (hlabel : ∀ i event, label ≠ .poll i event)
    (heffect : Effect socketAddr s label t) :
    ∃ configs : List DeviceConfig,
      t.stages = s.stages ++ configs.map fun config ↦ (.connecting, config) := by
  have hkeep {u : DeviceRuntime} (h : u.stages = s.stages) : ∃ configs : List DeviceConfig,
      u.stages = s.stages ++ configs.map fun config ↦ (.connecting, config) :=
    ⟨[], by rw [h, List.map_nil, List.append_nil]⟩
  have hspawn {u : DeviceRuntime} (config : DeviceConfig)
      (h : u.tasks = s.tasks ++ [.spawn config]) : ∃ configs : List DeviceConfig,
      u.stages = s.stages ++ configs.map fun config ↦ (.connecting, config) := by
    refine ⟨[config], ?_⟩
    rw [stages, h, List.map_append]
    rfl
  cases heffect with
  | register config => exact hspawn config rfl
  | @spawn _ _ _ config => exact hspawn config rfl
  | remove | disconnect => exact hkeep (ListUpdate.map_modify_of_forall fun _ ↦ rfl)
  | push => exact hkeep (ListUpdate.map_modify_of_forall fun _ ↦ rfl)
  | skip | arrive | answer | createNew | createAgain | panic | registerAdded | registerConnected
  | registerGone | send | succeed | audit | cancel | acceptLate => exact hkeep rfl
  | move | receive | accept | written | writeFailed | finish => exact absurd rfl (hlabel _ _)

/-- A task that has ended takes no more events. -/
theorem running_of_pollTask {event : TaskEvent} (htask : s.tasks[i]? = some task)
    (h : s.pollTask overflowChecks i event = some t) : task.phase ≠ .finished := by
  intro hfinished
  rw [pollTask, htask, Option.bind_some, hfinished] at h
  cases event <;> cases h

/-- The stage of a task after an event. -/
theorem stages_of_pollTask {event : TaskEvent} (htask : s.tasks[i]? = some task)
    (h : s.pollTask overflowChecks i event = some t) :
    ∃ phase, t.stages = s.stages.set i (phase, task.config) ∧
      (phase = .finished ∨ phase.isOpen = event.opens task.phase.isOpen) := by
  have hmoves {u : DeviceRuntime} {f : PollingTask → PollingTask}
      (htasks : u.tasks = s.tasks.modify i f) (hconfig : (f task).config = task.config)
      (hopen : (f task).phase = .finished ∨
        (f task).phase.isOpen = event.opens task.phase.isOpen) :
      ∃ phase, u.stages = s.stages.set i (phase, task.config) ∧
        (phase = .finished ∨ phase.isOpen = event.opens task.phase.isOpen) := by
    refine ⟨(f task).phase, ?_, hopen⟩
    rw [stages, htasks, ← hconfig]
    exact ListUpdate.map_modify_of_some htask
  obtain ⟨task', htask', hpoll⟩ := Option.bind_eq_some_iff.mp h
  obtain rfl := Option.some.inj (htask.symm.trans htask')
  split at hpoll
  case h_1 hphase =>
      cases hpoll
      split
      · exact hmoves rfl rfl (.inl rfl)
      · exact hmoves rfl rfl (.inr rfl)
  case h_4 hphase =>
      split at hpoll
      case h_1 =>
          cases hpoll
          exact hmoves rfl rfl (.inr (by rw [hphase]; rfl))
      case h_2 => cases hpoll
  case h_2 hphase | h_3 hphase | h_5 hphase | h_6 hphase | h_7 hphase | h_9 hphase =>
      cases hpoll
      exact hmoves rfl rfl (.inr (by rw [hphase]; rfl))
  case h_8 command accepted error connected hphase =>
      cases hpoll
      refine hmoves rfl rfl (.inr ?_)
      cases connected <;> rfl
  case h_10 connected hphase =>
      cases hpoll
      refine hmoves rfl rfl (.inr ?_)
      cases connected <;> rfl
  case h_11 =>
      split at hpoll
      case isTrue =>
          cases hpoll
          exact hmoves rfl rfl (.inl rfl)
      case isFalse => cases hpoll
  case h_12 => cases hpoll
  case h_13 =>
      split at hpoll
      case isTrue =>
          cases hpoll
          exact hmoves rfl rfl (.inl rfl)
      case isFalse => cases hpoll
  case h_14 => cases hpoll

end DeviceRuntime

namespace PollingSystem

variable {socketAddr : String → Bool} {overflowChecks : Bool} {s t : PollingSystem}

/-- The cases of a step. -/
inductive Effect (socketAddr : String → Bool) (overflowChecks : Bool) (s : PollingSystem) :
    Label → PollingSystem → Prop
  | server {label : DeviceRuntime.Label} {server : DeviceRuntime}
      (hlabel : ∀ i event, label ≠ .poll i event)
      (hserver : DeviceRuntime.step socketAddr overflowChecks s.server label = some server) :
      Effect socketAddr overflowChecks s (.server label) (s.after server)
  | task {i : ℕ} {event : ClientEvent} {task : PollingTask} {locals locals' : TaskLocals}
      {taskEvent : TaskEvent} {server : DeviceRuntime} (htask : s.server.tasks[i]? = some task)
      (hlocals : s.locals[i]? = some locals)
      (hevent : locals.step overflowChecks task.config event = some (locals', some taskEvent))
      (hpoll : s.server.pollTask overflowChecks i taskEvent = some server) :
      Effect socketAddr overflowChecks s (.task i event) ⟨server, s.locals.set i locals'⟩
  | quiet {i : ℕ} {event : ClientEvent} {task : PollingTask} {locals locals' : TaskLocals}
      (htask : s.server.tasks[i]? = some task) (hlocals : s.locals[i]? = some locals)
      (hevent : locals.step overflowChecks task.config event = some (locals', none)) :
      Effect socketAddr overflowChecks s (.task i event) { s with locals := s.locals.set i locals' }

theorem effect_of_step {label : Label}
    (h : s.step socketAddr overflowChecks label = some t) :
    Effect socketAddr overflowChecks s label t := by
  cases label with
  | server label =>
      have hmap {label : DeviceRuntime.Label} (hlabel : ∀ i event, label ≠ .poll i event)
          (h : (DeviceRuntime.step socketAddr overflowChecks s.server label).map s.after = some t) :
          Effect socketAddr overflowChecks s (.server label) t := by
        obtain ⟨server, hserver, rfl⟩ := Option.map_eq_some_iff.mp h
        exact .server hlabel hserver
      cases label with
      | poll => cases h
      | registerAtStart => exact hmap nofun h
      | arrive => exact hmap nofun h
      | advance => exact hmap nofun h
      | cancel => exact hmap nofun h
      | acceptLate => exact hmap nofun h
  | task i event =>
      obtain ⟨task, htask, hrest⟩ := Option.bind_eq_some_iff.mp h
      obtain ⟨locals, hlocals, hrest⟩ := Option.bind_eq_some_iff.mp hrest
      obtain ⟨⟨locals', taskEvent⟩, hevent, hrest⟩ := Option.bind_eq_some_iff.mp hrest
      cases taskEvent with
      | none =>
          cases hrest
          exact .quiet htask hlocals hevent
      | some taskEvent =>
          obtain ⟨server, hpoll, rfl⟩ := Option.map_eq_some_iff.mp hrest
          exact .task htask hlocals hevent hpoll

/-- **Refinement.** Without the own states of its tasks, the system takes steps of the device
runtime. -/
theorem server_of_step {label : Label} (h : s.step socketAddr overflowChecks label = some t) :
    t.server = s.server ∨
      ∃ label', DeviceRuntime.step socketAddr overflowChecks s.server label' = some t.server := by
  cases effect_of_step h with
  | server hlabel hserver => exact .inr ⟨_, hserver⟩
  | task htask hlocals hevent hpoll => exact .inr ⟨.poll _ _, hpoll⟩
  | quiet => exact .inl rfl

/-! ## Properties of every task -/

/-- Every task has its own state, and the two are related. -/
structure AllTasks (P : TaskPhase × DeviceConfig → TaskLocals → Prop) (s : PollingSystem) :
    Prop where
  length : s.locals.length = s.server.stages.length
  each : ∀ (i : ℕ) stage locals, s.server.stages[i]? = some stage →
    s.locals[i]? = some locals → P stage locals

variable {P : TaskPhase × DeviceConfig → TaskLocals → Prop}

theorem allTasks_init (configured deviceTable : List DeviceConfig) :
    (init configured deviceTable).AllTasks P where
  length := rfl
  each i stage locals hstage := by cases hstage

/-- The tasks that the server has started are fresh. -/
theorem locals_after {server : DeviceRuntime} {configs : List DeviceConfig}
    (hlength : s.locals.length = s.server.stages.length)
    (hstages : server.stages = s.server.stages ++ configs.map fun config ↦ (.connecting, config)) :
    (s.after server).locals = s.locals ++ configs.map TaskLocals.start := by
  have hnew : (server.tasks.drop s.locals.length).map (fun task ↦ TaskLocals.start task.config) =
      (server.stages.drop s.locals.length).map fun stage ↦ TaskLocals.start stage.2 := by
    rw [DeviceRuntime.stages, ← List.map_drop, List.map_map]
    rfl
  unfold after
  rw [hnew, hstages, hlength, List.drop_left, List.map_map]
  rfl

theorem AllTasks.after (hfresh : ∀ config, P (.connecting, config) (.start config))
    (h : s.AllTasks P) {server : DeviceRuntime} {configs : List DeviceConfig}
    (hstages : server.stages = s.server.stages ++ configs.map fun config ↦ (.connecting, config)) :
    (s.after server).AllTasks P := by
  have hlocals := locals_after h.length hstages
  constructor
  · change _ = server.stages.length
    rw [hlocals, hstages, List.length_append, List.length_append, h.length, List.length_map,
      List.length_map]
  · intro i stage locals hstage hi
    change server.stages[i]? = some stage at hstage
    rw [hstages] at hstage
    rw [hlocals] at hi
    rcases Nat.lt_or_ge i s.locals.length with hold | hnew
    · rw [List.getElem?_append_left (h.length ▸ hold)] at hstage
      rw [List.getElem?_append_left hold] at hi
      exact h.each i stage locals hstage hi
    · rw [List.getElem?_append_right (h.length ▸ hnew), ← h.length, List.getElem?_map] at hstage
      rw [List.getElem?_append_right hnew, List.getElem?_map] at hi
      obtain ⟨config, hconfig, rfl⟩ := Option.map_eq_some_iff.mp hstage
      rw [hconfig, Option.map_some] at hi
      obtain rfl := Option.some.inj hi
      exact hfresh config

/-- **Invariant rule.** A property of fresh tasks that every event keeps is one of every task. -/
theorem AllTasks.step (hfresh : ∀ config, P (.connecting, config) (.start config))
    (htask : ∀ phase phase' config locals locals' event taskEvent, P (phase, config) locals →
      phase ≠ .finished →
      locals.step overflowChecks config event = some (locals', some taskEvent) →
      (phase' = .finished ∨ phase'.isOpen = taskEvent.opens phase.isOpen) →
      P (phase', config) locals')
    (hquiet : ∀ phase config locals locals' event, P (phase, config) locals →
      locals.step overflowChecks config event = some (locals', none) → P (phase, config) locals')
    (h : s.AllTasks P) {label : Label} (hstep : s.step socketAddr overflowChecks label = some t) :
    t.AllTasks P := by
  cases effect_of_step hstep with
  | @server label server hlabel hserver =>
      obtain ⟨configs, hstages⟩ :=
        DeviceRuntime.stages_of_effect hlabel (DeviceRuntime.effect_of_step hserver)
      exact h.after hfresh hstages
  | @task i event task locals locals' taskEvent server hi hlocals hevent hpoll =>
      obtain ⟨phase, hstages, hphase⟩ := DeviceRuntime.stages_of_pollTask hi hpoll
      have hstage : s.server.stages[i]? = some task.stage := by
        rw [DeviceRuntime.getElem?_stages, hi, Option.map_some]
      have hthis := htask _ _ _ _ _ _ _ (h.each i task.stage locals hstage hlocals)
        (DeviceRuntime.running_of_pollTask hi hpoll) hevent hphase
      constructor
      · change (s.locals.set i locals').length = server.stages.length
        rw [hstages, List.length_set, List.length_set, h.length]
      · intro j stage other hj hother
        change server.stages[j]? = some stage at hj
        rw [hstages, List.getElem?_set] at hj
        change (s.locals.set i locals')[j]? = some other at hother
        rw [List.getElem?_set] at hother
        split at hj
        case isTrue hij =>
            subst hij
            obtain ⟨-, hnow⟩ := Option.ite_none_right_eq_some.mp hj
            rw [if_pos rfl] at hother
            obtain ⟨-, hown⟩ := Option.ite_none_right_eq_some.mp hother
            rw [← Option.some.inj hnow, ← Option.some.inj hown]
            exact hthis
        case isFalse hij =>
            rw [if_neg hij] at hother
            exact h.each j stage other hj hother
  | @quiet i event task locals locals' hi hlocals hevent =>
      have hstage : s.server.stages[i]? = some task.stage := by
        rw [DeviceRuntime.getElem?_stages, hi, Option.map_some]
      have hthis := hquiet _ _ _ _ _ (h.each i task.stage locals hstage hlocals) hevent
      constructor
      · change (s.locals.set i locals').length = s.server.stages.length
        rw [List.length_set, h.length]
      · intro j stage other hj hother
        change s.server.stages[j]? = some stage at hj
        change (s.locals.set i locals')[j]? = some other at hother
        rw [List.getElem?_set] at hother
        split at hother
        case isTrue hij =>
            subst hij
            obtain rfl := Option.some.inj (hstage.symm.trans hj)
            obtain ⟨-, hown⟩ := Option.ite_none_right_eq_some.mp hother
            rw [← Option.some.inj hown]
            exact hthis
        case isFalse hij => exact h.each j stage other hj hother

end PollingSystem

end VyuhHmi
