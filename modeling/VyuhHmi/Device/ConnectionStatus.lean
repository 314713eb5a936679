import VyuhHmi.Device.PollingLoop

/-!
# The reported connection status

`get_devices` reports a device as connected while its polling task has not ended.  The task has a
connection only between a successful `connect` and the error that gives it up: while it connects for
the first time, and for as long as it tries to connect again, the report and the client disagree.
-/

namespace VyuhHmi

open DeviceRuntime (TaskEvent)

/-- What `get_devices` reports of a device. -/
def DeviceRuntime.getDevices (s : DeviceRuntime) (deviceId : String) : Option PlcDevice :=
  (s.registry deviceId).map fun handle ↦ {
    id := handle.config.id
    name := handle.config.name
    address := handle.config.address
    protocol := handle.config.protocol
    isConnected := !s.taskIsFinished handle.task }

/-! ## The connection of a client -/

namespace ProtocolClient

variable {overflowChecks : Bool} {client client' : ProtocolClient}

@[simp] theorem isConnected_newFor (protocol : String) : (newFor protocol).isConnected = false := by
  unfold newFor
  split <;> rfl

theorem isConnected_connect (outcome : Except String Bool) :
    (client.connect outcome).isConnected = (outcome.isOk || client.isConnected) := by
  cases client with
  | modbus client => cases outcome <;> rfl
  | opcUa client => cases outcome <;> rfl

@[simp] theorem isConnected_beginRead (start count : UInt16) :
    (client.beginRead start count).1.isConnected = client.isConnected := by
  cases client with
  | modbus client => rfl
  | opcUa client =>
      change (client.beginRead start count).1.hasSession = client.hasSession
      unfold OpcUaClient.beginRead
      split
      · rfl
      · dsimp only
        split <;> rfl

/-- A read that gives values leaves the connection as it is. -/
theorem isConnected_finishRead {call : ClientCall} {answer : ReadAnswer} {outcome : ReadOutcome}
    (h : client.finishRead overflowChecks call answer = some (client', outcome))
    (hnot : ∀ message, outcome ≠ .error message) : client'.isConnected = client.isConnected := by
  unfold finishRead at h
  split at h
  case h_1 | h_3 | h_4 =>
      cases h
      exact absurd rfl (hnot _)
  case h_2 =>
      cases h
      rfl
  case h_5 =>
      split at h <;> cases h <;> rfl
  case h_6 =>
      split at h
      case h_1 =>
          cases h
          rfl
      case h_2 | h_3 =>
          cases h
          exact absurd rfl (hnot _)
      case h_4 => cases h
  case h_7 => cases h

/-- A write that succeeds leaves the connection as it is. -/
theorem isConnected_writeRegister {answer : Except String (Except String Unit)}
    (h : (client.writeRegister answer).2 = .ok ()) :
    (client.writeRegister answer).1.isConnected = client.isConnected := by
  unfold writeRegister at h ⊢
  split
  case isFalse => rfl
  case isTrue hconnected =>
      rw [if_pos hconnected] at h
      split at h <;> first | rfl | cases h

end ProtocolClient

namespace TaskLocals

variable {overflowChecks : Bool} {config : DeviceConfig} {locals locals' : TaskLocals}
  {event : ClientEvent}

theorem opens_process (values : List UInt16) (times : ℕ → Rfc3339.Instant) (before : Bool) :
    (locals.process overflowChecks config values times).2.opens before = before := by
  unfold process
  dsimp only
  split <;> rfl

/-- The client has its connection exactly when the event leaves the loop with one. -/
theorem isConnected_of_step {taskEvent : TaskEvent}
    (h : locals.step overflowChecks config event = some (locals', some taskEvent)) :
    locals'.client.isConnected = taskEvent.opens locals.client.isConnected := by
  cases event with
  | connect outcome =>
      have hconnect := @ProtocolClient.isConnected_connect locals.client outcome
      unfold step at h
      cases outcome <;> cases h <;> exact hconnect
  | slept | receive | accept | stop =>
      cases h
      rfl
  | write answer =>
      unfold step at h
      dsimp only at h
      split at h
      case h_1 hok =>
          cases h
          exact ProtocolClient.isConnected_writeRegister hok
      case h_2 =>
          cases h
          rfl
  | tick =>
      cases h
      exact ProtocolClient.isConnected_beginRead _ _
  | deliver items =>
      obtain ⟨_, _, hnone⟩ := Option.map_eq_some_iff.mp h
      cases hnone
  | read answer times =>
      obtain ⟨⟨client, outcome⟩, hfinish, hresult⟩ := Option.map_eq_some_iff.mp h
      dsimp only at hresult
      split at hresult
      case h_1 values =>
          cases hresult
          rw [client_process, opens_process]
          exact ProtocolClient.isConnected_finishRead hfinish nofun
      case h_2 =>
          cases hresult
          rfl
      case h_3 =>
          cases hresult
          exact ProtocolClient.isConnected_finishRead hfinish nofun

/-- The callback does not touch the connection. -/
theorem isConnected_of_quiet (h : locals.step overflowChecks config event = some (locals', none)) :
    locals'.client.isConnected = locals.client.isConnected := by
  unfold step at h
  cases event with
  | deliver items =>
      obtain ⟨client, hdeliver, hresult⟩ := Option.map_eq_some_iff.mp h
      cases hresult
      dsimp only
      unfold ProtocolClient.deliver at hdeliver
      split at hdeliver
      case h_1 => cases hdeliver
      case h_2 opcUa hclient =>
          split at hdeliver
          case isTrue => cases hdeliver
          case isFalse =>
              cases hdeliver
              rw [hclient]
              rfl
  | connect outcome => cases outcome <;> cases h
  | write answer =>
      dsimp only at h
      split at h <;> cases h
  | read answer times =>
      obtain ⟨_, _, hresult⟩ := Option.map_eq_some_iff.mp h
      dsimp only at hresult
      split at hresult <;> cases hresult
  | _ => cases h

end TaskLocals

/-! ## The connection of a task -/

namespace PollingSystem

variable {socketAddr : String → Bool} {overflowChecks : Bool} {s t : PollingSystem}
  {configured deviceTable : List DeviceConfig} {labels : List Label} {label : Label} {i : ℕ}

/-- A task that has not ended has its connection exactly in the phases that need one. -/
def ConnectedInPhase (stage : TaskPhase × DeviceConfig) (locals : TaskLocals) : Prop :=
  stage.1 ≠ .finished → locals.client.isConnected = stage.1.isOpen

/-- **Step lemma.** -/
theorem connectedInPhase_step (h : s.AllTasks ConnectedInPhase)
    (hstep : s.step socketAddr overflowChecks label = some t) : t.AllTasks ConnectedInPhase := by
  refine AllTasks.step ?_ ?_ ?_ h hstep
  case refine_1 =>
      intro config _
      exact ProtocolClient.isConnected_newFor config.protocol
  case refine_2 =>
      intro phase phase' config locals locals' event taskEvent hconnected hbefore hevent hphase
        hrunning
      rw [TaskLocals.isConnected_of_step hevent, hconnected hbefore, hphase.resolve_left hrunning]
  case refine_3 =>
      intro phase config locals locals' event hconnected hevent hrunning
      rw [TaskLocals.isConnected_of_quiet hevent, hconnected hrunning]

/-- The task has not ended. -/
def isRunning (s : PollingSystem) (task : ℕ) : Bool :=
  s.server.tasks[task]?.any fun t ↦ !t.isFinished

/-- `is_connected` of the task's client. -/
def clientIsConnected (s : PollingSystem) (task : ℕ) : Bool :=
  s.locals[task]?.any fun locals ↦ locals.client.isConnected

/-- `get_devices` reports the device as connected. -/
def reportsConnected (s : PollingSystem) (deviceId : String) : Bool :=
  (s.server.getDevices deviceId).any PlcDevice.isConnected

/-- The task is connecting, or waits before it connects again. -/
def isReconnecting (s : PollingSystem) (task : ℕ) : Prop :=
  ∃ t, s.server.tasks[task]? = some t ∧ (t.phase = .connecting ∨ t.phase = .sleeping)

/-- **Connection status.** In every reachable state the report on a device is right exactly when
its task is neither connecting nor waiting to connect again. -/
theorem reportsConnected_iff
    (hrun : Transition.Run (Transition.ofOption (step socketAddr overflowChecks))
      (init configured deviceTable) labels s)
    {deviceId : String} {handle : DeviceHandle} (hhandle : s.server.registry deviceId = some handle) :
    (s.reportsConnected deviceId = true ↔
        s.isRunning handle.task = true ∧ s.clientIsConnected handle.task = true) ↔
      ¬s.isReconnecting handle.task := by
  have hall : s.AllTasks ConnectedInPhase :=
    hrun.invariant (allTasks_init configured deviceTable) fun _ _ _ hu hstep ↦
      connectedInPhase_step hu hstep
  have hreport : s.reportsConnected deviceId = !s.server.taskIsFinished handle.task := by
    unfold reportsConnected DeviceRuntime.getDevices
    rw [hhandle, Option.map_some, Option.any_some]
  rw [hreport]
  unfold isRunning clientIsConnected isReconnecting DeviceRuntime.taskIsFinished
  cases htask : s.server.tasks[handle.task]? with
  | none => simp
  | some task =>
      have hstage : s.server.stages[handle.task]? = some task.stage := by
        rw [DeviceRuntime.getElem?_stages, htask, Option.map_some]
      have hlt : handle.task < s.locals.length :=
        hall.length ▸ (List.getElem?_eq_some_iff.mp hstage).1
      have hlocals := List.getElem?_eq_getElem hlt
      have hconnected := hall.each handle.task task.stage _ hstage hlocals
      rw [hlocals]
      simp only [Option.all_some, Option.any_some, Option.some.injEq, exists_eq_left',
        PollingTask.isFinished]
      unfold ConnectedInPhase PollingTask.stage at hconnected
      dsimp only at hconnected
      cases hphase : task.phase with
      | finished => simp
      | _ =>
          rw [hphase] at hconnected
          simp [hconnected, TaskPhase.isOpen]

/-- The device has been added, and its task has not connected yet. -/
def addedRun : List Label :=
  (DeviceRuntime.handled 0 (.addDevice (DeviceRuntime.reactor [])) 4).map .server

/-- The report on the device is right. -/
def reportIsRight (s : PollingSystem) (deviceId : String) (handle : DeviceHandle) : Bool :=
  s.reportsConnected deviceId == (s.isRunning handle.task && s.clientIsConnected handle.task)

theorem exists_handle_of_any {s : Option PollingSystem} {deviceId : String}
    {test : PollingSystem → DeviceHandle → Bool}
    (h : s.any fun s ↦ (s.server.registry deviceId).any (test s)) :
    ∃ u handle, s = some u ∧ u.server.registry deviceId = some handle ∧ test u handle = true := by
  obtain ⟨u, hu, hany⟩ := (Option.any_eq_true _ _).mp h
  obtain ⟨handle, hhandle, htest⟩ := (Option.any_eq_true _ _).mp hany
  exact ⟨u, handle, hu, hhandle, htest⟩

/-- A device whose PLC has never been reached is reported as connected. -/
theorem addedRun_reportsConnected :
    ∃ s handle, Transition.exec (step (fun _ ↦ true) true) (init [] []) addedRun = some s ∧
      s.server.registry "plc-01" = some handle ∧
        ¬(s.reportsConnected "plc-01" = true ↔
          s.isRunning handle.task = true ∧ s.clientIsConnected handle.task = true) := by
  obtain ⟨s, handle, hs, hhandle, hwrong⟩ := @exists_handle_of_any
    (Transition.exec (step (fun _ ↦ true) true) (init [] []) addedRun) "plc-01"
    (fun s handle ↦ !s.reportIsRight "plc-01" handle) (by decide)
  refine ⟨s, handle, hs, hhandle, fun hright ↦ ?_⟩
  rw [reportIsRight, Bool.not_eq_true', beq_eq_false_iff_ne] at hwrong
  exact hwrong (Bool.eq_iff_iff.mpr (by rw [Bool.and_eq_true]; exact hright))

theorem reportsConnected_iff_connectedTask :
    ∃ s handle, Transition.exec (step (fun _ ↦ true) true) (init [] [])
        (addedRun ++ [.task 0 (.connect (.ok true))]) = some s ∧
      s.server.registry "plc-01" = some handle ∧
        ((s.reportsConnected "plc-01" = true ↔
            s.isRunning handle.task = true ∧ s.clientIsConnected handle.task = true) ↔
          ¬s.isReconnecting handle.task) := by
  obtain ⟨s, handle, hs, hhandle, -⟩ := @exists_handle_of_any
    (Transition.exec (step (fun _ ↦ true) true) (init [] [])
      (addedRun ++ [.task 0 (.connect (.ok true))])) "plc-01"
    (fun s handle ↦ s.reportIsRight "plc-01" handle) (by decide)
  exact ⟨s, handle, hs, hhandle, reportsConnected_iff (Transition.run_ofOption_iff.mpr hs) hhandle⟩

end PollingSystem

end VyuhHmi
