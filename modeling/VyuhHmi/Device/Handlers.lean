import VyuhHmi.Device.Runtime
import VyuhHmi.Foundation.Transition

/-!
# Handlers, polling tasks and start-up

What each part of the server does from one suspension point to the next: the request handlers of
`routes.rs`, the polling task of `protocol.rs` and the device registration of `main.rs`.  A step is
`none` where the code has to wait.  The environment decides everything else: which part runs next,
whether a PLC answers, which requests arrive and which are dropped by their clients.
-/

namespace VyuhHmi

/-- What creating a protocol client does. -/
inductive ClientResult
  | created | unsupported | panicked
deriving DecidableEq

/-- The client for a device's protocol.  `ModbusClient::new` panics on an address that does not
parse as a socket address. -/
def newClient (socketAddr : String → Bool) (config : DeviceConfig) : ClientResult :=
  if config.protocol = "modbus" then
    if socketAddr config.address then .created else .panicked
  else if config.protocol = "opcua" then .created
  else .unsupported

def AddDeviceRequest.config (req : AddDeviceRequest) : DeviceConfig where
  id := req.id
  name := req.name
  address := req.address
  protocol := req.protocol
  pollRateMs := req.pollRateMs.getD 1000
  registerStart := req.registerStart
  registerCount := req.registerCount
  writable := req.writable

/-- The device as reported once its polling task has been started. -/
def DeviceConfig.connected (config : DeviceConfig) : PlcDevice where
  id := config.id
  name := config.name
  address := config.address
  protocol := config.protocol
  isConnected := true

namespace DeviceRuntime

/-! ## Request handlers -/

section Handlers

variable (socketAddr : String → Bool) (s : DeviceRuntime) (request : ℕ)

def taskIsFinished (task : ℕ) : Bool := s.tasks[task]?.all PollingTask.isFinished

/-- Create the protocol client and start polling, as `add_device` and `connect_device` do between
their two lock sections. -/
def startClient (config : DeviceConfig) : DeviceRuntime :=
  match newClient socketAddr config with
  | .created => (s.spawnTask config).setPhase request (.registering config s.tasks.length)
  | .unsupported =>
      s.answer request (.device (.fail ("Unsupported protocol: " ++ config.protocol)))
  | .panicked => s.setPhase request (.done none)

/-- Add a new device at runtime. -/
def addDevice (req : AddDeviceRequest) : RequestPhase → Option DeviceRuntime
  | .ready =>
      if s.canRead then
        if (s.registry req.id).isSome then
          some (s.answer request (.device (.fail ("Device '" ++ req.id ++ "' already exists"))))
        else some (s.setPhase request (.creating req.config))
      else none
  | .creating config => some (s.startClient socketAddr request config)
  | .registering config task =>
      if s.canWrite then
        some ((s.register config.id ⟨task, task, config⟩).setPhase request (.saving config))
      else none
  | .saving config =>
      some ((s.saveDevice config).answer request (.device (.ok config.connected)))
  | _ => none

/-- Remove a device and stop its polling task. -/
def removeDevice (deviceId : String) : RequestPhase → Option DeviceRuntime
  | .ready =>
      if s.canWrite then
        match s.registry deviceId with
        | some handle =>
            some (((s.unregister deviceId).abort handle.task).setPhase request .deleting)
        | none =>
            some (s.answer request (.text (.fail ("Device '" ++ deviceId ++ "' not found"))))
      else none
  | .deleting =>
      some ((s.deleteDevice deviceId).answer request
        (.text (.ok ("Device '" ++ deviceId ++ "' removed"))))
  | _ => none

/-- Stop polling a device and keep it in the registry. -/
def disconnectDevice (deviceId : String) : RequestPhase → Option DeviceRuntime
  | .ready =>
      if s.canWrite then
        match s.registry deviceId with
        | none =>
            some (s.answer request (.text (.fail ("Device '" ++ deviceId ++ "' not found"))))
        | some handle =>
            if s.taskIsFinished handle.task then
              some (s.answer request
                (.text (.fail ("Device '" ++ deviceId ++ "' is already disconnected"))))
            else
              some ((s.abort handle.task).answer request
                (.text (.ok ("Device '" ++ deviceId ++ "' disconnected"))))
      else none
  | _ => none

/-- Start a fresh polling task for a disconnected device. -/
def connectDevice (deviceId : String) : RequestPhase → Option DeviceRuntime
  | .ready =>
      if s.canRead then
        match s.registry deviceId with
        | none =>
            some (s.answer request (.device (.fail ("Device '" ++ deviceId ++ "' not found"))))
        | some handle =>
            if s.taskIsFinished handle.task then
              some (s.setPhase request (.creating handle.config))
            else
              some (s.answer request
                (.device (.fail ("Device '" ++ deviceId ++ "' is already connected"))))
      else none
  | .creating config => some (s.startClient socketAddr request config)
  | .registering config task =>
      if s.canWrite then
        let stored := match s.registry deviceId with
          | some handle => s.register deviceId { handle with task := task, writeTx := task }
          | none => s
        some (stored.answer request (.device (.ok config.connected)))
      else none
  | _ => none

/-- Append a command to a channel and wait for its reply. -/
def pushCommand (channel : ℕ) (req : WriteRequest) : DeviceRuntime :=
  (s.updateTask channel fun task ↦
    { task with queue := task.queue ++ [⟨req.register, req.value, request⟩] }).setPhase request
      (.waiting none)

/-- Write the audit entry and answer. -/
def auditWrite (claims : Claims) (req : WriteRequest) (now : Instant) : DeviceRuntime :=
  let audited : DeviceRuntime := { s with
    auditTrail := logAudit s.auditTrail claims.userId claims.sub "write_register"
      (some req.deviceId) (writeDetails req.register req.value) none now
    auditedBy := s.auditedBy ++ [request] }
  audited.answer request (.text (.ok ("[" ++ req.deviceId ++ "] Register " ++
    toString req.register.toNat ++ " = " ++ toString req.value.toNat)))

/-- Route a write to the device's channel and audit it once it has been performed. -/
def postWrite (claims : Claims) (req : WriteRequest) (now : Instant) :
    RequestPhase → Option DeviceRuntime
  | .ready =>
      if s.canRead then
        match s.registry req.deviceId with
        | none => some (s.answer request (.text (.fail ("Unknown device: " ++ req.deviceId))))
        | some handle =>
            if req.register ∈ handle.config.writable then
              some (s.setPhase request (.sending handle.writeTx))
            else
              some (s.answer request (.text (.fail ("Register " ++ toString req.register.toNat ++
                " is not writable on '" ++ req.deviceId ++ "'"))))
      else none
  | .sending channel =>
      s.tasks[channel]?.bind fun task ↦
        if task.isFinished then
          some (s.answer request (.text (.fail "Failed to queue write: channel closed")))
        else if task.queue.length < channelCapacity then some (s.pushCommand request channel req)
        else none
  | .waiting (some .ok) => some (s.setPhase request .auditing)
  | .waiting (some (.err error)) =>
      some (s.answer request (.text (.fail ("Write failed: " ++ error))))
  | .waiting (some .dropped) =>
      some (s.answer request (.text (.fail "Write channel dropped")))
  | .auditing => some (s.auditWrite request claims req now)
  | _ => none

/-- Run a handler to its next suspension point. -/
def advance (now : Instant) : Option DeviceRuntime :=
  s.requests[request]?.bind fun r ↦
    match r.call with
    | .addDevice req => s.addDevice socketAddr request req r.phase
    | .removeDevice deviceId => s.removeDevice request deviceId r.phase
    | .disconnectDevice deviceId => s.disconnectDevice request deviceId r.phase
    | .connectDevice deviceId => s.connectDevice socketAddr request deviceId r.phase
    | .postWrite claims req => s.postWrite request claims req now r.phase

/-- The client goes away, and the handler's future is dropped where it is. -/
def cancel : Option DeviceRuntime :=
  s.requests[request]?.bind fun r ↦
    if r.isDone then none else some (s.setPhase request (.done none))

end Handlers

/-! ## Polling tasks -/

/-- What happens to a polling task: the outcome of what it waits for, or the end that an abort or a
panic puts to it. -/
inductive TaskEvent
  | connected
  | connectFailed
  | slept
  | receive
  | accept
  | written
  | writeFailed (error : String) (connected : Bool)
  | tick
  | readDone
  | readFailed (connected : Bool)
  | readPanicked
  | stop
deriving DecidableEq

/-- Start executing the next command of the channel. -/
def receiveCommand (s : DeviceRuntime) (task : ℕ) (command : WriteCommand)
    (rest : List WriteCommand) : DeviceRuntime :=
  s.updateTask task fun t ↦ { t with phase := .writing command false, queue := rest }

/-- The PLC accepts the write. -/
def acceptWrite (s : DeviceRuntime) (task : ℕ) (deviceId : String) (command : WriteCommand) :
    DeviceRuntime :=
  { s.setTaskPhase task (.writing command true) with
    plcWrites := s.plcWrites ++ [⟨deviceId, command⟩] }

/-- `write_register` returns an error.  A write that the PLC had not accepted by then may still
arrive there. -/
def failWrite (s : DeviceRuntime) (task : ℕ) (t : PollingTask) (command : WriteCommand)
    (error : String) (connected : Bool) : DeviceRuntime :=
  { (s.setTaskPhase task (if connected then .polling else .sleeping)).reply [command] (.err error)
      with
    lateWrites := s.lateWrites ++ t.pendingCommand.map (PlcWrite.mk t.config.id) }

/-- Run a polling task to its next suspension point.  `tokio::time::interval` panics on a zero
poll rate, and processing the readings may panic on an overflow if the build checks for it.  A
write that succeeds has been accepted by the PLC. -/
def pollTask (overflowChecks : Bool) (s : DeviceRuntime) (task : ℕ) (event : TaskEvent) :
    Option DeviceRuntime :=
  s.tasks[task]?.bind fun t ↦
    match t.phase, event with
    | .connecting, .connected =>
        some (if t.config.pollRateMs = 0 then s.finish task t else s.setTaskPhase task .polling)
    | .connecting, .connectFailed => some (s.setTaskPhase task .sleeping)
    | .sleeping, .slept => some (s.setTaskPhase task .connecting)
    | .polling, .receive =>
        match t.queue with
        | command :: rest => some (s.receiveCommand task command rest)
        | [] => none
    | .polling, .tick => some (s.setTaskPhase task .reading)
    | .writing command false, .accept => some (s.acceptWrite task t.config.id command)
    | .writing command true, .written =>
        some ((s.setTaskPhase task .polling).reply [command] .ok)
    | .writing command _, .writeFailed error connected =>
        some (s.failWrite task t command error connected)
    | .reading, .readDone => some (s.setTaskPhase task .polling)
    | .reading, .readFailed connected =>
        some (s.setTaskPhase task (if connected then .polling else .sleeping))
    | .reading, .readPanicked => if overflowChecks then some (s.finish task t) else none
    | .finished, .stop => none
    | _, .stop => if t.aborted then some (s.finish task t) else none
    | _, _ => none

/-- A PLC accepts a write that its task has given up. -/
def acceptLate (s : DeviceRuntime) (index : ℕ) : Option DeviceRuntime :=
  s.lateWrites[index]?.map fun write ↦
    { s with
      lateWrites := s.lateWrites.eraseIdx index
      plcWrites := s.plcWrites ++ [write] }

/-! ## Start-up -/

/-- Start polling a device and enter it into the registry. -/
def registerNew (s : DeviceRuntime) (config : DeviceConfig) : DeviceRuntime :=
  (s.spawnTask config).register config.id ⟨s.tasks.length, s.tasks.length, config⟩

/-- Register the next device: those of the configuration file as they come, then those of the
database that are not in the registry.  A panic here ends the process. -/
def registerAtStart (socketAddr : String → Bool) (s : DeviceRuntime) : Option DeviceRuntime :=
  match s.configured, s.persisted with
  | config :: rest, _ =>
      match newClient socketAddr config with
      | .created => some { s.registerNew config with configured := rest }
      | .unsupported => some { s with configured := rest }
      | .panicked => none
  | [], config :: rest =>
      if (s.registry config.id).isSome then some { s with persisted := rest }
      else
        match newClient socketAddr config with
        | .created => some { s.registerNew config with persisted := rest }
        | .unsupported => some { s with persisted := rest }
        | .panicked => none
  | [], [] => none

/-- The server listens once start-up is over. -/
def arrive (s : DeviceRuntime) (call : DeviceCall) : Option DeviceRuntime :=
  if s.configured.isEmpty && s.persisted.isEmpty then
    some { s with requests := s.requests ++ [⟨call, .ready⟩] }
  else none

/-! ## The system -/

/-- One step of the server or its environment. -/
inductive Label
  | registerAtStart
  | arrive (call : DeviceCall)
  | advance (request : ℕ) (now : Instant)
  | cancel (request : ℕ)
  | poll (task : ℕ) (event : TaskEvent)
  | acceptLate (index : ℕ)
deriving DecidableEq

def step (socketAddr : String → Bool) (overflowChecks : Bool) (s : DeviceRuntime) :
    Label → Option DeviceRuntime
  | .registerAtStart => s.registerAtStart socketAddr
  | .arrive call => s.arrive call
  | .advance request now => s.advance socketAddr request now
  | .cancel request => s.cancel request
  | .poll task event => s.pollTask overflowChecks task event
  | .acceptLate index => s.acceptLate index

/-! ## Concrete requests -/

/-- An OPC UA device with the given writable registers. -/
def reactor (writable : List UInt16) : AddDeviceRequest where
  id := "plc-01"
  name := "Batch Reactor"
  address := "opc.tcp://127.0.0.1:4840/"
  protocol := "opcua"
  pollRateMs := some 1000
  registerStart := 1028
  registerCount := 8
  writable := writable

def operatorClaims : Claims := ⟨"operator", "operator", "user-2", 28800, 0, some "session-1"⟩

/-- A request that is handled without interruption. -/
def handled (request : ℕ) (call : DeviceCall) (sections : ℕ) : List Label :=
  .arrive call :: List.replicate sections (.advance request 0)

end DeviceRuntime

end VyuhHmi
