import Mathlib.Tactic.Simps.Basic
import VyuhHmi.Audit.Trail
import VyuhHmi.Foundation.ListUpdate

/-!
# The device runtime

The state that the device requests, the polling tasks and the PLCs share, and the single updates
made to it.  A polling task and its command channel are created together, so both are named by the
task's place in `tasks`.  A handler is where its future is suspended: between two lock sections,
waiting for room in a channel, waiting for a reply, or done.  What a handler holds of the registry
lock follows from where it is.
-/

namespace VyuhHmi

/-- A write command routed to a specific device's polling task.  The reply channel is named by the
request that waits on it. -/
structure WriteCommand where
  register : UInt16
  value : UInt16
  response : ℕ
deriving DecidableEq

/-- What a waiting write request receives: the result of the write, or that the reply channel was
dropped. -/
inductive WriteReply
  | ok
  | err (error : String)
  | dropped
deriving DecidableEq

/-- Per-device runtime info: write channel, polling task and configuration. -/
structure DeviceHandle where
  writeTx : ℕ
  task : ℕ
  config : DeviceConfig
deriving DecidableEq

/-- Where a polling task is suspended.  `writing` holds the command and whether the PLC has
accepted it. -/
inductive TaskPhase
  | connecting
  | polling
  | writing (command : WriteCommand) (accepted : Bool)
  | reading
  | sleeping
  | finished
deriving DecidableEq

/-- A polling task with the commands in its channel. -/
structure PollingTask where
  config : DeviceConfig
  phase : TaskPhase
  queue : List WriteCommand
  aborted : Bool
deriving DecidableEq

namespace PollingTask

def spawn (config : DeviceConfig) : PollingTask := ⟨config, .connecting, [], false⟩

def isFinished (task : PollingTask) : Bool := task.phase == .finished

/-- The task still runs and has not been told to stop. -/
def isLive (task : PollingTask) : Bool := !task.isFinished && !task.aborted

/-- The command being executed. -/
def current (task : PollingTask) : List WriteCommand :=
  match task.phase with
  | .writing command _ => [command]
  | _ => []

theorem mem_current_iff {task : PollingTask} {command : WriteCommand} :
    command ∈ task.current ↔ ∃ accepted, task.phase = .writing command accepted := by
  unfold current
  cases task.phase <;> simp [eq_comm]

/-- The commands whose reply channel the task holds. -/
def commands (task : PollingTask) : List WriteCommand := task.current ++ task.queue

/-- The command being executed, once the PLC has accepted it. -/
def acceptedCommand (task : PollingTask) : List WriteCommand :=
  match task.phase with
  | .writing command true => [command]
  | _ => []

/-- The command being executed, while the PLC has not accepted it. -/
def pendingCommand (task : PollingTask) : List WriteCommand :=
  match task.phase with
  | .writing command false => [command]
  | _ => []

end PollingTask

/-- The capacity of a device's command channel. -/
def channelCapacity : ℕ := 32

/-- The requests that reach the device registry.  A write request carries the claims that the
operator middleware has put into it. -/
inductive DeviceCall
  | addDevice (req : AddDeviceRequest)
  | removeDevice (deviceId : String)
  | disconnectDevice (deviceId : String)
  | connectDevice (deviceId : String)
  | postWrite (claims : Claims) (req : WriteRequest)
deriving DecidableEq

/-- A handler's answer. -/
inductive Response
  | device (body : ApiResponse PlcDevice)
  | text (body : ApiResponse String)
deriving DecidableEq

def Response.success : Response → Bool
  | .device body => body.success
  | .text body => body.success

/-- Where a handler is suspended.  `done none` is a handler that was dropped or has panicked. -/
inductive RequestPhase
  | ready
  | creating (config : DeviceConfig)
  | registering (config : DeviceConfig) (task : ℕ)
  | saving (config : DeviceConfig)
  | deleting
  | sending (channel : ℕ)
  | waiting (reply : Option WriteReply)
  | auditing
  | done (response : Option Response)
deriving DecidableEq

/-- 1 for a handler that is sending to the channel. -/
def RequestPhase.sendsTo (channel : ℕ) (phase : RequestPhase) : ℕ :=
  if phase = .sending channel then 1 else 0

structure DeviceRequest where
  call : DeviceCall
  phase : RequestPhase
deriving DecidableEq

namespace DeviceRequest

def isDone (request : DeviceRequest) : Bool :=
  match request.phase with
  | .done _ => true
  | _ => false

def isWrite (request : DeviceRequest) : Bool :=
  match request.call with
  | .postWrite _ _ => true
  | _ => false

/-- `post_write` keeps the read lock while it sends its command. -/
def holdsRead (request : DeviceRequest) : Bool :=
  match request.phase with
  | .sending _ => true
  | _ => false

/-- `remove_device` keeps the write lock while it deletes the device's row. -/
def holdsWrite (request : DeviceRequest) : Bool := request.phase == .deleting

/-- The handler keeps the registry lock while it is suspended. -/
def holdsLock (request : DeviceRequest) : Bool := request.holdsRead || request.holdsWrite

/-- The reply arrives, if the handler is still there. -/
def receive (reply : WriteReply) (request : DeviceRequest) : DeviceRequest :=
  match request.phase with
  | .waiting none => { request with phase := .waiting (some reply) }
  | _ => request

end DeviceRequest

/-- A register write that a PLC has accepted, or may still accept. -/
structure PlcWrite where
  deviceId : String
  command : WriteCommand
deriving DecidableEq

/-- The server's devices, requests and PLC writes.  `configured` and `persisted` are what start-up
has still to register.  `lateWrites` are writes given up by their task that the PLC may yet accept.
`plcWrites` and `auditedBy` are history: the writes accepted, and the request behind each entry of
the audit trail. -/
structure DeviceRuntime where
  configured : List DeviceConfig
  persisted : List DeviceConfig
  registry : String → Option DeviceHandle
  deviceTable : List DeviceConfig
  tasks : List PollingTask
  requests : List DeviceRequest
  lateWrites : List PlcWrite
  plcWrites : List PlcWrite
  auditTrail : AuditTable
  auditedBy : List ℕ

namespace DeviceRuntime

/-- The server before start-up registration, with the rows of the `devices` table. -/
def init (configured deviceTable : List DeviceConfig) : DeviceRuntime where
  configured := configured
  persisted := deviceTable
  registry := fun _ ↦ none
  deviceTable := deviceTable
  tasks := []
  requests := []
  lateWrites := []
  plcWrites := []
  auditTrail := .empty
  auditedBy := []

/-! ## Single updates -/

variable (s : DeviceRuntime)

/-- The registry lock can be taken for reading. -/
def canRead : Bool := s.requests.all fun request ↦ !request.holdsWrite

/-- The registry lock can be taken for writing. -/
def canWrite : Bool := s.requests.all fun request ↦ !request.holdsWrite && !request.holdsRead

/-- The task runs and has not been told to stop. -/
def taskIsLive (task : ℕ) : Bool := s.tasks[task]?.any PollingTask.isLive

@[simps]
def setPhase (request : ℕ) (phase : RequestPhase) : DeviceRuntime :=
  { s with requests := s.requests.modify request fun r ↦ { r with phase := phase } }

/-- Return from a handler. -/
abbrev answer (request : ℕ) (response : Response) : DeviceRuntime :=
  s.setPhase request (.done (some response))

@[simps]
def updateTask (task : ℕ) (f : PollingTask → PollingTask) : DeviceRuntime :=
  { s with tasks := s.tasks.modify task f }

abbrev setTaskPhase (task : ℕ) (phase : TaskPhase) : DeviceRuntime :=
  s.updateTask task fun t ↦ { t with phase := phase }

/-- `JoinHandle::abort`: the task is told to stop. -/
abbrev abort (task : ℕ) : DeviceRuntime := s.updateTask task fun t ↦ { t with aborted := true }

/-- `start_device_polling`: a new task with a fresh channel. -/
@[simps]
def spawnTask (config : DeviceConfig) : DeviceRuntime :=
  { s with tasks := s.tasks ++ [.spawn config] }

@[simps]
def register (deviceId : String) (handle : DeviceHandle) : DeviceRuntime :=
  { s with registry := Function.update s.registry deviceId (some handle) }

@[simps]
def unregister (deviceId : String) : DeviceRuntime :=
  { s with registry := Function.update s.registry deviceId none }

/-- Every request behind one of the commands gets the reply. -/
@[simps]
def reply (commands : List WriteCommand) (reply : WriteReply) : DeviceRuntime :=
  { s with
    requests := s.requests.mapIdx fun i request ↦
      if commands.any (fun command ↦ command.response == i) then request.receive reply
      else request }

/-- The task ends: its client and its channel are dropped with every command in them.  A write on
its way to the PLC may still be accepted. -/
def finish (task : ℕ) (t : PollingTask) : DeviceRuntime :=
  let ended := (s.updateTask task fun t ↦ { t with phase := .finished, queue := [] }).reply
    t.commands .dropped
  { ended with
    lateWrites := s.lateWrites ++ t.pendingCommand.map (PlcWrite.mk t.config.id) }

/-- `save_device`: `INSERT OR REPLACE`. -/
def saveDevice (config : DeviceConfig) : DeviceRuntime :=
  { s with deviceTable := s.deviceTable.filter (fun row ↦ row.id != config.id) ++ [config] }

/-- `delete_device`. -/
def deleteDevice (deviceId : String) : DeviceRuntime :=
  { s with deviceTable := s.deviceTable.filter fun row ↦ row.id != deviceId }

end DeviceRuntime

end VyuhHmi
