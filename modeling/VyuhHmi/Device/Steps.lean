import VyuhHmi.Device.Handlers

/-!
# What a step can do

Every step of the device runtime is one of the cases below, each with what the code has checked
before it and the updates it makes.  Invariants are proved by cases over these, and no later proof
unfolds a handler.
-/

namespace VyuhHmi

/-- Phases from which a handler returns without having seen its write performed. -/
def RequestPhase.returns : RequestPhase → Bool
  | .ready | .creating _ | .saving _ | .deleting | .sending _ => true
  | .waiting (some (.err _)) | .waiting (some .dropped) => true
  | _ => false

/-- Phases in which a task holds no command of its own. -/
def TaskPhase.quiet : TaskPhase → Bool
  | .connecting | .polling | .reading | .sleeping => true
  | _ => false

namespace DeviceRuntime

/-- The cases of a step.  `request` and `task` entries are those before the step. -/
inductive Effect (socketAddr : String → Bool) (s : DeviceRuntime) : Label → DeviceRuntime → Prop
  | register (config : DeviceConfig) (configured persisted : List DeviceConfig)
      (hcreated : newClient socketAddr config = .created)
      (hnext : s.configured.head? = some config ∨ s.registry config.id = none) :
      Effect socketAddr s .registerAtStart
        { s.registerNew config with configured := configured, persisted := persisted }
  | skip (configured persisted : List DeviceConfig) :
      Effect socketAddr s .registerAtStart { s with configured := configured, persisted := persisted }
  | arrive (call : DeviceCall) :
      Effect socketAddr s (.arrive call) { s with requests := s.requests ++ [⟨call, .ready⟩] }
  | answer {i : ℕ} {now : Instant} {request : DeviceRequest} (table : List DeviceConfig)
      (response : Response) (hrequest : s.requests[i]? = some request)
      (hphase : request.phase.returns) (hwrite : request.isWrite → response.success = false) :
      Effect socketAddr s (.advance i now) (({ s with deviceTable := table }).answer i response)
  | createNew {i : ℕ} {now : Instant} {req : AddDeviceRequest}
      (hrequest : s.requests[i]? = some ⟨.addDevice req, .ready⟩) :
      Effect socketAddr s (.advance i now) (s.setPhase i (.creating req.config))
  | createAgain {i : ℕ} {now : Instant} {deviceId : String} {handle : DeviceHandle}
      (hrequest : s.requests[i]? = some ⟨.connectDevice deviceId, .ready⟩)
      (hhandle : s.registry deviceId = some handle) :
      Effect socketAddr s (.advance i now) (s.setPhase i (.creating handle.config))
  | spawn {i : ℕ} {now : Instant} {call : DeviceCall} {config : DeviceConfig}
      (hrequest : s.requests[i]? = some ⟨call, .creating config⟩) :
      Effect socketAddr s (.advance i now)
        ((s.spawnTask config).setPhase i (.registering config s.tasks.length))
  | panic {i : ℕ} {now : Instant} {call : DeviceCall} {config : DeviceConfig}
      (hrequest : s.requests[i]? = some ⟨call, .creating config⟩) :
      Effect socketAddr s (.advance i now) (s.setPhase i (.done none))
  | registerAdded {i : ℕ} {now : Instant} {req : AddDeviceRequest} {config : DeviceConfig}
      {task : ℕ} (hrequest : s.requests[i]? = some ⟨.addDevice req, .registering config task⟩) :
      Effect socketAddr s (.advance i now)
        ((s.register config.id ⟨task, task, config⟩).setPhase i (.saving config))
  | registerConnected {i : ℕ} {now : Instant} {deviceId : String} {config : DeviceConfig}
      {task : ℕ} {handle : DeviceHandle} (response : Response)
      (hrequest : s.requests[i]? = some ⟨.connectDevice deviceId, .registering config task⟩)
      (hhandle : s.registry deviceId = some handle) :
      Effect socketAddr s (.advance i now)
        ((s.register deviceId { handle with task := task, writeTx := task }).answer i response)
  | registerGone {i : ℕ} {now : Instant} {deviceId : String} {config : DeviceConfig} {task : ℕ}
      (response : Response)
      (hrequest : s.requests[i]? = some ⟨.connectDevice deviceId, .registering config task⟩)
      (hgone : s.registry deviceId = none) :
      Effect socketAddr s (.advance i now) (s.answer i response)
  | remove {i : ℕ} {now : Instant} {deviceId : String} {handle : DeviceHandle}
      (hrequest : s.requests[i]? = some ⟨.removeDevice deviceId, .ready⟩)
      (hhandle : s.registry deviceId = some handle) :
      Effect socketAddr s (.advance i now)
        (((s.unregister deviceId).abort handle.task).setPhase i .deleting)
  | disconnect {i : ℕ} {now : Instant} {deviceId : String} {handle : DeviceHandle}
      (response : Response)
      (hrequest : s.requests[i]? = some ⟨.disconnectDevice deviceId, .ready⟩)
      (hhandle : s.registry deviceId = some handle) :
      Effect socketAddr s (.advance i now) ((s.abort handle.task).answer i response)
  | send {i : ℕ} {now : Instant} {claims : Claims} {req : WriteRequest} {handle : DeviceHandle}
      (hrequest : s.requests[i]? = some ⟨.postWrite claims req, .ready⟩)
      (hhandle : s.registry req.deviceId = some handle)
      (hwritable : req.register ∈ handle.config.writable) :
      Effect socketAddr s (.advance i now) (s.setPhase i (.sending handle.writeTx))
  | push {i : ℕ} {now : Instant} {claims : Claims} {req : WriteRequest} {channel : ℕ}
      {task : PollingTask}
      (hrequest : s.requests[i]? = some ⟨.postWrite claims req, .sending channel⟩)
      (htask : s.tasks[channel]? = some task) (hroom : task.queue.length < channelCapacity) :
      Effect socketAddr s (.advance i now) (s.pushCommand i channel req)
  | succeed {i : ℕ} {now : Instant} {call : DeviceCall}
      (hrequest : s.requests[i]? = some ⟨call, .waiting (some .ok)⟩) :
      Effect socketAddr s (.advance i now) (s.setPhase i .auditing)
  | audit {i : ℕ} {now : Instant} {claims : Claims} {req : WriteRequest}
      (hrequest : s.requests[i]? = some ⟨.postWrite claims req, .auditing⟩) :
      Effect socketAddr s (.advance i now) (s.auditWrite i claims req now)
  | cancel {i : ℕ} {request : DeviceRequest} (hrequest : s.requests[i]? = some request)
      (hphase : request.isDone = false) :
      Effect socketAddr s (.cancel i) (s.setPhase i (.done none))
  | move {i : ℕ} {event : TaskEvent} {task : PollingTask} (phase : TaskPhase)
      (htask : s.tasks[i]? = some task) (hfrom : task.phase.quiet) (hto : phase.quiet) :
      Effect socketAddr s (.poll i event) (s.setTaskPhase i phase)
  | receive {i : ℕ} {task : PollingTask} {command : WriteCommand} {rest : List WriteCommand}
      (htask : s.tasks[i]? = some task) (hphase : task.phase = .polling)
      (hqueue : task.queue = command :: rest) :
      Effect socketAddr s (.poll i .receive) (s.receiveCommand i command rest)
  | accept {i : ℕ} {task : PollingTask} {command : WriteCommand}
      (htask : s.tasks[i]? = some task) (hphase : task.phase = .writing command false) :
      Effect socketAddr s (.poll i .accept) (s.acceptWrite i task.config.id command)
  | written {i : ℕ} {task : PollingTask} {command : WriteCommand}
      (htask : s.tasks[i]? = some task) (hphase : task.phase = .writing command true) :
      Effect socketAddr s (.poll i .written) ((s.setTaskPhase i .polling).reply [command] .ok)
  | writeFailed {i : ℕ} {task : PollingTask} {command : WriteCommand} {accepted : Bool}
      (error : String) (connected : Bool) (htask : s.tasks[i]? = some task)
      (hphase : task.phase = .writing command accepted) :
      Effect socketAddr s (.poll i (.writeFailed error connected))
        (s.failWrite i task command error connected)
  | finish {i : ℕ} {event : TaskEvent} {task : PollingTask} (htask : s.tasks[i]? = some task)
      (hevent : event = .stop ∨ task.phase.quiet) :
      Effect socketAddr s (.poll i event) (s.finish i task)
  | acceptLate {index : ℕ} {write : PlcWrite} (hwrite : s.lateWrites[index]? = some write) :
      Effect socketAddr s (.acceptLate index)
        { s with
          lateWrites := s.lateWrites.eraseIdx index
          plcWrites := s.plcWrites ++ [write] }

variable {socketAddr : String → Bool} {overflowChecks : Bool} {s t : DeviceRuntime}

theorem effect_startClient {i : ℕ} {now : Instant} {call : DeviceCall} {config : DeviceConfig}
    (hrequest : s.requests[i]? = some ⟨call, .creating config⟩) :
    Effect socketAddr s (.advance i now) (s.startClient socketAddr i config) := by
  unfold startClient
  split
  case h_1 => exact .spawn hrequest
  case h_2 => exact .answer s.deviceTable _ hrequest rfl fun _ ↦ rfl
  case h_3 => exact .panic hrequest

theorem effect_addDevice {i : ℕ} {now : Instant} {req : AddDeviceRequest} {phase : RequestPhase}
    (hrequest : s.requests[i]? = some ⟨.addDevice req, phase⟩)
    (h : s.addDevice socketAddr i req phase = some t) : Effect socketAddr s (.advance i now) t := by
  unfold addDevice at h
  split at h
  case h_1 =>
      split at h
      case isTrue =>
          split at h
          case isTrue =>
              cases h
              exact .answer s.deviceTable _ hrequest rfl fun _ ↦ rfl
          case isFalse =>
              cases h
              exact .createNew hrequest
      case isFalse => cases h
  case h_2 =>
      cases h
      exact effect_startClient hrequest
  case h_3 =>
      split at h
      case isTrue =>
          cases h
          exact .registerAdded hrequest
      case isFalse => cases h
  case h_4 =>
      cases h
      exact .answer _ _ hrequest rfl fun hwrite ↦ by cases hwrite
  case h_5 => cases h

theorem effect_removeDevice {i : ℕ} {now : Instant} {deviceId : String} {phase : RequestPhase}
    (hrequest : s.requests[i]? = some ⟨.removeDevice deviceId, phase⟩)
    (h : s.removeDevice i deviceId phase = some t) : Effect socketAddr s (.advance i now) t := by
  unfold removeDevice at h
  split at h
  case h_1 =>
      split at h
      case isTrue =>
          split at h
          case h_1 hhandle =>
              cases h
              exact .remove hrequest hhandle
          case h_2 =>
              cases h
              exact .answer s.deviceTable _ hrequest rfl fun _ ↦ rfl
      case isFalse => cases h
  case h_2 =>
      cases h
      exact .answer _ _ hrequest rfl fun hwrite ↦ by cases hwrite
  case h_3 => cases h

theorem effect_disconnectDevice {i : ℕ} {now : Instant} {deviceId : String} {phase : RequestPhase}
    (hrequest : s.requests[i]? = some ⟨.disconnectDevice deviceId, phase⟩)
    (h : s.disconnectDevice i deviceId phase = some t) : Effect socketAddr s (.advance i now) t := by
  unfold disconnectDevice at h
  split at h
  case h_1 =>
      split at h
      case isTrue =>
          split at h
          case h_1 =>
              cases h
              exact .answer s.deviceTable _ hrequest rfl fun _ ↦ rfl
          case h_2 hhandle =>
              split at h
              case isTrue =>
                  cases h
                  exact .answer s.deviceTable _ hrequest rfl fun _ ↦ rfl
              case isFalse =>
                  cases h
                  exact .disconnect _ hrequest hhandle
      case isFalse => cases h
  case h_2 => cases h

theorem effect_connectDevice {i : ℕ} {now : Instant} {deviceId : String} {phase : RequestPhase}
    (hrequest : s.requests[i]? = some ⟨.connectDevice deviceId, phase⟩)
    (h : s.connectDevice socketAddr i deviceId phase = some t) :
    Effect socketAddr s (.advance i now) t := by
  unfold connectDevice at h
  split at h
  case h_1 =>
      split at h
      case isTrue =>
          split at h
          case h_1 =>
              cases h
              exact .answer s.deviceTable _ hrequest rfl fun _ ↦ rfl
          case h_2 hhandle =>
              split at h
              case isTrue =>
                  cases h
                  exact .createAgain hrequest hhandle
              case isFalse =>
                  cases h
                  exact .answer s.deviceTable _ hrequest rfl fun _ ↦ rfl
      case isFalse => cases h
  case h_2 =>
      cases h
      exact effect_startClient hrequest
  case h_3 =>
      split at h
      case isTrue =>
          cases h
          split
          case h_1 hhandle => exact .registerConnected _ hrequest hhandle
          case h_2 hgone => exact .registerGone _ hrequest hgone
      case isFalse => cases h
  case h_4 => cases h

theorem effect_postWrite {i : ℕ} {now : Instant} {claims : Claims} {req : WriteRequest}
    {phase : RequestPhase} (hrequest : s.requests[i]? = some ⟨.postWrite claims req, phase⟩)
    (h : s.postWrite i claims req now phase = some t) : Effect socketAddr s (.advance i now) t := by
  unfold postWrite at h
  split at h
  case h_1 =>
      split at h
      case isTrue =>
          split at h
          case h_1 =>
              cases h
              exact .answer s.deviceTable _ hrequest rfl fun _ ↦ rfl
          case h_2 hhandle =>
              split at h
              case isTrue hwritable =>
                  cases h
                  exact .send hrequest hhandle hwritable
              case isFalse =>
                  cases h
                  exact .answer s.deviceTable _ hrequest rfl fun _ ↦ rfl
      case isFalse => cases h
  case h_2 =>
      obtain ⟨task, htask, hsend⟩ := Option.bind_eq_some_iff.mp h
      split at hsend
      case isTrue =>
          cases hsend
          exact .answer s.deviceTable _ hrequest rfl fun _ ↦ rfl
      case isFalse =>
          split at hsend
          case isTrue hroom =>
              cases hsend
              exact .push hrequest htask hroom
          case isFalse => cases hsend
  case h_3 =>
      cases h
      exact .succeed hrequest
  case h_4 =>
      cases h
      exact .answer s.deviceTable _ hrequest rfl fun _ ↦ rfl
  case h_5 =>
      cases h
      exact .answer s.deviceTable _ hrequest rfl fun _ ↦ rfl
  case h_6 =>
      cases h
      exact .audit hrequest
  case h_7 => cases h

theorem effect_advance {i : ℕ} {now : Instant} (h : s.advance socketAddr i now = some t) :
    Effect socketAddr s (.advance i now) t := by
  obtain ⟨⟨call, phase⟩, hrequest, hadvance⟩ := Option.bind_eq_some_iff.mp h
  cases call with
  | addDevice req => exact effect_addDevice hrequest hadvance
  | removeDevice deviceId => exact effect_removeDevice hrequest hadvance
  | disconnectDevice deviceId => exact effect_disconnectDevice hrequest hadvance
  | connectDevice deviceId => exact effect_connectDevice hrequest hadvance
  | postWrite claims req => exact effect_postWrite hrequest hadvance

theorem effect_cancel {i : ℕ} (h : s.cancel i = some t) : Effect socketAddr s (.cancel i) t := by
  obtain ⟨request, hrequest, hcancel⟩ := Option.bind_eq_some_iff.mp h
  split at hcancel
  case isTrue => cases hcancel
  case isFalse hphase =>
      cases hcancel
      exact .cancel hrequest (by simpa using hphase)

theorem effect_pollTask {i : ℕ} {event : TaskEvent}
    (h : s.pollTask overflowChecks i event = some t) : Effect socketAddr s (.poll i event) t := by
  obtain ⟨task, htask, hpoll⟩ := Option.bind_eq_some_iff.mp h
  split at hpoll
  case h_1 hphase =>
      cases hpoll
      split
      case isTrue => exact .finish htask (.inr (by simp [hphase, TaskPhase.quiet]))
      case isFalse => exact .move _ htask (by simp [hphase, TaskPhase.quiet]) rfl
  case h_2 hphase =>
      cases hpoll
      exact .move _ htask (by simp [hphase, TaskPhase.quiet]) rfl
  case h_3 hphase =>
      cases hpoll
      exact .move _ htask (by simp [hphase, TaskPhase.quiet]) rfl
  case h_4 hphase =>
      split at hpoll
      case h_1 hqueue =>
          cases hpoll
          exact .receive htask hphase hqueue
      case h_2 => cases hpoll
  case h_5 hphase =>
      cases hpoll
      exact .move _ htask (by simp [hphase, TaskPhase.quiet]) rfl
  case h_6 hphase =>
      cases hpoll
      exact .accept htask hphase
  case h_7 hphase =>
      cases hpoll
      exact .written htask hphase
  case h_8 hphase =>
      cases hpoll
      exact .writeFailed _ _ htask hphase
  case h_9 hphase =>
      cases hpoll
      exact .move _ htask (by simp [hphase, TaskPhase.quiet]) rfl
  case h_10 hphase =>
      cases hpoll
      refine .move _ htask (by simp [hphase, TaskPhase.quiet]) ?_
      split <;> rfl
  case h_11 hphase =>
      split at hpoll
      case isTrue =>
          cases hpoll
          exact .finish htask (.inr (by simp [hphase, TaskPhase.quiet]))
      case isFalse => cases hpoll
  case h_12 => cases hpoll
  case h_13 =>
      split at hpoll
      case isTrue =>
          cases hpoll
          exact .finish htask (.inl rfl)
      case isFalse => cases hpoll
  case h_14 => cases hpoll

theorem effect_registerAtStart (h : s.registerAtStart socketAddr = some t) :
    Effect socketAddr s .registerAtStart t := by
  unfold registerAtStart at h
  split at h
  case h_1 config rest hconfigured =>
      split at h
      case h_1 hcreated =>
          cases h
          exact .register config rest s.persisted hcreated (.inl (by simp [hconfigured]))
      case h_2 =>
          cases h
          exact .skip rest s.persisted
      case h_3 => cases h
  case h_2 config rest _ _ =>
      split at h
      case isTrue =>
          cases h
          exact .skip s.configured rest
      case isFalse hnone =>
          split at h
          case h_1 hcreated =>
              cases h
              exact .register config s.configured rest hcreated (.inr (by simpa using hnone))
          case h_2 =>
              cases h
              exact .skip s.configured rest
          case h_3 => cases h
  case h_3 => cases h

/-- **Inversion of a step.** -/
theorem effect_of_step {label : Label} (h : step socketAddr overflowChecks s label = some t) :
    Effect socketAddr s label t := by
  cases label with
  | registerAtStart => exact effect_registerAtStart h
  | arrive call =>
      simp only [step, DeviceRuntime.arrive] at h
      split at h
      case isTrue =>
          cases h
          exact .arrive call
      case isFalse => cases h
  | advance i now => exact effect_advance h
  | cancel i => exact effect_cancel h
  | poll i event => exact effect_pollTask h
  | acceptLate index =>
      obtain ⟨write, hwrite, rfl⟩ := Option.map_eq_some_iff.mp h
      exact .acceptLate hwrite

end DeviceRuntime

end VyuhHmi
