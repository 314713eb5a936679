import VyuhHmi.Device.Routing

/-!
# Devices across restarts

The `devices` table is to hold the devices that have been added at runtime.  `add_device` enters the
registry and saves its row afterwards, without the registry lock; `remove_device` deletes the row
while it holds the lock.  What the table and the registry have to do with each other is followed
on a view of the runtime: for each device id the registered configuration and the row, and for each
request what it has still to do.
-/

namespace VyuhHmi

/-! ## Rows -/

/-- A row of the `devices` table.  The `writable` column holds a JSON text: the array in it, if it
is one. -/
structure DeviceRow where
  id : String
  name : String
  address : String
  protocol : String
  pollRateMs : Int64
  registerStart : Int64
  registerCount : Int64
  writable : Option (List UInt16)
deriving DecidableEq

/-- What `save_device` binds. -/
def DeviceConfig.toRow (config : DeviceConfig) : DeviceRow where
  id := config.id
  name := config.name
  address := config.address
  protocol := config.protocol
  pollRateMs := config.pollRateMs.toInt64
  registerStart := config.registerStart.toUInt64.toInt64
  registerCount := config.registerCount.toUInt64.toInt64
  writable := some config.writable

/-- What `load_devices` makes of a row. -/
def DeviceRow.toConfig (row : DeviceRow) : DeviceConfig where
  id := row.id
  name := row.name
  address := row.address
  protocol := row.protocol
  pollRateMs := row.pollRateMs.toUInt64
  registerStart := row.registerStart.toUInt64.toUInt16
  registerCount := row.registerCount.toUInt64.toUInt16
  writable := row.writable.getD []

@[simp] theorem toConfig_toRow (config : DeviceConfig) : config.toRow.toConfig = config := by
  cases config
  simp [DeviceConfig.toRow, DeviceRow.toConfig]

/-- Load all runtime-added devices from the database. -/
def loadDevices (rows : List DeviceRow) : List DeviceConfig := rows.map DeviceRow.toConfig

@[simp] theorem loadDevices_toRow (table : List DeviceConfig) :
    loadDevices (table.map DeviceConfig.toRow) = table := by
  simp [loadDevices, Function.comp_def]

/-- The row of a device id. -/
def rowOf (table : List DeviceConfig) (id : String) : Option DeviceConfig :=
  table.find? fun row ↦ row.id == id

theorem rowOf_append_singleton (table : List DeviceConfig) (config : DeviceConfig) (id : String) :
    rowOf (table ++ [config]) id =
      (rowOf table id).or (if id = config.id then some config else none) := by
  unfold rowOf
  rw [List.find?_append, List.find?_singleton]
  by_cases hid : id = config.id
  · rw [if_pos hid, if_pos (beq_iff_eq.mpr hid.symm)]
  · rw [if_neg hid, if_neg fun h ↦ hid (beq_iff_eq.mp h).symm]

/-- `DELETE`. -/
theorem rowOf_delete (table : List DeviceConfig) (deviceId id : String) :
    rowOf (table.filter fun row ↦ row.id != deviceId) id =
      if id = deviceId then none else rowOf table id := by
  unfold rowOf
  rw [List.find?_filter]
  by_cases hid : id = deviceId
  · subst hid
    rw [if_pos rfl, List.find?_eq_none]
    intro row _
    simp
  · rw [if_neg hid]
    congr 1
    ext row
    by_cases hrow : row.id = id
    · simp [hrow, hid]
    · simp [hrow]

/-- `INSERT OR REPLACE`. -/
theorem rowOf_replace (table : List DeviceConfig) (config : DeviceConfig) (id : String) :
    rowOf (table.filter (fun row ↦ row.id != config.id) ++ [config]) id =
      if id = config.id then some config else rowOf table id := by
  rw [rowOf_append_singleton, rowOf_delete]
  by_cases hid : id = config.id <;> simp [hid]

theorem rowOf_eq_none_iff {table : List DeviceConfig} {id : String} :
    rowOf table id = none ↔ id ∉ table.map DeviceConfig.id := by
  simp [rowOf]

/-! ## The view -/

/-- What a request has still to do to the registry or the table. -/
inductive PendingChange
  | registering (config : DeviceConfig)
  | saving (config : DeviceConfig)
  | deleting (deviceId : String)
deriving DecidableEq

def DeviceRequest.pending (request : DeviceRequest) : Option PendingChange :=
  match request.call, request.phase with
  | _, .registering config _ => some (.registering config)
  | _, .saving config => some (.saving config)
  | .removeDevice deviceId, .deleting => some (.deleting deviceId)
  | _, _ => none

/-- The registered configurations, the table, what start-up has still to register and what the
requests have still to do. -/
structure StoreView where
  registered : String → Option DeviceConfig
  table : List DeviceConfig
  configured : List DeviceConfig
  persisted : List DeviceConfig
  requestCount : ℕ
  pending : ℕ → Option PendingChange

namespace DeviceRuntime

def view (s : DeviceRuntime) : StoreView where
  registered := fun id ↦ (s.registry id).map DeviceHandle.config
  table := s.deviceTable
  configured := s.configured
  persisted := s.persisted
  requestCount := s.requests.length
  pending := fun i ↦ s.requests[i]?.bind DeviceRequest.pending

end DeviceRuntime

namespace StoreView

/-- Start-up is over. -/
def Started (v : StoreView) : Prop := v.configured = [] ∧ v.persisted = []

/-- No `remove_device` is deleting a row. -/
def Unlocked (v : StoreView) : Prop := ∀ i id, v.pending i ≠ some (.deleting id)

/-- What a step does to registry and table. -/
inductive Step (socketAddr : String → Bool) (v : StoreView) :
    DeviceRuntime.Label → StoreView → Prop
  | registerConfigured (config : DeviceConfig) (rest : List DeviceConfig)
      (hnext : v.configured = config :: rest) (hcreated : newClient socketAddr config = .created) :
      Step socketAddr v .registerAtStart
        { v with
          registered := Function.update v.registered config.id (some config)
          configured := rest }
  | skipConfigured (config : DeviceConfig) (rest : List DeviceConfig)
      (hnext : v.configured = config :: rest)
      (hunsupported : newClient socketAddr config = .unsupported) :
      Step socketAddr v .registerAtStart { v with configured := rest }
  | restore (config : DeviceConfig) (rest : List DeviceConfig) (hconfigured : v.configured = [])
      (hnext : v.persisted = config :: rest) (hnone : v.registered config.id = none)
      (hcreated : newClient socketAddr config = .created) :
      Step socketAddr v .registerAtStart
        { v with
          registered := Function.update v.registered config.id (some config)
          persisted := rest }
  | skipPersisted (config : DeviceConfig) (rest : List DeviceConfig)
      (hconfigured : v.configured = []) (hnext : v.persisted = config :: rest)
      (hskip : (v.registered config.id).isSome ∨ newClient socketAddr config ≠ .created) :
      Step socketAddr v .registerAtStart { v with persisted := rest }
  | arrive (call : DeviceCall) (hstarted : v.Started) :
      Step socketAddr v (.arrive call) { v with requestCount := v.requestCount + 1 }
  | quiet (label : DeviceRuntime.Label) (pending : ℕ → Option PendingChange)
      (hkept : ∀ i change, v.pending i = some change →
        pending i = some change ∨ ∃ config, change = .registering config)
      (hnew : ∀ i change, pending i = some change → v.pending i = some change ∨
        i < v.requestCount ∧
          ∃ config, change = .registering config ∧ newClient socketAddr config = .created) :
      Step socketAddr v label { v with pending := pending }
  | register (i : ℕ) (now : Instant) (config : DeviceConfig) (hunlocked : v.Unlocked)
      (hpending : v.pending i = some (.registering config)) :
      Step socketAddr v (.advance i now)
        { v with
          registered := Function.update v.registered config.id (some config)
          pending := Function.update v.pending i (some (.saving config)) }
  | unregister (i : ℕ) (now : Instant) (id : String) (hunlocked : v.Unlocked)
      (hrequest : i < v.requestCount) (hpending : v.pending i = none) :
      Step socketAddr v (.advance i now)
        { v with
          registered := Function.update v.registered id none
          pending := Function.update v.pending i (some (.deleting id)) }
  | save (i : ℕ) (now : Instant) (config : DeviceConfig)
      (hpending : v.pending i = some (.saving config)) :
      Step socketAddr v (.advance i now)
        { v with
          table := v.table.filter (fun row ↦ row.id != config.id) ++ [config]
          pending := Function.update v.pending i none }
  | delete (i : ℕ) (now : Instant) (id : String) (hpending : v.pending i = some (.deleting id)) :
      Step socketAddr v (.advance i now)
        { v with
          table := v.table.filter fun row ↦ row.id != id
          pending := Function.update v.pending i none }
  | drop (i : ℕ) : Step socketAddr v (.cancel i)
      { v with pending := Function.update v.pending i none }

end StoreView

namespace DeviceRuntime

variable {socketAddr : String → Bool} {overflowChecks : Bool} {s t : DeviceRuntime}

/-! ## The runtime follows the view -/

theorem view_setPhase {i : ℕ} {call : DeviceCall} {phase : RequestPhase}
    (hrequest : s.requests[i]? = some ⟨call, phase⟩) (phase' : RequestPhase) :
    (s.setPhase i phase').view =
      { s.view with
        pending := Function.update s.view.pending i (DeviceRequest.pending ⟨call, phase'⟩) } := by
  have hpending : (s.setPhase i phase').view.pending =
      Function.update s.view.pending i (DeviceRequest.pending ⟨call, phase'⟩) := by
    funext j
    rw [Function.update_apply]
    simp only [view, setPhase_requests]
    rw [ListUpdate.getElem?_modify_of_some hrequest]
    split <;> rfl
  have hlength : (s.setPhase i phase').requests.length = s.requests.length := by simp
  rw [← hpending]
  simp only [view, hlength]
  rfl

theorem pending_receive (request : DeviceRequest) (reply : WriteReply) :
    (request.receive reply).pending = request.pending := by
  obtain ⟨call, phase⟩ := request
  unfold DeviceRequest.receive
  split
  case h_1 hphase =>
      obtain rfl : phase = .waiting none := hphase
      cases call <;> rfl
  case h_2 => rfl

theorem view_register (deviceId : String) (handle : DeviceHandle) :
    (s.register deviceId handle).view =
      { s.view with
        registered := Function.update s.view.registered deviceId (some handle.config) } := by
  simp only [view, register]
  congr 1
  funext id
  simp only [Function.update_apply]
  split <;> rfl

theorem view_unregister (deviceId : String) :
    (s.unregister deviceId).view =
      { s.view with registered := Function.update s.view.registered deviceId none } := by
  simp only [view, unregister]
  congr 1
  funext id
  simp only [Function.update_apply]
  split <;> rfl

@[simp] theorem view_reply (commands : List WriteCommand) (reply : WriteReply) :
    (s.reply commands reply).view = s.view := by
  have hpending : (s.reply commands reply).view.pending = s.view.pending := by
    funext j
    simp only [view, reply_requests, List.getElem?_mapIdx]
    cases s.requests[j]? with
    | none => rfl
    | some request =>
        simp only [Option.map_some, Option.bind_some]
        split
        · exact pending_receive request reply
        · rfl
  have hlength : (s.reply commands reply).requests.length = s.requests.length := by simp
  simp only [view] at hpending ⊢
  rw [hpending, hlength]
  rfl

theorem pending_of_some {i : ℕ} {request : DeviceRequest} (hrequest : s.requests[i]? = some request) :
    s.view.pending i = request.pending := by
  simp [view, hrequest]

theorem lt_requestCount {i : ℕ} {request : DeviceRequest} (hrequest : s.requests[i]? = some request) :
    i < s.view.requestCount :=
  (List.getElem?_eq_some_iff.mp hrequest).1

theorem unlocked_of_canWrite (h : s.canWrite) : s.view.Unlocked := by
  intro i id hpending
  obtain ⟨⟨call, phase⟩, hrequest, hdeleting⟩ := Option.bind_eq_some_iff.mp hpending
  have hfree := List.all_eq_true.mp h _ (List.mem_of_getElem? hrequest)
  obtain rfl : phase = .deleting := by
    unfold DeviceRequest.pending at hdeleting
    split at hdeleting
    case h_3 hphase => exact hphase
    all_goals cases hdeleting
  simp [DeviceRequest.holdsWrite] at hfree

/-- The view stays as it is. -/
theorem step_of_view_eq {label : Label} (hview : t.view = s.view) :
    StoreView.Step socketAddr s.view label t.view := by
  rw [hview]
  exact .quiet label s.view.pending (fun _ _ h ↦ .inl h) fun _ _ h ↦ .inl h

/-- A handler goes on without a change to registry or table behind it or, but for the registration
of a device with a client, before it. -/
theorem step_setPhase {label : Label} {i : ℕ} {call : DeviceCall} {phase phase' : RequestPhase}
    (hrequest : s.requests[i]? = some ⟨call, phase⟩)
    (hbefore : ∀ change, DeviceRequest.pending ⟨call, phase⟩ = some change →
      ∃ config, change = .registering config)
    (hafter : ∀ change, DeviceRequest.pending ⟨call, phase'⟩ = some change →
      ∃ config, change = .registering config ∧ newClient socketAddr config = .created) :
    StoreView.Step socketAddr s.view label (s.setPhase i phase').view := by
  rw [view_setPhase hrequest]
  refine .quiet label _ (fun j change hj ↦ ?_) fun j change hj ↦ ?_
  · by_cases hij : j = i
    · subst hij
      rw [pending_of_some hrequest] at hj
      exact .inr (hbefore change hj)
    · rw [Function.update_of_ne hij]
      exact .inl hj
  · by_cases hij : j = i
    · subst hij
      rw [Function.update_self] at hj
      exact .inr ⟨lt_requestCount hrequest, hafter change hj⟩
    · rw [Function.update_of_ne hij] at hj
      exact .inl hj

/-- A handler that has changed nothing answers. -/
theorem step_answer {label : Label} {i : ℕ} {call : DeviceCall} {phase : RequestPhase}
    (hrequest : s.requests[i]? = some ⟨call, phase⟩)
    (hbefore : ∀ change, DeviceRequest.pending ⟨call, phase⟩ = some change →
      ∃ config, change = .registering config) (response : Option Response) :
    StoreView.Step socketAddr s.view label (s.setPhase i (.done response)).view :=
  step_setPhase hrequest hbefore fun change hchange ↦ by cases call <;> cases hchange

theorem step_startClient {label : Label} {i : ℕ} {call : DeviceCall} {config : DeviceConfig}
    (hrequest : s.requests[i]? = some ⟨call, .creating config⟩) :
    StoreView.Step socketAddr s.view label (s.startClient socketAddr i config).view := by
  have hbefore : ∀ change, DeviceRequest.pending ⟨call, .creating config⟩ = some change →
      ∃ config, change = .registering config := by
    intro change hchange
    cases call <;> cases hchange
  unfold startClient
  split
  case h_1 hcreated =>
      have hspawn : (s.spawnTask config).view = s.view := rfl
      rw [← hspawn]
      refine step_setPhase hrequest hbefore fun change hchange ↦ ⟨config, ?_, hcreated⟩
      cases call <;> exact (Option.some.inj hchange).symm
  case h_2 => exact step_answer hrequest hbefore _
  case h_3 => exact step_answer hrequest hbefore _

theorem step_addDevice {i : ℕ} {now : Instant} {req : AddDeviceRequest} {phase : RequestPhase}
    (hrequest : s.requests[i]? = some ⟨.addDevice req, phase⟩)
    (h : s.addDevice socketAddr i req phase = some t) :
    StoreView.Step socketAddr s.view (.advance i now) t.view := by
  unfold addDevice at h
  split at h
  case h_1 =>
      split at h
      case isTrue =>
          split at h
          case isTrue =>
              cases h
              exact step_answer hrequest nofun _
          case isFalse =>
              cases h
              exact step_setPhase hrequest nofun nofun
      case isFalse => cases h
  case h_2 =>
      cases h
      exact step_startClient hrequest
  case h_3 config task =>
      split at h
      case isTrue hlock =>
          cases h
          rw [view_setPhase (s := s.register config.id ⟨task, task, config⟩) hrequest,
            view_register]
          exact .register i now config (unlocked_of_canWrite hlock) (pending_of_some hrequest)
      case isFalse => cases h
  case h_4 config =>
      cases h
      rw [view_setPhase (s := s.saveDevice config) hrequest]
      exact .save i now config (pending_of_some hrequest)
  case h_5 => cases h

theorem step_removeDevice {i : ℕ} {now : Instant} {deviceId : String} {phase : RequestPhase}
    (hrequest : s.requests[i]? = some ⟨.removeDevice deviceId, phase⟩)
    (h : s.removeDevice i deviceId phase = some t) :
    StoreView.Step socketAddr s.view (.advance i now) t.view := by
  unfold removeDevice at h
  split at h
  case h_1 =>
      split at h
      case isTrue hlock =>
          split at h
          case h_1 handle hhandle =>
              cases h
              rw [view_setPhase (s := (s.unregister deviceId).abort handle.task) hrequest]
              have habort : ((s.unregister deviceId).abort handle.task).view =
                  (s.unregister deviceId).view := rfl
              rw [habort, view_unregister]
              exact .unregister i now deviceId (unlocked_of_canWrite hlock)
                (lt_requestCount hrequest) (pending_of_some hrequest)
          case h_2 =>
              cases h
              exact step_answer hrequest nofun _
      case isFalse => cases h
  case h_2 =>
      cases h
      rw [view_setPhase (s := s.deleteDevice deviceId) hrequest]
      exact .delete i now deviceId (pending_of_some hrequest)
  case h_3 => cases h

theorem step_disconnectDevice {i : ℕ} {now : Instant} {deviceId : String} {phase : RequestPhase}
    (hrequest : s.requests[i]? = some ⟨.disconnectDevice deviceId, phase⟩)
    (h : s.disconnectDevice i deviceId phase = some t) :
    StoreView.Step socketAddr s.view (.advance i now) t.view := by
  unfold disconnectDevice at h
  split at h
  case h_1 =>
      split at h
      case isTrue =>
          split at h
          case h_1 =>
              cases h
              exact step_answer hrequest nofun _
          case h_2 handle _ =>
              split at h
              case isTrue =>
                  cases h
                  exact step_answer hrequest nofun _
              case isFalse =>
                  cases h
                  exact step_answer (s := s.abort handle.task) hrequest nofun _
      case isFalse => cases h
  case h_2 => cases h

theorem step_connectDevice {i : ℕ} {now : Instant} {deviceId : String} {phase : RequestPhase}
    (hrequest : s.requests[i]? = some ⟨.connectDevice deviceId, phase⟩)
    (h : s.connectDevice socketAddr i deviceId phase = some t) :
    StoreView.Step socketAddr s.view (.advance i now) t.view := by
  unfold connectDevice at h
  split at h
  case h_1 =>
      split at h
      case isTrue =>
          split at h
          case h_1 =>
              cases h
              exact step_answer hrequest nofun _
          case h_2 =>
              split at h
              case isTrue =>
                  cases h
                  exact step_setPhase hrequest nofun nofun
              case isFalse =>
                  cases h
                  exact step_answer hrequest nofun _
      case isFalse => cases h
  case h_2 =>
      cases h
      exact step_startClient hrequest
  case h_3 config task =>
      have hbefore : ∀ change,
          DeviceRequest.pending ⟨.connectDevice deviceId, .registering config task⟩ = some change →
            ∃ config, change = .registering config :=
        fun change hchange ↦ ⟨config, (Option.some.inj hchange).symm⟩
      split at h
      case isTrue =>
          cases h
          split
          case h_1 handle hhandle =>
              -- the entry gets a new task and keeps its configuration
              have hstored : (s.register deviceId { handle with task := task, writeTx := task }).view =
                  s.view := by
                rw [view_register]
                have hsame : s.view.registered deviceId = some handle.config := by
                  simp [view, hhandle]
                rw [← hsame, Function.update_eq_self]
              rw [← hstored]
              exact step_answer
                (s := s.register deviceId { handle with task := task, writeTx := task }) hrequest
                hbefore _
          case h_2 => exact step_answer hrequest hbefore _
      case isFalse => cases h
  case h_4 => cases h

theorem step_postWrite {i : ℕ} {now : Instant} {claims : Claims} {req : WriteRequest}
    {phase : RequestPhase} (hrequest : s.requests[i]? = some ⟨.postWrite claims req, phase⟩)
    (h : s.postWrite i claims req now phase = some t) :
    StoreView.Step socketAddr s.view (.advance i now) t.view := by
  unfold postWrite at h
  split at h
  case h_1 =>
      split at h
      case isTrue =>
          split at h
          case h_1 =>
              cases h
              exact step_answer hrequest nofun _
          case h_2 =>
              split at h
              case isTrue =>
                  cases h
                  exact step_setPhase hrequest nofun nofun
              case isFalse =>
                  cases h
                  exact step_answer hrequest nofun _
      case isFalse => cases h
  case h_2 channel =>
      obtain ⟨task, htask, hsend⟩ := Option.bind_eq_some_iff.mp h
      split at hsend
      case isTrue =>
          cases hsend
          exact step_answer hrequest nofun _
      case isFalse =>
          split at hsend
          case isTrue =>
              cases hsend
              exact step_setPhase (s := s.updateTask channel fun task ↦
                { task with queue := task.queue ++ [⟨req.register, req.value, i⟩] })
                hrequest nofun nofun
          case isFalse => cases hsend
  case h_3 =>
      cases h
      exact step_setPhase hrequest nofun nofun
  case h_4 =>
      cases h
      exact step_answer hrequest nofun _
  case h_5 =>
      cases h
      exact step_answer hrequest nofun _
  case h_6 =>
      cases h
      unfold auditWrite
      exact step_answer (s := { s with
        auditTrail := logAudit s.auditTrail claims.userId claims.sub "write_register"
          (some req.deviceId) (writeDetails req.register req.value) none now
        auditedBy := s.auditedBy ++ [i] }) hrequest nofun _
  case h_7 => cases h

theorem step_advance {i : ℕ} {now : Instant} (h : s.advance socketAddr i now = some t) :
    StoreView.Step socketAddr s.view (.advance i now) t.view := by
  obtain ⟨⟨call, phase⟩, hrequest, hadvance⟩ := Option.bind_eq_some_iff.mp h
  cases call with
  | addDevice req => exact step_addDevice hrequest hadvance
  | removeDevice deviceId => exact step_removeDevice hrequest hadvance
  | disconnectDevice deviceId => exact step_disconnectDevice hrequest hadvance
  | connectDevice deviceId => exact step_connectDevice hrequest hadvance
  | postWrite claims req => exact step_postWrite hrequest hadvance

theorem view_registerNew (config : DeviceConfig) :
    (s.registerNew config).view =
      { s.view with
        registered := Function.update s.view.registered config.id (some config) } :=
  view_register (s := s.spawnTask config) config.id ⟨s.tasks.length, s.tasks.length, config⟩

theorem step_registerAtStart (h : s.registerAtStart socketAddr = some t) :
    StoreView.Step socketAddr s.view .registerAtStart t.view := by
  unfold registerAtStart at h
  split at h
  case h_1 config rest hconfigured =>
      split at h
      case h_1 hcreated =>
          cases h
          have hview : view { s.registerNew config with configured := rest } =
              { (s.registerNew config).view with configured := rest } := rfl
          rw [hview, view_registerNew]
          exact .registerConfigured config rest hconfigured hcreated
      case h_2 hunsupported =>
          cases h
          exact .skipConfigured config rest hconfigured hunsupported
      case h_3 => cases h
  case h_2 config rest hconfigured hpersisted =>
      split at h
      case isTrue hsome =>
          cases h
          exact .skipPersisted config rest hconfigured hpersisted
            (.inl (by simpa [view] using hsome))
      case isFalse hnone =>
          split at h
          case h_1 hcreated =>
              cases h
              have hview : view { s.registerNew config with persisted := rest } =
                  { (s.registerNew config).view with persisted := rest } := rfl
              rw [hview, view_registerNew]
              exact .restore config rest hconfigured hpersisted (by simpa [view] using hnone) hcreated
          case h_2 hunsupported =>
              cases h
              exact .skipPersisted config rest hconfigured hpersisted
                (.inr (by simp [hunsupported]))
          case h_3 => cases h
  case h_3 => cases h

theorem step_cancel {i : ℕ} (h : s.cancel i = some t) :
    StoreView.Step socketAddr s.view (.cancel i) t.view := by
  obtain ⟨⟨call, phase⟩, hrequest, hcancel⟩ := Option.bind_eq_some_iff.mp h
  split at hcancel
  case isTrue => cases hcancel
  case isFalse =>
      cases hcancel
      rw [view_setPhase hrequest]
      have hnone : DeviceRequest.pending ⟨call, .done none⟩ = none := by cases call <;> rfl
      rw [hnone]
      exact .drop i

theorem view_arrive (call : DeviceCall) :
    view { s with requests := s.requests ++ [⟨call, .ready⟩] } =
      { s.view with requestCount := s.view.requestCount + 1 } := by
  have hpending : (fun i : ℕ ↦ (s.requests ++ [⟨call, .ready⟩])[i]?.bind DeviceRequest.pending) =
      fun i ↦ s.requests[i]?.bind DeviceRequest.pending := by
    funext i
    rw [ListUpdate.getElem?_append_singleton]
    split
    case isTrue hlast =>
        rw [List.getElem?_eq_none hlast.ge]
        cases call <;> rfl
    case isFalse => rfl
  simp only [view, hpending, List.length_append, List.length_singleton]

theorem view_pollTask {i : ℕ} {event : TaskEvent}
    (h : s.pollTask overflowChecks i event = some t) : t.view = s.view := by
  have heffect : Effect (fun _ ↦ true) s (.poll i event) t := effect_pollTask h
  cases heffect with
  | move phase htask hfrom hto => rfl
  | receive htask hphase hqueue => rfl
  | accept htask hphase => rfl
  | written htask hphase => exact view_reply _ _
  | @writeFailed i task command accepted error connected htask hphase =>
      exact view_reply (s := s.setTaskPhase i (if connected then .polling else .sleeping))
        [command] (.err error)
  | @finish i event task htask hevent =>
      exact view_reply
        (s := s.updateTask i fun task ↦ { task with phase := .finished, queue := [] })
        task.commands .dropped

/-- **Refinement.** Every step of the runtime is a step of the view. -/
theorem view_step {label : Label} (h : step socketAddr overflowChecks s label = some t) :
    StoreView.Step socketAddr s.view label t.view := by
  cases label with
  | registerAtStart => exact step_registerAtStart h
  | arrive call =>
      simp only [step, DeviceRuntime.arrive] at h
      split at h
      case isTrue hstarted =>
          cases h
          rw [view_arrive]
          exact .arrive call (by simpa [StoreView.Started, view] using hstarted)
      case isFalse => cases h
  | advance i now => exact step_advance h
  | cancel i => exact step_cancel h
  | poll i event => exact step_of_view_eq (view_pollTask h)
  | acceptLate index =>
      obtain ⟨write, hwrite, rfl⟩ := Option.map_eq_some_iff.mp h
      exact step_of_view_eq rfl

end DeviceRuntime

end VyuhHmi
