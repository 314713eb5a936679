import VyuhHmi.Device.Sequential
import VyuhHmi.Device.TaskPanics

/-!
# Adding any device

`add_device` checks the id and the protocol of its request and nothing else.  Whatever the rest of
the request says goes into the address parser of the Modbus client, the timer of the polling loop
and its address arithmetic.  A request is safe exactly when it is refused by the two checks or asks
for a device that all three can handle.
-/

namespace VyuhHmi

namespace DeviceRuntime

variable {socketAddr : String → Bool} {s : DeviceRuntime} {now : Instant} {i : ℕ}
  {request : DeviceRequest} {req : AddDeviceRequest}

/-- A handler that moves on without the lock leaves it as free as it was. -/
theorem canWrite_setPhase (h : s.canWrite = true) {phase : RequestPhase}
    (hfree : ∀ call, (DeviceRequest.mk call phase).holdsLock = false) :
    (s.setPhase i phase).canWrite = true := by
  rw [canWrite, List.all_eq_true] at h ⊢
  intro request hmem
  obtain ⟨j, hj⟩ := List.mem_iff_getElem?.mp hmem
  rw [setPhase_requests, List.getElem?_modify] at hj
  obtain ⟨before, hbefore, rfl⟩ := Option.map_eq_some_iff.mp hj
  split
  case isTrue =>
      have hlock := hfree before.call
      simpa [DeviceRequest.holdsLock, and_comm] using hlock
  case isFalse => exact h before (List.mem_of_getElem? hbefore)

theorem canWrite_arrived (h : s.canWrite = true) (call : DeviceCall) :
    (s.arrived call).canWrite = true := by
  rw [canWrite, List.all_eq_true] at h ⊢
  intro request hmem
  rcases List.mem_append.mp hmem with hold | hnew
  · exact h request hold
  · rw [List.mem_singleton.mp hnew]
    rfl

/-- The id is taken: the request is refused. -/
theorem addDevice_settles_of_taken (hwrite : s.canWrite = true)
    (hrequest : s.requests[i]? = some ⟨.addDevice req, .ready⟩)
    (htaken : (s.registry req.id).isSome = true) :
    SettlesWith socketAddr now s i maxSections (.addDevice req)
      (s.answer i (.device (.fail ("Device '" ++ req.id ++ "' already exists"))))
      (some (.device (.fail ("Device '" ++ req.id ++ "' already exists")))) := by
  refine .answer hrequest ?_ 3
  rw [advance, hrequest, Option.bind_some]
  exact (if_pos (canRead_of_canWrite hwrite)).trans (if_pos htaken)

/-- With a client the task is started, and the device registered and saved. -/
theorem creating_settles (hwrite : s.canWrite = true)
    (hcreating : s.requests[i]? = some ⟨.addDevice req, .creating req.config⟩)
    (hstart : s.advance socketAddr i now = some ((s.spawnTask req.config).setPhase i
      (.registering req.config s.tasks.length))) :
    ∃ t response, SettlesWith socketAddr now s i 3 (.addDevice req) t (some response) ∧
      response.success = true ∧ t.tasks = s.tasks ++ [.spawn req.config] := by
  let registering := (s.spawnTask req.config).setPhase i (.registering req.config s.tasks.length)
  have hregistering : registering.requests[i]? =
      some ⟨.addDevice req, .registering req.config s.tasks.length⟩ :=
    getElem?_setPhase_self hcreating _
  have hwrite' : registering.canWrite = true :=
    @canWrite_setPhase (s.spawnTask req.config) i hwrite _ fun _ ↦ rfl
  let stored := (registering.register req.id
    ⟨s.tasks.length, s.tasks.length, req.config⟩).setPhase i (.saving req.config)
  have hstore : registering.advance socketAddr i now = some stored := by
    rw [advance, hregistering]
    exact if_pos hwrite'
  have hsaving : stored.requests[i]? = some ⟨.addDevice req, .saving req.config⟩ :=
    getElem?_setPhase_self hregistering _
  have hsave : stored.advance socketAddr i now = some ((stored.saveDevice req.config).answer i
      (.device (.ok req.config.connected))) := by
    rw [advance, hsaving]
    rfl
  have hsaved : SettlesWith socketAddr now stored i 1 (.addDevice req) _ _ :=
    .answer (u := stored.saveDevice req.config) hsaving hsave 0
  exact ⟨_, _, .step hstart (.step hstore hsaved), rfl, rfl⟩

/-- The id is free: what follows depends on the client. -/
theorem addDevice_settles_of_free (hwrite : s.canWrite = true)
    (hrequest : s.requests[i]? = some ⟨.addDevice req, .ready⟩)
    (hfree : (s.registry req.id).isSome = false) :
    match newClient socketAddr req.config with
    | .created => ∃ t response,
        SettlesWith socketAddr now s i maxSections (.addDevice req) t (some response) ∧
          response.success = true ∧ t.tasks = s.tasks ++ [.spawn req.config]
    | .unsupported => ∃ t response,
        SettlesWith socketAddr now s i maxSections (.addDevice req) t (some response) ∧
          response.success = false ∧ t.registry = s.registry ∧ t.deviceTable = s.deviceTable
    | .panicked => ∃ t, SettlesWith socketAddr now s i maxSections (.addDevice req) t none ∧
        t.tasks = s.tasks := by
  let creating := s.setPhase i (.creating req.config)
  have hready : s.advance socketAddr i now = some creating := by
    rw [advance, hrequest, Option.bind_some]
    refine (if_pos (canRead_of_canWrite hwrite)).trans (if_neg ?_)
    rw [hfree]
    exact Bool.false_ne_true
  have hcreating : creating.requests[i]? = some ⟨.addDevice req, .creating req.config⟩ :=
    getElem?_setPhase_self hrequest _
  have hstart : creating.advance socketAddr i now =
      some (creating.startClient socketAddr i req.config) := by
    rw [advance, hcreating]
    rfl
  unfold startClient at hstart
  split
  case h_1 hcreated =>
      rw [hcreated] at hstart
      have hwrite' : creating.canWrite = true := canWrite_setPhase hwrite fun _ ↦ rfl
      obtain ⟨t, response, hsettles, hsuccess, htasks⟩ := creating_settles hwrite' hcreating hstart
      exact ⟨t, response, .step hready hsettles, hsuccess, htasks⟩
  case h_2 hunsupported =>
      rw [hunsupported] at hstart
      exact ⟨_, _, .step hready (.answer hcreating hstart 2), rfl, rfl, rfl⟩
  case h_3 hpanicked =>
      rw [hpanicked] at hstart
      exact ⟨_, .step hready (.step hstart
        (settlesWith_of_done (getElem?_setPhase_self hcreating _) 2)), rfl⟩

end DeviceRuntime

namespace PollingSystem

variable {socketAddr : String → Bool} {overflowChecks : Bool} {s : PollingSystem}
  {configured deviceTable : List DeviceConfig} {labels : List Label}

/-- The server when it has handled an `add_device` request. -/
def handledAdd (socketAddr : String → Bool) (s : PollingSystem) (req : AddDeviceRequest)
    (now : Instant) : DeviceRuntime :=
  (s.server.arrived (.addDevice req)).settle socketAddr now s.server.requests.length
    DeviceRuntime.maxSections

/-- The request is refused and leaves registry and table as they are, or it starts a task that never
panics. -/
def AddsSafely (socketAddr : String → Bool) (overflowChecks : Bool) (s : PollingSystem)
    (req : AddDeviceRequest) (now : Instant) : Prop :=
  (∃ response, (s.handledAdd socketAddr req now).requests[s.server.requests.length]? =
      some ⟨.addDevice req, .done (some response)⟩ ∧ response.success = false ∧
    (s.handledAdd socketAddr req now).registry = s.server.registry ∧
    (s.handledAdd socketAddr req now).deviceTable = s.server.deviceTable) ∨
  ∃ config, (s.handledAdd socketAddr req now).tasks = s.server.tasks ++ [.spawn config] ∧
    (s.after (s.handledAdd socketAddr req now)).NeverPanics socketAddr overflowChecks
      s.server.tasks.length

/-- The id is taken, the protocol is unknown, or client, timer and arithmetic can handle the
device. -/
def CanHandle (socketAddr : String → Bool) (overflowChecks : Bool) (s : PollingSystem)
    (req : AddDeviceRequest) : Prop :=
  (s.server.registry req.id).isSome ∨ (req.protocol ≠ "modbus" ∧ req.protocol ≠ "opcua") ∨
    (req.protocol = "modbus" → socketAddr req.address) ∧ req.config.runsSafely overflowChecks

theorem newClient_eq_created_iff {config : DeviceConfig} :
    newClient socketAddr config = .created ↔
      (config.protocol = "modbus" ∨ config.protocol = "opcua") ∧
        (config.protocol = "modbus" → socketAddr config.address) := by
  unfold newClient
  split
  case isTrue hmodbus => split <;> simp_all
  case isFalse hother => split <;> simp_all

theorem newClient_eq_unsupported_iff {config : DeviceConfig} :
    newClient socketAddr config = .unsupported ↔
      config.protocol ≠ "modbus" ∧ config.protocol ≠ "opcua" := by
  unfold newClient
  split
  case isTrue hmodbus => split <;> simp_all
  case isFalse hother => split <;> simp_all

theorem newClient_eq_panicked_iff {config : DeviceConfig} :
    newClient socketAddr config = .panicked ↔
      config.protocol = "modbus" ∧ socketAddr config.address = false := by
  unfold newClient
  split
  case isTrue hmodbus => split <;> simp_all
  case isFalse hother => split <;> simp_all

/-- The task of a device that has just been added. -/
theorem at_added (h : s.AllTasks (TaskLocals.Guarded overflowChecks)) {server : DeviceRuntime}
    {config : DeviceConfig} (htasks : server.tasks = s.server.tasks ++ [.spawn config]) :
    (s.after server).AllTasks (TaskLocals.Guarded overflowChecks) ∧
      (s.after server).At s.server.tasks.length .connecting config (.start config) := by
  have hstages : server.stages = s.server.stages ++ [config].map fun config ↦
      (.connecting, config) := by
    rw [DeviceRuntime.stages, htasks, List.map_append]
    rfl
  refine ⟨h.after TaskLocals.guarded_start hstages, ?_, ?_⟩
  · change server.stages[s.server.tasks.length]? = _
    rw [DeviceRuntime.getElem?_stages, htasks, List.getElem?_concat_length]
    rfl
  · have hlength : s.server.tasks.length = s.locals.length := by
      rw [h.length, DeviceRuntime.stages, List.length_map]
    rw [locals_after h.length hstages, hlength]
    exact List.getElem?_concat_length

theorem addsSafely_iff_canHandle (hguarded : s.AllTasks (TaskLocals.Guarded overflowChecks))
    (hfree : s.server.canWrite = true) (req : AddDeviceRequest) (now : Instant) :
    AddsSafely socketAddr overflowChecks s req now ↔ CanHandle socketAddr overflowChecks s req := by
  have hwrite := DeviceRuntime.canWrite_arrived hfree (.addDevice req)
  have hrequest : (s.server.arrived (.addDevice req)).requests[s.server.requests.length]? =
      some ⟨.addDevice req, .ready⟩ := List.getElem?_concat_length
  unfold AddsSafely CanHandle handledAdd
  cases htaken : (s.server.registry req.id).isSome with
  | true =>
      obtain ⟨hsettled, hdone⟩ := @DeviceRuntime.addDevice_settles_of_taken socketAddr
        (s.server.arrived (.addDevice req)) now _ req hwrite hrequest htaken
      rw [hsettled]
      exact iff_of_true (.inl ⟨_, hdone, rfl, rfl, rfl⟩) (.inl rfl)
  | false =>
      have hsettles := @DeviceRuntime.addDevice_settles_of_free socketAddr
        (s.server.arrived (.addDevice req)) now _ req hwrite hrequest htaken
      cases hclient : newClient socketAddr req.config with
      | created =>
          rw [hclient] at hsettles
          obtain ⟨t, response, ⟨hsettled, hdone⟩, hsuccess, htasks⟩ := hsettles
          obtain ⟨hprotocol, haddress⟩ := newClient_eq_created_iff.mp hclient
          obtain ⟨hguarded', hat⟩ := at_added hguarded htasks
          have hnever := @neverPanics_iff socketAddr _ _ _ _ hguarded' hat
          rw [hsettled]
          constructor
          · rintro (⟨response', hrefused, hfailed, -⟩ | ⟨config, hspawned, hsafe⟩)
            · cases hdone.symm.trans hrefused
              rw [hsuccess] at hfailed
              cases hfailed
            · exact .inr (.inr ⟨haddress, hnever.mp hsafe⟩)
          · rintro (hsome | hother | ⟨-, hsafe⟩)
            · cases hsome
            · exact absurd hprotocol (not_or.mpr hother)
            · exact .inr ⟨req.config, htasks, hnever.mpr hsafe⟩
      | unsupported =>
          rw [hclient] at hsettles
          obtain ⟨t, response, ⟨hsettled, hdone⟩, hfailed, hregistry, htable⟩ := hsettles
          rw [hsettled]
          exact iff_of_true (.inl ⟨response, hdone, hfailed, hregistry, htable⟩)
            (.inr (.inl (newClient_eq_unsupported_iff.mp hclient)))
      | panicked =>
          rw [hclient] at hsettles
          obtain ⟨t, ⟨hsettled, hdone⟩, htasks⟩ := hsettles
          obtain ⟨hmodbus, hnone⟩ := newClient_eq_panicked_iff.mp hclient
          rw [hsettled]
          refine iff_of_false ?_ ?_
          · rintro (⟨response, hrefused, -⟩ | ⟨config, hspawned, -⟩)
            · cases hdone.symm.trans hrefused
            · -- the handler has started no task
              have hlength := congrArg List.length (htasks.symm.trans hspawned)
              simp at hlength
          · rintro (hsome | hother | ⟨haddress, -⟩)
            · cases hsome
            · exact hother.1 hmodbus
            · cases (haddress hmodbus).symm.trans hnone

/-- **Added devices.** With the registry lock free, a request is safe exactly when it is refused or
asks for a device that client, timer and arithmetic can handle. -/
theorem addsSafely_iff
    (hrun : Transition.Run (Transition.ofOption (step socketAddr overflowChecks))
      (init configured deviceTable) labels s) (hfree : s.server.canWrite = true)
    (req : AddDeviceRequest) (now : Instant) :
    AddsSafely socketAddr overflowChecks s req now ↔ CanHandle socketAddr overflowChecks s req :=
  addsSafely_iff_canHandle (hrun.invariant (allTasks_init configured deviceTable)
    fun _ _ _ hu hstep ↦ guarded_step hu hstep) hfree req now

/-- A request with a zero poll rate. -/
def zeroRate : AddDeviceRequest := { DeviceRuntime.reactor [] with pollRateMs := some 0 }

/-- A request for a Modbus device that is named by its host. -/
def namedHost : AddDeviceRequest :=
  { DeviceRuntime.reactor [] with protocol := "modbus", address := "plc-01.local:502" }

theorem addsSafely_iff_reactor :
    AddsSafely (fun _ ↦ true) false (init [] []) (DeviceRuntime.reactor []) 0 ↔
      CanHandle (fun _ ↦ true) false (init [] []) (DeviceRuntime.reactor []) :=
  addsSafely_iff .nil rfl (DeviceRuntime.reactor []) 0

/-- The task of a device with a zero poll rate panics as soon as it has connected, and the handler of
a Modbus device that is named by its host panics itself. -/
theorem zeroRate_not_addsSafely :
    ¬AddsSafely (fun _ ↦ true) false (init [] []) zeroRate 0 ∧
      ¬AddsSafely (fun _ ↦ false) false (init [] []) namedHost 0 := by
  constructor
  · rw [addsSafely_iff_canHandle (allTasks_init [] []) rfl, CanHandle]
    decide
  · rw [addsSafely_iff_canHandle (allTasks_init [] []) rfl, CanHandle]
    decide


end PollingSystem

end VyuhHmi
