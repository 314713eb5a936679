import VyuhHmi.Device.Routing

/-!
# Who owns a polling task

A polling task can be stopped through the registry entry of its device and in no other way: a
`JoinHandle` that is dropped leaves its task running.  A task between its start and its entry in the
registry belongs to the request that has started it.  A task is lost where a handle is overwritten
or dropped while its task still runs.
-/

namespace VyuhHmi

namespace DeviceRuntime

/-- The registry has an entry for the device, and the entry's task is live. -/
def entryIsLive (s : DeviceRuntime) (deviceId : String) : Bool :=
  (s.registry deviceId).any fun handle ↦ s.taskIsLive handle.task

/-- The task is the task of its device's registry entry. -/
def IsRegistered (s : DeviceRuntime) (i : ℕ) (task : PollingTask) : Prop :=
  ∃ handle, s.registry task.config.id = some handle ∧ handle.task = i

/-- A request has started the task and is about to register it. -/
def IsPending (s : DeviceRuntime) (i : ℕ) : Prop :=
  ∃ (j : ℕ) (request : DeviceRequest) (config : DeviceConfig), s.requests[j]? = some request ∧
    request.phase = .registering config i

/-- Every live task is registered or about to be. -/
def AllOwned (s : DeviceRuntime) : Prop :=
  ∀ i task, s.tasks[i]? = some task → task.isLive → s.IsRegistered i task ∨ s.IsPending i

/-- Every live task is its device's registered one, so there is one for each device, and
disconnecting or removing the device stops it. -/
structure TasksControlled (s : DeviceRuntime) : Prop where
  registered : ∀ (i : ℕ) (task : PollingTask), s.tasks[i]? = some task → task.isLive →
    s.IsRegistered i task
  unique : ∀ (i j : ℕ) (task task' : PollingTask), s.tasks[i]? = some task →
    s.tasks[j]? = some task' → task.isLive → task'.isLive → task.config.id = task'.config.id → i = j
  stoppable : ∀ (i : ℕ) (task : PollingTask) request, s.tasks[i]? = some task → task.isLive →
    (∃ t, s.disconnectDevice request task.config.id .ready = some t ∧ t.taskIsLive i = false) ∧
      ∃ t, s.removeDevice request task.config.id .ready = some t ∧ t.taskIsLive i = false

/-- The step overwrites or drops no handle whose task is live: a device is registered only where
its id has no live entry, `connect_device` stores its task in an entry whose task has stopped, and
no request is dropped between starting a task and registering it. -/
def losesNoTask (socketAddr : String → Bool) (s : DeviceRuntime) : Label → Bool
  | .registerAtStart =>
      s.configured.head?.all fun config ↦
        newClient socketAddr config != .created || !s.entryIsLive config.id
  | .advance i _ =>
      match s.requests[i]? with
      | some ⟨.addDevice _, .registering config _⟩ => !s.entryIsLive config.id
      | some ⟨.connectDevice deviceId, .registering _ task⟩ =>
          match s.registry deviceId with
          | some handle => !s.taskIsLive handle.task
          | none => !s.taskIsLive task
      | _ => true
  | .cancel i =>
      match s.requests[i]? with
      | some ⟨_, .registering _ task⟩ => !s.taskIsLive task
      | _ => true
  | _ => true

variable {socketAddr : String → Bool} {overflowChecks : Bool} {s t : DeviceRuntime} {i : ℕ}
  {request : DeviceRequest}

/-! ## Single updates -/

theorem not_isLive_of_taskIsLive {task : PollingTask} (h : s.taskIsLive i = false)
    (htask : s.tasks[i]? = some task) : ¬task.isLive := by
  simpa [taskIsLive, htask] using h

/-- A request gives up its claim to a task only to the registry or to a task that has stopped. -/
theorem AllOwned.setPhase (h : s.AllOwned) (hrequest : s.requests[i]? = some request)
    {phase : RequestPhase}
    (hgiven : ∀ config j, request.phase = .registering config j → ∀ task,
      s.tasks[j]? = some task → task.isLive → s.IsRegistered j task) :
    (s.setPhase i phase).AllOwned := by
  intro j task htask hlive
  rcases h j task htask hlive with hregistered | ⟨k, request', config, hk, hphase⟩
  · exact .inl hregistered
  · by_cases hki : k = i
    · subst hki
      obtain rfl := Option.some.inj (hrequest.symm.trans hk)
      exact .inl (hgiven config j hphase task htask hlive)
    · refine .inr ⟨k, request', config, ?_, hphase⟩
      rw [setPhase_requests, ListUpdate.getElem?_modify_of_some hrequest, if_neg hki]
      exact hk

/-- Entering a task into the registry loses the task of the entry it replaces. -/
theorem AllOwned.register (h : s.AllOwned) {deviceId : String} {handle : DeviceHandle}
    (hreplaced : ∀ old, s.registry deviceId = some old → s.taskIsLive old.task = false) :
    (s.register deviceId handle).AllOwned := by
  intro j task htask hlive
  rcases h j task htask hlive with ⟨old, hold, hj⟩ | hpending
  · left
    by_cases hid : task.config.id = deviceId
    · subst hid hj
      exact absurd hlive (not_isLive_of_taskIsLive (hreplaced old hold) htask)
    · exact ⟨old, by rw [register_registry, Function.update_of_ne hid]; exact hold, hj⟩
  · exact .inr hpending

theorem AllOwned.unregister (h : s.AllOwned) {deviceId : String}
    (hremoved : ∀ old, s.registry deviceId = some old → s.taskIsLive old.task = false) :
    (s.unregister deviceId).AllOwned := by
  intro j task htask hlive
  rcases h j task htask hlive with ⟨old, hold, hj⟩ | hpending
  · left
    by_cases hid : task.config.id = deviceId
    · subst hid hj
      exact absurd hlive (not_isLive_of_taskIsLive (hremoved old hold) htask)
    · exact ⟨old, by rw [unregister_registry, Function.update_of_ne hid]; exact hold, hj⟩
  · exact .inr hpending

theorem AllOwned.updateTask (h : s.AllOwned) {f : PollingTask → PollingTask}
    (hconfig : ∀ task, (f task).config = task.config)
    (hlive : ∀ task, s.tasks[i]? = some task → (f task).isLive → task.isLive) :
    (s.updateTask i f).AllOwned := by
  refine ListUpdate.forall_modify (fun j task' _ ↦ h j task') fun task htask hlive' ↦ ?_
  rcases h i task htask (hlive task htask hlive') with ⟨handle, hhandle, hi⟩ | hpending
  · exact .inl ⟨handle, by rw [hconfig]; exact hhandle, hi⟩
  · exact .inr hpending

theorem AllOwned.setTaskPhase (h : s.AllOwned) {task : PollingTask}
    (htask : s.tasks[i]? = some task) (hrunning : task.phase ≠ .finished) (phase : TaskPhase) :
    (s.setTaskPhase i phase).AllOwned := by
  refine h.updateTask (fun _ ↦ rfl) fun task' htask' hlive ↦ ?_
  obtain rfl := Option.some.inj (htask.symm.trans htask')
  simp only [PollingTask.isLive, PollingTask.isFinished, Bool.and_eq_true, Bool.not_eq_true',
    beq_eq_false_iff_ne] at hlive ⊢
  exact ⟨hrunning, hlive.2⟩

theorem AllOwned.abort (h : s.AllOwned) (i : ℕ) : (s.abort i).AllOwned := by
  refine h.updateTask (fun _ ↦ rfl) fun task _ hlive ↦ ?_
  simp [PollingTask.isLive] at hlive

theorem taskIsLive_abort (s : DeviceRuntime) (i : ℕ) : (s.abort i).taskIsLive i = false := by
  rw [taskIsLive, updateTask_tasks, List.getElem?_modify_eq]
  cases s.tasks[i]? <;> simp [PollingTask.isLive]

theorem AllOwned.reply (h : s.AllOwned) (commands : List WriteCommand) (reply : WriteReply) :
    (s.reply commands reply).AllOwned := by
  intro j task htask hlive
  rcases h j task htask hlive with hregistered | ⟨k, request, config, hk, hphase⟩
  · exact .inl hregistered
  · refine .inr ⟨k, request, config, ?_, hphase⟩
    rw [reply_requests, List.getElem?_mapIdx, hk, Option.map_some]
    have hsame : request.receive reply = request := by simp [DeviceRequest.receive, hphase]
    rw [hsame, ite_self]

theorem getElem?_spawnTask {config : DeviceConfig} {task : PollingTask}
    (h : (s.spawnTask config).tasks[i]? = some task) :
    s.tasks[i]? = some task ∨ i = s.tasks.length ∧ task = .spawn config := by
  rw [spawnTask_tasks, ListUpdate.getElem?_append_singleton] at h
  split at h
  case isTrue hlast => exact .inr ⟨hlast, (Option.some.inj h).symm⟩
  case isFalse => exact .inl h

/-! ## Steps -/

theorem taskIsLive_of_entryIsLive {deviceId : String} (h : s.entryIsLive deviceId = false)
    {handle : DeviceHandle} (hhandle : s.registry deviceId = some handle) :
    s.taskIsLive handle.task = false := by
  rwa [entryIsLive, hhandle, Option.any_some] at h

theorem allOwned_registerNew {config : DeviceConfig} (h : s.AllOwned)
    (hreplaced : s.entryIsLive config.id = false) : (s.registerNew config).AllOwned := by
  intro j task htask hlive
  rcases getElem?_spawnTask htask with hold | ⟨rfl, rfl⟩
  · have hregister : (s.register config.id ⟨s.tasks.length, s.tasks.length, config⟩).AllOwned :=
      h.register fun old hentry ↦ taskIsLive_of_entryIsLive hreplaced hentry
    exact hregister j task hold hlive
  · exact .inl ⟨⟨s.tasks.length, s.tasks.length, config⟩, Function.update_self .., rfl⟩

/-- A request that enters its task into the registry under the task's device id. -/
theorem allOwned_registerPending (h : s.AllOwned) (hrequest : s.requests[i]? = some request)
    {config : DeviceConfig} {task : ℕ} (hphase : request.phase = .registering config task)
    (hconfig : s.configs[task]? = some config) {handle : DeviceHandle} (hhandle : handle.task = task)
    (hreplaced : ∀ old, s.registry config.id = some old → s.taskIsLive old.task = false)
    (phase : RequestPhase) : ((s.register config.id handle).setPhase i phase).AllOwned := by
  have hregister : (s.register config.id handle).AllOwned := h.register hreplaced
  refine hregister.setPhase hrequest fun config' j heq task' htask' _ ↦ ?_
  obtain ⟨rfl, rfl⟩ : config = config' ∧ task = j := by
    simpa using hphase.symm.trans heq
  obtain rfl : task'.config = config := by
    simpa using (getElem?_configs htask').symm.trans hconfig
  exact ⟨handle, Function.update_self .., hhandle⟩

/-- A request that is dropped with a task that has stopped. -/
theorem allOwned_dropPending (h : s.AllOwned) (hrequest : s.requests[i]? = some request)
    (hstopped : ∀ config task, request.phase = .registering config task →
      s.taskIsLive task = false)
    (phase : RequestPhase) : (s.setPhase i phase).AllOwned :=
  h.setPhase hrequest fun config j heq _ htask hlive ↦
    absurd hlive (not_isLive_of_taskIsLive (hstopped config j heq) htask)

theorem not_registering_of_returns (hphase : request.phase.returns) {config : DeviceConfig} {j : ℕ} :
    request.phase ≠ .registering config j := by
  intro heq
  rw [heq] at hphase
  cases hphase

/-- **Step lemma.** Ownership is kept by every step that loses no task. -/
theorem allOwned_effect {label : Label} (hguard : s.losesNoTask socketAddr label)
    (hrouted : s.Routed fun _ _ ↦ True) (h : s.AllOwned) (heffect : Effect socketAddr s label t) :
    t.AllOwned := by
  cases heffect with
  | register config configured persisted hcreated hnext =>
      apply allOwned_registerNew h
      rcases hnext with hhead | hnone
      · simpa [losesNoTask, hhead, hcreated] using hguard
      · simp [entryIsLive, hnone]
  | skip configured persisted => exact h
  | arrive call =>
      intro j task htask hlive
      rcases h j task htask hlive with hregistered | ⟨k, request, config, hk, hphase⟩
      · exact .inl hregistered
      · exact .inr ⟨k, request, config,
          ListUpdate.getElem?_of_prefix (List.prefix_append _ _) hk, hphase⟩
  | answer table response hrequest hphase hwrite =>
      exact h.setPhase hrequest fun config j heq ↦ absurd heq (not_registering_of_returns hphase)
  | createNew hrequest => exact h.setPhase hrequest (fun _ _ heq ↦ by cases heq)
  | createAgain hrequest hhandle => exact h.setPhase hrequest (fun _ _ heq ↦ by cases heq)
  | @spawn i now call config hrequest =>
      intro j task htask hlive
      rcases getElem?_spawnTask htask with hold | ⟨rfl, rfl⟩
      · have hphase : (s.setPhase i (.registering config s.tasks.length)).AllOwned :=
          h.setPhase hrequest (fun _ _ heq ↦ by cases heq)
        exact hphase j task hold hlive
      · refine .inr ⟨i, ⟨call, .registering config s.tasks.length⟩, config, ?_, rfl⟩
        rw [setPhase_requests, spawnTask_requests, ListUpdate.getElem?_modify_of_some hrequest,
          if_pos rfl]
  | panic hrequest => exact h.setPhase hrequest (fun _ _ heq ↦ by cases heq)
  | @registerAdded i now req config task hrequest =>
      have hreplaced : s.entryIsLive config.id = false := by
        simpa [losesNoTask, hrequest] using hguard
      exact allOwned_registerPending h hrequest rfl (hrouted.request i _ hrequest) rfl
        (fun old hold ↦ taskIsLive_of_entryIsLive hreplaced hold) _
  | @registerConnected i now deviceId config task handle response hrequest hhandle =>
      obtain ⟨rfl, hconfig⟩ := hrouted.request i _ hrequest
      have hstopped : s.taskIsLive handle.task = false := by
        simpa [losesNoTask, hrequest, hhandle] using hguard
      refine allOwned_registerPending h hrequest rfl hconfig rfl (fun old hold ↦ ?_) _
      obtain rfl := Option.some.inj (hhandle.symm.trans hold)
      exact hstopped
  | @registerGone i now deviceId config task response hrequest hgone =>
      refine allOwned_dropPending h hrequest (fun config' j heq ↦ ?_) _
      cases heq
      simpa [losesNoTask, hrequest, hgone] using hguard
  | @remove i now deviceId handle hrequest hhandle =>
      have haborted : ((s.abort handle.task).unregister deviceId).AllOwned := by
        apply (h.abort handle.task).unregister
        intro old hold
        obtain rfl := Option.some.inj (hhandle.symm.trans hold)
        exact taskIsLive_abort s handle.task
      exact haborted.setPhase hrequest (fun _ _ heq ↦ by cases heq)
  | disconnect response hrequest hhandle =>
      exact (h.abort _).setPhase hrequest (fun _ _ heq ↦ by cases heq)
  | send hrequest hhandle hwritable => exact h.setPhase hrequest (fun _ _ heq ↦ by cases heq)
  | @push i now claims req channel task hrequest htask hroom =>
      have hqueued : (s.updateTask channel fun task ↦
          { task with queue := task.queue ++ [⟨req.register, req.value, i⟩] }).AllOwned :=
        h.updateTask (fun _ ↦ rfl) fun _ _ hlive ↦ hlive
      exact hqueued.setPhase hrequest (fun _ _ heq ↦ by cases heq)
  | succeed hrequest => exact h.setPhase hrequest (fun _ _ heq ↦ by cases heq)
  | audit hrequest => exact h.setPhase hrequest (fun _ _ heq ↦ by cases heq)
  | @cancel i request hrequest hphase =>
      refine allOwned_dropPending h hrequest (fun config j heq ↦ ?_) _
      obtain ⟨call, phase⟩ := request
      dsimp only at heq
      subst heq
      simpa [losesNoTask, hrequest] using hguard
  | move phase htask hfrom hto =>
      refine h.setTaskPhase htask (fun heq ↦ ?_) phase
      rw [heq] at hfrom
      cases hfrom
  | receive htask hphase hqueue =>
      refine h.updateTask (fun _ ↦ rfl) fun task' htask' hlive ↦ ?_
      obtain rfl := Option.some.inj (htask.symm.trans htask')
      simpa [PollingTask.isLive, PollingTask.isFinished, hphase] using hlive
  | accept htask hphase => exact h.setTaskPhase htask (by simp [hphase]) _
  | written htask hphase => exact (h.setTaskPhase htask (by simp [hphase]) _).reply _ _
  | writeFailed error connected htask hphase =>
      exact (h.setTaskPhase htask (by simp [hphase]) _).reply [_] (.err error)
  | @finish i event task htask hevent =>
      have hended : (s.updateTask i fun task ↦
          { task with phase := .finished, queue := [] }).AllOwned :=
        h.updateTask (fun _ ↦ rfl) fun _ _ hlive ↦ by cases hlive
      exact hended.reply task.commands .dropped
  | acceptLate hwrite => exact h

/-! ## Runs -/

theorem canWrite_of_all_done (hdone : ∀ request ∈ s.requests, request.isDone) :
    s.canWrite = true := by
  rw [canWrite, List.all_eq_true]
  intro request hmem
  have hthis := hdone request hmem
  obtain ⟨call, phase⟩ := request
  cases phase with
  | done response => rfl
  | _ => cases hthis

/-- With no request in progress, owned tasks are registered ones and can be stopped. -/
theorem AllOwned.tasksControlled (h : s.AllOwned)
    (hdone : ∀ request ∈ s.requests, request.isDone) : s.TasksControlled := by
  have hregistered : ∀ (i : ℕ) (task : PollingTask), s.tasks[i]? = some task → task.isLive →
      s.IsRegistered i task := by
    intro i task htask hlive
    rcases h i task htask hlive with hregistered | ⟨j, request, config, hj, hphase⟩
    · exact hregistered
    · have hthis := hdone request (List.mem_of_getElem? hj)
      rw [DeviceRequest.isDone, hphase] at hthis
      cases hthis
  have hwrite := canWrite_of_all_done hdone
  refine ⟨hregistered, ?_, ?_⟩
  · intro i j task task' htask htask' hlive hlive' hid
    obtain ⟨handle, hhandle, rfl⟩ := hregistered i task htask hlive
    obtain ⟨handle', hhandle', rfl⟩ := hregistered j task' htask' hlive'
    rw [hid] at hhandle
    rw [Option.some.inj (hhandle.symm.trans hhandle')]
  · intro i task request htask hlive
    obtain ⟨handle, hhandle, rfl⟩ := hregistered i task htask hlive
    have hrunning : s.taskIsFinished handle.task = false := by
      simp only [PollingTask.isLive, Bool.and_eq_true, Bool.not_eq_true'] at hlive
      simpa [taskIsFinished, htask] using hlive.1
    constructor
    · rw [disconnectDevice, if_pos hwrite, hhandle]
      exact ⟨_, if_neg (by simp [hrunning]), taskIsLive_abort s handle.task⟩
    · rw [removeDevice, if_pos hwrite, hhandle]
      exact ⟨_, rfl, taskIsLive_abort s handle.task⟩

theorem allOwned_init (configured deviceTable : List DeviceConfig) :
    (init configured deviceTable).AllOwned := by
  intro i task htask
  cases htask

variable {configured deviceTable : List DeviceConfig} {labels : List Label}

/-- **One task for each device.** While no step loses a task, every live task is the registered
task of its device whenever no request is in progress. -/
theorem tasks_controlled
    (hrun : Transition.Run (Transition.guarded (fun s label ↦ s.losesNoTask socketAddr label)
      (Transition.ofOption (step socketAddr overflowChecks))) (init configured deviceTable)
      labels s) :
    (∀ request ∈ s.requests, request.isDone) → s.TasksControlled := by
  have howned : s.AllOwned ∧ s.Routed fun _ _ ↦ True := by
    apply @Transition.Run.invariant _ _ _ _ _ (fun u ↦ u.AllOwned ∧ u.Routed fun _ _ ↦ True) _ _ _ hrun
    · exact ⟨allOwned_init configured deviceTable, routed_init _ _ _⟩
    · rintro u label v ⟨hu, hrouted⟩ ⟨hguard, hstep⟩
      have heffect := effect_of_step hstep
      exact ⟨allOwned_effect hguard hrouted hu heffect, routed_step hrouted hstep⟩
  exact howned.1.tasksControlled

/-- Start-up registers one device and a request adds another, which is disconnected and connected
again. -/
def registeredRun : List Label :=
  [.registerAtStart] ++ handled 0 (.addDevice (reactor [1031])) 4 ++
  handled 1 (.disconnectDevice "plc-01") 1 ++ [.poll 1 .stop] ++
  handled 2 (.connectDevice "plc-01") 3

/-- A device of the configuration file. -/
def coolingTower : DeviceConfig where
  id := "plc-02"
  name := "Cooling Tower"
  address := "127.0.0.1:5021"
  protocol := "modbus"
  pollRateMs := 1000
  registerStart := 1028
  registerCount := 8
  writable := [1028, 1031]

theorem tasks_controlled_registeredRun :
    ∃ s, Transition.exec (step (fun _ ↦ true) true) (init [coolingTower] []) registeredRun = some s ∧
      (∀ request ∈ s.requests, request.isDone) ∧ s.TasksControlled := by
  obtain ⟨s, hrun, htest⟩ := @Transition.exists_run_guarded_of_any _ _ (init [coolingTower] [])
    (step (fun _ ↦ true) true) (fun s label ↦ s.losesNoTask (fun _ ↦ true) label) _
    (fun s ↦ s.requests.all DeviceRequest.isDone) registeredRun (by decide)
  have hdone := List.all_eq_true.mp htest
  exact ⟨s, Transition.run_ofOption_iff.mp hrun.of_guarded, hdone, tasks_controlled hrun hdone⟩

/-- Two requests to add the same device, both past their check before either registers its
task. -/
def twiceAddedRun : List Label :=
  handled 0 (.addDevice (reactor [1031])) 1 ++ handled 1 (.addDevice (reactor [1031])) 4 ++
    List.replicate 3 (.advance 0 0)

theorem twiceAddedRun_uncontrolled :
    ∃ s, Transition.exec (step (fun _ ↦ true) true) (init [] []) twiceAddedRun = some s ∧
      ¬((∀ request ∈ s.requests, request.isDone) → s.TasksControlled) := by
  apply @Transition.exists_exec_not _ _ _ _ _ fun s ↦
    !(s.requests.all DeviceRequest.isDone && s.tasks[0]?.any PollingTask.isLive &&
      s.tasks[1]?.any PollingTask.isLive && s.tasks.all fun task ↦ task.config.id == "plc-01")
  · intro s hcontrolled
    rw [Bool.not_eq_true', ← Bool.not_eq_true]
    simp only [Bool.and_eq_true, List.all_eq_true, Option.any_eq_true, beq_iff_eq]
    rintro ⟨⟨⟨hdone, first, hfirst, hlive⟩, second, hsecond, hlive'⟩, hid⟩
    have hsame := (hcontrolled hdone).unique 0 1 first second hfirst hsecond hlive hlive'
      ((hid first (List.mem_of_getElem? hfirst)).trans
        (hid second (List.mem_of_getElem? hsecond)).symm)
    cases hsame
  · decide

end DeviceRuntime

end VyuhHmi
