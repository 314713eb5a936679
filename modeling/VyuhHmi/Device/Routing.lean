import VyuhHmi.Device.Steps

/-!
# Where commands go

A command belongs to the request that issued it: it names that request's register and value, and it
is only ever held by a task of the device that the request names.  Together with it the invariant
carries a permission `P register config` for the configuration of the task that holds a command, so
that it serves both for what always holds and for what holds while no device changes its writable
registers between two lock sections of `connect_device`.
-/

namespace VyuhHmi

/-- The command's reply goes to request `i`. -/
def WriteCommand.repliesTo (i : ℕ) (command : WriteCommand) : Bool := command.response == i

namespace DeviceRuntime

/-- The configurations that the tasks were started with. -/
def configs (s : DeviceRuntime) : List DeviceConfig := s.tasks.map PollingTask.config

/-- The calls that the requests make. -/
def calls (s : DeviceRuntime) : List DeviceCall := s.requests.map DeviceRequest.call

/-- Where a request is suspended. -/
def phaseOf (s : DeviceRuntime) (i : ℕ) : Option RequestPhase :=
  s.requests[i]?.map DeviceRequest.phase

/-- The command was issued by a write request to this device. -/
def Issued (s : DeviceRuntime) (deviceId : String) (command : WriteCommand) : Prop :=
  ∃ claims req, s.calls[command.response]? = some (.postWrite claims req) ∧
    req.deviceId = deviceId ∧ req.register = command.register ∧ req.value = command.value

variable {P : UInt16 → DeviceConfig → Prop}

/-- The handle's task was started for this device and permits the handle's writable registers. -/
def HandleOk (P : UInt16 → DeviceConfig → Prop) (s : DeviceRuntime) (deviceId : String)
    (handle : DeviceHandle) : Prop :=
  handle.writeTx = handle.task ∧ handle.config.id = deviceId ∧
    ∃ config, s.configs[handle.task]? = some config ∧ config.id = deviceId ∧
      ∀ register ∈ handle.config.writable, P register config

/-- What a handler between two suspension points has to keep true of its own variables. -/
def RequestOk (P : UInt16 → DeviceConfig → Prop) (s : DeviceRuntime) :
    DeviceCall → RequestPhase → Prop
  | .connectDevice deviceId, .creating config => config.id = deviceId
  | .connectDevice deviceId, .registering config task =>
      config.id = deviceId ∧ s.configs[task]? = some config
  | _, .registering config task => s.configs[task]? = some config
  | .postWrite _ req, .sending channel =>
      ∃ config, s.configs[channel]? = some config ∧ config.id = req.deviceId ∧ P req.register config
  | _, .sending _ => False
  | .removeDevice _, .deleting => True
  | _, .deleting => False
  | _, _ => True

/-- **Routing.** Handles, suspended handlers, commands and PLC writes all belong together. -/
structure Routed (P : UInt16 → DeviceConfig → Prop) (s : DeviceRuntime) : Prop where
  handle : ∀ deviceId handle, s.registry deviceId = some handle → s.HandleOk P deviceId handle
  request : ∀ (i : ℕ) request, s.requests[i]? = some request →
    s.RequestOk P request.call request.phase
  command : ∀ (i : ℕ) task, s.tasks[i]? = some task → ∀ command ∈ task.commands,
    s.Issued task.config.id command ∧ P command.register task.config
  write : ∀ write ∈ s.lateWrites ++ s.plcWrites, s.Issued write.deviceId write.command

variable {socketAddr : String → Bool} {s t : DeviceRuntime}

/-! ## What later states keep -/

theorem Issued.mono {deviceId : String} {command : WriteCommand} (hcalls : s.calls <+: t.calls)
    (h : s.Issued deviceId command) : t.Issued deviceId command := by
  obtain ⟨claims, req, hcall, hreq⟩ := h
  exact ⟨claims, req, ListUpdate.getElem?_of_prefix hcalls hcall, hreq⟩

theorem HandleOk.mono {deviceId : String} {handle : DeviceHandle}
    (hconfigs : s.configs <+: t.configs) (h : s.HandleOk P deviceId handle) :
    t.HandleOk P deviceId handle := by
  obtain ⟨htx, hid, config, hconfig, hrest⟩ := h
  exact ⟨htx, hid, config, ListUpdate.getElem?_of_prefix hconfigs hconfig, hrest⟩

theorem RequestOk.mono {call : DeviceCall} {phase : RequestPhase}
    (hconfigs : s.configs <+: t.configs) (h : s.RequestOk P call phase) :
    t.RequestOk P call phase := by
  have hlookup {i : ℕ} {config : DeviceConfig} (hi : s.configs[i]? = some config) :
      t.configs[i]? = some config := ListUpdate.getElem?_of_prefix hconfigs hi
  cases phase with
  | registering config task =>
      cases call with
      | connectDevice deviceId => exact ⟨h.1, hlookup h.2⟩
      | addDevice req => exact hlookup h
      | removeDevice deviceId => exact hlookup h
      | disconnectDevice deviceId => exact hlookup h
      | postWrite claims req => exact hlookup h
  | sending channel =>
      cases call with
      | postWrite claims req =>
          obtain ⟨config, hconfig, hrest⟩ := h
          exact ⟨config, hlookup hconfig, hrest⟩
      | addDevice req => exact h
      | removeDevice deviceId => exact h
      | disconnectDevice deviceId => exact h
      | connectDevice deviceId => exact h
  | creating config => cases call <;> exact h
  | ready => cases call <;> trivial
  | saving config => cases call <;> trivial
  | deleting => cases call <;> exact h
  | waiting reply => cases call <;> trivial
  | auditing => cases call <;> trivial
  | done response => cases call <;> trivial

@[simp] theorem calls_setPhase (i : ℕ) (phase : RequestPhase) :
    (s.setPhase i phase).calls = s.calls :=
  ListUpdate.map_modify_of_forall fun _ ↦ rfl

@[simp] theorem calls_reply (commands : List WriteCommand) (reply : WriteReply) :
    (s.reply commands reply).calls = s.calls := by
  apply ListUpdate.map_mapIdx_of_forall
  intro i request
  unfold DeviceRequest.receive
  split
  · split <;> rfl
  · rfl

/-- A reply reaches the requests that wait for one of the commands, and no others. -/
theorem reply_cases {commands : List WriteCommand} {reply : WriteReply} {j : ℕ}
    {request : DeviceRequest} (hj : (s.reply commands reply).requests[j]? = some request) :
    s.requests[j]? = some request ∨
      ∃ call, ∃ command ∈ commands, command.response = j ∧
        s.requests[j]? = some ⟨call, .waiting none⟩ ∧ request = ⟨call, .waiting (some reply)⟩ := by
  rw [reply_requests, List.getElem?_mapIdx] at hj
  obtain ⟨⟨call, phase⟩, hbefore, rfl⟩ := Option.map_eq_some_iff.mp hj
  split
  case isTrue hany =>
      obtain ⟨command, hmem, hreplies⟩ := List.any_eq_true.mp hany
      unfold DeviceRequest.receive
      split
      case h_1 hphase =>
          dsimp only at hphase
          subst hphase
          exact .inr ⟨call, command, hmem, beq_iff_eq.mp hreplies, hbefore, rfl⟩
      case h_2 => exact .inl hbefore
  case isFalse => exact .inl hbefore

theorem configs_updateTask {i : ℕ} {f : PollingTask → PollingTask}
    (hf : ∀ task, (f task).config = task.config) : (s.updateTask i f).configs = s.configs :=
  ListUpdate.map_modify_of_forall hf

theorem getElem?_configs {i : ℕ} {task : PollingTask} (h : s.tasks[i]? = some task) :
    s.configs[i]? = some task.config := by
  simp [configs, h]

/-! ## Single updates -/

theorem Routed.setPhase (h : s.Routed P) {i : ℕ} {request : DeviceRequest} {phase : RequestPhase}
    (hrequest : s.requests[i]? = some request) (hok : s.RequestOk P request.call phase) :
    (s.setPhase i phase).Routed P where
  handle := h.handle
  request := by
    refine ListUpdate.forall_modify (fun j request' _ ↦ h.request j request')
      fun request' hrequest' ↦ ?_
    obtain rfl := Option.some.inj (hrequest.symm.trans hrequest')
    exact hok
  command := by
    intro j task hj command hcommand
    obtain ⟨hissued, hp⟩ := h.command j task hj command hcommand
    exact ⟨hissued.mono (by simp), hp⟩
  write := fun write hwrite ↦ (h.write write hwrite).mono (by simp)

theorem Routed.reply (h : s.Routed P) (commands : List WriteCommand) (reply : WriteReply) :
    (s.reply commands reply).Routed P where
  handle := h.handle
  request := by
    intro j request hj
    rcases reply_cases hj with hbefore | ⟨call, -, -, -, -, rfl⟩
    · exact h.request j request hbefore
    · cases call <;> trivial
  command := by
    intro j task hj command hcommand
    obtain ⟨hissued, hp⟩ := h.command j task hj command hcommand
    exact ⟨hissued.mono (by simp), hp⟩
  write := fun write hwrite ↦ (h.write write hwrite).mono (by simp)

theorem Routed.updateTask (h : s.Routed P) {i : ℕ} {f : PollingTask → PollingTask}
    (hconfig : ∀ task, (f task).config = task.config)
    (hcommand : ∀ task, s.tasks[i]? = some task → ∀ command ∈ (f task).commands,
      command ∈ task.commands ∨
        s.Issued task.config.id command ∧ P command.register task.config) :
    (s.updateTask i f).Routed P where
  handle := fun deviceId handle hhandle ↦
    (h.handle deviceId handle hhandle).mono (by rw [configs_updateTask hconfig])
  request := fun j request hj ↦
    (h.request j request hj).mono (by rw [configs_updateTask hconfig])
  command := by
    refine ListUpdate.forall_modify (fun j task' _ ↦ h.command j task')
      fun task htask command hmem ↦ ?_
    rw [hconfig]
    rcases hcommand task htask command hmem with hold | hnew
    · exact h.command i task htask command hold
    · exact hnew
  write := h.write

theorem Routed.spawnTask (h : s.Routed P) (config : DeviceConfig) :
    (s.spawnTask config).Routed P where
  handle := fun deviceId handle hhandle ↦
    (h.handle deviceId handle hhandle).mono (by simp [configs])
  request := fun j request hj ↦ (h.request j request hj).mono (by simp [configs])
  -- a new task holds no command
  command := ListUpdate.forall_append_singleton h.command fun _ hmem ↦ by cases hmem
  write := h.write

theorem Routed.register (h : s.Routed P) {deviceId : String} {handle : DeviceHandle}
    (hok : s.HandleOk P deviceId handle) : (s.register deviceId handle).Routed P where
  handle := by
    intro deviceId' handle' hhandle
    rw [register_registry, Function.update_apply] at hhandle
    split at hhandle
    case isTrue hid =>
        obtain rfl := Option.some.inj hhandle
        subst hid
        exact hok
    case isFalse => exact h.handle deviceId' handle' hhandle
  request := h.request
  command := h.command
  write := h.write

theorem Routed.unregister (h : s.Routed P) (deviceId : String) :
    (s.unregister deviceId).Routed P where
  handle := by
    intro deviceId' handle' hhandle
    rw [unregister_registry, Function.update_apply] at hhandle
    split at hhandle
    case isTrue => cases hhandle
    case isFalse => exact h.handle deviceId' handle' hhandle
  request := h.request
  command := h.command
  write := h.write

theorem Routed.writes (h : s.Routed P) {late accepted : List PlcWrite}
    (hwrite : ∀ write ∈ late ++ accepted, write ∈ s.lateWrites ++ s.plcWrites ∨
      s.Issued write.deviceId write.command) :
    Routed P { s with lateWrites := late, plcWrites := accepted } where
  handle := h.handle
  request := h.request
  command := h.command
  write := fun write hmem ↦ (hwrite write hmem).elim (h.write write) id

theorem Routed.abort (h : s.Routed P) (i : ℕ) : (s.abort i).Routed P :=
  h.updateTask (fun _ ↦ rfl) fun _ _ _ hmem ↦ .inl hmem

theorem Routed.arrive (h : s.Routed P) (call : DeviceCall) :
    Routed P { s with requests := s.requests ++ [⟨call, .ready⟩] } where
  handle := h.handle
  request := by
    refine ListUpdate.forall_append_singleton h.request ?_
    cases call <;> trivial
  command := by
    intro j task hj command hmem
    obtain ⟨hissued, hp⟩ := h.command j task hj command hmem
    exact ⟨hissued.mono (by simp [calls]), hp⟩
  write := fun write hwrite ↦ (h.write write hwrite).mono (by simp [calls])

/-! ### Phases -/

section phases

variable {i : ℕ} {request : DeviceRequest}

theorem phaseOf_of_some (hrequest : s.requests[i]? = some request) :
    s.phaseOf i = some request.phase := by
  simp [phaseOf, hrequest]

theorem phaseOf_setPhase (hrequest : s.requests[i]? = some request) (phase : RequestPhase) (j : ℕ) :
    (s.setPhase i phase).phaseOf j = if j = i then some phase else s.phaseOf j := by
  unfold phaseOf
  rw [setPhase_requests, ListUpdate.getElem?_modify_of_some hrequest]
  split <;> rfl

theorem phase_receive (request : DeviceRequest) (reply : WriteReply) :
    (request.receive reply).phase =
      if request.phase = .waiting none then .waiting (some reply) else request.phase := by
  unfold DeviceRequest.receive
  split
  case h_1 hphase => rw [if_pos hphase]
  case h_2 hphase => rw [if_neg hphase]

theorem phaseOf_reply (commands : List WriteCommand) (reply : WriteReply) (j : ℕ) :
    (s.reply commands reply).phaseOf j =
      if commands.any (WriteCommand.repliesTo j) ∧ s.phaseOf j = some (.waiting none) then
        some (.waiting (some reply))
      else s.phaseOf j := by
  unfold phaseOf
  rw [reply_requests, List.getElem?_mapIdx]
  cases hrequest : s.requests[j]? with
  | none => simp
  | some request =>
      by_cases hany : commands.any (WriteCommand.repliesTo j)
      · have hany' : (commands.any fun command ↦ command.response == j) = true := hany
        simp only [hany, hany', if_true, Option.map_some, true_and, Option.some.injEq,
          phase_receive]
        split <;> rfl
      · have hany' : ¬(commands.any fun command ↦ command.response == j) = true := hany
        simp [hany, hany']

theorem phaseOf_arrive (call : DeviceCall) (j : ℕ) :
    phaseOf { s with requests := s.requests ++ [⟨call, .ready⟩] } j =
      if j = s.requests.length then some .ready else s.phaseOf j := by
  unfold phaseOf
  rw [ListUpdate.getElem?_append_singleton]
  split <;> rfl

end phases

/-! ## Steps -/

/-- When `connect_device` stores its new task, every register that the entry then lists as
writable is permitted for the configuration the task was started with. -/
def ConnectsPermitted (P : UInt16 → DeviceConfig → Prop) (s : DeviceRuntime) (label : Label) :
    Prop :=
  ∀ i now deviceId config task handle, label = .advance i now →
    s.requests[i]? = some ⟨.connectDevice deviceId, .registering config task⟩ →
    s.registry deviceId = some handle → ∀ register ∈ handle.config.writable, P register config

theorem requestOk_of_returned (call : DeviceCall) (response : Option Response) :
    s.RequestOk P call (.done response) := by
  cases call <;> trivial

theorem Routed.answer (h : s.Routed P) {i : ℕ} {request : DeviceRequest} (response : Response)
    (hrequest : s.requests[i]? = some request) : (s.answer i response).Routed P :=
  h.setPhase hrequest (requestOk_of_returned request.call (some response))

theorem Routed.setTaskPhase (h : s.Routed P) {i : ℕ} {phase : TaskPhase}
    (hphase : ∀ task, s.tasks[i]? = some task →
      ∀ command ∈ (PollingTask.mk task.config phase task.queue task.aborted).current,
        command ∈ task.commands) : (s.setTaskPhase i phase).Routed P := by
  refine h.updateTask (fun _ ↦ rfl) fun task htask command hmem ↦ .inl ?_
  rcases List.mem_append.mp hmem with hcurrent | hqueue
  · exact hphase task htask command hcurrent
  · exact List.mem_append_right _ hqueue

theorem current_of_quiet {config : DeviceConfig} {phase : TaskPhase} {queue : List WriteCommand}
    {aborted : Bool} (h : phase.quiet) : (PollingTask.mk config phase queue aborted).current = [] := by
  cases phase with
  | writing command accepted => cases h
  | _ => rfl

theorem pendingCommand_subset (task : PollingTask) : task.pendingCommand ⊆ task.commands := by
  intro command hmem
  unfold PollingTask.pendingCommand at hmem
  split at hmem
  case h_1 _ hphase =>
      obtain rfl := List.mem_singleton.mp hmem
      simp [PollingTask.commands, PollingTask.current, hphase]
  case h_2 => cases hmem

/-- Writes that a task gives up were issued to its device. -/
theorem Routed.giveUp (h : s.Routed P) {t : DeviceRuntime} (ht : t.Routed P) {i : ℕ}
    {task : PollingTask} (htask : s.tasks[i]? = some task) (hcalls : t.calls = s.calls)
    (hlate : t.lateWrites = s.lateWrites) :
    Routed P { t with
      lateWrites := s.lateWrites ++ task.pendingCommand.map (PlcWrite.mk task.config.id) } := by
  refine ht.writes fun write hmem ↦ ?_
  rw [List.append_assoc, List.mem_append, List.mem_append] at hmem
  rw [List.mem_append, hlate]
  rcases hmem with hold | hnew | haccepted
  · exact .inl (.inl hold)
  · obtain ⟨command, hcommand, rfl⟩ := List.mem_map.mp hnew
    obtain ⟨hissued, -⟩ := h.command i task htask command (pendingCommand_subset task hcommand)
    exact .inr (hissued.mono (by rw [hcalls]))
  · exact .inl (.inr haccepted)

/-- Requests keep their calls. -/
theorem calls_prefix_of_effect {label : Label} (heffect : Effect socketAddr s label t) :
    s.calls <+: t.calls := by
  have hsame {u : DeviceRuntime} (hcalls : u.calls = s.calls) : s.calls <+: u.calls := by
    rw [hcalls]
  cases heffect with
  | arrive call => simp [calls]
  | written htask hphase => exact hsame (calls_reply _ _)
  | writeFailed error connected htask hphase => exact hsame (calls_reply _ _)
  | finish htask hevent => exact hsame (calls_reply _ _)
  | register | skip | move | receive | accept | acceptLate => exact List.prefix_rfl
  | _ => exact hsame (calls_setPhase _ _)

theorem acceptedCommand_of_quiet {task : PollingTask} (hphase : task.phase.quiet) :
    task.acceptedCommand = [] := by
  unfold PollingTask.acceptedCommand
  split
  case h_1 _ hwriting =>
      rw [hwriting] at hphase
      cases hphase
  case h_2 => rfl

/-- **Step lemma.** Routing is kept by every step whose connects are permitted. -/
theorem routed_effect (hP : ∀ config, ∀ register ∈ DeviceConfig.writable config, P register config)
    {label : Label} (hconnect : s.ConnectsPermitted P label) (h : s.Routed P)
    (heffect : Effect socketAddr s label t) : t.Routed P := by
  cases heffect with
  | register config configured persisted hcreated hnext =>
      have hnew : (s.registerNew config).Routed P := by
        apply (h.spawnTask config).register
        exact ⟨rfl, rfl, config, by simp [configs, PollingTask.spawn], rfl, hP config⟩
      exact ⟨hnew.handle, hnew.request, hnew.command, hnew.write⟩
  | skip configured persisted => exact ⟨h.handle, h.request, h.command, h.write⟩
  | arrive call => exact h.arrive call
  | answer table response hrequest hphase hwrite =>
      have hsame : Routed P { s with deviceTable := table } :=
        ⟨h.handle, h.request, h.command, h.write⟩
      exact hsame.answer response hrequest
  | createNew hrequest => exact h.setPhase hrequest trivial
  | createAgain hrequest hhandle =>
      exact h.setPhase hrequest (h.handle _ _ hhandle).2.1
  | @spawn i now call config hrequest =>
      refine (h.spawnTask config).setPhase hrequest ?_
      have hnew : (s.spawnTask config).configs[s.tasks.length]? = some config := by
        simp [configs, PollingTask.spawn]
      have hok := h.request i _ hrequest
      cases call with
      | connectDevice deviceId => exact ⟨hok, hnew⟩
      | addDevice req => exact hnew
      | removeDevice deviceId => exact hnew
      | disconnectDevice deviceId => exact hnew
      | postWrite claims req => exact hnew
  | panic hrequest => exact h.setPhase hrequest (requestOk_of_returned _ _)
  | @registerAdded i now req config task hrequest =>
      have hconfig : s.configs[task]? = some config := h.request i _ hrequest
      have hregister : (s.register config.id ⟨task, task, config⟩).Routed P :=
        h.register ⟨rfl, rfl, config, hconfig, rfl, hP config⟩
      exact hregister.setPhase hrequest trivial
  | @registerConnected i now deviceId config task handle response hrequest hhandle =>
      obtain ⟨hid, hconfig⟩ := h.request i _ hrequest
      have hpermitted := hconnect i now deviceId config task handle rfl hrequest hhandle
      have hregister : (s.register deviceId { handle with task := task, writeTx := task }).Routed P :=
        h.register ⟨rfl, (h.handle deviceId handle hhandle).2.1, config, hconfig, hid, hpermitted⟩
      exact hregister.answer response hrequest
  | registerGone response hrequest hgone => exact h.answer response hrequest
  | remove hrequest hhandle =>
      exact ((h.unregister _).abort _).setPhase hrequest trivial
  | disconnect response hrequest hhandle => exact (h.abort _).answer response hrequest
  | @send i now claims req handle hrequest hhandle hwritable =>
      obtain ⟨htx, -, config, hconfig, hid, hpermitted⟩ := h.handle _ _ hhandle
      exact h.setPhase hrequest ⟨config, htx ▸ hconfig, hid, hpermitted _ hwritable⟩
  | @push i now claims req channel task hrequest htask hroom =>
      obtain ⟨config, hconfig, hid, hp⟩ := h.request i _ hrequest
      obtain rfl : task.config = config := by
        simpa [getElem?_configs htask] using hconfig
      have hissued : s.Issued task.config.id ⟨req.register, req.value, i⟩ :=
        ⟨claims, req, by simp [calls, hrequest], hid.symm, rfl, rfl⟩
      have hqueued : (s.updateTask channel fun task ↦
          { task with queue := task.queue ++ [⟨req.register, req.value, i⟩] }).Routed P := by
        refine h.updateTask (fun _ ↦ rfl) fun task' htask' command hmem ↦ ?_
        obtain rfl := Option.some.inj (htask.symm.trans htask')
        rcases List.mem_append.mp hmem with hcurrent | hqueue
        · exact .inl (List.mem_append_left _ hcurrent)
        · rcases List.mem_append.mp hqueue with hold | hnew
          · exact .inl (List.mem_append_right _ hold)
          · obtain rfl := List.mem_singleton.mp hnew
            exact .inr ⟨hissued, hp⟩
      exact hqueued.setPhase hrequest trivial
  | @succeed i now call hrequest =>
      refine h.setPhase hrequest ?_
      cases call <;> trivial
  | @audit i now claims req hrequest =>
      have hlogged : Routed P { s with
          auditTrail := logAudit s.auditTrail claims.userId claims.sub "write_register"
            (some req.deviceId) (writeDetails req.register req.value) none now
          auditedBy := s.auditedBy ++ [i] } :=
        ⟨h.handle, h.request, h.command, h.write⟩
      exact hlogged.answer _ hrequest
  | cancel hrequest hphase => exact h.setPhase hrequest (requestOk_of_returned _ _)
  | move phase htask hfrom hto =>
      apply h.setTaskPhase
      intro task _ command hmem
      rw [current_of_quiet hto] at hmem
      cases hmem
  | @receive i task command rest htask hphase hqueue =>
      refine h.updateTask (fun _ ↦ rfl) fun task' htask' command' hmem ↦ .inl ?_
      obtain rfl := Option.some.inj (htask.symm.trans htask')
      have hold : task.commands = command :: rest := by
        simp [PollingTask.commands, PollingTask.current, hphase, hqueue]
      rw [hold]
      exact hmem
  | @accept i task command htask hphase =>
      have hheld : command ∈ task.commands := by
        simp [PollingTask.commands, PollingTask.current, hphase]
      have hphase' : (s.setTaskPhase i (.writing command true)).Routed P := by
        apply h.setTaskPhase
        intro task' htask' command' hmem
        obtain rfl := Option.some.inj (htask.symm.trans htask')
        obtain rfl := List.mem_singleton.mp hmem
        exact hheld
      refine hphase'.writes fun write hmem ↦ ?_
      rw [← List.append_assoc, List.mem_append] at hmem
      rcases hmem with hold | hnew
      · exact .inl hold
      · obtain rfl := List.mem_singleton.mp hnew
        exact .inr ((h.command i task htask command hheld).1.mono
          (by simp [DeviceRuntime.setTaskPhase, calls]))
  | written htask hphase =>
      apply Routed.reply
      apply h.setTaskPhase
      intro task _ command hmem
      cases hmem
  | @writeFailed i task command accepted error connected htask hphase =>
      have hphase' : (s.setTaskPhase i (if connected then .polling else .sleeping)).Routed P := by
        apply h.setTaskPhase
        intro task' _ command' hmem
        rw [current_of_quiet (by split <;> rfl)] at hmem
        cases hmem
      exact h.giveUp (hphase'.reply [command] (.err error)) htask (by simp; rfl) rfl
  | @finish i event task htask hevent =>
      have hended : (s.updateTask i fun task ↦ { task with phase := .finished, queue := [] }).Routed
          P := by
        refine h.updateTask (fun _ ↦ rfl) fun task' _ command hmem ↦ ?_
        cases hmem
      exact h.giveUp (hended.reply task.commands .dropped) htask (by simp; rfl) rfl
  | @acceptLate index write hwrite =>
      refine h.writes fun write' hmem ↦ .inl ?_
      have hlate : write ∈ s.lateWrites := List.mem_of_getElem? hwrite
      rcases List.mem_append.mp hmem with hleft | hright
      · exact List.mem_append_left _ (List.mem_of_mem_eraseIdx hleft)
      · rcases List.mem_append.mp hright with haccepted | hnew
        · exact List.mem_append_right _ haccepted
        · obtain rfl := List.mem_singleton.mp hnew
          exact List.mem_append_left _ hlate

/-! ## Runs -/

theorem routed_init (P : UInt16 → DeviceConfig → Prop)
    (configured deviceTable : List DeviceConfig) :
    (init configured deviceTable).Routed P where
  handle := fun _ _ h ↦ by cases h
  request := fun _ _ h ↦ by cases h
  command := fun _ _ h ↦ by cases h
  write := fun _ h ↦ by cases h

/-- Routing without permissions is kept by every step. -/
theorem routed_step {overflowChecks : Bool} {label : Label} (h : s.Routed fun _ _ ↦ True)
    (hstep : step socketAddr overflowChecks s label = some t) : t.Routed fun _ _ ↦ True :=
  routed_effect (fun _ _ _ ↦ trivial) (fun _ _ _ _ _ _ _ _ _ _ _ ↦ trivial) h
    (effect_of_step hstep)

/-- Routing without permissions holds in every reachable state. -/
theorem routed_of_run {overflowChecks : Bool}
    {configured deviceTable : List DeviceConfig} {labels : List Label}
    (hrun : Transition.Run (Transition.ofOption (step socketAddr overflowChecks))
      (init configured deviceTable) labels s) : s.Routed fun _ _ ↦ True :=
  hrun.invariant (routed_init _ configured deviceTable) fun _ _ _ hu hstep ↦ routed_step hu hstep

end DeviceRuntime

end VyuhHmi
