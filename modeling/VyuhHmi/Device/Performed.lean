import VyuhHmi.Device.Routing

/-!
# Performed writes

Where the code takes a write as performed, a PLC has accepted it: a command that its task has seen
accepted, a successful reply, and a write request that has answered success.
-/

namespace VyuhHmi

/-- Phases of a write request whose command a PLC has accepted. -/
def RequestPhase.performed : RequestPhase → Bool
  | .waiting (some .ok) | .auditing => true
  | .done (some response) => response.success
  | _ => false

namespace DeviceRuntime

/-- The state in which the handler of a new request starts. -/
abbrev arrived (s : DeviceRuntime) (call : DeviceCall) : DeviceRuntime :=
  { s with requests := s.requests ++ [⟨call, .ready⟩] }

variable {socketAddr : String → Bool} {s t : DeviceRuntime} {call : DeviceCall} {i : ℕ}
  {request : DeviceRequest}

/-- A PLC has accepted a write for this request. -/
def HasWrite (s : DeviceRuntime) (i : ℕ) : Prop :=
  ∃ write ∈ s.plcWrites, write.command.response = i

/-- Accepted commands and performed requests have their write at a PLC. -/
structure Performed (s : DeviceRuntime) : Prop where
  task : ∀ (i : ℕ) task, s.tasks[i]? = some task → ∀ command ∈ task.acceptedCommand,
    s.HasWrite command.response
  request : ∀ (i : ℕ) request, s.requests[i]? = some request → request.isWrite →
    request.phase.performed → s.HasWrite i

theorem Performed.setPhase (h : s.Performed) (hrequest : s.requests[i]? = some request)
    {phase : RequestPhase} (hok : request.isWrite → phase.performed → s.HasWrite i) :
    (s.setPhase i phase).Performed where
  task := h.task
  request := by
    refine ListUpdate.forall_modify (fun j request' _ ↦ h.request j request')
      fun request' hrequest' ↦ ?_
    obtain rfl := Option.some.inj (hrequest.symm.trans hrequest')
    exact hok

theorem Performed.updateTask (h : s.Performed) {f : PollingTask → PollingTask}
    (hf : ∀ task, s.tasks[i]? = some task → ∀ command ∈ (f task).acceptedCommand,
      s.HasWrite command.response) : (s.updateTask i f).Performed where
  task := ListUpdate.forall_modify (fun j task' _ ↦ h.task j task') hf
  request := h.request

/-- A task update after which the task has no accepted command but those it had. -/
theorem Performed.updateTask_of_subset (h : s.Performed) {f : PollingTask → PollingTask}
    (hf : ∀ task, s.tasks[i]? = some task → (f task).acceptedCommand ⊆ task.acceptedCommand) :
    (s.updateTask i f).Performed :=
  h.updateTask fun task htask command hmem ↦ h.task i task htask command (hf task htask hmem)

theorem Performed.abort (h : s.Performed) (i : ℕ) : (s.abort i).Performed :=
  h.updateTask_of_subset fun _ _ ↦ List.Subset.refl _

theorem Performed.reply (h : s.Performed) {commands : List WriteCommand} {reply : WriteReply}
    (hok : reply = .ok → ∀ command ∈ commands, s.HasWrite command.response) :
    (s.reply commands reply).Performed where
  task := h.task
  request := by
    intro j request hj hwrite hperformed
    rcases reply_cases hj with hbefore | ⟨call, command, hmem, rfl, -, rfl⟩
    · exact h.request j request hbefore hwrite hperformed
    · cases reply with
      | ok => exact hok rfl command hmem
      | err error => cases hperformed
      | dropped => cases hperformed

theorem Performed.register (h : s.Performed) (deviceId : String) (handle : DeviceHandle) :
    (s.register deviceId handle).Performed := ⟨h.task, h.request⟩

theorem Performed.spawnTask (h : s.Performed) (config : DeviceConfig) :
    (s.spawnTask config).Performed where
  task := ListUpdate.forall_append_singleton h.task fun _ hmem ↦ by cases hmem
  request := h.request

theorem HasWrite.append (h : s.HasWrite i) (writes : List PlcWrite) :
    HasWrite { s with plcWrites := s.plcWrites ++ writes } i := by
  obtain ⟨write, hmem, hi⟩ := h
  exact ⟨write, List.mem_append_left _ hmem, hi⟩

/-- PLCs only ever accept more writes. -/
theorem Performed.append (h : s.Performed) (writes : List PlcWrite) :
    Performed { s with plcWrites := s.plcWrites ++ writes } where
  task := fun j task hj command hmem ↦ (h.task j task hj command hmem).append writes
  request := fun j request hj hwrite hperformed ↦
    (h.request j request hj hwrite hperformed).append writes

theorem Performed.arrive (h : s.Performed) (call : DeviceCall) : (s.arrived call).Performed where
  task := h.task
  request := ListUpdate.forall_append_singleton h.request fun _ hperformed ↦ by cases hperformed

/-- **Step lemma.** -/
theorem performed_effect {label : Label} (h : s.Performed) (heffect : Effect socketAddr s label t) :
    t.Performed := by
  cases heffect with
  | register config configured persisted hcreated hnext =>
      have hnew := (h.spawnTask config).register config.id ⟨s.tasks.length, s.tasks.length, config⟩
      exact ⟨hnew.task, hnew.request⟩
  | skip configured persisted => exact ⟨h.task, h.request⟩
  | arrive call => exact h.arrive call
  | answer table response hrequest hphase hwrite =>
      have hsame : Performed { s with deviceTable := table } := ⟨h.task, h.request⟩
      refine hsame.setPhase hrequest fun hiswrite hperformed ↦ ?_
      rw [RequestPhase.performed, hwrite hiswrite] at hperformed
      cases hperformed
  | createNew hrequest => exact h.setPhase hrequest nofun
  | createAgain hrequest hhandle => exact h.setPhase hrequest nofun
  | spawn hrequest => exact (h.spawnTask _).setPhase hrequest nofun
  | panic hrequest => exact h.setPhase hrequest nofun
  | registerAdded hrequest => exact (h.register _ _).setPhase hrequest nofun
  | registerConnected response hrequest hhandle => exact (h.register _ _).setPhase hrequest nofun
  | registerGone response hrequest hgone => exact h.setPhase hrequest nofun
  | @remove i now deviceId handle hrequest hhandle =>
      have hsame : (s.unregister deviceId).Performed := ⟨h.task, h.request⟩
      exact (hsame.abort handle.task).setPhase hrequest nofun
  | disconnect response hrequest hhandle => exact (h.abort _).setPhase hrequest nofun
  | send hrequest hhandle hwritable => exact h.setPhase hrequest nofun
  | @push i now claims req channel task hrequest htask hroom =>
      have hqueued : (s.updateTask channel fun task ↦
          { task with queue := task.queue ++ [⟨req.register, req.value, i⟩] }).Performed :=
        h.updateTask_of_subset fun task _ ↦ List.Subset.refl _
      exact hqueued.setPhase hrequest nofun
  | succeed hrequest =>
      exact h.setPhase hrequest fun hwrite _ ↦ h.request _ _ hrequest hwrite rfl
  | @audit i now claims req hrequest =>
      have hsame : Performed { s with
          auditTrail := logAudit s.auditTrail claims.userId claims.sub "write_register"
            (some req.deviceId) (writeDetails req.register req.value) none now
          auditedBy := s.auditedBy ++ [i] } := ⟨h.task, h.request⟩
      exact hsame.setPhase hrequest fun hwrite _ ↦ h.request _ _ hrequest hwrite rfl
  | cancel hrequest hphase => exact h.setPhase hrequest nofun
  | move phase htask hfrom hto =>
      refine h.updateTask_of_subset fun task _ ↦ ?_
      rw [acceptedCommand_of_quiet hto]
      exact List.nil_subset _
  | receive htask hphase hqueue =>
      exact h.updateTask_of_subset fun task _ ↦ List.nil_subset _
  | @accept i task command htask hphase =>
      apply (h.append [⟨task.config.id, command⟩]).updateTask
      intro task' htask' command' hmem
      obtain rfl := List.mem_singleton.mp hmem
      exact ⟨⟨task.config.id, command'⟩, List.mem_append_right _ List.mem_cons_self, rfl⟩
  | @written i task command htask hphase =>
      have hmoved : (s.setTaskPhase i .polling).Performed :=
        h.updateTask_of_subset fun task _ ↦ List.nil_subset _
      refine hmoved.reply fun _ command' hmem ↦ ?_
      obtain rfl := List.mem_singleton.mp hmem
      apply h.task i task htask
      simp [PollingTask.acceptedCommand, hphase]
  | @writeFailed i task command accepted error connected htask hphase =>
      have hmoved : (s.setTaskPhase i (if connected then .polling else .sleeping)).Performed := by
        refine h.updateTask_of_subset fun task _ ↦ ?_
        rw [acceptedCommand_of_quiet (by dsimp only; split <;> rfl)]
        exact List.nil_subset _
      have hreplied := @Performed.reply _ hmoved [command] (.err error) nofun
      exact ⟨hreplied.task, hreplied.request⟩
  | @finish i event task htask hevent =>
      have hended :
          (s.updateTask i fun task ↦ { task with phase := .finished, queue := [] }).Performed :=
        h.updateTask_of_subset fun task _ ↦ List.nil_subset _
      have hreplied := @Performed.reply _ hended task.commands .dropped nofun
      exact ⟨hreplied.task, hreplied.request⟩
  | @acceptLate index write hwrite =>
      have hgrown := h.append [write]
      exact ⟨hgrown.task, hgrown.request⟩

end DeviceRuntime

end VyuhHmi
