import Mathlib.Data.List.Forall2
import Mathlib.Data.List.Perm.Basic
import VyuhHmi.Device.Routing

/-!
# Writes and their audit entries

A write is performed by a polling task and audited by the request that asked for it, after the
task's reply.  The ledger below follows one request through that: its command is held by at most one
task, and what a PLC has accepted for it is either still with that task, or owed by the request, or
in the audit trail.  It holds as long as nothing cuts a write off between its acceptance and its
entry.
-/

namespace VyuhHmi

/-- Phases of a request that has no command and no write. -/
def RequestPhase.unwritten (phase : RequestPhase) : Prop :=
  phase.returns ∨ ∃ config task, phase = .registering config task

namespace DeviceRuntime

/-! ## The ledger -/

/-- The number of commands of request `i` that tasks hold. -/
def held (s : DeviceRuntime) (i : ℕ) : ℕ :=
  (s.tasks.map fun task ↦ task.commands.countP (WriteCommand.repliesTo i)).sum

/-- The number of commands of request `i` that are accepted and not yet replied to. -/
def performed (s : DeviceRuntime) (i : ℕ) : ℕ :=
  (s.tasks.map fun task ↦ task.acceptedCommand.countP (WriteCommand.repliesTo i)).sum

/-- The number of writes that PLCs have accepted for request `i`. -/
def accepted (s : DeviceRuntime) (i : ℕ) : ℕ :=
  (s.plcWrites.map fun write ↦ write.command.response).count i

/-- The number of audit entries that request `i` has written. -/
def audited (s : DeviceRuntime) (i : ℕ) : ℕ := s.auditedBy.count i

/-- What a request's phase says about its command, its write and its entry. -/
def AccountFor (held performed accepted audited : ℕ) : Option RequestPhase → Prop
  | some (.waiting none) => held = 1 ∧ accepted = performed ∧ audited = 0
  | some (.waiting (some .ok)) | some .auditing => held = 0 ∧ accepted = 1 ∧ audited = 0
  | some (.done none) => held ≤ 1 ∧ performed = 0 ∧ accepted = 0 ∧ audited = 0
  | some (.done (some response)) =>
      held = 0 ∧ accepted = audited ∧ (response.success = false → accepted = 0)
  | _ => held = 0 ∧ accepted = 0 ∧ audited = 0

def Ledger (s : DeviceRuntime) : Prop :=
  ∀ i, AccountFor (s.held i) (s.performed i) (s.accepted i) (s.audited i) (s.phaseOf i)

/-- No step cuts a write off between its acceptance and its audit entry: no task is stopped and no
error is returned with an accepted write in hand, no write is accepted once its request is gone or
its task has given it up, and no request is dropped while it owes an entry. -/
def auditsEveryWrite (s : DeviceRuntime) : Label → Bool
  | .cancel i =>
      s.phaseOf i != some (.waiting (some .ok)) && s.phaseOf i != some .auditing &&
        s.tasks.all fun task ↦ !task.acceptedCommand.any (WriteCommand.repliesTo i)
  | .poll i .accept =>
      s.tasks[i]?.all fun task ↦ task.pendingCommand.all fun command ↦
        s.phaseOf command.response == some (.waiting none)
  | .poll i .stop | .poll i (.writeFailed _ _) =>
      s.tasks[i]?.all fun task ↦ task.acceptedCommand.isEmpty
  | .acceptLate _ => false
  | _ => true

variable {socketAddr : String → Bool} {overflowChecks : Bool} {s t : DeviceRuntime} {i j : ℕ}
  {request : DeviceRequest} {task : PollingTask}

/-! ## Single updates -/

theorem acceptedCommand_sublist (task : PollingTask) :
    task.acceptedCommand.Sublist task.commands := by
  apply List.Sublist.trans _ (List.sublist_append_left task.current task.queue)
  unfold PollingTask.acceptedCommand PollingTask.current
  cases task.phase with
  | writing command accepted => cases accepted <;> simp
  | _ => simp

/-- A task performs only what it holds. -/
theorem performed_le_held (s : DeviceRuntime) (i : ℕ) : s.performed i ≤ s.held i :=
  List.sum_le_sum fun task _ ↦ (acceptedCommand_sublist task).countP_le

theorem held_updateTask (htask : s.tasks[i]? = some task) (f : PollingTask → PollingTask) (j : ℕ) :
    (s.updateTask i f).held j + task.commands.countP (WriteCommand.repliesTo j) =
      s.held j + (f task).commands.countP (WriteCommand.repliesTo j) :=
  ListUpdate.sum_map_modify htask f
    fun task ↦ task.commands.countP (WriteCommand.repliesTo j)

theorem performed_updateTask (htask : s.tasks[i]? = some task) (f : PollingTask → PollingTask)
    (j : ℕ) :
    (s.updateTask i f).performed j + task.acceptedCommand.countP (WriteCommand.repliesTo j) =
      s.performed j + (f task).acceptedCommand.countP (WriteCommand.repliesTo j) :=
  ListUpdate.sum_map_modify htask f
    fun task ↦ task.acceptedCommand.countP (WriteCommand.repliesTo j)

/-- A request that no longer waits may lose its command. -/
theorem AccountFor.mono {held held' performed performed' accepted audited : ℕ}
    {phase : Option RequestPhase} (h : AccountFor held performed accepted audited phase)
    (hphase : phase ≠ some (.waiting none)) (hheld : held' ≤ held)
    (hperformed : performed' ≤ performed) : AccountFor held' performed' accepted audited phase := by
  unfold AccountFor at h ⊢
  split at h
  case h_1 => exact absurd rfl hphase
  case h_2 => exact ⟨by omega, h.2⟩
  case h_3 => exact ⟨by omega, h.2⟩
  case h_4 => exact ⟨by omega, by omega, h.2.2⟩
  case h_5 => exact ⟨by omega, h.2⟩
  case h_6 => exact ⟨by omega, h.2⟩

theorem Ledger.setPhase (h : s.Ledger) (hrequest : s.requests[i]? = some request)
    {phase : RequestPhase}
    (hok : AccountFor (s.held i) (s.performed i) (s.accepted i) (s.audited i) (some phase)) :
    (s.setPhase i phase).Ledger := by
  intro j
  rw [phaseOf_setPhase hrequest]
  split
  case isTrue hji =>
      subst hji
      exact hok
  case isFalse => exact h j

/-- A task update that moves no command leaves the ledger alone. -/
theorem Ledger.updateTask (h : s.Ledger) {f : PollingTask → PollingTask}
    (hf : ∀ task, s.tasks[i]? = some task → (f task).commands = task.commands ∧
      (f task).acceptedCommand = task.acceptedCommand) : (s.updateTask i f).Ledger := by
  intro j
  have hsame : (s.updateTask i f).held j = s.held j ∧
      (s.updateTask i f).performed j = s.performed j := by
    cases htask : s.tasks[i]? with
    | none =>
        have htasks : s.tasks.modify i f = s.tasks :=
          List.modify_eq_self (List.getElem?_eq_none_iff.mp htask)
        simp [held, performed, htasks]
    | some task =>
        obtain ⟨hcommands, haccepted⟩ := hf task htask
        have hheld := held_updateTask htask f j
        have hperformed := performed_updateTask htask f j
        rw [hcommands, Nat.add_right_cancel_iff] at hheld
        rw [haccepted, Nat.add_right_cancel_iff] at hperformed
        exact ⟨hheld, hperformed⟩
  rw [hsame.1, hsame.2]
  exact h j

theorem Ledger.spawnTask (h : s.Ledger) (config : DeviceConfig) : (s.spawnTask config).Ledger := by
  intro j
  have hheld : (s.spawnTask config).held j = s.held j := by
    simp [held, PollingTask.spawn, PollingTask.commands, PollingTask.current]
  have hperformed : (s.spawnTask config).performed j = s.performed j := by
    simp [performed, PollingTask.spawn, PollingTask.acceptedCommand]
  rw [hheld, hperformed]
  exact h j

theorem Ledger.abort (h : s.Ledger) (i : ℕ) : (s.abort i).Ledger :=
  h.updateTask fun _ _ ↦ ⟨rfl, rfl⟩

/-- A request without a command or a write can move to any phase that accounts for none. -/
theorem Ledger.setUnwritten (h : s.Ledger) (hrequest : s.requests[i]? = some request)
    (hphase : request.phase.unwritten) {phase : RequestPhase}
    (hok : AccountFor 0 0 0 0 (some phase)) : (s.setPhase i phase).Ledger := by
  have haccount := h i
  have hle := performed_le_held s i
  rw [phaseOf_of_some hrequest] at haccount
  have hzero : s.held i = 0 ∧ s.accepted i = 0 ∧ s.audited i = 0 := by
    rcases hphase with hreturns | ⟨config, task, hregistering⟩
    · unfold AccountFor at haccount
      split at haccount
      all_goals simp_all [RequestPhase.returns]
    · rw [hregistering] at haccount
      exact haccount
  have hperformed : s.performed i = 0 := by omega
  apply h.setPhase hrequest
  rw [hzero.1, hzero.2.1, hzero.2.2, hperformed]
  exact hok

/-- **Replies.** A task hands back commands: those it has had accepted with success, any others
without. -/
theorem Ledger.settle (h : s.Ledger) (htask : s.tasks[i]? = some task)
    {f : PollingTask → PollingTask} {commands : List WriteCommand} {reply : WriteReply}
    (hcommands : task.commands = commands ++ (f task).commands)
    (hended : (f task).acceptedCommand = [])
    (haccepted : task.acceptedCommand = if reply = .ok then commands else []) :
    ((s.updateTask i f).reply commands reply).Ledger := by
  intro j
  have haccount := h j
  have hheld := held_updateTask htask f j
  have hperformed := performed_updateTask htask f j
  have hle := performed_le_held (s.updateTask i f) j
  rw [hcommands, List.countP_append] at hheld
  rw [hended, List.countP_nil] at hperformed
  have hreply : AccountFor ((s.updateTask i f).held j) ((s.updateTask i f).performed j)
      (s.accepted j) (s.audited j) ((s.reply commands reply).phaseOf j) := by
    rw [phaseOf_reply]
    split
    case isTrue hwaits =>
        obtain ⟨hany, hphase⟩ := hwaits
        have hpos : 0 < commands.countP (WriteCommand.repliesTo j) := by
          rwa [List.countP_pos_iff, ← List.any_eq_true]
        rw [hphase] at haccount
        obtain ⟨hone, hwrites, haudited⟩ := haccount
        split at haccepted
        case isTrue hok =>
            subst hok
            rw [haccepted] at hperformed
            exact ⟨by omega, by omega, haudited⟩
        case isFalse hfailed =>
            rw [haccepted, List.countP_nil] at hperformed
            cases reply with
            | ok => exact absurd rfl hfailed
            | err error => exact ⟨by omega, by omega, haudited⟩
            | dropped => exact ⟨by omega, by omega, haudited⟩
    case isFalse hnot =>
        by_cases hphase : s.phaseOf j = some (.waiting none)
        · have hzero : commands.countP (WriteCommand.repliesTo j) = 0 := by
            rw [List.countP_eq_zero]
            intro command hmem hreplies
            exact hnot ⟨List.any_eq_true.mpr ⟨command, hmem, hreplies⟩, hphase⟩
          have hnone : task.acceptedCommand.countP (WriteCommand.repliesTo j) = 0 := by
            rw [haccepted]
            split
            case isTrue => exact hzero
            case isFalse => rfl
          rw [show (s.updateTask i f).held j = s.held j by omega,
            show (s.updateTask i f).performed j = s.performed j by omega]
          exact haccount
        · exact haccount.mono hphase (by omega) (by omega)
  exact hreply

theorem ledger_push {claims : Claims} {req : WriteRequest} {channel : ℕ} (h : s.Ledger)
    (hrequest : s.requests[i]? = some ⟨.postWrite claims req, .sending channel⟩)
    (htask : s.tasks[channel]? = some task) : (s.pushCommand i channel req).Ledger := by
  obtain ⟨hheld, haccepted, haudited⟩ : s.held i = 0 ∧ s.accepted i = 0 ∧ s.audited i = 0 := by
    have haccount := h i
    rwa [phaseOf_of_some hrequest] at haccount
  intro j
  let f (task : PollingTask) : PollingTask :=
    { task with queue := task.queue ++ [⟨req.register, req.value, i⟩] }
  have hpush := held_updateTask htask f j
  have hsame := performed_updateTask htask f j
  have hcommands : (f task).commands = task.commands ++ [⟨req.register, req.value, i⟩] :=
    (List.append_assoc _ _ _).symm
  rw [hcommands, List.countP_append, List.countP_singleton] at hpush
  have hperformed : (s.updateTask channel f).performed j = s.performed j :=
    Nat.add_right_cancel hsame
  have hphase := phaseOf_setPhase hrequest (.waiting none) j
  have hmoved : AccountFor ((s.updateTask channel f).held j) (s.performed j) (s.accepted j)
      (s.audited j) ((s.setPhase i (.waiting none)).phaseOf j) := by
    rw [hphase]
    split
    case isTrue hji =>
        subst hji
        have hle := performed_le_held s j
        rw [if_pos (by simp [WriteCommand.repliesTo])] at hpush
        exact ⟨by omega, by omega, haudited⟩
    case isFalse hji =>
        rw [if_neg (by simpa [WriteCommand.repliesTo] using Ne.symm hji)] at hpush
        rw [show (s.updateTask channel f).held j = s.held j by omega]
        exact h j
  rw [← hperformed] at hmoved
  exact hmoved

/-- A PLC accepts a write whose request waits for it. -/
theorem ledger_accept {command : WriteCommand} (h : s.Ledger) (htask : s.tasks[i]? = some task)
    (hphase : task.phase = .writing command false)
    (hwaits : s.phaseOf command.response = some (.waiting none)) :
    (s.acceptWrite i task.config.id command).Ledger := by
  intro j
  let f (task : PollingTask) : PollingTask := { task with phase := .writing command true }
  have hheld := held_updateTask htask f j
  have hperformed := performed_updateTask htask f j
  have hcommands : (f task).commands = task.commands := by
    simp [f, PollingTask.commands, PollingTask.current, hphase]
  have hbefore : task.acceptedCommand = [] := by simp [PollingTask.acceptedCommand, hphase]
  have hafter : (f task).acceptedCommand = [command] := rfl
  rw [hcommands, Nat.add_right_cancel_iff] at hheld
  rw [hbefore, hafter, List.countP_nil, List.countP_singleton] at hperformed
  have haccepted : (s.acceptWrite i task.config.id command).accepted j =
      s.accepted j + if command.repliesTo j then 1 else 0 := by
    simp [accepted, acceptWrite, WriteCommand.repliesTo, List.count_singleton]
  have hmoved : AccountFor (s.held j) (s.performed j + if command.repliesTo j then 1 else 0)
      (s.accepted j + if command.repliesTo j then 1 else 0) (s.audited j) (s.phaseOf j) := by
    have haccount := h j
    split
    case isTrue hreplies =>
        obtain rfl : command.response = j := by simpa [WriteCommand.repliesTo] using hreplies
        rw [hwaits] at haccount ⊢
        obtain ⟨hone, hwrites, haudited⟩ := haccount
        exact ⟨hone, by omega, haudited⟩
    case isFalse => exact haccount
  rw [← haccepted, ← hheld, ← hperformed] at hmoved
  exact hmoved

/-- The request behind a performed write writes its entry. -/
theorem ledger_audit {claims : Claims} {req : WriteRequest} {now : Instant} (h : s.Ledger)
    (hrequest : s.requests[i]? = some ⟨.postWrite claims req, .auditing⟩) :
    (s.auditWrite i claims req now).Ledger := by
  obtain ⟨hheld, haccepted, haudited⟩ : s.held i = 0 ∧ s.accepted i = 1 ∧ s.audited i = 0 := by
    have haccount := h i
    rwa [phaseOf_of_some hrequest] at haccount
  intro j
  let response : Response := .text (.ok ("[" ++ req.deviceId ++ "] Register " ++
    toString req.register.toNat ++ " = " ++ toString req.value.toNat))
  have hlogged : (s.auditWrite i claims req now).audited j =
      s.audited j + if i = j then 1 else 0 := by
    simp [audited, auditWrite, List.count_singleton]
  have hmoved : AccountFor (s.held j) (s.performed j) (s.accepted j)
      (s.audited j + if i = j then 1 else 0)
      ((s.setPhase i (.done (some response))).phaseOf j) := by
    rw [phaseOf_setPhase hrequest]
    by_cases hji : j = i
    · subst hji
      rw [if_pos rfl, if_pos rfl]
      exact ⟨hheld, by omega, fun hfailed ↦ by cases hfailed⟩
    · rw [if_neg hji, if_neg (Ne.symm hji)]
      exact h j
  rw [← hlogged] at hmoved
  exact hmoved

/-! ## Steps -/

theorem performed_eq_zero
    (h : s.tasks.all fun task ↦ !task.acceptedCommand.any (WriteCommand.repliesTo i)) :
    s.performed i = 0 := by
  apply List.sum_eq_zero
  intro count hcount
  obtain ⟨task, hmem, rfl⟩ := List.mem_map.mp hcount
  rw [List.countP_eq_zero]
  intro command hcommand hreplies
  have hnone := List.all_eq_true.mp h task hmem
  rw [List.any_eq_true.mpr ⟨command, hcommand, hreplies⟩] at hnone
  cases hnone

/-- A request that owes no entry may be dropped. -/
theorem AccountFor.cancel {held accepted audited : ℕ} (h : AccountFor held 0 accepted audited
    (some request.phase)) (hreplied : request.phase ≠ .waiting (some .ok))
    (hauditing : request.phase ≠ .auditing) (hphase : request.isDone = false) :
    AccountFor held 0 accepted audited (some (.done none)) := by
  unfold DeviceRequest.isDone at hphase
  unfold AccountFor at h ⊢
  split at h
  case h_1 => exact ⟨by omega, rfl, by omega, by omega⟩
  case h_2 heq => exact absurd (Option.some.inj heq) hreplied
  case h_3 heq => exact absurd (Option.some.inj heq) hauditing
  case h_4 heq => simp [Option.some.inj heq] at hphase
  case h_5 heq => simp [Option.some.inj heq] at hphase
  case h_6 => exact ⟨by omega, rfl, by omega, by omega⟩

/-- A task that ends with no accepted write in hand. -/
theorem ledger_finish (h : s.Ledger) (htask : s.tasks[i]? = some task)
    (hnone : task.acceptedCommand = []) : (s.finish i task).Ledger :=
  h.settle (i := i) (f := fun task ↦ { task with phase := .finished, queue := [] }) htask
    (List.append_nil task.commands).symm rfl (by simpa using hnone)

/-- **Step lemma.** The ledger is kept by every step that cuts no write off from its entry. -/
theorem ledger_effect {label : Label} (hguard : s.auditsEveryWrite label) (h : s.Ledger)
    (heffect : Effect socketAddr s label t) : t.Ledger := by
  cases heffect with
  | register config configured persisted hcreated hnext => exact h.spawnTask config
  | skip configured persisted => exact h
  | arrive call =>
      intro j
      have haccount := h j
      rw [phaseOf_arrive]
      split
      case isTrue hj =>
          rw [phaseOf, List.getElem?_eq_none (Nat.le_of_eq hj.symm)] at haccount
          exact haccount
      case isFalse => exact haccount
  | answer table response hrequest hphase hwrite =>
      exact h.setUnwritten hrequest (.inl hphase) ⟨rfl, rfl, fun _ ↦ rfl⟩
  | createNew hrequest => exact h.setUnwritten hrequest (.inl rfl) ⟨rfl, rfl, rfl⟩
  | createAgain hrequest hhandle => exact h.setUnwritten hrequest (.inl rfl) ⟨rfl, rfl, rfl⟩
  | spawn hrequest =>
      exact (h.spawnTask _).setUnwritten hrequest (.inl rfl) ⟨rfl, rfl, rfl⟩
  | panic hrequest => exact h.setUnwritten hrequest (.inl rfl) ⟨by omega, rfl, rfl, rfl⟩
  | registerAdded hrequest =>
      exact h.setUnwritten hrequest (.inr ⟨_, _, rfl⟩) ⟨rfl, rfl, rfl⟩
  | registerConnected response hrequest hhandle =>
      exact h.setUnwritten hrequest (.inr ⟨_, _, rfl⟩) ⟨rfl, rfl, fun _ ↦ rfl⟩
  | registerGone response hrequest hgone =>
      exact h.setUnwritten hrequest (.inr ⟨_, _, rfl⟩) ⟨rfl, rfl, fun _ ↦ rfl⟩
  | remove hrequest hhandle =>
      exact (h.abort _).setUnwritten hrequest (.inl rfl) ⟨rfl, rfl, rfl⟩
  | disconnect response hrequest hhandle =>
      exact (h.abort _).setUnwritten hrequest (.inl rfl) ⟨rfl, rfl, fun _ ↦ rfl⟩
  | send hrequest hhandle hwritable =>
      exact h.setUnwritten hrequest (.inl rfl) ⟨rfl, rfl, rfl⟩
  | push hrequest htask hroom => exact ledger_push h hrequest htask
  | @succeed i now call hrequest =>
      apply h.setPhase hrequest
      have haccount := h i
      rwa [phaseOf_of_some hrequest] at haccount
  | audit hrequest => exact ledger_audit h hrequest
  | @cancel i request hrequest hphase =>
      apply h.setPhase hrequest
      have haccount := h i
      simp only [auditsEveryWrite, phaseOf_of_some hrequest, Bool.and_eq_true, bne_iff_ne, ne_eq,
        Option.some.injEq] at hguard
      obtain ⟨⟨hreplied, hauditing⟩, hnone⟩ := hguard
      have hperformed := performed_eq_zero hnone
      rw [phaseOf_of_some hrequest, hperformed] at haccount
      rw [hperformed]
      exact haccount.cancel hreplied hauditing hphase
  | @move i event task phase htask hfrom hto =>
      refine h.updateTask fun task' htask' ↦ ?_
      obtain rfl := Option.some.inj (htask.symm.trans htask')
      constructor
      · simp only [PollingTask.commands, current_of_quiet hto]
        rw [show task.current = [] from current_of_quiet hfrom]
      · rw [acceptedCommand_of_quiet hfrom]
        exact acceptedCommand_of_quiet hto
  | receive htask hphase hqueue =>
      refine h.updateTask fun task' htask' ↦ ?_
      obtain rfl := Option.some.inj (htask.symm.trans htask')
      simp [PollingTask.commands, PollingTask.current, PollingTask.acceptedCommand, hphase, hqueue]
  | accept htask hphase =>
      apply ledger_accept h htask hphase
      simpa [auditsEveryWrite, htask, PollingTask.pendingCommand, hphase] using hguard
  | @written i task command htask hphase =>
      apply h.settle htask
      · simp [PollingTask.commands, PollingTask.current, hphase]
      · rfl
      · simp [PollingTask.acceptedCommand, hphase]
  | @writeFailed i task command accepted error connected htask hphase =>
      have hnone : task.acceptedCommand = [] := by
        simpa [auditsEveryWrite, htask] using hguard
      have hsettled : ((s.setTaskPhase i (if connected then .polling else .sleeping)).reply
          [command] (.err error)).Ledger := by
        apply h.settle htask
        · simp only [PollingTask.commands, current_of_quiet (show (if connected then
            TaskPhase.polling else .sleeping).quiet by split <;> rfl)]
          simp [PollingTask.current, hphase]
        · apply acceptedCommand_of_quiet
          dsimp only
          split <;> rfl
        · simpa using hnone
      exact hsettled
  | finish htask hevent =>
      apply ledger_finish h htask
      rcases hevent with rfl | hquiet
      · simpa [auditsEveryWrite, htask] using hguard
      · exact acceptedCommand_of_quiet hquiet
  | acceptLate hwrite => cases hguard

/-! ## Entries -/

/-- What a write's audit entry says. -/
def entryKey (entry : AuditEntry) : Option String × String := (entry.deviceId, entry.details)

/-- What the entry for an accepted write has to say. -/
def writeKey (write : PlcWrite) : Option String × String :=
  (some write.deviceId, writeDetails write.command.register write.command.value)

/-- What the entry of request `i` says. -/
def requestKey (s : DeviceRuntime) (i : ℕ) : Option String × String :=
  match s.calls[i]? with
  | some (.postWrite _ req) => (some req.deviceId, writeDetails req.register req.value)
  | _ => (none, "")

/-- The entry is that of write request `i`. -/
def IsEntryOf (s : DeviceRuntime) (i : ℕ) (entry : AuditEntry) : Prop :=
  entry.action = "write_register" ∧
    ∃ claims req, s.calls[i]? = some (.postWrite claims req) ∧
      entryKey entry = (some req.deviceId, writeDetails req.register req.value)

/-- `auditedBy` names the request behind each entry. -/
def Logged (s : DeviceRuntime) : Prop :=
  List.Forall₂ s.IsEntryOf s.auditedBy s.auditTrail.rows

theorem logged_effect {label : Label} (h : s.Logged) (heffect : Effect socketAddr s label t) :
    t.Logged := by
  have hkept : List.Forall₂ t.IsEntryOf s.auditedBy s.auditTrail.rows := by
    refine h.imp fun i entry hentry ↦ ?_
    obtain ⟨haction, claims, req, hcall, hkey⟩ := hentry
    exact ⟨haction, claims, req,
      ListUpdate.getElem?_of_prefix (calls_prefix_of_effect heffect) hcall, hkey⟩
  cases heffect with
  | @audit i now claims req hrequest =>
      have hcall : (s.auditWrite i claims req now).calls[i]? = some (.postWrite claims req) := by
        have hcalls : (s.auditWrite i claims req now).calls = s.calls := calls_setPhase _ _
        rw [hcalls, calls, List.getElem?_map, hrequest, Option.map_some]
      exact List.rel_append hkept (.cons ⟨rfl, claims, req, hcall, rfl⟩ .nil)
  | _ => exact hkept

/-! ## Runs -/

def isQuiescent (s : DeviceRuntime) : Bool :=
  (s.requests.all fun request ↦ !request.isWrite || request.isDone) &&
    s.tasks.all fun task ↦ task.queue.isEmpty

/-- The accepted writes and the entries of the audit trail match one to one, and no write request
that has failed has an accepted write. -/
structure WritesAudited (s : DeviceRuntime) : Prop where
  matched : (s.plcWrites.map writeKey).Perm
    ((s.auditTrail.rows.filter fun entry ↦ entry.action = "write_register").map entryKey)
  failed : ∀ (i : ℕ) request response, s.requests[i]? = some request →
    request.phase = .done (some response) → response.success = false →
      ∀ write ∈ s.plcWrites, write.command.response ≠ i

theorem accepted_pos {write : PlcWrite} (hmem : write ∈ s.plcWrites) :
    0 < s.accepted write.command.response :=
  List.count_pos_iff.mpr (List.mem_map_of_mem hmem)

/-- With no write request in progress, every request has as many entries as accepted writes. -/
theorem accepted_eq_audited (h : s.Ledger) (hrouted : s.Routed fun _ _ ↦ True)
    (hquiet : s.isQuiescent) (i : ℕ) : s.accepted i = s.audited i := by
  have haccount := h i
  by_cases hzero : s.accepted i = 0
  · rw [hzero] at haccount ⊢
    unfold AccountFor at haccount
    split at haccount <;> omega
  · obtain ⟨write, hmem, rfl⟩ : ∃ write ∈ s.plcWrites, write.command.response = i := by
      simpa using List.count_pos_iff.mp (Nat.pos_of_ne_zero hzero)
    obtain ⟨claims, req, hcall, -⟩ := hrouted.write write (List.mem_append_right _ hmem)
    rw [calls, List.getElem?_map] at hcall
    obtain ⟨request, hrequest, hwrite⟩ := Option.map_eq_some_iff.mp hcall
    have hdone : request.isDone := by
      have hall := (Bool.and_eq_true_iff.mp hquiet).1
      have hthis := List.all_eq_true.mp hall request (List.mem_of_getElem? hrequest)
      simpa [DeviceRequest.isWrite, hwrite] using hthis
    rw [phaseOf_of_some hrequest] at haccount
    unfold DeviceRequest.isDone at hdone
    split at hdone
    case h_1 _ response hphase =>
        rw [hphase] at haccount
        cases response with
        | none => exact absurd haccount.2.2.1 hzero
        | some response => exact haccount.2.1
    case h_2 => cases hdone

theorem writeKey_eq_requestKey (hrouted : s.Routed fun _ _ ↦ True) {write : PlcWrite}
    (hmem : write ∈ s.plcWrites) : writeKey write = s.requestKey write.command.response := by
  obtain ⟨claims, req, hcall, hdevice, hregister, hvalue⟩ :=
    hrouted.write write (List.mem_append_right _ hmem)
  simp only [writeKey, requestKey, hcall, hdevice, hregister, hvalue]

theorem map_entryKey (h : s.Logged) :
    (s.auditTrail.rows.filter fun entry ↦ entry.action = "write_register").map entryKey =
      s.auditedBy.map s.requestKey := by
  unfold Logged at h
  generalize s.auditedBy = by_, s.auditTrail.rows = rows at h
  induction h with
  | nil => rfl
  | cons hentry _ ih =>
      obtain ⟨haction, claims, req, hcall, hkey⟩ := hentry
      rw [List.filter_cons_of_pos (by simpa using haction), List.map_cons, List.map_cons, ih, hkey]
      simp only [requestKey, hcall]

/-- **From the ledger to the trail.** -/
theorem writesAudited_of_ledger (h : s.Ledger) (hlogged : s.Logged)
    (hrouted : s.Routed fun _ _ ↦ True) (hquiet : s.isQuiescent) : s.WritesAudited where
  matched := by
    have hperm : (s.plcWrites.map fun write ↦ write.command.response).Perm s.auditedBy :=
      List.perm_iff_count.mpr (accepted_eq_audited h hrouted hquiet)
    have hkeys := hperm.map s.requestKey
    rw [List.map_map, ← map_entryKey hlogged] at hkeys
    rw [List.map_congr_left fun write hmem ↦ writeKey_eq_requestKey hrouted hmem]
    exact hkeys
  failed := by
    intro i request response hrequest hphase hfailed write hmem hi
    have haccount := h i
    rw [phaseOf_of_some hrequest, hphase] at haccount
    have hpos := accepted_pos hmem
    rw [hi, haccount.2.2 hfailed] at hpos
    exact Nat.lt_irrefl 0 hpos

theorem ledger_init (configured deviceTable : List DeviceConfig) :
    (init configured deviceTable).Ledger := fun _ ↦ ⟨rfl, rfl, rfl⟩

variable {configured deviceTable : List DeviceConfig} {labels : List Label}

/-- **Every write is audited** while no step cuts one off between its acceptance and its entry. -/
theorem writes_audited
    (hrun : Transition.Run (Transition.guarded (fun s label ↦ s.auditsEveryWrite label)
      (Transition.ofOption (step socketAddr overflowChecks))) (init configured deviceTable)
      labels s) :
    s.isQuiescent → s.WritesAudited := by
  have hkept : s.Ledger ∧ s.Logged := by
    apply @Transition.Run.invariant _ _ _ _ _ (fun u ↦ u.Ledger ∧ u.Logged) _ _ _ hrun
    · exact ⟨ledger_init configured deviceTable, .nil⟩
    · rintro u label v ⟨hledger, hlogged⟩ ⟨hguard, hstep⟩
      have heffect := effect_of_step hstep
      exact ⟨ledger_effect hguard hledger heffect, logged_effect hlogged heffect⟩
  exact writesAudited_of_ledger hkept.1 hkept.2 (routed_of_run hrun.of_guarded)

/-- A device that is added and connected, and a request to write its register 1031 that has reached
the polling task. -/
def writeReceived : List Label :=
  handled 0 (.addDevice (reactor [1031])) 4 ++ [.poll 0 .connected] ++
  handled 1 (.postWrite operatorClaims ⟨"plc-01", 1031, 1⟩) 2 ++
  [.poll 0 .receive, .poll 0 .accept]

/-- The write is performed and audited. -/
def writtenRun : List Label :=
  writeReceived ++ [.poll 0 .written, .advance 1 0, .advance 1 0]

theorem writes_audited_writtenRun :
    ∃ s, Transition.exec (step (fun _ ↦ true) true) (init [] []) writtenRun = some s ∧
      s.isQuiescent ∧ s.plcWrites.length = 1 ∧ s.WritesAudited := by
  obtain ⟨s, hrun, htest⟩ := @Transition.exists_run_guarded_of_any _ _ (init [] [])
    (step (fun _ ↦ true) true) (fun s label ↦ s.auditsEveryWrite label) _
    (fun s ↦ s.isQuiescent && s.plcWrites.length == 1) writtenRun (by decide)
  obtain ⟨hquiet, hone⟩ := Bool.and_eq_true_iff.mp htest
  exact ⟨s, Transition.run_ofOption_iff.mp hrun.of_guarded, hquiet, beq_iff_eq.mp hone,
    writes_audited hrun hquiet⟩

/-- The device is disconnected after its PLC has accepted the write. -/
def abortedWriteRun : List Label :=
  writeReceived ++ handled 2 (.disconnectDevice "plc-01") 1 ++ [.poll 0 .stop, .advance 1 0]

theorem abortedWriteRun_unaudited :
    ∃ s, Transition.exec (step (fun _ ↦ true) true) (init [] []) abortedWriteRun = some s ∧
      ¬(s.isQuiescent → s.WritesAudited) := by
  apply @Transition.exists_exec_not _ _ _ _ _ fun s ↦
    !(s.isQuiescent && s.plcWrites.length == 1 && s.auditTrail.rows.isEmpty)
  · intro s haudited
    rw [Bool.not_eq_true', ← Bool.not_eq_true]
    simp only [Bool.and_eq_true, beq_iff_eq, List.isEmpty_iff]
    rintro ⟨⟨hquiet, hwrites⟩, hrows⟩
    have hlength := (haudited hquiet).matched.length_eq
    rw [hrows, List.length_map, hwrites] at hlength
    cases hlength
  · decide

end DeviceRuntime

end VyuhHmi
