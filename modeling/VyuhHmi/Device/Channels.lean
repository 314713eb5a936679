import Mathlib.Data.List.Nodup
import VyuhHmi.Device.WriteAudit
import VyuhHmi.Foundation.ChannelLog

/-!
# Commands and their channels

A command goes from a write request into the channel of a polling task, is executed by that task
and answered.  The server is watched with a log of the commands put on channels, of those that a
task starts to execute, and of the outcomes that tasks send or, at their end, drop.
-/

namespace VyuhHmi

/-- The request has not sent its command. -/
def RequestPhase.unsent : Option RequestPhase → Bool
  | none | some .ready | some (.sending _) => true
  | _ => false

namespace DeviceRuntime

open ChannelLog

/-! ## What a step logs -/

/-- The command that a step from `s` to `t` puts on a channel: its request then waits for the
outcome. -/
def queuedBy (s t : DeviceRuntime) : Label → List (ℕ × WriteCommand)
  | .advance i _ =>
      match s.requests[i]? with
      | some ⟨.postWrite _ req, .sending channel⟩ =>
          if t.phaseOf i = some (.waiting none) then [(channel, ⟨req.register, req.value, i⟩)]
          else []
      | _ => []
  | _ => []

/-- The command that a task has taken from its channel in a step to `t`, to execute it. -/
def executedBy (t : DeviceRuntime) : Label → List (ℕ × WriteCommand)
  | .poll i .receive => (t.tasks[i]?.toList.flatMap PollingTask.pendingCommand).map (Prod.mk i)
  | _ => []

/-- The outcomes that a task sends in a step from `s` to `t`.  A task that ends drops those of all
its commands. -/
def repliesBy (s t : DeviceRuntime) : Label → List (ℕ × WriteReply)
  | .poll i event =>
      match s.tasks[i]? with
      | some task =>
          if t.taskIsFinished i then task.commands.map fun command ↦ (command.response, .dropped)
          else
            match event with
            | .written => task.current.map fun command ↦ (command.response, .ok)
            | .writeFailed error _ => task.current.map fun command ↦ (command.response, .err error)
            | _ => []
      | none => []
  | _ => []

/-- The effect of a step on tasks and logs. -/
inductive ChannelEffect (s t : DeviceRuntime) :
    List (ℕ × WriteCommand) → List (ℕ × WriteCommand) → List (ℕ × WriteReply) → Prop
  | keep (htasks : t.tasks = s.tasks) : ChannelEffect s t [] [] []
  | spawn (config : DeviceConfig) (htasks : t.tasks = s.tasks ++ [.spawn config]) :
      ChannelEffect s t [] [] []
  | steer (i : ℕ) (f : PollingTask → PollingTask) (htasks : t.tasks = s.tasks.modify i f)
      (hf : ∀ task, s.tasks[i]? = some task → (f task).queue = task.queue ∧
        (f task).current = task.current ∧ (f task).isFinished = task.isFinished) :
      ChannelEffect s t [] [] []
  | push (i : ℕ) (task : PollingTask) (command : WriteCommand) (htask : s.tasks[i]? = some task)
      (htasks : t.tasks = s.tasks.modify i fun task ↦
        { task with queue := task.queue ++ [command] })
      (hbefore : RequestPhase.unsent (s.phaseOf command.response))
      (hafter : ¬RequestPhase.unsent (t.phaseOf command.response)) :
      ChannelEffect s t [(i, command)] [] []
  | receive (i : ℕ) (task : PollingTask) (command : WriteCommand) (rest : List WriteCommand)
      (htask : s.tasks[i]? = some task) (hphase : task.phase = .polling)
      (hqueue : task.queue = command :: rest)
      (htasks : t.tasks = s.tasks.modify i fun task ↦
        { task with phase := .writing command false, queue := rest }) :
      ChannelEffect s t [] [(i, command)] []
  | settle (i : ℕ) (task : PollingTask) (command : WriteCommand) (accepted : Bool)
      (phase : TaskPhase) (reply : WriteReply) (htask : s.tasks[i]? = some task)
      (hphase : task.phase = .writing command accepted) (hquiet : phase.quiet)
      (hreply : reply ≠ .dropped)
      (htasks : t.tasks = s.tasks.modify i fun task ↦ { task with phase := phase }) :
      ChannelEffect s t [] [] [(command.response, reply)]
  | finish (i : ℕ) (task : PollingTask) (htask : s.tasks[i]? = some task)
      (htasks : t.tasks = s.tasks.modify i fun task ↦
        { task with phase := .finished, queue := [] }) :
      ChannelEffect s t [] [] (task.commands.map fun command ↦ (command.response, .dropped))

variable {socketAddr : String → Bool} {overflowChecks : Bool} {s t : DeviceRuntime} {i j : ℕ}
  {now : Instant} {event : TaskEvent} {task : PollingTask}

theorem queuedBy_of_not_waiting (h : t.phaseOf i ≠ some (.waiting none)) :
    s.queuedBy t (.advance i now) = [] := by
  simp only [queuedBy]
  split
  case h_1 => rw [if_neg h]
  case h_2 => rfl

theorem executedBy_of_pendingCommand (htask : t.tasks[i]? = some task)
    (hnone : task.pendingCommand = []) : t.executedBy (.poll i event) = [] := by
  cases event with
  | receive => simp [executedBy, htask, hnone]
  | _ => rfl

theorem repliesBy_of_current {task' : PollingTask} (htask : s.tasks[i]? = some task)
    (hnone : task.current = []) (htask' : t.tasks[i]? = some task')
    (hrunning : task'.isFinished = false) : s.repliesBy t (.poll i event) = [] := by
  have hlive : t.taskIsFinished i = false := by simp [taskIsFinished, htask', hrunning]
  unfold repliesBy
  simp only [htask, hlive, hnone, List.map_nil]
  cases event <;> rfl

theorem isFinished_of_quiet (h : task.phase.quiet) : task.isFinished = false := by
  unfold PollingTask.isFinished
  cases hphase : task.phase <;> simp_all [TaskPhase.quiet]

theorem pendingCommand_of_quiet (h : task.phase.quiet) : task.pendingCommand = [] := by
  unfold PollingTask.pendingCommand
  cases hphase : task.phase <;> simp_all [TaskPhase.quiet]

/-- A handler that moves on without queueing a command. -/
theorem channelEffect_setPhase {u : DeviceRuntime} {request : DeviceRequest} {phase : RequestPhase}
    (hrequest : u.requests[i]? = some request) (hphase : phase ≠ .waiting none)
    (h : ChannelEffect s (u.setPhase i phase) [] [] []) :
    ChannelEffect s (u.setPhase i phase) (s.queuedBy (u.setPhase i phase) (.advance i now)) []
      [] := by
  have hnot : (u.setPhase i phase).phaseOf i ≠ some (.waiting none) := by
    rw [phaseOf_setPhase hrequest, if_pos rfl]
    exact fun heq ↦ hphase (Option.some.inj heq)
  rw [queuedBy_of_not_waiting hnot]
  exact h

theorem getElem?_tasks_modify {f : PollingTask → PollingTask} (htask : s.tasks[i]? = some task)
    (htasks : t.tasks = s.tasks.modify i f) : t.tasks[i]? = some (f task) := by
  rw [htasks, ListUpdate.getElem?_modify_of_some htask, if_pos rfl]

/-- The outcome that a task sends for the command it has executed. -/
def IsOutcomeOf (event : TaskEvent) (reply : WriteReply) : Prop :=
  event = .written ∧ reply = .ok ∨
    ∃ error connected, event = .writeFailed error connected ∧ reply = .err error

theorem repliesBy_settle {command : WriteCommand} {accepted : Bool} {phase : TaskPhase}
    {reply : WriteReply} (htask : s.tasks[i]? = some task)
    (hphase : task.phase = .writing command accepted) (hquiet : phase.quiet)
    (htasks : t.tasks = s.tasks.modify i fun task ↦ { task with phase := phase })
    (hevent : IsOutcomeOf event reply) :
    s.repliesBy t (.poll i event) = [(command.response, reply)] := by
  have hrunning : { task with phase := phase }.isFinished = false := isFinished_of_quiet hquiet
  have hlive : t.taskIsFinished i = false := by
    simpa [taskIsFinished, getElem?_tasks_modify htask htasks] using hrunning
  have hcurrent : task.current = [command] := by simp [PollingTask.current, hphase]
  simp only [repliesBy, htask, hlive, hcurrent]
  rcases hevent with ⟨rfl, rfl⟩ | ⟨error, connected, rfl, rfl⟩ <;> rfl

theorem repliesBy_finish (htask : s.tasks[i]? = some task) :
    s.repliesBy (s.finish i task) (.poll i event) =
      task.commands.map fun command ↦ (command.response, .dropped) := by
  have hfinished : (s.finish i task).taskIsFinished i = true := by
    have htask' := getElem?_tasks_modify (t := s.finish i task)
      (f := fun task ↦ { task with phase := .finished, queue := [] }) htask rfl
    simp [taskIsFinished, htask', PollingTask.isFinished]
  simp only [repliesBy, htask, hfinished, if_true]

theorem channelEffect_settle {command : WriteCommand} {accepted : Bool} {phase : TaskPhase}
    {reply : WriteReply} (htask : s.tasks[i]? = some task)
    (hphase : task.phase = .writing command accepted) (hquiet : phase.quiet)
    (hreply : reply ≠ .dropped)
    (htasks : t.tasks = s.tasks.modify i fun task ↦ { task with phase := phase })
    (hevent : IsOutcomeOf event reply) :
    ChannelEffect s t (s.queuedBy t (.poll i event)) (t.executedBy (.poll i event))
      (s.repliesBy t (.poll i event)) := by
  rw [executedBy_of_pendingCommand (getElem?_tasks_modify htask htasks)
    (pendingCommand_of_quiet hquiet), repliesBy_settle htask hphase hquiet htasks hevent]
  exact .settle i task command accepted phase reply htask hphase hquiet hreply htasks

/-- The effect of every step. -/
theorem channelEffect_of_effect {label : Label} (heffect : Effect socketAddr s label t) :
    ChannelEffect s t (s.queuedBy t label) (t.executedBy label) (s.repliesBy t label) := by
  cases heffect with
  | register config configured persisted hcreated hnext => exact .spawn config rfl
  | skip configured persisted => exact .keep rfl
  | arrive call => exact .keep rfl
  | answer table response hrequest hphase hwrite =>
      exact channelEffect_setPhase hrequest (by simp) (.keep rfl)
  | createNew hrequest => exact channelEffect_setPhase hrequest (by simp) (.keep rfl)
  | createAgain hrequest hhandle => exact channelEffect_setPhase hrequest (by simp) (.keep rfl)
  | spawn hrequest => exact channelEffect_setPhase hrequest (by simp) (.spawn _ rfl)
  | panic hrequest => exact channelEffect_setPhase hrequest (by simp) (.keep rfl)
  | registerAdded hrequest => exact channelEffect_setPhase hrequest (by simp) (.keep rfl)
  | registerConnected response hrequest hhandle =>
      exact channelEffect_setPhase hrequest (by simp) (.keep rfl)
  | registerGone response hrequest hgone =>
      exact channelEffect_setPhase hrequest (by simp) (.keep rfl)
  | remove hrequest hhandle =>
      exact channelEffect_setPhase hrequest (by simp) (.steer _ _ rfl fun _ _ ↦ ⟨rfl, rfl, rfl⟩)
  | disconnect response hrequest hhandle =>
      exact channelEffect_setPhase hrequest (by simp) (.steer _ _ rfl fun _ _ ↦ ⟨rfl, rfl, rfl⟩)
  | send hrequest hhandle hwritable =>
      exact channelEffect_setPhase hrequest (by simp) (.keep rfl)
  | @push i now claims req channel task hrequest htask hroom =>
      let command : WriteCommand := ⟨req.register, req.value, i⟩
      let pushed := s.updateTask channel fun task ↦ { task with queue := task.queue ++ [command] }
      have hafter : (s.pushCommand i channel req).phaseOf i = some (.waiting none) := by
        rw [pushCommand, phaseOf_setPhase (s := pushed) hrequest, if_pos rfl]
      have hqueued : s.queuedBy (s.pushCommand i channel req) (.advance i now) =
          [(channel, command)] := by
        simp [queuedBy, hrequest, hafter, command]
      rw [hqueued]
      refine .push channel task command htask rfl ?_ ?_
      · rw [phaseOf_of_some hrequest]
        rfl
      · rw [hafter]
        decide
  | succeed hrequest => exact channelEffect_setPhase hrequest (by simp) (.keep rfl)
  | audit hrequest => exact channelEffect_setPhase hrequest (by simp) (.keep rfl)
  | cancel hrequest hphase => exact .keep rfl
  | @move i event task phase htask hfrom hto =>
      have htask' : (s.setTaskPhase i phase).tasks[i]? = some { task with phase := phase } :=
        getElem?_tasks_modify (f := fun task ↦ { task with phase := phase }) htask rfl
      rw [executedBy_of_pendingCommand htask' (pendingCommand_of_quiet hto),
        repliesBy_of_current htask (current_of_quiet hfrom) htask' (isFinished_of_quiet hto)]
      refine .steer i _ rfl fun task' htaskEq ↦ ?_
      obtain rfl := Option.some.inj (htask.symm.trans htaskEq)
      refine ⟨rfl, ?_, ?_⟩
      · rw [current_of_quiet hto]
        exact (current_of_quiet hfrom).symm
      · rw [isFinished_of_quiet hto, isFinished_of_quiet hfrom]
  | @receive i task command rest htask hphase hqueue =>
      have htask' : (s.receiveCommand i command rest).tasks[i]? =
          some { task with phase := .writing command false, queue := rest } :=
        getElem?_tasks_modify
          (f := fun task ↦ { task with phase := .writing command false, queue := rest }) htask rfl
      have hexecuted : (s.receiveCommand i command rest).executedBy (.poll i .receive) =
          [(i, command)] := by
        simp [executedBy, htask', PollingTask.pendingCommand]
      have hreplies : s.repliesBy (s.receiveCommand i command rest) (.poll i .receive) = [] :=
        repliesBy_of_current htask (by simp [PollingTask.current, hphase]) htask' rfl
      rw [hexecuted, hreplies]
      exact .receive i task command rest htask hphase hqueue rfl
  | @accept i task command htask hphase =>
      have htask' : (s.acceptWrite i task.config.id command).tasks[i]? =
          some { task with phase := .writing command true } :=
        getElem?_tasks_modify (f := fun task ↦ { task with phase := .writing command true }) htask
          rfl
      have hlive : (s.acceptWrite i task.config.id command).taskIsFinished i = false := by
        simp [taskIsFinished, htask', PollingTask.isFinished]
      have hreplies : s.repliesBy (s.acceptWrite i task.config.id command) (.poll i .accept) =
          [] := by
        simp [repliesBy, htask, hlive]
      rw [hreplies]
      refine .steer i _ rfl fun task' htaskEq ↦ ?_
      obtain rfl := Option.some.inj (htask.symm.trans htaskEq)
      simp [PollingTask.current, PollingTask.isFinished, hphase]
  | written htask hphase =>
      exact channelEffect_settle htask hphase rfl (by simp) rfl (.inl ⟨rfl, rfl⟩)
  | writeFailed error connected htask hphase =>
      exact channelEffect_settle htask hphase (by split <;> rfl) (by simp) rfl
        (.inr ⟨error, connected, rfl, rfl⟩)
  | @finish i event task htask hevent =>
      have htask' : (s.finish i task).tasks[i]? =
          some { task with phase := .finished, queue := [] } :=
        getElem?_tasks_modify (f := fun task ↦ { task with phase := .finished, queue := [] }) htask
          rfl
      rw [executedBy_of_pendingCommand htask' rfl, repliesBy_finish htask]
      exact .finish i task htask rfl
  | acceptLate hwrite => exact .keep rfl

/-! ## Phases -/

/-- What a step from `s` to `t` keeps of a request's phase: a command that is sent stays sent, and
an outcome that is received is in the log. -/
structure PhaseKept (s t : DeviceRuntime) (replies : List (ℕ × WriteReply)) (j : ℕ) : Prop where
  unsent : RequestPhase.unsent (t.phaseOf j) → RequestPhase.unsent (s.phaseOf j)
  received : ∀ reply, t.phaseOf j = some (.waiting (some reply)) →
    s.phaseOf j = some (.waiting (some reply)) ∨ (j, reply) ∈ replies

theorem PhaseKept.of_eq {replies : List (ℕ × WriteReply)} (h : t.phaseOf j = s.phaseOf j) :
    PhaseKept s t replies j where
  unsent := by rw [h]; exact id
  received := fun reply hreply ↦ .inl (h ▸ hreply)

theorem phaseKept_setPhase {u : DeviceRuntime} {request : DeviceRequest} {phase : RequestPhase}
    {replies : List (ℕ × WriteReply)} (hu : u.requests = s.requests)
    (hrequest : s.requests[i]? = some request)
    (hunsent : RequestPhase.unsent (some phase) → RequestPhase.unsent (some request.phase))
    (hreply : ∀ reply, phase ≠ .waiting (some reply)) :
    PhaseKept s (u.setPhase i phase) replies j := by
  have hphase : (u.setPhase i phase).phaseOf j = if j = i then some phase else s.phaseOf j := by
    rw [phaseOf_setPhase (hu ▸ hrequest), phaseOf, phaseOf, hu]
  by_cases hji : j = i
  · rw [if_pos hji] at hphase
    constructor
    · rw [hphase, hji, phaseOf_of_some hrequest]
      exact hunsent
    · intro reply heq
      exact absurd (Option.some.inj (hphase.symm.trans heq)) (hreply reply)
  · exact .of_eq (by rw [hphase, if_neg hji])

theorem phaseKept_reply (commands : List WriteCommand) (reply : WriteReply)
    {replies : List (ℕ × WriteReply)} (ht : t.requests = (s.reply commands reply).requests)
    (hlogged : ∀ command ∈ commands, (command.response, reply) ∈ replies) :
    PhaseKept s t replies j := by
  have hphase : t.phaseOf j = (s.reply commands reply).phaseOf j := by
    rw [phaseOf, phaseOf, ht]
  rw [phaseOf_reply] at hphase
  split at hphase
  case isTrue hany =>
      obtain ⟨command, hmem, hreplies⟩ := List.any_eq_true.mp hany.1
      obtain rfl : command.response = j := by simpa [WriteCommand.repliesTo] using hreplies
      constructor
      · rw [hphase]
        exact fun h ↦ absurd h (by simp [RequestPhase.unsent])
      · intro reply' heq
        obtain rfl : reply = reply' := by simpa using hphase.symm.trans heq
        exact .inr (hlogged command hmem)
  case isFalse => exact .of_eq hphase

/-- Every step keeps every request's phase so. -/
theorem phaseKept_of_effect {label : Label} (heffect : Effect socketAddr s label t) (j : ℕ) :
    PhaseKept s t (s.repliesBy t label) j := by
  cases heffect with
  | arrive call =>
      by_cases hj : j = s.requests.length
      · constructor
        · intro _
          rw [phaseOf, List.getElem?_eq_none (Nat.le_of_eq hj.symm)]
          rfl
        · intro reply heq
          rw [phaseOf_arrive, if_pos hj] at heq
          cases heq
      · exact .of_eq (by rw [phaseOf_arrive, if_neg hj])
  | register | skip | move | receive | accept | acceptLate => exact .of_eq rfl
  | send hrequest hhandle hwritable =>
      exact phaseKept_setPhase rfl hrequest (fun _ ↦ rfl) (by simp)
  | @written i task command htask hphase =>
      refine phaseKept_reply [command] .ok rfl ?_
      rw [repliesBy_settle htask hphase rfl rfl (.inl ⟨rfl, rfl⟩)]
      simp
  | @writeFailed i task command accepted error connected htask hphase =>
      refine phaseKept_reply [command] (.err error) rfl ?_
      have hreplies := repliesBy_settle (t := s.failWrite i task command error connected) htask
        hphase (by split <;> rfl) rfl (.inr ⟨error, connected, rfl, rfl⟩)
      rw [hreplies]
      simp
  | @finish i event task htask hevent =>
      refine phaseKept_reply task.commands .dropped rfl ?_
      rw [repliesBy_finish htask]
      exact fun command hmem ↦ List.mem_map_of_mem hmem
  | answer table response hrequest | registerConnected response hrequest
  | registerGone response hrequest | createNew hrequest | createAgain hrequest | spawn hrequest
  | panic hrequest | registerAdded hrequest | remove hrequest | disconnect response hrequest
  | push hrequest | succeed hrequest | audit hrequest | cancel hrequest =>
      exact phaseKept_setPhase rfl hrequest (by simp [RequestPhase.unsent]) (by simp)

end DeviceRuntime

/-! ## The watched server -/

/-- The server with the log of its channels: the commands put on them, the commands that their
tasks have started to execute, and the outcomes that the tasks have sent or dropped. -/
structure ChannelWatch where
  server : DeviceRuntime
  queued : List (ℕ × WriteCommand)
  executed : List (ℕ × WriteCommand)
  replies : List (ℕ × WriteReply)

namespace ChannelWatch

open ChannelLog DeviceRuntime

def init (configured deviceTable : List DeviceConfig) : ChannelWatch :=
  ⟨DeviceRuntime.init configured deviceTable, [], [], []⟩

def step (socketAddr : String → Bool) (overflowChecks : Bool) (w : ChannelWatch) (label : Label) :
    Option ChannelWatch :=
  (DeviceRuntime.step socketAddr overflowChecks w.server label).map fun server ↦
    ⟨server, w.queued ++ w.server.queuedBy server label, w.executed ++ server.executedBy label,
      w.replies ++ w.server.repliesBy server label⟩

/-- What holds of the log: the channels are first in, first out, every command goes to one channel
and is executed there at most once, a command that has failed is not executed again, and its
request gets at most one outcome. -/
structure ChannelsKept (w : ChannelWatch) : Prop where
  inOrder : Fifo w.queued w.executed
  queuedOnce : (w.queued.map fun entry ↦ entry.2.response).Nodup
  executedOnce : (w.executed.map fun entry ↦ entry.2.response).Nodup
  ownTask : ∀ entry ∈ w.queued, ∀ entry' ∈ w.executed,
    entry'.2.response = entry.2.response → entry' = entry
  notRetried : ∀ i error, (i, .err error) ∈ w.replies →
    (w.executed.map fun entry ↦ entry.2.response).count i = 1
  oneOutcome : (w.replies.map Prod.fst).Nodup
  received : ∀ i reply, w.server.phaseOf i = some (.waiting (some reply)) → (i, reply) ∈ w.replies

/-- A command that has been left behind in the channel of a task that has ended is never
executed. -/
def LeavesBehind (w w' : ChannelWatch) : Prop :=
  ∀ entry ∈ w.queued, entry ∉ w.executed → w.server.taskIsFinished entry.1 →
    ∀ entry' ∈ w'.executed, entry'.2.response ≠ entry.2.response

/-- The number of commands of request `i` in a log. -/
def sentBy (i : ℕ) (log : List (ℕ × WriteCommand)) : ℕ :=
  log.countP fun entry ↦ entry.2.repliesTo i

/-- The number of outcomes for request `i` in a log. -/
def outcomesOf (i : ℕ) (log : List (ℕ × WriteReply)) : ℕ := log.countP fun entry ↦ entry.1 == i

/-- Where every command is: a running task has those of its channel that it has not started to
execute, a request has sent none or one, and the one sent is held by its task or answered. -/
structure Tracked (w : ChannelWatch) : Prop where
  fifo : Fifo w.queued w.executed
  channel : ∀ i task, w.server.tasks[i]? = some task → task.isFinished = false →
    on i w.queued = on i w.executed ++ task.queue
  unused : ∀ i, w.server.tasks[i]? = none → on i w.queued = []
  current : ∀ i task, w.server.tasks[i]? = some task → ∀ command ∈ task.current,
    (i, command) ∈ w.executed
  sentOnce : ∀ i, sentBy i w.queued ≤ if RequestPhase.unsent (w.server.phaseOf i) then 0 else 1
  account : ∀ i, w.server.held i + outcomesOf i w.replies = sentBy i w.queued
  answered : ∀ i reply, (i, reply) ∈ w.replies → reply ≠ .dropped →
    ∃ entry ∈ w.executed, entry.2.response = i
  received : ∀ i reply, w.server.phaseOf i = some (.waiting (some reply)) → (i, reply) ∈ w.replies

/-! ## Single updates -/

variable {w : ChannelWatch} {s t : DeviceRuntime} {i j : ℕ} {task : PollingTask}
  {f : PollingTask → PollingTask} {replies : List (ℕ × WriteReply)}

theorem sentBy_append (i : ℕ) (log log' : List (ℕ × WriteCommand)) :
    sentBy i (log ++ log') = sentBy i log + sentBy i log' := List.countP_append

theorem outcomesOf_append (i : ℕ) (log log' : List (ℕ × WriteReply)) :
    outcomesOf i (log ++ log') = outcomesOf i log + outcomesOf i log' := List.countP_append

theorem forall_tasks {P : ℕ → PollingTask → Prop} (htask : s.tasks[i]? = some task)
    (htasks : t.tasks = s.tasks.modify i f)
    (hother : ∀ j task', j ≠ i → s.tasks[j]? = some task' → P j task') (hthis : P i (f task)) :
    ∀ j task', t.tasks[j]? = some task' → P j task' := by
  rw [htasks]
  refine ListUpdate.forall_modify hother fun task' htask' ↦ ?_
  obtain rfl := Option.some.inj (htask.symm.trans htask')
  exact hthis

theorem getElem?_eq_none_of_modify (htasks : t.tasks = s.tasks.modify i f)
    (hj : t.tasks[j]? = none) : s.tasks[j]? = none := by
  rw [htasks] at hj
  simpa using hj

theorem held_modify (htask : s.tasks[i]? = some task) (htasks : t.tasks = s.tasks.modify i f)
    (j : ℕ) :
    t.held j + task.commands.countP (WriteCommand.repliesTo j) =
      s.held j + (f task).commands.countP (WriteCommand.repliesTo j) := by
  rw [held, htasks]
  exact held_updateTask htask f j

theorem held_of_tasks (htasks : t.tasks = s.tasks) (j : ℕ) : t.held j = s.held j := by
  rw [held, held, htasks]

/-- What the request phases say is kept by every step that queues nothing. -/
theorem Tracked.sentOnce_of_phaseKept (h : w.Tracked)
    (hphase : PhaseKept w.server t replies j) :
    sentBy j w.queued ≤ if RequestPhase.unsent (t.phaseOf j) then 0 else 1 := by
  have hbefore := h.sentOnce j
  split
  case isTrue hunsent =>
      rw [if_pos (hphase.unsent hunsent)] at hbefore
      exact hbefore
  case isFalse =>
      split at hbefore
      · exact hbefore.trans (Nat.zero_le 1)
      · exact hbefore

theorem Tracked.received_of_phaseKept (h : w.Tracked) (hphase : PhaseKept w.server t replies j)
    {reply : WriteReply} (hreply : t.phaseOf j = some (.waiting (some reply))) :
    (j, reply) ∈ w.replies ++ replies := by
  rcases hphase.received reply hreply with hold | hnew
  · exact List.mem_append_left _ (h.received j reply hold)
  · exact List.mem_append_right _ hnew

theorem Tracked.keep (h : w.Tracked) (htasks : t.tasks = w.server.tasks)
    (hphase : ∀ j, PhaseKept w.server t [] j) :
    Tracked ⟨t, w.queued, w.executed, w.replies⟩ where
  fifo := h.fifo
  channel := fun j task' hj ↦ h.channel j task' (htasks ▸ hj)
  unused := fun j hj ↦ h.unused j (htasks ▸ hj)
  current := fun j task' hj ↦ h.current j task' (htasks ▸ hj)
  sentOnce := fun j ↦ h.sentOnce_of_phaseKept (hphase j)
  account := fun j ↦ by
    rw [held_of_tasks htasks]
    exact h.account j
  answered := h.answered
  received := fun j reply hreply ↦ by
    simpa using h.received_of_phaseKept (hphase j) hreply

theorem Tracked.spawn (h : w.Tracked) {config : DeviceConfig}
    (htasks : t.tasks = w.server.tasks ++ [.spawn config])
    (hphase : ∀ j, PhaseKept w.server t [] j) :
    Tracked ⟨t, w.queued, w.executed, w.replies⟩ := by
  have hnone : w.server.tasks[w.server.tasks.length]? = none := List.getElem?_eq_none le_rfl
  have hunused := h.unused _ hnone
  refine ⟨h.fifo, ?_, fun j hj ↦ ?_, ?_, fun j ↦ h.sentOnce_of_phaseKept (hphase j), fun j ↦ ?_,
    h.answered, fun j reply hreply ↦ ?_⟩
  · rw [htasks]
    refine ListUpdate.forall_append_singleton h.channel fun _ ↦ ?_
    simp [hunused, h.fifo.on_eq_nil hunused, PollingTask.spawn]
  · rw [htasks, ListUpdate.getElem?_append_singleton] at hj
    split at hj
    case isTrue => cases hj
    case isFalse => exact h.unused j hj
  · rw [htasks]
    exact ListUpdate.forall_append_singleton h.current fun _ hmem ↦ by cases hmem
  · have hheld : t.held j = w.server.held j := by
      rw [held, held, htasks]
      simp [PollingTask.spawn, PollingTask.commands, PollingTask.current]
    rw [hheld]
    exact h.account j
  · simpa using h.received_of_phaseKept (hphase j) hreply

/-- A task that keeps its commands. -/
theorem Tracked.steer (h : w.Tracked) (htasks : t.tasks = w.server.tasks.modify i f)
    (hf : ∀ task, w.server.tasks[i]? = some task → (f task).queue = task.queue ∧
      (f task).current = task.current ∧ (f task).isFinished = task.isFinished)
    (hphase : ∀ j, PhaseKept w.server t [] j) :
    Tracked ⟨t, w.queued, w.executed, w.replies⟩ := by
  cases htask : w.server.tasks[i]? with
  | none =>
      rw [List.modify_eq_self (List.getElem?_eq_none_iff.mp htask)] at htasks
      exact h.keep htasks hphase
  | some task =>
      obtain ⟨hqueue, hcurrent, hfinished⟩ := hf task htask
      refine ⟨h.fifo, forall_tasks htask htasks (fun j task' _ ↦ h.channel j task') ?_,
        fun j hj ↦ h.unused j (getElem?_eq_none_of_modify htasks hj),
        forall_tasks htask htasks (fun j task' _ ↦ h.current j task') ?_,
        fun j ↦ h.sentOnce_of_phaseKept (hphase j), fun j ↦ ?_, h.answered,
        fun j reply hreply ↦ ?_⟩
      · rw [hfinished, hqueue]
        exact h.channel i task htask
      · rw [hcurrent]
        exact h.current i task htask
      · have hheld := held_modify htask htasks j
        rw [PollingTask.commands, PollingTask.commands, hqueue, hcurrent,
          Nat.add_right_cancel_iff] at hheld
        rw [hheld]
        exact h.account j
      · simpa using h.received_of_phaseKept (hphase j) hreply

/-- A request puts its command on a channel. -/
theorem Tracked.push (h : w.Tracked) {command : WriteCommand}
    (htask : w.server.tasks[i]? = some task)
    (htasks : t.tasks = w.server.tasks.modify i fun task ↦
      { task with queue := task.queue ++ [command] })
    (hbefore : RequestPhase.unsent (w.server.phaseOf command.response))
    (hafter : ¬RequestPhase.unsent (t.phaseOf command.response))
    (hphase : ∀ j, PhaseKept w.server t [] j) :
    Tracked ⟨t, w.queued ++ [(i, command)], w.executed, w.replies⟩ := by
  have hsent (j : ℕ) : sentBy j (w.queued ++ [(i, command)]) =
      sentBy j w.queued + if command.repliesTo j then 1 else 0 := by
    rw [sentBy_append]
    simp [sentBy, List.countP_singleton]
  refine ⟨h.fifo.send _, forall_tasks htask htasks (fun j task' hji hj hrunning ↦ ?_) ?_,
    fun j hj ↦ ?_, forall_tasks htask htasks (fun j task' _ ↦ h.current j task') ?_, fun j ↦ ?_,
    fun j ↦ ?_, h.answered, fun j reply hreply ↦ ?_⟩
  · rw [on_snoc_of_ne (Ne.symm hji)]
    exact h.channel j task' hj hrunning
  · intro hrunning
    rw [on_snoc_self, h.channel i task htask hrunning, List.append_assoc]
  · have hnone := getElem?_eq_none_of_modify htasks hj
    have hij : i ≠ j := by
      rintro rfl
      cases htask.symm.trans hnone
    rw [on_snoc_of_ne hij]
    exact h.unused j hnone
  · exact h.current i task htask
  · rw [hsent]
    by_cases hreplies : command.repliesTo j
    · obtain rfl : command.response = j := by simpa [WriteCommand.repliesTo] using hreplies
      have hnone := h.sentOnce command.response
      rw [if_pos hbefore] at hnone
      rw [if_neg hafter, if_pos hreplies]
      omega
    · rw [if_neg hreplies]
      exact h.sentOnce_of_phaseKept (hphase j)
  · have hheld := held_modify htask htasks j
    have haccount := h.account j
    simp only [PollingTask.commands, PollingTask.current, List.countP_append,
      List.countP_singleton] at hheld
    rw [hsent]
    dsimp only
    omega
  · simpa using h.received_of_phaseKept (hphase j) hreply

/-- A task takes the next command of its channel. -/
theorem Tracked.receive (h : w.Tracked) {command : WriteCommand} {rest : List WriteCommand}
    (htask : w.server.tasks[i]? = some task) (hpolling : task.phase = .polling)
    (hqueue : task.queue = command :: rest)
    (htasks : t.tasks = w.server.tasks.modify i fun task ↦
      { task with phase := .writing command false, queue := rest })
    (hphase : ∀ j, PhaseKept w.server t [] j) :
    Tracked ⟨t, w.queued, w.executed ++ [(i, command)], w.replies⟩ := by
  have hnext : on i w.queued = on i w.executed ++ command :: rest := by
    rw [← hqueue]
    exact h.channel i task htask (by simp [PollingTask.isFinished, hpolling])
  refine ⟨h.fifo.receive hnext, forall_tasks htask htasks (fun j task' hji hj hrunning ↦ ?_) ?_,
    fun j hj ↦ h.unused j (getElem?_eq_none_of_modify htasks hj),
    forall_tasks htask htasks (fun j task' _ hj command' hmem ↦ ?_) ?_,
    fun j ↦ h.sentOnce_of_phaseKept (hphase j), fun j ↦ ?_, fun j reply hmem hreply ↦ ?_,
    fun j reply hreply ↦ ?_⟩
  · rw [on_snoc_of_ne (Ne.symm hji)]
    exact h.channel j task' hj hrunning
  · intro _
    rw [on_snoc_self, hnext, List.append_assoc]
    rfl
  · exact List.mem_append_left _ (h.current j task' hj command' hmem)
  · intro command' hmem
    obtain rfl := List.mem_singleton.mp hmem
    exact List.mem_append_right _ (List.mem_singleton_self _)
  · have hheld := held_modify htask htasks j
    simp only [PollingTask.commands, PollingTask.current, hpolling, hqueue, List.nil_append,
      List.singleton_append, Nat.add_right_cancel_iff] at hheld
    rw [hheld]
    exact h.account j
  · obtain ⟨entry, hentry, heq⟩ := h.answered j reply hmem hreply
    exact ⟨entry, List.mem_append_left _ hentry, heq⟩
  · simpa using h.received_of_phaseKept (hphase j) hreply

/-- A task sends the outcome of the command that it has executed. -/
theorem Tracked.settle (h : w.Tracked) {command : WriteCommand} {accepted : Bool}
    {phase : TaskPhase} {reply : WriteReply} (htask : w.server.tasks[i]? = some task)
    (hwriting : task.phase = .writing command accepted) (hquiet : phase.quiet)
    (htasks : t.tasks = w.server.tasks.modify i fun task ↦ { task with phase := phase })
    (hphase : ∀ j, PhaseKept w.server t [(command.response, reply)] j) :
    Tracked ⟨t, w.queued, w.executed, w.replies ++ [(command.response, reply)]⟩ := by
  have hcurrent : task.current = [command] := by simp [PollingTask.current, hwriting]
  refine ⟨h.fifo, forall_tasks htask htasks (fun j task' _ ↦ h.channel j task') ?_,
    fun j hj ↦ h.unused j (getElem?_eq_none_of_modify htasks hj),
    forall_tasks htask htasks (fun j task' _ ↦ h.current j task') ?_,
    fun j ↦ h.sentOnce_of_phaseKept (hphase j), fun j ↦ ?_, fun j reply' hmem hreply ↦ ?_,
    fun j reply' hreply ↦ h.received_of_phaseKept (hphase j) hreply⟩
  · intro _
    exact h.channel i task htask (by simp [PollingTask.isFinished, hwriting])
  · intro command' hmem
    rw [current_of_quiet hquiet] at hmem
    cases hmem
  · have hheld := held_modify htask htasks j
    have haccount := h.account j
    simp only [PollingTask.commands, hcurrent, current_of_quiet hquiet, List.countP_append,
      List.countP_singleton, List.countP_nil] at hheld
    rw [outcomesOf_append]
    have hone : outcomesOf j [(command.response, reply)] = if command.repliesTo j then 1 else 0 :=
      List.countP_singleton
    dsimp only
    omega
  · rcases List.mem_append.mp hmem with hold | hnew
    · exact h.answered j reply' hold hreply
    · obtain ⟨rfl, rfl⟩ := Prod.mk.inj (List.mem_singleton.mp hnew)
      exact ⟨(i, command), h.current i task htask command (by simp [hcurrent]), rfl⟩

/-- A task ends with the commands that it has. -/
theorem Tracked.finish (h : w.Tracked) (htask : w.server.tasks[i]? = some task)
    (htasks : t.tasks = w.server.tasks.modify i fun task ↦
      { task with phase := .finished, queue := [] })
    (hphase : ∀ j, PhaseKept w.server t
      (task.commands.map fun command ↦ (command.response, .dropped)) j) :
    Tracked ⟨t, w.queued, w.executed,
      w.replies ++ task.commands.map fun command ↦ (command.response, .dropped)⟩ := by
  refine ⟨h.fifo, forall_tasks htask htasks (fun j task' _ ↦ h.channel j task') ?_,
    fun j hj ↦ h.unused j (getElem?_eq_none_of_modify htasks hj),
    forall_tasks htask htasks (fun j task' _ ↦ h.current j task') ?_,
    fun j ↦ h.sentOnce_of_phaseKept (hphase j), fun j ↦ ?_, fun j reply' hmem hreply ↦ ?_,
    fun j reply' hreply ↦ h.received_of_phaseKept (hphase j) hreply⟩
  · intro hrunning
    cases hrunning
  · intro command' hmem
    cases hmem
  · have hheld := held_modify htask htasks j
    have haccount := h.account j
    have hdropped : outcomesOf j (task.commands.map fun command ↦ (command.response, .dropped)) =
        task.commands.countP (WriteCommand.repliesTo j) := List.countP_map
    have hnone : (PollingTask.mk task.config .finished [] task.aborted).commands = [] := rfl
    rw [hnone, List.countP_nil] at hheld
    rw [outcomesOf_append, hdropped]
    dsimp only
    omega
  · rcases List.mem_append.mp hmem with hold | hnew
    · exact h.answered j reply' hold hreply
    · obtain ⟨command, -, heq⟩ := List.mem_map.mp hnew
      exact absurd (Prod.mk.inj heq).2.symm hreply

/-! ## Steps -/

variable {socketAddr : String → Bool} {overflowChecks : Bool} {label : Label} {w' : ChannelWatch}

/-- What a watched step is: the effect of the server's step, and its entries in the log. -/
theorem step_cases (hstep : step socketAddr overflowChecks w label = some w') :
    ∃ queued executed replies, ChannelEffect w.server w'.server queued executed replies ∧
      (∀ j, PhaseKept w.server w'.server replies j) ∧
      w' = ⟨w'.server, w.queued ++ queued, w.executed ++ executed, w.replies ++ replies⟩ := by
  obtain ⟨t, hserver, rfl⟩ := Option.map_eq_some_iff.mp hstep
  have heffect := effect_of_step hserver
  exact ⟨_, _, _, channelEffect_of_effect heffect, phaseKept_of_effect heffect, rfl⟩

/-- **Step lemma.** Every step keeps track of the commands. -/
theorem Tracked.step (h : w.Tracked) (hstep : step socketAddr overflowChecks w label = some w') :
    w'.Tracked := by
  obtain ⟨queued, executed, replies, heffect, hphase, hw'⟩ := step_cases hstep
  rw [hw']
  cases heffect with
  | keep htasks => simpa using h.keep htasks hphase
  | spawn config htasks => simpa using h.spawn htasks hphase
  | steer i f htasks hf => simpa using h.steer htasks hf hphase
  | push i task command htask htasks hbefore hafter =>
      simpa using h.push htask htasks hbefore hafter hphase
  | receive i task command rest htask hpolling hqueue htasks =>
      simpa using h.receive htask hpolling hqueue htasks hphase
  | settle i task command accepted phase reply htask hwriting hquiet hreply htasks =>
      simpa using h.settle htask hwriting hquiet htasks hphase
  | finish i task htask htasks => simpa using h.finish htask htasks hphase

/-- The channel of a task that has ended, with the commands executed from it. -/
structure Ended (i : ℕ) (executed : List WriteCommand) (w : ChannelWatch) : Prop where
  finished : ∃ task, w.server.tasks[i]? = some task ∧ task.isFinished
  executed : on i w.executed = executed

/-- A task that has ended executes nothing more. -/
theorem Ended.step {executed : List WriteCommand} (h : Ended i executed w)
    (hstep : step socketAddr overflowChecks w label = some w') : Ended i executed w' := by
  obtain ⟨⟨task, htask, hfinished⟩, rfl⟩ := h
  obtain ⟨_, _, _, heffect, -, hw'⟩ := step_cases hstep
  rw [hw']
  -- an update that leaves every finished task finished
  have hmodify {k : ℕ} {f : PollingTask → PollingTask}
      (htasks : w'.server.tasks = w.server.tasks.modify k f)
      (hf : k = i → (f task).isFinished) :
      ∃ task', w'.server.tasks[i]? = some task' ∧ task'.isFinished := by
    rw [htasks, List.getElem?_modify, htask]
    by_cases hki : k = i
    · exact ⟨f task, by simp [hki], hf hki⟩
    · exact ⟨task, by simp [hki], hfinished⟩
  cases heffect with
  | keep htasks => exact ⟨⟨task, htasks ▸ htask, hfinished⟩, by simp⟩
  | spawn config htasks =>
      refine ⟨⟨task, ?_, hfinished⟩, by simp⟩
      rw [htasks]
      exact ListUpdate.getElem?_of_prefix (List.prefix_append _ _) htask
  | steer k f htasks hf =>
      refine ⟨hmodify htasks fun hki ↦ ?_, by simp⟩
      rw [(hf task (hki ▸ htask)).2.2]
      exact hfinished
  | push k task' command htask' htasks hbefore hafter =>
      exact ⟨hmodify htasks fun _ ↦ hfinished, by simp⟩
  | receive k task' command rest htask' hpolling hqueue htasks =>
      have hki : k ≠ i := by
        rintro rfl
        obtain rfl := Option.some.inj (htask.symm.trans htask')
        simp [PollingTask.isFinished, hpolling] at hfinished
      exact ⟨hmodify htasks fun heq ↦ absurd heq hki, on_snoc_of_ne hki _ _⟩
  | settle k task' command accepted phase reply htask' hwriting hquiet hreply htasks =>
      refine ⟨hmodify htasks fun hki ↦ ?_, by simp⟩
      subst hki
      obtain rfl := Option.some.inj (htask.symm.trans htask')
      simp [PollingTask.isFinished, hwriting] at hfinished
  | finish k task' htask' htasks => exact ⟨hmodify htasks fun _ ↦ rfl, by simp⟩

theorem queued_grows (hstep : step socketAddr overflowChecks w label = some w') :
    w.queued <+: w'.queued := by
  obtain ⟨queued, _, _, -, -, hw'⟩ := step_cases hstep
  rw [hw']
  exact List.prefix_append _ _

/-! ## Runs -/

theorem count_response (i : ℕ) (log : List (ℕ × WriteCommand)) :
    (log.map fun entry ↦ entry.2.response).count i = sentBy i log := List.countP_map

theorem count_outcome (i : ℕ) (log : List (ℕ × WriteReply)) :
    (log.map Prod.fst).count i = outcomesOf i log := List.countP_map

theorem Tracked.sentBy_queued_le (h : w.Tracked) (i : ℕ) : sentBy i w.queued ≤ 1 := by
  have hsent := h.sentOnce i
  split at hsent
  · exact hsent.trans (Nat.zero_le 1)
  · exact hsent

theorem Tracked.sentBy_executed_le (h : w.Tracked) (i : ℕ) : sentBy i w.executed ≤ 1 :=
  (h.fifo.subperm.countP_le _).trans (h.sentBy_queued_le i)

theorem Tracked.channelsKept (h : w.Tracked) : w.ChannelsKept := by
  have hqueued : (w.queued.map fun entry ↦ entry.2.response).Nodup :=
    List.nodup_iff_count_le_one.mpr fun i ↦ (count_response i _).trans_le (h.sentBy_queued_le i)
  have hexecuted : (w.executed.map fun entry ↦ entry.2.response).Nodup :=
    List.nodup_iff_count_le_one.mpr fun i ↦ (count_response i _).trans_le (h.sentBy_executed_le i)
  refine ⟨h.fifo, hqueued, hexecuted, fun entry hentry entry' hentry' heq ↦ ?_,
    fun i error hmem ↦ ?_, List.nodup_iff_count_le_one.mpr fun i ↦ ?_, h.received⟩
  · exact List.inj_on_of_nodup_map hqueued (h.fifo.mem hentry') hentry heq
  · obtain ⟨entry, hentry, heq⟩ := h.answered i _ hmem (by simp)
    exact List.count_eq_one_of_mem hexecuted (List.mem_map.mpr ⟨entry, hentry, heq⟩)
  · rw [count_outcome]
    have haccount := h.account i
    have hsent := h.sentBy_queued_le i
    omega

theorem tracked_init (configured deviceTable : List DeviceConfig) :
    (init configured deviceTable).Tracked where
  fifo := fifo_nil
  channel := fun _ _ hj ↦ by cases hj
  unused := fun _ _ ↦ rfl
  current := fun _ _ hj ↦ by cases hj
  sentOnce := fun _ ↦ Nat.zero_le _
  account := fun _ ↦ rfl
  answered := fun _ _ hmem ↦ by cases hmem
  received := fun _ _ hphase ↦ by cases hphase

/-- Every run of the server can be watched. -/
theorem exists_watch {configured deviceTable : List DeviceConfig} {labels : List Label}
    (hrun : Transition.Run (Transition.ofOption (DeviceRuntime.step socketAddr overflowChecks))
      (DeviceRuntime.init configured deviceTable) labels s) :
    ∃ w, Transition.Run (Transition.ofOption (step socketAddr overflowChecks))
      (init configured deviceTable) labels w ∧ w.server = s := by
  induction hrun with
  | nil => exact ⟨_, .nil, rfl⟩
  | snoc _ hstep ih =>
      obtain ⟨w, hw, rfl⟩ := ih
      exact ⟨_, hw.snoc (Option.map_eq_some_iff.mpr ⟨_, hstep, rfl⟩), rfl⟩

/-- What has been left behind is not executed later. -/
theorem Tracked.leavesBehind (h : w.Tracked) {later : List Label}
    (hlater : Transition.Run (Transition.ofOption (ChannelWatch.step socketAddr overflowChecks)) w
      later w') : w.LeavesBehind w' := by
  intro entry hentry hnot hfinished entry' hentry' heq
  have htask : ∃ task, w.server.tasks[entry.1]? = some task := by
    rw [← Option.isSome_iff_exists]
    by_contra hnone
    have hunused := h.unused entry.1 (by simpa using hnone)
    have hmem : entry.2 ∈ on entry.1 w.queued := mem_on_iff.mpr hentry
    rw [hunused] at hmem
    cases hmem
  obtain ⟨task, htask⟩ := htask
  have hend : task.isFinished := by simpa [taskIsFinished, htask] using hfinished
  have hkept : w'.Tracked ∧ w.queued <+: w'.queued ∧ Ended entry.1 (on entry.1 w.executed) w' := by
    apply @Transition.Run.invariant _ _ _ _ _
      (fun u ↦ u.Tracked ∧ w.queued <+: u.queued ∧ Ended entry.1 (on entry.1 w.executed) u) _ _ _
      hlater
    · exact ⟨h, List.prefix_rfl, ⟨task, htask, hend⟩, rfl⟩
    · rintro u label v ⟨htracked, hqueued, hended⟩ hstep
      exact ⟨htracked.step hstep, hqueued.trans (queued_grows hstep), hended.step hstep⟩
  obtain ⟨htracked, hqueued, -, hexecuted⟩ := hkept
  obtain rfl : entry' = entry :=
    htracked.channelsKept.ownTask entry (hqueued.subset hentry) entry' hentry' heq
  have hmem : entry'.2 ∈ on entry'.1 w'.executed := mem_on_iff.mpr hentry'
  rw [hexecuted, mem_on_iff] at hmem
  exact hnot hmem

/-- **Commands and channels.** In every run of the server each command is executed at most once, by
the task of its own channel and in the order of the channel, is not retried after it has failed,
and gets at most one outcome; and a command left behind by a task that has ended is never executed
later. -/
theorem channels_kept {configured deviceTable : List DeviceConfig} {labels later : List Label}
    (hrun : Transition.Run (Transition.ofOption (step socketAddr overflowChecks))
      (init configured deviceTable) labels w)
    (hlater : Transition.Run (Transition.ofOption (step socketAddr overflowChecks)) w later w') :
    w'.ChannelsKept ∧ w.LeavesBehind w' := by
  have htracked : w.Tracked :=
    hrun.invariant (tracked_init configured deviceTable) fun _ _ _ hu hstep ↦ hu.step hstep
  have htracked' : w'.Tracked := hlater.invariant htracked fun _ _ _ hu hstep ↦ hu.step hstep
  exact ⟨htracked'.channelsKept, htracked.leavesBehind hlater⟩

/-- A write that fails, a second one that is left behind when the device is disconnected. -/
def leftBehindRun : List Label :=
  writeReceived ++ [.poll 0 (.writeFailed "timeout" false)] ++
  handled 2 (.postWrite operatorClaims ⟨"plc-01", 1031, 0⟩) 2 ++
  handled 3 (.disconnectDevice "plc-01") 1 ++ [.poll 0 .stop]

/-- The device is connected again and written to. -/
def reconnectedRun : List Label :=
  handled 4 (.connectDevice "plc-01") 3 ++ [.poll 1 .connected] ++
  handled 5 (.postWrite operatorClaims ⟨"plc-01", 1031, 1⟩) 2 ++
  [.poll 1 .receive, .poll 1 .accept, .poll 1 .written]

theorem channels_kept_reconnectedRun :
    ∃ w w', Transition.exec (step (fun _ ↦ true) true) (init [] []) leftBehindRun = some w ∧
      Transition.exec (step (fun _ ↦ true) true) w reconnectedRun = some w' ∧
      w'.ChannelsKept ∧ w.LeavesBehind w' := by
  have hsome : ((Transition.exec (step (fun _ ↦ true) true) (init [] []) leftBehindRun).bind
      fun w ↦ Transition.exec (step (fun _ ↦ true) true) w reconnectedRun).isSome := by decide
  obtain ⟨w', hw'⟩ := Option.isSome_iff_exists.mp hsome
  obtain ⟨w, hw, hlater⟩ := Option.bind_eq_some_iff.mp hw'
  exact ⟨w, w', hw, hlater, channels_kept (Transition.run_ofOption_iff.mpr hw)
    (Transition.run_ofOption_iff.mpr hlater)⟩

end ChannelWatch

end VyuhHmi
