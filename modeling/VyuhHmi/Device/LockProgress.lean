import VyuhHmi.Device.Routing

/-!
# Holding the registry lock

`post_write` sends its command while it holds the registry's read lock.  The send waits when the
channel is full, and a task that is not in its poll loop takes nothing out of its channel.  What
keeps a handler from waiting there is that the channel has room for it and for every handler that
is about to send to it.
-/

namespace VyuhHmi

namespace DeviceRuntime

/-- The number of commands in a channel. -/
def queueLength (s : DeviceRuntime) (channel : ℕ) : ℕ :=
  (s.tasks[channel]?.map fun task ↦ task.queue.length).getD 0

/-- The number of handlers about to send to a channel. -/
def senders (s : DeviceRuntime) (channel : ℕ) : ℕ :=
  (s.requests.map fun request ↦ request.phase.sendsTo channel).sum

/-- Every channel has room for the handlers that are about to send to it. -/
def HasRoom (s : DeviceRuntime) : Prop :=
  ∀ channel, s.queueLength channel + s.senders channel ≤ channelCapacity

/-- The handler holds the read lock and waits for room in a channel. -/
def WaitsForRoom (s : DeviceRuntime) (i : ℕ) : Prop :=
  ∃ request channel task, s.requests[i]? = some request ∧ request.phase = .sending channel ∧
    s.tasks[channel]? = some task ∧ task.isFinished = false ∧ channelCapacity ≤ task.queue.length

/-- The handlers that hold the lock can release it among themselves: after steps of theirs alone,
without a PLC or a polling task, the lock can be taken for writing. -/
def LockReleasable (socketAddr : String → Bool) (overflowChecks : Bool) (s : DeviceRuntime) : Prop :=
  ∃ labels t, Transition.exec (step socketAddr overflowChecks) s labels = some t ∧
    t.canWrite = true ∧
    ∀ label ∈ labels, ∃ i request, label = .advance i 0 ∧ s.requests[i]? = some request ∧
      request.holdsLock = true

/-- A write request starts to send only when the channel has room for it and for every handler
already about to send to it. -/
def sendsWithRoom (s : DeviceRuntime) : Label → Bool
  | .advance i _ =>
      match s.requests[i]? with
      | some ⟨.postWrite _ req, .ready⟩ =>
          (s.registry req.deviceId).all fun handle ↦
            !handle.config.writable.contains req.register ||
              s.queueLength handle.writeTx + s.senders handle.writeTx < channelCapacity
      | _ => true
  | _ => true

variable {socketAddr : String → Bool} {overflowChecks : Bool} {s t : DeviceRuntime} {i : ℕ}
  {request : DeviceRequest}

/-! ## What the single updates do to the channels -/

theorem senders_setPhase (hrequest : s.requests[i]? = some request) (phase : RequestPhase)
    (channel : ℕ) :
    (s.setPhase i phase).senders channel + request.phase.sendsTo channel =
      s.senders channel + phase.sendsTo channel :=
  ListUpdate.sum_map_modify hrequest _ _

theorem senders_setPhase_le (hrequest : s.requests[i]? = some request) {phase : RequestPhase}
    (hphase : ∀ channel, phase.sendsTo channel = 0) (channel : ℕ) :
    (s.setPhase i phase).senders channel ≤ s.senders channel := by
  have htotal := senders_setPhase hrequest phase channel
  rw [hphase channel] at htotal
  omega

theorem sendsTo_receive (reply : WriteReply) (request : DeviceRequest) (channel : ℕ) :
    (request.receive reply).phase.sendsTo channel = request.phase.sendsTo channel := by
  unfold DeviceRequest.receive
  split
  case h_1 hphase => simp [RequestPhase.sendsTo, hphase]
  case h_2 => rfl

@[simp] theorem senders_reply (commands : List WriteCommand) (reply : WriteReply) (channel : ℕ) :
    (s.reply commands reply).senders channel = s.senders channel := by
  unfold senders
  congr 1
  apply ListUpdate.map_mapIdx_of_forall
  intro j request
  split
  · exact sendsTo_receive reply request channel
  · rfl

theorem queueLength_updateTask {task : PollingTask} (htask : s.tasks[i]? = some task)
    (f : PollingTask → PollingTask) (channel : ℕ) :
    (s.updateTask i f).queueLength channel =
      if channel = i then (f task).queue.length else s.queueLength channel := by
  unfold queueLength
  rw [updateTask_tasks, ListUpdate.getElem?_modify_of_some htask]
  split <;> rfl

theorem queueLength_updateTask_le {f : PollingTask → PollingTask}
    (hf : ∀ task, s.tasks[i]? = some task → (f task).queue.length ≤ task.queue.length)
    (channel : ℕ) : (s.updateTask i f).queueLength channel ≤ s.queueLength channel := by
  cases htask : s.tasks[i]? with
  | none =>
      have hsame : s.tasks.modify i f = s.tasks :=
        List.modify_eq_self (List.getElem?_eq_none_iff.mp htask)
      simp [queueLength, hsame]
  | some task =>
      rw [queueLength_updateTask htask]
      split
      case isTrue heq =>
          subst heq
          simpa [queueLength, htask] using hf task htask
      case isFalse => exact le_rfl

theorem queueLength_spawnTask (config : DeviceConfig) (channel : ℕ) :
    (s.spawnTask config).queueLength channel = s.queueLength channel := by
  unfold queueLength
  rw [spawnTask_tasks, ListUpdate.getElem?_append_singleton]
  split
  case isTrue hlast =>
      rw [List.getElem?_eq_none hlast.ge]
      rfl
  case isFalse => rfl

/-- Fewer commands and fewer senders leave the room there is. -/
theorem HasRoom.of_le (h : s.HasRoom)
    (hqueue : ∀ channel, t.queueLength channel ≤ s.queueLength channel)
    (hsenders : ∀ channel, t.senders channel ≤ s.senders channel) : t.HasRoom := fun channel ↦
  (Nat.add_le_add (hqueue channel) (hsenders channel)).trans (h channel)

theorem HasRoom.setPhase (h : s.HasRoom) (hrequest : s.requests[i]? = some request)
    {phase : RequestPhase} (hphase : ∀ channel, phase.sendsTo channel = 0) :
    (s.setPhase i phase).HasRoom :=
  h.of_le (fun _ ↦ le_rfl) (senders_setPhase_le hrequest hphase)

theorem HasRoom.updateTask (h : s.HasRoom) {f : PollingTask → PollingTask}
    (hf : ∀ task, s.tasks[i]? = some task → (f task).queue.length ≤ task.queue.length) :
    (s.updateTask i f).HasRoom :=
  h.of_le (queueLength_updateTask_le hf) fun _ ↦ le_rfl

theorem HasRoom.setTaskPhase (h : s.HasRoom) (i : ℕ) (phase : TaskPhase) :
    (s.setTaskPhase i phase).HasRoom := h.updateTask fun _ _ ↦ le_rfl

theorem HasRoom.abort (h : s.HasRoom) (i : ℕ) : (s.abort i).HasRoom :=
  h.updateTask fun _ _ ↦ le_rfl

theorem HasRoom.spawnTask (h : s.HasRoom) (config : DeviceConfig) :
    (s.spawnTask config).HasRoom :=
  h.of_le (fun channel ↦ (queueLength_spawnTask config channel).le) fun _ ↦ le_rfl

theorem HasRoom.reply (h : s.HasRoom) (commands : List WriteCommand) (reply : WriteReply) :
    (s.reply commands reply).HasRoom :=
  h.of_le (fun _ ↦ le_rfl) fun channel ↦ (senders_reply commands reply channel).le

/-- A command that is pushed takes the room kept for its sender. -/
theorem HasRoom.pushCommand (h : s.HasRoom) {channel : ℕ} {task : PollingTask}
    (hrequest : s.requests[i]? = some request) (hphase : request.phase = .sending channel)
    (htask : s.tasks[channel]? = some task) (req : WriteRequest) :
    (s.pushCommand i channel req).HasRoom := by
  intro channel'
  have htotal : (s.pushCommand i channel req).senders channel' + request.phase.sendsTo channel' =
      s.senders channel' + RequestPhase.sendsTo channel' (.waiting none) :=
    ListUpdate.sum_map_modify hrequest _ _
  have hqueue : (s.pushCommand i channel req).queueLength channel' =
      if channel' = channel then task.queue.length + 1 else s.queueLength channel' := by
    calc
      _ = (s.updateTask channel fun task ↦ { task with
            queue := task.queue ++ [⟨req.register, req.value, i⟩] }).queueLength channel' := rfl
      _ = _ := by rw [queueLength_updateTask htask, List.length_append, List.length_singleton]
  have hroom := h channel'
  simp only [hphase, RequestPhase.sendsTo, RequestPhase.sending.injEq, reduceCtorEq, if_false]
    at htotal
  rw [hqueue]
  split
  case isTrue heq =>
      subst heq
      have hlength : s.queueLength channel' = task.queue.length := by simp [queueLength, htask]
      rw [if_pos rfl] at htotal
      omega
  case isFalse hne =>
      rw [if_neg (Ne.symm hne)] at htotal
      omega

/-! ## Steps -/

/-- **Step lemma.** Room is kept by every step that starts to send only with room. -/
theorem hasRoom_effect {label : Label} (hguard : s.sendsWithRoom label) (h : s.HasRoom)
    (heffect : Effect socketAddr s label t) : t.HasRoom := by
  cases heffect with
  | register config configured persisted hcreated hnext => exact h.spawnTask config
  | skip configured persisted => exact h
  | arrive call =>
      refine h.of_le (fun _ ↦ le_rfl) fun channel ↦ ?_
      simp [senders, RequestPhase.sendsTo]
  | answer table response hrequest hphase hwrite => exact h.setPhase hrequest fun _ ↦ rfl
  | createNew hrequest => exact h.setPhase hrequest fun _ ↦ rfl
  | createAgain hrequest hhandle => exact h.setPhase hrequest fun _ ↦ rfl
  | spawn hrequest => exact (h.spawnTask _).setPhase hrequest fun _ ↦ rfl
  | panic hrequest => exact h.setPhase hrequest fun _ ↦ rfl
  | registerAdded hrequest => exact h.setPhase hrequest fun _ ↦ rfl
  | registerConnected response hrequest hhandle => exact h.setPhase hrequest fun _ ↦ rfl
  | registerGone response hrequest hgone => exact h.setPhase hrequest fun _ ↦ rfl
  | remove hrequest hhandle => exact (h.abort _).setPhase hrequest fun _ ↦ rfl
  | disconnect response hrequest hhandle => exact (h.abort _).setPhase hrequest fun _ ↦ rfl
  | @send i now claims req handle hrequest hhandle hwritable =>
      intro channel
      have htotal := senders_setPhase hrequest (.sending handle.writeTx) channel
      have hroom := h channel
      have hlength : (s.setPhase i (.sending handle.writeTx)).queueLength channel =
          s.queueLength channel := rfl
      simp only [sendsWithRoom, hrequest, hhandle, Option.all_some, Bool.or_eq_true,
        Bool.not_eq_true', decide_eq_true_eq, List.contains_iff_mem, hwritable, ← Bool.not_eq_true,
        not_true_eq_false, false_or] at hguard
      simp only [RequestPhase.sendsTo, RequestPhase.sending.injEq, reduceCtorEq, if_false] at htotal
      rw [hlength]
      split at htotal
      case isTrue heq =>
          subst heq
          omega
      case isFalse => omega
  | push hrequest htask hroom => exact h.pushCommand hrequest rfl htask _
  | succeed hrequest => exact h.setPhase hrequest fun _ ↦ rfl
  | audit hrequest => exact h.setPhase hrequest fun _ ↦ rfl
  | cancel hrequest hphase => exact h.setPhase hrequest fun _ ↦ rfl
  | move phase htask hfrom hto => exact h.updateTask fun _ _ ↦ le_rfl
  | receive htask hphase hqueue =>
      refine h.updateTask fun task htask' ↦ ?_
      obtain rfl := Option.some.inj (htask.symm.trans htask')
      simp [hqueue]
  | accept htask hphase => exact h.updateTask fun _ _ ↦ le_rfl
  | written htask hphase => exact (h.setTaskPhase _ _).reply _ _
  | writeFailed error connected htask hphase => exact (h.setTaskPhase _ _).reply [_] (.err error)
  | finish htask hevent => exact (h.updateTask fun _ _ ↦ Nat.zero_le _).reply _ _
  | acceptLate hwrite => exact h

/-! ## Progress of the lock -/

/-- With room in every channel no handler waits for it. -/
theorem HasRoom.not_waitsForRoom (h : s.HasRoom) (i : ℕ) : ¬s.WaitsForRoom i := by
  rintro ⟨request, channel, task, hrequest, hphase, htask, -, hfull⟩
  have hroom := h channel
  have hlength : s.queueLength channel = task.queue.length := by simp [queueLength, htask]
  have hsender : request.phase.sendsTo channel ≤ s.senders channel :=
    ListUpdate.le_sum_map hrequest fun request ↦ request.phase.sendsTo channel
  rw [hphase, RequestPhase.sendsTo, if_pos rfl] at hsender
  omega

/-- A handler that holds the lock has a step of its own, which gives the lock up. -/
theorem exists_step_of_holdsLock (socketAddr : String → Bool) (overflowChecks : Bool)
    (hroom : s.HasRoom) (hrouted : s.Routed fun _ _ ↦ True)
    (hrequest : s.requests[i]? = some request) (hholds : request.holdsLock) :
    ∃ t phase, step socketAddr overflowChecks s (.advance i 0) = some t ∧
      t.requests = (s.setPhase i phase).requests ∧
      (DeviceRequest.mk request.call phase).holdsLock = false := by
  obtain ⟨call, phase⟩ := request
  have hok := hrouted.request i _ hrequest
  cases phase with
  | sending channel =>
      cases call with
      | postWrite claims req =>
          obtain ⟨config, hconfig, -, -⟩ := hok
          obtain ⟨task, htask, -⟩ : ∃ task, s.tasks[channel]? = some task ∧ task.config = config := by
            simpa [configs] using hconfig
          have hadvance : step socketAddr overflowChecks s (.advance i 0) =
              s.postWrite i claims req 0 (.sending channel) := by
            simp [step, advance, hrequest]
          rw [hadvance, postWrite, htask, Option.bind_some]
          cases hfinished : task.isFinished with
          | true => exact ⟨_, _, rfl, rfl, rfl⟩
          | false =>
              have hlt : task.queue.length < channelCapacity := by
                by_contra hfull
                exact hroom.not_waitsForRoom i
                  ⟨_, channel, task, hrequest, rfl, htask, hfinished, not_lt.mp hfull⟩
              rw [if_neg Bool.false_ne_true, if_pos hlt]
              exact ⟨_, .waiting none, rfl, rfl, rfl⟩
      | addDevice req => exact hok.elim
      | removeDevice deviceId => exact hok.elim
      | disconnectDevice deviceId => exact hok.elim
      | connectDevice deviceId => exact hok.elim
  | deleting =>
      cases call with
      | removeDevice deviceId =>
          have hadvance : step socketAddr overflowChecks s (.advance i 0) =
              s.removeDevice i deviceId .deleting := by
            simp [step, advance, hrequest]
          rw [hadvance]
          exact ⟨_, _, rfl, rfl, rfl⟩
      | addDevice req => exact hok.elim
      | disconnectDevice deviceId => exact hok.elim
      | connectDevice deviceId => exact hok.elim
      | postWrite claims req => exact hok.elim
  | ready => cases hholds
  | creating config => cases hholds
  | registering config task => cases hholds
  | saving config => cases hholds
  | waiting reply => cases hholds
  | auditing => cases hholds
  | done response => cases hholds

/-- A handler that holds the lock is past its check. -/
theorem sendsWithRoom_of_holdsLock (hrequest : s.requests[i]? = some request)
    (hholds : request.holdsLock) (now : Instant) : s.sendsWithRoom (.advance i now) := by
  simp only [sendsWithRoom, hrequest]
  split
  case h_1 heq =>
      obtain rfl := Option.some.inj heq
      cases hholds
  case h_2 => rfl

/-- The number of handlers that hold the lock. -/
def holders (s : DeviceRuntime) : ℕ :=
  (s.requests.map fun request ↦ if request.holdsLock then 1 else 0).sum

theorem canWrite_of_holders_eq_zero (h : s.holders = 0) : s.canWrite = true := by
  rw [canWrite, List.all_eq_true]
  intro request hmem
  have hzero := List.sum_eq_zero_iff.mp h _ (List.mem_map_of_mem hmem)
  simpa [DeviceRequest.holdsLock, and_comm] using hzero

theorem exists_holder_of_pos (h : 0 < s.holders) :
    ∃ (i : ℕ) (request : DeviceRequest), s.requests[i]? = some request ∧ request.holdsLock := by
  by_contra hnone
  have hzero : s.holders = 0 := by
    apply List.sum_eq_zero
    intro n hn
    obtain ⟨request, hmem, rfl⟩ := List.mem_map.mp hn
    obtain ⟨i, hi⟩ := List.getElem?_of_mem hmem
    exact if_neg fun hholds ↦ hnone ⟨i, request, hi, hholds⟩
  omega

/-- The holders give the lock up one after the other. -/
theorem HasRoom.lockReleasable (hroom : s.HasRoom) (hrouted : s.Routed fun _ _ ↦ True) :
    s.LockReleasable socketAddr overflowChecks := by
  induction hn : s.holders generalizing s with
  | zero => exact ⟨[], s, rfl, canWrite_of_holders_eq_zero hn, by simp⟩
  | succ n ih =>
      have hpos : 0 < s.holders := by omega
      obtain ⟨i, request, hrequest, hholds⟩ := exists_holder_of_pos hpos
      obtain ⟨t, phase, hstep, hrequests, hreleased⟩ := exists_step_of_holdsLock socketAddr
        overflowChecks hroom hrouted hrequest hholds
      have heffect := effect_of_step hstep
      have hguard := sendsWithRoom_of_holdsLock hrequest hholds 0
      have htotal : t.holders + 1 = s.holders := by
        have hsum := ListUpdate.sum_map_modify hrequest (fun r ↦ { r with phase := phase })
          fun r ↦ if r.holdsLock then 1 else 0
        simp only [hholds, hreleased, if_true, Bool.false_eq_true, if_false] at hsum
        rw [holders, hrequests, setPhase_requests]
        exact hsum
      obtain ⟨labels, u, hexec, hfree, hlabels⟩ := ih (hasRoom_effect hguard hroom heffect)
        (routed_step hrouted hstep)
        (by omega)
      refine ⟨.advance i 0 :: labels, u, ?_, hfree, ?_⟩
      · rw [Transition.exec, List.foldlM_cons, hstep]
        exact hexec
      · intro label hmem
        rcases List.mem_cons.mp hmem with rfl | hmem
        · exact ⟨i, request, rfl, hrequest, hholds⟩
        · -- a handler that holds the lock now held it before
          obtain ⟨j, request', rfl, hj, hholds'⟩ := hlabels label hmem
          rw [hrequests, setPhase_requests, ListUpdate.getElem?_modify_of_some hrequest] at hj
          split at hj
          case isTrue =>
              obtain rfl := Option.some.inj hj
              rw [hreleased] at hholds'
              cases hholds'
          case isFalse => exact ⟨j, request', rfl, hj, hholds'⟩

theorem hasRoom_init (configured deviceTable : List DeviceConfig) :
    (init configured deviceTable).HasRoom := fun _ ↦ Nat.zero_le _

variable {configured deviceTable : List DeviceConfig} {labels : List Label}

/-- **The lock never waits for a PLC.** While write requests start to send only with room in the
channel, no handler ever waits for room with the lock in its hands, and from every state the
handlers that hold the lock can release it without a PLC or a polling task. -/
theorem lock_independent_of_plc
    (hrun : Transition.Run (Transition.guarded (fun s label ↦ s.sendsWithRoom label)
      (Transition.ofOption (step socketAddr overflowChecks))) (init configured deviceTable)
      labels s) :
    (∀ i, ¬s.WaitsForRoom i) ∧ s.LockReleasable socketAddr overflowChecks := by
  have hroom : s.HasRoom :=
    hrun.invariant (hasRoom_init configured deviceTable) fun u label v hu hstep ↦
      hasRoom_effect hstep.1 hu (effect_of_step hstep.2)
  exact ⟨hroom.not_waitsForRoom, hroom.lockReleasable (routed_of_run hrun.of_guarded)⟩

/-! ## Runs -/

/-- Write requests that queue their commands in the channel of a device that is not connected. -/
def queueWrites (first count : ℕ) : List Label :=
  (List.range' first count).flatMap fun i ↦
    handled i (.postWrite operatorClaims ⟨"plc-01", 1031, 2⟩) 2

/-- Two writes, the second with the lock in its hands. -/
def sendingRun : List Label :=
  handled 0 (.addDevice (reactor [1031])) 4 ++ queueWrites 1 1 ++
    handled 2 (.postWrite operatorClaims ⟨"plc-01", 1031, 3⟩) 1

theorem lock_independent_of_plc_sendingRun :
    ∃ s, Transition.exec (step (fun _ ↦ true) true) (init [] []) sendingRun = some s ∧
      (∀ i, ¬s.WaitsForRoom i) ∧ s.LockReleasable (fun _ ↦ true) true := by
  obtain ⟨s, hrun⟩ := @Transition.exists_run_guarded _ _ (init [] []) (step (fun _ ↦ true) true)
    (fun s label ↦ s.sendsWithRoom label) _ sendingRun (by decide)
  exact ⟨s, Transition.run_ofOption_iff.mp hrun.of_guarded, lock_independent_of_plc hrun⟩

/-- The thirty-third write to a device that does not answer. -/
def fullChannelRun : List Label :=
  handled 0 (.addDevice (reactor [1031])) 4 ++ queueWrites 1 32 ++
    handled 33 (.postWrite operatorClaims ⟨"plc-01", 1031, 2⟩) 1

theorem fullChannelRun_waits :
    ∃ s, Transition.exec (step (fun _ ↦ true) true) (init [] []) fullChannelRun = some s ∧
      ¬∀ i, ¬s.WaitsForRoom i := by
  apply @Transition.exists_exec_not _ _ _ _ _ fun s ↦
    !((s.requests[33]?.any fun request ↦ request.phase == .sending 0) &&
      s.tasks[0]?.any fun task ↦ !task.isFinished && channelCapacity ≤ task.queue.length)
  · intro s hnone
    rw [Bool.not_eq_true', ← Bool.not_eq_true, Bool.and_eq_true, Option.any_eq_true,
      Option.any_eq_true]
    rintro ⟨⟨request, hrequest, hphase⟩, task, htask, hfull⟩
    rw [Bool.and_eq_true, Bool.not_eq_true', decide_eq_true_eq] at hfull
    exact hnone 33 ⟨request, 0, task, hrequest, by simpa using hphase, htask, hfull⟩
  · decide

end DeviceRuntime

end VyuhHmi
