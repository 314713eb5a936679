import VyuhHmi.Batch.Lifecycle

/-!
# At most one running batch

A task that ends in the middle of a batch leaves a running record behind, and the next task knows
nothing of it.  No second record joins it: a task that has not yet closed the leftover record has
counted no start since the phase was last idle, so its next start is its first, whose id the table
already holds.
-/

namespace VyuhHmi

variable {overflowChecks : Bool} {deviceId : String} {batches : BatchTable}

/-- How many records of the device are running. -/
def runningCount (deviceId : String) (batches : BatchTable) : ℕ :=
  batches.count (BatchRecord.runningOf deviceId)

/-- The task remembers no phase in which a batch would be under way. -/
def BatchTracking.Settled (tracking : BatchTracking) : Prop :=
  tracking.prevBatchState = none ∨ tracking.prevBatchState = some batchIdle ∨
    tracking.prevBatchState = some batchComplete

/-- What every poll keeps: at most one record runs; a task that is settled beside a running record
has counted no start; and the first id of all is taken once there is a record or a counted
start. -/
structure OneRunning (deviceId : String) (run : BatchRun) : Prop where
  atMostOne : runningCount deviceId run.batches ≤ 1
  leftover : ∀ tracking, run.tracking = some tracking → tracking.Settled →
    0 < runningCount deviceId run.batches → tracking.batchCounter = 0
  firstTaken : run.batches.batchIds ≠ [] ∨
      (∃ tracking, run.tracking = some tracking ∧ tracking.batchCounter ≠ 0) →
    batchIdFor deviceId 1 ∈ run.batches.batchIds

/-! ## Table operations -/

/-- Closing the only running record leaves none. -/
theorem runningCount_closeRunningBatch (hone : runningCount deviceId batches ≤ 1)
    {status : BatchStatus} (hstatus : status ≠ .running) (notes : Option String) (now : Instant) :
    runningCount deviceId (closeRunningBatch batches deviceId status notes now) = 0 := by
  obtain ⟨closes, hrows, -, hall⟩ := rows_closeRunningBatch batches deviceId status notes now
  apply Nat.eq_zero_of_not_pos
  intro hpos
  obtain ⟨row', hmem, hrunning⟩ := RowTable.count_pos_iff.mp hpos
  rw [hrows] at hmem
  obtain ⟨row, hrow, rfl⟩ := List.mem_map.mp hmem
  split at hrunning
  case isTrue =>
      -- the closed record no longer runs
      simp [BatchRecord.runningOf, BatchRecord.withStatus, hstatus] at hrunning
  case isFalse hkept => exact hkept (hall hone row hrow hrunning)

/-- An insert adds one running record at most. -/
theorem runningCount_createBatch_le (batchId recipeName operator : String) (now : Instant) :
    runningCount deviceId (createBatch batches batchId recipeName deviceId operator now).1 ≤
      runningCount deviceId batches + 1 := by
  by_cases hmem : batchId ∈ batches.batchIds
  · rw [createBatch_of_mem hmem]
    exact Nat.le_succ _
  · unfold runningCount RowTable.count
    rw [rows_createBatch_of_notMem hmem, List.countP_append]
    exact Nat.add_le_add_left (List.countP_le_length.trans (by simp)) _

/-! ## One poll -/

/-- The task before a start was settled, and a settled task compares with its own phase. -/
theorem settled_of_getD {tracking : BatchTracking} {poll : BatchPoll} {phase : UInt16}
    (hphase : phase = batchIdle ∨ phase = batchComplete)
    (hprev : tracking.prevBatchState.getD poll.batchState = phase) : tracking.Settled := by
  unfold BatchTracking.Settled
  cases hcases : tracking.prevBatchState with
  | none => exact .inl rfl
  | some prev =>
      rw [hcases, Option.getD_some] at hprev
      rcases hphase with rfl | rfl
      · exact .inr (.inl (congrArg some hprev))
      · exact .inr (.inr (congrArg some hprev))

theorem not_settled_heating (batchCounter : UInt32) :
    ¬ (BatchTracking.mk (some batchHeating) batchCounter).Settled := by
  simp [BatchTracking.Settled, batchHeating, batchIdle, batchComplete]

theorem batchIds_ne_nil_of_running (hpos : 0 < runningCount deviceId batches) :
    batches.batchIds ≠ [] := by
  obtain ⟨row, hmem, -⟩ := RowTable.count_pos_iff.mp hpos
  exact List.ne_nil_of_mem (List.mem_map_of_mem hmem)

/-- A start after idle, with the counter that it gets. -/
theorem OneRunning.start {tracking : BatchTracking} {batchCounter : UInt32} {now : Instant}
    (h : OneRunning deviceId ⟨some tracking, batches⟩) (hsettled : tracking.Settled)
    (hcounter : nextBatchCounter overflowChecks tracking.batchCounter = some batchCounter) :
    OneRunning deviceId ⟨some ⟨some batchHeating, batchCounter⟩,
      (createBatch batches (batchIdFor deviceId batchCounter) "Reactor Cycle" deviceId "system"
        now).1⟩ := by
  have hfirst (hzero : tracking.batchCounter = 0) : batchCounter = 1 := by
    rw [hzero] at hcounter
    cases overflowChecks <;> exact (Option.some.inj hcounter).symm
  refine ⟨?_, fun _ heq hnot ↦ ?_, fun _ ↦ ?_⟩
  · by_cases hmem : batchIdFor deviceId batchCounter ∈ batches.batchIds
    · rw [createBatch_of_mem hmem]
      exact h.atMostOne
    · -- a record that is still running would make this the first start, and the first id is taken
      have hnone : runningCount deviceId batches = 0 := by
        apply Nat.eq_zero_of_not_pos
        intro hpos
        rw [hfirst (h.leftover tracking rfl hsettled hpos)] at hmem
        exact hmem (h.firstTaken (.inl (batchIds_ne_nil_of_running hpos)))
      calc
        _ ≤ runningCount deviceId batches + 1 := runningCount_createBatch_le _ _ _ _
        _ = 1 := by rw [hnone]
  · obtain rfl := Option.some.inj heq
    exact absurd hnot (not_settled_heating batchCounter)
  · rw [mem_batchIds_createBatch]
    by_cases hzero : tracking.batchCounter = 0
    · rw [hfirst hzero]
      exact .inr rfl
    · exact .inl (h.firstTaken (.inr ⟨tracking, rfl, hzero⟩))

/-- A poll that sees no start, with the counter that it keeps. -/
theorem OneRunning.noStart {tracking : BatchTracking} {poll : BatchPoll} {prev : UInt16}
    (h : OneRunning deviceId ⟨some tracking, batches⟩)
    (hprev : tracking.prevBatchState.getD poll.batchState = prev)
    (hstart : ¬(prev = batchIdle ∧ poll.batchState = batchHeating)) :
    OneRunning deviceId ⟨some ⟨some poll.batchState, tracking.batchCounter⟩,
      recordTransitions deviceId prev poll tracking.batchCounter batches⟩ := by
  have hfirst : (recordTransitions deviceId prev poll tracking.batchCounter batches).batchIds ≠ [] ∨
      (∃ tracking', some (BatchTracking.mk (some poll.batchState) tracking.batchCounter) =
        some tracking' ∧ tracking'.batchCounter ≠ 0) →
      batchIdFor deviceId 1 ∈
        (recordTransitions deviceId prev poll tracking.batchCounter batches).batchIds := by
    rw [batchIds_recordTransitions hstart]
    refine fun hsome ↦ h.firstTaken (hsome.imp_right ?_)
    rintro ⟨_, heq, hne⟩
    obtain rfl := Option.some.inj heq
    exact ⟨tracking, rfl, hne⟩
  have hclosed {status : BatchStatus} {notes : Option String} (hstatus : status ≠ .running)
      (heq : recordTransitions deviceId prev poll tracking.batchCounter batches =
        closeRunningBatch batches deviceId status notes poll.now) :
      OneRunning deviceId ⟨some ⟨some poll.batchState, tracking.batchCounter⟩,
        recordTransitions deviceId prev poll tracking.batchCounter batches⟩ := by
    have hnone : runningCount deviceId
        (recordTransitions deviceId prev poll tracking.batchCounter batches) = 0 := by
      rw [heq]
      exact runningCount_closeRunningBatch h.atMostOne hstatus notes poll.now
    refine ⟨by rw [hnone]; exact Nat.zero_le 1, fun _ _ _ hpos ↦ ?_, hfirst⟩
    rw [hnone] at hpos
    cases hpos
  rcases recordTransitions_cases hstart tracking.batchCounter batches with
    ⟨-, -, heq⟩ | ⟨-, -, -, heq⟩ | ⟨hidle, hcomplete, heq⟩
  · exact hclosed (by decide) heq
  · exact hclosed (by decide) heq
  · refine ⟨by rw [heq]; exact h.atMostOne, fun tracking' htracking' hsettled hpos ↦ ?_, hfirst⟩
    obtain rfl := Option.some.inj htracking'
    -- a poll that closes nothing and ends settled began settled
    have hbefore : tracking.Settled := by
      rcases hsettled with hnone | hnow | hnow
      · cases hnone
      · rcases hidle (Option.some.inj hnow) with rfl | rfl
        · exact settled_of_getD (.inl rfl) hprev
        · exact settled_of_getD (.inr rfl) hprev
      · rw [hcomplete (Option.some.inj hnow)] at hprev
        exact settled_of_getD (.inr rfl) hprev
    rw [heq] at hpos
    exact h.leftover tracking rfl hbefore hpos

/-- **One poll.** -/
theorem OneRunning.poll {run : BatchRun} (h : OneRunning deviceId run) (poll : BatchPoll) :
    OneRunning deviceId (run.poll overflowChecks deviceId poll) := by
  obtain ⟨tracking?, batches⟩ := run
  unfold BatchRun.poll
  cases tracking? with
  | none => exact h
  | some tracking =>
      dsimp only
      generalize hprev : tracking.prevBatchState.getD poll.batchState = prev
      split
      case h_1 => exact ⟨h.atMostOne, nofun, fun hsome ↦ h.firstTaken (hsome.imp_right nofun)⟩
      case h_2 batchCounter hcounter =>
          by_cases hstart : prev = batchIdle ∧ poll.batchState = batchHeating
          · obtain ⟨rfl, hheating⟩ := hstart
            rw [recordTransitions_start hheating, hheating]
            rw [countedStarts, hheating] at hcounter
            exact h.start (settled_of_getD (.inl rfl) hprev) hcounter
          · have hkept : tracking.batchCounter = batchCounter := by
              unfold countedStarts at hcounter
              rw [if_neg (by simpa using hstart)] at hcounter
              exact Option.some.inj hcounter
            rw [← hkept]
            exact h.noStart hprev hstart

/-! ## Consecutive tasks -/

/-- A task that ends, wherever it does, leaves what the next one starts from. -/
theorem OneRunning.restart {run : BatchRun} (h : OneRunning deviceId run) :
    OneRunning deviceId (.start run.batches) := by
  refine ⟨h.atMostOne, fun tracking heq _ _ ↦ ?_, fun hsome ↦ h.firstTaken (.inl ?_)⟩
  · obtain rfl := Option.some.inj heq
    rfl
  · rcases hsome with hids | ⟨tracking, heq, hne⟩
    · exact hids
    · obtain rfl := Option.some.inj heq
      exact absurd rfl hne

theorem OneRunning.runTask (h : OneRunning deviceId (.start batches)) (polls : List BatchPoll) :
    OneRunning deviceId (runTask overflowChecks deviceId batches polls) := by
  induction polls using List.reverseRecOn with
  | nil => exact h
  | append_singleton before poll ih =>
      rw [runTask_append_singleton]
      exact ih.poll poll

theorem OneRunning.runTasks (overflowChecks : Bool) (deviceId : String)
    (tasks : List (List BatchPoll)) :
    OneRunning deviceId (.start (runTasks overflowChecks deviceId .empty tasks)) := by
  induction tasks using List.reverseRecOn with
  | nil =>
      refine ⟨Nat.zero_le 1, fun _ _ _ hpos ↦ absurd hpos (lt_irrefl 0), ?_⟩
      rintro (hids | ⟨tracking, heq, hne⟩)
      · exact absurd rfl hids
      · obtain rfl := Option.some.inj heq
        exact absurd rfl hne
  | append_singleton tasks polls ih =>
      rw [runTasks_append_singleton]
      exact (OneRunning.runTask ih polls).restart

/-- **At most one running record.** After any polls of any number of consecutive tasks, the last of
them perhaps cut short, the table holds at most one running record of the device. -/
theorem runningCount_runTasks_le_one (overflowChecks : Bool) (deviceId : String)
    (tasks : List (List BatchPoll)) :
    runningCount deviceId (runTasks overflowChecks deviceId .empty tasks) ≤ 1 :=
  (OneRunning.runTasks overflowChecks deviceId tasks).atMostOne

end VyuhHmi
