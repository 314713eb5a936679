import VyuhHmi.Batch.Tracking

/-!
# Batch records over task restarts

A start that gets a record keeps it: until the phase is idle or complete again no poll changes the
table, so the poll that sees complete closes exactly that record.  What can fail is the insert.  A
fresh task counts from one again, so its first start reuses the first id of every earlier task, and
the `UNIQUE` constraint drops the new record.
-/

namespace VyuhHmi

variable {overflowChecks : Bool} {deviceId : String} {batches : BatchTable}

/-- The records after the first polls of a task. -/
def rowsAfter (overflowChecks : Bool) (deviceId : String) (batches : BatchTable)
    (seen : List BatchPoll) : List BatchRecord :=
  (runTask overflowChecks deviceId batches seen).batches.rows

/-- The poll `start` after `before` inserts a running record of the device, and the first later
poll that sees complete, with no idle before it, marks exactly that record completed. -/
def RecordsBatch (overflowChecks : Bool) (deviceId : String) (batches : BatchTable)
    (polls before : List BatchPoll) (start : BatchPoll) : Prop :=
  let rows := rowsAfter overflowChecks deviceId batches
  ∃ record : BatchRecord, record.deviceId = deviceId ∧ record.status = .running ∧
    rows (before ++ [start]) = rows before ++ [record] ∧
    ∀ between finish, before ++ [start] ++ between ++ [finish] <+: polls →
      (∀ poll ∈ between, poll.batchState ≠ batchIdle ∧ poll.batchState ≠ batchComplete) →
      finish.batchState = batchComplete →
        record ∈ rows (before ++ [start] ++ between) ∧
          rows (before ++ [start] ++ between ++ [finish]) =
            (rows (before ++ [start] ++ between)).map fun r ↦
              if r.id = record.id then r.withStatus .completed none finish.now else r

/-- Every start that the task sees is recorded. -/
def TracksBatches (overflowChecks : Bool) (deviceId : String) (batches : BatchTable)
    (polls : List BatchPoll) : Prop :=
  ∀ before start, before ++ [start] <+: polls → StartsBatch before start →
    RecordsBatch overflowChecks deviceId batches polls before start

/-- The largest number of starts that one task can number without panicking or repeating. -/
def startLimit (overflowChecks : Bool) : ℕ := if overflowChecks then 2 ^ 32 - 1 else 2 ^ 32

/-- The ids that the starts of a task get are few enough to be distinct and not taken. -/
def BatchIdsFree (overflowChecks : Bool) (deviceId : String) (batches : BatchTable)
    (polls : List BatchPoll) : Prop :=
  startCount polls ≤ startLimit overflowChecks ∧
    ∀ n, 0 < n → n ≤ startCount polls →
      batchIdFor deviceId (UInt32.ofNat n) ∉ batches.batchIds

/-! ## Between a start and its completion -/

/-- While the phase is neither idle nor complete, a task changes nothing but its memory of the
phase. -/
theorem foldl_poll_quiet (overflowChecks : Bool) (deviceId : String) {between : List BatchPoll}
    (hquiet : ∀ poll ∈ between, poll.batchState ≠ batchIdle ∧ poll.batchState ≠ batchComplete)
    {prev : UInt16} (hprev : prev ≠ batchIdle ∧ prev ≠ batchComplete) (batchCounter : UInt32)
    (batches : BatchTable) :
    ∃ last, (last ≠ batchIdle ∧ last ≠ batchComplete) ∧
      between.foldl (BatchRun.poll overflowChecks deviceId) ⟨some ⟨some prev, batchCounter⟩, batches⟩
        = ⟨some ⟨some last, batchCounter⟩, batches⟩ := by
  induction between generalizing prev with
  | nil => exact ⟨prev, hprev, rfl⟩
  | cons poll between ih =>
      have hpoll := hquiet poll List.mem_cons_self
      have hstep : BatchRun.poll overflowChecks deviceId ⟨some ⟨some prev, batchCounter⟩, batches⟩ poll
          = ⟨some ⟨some poll.batchState, batchCounter⟩, batches⟩ := by
        simp [BatchRun.poll, countedStarts, recordTransitions, hprev, hpoll]
      rw [List.foldl_cons, hstep]
      exact ih (fun poll' hmem ↦ hquiet poll' (List.mem_cons_of_mem poll hmem)) hpoll

/-- The record of a start is the one that the next completion closes. -/
theorem completes_latest (overflowChecks : Bool) {run : BatchRun} {older : List BatchRecord}
    {record : BatchRecord}
    {batchCounter : UInt32} (htracking : run.tracking = some ⟨some batchHeating, batchCounter⟩)
    (hrows : run.batches.rows = older ++ [record]) (hrunning : record.runningOf deviceId)
    {between : List BatchPoll}
    (hquiet : ∀ poll ∈ between, poll.batchState ≠ batchIdle ∧ poll.batchState ≠ batchComplete)
    {finish : BatchPoll} (hfinish : finish.batchState = batchComplete) :
    (between.foldl (BatchRun.poll overflowChecks deviceId) run).batches.rows = run.batches.rows ∧
      ((between ++ [finish]).foldl (BatchRun.poll overflowChecks deviceId) run).batches.rows =
        run.batches.rows.map fun r ↦
          if r.id = record.id then r.withStatus .completed none finish.now else r := by
  obtain ⟨tracking, batches⟩ := run
  dsimp only at htracking hrows
  subst htracking
  obtain ⟨last, hlast, hfold⟩ := foldl_poll_quiet overflowChecks deviceId hquiet
    (by decide : batchHeating ≠ batchIdle ∧ batchHeating ≠ batchComplete) batchCounter batches
  obtain ⟨hget, hupdate⟩ := updateBatchStatus_latest hrows hrunning .completed none finish.now
  constructor
  · rw [hfold]
  · rw [List.foldl_append, hfold]
    have hcomplete : batchComplete ≠ batchIdle := by decide
    have hheating : batchComplete ≠ batchHeating := by decide
    simp [BatchRun.poll, countedStarts, recordTransitions, closeRunningBatch, hlast, hfinish, hget,
      hcomplete, hheating, hupdate]

/-- The poll whose start count panics leaves the table alone. -/
theorem batches_runTask_of_panic {before : List BatchPoll} {start : BatchPoll}
    (hpanic : ¬Survives overflowChecks (before ++ [start])) :
    (runTask overflowChecks deviceId batches (before ++ [start])).batches =
      (runTask overflowChecks deviceId batches before).batches := by
  rw [Survives, Classical.not_imp, not_lt] at hpanic
  have htracking := tracking_runTask overflowChecks deviceId batches (before ++ [start])
  rw [if_pos hpanic] at htracking
  rw [runTask_append_singleton, BatchRun.poll] at htracking ⊢
  split
  case h_1 => rfl
  case h_2 tracking hlive =>
      rw [hlive] at htracking
      dsimp only at htracking ⊢
      split at htracking
      case h_1 => rfl
      case h_2 => cases htracking

theorem recordsBatch_of_fresh {polls before : List BatchPoll} {start : BatchPoll}
    (hstart : StartsBatch before start) (halive : Survives overflowChecks (before ++ [start]))
    (hfresh : batchIdFor deviceId (UInt32.ofNat (startCount (before ++ [start]))) ∉
      (runTask overflowChecks deviceId batches before).batches.batchIds) :
    RecordsBatch overflowChecks deviceId batches polls before start := by
  obtain ⟨hidle, hheating⟩ := startsBatch_iff.mp hstart
  let record := newBatch (batchIdFor deviceId (UInt32.ofNat (startCount (before ++ [start]))))
    "Reactor Cycle" deviceId "system" start.now
    ((runTask overflowChecks deviceId batches before).batches.seq + 1)
  have hpoll := @runTask_poll _ deviceId batches _ _ halive
  rw [hidle, recordTransitions_start hheating, hheating] at hpoll
  have hrows : rowsAfter overflowChecks deviceId batches (before ++ [start]) =
      rowsAfter overflowChecks deviceId batches before ++ [record] := by
    unfold rowsAfter
    rw [hpoll]
    exact rows_createBatch_of_notMem hfresh "Reactor Cycle" deviceId "system" start.now
  have hrunning : record.runningOf deviceId := by simp [record, BatchRecord.runningOf, newBatch]
  refine ⟨record, rfl, rfl, hrows, fun between finish _ hquiet hfinish ↦ ?_⟩
  have hsplit (rest : List BatchPoll) :
      runTask overflowChecks deviceId batches (before ++ [start] ++ rest) =
        rest.foldl (BatchRun.poll overflowChecks deviceId)
          (runTask overflowChecks deviceId batches (before ++ [start])) := by
    simp only [runTask, List.foldl_append]
  obtain ⟨hbetween, hcompleted⟩ := completes_latest overflowChecks (congrArg BatchRun.tracking hpoll)
    hrows hrunning hquiet hfinish
  unfold rowsAfter at hrows ⊢
  rw [List.append_assoc (before ++ [start]), hsplit, hsplit, hbetween, hcompleted]
  exact ⟨by simp [hrows], rfl⟩

/-- **One start.** A start is recorded exactly when the task survives it and its id is not
taken. -/
theorem recordsBatch_iff {polls before : List BatchPoll} {start : BatchPoll}
    (hstart : StartsBatch before start) :
    RecordsBatch overflowChecks deviceId batches polls before start ↔
      Survives overflowChecks (before ++ [start]) ∧
        batchIdFor deviceId (UInt32.ofNat (startCount (before ++ [start]))) ∉
          (runTask overflowChecks deviceId batches before).batches.batchIds := by
  obtain ⟨hidle, hheating⟩ := startsBatch_iff.mp hstart
  constructor
  · rintro ⟨record, -, -, hrows, -⟩
    have hchanged : (runTask overflowChecks deviceId batches (before ++ [start])).batches ≠
        (runTask overflowChecks deviceId batches before).batches := by
      intro hsame
      unfold rowsAfter at hrows
      rw [hsame] at hrows
      simpa using congrArg List.length hrows
    have halive : Survives overflowChecks (before ++ [start]) := by
      by_contra hpanic
      exact hchanged (batches_runTask_of_panic hpanic)
    refine ⟨halive, fun hmem ↦ hchanged ?_⟩
    rw [runTask_poll halive, hidle, recordTransitions_start hheating, createBatch_of_mem hmem]
  · rintro ⟨halive, hfresh⟩
    exact recordsBatch_of_fresh hstart halive hfresh

/-! ## One task -/

theorem ofNat_inj_of_le {m n : ℕ} (hm : 0 < m) (hn : n ≤ 2 ^ 32) (hlt : m < n) :
    UInt32.ofNat n ≠ UInt32.ofNat m := by
  intro h
  have hnat := congrArg UInt32.toNat h
  rw [UInt32.toNat_ofNat', UInt32.toNat_ofNat'] at hnat
  omega

/-- A start that the task records has a number below the limit and an id of its own. -/
theorem number_of_recorded {polls : List BatchPoll}
    (h : TracksBatches overflowChecks deviceId batches polls) {n : ℕ} (hpos : 0 < n)
    (hle : n ≤ startCount polls) :
    (overflowChecks = true → n < 2 ^ 32) ∧
      batchIdFor deviceId (UInt32.ofNat n) ∉ batches.batchIds ∧
      ∀ m, 0 < m → m < n → UInt32.ofNat n ≠ UInt32.ofNat m := by
  obtain ⟨before, start, hpre, hstart, rfl⟩ := exists_start_of_le_startCount hpos hle
  have hcount : startCount (before ++ [start]) = startCount before + 1 := by
    rw [startCount_append_singleton, if_pos hstart]
  obtain ⟨halive, hfresh⟩ := (recordsBatch_iff hstart).mp (h before start hpre hstart)
  rw [mem_batchIds_runTask (halive.of_prefix (List.prefix_append before [start])), hcount,
    not_or] at hfresh
  refine ⟨fun hchecks ↦ hcount ▸ halive hchecks, hfresh.1, fun m hm hlt heq ↦ hfresh.2 ?_⟩
  exact ⟨m, hm, by omega, by rw [heq]⟩

/-- **One task.** A task records every start it sees exactly when its ids are free. -/
theorem tracksBatches_iff (polls : List BatchPoll) :
    TracksBatches overflowChecks deviceId batches polls ↔
      BatchIdsFree overflowChecks deviceId batches polls := by
  constructor
  · intro h
    refine ⟨?_, fun n hpos hle ↦ (number_of_recorded h hpos hle).2.1⟩
    by_contra hover
    rw [not_le] at hover
    unfold startLimit at hover
    split at hover
    case isTrue hchecks =>
        have htop := (@number_of_recorded _ _ _ _ h (2 ^ 32) (by norm_num) (by omega)).1 hchecks
        omega
    case isFalse =>
        -- the start after the last number gets the first number again
        have hfirst := (@number_of_recorded _ _ _ _ h (2 ^ 32 + 1) (by norm_num) (by omega)).2.2 1
          (by norm_num) (by norm_num)
        exact hfirst rfl
  · rintro ⟨hlimit, hfree⟩ before start hpre hstart
    have hcount : startCount (before ++ [start]) = startCount before + 1 := by
      rw [startCount_append_singleton, if_pos hstart]
    have hle := startCount_mono hpre
    have hbound : startCount before + 1 ≤ startLimit overflowChecks := by omega
    have halive : Survives overflowChecks (before ++ [start]) := by
      rintro rfl
      simp only [startLimit, if_true] at hbound
      omega
    have hsmall : startCount before + 1 ≤ 2 ^ 32 := by
      unfold startLimit at hbound
      split at hbound <;> omega
    rw [recordsBatch_iff hstart, hcount]
    refine ⟨halive, ?_⟩
    rw [mem_batchIds_runTask (halive.of_prefix (List.prefix_append before [start]))]
    rintro (hmem | ⟨n, hpos, hn, heq⟩)
    · exact hfree (startCount before + 1) (by omega) (by omega) hmem
    · exact ofNat_inj_of_le hpos hsmall (by omega) (batchIdFor_inj.mp heq)

/-! ## Consecutive tasks -/

theorem runTasks_append_singleton (earlier : List (List BatchPoll)) (polls : List BatchPoll) :
    runTasks overflowChecks deviceId batches (earlier ++ [polls]) =
      (runTask overflowChecks deviceId (runTasks overflowChecks deviceId batches earlier)
        polls).batches := by
  simp [runTasks, List.foldl_append]

/-- The batch ids that exist after some tasks: the old ones and those of every start of every
task. -/
theorem mem_batchIds_runTasks {tasks : List (List BatchPoll)}
    (hlive : ∀ polls ∈ tasks, Survives overflowChecks polls) {batchId : String} :
    batchId ∈ (runTasks overflowChecks deviceId batches tasks).batchIds ↔
      batchId ∈ batches.batchIds ∨ ∃ polls ∈ tasks, ∃ n, 0 < n ∧ n ≤ startCount polls ∧
        batchId = batchIdFor deviceId (UInt32.ofNat n) := by
  induction tasks using List.reverseRecOn with
  | nil => simp [runTasks]
  | append_singleton earlier polls ih =>
      have hearlier := ih fun other hmem ↦ hlive other (List.mem_append_left [polls] hmem)
      rw [runTasks_append_singleton, mem_batchIds_runTask (hlive polls (by simp)), hearlier]
      simp only [List.mem_append, List.mem_singleton, or_and_right, exists_or, exists_eq_left,
        or_assoc]

/-- The starts of a task are within the limit when it has any. -/
theorem survives_of_le_startLimit {polls : List BatchPoll}
    (h : 0 < startCount polls → startCount polls ≤ startLimit overflowChecks) :
    Survives overflowChecks polls := by
  rintro rfl
  simp only [startLimit, if_true] at h
  omega

/-- **Batch records over restarts.** In a run of consecutive polling tasks every start is recorded
and completed as it should be exactly when only one task sees starts, and that task's ids are free
in the table the run began with. -/
theorem runTasks_tracksBatches_iff (overflowChecks : Bool) (deviceId : String)
    (batches : BatchTable) (tasks : List (List BatchPoll)) :
    (∀ earlier polls, earlier ++ [polls] <+: tasks →
        TracksBatches overflowChecks deviceId
          (runTasks overflowChecks deviceId batches earlier) polls) ↔
      ∀ earlier polls, earlier ++ [polls] <+: tasks → 0 < startCount polls →
        (∀ other ∈ earlier, startCount other = 0) ∧
          BatchIdsFree overflowChecks deviceId batches polls := by
  simp only [tracksBatches_iff]
  -- a task is a member of the earlier ones when it ends a shorter prefix of the run
  have hprefix {earlier : List (List BatchPoll)} {polls other : List BatchPoll}
      (hpre : earlier ++ [polls] <+: tasks) (hmem : other ∈ earlier) :
      ∃ before, before ++ [other] <+: tasks := by
    obtain ⟨before, after, rfl⟩ := List.append_of_mem hmem
    refine ⟨before, List.IsPrefix.trans ⟨after ++ [polls], ?_⟩ hpre⟩
    simp
  constructor
  · intro h earlier polls hpre hpos
    have hlive : ∀ other ∈ earlier, Survives overflowChecks other := fun other hmem ↦ by
      obtain ⟨before, hother⟩ := hprefix hpre hmem
      exact survives_of_le_startLimit fun _ ↦ (h before other hother).1
    obtain ⟨hlimit, hfree⟩ := h earlier polls hpre
    have hfresh (n : ℕ) (hn : 0 < n) (hle : n ≤ startCount polls) := hfree n hn hle
    simp only [mem_batchIds_runTasks hlive, not_or] at hfresh
    refine ⟨fun other hmem ↦ ?_, hlimit, fun n hn hle ↦ (hfresh n hn hle).1⟩
    by_contra hsome
    -- both tasks number their first start one
    exact (hfresh 1 one_pos hpos).2 ⟨other, hmem, 1, one_pos, Nat.pos_of_ne_zero hsome, rfl⟩
  · intro h earlier polls hpre
    rcases Nat.eq_zero_or_pos (startCount polls) with hzero | hpos
    · refine ⟨by omega, fun n hn hle ↦ by omega⟩
    · obtain ⟨hnone, hlimit, hfree⟩ := h earlier polls hpre hpos
      have hlive : ∀ other ∈ earlier, Survives overflowChecks other := fun other hmem ↦
        survives_of_le_startLimit fun hstarts ↦ by
          have hzero := hnone other hmem
          omega
      refine ⟨hlimit, fun n hn hle ↦ ?_⟩
      rw [mem_batchIds_runTasks hlive]
      rintro (hmem | ⟨other, hmem, m, hm, hle', -⟩)
      · exact hfree n hn hle hmem
      · have hzero := hnone other hmem
        omega

/-- Idle, then heating. -/
def startingPolls : List BatchPoll := [⟨batchIdle, 0⟩, ⟨batchHeating, 1⟩]

/-- The second task's start gets the id of the first task's, and no record. -/
theorem restart_loses_batch :
    (¬ TracksBatches false "plc-01" (runTasks false "plc-01" .empty [startingPolls])
      startingPolls) ∧
    (¬ TracksBatches true "plc-01" (runTasks true "plc-01" .empty [startingPolls])
      startingPolls) := by
  simp only [tracksBatches_iff]
  constructor
  · rintro ⟨-, hfree⟩
    exact hfree 1 (by decide) (by decide) (by decide)
  · rintro ⟨-, hfree⟩
    exact hfree 1 (by decide) (by decide) (by decide)

end VyuhHmi
