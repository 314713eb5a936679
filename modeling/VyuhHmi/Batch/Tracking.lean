import Mathlib.Data.List.Induction
import VyuhHmi.Batch.Record

/-!
# Batch tracking

A polling task watches the batch phase that the PLC publishes in register 1032.  It opens a batch
record when the phase goes from idle to heating, and closes the device's latest running record when
the phase reaches complete or falls back to idle.  The number in a batch id counts the starts seen
by the task: it lives in the task's memory, while the ids it has to avoid live in the table.  The
results below say exactly when every start of a sequence of tasks gets a record of its own.
-/

namespace VyuhHmi

def batchIdle : UInt16 := 0

def batchHeating : UInt16 := 1

def batchComplete : UInt16 := 4

/-- One poll that has read register 1032. -/
structure BatchPoll where
  batchState : UInt16
  now : Instant
deriving DecidableEq

/-- Batch tracking state of a polling task. -/
structure BatchTracking where
  prevBatchState : Option UInt16
  batchCounter : UInt32
deriving DecidableEq

/-- `batch_counter += 1`: at the top of `u32` a build with overflow checks panics, any other
wraps. -/
def nextBatchCounter (overflowChecks : Bool) (batchCounter : UInt32) : Option UInt32 :=
  if overflowChecks && batchCounter == UInt32.ofNat (2 ^ 32 - 1) then none
  else some (batchCounter + 1)

/-- `{:04}`. -/
def paddedFour (n : ℕ) : String :=
  String.ofList (List.replicate (4 - (Nat.toDigits 10 n).length) '0' ++ Nat.toDigits 10 n)

/-- `BATCH-{}-{:04}`. -/
def batchIdFor (deviceId : String) (batchCounter : UInt32) : String :=
  "BATCH-" ++ deviceId ++ "-" ++ paddedFour batchCounter.toNat

/-- Give the latest running batch of a device, if any, a final status. -/
def closeRunningBatch (batches : BatchTable) (deviceId : String) (status : BatchStatus)
    (notes : Option String) (now : Instant) : BatchTable :=
  match getRunningBatch batches deviceId with
  | some (_, batchId) => updateBatchStatus batches batchId status notes now
  | none => batches

/-- The counter after a poll; `none` when counting the start panics. -/
def countedStarts (overflowChecks : Bool) (prev batchState : UInt16) (batchCounter : UInt32) :
    Option UInt32 :=
  if prev == batchIdle && batchState == batchHeating then
    nextBatchCounter overflowChecks batchCounter
  else some batchCounter

/-- The records after a poll, by the three transitions in the order of the source. -/
def recordTransitions (deviceId : String) (prev : UInt16) (poll : BatchPoll)
    (batchCounter : UInt32) (batches : BatchTable) : BatchTable :=
  let started :=
    if prev == batchIdle && poll.batchState == batchHeating then
      (createBatch batches (batchIdFor deviceId batchCounter) "Reactor Cycle" deviceId "system"
        poll.now).1
    else batches
  let completed :=
    if prev != batchComplete && poll.batchState == batchComplete then
      closeRunningBatch started deviceId .completed none poll.now
    else started
  if prev != batchIdle && prev != batchComplete && poll.batchState == batchIdle then
    closeRunningBatch completed deviceId .aborted (some "Emergency stop") poll.now
  else completed

/-- What a poll does to the tracking state of its task; `none` when it panics. -/
def BatchTracking.poll (overflowChecks : Bool) (tracking : BatchTracking) (batchState : UInt16) :
    Option BatchTracking :=
  (countedStarts overflowChecks (tracking.prevBatchState.getD batchState) batchState
    tracking.batchCounter).map fun batchCounter ↦ ⟨some batchState, batchCounter⟩

/-- A polling task and the records; the task is `none` once it has panicked. -/
structure BatchRun where
  tracking : Option BatchTracking
  batches : BatchTable

namespace BatchRun

/-- A fresh task. -/
def start (batches : BatchTable) : BatchRun := ⟨some ⟨none, 0⟩, batches⟩

/-- The batch block of one poll. -/
def poll (overflowChecks : Bool) (deviceId : String) (run : BatchRun) (poll : BatchPoll) :
    BatchRun :=
  match run.tracking with
  | none => run
  | some tracking =>
      let prev := tracking.prevBatchState.getD poll.batchState
      match countedStarts overflowChecks prev poll.batchState tracking.batchCounter with
      | none => { run with tracking := none }
      | some batchCounter =>
          { tracking := some ⟨some poll.batchState, batchCounter⟩
            batches := recordTransitions deviceId prev poll batchCounter run.batches }

end BatchRun

theorem BatchRun.tracking_poll (overflowChecks : Bool) (deviceId : String)
    (tracking : BatchTracking) (batches : BatchTable) (poll : BatchPoll) :
    (BatchRun.poll overflowChecks deviceId ⟨some tracking, batches⟩ poll).tracking =
      tracking.poll overflowChecks poll.batchState := by
  unfold BatchRun.poll BatchTracking.poll
  dsimp only
  split
  case h_1 hpanic => rw [hpanic, Option.map_none]
  case h_2 batchCounter hcount => rw [hcount, Option.map_some]

/-- One polling task from its start, over a given table. -/
def runTask (overflowChecks : Bool) (deviceId : String) (batches : BatchTable)
    (polls : List BatchPoll) : BatchRun :=
  polls.foldl (BatchRun.poll overflowChecks deviceId) (.start batches)

/-- Consecutive polling tasks of one device. -/
def runTasks (overflowChecks : Bool) (deviceId : String) (batches : BatchTable)
    (tasks : List (List BatchPoll)) : BatchTable :=
  tasks.foldl (fun batches polls ↦ (runTask overflowChecks deviceId batches polls).batches) batches

/-! ## Batch ids -/

theorem ofDigitChars_paddedFour (n : ℕ) : Nat.ofDigitChars 10 (paddedFour n).toList 0 = n := by
  simp [paddedFour, Nat.ofDigitChars_append, Nat.ofDigitChars_replicate_zero]

theorem batchIdFor_inj {deviceId : String} {c d : UInt32} :
    batchIdFor deviceId c = batchIdFor deviceId d ↔ c = d := by
  constructor
  · intro h
    have hpadded : paddedFour c.toNat = paddedFour d.toNat := by
      simpa [batchIdFor, String.ext_iff] using h
    have hnat : c.toNat = d.toNat := by
      calc
        c.toNat = Nat.ofDigitChars 10 (paddedFour c.toNat).toList 0 :=
          (ofDigitChars_paddedFour c.toNat).symm
        _ = Nat.ofDigitChars 10 (paddedFour d.toNat).toList 0 := by rw [hpadded]
        _ = d.toNat := ofDigitChars_paddedFour d.toNat
    exact UInt32.toNat_inj.mp hnat
  · rintro rfl
    rfl

/-! ## One poll -/

/-- The phase of the last poll, if any. -/
def lastState (before : List BatchPoll) : Option UInt16 := before.getLast?.map BatchPoll.batchState

/-- The poll sees heating directly after idle. -/
def StartsBatch (before : List BatchPoll) (poll : BatchPoll) : Prop :=
  lastState before = some batchIdle ∧ poll.batchState = batchHeating

instance (before : List BatchPoll) (poll : BatchPoll) : Decidable (StartsBatch before poll) :=
  inferInstanceAs (Decidable (_ ∧ _))

/-- How many polls see heating directly after idle. -/
def startCount : List BatchPoll → ℕ
  | first :: second :: rest =>
      (if StartsBatch [first] second then 1 else 0) + startCount (second :: rest)
  | _ => 0

@[simp] theorem lastState_append_singleton (before : List BatchPoll) (poll : BatchPoll) :
    lastState (before ++ [poll]) = some poll.batchState := by
  simp [lastState]

theorem startCount_append_singleton (before : List BatchPoll) (poll : BatchPoll) :
    startCount (before ++ [poll]) =
      startCount before + if StartsBatch before poll then 1 else 0 := by
  induction before with
  | nil => simp [startCount, StartsBatch, lastState]
  | cons first rest ih =>
      cases rest with
      | nil => simp [startCount, add_comm]
      | cons second rest =>
          have hlast : StartsBatch (first :: second :: rest) poll ↔
              StartsBatch (second :: rest) poll := by
            simp [StartsBatch, lastState]
          calc
            startCount (first :: second :: rest ++ [poll]) =
                (if StartsBatch [first] second then 1 else 0) +
                  startCount (second :: rest ++ [poll]) := rfl
            _ = startCount (first :: second :: rest) +
                  if StartsBatch (first :: second :: rest) poll then 1 else 0 := by
              rw [ih, ← add_assoc]
              simp only [hlast]
              rfl

theorem startCount_mono {before polls : List BatchPoll} (hpre : before <+: polls) :
    startCount before ≤ startCount polls := by
  obtain ⟨rest, rfl⟩ := hpre
  induction rest using List.reverseRecOn with
  | nil => simp
  | append_singleton rest poll ih =>
      rw [← List.append_assoc, startCount_append_singleton]
      omega

/-- Every start is counted once, in order. -/
theorem exists_start_of_le_startCount {polls : List BatchPoll} {n : ℕ} (hpos : 0 < n)
    (hle : n ≤ startCount polls) :
    ∃ before start, before ++ [start] <+: polls ∧ StartsBatch before start ∧
      startCount before + 1 = n := by
  induction polls using List.reverseRecOn with
  | nil =>
      have hzero : startCount [] = 0 := rfl
      omega
  | append_singleton polls poll ih =>
      by_cases hbefore : n ≤ startCount polls
      · obtain ⟨before, start, hpre, hstart⟩ := ih hbefore
        exact ⟨before, start, hpre.trans (List.prefix_append polls [poll]), hstart⟩
      · rw [startCount_append_singleton] at hle
        split at hle
        case isTrue hstart => exact ⟨polls, poll, List.prefix_rfl, hstart, by omega⟩
        case isFalse => omega

section Polls

variable {overflowChecks : Bool} {deviceId : String} {batches : BatchTable}

theorem runTask_append_singleton (before : List BatchPoll) (poll : BatchPoll) :
    runTask overflowChecks deviceId batches (before ++ [poll]) =
      (runTask overflowChecks deviceId batches before).poll overflowChecks deviceId poll := by
  simp [runTask, List.foldl_append]

@[simp] theorem batchIds_closeRunningBatch (status : BatchStatus) (notes : Option String)
    (now : Instant) :
    (closeRunningBatch batches deviceId status notes now).batchIds = batches.batchIds := by
  unfold closeRunningBatch
  split <;> simp

/-- Closing rewrites the latest running row of the device and no other. -/
theorem rows_closeRunningBatch (batches : BatchTable) (deviceId : String) (status : BatchStatus)
    (notes : Option String) (now : Instant) :
    ∃ closes : BatchRecord → Bool,
      (closeRunningBatch batches deviceId status notes now).rows =
          batches.rows.map (fun r ↦ if closes r then r.withStatus status notes now else r) ∧
        (∀ r ∈ batches.rows, closes r → r.runningOf deviceId) ∧
        (batches.count (BatchRecord.runningOf deviceId) ≤ 1 →
          ∀ r ∈ batches.rows, r.runningOf deviceId → closes r) := by
  cases hlatest : batches.latest (BatchRecord.runningOf deviceId) with
  | none =>
      have hsame : closeRunningBatch batches deviceId status notes now = batches := by
        simp [closeRunningBatch, getRunningBatch, hlatest]
      refine ⟨fun _ ↦ false, by simp [hsame], fun _ _ h ↦ (by cases h), fun _ r hr hrunning ↦ ?_⟩
      rw [RowTable.latest_eq_none_iff.mp hlatest r hr] at hrunning
      cases hrunning
  | some latest =>
      obtain ⟨hmem, hrunning⟩ := RowTable.latest_mem hlatest
      have hclosed : closeRunningBatch batches deviceId status notes now =
          updateBatchStatus batches latest.batchId status notes now := by
        simp [closeRunningBatch, getRunningBatch, hlatest]
      refine ⟨fun r ↦ r.batchId == latest.batchId, ?_, fun r hr hid ↦ ?_, fun hone r hr h ↦ ?_⟩
      · rw [hclosed, updateBatchStatus, BatchTable.rows_updateByBatchId]
      · have hsame := (BatchTable.id_eq_iff_batchId_eq hr hmem).mp (beq_iff_eq.mp hid)
        rwa [RowTable.eq_of_rowid_eq hr hmem hsame]
      · rw [RowTable.count_le_one_iff.mp hone r hr latest hmem h hrunning]
        exact beq_self_eq_true _

/-- A start opens a record under the task's next number. -/
theorem recordTransitions_start {poll : BatchPoll} (h : poll.batchState = batchHeating)
    (batchCounter : UInt32) :
    recordTransitions deviceId batchIdle poll batchCounter batches =
      (createBatch batches (batchIdFor deviceId batchCounter) "Reactor Cycle" deviceId "system"
        poll.now).1 := by
  simp [recordTransitions, h, batchIdle, batchHeating, batchComplete]

section transitions

variable {prev : UInt16} {poll : BatchPoll}

theorem recordTransitions_complete (hprev : prev ≠ batchComplete)
    (h : poll.batchState = batchComplete) (batchCounter : UInt32) :
    recordTransitions deviceId prev poll batchCounter batches =
      closeRunningBatch batches deviceId .completed none poll.now := by
  have hphases : batchComplete ≠ batchHeating ∧ batchComplete ≠ batchIdle := by decide
  simp [recordTransitions, hprev, h, hphases]

theorem recordTransitions_abort (hidle : prev ≠ batchIdle) (hcomplete : prev ≠ batchComplete)
    (h : poll.batchState = batchIdle) (batchCounter : UInt32) :
    recordTransitions deviceId prev poll batchCounter batches =
      closeRunningBatch batches deviceId .aborted (some "Emergency stop") poll.now := by
  have hphases : batchIdle ≠ batchHeating ∧ batchIdle ≠ batchComplete := by decide
  simp [recordTransitions, hidle, hcomplete, h, hphases]

/-- A poll that sees none of the three transitions changes nothing. -/
theorem recordTransitions_quiet (hstart : ¬(prev = batchIdle ∧ poll.batchState = batchHeating))
    (hcomplete : poll.batchState = batchComplete → prev = batchComplete)
    (hidle : poll.batchState = batchIdle → prev = batchIdle ∨ prev = batchComplete)
    (batchCounter : UInt32) :
    recordTransitions deviceId prev poll batchCounter batches = batches := by
  have hstop : ¬((prev ≠ batchIdle ∧ prev ≠ batchComplete) ∧ poll.batchState = batchIdle) :=
    fun h ↦ (hidle h.2).elim h.1.1 h.1.2
  have hdone : ¬(prev ≠ batchComplete ∧ poll.batchState = batchComplete) := fun h ↦
    h.1 (hcomplete h.2)
  simp only [recordTransitions, Bool.and_eq_true, beq_iff_eq, bne_iff_ne, hstart, hdone, hstop,
    if_false]

/-- Spec of a poll that starts nothing: it completes, aborts or leaves the table as it is. -/
theorem recordTransitions_cases (hstart : ¬(prev = batchIdle ∧ poll.batchState = batchHeating))
    (batchCounter : UInt32) (batches : BatchTable) :
    (prev ≠ batchComplete ∧ poll.batchState = batchComplete ∧
      recordTransitions deviceId prev poll batchCounter batches =
        closeRunningBatch batches deviceId .completed none poll.now) ∨
    (prev ≠ batchIdle ∧ prev ≠ batchComplete ∧ poll.batchState = batchIdle ∧
      recordTransitions deviceId prev poll batchCounter batches =
        closeRunningBatch batches deviceId .aborted (some "Emergency stop") poll.now) ∨
    ((poll.batchState = batchIdle → prev = batchIdle ∨ prev = batchComplete) ∧
      (poll.batchState = batchComplete → prev = batchComplete) ∧
      recordTransitions deviceId prev poll batchCounter batches = batches) := by
  by_cases hcomplete : prev ≠ batchComplete ∧ poll.batchState = batchComplete
  · obtain ⟨hprev, hstate⟩ := hcomplete
    exact .inl ⟨hprev, hstate, recordTransitions_complete hprev hstate batchCounter⟩
  by_cases habort : (prev ≠ batchIdle ∧ prev ≠ batchComplete) ∧ poll.batchState = batchIdle
  · obtain ⟨⟨hidle, hprev⟩, hstate⟩ := habort
    exact .inr (.inl ⟨hidle, hprev, hstate, recordTransitions_abort hidle hprev hstate batchCounter⟩)
  have hidle : poll.batchState = batchIdle → prev = batchIdle ∨ prev = batchComplete := by
    intro hstate
    by_contra hprev
    exact habort ⟨not_or.mp hprev, hstate⟩
  have hdone : poll.batchState = batchComplete → prev = batchComplete := by
    intro hstate
    by_contra hprev
    exact hcomplete ⟨hprev, hstate⟩
  exact .inr (.inr ⟨hidle, hdone, recordTransitions_quiet hstart hdone hidle batchCounter⟩)

/-- Only a start inserts a row. -/
theorem batchIds_recordTransitions (h : ¬(prev = batchIdle ∧ poll.batchState = batchHeating))
    (batchCounter : UInt32) :
    (recordTransitions deviceId prev poll batchCounter batches).batchIds = batches.batchIds := by
  rcases @recordTransitions_cases deviceId _ _ h batchCounter batches with
    ⟨-, -, heq⟩ | ⟨-, -, -, heq⟩ | ⟨-, -, heq⟩ <;> simp [heq]

end transitions

/-- The task has not panicked after seeing these polls. -/
def Survives (overflowChecks : Bool) (polls : List BatchPoll) : Prop :=
  overflowChecks = true → startCount polls < 2 ^ 32

theorem Survives.of_prefix {before polls : List BatchPoll} (h : Survives overflowChecks polls)
    (hpre : before <+: polls) : Survives overflowChecks before := fun hchecks ↦
  (startCount_mono hpre).trans_lt (h hchecks)

/-- The counter is below the top until the number of starts says otherwise. -/
theorem nextBatchCounter_eq (n : ℕ) (hn : overflowChecks = true → n < 2 ^ 32) :
    nextBatchCounter overflowChecks (UInt32.ofNat n) =
      if overflowChecks = true ∧ 2 ^ 32 ≤ n + 1 then none else some (UInt32.ofNat (n + 1)) := by
  have htop : overflowChecks = true →
      (UInt32.ofNat n = UInt32.ofNat (2 ^ 32 - 1) ↔ 2 ^ 32 ≤ n + 1) := by
    intro hchecks
    have hlt := hn hchecks
    rw [← UInt32.toNat_inj, UInt32.toNat_ofNat', UInt32.toNat_ofNat', Nat.mod_eq_of_lt hlt,
      Nat.mod_eq_of_lt (by omega)]
    omega
  have hsucc : UInt32.ofNat n + 1 = UInt32.ofNat (n + 1) := by simp [UInt32.ofNat_add]
  unfold nextBatchCounter
  rw [hsucc]
  cases overflowChecks with
  | false => simp
  | true => simp only [Bool.true_and, beq_iff_eq, htop rfl, true_and]

theorem BatchTracking.poll_idle (tracking : BatchTracking) :
    tracking.poll overflowChecks batchIdle = some ⟨some batchIdle, tracking.batchCounter⟩ := by
  have hnot : (batchIdle == batchHeating) = false := rfl
  unfold BatchTracking.poll countedStarts
  rw [hnot, Bool.and_false]
  rfl

theorem BatchTracking.poll_heating (n : ℕ) (hn : overflowChecks = true → n < 2 ^ 32) :
    BatchTracking.poll overflowChecks ⟨some batchIdle, UInt32.ofNat n⟩ batchHeating =
      if overflowChecks = true ∧ 2 ^ 32 ≤ n + 1 then none
      else some ⟨some batchHeating, UInt32.ofNat (n + 1)⟩ := by
  have hcount : countedStarts overflowChecks batchIdle batchHeating (UInt32.ofNat n) =
      nextBatchCounter overflowChecks (UInt32.ofNat n) := rfl
  unfold BatchTracking.poll
  rw [Option.getD_some, hcount, nextBatchCounter_eq n hn]
  split <;> rfl

theorem startsBatch_iff {before : List BatchPoll} {poll : BatchPoll} :
    StartsBatch before poll ↔
      (lastState before).getD poll.batchState = batchIdle ∧ poll.batchState = batchHeating := by
  unfold StartsBatch
  cases lastState before with
  | none =>
      -- the first poll of a task is compared with itself
      constructor
      · rintro ⟨h, -⟩
        cases h
      · rintro ⟨h, h'⟩
        rw [Option.getD_none, h'] at h
        cases h
  | some prev => simp

/-- A poll that the task survives records its transitions under the number of starts so far,
whatever the table holds. -/
theorem poll_of_tracking {run : BatchRun} {before : List BatchPoll} {poll : BatchPoll}
    (htracking : run.tracking = some ⟨lastState before, UInt32.ofNat (startCount before)⟩)
    (halive : Survives overflowChecks (before ++ [poll])) :
    run.poll overflowChecks deviceId poll =
      { tracking := some ⟨some poll.batchState, UInt32.ofNat (startCount (before ++ [poll]))⟩
        batches := recordTransitions deviceId ((lastState before).getD poll.batchState) poll
          (UInt32.ofNat (startCount (before ++ [poll]))) run.batches } := by
  have hcount := startCount_append_singleton before poll
  unfold BatchRun.poll
  rw [htracking]
  simp only [countedStarts, Bool.and_eq_true, beq_iff_eq, ← startsBatch_iff]
  by_cases hpoll : StartsBatch before poll
  · rw [if_pos hpoll] at hcount
    have hbefore := halive.of_prefix (List.prefix_append before [poll])
    have htop : ¬(overflowChecks = true ∧ 2 ^ 32 ≤ startCount before + 1) := by
      rintro ⟨hchecks, hle⟩
      have hlt := halive hchecks
      omega
    rw [if_pos hpoll, nextBatchCounter_eq _ hbefore, if_neg htop, hcount]
  · rw [if_neg hpoll, add_zero] at hcount
    rw [if_neg hpoll, hcount]

/-- What a task remembers: the last phase and the number of starts. -/
theorem tracking_runTask (overflowChecks : Bool) (deviceId : String) (batches : BatchTable)
    (polls : List BatchPoll) :
    (runTask overflowChecks deviceId batches polls).tracking =
      if overflowChecks = true ∧ 2 ^ 32 ≤ startCount polls then none
      else some ⟨lastState polls, UInt32.ofNat (startCount polls)⟩ := by
  induction polls using List.reverseRecOn with
  | nil => simp [runTask, BatchRun.start, startCount, lastState]
  | append_singleton before poll ih =>
      have hcount := startCount_append_singleton before poll
      by_cases hdead : overflowChecks = true ∧ 2 ^ 32 ≤ startCount before
      · rw [if_pos hdead] at ih
        rw [runTask_append_singleton, BatchRun.poll, ih, if_pos ⟨hdead.1, by omega⟩]
        exact ih
      · rw [if_neg hdead] at ih
        have halive : overflowChecks = true → startCount before < 2 ^ 32 := fun hchecks ↦
          not_le.mp fun hle ↦ hdead ⟨hchecks, hle⟩
        rw [runTask_append_singleton, BatchRun.poll, ih]
        simp only [countedStarts, lastState_append_singleton, Bool.and_eq_true, beq_iff_eq,
          ← startsBatch_iff]
        by_cases hpoll : StartsBatch before poll
        · rw [if_pos hpoll, nextBatchCounter_eq _ halive, hcount, if_pos hpoll]
          by_cases htop : overflowChecks = true ∧ 2 ^ 32 ≤ startCount before + 1
          · rw [if_pos htop, if_pos htop]
          · rw [if_neg htop, if_neg htop]
        · rw [if_neg hpoll, hcount, if_neg hpoll, add_zero, if_neg hdead]

theorem runTask_poll {before : List BatchPoll} {poll : BatchPoll}
    (halive : Survives overflowChecks (before ++ [poll])) :
    runTask overflowChecks deviceId batches (before ++ [poll]) =
      { tracking := some ⟨some poll.batchState, UInt32.ofNat (startCount (before ++ [poll]))⟩
        batches := recordTransitions deviceId ((lastState before).getD poll.batchState) poll
          (UInt32.ofNat (startCount (before ++ [poll])))
          (runTask overflowChecks deviceId batches before).batches } := by
  have hbefore := halive.of_prefix (List.prefix_append before [poll])
  have hlive : ¬(overflowChecks = true ∧ 2 ^ 32 ≤ startCount before) := fun hdead ↦
    absurd (hbefore hdead.1) (not_lt.mpr hdead.2)
  have htracking := tracking_runTask overflowChecks deviceId batches before
  rw [if_neg hlive] at htracking
  rw [runTask_append_singleton, poll_of_tracking htracking halive]

/-- The batch ids that exist after a task: the old ones and one for each start it saw. -/
theorem mem_batchIds_runTask {polls : List BatchPoll} (halive : Survives overflowChecks polls)
    {batchId : String} :
    batchId ∈ (runTask overflowChecks deviceId batches polls).batches.batchIds ↔
      batchId ∈ batches.batchIds ∨
        ∃ n, 0 < n ∧ n ≤ startCount polls ∧ batchId = batchIdFor deviceId (UInt32.ofNat n) := by
  induction polls using List.reverseRecOn with
  | nil =>
      have hzero : startCount [] = 0 := rfl
      rw [hzero]
      constructor
      · exact Or.inl
      · rintro (h | ⟨n, hpos, hle, -⟩)
        · exact h
        · omega
  | append_singleton before poll ih =>
      have hbefore := ih (halive.of_prefix (List.prefix_append before [poll]))
      rw [runTask_poll halive, startCount_append_singleton]
      by_cases hstart : StartsBatch before poll
      · obtain ⟨hidle, hheating⟩ := startsBatch_iff.mp hstart
        rw [hidle, recordTransitions_start hheating, mem_batchIds_createBatch, hbefore,
          if_pos hstart]
        constructor
        · rintro ((h | ⟨n, hpos, hle, heq⟩) | heq)
          · exact .inl h
          · exact .inr ⟨n, hpos, by omega, heq⟩
          · exact .inr ⟨startCount before + 1, by omega, le_rfl, heq⟩
        · rintro (h | ⟨n, hpos, hle, heq⟩)
          · exact .inl (.inl h)
          · rcases Nat.le_succ_iff.mp hle with hle | rfl
            · exact .inl (.inr ⟨n, hpos, hle, heq⟩)
            · exact .inr heq
      · rw [batchIds_recordTransitions (mt startsBatch_iff.mpr hstart), hbefore, if_neg hstart,
          add_zero]

end Polls

end VyuhHmi
