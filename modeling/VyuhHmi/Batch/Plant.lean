import VyuhHmi.Batch.Running
import VyuhHmi.Foundation.Evolution
import VyuhHmi.Foundation.ListUpdate

/-!
# Batch records of a plant

Every device has a polling task of its own, and all tasks write one `batch_records` table.  The
polls of the devices come in any order.  The records of a device are those of the starts that its
task has seen, each closed by the first poll after it that finds the phase idle or complete.
-/

namespace VyuhHmi

open Evolution ListUpdate

/-! ## The records that a task's polls ask for -/

/-- The phase at an index. -/
def stateAt (polls : List BatchPoll) (i : ℕ) : Option UInt16 := polls[i]?.map BatchPoll.batchState

/-- Idle at the index before, heating at this one. -/
def IsStart (polls : List BatchPoll) (i : ℕ) : Prop :=
  i ≠ 0 ∧ stateAt polls (i - 1) = some batchIdle ∧ stateAt polls i = some batchHeating

instance (polls : List BatchPoll) : DecidablePred (IsStart polls) := fun _ ↦
  inferInstanceAs (Decidable (_ ∧ _))

/-- The indices of the starts, in order. -/
def startIndices (polls : List BatchPoll) : List ℕ :=
  (List.range polls.length).filter (IsStart polls)

/-- The phase ends a batch. -/
def BatchPoll.ends (poll : BatchPoll) : Bool :=
  poll.batchState == batchIdle || poll.batchState == batchComplete

/-- The first poll after an index that ends a batch. -/
def endAfter (polls : List BatchPoll) (i : ℕ) : Option BatchPoll :=
  (polls.drop (i + 1)).find? BatchPoll.ends

/-- How the record of a start stands, given the poll that ended its batch. -/
def HasOutcome (record : BatchRecord) : Option BatchPoll → Prop
  | none => record.status = .running ∧ record.endTime = none ∧ record.notes = none
  | some poll => record.endTime = some poll.now ∧
      if poll.batchState = batchComplete then record.status = .completed ∧ record.notes = none
      else record.status = .aborted ∧ record.notes = some "Emergency stop"

/-- The record of the start at an index. -/
structure RecordsStart (deviceId : String) (polls : List BatchPoll) (i : ℕ) (record : BatchRecord) :
    Prop where
  start : IsStart polls i
  batchId : record.batchId = batchIdFor deviceId (UInt32.ofNat (startCount (polls.take (i + 1))))
  startTime : polls[i]?.map BatchPoll.now = some record.startTime
  outcome : HasOutcome record (endAfter polls i)

section polls

variable {polls : List BatchPoll} {poll : BatchPoll} {i j : ℕ}

theorem IsStart.lt (h : IsStart polls i) : i < polls.length := by
  obtain ⟨poll, hpoll, -⟩ := Option.map_eq_some_iff.mp h.2.2
  exact (List.getElem?_eq_some_iff.mp hpoll).1

theorem stateAt_append_singleton (hi : i < polls.length) :
    stateAt (polls ++ [poll]) i = stateAt polls i := by
  rw [stateAt, List.getElem?_append_left hi, stateAt]

theorem lastState_eq_stateAt (polls : List BatchPoll) :
    lastState polls = stateAt polls (polls.length - 1) := by
  rw [lastState, List.getLast?_eq_getElem?, stateAt]

theorem isStart_append_singleton (hi : i < polls.length) :
    IsStart (polls ++ [poll]) i ↔ IsStart polls i := by
  rw [IsStart, stateAt_append_singleton hi, stateAt_append_singleton (by omega), IsStart]

theorem isStart_length : IsStart (polls ++ [poll]) polls.length ↔ StartsBatch polls poll := by
  rw [IsStart, StartsBatch, lastState_eq_stateAt]
  have hnow : stateAt (polls ++ [poll]) polls.length = some poll.batchState := by simp [stateAt]
  rw [hnow, Option.some.injEq]
  cases polls with
  | nil => simp [stateAt]
  | cons first rest =>
      rw [stateAt_append_singleton (by simp)]
      simp

theorem startIndices_append_singleton (polls : List BatchPoll) (poll : BatchPoll) :
    startIndices (polls ++ [poll]) =
      startIndices polls ++ if StartsBatch polls poll then [polls.length] else [] := by
  have hold : (List.range polls.length).filter (fun i ↦ decide (IsStart (polls ++ [poll]) i)) =
      startIndices polls := by
    apply List.filter_congr
    intro i hi
    simp only [isStart_append_singleton (List.mem_range.mp hi)]
  calc
    startIndices (polls ++ [poll]) = startIndices polls ++
        [polls.length].filter (fun i ↦ decide (IsStart (polls ++ [poll]) i)) := by
      rw [← hold, ← List.filter_append, ← List.range_succ, startIndices, List.length_append,
        List.length_singleton]
    _ = _ := by simp only [List.filter_singleton, isStart_length, Bool.cond_decide]

theorem endAfter_append_singleton (hi : i < polls.length) :
    endAfter (polls ++ [poll]) i =
      (endAfter polls i).or (if poll.ends then some poll else none) := by
  unfold endAfter
  rw [List.drop_append_of_le_length hi, List.find?_append, List.find?_singleton]

theorem endAfter_isSome (hij : i < j) {phase : UInt16} (hstate : stateAt polls j = some phase)
    (hphase : phase = batchIdle ∨ phase = batchComplete) : (endAfter polls i).isSome := by
  obtain ⟨poll, hpoll, rfl⟩ := Option.map_eq_some_iff.mp hstate
  unfold endAfter
  rw [List.find?_isSome]
  refine ⟨poll, List.mem_of_getElem? (i := j - (i + 1)) ?_, by simpa [BatchPoll.ends] using hphase⟩
  rw [List.getElem?_drop, ← hpoll]
  congr 1
  omega

/-- A phase that ends a batch ends those of all starts before it. -/
theorem endAfter_isSome_of_lastState (hstart : IsStart polls i) {phase : UInt16}
    (hlast : lastState polls = some phase) (hphase : phase = batchIdle ∨ phase = batchComplete) :
    (endAfter polls i).isSome := by
  rw [lastState_eq_stateAt] at hlast
  have hlt := hstart.lt
  apply endAfter_isSome _ hlast hphase
  by_contra hge
  obtain rfl : i = polls.length - 1 := by omega
  rw [hstart.2.2, Option.some.injEq] at hlast
  subst hlast
  revert hphase
  decide

/-- A batch has ended before the next one starts. -/
theorem pairwise_startIndices (polls : List BatchPoll) :
    (startIndices polls).Pairwise fun i _ ↦ (endAfter polls i).isSome := by
  have hsorted : (startIndices polls).Pairwise (· < ·) := List.pairwise_lt_range.filter _
  refine hsorted.imp_of_mem fun {i j} hi hj hij ↦ ?_
  have hstart : IsStart polls i := of_decide_eq_true (List.mem_filter.mp hi).2
  have hnext : IsStart polls j := of_decide_eq_true (List.mem_filter.mp hj).2
  apply endAfter_isSome _ hnext.2.1 (.inl rfl)
  by_contra hge
  obtain rfl : i = j - 1 := by omega
  have hsame := hstart.2.2.symm.trans hnext.2.1
  revert hsame
  decide

end polls

/-! ## Many tasks, one table -/

/-- What the polling task of each device remembers, and the records of all devices. -/
structure PlantRun where
  tracking : String → Option BatchTracking
  batches : BatchTable

namespace PlantRun

/-- Fresh tasks and an empty table. -/
def start : PlantRun := ⟨fun _ ↦ some ⟨none, 0⟩, .empty⟩

/-- The batch block of one poll of one device. -/
def poll (overflowChecks : Bool) (plant : PlantRun) (deviceId : String) (poll : BatchPoll) :
    PlantRun :=
  let run := BatchRun.poll overflowChecks deviceId ⟨plant.tracking deviceId, plant.batches⟩ poll
  { tracking := Function.update plant.tracking deviceId run.tracking, batches := run.batches }

/-- The polls of all devices in the order in which they happen. -/
def run (overflowChecks : Bool) (polls : List (String × BatchPoll)) : PlantRun :=
  polls.foldl (fun plant entry ↦ plant.poll overflowChecks entry.1 entry.2) start

theorem run_append_singleton (overflowChecks : Bool) (polls : List (String × BatchPoll))
    (deviceId : String) (poll : BatchPoll) :
    run overflowChecks (polls ++ [(deviceId, poll)]) =
      (run overflowChecks polls).poll overflowChecks deviceId poll := by
  simp [run]

end PlantRun

/-- The polls of one device. -/
def pollsOf (deviceId : String) (polls : List (String × BatchPoll)) : List BatchPoll :=
  (polls.filter fun entry ↦ entry.1 == deviceId).map Prod.snd

/-- The records of one device, oldest first. -/
def recordsOf (deviceId : String) (batches : BatchTable) : List BatchRecord :=
  batches.rows.filter fun record ↦ record.deviceId == deviceId

/-- Every record is named after its device. -/
def NamedByDevice (batches : BatchTable) : Prop :=
  ∀ record ∈ batches.rows, ∃ batchCounter, record.batchId = batchIdFor record.deviceId batchCounter

theorem pollsOf_append_self (polls : List (String × BatchPoll)) (deviceId : String)
    (poll : BatchPoll) :
    pollsOf deviceId (polls ++ [(deviceId, poll)]) = pollsOf deviceId polls ++ [poll] := by
  simp [pollsOf]

theorem pollsOf_append_of_ne {deviceId deviceId' : String} (hne : deviceId' ≠ deviceId)
    (polls : List (String × BatchPoll)) (poll : BatchPoll) :
    pollsOf deviceId (polls ++ [(deviceId', poll)]) = pollsOf deviceId polls := by
  simp [pollsOf, hne]

theorem mem_recordsOf {deviceId : String} {batches : BatchTable} {record : BatchRecord} :
    record ∈ recordsOf deviceId batches ↔ record ∈ batches.rows ∧ record.deviceId = deviceId := by
  simp [recordsOf]

/-- The name of a batch tells the device and the number. -/
theorem deviceId_of_batchIdFor_eq {deviceId deviceId' : String} {c d : UInt32}
    (h : batchIdFor deviceId c = batchIdFor deviceId' d) : deviceId = deviceId' := by
  have hdigits (n : ℕ) : '-' ∉ (paddedFour n).toList := by
    intro hmem
    simp only [paddedFour, String.toList_ofList, List.mem_append, List.mem_replicate] at hmem
    rcases hmem with ⟨-, heq⟩ | hmem
    · cases heq
    · have hdigit := Nat.isDigit_of_mem_toDigits (by decide : 0 < 10) (by decide) hmem
      revert hdigit
      decide
  have hlists : deviceId.toList ++ '-' :: (paddedFour c.toNat).toList =
      deviceId'.toList ++ '-' :: (paddedFour d.toNat).toList := by
    simpa [batchIdFor, String.ext_iff] using h
  -- the last dash of either name is the one before the digits
  have hlast {text rest rest' : List Char} (hrest : '-' ∉ rest)
      (heq : '-' :: rest = text ++ '-' :: rest') : text = [] := by
    cases text with
    | nil => rfl
    | cons c text =>
        obtain ⟨-, rfl⟩ := List.cons.inj heq
        simp at hrest
  apply String.toList_inj.mp
  rcases List.append_eq_append_iff.mp hlists with ⟨text, htext, heq⟩ | ⟨text, htext, heq⟩
  · rw [hlast (hdigits _) heq, List.append_nil] at htext
    exact htext.symm
  · rw [hlast (hdigits _) heq, List.append_nil] at htext
    exact htext

/-! ## One poll -/

section step

variable {overflowChecks : Bool} {deviceId deviceId' : String} {batches : BatchTable}

/-- What a poll of a device may do to the table. -/
inductive PollEffect (deviceId : String) (batches : BatchTable) : BatchTable → Prop
  | none : PollEffect deviceId batches batches
  | create (batchCounter : UInt32) (now : Instant) :
      PollEffect deviceId batches (createBatch batches (batchIdFor deviceId batchCounter)
        "Reactor Cycle" deviceId "system" now).1
  | close (status : BatchStatus) (notes : Option String) (now : Instant) :
      PollEffect deviceId batches (closeRunningBatch batches deviceId status notes now)

theorem pollEffect_poll (run : BatchRun) (poll : BatchPoll) :
    PollEffect deviceId run.batches (run.poll overflowChecks deviceId poll).batches := by
  unfold BatchRun.poll
  split
  case h_1 => exact .none
  case h_2 tracking htracking =>
      dsimp only
      split
      case h_1 => exact .none
      case h_2 batchCounter hcounter =>
          generalize tracking.prevBatchState.getD poll.batchState = prev
          by_cases hstart : prev = batchIdle ∧ poll.batchState = batchHeating
          · obtain ⟨rfl, hheating⟩ := hstart
            rw [recordTransitions_start hheating]
            exact .create batchCounter poll.now
          · rcases recordTransitions_cases hstart batchCounter run.batches with
              ⟨-, -, heq⟩ | ⟨-, -, -, heq⟩ | ⟨-, -, heq⟩
            · rw [heq]
              exact .close _ _ poll.now
            · rw [heq]
              exact .close _ _ poll.now
            · rw [heq]
              exact .none

/-- A record changes only while it runs, and a device's polls change its own records. -/
theorem PollEffect.evolves {batches' : BatchTable} (h : PollEffect deviceId batches batches') :
    Evolves
      (fun record record' ↦ record' = record ∨ (record.runningOf deviceId ∧
        ∃ status notes now, record' = record.withStatus status notes now))
      (fun record ↦ record.deviceId = deviceId ∧
        ∃ batchCounter, record.batchId = batchIdFor deviceId batchCounter)
      batches.rows batches'.rows := by
  cases h with
  | none => exact .refl (fun _ ↦ .inl rfl) _
  | create batchCounter now =>
      by_cases hmem : batchIdFor deviceId batchCounter ∈ batches.batchIds
      · rw [createBatch_of_mem hmem]
        exact .refl (fun _ ↦ .inl rfl) _
      · rw [rows_createBatch_of_notMem hmem]
        apply Evolves.append fun _ ↦ .inl rfl
        intro record hadded
        obtain rfl := List.mem_singleton.mp hadded
        exact ⟨rfl, batchCounter, rfl⟩
  | close status notes now =>
      obtain ⟨closes, hrows, hcloses, -⟩ := rows_closeRunningBatch batches deviceId status notes now
      rw [hrows]
      apply Evolves.map
      intro record hmem
      split
      case isTrue hclosed => exact .inr ⟨hcloses record hmem hclosed, status, notes, now, rfl⟩
      case isFalse => exact .inl rfl

/-- The polls of one device leave the records of the others as they are. -/
theorem PollEffect.recordsOf_eq {batches' : BatchTable} (h : PollEffect deviceId' batches batches')
    (hne : deviceId' ≠ deviceId) : recordsOf deviceId batches' = recordsOf deviceId batches := by
  apply h.evolves.filter_eq
  · rintro record record' (rfl | ⟨hrunning, status, notes, now, rfl⟩)
    · exact ⟨rfl, fun _ ↦ rfl⟩
    · have hdevice : record.deviceId = deviceId' :=
        beq_iff_eq.mp (Bool.and_eq_true_iff.mp hrunning).1
      refine ⟨rfl, fun hown ↦ ?_⟩
      exact absurd (hdevice.symm.trans (beq_iff_eq.mp hown)) hne
  · rintro record ⟨rfl, -⟩
    simpa using hne

theorem PollEffect.namedByDevice {batches' : BatchTable} (h : PollEffect deviceId batches batches')
    (hnamed : NamedByDevice batches) : NamedByDevice batches' := by
  apply h.evolves.forall_mem hnamed
  · rintro record record' (rfl | ⟨-, status, notes, now, rfl⟩) hrecord
    · exact hrecord
    · exact hrecord
  · rintro record ⟨rfl, hrecord⟩
    exact hrecord

/-- A closed record stays as it is. -/
theorem PollEffect.mem_of_closed {batches' : BatchTable} (h : PollEffect deviceId batches batches')
    {record : BatchRecord} (hmem : record ∈ batches.rows) (hclosed : record.status ≠ .running) :
    record ∈ batches'.rows := by
  obtain ⟨record', hmem', hchange⟩ := h.evolves.exists_successor hmem
  rcases hchange with rfl | ⟨hrunning, -⟩
  · exact hmem'
  · exact absurd (beq_iff_eq.mp (Bool.and_eq_true_iff.mp hrunning).2) hclosed

/-- Closing rewrites the running record of a device that has only one. -/
theorem recordsOf_closeRunningBatch
    (hone : (recordsOf deviceId batches).countP (fun r ↦ r.status == .running) ≤ 1)
    (status : BatchStatus) (notes : Option String) (now : Instant) :
    recordsOf deviceId (closeRunningBatch batches deviceId status notes now) =
      (recordsOf deviceId batches).map fun r ↦
        if r.status = .running then r.withStatus status notes now else r := by
  obtain ⟨closes, hrows, hcloses, hall⟩ := rows_closeRunningBatch batches deviceId status notes now
  have hcount : batches.count (BatchRecord.runningOf deviceId) ≤ 1 := by
    rw [recordsOf, List.countP_filter] at hone
    refine le_trans (le_of_eq (List.countP_congr fun r _ ↦ ?_)) hone
    rw [BatchRecord.runningOf, Bool.and_comm]
  unfold recordsOf
  rw [hrows, List.filter_map]
  have hdevice : batches.rows.filter ((fun r : BatchRecord ↦ r.deviceId == deviceId) ∘
      fun r ↦ if closes r then r.withStatus status notes now else r) =
        batches.rows.filter fun r ↦ r.deviceId == deviceId := by
    refine List.filter_congr fun r _ ↦ ?_
    dsimp only [Function.comp]
    split <;> rfl
  rw [hdevice]
  refine List.map_congr_left fun r hmem ↦ ?_
  obtain ⟨hr, hown⟩ := List.mem_filter.mp hmem
  have hiff : closes r ↔ r.status = .running := by
    constructor
    · exact fun h ↦ beq_iff_eq.mp (Bool.and_eq_true_iff.mp (hcloses r hr h)).2
    · exact fun h ↦ hall hcount r hr (Bool.and_eq_true_iff.mpr ⟨hown, beq_iff_eq.mpr h⟩)
  simp only [hiff]

end step

/-! ## The records of a device -/

section device

variable {deviceId : String} {batches : BatchTable} {polls : List BatchPoll} {poll : BatchPoll}
  {i : ℕ} {record : BatchRecord}

theorem HasOutcome.running_iff {ended : Option BatchPoll} (h : HasOutcome record ended) :
    record.status = .running ↔ ended = none := by
  cases ended with
  | none => exact iff_of_true h.1 rfl
  | some poll =>
      refine iff_of_false (fun hrunning ↦ ?_) (Option.some_ne_none poll)
      obtain ⟨-, houtcome⟩ := h
      split at houtcome <;> rw [hrunning] at houtcome <;> cases houtcome.1

/-- A poll that does not end the batch of a start leaves its record right. -/
theorem RecordsStart.keep (h : RecordsStart deviceId polls i record)
    (hend : endAfter (polls ++ [poll]) i = endAfter polls i) :
    RecordsStart deviceId (polls ++ [poll]) i record := by
  have hlt := h.start.lt
  refine ⟨(isStart_append_singleton hlt).mpr h.start, ?_, ?_, ?_⟩
  · rw [List.take_append_of_le_length hlt]
    exact h.batchId
  · rw [List.getElem?_append_left hlt]
    exact h.startTime
  · rw [hend]
    exact h.outcome

/-- Closing the running record at the poll that ends its batch. -/
theorem RecordsStart.close (h : RecordsStart deviceId polls i record)
    (hrunning : record.status = .running) (hends : poll.ends) {status : BatchStatus}
    {notes : Option String}
    (hstatus : if poll.batchState = batchComplete then status = .completed ∧ notes = none
      else status = .aborted ∧ notes = some "Emergency stop") :
    RecordsStart deviceId (polls ++ [poll]) i (record.withStatus status notes poll.now) := by
  have hlt := h.start.lt
  have hopen := h.outcome.running_iff.mp hrunning
  have houtcome := h.outcome
  rw [hopen] at houtcome
  refine ⟨(isStart_append_singleton hlt).mpr h.start, ?_, ?_, ?_⟩
  · rw [List.take_append_of_le_length hlt]
    exact h.batchId
  · rw [List.getElem?_append_left hlt]
    exact h.startTime
  · rw [endAfter_append_singleton hlt, hopen, Option.none_or, if_pos hends]
    obtain ⟨-, hendTime, hnotes⟩ := houtcome
    split at hstatus
    case isTrue hcomplete =>
        obtain ⟨rfl, rfl⟩ := hstatus
        simp [HasOutcome, BatchRecord.withStatus, hcomplete, hnotes]
    case isFalse hcomplete =>
        obtain ⟨rfl, rfl⟩ := hstatus
        simp [HasOutcome, BatchRecord.withStatus, hcomplete]

/-- Every record but the last has been closed. -/
theorem pairwise_closed
    (h : List.Forall₂ (RecordsStart deviceId polls) (startIndices polls)
      (recordsOf deviceId batches)) :
    (recordsOf deviceId batches).Pairwise fun r _ ↦ r.status ≠ .running := by
  refine pairwise_of_forall₂ h (pairwise_startIndices polls) fun i j r _ hr _ hended ↦ ?_
  exact mt hr.outcome.running_iff.mp (Option.isSome_iff_ne_none.mp hended)

theorem countP_running_le_one
    (h : List.Forall₂ (RecordsStart deviceId polls) (startIndices polls)
      (recordsOf deviceId batches)) :
    (recordsOf deviceId batches).countP (fun r ↦ r.status == .running) ≤ 1 :=
  countP_le_one_of_pairwise ((pairwise_closed h).imp beq_false_of_ne)

/-- A poll that makes no transition ends no batch that is under way. -/
theorem endAfter_of_quiet (hstart : IsStart polls i)
    (hidle : poll.batchState = batchIdle → (lastState polls).getD poll.batchState = batchIdle ∨
      (lastState polls).getD poll.batchState = batchComplete)
    (hcomplete : poll.batchState = batchComplete →
      (lastState polls).getD poll.batchState = batchComplete) :
    endAfter (polls ++ [poll]) i = endAfter polls i := by
  have hlt := hstart.lt
  rw [endAfter_append_singleton hlt]
  by_cases hends : poll.ends
  · obtain ⟨phase, hlast⟩ : ∃ phase, lastState polls = some phase := by
      have hne : polls ≠ [] := List.ne_nil_of_length_pos (by omega)
      exact ⟨_, congrArg (Option.map BatchPoll.batchState) (List.getLast?_eq_some_getLast hne)⟩
    rw [hlast, Option.getD_some] at hidle hcomplete
    have hphase : phase = batchIdle ∨ phase = batchComplete := by
      rcases Bool.or_eq_true_iff.mp hends with h | h
      · exact hidle (beq_iff_eq.mp h)
      · exact .inr (hcomplete (beq_iff_eq.mp h))
    exact Option.or_of_isSome (endAfter_isSome_of_lastState hstart hlast hphase)
  · rw [if_neg hends, Option.or_none]

/-- The number of a further start is above those of the device's records, and the dash tells the
others apart. -/
theorem batchIdFor_notMem
    (h : List.Forall₂ (RecordsStart deviceId polls) (startIndices polls)
      (recordsOf deviceId batches))
    (hnamed : NamedByDevice batches) {number : ℕ} (hmore : startCount polls < number)
    (hfew : number < 2 ^ 32) : batchIdFor deviceId (UInt32.ofNat number) ∉ batches.batchIds := by
  intro htaken
  obtain ⟨record, hmem, hid⟩ := List.mem_map.mp htaken
  obtain ⟨batchCounter, hname⟩ := hnamed record hmem
  have hdevice : record.deviceId = deviceId := deviceId_of_batchIdFor_eq (hname.symm.trans hid)
  obtain ⟨i, -, hrecord⟩ := exists_of_mem_right h (mem_recordsOf.mpr ⟨hmem, hdevice⟩)
  have hnumber := batchIdFor_inj.mp (hrecord.batchId.symm.trans hid)
  have hle : startCount (polls.take (i + 1)) ≤ startCount polls :=
    startCount_mono (List.take_prefix _ _)
  have hnat := congrArg UInt32.toNat hnumber
  rw [UInt32.toNat_ofNat', UInt32.toNat_ofNat', Nat.mod_eq_of_lt (by omega),
    Nat.mod_eq_of_lt hfew] at hnat
  omega

/-- The record of a batch that a poll starts. -/
theorem RecordsStart.new (hstart : StartsBatch polls poll) (id : ℤ) :
    RecordsStart deviceId (polls ++ [poll]) polls.length
      (newBatch (batchIdFor deviceId (UInt32.ofNat (startCount (polls ++ [poll]))))
        "Reactor Cycle" deviceId "system" poll.now id) := by
  have hnone : endAfter (polls ++ [poll]) polls.length = none := by simp [endAfter]
  refine ⟨isStart_length.mpr hstart, ?_, ?_, ?_⟩
  · rw [List.take_of_length_le (by simp)]
    rfl
  · simp [newBatch]
  · rw [hnone]
    exact ⟨rfl, rfl, rfl⟩

/-- A poll that ends batches closes the one under way, and those that have ended stay. -/
theorem forall₂_closeRunningBatch
    (h : List.Forall₂ (RecordsStart deviceId polls) (startIndices polls)
      (recordsOf deviceId batches))
    (hends : poll.ends) {status : BatchStatus} {notes : Option String}
    (hstatus : if poll.batchState = batchComplete then status = .completed ∧ notes = none
      else status = .aborted ∧ notes = some "Emergency stop") :
    List.Forall₂ (RecordsStart deviceId (polls ++ [poll])) (startIndices polls)
      (recordsOf deviceId (closeRunningBatch batches deviceId status notes poll.now)) := by
  rw [recordsOf_closeRunningBatch (countP_running_le_one h), List.forall₂_map_right_iff]
  refine h.imp fun i record hrecord ↦ ?_
  split
  case isTrue hrunning => exact hrecord.close hrunning hends hstatus
  case isFalse hclosed =>
      have hended : endAfter polls i ≠ none := mt hrecord.outcome.running_iff.mpr hclosed
      apply hrecord.keep
      rw [endAfter_append_singleton hrecord.start.lt]
      exact Option.or_of_isSome (Option.isSome_iff_ne_none.mpr hended)

/-- **One poll of the device.** -/
theorem forall₂_recordTransitions
    (h : List.Forall₂ (RecordsStart deviceId polls) (startIndices polls)
      (recordsOf deviceId batches))
    (hnamed : NamedByDevice batches) (hfew : startCount (polls ++ [poll]) < 2 ^ 32) :
    List.Forall₂ (RecordsStart deviceId (polls ++ [poll])) (startIndices (polls ++ [poll]))
      (recordsOf deviceId (recordTransitions deviceId ((lastState polls).getD poll.batchState) poll
        (UInt32.ofNat (startCount (polls ++ [poll]))) batches)) := by
  rw [startIndices_append_singleton]
  by_cases hstart : StartsBatch polls poll
  · obtain ⟨hidle, hheating⟩ := startsBatch_iff.mp hstart
    have hcount := startCount_append_singleton polls poll
    rw [if_pos hstart] at hcount
    have hfresh := batchIdFor_notMem h hnamed (by omega) hfew
    rw [if_pos hstart, hidle, recordTransitions_start hheating]
    unfold recordsOf
    rw [rows_createBatch_of_notMem hfresh, List.filter_append]
    have hold : List.Forall₂ (RecordsStart deviceId (polls ++ [poll])) (startIndices polls)
        (recordsOf deviceId batches) := by
      have hends : ¬poll.ends := by
        rw [BatchPoll.ends, hheating]
        decide
      refine h.imp fun i record hrecord ↦ hrecord.keep ?_
      rw [endAfter_append_singleton hrecord.start.lt, if_neg hends, Option.or_none]
    refine List.rel_append hold ?_
    rw [List.filter_singleton]
    simp only [newBatch, beq_self_eq_true, cond_true]
    exact .cons (.new hstart _) .nil
  · rw [if_neg hstart, List.append_nil]
    have hstart' := mt startsBatch_iff.mpr hstart
    rcases recordTransitions_cases hstart' (UInt32.ofNat (startCount (polls ++ [poll]))) batches with
      ⟨-, hstate, heq⟩ | ⟨-, -, hstate, heq⟩ | ⟨hidle, hcomplete, heq⟩
    · rw [heq]
      exact forall₂_closeRunningBatch h (by simp [BatchPoll.ends, hstate]) (by simp [hstate])
    · rw [heq]
      refine forall₂_closeRunningBatch h (by simp [BatchPoll.ends, hstate]) ?_
      have hne : batchIdle ≠ batchComplete := by decide
      simp [hstate, hne]
    · rw [heq]
      exact h.imp fun i record hrecord ↦
        hrecord.keep (endAfter_of_quiet hrecord.start hidle hcomplete)

end device

/-! ## Every interleaving -/

section plant

variable {overflowChecks : Bool} {deviceId : String}

theorem namedByDevice_run (overflowChecks : Bool) (polls : List (String × BatchPoll)) :
    NamedByDevice (PlantRun.run overflowChecks polls).batches := by
  induction polls using List.reverseRecOn with
  | nil => exact fun record hmem ↦ by cases hmem
  | append_singleton polls entry ih =>
      obtain ⟨deviceId, poll⟩ := entry
      rw [PlantRun.run_append_singleton]
      exact (pollEffect_poll ⟨_, _⟩ poll).namedByDevice ih

/-- What the task of a device remembers depends on its own polls only. -/
theorem plant_invariant (polls : List (String × BatchPoll)) (deviceId : String)
    (hfew : startCount (pollsOf deviceId polls) < 2 ^ 32) :
    (PlantRun.run overflowChecks polls).tracking deviceId =
        some ⟨lastState (pollsOf deviceId polls),
          UInt32.ofNat (startCount (pollsOf deviceId polls))⟩ ∧
      List.Forall₂ (RecordsStart deviceId (pollsOf deviceId polls))
        (startIndices (pollsOf deviceId polls))
        (recordsOf deviceId (PlantRun.run overflowChecks polls).batches) := by
  induction polls using List.reverseRecOn with
  | nil => exact ⟨rfl, .nil⟩
  | append_singleton polls entry ih =>
      obtain ⟨polled, poll⟩ := entry
      have heffect : PollEffect polled (PlantRun.run overflowChecks polls).batches
          (PlantRun.run overflowChecks (polls ++ [(polled, poll)])).batches := by
        rw [PlantRun.run_append_singleton]
        exact pollEffect_poll ⟨_, _⟩ poll
      by_cases hown : polled = deviceId
      · subst hown
        rw [pollsOf_append_self] at hfew ⊢
        obtain ⟨htracking, hrecords⟩ := ih ((startCount_mono (List.prefix_append _ _)).trans_lt hfew)
        have hpoll := @poll_of_tracking overflowChecks polled
          ⟨(PlantRun.run overflowChecks polls).tracking polled,
            (PlantRun.run overflowChecks polls).batches⟩ _ poll htracking fun _ ↦ hfew
        have hrun : (PlantRun.run overflowChecks polls).poll overflowChecks polled poll =
            { tracking := Function.update (PlantRun.run overflowChecks polls).tracking polled
                (some ⟨some poll.batchState,
                  UInt32.ofNat (startCount (pollsOf polled polls ++ [poll]))⟩)
              batches := recordTransitions polled
                ((lastState (pollsOf polled polls)).getD poll.batchState) poll
                (UInt32.ofNat (startCount (pollsOf polled polls ++ [poll])))
                (PlantRun.run overflowChecks polls).batches } := by
          rw [PlantRun.poll, hpoll]
        rw [PlantRun.run_append_singleton, hrun, lastState_append_singleton]
        exact ⟨Function.update_self _ _ _,
          forall₂_recordTransitions hrecords (namedByDevice_run overflowChecks polls) hfew⟩
      · rw [pollsOf_append_of_ne hown] at hfew ⊢
        obtain ⟨htracking, hrecords⟩ := ih hfew
        refine ⟨?_, ?_⟩
        · rw [PlantRun.run_append_singleton, ← htracking]
          exact Function.update_of_ne (Ne.symm hown) _ _
        · rw [heffect.recordsOf_eq hown]
          exact hrecords

theorem mem_recordsOf_of_closed (polls later : List (String × BatchPoll)) {record : BatchRecord}
    (hmem : record ∈ recordsOf deviceId (PlantRun.run overflowChecks polls).batches)
    (hclosed : record.status ≠ .running) :
    record ∈ recordsOf deviceId (PlantRun.run overflowChecks (polls ++ later)).batches := by
  obtain ⟨hrow, hdevice⟩ := mem_recordsOf.mp hmem
  refine mem_recordsOf.mpr ⟨?_, hdevice⟩
  induction later using List.reverseRecOn with
  | nil =>
      rw [List.append_nil]
      exact hrow
  | append_singleton later entry ih =>
      obtain ⟨polled, poll⟩ := entry
      rw [← List.append_assoc, PlantRun.run_append_singleton]
      exact (pollEffect_poll ⟨_, _⟩ poll).mem_of_closed ih hclosed

/-- **Batch records.** Whatever the other devices do, the records of a device are those of its
starts, one each and in order: still running while no later poll of the device has found the phase
idle or complete, otherwise closed as the first such poll says, and then unchanged for good. -/
theorem device_records (overflowChecks : Bool) (polls : List (String × BatchPoll))
    (deviceId : String) (hfew : startCount (pollsOf deviceId polls) < 2 ^ 32) :
    List.Forall₂ (RecordsStart deviceId (pollsOf deviceId polls))
        (startIndices (pollsOf deviceId polls))
        (recordsOf deviceId (PlantRun.run overflowChecks polls).batches) ∧
      ∀ later, ∀ record ∈ recordsOf deviceId (PlantRun.run overflowChecks polls).batches,
        record.status ≠ .running →
          record ∈ recordsOf deviceId (PlantRun.run overflowChecks (polls ++ later)).batches :=
  ⟨(plant_invariant polls deviceId hfew).2, fun later _ hmem hclosed ↦
    mem_recordsOf_of_closed polls later hmem hclosed⟩

/-- One device completes a batch, the other is stopped in the middle of one and starts again. -/
def twoReactors : List (String × BatchPoll) :=
  [("a", ⟨0, 0⟩), ("b", ⟨0, 1⟩), ("a", ⟨1, 2⟩), ("b", ⟨1, 3⟩), ("a", ⟨4, 4⟩), ("b", ⟨0, 5⟩),
    ("b", ⟨1, 6⟩)]

theorem device_records_twoReactors :
    startIndices (pollsOf "b" twoReactors) = [1, 3] ∧
      List.Forall₂ (RecordsStart "b" (pollsOf "b" twoReactors))
        (startIndices (pollsOf "b" twoReactors))
        (recordsOf "b" (PlantRun.run false twoReactors).batches) :=
  ⟨by decide, (device_records false twoReactors "b" (by decide)).1⟩

end plant

end VyuhHmi
