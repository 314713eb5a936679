import VyuhHmi.Device.PollingLoop
import VyuhHmi.Foundation.CommonOrder
import VyuhHmi.Foundation.ListUpdate
import VyuhHmi.Foundation.Observation
import VyuhHmi.Server.HistoryStore

/-!
# Saving and broadcasting

A polling task goes through the values of a poll one at a time: it saves a reading, waits for the
database and then broadcasts the reading.  The tasks of all devices do so at once, the database may
refuse an insert, and a task may be stopped wherever it waits.  The history of a device and what has
been broadcast for it are nevertheless the same, in the same order, but for the readings that were
refused and those whose task was stopped before it could broadcast them.
-/

namespace VyuhHmi

open CommonOrder Transition
open Rfc3339 (FourDigitYear toRfc3339)

/-- The labelled values of a poll that are still to come, and whether no address overflows. -/
abbrev Remaining := List (UInt16 × UInt16) × Bool

/-- Where a polling task is with the values of a poll: elsewhere in its loop, at the insert of a
reading, or with the answer of the database. -/
inductive RecordingPhase
  | waiting
  | saving (data : PlcData) (rest : Remaining)
  | answered (data : PlcData) (inserted : Bool) (rest : Remaining)
  | stopped
deriving DecidableEq

structure RecordingTask where
  config : DeviceConfig
  phase : RecordingPhase
deriving DecidableEq

/-- The table of readings, the readings that have been broadcast and the polling tasks. -/
structure Recorder where
  readings : PlcReadings
  broadcast : List PlcData
  tasks : List RecordingTask

/-- The next value of the poll.  An address that overflows is a panic. -/
def nextReading (deviceId : String) (rest : Remaining) (now : Rfc3339.Instant) : RecordingPhase :=
  match rest.1 with
  | [] => if rest.2 then .waiting else .stopped
  | (register, value) :: labelled =>
      .saving ⟨deviceId, register, value.toNat, now⟩ (labelled, rest.2)

/-- What happens to a polling task while it records. -/
inductive RecordingEvent
  | poll (values : List UInt16) (now : Rfc3339.Instant)
  | insert (inserted : Bool)
  | send (now : Rfc3339.Instant)
  | stop

namespace Recorder

def init : Recorder where
  readings := .empty
  broadcast := []
  tasks := []

inductive Label
  | start (config : DeviceConfig)
  | task (task : ℕ) (event : RecordingEvent)

/-- The task goes on to this phase. -/
def goOn (s : Recorder) (task : ℕ) (phase : RecordingPhase) : Recorder :=
  { s with tasks := s.tasks.modify task fun t ↦ { t with phase := phase } }

def stepTask (overflowChecks : Bool) (s : Recorder) (task : ℕ) (t : RecordingTask) :
    RecordingEvent → Option Recorder
  | .poll values now =>
      match t.phase with
      | .waiting => some (s.goOn task (nextReading t.config.id
          (labelFrom overflowChecks t.config.registerStart 0 values) now))
      | _ => none
  | .insert inserted =>
      match t.phase with
      | .saving data rest =>
          some { s.goOn task (.answered data inserted rest) with
            readings := savePlcData s.readings data inserted }
      | _ => none
  | .send now =>
      match t.phase with
      | .answered data _ rest =>
          some { s.goOn task (nextReading t.config.id rest now) with
            broadcast := s.broadcast ++ [data] }
      | _ => none
  | .stop => if t.phase = .stopped then none else some (s.goOn task .stopped)

def step (overflowChecks : Bool) (s : Recorder) : Label → Option Recorder
  | .start config => some { s with tasks := s.tasks ++ [⟨config, .waiting⟩] }
  | .task task event => s.tasks[task]?.bind fun t ↦ s.stepTask overflowChecks task t event

end Recorder

/-! ## What one record has and the other has not -/

/-- The task still polls the device. -/
def RecordingTask.polls (t : RecordingTask) (deviceId : String) : Bool :=
  decide (t.config.id = deviceId) && decide (t.phase ≠ .stopped)

/-- The reading of the device that the task has saved and will broadcast next. -/
def RecordingTask.unsent (t : RecordingTask) (deviceId : String) : List PlcData :=
  match t.phase with
  | .answered data true _ => if t.config.id = deviceId then [data] else []
  | _ => []

/-- The reading at which the task is. -/
def RecordingPhase.data? : RecordingPhase → Option PlcData
  | .saving data _ | .answered data _ _ => some data
  | _ => none

/-- The readings that were saved and never broadcast, and those that were broadcast and never
saved. -/
structure RecordLog where
  neverSent : List PlcData
  neverSaved : List PlcData
deriving DecidableEq

namespace Recorder

def unsent (s : Recorder) (deviceId : String) : List PlcData :=
  s.tasks.flatMap fun t ↦ t.unsent deviceId

/-- What has been broadcast for the device. -/
def broadcastOf (s : Recorder) (deviceId : String) : List PlcData :=
  s.broadcast.filter fun data ↦ decide (data.deviceId = deviceId)

def watchTask (deviceId : String) (log : RecordLog) (t : RecordingTask) :
    RecordingEvent → RecordLog
  | .send _ =>
      match t.phase with
      | .answered data false _ =>
          if t.config.id = deviceId then { log with neverSaved := log.neverSaved ++ [data] } else log
      | _ => log
  | .stop => { log with neverSent := log.neverSent ++ t.unsent deviceId }
  | _ => log

/-- Note what one of the records misses. -/
def watch (deviceId : String) (log : RecordLog) (s : Recorder) : Label → RecordLog
  | .start _ => log
  | .task task event => s.tasks[task]?.elim log fun t ↦ watchTask deviceId log t event

/-- A task for the device starts when no other one polls it. -/
def oneTask (deviceId : String) (s : Recorder) : Label → Bool
  | .start config => decide (config.id ≠ deviceId) || s.tasks.all fun t ↦ !t.polls deviceId
  | _ => true

/-- The years are written with four digits, and the text of the time is read back. -/
def Readable (parse : String → Option Rfc3339.Instant) (now : Rfc3339.Instant) : Prop :=
  FourDigitYear now ∧ parse (toRfc3339 now) = some now

def Label.Readable (parse : String → Option Rfc3339.Instant) : Label → Prop
  | .task _ (.poll _ now) | .task _ (.send now) => Recorder.Readable parse now
  | _ => True

/-! ## The invariant -/

variable {parse : String → Option Rfc3339.Instant} {overflowChecks : Bool} {deviceId : String}
  {s s' : Recorder} {log : RecordLog} {task : ℕ} {t : RecordingTask} {event : RecordingEvent}
  {phase : RecordingPhase} {data : PlcData} {now : Rfc3339.Instant}

/-- What a task saves and broadcasts is a reading of its own device. -/
def Genuine (parse : String → Option Rfc3339.Instant) (t : RecordingTask) : Prop :=
  ∀ data, t.phase.data? = some data →
    data.deviceId = t.config.id ∧ Recorder.Readable parse data.timestamp

/-- The history without the reading about to be broadcast is in step with the broadcast. -/
def Matches (parse : String → Option Rfc3339.Instant) (deviceId : String) (log : RecordLog)
    (readings : PlcReadings) (unsent broadcast : List PlcData) : Prop :=
  ∃ kept before : List PlcData, List.Forall₂ (StandsFor parse) readings.rows kept ∧
    (kept.filter fun data ↦ decide (data.deviceId = deviceId)) = before ++ unsent ∧
    InStep log.neverSent log.neverSaved before broadcast

structure Sound (parse : String → Option Rfc3339.Instant) (deviceId : String) (log : RecordLog)
    (s : Recorder) : Prop where
  genuine : ∀ (i : ℕ) t, s.tasks[i]? = some t → Genuine parse t
  alone : ∀ (i : ℕ) t (j : ℕ) u, s.tasks[i]? = some t → s.tasks[j]? = some u → t.polls deviceId →
    u.polls deviceId → i = j
  records : Matches parse deviceId log s.readings (s.unsent deviceId) (s.broadcastOf deviceId)

theorem genuine_nextReading (config : DeviceConfig) (rest : Remaining)
    (hnow : Recorder.Readable parse now) :
    Genuine parse ⟨config, nextReading config.id rest now⟩ := by
  intro data hdata
  unfold nextReading at hdata
  dsimp only at hdata
  split at hdata
  case h_1 =>
      split at hdata
      · cases hdata
      · cases hdata
  case h_2 =>
      obtain rfl := Option.some.inj hdata
      exact ⟨rfl, hnow⟩

theorem unsent_nextReading (config : DeviceConfig) (rest : Remaining) (now : Rfc3339.Instant)
    (deviceId : String) : (⟨config, nextReading config.id rest now⟩ : RecordingTask).unsent deviceId =
      [] := by
  unfold nextReading RecordingTask.unsent
  cases rest.1 with
  | nil => cases rest.2 <;> rfl
  | cons => rfl

/-- **The steps of a task.** -/
theorem stepTask_cases (h : s.stepTask overflowChecks task t event = some s') :
    (∃ values now, event = .poll values now ∧ t.phase = .waiting ∧
      s' = s.goOn task (nextReading t.config.id
        (labelFrom overflowChecks t.config.registerStart 0 values) now)) ∨
    (∃ inserted data rest, event = .insert inserted ∧ t.phase = .saving data rest ∧
      s' = { s.goOn task (.answered data inserted rest) with
        readings := savePlcData s.readings data inserted }) ∨
    (∃ now data inserted rest, event = .send now ∧ t.phase = .answered data inserted rest ∧
      s' = { s.goOn task (nextReading t.config.id rest now) with
        broadcast := s.broadcast ++ [data] }) ∨
    (event = .stop ∧ t.phase ≠ .stopped ∧ s' = s.goOn task .stopped) := by
  cases event with
  | poll values now =>
      simp only [stepTask] at h
      split at h
      case h_1 hphase => exact .inl ⟨values, now, rfl, hphase, (Option.some.inj h).symm⟩
      case h_2 => cases h
  | insert inserted =>
      simp only [stepTask] at h
      split at h
      case h_1 data rest hphase =>
          exact .inr (.inl ⟨inserted, data, rest, rfl, hphase, (Option.some.inj h).symm⟩)
      case h_2 => cases h
  | send now =>
      simp only [stepTask] at h
      split at h
      case h_1 data inserted rest hphase =>
          exact .inr (.inr (.inl ⟨now, data, inserted, rest, rfl, hphase, (Option.some.inj h).symm⟩))
      case h_2 => cases h
  | stop =>
      simp only [stepTask] at h
      split at h
      case isTrue => cases h
      case isFalse hphase => exact .inr (.inr (.inr ⟨rfl, hphase, (Option.some.inj h).symm⟩))

theorem getElem?_goOn (ht : s.tasks[task]? = some t) (phase : RecordingPhase) (i : ℕ) :
    (s.goOn task phase).tasks[i]? = if i = task then some { t with phase := phase } else s.tasks[i]? :=
  ListUpdate.getElem?_modify_of_some ht _

theorem genuine_goOn (hgenuine : ∀ (i : ℕ) t, s.tasks[i]? = some t → Genuine parse t)
    (ht : s.tasks[task]? = some t) (hphase : Genuine parse { t with phase := phase }) :
    ∀ (i : ℕ) u, (s.goOn task phase).tasks[i]? = some u → Genuine parse u := by
  intro i u hu
  rw [getElem?_goOn ht] at hu
  split at hu
  case isTrue =>
      obtain rfl := Option.some.inj hu
      exact hphase
  case isFalse => exact hgenuine i u hu

/-- A task that goes on polled before. -/
theorem polls_goOn (ht : s.tasks[task]? = some t) (hlive : t.phase ≠ .stopped) {i : ℕ}
    {u : RecordingTask} (hu : (s.goOn task phase).tasks[i]? = some u) (hpolls : u.polls deviceId) :
    ∃ before, s.tasks[i]? = some before ∧ before.polls deviceId := by
  rw [getElem?_goOn ht] at hu
  split at hu
  case isTrue hi =>
      obtain rfl := Option.some.inj hu
      have hdevice : t.config.id = deviceId :=
        of_decide_eq_true (Bool.and_eq_true_iff.mp hpolls).1
      exact ⟨t, hi ▸ ht, by simp [RecordingTask.polls, hdevice, hlive]⟩
  case isFalse => exact ⟨u, hu, hpolls⟩

theorem Sound.alone_goOn (h : Sound parse deviceId log s) (ht : s.tasks[task]? = some t)
    (hlive : t.phase ≠ .stopped) (phase : RecordingPhase) :
    ∀ (i : ℕ) u (j : ℕ) v, (s.goOn task phase).tasks[i]? = some u → (s.goOn task phase).tasks[j]? = some v →
      u.polls deviceId → v.polls deviceId → i = j := by
  intro i u j v hu hv hpu hpv
  obtain ⟨u', hu', hpu'⟩ := polls_goOn ht hlive hu hpu
  obtain ⟨v', hv', hpv'⟩ := polls_goOn ht hlive hv hpv
  exact h.alone i u' j v' hu' hv' hpu' hpv'

/-! ### The reading about to be broadcast -/

theorem unsent_eq_nil (h : t.polls deviceId = false) : t.unsent deviceId = [] := by
  unfold RecordingTask.unsent
  split
  case h_1 data rest hphase =>
      rw [RecordingTask.polls, hphase] at h
      rw [if_neg (by simpa using h)]
  case h_2 => rfl

/-- A task of another device. -/
theorem unsent_goOn_other (ht : s.tasks[task]? = some t) (hdevice : t.config.id ≠ deviceId)
    (phase : RecordingPhase) : (s.goOn task phase).unsent deviceId = s.unsent deviceId := by
  have hnil (phase : RecordingPhase) :
      ({ t with phase := phase } : RecordingTask).unsent deviceId = [] :=
    unsent_eq_nil (by simp [RecordingTask.polls, hdevice])
  refine ListUpdate.flatMap_modify_of_eq ht ?_
  rw [hnil phase]
  exact (hnil t.phase).symm

/-- Only the one task that polls the device is about to broadcast. -/
theorem Sound.unsent_eq (h : Sound parse deviceId log s) (ht : s.tasks[task]? = some t)
    (hpolls : t.polls deviceId) : s.unsent deviceId = t.unsent deviceId :=
  ListUpdate.flatMap_of_forall ht fun i u hi hu ↦ unsent_eq_nil <| by
    by_contra hu'
    exact hi (h.alone i u task t hu ht (Bool.of_not_eq_false hu') hpolls)

theorem Sound.unsent_goOn (h : Sound parse deviceId log s) (ht : s.tasks[task]? = some t)
    (hpolls : t.polls deviceId) (phase : RecordingPhase) :
    (s.goOn task phase).unsent deviceId =
      ({ t with phase := phase } : RecordingTask).unsent deviceId := by
  have hself : (s.goOn task phase).tasks[task]? = some { t with phase := phase } := by
    rw [getElem?_goOn ht, if_pos rfl]
  refine ListUpdate.flatMap_of_forall hself fun i u hi hu ↦ unsent_eq_nil ?_
  rw [getElem?_goOn ht, if_neg hi] at hu
  by_contra hu'
  exact hi (h.alone i u task t hu ht (Bool.of_not_eq_false hu') hpolls)

/-! ### The records -/

theorem forall₂_savePlcData {readings : PlcReadings} {kept : List PlcData}
    (h : List.Forall₂ (StandsFor parse) readings.rows kept)
    (hreadable : Recorder.Readable parse data.timestamp) (inserted : Bool) :
    List.Forall₂ (StandsFor parse) (savePlcData readings data inserted).rows
      (if inserted then kept ++ [data] else kept) :=
  forall₂_save h hreadable

section Matches

variable {readings : PlcReadings} {unsent broadcast : List PlcData}

/-- A reading of another device is saved. -/
theorem Matches.save_other (h : Matches parse deviceId log readings unsent broadcast)
    (hdevice : data.deviceId ≠ deviceId) (hreadable : Recorder.Readable parse data.timestamp)
    (inserted : Bool) :
    Matches parse deviceId log (savePlcData readings data inserted) unsent broadcast := by
  obtain ⟨kept, before, hrows, hkept, hstep⟩ := h
  refine ⟨_, before, forall₂_savePlcData hrows hreadable inserted, ?_, hstep⟩
  cases inserted with
  | false => exact hkept
  | true =>
      rw [if_pos rfl, List.filter_append, hkept, List.filter_cons_of_neg (by simp [hdevice]),
        List.filter_nil, List.append_nil]

theorem Matches.save (h : Matches parse deviceId log readings [] broadcast)
    (hdevice : data.deviceId = deviceId) (hreadable : Recorder.Readable parse data.timestamp)
    (inserted : Bool) :
    Matches parse deviceId log (savePlcData readings data inserted)
      (if inserted then [data] else []) broadcast := by
  obtain ⟨kept, before, hrows, hkept, hstep⟩ := h
  refine ⟨_, before, forall₂_savePlcData hrows hreadable inserted, ?_, hstep⟩
  cases inserted with
  | false => exact hkept
  | true =>
      rw [List.append_nil] at hkept
      rw [if_pos rfl, if_pos rfl, List.filter_append, hkept,
        List.filter_cons_of_pos (by simp [hdevice]), List.filter_nil]

theorem Matches.send {inserted : Bool}
    (h : Matches parse deviceId log readings (if inserted then [data] else []) broadcast) :
    Matches parse deviceId
      (if inserted then log else { log with neverSaved := log.neverSaved ++ [data] }) readings []
      (broadcast ++ [data]) := by
  obtain ⟨kept, before, hrows, hkept, hstep⟩ := h
  cases inserted with
  | false => exact ⟨kept, before, hrows, hkept, hstep.onlySecond data⟩
  | true => exact ⟨kept, before ++ [data], hrows, by rw [hkept, List.append_nil]; rfl, hstep.both data⟩

/-- The task of the reading is stopped. -/
theorem Matches.stop (h : Matches parse deviceId log readings unsent broadcast)
    (hunsent : unsent = [] ∨ ∃ data, unsent = [data]) :
    Matches parse deviceId { log with neverSent := log.neverSent ++ unsent } readings []
      broadcast := by
  obtain ⟨kept, before, hrows, hkept, hstep⟩ := h
  rcases hunsent with rfl | ⟨data, rfl⟩
  · rw [List.append_nil]
    exact ⟨kept, before, hrows, hkept, hstep⟩
  · exact ⟨kept, before ++ [data], hrows, by rw [hkept, List.append_nil], hstep.onlyFirst data⟩

end Matches

/-! ### The steps -/

theorem broadcastOf_append_other (hdevice : data.deviceId ≠ deviceId) (broadcast : List PlcData) :
    ((broadcast ++ [data]).filter fun data ↦ decide (data.deviceId = deviceId)) =
      broadcast.filter fun data ↦ decide (data.deviceId = deviceId) := by
  rw [List.filter_append, List.filter_cons_of_neg (by simp [hdevice]), List.filter_nil,
    List.append_nil]

theorem broadcastOf_append (hdevice : data.deviceId = deviceId) (broadcast : List PlcData) :
    ((broadcast ++ [data]).filter fun data ↦ decide (data.deviceId = deviceId)) =
      (broadcast.filter fun data ↦ decide (data.deviceId = deviceId)) ++ [data] := by
  rw [List.filter_append, List.filter_cons_of_pos (by simp [hdevice]), List.filter_nil]

theorem unsent_answered (hdevice : t.config.id = deviceId) {inserted : Bool} {rest : Remaining}
    (hphase : t.phase = .answered data inserted rest) :
    t.unsent deviceId = if inserted then [data] else [] := by
  unfold RecordingTask.unsent
  rw [hphase]
  cases inserted with
  | false => rfl
  | true => exact if_pos hdevice

theorem unsent_cases (t : RecordingTask) (deviceId : String) :
    t.unsent deviceId = [] ∨ ∃ data, t.unsent deviceId = [data] := by
  unfold RecordingTask.unsent
  split
  case h_1 data rest hphase =>
      by_cases hdevice : t.config.id = deviceId
      · exact .inr ⟨data, if_pos hdevice⟩
      · exact .inl (if_neg hdevice)
  case h_2 => exact .inl rfl

theorem watchTask_other (hdevice : t.config.id ≠ deviceId) (log : RecordLog)
    (event : RecordingEvent) : watchTask deviceId log t event = log := by
  unfold watchTask
  split
  case h_1 =>
      split
      · rw [if_neg hdevice]
      · rfl
  case h_2 =>
      rw [unsent_eq_nil (by simp [RecordingTask.polls, hdevice]), List.append_nil]
  case h_3 => rfl

/-- **A task of another device.** -/
theorem Sound.records_other (h : Sound parse deviceId log s) (ht : s.tasks[task]? = some t)
    (hdevice : t.config.id ≠ deviceId) (hstep : s.stepTask overflowChecks task t event = some s') :
    Matches parse deviceId log s'.readings (s'.unsent deviceId) (s'.broadcastOf deviceId) := by
  have hrecords := h.records
  have hunsent (phase : RecordingPhase) := unsent_goOn_other ht hdevice phase
  obtain ⟨values, now, rfl, hphase, rfl⟩ | ⟨inserted, data, rest, rfl, hphase, rfl⟩ |
    ⟨now, data, inserted, rest, rfl, hphase, rfl⟩ | ⟨rfl, hlive, rfl⟩ := stepTask_cases hstep
  · rw [hunsent]
    exact hrecords
  · obtain ⟨hdata, hreadable⟩ := h.genuine task t ht data (by rw [hphase]; rfl)
    have hsaved := hrecords.save_other (hdata.trans_ne hdevice) hreadable inserted
    rw [← hunsent (.answered data inserted rest)] at hsaved
    exact hsaved
  · obtain ⟨hdata, -⟩ := h.genuine task t ht data (by rw [hphase]; rfl)
    rw [broadcastOf, ← broadcastOf_append_other (hdata.trans_ne hdevice),
      ← hunsent (nextReading t.config.id rest now)] at hrecords
    exact hrecords
  · rw [hunsent]
    exact hrecords

/-- **The task of the device.** -/
theorem Sound.records_own (h : Sound parse deviceId log s) (ht : s.tasks[task]? = some t)
    (hdevice : t.config.id = deviceId) (hstep : s.stepTask overflowChecks task t event = some s') :
    Matches parse deviceId (watchTask deviceId log t event) s'.readings (s'.unsent deviceId)
      (s'.broadcastOf deviceId) := by
  have hrecords := h.records
  have hpolls (hlive : t.phase ≠ .stopped) : t.polls deviceId := by
    simp [RecordingTask.polls, hdevice, hlive]
  obtain ⟨values, now, rfl, hphase, rfl⟩ | ⟨inserted, data, rest, rfl, hphase, rfl⟩ |
    ⟨now, data, inserted, rest, rfl, hphase, rfl⟩ | ⟨rfl, hlive, rfl⟩ := stepTask_cases hstep
  · have hp := hpolls (by rw [hphase]; exact RecordingPhase.noConfusion)
    rw [h.unsent_goOn ht hp, unsent_nextReading]
    rw [h.unsent_eq ht hp, RecordingTask.unsent, hphase] at hrecords
    exact hrecords
  · have hp := hpolls (by rw [hphase]; exact RecordingPhase.noConfusion)
    obtain ⟨hdata, hreadable⟩ := h.genuine task t ht data (by rw [hphase]; rfl)
    rw [h.unsent_eq ht hp, RecordingTask.unsent, hphase] at hrecords
    have hsaved := hrecords.save (hdata.trans hdevice) hreadable inserted
    have hunsent := h.unsent_goOn ht hp (.answered data inserted rest)
    rw [@unsent_answered deviceId { t with phase := .answered data inserted rest } data hdevice
      inserted rest rfl] at hunsent
    rw [← hunsent] at hsaved
    exact hsaved
  · have hp := hpolls (by rw [hphase]; exact RecordingPhase.noConfusion)
    obtain ⟨hdata, -⟩ := h.genuine task t ht data (by rw [hphase]; rfl)
    rw [h.unsent_eq ht hp, unsent_answered hdevice hphase] at hrecords
    have hsent := hrecords.send
    have hunsent := h.unsent_goOn ht hp (nextReading t.config.id rest now)
    rw [unsent_nextReading] at hunsent
    rw [broadcastOf, ← broadcastOf_append (hdata.trans hdevice)] at hsent
    have hwatch : watchTask deviceId log t (.send now) =
        if inserted then log else { log with neverSaved := log.neverSaved ++ [data] } := by
      unfold watchTask
      rw [hphase]
      cases inserted with
      | false => exact if_pos hdevice
      | true => rfl
    rw [hwatch]
    change Matches parse deviceId _ s.readings
      ((s.goOn task (nextReading t.config.id rest now)).unsent deviceId) _
    rw [hunsent]
    exact hsent
  · have hp := hpolls hlive
    rw [h.unsent_goOn ht hp]
    rw [h.unsent_eq ht hp] at hrecords
    exact hrecords.stop (unsent_cases t deviceId)

/-- A task starts. -/
theorem Sound.start (h : Sound parse deviceId log s) {config : DeviceConfig}
    (hone : s.oneTask deviceId (.start config)) :
    Sound parse deviceId log { s with tasks := s.tasks ++ [⟨config, .waiting⟩] } where
  genuine := ListUpdate.forall_append_singleton h.genuine nofun
  alone := by
    have hnew (hdevice : config.id = deviceId) (i : ℕ) (t : RecordingTask)
        (ht : s.tasks[i]? = some t) : ¬t.polls deviceId := by
      intro hpolls
      have hall : s.tasks.all fun t ↦ !t.polls deviceId := by simpa [oneTask, hdevice] using hone
      have hnot := List.all_eq_true.mp hall t (List.mem_of_getElem? ht)
      rw [hpolls] at hnot
      cases hnot
    have hdevice (hpolls : (⟨config, .waiting⟩ : RecordingTask).polls deviceId) :
        config.id = deviceId := of_decide_eq_true (Bool.and_eq_true_iff.mp hpolls).1
    intro i t j u ht hu htpolls hupolls
    dsimp only at ht hu
    rw [ListUpdate.getElem?_append_singleton] at ht hu
    split at ht
    case isTrue hi =>
        obtain rfl := Option.some.inj ht
        split at hu
        case isTrue hj => rw [hi, hj]
        case isFalse => exact absurd hupolls (hnew (hdevice htpolls) j u hu)
    case isFalse =>
        split at hu
        case isTrue =>
            obtain rfl := Option.some.inj hu
            exact absurd htpolls (hnew (hdevice hupolls) i t ht)
        case isFalse => exact h.alone i t j u ht hu htpolls hupolls
  records := by
    have hunsent : ({ s with tasks := s.tasks ++ [⟨config, .waiting⟩] } : Recorder).unsent deviceId =
        s.unsent deviceId := by
      simp [Recorder.unsent, RecordingTask.unsent]
    rw [hunsent]
    exact h.records

theorem live_of_stepTask (h : s.stepTask overflowChecks task t event = some s') :
    t.phase ≠ .stopped := by
  obtain ⟨values, now, -, hphase, -⟩ | ⟨inserted, data, rest, -, hphase, -⟩ |
    ⟨now, data, inserted, rest, -, hphase, -⟩ | ⟨-, hlive, -⟩ := stepTask_cases h
  · rw [hphase]
    exact RecordingPhase.noConfusion
  · rw [hphase]
    exact RecordingPhase.noConfusion
  · rw [hphase]
    exact RecordingPhase.noConfusion
  · exact hlive

/-- The tasks after a step of one of them. -/
theorem tasks_stepTask (h : s.stepTask overflowChecks task t event = some s')
    (hgenuine : Genuine parse t) (hreadable : (Label.task task event).Readable parse) :
    ∃ phase, s'.tasks = (s.goOn task phase).tasks ∧ Genuine parse { t with phase := phase } := by
  obtain ⟨values, now, rfl, hphase, rfl⟩ | ⟨inserted, data, rest, rfl, hphase, rfl⟩ |
    ⟨now, data, inserted, rest, rfl, hphase, rfl⟩ | ⟨rfl, hlive, rfl⟩ := stepTask_cases h
  · exact ⟨_, rfl, genuine_nextReading t.config _ hreadable⟩
  · refine ⟨_, rfl, fun last hlast ↦ hgenuine last ?_⟩
    rw [hphase]
    exact hlast
  · exact ⟨_, rfl, genuine_nextReading t.config _ hreadable⟩
  · exact ⟨_, rfl, nofun⟩

/-- **One step.** -/
theorem Sound.step {label : Label} (h : Sound parse deviceId log s)
    (hone : s.oneTask deviceId label) (hreadable : label.Readable parse)
    (hstep : s.step overflowChecks label = some s') :
    Sound parse deviceId (watch deviceId log s label) s' := by
  cases label with
  | start config =>
      obtain rfl := Option.some.inj hstep
      exact h.start hone
  | task task event =>
      obtain ⟨t, ht, htask⟩ := Option.bind_eq_some_iff.mp hstep
      obtain ⟨phase, htasks, hphase⟩ := tasks_stepTask htask (h.genuine task t ht) hreadable
      have hwatch : watch deviceId log s (.task task event) = watchTask deviceId log t event := by
        rw [watch, ht, Option.elim_some]
      refine ⟨?_, ?_, ?_⟩
      · rw [htasks]
        exact genuine_goOn h.genuine ht hphase
      · rw [htasks]
        exact h.alone_goOn ht (live_of_stepTask htask) phase
      · rw [hwatch]
        by_cases hdevice : t.config.id = deviceId
        · exact h.records_own ht hdevice htask
        · rw [watchTask_other hdevice]
          exact h.records_other ht hdevice htask

theorem sound_init (parse : String → Option Rfc3339.Instant) (deviceId : String) :
    Sound parse deviceId ⟨[], []⟩ init where
  genuine := fun _ _ ht ↦ absurd ht (by simp [init])
  alone := fun _ _ _ _ ht ↦ absurd ht (by simp [init])
  records := ⟨[], [], .nil, rfl, .nil⟩

/-! ## The two records -/

def recordLog (overflowChecks : Bool) (deviceId : String) (labels : List Label) : RecordLog :=
  observe (step overflowChecks) (watch deviceId) ⟨[], []⟩ init labels

/-- A step that the device's tasks take one after the other, at a time that can be read back. -/
def Orderly (parse : String → Option Rfc3339.Instant) (deviceId : String) (s : Recorder)
    (label : Label) : Prop :=
  s.oneTask deviceId label ∧ label.Readable parse

theorem sound_run {labels : List Label}
    (hrun : Run (guarded (Orderly parse deviceId) (ofOption (step overflowChecks))) init labels s) :
    Sound parse deviceId (recordLog overflowChecks deviceId labels) s :=
  hrun.observe_invariant (sound_init parse deviceId) fun _ _ _ _ h hguard hstep ↦
    h.step hguard.1 hguard.2 hstep

/-- **History and broadcast.** While the tasks of a device poll one after the other, its history is
in step with what has been broadcast for it: newest first, it begins with the reading about to be
broadcast, and then the two have the same readings in the same order, except that the history also
has those saved by a task that was stopped before it could broadcast them, and the broadcast also
those that the database refused. -/
theorem history_in_step {labels : List Label}
    (hrun : Run (guarded (Orderly parse deviceId) (ofOption (step overflowChecks))) init labels s) :
    ∃ before : List PlcData,
      (∀ limit, getHistory parse s.readings deviceId limit =
        RowTable.limited limit (before ++ s.unsent deviceId).reverse) ∧
      InStep (recordLog overflowChecks deviceId labels).neverSent
        (recordLog overflowChecks deviceId labels).neverSaved before (s.broadcastOf deviceId) := by
  obtain ⟨kept, before, hrows, hkept, hstep⟩ := (sound_run hrun).records
  refine ⟨before, fun limit ↦ ?_, hstep⟩
  rw [getHistory_eq hrows, lastOf, List.filter_reverse, hkept]

/-! ## A poll that goes through to its end -/

/-- The inserts and broadcasts of `n` readings from the `i`-th. -/
def goThrough (task : ℕ) (inserted : ℕ → Bool) (times : ℕ → Rfc3339.Instant) (i n : ℕ) :
    List Label :=
  (List.range' i n).flatMap fun i ↦
    [.task task (.insert (inserted i)), .task task (.send (times (i + 1)))]

theorem exec_goThrough {config : DeviceConfig} {labelled : List (UInt16 × UInt16)} {fits : Bool}
    (inserted : ℕ → Bool) {times : ℕ → Rfc3339.Instant} {i : ℕ}
    (ht : s.tasks[task]? = some ⟨config, nextReading config.id (labelled, fits) (times i)⟩) :
    ∃ s', exec (step overflowChecks) s (goThrough task inserted times i labelled.length) = some s' ∧
      s'.broadcast = s.broadcast ++ labelled.mapIdx (fun k (register, value) ↦
        ⟨config.id, register, value.toNat, times (i + k)⟩) ∧
      s'.tasks[task]? = some ⟨config, if fits then .waiting else .stopped⟩ := by
  induction labelled generalizing s i with
  | nil => exact ⟨s, rfl, by simp, ht⟩
  | cons first labelled ih =>
      obtain ⟨register, value⟩ := first
      let data : PlcData := ⟨config.id, register, value.toNat, times i⟩
      let answered := { s.goOn task (.answered data (inserted i) (labelled, fits)) with
        readings := savePlcData s.readings data (inserted i) }
      let sent := { answered.goOn task (nextReading config.id (labelled, fits) (times (i + 1))) with
        broadcast := s.broadcast ++ [data] }
      have hinsert : s.step overflowChecks (.task task (.insert (inserted i))) = some answered := by
        rw [step, ht]
        rfl
      have hanswered : answered.tasks[task]? =
          some ⟨config, .answered data (inserted i) (labelled, fits)⟩ := by
        rw [getElem?_goOn ht, if_pos rfl]
      have hsend : answered.step overflowChecks (.task task (.send (times (i + 1)))) = some sent := by
        rw [step, hanswered]
        rfl
      have hsent : sent.tasks[task]? =
          some ⟨config, nextReading config.id (labelled, fits) (times (i + 1))⟩ := by
        rw [getElem?_goOn hanswered, if_pos rfl]
      obtain ⟨s', hexec, hbroadcast, htask⟩ := ih hsent
      refine ⟨s', ?_, ?_, htask⟩
      · rw [goThrough, List.length_cons, List.range'_succ, List.flatMap_cons, exec_append]
        have hfirst : exec (step overflowChecks) s [.task task (.insert (inserted i)),
            .task task (.send (times (i + 1)))] = some sent := by
          simp [exec, hinsert, hsend]
        rw [hfirst]
        exact hexec
      · rw [hbroadcast, List.mapIdx_cons, List.append_assoc]
        simp only [Nat.add_assoc, Nat.add_comm 1]
        rfl

/-- **A whole poll** broadcasts the readings of the polling loop, and then the loop goes on unless an
address has overflowed. -/
theorem exec_poll {config : DeviceConfig} (ht : s.tasks[task]? = some ⟨config, .waiting⟩)
    (values : List UInt16) (inserted : ℕ → Bool) (times : ℕ → Rfc3339.Instant) :
    ∃ s', exec (step overflowChecks) s (.task task (.poll values (times 0)) ::
        goThrough task inserted times 0
          (labelFrom overflowChecks config.registerStart 0 values).1.length) = some s' ∧
      s'.broadcast = s.broadcast ++ TaskLocals.readings overflowChecks config values times ∧
      s'.tasks[task]? = some ⟨config,
        if (labelFrom overflowChecks config.registerStart 0 values).2 then .waiting
        else .stopped⟩ := by
  let labelled := labelFrom overflowChecks config.registerStart 0 values
  have hpoll : s.step overflowChecks (.task task (.poll values (times 0))) =
      some (s.goOn task (nextReading config.id labelled (times 0))) := by
    rw [step, ht]
    rfl
  have hbegun : (s.goOn task (nextReading config.id labelled (times 0))).tasks[task]? =
      some ⟨config, nextReading config.id (labelled.1, labelled.2) (times 0)⟩ := by
    rw [getElem?_goOn ht, if_pos rfl]
  obtain ⟨s', hexec, hbroadcast, htask⟩ := exec_goThrough inserted hbegun
  refine ⟨s', ?_, ?_, htask⟩
  · rw [exec, List.foldlM_cons, hpoll]
    exact hexec
  · rw [hbroadcast]
    simp only [Nat.zero_add]
    rfl

/-! ## A concrete run -/

instance (parse : String → Option Rfc3339.Instant) (now : Rfc3339.Instant) :
    Decidable (Recorder.Readable parse now) :=
  inferInstanceAs (Decidable (_ ∧ _))

instance (parse : String → Option Rfc3339.Instant) (label : Label) :
    Decidable (label.Readable parse) :=
  match label with
  | .task _ (.poll _ now) => inferInstanceAs (Decidable (Recorder.Readable parse now))
  | .task _ (.send now) => inferInstanceAs (Decidable (Recorder.Readable parse now))
  | .task _ (.insert _) => .isTrue trivial
  | .task _ .stop => .isTrue trivial
  | .start _ => .isTrue trivial

instance (parse : String → Option Rfc3339.Instant) (deviceId : String) (s : Recorder)
    (label : Label) : Decidable (Orderly parse deviceId s label) :=
  inferInstanceAs (Decidable (_ ∧ _))

def reactorAt (deviceId : String) : DeviceConfig where
  id := deviceId
  name := "Reactor"
  address := "127.0.0.1:5020"
  protocol := "modbus"
  pollRateMs := 1000
  registerStart := 1028
  registerCount := 2
  writable := []

/-- Two devices are polled.  One insert is refused, and both tasks are stopped after an insert. -/
def firstPolls : List Label :=
  [.start (reactorAt "plc-01"), .start (reactorAt "plc-02"),
    .task 0 (.poll [75, 3] 1705314600000000000), .task 1 (.poll [80, 2] 1705314600000000000),
    .task 0 (.insert true), .task 1 (.insert true), .task 0 (.send 1705314601000000000),
    .task 1 .stop, .task 0 (.insert false), .task 0 (.send 1705314601000000000),
    .task 0 (.poll [76, 4] 1705314601000000000), .task 0 (.insert true), .task 0 .stop]

/-- What has been broadcast for the first device. -/
def firstBroadcast : List PlcData :=
  [⟨"plc-01", 1028, 75, 1705314600000000000⟩, ⟨"plc-01", 1029, 3, 1705314601000000000⟩]

def cameThrough (s : Recorder) : Bool := decide (s.broadcastOf "plc-01" = firstBroadcast)

theorem exists_run_firstPolls :
    ∃ s, Run (guarded (Orderly parseMorning "plc-01") (ofOption (step true))) init firstPolls s ∧
      s.cameThrough :=
  exists_run_guarded_of_any (by decide)

theorem history_in_step_firstPolls :
    ∃ (s : Recorder) (before : List PlcData),
      (∀ limit, getHistory parseMorning s.readings "plc-01" limit =
        RowTable.limited limit (before ++ s.unsent "plc-01").reverse) ∧
      InStep [⟨"plc-01", 1028, 76, 1705314601000000000⟩] [⟨"plc-01", 1029, 3, 1705314601000000000⟩]
        before firstBroadcast := by
  obtain ⟨s, hrun, htest⟩ := exists_run_firstPolls
  obtain ⟨before, hhistory, hstep⟩ := history_in_step hrun
  have hlog : recordLog true "plc-01" firstPolls =
      ⟨[⟨"plc-01", 1028, 76, 1705314601000000000⟩],
        [⟨"plc-01", 1029, 3, 1705314601000000000⟩]⟩ := by decide
  rw [hlog, of_decide_eq_true htest] at hstep
  exact ⟨s, before, hhistory, hstep⟩

end Recorder

end VyuhHmi
