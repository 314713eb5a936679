import Mathlib.Data.List.Sort
import VyuhHmi.App.Dashboard
import VyuhHmi.Foundation.Grouping

/-!
# The history screen

Readings are put together second by second, and the seconds in buckets of some seconds each, which
are shown by their averages.  Times are in microseconds since the epoch.  A second starts with zeros
and the time of its first reading in the list; it belongs to the bucket of that time, with zeros for
the registers that have no reading.
-/

namespace VyuhHmi.App

open Grouping

/-- `_Snapshot`. -/
structure Snapshot where
  time : ℤ
  temp : ℚ
  pressure : ℚ
  humidity : ℚ
  flow : ℚ
  batchState : ℤ
  progress : ℚ
  agitator : ℚ
  pH : ℚ
deriving DecidableEq

/-- The registers that are shown as averages. -/
inductive Channel
  | temperature | pressure | humidity | flow | agitator | pH
deriving DecidableEq

namespace Channel

def address : Channel → ℤ
  | temperature => 1028
  | pressure => 1029
  | humidity => 1030
  | flow => 1031
  | agitator => 1034
  | pH => 1035

/-- What a reading of the channel shows. -/
def scaled : Channel → ℚ → ℚ
  | pH, value => value / 10
  | _, value => value

end Channel

namespace Snapshot

def create (time : ℤ) : Snapshot where
  time := time
  temp := 0
  pressure := 0
  humidity := 0
  flow := 0
  batchState := 0
  progress := 0
  agitator := 0
  pH := 0

def get (snapshot : Snapshot) : Channel → ℚ
  | .temperature => snapshot.temp
  | .pressure => snapshot.pressure
  | .humidity => snapshot.humidity
  | .flow => snapshot.flow
  | .agitator => snapshot.agitator
  | .pH => snapshot.pH

/-- `value.toInt()`. -/
def truncate (value : ℚ) : ℤ := value.num.tdiv value.den

/-- The `switch` on the register. -/
def record (snapshot : Snapshot) (data : PlcData ℚ) : Snapshot :=
  match data.register with
  | 1028 => { snapshot with temp := data.value }
  | 1029 => { snapshot with pressure := data.value }
  | 1030 => { snapshot with humidity := data.value }
  | 1031 => { snapshot with flow := data.value }
  | 1032 => { snapshot with batchState := truncate data.value }
  | 1033 => { snapshot with progress := data.value }
  | 1034 => { snapshot with agitator := data.value }
  | 1035 => { snapshot with pH := data.value / 10 }
  | _ => snapshot

end Snapshot

/-! ## Seconds -/

/-- A reading and its time. -/
abbrev Dated := ℤ × PlcData ℚ

/-- The readings whose timestamp `DateTime.tryParse` can read. -/
def datedReadings (tryParse : String → Option ℤ) (raw : List (PlcData ℚ)) : List Dated :=
  raw.filterMap fun data ↦ (tryParse data.timestamp).map fun time ↦ (time, data)

/-- The second of an instant. -/
def secondOf (time : ℤ) : ℤ := time / 1000000

def recordReading (reading : Dated) (snapshot : Option Snapshot) : Snapshot :=
  (snapshot.getD (Snapshot.create reading.1)).record reading.2

/-- One snapshot for each second, in the order of the list. -/
def secMap (readings : List Dated) : List (ℤ × Snapshot) :=
  group (fun reading ↦ secondOf reading.1) recordReading readings

def sortByTime (snapshots : List Snapshot) : List Snapshot :=
  snapshots.insertionSort fun s t ↦ s.time ≤ t.time

def secList (readings : List Dated) : List Snapshot :=
  sortByTime ((secMap readings).map Prod.snd)

/-! ## Buckets -/

def millisecondsSinceEpoch (time : ℤ) : ℤ := time.tdiv 1000

/-- The time of the first second. -/
def epoch0 (readings : List Dated) : ℤ :=
  ((secList readings).head?.map fun first ↦ millisecondsSinceEpoch first.time).getD 0

/-- The bucket that a time falls in. -/
def bucketOf (epoch intervalSec time : ℤ) : ℤ :=
  (millisecondsSinceEpoch time - epoch).tdiv (intervalSec * 1000)

def buckets (epoch intervalSec : ℤ) (seconds : List Snapshot) : List (ℤ × List Snapshot) :=
  group (fun snapshot ↦ bucketOf epoch intervalSec snapshot.time)
    (fun snapshot bucket ↦ bucket.getD [] ++ [snapshot]) seconds

/-- The most frequent batch state, the earlier one of two with the same count. -/
def mostFrequent (seconds : List Snapshot) : ℤ :=
  match group Snapshot.batchState (fun _ count ↦ count.getD 0 + 1) seconds with
  | [] => 0
  | entry :: entries =>
      (entries.foldl (fun (a b : ℤ × ℕ) ↦ if b.2 ≤ a.2 then a else b) entry).1

/-- The averages of a bucket, which has a second. -/
def averageOf (first : Snapshot) (rest : List Snapshot) : Snapshot :=
  let seconds := first :: rest
  { time := (seconds.getD (seconds.length / 2) first).time
    temp := average Snapshot.temp seconds
    pressure := average Snapshot.pressure seconds
    humidity := average Snapshot.humidity seconds
    flow := average Snapshot.flow seconds
    batchState := mostFrequent seconds
    progress := (seconds.getLastD first).progress
    agitator := average Snapshot.agitator seconds
    pH := average Snapshot.pH seconds }

/-- A bucket is not empty. -/
def averageBucket : List Snapshot → Option Snapshot
  | [] => none
  | first :: rest => some (averageOf first rest)

/-- `_groupByTimestamp`. -/
def groupByTimestamp (tryParse : String → Option ℤ) (intervalSec : ℤ)
    (raw : List (PlcData ℚ)) : List Snapshot :=
  let readings := datedReadings tryParse raw
  let seconds := secList readings
  if seconds.isEmpty ∨ intervalSec ≤ 1 then seconds
  else
    sortByTime ((buckets (epoch0 readings) intervalSec seconds).filterMap fun entry ↦
      averageBucket entry.2)

/-! ## A second, by its readings -/

@[simp] theorem Snapshot.time_record (snapshot : Snapshot) (data : PlcData ℚ) :
    (snapshot.record data).time = snapshot.time := by
  unfold Snapshot.record
  split <;> rfl

theorem Snapshot.get_record (snapshot : Snapshot) (data : PlcData ℚ) (channel : Channel) :
    (snapshot.record data).get channel =
      if data.register = channel.address then channel.scaled data.value
      else snapshot.get channel := by
  unfold Snapshot.record
  split <;> rename_i hregister
  case h_9 =>
    rw [if_neg]
    intro heq
    cases channel <;> contradiction
  all_goals
    rw [hregister]
    cases channel <;> rfl

/-- Of a second's readings, the one of the channel that is listed last. -/
def lastReading (channel : Channel) (readings : List Dated) : Option Dated :=
  (readings.filter fun reading ↦ reading.2.register = channel.address).getLast?

/-- A second has the time of its first reading, and the value of each channel's last one, or zero if
there is none. -/
theorem entry_recordReading {readings : List Dated} {snapshot : Snapshot}
    (h : entry recordReading readings = some snapshot) :
    (readings.head?.map Prod.fst) = some snapshot.time ∧ ∀ channel : Channel, snapshot.get channel =
      ((lastReading channel readings).map fun last ↦ channel.scaled last.2.value).getD 0 := by
  induction readings using List.reverseRecOn generalizing snapshot with
  | nil => exact nomatch h
  | append_singleton readings reading ih =>
      rw [entry_append_singleton, Option.some.injEq] at h
      subst h
      cases hbefore : entry recordReading readings with
      | none =>
          obtain rfl : readings = [] := by
            by_contra hne
            obtain ⟨v, hv⟩ : ∃ v, entry recordReading readings = some v := exists_entry hne
            rw [hv] at hbefore
            cases hbefore
          refine ⟨by simp [recordReading, Snapshot.create], fun channel ↦ ?_⟩
          rw [recordReading, Option.getD_none, Snapshot.get_record]
          by_cases hregister : reading.2.register = channel.address
          · simp [lastReading, hregister]
          · have hzero : (Snapshot.create reading.1).get channel = 0 := by cases channel <;> rfl
            simp [lastReading, hregister, hzero]
      | some before =>
          obtain ⟨htime, hget⟩ := ih hbefore
          refine ⟨?_, fun channel ↦ ?_⟩
          · rw [recordReading, Option.getD_some, Snapshot.time_record, ← htime]
            cases readings with
            | nil => exact nomatch hbefore
            | cons first rest => rfl
          · rw [recordReading, Option.getD_some, Snapshot.get_record, hget channel]
            by_cases hregister : reading.2.register = channel.address
            · simp [lastReading, List.filter_append, hregister]
            · simp [lastReading, List.filter_append, hregister]

/-- The readings of one second, in the order of the list. -/
def readingsOf (second : ℤ) (readings : List Dated) : List Dated :=
  readings.filter fun reading ↦ secondOf reading.1 = second

theorem mem_secList_iff {readings : List Dated} {snapshot : Snapshot} :
    snapshot ∈ secList readings ↔
      ∃ second, entry recordReading (readingsOf second readings) = some snapshot := by
  rw [secList, sortByTime, List.mem_insertionSort, List.mem_map]
  constructor
  · rintro ⟨⟨second, snapshot⟩, hmem, rfl⟩
    exact ⟨second, mem_group_iff.mp hmem⟩
  · rintro ⟨second, hentry⟩
    exact ⟨(second, snapshot), mem_group_iff.mpr hentry, rfl⟩

/-! ## A bucket, by its seconds -/

theorem entry_append (seconds : List Snapshot) (h : seconds ≠ []) :
    entry (fun snapshot bucket ↦ bucket.getD [] ++ [snapshot]) seconds = some seconds := by
  induction seconds using List.reverseRecOn with
  | nil => exact absurd rfl h
  | append_singleton seconds last ih =>
      rw [entry_append_singleton]
      by_cases hempty : seconds = []
      · subst hempty
        rfl
      · rw [ih hempty, Option.getD_some]

theorem mem_buckets_iff {epoch intervalSec bucket : ℤ} {seconds group : List Snapshot} :
    (bucket, group) ∈ buckets epoch intervalSec seconds ↔
      group ≠ [] ∧
        seconds.filter (fun snapshot ↦ bucketOf epoch intervalSec snapshot.time = bucket) =
          group := by
  rw [buckets, mem_group_iff]
  generalize seconds.filter _ = members
  by_cases hempty : members = []
  · subst hempty
    simp only [entry, List.foldl_nil, reduceCtorEq, false_iff, not_and]
    exact fun hne heq ↦ hne heq.symm
  · rw [entry_append members hempty, Option.some.injEq]
    exact ⟨fun heq ↦ ⟨heq ▸ hempty, heq⟩, And.right⟩

theorem get_averageOf (first : Snapshot) (rest : List Snapshot) (channel : Channel) :
    (averageOf first rest).get channel = average (Snapshot.get · channel) (first :: rest) := by
  cases channel <;> rfl

/-- The time shown is that of a second of the bucket. -/
theorem time_averageOf (first : Snapshot) (rest : List Snapshot) :
    ∃ second ∈ first :: rest, (averageOf first rest).time = second.time := by
  have hlt : (first :: rest).length / 2 < (first :: rest).length :=
    Nat.div_lt_self (Nat.succ_pos _) (by decide)
  refine ⟨_, List.getElem_mem hlt, ?_⟩
  simp only [averageOf]
  rw [List.getD_eq_getElem?_getD, List.getElem?_eq_getElem hlt, Option.getD_some]

section Bucket

variable {epoch intervalSec bucket : ℤ} {seconds : List Snapshot} {first : Snapshot}
  {rest : List Snapshot} (hbucket : seconds.filter (fun snapshot ↦
    bucketOf epoch intervalSec snapshot.time = bucket) = first :: rest)

include hbucket

theorem mem_of_mem_bucket {snapshot : Snapshot} (hmem : snapshot ∈ first :: rest) :
    snapshot ∈ seconds ∧ bucketOf epoch intervalSec snapshot.time = bucket := by
  rw [← hbucket, List.mem_filter] at hmem
  exact ⟨hmem.1, of_decide_eq_true hmem.2⟩

theorem bucketOf_averageOf :
    bucketOf epoch intervalSec (averageOf first rest).time = bucket := by
  obtain ⟨second, hsecond, htime⟩ := time_averageOf first rest
  rw [htime]
  exact (mem_of_mem_bucket hbucket hsecond).2

end Bucket

/-- What is shown is the average of some bucket's seconds. -/
theorem mem_groupByTimestamp_iff {tryParse : String → Option ℤ} {intervalSec : ℤ}
    {raw : List (PlcData ℚ)} (hinterval : 1 < intervalSec) {shown : Snapshot} :
    let readings := datedReadings tryParse raw
    shown ∈ groupByTimestamp tryParse intervalSec raw ↔
      ∃ bucket first rest, (secList readings).filter
          (fun snapshot ↦ bucketOf (epoch0 readings) intervalSec snapshot.time = bucket) =
            first :: rest ∧
        averageOf first rest = shown := by
  intro readings
  have haverages : shown ∈ (buckets (epoch0 readings) intervalSec (secList readings)).filterMap
        (fun entry ↦ averageBucket entry.2) ↔
      ∃ bucket first rest, (secList readings).filter
          (fun snapshot ↦ bucketOf (epoch0 readings) intervalSec snapshot.time = bucket) =
            first :: rest ∧
        averageOf first rest = shown := by
    rw [List.mem_filterMap]
    constructor
    · rintro ⟨⟨bucket, group⟩, hmem, haverage⟩
      cases group with
      | nil => exact nomatch haverage
      | cons first rest =>
          exact ⟨bucket, first, rest, (mem_buckets_iff.mp hmem).2, Option.some.inj haverage⟩
    · rintro ⟨bucket, first, rest, hfilter, rfl⟩
      exact ⟨(bucket, first :: rest), mem_buckets_iff.mpr ⟨List.cons_ne_nil _ _, hfilter⟩, rfl⟩
  rw [groupByTimestamp]
  split
  case isTrue hnone =>
      have hempty : secList readings = [] :=
        List.isEmpty_iff.mp (hnone.resolve_right (by omega))
      change shown ∈ secList readings ↔ _
      rw [hempty]
      simp
  case isFalse =>
      rw [sortByTime, List.mem_insertionSort]
      exact haverages

/-! ## Averages of readings -/

/-- The readings of a channel whose timestamp falls in a bucket. -/
def readingsIn (channel : Channel) (intervalSec bucket : ℤ) (readings : List Dated) : List Dated :=
  readings.filter fun reading ↦ reading.2.register = channel.address ∧
    bucketOf (epoch0 readings) intervalSec reading.1 = bucket

/-- Every average shown lies between two readings of the channel in the same bucket. -/
def Bounded (tryParse : String → Option ℤ) (intervalSec : ℤ) (channel : Channel)
    (raw : List (PlcData ℚ)) : Prop :=
  let readings := datedReadings tryParse raw
  ∀ shown ∈ groupByTimestamp tryParse intervalSec raw,
    let bucket := bucketOf (epoch0 readings) intervalSec shown.time
    (∃ low ∈ readingsIn channel intervalSec bucket readings,
        channel.scaled low.2.value ≤ shown.get channel) ∧
      ∃ high ∈ readingsIn channel intervalSec bucket readings,
        shown.get channel ≤ channel.scaled high.2.value

instance (tryParse : String → Option ℤ) (intervalSec : ℤ) (channel : Channel)
    (raw : List (PlcData ℚ)) : Decidable (Bounded tryParse intervalSec channel raw) := by
  unfold Bounded
  infer_instance

/-- Every second with a reading has one of the channel, and the last one listed falls in the bucket
of the second's first one. -/
def Covered (intervalSec : ℤ) (channel : Channel) (readings : List Dated) : Prop :=
  ∀ second first rest, readingsOf second readings = first :: rest →
    ∃ last, lastReading channel (first :: rest) = some last ∧
      bucketOf (epoch0 readings) intervalSec last.1 = bucketOf (epoch0 readings) intervalSec first.1

/-- With all seconds covered, each second shows a reading of its bucket. -/
theorem Covered.exists_reading {intervalSec : ℤ} {channel : Channel} {readings : List Dated}
    (h : Covered intervalSec channel readings) {snapshot : Snapshot}
    (hmem : snapshot ∈ secList readings) :
    ∃ reading ∈ readingsIn channel intervalSec
        (bucketOf (epoch0 readings) intervalSec snapshot.time) readings,
      channel.scaled reading.2.value = snapshot.get channel := by
  obtain ⟨second, hentry⟩ := mem_secList_iff.mp hmem
  obtain ⟨htime, hget⟩ := entry_recordReading hentry
  cases hsecond : readingsOf second readings with
  | nil =>
      rw [hsecond] at hentry
      exact nomatch hentry
  | cons first rest =>
      obtain ⟨last, hlast, hbucket⟩ := h second first rest hsecond
      rw [hsecond, List.head?_cons, Option.map_some, Option.some.injEq] at htime
      have hvalue := hget channel
      rw [hsecond, hlast, Option.map_some, Option.getD_some] at hvalue
      have hin := List.mem_filter.mp (List.mem_of_getLast? hlast)
      rw [← hsecond] at hin
      refine ⟨last, List.mem_filter.mpr ⟨(List.mem_filter.mp hin.1).1, ?_⟩, hvalue.symm⟩
      rw [← htime, decide_eq_true_eq]
      exact ⟨of_decide_eq_true hin.2, hbucket⟩

theorem Covered.bounded {tryParse : String → Option ℤ} {intervalSec : ℤ}
    (hinterval : 1 < intervalSec) {channel : Channel} {raw : List (PlcData ℚ)}
    (h : Covered intervalSec channel (datedReadings tryParse raw)) :
    Bounded tryParse intervalSec channel raw := by
  intro shown hshown bucket
  set readings := datedReadings tryParse raw
  obtain ⟨bucket', first, rest, hgroup, rfl⟩ := (mem_groupByTimestamp_iff hinterval).mp hshown
  have hbucket : bucket = bucket' := bucketOf_averageOf hgroup
  have hreading {snapshot : Snapshot} (hmem : snapshot ∈ first :: rest) :
      ∃ reading ∈ readingsIn channel intervalSec bucket readings,
        channel.scaled reading.2.value = snapshot.get channel := by
    obtain ⟨hsecond, hin⟩ := mem_of_mem_bucket hgroup hmem
    rw [hbucket, ← hin]
    exact h.exists_reading hsecond
  rw [get_averageOf]
  constructor
  · obtain ⟨least, hleast, hle⟩ :=
      exists_le_average (f := (Snapshot.get · channel)) (List.cons_ne_nil first rest)
    obtain ⟨reading, hmem, hvalue⟩ := hreading hleast
    exact ⟨reading, hmem, hvalue.trans_le hle⟩
  · obtain ⟨greatest, hgreatest, hle⟩ :=
      exists_average_le (f := (Snapshot.get · channel)) (List.cons_ne_nil first rest)
    obtain ⟨reading, hmem, hvalue⟩ := hreading hgreatest
    exact ⟨reading, hmem, hle.trans_eq hvalue.symm⟩

/-! ## Whatever the values -/

/-- The same timestamps and registers, with any values. -/
def SameShape (raw raw' : List (PlcData ℚ)) : Prop :=
  raw.map (fun data ↦ (data.timestamp, data.register)) =
    raw'.map fun data ↦ (data.timestamp, data.register)

def shapeOf (readings : List Dated) : List (ℤ × ℤ) :=
  readings.map fun reading ↦ (reading.1, reading.2.register)

theorem SameShape.shapeOf_eq {raw raw' : List (PlcData ℚ)} (h : SameShape raw raw')
    (tryParse : String → Option ℤ) :
    shapeOf (datedReadings tryParse raw) = shapeOf (datedReadings tryParse raw') := by
  have hshape (raw : List (PlcData ℚ)) : shapeOf (datedReadings tryParse raw) =
      (raw.map fun data ↦ (data.timestamp, data.register)).filterMap fun shape ↦
        (tryParse shape.1).map fun time ↦ (time, shape.2) := by
    rw [shapeOf, datedReadings, List.map_filterMap, List.filterMap_map]
    congr 1
    funext data
    rw [Option.map_map]
    rfl
  rw [hshape, hshape, h]

/-- The times of the seconds, in their order. -/
def firstTimes (times : List ℤ) : List ℤ :=
  ((group secondOf (fun time first ↦ first.getD time) times).map Prod.snd).insertionSort (· ≤ ·)

theorem map_time_secList (readings : List Dated) :
    (secList readings).map Snapshot.time = firstTimes (readings.map Prod.fst) := by
  have htimes : (secMap readings).map (Prod.map id Snapshot.time) =
      group secondOf (fun time first ↦ first.getD time) (readings.map Prod.fst) := by
    refine map_group Snapshot.time Prod.fst (fun _ ↦ rfl) (fun reading snapshot ↦ ?_) readings
    cases snapshot <;> simp [recordReading, Snapshot.create]
  rw [secList, sortByTime, firstTimes, ← htimes,
    List.map_insertionSort _ (fun t t' : ℤ ↦ t ≤ t') Snapshot.time _ fun _ _ _ _ ↦ Iff.rfl]
  simp [secMap, Function.comp_def]

theorem epoch0_eq (readings : List Dated) : epoch0 readings =
    ((firstTimes (readings.map Prod.fst)).head?.map millisecondsSinceEpoch).getD 0 := by
  rw [← map_time_secList, List.head?_map, Option.map_map]
  rfl

section Shape

variable {readings readings' : List Dated} (h : shapeOf readings = shapeOf readings')

include h

theorem epoch0_of_shape : epoch0 readings = epoch0 readings' := by
  have htimes : readings.map Prod.fst = readings'.map Prod.fst := by
    have hfst := congrArg (List.map Prod.fst) h
    simpa [shapeOf, Function.comp_def] using hfst
  rw [epoch0_eq, epoch0_eq, htimes]

theorem shapeOf_readingsOf (second : ℤ) :
    shapeOf (readingsOf second readings) = shapeOf (readingsOf second readings') := by
  have hfilter (readings : List Dated) : shapeOf (readingsOf second readings) =
      (shapeOf readings).filter fun shape ↦ secondOf shape.1 = second := by
    rw [shapeOf, shapeOf, List.filter_map]
    rfl
  rw [hfilter, hfilter, h]

theorem time_lastReading (channel : Channel) :
    (lastReading channel readings).map Prod.fst = (lastReading channel readings').map Prod.fst := by
  have hlast (readings : List Dated) : (lastReading channel readings).map Prod.fst =
      (((shapeOf readings).filter fun shape ↦ shape.2 = channel.address).getLast?).map
        Prod.fst := by
    rw [shapeOf, List.filter_map, List.getLast?_map, Option.map_map]
    rfl
  rw [hlast, hlast, h]

/-- A second of one list is a second of the other. -/
theorem exists_second {second : ℤ} {first : Dated} {rest : List Dated}
    (hsecond : readingsOf second readings = first :: rest) :
    ∃ first' rest', readingsOf second readings' = first' :: rest' ∧ first'.1 = first.1 ∧
      ∀ channel, (lastReading channel (first' :: rest')).map Prod.fst =
        (lastReading channel (first :: rest)).map Prod.fst := by
  have hshape := shapeOf_readingsOf h second
  rw [hsecond] at hshape
  cases hsecond' : readingsOf second readings' with
  | nil =>
      rw [hsecond'] at hshape
      exact nomatch hshape
  | cons first' rest' =>
      rw [hsecond'] at hshape
      have hfirst : first.1 = first'.1 := (Prod.mk.inj (List.cons.inj hshape).1).1
      exact ⟨first', rest', rfl, hfirst.symm, fun channel ↦
        (time_lastReading hshape channel).symm⟩

theorem Covered.of_shape {intervalSec : ℤ} {channel : Channel}
    (hcovered : Covered intervalSec channel readings) : Covered intervalSec channel readings' := by
  intro second first' rest' hsecond
  obtain ⟨first, rest, hfirst, htime, hlast⟩ := exists_second h.symm hsecond
  obtain ⟨last, hcover, hbucket⟩ := hcovered second first rest hfirst
  have hlast' := hlast channel
  rw [hcover, Option.map_some] at hlast'
  obtain ⟨last', hlast', htime'⟩ := Option.map_eq_some_iff.mp hlast'.symm
  refine ⟨last', hlast', ?_⟩
  rw [← epoch0_of_shape h, htime', hbucket, htime]

end Shape

/-! ## Values that show a gap -/

/-- One for the readings in a bucket, and zero for all others. -/
def markBucket (tryParse : String → Option ℤ) (epoch intervalSec bucket : ℤ)
    (data : PlcData ℚ) : PlcData ℚ :=
  { data with
    value := if (tryParse data.timestamp).map (bucketOf epoch intervalSec) = some bucket then 1
      else 0 }

theorem sameShape_markBucket (tryParse : String → Option ℤ) (epoch intervalSec bucket : ℤ)
    (raw : List (PlcData ℚ)) :
    SameShape raw (raw.map (markBucket tryParse epoch intervalSec bucket)) := by
  rw [SameShape, List.map_map]
  rfl

/-- The marks of the readings. -/
theorem value_markBucket {tryParse : String → Option ℤ} {epoch intervalSec bucket : ℤ}
    {raw : List (PlcData ℚ)} {reading : Dated} (hmem : reading ∈ datedReadings tryParse
      (raw.map (markBucket tryParse epoch intervalSec bucket))) :
    reading.2.value = if bucketOf epoch intervalSec reading.1 = bucket then 1 else 0 := by
  rw [datedReadings, List.filterMap_map, List.mem_filterMap] at hmem
  obtain ⟨data, -, hdata⟩ := hmem
  obtain ⟨time, htime, rfl⟩ := Option.map_eq_some_iff.mp hdata
  have hparse : tryParse data.timestamp = some time := htime
  simp [markBucket, hparse]

theorem Channel.scaled_le_of_mark (channel : Channel) {value : ℚ} (h : value = 0 ∨ value = 1) :
    channel.scaled value ≤ channel.scaled 1 := by
  rcases h with rfl | rfl <;> cases channel <;> norm_num [Channel.scaled]

theorem Channel.scaled_one_pos (channel : Channel) : 0 < channel.scaled 1 := by
  cases channel <;> norm_num [Channel.scaled]

theorem Channel.scaled_zero (channel : Channel) : channel.scaled 0 = 0 := by
  cases channel <;> norm_num [Channel.scaled]

theorem mem_of_lastReading {channel : Channel} {second : ℤ} {readings : List Dated} {last : Dated}
    (h : lastReading channel (readingsOf second readings) = some last) : last ∈ readings :=
  (List.mem_filter.mp (List.mem_filter.mp (List.mem_of_getLast? h)).1).1

/-- No second shows more than the mark. -/
theorem get_le_of_marks (channel : Channel) {readings : List Dated}
    (hmark : ∀ reading ∈ readings, reading.2.value = 0 ∨ reading.2.value = 1)
    {snapshot : Snapshot} (hmem : snapshot ∈ secList readings) :
    snapshot.get channel ≤ channel.scaled 1 := by
  obtain ⟨second, hentry⟩ := mem_secList_iff.mp hmem
  rw [(entry_recordReading hentry).2 channel]
  cases hlast : lastReading channel (readingsOf second readings) with
  | none => exact channel.scaled_one_pos.le
  | some last => exact channel.scaled_le_of_mark (hmark last (mem_of_lastReading hlast))

/-- A second that does not show a reading of its bucket takes the average of the marks below the
mark of every reading in the bucket. -/
theorem not_bounded_of_marks {tryParse : String → Option ℤ} {intervalSec : ℤ}
    (hinterval : 1 < intervalSec) {channel : Channel} {raw : List (PlcData ℚ)} {second : ℤ}
    {first : Dated} {rest : List Dated}
    (hsecond : readingsOf second (datedReadings tryParse raw) = first :: rest)
    (hmark : ∀ reading ∈ datedReadings tryParse raw, reading.2.value =
      if bucketOf (epoch0 (datedReadings tryParse raw)) intervalSec reading.1 =
        bucketOf (epoch0 (datedReadings tryParse raw)) intervalSec first.1 then 1 else 0)
    (hgap : ∀ last, lastReading channel (first :: rest) = some last →
      bucketOf (epoch0 (datedReadings tryParse raw)) intervalSec last.1 ≠
        bucketOf (epoch0 (datedReadings tryParse raw)) intervalSec first.1) :
    ¬Bounded tryParse intervalSec channel raw := by
  intro hbounded
  set readings := datedReadings tryParse raw
  have hmarked : ∀ reading ∈ readings, reading.2.value = 0 ∨ reading.2.value = 1 := by
    intro reading hmem
    rw [hmark reading hmem]
    split
    · exact .inr rfl
    · exact .inl rfl
  -- the second with the gap shows zero
  obtain ⟨gap, hentry⟩ : ∃ gap, entry recordReading (first :: rest) = some gap :=
    exists_entry (List.cons_ne_nil first rest)
  obtain ⟨htime, hget⟩ := entry_recordReading hentry
  have hzero : gap.get channel = 0 := by
    rw [hget channel]
    cases hlast : lastReading channel (first :: rest) with
    | none => rfl
    | some last =>
        rw [Option.map_some, Option.getD_some, hmark last (mem_of_lastReading (hsecond ▸ hlast)),
          if_neg (hgap last hlast), channel.scaled_zero]
  have hgapMem : gap ∈ (secList readings).filter fun snapshot ↦
      bucketOf (epoch0 readings) intervalSec snapshot.time =
        bucketOf (epoch0 readings) intervalSec first.1 := by
    refine List.mem_filter.mpr ⟨mem_secList_iff.mpr ⟨second, hsecond ▸ hentry⟩, ?_⟩
    rw [Option.some.inj htime, decide_eq_true_eq]
  cases hgroup : (secList readings).filter fun snapshot ↦
      bucketOf (epoch0 readings) intervalSec snapshot.time =
        bucketOf (epoch0 readings) intervalSec first.1 with
  | nil =>
      rw [hgroup] at hgapMem
      exact absurd hgapMem List.not_mem_nil
  | cons head tail =>
      rw [hgroup] at hgapMem
      have hshown := (mem_groupByTimestamp_iff hinterval).mpr ⟨_, head, tail, hgroup, rfl⟩
      obtain ⟨⟨low, hlow, hbelow⟩, -⟩ := hbounded _ hshown
      have hin := (List.mem_filter.mp hlow)
      rw [bucketOf_averageOf hgroup, decide_eq_true_eq] at hin
      rw [hmark low hin.1, if_pos hin.2.2, get_averageOf] at hbelow
      refine absurd hbelow (not_le.mpr (average_lt (fun snapshot hsnapshot ↦ ?_) ⟨gap, hgapMem, ?_⟩))
      · exact get_le_of_marks channel hmarked (mem_of_mem_bucket hgroup hsnapshot).1
      · rw [hzero]
        exact channel.scaled_one_pos

/-- **An average is that of readings.** Whatever the values of the readings, each average of a
channel lies between two of its readings in the bucket exactly when every second has a reading of
the channel, and the last one listed falls in the bucket of the second's first reading. -/
theorem bounded_iff_covered (tryParse : String → Option ℤ) {intervalSec : ℤ}
    (hinterval : 1 < intervalSec) (channel : Channel) (raw : List (PlcData ℚ)) :
    (∀ raw', SameShape raw raw' → Bounded tryParse intervalSec channel raw') ↔
      Covered intervalSec channel (datedReadings tryParse raw) := by
  constructor
  · intro hall second first rest hsecond
    by_contra hgap
    set epoch := epoch0 (datedReadings tryParse raw)
    set bucket := bucketOf epoch intervalSec first.1
    have hsame := sameShape_markBucket tryParse epoch intervalSec bucket raw
    have hshape := hsame.shapeOf_eq tryParse
    obtain ⟨first', rest', hsecond', htime, hlast⟩ := exists_second hshape hsecond
    refine not_bounded_of_marks hinterval hsecond' (fun reading hmem ↦ ?_) (fun last' hlast' ↦ ?_)
      (hall _ hsame)
    · rw [value_markBucket hmem, ← epoch0_of_shape hshape, htime]
    · rw [← epoch0_of_shape hshape, htime]
      intro hbucket
      have hmap := hlast channel
      rw [hlast', Option.map_some] at hmap
      obtain ⟨last, hlast, htime'⟩ := Option.map_eq_some_iff.mp hmap.symm
      exact hgap ⟨last, hlast, by rw [htime']; exact hbucket⟩
  · intro hcovered raw' hsame
    exact (hcovered.of_shape (hsame.shapeOf_eq tryParse)).bounded hinterval

/-- What `DateTime.tryParse` makes of two timestamps. -/
def sampleParse : String → Option ℤ
  | "2026-01-01T00:00:00Z" => some 1767225600000000
  | "2026-01-01T00:00:01Z" => some 1767225601000000
  | _ => none

/-- A temperature of 20 in one second, and only a pressure in the next. -/
def sampleRaw : List (PlcData ℚ) :=
  [⟨"plc-1", 1028, 20, "2026-01-01T00:00:00Z"⟩, ⟨"plc-1", 1029, 1013, "2026-01-01T00:00:01Z"⟩]

theorem bounded_iff_covered_sample :
    (∀ raw', SameShape sampleRaw raw' → Bounded sampleParse 60 .temperature raw') ↔
      Covered 60 .temperature (datedReadings sampleParse sampleRaw) :=
  bounded_iff_covered sampleParse (by decide) .temperature sampleRaw

/-- The two seconds are shown as a temperature of 10. -/
theorem not_bounded_sample :
    (groupByTimestamp sampleParse 60 sampleRaw).map Snapshot.temp = [10] ∧
      ¬Bounded sampleParse 60 .temperature sampleRaw := by
  decide +kernel

end VyuhHmi.App
