import VyuhHmi.App.Severity
import VyuhHmi.Foundation.Transition

/-!
# The onset of alarms

Every message of the active device that is received to its end builds the alarms anew, and an alarm
has the time at which it was built.  An alarm that stays due keeps the time of its onset only as long
as no further message comes through.
-/

open Transition

namespace VyuhHmi.App

variable {D : Type} [DartDouble D]

open DartDouble (le lt zero)

/-! ## The alarms of a message -/

namespace AlarmThreshold

variable {threshold : AlarmThreshold D} {config : DashboardConfig D} {raw val : D} {now : Instant}

theorem timestamp_highAlarms : ∀ alarm ∈ threshold.highAlarms val now, alarm.timestamp = now := by
  unfold highAlarms
  dsimp only
  split
  · simp
  · split <;> simp

theorem timestamp_lowAlarms : ∀ alarm ∈ threshold.lowAlarms val now, alarm.timestamp = now := by
  unfold lowAlarms
  dsimp only
  split
  · simp
  · split <;> simp

/-- The identities of a threshold's alarms. -/
def dueIds (threshold : AlarmThreshold D) (val : D) : List String :=
  ((threshold.highKey val).toList ++ (threshold.lowKey val).toList).map Prod.fst

theorem map_id_alarmsFor (config : DashboardConfig D) (raw : D) (now : Instant) :
    (threshold.alarmsFor config raw now).map Alarm.id =
      threshold.dueIds (config.scaled threshold.register raw) := by
  rw [dueIds, ← map_key_alarmsFor config raw now, List.map_map]
  rfl

end AlarmThreshold

/-- The identities of the alarms that are due under these values. -/
def alarmIds (config : DashboardConfig D) (isServerConnected isWsConnected : Bool)
    (liveValues : ℤ → Option D) : List String :=
  (config.alarms.flatMap fun threshold ↦
      match liveValues threshold.register with
      | none => []
      | some raw => threshold.dueIds (config.scaled threshold.register raw)) ++
    if !isWsConnected && isServerConnected then ["ws-disconnected"] else []

namespace DashboardStore

variable {config : DashboardConfig D} {isServerConnected isWsConnected : Bool}

theorem map_id_checkAlarms (config : DashboardConfig D) (s : DashboardStore D) (now : Instant) :
    (s.checkAlarms config now).activeAlarms.map Alarm.id =
      alarmIds config s.isServerConnected s.isWsConnected s.liveValues := by
  have hconnection : (s.connectionAlarms now).map Alarm.id =
      if !s.isWsConnected && s.isServerConnected then ["ws-disconnected"] else [] := by
    unfold connectionAlarms
    split <;> rfl
  change (s.thresholdAlarms config now ++ s.connectionAlarms now).map Alarm.id = _
  rw [List.map_append, hconnection, AlarmThreshold.thresholdAlarms_eq, List.map_flatMap, alarmIds]
  congr 2
  funext threshold
  cases s.liveValues threshold.register with
  | none => rfl
  | some raw => exact threshold.map_id_alarmsFor config raw now

theorem timestamp_checkAlarms {s : DashboardStore D} {now : Instant} :
    ∀ alarm ∈ (s.checkAlarms config now).activeAlarms, alarm.timestamp = now := by
  intro alarm hmem
  have hmem : alarm ∈ s.thresholdAlarms config now ++ s.connectionAlarms now := hmem
  rcases List.mem_append.mp hmem with hmem | hmem
  · obtain ⟨threshold, -, hmem⟩ := List.mem_flatMap.mp hmem
    cases hraw : s.liveValues threshold.register with
    | none =>
        rw [hraw] at hmem
        exact absurd hmem List.not_mem_nil
    | some raw =>
        rw [hraw] at hmem
        rcases List.mem_append.mp hmem with hmem | hmem
        · exact AlarmThreshold.timestamp_highAlarms alarm hmem
        · exact AlarmThreshold.timestamp_lowAlarms alarm hmem
  · unfold connectionAlarms at hmem
    split at hmem
    · rw [List.mem_singleton.mp hmem]
    · exact absurd hmem List.not_mem_nil

/-! ## Messages of the active device -/

/-- The messages that are received to their end. -/
def handled (config : DashboardConfig D) (messages : List (PlcData D × Instant)) :
    List (PlcData D × Instant) :=
  messages.filter fun message ↦ config.handles message.1

section Handled

variable {message : PlcData D × Instant}

@[simp] theorem handled_nil (config : DashboardConfig D) : handled config [] = [] := rfl

@[simp] theorem handled_append (config : DashboardConfig D)
    (messages messages' : List (PlcData D × Instant)) :
    handled config (messages ++ messages') = handled config messages ++ handled config messages' :=
  List.filter_append ..

theorem handled_cons_of_handles (h : config.handles message.1 = true)
    (messages : List (PlcData D × Instant)) :
    handled config (message :: messages) = message :: handled config messages :=
  List.filter_cons_of_pos h

theorem handled_cons_of_not (h : ¬config.handles message.1 = true)
    (messages : List (PlcData D × Instant)) :
    handled config (message :: messages) = handled config messages :=
  List.filter_cons_of_neg h

end Handled

/-- The store after these messages. -/
def afterMessages (config : DashboardConfig D) (isServerConnected isWsConnected : Bool)
    (messages : List (PlcData D × Instant)) : DashboardStore D :=
  (initWith config isServerConnected isWsConnected).run config
    (messages.map fun message ↦ .onData message.1 message.2)

/-- The identities of the alarms due after the last of some messages. -/
def idsDue (config : DashboardConfig D) (isServerConnected isWsConnected : Bool)
    (messages : List (PlcData D × Instant)) : List String :=
  alarmIds config isServerConnected isWsConnected (liveAfter (messages.map Prod.fst))

/-- The alarms on display are those of the last message received to its end, with its time. -/
structure ShowsHandled (config : DashboardConfig D) (isServerConnected isWsConnected : Bool)
    (messages : List (PlcData D × Instant)) (s : DashboardStore D) : Prop where
  active : s.activeDeviceId = config.deviceId
  server : s.isServerConnected = isServerConnected
  ws : s.isWsConnected = isWsConnected
  live : s.liveValues = liveAfter ((handled config messages).map Prod.fst)
  ids : s.activeAlarms.map Alarm.id = if handled config messages = [] then []
    else idsDue config isServerConnected isWsConnected (handled config messages)
  time : ∀ alarm ∈ s.activeAlarms,
    ∃ last, (handled config messages).getLast? = some last ∧ alarm.timestamp = last.2

theorem showsHandled_init :
    ShowsHandled config isServerConnected isWsConnected []
      (initWith config isServerConnected isWsConnected) where
  active := rfl
  server := rfl
  ws := rfl
  live := rfl
  ids := rfl
  time := fun _ hmem ↦ absurd hmem List.not_mem_nil

/-- **Step lemma.** -/
theorem ShowsHandled.onData {messages : List (PlcData D × Instant)} {s : DashboardStore D}
    (h : ShowsHandled config isServerConnected isWsConnected messages s)
    {message : PlcData D × Instant} (hdevice : message.1.deviceId = config.deviceId) :
    ShowsHandled config isServerConnected isWsConnected (messages ++ [message])
      (s.onData config message.1 message.2) := by
  have hactive : message.1.deviceId = s.activeDeviceId := hdevice.trans h.active.symm
  rw [onData_eq]
  by_cases hhandles : config.handles message.1 = true
  · have hmore : handled config (messages ++ [message]) = handled config messages ++ [message] := by
      rw [handled_append, handled_cons_of_handles hhandles, handled_nil]
    have hlive : (s.receive config message.1).1.liveValues =
        liveAfter ((handled config (messages ++ [message])).map Prod.fst) := by
      rw [Readings.receive_liveValues, h.live, hmore, List.map_append, List.map_singleton,
        liveAfter_append_singleton]
    rw [if_pos ⟨hhandles, hactive⟩]
    refine ⟨h.active, h.server, h.ws, hlive, ?_, fun alarm hmem ↦ ⟨message, ?_, ?_⟩⟩
    · rw [map_id_checkAlarms, hmore, if_neg (by simp), ← hmore, idsDue, ← hlive, ← h.server, ← h.ws]
      rfl
    · rw [hmore, List.getLast?_concat]
    · exact timestamp_checkAlarms alarm hmem
  · have hsame : handled config (messages ++ [message]) = handled config messages := by
      rw [handled_append, handled_cons_of_not hhandles, handled_nil, List.append_nil]
    rw [if_neg fun hboth ↦ hhandles hboth.1]
    refine ⟨h.active, h.server, h.ws, ?_, ?_, ?_⟩
    · rw [hsame]
      exact h.live
    · rw [hsame]
      exact h.ids
    · rw [hsame]
      exact h.time

theorem showsHandled_afterMessages (config : DashboardConfig D)
    (isServerConnected isWsConnected : Bool) {messages : List (PlcData D × Instant)}
    (hdevice : ∀ message ∈ messages, message.1.deviceId = config.deviceId) :
    ShowsHandled config isServerConnected isWsConnected messages
      (afterMessages config isServerConnected isWsConnected messages) := by
  induction messages using List.reverseRecOn with
  | nil => exact showsHandled_init
  | append_singleton messages message ih =>
      rw [afterMessages, run, List.map_append, List.foldl_append]
      exact (ih fun earlier hmem ↦ hdevice earlier (List.mem_append_left _ hmem)).onData
        (hdevice message (by simp))

/-! ## Keeping the onset -/

/-- The identities on display after these messages. -/
def idsAfter (config : DashboardConfig D) (isServerConnected isWsConnected : Bool)
    (messages : List (PlcData D × Instant)) : List String :=
  (afterMessages config isServerConnected isWsConnected messages).activeAlarms.map Alarm.id

/-- An alarm that is there after each of some messages in a row keeps the time of the first. -/
def KeepsOnset (config : DashboardConfig D) (isServerConnected isWsConnected : Bool)
    (messages : List (PlcData D × Instant)) : Prop :=
  ∀ before onset later id, before ++ onset :: later <+: messages →
    id ∉ idsAfter config isServerConnected isWsConnected before →
    (∀ part, part <+: later →
      id ∈ idsAfter config isServerConnected isWsConnected (before ++ onset :: part)) →
    ∀ alarm ∈ (afterMessages config isServerConnected isWsConnected
        (before ++ onset :: later)).activeAlarms,
      alarm.id = id → alarm.timestamp = onset.2

/-- No alarm is due after both of two successive messages that are received to their end. -/
def NoAlarmLasts (config : DashboardConfig D) (isServerConnected isWsConnected : Bool)
    (messages : List (PlcData D × Instant)) : Prop :=
  ∀ before message next, before ++ [message, next] <+: handled config messages →
    ∀ id ∈ idsDue config isServerConnected isWsConnected (before ++ [message]),
      id ∉ idsDue config isServerConnected isWsConnected (before ++ [message, next])

section Onset

variable {messages : List (PlcData D × Instant)}
  (hdevice : ∀ message ∈ messages, message.1.deviceId = config.deviceId)

include hdevice

/-- What is on display after some of the messages. -/
theorem showsHandled_of_part {part : List (PlcData D × Instant)} (hpart : part <+: messages) :
    ShowsHandled config isServerConnected isWsConnected part
      (afterMessages config isServerConnected isWsConnected part) :=
  showsHandled_afterMessages config isServerConnected isWsConnected
    fun message hmem ↦ hdevice message (hpart.subset hmem)

theorem idsAfter_eq {part : List (PlcData D × Instant)} (hpart : part <+: messages) :
    idsAfter config isServerConnected isWsConnected part = if handled config part = [] then []
      else idsDue config isServerConnected isWsConnected (handled config part) :=
  (showsHandled_of_part hdevice hpart).ids

/-- An alarm that appears does so at a message received to its end. -/
theorem handles_of_onset {before : List (PlcData D × Instant)} {onset : PlcData D × Instant}
    {id : String} (hpre : before ++ [onset] <+: messages)
    (habsent : id ∉ idsAfter config isServerConnected isWsConnected before)
    (hpresent : id ∈ idsAfter config isServerConnected isWsConnected (before ++ [onset])) :
    config.handles onset.1 = true := by
  by_contra hnot
  have hsame : handled config (before ++ [onset]) = handled config before := by
    rw [handled_append, handled_cons_of_not hnot, handled_nil, List.append_nil]
  rw [idsAfter_eq hdevice hpre, hsame,
    ← idsAfter_eq hdevice ((List.prefix_append before [onset]).trans hpre)] at hpresent
  exact habsent hpresent

/-- **A lasting alarm keeps its onset** if no alarm is due after two successive messages that are
received to their end. -/
theorem keepsOnset_of_noAlarmLasts
    (hlasts : NoAlarmLasts config isServerConnected isWsConnected messages) :
    KeepsOnset config isServerConnected isWsConnected messages := by
  intro before onset later id hpre habsent hpresent alarm hmem hid
  have honset : before ++ [onset] <+: messages := by
    refine List.IsPrefix.trans ?_ hpre
    exact ⟨later, by simp⟩
  have hhandles := handles_of_onset hdevice honset habsent (hpresent [] List.nil_prefix)
  have hbefore : handled config (before ++ [onset]) = handled config before ++ [onset] := by
    rw [handled_append, handled_cons_of_handles hhandles, handled_nil]
  -- nothing that follows the onset is received to its end
  have hlater : handled config later = [] := by
    by_contra hne
    obtain ⟨next, rest, hnext⟩ := List.exists_cons_of_ne_nil hne
    obtain ⟨skipped, behind, rfl, hskipped, hnextHandles, -⟩ := List.filter_eq_cons_iff.mp hnext
    have hskip : handled config skipped = [] := List.filter_eq_nil_iff.mpr hskipped
    have hpart : before ++ onset :: (skipped ++ [next]) <+: messages := by
      refine List.IsPrefix.trans ?_ hpre
      exact ⟨behind, by simp⟩
    have hhandled : handled config (before ++ onset :: (skipped ++ [next])) =
        handled config before ++ [onset, next] := by
      rw [handled_append, handled_cons_of_handles hhandles, handled_append, hskip,
        handled_cons_of_handles hnextHandles, handled_nil, List.nil_append]
    have hfirst := hpresent [] List.nil_prefix
    rw [idsAfter_eq hdevice honset, hbefore, if_neg (by simp)] at hfirst
    have hsecond := hpresent (skipped ++ [next]) ⟨behind, by simp⟩
    rw [idsAfter_eq hdevice hpart, hhandled, if_neg (by simp)] at hsecond
    refine hlasts (handled config before) onset next ?_ id hfirst hsecond
    rw [← hhandled]
    exact hpart.filter _
  have hall : handled config (before ++ onset :: later) = handled config before ++ [onset] := by
    rw [handled_append, handled_cons_of_handles hhandles, hlater]
  obtain ⟨last, hlast, htime⟩ := (showsHandled_of_part hdevice hpre).time alarm hmem
  rw [hall, List.getLast?_concat, Option.some.injEq] at hlast
  rw [htime, ← hlast]

/-- With times that increase, nothing else keeps it. -/
theorem noAlarmLasts_of_keepsOnset (htimes : messages.Pairwise fun m m' ↦ m.2 < m'.2)
    (hkeeps : KeepsOnset config isServerConnected isWsConnected messages) :
    NoAlarmLasts config isServerConnected isWsConnected messages := by
  rintro earlier message next ⟨rest, hhandled⟩ id hmessage hnext
  -- the messages up to the second of the two
  obtain ⟨upTo, behind, hsplit, hupTo, -⟩ := List.filter_eq_append_iff.mp hhandled.symm
  have hcut : earlier ++ [message, next] = (earlier ++ [message]) ++ [next] := by simp
  rw [hcut] at hupTo
  obtain ⟨first, second, rfl, hfirst, hsecond⟩ := List.filter_eq_append_iff.mp hupTo
  obtain ⟨skipped, tail, rfl, hskipped, hhandles, -⟩ := List.filter_eq_cons_iff.mp hsecond
  have hskip : handled config skipped = [] := List.filter_eq_nil_iff.mpr hskipped
  have hbefore : handled config (first ++ skipped) = earlier ++ [message] := by
    rw [handled_append, hskip, List.append_nil]
    exact hfirst
  have hwith : handled config (first ++ skipped ++ [next]) = earlier ++ [message, next] := by
    rw [handled_append, hbefore, handled_cons_of_handles hhandles, handled_nil, hcut]
  have hpre : first ++ skipped ++ [next] <+: messages := by
    rw [hsplit]
    exact ⟨tail ++ behind, by simp⟩
  have hpre' : first ++ skipped <+: messages := (List.prefix_append _ _).trans hpre
  have hpresent : id ∈ idsAfter config isServerConnected isWsConnected (first ++ skipped) := by
    rw [idsAfter_eq hdevice hpre', hbefore, if_neg (by simp)]
    exact hmessage
  have hpresent' :
      id ∈ idsAfter config isServerConnected isWsConnected (first ++ skipped ++ [next]) := by
    rw [idsAfter_eq hdevice hpre, hwith, if_neg (by simp)]
    exact hnext
  have habsent : id ∉ idsAfter config isServerConnected isWsConnected [] := by
    rw [idsAfter_eq hdevice List.nil_prefix]
    exact List.not_mem_nil
  -- the onset lies before the second message, whose time the alarm has
  obtain ⟨before, onset, later, hsplit', hnot, hheld⟩ := exists_onset
    (P := fun part ↦ id ∈ idsAfter config isServerConnected isWsConnected part) habsent hpresent
  rw [hsplit', List.append_assoc, List.cons_append] at hpre hpresent'
  obtain ⟨alarm, hmem, hid⟩ := List.mem_map.mp hpresent'
  have hkept := hkeeps before onset (later ++ [next]) id hpre hnot (fun part hpart ↦ ?_) alarm hmem
    hid
  · obtain ⟨last, hlast, htime⟩ := (showsHandled_of_part hdevice hpre).time alarm hmem
    rw [← List.cons_append, ← List.append_assoc, ← hsplit', hwith, hcut, List.getLast?_concat,
      Option.some.injEq] at hlast
    have hlt : onset.2 < next.2 := by
      have hpairwise := htimes.sublist hpre.sublist
      exact (List.pairwise_cons.mp (List.pairwise_append.mp hpairwise).2.1).1 next (by simp)
    rw [hkept, ← hlast] at htime
    exact absurd htime hlt.ne
  · rcases List.prefix_concat_iff.mp hpart with rfl | hpart
    · exact hpresent'
    · exact hheld part hpart

/-- **Onsets.** At increasing times, alarms keep the time of their onset exactly when no alarm is
due after two successive messages that are received to their end. -/
theorem keepsOnset_iff (htimes : messages.Pairwise fun m m' ↦ m.2 < m'.2) :
    KeepsOnset config isServerConnected isWsConnected messages ↔
      NoAlarmLasts config isServerConnected isWsConnected messages :=
  ⟨noAlarmLasts_of_keepsOnset hdevice htimes, keepsOnset_of_noAlarmLasts hdevice⟩

end Onset

end DashboardStore

/-- A temperature that is critical twice, a minute apart. -/
def criticalTwice : List (PlcData ExactDouble × Instant) :=
  [(⟨"plc-01", 1028, .finite 95, "2026-01-01T00:00:00Z"⟩, 60),
    (⟨"plc-01", 1028, .finite 96, "2026-01-01T00:01:00Z"⟩, 120)]

theorem keepsOnset_iff_criticalTwice :
    DashboardStore.KeepsOnset temperatureDashboard true true criticalTwice ↔
      DashboardStore.NoAlarmLasts temperatureDashboard true true criticalTwice :=
  DashboardStore.keepsOnset_iff (by simp [criticalTwice, temperatureDashboard])
    (by simp [criticalTwice])

/-- The alarm of the first message is shown with the time of the second. -/
theorem criticalTwice_not_keepsOnset :
    ¬DashboardStore.KeepsOnset temperatureDashboard true true criticalTwice := by
  intro hkeeps
  have hstays : ∀ part, part <+: criticalTwice.tail → "Temperature-crit-high" ∈
      DashboardStore.idsAfter temperatureDashboard true true
        ([] ++ (⟨"plc-01", 1028, .finite 95, "2026-01-01T00:00:00Z"⟩, 60) :: part) := by
    intro part hpart
    rcases List.prefix_concat_iff.mp (show part <+: [] ++ criticalTwice.tail from hpart) with
      rfl | hpart
    · decide
    · rw [List.prefix_nil.mp hpart]
      decide
  have hshown : ("Temperature-crit-high", 120) ∈
      (DashboardStore.afterMessages temperatureDashboard true true criticalTwice).activeAlarms.map
        fun alarm ↦ (alarm.id, alarm.timestamp) := by
    decide
  obtain ⟨alarm, hmem, halarm⟩ := List.mem_map.mp hshown
  obtain ⟨hid, htime⟩ := Prod.mk.inj halarm
  have honset := hkeeps [] _ criticalTwice.tail "Temperature-crit-high" (List.prefix_refl _)
    (by decide) hstays alarm hmem hid
  rw [htime] at honset
  exact absurd honset (by decide)

end VyuhHmi.App
