import VyuhHmi.App.Display

/-!
# Restored alarms

A switch restores the alarms that were computed when the device's last message was received to its
end while the device was active.  The values in its cache go on after that: the restored alarms are
those of the latest values as long as both sets of values give the same alarms.
-/

namespace VyuhHmi.App

def Alarm.key (alarm : Alarm) : String × AlarmSeverity := (alarm.id, alarm.severity)

/-- The alarms of thresholds, which have a register. -/
def thresholdKeys (alarms : List Alarm) : List (String × AlarmSeverity) :=
  (alarms.filter fun alarm ↦ alarm.register.isSome).map Alarm.key

theorem thresholdKeys_append (alarms alarms' : List Alarm) :
    thresholdKeys (alarms ++ alarms') = thresholdKeys alarms ++ thresholdKeys alarms' := by
  rw [thresholdKeys, List.filter_append, List.map_append]
  rfl

theorem thresholdKeys_flatMap {α : Type} (l : List α) (f : α → List Alarm) :
    thresholdKeys (l.flatMap f) = l.flatMap fun a ↦ thresholdKeys (f a) := by
  rw [thresholdKeys, List.filter_flatMap, List.map_flatMap]
  rfl

variable {D : Type} [DartDouble D]

/-- What `checkAlarms` computes from these values. -/
def keysFor (config : DashboardConfig D) (liveValues : ℤ → Option D) :
    List (String × AlarmSeverity) :=
  let s := { DashboardStore.fresh config.deviceId with liveValues := liveValues }
  thresholdKeys (s.checkAlarms config 0).activeAlarms

namespace AlarmThreshold

variable (threshold : AlarmThreshold D) (val : D) (now : Instant)

/-- The time has no part in which alarms there are. -/
theorem thresholdKeys_highAlarms :
    thresholdKeys (threshold.highAlarms val now) = thresholdKeys (threshold.highAlarms val 0) := by
  unfold highAlarms
  cases threshold.critHigh.filter (DartDouble.le · val) with
  | some critHigh => rfl
  | none =>
      dsimp only
      split <;> rfl

theorem thresholdKeys_lowAlarms :
    thresholdKeys (threshold.lowAlarms val now) = thresholdKeys (threshold.lowAlarms val 0) := by
  unfold lowAlarms
  dsimp only
  split
  · rfl
  · split <;> rfl

end AlarmThreshold

namespace DashboardStore

variable {config : DashboardConfig D} {s : DashboardStore D} {now : Instant} {deviceId : String}

omit [DartDouble D] in
theorem thresholdKeys_connectionAlarms (s : DashboardStore D) (now : Instant) :
    thresholdKeys (s.connectionAlarms now) = [] := by
  unfold connectionAlarms
  split <;> rfl

/-- The alarms depend on the values on display alone. -/
theorem thresholdKeys_checkAlarms (config : DashboardConfig D) (s : DashboardStore D)
    (now : Instant) :
    thresholdKeys (s.checkAlarms config now).activeAlarms = keysFor config s.liveValues := by
  unfold keysFor checkAlarms
  simp only [putCache, thresholdKeys_append, thresholdKeys_connectionAlarms, List.append_nil,
    thresholdAlarms, thresholdKeys_flatMap]
  congr 1
  funext threshold
  cases s.liveValues threshold.register with
  | none => rfl
  | some raw =>
      simp only [thresholdKeys_append]
      rw [AlarmThreshold.thresholdKeys_highAlarms, AlarmThreshold.thresholdKeys_lowAlarms]

theorem keysFor_none (config : DashboardConfig D) : keysFor config (fun _ ↦ none) = [] := by
  have hnone : config.alarms.flatMap (fun _ ↦ ([] : List Alarm)) = [] := by simp
  unfold keysFor checkAlarms
  simp only [putCache, thresholdAlarms, thresholdKeys_append, thresholdKeys_connectionAlarms]
  rw [hnone]
  rfl

end DashboardStore

/-! ## What is behind the alarms -/

/-- The live values that messages leave. -/
def liveAfter (messages : List (PlcData D)) : ℤ → Option D :=
  EventMap.after PlcData.register (fun data ↦ some data.value) messages

omit [DartDouble D] in
theorem liveAfter_append_singleton (messages : List (PlcData D)) (data : PlcData D) :
    liveAfter (messages ++ [data]) =
      Function.update (liveAfter messages) data.register (some data.value) :=
  EventMap.after_append_singleton data

/-- The messages of a device: all of them, those behind the display of the device, and those that
were behind it when the alarms were last computed. -/
structure DeviceMessages (D : Type) where
  active : String
  received : List (PlcData D)
  shown : List (PlcData D)
  checked : List (PlcData D)

namespace DeviceMessages

def init (active : String) : DeviceMessages D := ⟨active, [], [], []⟩

def follow (config : DashboardConfig D) (deviceId : String) (messages : DeviceMessages D) :
    StoreOp D → DeviceMessages D
  | .onData data _ =>
      if data.deviceId = deviceId then
        if messages.active = deviceId ∧ config.handles data then
          { messages with
            received := messages.received ++ [data]
            shown := messages.shown ++ [data]
            checked := messages.shown ++ [data] }
        else { messages with received := messages.received ++ [data] }
      else messages
  | .switchDevice next =>
      if next = messages.active then messages
      else { messages with active := next, shown := messages.received }

/-- Over a sequence of messages and switches. -/
def after (config : DashboardConfig D) (deviceId active : String) (ops : List (StoreOp D)) :
    DeviceMessages D :=
  ops.foldl (follow config deviceId) (init active)

theorem received_after (config : DashboardConfig D) (deviceId active : String)
    (ops : List (StoreOp D)) :
    (after config deviceId active ops).received = messagesOf deviceId ops := by
  induction ops using List.reverseRecOn with
  | nil => rfl
  | append_singleton ops op ih =>
      rw [after, List.foldl_append, List.foldl_cons, List.foldl_nil, messagesOf,
        List.filterMap_append, ← messagesOf, ← ih]
      cases op with
      | onData data now =>
          by_cases hdevice : data.deviceId = deviceId
          · simp only [follow, hdevice, if_true]
            split <;> simp [hdevice, after]
          · simp [follow, hdevice, after]
      | switchDevice next =>
          simp only [follow]
          split <;> simp [after]

end DeviceMessages

namespace DashboardStore

variable {config : DashboardConfig D} {s : DashboardStore D} {deviceId : String}
  {messages : DeviceMessages D}

/-- What the store has of a device is what its messages have left. -/
structure Behind (config : DashboardConfig D) (deviceId : String) (messages : DeviceMessages D)
    (s : DashboardStore D) : Prop where
  active : messages.active = s.activeDeviceId
  received : (s.cacheFor deviceId).liveValues = liveAfter messages.received
  shown : s.activeDeviceId = deviceId → s.liveValues = liveAfter messages.shown
  checked : thresholdKeys (s.cacheFor deviceId).alarms = keysFor config (liveAfter messages.checked)

theorem cacheFor_cached (config : DashboardConfig D) (s : DashboardStore D) (data : PlcData D)
    (deviceId : String) :
    ((s.cached config data).cacheFor deviceId).liveValues =
        (if deviceId = data.deviceId then
          Function.update (s.cacheFor deviceId).liveValues data.register (some data.value)
        else (s.cacheFor deviceId).liveValues) ∧
      ((s.cached config data).cacheFor deviceId).alarms = (s.cacheFor deviceId).alarms := by
  rw [cached, cacheFor_putCache]
  split
  case isTrue heq =>
      subst heq
      exact ⟨Readings.receive_liveValues _ config data, rfl⟩
  case isFalse => exact ⟨rfl, rfl⟩

/-- Alarms that are computed are kept for the active device. -/
theorem cacheFor_checkAlarms (config : DashboardConfig D) (s : DashboardStore D) (now : Instant)
    (deviceId : String) :
    ((s.checkAlarms config now).cacheFor deviceId).liveValues = (s.cacheFor deviceId).liveValues ∧
      ((s.checkAlarms config now).cacheFor deviceId).alarms =
        if deviceId = s.activeDeviceId then (s.checkAlarms config now).activeAlarms
        else (s.cacheFor deviceId).alarms := by
  unfold checkAlarms
  rw [cacheFor_putCache]
  split
  case isTrue heq =>
      subst heq
      exact ⟨rfl, rfl⟩
  case isFalse => exact ⟨rfl, rfl⟩

/-- A message of another device. -/
theorem Behind.onData_other (h : Behind config deviceId messages s) {data : PlcData D}
    (hother : data.deviceId ≠ deviceId) (now : Instant) :
    Behind config deviceId messages (s.onData config data now) := by
  obtain ⟨hlive, halarms⟩ := cacheFor_cached config s data deviceId
  rw [if_neg (Ne.symm hother)] at hlive
  rw [onData_eq]
  split
  case isTrue hactive =>
      have hinactive : deviceId ≠ s.activeDeviceId := fun heq ↦ hother (hactive.2.trans heq.symm)
      obtain ⟨hlive', halarms'⟩ := cacheFor_checkAlarms config
        { s.cached config data with toReadings := (s.receive config data).1 } now deviceId
      refine ⟨h.active, hlive'.trans (hlive.trans h.received), fun heq ↦ ?_, ?_⟩
      · exact absurd heq.symm hinactive
      · have hkept := (halarms'.trans (if_neg hinactive)).trans halarms
        exact (congrArg thresholdKeys hkept).trans h.checked
  case isFalse =>
      refine ⟨h.active, hlive.trans h.received, h.shown, ?_⟩
      rw [halarms]
      exact h.checked

/-- A message of the device while it is active, received to its end. -/
theorem Behind.onData_checked (h : Behind config deviceId messages s) {data : PlcData D}
    (hdevice : data.deviceId = deviceId) (hactive : deviceId = s.activeDeviceId)
    (hhandles : config.handles data) (now : Instant) :
    Behind config deviceId
      { messages with
        received := messages.received ++ [data]
        shown := messages.shown ++ [data]
        checked := messages.shown ++ [data] } (s.onData config data now) := by
  obtain ⟨hlive, -⟩ := cacheFor_cached config s data deviceId
  rw [if_pos hdevice.symm, h.received, ← liveAfter_append_singleton] at hlive
  have hshown : (s.receive config data).1.liveValues = liveAfter (messages.shown ++ [data]) := by
    rw [Readings.receive_liveValues, h.shown hactive.symm, ← liveAfter_append_singleton]
  rw [onData_eq, if_pos ⟨hhandles, hdevice.trans hactive⟩]
  obtain ⟨hlive', halarms'⟩ := cacheFor_checkAlarms config
    { s.cached config data with toReadings := (s.receive config data).1 } now deviceId
  refine ⟨h.active, hlive'.trans hlive, fun _ ↦ hshown, ?_⟩
  have hcomputed := halarms'.trans (if_pos hactive)
  rw [hcomputed, thresholdKeys_checkAlarms]
  exact congrArg (keysFor config) hshown

/-- Any other message of the device. -/
theorem Behind.onData_unchecked (h : Behind config deviceId messages s) {data : PlcData D}
    (hdevice : data.deviceId = deviceId)
    (hnot : ¬(config.handles data ∧ data.deviceId = s.activeDeviceId)) (now : Instant) :
    Behind config deviceId { messages with received := messages.received ++ [data] }
      (s.onData config data now) := by
  obtain ⟨hlive, halarms⟩ := cacheFor_cached config s data deviceId
  rw [if_pos hdevice.symm, h.received, ← liveAfter_append_singleton] at hlive
  rw [onData_eq, if_neg hnot]
  refine ⟨h.active, hlive, h.shown, ?_⟩
  rw [halarms]
  exact h.checked

theorem cacheFor_switchDevice (s : DashboardStore D) (next deviceId : String) :
    (s.switchDevice next).cacheFor deviceId = s.cacheFor deviceId := by
  unfold switchDevice
  split
  case isTrue => rfl
  case isFalse => exact cacheFor_putCache_self next deviceId

/-- A switch to another device shows what is in its cache. -/
theorem switchDevice_of_ne (hne : deviceId ≠ s.activeDeviceId) :
    (s.switchDevice deviceId).activeDeviceId = deviceId ∧
      (s.switchDevice deviceId).liveValues = (s.cacheFor deviceId).liveValues ∧
      (s.switchDevice deviceId).activeAlarms = (s.cacheFor deviceId).alarms := by
  rw [switchDevice, if_neg hne]
  exact ⟨rfl, rfl, rfl⟩

theorem Behind.switchDevice (h : Behind config deviceId messages s) (next : String) :
    Behind config deviceId (messages.follow config deviceId (.switchDevice next))
      (s.switchDevice next) := by
  rw [DeviceMessages.follow, h.active]
  by_cases hsame : next = s.activeDeviceId
  · rw [if_pos hsame, DashboardStore.switchDevice, if_pos hsame]
    exact h
  · obtain ⟨hactive, hlive, -⟩ := switchDevice_of_ne hsame
    rw [if_neg hsame]
    refine ⟨hactive.symm, ?_, fun heq ↦ ?_, ?_⟩
    · rw [cacheFor_switchDevice]
      exact h.received
    · rw [hactive] at heq
      rw [hlive, heq]
      exact h.received
    · rw [cacheFor_switchDevice]
      exact h.checked

/-- **Step lemma.** -/
theorem Behind.apply (h : Behind config deviceId messages s) (op : StoreOp D) :
    Behind config deviceId (messages.follow config deviceId op) (s.apply config op) := by
  cases op with
  | onData data now =>
      rw [DeviceMessages.follow]
      by_cases hdevice : data.deviceId = deviceId
      · rw [if_pos hdevice]
        split
        case isTrue hboth =>
            exact h.onData_checked hdevice (hboth.1.symm.trans h.active) hboth.2 now
        case isFalse hnot =>
            refine h.onData_unchecked hdevice (fun hboth ↦ hnot ⟨?_, hboth.1⟩) now
            exact h.active.trans (hboth.2.symm.trans hdevice)
      · rw [if_neg hdevice]
        exact h.onData_other hdevice now
  | switchDevice next => exact h.switchDevice next

/-- The store when it is created, under any state of the connection. -/
def initWith (config : DashboardConfig D) (isServerConnected isWsConnected : Bool) :
    DashboardStore D :=
  { init config with isServerConnected := isServerConnected, isWsConnected := isWsConnected }

theorem behind_initWith (config : DashboardConfig D) (deviceId : String)
    (isServerConnected isWsConnected : Bool) :
    Behind config deviceId (.init config.deviceId)
      (initWith config isServerConnected isWsConnected) where
  active := rfl
  received := rfl
  shown _ := rfl
  checked := (keysFor_none config).symm

theorem behind_run (config : DashboardConfig D) (deviceId : String)
    (isServerConnected isWsConnected : Bool) (ops : List (StoreOp D)) :
    Behind config deviceId (.after config deviceId config.deviceId ops)
      ((initWith config isServerConnected isWsConnected).run config ops) := by
  induction ops using List.reverseRecOn with
  | nil => exact behind_initWith config deviceId isServerConnected isWsConnected
  | append_singleton ops op ih =>
      rw [run, DeviceMessages.after, List.foldl_append, List.foldl_append]
      exact ih.apply op

/-- The threshold alarms on display are those that `checkAlarms` computes from the device's cached
values. -/
def ShowsCurrentAlarms (config : DashboardConfig D) (s : DashboardStore D) (deviceId : String) :
    Prop :=
  thresholdKeys s.activeAlarms = keysFor config (s.cacheFor deviceId).liveValues

/-- **Restored alarms.** Right after a switch to another device the threshold alarms are those of
its latest values exactly when the values behind its last computed alarms give the same alarms. -/
theorem showsCurrentAlarms_iff (config : DashboardConfig D)
    (isServerConnected isWsConnected : Bool) (ops : List (StoreOp D)) (deviceId : String)
    (hother : deviceId ≠
      ((initWith config isServerConnected isWsConnected).run config ops).activeDeviceId) :
    ShowsCurrentAlarms config
        (((initWith config isServerConnected isWsConnected).run config ops).switchDevice deviceId)
        deviceId ↔
      keysFor config
          (liveAfter (DeviceMessages.after config deviceId config.deviceId ops).checked) =
        keysFor config (liveAfter (messagesOf deviceId ops)) := by
  have hbehind := behind_run config deviceId isServerConnected isWsConnected ops
  obtain ⟨-, -, halarms⟩ := switchDevice_of_ne hother
  rw [ShowsCurrentAlarms, halarms, cacheFor_switchDevice, hbehind.checked, hbehind.received,
    DeviceMessages.received_after]

end DashboardStore

/-- A dashboard with one threshold. -/
def temperatureDashboard : DashboardConfig ExactDouble where
  deviceId := "plc-01"
  registers := []
  alarms := [⟨1028, "Temperature", some (.finite 80), some (.finite 90), none, none⟩]

/-- The first device becomes critical and is left. -/
def leftOps : List (StoreOp ExactDouble) :=
  [.onData ⟨"plc-01", 1028, .finite 95, "2026-01-01T00:00:00Z"⟩ 0, .switchDevice "plc-02"]

theorem showsCurrentAlarms_iff_leftOps :
    DashboardStore.ShowsCurrentAlarms temperatureDashboard
      (((DashboardStore.initWith temperatureDashboard true true).run temperatureDashboard
        leftOps).switchDevice "plc-01") "plc-01" :=
  (DashboardStore.showsCurrentAlarms_iff temperatureDashboard true true leftOps "plc-01"
    (by decide)).mpr rfl

/-- A device that has become critical in the background shows no alarm. -/
theorem background_not_showsCurrentAlarms :
    ¬DashboardStore.ShowsCurrentAlarms temperatureDashboard
      (((DashboardStore.initWith temperatureDashboard true true).run temperatureDashboard
        [.onData ⟨"plc-02", 1028, .finite 95, "2026-01-01T00:00:00Z"⟩ 0]).switchDevice "plc-02")
      "plc-02" := by
  unfold DashboardStore.ShowsCurrentAlarms
  decide

end VyuhHmi.App
