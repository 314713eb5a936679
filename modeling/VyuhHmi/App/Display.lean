import VyuhHmi.App.Dashboard
import VyuhHmi.Foundation.EventMap

/-!
# What is on display

The store is a view over one value for each device.  A message that is not received to its end
leaves its value in the cache and does not change the display, so that both follow the messages
received to their end except for the live values of registers whose last message was not one of
them.  A history misses such a message as long as it would be among the last readings.
-/

namespace VyuhHmi.App

variable {D : Type} [DartDouble D]

/-- The message is received to its end: its value is no infinity and no NaN, or is not read as a
batch state. -/
def DashboardConfig.handles (config : DashboardConfig D) (data : PlcData D) : Bool :=
  (config.registerByAddress data.register).all fun regConfig ↦
    regConfig.key != "batchState" || (DartDouble.toInt data.value).isSome

namespace Readings

variable {config : DashboardConfig D} {readings named : Readings D} {data : PlcData D}

/-- The named values are apart from the live ones and from the history. -/
theorem setNamed_frame {regConfig : RegisterConfig D} {value : D}
    (h : readings.setNamed regConfig value = some named) :
    named.liveValues = readings.liveValues ∧ named.registerHistory = readings.registerHistory := by
  unfold setNamed at h
  split at h
  case h_5 =>
      obtain ⟨code, -, rfl⟩ := Option.map_eq_some_iff.mp h
      exact ⟨rfl, rfl⟩
  all_goals
    cases h
    exact ⟨rfl, rfl⟩

theorem isSome_setNamed (readings : Readings D) (regConfig : RegisterConfig D) (value : D) :
    (readings.setNamed regConfig value).isSome =
      (regConfig.key != "batchState" || (DartDouble.toInt value).isSome) := by
  unfold setNamed
  split
  case h_5 hkey => simp [hkey]
  case h_9 h1 h2 h3 h4 hbatch h6 h7 h8 =>
      have hne : (regConfig.key != "batchState") = true := bne_iff_ne.mpr hbatch
      rw [hne]
      rfl
  all_goals simp [*]

/-- **What a message does.** It sets the live value, and then goes through to the history or
stops. -/
theorem receive_cases (readings : Readings D) (config : DashboardConfig D) (data : PlcData D) :
    (config.handles data ∧ ∃ named : Readings D,
      named.liveValues = (readings.setLive data.register data.value).liveValues ∧
      named.registerHistory = readings.registerHistory ∧
      readings.receive config data = (named.addHistory data, true)) ∨
    (config.handles data = false ∧
      readings.receive config data = (readings.setLive data.register data.value, false)) := by
  unfold receive DashboardConfig.handles
  cases config.registerByAddress data.register with
  | none => exact .inl ⟨rfl, readings.setLive data.register data.value, rfl, rfl, rfl⟩
  | some regConfig =>
      rw [Option.all_some, ← isSome_setNamed (readings.setLive data.register data.value)]
      dsimp only
      cases hnamed : (readings.setLive data.register data.value).setNamed regConfig data.value with
      | none => exact .inr ⟨rfl, rfl⟩
      | some named =>
          have hframe := setNamed_frame hnamed
          exact .inl ⟨rfl, named, hframe.1, hframe.2, rfl⟩

/-- A message is received to its end by every cache and by the display, or by none. -/
theorem receive_completed (readings : Readings D) (config : DashboardConfig D) (data : PlcData D) :
    (readings.receive config data).2 = config.handles data := by
  rcases receive_cases readings config data with ⟨h, named, -, -, heq⟩ | ⟨h, heq⟩
  · rw [heq, h]
  · rw [heq, h]

theorem receive_liveValues (readings : Readings D) (config : DashboardConfig D) (data : PlcData D) :
    (readings.receive config data).1.liveValues =
      Function.update readings.liveValues data.register (some data.value) := by
  rcases receive_cases readings config data with ⟨-, named, hlive, -, heq⟩ | ⟨-, heq⟩
  · rw [heq]
    exact hlive
  · rw [heq]
    rfl

theorem receive_registerHistory (h : config.handles data) (readings : Readings D) :
    (readings.receive config data).1.registerHistory =
      Function.update readings.registerHistory data.register
        (some (Window.push maxHistoryPoints
          ((readings.registerHistory data.register).getD []) data)) := by
  rcases receive_cases readings config data with ⟨-, named, -, hhistory, heq⟩ | ⟨hstops, -⟩
  · rw [heq, ← hhistory]
    rfl
  · rw [hstops] at h
    cases h

/-- The readings after a message. -/
def received (config : DashboardConfig D) (readings : Readings D) (data : PlcData D) : Readings D :=
  (readings.receive config data).1

/-- What messages make of the empty readings. -/
def after (config : DashboardConfig D) (messages : List (PlcData D)) : Readings D :=
  messages.foldl (received config) .empty

theorem after_append_singleton (config : DashboardConfig D) (messages : List (PlcData D))
    (data : PlcData D) :
    after config (messages ++ [data]) = ((after config messages).receive config data).1 := by
  simp [after, received, List.foldl_append]

/-- **Histories.** The history of a register has the last readings of it. -/
theorem after_registerHistory {messages : List (PlcData D)}
    (hhandled : ∀ data ∈ messages, config.handles data) (register : ℤ) :
    ((after config messages).registerHistory register).getD [] =
      (messages.filter fun data ↦ data.register == register).rtake maxHistoryPoints := by
  induction messages using List.reverseRecOn with
  | nil => rfl
  | append_singleton messages data ih =>
      rw [List.forall_mem_append] at hhandled
      have ih' := ih hhandled.1
      rw [after_append_singleton, receive_registerHistory (hhandled.2 data (by simp)),
        Function.update_apply, List.filter_append]
      split
      case isTrue hregister =>
          subst hregister
          rw [Option.getD_some, ih', List.filter_singleton, beq_self_eq_true, cond_true,
            Window.push_rtake]
      case isFalse hregister =>
          have hother : (data.register == register) = false :=
            beq_eq_false_iff_ne.mpr (Ne.symm hregister)
          rw [List.filter_singleton, hother, cond_false, List.append_nil]
          exact ih'

/-! ### Live values apart -/

/-- The readings with other live values. -/
def withLive (readings : Readings D) (live : ℤ → Option D) : Readings D :=
  { readings with liveValues := live }

theorem setNamed_withLive (readings : Readings D) (live : ℤ → Option D)
    (regConfig : RegisterConfig D) (value : D) :
    (readings.withLive live).setNamed regConfig value =
      (readings.setNamed regConfig value).map fun named ↦ named.withLive live := by
  unfold setNamed
  split
  case h_5 => simp [Function.comp_def, withLive]
  all_goals rfl

/-- Live values have no part in what a message does to the other fields. -/
theorem receive_withLive (readings : Readings D) (live : ℤ → Option D) (config : DashboardConfig D)
    (data : PlcData D) :
    ((readings.withLive live).receive config data).1 =
      (readings.receive config data).1.withLive
        (Function.update live data.register (some data.value)) := by
  have hlive : (readings.withLive live).setLive data.register data.value =
      (readings.setLive data.register data.value).withLive
        (Function.update live data.register (some data.value)) := rfl
  unfold receive
  rw [hlive]
  cases config.registerByAddress data.register with
  | none => rfl
  | some regConfig =>
      dsimp only
      rw [setNamed_withLive]
      cases (readings.setLive data.register data.value).setNamed regConfig data.value with
      | none => rfl
      | some named => rfl

/-- The readings that messages make if only those received to their end count. -/
def afterHandled (config : DashboardConfig D) (messages : List (PlcData D)) : Readings D :=
  after config (messages.filter config.handles)

theorem afterHandled_of_handled (h : config.handles data) (messages : List (PlcData D)) :
    afterHandled config (messages ++ [data]) =
      ((afterHandled config messages).receive config data).1 := by
  rw [afterHandled, List.filter_append, List.filter_singleton, h, cond_true, after_append_singleton]
  rfl

theorem afterHandled_of_stopped (h : config.handles data = false) (messages : List (PlcData D)) :
    afterHandled config (messages ++ [data]) = afterHandled config messages := by
  rw [afterHandled, List.filter_append, List.filter_singleton, h, cond_false, List.append_nil]
  rfl

/-- The readings are those of the messages received to their end, except for the live values of
registers whose last message was not. -/
structure Follows (config : DashboardConfig D) (messages : List (PlcData D))
    (readings : Readings D) : Prop where
  apart : readings = (afterHandled config messages).withLive readings.liveValues
  live : ∀ register, (EventMap.lastOn PlcData.register messages register).all config.handles →
    readings.liveValues register = (afterHandled config messages).liveValues register

variable {messages : List (PlcData D)}

theorem Follows.empty (config : DashboardConfig D) : Follows config [] .empty := ⟨rfl, fun _ _ ↦ rfl⟩

/-- A message received to its end. -/
theorem Follows.handled (h : Follows config messages readings) (hhandles : config.handles data) :
    Follows config (messages ++ [data]) (readings.receive config data).1 := by
  refine ⟨?_, fun register hlast ↦ ?_⟩
  · rw [receive_liveValues, afterHandled_of_handled hhandles, ← receive_withLive, ← h.apart]
  · rw [afterHandled_of_handled hhandles, receive_liveValues, receive_liveValues]
    rw [EventMap.lastOn_append_singleton] at hlast
    by_cases hregister : register = data.register
    · rw [hregister, Function.update_self, Function.update_self]
    · rw [if_neg (Ne.symm hregister)] at hlast
      rw [Function.update_of_ne hregister, Function.update_of_ne hregister]
      exact h.live register hlast

/-- A message that is not received to its end may leave its live value. -/
theorem Follows.stopped (h : Follows config messages readings)
    (hstopped : config.handles data = false) {live : ℤ → Option D}
    (hlive : ∀ register ≠ data.register, live register = readings.liveValues register) :
    Follows config (messages ++ [data]) (readings.withLive live) := by
  refine ⟨?_, fun register hlast ↦ ?_⟩
  · rw [afterHandled_of_stopped hstopped]
    calc
      readings.withLive live
        = ((afterHandled config messages).withLive readings.liveValues).withLive live :=
          congrArg (fun r : Readings D ↦ r.withLive live) h.apart
      _ = (afterHandled config messages).withLive live := rfl
  · rw [EventMap.lastOn_append_singleton] at hlast
    have hregister : register ≠ data.register := by
      rintro rfl
      rw [if_pos rfl, Option.all_some, hstopped] at hlast
      cases hlast
    rw [if_neg (Ne.symm hregister)] at hlast
    rw [afterHandled_of_stopped hstopped, ← h.live register hlast]
    exact hlive register hregister

/-- The cache takes in every message. -/
theorem Follows.received (h : Follows config messages readings) (data : PlcData D) :
    Follows config (messages ++ [data]) (readings.received config data) := by
  rcases receive_cases readings config data with ⟨hhandles, -⟩ | ⟨hstopped, heq⟩
  · exact h.handled hhandles
  · have hleft : readings.received config data = readings.withLive
        (Function.update readings.liveValues data.register (some data.value)) :=
      congrArg Prod.fst heq
    rw [hleft]
    exact h.stopped hstopped fun register hne ↦ Function.update_of_ne hne _ _

/-- What a message of the active device does to the display. -/
def shown (config : DashboardConfig D) (readings : Readings D) (data : PlcData D) : Readings D :=
  if config.handles data then (readings.receive config data).1 else readings

theorem Follows.shown (h : Follows config messages readings) (data : PlcData D) :
    Follows config (messages ++ [data]) (readings.shown config data) := by
  unfold Readings.shown
  split
  case isTrue hhandles => exact h.handled hhandles
  case isFalse hstopped =>
      exact h.stopped (Bool.eq_false_of_not_eq_true hstopped) fun _ _ ↦ rfl

/-- Nothing is left over if the last message of every register was received to its end. -/
theorem Follows.eq (h : Follows config messages readings)
    (hlast : ∀ register,
      (EventMap.lastOn PlcData.register messages register).all config.handles) :
    readings = afterHandled config messages := by
  have hlive : readings.liveValues = (afterHandled config messages).liveValues :=
    funext fun register ↦ h.live register (hlast register)
  rw [h.apart, hlive]
  rfl

theorem Follows.registerHistory (h : Follows config messages readings) (register : ℤ) :
    (readings.registerHistory register).getD [] = ((messages.filter config.handles).filter
      fun data ↦ data.register == register).rtake maxHistoryPoints := by
  rw [h.apart]
  exact after_registerHistory (fun data hdata ↦ (List.mem_filter.mp hdata).2) register

end Readings

/-! ## The store as a view -/

/-- An operation of the store as one of the view. -/
def StoreOp.toView : StoreOp D → KeyedView.Op String (PlcData D)
  | .onData data _ => .update data.deviceId data
  | .switchDevice deviceId => .switch deviceId

namespace DashboardStore

variable {config : DashboardConfig D} {s : DashboardStore D} {data : PlcData D} {now : Instant}

def view (s : DashboardStore D) : KeyedView.State String (Readings D) where
  active := s.activeDeviceId
  values := fun deviceId ↦ (s.cacheFor deviceId).toReadings
  display := s.toReadings

theorem cacheFor_putCache (deviceId : String) (cache : DeviceDataCache D) (deviceId' : String) :
    (s.putCache deviceId cache).cacheFor deviceId' =
      if deviceId' = deviceId then cache else s.cacheFor deviceId' := by
  simp only [cacheFor, putCache, Function.update_apply]
  split <;> rfl

/-- The alarms are apart from the readings. -/
theorem view_checkAlarms : (s.checkAlarms config now).view = s.view := by
  unfold checkAlarms view
  congr 1
  funext deviceId
  rw [cacheFor_putCache]
  split
  case isTrue heq => rw [heq]
  case isFalse => rfl

/-- The cache of the device with the message in it. -/
def cached (config : DashboardConfig D) (s : DashboardStore D) (data : PlcData D) :
    DashboardStore D :=
  s.putCache data.deviceId { s.cacheFor data.deviceId with
    toReadings := ((s.cacheFor data.deviceId).receive config data).1 }

/-- **What a message does to the store.** The display only changes if the device is active and the
message goes through to the end. -/
theorem onData_eq (config : DashboardConfig D) (s : DashboardStore D) (data : PlcData D)
    (now : Instant) :
    s.onData config data now =
      if config.handles data ∧ data.deviceId = s.activeDeviceId then
        { s.cached config data with toReadings := (s.receive config data).1 }.checkAlarms config now
      else s.cached config data := by
  have hcompleted := Readings.receive_completed (s.cacheFor data.deviceId).toReadings config data
  have hshown := Readings.receive_completed s.toReadings config data
  unfold onData cached
  dsimp only [putCache]
  rw [hcompleted, hshown]
  cases config.handles data with
  | false => simp
  | true =>
      by_cases hactive : data.deviceId = s.activeDeviceId
      · simp [hactive]
      · simp [hactive]

theorem view_cached (config : DashboardConfig D) (s : DashboardStore D) (data : PlcData D) :
    (s.cached config data).view =
      { s.view with
        values := Function.update s.view.values data.deviceId
          ((s.view.values data.deviceId).receive config data).1 } := by
  unfold cached view
  congr 1
  funext deviceId
  rw [cacheFor_putCache, Function.update_apply]
  split <;> rfl

/-- A cache stored as it was found changes nothing. -/
theorem cacheFor_putCache_self (deviceId deviceId' : String) :
    (s.putCache deviceId (s.cacheFor deviceId)).cacheFor deviceId' = s.cacheFor deviceId' := by
  rw [cacheFor_putCache]
  split
  case isTrue heq => rw [heq]
  case isFalse => rfl

/-- **Refinement.** A message updates the view. -/
theorem view_onData (config : DashboardConfig D) (s : DashboardStore D) (data : PlcData D)
    (now : Instant) :
    (s.onData config data now).view =
      KeyedView.apply (Readings.received config) (Readings.shown config) s.view
        (.update data.deviceId data) := by
  have hcached := view_cached config s data
  have hvalues := congrArg KeyedView.State.values hcached
  rw [onData_eq, KeyedView.apply]
  by_cases hactive : data.deviceId = s.activeDeviceId
  · have hactive' : data.deviceId = s.view.active := hactive
    rw [if_pos hactive', Readings.shown]
    by_cases hhandles : config.handles data
    · rw [if_pos ⟨hhandles, hactive⟩, view_checkAlarms, if_pos hhandles]
      exact congrArg (fun values ↦ KeyedView.State.mk s.view.active values
        (s.view.display.receive config data).1) hvalues
    · rw [if_neg fun hboth ↦ hhandles hboth.1, hcached, if_neg hhandles]
      rfl
  · have hactive' : ¬data.deviceId = s.view.active := hactive
    rw [if_neg fun hboth ↦ hactive hboth.2, hcached, if_neg hactive']
    rfl

theorem view_switchDevice (s : DashboardStore D) (deviceId : String)
    (keep shown : Readings D → PlcData D → Readings D) :
    (s.switchDevice deviceId).view = KeyedView.apply keep shown s.view (.switch deviceId) := by
  unfold switchDevice
  by_cases hactive : deviceId = s.activeDeviceId
  · have hactive' : deviceId = s.view.active := hactive
    rw [if_pos hactive, KeyedView.apply, if_pos hactive']
  · have hactive' : ¬deviceId = s.view.active := hactive
    rw [if_neg hactive, KeyedView.apply, if_neg hactive']
    simp only [view, restoreFromCache]
    congr 1
    funext deviceId'
    exact congrArg DeviceDataCache.toReadings (cacheFor_putCache_self (s := s) deviceId deviceId')

/-- **Runs.** -/
theorem view_run (config : DashboardConfig D) (activeDeviceId : String) (ops : List (StoreOp D)) :
    ((fresh activeDeviceId).run config ops).view =
      (ops.map StoreOp.toView).foldl
        (KeyedView.apply (Readings.received config) (Readings.shown config))
        (KeyedView.init activeDeviceId Readings.empty) := by
  induction ops using List.reverseRecOn with
  | nil => rfl
  | append_singleton ops op ih =>
      rw [run, List.foldl_append, List.map_append, List.foldl_append, ← ih]
      cases op with
      | onData data now => exact view_onData config _ data now
      | switchDevice deviceId =>
          exact view_switchDevice _ deviceId (Readings.received config) (Readings.shown config)

end DashboardStore

/-! ## The active device -/

/-- A message of the device. -/
def StoreOp.isFor (deviceId : String) : StoreOp D → Bool
  | .onData data _ => data.deviceId == deviceId
  | .switchDevice _ => false

/-- The messages of a device, in order. -/
def messagesOf (deviceId : String) (ops : List (StoreOp D)) : List (PlcData D) :=
  ops.filterMap fun
    | .onData data _ => if data.deviceId = deviceId then some data else none
    | .switchDevice _ => none

omit [DartDouble D] in
theorem eventsOf_toView (deviceId : String) (ops : List (StoreOp D)) :
    KeyedView.eventsOf deviceId (ops.map StoreOp.toView) = messagesOf deviceId ops := by
  unfold KeyedView.eventsOf messagesOf
  rw [List.filterMap_map]
  congr 1
  funext op
  cases op <;> rfl

omit [DartDouble D] in
theorem messagesOf_filter (deviceId : String) (ops : List (StoreOp D)) :
    messagesOf deviceId (ops.filter (StoreOp.isFor deviceId)) = messagesOf deviceId ops := by
  unfold messagesOf
  rw [List.filterMap_filter]
  congr 1
  funext op
  cases op with
  | onData data now => by_cases h : data.deviceId = deviceId <;> simp [StoreOp.isFor, h]
  | switchDevice deviceId' => rfl

def StoreOp.activates (activeDeviceId : String) : StoreOp D → String
  | .onData _ _ => activeDeviceId
  | .switchDevice deviceId => deviceId

/-- The device that is active after these operations. -/
def activeAfter (activeDeviceId : String) (ops : List (StoreOp D)) : String :=
  ops.foldl StoreOp.activates activeDeviceId

namespace DashboardStore

variable {config : DashboardConfig D}

theorem activeDeviceId_apply (config : DashboardConfig D) (s : DashboardStore D) (op : StoreOp D) :
    (s.apply config op).activeDeviceId = op.activates s.activeDeviceId := by
  cases op with
  | onData data now =>
      rw [apply, onData_eq]
      split <;> rfl
  | switchDevice deviceId =>
      rw [apply, switchDevice]
      split
      case isTrue hsame => exact hsame.symm
      case isFalse => rfl

theorem activeDeviceId_run (config : DashboardConfig D) (s : DashboardStore D)
    (ops : List (StoreOp D)) :
    (s.run config ops).activeDeviceId = activeAfter s.activeDeviceId ops := by
  induction ops generalizing s with
  | nil => rfl
  | cons op ops ih =>
      have hop := activeDeviceId_apply config s op
      rw [activeAfter, List.foldl_cons, ← hop]
      exact ih (s.apply config op)

theorem activeDeviceId_run_init (config : DashboardConfig D) (ops : List (StoreOp D)) :
    ((init config).run config ops).activeDeviceId = activeAfter config.deviceId ops :=
  activeDeviceId_run config (init config) ops

/-- The display follows the messages of the active device. -/
theorem follows_run (config : DashboardConfig D) (activeDeviceId : String)
    (ops : List (StoreOp D)) :
    Readings.Follows config (messagesOf (activeAfter activeDeviceId ops) ops)
      ((fresh activeDeviceId).run config ops).toReadings := by
  have hrelated := KeyedView.related_run (Readings.Follows.empty config)
    (fun _ _ data h ↦ h.received data) (fun _ _ data h ↦ h.shown data) activeDeviceId
    (ops.map StoreOp.toView)
  have hactive : ((fresh activeDeviceId).run config ops).activeDeviceId =
      activeAfter activeDeviceId ops := activeDeviceId_run config _ ops
  have hdisplay := hrelated.display
  rw [← view_run config activeDeviceId ops, eventsOf_toView] at hdisplay
  rw [← hactive]
  exact hdisplay

omit [DartDouble D] in
theorem activeAfter_filter (activeDeviceId deviceId : String) (ops : List (StoreOp D)) :
    activeAfter activeDeviceId (ops.filter (StoreOp.isFor deviceId)) = activeDeviceId := by
  induction ops generalizing activeDeviceId with
  | nil => rfl
  | cons op ops ih =>
      cases op with
      | switchDevice deviceId' => exact ih activeDeviceId
      | onData data now =>
          rw [List.filter_cons]
          split
          case isTrue => exact ih activeDeviceId
          case isFalse => exact ih activeDeviceId

/-- A fresh store that only receives the messages of its device follows them as well. -/
theorem follows_run_filter (config : DashboardConfig D) (deviceId : String)
    (ops : List (StoreOp D)) :
    Readings.Follows config (messagesOf deviceId ops)
      ((fresh deviceId).run config (ops.filter (StoreOp.isFor deviceId))).toReadings := by
  have hfollows := follows_run config deviceId (ops.filter (StoreOp.isFor deviceId))
  rwa [activeAfter_filter, messagesOf_filter] at hfollows

end DashboardStore

/-- After these operations the display is that of a fresh store for the active device that has only
received the device's messages, and every history has the device's last readings of its
register. -/
structure ShowsActive (config : DashboardConfig D) (ops : List (StoreOp D)) : Prop where
  sameAsFresh :
    let s := (DashboardStore.init config).run config ops
    s.toReadings = ((DashboardStore.fresh s.activeDeviceId).run config
      (ops.filter (StoreOp.isFor s.activeDeviceId))).toReadings
  history : ∀ register,
    let s := (DashboardStore.init config).run config ops
    (s.registerHistory register).getD [] =
      ((messagesOf s.activeDeviceId ops).filter fun data ↦ data.register == register).rtake 60

/-- The last readings of every register of the device that is active in the end are all received to
their end: none has an infinity or NaN as a batch state. -/
def LastReadingsHandled (config : DashboardConfig D) (ops : List (StoreOp D)) : Prop :=
  ∀ register, ∀ data ∈ ((messagesOf (activeAfter config.deviceId ops) ops).filter
    fun data ↦ data.register == register).rtake 60, config.handles data

variable {config : DashboardConfig D} {ops : List (StoreOp D)}

theorem lastReadingsHandled_of_showsActive (hshows : ShowsActive config ops) :
    LastReadingsHandled config ops := by
  intro register data hdata
  have hactive := DashboardStore.activeDeviceId_run_init config ops
  have hshown := hshows.history register
  dsimp only at hshown
  have hkept := (DashboardStore.follows_run config config.deviceId ops).registerHistory register
  rw [hactive] at hshown
  rw [← hshown] at hdata
  change data ∈ ((((DashboardStore.fresh config.deviceId).run config ops).registerHistory
    register).getD []) at hdata
  rw [hkept] at hdata
  have hmem := List.mem_of_mem_drop hdata
  exact (List.mem_filter.mp (List.mem_filter.mp hmem).1).2

/-- The last message of every register is among the last readings. -/
theorem lastOn_handled (hhandled : LastReadingsHandled config ops) (register : ℤ) :
    (EventMap.lastOn PlcData.register (messagesOf (activeAfter config.deviceId ops) ops)
      register).all config.handles := by
  rw [Option.all_eq_true]
  intro data hdata
  apply hhandled register
  apply Window.mem_rtake_of_getLast? (by decide)
  rw [EventMap.lastOn_eq_getLast?] at hdata
  exact hdata

theorem showsActive_of_lastReadingsHandled (hhandled : LastReadingsHandled config ops) :
    ShowsActive config ops := by
  have hactive := DashboardStore.activeDeviceId_run_init config ops
  have hfollows := DashboardStore.follows_run config config.deviceId ops
  refine ⟨?_, fun register ↦ ?_⟩
  · dsimp only
    rw [hactive]
    have hfresh :=
      DashboardStore.follows_run_filter config (activeAfter config.deviceId ops) ops
    exact (hfollows.eq (lastOn_handled hhandled)).trans
      (hfresh.eq (lastOn_handled hhandled)).symm
  · dsimp only
    rw [hactive]
    calc
      (((DashboardStore.fresh config.deviceId).run config ops).registerHistory register).getD []
        = _ := hfollows.registerHistory register
      _ = (((messagesOf (activeAfter config.deviceId ops) ops).filter
            fun data ↦ data.register == register).filter config.handles).rtake 60 := by
          rw [List.filter_comm, Readings.maxHistoryPoints]
      _ = _ := Window.rtake_filter (hhandled register)

/-- **The display follows the active device** exactly when the last readings of its registers are
received to their end. -/
theorem showsActive_iff (config : DashboardConfig D) (ops : List (StoreOp D)) :
    ShowsActive config ops ↔ LastReadingsHandled config ops :=
  ⟨lastReadingsHandled_of_showsActive, showsActive_of_lastReadingsHandled⟩

/-- A dashboard with a batch state register. -/
def batchDashboard : DashboardConfig ExactDouble where
  deviceId := "plc-01"
  registers := [⟨1032, "batchState", .finite 1⟩]
  alarms := []

/-- An infinite batch state of a device that is not displayed, and a switch to that device. -/
theorem batchDashboard_not_showsActive :
    ¬ShowsActive batchDashboard
      [.onData ⟨"plc-02", 1032, .infinity false, "2026-01-01T00:00:00Z"⟩ 0,
        .switchDevice "plc-02"] := by
  intro hshows
  have hhandled := lastReadingsHandled_of_showsActive hshows 1032
    ⟨"plc-02", 1032, .infinity false, "2026-01-01T00:00:00Z"⟩ (by decide)
  revert hhandled
  decide

end VyuhHmi.App
