import VyuhHmi.App.CachedAlarms
import VyuhHmi.App.WebSocket

/-!
# The connection alarm

The store keeps what its web socket service tells it of the connection, and when it computes the
alarms it adds one if the connection is lost.  It computes them only when a reading arrives, and the
server sends none before it has acknowledged the token.  So what the store knows of the connection
is right, and the alarm of a lost connection is never raised.
-/

open Transition

namespace VyuhHmi.App

variable {D : Type} [DartDouble D]

namespace DashboardStore

variable (s : DashboardStore D)

/-- `init` asks for the server's health before it connects. -/
def healthChecked (ok : Bool) : DashboardStore D := { s with isServerConnected := ok }

def onWsConnectionChanged (connected : Bool) : DashboardStore D :=
  { s with
    isWsConnected := connected
    isServerConnected := if connected then true else s.isServerConnected }

/-- The callbacks of the service; the other one is the shell's. -/
def onCallback : Callback → DashboardStore D
  | .connectionChanged connected => s.onWsConnectionChanged connected
  | .authFailed => s

def dismissAlarm (alarmId : String) : DashboardStore D :=
  { s with activeAlarms := s.activeAlarms.filter fun alarm ↦ alarm.id != alarmId }

end DashboardStore

/-- The subscription on which the server acknowledges the token. -/
def SocketEvent.acknowledges {Data : Type} : SocketEvent Data → List ℕ
  | .frame subscription .authOk => [subscription]
  | _ => []

/-- A store with its service.  The server has acknowledged the token on these of the subscriptions
that still deliver. -/
structure ConnectedStore (D : Type) where
  service : WebSocketService (PlcData D)
  store : DashboardStore D
  acknowledged : List ℕ

inductive ConnectedEvent (D : Type)
  | healthChecked (ok : Bool)
  | socket (event : SocketEvent (PlcData D)) (now : Instant)
  | switchDevice (deviceId : String)
  | dismissAlarm (alarmId : String)

namespace ConnectedStore

def create (config : DashboardConfig D) (authToken : Option String) : ConnectedStore D where
  service := .create authToken
  store := .init config
  acknowledged := []

/-- After an event of the service come its callbacks, and then the listener of its stream. -/
def afterEvent (config : DashboardConfig D) (s : ConnectedStore D)
    (event : SocketEvent (PlcData D)) (now : Instant) (service : WebSocketService (PlcData D)) :
    ConnectedStore D where
  service := service
  store :=
    let told := (service.calls.drop s.service.calls.length).foldl DashboardStore.onCallback s.store
    (service.stream.drop s.service.stream.length).foldl
      (fun store data ↦ store.onData config data now) told
  acknowledged :=
    (event.acknowledges ++ s.acknowledged).filter fun id ↦ decide (id ∈ service.listening)

def step (config : DashboardConfig D) (s : ConnectedStore D) :
    ConnectedEvent D → Option (ConnectedStore D)
  | .healthChecked ok => some { s with store := s.store.healthChecked ok }
  | .socket event now => (s.service.step event).map (s.afterEvent config event now)
  | .switchDevice deviceId => some { s with store := s.store.switchDevice deviceId }
  | .dismissAlarm alarmId => some { s with store := s.store.dismissAlarm alarmId }

/-- The server sends readings only after its acknowledgement. -/
def acknowledgedFirst (s : ConnectedStore D) : ConnectedEvent D → Bool
  | .socket (.frame subscription (.data _)) _ => decide (subscription ∈ s.acknowledged)
  | _ => true

end ConnectedStore

/-! ## What an event of the service comes to -/

namespace WebSocketService

variable {Data : Type} {service next : WebSocketService Data}

/-- The service has called these callbacks and given these readings to its listeners. -/
def Emits (service next : WebSocketService Data) (calls : List Callback) (stream : List Data) :
    Prop :=
  next.calls = service.calls ++ calls ∧ next.stream = service.stream ++ stream ∧
    next.disposed = service.disposed

/-- The connection is lost: no subscription is left, and the listeners are told. -/
def Disconnects (service next : WebSocketService Data) : Prop :=
  next.listening = [] ∧ ∃ more, (∀ call ∈ more, call = .authFailed) ∧
    service.Emits next (.connectionChanged false :: more) []

theorem handleDisconnect_emits (service : WebSocketService Data) :
    service.Emits service.handleDisconnect [.connectionChanged false] [] := by
  unfold handleDisconnect
  dsimp only
  split
  · exact ⟨rfl, (List.append_nil _).symm, rfl⟩
  · exact ⟨rfl, (List.append_nil _).symm, rfl⟩

theorem listening_handleDisconnect (h : service.cancelSubscription.listening = []) :
    service.handleDisconnect.listening = [] := by
  unfold handleDisconnect
  dsimp only
  split
  · exact h
  · exact h

theorem disconnects_handleDisconnect (h : service.cancelSubscription.listening = []) :
    service.Disconnects service.handleDisconnect :=
  ⟨listening_handleDisconnect h, [], nofun, service.handleDisconnect_emits⟩

/-- Nothing is told, and no subscription is given up. -/
def Goes (service next : WebSocketService Data) : Prop :=
  service.Emits next [] [] ∧ service.listening ⊆ next.listening

theorem emits_nil (hcalls : next.calls = service.calls) (hstream : next.stream = service.stream)
    (hdisposed : next.disposed = service.disposed) : service.Emits next [] [] :=
  ⟨by rw [hcalls, List.append_nil], by rw [hstream, List.append_nil], hdisposed⟩

theorem cancelSubscription_of_nil (h : service.listening = []) :
    service.cancelSubscription.listening = [] := by
  rw [cancelSubscription, h, List.filter_nil]

theorem doConnect_emits (h : service.listening = []) (opens : Bool) :
    service.Goes (service.doConnect opens) ∨ service.Disconnects (service.doConnect opens) := by
  unfold doConnect
  split
  · exact .inl ⟨emits_nil rfl rfl rfl, List.Subset.refl _⟩
  · dsimp only
    split
    · exact .inl ⟨emits_nil rfl rfl rfl, List.Subset.refl _⟩
    · exact .inr ⟨listening_handleDisconnect (cancelSubscription_of_nil h), [], nofun,
        handleDisconnect_emits _⟩

theorem connect_emits (h : service.listening = []) (opens : Bool) :
    service.Goes (service.connect opens) ∨ service.Disconnects (service.connect opens) := by
  unfold connect
  split
  · exact .inl ⟨emits_nil rfl rfl rfl, List.Subset.refl _⟩
  · exact @doConnect_emits _ { service with authFailed := false } h opens

theorem afterHandshake_emits (h : service.listening = []) (sendThrows : Bool) :
    service.Goes (service.afterHandshake sendThrows) ∨
      service.Disconnects (service.afterHandshake sendThrows) := by
  have hlost := disconnects_handleDisconnect (cancelSubscription_of_nil h)
  unfold afterHandshake
  split
  · exact .inr hlost
  · split
    · exact .inr hlost
    · exact .inl ⟨emits_nil rfl rfl rfl, List.subset_cons_self _ _⟩

/-- The service has gone on, has told its listeners something, or is disposed of. -/
inductive Effect (service next : WebSocketService Data) : SocketEvent Data → Prop
  | goes {event : SocketEvent Data} (hother : event.acknowledges = [])
      (h : service.Goes next ∨ service.Disconnects next) : Effect service next event
  | acknowledged {id : ℕ} (hmem : id ∈ service.listening)
      (hlistening : next.listening = service.listening)
      (h : service.Emits next [.connectionChanged true] []) :
      Effect service next (.frame id .authOk)
  | reads {id : ℕ} {data : Data} (hmem : id ∈ service.listening)
      (hlistening : next.listening = service.listening) (stream : List Data)
      (h : service.Emits next [] stream) : Effect service next (.frame id (.data data))
  | disposes (h : next = service.dispose) : Effect service next .dispose

theorem Coherent.effect_frame (h : service.Coherent) {id : ℕ} (hmem : id ∈ service.listening)
    (frame : Frame Data) : service.Effect (service.onFrame frame) (.frame id frame) := by
  cases frame with
  | authOk => exact .acknowledged hmem rfl ⟨rfl, (List.append_nil _).symm, rfl⟩
  | error =>
      refine .goes rfl (.inr ⟨h.listening_cancelSubscription, [.authFailed], ?_, ?_⟩)
      · exact fun call hcall ↦ List.mem_singleton.mp hcall
      · exact ⟨List.append_assoc _ _ _, (List.append_nil _).symm, rfl⟩
  | data data =>
      by_cases hdisposed : service.disposed = true
      · have hsame : service.onFrame (.data data) = service := if_pos hdisposed
        rw [hsame]
        exact .reads hmem rfl [] (emits_nil rfl rfl rfl)
      · have hadded : service.onFrame (.data data) =
            { service with stream := service.stream ++ [data] } := if_neg hdisposed
        rw [hadded]
        exact .reads hmem rfl [data] ⟨(List.append_nil _).symm, rfl, rfl⟩
  | malformed => exact .goes rfl (.inl ⟨emits_nil rfl rfl rfl, List.Subset.refl _⟩)

/-- **What an event comes to.** -/
theorem Coherent.effect (h : service.Coherent) {event : SocketEvent Data}
    (hstep : service.step event = some next) : service.Effect next event := by
  cases event <;>
    simp only [WebSocketService.step, Option.ite_none_right_eq_some, Option.some.injEq] at hstep
  case connect opens =>
    obtain ⟨hquiet, rfl⟩ := hstep
    exact .goes rfl (connect_emits hquiet.2.1 opens)
  case handshakeSucceeded attempt sendThrows =>
    obtain ⟨hmem, rfl⟩ := hstep
    exact .goes rfl (afterHandshake_emits (h.erase_attempt hmem).2.1 sendThrows)
  case handshakeFailed attempt =>
    obtain ⟨hmem, rfl⟩ := hstep
    exact .goes rfl (.inr (disconnects_handleDisconnect
      (cancelSubscription_of_nil (h.erase_attempt hmem).2.1)))
  case frame subscription frame =>
    obtain ⟨hmem, rfl⟩ := hstep
    exact h.effect_frame hmem frame
  case streamError subscription =>
    obtain ⟨-, rfl⟩ := hstep
    exact .goes rfl (.inr (disconnects_handleDisconnect h.listening_cancelSubscription))
  case streamEnd subscription =>
    obtain ⟨hmem, rfl⟩ := hstep
    refine .goes rfl (.inr (disconnects_handleDisconnect (cancelSubscription_of_nil ?_)))
    simp [(h.alone_of_listening hmem).2.1]
  case timerFired timer opens =>
    obtain ⟨hmem, rfl⟩ := hstep
    exact .goes rfl (doConnect_emits (h.erase_timer hmem).2.1 opens)
  case setAuthToken token =>
    obtain rfl := hstep
    exact .goes rfl (.inl ⟨emits_nil rfl rfl rfl, List.Subset.refl _⟩)
  case dispose => exact hstep ▸ .disposes rfl

end WebSocketService

/-! ## The alarms of the store -/

theorem append_ne_of_getLast {label ending text : String} {c : Char}
    (hending : ending.toList.getLast? = some c) (htext : text.toList.getLast? ≠ some c) :
    label ++ ending ≠ text := by
  intro heq
  apply htext
  rw [← heq, String.toList_append, List.getLast?_append, hending]
  rfl

/-- None of the alarms says that the connection is lost. -/
def NoneOfConnection (alarms : List Alarm) : Prop := ∀ alarm ∈ alarms, alarm.id ≠ "ws-disconnected"

namespace AlarmThreshold

variable (threshold : AlarmThreshold D) (val : D) (now : Instant)

theorem noneOfConnection_highAlarms : NoneOfConnection (threshold.highAlarms val now) := by
  have hcrit : threshold.label ++ "-crit-high" ≠ "ws-disconnected" :=
    append_ne_of_getLast (c := 'h') rfl (by decide)
  have hwarn : threshold.label ++ "-warn-high" ≠ "ws-disconnected" :=
    append_ne_of_getLast (c := 'h') rfl (by decide)
  unfold NoneOfConnection highAlarms
  dsimp only
  split
  · simpa using hcrit
  · split
    · simpa using hwarn
    · simp

theorem noneOfConnection_lowAlarms : NoneOfConnection (threshold.lowAlarms val now) := by
  have hcrit : threshold.label ++ "-crit-low" ≠ "ws-disconnected" :=
    append_ne_of_getLast (c := 'w') rfl (by decide)
  have hwarn : threshold.label ++ "-warn-low" ≠ "ws-disconnected" :=
    append_ne_of_getLast (c := 'w') rfl (by decide)
  unfold NoneOfConnection lowAlarms
  dsimp only
  split
  · simpa using hcrit
  · split
    · simpa using hwarn
    · simp

end AlarmThreshold

namespace DashboardStore

variable {config : DashboardConfig D} {s : DashboardStore D}

/-- No alarm on display or in a cache says that the connection is lost. -/
structure Unalarmed (s : DashboardStore D) : Prop where
  shown : NoneOfConnection s.activeAlarms
  cached : ∀ deviceId, NoneOfConnection (s.cacheFor deviceId).alarms

theorem unalarmed_init (config : DashboardConfig D) : (init config).Unalarmed :=
  ⟨nofun, fun _ ↦ nofun⟩

theorem noneOfConnection_checkAlarms (hconnected : s.isWsConnected = true) (now : Instant) :
    NoneOfConnection (s.checkAlarms config now).activeAlarms := by
  have hconnection : s.connectionAlarms now = [] := by
    rw [connectionAlarms, hconnected]
    rfl
  intro alarm hmem
  have hmem : alarm ∈ s.thresholdAlarms config now ++ s.connectionAlarms now := hmem
  rw [hconnection, List.append_nil] at hmem
  obtain ⟨threshold, -, hmem⟩ := List.mem_flatMap.mp hmem
  split at hmem
  · exact absurd hmem List.not_mem_nil
  · rcases List.mem_append.mp hmem with hmem | hmem
    · exact threshold.noneOfConnection_highAlarms _ now alarm hmem
    · exact threshold.noneOfConnection_lowAlarms _ now alarm hmem

theorem isWsConnected_onData (config : DashboardConfig D) (s : DashboardStore D)
    (data : PlcData D) (now : Instant) :
    (s.onData config data now).isWsConnected = s.isWsConnected := by
  rw [onData_eq]
  split <;> rfl

/-- Alarms that are computed while the store is connected. -/
theorem Unalarmed.onData (h : s.Unalarmed) (hconnected : s.isWsConnected = true)
    (data : PlcData D) (now : Instant) : (s.onData config data now).Unalarmed := by
  have hcached (deviceId : String) :
      NoneOfConnection ((s.cached config data).cacheFor deviceId).alarms := by
    rw [(cacheFor_cached config s data deviceId).2]
    exact h.cached deviceId
  rw [onData_eq]
  split
  case isTrue =>
      have hshown : ∀ s' : DashboardStore D, s'.isWsConnected = true →
          NoneOfConnection (s'.checkAlarms config now).activeAlarms :=
        fun s' hs' ↦ noneOfConnection_checkAlarms hs' now
      refine ⟨hshown _ hconnected, fun deviceId ↦ ?_⟩
      rw [(cacheFor_checkAlarms config _ now deviceId).2]
      split
      case isTrue => exact hshown _ hconnected
      case isFalse => exact hcached deviceId
  case isFalse => exact ⟨h.shown, hcached⟩

/-- A list of readings. -/
theorem Unalarmed.onReadings (h : s.Unalarmed) (hconnected : s.isWsConnected = true)
    (stream : List (PlcData D)) (now : Instant) :
    (stream.foldl (fun store data ↦ store.onData config data now) s).Unalarmed ∧
      (stream.foldl (fun store data ↦ store.onData config data now) s).isWsConnected = true := by
  induction stream generalizing s with
  | nil => exact ⟨h, hconnected⟩
  | cons data stream ih =>
      exact ih (h.onData hconnected data now)
        ((isWsConnected_onData config s data now).trans hconnected)

theorem Unalarmed.switchDevice (h : s.Unalarmed) (deviceId : String) :
    (s.switchDevice deviceId).Unalarmed := by
  refine ⟨?_, fun other ↦ ?_⟩
  · by_cases hsame : deviceId = s.activeDeviceId
    · rw [DashboardStore.switchDevice, if_pos hsame]
      exact h.shown
    · rw [(switchDevice_of_ne hsame).2.2]
      exact h.cached deviceId
  · rw [cacheFor_switchDevice]
    exact h.cached other

theorem isWsConnected_switchDevice (s : DashboardStore D) (deviceId : String) :
    (s.switchDevice deviceId).isWsConnected = s.isWsConnected := by
  unfold switchDevice
  split <;> rfl

theorem Unalarmed.dismissAlarm (h : s.Unalarmed) (alarmId : String) :
    (s.dismissAlarm alarmId).Unalarmed :=
  ⟨fun alarm hmem ↦ h.shown alarm (List.mem_filter.mp hmem).1, h.cached⟩

omit [DartDouble D] in
theorem foldl_authFailed {calls : List Callback} (h : ∀ call ∈ calls, call = .authFailed)
    (s : DashboardStore D) : calls.foldl onCallback s = s := by
  induction calls with
  | nil => rfl
  | cons call calls ih =>
      rw [List.foldl_cons, h call List.mem_cons_self]
      exact ih fun other hother ↦ h other (List.mem_cons_of_mem _ hother)

end DashboardStore

/-! ## The connection as the store knows it -/

namespace ConnectedStore

variable {config : DashboardConfig D} {s t : ConnectedStore D}

/-- What the store knows of the connection is right until the service is disposed of, and no alarm
says that it is lost. -/
structure Truthful (s : ConnectedStore D) : Prop where
  coherent : s.service.Coherent
  delivers : s.acknowledged ⊆ s.service.listening
  connected : s.acknowledged ≠ [] → s.store.isWsConnected = true
  lost : s.service.disposed = false → s.acknowledged = [] → s.store.isWsConnected = false
  unalarmed : s.store.Unalarmed

theorem truthful_create (config : DashboardConfig D) (authToken : Option String) :
    (create config authToken).Truthful where
  coherent := WebSocketService.create_coherent authToken
  delivers := List.nil_subset _
  connected := fun h ↦ absurd rfl h
  lost := fun _ _ ↦ rfl
  unalarmed := DashboardStore.unalarmed_init config

variable {event : SocketEvent (PlcData D)} {now : Instant} {service : WebSocketService (PlcData D)}

theorem store_afterEvent {calls : List Callback} {stream : List (PlcData D)}
    (h : s.service.Emits service calls stream) :
    (s.afterEvent config event now service).store =
      stream.foldl (fun store data ↦ store.onData config data now)
        (calls.foldl DashboardStore.onCallback s.store) := by
  rw [afterEvent, h.1, h.2.1, List.drop_left, List.drop_left]

/-- The subscriptions still deliver. -/
theorem acknowledged_afterEvent (hevent : event.acknowledges = [])
    (hdelivers : s.acknowledged ⊆ service.listening) :
    (s.afterEvent config event now service).acknowledged = s.acknowledged := by
  rw [afterEvent, hevent, List.nil_append, List.filter_eq_self]
  exact fun id hid ↦ decide_eq_true (hdelivers hid)

theorem acknowledged_of_nil (hlistening : service.listening = []) :
    (s.afterEvent config event now service).acknowledged = [] := by
  rw [afterEvent, hlistening]
  exact List.filter_eq_nil_iff.mpr fun id _ ↦ by simp

theorem delivers_afterEvent :
    (s.afterEvent config event now service).acknowledged ⊆ service.listening :=
  fun _ hid ↦ of_decide_eq_true (List.mem_filter.mp hid).2

/-- The connection goes on as it was. -/
theorem Truthful.goes (h : s.Truthful) (hcoherent : service.Coherent)
    (hother : event.acknowledges = []) (hgoes : s.service.Goes service) :
    (s.afterEvent config event now service).Truthful := by
  have hstore : (s.afterEvent config event now service).store = s.store :=
    store_afterEvent hgoes.1
  have hacknowledged : (s.afterEvent config event now service).acknowledged = s.acknowledged :=
    acknowledged_afterEvent hother (List.Subset.trans h.delivers hgoes.2)
  refine ⟨hcoherent, delivers_afterEvent, ?_, ?_, ?_⟩
  · rw [hstore, hacknowledged]
    exact h.connected
  · rw [hstore, hacknowledged]
    exact fun hdisposed ↦ h.lost (hgoes.1.2.2.symm.trans hdisposed)
  · rw [hstore]
    exact h.unalarmed

theorem Truthful.disconnects (h : s.Truthful) (hcoherent : service.Coherent)
    (hlost : s.service.Disconnects service) :
    (s.afterEvent config event now service).Truthful := by
  obtain ⟨hlistening, more, hmore, hemits⟩ := hlost
  have hacknowledged : (s.afterEvent config event now service).acknowledged = [] :=
    acknowledged_of_nil hlistening
  have hstore : (s.afterEvent config event now service).store =
      s.store.onWsConnectionChanged false := by
    rw [store_afterEvent hemits, List.foldl_nil, List.foldl_cons]
    exact DashboardStore.foldl_authFailed hmore _
  refine ⟨hcoherent, delivers_afterEvent, fun hsome ↦ absurd hacknowledged hsome, ?_, ?_⟩
  · rw [hstore]
    exact fun _ _ ↦ rfl
  · rw [hstore]
    exact ⟨h.unalarmed.shown, h.unalarmed.cached⟩

theorem Truthful.acknowledges (h : s.Truthful) (hcoherent : service.Coherent) {id : ℕ}
    (hmem : id ∈ s.service.listening) (hlistening : service.listening = s.service.listening)
    (hemits : s.service.Emits service [.connectionChanged true] []) :
    (s.afterEvent config (.frame id .authOk) now service).Truthful := by
  have hstore : (s.afterEvent config (.frame id .authOk) now service).store =
      s.store.onWsConnectionChanged true := store_afterEvent hemits
  have hacknowledged :
      id ∈ (s.afterEvent config (.frame id .authOk) now service).acknowledged := by
    refine List.mem_filter.mpr ⟨List.mem_append_left _ (List.mem_singleton_self id), ?_⟩
    exact decide_eq_true (hlistening ▸ hmem)
  refine ⟨hcoherent, delivers_afterEvent, ?_, fun _ hnone ↦ ?_, ?_⟩
  · rw [hstore]
    exact fun _ ↦ rfl
  · rw [hnone] at hacknowledged
    cases hacknowledged
  · rw [hstore]
    exact ⟨h.unalarmed.shown, h.unalarmed.cached⟩

/-- A reading arrives on an acknowledged subscription. -/
theorem Truthful.reads (h : s.Truthful) (hcoherent : service.Coherent) {id : ℕ} {data : PlcData D}
    (hid : id ∈ s.acknowledged) (hlistening : service.listening = s.service.listening)
    {stream : List (PlcData D)} (hemits : s.service.Emits service [] stream) :
    (s.afterEvent config (.frame id (.data data)) now service).Truthful := by
  have hconnected := h.connected (List.ne_nil_of_mem hid)
  have hstore : (s.afterEvent config (.frame id (.data data)) now service).store =
      stream.foldl (fun store data ↦ store.onData config data now) s.store :=
    store_afterEvent hemits
  have hacknowledged : (s.afterEvent config (.frame id (.data data)) now service).acknowledged =
      s.acknowledged :=
    acknowledged_afterEvent rfl (hlistening ▸ h.delivers)
  obtain ⟨hunalarmed, hstill⟩ := h.unalarmed.onReadings hconnected stream now
  refine ⟨hcoherent, delivers_afterEvent, ?_, fun _ hnone ↦ ?_, ?_⟩
  · rw [hstore]
    exact fun _ ↦ hstill
  · rw [hacknowledged] at hnone
    exact absurd hnone (List.ne_nil_of_mem hid)
  · rw [hstore]
    exact hunalarmed

theorem Truthful.dispose (h : s.Truthful) :
    (s.afterEvent config .dispose now s.service.dispose).Truthful := by
  have hstore : (s.afterEvent config .dispose now s.service.dispose).store = s.store := by
    change (s.service.stream.drop s.service.stream.length).foldl _
      ((s.service.calls.drop s.service.calls.length).foldl _ _) = _
    rw [List.drop_length, List.drop_length]
    rfl
  have hacknowledged :
      (s.afterEvent config .dispose now s.service.dispose).acknowledged = [] :=
    acknowledged_of_nil h.coherent.listening_cancelSubscription
  refine ⟨h.coherent.dispose, delivers_afterEvent, fun hsome ↦ absurd hacknowledged hsome,
    fun hdisposed ↦ ?_, ?_⟩
  · cases hdisposed
  · rw [hstore]
    exact h.unalarmed

/-- **One step.** -/
theorem Truthful.step (h : s.Truthful) {event : ConnectedEvent D}
    (hfirst : s.acknowledgedFirst event) (hstep : s.step config event = some t) : t.Truthful := by
  cases event with
  | healthChecked ok =>
      obtain rfl := Option.some.inj hstep
      exact ⟨h.coherent, h.delivers, h.connected, h.lost, h.unalarmed.shown, h.unalarmed.cached⟩
  | socket event now =>
      obtain ⟨service, hservice, rfl⟩ := Option.map_eq_some_iff.mp hstep
      have hcoherent := h.coherent.step hservice
      cases h.coherent.effect hservice with
      | goes hother heither =>
          rcases heither with hgoes | hlost
          · exact h.goes hcoherent hother hgoes
          · exact h.disconnects hcoherent hlost
      | acknowledged hmem hlistening hemits => exact h.acknowledges hcoherent hmem hlistening hemits
      | reads hmem hlistening stream hemits =>
          exact h.reads hcoherent (of_decide_eq_true hfirst) hlistening hemits
      | disposes hdisposed => exact hdisposed ▸ h.dispose
  | switchDevice deviceId =>
      obtain rfl := Option.some.inj hstep
      have hconnected := DashboardStore.isWsConnected_switchDevice s.store deviceId
      exact ⟨h.coherent, h.delivers, fun hsome ↦ hconnected.trans (h.connected hsome),
        fun hdisposed hnone ↦ hconnected.trans (h.lost hdisposed hnone),
        h.unalarmed.switchDevice deviceId⟩
  | dismissAlarm alarmId =>
      obtain rfl := Option.some.inj hstep
      exact ⟨h.coherent, h.delivers, h.connected, h.lost, h.unalarmed.dismissAlarm alarmId⟩

/-- **The connection.** Until the service is disposed of, the store takes the connection for open
exactly while a subscription delivers on which the server has acknowledged the token.  The alarm of
a lost connection is never raised, nor is it restored from a cache. -/
theorem connection_alarm_never_raised {authToken : Option String}
    {events : List (ConnectedEvent D)}
    (hrun : Run (guarded (fun s event ↦ s.acknowledgedFirst event) (ofOption (step config)))
      (create config authToken) events s) :
    (s.service.disposed = false → (s.store.isWsConnected = true ↔ s.acknowledged ≠ [])) ∧
      NoneOfConnection s.store.activeAlarms ∧
      ∀ deviceId, NoneOfConnection (s.store.switchDevice deviceId).activeAlarms := by
  have h : s.Truthful := hrun.invariant (truthful_create config authToken) fun _ _ _ h hstep ↦
    h.step hstep.1 hstep.2
  refine ⟨fun hdisposed ↦ ⟨fun hconnected hnone ↦ ?_, h.connected⟩, h.unalarmed.shown,
    fun deviceId ↦ (h.unalarmed.switchDevice deviceId).shown⟩
  rw [h.lost hdisposed hnone] at hconnected
  cases hconnected

/-- The connection is lost after a reading. -/
def lostConnection : List (ConnectedEvent ExactDouble) :=
  [.healthChecked true, .socket (.setAuthToken (some "token")) 0, .socket (.connect true) 0,
    .socket (.handshakeSucceeded 0 false) 1, .socket (.frame 1 .authOk) 2,
    .socket (.frame 1 (.data ⟨"plc-01", 1028, .finite 95, "2026-01-01T00:00:00Z"⟩)) 3,
    .socket (.streamEnd 1) 4]

theorem connection_alarm_never_raised_lostConnection :
    ∃ s : ConnectedStore ExactDouble, s.store.isServerConnected = true ∧
      s.store.isWsConnected = false ∧ NoneOfConnection s.store.activeAlarms := by
  obtain ⟨s, hrun, htest⟩ : ∃ s : ConnectedStore ExactDouble,
      Run (guarded (fun s event ↦ s.acknowledgedFirst event) (ofOption (step temperatureDashboard)))
        (create temperatureDashboard none) lostConnection s ∧
        (s.store.isServerConnected && !s.store.isWsConnected) :=
    @exists_run_guarded_of_any _ _ _ (step temperatureDashboard)
      (fun s event ↦ s.acknowledgedFirst event) _
      (fun s ↦ s.store.isServerConnected && !s.store.isWsConnected) _ (by decide)
  rw [Bool.and_eq_true, Bool.not_eq_true'] at htest
  exact ⟨s, htest.1, htest.2, (connection_alarm_never_raised hrun).2.1⟩

end ConnectedStore

end VyuhHmi.App
