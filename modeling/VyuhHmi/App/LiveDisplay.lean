import VyuhHmi.App.Display
import VyuhHmi.Server.Delivery

/-!
# From the broadcast to the display

A reading passes the broadcast channel, the handler of a socket, the connection to the app and the
store before it is on display.  The parts take their steps in any order, and the operator switches
between devices meanwhile.  The display never shows anything but readings of the active device that
have been broadcast since the subscription, and it is behind the newest one that the app has got
only where the channel has dropped readings.
-/

namespace VyuhHmi.App

open Transition BroadcastReader

/-- The server, what it has sent on one of its sockets, how many of these texts have arrived, and
the store. -/
structure LiveSystem (jwt : Jwt) (D : Type) where
  server : StreamState jwt
  sent : StreamState.Delivery
  arrived : ℕ
  store : DashboardStore D

namespace LiveSystem

variable {jwt : Jwt} {D : Type} [DartDouble D]

/-- A step of the server, the arrival of the next text, or a choice of the operator. -/
inductive Label
  | server (label : StreamState.Label)
  | arrive (now : Instant)
  | switchDevice (deviceId : String)

def init (jwt : Jwt) (config : DashboardConfig D) (now : Instant) (users : UserTable)
    (auditTrail : AuditTable) : LiveSystem jwt D where
  server := .init jwt now users auditTrail
  sent := .none
  arrived := 0
  store := .init config

/-- A text is decoded; one that is no reading is skipped. -/
def receiveText (decode : String → Option (PlcData D)) (config : DashboardConfig D)
    (store : DashboardStore D) (text : String) (now : Instant) : DashboardStore D :=
  match decode text with
  | some data => store.onData config data now
  | none => store

def step (verifyPassword : String → String → Bool) (decode : String → Option (PlcData D))
    (config : DashboardConfig D) (socket : ℕ) (s : LiveSystem jwt D) :
    Label → Option (LiveSystem jwt D)
  | .server label =>
      (s.server.step verifyPassword label).map fun server ↦
        { s with server := server, sent := StreamState.watchSocket socket s.sent s.server label }
  | .arrive now =>
      s.sent.texts[s.arrived]?.map fun text ↦
        { s with
          arrived := s.arrived + 1
          store := receiveText decode config s.store text now }
  | .switchDevice deviceId => some { s with store := s.store.switchDevice deviceId }

/-- The channel keeps this many readings. -/
def keeps (kept : ℕ) (s : LiveSystem jwt D) : Label → Bool
  | .server label => s.server.keeps kept label
  | _ => true

end LiveSystem

/-! ## Messages -/

section Messages

variable {D : Type} {ops : List (StoreOp D)}

/-- The messages of all devices, in order. -/
def allMessages (ops : List (StoreOp D)) : List (PlcData D) :=
  ops.filterMap fun
    | .onData data _ => some data
    | .switchDevice _ => none

theorem messagesOf_eq_filter (deviceId : String) (ops : List (StoreOp D)) :
    messagesOf deviceId ops =
      (allMessages ops).filter fun data ↦ decide (data.deviceId = deviceId) := by
  unfold messagesOf allMessages
  rw [List.filter_filterMap]
  congr 1
  funext op
  cases op with
  | onData data now =>
      by_cases h : data.deviceId = deviceId
      · simp [h, Option.filter]
      · simp [h, Option.filter]
  | switchDevice => rfl

theorem allMessages_append_singleton (ops : List (StoreOp D)) (op : StoreOp D) :
    allMessages (ops ++ [op]) = allMessages ops ++ allMessages [op] := by
  simp [allMessages, List.filterMap_append]

end Messages

namespace Readings

variable {D : Type} [DartDouble D] {config : DashboardConfig D}

/-- The live value of a register is that of its last message. -/
theorem after_liveValues (config : DashboardConfig D) (messages : List (PlcData D)) (register : ℤ) :
    (after config messages).liveValues register =
      (EventMap.lastOn PlcData.register messages register).map PlcData.value := by
  induction messages using List.reverseRecOn with
  | nil => rfl
  | append_singleton messages data ih =>
      rw [after_append_singleton, receive_liveValues, EventMap.lastOn_append_singleton,
        Function.update_apply]
      by_cases hregister : register = data.register
      · rw [if_pos hregister, if_pos hregister.symm, Option.map_some]
      · rw [if_neg hregister, if_neg (Ne.symm hregister), ih]

theorem afterHandled_of_forall {messages : List (PlcData D)}
    (h : ∀ data ∈ messages, config.handles data) :
    afterHandled config messages = after config messages := by
  rw [afterHandled, List.filter_eq_self.mpr h]

/-- Readings that follow messages all of which are received to their end. -/
theorem Follows.eq_after {messages : List (PlcData D)} {readings : Readings D}
    (h : Follows config messages readings) (hhandled : ∀ data ∈ messages, config.handles data) :
    readings = after config messages := by
  rw [← afterHandled_of_forall hhandled]
  refine h.eq fun register ↦ ?_
  rw [Option.all_eq_true]
  intro data hdata
  rw [EventMap.lastOn_eq_getLast?] at hdata
  exact hhandled data (List.mem_filter.mp (List.mem_of_getLast? hdata)).1

end Readings

namespace LiveSystem

variable {jwt : Jwt} {D : Type} [DartDouble D] {verifyPassword : String → String → Bool}
  {decode : String → Option (PlcData D)} {config : DashboardConfig D} {socket kept : ℕ}
  {s t : LiveSystem jwt D} {label : Label}

/-- A client is only ever sent more texts. -/
theorem texts_watchSocket (socket : ℕ) (seen : StreamState.Delivery) (s : StreamState jwt)
    (label : StreamState.Label) :
    seen.texts <+: (StreamState.watchSocket socket seen s label).texts := by
  unfold StreamState.watchSocket
  repeat' split
  all_goals first | exact List.prefix_rfl | exact List.prefix_append _ _

/-- The texts that have arrived. -/
def arrivedTexts (s : LiveSystem jwt D) : List String := s.sent.texts.take s.arrived

/-- The store has received what has arrived. -/
structure Linked (decode : String → Option (PlcData D)) (config : DashboardConfig D)
    (kept socket : ℕ) (s : LiveSystem jwt D) : Prop where
  tracks : StreamState.Tracks kept socket s.sent s.server
  arrived_le : s.arrived ≤ s.sent.texts.length
  store : ∃ ops, s.store = (DashboardStore.init config).run config ops ∧
    allMessages ops = s.arrivedTexts.filterMap decode

theorem linked_init (now : Instant) (users : UserTable) (auditTrail : AuditTable) :
    Linked decode config kept socket (init jwt config now users auditTrail) where
  tracks := ⟨fun _ ↦ rfl, nofun, nofun, fun _ ↦ rfl⟩
  arrived_le := le_refl 0
  store := ⟨[], rfl, rfl⟩

theorem run_append_singleton (store : DashboardStore D) (ops : List (StoreOp D)) (op : StoreOp D) :
    store.run config (ops ++ [op]) = (store.run config ops).apply config op := by
  simp [DashboardStore.run, List.foldl_append]

theorem Linked.server (h : Linked decode config kept socket s) {label : StreamState.Label}
    {server : StreamState jwt} (hkeeps : s.server.keeps kept label)
    (hstep : s.server.step verifyPassword label = some server) :
    Linked decode config kept socket
      { s with server := server, sent := StreamState.watchSocket socket s.sent s.server label } := by
  obtain ⟨more, hmore⟩ := texts_watchSocket socket s.sent s.server label
  obtain ⟨ops, hstore, hmessages⟩ := h.store
  refine ⟨h.tracks.step hkeeps hstep, ?_, ops, hstore, ?_⟩
  · dsimp only
    rw [← hmore, List.length_append]
    exact h.arrived_le.trans (Nat.le_add_right _ _)
  · rw [hmessages, arrivedTexts, arrivedTexts]
    dsimp only
    rw [← hmore, List.take_append_of_le_length h.arrived_le]

theorem Linked.arrive (h : Linked decode config kept socket s) {text : String}
    (htext : s.sent.texts[s.arrived]? = some text) (now : Instant) :
    Linked decode config kept socket
      { s with arrived := s.arrived + 1, store := receiveText decode config s.store text now } := by
  obtain ⟨ops, hstore, hmessages⟩ := h.store
  have hlt := (List.getElem?_eq_some_iff.mp htext).1
  have hnext : s.sent.texts.take (s.arrived + 1) = s.sent.texts.take s.arrived ++ [text] := by
    rw [List.take_add_one, htext, Option.toList_some]
  refine ⟨h.tracks, hlt, ?_⟩
  rw [arrivedTexts] at hmessages ⊢
  dsimp only
  rw [hnext, List.filterMap_append, ← hmessages]
  unfold receiveText
  cases hdecode : decode text with
  | none => exact ⟨ops, hstore, by simp [hdecode]⟩
  | some data =>
      refine ⟨ops ++ [.onData data now], ?_, ?_⟩
      · rw [run_append_singleton, ← hstore]
        rfl
      · rw [allMessages_append_singleton]
        simp [allMessages, hdecode]

theorem Linked.switchDevice (h : Linked decode config kept socket s) (deviceId : String) :
    Linked decode config kept socket { s with store := s.store.switchDevice deviceId } := by
  obtain ⟨ops, hstore, hmessages⟩ := h.store
  refine ⟨h.tracks, h.arrived_le, ops ++ [.switchDevice deviceId], ?_, ?_⟩
  · rw [run_append_singleton, ← hstore]
    rfl
  · rw [allMessages_append_singleton, hmessages]
    simp [allMessages, arrivedTexts]

/-- **One step.** -/
theorem Linked.step (h : Linked decode config kept socket s) (hkeeps : s.keeps kept label)
    (hstep : s.step verifyPassword decode config socket label = some t) :
    Linked decode config kept socket t := by
  cases label with
  | server label =>
      obtain ⟨server, hserver, rfl⟩ := Option.map_eq_some_iff.mp hstep
      exact h.server hkeeps hserver
  | arrive now =>
      obtain ⟨text, htext, rfl⟩ := Option.map_eq_some_iff.mp hstep
      exact h.arrive htext now
  | switchDevice deviceId =>
      cases hstep
      exact h.switchDevice deviceId

theorem linked_run {now : Instant} {users : UserTable} {auditTrail : AuditTable}
    {labels : List Label}
    (hrun : Run (guarded (fun s label ↦ s.keeps kept label)
      (ofOption (step verifyPassword decode config socket)))
      (init jwt config now users auditTrail) labels s) :
    Linked decode config kept socket s :=
  hrun.invariant (linked_init now users auditTrail) fun _ _ _ h hstep ↦ h.step hstep.1 hstep.2

/-! ## What is on display -/

/-- The reading at a position of the broadcast. -/
def readingAt (decode : String → Option (PlcData D)) (broadcast : List String) (position : ℕ) :
    Option (PlcData D) :=
  broadcast[position]?.bind decode

variable {r : Reader}

theorem Linked.readings_arrived (h : Linked decode config kept socket s) (hr : s.sent.reader = some r) :
    s.arrivedTexts.filterMap decode =
      (r.taken.take s.arrived).filterMap (readingAt decode s.server.broadcast) := by
  have htexts : s.arrivedTexts.map some =
      (r.taken.take s.arrived).map fun position ↦ s.server.broadcast[position]? := by
    rw [arrivedTexts, List.map_take, (h.tracks.sound r hr).texts, Reader.entries, List.map_take]
  calc
    s.arrivedTexts.filterMap decode
      = (s.arrivedTexts.map some).filterMap (Option.bind · decode) := by
        rw [List.filterMap_map]
        rfl
    _ = (r.taken.take s.arrived).filterMap (readingAt decode s.server.broadcast) := by
        rw [htexts, List.filterMap_map]
        rfl

theorem Linked.texts_subset (h : Linked decode config kept socket s) :
    s.sent.texts ⊆ s.server.broadcast := by
  intro text htext
  cases hr : s.sent.reader with
  | none =>
      rw [h.tracks.fresh hr] at htext
      cases htext
  | some r =>
      have hmem : some text ∈ s.sent.texts.map some := List.mem_map_of_mem htext
      rw [(h.tracks.sound r hr).texts] at hmem
      obtain ⟨position, -, hposition⟩ := List.mem_map.mp hmem
      exact List.mem_of_getElem? hposition

/-- The readings on display are those that have arrived for the active device. -/
theorem Linked.toReadings_eq (h : Linked decode config kept socket s)
    (hhandles : ∀ text ∈ s.server.broadcast, ∀ data, decode text = some data →
      config.handles data) :
    s.store.toReadings = Readings.after config
      ((s.arrivedTexts.filterMap decode).filter fun data ↦
        decide (data.deviceId = s.store.activeDeviceId)) := by
  obtain ⟨ops, hstore, hmessages⟩ := h.store
  have hactive : activeAfter config.deviceId ops = s.store.activeDeviceId := by
    rw [hstore]
    exact (DashboardStore.activeDeviceId_run_init config ops).symm
  have hfollows := DashboardStore.follows_run config config.deviceId ops
  rw [hactive, messagesOf_eq_filter, hmessages] at hfollows
  have hrun : (DashboardStore.fresh config.deviceId).run config ops = s.store := hstore.symm
  rw [hrun] at hfollows
  refine hfollows.eq_after fun data hdata ↦ ?_
  obtain ⟨text, htext, hdecode⟩ := List.mem_filterMap.mp (List.mem_filter.mp hdata).1
  exact hhandles text (h.texts_subset (List.mem_of_mem_take htext)) data hdecode

/-- A reading of the device's register, at this position of the broadcast. -/
def registerAt (decode : String → Option (PlcData D)) (broadcast : List String) (deviceId : String)
    (register : ℤ) (position : ℕ) : Option (PlcData D) :=
  (readingAt decode broadcast position).filter fun data ↦
    decide (data.deviceId = deviceId) && decide (data.register = register)

omit [DartDouble D] in
theorem registerAt_eq_some_iff {broadcast : List String} {deviceId : String} {register : ℤ}
    {position : ℕ} {data : PlcData D} :
    registerAt decode broadcast deviceId register position = some data ↔
      readingAt decode broadcast position = some data ∧ data.deviceId = deviceId ∧
        data.register = register := by
  simp [registerAt, Option.filter_eq_some_iff]

/-- A live value is that of the last reading of the register to arrive for the active device. -/
theorem Linked.liveValues_eq (h : Linked decode config kept socket s) (hr : s.sent.reader = some r)
    (hhandles : ∀ text ∈ s.server.broadcast, ∀ data, decode text = some data →
      config.handles data) (register : ℤ) :
    s.store.liveValues register = (((r.taken.take s.arrived).filterMap
      (registerAt decode s.server.broadcast s.store.activeDeviceId register)).getLast?).map
        PlcData.value := by
  have hread : s.store.liveValues register = _ :=
    congrArg (fun readings ↦ readings.liveValues register) (h.toReadings_eq hhandles)
  rw [Readings.after_liveValues, EventMap.lastOn_eq_getLast?, h.readings_arrived hr,
    List.filter_filter, List.filter_filterMap] at hread
  rw [hread]
  congr 3
  funext position
  unfold registerAt
  congr 1
  funext data
  exact Bool.and_comm _ _

/-- A value on display is that of a reading of the active device broadcast since the subscription.
As soon as a reading of the device, or a later one, has arrived, the value of its register is at
least as new, unless the channel has dropped the reading; then at least as many readings have
followed it as the channel holds. -/
structure Fresh (decode : String → Option (PlcData D)) (s : LiveSystem jwt D) (r : Reader) :
    Prop where
  genuine : ∀ register value, s.store.liveValues register = some value →
    ∃ position data, r.start ≤ position ∧
      readingAt decode s.server.broadcast position = some data ∧
      data.deviceId = s.store.activeDeviceId ∧ data.register = register ∧ data.value = value
  newest : ∀ position data, r.start ≤ position →
    readingAt decode s.server.broadcast position = some data →
    data.deviceId = s.store.activeDeviceId →
    (∃ later ∈ r.taken.take s.arrived, position ≤ later) →
      (position ∉ r.taken ∧
        position + StreamState.channelCapacity < s.server.broadcast.length) ∨
        ∃ position' data', position ≤ position' ∧
          readingAt decode s.server.broadcast position' = some data' ∧
          data'.deviceId = s.store.activeDeviceId ∧ data'.register = data.register ∧
          s.store.liveValues data.register = some data'.value

/-- **Freshness** of the display, in every run of the server and the app. -/
theorem display_fresh (hkept : StreamState.channelCapacity ≤ kept) {now : Instant}
    {users : UserTable} {auditTrail : AuditTable} {labels : List Label}
    (hrun : Run (guarded (fun s label ↦ s.keeps kept label)
      (ofOption (step verifyPassword decode config socket)))
      (init jwt config now users auditTrail) labels s)
    (hhandles : ∀ text ∈ s.server.broadcast, ∀ data, decode text = some data →
      config.handles data) (hr : s.sent.reader = some r) : Fresh decode s r := by
  have h := linked_run hrun
  have hsound := (h.tracks.sound r hr).reader
  constructor
  · intro register value hvalue
    rw [h.liveValues_eq hr hhandles, Option.map_eq_some_iff] at hvalue
    obtain ⟨data, hlast, rfl⟩ := hvalue
    obtain ⟨position, hposition, hdata⟩ := List.mem_filterMap.mp (List.mem_of_getLast? hlast)
    obtain ⟨hread, hdevice, hregister⟩ := registerAt_eq_some_iff.mp hdata
    exact ⟨position, data, hsound.taken_ge position (List.mem_of_mem_take hposition), hread,
      hdevice, hregister, rfl⟩
  · rintro position data hge hread hdevice ⟨later, hlater, hle⟩
    by_cases htaken : position ∈ r.taken
    · right
      have harrived := mem_take_of_le hsound.increasing htaken hlater hle
      have hdata : registerAt decode s.server.broadcast s.store.activeDeviceId data.register
          position = some data := registerAt_eq_some_iff.mpr ⟨hread, hdevice, rfl⟩
      obtain ⟨latest, -, data', hlatest, hdata', hlast⟩ := exists_latest
        (hsound.increasing.sublist (List.take_sublist _ _)) harrived hdata
      obtain ⟨hread', hdevice', hregister'⟩ := registerAt_eq_some_iff.mp hdata'
      refine ⟨latest, data', hlatest, hread', hdevice', hregister', ?_⟩
      rw [h.liveValues_eq hr hhandles, hlast, Option.map_some]
    · left
      have hlt := hsound.taken_lt later (List.mem_of_mem_take hlater)
      have hpassed := hsound.passed position hge (hle.trans_lt hlt) htaken
      exact ⟨htaken, by omega⟩

/-- When the handler has nothing left to take and all that was sent has arrived. -/
theorem Linked.toReadings_eq_drop (h : Linked decode config kept socket s)
    (hhandles : ∀ text ∈ s.server.broadcast, ∀ data, decode text = some data →
      config.handles data) {claims : Claims}
    (hphase : s.server.phaseOf socket = some (.streaming claims s.server.broadcast.length))
    (hlagged : s.sent.lagged = false) (harrived : s.arrived = s.sent.texts.length) :
    ∃ r, s.sent.reader = some r ∧ s.store.toReadings = Readings.after config
      (((s.server.broadcast.drop r.start).filterMap decode).filter fun data ↦
        decide (data.deviceId = s.store.activeDeviceId)) := by
  obtain ⟨r, hr, hcursor⟩ := h.tracks.phase _ hphase
  have hsound := h.tracks.sound r hr
  have htexts := hsound.texts_eq_drop (hsound.complete hlagged) hcursor
  refine ⟨r, hr, ?_⟩
  rw [h.toReadings_eq hhandles, arrivedTexts, harrived, List.take_length, htexts]

/-- **Convergence.** When the handler has nothing left to take and all that was sent has arrived,
the display is what the readings of the active device since the subscription make of an empty one,
provided the receiver has never lagged. -/
theorem display_complete {now : Instant} {users : UserTable} {auditTrail : AuditTable}
    {labels : List Label}
    (hrun : Run (guarded (fun s label ↦ s.keeps kept label)
      (ofOption (step verifyPassword decode config socket)))
      (init jwt config now users auditTrail) labels s)
    (hhandles : ∀ text ∈ s.server.broadcast, ∀ data, decode text = some data →
      config.handles data) {claims : Claims}
    (hphase : s.server.phaseOf socket = some (.streaming claims s.server.broadcast.length))
    (hlagged : s.sent.lagged = false) (harrived : s.arrived = s.sent.texts.length) :
    ∃ r, s.sent.reader = some r ∧ s.store.toReadings = Readings.after config
      (((s.server.broadcast.drop r.start).filterMap decode).filter fun data ↦
        decide (data.deviceId = s.store.activeDeviceId)) :=
  (linked_run hrun).toReadings_eq_drop hhandles hphase hlagged harrived

/-! ## A concrete run -/

def plantDashboard : DashboardConfig ExactDouble where
  deviceId := "plc-01"
  registers := [⟨1028, "temperature", .finite 10⟩]
  alarms := []

/-- Two temperatures. -/
def decodeTemperature : String → Option (PlcData ExactDouble)
  | "first" => some ⟨"plc-01", 1028, .finite 250, "2026-01-01T00:00:00Z"⟩
  | "second" => some ⟨"plc-01", 1028, .finite 260, "2026-01-01T00:00:01Z"⟩
  | _ => none

theorem handles_decodeTemperature {text : String} {data : PlcData ExactDouble}
    (h : decodeTemperature text = some data) : plantDashboard.handles data := by
  unfold decodeTemperature at h
  split at h
  · obtain rfl := Option.some.inj h
    rfl
  · obtain rfl := Option.some.inj h
    rfl
  · cases h

/-- Both temperatures are sent and arrive. -/
def bothArrive : List Label :=
  StreamState.streamRun.map .server ++
    [.server (.publish "first"), .server (.publish "second"), .server (.takeReading 0),
      .server (.finishSend 0 true), .arrive 0, .server (.takeReading 0),
      .server (.finishSend 0 true), .arrive 0]

/-- What the client has been sent in the end. -/
def bothSent : StreamState.Delivery := ⟨some ⟨0, 2, [0, 1]⟩, ["first", "second"], false⟩

/-- Both have been sent and have arrived. -/
def caughtUp (s : LiveSystem AuthRuntime.firstJwt ExactDouble) : Bool :=
  s.server.phaseOf 0 == some (.streaming AuthRuntime.firstClaims s.server.broadcast.length) &&
    s.sent == bothSent && s.arrived == 2

theorem exists_run_bothArrive :
    ∃ s : LiveSystem AuthRuntime.firstJwt ExactDouble,
      Run (guarded (fun s label ↦ s.keeps 2048 label)
        (ofOption (step AuthRuntime.verifyHash decodeTemperature plantDashboard 0)))
        (init AuthRuntime.firstJwt plantDashboard 0 AuthRuntime.operatorTable .empty) bothArrive s ∧
      s.caughtUp :=
  @exists_run_guarded_of_any _ _
    (init AuthRuntime.firstJwt plantDashboard 0 AuthRuntime.operatorTable .empty)
    (step AuthRuntime.verifyHash decodeTemperature plantDashboard 0)
    (fun s label ↦ s.keeps 2048 label) _ caughtUp bothArrive (by decide)

theorem display_fresh_bothArrive :
    ∃ s : LiveSystem AuthRuntime.firstJwt ExactDouble, s.caughtUp ∧
      Fresh decodeTemperature s ⟨0, 2, [0, 1]⟩ := by
  obtain ⟨s, hrun, htest⟩ := exists_run_bothArrive
  obtain ⟨hsent, -⟩ := Bool.and_eq_true_iff.mp htest
  have hboth := beq_iff_eq.mp (Bool.and_eq_true_iff.mp hsent).2
  refine ⟨s, htest, display_fresh (by decide) hrun ?_ (by rw [hboth]; rfl)⟩
  exact fun text _ data hdecode ↦ handles_decodeTemperature hdecode

theorem display_complete_bothArrive :
    ∃ s : LiveSystem AuthRuntime.firstJwt ExactDouble, s.caughtUp ∧
      s.store.toReadings = Readings.after plantDashboard
        (((s.server.broadcast.drop 0).filterMap decodeTemperature).filter fun data ↦
          decide (data.deviceId = s.store.activeDeviceId)) := by
  obtain ⟨s, hrun, htest⟩ := exists_run_bothArrive
  obtain ⟨hsent, harrived⟩ := Bool.and_eq_true_iff.mp htest
  obtain ⟨hphase, hboth⟩ := Bool.and_eq_true_iff.mp hsent
  have hboth' := beq_iff_eq.mp hboth
  obtain ⟨r, hr, hdisplay⟩ := display_complete hrun
    (fun text _ data hdecode ↦ handles_decodeTemperature hdecode) (beq_iff_eq.mp hphase)
    (by rw [hboth']; rfl) (by rw [hboth']; exact beq_iff_eq.mp harrived)
  rw [hboth'] at hr
  obtain rfl := Option.some.inj hr
  exact ⟨s, htest, hdisplay⟩

end LiveSystem

end VyuhHmi.App
