import VyuhHmi.App.LiveDisplay
import VyuhHmi.Server.Recording

/-!
# The display and the history

What a polling task broadcasts is the text of the reading that it has just saved.  Put together, the
polling tasks with their table and the server with a client are one system, in which a reading goes
to the history on one way and to the display on another.  When everything has come through, the
display is what the newest rows of the history make of an empty one.
-/

namespace VyuhHmi

open CommonOrder Transition

/-! ## What a step broadcasts -/

namespace Recorder

variable {overflowChecks : Bool} {s s' : Recorder} {label : Label}

/-- The reading that the step broadcasts. -/
def sends (s : Recorder) : Label → Option PlcData
  | .task task (.send _) => s.tasks[task]?.bind fun t ↦ t.phase.data?
  | _ => none

theorem broadcast_step (hstep : s.step overflowChecks label = some s') :
    s'.broadcast = s.broadcast ++ (s.sends label).toList := by
  cases label with
  | start config =>
      obtain rfl := Option.some.inj hstep
      exact (List.append_nil _).symm
  | task task event =>
      obtain ⟨t, ht, htask⟩ := Option.bind_eq_some_iff.mp hstep
      obtain ⟨values, now, rfl, hphase, rfl⟩ | ⟨inserted, data, rest, rfl, hphase, rfl⟩ |
        ⟨now, data, inserted, rest, rfl, hphase, rfl⟩ | ⟨rfl, hlive, rfl⟩ := stepTask_cases htask
      · exact (List.append_nil _).symm
      · exact (List.append_nil _).symm
      · have hsends : s.sends (.task task (.send now)) = some data := by
          rw [sends, ht, Option.bind_some, hphase]
          rfl
        rw [hsends]
        rfl
      · exact (List.append_nil _).symm

end Recorder

namespace StreamState

variable {jwt : Jwt} {verifyPassword : String → String → Bool} {s t : StreamState jwt}
  {label : Label}

def Label.publishes : Label → Bool
  | .publish _ => true
  | _ => false

/-- Only the polling tasks broadcast. -/
theorem broadcast_step (hstep : s.step verifyPassword label = some t)
    (hlabel : label.publishes = false) : t.broadcast = s.broadcast := by
  cases label with
  | auth label =>
      obtain ⟨auth, -, rfl⟩ := Option.map_eq_some_iff.mp hstep
      rfl
  | publish reading => cases hlabel
  | upgrade =>
      obtain rfl := Option.some.inj hstep
      rfl
  | receive | timeOut | checkSession | finishSend | takeReading | lag =>
      exact (phaseOf_onSocket hstep).1

end StreamState

namespace App

def LiveSystem.Label.publishes : LiveSystem.Label → Bool
  | .server label => label.publishes
  | _ => false

/-- The polling tasks with their table, and the server with a client of it. -/
structure MonitoredPlant (jwt : Jwt) (D : Type) where
  recorder : Recorder
  live : LiveSystem jwt D

namespace MonitoredPlant

variable {jwt : Jwt} {D : Type} [DartDouble D]

inductive Label
  | record (label : Recorder.Label)
  | live (label : LiveSystem.Label)

def init (jwt : Jwt) (config : DashboardConfig D) (now : Instant) (users : UserTable)
    (auditTrail : AuditTable) : MonitoredPlant jwt D where
  recorder := .init
  live := .init jwt config now users auditTrail

/-- A reading is broadcast as its JSON text in the step that the polling task takes; the server's
other parts broadcast nothing. -/
def step (verifyPassword : String → String → Bool) (encode : VyuhHmi.PlcData → String)
    (decode : String → Option (PlcData D)) (config : DashboardConfig D) (overflowChecks : Bool)
    (socket : ℕ) (s : MonitoredPlant jwt D) : Label → Option (MonitoredPlant jwt D)
  | .record label =>
      (s.recorder.step overflowChecks label).bind fun recorder ↦
        match s.recorder.sends label with
        | some data =>
            (s.live.step verifyPassword decode config socket
              (.server (.publish (encode data)))).map fun live ↦ ⟨recorder, live⟩
        | none => some { s with recorder := recorder }
  | .live label =>
      if label.publishes then none
      else (s.live.step verifyPassword decode config socket label).map fun live ↦
        { s with live := live }

/-- The channel keeps this many readings, and the tasks of the device poll one after the other. -/
def Orderly (parse : String → Option Rfc3339.Instant) (deviceId : String) (kept : ℕ)
    (s : MonitoredPlant jwt D) : Label → Prop
  | .record label => Recorder.Orderly parse deviceId s.recorder label
  | .live label => s.live.keeps kept label

/-- Note what the history or the broadcast of the device misses. -/
def watch (deviceId : String) (log : RecordLog) (s : MonitoredPlant jwt D) : Label → RecordLog
  | .record label => Recorder.watch deviceId log s.recorder label
  | .live _ => log

/-! ## The invariant -/

variable {verifyPassword : String → String → Bool} {encode : VyuhHmi.PlcData → String}
  {decode : String → Option (PlcData D)} {config : DashboardConfig D} {overflowChecks : Bool}
  {parse : String → Option Rfc3339.Instant} {deviceId : String} {kept socket : ℕ}
  {s s' : MonitoredPlant jwt D} {log : RecordLog} {label : Label}

structure Sound (parse : String → Option Rfc3339.Instant) (encode : VyuhHmi.PlcData → String)
    (decode : String → Option (PlcData D)) (config : DashboardConfig D) (deviceId : String)
    (kept socket : ℕ) (log : RecordLog) (s : MonitoredPlant jwt D) : Prop where
  recorder : Recorder.Sound parse deviceId log s.recorder
  linked : LiveSystem.Linked decode config kept socket s.live
  texts : s.live.server.broadcast = s.recorder.broadcast.map encode

/-- A step of the polling tasks. -/
theorem Sound.record (h : Sound parse encode decode config deviceId kept socket log s)
    {label : Recorder.Label} (hguard : Recorder.Orderly parse deviceId s.recorder label)
    (hstep : s.step verifyPassword encode decode config overflowChecks socket (.record label) =
      some s') :
    Sound parse encode decode config deviceId kept socket
      (Recorder.watch deviceId log s.recorder label) s' := by
  obtain ⟨recorder, hrecorder, hsends⟩ := Option.bind_eq_some_iff.mp hstep
  have hsound := h.recorder.step hguard.1 hguard.2 hrecorder
  have hbroadcast := Recorder.broadcast_step hrecorder
  cases hdata : s.recorder.sends label with
  | none =>
      rw [hdata] at hsends hbroadcast
      obtain rfl := Option.some.inj hsends
      refine ⟨hsound, h.linked, ?_⟩
      rw [hbroadcast, Option.toList_none, List.append_nil]
      exact h.texts
  | some data =>
      rw [hdata] at hsends hbroadcast
      obtain ⟨live, hlive, rfl⟩ := Option.map_eq_some_iff.mp hsends
      refine ⟨hsound, h.linked.step rfl hlive, ?_⟩
      obtain rfl := Option.some.inj hlive
      rw [hbroadcast, Option.toList_some, List.map_append, ← h.texts]
      rfl

/-- A step of the server's other parts, or of the app. -/
theorem Sound.live (h : Sound parse encode decode config deviceId kept socket log s)
    {label : LiveSystem.Label} (hkeeps : s.live.keeps kept label)
    (hstep : s.step verifyPassword encode decode config overflowChecks socket (.live label) =
      some s') :
    Sound parse encode decode config deviceId kept socket log s' := by
  simp only [step] at hstep
  split at hstep
  case isTrue => cases hstep
  case isFalse hlabel =>
      obtain ⟨live, hlive, rfl⟩ := Option.map_eq_some_iff.mp hstep
      refine ⟨h.recorder, h.linked.step hkeeps hlive, ?_⟩
      rw [← h.texts]
      cases label with
      | server label =>
          obtain ⟨server, hserver, rfl⟩ := Option.map_eq_some_iff.mp hlive
          exact StreamState.broadcast_step hserver (Bool.eq_false_of_not_eq_true hlabel)
      | arrive now =>
          obtain ⟨text, -, rfl⟩ := Option.map_eq_some_iff.mp hlive
          rfl
      | switchDevice other =>
          obtain rfl := Option.some.inj hlive
          rfl

/-- **One step.** -/
theorem Sound.step (h : Sound parse encode decode config deviceId kept socket log s)
    (hguard : Orderly parse deviceId kept s label)
    (hstep : s.step verifyPassword encode decode config overflowChecks socket label = some s') :
    Sound parse encode decode config deviceId kept socket (watch deviceId log s label) s' := by
  cases label with
  | record label => exact h.record hguard hstep
  | live label => exact h.live hguard hstep

theorem sound_init (now : Instant) (users : UserTable) (auditTrail : AuditTable) :
    Sound parse encode decode config deviceId kept socket ⟨[], []⟩
      (init jwt config now users auditTrail) where
  recorder := Recorder.sound_init parse deviceId
  linked := LiveSystem.linked_init now users auditTrail
  texts := rfl

/-! ## The display as a history -/

/-- The readings of the device from a position of the broadcast on. -/
def since (s : MonitoredPlant jwt D) (deviceId : String) (start : ℕ) : List VyuhHmi.PlcData :=
  (s.recorder.broadcast.drop start).filter fun data ↦ decide (data.deviceId = deviceId)

omit [DartDouble D] in
/-- Without a gap the newest rows of the history are the readings of the broadcast. -/
theorem getHistory_since (h : Recorder.Sound parse deviceId ⟨[], []⟩ s.recorder)
    (hunsent : s.recorder.unsent deviceId = []) (start : ℕ) :
    getHistory parse s.recorder.readings deviceId (s.since deviceId start).length =
      (s.since deviceId start).reverse := by
  obtain ⟨rows, before, hrows, hrowsOf, hstep⟩ := h.records
  have hsplit : s.recorder.broadcastOf deviceId =
      ((s.recorder.broadcast.take start).filter fun data ↦ decide (data.deviceId = deviceId)) ++
        s.since deviceId start := by
    rw [since, ← List.filter_append, List.take_append_drop]
    rfl
  rw [hunsent, List.append_nil, hstep.eq, hsplit] at hrowsOf
  rw [getHistory_eq hrows, lastOf, List.filter_reverse, hrowsOf, RowTable.limited,
    if_neg (Int.natCast_nonneg _).not_gt, Int.toNat_natCast, List.reverse_append,
    List.take_left' (List.length_reverse)]

/-- Everything has come through for the device on display: its task is not about to broadcast, its
history and its broadcast have no gap, the receiver has never lagged and has nothing left to take,
and all that was sent has arrived. -/
structure Settled (socket : ℕ) (deviceId : String) (log : RecordLog) (s : MonitoredPlant jwt D) :
    Prop where
  active : s.live.store.activeDeviceId = deviceId
  sent : s.recorder.unsent deviceId = []
  complete : log = ⟨[], []⟩
  lagged : s.live.sent.lagged = false
  taken : ∃ claims, s.live.server.phaseOf socket =
    some (.streaming claims s.live.server.broadcast.length)
  arrived : s.live.arrived = s.live.sent.texts.length

/-- **Display and history.** Once everything has come through for the device on display, the display
is what its newest rows in the history make of an empty one, as many of them as there have been
readings of it since the subscription. -/
theorem display_is_history {now : Instant} {users : UserTable} {auditTrail : AuditTable}
    {labels : List Label}
    (hrun : Run (guarded (Orderly parse deviceId kept)
      (ofOption (step verifyPassword encode decode config overflowChecks socket)))
      (init jwt config now users auditTrail) labels s)
    (hsettled : s.Settled socket deviceId
      (observe (step verifyPassword encode decode config overflowChecks socket) (watch deviceId)
        ⟨[], []⟩ (init jwt config now users auditTrail) labels))
    {shown : VyuhHmi.PlcData → PlcData D}
    (hshown : ∀ data ∈ s.recorder.broadcast, decode (encode data) = some (shown data) ∧
      (shown data).deviceId = data.deviceId ∧ config.handles (shown data)) :
    ∃ r, s.live.sent.reader = some r ∧ s.live.store.toReadings = Readings.after config
      ((getHistory parse s.recorder.readings deviceId
        (s.since deviceId r.start).length).reverse.map shown) := by
  have h : Sound parse encode decode config deviceId kept socket
      (observe (step verifyPassword encode decode config overflowChecks socket) (watch deviceId)
        ⟨[], []⟩ (init jwt config now users auditTrail) labels) s :=
    hrun.observe_invariant (sound_init now users auditTrail) fun _ _ _ _ h hguard hstep ↦
      h.step hguard hstep
  rw [hsettled.complete] at h
  obtain ⟨claims, hphase⟩ := hsettled.taken
  have hhandles : ∀ text ∈ s.live.server.broadcast, ∀ data, decode text = some data →
      config.handles data := by
    intro text htext data hdecode
    rw [h.texts] at htext
    obtain ⟨reading, hreading, rfl⟩ := List.mem_map.mp htext
    obtain ⟨hdecoded, -, hhandled⟩ := hshown reading hreading
    rw [hdecoded] at hdecode
    exact Option.some.inj hdecode ▸ hhandled
  obtain ⟨r, hr, hdisplay⟩ :=
    h.linked.toReadings_eq_drop hhandles hphase hsettled.lagged hsettled.arrived
  refine ⟨r, hr, ?_⟩
  rw [hdisplay, hsettled.active, getHistory_since h.recorder hsettled.sent, List.reverse_reverse]
  congr 1
  have hdecoded : ((s.live.server.broadcast.drop r.start).filterMap decode) =
      (s.recorder.broadcast.drop r.start).map shown := by
    rw [h.texts, ← List.map_drop, List.filterMap_map, ← List.filterMap_eq_map]
    refine List.filterMap_congr fun data hdata ↦ ?_
    exact (hshown data (List.mem_of_mem_drop hdata)).1
  rw [hdecoded, since, List.filter_map]
  congr 1
  refine List.filter_congr fun data hdata ↦ ?_
  rw [Function.comp_apply, (hshown data (List.mem_of_mem_drop hdata)).2.1]

/-! ## A concrete run -/

instance (parse : String → Option Rfc3339.Instant) (deviceId : String) (kept : ℕ)
    (s : MonitoredPlant jwt D) (label : Label) : Decidable (Orderly parse deviceId kept s label) :=
  match label with
  | .record label => inferInstanceAs (Decidable (Recorder.Orderly parse deviceId s.recorder label))
  | .live label => inferInstanceAs (Decidable (s.live.keeps kept label))

def warm : VyuhHmi.PlcData := ⟨"plc-01", 1028, 250, 1705314600000000000⟩

def pressed : VyuhHmi.PlcData := ⟨"plc-01", 1029, 3, 1705314601000000000⟩

def warmText : String :=
  "\x7b\"device_id\":\"plc-01\",\"register\":1028,\"value\":250.0," ++
    "\"timestamp\":\"2024-01-15T10:30:00Z\"\x7d"

def pressedText : String :=
  "\x7b\"device_id\":\"plc-01\",\"register\":1029,\"value\":3.0," ++
    "\"timestamp\":\"2024-01-15T10:30:01Z\"\x7d"

/-- The texts of the two readings. -/
def morningText (data : VyuhHmi.PlcData) : String :=
  if data = warm then warmText else if data = pressed then pressedText else ""

def shownMorning (data : VyuhHmi.PlcData) : PlcData ExactDouble :=
  ⟨data.deviceId, data.register.toNat, .finite data.value,
    if data = warm then "2024-01-15T10:30:00Z" else "2024-01-15T10:30:01Z"⟩

def decodeMorning (text : String) : Option (PlcData ExactDouble) :=
  if text = warmText then some (shownMorning warm)
  else if text = pressedText then some (shownMorning pressed)
  else none

/-- Both readings of a poll are saved, broadcast, sent and received. -/
def firstPoll : List Label :=
  StreamState.streamRun.map (fun label ↦ .live (.server label)) ++
    [.record (.start (Recorder.reactorAt "plc-01")),
      .record (.task 0 (.poll [250, 3] 1705314600000000000)), .record (.task 0 (.insert true)),
      .record (.task 0 (.send 1705314601000000000)), .live (.server (.takeReading 0)),
      .record (.task 0 (.insert true)), .live (.server (.finishSend 0 true)), .live (.arrive 0),
      .record (.task 0 (.send 1705314601000000000)), .live (.server (.takeReading 0)),
      .live (.server (.finishSend 0 true)), .live (.arrive 0)]

/-- Both have come through. -/
def cameThrough (s : MonitoredPlant AuthRuntime.firstJwt ExactDouble) : Bool :=
  s.recorder.broadcast == [warm, pressed] && s.recorder.unsent "plc-01" == [] &&
    s.live.store.activeDeviceId == "plc-01" && s.live.arrived == 2 &&
    s.live.sent == ⟨some ⟨0, 2, [0, 1]⟩, [warmText, pressedText], false⟩ &&
    s.live.server.phaseOf 0 ==
      some (.streaming AuthRuntime.firstClaims s.live.server.broadcast.length)

theorem exists_run_firstPoll :
    ∃ s : MonitoredPlant AuthRuntime.firstJwt ExactDouble,
      Run (guarded (Orderly parseMorning "plc-01" 2048)
        (ofOption (step AuthRuntime.verifyHash morningText decodeMorning LiveSystem.plantDashboard
          true 0)))
        (init AuthRuntime.firstJwt LiveSystem.plantDashboard 0 AuthRuntime.operatorTable .empty)
        firstPoll s ∧ s.cameThrough :=
  exists_run_guarded_of_any (by decide)

theorem display_is_history_firstPoll :
    ∃ s : MonitoredPlant AuthRuntime.firstJwt ExactDouble, s.cameThrough ∧
      ∃ r, s.live.sent.reader = some r ∧
        s.live.store.toReadings = Readings.after LiveSystem.plantDashboard
          ((getHistory parseMorning s.recorder.readings "plc-01"
            (s.since "plc-01" r.start).length).reverse.map shownMorning) := by
  obtain ⟨s, hrun, htest⟩ := exists_run_firstPoll
  refine ⟨s, htest, ?_⟩
  simp only [cameThrough, Bool.and_eq_true, beq_iff_eq] at htest
  obtain ⟨⟨⟨⟨⟨hbroadcast, hunsent⟩, hactive⟩, harrived⟩, hsent⟩, hphase⟩ := htest
  have hlog : observe (step AuthRuntime.verifyHash morningText decodeMorning
      LiveSystem.plantDashboard true 0) (watch "plc-01") ⟨[], []⟩
      (init AuthRuntime.firstJwt LiveSystem.plantDashboard 0 AuthRuntime.operatorTable .empty)
      firstPoll = ⟨[], []⟩ := by
    decide
  refine display_is_history hrun
    ⟨hactive, hunsent, hlog, by rw [hsent], ⟨_, hphase⟩, by rw [harrived, hsent]; rfl⟩ ?_
  rw [hbroadcast]
  decide

end MonitoredPlant

end App

end VyuhHmi
