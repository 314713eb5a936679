import VyuhHmi.Foundation.BroadcastReader
import VyuhHmi.Foundation.Observation
import VyuhHmi.Server.Stream

/-!
# Delivery of the readings

Every socket that streams is a reader of the broadcast channel.  A client is sent readings in the
order in which they were broadcast, none of them twice, from the moment its handler subscribed.  It
misses one only if the receiver lagged, that is, if at least as many readings followed as the
channel keeps.
-/

namespace VyuhHmi

namespace StreamState

open Transition BroadcastReader

variable {jwt : Jwt}

/-- The capacity with which the channel is made; it keeps at least as many readings. -/
def channelCapacity : ℕ := 2000

def phaseOf (s : StreamState jwt) (socket : ℕ) : Option SocketPhase :=
  s.sockets[socket]?.map Socket.phase

/-- The receiver is at this position of the broadcast. -/
def cursorIs (s : StreamState jwt) (socket : ℕ) (test : ℕ → Bool) : Bool :=
  (s.phaseOf socket).all fun
    | .streaming _ cursor => test cursor
    | _ => true

/-- The channel keeps this many readings.  A receiver takes its next reading if that is one of them,
and otherwise goes on at the oldest one. -/
def keeps (kept : ℕ) (s : StreamState jwt) : Label → Bool
  | .takeReading socket => s.cursorIs socket fun cursor ↦ s.broadcast.length ≤ cursor + kept
  | .lag _ oldest => oldest + kept == s.broadcast.length
  | _ => true

/-- What the client of a socket has been sent: the positions and the readings, and whether the
receiver has lagged. -/
structure Delivery where
  reader : Option Reader
  texts : List String
  lagged : Bool
deriving DecidableEq

def Delivery.none : Delivery := ⟨.none, [], false⟩

/-- A reading is sent when its send ends well; the subscription begins when the acknowledgement has
been sent. -/
def watchSocket (socket : ℕ) (seen : Delivery) (s : StreamState jwt) : Label → Delivery
  | .finishSend other delivered =>
      if other = socket then
        match s.phaseOf socket with
        | some (.acknowledging _) => { seen with reader := some (.subscribe s.broadcast.length) }
        | some (.sending _ _ reading) =>
            if delivered then
              { seen with reader := seen.reader.map Reader.take, texts := seen.texts ++ [reading] }
            else seen
        | _ => seen
      else seen
  | .lag other oldest =>
      if other = socket then
        { seen with reader := seen.reader.map (Reader.skip · oldest), lagged := true }
      else seen
  | _ => seen

def delivery (verifyPassword : String → String → Bool) (start : StreamState jwt)
    (labels : List Label) (socket : ℕ) : Delivery :=
  observe (step verifyPassword) (watchSocket socket) .none start labels

/-! ## The invariant -/

/-- The texts are what the reader has read, in a channel that keeps this many readings. -/
structure Delivery.Sound (kept : ℕ) (broadcast : List String) (seen : Delivery) (r : Reader) :
    Prop where
  reader : r.Sound kept broadcast.length
  texts : seen.texts.map some = r.entries broadcast
  gapped : seen.lagged → r.Gapped
  complete : seen.lagged = false → r.Complete

/-- A reader without gaps that has reached the end has read everything since its start. -/
theorem Delivery.Sound.texts_eq_drop {kept : ℕ} {broadcast : List String} {seen : Delivery}
    {r : Reader} (h : seen.Sound kept broadcast r) (hcomplete : r.Complete)
    (hcursor : r.cursor = broadcast.length) : seen.texts = broadcast.drop r.start := by
  have htexts := h.texts
  rw [hcomplete.entries_eq hcursor.le, hcursor, List.take_length] at htexts
  exact List.map_injective_iff.mpr (Option.some_injective _) htexts

/-- Where the reader is while the handler is in this phase. -/
def ReaderAt (broadcast : List String) (reader : Option Reader) : SocketPhase → Prop
  | .streaming _ cursor => ∃ r, reader = some r ∧ r.cursor = cursor
  | .sending _ cursor reading =>
      ∃ r, reader = some r ∧ r.cursor + 1 = cursor ∧ broadcast[r.cursor]? = some reading
  | .closed => True
  | _ => reader = none

/-- What the observer of a socket knows of the state. -/
structure Tracks (kept socket : ℕ) (seen : Delivery) (s : StreamState jwt) : Prop where
  fresh : seen.reader = none → seen = .none
  sound : ∀ r, seen.reader = some r → seen.Sound kept s.broadcast r
  phase : ∀ phase, s.phaseOf socket = some phase → ReaderAt s.broadcast seen.reader phase
  absent : s.phaseOf socket = none → seen.reader = none

variable {verifyPassword : String → String → Bool} {s t : StreamState jwt} {kept socket other : ℕ}
  {seen : Delivery} {r : Reader} {phase phase' : SocketPhase} {broadcast : List String}
  {label : Label}

theorem Delivery.Sound.grow (h : seen.Sound kept broadcast r) (reading : String) :
    seen.Sound kept (broadcast ++ [reading]) r where
  reader := h.reader.grow (by simp)
  texts := by rw [h.reader.entries_append, h.texts]
  gapped := h.gapped
  complete := h.complete

theorem ReaderAt.grow {reader : Option Reader} (h : ReaderAt broadcast reader phase)
    (reading : String) : ReaderAt (broadcast ++ [reading]) reader phase := by
  cases phase with
  | sending claims cursor last =>
      obtain ⟨r, hreader, hcursor, hlast⟩ := h
      have hlt := (List.getElem?_eq_some_iff.mp hlast).1
      exact ⟨r, hreader, hcursor, (List.getElem?_append_left hlt).trans hlast⟩
  | _ => exact h

/-- A reading is sent. -/
theorem Delivery.Sound.send {reading : String} (h : seen.Sound kept broadcast r)
    (hreading : broadcast[r.cursor]? = some reading) :
    { seen with reader := some r.take, texts := seen.texts ++ [reading] }.Sound kept broadcast
      r.take where
  reader := h.reader.take (List.getElem?_eq_some_iff.mp hreading).1
  texts := by
    rw [List.map_append, h.texts, Reader.entries_take, hreading, List.map_singleton]
  gapped := fun hlagged ↦ (h.gapped hlagged).take
  complete := fun hlagged ↦ (h.complete hlagged).take h.reader.start_le

/-- The receiver lags. -/
theorem Delivery.Sound.lag {oldest : ℕ} (h : seen.Sound kept broadcast r) (hlt : r.cursor < oldest)
    (holdest : oldest + kept ≤ broadcast.length) :
    { seen with reader := some (r.skip oldest), lagged := true }.Sound kept broadcast
      (r.skip oldest) where
  reader := h.reader.skip hlt holdest
  texts := h.texts
  gapped := by
    intro _
    refine Reader.gapped_skip ?_ h.reader.start_le hlt
    cases hlagged : seen.lagged with
    | false => exact .inl (h.complete hlagged)
    | true => exact .inr (h.gapped hlagged)
  complete := nofun

/-- What a handler's step does to the phases. -/
theorem phaseOf_onSocket {f : SocketPhase → Option SocketPhase} (h : s.onSocket other f = some t) :
    t.broadcast = s.broadcast ∧ ∃ phase phase', s.phaseOf other = some phase ∧
      f phase = some phase' ∧
      ∀ socket, t.phaseOf socket = if socket = other then some phase' else s.phaseOf socket := by
  obtain ⟨openedAt, phase, phase', hsocket, hphase, rfl⟩ := onSocket_eq_some_iff.mp h
  refine ⟨rfl, phase, phase', by rw [phaseOf, hsocket, Option.map_some], hphase, fun socket ↦ ?_⟩
  simp only [phaseOf, setPhase, ListUpdate.getElem?_modify_of_some hsocket]
  split
  case isTrue => rfl
  case isFalse => rfl

/-- A step of another socket's handler. -/
theorem Tracks.of_ne (h : Tracks kept socket seen s) {f : SocketPhase → Option SocketPhase}
    (hstep : s.onSocket other f = some t) (hne : other ≠ socket) : Tracks kept socket seen t := by
  obtain ⟨hbroadcast, _, _, _, _, hphases⟩ := phaseOf_onSocket hstep
  have hphase : t.phaseOf socket = s.phaseOf socket := by rw [hphases, if_neg hne.symm]
  refine ⟨h.fresh, ?_, ?_, ?_⟩
  · rw [hbroadcast]
    exact h.sound
  · rw [hbroadcast, hphase]
    exact h.phase
  · rw [hphase]
    exact h.absent

/-- A step of the socket's own handler, by the phases before and after it. -/
theorem Tracks.own (h : Tracks kept socket seen s) {f : SocketPhase → Option SocketPhase}
    {seen' : Delivery} (hstep : s.onSocket socket f = some t)
    (hfresh : seen'.reader = none → seen' = .none)
    (hown : ∀ phase phase', s.phaseOf socket = some phase → f phase = some phase' →
      ReaderAt s.broadcast seen.reader phase →
        (∀ r, seen'.reader = some r → seen'.Sound kept s.broadcast r) ∧
          ReaderAt s.broadcast seen'.reader phase') :
    Tracks kept socket seen' t := by
  obtain ⟨hbroadcast, phase, phase', hphase, hf, hphases⟩ := phaseOf_onSocket hstep
  have hafter : t.phaseOf socket = some phase' := by rw [hphases, if_pos rfl]
  obtain ⟨hsound, hat⟩ := hown phase phase' hphase hf (h.phase phase hphase)
  refine ⟨hfresh, ?_, ?_, ?_⟩
  · rw [hbroadcast]
    exact hsound
  · rw [hbroadcast, hafter]
    rintro phase'' ⟨⟩
    exact hat
  · rw [hafter]
    exact nofun

/-- A step that leaves the reader where it is. -/
theorem Tracks.keep (h : Tracks kept socket seen s) {f : SocketPhase → Option SocketPhase}
    (hstep : s.onSocket other f = some t)
    (hphase : ∀ phase phase' reader, f phase = some phase' → ReaderAt s.broadcast reader phase →
      ReaderAt s.broadcast reader phase') : Tracks kept socket seen t := by
  by_cases hother : other = socket
  · subst hother
    exact h.own hstep h.fresh fun phase phase' _ hf hat ↦ ⟨h.sound, hphase phase phase' _ hf hat⟩
  · exact h.of_ne hstep hother

theorem readerAt_presentToken {reader : Option Reader} (h : reader = none) (text : String) :
    ReaderAt broadcast reader (s.presentToken text) := by
  unfold presentToken
  split
  case h_1 =>
      split
      case h_1 => exact h
      case h_2 => exact h
  case h_2 => exact h

theorem readerAt_receive {received : Received} {reader : Option Reader}
    (hstep : s.receive received phase = some phase') (h : ReaderAt broadcast reader phase) :
    ReaderAt broadcast reader phase' := by
  cases phase with
  | waiting since =>
      cases hstep
      cases received with
      | text text => exact readerAt_presentToken h text
      | frame | error => exact h
      | close | ended => trivial
  | streaming claims cursor | sending claims cursor reading =>
      cases hstep
      cases received with
      | text | frame => exact h
      | close | error | ended => trivial
  | _ => cases hstep

theorem readerAt_timeOut {reader : Option Reader} (hstep : s.timeOut phase = some phase')
    (h : ReaderAt broadcast reader phase) : ReaderAt broadcast reader phase' := by
  cases phase with
  | waiting since =>
      simp only [timeOut] at hstep
      split at hstep
      · cases hstep
        exact h
      · cases hstep
  | _ => cases hstep

theorem readerAt_checkSession {reader : Option Reader} (hstep : s.checkSession phase = some phase')
    (h : ReaderAt broadcast reader phase) : ReaderAt broadcast reader phase' := by
  cases phase with
  | checking claims sessionId =>
      cases hstep
      split
      case isTrue => exact h
      case isFalse => exact h
  | _ => cases hstep

/-- The next reading is what the cursor points to. -/
theorem readerAt_takeReading {reader : Option Reader} (hstep : s.takeReading phase = some phase')
    (h : ReaderAt s.broadcast reader phase) : ReaderAt s.broadcast reader phase' := by
  cases phase with
  | streaming claims cursor =>
      obtain ⟨reading, hreading, rfl⟩ := Option.map_eq_some_iff.mp hstep
      obtain ⟨r, hreader, rfl⟩ := h
      exact ⟨r, hreader, rfl, hreading⟩
  | _ => cases hstep

/-- The end of a send: of the acknowledgement, of a reading, or of a refusal. -/
theorem Tracks.finishSend (h : Tracks kept socket seen s) {delivered : Bool}
    (hstep : s.onSocket socket (s.finishSend delivered) = some t) :
    Tracks kept socket (watchSocket socket seen s (.finishSend socket delivered)) t := by
  have hfresh : (watchSocket socket seen s (.finishSend socket delivered)).reader = none →
      watchSocket socket seen s (.finishSend socket delivered) = .none := by
    obtain ⟨-, phase, phase', hphase, hf, -⟩ := phaseOf_onSocket hstep
    have hat := h.phase phase hphase
    rw [watchSocket, if_pos rfl, hphase]
    cases phase with
    | acknowledging => exact nofun
    | sending claims cursor reading =>
        obtain ⟨r, hreader, -, -⟩ := hat
        cases delivered with
        | true =>
            intro hnone
            dsimp only at hnone
            rw [if_pos rfl, hreader] at hnone
            cases hnone
        | false => exact h.fresh
    | _ => exact h.fresh
  refine h.own hstep hfresh fun phase phase' hphase hf hat ↦ ?_
  rw [watchSocket, if_pos rfl, hphase]
  cases phase with
  | refusing =>
      cases hf
      exact ⟨h.sound, trivial⟩
  | acknowledging claims =>
      cases hf
      have hseen : seen = .none := h.fresh hat
      subst hseen
      refine ⟨fun r hr ↦ ?_, _, rfl, rfl⟩
      obtain rfl := Option.some.inj hr
      exact ⟨.subscribe kept _, rfl, nofun, fun _ ↦ Reader.complete_subscribe _⟩
  | sending claims cursor reading =>
      obtain ⟨r, hreader, rfl, hreading⟩ := hat
      cases hf
      cases delivered with
      | true =>
          dsimp only
          rw [if_pos rfl, hreader, Option.map_some]
          refine ⟨fun r' hr' ↦ ?_, _, rfl, rfl⟩
          obtain rfl := Option.some.inj hr'
          exact (h.sound r hreader).send hreading
      | false => exact ⟨h.sound, trivial⟩
  | _ => cases hf

theorem Tracks.lag (h : Tracks kept socket seen s) {oldest : ℕ}
    (hkeeps : oldest + kept = s.broadcast.length)
    (hstep : s.onSocket socket (s.lag oldest) = some t) :
    Tracks kept socket (watchSocket socket seen s (.lag socket oldest)) t := by
  have hwatch : watchSocket socket seen s (.lag socket oldest) =
      { seen with reader := seen.reader.map (Reader.skip · oldest), lagged := true } := if_pos rfl
  have hstreaming (phase phase' : SocketPhase) (hf : s.lag oldest phase = some phase') :
      ∃ claims cursor, phase = .streaming claims cursor ∧ cursor < oldest ∧
        phase' = .streaming claims oldest := by
    cases phase with
    | streaming claims cursor =>
        simp only [StreamState.lag] at hf
        split at hf
        case isTrue hbounds =>
            cases hf
            exact ⟨claims, cursor, rfl, hbounds.1, rfl⟩
        case isFalse => cases hf
    | _ => cases hf
  rw [hwatch]
  refine h.own hstep ?_ fun phase phase' _ hf hat ↦ ?_
  · obtain ⟨-, phase, phase', hphase, hf, -⟩ := phaseOf_onSocket hstep
    obtain ⟨claims, cursor, rfl, -, -⟩ := hstreaming phase phase' hf
    obtain ⟨r, hreader, -⟩ := h.phase _ hphase
    rw [hreader]
    intro hnone
    cases hnone
  · obtain ⟨claims, cursor, rfl, hlt, rfl⟩ := hstreaming phase phase' hf
    obtain ⟨r, hreader, rfl⟩ := hat
    rw [hreader, Option.map_some]
    refine ⟨fun r' hr' ↦ ?_, _, rfl, rfl⟩
    obtain rfl := Option.some.inj hr'
    exact (h.sound r hreader).lag hlt hkeeps.le

/-- **One step.** -/
theorem Tracks.step (h : Tracks kept socket seen s) (hkeeps : s.keeps kept label)
    (hstep : s.step verifyPassword label = some t) :
    Tracks kept socket (watchSocket socket seen s label) t := by
  cases label with
  | auth label =>
      obtain ⟨auth, -, rfl⟩ := Option.map_eq_some_iff.mp hstep
      exact ⟨h.fresh, h.sound, h.phase, h.absent⟩
  | publish reading =>
      cases hstep
      exact ⟨h.fresh, fun r hr ↦ (h.sound r hr).grow reading,
        fun phase hphase ↦ (h.phase phase hphase).grow reading, h.absent⟩
  | upgrade =>
      cases hstep
      refine ⟨h.fresh, h.sound, fun phase hphase ↦ ?_, fun hphase ↦ h.absent ?_⟩
      · simp only [phaseOf, ListUpdate.getElem?_append_singleton] at hphase
        split at hphase
        case isTrue hlast =>
            cases hphase
            exact h.absent (by simp [phaseOf, hlast])
        case isFalse => exact h.phase phase hphase
      · simp only [phaseOf, ListUpdate.getElem?_append_singleton] at hphase
        split at hphase
        case isTrue => cases hphase
        case isFalse => exact hphase
  | receive other received => exact h.keep hstep fun _ _ _ hf hat ↦ readerAt_receive hf hat
  | timeOut other => exact h.keep hstep fun _ _ _ hf hat ↦ readerAt_timeOut hf hat
  | checkSession other => exact h.keep hstep fun _ _ _ hf hat ↦ readerAt_checkSession hf hat
  | takeReading other => exact h.keep hstep fun _ _ _ hf hat ↦ readerAt_takeReading hf hat
  | finishSend other delivered =>
      by_cases hother : other = socket
      · subst hother
        exact h.finishSend hstep
      · rw [watchSocket, if_neg hother]
        exact h.of_ne hstep hother
  | lag other oldest =>
      by_cases hother : other = socket
      · subst hother
        exact h.lag (beq_iff_eq.mp hkeeps) hstep
      · rw [watchSocket, if_neg hother]
        exact h.of_ne hstep hother

/-! ## Runs -/

variable {start : StreamState jwt} {labels : List Label}

theorem tracks_delivery (hstart : start.sockets = [])
    (hrun : Run (guarded (fun s label ↦ s.keeps kept label) (ofOption (step verifyPassword))) start
      labels s) (socket : ℕ) :
    Tracks kept socket (delivery verifyPassword start labels socket) s := by
  have hfresh : Tracks kept socket .none start := by
    refine ⟨fun _ ↦ rfl, nofun, fun phase hphase ↦ ?_, fun _ ↦ rfl⟩
    rw [phaseOf, hstart] at hphase
    cases hphase
  exact @Run.observe_invariant _ _ _ _ _ _ _ _ _ _ (Tracks kept socket) hfresh
    (fun seen s label t h hkeeps hstep ↦ h.step hkeeps hstep) hrun

/-- The record says whether the receiver has lagged. -/
theorem delivery_lagged_iff (hexec : exec (step verifyPassword) start labels = some s)
    (socket : ℕ) :
    (delivery verifyPassword start labels socket).lagged ↔ ∃ oldest, .lag socket oldest ∈ labels := by
  induction labels using List.reverseRecOn generalizing s with
  | nil => simp [delivery, Delivery.none]
  | append_singleton labels label ih =>
      rw [exec_append_singleton, Option.bind_eq_some_iff] at hexec
      obtain ⟨before, hbefore, hlast⟩ := hexec
      have hsnoc : delivery verifyPassword start (labels ++ [label]) socket =
          watchSocket socket (delivery verifyPassword start labels socket) before label :=
        observe_append_singleton hbefore hlast
      simp only [hsnoc, List.mem_append, List.mem_singleton, exists_or, ← ih hbefore]
      cases label with
      | lag other oldest =>
          by_cases hother : other = socket
          · simp [watchSocket, hother]
          · simp [watchSocket, hother, Ne.symm hother]
      | finishSend other delivered =>
          simp only [watchSocket, reduceCtorEq, exists_false, or_false]
          repeat' split
          all_goals rfl
      | _ => simp [watchSocket]

/-- What a client has been sent, by the reader of its subscription: readings of the broadcast from
the subscription on, in their order and none twice.  A reading that was passed over has been followed
by at least as many readings as the channel holds. -/
structure Delivery.InOrder (broadcast : List String) (seen : Delivery) (r : Reader) : Prop where
  increasing : r.taken.Pairwise (· < ·)
  since : ∀ position ∈ r.taken, r.start ≤ position
  texts : seen.texts.map some = r.taken.map fun position ↦ broadcast[position]?
  passed : ∀ position, r.start ≤ position → position < r.cursor → position ∉ r.taken →
    position + channelCapacity < broadcast.length

/-- **Order.** -/
theorem delivered_in_order (hkept : channelCapacity ≤ kept) (now : Instant) (users : UserTable)
    (auditTrail : AuditTable)
    (hrun : Run (guarded (fun s label ↦ s.keeps kept label) (ofOption (step verifyPassword)))
      (init jwt now users auditTrail) labels s) (socket : ℕ) {seen : Delivery}
    (hseen : delivery verifyPassword (init jwt now users auditTrail) labels socket = seen) :
    (seen.reader = none → seen.texts = []) ∧
      ∀ r, seen.reader = some r → seen.InOrder s.broadcast r := by
  subst hseen
  have htracks := tracks_delivery rfl hrun socket
  refine ⟨fun hfresh ↦ by rw [htracks.fresh hfresh]; rfl, fun r hr ↦ ?_⟩
  have hsound := htracks.sound r hr
  refine ⟨hsound.reader.increasing, hsound.reader.taken_ge, hsound.texts, ?_⟩
  intro position hge hlt hnot
  have hpassed := hsound.reader.passed position hge hlt hnot
  omega

/-- **Completeness.** A client whose handler has nothing left to take has been sent every reading
since its subscription exactly if the receiver never lagged, which it cannot have done while no
more readings have come since than the capacity of the channel. -/
theorem delivered_all_iff (hkept : channelCapacity ≤ kept) (now : Instant) (users : UserTable)
    (auditTrail : AuditTable)
    (hrun : Run (guarded (fun s label ↦ s.keeps kept label) (ofOption (step verifyPassword)))
      (init jwt now users auditTrail) labels s) {claims : Claims}
    (hphase : s.phaseOf socket = some (.streaming claims s.broadcast.length)) {seen : Delivery}
    (hseen : delivery verifyPassword (init jwt now users auditTrail) labels socket = seen) :
    ∃ r, seen.reader = some r ∧
      (seen.texts = s.broadcast.drop r.start ↔ ∀ oldest, .lag socket oldest ∉ labels) ∧
      (s.broadcast.length ≤ r.start + channelCapacity → seen.texts = s.broadcast.drop r.start) := by
  subst hseen
  have htracks := tracks_delivery rfl hrun socket
  obtain ⟨r, hr, hcursor⟩ := htracks.phase _ hphase
  have hsound := htracks.sound r hr
  have hlagged := delivery_lagged_iff (run_ofOption_iff.mp hrun.of_guarded) socket
  refine ⟨r, hr, ⟨fun htexts oldest hmem ↦ ?_, fun hnever ↦ ?_⟩, fun hfew ↦ ?_⟩
  · have hgap := hsound.gapped (hlagged.mpr ⟨oldest, hmem⟩)
    have hlength := congrArg List.length hsound.texts
    rw [htexts, List.length_map, Reader.entries, List.length_map, List.length_drop] at hlength
    unfold Reader.Gapped at hgap
    omega
  · refine hsound.texts_eq_drop (hsound.complete ?_) hcursor
    rw [Bool.eq_false_iff]
    intro hlag
    obtain ⟨oldest, hmem⟩ := hlagged.mp hlag
    exact hnever oldest hmem
  · exact hsound.texts_eq_drop (hsound.reader.complete (by omega)) hcursor

/-! ## A concrete delivery -/

/-- Two readings reach the client. -/
def twoReadings : List Label :=
  streamRun ++ [.publish "first", .publish "second", .takeReading 0, .finishSend 0 true,
    .takeReading 0, .finishSend 0 true]

theorem exists_run_twoReadings :
    ∃ s : StreamState AuthRuntime.firstJwt,
      Run (guarded (fun s label ↦ s.keeps 2048 label) (ofOption (step AuthRuntime.verifyHash)))
        (init AuthRuntime.firstJwt 0 AuthRuntime.operatorTable .empty) twoReadings s ∧
      s.phaseOf 0 == some (.streaming AuthRuntime.firstClaims s.broadcast.length) :=
  @exists_run_guarded_of_any _ _ (init AuthRuntime.firstJwt 0 AuthRuntime.operatorTable .empty)
    (step AuthRuntime.verifyHash) (fun s label ↦ s.keeps 2048 label) _
    (fun s ↦ s.phaseOf 0 == some (.streaming AuthRuntime.firstClaims s.broadcast.length))
    twoReadings (by decide)

theorem delivery_twoReadings :
    delivery AuthRuntime.verifyHash (init AuthRuntime.firstJwt 0 AuthRuntime.operatorTable .empty)
      twoReadings 0 = ⟨some ⟨0, 2, [0, 1]⟩, ["first", "second"], false⟩ := by
  decide

theorem delivered_in_order_twoReadings :
    ∃ s : StreamState AuthRuntime.firstJwt,
      exec (step AuthRuntime.verifyHash)
        (init AuthRuntime.firstJwt 0 AuthRuntime.operatorTable .empty) twoReadings = some s ∧
      (⟨some ⟨0, 2, [0, 1]⟩, ["first", "second"], false⟩ : Delivery).InOrder s.broadcast
        ⟨0, 2, [0, 1]⟩ := by
  obtain ⟨s, hrun, -⟩ := exists_run_twoReadings
  exact ⟨s, run_ofOption_iff.mp hrun.of_guarded,
    (delivered_in_order (by decide) 0 _ _ hrun 0 delivery_twoReadings).2 _ rfl⟩

theorem delivered_all_iff_twoReadings :
    ∃ s : StreamState AuthRuntime.firstJwt,
      exec (step AuthRuntime.verifyHash)
        (init AuthRuntime.firstJwt 0 AuthRuntime.operatorTable .empty) twoReadings = some s ∧
      ["first", "second"] = s.broadcast.drop 0 := by
  obtain ⟨s, hrun, htest⟩ := exists_run_twoReadings
  obtain ⟨r, hr, hiff, -⟩ :=
    delivered_all_iff (by decide) 0 _ _ hrun (beq_iff_eq.mp htest) delivery_twoReadings
  obtain rfl := Option.some.inj hr
  refine ⟨s, run_ofOption_iff.mp hrun.of_guarded, hiff.mpr fun oldest hmem ↦ ?_⟩
  simp [twoReadings, streamRun] at hmem

end StreamState

end VyuhHmi
