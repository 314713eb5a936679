import VyuhHmi.Auth.Access

/-!
# The reading stream

A client of `/ws` has to send a token as its first text message.  The handler validates the token,
looks its session up, subscribes to the broadcast channel, and from then on forwards every PLC
reading until the connection ends.  The session is looked up once, before the subscription; what
happens to it later does not reach the stream.
-/

namespace VyuhHmi

/-- What the receiving half of a socket yields; a frame is a ping, a pong or binary. -/
inductive Received
  | text (text : String)
  | frame
  | close
  | error
  | ended
deriving DecidableEq

/-- Where `handle_socket` is, with the variables it keeps. -/
inductive SocketPhase
  | waiting (since : Instant)
  | checking (claims : Claims) (sessionId : String)
  | refusing (error : String)
  | acknowledging (claims : Claims)
  | streaming (claims : Claims) (cursor : ℕ)
  | sending (claims : Claims) (cursor : ℕ) (reading : String)
  | closed
deriving DecidableEq

/-- The claims that the handler has validated. -/
def SocketPhase.claims : SocketPhase → Option Claims
  | .checking claims _ => some claims
  | .acknowledging claims => some claims
  | .streaming claims _ => some claims
  | .sending claims _ _ => some claims
  | _ => none

/-- The claims with which a handler that has subscribed to the readings runs. -/
def SocketPhase.subscriber : SocketPhase → Option Claims
  | .streaming claims _ => some claims
  | .sending claims _ _ => some claims
  | _ => none

/-- The handler has subscribed, or it has returned. -/
def SocketPhase.Past (phase : SocketPhase) : Prop :=
  phase.subscriber.isSome ∨ phase = .closed

/-- A `/ws` connection. -/
structure Socket where
  openedAt : Instant
  phase : SocketPhase
deriving DecidableEq

/-- The server, the readings that have been broadcast and the sockets. -/
structure StreamState (jwt : Jwt) where
  auth : AuthRuntime jwt
  broadcast : List String
  sockets : List Socket

namespace StreamState

variable {jwt : Jwt}

def init (jwt : Jwt) (now : Instant) (users : UserTable) (auditTrail : AuditTable) :
    StreamState jwt where
  auth := .init jwt now users auditTrail
  broadcast := []
  sockets := []

section Handlers

variable (s : StreamState jwt) (socket : ℕ)

def setPhase (phase : SocketPhase) : StreamState jwt :=
  { s with sockets := s.sockets.modify socket fun entry ↦ { entry with phase := phase } }

/-- The first text message: it must be a token. -/
def presentToken (text : String) : SocketPhase :=
  match validateToken jwt s.auth.now (trim text) with
  | .ok claims =>
      match claims.sessionId with
      | some sessionId => .checking claims sessionId
      | none => .acknowledging claims
  | .error e => .refusing ("\x7b\"error\":\"auth_failed\",\"detail\":\"" ++ e ++ "\"\x7d")

/-- The receiver yields something.  Before authentication a frame that is no text restarts the
timeout, afterwards only the end of the stream matters. -/
def receive (received : Received) : SocketPhase → Option SocketPhase
  | .waiting _ =>
      some (match received with
        | .text text => s.presentToken text
        | .close => .closed
        | .ended => .closed
        | .frame => .waiting s.auth.now
        | .error => .waiting s.auth.now)
  | .streaming claims cursor =>
      some (match received with
        | .text _ => .streaming claims cursor
        | .frame => .streaming claims cursor
        | _ => .closed)
  | .sending claims cursor reading =>
      some (match received with
        | .text _ => .sending claims cursor reading
        | .frame => .sending claims cursor reading
        | _ => .closed)
  | _ => none

/-- Ten seconds without a message. -/
def timeOut : SocketPhase → Option SocketPhase
  | .waiting since =>
      if since + 10 * nanosPerSecond ≤ s.auth.now then
        some (.refusing "\x7b\"error\":\"auth_timeout\"\x7d")
      else none
  | _ => none

/-- Verify session is still valid. -/
def checkSession : SocketPhase → Option SocketPhase
  | .checking claims sessionId =>
      some (if isSessionValid s.auth.sessions sessionId s.auth.now then .acknowledging claims
        else .refusing "\x7b\"error\":\"session_revoked\"\x7d")
  | _ => none

/-- A send ends.  The acknowledgement's result is ignored; a reading that cannot be sent ends the
stream. -/
def finishSend (delivered : Bool) : SocketPhase → Option SocketPhase
  | .refusing _ => some .closed
  | .acknowledging claims => some (.streaming claims s.broadcast.length)
  | .sending claims cursor _ => some (if delivered then .streaming claims cursor else .closed)
  | _ => none

/-- The next reading of the subscription. -/
def takeReading : SocketPhase → Option SocketPhase
  | .streaming claims cursor =>
      s.broadcast[cursor]?.map fun reading ↦ .sending claims (cursor + 1) reading
  | _ => none

/-- The receiver has lagged behind and goes on at the oldest reading that is still kept. -/
def lag (oldest : ℕ) : SocketPhase → Option SocketPhase
  | .streaming claims cursor =>
      if cursor < oldest ∧ oldest ≤ s.broadcast.length then some (.streaming claims oldest) else none
  | _ => none

/-- A step of one socket's handler. -/
def onSocket (f : SocketPhase → Option SocketPhase) : Option (StreamState jwt) :=
  s.sockets[socket]?.bind fun entry ↦ (f entry.phase).map fun phase ↦ s.setPhase socket phase

end Handlers

/-- One step of the server, of a client or of the polling tasks. -/
inductive Label
  | auth (label : AuthRuntime.Label)
  | publish (reading : String)
  | upgrade
  | receive (socket : ℕ) (received : Received)
  | timeOut (socket : ℕ)
  | checkSession (socket : ℕ)
  | finishSend (socket : ℕ) (delivered : Bool)
  | takeReading (socket : ℕ)
  | lag (socket oldest : ℕ)

def step (verifyPassword : String → String → Bool) (s : StreamState jwt) :
    Label → Option (StreamState jwt)
  | .auth label => (s.auth.step verifyPassword label).map fun auth ↦ { s with auth := auth }
  | .publish reading => some { s with broadcast := s.broadcast ++ [reading] }
  | .upgrade => some { s with sockets := s.sockets ++ [⟨s.auth.now, .waiting s.auth.now⟩] }
  | .receive socket received => s.onSocket socket (s.receive received)
  | .timeOut socket => s.onSocket socket s.timeOut
  | .checkSession socket => s.onSocket socket s.checkSession
  | .finishSend socket delivered => s.onSocket socket (s.finishSend delivered)
  | .takeReading socket => s.onSocket socket s.takeReading
  | .lag socket oldest => s.onSocket socket (s.lag oldest)

/-- A broadcast reading is about to reach the client. -/
def Delivers (s : StreamState jwt) (socket : ℕ) (claims : Claims) (reading : String) : Prop :=
  ∃ openedAt cursor, s.sockets[socket]? = some ⟨openedAt, .sending claims cursor reading⟩

/-- The session is registered, not revoked and not expired. -/
def SessionStands (s : StreamState jwt) (sessionId : String) : Prop :=
  ∃ userId expires, s.auth.sessions sessionId = some (userId, expires) ∧
    timestamp s.auth.now < expires

/-- The socket presented these claims in a token that validated. -/
def Presented (verifyPassword : String → String → Bool) (start : StreamState jwt)
    (labels : List Label) (socket : ℕ) (claims : Claims) : Prop :=
  ∃ earlier text s openedAt since, earlier ++ [.receive socket (.text text)] <+: labels ∧
    Transition.exec (step verifyPassword) start earlier = some s ∧
    s.sockets[socket]? = some ⟨openedAt, .waiting since⟩ ∧
    validateToken jwt s.auth.now (trim text) = .ok claims

/-- The handler of a socket that had presented these claims looked the session up, and it stood. -/
def LookedUp (verifyPassword : String → String → Bool) (start : StreamState jwt)
    (labels : List Label) (socket : ℕ) (claims : Claims) (sessionId : String) : Prop :=
  ∃ earlier s openedAt, earlier ++ [.checkSession socket] <+: labels ∧
    Transition.exec (step verifyPassword) start earlier = some s ∧
    s.sockets[socket]? = some ⟨openedAt, .checking claims sessionId⟩ ∧
    Presented verifyPassword start earlier socket claims ∧ s.SessionStands sessionId

/-- The handler of the socket has subscribed. -/
def Subscribed (s : StreamState jwt) (socket : ℕ) : Prop :=
  ∃ openedAt phase, s.sockets[socket]? = some ⟨openedAt, phase⟩ ∧ phase.subscriber.isSome

/-- The handler subscribed once, with the claims that the socket had presented, and before that it
had looked up the session that they name. -/
def Authenticated (verifyPassword : String → String → Bool) (start : StreamState jwt)
    (labels : List Label) (socket : ℕ) (claims : Claims) : Prop :=
  ∃ earlier s openedAt delivered, earlier ++ [.finishSend socket delivered] <+: labels ∧
    Transition.exec (step verifyPassword) start earlier = some s ∧
    s.sockets[socket]? = some ⟨openedAt, .acknowledging claims⟩ ∧
    (∀ before t, before <+: earlier → Transition.exec (step verifyPassword) start before = some t →
      ¬t.Subscribed socket) ∧
    Presented verifyPassword start earlier socket claims ∧
    ∀ sessionId, claims.sessionId = some sessionId →
      LookedUp verifyPassword start earlier socket claims sessionId

/-! ## What a socket has shown -/

section Runs

variable {verifyPassword : String → String → Bool} {start s t : StreamState jwt}
  {labels earlier : List Label} {socket : ℕ} {phase phase' : SocketPhase} {claims : Claims}

theorem Presented.mono (h : Presented verifyPassword start earlier socket claims)
    (hpre : earlier <+: labels) : Presented verifyPassword start labels socket claims := by
  obtain ⟨before, text, s, openedAt, since, hbefore, hrest⟩ := h
  exact ⟨before, text, s, openedAt, since, hbefore.trans hpre, hrest⟩

theorem LookedUp.mono {sessionId : String}
    (h : LookedUp verifyPassword start earlier socket claims sessionId)
    (hpre : earlier <+: labels) :
    LookedUp verifyPassword start labels socket claims sessionId := by
  obtain ⟨before, s, openedAt, hbefore, hrest⟩ := h
  exact ⟨before, s, openedAt, hbefore.trans hpre, hrest⟩

theorem Authenticated.mono (h : Authenticated verifyPassword start earlier socket claims)
    (hpre : earlier <+: labels) : Authenticated verifyPassword start labels socket claims := by
  obtain ⟨before, s, openedAt, delivered, hbefore, hrest⟩ := h
  exact ⟨before, s, openedAt, delivered, hbefore.trans hpre, hrest⟩

/-- The handler's variables are backed by what the client has sent. -/
structure PhaseBacked (verifyPassword : String → String → Bool) (start : StreamState jwt)
    (labels : List Label) (socket : ℕ) (phase : SocketPhase) : Prop where
  checking : ∀ claims sessionId, phase = .checking claims sessionId →
    Presented verifyPassword start labels socket claims ∧ claims.sessionId = some sessionId
  acknowledging : ∀ claims, phase = .acknowledging claims →
    Presented verifyPassword start labels socket claims ∧
      ∀ sessionId, claims.sessionId = some sessionId →
        LookedUp verifyPassword start labels socket claims sessionId
  subscriber : ∀ claims, phase.subscriber = some claims →
    Authenticated verifyPassword start labels socket claims

theorem PhaseBacked.mono (h : PhaseBacked verifyPassword start earlier socket phase)
    (hpre : earlier <+: labels) : PhaseBacked verifyPassword start labels socket phase where
  checking claims sessionId hphase := by
    obtain ⟨hpresented, hsession⟩ := h.checking claims sessionId hphase
    exact ⟨hpresented.mono hpre, hsession⟩
  acknowledging claims hphase := by
    obtain ⟨hpresented, hlooked⟩ := h.acknowledging claims hphase
    exact ⟨hpresented.mono hpre, fun sessionId hsession ↦ (hlooked sessionId hsession).mono hpre⟩
  subscriber claims hclaims := (h.subscriber claims hclaims).mono hpre

/-- A phase without claims needs no backing. -/
theorem PhaseBacked.of_none (hclaims : phase.claims = none) :
    PhaseBacked verifyPassword start labels socket phase where
  checking claims sessionId hphase := by
    rw [hphase] at hclaims
    cases hclaims
  acknowledging claims hphase := by
    rw [hphase] at hclaims
    cases hclaims
  subscriber claims hsome := by
    cases phase <;> cases hsome <;> cases hclaims

theorem PhaseBacked.of_checking {sessionId : String}
    (hpresented : Presented verifyPassword start labels socket claims)
    (hsession : claims.sessionId = some sessionId) :
    PhaseBacked verifyPassword start labels socket (.checking claims sessionId) where
  checking claims' sessionId' hphase := by
    cases hphase
    exact ⟨hpresented, hsession⟩
  acknowledging claims' hphase := by cases hphase
  subscriber claims' hclaims := by cases hclaims

theorem PhaseBacked.of_acknowledging
    (hpresented : Presented verifyPassword start labels socket claims)
    (hlooked : ∀ sessionId, claims.sessionId = some sessionId →
      LookedUp verifyPassword start labels socket claims sessionId) :
    PhaseBacked verifyPassword start labels socket (.acknowledging claims) where
  checking claims' sessionId hphase := by cases hphase
  acknowledging claims' hphase := by
    cases hphase
    exact ⟨hpresented, hlooked⟩
  subscriber claims' hclaims := by cases hclaims

/-- A subscribed handler is backed by its subscription. -/
theorem PhaseBacked.of_authenticated (hsubscriber : phase.subscriber = some claims)
    (h : Authenticated verifyPassword start labels socket claims) :
    PhaseBacked verifyPassword start labels socket phase where
  checking claims' sessionId hphase := by
    rw [hphase] at hsubscriber
    cases hsubscriber
  acknowledging claims' hphase := by
    rw [hphase] at hsubscriber
    cases hsubscriber
  subscriber claims' hclaims := by
    rw [hsubscriber] at hclaims
    exact Option.some.inj hclaims ▸ h

/-- A handler that stays subscribed keeps its backing. -/
theorem PhaseBacked.of_subscriber (h : PhaseBacked verifyPassword start labels socket phase)
    (hphase : phase.subscriber = some claims) (hphase' : phase'.subscriber = some claims) :
    PhaseBacked verifyPassword start labels socket phase' :=
  .of_authenticated hphase' (h.subscriber claims hphase)

/-- A step of a handler rewrites its own phase. -/
theorem onSocket_eq_some_iff {f : SocketPhase → Option SocketPhase} :
    s.onSocket socket f = some t ↔ ∃ openedAt phase phase',
      s.sockets[socket]? = some ⟨openedAt, phase⟩ ∧ f phase = some phase' ∧
        s.setPhase socket phase' = t := by
  unfold onSocket
  constructor
  · intro h
    obtain ⟨⟨openedAt, phase⟩, hsocket, hmap⟩ := Option.bind_eq_some_iff.mp h
    obtain ⟨phase', hphase, heq⟩ := Option.map_eq_some_iff.mp hmap
    exact ⟨openedAt, phase, phase', hsocket, hphase, heq⟩
  · rintro ⟨openedAt, phase, phase', hsocket, hphase, rfl⟩
    rw [hsocket, Option.bind_some, hphase, Option.map_some]

/-- A handler that is past its authentication stays so. -/
theorem past_onSocket {f : SocketPhase → Option SocketPhase} {other : ℕ}
    (hstep : s.onSocket other f = some t) {openedAt : Instant}
    (hsocket : s.sockets[socket]? = some ⟨openedAt, phase⟩) (hpast : phase.Past)
    (hkeep : ∀ phase phase', phase.Past → f phase = some phase' → phase'.Past) :
    ∃ phase', t.sockets[socket]? = some ⟨openedAt, phase'⟩ ∧ phase'.Past := by
  obtain ⟨openedAt', before, after, hother, hf, rfl⟩ := onSocket_eq_some_iff.mp hstep
  rw [setPhase, ListUpdate.getElem?_modify_of_some hother]
  split
  case isTrue heq =>
      subst heq
      rw [hother] at hsocket
      cases hsocket
      exact ⟨after, rfl, hkeep _ _ hpast hf⟩
  case isFalse => exact ⟨phase, hsocket, hpast⟩

theorem past_receive {received : Received} (hpast : phase.Past)
    (hstep : s.receive received phase = some phase') : phase'.Past := by
  cases phase with
  | streaming | sending =>
      cases hstep
      cases received <;> first | exact .inl rfl | exact .inr rfl
  | waiting => simp [SocketPhase.Past, SocketPhase.subscriber] at hpast
  | _ => cases hstep

theorem past_timeOut (hpast : phase.Past) (hstep : s.timeOut phase = some phase') :
    phase'.Past := by
  cases phase with
  | waiting => simp [SocketPhase.Past, SocketPhase.subscriber] at hpast
  | _ => cases hstep

theorem past_checkSession (hpast : phase.Past) (hstep : s.checkSession phase = some phase') :
    phase'.Past := by
  cases phase with
  | checking => simp [SocketPhase.Past, SocketPhase.subscriber] at hpast
  | _ => cases hstep

theorem past_finishSend {delivered : Bool} (hstep : s.finishSend delivered phase = some phase') :
    phase'.Past := by
  cases phase with
  | refusing =>
      cases hstep
      exact .inr rfl
  | acknowledging =>
      cases hstep
      exact .inl rfl
  | sending =>
      cases hstep
      cases delivered
      · exact .inr rfl
      · exact .inl rfl
  | _ => cases hstep

theorem past_takeReading (hstep : s.takeReading phase = some phase') : phase'.Past := by
  cases phase with
  | streaming =>
      obtain ⟨reading, -, rfl⟩ := Option.map_eq_some_iff.mp hstep
      exact .inl rfl
  | _ => cases hstep

theorem past_lag {oldest : ℕ} (hstep : s.lag oldest phase = some phase') : phase'.Past := by
  cases phase with
  | streaming =>
      simp only [lag] at hstep
      split at hstep
      · cases hstep
        exact .inl rfl
      · cases hstep
  | _ => cases hstep

/-- The handler of the socket has subscribed, or it has returned. -/
def PastSubscription (s : StreamState jwt) (socket : ℕ) : Prop :=
  ∃ openedAt phase, s.sockets[socket]? = some ⟨openedAt, phase⟩ ∧ phase.Past

theorem PastSubscription.step {label : Label} (h : s.PastSubscription socket)
    (hstep : s.step verifyPassword label = some t) : t.PastSubscription socket := by
  obtain ⟨openedAt, phase, hsocket, hpast⟩ := h
  refine ⟨openedAt, ?_⟩
  cases label with
  | auth label =>
      obtain ⟨auth, -, rfl⟩ := Option.map_eq_some_iff.mp hstep
      exact ⟨phase, hsocket, hpast⟩
  | publish reading =>
      cases hstep
      exact ⟨phase, hsocket, hpast⟩
  | upgrade =>
      cases hstep
      refine ⟨phase, ?_, hpast⟩
      dsimp only
      rw [List.getElem?_append_left (List.getElem?_eq_some_iff.mp hsocket).1, hsocket]
  | receive other received =>
      exact past_onSocket hstep hsocket hpast fun _ _ h hf ↦ past_receive h hf
  | timeOut other =>
      exact past_onSocket hstep hsocket hpast fun _ _ h hf ↦ past_timeOut h hf
  | checkSession other =>
      exact past_onSocket hstep hsocket hpast fun _ _ h hf ↦ past_checkSession h hf
  | finishSend other delivered =>
      exact past_onSocket hstep hsocket hpast fun _ _ _ hf ↦ past_finishSend hf
  | takeReading other =>
      exact past_onSocket hstep hsocket hpast fun _ _ _ hf ↦ past_takeReading hf
  | lag other oldest =>
      exact past_onSocket hstep hsocket hpast fun _ _ _ hf ↦ past_lag hf

/-- A handler that is acknowledging has not subscribed before. -/
theorem not_subscribed_of_acknowledging {openedAt : Instant}
    (hexec : Transition.exec (StreamState.step verifyPassword) start labels = some s)
    (hsocket : s.sockets[socket]? = some ⟨openedAt, .acknowledging claims⟩)
    (hpre : earlier <+: labels)
    (hearlier : Transition.exec (StreamState.step verifyPassword) start earlier = some t) :
    ¬t.Subscribed socket := by
  rintro ⟨openedAt', phase, ht, hsubscribed⟩
  obtain ⟨later, rfl⟩ := hpre
  rw [Transition.exec_append, hearlier, Option.bind_some] at hexec
  obtain ⟨openedAt'', phase', hs, hpast⟩ : s.PastSubscription socket :=
    @Transition.Run.invariant _ _ _ _ _ (fun u ↦ u.PastSubscription socket)
      ⟨openedAt', phase, ht, .inl hsubscribed⟩ (fun _ _ _ h hstep ↦ h.step hstep) _
      (Transition.run_ofOption_iff.mpr hexec)
  rw [hsocket] at hs
  cases hs
  simp [SocketPhase.Past, SocketPhase.subscriber] at hpast

/-- The text that ends the waiting is presented. -/
theorem phaseBacked_presentToken {openedAt since : Instant} {text : String}
    (hexec : Transition.exec (step verifyPassword) start labels = some s)
    (hsocket : s.sockets[socket]? = some ⟨openedAt, .waiting since⟩) :
    PhaseBacked verifyPassword start (labels ++ [.receive socket (.text text)]) socket
      (s.presentToken text) := by
  have hpresented (claims : Claims) (hvalid : validateToken jwt s.auth.now (trim text) = .ok claims) :
      Presented verifyPassword start (labels ++ [.receive socket (.text text)]) socket claims :=
    ⟨labels, text, s, openedAt, since, List.prefix_rfl, hexec, hsocket, hvalid⟩
  unfold presentToken
  split
  case h_1 claims hvalid =>
      split
      case h_1 sessionId hsession =>
          exact .of_checking (hpresented claims hvalid) hsession
      case h_2 hnone =>
          exact .of_acknowledging (hpresented claims hvalid) (by simp [hnone])
  case h_2 => exact .of_none rfl

theorem sessionStands_of_isSessionValid {sessionId : String}
    (h : isSessionValid s.auth.sessions sessionId s.auth.now) : s.SessionStands sessionId := by
  unfold isSessionValid at h
  split at h
  case h_1 userId expires hentry => exact ⟨userId, expires, hentry, of_decide_eq_true h⟩
  case h_2 => cases h

/-- What the next phase of a socket's own step is backed by. -/
theorem phaseBacked_receive {openedAt : Instant} {received : Received}
    (hexec : Transition.exec (step verifyPassword) start labels = some s)
    (hsocket : s.sockets[socket]? = some ⟨openedAt, phase⟩)
    (h : PhaseBacked verifyPassword start (labels ++ [.receive socket received]) socket phase)
    (hstep : s.receive received phase = some phase') :
    PhaseBacked verifyPassword start (labels ++ [.receive socket received]) socket phase' := by
  cases phase with
  | waiting since =>
      cases hstep
      cases received with
      | text text => exact phaseBacked_presentToken hexec hsocket
      | _ => exact .of_none rfl
  | streaming claims cursor =>
      cases hstep
      cases received with
      | text | frame => exact h
      | _ => exact .of_none rfl
  | sending claims cursor reading =>
      cases hstep
      cases received with
      | text | frame => exact h
      | _ => exact .of_none rfl
  | _ => cases hstep

/-- A session that is found valid backs the acknowledgement. -/
theorem phaseBacked_checkSession {openedAt : Instant}
    (hexec : Transition.exec (step verifyPassword) start labels = some s)
    (hsocket : s.sockets[socket]? = some ⟨openedAt, phase⟩)
    (h : PhaseBacked verifyPassword start labels socket phase)
    (hstep : s.checkSession phase = some phase') :
    PhaseBacked verifyPassword start (labels ++ [.checkSession socket]) socket phase' := by
  cases phase with
  | checking claims sessionId =>
      obtain ⟨hpresented, hsession⟩ := h.checking claims sessionId rfl
      cases hstep
      split
      case isTrue hvalid =>
          refine .of_acknowledging (hpresented.mono (List.prefix_append _ _)) ?_
          intro sessionId' hsession'
          obtain rfl := Option.some.inj (hsession ▸ hsession')
          exact ⟨labels, s, openedAt, List.prefix_rfl, hexec, hsocket, hpresented,
            sessionStands_of_isSessionValid hvalid⟩
      case isFalse => exact .of_none rfl
  | _ => cases hstep

theorem phaseBacked_timeOut (hstep : s.timeOut phase = some phase') :
    PhaseBacked verifyPassword start labels socket phase' := by
  cases phase with
  | waiting since =>
      simp only [timeOut] at hstep
      split at hstep
      · cases hstep
        exact .of_none rfl
      · cases hstep
  | _ => cases hstep

/-- The handler subscribes after the acknowledgement. -/
theorem phaseBacked_finishSend {delivered : Bool} {openedAt : Instant}
    (hexec : Transition.exec (step verifyPassword) start labels = some s)
    (hsocket : s.sockets[socket]? = some ⟨openedAt, phase⟩)
    (h : PhaseBacked verifyPassword start labels socket phase)
    (hstep : s.finishSend delivered phase = some phase') :
    PhaseBacked verifyPassword start (labels ++ [.finishSend socket delivered]) socket phase' := by
  cases phase with
  | refusing =>
      cases hstep
      exact .of_none rfl
  | acknowledging claims =>
      obtain ⟨hpresented, hlooked⟩ := h.acknowledging claims rfl
      cases hstep
      exact .of_authenticated rfl ⟨labels, s, openedAt, delivered, List.prefix_rfl, hexec, hsocket,
        fun _ _ hpre hbefore ↦ not_subscribed_of_acknowledging hexec hsocket hpre hbefore,
        hpresented, hlooked⟩
  | sending claims cursor reading =>
      cases hstep
      cases delivered with
      | true => exact (h.of_subscriber rfl rfl).mono (List.prefix_append _ _)
      | false => exact .of_none rfl
  | _ => cases hstep

theorem phaseBacked_takeReading (h : PhaseBacked verifyPassword start labels socket phase)
    (hstep : s.takeReading phase = some phase') :
    PhaseBacked verifyPassword start labels socket phase' := by
  cases phase with
  | streaming claims cursor =>
      obtain ⟨reading, -, rfl⟩ := Option.map_eq_some_iff.mp hstep
      exact h.of_subscriber rfl rfl
  | _ => cases hstep

theorem phaseBacked_lag {oldest : ℕ} (h : PhaseBacked verifyPassword start labels socket phase)
    (hstep : s.lag oldest phase = some phase') :
    PhaseBacked verifyPassword start labels socket phase' := by
  cases phase with
  | streaming claims cursor =>
      simp only [lag] at hstep
      split at hstep
      · cases hstep
        exact h.of_subscriber rfl rfl
      · cases hstep
  | _ => cases hstep

/-- Every socket's variables are backed. -/
def SocketsBacked (verifyPassword : String → String → Bool) (start : StreamState jwt)
    (labels : List Label) (s : StreamState jwt) : Prop :=
  ∀ socket openedAt phase, s.sockets[socket]? = some ⟨openedAt, phase⟩ →
    PhaseBacked verifyPassword start labels socket phase

/-- A step of one socket leaves the others alone. -/
theorem SocketsBacked.onSocket (h : SocketsBacked verifyPassword start labels s)
    {f : SocketPhase → Option SocketPhase} (hstep : s.onSocket socket f = some t)
    (hphase : ∀ openedAt phase phase', s.sockets[socket]? = some ⟨openedAt, phase⟩ →
      f phase = some phase' → PhaseBacked verifyPassword start labels socket phase') :
    SocketsBacked verifyPassword start labels t := by
  obtain ⟨openedAt, phase, phase', hsocket, hf, rfl⟩ := onSocket_eq_some_iff.mp hstep
  intro other openedAt' phase'' hother
  rw [setPhase, ListUpdate.getElem?_modify_of_some hsocket] at hother
  split at hother
  case isTrue heq =>
      subst heq
      cases hother
      exact hphase openedAt phase phase' hsocket hf
  case isFalse => exact h other openedAt' phase'' hother

theorem SocketsBacked.upgrade (h : SocketsBacked verifyPassword start labels s) {now : Instant} :
    SocketsBacked verifyPassword start labels
      { s with sockets := s.sockets ++ [⟨now, .waiting now⟩] } := by
  intro socket openedAt phase hsocket
  dsimp only at hsocket
  rw [ListUpdate.getElem?_append_singleton] at hsocket
  split at hsocket
  case isTrue =>
      obtain ⟨-, rfl⟩ := Socket.mk.inj (Option.some.inj hsocket)
      exact .of_none rfl
  case isFalse => exact h socket openedAt phase hsocket

/-- **One step.** -/
theorem SocketsBacked.step {label : Label}
    (hexec : Transition.exec (step verifyPassword) start labels = some s)
    (h : SocketsBacked verifyPassword start labels s)
    (hstep : s.step verifyPassword label = some t) :
    SocketsBacked verifyPassword start (labels ++ [label]) t := by
  have hpre := List.prefix_append labels [label]
  have hkept : SocketsBacked verifyPassword start (labels ++ [label]) s :=
    fun socket openedAt phase hsocket ↦ (h socket openedAt phase hsocket).mono hpre
  cases label with
  | auth label =>
      obtain ⟨auth, -, rfl⟩ := Option.map_eq_some_iff.mp hstep
      exact hkept
  | publish reading =>
      cases hstep
      exact hkept
  | upgrade =>
      cases hstep
      exact hkept.upgrade
  | receive socket received =>
      exact hkept.onSocket hstep fun openedAt phase phase' hsocket hphase ↦
        phaseBacked_receive hexec hsocket (hkept socket openedAt phase hsocket) hphase
  | timeOut socket =>
      exact hkept.onSocket hstep fun _ _ _ _ hphase ↦ phaseBacked_timeOut hphase
  | checkSession socket =>
      exact hkept.onSocket hstep fun openedAt phase phase' hsocket hphase ↦
        phaseBacked_checkSession hexec hsocket (h socket openedAt phase hsocket) hphase
  | finishSend socket delivered =>
      exact hkept.onSocket hstep fun openedAt phase phase' hsocket hphase ↦
        phaseBacked_finishSend hexec hsocket (h socket openedAt phase hsocket) hphase
  | takeReading socket =>
      exact hkept.onSocket hstep fun openedAt phase phase' hsocket hphase ↦
        phaseBacked_takeReading (hkept socket openedAt phase hsocket) hphase
  | lag socket oldest =>
      exact hkept.onSocket hstep fun openedAt phase phase' hsocket hphase ↦
        phaseBacked_lag (hkept socket openedAt phase hsocket) hphase

theorem socketsBacked_exec (hstart : start.sockets = [])
    (hexec : Transition.exec (StreamState.step verifyPassword) start labels = some s) :
    SocketsBacked verifyPassword start labels s := by
  induction labels using List.reverseRecOn generalizing s with
  | nil =>
      obtain rfl : start = s := by simpa [Transition.exec] using hexec
      intro socket openedAt phase hsocket
      rw [hstart] at hsocket
      cases hsocket
  | append_singleton labels label ih =>
      rw [Transition.exec_append_singleton, Option.bind_eq_some_iff] at hexec
      obtain ⟨before, hbefore, hlast⟩ := hexec
      exact SocketsBacked.step hbefore (ih hbefore) hlast

/-- **The stream is authenticated.** A reading only reaches a socket that has presented a token
that validated, and whose session, if the token names one, was registered, not revoked and not
expired when the handler looked it up after that and before it subscribed.  A token that
`create_token` made names one. -/
theorem delivers_authenticated (now : Instant) (users : UserTable) (auditTrail : AuditTable)
    (hexec : Transition.exec (StreamState.step verifyPassword) (init jwt now users auditTrail)
      labels = some s) {reading : String} (hdelivers : s.Delivers socket claims reading) :
    Authenticated verifyPassword (init jwt now users auditTrail) labels socket claims ∧
      (jwt.Lawful → ∀ (issued : IssuedToken jwt) (now : Instant),
        validateToken jwt now issued.token = .ok claims →
          claims.sessionId = some issued.sessionId) := by
  obtain ⟨openedAt, cursor, hsocket⟩ := hdelivers
  constructor
  · exact (socketsBacked_exec rfl hexec socket openedAt _ hsocket).subscriber claims rfl
  · intro hjwt issued now hvalid
    rw [((issued.validateToken_iff hjwt).mp hvalid).1, IssuedToken.claims_sessionId]

end Runs

/-! ## A concrete stream -/

/-- The operator logs in and opens a stream. -/
def streamRun : List Label :=
  [.auth (.arrive (.login ⟨"operator", "operator123"⟩)), .auth (.advance 0), .auth (.advance 0),
    .auth (.issueToken 0 "session-1"), .auth (.advance 0), .auth (.advance 0), .upgrade,
    .receive 0 (.text "header.claims.signature"), .checkSession 0, .finishSend 0 true]

/-- A reading is taken while the session stands. -/
def watchingRun : List Label := streamRun ++ [.publish "reading", .takeReading 0]

/-- The operator logs out before the reading comes. -/
def staleRun : List Label :=
  streamRun ++
    [.auth (.arrive (.logout (AuthRuntime.bearerHeaders "header.claims.signature"))),
      .auth (.advance 1), .auth (.advance 1), .publish "reading", .takeReading 0]

/-- The first socket is about to get the reading. -/
def servesFirst (s : StreamState jwt) : Bool :=
  s.sockets[0]?.any fun socket ↦ socket.phase == .sending AuthRuntime.firstClaims 1 "reading"

theorem delivers_of_servesFirst {s : StreamState jwt} (h : s.servesFirst) :
    s.Delivers 0 AuthRuntime.firstClaims "reading" := by
  obtain ⟨⟨openedAt, phase⟩, hsocket, hphase⟩ := (Option.any_eq_true _ _).mp h
  obtain rfl := beq_iff_eq.mp hphase
  exact ⟨openedAt, 1, hsocket⟩

theorem delivers_authenticated_watchingRun :
    ∃ s : StreamState AuthRuntime.firstJwt,
      Transition.exec (step AuthRuntime.verifyHash)
        (init AuthRuntime.firstJwt 0 AuthRuntime.operatorTable .empty) watchingRun = some s ∧
      Authenticated AuthRuntime.verifyHash
        (init AuthRuntime.firstJwt 0 AuthRuntime.operatorTable .empty) watchingRun 0
        AuthRuntime.firstClaims := by
  obtain ⟨s, hexec, hserves⟩ := (Option.any_eq_true servesFirst (Transition.exec
    (step AuthRuntime.verifyHash) (init AuthRuntime.firstJwt 0 AuthRuntime.operatorTable .empty)
    watchingRun)).mp (by decide)
  exact ⟨s, hexec, (delivers_authenticated 0 _ _ hexec (delivers_of_servesFirst hserves)).1⟩

/-- A reading reaches the socket of a session that has been revoked. -/
theorem staleRun_delivers :
    ¬ ∀ (labels : List Label) (s : StreamState AuthRuntime.firstJwt) (socket : ℕ) (claims : Claims)
      (reading : String), Transition.exec (step AuthRuntime.verifyHash)
        (init AuthRuntime.firstJwt 0 AuthRuntime.operatorTable .empty) labels = some s →
      s.Delivers socket claims reading →
        ∃ sessionId, claims.sessionId = some sessionId ∧ s.SessionStands sessionId := by
  intro h
  obtain ⟨s, hexec, htest⟩ := (Option.any_eq_true
    (fun s ↦ s.servesFirst && (s.auth.sessions "session-1").isNone) (Transition.exec
    (step AuthRuntime.verifyHash) (init AuthRuntime.firstJwt 0 AuthRuntime.operatorTable .empty)
    staleRun)).mp (by decide)
  obtain ⟨hserves, hrevoked⟩ := Bool.and_eq_true_iff.mp htest
  obtain ⟨sessionId, hsession, userId, expires, hentry, -⟩ :=
    h staleRun s 0 _ _ hexec (delivers_of_servesFirst hserves)
  obtain rfl := Option.some.inj hsession
  rw [hentry] at hrevoked
  cases hrevoked

end StreamState

end VyuhHmi
