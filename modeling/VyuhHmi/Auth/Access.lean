import VyuhHmi.Auth.Sessions
import VyuhHmi.Foundation.EventMap
import VyuhHmi.Foundation.ListUpdate

/-!
# Who passes

A request passes a token check exactly when its token was created by a login of this process, the
session of that login is still open and the token has not expired.  What this rests on outside the
program is that a token that validates was made by `create_token`, here or in another process, and
that session ids are never drawn twice.
-/

namespace VyuhHmi

variable {jwt : Jwt}

namespace SessionEvent

/-- The session that an event is about. -/
def sessionId : SessionEvent jwt → String
  | .loggedIn issued => issued.sessionId
  | .loggedOut sessionId => sessionId

/-- What an event leaves in the session store. -/
def entry : SessionEvent jwt → Option (String × ℕ)
  | .loggedIn issued => some (issued.userId, timestamp issued.expiresAt)
  | .loggedOut _ => none

end SessionEvent

/-- The roles that a route lets through. -/
def TokenRoute.Permits (role : String) : TokenRoute → Prop
  | .requireOperator => role = "operator" ∨ role = "admin"
  | .requireAdmin => role = "admin"
  | .authMiddleware | .verifyTokenHandler => True

theorem isAccepted_authorise_iff (route : TokenRoute) (claims : Claims) :
    (route.check.authorise claims).isAccepted ↔ route.Permits claims.role := by
  cases route with
  | authMiddleware => exact iff_of_true rfl trivial
  | verifyTokenHandler => exact iff_of_true rfl trivial
  | requireOperator =>
      rw [TokenRoute.Permits, ← Role.fromStr_hasPermission_operator]
      simp only [TokenRoute.check, requireOperator, TokenCheck.authorise]
      split <;> simp_all [AuthOutcome.isAccepted, AuthReply.fail]
  | requireAdmin =>
      rw [TokenRoute.Permits, ← Role.fromStr_hasPermission_admin]
      simp only [TokenRoute.check, requireAdmin, TokenCheck.authorise]
      split <;> simp_all [AuthOutcome.isAccepted, AuthReply.fail]

namespace AuthRuntime

variable {foreign : String → Prop} {verifyPassword : String → String → Bool}
  {s t : AuthRuntime jwt} {i : ℕ} {request : AuthRequest jwt}

/-! ## Assumptions -/

/-- A token that validates was signed here, or by another process under one of its session ids. -/
def Unforgeable (foreign : String → Prop) (s : AuthRuntime jwt) (token : String) : Prop :=
  ∀ now claims, validateToken jwt now token = .ok claims →
    (∃ issued ∈ s.signed, issued.token = token) ∨
      ∃ other : IssuedToken jwt, other.token = token ∧ foreign other.sessionId

/-- Requests present tokens that cannot be forged, and session ids are fresh. -/
def Assumed (foreign : String → Prop) (s : AuthRuntime jwt) : Label → Prop
  | .arrive call => ∀ token, call.token = some token → s.Unforgeable foreign token
  | .issueToken _ sessionId =>
      ¬foreign sessionId ∧ ∀ issued ∈ s.signed, issued.sessionId ≠ sessionId
  | _ => True

/-! ## What a step can do -/

/-- What a handler knows of its own variables. -/
def PhaseOk (s : AuthRuntime jwt) (call : AuthCall) : AuthPhase jwt → Prop
  | .registering issued => issued ∈ s.signed
  | .checking claims sessionId => claims.sessionId = some sessionId ∧
      ∀ route headers, call = .checkToken route headers → ∃ token now,
        extractToken headers = some token ∧ validateToken jwt now token = .ok claims
  | _ => True

/-- The cases of a step, as far as tokens and sessions go. -/
inductive Effect (s : AuthRuntime jwt) : Label → AuthRuntime jwt → Prop
  | tick (now : Instant) : Effect s (.tick now) { s with now := now }
  | setUsers (users : UserTable) : Effect s (.setUsers users) { s with users := users }
  | arrive (call : AuthCall) :
      Effect s (.arrive call) { s with requests := s.requests ++ [⟨call, .ready⟩] }
  | move {label : Label} {i : ℕ} {request : AuthRequest jwt} (attempts : LoginAttempts)
      (trail : AuditTable) (phase : AuthPhase jwt) (hrequest : s.requests[i]? = some request)
      (hphase : s.PhaseOk request.call phase) :
      Effect s label ({ s with loginAttempts := attempts, auditTrail := trail }.setPhase i phase)
  | issue {i : ℕ} {sessionId : String} {request : AuthRequest jwt} (attempts : LoginAttempts)
      (issued : IssuedToken jwt) (hsession : issued.sessionId = sessionId)
      (hrequest : s.requests[i]? = some request) :
      Effect s (.issueToken i sessionId)
        ({ s with loginAttempts := attempts, signed := s.signed ++ [issued] }.setPhase i
          (.registering issued))
  | register {label : Label} {i : ℕ} {call : AuthCall} {issued : IssuedToken jwt}
      (hrequest : s.requests[i]? = some ⟨call, .registering issued⟩) :
      Effect s label ((s.registerSession issued).setPhase i (.auditingLogin issued))
  | revoke {label : Label} {i : ℕ} {request : AuthRequest jwt} (claims : Claims)
      (sessionId : String) (hrequest : s.requests[i]? = some request) :
      Effect s label ((s.revokeSession sessionId).setPhase i (.auditingLogout claims))

theorem effect_login {req : LoginRequest} {phase : AuthPhase jwt}
    (hrequest : s.requests[i]? = some ⟨.login req, phase⟩)
    (h : s.login i verifyPassword req phase = some t) : Effect s (.advance i) t := by
  unfold login at h
  split at h
  case h_1 =>
      cases h
      refine .move _ s.auditTrail _ hrequest ?_
      split <;> trivial
  case h_2 =>
      cases h
      refine .move s.loginAttempts s.auditTrail _ hrequest ?_
      repeat' split
      all_goals trivial
  case h_3 =>
      cases h
      exact .move _ s.auditTrail _ hrequest trivial
  case h_4 =>
      cases h
      exact .register hrequest
  case h_5 =>
      cases h
      exact .move s.loginAttempts _ _ hrequest trivial
  case h_6 => cases h

theorem effect_logout {headers : Headers} {phase : AuthPhase jwt}
    (hrequest : s.requests[i]? = some ⟨.logout headers, phase⟩)
    (h : s.logout i headers phase = some t) : Effect s (.advance i) t := by
  unfold logout at h
  split at h
  case h_1 =>
      cases h
      refine .move s.loginAttempts s.auditTrail _ hrequest ?_
      repeat' split
      all_goals trivial
  case h_2 claims sessionId =>
      cases h
      exact .revoke claims sessionId hrequest
  case h_3 =>
      cases h
      exact .move s.loginAttempts _ _ hrequest trivial
  case h_4 => cases h

theorem effect_checkToken {route : TokenRoute} {headers : Headers} {phase : AuthPhase jwt}
    (hrequest : s.requests[i]? = some ⟨.checkToken route headers, phase⟩)
    (h : s.checkToken i route.check headers phase = some t) : Effect s (.advance i) t := by
  unfold checkToken at h
  split at h
  case h_1 =>
      cases h
      refine .move s.loginAttempts s.auditTrail _ hrequest ?_
      split
      case h_1 token htoken =>
          split
          case h_1 claims hclaims =>
              split
              case h_1 sessionId hsession =>
                  refine ⟨hsession, fun route' headers' heq ↦ ?_⟩
                  obtain ⟨-, rfl⟩ := AuthCall.checkToken.inj heq
                  exact ⟨token, s.now, htoken, hclaims⟩
              case h_2 => trivial
          case h_2 => trivial
      case h_2 => trivial
  case h_2 =>
      cases h
      refine .move s.loginAttempts s.auditTrail _ hrequest ?_
      split <;> trivial
  case h_3 => cases h

theorem effect_issueToken {sessionId : String} (h : s.issueToken i sessionId = some t) :
    Effect s (.issueToken i sessionId) t := by
  obtain ⟨request, hrequest, hissue⟩ := Option.bind_eq_some_iff.mp h
  split at hissue
  case h_1 =>
      split at hissue
      case h_1 =>
          cases hissue
          exact .issue _ _ rfl hrequest
      case h_2 =>
          cases hissue
          exact .move _ s.auditTrail _ hrequest trivial
  case h_2 => cases hissue

/-- **Inversion of a step.** -/
theorem effect_of_step {label : Label} (h : step verifyPassword s label = some t) :
    Effect s label t := by
  cases label with
  | tick now =>
      simp only [step] at h
      split at h
      case isTrue =>
          cases h
          exact .tick now
      case isFalse => cases h
  | setUsers users =>
      cases h
      exact .setUsers users
  | arrive call =>
      cases h
      exact .arrive call
  | advance i =>
      obtain ⟨⟨call, phase⟩, hrequest, hadvance⟩ := Option.bind_eq_some_iff.mp h
      cases call with
      | login req => exact effect_login hrequest hadvance
      | logout headers => exact effect_logout hrequest hadvance
      | checkToken route headers => exact effect_checkToken hrequest hadvance
  | failQuery i =>
      obtain ⟨request, hrequest, hfail⟩ := Option.bind_eq_some_iff.mp h
      split at hfail
      case h_1 =>
          cases hfail
          exact .move s.loginAttempts s.auditTrail _ hrequest trivial
      case h_2 => cases hfail
  | issueToken i sessionId => exact effect_issueToken h
  | cancel i =>
      obtain ⟨request, hrequest, hcancel⟩ := Option.bind_eq_some_iff.mp h
      split at hcancel
      case h_1 => cases hcancel
      case h_2 =>
          cases hcancel
          exact .move s.loginAttempts s.auditTrail _ hrequest trivial

/-! ## The invariant -/

/-- **Sessions.** The session store is what the history says, every session belongs to a token of
this process, and no two tokens share a session id. -/
structure Tracked (foreign : String → Prop) (s : AuthRuntime jwt) : Prop where
  sessions : s.sessions = EventMap.after SessionEvent.sessionId SessionEvent.entry s.history
  loggedIn : ∀ issued, .loggedIn issued ∈ s.history → issued ∈ s.signed
  unique : ∀ issued ∈ s.signed, ∀ other ∈ s.signed,
    issued.sessionId = other.sessionId → issued = other
  fresh : ∀ issued ∈ s.signed, ¬foreign issued.sessionId
  presented : ∀ (i : ℕ) request, s.requests[i]? = some request → ∀ token,
    request.call.token = some token → s.Unforgeable foreign token
  phase : ∀ (i : ℕ) request, s.requests[i]? = some request → s.PhaseOk request.call request.phase

theorem Unforgeable.mono (hsigned : s.signed ⊆ t.signed) {token : String}
    (h : s.Unforgeable foreign token) : t.Unforgeable foreign token := by
  intro now claims hclaims
  rcases h now claims hclaims with ⟨issued, hmem, htoken⟩ | hother
  · exact .inl ⟨issued, hsigned hmem, htoken⟩
  · exact .inr hother

theorem PhaseOk.mono (hsigned : s.signed ⊆ t.signed) {call : AuthCall} {phase : AuthPhase jwt}
    (h : s.PhaseOk call phase) : t.PhaseOk call phase := by
  cases phase with
  | registering issued => exact hsigned h
  | _ => exact h

theorem Tracked.setPhase (h : s.Tracked foreign) (hrequest : s.requests[i]? = some request)
    {phase : AuthPhase jwt} (hphase : s.PhaseOk request.call phase) :
    (s.setPhase i phase).Tracked foreign := by
  refine { h with presented := ?_, phase := ?_ }
  · exact ListUpdate.forall_modify (fun j request' _ ↦ h.presented j request')
      fun request' hrequest' ↦ h.presented i request' hrequest'
  · refine ListUpdate.forall_modify (fun j request' _ ↦ h.phase j request')
      fun request' hrequest' ↦ ?_
    obtain rfl := Option.some.inj (hrequest.symm.trans hrequest')
    exact hphase

theorem Tracked.arrive (h : s.Tracked foreign) {call : AuthCall}
    (hcall : ∀ token, call.token = some token → s.Unforgeable foreign token) :
    Tracked foreign { s with requests := s.requests ++ [⟨call, .ready⟩] } := by
  exact
    { h with
      presented := ListUpdate.forall_append_singleton h.presented hcall
      phase := ListUpdate.forall_append_singleton h.phase trivial }

/-- A token with a session id that has not been drawn before. -/
theorem Tracked.sign (h : s.Tracked foreign) {issued : IssuedToken jwt}
    (hforeign : ¬foreign issued.sessionId)
    (hfresh : ∀ other ∈ s.signed, other.sessionId ≠ issued.sessionId) :
    Tracked foreign { s with signed := s.signed ++ [issued] } where
  sessions := h.sessions
  loggedIn := fun other hmem ↦ List.mem_append_left _ (h.loggedIn other hmem)
  unique := by
    intro first hfirst second hsecond heq
    rw [List.mem_append, List.mem_singleton] at hfirst hsecond
    rcases hfirst with hfirst | rfl
    · rcases hsecond with hsecond | rfl
      · exact h.unique first hfirst second hsecond heq
      · exact absurd heq (hfresh first hfirst)
    · rcases hsecond with hsecond | rfl
      · exact absurd heq.symm (hfresh second hsecond)
      · rfl
  fresh := by
    intro other hmem
    rcases List.mem_append.mp hmem with hold | hnew
    · exact h.fresh other hold
    · rwa [List.mem_singleton.mp hnew]
  presented := fun j request hj token htoken ↦
    (h.presented j request hj token htoken).mono (List.subset_append_left _ _)
  phase := fun j request hj ↦ (h.phase j request hj).mono (List.subset_append_left _ _)

theorem Tracked.registerSession (h : s.Tracked foreign) {issued : IssuedToken jwt}
    (hmem : issued ∈ s.signed) : (s.registerSession issued).Tracked foreign := by
  refine { h with sessions := ?_, loggedIn := ?_ }
  · calc (s.registerSession issued).sessions
      _ = Function.update s.sessions issued.sessionId
            (some (issued.userId, timestamp issued.expiresAt)) := rfl
      _ = EventMap.after SessionEvent.sessionId SessionEvent.entry
            (s.history ++ [.loggedIn issued]) := by
          rw [EventMap.after_append_singleton, ← h.sessions]
          rfl
  · intro other hother
    rcases List.mem_append.mp hother with hold | hnew
    · exact h.loggedIn other hold
    · obtain rfl := SessionEvent.loggedIn.inj (List.mem_singleton.mp hnew)
      exact hmem

theorem Tracked.revokeSession (h : s.Tracked foreign) (sessionId : String) :
    (s.revokeSession sessionId).Tracked foreign := by
  refine { h with sessions := ?_, loggedIn := ?_ }
  · calc (s.revokeSession sessionId).sessions
      _ = Function.update s.sessions sessionId none := rfl
      _ = EventMap.after SessionEvent.sessionId SessionEvent.entry
            (s.history ++ [.loggedOut sessionId]) := by
          rw [EventMap.after_append_singleton, ← h.sessions]
          rfl
  · intro other hother
    rcases List.mem_append.mp hother with hold | hnew
    · exact h.loggedIn other hold
    · cases List.mem_singleton.mp hnew

/-- **Step lemma.** -/
theorem tracked_effect {label : Label} (hassumed : s.Assumed foreign label)
    (h : s.Tracked foreign) (heffect : Effect s label t) : t.Tracked foreign := by
  cases heffect with
  | tick now => exact { h with }
  | setUsers users => exact { h with }
  | arrive call => exact h.arrive hassumed
  | move attempts trail phase hrequest hphase =>
      have hsame : Tracked foreign { s with loginAttempts := attempts, auditTrail := trail } :=
        { h with }
      exact hsame.setPhase hrequest hphase
  | issue attempts issued hsession hrequest =>
      subst hsession
      have hsigned := h.sign hassumed.1 hassumed.2
      have hsame : Tracked foreign
          { s with loginAttempts := attempts, signed := s.signed ++ [issued] } := { hsigned with }
      exact hsame.setPhase hrequest (List.mem_append_right _ (List.mem_singleton_self issued))
  | @register _ i call issued hrequest =>
      exact (h.registerSession (h.phase i _ hrequest)).setPhase hrequest trivial
  | revoke claims sessionId hrequest =>
      exact (h.revokeSession sessionId).setPhase hrequest trivial

/-! ## Open sessions -/

/-- The token was issued by a login, and its session has not been revoked since. -/
def SessionOpen (s : AuthRuntime jwt) (issued : IssuedToken jwt) : Prop :=
  ∃ earlier later, s.history = earlier ++ .loggedIn issued :: later ∧
    .loggedOut issued.sessionId ∉ later

theorem SessionOpen.mem_signed {issued : IssuedToken jwt} (hopen : s.SessionOpen issued)
    (h : s.Tracked foreign) : issued ∈ s.signed := by
  obtain ⟨earlier, later, hsplit, -⟩ := hopen
  apply h.loggedIn
  rw [hsplit]
  exact List.mem_append_right _ List.mem_cons_self

/-- A session is open exactly when a login is the last event on it. -/
theorem lastOn_history_iff (h : s.Tracked foreign) {issued : IssuedToken jwt} {sessionId : String} :
    EventMap.lastOn SessionEvent.sessionId s.history sessionId = some (.loggedIn issued) ↔
      s.SessionOpen issued ∧ issued.sessionId = sessionId := by
  constructor
  · intro hlast
    obtain ⟨earlier, later, hsplit, rfl, hlater⟩ := EventMap.lastOn_eq_some_iff.mp hlast
    exact ⟨⟨earlier, later, hsplit, fun hmem ↦ hlater _ hmem rfl⟩, rfl⟩
  · rintro ⟨hopen, rfl⟩
    have hmem := hopen.mem_signed h
    obtain ⟨earlier, later, hsplit, hlater⟩ := hopen
    have hexists : ∃ last,
        EventMap.lastOn SessionEvent.sessionId s.history issued.sessionId = some last ∧
          (last = .loggedIn issued ∨ last ∈ later) := EventMap.exists_lastOn hsplit
    obtain ⟨last, hlast, hcases⟩ := hexists
    have hkey : last.sessionId = issued.sessionId := EventMap.key_of_lastOn hlast
    refine hlast.trans (congrArg some ?_)
    rcases hcases with rfl | hlast'
    · rfl
    · cases last with
      | loggedIn other =>
          have hother : other ∈ s.signed := by
            apply h.loggedIn
            rw [hsplit]
            exact List.mem_append_right _ (List.mem_cons_of_mem _ hlast')
          rw [h.unique other hother issued hmem hkey]
      | loggedOut sessionId =>
          obtain rfl : sessionId = issued.sessionId := hkey
          exact absurd hlast' hlater

theorem isSessionValid_iff (h : s.Tracked foreign) (sessionId : String) :
    isSessionValid s.sessions sessionId s.now ↔ ∃ issued, s.SessionOpen issued ∧
      issued.sessionId = sessionId ∧ s.now < issued.claims.exp * nanosPerSecond := by
  have hexp (issued : IssuedToken jwt) : timestamp s.now < timestamp issued.expiresAt ↔
      s.now < issued.claims.exp * nanosPerSecond := by
    rw [IssuedToken.claims_exp]
    exact Nat.div_lt_iff_lt_mul (by decide)
  rw [isSessionValid, h.sessions, EventMap.after]
  cases hlast : EventMap.lastOn SessionEvent.sessionId s.history sessionId with
  | none =>
      simp only [Option.bind_none, Bool.false_eq_true, false_iff]
      rintro ⟨issued, hopen, hsession, -⟩
      rw [(lastOn_history_iff h).mpr ⟨hopen, hsession⟩] at hlast
      cases hlast
  | some last =>
      cases last with
      | loggedIn issued =>
          obtain ⟨hopen, hsession⟩ := (lastOn_history_iff h).mp hlast
          simp only [Option.bind_some, SessionEvent.entry, decide_eq_true_eq, hexp]
          constructor
          · intro hnow
            exact ⟨issued, hopen, hsession, hnow⟩
          · rintro ⟨other, hopen', hsession', hnow⟩
            rwa [h.unique issued (hopen.mem_signed h) other (hopen'.mem_signed h)
              (hsession.trans hsession'.symm)]
      | loggedOut sessionId' =>
          simp only [Option.bind_some, SessionEvent.entry, Bool.false_eq_true, false_iff]
          rintro ⟨issued, hopen, hsession, -⟩
          rw [(lastOn_history_iff h).mpr ⟨hopen, hsession⟩] at hlast
          cases hlast

/-! ## Decisions -/

/-- The claims that a token validates to are those of the `create_token` call that made it. -/
theorem Unforgeable.claims (hjwt : jwt.Lawful) {token : String} (h : s.Unforgeable foreign token)
    {now : Instant} {claims : Claims} (hclaims : validateToken jwt now token = .ok claims) :
    ∃ issued : IssuedToken jwt, issued.token = token ∧ issued.claims = claims ∧
      (issued ∈ s.signed ∨ foreign issued.sessionId) := by
  rcases h now claims hclaims with ⟨issued, hmem, rfl⟩ | ⟨other, rfl, hforeign⟩
  · exact ⟨issued, rfl, ((issued.validateToken_iff hjwt).mp hclaims).1.symm, .inl hmem⟩
  · exact ⟨other, rfl, ((other.validateToken_iff hjwt).mp hclaims).1.symm, .inr hforeign⟩

theorem tracked_init (foreign : String → Prop) (now : Instant) (users : UserTable)
    (auditTrail : AuditTable) : (init jwt now users auditTrail).Tracked foreign where
  sessions := rfl
  loggedIn := fun _ h ↦ by cases h
  unique := fun _ h ↦ by cases h
  fresh := fun _ h ↦ by cases h
  presented := fun _ _ h ↦ by cases h
  phase := fun _ _ h ↦ by cases h

variable {now : Instant} {users : UserTable} {auditTrail : AuditTable} {labels : List Label}
  {route : TokenRoute} {headers : Headers} {phase : AuthPhase jwt} {outcome : AuthOutcome}

/-- The operator of a fresh installation. -/
def operator : User where
  id := "user-2"
  username := "operator"
  passwordHash := "argon2:operator123"
  role := "operator"
  createdAt := 0
  isActive := true

def operatorTable : UserTable := ⟨[operator], List.nodup_singleton _, List.nodup_singleton _⟩

/-- A password matches the hash made of it. -/
def verifyHash (password hash : String) : Bool := hash == "argon2:" ++ password

/-- The claims of the operator who logs in when the clock starts. -/
def firstClaims : Claims := newClaims 0 "session-1" "user-2" "operator" "operator"

/-- Signing as far as the operator's first login needs it. -/
def firstJwt : Jwt where
  encode := fun claims ↦
    if claims = firstClaims then .ok "header.claims.signature" else .error "InvalidKeyFormat"
  decode := fun now token ↦
    if token = "header.claims.signature" then
      if timestamp now ≤ firstClaims.exp + leeway then .ok firstClaims
      else .error "ExpiredSignature"
    else .error "InvalidToken"

def bearerHeaders (token : String) : Headers where
  authorization := some (("Bearer " ++ token).toList.map fun c ↦ c.toNat.toUInt8)

/-- Tokens are presented after they have been signed, and session ids are drawn once. -/
def presentsSigned (s : AuthRuntime jwt) : Label → Bool
  | .arrive call => call.token.all fun token ↦ s.signed.any fun issued ↦ issued.token == token
  | .issueToken _ sessionId => s.signed.all fun issued ↦ issued.sessionId != sessionId
  | _ => true

theorem assumed_of_presentsSigned {label : Label} (h : s.presentsSigned label) :
    s.Assumed (fun _ ↦ False) label := by
  cases label with
  | arrive call =>
      intro token htoken now claims hclaims
      have hsigned := (Option.all_eq_true _ _).mp h token htoken
      exact .inl (by simpa using hsigned)
  | issueToken request sessionId => exact ⟨id, by simpa [presentsSigned] using h⟩
  | _ => trivial

end AuthRuntime

end VyuhHmi
