import Mathlib.Tactic.Simps.Basic
import VyuhHmi.Audit.Trail
import VyuhHmi.Auth.Throttle
import VyuhHmi.Auth.Tokens
import VyuhHmi.Auth.Users
import VyuhHmi.Foundation.Transition

/-!
# Logins, logouts and token checks

The handlers of `auth.rs` that work on the session store, from one suspension point to the next.
Requests are interleaved in any order, time passes between any two steps and the users table may
change at any time.
-/

namespace VyuhHmi

structure UserInfo where
  id : String
  username : String
  role : String
deriving DecidableEq

/-- The `data` of a successful answer. -/
inductive ReplyData
  | login (token : String) (user : UserInfo) (expiresAt : Instant)
  | verified (userId username role : String)
  | created (user : UserInfo)
deriving DecidableEq

/-- An answer of the authentication handlers. -/
structure AuthReply where
  status : StatusCode
  success : Bool
  data : Option ReplyData
  error : Option String
deriving DecidableEq

def AuthReply.ok (data : Option ReplyData) : AuthReply := ⟨.ok, true, data, none⟩

def AuthReply.fail (status : StatusCode) (error : String) : AuthReply :=
  ⟨status, false, none, some error⟩

/-- How a request ends: it is passed on to the protected handler with the claims of its token, it is
answered, or its client has gone away. -/
inductive AuthOutcome
  | passed (claims : Claims)
  | replied (reply : AuthReply)
  | dropped
deriving DecidableEq

def AuthOutcome.isAccepted : AuthOutcome → Bool
  | .passed _ => true
  | .replied reply => reply.success
  | .dropped => false

/-! ## Token checks -/

/-- Active sessions: the user and the expiry, in seconds, of each session id. -/
abbrev SessionStore := String → Option (String × ℕ)

/-- Check if a session is still valid (not revoked). -/
def isSessionValid (sessions : SessionStore) (sessionId : String) (now : Instant) : Bool :=
  match sessions sessionId with
  | some (_, expires) => timestamp now < expires
  | none => false

/-- A check of a request's token: its error texts, the role it requires and what it does with a
token that it accepts. -/
structure TokenCheck where
  missing : String
  revoked : String
  required : Option (Role × String)
  accept : Claims → AuthOutcome

/-- Auth middleware: any valid token. -/
def authMiddleware : TokenCheck where
  missing := "Missing Authorization header"
  revoked := "Session expired or revoked"
  required := none
  accept := .passed

/-- Require at least Operator role. -/
def requireOperator : TokenCheck where
  missing := "Missing Authorization header"
  revoked := "Session expired or revoked"
  required := some (.operator, "Operator or Admin role required")
  accept := .passed

/-- Require Admin role. -/
def requireAdmin : TokenCheck where
  missing := "Missing Authorization header"
  revoked := "Session expired or revoked"
  required := some (.admin, "Admin role required")
  accept := .passed

/-- Check if token is still valid. -/
def verifyTokenHandler : TokenCheck where
  missing := "Missing token"
  revoked := "Session revoked"
  required := none
  accept := fun claims ↦ .replied (.ok (some (.verified claims.userId claims.sub claims.role)))

inductive TokenRoute
  | authMiddleware | requireOperator | requireAdmin | verifyTokenHandler
deriving DecidableEq

def TokenRoute.check : TokenRoute → TokenCheck
  | .authMiddleware => VyuhHmi.authMiddleware
  | .requireOperator => VyuhHmi.requireOperator
  | .requireAdmin => VyuhHmi.requireAdmin
  | .verifyTokenHandler => VyuhHmi.verifyTokenHandler

/-- The role check. -/
def TokenCheck.authorise (check : TokenCheck) (claims : Claims) : AuthOutcome :=
  match check.required with
  | some (role, error) =>
      if (Role.fromStr claims.role).hasPermission role then check.accept claims
      else .replied (.fail .forbidden error)
  | none => check.accept claims

/-! ## Requests -/

structure LoginRequest where
  username : String
  password : String
deriving DecidableEq

inductive AuthCall
  | login (req : LoginRequest)
  | logout (headers : Headers)
  | checkToken (route : TokenRoute) (headers : Headers)
deriving DecidableEq

/-- The token that a request presents. -/
def AuthCall.token : AuthCall → Option String
  | .login _ => none
  | .logout headers => extractToken headers
  | .checkToken _ headers => extractToken headers

/-- Where a handler is suspended, with the variables it keeps. -/
inductive AuthPhase (jwt : Jwt)
  | ready
  | lookingUp
  | recordingFailure
  | clearing (user : User)
  | registering (issued : IssuedToken jwt)
  | auditingLogin (issued : IssuedToken jwt)
  | checking (claims : Claims) (sessionId : String)
  | revoking (claims : Claims) (sessionId : String)
  | auditingLogout (claims : Claims)
  | done (outcome : AuthOutcome)

/-- Answer a request. -/
abbrev AuthPhase.reply {jwt : Jwt} (reply : AuthReply) : AuthPhase jwt := .done (.replied reply)

def AuthPhase.outcome {jwt : Jwt} : AuthPhase jwt → Option AuthOutcome
  | .done outcome => some outcome
  | _ => none

structure AuthRequest (jwt : Jwt) where
  call : AuthCall
  phase : AuthPhase jwt

/-- A change of the session store. -/
inductive SessionEvent (jwt : Jwt)
  | loggedIn (issued : IssuedToken jwt)
  | loggedOut (sessionId : String)

/-- The server's users, sessions and requests.  `signed` and `history` are history: the tokens that
have been created, and the changes of the session store. -/
structure AuthRuntime (jwt : Jwt) where
  now : Instant
  users : UserTable
  loginAttempts : LoginAttempts
  sessions : SessionStore
  auditTrail : AuditTable
  requests : List (AuthRequest jwt)
  signed : List (IssuedToken jwt)
  history : List (SessionEvent jwt)

namespace AuthRuntime

variable {jwt : Jwt}

/-- A server that has just started. -/
def init (jwt : Jwt) (now : Instant) (users : UserTable) (auditTrail : AuditTable) :
    AuthRuntime jwt where
  now := now
  users := users
  loginAttempts := fun _ ↦ none
  sessions := fun _ ↦ none
  auditTrail := auditTrail
  requests := []
  signed := []
  history := []

section Handlers

variable (s : AuthRuntime jwt) (request : ℕ)

@[simps]
def setPhase (phase : AuthPhase jwt) : AuthRuntime jwt :=
  { s with requests := s.requests.modify request fun r ↦ { r with phase := phase } }

/-- Register a new session. -/
@[simps]
def registerSession (issued : IssuedToken jwt) : AuthRuntime jwt :=
  { s with
    sessions := Function.update s.sessions issued.sessionId
      (some (issued.userId, timestamp issued.expiresAt))
    history := s.history ++ [.loggedIn issued] }

/-- Revoke a session. -/
@[simps]
def revokeSession (sessionId : String) : AuthRuntime jwt :=
  { s with
    sessions := Function.update s.sessions sessionId none
    history := s.history ++ [.loggedOut sessionId] }

@[simps]
def logAuth (userId username action : String) : AuthRuntime jwt :=
  { s with
    auditTrail := logAudit s.auditTrail userId username action none "\x7b\x7d" none s.now }

@[simps]
def setAttempts (attempts : LoginAttempts) : AuthRuntime jwt :=
  { s with loginAttempts := attempts }

/-- Log in, up to the creation of the token and from there on. -/
def login (verifyPassword : String → String → Bool) (req : LoginRequest) :
    AuthPhase jwt → Option (AuthRuntime jwt)
  | .ready =>
      let throttled := checkLoginThrottle s.loginAttempts req.username s.now
      some ((s.setAttempts throttled.1).setPhase request
        (match throttled.2 with
          | .error msg => .reply (.fail .tooManyRequests msg)
          | .ok () => .lookingUp))
  | .lookingUp =>
      some (s.setPhase request
        (match s.users.byUsername req.username with
          | some user =>
              if user.isActive then
                if verifyPassword req.password user.passwordHash then .clearing user
                else .recordingFailure
              else .reply (.fail .forbidden "Account disabled")
          | none => .recordingFailure))
  | .recordingFailure =>
      some ((s.setAttempts (recordFailedLogin s.loginAttempts req.username s.now)).setPhase request
        (.reply (.fail .unauthorized "Invalid credentials")))
  | .registering issued =>
      some ((s.registerSession issued).setPhase request (.auditingLogin issued))
  | .auditingLogin issued =>
      some ((s.logAuth issued.userId issued.username "login").setPhase request
        (.reply (.ok (some (.login issued.token ⟨issued.userId, issued.username, issued.role⟩
          issued.expiresAt)))))
  | _ => none

/-- The users table cannot be read. -/
def failQuery : Option (AuthRuntime jwt) :=
  s.requests[request]?.bind fun r ↦
    match r.call, r.phase with
    | .login _, .lookingUp =>
        some (s.setPhase request (.reply (.fail .internalServerError "Internal server error")))
    | _, _ => none

/-- Clear the failed attempts and create the token, with a session id just drawn. -/
def issueToken (sessionId : String) : Option (AuthRuntime jwt) :=
  s.requests[request]?.bind fun r ↦
    match r.call, r.phase with
    | .login req, .clearing user =>
        let cleared := s.setAttempts (clearFailedLogin s.loginAttempts req.username)
        match h : createToken jwt s.now sessionId user.id user.username user.role with
        | .ok (token, expiresAt, sessionId') =>
            have created := by
              rw [(createToken_eq_ok_iff.mp h).2.2] at h
              exact h
            let issued : IssuedToken jwt :=
              ⟨s.now, user.id, user.username, user.role, sessionId, token, expiresAt, created⟩
            some ({ cleared with signed := s.signed ++ [issued] }.setPhase request
              (.registering issued))
        | .error e => some (cleared.setPhase request (.reply (.fail .internalServerError e)))
    | _, _ => none

/-- Revoke current session. -/
def logout (headers : Headers) : AuthPhase jwt → Option (AuthRuntime jwt)
  | .ready =>
      some (s.setPhase request
        (match extractToken headers with
          | some token =>
              match validateToken jwt s.now token with
              | .ok claims =>
                  match claims.sessionId with
                  | some sessionId => .revoking claims sessionId
                  | none => .auditingLogout claims
              | .error _ => .reply (.ok none)
          | none => .reply (.fail .unauthorized "Missing token")))
  | .revoking claims sessionId =>
      some ((s.revokeSession sessionId).setPhase request (.auditingLogout claims))
  | .auditingLogout claims =>
      some ((s.logAuth claims.userId claims.sub "logout").setPhase request (.reply (.ok none)))
  | _ => none

/-- Check a token: first its signature and expiry, then its session. -/
def checkToken (check : TokenCheck) (headers : Headers) :
    AuthPhase jwt → Option (AuthRuntime jwt)
  | .ready =>
      some (s.setPhase request
        (match extractToken headers with
          | some token =>
              match validateToken jwt s.now token with
              | .ok claims =>
                  match claims.sessionId with
                  | some sessionId => .checking claims sessionId
                  | none => .done (check.authorise claims)
              | .error e => .reply (.fail .unauthorized e)
          | none => .reply (.fail .unauthorized check.missing)))
  | .checking claims sessionId =>
      some (s.setPhase request
        (if isSessionValid s.sessions sessionId s.now then .done (check.authorise claims)
        else .reply (.fail .unauthorized check.revoked)))
  | _ => none

/-- Run a handler to its next suspension point. -/
def advance (verifyPassword : String → String → Bool) : Option (AuthRuntime jwt) :=
  s.requests[request]?.bind fun r ↦
    match r.call with
    | .login req => s.login request verifyPassword req r.phase
    | .logout headers => s.logout request headers r.phase
    | .checkToken route headers => s.checkToken request route.check headers r.phase

/-- The client goes away. -/
def cancel : Option (AuthRuntime jwt) :=
  s.requests[request]?.bind fun r ↦
    match r.phase with
    | .done _ => none
    | _ => some (s.setPhase request (.done .dropped))

end Handlers

/-! ## The system -/

/-- One step of the server or its environment. -/
inductive Label
  | tick (now : Instant)
  | setUsers (users : UserTable)
  | arrive (call : AuthCall)
  | advance (request : ℕ)
  | failQuery (request : ℕ)
  | issueToken (request : ℕ) (sessionId : String)
  | cancel (request : ℕ)

def step (verifyPassword : String → String → Bool) (s : AuthRuntime jwt) :
    Label → Option (AuthRuntime jwt)
  | .tick now => if s.now ≤ now then some { s with now := now } else none
  | .setUsers users => some { s with users := users }
  | .arrive call => some { s with requests := s.requests ++ [⟨call, .ready⟩] }
  | .advance request => s.advance request verifyPassword
  | .failQuery request => s.failQuery request
  | .issueToken request sessionId => s.issueToken request sessionId
  | .cancel request => s.cancel request

end AuthRuntime

end VyuhHmi
