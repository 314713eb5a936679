import VyuhHmi.Alarm.Store
import VyuhHmi.Auth.Sessions
import VyuhHmi.Device.Sequential

/-!
# The operator and admin routes

The handlers behind `require_operator` and `require_admin`, each run from the arrival of its request
to its answer.  What a handler gets from outside is part of the request: the bytes of its body as
the parser sees them, a fresh user id, a password hash, the errors of the database.
-/

namespace VyuhHmi

/-- A request body, as a handler that parses it sees it. -/
inductive Body (Req : Type)
  | unreadable
  | invalid (error : String)
  | parsed (req : Req)
deriving DecidableEq

/-- The requests of the operator and the admin routes.  `readOnly` stands for network discovery,
browsing and the list of users, of which only the success is kept. -/
inductive ServerCall
  | addDevice (req : AddDeviceRequest)
  | removeDevice (deviceId : String)
  | connectDevice (deviceId : String)
  | disconnectDevice (deviceId : String)
  | postWrite (body : Body WriteRequest) (polls : List (ℕ × DeviceRuntime.TaskEvent))
  | ackAlarm (alarmId : ℤ) (body : Body AckAlarmRequest) (failure : Option DbFailure)
  | shelveAlarm (alarmId : ℤ) (body : Body ShelveAlarmRequest) (failure : Option DbFailure)
  | createUser (body : Body CreateUserRequest) (userId : String) (hash : Except String String)
      (failure : Option String)
  | readOnly (success : Bool)

/-- The requests to the device registry that carry no claims. -/
def ServerCall.device : ServerCall → Option DeviceCall
  | .addDevice req => some (.addDevice req)
  | .removeDevice deviceId => some (.removeDevice deviceId)
  | .connectDevice deviceId => some (.connectDevice deviceId)
  | .disconnectDevice deviceId => some (.disconnectDevice deviceId)
  | _ => none

/-- An answer.  A handler of `routes.rs` that panics gives none. -/
inductive Answer
  | routes (response : Option Response)
  | auth (reply : AuthReply)
  | readOnly (success : Bool)
deriving DecidableEq

abbrev Answer.text (body : ApiResponse String) : Answer := .routes (some (.text body))

def Answer.success : Answer → Bool
  | .routes response => response.any Response.success
  | .auth reply => reply.success
  | .readOnly success => success

/-- What the handlers work on.  The devices hold the audit trail. -/
structure ServerState where
  devices : DeviceRuntime
  alarms : AlarmTable
  users : UserTable

/-! ## Details of audit entries -/

/-- A character inside a JSON string, as `serde_json` writes it. -/
def jsonChar (c : Char) : String :=
  match c.toNat with
  | 34 => "\\\""
  | 92 => "\\\\"
  | 8 => "\\b"
  | 9 => "\\t"
  | 10 => "\\n"
  | 12 => "\\f"
  | 13 => "\\r"
  | n =>
      if n < 32 then "\\u00" ++ String.ofList [(n / 16).digitChar, (n % 16).digitChar]
      else String.singleton c

def jsonString (text : String) : String :=
  "\"" ++ String.join (text.toList.map jsonChar) ++ "\""

def createdDetails (username role : String) : String :=
  "\x7b\"created_user\":" ++ jsonString username ++ ",\"role\":" ++ jsonString role ++ "\x7d"

def ackDetails (alarmId : ℤ) : String := "Acknowledged alarm #" ++ toString alarmId

def shelveDetails (alarmId : ℤ) (minutes : ℕ) (reason : String) : String :=
  "Shelved alarm #" ++ toString alarmId ++ " for " ++ toString minutes ++ " min: " ++ reason

/-! ## Handlers -/

namespace ServerState

variable (socketAddr : String → Bool) (overflowChecks : Bool) (classes : CharClasses)

abbrev auditTrail (s : ServerState) : AuditTable := s.devices.auditTrail

/-- `log_audit` with the claims of a request. -/
def log (s : ServerState) (claims : Claims) (action : String) (deviceId : Option String)
    (details : String) (now : Instant) : ServerState :=
  { s with devices := { s.devices with
      auditTrail := logAudit s.auditTrail claims.userId claims.sub action deviceId details none
        now } }

/-- A request to the device registry. -/
def handleDevice (s : ServerState) (call : DeviceCall) (polls : List (ℕ × DeviceRuntime.TaskEvent))
    (now : Instant) : Option (ServerState × Answer) :=
  (s.devices.handleAlone socketAddr overflowChecks call now polls).bind fun devices ↦
    match devices.phaseOf s.devices.requests.length with
    | some (.done response) => some ({ s with devices := devices }, .routes response)
    | _ => none

/-- `POST /api/write`. -/
def postWrite (s : ServerState) (claims : Claims) (body : Body WriteRequest)
    (polls : List (ℕ × DeviceRuntime.TaskEvent)) (now : Instant) : Option (ServerState × Answer) :=
  match body with
  | .unreadable => some (s, .text (.fail "Invalid request body"))
  | .invalid e => some (s, .text (.fail ("Invalid JSON: " ++ e)))
  | .parsed req => s.handleDevice socketAddr overflowChecks (.postWrite claims req) polls now

/-- The comment of an acknowledgement; a body that does not parse carries none. -/
def ackComment : Body AckAlarmRequest → Option String
  | .parsed req => req.comment
  | _ => none

/-- `POST /api/alarms/:id/ack`. -/
def ackAlarm (s : ServerState) (claims : Claims) (alarmId : ℤ) (body : Body AckAlarmRequest)
    (failure : Option DbFailure) (now : Instant) : ServerState × Answer :=
  match attempt s.alarms (VyuhHmi.ackAlarm s.alarms alarmId claims.sub (ackComment body) now)
      "Failed to ack alarm" failure with
  | (alarms, .ok ()) =>
      ({ s with alarms := alarms }.log claims "alarm_ack" none (ackDetails alarmId) now,
        .text (.ok ("Alarm #" ++ toString alarmId ++ " acknowledged")))
  | (alarms, .error e) => ({ s with alarms := alarms }, .text (.fail e))

/-- What `serde_json` says of an empty body. -/
def emptyBodyError : String := "EOF while parsing a value at line 1 column 0"

/-- `POST /api/alarms/:id/shelve`. -/
def shelveAlarm (s : ServerState) (claims : Claims) (alarmId : ℤ) (body : Body ShelveAlarmRequest)
    (failure : Option DbFailure) (now : Instant) : ServerState × Answer :=
  match body with
  | .unreadable => (s, .text (.fail ("Invalid JSON: " ++ emptyBodyError)))
  | .invalid e => (s, .text (.fail ("Invalid JSON: " ++ e)))
  | .parsed req =>
      match attempt s.alarms
          (VyuhHmi.shelveAlarm s.alarms alarmId claims.sub req.durationMinutes now)
          "Failed to shelve alarm" failure with
      | (alarms, .ok ()) =>
          ({ s with alarms := alarms }.log claims "alarm_shelve" none
              (shelveDetails alarmId req.durationMinutes.toNat req.reason) now,
            .text (.ok ("Alarm #" ++ toString alarmId ++ " shelved for " ++
              toString req.durationMinutes.toNat ++ " minutes")))
      | (alarms, .error e) => ({ s with alarms := alarms }, .text (.fail e))

/-- The roles that a user can have. -/
def userRoles : List String := ["viewer", "operator", "admin"]

/-- What `create_user` says when its `INSERT` fails. -/
def insertError (username e : String) : String :=
  if "UNIQUE".toList <:+: e.toList then "Username '" ++ username ++ "' already exists"
  else "Failed to create user: " ++ e

/-- The row that `create_user` inserts. -/
def createdUser (req : CreateUserRequest) (userId hash : String) (now : Instant) : User where
  id := userId
  username := req.username
  passwordHash := hash
  role := req.role
  createdAt := now
  isActive := true

/-- `POST /api/users`. -/
def createUser (s : ServerState) (claims : Claims) (body : Body CreateUserRequest)
    (userId : String) (hash : Except String String) (failure : Option String) (now : Instant) :
    ServerState × Answer :=
  match body with
  | .unreadable => (s, .auth (.fail .badRequest "Invalid request body"))
  | .invalid e => (s, .auth (.fail .badRequest ("Invalid JSON: " ++ e)))
  | .parsed req =>
      if req.role ∉ userRoles then
        (s, .auth (.fail .badRequest "Role must be viewer, operator, or admin"))
      else
        match validatePasswordComplexity classes req.password, hash, failure with
        | .error msg, _, _ => (s, .auth (.fail .badRequest msg))
        | .ok (), .error e, _ => (s, .auth (.fail .internalServerError e))
        | .ok (), .ok _, some e => (s, .auth (.fail .conflict (insertError req.username e)))
        | .ok (), .ok hash, none =>
            if hfresh : s.users.conflicts (createdUser req userId hash now) = false then
              ({ s with users := s.users.insertFresh (createdUser req userId hash now) hfresh }.log
                  claims "create_user" none (createdDetails req.username req.role) now,
                .auth ⟨.created, true, some (.created ⟨userId, req.username, req.role⟩), none⟩)
            else (s, .auth (.fail .conflict ("Username '" ++ req.username ++ "' already exists")))

/-- The handler of a request. -/
def serve (s : ServerState) (claims : Claims) (call : ServerCall) (now : Instant) :
    Option (ServerState × Answer) :=
  match call with
  | .addDevice req => s.handleDevice socketAddr overflowChecks (.addDevice req) [] now
  | .removeDevice deviceId =>
      s.handleDevice socketAddr overflowChecks (.removeDevice deviceId) [] now
  | .connectDevice deviceId =>
      s.handleDevice socketAddr overflowChecks (.connectDevice deviceId) [] now
  | .disconnectDevice deviceId =>
      s.handleDevice socketAddr overflowChecks (.disconnectDevice deviceId) [] now
  | .postWrite body polls => s.postWrite socketAddr overflowChecks claims body polls now
  | .ackAlarm alarmId body failure => some (s.ackAlarm claims alarmId body failure now)
  | .shelveAlarm alarmId body failure => some (s.shelveAlarm claims alarmId body failure now)
  | .createUser body userId hash failure =>
      some (s.createUser classes claims body userId hash failure now)
  | .readOnly success => some (s, .readOnly success)

/-- A request whose token has been checked: the handler runs with the claims of the token, or the
check has answered. -/
def handle (s : ServerState) (checked : AuthOutcome) (call : ServerCall) (now : Instant) :
    Option (ServerState × Answer) :=
  match checked with
  | .passed claims => s.serve socketAddr overflowChecks classes claims call now
  | .replied reply => some (s, .auth reply)
  | .dropped => none

end ServerState

end VyuhHmi
