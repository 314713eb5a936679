import VyuhHmi.Auth.LoginAlone
import VyuhHmi.Server.Routes

/-!
# Electronic signatures

`electronic_signature` verifies the password of an active account, like a login, but it neither asks
the throttle nor counts a failure.
-/

namespace VyuhHmi

structure EsigRequest where
  username : String
  password : String
  reason : String
deriving DecidableEq

/-- The `data` of a verified signature. -/
structure EsigData where
  verified : Bool
  userId : String
  username : String
  role : String
  reason : String
deriving DecidableEq

inductive EsigReply
  | ok (data : EsigData)
  | fail (status : StatusCode) (error : String)
deriving DecidableEq

/-- One request for a signature, with what it meets: the users table or a failing query, whether
`log_audit` can write its entry, and the time. -/
structure EsigArrival where
  req : EsigRequest
  users : UserTable
  queryFails : Bool
  written : Bool
  receivedAt : Instant

/-- `SELECT ... FROM users WHERE username = ? AND is_active = 1`. -/
def UserTable.activeByUsername (users : UserTable) (username : String) : Option User :=
  users.rows.find? fun user ↦ user.username == username && user.isActive

/-- The account that the request names, if it is active and the database answers. -/
def EsigArrival.account (esig : EsigArrival) : Option User :=
  if esig.queryFails then none else esig.users.activeByUsername esig.req.username

def esigDetails (reason : String) : String := "\x7b\"reason\":" ++ jsonString reason ++ "\x7d"

/-- The audit trail after a request, its answer, and the verdict on a password, if one was
verified. -/
structure EsigResult where
  auditTrail : AuditTable
  reply : EsigReply
  verdict : Option Bool

/-- POST /api/auth/esig — re-authenticate for critical actions.  `log_audit` ignores a failure of its
`INSERT`. -/
def electronicSignature (verifyPassword : String → String → Bool) (auditTrail : AuditTable)
    (esig : EsigArrival) : EsigResult :=
  if esig.queryFails then
    ⟨auditTrail, .fail .internalServerError "Internal server error", none⟩
  else
    match esig.users.activeByUsername esig.req.username with
    | none => ⟨auditTrail, .fail .unauthorized "Invalid credentials", none⟩
    | some user =>
        if !verifyPassword esig.req.password user.passwordHash then
          ⟨auditTrail, .fail .unauthorized "Invalid credentials", some false⟩
        else
          ⟨if esig.written then
              logAudit auditTrail user.id user.username "electronic_signature" none
                (esigDetails esig.req.reason) none esig.receivedAt
            else auditTrail,
            .ok ⟨true, user.id, user.username, user.role, esig.req.reason⟩, some true⟩

/-! ## Both endpoints -/

/-- A request that may verify a password. -/
inductive PasswordRequest
  | login (login : LoginArrival)
  | esig (esig : EsigArrival)

/-- The login attempts, the audit trail, and, as history, the wrong passwords tested on each
username since its attempts were last reset. -/
structure PasswordServer where
  attempts : LoginAttempts
  auditTrail : AuditTable
  wrong : String → ℕ

/-- What a login means for the passwords tested on its username. -/
def loginEvents (verifyPassword : String → String → Bool) (attempts : LoginAttempts)
    (login : LoginArrival) : List LoginEvent :=
  let username := login.req.username
  (if lockoutExpired attempts username login.checkedAt then [.reset username] else []) ++
    match (handleLogin verifyPassword attempts login).verdict with
    | none => []
    | some false => [.verified username false]
    | some true => [.verified username true, .reset username]

namespace PasswordServer

def init (auditTrail : AuditTable) : PasswordServer := ⟨fun _ ↦ none, auditTrail, fun _ ↦ 0⟩

/-- One request, from its arrival to its answer.  A signature has no access to the attempts. -/
def serve (verifyPassword : String → String → Bool) (server : PasswordServer) :
    PasswordRequest → PasswordServer
  | .login login =>
      { server with
        attempts := (handleLogin verifyPassword server.attempts login).attempts
        wrong := (loginEvents verifyPassword server.attempts login).foldl
          (fun wrong event ↦ failuresAfter wrong (some event)) server.wrong }
  | .esig esig =>
      let result := electronicSignature verifyPassword server.auditTrail esig
      { server with
        auditTrail := result.auditTrail
        wrong := failuresAfter server.wrong
          (result.verdict.map fun success ↦ .verified esig.req.username success) }

def run (verifyPassword : String → String → Bool) (auditTrail : AuditTable)
    (requests : List PasswordRequest) : PasswordServer :=
  requests.foldl (serve verifyPassword) (init auditTrail)

theorem run_append_singleton (verifyPassword : String → String → Bool) (auditTrail : AuditTable)
    (requests : List PasswordRequest) (request : PasswordRequest) :
    run verifyPassword auditTrail (requests ++ [request]) =
      (run verifyPassword auditTrail requests).serve verifyPassword request := by
  simp [run]

end PasswordServer

/-- Signatures are throttled as logins are. -/
structure SharesThrottle (verifyPassword : String → String → Bool) (auditTrail : AuditTable)
    (requests : List PasswordRequest) : Prop where
  /-- While a login of the username would be refused, no password is verified for it. -/
  refused : ∀ before esig, before ++ [.esig esig] <+: requests →
    (∃ msg, (checkLoginThrottle (PasswordServer.run verifyPassword auditTrail before).attempts
      esig.req.username esig.receivedAt).2 = .error msg) →
    (electronicSignature verifyPassword
      (PasswordServer.run verifyPassword auditTrail before).auditTrail esig).verdict = none
  /-- A failed verification is recorded as that of a login is. -/
  counted : ∀ before esig, before ++ [.esig esig] <+: requests →
    (electronicSignature verifyPassword
      (PasswordServer.run verifyPassword auditTrail before).auditTrail esig).verdict = some false →
    (PasswordServer.run verifyPassword auditTrail (before ++ [.esig esig])).attempts =
      recordFailedLogin
        (checkLoginThrottle (PasswordServer.run verifyPassword auditTrail before).attempts
          esig.req.username esig.receivedAt).1 esig.req.username esig.receivedAt
  /-- No more wrong passwords are tested on a username than logins alone allow. -/
  bounded : ∀ before, before <+: requests → ∀ username,
    (PasswordServer.run verifyPassword auditTrail before).wrong username ≤ maxLoginAttempts.toNat

/-- Every signature that names an active account carries its password, and comes while a login of
the username would not be refused. -/
def SignsRightly (verifyPassword : String → String → Bool) (auditTrail : AuditTable)
    (requests : List PasswordRequest) : Prop :=
  ∀ before esig, before ++ [.esig esig] <+: requests → ∀ user, esig.account = some user →
    verifyPassword esig.req.password user.passwordHash = true ∧
      (checkLoginThrottle (PasswordServer.run verifyPassword auditTrail before).attempts
        esig.req.username esig.receivedAt).2 = .ok ()

section spec

variable {verifyPassword : String → String → Bool} {auditTrail : AuditTable}
  {attempts : LoginAttempts} {login : LoginArrival} {esig : EsigArrival} {username : String}
  {server : PasswordServer} {now : Instant}

/-- A signature verifies the password of the active account that it names. -/
theorem electronicSignature_verdict :
    (electronicSignature verifyPassword auditTrail esig).verdict =
      esig.account.map fun user ↦ verifyPassword esig.req.password user.passwordHash := by
  unfold electronicSignature EsigArrival.account
  split
  case isTrue => rfl
  case isFalse =>
      cases esig.users.activeByUsername esig.req.username with
      | none => rfl
      | some user =>
          dsimp only [Option.map_some]
          cases verifyPassword esig.req.password user.passwordHash <;> rfl

/-! ## Logins keep within the limit -/

/-- What passes the check is below the limit afterwards. -/
theorem failedCount_of_admitted (h : (checkLoginThrottle attempts username now).2 = .ok ()) :
    failedCount (checkLoginThrottle attempts username now).1 username < maxLoginAttempts.toNat := by
  unfold checkLoginThrottle at h ⊢
  cases hentry : attempts username with
  | none =>
      rw [failedCount_of_eq hentry]
      decide
  | some entry =>
      obtain ⟨count, firstFailure⟩ := entry
      simp only [hentry] at h ⊢
      split at h
      case isTrue hlimit =>
          split at h
          case isTrue => cases h
          case isFalse hexpired =>
              rw [if_pos hlimit, if_neg hexpired, failedCount_of_eq (Function.update_self _ _ _)]
              decide
      case isFalse hlimit =>
          rw [if_neg hlimit]
          simp only [failedCount, hentry]
          exact UInt32.not_le.mp hlimit

/-- A forgotten lockout is a reset; otherwise the check changes nothing. -/
theorem wrong_le_of_checked {wrong : String → ℕ}
    (h : wrong username ≤ failedCount attempts username)
    (now : Instant) :
    (if lockoutExpired attempts username now then 0 else wrong username) ≤
      failedCount (checkLoginThrottle attempts username now).1 username := by
  rcases checkLoginThrottle_cases attempts username now with ⟨hkept, hexpired⟩ | ⟨-, hexpired, -⟩
  · rw [hexpired, hkept]
    exact h
  · rw [if_pos hexpired]
    exact Nat.zero_le _

theorem lockoutExpired_of_refused {msg : String}
    (h : (checkLoginThrottle attempts username now).2 = .error msg) :
    lockoutExpired attempts username now = false := by
  rcases checkLoginThrottle_cases attempts username now with ⟨-, hexpired⟩ | ⟨-, -, hok⟩
  · exact hexpired
  · rw [h] at hok
    cases hok

/-- A login changes the account of its own username only. -/
theorem wrong_serve_login_of_ne (hne : username ≠ login.req.username) :
    (server.serve verifyPassword (.login login)).wrong username = server.wrong username := by
  have hreset (wrong : String → ℕ) :
      failuresAfter wrong (some (.reset login.req.username)) username = wrong username :=
    Function.update_of_ne hne _ _
  have hfailed (wrong : String → ℕ) :
      failuresAfter wrong (some (.verified login.req.username false)) username = wrong username :=
    Function.update_of_ne hne _ _
  have hright (wrong : String → ℕ) :
      failuresAfter wrong (some (.verified login.req.username true)) = wrong := rfl
  simp only [PasswordServer.serve, loginEvents, List.foldl_append]
  cases (handleLogin verifyPassword server.attempts login).verdict with
  | none => split <;> simp [hreset]
  | some success => cases success <;> split <;> simp [hreset, hfailed, hright]

/-- How many wrong passwords a login leaves against its username. -/
theorem wrong_serve_login :
    (server.serve verifyPassword (.login login)).wrong login.req.username =
      match (handleLogin verifyPassword server.attempts login).verdict with
      | none => if lockoutExpired server.attempts login.req.username login.checkedAt then 0
          else server.wrong login.req.username
      | some false => (if lockoutExpired server.attempts login.req.username login.checkedAt then 0
          else server.wrong login.req.username) + 1
      | some true => 0 := by
  simp only [PasswordServer.serve, loginEvents, List.foldl_append]
  cases (handleLogin verifyPassword server.attempts login).verdict with
  | none => split <;> simp [failuresAfter]
  | some success => cases success <;> split <;> simp [failuresAfter]

/-- The wrong passwords tested on a username are among its counted failures, and these are within
the limit. -/
structure PasswordServer.Bounded (server : PasswordServer) : Prop where
  accounted : ∀ username, server.wrong username ≤ failedCount server.attempts username
  limited : ∀ username, failedCount server.attempts username ≤ maxLoginAttempts.toNat

theorem PasswordServer.Bounded.serve_login (h : server.Bounded) (login : LoginArrival) :
    (server.serve verifyPassword (.login login)).Bounded := by
  have hself : (server.serve verifyPassword (.login login)).wrong login.req.username ≤
        failedCount (server.serve verifyPassword (.login login)).attempts login.req.username ∧
      failedCount (server.serve verifyPassword (.login login)).attempts login.req.username ≤
        maxLoginAttempts.toNat := by
    rw [wrong_serve_login]
    simp only [PasswordServer.serve]
    cases hcheck : (checkLoginThrottle server.attempts login.req.username login.checkedAt).2 with
    | error msg =>
        rw [handleLogin_of_refused hcheck, lockoutExpired_of_refused hcheck]
        exact ⟨h.accounted login.req.username, h.limited login.req.username⟩
    | ok =>
        have hbelow := failedCount_of_admitted hcheck
        have hwrong := wrong_le_of_checked (h.accounted login.req.username) login.checkedAt
        rw [handleLogin_of_admitted hcheck]
        generalize (checkLoginThrottle server.attempts login.req.username login.checkedAt).1 =
          attempts at hbelow hwrong ⊢
        rcases admittedLogin_cases verifyPassword attempts login with
          ⟨hattempts, hverdict⟩ | ⟨hattempts, hverdict⟩ | ⟨hattempts, hverdict⟩
        · rw [hattempts, hverdict]
          exact ⟨hwrong, hbelow.le⟩
        · have hlimit : maxLoginAttempts.toNat = 5 := rfl
          rw [hattempts, failedCount_recordFailedLogin _ _ _ (by omega)]
          refine ⟨?_, hbelow⟩
          split
          case h_1 => exact hwrong.trans (Nat.le_succ _)
          case h_2 => exact Nat.succ_le_succ hwrong
          case h_3 heq => exact absurd heq hverdict
        · rw [hattempts, hverdict]
          exact ⟨Nat.zero_le _, by
            rw [clearFailedLogin, failedCount_of_eq (Function.update_self _ _ _)]
            exact Nat.zero_le _⟩
  have hother {username : String} (hne : username ≠ login.req.username) :
      failedCount (server.serve verifyPassword (.login login)).attempts username =
        failedCount server.attempts username := by
    unfold failedCount
    simp only [PasswordServer.serve, handleLogin_attempts_of_ne hne]
  refine ⟨fun username ↦ ?_, fun username ↦ ?_⟩
  · by_cases hname : username = login.req.username
    · rw [hname]
      exact hself.1
    · rw [hother hname, wrong_serve_login_of_ne hname]
      exact h.accounted username
  · by_cases hname : username = login.req.username
    · rw [hname]
      exact hself.2
    · rw [hother hname]
      exact h.limited username

/-! ## Signatures -/

/-- A failure is never recorded by leaving the attempts as they are. -/
theorem recordFailedLogin_ne (attempts : LoginAttempts) (username : String) (now : Instant) :
    recordFailedLogin (checkLoginThrottle attempts username now).1 username now ≠ attempts := by
  intro heq
  have hentry := congrFun heq username
  rw [recordFailedLogin, Function.update_self] at hentry
  rcases checkLoginThrottle_cases attempts username now with ⟨hkept, -⟩ | ⟨hremoved, hexpired, -⟩
  · rw [hkept] at hentry
    cases hold : attempts username with
    | none =>
        rw [hold] at hentry
        cases hentry
    | some entry =>
        -- the count goes up by one
        rw [hold, Option.getD_some, Option.some.injEq] at hentry
        have hcount := congrArg (fun entry ↦ entry.1) hentry
        simp at hcount
  · rw [hremoved, Function.update_self, Option.getD_none] at hentry
    -- an expired entry is at the limit, and a first failure is not
    have hbelow : ¬maxLoginAttempts ≤ (0 : UInt32) + 1 := by decide
    simp only [lockoutExpired, checkLoginThrottle, ← hentry, hbelow, if_false] at hexpired
    simp at hexpired

theorem bounded_serve_esig (h : server.Bounded)
    (hright : ∀ user, esig.account = some user →
      verifyPassword esig.req.password user.passwordHash = true) :
    (server.serve verifyPassword (.esig esig)).Bounded := by
  have hwrong : (server.serve verifyPassword (.esig esig)).wrong = server.wrong := by
    simp only [PasswordServer.serve, electronicSignature_verdict]
    cases haccount : esig.account with
    | none => rfl
    | some user =>
        rw [Option.map_some, hright user haccount]
        rfl
  refine ⟨fun username ↦ ?_, h.limited⟩
  rw [hwrong]
  exact h.accounted username

end spec

/-- **Signatures and the throttle.** Over any sequence of logins and signatures, signatures are
throttled as logins are exactly when every signature that names an active account carries its
password and comes while the username is not locked out. -/
theorem sharesThrottle_iff (verifyPassword : String → String → Bool) (auditTrail : AuditTable)
    (requests : List PasswordRequest) :
    SharesThrottle verifyPassword auditTrail requests ↔
      SignsRightly verifyPassword auditTrail requests := by
  constructor
  · intro hshares before esig hpre user haccount
    have hverdict : (electronicSignature verifyPassword
        (PasswordServer.run verifyPassword auditTrail before).auditTrail esig).verdict =
          some (verifyPassword esig.req.password user.passwordHash) := by
      rw [electronicSignature_verdict, haccount, Option.map_some]
    constructor
    · by_contra hwrong
      rw [Bool.not_eq_true] at hwrong
      rw [hwrong] at hverdict
      have hcounted := hshares.counted before esig hpre hverdict
      rw [PasswordServer.run_append_singleton] at hcounted
      exact recordFailedLogin_ne _ _ _ hcounted.symm
    · cases hcheck : (checkLoginThrottle (PasswordServer.run verifyPassword auditTrail before).attempts
        esig.req.username esig.receivedAt).2 with
      | error msg =>
          rw [hshares.refused before esig hpre ⟨msg, hcheck⟩] at hverdict
          cases hverdict
      | ok => rfl
  · intro hsigns
    refine ⟨fun before esig hpre ⟨msg, hmsg⟩ ↦ ?_, fun before esig hpre hverdict ↦ ?_,
      fun before hpre username ↦ ?_⟩
    · rw [electronicSignature_verdict, Option.map_eq_none_iff]
      by_contra haccount
      obtain ⟨user, haccount⟩ := Option.ne_none_iff_exists'.mp haccount
      rw [(hsigns before esig hpre user haccount).2] at hmsg
      cases hmsg
    · rw [electronicSignature_verdict, Option.map_eq_some_iff] at hverdict
      obtain ⟨user, haccount, hwrong⟩ := hverdict
      rw [(hsigns before esig hpre user haccount).1] at hwrong
      cases hwrong
    · have hbounded : (PasswordServer.run verifyPassword auditTrail before).Bounded := by
        induction before using List.reverseRecOn with
        | nil => exact ⟨fun _ ↦ Nat.zero_le _, fun _ ↦ Nat.zero_le _⟩
        | append_singleton before request ih =>
            have hbefore := ih ((List.prefix_append _ _).trans hpre)
            rw [PasswordServer.run_append_singleton]
            cases request with
            | login login => exact hbefore.serve_login login
            | esig esig =>
                exact bounded_serve_esig hbefore fun user haccount ↦
                  (hsigns before esig hpre user haccount).1
      exact (hbounded.accounted username).trans (hbounded.limited username)

/-- Six signatures with wrong passwords, none of them refused. -/
def sixSignatures : List PasswordRequest :=
  List.replicate 6 (.esig ⟨⟨"operator", "guess", "release"⟩, operatorOnly, false, true, 0⟩)

theorem sixSignatures_unthrottled :
    ¬ ∀ (verifyPassword : String → String → Bool) (auditTrail : AuditTable)
        (requests : List PasswordRequest), SharesThrottle verifyPassword auditTrail requests := by
  intro h
  have hbound := (h (fun password hash ↦ password == hash) .empty sixSignatures).bounded
    sixSignatures List.prefix_rfl "operator"
  revert hbound
  decide

end VyuhHmi
