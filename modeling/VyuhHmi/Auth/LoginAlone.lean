import VyuhHmi.Auth.FailedLogins

/-!
# Logins one after another

A login that no other login overlaps, from its throttle check to its answer.  The database is asked
after the check, and a failure is recorded some time later, when the password has been verified.
The handler as a whole is a run of the steps of `Auth.Sessions`; the results on sequences of logins
are stated over it.
-/

namespace VyuhHmi

/-- One login, with what it meets: the users table or a failing query, the time of its throttle
check, and the time at which a failure would be recorded. -/
structure LoginArrival where
  req : LoginRequest
  users : UserTable
  queryFails : Bool
  checkedAt : Instant
  recordedAt : Instant

/-- What a login comes to: an answer, or a user whose password is right. -/
inductive LoginOutcome
  | replied (reply : AuthReply)
  | verified (user : User)
deriving DecidableEq

/-- A login's effect on the attempts, its outcome, and the verdict on a password, if one was
verified. -/
structure LoginResult where
  attempts : LoginAttempts
  outcome : LoginOutcome
  verdict : Option Bool

/-- A login that has passed the throttle check. -/
def admittedLogin (verifyPassword : String → String → Bool) (attempts : LoginAttempts)
    (login : LoginArrival) : LoginResult :=
  let username := login.req.username
  if login.queryFails then
    ⟨attempts, .replied (.fail .internalServerError "Internal server error"), none⟩
  else
    match login.users.byUsername username with
    | some user =>
        if !user.isActive then
          ⟨attempts, .replied (.fail .forbidden "Account disabled"), none⟩
        else if !verifyPassword login.req.password user.passwordHash then
          ⟨recordFailedLogin attempts username login.recordedAt,
            .replied (.fail .unauthorized "Invalid credentials"), some false⟩
        else ⟨clearFailedLogin attempts username, .verified user, some true⟩
    | none =>
        ⟨recordFailedLogin attempts username login.recordedAt,
          .replied (.fail .unauthorized "Invalid credentials"), none⟩

/-- POST /api/auth/login, up to the creation of the token. -/
def handleLogin (verifyPassword : String → String → Bool) (attempts : LoginAttempts)
    (login : LoginArrival) : LoginResult :=
  match checkLoginThrottle attempts login.req.username login.checkedAt with
  | (attempts, .error msg) => ⟨attempts, .replied (.fail .tooManyRequests msg), none⟩
  | (attempts, .ok ()) => admittedLogin verifyPassword attempts login

/-- The attempts after some logins, from a server that has just started. -/
def attemptsAfter (verifyPassword : String → String → Bool) (logins : List LoginArrival) :
    LoginAttempts :=
  logins.foldl (fun attempts login ↦ (handleLogin verifyPassword attempts login).attempts)
    fun _ ↦ none

/-- No login starts before the one before it has ended. -/
def InTurn (logins : List LoginArrival) : Prop :=
  (∀ login ∈ logins, login.checkedAt ≤ login.recordedAt) ∧
    logins.Pairwise fun first second ↦ first.recordedAt ≤ second.checkedAt

instance (logins : List LoginArrival) : Decidable (InTurn logins) :=
  inferInstanceAs (Decidable (_ ∧ _))

section spec

variable {verifyPassword : String → String → Bool} {attempts : LoginAttempts} {login : LoginArrival}
  {username : String}

theorem attemptsAfter_append_singleton (logins : List LoginArrival) (login : LoginArrival) :
    attemptsAfter verifyPassword (logins ++ [login]) =
      (handleLogin verifyPassword (attemptsAfter verifyPassword logins) login).attempts := by
  simp [attemptsAfter]

theorem checkLoginThrottle_of_refused {now : Instant} {msg : String}
    (h : (checkLoginThrottle attempts username now).2 = .error msg) :
    checkLoginThrottle attempts username now = (attempts, .error msg) := by
  rcases checkLoginThrottle_cases attempts username now with ⟨hkept, -⟩ | ⟨-, -, hok⟩
  · exact Prod.ext hkept h
  · rw [h] at hok
    cases hok

/-- The check refuses the login. -/
theorem handleLogin_of_refused {msg : String}
    (h : (checkLoginThrottle attempts login.req.username login.checkedAt).2 = .error msg) :
    handleLogin verifyPassword attempts login =
      ⟨attempts, .replied (.fail .tooManyRequests msg), none⟩ := by
  simp only [handleLogin, checkLoginThrottle_of_refused h]

theorem handleLogin_of_admitted
    (h : (checkLoginThrottle attempts login.req.username login.checkedAt).2 = .ok ()) :
    handleLogin verifyPassword attempts login = admittedLogin verifyPassword
      (checkLoginThrottle attempts login.req.username login.checkedAt).1 login := by
  unfold handleLogin
  split
  case h_1 heq =>
      rw [heq] at h
      cases h
  case h_2 heq => rw [heq]

theorem admittedLogin_of_verified {user : User}
    (h : (admittedLogin verifyPassword attempts login).outcome = .verified user) :
    login.users.byUsername login.req.username = some user ∧ user.isActive = true ∧
      verifyPassword login.req.password user.passwordHash = true ∧
      (admittedLogin verifyPassword attempts login).attempts =
        clearFailedLogin attempts login.req.username := by
  unfold admittedLogin at h ⊢
  dsimp only at h ⊢
  split at h
  case isTrue => cases h
  case isFalse hquery =>
      cases hfound : login.users.byUsername login.req.username with
      | none =>
          rw [hfound] at h
          cases h
      | some found =>
          simp only [hfound] at h
          split at h
          case isTrue => cases h
          case isFalse hactive =>
              split at h
              case isTrue => cases h
              case isFalse hverify =>
                  obtain rfl := LoginOutcome.verified.inj h
                  simp only [Bool.not_eq_true, Bool.not_eq_false'] at hactive hverify
                  simp [hquery, hactive, hverify]

/-- What an admitted login does to the attempts: nothing, unless a failure is recorded or the right
password clears them. -/
theorem admittedLogin_cases (verifyPassword : String → String → Bool) (attempts : LoginAttempts)
    (login : LoginArrival) :
    ((admittedLogin verifyPassword attempts login).attempts = attempts ∧
        (admittedLogin verifyPassword attempts login).verdict = none) ∨
      ((admittedLogin verifyPassword attempts login).attempts =
          recordFailedLogin attempts login.req.username login.recordedAt ∧
        (admittedLogin verifyPassword attempts login).verdict ≠ some true) ∨
      ((admittedLogin verifyPassword attempts login).attempts =
          clearFailedLogin attempts login.req.username ∧
        (admittedLogin verifyPassword attempts login).verdict = some true) := by
  unfold admittedLogin
  dsimp only
  split
  case isTrue => exact .inl ⟨rfl, rfl⟩
  case isFalse =>
      cases login.users.byUsername login.req.username with
      | none => exact .inr (.inl ⟨rfl, by simp⟩)
      | some user =>
          dsimp only
          split
          case isTrue => exact .inl ⟨rfl, rfl⟩
          case isFalse =>
              split
              case isTrue => exact .inr (.inl ⟨rfl, by simp⟩)
              case isFalse => exact .inr (.inr ⟨rfl, rfl⟩)

theorem recordFailedLogin_of_ne {other : String} (hne : username ≠ other) (now : Instant) :
    recordFailedLogin attempts other now username = attempts username :=
  Function.update_of_ne hne _ _

/-- A login of one username leaves the attempts on the others alone. -/
theorem handleLogin_attempts_of_ne (hne : username ≠ login.req.username) :
    (handleLogin verifyPassword attempts login).attempts username = attempts username := by
  cases hcheck : (checkLoginThrottle attempts login.req.username login.checkedAt).2 with
  | error msg => rw [handleLogin_of_refused hcheck]
  | ok =>
      have hkept : (checkLoginThrottle attempts login.req.username login.checkedAt).1 username =
          attempts username := by
        rcases checkLoginThrottle_cases attempts login.req.username login.checkedAt with
          ⟨heq, -⟩ | ⟨heq, -⟩
        · rw [heq]
        · rw [heq]
          exact Function.update_of_ne hne _ _
      rw [handleLogin_of_admitted hcheck, ← hkept]
      rcases admittedLogin_cases verifyPassword
        (checkLoginThrottle attempts login.req.username login.checkedAt).1 login with
        ⟨heq, -⟩ | ⟨heq, -⟩ | ⟨heq, -⟩
      · rw [heq]
      · rw [heq]
        exact recordFailedLogin_of_ne hne login.recordedAt
      · rw [heq]
        exact Function.update_of_ne hne _ _

end spec

/-! ## The steps of a login -/

section steps

open AuthRuntime Transition

variable {jwt : Jwt} {verifyPassword : String → String → Bool} {s : AuthRuntime jwt}
  {login : LoginArrival}

/-- The server while the login runs: the clock, the attempts and the phase of the login. -/
def LoginArrival.inPhase (login : LoginArrival) (s : AuthRuntime jwt) (now : Instant)
    (attempts : LoginAttempts) (phase : AuthPhase jwt) : AuthRuntime jwt :=
  { s with
    now := now
    users := login.users
    loginAttempts := attempts
    requests := s.requests ++ [⟨.login login.req, phase⟩] }

variable {now : Instant} {attempts : LoginAttempts} {before phase : AuthPhase jwt}

theorem exec_cons {start : AuthRuntime jwt} {label : Label} {t : AuthRuntime jwt}
    (h : step verifyPassword start label = some t) (labels : List Label) :
    exec (step verifyPassword) start (label :: labels) = exec (step verifyPassword) t labels := by
  simp [exec, h]

theorem exec_arrive (hclock : s.now ≤ login.checkedAt) :
    exec (step verifyPassword) s
        [.setUsers login.users, .tick login.checkedAt, .arrive (.login login.req)] =
      some (login.inPhase s login.checkedAt s.loginAttempts .ready) := by
  simp [exec, step, hclock, LoginArrival.inPhase]

theorem step_tick (htimes : login.checkedAt ≤ login.recordedAt) :
    step verifyPassword (login.inPhase s login.checkedAt attempts phase) (.tick login.recordedAt) =
      some (login.inPhase s login.recordedAt attempts phase) := by
  simp [step, LoginArrival.inPhase, htimes]

/-- A step of the login's handler. -/
theorem step_advance :
    step verifyPassword (login.inPhase s now attempts phase) (.advance s.requests.length) =
      (login.inPhase s now attempts phase).login s.requests.length verifyPassword login.req
        phase := by
  simp [step, advance, LoginArrival.inPhase]

theorem setPhase_inPhase :
    (login.inPhase s now attempts before).setPhase s.requests.length phase =
      login.inPhase s now attempts phase := by
  simp [LoginArrival.inPhase, setPhase]

theorem step_check :
    step verifyPassword (login.inPhase s login.checkedAt attempts .ready)
        (.advance s.requests.length) =
      some (login.inPhase s login.checkedAt
        (checkLoginThrottle attempts login.req.username login.checkedAt).1
        (match (checkLoginThrottle attempts login.req.username login.checkedAt).2 with
          | .error msg => .reply (.fail .tooManyRequests msg)
          | .ok () => .lookingUp)) := by
  rw [step_advance]
  exact congrArg some (@setPhase_inPhase _ s login login.checkedAt _ .ready _)

theorem step_lookUp :
    step verifyPassword (login.inPhase s now attempts .lookingUp) (.advance s.requests.length) =
      some (login.inPhase s now attempts
        (match login.users.byUsername login.req.username with
          | some user =>
              if user.isActive then
                if verifyPassword login.req.password user.passwordHash then .clearing user
                else .recordingFailure
              else .reply (.fail .forbidden "Account disabled")
          | none => .recordingFailure)) := by
  rw [step_advance]
  exact congrArg some setPhase_inPhase

theorem step_failQuery :
    step verifyPassword (login.inPhase s now attempts .lookingUp) (.failQuery s.requests.length) =
      some (login.inPhase s now attempts
        (.reply (.fail .internalServerError "Internal server error"))) := by
  have hfail : step verifyPassword (login.inPhase s now attempts .lookingUp)
      (.failQuery s.requests.length) =
        some ((login.inPhase s now attempts .lookingUp).setPhase s.requests.length
          (.reply (.fail .internalServerError "Internal server error"))) := by
    simp [step, failQuery, LoginArrival.inPhase]
  rw [hfail, setPhase_inPhase]

theorem step_record :
    step verifyPassword (login.inPhase s now attempts .recordingFailure)
        (.advance s.requests.length) =
      some (login.inPhase s now (recordFailedLogin attempts login.req.username now)
        (.reply (.fail .unauthorized "Invalid credentials"))) := by
  rw [step_advance]
  exact congrArg some (@setPhase_inPhase _ s login now _ .recordingFailure _)

/-- The steps of a login that has been admitted and is answered with a failure. -/
theorem exists_exec_admitted (htimes : login.checkedAt ≤ login.recordedAt) {reply : AuthReply}
    (hreply : (admittedLogin verifyPassword attempts login).outcome = .replied reply) :
    ∃ labels now, exec (step verifyPassword)
        (login.inPhase s login.checkedAt attempts .lookingUp) labels =
      some (login.inPhase s now (admittedLogin verifyPassword attempts login).attempts
        (.reply reply)) := by
  have hrecord (hlookUp : step verifyPassword (login.inPhase s login.checkedAt attempts .lookingUp)
      (.advance s.requests.length) =
        some (login.inPhase s login.checkedAt attempts .recordingFailure)) :
      exec (step verifyPassword) (login.inPhase s login.checkedAt attempts .lookingUp)
          [.advance s.requests.length, .tick login.recordedAt, .advance s.requests.length] =
        some (login.inPhase s login.recordedAt
          (recordFailedLogin attempts login.req.username login.recordedAt)
          (.reply (.fail .unauthorized "Invalid credentials"))) := by
    rw [exec_cons hlookUp, exec_cons (step_tick htimes), exec_cons step_record]
    rfl
  unfold admittedLogin at hreply ⊢
  dsimp only at hreply ⊢
  by_cases hfails : login.queryFails
  · rw [if_pos hfails] at hreply ⊢
    obtain rfl := LoginOutcome.replied.inj hreply
    exact ⟨[.failQuery s.requests.length], login.checkedAt, (exec_cons step_failQuery []).trans rfl⟩
  rw [if_neg hfails] at hreply ⊢
  have hlookUp := @step_lookUp _ verifyPassword s login login.checkedAt attempts
  cases huser : login.users.byUsername login.req.username with
  | none =>
      simp only [huser] at hreply hlookUp ⊢
      obtain rfl := LoginOutcome.replied.inj hreply
      exact ⟨_, _, hrecord hlookUp⟩
  | some user =>
      simp only [huser] at hreply hlookUp ⊢
      cases hactive : user.isActive with
      | false =>
          simp only [hactive, Bool.not_false, if_true, Bool.false_eq_true, if_false]
            at hreply hlookUp ⊢
          obtain rfl := LoginOutcome.replied.inj hreply
          exact ⟨[.advance s.requests.length], login.checkedAt, (exec_cons hlookUp []).trans rfl⟩
      | true =>
          cases hverify : verifyPassword login.req.password user.passwordHash with
          | false =>
              simp only [hactive, hverify, Bool.not_true, Bool.not_false, if_true, if_false,
                Bool.false_eq_true] at hreply hlookUp ⊢
              obtain rfl := LoginOutcome.replied.inj hreply
              exact ⟨_, _, hrecord hlookUp⟩
          | true =>
              simp only [hactive, hverify, Bool.not_true, if_false, Bool.false_eq_true] at hreply
              cases hreply

/-- **One login alone.** A login that is answered with a failure is a run of its handler's steps. -/
theorem exists_exec_login (hclock : s.now ≤ login.checkedAt)
    (htimes : login.checkedAt ≤ login.recordedAt) {reply : AuthReply}
    (hreply : (handleLogin verifyPassword s.loginAttempts login).outcome = .replied reply) :
    ∃ labels t, exec (step verifyPassword) s labels = some t ∧
      t.loginAttempts = (handleLogin verifyPassword s.loginAttempts login).attempts ∧
      t.requests = s.requests ++ [⟨.login login.req, .reply reply⟩] := by
  have hcheck := @step_check _ verifyPassword s login s.loginAttempts
  cases hthrottle : (checkLoginThrottle s.loginAttempts login.req.username login.checkedAt).2 with
  | error msg =>
      rw [handleLogin_of_refused hthrottle] at hreply ⊢
      obtain rfl := LoginOutcome.replied.inj hreply
      simp only [checkLoginThrottle_of_refused hthrottle] at hcheck
      refine ⟨[.setUsers login.users, .tick login.checkedAt, .arrive (.login login.req)] ++
        [.advance s.requests.length], login.inPhase s login.checkedAt s.loginAttempts
          (.reply (.fail .tooManyRequests msg)), ?_, rfl, rfl⟩
      rw [exec_append, exec_arrive hclock, Option.bind_some, exec_cons hcheck]
      rfl
  | ok =>
      rw [handleLogin_of_admitted hthrottle] at hreply ⊢
      simp only [hthrottle] at hcheck
      obtain ⟨labels, now, hadmitted⟩ := exists_exec_admitted htimes hreply
      refine ⟨[.setUsers login.users, .tick login.checkedAt, .arrive (.login login.req)] ++
        .advance s.requests.length :: labels, login.inPhase s now (admittedLogin verifyPassword
          (checkLoginThrottle s.loginAttempts login.req.username login.checkedAt).1 login).attempts
          (.reply reply), ?_, rfl, rfl⟩
      rw [exec_append, exec_arrive hclock, Option.bind_some, exec_cons hcheck]
      exact hadmitted

/-- Clearing the failed attempts and creating the token. -/
theorem exists_issueToken (user : User) (sessionId : String) :
    ∃ t, step verifyPassword (login.inPhase s now attempts (.clearing user))
        (.issueToken s.requests.length sessionId) = some t ∧
      t.loginAttempts = clearFailedLogin attempts login.req.username := by
  simp only [step, issueToken, LoginArrival.inPhase, List.getElem?_concat_length, Option.bind_some]
  split <;> exact ⟨_, rfl, rfl⟩

/-- A login with the right password runs up to the creation of its token, whatever the session
id. -/
theorem exists_exec_verified (hclock : s.now ≤ login.checkedAt) {user : User}
    (huser : (handleLogin verifyPassword s.loginAttempts login).outcome = .verified user) :
    ∃ labels t, exec (step verifyPassword) s labels = some t ∧
      t.requests = s.requests ++ [⟨.login login.req, .clearing user⟩] ∧
      ∀ sessionId, ∃ t', step verifyPassword t (.issueToken s.requests.length sessionId) =
          some t' ∧
        t'.loginAttempts = (handleLogin verifyPassword s.loginAttempts login).attempts := by
  have hcheck := @step_check _ verifyPassword s login s.loginAttempts
  cases hthrottle : (checkLoginThrottle s.loginAttempts login.req.username login.checkedAt).2 with
  | error msg =>
      rw [handleLogin_of_refused hthrottle] at huser
      cases huser
  | ok =>
      rw [handleLogin_of_admitted hthrottle] at huser ⊢
      simp only [hthrottle] at hcheck
      have hlookUp := @step_lookUp _ verifyPassword s login login.checkedAt
        (checkLoginThrottle s.loginAttempts login.req.username login.checkedAt).1
      obtain ⟨hfound, hactive, hverify, hattempts⟩ := admittedLogin_of_verified huser
      simp only [hfound, hactive, hverify, if_true] at hlookUp
      refine ⟨[.setUsers login.users, .tick login.checkedAt, .arrive (.login login.req)] ++
        [.advance s.requests.length, .advance s.requests.length],
        login.inPhase s login.checkedAt
          (checkLoginThrottle s.loginAttempts login.req.username login.checkedAt).1 (.clearing user),
        ?_, rfl, fun sessionId ↦ ?_⟩
      · rw [exec_append, exec_arrive hclock, Option.bind_some, exec_cons hcheck, exec_cons hlookUp]
        rfl
      · rw [hattempts]
        exact exists_issueToken user sessionId

end steps

/-- A users table with one active account. -/
def operatorOnly : UserTable where
  rows := [⟨"1", "operator", "secret", "operator", 0, true⟩]
  uniqueId := by decide
  uniqueUsername := by decide

end VyuhHmi
