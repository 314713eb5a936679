import VyuhHmi.Auth.Access

/-!
# How many passwords can be tried

A login checks the throttle, looks the user up and verifies the password, and records a failure, in
separate steps.  Logins that have passed the check before a failure is recorded are not held back
by it, so the limit of the throttle is a limit on passwords only where the logins of a name that
are past the check count as well.
-/

namespace VyuhHmi

variable {jwt : Jwt}

/-- What a step means for the passwords tried on a username. -/
inductive LoginEvent
  | verified (username : String) (success : Bool)
  | reset (username : String)
deriving DecidableEq

/-- The recorded failures of a username. -/
def failedCount (attempts : LoginAttempts) (username : String) : ℕ :=
  match attempts username with
  | some (count, _) => count.toNat
  | none => 0

/-- The throttle check is about to forget an expired lockout. -/
def lockoutExpired (attempts : LoginAttempts) (username : String) (now : Instant) : Bool :=
  (attempts username).isSome && ((checkLoginThrottle attempts username now).1 username).isNone

def AuthCall.isLoginOf (username : String) : AuthCall → Bool
  | .login req => req.username == username
  | _ => false

namespace AuthPhase

/-- Past the throttle check, and a failure of this login would still have to be recorded. -/
def isUndecided : AuthPhase jwt → Bool
  | .lookingUp => true
  | .recordingFailure => true
  | _ => false

def isRecordingFailure : AuthPhase jwt → Bool
  | .recordingFailure => true
  | _ => false

end AuthPhase

namespace AuthRuntime

/-- How many logins of a username are past the check and not yet decided or recorded. -/
def undecided (s : AuthRuntime jwt) (username : String) : ℕ :=
  (s.requests.map fun r ↦ (r.call.isLoginOf username && r.phase.isUndecided).toNat).sum

/-- How many failed logins of a username are not yet recorded. -/
def unrecorded (s : AuthRuntime jwt) (username : String) : ℕ :=
  (s.requests.map fun r ↦ (r.call.isLoginOf username && r.phase.isRecordingFailure).toNat).sum

/-- The password that a step verifies, or the entry that it resets. -/
def loginEvent (verifyPassword : String → String → Bool) (s : AuthRuntime jwt) :
    Label → Option LoginEvent
  | .advance request =>
      s.requests[request]?.bind fun r ↦
        match r.call, r.phase with
        | .login req, .ready =>
            if lockoutExpired s.loginAttempts req.username s.now then some (.reset req.username)
            else none
        | .login req, .lookingUp =>
            (s.users.byUsername req.username).bind fun user ↦
              if user.isActive then
                some (.verified req.username (verifyPassword req.password user.passwordHash))
              else none
        | _, _ => none
  | .issueToken request _ =>
      s.requests[request]?.bind fun r ↦
        match r.call, r.phase with
        | .login req, .clearing _ => some (.reset req.username)
        | _, _ => none
  | _ => none

end AuthRuntime

/-- The failed verifications of each username since its last reset. -/
def failuresAfter (failures : String → ℕ) : Option LoginEvent → String → ℕ
  | some (.verified username false) => Function.update failures username (failures username + 1)
  | some (.reset username) => Function.update failures username 0
  | _ => failures

/-- The server, watched: `failures` counts the failed verifications since the last reset. -/
structure LoginWatch (jwt : Jwt) where
  runtime : AuthRuntime jwt
  failures : String → ℕ

namespace LoginWatch

open AuthRuntime

def init (jwt : Jwt) (now : Instant) (users : UserTable) (auditTrail : AuditTable) :
    LoginWatch jwt :=
  ⟨AuthRuntime.init jwt now users auditTrail, fun _ ↦ 0⟩

def step (verifyPassword : String → String → Bool) (w : LoginWatch jwt) (label : Label) :
    Option (LoginWatch jwt) :=
  (AuthRuntime.step verifyPassword w.runtime label).map fun runtime ↦
    ⟨runtime, failuresAfter w.failures (w.runtime.loginEvent verifyPassword label)⟩

/-- No more than five verifications have failed since the last reset, and none takes place after
the fifth failure. -/
structure Throttled (verifyPassword : String → String → Bool) (w : LoginWatch jwt) : Prop where
  atMost : ∀ username, w.failures username ≤ maxLoginAttempts.toNat
  noneLater : ∀ label username success,
    w.runtime.loginEvent verifyPassword label = some (.verified username success) →
      w.failures username < maxLoginAttempts.toNat

/-- A login passes the throttle check only while the recorded failures and the undecided logins of
its username are together below the limit, and no failed login is dropped before its failure is
recorded. -/
def Serialised (w : LoginWatch jwt) : Label → Prop
  | .advance request =>
      ∀ req, w.runtime.requests[request]? = some ⟨.login req, .ready⟩ →
        (checkLoginThrottle w.runtime.loginAttempts req.username w.runtime.now).2 = .ok () →
          failedCount (checkLoginThrottle w.runtime.loginAttempts req.username w.runtime.now).1
              req.username + w.runtime.undecided req.username < maxLoginAttempts.toNat
  | .cancel request =>
      ∀ call, w.runtime.requests[request]? ≠ some ⟨call, .recordingFailure⟩
  | _ => True

end LoginWatch

/-! ## The throttle table -/

section Table

variable {attempts : LoginAttempts} {username other : String} {now : Instant}

theorem failedCount_of_eq (h : attempts username = none) : failedCount attempts username = 0 := by
  rw [failedCount, h]

theorem failedCount_update_of_ne (h : other ≠ username) (entry : Option (UInt32 × Instant)) :
    failedCount (Function.update attempts username entry) other = failedCount attempts other := by
  rw [failedCount, failedCount, Function.update_of_ne h]

/-- The check leaves the table as it is, or removes the entry of the username. -/
theorem checkLoginThrottle_cases (attempts : LoginAttempts) (username : String) (now : Instant) :
    ((checkLoginThrottle attempts username now).1 = attempts ∧
        lockoutExpired attempts username now = false) ∨
      ((checkLoginThrottle attempts username now).1 = Function.update attempts username none ∧
        lockoutExpired attempts username now = true ∧
        (checkLoginThrottle attempts username now).2 = .ok ()) := by
  unfold lockoutExpired checkLoginThrottle
  cases hentry : attempts username with
  | none => exact .inl ⟨rfl, rfl⟩
  | some entry =>
      dsimp only
      split
      · split
        · exact .inl ⟨rfl, by simp [hentry]⟩
        · exact .inr ⟨rfl, by simp, rfl⟩
      · exact .inl ⟨rfl, by simp [hentry]⟩

/-- Recording counts one failure of the username. -/
theorem failedCount_recordFailedLogin (attempts : LoginAttempts) (username : String)
    (now : Instant) (hsmall : failedCount attempts username < 2 ^ 32 - 1) :
    failedCount (recordFailedLogin attempts username now) username =
      failedCount attempts username + 1 := by
  have hcount : failedCount attempts username = ((attempts username).getD (0, now)).1.toNat := by
    unfold failedCount
    cases attempts username <;> rfl
  unfold failedCount recordFailedLogin
  rw [Function.update_self]
  dsimp only
  rw [← failedCount, hcount, UInt32.toNat_add]
  rw [hcount] at hsmall
  exact Nat.mod_eq_of_lt (by simpa using Nat.add_lt_of_lt_sub hsmall)

end Table

/-! ## The invariant -/

namespace LoginWatch

open AuthRuntime

variable {verifyPassword : String → String → Bool} {s t : AuthRuntime jwt} {failures : String → ℕ}
  {i : ℕ} {call : AuthCall} {before phase : AuthPhase jwt} {username : String}

/-- The undecided logins of a username could all fail, and would not exceed the limit; failures are
recorded or about to be. -/
structure WithinLimit (w : LoginWatch jwt) : Prop where
  admitted : ∀ username,
    failedCount w.runtime.loginAttempts username + w.runtime.undecided username ≤ 5
  accounted : ∀ username, w.failures username ≤
    failedCount w.runtime.loginAttempts username + w.runtime.unrecorded username

theorem undecided_of_requests (hrequest : s.requests[i]? = some ⟨call, before⟩)
    (ht : t.requests = (s.setPhase i phase).requests) (username : String) :
    t.undecided username + (call.isLoginOf username && before.isUndecided).toNat =
      s.undecided username + (call.isLoginOf username && phase.isUndecided).toNat := by
  unfold undecided
  rw [ht]
  exact ListUpdate.sum_map_modify hrequest _ _

theorem unrecorded_of_requests (hrequest : s.requests[i]? = some ⟨call, before⟩)
    (ht : t.requests = (s.setPhase i phase).requests) (username : String) :
    t.unrecorded username + (call.isLoginOf username && before.isRecordingFailure).toNat =
      s.unrecorded username + (call.isLoginOf username && phase.isRecordingFailure).toNat := by
  unfold unrecorded
  rw [ht]
  exact ListUpdate.sum_map_modify hrequest _ _

/-- A step on a login of one username leaves the accounts of the others alone. -/
theorem WithinLimit.login (h : WithinLimit ⟨s, failures⟩) {req : LoginRequest}
    (hrequest : s.requests[i]? = some ⟨.login req, before⟩)
    (ht : t.requests = (s.setPhase i phase).requests) {failures' : String → ℕ}
    (hothers : ∀ username, username ≠ req.username →
      failedCount t.loginAttempts username = failedCount s.loginAttempts username ∧
        failures' username = failures username)
    (hadmitted : failedCount t.loginAttempts req.username + s.undecided req.username +
      phase.isUndecided.toNat ≤ 5 + before.isUndecided.toNat)
    (haccounted : failures' req.username + before.isRecordingFailure.toNat ≤
      failedCount t.loginAttempts req.username + s.unrecorded req.username +
        phase.isRecordingFailure.toNat) :
    WithinLimit ⟨t, failures'⟩ := by
  have hundecided := undecided_of_requests hrequest ht
  have hunrecorded := unrecorded_of_requests hrequest ht
  have hother (username : String) (hne : username ≠ req.username) :
      (AuthCall.login req).isLoginOf username = false := by
    simpa [AuthCall.isLoginOf] using Ne.symm hne
  have hself : (AuthCall.login req).isLoginOf req.username = true := by simp [AuthCall.isLoginOf]
  refine ⟨fun username ↦ ?_, fun username ↦ ?_⟩
  · have hnew := hundecided username
    by_cases hname : username = req.username
    · subst hname
      rw [hself, Bool.true_and, Bool.true_and] at hnew
      dsimp only
      omega
    · have hold := h.admitted username
      rw [hother username hname, Bool.false_and, Bool.false_and] at hnew
      dsimp only at hold ⊢
      rw [(hothers username hname).1]
      omega
  · have hnew := hunrecorded username
    by_cases hname : username = req.username
    · subst hname
      rw [hself, Bool.true_and, Bool.true_and] at hnew
      dsimp only
      omega
    · have hold := h.accounted username
      rw [hother username hname, Bool.false_and, Bool.false_and] at hnew
      dsimp only at hold ⊢
      rw [(hothers username hname).1, (hothers username hname).2]
      omega

theorem toNat_and_le {first second : Bool} (login : Bool) (himp : first = true → second = true) :
    (login && first).toNat ≤ (login && second).toNat := by
  cases login <;> cases first <;> cases second <;> simp_all

/-- A step that records nothing, admits no login and loses no failure. -/
theorem WithinLimit.quiet (h : WithinLimit ⟨s, failures⟩)
    (hrequest : s.requests[i]? = some ⟨call, before⟩)
    (hattempts : t.loginAttempts = s.loginAttempts)
    (ht : t.requests = (s.setPhase i phase).requests)
    (hadmits : phase.isUndecided = true → before.isUndecided = true)
    (hloses : before.isRecordingFailure = true → phase.isRecordingFailure = true) :
    WithinLimit ⟨t, failures⟩ := by
  refine ⟨fun username ↦ ?_, fun username ↦ ?_⟩
  · have hold := h.admitted username
    have hnew := undecided_of_requests hrequest ht username
    have hweight := toNat_and_le (call.isLoginOf username) hadmits
    dsimp only at hold ⊢
    rw [hattempts]
    omega
  · have hold := h.accounted username
    have hnew := unrecorded_of_requests hrequest ht username
    have hweight := toNat_and_le (call.isLoginOf username) hloses
    dsimp only at hold ⊢
    rw [hattempts]
    omega

/-! ## One step -/

theorem failuresAfter_reset_of_ne {failures : String → ℕ} {other : String}
    (h : username ≠ other) : failuresAfter failures (some (.reset other)) username =
      failures username :=
  Function.update_of_ne h _ _

/-- A login that passes the check becomes undecided. -/
theorem WithinLimit.admit (h : WithinLimit ⟨s, failures⟩) {req : LoginRequest}
    (hrequest : s.requests[i]? = some ⟨.login req, .ready⟩)
    (hguard : failedCount (checkLoginThrottle s.loginAttempts req.username s.now).1 req.username +
      s.undecided req.username < maxLoginAttempts.toNat) :
    WithinLimit ⟨(s.setAttempts (checkLoginThrottle s.loginAttempts req.username s.now).1).setPhase i
      .lookingUp, failuresAfter failures (s.loginEvent verifyPassword (.advance i))⟩ := by
  have hevent : s.loginEvent verifyPassword (.advance i) =
      if lockoutExpired s.loginAttempts req.username s.now then some (.reset req.username)
      else none := by
    simp [loginEvent, hrequest]
  have hlimit : maxLoginAttempts.toNat = 5 := rfl
  have haccounted := h.accounted req.username
  rcases checkLoginThrottle_cases s.loginAttempts req.username s.now with
    ⟨htable, hexpired⟩ | ⟨htable, hexpired, -⟩
  · rw [htable] at hguard
    rw [hevent, hexpired, htable]
    refine h.login hrequest rfl (fun _ _ ↦ ⟨rfl, rfl⟩) ?_ ?_
    · simp only [AuthPhase.isUndecided, Bool.toNat_true, Bool.toNat_false]
      change failedCount s.loginAttempts req.username + _ + 1 ≤ 5
      omega
    · exact haccounted
  · rw [htable] at hguard
    rw [hevent, hexpired, htable]
    have hnone : failedCount (Function.update s.loginAttempts req.username none) req.username = 0 :=
      failedCount_of_eq (Function.update_self _ _ _)
    refine h.login (t := (s.setAttempts (Function.update s.loginAttempts req.username none)).setPhase
      i .lookingUp) hrequest rfl (fun username hne ↦ ?_) ?_ ?_
    · exact ⟨failedCount_update_of_ne hne none, failuresAfter_reset_of_ne hne⟩
    · simp only [AuthPhase.isUndecided, Bool.toNat_true, Bool.toNat_false]
      change failedCount (Function.update s.loginAttempts req.username none) req.username + _ + 1 ≤ 5
      omega
    · simp [failuresAfter, AuthPhase.isRecordingFailure]

/-- The verdict on a login. -/
theorem WithinLimit.verify (h : WithinLimit ⟨s, failures⟩) {req : LoginRequest}
    (hrequest : s.requests[i]? = some ⟨.login req, .lookingUp⟩)
    (hstep : s.login i verifyPassword req .lookingUp = some t) :
    WithinLimit ⟨t, failuresAfter failures (s.loginEvent verifyPassword (.advance i))⟩ := by
  have hevent : s.loginEvent verifyPassword (.advance i) =
      (s.users.byUsername req.username).bind fun user ↦
        if user.isActive then
          some (.verified req.username (verifyPassword req.password user.passwordHash))
        else none := by
    simp [loginEvent, hrequest]
  have hadmitted := h.admitted req.username
  have haccounted := h.accounted req.username
  rw [hevent]
  cases hstep
  cases s.users.byUsername req.username with
  | none => exact h.quiet hrequest rfl rfl (fun _ ↦ rfl) nofun
  | some user =>
      rw [Option.bind_some]
      dsimp only
      split
      · cases verifyPassword req.password user.passwordHash with
        | true => exact h.quiet hrequest rfl rfl nofun nofun
        | false =>
            refine h.login hrequest rfl (fun username hne ↦ ⟨rfl, Function.update_of_ne hne _ _⟩)
              ?_ ?_
            · exact Nat.add_le_add_right hadmitted 1
            · simp only [failuresAfter, Function.update_self]
              exact Nat.add_le_add_right haccounted 1
      · exact h.quiet hrequest rfl rfl nofun nofun

/-- A failure is recorded. -/
theorem WithinLimit.record (h : WithinLimit ⟨s, failures⟩) {req : LoginRequest}
    (hrequest : s.requests[i]? = some ⟨.login req, .recordingFailure⟩)
    (hstep : s.login i verifyPassword req .recordingFailure = some t) :
    WithinLimit ⟨t, failuresAfter failures (s.loginEvent verifyPassword (.advance i))⟩ := by
  have hevent : s.loginEvent verifyPassword (.advance i) = none := by simp [loginEvent, hrequest]
  have hadmitted := h.admitted req.username
  have haccounted := h.accounted req.username
  dsimp only at hadmitted haccounted
  have hrecorded := failedCount_recordFailedLogin s.loginAttempts req.username s.now (by omega)
  rw [hevent]
  cases hstep
  refine h.login (t := (s.setAttempts (recordFailedLogin s.loginAttempts req.username s.now)).setPhase
    i (.reply (.fail .unauthorized "Invalid credentials"))) hrequest rfl
    (fun username hne ↦ ⟨failedCount_update_of_ne hne _, rfl⟩) ?_ ?_
  · change failedCount (recordFailedLogin s.loginAttempts req.username s.now) req.username + _ ≤ 6
    omega
  · change failures req.username + 1 ≤
      failedCount (recordFailedLogin s.loginAttempts req.username s.now) req.username + _
    omega

/-- A successful login clears the entry. -/
theorem WithinLimit.clear (h : WithinLimit ⟨s, failures⟩) {req : LoginRequest} {user : User}
    (hrequest : s.requests[i]? = some ⟨.login req, .clearing user⟩)
    (hattempts : t.loginAttempts = clearFailedLogin s.loginAttempts req.username)
    (ht : t.requests = (s.setPhase i phase).requests) (hphase : phase.isUndecided = false) :
    WithinLimit ⟨t, failuresAfter failures (some (.reset req.username))⟩ := by
  have hnone : failedCount t.loginAttempts req.username = 0 := by
    rw [hattempts]
    exact failedCount_of_eq (Function.update_self _ _ _)
  have hadmitted := h.admitted req.username
  dsimp only at hadmitted
  refine h.login hrequest ht (fun username hne ↦ ?_) ?_ ?_
  · rw [hattempts]
    exact ⟨failedCount_update_of_ne hne none, failuresAfter_reset_of_ne hne⟩
  · rw [hnone, hphase, Bool.toNat_false]
    omega
  · simp [failuresAfter, AuthPhase.isRecordingFailure]

/-- A login's step to its next suspension point. -/
theorem WithinLimit.advanceLogin (h : WithinLimit ⟨s, failures⟩) {req : LoginRequest}
    (hrequest : s.requests[i]? = some ⟨.login req, before⟩)
    (hguard : Serialised ⟨s, failures⟩ (.advance i))
    (hstep : s.login i verifyPassword req before = some t) :
    WithinLimit ⟨t, failuresAfter failures (s.loginEvent verifyPassword (.advance i))⟩ := by
  cases before with
  | ready =>
      cases hstep
      cases hverdict : (checkLoginThrottle s.loginAttempts req.username s.now).2 with
      | ok => exact h.admit hrequest (hguard req hrequest hverdict)
      | error msg =>
          rcases checkLoginThrottle_cases s.loginAttempts req.username s.now with
            ⟨htable, hexpired⟩ | ⟨-, -, hpassed⟩
          · have hevent : s.loginEvent verifyPassword (.advance i) = none := by
              simp [loginEvent, hrequest, hexpired]
            rw [hevent, htable]
            exact h.quiet hrequest rfl rfl nofun nofun
          · rw [hverdict] at hpassed
            cases hpassed
  | lookingUp => exact h.verify hrequest hstep
  | recordingFailure => exact h.record hrequest hstep
  | registering issued =>
      have hevent : s.loginEvent verifyPassword (.advance i) = none := by
        simp [loginEvent, hrequest]
      rw [hevent]
      cases hstep
      exact h.quiet hrequest rfl rfl nofun nofun
  | auditingLogin issued =>
      have hevent : s.loginEvent verifyPassword (.advance i) = none := by
        simp [loginEvent, hrequest]
      rw [hevent]
      cases hstep
      exact h.quiet hrequest rfl rfl nofun nofun
  | _ => cases hstep

theorem WithinLimit.issueToken (h : WithinLimit ⟨s, failures⟩) {sessionId : String}
    (hstep : s.issueToken i sessionId = some t) :
    WithinLimit ⟨t, failuresAfter failures
      (s.loginEvent verifyPassword (.issueToken i sessionId))⟩ := by
  obtain ⟨⟨call, before⟩, hrequest, hissue⟩ := Option.bind_eq_some_iff.mp hstep
  cases call with
  | login req =>
      cases before with
      | clearing user =>
          have hevent : s.loginEvent verifyPassword (.issueToken i sessionId) =
              some (.reset req.username) := by
            simp [loginEvent, hrequest]
          rw [hevent]
          dsimp only at hissue
          split at hissue
          case h_1 =>
              cases hissue
              exact h.clear hrequest rfl rfl (by rfl)
          case h_2 =>
              cases hissue
              exact h.clear hrequest rfl rfl (by rfl)
      | _ => cases hissue
  | _ => cases hissue

theorem WithinLimit.advanceLogout (h : WithinLimit ⟨s, failures⟩) {headers : Headers}
    (hrequest : s.requests[i]? = some ⟨.logout headers, before⟩)
    (hstep : s.logout i headers before = some t) : WithinLimit ⟨t, failures⟩ := by
  cases before with
  | ready =>
      cases hstep
      refine h.quiet hrequest rfl rfl ?_ nofun
      split
      · split
        · split <;> nofun
        · nofun
      · nofun
  | revoking claims sessionId =>
      cases hstep
      exact h.quiet hrequest rfl rfl nofun nofun
  | auditingLogout claims =>
      cases hstep
      exact h.quiet hrequest rfl rfl nofun nofun
  | _ => cases hstep

theorem WithinLimit.advanceCheck (h : WithinLimit ⟨s, failures⟩) {check : TokenCheck}
    {route : TokenRoute} {headers : Headers}
    (hrequest : s.requests[i]? = some ⟨.checkToken route headers, before⟩)
    (hstep : s.checkToken i check headers before = some t) : WithinLimit ⟨t, failures⟩ := by
  cases before with
  | ready =>
      cases hstep
      refine h.quiet hrequest rfl rfl ?_ nofun
      split
      · split
        · split <;> nofun
        · nofun
      · nofun
  | checking claims sessionId =>
      cases hstep
      refine h.quiet hrequest rfl rfl ?_ nofun
      split <;> nofun
  | _ => cases hstep

/-- **One step.** -/
theorem WithinLimit.step {w w' : LoginWatch jwt} {label : Label} (h : WithinLimit w)
    (hguard : w.Serialised label) (hstep : w.step verifyPassword label = some w') :
    WithinLimit w' := by
  obtain ⟨s, failures⟩ := w
  obtain ⟨t, hruntime, rfl⟩ := Option.map_eq_some_iff.mp hstep
  cases label with
  | tick now =>
      simp only [AuthRuntime.step] at hruntime
      split at hruntime
      case isTrue =>
          cases hruntime
          exact ⟨h.admitted, h.accounted⟩
      case isFalse => cases hruntime
  | setUsers users =>
      cases hruntime
      exact ⟨h.admitted, h.accounted⟩
  | arrive call =>
      cases hruntime
      refine ⟨fun username ↦ ?_, fun username ↦ ?_⟩
      · have hold := h.admitted username
        simpa [undecided, AuthPhase.isUndecided] using hold
      · have hold := h.accounted username
        simpa [unrecorded, AuthPhase.isRecordingFailure, failuresAfter, loginEvent] using hold
  | advance i =>
      obtain ⟨⟨call, before⟩, hrequest, hadvance⟩ := Option.bind_eq_some_iff.mp hruntime
      cases call with
      | login req => exact h.advanceLogin hrequest hguard hadvance
      | logout headers =>
          have hevent : s.loginEvent verifyPassword (.advance i) = none := by
            simp [loginEvent, hrequest]
          rw [hevent]
          exact h.advanceLogout hrequest hadvance
      | checkToken route headers =>
          have hevent : s.loginEvent verifyPassword (.advance i) = none := by
            simp [loginEvent, hrequest]
          rw [hevent]
          exact h.advanceCheck hrequest hadvance
  | failQuery i =>
      obtain ⟨⟨call, before⟩, hrequest, hfail⟩ := Option.bind_eq_some_iff.mp hruntime
      split at hfail
      case h_1 hcall hphase =>
          cases hfail
          dsimp only at hphase
          subst hphase
          exact h.quiet hrequest rfl rfl (fun _ ↦ rfl) fun hrecording ↦ by cases hrecording
      case h_2 => cases hfail
  | issueToken i sessionId => exact h.issueToken hruntime
  | cancel i =>
      obtain ⟨⟨call, before⟩, hrequest, hcancel⟩ := Option.bind_eq_some_iff.mp hruntime
      split at hcancel
      case h_1 => cases hcancel
      case h_2 =>
          cases hcancel
          refine h.quiet hrequest rfl rfl (fun hundecided ↦ by cases hundecided)
            fun hrecording ↦ ?_
          cases before with
          | recordingFailure => exact absurd hrequest (hguard call)
          | _ => cases hrecording

/-! ## Runs -/

theorem unrecorded_le_undecided (s : AuthRuntime jwt) (username : String) :
    s.unrecorded username ≤ s.undecided username := by
  apply List.sum_le_sum
  intro r _
  have himp : r.phase.isRecordingFailure = true → r.phase.isUndecided = true := by
    cases r.phase with
    | recordingFailure => exact fun _ ↦ rfl
    | _ => nofun
  exact toNat_and_le _ himp

/-- A login whose password is about to be verified is undecided, and no failure yet. -/
theorem unrecorded_lt_of_lookingUp {req : LoginRequest}
    (hrequest : s.requests[i]? = some ⟨.login req, .lookingUp⟩) :
    s.unrecorded req.username < s.undecided req.username := by
  have hself : (AuthCall.login req).isLoginOf req.username = true := by simp [AuthCall.isLoginOf]
  have hundecided := undecided_of_requests (t := s.setPhase i .recordingFailure) hrequest rfl
    req.username
  have hunrecorded := unrecorded_of_requests (t := s.setPhase i .recordingFailure) hrequest rfl
    req.username
  have hle := unrecorded_le_undecided (s.setPhase i .recordingFailure) req.username
  rw [hself, Bool.true_and, Bool.true_and] at hundecided hunrecorded
  simp only [AuthPhase.isUndecided, AuthPhase.isRecordingFailure, Bool.toNat_true,
    Bool.toNat_false] at hundecided hunrecorded
  omega

theorem exists_lookingUp {label : Label} {success : Bool}
    (h : s.loginEvent verifyPassword label = some (.verified username success)) :
    ∃ (i : ℕ) (req : LoginRequest), s.requests[i]? = some ⟨.login req, .lookingUp⟩ ∧
      req.username = username := by
  cases label with
  | advance i =>
      obtain ⟨⟨call, phase⟩, hrequest, hevent⟩ := Option.bind_eq_some_iff.mp h
      cases call with
      | login req =>
          cases phase with
          | ready =>
              dsimp only at hevent
              split at hevent <;> cases hevent
          | lookingUp =>
              obtain ⟨user, -, hverified⟩ := Option.bind_eq_some_iff.mp hevent
              split at hverified
              · cases hverified
                exact ⟨i, req, hrequest, rfl⟩
              · cases hverified
          | _ => cases hevent
      | _ => cases hevent
  | issueToken i sessionId =>
      obtain ⟨⟨call, phase⟩, -, hevent⟩ := Option.bind_eq_some_iff.mp h
      cases call with
      | login req => cases phase <;> cases hevent
      | _ => cases hevent
  | _ => cases h

theorem WithinLimit.throttled {w : LoginWatch jwt} (h : WithinLimit w) :
    w.Throttled verifyPassword := by
  have hlimit : maxLoginAttempts.toNat = 5 := rfl
  refine ⟨fun username ↦ ?_, fun label username success hevent ↦ ?_⟩
  · have hadmitted := h.admitted username
    have haccounted := h.accounted username
    have hle := unrecorded_le_undecided w.runtime username
    omega
  · obtain ⟨i, req, hrequest, rfl⟩ := exists_lookingUp hevent
    have hadmitted := h.admitted req.username
    have haccounted := h.accounted req.username
    have hlt := unrecorded_lt_of_lookingUp hrequest
    omega

/-- **Passwords tried.** In every run whose logins pass the throttle check only within the limit,
and whose failures are recorded, no password of a username is verified once five have failed. -/
theorem throttled_run (now : Instant) (users : UserTable) (auditTrail : AuditTable)
    {labels : List Label} {w : LoginWatch jwt}
    (hrun : Transition.Run
      (Transition.guarded Serialised (Transition.ofOption (LoginWatch.step verifyPassword)))
      (init jwt now users auditTrail) labels w) : w.Throttled verifyPassword := by
  have hstart : WithinLimit (init jwt now users auditTrail) :=
    ⟨fun _ ↦ Nat.zero_le 5, fun _ ↦ Nat.zero_le _⟩
  have hlimit : WithinLimit w := hrun.invariant hstart fun _ _ _ h hstep ↦ h.step hstep.1 hstep.2
  exact hlimit.throttled

/-! ## Concrete runs -/

/-- The operator's name with a wrong password. -/
def wrongLogin : AuthCall := .login ⟨"operator", "letmein"⟩

/-- Two wrong passwords, one after the other, and a third login up to its verification. -/
def patientRun : List Label :=
  [.arrive wrongLogin, .advance 0, .advance 0, .advance 0, .arrive wrongLogin, .advance 1,
    .advance 1, .advance 1, .arrive wrongLogin, .advance 2]

/-- No login passes the check beyond the limit, and nobody hangs up. -/
def staysWithin (w : LoginWatch jwt) : Label → Bool
  | .advance request =>
      match w.runtime.requests[request]? with
      | some ⟨.login req, .ready⟩ =>
          failedCount (checkLoginThrottle w.runtime.loginAttempts req.username w.runtime.now).1
            req.username + w.runtime.undecided req.username < maxLoginAttempts.toNat
      | _ => true
  | .cancel _ => false
  | _ => true

theorem serialised_of_staysWithin {w : LoginWatch jwt} {label : Label} (h : w.staysWithin label) :
    w.Serialised label := by
  cases label with
  | advance i =>
      intro req hrequest _
      rw [staysWithin, hrequest] at h
      exact decide_eq_true_iff.mp h
  | cancel i => cases h
  | _ => trivial

theorem throttled_run_patientRun :
    ∃ w : LoginWatch firstJwt,
      Transition.exec (LoginWatch.step verifyHash) (init firstJwt 0 operatorTable .empty)
        patientRun = some w ∧ w.failures "operator" = 2 ∧ w.Throttled verifyHash := by
  obtain ⟨w, hrun, htest⟩ := @Transition.exists_run_guarded_of_any _ _
    (init firstJwt 0 operatorTable .empty) (LoginWatch.step verifyHash)
    (fun w label ↦ w.staysWithin label) _ (fun w ↦ w.failures "operator" == 2) patientRun (by decide)
  refine ⟨w, Transition.run_ofOption_iff.mp hrun.of_guarded, beq_iff_eq.mp htest, ?_⟩
  apply throttled_run
  exact hrun.mono fun u label v hnext ↦ ⟨serialised_of_staysWithin hnext.1, hnext.2⟩

/-- Six logins that all pass the check before any of them fails. -/
def guessingRun : List Label :=
  List.replicate 6 (.arrive wrongLogin) ++ (List.range 6).map .advance ++
    (List.range 6).map .advance

/-- Six wrong passwords are verified with no reset in between. -/
theorem guessingRun_not_throttled :
    ¬ ∀ (labels : List Label) (w : LoginWatch firstJwt),
      Transition.exec (LoginWatch.step verifyHash) (init firstJwt 0 operatorTable .empty) labels =
        some w → w.Throttled verifyHash := by
  intro h
  obtain ⟨w, hexec, hnot⟩ := @Transition.exists_exec_not _ _
    (init firstJwt 0 operatorTable .empty) (LoginWatch.step verifyHash)
    (fun w ↦ w.Throttled verifyHash) (fun w ↦ w.failures "operator" ≤ 5)
    (fun w hgood ↦ decide_eq_true (hgood.atMost "operator")) guessingRun (by decide)
  exact hnot (h guessingRun w hexec)

end LoginWatch

end VyuhHmi
