import VyuhHmi.Auth.LoginAlone

/-!
# What failed logins tell about accounts

An unknown username and a wrong password are answered alike and counted alike.  A disabled account
has an answer of its own, which is not counted.
-/

namespace VyuhHmi

/-- The password is that of an active account of this name. -/
def UserTable.Accepts (users : UserTable) (verifyPassword : String → String → Bool)
    (req : LoginRequest) : Prop :=
  ∃ user, users.byUsername req.username = some user ∧ user.isActive = true ∧
    verifyPassword req.password user.passwordHash = true

/-- The name is that of a disabled account. -/
def UserTable.Disabled (users : UserTable) (username : String) : Prop :=
  ∃ user, users.byUsername username = some user ∧ user.isActive = false

instance (users : UserTable) (verifyPassword : String → String → Bool) (req : LoginRequest) :
    Decidable (users.Accepts verifyPassword req) :=
  decidable_of_iff ((users.byUsername req.username).any fun user ↦
    user.isActive && verifyPassword req.password user.passwordHash)
    (by simp only [Option.any_eq_true, Bool.and_eq_true, UserTable.Accepts])

instance (users : UserTable) (username : String) : Decidable (users.Disabled username) :=
  decidable_of_iff ((users.byUsername username).any fun user ↦ !user.isActive)
    (by simp only [Option.any_eq_true, Bool.not_eq_true', UserTable.Disabled])

/-- The login meets this users table. -/
def LoginArrival.withUsers (users : UserTable) (login : LoginArrival) : LoginArrival :=
  { login with users := users }

/-- What the logins come to, one after another. -/
def outcomes (verifyPassword : String → String → Bool) :
    LoginAttempts → List LoginArrival → List LoginOutcome
  | _, [] => []
  | attempts, login :: logins =>
      let result := handleLogin verifyPassword attempts login
      result.outcome :: outcomes verifyPassword result.attempts logins

/-- The answers to the logins of a server that has just started, all with one users table. -/
def responses (verifyPassword : String → String → Bool) (users : UserTable)
    (logins : List LoginArrival) : List LoginOutcome :=
  outcomes verifyPassword (fun _ ↦ none) (logins.map (LoginArrival.withUsers users))

section tables

variable {verifyPassword : String → String → Bool} {users users' : UserTable}
  {attempts : LoginAttempts} {login : LoginArrival}

theorem admittedLogin_of_disabled (h : users.Disabled login.req.username) :
    admittedLogin verifyPassword attempts (login.withUsers users) =
      ⟨attempts, .replied (if login.queryFails then
          .fail .internalServerError "Internal server error"
        else .fail .forbidden "Account disabled"), none⟩ := by
  obtain ⟨user, hfound, hactive⟩ := h
  unfold admittedLogin
  simp only [LoginArrival.withUsers, hfound, hactive, Bool.not_false, if_true]
  split <;> rfl

/-- An unknown username and a wrong password are answered and counted alike. -/
theorem admittedLogin_of_wrong (hwrong : ¬users.Accepts verifyPassword login.req)
    (henabled : ¬users.Disabled login.req.username) :
    ∃ verdict, admittedLogin verifyPassword attempts (login.withUsers users) =
      ⟨if login.queryFails then attempts
          else recordFailedLogin attempts login.req.username login.recordedAt,
        .replied (if login.queryFails then
          .fail .internalServerError "Internal server error"
        else .fail .unauthorized "Invalid credentials"), verdict⟩ := by
  unfold admittedLogin
  by_cases hfails : login.queryFails
  · simp only [LoginArrival.withUsers, hfails, if_true]
    exact ⟨none, rfl⟩
  · cases hfound : users.byUsername login.req.username with
    | none =>
        simp only [LoginArrival.withUsers, hfails, hfound, Bool.false_eq_true, if_false]
        exact ⟨none, rfl⟩
    | some user =>
        have hactive : user.isActive = true := by
          by_contra hinactive
          exact henabled ⟨user, hfound, Bool.not_eq_true _ ▸ hinactive⟩
        have hverify : verifyPassword login.req.password user.passwordHash = false := by
          by_contra hright
          exact hwrong ⟨user, hfound, hactive, Bool.not_eq_false _ ▸ hright⟩
        simp only [LoginArrival.withUsers, hfails, hfound, hactive, hverify, Bool.not_true,
          Bool.not_false, Bool.false_eq_true, if_true, if_false]
        exact ⟨some false, rfl⟩

/-- **One login.** A login that fails with either of two users tables, which agree on whether its
account is disabled, gets the same answer and leaves the same attempts. -/
theorem handleLogin_eq_of_agree (hwrong : ¬users.Accepts verifyPassword login.req)
    (hwrong' : ¬users'.Accepts verifyPassword login.req)
    (hdisabled : users.Disabled login.req.username ↔ users'.Disabled login.req.username) :
    (handleLogin verifyPassword attempts (login.withUsers users)).outcome =
        (handleLogin verifyPassword attempts (login.withUsers users')).outcome ∧
      (handleLogin verifyPassword attempts (login.withUsers users)).attempts =
        (handleLogin verifyPassword attempts (login.withUsers users')).attempts := by
  cases hcheck : (checkLoginThrottle attempts login.req.username login.checkedAt).2 with
  | error msg =>
      have hrefused (users : UserTable) :=
        @handleLogin_of_refused verifyPassword attempts (login.withUsers users) msg hcheck
      rw [hrefused users, hrefused users']
      exact ⟨rfl, rfl⟩
  | ok =>
      have hadmitted (users : UserTable) :=
        @handleLogin_of_admitted verifyPassword attempts (login.withUsers users) hcheck
      rw [hadmitted users, hadmitted users']
      by_cases h : users.Disabled login.req.username
      · rw [admittedLogin_of_disabled h, admittedLogin_of_disabled (hdisabled.mp h)]
        exact ⟨rfl, rfl⟩
      · obtain ⟨_, heq⟩ := @admittedLogin_of_wrong _ _ (checkLoginThrottle attempts
          login.req.username login.checkedAt).1 _ hwrong h
        obtain ⟨_, heq'⟩ := @admittedLogin_of_wrong _ _ (checkLoginThrottle attempts
          login.req.username login.checkedAt).1 _ hwrong' (mt hdisabled.mpr h)
        exact ⟨(congrArg LoginResult.outcome heq).trans (congrArg LoginResult.outcome heq').symm,
          (congrArg LoginResult.attempts heq).trans (congrArg LoginResult.attempts heq').symm⟩

theorem outcomes_eq_of_agree {logins : List LoginArrival}
    (hwrong : ∀ login ∈ logins, ¬users.Accepts verifyPassword login.req)
    (hwrong' : ∀ login ∈ logins, ¬users'.Accepts verifyPassword login.req)
    (hdisabled : ∀ login ∈ logins,
      users.Disabled login.req.username ↔ users'.Disabled login.req.username) :
    outcomes verifyPassword attempts (logins.map (LoginArrival.withUsers users)) =
      outcomes verifyPassword attempts (logins.map (LoginArrival.withUsers users')) := by
  induction logins generalizing attempts with
  | nil => rfl
  | cons login logins ih =>
      obtain ⟨hfirst, hrest⟩ := List.forall_mem_cons.mp hwrong
      obtain ⟨hfirst', hrest'⟩ := List.forall_mem_cons.mp hwrong'
      obtain ⟨hagree, hagrees⟩ := List.forall_mem_cons.mp hdisabled
      obtain ⟨houtcome, hattempts⟩ :=
        @handleLogin_eq_of_agree _ _ _ attempts _ hfirst hfirst' hagree
      simp only [List.map_cons, outcomes, houtcome, hattempts]
      rw [ih hrest hrest' hagrees]

end tables

/-- **Failed logins.** Logins none of which carries the right password of an active account get the
same answers from any two users tables in which the same ones of their usernames are disabled. -/
theorem responses_eq_of_agree (verifyPassword : String → String → Bool) {users users' : UserTable}
    {logins : List LoginArrival}
    (hwrong : ∀ login ∈ logins, ¬users.Accepts verifyPassword login.req)
    (hwrong' : ∀ login ∈ logins, ¬users'.Accepts verifyPassword login.req)
    (hdisabled : ∀ login ∈ logins,
      users.Disabled login.req.username ↔ users'.Disabled login.req.username) :
    responses verifyPassword users logins = responses verifyPassword users' logins :=
  outcomes_eq_of_agree hwrong hwrong' hdisabled

/-- A disabled account, and an active one beside it. -/
def guestDisabled : UserTable where
  rows := [⟨"1", "operator", "secret", "operator", 0, true⟩,
    ⟨"2", "guest", "guest123", "viewer", 0, false⟩]
  uniqueId := by decide
  uniqueUsername := by decide

/-- A disabled account of the same name. -/
def guestAlone : UserTable where
  rows := [⟨"7", "guest", "other", "operator", 0, false⟩]
  uniqueId := by decide
  uniqueUsername := by decide

def guess (username : String) (now : Instant) : LoginArrival :=
  ⟨⟨username, "guess"⟩, .empty, false, now, now⟩

/-- Guesses until the operator is locked out, and some for the disabled account. -/
def manyGuesses : List LoginArrival :=
  (List.range 6).map (guess "operator") ++ (List.range 6).map (guess "guest")

/-- The answers are the same, and there are three different ones. -/
theorem responses_eq_of_agree_manyGuesses :
    responses (fun password hash ↦ password == hash) guestDisabled manyGuesses =
        responses (fun password hash ↦ password == hash) guestAlone manyGuesses ∧
      (responses (fun password hash ↦ password == hash) guestAlone manyGuesses).dedup.length = 3 :=
  ⟨responses_eq_of_agree _ (by decide) (by decide) (by decide), by decide⟩

/-- A disabled account is answered differently from one that is not there. -/
theorem disabled_account_shows :
    ¬ ∀ (verifyPassword : String → String → Bool) (users users' : UserTable)
        (logins : List LoginArrival),
      (∀ login ∈ logins, ¬users.Accepts verifyPassword login.req) →
      (∀ login ∈ logins, ¬users'.Accepts verifyPassword login.req) →
        responses verifyPassword users logins = responses verifyPassword users' logins := by
  intro h
  have hsame := h (fun password hash ↦ password == hash) guestAlone .empty [guess "guest" 0]
    (by decide) (by decide)
  revert hsame
  decide

end VyuhHmi
