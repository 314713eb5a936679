import VyuhHmi.Auth.LoginAlone

/-!
# How long a username stays locked

The fifth failure locks a username, but the lockout is measured from the first of the failures that
are counted.  A login that comes later than 900 seconds after the first failure is let through,
however recent the fifth is.
-/

namespace VyuhHmi

/-- This failed login brings the count of its username to the maximum. -/
def LocksUsername (verifyPassword : String → String → Bool) (before : List LoginArrival)
    (login : LoginArrival) : Prop :=
  failedCount (attemptsAfter verifyPassword before) login.req.username < maxLoginAttempts.toNat ∧
    failedCount (attemptsAfter verifyPassword (before ++ [login])) login.req.username =
      maxLoginAttempts.toNat

/-- The login is answered with 429, and no password is verified. -/
def RefusedLogin (verifyPassword : String → String → Bool) (before : List LoginArrival)
    (login : LoginArrival) : Prop :=
  let result := handleLogin verifyPassword (attemptsAfter verifyPassword before) login
  (∃ msg, result.outcome = .replied (.fail .tooManyRequests msg)) ∧ result.verdict = none

/-- The lockout has not passed, counted from this time. -/
def withinLockout (since now : Instant) : Prop :=
  now < since + lockoutDurationSecs * nanosPerSecond

/-- The logins of a username within 900 seconds of the failure that locked it are refused. -/
def LocksOut (verifyPassword : String → String → Bool) (logins : List LoginArrival) : Prop :=
  ∀ before failing between next, before ++ [failing] ++ between ++ [next] <+: logins →
    LocksUsername verifyPassword before failing → next.req.username = failing.req.username →
      withinLockout failing.recordedAt next.checkedAt →
        RefusedLogin verifyPassword (before ++ [failing] ++ between) next

/-- The logins of a username within 900 seconds of the failure that locked it also come within 900
seconds of the first failure, whose time is the one on record. -/
def LockoutsInTime (verifyPassword : String → String → Bool) (logins : List LoginArrival) : Prop :=
  ∀ before failing between next, before ++ [failing] ++ between ++ [next] <+: logins →
    LocksUsername verifyPassword before failing → next.req.username = failing.req.username →
      withinLockout failing.recordedAt next.checkedAt →
        ∀ count firstFailure, attemptsAfter verifyPassword (before ++ [failing])
            failing.req.username = some (count, firstFailure) →
          withinLockout firstFailure next.checkedAt

variable {verifyPassword : String → String → Bool} {attempts : LoginAttempts} {login : LoginArrival}
  {username : String} {count : UInt32} {firstFailure now : Instant}

/-! ## Refusals -/

theorem elapsedSecs_lt_iff :
    elapsedSecs firstFailure now < lockoutDurationSecs ↔ withinLockout firstFailure now := by
  have hpos : 0 < nanosPerSecond := by decide
  have hduration : 0 < lockoutDurationSecs * nanosPerSecond := by decide
  rw [elapsedSecs, withinLockout, Nat.div_lt_iff_lt_mul hpos]
  rcases Nat.le_total firstFailure now with hle | hle
  · exact Nat.sub_lt_iff_lt_add' hle
  · rw [Nat.sub_eq_zero_of_le hle]
    exact iff_of_true hduration (hle.trans_lt (Nat.lt_add_of_pos_right hduration))

/-- A username at the limit is refused while its lockout lasts. -/
theorem checkLoginThrottle_refuses_iff (hentry : attempts username = some (count, firstFailure))
    (hlimit : maxLoginAttempts ≤ count) :
    (∃ msg, (checkLoginThrottle attempts username now).2 = .error msg) ↔
      withinLockout firstFailure now := by
  rw [← elapsedSecs_lt_iff, checkLoginThrottle, hentry]
  simp only [hlimit, if_true]
  split
  case isTrue h => exact iff_of_true ⟨_, rfl⟩ h
  case isFalse h => exact iff_of_false (fun ⟨_, hmsg⟩ ↦ by cases hmsg) h

theorem admittedLogin_ne_refused (msg : String) :
    (admittedLogin verifyPassword attempts login).outcome ≠
      .replied (.fail .tooManyRequests msg) := by
  unfold admittedLogin
  dsimp only
  split
  case isTrue => simp [AuthReply.fail]
  case isFalse =>
      cases login.users.byUsername login.req.username with
      | none => simp [AuthReply.fail]
      | some user =>
          dsimp only
          split
          case isTrue => simp [AuthReply.fail]
          case isFalse => split <;> simp [AuthReply.fail]

theorem refusedLogin_iff {before : List LoginArrival} :
    RefusedLogin verifyPassword before login ↔
      ∃ msg, (checkLoginThrottle (attemptsAfter verifyPassword before) login.req.username
        login.checkedAt).2 = .error msg := by
  unfold RefusedLogin
  constructor
  · rintro ⟨⟨msg, hmsg⟩, -⟩
    cases hcheck : (checkLoginThrottle (attemptsAfter verifyPassword before) login.req.username
        login.checkedAt).2 with
    | error msg => exact ⟨msg, rfl⟩
    | ok =>
        rw [handleLogin_of_admitted hcheck] at hmsg
        exact absurd hmsg (admittedLogin_ne_refused msg)
  · rintro ⟨msg, hcheck⟩
    rw [handleLogin_of_refused hcheck]
    exact ⟨⟨msg, rfl⟩, rfl⟩

/-- A refused login changes nothing. -/
theorem attemptsAfter_of_refused {before : List LoginArrival}
    (h : RefusedLogin verifyPassword before login) :
    attemptsAfter verifyPassword (before ++ [login]) = attemptsAfter verifyPassword before := by
  obtain ⟨msg, hcheck⟩ := refusedLogin_iff.mp h
  rw [attemptsAfter_append_singleton, handleLogin_of_refused hcheck]

/-- The entry of a username stays while all its logins are refused. -/
theorem attemptsAfter_kept {before between : List LoginArrival}
    (h : ∀ earlier login, earlier ++ [login] <+: between → login.req.username = username →
      RefusedLogin verifyPassword (before ++ earlier) login) :
    attemptsAfter verifyPassword (before ++ between) username =
      attemptsAfter verifyPassword before username := by
  induction between using List.reverseRecOn with
  | nil => rw [List.append_nil]
  | append_singleton between login ih =>
      have hbefore := ih fun earlier login hpre ↦
        h earlier login (hpre.trans (List.prefix_append _ _))
      rw [← List.append_assoc, ← hbefore]
      by_cases hname : login.req.username = username
      · rw [attemptsAfter_of_refused (h between login List.prefix_rfl hname)]
      · rw [attemptsAfter_append_singleton]
        exact handleLogin_attempts_of_ne (Ne.symm hname)

/-- The entry that the fifth failure leaves. -/
theorem LocksUsername.entry {before : List LoginArrival}
    (h : LocksUsername verifyPassword before login) :
    ∃ firstFailure, attemptsAfter verifyPassword (before ++ [login]) login.req.username =
      some (maxLoginAttempts, firstFailure) := by
  have hcount := h.2
  unfold failedCount at hcount
  split at hcount
  case h_1 count firstFailure hentry =>
      obtain rfl := UInt32.toNat_inj.mp hcount
      exact ⟨firstFailure, hentry⟩
  case h_2 => cases hcount

/-! ## Sequences of logins -/

/-- A login comes no later than the ones after it. -/
theorem InTurn.checkedAt_le {logins earlier : List LoginArrival} {next : LoginArrival}
    (hturn : InTurn logins) (hpre : earlier ++ [next] <+: logins) (hmem : login ∈ earlier) :
    login.checkedAt ≤ next.checkedAt := by
  have hpairs := hturn.2.sublist hpre.sublist
  calc
    login.checkedAt ≤ login.recordedAt :=
      hturn.1 login (hpre.subset (List.mem_append_left _ hmem))
    _ ≤ next.checkedAt :=
      (List.pairwise_append.mp hpairs).2.2 login hmem next (List.mem_singleton_self next)

/-- With the entry of the fifth failure still there, a login is refused as long as the first failure
is recent. -/
theorem refusedLogin_of_entry_iff {before : List LoginArrival}
    (hentry : attemptsAfter verifyPassword before login.req.username =
      some (maxLoginAttempts, firstFailure)) :
    RefusedLogin verifyPassword before login ↔ withinLockout firstFailure login.checkedAt := by
  rw [refusedLogin_iff, checkLoginThrottle_refuses_iff hentry (UInt32.le_refl _)]

/-- **Lockout.** In a sequence of logins, one after another, a locked username is refused for 900
seconds from the fifth failure exactly when all its logins in that time come within 900 seconds of
the first failure. -/
theorem locksOut_iff {logins : List LoginArrival} (hturn : InTurn logins) :
    LocksOut verifyPassword logins ↔ LockoutsInTime verifyPassword logins := by
  -- a login between the failure and `next` is within the lockout if `next` is
  have hbetween {before between : List LoginArrival} {failing next : LoginArrival}
      (hpre : before ++ [failing] ++ between ++ [next] <+: logins)
      (hwithin : withinLockout failing.recordedAt next.checkedAt)
      {earlier : List LoginArrival} {login : LoginArrival}
      (hearlier : earlier ++ [login] <+: between) :
      before ++ [failing] ++ earlier ++ [login] <+: logins ∧
        withinLockout failing.recordedAt login.checkedAt := by
    constructor
    · rw [List.append_assoc]
      exact ((List.prefix_append_right_inj _).mpr hearlier).trans
        ((List.prefix_append _ [next]).trans hpre)
    · have hmem : login ∈ before ++ [failing] ++ between :=
        List.mem_append_right _ (hearlier.subset (by simp))
      exact (hturn.checkedAt_le hpre hmem).trans_lt hwithin
  constructor
  · intro hlocks before failing between next hpre hlock hname hwithin count firstFailure hentry
    have hkept : attemptsAfter verifyPassword (before ++ [failing] ++ between) failing.req.username =
        attemptsAfter verifyPassword (before ++ [failing]) failing.req.username := by
      refine attemptsAfter_kept fun earlier login hearlier hlogin ↦ ?_
      obtain ⟨hpre', hwithin'⟩ := hbetween hpre hwithin hearlier
      exact hlocks before failing earlier login hpre' hlock hlogin hwithin'
    have hrefused := hlocks before failing between next hpre hlock hname hwithin
    obtain ⟨firstFailure', hentry'⟩ := hlock.entry
    obtain ⟨rfl, rfl⟩ := Prod.mk.inj (Option.some.inj (hentry'.symm.trans hentry))
    rw [← hname] at hkept hentry
    exact (refusedLogin_of_entry_iff (hkept.trans hentry)).mp hrefused
  · intro htimes before failing between next hpre hlock hname hwithin
    obtain ⟨firstFailure, hentry⟩ := hlock.entry
    have hkept : ∀ earlier, earlier <+: between →
        attemptsAfter verifyPassword (before ++ [failing] ++ earlier) failing.req.username =
          some (maxLoginAttempts, firstFailure) := by
      intro earlier hearlier
      induction earlier using List.reverseRecOn with
      | nil =>
          rw [List.append_nil]
          exact hentry
      | append_singleton earlier login ih =>
          have hold := ih ((List.prefix_append _ _).trans hearlier)
          rw [← List.append_assoc, ← hold]
          by_cases hlogin : login.req.username = failing.req.username
          · obtain ⟨hpre', hwithin'⟩ := hbetween hpre hwithin hearlier
            have hfirst :=
              htimes before failing earlier login hpre' hlock hlogin hwithin' _ _ hentry
            rw [← hlogin] at hold
            rw [attemptsAfter_of_refused ((refusedLogin_of_entry_iff hold).mpr hfirst)]
          · rw [attemptsAfter_append_singleton]
            exact handleLogin_attempts_of_ne (Ne.symm hlogin)
    have hfirst := htimes before failing between next hpre hlock hname hwithin _ _ hentry
    have hbefore := hkept between List.prefix_rfl
    rw [← hname] at hbefore
    exact (refusedLogin_of_entry_iff hbefore).mpr hfirst

/-- A login at a time, with a wrong password. -/
def wrongLogin (now : Instant) : LoginArrival :=
  ⟨⟨"operator", "guess"⟩, operatorOnly, false, now, now⟩

/-- Five failures, spread over more than fifteen minutes, and one more guess at once. -/
def slowGuesses : List LoginArrival :=
  [wrongLogin 0, wrongLogin (300 * nanosPerSecond), wrongLogin (600 * nanosPerSecond),
    wrongLogin (900 * nanosPerSecond), wrongLogin (1000 * nanosPerSecond),
    wrongLogin (1000 * nanosPerSecond)]

/-- The same failures within fifteen minutes, and one more guess. -/
def quickGuesses : List LoginArrival :=
  [wrongLogin 0, wrongLogin 1, wrongLogin 2, wrongLogin 3, wrongLogin 4, wrongLogin 5]

theorem locksOut_iff_quickGuesses :
    LocksOut (fun password hash ↦ password == hash) quickGuesses ↔
      LockoutsInTime (fun password hash ↦ password == hash) quickGuesses :=
  locksOut_iff (by decide)

theorem slowGuesses_not_locked :
    ¬ ∀ (verifyPassword : String → String → Bool) (logins : List LoginArrival),
        InTurn logins → LocksOut verifyPassword logins := by
  intro h
  have hrefused := h (fun password hash ↦ password == hash) slowGuesses (by decide)
    (slowGuesses.take 4) (wrongLogin (1000 * nanosPerSecond)) []
    (wrongLogin (1000 * nanosPerSecond)) List.prefix_rfl ⟨by decide, by decide⟩ rfl (by
      unfold withinLockout
      decide)
  have hverdict : (handleLogin (fun password hash ↦ password == hash)
      (attemptsAfter (fun password hash ↦ password == hash)
        (slowGuesses.take 4 ++ [wrongLogin (1000 * nanosPerSecond)] ++ []))
      (wrongLogin (1000 * nanosPerSecond))).verdict = some false := by decide
  rw [hrefused.2] at hverdict
  cases hverdict

end VyuhHmi
