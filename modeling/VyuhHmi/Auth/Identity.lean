import VyuhHmi.Auth.Access

/-!
# Whose token it is

A token carries the id, the name and the role that the users table had at the login.  No handler
changes a row of the table, so what a token says of its account stays true, and a request that has
passed a token check acts for an account of the table that was allowed to do so.
-/

namespace VyuhHmi

variable {jwt : Jwt}

/-- The claims are those of an active account. -/
structure User.Holds (user : User) (claims : Claims) : Prop where
  active : user.isActive
  userId : claims.userId = user.id
  username : claims.sub = user.username
  role : claims.role = user.role

def Backed (rows : List User) (claims : Claims) : Prop := ∃ user ∈ rows, user.Holds claims

theorem Backed.mono {rows rows' : List User} {claims : Claims} (hsub : rows ⊆ rows')
    (h : Backed rows claims) : Backed rows' claims := by
  obtain ⟨user, hmem, hholds⟩ := h
  exact ⟨user, hsub hmem, hholds⟩

/-- A route passes on the claims it has checked, if it permits their role. -/
theorem permits_of_authorise {route : TokenRoute} {claims claims' : Claims}
    (h : route.check.authorise claims = .passed claims') :
    claims' = claims ∧ route.Permits claims.role := by
  have hpermits : route.Permits claims.role := by
    rw [← isAccepted_authorise_iff, h]
    rfl
  refine ⟨?_, hpermits⟩
  unfold TokenCheck.authorise at h
  cases route with
  | verifyTokenHandler => cases h
  | authMiddleware =>
      cases h
      rfl
  | requireOperator | requireAdmin =>
      split at h
      case h_1 role error hrequired =>
          split at h
          case isTrue =>
              cases h
              rfl
          case isFalse => cases h
      case h_2 =>
          cases h
          rfl

namespace AuthRuntime

variable {foreign : String → Prop} {verifyPassword : String → String → Bool}
  {s t : AuthRuntime jwt} {i : ℕ} {request : AuthRequest jwt}

/-- What the handlers know of accounts: whose password has been checked and whom a request that has
passed its check acts for. -/
def KnownPhase (rows : List User) (call : AuthCall) : AuthPhase jwt → Prop
  | .clearing user => user ∈ rows ∧ user.isActive
  | .done (.passed claims) => Backed rows claims ∧
      ∀ route headers, call = .checkToken route headers → route.Permits claims.role
  | _ => True

/-- **Identities.** Every token is that of an account, and so is every request that has passed. -/
structure Identified (s : AuthRuntime jwt) : Prop where
  signed : ∀ issued ∈ s.signed, Backed s.users.rows issued.claims
  phase : ∀ (i : ℕ) request, s.requests[i]? = some request →
    KnownPhase s.users.rows request.call request.phase

theorem KnownPhase.mono {rows rows' : List User} (hsub : rows ⊆ rows') {call : AuthCall}
    {phase : AuthPhase jwt} (h : KnownPhase rows call phase) : KnownPhase rows' call phase := by
  unfold KnownPhase at h ⊢
  split at h
  case h_1 => exact ⟨hsub h.1, h.2⟩
  case h_2 => exact ⟨h.1.mono hsub, h.2⟩
  case h_3 => trivial

/-- Accounts are added. -/
theorem Identified.addUsers (h : s.Identified) {users : UserTable}
    (hsub : s.users.rows ⊆ users.rows) : Identified { s with users := users } where
  signed := fun issued hmem ↦ (h.signed issued hmem).mono hsub
  phase := fun i request hrequest ↦ (h.phase i request hrequest).mono hsub

/-- A step that rewrites one request. -/
theorem Identified.move (h : s.Identified) (hrequest : s.requests[i]? = some request)
    {phase : AuthPhase jwt} (hphase : KnownPhase s.users.rows request.call phase)
    (husers : t.users = s.users) (hsigned : t.signed = s.signed)
    (hrequests : t.requests = (s.setPhase i phase).requests) : t.Identified where
  signed := by
    rw [husers, hsigned]
    exact h.signed
  phase := by
    rw [husers, hrequests]
    refine ListUpdate.forall_modify (fun j other _ ↦ h.phase j other) fun other hother ↦ ?_
    obtain rfl := Option.some.inj (hrequest.symm.trans hother)
    exact hphase

theorem identified_login (h : s.Identified) {req : LoginRequest} {phase : AuthPhase jwt}
    (hrequest : s.requests[i]? = some ⟨.login req, phase⟩)
    (hstep : s.login i verifyPassword req phase = some t) : t.Identified ∧ t.users = s.users := by
  unfold login at hstep
  split at hstep
  case h_1 =>
      cases hstep
      refine ⟨h.move hrequest ?_ rfl rfl rfl, rfl⟩
      split <;> trivial
  case h_2 =>
      cases hstep
      refine ⟨h.move hrequest ?_ rfl rfl rfl, rfl⟩
      split
      case h_1 user huser =>
          split
          case isTrue hactive =>
              split
              case isTrue => exact ⟨List.mem_of_find?_eq_some huser, hactive⟩
              case isFalse => trivial
          case isFalse => trivial
      case h_2 => trivial
  case h_3 | h_4 | h_5 =>
      cases hstep
      exact ⟨h.move hrequest (by trivial) rfl rfl rfl, rfl⟩
  case h_6 => cases hstep

theorem identified_logout (h : s.Identified) {headers : Headers} {phase : AuthPhase jwt}
    (hrequest : s.requests[i]? = some ⟨.logout headers, phase⟩)
    (hstep : s.logout i headers phase = some t) : t.Identified ∧ t.users = s.users := by
  unfold logout at hstep
  split at hstep
  case h_1 =>
      cases hstep
      refine ⟨h.move hrequest ?_ rfl rfl rfl, rfl⟩
      repeat' split
      all_goals trivial
  case h_2 | h_3 =>
      cases hstep
      exact ⟨h.move hrequest (by trivial) rfl rfl rfl, rfl⟩
  case h_4 => cases hstep

/-- The claims of an open session are those of an account. -/
theorem Identified.backed_of_session (hjwt : jwt.Lawful) (htracked : s.Tracked foreign)
    (h : s.Identified) {token sessionId : String} {now : Instant} {claims : Claims}
    (hunforgeable : s.Unforgeable foreign token) (hclaims : validateToken jwt now token = .ok claims)
    (hsession : claims.sessionId = some sessionId)
    (hvalid : isSessionValid s.sessions sessionId s.now) : Backed s.users.rows claims := by
  obtain ⟨issued, rfl, rfl, horigin⟩ := hunforgeable.claims hjwt hclaims
  obtain rfl : issued.sessionId = sessionId := Option.some.inj hsession
  obtain ⟨other, hopen, hsame, -⟩ := (isSessionValid_iff htracked _).mp hvalid
  have hother := hopen.mem_signed htracked
  rcases horigin with hsigned | hforeign
  · exact h.signed issued hsigned
  · rw [← hsame] at hforeign
    exact absurd hforeign (htracked.fresh other hother)

theorem identified_checkToken (hjwt : jwt.Lawful) (htracked : s.Tracked foreign) (h : s.Identified)
    {route : TokenRoute} {headers : Headers} {phase : AuthPhase jwt}
    (hrequest : s.requests[i]? = some ⟨.checkToken route headers, phase⟩)
    (hstep : s.checkToken i route.check headers phase = some t) :
    t.Identified ∧ t.users = s.users := by
  have hpresented := htracked.presented i _ hrequest
  have hchecked := htracked.phase i _ hrequest
  unfold checkToken at hstep
  split at hstep
  case h_1 =>
      cases hstep
      refine ⟨h.move hrequest ?_ rfl rfl rfl, rfl⟩
      split
      case h_1 token htoken =>
          split
          case h_1 claims hclaims =>
              -- the token has a session id: it was made by `create_token`
              obtain ⟨issued, -, rfl, -⟩ := (hpresented token htoken).claims hjwt hclaims
              trivial
          case h_2 => trivial
      case h_2 => trivial
  case h_2 claims sessionId =>
      cases hstep
      refine ⟨h.move hrequest ?_ rfl rfl rfl, rfl⟩
      split
      case isTrue hvalid =>
          obtain ⟨hsession, hpast⟩ := hchecked
          obtain ⟨token, now, htoken, hclaims⟩ := hpast route headers rfl
          have hbacked := h.backed_of_session hjwt htracked (hpresented token htoken) hclaims
            hsession hvalid
          cases houtcome : route.check.authorise claims with
          | passed claims' =>
              obtain ⟨rfl, hpermits⟩ := permits_of_authorise houtcome
              refine ⟨hbacked, fun route' headers' heq ↦ ?_⟩
              obtain ⟨rfl, -⟩ := AuthCall.checkToken.inj heq
              exact hpermits
          | replied reply => trivial
          | dropped => trivial
      case isFalse => trivial
  case h_3 => cases hstep

theorem identified_issueToken (h : s.Identified) {sessionId : String}
    (hstep : s.issueToken i sessionId = some t) : t.Identified ∧ t.users = s.users := by
  obtain ⟨⟨call, phase⟩, hrequest, hissue⟩ := Option.bind_eq_some_iff.mp hstep
  split at hissue
  case h_1 req user hcall hphase =>
      obtain rfl : call = .login req := hcall
      obtain rfl : phase = .clearing user := hphase
      obtain ⟨hmem, hactive⟩ := h.phase i _ hrequest
      split at hissue
      case h_1 =>
          cases hissue
          refine ⟨⟨?_, ?_⟩, rfl⟩
          · intro issued hissued
            rcases List.mem_append.mp hissued with hold | hnew
            · exact h.signed issued hold
            · obtain rfl := List.mem_singleton.mp hnew
              exact ⟨user, hmem, hactive, rfl, rfl, rfl⟩
          · exact ListUpdate.forall_modify (fun j other _ ↦ h.phase j other) fun other _ ↦ trivial
      case h_2 =>
          cases hissue
          exact ⟨h.move hrequest (by trivial) rfl rfl rfl, rfl⟩
  case h_2 => cases hissue

/-- The step replaces the users table. -/
def Label.isSetUsers : Label → Bool
  | .setUsers _ => true
  | _ => false

/-- **Step lemma.** -/
theorem identified_step (hjwt : jwt.Lawful) (htracked : s.Tracked foreign) (h : s.Identified)
    {label : Label} (hlabel : label.isSetUsers = false)
    (hstep : step verifyPassword s label = some t) : t.Identified ∧ t.users = s.users := by
  cases label with
  | tick now =>
      simp only [step] at hstep
      split at hstep
      case isTrue =>
          cases hstep
          exact ⟨⟨h.signed, h.phase⟩, rfl⟩
      case isFalse => cases hstep
  | setUsers users => cases hlabel
  | arrive call =>
      cases hstep
      exact ⟨⟨h.signed, ListUpdate.forall_append_singleton h.phase trivial⟩, rfl⟩
  | advance i =>
      obtain ⟨⟨call, phase⟩, hrequest, hadvance⟩ := Option.bind_eq_some_iff.mp hstep
      cases call with
      | login req => exact identified_login h hrequest hadvance
      | logout headers => exact identified_logout h hrequest hadvance
      | checkToken route headers =>
          exact identified_checkToken hjwt htracked h hrequest hadvance
  | failQuery i =>
      obtain ⟨request, hrequest, hfail⟩ := Option.bind_eq_some_iff.mp hstep
      split at hfail
      case h_1 =>
          cases hfail
          exact ⟨h.move hrequest (by trivial) rfl rfl rfl, rfl⟩
      case h_2 => cases hfail
  | issueToken i sessionId => exact identified_issueToken h hstep
  | cancel i =>
      obtain ⟨request, hrequest, hcancel⟩ := Option.bind_eq_some_iff.mp hstep
      split at hcancel
      case h_1 => cases hcancel
      case h_2 =>
          cases hcancel
          exact ⟨h.move hrequest (by trivial) rfl rfl rfl, rfl⟩

theorem identified_init (now : Instant) (users : UserTable) (auditTrail : AuditTable) :
    (init jwt now users auditTrail).Identified where
  signed := fun _ h ↦ by cases h
  phase := fun _ _ h ↦ by cases h

end AuthRuntime

end VyuhHmi
